/-
The bus of the clock chip, bit by bit: `iic.c`, and the register accesses of `rx8010s.c` over it.

The lines are open drain, as the bus wants them. `IIC_Read_Byte` gives its acknowledge with the clock still high, so the
chip sees a start there after an odd byte; the stop after it ends both.
- `sendByte_spec`, `waitAck_spec`, `readByte_spec`: what each routine does to the chip;
- `readOneByte_spec`, `writeOneByte_spec`: one register access;
- `accesses_refine`: any accesses over the wires are accesses to a file of registers, and leave the bus idle.
-/
import DataConcentrator.Lib.I2c

namespace DataConcentrator.Clock

open I2c

/-! ## The routines of `iic.c` -/

/-- the bus, the output bit of the data pin and its direction -/
structure Iic where
  bus : Bus
  odr : Bool
  out : Bool

/-- `IIC_SCL_H` and `IIC_SCL_L` -/
def Iic.scl (s : Iic) (high : Bool) : Iic := { s with bus := s.bus.setScl high }

/-- `IIC_SDA_H` and `IIC_SDA_L`; an input pin lets the line go -/
def Iic.sda (s : Iic) (high : Bool) : Iic :=
  { s with odr := high, bus := if s.out then s.bus.setSda high else s.bus }

def iicSdaOut (s : Iic) : Iic := { s with out := true, bus := s.bus.setSda s.odr }

def iicSdaIn (s : Iic) : Iic := { s with out := false, bus := s.bus.setSda true }

def iicStart (s : Iic) : Iic :=
  let s := iicSdaOut s
  let s := s.scl true
  let s := s.sda true
  let s := s.sda false
  s.scl false

def iicStop (s : Iic) : Iic :=
  let s := s.scl false
  let s := iicSdaOut s
  let s := s.sda false
  let s := s.scl true
  s.sda true

/-- `while(IIC_SDA_IN == 1)`, with the rounds that are left -/
def ackLoop (s : Iic) : ℕ → UInt8 × Iic
  | 0 => (1, iicStop s)
  | n + 1 => if s.bus.line then ackLoop s n else (0, s.scl false)

def iicWaitAck (s : Iic) : UInt8 × Iic :=
  let s := s.scl false
  let s := iicSdaIn s
  let s := s.scl true
  let s := s.sda true
  ackLoop s 201

def iicAck (s : Iic) : Iic :=
  let s := iicSdaOut s
  let s := s.scl true
  let s := s.sda false
  s.scl false

def iicNAck (s : Iic) : Iic :=
  let s := iicSdaOut s
  let s := s.scl true
  let s := s.sda true
  s.scl false

/-- one round of `IIC_Read_Byte`, on `reseive` and the bus -/
def readBit (r : UInt8 × Iic) : UInt8 × Iic :=
  let s := r.2.scl false
  let s := s.scl true
  (shift r.1 s.bus.line, s)

def readBits : ℕ → UInt8 × Iic → UInt8 × Iic
  | 0, r => r
  | n + 1, r => readBit (readBits n r)

def iicReadByte (ack : Bool) (s : Iic) : UInt8 × Iic :=
  let r := readBits 8 (0, iicSdaIn s)
  (r.1, if ack then iicAck r.2 else iicNAck r.2)

/-- one round of `IIC_Send_Byte`, on `txd` and the bus -/
def sendBit (r : UInt8 × Iic) : UInt8 × Iic :=
  let s := r.2.scl false
  let s := if r.1 &&& 0x80 = 0x80 then s.sda true else s.sda false
  let s := s.scl true
  (r.1 <<< 1, s)

def sendBits : ℕ → UInt8 × Iic → UInt8 × Iic
  | 0, r => r
  | n + 1, r => sendBit (sendBits n r)

def iicSendByte (txd : UInt8) (s : Iic) : Iic := (sendBits 8 (txd, iicSdaOut s)).2

/-! ## The register accesses of `rx8010s.c` -/

def RX8010_Write_Address : UInt8 := 0x64
def RX8010_Read_Address : UInt8 := 0x65

/-- the results of `IIC_Wait_Ack` are not looked at -/
def readOneByte (readAddr : UInt8) (s : Iic) : UInt8 × Iic :=
  let s := iicStart s
  let s := iicSendByte RX8010_Write_Address s
  let s := (iicWaitAck s).2
  let s := iicSendByte readAddr s
  let s := (iicWaitAck s).2
  let s := iicStart s
  let s := iicSendByte RX8010_Read_Address s
  let s := (iicWaitAck s).2
  let r := iicReadByte true s
  (r.1, iicStop r.2)

def writeOneByte (writeAddr data : UInt8) (s : Iic) : Iic :=
  let s := iicStart s
  let s := iicSendByte RX8010_Write_Address s
  let s := (iicWaitAck s).2
  let s := iicSendByte writeAddr s
  let s := (iicWaitAck s).2
  let s := iicSendByte data s
  let s := (iicWaitAck s).2
  iicStop s

section Pins

variable (b : Bus) (odr out high : Bool)

@[simp]
theorem scl_mk : Iic.scl ⟨b, odr, out⟩ high = ⟨b.setScl high, odr, out⟩ := rfl

@[simp]
theorem sda_output : Iic.sda ⟨b, odr, true⟩ high = ⟨b.setSda high, high, true⟩ := rfl

@[simp]
theorem sda_input : Iic.sda ⟨b, odr, false⟩ high = ⟨b, high, false⟩ := rfl

@[simp]
theorem sdaOut_mk : iicSdaOut ⟨b, odr, out⟩ = ⟨b.setSda odr, odr, true⟩ := rfl

@[simp]
theorem sdaIn_mk : iicSdaIn ⟨b, odr, out⟩ = ⟨b.setSda true, odr, false⟩ := rfl

end Pins

/-! ## A byte to the chip -/

/-- the chip has let the line go and takes the bits of a byte -/
def receiving (c : Chip) (kind : Kind) (n : ℕ) (acc : UInt8) : Chip :=
  { c with phase := .receive kind n acc, release := true }

/-- `txd` after so many rounds -/
def shifted (txd : UInt8) : ℕ → UInt8
  | 0 => txd
  | n + 1 => shifted txd n <<< 1

theorem msb_shifted_ofNat : ∀ b < 256, ∀ n < 8,
    (shifted (UInt8.ofNat b) n &&& 0x80 = 0x80) = (bitAt (UInt8.ofNat b) n = true) := by
  decide +kernel

theorem msb_shifted (txd : UInt8) {n : ℕ} (hn : n < 8) :
    (shifted txd n &&& 0x80 = 0x80) = (bitAt txd n = true) := by
  have h := msb_shifted_ofNat txd.toNat txd.toNat_lt n hn
  rwa [UInt8.ofNat_toNat] at h

section Send

variable (c : Chip) (kind : Kind)

@[simp]
theorem release_receiving (n : ℕ) (acc : UInt8) : (receiving c kind n acc).release = true := rfl

theorem fall_receiving {n : ℕ} (hn : n < 8) (acc : UInt8) : (receiving c kind n acc).fall = receiving c kind n acc :=
  if_pos hn

theorem rise_receiving {n : ℕ} (hn : n < 8) (acc : UInt8) (bit : Bool) :
    (receiving c kind n acc).rise bit = receiving c kind (n + 1) (shift acc bit) :=
  if_pos hn

/-- one bit, once the clock is low -/
theorem sendBit_low {n : ℕ} (hn : n < 8) (txd acc : UInt8) (odr : Bool) :
    sendBit (shifted txd n, ⟨⟨false, odr, receiving c kind n acc⟩, odr, true⟩) = (shifted txd (n + 1),
      ⟨⟨true, bitAt txd n, receiving c kind (n + 1) (shift acc (bitAt txd n))⟩, bitAt txd n, true⟩) := by
  rw [sendBit]
  simp only [scl_mk, setScl_same, msb_shifted txd hn]
  cases bitAt txd n <;> simp [rise_receiving c kind hn, shifted]

theorem sendBits_spec (txd : UInt8) (odr : Bool) (n : ℕ) (hn : n < 8) :
    sendBits (n + 1) (txd, ⟨⟨false, odr, receiving c kind 0 0⟩, odr, true⟩) = (shifted txd (n + 1),
      ⟨⟨true, bitAt txd n, receiving c kind (n + 1) (shiftIn txd (n + 1))⟩, bitAt txd n, true⟩) := by
  induction n with
  | zero => exact sendBit_low c kind hn txd 0 odr
  | succ n ih =>
    -- the clock falls first, and the chip takes no notice
    have hfall : sendBit (shifted txd (n + 1),
        ⟨⟨true, bitAt txd n, receiving c kind (n + 1) (shiftIn txd (n + 1))⟩, bitAt txd n, true⟩) =
        sendBit (shifted txd (n + 1),
          ⟨⟨false, bitAt txd n, receiving c kind (n + 1) (shiftIn txd (n + 1))⟩, bitAt txd n, true⟩) := by
      simp only [sendBit, scl_mk, setScl_low, setScl_same, fall_receiving c kind hn]
    rw [sendBits, ih (Nat.lt_of_succ_lt hn), hfall, sendBit_low c kind hn]
    rfl

/-- **A byte goes to the chip.** -/
theorem sendByte_spec (txd : UInt8) (odr out : Bool) :
    iicSendByte txd ⟨⟨false, !out || odr, receiving c kind 0 0⟩, odr, out⟩ =
      ⟨⟨true, bitAt txd 7, receiving c kind 8 txd⟩, bitAt txd 7, true⟩ := by
  have hbits := sendBits_spec c kind txd odr 7 (by decide)
  rw [shiftIn_eq] at hbits
  rw [iicSendByte, sdaOut_mk, setSda_low, hbits]

/-- the chip answers to its two addresses, and to every byte after them -/
def Answers (kind : Kind) (byte : UInt8) : Prop := kind = .address → byte = c.address ∨ byte = c.address + 1

theorem fall_answers {byte : UInt8} (h : Answers c kind byte) :
    (receiving c kind 8 byte).fall = { c with phase := .acknowledge kind byte, release := false } := by
  have hmine : ¬ (kind = .address ∧ byte ≠ c.address ∧ byte ≠ c.address + 1) := by
    rintro ⟨hkind, hwrite, hread⟩
    rcases h hkind with h | h
    · exact hwrite h
    · exact hread h
  show (if 8 < 8 then receiving c kind 8 byte
    else if kind = .address ∧ byte ≠ c.address ∧ byte ≠ c.address + 1 then { receiving c kind 8 byte with phase := .idle }
    else { receiving c kind 8 byte with phase := .acknowledge kind byte, release := false }) = _
  rw [if_neg (Nat.lt_irrefl 8), if_neg hmine]
  rfl

/-- what the chip makes of a byte does not depend on how it came -/
theorem take_acknowledged (byte byte' : UInt8) (kind' : Kind) :
    ({ c with phase := .acknowledge kind' byte', release := false } : Chip).take kind byte = c.take kind byte := by
  cases kind with
  | address =>
    rw [Chip.take, Chip.take]
    split_ifs <;> rfl
  | pointer => rfl
  | data => rfl

theorem ackLoop_low {s : Iic} (h : s.bus.line = false) (n : ℕ) : ackLoop s (n + 1) = (0, s.scl false) := by
  rw [ackLoop, h]
  rfl

/-- **The acknowledge**: the line is low at the first look, and the chip has taken the byte. -/
theorem waitAck_spec {byte : UInt8} (h : Answers c kind byte) (odr : Bool) :
    iicWaitAck ⟨⟨true, odr, receiving c kind 8 byte⟩, odr, true⟩ = (0, ⟨⟨false, true, c.take kind byte⟩, true, false⟩) := by
  have hrise : ∀ bit, ({ c with phase := .acknowledge kind byte, release := false } : Chip).rise bit =
      { c with phase := .acknowledge kind byte, release := false } := fun _ => rfl
  have hfall : ({ c with phase := .acknowledge kind byte, release := false } : Chip).fall = c.take kind byte :=
    take_acknowledged c kind byte byte kind
  rw [iicWaitAck]
  simp only [scl_mk, setScl_low, sdaIn_mk, setSda_low, setScl_high, sda_input, fall_answers c kind h, hrise]
  rw [ackLoop_low rfl, scl_mk, setScl_low, hfall]

/-- a byte and its acknowledge -/
theorem sendAck_spec {byte : UInt8} (h : Answers c kind byte) (odr out : Bool) :
    (iicWaitAck (iicSendByte byte ⟨⟨false, !out || odr, receiving c kind 0 0⟩, odr, out⟩)).2 =
      ⟨⟨false, true, c.take kind byte⟩, true, false⟩ := by
  rw [sendByte_spec, waitAck_spec c kind h]

end Send

/-! ## A byte from the chip -/

section Read

variable (c : Chip)

/-- the chip shows bit `n` of a byte -/
def sending (c : Chip) (byte : UInt8) (n : ℕ) : Chip := { c with phase := .send byte n, release := bitAt byte n }

@[simp]
theorem release_sending (byte : UInt8) (n : ℕ) : (sending c byte n).release = bitAt byte n := rfl

theorem rise_sending (byte : UInt8) (n : ℕ) (bit : Bool) : (sending c byte n).rise bit = sending c byte n := rfl

theorem fall_sending (byte : UInt8) {n : ℕ} (hn : n + 1 < 8) : (sending c byte n).fall = sending c byte (n + 1) :=
  if_pos hn

theorem readBits_spec (byte : UInt8) (n : ℕ) (hn : n < 8) :
    readBits (n + 1) (0, ⟨⟨false, true, sending c byte 0⟩, true, false⟩) =
      (shiftIn byte (n + 1), ⟨⟨true, true, sending c byte n⟩, true, false⟩) := by
  induction n with
  | zero => simp [readBits, readBit, rise_sending, shiftIn]
  | succ n ih =>
    rw [readBits, ih (Nat.lt_of_succ_lt hn), readBit]
    simp [fall_sending c byte hn, rise_sending, shiftIn]

theorem fall_last (byte : UInt8) : (sending c byte 7).fall = { c with phase := .listen false, release := true } := rfl

/-- the chip waits again; it may have been told to start once more -/
def idleAfter (c : Chip) (more : ℕ) : Chip :=
  { c with phase := .idle, release := true, starts := c.starts + more }

/-- the pins and the lines at rest -/
def atRest (c : Chip) : Iic := ⟨⟨true, true, c⟩, true, true⟩

/-- **A byte comes from the chip**, and the stop after it leaves the bus at rest. -/
theorem readByte_spec (byte : UInt8) :
    (iicReadByte true ⟨⟨false, true, sending c byte 0⟩, true, false⟩).1 = byte ∧
      iicStop (iicReadByte true ⟨⟨false, true, sending c byte 0⟩, true, false⟩).2 =
        atRest (idleAfter c (if bitAt byte 7 then 1 else 0)) := by
  have hbits := readBits_spec c byte 7 (by decide)
  rw [shiftIn_eq] at hbits
  have hread : iicReadByte true ⟨⟨false, true, sending c byte 0⟩, true, false⟩ =
      (byte, iicAck ⟨⟨true, true, sending c byte 7⟩, true, false⟩) := by
    rw [iicReadByte, sdaIn_mk, setSda_low, hbits]
    rfl
  rw [hread]
  refine ⟨rfl, ?_⟩
  simp only [iicAck, sdaOut_mk, setSda_same, scl_mk, setScl_same, sda_output]
  cases hbit : bitAt byte 7
  · -- the chip holds the line: it hears an acknowledge, then the stop
    rw [setSda_held _ _ hbit, setScl_low, fall_last]
    simp [iicStop, Chip.rise, atRest, idleAfter, setSda_stop, Chip.stop]
  · -- the line falls while the clock is high
    rw [setSda_start _ hbit, setScl_low]
    simp [iicStop, Chip.start, Chip.rise, Chip.fall, atRest, idleAfter, setSda_stop, Chip.stop, sending]

end Read

/-! ## Register accesses -/

/-- one more start was heard -/
def begun (c : Chip) : Chip := { c with starts := c.starts + 1 }

theorem start_atRest {c : Chip} (h : c.release = true) :
    iicStart (atRest c) = ⟨⟨false, !true || false, receiving (begun c) .address 0 0⟩, false, true⟩ := by
  simp only [iicStart, atRest, sdaOut_mk, setSda_same, scl_mk, setScl_same, sda_output]
  rw [setSda_start _ h, setScl_low]
  rfl

/-- a start while the chip expects data takes it back to the address -/
theorem start_again (c : Chip) :
    iicStart ⟨⟨false, true, receiving c .data 0 0⟩, true, false⟩ =
      ⟨⟨false, !true || false, receiving (begun c) .address 0 0⟩, false, true⟩ := by
  simp only [iicStart, sdaOut_mk, setSda_low, scl_mk, setScl_high, sda_output, release_receiving, Bool.and_true,
    rise_receiving c .data (show 0 < 8 by decide), setSda_same]
  rw [setSda_start _ (release_receiving ..), setScl_low]
  rfl

/-- the stop after a byte to the chip -/
theorem stop_receiving (c : Chip) :
    iicStop ⟨⟨false, true, receiving c .data 0 0⟩, true, false⟩ = atRest (idleAfter c 0) := by
  simp only [iicStop, scl_mk, setScl_same, sdaOut_mk, setSda_low, sda_output, setScl_high, release_receiving,
    Bool.and_true, rise_receiving c .data (show 0 < 8 by decide)]
  rw [setSda_stop _ (release_receiving ..)]
  rfl

variable {c : Chip} (haddress : c.address = RX8010_Write_Address)
include haddress

theorem answers_write : Answers c .address RX8010_Write_Address := fun _ => Or.inl haddress.symm

theorem answers_read : Answers c .address RX8010_Read_Address := by
  intro _
  rw [haddress]
  exact Or.inr rfl

theorem take_write : c.take .address RX8010_Write_Address = receiving c .pointer 0 0 := if_pos haddress.symm

theorem take_read : c.take .address RX8010_Read_Address =
    sending { c with pointer := c.pointer + 1 } (c.mem c.pointer) 0 := by
  have hne : RX8010_Read_Address ≠ c.address := by
    rw [haddress]
    decide
  exact if_neg hne

/-- the address of the chip and the number of a register, from the start condition on -/
theorem select_register (a : UInt8) :
    (iicWaitAck (iicSendByte a (iicWaitAck (iicSendByte RX8010_Write_Address
      ⟨⟨false, !true || false, receiving c .address 0 0⟩, false, true⟩)).2)).2 =
        ⟨⟨false, true, receiving { c with pointer := a } .data 0 0⟩, true, false⟩ := by
  rw [sendAck_spec c .address (answers_write haddress), take_write haddress]
  exact sendAck_spec c .pointer (fun h => by cases h) true false

/-- **A register is read**: two transfers, and a third start where the byte is odd. -/
theorem readOneByte_spec (hrelease : c.release = true) (a : UInt8) :
    readOneByte a (atRest c) =
      (c.mem a, atRest (idleAfter { c with pointer := a + 1 } (2 + if bitAt (c.mem a) 7 then 1 else 0))) := by
  set c₁ : Chip := { c with starts := c.starts + 1, pointer := a } with hc₁
  set c₂ : Chip := begun c₁ with hc₂
  have hselect : (iicWaitAck (iicSendByte a (iicWaitAck (iicSendByte RX8010_Write_Address ⟨⟨false, !true || false,
      receiving (begun c) .address 0 0⟩, false, true⟩)).2)).2 =
        ⟨⟨false, true, receiving c₁ .data 0 0⟩, true, false⟩ :=
    select_register (c := begun c) haddress a
  have hread : (iicWaitAck (iicSendByte RX8010_Read_Address
      ⟨⟨false, !true || false, receiving c₂ .address 0 0⟩, false, true⟩)).2 =
        ⟨⟨false, true, sending { c₂ with pointer := a + 1 } (c.mem a) 0⟩, true, false⟩ := by
    rw [sendAck_spec c₂ .address (answers_read haddress), take_read (c := c₂) haddress]
    rfl
  obtain ⟨hbyte, hstop⟩ := readByte_spec { c₂ with pointer := a + 1 } (c.mem a)
  have hend : idleAfter { c₂ with pointer := a + 1 } (if bitAt (c.mem a) 7 then 1 else 0) =
      idleAfter { c with pointer := a + 1 } (2 + if bitAt (c.mem a) 7 then 1 else 0) := by
    simp only [idleAfter, hc₂, hc₁, begun, Chip.mk.injEq, true_and]
    omega
  simp only [readOneByte, start_atRest hrelease, hselect]
  rw [start_again, ← hc₂, hread, hbyte, hstop, hend]

/-- **A register is written.** -/
theorem writeOneByte_spec (hrelease : c.release = true) (a data : UInt8) :
    writeOneByte a data (atRest c) =
      atRest (idleAfter { c with mem := Function.update c.mem a data, pointer := a + 1 } 1) := by
  set c₁ : Chip := { c with starts := c.starts + 1, pointer := a }
  have hselect : (iicWaitAck (iicSendByte a (iicWaitAck (iicSendByte RX8010_Write_Address ⟨⟨false, !true || false,
      receiving (begun c) .address 0 0⟩, false, true⟩)).2)).2 =
        ⟨⟨false, true, receiving c₁ .data 0 0⟩, true, false⟩ :=
    select_register (c := begun c) haddress a
  have hdata : (iicWaitAck (iicSendByte data ⟨⟨false, true, receiving c₁ .data 0 0⟩, true, false⟩)).2 =
      ⟨⟨false, true, receiving { c₁ with mem := Function.update c.mem a data, pointer := a + 1 } .data 0 0⟩, true,
        false⟩ :=
    sendAck_spec c₁ .data (fun h => by cases h) true false
  simp only [writeOneByte, start_atRest hrelease, hselect]
  rw [hdata, stop_receiving]
  rfl

omit haddress

/-! ## Main result -/

/-- an access to a register -/
inductive Access where
  | read (a : UInt8)
  | write (a data : UInt8)

/-- on the bus; a write has no result -/
def overWires (s : Iic) : Access → List UInt8 × Iic
  | .read a => ([(readOneByte a s).1], (readOneByte a s).2)
  | .write a data => ([], writeOneByte a data s)

def runWires : List Access → Iic → List UInt8 × Iic
  | [], s => ([], s)
  | x :: xs, s => ((overWires s x).1 ++ (runWires xs (overWires s x).2).1, (runWires xs (overWires s x).2).2)

/-- on a file of registers -/
def runRegisters : List Access → (UInt8 → UInt8) → List UInt8 × (UInt8 → UInt8)
  | [], regs => ([], regs)
  | .read a :: xs, regs => (regs a :: (runRegisters xs regs).1, (runRegisters xs regs).2)
  | .write a data :: xs, regs => runRegisters xs (Function.update regs a data)

/-- the number of writes -/
def writes : List Access → ℕ
  | [] => 0
  | .read _ :: xs => writes xs
  | .write _ _ :: xs => writes xs + 1

/-- the clock chip, between two accesses -/
structure Ready (c : Chip) : Prop where
  address : c.address = RX8010_Write_Address
  release : c.release = true

/-- **The wires refine a file of registers.** Any accesses find and leave in the chip what they find and leave in the
registers, and the lines at rest; the chip hears a start for every write, two for every read and one more for every odd
byte that was read. -/
theorem accesses_refine (xs : List Access) : ∀ c : Chip, Ready c → ∃ c', Ready c' ∧
    runWires xs (atRest c) = ((runRegisters xs c.mem).1, atRest c') ∧ c'.mem = (runRegisters xs c.mem).2 ∧
      c'.starts = c.starts + writes xs + 2 * (runRegisters xs c.mem).1.length +
        (runRegisters xs c.mem).1.countP fun b => bitAt b 7 := by
  induction xs with
  | nil => exact fun c hc => ⟨c, hc, rfl, rfl, rfl⟩
  | cons x xs ih =>
    intro c hc
    cases x with
    | read a =>
      have hread := readOneByte_spec hc.address hc.release a
      obtain ⟨c', hc', hrun, hmem, hstarts⟩ := ih
        (idleAfter { c with pointer := a + 1 } (2 + if bitAt (c.mem a) 7 then 1 else 0)) ⟨hc.address, rfl⟩
      have hkeep : (idleAfter { c with pointer := a + 1 } (2 + if bitAt (c.mem a) 7 then 1 else 0)).mem = c.mem := rfl
      rw [hkeep] at hrun hmem hstarts
      refine ⟨c', hc', ?_, hmem, ?_⟩
      · simp only [runWires, overWires, hread, hrun, runRegisters, List.singleton_append]
      · simp only [hstarts, idleAfter, writes, runRegisters, List.length_cons, List.countP_cons]
        omega
    | write a data =>
      have hwrite := writeOneByte_spec hc.address hc.release a data
      obtain ⟨c', hc', hrun, hmem, hstarts⟩ := ih
        (idleAfter { c with mem := Function.update c.mem a data, pointer := a + 1 } 1) ⟨hc.address, rfl⟩
      have hkeep : (idleAfter { c with mem := Function.update c.mem a data, pointer := a + 1 } 1).mem =
          Function.update c.mem a data := rfl
      rw [hkeep] at hrun hmem hstarts
      refine ⟨c', hc', ?_, hmem, ?_⟩
      · simp only [runWires, overWires, hwrite, hrun, runRegisters, List.nil_append]
      · simp only [hstarts, idleAfter, writes, runRegisters]
        omega

/-- a chip with nothing in its registers -/
def blank : Chip := ⟨RX8010_Write_Address, fun _ => 0, 0, .idle, true, 0⟩

theorem blank_ready : Ready blank := ⟨rfl, rfl⟩

/-- an odd byte, written and read: four starts -/
theorem refine_odd : ∃ c', runWires [.write 0x10 0x25, .read 0x10] (atRest blank) = ([0x25], atRest c') ∧ c'.starts = 4 := by
  obtain ⟨c', -, hrun, -, hstarts⟩ := accesses_refine [.write 0x10 0x25, .read 0x10] blank blank_ready
  exact ⟨c', hrun, hstarts⟩

end DataConcentrator.Clock
