/-
A two wire bus with one chip on it: a file of byte registers behind a device address and a register pointer.

A line is high unless a party holds it low. The chip sees the edges of the lines: a fall of the data line while the clock
is high starts a transfer, a rise ends it, a rise of the clock takes a bit, and a fall of the clock moves the chip on.
- `setScl_low`, `setScl_high`, `setSda`: what the master does, as the chip sees it;
- `shiftIn_eq`: eight bits are a byte.
-/
import Mathlib.Tactic

namespace I2c

/-! ## The chip -/

/-- what a byte from the master is -/
inductive Kind where
  | address
  | pointer
  | data
deriving DecidableEq, Repr

inductive Phase where
  | idle
  /-- so many bits of a byte have come in -/
  | receive (kind : Kind) (n : ℕ) (acc : UInt8)
  | acknowledge (kind : Kind) (byte : UInt8)
  /-- so many bits of a byte have gone out, and the next one is on the line -/
  | send (byte : UInt8) (n : ℕ)
  | listen (more : Bool)
deriving DecidableEq, Repr

structure Chip where
  -- the device address, with the bit for reading clear
  address : UInt8
  mem : UInt8 → UInt8
  pointer : UInt8
  phase : Phase
  -- the chip does not hold the data line
  release : Bool
  -- how many transfers it was told to start
  starts : ℕ

/-- the bits of a byte, from the top -/
def bitAt (byte : UInt8) (n : ℕ) : Bool := byte.toNat.testBit (7 - n)

def shift (acc : UInt8) (bit : Bool) : UInt8 := (acc <<< 1) + if bit then 1 else 0

/-- the next byte goes out -/
def Chip.sendNext (c : Chip) : Chip :=
  { c with phase := .send (c.mem c.pointer) 0, release := bitAt (c.mem c.pointer) 0, pointer := c.pointer + 1 }

/-- the byte that was acknowledged -/
def Chip.take (c : Chip) : Kind → UInt8 → Chip
  | .address, byte =>
    if byte = c.address then { c with phase := .receive .pointer 0 0, release := true } else c.sendNext
  | .pointer, byte => { c with phase := .receive .data 0 0, release := true, pointer := byte }
  | .data, byte =>
    { c with
      phase := .receive .data 0 0
      release := true
      mem := Function.update c.mem c.pointer byte
      pointer := c.pointer + 1 }

/-- the clock rises -/
def Chip.rise (c : Chip) (sda : Bool) : Chip :=
  match c.phase with
  | .receive kind n acc => if n < 8 then { c with phase := .receive kind (n + 1) (shift acc sda) } else c
  | .listen _ => { c with phase := .listen (!sda) }
  | _ => c

/-- the clock falls -/
def Chip.fall (c : Chip) : Chip :=
  match c.phase with
  | .receive kind n acc =>
    if n < 8 then c
    else if kind = .address ∧ acc ≠ c.address ∧ acc ≠ c.address + 1 then { c with phase := .idle }
    else { c with phase := .acknowledge kind acc, release := false }
  | .acknowledge kind byte => c.take kind byte
  | .send byte n =>
    if n + 1 < 8 then { c with phase := .send byte (n + 1), release := bitAt byte (n + 1) }
    else { c with phase := .listen false, release := true }
  | .listen more => if more then c.sendNext else { c with phase := .idle }
  | .idle => c

/-- the data line falls while the clock is high -/
def Chip.start (c : Chip) : Chip := { c with phase := .receive .address 0 0, release := true, starts := c.starts + 1 }

/-- the data line rises while the clock is high -/
def Chip.stop (c : Chip) : Chip := { c with phase := .idle, release := true }

/-! ## The lines -/

structure Bus where
  scl : Bool
  -- what the master does with the data line
  sda : Bool
  chip : Chip

/-- the data line -/
def Bus.line (b : Bus) : Bool := b.sda && b.chip.release

def Bus.setScl (b : Bus) (high : Bool) : Bus :=
  if high = b.scl then b
  else if high then { b with scl := true, chip := b.chip.rise b.line }
  else { b with scl := false, chip := b.chip.fall }

def Bus.setSda (b : Bus) (high : Bool) : Bus :=
  let after := { b with sda := high }
  if b.scl then
    if b.line = after.line then after
    else if after.line then { after with chip := b.chip.stop }
    else { after with chip := b.chip.start }
  else after

/-- both lines high, and the chip waits -/
structure Bus.Idle (b : Bus) : Prop where
  scl : b.scl = true
  sda : b.sda = true
  phase : b.chip.phase = .idle
  release : b.chip.release = true

section Lines

variable (sda : Bool) (c : Chip)

@[simp]
theorem line_mk (scl : Bool) : Bus.line ⟨scl, sda, c⟩ = (sda && c.release) := rfl

@[simp]
theorem setScl_same (b : Bool) : Bus.setScl ⟨b, sda, c⟩ b = ⟨b, sda, c⟩ := if_pos rfl

@[simp]
theorem setScl_high : Bus.setScl ⟨false, sda, c⟩ true = ⟨true, sda, c.rise (sda && c.release)⟩ := rfl

@[simp]
theorem setScl_low : Bus.setScl ⟨true, sda, c⟩ false = ⟨false, sda, c.fall⟩ := rfl

/-- while the clock is low the data line may change -/
@[simp]
theorem setSda_low (high : Bool) : Bus.setSda ⟨false, sda, c⟩ high = ⟨false, high, c⟩ := rfl

@[simp]
theorem setSda_same (b : Bool) : Bus.setSda ⟨true, b, c⟩ b = ⟨true, b, c⟩ := by
  simp [Bus.setSda]

/-- while the chip holds the data line nothing is seen of the master's -/
theorem setSda_held (h : c.release = false) (high : Bool) : Bus.setSda ⟨true, sda, c⟩ high = ⟨true, high, c⟩ := by
  simp [Bus.setSda, h]

theorem setSda_start (h : c.release = true) : Bus.setSda ⟨true, true, c⟩ false = ⟨true, false, c.start⟩ := by
  simp [Bus.setSda, h]

theorem setSda_stop (h : c.release = true) : Bus.setSda ⟨true, false, c⟩ true = ⟨true, true, c.stop⟩ := by
  simp [Bus.setSda, h]

end Lines

/-! ## Bytes -/

/-- `n` bits of a byte, from the top, taken into `acc` -/
def shiftIn (byte : UInt8) : ℕ → UInt8
  | 0 => 0
  | n + 1 => shift (shiftIn byte n) (bitAt byte n)

theorem shiftIn_ofNat : ∀ n < 256, shiftIn (UInt8.ofNat n) 8 = UInt8.ofNat n := by
  decide +kernel

theorem shiftIn_eq (byte : UInt8) : shiftIn byte 8 = byte := by
  have h := shiftIn_ofNat byte.toNat byte.toNat_lt
  rwa [UInt8.ofNat_toNat] at h

end I2c
