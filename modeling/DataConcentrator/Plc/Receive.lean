/-
The frames that come back over the power line: `RecvAndAnalysisPlcBottomFrame`.

A frame is accepted by its two checksums, its mark, the length field against the received length, and the length of the
user data against the length field.
- `safe_receive`: whatever is received, a frame that is returned has its length without underflow and was read from
  inside the received bytes; what keeps a short frame out is that the heap has no 65530 bytes to give;
- `roundTrip_iff`: of the frames a device sends, those with 1 to 231 bytes of data come back as they were sent.

`Usart2RxBuf` is what may be read: `none` is a read outside it.
-/
import DataConcentrator.Plc.BottomFrame

namespace DataConcentrator.Plc

/-! ## The heap -/

def configTOTAL_HEAP_SIZE : ℕ := 64 * 1024

/-- the header `heap_4.c` puts before each block -/
def xHeapStructSize : ℕ := 8

/-- `pvPortMalloc` of `heap_4.c`: whether it gives a block of a size -/
structure Heap where
  gives : ℕ → Bool
  empty : gives 0 = false
  bounded : ∀ n, gives n = true → n + xHeapStructSize ≤ configTOTAL_HEAP_SIZE

def USART2_MAX_RX_LN : ℕ := 256

/-- memory for whatever can be received is left -/
def Heap.HasRoom (heap : Heap) : Prop := ∀ n, 0 < n → n ≤ USART2_MAX_RX_LN → heap.gives n = true

/-! ## Reading -/

/-- the memory a read may touch -/
abbrev Mem := ℕ → Option UInt8

/-- `memcpy` of `n` bytes from `a` on -/
def readBytes (mem : Mem) (a : ℕ) : (n : ℕ) → Option {bs : List UInt8 // bs.length = n}
  | 0 => some ⟨[], rfl⟩
  | n + 1 => (mem a).bind fun b => (readBytes mem (a + 1) n).map fun bs => ⟨b :: bs.1, by rw [List.length_cons, bs.2]⟩

/-- `(((u16)(*(a + 1))) << 8) + (u16)(*a)` -/
def readLe16 (mem : Mem) (a : ℕ) : Option ℕ :=
  (mem a).bind fun lo => (mem (a + 1)).map fun hi => lo.toNat + 256 * hi.toNat

/-- four bytes, high byte first -/
def readBe32 (mem : Mem) (a : ℕ) : Option UInt32 :=
  (mem a).bind fun b0 => (mem (a + 1)).bind fun b1 => (mem (a + 2)).bind fun b2 =>
    (mem (a + 3)).map fun b3 => getBe32 b0 b1 b2 b3

/-- `*(inbuf + len - k)` -/
def readBack (mem : Mem) (len k : ℕ) : Option UInt8 := if k ≤ len then mem (len - k) else none

/-! ## `RecvAndAnalysisPlcBottomFrame` -/

/-- what the receive interrupt leaves -/
structure Usart2 where
  recvEnd : UInt8
  frameLen : ℕ
  rxBuf : Mem

/-- `Usart2RecvEnd = 0; Usart2FrameLen = 0;` -/
def Usart2.clear (u : Usart2) : Usart2 := { u with recvEnd := 0, frameLen := 0 }

/-- the checks up to the length of the frame; the length field where they pass -/
def frameLength (inbuf : Mem) (len : ℕ) : Option (Option ℕ) :=
  (readBack inbuf len 2).bind fun check_sum_read =>
    (atCsum (fun i => inbuf (1 + i)) ((len + 65536 - 3) % 65536)).bind fun check_sum_cal =>
      if check_sum_read ≠ check_sum_cal then some none
      else
        (readBack inbuf len 1).bind fun check_xor_read =>
          (atCxor (fun i => inbuf (1 + i)) ((len + 65536 - 3) % 65536)).bind fun check_xor_cal =>
            if check_xor_read ≠ check_xor_cal then some none
            else
              (inbuf 0).bind fun mark =>
                if mark ≠ 0x79 then some none
                else (readLe16 inbuf 1).map fun frame_len => if frame_len + 7 ≠ len then none else some frame_len

/-- a received frame, as `memset` and the assignments leave it -/
def ackFrame (address : UInt32) (cmd_code type : UInt8) {n : ℕ} (buf : {bs : List UInt8 // bs.length = n}) :
    BottomFrame where
  type := type
  address := address
  cmd_code := cmd_code
  group_num := 0
  group_id := fun _ => 0
  wait_ack := 1
  resp_ack := 1
  len := n
  buf := buf.1
  groups := Nat.zero_le _
  holds := buf.2

/-- `sizeof(PlcFrame_S)` -/
def plcFrameSize : ℕ := 26

/-- `ack_frame->len`, a `u16` -/
def ackLen (user_data_len : ℕ) : ℕ := (user_data_len + 65536 - 6) % 65536

/-- the branch on `0x15`; `address` is `dev_add[2]` to `dev_add[5]` -/
def userFrame (gives : ℕ → Bool) (gateWayID : UInt32) (inbuf : Mem) (frame_len : ℕ) (address : UInt32) :
    Option (Option BottomFrame) :=
  (readLe16 inbuf 14).bind fun user_data_len =>
    if frame_len ≠ user_data_len + 3 + 6 + 2 then some none
    else if gives plcFrameSize = false then some none
    else
      (readBe32 inbuf 16).bind fun local_add =>
        if local_add ≠ gateWayID then some none
        else
          (inbuf 20).bind fun cmd_code =>
            (inbuf 21).bind fun type =>
              if type ≠ 2 then some none
              else if gives (ackLen user_data_len) = false then some none
              else (readBytes inbuf 22 (ackLen user_data_len)).map fun buf => some (ackFrame address cmd_code type buf)

/-- up to the label `GET_OUT`: `ack_frame` and the receive state -/
def analyse (gives : ℕ → Bool) (gateWayID : UInt32) (u : Usart2) : Option (Option BottomFrame × Usart2) :=
  if u.recvEnd ≠ 0xAA then some (none, u)
  else if u.frameLen < 8 then some (none, u)
  else
    -- `len` is a `u8`
    (frameLength u.rxBuf (u.frameLen % 256)).bind fun passed =>
      match passed with
      | none => some (none, u)
      | some frame_len =>
        (u.rxBuf 4).bind fun cmd_id =>
          (readBytes u.rxBuf 8 2).bind fun _ => (readBe32 u.rxBuf 10).bind fun address =>
            if cmd_id ≠ 0x15 then some (none, u.clear)
            else (userFrame gives gateWayID u.rxBuf frame_len address).map fun ack_frame => (ack_frame, u)

/-- `RecvAndAnalysisPlcBottomFrame`; `none` is a read outside `Usart2RxBuf` or a checksum that never ends -/
def recvAndAnalysisPlcBottomFrame (gives : ℕ → Bool) (gateWayID : UInt32) (mode : ℕ) (u : Usart2) :
    Option (Option BottomFrame × Usart2) :=
  (analyse gives gateWayID u).map fun (ack_frame, u) =>
    if mode = 1 ∧ ack_frame.isSome then (ack_frame, u.clear) else (ack_frame, u)

/-! ## Reads inside a frame -/

/-- two memories with the same first `n` bytes -/
def Agree (n : ℕ) (mem mem' : Mem) : Prop := ∀ i < n, mem i = mem' i

section Agree

variable {n : ℕ} {mem mem' : Mem} (h : Agree n mem mem')
include h

theorem readBytes_agree (k : ℕ) : ∀ a, a + k ≤ n → readBytes mem a k = readBytes mem' a k := by
  induction k with
  | zero => exact fun a _ => rfl
  | succ k ih =>
    intro a ha
    rw [readBytes, readBytes, h a (by omega), ih (a + 1) (by omega)]

theorem readLe16_agree {a : ℕ} (ha : a + 2 ≤ n) : readLe16 mem a = readLe16 mem' a := by
  rw [readLe16, readLe16, h a (by omega), h (a + 1) (by omega)]

theorem readBe32_agree {a : ℕ} (ha : a + 4 ≤ n) : readBe32 mem a = readBe32 mem' a := by
  rw [readBe32, readBe32, h a (by omega), h (a + 1) (by omega), h (a + 2) (by omega), h (a + 3) (by omega)]

theorem readBack_agree {k : ℕ} (hk : 0 < k) (hn : 0 < n) : readBack mem n k = readBack mem' n k := by
  unfold readBack
  split_ifs
  · exact h _ (Nat.sub_lt hn hk)
  · rfl

theorem checkLoop_agree (op : UInt8 → UInt8 → UInt8) {len : ℕ} (hn : len < n) :
    checkLoop op (fun i => mem (1 + i)) len = checkLoop op (fun i => mem' (1 + i)) len := by
  have hread : ∀ i < len, mem (1 + i) = mem' (1 + i) := fun i hi => h (1 + i) (by omega)
  exact CLoop.forLoop_congr 8 (fun i hi csum => congrArg (Option.map (op csum)) (hread i hi)) 255 0 0

/-- the first checks read the frame only -/
theorem frameLength_agree (h8 : 8 ≤ n) (h255 : n ≤ 255) : frameLength mem n = frameLength mem' n := by
  have hlen : (n + 65536 - 3) % 65536 = n - 3 := by omega
  have hsum := checkLoop_agree h (· + ·) (show n - 3 < n by omega)
  have hxor := checkLoop_agree h (· ^^^ ·) (show n - 3 < n by omega)
  rw [frameLength, frameLength, hlen, readBack_agree h Nat.two_pos (by omega), readBack_agree h Nat.one_pos (by omega),
    h 0 (by omega), readLe16_agree h (show 1 + 2 ≤ n by omega), atCsum, atCsum, hsum, atCxor, atCxor, hxor]

end Agree

/-! ## What is accepted -/

/-- a frame that gets past a check -/
theorem past_check {α : Type*} {c : Prop} [Decidable c] {rest : Option (Option α)} {a : α}
    (h : (if c then some none else rest) = some (some a)) : ¬ c ∧ rest = some (some a) := by
  by_cases hc : c
  · rw [if_pos hc] at h
    cases h
  · rw [if_neg hc] at h
    exact ⟨hc, h⟩

/-- the length field of a frame that passes the first checks -/
theorem frameLength_spec {inbuf : Mem} {len frame_len : ℕ} (h : frameLength inbuf len = some (some frame_len)) :
    frame_len + 7 = len := by
  unfold frameLength at h
  obtain ⟨_, _, h⟩ := Option.bind_eq_some_iff.1 h
  obtain ⟨_, _, h⟩ := Option.bind_eq_some_iff.1 h
  obtain ⟨_, _, h⟩ := Option.bind_eq_some_iff.1 (past_check h).2
  obtain ⟨_, _, h⟩ := Option.bind_eq_some_iff.1 h
  obtain ⟨_, _, h⟩ := Option.bind_eq_some_iff.1 (past_check h).2
  obtain ⟨n, _, h⟩ := Option.map_eq_some_iff.1 (past_check h).2
  split_ifs at h with hlen
  rw [Option.some.injEq] at h
  exact h ▸ Decidable.not_not.1 hlen

/-- 256 received bytes: `len` is 0, and the first read is before the buffer -/
theorem frameLength_zero (inbuf : Mem) : frameLength inbuf 0 = none := rfl

/-- what the branch on `0x15` has checked -/
structure UserFrame (gives : ℕ → Bool) (inbuf : Mem) (frame_len : ℕ) (ack : BottomFrame) : Prop where
  user_data_len : ∃ n, readLe16 inbuf 14 = some n ∧ frame_len = n + 11 ∧ ack.len = ackLen n
  given : gives ack.len = true

theorem readLe16_lt {mem : Mem} {a n : ℕ} (h : readLe16 mem a = some n) : n < 65536 := by
  obtain ⟨lo, _, h⟩ := Option.bind_eq_some_iff.1 h
  obtain ⟨hi, _, rfl⟩ := Option.map_eq_some_iff.1 h
  have hlo := lo.toNat_lt
  have hhi := hi.toNat_lt
  omega

theorem userFrame_spec {gives : ℕ → Bool} {gateWayID : UInt32} {inbuf : Mem} {frame_len : ℕ} {address : UInt32}
    {ack : BottomFrame} (h : userFrame gives gateWayID inbuf frame_len address = some (some ack)) :
    UserFrame gives inbuf frame_len ack := by
  unfold userFrame at h
  obtain ⟨n, hn, h⟩ := Option.bind_eq_some_iff.1 h
  obtain ⟨hlen, h⟩ := past_check h
  obtain ⟨_, _, h⟩ := Option.bind_eq_some_iff.1 (past_check h).2
  obtain ⟨_, _, h⟩ := Option.bind_eq_some_iff.1 (past_check h).2
  obtain ⟨_, _, h⟩ := Option.bind_eq_some_iff.1 h
  obtain ⟨hgives, h⟩ := past_check (past_check h).2
  obtain ⟨buf, _, h⟩ := Option.map_eq_some_iff.1 h
  rw [Option.some.injEq] at h
  subst h
  exact ⟨⟨n, hn, by omega, rfl⟩, Bool.eq_true_of_not_eq_false hgives⟩

/-- a length that does not underflow, for a heap of 64 KiB -/
theorem UserFrame.no_underflow {heap : Heap} {inbuf : Mem} {frame_len : ℕ} {ack : BottomFrame}
    (h : UserFrame heap.gives inbuf frame_len ack) :
    ∃ n, readLe16 inbuf 14 = some n ∧ 6 ≤ n ∧ ack.len = n - 6 ∧ frame_len = n + 11 := by
  obtain ⟨n, hn, hframe, hack⟩ := h.user_data_len
  have hlt := readLe16_lt hn
  have hroom := heap.bounded _ h.given
  unfold xHeapStructSize configTOTAL_HEAP_SIZE at hroom
  unfold ackLen at hack
  exact ⟨n, hn, by omega, by omega, hframe⟩

/-- five bytes of user data: the byte where the type should be is the checksum, 2 -/
def shortFrame : Usart2 :=
  let bytes : List UInt8 := [0x79, 16, 0, 0x4D, 0x15, 0, 0, 0, 0, 0, 0, 0, 0, 1, 5, 0, 0, 0, 0, 10, 0x80, 2, 0xC6]
  ⟨0xAA, bytes.length, fun i => bytes[i]?⟩

/-- it passes every check; a heap that could give 65535 bytes would have them copied from behind the frame -/
example : (analyse (fun _ => true) 10 shortFrame).isNone = true ∧
    (analyse (fun n => n < 65520) 10 shortFrame).any (·.1.isNone) = true := by
  decide +kernel

/-! ## Safety -/

/-- the receive state with nothing to read but the frame -/
def Usart2.onlyFrame (u : Usart2) : Usart2 := { u with rxBuf := fun i => if i < u.frameLen then u.rxBuf i else none }

/-- a frame that is returned: its length is that of the user data less 6, and it is the same when nothing but the
received bytes can be read -/
def SafeReceive (gives : ℕ → Bool) (gateWayID : UInt32) (mode : ℕ) (u : Usart2) : Prop :=
  ∀ ack u', recvAndAnalysisPlcBottomFrame gives gateWayID mode u = some (some ack, u') →
    (∃ user_data_len, readLe16 u.rxBuf 14 = some user_data_len ∧ 6 ≤ user_data_len ∧ ack.len = user_data_len - 6) ∧
    (recvAndAnalysisPlcBottomFrame gives gateWayID mode u.onlyFrame).map Prod.fst = some (some ack)

/-- what is returned was analysed -/
theorem analyse_of_recv {gives : ℕ → Bool} {gateWayID : UInt32} {mode : ℕ} {u u' : Usart2} {ack : BottomFrame}
    (h : recvAndAnalysisPlcBottomFrame gives gateWayID mode u = some (some ack, u')) :
    ∃ u1, analyse gives gateWayID u = some (some ack, u1) := by
  obtain ⟨⟨ack1, u1⟩, hana, h⟩ := Option.map_eq_some_iff.1 h
  have hack : ack1 = some ack := by
    dsimp only at h
    split_ifs at h <;> exact congrArg Prod.fst h
  exact ⟨u1, hack ▸ hana⟩

theorem recv_of_analyse {gives : ℕ → Bool} {gateWayID : UInt32} (mode : ℕ) {u u1 : Usart2} {ack : Option BottomFrame}
    (h : analyse gives gateWayID u = some (ack, u1)) :
    (recvAndAnalysisPlcBottomFrame gives gateWayID mode u).map Prod.fst = some ack := by
  rw [recvAndAnalysisPlcBottomFrame, h, Option.map_some, Option.map_some]
  dsimp only
  split_ifs <;> rfl

/-- a frame that comes out of the analysis -/
structure Analysed (gives : ℕ → Bool) (gateWayID : UInt32) (u : Usart2) (ack : BottomFrame) (frame_len : ℕ)
    (address : UInt32) : Prop where
  recvEnd : u.recvEnd = 0xAA
  long : 8 ≤ u.frameLen
  length : frameLength u.rxBuf (u.frameLen % 256) = some (some frame_len)
  cmd_id : u.rxBuf 4 = some 0x15
  high : (readBytes u.rxBuf 8 2).isSome
  dev_add : readBe32 u.rxBuf 10 = some address
  user : userFrame gives gateWayID u.rxBuf frame_len address = some (some ack)

theorem analyse_eq_some {gives : ℕ → Bool} {gateWayID : UInt32} {u u1 : Usart2} {ack : BottomFrame}
    (h : analyse gives gateWayID u = some (some ack, u1)) :
    ∃ frame_len address, Analysed gives gateWayID u ack frame_len address := by
  unfold analyse at h
  split_ifs at h with hend hshort
  · cases h
  · cases h
  obtain ⟨passed, hlen, h⟩ := Option.bind_eq_some_iff.1 h
  cases passed with
  | none => cases h
  | some frame_len =>
    obtain ⟨cmd_id, hcmd, h⟩ := Option.bind_eq_some_iff.1 h
    obtain ⟨high, hhigh, h⟩ := Option.bind_eq_some_iff.1 h
    obtain ⟨address, haddress, h⟩ := Option.bind_eq_some_iff.1 h
    split_ifs at h with h15
    · cases h
    obtain ⟨ack1, huser, h⟩ := Option.map_eq_some_iff.1 h
    cases h
    exact ⟨frame_len, address,
      { recvEnd := not_not.1 hend
        long := Nat.not_lt.1 hshort
        length := hlen
        cmd_id := by rw [hcmd, not_not.1 h15]
        high := by rw [hhigh]; rfl
        dev_add := haddress
        user := huser }⟩

theorem Analysed.analyse_eq {gives : ℕ → Bool} {gateWayID : UInt32} {u : Usart2} {ack : BottomFrame} {frame_len : ℕ}
    {address : UInt32} (h : Analysed gives gateWayID u ack frame_len address) :
    analyse gives gateWayID u = some (some ack, u) := by
  obtain ⟨high, hhigh⟩ := Option.isSome_iff_exists.1 h.high
  rw [analyse, if_neg (not_not.2 h.recvEnd), if_neg (Nat.not_lt.2 h.long), h.length, Option.bind_some]
  dsimp only
  rw [h.cmd_id, hhigh, h.dev_add, Option.bind_some, Option.bind_some, Option.bind_some, if_neg (by decide), h.user]
  rfl

/-- the branch on `0x15` reads the user data only -/
theorem userFrame_agree {gives : ℕ → Bool} {gateWayID : UInt32} {mem mem' : Mem} {frame_len n : ℕ} {address : UInt32}
    (h : Agree (frame_len + 7) mem mem') (hn : readLe16 mem 14 = some n) (h6 : 6 ≤ n) (hframe : frame_len = n + 11) :
    userFrame gives gateWayID mem frame_len address = userFrame gives gateWayID mem' frame_len address := by
  have hack : ackLen n = n - 6 := by
    have hlt := readLe16_lt hn
    unfold ackLen
    omega
  have hn' : readLe16 mem' 14 = some n := by rw [← readLe16_agree h (by omega), hn]
  rw [userFrame, userFrame, hn, hn', Option.bind_some, Option.bind_some, readBe32_agree h (show 16 + 4 ≤ _ by omega),
    h 20 (by omega), h 21 (by omega), hack, readBytes_agree h (n - 6) 22 (by omega)]

/-- **Safety.** -/
theorem safe_receive (heap : Heap) (gateWayID : UInt32) (mode : ℕ) {u : Usart2}
    (hmax : u.frameLen ≤ USART2_MAX_RX_LN) : SafeReceive heap.gives gateWayID mode u := by
  intro ack u' h
  obtain ⟨u1, hana⟩ := analyse_of_recv h
  obtain ⟨frame_len, address, ha⟩ := analyse_eq_some hana
  obtain ⟨n, hn, h6, hlen, hframe⟩ := (userFrame_spec ha.user).no_underflow
  refine ⟨⟨n, hn, h6, hlen⟩, ?_⟩
  -- 256 bytes never come out, so `len` is the received length
  have hsmall : u.frameLen % 256 = u.frameLen := by
    apply Nat.mod_eq_of_lt
    refine lt_of_le_of_ne hmax fun h256 => ?_
    have hzero := ha.length
    rw [h256, Nat.mod_self, frameLength_zero] at hzero
    cases hzero
  have htotal := frameLength_spec ha.length
  rw [hsmall] at htotal
  have hagree : Agree u.frameLen u.rxBuf u.onlyFrame.rxBuf := fun i hi => (if_pos hi).symm
  have hsame : Analysed heap.gives gateWayID u.onlyFrame ack frame_len address :=
    { recvEnd := ha.recvEnd
      long := ha.long
      length := by
        show frameLength u.onlyFrame.rxBuf (u.frameLen % 256) = _
        rw [hsmall, ← frameLength_agree hagree ha.long (by omega), ← hsmall, ha.length]
      cmd_id := by rw [← hagree 4 (by omega), ha.cmd_id]
      high := by rw [← readBytes_agree hagree 2 8 (by omega)]; exact ha.high
      dev_add := by rw [← readBe32_agree hagree (show 10 + 4 ≤ _ by omega), ha.dev_add]
      user := by rw [← userFrame_agree (htotal ▸ hagree) hn h6 hframe, ha.user] }
  exact recv_of_analyse mode hsame.analyse_eq

/-! ## Frames of devices -/

/-- what a device sends: five bytes the concentrator does not look at, its own address, and the user data -/
structure DeviceFrame where
  control : UInt8
  lead : Fin 5 → UInt8
  address : UInt32
  gateWayID : UInt32
  cmd_code : UInt8
  data : List UInt8

namespace DeviceFrame

variable (d : DeviceFrame)

/-- the user data: the address of the concentrator, the command, type 2, the data -/
def user : List UInt8 := putBe32 d.gateWayID ++ [d.cmd_code, 2] ++ d.data

/-- from the lead bytes to the user data -/
def payload : List UInt8 := List.ofFn d.lead ++ putBe32 d.address ++ putLe16 d.user.length ++ d.user

/-- the frame -/
def bytes : List UInt8 := bottomBytes d.control 0x15 d.payload

theorem length_user : d.user.length = 6 + d.data.length := by
  simp only [user, List.length_append, length_putBe32, List.length_cons, List.length_nil]

theorem length_payload : d.payload.length = 17 + d.data.length := by
  simp only [payload, List.length_append, List.length_ofFn, length_putBe32, length_putLe16, length_user]
  omega

theorem length_bytes : d.bytes.length = 24 + d.data.length := by
  rw [bytes, length_bottomBytes, length_payload]
  omega

/-- the 22 bytes before the data -/
def header : List UInt8 :=
  0x79 :: putLe16 d.payload.length ++ [d.control, 0x15] ++ List.ofFn d.lead ++ putBe32 d.address ++
    putLe16 d.user.length ++ putBe32 d.gateWayID ++ [d.cmd_code, 2]

theorem bytes_eq : d.bytes = d.header ++ (d.data ++ [(checked d.control 0x15 d.payload).foldl (· + ·) 0,
    (checked d.control 0x15 d.payload).foldl (· ^^^ ·) 0]) := by
  simp only [bytes, bottomBytes, header]
  simp only [checked, payload, user, List.append_assoc, List.cons_append]

end DeviceFrame

/-- the frame is what has been received -/
structure Holds (u : Usart2) (d : DeviceFrame) : Prop where
  recvEnd : u.recvEnd = 0xAA
  frameLen : u.frameLen = d.bytes.length
  rxBuf : ∀ i < d.bytes.length, u.rxBuf i = d.bytes[i]?

/-- a little-endian field read back -/
theorem readLe16_eq {mem : Mem} {a m : ℕ} (hm : m < 65536) (h0 : mem a = some (UInt8.ofNat m))
    (h1 : mem (a + 1) = some (UInt8.ofNat (m / 256))) : readLe16 mem a = some m := by
  rw [readLe16, h0, h1, Option.bind_some, Option.map_some, UInt8.toNat_ofNat', UInt8.toNat_ofNat']
  congr 1
  omega

theorem readBe32_eq {mem : Mem} {a : ℕ} {x : UInt32} (h0 : mem a = some (x >>> 24).toUInt8)
    (h1 : mem (a + 1) = some (x >>> 16).toUInt8) (h2 : mem (a + 2) = some (x >>> 8).toUInt8)
    (h3 : mem (a + 3) = some (x >>> 0).toUInt8) : readBe32 mem a = some x := by
  rw [readBe32, h0, h1, h2, h3, Option.bind_some, Option.bind_some, Option.bind_some, Option.map_some,
    getBe32_putBe32]

theorem readBytes_succ (mem : Mem) (a n : ℕ) : readBytes mem a (n + 1) = (mem a).bind fun b =>
    (readBytes mem (a + 1) n).map fun bs => ⟨b :: bs.1, by rw [List.length_cons, bs.2]⟩ := rfl

theorem readBytes_eq {mem : Mem} (bs : List UInt8) : ∀ a, (∀ i (hi : i < bs.length), mem (a + i) = some bs[i]) →
    readBytes mem a bs.length = some ⟨bs, rfl⟩ := by
  induction bs with
  | nil => exact fun a _ => rfl
  | cons b bs ih =>
    intro a h
    have hb := h 0 (Nat.succ_pos _)
    have hrest := ih (a + 1) fun i hi => by
      have hi' := h (i + 1) (Nat.succ_lt_succ hi)
      rwa [List.getElem_cons_succ, show a + (i + 1) = a + 1 + i by omega] at hi'
    rw [Nat.add_zero, List.getElem_cons_zero] at hb
    refine (readBytes_succ mem a bs.length).trans ?_
    rw [hb, hrest]
    rfl

section Holds

variable {u : Usart2} {d : DeviceFrame} (h : Holds u d)
include h

/-- the first checks pass, as long as `len` is the received length -/
theorem Holds.frameLength_eq (hlen : d.bytes.length ≤ 255) :
    frameLength u.rxBuf (u.frameLen % 256) = some (some d.payload.length) := by
  have hbytes : d.bytes = 0x79 :: (checked d.control 0x15 d.payload ++
      [(checked d.control 0x15 d.payload).foldl (· + ·) 0, (checked d.control 0x15 d.payload).foldl (· ^^^ ·) 0]) := rfl
  have hbody := length_checked d.control 0x15 d.payload
  have hpay := d.length_payload
  have htotal := d.length_bytes
  have hhead : checked d.control 0x15 d.payload = putLe16 d.payload.length ++ [d.control, 0x15] ++ d.payload := rfl
  set body := checked d.control 0x15 d.payload with hdef
  have hread : ∀ i (hi : i < body.length), u.rxBuf (1 + i) = some body[i] := by
    intro i hi
    rw [h.rxBuf _ (by omega), hbytes, Nat.add_comm, List.getElem?_cons_succ, List.getElem?_append_left hi,
      List.getElem?_eq_getElem hi]
  have hsum : u.rxBuf (1 + body.length) = some (body.foldl (· + ·) 0) := by
    rw [h.rxBuf _ (by omega), hbytes, Nat.add_comm, List.getElem?_cons_succ, List.getElem?_append_right le_rfl,
      Nat.sub_self]
    rfl
  have hxor : u.rxBuf (2 + body.length) = some (body.foldl (· ^^^ ·) 0) := by
    rw [h.rxBuf _ (by omega), hbytes, show 2 + body.length = (1 + body.length) + 1 by omega, List.getElem?_cons_succ,
      List.getElem?_append_right (by omega), Nat.add_sub_cancel]
    rfl
  have hcsum : atCsum (fun i => u.rxBuf (1 + i)) body.length = some (body.foldl (· + ·) 0) :=
    checkLoop_eq _ (by omega) hread
  have hcxor : atCxor (fun i => u.rxBuf (1 + i)) body.length = some (body.foldl (· ^^^ ·) 0) :=
    checkLoop_eq _ (by omega) hread
  have hmark : u.rxBuf 0 = some 0x79 := by
    rw [h.rxBuf 0 (by omega), hbytes]
    rfl
  have hfield : readLe16 u.rxBuf 1 = some d.payload.length := by
    have h0 := hread 0 (by omega)
    have h1 := hread 1 (by omega)
    simp only [hhead, putLe16] at h0 h1
    exact readLe16_eq (by omega) h0 h1
  have hL : u.frameLen % 256 = body.length + 3 := by
    rw [h.frameLen]
    omega
  have hcount : (body.length + 3 + 65536 - 3) % 65536 = body.length := by omega
  rw [hL, frameLength, hcount, readBack, if_pos (by omega), show body.length + 3 - 2 = 1 + body.length by omega, hsum,
    hcsum, Option.bind_some, Option.bind_some, if_neg (by simp), readBack, if_pos (by omega),
    show body.length + 3 - 1 = 2 + body.length by omega, hxor, hcxor, Option.bind_some, Option.bind_some,
    if_neg (by simp), hmark, Option.bind_some, if_neg (by simp), hfield, Option.map_some, if_neg (by omega)]

/-- the bytes before the data -/
theorem Holds.header {i : ℕ} (hi : i < 22) : u.rxBuf i = d.header[i]? := by
  have hlen := d.length_bytes
  have hhead : d.header.length = 22 := rfl
  rw [h.rxBuf i (by omega), d.bytes_eq, List.getElem?_append_left (by omega)]

/-- the data -/
theorem Holds.data : readBytes u.rxBuf 22 d.data.length = some ⟨d.data, rfl⟩ := by
  have hlen := d.length_bytes
  have hhead : d.header.length = 22 := rfl
  refine readBytes_eq d.data 22 fun i hi => ?_
  rw [h.rxBuf _ (by omega), d.bytes_eq, List.getElem?_append_right (by omega), hhead, Nat.add_sub_cancel_left,
    List.getElem?_append_left hi, List.getElem?_eq_getElem hi]

/-- the branch on `0x15` returns the frame, if the heap has room for its data -/
theorem Holds.userFrame_eq {heap : Heap} (hroom : heap.HasRoom) (hlen : d.bytes.length ≤ USART2_MAX_RX_LN) :
    userFrame heap.gives d.gateWayID u.rxBuf d.payload.length d.address =
      some (if d.data = [] then none else some (ackFrame d.address d.cmd_code 2 ⟨d.data, rfl⟩)) := by
  have htotal := d.length_bytes
  have hmax : USART2_MAX_RX_LN = 256 := rfl
  have huser : readLe16 u.rxBuf 14 = some d.user.length :=
    readLe16_eq (by rw [d.length_user]; omega) (h.header (by omega)) (h.header (by omega))
  have hlocal : readBe32 u.rxBuf 16 = some d.gateWayID :=
    readBe32_eq (h.header (by omega)) (h.header (by omega)) (h.header (by omega)) (h.header (by omega))
  have hcmd : u.rxBuf 20 = some d.cmd_code := h.header (by omega)
  have htype : u.rxBuf 21 = some 2 := h.header (by omega)
  have hack : ackLen d.user.length = d.data.length := by
    rw [ackLen, d.length_user]
    omega
  have hsize : heap.gives plcFrameSize = true := hroom _ (by decide) (by decide)
  rw [userFrame, huser, Option.bind_some, if_neg (by rw [d.length_payload, d.length_user]; omega), hsize,
    if_neg (by simp), hlocal, Option.bind_some, if_neg (by simp), hcmd, htype, Option.bind_some, Option.bind_some,
    if_neg (by simp), hack, h.data]
  by_cases hd : d.data = []
  · have hgives : heap.gives d.data.length = false := by
      rw [hd]
      exact heap.empty
    rw [if_pos hd, if_pos hgives]
  · have hgives : heap.gives d.data.length = true :=
      hroom _ (List.length_pos_iff.2 hd) (by omega)
    rw [if_neg hd, hgives, if_neg (by simp)]
    rfl

/-- what comes out of the analysis -/
theorem Holds.analyse_eq {heap : Heap} (hroom : heap.HasRoom) (hlen : d.bytes.length ≤ 255) :
    analyse heap.gives d.gateWayID u =
      some (if d.data = [] then none else some (ackFrame d.address d.cmd_code 2 ⟨d.data, rfl⟩), u) := by
  have htotal := d.length_bytes
  have hcmd : u.rxBuf 4 = some 0x15 := h.header (by omega)
  have hhigh : readBytes u.rxBuf 8 2 = some ⟨[d.lead 3, d.lead 4], rfl⟩ := by
    refine readBytes_eq [d.lead 3, d.lead 4] 8 fun i hi => ?_
    rw [List.length_cons, List.length_cons, List.length_nil] at hi
    interval_cases i
    · exact h.header (by omega)
    · exact h.header (by omega)
  have haddress : readBe32 u.rxBuf 10 = some d.address :=
    readBe32_eq (h.header (by omega)) (h.header (by omega)) (h.header (by omega)) (h.header (by omega))
  rw [analyse, if_neg (not_not.2 h.recvEnd), if_neg (by rw [h.frameLen]; omega), h.frameLength_eq hlen,
    Option.bind_some]
  dsimp only
  rw [hcmd, hhigh, haddress, Option.bind_some, Option.bind_some, Option.bind_some, if_neg (by decide),
    h.userFrame_eq hroom (hlen.trans (by decide))]
  rfl

end Holds

/-! ## Main result -/

/-- the frame comes back as the device sent it -/
def RoundTrips (gives : ℕ → Bool) (mode : ℕ) (u : Usart2) (d : DeviceFrame) : Prop :=
  ∃ ack u', recvAndAnalysisPlcBottomFrame gives d.gateWayID mode u = some (some ack, u') ∧
    ack.cmd_code = d.cmd_code ∧ ack.address = d.address ∧ ack.buf = d.data

/-- **Round trip.** A frame that fits the receive buffer comes back iff it has between 1 and 231 bytes of data: no data
is no block of the heap, and with 232 bytes the received length is 0 in a `u8`. -/
theorem roundTrip_iff {heap : Heap} (hroom : heap.HasRoom) (mode : ℕ) {u : Usart2} {d : DeviceFrame} (h : Holds u d)
    (hfit : d.bytes.length ≤ USART2_MAX_RX_LN) :
    RoundTrips heap.gives mode u d ↔ 1 ≤ d.data.length ∧ d.data.length ≤ 231 := by
  have htotal := d.length_bytes
  have hmax : USART2_MAX_RX_LN = 256 := rfl
  constructor
  · rintro ⟨ack, u', hrecv, _⟩
    obtain ⟨u1, hana⟩ := analyse_of_recv hrecv
    rcases Nat.lt_or_ge d.bytes.length 256 with hlt | hge
    · rw [h.analyse_eq hroom (Nat.le_of_lt_succ hlt), Option.some.injEq, Prod.mk.injEq] at hana
      refine ⟨?_, by omega⟩
      by_contra hempty
      rw [if_pos (List.length_eq_zero_iff.1 (by omega))] at hana
      cases hana.1
    · -- 256 bytes
      obtain ⟨frame_len, address, ha⟩ := analyse_eq_some hana
      have hzero := ha.length
      rw [h.frameLen, show d.bytes.length = 256 by omega, Nat.mod_self, frameLength_zero] at hzero
      cases hzero
  · rintro ⟨hpos, hlong⟩
    have hne : d.data ≠ [] := List.length_pos_iff.1 hpos
    have hana := h.analyse_eq hroom (by omega)
    rw [if_neg hne] at hana
    obtain ⟨⟨ack, u'⟩, hrecv, hack⟩ := Option.map_eq_some_iff.1 (recv_of_analyse mode hana)
    dsimp only at hack
    subst hack
    exact ⟨_, u', hrecv, rfl, rfl, rfl⟩

/-- **Receiving.** Whatever is received, what is returned is safe, and the frames that come back as they were sent are
those with 1 to 231 bytes of data. -/
theorem bottomFrame_receive_iff {heap : Heap} (hroom : heap.HasRoom) (mode : ℕ) :
    (∀ gateWayID u, u.frameLen ≤ USART2_MAX_RX_LN → SafeReceive heap.gives gateWayID mode u) ∧
      ∀ u d, Holds u d → d.bytes.length ≤ USART2_MAX_RX_LN →
        (RoundTrips heap.gives mode u d ↔ 1 ≤ d.data.length ∧ d.data.length ≤ 231) :=
  ⟨fun gateWayID _ hlen => safe_receive heap gateWayID mode hlen, fun _ _ h hfit => roundTrip_iff hroom mode h hfit⟩

/-- an empty heap of 64 KiB, less the end marker -/
def freshHeap : Heap where
  gives n := 0 < n ∧ n + xHeapStructSize ≤ configTOTAL_HEAP_SIZE - xHeapStructSize
  empty := rfl
  bounded := by
    intro n h
    exact (of_decide_eq_true h).2.trans (Nat.sub_le _ _)

theorem freshHeap_hasRoom : freshHeap.HasRoom := by
  intro n hpos hle
  refine decide_eq_true ⟨hpos, ?_⟩
  unfold USART2_MAX_RX_LN at hle
  unfold xHeapStructSize configTOTAL_HEAP_SIZE
  omega

/-- an answer with `n` zero bytes -/
def answer (n : ℕ) : DeviceFrame := ⟨0x58, fun _ => 0, 1, 10, 0x80, List.replicate n 0⟩

/-- it has been received -/
def answered (n : ℕ) : Usart2 := ⟨0xAA, (answer n).bytes.length, fun i => (answer n).bytes[i]?⟩

theorem holds_answered (n : ℕ) : Holds (answered n) (answer n) := ⟨rfl, rfl, fun _ _ => rfl⟩

theorem length_answer (n : ℕ) : (answer n).bytes.length = 24 + n := by
  rw [DeviceFrame.length_bytes]
  exact congrArg (24 + ·) List.length_replicate

/-- one byte comes back -/
theorem receive_one : RoundTrips freshHeap.gives 1 (answered 1) (answer 1) :=
  ((bottomFrame_receive_iff freshHeap_hasRoom 1).2 _ _ (holds_answered 1) (by rw [length_answer]; decide)).2 (by decide)

/-- 232 bytes fit the receive buffer and do not come back; neither does an answer without data -/
theorem lost_answers : (answer 232).bytes.length = USART2_MAX_RX_LN ∧ Holds (answered 232) (answer 232) ∧
    ¬ RoundTrips freshHeap.gives 1 (answered 232) (answer 232) ∧
    Holds (answered 0) (answer 0) ∧ ¬ RoundTrips freshHeap.gives 1 (answered 0) (answer 0) := by
  refine ⟨length_answer 232, holds_answered 232, ?_, holds_answered 0, ?_⟩
  · rw [roundTrip_iff freshHeap_hasRoom 1 (holds_answered 232) (length_answer 232).le]
    intro h
    have hdata : (answer 232).data.length = 232 := List.length_replicate
    omega
  · rw [roundTrip_iff freshHeap_hasRoom 1 (holds_answered 0) (by rw [length_answer]; decide)]
    exact fun h => absurd h.1 (by decide)

end DataConcentrator.Plc
