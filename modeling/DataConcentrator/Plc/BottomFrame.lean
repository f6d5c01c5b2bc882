/-
The frame on the power line: `CombinePlcBottomFrame` with `plc_pack_user_data`, `plc_combine_data` and the two
checksums.

The length goes through `u8` variables, the buffers have 256 bytes, and the checksums count in a `u8`.
- `combine_eq`: what comes out for every length of the user data;
- `encodes_iff`: the whole frame comes out, with its length as the result, up to 238 bytes of user data, and a frame
  that is too long is never reported;
- `length_lost_239`: a frame of 256 bytes fits, and its result is 0.
-/
import DataConcentrator.Lib.ByteStore
import DataConcentrator.Lib.CLoop
import DataConcentrator.Common.Bytes
import DataConcentrator.Plc.Task

namespace DataConcentrator.Plc

open ByteStore (put)

/-! ## Frames -/

/-- `PlcFrame_S` with the bytes `buf` leads to -/
structure BottomFrame where
  type : UInt8
  address : UInt32
  cmd_code : UInt8
  group_num : ℕ
  group_id : Fin (MAX_LAMP_GROUP_NUM + 1) → UInt8
  wait_ack : UInt8
  resp_ack : UInt8
  len : ℕ
  buf : List UInt8
  groups : group_num ≤ MAX_LAMP_GROUP_NUM
  holds : buf.length = len

/-- the group numbers sent -/
def BottomFrame.groupIds (frame : BottomFrame) : List UInt8 := (List.ofFn frame.group_id).take frame.group_num

@[simp] theorem length_groupIds (frame : BottomFrame) : frame.groupIds.length = frame.group_num := by
  have h := frame.groups
  rw [BottomFrame.groupIds, List.length_take, List.length_ofFn]
  omega

/-! ## `plc.c` -/

/-- `(u8)x, (u8)(x >> 8)` -/
def putLe16 (x : ℕ) : List UInt8 := [UInt8.ofNat x, UInt8.ofNat (x / 256)]

/-- the loop of `at_csum` and `at_cxor`, with `u8 i` against `u16 len`; `buf` is `none` where nothing may be read -/
def checkLoop (op : UInt8 → UInt8 → UInt8) (buf : ℕ → Option UInt8) (len : ℕ) : Option UInt8 :=
  CLoop.forLoop 8 len (fun csum i => (buf i).map (op csum)) 255 0 0

def atCsum (buf : ℕ → Option UInt8) (len : ℕ) : Option UInt8 := checkLoop (· + ·) buf len

def atCxor (buf : ℕ → Option UInt8) (len : ℕ) : Option UInt8 := checkLoop (· ^^^ ·) buf len

/-- `plc_combine_data`, to a buffer of `size` bytes: the result and the buffer -/
def plcCombineData (size : ℕ) (cmd : UInt8) (buff : List UInt8) (outbuf : ℕ → UInt8) : Option (ℕ × (ℕ → UInt8)) :=
  let len := buff.length
  (put size outbuf 0 ([0x79] ++ putLe16 len ++ [0x58, cmd] ++ buff)).bind fun outbuf =>
    (atCsum (fun i => some (outbuf (1 + i))) (4 + len)).bind fun csum =>
      (put size outbuf (5 + len) [csum]).bind fun outbuf =>
        (atCxor (fun i => some (outbuf (1 + i))) (4 + len)).bind fun cxor =>
          (put size outbuf (6 + len) [cxor]).map fun outbuf => ((len + 5 + 2) % 65536, outbuf)

/-- what `plc_pack_user_data` writes -/
def packedUserData (dis_add inbuf : List UInt8) : List UInt8 := [0x44, 0x00] ++ dis_add ++ putLe16 inbuf.length ++ inbuf

/-- `plc_pack_user_data`, to the bytes from `base` on of a buffer of `size` bytes -/
def plcPackUserData (size base : ℕ) (dis_add inbuf : List UInt8) (outbuf : ℕ → UInt8) : Option (ℕ × (ℕ → UInt8)) :=
  (put size outbuf base (packedUserData dis_add inbuf)).map fun outbuf => ((10 + inbuf.length) % 65536, outbuf)

/-! ## `CombinePlcBottomFrame` -/

/-- `u8 buf[256]` of `CombinePlcBottomFrame`, and `send_buf` of its caller -/
def bufSize : ℕ := 256

/-- `buf` and `len` after the switch -/
def userBuf (frame : BottomFrame) : Option ((ℕ → UInt8) × ℕ) :=
  (put bufSize (fun _ => 0) 0 (putBe32 frame.address ++ [frame.cmd_code, frame.type])).bind fun buf =>
    if frame.type = 0 then
      (put bufSize buf 6 frame.buf).map fun buf => (buf, (6 + frame.len) % 256)
    else if frame.type = 1 then
      (put bufSize buf 6 [UInt8.ofNat frame.group_num]).bind fun buf =>
        (put bufSize buf 7 frame.groupIds).bind fun buf =>
          (put bufSize buf (7 + frame.group_num) frame.buf).map fun buf =>
            (buf, (7 + frame.group_num + frame.len) % 256)
    else if frame.type = 2 then
      (put bufSize buf 6 frame.buf).map fun buf => (buf, (6 + frame.len) % 256)
    else some (buf, 0)

/-- `u8 address[6]` -/
def broadcastAddress : List UInt8 := List.replicate 6 0xFF

/-- the two calls at the end; the second works in place -/
def packAndCombine (inbuf : List UInt8) (outbuf : ℕ → UInt8) : Option (ℕ × (ℕ → UInt8)) :=
  (plcPackUserData bufSize 5 broadcastAddress inbuf outbuf).bind fun (ret, outbuf) =>
    let len := ret % 256
    (plcCombineData bufSize 0x14 (ByteStore.read outbuf 5 len) outbuf).map fun (ret, outbuf) => (ret % 256, outbuf)

/-- `CombinePlcBottomFrame`: the result and `send_buf` -/
def combinePlcBottomFrame (frame : BottomFrame) (outbuf : ℕ → UInt8) : Option (ℕ × (ℕ → UInt8)) :=
  (userBuf frame).bind fun (buf, len) => packAndCombine (ByteStore.read buf 0 len) outbuf

/-! ## The format -/

/-- the user data of a frame -/
def userBytes (frame : BottomFrame) : List UInt8 :=
  putBe32 frame.address ++ [frame.cmd_code, frame.type] ++
    (if frame.type = 1 then UInt8.ofNat frame.group_num :: frame.groupIds else []) ++ frame.buf

/-- what the two checksums cover: the length field, the control bytes and the data -/
def checked (control cmd : UInt8) (data : List UInt8) : List UInt8 := putLe16 data.length ++ [control, cmd] ++ data

/-- a bottom frame: its mark, what the checksums cover, the sum and the xor -/
def bottomBytes (control cmd : UInt8) (data : List UInt8) : List UInt8 :=
  0x79 :: checked control cmd data ++
    [(checked control cmd data).foldl (· + ·) 0, (checked control cmd data).foldl (· ^^^ ·) 0]

/-- the bottom frame that carries user data to a lamp -/
def sendBytes (user : List UInt8) : List UInt8 := bottomBytes 0x58 0x14 (packedUserData broadcastAddress user)

@[simp] theorem length_putLe16 (x : ℕ) : (putLe16 x).length = 2 := rfl

@[simp] theorem length_packedUserData (dis_add inbuf : List UInt8) :
    (packedUserData dis_add inbuf).length = 4 + dis_add.length + inbuf.length := by
  simp only [packedUserData, List.length_append, List.length_cons, List.length_nil, length_putLe16]
  omega

@[simp] theorem length_checked (control cmd : UInt8) (data : List UInt8) :
    (checked control cmd data).length = 4 + data.length := by
  simp only [checked, List.length_append, List.length_cons, List.length_nil, length_putLe16]

@[simp] theorem length_bottomBytes (control cmd : UInt8) (data : List UInt8) :
    (bottomBytes control cmd data).length = 7 + data.length := by
  simp only [bottomBytes, List.cons_append, List.length_cons, List.length_append, List.length_nil, length_checked]
  omega

theorem length_sendBytes (user : List UInt8) : (sendBytes user).length = 17 + user.length := by
  simp only [sendBytes, length_bottomBytes, length_packedUserData, broadcastAddress, List.length_replicate]
  omega

/-- in terms of the fields of the frame -/
theorem length_userBytes (frame : BottomFrame) :
    (userBytes frame).length = 6 + (if frame.type = 1 then 1 + frame.group_num else 0) + frame.len := by
  have h := frame.holds
  unfold userBytes
  split_ifs <;> simp only [List.length_append, List.length_cons, List.length_nil, length_putBe32, length_groupIds] <;>
    omega

/-! ## Checksums -/

/-- over bytes that may all be read, up to 255 of them -/
theorem checkLoop_eq (op : UInt8 → UInt8 → UInt8) {buf : ℕ → Option UInt8} {bs : List UInt8} (h : bs.length ≤ 255)
    (hbuf : ∀ i (hi : i < bs.length), buf i = some bs[i]) : checkLoop op buf bs.length = some (bs.foldl op 0) := by
  have hread : ∀ i < bs.length, ∀ csum, (buf i).map (op csum) = (bs[i]?).bind fun b => some (op csum b) := by
    intro i hi csum
    rw [hbuf i hi, List.getElem?_eq_getElem hi]
    rfl
  have hfold : ∀ (cs : List UInt8) (csum : UInt8),
      cs.foldlM (fun csum b => some (op csum b)) csum = some (cs.foldl op csum) := by
    intro cs
    induction cs with
    | nil => intro csum; rfl
    | cons c cs ih => exact fun csum => ih (op csum c)
  rw [checkLoop, CLoop.forLoop_congr 8 hread, CLoop.forLoop_eq_foldlM 8 _ 255 0 (by omega) h,
    CLoop.foldlM_range_getElem?, hfold]

/-! ## What comes out -/

/-- the writes of the switch are adjacent -/
theorem userBuf_eq {frame : BottomFrame} (h : frame.type = 0 ∨ frame.type = 1 ∨ frame.type = 2) :
    userBuf frame = (put bufSize (fun _ => 0) 0 (userBytes frame)).map fun buf => (buf, (userBytes frame).length % 256) := by
  have hlen := length_userBytes frame
  have hplain : frame.type ≠ 1 →
      ((put bufSize (fun _ => 0) 0 (putBe32 frame.address ++ [frame.cmd_code, frame.type])).bind fun buf =>
        (put bufSize buf 6 frame.buf).map fun buf => (buf, (6 + frame.len) % 256)) =
      (put bufSize (fun _ => 0) 0 (userBytes frame)).map fun buf => (buf, (userBytes frame).length % 256) := by
    intro hne
    rw [if_neg hne, Nat.add_zero] at hlen
    rw [ByteStore.put_map _ _ _ _ (by rfl), hlen, userBytes, if_neg hne, List.append_nil]
  unfold userBuf
  rcases h with h | h | h
  · simp only [if_pos h]
    exact hplain (by rw [h]; decide)
  · have h0 : frame.type ≠ 0 := by rw [h]; decide
    simp only [if_neg h0, if_pos h]
    rw [if_pos h, show 6 + (1 + frame.group_num) + frame.len = 7 + frame.group_num + frame.len by omega] at hlen
    rw [ByteStore.put_bind _ _ _ _ (by rfl), ByteStore.put_bind _ _ _ _ (by rfl),
      ByteStore.put_map _ _ _ _ (by simp; omega), hlen, userBytes, if_pos h]
    simp only [List.append_assoc, List.cons_append, List.nil_append]
  · have h0 : frame.type ≠ 0 := by rw [h]; decide
    have h1 : frame.type ≠ 1 := by rw [h]; decide
    simp only [if_neg h0, if_neg h1, if_pos h]
    exact hplain h1

/-- a checksum over the bytes after the mark -/
theorem checkLoop_frame (op : UInt8 → UInt8 → UInt8) (m : ℕ → UInt8) (body rest : List UInt8) (h : body.length ≤ 255) :
    checkLoop op (fun i => some (ByteStore.write m 0 (0x79 :: (body ++ rest)) (1 + i))) body.length =
      some (body.foldl op 0) := by
  refine checkLoop_eq op h fun i hi => ?_
  have hat := ByteStore.write_at m 0 (i + 1) (0x79 :: (body ++ rest)) (by simp; omega)
  rw [Nat.zero_add] at hat
  rw [Nat.add_comm, hat, List.getElem_cons_succ, List.getElem_append_left hi]

/-- `plc_combine_data` writes a bottom frame, where the checksums end -/
theorem plcCombineData_eq (size : ℕ) (cmd : UInt8) {buff : List UInt8} (outbuf : ℕ → UInt8) (h : buff.length ≤ 251) :
    plcCombineData size cmd buff outbuf =
      (put size outbuf 0 (bottomBytes 0x58 cmd buff)).map fun outbuf => (buff.length + 7, outbuf) := by
  have hbody : (checked 0x58 cmd buff).length = 4 + buff.length := length_checked _ _ _
  have hhead : [0x79] ++ putLe16 buff.length ++ [0x58, cmd] ++ buff = 0x79 :: checked 0x58 cmd buff := by
    simp [checked]
  have hmod : (buff.length + 5 + 2) % 65536 = buff.length + 7 := Nat.mod_eq_of_lt (by omega)
  set body := checked 0x58 cmd buff with hdef
  set csum := body.foldl (· + ·) 0 with hcsum
  set cxor := body.foldl (· ^^^ ·) 0 with hcxor
  have hframe : bottomBytes 0x58 cmd buff = 0x79 :: (body ++ [csum] ++ [cxor]) := by
    simp [bottomBytes, ← hdef, ← hcsum, ← hcxor]
  have hlen : (0x79 :: body).length = 5 + buff.length := by
    rw [List.length_cons, hbody]
    omega
  have hsum : atCsum (fun i => some (ByteStore.write outbuf 0 (0x79 :: body) (1 + i))) (4 + buff.length) = some csum := by
    have hloop := checkLoop_frame (· + ·) outbuf body [] (by omega)
    rwa [List.append_nil, hbody] at hloop
  have hxor : atCxor (fun i => some (ByteStore.write outbuf 0 (0x79 :: body ++ [csum]) (1 + i))) (4 + buff.length) =
      some cxor := by
    have hloop := checkLoop_frame (· ^^^ ·) outbuf body [csum] (by omega)
    rwa [hbody] at hloop
  rw [plcCombineData, hhead, hmod]
  calc
    _ = (put size outbuf 0 (0x79 :: body)).bind fun m => (put size m (5 + buff.length) [csum]).bind fun m =>
          (atCxor (fun i => some (m (1 + i))) (4 + buff.length)).bind fun cxor =>
            (put size m (6 + buff.length) [cxor]).map fun m => (buff.length + 7, m) :=
      ByteStore.put_congr (by rw [hsum, Option.bind_some])
    _ = (put size outbuf 0 (0x79 :: body ++ [csum])).bind fun m =>
          (atCxor (fun i => some (m (1 + i))) (4 + buff.length)).bind fun cxor =>
            (put size m (6 + buff.length) [cxor]).map fun m => (buff.length + 7, m) :=
      ByteStore.put_bind _ _ _ _ (by omega)
    _ = (put size outbuf 0 (0x79 :: body ++ [csum])).bind fun m =>
          (put size m (6 + buff.length) [cxor]).map fun m => (buff.length + 7, m) :=
      ByteStore.put_congr (by rw [hxor, Option.bind_some])
    _ = (put size outbuf 0 (0x79 :: body ++ [csum] ++ [cxor])).map fun m => (buff.length + 7, m) :=
      ByteStore.put_map _ _ _ _ (by rw [List.length_append, hlen]; simp; omega)
    _ = _ := by rw [hframe]; rfl

/-- the two calls, on user data that `u8 len` can hold -/
theorem packAndCombine_eq {user : List UInt8} (h : user.length ≤ 255) (outbuf : ℕ → UInt8) :
    packAndCombine user outbuf =
      if user.length ≤ 239 then some ((17 + user.length) % 256, ByteStore.write outbuf 0 (sendBytes user)) else none := by
  have hdata : (packedUserData broadcastAddress user).length = 10 + user.length := by
    simp [broadcastAddress]
  rw [packAndCombine, plcPackUserData]
  by_cases hfit : 5 + (packedUserData broadcastAddress user).length ≤ bufSize
  · have hret : (10 + user.length) % 65536 % 256 = 10 + user.length := by
      unfold bufSize at hfit
      omega
    have hread := ByteStore.read_write_same outbuf 5 (packedUserData broadcastAddress user)
    rw [ByteStore.put_eq_some _ hfit, Option.map_some, Option.bind_some]
    dsimp only
    rw [hret, ← hdata, hread, plcCombineData_eq _ _ _ (by unfold bufSize at hfit; omega)]
    have hlen := length_sendBytes user
    have hcover : 5 + (packedUserData broadcastAddress user).length ≤ 0 + (sendBytes user).length := by omega
    by_cases hsize : user.length ≤ 239
    · rw [if_pos hsize, ByteStore.put_eq_some _ (by unfold bufSize; rw [← sendBytes]; omega), Option.map_some,
        Option.map_some, ← sendBytes, ByteStore.write_cover _ (Nat.zero_le 5) hcover]
      dsimp only
      rw [hdata, show 10 + user.length + 7 = 17 + user.length by omega]
    · rw [if_neg hsize, ByteStore.put_eq_none _ (by unfold bufSize; rw [← sendBytes]; omega)]
      rfl
  · rw [ByteStore.put_eq_none _ (Nat.not_le.1 hfit), if_neg (by unfold bufSize at hfit; omega)]
    rfl

/-- **What comes out.** The whole frame, with its length modulo 256, up to 239 bytes of user data; 256 bytes become an
empty frame, and any other length writes past a buffer or never ends. -/
theorem combine_eq {frame : BottomFrame} (htype : frame.type = 0 ∨ frame.type = 1 ∨ frame.type = 2)
    (outbuf : ℕ → UInt8) :
    combinePlcBottomFrame frame outbuf =
      if (userBytes frame).length ≤ 239 then
        some ((17 + (userBytes frame).length) % 256, ByteStore.write outbuf 0 (sendBytes (userBytes frame)))
      else if (userBytes frame).length = 256 then some (17, ByteStore.write outbuf 0 (sendBytes []))
      else none := by
  rw [combinePlcBottomFrame, userBuf_eq htype]
  generalize userBytes frame = user
  rcases Nat.lt_trichotomy user.length 256 with hlt | heq | hgt
  · have hread := ByteStore.read_write_same (fun _ => (0 : UInt8)) 0 user
    rw [ByteStore.put_eq_some _ (by unfold bufSize; omega), Option.map_some, Option.bind_some, Nat.mod_eq_of_lt hlt]
    dsimp only
    rw [hread, packAndCombine_eq (by omega), if_neg (show ¬ user.length = 256 by omega)]
  · rw [ByteStore.put_eq_some _ (by unfold bufSize; omega), Option.map_some, Option.bind_some, heq]
    exact @packAndCombine_eq [] (Nat.zero_le 255) outbuf
  · rw [ByteStore.put_eq_none _ (by unfold bufSize; omega), if_neg (by omega), if_neg (by omega)]
    rfl

/-! ## Main result -/

/-- the whole frame is in the buffer, nothing else is changed, and the result is its length; a frame that does not fit
the buffer has the result 0 -/
def Encodes (frame : BottomFrame) (outbuf : ℕ → UInt8) : Prop :=
  if (sendBytes (userBytes frame)).length ≤ bufSize then
    combinePlcBottomFrame frame outbuf =
      some ((sendBytes (userBytes frame)).length, ByteStore.write outbuf 0 (sendBytes (userBytes frame)))
  else ∃ m, combinePlcBottomFrame frame outbuf = some (0, m)

/-- **Encoding.** -/
theorem encodes_iff {frame : BottomFrame} (htype : frame.type = 0 ∨ frame.type = 1 ∨ frame.type = 2)
    (outbuf : ℕ → UInt8) :
    Encodes frame outbuf ↔ 6 + (if frame.type = 1 then 1 + frame.group_num else 0) + frame.len ≤ 238 := by
  have hlen := length_sendBytes (userBytes frame)
  rw [← length_userBytes, Encodes, combine_eq htype, hlen]
  unfold bufSize
  generalize userBytes frame = user
  constructor
  · intro h
    by_contra hlong
    by_cases hfit : 17 + user.length ≤ 256
    · -- 256 is 0 in a `u8`
      rw [if_pos hfit, if_pos (by omega), Option.some.injEq, Prod.mk.injEq] at h
      omega
    · rw [if_neg hfit, if_neg (by omega)] at h
      obtain ⟨m, hm⟩ := h
      split_ifs at hm
      rw [Option.some.injEq, Prod.mk.injEq] at hm
      omega
  · intro h
    rw [if_pos (by omega), if_pos (by omega), Nat.mod_eq_of_lt (by omega)]

theorem length_zeros (n : ℕ) : (List.replicate n (0 : UInt8)).length = n := List.length_replicate

/-- a transparent transmission of `n` zero bytes -/
def zeroPayload (n : ℕ) : BottomFrame where
  type := 2
  address := 1
  cmd_code := 0
  group_num := 0
  group_id := fun _ => 0
  wait_ack := 1
  resp_ack := 0
  len := n
  buf := List.replicate n 0
  groups := Nat.zero_le _
  holds := length_zeros n

/-- 232 bytes -/
theorem encodes_232 : Encodes (zeroPayload 232) fun _ => 0 := by
  rw [encodes_iff (.inr (.inr rfl))]
  simp [zeroPayload]

/-- 233 bytes: the frame has 256, as many as `send_buf`, and its result is 0 -/
theorem length_lost_239 : (zeroPayload 233).type = 2 ∧ (sendBytes (userBytes (zeroPayload 233))).length = 256 ∧
    combinePlcBottomFrame (zeroPayload 233) (fun _ => 0) =
      some (0, ByteStore.write (fun _ => 0) 0 (sendBytes (userBytes (zeroPayload 233)))) ∧
    ¬ Encodes (zeroPayload 233) fun _ => 0 := by
  have hlen : (userBytes (zeroPayload 233)).length = 239 := by
    rw [length_userBytes, if_neg (by decide)]
    rfl
  have hsend : (sendBytes (userBytes (zeroPayload 233))).length = 256 := by rw [length_sendBytes, hlen]
  have hcombine : combinePlcBottomFrame (zeroPayload 233) (fun _ => 0) =
      some (0, ByteStore.write (fun _ => 0) 0 (sendBytes (userBytes (zeroPayload 233)))) := by
    rw [combine_eq (.inr (.inr rfl)), hlen, if_pos le_rfl]
  refine ⟨rfl, hsend, hcombine, ?_⟩
  rw [Encodes, if_pos (by rw [hsend]; exact le_refl bufSize), hcombine, hsend, Option.some.injEq, Prod.mk.injEq]
  exact fun h => absurd h.1 (by decide)

end DataConcentrator.Plc
