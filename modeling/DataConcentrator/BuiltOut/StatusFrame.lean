/-
The status frames of the relay modules and of the input collectors on the RS-485 bus: `AnalysisBuiltOutRelayFrame` and
`AnalysisBuiltOutInputCollectorFrame`.

The end of a frame is the first place its six-byte tail stands at. A frame that is read past has no result here.
- `analysisHead_eq`: what the two functions make of any received frame before they look at its data;
- `relayRecovered_iff`, `inputsRecovered_iff`: a packed frame is read back exactly if the bytes before the first tail in
  it close a frame;
- `statusFrames_iff`: when the fields come back, when nothing is read outside, and what is never accepted.
-/
import Mathlib.Data.List.GetD
import DataConcentrator.Common.Strstr
import DataConcentrator.Lib.FirstMatch
import DataConcentrator.Relay.Module

namespace DataConcentrator.BuiltOut

open FirstMatch (At FirstAt firstAt_unique exists_firstAt at_append)
open Relay (calCheckSum packBuiltOutRelayFrame)

/-! ## Frames -/

/-- `Rs485Frame_S`, whose `len` is a `u16` -/
structure Rs485Frame where
  buf : List UInt8
  fits : buf.length < 65536

def buf_tail : List UInt8 := [0xFE, 0xFD, 0xFC, 0xFB, 0xFA, 0xF9]

/-- `RelayModuleCollectState_S` -/
structure RelayCollectState where
  address : UInt8
  channel : UInt8
  update : UInt8
  loop_collect_state : UInt16
deriving DecidableEq, Repr

/-- `InputCollectorCollectState_S`; an analog state is the eight bytes of a double -/
structure InputCollectState where
  address : UInt8
  channel : UInt8
  update : UInt8
  d_collect_state : UInt16
  a_collect_state : ℕ → List UInt8

/-- the layout of the frames to and from a kind of module -/
def packBuiltOutFrame (kind address fun_code : UInt8) (inbuf : List UInt8) : List UInt8 :=
  let head := [0x68, 0x00, 0x00, 0x00, 0x00, 0x00, kind, 0x68, 0xFF, 0xFF] ++ List.replicate 16 0 ++
    [address, fun_code, UInt8.ofNat inbuf.length] ++ inbuf
  head ++ [calCheckSum head, 0x16, 0xFE, 0xFD, 0xFC, 0xFB, 0xFA, 0xF9]

theorem packBuiltOutRelayFrame_eq (address fun_code : UInt8) (inbuf : List UInt8) :
    packBuiltOutRelayFrame address fun_code inbuf = packBuiltOutFrame 0x02 address fun_code inbuf := rfl

def packBuiltOutInputCollectorFrame (address fun_code : UInt8) (inbuf : List UInt8) : List UInt8 :=
  packBuiltOutFrame 0x06 address fun_code inbuf

/-- the data of a status frame -/
structure Payload (n : ℕ) where
  bytes : List UInt8
  size : bytes.length = n

/-! ## Decoding -/

/-- what both functions do up to `switch(cmd_code)`: the address, the command and the length field of a frame with right
marks and a right checksum. The two bytes before the tail are there to be read: it is not at the start, where the first
mark is, nor one behind it, where this mark would have to be `0x16` -/
def analysisHead (buf : List UInt8) : Option (Option (UInt8 × UInt8 × UInt8)) := do
  let pos1 := myStrstr buf buf_tail buf.length 6
  let cmd_code ← buf[27]?
  let data_len ← buf[28]?
  if pos1 ≠ 0xFFFF ∧ buf[0]? = some 0x68 ∧ buf[7]? = some 0x68 ∧ buf[pos1 - 1]? = some 0x16 then
    let read_check_sum ← buf[pos1 - 2]?
    if read_check_sum = calCheckSum (buf.take (pos1 - 2)) then
      let address ← buf[26]?
      some (some (address, cmd_code, data_len))
    else some none
  else some none

/-- two bytes, the most significant first -/
def word (hi lo : UInt8) : UInt16 := hi.toUInt16 * 0x100 + lo.toUInt16

def wordAt (buf : List UInt8) (k : ℕ) : Option UInt16 := do
  let hi ← buf[k]?
  let lo ← buf[k + 1]?
  some (word hi lo)

/-- `memcpy` of eight bytes -/
def doubleAt (buf : List UInt8) (k : ℕ) : Option (List UInt8) :=
  if k + 8 ≤ buf.length then some ((buf.drop k).take 8) else none

/-- `ret`, and what `collect_state` holds then -/
def analysisBuiltOutRelayFrame (buf : List UInt8) (s : RelayCollectState) : Option (UInt8 × RelayCollectState) := do
  match ← analysisHead buf with
  | none => some (0, s)
  | some (address, cmd_code, data_len) =>
    let s := { s with address := address, channel := 1 }
    if cmd_code = 0xD0 ∧ data_len = 7 then
      let loop_collect_state ← wordAt buf 29
      some (1, { s with loop_collect_state := loop_collect_state, update := 1 })
    else some (0, s)

/-- `ret`, and what `collect_state` holds then -/
def analysisBuiltOutInputCollectorFrame (buf : List UInt8) (s : InputCollectState) :
    Option (UInt8 × InputCollectState) := do
  match ← analysisHead buf with
  | none => some (0, s)
  | some (address, cmd_code, data_len) =>
    let s := { s with address := address, channel := 1 }
    if cmd_code = 0xE0 ∧ data_len = 21 then
      let d_collect_state ← wordAt buf 29
      let a0 ← doubleAt buf 31
      let a1 ← doubleAt buf 39
      some (1, { s with
        d_collect_state := d_collect_state
        a_collect_state := Function.update (Function.update s.a_collect_state 0 a0) 1 a1
        update := 1 })
    else some (0, s)

/-! ## The tail -/

/-- `MyStrstr` gives the first place of the tail, or says that there is none -/
theorem myStrstr_tail (f : Rs485Frame) :
    (∃ k, FirstAt buf_tail f.buf k ∧ myStrstr f.buf buf_tail f.buf.length 6 = k ∧ k ≠ 0xFFFF) ∨
    ((∀ k, ¬ At buf_tail f.buf k) ∧ myStrstr f.buf buf_tail f.buf.length 6 = 0xFFFF) := by
  have hspec := @myStrstr_spec buf_tail f.buf 6 (by decide) le_rfl
  have htake : buf_tail.take 6 = buf_tail := rfl
  rw [htake] at hspec
  rcases hspec with ⟨k, hfirst, hle, hfound⟩ | hno
  · have hfits := f.fits
    exact Or.inl ⟨k, hfirst, hfound, by omega⟩
  · exact Or.inr hno

/-! ## What is accepted -/

/-- the end mark stands before place `k`, and before it the checksum of all that comes first -/
def Closes (buf : List UInt8) (k : ℕ) : Prop :=
  buf[k - 1]? = some 0x16 ∧ buf[k - 2]? = some (calCheckSum (buf.take (k - 2)))

/-- the marks of a frame, and its first tail closes it -/
structure Framed (buf : List UInt8) : Prop where
  first : buf[0]? = some 0x68
  second : buf[7]? = some 0x68
  closed : ∃ k, FirstAt buf_tail buf k ∧ Closes buf k

/-- the bytes between the marks and the data: the address, the command and the length -/
structure Header (buf : List UInt8) (address cmd_code data_len : UInt8) : Prop where
  address : buf[26]? = some address
  cmd_code : buf[27]? = some cmd_code
  data_len : buf[28]? = some data_len

theorem exists_header {buf : List UInt8} (h : 29 ≤ buf.length) : ∃ address cmd_code data_len,
    Header buf address cmd_code data_len :=
  ⟨_, _, _, List.getElem?_eq_getElem (show 26 < buf.length by omega), List.getElem?_eq_getElem (show 27 < buf.length by omega),
    List.getElem?_eq_getElem (show 28 < buf.length by omega)⟩

theorem analysisHead_short {buf : List UInt8} (h : buf.length < 29) : analysisHead buf = none := by
  have hnone : buf[28]? = none := List.getElem?_eq_none (by omega)
  rw [analysisHead, hnone]
  cases buf[27]? <;> rfl

section Head

variable {f : Rs485Frame} {address cmd_code data_len : UInt8}

theorem analysisHead_framed (hhead : Header f.buf address cmd_code data_len) (h : Framed f.buf) :
    analysisHead f.buf = some (some (address, cmd_code, data_len)) := by
  obtain ⟨k, hfirst, hmark, hsum⟩ := h.closed
  rcases myStrstr_tail f with ⟨j, hj, hpos, hne⟩ | ⟨hno, -⟩
  · rw [firstAt_unique hj hfirst] at hpos hne
    rw [analysisHead, hpos, hhead.cmd_code, hhead.data_len]
    simp only [Option.bind_eq_bind, Option.bind_some]
    rw [if_pos ⟨hne, h.first, h.second, hmark⟩, hsum, Option.bind_some, if_pos rfl, hhead.address, Option.bind_some]
  · exact absurd hfirst.here (hno k)

theorem analysisHead_other (hhead : Header f.buf address cmd_code data_len) (h : ¬ Framed f.buf) :
    analysisHead f.buf = some none := by
  rw [analysisHead, hhead.cmd_code, hhead.data_len]
  simp only [Option.bind_eq_bind, Option.bind_some]
  rcases myStrstr_tail f with ⟨k, hfirst, hpos, -⟩ | ⟨-, hpos⟩
  · rw [hpos]
    split_ifs with hmarks
    · obtain ⟨-, hzero, hseven, hmark⟩ := hmarks
      have hlt : k - 2 < f.buf.length := by
        have hle := (List.getElem?_eq_some_iff.1 hmark).1
        omega
      rw [List.getElem?_eq_getElem hlt, Option.bind_some, if_neg]
      intro hsum
      exact h ⟨hzero, hseven, k, hfirst, hmark, by rw [List.getElem?_eq_getElem hlt, hsum]⟩
    · rfl
  · rw [hpos, if_neg fun h => h.1 rfl]

end Head

/-- **Before the data.** A frame is read outside if it ends before its length field; otherwise the address, the command
and the length of a frame are taken from it if its marks are right and its first tail closes it. -/
theorem analysisHead_eq (f : Rs485Frame) :
    (f.buf.length < 29 ∧ analysisHead f.buf = none) ∨ 29 ≤ f.buf.length ∧ ∃ address cmd_code data_len,
      Header f.buf address cmd_code data_len ∧
        ((Framed f.buf ∧ analysisHead f.buf = some (some (address, cmd_code, data_len))) ∨
          ¬ Framed f.buf ∧ analysisHead f.buf = some none) := by
  by_cases hlen : 29 ≤ f.buf.length
  · obtain ⟨address, cmd_code, data_len, hhead⟩ := exists_header hlen
    refine Or.inr ⟨hlen, address, cmd_code, data_len, hhead, ?_⟩
    by_cases hframed : Framed f.buf
    · exact Or.inl ⟨hframed, analysisHead_framed hhead hframed⟩
    · exact Or.inr ⟨hframed, analysisHead_other hhead hframed⟩
  · exact Or.inl ⟨Nat.lt_of_not_le hlen, analysisHead_short (Nat.lt_of_not_le hlen)⟩

/-! ## Fields -/

theorem wordAt_eq (buf : List UInt8) (k : ℕ) :
    wordAt buf k = if k + 2 ≤ buf.length then some (word (buf.getD k 0) (buf.getD (k + 1) 0)) else none := by
  rw [wordAt]
  split_ifs with h
  · rw [List.getElem?_eq_getElem (show k < buf.length by omega), List.getElem?_eq_getElem (show k + 1 < buf.length by omega),
      List.getD_eq_getElem _ _ (show k < buf.length by omega), List.getD_eq_getElem _ _ (show k + 1 < buf.length by omega)]
    rfl
  · have hnone : buf[k + 1]? = none := List.getElem?_eq_none (by omega)
    rw [hnone]
    cases buf[k]? <;> rfl

section Decode

variable {f : Rs485Frame} {address cmd_code data_len : UInt8}

theorem relay_refused (hhead : Header f.buf address cmd_code data_len) (h : ¬ Framed f.buf) (s : RelayCollectState) :
    analysisBuiltOutRelayFrame f.buf s = some (0, s) := by
  rw [analysisBuiltOutRelayFrame, analysisHead_other hhead h]
  rfl

theorem relay_framed (hhead : Header f.buf address cmd_code data_len) (h : Framed f.buf) (s : RelayCollectState) :
    analysisBuiltOutRelayFrame f.buf s =
      if cmd_code = 0xD0 ∧ data_len = 7 then
        if 31 ≤ f.buf.length then some (1, ⟨address, 1, 1, word (f.buf.getD 29 0) (f.buf.getD 30 0)⟩) else none
      else some (0, { s with address := address, channel := 1 }) := by
  rw [analysisBuiltOutRelayFrame, analysisHead_framed hhead h, wordAt_eq]
  simp only [Option.bind_eq_bind, Option.bind_some]
  split_ifs <;> rfl

theorem collector_refused (hhead : Header f.buf address cmd_code data_len) (h : ¬ Framed f.buf) (s : InputCollectState) :
    analysisBuiltOutInputCollectorFrame f.buf s = some (0, s) := by
  rw [analysisBuiltOutInputCollectorFrame, analysisHead_other hhead h]
  rfl

theorem collector_framed (hhead : Header f.buf address cmd_code data_len) (h : Framed f.buf) (s : InputCollectState) :
    analysisBuiltOutInputCollectorFrame f.buf s =
      if cmd_code = 0xE0 ∧ data_len = 21 then
        if 47 ≤ f.buf.length then
          some (1, ⟨address, 1, 1, word (f.buf.getD 29 0) (f.buf.getD 30 0),
            Function.update (Function.update s.a_collect_state 0 ((f.buf.drop 31).take 8)) 1 ((f.buf.drop 39).take 8)⟩)
        else none
      else some (0, { s with address := address, channel := 1 }) := by
  rw [analysisBuiltOutInputCollectorFrame, analysisHead_framed hhead h, wordAt_eq, doubleAt, doubleAt]
  simp only [Option.bind_eq_bind, Option.bind_some]
  by_cases hcode : cmd_code = 0xE0 ∧ data_len = 21
  · rw [if_pos hcode, if_pos hcode]
    by_cases hlong : 47 ≤ f.buf.length
    · rw [if_pos hlong, if_pos (by omega), if_pos (by omega), if_pos (by omega)]
      rfl
    · rw [if_neg hlong, if_neg (show ¬ 39 + 8 ≤ f.buf.length from hlong)]
      simp only [Option.bind_none, Option.bind_fun_none]
  · rw [if_neg hcode, if_neg hcode]

end Decode

/-! ## Frames that were packed -/

/-- where a tail first stands, the bytes before it close a frame -/
def FirstTailCloses (buf : List UInt8) : Prop := ∀ k, FirstAt buf_tail buf k → Closes buf k

section Packed

variable {n : ℕ} (kind address fun_code : UInt8) (p : Payload n)

theorem packed_length : (packBuiltOutFrame kind address fun_code p.bytes).length = n + 37 := by
  obtain ⟨bytes, rfl⟩ := p
  simp only [packBuiltOutFrame, List.length_append, List.length_replicate, List.length_cons, List.length_nil]
  omega

theorem packed_header : Header (packBuiltOutFrame kind address fun_code p.bytes) address fun_code (UInt8.ofNat n) := by
  obtain ⟨bytes, rfl⟩ := p
  exact ⟨rfl, rfl, rfl⟩

/-- the data follow the length -/
theorem packed_drop : ∃ rest, (packBuiltOutFrame kind address fun_code p.bytes).drop 29 = p.bytes ++ rest := by
  simp only [packBuiltOutFrame, List.append_assoc]
  exact ⟨_, rfl⟩

theorem packed_getD {i : ℕ} (hi : i < n) :
    (packBuiltOutFrame kind address fun_code p.bytes).getD (29 + i) 0 = p.bytes.getD i 0 := by
  obtain ⟨rest, hdrop⟩ := packed_drop kind address fun_code p
  rw [← p.size] at hi
  rw [List.getD_eq_getElem?_getD, ← List.getElem?_drop, hdrop, List.getElem?_append_left hi, ← List.getD_eq_getElem?_getD]

theorem packed_field {i : ℕ} (hi : i + 8 ≤ n) :
    ((packBuiltOutFrame kind address fun_code p.bytes).drop (29 + i)).take 8 = (p.bytes.drop i).take 8 := by
  obtain ⟨rest, hdrop⟩ := packed_drop kind address fun_code p
  have hsize := p.size
  rw [← List.drop_drop, hdrop, List.drop_append_of_le_length (by omega), List.take_append_of_le_length]
  rw [List.length_drop]
  omega

/-- a packed frame has its marks and a tail -/
theorem packed_framed_iff : Framed (packBuiltOutFrame kind address fun_code p.bytes) ↔
    FirstTailCloses (packBuiltOutFrame kind address fun_code p.bytes) := by
  constructor
  · rintro h k hk
    obtain ⟨j, hj, hcloses⟩ := h.closed
    rw [firstAt_unique hk hj]
    exact hcloses
  · intro h
    obtain ⟨pre, hpre⟩ : ∃ pre, packBuiltOutFrame kind address fun_code p.bytes = pre ++ buf_tail :=
      ⟨_, (List.append_assoc _ [_, 0x16] buf_tail).symm⟩
    have hat := at_append pre buf_tail
    rw [← hpre] at hat
    obtain ⟨k, -, hk⟩ := exists_firstAt hat
    exact ⟨rfl, rfl, k, hk, h k hk⟩

end Packed

/-- the address and the loops of a packed status frame come back -/
def RelayRecovered (address : UInt8) (p : Payload 7) : Prop :=
  ∀ s, analysisBuiltOutRelayFrame (packBuiltOutRelayFrame address 0xD0 p.bytes) s =
    some (1, ⟨address, 1, 1, word (p.bytes.getD 0 0) (p.bytes.getD 1 0)⟩)

/-- so do the address, the digital state and the two analog states -/
def InputsRecovered (address : UInt8) (p : Payload 21) : Prop :=
  ∀ s, ∃ a, analysisBuiltOutInputCollectorFrame (packBuiltOutInputCollectorFrame address 0xE0 p.bytes) s =
      some (1, ⟨address, 1, 1, word (p.bytes.getD 0 0) (p.bytes.getD 1 0), a⟩) ∧
    a 0 = (p.bytes.drop 2).take 8 ∧ a 1 = (p.bytes.drop 10).take 8

section Recovered

variable (address : UInt8)

theorem relayRecovered_iff (p : Payload 7) :
    RelayRecovered address p ↔ FirstTailCloses (packBuiltOutRelayFrame address 0xD0 p.bytes) := by
  have hlen := packed_length 0x02 address 0xD0 p
  have hhead := packed_header 0x02 address 0xD0 p
  have hhi := packed_getD (i := 0) 0x02 address 0xD0 p (by omega)
  have hlo := packed_getD (i := 1) 0x02 address 0xD0 p (by omega)
  rw [RelayRecovered, packBuiltOutRelayFrame_eq, ← packed_framed_iff, ← hhi, ← hlo]
  generalize packBuiltOutFrame 0x02 address 0xD0 p.bytes = buf at hlen hhead ⊢
  by_cases h : Framed buf
  · refine iff_of_true (fun s => ?_) h
    rw [relay_framed (f := ⟨buf, by omega⟩) hhead h s, if_pos ⟨rfl, rfl⟩, if_pos (by rw [hlen]; omega)]
  · refine iff_of_false (fun hread => ?_) h
    have hzero := (relay_refused (f := ⟨buf, by omega⟩) hhead h ⟨0, 0, 0, 0⟩).symm.trans (hread ⟨0, 0, 0, 0⟩)
    exact absurd (Prod.mk.inj (Option.some.inj hzero)).1 (by decide)

theorem inputsRecovered_iff (p : Payload 21) :
    InputsRecovered address p ↔ FirstTailCloses (packBuiltOutInputCollectorFrame address 0xE0 p.bytes) := by
  have hlen := packed_length 0x06 address 0xE0 p
  have hhead := packed_header 0x06 address 0xE0 p
  have hhi := packed_getD (i := 0) 0x06 address 0xE0 p (by omega)
  have hlo := packed_getD (i := 1) 0x06 address 0xE0 p (by omega)
  have hfirst := packed_field (i := 2) 0x06 address 0xE0 p (by omega)
  have hsecond := packed_field (i := 10) 0x06 address 0xE0 p (by omega)
  rw [InputsRecovered, packBuiltOutInputCollectorFrame, ← packed_framed_iff, ← hhi, ← hlo, ← hfirst, ← hsecond]
  generalize packBuiltOutFrame 0x06 address 0xE0 p.bytes = buf at hlen hhead ⊢
  by_cases h : Framed buf
  · refine iff_of_true (fun s => ?_) h
    rw [collector_framed (f := ⟨buf, by omega⟩) hhead h s, if_pos ⟨rfl, rfl⟩, if_pos (by rw [hlen]; omega)]
    exact ⟨_, rfl, rfl, rfl⟩
  · refine iff_of_false (fun hread => ?_) h
    obtain ⟨a, ha, -, -⟩ := hread ⟨0, 0, 0, 0, fun _ => []⟩
    have hzero := (collector_refused (f := ⟨buf, by omega⟩) hhead h _).symm.trans ha
    exact absurd (Prod.mk.inj (Option.some.inj hzero)).1 (by decide)

end Recovered

/-! ## Frames of any length -/

/-- the checksum before the first tail is right -/
def ChecksumRight (buf : List UInt8) : Prop :=
  ∃ k, FirstAt buf_tail buf k ∧ buf[k - 2]? = some (calCheckSum (buf.take (k - 2)))

/-- both functions read inside a frame, and accept none with a wrong checksum -/
structure Sound (buf : List UInt8) : Prop where
  relay_inside : ∀ s, (analysisBuiltOutRelayFrame buf s).isSome
  collector_inside : ∀ s, (analysisBuiltOutInputCollectorFrame buf s).isSome
  relay_sum : ∀ s t, analysisBuiltOutRelayFrame buf s = some (1, t) → ChecksumRight buf
  collector_sum : ∀ s t, analysisBuiltOutInputCollectorFrame buf s = some (1, t) → ChecksumRight buf

/-- a closed frame with a command and the length of its data, that ends before byte `m` -/
def CutOff (buf : List UInt8) (cmd_code data_len : UInt8) (m : ℕ) : Prop :=
  Framed buf ∧ buf[27]? = some cmd_code ∧ buf[28]? = some data_len ∧ buf.length < m

theorem ret_eq_zero {S : Type} {s t : S} {r : Option (UInt8 × S)} (h : r = some (0, s)) : r ≠ some (1, t) := by
  rintro rfl
  exact absurd (Prod.mk.inj (Option.some.inj h)).1 (by decide)

section Received

variable {f : Rs485Frame} {address cmd_code data_len : UInt8}

theorem checksumRight_of_framed {buf : List UInt8} (h : Framed buf) : ChecksumRight buf := by
  obtain ⟨k, hk, -, hsum⟩ := h.closed
  exact ⟨k, hk, hsum⟩

theorem cutOff_iff (hhead : Header f.buf address cmd_code data_len) (c n : UInt8) (m : ℕ) :
    CutOff f.buf c n m ↔ Framed f.buf ∧ cmd_code = c ∧ data_len = n ∧ f.buf.length < m := by
  rw [CutOff, hhead.cmd_code, hhead.data_len, Option.some_inj, Option.some_inj]

/-- the data of a frame that is not refused are inside it -/
theorem relay_inside_iff (hhead : Header f.buf address cmd_code data_len) :
    (∀ s, (analysisBuiltOutRelayFrame f.buf s).isSome) ↔ ¬ CutOff f.buf 0xD0 7 31 := by
  rw [cutOff_iff hhead]
  by_cases hframed : Framed f.buf
  · rw [and_iff_right hframed]
    by_cases hcode : cmd_code = 0xD0 ∧ data_len = 7
    · simp only [relay_framed hhead hframed, if_pos hcode]
      rw [and_iff_right hcode.1, and_iff_right hcode.2, Nat.not_lt]
      split_ifs with hlong
      · exact iff_of_true (fun s => rfl) hlong
      · exact iff_of_false (fun h => Bool.false_ne_true (h ⟨0, 0, 0, 0⟩)) hlong
    · simp only [relay_framed hhead hframed, if_neg hcode]
      exact iff_of_true (fun s => rfl) fun h => hcode ⟨h.1, h.2.1⟩
  · exact iff_of_true (fun s => by rw [relay_refused hhead hframed]; rfl) fun h => hframed h.1

theorem collector_inside_iff (hhead : Header f.buf address cmd_code data_len) :
    (∀ s, (analysisBuiltOutInputCollectorFrame f.buf s).isSome) ↔ ¬ CutOff f.buf 0xE0 21 47 := by
  rw [cutOff_iff hhead]
  by_cases hframed : Framed f.buf
  · rw [and_iff_right hframed]
    by_cases hcode : cmd_code = 0xE0 ∧ data_len = 21
    · simp only [collector_framed hhead hframed, if_pos hcode]
      rw [and_iff_right hcode.1, and_iff_right hcode.2, Nat.not_lt]
      split_ifs with hlong
      · exact iff_of_true (fun s => rfl) hlong
      · exact iff_of_false (fun h => Bool.false_ne_true (h ⟨0, 0, 0, 0, fun _ => []⟩)) hlong
    · simp only [collector_framed hhead hframed, if_neg hcode]
      exact iff_of_true (fun s => rfl) fun h => hcode ⟨h.1, h.2.1⟩
  · exact iff_of_true (fun s => by rw [collector_refused hhead hframed]; rfl) fun h => hframed h.1

/-- no frame with a wrong checksum is accepted -/
theorem relay_checksum (hhead : Header f.buf address cmd_code data_len) {s t : RelayCollectState}
    (h : analysisBuiltOutRelayFrame f.buf s = some (1, t)) : ChecksumRight f.buf := by
  by_cases hframed : Framed f.buf
  · exact checksumRight_of_framed hframed
  · exact absurd h (ret_eq_zero (relay_refused hhead hframed s))

theorem collector_checksum (hhead : Header f.buf address cmd_code data_len) {s t : InputCollectState}
    (h : analysisBuiltOutInputCollectorFrame f.buf s = some (1, t)) : ChecksumRight f.buf := by
  by_cases hframed : Framed f.buf
  · exact checksumRight_of_framed hframed
  · exact absurd h (ret_eq_zero (collector_refused hhead hframed s))

end Received

theorem sound_iff (f : Rs485Frame) :
    Sound f.buf ↔ 29 ≤ f.buf.length ∧ ¬ CutOff f.buf 0xD0 7 31 ∧ ¬ CutOff f.buf 0xE0 21 47 := by
  by_cases hlen : 29 ≤ f.buf.length
  · obtain ⟨address, cmd_code, data_len, hhead⟩ := exists_header hlen
    rw [and_iff_right hlen, ← relay_inside_iff hhead, ← collector_inside_iff hhead]
    exact ⟨fun h => ⟨h.relay_inside, h.collector_inside⟩, fun h =>
      ⟨h.1, h.2, fun s t => relay_checksum hhead, fun s t => collector_checksum hhead⟩⟩
  · refine iff_of_false (fun h => ?_) fun h => hlen h.1
    have hinside := h.relay_inside ⟨0, 0, 0, 0⟩
    rw [analysisBuiltOutRelayFrame, analysisHead_short (Nat.lt_of_not_le hlen)] at hinside
    exact absurd hinside Bool.false_ne_true

/-- **Status frames.** A packed status frame is read back exactly if the bytes before the first tail in it close a frame.
A received frame is read inside and not accepted with a wrong checksum exactly if it reaches its length field, and, once
its first tail closes it, the data its length field announces. -/
theorem statusFrames_iff (address : UInt8) (loops : Payload 7) (inputs : Payload 21) (f : Rs485Frame) :
    (RelayRecovered address loops ↔ FirstTailCloses (packBuiltOutRelayFrame address 0xD0 loops.bytes)) ∧
      (InputsRecovered address inputs ↔ FirstTailCloses (packBuiltOutInputCollectorFrame address 0xE0 inputs.bytes)) ∧
        (Sound f.buf ↔ 29 ≤ f.buf.length ∧ ¬ CutOff f.buf 0xD0 7 31 ∧ ¬ CutOff f.buf 0xE0 21 47) :=
  ⟨relayRecovered_iff address loops, inputsRecovered_iff address inputs, sound_iff f⟩

/-- the tail as data -/
def tailLoops : Payload 7 := ⟨buf_tail ++ [0], rfl⟩

def tailInputs : Payload 21 := ⟨buf_tail ++ List.replicate 15 0, rfl⟩

/-- **Tails as data.** Data that begin with the tail are lost, and of an empty frame two bytes are read. -/
theorem statusFrames_not : ¬ RelayRecovered 1 tailLoops ∧ ¬ InputsRecovered 1 tailInputs ∧ ¬ Sound [] := by
  refine ⟨fun h => ?_, fun h => ?_, fun h => ?_⟩
  · have hread := h ⟨0, 0, 0, 0⟩
    exact absurd hread (by decide)
  · obtain ⟨a, ha, -, -⟩ := h ⟨0, 0, 0, 0, fun _ => []⟩
    have hret : (analysisBuiltOutInputCollectorFrame (packBuiltOutInputCollectorFrame 1 0xE0 tailInputs.bytes)
        ⟨0, 0, 0, 0, fun _ => []⟩).map Prod.fst = some 1 := congrArg (Option.map Prod.fst) ha
    exact absurd hret (by decide)
  · exact absurd (h.relay_inside ⟨0, 0, 0, 0⟩) (by decide)

end DataConcentrator.BuiltOut
