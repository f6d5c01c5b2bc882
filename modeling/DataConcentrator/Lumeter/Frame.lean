/-
The replies of the light sensors: `AnalysisBuiltOutLumeterFrame`.

A reply that the function reads past has no result here.
- `CrcMatches`, `LengthAgrees`: what a Modbus reply of the received length has to hold;
- `analysis_exact_iff`: the replies that are read inside, accepted as they should be, and give a value of their own.
-/
import DataConcentrator.Common.Crc

namespace DataConcentrator.Lumeter

/-! ## Decoding -/

/-- `LumeterCollectState_S` -/
structure CollectState where
  address : UInt8
  channel : UInt8
  update : UInt8
  value : UInt32
deriving DecidableEq, Repr

/-- `memcpy` of `n` bytes of `tmp` to `value`; the processor is little-endian -/
def copyLow (tmp : List UInt8) (value : UInt32) : UInt32 :=
  match tmp with
  | [a, b] => (value &&& 0xFFFF0000) + b.toUInt32 * 0x100 + a.toUInt32
  | [a, b, c, d] => d.toUInt32 * 0x1000000 + c.toUInt32 * 0x10000 + b.toUInt32 * 0x100 + a.toUInt32
  | _ => value

/-- the last two bytes are the `CRC16` of those before them -/
def CrcMatches (buf : List UInt8) : Prop :=
  (buf.getD (buf.length - 2) 0, buf.getD (buf.length - 1) 0) = crc16 (buf.take (buf.length - 2))

instance (buf : List UInt8) : Decidable (CrcMatches buf) := inferInstanceAs (Decidable (_ = _))

/-- the reply with function code `0x03` -/
def analysisModbus (buf : List UInt8) (s : CollectState) : Option (UInt8 × CollectState) := do
  let address ← buf[0]?
  let data_len ← buf[2]?
  let s := { s with address := address, channel := 1 }
  if data_len = 4 then
    let tmp3 ← buf[3]?
    let tmp2 ← buf[4]?
    let tmp1 ← buf[5]?
    let tmp0 ← buf[6]?
    some (1, { s with value := copyLow [tmp0, tmp1, tmp2, tmp3] s.value, update := 1 })
  else if data_len = 2 then
    let tmp1 ← buf[3]?
    let tmp0 ← buf[4]?
    some (1, { s with value := copyLow [tmp0, tmp1] s.value * 100, update := 1 })
  else some (0, s)

/-- the form of the MT201 -/
structure Mt201 (buf : List UInt8) : Prop where
  length : buf.length = 6
  head : buf[1]? = some 0xBC
  zero : buf[4]? = some 0x00
  four : buf[5]? = some 0x04

/-- `ret`, and what `lumeter_state` holds then -/
def analysisBuiltOutLumeterFrame (buf : List UInt8) (s : CollectState) : Option (UInt8 × CollectState) :=
  if 2 ≤ buf.length then do
    let code ← buf[1]?
    if CrcMatches buf ∧ code = 0x03 then analysisModbus buf s
    else if buf.length = 6 then
      let zero ← buf[4]?
      let four ← buf[5]?
      if code = 0xBC ∧ zero = 0x00 ∧ four = 0x04 then
        let address ← buf[0]?
        let tmp1 ← buf[2]?
        let tmp0 ← buf[3]?
        some (1, ⟨address, 1, 1, copyLow [tmp0, tmp1, 0, 0] s.value⟩)
      else some (0, s)
    else some (0, s)
  else some (0, s)

/-! ## What is accepted -/

/-- the CRC matches, and the length field says how long the reply is -/
def LengthAgrees (buf : List UInt8) : Prop :=
  CrcMatches buf ∧ ∃ n, buf[2]? = some n ∧ buf.length = n.toNat + 5

/-- a reply is read inside, accepted as it should be, and gives a value that does not depend on what was there before -/
structure Exact (buf : List UInt8) : Prop where
  inside : ∀ s, (analysisBuiltOutLumeterFrame buf s).isSome
  accepted : ∀ s t, analysisBuiltOutLumeterFrame buf s = some (1, t) → LengthAgrees buf ∨ Mt201 buf
  own : ∀ s s' t t', analysisBuiltOutLumeterFrame buf s = some (1, t) →
    analysisBuiltOutLumeterFrame buf s' = some (1, t') → t.value = t'.value

/-- a Modbus reply with two bytes of data, or with four of which its length knows nothing -/
def Loose (buf : List UInt8) : Prop :=
  CrcMatches buf ∧ buf[1]? = some 0x03 ∧ (buf[2]? = some 2 ∨ buf[2]? = some 4 ∧ buf.length ≠ 9)

/-- what is left of a value above two new bytes counts -/
theorem copyLow_two_ne (a b : UInt8) : copyLow [a, b] 0 * 100 ≠ copyLow [a, b] 0x10000 * 100 := by
  have hzero : (0 : UInt32) &&& 0xFFFF0000 = 0 := rfl
  have hhigh : (0x10000 : UInt32) &&& 0xFFFF0000 = 0x10000 := rfl
  simp only [copyLow, hzero, hhigh]
  intro h
  have hsame : (0x10000 : UInt32) * 100 = 0 := by grind
  exact absurd hsame (by decide)

/-- the CRC of no bytes is not the code -/
theorem not_crcMatches_two {b0 : UInt8} : ¬ CrcMatches [b0, 0x03] := by
  intro h
  have hlow : (0x03 : UInt8) = 0xFF := (Prod.mk.inj h).2
  exact absurd hlow (by decide)

section Modbus

variable {b0 : UInt8} {data : List UInt8} {s : CollectState}

theorem modbus_four : analysisModbus (b0 :: 0x03 :: 4 :: data) s =
    if 4 ≤ data.length then
      some (1, ⟨b0, 1, 1, copyLow [data.getD 3 0, data.getD 2 0, data.getD 1 0, data.getD 0 0] s.value⟩)
    else none := by
  match data with
  | [] | [_] | [_, _] | [_, _, _] => rfl
  | _ :: _ :: _ :: _ :: _ => simp [analysisModbus]

theorem modbus_two : analysisModbus (b0 :: 0x03 :: 2 :: data) s =
    if 2 ≤ data.length then some (1, ⟨b0, 1, 1, copyLow [data.getD 1 0, data.getD 0 0] s.value * 100⟩) else none := by
  match data with
  | [] | [_] => rfl
  | _ :: _ :: _ => simp [analysisModbus]

theorem modbus_other {n : UInt8} (h4 : n ≠ 4) (h2 : n ≠ 2) :
    analysisModbus (b0 :: 0x03 :: n :: data) s = some (0, { s with address := b0, channel := 1 }) := by
  simp [analysisModbus, h4, h2]

end Modbus

/-- a reply with the CRC and the code -/
theorem analysis_modbus {buf : List UInt8} (hcrc : CrcMatches buf) (hcode : buf[1]? = some 0x03) (s : CollectState) :
    analysisBuiltOutLumeterFrame buf s = analysisModbus buf s := by
  have hlen : 2 ≤ buf.length := (List.getElem?_eq_some_iff.1 hcode).1
  rw [analysisBuiltOutLumeterFrame, if_pos hlen, hcode]
  exact if_pos ⟨hcrc, rfl⟩

theorem zero_ne_ret : (0 : UInt8) ≠ 1 := by decide

/-- any other reply of six bytes -/
theorem analysis_six {b0 b1 b2 b3 b4 b5 : UInt8} (h : ¬ (CrcMatches [b0, b1, b2, b3, b4, b5] ∧ b1 = 0x03))
    (s : CollectState) : analysisBuiltOutLumeterFrame [b0, b1, b2, b3, b4, b5] s =
      if b1 = 0xBC ∧ b4 = 0x00 ∧ b5 = 0x04 then some (1, ⟨b0, 1, 1, copyLow [b3, b2, 0, 0] s.value⟩) else some (0, s) := by
  have hlen : 2 ≤ [b0, b1, b2, b3, b4, b5].length := Nat.le_add_left 2 4
  rw [analysisBuiltOutLumeterFrame, if_pos hlen]
  exact if_neg h

/-- any other reply is accepted in the form of the MT201 alone -/
theorem analysis_other {buf : List UInt8} (h : ¬ (CrcMatches buf ∧ buf[1]? = some 0x03)) (s : CollectState) :
    ∃ r, analysisBuiltOutLumeterFrame buf s = some r ∧
      (r.1 = 1 → Mt201 buf ∧ r.2.value = copyLow [buf.getD 3 0, buf.getD 2 0, 0, 0] 0) := by
  by_cases hsix : buf.length = 6
  · match buf, hsix with
    | [b0, b1, b2, b3, b4, b5], hsix =>
      rw [List.getElem?_cons_succ, List.getElem?_cons_zero, Option.some_inj] at h
      rw [analysis_six h]
      split_ifs with hform
      · obtain ⟨rfl, rfl, rfl⟩ := hform
        exact ⟨_, rfl, fun _ => ⟨⟨rfl, rfl, rfl, rfl⟩, rfl⟩⟩
      · exact ⟨_, rfl, fun hr => absurd hr zero_ne_ret⟩
  · rw [analysisBuiltOutLumeterFrame]
    by_cases hlen : 2 ≤ buf.length
    · have hcode := List.getElem?_eq_getElem (show 1 < buf.length from hlen)
      rw [hcode, Option.some_inj] at h
      rw [if_pos hlen, hcode, Option.bind_eq_bind, Option.bind_some, if_neg h, if_neg hsix]
      exact ⟨_, rfl, fun hr => absurd hr zero_ne_ret⟩
    · rw [if_neg hlen]
      exact ⟨_, rfl, fun hr => absurd hr zero_ne_ret⟩

/-- a reply with the CRC and the code has a length field -/
theorem exists_length {buf : List UInt8} (hcrc : CrcMatches buf) (hcode : buf[1]? = some 0x03) :
    ∃ b0 n data, buf = b0 :: 0x03 :: n :: data := by
  match buf, hcode with
  | [b0, b1], hcode =>
    rw [List.getElem?_cons_succ, List.getElem?_cons_zero, Option.some_inj] at hcode
    rw [hcode] at hcrc
    exact absurd hcrc not_crcMatches_two
  | b0 :: b1 :: n :: data, hcode =>
    rw [List.getElem?_cons_succ, List.getElem?_cons_zero, Option.some_inj] at hcode
    exact ⟨b0, n, data, by rw [hcode]⟩

section Replies

variable {buf data : List UInt8} {b0 n : UInt8}

/-- two bytes of data leave the upper half of the value as it was -/
theorem not_exact_two (hcrc : CrcMatches (b0 :: 0x03 :: 2 :: data)) : ¬ Exact (b0 :: 0x03 :: 2 :: data) := by
  intro h
  have hrun := analysis_modbus hcrc rfl
  by_cases hdata : 2 ≤ data.length
  · have hzero := (hrun ⟨0, 0, 0, 0⟩).trans (modbus_two.trans (if_pos hdata))
    have hhigh := (hrun ⟨0, 0, 0, 0x10000⟩).trans (modbus_two.trans (if_pos hdata))
    exact copyLow_two_ne _ _ (h.own _ _ _ _ hzero hhigh)
  · have hinside := h.inside ⟨0, 0, 0, 0⟩
    rw [hrun, modbus_two, if_neg hdata] at hinside
    exact absurd hinside Bool.false_ne_true

/-- four bytes of data are to be the whole of it -/
theorem exact_four_iff (hcrc : CrcMatches (b0 :: 0x03 :: 4 :: data)) :
    Exact (b0 :: 0x03 :: 4 :: data) ↔ (b0 :: 0x03 :: 4 :: data).length = 9 := by
  have hrun := fun s => (analysis_modbus hcrc rfl s).trans modbus_four
  constructor
  · intro h
    by_cases hdata : 4 ≤ data.length
    · rcases h.accepted _ _ ((hrun ⟨0, 0, 0, 0⟩).trans (if_pos hdata)) with ⟨-, n, hn, hlen⟩ | hmt
      · rw [hlen, ← show 4 = n from Option.some.inj hn]
        rfl
      · have hcode : (0x03 : UInt8) = 0xBC := Option.some.inj hmt.head
        exact absurd hcode (by decide)
    · have hinside := h.inside ⟨0, 0, 0, 0⟩
      rw [hrun, if_neg hdata] at hinside
      exact absurd hinside Bool.false_ne_true
  · intro hlen
    have hdata : 4 ≤ data.length := by
      rw [List.length_cons, List.length_cons, List.length_cons] at hlen
      omega
    have hfour := fun s => (hrun s).trans (if_pos hdata)
    refine ⟨fun s => by rw [hfour]; rfl, fun s t _ => Or.inl ⟨hcrc, 4, rfl, hlen⟩, fun s s' t t' ht ht' => ?_⟩
    rw [hfour] at ht ht'
    rw [← (Prod.mk.inj (Option.some.inj ht)).2, ← (Prod.mk.inj (Option.some.inj ht')).2]
    rfl

/-- any other length field is refused -/
theorem exact_length (hcrc : CrcMatches (b0 :: 0x03 :: n :: data)) (h4 : n ≠ 4) (h2 : n ≠ 2) :
    Exact (b0 :: 0x03 :: n :: data) := by
  have hrun := fun s => (analysis_modbus hcrc rfl s).trans (modbus_other h4 h2)
  have hrefused : ∀ s t, analysisBuiltOutLumeterFrame (b0 :: 0x03 :: n :: data) s ≠ some (1, t) := by
    intro s t ht
    rw [hrun] at ht
    exact absurd (Prod.mk.inj (Option.some.inj ht)).1 zero_ne_ret
  exact ⟨fun s => by rw [hrun]; rfl, fun s t ht => absurd ht (hrefused s t), fun s s' t t' ht => absurd ht (hrefused s t)⟩

/-- so is any other reply, if it is none of an MT201 -/
theorem exact_other (h : ¬ (CrcMatches buf ∧ buf[1]? = some 0x03)) : Exact buf := by
  have hrun := analysis_other h
  have haccepted : ∀ s t, analysisBuiltOutLumeterFrame buf s = some (1, t) →
      Mt201 buf ∧ t.value = copyLow [buf.getD 3 0, buf.getD 2 0, 0, 0] 0 := by
    intro s t ht
    obtain ⟨r, hr, hform⟩ := hrun s
    rw [hr, Option.some_inj] at ht
    rw [ht] at hform
    exact hform rfl
  refine ⟨fun s => ?_, fun s t ht => Or.inr (haccepted s t ht).1, fun s s' t t' ht ht' => ?_⟩
  · obtain ⟨r, hr, -⟩ := hrun s
    rw [hr]
    rfl
  · exact (haccepted s t ht).2.trans (haccepted s' t' ht').2.symm

end Replies

/-- **Exact replies.** A reply is read inside, accepted as it should be and gives a value of its own if and only if it is
not a Modbus reply with two bytes of data, or with four and another length. -/
theorem analysis_exact_iff (buf : List UInt8) : Exact buf ↔ ¬ Loose buf := by
  by_cases hmodbus : CrcMatches buf ∧ buf[1]? = some 0x03
  · obtain ⟨hcrc, hcode⟩ := hmodbus
    obtain ⟨b0, n, data, rfl⟩ := exists_length hcrc hcode
    have hn : (b0 :: 0x03 :: n :: data)[2]? = some n := rfl
    rw [Loose, hn, Option.some_inj, Option.some_inj, and_iff_right hcrc, and_iff_right hcode]
    by_cases h2 : n = 2
    · subst h2
      exact iff_of_false (not_exact_two hcrc) fun h => h (Or.inl rfl)
    by_cases h4 : n = 4
    · subst h4
      rw [exact_four_iff hcrc]
      exact ⟨fun hlen h => h.elim h2 fun h => h.2 hlen, fun h => not_not.1 fun hne => h (Or.inr ⟨rfl, hne⟩)⟩
    · exact iff_of_true (exact_length hcrc h4 h2) fun h => h.elim h2 fun h => h4 h.1
  · exact iff_of_true (exact_other hmodbus) fun h => hmodbus ⟨h.1, h.2.1⟩

end DataConcentrator.Lumeter
