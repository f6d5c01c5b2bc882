/-
The replies of the meters and of the light sensors as byte strings of any length.

A meter's reply is decoded as in `analysisBuiltOutElectricityMeterFrame`; here a reply that the function reads past has no
result.
- `analysisInside_eq`: where there is a result, it is that of the decoder;
- `meter_exact_iff`: the meters' replies that are read inside and accepted as they should be;
- `replies_exact_iff`: those of the meters and of the light sensors.
-/
import DataConcentrator.ElectricityMeter.Readings
import DataConcentrator.Lumeter.Frame

namespace DataConcentrator.ElectricityMeter

open Lumeter (CrcMatches LengthAgrees)

variable {V : Type} (F : Floats V)

/-! ## Reading inside -/

/-- `AnalysisBuiltOutElectricityMeterFrame`, with the bytes it reads -/
def analysisInside (config : List (MeterConfig V)) (buf : List UInt8) (m : CollectState V) :
    Option (UInt8 × CollectState V) :=
  -- `*(buf + len - 2)` and `*(buf + len - 1)`, and the CRC over `len - 2` bytes
  if buf.length < 2 then none
  else if CrcMatches buf ∧ buf[1]? = some 0x03 then do
    let address ← buf[0]?
    let data_len ← buf[2]?
    let data := buf.drop 3
    let ratios := (config.find? fun c => c.address = address ∧ c.channel = 1).map fun c => (c.voltage_ratio, c.current_ratio)
    if 32 ≤ address ∧ address ≤ 47 then
      if data_len = 116 then
        if 116 ≤ data.length then
          some (1, { m with address := address, channel := 1, collect_para := fill address (powerWrites F data) m.collect_para })
        else none
      else if data_len = 16 then
        if 16 ≤ data.length then some (1, ⟨address, 1, 1, fill address (energyWrites F data) m.collect_para⟩) else none
      else some (0, m)
    else if 48 ≤ address ∧ address ≤ 53 then
      if data_len = 84 then
        if 84 ≤ data.length then
          let ratios := ratios.getD (F.one, F.one)
          some (1, ⟨address, 1, 1, fill address (sixWrites F ratios.1 ratios.2 data) m.collect_para⟩)
        else none
      else some (0, m)
    else some (0, m)
  else some (0, m)

/-- the meters that send so many bytes of data -/
def Expects (address data_len : UInt8) : Prop :=
  (32 ≤ address ∧ address ≤ 47) ∧ (data_len = 116 ∨ data_len = 16) ∨ (48 ≤ address ∧ address ≤ 53) ∧ data_len = 84

section Reply

variable {b0 n : UInt8} {data : List UInt8}

/-- a reply with the CRC and the code: refused, or its data are read -/
theorem analysisInside_modbus (hcrc : CrcMatches (b0 :: 0x03 :: n :: data)) (config : List (MeterConfig V))
    (m : CollectState V) :
    (¬ Expects b0 n ∧ analysisInside F config (b0 :: 0x03 :: n :: data) m = some (0, m)) ∨
      Expects b0 n ∧ ∃ t, analysisInside F config (b0 :: 0x03 :: n :: data) m =
        if n.toNat ≤ data.length then some (1, t) else none := by
  have hlen : ¬ (b0 :: 0x03 :: n :: data).length < 2 := by
    rw [List.length_cons, List.length_cons]
    omega
  rw [analysisInside, if_neg hlen, if_pos ⟨hcrc, rfl⟩]
  simp only [List.getElem?_cons_zero, List.getElem?_cons_succ, Option.bind_eq_bind, Option.bind_some, List.drop_succ_cons,
    List.drop_zero]
  by_cases hpower : 32 ≤ b0 ∧ b0 ≤ 47
  · have hsix : ¬ (48 ≤ b0 ∧ b0 ≤ 53) := fun h =>
      absurd (UInt8.le_trans h.1 hpower.2) (by decide)
    rw [if_pos hpower]
    by_cases h116 : n = 116
    · subst h116
      exact Or.inr ⟨Or.inl ⟨hpower, Or.inl rfl⟩, _, rfl⟩
    by_cases h16 : n = 16
    · subst h16
      exact Or.inr ⟨Or.inl ⟨hpower, Or.inr rfl⟩, _, rfl⟩
    · rw [if_neg h116, if_neg h16]
      exact Or.inl ⟨fun h => h.elim (fun h => h.2.elim h116 h16) fun h => hsix h.1, rfl⟩
  · rw [if_neg hpower]
    by_cases hsix : 48 ≤ b0 ∧ b0 ≤ 53
    · rw [if_pos hsix]
      by_cases h84 : n = 84
      · subst h84
        exact Or.inr ⟨Or.inr ⟨hsix, rfl⟩, _, rfl⟩
      · rw [if_neg h84]
        exact Or.inl ⟨fun h => h.elim (fun h => hpower h.1) fun h => h84 h.2, rfl⟩
    · rw [if_neg hsix]
      exact Or.inl ⟨fun h => h.elim (fun h => hpower h.1) fun h => hsix h.1, rfl⟩

end Reply

/-- where nothing is read outside the reply, the decoder does the same -/
theorem analysisInside_eq {config : List (MeterConfig V)} {buf : List UInt8} {m : CollectState V}
    {r : UInt8 × CollectState V} (h : analysisInside F config buf m = some r) :
    r = analysisBuiltOutElectricityMeterFrame F config buf m := by
  rw [analysisInside] at h
  split_ifs at h with hlen hmodbus
  · obtain ⟨hcrc, hcode⟩ := hmodbus
    obtain ⟨b0, n, data, rfl⟩ := Lumeter.exists_length hcrc hcode
    have hhead : (((b0 :: 0x03 :: n :: data).getD ((b0 :: 0x03 :: n :: data).length - 2) 0,
        (b0 :: 0x03 :: n :: data).getD ((b0 :: 0x03 :: n :: data).length - 1) 0) =
          crc16 ((b0 :: 0x03 :: n :: data).take ((b0 :: 0x03 :: n :: data).length - 2)) ∧
        (b0 :: 0x03 :: n :: data).getD 1 0 = 0x03) := ⟨hcrc, rfl⟩
    rw [analysisBuiltOutElectricityMeterFrame, if_pos hhead]
    simp only [List.getElem?_cons_zero, List.getElem?_cons_succ, Option.bind_eq_bind, Option.bind_some,
      List.drop_succ_cons, List.drop_zero] at h
    simp only [List.getD_cons_zero, List.getD_cons_succ, List.drop_succ_cons, List.drop_zero]
    split_ifs at h ⊢ <;> exact (Option.some.inj h).symm
  · have hother : ¬ ((buf.getD (buf.length - 2) 0, buf.getD (buf.length - 1) 0) = crc16 (buf.take (buf.length - 2)) ∧
        buf.getD 1 0 = 0x03) := by
      rintro ⟨hcrc, hcode⟩
      have hlt : 1 < buf.length := by omega
      rw [List.getD_eq_getElem _ _ hlt] at hcode
      exact hmodbus ⟨hcrc, by rw [List.getElem?_eq_getElem hlt, hcode]⟩
    rw [analysisBuiltOutElectricityMeterFrame, if_neg hother]
    exact (Option.some.inj h).symm

/-- a reply is read inside, and accepted with the CRC and its length alone -/
structure Exact (config : List (MeterConfig V)) (buf : List UInt8) : Prop where
  inside : ∀ m, (analysisInside F config buf m).isSome
  accepted : ∀ m t, analysisInside F config buf m = some (1, t) → LengthAgrees buf

/-- a reply of a meter with the CRC, whose length is not the one its length field says -/
def Loose (buf : List UInt8) : Prop :=
  CrcMatches buf ∧ buf[1]? = some 0x03 ∧ ∃ b0 n, buf[0]? = some b0 ∧ buf[2]? = some n ∧ Expects b0 n ∧
    buf.length ≠ n.toNat + 5

theorem zero_ne_ret : (0 : UInt8) ≠ 1 := by decide

/-- any other reply of two bytes and more is refused -/
theorem analysisInside_other {config : List (MeterConfig V)} {buf : List UInt8} (hlen : 2 ≤ buf.length)
    (h : ¬ (CrcMatches buf ∧ buf[1]? = some 0x03)) (m : CollectState V) :
    analysisInside F config buf m = some (0, m) := by
  rw [analysisInside, if_neg (Nat.not_lt.2 hlen), if_neg h]

/-- **Replies of meters.** -/
theorem meter_exact_iff (config : List (MeterConfig V)) (buf : List UInt8) :
    Exact F config buf ↔ 2 ≤ buf.length ∧ ¬ Loose buf := by
  by_cases hlen : 2 ≤ buf.length
  swap
  · refine iff_of_false (fun h => ?_) fun h => hlen h.1
    have hinside := h.inside ⟨0, 0, 0, fun _ _ => .initial⟩
    rw [analysisInside, if_pos (Nat.lt_of_not_le hlen)] at hinside
    exact absurd hinside Bool.false_ne_true
  rw [and_iff_right hlen]
  by_cases hmodbus : CrcMatches buf ∧ buf[1]? = some 0x03
  swap
  · refine iff_of_true ⟨fun m => ?_, fun m t ht => ?_⟩ fun h => hmodbus ⟨h.1, h.2.1⟩
    · rw [analysisInside_other F hlen hmodbus]
      rfl
    · rw [analysisInside_other F hlen hmodbus] at ht
      exact absurd (Prod.mk.inj (Option.some.inj ht)).1 zero_ne_ret
  obtain ⟨hcrc, hcode⟩ := hmodbus
  obtain ⟨b0, n, data, rfl⟩ := Lumeter.exists_length hcrc hcode
  have hrun := analysisInside_modbus F hcrc config
  have hlength : (b0 :: 0x03 :: n :: data).length = data.length + 3 := rfl
  by_cases hexpects : Expects b0 n
  · have hread : ∀ m, ∃ t, analysisInside F config (b0 :: 0x03 :: n :: data) m =
        if n.toNat ≤ data.length then some (1, t) else none :=
      fun m => (hrun m).elim (fun h => absurd hexpects h.1) fun h => h.2
    constructor
    · rintro h ⟨-, -, c0, k, hc0, hk, -, hne⟩
      obtain ⟨t, ht⟩ := hread ⟨0, 0, 0, fun _ _ => .initial⟩
      by_cases hdata : n.toNat ≤ data.length
      · obtain ⟨-, j, hj, hlen⟩ := h.accepted _ _ (ht.trans (if_pos hdata))
        rw [← Option.some.inj (hj.symm.trans hk)] at hne
        exact hne hlen
      · have hinside := h.inside ⟨0, 0, 0, fun _ _ => .initial⟩
        rw [ht, if_neg hdata] at hinside
        exact absurd hinside Bool.false_ne_true
    · intro h
      have hsame : (b0 :: 0x03 :: n :: data).length = n.toNat + 5 := by
        by_contra hne
        exact h ⟨hcrc, hcode, b0, n, rfl, rfl, hexpects, hne⟩
      have hdata : n.toNat ≤ data.length := by omega
      refine ⟨fun m => ?_, fun m t _ => ⟨hcrc, n, rfl, hsame⟩⟩
      obtain ⟨t, ht⟩ := hread m
      rw [ht, if_pos hdata]
      rfl
  · have hrefused : ∀ m, analysisInside F config (b0 :: 0x03 :: n :: data) m = some (0, m) :=
      fun m => (hrun m).elim (fun h => h.2) fun h => absurd h.1 hexpects
    refine iff_of_true ⟨fun m => ?_, fun m t ht => ?_⟩ ?_
    · rw [hrefused]
      rfl
    · rw [hrefused] at ht
      exact absurd (Prod.mk.inj (Option.some.inj ht)).1 zero_ne_ret
    · rintro ⟨-, -, c0, k, hc0, hk, h, -⟩
      rw [← Option.some.inj hc0, ← Option.some.inj hk] at h
      exact hexpects h

/-- **Replies of any length.** -/
theorem replies_exact_iff (config : List (MeterConfig V)) (buf : List UInt8) :
    (Exact F config buf ↔ 2 ≤ buf.length ∧ ¬ Loose buf) ∧ (Lumeter.Exact buf ↔ ¬ Lumeter.Loose buf) :=
  ⟨meter_exact_iff F config buf, Lumeter.analysis_exact_iff buf⟩

/-! ## Three replies -/

/-- a body with its CRC -/
def withCrc (body : List UInt8) : List UInt8 := body ++ [(crc16 body).1, (crc16 body).2]

/-- **Read outside, and left over.** No byte at all, and a reply of a meter without the data it announces, are read
outside; a reply of a light sensor with two bytes leaves half of the last value. -/
theorem replies_not_exact : ¬ Exact zeroFloats [] [] ∧ ¬ Exact zeroFloats [] (withCrc [32, 0x03, 16]) ∧
    ¬ Lumeter.Exact (withCrc [1, 0x03, 2, 0, 100]) := by
  refine ⟨fun h => ?_, fun h => ?_, ?_⟩
  · have hinside := h.inside ⟨0, 0, 0, fun _ _ => .initial⟩
    exact absurd hinside Bool.false_ne_true
  · have hinside := h.inside ⟨0, 0, 0, fun _ _ => .initial⟩
    have hcrc : CrcMatches (withCrc [32, 0x03, 16]) := by decide
    rcases analysisInside_modbus zeroFloats hcrc [] ⟨0, 0, 0, fun _ _ => .initial⟩ with ⟨hno, -⟩ | ⟨-, t, ht⟩
    · exact hno (Or.inl ⟨by decide, Or.inr rfl⟩)
    · rw [if_neg (by decide)] at ht
      have hnone := congrArg Option.isSome ht
      exact absurd (hnone.symm.trans hinside) Bool.false_ne_true
  · exact Lumeter.not_exact_two (by decide)

end DataConcentrator.ElectricityMeter
