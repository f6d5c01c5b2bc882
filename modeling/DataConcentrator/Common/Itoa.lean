/-
`myitoa` and `myatoi`: the text of a number, and the number of a text.

The digits are written from the last one on and turned round in place. The swaps go up to half of what follows the sign,
but reach one place less far than the text does, so behind a sign the last digit written, the first of the number, stays
where it is.
- `myitoa_nonneg`, `myitoa_neg`: the text of a number, and how the digits of a negative one are turned;
- `rotated_congr_iff`: when turned digits give the same number, up to 32 bits;
- `myatoi_myitoa_iff`: the numbers that read back.
-/
import Mathlib.Data.List.Rotate
import DataConcentrator.Common.Reader
import DataConcentrator.Lib.InPlaceReverse

namespace DataConcentrator

open InPlaceReverse (swaps swaps_reverse)

/-! ## The two functions -/

/-- `index`: the digits and the capital letters -/
def itoaIndex : List UInt8 := (List.range 36).map fun d => UInt8.ofNat (if d < 10 then 0x30 + d else 0x41 + (d - 10))

/-- `do … while(unum)`, which appends a digit a round; `none` where `fuel` rounds are not enough -/
def itoaDigits (radix : UInt32) : ℕ → UInt32 → List UInt8 → Option (List UInt8)
  | 0, _, _ => none
  | fuel + 1, unum, str =>
    (itoaIndex[(unum % radix).toNat]?).bind fun c =>
      if unum / radix = 0 then some (str ++ [c]) else itoaDigits radix fuel (unum / radix) (str ++ [c])

/-- the terminator is stored, and the digits are turned round -/
def itoaTurn (str : List UInt8) : Option (List UInt8) :=
  let i := str.length
  let k := if str.head? = some 0x2D then 1 else 0
  -- `j <= (i - k - 1) / 2.0f`, with `str[j]` and `str[i - j - 1]` exchanged
  swaps k ((i - k - 1) / 2 + 1 - k) (i - 1) (str ++ [0])

/-- the text and its terminator -/
def myitoa (num : Int32) (radix : UInt32) : Option (List UInt8) :=
  let unum := if radix = 10 ∧ num < 0 then (-num).toUInt32 else num.toUInt32
  (itoaDigits radix 32 unum (if radix = 10 ∧ num < 0 then [0x2D] else [])).bind itoaTurn

/-- `myatoi` in the arithmetic of an `int` -/
def myatoiInt (nptr : List UInt8) : Int32 :=
  let s := nptr.dropWhile myisspace
  let sign := s.headD 0
  let digits := (if sign = 0x2D ∨ sign = 0x2B then s.drop 1 else s).takeWhile myisdigit
  let total := digits.foldl (fun (total : Int32) c => 10 * total + Int32.ofInt (c.toNat - 0x30)) 0
  if sign = 0x2D then -total else total

/-! ## Digits -/

theorem digits_lt {n : ℕ} (h : n < 10) : digits n = [UInt8.ofNat (0x30 + n)] := by
  rcases Nat.eq_zero_or_pos n with rfl | hpos
  · rfl
  · rw [digits, if_neg (by omega), decimal, Nat.digits_of_lt 10 n (by omega) h]
    rfl

/-- the last digit comes off the end -/
theorem digits_step {n : ℕ} (h : 10 ≤ n) : digits n = digits (n / 10) ++ [UInt8.ofNat (0x30 + n % 10)] := by
  rw [digits, digits, if_neg (by omega), if_neg (by omega), decimal, decimal, Nat.digits_def' (by decide) (by omega),
    List.reverse_cons, List.map_append]
  rfl

theorem itoaDigits_eq (fuel : ℕ) : ∀ (unum : UInt32) (str : List UInt8), unum.toNat < 10 ^ fuel → 0 < fuel →
    itoaDigits 10 fuel unum str = some (str ++ (digits unum.toNat).reverse) := by
  induction fuel with
  | zero => exact fun _ _ _ h => absurd h (lt_irrefl 0)
  | succ fuel ih =>
    intro unum str hlt _
    have hmod : (unum % 10).toNat = unum.toNat % 10 := UInt32.toNat_mod unum 10
    have hdiv : (unum / 10).toNat = unum.toNat / 10 := UInt32.toNat_div unum 10
    have hindex : ∀ d < 10, itoaIndex[d]? = some (UInt8.ofNat (0x30 + d)) := by decide
    have hzero : unum / 10 = 0 ↔ unum.toNat / 10 = 0 := by rw [← UInt32.toNat_inj, hdiv]; rfl
    rw [itoaDigits, hmod, hindex _ (Nat.mod_lt _ (by decide)), Option.bind_some]
    by_cases hlast : unum.toNat / 10 = 0
    · rw [if_pos (hzero.2 hlast), digits_lt (by omega), Nat.mod_eq_of_lt (by omega)]
      rfl
    · have hpow : 10 ^ (fuel + 1) = 10 * 10 ^ fuel := by ring
      have hfuel : 0 < fuel := by
        rcases Nat.eq_zero_or_pos fuel with rfl | h
        · omega
        · exact h
      have hnext := ih (unum / 10) (str ++ [UInt8.ofNat (0x30 + unum.toNat % 10)]) (by rw [hdiv]; omega) hfuel
      rw [if_neg fun h => hlast (hzero.1 h), hnext, hdiv, @digits_step unum.toNat (by omega), List.reverse_append,
        List.append_assoc]
      rfl

theorem toNat_toUInt32 (n : Int32) : n.toUInt32.toNat = n.toBitVec.toNat := rfl

/-- what is divided is the number without its sign, that of the least one too -/
theorem unum_eq (n : Int32) : (if n < 0 then (-n).toUInt32 else n.toUInt32).toNat = n.toInt.natAbs := by
  have hcond : n.toInt = _ := BitVec.toInt_eq_toNat_cond n.toBitVec
  have hlt := n.toBitVec.isLt
  by_cases hneg : n < 0
  · have hint : n.toInt < 0 := Int32.lt_iff_toInt_lt.1 hneg
    rw [if_pos hneg, toNat_toUInt32, Int32.toBitVec_neg, BitVec.toNat_neg]
    split_ifs at hcond <;> omega
  · have hint : ¬ n.toInt < 0 := fun h => hneg (Int32.lt_iff_toInt_lt.2 h)
    rw [if_neg hneg, toNat_toUInt32]
    split_ifs at hcond <;> omega

/-! ## The text -/

/-- digits alone are turned round -/
theorem itoaTurn_plain {ds : List UInt8} (hne : ds ≠ []) (h : ∀ x ∈ ds, myisdigit x = true) :
    itoaTurn ds = some (ds.reverse ++ [0]) := by
  have hhead : ds.head? ≠ some 0x2D := fun hhead => absurd (h _ (List.mem_of_mem_head? hhead)) (by decide)
  have hpos := List.length_pos_iff.2 hne
  have hturn := swaps_reverse ((ds.length - 1) / 2 + 1) [] ds [0] (ds.length - 1) (by simp; omega) (by omega) (by omega)
  rw [itoaTurn, if_neg hhead]
  exact hturn

/-- behind a sign they are so but for the last one -/
theorem itoaTurn_signed (ds : List UInt8) (d : UInt8) :
    itoaTurn (0x2D :: (ds ++ [d])) = some (0x2D :: (ds.reverse ++ [d, 0])) := by
  have hlen : (0x2D :: (ds ++ [d])).length = ds.length + 2 := by simp
  have hcount : (ds.length + 2 - 1 - 1) / 2 + 1 - 1 = ds.length / 2 := by omega
  have hshape : (0x2D :: (ds ++ [d])) ++ [0] = [0x2D] ++ (ds ++ [d, 0]) := by simp
  have hturn := swaps_reverse (ds.length / 2) [0x2D] ds [d, 0] (ds.length + 1) (by simp; omega) (by omega) (by omega)
  rw [itoaTurn, if_pos List.head?_cons, hlen, hcount, hshape]
  exact hturn

/-- what `myitoa` turns, for radix 10 -/
theorem myitoa_ten (n : Int32) :
    myitoa n 10 = itoaTurn ((if n < 0 then [0x2D] else []) ++ (digits n.toInt.natAbs).reverse) := by
  have hlt := (if n < 0 then (-n).toUInt32 else n.toUInt32).toNat_lt
  have hdigits := itoaDigits_eq 32 (if n < 0 then (-n).toUInt32 else n.toUInt32) (if n < 0 then [0x2D] else [])
    (hlt.trans (by norm_num)) (by decide)
  rw [unum_eq] at hdigits
  simp only [myitoa, true_and, hdigits, Option.bind_some]

/-- the text of a number without a sign is its digits -/
theorem myitoa_nonneg {n : Int32} (h : ¬ n < 0) : myitoa n 10 = some (digits n.toInt.natAbs ++ [0]) := by
  have hne : (digits n.toInt.natAbs).reverse ≠ [] := fun hnil => digits_ne_nil _ (List.reverse_eq_nil_iff.1 hnil)
  have hturn := itoaTurn_plain hne fun x hx => mem_digits (List.mem_reverse.1 hx)
  rw [myitoa_ten, if_neg h, List.nil_append, hturn, List.reverse_reverse]

/-- **Turned digits.** Behind a sign the first digit comes last. -/
theorem myitoa_neg {n : Int32} (h : n < 0) :
    myitoa n 10 = some (0x2D :: ((digits n.toInt.natAbs).rotate 1 ++ [0])) := by
  obtain ⟨d, ds, hds⟩ := List.exists_cons_of_ne_nil (digits_ne_nil n.toInt.natAbs)
  have hturn := itoaTurn_signed ds.reverse d
  rw [List.reverse_reverse] at hturn
  rw [myitoa_ten, if_pos h, hds, List.rotate_cons_succ, List.rotate_zero, List.reverse_cons, List.singleton_append, hturn,
    List.append_assoc]
  rfl

/-! ## The number -/

theorem myatoiInt_eq (nptr : List UInt8) : myatoiInt nptr = Int32.ofInt (myatoi nptr) := by
  have hfold : ∀ (cs : List UInt8) (total : ℤ),
      cs.foldl (fun (total : Int32) c => 10 * total + Int32.ofInt (c.toNat - 0x30)) (Int32.ofInt total) =
        Int32.ofInt (cs.foldl (fun (total : ℤ) c => 10 * total + (c.toNat - 0x30 : ℤ)) total) := by
    intro cs
    induction cs with
    | nil => exact fun _ => rfl
    | cons c cs ih =>
      intro total
      rw [List.foldl_cons, List.foldl_cons, ← ih, Int32.ofInt_add, Int32.ofInt_mul]
      rfl
  have hzero := fun cs => hfold cs 0
  unfold myatoiInt myatoi
  simp only [show (0 : Int32) = Int32.ofInt 0 from rfl, hzero, ← Int32.ofInt_neg, ← apply_ite Int32.ofInt]

/-- a sign, digits and the terminator -/
theorem myatoi_signed {text : List UInt8} (h : ∀ x ∈ text, myisdigit x = true) (rest : List UInt8) :
    myatoi (0x2D :: (text ++ 0 :: rest)) = -digitValue text := by
  have hspace : (0x2D :: (text ++ 0 :: rest)).dropWhile myisspace = 0x2D :: (text ++ 0 :: rest) :=
    List.dropWhile_cons_of_neg (by decide)
  have hstop : (0 :: rest).takeWhile myisdigit = [] := List.takeWhile_cons_of_neg (by decide)
  have htake : (text ++ 0 :: rest).takeWhile myisdigit = text := by
    rw [List.takeWhile_append_of_pos h, hstop, List.append_nil]
  rw [myatoi, hspace]
  simp only [List.headD_cons, true_or, if_true, List.drop_succ_cons, List.drop_zero, htake]
  rfl

/-- `n` copies of one digit -/
theorem ofDigits_replicate (m d : ℕ) : 9 * Nat.ofDigits 10 (List.replicate m d) + d = 10 ^ m * d := by
  induction m with
  | zero => simp
  | succ m ih =>
    rw [List.replicate_succ, Nat.ofDigits_cons, pow_succ]
    linarith

/-- `9` is a unit there -/
theorem dvd_nine_mul_iff {a b : ℕ} (ha : a < 10 ^ 9) (hb : b < 10 ^ 9) : (2 ^ 32 : ℤ) ∣ 9 * (a - b) ↔ a = b := by
  have hcoprime : IsCoprime (2 ^ 32 : ℤ) 9 := by norm_num
  have hunit : (2 ^ 32 : ℤ) ∣ 9 * (a - b) ↔ (2 ^ 32 : ℤ) ∣ a - b :=
    ⟨hcoprime.dvd_of_dvd_mul_left, fun h => h.mul_left 9⟩
  rw [hunit]
  omega

/-- a first digit put last gives the same number, up to 32 bits, only if all are equal -/
theorem rotated_congr_iff {ds : List ℕ} {d : ℕ} (hds : ∀ c ∈ ds, c < 10) (hd : d < 10) (hlen : ds.length ≤ 9) :
    (2 ^ 32 : ℤ) ∣ (Nat.ofDigits 10 (d :: ds) : ℕ) - (Nat.ofDigits 10 (ds ++ [d]) : ℕ) ↔ ∀ c ∈ ds, c = d := by
  have hrep := ofDigits_replicate ds.length d
  have hpow : 10 ^ ds.length ≤ 10 ^ 9 := Nat.pow_le_pow_right (by decide) hlen
  have hlt := Nat.ofDigits_lt_base_pow_length (b := 10) (by decide) hds
  have hlt' := Nat.ofDigits_lt_base_pow_length (b := 10) (l := List.replicate ds.length d) (by decide)
    fun c hc => (List.eq_of_mem_replicate hc).trans_lt hd
  rw [List.length_replicate] at hlt'
  have hsame : Nat.ofDigits 10 ds = Nat.ofDigits 10 (List.replicate ds.length d) ↔ ∀ c ∈ ds, c = d := by
    rw [← List.eq_replicate_length]
    refine ⟨fun h => ?_, fun h => congrArg _ h⟩
    refine Nat.ofDigits_inj_of_len_eq (by decide) (by simp) hds (fun c hc => ?_) h
    exact (List.eq_of_mem_replicate hc).trans_lt hd
  have hdiff : ((Nat.ofDigits 10 (d :: ds) : ℕ) : ℤ) - (Nat.ofDigits 10 (ds ++ [d]) : ℕ) =
      9 * ((Nat.ofDigits 10 ds : ℕ) - (Nat.ofDigits 10 (List.replicate ds.length d) : ℕ)) := by
    rw [Nat.ofDigits_cons, Nat.ofDigits_append, Nat.ofDigits_singleton, ← hrep]
    push_cast
    ring
  rw [← hsame, hdiff]
  exact dvd_nine_mul_iff (hlt.trans_le hpow) (hlt'.trans_le hpow)

theorem int32_ofInt_eq_iff (z : ℤ) (n : Int32) : Int32.ofInt z = n ↔ (2 ^ 32 : ℤ) ∣ z - n.toInt := by
  have hle := n.le_toInt
  have hlt := n.toInt_lt
  rw [Int32.ofInt_eq_iff_bmod_eq_toInt, Int.bmod_def]
  split_ifs <;> omega

/-- the digits of a number, with the first apart -/
theorem digits_split {v : ℕ} (hpos : 0 < v) : ∃ (ds : List ℕ) (d : ℕ), Nat.digits 10 v = ds ++ [d] ∧
    digits v = UInt8.ofNat (0x30 + d) :: ds.reverse.map fun d => UInt8.ofNat (0x30 + d) := by
  have hne : Nat.digits 10 v ≠ [] := fun h => absurd (Nat.digits_eq_nil_iff_eq_zero.1 h) (by omega)
  obtain ⟨ds, d, hds⟩ := (List.eq_nil_or_concat (Nat.digits 10 v)).resolve_left hne
  rw [List.concat_eq_append] at hds
  refine ⟨ds, d, hds, ?_⟩
  rw [digits, if_neg (by omega), decimal, hds, List.reverse_append]
  rfl

/-- turned digits are the number's own, up to 32 bits, only if they are all equal -/
theorem digitValue_rotate_iff {v : ℕ} (hpos : 0 < v) (hlt : v < 10 ^ 10) :
    (2 ^ 32 : ℤ) ∣ digitValue ((digits v).rotate 1) - v ↔ ∃ d, ∀ c ∈ Nat.digits 10 v, c = d := by
  obtain ⟨ds, d, hdigits, htext⟩ := digits_split hpos
  have hten : ∀ c ∈ ds ++ [d], c < 10 := fun c hc => Nat.digits_lt_base (by decide) (hdigits ▸ hc)
  have hlen := (Nat.digits_length_le_iff (b := 10) (by decide) v).2 hlt
  rw [hdigits, List.length_append, List.length_singleton] at hlen
  have hturned : (digits v).rotate 1 = (d :: ds).reverse.map fun d => UInt8.ofNat (0x30 + d) := by
    rw [htext, List.rotate_cons_succ, List.rotate_zero, List.reverse_cons, List.map_append]
    rfl
  have hvalue : digitValue ((digits v).rotate 1) = (Nat.ofDigits 10 (d :: ds) : ℕ) := by
    rw [hturned]
    exact foldl_digitChars _ fun c hc => hten c (by simp at hc ⊢; tauto)
  have hself : v = Nat.ofDigits 10 (ds ++ [d]) := by rw [← hdigits, Nat.ofDigits_digits]
  have hsame : (∃ e, ∀ c ∈ ds ++ [d], c = e) ↔ ∀ c ∈ ds, c = d := by
    constructor
    · rintro ⟨e, he⟩ c hc
      rw [he c (List.mem_append_left _ hc), he d (by simp)]
    · refine fun h => ⟨d, fun c hc => ?_⟩
      rcases List.mem_append.1 hc with hc | hc
      · exact h c hc
      · exact List.mem_singleton.1 hc
  have hcongr := rotated_congr_iff (fun c hc => hten c (List.mem_append_left _ hc)) (hten d (by simp)) (by omega)
  rw [hdigits, hsame, ← hcongr, hvalue]
  nth_rewrite 1 [hself]
  rfl

/-- **Round trip.** What reads back are the numbers without a sign and those of one repeated digit. -/
theorem myatoi_myitoa_iff (n : Int32) : (myitoa n 10).map myatoiInt = some n ↔
    0 ≤ n ∨ ∃ d, ∀ c ∈ Nat.digits 10 n.toInt.natAbs, c = d := by
  by_cases hneg : n < 0
  · have hint : n.toInt < 0 := Int32.lt_iff_toInt_lt.1 hneg
    have hge := n.le_toInt
    have hisdigit : ∀ x ∈ (digits n.toInt.natAbs).rotate 1, myisdigit x = true :=
      fun x hx => mem_digits (List.mem_rotate.1 hx)
    have hturned := digitValue_rotate_iff (v := n.toInt.natAbs) (by omega) (by omega)
    rw [myitoa_neg hneg, Option.map_some, Option.some.injEq, myatoiInt_eq, myatoi_signed hisdigit, int32_ofInt_eq_iff,
      or_iff_right (Int32.not_le.2 hneg), ← hturned, ← dvd_neg]
    have hsum : -(-digitValue ((digits n.toInt.natAbs).rotate 1) - n.toInt) =
        digitValue ((digits n.toInt.natAbs).rotate 1) - n.toInt.natAbs := by omega
    rw [hsum]
  · have hint : ¬ n.toInt < 0 := fun h => hneg (Int32.lt_iff_toInt_lt.2 h)
    have hend : ∀ b ∈ [(0 : UInt8)].head?, myisdigit b = false := by
      intro b hb
      rw [← Option.some.inj hb]
      rfl
    have hread := myatoi_upTo (digits_ne_nil n.toInt.natAbs) (fun x hx => mem_digits hx) hend
    have hvalue : digitValue (digits n.toInt.natAbs) = n.toInt.natAbs := foldl_digits _
    refine iff_of_true ?_ (Or.inl (Int32.not_lt.1 hneg))
    rw [myitoa_nonneg hneg, Option.map_some, myatoiInt_eq, hread, hvalue, Int.natAbs_of_nonneg (by omega), Int32.ofInt_toInt]

/-- `-12` reads back as `-21` -/
theorem not_myatoi_myitoa : ¬ ∀ n : Int32, n ≠ Int32.minValue → (myitoa n 10).map myatoiInt = some n := by
  intro h
  exact absurd (h (-12) (by decide)) (by decide +kernel)

end DataConcentrator
