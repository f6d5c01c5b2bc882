/-
Fields cut out of a text: `find_str` with a count, `get_str1`, and `atoi` of the C library.

- `findStrAt_append`: an occurrence found in a text begins in its first part, or is one found in the rest;
- `findStrAt_skip`, `findStrAt_hit`: the two ways the search goes on;
- `atoi_decimal`: a number reads back from its decimal digits.
-/
import Mathlib.Data.Nat.Digits.Defs
import Mathlib.Data.Nat.Digits.Lemmas
import Mathlib.Data.List.TakeWhile
import DataConcentrator.Common.Text

namespace DataConcentrator

/-! ## Searches -/

/-- `find_str` for the occurrence `count` of `p_str` in a text: its result, and `seek` -/
def findStrAt (p_str : List UInt8) : ℕ → List UInt8 → ℕ × UInt16
  | _, [] => (0, 0)
  | count, b :: bs =>
    if p_str.isPrefixOf (b :: bs) then
      if count = 1 then (p_str.length, 0)
      else
        let r := findStrAt p_str (count - 1) bs
        (r.1, r.2 + 1)
    else
      let r := findStrAt p_str count bs
      (r.1, r.2 + 1)

/-- `get_str1`: what it copies to `out`, without the terminator; a negative count of bytes copies nothing -/
def getStr1 (source begin' : List UInt8) (count1 : ℕ) (end' : List UInt8) (count2 : ℕ) : List UInt8 :=
  let (len1, index1) := findStrAt begin' count1 source
  let (len2, index2) := findStrAt end' count2 source
  if len1 ≠ 0 ∧ len2 ≠ 0 then
    (source.drop (index1.toNat + len1)).take (index2.toNat - index1.toNat - len1)
  else []

/-- an occurrence that begins later -/
def later (n : ℕ) (r : ℕ × UInt16) : ℕ × UInt16 := (r.1, r.2 + UInt16.ofNat n)

theorem later_zero (r : ℕ × UInt16) : later 0 r = r := by
  show (r.1, r.2 + 0) = r
  rw [UInt16.add_zero]

theorem findStrAt_cons_miss {p : List UInt8} {b : UInt8} {bs : List UInt8}
    (h : p.isPrefixOf (b :: bs) = false) (count : ℕ) : findStrAt p count (b :: bs) = later 1 (findStrAt p count bs) := by
  rw [findStrAt, h, if_neg Bool.false_ne_true]
  rfl

theorem findStrAt_cons_match {p : List UInt8} {b : UInt8} {bs : List UInt8}
    (h : p.isPrefixOf (b :: bs) = true) {count : ℕ} (hc : count ≠ 1) :
    findStrAt p count (b :: bs) = later 1 (findStrAt p (count - 1) bs) := by
  rw [findStrAt, h, if_pos rfl, if_neg hc]
  rfl

theorem later_later (m n : ℕ) (r : ℕ × UInt16) : later m (later n r) = later (n + m) r := by
  rw [later, later, later, UInt16.ofNat_add, UInt16.add_assoc]

/-- a text whose first byte does not occur in `a` is not found in it -/
theorem findStrAt_skip (c : UInt8) (p : List UInt8) (count : ℕ) {a : List UInt8} (h : c ∉ a) (s : List UInt8) :
    findStrAt (c :: p) count (a ++ s) = later a.length (findStrAt (c :: p) count s) := by
  induction a with
  | nil => rw [List.length_nil, later_zero, List.nil_append]
  | cons b a ih =>
    obtain ⟨hb, ha⟩ := not_or.1 (mt List.mem_cons.2 h)
    have hprefix : (c :: p).isPrefixOf (b :: (a ++ s)) = false := by simp [List.isPrefixOf, hb]
    rw [List.cons_append, findStrAt_cons_miss hprefix, ih ha, later_later, List.length_cons]

/-- the occurrence looked for -/
theorem findStrAt_hit (p : List UInt8) (s : List UInt8) (hp : p ≠ []) : findStrAt p 1 (p ++ s) = (p.length, 0) := by
  cases p with
  | nil => exact absurd rfl hp
  | cons c p =>
    have hprefix : (c :: p).isPrefixOf (c :: (p ++ s)) = true := by
      rw [List.isPrefixOf_iff_prefix]
      exact List.prefix_append (c :: p) s
    rw [List.cons_append, findStrAt, hprefix, if_pos rfl, if_pos rfl]

/-- an occurrence before the one looked for, of a text whose first byte does not occur in it again -/
theorem findStrAt_pass (c : UInt8) (p : List UInt8) (count : ℕ) (h : c ∉ p) (s : List UInt8) :
    findStrAt (c :: p) (count + 2) (c :: p ++ s) = later (p.length + 1) (findStrAt (c :: p) (count + 1) s) := by
  have hprefix : (c :: p).isPrefixOf (c :: (p ++ s)) = true := by
    rw [List.isPrefixOf_iff_prefix]
    exact List.prefix_append (c :: p) s
  rw [List.cons_append, findStrAt_cons_match hprefix (by omega), Nat.add_sub_assoc (by omega),
    findStrAt_skip c p _ h, later_later]

/-- **Where an occurrence is found**: it begins in the first part, or it is one of those found in the rest. -/
theorem findStrAt_append (p : List UInt8) (a s : List UInt8) : ∀ count, 1 ≤ count →
    (∃ i < a.length, findStrAt p count (a ++ s) = (p.length, UInt16.ofNat i)) ∨
      ∃ j, 1 ≤ j ∧ j ≤ count ∧ findStrAt p count (a ++ s) = later a.length (findStrAt p j s) := by
  induction a with
  | nil => exact fun count hc => Or.inr ⟨count, hc, le_rfl, (later_zero _).symm⟩
  | cons b a ih =>
    -- what the search in the tail says, one byte later
    have hlater : ∀ (count k : ℕ), k ≤ count → 1 ≤ k →
        findStrAt p count (b :: (a ++ s)) = later 1 (findStrAt p k (a ++ s)) →
        (∃ i < (b :: a).length, findStrAt p count (b :: (a ++ s)) = (p.length, UInt16.ofNat i)) ∨
          ∃ j, 1 ≤ j ∧ j ≤ count ∧ findStrAt p count (b :: (a ++ s)) = later (b :: a).length (findStrAt p j s) := by
      intro count k hk hk1 hfind
      rcases ih k hk1 with ⟨i, hi, h⟩ | ⟨j, hj1, hjk, h⟩
      · refine Or.inl ⟨i + 1, Nat.succ_lt_succ hi, ?_⟩
        rw [hfind, h, later, UInt16.ofNat_add]
      · refine Or.inr ⟨j, hj1, hjk.trans hk, ?_⟩
        rw [hfind, h, later_later, List.length_cons]
    intro count hc
    rw [List.cons_append]
    cases hprefix : p.isPrefixOf (b :: (a ++ s)) with
    | false => exact hlater count count le_rfl hc (findStrAt_cons_miss hprefix count)
    | true =>
      by_cases hone : count = 1
      · refine Or.inl ⟨0, Nat.succ_pos _, ?_⟩
        rw [findStrAt, hprefix, if_pos rfl, if_pos hone]
        rfl
      · exact hlater count (count - 1) (Nat.sub_le _ _) (by omega) (findStrAt_cons_match hprefix hone)

/-! ## Numbers -/

def isspace (x : UInt8) : Bool := x ∈ [0x20, 0x09, 0x0A, 0x0B, 0x0C, 0x0D]

/-- `atoi` of the C library, for a text whose number an `int` holds -/
def atoi (nptr : List UInt8) : ℤ :=
  let s := nptr.dropWhile isspace
  let sign := s.headD 0
  let digits := (if sign = 0x2D ∨ sign = 0x2B then s.drop 1 else s).takeWhile myisdigit
  let total := digits.foldl (fun (total : ℤ) c => 10 * total + (c.toNat - 0x30 : ℤ)) 0
  if sign = 0x2D then -total else total

/-- the decimal digits of a number -/
def decimal (n : ℕ) : List UInt8 := (Nat.digits 10 n).reverse.map fun d => UInt8.ofNat (0x30 + d)

theorem mem_decimal {n : ℕ} {x : UInt8} (h : x ∈ decimal n) : ∃ d < 10, x = UInt8.ofNat (0x30 + d) := by
  obtain ⟨d, hd, rfl⟩ := List.mem_map.1 h
  exact ⟨d, Nat.digits_lt_base (by omega) (List.mem_reverse.1 hd), rfl⟩

theorem digit_facts : ∀ d < 10, myisdigit (UInt8.ofNat (0x30 + d)) = true ∧ isspace (UInt8.ofNat (0x30 + d)) = false ∧
    UInt8.ofNat (0x30 + d) ∉ [0, 0x0A, 0x0D, 0x2B, 0x2C, 0x2D] ∧ (UInt8.ofNat (0x30 + d)).toNat = 0x30 + d := by
  decide

theorem not_mem_decimal (n : ℕ) {x : UInt8} (hx : x ∈ [0, 0x0A, 0x0D, 0x2B, 0x2C, 0x2D]) : x ∉ decimal n := by
  intro h
  obtain ⟨d, hd, rfl⟩ := mem_decimal h
  exact (digit_facts d hd).2.2.1 hx

/-- the value that digits add up to -/
theorem foldl_digitChars (ds : List ℕ) : (∀ d ∈ ds, d < 10) →
    (ds.reverse.map fun d => UInt8.ofNat (0x30 + d)).foldl
      (fun (total : ℤ) c => 10 * total + (c.toNat - 0x30 : ℤ)) 0 = (Nat.ofDigits 10 ds : ℕ) := by
  induction ds with
  | nil => intro _; rfl
  | cons d ds ih =>
    intro h
    have hd := (digit_facts d (h d List.mem_cons_self)).2.2.2
    rw [List.reverse_cons, List.map_append, List.foldl_append, ih fun e he => h e (List.mem_cons_of_mem d he),
      List.map_singleton, List.foldl_cons, List.foldl_nil, hd, Nat.ofDigits_cons]
    push_cast
    ring

/-- and those of a number -/
theorem foldl_decimal (n : ℕ) :
    (decimal n).foldl (fun (total : ℤ) c => 10 * total + (c.toNat - 0x30 : ℤ)) 0 = n := by
  rw [decimal, foldl_digitChars _ fun d hd => Nat.digits_lt_base (by omega) hd, Nat.ofDigits_digits]

/-- **A number reads back** from its decimal digits. -/
theorem atoi_decimal (n : ℕ) : atoi (decimal n) = n := by
  have hspace : (decimal n).dropWhile isspace = decimal n := by
    cases hds : decimal n with
    | nil => rfl
    | cons x xs =>
      obtain ⟨d, hd, rfl⟩ := mem_decimal (hds ▸ List.mem_cons_self : x ∈ decimal n)
      rw [List.dropWhile_cons_of_neg (by rw [(digit_facts d hd).2.1]; exact Bool.false_ne_true)]
  have hsign : (decimal n).headD 0 ∉ ([0x2B, 0x2D] : List UInt8) := by
    cases hds : decimal n with
    | nil => decide
    | cons x xs =>
      have hx : x ∈ decimal n := hds ▸ List.mem_cons_self
      intro hmem
      refine not_mem_decimal n ?_ hx
      change x ∈ [0x2B, 0x2D] at hmem
      rcases List.mem_cons.1 hmem with rfl | h
      · decide
      · rw [List.mem_singleton.1 h]; decide
  have hplus : (decimal n).headD 0 ≠ 0x2B := fun h => hsign (by rw [h]; decide)
  have hminus : (decimal n).headD 0 ≠ 0x2D := fun h => hsign (by rw [h]; decide)
  have hdigits : (decimal n).takeWhile myisdigit = decimal n := by
    rw [List.takeWhile_eq_self_iff]
    intro x hx
    obtain ⟨d, hd, rfl⟩ := mem_decimal hx
    exact (digit_facts d hd).1
  unfold atoi
  rw [hspace]
  dsimp only
  rw [if_neg (not_or.2 ⟨hminus, hplus⟩), if_neg hminus, hdigits, foldl_decimal]

/-- a number that starts with the digit 0 and another byte than a digit is 0 -/
theorem atoi_zero {text rest : List UInt8} {b : UInt8} (hb : myisdigit b = false) (h : text <+: 0x30 :: b :: rest) :
    atoi text = 0 := by
  cases text with
  | nil => rfl
  | cons x text =>
    obtain ⟨hx, htext⟩ := List.cons_prefix_cons.1 h
    subst hx
    cases text with
    | nil => rfl
    | cons y text =>
      obtain ⟨hy, -⟩ := List.cons_prefix_cons.1 htext
      subst hy
      have hspace : (0x30 :: y :: text).dropWhile isspace = 0x30 :: y :: text :=
        List.dropWhile_cons_of_neg (by decide)
      have hdigits : (0x30 :: y :: text).takeWhile myisdigit = [0x30] := by
        rw [List.takeWhile_cons_of_pos (by decide), List.takeWhile_cons_of_neg (by rw [hb]; exact Bool.false_ne_true)]
      unfold atoi
      rw [hspace]
      show (if (0x30 : UInt8) = 0x2D then _ else _) = (0 : ℤ)
      rw [if_neg (by decide)]
      show List.foldl _ _ (List.takeWhile myisdigit (if (0x30 : UInt8) = 0x2D ∨ (0x30 : UInt8) = 0x2B then _ else _)) = _
      rw [if_neg (by decide), hdigits]
      rfl

end DataConcentrator
