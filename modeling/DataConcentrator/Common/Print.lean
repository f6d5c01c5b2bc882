/-
Texts the handlers print: `sprintf` with `%d`, `%08X`, `%02X` and `%f`, and `strcat` into a buffer of a fixed size.

- `myatoi_sprintfD`, `strToHex_sprintf08X`: what is printed reads back;
- `not_mem_sprintfD`, `not_mem_sprintf08X`: it holds no separator;
- `strcats_eq`: a text comes out exactly if it fits its buffer with its terminator.
-/
import DataConcentrator.Common.Bytes
import DataConcentrator.Common.Search

namespace DataConcentrator

/-- a decidable fact of all bytes can be checked one by one -/
theorem forall_byte {P : UInt8 → Prop} (h : ∀ n : Fin 256, P (UInt8.ofNat n)) (b : UInt8) : P b := by
  have hb := h ⟨b.toNat, b.toNat_lt⟩
  rwa [UInt8.ofNat_toNat] at hb

/-! ## `%d` -/

/-- the digits of a number, one at least -/
def digits (n : ℕ) : List UInt8 := if n = 0 then [0x30] else decimal n

/-- `%d` -/
def sprintfD (n : ℤ) : List UInt8 := if n < 0 then 0x2D :: digits n.natAbs else digits n.natAbs

theorem digits_ne_nil (n : ℕ) : digits n ≠ [] := by
  unfold digits
  split_ifs with h
  · exact List.cons_ne_nil _ _
  · intro hnil
    have hdigits : Nat.digits 10 n = [] := by simpa [decimal] using hnil
    exact h (Nat.digits_eq_nil_iff_eq_zero.1 hdigits)

/-- a number of at most `k` digits -/
theorem length_digits_le {n k : ℕ} (hk : 0 < k) (h : n < 10 ^ k) : (digits n).length ≤ k := by
  unfold digits
  split_ifs
  · exact hk
  · rw [decimal, List.length_map, List.length_reverse]
    exact (Nat.digits_length_le_iff (by decide) n).2 h

theorem mem_digits {n : ℕ} {x : UInt8} (h : x ∈ digits n) : myisdigit x = true := by
  unfold digits at h
  split_ifs at h
  · rw [List.mem_singleton.1 h]
    decide
  · obtain ⟨d, hd, rfl⟩ := mem_decimal h
    exact (digit_facts d hd).1

theorem foldl_digits (n : ℕ) :
    (digits n).foldl (fun (total : ℤ) c => 10 * total + (c.toNat - 0x30 : ℤ)) 0 = n := by
  unfold digits
  split_ifs with h
  · rw [h]
    rfl
  · exact foldl_decimal n

/-- a number is made of digits and a sign -/
theorem mem_sprintfD {n : ℤ} {x : UInt8} (h : x ∈ sprintfD n) : myisdigit x = true ∨ x = 0x2D := by
  unfold sprintfD at h
  split_ifs at h
  · rcases List.mem_cons.1 h with rfl | h
    · exact .inr rfl
    · exact .inl (mem_digits h)
  · exact .inl (mem_digits h)

/-- so it holds no separator -/
theorem not_mem_sprintfD {n : ℤ} {x : UInt8} (h : x ∈ sprintfD n) : x ∉ [0, 0x2C, 0x7C] := by
  intro hx
  have hother : myisdigit x = false ∧ x ≠ 0x2D := by
    simp only [List.mem_cons, List.not_mem_nil, or_false] at hx
    rcases hx with rfl | rfl | rfl
    · decide
    · decide
    · decide
  obtain ⟨hdigit, hminus⟩ := hother
  rcases mem_sprintfD h with h | h
  · rw [hdigit] at h
    cases h
  · exact hminus h

/-- a number below a power of ten, with a sign -/
theorem length_sprintfD_le {n : ℤ} {k : ℕ} (hk : 0 < k) (h : n.natAbs < 10 ^ k) :
    (sprintfD n).length ≤ k + if n < 0 then 1 else 0 := by
  have hdigits := length_digits_le hk h
  unfold sprintfD
  split_ifs
  · exact Nat.succ_le_succ hdigits
  · exact hdigits

theorem sprintfD_ne_nil (n : ℤ) : sprintfD n ≠ [] := by
  unfold sprintfD
  split_ifs
  · exact List.cons_ne_nil _ _
  · exact digits_ne_nil _

/-- digits are no white space and no sign -/
theorem digit_plain : ∀ x : UInt8, myisdigit x = true → myisspace x = false ∧ x ≠ 0x2D ∧ x ≠ 0x2B :=
  forall_byte (by decide +kernel)

/-- **A number reads back.** -/
theorem myatoi_sprintfD (n : ℤ) : myatoi (sprintfD n) = n := by
  have htake : (digits n.natAbs).takeWhile myisdigit = digits n.natAbs :=
    List.takeWhile_eq_self_iff.2 fun x hx => mem_digits hx
  have hfold := foldl_digits n.natAbs
  unfold sprintfD
  split_ifs with hneg
  · have hspace : (0x2D :: digits n.natAbs).dropWhile myisspace = 0x2D :: digits n.natAbs := by
      rw [List.dropWhile_cons_of_neg (by decide)]
    rw [myatoi, hspace]
    simp only [List.headD_cons, true_or, if_true, List.drop_succ_cons, List.drop_zero, htake, hfold]
    omega
  · obtain ⟨d, ds, hds⟩ := List.exists_cons_of_ne_nil (digits_ne_nil n.natAbs)
    have hd : d ∈ digits n.natAbs := by
      rw [hds]
      exact List.mem_cons_self
    obtain ⟨hspace, hminus, hplus⟩ := digit_plain d (mem_digits hd)
    have hdrop : (digits n.natAbs).dropWhile myisspace = digits n.natAbs := by
      rw [hds, List.dropWhile_cons_of_neg (by simp [hspace])]
    have hhead : (digits n.natAbs).headD 0 = d := by
      rw [hds]
      rfl
    rw [myatoi, hdrop]
    simp only [hhead, hminus, hplus, or_self, if_false, htake, hfold]
    omega

/-! ## `%08X` and `%02X` -/

def hexChar (d : UInt8) : UInt8 := if d < 10 then 0x30 + d else 0x41 + (d - 10)

/-- `%02X` of a byte -/
def sprintf02X (b : UInt8) : List UInt8 := [hexChar (b / 16), hexChar (b % 16)]

/-- `%08X` -/
def sprintf08X (x : UInt32) : List UInt8 := (putBe32 x).flatMap sprintf02X

@[simp] theorem length_sprintf08X (x : UInt32) : (sprintf08X x).length = 8 := rfl

/-- the two digits of a byte give it back, and are no separators -/
theorem hexChar_facts : ∀ b : UInt8, hexDigit (hexChar (b / 16)) * 16 + hexDigit (hexChar (b % 16)) = b ∧
    hexChar (b / 16) ∉ [0, 0x2C, 0x7C] ∧ hexChar (b % 16) ∉ [0, 0x2C, 0x7C] :=
  forall_byte (by decide +kernel)

theorem hexChar_range : ∀ b : UInt8, (0x30 ≤ hexChar (b / 16) ∧ hexChar (b / 16) ≤ 0x46) ∧
    0x30 ≤ hexChar (b % 16) ∧ hexChar (b % 16) ≤ 0x46 :=
  forall_byte (by decide +kernel)

theorem not_mem_sprintf08X {a : UInt32} {x : UInt8} (h : x ∈ sprintf08X a) : x ∉ [0, 0x2C, 0x7C] := by
  obtain ⟨b, -, hx⟩ := List.mem_flatMap.1 h
  rcases List.mem_cons.1 hx with rfl | hx
  · exact (hexChar_facts b).2.1
  · rw [List.mem_singleton.1 hx]
    exact (hexChar_facts b).2.2

/-- **An address reads back.** -/
theorem strToHex_sprintf08X (x : UInt32) : strToHex 4 (sprintf08X x) = some (putBe32 x) := by
  have hbyte := fun b => (hexChar_facts b).1
  simp only [sprintf08X, putBe32, List.flatMap_cons, List.flatMap_nil, sprintf02X, List.cons_append, List.nil_append,
    strToHex, hbyte, Option.map_some]

/-! ## `%f` -/

/-- `n / d`, to the nearest number, and to the even one between two -/
def roundHalfEven (n d : ℕ) : ℕ :=
  if 2 * (n % d) < d ∨ 2 * (n % d) = d ∧ n / d % 2 = 0 then n / d else n / d + 1

/-- `n` with the zeros before it that make six digits -/
def sixDigits (n : ℕ) : List UInt8 := List.replicate (6 - (digits n).length) 0x30 ++ digits n

/-- `%f` of a `float` given by its bits -/
def sprintfF (bits : UInt32) : List UInt8 :=
  let exponent := (bits >>> 23).toNat % 256
  let fraction := bits.toNat % 2 ^ 23
  let sign := if bits.toNat < 2 ^ 31 then [] else [0x2D]
  if exponent = 255 then sign ++ (if fraction = 0 then [0x69, 0x6E, 0x66] else [0x6E, 0x61, 0x6E])
  else
    let mantissa := if exponent = 0 then fraction else fraction + 2 ^ 23
    -- the value is `mantissa * 2 ^ (e - 150)`; it is taken in millionths
    let e := if exponent = 0 then 1 else exponent
    let millionths := roundHalfEven (mantissa * 10 ^ 6 * 2 ^ (e - 150)) (2 ^ (150 - e))
    sign ++ digits (millionths / 10 ^ 6) ++ [0x2E] ++ sixDigits (millionths % 10 ^ 6)

/-- 120.25 -/
example : sprintfF 0x42F08000 = [0x31, 0x32, 0x30, 0x2E, 0x32, 0x35, 0x30, 0x30, 0x30, 0x30] := by decide +kernel

/-! ## Buffers -/

/-- `strcat`, to a buffer of `size` bytes: `none` where the text or its terminator does not fit -/
def strcat (size : ℕ) (buf text : List UInt8) : Option (List UInt8) :=
  if buf.length + text.length < size then some (buf ++ text) else none

/-- one text after another, into an empty buffer -/
def strcats (size : ℕ) (texts : List (List UInt8)) : Option (List UInt8) := texts.foldlM (strcat size) []

theorem strcats_eq {size : ℕ} (h : 0 < size) (texts : List (List UInt8)) :
    strcats size texts = if texts.flatten.length < size then some texts.flatten else none := by
  have hrun : ∀ (texts : List (List UInt8)) (buf : List UInt8), buf.length < size →
      texts.foldlM (strcat size) buf =
        if (buf ++ texts.flatten).length < size then some (buf ++ texts.flatten) else none := by
    intro texts
    induction texts with
    | nil =>
      intro buf hbuf
      rw [List.flatten_nil, List.append_nil, if_pos hbuf]
      rfl
    | cons text texts ih =>
      intro buf hbuf
      rw [List.foldlM_cons, List.flatten_cons, ← List.append_assoc, strcat]
      by_cases hfit : buf.length + text.length < size
      · rw [if_pos hfit]
        exact ih _ (by rwa [List.length_append])
      · rw [if_neg hfit, if_neg (by simp only [List.length_append]; omega)]
        rfl
  exact hrun texts [] h

/-! ## Parameters -/

/-- a parameter of a message, by its type and its text -/
structure TextPara where
  type : UInt16
  text : List UInt8
deriving DecidableEq

end DataConcentrator
