/-
Hexadecimal texts as the handlers read them: two digits at a time with `StrToHex`, a single digit after a zero.

- `hexValue`: the number a text stands for; `hexByte_value`: two digits give theirs;
- `hexOf_text`: a byte of one or two digits is read as it stands;
- `setLow_eq_iff`: a byte stored in the low half of a word gives its value only over an empty high half.
-/
import DataConcentrator.Common.Reader

namespace DataConcentrator

/-! ## Digits -/

def isHexDigit (b : UInt8) : Bool :=
  (0x30 ≤ b && b ≤ 0x39) || (0x41 ≤ b && b ≤ 0x46) || (0x61 ≤ b && b ≤ 0x66)

/-- the number of a text of digits -/
def hexValue (text : List UInt8) : ℕ := text.foldl (fun n d => 16 * n + (hexDigit d).toNat) 0

/-- `StrToHex` with `len` 1, of the two bytes it reads -/
def hexByte (h1 h2 : UInt8) : UInt8 := hexDigit h1 * 16 + hexDigit h2

/-- a zero before the digits -/
theorem hexValue_zero (text : List UInt8) : hexValue (0x30 :: text) = hexValue text := by
  have hdigit : 16 * 0 + (hexDigit 0x30).toNat = 0 := by decide
  rw [hexValue, List.foldl_cons, hdigit, hexValue]

/-- a digit is below 16, and no separator -/
theorem isHexDigit_facts : ∀ b : UInt8, isHexDigit b = true →
    (hexDigit b).toNat < 16 ∧ b ∉ [0, 0x2C, 0x7C] :=
  forall_byte (by decide +kernel)

theorem hexByte_value {h1 h2 : UInt8} (ha : isHexDigit h1 = true) (hb : isHexDigit h2 = true) :
    (hexByte h1 h2).toNat = 16 * (hexDigit h1).toNat + (hexDigit h2).toNat := by
  have h1lt := (isHexDigit_facts h1 ha).1
  have h2lt := (isHexDigit_facts h2 hb).1
  rw [hexByte, UInt8.toNat_add, UInt8.toNat_mul]
  have h16 : (16 : UInt8).toNat = 16 := rfl
  rw [h16]
  omega

/-- one to `k` digits -/
structure HexText (k : ℕ) (text : List UInt8) : Prop where
  pos : 0 < text.length
  le : text.length ≤ k
  digits : ∀ x ∈ text, isHexDigit x = true

theorem HexText.plain {k : ℕ} {text : List UInt8} (h : HexText k text) : Plain text :=
  fun x hx => (isHexDigit_facts x (h.digits x hx)).2

theorem hexValue_lt {text : List UInt8} (h : ∀ x ∈ text, isHexDigit x = true) : hexValue text < 16 ^ text.length := by
  induction text using List.reverseRecOn with
  | nil => exact Nat.one_pos
  | append_singleton text d ih =>
    have hd := (isHexDigit_facts d (h d (by simp))).1
    have htext := ih fun x hx => h x (List.mem_append_left _ hx)
    rw [hexValue] at htext ⊢
    rw [List.foldl_append, List.foldl_cons, List.foldl_nil, List.length_append, List.length_singleton, pow_succ]
    omega

theorem hexValue_append (xs ys : List UInt8) : hexValue (xs ++ ys) = hexValue xs * 16 ^ ys.length + hexValue ys := by
  induction ys using List.reverseRecOn with
  | nil =>
    rw [List.append_nil, List.length_nil, pow_zero, Nat.mul_one]
    rfl
  | append_singleton ys d ih =>
    have hlast : ∀ zs, hexValue (zs ++ [d]) = 16 * hexValue zs + (hexDigit d).toNat := fun zs => by
      rw [hexValue, List.foldl_append]
      rfl
    rw [← List.append_assoc, hlast, hlast, ih, List.length_append, List.length_singleton, pow_succ]
    ring

/-- the two digits of a byte -/
theorem hexByte_printed (b : UInt8) :
    (∀ x ∈ sprintf02X b, isHexDigit x = true) ∧ hexValue (sprintf02X b) = b.toNat := by
  have hall : ∀ b : UInt8, (sprintf02X b).all isHexDigit = true ∧ hexValue (sprintf02X b) = b.toNat :=
    forall_byte (by decide +kernel)
  exact ⟨List.all_eq_true.1 (hall b).1, (hall b).2⟩

/-! ## Bytes -/

/-- two digits of `tmp`, of a single digit itself after a zero -/
def hexOf (r : Reader) (text : List UInt8) : Option UInt8 :=
  (strToHex 1 (if text.length = 1 then 0x30 :: text else r.tmp)).map fun bs => bs.headD 0

/-- a byte of one or two digits -/
def hexByteOf (text : List UInt8) : UInt8 :=
  match text with
  | [d] => hexByte 0x30 d
  | h1 :: h2 :: _ => hexByte h1 h2
  | [] => 0

theorem hexOf_overlay {text : List UInt8} (hne : 0 < text.length) (msg tmp : List UInt8) :
    hexOf ⟨msg, TextScan.overlay 0 text tmp⟩ text = some (hexByteOf text) := by
  match text with
  | [d] => rfl
  | h1 :: h2 :: more =>
    have htwo : ¬ (h1 :: h2 :: more).length = 1 := by
      rw [List.length_cons, List.length_cons]
      omega
    rw [hexOf, if_neg htwo]
    rfl

theorem hexByteOf_value {text : List UInt8} (h : HexText 2 text) : (hexByteOf text).toNat = hexValue text := by
  have hdigits := h.digits
  match text, h.pos, h.le with
  | [d], _, _ =>
    change (hexByte 0x30 d).toNat = 16 * 0 + (hexDigit d).toNat
    rw [hexByte_value (by decide) (hdigits d List.mem_cons_self)]
    rfl
  | [h1, h2], _, _ =>
    change (hexByte h1 h2).toNat = 16 * (16 * 0 + (hexDigit h1).toNat) + (hexDigit h2).toNat
    rw [hexByte_value (hdigits h1 (by simp)) (hdigits h2 (by simp))]
    omega

/-- **A byte reads back.** -/
theorem hexOf_text {text : List UInt8} (h : HexText 2 text) (msg tmp : List UInt8) :
    hexOf ⟨msg, TextScan.overlay 0 text tmp⟩ text = some (UInt8.ofNat (hexValue text)) := by
  rw [hexOf_overlay h.pos, ← hexByteOf_value h, UInt8.ofNat_toNat]

/-! ## Words -/

/-- a byte stored through the address of a word: its low half -/
def setLow (old : UInt16) (b : UInt8) : UInt16 := (old &&& 0xFF00) + b.toUInt16

/-- `(((u16)h << 8) & 0xFF00) + (u16)l` -/
def hexWord (h l : UInt8) : UInt16 := ((h.toUInt16 <<< 8) &&& 0xFF00) + l.toUInt16

theorem and_high (n : ℕ) : n &&& 0xFF00 = n / 256 % 256 * 256 := by
  have hbits : n &&& 0xFF00 = (n / 2 ^ 8 &&& 2 ^ 8 - 1) <<< 8 := by
    apply Nat.eq_of_testBit_eq
    intro i
    have hmask : Nat.testBit 0xFF00 i = (decide (8 ≤ i) && Nat.testBit 255 (i - 8)) :=
      Nat.testBit_shiftLeft (i := 8) (j := i) 255
    rw [Nat.testBit_and, hmask, Nat.testBit_shiftLeft, Nat.testBit_and, Nat.testBit_div_two_pow]
    by_cases hi : 8 ≤ i
    · rw [Nat.sub_add_cancel hi, decide_eq_true hi, Bool.true_and, Bool.true_and]
      rfl
    · rw [decide_eq_false hi, Bool.false_and, Bool.and_false, Bool.false_and]
  rw [hbits, Nat.and_two_pow_sub_one_eq_mod, Nat.shiftLeft_eq]
  rfl

theorem setLow_value (old : UInt16) (b : UInt8) : (setLow old b).toNat = old.toNat / 256 * 256 + b.toNat := by
  have hold := old.toNat_lt
  have hb := b.toNat_lt
  rw [setLow, UInt16.toNat_add, UInt16.toNat_and]
  change ((old.toNat &&& 0xFF00) + b.toUInt16.toNat) % 2 ^ 16 = _
  rw [and_high, UInt8.toNat_toUInt16]
  omega

theorem hexWord_value (h l : UInt8) : (hexWord h l).toNat = 256 * h.toNat + l.toNat := by
  have hh := h.toNat_lt
  have hl := l.toNat_lt
  have hshift : (h.toUInt16 <<< 8).toNat = 256 * h.toNat := by
    rw [UInt16.toNat_shiftLeft, UInt8.toNat_toUInt16]
    change h.toNat <<< 8 % 2 ^ 16 = _
    rw [Nat.shiftLeft_eq]
    omega
  rw [hexWord, UInt16.toNat_add, UInt16.toNat_and, hshift]
  change ((256 * h.toNat &&& 0xFF00) + l.toUInt16.toNat) % 2 ^ 16 = _
  rw [and_high, UInt8.toNat_toUInt16]
  omega

/-- four digits -/
theorem hexWord_four {d e f g : UInt8} (h : ∀ x ∈ [d, e, f, g], isHexDigit x = true) :
    hexWord (hexByte d e) (hexByte f g) = UInt16.ofNat (hexValue [d, e, f, g]) := by
  have hlt : hexValue [d, e, f, g] < 16 ^ 4 := hexValue_lt h
  have hvalue : hexValue [d, e, f, g] = 16 * (16 * (16 * (16 * 0 + (hexDigit d).toNat) + (hexDigit e).toNat) +
      (hexDigit f).toNat) + (hexDigit g).toNat := rfl
  rw [← UInt16.toNat_inj, UInt16.toNat_ofNat_of_lt' hlt, hexWord_value, hexByte_value (h d (by simp)) (h e (by simp)),
    hexByte_value (h f (by simp)) (h g (by simp)), hvalue]
  omega

/-- the low half alone is the value exactly if the high half is empty -/
theorem setLow_eq_iff (old : UInt16) (b : UInt8) : setLow old b = UInt16.ofNat b.toNat ↔ old.toNat < 256 := by
  have hb := b.toNat_lt
  have hword : (UInt16.ofNat b.toNat).toNat = b.toNat := UInt16.toNat_ofNat_of_lt' (lt_trans hb (by decide))
  rw [← UInt16.toNat_inj, hword, setLow_value]
  omega

end DataConcentrator
