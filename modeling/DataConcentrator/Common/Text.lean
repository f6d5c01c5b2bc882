/-
NUL-terminated texts in memory, and the searches of `common.c` over them.

- `strlen_text`: a text followed by its terminator has its own length, whatever follows; `text_of_strlen` back;
- `searchStr_nil`: `search_str` finds no empty text;
- `myStrstr_byte`: `MyStrstr` finds the first occurrence of a byte.
-/
import Mathlib.Tactic

namespace DataConcentrator

/-! ## Terminated texts -/

/-- `strlen` over the memory from a pointer on; `none` when there is no terminator in it -/
def strlen : List UInt8 → Option ℕ
  | [] => none
  | b :: bs => if b = 0 then some 0 else (strlen bs).map (· + 1)

theorem strlen_text (text rest : List UInt8) (h : 0 ∉ text) : strlen (text ++ 0 :: rest) = some text.length := by
  induction text with
  | nil => rfl
  | cons b text ih =>
    have hb : b ≠ 0 := by rintro rfl; simp at h
    have ht : 0 ∉ text := fun hm => h (List.mem_cons_of_mem b hm)
    simp [strlen, hb, ih ht]

/-- a length found is that of a text and its terminator -/
theorem text_of_strlen {bs : List UInt8} {n : ℕ} (h : strlen bs = some n) :
    ∃ text rest, bs = text ++ 0 :: rest ∧ 0 ∉ text ∧ text.length = n := by
  induction bs generalizing n with
  | nil => simp [strlen] at h
  | cons b bs ih =>
    rw [strlen] at h
    split_ifs at h with hb
    · exact ⟨[], bs, by rw [hb]; rfl, by simp, Option.some.inj h⟩
    · obtain ⟨m, hm, rfl⟩ := Option.map_eq_some_iff.1 h
      obtain ⟨text, rest, rfl, h0, rfl⟩ := ih hm
      refine ⟨b :: text, rest, rfl, ?_, rfl⟩
      rw [List.mem_cons, not_or]
      exact ⟨fun h => hb h.symm, h0⟩

/-- the search for the terminator ends where there is a zero byte -/
theorem strlen_of_mem {bs : List UInt8} (h : 0 ∈ bs) : ∃ n, strlen bs = some n := by
  obtain ⟨text, rest, rfl, h0⟩ := List.eq_append_cons_of_mem h
  exact ⟨text.length, strlen_text text rest h0⟩

/-- the text at the start of a memory that holds a terminator -/
def cstr (bs : List UInt8) : List UInt8 := bs.takeWhile (· ≠ 0)

/-- bytes without a terminator stay -/
theorem cstr_append {a : List UInt8} (h : 0 ∉ a) (b : List UInt8) : cstr (a ++ b) = a ++ cstr b := by
  rw [cstr, cstr]
  exact List.takeWhile_append_of_pos fun x hx => decide_eq_true fun h0 => h (h0 ▸ hx)

/-- zeros after a text do not change it -/
theorem cstr_append_zeros (bs : List UInt8) (k : ℕ) : cstr (bs ++ List.replicate k 0) = cstr bs := by
  induction bs with
  | nil => cases k <;> simp [cstr, List.replicate_succ]
  | cons b bs ih =>
    unfold cstr at ih ⊢
    rw [List.cons_append, List.takeWhile_cons, List.takeWhile_cons, ih]

/-! ## Numbers -/

def myisspace (x : UInt8) : Bool := x ∈ [0x20, 0x09, 0x0A, 0x0C, 0x08, 0x0D]

def myisdigit (x : UInt8) : Bool := 0x30 ≤ x ∧ x ≤ 0x39

/-- `myatoi` on a terminated text, before its result is cut to 32 bits -/
def myatoi (nptr : List UInt8) : ℤ :=
  let s := nptr.dropWhile myisspace
  let sign := s.headD 0
  let digits := (if sign = 0x2D ∨ sign = 0x2B then s.drop 1 else s).takeWhile myisdigit
  let total := digits.foldl (fun (total : ℤ) c => 10 * total + (c.toNat - 0x30 : ℤ)) 0
  if sign = 0x2D then -total else total

/-- an `int` stored in an unsigned field of `w` bits -/
def toUnsigned (w : ℕ) (n : ℤ) : ℕ := (n % 2 ^ w).toNat

def myToupper (ch : UInt8) : UInt8 := if 0x61 ≤ ch ∧ ch < 0x7B then ch - 0x20 else ch

/-- the value of one digit of `StrToHex` -/
def hexDigit (h : UInt8) : UInt8 :=
  let s := myToupper h - 0x30
  if s > 9 then s - 7 else s

/-- `StrToHex`: `len` bytes from `2 * len` digits; `none` when the source memory ends before -/
def strToHex : ℕ → List UInt8 → Option (List UInt8)
  | 0, _ => some []
  | len + 1, h1 :: h2 :: rest => (strToHex len rest).map ((hexDigit h1 * 16 + hexDigit h2) :: ·)
  | _ + 1, _ => none

theorem length_strToHex (len : ℕ) : ∀ (src bs : List UInt8), strToHex len src = some bs → bs.length = len := by
  induction len with
  | zero =>
    intro src bs h
    simp only [strToHex, Option.some.injEq] at h
    rw [← h]
    rfl
  | succ len ih =>
    intro src bs h
    match src with
    | [] => simp [strToHex] at h
    | [_] => simp [strToHex] at h
    | h1 :: h2 :: rest =>
      obtain ⟨bs', hbs', rfl⟩ := Option.map_eq_some_iff.1 h
      rw [List.length_cons, ih rest bs' hbs']

/-! ## Searches -/

/-- `find_str` for the first occurrence of a text: the length of `p_str`, or 0 -/
def findStr (p_str : List UInt8) : List UInt8 → ℕ
  | [] => 0
  | b :: bs => if p_str.isPrefixOf (b :: bs) then p_str.length else findStr p_str bs

/-- `search_str`: `none` for -1 -/
def searchStr (source target : List UInt8) : Option ℕ :=
  let len := findStr target source
  if len = 0 then none else some len

/-- nothing is found for an empty target -/
theorem searchStr_nil (source : List UInt8) : searchStr source [] = none := by
  have hlen : findStr [] source = 0 := by cases source <;> rfl
  rw [searchStr, hlen]
  rfl

theorem findStr_ne_zero_iff {p : List UInt8} (hp : p ≠ []) (s : List UInt8) : findStr p s ≠ 0 ↔ p <:+: s := by
  induction s with
  | nil =>
    rw [List.infix_nil]
    exact ⟨fun h => absurd rfl h, fun h => absurd h hp⟩
  | cons b s ih =>
    rw [findStr, List.infix_cons_iff, ← List.isPrefixOf_iff_prefix]
    split_ifs with h
    · simp [h, hp]
    · rw [ih]
      simp [h]

/-- **What `search_str` finds.** -/
theorem searchStr_ne_none_iff {p : List UInt8} (hp : p ≠ []) (s : List UInt8) : searchStr s p ≠ none ↔ p <:+: s := by
  rw [← findStr_ne_zero_iff hp, searchStr]
  split_ifs with h <;> simp [h]

/-! ## `MyStrstr` -/

/-- the loop of `MyStrstr`, with `n = str1_len` bytes of `str1` to go; `memcmp` compares `str2_len` bytes -/
def myStrstrLoop (str2 : List UInt8) (str2_len len : ℕ) : ℕ → List UInt8 → ℕ
  | 0, _ => 0xFFFF
  | n + 1, str1 =>
    if n + 1 ≥ str2_len then
      if str1.take str2_len = str2.take str2_len then len - n - 1 else myStrstrLoop str2 str2_len len n (str1.drop 1)
    else 0xFFFF

def myStrstr (str1 str2 : List UInt8) (str1_len str2_len : ℕ) : ℕ :=
  if str1_len = 0 ∨ str2_len = 0 then 0xFFFF else myStrstrLoop str2 str2_len str1_len str1_len str1

theorem myStrstrLoop_byte (b : UInt8) (len : ℕ) (bs : List UInt8) : bs.length ≤ len →
    myStrstrLoop [b] 1 len bs.length bs = if b ∈ bs then len - bs.length + bs.idxOf b else 0xFFFF := by
  induction bs with
  | nil => intro _; rfl
  | cons c bs ih =>
    intro h
    rw [List.length_cons] at h ⊢
    have htake : (c :: bs).take 1 = [c] := rfl
    rw [myStrstrLoop, if_pos (by omega), htake, show [b].take 1 = [b] from rfl]
    by_cases hc : c = b
    · subst hc
      rw [if_pos rfl, if_pos (by simp), List.idxOf_cons_self]
      omega
    · rw [if_neg (by simpa using hc), List.drop_succ_cons, List.drop_zero, ih (by omega)]
      have hmem : b ∈ c :: bs ↔ b ∈ bs := by simp [Ne.symm hc]
      simp only [hmem]
      split_ifs with hb
      · rw [List.idxOf_cons_ne _ hc]
        omega
      · rfl

theorem myStrstr_byte (b : UInt8) (bs : List UInt8) :
    myStrstr bs [b] bs.length 1 = if b ∈ bs then bs.idxOf b else 0xFFFF := by
  unfold myStrstr
  cases bs with
  | nil => rfl
  | cons c bs =>
    rw [if_neg (by simp), myStrstrLoop_byte b _ (c :: bs) le_rfl]
    simp

end DataConcentrator
