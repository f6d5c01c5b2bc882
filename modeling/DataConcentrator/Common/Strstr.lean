/-
`MyStrstr` over the memory it is handed: lengths of 16 bits, and reads that must stay inside.

- `myStrstr_spec`: over lists, the search gives the first place of the needle, or `0xFFFF`;
- `myStrstrMem_eq`: the search over memory ends within as many rounds as the haystack has bytes, and is the one over
  lists;
- `myStrstrMem_append`: it does not see what follows the haystack;
- `myStrstr_first_occurrence`: so it gives the least offset and reads inside the haystack only.
-/
import Mathlib.Tactic
import DataConcentrator.Common.Text
import DataConcentrator.Lib.FirstMatch

namespace DataConcentrator

open FirstMatch

/-! ## Over lists -/

/-- the loop of `MyStrstr` finds the first place from where it stands on -/
theorem myStrstrLoop_spec {pat text : List UInt8} (hpat : pat ≠ []) (n : ℕ) : ∀ k, k + n = text.length →
    (∃ j, k ≤ j ∧ At pat text j ∧ (∀ i, k ≤ i → i < j → ¬ At pat text i) ∧
      myStrstrLoop pat pat.length text.length n (text.drop k) = j) ∨
    ((∀ i, k ≤ i → ¬ At pat text i) ∧ myStrstrLoop pat pat.length text.length n (text.drop k) = 0xFFFF) := by
  have hpos := List.length_pos_iff.2 hpat
  induction n with
  | zero =>
    intro k hk
    refine Or.inr ⟨fun i hi h => ?_, rfl⟩
    have hle := h.length_le hpat
    omega
  | succ n ih =>
    intro k hk
    rw [myStrstrLoop]
    by_cases hroom : n + 1 ≥ pat.length
    · rw [if_pos hroom, List.take_length]
      by_cases hhere : (text.drop k).take pat.length = pat
      · refine Or.inl ⟨k, le_rfl, hhere, fun i hi hlt => absurd hlt (Nat.not_lt.2 hi), ?_⟩
        rw [if_pos hhere]
        omega
      · rw [if_neg hhere, List.drop_drop]
        rcases ih (k + 1) (by omega) with ⟨j, hkj, hat, hbefore, hloop⟩ | ⟨hno, hloop⟩
        · refine Or.inl ⟨j, by omega, hat, fun i hi hlt => ?_, hloop⟩
          rcases Nat.eq_or_lt_of_le hi with rfl | hi
          · exact hhere
          · exact hbefore i hi hlt
        · refine Or.inr ⟨fun i hi => ?_, hloop⟩
          rcases Nat.eq_or_lt_of_le hi with rfl | hi
          · exact hhere
          · exact hno i hi
    · refine Or.inr ⟨fun i hi h => ?_, if_neg hroom⟩
      have hle := h.length_le hpat
      omega

/-- the loop sees no more of `str2` than `str2_len` bytes -/
theorem myStrstrLoop_take (str2 : List UInt8) (str2_len len n : ℕ) : ∀ str1,
    myStrstrLoop (str2.take str2_len) str2_len len n str1 = myStrstrLoop str2 str2_len len n str1 := by
  induction n with
  | zero => exact fun _ => rfl
  | succ n ih =>
    intro str1
    rw [myStrstrLoop, myStrstrLoop, List.take_take, Nat.min_self, ih]

/-- the search over lists, with the first `str2_len` bytes of `str2` for its needle -/
theorem myStrstr_spec {str2 text : List UInt8} {str2_len : ℕ} (hpos : 0 < str2_len) (h2 : str2_len ≤ str2.length) :
    (∃ k, FirstAt (str2.take str2_len) text k ∧ k + str2_len ≤ text.length ∧
      myStrstr text str2 text.length str2_len = k) ∨
    ((∀ k, ¬ At (str2.take str2_len) text k) ∧ myStrstr text str2 text.length str2_len = 0xFFFF) := by
  have hneedle : (str2.take str2_len).length = str2_len := by rw [List.length_take, Nat.min_eq_left h2]
  have hpat : str2.take str2_len ≠ [] := List.ne_nil_of_length_pos (by omega)
  rw [myStrstr]
  by_cases hempty : text.length = 0
  · rw [if_pos (Or.inl hempty)]
    refine Or.inr ⟨fun k hk => ?_, rfl⟩
    have hle := hk.length_le hpat
    omega
  · rw [if_neg (by omega)]
    have hspec := myStrstrLoop_spec hpat text.length 0 (Nat.zero_add _)
    rw [List.drop_zero, hneedle, myStrstrLoop_take] at hspec
    rcases hspec with ⟨k, -, hat, hbefore, hloop⟩ | ⟨hno, hloop⟩
    · have hle := hat.length_le hpat
      exact Or.inl ⟨k, ⟨hat, fun j hj => hbefore j (Nat.zero_le j) hj⟩, by omega, hloop⟩
    · exact Or.inr ⟨fun k => hno k (Nat.zero_le k), hloop⟩

/-! ## Over memory -/

/-- `!memcmp(str1 + at, str2, n)`; `none` when one of the two is read outside -/
def memcmpEqual (str1 : List UInt8) (pos : ℕ) (str2 : List UInt8) (n : ℕ) : Option Bool :=
  if pos + n ≤ str1.length ∧ n ≤ str2.length then some (decide ((str1.drop pos).take n = str2.take n)) else none

/-- the `while` of `MyStrstr`, with `str1` at the offset `pos`; `none` when a read is outside or `fuel` rounds are not
enough -/
def myStrstrMemLoop (str1 str2 : List UInt8) (len str2_len : UInt16) : ℕ → ℕ → UInt16 → Option UInt16
  | 0, _, str1_len => if str1_len ≥ str2_len then none else some 0xFFFF
  | fuel + 1, pos, str1_len =>
    if str1_len ≥ str2_len then
      let str1_len := str1_len - 1
      (memcmpEqual str1 pos str2 str2_len.toNat).bind fun equal =>
        if equal then some (len - str1_len - 1) else myStrstrMemLoop str1 str2 len str2_len fuel (pos + 1) str1_len
    else some 0xFFFF

def myStrstrMem (str1 str2 : List UInt8) (str1_len str2_len : UInt16) (fuel : ℕ) : Option UInt16 :=
  if str1_len = 0 ∨ str2_len = 0 then some 0xFFFF else myStrstrMemLoop str1 str2 str1_len str2_len fuel 0 str1_len

/-! ## What follows the haystack -/

theorem memcmpEqual_append {str1 str2 : List UInt8} {pos n : ℕ} {equal : Bool}
    (h : memcmpEqual str1 pos str2 n = some equal) (rest : List UInt8) :
    memcmpEqual (str1 ++ rest) pos str2 n = some equal := by
  unfold memcmpEqual at h ⊢
  split_ifs at h with hin
  have hdrop : ((str1 ++ rest).drop pos).take n = (str1.drop pos).take n := by
    rw [List.drop_append_of_le_length (by omega), List.take_append_of_le_length (by rw [List.length_drop]; omega)]
  rw [if_pos ⟨by rw [List.length_append]; omega, hin.2⟩, hdrop]
  exact h

theorem myStrstrMemLoop_append {str1 str2 : List UInt8} {len str2_len res : UInt16} (rest : List UInt8) (fuel : ℕ) :
    ∀ {pos : ℕ} {str1_len : UInt16}, myStrstrMemLoop str1 str2 len str2_len fuel pos str1_len = some res →
      myStrstrMemLoop (str1 ++ rest) str2 len str2_len fuel pos str1_len = some res := by
  induction fuel with
  | zero => exact fun h => h
  | succ fuel ih =>
    intro pos str1_len h
    rw [myStrstrMemLoop] at h ⊢
    split_ifs at h ⊢ with hroom
    · obtain ⟨equal, hcmp, h⟩ := Option.bind_eq_some_iff.1 h
      rw [memcmpEqual_append hcmp rest, Option.bind_some]
      cases equal with
      | true => exact h
      | false => exact ih h
    · exact h

/-- a search that ends inside the haystack ends so whatever follows it -/
theorem myStrstrMem_append {str1 str2 : List UInt8} {str1_len str2_len res : UInt16} {fuel : ℕ}
    (h : myStrstrMem str1 str2 str1_len str2_len fuel = some res) (rest : List UInt8) :
    myStrstrMem (str1 ++ rest) str2 str1_len str2_len fuel = some res := by
  unfold myStrstrMem at h ⊢
  split_ifs at h ⊢ with hempty
  · exact h
  · exact myStrstrMemLoop_append rest fuel h

/-! ## The rounds -/

theorem memcmpEqual_inside {str1 str2 : List UInt8} {pos n : ℕ} (h1 : pos + n ≤ str1.length) (h2 : n ≤ str2.length) :
    memcmpEqual str1 pos str2 n = some (decide ((str1.drop pos).take n = str2.take n)) :=
  if_pos ⟨h1, h2⟩

/-- round by round the search over memory is the one over lists: `pos` bytes are passed and `str1_len` are to go -/
theorem myStrstrMemLoop_eq {str1 str2 : List UInt8} {str2_len : UInt16} (hlen : str1.length < 2 ^ 16)
    (hpos : 0 < str2_len.toNat) (h2 : str2_len.toNat ≤ str2.length) (fuel : ℕ) :
    ∀ (pos : ℕ) (str1_len : UInt16), pos + str1_len.toNat = str1.length → str1_len.toNat ≤ fuel →
      myStrstrMemLoop str1 str2 (UInt16.ofNat str1.length) str2_len fuel pos str1_len =
        some (UInt16.ofNat (myStrstrLoop str2 str2_len.toNat str1.length str1_len.toNat (str1.drop pos))) := by
  induction fuel with
  | zero =>
    intro pos str1_len hk hfuel
    have hzero : str1_len.toNat = 0 := Nat.le_zero.1 hfuel
    rw [myStrstrMemLoop, if_neg (by rw [ge_iff_le, UInt16.le_iff_toNat_le]; omega), hzero]
    rfl
  | succ fuel ih =>
    intro pos str1_len hk hfuel
    by_cases hroom : str1_len ≥ str2_len
    · have hle : str2_len.toNat ≤ str1_len.toNat := UInt16.le_iff_toNat_le.1 hroom
      have hone : (1 : UInt16) ≤ str1_len := UInt16.le_iff_toNat_le.2 (by change 1 ≤ _; omega)
      have hless : (str1_len - 1).toNat = str1_len.toNat - 1 := UInt16.toNat_sub_of_le _ _ hone
      obtain ⟨n, hn⟩ : ∃ n, str1_len.toNat = n + 1 := ⟨str1_len.toNat - 1, by omega⟩
      have hmore : n + 1 ≥ str2_len.toNat := by omega
      rw [myStrstrMemLoop, if_pos hroom, memcmpEqual_inside (by omega) h2, Option.bind_some, hn, myStrstrLoop,
        if_pos hmore]
      by_cases hhere : (str1.drop pos).take str2_len.toNat = str2.take str2_len.toNat
      · rw [if_pos (decide_eq_true hhere), if_pos hhere]
        refine congrArg some (UInt16.toNat_inj.1 ?_)
        rw [UInt16.toNat_sub, UInt16.toNat_sub, hless, UInt16.toNat_ofNat', UInt16.toNat_ofNat', UInt16.toNat_one]
        omega
      · rw [if_neg (by simpa using hhere), if_neg hhere, ih (pos + 1) _ (by omega) (by omega), hless, hn,
          Nat.add_sub_cancel, List.drop_drop]
    · have hlt : ¬ str1_len.toNat ≥ str2_len.toNat := fun h => hroom (UInt16.le_iff_toNat_le.2 h)
      rw [myStrstrMemLoop, if_neg hroom]
      cases hn : str1_len.toNat with
      | zero => rfl
      | succ n => rw [myStrstrLoop, if_neg (by omega)]; rfl

theorem myStrstrMem_eq {str1 str2 : List UInt8} {str1_len str2_len : UInt16} (h1 : str1.length = str1_len.toNat)
    (hpos : 0 < str2_len.toNat) (h2 : str2_len.toNat ≤ str2.length) {fuel : ℕ} (hfuel : str1_len.toNat ≤ fuel) :
    myStrstrMem str1 str2 str1_len str2_len fuel =
      some (UInt16.ofNat (myStrstr str1 str2 str1_len.toNat str2_len.toNat)) := by
  have hlen : UInt16.ofNat str1.length = str1_len := by rw [h1, UInt16.ofNat_toNat]
  have hloop := myStrstrMemLoop_eq (h1 ▸ str1_len.toNat_lt) hpos h2 fuel 0 str1_len (by omega) hfuel
  have hne : str2_len ≠ 0 := by rintro rfl; exact absurd hpos (by decide)
  rw [myStrstrMem, myStrstr]
  by_cases hzero : str1_len = 0
  · rw [if_pos (Or.inl hzero), if_pos (Or.inl (by rw [hzero]; rfl))]
    rfl
  · have hzero' : str1_len.toNat ≠ 0 := fun h => hzero (UInt16.toNat_inj.1 h)
    rw [hlen, List.drop_zero, h1] at hloop
    rw [if_neg (by tauto), if_neg (by omega), hloop]

/-- **First occurrence.** The search ends within as many rounds as the haystack has bytes and gives the least offset at
which the needle stands, or `0xFFFF` where it stands nowhere; what follows the haystack is not read. -/
theorem myStrstr_first_occurrence (str1 str2 : List UInt8) (str1_len str2_len : UInt16)
    (h1 : str1.length = str1_len.toNat) (hpos : 0 < str2_len) (h2 : str2_len.toNat ≤ str2.length) (fuel : ℕ)
    (hfuel : str1_len.toNat ≤ fuel) :
    ∃ pos, (∀ rest, myStrstrMem (str1 ++ rest) str2 str1_len str2_len fuel = some pos) ∧
      (pos ≠ 0xFFFF ∧ FirstAt (str2.take str2_len.toNat) str1 pos.toNat ∨
        pos = 0xFFFF ∧ ∀ k, ¬ At (str2.take str2_len.toNat) str1 k) := by
  have hpos' : 0 < str2_len.toNat := UInt16.lt_iff_toNat_lt.1 hpos
  have hmem := myStrstrMem_eq h1 hpos' h2 hfuel
  refine ⟨_, myStrstrMem_append hmem, ?_⟩
  have hlt := str1_len.toNat_lt
  rcases @myStrstr_spec str2 str1 _ hpos' h2 with ⟨k, hfirst, hle, hfound⟩ | ⟨hno, hnone⟩
  · have hk : (UInt16.ofNat k).toNat = k := UInt16.toNat_ofNat_of_lt' (by change k < 2 ^ 16; omega)
    rw [← h1, hfound, hk]
    refine Or.inl ⟨fun hk' => ?_, hfirst⟩
    rw [hk'] at hk
    have : (0xFFFF : UInt16).toNat = 65535 := rfl
    omega
  · rw [← h1, hnone]
    exact Or.inr ⟨rfl, hno⟩

theorem myStrstr_first_occurrence_crlf :
    ∃ pos, (∀ rest, myStrstrMem ([0x41, 0x0D, 0x0A] ++ rest) [0x0D, 0x0A] 3 2 3 = some pos) ∧
      (pos ≠ 0xFFFF ∧ FirstAt (([0x0D, 0x0A] : List UInt8).take (2 : UInt16).toNat) [0x41, 0x0D, 0x0A] pos.toNat ∨
        pos = 0xFFFF ∧ ∀ k, ¬ At (([0x0D, 0x0A] : List UInt8).take (2 : UInt16).toNat) [0x41, 0x0D, 0x0A] k) :=
  myStrstr_first_occurrence [0x41, 0x0D, 0x0A] [0x0D, 0x0A] 3 2 rfl (by decide) le_rfl 3 le_rfl

end DataConcentrator
