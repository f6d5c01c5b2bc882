/-
A counter of open items, kept from reports that open and close them.

- `Book.push`: a report counts up or down; the counter wraps at a modulus, and a close that finds it at 0 is not counted;
- `Balanced.opened`, `Balanced.closed`: reports about an item that is not open, or is, keep the books balanced;
- `Balanced.count_eq_zero_iff`: with balanced books the counter is 0 exactly when nothing is open.
-/
import Mathlib.Tactic

namespace Ledger

variable {κ : Type*} [DecidableEq κ]

/-! ## Books -/

/-- a report: its item, whether it opens it, and what the counter was before -/
structure Entry (κ : Type*) where
  key : κ
  opened : Bool
  found : ℕ
deriving DecidableEq

structure Book (κ : Type*) where
  count : ℕ
  entries : List (Entry κ)

def Book.push (M : ℕ) (b : Book κ) (key : κ) (opened : Bool) : Book κ where
  count := if opened then (b.count + 1) % M else if b.count ≥ 1 then b.count - 1 else b.count
  entries := b.entries ++ [⟨key, opened, b.count⟩]

/-- what has been reported about an item, in order -/
def Book.about (b : Book κ) (k : κ) : List Bool := (b.entries.filter fun e => e.key = k).map Entry.opened

theorem about_push_self (M : ℕ) (b : Book κ) (k : κ) (opened : Bool) :
    (b.push M k opened).about k = b.about k ++ [opened] := by
  simp [Book.about, Book.push]

theorem about_push_of_ne (M : ℕ) (b : Book κ) {k l : κ} (opened : Bool) (h : l ≠ k) :
    (b.push M k opened).about l = b.about l := by
  simp [Book.about, Book.push, Ne.symm h]

/-! ## Turns -/

/-- opens and closes in turn, an open first -/
def Alternates (l : List Bool) : Prop := ∀ i, ∀ h : i < l.length, l[i] = decide (i % 2 = 0)

theorem Alternates.snoc {l : List Bool} (h : Alternates l) {b : Bool} (hb : b = decide (l.length % 2 = 0)) :
    Alternates (l ++ [b]) := by
  intro i hi
  rw [List.length_append, List.length_singleton] at hi
  rcases Nat.lt_succ_iff_lt_or_eq.1 hi with hlt | rfl
  · rw [List.getElem_append_left hlt]
    exact h i hlt
  · rw [List.getElem_concat_length rfl, hb]

/-! ## Balance -/

/-- the counter says how many items of `S` are open, each item was opened and closed in turn, and no close found 0 -/
structure Balanced (S : Finset κ) (b : Book κ) : Prop where
  count : b.count = S.card
  turns : ∀ k, Alternates (b.about k)
  parity : ∀ k, (b.about k).length % 2 = 1 ↔ k ∈ S
  found : ∀ e ∈ b.entries, e.opened = false → 1 ≤ e.found

theorem balanced_empty : Balanced (∅ : Finset κ) ⟨0, []⟩ :=
  ⟨rfl, fun _ _ h => absurd h (Nat.not_lt_zero _), fun _ => by simp [Book.about], by simp⟩

theorem Balanced.count_eq_zero_iff {S : Finset κ} {b : Book κ} (h : Balanced S b) : b.count = 0 ↔ ∀ k, k ∉ S := by
  rw [h.count, Finset.card_eq_zero, Finset.eq_empty_iff_forall_notMem]

/-- **An item is opened.** -/
theorem Balanced.opened {S : Finset κ} {b : Book κ} (h : Balanced S b) {k : κ} (hk : k ∉ S) {M : ℕ}
    (hM : S.card + 1 < M) : Balanced (insert k S) (b.push M k true) := by
  have heven : (b.about k).length % 2 = 0 := by
    have hodd := (h.parity k).not.2 hk
    omega
  constructor
  · rw [Finset.card_insert_of_notMem hk, ← h.count]
    exact Nat.mod_eq_of_lt (by rw [h.count]; exact hM)
  · intro l
    by_cases hl : l = k
    · rw [hl, about_push_self]
      exact (h.turns k).snoc (by rw [heven]; rfl)
    · rw [about_push_of_ne M b true hl]
      exact h.turns l
  · intro l
    by_cases hl : l = k
    · rw [hl, about_push_self, List.length_append, List.length_singleton]
      exact ⟨fun _ => Finset.mem_insert_self k S, fun _ => by omega⟩
    · rw [about_push_of_ne M b true hl, Finset.mem_insert, or_iff_right hl]
      exact h.parity l
  · intro e he hclosed
    rcases List.mem_append.1 he with he | he
    · exact h.found e he hclosed
    · rw [List.mem_singleton.1 he] at hclosed
      exact absurd hclosed (by simp)

/-- **An item is closed.** -/
theorem Balanced.closed {S : Finset κ} {b : Book κ} (h : Balanced S b) {k : κ} (hk : k ∈ S) (M : ℕ) :
    Balanced (S.erase k) (b.push M k false) := by
  have hodd : (b.about k).length % 2 = 1 := (h.parity k).2 hk
  have hpos : 1 ≤ b.count := by
    rw [h.count]
    exact Finset.card_pos.2 ⟨k, hk⟩
  constructor
  · rw [Finset.card_erase_of_mem hk, ← h.count]
    exact if_pos hpos
  · intro l
    by_cases hl : l = k
    · rw [hl, about_push_self]
      exact (h.turns k).snoc (by rw [hodd]; rfl)
    · rw [about_push_of_ne M b false hl]
      exact h.turns l
  · intro l
    by_cases hl : l = k
    · rw [hl, about_push_self, List.length_append, List.length_singleton]
      exact ⟨fun h1 => by omega, fun hm => absurd hm (Finset.notMem_erase k S)⟩
    · rw [about_push_of_ne M b false hl, Finset.mem_erase, and_iff_right hl]
      exact h.parity l
  · intro e he hclosed
    rcases List.mem_append.1 he with he | he
    · exact h.found e he hclosed
    · rw [List.mem_singleton.1 he]
      exact hpos

end Ledger
