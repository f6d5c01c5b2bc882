/-
Where a pattern stands in a text.

- `At`, `FirstAt`: the pattern stands at a place, and nowhere before;
- `At.mem`: every element it covers is one of its own;
- `firstAt_unique`, `exists_firstAt`: there is one first place if there is any.
-/
import Mathlib.Tactic

namespace FirstMatch

variable {α : Type*} {pat text : List α} {j k : ℕ}

def At (pat text : List α) (k : ℕ) : Prop := (text.drop k).take pat.length = pat

instance [DecidableEq α] : Decidable (At pat text k) := inferInstanceAs (Decidable (_ = _))

structure FirstAt (pat text : List α) (k : ℕ) : Prop where
  here : At pat text k
  before : ∀ j < k, ¬ At pat text j

theorem At.length_le (h : At pat text k) (hpat : pat ≠ []) : k + pat.length ≤ text.length := by
  have hlen := congrArg List.length h
  have hpos := List.length_pos_iff.2 hpat
  rw [List.length_take, List.length_drop] at hlen
  omega

theorem At.getElem? (h : At pat text k) {i : ℕ} (hi : i < pat.length) : text[k + i]? = pat[i]? := by
  rw [← show (text.drop k).take pat.length = pat from h, List.getElem?_take_of_lt hi, List.getElem?_drop]

/-- what the pattern covers is its own -/
theorem At.mem (h : At pat text k) (hkj : k ≤ j) (hj : j < k + pat.length) {x : α} (hx : text[j]? = some x) : x ∈ pat := by
  have hget := h.getElem? (i := j - k) (by omega)
  rw [Nat.add_sub_cancel' hkj, hx] at hget
  exact List.mem_of_getElem? hget.symm

theorem firstAt_unique (hj : FirstAt pat text j) (hk : FirstAt pat text k) : j = k := by
  rcases Nat.lt_trichotomy j k with hlt | heq | hlt
  · exact absurd hj.here (hk.before j hlt)
  · exact heq
  · exact absurd hk.here (hj.before k hlt)

theorem exists_firstAt (h : At pat text k) : ∃ j ≤ k, FirstAt pat text j := by
  classical
  have hsome : ∃ j, At pat text j := ⟨k, h⟩
  exact ⟨Nat.find hsome, Nat.find_min' hsome h, Nat.find_spec hsome, fun j hj => Nat.find_min hsome hj⟩

/-- at the end of a text -/
theorem at_append (pre pat : List α) : At pat (pre ++ pat) pre.length := by
  rw [At, List.drop_left, List.take_length]

end FirstMatch
