/-
A stretch of an array turned round in place by swaps from its two ends.

- `swap_ends`: one swap;
- `swaps_reverse`: the swaps up to the middle turn the stretch round and leave what is before and behind it.
-/
import Mathlib.Tactic

namespace InPlaceReverse

variable {α : Type*}

/-- the elements at `a` and `b`, exchanged; `none` outside of the array -/
def swap (xs : List α) (a b : ℕ) : Option (List α) :=
  (xs[a]?).bind fun temp => (xs[b]?).map fun other => (xs.set a other).set b temp

/-- `count` swaps from `start` on, each with the place as far from `last` as it is from the first -/
def swaps (start count last : ℕ) (xs : List α) : Option (List α) :=
  (List.range' start count).foldlM (fun xs j => swap xs j (last - j)) xs

theorem swap_ends (pre mid post : List α) (a b : α) :
    swap (pre ++ (a :: mid ++ b :: post)) pre.length (pre.length + mid.length + 1) =
      some (pre ++ (b :: mid ++ a :: post)) := by
  have hset : ∀ x : α, (pre ++ (x :: mid ++ b :: post)).set (pre.length + mid.length + 1) a =
      pre ++ (x :: mid ++ a :: post) := by
    intro x
    rw [List.set_append_right _ _ (by omega), Nat.add_assoc, Nat.add_sub_cancel_left, List.cons_append, List.set_cons_succ,
      List.set_append_right _ _ le_rfl, Nat.sub_self]
    rfl
  have ha : (pre ++ (a :: mid ++ b :: post))[pre.length]? = some a := by
    rw [List.getElem?_append_right le_rfl, Nat.sub_self]
    rfl
  have hb : (pre ++ (a :: mid ++ b :: post))[pre.length + mid.length + 1]? = some b := by
    rw [List.getElem?_append_right (by omega), Nat.add_assoc, Nat.add_sub_cancel_left, List.cons_append,
      List.getElem?_cons_succ, List.getElem?_append_right le_rfl, Nat.sub_self]
    rfl
  have hfirst : (pre ++ (a :: mid ++ b :: post)).set pre.length b = pre ++ (b :: mid ++ b :: post) := by
    rw [List.set_append_right _ _ le_rfl, Nat.sub_self]
    rfl
  rw [swap, ha, Option.bind_some, hb, Option.map_some, hfirst, hset]

/-- a swap of a place with itself -/
theorem swap_self (pre post : List α) (a : α) : swap (pre ++ a :: post) pre.length pre.length = some (pre ++ a :: post) := by
  have ha : (pre ++ a :: post)[pre.length]? = some a := by
    rw [List.getElem?_append_right le_rfl, Nat.sub_self]
    rfl
  have hset : (pre ++ a :: post).set pre.length a = pre ++ a :: post := by
    rw [List.set_append_right _ _ le_rfl, Nat.sub_self]
    rfl
  rw [swap, ha, Option.bind_some, Option.map_some, hset, hset]

/-- **Turned round.** Half the stretch, the middle one swapped with itself or left out. -/
theorem swaps_reverse (count : ℕ) : ∀ (pre mid post : List α) (last : ℕ), last + 1 = 2 * pre.length + mid.length →
    mid.length ≤ 2 * count + 1 → 2 * count ≤ mid.length + 1 →
    swaps pre.length count last (pre ++ (mid ++ post)) = some (pre ++ (mid.reverse ++ post)) := by
  induction count with
  | zero =>
    intro pre mid post last _ hle _
    have hself : mid.reverse = mid := by
      rcases mid with _ | ⟨a, _ | ⟨b, mid⟩⟩
      · rfl
      · rfl
      · simp at hle
    rw [hself]
    rfl
  | succ count ih =>
    intro pre mid post last hlast hle hge
    rw [swaps, List.range'_succ, List.foldlM_cons]
    rcases mid with _ | ⟨a, mid⟩
    · simp at hge
      omega
    rcases List.eq_nil_or_concat mid with rfl | ⟨mid, b, rfl⟩
    · have hmiddle : last - pre.length = pre.length := by rw [List.length_singleton] at hlast; omega
      have hcount : count = 0 := by rw [List.length_singleton] at hge; omega
      rw [hmiddle, List.singleton_append, swap_self, hcount]
      rfl
    · simp only [List.concat_eq_append, List.length_cons, List.length_append, List.length_nil] at hlast hle hge
      have hother : last - pre.length = pre.length + mid.length + 1 := by omega
      have hshape : pre ++ (a :: mid.concat b ++ post) = pre ++ (a :: mid ++ b :: post) := by simp
      have hnext : pre ++ (b :: mid ++ a :: post) = (pre ++ [b]) ++ (mid ++ a :: post) := by simp
      have hrest := ih (pre ++ [b]) mid (a :: post) last (by simp; omega) (by omega) (by omega)
      rw [hother, hshape, swap_ends, hnext]
      rw [List.length_append, List.length_singleton] at hrest
      refine hrest.trans ?_
      simp

end InPlaceReverse
