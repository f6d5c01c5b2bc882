/-
Bubble sort by compare-and-swap steps at indices.

- `pass_cons`: a pass carries the larger of two elements along;
- `pass_full`: over a whole list it brings a greatest element to the end;
- `bubbleSort_perm`, `bubbleSort_sorted`: the sort permutes a list and leaves it in order;
- `bubbleSort_eq`: so it gives what any sort gives.
-/
import Mathlib.Tactic

namespace BubbleSort

variable {α : Type*} [LinearOrder α]

/-- elements `j` and `j + 1`, swapped if they are out of order -/
def swapAt (xs : List α) (j : ℕ) : List α :=
  match xs[j]?, xs[j + 1]? with
  | some a, some b => if b < a then (xs.set j b).set (j + 1) a else xs
  | _, _ => xs

/-- the first `k` steps along a list -/
def pass (k : ℕ) (xs : List α) : List α := (List.range k).foldl swapAt xs

/-- pass `i` leaves out the last `i` elements -/
def bubbleSort (n : ℕ) (xs : List α) : List α := (List.range (n - 1)).foldl (fun xs i => pass (n - 1 - i) xs) xs

/-! ## One pass -/

theorem swapAt_zero (a b : α) (xs : List α) :
    swapAt (a :: b :: xs) 0 = if b < a then b :: a :: xs else a :: b :: xs := rfl

theorem swapAt_succ (x : α) (xs : List α) (j : ℕ) : swapAt (x :: xs) (j + 1) = x :: swapAt xs j := by
  simp only [swapAt, List.getElem?_cons_succ, List.set_cons_succ]
  cases xs[j]? with
  | none => rfl
  | some a =>
    cases xs[j + 1]? with
    | none => rfl
    | some b =>
      simp only
      split_ifs <;> rfl

theorem foldl_swapAt_succ (x : α) (ks : List ℕ) : ∀ xs : List α,
    (ks.map Nat.succ).foldl swapAt (x :: xs) = x :: ks.foldl swapAt xs := by
  induction ks with
  | nil => exact fun xs => rfl
  | cons k ks ih =>
    intro xs
    rw [List.map_cons, List.foldl_cons, swapAt_succ, ih, List.foldl_cons]

/-- the larger of two elements is carried along -/
theorem pass_cons (k : ℕ) (a b : α) (xs : List α) :
    pass (k + 1) (a :: b :: xs) = if b < a then b :: pass k (a :: xs) else a :: pass k (b :: xs) := by
  rw [pass, List.range_succ_eq_map, List.foldl_cons, swapAt_zero]
  split_ifs
  · exact foldl_swapAt_succ b _ _
  · exact foldl_swapAt_succ a _ _

/-- what comes after the steps stays -/
theorem pass_append (k : ℕ) : ∀ xs ys : List α, k < xs.length → pass k (xs ++ ys) = pass k xs ++ ys := by
  induction k with
  | zero => exact fun xs ys _ => rfl
  | succ k ih =>
    intro xs ys hk
    match xs, hk with
    | a :: b :: xs, hk =>
      have hlt : k < (a :: xs).length := Nat.lt_of_succ_lt_succ hk
      rw [List.cons_append, List.cons_append, pass_cons, pass_cons, ← List.cons_append, ← List.cons_append,
        ih (a :: xs) ys hlt, ih (b :: xs) ys hlt]
      split_ifs <;> rfl

/-- a pass over a whole list: a greatest element comes to its end -/
theorem pass_full (xs : List α) : ∀ a, ∃ front m, pass xs.length (a :: xs) = front ++ [m] ∧
    (front ++ [m]).Perm (a :: xs) ∧ ∀ x ∈ front, x ≤ m := by
  induction xs with
  | nil => exact fun a => ⟨[], a, rfl, List.Perm.refl _, fun x hx => absurd hx List.not_mem_nil⟩
  | cons b xs ih =>
    intro a
    rw [List.length_cons, pass_cons]
    split_ifs with hlt
    · obtain ⟨front, m, hpass, hperm, hle⟩ := ih a
      refine ⟨b :: front, m, by rw [hpass, List.cons_append], ?_, fun x hx => ?_⟩
      · exact (hperm.cons b).trans (List.Perm.swap a b xs)
      · rcases List.mem_cons.1 hx with rfl | hx
        · have ha : a ∈ front ++ [m] := hperm.mem_iff.2 List.mem_cons_self
          rcases List.mem_append.1 ha with ha | ha
          · exact hlt.le.trans (hle a ha)
          · exact hlt.le.trans (List.mem_singleton.1 ha).le
        · exact hle x hx
    · obtain ⟨front, m, hpass, hperm, hle⟩ := ih b
      refine ⟨a :: front, m, by rw [hpass, List.cons_append], hperm.cons a, fun x hx => ?_⟩
      rcases List.mem_cons.1 hx with rfl | hx
      · have hb : b ∈ front ++ [m] := hperm.mem_iff.2 List.mem_cons_self
        rcases List.mem_append.1 hb with hb | hb
        · exact (not_lt.1 hlt).trans (hle b hb)
        · exact (not_lt.1 hlt).trans (List.mem_singleton.1 hb).le
      · exact hle x hx

/-! ## The sort -/

/-- after `i` passes: the last `i` elements are in order, and none of the others is greater -/
structure Sorted (xs : List α) (i : ℕ) (ys : List α) : Prop where
  perm : ys.Perm xs
  split : ∃ front back, ys = front ++ back ∧ back.length = i ∧ back.Pairwise (· ≤ ·) ∧ ∀ x ∈ front, ∀ y ∈ back, x ≤ y

theorem Sorted.pass {xs ys : List α} {i : ℕ} (h : Sorted xs i ys) (hi : i < xs.length) :
    Sorted xs (i + 1) (pass (xs.length - 1 - i) ys) := by
  obtain ⟨hperm, front, back, rfl, rfl, hsorted, hle⟩ := h
  have hlen := hperm.length_eq
  rw [List.length_append] at hlen
  obtain ⟨a, front, rfl⟩ : ∃ a rest, front = a :: rest := List.exists_cons_of_length_pos (by omega)
  obtain ⟨rest, m, hpass, hrest, hm⟩ := pass_full front a
  rw [List.length_cons] at hlen
  rw [show xs.length - 1 - back.length = front.length by omega, pass_append _ _ _ (Nat.lt_succ_self _), hpass]
  refine ⟨(hrest.append_right back).trans hperm, rest, m :: back, by rw [List.append_assoc, List.singleton_append],
    List.length_cons, ?_, fun x hx y hy => ?_⟩
  · refine List.pairwise_cons.2 ⟨fun y hy => hle m ?_ y hy, hsorted⟩
    exact hrest.mem_iff.1 (List.mem_append_right _ (List.mem_singleton_self m))
  · rcases List.mem_cons.1 hy with rfl | hy
    · exact hm x hx
    · exact hle x (hrest.mem_iff.1 (List.mem_append_left _ hx)) y hy

theorem sorted_passes (xs : List α) : ∀ i < xs.length,
    Sorted xs i ((List.range i).foldl (fun ys i => BubbleSort.pass (xs.length - 1 - i) ys) xs)
  | 0, _ => ⟨List.Perm.refl _, xs, [], (List.append_nil _).symm, rfl, List.Pairwise.nil,
      fun _ _ _ hy => absurd hy List.not_mem_nil⟩
  | i + 1, hi => by
    rw [List.range_succ, List.foldl_append, List.foldl_cons, List.foldl_nil]
    exact (sorted_passes xs i (Nat.lt_of_succ_lt hi)).pass (Nat.lt_of_succ_lt hi)

/-- the last pass leaves one element before those in order -/
theorem bubbleSort_spec (xs : List α) : (bubbleSort xs.length xs).Perm xs ∧ (bubbleSort xs.length xs).Pairwise (· ≤ ·) := by
  rcases Nat.eq_zero_or_pos xs.length with hzero | hpos
  · rw [List.length_eq_zero_iff.1 hzero]
    exact ⟨List.Perm.refl _, List.Pairwise.nil⟩
  · obtain ⟨hperm, front, back, heq, hback, hsorted, hle⟩ := sorted_passes xs (xs.length - 1) (by omega)
    refine ⟨hperm, ?_⟩
    have hlen := hperm.length_eq
    rw [heq, List.length_append] at hlen
    obtain ⟨a, rfl⟩ : ∃ a, front = [a] := List.length_eq_one_iff.1 (by omega)
    rw [bubbleSort, heq]
    exact List.pairwise_cons.2 ⟨fun y hy => hle a (List.mem_singleton_self a) y hy, hsorted⟩

theorem bubbleSort_perm (xs : List α) : (bubbleSort xs.length xs).Perm xs := (bubbleSort_spec xs).1

theorem bubbleSort_sorted (xs : List α) : (bubbleSort xs.length xs).Pairwise (· ≤ ·) := (bubbleSort_spec xs).2

/-- **Bubble sort** gives what any sort gives. -/
theorem bubbleSort_eq (xs : List α) : bubbleSort xs.length xs = xs.mergeSort (· ≤ ·) := by
  have hmerge := @List.pairwise_mergeSort α (fun a b => decide (a ≤ b))
    (fun a b c hab hbc => decide_eq_true ((of_decide_eq_true hab).trans (of_decide_eq_true hbc)))
    (fun a b => by rw [Bool.or_eq_true, decide_eq_true_eq, decide_eq_true_eq]; exact le_total a b) xs
  exact List.Perm.eq_of_pairwise (fun a b _ _ => le_antisymm) (bubbleSort_sorted xs)
    (hmerge.imp of_decide_eq_true) ((bubbleSort_perm xs).trans (List.mergeSort_perm xs _).symm)

end BubbleSort
