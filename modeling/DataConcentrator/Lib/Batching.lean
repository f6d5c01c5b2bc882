/-
Items put one by one into batches of a fixed size; a batch leaves when it is full, the last one when the items end.

- `Batches`: a list cut into full batches and a last one that may be shorter;
- `inv_run`: what the batches so far and the one being filled say of the items so far;
- `batches_flush`: the batches that left, with the last one, are the items in order, each once;
- `length_flush_le_iff`: how many batches there are;
- `forall₂_of_mapM`, `mapM_isSome`: every batch, or every item of one, handled by a step that may fail.
-/
import Mathlib.Tactic

namespace Batching

variable {α : Type*}

/-- `xs` cut into full batches, the last one possibly shorter, none of them empty -/
structure Batches (size : ℕ) (xs : List α) (bs : List (List α)) : Prop where
  all : bs.flatten = xs
  full : ∀ b ∈ bs.dropLast, b.length = size
  some : ∀ b ∈ bs, 0 < b.length ∧ b.length ≤ size

/-- the batches that have left, and the one being filled -/
structure St (α : Type*) where
  done : List (List α)
  filling : List α

def start : St α := ⟨[], []⟩

/-- one more item; a full batch leaves -/
def push (size : ℕ) (s : St α) (x : α) : St α :=
  if s.filling.length + 1 = size then ⟨s.done ++ [s.filling ++ [x]], []⟩ else ⟨s.done, s.filling ++ [x]⟩

def pushAll (size : ℕ) (s : St α) (xs : List α) : St α := xs.foldl (push size) s

/-- the last batch leaves, unless there is nothing in it -/
def flush (s : St α) : List (List α) := if s.filling = [] then s.done else s.done ++ [s.filling]

@[simp] theorem pushAll_nil (size : ℕ) (s : St α) : pushAll size s [] = s := rfl

@[simp] theorem pushAll_cons (size : ℕ) (s : St α) (x : α) (xs : List α) :
    pushAll size s (x :: xs) = pushAll size (push size s x) xs := rfl

theorem pushAll_append (size : ℕ) (s : St α) (xs ys : List α) :
    pushAll size s (xs ++ ys) = pushAll size (pushAll size s xs) ys := List.foldl_append

/-! ## The invariant -/

/-- the items so far are those in the batches, and the batch being filled has room -/
structure Inv (size : ℕ) (s : St α) (xs : List α) : Prop where
  all : s.done.flatten ++ s.filling = xs
  full : ∀ b ∈ s.done, b.length = size
  room : s.filling.length < size

variable {size : ℕ} {s : St α} {xs : List α}

theorem inv_start (h : 0 < size) : Inv size (start : St α) [] := ⟨rfl, by simp [start], h⟩

/-- there is always room for one more -/
theorem room_push (h : s.filling.length < size) (x : α) : (push size s x).filling.length < size := by
  unfold push
  split_ifs with hlast
  · exact lt_of_le_of_lt (Nat.zero_le _) h
  · rw [List.length_append, List.length_singleton]
    exact lt_of_le_of_ne h hlast

theorem room_pushAll (h : s.filling.length < size) (xs : List α) : (pushAll size s xs).filling.length < size := by
  induction xs generalizing s with
  | nil => exact h
  | cons x xs ih => exact ih (room_push h x)

theorem inv_push (h : Inv size s xs) (x : α) : Inv size (push size s x) (xs ++ [x]) := by
  have hroom := room_push h.room x
  unfold push at hroom ⊢
  split_ifs at hroom ⊢ with hlast
  · refine ⟨?_, ?_, hroom⟩
    · simp [← h.all]
    · intro b hb
      rcases List.mem_append.1 hb with hb | hb
      · exact h.full b hb
      · rw [List.mem_singleton.1 hb, List.length_append]
        exact hlast
  · refine ⟨?_, h.full, hroom⟩
    rw [← List.append_assoc, h.all]

theorem inv_pushAll (h : Inv size s xs) (ys : List α) : Inv size (pushAll size s ys) (xs ++ ys) := by
  induction ys generalizing s xs with
  | nil => simpa using h
  | cons y ys ih => simpa using ih (inv_push h y)

theorem inv_run (h : 0 < size) (xs : List α) : Inv size (pushAll size start xs) xs := inv_pushAll (inv_start h) xs

/-! ## The batches -/

/-- **Every item is in one batch, in order, and all batches but the last are full.** -/
theorem batches_flush (h : Inv size s xs) : Batches size xs (flush s) := by
  have hsize : 0 < size := lt_of_le_of_lt (Nat.zero_le _) h.room
  have hdone : ∀ b ∈ s.done, 0 < b.length ∧ b.length ≤ size := by
    intro b hb
    rw [h.full b hb]
    exact ⟨hsize, le_rfl⟩
  unfold flush
  split_ifs with hnil
  · exact ⟨by rw [← h.all, hnil, List.append_nil], fun b hb => h.full b (List.mem_of_mem_dropLast hb), hdone⟩
  · refine ⟨by rw [← h.all, List.flatten_append, List.flatten_singleton], ?_, ?_⟩
    · rw [List.dropLast_concat]
      exact h.full
    · intro b hb
      rcases List.mem_append.1 hb with hb | hb
      · exact hdone b hb
      · rw [List.mem_singleton.1 hb]
        exact ⟨List.length_pos_iff.2 hnil, h.room.le⟩

/-- after one more item the last batch is the one that took it -/
theorem flush_push (size : ℕ) (s : St α) (x : α) : flush (push size s x) = s.done ++ [s.filling ++ [x]] := by
  unfold push flush
  split_ifs with hlast hnil hnil
  · rfl
  · exact absurd rfl hnil
  · simp at hnil
  · rfl

theorem length_eq (h : Inv size s xs) : xs.length = size * s.done.length + s.filling.length := by
  have hdone : s.done.flatten.length = size * s.done.length := by
    rw [List.length_flatten, List.eq_replicate_of_mem (l := s.done.map List.length) (a := size)]
    · rw [List.sum_replicate, List.length_map, smul_eq_mul, mul_comm]
    · simpa using h.full
  rw [← h.all, List.length_append, hdone]

/-- the batch being filled is empty exactly when the items fill whole batches -/
theorem filling_eq_nil_iff (h : Inv size s xs) : s.filling = [] ↔ xs.length % size = 0 := by
  rw [length_eq h, Nat.mul_add_mod, Nat.mod_eq_of_lt h.room, List.length_eq_zero_iff]

theorem length_flush_le_iff (h : Inv size s xs) (n : ℕ) : (flush s).length ≤ n ↔ xs.length ≤ size * n := by
  have hroom := h.room
  rw [length_eq h]
  unfold flush
  split_ifs with hnil
  · rw [hnil, List.length_nil, add_zero]
    exact (Nat.mul_le_mul_left_iff (lt_of_le_of_lt (Nat.zero_le _) hroom)).symm
  · have hpos : 0 < s.filling.length := List.length_pos_iff.2 hnil
    rw [List.length_append, List.length_singleton]
    constructor
    · intro hle
      calc size * s.done.length + s.filling.length ≤ size * s.done.length + size := by omega
        _ = size * (s.done.length + 1) := (Nat.mul_succ _ _).symm
        _ ≤ size * n := Nat.mul_le_mul_left size hle
    · intro hle
      by_contra hlt
      have hmul : size * n ≤ size * s.done.length := Nat.mul_le_mul_left size (by omega)
      omega

/-! ## A fallible step for every item -/

/-- a fallible step that succeeds for every item -/
theorem forall₂_of_mapM {β : Type*} {f : α → Option β} : ∀ {xs : List α} {ys : List β}, xs.mapM f = some ys →
    List.Forall₂ (fun x y => f x = some y) xs ys := by
  intro xs
  induction xs with
  | nil =>
    intro ys h
    cases h
    exact .nil
  | cons x xs ih =>
    intro ys h
    rw [List.mapM_cons] at h
    obtain ⟨y, hy, h⟩ := Option.bind_eq_some_iff.1 h
    obtain ⟨zs, hzs, h⟩ := Option.bind_eq_some_iff.1 h
    cases h
    exact .cons hy (ih hzs)

/-- a step that fails for no item -/
theorem mapM_isSome {β : Type*} {f : α → Option β} {xs : List α} (h : ∀ x ∈ xs, (f x).isSome) :
    ∃ ys, xs.mapM f = some ys := by
  induction xs with
  | nil => exact ⟨[], rfl⟩
  | cons x xs ih =>
    obtain ⟨y, hy⟩ := Option.isSome_iff_exists.1 (h x List.mem_cons_self)
    obtain ⟨ys, hys⟩ := ih fun z hz => h z (List.mem_cons_of_mem x hz)
    exact ⟨y :: ys, by rw [List.mapM_cons, hy, hys]; rfl⟩

/-- a step that does not fail -/
theorem mapM_some {β : Type*} {f : α → Option β} {g : α → β} {xs : List α} (h : ∀ x ∈ xs, f x = some (g x)) :
    xs.mapM f = some (xs.map g) := by
  induction xs with
  | nil => rfl
  | cons x xs ih =>
    rw [List.mapM_cons, h x List.mem_cons_self, ih fun y hy => h y (List.mem_cons_of_mem x hy)]
    rfl

/-- what a step gives for each of the first numbers -/
theorem mapM_range {β : Type*} {f : ℕ → Option β} {n : ℕ} {ys : List β} (h : (List.range n).mapM f = some ys) :
    ys.length = n ∧ ∀ i < n, ∃ y, ys[i]? = some y ∧ f i = some y := by
  have hall := forall₂_of_mapM h
  have hlen : ys.length = n := by rw [← hall.length_eq, List.length_range]
  refine ⟨hlen, fun i hi => ?_⟩
  have hget := hall.get (by rwa [List.length_range]) (by rwa [hlen])
  rw [List.get_eq_getElem, List.getElem_range] at hget
  exact ⟨_, List.getElem?_eq_getElem (by rwa [hlen]), hget⟩

end Batching
