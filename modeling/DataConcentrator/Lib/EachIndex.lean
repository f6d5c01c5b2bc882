/-
A loop that goes through the entries of a table once, one after the other, and leaves a record at some of them.

- `each`: one round, at one entry;
- `eachRange_entry`, `mem_eachRange`: after the rounds up to `n` every entry before `n` has been changed once, and the
  records are theirs;
- `filter_eachRange`: an entry leaves no more than one;
- `eachKey_entry`, `eachKey_flag`: a loop over keys with a flag, which is up at the end if it was raised at a key and not
  taken down after it.
-/
import Mathlib.Data.List.Basic
import Mathlib.Logic.Function.Basic

namespace EachIndex

variable {α ρ : Type*}

def each (f : ℕ → α → α × Option ρ) (st : (ℕ → α) × List (ℕ × ρ)) (i : ℕ) : (ℕ → α) × List (ℕ × ρ) :=
  (Function.update st.1 i (f i (st.1 i)).1, st.2 ++ (f i (st.1 i)).2.toList.map fun r => (i, r))

/-- the loop over the first `n` entries -/
def eachRange (f : ℕ → α → α × Option ρ) (n : ℕ) (table : ℕ → α) : (ℕ → α) × List (ℕ × ρ) :=
  (List.range n).foldl (each f) (table, [])

theorem eachRange_succ (f : ℕ → α → α × Option ρ) (n : ℕ) (table : ℕ → α) :
    eachRange f (n + 1) table = each f (eachRange f n table) n := by
  rw [eachRange, List.range_succ, List.foldl_append]
  rfl

theorem eachRange_entry (f : ℕ → α → α × Option ρ) (table : ℕ → α) (n k : ℕ) :
    (eachRange f n table).1 k = if k < n then (f k (table k)).1 else table k := by
  induction n generalizing k with
  | zero => rfl
  | succ n ih =>
    rw [eachRange_succ, each, ih n, if_neg (Nat.lt_irrefl n)]
    dsimp only
    rcases eq_or_ne k n with rfl | hk
    · rw [Function.update_self, if_pos (Nat.lt_succ_self k)]
    · have hlt : k < n + 1 ↔ k < n := by omega
      rw [Function.update_of_ne hk, ih]
      simp only [hlt]

/-- **The records** of the entries gone through. -/
theorem mem_eachRange (f : ℕ → α → α × Option ρ) (table : ℕ → α) (n k : ℕ) (r : ρ) :
    (k, r) ∈ (eachRange f n table).2 ↔ k < n ∧ (f k (table k)).2 = some r := by
  induction n with
  | zero => simp [eachRange]
  | succ n ih =>
    have hmem : (k, r) ∈ (f n (table n)).2.toList.map (fun r => (n, r)) ↔ k = n ∧ (f n (table n)).2 = some r := by
      rw [List.mem_map]
      refine ⟨?_, ?_⟩
      · rintro ⟨r', hr', heq⟩
        obtain ⟨rfl, rfl⟩ := Prod.mk.inj heq
        exact ⟨rfl, Option.mem_toList.1 hr'⟩
      · rintro ⟨rfl, hr⟩
        exact ⟨r, Option.mem_toList.2 hr, rfl⟩
    rw [eachRange_succ, each, eachRange_entry, if_neg (Nat.lt_irrefl n), List.mem_append, ih, hmem]
    rcases eq_or_ne k n with rfl | hk
    · simp
    · have hlt : k < n + 1 ↔ k < n := by omega
      simp [hk, hlt]

/-- **The record** of an entry is the only one of it. -/
theorem filter_eachRange (f : ℕ → α → α × Option ρ) (table : ℕ → α) (n k : ℕ) :
    (eachRange f n table).2.filter (fun r => r.1 = k) =
      if k < n then (f k (table k)).2.toList.map fun r => (k, r) else [] := by
  induction n with
  | zero => rfl
  | succ n ih =>
    rw [eachRange_succ, each, eachRange_entry, if_neg (Nat.lt_irrefl n), List.filter_append, ih, List.filter_map]
    rcases eq_or_ne k n with rfl | hk
    · have hall : ((fun r : ℕ × ρ => decide (r.1 = k)) ∘ fun r => (k, r)) = fun _ => true :=
        funext fun r => decide_eq_true rfl
      rw [if_neg (Nat.lt_irrefl k), if_pos (Nat.lt_succ_self k), hall, List.filter_true, List.nil_append]
    · have hnone : ((fun r : ℕ × ρ => decide (r.1 = k)) ∘ fun r => (n, r)) = fun _ => false :=
        funext fun r => decide_eq_false fun h => hk h.symm
      have hlt : k < n + 1 ↔ k < n := by omega
      rw [hnone, List.filter_false, List.map_nil, List.append_nil]
      simp only [hlt]

/-! ## A flag -/

variable {κ : Type*}

/-- the last write counts -/
theorem foldl_writes (write : κ → Option Bool) (keys : List κ) (flag : Bool) :
    keys.foldl (fun flag k => (write k).getD flag) flag = true ↔
      (∃ pre k post, keys = pre ++ k :: post ∧ write k = some true ∧ ∀ k' ∈ post, write k' ≠ some false) ∨
        flag = true ∧ ∀ k ∈ keys, write k ≠ some false := by
  induction keys generalizing flag with
  | nil =>
    refine ⟨fun h => Or.inr ⟨h, fun k hk => absurd hk List.not_mem_nil⟩, ?_⟩
    rintro (⟨pre, k, post, heq, -⟩ | ⟨h, -⟩)
    · exact absurd heq.symm (List.append_ne_nil_of_right_ne_nil pre (List.cons_ne_nil k post))
    · exact h
  | cons a keys ih =>
    rw [List.foldl_cons, ih, List.forall_mem_cons]
    constructor
    · rintro (⟨pre, k, post, rfl, hset, hpost⟩ | ⟨hflag, hall⟩)
      · exact Or.inl ⟨a :: pre, k, post, rfl, hset, hpost⟩
      · cases hwrite : write a with
        | none =>
          rw [hwrite] at hflag
          exact Or.inr ⟨hflag, (Option.some_ne_none _).symm, hall⟩
        | some b =>
          rw [hwrite] at hflag
          exact Or.inl ⟨[], a, keys, rfl, hwrite.trans (congrArg some hflag), hall⟩
    · rintro (⟨pre, k, post, heq, hset, hpost⟩ | ⟨hflag, hkeep, hall⟩)
      · cases pre with
        | nil =>
          obtain ⟨rfl, rfl⟩ := List.cons.inj heq
          exact Or.inr ⟨by rw [hset]; rfl, hpost⟩
        | cons b pre =>
          obtain ⟨rfl, rfl⟩ := List.cons.inj heq
          exact Or.inl ⟨pre, k, post, rfl, hset, hpost⟩
      · refine Or.inr ⟨?_, hall⟩
        cases hwrite : write a with
        | none => exact hflag
        | some b =>
          cases b with
          | true => rfl
          | false => exact absurd hwrite hkeep

variable [DecidableEq κ]

/-- one round at a key: what it makes of the entry, and what it writes to the flag, if anything -/
def eachKeyStep (f : κ → α → α × Option Bool) (st : (κ → α) × Bool) (k : κ) : (κ → α) × Bool :=
  (Function.update st.1 k (f k (st.1 k)).1, (f k (st.1 k)).2.getD st.2)

def eachKey (f : κ → α → α × Option Bool) (keys : List κ) (st : (κ → α) × Bool) : (κ → α) × Bool :=
  keys.foldl (eachKeyStep f) st

theorem eachKey_entry (f : κ → α → α × Option Bool) (keys : List κ) (hkeys : keys.Nodup) (st : (κ → α) × Bool) (k : κ) :
    (eachKey f keys st).1 k = if k ∈ keys then (f k (st.1 k)).1 else st.1 k := by
  induction keys generalizing st with
  | nil => rfl
  | cons a keys ih =>
    obtain ⟨ha, hkeys⟩ := List.nodup_cons.1 hkeys
    rw [eachKey, List.foldl_cons, ← eachKey, ih hkeys, eachKeyStep]
    dsimp only
    rcases eq_or_ne k a with rfl | hne
    · rw [if_neg ha, if_pos List.mem_cons_self, Function.update_self]
    · simp only [Function.update_of_ne hne, List.mem_cons, hne, false_or]

/-- what the keys write to the flag does not depend on the rounds before -/
theorem eachKey_writes (f : κ → α → α × Option Bool) (keys : List κ) (hkeys : keys.Nodup) (st : (κ → α) × Bool) :
    (eachKey f keys st).2 = keys.foldl (fun flag k => (f k (st.1 k)).2.getD flag) st.2 := by
  induction keys generalizing st with
  | nil => rfl
  | cons a keys ih =>
    obtain ⟨ha, hkeys⟩ := List.nodup_cons.1 hkeys
    rw [eachKey, List.foldl_cons, ← eachKey, ih hkeys, List.foldl_cons]
    refine List.foldl_ext _ _ _ fun flag k hk => ?_
    have hne : k ≠ a := fun heq => ha (heq ▸ hk)
    rw [eachKeyStep]
    dsimp only
    rw [Function.update_of_ne hne]

/-- **The flag** is up at the end if a key raises it and none after that takes it down. -/
theorem eachKey_flag (f : κ → α → α × Option Bool) (keys : List κ) (hkeys : keys.Nodup) (st : (κ → α) × Bool) :
    (eachKey f keys st).2 = true ↔
      (∃ pre k post, keys = pre ++ k :: post ∧ (f k (st.1 k)).2 = some true ∧ ∀ k' ∈ post, (f k' (st.1 k')).2 ≠ some false) ∨
        st.2 = true ∧ ∀ k ∈ keys, (f k (st.1 k)).2 ≠ some false := by
  rw [eachKey_writes f keys hkeys st, foldl_writes]

end EachIndex
