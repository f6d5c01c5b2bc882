/-
A table whose entries have keys, and reports that each give one key a value: a report goes to the first entry with its
key.

- `stores_apply`: after any reports, the first entry with a key holds the last value reported for it, or its old one, and
  the other entries are as they were.
-/
import DataConcentrator.Lib.Owned

namespace Reports

variable {κ V : Type*} [DecidableEq κ]

/-- the first of `n` entries with a key -/
def find (key : ℕ → κ) (n : ℕ) (k : κ) : Option ℕ := (List.range n).find? fun i => key i = k

def store (key : ℕ → κ) (n : ℕ) (c : ℕ → V) (r : κ × V) : ℕ → V :=
  match find key n r.1 with
  | some i => Function.update c i r.2
  | none => c

variable {key : ℕ → κ} {n : ℕ}

theorem key_of_find {k : κ} {i : ℕ} (h : find key n k = some i) : key i = k := by
  have hkey := List.find?_some (p := fun i => decide (key i = k)) h
  exact of_decide_eq_true hkey

/-- entry `i` takes the reports of its key if it is the first with it -/
theorem store_apply (c : ℕ → V) (r : κ × V) (i : ℕ) : store key n c r i =
    if find key n (key i) = some i ∧ r.1 = key i then r.2 else c i := by
  rw [store]
  cases hfind : find key n r.1 with
  | none =>
    dsimp only
    rw [if_neg]
    rintro ⟨hfirst, hr⟩
    rw [hr, hfirst] at hfind
    exact absurd hfind (Option.some_ne_none i)
  | some j =>
    have hkey := key_of_find hfind
    dsimp only
    by_cases hij : i = j
    · subst hij
      rw [Function.update_self, if_pos ⟨by rw [hkey]; exact hfind, hkey.symm⟩]
    · rw [Function.update_of_ne hij, if_neg]
      rintro ⟨hfirst, hr⟩
      rw [hr, hfirst] at hfind
      exact hij (Option.some.inj hfind)

theorem last_snoc (rs : List (κ × V)) (r : κ × V) (k : κ) :
    Owned.last (rs ++ [r]) k = if r.1 = k then some r.2 else Owned.last rs k := by
  induction rs with
  | nil => by_cases h : r.1 = k <;> simp [Owned.last, h]
  | cons s rs ih =>
    rw [List.cons_append, Owned.last, ih, Owned.last]
    by_cases h : r.1 = k
    · rw [if_pos h, if_pos h]
      rfl
    · rw [if_neg h, if_neg h]

/-- **After any reports** the first entry with a key holds the last of its values. -/
theorem stores_apply (rs : List (κ × V)) (c : ℕ → V) (i : ℕ) : rs.foldl (store key n) c i =
    if find key n (key i) = some i then (Owned.last rs (key i)).getD (c i) else c i := by
  induction rs using List.reverseRecOn with
  | nil => exact (ite_self _).symm
  | append_singleton rs r ih =>
    rw [List.foldl_append, List.foldl_cons, List.foldl_nil, store_apply, ih, last_snoc]
    by_cases hfirst : find key n (key i) = some i
    · rw [if_pos hfirst, if_pos hfirst]
      by_cases hr : r.1 = key i
      · rw [if_pos ⟨hfirst, hr⟩, if_pos hr]
        rfl
      · rw [if_neg fun h => hr h.2, if_neg hr]
    · rw [if_neg fun h => hfirst h.1, if_neg hfirst, if_neg hfirst]

/-- a last value was reported -/
theorem mem_of_last {rs : List (κ × V)} {k : κ} {v : V} (h : Owned.last rs k = some v) : (k, v) ∈ rs := by
  induction rs using List.reverseRecOn with
  | nil => exact absurd h.symm (Option.some_ne_none v)
  | append_singleton rs r ih =>
    rw [last_snoc] at h
    by_cases hr : r.1 = k
    · rw [if_pos hr, Option.some_inj] at h
      exact List.mem_append_right _ (List.mem_singleton.2 (Prod.ext hr.symm h.symm))
    · rw [if_neg hr] at h
      exact List.mem_append_left _ (ih h)

end Reports
