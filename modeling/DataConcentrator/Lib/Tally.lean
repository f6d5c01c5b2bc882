/-
Counts kept beside a store by a program whose steps may fail.

- `card_filter_update`: the size of a filtered set when membership changes at one element;
- `Along`, `Throughout`: a condition on each step of a run, and a property of each state of it;
- `throughout_iff_along`: the property holds throughout exactly when each step meets the condition that keeps it;
- `throughout_of_along`, `last_of_along`: an invariant that each step under its condition keeps;
- `foldlM_view`: a view of the state that the steps respect;
- `along_congr`: conditions that agree under an invariant agree along a run;
- `kept_iff_along`: where no step lowers a lead, a run keeps it exactly when each step does.
-/
import Mathlib.Tactic

namespace Tally

/-! ## Counting -/

/-- membership that changes at `r` alone changes the size by what happens there -/
theorem card_filter_update {ι : Type*} [DecidableEq ι] (s : Finset ι) (p q : ι → Prop) [DecidablePred p]
    [DecidablePred q] {r : ι} (hr : r ∈ s) (h : ∀ i ∈ s, i ≠ r → (p i ↔ q i)) :
    (s.filter q).card + (if p r then 1 else 0) = (s.filter p).card + (if q r then 1 else 0) := by
  have hsame : (s.erase r).filter p = (s.erase r).filter q :=
    Finset.filter_congr fun i hi => h i (Finset.mem_of_mem_erase hi) (Finset.ne_of_mem_erase hi)
  have split : ∀ (u : ι → Prop) [DecidablePred u],
      (s.filter u).card = ((s.erase r).filter u).card + (if u r then 1 else 0) := by
    intro u _
    conv_lhs => rw [← Finset.insert_erase hr, Finset.filter_insert]
    split_ifs with hu
    · exact Finset.card_insert_of_notMem fun hm => Finset.notMem_erase r s (Finset.mem_filter.1 hm).1
    · rfl
  rw [split q, split p, hsame]
  exact add_right_comm _ _ _

/-! ## Runs -/

variable {σ α : Type*} (step : σ → α → Option σ)

/-- each step of the run meets `Q` in the state it is taken in -/
def Along (Q : σ → α → Prop) : σ → List α → Prop
  | _, [] => True
  | s, x :: xs => Q s x ∧ ∀ t, step s x = some t → Along Q t xs

/-- no step fails, and `P` holds before and after each of them -/
def Throughout (P : σ → Prop) : σ → List α → Prop
  | s, [] => P s
  | s, x :: xs => P s ∧ ∃ t, step s x = some t ∧ Throughout P t xs

instance decidableAlong {Q : σ → α → Prop} [∀ s x, Decidable (Q s x)] :
    ∀ (xs : List α) (s : σ), Decidable (Along step Q s xs)
  | [], _ => isTrue trivial
  | x :: xs, s =>
    match hs : step s x with
    | none => decidable_of_iff (Q s x) ⟨fun h => ⟨h, fun t ht => by rw [hs] at ht; cases ht⟩, fun h => h.1⟩
    | some t =>
      have : Decidable (Along step Q t xs) := decidableAlong xs t
      decidable_of_iff (Q s x ∧ Along step Q t xs)
        ⟨fun h => ⟨h.1, fun t' ht => by rw [hs] at ht; cases ht; exact h.2⟩, fun h => ⟨h.1, h.2 t hs⟩⟩

theorem throughout_head {P : σ → Prop} {s : σ} {xs : List α} (h : Throughout step P s xs) : P s := by
  cases xs with
  | nil => exact h
  | cons x xs => exact h.1

/-- it holds in the last state too -/
theorem throughout_last {P : σ → Prop} (xs : List α) :
    ∀ s, Throughout step P s xs → ∃ t, xs.foldlM step s = some t ∧ P t := by
  induction xs with
  | nil => exact fun s h => ⟨s, rfl, h⟩
  | cons x xs ih =>
    intro s h
    obtain ⟨_, t, ht, h⟩ := h
    obtain ⟨u, hu, hPu⟩ := ih t h
    refine ⟨u, ?_, hPu⟩
    rw [List.foldlM_cons]
    exact Option.bind_eq_some_iff.2 ⟨t, ht, hu⟩

variable {step}

/-- **Runs that keep a property.** Under an invariant of the steps, `Q` says exactly when one keeps `P`. -/
theorem throughout_iff_along {Inv P : σ → Prop} {Q : σ → α → Prop} {D : α → Prop}
    (hinv : ∀ s x t, D x → Inv s → P s → step s x = some t → P t → Inv t)
    (hstep : ∀ s x, D x → Inv s → P s → ((∃ t, step s x = some t ∧ P t) ↔ Q s x)) (xs : List α)
    (hxs : ∀ x ∈ xs, D x) : ∀ s, Inv s → P s → (Throughout step P s xs ↔ Along step Q s xs) := by
  induction xs with
  | nil => exact fun s _ hs => ⟨fun _ => trivial, fun _ => hs⟩
  | cons x xs ih =>
    intro s hI hs
    have hx := hxs x List.mem_cons_self
    have ih := ih fun y hy => hxs y (List.mem_cons_of_mem x hy)
    constructor
    · intro h
      obtain ⟨_, t, ht, h⟩ := h
      have hPt := throughout_head step h
      refine ⟨(hstep s x hx hI hs).1 ⟨t, ht, hPt⟩, fun t' ht' => ?_⟩
      rw [ht, Option.some.injEq] at ht'
      exact ht' ▸ (ih t (hinv s x t hx hI hs ht hPt) hPt).1 h
    · intro h
      obtain ⟨t, ht, hPt⟩ := (hstep s x hx hI hs).2 h.1
      exact ⟨hs, t, ht, (ih t (hinv s x t hx hI hs ht hPt) hPt).2 (h.2 t ht)⟩

/-- steps that meet the condition succeed and keep the invariant, and so does a run of them -/
theorem throughout_of_along {Inv : σ → Prop} {Q : σ → α → Prop}
    (hstep : ∀ s x, Inv s → Q s x → ∃ t, step s x = some t ∧ Inv t) (xs : List α) :
    ∀ s, Inv s → Along step Q s xs → Throughout step Inv s xs := by
  induction xs with
  | nil => exact fun s hs _ => hs
  | cons x xs ih =>
    intro s hs h
    obtain ⟨hx, h⟩ := h
    obtain ⟨t, ht, hI⟩ := hstep s x hs hx
    exact ⟨hs, t, ht, ih t hI (h t ht)⟩

/-- what each step under its condition keeps, a run keeps that succeeds -/
theorem last_of_along {Inv : σ → Prop} {Q : σ → α → Prop} {D : α → Prop}
    (hstep : ∀ s x t, D x → Inv s → Q s x → step s x = some t → Inv t) (xs : List α) (hxs : ∀ x ∈ xs, D x) :
    ∀ s t, Inv s → Along step Q s xs → xs.foldlM step s = some t → Inv t := by
  induction xs with
  | nil =>
    intro s t hs _ ht
    cases ht
    exact hs
  | cons x xs ih =>
    intro s u hs h hu
    rw [List.foldlM_cons] at hu
    obtain ⟨t, ht, hu⟩ := Option.bind_eq_some_iff.1 hu
    exact ih (fun y hy => hxs y (List.mem_cons_of_mem x hy)) t u (hstep s x t (hxs x List.mem_cons_self) hs h.1 ht)
      (h.2 t ht) hu

/-- a view of the state that each step respects is respected by a run -/
theorem foldlM_view {τ : Type*} {step' : τ → α → Option τ} (view : σ → τ)
    (h : ∀ s x, (step s x).map view = step' (view s) x) (xs : List α) :
    ∀ s, (xs.foldlM step s).map view = xs.foldlM step' (view s) := by
  induction xs with
  | nil => exact fun _ => rfl
  | cons x xs ih =>
    intro s
    rw [List.foldlM_cons, List.foldlM_cons, ← h s x]
    cases step s x with
    | none => rfl
    | some t => exact ih t

/-- a condition along a run holds along its beginning -/
theorem along_left {Q : σ → α → Prop} (xs ys : List α) : ∀ s, Along step Q s (xs ++ ys) → Along step Q s xs := by
  induction xs with
  | nil => exact fun _ _ => trivial
  | cons x xs ih => exact fun s h => ⟨h.1, fun t ht => ih t (h.2 t ht)⟩

theorem along_of_forall {Q : σ → α → Prop} (h : ∀ s x, Q s x) (xs : List α) : ∀ s, Along step Q s xs := by
  induction xs with
  | nil => exact fun _ => trivial
  | cons x xs ih => exact fun s => ⟨h s x, fun t _ => ih t⟩

theorem Throughout.imp {P P' : σ → Prop} (himp : ∀ s, P s → P' s) (xs : List α) :
    ∀ s, Throughout step P s xs → Throughout step P' s xs := by
  induction xs with
  | nil => exact fun s h => himp s h
  | cons x xs ih =>
    intro s h
    obtain ⟨hs, t, ht, h⟩ := h
    exact ⟨himp s hs, t, ht, ih t h⟩

/-- conditions that agree under an invariant agree along a run -/
theorem along_congr {Inv : σ → Prop} {P Q : σ → α → Prop} {D : α → Prop}
    (hinv : ∀ s x t, D x → Inv s → step s x = some t → Inv t) (hstep : ∀ s x, D x → Inv s → (P s x ↔ Q s x))
    (xs : List α) (hxs : ∀ x ∈ xs, D x) : ∀ s, Inv s → (Along step P s xs ↔ Along step Q s xs) := by
  induction xs with
  | nil => exact fun s _ => Iff.rfl
  | cons x xs ih =>
    intro s hI
    have hx := hxs x List.mem_cons_self
    have ih := ih fun y hy => hxs y (List.mem_cons_of_mem x hy)
    exact and_congr (hstep s x hx hI) (forall₂_congr fun t ht => ih t (hinv s x t hx hI ht))

/-- a condition that keeps an invariant gives under it another condition -/
theorem Along.of_inv {Inv : σ → Prop} {P Q : σ → α → Prop}
    (hstep : ∀ s x, Inv s → P s x → Q s x ∧ ∀ t, step s x = some t → Inv t) (xs : List α) :
    ∀ s, Inv s → Along step P s xs → Along step Q s xs := by
  induction xs with
  | nil => exact fun _ _ _ => trivial
  | cons x xs ih =>
    intro s hs h
    obtain ⟨hx, hinv⟩ := hstep s x hs h.1
    exact ⟨hx, fun t ht => ih t (hinv t ht) (h.2 t ht)⟩

/-- **Leads that never fall.** `Inv n` is an invariant with room for `n` more steps; no step lowers a `lead`, and `Q`
says exactly when one succeeds and keeps every lead. Then a run succeeds and keeps every lead exactly when each of its
steps does. -/
theorem kept_iff_along {κ : Type*} (lead : κ → σ → ℤ) {Inv : ℕ → σ → Prop} {Q : σ → α → Prop} {D : α → Prop}
    (hinv : ∀ n s x t, D x → Inv (n + 1) s → step s x = some t → Inv n t ∧ ∀ k, lead k s ≤ lead k t)
    (hstep : ∀ n s x, D x → Inv (n + 1) s → ((∃ t, step s x = some t ∧ ∀ k, lead k t = lead k s) ↔ Q s x))
    (xs : List α) (hxs : ∀ x ∈ xs, D x) :
    ∀ s, Inv xs.length s →
      (∀ t, xs.foldlM step s = some t → Inv 0 t ∧ ∀ k, lead k s ≤ lead k t) ∧
      ((∃ t, xs.foldlM step s = some t ∧ ∀ k, lead k t = lead k s) ↔ Along step Q s xs) := by
  induction xs with
  | nil =>
    intro s hs
    refine ⟨fun t ht => ?_, fun _ => trivial, fun _ => ⟨s, rfl, fun _ => rfl⟩⟩
    cases ht
    exact ⟨hs, fun _ => le_rfl⟩
  | cons x xs ih =>
    intro s hs
    have hx := hxs x List.mem_cons_self
    have ih := ih fun y hy => hxs y (List.mem_cons_of_mem x hy)
    refine ⟨fun u hu => ?_, fun h => ?_, fun h => ?_⟩
    · rw [List.foldlM_cons] at hu
      obtain ⟨t, ht, hu⟩ := Option.bind_eq_some_iff.1 hu
      obtain ⟨hIt, hle⟩ := hinv _ s x t hx hs ht
      obtain ⟨hIu, hle'⟩ := (ih t hIt).1 u hu
      exact ⟨hIu, fun k => (hle k).trans (hle' k)⟩
    · obtain ⟨u, hu, hk⟩ := h
      rw [List.foldlM_cons] at hu
      obtain ⟨t, ht, hu⟩ := Option.bind_eq_some_iff.1 hu
      obtain ⟨hIt, hle⟩ := hinv _ s x t hx hs ht
      -- the lead is back where it was at the end, so it never rose on the way
      have hle' := ((ih t hIt).1 u hu).2
      have hkept : ∀ k, lead k t = lead k s := fun k => le_antisymm ((hle' k).trans_eq (hk k)) (hle k)
      refine ⟨(hstep _ s x hx hs).1 ⟨t, ht, hkept⟩, fun t' ht' => ?_⟩
      rw [ht, Option.some.injEq] at ht'
      subst ht'
      exact (ih t hIt).2.1 ⟨u, hu, fun k => (hk k).trans (hkept k).symm⟩
    · obtain ⟨t, ht, hkept⟩ := (hstep _ s x hx hs).2 h.1
      obtain ⟨hIt, -⟩ := hinv _ s x t hx hs ht
      obtain ⟨u, hu, hk⟩ := (ih t hIt).2.2 (h.2 t ht)
      refine ⟨u, ?_, fun k => (hk k).trans (hkept k)⟩
      rw [List.foldlM_cons]
      exact Option.bind_eq_some_iff.2 ⟨t, ht, hu⟩

end Tally
