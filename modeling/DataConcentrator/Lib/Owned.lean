/-
Records whose fields have owners: a message with a key stores values to fields, and every field is named by one key.

- `assign_apply`: a field holds the last value stored to it, or its old one;
- `run_named`, `run_absent`: a field that only messages with its own key store to holds what the one message with that
  key stored, or its old value where there is none;
- `OwnValues.unique`: what a set of messages asks for does not depend on their order;
- `run_ownValues_iff`: when messages that keep to their own fields leave what is asked for.
-/
import Mathlib.Tactic

namespace Owned

variable {κ M F V : Type*} [DecidableEq F]

/-! ## Stores -/

/-- stores in their order -/
def assign (c : F → V) (stores : List (F × V)) : F → V :=
  stores.foldl (fun c s => Function.update c s.1 s.2) c

/-- the last value stored to a field -/
def last : List (F × V) → F → Option V
  | [], _ => none
  | s :: stores, f => (last stores f).or (if s.1 = f then some s.2 else none)

theorem assign_apply (stores : List (F × V)) : ∀ (c : F → V) (f : F),
    assign c stores f = (last stores f).getD (c f) := by
  induction stores with
  | nil => intro c f; rfl
  | cons s stores ih =>
    intro c f
    have hstep : assign c (s :: stores) f = assign (Function.update c s.1 s.2) stores f := rfl
    rw [hstep, ih, last]
    cases last stores f with
    | some v => rfl
    | none =>
      by_cases hs : s.1 = f
      · subst hs
        simp
      · simp [hs, Function.update_of_ne (Ne.symm hs)]

/-- a field that is not stored to -/
theorem last_of_ne {stores : List (F × V)} {f : F} (h : ∀ s ∈ stores, s.1 ≠ f) : last stores f = none := by
  induction stores with
  | nil => rfl
  | cons s stores ih =>
    rw [last, ih fun t ht => h t (List.mem_cons_of_mem s ht), if_neg (h s List.mem_cons_self)]
    rfl

/-- two runs of stores to the same distinct fields, with the same value in each, are one -/
theorem eq_of_last {a : List (F × V)} : ∀ {b : List (F × V)}, a.map Prod.fst = b.map Prod.fst →
    (a.map Prod.fst).Nodup → (c : F → V) →
    (∀ f ∈ a.map Prod.fst, (last a f).getD (c f) = (last b f).getD (c f)) → a = b := by
  induction a with
  | nil =>
    intro b hfields _ _ _
    exact (List.map_eq_nil_iff.1 hfields.symm).symm
  | cons s a ih =>
    intro b hfields hnodup c hval
    cases b with
    | nil => simp at hfields
    | cons t b =>
      rw [List.map_cons, List.map_cons, List.cons.injEq] at hfields
      rw [List.map_cons, List.nodup_cons] at hnodup
      have hfresh : ∀ {d : List (F × V)}, d.map Prod.fst = a.map Prod.fst → last d s.1 = none := fun hd =>
        last_of_ne fun u hu hus => hnodup.1 (by rw [← hus, ← hd]; exact List.mem_map_of_mem hu)
      have hhead := hval s.1 (by simp)
      rw [last, last, hfresh rfl, hfresh hfields.2.symm, if_pos rfl, if_pos hfields.1.symm] at hhead
      have hst : s = t := Prod.ext hfields.1 hhead
      rw [hst, ih hfields.2 hnodup.2 c fun f hf => ?_]
      have hne : s.1 ≠ f := fun hsf => hnodup.1 (by rw [hsf]; exact hf)
      have hboth := hval f (by rw [List.map_cons]; exact List.mem_cons_of_mem _ hf)
      rw [last, last, ← hst, if_neg hne, Option.or_none, Option.or_none] at hboth
      exact hboth

/-- a field that is stored to has a last value -/
theorem last_of_mem {a : List (F × V)} {f : F} (h : f ∈ a.map Prod.fst) : ∃ v, last a f = some v := by
  induction a with
  | nil => simp at h
  | cons s a ih =>
    rw [last]
    cases hlast : last a f with
    | some v => exact ⟨v, rfl⟩
    | none =>
      rcases List.mem_cons.1 h with rfl | hmem
      · exact ⟨s.2, by simp⟩
      · obtain ⟨v, hv⟩ := ih hmem
        rw [hlast] at hv
        cases hv

@[simp] theorem last_singleton (f : F) (v : V) : last [(f, v)] f = some v := by simp [last]

/-! ## Messages -/

variable (stores : M → Option (List (F × V)))

/-- the messages in their order; `none` when one of them cannot be read -/
def run (ms : List M) (c : F → V) : Option (F → V) := ms.foldlM (fun c m => (stores m).map (assign c)) c

theorem run_cons (m : M) (ms : List M) (c : F → V) :
    run stores (m :: ms) c = (stores m).bind fun a => run stores ms (assign c a) := by
  unfold run
  rw [List.foldlM_cons]
  cases stores m <;> rfl

theorem run_append (ms ns : List M) (c : F → V) :
    run stores (ms ++ ns) c = (run stores ms c).bind fun d => run stores ns d := by
  unfold run
  rw [List.foldlM_append]
  rfl

/-- a run ends when every message can be read -/
theorem run_isSome_iff (ms : List M) : ∀ c : F → V,
    (∃ c', run stores ms c = some c') ↔ ∀ m ∈ ms, ∃ a, stores m = some a := by
  induction ms with
  | nil => intro c; simp [run]
  | cons m ms ih =>
    intro c
    rw [run_cons, List.forall_mem_cons]
    cases h : stores m with
    | none => simp
    | some a => simpa using ih (assign c a)

variable {stores} {ms : List M} {f : F} {k : κ}

/-- a field that no message stores to keeps its value -/
theorem run_untouched (hne : ∀ m ∈ ms, ∀ a, stores m = some a → ∀ s ∈ a, s.1 ≠ f) {c c' : F → V}
    (h : run stores ms c = some c') : c' f = c f := by
  induction ms generalizing c with
  | nil => cases h; rfl
  | cons m ms ih =>
    rw [run_cons] at h
    obtain ⟨a, ha, hrest⟩ := Option.bind_eq_some_iff.1 h
    rw [List.forall_mem_cons] at hne
    rw [ih hne.2 hrest, assign_apply, last_of_ne (hne.1 a ha)]
    rfl

variable (key : M → κ)

/-- the field is left alone by messages with other keys -/
theorem run_absent (hown : ∀ m ∈ ms, ∀ a, stores m = some a → ∀ s ∈ a, s.1 = f → key m = k)
    (hk : ∀ m ∈ ms, key m ≠ k) {c c' : F → V} (h : run stores ms c = some c') : c' f = c f :=
  run_untouched (fun m hm a ha s hs hf => hk m hm (hown m hm a ha s hs hf)) h

/-- the field holds what the message with its key stored -/
theorem run_named (hown : ∀ m ∈ ms, ∀ a, stores m = some a → ∀ s ∈ a, s.1 = f → key m = k)
    (hnodup : (ms.map key).Nodup) {m : M} (hm : m ∈ ms) (hk : key m = k) {c c' : F → V}
    (h : run stores ms c = some c') : ∃ a, stores m = some a ∧ c' f = (last a f).getD (c f) := by
  induction ms generalizing c with
  | nil => simp at hm
  | cons n ms ih =>
    rw [run_cons] at h
    obtain ⟨a, ha, hrest⟩ := Option.bind_eq_some_iff.1 h
    rw [List.forall_mem_cons] at hown
    rw [List.map_cons, List.nodup_cons, List.mem_map] at hnodup
    rcases List.mem_cons.1 hm with rfl | hm
    · -- the messages after it have other keys
      refine ⟨a, ha, ?_⟩
      rw [run_absent key hown.2 (fun p hp hpk => hnodup.1 ⟨p, hp, hpk.trans hk.symm⟩) hrest, assign_apply]
    · obtain ⟨b, hb, hval⟩ := ih hown.2 hnodup.2 hm hrest
      refine ⟨b, hb, ?_⟩
      have hne : key n ≠ k := fun hnk => hnodup.1 ⟨m, hm, hk.trans hnk.symm⟩
      rw [hval, assign_apply, last_of_ne fun s hs hf => hne (hown.1 a ha s hs hf)]
      rfl

/-! ## What is asked for -/

variable (owner : F → κ) (carried : M → Option (List (F × V)))

/-- every message can be read, its fields hold what it carries for them, and the other fields their old values -/
structure OwnValues (ms : List M) (c c' : F → V) : Prop where
  named : ∀ m ∈ ms, ∃ b, carried m = some b ∧ ∀ f, owner f = key m → c' f = (last b f).getD (c f)
  absent : ∀ f, (∀ m ∈ ms, key m ≠ owner f) → c' f = c f

/-- it is the same in every order of the messages -/
theorem OwnValues.unique {ms ns : List M} {c c₁ c₂ : F → V} (h₁ : OwnValues key owner carried ms c c₁)
    (h₂ : OwnValues key owner carried ns c c₂) (hp : ms.Perm ns) : c₁ = c₂ := by
  funext f
  by_cases hf : ∃ m ∈ ms, key m = owner f
  · obtain ⟨m, hm, hk⟩ := hf
    obtain ⟨a, ha, hval⟩ := h₁.named m hm
    obtain ⟨b, hb, hval'⟩ := h₂.named m (hp.subset hm)
    rw [ha, Option.some.injEq] at hb
    rw [hval f hk.symm, hval' f hk.symm, hb]
  · have hother : ∀ m ∈ ms, key m ≠ owner f := fun m hm hk => hf ⟨m, hm, hk⟩
    rw [h₁.absent f hother, h₂.absent f fun m hm => hother m (hp.symm.subset hm)]

/-- **Messages that keep to their own fields** leave what is asked for exactly when each stores what it carries. -/
theorem run_ownValues_iff (hown : ∀ m ∈ ms, ∀ a, stores m = some a → ∀ s ∈ a, owner s.1 = key m)
    (hnodup : (ms.map key).Nodup) (c : F → V) :
    (∃ c', run stores ms c = some c' ∧ OwnValues key owner carried ms c c') ↔
      ∀ m ∈ ms, ∃ a b, stores m = some a ∧ carried m = some b ∧
        ∀ f, owner f = key m → (last a f).getD (c f) = (last b f).getD (c f) := by
  have hfield : ∀ f, ∀ m ∈ ms, ∀ a, stores m = some a → ∀ s ∈ a, s.1 = f → key m = owner f := by
    intro f m hm a ha s hs hf
    rw [← hf, hown m hm a ha s hs]
  constructor
  · rintro ⟨c', hrun, hval⟩ m hm
    obtain ⟨a, ha⟩ := (run_isSome_iff stores ms c).1 ⟨c', hrun⟩ m hm
    obtain ⟨b, hb, hnamed⟩ := hval.named m hm
    refine ⟨a, b, ha, hb, fun f hf => ?_⟩
    obtain ⟨a', ha', hstored⟩ := run_named key (hfield f) hnodup hm hf.symm hrun
    rw [ha, Option.some.injEq] at ha'
    rw [ha', ← hstored]
    exact hnamed f hf
  · intro h
    obtain ⟨c', hrun⟩ := (run_isSome_iff stores ms c).2 fun m hm => by
      obtain ⟨a, _, ha, _⟩ := h m hm
      exact ⟨a, ha⟩
    refine ⟨c', hrun, fun m hm => ?_, fun f hf => run_absent key (hfield f) hf hrun⟩
    obtain ⟨a, b, ha, hb, hsame⟩ := h m hm
    refine ⟨b, hb, fun f hf => ?_⟩
    obtain ⟨a', ha', hstored⟩ := run_named key (hfield f) hnodup hm hf.symm hrun
    rw [ha, Option.some.injEq] at ha'
    rw [hstored, ← ha']
    exact hsame f hf

end Owned
