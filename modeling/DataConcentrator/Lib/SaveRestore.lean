/-
A value that several users change, each saving it first and restoring what it saved.

- `Saved`: the value, and what is saved in each slot;
- `Nested`: the users at work, the last one first, each with the value of those before it in its slot;
- `nested_save`, `nested_restore`: a user that starts, and the last one that stops.
-/
import Mathlib.Data.List.Basic
import Mathlib.Logic.Function.Basic

namespace SaveRestore

/-- the value, and what is saved in each slot -/
structure Saved (σ V : Type*) where
  value : V
  slot : σ → V

variable {σ V K : Type*}

/-- a user starts: it saves the value in a slot and sets its own -/
def Saved.save [DecidableEq σ] (c : Saved σ V) (s : σ) (v : V) : Saved σ V := ⟨v, Function.update c.slot s c.value⟩

/-- a user stops: the value is again what the slot holds -/
def Saved.restore (c : Saved σ V) (s : σ) : Saved σ V := ⟨c.slot s, c.slot⟩

/-- the value is the one that the last user has set; the slots, no two of them the same, lead back to the original -/
def Nested (slot : K → σ) (sets : K → V) (original : V) (saved : σ → V) : V → List K → Prop
  | v, [] => v = original
  | v, k :: ks => v = sets k ∧ (∀ j ∈ ks, slot j ≠ slot k) ∧ Nested slot sets original saved (saved (slot k)) ks

variable {slot : K → σ} {sets : K → V} {original : V}

/-- slots of other users do not matter -/
theorem nested_congr {saved saved' : σ → V} {ks : List K} (h : ∀ k ∈ ks, saved' (slot k) = saved (slot k)) :
    ∀ v, Nested slot sets original saved v ks → Nested slot sets original saved' v ks := by
  induction ks with
  | nil => exact fun _ hv => hv
  | cons k ks ih =>
    intro v hn
    obtain ⟨hv, hslots, hn⟩ := hn
    refine ⟨hv, hslots, ?_⟩
    rw [h k List.mem_cons_self]
    exact ih (fun j hj => h j (List.mem_cons_of_mem k hj)) _ hn

theorem nested_save [DecidableEq σ] {c : Saved σ V} {k : K} {ks : List K} (hfree : ∀ j ∈ ks, slot j ≠ slot k)
    (h : Nested slot sets original c.slot c.value ks) :
    Nested slot sets original (c.save (slot k) (sets k)).slot (sets k) (k :: ks) := by
  refine ⟨rfl, hfree, ?_⟩
  have hslot : (c.save (slot k) (sets k)).slot (slot k) = c.value := Function.update_self _ _ _
  rw [hslot]
  exact nested_congr (fun j hj => Function.update_of_ne (hfree j hj) _ _) _ h

theorem nested_restore {c : Saved σ V} {k : K} {ks : List K}
    (h : Nested slot sets original c.slot c.value (k :: ks)) :
    Nested slot sets original (c.restore (slot k)).slot (c.restore (slot k)).value ks := h.2.2

end SaveRestore
