/-
Walks: a partial step taken again and again from a place, until it leads nowhere.

- `finishes_iff`: on a finite type a walk ends, with `P` at each of its places, exactly when `P` holds at all it reaches
  and it never comes back to one of them;
- `not_returns_of_lt`: a walk that only goes up never comes back.
-/
import Mathlib.Data.Fintype.EquivFin
import Mathlib.Logic.Relation
import Mathlib.Order.WellFounded

namespace Walk

variable {α : Type*} {next : α → Option α} {P : α → Prop}

/-- the place after this one -/
def Step (next : α → Option α) (a b : α) : Prop := next a = some b

def Reach (next : α → Option α) : α → α → Prop := Relation.ReflTransGen (Step next)

/-- the walk from a place comes back to it -/
def Returns (next : α → Option α) (a : α) : Prop := Relation.TransGen (Step next) a a

/-- the walk from a place ends, and `P` holds at each place of it -/
inductive Finishes (next : α → Option α) (P : α → Prop) : α → Prop where
  | mk {a : α} (here : P a) (there : ∀ b, next a = some b → Finishes next P b) : Finishes next P a

theorem reach_cases {a c : α} (h : Reach next a c) : c = a ∨ ∃ b, next a = some b ∧ Reach next b c := by
  rcases Relation.ReflTransGen.cases_head h with h | ⟨b, hb, h⟩
  · exact Or.inl h.symm
  · exact Or.inr ⟨b, hb, h⟩

theorem Reach.head {a b c : α} (hab : next a = some b) (h : Reach next b c) : Reach next a c :=
  Relation.ReflTransGen.head hab h

/-- a place the walk comes back to is also reached from the next place -/
theorem reach_of_returns {a : α} (h : Returns next a) : ∃ b, next a = some b ∧ Reach next b a :=
  Relation.TransGen.head'_iff.1 h

theorem Finishes.all {a : α} (h : Finishes next P a) : ∀ b, Reach next a b → P b ∧ ¬ Returns next b := by
  induction h with
  | @mk a here there ih =>
    intro b hb
    rcases reach_cases hb with rfl | ⟨c, hc, hb⟩
    · refine ⟨here, fun hreturns => ?_⟩
      obtain ⟨c, hc, hcb⟩ := reach_of_returns hreturns
      exact (ih c hc _ hcb).2 hreturns
    · exact ih c hc b hb

/-- **When a walk ends.** -/
theorem finishes_iff [Finite α] (a : α) :
    Finishes next P a ↔ ∀ b, Reach next a b → P b ∧ ¬ Returns next b := by
  refine ⟨Finishes.all, fun h => ?_⟩
  -- going on from a place that `a` reaches is transitive, and irreflexive as none of these comes back to itself
  let after : α → α → Prop := fun c b => Reach next a b ∧ Relation.TransGen (Step next) b c
  have htrans : IsTrans α after := ⟨fun _ _ _ hdc hcb => ⟨hcb.1, hcb.2.trans hdc.2⟩⟩
  have hirrefl : Std.Irrefl after := ⟨fun b hb => (h b hb.1).2 hb.2⟩
  have hwf : WellFounded after := Finite.wellFounded_of_trans_of_irrefl after
  have key : ∀ b, Reach next a b → Finishes next P b := by
    intro b
    induction b using hwf.induction with
    | _ b ih =>
      intro hb
      refine ⟨(h b hb).1, fun c hc => ?_⟩
      exact ih c ⟨hb, Relation.TransGen.single hc⟩ (hb.tail hc)
  exact key a Relation.ReflTransGen.refl

/-- places that only go up do not come back -/
theorem not_returns_of_lt {β : Type*} [Preorder β] (f : α → β) {a : α}
    (h : ∀ b c, Reach next a b → next b = some c → f b < f c) : ∀ b, Reach next a b → ¬ Returns next b := by
  intro b hb hreturns
  have key : ∀ c, Relation.TransGen (Step next) b c → f b < f c := by
    intro c hc
    induction hc with
    | single hc => exact h b _ hb hc
    | tail hbc hc ih => exact ih.trans (h _ _ (hb.trans hbc.to_reflTransGen) hc)
  exact lt_irrefl _ (key b hreturns)

end Walk
