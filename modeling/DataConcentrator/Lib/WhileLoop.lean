/-
Loops that run while their condition holds: a round is `none` once the loop is left.

- `run`: the loop with so much fuel, `none` where that is not enough;
- `run_mono`: fuel that is enough stays enough;
- `run_total`: a loop whose rounds keep an invariant and lower a measure ends, in a state with the invariant from which
  there is no round.
-/
import Mathlib.Tactic

namespace WhileLoop

variable {σ : Type*} {round : σ → Option σ}

/-- the loop, with at most `fuel` rounds; `none` where they are not enough -/
def run (round : σ → Option σ) : ℕ → σ → Option σ
  | 0, s => if (round s).isNone then some s else none
  | fuel + 1, s =>
    match round s with
    | none => some s
    | some t => run round fuel t

theorem run_done {s : σ} (h : round s = none) (fuel : ℕ) : run round fuel s = some s := by
  cases fuel <;> simp [run, h]

theorem run_round {s t : σ} (h : round s = some t) (fuel : ℕ) : run round (fuel + 1) s = run round fuel t := by
  rw [run, h]

theorem run_mono {fuel : ℕ} : ∀ {s t : σ}, run round fuel s = some t → ∀ {n}, fuel ≤ n → run round n s = some t := by
  induction fuel with
  | zero =>
    intro s t h n _
    rw [run] at h
    split_ifs at h with hs
    cases h
    exact run_done (Option.isNone_iff_eq_none.1 hs) n
  | succ fuel ih =>
    intro s t h n hn
    obtain ⟨n, rfl⟩ : ∃ k, n = k + 1 := ⟨n - 1, by omega⟩
    cases hs : round s with
    | none =>
      rw [run_done hs] at h ⊢
      exact h
    | some u =>
      rw [run_round hs] at h ⊢
      exact ih h (by omega)

/-- **Total correctness.** An invariant of the rounds, and a measure that they lower. -/
theorem run_total {Inv : σ → Prop} (μ : σ → ℕ) (hround : ∀ s t, Inv s → round s = some t → Inv t ∧ μ t < μ s)
    (fuel : ℕ) : ∀ s, Inv s → μ s ≤ fuel → ∃ t, run round fuel s = some t ∧ Inv t ∧ round t = none := by
  induction fuel with
  | zero =>
    intro s hs hμ
    cases h : round s with
    | none => exact ⟨s, run_done h 0, hs, h⟩
    | some t => exact absurd (hround s t hs h).2 (by omega)
  | succ fuel ih =>
    intro s hs hμ
    cases h : round s with
    | none => exact ⟨s, run_done h (fuel + 1), hs, h⟩
    | some t =>
      obtain ⟨ht, hlt⟩ := hround s t hs h
      obtain ⟨u, hu, hinv⟩ := ih t ht (by omega)
      exact ⟨u, (run_round h fuel).trans hu, hinv⟩

end WhileLoop
