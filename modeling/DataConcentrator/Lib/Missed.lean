/-
A count of the questions that a station has left without an answer, kept up to a limit.

The first question is waited for; each one after it that finds the station still waited for is missed. Several parties may
put their questions to one station in a round, each with its own limit.
- `rounds_alone`: one question a round, and others that never count;
- `le_rounds`: any other round counts one more;
- `timely_iff`: when the count reaches the limit in the round after as many rounds as the limit says.
-/
import Mathlib.Tactic

namespace Missed

/-- whether an answer is waited for, and how many questions were missed -/
structure Watch where
  waiting : Bool
  missed : ℕ
deriving DecidableEq

/-- after an answer -/
def idle : Watch := ⟨false, 0⟩

/-- a question, of a party with a limit -/
def ask (w : Watch) (limit : ℕ) : Watch :=
  if w.waiting then ⟨true, if w.missed < limit then w.missed + 1 else w.missed⟩ else ⟨true, w.missed⟩

/-- a round of questions -/
def round (limits : List ℕ) (w : Watch) : Watch := limits.foldl ask w

section Ask

variable {w : Watch} {limit : ℕ}

@[simp] theorem waiting_ask : (ask w limit).waiting = true := by
  rw [ask]
  split_ifs <;> rfl

theorem le_ask : w.missed ≤ (ask w limit).missed := by
  rw [ask]
  split_ifs
  · exact Nat.le_succ _
  · exact le_rfl
  · exact le_rfl

/-- a party whose limit is 0 counts nothing -/
theorem ask_zero (h : w.waiting = true) : ask w 0 = w := by
  obtain ⟨waiting, missed⟩ := w
  obtain rfl : waiting = true := h
  rfl

theorem ask_waiting (h : w.waiting = true) : min (w.missed + 1) limit ≤ (ask w limit).missed := by
  rw [ask, if_pos h]
  dsimp only
  split_ifs with hlt
  · exact Nat.min_le_left _ _
  · exact (Nat.min_le_right _ _).trans (Nat.not_lt.1 hlt)

end Ask

section Round

variable {w : Watch}

theorem round_append (xs ys : List ℕ) (w : Watch) : round (xs ++ ys) w = round ys (round xs w) := List.foldl_append

theorem round_cons (x : ℕ) (xs : List ℕ) (w : Watch) : round (x :: xs) w = round xs (ask w x) := rfl

theorem le_round (limits : List ℕ) : ∀ w : Watch, w.missed ≤ (round limits w).missed := by
  induction limits with
  | nil => exact fun w => le_rfl
  | cons x xs ih => exact fun w => le_ask.trans (ih (ask w x))

theorem waiting_round (limits : List ℕ) : ∀ w : Watch, w.waiting = true → (round limits w).waiting = true := by
  induction limits with
  | nil => exact fun w h => h
  | cons x xs ih => exact fun w _ => ih _ waiting_ask

theorem waiting_round_of_ne_nil {limits : List ℕ} (h : limits ≠ []) : (round limits w).waiting = true := by
  obtain ⟨x, xs, rfl⟩ := List.exists_cons_of_ne_nil h
  exact waiting_round xs _ waiting_ask

/-- limits of 0 add nothing to one that waits -/
theorem round_zeros {limits : List ℕ} (h : ∀ x ∈ limits, x = 0) (hw : w.waiting = true) : round limits w = w := by
  induction limits with
  | nil => rfl
  | cons x xs ih =>
    rw [round_cons, h x List.mem_cons_self, ask_zero hw]
    exact ih fun y hy => h y (List.mem_cons_of_mem x hy)

/-- a round with a positive limit counts for one that waits -/
theorem round_counts {limits : List ℕ} {limit : ℕ} (hmem : limit ∈ limits) (hw : w.waiting = true) :
    min (w.missed + 1) limit ≤ (round limits w).missed := by
  obtain ⟨pre, post, rfl⟩ := List.append_of_mem hmem
  have hpre := le_round pre w
  calc min (w.missed + 1) limit ≤ min ((round pre w).missed + 1) limit := min_le_min_right _ (Nat.succ_le_succ hpre)
    _ ≤ (ask (round pre w) limit).missed := ask_waiting (waiting_round pre w hw)
    _ ≤ (round (pre ++ limit :: post) w).missed := by
      rw [round_append, round_cons]
      exact le_round post _

end Round

/-! ## Rounds without an answer -/

section Rounds

variable {limit : ℕ} {pre post : List ℕ}

/-- **Alone.** The first round is waited for, and each further one is missed. -/
theorem rounds_alone (hpost : ∀ x ∈ post, x = 0) (n : ℕ) :
    (round (limit :: post))^[n] idle = ⟨decide (0 < n), min (n - 1) limit⟩ := by
  induction n with
  | zero => simp [idle]
  | succ n ih =>
    rw [Function.iterate_succ_apply', ih, round_cons, round_zeros hpost waiting_ask, ask]
    rcases Nat.eq_zero_or_pos n with rfl | hn
    · simp
    · rw [if_pos (decide_eq_true hn)]
      simp only [Nat.succ_pos, decide_true, Nat.add_sub_cancel, Watch.mk.injEq, true_and]
      split_ifs with hlt <;> omega

/-- **Not alone.** The first round counts as well. -/
theorem le_rounds (h : pre ≠ [] ∨ ∃ x ∈ post, x ≠ 0) (hlimit : 0 < limit) (n : ℕ) :
    min n limit ≤ ((round (pre ++ limit :: post))^[n] idle).missed := by
  have hne : pre ++ limit :: post ≠ [] := List.append_ne_nil_of_right_ne_nil _ (List.cons_ne_nil _ _)
  have hfirst : 1 ≤ (round (pre ++ limit :: post) idle).missed := by
    rw [round_append, round_cons]
    rcases h with hpre | ⟨x, hx, hpos⟩
    · refine le_trans ?_ (le_round post _)
      refine le_trans ?_ (ask_waiting (waiting_round_of_ne_nil hpre))
      exact le_min (Nat.le_add_left _ _) hlimit
    · refine le_trans ?_ (round_counts hx waiting_ask)
      exact le_min (Nat.le_add_left _ _) (Nat.pos_of_ne_zero hpos)
  induction n with
  | zero => exact (Nat.min_le_left _ _).trans (Nat.zero_le _)
  | succ n ih =>
    rw [Function.iterate_succ_apply']
    rcases Nat.eq_zero_or_pos n with rfl | hn
    · exact (Nat.min_le_left _ _).trans hfirst
    · obtain ⟨m, rfl⟩ := Nat.exists_eq_add_of_lt hn
      rw [Nat.zero_add] at ih ⊢
      have hwaits : ((round (pre ++ limit :: post))^[m + 1] idle).waiting = true := by
        rw [Function.iterate_succ_apply']
        exact waiting_round_of_ne_nil hne
      have hmem : limit ∈ pre ++ limit :: post := List.mem_append_right pre List.mem_cons_self
      have hcounts := round_counts hmem hwaits
      omega

/-- **In time.** The count is at its limit exactly after more rounds than the limit says, unless another question counts in
the same rounds. -/
theorem timely_iff : (∀ n, limit ≤ ((round (pre ++ limit :: post))^[n] idle).missed ↔ limit ≤ n - 1) ↔
    limit = 0 ∨ pre = [] ∧ ∀ x ∈ post, x = 0 := by
  constructor
  · intro h
    by_contra hcond
    obtain ⟨hlimit, hother⟩ := not_or.1 hcond
    have hcrowd : pre ≠ [] ∨ ∃ x ∈ post, x ≠ 0 := by
      by_contra hnone
      obtain ⟨hpre, hpost⟩ := not_or.1 hnone
      exact hother ⟨not_not.1 hpre, fun x hx => by_contra fun hne => hpost ⟨x, hx, hne⟩⟩
    have hearly := (h limit).1 ((min_self limit).symm.le.trans (le_rounds hcrowd (Nat.pos_of_ne_zero hlimit) limit))
    omega
  · rintro (rfl | ⟨rfl, hpost⟩) n
    · exact iff_of_true (Nat.zero_le _) (Nat.zero_le _)
    · rw [List.nil_append, rounds_alone hpost]
      dsimp only
      rw [le_min_iff, and_iff_left le_rfl]

end Rounds

end Missed
