/-
A book with a page for each day. A full page starts anew with the next line, and pages too far back are torn out.

- `held`: what a page holds, `held_eq`: the lines from the last start on;
- `Live`: the pages that are there, `live_append_iff`: after one more line, if days do not go back.
-/
import Mathlib.Tactic

namespace DayBook

variable {K X : Type*}

/-! ## A page -/

/-- one more line on a page of at most `n` -/
def turn (n : ℕ) (page : List X) (x : X) : List X := if page.length = n then [x] else page ++ [x]

def held (n : ℕ) (xs : List X) : List X := xs.foldl (turn n) []

theorem held_concat (n : ℕ) (xs : List X) (x : X) : held n (xs ++ [x]) = turn n (held n xs) x := by
  rw [held, List.foldl_append]
  rfl

/-- **A page** holds the lines from its last start on. -/
theorem held_eq {n : ℕ} (hn : 0 < n) (xs : List X) : held n xs = xs.drop ((xs.length - 1) / n * n) := by
  induction xs using List.reverseRecOn with
  | nil =>
    rw [List.drop_nil]
    rfl
  | append_singleton xs x ih =>
    have hle : (xs.length - 1) / n * n ≤ xs.length := (Nat.div_mul_le_self _ _).trans (Nat.sub_le _ _)
    have hlen : (xs ++ [x]).length - 1 = xs.length := by rw [List.length_append]; rfl
    rw [held_concat, ih, turn, List.length_drop, hlen]
    split_ifs with hfull
    · -- the lines before make full pages
      have hsucc : xs.length = ((xs.length - 1) / n + 1) * n := by
        rw [Nat.add_mul, Nat.one_mul]
        omega
      have hpages : xs.length / n * n = xs.length := Nat.div_mul_cancel ⟨_, hsucc.trans (Nat.mul_comm _ _)⟩
      rw [hpages, List.drop_left]
    · have hsame : xs.length / n = (xs.length - 1) / n := by
        rcases Nat.eq_zero_or_pos xs.length with hzero | hpos
        · rw [hzero]
        · by_contra hne
          obtain ⟨m, hm⟩ : ∃ m, xs.length = m + 1 := ⟨xs.length - 1, by omega⟩
          rw [hm, Nat.add_sub_cancel, Nat.succ_div] at hne
          split_ifs at hne with hdvd
          · apply hfull
            obtain ⟨q, hq⟩ := hdvd
            have hdiv : m / n = q - 1 := by
              rw [Nat.div_eq_iff hn]
              cases q with
              | zero => omega
              | succ q =>
                rw [Nat.mul_succ] at hq
                rw [Nat.add_sub_cancel, Nat.mul_comm]
                omega
            rw [hm, Nat.add_sub_cancel, hdiv]
            cases q with
            | zero => omega
            | succ q =>
              rw [Nat.mul_succ] at hq
              rw [Nat.add_sub_cancel, Nat.mul_comm q n]
              omega
          · exact hne rfl
      rw [hsame, List.drop_append_of_le_length hle]

theorem length_held_le {n : ℕ} (hn : 0 < n) (xs : List X) : (held n xs).length ≤ n := by
  induction xs using List.reverseRecOn with
  | nil => exact Nat.zero_le n
  | append_singleton xs x ih =>
    rw [held_concat, turn]
    split_ifs with hfull
    · exact hn
    · rw [List.length_append, List.length_singleton]
      omega

theorem held_ne_nil (n : ℕ) {xs : List X} (h : xs ≠ []) : held n xs ≠ [] := by
  induction xs using List.reverseRecOn with
  | nil => exact absurd rfl h
  | append_singleton xs x _ =>
    rw [held_concat, turn]
    split_ifs
    · exact List.cons_ne_nil _ _
    · exact List.append_ne_nil_of_right_ne_nil _ (List.cons_ne_nil _ _)

/-! ## The pages that are there -/

variable (gone : K → K → Prop)

/-- a page of a day that is not too far back on the last day -/
def Live (days : List K) (d : K) : Prop := d ∈ days ∧ ∀ last ∈ days.getLast?, ¬ gone last d

theorem live_append_iff {days : List K} {t d : K} (hback : ∀ last ∈ days.getLast?, gone last d → gone t d)
    (hself : ¬ gone t t) :
    Live gone (days ++ [t]) d ↔ d = t ∨ Live gone days d ∧ ¬ gone t d := by
  rw [Live, List.getLast?_concat, List.mem_append, List.mem_singleton]
  simp only [Option.mem_some_iff, forall_eq']
  constructor
  · rintro ⟨hd | rfl, hgone⟩
    · exact Or.inr ⟨⟨hd, fun last hlast h => hgone (hback last hlast h)⟩, hgone⟩
    · exact Or.inl rfl
  · rintro (rfl | ⟨hlive, hgone⟩)
    · exact ⟨Or.inr rfl, hself⟩
    · exact ⟨Or.inl hlive.1, hgone⟩

end DayBook
