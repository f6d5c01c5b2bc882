/-
A timer that is looked at again and again, and a counter of what was tried.

A look that finds the time over starts the timer anew: a lap. At each lap the counter is below its limit and something is
sent, or it starts at zero again and nothing is.
- `timer_snoc`, `laps_snoc`: one more look;
- `counter_succ`, `sends_succ`: one more lap;
- `sends_le_iff`: how many laps the limit holds for.
-/
import Mathlib.Tactic

namespace RetryTimer

/-! ## Laps -/

section Timer

variable {τ : Type*} (expired : τ → τ → Bool)

/-- where the timer was started last; a look compares with one reading of the clock and stores another -/
def timer (start : τ) (looks : List (τ × τ)) : τ :=
  looks.foldl (fun since look => if expired since look.1 then look.2 else since) start

/-- the looks that find the time over -/
def laps : τ → List (τ × τ) → ℕ
  | _, [] => 0
  | since, look :: looks => if expired since look.1 then laps look.2 looks + 1 else laps since looks

theorem timer_snoc (start : τ) (looks : List (τ × τ)) (look : τ × τ) : timer expired start (looks ++ [look]) =
    if expired (timer expired start looks) look.1 then look.2 else timer expired start looks := by
  rw [timer, List.foldl_append]
  rfl

theorem laps_snoc (looks : List (τ × τ)) (look : τ × τ) : ∀ start, laps expired start (looks ++ [look]) =
    laps expired start looks + if expired (timer expired start looks) look.1 then 1 else 0 := by
  induction looks with
  | nil =>
    intro start
    rw [List.nil_append, laps, laps, laps, laps]
    split_ifs <;> simp_all [timer]
  | cons first looks ih =>
    intro start
    have htimer : timer expired start (first :: looks) =
        timer expired (if expired start first.1 then first.2 else start) looks := rfl
    rw [List.cons_append, laps, laps, ih, ih, htimer]
    by_cases h : expired start first.1 = true
    · rw [if_pos h, if_pos h, if_pos h]
      exact Nat.add_right_comm _ _ _
    · rw [if_neg h, if_neg h, if_neg h]

end Timer

/-! ## Retries -/

/-- the counter, which was `k`, after so many laps -/
def counter (limit k laps : ℕ) : ℕ := (laps + k) % (limit + 1)

/-- what was sent in them -/
def sends (limit k laps : ℕ) : ℕ := laps - (laps + k) / (limit + 1)

variable {limit k : ℕ}

theorem counter_zero (hk : k ≤ limit) : counter limit k 0 = k := by
  rw [counter, Nat.zero_add, Nat.mod_eq_of_lt (by omega)]

theorem sends_zero : sends limit k 0 = 0 := Nat.zero_sub _

theorem silent_le (hk : k ≤ limit) (laps : ℕ) : (laps + k) / (limit + 1) ≤ laps := by
  have hmul : (laps + 1) * (limit + 1) = laps * limit + laps + limit + 1 := by ring
  have hpos := Nat.zero_le (laps * limit)
  have hlt : (laps + k) / (limit + 1) < laps + 1 := (Nat.div_lt_iff_lt_mul (by omega)).2 (by omega)
  omega

/-- the next number, by what is left of this one -/
theorem succ_divMod (a limit : ℕ) :
    (a + 1) / (limit + 1) = a / (limit + 1) + (if a % (limit + 1) < limit then 0 else 1) ∧
    (a + 1) % (limit + 1) = if a % (limit + 1) < limit then a % (limit + 1) + 1 else 0 := by
  have hlt := Nat.mod_lt a (show 0 < limit + 1 by omega)
  have hsplit : a + 1 = (limit + 1) * (a / (limit + 1)) + (a % (limit + 1) + 1) := by
    have := Nat.div_add_mod a (limit + 1)
    omega
  have hdiv : (a + 1) / (limit + 1) = a / (limit + 1) + (a % (limit + 1) + 1) / (limit + 1) :=
    calc (a + 1) / (limit + 1)
        = ((limit + 1) * (a / (limit + 1)) + (a % (limit + 1) + 1)) / (limit + 1) := by rw [← hsplit]
      _ = a / (limit + 1) + (a % (limit + 1) + 1) / (limit + 1) := Nat.mul_add_div (by omega) _ _
  have hmod : (a + 1) % (limit + 1) = (a % (limit + 1) + 1) % (limit + 1) :=
    calc (a + 1) % (limit + 1)
        = ((limit + 1) * (a / (limit + 1)) + (a % (limit + 1) + 1)) % (limit + 1) := by rw [← hsplit]
      _ = (a % (limit + 1) + 1) % (limit + 1) := Nat.mul_add_mod _ _ _
  rw [hdiv, hmod]
  split_ifs with h
  · have hsmall : a % (limit + 1) + 1 < limit + 1 := by omega
    rw [Nat.div_eq_of_lt hsmall, Nat.mod_eq_of_lt hsmall]
    exact ⟨rfl, rfl⟩
  · have hfull : a % (limit + 1) + 1 = limit + 1 := by omega
    rw [hfull, Nat.div_self (by omega), Nat.mod_self]
    exact ⟨rfl, rfl⟩

theorem counter_succ (laps : ℕ) : counter limit k (laps + 1) =
    if counter limit k laps < limit then counter limit k laps + 1 else 0 := by
  rw [counter, Nat.add_right_comm, (succ_divMod (laps + k) limit).2]
  rfl

theorem sends_succ (hk : k ≤ limit) (laps : ℕ) : sends limit k (laps + 1) =
    if counter limit k laps < limit then sends limit k laps + 1 else sends limit k laps := by
  have hle := silent_le hk laps
  rw [sends, Nat.add_right_comm, (succ_divMod (laps + k) limit).1]
  unfold sends counter
  split_ifs <;> omega

theorem sends_mono (hk : k ≤ limit) : Monotone (sends limit k) := by
  refine monotone_nat_of_le_succ fun laps => ?_
  rw [sends_succ hk]
  split_ifs <;> omega

/-- **Up to the limit.** The first silent lap is followed by others that send. -/
theorem sends_le_iff (hk : k ≤ limit) (laps : ℕ) : sends limit k laps ≤ limit ↔
    limit = 0 ∨ laps ≤ limit + 1 ∨ k = limit ∧ laps ≤ limit + 2 := by
  constructor
  · intro hle
    by_contra! h
    obtain ⟨hpos, hmore, hfull⟩ := h
    by_cases hk' : k = limit
    · have hmany := hfull hk'
      have hquot : (limit + 3 + k) / (limit + 1) = 2 :=
        Nat.div_eq_of_lt_le (by omega) (by omega)
      have hsends := sends_mono hk (show limit + 3 ≤ laps by omega)
      unfold sends at hsends hle
      omega
    · have hquot : (limit + 2 + k) / (limit + 1) = 1 :=
        Nat.div_eq_of_lt_le (by omega) (by omega)
      have hsends := sends_mono hk (show limit + 2 ≤ laps by omega)
      unfold sends at hsends hle
      omega
  · rintro (hzero | hle | ⟨hk', hle⟩)
    · subst hzero
      rw [sends, Nat.zero_add, Nat.div_one]
      omega
    · have hquot : 1 ≤ (limit + 1 + k) / (limit + 1) := (Nat.one_le_div_iff (by omega)).2 (by omega)
      calc sends limit k laps
          ≤ sends limit k (limit + 1) := sends_mono hk hle
        _ = limit + 1 - (limit + 1 + k) / (limit + 1) := rfl
        _ ≤ limit := by omega
    · have hquot : 2 ≤ (limit + 2 + k) / (limit + 1) := (Nat.le_div_iff_mul_le (by omega)).2 (by omega)
      calc sends limit k laps
          ≤ sends limit k (limit + 2) := sends_mono hk hle
        _ = limit + 2 - (limit + 2 + k) / (limit + 1) := rfl
        _ ≤ limit := by omega

end RetryTimer
