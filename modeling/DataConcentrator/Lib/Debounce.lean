/-
Debounced alarms: an alarm that changes when as many polls in a row as its threshold ask for it.

A counter counts the polls in a row that speak against the alarm as it is, and starts anew after a change at a value of
its own. What is written about an alarm are the values it had before each poll and has after the last one.
- `law_of_restart_zero`: a counter that starts anew at 0 obeys the law: the alarm changes exactly at the last of `n`
  polls in a row against it;
- `law_iff`: one that starts anew at `-n` obeys it exactly when no change is followed at once by `n` polls against it;
- `both_laws_iff`: for raising and clearing together, the changes may be those of the law;
- `change_confirmed`: in either case a change has `n` polls behind it;
- `law_replicate_iff`: an alarm that never changes;
- `watch_eq`: a program whose steps do to a view of its state what the counter does.
-/
import Mathlib.Tactic

namespace Debounce

/-! ## Counters -/

/-- what a poll finds: whether it asks for the alarm, and whether for its end -/
structure Poll where
  raises : Bool
  clears : Bool
deriving DecidableEq, Repr

/-- the poll speaks against the alarm as it is -/
def Poll.opposes (p : Poll) (active : Bool) : Bool := if active then p.clears else p.raises

structure Counter where
  progress : ℤ
  active : Bool
deriving DecidableEq, Repr

/-- a poll; after a change the count starts anew at `e` -/
def Counter.tick (n : ℕ) (e : ℤ) (c : Counter) (p : Poll) : Counter :=
  if p.opposes c.active then if c.progress + 1 = n then ⟨e, !c.active⟩ else ⟨c.progress + 1, c.active⟩
  else ⟨0, c.active⟩

/-- no alarm, and nothing counted -/
def quiet : Counter := ⟨0, false⟩

/-- the alarm before each poll and after the last -/
def alarms (n : ℕ) (e : ℤ) : Counter → List Poll → List Bool
  | c, [] => [c.active]
  | c, p :: ps => c.active :: alarms n e (c.tick n e p) ps

/-! ## The law -/

/-- poll `j` speaks against an alarm -/
def Against (ps : List Poll) (b : Bool) (j : ℕ) : Prop := ∃ p ∈ ps[j]?, p.opposes b = true

/-- the last `n` polls up to poll `k` speak against the alarm, which was the same before each of them -/
def Confirmed (n : ℕ) (alarms : List Bool) (ps : List Poll) (b : Bool) (k : ℕ) : Prop :=
  n ≤ k + 1 ∧ ∀ j, k < j + n → j ≤ k → alarms[j]? = some b ∧ Against ps b j

/-- the alarm is left at poll `k` exactly if it is confirmed there -/
def LawAt (n : ℕ) (alarms : List Bool) (ps : List Poll) (b : Bool) (k : ℕ) : Prop :=
  alarms[k]? = some b → (alarms[k + 1]? = some (!b) ↔ Confirmed n alarms ps b k)

def Law (n : ℕ) (alarms : List Bool) (ps : List Poll) (b : Bool) : Prop := ∀ k < ps.length, LawAt n alarms ps b k

/-- the alarm changes to `b` at poll `k`, and the next `n` polls speak against it -/
def Relapse (n : ℕ) (alarms : List Bool) (ps : List Poll) (b : Bool) (k : ℕ) : Prop :=
  alarms[k]? = some (!b) ∧ alarms[k + 1]? = some b ∧ ∀ j, k < j → j ≤ k + n → Against ps b j

/-- the last `n` polls up to poll `k` speak against an alarm -/
def Streak (n : ℕ) (ps : List Poll) (b : Bool) (k : ℕ) : Prop := n ≤ k + 1 ∧ ∀ j, k < j + n → j ≤ k → Against ps b j

/-- what a law says about poll `k` is about the alarm up to there -/
theorem confirmed_congr {n : ℕ} {xs ys : List Bool} {ps : List Poll} {b : Bool} {k : ℕ} (h : ∀ j ≤ k, xs[j]? = ys[j]?) :
    Confirmed n xs ps b k ↔ Confirmed n ys ps b k :=
  and_congr_right fun _ => forall_congr' fun j => forall_congr' fun _ => forall_congr' fun hj => by rw [h j hj]

theorem relapse_congr {n : ℕ} {xs ys : List Bool} {ps : List Poll} {b : Bool} {k : ℕ} (h : ∀ j ≤ k + 1, xs[j]? = ys[j]?) :
    Relapse n xs ps b k ↔ Relapse n ys ps b k := by
  rw [Relapse, Relapse, h k (Nat.le_succ k), h (k + 1) le_rfl]

/-! ## The counter before a poll -/

variable {n : ℕ} {e : ℤ} {ps : List Poll}

def counterAt (n : ℕ) (e : ℤ) (ps : List Poll) (k : ℕ) : Counter := (ps.take k).foldl (Counter.tick n e) quiet

theorem counterAt_zero : counterAt n e ps 0 = quiet := rfl

theorem counterAt_succ {k : ℕ} (hk : k < ps.length) : counterAt n e ps (k + 1) = (counterAt n e ps k).tick n e ps[k] := by
  rw [counterAt, List.take_succ_eq_append_getElem hk, List.foldl_append]
  rfl

theorem length_alarms : ∀ (ps : List Poll) (c : Counter), (alarms n e c ps).length = ps.length + 1
  | [], _ => rfl
  | p :: ps, c => by rw [alarms, List.length_cons, length_alarms ps, List.length_cons]

theorem getElem?_alarms (ps : List Poll) : ∀ (c : Counter) {k : ℕ}, k ≤ ps.length →
    (alarms n e c ps)[k]? = some ((ps.take k).foldl (Counter.tick n e) c).active := by
  induction ps with
  | nil =>
    intro c k hk
    rw [Nat.le_zero.1 hk]
    rfl
  | cons p ps ih =>
    intro c k hk
    cases k with
    | zero => rfl
    | succ k =>
      rw [alarms, List.getElem?_cons_succ, ih _ (Nat.le_of_succ_le_succ hk)]
      rfl

/-- the alarm before poll `k` -/
theorem alarm_eq {k : ℕ} (hk : k ≤ ps.length) : (alarms n e quiet ps)[k]? = some (counterAt n e ps k).active :=
  getElem?_alarms ps quiet hk

/-- at first there is no alarm -/
theorem alarm_zero : (alarms n e quiet ps)[0]? = some false := alarm_eq (Nat.zero_le _)

theorem alarm_iff {k : ℕ} (hk : k ≤ ps.length) (b : Bool) :
    (alarms n e quiet ps)[k]? = some b ↔ (counterAt n e ps k).active = b := by
  rw [alarm_eq hk, Option.some.injEq]

theorem against_iff {k : ℕ} (hk : k < ps.length) (b : Bool) : Against ps b k ↔ ps[k].opposes b = true := by
  rw [Against, List.getElem?_eq_getElem hk]
  exact ⟨fun ⟨p, hp, h⟩ => by rw [Option.mem_some.1 hp]; exact h, fun h => ⟨_, rfl, h⟩⟩

/-! ## Runs against the alarm -/

/-- before poll `k` the last `r` polls spoke against the alarm, and no more; they are counted from 0, or, if they follow a
change, from `e` -/
structure Run (n : ℕ) (e : ℤ) (ps : List Poll) (k r : ℕ) : Prop where
  le : r ≤ k
  same : ∀ j, k ≤ j + r → j ≤ k → (counterAt n e ps j).active = (counterAt n e ps k).active
  against : ∀ j, k ≤ j + r → j < k → Against ps (counterAt n e ps k).active j
  maximal : ∀ j, j + r + 1 = k →
    (counterAt n e ps j).active ≠ (counterAt n e ps k).active ∨ ¬ Against ps (counterAt n e ps k).active j
  count : (counterAt n e ps k).progress = r ∨ (counterAt n e ps k).progress = e + r ∧
    ∃ j, j + r + 1 = k ∧ (counterAt n e ps j).active ≠ (counterAt n e ps k).active
  below : (counterAt n e ps k).progress < n

theorem run_zero (hn : 1 ≤ n) : Run n e ps 0 0 where
  le := le_rfl
  same j _ hj := by rw [Nat.le_zero.1 hj]
  against j _ hj := absurd hj (Nat.not_lt_zero j)
  maximal j hj := absurd hj (Nat.succ_ne_zero _)
  count := Or.inl rfl
  below := by rw [counterAt_zero]; exact Int.natCast_pos.2 hn

/-- what a poll does to the counter -/
theorem counterAt_cases {k : ℕ} (hk : k < ps.length) :
    ¬ Against ps (counterAt n e ps k).active k ∧ counterAt n e ps (k + 1) = ⟨0, (counterAt n e ps k).active⟩ ∨
    Against ps (counterAt n e ps k).active k ∧ (counterAt n e ps k).progress + 1 ≠ n ∧
      counterAt n e ps (k + 1) = ⟨(counterAt n e ps k).progress + 1, (counterAt n e ps k).active⟩ ∨
    Against ps (counterAt n e ps k).active k ∧ (counterAt n e ps k).progress + 1 = n ∧
      counterAt n e ps (k + 1) = ⟨e, !(counterAt n e ps k).active⟩ := by
  rw [counterAt_succ hk, Counter.tick, against_iff hk]
  split_ifs with hop hn
  · exact Or.inr (Or.inr ⟨hop, hn, rfl⟩)
  · exact Or.inr (Or.inl ⟨hop, hn, rfl⟩)
  · exact Or.inl ⟨hop, rfl⟩

/-- the alarm changes exactly when the count is full -/
theorem change_iff {k : ℕ} (hk : k < ps.length) :
    (counterAt n e ps (k + 1)).active = !(counterAt n e ps k).active ↔
      Against ps (counterAt n e ps k).active k ∧ (counterAt n e ps k).progress + 1 = n := by
  rcases counterAt_cases (n := n) (e := e) hk with ⟨h, heq⟩ | ⟨h, hne, heq⟩ | ⟨h, hn, heq⟩
  · rw [heq]
    exact ⟨fun hb => absurd hb (Bool.self_ne_not _), fun hb => absurd hb.1 h⟩
  · rw [heq]
    exact ⟨fun hb => absurd hb (Bool.self_ne_not _), fun hb => absurd hb.2 hne⟩
  · rw [heq]
    exact ⟨fun _ => ⟨h, hn⟩, fun _ => rfl⟩

/-- **One poll**: the run grows by it, ends, or fills the count and leaves none -/
theorem Run.next {k r : ℕ} (h : Run n e ps k r) (hk : k < ps.length) (hn : 1 ≤ n) (he : e < n) :
    ∃ r', Run n e ps (k + 1) r' := by
  rcases counterAt_cases (n := n) (e := e) hk with ⟨hop, heq⟩ | ⟨hop, hne, heq⟩ | ⟨hop, hfull, heq⟩
  · -- a poll that does not speak against the alarm
    refine ⟨0, ⟨Nat.zero_le _, ?_, ?_, ?_, ?_, ?_⟩⟩
    · intro j h1 h2
      rw [Nat.le_antisymm h2 h1]
    · intro j h1 h2
      exact absurd h2 (Nat.not_lt.2 h1)
    · intro j hj
      rw [Nat.succ.inj hj, heq]
      exact Or.inr hop
    · exact Or.inl (by rw [heq]; rfl)
    · rw [heq]
      exact Int.natCast_pos.2 hn
  · -- one more poll against it
    have hactive : (counterAt n e ps (k + 1)).active = (counterAt n e ps k).active := by rw [heq]
    refine ⟨r + 1, ⟨Nat.succ_le_succ h.le, ?_, ?_, ?_, ?_, ?_⟩⟩
    · intro j h1 h2
      rcases Nat.lt_or_ge k j with hj | hj
      · rw [Nat.le_antisymm h2 hj]
      · rw [hactive]
        exact h.same j (by omega) hj
    · intro j h1 h2
      rw [hactive]
      rcases Nat.lt_or_ge j k with hj | hj
      · exact h.against j (by omega) hj
      · rw [Nat.le_antisymm (Nat.le_of_lt_succ h2) hj]
        exact hop
    · intro j hj
      rw [hactive]
      exact h.maximal j (by omega)
    · rw [hactive]
      rcases h.count with hcount | ⟨hcount, j, hj, hchange⟩
      · exact Or.inl (by rw [heq, hcount]; push_cast; rfl)
      · exact Or.inr ⟨by rw [heq, hcount]; push_cast; ring, j, by omega, hchange⟩
    · have hbelow := h.below
      rw [heq]
      simp only
      omega
  · -- the alarm changes
    have hchange : (counterAt n e ps k).active ≠ (counterAt n e ps (k + 1)).active := by
      rw [heq]
      exact Bool.self_ne_not _
    refine ⟨0, ⟨Nat.zero_le _, ?_, ?_, ?_, ?_, ?_⟩⟩
    · intro j h1 h2
      rw [Nat.le_antisymm h2 h1]
    · intro j h1 h2
      exact absurd h2 (Nat.not_lt.2 h1)
    · intro j hj
      rw [Nat.succ.inj hj]
      exact Or.inl hchange
    · exact Or.inr ⟨by rw [heq]; simp, k, rfl, hchange⟩
    · rw [heq]
      exact he

/-- before every poll there is such a run -/
theorem run_exists (hn : 1 ≤ n) (he : e < n) : ∀ k ≤ ps.length, ∃ r, Run n e ps k r
  | 0, _ => ⟨0, run_zero hn⟩
  | k + 1, hk => by
    obtain ⟨r, h⟩ := run_exists hn he k (Nat.le_of_succ_le hk)
    exact h.next hk hn he

/-- the alarm is confirmed at a poll against it that makes the run long enough -/
theorem Run.confirmed_iff {k r : ℕ} (h : Run n e ps k r) (hk : k < ps.length) (hn : 1 ≤ n) :
    Confirmed n (alarms n e quiet ps) ps (counterAt n e ps k).active k ↔
      Against ps (counterAt n e ps k).active k ∧ n ≤ r + 1 := by
  constructor
  · rintro ⟨hle, hall⟩
    refine ⟨(hall k (by omega) le_rfl).2, ?_⟩
    -- otherwise the poll before the run would be among the last `n`
    by_contra hshort
    obtain ⟨j, rfl⟩ : ∃ j, j + r + 1 = k := ⟨k - r - 1, by omega⟩
    obtain ⟨halarm, hagainst⟩ := hall j (by omega) (by omega)
    rw [alarm_iff (by omega)] at halarm
    exact (h.maximal j rfl).elim (fun hne => hne halarm) fun hna => hna hagainst
  · rintro ⟨hop, hlong⟩
    have hle := h.le
    refine ⟨by omega, fun j h1 h2 => ⟨(alarm_iff (by omega) _).2 (h.same j (by omega) h2), ?_⟩⟩
    rcases Nat.lt_or_ge j k with hj | hj
    · exact h.against j (by omega) hj
    · rw [Nat.le_antisymm h2 hj]
      exact hop

/-! ## When the law holds -/

/-- a change has its polls behind it -/
theorem change_confirmed (hn : 1 ≤ n) (he : e ≤ 0) {k : ℕ} (hk : k < ps.length) {b : Bool}
    (hb : (alarms n e quiet ps)[k]? = some b) (hchange : (alarms n e quiet ps)[k + 1]? = some (!b)) :
    Confirmed n (alarms n e quiet ps) ps b k := by
  have hlt : e < n := by omega
  obtain ⟨r, h⟩ := run_exists hn hlt k hk.le
  rw [alarm_iff hk.le] at hb
  rw [alarm_iff hk, ← hb, change_iff hk] at hchange
  rw [← hb, h.confirmed_iff hk hn]
  refine ⟨hchange.1, ?_⟩
  rcases h.count with hcount | ⟨hcount, -⟩ <;> omega

/-- **A counter that starts anew at 0** obeys the law. -/
theorem law_of_restart_zero (hn : 1 ≤ n) (b : Bool) : Law n (alarms n 0 quiet ps) ps b := by
  intro k hk hb
  obtain ⟨r, h⟩ := run_exists hn (Int.natCast_pos.2 hn) k hk.le
  have hbelow := h.below
  rw [alarm_iff hk.le] at hb
  rw [alarm_iff hk, ← hb, change_iff hk, h.confirmed_iff hk hn]
  refine and_congr_right fun _ => ?_
  rcases h.count with hcount | ⟨hcount, -⟩ <;> omega

/-- the law at a poll, if none of the changes before it is followed by too many polls against it -/
theorem lawAt_of_no_relapse (hn : 1 ≤ n) {b : Bool} {k : ℕ} (hk : k < ps.length)
    (hno : ∀ i < k, ¬ Relapse n (alarms n (-n) quiet ps) ps b i) : LawAt n (alarms n (-n) quiet ps) ps b k := by
  intro hb
  have hneg : (-n : ℤ) < n := by omega
  obtain ⟨r, h⟩ := run_exists hn hneg k hk.le
  have hbelow := h.below
  rw [alarm_iff hk.le] at hb
  rw [alarm_iff hk, ← hb, change_iff hk, h.confirmed_iff hk hn]
  refine and_congr_right fun hop => ?_
  rcases h.count with hcount | ⟨hcount, i, rfl, hchange⟩
  · omega
  · -- the run follows a change, so it has not yet got so long
    have hshort : ¬ n ≤ r + 1 := by
      intro hlong
      refine hno i (by omega) ⟨?_, ?_, fun j h1 h2 => ?_⟩
      · rw [alarm_iff (by omega), ← hb]
        exact Bool.eq_not.2 hchange
      · rw [alarm_iff (by omega), ← hb]
        exact h.same (i + 1) (by omega) (by omega)
      · rw [← hb]
        rcases Nat.lt_or_ge j (i + r + 1) with hj | hj
        · exact h.against j (by omega) hj
        · rw [show j = i + r + 1 by omega]
          exact hop
    omega

/-- a change is followed by polls against the alarm; below `2 * n` of them the count runs up from `-n` -/
theorem counterAt_after_change {b : Bool} {k m : ℕ} (hm : m < 2 * n)
    (hbefore : (alarms n (-n) quiet ps)[k]? = some (!b)) (hafter : (alarms n (-n) quiet ps)[k + 1]? = some b)
    (hagainst : ∀ j, k < j → j ≤ k + m → Against ps b j) (i : ℕ) (hi : i ≤ m) :
    k + 1 + i ≤ ps.length ∧ counterAt n (-n) ps (k + 1 + i) = ⟨-n + i, b⟩ := by
  have hlength : ∀ j, Against ps b j → j < ps.length := fun j ⟨p, hp, _⟩ => (List.getElem?_eq_some_iff.1 hp).1
  have hk : k < ps.length := by
    have hlen := (List.getElem?_eq_some_iff.1 hafter).1
    rw [length_alarms] at hlen
    omega
  induction i with
  | zero =>
    refine ⟨hk, ?_⟩
    rw [alarm_iff hk.le] at hbefore
    rw [alarm_iff hk] at hafter
    have hchange : (counterAt n (-n) ps (k + 1)).active = !(counterAt n (-n) ps k).active := by
      rw [hafter, hbefore, Bool.not_not]
    have hfull := (change_iff hk).1 hchange
    rcases counterAt_cases (n := n) (e := -n) hk with ⟨hop, -⟩ | ⟨-, hne, -⟩ | ⟨-, -, heq⟩
    · exact absurd hfull.1 hop
    · exact absurd hfull.2 hne
    · rw [Nat.add_zero, heq, hbefore, Bool.not_not, Int.natCast_zero, add_zero]
  | succ i ih =>
    obtain ⟨-, hcount⟩ := ih (by omega)
    have hop := hagainst (k + 1 + i) (by omega) (by omega)
    have hlt := hlength _ hop
    refine ⟨hlt, ?_⟩
    rcases counterAt_cases (n := n) (e := -n) hlt with ⟨hno, -⟩ | ⟨-, -, heq⟩ | ⟨-, hfull, -⟩
    · rw [hcount] at hno
      exact absurd hop hno
    · rw [← Nat.add_assoc, heq, hcount]
      push_cast
      rw [add_assoc]
    · rw [hcount] at hfull
      simp only at hfull
      omega

/-- after a change the count is too low for the next `n` polls to change the alarm -/
theorem counterAt_relapse {b : Bool} {k : ℕ} (hn : 1 ≤ n) (h : Relapse n (alarms n (-n) quiet ps) ps b k) (i : ℕ)
    (hi : i ≤ n) :
    k + 1 + i ≤ ps.length ∧ counterAt n (-n) ps (k + 1 + i) = ⟨-n + i, b⟩ :=
  counterAt_after_change (lt_two_mul_self hn) h.1 h.2.1 h.2.2 i hi

/-- **A counter that starts anew at `-n`** obeys the law exactly when no change is followed by `n` polls against it. -/
theorem law_iff (hn : 1 ≤ n) (b : Bool) :
    Law n (alarms n (-n) quiet ps) ps b ↔ ∀ k, ¬ Relapse n (alarms n (-n) quiet ps) ps b k := by
  constructor
  · intro hlaw k hrel
    obtain ⟨hlen, hlast⟩ := counterAt_relapse hn hrel n le_rfl
    obtain ⟨m, rfl⟩ := Nat.exists_eq_add_of_le' hn
    have hk : k + (m + 1) < ps.length := by omega
    have hstay : ∀ i ≤ m + 1, (alarms (m + 1) (-(m + 1 : ℕ)) quiet ps)[k + 1 + i]? = some b := by
      intro i hi
      obtain ⟨hle, heq⟩ := counterAt_relapse hn hrel i hi
      rw [alarm_iff hle, heq]
    have hlawk := hlaw (k + (m + 1)) hk
    have hconf : Confirmed (m + 1) (alarms (m + 1) (-(m + 1 : ℕ)) quiet ps) ps b (k + (m + 1)) := by
      refine ⟨by omega, fun j h1 h2 => ⟨?_, hrel.2.2 j (by omega) (by omega)⟩⟩
      obtain ⟨i, rfl⟩ : ∃ i, j = k + 1 + i := ⟨j - (k + 1), by omega⟩
      exact hstay i (by omega)
    have hsame := hstay m (by omega)
    rw [show k + 1 + m = k + (m + 1) by omega] at hsame
    have hnext := (hlawk hsame).2 hconf
    have hstays := hstay (m + 1) le_rfl
    rw [show k + 1 + (m + 1) = k + (m + 1) + 1 by omega, hnext, Option.some.injEq] at hstays
    exact absurd hstays (Bool.not_ne_self b)
  · exact fun hno k hk => lawAt_of_no_relapse hn hk fun i _ => hno i

/-- an alarm that never changes obeys the law when there never are `n` polls in a row against it -/
theorem law_replicate_iff (hn : 1 ≤ n) (b : Bool) :
    Law n (List.replicate (ps.length + 1) b) ps b ↔ ∀ k, ¬ Streak n ps b k := by
  have hget : ∀ k ≤ ps.length, (List.replicate (ps.length + 1) b)[k]? = some b := fun k hk => by
    rw [List.getElem?_replicate, if_pos (Nat.lt_succ_of_le hk)]
  constructor
  · rintro hlaw k ⟨hle, hall⟩
    obtain ⟨p, hp, -⟩ := hall k (by omega) le_rfl
    have hk : k < ps.length := (List.getElem?_eq_some_iff.1 hp).1
    have hconf : Confirmed n (List.replicate (ps.length + 1) b) ps b k :=
      ⟨hle, fun j h1 h2 => ⟨hget j (by omega), hall j h1 h2⟩⟩
    have hnext := (hlaw k hk (hget k hk.le)).2 hconf
    rw [hget (k + 1) hk, Option.some.injEq] at hnext
    exact absurd hnext (Bool.self_ne_not b)
  · intro hno k hk _
    rw [hget (k + 1) hk, Option.some.injEq]
    exact ⟨fun h => absurd h (Bool.self_ne_not b), fun h => absurd ⟨h.1, fun j h1 h2 => (h.2 j h1 h2).2⟩ (hno k)⟩

/-- two alarms that agree up to a poll and obey the law there agree after it -/
theorem next_eq_of_law {xs ys : List Bool} {k : ℕ} {b b' : Bool} (hsame : ∀ j ≤ k, xs[j]? = ys[j]?)
    (hx : LawAt n xs ps b k) (hy : LawAt n ys ps b k) (hb : xs[k]? = some b) (hx' : xs[k + 1]? = some b')
    (hy' : ∃ c, ys[k + 1]? = some c) : ys[k + 1]? = some b' := by
  obtain ⟨c, hc⟩ := hy'
  have hiff : (xs[k + 1]? = some (!b) ↔ ys[k + 1]? = some (!b)) :=
    (hx hb).trans ((confirmed_congr hsame).trans (hy ((hsame k le_rfl).symm.trans hb)).symm)
  rw [hx', hc, Option.some.injEq, Option.some.injEq] at hiff
  rw [hc, Option.some.injEq]
  cases b <;> cases b' <;> cases c <;> simp_all

/-- an alarm that obeys the law as long as it agrees with the law's agrees with it throughout -/
theorem eq_of_laws {xs : List Bool} (hn : 1 ≤ n) (hget : ∀ k ≤ ps.length, ∃ c, xs[k]? = some c)
    (hzero : xs[0]? = some false)
    (hlaw : ∀ k < ps.length, (∀ j ≤ k, xs[j]? = (alarms n 0 quiet ps)[j]?) → ∀ b, LawAt n xs ps b k) {k : ℕ} :
    k ≤ ps.length → ∀ j ≤ k, xs[j]? = (alarms n 0 quiet ps)[j]? := by
  induction k with
  | zero =>
    intro _ j hj
    rw [Nat.le_zero.1 hj, hzero, alarm_zero]
  | succ k ih =>
    intro hk j hj
    have hsame := ih (Nat.le_of_succ_le hk)
    rcases Nat.lt_or_ge k j with hlt | hle
    · rw [Nat.le_antisymm hj hlt]
      obtain ⟨c, hc⟩ := hget k (Nat.le_of_succ_le hk)
      obtain ⟨d, hd⟩ := hget (k + 1) hk
      exact hd.trans (next_eq_of_law hsame (hlaw k hk hsame _) (law_of_restart_zero hn _ k hk) hc hd
        ⟨_, alarm_eq hk⟩).symm
    · exact hsame j hle

/-- **Both laws**: the alarm is raised and cleared as the law says exactly when no change of the law is followed at once by
`n` polls against it. -/
theorem both_laws_iff (hn : 1 ≤ n) :
    (∀ b, Law n (alarms n (-n) quiet ps) ps b) ↔ ∀ b k, ¬ Relapse n (alarms n 0 quiet ps) ps b k := by
  constructor
  · intro hlaw
    have hsame := eq_of_laws hn (fun k hk => ⟨_, alarm_eq hk⟩) alarm_zero
      (fun k hk _ b => hlaw b k hk) (le_refl ps.length)
    have heq : alarms n (-n) quiet ps = alarms n 0 quiet ps := by
      apply List.ext_getElem?
      intro j
      rcases Nat.lt_or_ge ps.length j with hj | hj
      · rw [List.getElem?_eq_none (by rw [length_alarms]; omega), List.getElem?_eq_none (by rw [length_alarms]; omega)]
      · exact hsame j hj
    intro b
    rw [← heq]
    exact (law_iff hn b).1 (hlaw b)
  · intro hno b k hk hb
    have hsame : ∀ j ≤ ps.length, (alarms n (-n) quiet ps)[j]? = (alarms n 0 quiet ps)[j]? := by
      refine eq_of_laws hn (fun k hk => ⟨_, alarm_eq hk⟩) alarm_zero
        (fun k hk hsame b => lawAt_of_no_relapse hn hk fun i hi => ?_) le_rfl
      rw [relapse_congr fun j hj => hsame j (by omega)]
      exact hno b i
    rw [hsame k hk.le] at hb
    rw [hsame (k + 1) hk, confirmed_congr fun j hj => hsame j (by omega)]
    exact law_of_restart_zero hn b k hk hb

/-! ## Two criteria -/

/-- confirmed, and no change within less than `2 * n` polls before has had polls against the alarm ever since -/
def Reached (n : ℕ) (alarms : List Bool) (ps : List Poll) (b : Bool) (k : ℕ) : Prop :=
  Confirmed n alarms ps b k ∧ ∀ i < k, alarms[i]? = some (!b) → alarms[i + 1]? = some b →
    (∀ j, i < j → j ≤ k → Against ps b j) → i + 2 * n ≤ k

theorem reached_congr {xs ys : List Bool} {b : Bool} {k : ℕ} (h : ∀ j ≤ k, xs[j]? = ys[j]?) :
    Reached n xs ps b k ↔ Reached n ys ps b k := by
  refine and_congr (confirmed_congr h) (forall_congr' fun i => forall_congr' fun hi => ?_)
  rw [h i hi.le, h (i + 1) hi]

/-- **When a counter that starts anew at `-n`** changes its alarm. -/
theorem change_iff_reached (hn : 1 ≤ n) {b : Bool} {k : ℕ} (hk : k < ps.length)
    (hb : (alarms n (-n) quiet ps)[k]? = some b) :
    (alarms n (-n) quiet ps)[k + 1]? = some (!b) ↔ Reached n (alarms n (-n) quiet ps) ps b k := by
  have hneg : (-n : ℤ) < n := by omega
  obtain ⟨r, h⟩ := run_exists hn hneg k hk.le
  have hbelow := h.below
  have hactive := (alarm_iff hk.le b).1 hb
  constructor
  · intro hchange
    refine ⟨change_confirmed hn (by omega) hk hb hchange, fun i hi hbefore hafter hagainst => ?_⟩
    rw [alarm_iff hk, ← hactive, change_iff hk] at hchange
    -- closer to the change the count would still be too low
    by_contra hclose
    obtain ⟨m, rfl⟩ : ∃ m, k = i + 1 + m := ⟨k - (i + 1), by omega⟩
    have hcount := (counterAt_after_change (m := m) (by omega) hbefore hafter
      (fun j h1 h2 => hagainst j h1 (by omega)) m le_rfl).2
    rw [hcount] at hchange
    have hfull := hchange.2
    simp only at hfull
    omega
  · rintro ⟨hconf, hfar⟩
    rw [← hactive, h.confirmed_iff hk hn] at hconf
    rw [alarm_iff hk, ← hactive, change_iff hk]
    refine ⟨hconf.1, ?_⟩
    rcases h.count with hcount | ⟨hcount, j, rfl, hchange⟩
    · omega
    · have hlong := hfar j (by omega) ((alarm_iff (by omega) _).2 (by rw [← hactive]; exact Bool.eq_not.2 hchange))
        ((alarm_iff (by omega) _).2 (by rw [← hactive]; exact h.same (j + 1) (by omega) (by omega))) fun i h1 h2 => by
          rw [← hactive]
          rcases Nat.lt_or_ge i (j + r + 1) with hi | hi
          · exact h.against i (by omega) hi
          · rw [show i = j + r + 1 by omega]
            exact hconf.1
      omega

/-- **Two criteria.** An alarm that compares by one criterion is raised and cleared as the law says by another exactly if the
one is reached where the other is confirmed. -/
theorem compared_laws_iff {qs : List Poll} (hn : 1 ≤ n) (hlen : qs.length = ps.length) :
    (∀ b, Law n (alarms n (-n) quiet qs) ps b) ↔ ∀ k < ps.length, ∀ b, (alarms n 0 quiet ps)[k]? = some b →
      (Confirmed n (alarms n 0 quiet ps) ps b k ↔ Reached n (alarms n 0 quiet ps) qs b k) := by
  have hget : ∀ k ≤ ps.length, ∃ c, (alarms n (-n) quiet qs)[k]? = some c := fun k hk => ⟨_, alarm_eq (by omega)⟩
  constructor
  · intro hlaw k hk b hb
    have hsame := eq_of_laws hn hget alarm_zero (fun k hk _ b => hlaw b k hk) le_rfl
    rw [← law_of_restart_zero hn b k hk hb, ← hsame (k + 1) hk, ← reached_congr fun j hj => hsame j (by omega)]
    rw [← hsame k hk.le] at hb
    exact change_iff_reached hn (by omega) hb
  · intro hiff b k hk hb
    have hlawAt : ∀ k < ps.length, (∀ j ≤ k, (alarms n (-n) quiet qs)[j]? = (alarms n 0 quiet ps)[j]?) →
        ∀ b, LawAt n (alarms n (-n) quiet qs) ps b k := by
      intro k hk hsame b hb
      rw [change_iff_reached hn (by omega) hb, reached_congr hsame, confirmed_congr hsame]
      rw [hsame k le_rfl] at hb
      exact (hiff k hk b hb).symm
    have hsame := eq_of_laws hn hget alarm_zero hlawAt le_rfl
    exact hlawAt k hk (fun j hj => hsame j (by omega)) b hb

/-! ## Programs -/

section Watch

variable {σ ι : Type*} (step : σ → ι → Option σ) (look : σ → ι → Option Poll) (alarm : σ → Bool)

/-- the alarm before each poll that a run makes and at its end, and what these polls find; a run ends at a step that fails -/
def watch : σ → List ι → List Bool × List Poll
  | s, [] => ([alarm s], [])
  | s, x :: xs =>
    match step s x with
    | none => ([alarm s], [])
    | some t =>
      match look s x with
      | none => watch t xs
      | some p => (alarm s :: (watch t xs).1, p :: (watch t xs).2)

variable {step look alarm}

/-- **A program that counts.** Its steps do to a view of the state what the counter does at a poll, and nothing elsewhere. -/
theorem watch_eq {I : σ → Prop} {v : σ → Counter} (hactive : ∀ s, (v s).active = alarm s)
    (hpoll : ∀ s x t p, I s → step s x = some t → look s x = some p → v t = (v s).tick n e p)
    (hquiet : ∀ s x t, I s → step s x = some t → look s x = none → v t = v s)
    (hinv : ∀ s x t, I s → step s x = some t → I t) (xs : List ι) :
    ∀ s, I s → (watch step look alarm s xs).1 = alarms n e (v s) (watch step look alarm s xs).2 := by
  induction xs with
  | nil =>
    intro s _
    rw [watch, alarms, hactive]
  | cons x xs ih =>
    intro s hs
    rw [watch]
    cases hstep : step s x with
    | none => rw [alarms, hactive]
    | some t =>
      have ht := ih t (hinv s x t hs hstep)
      cases hlook : look s x with
      | none =>
        rw [hquiet s x t hs hstep hlook] at ht
        exact ht
      | some p =>
        rw [hpoll s x t p hs hstep hlook] at ht
        simp only [alarms, hactive, ht]

/-- a program that never changes the alarm -/
theorem watch_replicate {I : σ → Prop} {b : Bool} (halarm : ∀ s, I s → alarm s = b)
    (hinv : ∀ s x t, I s → step s x = some t → I t) (xs : List ι) :
    ∀ s, I s → (watch step look alarm s xs).1 = List.replicate ((watch step look alarm s xs).2.length + 1) b := by
  induction xs with
  | nil =>
    intro s hs
    rw [watch, halarm s hs]
    rfl
  | cons x xs ih =>
    intro s hs
    rw [watch]
    cases hstep : step s x with
    | none =>
      rw [halarm s hs]
      rfl
    | some t =>
      have ht := ih t (hinv s x t hs hstep)
      cases look s x with
      | none => exact ht
      | some p =>
        simp only [halarm s hs, ht, List.length_cons]
        rfl

/-- what is looked for does not matter to the alarm, only when -/
theorem watch_congr {look' : σ → ι → Option Poll} (hlook : ∀ s x, (look s x).isSome = (look' s x).isSome) (xs : List ι) :
    ∀ s, (watch step look alarm s xs).1 = (watch step look' alarm s xs).1 ∧
      (watch step look alarm s xs).2.length = (watch step look' alarm s xs).2.length := by
  induction xs with
  | nil => exact fun s => ⟨rfl, rfl⟩
  | cons x xs ih =>
    intro s
    rw [watch, watch]
    cases step s x with
    | none => exact ⟨rfl, rfl⟩
    | some t =>
      have hsome := hlook s x
      cases hl : look s x <;> cases hl' : look' s x <;> rw [hl, hl'] at hsome
      · exact ih t
      · exact absurd hsome Bool.false_ne_true
      · exact absurd hsome.symm Bool.false_ne_true
      · exact ⟨congrArg (List.cons _) (ih t).1, congrArg Nat.succ (ih t).2⟩

end Watch

end Debounce
