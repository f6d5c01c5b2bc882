/-
Which strategy of the group in force is executed: the search of `RelayExecuteStrategyGroup`.

The loop tests the minute against a strategy, against the next one, and against the time between them.
- `strategyLoop_eq`: in a list in order it finds the first strategy of this minute if there is one, and otherwise the
  last that has started;
- `inForce_iff`: it is the strategy in force, now and a minute later, exactly when at most one starts this minute;
- `two_at_ten`: with two strategies at 10:00 the first is executed at 10:00 and the second from 10:01 on.
-/
import DataConcentrator.Lib.Schedule
import DataConcentrator.Relay.Module

namespace DataConcentrator.Relay

open Dll (Heap Fault Chain)

/-! ## The search -/

def gate24 : ℕ := 1440

/-- the loop over the strategies -/
def strategyLoop (gate_n : ℕ) : ℕ → Heap Strategy → Option ℕ → Except Fault (Option ℕ)
  | 0, _, _ => .error .endless
  | _ + 1, _, none => .ok none
  | fuel + 1, h, some strategy => do
    let n ← h.get strategy
    if gate_n = n.val.action_time then .ok (some strategy)
    else
      match n.next with
      | none => .ok (some strategy)
      | some next => do
        let c ← h.get next
        let gate1 := n.val.action_time
        let gate2 := c.val.action_time
        if gate_n = gate2 then .ok (some next)
        else if gate1 < gate2 ∧ gate1 ≤ gate_n ∧ gate_n ≤ gate2 then .ok (some strategy)
        else if gate2 < gate1 ∧ (gate1 ≤ gate_n ∧ gate_n ≤ gate24 ∨ 0 ≤ gate_n ∧ gate_n ≤ gate2) then .ok (some strategy)
        else strategyLoop gate_n fuel h (some next)

/-- the strategy whose actions are executed, of the group whose head is `CurrentRelayStrategyGroup` -/
def strategyInForce (gate_n : ℕ) (h : Heap Strategy) (current : Option ℕ) : Except Fault (Option ℕ) :=
  match current with
  | none => .ok none
  | some a => do
    let n ← h.get a
    strategyLoop gate_n (h.live.card + 1) h n.next

/-- `RelayExecuteStrategyGroup` from the search on -/
def executeStrategies (now : List UInt8) (gate_n : ℕ) (h : Heap Strategy) (current : Option ℕ) (ms : RelayModules) :
    Except Fault RelayModules := do
  let strategy ← strategyInForce gate_n h current
  match strategy with
  | none => return updateRelayState now ms 0
  | some i => do
    let n ← h.get i
    let (ms, j) := schedule ms n.val.action
    return updateRelayState now ms j

/-! ## What it finds -/

/-- the strategy at a node of memory starts at -/
def timeAt (h : Heap Strategy) (i : ℕ) : ℕ := (h.cell i).val.action_time

/-- minute `n` executes the strategy at `i`: it is found, and its actions are given to the modules -/
def Executes (h : Heap Strategy) (current : Option ℕ) (n i : ℕ) : Prop :=
  strategyInForce n h current = .ok (some i) ∧
    ∀ now ms, executeStrategies now n h current ms =
      .ok (updateRelayState now (schedule ms (h.cell i).val.action).1 (schedule ms (h.cell i).val.action).2)

/-- the strategy in force is executed, now and, unless one starts then, a minute later -/
def ExecutesInForce (h : Heap Strategy) (a : ℕ) (ns : List ℕ) (n : ℕ) : Prop :=
  (∃ i, Schedule.inForce (timeAt h) n ns = some i ∧ Executes h (some a) n i) ∧
    ((∀ i ∈ ns, timeAt h i ≠ (n + 1) % gate24) →
      ∃ i, Executes h (some a) n i ∧ Executes h (some a) ((n + 1) % gate24) i)

section Search

variable {h : Heap Strategy} {n : ℕ}

open Schedule

/-- the last node is taken -/
theorem strategyLoop_last {a : ℕ} (hc : Chain h [a]) (fuel : ℕ) : strategyLoop n (fuel + 1) h (some a) = .ok (some a) := by
  rw [strategyLoop, Dll.get_live (hc.live a List.mem_cons_self)]
  change (if n = timeAt h a then _ else match (h.cell a).next with | none => _ | some next => _) = _
  rw [Dll.linked_next hc.linked]
  split_ifs <;> rfl

/-- a node before another one -/
theorem strategyLoop_cons {a b : ℕ} {l : List ℕ} (hc : Chain h (a :: b :: l)) (fuel : ℕ) :
    strategyLoop n (fuel + 1) h (some a) =
      if n = timeAt h a then .ok (some a)
      else if n = timeAt h b then .ok (some b)
      else if timeAt h a < timeAt h b ∧ timeAt h a ≤ n ∧ n ≤ timeAt h b then .ok (some a)
      else if timeAt h b < timeAt h a ∧ (timeAt h a ≤ n ∧ n ≤ gate24 ∨ 0 ≤ n ∧ n ≤ timeAt h b) then .ok (some a)
      else strategyLoop n fuel h (some b) := by
  rw [strategyLoop, Dll.get_live (hc.live a List.mem_cons_self)]
  change (if n = timeAt h a then _ else match (h.cell a).next with | none => _ | some next => _) = _
  rw [Dll.linked_next hc.linked]
  by_cases hna : n = timeAt h a
  · rw [if_pos hna, if_pos hna]
  · rw [if_neg hna, if_neg hna]
    change (h.get b >>= _) = _
    rw [Dll.get_live (hc.live b (List.mem_cons_of_mem a List.mem_cons_self))]
    rfl

/-- **The loop** finds the first strategy of this minute, or else the last that has started. -/
theorem strategyLoop_eq (l : List ℕ) : ∀ (a fuel : ℕ), Chain h (a :: l) →
    (a :: l).Pairwise (fun i j => timeAt h i ≤ timeAt h j) → l.length < fuel →
      strategyLoop n fuel h (some a) =
        .ok ((dueAt (timeAt h) n (a :: l)).head?.or (inForce (timeAt h) n (a :: l))) := by
  induction l with
  | nil =>
    intro a fuel hc _ hfuel
    obtain ⟨fuel, rfl⟩ : ∃ k, fuel = k + 1 := ⟨fuel - 1, by omega⟩
    rw [strategyLoop_last hc]
    rcases lt_trichotomy (timeAt h a) n with hlt | heq | hgt
    · rw [dueAt_cons_of_ne hlt.ne, inForce_cons_of_le hlt.le fun i hi => absurd hi List.not_mem_nil]
      rfl
    · rw [dueAt_cons_of_eq heq]
      rfl
    · rw [dueAt_cons_of_ne hgt.ne', inForce, started_cons_of_lt hgt]
      rfl
  | cons b l ih =>
    intro a fuel hc hs hfuel
    obtain ⟨fuel, rfl⟩ : ∃ k, fuel = k + 1 := ⟨fuel - 1, by omega⟩
    obtain ⟨ha, hsl⟩ := List.pairwise_cons.1 hs
    have hab := ha b List.mem_cons_self
    have hb := (List.pairwise_cons.1 hsl).1
    have hih := ih b fuel hc.tail hsl (by simpa using hfuel)
    rw [strategyLoop_cons hc]
    by_cases hna : timeAt h a = n
    · rw [if_pos hna.symm, dueAt_cons_of_eq hna]
      rfl
    rw [if_neg fun heq => hna heq.symm, dueAt_cons_of_ne hna]
    by_cases hnb : timeAt h b = n
    · rw [if_pos hnb.symm, dueAt_cons_of_eq hnb]
      rfl
    rw [if_neg fun heq => hnb heq.symm]
    by_cases hin : timeAt h a < timeAt h b ∧ timeAt h a ≤ n ∧ n ≤ timeAt h b
    · -- between the two
      have hlate : ∀ i ∈ b :: l, n < timeAt h i := by
        intro i hi
        have hbn : n < timeAt h b := lt_of_le_of_ne hin.2.2 fun heq => hnb heq.symm
        rcases List.mem_cons.1 hi with rfl | hi
        · exact hbn
        · exact hbn.trans_le (hb i hi)
      rw [if_pos hin, dueAt_eq_nil fun i hi => (hlate i hi).ne', inForce_cons_of_le hin.2.1 hlate]
      rfl
    · rw [if_neg hin, if_neg fun hwrap => absurd hwrap.1 (not_lt.2 hab), hih]
      -- what is in force among the rest is in force
      congr 2
      rcases lt_or_gt_of_ne hna with hlt | hgt
      · have hbn : timeAt h b ≤ n := by
          by_contra hle
          exact hin ⟨hlt.trans (not_le.1 hle), hlt.le, (not_le.1 hle).le⟩
        exact (inForce_cons_of_started (mem_started.2 ⟨List.mem_cons_self, hbn⟩)).symm
      · exact (inForce_cons_of_lt hgt (List.cons_ne_nil b l)).symm

/-- in any list the loop ends at one of its nodes -/
theorem strategyLoop_ok (l : List ℕ) : ∀ (a fuel : ℕ), Chain h (a :: l) → l.length < fuel →
    ∃ i ∈ a :: l, strategyLoop n fuel h (some a) = .ok (some i) := by
  induction l with
  | nil =>
    intro a fuel hc hfuel
    obtain ⟨fuel, rfl⟩ : ∃ k, fuel = k + 1 := ⟨fuel - 1, by omega⟩
    exact ⟨a, List.mem_cons_self, strategyLoop_last hc fuel⟩
  | cons b l ih =>
    intro a fuel hc hfuel
    obtain ⟨fuel, rfl⟩ : ∃ k, fuel = k + 1 := ⟨fuel - 1, by omega⟩
    rw [strategyLoop_cons hc]
    split_ifs
    · exact ⟨a, List.mem_cons_self, rfl⟩
    · exact ⟨b, List.mem_cons_of_mem a List.mem_cons_self, rfl⟩
    · exact ⟨a, List.mem_cons_self, rfl⟩
    · exact ⟨a, List.mem_cons_self, rfl⟩
    · obtain ⟨i, hi, heq⟩ := ih b fuel hc.tail (by simpa using hfuel)
      exact ⟨i, List.mem_cons_of_mem a hi, heq⟩

/-- the search over a list meets allocated nodes only, and what it finds is given to the modules -/
theorem executeStrategies_ok {a : ℕ} {ns : List ℕ} (hc : Chain h (a :: ns)) (now : List UInt8) (ms : RelayModules) :
    ∃ ms', executeStrategies now n h (some a) ms = .ok ms' := by
  cases ns with
  | nil =>
    refine ⟨updateRelayState now ms 0, ?_⟩
    rw [executeStrategies, strategyInForce, Dll.get_live (hc.live a List.mem_cons_self)]
    change (strategyLoop n _ h (h.cell a).next >>= _) = _
    rw [Dll.linked_next hc.linked]
    rfl
  | cons b l =>
    have hfuel : l.length < h.live.card + 1 := by
      have := hc.length_le
      rw [List.length_cons, List.length_cons] at this
      omega
    obtain ⟨i, hi, heq⟩ := strategyLoop_ok (n := n) l b _ hc.tail hfuel
    refine ⟨updateRelayState now (schedule ms (h.cell i).val.action).1 (schedule ms (h.cell i).val.action).2, ?_⟩
    rw [executeStrategies, strategyInForce, Dll.get_live (hc.live a List.mem_cons_self)]
    change (strategyLoop n _ h (h.cell a).next >>= _) = _
    rw [Dll.linked_next hc.linked]
    change (strategyLoop n _ h (some b) >>= _) = _
    rw [heq]
    change (h.get i >>= _) = _
    rw [Dll.get_live (hc.live i (List.mem_cons_of_mem a hi))]
    rfl

/-- what is found is executed -/
theorem executes_iff {a i : ℕ} {ns : List ℕ} (hc : Chain h (a :: ns)) (hi : i ∈ ns) :
    Executes h (some a) n i ↔ strategyInForce n h (some a) = .ok (some i) := by
  refine ⟨fun he => he.1, fun he => ⟨he, fun now ms => ?_⟩⟩
  rw [executeStrategies, he]
  change (h.get i >>= _) = _
  rw [Dll.get_live (hc.live i (List.mem_cons_of_mem a hi))]
  rfl

theorem strategyInForce_eq {a : ℕ} {ns : List ℕ} (hc : Chain h (a :: ns)) (hne : ns ≠ [])
    (hs : ns.Pairwise fun i j => timeAt h i ≤ timeAt h j) :
    strategyInForce n h (some a) = .ok ((dueAt (timeAt h) n ns).head?.or (inForce (timeAt h) n ns)) := by
  obtain ⟨b, l, rfl⟩ := List.exists_cons_of_ne_nil hne
  have hfuel : l.length < h.live.card + 1 := by
    have := hc.length_le
    rw [List.length_cons, List.length_cons] at this
    omega
  rw [strategyInForce, Dll.get_live (hc.live a List.mem_cons_self)]
  change strategyLoop n _ h (h.cell a).next = _
  rw [Dll.linked_next hc.linked]
  exact strategyLoop_eq l b _ hc.tail hs hfuel

/-- in a list that is not empty some strategy is in force, and it is in the list -/
theorem inForce_mem {time : ℕ → ℕ} {ns : List ℕ} (hne : ns ≠ []) : ∃ i ∈ ns, inForce time n ns = some i := by
  rw [inForce]
  cases hlast : (started time n ns).getLast? with
  | none => exact ⟨_, List.getLast_mem hne, List.getLast?_eq_some_getLast hne⟩
  | some i => exact ⟨i, (mem_started.1 (List.mem_of_getLast? hlast)).1, rfl⟩

/-- **The strategy in force.** For a list of strategies in the order of their times and any minute of the day: the last
strategy that has started is executed, or the last of the list before any has, and the same a minute later unless one
starts then, exactly when at most one strategy starts this minute. -/
theorem inForce_iff {a : ℕ} {ns : List ℕ} (hc : Chain h (a :: ns)) (hne : ns ≠ [])
    (hs : ns.Pairwise fun i j => timeAt h i ≤ timeAt h j) (hlt : ∀ i ∈ ns, timeAt h i < gate24) (hn : n < gate24) :
    ExecutesInForce h a ns n ↔ (dueAt (timeAt h) n ns).length ≤ 1 := by
  rw [← head?_dueAt_iff hs hc.nodup.of_cons]
  obtain ⟨i, hi, hforce⟩ : ∃ i ∈ ns, inForce (timeAt h) n ns = some i := inForce_mem hne
  have hnow := strategyInForce_eq (n := n) hc hne hs
  constructor
  · intro hex
    obtain ⟨⟨j, hj, he⟩, -⟩ := hex
    rw [he.1, ← hj] at hnow
    exact (Except.ok.inj hnow).symm
  · intro hfirst
    rw [hfirst, hforce] at hnow
    have hexec := (executes_iff hc hi).2 hnow
    refine ⟨⟨i, hforce, hexec⟩, fun hnext => ⟨i, hexec, ?_⟩⟩
    have hlater := strategyInForce_eq (n := (n + 1) % gate24) hc hne hs
    rw [dueAt_eq_nil hnext, inForce_next hlt hn hnext, hforce] at hlater
    exact (executes_iff hc hi).2 hlater

end Search

/-! ## Two strategies at one time -/

/-- a strategy of group 1 at 10:00, with its action -/
def atTen (loop_action : UInt16) : Strategy := ⟨1, 1, 600, 600, 1, [⟨0, 0, 1, loop_action⟩], Nat.le_add_left 1 4⟩

/-- the head at 0, then a strategy that switches the first loop on, and one that switches it off -/
def twoAtTen : Heap Strategy where
  live := {0, 1, 2}
  cell i :=
    if i = 0 then ⟨{ Strategy.zero with group_id := 1 }, none, some 1⟩
    else if i = 1 then ⟨atTen 1, some 0, some 2⟩
    else ⟨atTen 0, some 1, none⟩

theorem twoAtTen_chain : Chain twoAtTen [0, 1, 2] :=
  ⟨⟨rfl, rfl, rfl, rfl, rfl⟩, by decide, by decide⟩

theorem inForce_at_noon : ExecutesInForce twoAtTen 0 [1, 2] 720 :=
  (inForce_iff twoAtTen_chain (by decide) (by decide) (by decide) (by decide)).2 (by decide)

/-- **Two strategies at 10:00.** The first is executed at 10:00, the second a minute later. -/
theorem two_at_ten :
    strategyInForce 600 twoAtTen (some 0) = .ok (some 1) ∧ strategyInForce 601 twoAtTen (some 0) = .ok (some 2) ∧
      ¬ ExecutesInForce twoAtTen 0 [1, 2] 600 := by
  have hnow : strategyInForce 600 twoAtTen (some 0) = .ok (some 1) := rfl
  have hlater : strategyInForce 601 twoAtTen (some 0) = .ok (some 2) := rfl
  refine ⟨hnow, hlater, fun hex => ?_⟩
  obtain ⟨⟨i, hi, he⟩, -⟩ := hex
  have hforce : Schedule.inForce (timeAt twoAtTen) 600 [1, 2] = some 2 := by decide
  rw [hforce, Option.some.injEq] at hi
  rw [← hi] at he
  have heq := Except.ok.inj (hnow.symm.trans he.1)
  exact absurd heq (by decide)

end DataConcentrator.Relay
