/-
What `RelayExecuteStrategyGroup` and `RelayExecuteTemporaryStrategyGroup` change in the modules.

The loop at `UPDATE_RELAY_STATE` stamps module `j`, the counter another loop left, and the temporary actions mark module
`i`, the number of the action.
- `rounds_state`, `temporaryRun_state`: both loops, module by module;
- `givesTasks_iff`, `temporaryFrame_iff`: when the right modules are stamped, and marked;
- `updateFrame_iff`: both, for calls from any state of the lists.
-/
import DataConcentrator.Relay.ForceOff
import DataConcentrator.Relay.Lifecycle

namespace DataConcentrator.Relay

open Dll (Heap Fault)

/-! ## Tasks -/

instance taskGivenDecidable (s : RelayModuleState) : Decidable s.taskGiven := inferInstanceAs (Decidable (_ ∧ _))

/-- a module that is given its task -/
def RelayModuleState.tasked (s : RelayModuleState) : RelayModuleState :=
  { s with
    loop_last_task_channel := s.loop_task_channel
    loop_last_task_state := s.loop_task_state
    loop_current_channel := s.loop_task_channel
    loop_current_state := s.loop_task_state
    controller := 6 }

/-- with the time of it -/
def RelayModuleState.stamped (now : List UInt8) (s : RelayModuleState) : RelayModuleState := { s with control_time := now }

@[simp] theorem stamped_taskGiven (now : List UInt8) (s : RelayModuleState) : (s.stamped now).taskGiven ↔ s.taskGiven :=
  Iff.rfl

theorem stamped_eq_self_iff {now : List UInt8} {s : RelayModuleState} : s.stamped now = s ↔ s.control_time = now :=
  ⟨fun h => (congrArg RelayModuleState.control_time h).symm, fun h => by rw [← h]; rfl⟩

/-- a module whose task is not the one it was given last -/
def Differs (ms : RelayModules) (i : ℕ) : Prop := i < ms.number ∧ ¬ (ms.state i).taskGiven

instance differsDecidable (ms : RelayModules) (i : ℕ) : Decidable (Differs ms i) := inferInstanceAs (Decidable (_ ∧ _))

/-- every module whose task differs is given it, with its own time, and no other module changes -/
def GivesTasks (now : List UInt8) (ms ms' : RelayModules) : Prop :=
  ∀ i, ms'.state i = if Differs ms i then (ms.state i).tasked.stamped now else ms.state i

section Update

variable (now : List UInt8) (ms : RelayModules) (j : ℕ)

/-- the task of a module in the first `n` rounds -/
def taskedBelow (n i : ℕ) : RelayModuleState :=
  if i < n ∧ ¬ (ms.state i).taskGiven then (ms.state i).tasked else ms.state i

/-- a module whose task differs is in the first `n` -/
def StampedBelow (n : ℕ) : Prop := ∃ i < n, ¬ (ms.state i).taskGiven

instance stampedBelowDecidable (n : ℕ) : Decidable (StampedBelow ms n) :=
  inferInstanceAs (Decidable (∃ i, i < n ∧ ¬ (ms.state i).taskGiven))

theorem updateModule_eq (i : ℕ) : updateModule now j ms i =
    if (ms.state i).taskGiven then ms
    else (ms.set i RelayModuleState.tasked).set j (RelayModuleState.stamped now) := by
  rw [updateModule]
  by_cases hgiven : (ms.state i).taskGiven
  · rw [if_pos hgiven]
    exact if_neg fun h => h.elim (fun hne => hne hgiven.1) fun hne => hne hgiven.2
  · rw [if_neg hgiven]
    exact if_pos (not_and_or.1 hgiven)

theorem taskedBelow_self (n : ℕ) : taskedBelow ms n n = ms.state n := if_neg fun h => lt_irrefl n h.1

theorem taskedBelow_of_ne {n i : ℕ} (hin : i ≠ n) : taskedBelow ms (n + 1) i = taskedBelow ms n i :=
  if_congr (and_congr_left fun _ => ⟨fun h => lt_of_le_of_ne (Nat.lt_succ_iff.1 h) hin, Nat.lt_succ_of_lt⟩) rfl rfl

section Quiet

variable {ms} {n : ℕ} (hn : (ms.state n).taskGiven)
include hn

/-- a module with its task given changes nothing in its round -/
theorem taskedBelow_given (i : ℕ) : taskedBelow ms (n + 1) i = taskedBelow ms n i := by
  by_cases hin : i = n
  · rw [hin, taskedBelow_self]
    exact if_neg fun h => h.2 hn
  · exact taskedBelow_of_ne ms hin

theorem stampedBelow_given : StampedBelow ms (n + 1) ↔ StampedBelow ms n := by
  constructor
  · rintro ⟨k, hk, hdiffers⟩
    exact ⟨k, lt_of_le_of_ne (Nat.lt_succ_iff.1 hk) fun heq => hdiffers (heq ▸ hn), hdiffers⟩
  · rintro ⟨k, hk, hdiffers⟩
    exact ⟨k, Nat.lt_succ_of_lt hk, hdiffers⟩

end Quiet

/-- **Rounds.** Tasks are given where they differ, and if any does, module `j` is stamped. -/
theorem rounds_state (n : ℕ) : ∀ i, ((List.range n).foldl (updateModule now j) ms).state i =
    if i = j ∧ StampedBelow ms n then (taskedBelow ms n i).stamped now else taskedBelow ms n i := by
  induction n with
  | zero =>
    have hnone : ¬ StampedBelow ms 0 := fun ⟨k, hk, _⟩ => Nat.not_lt_zero k hk
    intro i
    rw [if_neg fun h => hnone h.2]
    rfl
  | succ n ih =>
    intro i
    have hgiven : (((List.range n).foldl (updateModule now j) ms).state n).taskGiven ↔ (ms.state n).taskGiven := by
      rw [ih n, taskedBelow_self]
      split_ifs
      · exact stamped_taskGiven now _
      · exact Iff.rfl
    rw [List.range_succ, List.foldl_append, List.foldl_cons, List.foldl_nil, updateModule_eq, if_congr hgiven rfl rfl]
    by_cases hn : (ms.state n).taskGiven
    · rw [if_pos hn, ih i, if_congr (and_congr_right fun _ => stampedBelow_given hn) rfl rfl, taskedBelow_given hn]
    · have hbelow : StampedBelow ms (n + 1) := ⟨n, Nat.lt_succ_self n, hn⟩
      have htasked : taskedBelow ms (n + 1) n = (ms.state n).tasked := if_pos ⟨Nat.lt_succ_self n, hn⟩
      have hround : (((List.range n).foldl (updateModule now j) ms).set n RelayModuleState.tasked).state i =
          if i = j ∧ StampedBelow ms n then (taskedBelow ms (n + 1) i).stamped now else taskedBelow ms (n + 1) i := by
        by_cases hin : i = n
        · rw [hin, set_state_self, ih n, taskedBelow_self, htasked]
          split_ifs
          · rfl
          · rfl
        · rw [set_state_of_ne _ _ hin, ih i, taskedBelow_of_ne ms hin]
      rw [if_neg hn]
      by_cases hij : i = j
      · rw [hij] at hround ⊢
        rw [set_state_self, hround]
        refine Eq.trans ?_ (if_pos ⟨rfl, hbelow⟩).symm
        split_ifs
        · rfl
        · rfl
      · rw [set_state_of_ne _ _ hij, hround, if_neg fun h => hij h.1, if_neg fun h => hij h.1]

/-- **The loop at `UPDATE_RELAY_STATE`** gives the right modules their tasks, and stamps the right ones exactly if each
module whose task differs is `j` or has the time already, and `j` is one of them, or has it too. -/
theorem givesTasks_iff : GivesTasks now ms (updateRelayState now ms j) ↔
    (∀ i, Differs ms i → i = j ∨ (ms.state i).control_time = now) ∧
      ((∃ i, Differs ms i) → Differs ms j ∨ (ms.state j).control_time = now) := by
  have hstamped : StampedBelow ms ms.number ↔ ∃ i, Differs ms i := Iff.rfl
  have hmodule : ∀ i, (updateRelayState now ms j).state i =
      (if Differs ms i then (ms.state i).tasked.stamped now else ms.state i) ↔
        (Differs ms i → i = j ∨ (ms.state i).control_time = now) ∧
          (¬ Differs ms i → i = j → (∃ k, Differs ms k) → (ms.state i).control_time = now) := by
    intro i
    have htasked : taskedBelow ms ms.number i = if Differs ms i then (ms.state i).tasked else ms.state i := rfl
    have hround := rounds_state now ms j ms.number i
    rw [updateRelayState, hround, htasked]
    by_cases hdiffers : Differs ms i
    · have hsome : StampedBelow ms ms.number := ⟨i, hdiffers⟩
      rw [if_pos hdiffers, if_pos hdiffers]
      simp only [hsome, and_true, hdiffers, not_true, false_implies, true_implies]
      split_ifs with hij
      · exact iff_of_true rfl (.inl hij)
      · rw [or_iff_right hij]
        exact eq_comm.trans stamped_eq_self_iff
    · rw [if_neg hdiffers, if_neg hdiffers]
      simp only [hdiffers, false_implies, true_and, not_false_eq_true, true_implies]
      split_ifs with hij
      · rw [stamped_eq_self_iff]
        exact ⟨fun h _ _ => h, fun h => h hij.1 (hstamped.1 hij.2)⟩
      · exact iff_of_true rfl fun heq hsome => absurd ⟨heq, hstamped.2 hsome⟩ hij
  constructor
  · intro h
    refine ⟨fun i => ((hmodule i).1 (h i)).1, fun hsome => ?_⟩
    by_cases hj : Differs ms j
    · exact .inl hj
    · exact .inr (((hmodule j).1 (h j)).2 hj rfl hsome)
  · rintro ⟨hdiffers, hj⟩ i
    refine (hmodule i).2 ⟨hdiffers i, fun hnot heq hsome => ?_⟩
    rw [heq] at hnot ⊢
    exact (hj hsome).resolve_left hnot

end Update

/-! ## Temporary strategies -/

/-- actions with their numbers -/
abbrev Numbered := List (RelayTaskAction × ℕ)

/-- a module whose loops an action is for -/
def Commanded (ms : RelayModules) (es : Numbered) (k : ℕ) : Prop := ∃ e ∈ es, findModule ms e.1 = some k

/-- the number of an action that finds a module -/
def NumberOf (ms : RelayModules) (es : Numbered) (k : ℕ) : Prop := ∃ e ∈ es, (findModule ms e.1).isSome ∧ e.2 = k

/-- the modules whose loops are commanded are those marked as controlled by a temporary strategy -/
structure TemporaryFrame (ms : RelayModules) (es : Numbered) (ms' : RelayModules) : Prop where
  commanded : ∀ k, Commanded ms es k → (ms'.state k).controller = 3
  other : ∀ k, ¬ Commanded ms es k → (ms'.state k).controller = (ms.state k).controller ∧
    (ms'.state k).loop_current_channel = (ms.state k).loop_current_channel ∧
    (ms'.state k).loop_current_state = (ms.state k).loop_current_state

/-- the command of a module -/
def RelayModuleState.loops (s : RelayModuleState) : UInt16 × UInt16 := (s.loop_current_channel, s.loop_current_state)

section Temporary

variable (now : List UInt8)

/-- an action marks the module with its own number -/
theorem temporaryAction_controller (ms : RelayModules) (e : RelayTaskAction × ℕ) (k : ℕ) :
    ((temporaryAction now ms e).state k).controller =
      if (findModule ms e.1).isSome ∧ e.2 = k then 3 else (ms.state k).controller := by
  rw [temporaryAction]
  cases hfound : findModule ms e.1 with
  | none => exact (if_neg fun h => absurd h.1 (by decide)).symm
  | some j =>
    simp only [Option.isSome_some, true_and]
    -- the last change is the time
    refine (set_keeps (g := RelayModuleState.controller) _ j ?_ k).trans ?_
    · exact fun _ => rfl
    by_cases hk : e.2 = k
    · rw [if_pos hk, hk, set_state_self]
    · rw [if_neg hk, set_state_of_ne _ _ fun h => hk h.symm]
      refine set_keeps (g := RelayModuleState.controller) _ j ?_ k
      exact fun _ => rfl

/-- and commands the one it finds -/
theorem temporaryAction_loops (ms : RelayModules) (e : RelayTaskAction × ℕ) {k : ℕ} (hk : findModule ms e.1 ≠ some k) :
    ((temporaryAction now ms e).state k).loops = (ms.state k).loops := by
  rw [temporaryAction]
  cases hfound : findModule ms e.1 with
  | none => rfl
  | some j =>
    have hkj : k ≠ j := fun h => hk (by rw [hfound, h])
    simp only
    rw [set_state_of_ne _ _ hkj]
    refine (set_keeps (g := RelayModuleState.loops) _ e.2 ?_ k).trans ?_
    · exact fun _ => rfl
    · rw [set_state_of_ne _ _ hkj]

/-- **The actions**, module by module. -/
theorem temporaryRun_state (es : Numbered) (k : ℕ) : ∀ ms : RelayModules,
    (NumberOf ms es k → ((es.foldl (temporaryAction now) ms).state k).controller = 3) ∧
      (¬ NumberOf ms es k → ((es.foldl (temporaryAction now) ms).state k).controller = (ms.state k).controller) ∧
      (¬ Commanded ms es k → ((es.foldl (temporaryAction now) ms).state k).loops = (ms.state k).loops) := by
  induction es with
  | nil => exact fun ms => ⟨fun ⟨_, he, _⟩ => absurd he List.not_mem_nil, fun _ => rfl, fun _ => rfl⟩
  | cons e es ih =>
    intro ms
    obtain ⟨hnumber, hother, hloops⟩ := ih (temporaryAction now ms e)
    have hfind := findModule_congr (temporaryAction_sameLoops now ms e)
    have hone := temporaryAction_controller now ms e k
    simp only [NumberOf, Commanded, hfind, List.foldl_cons, List.exists_mem_cons_iff, not_or] at *
    refine ⟨fun h => ?_, fun h => ?_, fun h => ?_⟩
    · by_cases hmore : ∃ e ∈ es, (findModule ms e.1).isSome ∧ e.2 = k
      · exact hnumber hmore
      · rw [hother hmore, hone, if_pos (h.resolve_right hmore)]
    · rw [hother h.2, hone, if_neg h.1]
    · rw [hloops h.2, temporaryAction_loops now ms e h.1]

/-- **The temporary strategies** mark the modules they command exactly if the numbers of their actions are those of the
modules, or these are marked already. -/
theorem temporaryFrame_iff (ms : RelayModules) (es : Numbered) :
    TemporaryFrame ms es (es.foldl (temporaryAction now) ms) ↔
      ∀ k, (Commanded ms es k ↔ NumberOf ms es k) ∨ (ms.state k).controller = 3 := by
  constructor
  · intro h k
    obtain ⟨hnumber, hother, -⟩ := temporaryRun_state now es k ms
    by_cases hcommanded : Commanded ms es k
    · by_cases hk : NumberOf ms es k
      · exact .inl (iff_of_true hcommanded hk)
      · exact .inr ((hother hk).symm.trans (h.commanded k hcommanded))
    · by_cases hk : NumberOf ms es k
      · exact .inr ((h.other k hcommanded).1.symm.trans (hnumber hk))
      · exact .inl (iff_of_false hcommanded hk)
  · intro h
    refine ⟨fun k hk => ?_, fun k hk => ?_⟩
    · obtain ⟨hnumber, hother, -⟩ := temporaryRun_state now es k ms
      by_cases hn : NumberOf ms es k
      · exact hnumber hn
      · rw [hother hn]
        exact (h k).resolve_left fun hiff => hn (hiff.1 hk)
    · obtain ⟨hnumber, hother, hloops⟩ := temporaryRun_state now es k ms
      refine ⟨?_, Prod.mk.inj (hloops hk)⟩
      by_cases hn : NumberOf ms es k
      · rw [hnumber hn, (h k).resolve_left fun hiff => hk (hiff.2 hn)]
      · exact hother hn

end Temporary

/-! ## The calls -/

/-- the actions of the strategy that is found -/
def foundActions (gate_n : ℕ) (h : Heap Strategy) (current : Option ℕ) : Except Fault (Option (List RelayTaskAction)) := do
  let strategy ← strategyInForce gate_n h current
  match strategy with
  | none => return none
  | some i => do
    let n ← h.get i
    return some n.val.action

theorem executeStrategies_eq (now : List UInt8) (gate_n : ℕ) (h : Heap Strategy) (current : Option ℕ) (ms : RelayModules) :
    executeStrategies now gate_n h current ms = (foundActions gate_n h current).map fun scheduled =>
      updateRelayState now (scheduledModules ms scheduled).1 (scheduledModules ms scheduled).2 := by
  rw [executeStrategies, foundActions]
  cases strategyInForce gate_n h current with
  | error e => rfl
  | ok strategy =>
    cases strategy with
    | none => rfl
    | some i =>
      change (h.get i >>= _) = Except.map _ (h.get i >>= _)
      cases h.get i with
      | error e => rfl
      | ok n => rfl

theorem bind_ok_iff {ε α β : Type} {x : Except ε α} {f : α → Except ε β} {b : β} :
    x >>= f = .ok b ↔ ∃ a, x = .ok a ∧ f a = .ok b := by
  cases x with
  | error e => exact ⟨fun h => (nomatch h), fun ⟨a, ha, _⟩ => (nomatch ha)⟩
  | ok a => exact ⟨fun h => ⟨a, rfl, h⟩, fun ⟨a', ha, h⟩ => Except.ok.inj ha ▸ h⟩

namespace RelayLists

variable (P : Platform)

/-- the actions `RelayExecuteStrategyGroup` schedules, after its refreshes; without a due second it schedules none -/
def scheduledActions (due : Bool) (s : RelayLists) : Option (Option (List RelayTaskAction)) :=
  if due then do
    let s ← s.refreshPart P
    let s ← s.sunPart
    (foundActions s.env.calendar.minuteOfDay s.strategies s.current).toOption
  else some none

/-- the actions `RelayExecuteTemporaryStrategyGroup` executes, with their numbers -/
def temporaryActions (s : RelayLists) : Option Numbered :=
  if s.temporary.switch.type = 3 then do
    let p ← (groupHead s.strategies s.heads (s.temporary.switch.group_id 0)).toOption
    match p with
    | none => some []
    | some a => do
      let nodes ← (do let n ← s.strategies.get a; Dll.toList (s.strategies.live.card + 1) s.strategies n.next).toOption
      some ((nodes.filter fun i => temporaryMinute s.temporary.time = timeAt s.strategies i).flatMap
        fun i => (s.strategies.cell i).val.action.zipIdx)
  else some []

variable {P} {s t : RelayLists} {due : Bool} {now : List UInt8}

/-- the refreshes leave the modules alone -/
theorem refreshPart_modules (h : s.refreshPart P = some t) : t.modules = s.modules := by
  rw [refreshPart] at h
  split_ifs at h with hrefresh
  · obtain ⟨s1, h1, h⟩ := toOption_bind.1 h
    obtain ⟨current, -, h⟩ := Option.bind_eq_some_iff.1 h
    cases h
    rw [reread] at h1
    obtain ⟨strategies, -, h1⟩ := bind_ok_iff.1 h1
    obtain ⟨appointments, -, h1⟩ := bind_ok_iff.1 h1
    obtain ⟨r, -, h1⟩ := bind_ok_iff.1 h1
    obtain ⟨q, -, h1⟩ := bind_ok_iff.1 h1
    cases h1
    rfl
  · cases h
    rfl

theorem sunPart_modules (h : s.sunPart = some t) : t.modules = s.modules := by
  rw [sunPart] at h
  split_ifs at h with hc
  · obtain ⟨a, -, h⟩ := Option.bind_eq_some_iff.1 h
    obtain ⟨n, -, h⟩ := toOption_bind.1 h
    obtain ⟨strategies, -, h⟩ := toOption_bind.1 h
    cases h
    rfl
  · cases h
    rfl

/-- a call of `RelayExecuteStrategyGroup`: the actions are scheduled, then the tasks are given -/
theorem executeStrategyGroup_modules (h : s.relayExecuteStrategyGroup P due now = some t) :
    ∃ scheduled, s.scheduledActions P due = some scheduled ∧ t.modules =
      updateRelayState now (scheduledModules s.modules scheduled).1 (scheduledModules s.modules scheduled).2 := by
  rw [relayExecuteStrategyGroup] at h
  split_ifs at h with hdue
  · obtain ⟨s1, h1, h⟩ := Option.bind_eq_some_iff.1 h
    obtain ⟨s2, h2, h⟩ := Option.bind_eq_some_iff.1 h
    obtain ⟨ms, hms, rfl⟩ := Option.map_eq_some_iff.1 h
    have hmodules : s2.modules = s.modules := (sunPart_modules h2).trans (refreshPart_modules h1)
    rw [executeStrategies_eq, hmodules] at hms
    cases hfound : foundActions s2.env.calendar.minuteOfDay s2.strategies s2.current with
    | error e =>
      rw [hfound] at hms
      cases hms
    | ok scheduled =>
      rw [hfound] at hms
      refine ⟨scheduled, ?_, (Option.some.inj hms).symm⟩
      rw [scheduledActions, if_pos hdue, h1]
      change (s1.sunPart >>= _) = _
      rw [h2]
      change (foundActions _ _ _).toOption = _
      rw [hfound]
      rfl
  · cases h
    exact ⟨none, by rw [scheduledActions, if_neg hdue], rfl⟩

/-- a call of `RelayExecuteTemporaryStrategyGroup`: one action after another -/
theorem executeTemporary_modules (h : s.relayExecuteTemporaryStrategyGroup now = some t) :
    ∃ es, s.temporaryActions = some es ∧ t.modules = es.foldl (temporaryAction now) s.modules := by
  rw [relayExecuteTemporaryStrategyGroup] at h
  rw [temporaryActions]
  split_ifs at h ⊢ with htype
  · obtain ⟨p, hp, h⟩ := toOption_bind.1 h
    rw [hp]
    cases p with
    | none =>
      cases h
      exact ⟨[], rfl, rfl⟩
    | some a =>
      obtain ⟨nodes, hnodes, h⟩ := toOption_bind.1 h
      cases h
      refine ⟨_, toOption_bind.2 ⟨some a, rfl, toOption_bind.2 ⟨nodes, hnodes, rfl⟩⟩, ?_⟩
      rw [List.foldl_flatMap]
      rfl
  · cases h
    exact ⟨[], rfl, rfl⟩

/-- **The frame of an update.** A call of `RelayExecuteStrategyGroup` gives exactly the modules whose tasks differ their
tasks, each with its own time, exactly if each of them is module `j` or has that time already, and module `j` is one of
them or has it too, where `j` is what the scheduling of the actions leaves; a call of
`RelayExecuteTemporaryStrategyGroup` marks exactly the modules it commands exactly if the numbers of the actions are
those of the modules, or these are marked already. -/
theorem updateFrame_iff {s' t' : RelayLists} (h : s.relayExecuteStrategyGroup P due now = some t)
    (h' : s'.relayExecuteTemporaryStrategyGroup now = some t') :
    (∃ scheduled, s.scheduledActions P due = some scheduled ∧
      (GivesTasks now (scheduledModules s.modules scheduled).1 t.modules ↔
        (∀ i, Differs (scheduledModules s.modules scheduled).1 i → i = (scheduledModules s.modules scheduled).2 ∨
          (s.modules.state i).control_time = now) ∧
        ((∃ i, Differs (scheduledModules s.modules scheduled).1 i) →
          Differs (scheduledModules s.modules scheduled).1 (scheduledModules s.modules scheduled).2 ∨
            (s.modules.state (scheduledModules s.modules scheduled).2).control_time = now))) ∧
    ∃ es, s'.temporaryActions = some es ∧ (TemporaryFrame s'.modules es t'.modules ↔
      ∀ k, (Commanded s'.modules es k ↔ NumberOf s'.modules es k) ∨ (s'.modules.state k).controller = 3) := by
  obtain ⟨scheduled, hscheduled, hmodules⟩ := executeStrategyGroup_modules h
  obtain ⟨es, hes, hmodules'⟩ := executeTemporary_modules h'
  refine ⟨⟨scheduled, hscheduled, ?_⟩, es, hes, ?_⟩
  · have htime : Keeps RelayModuleState.control_time s.modules (scheduledModules s.modules scheduled).1 :=
      scheduledModules_keep (fun _ _ _ => rfl) s.modules scheduled
    have hiff := givesTasks_iff now (scheduledModules s.modules scheduled).1 (scheduledModules s.modules scheduled).2
    simp only [htime _] at hiff
    rwa [hmodules]
  · rw [hmodules']
    exact temporaryFrame_iff now s'.modules es

end RelayLists

/-! ## One built-in module -/

open RelayLists (boot toNoGroup dark platform)

/-- the built-in relays, with two loops -/
def oneModule : RelayModules := ⟨1, one_fits, fun _ => ⟨2, 3⟩, fun _ => clearedState 0 0 ⟨2, 3⟩⟩

/-- two strategies at 10:00, and a temporary switch to their group at 10:00 -/
def withTwoAtTen : RelayLists :=
  { boot ⟨[], RelayLists.no_strategies, [], RelayLists.no_appointments⟩ toNoGroup dark oneModule with
    strategies := twoAtTen
    heads := some 0 :: List.replicate 9 none
    current := some 0
    refresh := 0
    temporary := ⟨⟨1, fun _ => 1, 3⟩, [0x32, 0x36, 0x30, 0x31, 0x30, 0x31, 0x30, 0x30, 0x31, 0x30, 0x30, 0x30]⟩ }

/-- a time -/
def noon : List UInt8 := List.replicate 14 0x31

/-- the action of the second strategy -/
def switchOff : RelayTaskAction := ⟨0, 0, 1, 0⟩

/-- the modules after a call of `RelayExecuteStrategyGroup` -/
theorem scheduled_switchOff : withTwoAtTen.scheduledActions platform true = some (some [switchOff]) ∧
    withTwoAtTen.relayExecuteStrategyGroup platform true noon =
      some { withTwoAtTen with modules := updateRelayState noon (scheduledModules oneModule (some [switchOff])).1 2 } :=
  ⟨rfl, rfl⟩

theorem differs_switchOff : Differs (scheduledModules oneModule (some [switchOff])).1 0 := by decide

/-- module 2 of one gets the time of module 0 -/
theorem updateFrame_stampLost : ∃ t, withTwoAtTen.relayExecuteStrategyGroup platform true noon = some t ∧
    withTwoAtTen.scheduledActions platform true = some (some [switchOff]) ∧
    ¬ GivesTasks noon (scheduledModules oneModule (some [switchOff])).1 t.modules := by
  refine ⟨_, scheduled_switchOff.2, scheduled_switchOff.1, fun h => ?_⟩
  have htime := congrArg RelayModuleState.control_time (h 0)
  rw [if_pos differs_switchOff] at htime
  exact absurd htime (by decide)

/-- the same by the theorem, and a temporary switch that marks the right module -/
theorem updateFrame_atTen : ∃ t es t', withTwoAtTen.relayExecuteStrategyGroup platform true noon = some t ∧
    ¬ GivesTasks noon (scheduledModules oneModule (some [switchOff])).1 t.modules ∧
    withTwoAtTen.relayExecuteTemporaryStrategyGroup noon = some t' ∧ TemporaryFrame oneModule es t'.modules := by
  have htemporary : ∃ t', withTwoAtTen.relayExecuteTemporaryStrategyGroup noon = some t' := ⟨_, rfl⟩
  obtain ⟨t', ht'⟩ := htemporary
  obtain ⟨⟨scheduled, hscheduled, hgives⟩, es, hes, hmarks⟩ :=
    RelayLists.updateFrame_iff scheduled_switchOff.2 ht'
  obtain rfl := Option.some.inj (hscheduled.symm.trans scheduled_switchOff.1)
  have hactions : withTwoAtTen.temporaryActions = some [(⟨0, 0, 1, 1⟩, 0), (switchOff, 0)] := rfl
  obtain rfl := Option.some.inj (hes.symm.trans hactions)
  refine ⟨_, _, t', scheduled_switchOff.2, fun h => ?_, ht', hmarks.2 fun k => .inl ?_⟩
  · rcases (hgives.1 h).1 0 differs_switchOff with heq | heq
    · exact absurd heq (by decide)
    · exact absurd heq (by decide)
  · have hfound : ∀ e ∈ [((⟨0, 0, 1, 1⟩ : RelayTaskAction), 0), (switchOff, 0)],
        findModule withTwoAtTen.modules e.1 = some 0 ∧ e.2 = 0 := by decide
    constructor
    · rintro ⟨e, he, hk⟩
      obtain ⟨hzero, hnumber⟩ := hfound e he
      rw [hzero] at hk
      exact ⟨e, he, by rw [hzero]; rfl, by rw [hnumber, ← Option.some.inj hk]⟩
    · rintro ⟨e, he, -, hk⟩
      obtain ⟨hzero, hnumber⟩ := hfound e he
      exact ⟨e, he, by rw [hzero, ← hk, hnumber]⟩

end DataConcentrator.Relay
