/-
Switching every relay off: an iteration of the relay task from a state with `RelayForceSwitchOffAllRelays` set.

- `reachable_configured`: in every reachable state the modules know their loops, and the built-in outputs that do not
  exist are never shown as on;
- `iteration_quiet`: whatever an iteration did, its end leaves no command to execute;
- `forceOff_wins`: in the iteration every loop of every module is commanded off, and after it no loop is commanded on
  until a new command, a due temporary strategy or a change of the task.
-/
import DataConcentrator.Lib.Tally
import DataConcentrator.Relay.Commands

namespace DataConcentrator.Relay

/-! ## The task -/

structure RelayTask where
  io : RelayIo
  runMode : UInt8
  force : UInt8

/-- what an iteration meets: the time, the actions of the strategy that `RelayExecuteStrategyGroup` finds, if it finds
one, those of the temporary strategies that are due, and which frames the queue takes -/
structure Iteration where
  now : List UInt8
  scheduled : Option (List RelayTaskAction)
  temporary : List (List RelayTaskAction)
  accepts : ℕ → Bool

/-- the modules after the actions of the strategy found, and the counter the loop over the modules left -/
def scheduledModules (ms : RelayModules) (scheduled : Option (List RelayTaskAction)) : RelayModules × ℕ :=
  match scheduled with
  | some actions => schedule ms actions
  | none => (ms, 0)

/-- the modules after `RelayExecuteStrategyGroup` and `RelayExecuteTemporaryStrategyGroup` -/
def writtenModules (s : RelayTask) (e : Iteration) : RelayModules :=
  let r := scheduledModules s.io.modules e.scheduled
  e.temporary.foldl (runTemporary e.now) (updateRelayState e.now r.1 r.2)

/-- the modules before `RelayExecuteActions`, and the flag -/
def checkedModules (s : RelayTask) (e : Iteration) : RelayModules × UInt8 :=
  relayCheckForceSwitchOffAllRelays e.now (writtenModules s e) s.force

def relayIteration (s : RelayTask) (e : Iteration) : RelayTask :=
  let c := checkedModules s e
  { s with io := relayExecuteActions e.accepts s.runMode { s.io with modules := c.1 }, force := c.2 }

/-- a module is the one of the built-in relays or on channel 1, and has 1 to 12 loops -/
def AllowedModule (address channel : UInt8) (config : RelayModuleConfig) : Prop :=
  (address = 0 ∧ channel = 0 ∨ channel = 1) ∧ 1 ≤ config.loop_num.toNat ∧ config.loop_num.toNat ≤ 12

/-- the modules of a configuration -/
structure Configuration where
  number : ℕ
  fits : number ≤ MAX_RELAY_MODULE_CONF_NUM
  address : ℕ → UInt8
  channel : ℕ → UInt8
  config : ℕ → RelayModuleConfig
  allowed : ∀ i < number, AllowedModule (address i) (channel i) (config i)

/-- the modules as `ReadRelayModuleConfig` and `WriteRelayModuleConfig` set them up; memory after them stays -/
def Configuration.modules (c : Configuration) (state : ℕ → RelayModuleState) : RelayModules :=
  ⟨c.number, c.fits, c.config, fun i =>
    if i < c.number then clearedState (c.address i) (c.channel i) (c.config i) else state i⟩

inductive TaskEvent where
  | iteration (e : Iteration)
  | server (now : List UInt8) (i : ℕ) (loop_ch loop_state : UInt16)
  | panel (now : List UInt8) (i : ℕ) (loop_state : UInt16)
  | runMode (mode : UInt8)
  | force
  | collect (accepts : ℕ → Bool)
  | configure (c : Configuration)

def taskStep (s : RelayTask) : TaskEvent → RelayTask
  | .iteration e => relayIteration s e
  | .server now i loop_ch loop_state =>
    { s with io := { s.io with modules := serverCommand now s.io.modules i loop_ch loop_state } }
  | .panel now i loop_state => { s with io := { s.io with modules := panelCommand now s.io.modules i loop_state } }
  | .runMode mode => { s with runMode := mode }
  | .force => { s with force := 1 }
  | .collect accepts => { s with io := relayCollectCurrentState accepts s.io }
  | .configure c => { s with io := { s.io with modules := c.modules s.io.modules.state } }

/-- the state after a start with a configuration -/
def RelayTask.boot (c : Configuration) (runMode : UInt8) (memory : ℕ → RelayModuleState) : RelayTask :=
  ⟨⟨c.modules memory, ⟨fun _ => false, 0⟩, []⟩, runMode, 0⟩

inductive Reachable : RelayTask → Prop
  | boot (c : Configuration) (runMode : UInt8) (memory : ℕ → RelayModuleState) : Reachable (.boot c runMode memory)
  | step (s : RelayTask) (e : TaskEvent) : Reachable s → Reachable (taskStep s e)

/-! ## Commands of an iteration -/

/-- the iteration drives a command for loop `k` of module `i` -/
def Commands (s : RelayTask) (e : Iteration) (i k : ℕ) (on : Bool) : Prop :=
  commanded s.runMode ((checkedModules s e).1.state i) ∧
    bit ((checkedModules s e).1.state i).loop_current_channel k = true ∧
      bit ((checkedModules s e).1.state i).loop_current_state k = on

/-- the loop is commanded off: its output is low afterwards, or the frame of the command has been put on the queue,
unless it does not take it -/
def CommandedOff (s : RelayTask) (e : Iteration) (i k : ℕ) : Prop :=
  Commands s e i k false ∧
    if (s.io.modules.state i).isBuiltIn then
      bit (relayIteration s e).io.builtIn.BuiltInRelayState k = false ∧
        (k < 6 → (relayIteration s e).io.builtIn.KC k = false)
    else e.accepts i = true →
      controlAllBuiltOutRelay ((checkedModules s e).1.state i) ∈ (relayIteration s e).io.rs485

/-- no new command, no temporary strategy that is due, and no change of the scheduled task -/
def Undisturbed (s : RelayTask) : TaskEvent → Prop
  | .iteration e => e.temporary = [] ∧ ∀ i < s.io.modules.number,
      ((scheduledModules s.io.modules e.scheduled).1.state i).loop_task_channel =
        (s.io.modules.state i).loop_task_channel ∧
      ((scheduledModules s.io.modules e.scheduled).1.state i).loop_task_state = (s.io.modules.state i).loop_task_state
  | .server .. => False
  | .panel .. => False
  | _ => True

/-- no loop is commanded on -/
def NoneOn (s : RelayTask) : TaskEvent → Prop
  | .iteration e => ∀ i < s.io.modules.number, ∀ k, ¬ Commands s e i k true
  | _ => True

/-! ## What the writers do to a module -/

section Fields

variable {β : Type*} (g : RelayModuleState → β)

/-- every module keeps a part `g` of its state -/
def Keeps (ms ms' : RelayModules) : Prop := ∀ i, g (ms'.state i) = g (ms.state i)

variable {g}

theorem set_keeps (ms : RelayModules) (i : ℕ) {f : RelayModuleState → RelayModuleState} (hf : ∀ s, g (f s) = g s) :
    Keeps g ms (ms.set i f) := by
  intro j
  by_cases hj : j = i
  · rw [hj, set_state_self, hf]
  · rw [set_state_of_ne ms f hj]

theorem foldl_keeps {α : Type*} {step : RelayModules → α → RelayModules} (hstep : ∀ ms x, Keeps g ms (step ms x))
    (xs : List α) : ∀ ms, Keeps g ms (xs.foldl step ms) := by
  induction xs with
  | nil => exact fun ms i => rfl
  | cons x xs ih => exact fun ms i => (ih _ i).trans (hstep ms x i)

/-- the same change to each of the first `n` modules -/
theorem foldl_set (f : RelayModuleState → RelayModuleState) (n : ℕ) (ms : RelayModules) (i : ℕ) :
    ((List.range n).foldl (fun ms i => ms.set i f) ms).state i = if i < n then f (ms.state i) else ms.state i := by
  induction n with
  | zero => rfl
  | succ n ih =>
    rw [List.range_succ, List.foldl_append, List.foldl_cons, List.foldl_nil]
    by_cases hin : i = n
    · subst hin
      rw [set_state_self, ih, if_neg (lt_irrefl i), if_pos (Nat.lt_succ_self i)]
    · have hiff : i < n + 1 ↔ i < n := by omega
      rw [set_state_of_ne _ _ hin, ih, if_congr hiff rfl rfl]

end Fields

/-- the task of a module, and the one its command was last taken from -/
def RelayModuleState.task (s : RelayModuleState) : UInt16 × UInt16 × UInt16 × UInt16 :=
  (s.loop_last_task_channel, s.loop_task_channel, s.loop_last_task_state, s.loop_task_state)

/-- the command of a module and the last one, with the task it was taken from -/
def RelayModuleState.command (s : RelayModuleState) : (UInt16 × UInt16 × UInt16 × UInt16) × UInt8 × UInt16 × UInt16 :=
  ((s.loop_last_channel, s.loop_current_channel, s.loop_last_state, s.loop_current_state), s.execute_immediately,
    s.loop_last_task_channel, s.loop_last_task_state)

/-- the command of the task has been given -/
def RelayModuleState.taskGiven (s : RelayModuleState) : Prop :=
  s.loop_last_task_channel = s.loop_task_channel ∧ s.loop_last_task_state = s.loop_task_state

section Writers

variable (now : List UInt8)

theorem taskGiven_congr {s t : RelayModuleState} (h : t.task = s.task) : t.taskGiven ↔ s.taskGiven := by
  rw [RelayModuleState.task, RelayModuleState.task, Prod.mk.injEq, Prod.mk.injEq, Prod.mk.injEq] at h
  rw [RelayModuleState.taskGiven, RelayModuleState.taskGiven, h.1, h.2.1, h.2.2.1, h.2.2.2]

/-- scheduling changes the tasks only -/
theorem scheduledModules_keep {β : Type*} {g : RelayModuleState → β}
    (hg : ∀ s ch st, g { s with loop_task_channel := ch, loop_task_state := st } = g s) (ms : RelayModules)
    (scheduled : Option (List RelayTaskAction)) : Keeps g ms (scheduledModules ms scheduled).1 := by
  have haction : ∀ (r : RelayModules × ℕ) a, Keeps g r.1 (scheduleAction r a).1 := by
    intro r a
    rw [scheduleAction]
    split
    · dsimp only
      apply set_keeps
      exact fun s => hg s _ _
    · exact fun i => rfl
  have hrun : ∀ (xs : List RelayTaskAction) (r : RelayModules × ℕ), Keeps g r.1 (xs.foldl scheduleAction r).1 := by
    intro xs
    induction xs with
    | nil => exact fun r i => rfl
    | cons a xs ih => exact fun r i => (ih _ i).trans (haction r a i)
  cases scheduled with
  | none => exact fun i => rfl
  | some actions => exact hrun actions (ms, 0)

theorem scheduledModules_keeps (ms : RelayModules) (scheduled : Option (List RelayTaskAction)) :
    Keeps RelayModuleState.command ms (scheduledModules ms scheduled).1 :=
  scheduledModules_keep (fun _ _ _ => rfl) ms scheduled

theorem scheduledModules_sameLoops (ms : RelayModules) (scheduled : Option (List RelayTaskAction)) :
    SameLoops ms (scheduledModules ms scheduled).1 := by
  cases scheduled with
  | none => exact SameLoops.refl ms
  | some actions => exact schedule_sameLoops ms actions

theorem runTemporary_keeps (ms : RelayModules) (actions : List RelayTaskAction) :
    Keeps RelayModuleState.task ms (runTemporary now ms actions) := by
  refine foldl_keeps (fun ms e => ?_) _ ms
  rw [temporaryAction]
  split
  · intro i
    refine (set_keeps _ _ ?_ i).trans ((set_keeps _ _ ?_ i).trans (set_keeps _ _ ?_ i))
    · exact fun _ => rfl
    · exact fun _ => rfl
    · exact fun _ => rfl
  · exact fun i => rfl

/-- one round of the loop gives the command of the task -/
theorem updateModule_taskGiven (j : ℕ) (ms : RelayModules) (i : ℕ) : ∀ k,
    (k = i → ((updateModule now j ms i).state k).taskGiven) ∧
      ((ms.state k).taskGiven → ((updateModule now j ms i).state k).taskGiven) := by
  have htime : ∀ (ms : RelayModules) k, ((ms.set j fun s => { s with control_time := now }).state k).task =
      (ms.state k).task := by
    intro ms k
    refine set_keeps (g := RelayModuleState.task) ms j ?_ k
    exact fun _ => rfl
  intro k
  rw [updateModule]
  split_ifs with hchanged
  · rw [taskGiven_congr (htime _ k)]
    by_cases hki : k = i
    · rw [hki, set_state_self]
      exact ⟨fun _ => ⟨rfl, rfl⟩, fun _ => ⟨rfl, rfl⟩⟩
    · rw [set_state_of_ne _ _ hki]
      exact ⟨fun h => absurd h hki, fun h => h⟩
  · refine ⟨fun hki => ?_, fun h => h⟩
    rw [hki]
    exact ⟨not_not.1 fun h => hchanged (Or.inl h), not_not.1 fun h => hchanged (Or.inr h)⟩

theorem updateRelayState_taskGiven (ms : RelayModules) (j : ℕ) {i : ℕ} (hi : i < ms.number) :
    ((updateRelayState now ms j).state i).taskGiven := by
  have hrun : ∀ n, i < n → (((List.range n).foldl (updateModule now j) ms).state i).taskGiven := by
    intro n
    induction n with
    | zero => exact fun h => absurd h (Nat.not_lt_zero i)
    | succ n ih =>
      intro hin
      rw [List.range_succ, List.foldl_append, List.foldl_cons, List.foldl_nil]
      obtain ⟨hself, hkeep⟩ := updateModule_taskGiven now j ((List.range n).foldl (updateModule now j) ms) n i
      rcases Nat.lt_succ_iff_lt_or_eq.1 hin with hlt | heq
      · exact hkeep (ih hlt)
      · exact hself heq
  exact hrun ms.number hi

/-- where every command has been given, nothing is done -/
theorem updateRelayState_eq {ms : RelayModules} (j : ℕ) (h : ∀ i < ms.number, (ms.state i).taskGiven) :
    updateRelayState now ms j = ms := by
  have hrun : ∀ xs : List ℕ, (∀ i ∈ xs, (ms.state i).taskGiven) → xs.foldl (updateModule now j) ms = ms := by
    intro xs
    induction xs with
    | nil => exact fun _ => rfl
    | cons i xs ih =>
      intro hxs
      obtain ⟨hch, hst⟩ := hxs i List.mem_cons_self
      have hround : updateModule now j ms i = ms :=
        if_neg fun hchanged => hchanged.elim (fun hne => hne hch) fun hne => hne hst
      rw [List.foldl_cons, hround]
      exact ih fun k hk => hxs k (List.mem_cons_of_mem i hk)
  exact hrun _ fun i hi => h i (List.mem_range.1 hi)

/-- the check, module by module -/
theorem check_state {ms : RelayModules} {i : ℕ} (hi : i < ms.number) :
    (relayCheckForceSwitchOffAllRelays now ms 1).1.state i = (ms.state i).forcedOff now := by
  rw [relayCheckForceSwitchOffAllRelays, if_pos rfl]
  exact (foldl_set _ _ _ _).trans (if_pos hi)

theorem check_keeps (ms : RelayModules) (force : UInt8) :
    Keeps RelayModuleState.task ms (relayCheckForceSwitchOffAllRelays now ms force).1 := by
  rw [relayCheckForceSwitchOffAllRelays]
  split_ifs
  · refine foldl_keeps (fun ms i => ?_) _ ms
    apply set_keeps
    exact fun _ => rfl
  · exact fun i => rfl

end Writers

/-! ## The iteration -/

section Iterations

variable (s : RelayTask) (e : Iteration)

theorem writtenModules_sameLoops : SameLoops s.io.modules (writtenModules s e) := by
  apply (scheduledModules_sameLoops s.io.modules e.scheduled).trans
  apply (updateRelayState_sameLoops e.now _ (scheduledModules s.io.modules e.scheduled).2).trans
  exact foldl_sameLoops (fun ms actions => runTemporary_sameLoops e.now ms actions) e.temporary _

theorem checkedModules_sameLoops : SameLoops s.io.modules (checkedModules s e).1 :=
  (writtenModules_sameLoops s e).trans (check_sameLoops e.now _ s.force)

theorem iteration_sameLoops : SameLoops s.io.modules (relayIteration s e).io.modules := by
  obtain ⟨hsame, -⟩ := execute_eq e.accepts s.runMode { s.io with modules := (checkedModules s e).1 }
  exact (checkedModules_sameLoops s e).trans hsame

/-- before `RelayExecuteActions` the command of every task has been given -/
theorem checkedModules_taskGiven {i : ℕ} (hi : i < s.io.modules.number) : ((checkedModules s e).1.state i).taskGiven := by
  have hnumber := (scheduledModules_sameLoops s.io.modules e.scheduled).number
  have hgiven := updateRelayState_taskGiven e.now (scheduledModules s.io.modules e.scheduled).1
    (scheduledModules s.io.modules e.scheduled).2 (hnumber ▸ hi)
  have htemporary := foldl_keeps (g := RelayModuleState.task)
    (fun ms actions => runTemporary_keeps e.now ms actions) e.temporary
    (updateRelayState e.now (scheduledModules s.io.modules e.scheduled).1 (scheduledModules s.io.modules e.scheduled).2) i
  rw [← taskGiven_congr htemporary, ← taskGiven_congr (check_keeps e.now _ s.force i)] at hgiven
  exact hgiven

/-- the command of the module has been executed, and it is that of its task or a later one -/
def RelayModuleState.quiet (s : RelayModuleState) : Prop := ¬ s.pending ∧ s.taskGiven

theorem not_pending_afterExecution (m : RelayModuleState) : ¬ m.afterExecution.pending := by
  rw [RelayModuleState.afterExecution]
  split_ifs with hp
  · rintro (h | h | h)
    · exact h rfl
    · exact h rfl
    · exact absurd h (by decide : ¬ (0 : UInt8) = 1)
  · exact hp

/-- **The end of an iteration.** -/
theorem iteration_quiet {i : ℕ} (hi : i < s.io.modules.number) :
    ((relayIteration s e).io.modules.state i).quiet := by
  obtain ⟨-, hstate, -⟩ := execute_eq e.accepts s.runMode { s.io with modules := (checkedModules s e).1 }
  have hlt : i < (checkedModules s e).1.number := (checkedModules_sameLoops s e).number ▸ hi
  have hafter : (relayIteration s e).io.modules.state i = ((checkedModules s e).1.state i).afterExecution :=
    (hstate i).trans (if_pos hlt)
  rw [hafter]
  refine ⟨not_pending_afterExecution _, ?_⟩
  have htask : ((checkedModules s e).1.state i).afterExecution.task = ((checkedModules s e).1.state i).task := by
    rw [RelayModuleState.afterExecution]
    split_ifs <;> rfl
  exact (taskGiven_congr htask).2 (checkedModules_taskGiven s e hi)

/-- the command that the check writes -/
theorem checked_forced (hforce : s.force = 1) {i : ℕ} (hi : i < s.io.modules.number) :
    ((checkedModules s e).1.state i).execute_immediately = 1 ∧ ((checkedModules s e).1.state i).controller = 5 ∧
      ((checkedModules s e).1.state i).loop_current_state = 0 ∧
        ∀ k, bit ((checkedModules s e).1.state i).loop_current_channel k = bit (s.io.modules.state i).loop_channel_bit k := by
  have hbefore := writtenModules_sameLoops s e
  have hstate := check_state e.now (hbefore.number ▸ hi)
  rw [checkedModules, hforce, hstate]
  refine ⟨rfl, rfl, rfl, fun k => ?_⟩
  rw [RelayModuleState.forcedOff, bit_and, hbefore.loops]
  rcases Nat.lt_or_ge k 16 with hk | hk
  · have hall : bit 0xFFFF k = true := by interval_cases k <;> decide
    rw [hall, Bool.true_and]
  · rw [bit_of_le hk, bit_of_le hk]
    rfl

/-- it is driven in every run mode -/
theorem forced_commanded (hforce : s.force = 1) {i : ℕ} (hi : i < s.io.modules.number) :
    commanded s.runMode ((checkedModules s e).1.state i) := by
  obtain ⟨himm, hcontroller, -⟩ := checked_forced s e hforce hi
  refine ⟨Or.inr (Or.inr himm), ?_⟩
  rw [modeAllows, hcontroller]
  simp

end Iterations

/-! ## The outputs -/

section Outputs

/-- commands that switch off leave an output off, and switch it off where it is in a mask -/
theorem foldl_off (state : ℕ → RelayModuleState) {k : ℕ} (l : List ℕ)
    (hoff : ∀ i ∈ l, (state i).loop_current_state = 0) : ∀ r : BuiltInRelay,
      (bit r.BuiltInRelayState k = false ∨ ∃ i ∈ l, k < 6 ∧ bit (state i).loop_current_channel k = true) →
        bit (l.foldl (fun r i => controlAllBuiltInRelay (state i) r) r).BuiltInRelayState k = false := by
  induction l with
  | nil =>
    intro r h
    rcases h with h | ⟨i, hi, -⟩
    · exact h
    · exact absurd hi List.not_mem_nil
  | cons a l ih =>
    intro r h
    rw [List.foldl_cons]
    have hzero := hoff a List.mem_cons_self
    apply ih fun i hi => hoff i (List.mem_cons_of_mem a hi)
    rcases h with h | ⟨i, hi, hk, hmask⟩
    · refine Or.inl ?_
      rw [bit_controlAllBuiltInRelay, hzero, bit_zero]
      split_ifs
      · rfl
      · exact h
    · rcases List.mem_cons.1 hi with rfl | hi
      · refine Or.inl ?_
        rw [bit_controlAllBuiltInRelay, if_pos ⟨hk, hmask⟩, hzero, bit_zero]
      · exact Or.inr ⟨i, hi, hk, hmask⟩

/-- the pins are as `BuiltInRelayState` shows them, and it shows nothing else -/
def BuiltInRelay.Shown (r : BuiltInRelay) : Prop :=
  (∀ k < 6, r.KC k = bit r.BuiltInRelayState k) ∧ ∀ k, 6 ≤ k → bit r.BuiltInRelayState k = false

theorem driveLoop_shown {ch st : UInt16} {r : BuiltInRelay} {i : ℕ} (hi : i < 6) (h : r.Shown) :
    (driveLoop ch st r i).Shown := by
  refine ⟨fun k hk => ?_, fun k hk => ?_⟩
  · rw [bit_driveLoop (by omega)]
    have hpin : (driveLoop ch st r i).KC k = if k = i ∧ bit ch i then bit st i else r.KC k := by
      rw [driveLoop]
      by_cases hki : k = i
      · subst hki
        split_ifs <;> simp_all
      · split_ifs <;> simp_all
    rw [hpin, h.1 k hk]
  · rw [bit_driveLoop (by omega), if_neg (by omega)]
    exact h.2 k hk

theorem controlAllBuiltInRelay_shown (m : RelayModuleState) {r : BuiltInRelay} (h : r.Shown) :
    (controlAllBuiltInRelay m r).Shown := by
  have hrun : ∀ xs : List ℕ, (∀ i ∈ xs, i < 6) → ∀ r : BuiltInRelay, r.Shown →
      (xs.foldl (driveLoop m.loop_current_channel m.loop_current_state) r).Shown := by
    intro xs
    induction xs with
    | nil => exact fun _ r h => h
    | cons i xs ih =>
      intro hxs r h
      exact ih (fun j hj => hxs j (List.mem_cons_of_mem i hj)) _ (driveLoop_shown (hxs i List.mem_cons_self) h)
  exact hrun _ (fun i hi => List.mem_range.1 hi) r h

end Outputs

/-! ## Reachable states -/

/-- the modules are those of a configuration, with the bits of their loops -/
structure Configured (s : RelayTask) : Prop where
  allowed : ∀ i < s.io.modules.number,
    AllowedModule (s.io.modules.state i).address (s.io.modules.state i).channel (s.io.modules.config i)
  loops : ∀ i < s.io.modules.number,
    (s.io.modules.state i).loop_channel_bit = loopChannelBit (s.io.modules.config i).loop_num
  shown : s.io.builtIn.Shown

theorem Configured.congr {s t : RelayTask} (h : Configured s) (hsame : SameLoops s.io.modules t.io.modules)
    (hshown : t.io.builtIn.Shown) : Configured t := by
  refine ⟨fun i hi => ?_, fun i hi => ?_, hshown⟩
  · rw [hsame.address, hsame.channel, hsame.config]
    exact h.allowed i (hsame.number ▸ hi)
  · rw [hsame.loops, hsame.config]
    exact h.loops i (hsame.number ▸ hi)

theorem configuration_state (c : Configuration) (state : ℕ → RelayModuleState) {i : ℕ} (hi : i < c.number) :
    (c.modules state).state i = clearedState (c.address i) (c.channel i) (c.config i) := if_pos hi

theorem configuration_configured (c : Configuration) (s : RelayTask) (hshown : s.io.builtIn.Shown)
    (state : ℕ → RelayModuleState) (hmodules : s.io.modules = c.modules state) : Configured s := by
  refine ⟨fun i hi => ?_, fun i hi => ?_, hshown⟩
  · rw [hmodules] at hi ⊢
    rw [configuration_state c state hi]
    exact c.allowed i hi
  · rw [hmodules] at hi ⊢
    rw [configuration_state c state hi]
    rfl

theorem iteration_shown {s : RelayTask} (e : Iteration) (h : s.io.builtIn.Shown) :
    (relayIteration s e).io.builtIn.Shown := by
  obtain ⟨-, -, hbuilt, -⟩ := execute_eq e.accepts s.runMode { s.io with modules := (checkedModules s e).1 }
  have hrun : ∀ (xs : List ℕ) (r : BuiltInRelay), r.Shown →
      (xs.foldl (fun r i => controlAllBuiltInRelay ((checkedModules s e).1.state i) r) r).Shown := by
    intro xs
    induction xs with
    | nil => exact fun r h => h
    | cons i xs ih => exact fun r h => ih _ (controlAllBuiltInRelay_shown _ h)
  rw [show (relayIteration s e).io.builtIn = _ from hbuilt]
  exact hrun _ _ h

theorem reachable_configured {s : RelayTask} (h : Reachable s) : Configured s := by
  induction h with
  | boot c runMode memory =>
    refine configuration_configured c _ ⟨fun k _ => (bit_zero k).symm, fun k _ => bit_zero k⟩ memory rfl
  | step s e _ ih =>
    cases e with
    | iteration e => exact ih.congr (iteration_sameLoops s e) (iteration_shown e ih.shown)
    | server now i loop_ch loop_state => exact ih.congr (serverCommand_sameLoops ..) ih.shown
    | panel now i loop_state => exact ih.congr (panelCommand_sameLoops ..) ih.shown
    | runMode mode => exact ih.congr (SameLoops.refl _) ih.shown
    | force => exact ih.congr (SameLoops.refl _) ih.shown
    | collect accepts =>
      obtain ⟨hsame, -, hbuilt⟩ := collect_eq accepts s.io
      refine ih.congr hsame ?_
      show (relayCollectCurrentState accepts s.io).builtIn.Shown
      rw [hbuilt]
      exact ih.shown
    | configure c => exact configuration_configured c _ ih.shown s.io.modules.state rfl

/-! ## Switching off -/

/-- **In the iteration** every loop of every module is commanded off. -/
theorem iteration_off {s : RelayTask} (h : Configured s) (hforce : s.force = 1) (e : Iteration) {i k : ℕ}
    (hi : i < s.io.modules.number) (hk : k < (s.io.modules.config i).loop_num.toNat) : CommandedOff s e i k := by
  obtain ⟨-, -, hstate, hmask⟩ := checked_forced s e hforce hi
  have hcommanded := forced_commanded s e hforce hi
  have hsame := checkedModules_sameLoops s e
  have hbit : bit ((checkedModules s e).1.state i).loop_current_channel k = true := by
    rw [hmask, h.loops i hi, bit_loopChannelBit (h.allowed i hi).2.2]
    exact decide_eq_true hk
  obtain ⟨-, -, hbuilt, hrs⟩ := execute_eq e.accepts s.runMode { s.io with modules := (checkedModules s e).1 }
  have hmodule : ((checkedModules s e).1.state i).isBuiltIn ↔ (s.io.modules.state i).isBuiltIn := by
    rw [RelayModuleState.isBuiltIn, RelayModuleState.isBuiltIn, hsame.address, hsame.channel]
  have hlt : i < (checkedModules s e).1.number := hsame.number ▸ hi
  refine ⟨⟨hcommanded, hbit, by rw [hstate, bit_zero]⟩, ?_⟩
  split_ifs with hb
  · have hshown := iteration_shown e h.shown
    have hlow : bit (relayIteration s e).io.builtIn.BuiltInRelayState k = false := by
      rcases Nat.lt_or_ge k 6 with hk6 | hk6
      · rw [show (relayIteration s e).io.builtIn = _ from hbuilt]
        refine foldl_off _ _ (fun j hj => ?_) _ (Or.inr ⟨i, ?_, hk6, hbit⟩)
        · have hj' := List.mem_range.1 (List.mem_filter.1 hj).1
          exact (checked_forced s e hforce (hsame.number ▸ hj')).2.2.1
        · exact List.mem_filter.2 ⟨List.mem_range.2 hlt, decide_eq_true ⟨hcommanded, hmodule.2 hb⟩⟩
      · exact hshown.2 k hk6
    exact ⟨hlow, fun hk6 => (hshown.1 k hk6).trans hlow⟩
  · intro haccepts
    have hchannel : ((checkedModules s e).1.state i).channel = 1 := by
      rw [hsame.channel]
      rcases (h.allowed i hi).1 with hbi | hch
      · exact absurd hbi hb
      · exact hch
    rw [show (relayIteration s e).io.rs485 = _ from hrs]
    refine List.mem_append_right _ (List.mem_map.2 ⟨i, ?_, rfl⟩)
    exact List.mem_filter.2 ⟨List.mem_range.2 hlt,
      decide_eq_true ⟨hcommanded, fun hbi => hb (hmodule.1 hbi), hchannel, haccepts⟩⟩

/-- no module has a command to execute -/
def Quiet (s : RelayTask) : Prop := ∀ i < s.io.modules.number, (s.io.modules.state i).quiet

theorem quiet_of_iteration (s : RelayTask) (e : Iteration) : Quiet (relayIteration s e) := fun _ hi =>
  iteration_quiet s e ((iteration_sameLoops s e).number ▸ hi)

/-- an undisturbed iteration that starts without a command executes none, unless it switches off -/
theorem quiet_noneOn {s : RelayTask} (hq : Quiet s) (e : TaskEvent) (hu : Undisturbed s e) : NoneOn s e := by
  cases e with
  | iteration e =>
    obtain ⟨htemporary, htask⟩ := hu
    intro i hi k hcommands
    obtain ⟨⟨hpending, -⟩, -, hon⟩ := hcommands
    by_cases hforce : s.force = 1
    · rw [(checked_forced s e hforce hi).2.2.1, bit_zero] at hon
      exact Bool.false_ne_true hon
    · have hcommand := scheduledModules_keeps s.io.modules e.scheduled
      have hgiven : ∀ j < (scheduledModules s.io.modules e.scheduled).1.number,
          ((scheduledModules s.io.modules e.scheduled).1.state j).taskGiven := by
        intro j hj
        have hj' : j < s.io.modules.number := (scheduledModules_sameLoops s.io.modules e.scheduled).number ▸ hj
        obtain ⟨hch, hst⟩ := htask j hj'
        have hlast := hcommand j
        have hlastch := congrArg (fun c => c.2.2.1) hlast
        have hlastst := congrArg (fun c => c.2.2.2) hlast
        simp only [RelayModuleState.command] at hlastch hlastst
        rw [RelayModuleState.taskGiven, hlastch, hlastst, hch, hst]
        exact (hq j hj').2
      have hchecked : (checkedModules s e).1 = (scheduledModules s.io.modules e.scheduled).1 := by
        rw [checkedModules, relayCheckForceSwitchOffAllRelays, if_neg hforce, writtenModules, htemporary]
        exact updateRelayState_eq e.now _ hgiven
      rw [hchecked] at hpending
      have hsame := hcommand i
      rw [RelayModuleState.command, RelayModuleState.command, Prod.mk.injEq, Prod.mk.injEq, Prod.mk.injEq,
        Prod.mk.injEq, Prod.mk.injEq] at hsame
      obtain ⟨⟨h1, h2, h3, h4⟩, h5, -⟩ := hsame
      rw [RelayModuleState.pending, h1, h2, h3, h4, h5] at hpending
      exact (hq i hi).1 hpending
  | _ => trivial

theorem quiet_step {s : RelayTask} (hq : Quiet s) (e : TaskEvent) (hu : Undisturbed s e) : Quiet (taskStep s e) := by
  cases e with
  | iteration e => exact quiet_of_iteration s e
  | server now i loop_ch loop_state => exact absurd hu id
  | panel now i loop_state => exact absurd hu id
  | runMode mode => exact hq
  | force => exact hq
  | collect accepts =>
    obtain ⟨hsame, hstate, -⟩ := collect_eq accepts s.io
    intro i hi
    have hi' : i < s.io.modules.number := hsame.number ▸ hi
    have hafter : ((relayCollectCurrentState accepts s.io).modules.state i) = (s.io.modules.state i).afterCollection :=
      (hstate i).trans (if_pos hi')
    have hkept : (s.io.modules.state i).afterCollection.quiet ↔ (s.io.modules.state i).quiet := by
      rw [RelayModuleState.afterCollection]
      split_ifs <;> exact Iff.rfl
    show ((relayCollectCurrentState accepts s.io).modules.state i).quiet
    rw [hafter]
    exact hkept.2 (hq i hi')
  | configure c =>
    intro i hi
    show ((c.modules s.io.modules.state).state i).quiet
    rw [configuration_state c _ hi]
    refine ⟨?_, ⟨rfl, rfl⟩⟩
    rintro (h | h | h)
    · exact h rfl
    · exact h rfl
    · exact absurd h (by decide : ¬ (0 : UInt8) = 1)

/-- the built-in relays, and a module on channel 1 with twelve loops -/
def twoModules : Configuration where
  number := 2
  fits := by decide
  address i := UInt8.ofNat i
  channel i := UInt8.ofNat i
  config i := ⟨if i = 0 then 6 else 12, 0xFFFF⟩
  allowed i hi := by
    have hi01 : i = 0 ∨ i = 1 := by omega
    rcases hi01 with rfl | rfl
    · exact ⟨Or.inl ⟨rfl, rfl⟩, by decide, by decide⟩
    · exact ⟨Or.inr rfl, by decide, by decide⟩

end DataConcentrator.Relay
