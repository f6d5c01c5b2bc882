/-
What the writers of commands leave alone, and what driving and collecting do to every module at once.

- `SameLoops`: the modules keep their addresses, channels and loops;
- `execute_eq`: each pending command is taken, and those the run mode lets through are driven, in the order of the
  modules;
- `collect_eq`: the built-in module reports its command.
-/
import DataConcentrator.Relay.Module

namespace DataConcentrator.Relay

/-! ## Modules that keep their loops -/

/-- the same modules, whatever their commands -/
structure SameLoops (ms ms' : RelayModules) : Prop where
  number : ms'.number = ms.number
  config : ms'.config = ms.config
  address : ∀ i, (ms'.state i).address = (ms.state i).address
  channel : ∀ i, (ms'.state i).channel = (ms.state i).channel
  loops : ∀ i, (ms'.state i).loop_channel_bit = (ms.state i).loop_channel_bit

theorem SameLoops.refl (ms : RelayModules) : SameLoops ms ms := ⟨rfl, rfl, fun _ => rfl, fun _ => rfl, fun _ => rfl⟩

theorem SameLoops.trans {ms ms' ms'' : RelayModules} (h : SameLoops ms ms') (h' : SameLoops ms' ms'') :
    SameLoops ms ms'' :=
  ⟨h'.number.trans h.number, h'.config.trans h.config, fun i => (h'.address i).trans (h.address i),
    fun i => (h'.channel i).trans (h.channel i), fun i => (h'.loops i).trans (h.loops i)⟩

/-- the number and the addresses decide which module is found -/
theorem findModule_congr {ms ms' : RelayModules} (h : SameLoops ms ms') (a : RelayTaskAction) :
    findModule ms' a = findModule ms a := by
  simp only [findModule, h.number, h.address, h.channel]

@[simp] theorem set_state_self (ms : RelayModules) (i : ℕ) (f : RelayModuleState → RelayModuleState) :
    (ms.set i f).state i = f (ms.state i) := Function.update_self ..

theorem set_state_of_ne (ms : RelayModules) {i j : ℕ} (f : RelayModuleState → RelayModuleState) (hji : j ≠ i) :
    (ms.set i f).state j = ms.state j := Function.update_of_ne hji ..

/-- a change of one state that keeps its loops -/
theorem set_sameLoops (ms : RelayModules) (i : ℕ) {f : RelayModuleState → RelayModuleState}
    (hf : ∀ s, (f s).address = s.address ∧ (f s).channel = s.channel ∧ (f s).loop_channel_bit = s.loop_channel_bit) :
    SameLoops ms (ms.set i f) := by
  have hstate : ∀ j, (ms.set i f).state j = ms.state j ∨ (ms.set i f).state j = f (ms.state j) := by
    intro j
    by_cases hj : j = i
    · rw [hj, set_state_self]
      exact Or.inr rfl
    · exact Or.inl (set_state_of_ne ms f hj)
  refine ⟨rfl, rfl, fun j => ?_, fun j => ?_, fun j => ?_⟩
  · rcases hstate j with h | h <;> rw [h]
    exact (hf _).1
  · rcases hstate j with h | h <;> rw [h]
    exact (hf _).2.1
  · rcases hstate j with h | h <;> rw [h]
    exact (hf _).2.2

/-- the next state changes after the first `n` -/
theorem set_next {ms ms' : RelayModules} {n : ℕ} {f : RelayModuleState → RelayModuleState}
    (h : ∀ i, ms'.state i = if i < n then f (ms.state i) else ms.state i) (i : ℕ) :
    (ms'.set n f).state i = if i < n + 1 then f (ms.state i) else ms.state i := by
  by_cases hin : i = n
  · rw [hin, set_state_self, h, if_neg (lt_irrefl n), if_pos (Nat.lt_succ_self n)]
  · have hiff : i < n + 1 ↔ i < n := by omega
    rw [set_state_of_ne _ _ hin, h, if_congr hiff rfl rfl]

/-- a change of the first `n` states that keeps their loops -/
theorem each_sameLoops {ms ms' : RelayModules} {n : ℕ} {f : RelayModuleState → RelayModuleState}
    (hnum : ms'.number = ms.number) (hconf : ms'.config = ms.config)
    (hstate : ∀ i, ms'.state i = if i < n then f (ms.state i) else ms.state i)
    (hf : ∀ s, (f s).address = s.address ∧ (f s).channel = s.channel ∧ (f s).loop_channel_bit = s.loop_channel_bit) :
    SameLoops ms ms' := by
  have hkeep : ∀ i, (ms'.state i).address = (ms.state i).address ∧ (ms'.state i).channel = (ms.state i).channel ∧
      (ms'.state i).loop_channel_bit = (ms.state i).loop_channel_bit := by
    intro i
    rw [hstate]
    split_ifs
    · exact hf _
    · exact ⟨rfl, rfl, rfl⟩
  exact ⟨hnum, hconf, fun i => (hkeep i).1, fun i => (hkeep i).2.1, fun i => (hkeep i).2.2⟩

theorem foldl_sameLoops {β : Type*} {step : RelayModules → β → RelayModules}
    (hstep : ∀ ms x, SameLoops ms (step ms x)) (xs : List β) : ∀ ms, SameLoops ms (xs.foldl step ms) := by
  induction xs with
  | nil => exact SameLoops.refl
  | cons x xs ih => exact fun ms => (hstep ms x).trans (ih _)

section Writers

variable (now : List UInt8) (ms : RelayModules)

theorem scheduleAction_sameLoops (r : RelayModules × ℕ) (a : RelayTaskAction) :
    SameLoops r.1 (scheduleAction r a).1 := by
  rw [scheduleAction]
  split
  · dsimp only
    apply set_sameLoops
    exact fun _ => ⟨rfl, rfl, rfl⟩
  · exact SameLoops.refl r.1

theorem schedule_sameLoops (actions : List RelayTaskAction) : SameLoops ms (schedule ms actions).1 := by
  have hrun : ∀ (xs : List RelayTaskAction) (r : RelayModules × ℕ), SameLoops r.1 (xs.foldl scheduleAction r).1 := by
    intro xs
    induction xs with
    | nil => exact fun r => SameLoops.refl r.1
    | cons a xs ih => exact fun r => (scheduleAction_sameLoops r a).trans (ih _)
  exact hrun actions (ms, 0)

theorem updateModule_sameLoops (j i : ℕ) : SameLoops ms (updateModule now j ms i) := by
  rw [updateModule]
  split_ifs
  · refine SameLoops.trans (set_sameLoops ms i ?_) (set_sameLoops _ j ?_)
    · exact fun _ => ⟨rfl, rfl, rfl⟩
    · exact fun _ => ⟨rfl, rfl, rfl⟩
  · exact SameLoops.refl ms

theorem updateRelayState_sameLoops (j : ℕ) : SameLoops ms (updateRelayState now ms j) :=
  foldl_sameLoops (fun ms i => updateModule_sameLoops now ms j i) _ ms

theorem temporaryAction_sameLoops (e : RelayTaskAction × ℕ) : SameLoops ms (temporaryAction now ms e) := by
  rw [temporaryAction]
  split
  · refine SameLoops.trans (set_sameLoops ms _ ?_) (SameLoops.trans (set_sameLoops _ e.2 ?_) (set_sameLoops _ _ ?_))
    · exact fun _ => ⟨rfl, rfl, rfl⟩
    · exact fun _ => ⟨rfl, rfl, rfl⟩
    · exact fun _ => ⟨rfl, rfl, rfl⟩
  · exact SameLoops.refl ms

theorem runTemporary_sameLoops (actions : List RelayTaskAction) : SameLoops ms (runTemporary now ms actions) :=
  foldl_sameLoops (fun ms e => temporaryAction_sameLoops now ms e) _ ms

theorem serverCommand_sameLoops (i : ℕ) (loop_ch loop_state : UInt16) :
    SameLoops ms (serverCommand now ms i loop_ch loop_state) := by
  apply set_sameLoops
  exact fun _ => ⟨rfl, rfl, rfl⟩

theorem panelCommand_sameLoops (i : ℕ) (loop_state : UInt16) : SameLoops ms (panelCommand now ms i loop_state) := by
  apply set_sameLoops
  exact fun _ => ⟨rfl, rfl, rfl⟩

theorem forcedOff_sameLoops (i : ℕ) : SameLoops ms (ms.set i (RelayModuleState.forcedOff now)) := by
  apply set_sameLoops
  exact fun _ => ⟨rfl, rfl, rfl⟩

theorem check_sameLoops (force : UInt8) : SameLoops ms (relayCheckForceSwitchOffAllRelays now ms force).1 := by
  rw [relayCheckForceSwitchOffAllRelays]
  split_ifs
  · exact foldl_sameLoops (forcedOff_sameLoops now) _ ms
  · exact SameLoops.refl ms

end Writers

/-! ## Driving and collecting -/

/-- the command of a module is driven under a run mode -/
def commanded (runMode : UInt8) (s : RelayModuleState) : Prop := s.pending ∧ modeAllows runMode s.controller = true

instance (runMode : UInt8) (s : RelayModuleState) : Decidable (commanded runMode s) :=
  inferInstanceAs (Decidable (_ ∧ _))

section Driving

variable (accepts : ℕ → Bool) (runMode : UInt8) (io : RelayIo)

/-- the first `n` modules whose command is driven to the built-in relays -/
def builtInCommands (n : ℕ) : List ℕ :=
  (List.range n).filter fun i => commanded runMode (io.modules.state i) ∧ (io.modules.state i).isBuiltIn

/-- the first `n` modules whose command becomes a frame -/
def frameCommands (n : ℕ) : List ℕ :=
  (List.range n).filter fun i => commanded runMode (io.modules.state i) ∧ ¬ (io.modules.state i).isBuiltIn ∧
    (io.modules.state i).channel = 1 ∧ accepts i = true

/-- the state of a module once its command has been taken -/
def RelayModuleState.afterExecution (s : RelayModuleState) : RelayModuleState := if s.pending then s.executed else s

/-- one round of the loop, field by field -/
theorem executeModule_eq (i : ℕ) :
    (executeModule accepts runMode io i).modules = io.modules.set i RelayModuleState.afterExecution ∧
    (executeModule accepts runMode io i).builtIn =
      (if commanded runMode (io.modules.state i) ∧ (io.modules.state i).isBuiltIn then
        controlAllBuiltInRelay (io.modules.state i) io.builtIn else io.builtIn) ∧
    (executeModule accepts runMode io i).rs485 = io.rs485 ++
      (if commanded runMode (io.modules.state i) ∧ ¬ (io.modules.state i).isBuiltIn ∧
        (io.modules.state i).channel = 1 ∧ accepts i = true then [controlAllBuiltOutRelay (io.modules.state i)] else []) := by
  set s := io.modules.state i with hs
  rw [executeModule]
  by_cases hp : s.pending
  · have hset : io.modules.set i RelayModuleState.executed = io.modules.set i RelayModuleState.afterExecution := by
      rw [RelayModules.set, RelayModules.set, ← hs, RelayModuleState.afterExecution, if_pos hp]
    rw [if_pos (hs ▸ hp : (io.modules.state i).pending), ← hs, ← hset]
    by_cases hm : modeAllows runMode s.controller = true
    · have hc : commanded runMode s := ⟨hp, hm⟩
      rw [if_pos hm, RelayIo.drive]
      by_cases hb : s.isBuiltIn
      · simp [hc, hb]
      · by_cases hch : s.channel = 1 ∧ accepts i = true
        · simp [hc, hb, hch]
        · simp [hb, hch]
    · have hc : ¬ commanded runMode s := fun h => hm h.2
      rw [if_neg hm]
      simp [hc]
  · have hset : io.modules = io.modules.set i RelayModuleState.afterExecution := by
      rw [RelayModules.set, ← hs, RelayModuleState.afterExecution, if_neg hp, hs, Function.update_eq_self]
    have hc : ¬ commanded runMode s := fun h => hp h.1
    rw [if_neg (hs ▸ hp : ¬ (io.modules.state i).pending), ← hset]
    simp [hc]

theorem execute_rounds (n : ℕ) :
    ((List.range n).foldl (executeModule accepts runMode) io).modules.number = io.modules.number ∧
    ((List.range n).foldl (executeModule accepts runMode) io).modules.config = io.modules.config ∧
    (∀ i, ((List.range n).foldl (executeModule accepts runMode) io).modules.state i =
      if i < n then (io.modules.state i).afterExecution else io.modules.state i) ∧
    ((List.range n).foldl (executeModule accepts runMode) io).builtIn =
      (builtInCommands runMode io n).foldl (fun r i => controlAllBuiltInRelay (io.modules.state i) r) io.builtIn ∧
    ((List.range n).foldl (executeModule accepts runMode) io).rs485 =
      io.rs485 ++ (frameCommands accepts runMode io n).map fun i => controlAllBuiltOutRelay (io.modules.state i) := by
  induction n with
  | zero => exact ⟨rfl, rfl, fun i => rfl, rfl, (List.append_nil _).symm⟩
  | succ n ih =>
    obtain ⟨hnum, hconf, hstate, hbuilt, hrs⟩ := ih
    rw [List.range_succ, List.foldl_append, List.foldl_cons, List.foldl_nil]
    set io' := (List.range n).foldl (executeModule accepts runMode) io with hio'
    have hn : io'.modules.state n = io.modules.state n := by rw [hstate, if_neg (lt_irrefl n)]
    obtain ⟨hmod, hb, hr⟩ := executeModule_eq accepts runMode io' n
    rw [hn] at hb hr
    refine ⟨by rw [hmod]; exact hnum, by rw [hmod]; exact hconf, fun i => ?_, ?_, ?_⟩
    · rw [hmod]
      exact set_next hstate i
    · rw [hb, hbuilt, builtInCommands, builtInCommands, List.range_succ, List.filter_append, List.foldl_append]
      split_ifs with hc <;> simp [hc]
    · rw [hr, hrs, frameCommands, frameCommands, List.range_succ, List.filter_append, List.map_append, List.append_assoc]
      split_ifs with hc <;> simp [hc]

/-- **Executing** takes each pending command, and drives those that the run mode lets through. -/
theorem execute_eq :
    SameLoops io.modules (relayExecuteActions accepts runMode io).modules ∧
    (∀ i, (relayExecuteActions accepts runMode io).modules.state i =
      if i < io.modules.number then (io.modules.state i).afterExecution else io.modules.state i) ∧
    (relayExecuteActions accepts runMode io).builtIn =
      (builtInCommands runMode io io.modules.number).foldl (fun r i => controlAllBuiltInRelay (io.modules.state i) r)
        io.builtIn ∧
    (relayExecuteActions accepts runMode io).rs485 = io.rs485 ++ (frameCommands accepts runMode io
      io.modules.number).map fun i => controlAllBuiltOutRelay (io.modules.state i) := by
  obtain ⟨hnum, hconf, hstate, hbuilt, hrs⟩ := execute_rounds accepts runMode io io.modules.number
  have hkeep : ∀ s : RelayModuleState, s.afterExecution.address = s.address ∧ s.afterExecution.channel = s.channel ∧
      s.afterExecution.loop_channel_bit = s.loop_channel_bit := by
    intro s
    rw [RelayModuleState.afterExecution]
    split_ifs <;> exact ⟨rfl, rfl, rfl⟩
  exact ⟨each_sameLoops hnum hconf hstate hkeep, hstate, hbuilt, hrs⟩

/-- the state of a module once it has been collected -/
def RelayModuleState.afterCollection (s : RelayModuleState) : RelayModuleState :=
  if s.isBuiltIn then { s with loop_collect_state := s.loop_current_state } else s

/-- one round of the loop, field by field -/
theorem collectModule_eq (i : ℕ) :
    (collectModule accepts io i).modules = io.modules.set i RelayModuleState.afterCollection ∧
      (collectModule accepts io i).builtIn = io.builtIn := by
  rw [collectModule]
  by_cases hb : (io.modules.state i).isBuiltIn
  · rw [if_pos hb, RelayModules.set, RelayModules.set, RelayModuleState.afterCollection, if_pos hb]
    exact ⟨rfl, rfl⟩
  · have hset : io.modules = io.modules.set i RelayModuleState.afterCollection := by
      rw [RelayModules.set, RelayModuleState.afterCollection, if_neg hb, Function.update_eq_self]
    rw [if_neg hb, ← hset]
    split_ifs <;> exact ⟨rfl, rfl⟩

theorem collect_rounds (n : ℕ) :
    ((List.range n).foldl (collectModule accepts) io).modules.number = io.modules.number ∧
    ((List.range n).foldl (collectModule accepts) io).modules.config = io.modules.config ∧
    (∀ i, ((List.range n).foldl (collectModule accepts) io).modules.state i =
      if i < n then (io.modules.state i).afterCollection else io.modules.state i) ∧
    ((List.range n).foldl (collectModule accepts) io).builtIn = io.builtIn := by
  induction n with
  | zero => exact ⟨rfl, rfl, fun i => rfl, rfl⟩
  | succ n ih =>
    obtain ⟨hnum, hconf, hstate, hbuilt⟩ := ih
    rw [List.range_succ, List.foldl_append, List.foldl_cons, List.foldl_nil]
    set io' := (List.range n).foldl (collectModule accepts) io with hio'
    obtain ⟨hmod, hb⟩ := collectModule_eq accepts io' n
    refine ⟨by rw [hmod]; exact hnum, by rw [hmod]; exact hconf, fun i => ?_, hb.trans hbuilt⟩
    rw [hmod]
    exact set_next hstate i

/-- **Collecting** copies the command of the built-in module, and drives nothing. -/
theorem collect_eq :
    SameLoops io.modules (relayCollectCurrentState accepts io).modules ∧
    (∀ i, (relayCollectCurrentState accepts io).modules.state i =
      if i < io.modules.number then (io.modules.state i).afterCollection else io.modules.state i) ∧
    (relayCollectCurrentState accepts io).builtIn = io.builtIn := by
  obtain ⟨hnum, hconf, hstate, hbuilt⟩ := collect_rounds accepts io io.modules.number
  have hkeep : ∀ s : RelayModuleState, s.afterCollection.address = s.address ∧ s.afterCollection.channel = s.channel ∧
      s.afterCollection.loop_channel_bit = s.loop_channel_bit := by
    intro s
    rw [RelayModuleState.afterCollection]
    split_ifs <;> exact ⟨rfl, rfl, rfl⟩
  exact ⟨each_sameLoops hnum hconf hstate hkeep, hstate, hbuilt⟩

end Driving

end DataConcentrator.Relay
