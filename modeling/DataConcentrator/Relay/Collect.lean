/-
The state that the module of the built-in relays reports, against the outputs driven.

`RelayCollectCurrentState` copies the command of the module. Beside the state a run keeps on which loops that command has
been driven: none when a command with another state is written, and those among the six outputs that are in its mask once
it is executed.
- `driven_agrees`: on those loops the command and the outputs agree;
- `collect_iff`: over any run the reports are right exactly when, at each of them, the loops on which the command was not
  driven are already as it says;
- `partial_mask`: a second command that names another loop.
-/
import DataConcentrator.Lib.Tally
import DataConcentrator.Relay.Commands

namespace DataConcentrator.Relay

/-! ## Runs -/

inductive RelayEvent where
  | server (now : List UInt8) (i : ℕ) (loop_ch loop_state : UInt16)
  | panel (now : List UInt8) (i : ℕ) (loop_state : UInt16)
  | strategy (now : List UInt8) (actions : List RelayTaskAction)
  | temporary (now : List UInt8) (actions : List RelayTaskAction)
  | force (now : List UInt8)
  | runMode (mode : UInt8)
  | execute (accepts : ℕ → Bool)
  | collect (accepts : ℕ → Bool)

/-- the relays, and on which loops the command of the built-in module has been driven -/
structure CollectState where
  io : RelayIo
  runMode : UInt8
  driven : ℕ → Bool

variable (b : ℕ)

/-- the modules after some command was written: when module `b` is to be in another state, it has not been driven -/
def CollectState.write (s : CollectState) (ms : RelayModules) : CollectState :=
  { s with
    io := { s.io with modules := ms }
    driven := fun k => s.driven k &&
      decide ((ms.state b).loop_current_state = (s.io.modules.state b).loop_current_state) }

/-- a step; the built-in relays are those of module `b` -/
def collectStep (s : CollectState) : RelayEvent → CollectState
  | .server now i loop_ch loop_state => s.write b (serverCommand now s.io.modules i loop_ch loop_state)
  | .panel now i loop_state => s.write b (panelCommand now s.io.modules i loop_state)
  | .strategy now actions =>
    let r := schedule s.io.modules actions
    s.write b (updateRelayState now r.1 r.2)
  | .temporary now actions => s.write b (runTemporary now s.io.modules actions)
  | .force now => s.write b (relayCheckForceSwitchOffAllRelays now s.io.modules 1).1
  | .runMode mode => { s with runMode := mode }
  | .execute accepts =>
    { s with
      io := relayExecuteActions accepts s.runMode s.io
      driven := fun k => s.driven k || (decide (commanded s.runMode (s.io.modules.state b)) && decide (k < 6) &&
        bit (s.io.modules.state b).loop_current_channel k) }
  | .collect accepts => { s with io := relayCollectCurrentState accepts s.io }

/-- loop `k` belongs to the module -/
def CollectState.hasLoop (s : CollectState) (k : ℕ) : Prop := bit (s.io.modules.state b).loop_channel_bit k = true

/-- a report that is due shows the outputs on all loops of the module -/
def Reports (s : CollectState) : RelayEvent → Prop
  | .collect accepts => ∀ k, s.hasLoop b k →
      bit ((collectStep b s (.collect accepts)).io.modules.state b).loop_collect_state k =
        bit s.io.builtIn.BuiltInRelayState k
  | _ => True

/-- the loops on which the command has not been driven (they are not in its mask or not among the six outputs, the run
mode held it back, or it was not executed yet) are as it says all the same -/
def ReportFits (s : CollectState) : RelayEvent → Prop
  | .collect _ => ∀ k, s.hasLoop b k → s.driven k = false →
      bit s.io.builtIn.BuiltInRelayState k = bit (s.io.modules.state b).loop_current_state k
  | _ => True

/-- module `b` is the only one of the built-in relays, and where its command was driven the outputs are as it says -/
structure Collecting (s : CollectState) : Prop where
  lt : b < s.io.modules.number
  builtIn : (s.io.modules.state b).isBuiltIn
  only : ∀ i < s.io.modules.number, (s.io.modules.state i).isBuiltIn → i = b
  agrees : ∀ k, s.driven k = true →
    bit s.io.builtIn.BuiltInRelayState k = bit (s.io.modules.state b).loop_current_state k

/-! ## One step -/

section Step

variable {b} {s : CollectState}

theorem isBuiltIn_congr {ms ms' : RelayModules} (h : SameLoops ms ms') (i : ℕ) :
    (ms'.state i).isBuiltIn ↔ (ms.state i).isBuiltIn := by
  rw [RelayModuleState.isBuiltIn, RelayModuleState.isBuiltIn, h.address, h.channel]

/-- the module of the built-in relays stays the only one -/
theorem Collecting.congr (h : Collecting b s) {t : CollectState} (hsame : SameLoops s.io.modules t.io.modules)
    (hagrees : ∀ k, t.driven k = true →
      bit t.io.builtIn.BuiltInRelayState k = bit (t.io.modules.state b).loop_current_state k) : Collecting b t := by
  refine ⟨hsame.number ▸ h.lt, (isBuiltIn_congr hsame b).2 h.builtIn, fun i hi hbuilt => ?_, hagrees⟩
  exact h.only i (hsame.number ▸ hi) ((isBuiltIn_congr hsame i).1 hbuilt)

theorem write_collecting (h : Collecting b s) {ms : RelayModules} (hsame : SameLoops s.io.modules ms) :
    Collecting b (s.write b ms) := by
  refine h.congr hsame fun k hk => ?_
  obtain ⟨hdriven, heq⟩ := Bool.and_eq_true_iff.1 hk
  have hcommand : (ms.state b).loop_current_state = (s.io.modules.state b).loop_current_state := of_decide_eq_true heq
  exact (h.agrees k hdriven).trans (congrArg (fun m => bit m k) hcommand.symm)

/-- the commands of the built-in relays that are driven are those of module `b` -/
theorem builtInCommands_eq (h : Collecting b s) : builtInCommands s.runMode s.io s.io.modules.number =
    if commanded s.runMode (s.io.modules.state b) then [b] else [] := by
  have hp : ∀ i ∈ List.range s.io.modules.number,
      decide (commanded s.runMode (s.io.modules.state i) ∧ (s.io.modules.state i).isBuiltIn) =
        (decide (commanded s.runMode (s.io.modules.state b)) && (i == b)) := by
    intro i hi
    by_cases hib : i = b
    · subst hib
      simp [h.builtIn]
    · have hnot : ¬ (s.io.modules.state i).isBuiltIn := fun hbuilt => hib (h.only i (List.mem_range.1 hi) hbuilt)
      simp [hnot, hib]
  rw [builtInCommands, List.filter_congr hp]
  split_ifs with hc
  · simp only [decide_eq_true hc, Bool.true_and]
    rw [List.filter_beq, List.count_eq_one_of_mem List.nodup_range (List.mem_range.2 h.lt)]
    rfl
  · simp only [decide_eq_false hc, Bool.false_and]
    exact List.filter_false _

/-- **Executing** drives the command where its mask and the outputs meet. -/
theorem execute_collecting (h : Collecting b s) (accepts : ℕ → Bool) :
    Collecting b (collectStep b s (.execute accepts)) := by
  obtain ⟨hsame, hstate, hbuilt, -⟩ := execute_eq accepts s.runMode s.io
  have hcommand : ((relayExecuteActions accepts s.runMode s.io).modules.state b).loop_current_state =
      (s.io.modules.state b).loop_current_state := by
    rw [hstate, if_pos h.lt, RelayModuleState.afterExecution]
    split_ifs <;> rfl
  refine h.congr hsame fun k hk => ?_
  show bit (relayExecuteActions accepts s.runMode s.io).builtIn.BuiltInRelayState k =
    bit ((relayExecuteActions accepts s.runMode s.io).modules.state b).loop_current_state k
  rw [hcommand, hbuilt, builtInCommands_eq h]
  split_ifs with hc
  · rw [List.foldl_cons, List.foldl_nil, bit_controlAllBuiltInRelay]
    split_ifs with hin
    · rfl
    · rcases Bool.or_eq_true_iff.1 hk with hdriven | hnew
      · exact h.agrees k hdriven
      · obtain ⟨hk6, hmask⟩ := Bool.and_eq_true_iff.1 hnew
        exact absurd ⟨of_decide_eq_true (Bool.and_eq_true_iff.1 hk6).2, hmask⟩ hin
  · rcases Bool.or_eq_true_iff.1 hk with hdriven | hnew
    · exact h.agrees k hdriven
    · obtain ⟨hk6, -⟩ := Bool.and_eq_true_iff.1 hnew
      exact absurd (of_decide_eq_true (Bool.and_eq_true_iff.1 hk6).1) hc

theorem collect_collecting (h : Collecting b s) (accepts : ℕ → Bool) :
    Collecting b (collectStep b s (.collect accepts)) := by
  obtain ⟨hsame, hstate, hbuilt⟩ := collect_eq accepts s.io
  refine h.congr hsame fun k hk => ?_
  show bit (relayCollectCurrentState accepts s.io).builtIn.BuiltInRelayState k =
    bit ((relayCollectCurrentState accepts s.io).modules.state b).loop_current_state k
  rw [hbuilt, hstate, if_pos h.lt, RelayModuleState.afterCollection, if_pos h.builtIn]
  exact h.agrees k hk

/-- **Where the command was driven** the outputs are as it says, whatever happens. -/
theorem driven_agrees (h : Collecting b s) (e : RelayEvent) : Collecting b (collectStep b s e) := by
  cases e with
  | server now i loop_ch loop_state => exact write_collecting h (serverCommand_sameLoops ..)
  | panel now i loop_state => exact write_collecting h (panelCommand_sameLoops ..)
  | strategy now actions =>
    exact write_collecting h ((schedule_sameLoops _ actions).trans (updateRelayState_sameLoops ..))
  | temporary now actions => exact write_collecting h (runTemporary_sameLoops ..)
  | force now => exact write_collecting h (check_sameLoops ..)
  | runMode mode => exact h.congr (SameLoops.refl _) h.agrees
  | execute accepts => exact execute_collecting h accepts
  | collect accepts => exact collect_collecting h accepts

theorem reports_iff (h : Collecting b s) (e : RelayEvent) : Reports b s e ↔ ReportFits b s e := by
  cases e with
  | collect accepts =>
    obtain ⟨-, hstate, -⟩ := collect_eq accepts s.io
    have hcollect : ((relayCollectCurrentState accepts s.io).modules.state b).loop_collect_state =
        (s.io.modules.state b).loop_current_state := by
      rw [hstate, if_pos h.lt, RelayModuleState.afterCollection, if_pos h.builtIn]
    have hreports : Reports b s (.collect accepts) ↔ ∀ k, s.hasLoop b k →
        bit (s.io.modules.state b).loop_current_state k = bit s.io.builtIn.BuiltInRelayState k := by
      rw [Reports, ← hcollect]
      rfl
    rw [hreports, ReportFits]
    refine forall₂_congr fun k _ => ⟨fun heq _ => heq.symm, fun hfits => ?_⟩
    cases hd : s.driven k with
    | false => exact (hfits hd).symm
    | true => exact (h.agrees k hd).symm
  | _ => exact Iff.rfl

end Step

/-! ## Any run -/

/-- **What the built-in module reports.** Over any run of commands, run modes, executions and reports, from any state
with one module of the built-in relays, each report shows the outputs on all loops of the module exactly when, at each
report, the loops on which the command was not driven are as it says. -/
theorem collect_iff (io : RelayIo) (runMode : UInt8) (hlt : b < io.modules.number)
    (hb : (io.modules.state b).isBuiltIn) (honly : ∀ i < io.modules.number, (io.modules.state i).isBuiltIn → i = b)
    (events : List RelayEvent) :
    Tally.Along (fun s e => some (collectStep b s e)) (Reports b) ⟨io, runMode, fun _ => false⟩ events ↔
      Tally.Along (fun s e => some (collectStep b s e)) (ReportFits b) ⟨io, runMode, fun _ => false⟩ events := by
  have hstart : Collecting b ⟨io, runMode, fun _ => false⟩ := ⟨hlt, hb, honly, fun k hk => absurd hk (by simp)⟩
  refine @Tally.along_congr _ _ _ (Collecting b) _ _ (fun _ => True) ?_ ?_ events (fun _ _ => trivial) _ hstart
  · intro s e t _ h ht
    rw [← Option.some.inj ht]
    exact driven_agrees h e
  · exact fun s e _ h => reports_iff h e

/-! ## Two commands -/

/-- the built-in relays with six loops, all off -/
def sixLoops : RelayIo :=
  ⟨⟨1, one_fits, fun _ => ⟨6, 0xFFFF⟩, fun _ => clearedState 0 0 ⟨6, 0xFFFF⟩⟩, ⟨fun _ => false, 0⟩, []⟩

/-- a command, executed and reported -/
def executed (loop_ch loop_state : UInt16) : List RelayEvent :=
  [.server [] 0 loop_ch loop_state, .execute fun _ => true, .collect fun _ => true]

theorem collect_all_on :
    Tally.Along (fun s e => some (collectStep 0 s e)) (Reports 0) ⟨sixLoops, MODE_AUTO, fun _ => false⟩
      (executed 0x3F 0x3F) := by
  refine (collect_iff 0 sixLoops MODE_AUTO (by decide) (by decide) ?_ _).2 ?_
  · exact fun i hi _ => Nat.lt_one_iff.1 hi
  · refine ⟨trivial, fun s hs => ⟨trivial, fun t ht => ⟨fun k hk hd => ?_, fun _ _ => trivial⟩⟩⟩
    rw [← Option.some.inj hs] at ht
    rw [← Option.some.inj ht] at hk hd ⊢
    have hloop : bit (loopChannelBit 6) k = true := hk
    rw [bit_loopChannelBit (by decide)] at hloop
    have hk6 : k < 6 := of_decide_eq_true hloop
    interval_cases k <;> exact absurd hd (by decide +kernel)

/-- **A mask that leaves a loop out.** The first loop is switched on, and then the second one off: the outputs still have
the first on, the report has all off. -/
theorem partial_mask :
    ((executed 1 1 ++ executed 2 0).foldl (collectStep 0) ⟨sixLoops, MODE_AUTO, fun _ => false⟩).io.builtIn.BuiltInRelayState
        = 1 ∧
      (((executed 1 1 ++ executed 2 0).foldl (collectStep 0) ⟨sixLoops, MODE_AUTO, fun _ => false⟩).io.modules.state
        0).loop_collect_state = 0 ∧
      ¬ Tally.Along (fun s e => some (collectStep 0 s e)) (Reports 0) ⟨sixLoops, MODE_AUTO, fun _ => false⟩
        (executed 1 1 ++ executed 2 0) := by
  refine ⟨by decide +kernel, by decide +kernel, fun h => ?_⟩
  have hlast := (((((h.2 _ rfl).2 _ rfl).2 _ rfl).2 _ rfl).2 _ rfl).1 0
  exact absurd (hlast (by rw [CollectState.hasLoop]; decide +kernel)) (by decide +kernel)

end DataConcentrator.Relay
