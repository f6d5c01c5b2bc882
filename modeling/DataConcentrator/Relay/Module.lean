/-
The relay modules: their states, who writes a command to them, and how the commands are driven.

- `schedule`, `updateRelayState`: the actions of the strategy in force become the command of a module when they change;
- `runTemporary`, `serverCommand`, `panelCommand`, `relayCheckForceSwitchOffAllRelays`: the other writers of commands;
- `relayExecuteActions`, `relayCollectCurrentState`: the commands driven, and the states collected;
- `bit_controlAllBuiltInRelay`: what the built-in relays show after a command.
-/
import DataConcentrator.Relay.Strategy

namespace DataConcentrator.Relay

/-! ## Data -/

/-- `RelayModuleConfig_S`, as far as commands read it -/
structure RelayModuleConfig where
  loop_num : UInt8
  loop_enable : UInt16
deriving DecidableEq, Repr

/-- `RelayModuleState_S`, as far as commands read or write it -/
structure RelayModuleState where
  address : UInt8
  channel : UInt8
  execute_immediately : UInt8
  loop_channel_bit : UInt16
  loop_last_channel : UInt16
  loop_current_channel : UInt16
  loop_last_task_channel : UInt16
  loop_task_channel : UInt16
  loop_last_state : UInt16
  loop_current_state : UInt16
  loop_collect_state : UInt16
  loop_last_task_state : UInt16
  loop_task_state : UInt16
  controller : UInt8
  control_time : List UInt8
deriving DecidableEq, Repr

/-- `RelayModuleConfigNum`, `RelayModuleConfig` and `RelayModuleState`; each array is the memory from its five entries on -/
structure RelayModules where
  number : ℕ
  fits : number ≤ MAX_RELAY_MODULE_CONF_NUM
  config : ℕ → RelayModuleConfig
  state : ℕ → RelayModuleState

/-- a table of one module -/
theorem one_fits : 1 ≤ MAX_RELAY_MODULE_CONF_NUM := by decide

/-- bit `k` of a mask of loops -/
def bit (mask : UInt16) (k : ℕ) : Bool := mask.toBitVec.getLsbD k

@[simp] theorem bit_zero (k : ℕ) : bit 0 k = false := by simp [bit]

@[simp] theorem bit_and (x y : UInt16) (k : ℕ) : bit (x &&& y) k = (bit x k && bit y k) := by
  rw [bit, UInt16.toBitVec_and, BitVec.getLsbD_and]
  rfl

@[simp] theorem bit_or (x y : UInt16) (k : ℕ) : bit (x ||| y) k = (bit x k || bit y k) := by
  rw [bit, UInt16.toBitVec_or, BitVec.getLsbD_or]
  rfl

@[simp] theorem bit_not {k : ℕ} (hk : k < 16) (x : UInt16) : bit (~~~x) k = !bit x k := by
  rw [bit, UInt16.toBitVec_not, BitVec.getLsbD_not, decide_eq_true hk, Bool.true_and]
  rfl

theorem bit_of_le {k : ℕ} (hk : 16 ≤ k) (x : UInt16) : bit x k = false := BitVec.getLsbD_of_ge _ _ hk

/-- `1 << i` -/
def loopBit (i : ℕ) : UInt16 := ⟨BitVec.twoPow 16 i⟩

theorem bit_loopBit {i : ℕ} (k : ℕ) (hi : i < 16) : bit (loopBit i) k = decide (i = k) := by
  rw [bit, loopBit, BitVec.getLsbD_twoPow, decide_eq_true hi, Bool.true_and]

/-! ## Commands -/

section Commands

variable (now : List UInt8) (ms : RelayModules)

/-- a change of the state of module `i` -/
def RelayModules.set (i : ℕ) (f : RelayModuleState → RelayModuleState) : RelayModules :=
  { ms with state := Function.update ms.state i (f (ms.state i)) }

/-- the first module with the address and channel of an action -/
def findModule (a : RelayTaskAction) : Option ℕ :=
  (List.range ms.number).find? fun j =>
    decide (a.module_address = (ms.state j).address ∧ a.module_channel = (ms.state j).channel)

/-- an action of the strategy in force; `j` is the counter of the loop over the modules, which is left at one past the
number of modules when the module was found -/
def scheduleAction (r : RelayModules × ℕ) (a : RelayTaskAction) : RelayModules × ℕ :=
  let ms := r.1
  match findModule ms a with
  | some j => (ms.set j fun s => { s with
      loop_task_channel := a.loop_channel &&& (ms.config j).loop_enable
      loop_task_state := a.loop_action }, ms.number + 1)
  | none => (ms, ms.number)

/-- the actions of the strategy in force -/
def schedule (actions : List RelayTaskAction) : RelayModules × ℕ := actions.foldl scheduleAction (ms, 0)

/-- one round of the loop at `UPDATE_RELAY_STATE`; the time is written to module `j` -/
def updateModule (j : ℕ) (ms : RelayModules) (i : ℕ) : RelayModules :=
  let s := ms.state i
  if s.loop_last_task_channel ≠ s.loop_task_channel ∨ s.loop_last_task_state ≠ s.loop_task_state then
    (ms.set i fun s => { s with
      loop_last_task_channel := s.loop_task_channel
      loop_last_task_state := s.loop_task_state
      loop_current_channel := s.loop_task_channel
      loop_current_state := s.loop_task_state
      controller := 6 }).set j fun s => { s with control_time := now }
  else ms

def updateRelayState (j : ℕ) : RelayModules := (List.range ms.number).foldl (updateModule now j) ms

/-- action number `i` of a temporary strategy: the controller is that of module `i` -/
def temporaryAction (ms : RelayModules) (e : RelayTaskAction × ℕ) : RelayModules :=
  match findModule ms e.1 with
  | some j =>
    ((ms.set j fun s => { s with
      loop_current_channel := e.1.loop_channel &&& (ms.config j).loop_enable
      loop_current_state := e.1.loop_action }).set e.2 fun s => { s with controller := 3 }).set j
        fun s => { s with control_time := now }
  | none => ms

/-- the actions of a temporary strategy -/
def runTemporary (actions : List RelayTaskAction) : RelayModules := actions.zipIdx.foldl (temporaryAction now) ms

/-- the end of `RelayLoopControl` and of `RelayLoopGroupControl`, for module `i` -/
def serverCommand (i : ℕ) (loop_ch loop_state : UInt16) : RelayModules :=
  ms.set i fun s => { s with
    loop_current_channel := loop_ch &&& (ms.config i).loop_enable
    loop_current_state := loop_state &&& (ms.config i).loop_enable
    controller := 1
    control_time := now
    execute_immediately := 1 }

/-- the end of `SetDO_State`, for module `i` -/
def panelCommand (i : ℕ) (loop_state : UInt16) : RelayModules :=
  ms.set i fun s => { s with
    loop_current_channel := 0xFFFF
    loop_current_state := loop_state
    controller := 4
    control_time := now
    execute_immediately := 1 }

/-- one round of the loop of `RelayCheckForceSwitchOffAllRelays` -/
def RelayModuleState.forcedOff (s : RelayModuleState) : RelayModuleState :=
  { s with
    loop_last_channel := 0
    loop_last_state := 0
    loop_current_channel := 0xFFFF &&& s.loop_channel_bit
    loop_current_state := 0
    controller := 5
    control_time := now
    execute_immediately := 1 }

/-- `RelayCheckForceSwitchOffAllRelays`, with `RelayForceSwitchOffAllRelays` -/
def relayCheckForceSwitchOffAllRelays (force : UInt8) : RelayModules × UInt8 :=
  if force = 1 then ((List.range ms.number).foldl (fun ms i => ms.set i (RelayModuleState.forcedOff now)) ms, 0)
  else (ms, force)

/-- the bits of the loops of a module, as `ReadRelayModuleConfig` and `WriteRelayModuleConfig` set them -/
def loopChannelBit (loop_num : UInt8) : UInt16 :=
  if loop_num.toNat ≤ 12 then (List.range loop_num.toNat).foldl (fun b j => b ||| loopBit j) 0 else 0

/-- the state `ReadRelayModuleConfig` and `WriteRelayModuleConfig` leave a module in -/
def clearedState (address channel : UInt8) (config : RelayModuleConfig) : RelayModuleState :=
  ⟨address, channel, 0, loopChannelBit config.loop_num, 0, 0, 0, 0, 0, 0, 0, 0, 0, 0, List.replicate 15 0⟩

theorem bit_loopChannelBit {loop_num : UInt8} (hn : loop_num.toNat ≤ 12) (k : ℕ) :
    bit (loopChannelBit loop_num) k = decide (k < loop_num.toNat) := by
  have hfold : ∀ n ≤ 12, bit ((List.range n).foldl (fun b j => b ||| loopBit j) 0) k = decide (k < n) := by
    intro n
    induction n with
    | zero => exact fun _ => by simp
    | succ n ih =>
      intro hn
      rw [List.range_succ, List.foldl_append, List.foldl_cons, List.foldl_nil, bit_or, ih (by omega),
        bit_loopBit k (by omega), ← Bool.decide_or]
      exact decide_eq_decide.2 (by omega)
  rw [loopChannelBit, if_pos hn, hfold _ hn]

end Commands

/-! ## Drivers -/

/-- the pins `KC1` to `KC6`, by their number from 0 on, and `BuiltInRelayState` -/
structure BuiltInRelay where
  KC : ℕ → Bool
  BuiltInRelayState : UInt16

/-- one round of the loop of `ControlAllBuiltInRelay` -/
def driveLoop (loop_current_channel loop_current_state : UInt16) (r : BuiltInRelay) (i : ℕ) : BuiltInRelay :=
  if bit loop_current_channel i then
    if bit loop_current_state i then ⟨Function.update r.KC i true, r.BuiltInRelayState ||| loopBit i⟩
    else ⟨Function.update r.KC i false, r.BuiltInRelayState &&& ~~~loopBit i⟩
  else r

def controlAllBuiltInRelay (s : RelayModuleState) (r : BuiltInRelay) : BuiltInRelay :=
  (List.range 6).foldl (driveLoop s.loop_current_channel s.loop_current_state) r

def calCheckSum (buf : List UInt8) : UInt8 := buf.foldl (· + ·) 0

def packBuiltOutRelayFrame (address fun_code : UInt8) (inbuf : List UInt8) : List UInt8 :=
  let head := [0x68, 0x00, 0x00, 0x00, 0x00, 0x00, 0x02, 0x68, 0xFF, 0xFF] ++ List.replicate 16 0 ++
    [address, fun_code, UInt8.ofNat inbuf.length] ++ inbuf
  head ++ [calCheckSum head, 0x16, 0xFE, 0xFD, 0xFC, 0xFB, 0xFA, 0xF9]

/-- the frame of `ControlAllBuiltOutRelay` -/
def controlAllBuiltOutRelay (s : RelayModuleState) : List UInt8 :=
  packBuiltOutRelayFrame s.address 0xD1 [(s.loop_current_channel >>> 8).toUInt8, s.loop_current_channel.toUInt8,
    (s.loop_current_state >>> 8).toUInt8, s.loop_current_state.toUInt8]

/-- the frame of `GetBuiltOutRelayState` -/
def getBuiltOutRelayState (s : RelayModuleState) : List UInt8 := packBuiltOutRelayFrame s.address 0xD0 []

def MODE_AUTO : UInt8 := 1
def MODE_MANUAL : UInt8 := 2
def MODE_TASK : UInt8 := 3
def MODE_STOP : UInt8 := 4

/-- the commands that a run mode lets through -/
def modeAllows (runMode controller : UInt8) : Bool :=
  runMode = MODE_AUTO ||
    (runMode = MODE_MANUAL && (controller = 1 || controller = 2 || controller = 4)) ||
      (runMode = MODE_TASK && (controller = 3 || controller = 6)) || controller = 5

/-- the modules, the outputs, and the frames put on `xQueue_Rs485Rs485Frame` -/
structure RelayIo where
  modules : RelayModules
  builtIn : BuiltInRelay
  rs485 : List (List UInt8)

/-- the command of a module is not the one it had last, or is to be executed at once -/
def RelayModuleState.pending (s : RelayModuleState) : Prop :=
  s.loop_last_channel ≠ s.loop_current_channel ∨ s.loop_last_state ≠ s.loop_current_state ∨ s.execute_immediately = 1

instance (s : RelayModuleState) : Decidable s.pending := inferInstanceAs (Decidable (_ ∨ _))

/-- the end of a round of the loop of `RelayExecuteActions` -/
def RelayModuleState.executed (s : RelayModuleState) : RelayModuleState :=
  { s with
    execute_immediately := 0
    loop_last_channel := s.loop_current_channel
    loop_last_state := s.loop_current_state }

/-- the module of the built-in relays -/
def RelayModuleState.isBuiltIn (s : RelayModuleState) : Prop := s.address = 0 ∧ s.channel = 0

instance (s : RelayModuleState) : Decidable s.isBuiltIn := inferInstanceAs (Decidable (_ ∧ _))

/-- the calls of the drivers for a module; `accepts` says that the memory for its frame is allocated and the queue takes
it -/
def RelayIo.drive (io : RelayIo) (accepts : Bool) (s : RelayModuleState) : RelayIo :=
  if s.isBuiltIn then { io with builtIn := controlAllBuiltInRelay s io.builtIn }
  else if s.channel = 1 ∧ accepts then { io with rs485 := io.rs485 ++ [controlAllBuiltOutRelay s] }
  else io

/-- one round of the loop of `RelayExecuteActions` -/
def executeModule (accepts : ℕ → Bool) (runMode : UInt8) (io : RelayIo) (i : ℕ) : RelayIo :=
  let s := io.modules.state i
  if s.pending then
    let io := if modeAllows runMode s.controller then io.drive (accepts i) s else io
    { io with modules := io.modules.set i RelayModuleState.executed }
  else io

def relayExecuteActions (accepts : ℕ → Bool) (runMode : UInt8) (io : RelayIo) : RelayIo :=
  (List.range io.modules.number).foldl (executeModule accepts runMode) io

/-- one round of the loop of `RelayCollectCurrentState` -/
def collectModule (accepts : ℕ → Bool) (io : RelayIo) (i : ℕ) : RelayIo :=
  let s := io.modules.state i
  if s.isBuiltIn then
    { io with modules := io.modules.set i fun s => { s with loop_collect_state := s.loop_current_state } }
  else if s.channel = 1 ∧ accepts i then { io with rs485 := io.rs485 ++ [getBuiltOutRelayState s] }
  else io

/-- `RelayCollectCurrentState` when it is due -/
def relayCollectCurrentState (accepts : ℕ → Bool) (io : RelayIo) : RelayIo :=
  (List.range io.modules.number).foldl (collectModule accepts) io

/-! ## The built-in relays -/

theorem bit_driveLoop {ch st : UInt16} {r : BuiltInRelay} {i : ℕ} (hi : i < 16) (k : ℕ) :
    bit (driveLoop ch st r i).BuiltInRelayState k =
      if k = i ∧ bit ch i then bit st i else bit r.BuiltInRelayState k := by
  rw [driveLoop]
  rcases Nat.lt_or_ge k 16 with hk | hk
  · by_cases hki : k = i
    · subst hki
      split_ifs <;> simp_all [bit_loopBit]
    · have hik : ¬ i = k := fun h => hki h.symm
      split_ifs <;> simp_all [bit_loopBit]
  · have hne : ¬ k = i := by omega
    rw [bit_of_le hk, bit_of_le hk, if_neg fun h => hne h.1]

/-- **A command of the built-in relays** sets the six outputs that are in its mask. -/
theorem bit_controlAllBuiltInRelay (s : RelayModuleState) (r : BuiltInRelay) (k : ℕ) :
    bit (controlAllBuiltInRelay s r).BuiltInRelayState k =
      if k < 6 ∧ bit s.loop_current_channel k then bit s.loop_current_state k else bit r.BuiltInRelayState k := by
  have hfold : ∀ n ≤ 6, bit ((List.range n).foldl (driveLoop s.loop_current_channel s.loop_current_state)
      r).BuiltInRelayState k =
        if k < n ∧ bit s.loop_current_channel k then bit s.loop_current_state k else bit r.BuiltInRelayState k := by
    intro n
    induction n with
    | zero => exact fun _ => by simp
    | succ n ih =>
      intro hn
      rw [List.range_succ, List.foldl_append, List.foldl_cons, List.foldl_nil, bit_driveLoop (by omega), ih (by omega)]
      by_cases hkn : k = n
      · subst hkn
        simp
      · have hiff : k < n + 1 ↔ k < n := by omega
        simp only [hkn, false_and, if_false, hiff]
  exact hfold 6 le_rfl

end DataConcentrator.Relay
