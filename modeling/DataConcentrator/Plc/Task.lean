/-
The tasks the lamp task hands to the PLC task, the stored records they read, and the functions that build them.

- `lampGetLampPlcExecuteTaskInfo`, `lampGetLampPlcExecuteTaskInfo1`: how many devices and frames a task counts;
- `lampSynchronizeConfig`: the task a synchronisation message builds;
- `executeType_of_sync`: the tasks for scenes and strategies are always broadcast ones (`execute_type` 0).
-/
import DataConcentrator.Common.Bytes
import DataConcentrator.Common.Text
import DataConcentrator.Protocol.ServerFrame
import DataConcentrator.Lib.IndexScan

namespace DataConcentrator.Plc

open Protocol (ServerFrameStruct)

/-! ## Constants -/

def MAX_LAMP_CONF_NUM : ℕ := 512
def MAX_LAMP_STRATEGY_NUM : ℕ := 512
def MAX_LAMP_GROUP_NUM : ℕ := 10
def LAMP_FIRMWARE_BAG_SEND_SIZE : ℕ := 128

/-- `x ++` on a `u16` -/
def inc16 (x : ℕ) : ℕ := (x + 1) % 65536

theorem inc16_of_lt {x : ℕ} (h : x < 65535) : inc16 x = x + 1 := Nat.mod_eq_of_lt (by omega)

/-! ## Tasks -/

/-- `EXECUTE_STATE_E` -/
inductive ExecuteState where
  | start | stop | suspend | success | fail | timeout | finished
deriving DecidableEq, Repr

/-- `LampPlcExecuteTask_S`; `group_dev_id` is the memory from the array of eleven entries on -/
structure Task where
  notify_enable : UInt8
  cmd_code : ℕ
  state : ExecuteState
  dev_num : ℕ
  execute_total_num : ℕ
  executed_num : ℕ
  executed_index : ℕ
  broadcast_state : ℕ
  broadcast_type : ℕ
  execute_type : ℕ
  group_num : ℕ
  group_dev_id : ℕ → UInt32
  data : List UInt8
  success_num : ℕ
  failed_num : ℕ
  timeout_num : ℕ
  spent_time : ℕ

/-- `memset(task, 0, ..)` -/
def Task.zero : Task := ⟨0, 0, .start, 0, 0, 0, 0, 0, 0, 0, 0, fun _ => 0, [], 0, 0, 0, 0⟩

/-! ## Stored records -/

/-- `LampListNum_S`: bit `i % 8` of `list[i / 8]` is `list i` -/
structure LampListNum where
  number : ℕ
  list : ℕ → Bool

/-- `LampConfig_S`; `settings` are its bytes from `advance_time` to `default_brightness` -/
structure LampConfig where
  address : UInt32
  settings : List UInt8
  group : Fin MAX_LAMP_GROUP_NUM → UInt8
deriving DecidableEq

/-- `PlcTask_S` without its checksum, which stays zero -/
structure PlcTask where
  group_id : UInt8
  type : UInt8
  executor : UInt8
  time : UInt16
  time_option : UInt8
  brightness : UInt8 × UInt8
deriving DecidableEq, Repr

/-- `LampTask_S`: what a lamp is sent, who is sent it, and the memory from `group_add` on -/
structure LampTask where
  content : PlcTask
  ctrl_mode : ℕ
  group_add : ℕ → UInt32

/-- the stored data the PLC task reads. `lampConfig` and `lampAppointment` are `none` where the checksum is wrong;
`lampTaskConfig` pairs that check with the record, which is used even where it fails -/
structure Store where
  lampNumList : LampListNum
  lampStrategyNumList : LampListNum
  lampConfig : ℕ → Option LampConfig
  lampTaskConfig : ℕ → Bool × LampTask
  lampAppointment : ℕ → Option (List UInt8)
  lampAppointmentNum : ℕ
  /-- the memory around `LampGroupListNum.list` -/
  lampGroupListNum : ℤ → ℕ
  concentratorGateWayID : UInt32
  /-- `LampFrameWareState.total_size` -/
  total_size : ℕ
  /-- the flash from `LAMP_FIRMWARE_BUCKUP_FLASH_BASE_ADD` on -/
  flash : ℕ → UInt8

/-- nothing stored -/
def Store.empty : Store where
  lampNumList := ⟨0, fun _ => false⟩
  lampStrategyNumList := ⟨0, fun _ => false⟩
  lampConfig _ := none
  lampTaskConfig _ := (false, ⟨⟨0, 0, 0, 0, 0, 0, 0⟩, 0, fun _ => 0⟩)
  lampAppointment _ := none
  lampAppointmentNum := 0
  lampGroupListNum _ := 0
  concentratorGateWayID := 0
  total_size := 0
  flash _ := 0

def Store.readSpecifyLampNumList (st : Store) (i : ℕ) : Bool :=
  if i ≥ MAX_LAMP_CONF_NUM then false else st.lampNumList.list i

def Store.readSpecifyLampStrategyNumList (st : Store) (i : ℕ) : Bool :=
  if i ≥ MAX_LAMP_STRATEGY_NUM then false else st.lampStrategyNumList.list i

/-! ## Counting devices and frames -/

/-- the loop over `task->group_num` -/
def Task.groupNum (task : Task) : ℕ :=
  ((List.range MAX_LAMP_GROUP_NUM).takeWhile fun k => task.group_dev_id k ≠ 0).length

/-- the nonzero entries it counts, and the zero it stops at -/
theorem groupNum_spec (task : Task) : task.groupNum ≤ MAX_LAMP_GROUP_NUM ∧
    (∀ k < task.groupNum, task.group_dev_id k ≠ 0) ∧
    (task.groupNum < MAX_LAMP_GROUP_NUM → task.group_dev_id task.groupNum = 0) := by
  obtain ⟨hle, hall, hend⟩ :=
    IndexScan.length_takeWhile_range (fun k => decide (task.group_dev_id k ≠ 0)) MAX_LAMP_GROUP_NUM
  refine ⟨hle, fun k hk => of_decide_eq_true (hall k hk), fun hlt => ?_⟩
  exact not_not.1 (of_decide_eq_false (hend hlt))

/-- the body the two functions share: `groupIndex` is the list entry they read for a group, `rounds` the frames
for one device -/
def getTaskInfo (groupIndex : UInt32 → ℤ) (rounds : ℕ) (st : Store) (task : Task) : Task :=
  let task := { task with group_num := task.groupNum }
  match task.broadcast_type with
  | 0 =>
    let dev_num := st.lampNumList.number
    { task with
      dev_num := dev_num
      execute_total_num := if task.execute_type = 0 then rounds % 65536 else dev_num * rounds % 65536 }
  | 1 =>
    let dev_num := (List.range task.group_num).foldl
      (fun n m => (n + st.lampGroupListNum (groupIndex (task.group_dev_id m))) % 65536) task.dev_num
    { task with
      dev_num := dev_num
      execute_total_num := if task.execute_type = 0 then rounds % 65536 else dev_num * rounds % 65536 }
  | 2 => { task with dev_num := task.group_num, execute_total_num := task.group_num * rounds % 65536 }
  | _ => task

def lampGetLampPlcExecuteTaskInfo (st : Store) (task : Task) : Task :=
  getTaskInfo (fun id => (id.toUInt8.toNat : ℤ) - 1) 1 st task

def lampGetLampPlcExecuteTaskInfo1 (st : Store) (task : Task) : Task :=
  getTaskInfo (fun id => id.toNat) st.lampAppointmentNum st task

section TaskInfo

variable (groupIndex : UInt32 → ℤ) (rounds : ℕ) (st : Store) (task : Task)

/-- counting changes the counters only -/
theorem getTaskInfo_frame :
    getTaskInfo groupIndex rounds st task =
      { task with
        group_num := task.groupNum
        dev_num := (getTaskInfo groupIndex rounds st task).dev_num
        execute_total_num := (getTaskInfo groupIndex rounds st task).execute_total_num } := by
  unfold getTaskInfo
  dsimp only
  split <;> rfl

/-- the frames are counted in a `u16` -/
theorem getTaskInfo_total (h : task.execute_total_num < 65536) :
    (getTaskInfo groupIndex rounds st task).execute_total_num < 65536 := by
  have hmod : ∀ n, n % 65536 < 65536 := fun n => Nat.mod_lt n (by decide)
  unfold getTaskInfo
  dsimp only
  split
  · dsimp only
    split_ifs <;> exact hmod _
  · dsimp only
    split_ifs <;> exact hmod _
  · exact hmod _
  · exact h

/-- one frame for each round, where all devices share it -/
theorem getTaskInfo_shared (ht : task.broadcast_type = 0 ∨ task.broadcast_type = 1) (he : task.execute_type = 0) :
    (getTaskInfo groupIndex rounds st task).execute_total_num = rounds % 65536 := by
  unfold getTaskInfo
  dsimp only
  split
  · exact if_pos he
  · exact if_pos he
  · omega
  · rename_i h0 h1 _
    rcases ht with ht | ht
    · exact absurd ht h0
    · exact absurd ht h1

/-- one frame for each listed device and round -/
theorem getTaskInfo_unicast (ht : task.broadcast_type = 2) :
    (getTaskInfo groupIndex rounds st task).dev_num = task.groupNum ∧
      (getTaskInfo groupIndex rounds st task).execute_total_num = task.groupNum * rounds % 65536 := by
  unfold getTaskInfo
  dsimp only
  split
  · omega
  · omega
  · exact ⟨rfl, rfl⟩
  · rename_i h2
    exact absurd ht h2

end TaskInfo

/-! ## `LampSynchronizeConfig` -/

/-- the texts between commas; nothing follows a comma at the end -/
def segments (msg : List UInt8) : List (List UInt8) :=
  let parts := msg.splitOn 0x2C
  if parts.getLast? = some [] then parts.dropLast else parts

/-- the values its loop over the parameters carries -/
structure SyncState where
  task : Task
  /-- the address of the last text of eight digits -/
  add : UInt32
  k : ℕ
  type : ℕ

/-- `group_dev_id[k ++] = id`; `none` past the array -/
def SyncState.push (s : SyncState) (id : UInt32) : Option SyncState :=
  if s.k < MAX_LAMP_GROUP_NUM + 1 then
    some { s with
      task := { s.task with group_dev_id := fun i => if i = s.k then id else s.task.group_dev_id i }
      k := s.k + 1 }
  else none

/-- one text of parameter `0x4002`; `none` when it does not fit in `tmp` -/
def SyncState.pushText (s : SyncState) (text : List UInt8) : Option SyncState :=
  if text.length < 10 then
    if s.task.broadcast_type = 2 then
      let add := if text.length = 8 then
        match strToHex 4 text with
        | some [a, b, c, d] => getBe32 a b c d
        | _ => s.add
        else s.add
      { s with add := add }.push add
    else s.push (UInt32.ofNat (toUnsigned 32 (myatoi text)))
  else none

def SyncState.parameter (s : SyncState) (p : Protocol.Parameter) : Option SyncState :=
  let value := cstr p.value
  if p.type = 0x8001 then
    some { s with task := { s.task with broadcast_type := toUnsigned 8 (myatoi value) } }
  else if p.type = 0x4002 then (segments value).foldlM SyncState.pushText s
  else if p.type = 0x8003 then some { s with type := toUnsigned 8 (myatoi value) }
  else some s

/-- parameters `0x8001` and `0x4002`, as other handlers of the lamp read them -/
def SyncState.addressing (s : SyncState) (p : Protocol.Parameter) : Option SyncState :=
  let value := cstr p.value
  if p.type = 0x8001 then
    some { s with task := { s.task with broadcast_type := toUnsigned 8 (myatoi value) } }
  else if p.type = 0x4002 then (segments value).foldlM SyncState.pushText s
  else some s

/-- the task for a `type`, from the one the parameters filled -/
def syncTask (st : Store) (type : ℕ) (task : Task) : Task :=
  let task := match type with
    | 0 => lampGetLampPlcExecuteTaskInfo st { task with cmd_code := 0x01D0, execute_type := 1 }
    | 1 => lampGetLampPlcExecuteTaskInfo1 st { task with cmd_code := 0x01D3 }
    | 2 => { task with
        cmd_code := 0x01D5
        dev_num := st.lampNumList.number
        execute_total_num := st.lampStrategyNumList.number }
    | _ => task
  { task with notify_enable := 1 }

/-- the parameters of a message, read in order -/
def syncParameters (s : ServerFrameStruct) : Option SyncState :=
  (List.range s.para_num).foldlM
    (fun acc j => (s.paraAt j).bind fun p => acc.parameter p) ⟨.zero, 0, 0, 0⟩

/-- the task `LampSynchronizeConfig` queues; `none` when a text or an address is stored outside its array -/
def lampSynchronizeConfig (st : Store) (s : ServerFrameStruct) : Option Task :=
  (syncParameters s).map fun r => syncTask st r.type r.task

/-- a message with three text parameters: how it is sent, to whom, and what is synchronised -/
def syncMsg (broadcast_type ids type : List UInt8) : ServerFrameStruct :=
  { ServerFrameStruct.zero with
    para_num := 3
    para := [some ⟨0x8001, broadcast_type.length, broadcast_type ++ [0]⟩, some ⟨0x4002, ids.length, ids ++ [0]⟩,
      some ⟨0x8003, type.length, type ++ [0]⟩] }

/-- the task of a message, where there is one -/
def syncedTask (st : Store) (s : ServerFrameStruct) : Task := (lampSynchronizeConfig st s).getD .zero

theorem syncedTask_eq {st : Store} {s : ServerFrameStruct} (h : (lampSynchronizeConfig st s).isSome = true) :
    lampSynchronizeConfig st s = some (syncedTask st s) := by
  obtain ⟨task, htask⟩ := Option.isSome_iff_exists.1 h
  rw [syncedTask, htask]
  rfl

/-! ### The task it builds -/

/-- the parameters set the addressing of a task and nothing else of it -/
def Addressed (r : SyncState) : Prop :=
  ∃ bt ids, r.task = { Task.zero with broadcast_type := bt, group_dev_id := ids }

theorem addressed_pushText (s : SyncState) (text : List UInt8) (s' : SyncState) (hs : Addressed s)
    (h : s.pushText text = some s') : Addressed s' := by
  obtain ⟨bt, ids, hs⟩ := hs
  simp only [SyncState.pushText, SyncState.push] at h
  split_ifs at h <;> (cases h; exact ⟨bt, _, by rw [hs]⟩)

theorem addressed_parameter (s : SyncState) (p : Protocol.Parameter) (s' : SyncState) (hs : Addressed s)
    (h : s.parameter p = some s') : Addressed s' := by
  simp only [SyncState.parameter] at h
  split_ifs at h
  · obtain ⟨bt, ids, hs⟩ := hs
    cases h
    exact ⟨_, ids, by rw [hs]⟩
  · exact CLoop.foldlM_inv addressed_pushText _ s s' hs h
  · obtain ⟨bt, ids, hs⟩ := hs
    cases h
    exact ⟨bt, ids, hs⟩
  · cases h
    exact hs

theorem addressed_syncParameters (s : ServerFrameStruct) (r : SyncState) (h : syncParameters s = some r) :
    Addressed r := by
  refine CLoop.foldlM_inv ?_ _ _ r ⟨0, fun _ => 0, rfl⟩ h
  intro acc j acc' hacc hj
  obtain ⟨p, _, hp⟩ := Option.bind_eq_some_iff.1 hj
  exact addressed_parameter acc p acc' hacc hp

/-- the addressing of a task, and nothing else -/
def Task.addressed (bt : ℕ) (ids : ℕ → UInt32) : Task := { Task.zero with broadcast_type := bt, group_dev_id := ids }

/-- what a message queues: a task for its `type`, from an addressing -/
theorem sync_cases {st : Store} {s : ServerFrameStruct} {task : Task} (h : lampSynchronizeConfig st s = some task) :
    ∃ type bt ids, task = syncTask st type (.addressed bt ids) := by
  obtain ⟨r, hr, rfl⟩ := Option.map_eq_some_iff.1 h
  obtain ⟨bt, ids, hr⟩ := addressed_syncParameters s r hr
  exact ⟨r.type, bt, ids, congrArg (syncTask st r.type) hr⟩

/-- the command of a `type` -/
def syncCode : ℕ → ℕ
  | 0 => 0x01D0
  | 1 => 0x01D3
  | 2 => 0x01D5
  | _ => 0

theorem syncTask_code (st : Store) (type bt : ℕ) (ids : ℕ → UInt32) :
    (syncTask st type (.addressed bt ids)).cmd_code = syncCode type := by
  match type with
  | 0 =>
    change (lampGetLampPlcExecuteTaskInfo st _).cmd_code = _
    rw [lampGetLampPlcExecuteTaskInfo, getTaskInfo_frame]
    rfl
  | 1 =>
    change (lampGetLampPlcExecuteTaskInfo1 st _).cmd_code = _
    rw [lampGetLampPlcExecuteTaskInfo1, getTaskInfo_frame]
    rfl
  | 2 => rfl
  | _ + 3 => rfl

/-- a task for the basic configuration is counted by `LampGetLampPlcExecuteTaskInfo` -/
theorem sync_config {st : Store} {s : ServerFrameStruct} {task : Task} (h : lampSynchronizeConfig st s = some task)
    (hc : task.cmd_code = 0x01D0) : ∃ bt ids, task =
      { lampGetLampPlcExecuteTaskInfo st { Task.addressed bt ids with cmd_code := 0x01D0, execute_type := 1 } with
        notify_enable := 1 } := by
  obtain ⟨type, bt, ids, rfl⟩ := sync_cases h
  have htype : type = 0 := by
    rw [syncTask_code, syncCode.eq_def] at hc
    split at hc <;> omega
  rw [htype]
  exact ⟨bt, ids, rfl⟩

/-- a scene task is counted by `LampGetLampPlcExecuteTaskInfo1` -/
theorem sync_scene {st : Store} {s : ServerFrameStruct} {task : Task} (h : lampSynchronizeConfig st s = some task)
    (hc : task.cmd_code = 0x01D3) : ∃ bt ids, task =
      { lampGetLampPlcExecuteTaskInfo1 st { Task.addressed bt ids with cmd_code := 0x01D3 } with notify_enable := 1 } := by
  obtain ⟨type, bt, ids, rfl⟩ := sync_cases h
  have htype : type = 1 := by
    rw [syncTask_code, syncCode.eq_def] at hc
    split at hc <;> omega
  rw [htype]
  exact ⟨bt, ids, rfl⟩

/-- a strategy task counts the stored strategies -/
theorem sync_strategy {st : Store} {s : ServerFrameStruct} {task : Task} (h : lampSynchronizeConfig st s = some task)
    (hc : task.cmd_code = 0x01D5) : ∃ bt ids, task =
      { Task.addressed bt ids with
        cmd_code := 0x01D5
        dev_num := st.lampNumList.number
        execute_total_num := st.lampStrategyNumList.number
        notify_enable := 1 } := by
  obtain ⟨type, bt, ids, rfl⟩ := sync_cases h
  have htype : type = 2 := by
    rw [syncTask_code, syncCode.eq_def] at hc
    split at hc <;> omega
  rw [htype]
  exact ⟨bt, ids, rfl⟩

/-- only the synchronisation of the basic configuration addresses the lamps one by one -/
theorem executeType_of_sync (st : Store) (s : ServerFrameStruct) (task : Task)
    (h : lampSynchronizeConfig st s = some task) (hc : task.cmd_code = 0x01D3 ∨ task.cmd_code = 0x01D5) :
    task.execute_type = 0 := by
  rcases hc with hc | hc
  · obtain ⟨bt, ids, rfl⟩ := sync_scene h hc
    rw [lampGetLampPlcExecuteTaskInfo1, getTaskInfo_frame]
    rfl
  · obtain ⟨bt, ids, rfl⟩ := sync_strategy h hc
    rfl

end DataConcentrator.Plc
