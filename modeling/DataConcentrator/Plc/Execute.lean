/-
`RecvAndExecuteLampPlcExecuteTask`: one call takes a task if none is in progress, obeys one state message, and sends at
most one frame of the task.

- `recvAndExecute`: one call; a fault is a `NULL` task dereferenced or a `frame.buf` freed that was never set;
- `build`: how a task chooses its next frame;
- `after`: the state after `n` calls.

Queues and notices never overflow. The frame on the stack is not initialised when the function is entered.
-/
import DataConcentrator.Plc.UserFrame

namespace DataConcentrator.Plc

/-! ## State -/

/-- `LampPlcExecuteTaskState_S` -/
structure StateMsg where
  cmd_code : ℕ
  state : ℕ
deriving DecidableEq

inductive Event where
  | sent (frame : PlcFrame)
  /-- a copy of the task, on `xQueue_LampPlcExecuteTaskFromPlc` -/
  | notice (task : Task)
  | finished (task : Task)

/-- the statics, the queues, and what has happened -/
structure St where
  tasks : List Task
  msgs : List StateMsg
  task_progress : Option Task
  task_backup : Option Task
  add_index : ℕ
  time_sec : ℕ
  trace : List Event

/-- what `SendPlcFrameToDeviceAndWaitResponse` returns -/
inductive Response where
  | start | success | fail | timeout
deriving DecidableEq

def Response.state : Response → ExecuteState
  | start => .start
  | success => .success
  | fail => .fail
  | timeout => .timeout

/-- what a call meets: new entries in the queues, the answer to its frame, the clock, and the stack -/
structure Call where
  tasks : List Task
  msgs : List StateMsg
  response : Response
  tick : ℕ
  /-- the stack does not hold `NULL` where `frame.buf` is -/
  stackBuf : Bool
  stackConfig : LampConfig
  stackMode : ℕ

inductive Fault where
  | nullTask
  | wildFree
deriving DecidableEq

/-! ## The next frame -/

/-- how the branches end: at `goto FINISHED`, or with a frame or none -/
inductive Built where
  | finished (task : Task) (add_index : ℕ)
  | built (task : Task) (frame : PlcFrame) (got_frame : Bool) (add_index : ℕ)

def Built.bind : Built → (Task → PlcFrame → Bool → ℕ → Built) → Built
  | .finished task add_index, _ => .finished task add_index
  | .built task frame got_frame add_index, f => f task frame got_frame add_index

/-- a frame within the budget of the task, counted in `executed_num` -/
def countedFrame (st : Store) (lamp_config : LampConfig) (c : Call) (add_index : ℕ) (task : Task) (frame : PlcFrame) :
    Built :=
  if task.executed_num < task.execute_total_num then
    let r := combinePlcUserFrame st lamp_config c.stackMode add_index task frame
    .built { r.task with executed_num := inc16 r.task.executed_num } r.frame r.ret r.add_index
  else .finished task add_index

/-- the broadcast or group frame of a task -/
def groupFrame (task : Task) : PlcFrame :=
  let frame := { PlcFrame.zero with address := 0xFFFFFFFF, type := task.broadcast_type, origin := task.executed_index }
  if task.broadcast_type = 1 then
    { frame with
      group_num := task.group_num
      group_id := (List.range task.group_num).map fun i => (task.group_dev_id i).toUInt8 }
  else frame

theorem groupFrame_buf (task : Task) : (groupFrame task).buf = none := by
  unfold groupFrame
  dsimp only
  split_ifs <;> rfl

/-- the frame for one device -/
def unicastFrame (task : Task) (address : UInt32) : PlcFrame :=
  { PlcFrame.zero with
    address := address
    type := 2
    wait_ack := 1
    resp_ack := (task.execute_type + 255) % 256
    origin := task.executed_index }

/-- the lamp at an index, if it is configured and wanted -/
def Store.selectLamp (st : Store) (wanted : LampConfig → Bool) (i : ℕ) : Option LampConfig :=
  if st.readSpecifyLampNumList i then (st.lampConfig i).filter wanted else none

/-- the comparison of all groups of a lamp with all groups of the task -/
def Task.wants (task : Task) (lamp_config : LampConfig) : Bool :=
  decide (∃ j k : Fin MAX_LAMP_GROUP_NUM, (lamp_config.group j).toUInt32 = task.group_dev_id k)

/-- the loops at `READ_DEVICE_CONF1` and `READ_DEVICE_CONF2` -/
def readDeviceConf (st : Store) (c : Call) (wanted : LampConfig → Bool) :
    ℕ → Task → PlcFrame → Bool → ℕ → Built
  | 0, task, frame, got_frame, add_index => .built task frame got_frame add_index
  | fuel + 1, task, frame, got_frame, add_index =>
    (match st.selectLamp wanted task.executed_index with
      | some lamp_config =>
        countedFrame st lamp_config c add_index task (unicastFrame task lamp_config.address)
      | none => .built task frame got_frame add_index).bind fun task frame got_frame add_index =>
        let task := { task with executed_index := inc16 task.executed_index }
        if task.executed_index ≤ MAX_LAMP_CONF_NUM then
          if got_frame then .built task frame got_frame add_index
          else readDeviceConf st c wanted fuel task frame got_frame add_index
        else .finished task add_index

/-- enough rounds for every index -/
def deviceFuel : ℕ := MAX_LAMP_CONF_NUM + 2

/-- `execute_type` 0: one frame for all -/
def buildOnce (st : Store) (c : Call) (add_index : ℕ) (task : Task) : Built :=
  let task := { task with success_num := task.dev_num, failed_num := 0 }
  countedFrame st c.stackConfig c add_index task (groupFrame task)

/-- `execute_type` 1 and 2: one frame for all first, for the codes up to `0x010F`, then lamp by lamp -/
def buildEach (st : Store) (c : Call) (add_index : ℕ) (task : Task) (wanted : LampConfig → Bool) : Built :=
  if task.cmd_code ≤ 0x010F ∧ task.broadcast_state = 0 then
    let task := { task with broadcast_state := 1 }
    let r := combinePlcUserFrame st c.stackConfig c.stackMode add_index task (groupFrame task)
    readDeviceConf st c wanted deviceFuel r.task r.frame r.ret r.add_index
  else readDeviceConf st c wanted deviceFuel task .zero false add_index

/-- `broadcast_type` 2: the listed device at `executed_index` -/
def buildUnicast (st : Store) (c : Call) (add_index : ℕ) (task : Task) : Built :=
  let address := task.group_dev_id task.executed_index
  if address ≠ 0 then
    (countedFrame st c.stackConfig c add_index task (unicastFrame task address)).bind
      fun task frame got_frame add_index =>
        let task := { task with executed_index := inc16 task.executed_index }
        if task.executed_index > task.dev_num then
          if task.executed_num < task.execute_total_num then
            .built { task with executed_index := 0 } frame got_frame add_index
          else .finished task add_index
        else .built task frame got_frame add_index
  else .finished task add_index

def build (st : Store) (c : Call) (add_index : ℕ) (task : Task) : Built :=
  if task.cmd_code = 0x01D5 then
    if task.executed_num < task.execute_total_num then
      let r := combinePlcUserFrame st c.stackConfig c.stackMode add_index task .zero
      .built r.task r.frame r.ret r.add_index
    else .finished task add_index
  else if task.broadcast_type = 0 then
    if task.execute_type = 0 then buildOnce st c add_index task else buildEach st c add_index task fun _ => true
  else if task.broadcast_type = 1 then
    if task.execute_type = 0 then buildOnce st c add_index task else buildEach st c add_index task task.wants
  else if task.broadcast_type = 2 then buildUnicast st c add_index task
  else .built task .zero false add_index

/-! ## One call -/

def St.log (s : St) (e : Event) : St := { s with trace := s.trace ++ [e] }

/-- the copy sent to the lamp task -/
def St.notify (s : St) (task : Task) : St := if task.notify_enable = 1 then s.log (.notice task) else s

/-- the label `FINISHED`; `wild` when `frame.buf` still holds what the stack held and that is not `NULL` -/
def finishTask (c : Call) (wild : Bool) (s : St) : Except Fault St :=
  if wild then .error .wildFree
  else
    match s.task_progress with
    | none => .error .nullTask
    | some task =>
      let task := { task with state := .finished, spent_time := (c.tick + 65536 - s.time_sec % 65536) % 65536 }
      .ok ({ s.notify task with task_progress := none }.log (.finished task))

/-- the counters after an answer -/
def Task.count (task : Task) : Task :=
  if task.execute_type = 1 ∨ task.execute_type = 2 then
    match task.state with
    | .success => { task with success_num := inc16 task.success_num }
    | .fail => { task with failed_num := inc16 task.failed_num }
    | .timeout => { task with failed_num := inc16 task.failed_num, timeout_num := inc16 task.timeout_num }
    | _ => task
  else task

/-- the task after the branch on `STATE_SUCCESS .. STATE_TIMEOUT` -/
def Task.settle (task : Task) : Task :=
  if task.state ∈ [.success, .fail, .timeout] then { task.count with state := .start } else task

/-- the branch on `STATE_SUCCESS .. STATE_TIMEOUT`, with its notice -/
def St.settle (s : St) (task : Task) : St :=
  { if task.state ∈ [.success, .fail, .timeout] then s.notify task.settle else s with
    task_progress := some task.settle }

/-- what follows the frame -/
def conclude (c : Call) (s : St) (task : Task) : Except Fault St :=
  if task.settle.state = .finished then finishTask c false (s.settle task) else .ok (s.settle task)

/-- the call from `if(task_progress != NULL)` on -/
def execute (st : Store) (c : Call) (s : St) : Except Fault St :=
  match s.task_progress with
  | none => .ok s
  | some task =>
    match build st c s.add_index task with
    | .finished task add_index => finishTask c false { s with task_progress := some task, add_index := add_index }
    | .built task frame got_frame add_index =>
      let s := { s with add_index := add_index }
      if got_frame then conclude c (s.log (.sent frame)) { task with state := c.response.state }
      else conclude c s task

/-- new entries in the queues -/
def St.arrive (s : St) (c : Call) : St := { s with tasks := s.tasks ++ c.tasks, msgs := s.msgs ++ c.msgs }

/-- `xQueueReceive(xQueue_LampPlcExecuteTaskToPlc, ..)`, when no task is in progress -/
def receiveTask (c : Call) (s : St) : St :=
  match s.task_progress, s.tasks with
  | none, task :: tasks => { s with tasks := tasks, task_progress := some task, time_sec := c.tick }.notify task
  | _, _ => s

/-- where `switch(task_state.state)` leads -/
inductive Control where
  /-- a field of a `NULL` task is read -/
  | nullTask
  | gotoFinished (s : St)
  | goOn (s : St)

def control (msg : StateMsg) (s : St) : Control :=
  match msg.state with
  | 0 =>
    match s.task_progress, s.task_backup with
    | none, none => .nullTask
    | none, some backup =>
      if msg.cmd_code = backup.cmd_code then .goOn { s with task_progress := some backup, task_backup := none }
      else .goOn s
    | some _, _ => .goOn s
  | 1 =>
    match s.task_progress with
    | some task =>
      if msg.cmd_code = task.cmd_code then
        .gotoFinished { s with task_progress := some { task with state := .finished } }
      else .goOn s
    | none => .goOn s
  | 2 =>
    match s.task_progress with
    | some task =>
      -- `task_backup` is deleted first, so it always takes the task
      if msg.cmd_code = task.cmd_code then
        .gotoFinished { s with task_backup := some task, task_progress := none }
      else .goOn s
    | none => .goOn s
  | _ => .goOn s

/-- the switch and the rest of the call -/
def obey (st : Store) (c : Call) (msg : StateMsg) (s : St) : Except Fault St :=
  match control msg s with
  | .nullTask => .error .nullTask
  | .gotoFinished s => finishTask c c.stackBuf s
  | .goOn s => execute st c s

/-- `RecvAndExecuteLampPlcExecuteTask` -/
def recvAndExecute (st : Store) (s : St) (c : Call) : Except Fault St :=
  let s := receiveTask c (s.arrive c)
  match s.msgs with
  | [] => execute st c s
  | msg :: msgs => obey st c msg { s with msgs := msgs }

/-- the state after `n` calls -/
def after (st : Store) (calls : ℕ → Call) (s : St) : ℕ → Except Fault St
  | 0 => .ok s
  | n + 1 => (after st calls s n).bind fun s' => recvAndExecute st s' (calls n)

end DataConcentrator.Plc
