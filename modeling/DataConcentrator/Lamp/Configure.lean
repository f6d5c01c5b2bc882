/-
The basic configuration of the lamps: `LampSetBasicConfiguration`, what it stores, and the firmware task
`LampStartFirmWareUpdate` builds from the same tables.

The EEPROM copies of the RAM tables, which are read at start only, and the answers to the server are left out.
- `lampText`: the fields of one lamp parameter; `atof` gives the bits of the `float` it reads;
- `lampSetBasicConfiguration`: the handler, `none` where it reads or writes outside a buffer;
- `configureLamp_groups`: what one lamp parameter adds to the group counts and to the stored records.
-/
import DataConcentrator.Common.Crc
import DataConcentrator.Plc.Task

namespace DataConcentrator.Lamp

open Plc (Store LampConfig MAX_LAMP_CONF_NUM MAX_LAMP_GROUP_NUM inc16)
open Protocol (Parameter ServerFrameStruct)

/-! ## Reading a lamp parameter -/

/-- the text before the next byte that ends it, and the memory after that byte; `none` when nothing ends it or it does
not fit in `tmp` -/
def field (ends : UInt8 → Bool) (msg : List UInt8) : Option (List UInt8 × List UInt8) :=
  let text := msg.takeWhile fun b => !ends b
  match msg.dropWhile fun b => !ends b with
  | _ :: msg => if text.length < 17 then some (text, msg) else none
  | [] => none

def comma (b : UInt8) : Bool := b = 0x2C

def bar (b : UInt8) : Bool := b = 0x7C

/-- the ids up to the terminator -/
def groupIds (msg : List UInt8) : Option (List UInt8) :=
  if 0 ∈ msg then
    (Plc.segments (cstr msg)).mapM fun text =>
      if text.length < 17 then some (UInt8.ofNat (toUnsigned 8 (myatoi text))) else none
  else none

def putLe32 (x : UInt32) : List UInt8 := (putBe32 x).reverse

def byteOf (text : List UInt8) : UInt8 := UInt8.ofNat (toUnsigned 8 (myatoi text))

/-- the fields of a lamp parameter: the text of the address, the bytes from `advance_time` to `default_brightness`,
and the group ids -/
structure LampText where
  address : List UInt8
  settings : List UInt8
  ids : List UInt8
deriving DecidableEq

/-- the fields in the order of the text -/
def lampText (atof : List UInt8 → UInt32) (value : List UInt8) : Option LampText := do
  let (address, msg) ← field comma value
  let (advance_time, msg) ← field comma msg
  let (delay_time, msg) ← field comma msg
  let (longitude, msg) ← field comma msg
  let (latitude, msg) ← field comma msg
  let (light_wane, msg) ← field comma msg
  let (auto_report, msg) ← field comma msg
  let (adjust_type, msg) ← field comma msg
  let (node_loss_check_times, msg) ← field bar msg
  let (brightness_1, msg) ← field comma msg
  let (brightness_2, msg) ← field (fun b => bar b || b = 0) msg
  let ids ← groupIds msg
  let default_brightness := (((byteOf brightness_1 / 10) <<< 4) &&& 0xF0) + ((byteOf brightness_2 / 10) &&& 0x0F)
  some ⟨address,
    [byteOf advance_time, byteOf delay_time] ++ putLe32 (atof longitude) ++ putLe32 (atof latitude) ++
      [byteOf light_wane, byteOf auto_report, byteOf adjust_type, byteOf node_loss_check_times, default_brightness],
    ids⟩

/-- `add`, which keeps its value where the text does not have eight digits -/
def lampAddress (add : UInt32) (text : List UInt8) : UInt32 :=
  if text.length = 8 then
    match strToHex 4 text with
    | some [a, b, c, d] => getBe32 a b c d
    | _ => add
  else add

/-! ## Storing it -/

/-- `LampGroupListNum.list[group_id - 1] ++` -/
def countGroup (st : Store) (group_id : UInt8) : Store :=
  { st with
    lampGroupListNum := fun i =>
      if i = (group_id.toNat : ℤ) - 1 then inc16 (st.lampGroupListNum i) else st.lampGroupListNum i }

/-- `WriteLampConfig` for a record with its checksum; the index is a `u8` -/
def writeLampConfig (st : Store) (i : ℕ) (config : LampConfig) : Store :=
  { st with lampConfig := fun n => if n = i % 256 then some config else st.lampConfig n }

def writeSpecifyLampNumList (st : Store) (i : ℕ) (mode : ℕ) : Store :=
  if i ≥ MAX_LAMP_CONF_NUM then st
  else
    let l := st.lampNumList
    if mode = 0 then
      { st with lampNumList :=
        { number := if l.list i then (l.number + 65535) % 65536 else l.number
          list := fun n => if n = i then false else l.list n } }
    else
      { st with lampNumList :=
        { number := if l.list i then l.number else inc16 l.number
          list := fun n => if n = i then true else l.list n } }

/-- one lamp parameter: the groups are counted while they are read, the record is stored for a lamp the list knows -/
def configureLamp (st : Store) (lamp_num : ℕ) (lamp_conf : LampConfig) (ids : List UInt8) : Store :=
  let st := ids.foldl countGroup st
  if lamp_num < MAX_LAMP_CONF_NUM then writeSpecifyLampNumList (writeLampConfig st lamp_num lamp_conf) lamp_num 1
  else st

/-- the bytes of `LampGroupListNum.list` -/
def groupListBytes (st : Store) : List UInt8 :=
  (List.range MAX_LAMP_GROUP_NUM).flatMap fun i : ℕ =>
    [UInt8.ofNat (st.lampGroupListNum i), UInt8.ofNat (st.lampGroupListNum i / 256)]

/-- `CRC16` as a number -/
def crc16Value (bs : List UInt8) : ℕ := (crc16 bs).1.toNat * 256 + (crc16 bs).2.toNat

/-- `WriteLampGroupListNum(0, 1)`: the checksum follows the list in memory -/
def writeLampGroupListNum (st : Store) : Store :=
  { st with
    lampGroupListNum := fun i =>
      if i = MAX_LAMP_GROUP_NUM then crc16Value (groupListBytes st) else st.lampGroupListNum i }

/-! ## `LampSetBasicConfiguration` -/

/-- `LampBasicConfig_S` without its checksum -/
structure LampBasicConfig where
  auto_sync_time_cycle : ℕ
  auto_report_plc_state : ℕ
  state_collection_cycle : ℕ
  state_collection_offset : ℤ
  state_recording_time : ℕ
  response_timeout : ℕ
  retransmission_times : ℕ
  broadcast_times : ℕ
  broadcast_interval_time : ℕ

/-- what the handler writes -/
structure Conf where
  lampBasicConfig : LampBasicConfig
  store : Store

/-- nothing configured -/
def Conf.erased : Conf := ⟨⟨0, 0, 0, 0, 0, 0, 0, 0, 0⟩, .empty⟩

/-- the values its loop over the parameters carries -/
structure LoopState where
  lampBasicConfig : LampBasicConfig
  store : Store
  add : UInt32
  ch : UInt8

/-- `ch` after parameter `0x3002`: one or two digits are read, of one the first is taken as zero -/
def reportState (ch : UInt8) (text : List UInt8) : Option UInt8 :=
  match text with
  | [d] => some (0 * 16 + hexDigit d)
  | [d, e] => some (hexDigit d * 16 + hexDigit e)
  | _ => if text.length < 17 then some ch else none

/-- the parameters that are not lamps -/
def LoopState.basic (s : LoopState) (type : UInt16) (text : List UInt8) : Option LoopState :=
  let c := s.lampBasicConfig
  let n := myatoi text
  if type = 0x7001 then some { s with lampBasicConfig := { c with auto_sync_time_cycle := toUnsigned 32 n } }
  else if type = 0x3002 then (reportState s.ch text).map fun ch =>
    { s with ch := ch, lampBasicConfig := { c with auto_report_plc_state := ch.toNat } }
  else if type = 0x8003 then some { s with lampBasicConfig := { c with state_collection_cycle := toUnsigned 16 n } }
  else if type = 0x8004 then some { s with lampBasicConfig := { c with state_collection_offset := n.bmod 65536 } }
  else if type = 0x8005 then some { s with lampBasicConfig := { c with state_recording_time := toUnsigned 8 n } }
  else if type = 0x8006 then some { s with lampBasicConfig := { c with response_timeout := toUnsigned 16 n } }
  else if type = 0x8007 then some { s with lampBasicConfig := { c with retransmission_times := toUnsigned 8 n } }
  else if type = 0x8008 then some { s with lampBasicConfig := { c with broadcast_times := toUnsigned 8 n } }
  else some { s with lampBasicConfig := { c with broadcast_interval_time := toUnsigned 16 n } }

/-- the types `LoopState.basic` is for -/
def basicTypes : List UInt16 := [0x7001, 0x3002, 0x8003, 0x8004, 0x8005, 0x8006, 0x8007, 0x8008, 0x8009]

def lampNum (p : Parameter) : ℕ := (p.type - 0x400A).toNat

variable (atof : List UInt8 → UInt32)

/-- a text of a lamp is read as far as its bytes go, one of the others to its terminator -/
def LoopState.parameter (s : LoopState) (p : Parameter) : Option LoopState :=
  if p.type ∈ basicTypes then s.basic p.type (cstr p.value)
  else (lampText atof p.value).bind fun t =>
    if t.ids.length ≤ MAX_LAMP_GROUP_NUM then
      let add := lampAddress s.add t.address
      let lamp_conf := ⟨add, t.settings, fun k => t.ids.getD k 0⟩
      some { s with add := add, store := configureLamp s.store (lampNum p) lamp_conf t.ids }
    else none

/-- the parameters of a message -/
def parameters (s : ServerFrameStruct) : Option (List Parameter) := (List.range s.para_num).mapM s.paraAt

def lampSetBasicConfiguration (c : Conf) (s : ServerFrameStruct) : Option Conf :=
  (parameters s).bind fun ps =>
    (ps.foldlM (LoopState.parameter atof) ⟨c.lampBasicConfig, c.store, 0, 0⟩).map fun r =>
      ⟨r.lampBasicConfig, writeLampGroupListNum r.store⟩

/-! ## `LampStartFirmWareUpdate` -/

/-- `FrameWareState` and the state of `LampFrameWareState`, as far as the function reads them -/
structure Images where
  md5 : List UInt8
  total_bags : ℕ
  lampState : ℕ

def FIRMWARE_DOWNLOADED_SUCCESS : ℕ := 11

/-- the task after the parameters -/
def updateTask (images : Images) (st : Store) (k : ℕ) (task : Plc.Task) : Plc.Task :=
  let task := { task with notify_enable := 1, cmd_code := 0x01F3, execute_total_num := images.total_bags }
  match task.broadcast_type with
  | 0 => { task with dev_num := st.lampNumList.number }
  | 1 => { task with
      group_num := k
      dev_num := (List.range k).foldl
        (fun n m => (n + st.lampGroupListNum (task.group_dev_id m).toNat) % 65536) task.dev_num }
  | 2 => { task with execute_type := 1, dev_num := k, execute_total_num := k * images.total_bags % 65536 }
  | _ => task

/-- one parameter: `.error` is the `state` the task is given up with. The digest is always read from the first
parameter -/
def updateParameter (images : Images) (first : Option Parameter) (s : Plc.SyncState) (p : Parameter) :
    Option (Except ℕ Plc.SyncState) :=
  let value := cstr p.value
  if p.type = 0x8001 then
    some (.ok { s with task := { s.task with broadcast_type := toUnsigned 8 (myatoi value) } })
  else if p.type = 0x4002 then ((Plc.segments value).foldlM Plc.SyncState.pushText s).map .ok
  else if p.type = 0x4003 then first.bind fun first =>
    if first.len ≤ 32 then
      if searchStr (cstr (first.value.take first.len)) images.md5 = none then some (.error 2)
      else if images.lampState ≠ FIRMWARE_DOWNLOADED_SUCCESS then some (.error 3)
      else some (.ok s)
    else none
  else some (.ok s)

/-- the parameters in order, up to one that gives the task up -/
def updateParameters (images : Images) (first : Option Parameter) :
    List Parameter → Plc.SyncState → Option (Except ℕ Plc.SyncState)
  | [], s => some (.ok s)
  | p :: ps, s => (updateParameter images first s p).bind fun
    | .error state => some (.error state)
    | .ok s => updateParameters images first ps s

/-- the task it queues, or the `state` it answers with -/
def lampStartFirmWareUpdate (images : Images) (st : Store) (s : ServerFrameStruct) : Option (Except ℕ Plc.Task) :=
  (parameters s).bind fun ps =>
    (updateParameters images ps.head? ps ⟨.zero, 0, 0, 0⟩).map fun r => r.map fun r => updateTask images st r.k r.task

end DataConcentrator.Lamp
