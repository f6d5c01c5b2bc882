/-
The configuration store: the `Read*` and `Write*` functions of the `_conf.c` files and of `e_meter.c`, over the
EEPROM and the RAM copies of the records.

Each record is a packed struct (`fields`), the last two bytes its CRC16. `sizeof_eq_len` is the reason a `Read*`,
which reads `sizeof(struct)` bytes, reads what the `Write*`, which writes `_LEN` bytes, wrote.

The families:
- `readGlobal` / `writeGlobal`: one global variable; a bad CRC, or a count over its bound, resets the RAM copy;
- `readTable`: reads the count record, then the entries below the count;
- `readByIndex`: fills the caller's struct and returns whether the CRC matched;
- `writeByValue`: the two lamp writers, which take the struct by value;
- `readRunMode` / `writeRunMode`: the run mode, a byte and a big-endian CRC.

Not in the model: the module states (`RelayModuleState` and its siblings) that are derived from a record after it is
read or written, and the flash erase at the end of `ReadFrameWareState` and `ReadLampFrameWareState`. No function here
reads them back.
-/
import DataConcentrator.Eeprom.AddressMap
import DataConcentrator.Common.Crc

namespace DataConcentrator.Eeprom

/-! ## Record layouts -/

/-- a struct field: its width, and what the reset branch of the writer stores in it (`none`: it leaves it alone) -/
structure Field where
  name : String
  width : ℕ
  onReset : Option (List UInt8)
  fits : ∀ v ∈ onReset, v.length = width

namespace Field

def zero (name : String) (width : ℕ) : Field := ⟨name, width, some (List.replicate width 0), by simp⟩

def keep (name : String) (width : ℕ) : Field := ⟨name, width, none, by simp⟩

def set (name : String) (bs : List UInt8) : Field := ⟨name, bs.length, some bs, by simp⟩

end Field

/-- an ASCII text in a zero-filled array of `width` bytes -/
def textBytes (s : String) (width : ℕ) : List UInt8 :=
  (s.toList.map fun c => UInt8.ofNat c.toNat) ++ List.replicate (width - s.length) 0

/-- a `Uint32TypeNumber_S` that resets to 0 -/
def countFields : List Field := [.zero "number" 4, .zero "crc16" 2]

/-- `FrameWareState_S` -/
def frameWareStateFields : List Field :=
  [.zero "state" 1, .zero "total_bags" 2, .zero "current_bag_cnt" 2, .zero "bag_size" 2, .zero "last_bag_size" 2,
   .zero "total_size" 4, .keep "file_name" 31, .zero "md5" 33, .zero "crc16" 2]

/-- `RelaySenceConfig_S` and `LampSenceConfig_S` -/
def senceConfigFields : List Field :=
  [.zero "group_id" 1, .zero "priority" 1, .zero "time_range_num" 1, .zero "range" 90, .zero "crc16" 2]

/-- the same four bytes for each day of the year table -/
def dailySwitchTimes (onOff : List UInt8) (days : ℕ) : List UInt8 :=
  (List.replicate days [onOff.getD 0 0, onOff.getD 1 0, onOff.getD 2 0, onOff.getD 3 0]).flatten

theorem length_dailySwitchTimes (onOff : List UInt8) (days : ℕ) : (dailySwitchTimes onOff days).length = days * 4 := by
  simp [dailySwitchTimes]

def switchTimeTable (onOff : List UInt8) : Field :=
  ⟨"switch_time_month_table", 12 * 31 * 4, some (dailySwitchTimes onOff (12 * 31)), by
    intro v hv; cases hv; exact length_dailySwitchTimes onOff (12 * 31)⟩

/-- the packed struct of a record; `onOff` is the RAM copy of `RelayModuleBasicConfig`, whose first four bytes fill
the year table when the location record is reset -/
def Kind.fields (onOff : List UInt8) : Kind → List Field
  | .concentratorBasicConf =>
    [.set "connection_mode" [0], .set "server_ip" (textBytes "103.48.232.119" 31),
     .set "server_port" (textBytes "7703" 6), .set "heartbeat_cycle" [60, 0],
     .zero "electric_energy_collection_cycle" 2, .zero "electric_energy_recording_time" 1,
     .zero "cupboard_alarm_collection_cycle" 2, .zero "cupboard_alarm_recording_time" 1,
     .set "command_response_timeout" [60, 0], .set "command_retransmission_times" [3],
     .set "heartbeat_response_timeout" [30, 0], .set "heartbeat_retransmission_times" [2],
     .set "operation_password" (textBytes "000000" 7), .set "manufacturer_name" (textBytes "linktech" 33),
     .set "manufacturer_website" (textBytes "www.bjlinktech.com" 33), .zero "crc16" 2]
  | .concentratorRunMode => [.set "RunMode" [1], .keep "crc16" 2]
  | .concentratorAlarmConf =>
    [.set "power_off_alarm_enable" [1], .set "power_off_alarm_thre" [100, 0],
     .set "power_off_alarm_rm_percent" [10, 0], .set "electric_leakage_alarm_enable" [1],
     .set "electric_leakage_alarm_v_thre" [30, 0], .set "electric_leakage_alarm_v_rm_percent" [10],
     .set "electric_leakage_alarm_c_thre" [100, 0], .set "electric_leakage_alarm_c_rm_percent" [10],
     .set "low_battery_alarm_enable" [1], .set "low_battery_alarm_thre" [20],
     .set "low_battery_alarm_rm_percent" [10], .set "abnormal_charge_alarm_enable" [1],
     .set "abnormal_charge_alarm_v_thre" [20, 0], .set "abnormal_charge_alarm_v_rm_percent" [10],
     .set "abnormal_charge_alarm_c_thre" [0x20, 0x03], .set "abnormal_charge_alarm_c_rm_percent" [10],
     .zero "crc16" 2]
  | .concentratorGateWay => [.set "number" [0x0A, 0, 0, 0], .zero "crc16" 2]
  | .electricityInMeterRatio =>
    [.set "voltage_ratio" [0, 0, 0x80, 0x3F], .set "current_ratio" [0, 0, 0x80, 0x3F], .zero "crc16" 2]
  | .concentratorLocationConf =>
    [.set "longitude" [0xDB, 0x14, 0x8F, 0x8B, 0x6A, 0x19, 0x5D, 0x40],
     .set "latitude" [0x54, 0x73, 0xB9, 0xC1, 0x50, 0xF5, 0x43, 0x40],
     switchTimeTable onOff, .zero "crc16" 2]
  | .fwState => frameWareStateFields
  | .concentratorLocalNetConf =>
    [.keep "connection_mode" 1, .set "dhcp_enable" [0], .set "local_ip" [192, 168, 0, 10],
     .set "local_msak" [255, 255, 255, 0], .set "local_gate" [192, 168, 0, 1], .set "local_dns" [192, 168, 0, 1],
     .set "remote_ip" [103, 48, 232, 119], .set "remote_port" [0x17, 0x1E], .zero "crc16" 2]
  | .relayModuleStrategySwitch =>
    [.zero "group_num" 1, .zero "group_id" 10, .zero "type" 1, .zero "time" 15, .zero "crc16" 2]
  | .relayModuleAppointmentNum => countFields
  | .relayModuleStrategyNum => countFields
  | .relayModuleConfNum => countFields
  | .relayModuleBasicConf =>
    [.set "on_hour" [18], .set "on_minute" [0], .set "off_hour" [6], .set "off_minute" [0],
     .set "state_monitoring_cycle" [30, 0], .set "state_recording_time" [30], .zero "crc16" 2]
  | .relayModuleConf =>
    [.set "address" [0xFF], .set "channel" [0xFF], .zero "loop_num" 1, .zero "interval_time" 2, .zero "module" 16,
     .set "loop_enable" [0xFF, 0xFF], .zero "loop_group" 192, .zero "loop_alarm_thre" 60, .zero "crc16" 2]
  | .relayModuleAlarmConf =>
    [.zero "relay_abnormal_alarm_enable" 1, .zero "contact_abnormal_alarm_enable" 1,
     .zero "task_abnormal_alarm_enable" 1, .zero "crc16" 2]
  | .relayModuleAppointment => senceConfigFields
  | .relayModuleStrategy =>
    [.zero "group_id" 1, .zero "type" 1, .zero "time" 2, .zero "time_option" 1, .zero "action_num" 1,
     .zero "action" 30, .zero "crc16" 2]
  | .inputCollectorBasicConf => [.set "detect_interval" [0x88, 0x13], .set "auto_report" [0], .zero "crc16" 2]
  | .inputCollectorConfNum => countFields
  | .inputCollectorConf =>
    [.set "address" [0xFF], .set "channel" [0xFF], .zero "d_loop_num" 1, .zero "a_loop_num" 1,
     .zero "a_quantity_range" 4, .zero "confirm_time" 1, .zero "module" 16, .zero "d_alarm_thre" 56,
     .zero "a_alarm_thre" 176, .zero "crc16" 2]
  | .inputCollectorAlarmConf =>
    [.zero "d_quantity_abnormal_alarm_enable" 1, .zero "a_quantity_abnormal_alarm_enable" 1, .zero "crc16" 2]
  | .electricityMeterBasicConf => [.set "detect_interval" [0x88, 0x13], .set "auto_report" [0], .zero "crc16" 2]
  | .electricityMeterConfNum => countFields
  -- the `memset` clears `sizeof(ElectricityMeterState_S)` = 564 bytes, which ends inside `alarm_thre`
  | .electricityMeterConf =>
    [.set "address" [0xFF], .set "channel" [0xFF], .zero "ch_num" 1, .set "voltage_ratio" [0, 0, 0x80, 0x3F],
     .set "current_ratio" [0, 0, 0x80, 0x3F], .zero "voltage_range_of_change" 4, .zero "current_range_of_change" 4,
     .zero "pf_range_of_change" 4, .zero "confirm_time" 1, .zero "module" 16, .zero "alarm_thre" 525,
     .keep "alarm_thre (rest)" 427, .keep "crc16" 2]
  | .electricityMeterAlarmConf => [.zero "electrical_parameters_thre_over_alarm_enable" 1, .zero "crc16" 2]
  | .lampListNum => [.zero "number" 2, .zero "list" 64, .zero "crc16" 2]
  | .lampAppointmentNum => countFields
  | .lampGroupListNum => [.zero "list" 20, .zero "crc16" 2]
  | .lampBasicConf =>
    [.set "auto_sync_time_cycle" [0x80, 0x51, 0x01, 0x00], .zero "auto_report_plc_state" 1,
     .zero "state_collection_cycle" 2, .zero "state_collection_offset" 2, .zero "state_recording_time" 1,
     .set "response_timeout" [30, 0], .set "retransmission_times" [1], .set "broadcast_times" [10],
     .set "broadcast_interval_time" [0xF4, 0x01], .zero "crc16" 2]
  | .lampFwState => frameWareStateFields
  | .lampAppointment => senceConfigFields
  -- the two lamp writers reset the CRC alone
  | .lampConf =>
    [.keep "address" 4, .keep "advance_time" 1, .keep "delay_time" 1, .keep "longitude" 4, .keep "latitude" 4,
     .keep "light_wane" 1, .keep "auto_report" 1, .keep "adjust_type" 1, .keep "node_loss_check_times" 1,
     .keep "default_brightness" 1, .keep "group" 10, .zero "crc16" 2]
  | .lampStrategy =>
    [.keep "group_id" 1, .keep "type" 1, .keep "executor" 1, .keep "time" 2, .keep "time_option" 1,
     .keep "brightness" 2, .keep "ctrl_mode" 1, .keep "group_add" 40, .zero "crc16" 2]
  | .lampStrategyListNum => [.zero "number" 2, .zero "list" 64, .zero "crc16" 2]
  | .lumeterConfNum => countFields
  | .lumeterBasicConf =>
    [.set "collect_cycle" [0x88, 0x13], .set "stack_depth" [20], .set "ignore_num" [5],
     .set "auto_report_cycle" [60, 0], .set "data_source" [0], .set "light_on_thre" [40, 0, 0, 0],
     .set "light_on_advance_time" [30, 0], .set "light_on_delay_time" [30, 0], .set "light_off_thre" [40, 0, 0, 0],
     .set "light_off_advance_time" [30, 0], .set "light_off_delay_time" [30, 0], .zero "crc16" 2]
  | .lumeterAlarmConf =>
    [.zero "lumeter_thre_over_alarm_enable" 1, .zero "lumeter_abnormal_alarm_enable" 1, .zero "crc16" 2]
  | .lumeterConf =>
    [.set "address" [0xFF], .set "channel" [0xFF], .keep "module" 16, .zero "min_valid_value" 4,
     .zero "min_valid_value_range" 4, .zero "max_valid_value" 4, .zero "max_valid_value_range" 4,
     .set "valid_value_confirm_time" [10], .set "value_unchanged_range" [0xE8, 0x03, 0, 0],
     .set "no_response_time" [10], .zero "crc16" 2]

/-- `sizeof` of a record's packed struct -/
def Kind.sizeof (k : Kind) : ℕ := ((k.fields []).map Field.width).sum

/-- **Every packed struct has the length its `_LEN` constant says** -/
theorem sizeof_eq_len (k : Kind) : k.sizeof = k.len := by cases k <;> decide +kernel

/-- overwrite the fields that the reset branch sets -/
def resetFields : List Field → List UInt8 → List UInt8
  | [], bs => bs
  | f :: fs, bs => f.onReset.getD (bs.take f.width) ++ resetFields fs (bs.drop f.width)

theorem length_resetFields (fs : List Field) (bs : List UInt8) (h : (fs.map Field.width).sum ≤ bs.length) :
    (resetFields fs bs).length = bs.length := by
  induction fs generalizing bs with
  | nil => rfl
  | cons f fs ih =>
    simp only [List.map_cons, List.sum_cons] at h
    have hhead : (f.onReset.getD (bs.take f.width)).length = f.width := by
      cases hr : f.onReset with
      | none => simp; omega
      | some v => exact f.fits v hr
    rw [resetFields, List.length_append, hhead, ih _ (by simp; omega), List.length_drop]
    omega

/-- the widths do not depend on the year table's entries -/
theorem sum_widths (onOff : List UInt8) (k : Kind) : ((k.fields onOff).map Field.width).sum = k.len := by
  rw [← sizeof_eq_len k, Kind.sizeof]
  cases k <;> rfl

/-! ## CRC seal -/

/-- the record with its CRC16 stored in the last two bytes, as a little-endian `u16` -/
def sealRecord (bs : List UInt8) : List UInt8 :=
  let body := bs.take (bs.length - 2)
  body ++ [(crc16 body).2, (crc16 body).1]

/-- the check of a `Read*`: the CRC16 of the body is the stored one -/
def crcMatches (bs : List UInt8) : Bool :=
  let body := bs.take (bs.length - 2)
  bs.drop (bs.length - 2) = [(crc16 body).2, (crc16 body).1]

theorem length_sealRecord {bs : List UInt8} (h : 2 ≤ bs.length) : (sealRecord bs).length = bs.length := by
  simp [sealRecord]; omega

theorem crcMatches_sealRecord {bs : List UInt8} (h : 2 ≤ bs.length) : crcMatches (sealRecord bs) = true := by
  have hlen : (sealRecord bs).length - 2 = bs.length - 2 := by rw [length_sealRecord h]
  have hbody : (bs.take (bs.length - 2)).length = bs.length - 2 := by simp
  simp only [crcMatches, hlen, decide_eq_true_eq]
  rw [show (sealRecord bs).take (bs.length - 2) = bs.take (bs.length - 2) by
      rw [sealRecord, List.take_append_of_le_length hbody.ge, List.take_take, min_self]]
  rw [sealRecord, List.drop_append_of_le_length hbody.ge, List.drop_take, Nat.sub_self]
  simp

/-! ## Counts -/

/-- little-endian value -/
def leNat (bs : List UInt8) : ℕ := bs.foldr (fun b n => b.toNat + 256 * n) 0

/-- the count records whose reader checks a bound: the width of `number` and the bound -/
def Kind.countBound : Kind → Option (ℕ × ℕ)
  | .relayModuleConfNum => some (4, 5)
  | .relayModuleAppointmentNum => some (4, 10)
  | .relayModuleStrategyNum => some (4, 300)
  | .inputCollectorConfNum => some (4, 10)
  | .electricityMeterConfNum => some (4, 6)
  | .lampListNum => some (2, 512)
  | .lampStrategyListNum => some (2, 512)
  | .lampAppointmentNum => some (4, 10)
  | .lumeterConfNum => some (4, 4)
  | _ => none

/-- the `number` field is within the bound the reader checks -/
def Kind.countOk (k : Kind) (bs : List UInt8) : Bool :=
  match k.countBound with
  | none => true
  | some (w, m) => leNat (bs.take w) ≤ m

/-- the collections read in one loop, with their count record -/
def Kind.countKind : Kind → Option Kind
  | .relayModuleConf => some .relayModuleConfNum
  | .inputCollectorConf => some .inputCollectorConfNum
  | .electricityMeterConf => some .electricityMeterConfNum
  | .lumeterConf => some .lumeterConfNum
  | _ => none

/-- the collections whose readers fill the caller's struct -/
def Kind.byIndex : Kind → Bool
  | .relayModuleAppointment => true
  | .relayModuleStrategy => true
  | .lampAppointment => true
  | .lampConf => true
  | .lampStrategy => true
  | _ => false

/-- the index a reader computes its address from: `u16 i` for the lamp records, `u8 i` for the others -/
def Kind.readIdx (k : Kind) (i : ℕ) : ℕ :=
  match k with
  | .lampConf => i % 65536
  | .lampStrategy => i % 65536
  | _ => i % 256

/-- the index a writer computes its address from: always `u8 i` -/
def Kind.writeIdx (_ : Kind) (i : ℕ) : ℕ := i % 256

/-! ## State and functions -/

structure St where
  eeprom : ℕ → UInt8
  /-- the RAM copies: the globals, and for `readByIndex` the struct handed to the caller -/
  ram : Rec → List UInt8
  /-- every call of `CAT25X_Write`: record, address, bytes -/
  log : List (Rec × ℕ × List UInt8)

namespace St

def setRam (st : St) (r : Rec) (bs : List UInt8) : St := { st with ram := Function.update st.ram r bs }

@[simp] theorem setRam_eeprom (st : St) (r : Rec) (bs : List UInt8) : (st.setRam r bs).eeprom = st.eeprom := rfl
@[simp] theorem setRam_log (st : St) (r : Rec) (bs : List UInt8) : (st.setRam r bs).log = st.log := rfl
@[simp] theorem setRam_ram_same (st : St) (r : Rec) (bs : List UInt8) : (st.setRam r bs).ram r = bs := by
  simp [setRam]
theorem setRam_ram_of_ne (st : St) {r s : Rec} (bs : List UInt8) (h : s ≠ r) :
    (st.setRam r bs).ram s = st.ram s := by
  simp [setRam, h]

/-- `CAT25X_Read` -/
def cat25xRead (st : St) (add n : ℕ) : List UInt8 := ByteStore.read st.eeprom add n

/-- `CAT25X_Write`, storing exactly the given bytes -/
def cat25xWrite (st : St) (r : Rec) (add : ℕ) (bs : List UInt8) : St :=
  { st with eeprom := ByteStore.write st.eeprom add bs, log := st.log ++ [(r, add, bs)] }

end St

def Rec.writeAdd (r : Rec) : ℕ := r.kind.add + r.kind.writeIdx r.idx * r.kind.len

def Rec.readAdd (r : Rec) : ℕ := r.kind.add + r.kind.readIdx r.idx * r.kind.len

/-- the RAM copy of `RelayModuleBasicConfig` -/
def onOffTimes (st : St) : List UInt8 := st.ram (.first .relayModuleBasicConf)

/-- the `reset == 1` branch. For an input collector the `memset` clears `sizeof(InputCollectorState_S)` = 266 bytes,
7 more than the struct has, so the head of the next entry goes too. -/
def resetRam (r : Rec) (st : St) : St :=
  let st1 := st.setRam r (resetFields (r.kind.fields (onOffTimes st)) (st.ram r))
  if h : r.kind = .inputCollectorConf ∧ r.idx + 1 < r.kind.max then
    let next : Rec := ⟨r.kind, r.idx + 1, h.2⟩
    st1.setRam next (List.replicate 7 0 ++ (st1.ram next).drop 7)
  else st1

/-- the `reset == 2` branch of `WriteLampFrameWareState`: a downloaded image becomes `FIRMWARE_DOWNLOADED_SUCCESS` -/
def resetLampFwState (r : Rec) (st : St) : St :=
  if (st.ram r).getD 0 0 = 3 then st.setRam r ([11] ++ ((st.ram r).drop 1).take 76 ++ [0, 0]) else resetRam r st

def applyReset (r : Rec) (reset : ℕ) (st : St) : St :=
  if reset = 1 then resetRam r st
  else if reset = 2 ∧ r.kind = .lampFwState then resetLampFwState r st
  else st

/-- the writers of a global variable or of a caller's struct -/
def writeGlobal (r : Rec) (reset : ℕ) (writeEnable : Bool) (st : St) : St :=
  let st1 := applyReset r reset st
  if writeEnable then
    let bs := sealRecord (st1.ram r)
    (st1.setRam r bs).cat25xWrite r r.writeAdd bs
  else st1

/-- `WriteLampConfig` and `WriteLampTaskConfig`: they always write; after a reset the CRC is stored as 0 -/
def writeByValue (r : Rec) (reset : ℕ) (st : St) : St :=
  if reset = 1 then st.cat25xWrite r r.writeAdd (resetFields (r.kind.fields []) (st.ram r))
  else st.cat25xWrite r r.writeAdd (sealRecord (st.ram r))

/-- `WriteRunMode`: `buf[0]` keeps its initial 0, the run mode itself is not stored -/
def writeRunMode (r : Rec) (reset : ℕ) (writeEnable : Bool) (st : St) : St :=
  let st1 := if reset = 1 then st.setRam r [1] else st
  if writeEnable then st1.cat25xWrite r r.writeAdd [0, (crc16 [0]).1, (crc16 [0]).2] else st1

/-- the `Write*` function of a record -/
def writeRecord (r : Rec) (reset : ℕ) (writeEnable : Bool) (st : St) : St :=
  match r.kind with
  | .concentratorRunMode => writeRunMode r reset writeEnable st
  | .lampConf => writeByValue r reset st
  | .lampStrategy => writeByValue r reset st
  | _ => writeGlobal r reset writeEnable st

/-- the readers of a global variable; the two firmware states are reset in the EEPROM as well -/
def readGlobal (r : Rec) (st : St) : St :=
  let bs := st.cat25xRead r.readAdd r.kind.sizeof
  let st1 := st.setRam r bs
  if crcMatches bs && r.kind.countOk bs then st1
  else writeGlobal r 1 (r.kind = .fwState || r.kind = .lampFwState) st1

/-- `ReadRunMode` -/
def readRunMode (r : Rec) (st : St) : St :=
  let buf := st.cat25xRead r.readAdd r.kind.len
  if buf.drop 1 = [(crc16 (buf.take 1)).1, (crc16 (buf.take 1)).2] then st.setRam r (buf.take 1)
  else writeRunMode r 1 false st

/-- one turn of the loop of `ReadRelayModuleConfig` and its siblings -/
def readEntry (k : Kind) (st : St) (i : ℕ) : St :=
  if h : i < k.max then readGlobal ⟨k, i, h⟩ st else st

/-- the readers of a collection with a count record -/
def readTable (k : Kind) (count : Rec) (st : St) : St :=
  let st1 := readGlobal count st
  (List.range (leNat ((st1.ram count).take 4))).foldl (readEntry k) st1

/-- the readers that fill the caller's struct, with their result -/
def readByIndex (r : Rec) (st : St) : Bool × St :=
  let bs := st.cat25xRead r.readAdd r.kind.sizeof
  (crcMatches bs, st.setRam r bs)

/-- the `Read*` function of a record -/
def readRecord (r : Rec) (st : St) : St :=
  if r.kind = .concentratorRunMode then readRunMode r st
  else if r.kind.byIndex then (readByIndex r st).2
  else match r.kind.countKind with
    | some c => readTable r.kind (.first c) st
    | none => readGlobal r st

end DataConcentrator.Eeprom
