/-
The handlers of alarm configurations: `RelaySetAlarmConfiguration`, `LumeterSetAlarmConfiguration`, the concentrator's
`SetAlarmConfiguration` and `LampSetAlarmConfiguration`.

Their loops run over `para[j]`. `i`, which indexes `tmp`, is 0 again after every case: where a case reads `para[i]` it
reads `para[0]`, the parameter `first` below.
- `caseStores`: the shape they share, a table of cases with one number and the cases with a text of their own;
- `relayOwner`, `lumeterOwner`, `concentratorOwner`, `lampOwner`: the type that names each field.

A configuration is a function on its fields, an `s8` its byte. The answers and the copies in the EEPROM are left out.
-/
import DataConcentrator.AlarmConfig.Texts
import DataConcentrator.Plc.Task

namespace DataConcentrator.AlarmConfig

open Plc (SyncState Store Task)

/-! ## Cases -/

variable {F : Type*}

/-- `field = myatoi(value)` for a `u8` -/
def flag (field : F) (p : TextParameter) : List (F × ℕ) := [(field, toUnsigned 8 (myatoi p.text))]

/-- the case of a parameter: `flags` are those with one number, which is read from `first` -/
def caseStores (flags : List (UInt16 × F)) (texts : TextParameter → Option (List (F × ℕ))) (first p : TextParameter) :
    Option (List (F × ℕ)) :=
  match flags.lookup p.type with
  | some field => some (flag field first)
  | none => texts p

/-- `para[0]`; a loop over no parameters does not read it -/
def firstOf (paras : List TextParameter) : TextParameter := paras.headD .empty

/-! ## `RelaySetAlarmConfiguration` -/

def MAX_RELAY_MODULE_CONF_NUM : ℕ := 5
def MAX_RELAY_MODULE_LOOP_CH_NUM : ℕ := 12

/-- `RelayAlarmConfig` and `RelayModuleConfig[m].loop_alarm_thre[loop][k]` -/
inductive RelayField where
  | relay_abnormal_alarm_enable
  | contact_abnormal_alarm_enable
  | task_abnormal_alarm_enable
  | loop_alarm_thre (m loop k : ℕ)
deriving DecidableEq, Repr

def relayOwner : RelayField → UInt16
  | .relay_abnormal_alarm_enable => 0x6001
  | .contact_abnormal_alarm_enable => 0x6003
  | .task_abnormal_alarm_enable => 0x6005
  | .loop_alarm_thre _ _ _ => 0x4004

/-- the index of the configured module with an address and a channel, or how many there are -/
def moduleIndex (modules : List (ℤ × ℕ)) (add : ℤ) (ch : ℕ) : ℕ := modules.findIdx fun e => e.1 = add ∧ e.2 = ch

/-- address and channel at the start of a segment: the module, and what follows -/
def readModule (modules : List (ℤ × ℕ)) (msg : List UInt8) : Option (ℕ × List UInt8) :=
  (readUntil comma msg).bind fun a => (hexByte a.1).bind fun add =>
    (readUntil comma a.2).map fun b => (moduleIndex modules add (toUnsigned 8 (myatoi b.1)), b.2)

/-- the four values after `loop_ch` -/
def loopSlots (m loop_ch : ℕ) : List (Slot RelayField) :=
  [⟨comma, .loop_alarm_thre m (loop_ch - 1) 1, 8, atoi⟩, ⟨comma, .loop_alarm_thre m (loop_ch - 1) 2, 8, hexByte⟩,
    ⟨comma, .loop_alarm_thre m (loop_ch - 1) 3, 8, atoi⟩, ⟨commaBarOrNul, .loop_alarm_thre m (loop_ch - 1) 4, 8, atoi⟩]

/-- one segment of `0x4004`; a loop that does not exist leaves the rest of the segment to the next -/
def relaySegment (modules : List (ℤ × ℕ)) (msg : List UInt8) : Option (List (RelayField × ℕ) × List UInt8) :=
  (readModule modules msg).bind fun a => (readUntil comma a.2).bind fun b =>
    let loop_ch := toUnsigned 8 (myatoi b.1)
    if loop_ch < MAX_RELAY_MODULE_LOOP_CH_NUM then
      let loop_ch := if loop_ch = 0 then 1 else loop_ch
      if a.1 < MAX_RELAY_MODULE_CONF_NUM then
        (readList (loopSlots a.1 loop_ch) b.2).map fun r => ((.loop_alarm_thre a.1 (loop_ch - 1) 0, loop_ch) :: r.1, r.2)
      else none
    else some ([], b.2)

def relayFlags : List (UInt16 × RelayField) :=
  [(0x6001, .relay_abnormal_alarm_enable), (0x6003, .contact_abnormal_alarm_enable),
    (0x6005, .task_abnormal_alarm_enable)]

def relayTexts (modules : List (ℤ × ℕ)) (p : TextParameter) : Option (List (RelayField × ℕ)) :=
  if p.type = 0x4004 then
    if p.text.length ≠ 0 then readSegments (fun _ => relaySegment modules) 0 (segNum p.text) p.value else some []
  else some []

def relayCase (modules : List (ℤ × ℕ)) : TextParameter → TextParameter → Option (List (RelayField × ℕ)) :=
  caseStores relayFlags (relayTexts modules)

/-- `none` when a text is read past its buffer, or a value is stored past an array -/
def relaySetAlarmConfiguration (modules : List (ℤ × ℕ)) (paras : List TextParameter) (c : RelayField → ℕ) :
    Option (RelayField → ℕ) :=
  Owned.run (relayCase modules (firstOf paras)) paras c

/-! ## `LumeterSetAlarmConfiguration` -/

def MAX_LUMETER_CONF_NUM : ℕ := 4

/-- `LumeterAlarmConfig` and `LumeterConfig[m]` -/
inductive LumeterField where
  | lumeter_thre_over_alarm_enable
  | lumeter_abnormal_alarm_enable
  | min_valid_value (m : ℕ)
  | min_valid_value_range (m : ℕ)
  | max_valid_value (m : ℕ)
  | max_valid_value_range (m : ℕ)
  | valid_value_confirm_time (m : ℕ)
  | value_unchanged_range (m : ℕ)
  | no_response_time (m : ℕ)
deriving DecidableEq, Repr

def lumeterOwner : LumeterField → UInt16
  | .lumeter_thre_over_alarm_enable => 0x6001
  | .lumeter_abnormal_alarm_enable => 0x6003
  | .value_unchanged_range _ => 0x4004
  | .no_response_time _ => 0x4004
  | _ => 0x4002

def validSlots (m : ℕ) : List (Slot LumeterField) :=
  [⟨comma, .min_valid_value m, 32, atoiOrNA⟩, ⟨comma, .min_valid_value_range m, 32, atoi⟩,
    ⟨comma, .max_valid_value m, 32, atoiOrNA⟩, ⟨comma, .max_valid_value_range m, 32, atoi⟩,
    ⟨commaBarOrNul, .valid_value_confirm_time m, 8, atoi⟩]

def responseSlots (m : ℕ) : List (Slot LumeterField) :=
  [⟨comma, .value_unchanged_range m, 32, atoi⟩, ⟨commaBarOrNul, .no_response_time m, 8, atoi⟩]

/-- one segment of `0x4002` or `0x4004` -/
def lumeterSegment (modules : List (ℤ × ℕ)) (slots : ℕ → List (Slot LumeterField)) (msg : List UInt8) :
    Option (List (LumeterField × ℕ) × List UInt8) :=
  (readModule modules msg).bind fun a => if a.1 < MAX_LUMETER_CONF_NUM then readList (slots a.1) a.2 else none

def lumeterFlags : List (UInt16 × LumeterField) :=
  [(0x6001, .lumeter_thre_over_alarm_enable), (0x6003, .lumeter_abnormal_alarm_enable)]

def lumeterTexts (modules : List (ℤ × ℕ)) (p : TextParameter) : Option (List (LumeterField × ℕ)) :=
  if p.type = 0x4002 then
    if p.text.length ≠ 0 then readSegments (fun _ => lumeterSegment modules validSlots) 0 (segNum p.text) p.value
    else some []
  else if p.type = 0x4004 then
    if p.text.length ≠ 0 then readSegments (fun _ => lumeterSegment modules responseSlots) 0 (segNum p.text) p.value
    else some []
  else some []

def lumeterCase (modules : List (ℤ × ℕ)) : TextParameter → TextParameter → Option (List (LumeterField × ℕ)) :=
  caseStores lumeterFlags (lumeterTexts modules)

def lumeterSetAlarmConfiguration (modules : List (ℤ × ℕ)) (paras : List TextParameter) (c : LumeterField → ℕ) :
    Option (LumeterField → ℕ) :=
  Owned.run (lumeterCase modules (firstOf paras)) paras c

/-! ## `SetAlarmConfiguration` of the concentrator -/

/-- `ConcentratorAlarmConfig` -/
inductive ConcentratorField where
  | power_off_alarm_enable
  | power_off_alarm_thre
  | power_off_alarm_rm_percent
  | electric_leakage_alarm_enable
  | electric_leakage_alarm_v_thre
  | electric_leakage_alarm_v_rm_percent
  | electric_leakage_alarm_c_thre
  | electric_leakage_alarm_c_rm_percent
  | low_battery_alarm_enable
  | low_battery_alarm_thre
  | low_battery_alarm_rm_percent
  | abnormal_charge_alarm_enable
  | abnormal_charge_alarm_v_thre
  | abnormal_charge_alarm_v_rm_percent
  | abnormal_charge_alarm_c_thre
  | abnormal_charge_alarm_c_rm_percent
deriving DecidableEq, Repr

def concentratorOwner : ConcentratorField → UInt16
  | .power_off_alarm_enable => 0x6001
  | .power_off_alarm_thre | .power_off_alarm_rm_percent => 0x4002
  | .electric_leakage_alarm_enable => 0x6003
  | .electric_leakage_alarm_v_thre | .electric_leakage_alarm_v_rm_percent | .electric_leakage_alarm_c_thre
  | .electric_leakage_alarm_c_rm_percent => 0x4004
  | .low_battery_alarm_enable => 0x6005
  | .low_battery_alarm_thre | .low_battery_alarm_rm_percent => 0x4006
  | .abnormal_charge_alarm_enable => 0x6007
  | .abnormal_charge_alarm_v_thre | .abnormal_charge_alarm_v_rm_percent | .abnormal_charge_alarm_c_thre
  | .abnormal_charge_alarm_c_rm_percent => 0x4008

def powerOffSlots : List (Slot ConcentratorField) :=
  [⟨comma, .power_off_alarm_thre, 16, atoi⟩, ⟨nul, .power_off_alarm_rm_percent, 16, atoi⟩]

def lowBatterySlots : List (Slot ConcentratorField) :=
  [⟨comma, .low_battery_alarm_thre, 8, atoi⟩, ⟨nul, .low_battery_alarm_rm_percent, 8, atoi⟩]

/-- the four values of a leakage list, the last two with the stops `s` and `t` -/
def leakageSlots (s t : List UInt8) : List (Slot ConcentratorField) :=
  [⟨comma, .electric_leakage_alarm_v_thre, 16, atoi⟩, ⟨comma, .electric_leakage_alarm_v_rm_percent, 8, atoi⟩,
    ⟨s, .electric_leakage_alarm_c_thre, 16, atoi⟩, ⟨t, .electric_leakage_alarm_c_rm_percent, 8, atoi⟩]

/-- the four values of a charge list, the last two with the stops `s` and `t` -/
def chargeSlots (s t : List UInt8) : List (Slot ConcentratorField) :=
  [⟨comma, .abnormal_charge_alarm_v_thre, 16, atoi⟩, ⟨comma, .abnormal_charge_alarm_v_rm_percent, 8, atoi⟩,
    ⟨s, .abnormal_charge_alarm_c_thre, 16, atoi⟩, ⟨t, .abnormal_charge_alarm_c_rm_percent, 8, atoi⟩]

def concentratorFlags : List (UInt16 × ConcentratorField) :=
  [(0x6001, .power_off_alarm_enable), (0x6003, .electric_leakage_alarm_enable), (0x6005, .low_battery_alarm_enable),
    (0x6007, .abnormal_charge_alarm_enable)]

/-- the list a type stands for, where the two long ones end with the stops `s` and `t` -/
def concentratorSlots (s t : List UInt8) (type : UInt16) : List (Slot ConcentratorField) :=
  if type = 0x4002 then powerOffSlots
  else if type = 0x4004 then leakageSlots s t
  else if type = 0x4006 then lowBatterySlots
  else if type = 0x4008 then chargeSlots s t
  else []

/-- the source looks for the end of the text after the third value, and for a comma after the fourth; every list is
read from `first` -/
def concentratorCase (first p : TextParameter) : Option (List (ConcentratorField × ℕ)) :=
  caseStores concentratorFlags
    (fun p => (readList (concentratorSlots nul comma p.type) first.value).map Prod.fst) first p

def setAlarmConfiguration (paras : List TextParameter) (c : ConcentratorField → ℕ) : Option (ConcentratorField → ℕ) :=
  Owned.run (concentratorCase (firstOf paras)) paras c

/-! ## `LampSetAlarmConfiguration` -/

def MAX_LAMP_CH_NUM : ℕ := 2
def MAX_LAMP_ALARM_E_PARA_NUM : ℕ := 3

/-- `ElectriccalParaAlarm_S` -/
inductive ElectriccalParaAlarm where
  | channel
  | para_id
  | min_value
  | min_range
  | max_value
  | max_range
  | duration_time
deriving DecidableEq, Repr

/-- `LampAlarmConf_S` -/
inductive LampField where
  | lamp_fault_alarm_enable
  | power_module_fault_alarm_enable
  | capacitor_fault_alarm_enable
  | relay_fault_alarm_enable
  | temperature_alarm_enable
  | temperature_alarm_low_thre
  | temperature_alarm_high_thre
  | temperature_alarm_duration
  | leakage_alarm_enable
  | leakage_alarm_c_thre
  | leakage_alarm_v_thre
  | leakage_alarm_duration
  | gate_magnetism_alarm_enable
  | gate_magnetism_alarm_type
  | post_tilt_alarm_enable
  | post_tilt_alarm_thre
  | post_tilt_alarm_duration
  | electrical_para_alarm_enable
  | electrical_para_alarm_thre (ch para : ℕ) (part : ElectriccalParaAlarm)
  | abnormal_light_on_alarm_enable
  | abnormal_light_on_alarm_c_thre
  | abnormal_light_on_alarm_p_thre
  | abnormal_light_on_alarm_duration
  | abnormal_light_off_alarm_enable
  | abnormal_light_off_alarm_c_thre
  | abnormal_light_off_alarm_p_thre
  | abnormal_light_off_alarm_duration
  | light_on_fault_alarm_enable
  | light_on_fault_alarm_rated_power (n : ℕ)
  | light_on_fault_alarm_low_thre (n : ℕ)
  | light_on_fault_alarm_high_thre (n : ℕ)
  | light_on_fault_alarm_duration (n : ℕ)
  | task_light_state_fault_alarm_enhable
deriving DecidableEq, Repr

def lampOwner : LampField → UInt16
  | .lamp_fault_alarm_enable => 0x8003
  | .power_module_fault_alarm_enable => 0x8004
  | .capacitor_fault_alarm_enable => 0x8005
  | .relay_fault_alarm_enable => 0x8006
  | .temperature_alarm_enable => 0x8007
  | .temperature_alarm_low_thre | .temperature_alarm_high_thre | .temperature_alarm_duration => 0x4008
  | .leakage_alarm_enable => 0x8009
  | .leakage_alarm_c_thre | .leakage_alarm_v_thre | .leakage_alarm_duration => 0x400A
  | .gate_magnetism_alarm_enable => 0x800B
  | .gate_magnetism_alarm_type => 0x800C
  | .post_tilt_alarm_enable => 0x800D
  | .post_tilt_alarm_thre | .post_tilt_alarm_duration => 0x400E
  | .electrical_para_alarm_enable => 0x800F
  | .electrical_para_alarm_thre _ _ _ => 0x4010
  | .abnormal_light_on_alarm_enable => 0x8011
  | .abnormal_light_on_alarm_c_thre | .abnormal_light_on_alarm_p_thre | .abnormal_light_on_alarm_duration => 0x4012
  | .abnormal_light_off_alarm_enable => 0x8013
  | .abnormal_light_off_alarm_c_thre | .abnormal_light_off_alarm_p_thre | .abnormal_light_off_alarm_duration => 0x4014
  | .light_on_fault_alarm_enable => 0x8015
  | .light_on_fault_alarm_rated_power _ | .light_on_fault_alarm_low_thre _ | .light_on_fault_alarm_high_thre _
  | .light_on_fault_alarm_duration _ => 0x4016
  | .task_light_state_fault_alarm_enhable => 0x8017

/-- `0x8007` is not among them: its case stores to a field of another type -/
def lampFlags : List (UInt16 × LampField) :=
  [(0x8003, .lamp_fault_alarm_enable), (0x8004, .power_module_fault_alarm_enable),
    (0x8005, .capacitor_fault_alarm_enable), (0x8006, .relay_fault_alarm_enable), (0x8009, .leakage_alarm_enable),
    (0x800B, .gate_magnetism_alarm_enable), (0x800C, .gate_magnetism_alarm_type), (0x800D, .post_tilt_alarm_enable),
    (0x800F, .electrical_para_alarm_enable), (0x8011, .abnormal_light_on_alarm_enable),
    (0x8013, .abnormal_light_off_alarm_enable), (0x8015, .light_on_fault_alarm_enable),
    (0x8017, .task_light_state_fault_alarm_enhable)]

/-- what is stored of `atof(tmp)`: the `double` made an integer -/
abbrev Atof := List UInt8 → ℤ

variable (atof : Atof)

/-- the lists of three values or two -/
def lampSlots (type : UInt16) : List (Slot LampField) :=
  if type = 0x4008 then
    [⟨comma, .temperature_alarm_low_thre, 8, atoi⟩, ⟨comma, .temperature_alarm_high_thre, 8, atoi⟩,
      ⟨nul, .temperature_alarm_duration, 16, fun tmp => some (atof tmp)⟩]
  else if type = 0x400A then
    [⟨comma, .leakage_alarm_c_thre, 16, atoi⟩, ⟨comma, .leakage_alarm_v_thre, 8, atoi⟩,
      ⟨nul, .leakage_alarm_duration, 16, fun tmp => some (atof tmp)⟩]
  else if type = 0x400E then
    [⟨comma, .post_tilt_alarm_thre, 8, atoi⟩, ⟨nul, .post_tilt_alarm_duration, 16, fun tmp => some (atof tmp)⟩]
  else if type = 0x4012 then
    [⟨comma, .abnormal_light_on_alarm_c_thre, 16, atoi⟩, ⟨comma, .abnormal_light_on_alarm_p_thre, 16, atoi⟩,
      ⟨nul, .abnormal_light_on_alarm_duration, 16, fun tmp => some (atof tmp)⟩]
  else if type = 0x4014 then
    [⟨comma, .abnormal_light_off_alarm_c_thre, 16, atoi⟩, ⟨comma, .abnormal_light_off_alarm_p_thre, 16, atoi⟩,
      ⟨nul, .abnormal_light_off_alarm_duration, 16, fun tmp => some (atof tmp)⟩]
  else []

/-- the five values after channel and number of an electrical parameter -/
def electricalSlots (ch para : ℕ) : List (Slot LampField) :=
  [⟨comma, .electrical_para_alarm_thre ch para .min_value, 16, atoi⟩,
    ⟨comma, .electrical_para_alarm_thre ch para .min_range, 8, atoi⟩,
    ⟨comma, .electrical_para_alarm_thre ch para .max_value, 16, atoi⟩,
    ⟨comma, .electrical_para_alarm_thre ch para .max_range, 8, atoi⟩,
    ⟨barOrNul, .electrical_para_alarm_thre ch para .duration_time, 16, atoi⟩]

/-- one segment of `0x4010`; a channel or a parameter that does not exist leaves the rest of the segment to the next -/
def electricalSegment (msg : List UInt8) : Option (List (LampField × ℕ) × List UInt8) :=
  (readUntil comma msg).bind fun a =>
    let loop_ch := toUnsigned 8 (myatoi a.1)
    if loop_ch ≤ MAX_LAMP_CH_NUM then
      let loop_ch := if loop_ch = 0 then 1 else loop_ch
      (readUntil comma a.2).bind fun b =>
        let para_id := toUnsigned 8 (myatoi b.1)
        if para_id ≤ MAX_LAMP_ALARM_E_PARA_NUM then
          let para_id := if para_id = 0 then 1 else para_id
          (readList (electricalSlots (loop_ch - 1) (para_id - 1)) b.2).map fun r =>
            ((.electrical_para_alarm_thre (loop_ch - 1) (para_id - 1) .channel, loop_ch) ::
              (.electrical_para_alarm_thre (loop_ch - 1) (para_id - 1) .para_id, para_id) :: r.1, r.2)
        else some ([], b.2)
    else some ([], a.2)

/-- segment `n` of `0x4016`, for lamp head `n` -/
def lightOnFaultSegment (n : ℕ) (msg : List UInt8) : Option (List (LampField × ℕ) × List UInt8) :=
  if n < MAX_LAMP_CH_NUM then
    readList [⟨comma, .light_on_fault_alarm_rated_power n, 8, atoi⟩, ⟨comma, .light_on_fault_alarm_low_thre n, 8, atoi⟩,
      ⟨comma, .light_on_fault_alarm_high_thre n, 8, atoi⟩, ⟨barOrNul, .light_on_fault_alarm_duration n, 16, atoi⟩] msg
  else none

def lampTexts (p : TextParameter) : Option (List (LampField × ℕ)) :=
  if p.type = 0x4010 then readSegments (fun _ => electricalSegment) 0 (segNum p.text) p.value
  else if p.type = 0x4016 then readSegments lightOnFaultSegment 0 (segNum p.text) p.value
  else (readList (lampSlots atof p.type) p.value).map Prod.fst

def lampCase (first p : TextParameter) : Option (List (LampField × ℕ)) :=
  if p.type = 0x8007 then some [(.temperature_alarm_duration, toUnsigned 16 (myatoi first.text))]
  else caseStores lampFlags (lampTexts atof) first p

/-- who the task is for and how it is sent: `0x8001`, `0x4002` and `0x8018` -/
def lampAddressing (s : SyncState) (p : TextParameter) : Option SyncState :=
  if p.type = 0x8018 then some { s with task := { s.task with execute_type := toUnsigned 8 (myatoi p.text) } }
  else s.addressing ⟨p.type, p.text.length, p.value⟩

/-- the task that is queued and the configuration that is its data. `c` is what the allocation of `lamp_alarm_conf` left
in it -/
def lampSetAlarmConfiguration (st : Store) (paras : List TextParameter) (c : LampField → ℕ) :
    Option (Task × (LampField → ℕ)) :=
  (paras.foldlM (fun (s : SyncState × (LampField → ℕ)) p =>
      (lampAddressing s.1 p).bind fun t => (lampCase atof (firstOf paras) p).map fun a => (t, Owned.assign s.2 a))
    (⟨.zero, 0, 0, 0⟩, c)).map fun r =>
      (Plc.lampGetLampPlcExecuteTaskInfo st { r.1.task with notify_enable := 1, cmd_code := 0x01A3 }, r.2)

end DataConcentrator.AlarmConfig
