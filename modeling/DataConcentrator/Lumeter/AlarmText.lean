/-
The alarm settings of the light sensors as texts: `LumeterGetAlarmConfiguration` prints them, and
`LumeterSetAlarmConfiguration` reads them.

- `lumeterGetAlarmConfiguration`: two lists in a buffer of 64 bytes;
- `lumeterSetAlarmConfiguration`: their fields go through `tmp[10]`; `none` where a text or a field is left, or where an
  entry that does not exist is written;
- `restored_iff`: the settings that come back from their texts;
- `not_restored`: a bound of ten digits, three usual sensors, and two sensors with one address.

Allocations succeed. The answer and the copies in the EEPROM are left out.
-/
import DataConcentrator.Common.Entries
import DataConcentrator.Lamp.StrategyText
import DataConcentrator.Lib.Puts
import DataConcentrator.Lumeter.Query

namespace DataConcentrator.Lumeter

open Lamp (signed32)
open Puts (storeAll putAll)
open Relay (sprintfX)

/-! ## Settings -/

/-- the fields of `LumeterConfig_S` for alarms -/
structure AlarmSettings where
  min_valid_value : UInt32
  min_valid_value_range : UInt32
  max_valid_value : UInt32
  max_valid_value_range : UInt32
  valid_value_confirm_time : UInt8
  value_unchanged_range : UInt32
  no_response_time : UInt8
deriving DecidableEq

/-- addresses and channels of the configured sensors -/
structure SensorKeys where
  list : List (UInt8 × UInt8)
  length_le : list.length ≤ MAX_LUMETER_CONF_NUM

/-- `LumeterAlarmConfig`, and the settings in `LumeterConfig` -/
structure AlarmConfig where
  lumeter_thre_over_alarm_enable : UInt8
  lumeter_abnormal_alarm_enable : UInt8
  config : ℕ → AlarmSettings

/-! ## Printing -/

/-- the mark of a bound that is not set -/
def NA : UInt32 := 0xFFFFFFFF

def boundField (v : UInt32) : List UInt8 := if v = NA then [0x4E, 0x41] else sprintfD32 v

def thresholdEntry (key : UInt8 × UInt8) (c : AlarmSettings) : EntryText where
  add := sprintfX key.1
  place := [sprintfD key.2.toNat]
  values := [boundField c.min_valid_value, sprintfD32 c.min_valid_value_range, boundField c.max_valid_value,
    sprintfD32 c.max_valid_value_range, sprintfD c.valid_value_confirm_time.toNat]

def responseEntry (key : UInt8 × UInt8) (c : AlarmSettings) : EntryText where
  add := sprintfX key.1
  place := [sprintfD key.2.toNat]
  values := [sprintfD32 c.value_unchanged_range, sprintfD c.no_response_time.toNat]

/-- the entries of the configured sensors -/
def sensorEntries (sensors : SensorKeys) (entry : UInt8 × UInt8 → AlarmSettings → EntryText) (config : ℕ → AlarmSettings) :
    List EntryText := sensors.list.zipIdx.map fun k => entry k.1 (config k.2)

def printSensors (sensors : SensorKeys) (entry : UInt8 × UInt8 → AlarmSettings → EntryText) (config : ℕ → AlarmSettings) :
    Option (List UInt8) := printEntries 64 ((sensorEntries sensors entry config).map EntryText.fields)

def lumeterGetAlarmConfiguration (sensors : SensorKeys) (s : AlarmConfig) : Option (List TextPara) :=
  (printSensors sensors thresholdEntry s.config).bind fun thresholds =>
    (printSensors sensors responseEntry s.config).map fun responses =>
      [⟨0x6101, sprintfD s.lumeter_thre_over_alarm_enable.toNat⟩, ⟨0x4102, thresholds⟩,
        ⟨0x6103, sprintfD s.lumeter_abnormal_alarm_enable.toNat⟩, ⟨0x4104, responses⟩]

/-! ## Reading -/

/-- a number stored in a `u32` -/
def u32Of (text : List UInt8) : UInt32 := UInt32.ofNat (toUnsigned 32 (myatoi text))

def boundOf (text : List UInt8) : UInt32 := if text.take 2 = [0x4E, 0x41] then NA else u32Of text

/-- address, channel and five values, in `tmp[10]` -/
def thresholdFormat : EntryFormat := ⟨10, 1, 4, fun _ => true⟩

def responseFormat : EntryFormat := ⟨10, 1, 1, fun _ => true⟩

/-- the index of the sensor, or how many there are -/
def sensorIndex (sensors : SensorKeys) (e : Entry) : ℕ :=
  sensors.list.findIdx fun k => k.1 = e.add ∧ k.2 = u8Of (e.place.getD 0 [])

def setThreshold (e : Entry) (c : AlarmSettings) : AlarmSettings :=
  let value (i : ℕ) := (e.values.getD []).getD i []
  { c with
    min_valid_value := boundOf (value 0)
    min_valid_value_range := u32Of (value 1)
    max_valid_value := boundOf (value 2)
    max_valid_value_range := u32Of (value 3)
    valid_value_confirm_time := u8Of (value 4) }

def setResponse (e : Entry) (c : AlarmSettings) : AlarmSettings :=
  let value (i : ℕ) := (e.values.getD []).getD i []
  { c with
    value_unchanged_range := u32Of (value 0)
    no_response_time := u8Of (value 1) }

/-- a list of entries, each stored to its sensor -/
def setSensors (sensors : SensorKeys) (format : EntryFormat) (set : Entry → AlarmSettings → AlarmSettings)
    (text : List UInt8) (s : AlarmConfig × List UInt8) : Option (AlarmConfig × List UInt8) :=
  (format.readAll s.2 text).bind fun r =>
    (storeAll (sensorIndex sensors) set (fun m => decide (m < MAX_LUMETER_CONF_NUM)) s.1.config r.1).map fun config =>
      ({ s.1 with config := config }, r.2)

/-- a round of the loop over the parameters; the flags are read from `para[i]`, and `i` is 0 there -/
def setParameter (sensors : SensorKeys) (first : TextPara) (s : AlarmConfig × List UInt8) (p : TextPara) :
    Option (AlarmConfig × List UInt8) :=
  if p.type = 0x6001 then some ({ s.1 with lumeter_thre_over_alarm_enable := u8Of first.text }, s.2)
  else if p.type = 0x4002 then setSensors sensors thresholdFormat setThreshold p.text s
  else if p.type = 0x6003 then some ({ s.1 with lumeter_abnormal_alarm_enable := u8Of first.text }, s.2)
  else if p.type = 0x4004 then setSensors sensors responseFormat setResponse p.text s
  else some s

def lumeterSetAlarmConfiguration (sensors : SensorKeys) (paras : List TextPara) (tmp : List UInt8) (s : AlarmConfig) :
    Option AlarmConfig := (paras.foldlM (setParameter sensors (paras.headD ⟨0, []⟩)) (s, tmp)).map Prod.fst

/-- the two texts come out, and are read back into the settings they were printed from; nothing else is written -/
def Restored (sensors : SensorKeys) (s : AlarmConfig) : Prop :=
  ∃ thresholds responses over_enable abnormal_enable, lumeterGetAlarmConfiguration sensors s =
      some [⟨0x6101, over_enable⟩, ⟨0x4102, thresholds⟩, ⟨0x6103, abnormal_enable⟩, ⟨0x4104, responses⟩] ∧
    ∀ (tmp : List UInt8) (old : AlarmConfig), ∃ new, lumeterSetAlarmConfiguration sensors
        [⟨0x4002, thresholds⟩, ⟨0x4004, responses⟩] tmp old = some new ∧
      (∀ m < sensors.list.length, new.config m = s.config m) ∧
      ∀ m, sensors.list.length ≤ m → new.config m = old.config m

/-! ## Widths -/

/-- the characters of a number, printed as an `int` -/
def numberWidth (v : UInt32) : ℕ := if v.toNat < 2 ^ 31 then decimalWidth v.toNat else decimalWidth (2 ^ 32 - v.toNat) + 1

def boundWidth (v : UInt32) : ℕ := if v = NA then 2 else numberWidth v

/-- the characters of an entry, with a separator behind each field -/
def thresholdWidth (key : UInt8 × UInt8) (c : AlarmSettings) : ℕ :=
  hexWidth key.1 + decimalWidth key.2.toNat + boundWidth c.min_valid_value + numberWidth c.min_valid_value_range +
    boundWidth c.max_valid_value + numberWidth c.max_valid_value_range + decimalWidth c.valid_value_confirm_time.toNat + 7

def responseWidth (key : UInt8 × UInt8) (c : AlarmSettings) : ℕ :=
  hexWidth key.1 + decimalWidth key.2.toNat + numberWidth c.value_unchanged_range +
    decimalWidth c.no_response_time.toNat + 4

/-- the characters of all entries -/
def sensorsWidth (sensors : SensorKeys) (width : UInt8 × UInt8 → AlarmSettings → ℕ) (config : ℕ → AlarmSettings) : ℕ :=
  (sensors.list.zipIdx.map fun k => width k.1 (config k.2)).sum

/-- settings with no number of more than nine characters -/
structure AlarmSettings.Short (c : AlarmSettings) : Prop where
  min : boundWidth c.min_valid_value ≤ 9
  min_range : numberWidth c.min_valid_value_range ≤ 9
  max : boundWidth c.max_valid_value ≤ 9
  max_range : numberWidth c.max_valid_value_range ≤ 9
  unchanged : numberWidth c.value_unchanged_range ≤ 9

/-- sensors whose settings come back -/
structure Restorable (sensors : SensorKeys) (s : AlarmConfig) : Prop where
  distinct : sensors.list.Nodup
  short : ∀ m < sensors.list.length, (s.config m).Short
  thresholds : sensorsWidth sensors thresholdWidth s.config ≤ 63
  responses : sensorsWidth sensors responseWidth s.config ≤ 63

theorem length_sprintfD32 (v : UInt32) : (sprintfD32 v).length = numberWidth v := by
  have hlt := v.toNat_lt
  rw [sprintfD32, numberWidth]
  split_ifs with hsmall
  · have hsigned : (v.toNat : ℤ).bmod (2 ^ 32) = v.toNat := by
      rw [Int.bmod_def]
      omega
    rw [hsigned, length_sprintfD_nat]
  · have hsigned : (v.toNat : ℤ).bmod (2 ^ 32) = -((2 ^ 32 - v.toNat : ℕ) : ℤ) := by
      rw [Int.bmod_def]
      omega
    have hneg : -((2 ^ 32 - v.toNat : ℕ) : ℤ) < 0 := by omega
    rw [hsigned, sprintfD, if_pos hneg, List.length_cons, Int.natAbs_neg, Int.natAbs_natCast, length_digits]

theorem length_boundField (v : UInt32) : (boundField v).length = boundWidth v := by
  rw [boundField, boundWidth]
  split_ifs
  · rfl
  · exact length_sprintfD32 v

theorem width_thresholdEntry (key : UInt8 × UInt8) (c : AlarmSettings) :
    entryWidth (thresholdEntry key c).fields = thresholdWidth key c := by
  simp only [entryWidth, EntryText.fields, thresholdEntry, List.cons_append, List.nil_append, List.map_cons, List.map_nil,
    List.sum_cons, List.sum_nil, length_sprintfX, length_sprintfD_nat, length_boundField, length_sprintfD32, thresholdWidth]
  omega

theorem width_responseEntry (key : UInt8 × UInt8) (c : AlarmSettings) :
    entryWidth (responseEntry key c).fields = responseWidth key c := by
  simp only [entryWidth, EntryText.fields, responseEntry, List.cons_append, List.nil_append, List.map_cons, List.map_nil,
    List.sum_cons, List.sum_nil, length_sprintfX, length_sprintfD_nat, length_sprintfD32, responseWidth]
  omega

/-- what is printed for the sensors -/
theorem printSensors_eq {entry : UInt8 × UInt8 → AlarmSettings → EntryText} {width : UInt8 × UInt8 → AlarmSettings → ℕ}
    (h : ∀ key c, entryWidth (entry key c).fields = width key c) (sensors : SensorKeys) (config : ℕ → AlarmSettings) :
    printSensors sensors entry config = if sensorsWidth sensors width config ≤ 63 then
      some (entriesText (sensorEntries sensors entry config)) else none := by
  have hwidth : entriesWidth (sensorEntries sensors entry config) = sensorsWidth sensors width config := by
    rw [entriesWidth, sensorEntries, List.map_map, sensorsWidth]
    exact congrArg List.sum (List.map_congr_left fun k _ => h k.1 (config k.2))
  rw [printSensors, print_entries (by decide), hwidth]
  exact if_congr Nat.lt_succ_iff rfl rfl

/-! ## Fields -/

theorem plain_boundField (v : UInt32) : Plain (boundField v) := by
  rw [boundField]
  split_ifs
  · exact List.all_iff_forall_prop.1 (by decide)
  · exact plain_sprintfD _

section Entries

variable (key : UInt8 × UInt8) (c : AlarmSettings)

theorem shaped_thresholdEntry : thresholdFormat.Shaped (thresholdEntry key c) where
  add := sprintfX_ne_nil key.1
  place := rfl
  values := rfl
  plain := by
    simp only [EntryText.fields, thresholdEntry, List.cons_append, List.nil_append, List.forall_mem_cons]
    exact ⟨plain_sprintfX _, plain_sprintfD _, plain_boundField _, plain_sprintfD _, plain_boundField _, plain_sprintfD _,
      plain_sprintfD _, fun _ h => absurd h List.not_mem_nil⟩

theorem shaped_responseEntry : responseFormat.Shaped (responseEntry key c) where
  add := sprintfX_ne_nil key.1
  place := rfl
  values := rfl
  plain := by
    simp only [EntryText.fields, responseEntry, List.cons_append, List.nil_append, List.forall_mem_cons]
    exact ⟨plain_sprintfX _, plain_sprintfD _, plain_sprintfD _, plain_sprintfD _, fun _ h => absurd h List.not_mem_nil⟩

theorem short_thresholdEntry : thresholdFormat.Short (thresholdEntry key c) ↔
    boundWidth c.min_valid_value ≤ 9 ∧ numberWidth c.min_valid_value_range ≤ 9 ∧ boundWidth c.max_valid_value ≤ 9 ∧
      numberWidth c.max_valid_value_range ≤ 9 := by
  have hadd := hexWidth_le key.1
  have hch := decimalWidth_byte key.2
  have htime := decimalWidth_byte c.valid_value_confirm_time
  simp only [EntryFormat.Short, EntryText.fields, thresholdEntry, thresholdFormat, List.cons_append, List.nil_append,
    List.forall_mem_cons, List.not_mem_nil, false_implies, implies_true, and_true, length_sprintfX, length_sprintfD_nat,
    length_boundField, length_sprintfD32]
  omega

theorem short_responseEntry : responseFormat.Short (responseEntry key c) ↔ numberWidth c.value_unchanged_range ≤ 9 := by
  have hadd := hexWidth_le key.1
  have hch := decimalWidth_byte key.2
  have htime := decimalWidth_byte c.no_response_time
  simp only [EntryFormat.Short, EntryText.fields, responseEntry, responseFormat, List.cons_append, List.nil_append,
    List.forall_mem_cons, List.not_mem_nil, false_implies, implies_true, and_true, length_sprintfX, length_sprintfD_nat,
    length_sprintfD32]
  omega

theorem u32Of_sprintfD32 (v : UInt32) : u32Of (sprintfD32 v) = v := by
  rw [u32Of, sprintfD32, myatoi_sprintfD]
  exact Lamp.ofNat_signed32 v

/-- a number does not start like the mark -/
theorem boundOf_boundField (v : UInt32) : boundOf (boundField v) = v := by
  rw [boundField]
  split_ifs with hv
  · rw [hv]
    decide
  · have hmark : (sprintfD32 v).take 2 ≠ [0x4E, 0x41] := by
      intro hmark
      have hmem : (0x4E : UInt8) ∈ sprintfD32 v := List.mem_of_mem_take (by rw [hmark]; exact List.mem_cons_self)
      rcases mem_sprintfD hmem with h | h
      · exact absurd h (by decide)
      · exact absurd h (by decide)
    rw [boundOf, if_neg hmark, u32Of_sprintfD32]

theorem setThreshold_entry (old : AlarmSettings) : setThreshold (thresholdEntry key c).entry old =
    { c with value_unchanged_range := old.value_unchanged_range, no_response_time := old.no_response_time } := by
  simp only [setThreshold, EntryText.entry, thresholdEntry, Option.getD_some, List.getD_cons_zero, List.getD_cons_succ,
    boundOf_boundField, u32Of_sprintfD32, u8Of_sprintfD]

theorem setResponse_entry (old : AlarmSettings) : setResponse (responseEntry key c).entry old =
    { old with value_unchanged_range := c.value_unchanged_range, no_response_time := c.no_response_time } := by
  simp only [setResponse, EntryText.entry, responseEntry, Option.getD_some, List.getD_cons_zero, List.getD_cons_succ,
    u32Of_sprintfD32, u8Of_sprintfD]

end Entries

/-! ## Lists -/

/-- a list of entries that is printed and read in one way -/
structure Kind (entry : UInt8 × UInt8 → AlarmSettings → EntryText) (format : EntryFormat) : Prop where
  shaped : ∀ key c, format.Shaped (entry key c)
  accepts : ∀ place, format.accepts place = true
  add : ∀ key c, (entry key c).add = sprintfX key.1
  place : ∀ key c, (entry key c).place = [sprintfD key.2.toNat]

theorem thresholds : Kind thresholdEntry thresholdFormat :=
  ⟨shaped_thresholdEntry, fun _ => rfl, fun _ _ => rfl, fun _ _ => rfl⟩

theorem responses : Kind responseEntry responseFormat :=
  ⟨shaped_responseEntry, fun _ => rfl, fun _ _ => rfl, fun _ _ => rfl⟩

section Lists

variable {sensors : SensorKeys} {config : ℕ → AlarmSettings} {entry : UInt8 × UInt8 → AlarmSettings → EntryText}
  {format : EntryFormat} {set : Entry → AlarmSettings → AlarmSettings}

theorem mem_sensorEntries {e : EntryText} : e ∈ sensorEntries sensors entry config ↔
    ∃ m key, sensors.list[m]? = some key ∧ e = entry key (config m) := by
  rw [sensorEntries, List.mem_map]
  constructor
  · rintro ⟨⟨key, m⟩, hmem, rfl⟩
    exact ⟨m, key, List.mem_zipIdx_iff_getElem?.1 hmem, rfl⟩
  · rintro ⟨m, key, hkey, rfl⟩
    exact ⟨(key, m), List.mem_zipIdx_iff_getElem?.2 hkey, rfl⟩

/-- an entry is for the first sensor with its address and channel -/
theorem sensorIndex_entry (hkind : Kind entry format) (key : UInt8 × UInt8) (c : AlarmSettings) :
    sensorIndex sensors (entry key c).entry = sensors.list.idxOf key := by
  have hadd := hexByteOf_sprintfX key.1
  rw [sensorIndex, EntryText.entry, hkind.add, hkind.place, List.idxOf]
  simp only [hadd, List.getD_cons_zero, u8Of_sprintfD]
  congr 1
  funext k
  rw [Bool.eq_iff_iff, decide_eq_true_iff, beq_iff_eq, Prod.ext_iff]

theorem length_sensorEntries : (sensorEntries sensors entry config).length = sensors.list.length := by
  rw [sensorEntries, List.length_map, List.length_zipIdx]

/-- the sensors' entries are read where their fields fit -/
theorem readAll_sensors (hkind : Kind entry format)
    (hshort : ∀ e ∈ sensorEntries sensors entry config, format.Short e) (tmp : List UInt8) : ∃ tmp',
    format.readAll tmp (entriesText (sensorEntries sensors entry config)) =
      some ((sensorEntries sensors entry config).map EntryText.entry, tmp') := by
  refine readAll_text (fun e he => ?_) ?_ tmp
  · obtain ⟨m, key, -, rfl⟩ := mem_sensorEntries.1 he
    exact ⟨hkind.shaped _ _, hshort _ he, hkind.accepts _⟩
  · rw [length_sensorEntries]
    exact sensors.length_le.trans (by decide)

/-- and only there -/
theorem short_of_set (hkind : Kind entry format) {s s' : AlarmConfig × List UInt8}
    (h : setSensors sensors format set (entriesText (sensorEntries sensors entry config)) s = some s') :
    ∀ e ∈ sensorEntries sensors entry config, format.Short e := by
  by_contra hlong
  push Not at hlong
  have hshaped : ∀ e ∈ sensorEntries sensors entry config, format.Shaped e ∧ format.accepts e.place = true := by
    intro e he
    obtain ⟨m, key, -, rfl⟩ := mem_sensorEntries.1 he
    exact ⟨hkind.shaped _ _, hkind.accepts _⟩
  have hnone := readAll_long hshaped
    (by rw [length_sensorEntries]; exact sensors.length_le.trans (by decide)) hlong s.2
  rw [setSensors, hnone] at h
  cases h

theorem idxOf_of_distinct (hdistinct : sensors.list.Nodup) {m : ℕ} {key : UInt8 × UInt8}
    (h : sensors.list[m]? = some key) : sensors.list.idxOf key = m := by
  obtain ⟨hm, rfl⟩ := List.getElem?_eq_some_iff.1 h
  exact hdistinct.idxOf_getElem m hm

/-- where the sensors differ, each gets its own entry -/
theorem set_sensors (hkind : Kind entry format) (hdistinct : sensors.list.Nodup)
    (hshort : ∀ e ∈ sensorEntries sensors entry config, format.Short e) (s : AlarmConfig × List UInt8) : ∃ s',
    setSensors sensors format set (entriesText (sensorEntries sensors entry config)) s = some s' ∧
      (∀ m key, sensors.list[m]? = some key →
        s'.1.config m = set (entry key (config m)).entry (s.1.config m)) ∧
      ∀ m, sensors.list.length ≤ m → s'.1.config m = s.1.config m := by
  obtain ⟨tmp', hread⟩ := readAll_sensors hkind hshort s.2
  obtain ⟨es, hes⟩ : ∃ es, es = (sensorEntries sensors entry config).map EntryText.entry := ⟨_, rfl⟩
  have hindex : ∀ m key, sensors.list[m]? = some key → sensorIndex sensors (entry key (config m)).entry = m := by
    intro m key hkey
    rw [sensorIndex_entry hkind, idxOf_of_distinct hdistinct hkey]
  have hplace : es.map (sensorIndex sensors) = List.range' 0 sensors.list.length := by
    rw [hes, sensorEntries, List.map_map, List.map_map, ← List.zipIdx_map_snd]
    exact List.map_congr_left fun k hk => hindex k.2 k.1 (List.mem_zipIdx_iff_getElem?.1 hk)
  have hbelow : ∀ e ∈ es, sensorIndex sensors e < sensors.list.length := by
    intro e he
    have hmem := List.mem_map_of_mem (f := sensorIndex sensors) he
    rw [hplace, List.mem_range'_1] at hmem
    omega
  have hinside : ∀ e ∈ es, decide (sensorIndex sensors e < MAX_LUMETER_CONF_NUM) = true := fun e he =>
    decide_eq_true ((hbelow e he).trans_le sensors.length_le)
  have hstore := Puts.storeAll_eq (sensorIndex sensors) set (fun m => decide (m < MAX_LUMETER_CONF_NUM)) es s.1.config
  rw [if_pos hinside] at hstore
  rw [setSensors, hread, ← hes, Option.bind_some, hstore, Option.map_some]
  refine ⟨_, rfl, fun m key hkey => ?_, fun m hm => ?_⟩
  · have hmem : (entry key (config m)).entry ∈ es := by
      rw [hes]
      exact List.mem_map_of_mem (mem_sensorEntries.2 ⟨m, key, hkey, rfl⟩)
    have hnodup : (es.map (sensorIndex sensors)).Nodup := by
      rw [hplace]
      exact List.nodup_range'
    have hput := Puts.putAll_of_mem (sensorIndex sensors) set hnodup hmem s.1.config
    rwa [hindex m key hkey] at hput
  · exact Puts.putAll_other _ _ (fun e he => Nat.ne_of_lt ((hbelow e he).trans_le hm)) _

/-- a sensor that another comes before is not written -/
theorem set_behind {text : List UInt8} {s s' : AlarmConfig × List UInt8} (h : setSensors sensors format set text s = some s')
    {i j : ℕ} (hij : i < j) {key : UInt8 × UInt8} (hi : sensors.list[i]? = some key) (hj : sensors.list[j]? = some key) :
    s'.1.config j = s.1.config j := by
  obtain ⟨⟨es, tmp'⟩, -, h⟩ := Option.bind_eq_some_iff.1 h
  obtain ⟨config', hstore, rfl⟩ := Option.map_eq_some_iff.1 h
  refine Puts.storeAll_other _ _ _ (fun e _ hindex => ?_) hstore
  obtain ⟨hi', hikey⟩ := List.getElem?_eq_some_iff.1 hi
  obtain ⟨hj', hjkey⟩ := List.getElem?_eq_some_iff.1 hj
  rw [sensorIndex] at hindex
  have hfirst := List.not_of_lt_findIdx (hindex ▸ hij)
  have hfound := List.findIdx_getElem (w := by rw [hindex]; exact hj')
  simp only [hindex, hjkey] at hfound
  rw [hikey, hfound] at hfirst
  cases hfirst

end Lists

/-! ## What comes back -/

section Result

/-- a message of the two lists -/
theorem set_two (sensors : SensorKeys) (t r tmp : List UInt8) (old : AlarmConfig) :
    lumeterSetAlarmConfiguration sensors [⟨0x4002, t⟩, ⟨0x4004, r⟩] tmp old =
      ((setSensors sensors thresholdFormat setThreshold t (old, tmp)).bind fun s =>
        setSensors sensors responseFormat setResponse r s).map Prod.fst := by
  rw [lumeterSetAlarmConfiguration, List.foldlM_cons]
  change Option.map _ ((setSensors sensors thresholdFormat setThreshold t (old, tmp)).bind fun s =>
    (setSensors sensors responseFormat setResponse r s).bind some) = _
  simp only [Option.bind_fun_some]

/-- other settings -/
def AlarmSettings.other (c : AlarmSettings) : AlarmSettings := { c with no_response_time := c.no_response_time + 1 }

theorem other_ne (c : AlarmSettings) : c.other ≠ c := by
  intro h
  have htime : c.no_response_time + 1 = c.no_response_time := congrArg AlarmSettings.no_response_time h
  have hnat := congrArg UInt8.toNat htime
  have hlt := c.no_response_time.toNat_lt
  rw [UInt8.toNat_add] at hnat
  change (c.no_response_time.toNat + 1) % 256 = _ at hnat
  omega

variable {sensors : SensorKeys} {s : AlarmConfig}

/-- both texts come out, and both are read -/
theorem runs_of_restored (h : Restored sensors s) :
    (sensorsWidth sensors thresholdWidth s.config ≤ 63 ∧ sensorsWidth sensors responseWidth s.config ≤ 63) ∧
      ∀ old : AlarmConfig, ∃ s₁ s₂, setSensors sensors thresholdFormat setThreshold
          (entriesText (sensorEntries sensors thresholdEntry s.config)) (old, []) = some s₁ ∧
        setSensors sensors responseFormat setResponse
          (entriesText (sensorEntries sensors responseEntry s.config)) s₁ = some s₂ ∧
        ∀ m < sensors.list.length, s₂.1.config m = s.config m := by
  obtain ⟨t, r, over_enable, abnormal_enable, hget, hset⟩ := h
  obtain ⟨t', hthresholds, hget⟩ := Option.bind_eq_some_iff.1 hget
  obtain ⟨r', hresponses, hget⟩ := Option.map_eq_some_iff.1 hget
  cases hget
  rw [printSensors_eq width_thresholdEntry] at hthresholds
  rw [printSensors_eq width_responseEntry] at hresponses
  split_ifs at hthresholds hresponses with ht hr
  cases hthresholds
  cases hresponses
  refine ⟨⟨ht, hr⟩, fun old => ?_⟩
  obtain ⟨new, hnew, hsame, -⟩ := hset [] old
  rw [set_two] at hnew
  obtain ⟨s₂, hboth, rfl⟩ := Option.map_eq_some_iff.1 hnew
  obtain ⟨s₁, hfirst, hsecond⟩ := Option.bind_eq_some_iff.1 hboth
  exact ⟨s₁, s₂, hfirst, hsecond, hsame⟩

theorem distinct_of_restored (h : Restored sensors s) : sensors.list.Nodup := by
  rw [List.nodup_iff_getElem?_ne_getElem?]
  intro i j hij hj heq
  obtain ⟨s₁, s₂, hfirst, hsecond, hsame⟩ := (runs_of_restored h).2 { s with config := fun m => (s.config m).other }
  obtain ⟨key, hkey⟩ : ∃ key, sensors.list[j]? = some key := ⟨_, List.getElem?_eq_getElem hj⟩
  have hkept := (set_behind hsecond hij (heq.trans hkey) hkey).trans (set_behind hfirst hij (heq.trans hkey) hkey)
  exact other_ne (s.config j) (hkept.symm.trans (hsame j hj))

theorem short_of_restored (h : Restored sensors s) {m : ℕ} (hm : m < sensors.list.length) : (s.config m).Short := by
  obtain ⟨s₁, s₂, hfirst, hsecond, -⟩ := (runs_of_restored h).2 s
  have hkey : sensors.list[m]? = some sensors.list[m] := List.getElem?_eq_getElem hm
  obtain ⟨hmin, hmin_range, hmax, hmax_range⟩ := (short_thresholdEntry _ _).1
    (short_of_set thresholds hfirst _ (mem_sensorEntries.2 ⟨m, _, hkey, rfl⟩))
  have hunchanged := (short_responseEntry _ _).1
    (short_of_set responses hsecond _ (mem_sensorEntries.2 ⟨m, _, hkey, rfl⟩))
  exact ⟨hmin, hmin_range, hmax, hmax_range, hunchanged⟩

theorem restored_of_restorable (h : Restorable sensors s) : Restored sensors s := by
  obtain ⟨hdistinct, hshort, ht, hr⟩ := h
  have hlt : ∀ {m : ℕ} {key : UInt8 × UInt8}, sensors.list[m]? = some key → m < sensors.list.length := fun h =>
    (List.getElem?_eq_some_iff.1 h).1
  have hthreshold : ∀ e ∈ sensorEntries sensors thresholdEntry s.config, thresholdFormat.Short e := by
    intro e he
    obtain ⟨m, key, hkey, rfl⟩ := mem_sensorEntries.1 he
    have hc := hshort m (hlt hkey)
    exact (short_thresholdEntry _ _).2 ⟨hc.min, hc.min_range, hc.max, hc.max_range⟩
  have hresponse : ∀ e ∈ sensorEntries sensors responseEntry s.config, responseFormat.Short e := by
    intro e he
    obtain ⟨m, key, hkey, rfl⟩ := mem_sensorEntries.1 he
    exact (short_responseEntry _ _).2 (hshort m (hlt hkey)).unchanged
  refine ⟨entriesText (sensorEntries sensors thresholdEntry s.config),
    entriesText (sensorEntries sensors responseEntry s.config), sprintfD s.lumeter_thre_over_alarm_enable.toNat,
    sprintfD s.lumeter_abnormal_alarm_enable.toNat, ?_, fun tmp old => ?_⟩
  · rw [lumeterGetAlarmConfiguration, printSensors_eq width_thresholdEntry, if_pos ht,
      printSensors_eq width_responseEntry, if_pos hr]
    rfl
  · obtain ⟨s₁, hfirst, hread₁, hkept₁⟩ := @set_sensors _ _ _ _ setThreshold thresholds hdistinct hthreshold (old, tmp)
    obtain ⟨s₂, hsecond, hread₂, hkept₂⟩ := @set_sensors _ _ _ _ setResponse responses hdistinct hresponse s₁
    refine ⟨s₂.1, ?_, fun m hm => ?_, fun m hm => (hkept₂ m hm).trans (hkept₁ m hm)⟩
    · rw [set_two, hfirst, Option.bind_some, hsecond, Option.map_some]
    · have hkey : sensors.list[m]? = some sensors.list[m] := List.getElem?_eq_getElem hm
      rw [hread₂ m _ hkey, hread₁ m _ hkey, setThreshold_entry, setResponse_entry]

/-- **Restored settings.** The texts of the settings bring them back exactly when no two sensors have one address and
channel, no number has more than nine characters, and each list has 63 at most, its last bar included. -/
theorem restored_iff (sensors : SensorKeys) (s : AlarmConfig) : Restored sensors s ↔ Restorable sensors s := by
  constructor
  · intro h
    obtain ⟨⟨ht, hr⟩, -⟩ := runs_of_restored h
    exact ⟨distinct_of_restored h, fun m hm => short_of_restored h hm, ht, hr⟩
  · exact restored_of_restorable

end Result

/-- usual settings, from 1000 to `max` -/
def usual (max : UInt32) : AlarmSettings := ⟨1000, 100, max, 100, 3, 5, 10⟩

/-- not restored: a bound of ten digits, three sensors with usual settings, and two sensors with one address and
channel -/
theorem not_restored :
    ¬Restored ⟨[(1, 1)], by decide⟩ ⟨1, 1, fun _ => usual 1000000000⟩ ∧
      ¬Restored ⟨[(1, 1), (2, 1), (3, 1)], by decide⟩ ⟨1, 1, fun _ => usual 100000⟩ ∧
      ¬Restored ⟨[(1, 1), (1, 1)], by decide⟩ ⟨1, 1, fun _ => usual 5000⟩ := by
  refine ⟨fun h => ?_, fun h => ?_, fun h => ?_⟩
  · exact absurd (@short_of_restored _ _ h 0 (by decide)).max (by decide +kernel)
  · exact absurd (runs_of_restored h).1.1 (by decide +kernel)
  · exact absurd (distinct_of_restored h) (by decide)

end DataConcentrator.Lumeter
