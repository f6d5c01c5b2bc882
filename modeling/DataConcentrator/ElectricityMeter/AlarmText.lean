/-
The alarm thresholds of the electricity meters as a text: `ElectricityMeterGetAlarmConfiguration` prints them, and
`ElectricityMeterSetAlarmConfiguration` reads them.

A `float` is its bits; `BoundTexts` are the conversions of bounds.
- `meterEntries`, `electricityMeterGetAlarmConfiguration`: an entry for each threshold of the channels below `ch_num`, in
  a buffer of 4096 bytes;
- `electricityMeterSetAlarmConfiguration`: their fields go through `tmp[10]`, and parameter 8 is not accepted;
- `minNA`, `maxNA`: the mark of a bound that is not set is written over eight bytes of the record;
- `thresholds_iff`: the thresholds that come back from their text, and the records in which a mark changes no more than
  its bound;
- `thresholds_lost`: a threshold of the last channel, one of parameter 8, a bound of 220, and the run mode.

Allocations succeed. The answer and the copies in the EEPROM are left out.
-/
import DataConcentrator.Common.Entries
import DataConcentrator.ElectricityMeter.Threshold
import DataConcentrator.Lib.Puts

namespace DataConcentrator.ElectricityMeter

open Puts (storeAll putAll)
open Relay (sprintfX)

/-! ## Thresholds -/

def MAX_ELECTRICITY_METER_ALARM_PARA_NUM : ℕ := 8

/-- `ElectricityMeter_Alarm_S` -/
structure Alarm where
  channel : UInt8
  para_id : UInt8
  min_value : UInt32
  min_range : UInt8
  max_value : UInt32
  max_range : UInt8
  confirm_time : UInt8
  last_run_mode : UInt8
  switch_run_mode : UInt8
  resume_run_mode : UInt8
  relay_action : UInt8
deriving DecidableEq

/-- a configured meter; its channels are 0 to `ch_num` -/
structure Meter where
  address : UInt8
  channel : UInt8
  ch_num : ℕ
  ch_num_lt : ch_num < MAX_ELECTRICITY_METER_CH_NUM

def Meter.key (meter : Meter) : UInt8 × UInt8 := (meter.address, meter.channel)

/-- the configured meters -/
structure MeterList where
  list : List Meter
  length_le : list.length ≤ MAX_ELECTRICITY_METER_CONF_NUM

/-- a meter, a channel and the index of a parameter: `ElectricityMeterConfig[m].alarm_thre[k][n]` -/
abbrev Place := ℕ × ℕ × ℕ

/-- `ElectricityMeterAlarmConfig`, and `alarm_thre` of all meters -/
structure AlarmConfig where
  electrical_parameters_thre_over_alarm_enable : UInt8
  alarm_thre : Place → Alarm

/-! ## Printing -/

/-- `float` of which every bit is set -/
def NA : UInt32 := 0xFFFFFFFF

section Printing

variable (F : BoundTexts UInt32)

/-- four bytes are copied to a `long long`, and it is compared with eight -/
def boundField (v : UInt32) : List UInt8 :=
  let thre := v.toUInt64
  if thre = 0xFFFFFFFFFFFFFFFF then markNA else F.text v

def alarmEntry (key : UInt8 × UInt8) (a : Alarm) : EntryText where
  add := sprintfX key.1
  place := [sprintfD key.2.toNat, sprintfD a.channel.toNat, sprintfD a.para_id.toNat]
  values := [boundField F a.min_value, sprintfD a.min_range.toNat, boundField F a.max_value, sprintfD a.max_range.toNat,
    sprintfD a.confirm_time.toNat, sprintfD a.switch_run_mode.toNat, sprintfD a.resume_run_mode.toNat,
    sprintfD a.relay_action.toNat]

/-- whether a record is printed -/
def Alarm.isSet (a : Alarm) : Bool := a.channel.toNat < MAX_ELECTRICITY_METER_CH_NUM && a.para_id ≠ 0

/-- the records of a meter the loops come to -/
def meterPlaces (m : ℕ) (meter : Meter) : List Place :=
  (List.range meter.ch_num).flatMap fun k => (List.range MAX_ELECTRICITY_METER_ALARM_PARA_NUM).map fun n => (m, k, n)

/-- the records that are printed, each with the address and channel of its meter -/
def printed (meters : MeterList) (alarm_thre : Place → Alarm) : List ((UInt8 × UInt8) × Place) :=
  (meters.list.zipIdx.flatMap fun k => (meterPlaces k.2 k.1).map fun p => (k.1.key, p)).filter
    fun e => (alarm_thre e.2).isSet

def meterEntries (meters : MeterList) (alarm_thre : Place → Alarm) : List EntryText :=
  (printed meters alarm_thre).map fun e => alarmEntry F e.1 (alarm_thre e.2)

/-- `tmp[25]` takes each field first -/
def electricityMeterGetAlarmConfiguration (meters : MeterList) (s : AlarmConfig) : Option (List TextPara) :=
  let es := meterEntries F meters s.alarm_thre
  if ∀ e ∈ es, ∀ t ∈ e.fields, t.length < 25 then
    (printEntries 4096 (es.map EntryText.fields)).map fun text =>
      [⟨0x6101, sprintfD s.electrical_parameters_thre_over_alarm_enable.toNat⟩, ⟨0x4102, text⟩]
  else none

end Printing

/-! ## Reading -/

/-- `memset((void *)&min_value,0xFF,8)`: two more fields behind the bound, the second up to its last byte -/
def Alarm.minNA (a : Alarm) : Alarm :=
  { a with min_value := NA, min_range := 0xFF, max_value := a.max_value ||| 0x00FFFFFF }

/-- `memset((void *)&max_value,0xFF,8)`: four more fields behind the bound -/
def Alarm.maxNA (a : Alarm) : Alarm :=
  { a with max_value := NA, max_range := 0xFF, confirm_time := 0xFF, last_run_mode := 0xFF, switch_run_mode := 0xFF }

section Reading

variable (F : BoundTexts UInt32)

def Alarm.setMin (text : List UInt8) (a : Alarm) : Alarm :=
  if isMarked text then a.minNA else { a with min_value := F.value text }

def Alarm.setMax (text : List UInt8) (a : Alarm) : Alarm :=
  if isMarked text then a.maxNA else { a with max_value := F.value text }

/-- what an accepted entry stores, and where -/
structure Threshold where
  m : ℕ
  loop_ch : ℕ
  para_id : ℕ
  values : List (List UInt8)

def Threshold.place (t : Threshold) : Place := (t.m, t.loop_ch, t.para_id - 1)

/-- the fields of the record, in the order of the entry -/
def setAlarm (t : Threshold) (a : Alarm) : Alarm :=
  let value (i : ℕ) := t.values.getD i []
  let a := { a with channel := UInt8.ofNat t.loop_ch, para_id := UInt8.ofNat t.para_id }
  let a := a.setMin F (value 0)
  let a := { a with min_range := u8Of (value 1) }
  let a := a.setMax F (value 2)
  { a with
    max_range := u8Of (value 3)
    confirm_time := u8Of (value 4)
    switch_run_mode := u8Of (value 5)
    resume_run_mode := u8Of (value 6)
    relay_action := u8Of (value 7) }

/-- address, channel, `loop_ch`, `para_id` and eight values, in `tmp[10]` -/
def alarmFormat : EntryFormat where
  size := 10
  place := 3
  more := 7
  accepts place := decide ((u8Of (place.getD 1 [])).toNat < MAX_ELECTRICITY_METER_CH_NUM) &&
    decide ((u8Of (place.getD 2 [])).toNat < MAX_ELECTRICITY_METER_ALARM_PARA_NUM)

/-- the index of the meter, or how many there are -/
def meterIndex (meters : MeterList) (key : UInt8 × UInt8) : ℕ := meters.list.findIdx fun meter => meter.key = key

def thresholdOf (meters : MeterList) (e : Entry) : Option Threshold :=
  e.values.map fun values =>
    let para_id := (u8Of (e.place.getD 2 [])).toNat
    ⟨meterIndex meters (e.add, u8Of (e.place.getD 0 [])), (u8Of (e.place.getD 1 [])).toNat,
      if para_id = 0 then 1 else para_id, values⟩

/-- each threshold of a text is stored; `ElectricityMeterConfig` has `MAX_ELECTRICITY_METER_CONF_NUM` entries -/
def setMeters (meters : MeterList) (text : List UInt8) (s : AlarmConfig × List UInt8) : Option (AlarmConfig × List UInt8) :=
  (alarmFormat.readAll s.2 text).bind fun r =>
    (storeAll Threshold.place (setAlarm F) (fun p => decide (p.1 < MAX_ELECTRICITY_METER_CONF_NUM)) s.1.alarm_thre
      (r.1.filterMap (thresholdOf meters))).map fun alarm_thre => ({ s.1 with alarm_thre := alarm_thre }, r.2)

/-- a round of the loop over the parameters; the flag is read from `para[i]`, and `i` is 0 there -/
def setParameter (meters : MeterList) (first : TextPara) (s : AlarmConfig × List UInt8) (p : TextPara) :
    Option (AlarmConfig × List UInt8) :=
  if p.type = 0x6001 then some ({ s.1 with electrical_parameters_thre_over_alarm_enable := u8Of first.text }, s.2)
  else if p.type = 0x4002 then setMeters F meters p.text s
  else some s

def electricityMeterSetAlarmConfiguration (meters : MeterList) (paras : List TextPara) (tmp : List UInt8) (s : AlarmConfig) :
    Option AlarmConfig := (paras.foldlM (setParameter F meters (paras.headD ⟨0, []⟩)) (s, tmp)).map Prod.fst

end Reading

/-! ## What is asked -/

/-- thresholds on the channels 0 to `ch_num` of the meters: a record that is set is that of its own channel and
parameter, and its bounds are marks or numbers that can be written as texts -/
structure Thresholds (F : BoundTexts UInt32) (meters : MeterList) extends AlarmConfig where
  placed : ∀ m k n, (alarm_thre (m, k, n)).isSet →
    (alarm_thre (m, k, n)).channel.toNat = k ∧ (alarm_thre (m, k, n)).para_id.toNat = n + 1
  min_text : ∀ p, (alarm_thre p).isSet → (alarm_thre p).min_value = NA ∨
    F.value (F.text (alarm_thre p).min_value) = (alarm_thre p).min_value
  max_text : ∀ p, (alarm_thre p).isSet → (alarm_thre p).max_value = NA ∨
    F.value (F.text (alarm_thre p).max_value) = (alarm_thre p).max_value

section Asked

variable {F : BoundTexts UInt32} {meters : MeterList} (s : Thresholds F meters)

/-- a threshold of a configured meter, on a channel from 0 to its `ch_num` -/
def Configured (m : ℕ) (meter : Meter) (k n : ℕ) : Prop :=
  meters.list[m]? = some meter ∧ k ≤ meter.ch_num ∧ n < MAX_ELECTRICITY_METER_ALARM_PARA_NUM ∧
    (s.alarm_thre (m, k, n)).isSet = true

/-- the text lists every threshold, and is read back into equal records, whose last run mode is left as it was -/
def Restored : Prop :=
  ∃ enable es, electricityMeterGetAlarmConfiguration F meters s.toAlarmConfig =
      some [⟨0x6101, enable⟩, ⟨0x4102, entriesText es⟩] ∧
    (∀ m meter k n, Configured s m meter k n → alarmEntry F meter.key (s.alarm_thre (m, k, n)) ∈ es) ∧
    ∀ (tmp : List UInt8) (old : AlarmConfig), ∃ new,
      electricityMeterSetAlarmConfiguration F meters [⟨0x4002, entriesText es⟩] tmp old = some new ∧
      ∀ m meter k n, Configured s m meter k n → new.alarm_thre (m, k, n) =
        { s.alarm_thre (m, k, n) with last_run_mode := (old.alarm_thre (m, k, n)).last_run_mode }

end Asked

/-! ## Widths -/

section Widths

variable (F : BoundTexts UInt32)

/-- the characters of an entry, with a separator behind each field -/
def alarmWidth (key : UInt8 × UInt8) (a : Alarm) : ℕ :=
  hexWidth key.1 + decimalWidth key.2.toNat + decimalWidth a.channel.toNat + decimalWidth a.para_id.toNat +
    (F.text a.min_value).length + decimalWidth a.min_range.toNat + (F.text a.max_value).length +
    decimalWidth a.max_range.toNat + decimalWidth a.confirm_time.toNat + decimalWidth a.switch_run_mode.toNat +
    decimalWidth a.resume_run_mode.toNat + decimalWidth a.relay_action.toNat + 12

def printedWidth (meters : MeterList) (alarm_thre : Place → Alarm) : ℕ :=
  ((printed meters alarm_thre).map fun e => alarmWidth F e.1 (alarm_thre e.2)).sum

/-- four bytes are never eight bytes of `0xFF` -/
theorem boundField_eq (v : UInt32) : boundField F v = F.text v := by
  have hne : v.toUInt64 ≠ 0xFFFFFFFFFFFFFFFF := by
    intro h
    have hnat := congrArg UInt64.toNat h
    have hlt := v.toNat_lt
    rw [UInt32.toNat_toUInt64] at hnat
    change v.toNat = 18446744073709551615 at hnat
    omega
  rw [boundField, if_neg hne]

variable (key : UInt8 × UInt8) (a : Alarm)

theorem width_alarmEntry : entryWidth (alarmEntry F key a).fields = alarmWidth F key a := by
  simp only [entryWidth, EntryText.fields, alarmEntry, List.cons_append, List.nil_append, List.map_cons, List.map_nil,
    List.sum_cons, List.sum_nil, length_sprintfX, length_sprintfD_nat, boundField_eq, alarmWidth]
  omega

theorem shaped_alarmEntry : alarmFormat.Shaped (alarmEntry F key a) where
  add := sprintfX_ne_nil key.1
  place := rfl
  values := rfl
  plain := by
    simp only [EntryText.fields, alarmEntry, List.cons_append, List.nil_append, List.forall_mem_cons, boundField_eq]
    exact ⟨plain_sprintfX _, plain_sprintfD _, plain_sprintfD _, plain_sprintfD _, F.plain _, plain_sprintfD _, F.plain _,
      plain_sprintfD _, plain_sprintfD _, plain_sprintfD _, plain_sprintfD _, plain_sprintfD _,
      fun _ h => absurd h List.not_mem_nil⟩

theorem short_alarmEntry : alarmFormat.Short (alarmEntry F key a) ↔
    (F.text a.min_value).length ≤ 9 ∧ (F.text a.max_value).length ≤ 9 := by
  have hbytes := fun b => (decimalWidth_byte b).trans (by decide : 3 ≤ 9)
  have hadd := (hexWidth_le key.1).trans (by decide : 2 ≤ 9)
  simp only [EntryFormat.Short, EntryText.fields, alarmEntry, alarmFormat, List.cons_append, List.nil_append,
    List.forall_mem_cons, List.not_mem_nil, false_implies, implies_true, and_true, length_sprintfX, length_sprintfD_nat,
    boundField_eq, hbytes, hadd, true_and, Nat.lt_succ_iff]

theorem fields_ne_nil : ∀ t ∈ (alarmEntry F key a).fields, t ≠ [] := by
  simp only [EntryText.fields, alarmEntry, List.cons_append, List.nil_append, List.forall_mem_cons, boundField_eq]
  exact ⟨sprintfX_ne_nil _, sprintfD_ne_nil _, sprintfD_ne_nil _, sprintfD_ne_nil _, F.ne_nil _, sprintfD_ne_nil _,
    F.ne_nil _, sprintfD_ne_nil _, sprintfD_ne_nil _, sprintfD_ne_nil _, sprintfD_ne_nil _, sprintfD_ne_nil _,
    fun _ h => absurd h List.not_mem_nil⟩

theorem accepts_alarmEntry : alarmFormat.accepts (alarmEntry F key a).place = true ↔
    a.channel.toNat < MAX_ELECTRICITY_METER_CH_NUM ∧ a.para_id.toNat < MAX_ELECTRICITY_METER_ALARM_PARA_NUM := by
  simp only [alarmFormat, alarmEntry, List.getD_cons_succ, List.getD_cons_zero, u8Of_sprintfD, Bool.and_eq_true,
    decide_eq_true_eq]

end Widths

/-! ## The printed records -/

section Printed

variable {meters : MeterList} {alarm_thre : Place → Alarm}

theorem mem_meterPlaces {m : ℕ} {meter : Meter} {p : Place} : p ∈ meterPlaces m meter ↔
    p.1 = m ∧ p.2.1 < meter.ch_num ∧ p.2.2 < MAX_ELECTRICITY_METER_ALARM_PARA_NUM := by
  obtain ⟨m', k, n⟩ := p
  simp only [meterPlaces, List.mem_flatMap, List.mem_map, List.mem_range, Prod.mk.injEq]
  constructor
  · rintro ⟨k', hk, n', hn, rfl, rfl, rfl⟩
    exact ⟨rfl, hk, hn⟩
  · rintro ⟨rfl, hk, hn⟩
    exact ⟨k, hk, n, hn, rfl, rfl, rfl⟩

theorem mem_printed {key : UInt8 × UInt8} {p : Place} : (key, p) ∈ printed meters alarm_thre ↔
    ∃ meter, meters.list[p.1]? = some meter ∧ meter.key = key ∧ p.2.1 < meter.ch_num ∧
      p.2.2 < MAX_ELECTRICITY_METER_ALARM_PARA_NUM ∧ (alarm_thre p).isSet = true := by
  rw [printed, List.mem_filter, List.mem_flatMap]
  constructor
  · rintro ⟨⟨⟨meter, m⟩, hmeter, hp⟩, hset⟩
    obtain ⟨p', hp', heq⟩ := List.mem_map.1 hp
    cases heq
    obtain ⟨rfl, hk, hn⟩ := mem_meterPlaces.1 hp'
    exact ⟨meter, List.mem_zipIdx_iff_getElem?.1 hmeter, rfl, hk, hn, hset⟩
  · rintro ⟨meter, hmeter, rfl, hk, hn, hset⟩
    exact ⟨⟨(meter, p.1), List.mem_zipIdx_iff_getElem?.2 hmeter,
      List.mem_map_of_mem (mem_meterPlaces.2 ⟨rfl, hk, hn⟩)⟩, hset⟩

theorem nodup_meterPlaces (m : ℕ) (meter : Meter) : (meterPlaces m meter).Nodup := by
  rw [meterPlaces, List.nodup_flatMap]
  constructor
  · intro k _
    exact List.Nodup.map (fun n n' h => by cases h; rfl) List.nodup_range
  · refine List.nodup_range.pairwise_of_forall_ne fun k _ k' _ hne => ?_
    rw [Function.onFun, List.disjoint_left]
    intro p hp hp'
    obtain ⟨n, -, rfl⟩ := List.mem_map.1 hp
    obtain ⟨n', -, heq⟩ := List.mem_map.1 hp'
    cases heq
    exact hne rfl

/-- each record once -/
theorem nodup_printed : ((printed meters alarm_thre).map Prod.snd).Nodup := by
  have hall : ((meters.list.zipIdx.flatMap fun k => (meterPlaces k.2 k.1).map fun p => (k.1.key, p)).map
      Prod.snd).Nodup := by
    have hplaces : (meters.list.zipIdx.flatMap fun k => (meterPlaces k.2 k.1).map fun p => (k.1.key, p)).map Prod.snd =
        meters.list.zipIdx.flatMap fun k => meterPlaces k.2 k.1 := by
      rw [List.map_flatMap]
      refine List.flatMap_congr fun k _ => ?_
      rw [List.map_map]
      exact List.map_id _
    rw [hplaces]
    exact Puts.nodup_rows (fun k => nodup_meterPlaces k.2 k.1) fun k p hp => (mem_meterPlaces.1 hp).1
  exact hall.sublist (List.filter_sublist.map Prod.snd)

variable (F : BoundTexts UInt32)

theorem width_meterEntries :
    entriesWidth (meterEntries F meters alarm_thre) = printedWidth F meters alarm_thre := by
  rw [entriesWidth, meterEntries, List.map_map, printedWidth]
  exact congrArg List.sum (List.map_congr_left fun e _ => width_alarmEntry F e.1 (alarm_thre e.2))

theorem mem_meterEntries {e : EntryText} : e ∈ meterEntries F meters alarm_thre ↔
    ∃ key p, (key, p) ∈ printed meters alarm_thre ∧ e = alarmEntry F key (alarm_thre p) := by
  rw [meterEntries, List.mem_map]
  constructor
  · rintro ⟨⟨key, p⟩, hmem, rfl⟩
    exact ⟨key, p, hmem, rfl⟩
  · rintro ⟨key, p, hmem, rfl⟩
    exact ⟨(key, p), hmem, rfl⟩

/-- the number of entries is a `u8` -/
theorem length_meterEntries (h : printedWidth F meters alarm_thre ≤ 4095) :
    (meterEntries F meters alarm_thre).length ≤ 255 := by
  have hentry : ∀ e ∈ meterEntries F meters alarm_thre, 24 ≤ entryWidth e.fields := by
    intro e he
    obtain ⟨key, p, -, rfl⟩ := (mem_meterEntries F).1 he
    exact two_le_entryWidth (fields_ne_nil F key (alarm_thre p))
  have hlength := length_le_entriesWidth hentry
  rw [width_meterEntries] at hlength
  omega

end Printed

/-! ## The stored records -/

section Stored

variable {F : BoundTexts UInt32} {meters : MeterList}

/-- the index of a key that is there is that of the first meter with it -/
theorem meterIndex_eq_iff {m : ℕ} {meter : Meter} (h : meters.list[m]? = some meter) (key : UInt8 × UInt8) :
    meterIndex meters key = m ↔ meter.key = key ∧ ∀ i < m, ∀ other, meters.list[i]? = some other → other.key ≠ key :=
  Puts.findIdx_key_iff Meter.key h key

/-- what is stored for a printed record -/
def stored (F : BoundTexts UInt32) (meters : MeterList) (alarm_thre : Place → Alarm) (e : (UInt8 × UInt8) × Place) :
    Threshold :=
  let a := alarm_thre e.2
  ⟨meterIndex meters e.1, a.channel.toNat, a.para_id.toNat, (alarmEntry F e.1 a).values⟩

theorem thresholdOf_alarmEntry (key : UInt8 × UInt8) {a : Alarm} (h : a.isSet = true) :
    thresholdOf meters (alarmEntry F key a).entry =
      some ⟨meterIndex meters key, a.channel.toNat, a.para_id.toNat, (alarmEntry F key a).values⟩ := by
  have hpara : a.para_id.toNat ≠ 0 := by
    intro hzero
    rw [Alarm.isSet, Bool.and_eq_true, decide_eq_true_eq, decide_eq_true_eq] at h
    exact h.2 (UInt8.toNat_inj.1 hzero)
  rw [thresholdOf, EntryText.entry, Option.map_some]
  simp only [alarmEntry, hexByteOf_sprintfX, List.getD_cons_zero, List.getD_cons_succ, u8Of_sprintfD, if_neg hpara]

/-- a printed record, over what was there -/
theorem setAlarm_alarmEntry (m : ℕ) (key : UInt8 × UInt8) (a old : Alarm) :
    setAlarm F ⟨m, a.channel.toNat, a.para_id.toNat, (alarmEntry F key a).values⟩ old =
      { a with
        min_value := F.value (F.text a.min_value)
        max_value := F.value (F.text a.max_value)
        last_run_mode := old.last_run_mode } := by
  simp only [setAlarm, alarmEntry, List.getD_cons_zero, List.getD_cons_succ, boundField_eq, Alarm.setMin, Alarm.setMax,
    F.unmarked, u8Of_sprintfD, UInt8.ofNat_toNat, Bool.false_eq_true, if_false]

/-- no record of parameter 8 is written -/
theorem thresholdOf_para {tmp text : List UInt8} {x : List Entry × List UInt8}
    (h : alarmFormat.readAll tmp text = some x) {t : Threshold} (ht : t ∈ x.1.filterMap (thresholdOf meters)) :
    t.place.2.2 < 7 ∧ ∃ key, t.place.1 = meterIndex meters key := by
  obtain ⟨e, he, hstore⟩ := List.mem_filterMap.1 ht
  obtain ⟨values, hvalues, rfl⟩ := Option.map_eq_some_iff.1 hstore
  have haccepts := readAll_accepted h e he (by rw [hvalues]; rfl)
  rw [alarmFormat, Bool.and_eq_true, decide_eq_true_eq, decide_eq_true_eq] at haccepts
  have hpara : (u8Of (e.place.getD 2 [])).toNat < 8 := haccepts.2
  refine ⟨?_, _, rfl⟩
  change (if (u8Of (e.place.getD 2 [])).toNat = 0 then 1 else (u8Of (e.place.getD 2 [])).toNat) - 1 < 7
  split_ifs <;> omega

theorem set_one (text tmp : List UInt8) (old : AlarmConfig) :
    electricityMeterSetAlarmConfiguration F meters [⟨0x4002, text⟩] tmp old =
      (setMeters F meters text (old, tmp)).map Prod.fst := by
  rw [electricityMeterSetAlarmConfiguration, List.foldlM_cons]
  change Option.map _ ((setMeters F meters text (old, tmp)).bind some) = _
  rw [Option.bind_fun_some]

end Stored

/-! ## What comes back -/

section Result

variable {F : BoundTexts UInt32} {meters : MeterList}

/-- thresholds that come back -/
structure Restorable (s : Thresholds F meters) : Prop where
  listed : ∀ m meter k n, Configured s m meter k n → k < meter.ch_num ∧ n < 7
  first : ∀ m meter k n, Configured s m meter k n →
    ∀ i < m, ∀ other, meters.list[i]? = some other → other.key ≠ meter.key
  short : ∀ m meter k n, Configured s m meter k n →
    (F.text (s.alarm_thre (m, k, n)).min_value).length ≤ 9 ∧ (F.text (s.alarm_thre (m, k, n)).max_value).length ≤ 9
  marks : ∀ m meter k n, Configured s m meter k n →
    (s.alarm_thre (m, k, n)).min_value = NA ∨ (s.alarm_thre (m, k, n)).max_value = NA → F.value (F.text NA) = NA
  width : printedWidth F meters s.alarm_thre ≤ 4095

variable {s : Thresholds F meters}

/-- what is printed is configured -/
theorem configured_of_printed {key : UInt8 × UInt8} {p : Place} (h : (key, p) ∈ printed meters s.alarm_thre) :
    ∃ meter, meter.key = key ∧ p.2.1 < meter.ch_num ∧ Configured s p.1 meter p.2.1 p.2.2 := by
  obtain ⟨meter, hmeter, hkey, hk, hn, hset⟩ := mem_printed.1 h
  exact ⟨meter, hkey, hk, hmeter, hk.le, hn, hset⟩

/-- other contents -/
def Alarm.other (a : Alarm) : Alarm := { a with relay_action := a.relay_action + 1 }

theorem other_relay_action (a : Alarm) : a.other.relay_action ≠ a.relay_action := by
  intro h
  have hnat := congrArg UInt8.toNat h
  have hlt := a.relay_action.toNat_lt
  rw [Alarm.other, UInt8.toNat_add] at hnat
  change (a.relay_action.toNat + 1) % 256 = _ at hnat
  omega

theorem runs_of_restored (h : Restored s) : printedWidth F meters s.alarm_thre ≤ 4095 ∧
    ∀ old : AlarmConfig, ∃ new, setMeters F meters (entriesText (meterEntries F meters s.alarm_thre)) (old, []) = some new ∧
      ∀ m meter k n, Configured s m meter k n → new.1.alarm_thre (m, k, n) =
        { s.alarm_thre (m, k, n) with last_run_mode := (old.alarm_thre (m, k, n)).last_run_mode } := by
  obtain ⟨enable, es, hget, -, hset⟩ := h
  rw [electricityMeterGetAlarmConfiguration] at hget
  split_ifs at hget
  obtain ⟨text, hprint, heq⟩ := Option.map_eq_some_iff.1 hget
  rw [print_entries (by decide), width_meterEntries] at hprint
  split_ifs at hprint with hwidth
  have htext : text = entriesText es := by
    simp only [List.cons.injEq, TextPara.mk.injEq, true_and, and_true] at heq
    exact heq.2
  refine ⟨Nat.le_of_lt_succ hwidth, fun old => ?_⟩
  obtain ⟨new, hnew, hsame⟩ := hset [] old
  rw [set_one, ← htext, ← Option.some.inj hprint] at hnew
  obtain ⟨new', hnew', rfl⟩ := Option.map_eq_some_iff.1 hnew
  exact ⟨new', hnew', hsame⟩

/-- every threshold is stored, whatever is read -/
theorem stored_of_restored (h : Restored s) {m : ℕ} {meter : Meter} {k n : ℕ} (hc : Configured s m meter k n) :
    ∃ x, alarmFormat.readAll [] (entriesText (meterEntries F meters s.alarm_thre)) = some x ∧
      ∃ t ∈ x.1.filterMap (thresholdOf meters), t.place = (m, k, n) := by
  obtain ⟨new, hnew, hsame⟩ := (runs_of_restored h).2 ⟨0, fun p => (s.alarm_thre p).other⟩
  obtain ⟨x, hread, hmap⟩ := Option.bind_eq_some_iff.1 hnew
  obtain ⟨alarm_thre, hstore, rfl⟩ := Option.map_eq_some_iff.1 hmap
  refine ⟨x, hread, ?_⟩
  by_contra hnone
  push Not at hnone
  have hkept := Puts.storeAll_other _ _ _ hnone hstore
  have hrestored := hsame m meter k n hc
  change alarm_thre (m, k, n) = _ at hrestored
  rw [hkept] at hrestored
  exact other_relay_action _ (congrArg Alarm.relay_action hrestored)

theorem para_of_restored (h : Restored s) {m : ℕ} {meter : Meter} {k n : ℕ} (hc : Configured s m meter k n) : n < 7 := by
  obtain ⟨x, hread, t, ht, hplace⟩ := stored_of_restored h hc
  have hpara := (thresholdOf_para hread ht).1
  rwa [hplace] at hpara

theorem first_of_restored (h : Restored s) {m : ℕ} {meter : Meter} {k n : ℕ} (hc : Configured s m meter k n) :
    meterIndex meters meter.key = m := by
  obtain ⟨x, hread, t, ht, hplace⟩ := stored_of_restored h hc
  obtain ⟨key, hkey⟩ := (thresholdOf_para hread ht).2
  rw [hplace] at hkey
  have hindex := hkey.symm
  obtain ⟨rfl, -⟩ := (meterIndex_eq_iff hc.1 key).1 hindex
  exact hindex

/-- thresholds of parameters up to 7 are accepted -/
theorem accepted_entries (h : ∀ m meter k n, Configured s m meter k n → n < 7) :
    ∀ e ∈ meterEntries F meters s.alarm_thre, alarmFormat.Shaped e ∧ alarmFormat.accepts e.place = true := by
  intro e he
  obtain ⟨key, p, hp, rfl⟩ := (mem_meterEntries F).1 he
  obtain ⟨meter, -, -, hc⟩ := configured_of_printed hp
  obtain ⟨hch, hpara⟩ := s.placed p.1 p.2.1 p.2.2 hc.2.2.2
  have hset := hc.2.2.2
  rw [Alarm.isSet, Bool.and_eq_true, decide_eq_true_eq] at hset
  have hn := h _ _ _ _ hc
  refine ⟨shaped_alarmEntry F key _, (accepts_alarmEntry F key _).2 ⟨hset.1, ?_⟩⟩
  change (s.alarm_thre p).para_id.toNat < 8
  change (s.alarm_thre p).para_id.toNat = p.2.2 + 1 at hpara
  omega

/-- what is stored for accepted entries -/
theorem filterMap_entries : ((meterEntries F meters s.alarm_thre).map EntryText.entry).filterMap (thresholdOf meters) =
    (printed meters s.alarm_thre).map (stored F meters s.alarm_thre) := by
  rw [meterEntries, List.map_map, List.filterMap_map, ← List.filterMap_eq_map]
  refine List.filterMap_congr fun e he => ?_
  obtain ⟨key, p⟩ := e
  obtain ⟨meter, -, -, hc⟩ := configured_of_printed he
  exact thresholdOf_alarmEntry key hc.2.2.2

/-- each at its own place, where the meters are the first of their keys -/
theorem place_stored (h : ∀ m meter k n, Configured s m meter k n → meterIndex meters meter.key = m)
    {e : (UInt8 × UInt8) × Place} (he : e ∈ printed meters s.alarm_thre) :
    (stored F meters s.alarm_thre e).place = e.2 := by
  obtain ⟨key, m, k, n⟩ := e
  obtain ⟨meter, rfl, -, hc⟩ := configured_of_printed he
  obtain ⟨hch, hpara⟩ := s.placed m k n hc.2.2.2
  have hindex := h _ _ _ _ hc
  change (meterIndex meters meter.key, (s.alarm_thre (m, k, n)).channel.toNat,
    (s.alarm_thre (m, k, n)).para_id.toNat - 1) = (m, k, n)
  rw [hindex, hch, hpara, Nat.add_sub_cancel]

/-- the entries have short fields, and are read as they are -/
theorem read_of_restored (h : Restored s) : (∀ e ∈ meterEntries F meters s.alarm_thre, alarmFormat.Short e) ∧
    ∃ tmp', alarmFormat.readAll [] (entriesText (meterEntries F meters s.alarm_thre)) =
      some ((meterEntries F meters s.alarm_thre).map EntryText.entry, tmp') := by
  obtain ⟨hwidth, hruns⟩ := runs_of_restored h
  have haccepted := accepted_entries (fun m meter k n => @para_of_restored _ _ _ h m meter k n)
  have hshort : ∀ e ∈ meterEntries F meters s.alarm_thre, alarmFormat.Short e := by
    by_contra hlong
    push Not at hlong
    obtain ⟨new, hnew, -⟩ := hruns s.toAlarmConfig
    rw [setMeters, readAll_long haccepted (length_meterEntries F hwidth) hlong] at hnew
    cases hnew
  exact ⟨hshort, readAll_text (fun e he => ⟨(haccepted e he).1, hshort e he, (haccepted e he).2⟩)
    (length_meterEntries F hwidth) []⟩

theorem listed_of_restored (h : Restored s) {m : ℕ} {meter : Meter} {k n : ℕ} (hc : Configured s m meter k n) :
    k < meter.ch_num := by
  obtain ⟨-, tmp', hentries⟩ := read_of_restored h
  obtain ⟨x, hread, t, ht, hplace⟩ := stored_of_restored h hc
  rw [hentries] at hread
  cases hread
  rw [filterMap_entries, List.mem_map] at ht
  obtain ⟨e, he, rfl⟩ := ht
  rw [place_stored (fun m meter k n => @first_of_restored _ _ _ h m meter k n) he] at hplace
  obtain ⟨key, p⟩ := e
  obtain rfl : p = (m, k, n) := hplace
  obtain ⟨meter', -, hk, hc'⟩ := configured_of_printed he
  have hmeter : some meter' = some meter := hc'.1.symm.trans hc.1
  cases hmeter
  exact hk

/-- what is stored, in the place it is printed from -/
theorem stored_at (hfirst : ∀ m meter k n, Configured s m meter k n → meterIndex meters meter.key = m)
    {m : ℕ} {meter : Meter} {k n : ℕ} (hc : Configured s m meter k n) (hk : k < meter.ch_num) (old : Place → Alarm) :
    putAll Threshold.place (setAlarm F) old ((printed meters s.alarm_thre).map (stored F meters s.alarm_thre)) (m, k, n) =
      { s.alarm_thre (m, k, n) with
        min_value := F.value (F.text (s.alarm_thre (m, k, n)).min_value)
        max_value := F.value (F.text (s.alarm_thre (m, k, n)).max_value)
        last_run_mode := (old (m, k, n)).last_run_mode } := by
  have hprinted : (meter.key, (m, k, n)) ∈ printed meters s.alarm_thre :=
    mem_printed.2 ⟨meter, hc.1, rfl, hk, hc.2.2.1, hc.2.2.2⟩
  have hput := Puts.putAll_map_of_mem Threshold.place (setAlarm F) (fun e he => place_stored hfirst he) nodup_printed
    hprinted old
  rw [hput]
  exact setAlarm_alarmEntry _ _ _ _

/-- the entries that are printed, stored over former records -/
theorem setMeters_entries (hfirst : ∀ m meter k n, Configured s m meter k n → meterIndex meters meter.key = m)
    {tmp tmp' : List UInt8} (hread : alarmFormat.readAll tmp (entriesText (meterEntries F meters s.alarm_thre)) =
      some ((meterEntries F meters s.alarm_thre).map EntryText.entry, tmp')) (old : AlarmConfig) :
    setMeters F meters (entriesText (meterEntries F meters s.alarm_thre)) (old, tmp) =
      some (⟨old.electrical_parameters_thre_over_alarm_enable, putAll Threshold.place (setAlarm F) old.alarm_thre
        ((printed meters s.alarm_thre).map (stored F meters s.alarm_thre))⟩, tmp') := by
  have hinside : ∀ t ∈ (printed meters s.alarm_thre).map (stored F meters s.alarm_thre),
      decide (t.place.1 < MAX_ELECTRICITY_METER_CONF_NUM) = true := by
    intro t ht
    obtain ⟨⟨key, p⟩, he, rfl⟩ := List.mem_map.1 ht
    obtain ⟨meter, -, -, hc⟩ := configured_of_printed he
    rw [place_stored hfirst he]
    exact decide_eq_true ((List.getElem?_eq_some_iff.1 hc.1).1.trans_le meters.length_le)
  rw [setMeters, hread, Option.bind_some, filterMap_entries, Puts.storeAll_eq, if_pos hinside, Option.map_some]

theorem marks_of_restored (h : Restored s) {m : ℕ} {meter : Meter} {k n : ℕ} (hc : Configured s m meter k n)
    (hna : (s.alarm_thre (m, k, n)).min_value = NA ∨ (s.alarm_thre (m, k, n)).max_value = NA) :
    F.value (F.text NA) = NA := by
  obtain ⟨-, tmp', hentries⟩ := read_of_restored h
  have hfirst : ∀ m meter k n, Configured s m meter k n → meterIndex meters meter.key = m := fun m meter k n =>
    @first_of_restored _ _ _ h m meter k n
  obtain ⟨new, hnew, hsame⟩ := (runs_of_restored h).2 s.toAlarmConfig
  rw [setMeters_entries hfirst hentries] at hnew
  cases hnew
  have hcell := hsame m meter k n hc
  change putAll _ _ _ _ (m, k, n) = _ at hcell
  rw [stored_at hfirst hc (listed_of_restored h hc)] at hcell
  rcases hna with hna | hna
  · have hmin := congrArg Alarm.min_value hcell
    change F.value (F.text (s.alarm_thre (m, k, n)).min_value) = (s.alarm_thre (m, k, n)).min_value at hmin
    rwa [hna] at hmin
  · have hmax := congrArg Alarm.max_value hcell
    change F.value (F.text (s.alarm_thre (m, k, n)).max_value) = (s.alarm_thre (m, k, n)).max_value at hmax
    rwa [hna] at hmax

theorem restorable_of_restored (h : Restored s) : Restorable s where
  listed _ _ _ _ hc := ⟨listed_of_restored h hc, para_of_restored h hc⟩
  first _ _ _ _ hc := ((meterIndex_eq_iff hc.1 _).1 (first_of_restored h hc)).2
  short m meter k n hc := by
    have hprinted : (meter.key, (m, k, n)) ∈ printed meters s.alarm_thre :=
      mem_printed.2 ⟨meter, hc.1, rfl, listed_of_restored h hc, hc.2.2.1, hc.2.2.2⟩
    exact (short_alarmEntry F _ _).1 ((read_of_restored h).1 _ ((mem_meterEntries F).2 ⟨_, _, hprinted, rfl⟩))
  marks _ _ _ _ hc := marks_of_restored h hc
  width := (runs_of_restored h).1

theorem restored_of_restorable (h : Restorable s) : Restored s := by
  have hfirst : ∀ m meter k n, Configured s m meter k n → meterIndex meters meter.key = m := fun m meter k n hc =>
    (meterIndex_eq_iff hc.1 _).2 ⟨rfl, h.first m meter k n hc⟩
  have haccepted := accepted_entries fun m meter k n hc => (h.listed m meter k n hc).2
  have hshort : ∀ e ∈ meterEntries F meters s.alarm_thre, alarmFormat.Short e := by
    intro e he
    obtain ⟨key, p, hp, rfl⟩ := (mem_meterEntries F).1 he
    obtain ⟨meter, -, -, hc⟩ := configured_of_printed hp
    exact (short_alarmEntry F _ _).2 (h.short _ _ _ _ hc)
  have hbounds : ∀ m meter k n, Configured s m meter k n →
      F.value (F.text (s.alarm_thre (m, k, n)).min_value) = (s.alarm_thre (m, k, n)).min_value ∧
        F.value (F.text (s.alarm_thre (m, k, n)).max_value) = (s.alarm_thre (m, k, n)).max_value := by
    intro m meter k n hc
    have hmarks := h.marks m meter k n hc
    constructor
    · rcases s.min_text _ hc.2.2.2 with hna | htext
      · rw [hna]
        exact hmarks (.inl hna)
      · exact htext
    · rcases s.max_text _ hc.2.2.2 with hna | htext
      · rw [hna]
        exact hmarks (.inr hna)
      · exact htext
  refine ⟨sprintfD s.electrical_parameters_thre_over_alarm_enable.toNat, meterEntries F meters s.alarm_thre, ?_,
    fun m meter k n hc => ?_, fun tmp old => ?_⟩
  · have hfits : ∀ e ∈ meterEntries F meters s.alarm_thre, ∀ t ∈ e.fields, t.length < 25 := fun e he t ht =>
      (hshort e he t ht).trans (by decide)
    rw [electricityMeterGetAlarmConfiguration, if_pos hfits, print_entries (by decide), width_meterEntries,
      if_pos (Nat.lt_succ_of_le h.width)]
    rfl
  · exact (mem_meterEntries F).2 ⟨meter.key, (m, k, n),
      mem_printed.2 ⟨meter, hc.1, rfl, (h.listed m meter k n hc).1, hc.2.2.1, hc.2.2.2⟩, rfl⟩
  · obtain ⟨tmp', hread⟩ := readAll_text (fun e he => ⟨(haccepted e he).1, hshort e he, (haccepted e he).2⟩)
      (length_meterEntries F h.width) tmp
    refine ⟨_, by rw [set_one, setMeters_entries hfirst hread, Option.map_some], fun m meter k n hc => ?_⟩
    obtain ⟨hmin, hmax⟩ := hbounds m meter k n hc
    change putAll _ _ _ _ (m, k, n) = _
    rw [stored_at hfirst hc (h.listed m meter k n hc).1, hmin, hmax]

/-- a mark for the upper bound is written over the run mode, which the entry does not name -/
theorem last_run_mode_setAlarm (F : BoundTexts UInt32) (t : Threshold) (a : Alarm) :
    (setAlarm F t a).last_run_mode = if isMarked (t.values.getD 2 []) then 0xFF else a.last_run_mode := by
  have hmin : ∀ (text : List UInt8) (b : Alarm), (b.setMin F text).last_run_mode = b.last_run_mode := by
    intro text b
    rw [Alarm.setMin]
    split_ifs <;> rfl
  have hmax : ∀ (text : List UInt8) (b : Alarm), (b.setMax F text).last_run_mode =
      if isMarked text then 0xFF else b.last_run_mode := by
    intro text b
    rw [Alarm.setMax]
    split_ifs <;> rfl
  change (Alarm.setMax F (t.values.getD 2 []) _).last_run_mode = _
  rw [hmax]
  split_ifs
  · rfl
  · exact hmin (t.values.getD 0 []) _

/-- **Thresholds.** They come back from their text exactly when none is on the last channel or on parameter 8, or of a
second meter with an address and channel, their bounds have nine characters at most, a mark reads back as one, and all
have room; and a mark changes nothing else exactly where it finds bytes of `0xFF`. -/
theorem thresholds_iff (s : Thresholds F meters) (t : Threshold) (a : Alarm) : (Restored s ↔ Restorable s) ∧
    (a.minNA = { a with min_value := NA } ↔ a.min_range = 0xFF ∧ a.max_value ||| 0x00FFFFFF = a.max_value) ∧
    (a.maxNA = { a with max_value := NA } ↔
      a.max_range = 0xFF ∧ a.confirm_time = 0xFF ∧ a.last_run_mode = 0xFF ∧ a.switch_run_mode = 0xFF) ∧
    ((setAlarm F t a).last_run_mode = a.last_run_mode ↔
      (isMarked (t.values.getD 2 []) = true → a.last_run_mode = 0xFF)) := by
  refine ⟨⟨restorable_of_restored, restored_of_restorable⟩, ?_, ?_, ?_⟩
  · simp only [Alarm.minNA, Alarm.mk.injEq, true_and, and_true]
    exact and_congr_left fun _ => eq_comm
  · simp only [Alarm.maxNA, Alarm.mk.injEq, true_and, and_true, eq_comm (a := (0xFF : UInt8))]
  · rw [last_run_mode_setAlarm]
    split_ifs with hmarked
    · exact ⟨fun h _ => h.symm, fun h => (h hmarked).symm⟩
    · exact ⟨fun _ h => absurd h hmarked, fun _ => rfl⟩

end Result

/-! ## Thresholds that are lost -/

/-- `%f` and `atof` of 50 and of 220; other numbers are taken for 0 -/
def sampleText (v : UInt32) : List UInt8 :=
  if v = 0x42480000 then [0x35, 0x30, 0x2E, 0x30, 0x30, 0x30, 0x30, 0x30, 0x30]
  else if v = 0x435C0000 then [0x32, 0x32, 0x30, 0x2E, 0x30, 0x30, 0x30, 0x30, 0x30, 0x30]
  else [0x30, 0x2E, 0x30, 0x30, 0x30, 0x30, 0x30, 0x30]

def sampleValue (text : List UInt8) : UInt32 :=
  if text = sampleText 0x42480000 then 0x42480000 else if text = sampleText 0x435C0000 then 0x435C0000 else 0

/-- they are those of `%f` -/
example : sampleText 0x42480000 = sprintfF 0x42480000 ∧ sampleText 0x435C0000 = sprintfF 0x435C0000 ∧
    sampleText 0 = sprintfF 0 := by decide +kernel

theorem sampleText_law {Q : List UInt8 → Prop} (h50 : Q (sampleText 0x42480000)) (h220 : Q (sampleText 0x435C0000))
    (h0 : Q (sampleText 0)) (v : UInt32) : Q (sampleText v) := by
  by_cases hv : v = 0x42480000
  · rwa [hv]
  · by_cases hv' : v = 0x435C0000
    · rwa [hv']
    · rw [sampleText, if_neg hv, if_neg hv']
      exact h0

theorem sampleText_plain (v : UInt32) : Plain (sampleText v) :=
  sampleText_law (List.all_iff_forall_prop.1 (by decide)) (List.all_iff_forall_prop.1 (by decide))
    (List.all_iff_forall_prop.1 (by decide)) v

theorem sampleText_ne_nil (v : UInt32) : sampleText v ≠ [] :=
  @sampleText_law (· ≠ []) (by decide) (by decide) (by decide) v

theorem sampleText_unmarked (v : UInt32) : isMarked (sampleText v) = false :=
  @sampleText_law (fun text => isMarked text = false) (by decide) (by decide) (by decide) v

def sampleTexts : BoundTexts UInt32 := ⟨sampleText, sampleValue, sampleText_plain, sampleText_ne_nil, sampleText_unmarked⟩

/-- one meter, with the channels 0 to 3 -/
def fourChannels : MeterList := ⟨[⟨1, 1, 3, Nat.lt_of_sub_eq_succ rfl⟩], Nat.le_of_ble_eq_true rfl⟩

/-- a threshold from 50 to `max`, and no other -/
def singleAlarm (k : Fin 7) (n : Fin 8) (max : UInt32) (p : Place) : Alarm :=
  if p = (0, k.val, n.val) then ⟨UInt8.ofNat k, UInt8.ofNat (n + 1), 0x42480000, 5, max, 5, 3, 0, 0, 0, 1⟩
  else ⟨0, 0, 0, 0, 0, 0, 0, 0, 0, 0, 0⟩

theorem singleAlarm_set {k : Fin 7} {n : Fin 8} {max : UInt32} {p : Place} (h : (singleAlarm k n max p).isSet) :
    p = (0, k.val, n.val) ∧
      singleAlarm k n max p = ⟨UInt8.ofNat k, UInt8.ofNat (n + 1), 0x42480000, 5, max, 5, 3, 0, 0, 0, 1⟩ := by
  by_cases hp : p = (0, k.val, n.val)
  · exact ⟨hp, by rw [singleAlarm, if_pos hp]⟩
  · rw [singleAlarm, if_neg hp] at h
    exact absurd h (by decide)

theorem singleAlarm_placed (k : Fin 7) (n : Fin 8) (max : UInt32) : ∀ m k' n', (singleAlarm k n max (m, k', n')).isSet →
    (singleAlarm k n max (m, k', n')).channel.toNat = k' ∧ (singleAlarm k n max (m, k', n')).para_id.toNat = n' + 1 := by
  intro m k' n' h
  obtain ⟨hp, hcell⟩ := singleAlarm_set h
  cases hp
  rw [hcell]
  constructor
  · rw [UInt8.toNat_ofNat']
    omega
  · rw [UInt8.toNat_ofNat']
    omega

theorem singleAlarm_min (k : Fin 7) (n : Fin 8) (max : UInt32) : ∀ p, (singleAlarm k n max p).isSet →
    (singleAlarm k n max p).min_value = NA ∨
      sampleValue (sampleText (singleAlarm k n max p).min_value) = (singleAlarm k n max p).min_value := by
  intro p h
  rw [(singleAlarm_set h).2]
  exact .inr rfl

theorem singleAlarm_max (k : Fin 7) (n : Fin 8) {max : UInt32} (hmax : sampleValue (sampleText max) = max) :
    ∀ p, (singleAlarm k n max p).isSet → (singleAlarm k n max p).max_value = NA ∨
      sampleValue (sampleText (singleAlarm k n max p).max_value) = (singleAlarm k n max p).max_value := by
  intro p h
  rw [(singleAlarm_set h).2]
  exact .inr hmax

def single (k : Fin 7) (n : Fin 8) (max : UInt32) (hmax : sampleValue (sampleText max) = max) :
    Thresholds sampleTexts fourChannels :=
  ⟨⟨1, singleAlarm k n max⟩, singleAlarm_placed k n max, singleAlarm_min k n max, singleAlarm_max k n hmax⟩

/-- lost: a threshold on the last channel, one of parameter 8, one with a bound of 220, and the last run mode of a
record when its upper bound is marked -/
theorem thresholds_lost :
    ¬Restored (single 3 0 0x42480000 rfl) ∧ ¬Restored (single 0 7 0x42480000 rfl) ∧
      ¬Restored (single 0 0 0x435C0000 rfl) ∧
      (⟨1, 1, 0x42480000, 5, 0x435C0000, 5, 3, 1, 0, 0, 1⟩ : Alarm).maxNA.last_run_mode = 0xFF := by
  refine ⟨fun h => ?_, fun h => ?_, fun h => ?_, rfl⟩
  · have hc : Configured (single 3 0 0x42480000 rfl) 0 ⟨1, 1, 3, Nat.lt_of_sub_eq_succ rfl⟩ 3 0 :=
      ⟨rfl, by decide, by decide, rfl⟩
    exact absurd (listed_of_restored h hc) (by decide)
  · have hc : Configured (single 0 7 0x42480000 rfl) 0 ⟨1, 1, 3, Nat.lt_of_sub_eq_succ rfl⟩ 0 7 :=
      ⟨rfl, by decide, by decide, rfl⟩
    exact absurd (para_of_restored h hc) (by decide)
  · have hc : Configured (single 0 0 0x435C0000 rfl) 0 ⟨1, 1, 3, Nat.lt_of_sub_eq_succ rfl⟩ 0 0 :=
      ⟨rfl, by decide, by decide, rfl⟩
    exact absurd ((restorable_of_restored h).short _ _ _ _ hc).2 (by decide)

end DataConcentrator.ElectricityMeter
