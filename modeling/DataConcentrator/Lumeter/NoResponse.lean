/-
The alarm of a light sensor that does not answer, over the laps of `vTaskLUMETER`: `LumeterNoResponseAlarm`,
`LumeterCollectCurrentState` with `GetBuiltOutLumeterState`, and `LumeterRecvAndHandleDeviceFrame`.

Allocations succeed and the queue of the line takes every poll. The addresses and the response times stay as they were loaded;
a write to one of them loads its sensor anew. The thresholds and the value for the logic leave the sensors alone.
- `poll_watch`, `collect_watch`: a poll, and what a round of polls puts to a sensor;
- `recv_spec`: what becomes of a reply;
- `Counts.run`: over a run, the count of a sensor is that of the rounds since its last reply;
- `no_response_iff`: when the alarm is on exactly while too many rounds are without a reply;
- `pack_crcMatches`, `report_fits`: polls and reports are well formed.
-/
import DataConcentrator.Lib.Missed
import DataConcentrator.Lumeter.AlarmText
import DataConcentrator.Lumeter.Unchanged
import DataConcentrator.History.Store

namespace DataConcentrator.Lumeter

open CLoop (foldlM_inv)
open EachIndex (eachRange eachRange_entry mem_eachRange)
open History (AlarmReport FitsWrBuf LUMETER)
open Missed (Watch round idle)
open Relay (sprintfX)

/-! ## Polls -/

/-- `LumeterConfig_S`, as far as the polls and the alarm read it; `module_text` is `module` -/
structure DeviceConfig where
  address : UInt8
  channel : UInt8
  module_text : List UInt8
  value_unchanged_range : UInt32
  no_response_time : UInt8

/-- `module_type`; another text is taken for an MT201 -/
def moduleType (module_text : List UInt8) : UInt8 :=
  if searchStr (cstr module_text) [0x4D, 0x54, 0x32, 0x30, 0x31] ≠ none then 0
  else if searchStr (cstr module_text) [0x51, 0x59, 0x31, 0x35, 0x30, 0x41] ≠ none then 2
  else if searchStr (cstr module_text) [0x51, 0x59, 0x31, 0x35, 0x30, 0x42] ≠ none then 1
  else 0

/-- `outbuf` with its `CRC16` -/
def withCrc16 (outbuf : List UInt8) : List UInt8 := outbuf ++ [(crc16 outbuf).1, (crc16 outbuf).2]

def packBuiltOutLumeterFrame (address mode : UInt8) : List UInt8 :=
  if mode = 0 then [0xFF, address, 0xAC, 0x00, 0x00, 0x00, 0x04]
  else if mode = 1 then withCrc16 [address, 0x03, 0x00, 0x00, 0x00, 0x02]
  else if mode = 2 then withCrc16 [address, 0x03, 0x00, 0x00, 0x00, 0x01]
  else []

/-- a sensor in the loop, at its own address and channel -/
def SensorState.poll (no_response_time : UInt8) (s : SensorState) : SensorState :=
  if s.waitting_resp = 1 then
    if s.no_resp_time < no_response_time then { s with no_resp_time := s.no_resp_time + 1 } else s
  else if s.waitting_resp = 0 then { s with waitting_resp := 1 }
  else s

/-- the sensors, those that are not configured among them, and the frame for the line -/
def getBuiltOutLumeterState (config : DeviceConfig) (state : ℕ → SensorState) : (ℕ → SensorState) × List UInt8 :=
  (fun i =>
    if i < MAX_LUMETER_CONF_NUM ∧ config.address = (state i).address ∧ config.channel = (state i).channel then
      (state i).poll config.no_response_time
    else state i,
    packBuiltOutLumeterFrame config.address (moduleType config.module_text))

/-! ## The task -/

/-- the sensors with the static variables of the alarms and of the collection, and `LumeterConfig` -/
structure Task where
  station : Station
  config : ℕ → DeviceConfig
  occur : ℕ → Bool
  time_s : UInt32

def Task.number (t : Task) : ℕ := t.station.receiver.number

def Task.state (t : Task) : ℕ → SensorState := t.station.receiver.state

def Task.withState (t : Task) (state : ℕ → SensorState) : Task :=
  { t with station := { t.station with receiver := { t.station.receiver with state := state } } }

/-- the collection is due -/
def CollectDue (collect_cycle : UInt16) (tick time_s : UInt32) : Prop :=
  collect_cycle ≠ 0 ∧ UInt32.ofNat (collect_cycle.toNat / 10) ≤ tick - time_s

instance (collect_cycle : UInt16) (tick time_s : UInt32) : Decidable (CollectDue collect_cycle tick time_s) :=
  inferInstanceAs (Decidable (_ ∧ _))

/-- the polls of the configured sensors, one after the other -/
def pollAll (config : ℕ → DeviceConfig) (number : ℕ) (state : ℕ → SensorState) : (ℕ → SensorState) × List (List UInt8) :=
  (List.range number).foldl
    (fun r i => ((getBuiltOutLumeterState (config i) r.1).1, r.2 ++ [(getBuiltOutLumeterState (config i) r.1).2]))
    (state, [])

/-- the frames for the line follow one another -/
def lumeterCollectCurrentState (collect_cycle : UInt16) (tick kept : UInt32) (t : Task) : Task × List (List UInt8) :=
  if CollectDue collect_cycle tick t.time_s then
    ({ t.withState (pollAll t.config t.number t.state).1 with time_s := kept }, (pollAll t.config t.number t.state).2)
  else (t, [])

theorem lumeter_known : LUMETER ≤ LUMETER := UInt8.le_refl _

/-- `LUMETER_DEVICE_ABNORMAL` -/
def LUMETER_DEVICE_ABNORMAL : UInt8 := 2

/-- each value with a comma behind it -/
def listed (texts : List (List UInt8)) : List UInt8 := texts.flatMap fun text => text ++ [0x2C]

/-- the report of `LumeterNoResponseAlarm` -/
def noResponseReport (c : DeviceConfig) (s : SensorState) (occur_time : List UInt8) (occur : Bool) : AlarmReport where
  record_type := if occur then 1 else 0
  device_type := LUMETER
  alarm_type := LUMETER_DEVICE_ABNORMAL
  device_address := sprintfX s.address
  device_channel := sprintfD s.channel.toNat
  current_value := [0x4E, 0x41]
  set_value := listed [sprintfX c.address, sprintfD c.channel.toNat, sprintfD32 c.value_unchanged_range,
    sprintfD c.no_response_time.toNat]
  reference_value := listed [sprintfD32 c.value_unchanged_range, sprintfD c.no_response_time.toNat]
  occur_time := occur_time
  known := lumeter_known

/-- a sensor in the loop: `occur`, and the report if `record` is set -/
def checkResponse (c : DeviceConfig) (s : SensorState) (occur_time : List UInt8) (occur : Bool) :
    Bool × Option AlarmReport :=
  if occur = false then
    if c.no_response_time ≤ s.no_resp_time then (true, some (noResponseReport c s occur_time true)) else (occur, none)
  else if s.no_resp_time < c.no_response_time then (false, some (noResponseReport c s occur_time false))
  else (occur, none)

/-- `occur` after a call, and its reports -/
def lumeterNoResponseAlarm (enable : UInt8) (occur_time : List UInt8) (t : Task) : Task × List (ℕ × AlarmReport) :=
  if enable = 1 then
    let r := eachRange (fun i => checkResponse (t.config i) (t.state i) occur_time) t.number t.occur
    ({ t with occur := r.1 }, r.2)
  else (t, [])

/-- what a lap of the task finds: `lumeter_abnormal_alarm_enable` and `collect_cycle`, the clock, the ticks as they are compared
and as they are kept, a reply in the queue, and what `collect_state` holds -/
structure Lap where
  enable : UInt8
  occur_time : List UInt8
  checked : UInt32
  collect_cycle : UInt16
  tick : UInt32
  kept : UInt32
  reply : Option (List UInt8)
  collect_state : CollectState
  received : UInt32

/-- the reply in the queue, if there is one -/
def Lap.receive (l : Lap) (r : Receiver) : Option Receiver :=
  match l.reply with
  | none => some r
  | some buf => lumeterRecvAndHandleDeviceFrame l.received buf l.collect_state r

/-- a lap of `vTaskLUMETER` up to its collection -/
def Task.collect (t : Task) (l : Lap) : Task :=
  let t := (lumeterNoResponseAlarm l.enable l.occur_time t).1
  let t := { t with station := (lumeter24HourUnchangedAlarm l.enable l.checked t.station).1 }
  (lumeterCollectCurrentState l.collect_cycle l.tick l.kept t).1

def Task.lap (t : Task) (l : Lap) : Option Task :=
  (l.receive (t.collect l).station.receiver).map fun r =>
    { t.collect l with station := { (t.collect l).station with receiver := r } }

theorem zeros_size : (List.replicate MAX_LUMETER_STACK_LEN (0 : UInt32)).length = MAX_LUMETER_STACK_LEN :=
  List.length_replicate

/-- a sensor after a round of `ReadLumeterConfig`, or after `WriteLumeterConfig` -/
def loadSensor (c : DeviceConfig) : SensorState :=
  ⟨c.address, c.channel, 0, 0, 0, 0, 0, ⟨List.replicate MAX_LUMETER_STACK_LEN 0, zeros_size⟩, 0⟩

/-- the sensors are loaded -/
def Task.load (t : Task) : Task :=
  t.withState fun i => if i < t.number then loadSensor (t.config i) else t.state i

/-! ## Well-formed polls and reports -/

/-- **The polls** for a Modbus sensor carry their `CRC16`. -/
theorem pack_crcMatches {address mode : UInt8} (h : mode = 1 ∨ mode = 2) :
    CrcMatches (packBuiltOutLumeterFrame address mode) := by
  rcases h with rfl | rfl <;> rfl

theorem length_sprintfD32_le (v : UInt32) : (sprintfD32 v).length ≤ 11 := by
  have hlt := v.toNat_lt
  have hbound : ((v.toNat : ℤ).bmod (2 ^ 32)).natAbs < 10 ^ 10 := by
    rw [Int.bmod_def]
    omega
  refine (length_sprintfD_le (Nat.succ_pos 9) hbound).trans ?_
  split_ifs <;> omega

theorem length_cstr_le (bs : List UInt8) : (cstr bs).length ≤ bs.length := (List.takeWhile_sublist _).length_le

/-- the separators and the kind of an alarm take little of its line -/
theorem length_alarmLine_le (a : AlarmReport) : (History.alarmLine a).length ≤
    (History.sprintfD a.device_type.toNat).length + (History.sprintfD a.alarm_type.toNat).length + a.device_address.length +
      a.device_channel.length + a.current_value.length + a.set_value.length + a.reference_value.length +
      a.occur_time.length + 12 := by
  have haddress := length_cstr_le a.device_address
  have hchannel := length_cstr_le a.device_channel
  have hcurrent := length_cstr_le a.current_value
  have hset := length_cstr_le a.set_value
  have hreference := length_cstr_le a.reference_value
  have htime := length_cstr_le a.occur_time
  rw [History.alarmLine]
  simp only [List.length_append, List.length_map, List.length_cons, List.length_nil]
  split_ifs <;> simp only [List.length_cons, List.length_nil] <;> omega

theorem length_listed_cons (text : List UInt8) (texts : List (List UInt8)) :
    (listed (text :: texts)).length = text.length + 1 + (listed texts).length := by
  rw [listed, List.flatMap_cons, List.length_append, List.length_append, listed]
  rfl

/-- the texts of a row, whatever they are -/
theorem length_listed_le {address channel range limit : List UInt8} (haddress : address.length ≤ 2)
    (hchannel : channel.length ≤ 3) (hrange : range.length ≤ 11) (hlimit : limit.length ≤ 3) :
    (listed [address, channel, range, limit]).length ≤ 23 ∧ (listed [range, limit]).length ≤ 16 := by
  have hnil : (listed []).length = 0 := rfl
  simp only [length_listed_cons, hnil]
  omega

theorem kind_length : (History.sprintfD LUMETER.toNat).length = 1 ∧
    (History.sprintfD LUMETER_DEVICE_ABNORMAL.toNat).length = 1 := by decide

/-- the texts of a report -/
theorem length_report_texts (c : DeviceConfig) (s : SensorState) (occur_time : List UInt8) (occur : Bool) :
    (noResponseReport c s occur_time occur).set_value.length ≤ 23 ∧
      (noResponseReport c s occur_time occur).reference_value.length ≤ 16 := by
  have hset : (noResponseReport c s occur_time occur).set_value = listed [sprintfX c.address, sprintfD c.channel.toNat,
    sprintfD32 c.value_unchanged_range, sprintfD c.no_response_time.toNat] := rfl
  have hreference : (noResponseReport c s occur_time occur).reference_value = listed [sprintfD32 c.value_unchanged_range,
    sprintfD c.no_response_time.toNat] := by rw [noResponseReport]
  have haddress : (sprintfX c.address).length ≤ 2 := (length_sprintfX c.address).trans_le (hexWidth_le _)
  rw [hset, hreference]
  exact length_listed_le haddress (length_sprintfD_byte c.channel) (length_sprintfD32_le c.value_unchanged_range)
    (length_sprintfD_byte c.no_response_time)

theorem length_report_place (c : DeviceConfig) (s : SensorState) (occur_time : List UInt8) (occur : Bool) :
    (noResponseReport c s occur_time occur).device_address.length ≤ 2 ∧
      (noResponseReport c s occur_time occur).device_channel.length ≤ 3 :=
  ⟨(length_sprintfX s.address).trans_le (hexWidth_le _), length_sprintfD_byte s.channel⟩

theorem length_report_kind (c : DeviceConfig) (s : SensorState) (occur_time : List UInt8) (occur : Bool) :
    (History.sprintfD (noResponseReport c s occur_time occur).device_type.toNat).length = 1 ∧
      (History.sprintfD (noResponseReport c s occur_time occur).alarm_type.toNat).length = 1 := kind_length

/-- **A report** fits the line of the history. -/
theorem report_fits (c : DeviceConfig) (s : SensorState) {occur_time : List UInt8} (h : occur_time.length ≤ 14)
    (occur : Bool) : FitsWrBuf (noResponseReport c s occur_time occur) := by
  obtain ⟨hset, hreference⟩ := length_report_texts c s occur_time occur
  obtain ⟨haddress, hchannel⟩ := length_report_place c s occur_time occur
  obtain ⟨htype, halarm⟩ := length_report_kind c s occur_time occur
  have hcurrent : (noResponseReport c s occur_time occur).current_value.length = 2 := rfl
  have htime : (noResponseReport c s occur_time occur).occur_time.length ≤ 14 := h
  have hline := length_alarmLine_le (noResponseReport c s occur_time occur)
  generalize noResponseReport c s occur_time occur = report at *
  rw [FitsWrBuf]
  omega

/-! ## What the parts of a lap leave of a sensor -/

/-- what the alarm and the replies know of a sensor -/
structure Contact where
  address : UInt8
  channel : UInt8
  waitting_resp : UInt8
  no_resp_time : UInt8
deriving DecidableEq

def SensorState.contact (s : SensorState) : Contact := ⟨s.address, s.channel, s.waitting_resp, s.no_resp_time⟩

/-- a contact that waits as `w` does -/
structure Contact.Shows (c : Contact) (w : Watch) : Prop where
  waiting : c.waitting_resp = if w.waiting then 1 else 0
  missed : c.no_resp_time.toNat = w.missed

/-- at the address and the channel of a row -/
def Contact.At (c : Contact) (config : DeviceConfig) : Prop := c.address = config.address ∧ c.channel = config.channel

section Polls

variable {s : SensorState} {w : Watch} {config : DeviceConfig} {state : ℕ → SensorState} {i : ℕ}

/-- **A poll** is a question. -/
theorem poll_watch (h : s.contact.Shows w) (no_response_time : UInt8) :
    (s.poll no_response_time).contact.Shows (Missed.ask w no_response_time.toNat) := by
  obtain ⟨hwaiting, hmissed⟩ := h
  have hwaiting : s.waitting_resp = if w.waiting then 1 else 0 := hwaiting
  have hmissed : s.no_resp_time.toNat = w.missed := hmissed
  rw [SensorState.poll, Missed.ask]
  cases hw : w.waiting with
  | false =>
    rw [hw] at hwaiting
    rw [hwaiting]
    exact ⟨rfl, hmissed⟩
  | true =>
    rw [hw, if_pos rfl] at hwaiting
    rw [if_pos hwaiting, if_pos rfl]
    by_cases hlt : s.no_resp_time < no_response_time
    · rw [if_pos hlt]
      have hnat := UInt8.lt_iff_toNat_lt.1 hlt
      have hbound := no_response_time.toNat_lt
      rw [hmissed] at hnat
      refine ⟨hwaiting, ?_⟩
      rw [if_pos hnat]
      have hone : (s.no_resp_time + 1).toNat = (s.no_resp_time.toNat + 1) % 256 := rfl
      have hfits : w.missed + 1 < 256 := Nat.lt_of_le_of_lt hnat hbound
      exact hone.trans (by rw [hmissed, Nat.mod_eq_of_lt hfits])
    · rw [if_neg hlt]
      have hnat := fun h => hlt (UInt8.lt_iff_toNat_lt.2 h)
      rw [hmissed] at hnat
      exact ⟨hwaiting, by rw [if_neg hnat]; exact hmissed⟩

theorem poll_place (no_response_time : UInt8) :
    (s.poll no_response_time).address = s.address ∧ (s.poll no_response_time).channel = s.channel := by
  rw [SensorState.poll]
  split_ifs <;> exact ⟨rfl, rfl⟩

theorem getBuiltOut_place (config : DeviceConfig) (state : ℕ → SensorState) (k : ℕ) :
    ((getBuiltOutLumeterState config state).1 k).address = (state k).address ∧
      ((getBuiltOutLumeterState config state).1 k).channel = (state k).channel := by
  rw [getBuiltOutLumeterState]
  dsimp only
  split_ifs
  · exact poll_place _
  · exact ⟨rfl, rfl⟩

/-- the rows at the address and the channel of row `i`, by their limits -/
def limitsOf (config : DeviceConfig) (rows : List DeviceConfig) : List ℕ :=
  (rows.filter fun c => c.address = config.address ∧ c.channel = config.channel).map fun c => c.no_response_time.toNat

theorem limitsOf_cons (config c : DeviceConfig) (rows : List DeviceConfig) : limitsOf config (c :: rows) =
    if c.address = config.address ∧ c.channel = config.channel then c.no_response_time.toNat :: limitsOf config rows
    else limitsOf config rows := by
  rw [limitsOf, limitsOf, List.filter_cons]
  by_cases h : c.address = config.address ∧ c.channel = config.channel <;> simp [h]

/-- polls one after the other -/
theorem polls_watch (hi : i < MAX_LUMETER_CONF_NUM) (rows : List DeviceConfig) :
    ∀ {state : ℕ → SensorState} {w : Watch}, (state i).contact.At config → (state i).contact.Shows w →
      ((rows.foldl (fun state c => (getBuiltOutLumeterState c state).1) state) i).contact.Shows
        (round (limitsOf config rows) w) := by
  induction rows with
  | nil => exact fun _ h => h
  | cons c rows ih =>
    intro state w hat hshows
    have hplace := getBuiltOut_place c state i
    have hnext : ((getBuiltOutLumeterState c state).1 i).contact.At config :=
      ⟨hplace.1.trans hat.1, hplace.2.trans hat.2⟩
    have haddress : (state i).address = config.address := hat.1
    have hchannel : (state i).channel = config.channel := hat.2
    by_cases hrow : c.address = config.address ∧ c.channel = config.channel
    · have hpolled : (getBuiltOutLumeterState c state).1 i = (state i).poll c.no_response_time :=
        if_pos ⟨hi, hrow.1.trans haddress.symm, hrow.2.trans hchannel.symm⟩
      rw [limitsOf_cons, if_pos hrow, Missed.round_cons]
      refine ih hnext ?_
      dsimp only
      rw [hpolled]
      exact poll_watch hshows _
    · have hleft : (getBuiltOutLumeterState c state).1 i = state i := by
        refine if_neg ?_
        rintro ⟨-, hca, hcc⟩
        exact hrow ⟨hca.trans haddress, hcc.trans hchannel⟩
      rw [limitsOf_cons, if_neg hrow]
      refine ih hnext ?_
      dsimp only
      rw [hleft]
      exact hshows

theorem polls_place (rows : List DeviceConfig) (k : ℕ) : ∀ state : ℕ → SensorState,
    ((rows.foldl (fun state c => (getBuiltOutLumeterState c state).1) state) k).address = (state k).address ∧
      ((rows.foldl (fun state c => (getBuiltOutLumeterState c state).1) state) k).channel = (state k).channel := by
  induction rows with
  | nil => exact fun state => ⟨rfl, rfl⟩
  | cons c rows ih =>
    intro state
    obtain ⟨haddress, hchannel⟩ := getBuiltOut_place c state k
    obtain ⟨ha, hc⟩ := ih (getBuiltOutLumeterState c state).1
    exact ⟨ha.trans haddress, hc.trans hchannel⟩

/-- the sensors of a collection and its frames, apart -/
theorem pollAll_eq (config : ℕ → DeviceConfig) (number : ℕ) (state : ℕ → SensorState) :
    (pollAll config number state).1 =
        ((List.range number).map config).foldl (fun state c => (getBuiltOutLumeterState c state).1) state ∧
      (pollAll config number state).2 =
        (List.range number).map fun k => packBuiltOutLumeterFrame (config k).address (moduleType (config k).module_text) := by
  have hfold : ∀ (ks : List ℕ) (state : ℕ → SensorState) (frames : List (List UInt8)),
      ks.foldl (fun r i => ((getBuiltOutLumeterState (config i) r.1).1, r.2 ++ [(getBuiltOutLumeterState (config i) r.1).2]))
          (state, frames) =
        ((ks.map config).foldl (fun state c => (getBuiltOutLumeterState c state).1) state,
          frames ++ ks.map fun k => packBuiltOutLumeterFrame (config k).address (moduleType (config k).module_text)) := by
    intro ks
    induction ks with
    | nil => exact fun state frames => by rw [List.map_nil, List.map_nil, List.append_nil]; rfl
    | cons k ks ih =>
      intro state frames
      rw [List.foldl_cons, ih, List.map_cons, List.map_cons, List.foldl_cons, List.append_assoc]
      rfl
  rw [pollAll, hfold]
  exact ⟨rfl, rfl⟩

end Polls

/-- the alarm of stuck sensors leaves the contacts alone -/
theorem unchanged_contact (enable : UInt8) (now : UInt32) (st : Station) :
    (lumeter24HourUnchangedAlarm enable now st).1.receiver.number = st.receiver.number ∧
      (lumeter24HourUnchangedAlarm enable now st).1.receiver.basic = st.receiver.basic ∧
      ∀ k, ((lumeter24HourUnchangedAlarm enable now st).1.receiver.state k).contact = (st.receiver.state k).contact := by
  rw [lumeter24HourUnchangedAlarm]
  split_ifs with henable
  · refine ⟨rfl, rfl, fun k => ?_⟩
    dsimp only
    rw [eachRange_entry, pollSensor]
    split_ifs <;> rfl
  · exact ⟨rfl, rfl, fun k => rfl⟩

/-! ## Replies -/

/-- the address and the channel of a reply that is accepted -/
def answerOf (buf : List UInt8) (c : CollectState) : Option (UInt8 × UInt8) :=
  (analysisBuiltOutLumeterFrame buf c).bind fun r => if r.1 = 1 then some (r.2.address, r.2.channel) else none

theorem answerOf_eq_some_iff {buf : List UInt8} {c : CollectState} {key : UInt8 × UInt8} : answerOf buf c = some key ↔
    ∃ t, analysisBuiltOutLumeterFrame buf c = some (1, t) ∧ (t.address, t.channel) = key := by
  rw [answerOf, Option.bind_eq_some_iff]
  constructor
  · rintro ⟨⟨ret, t⟩, hrun, hkey⟩
    split_ifs at hkey with hret
    obtain rfl : ret = 1 := hret
    exact ⟨t, hrun, Option.some.inj hkey⟩
  · rintro ⟨t, hrun, rfl⟩
    exact ⟨(1, t), hrun, if_pos rfl⟩

/-- a reply that is accepted is one of channel 1 -/
theorem accepted_channel {buf : List UInt8} {c t : CollectState} (h : analysisBuiltOutLumeterFrame buf c = some (1, t)) :
    t.channel = 1 ∧ t.update = 1 := by
  by_cases hmodbus : CrcMatches buf ∧ buf[1]? = some 0x03
  · obtain ⟨hcrc, hcode⟩ := hmodbus
    obtain ⟨b0, n, data, rfl⟩ := exists_length hcrc hcode
    rw [analysis_modbus hcrc hcode] at h
    by_cases h4 : n = 4
    · subst h4
      rw [modbus_four] at h
      split_ifs at h with hdata
      obtain ⟨-, rfl⟩ := Prod.mk.inj (Option.some.inj h)
      exact ⟨rfl, rfl⟩
    by_cases h2 : n = 2
    · subst h2
      rw [modbus_two] at h
      split_ifs at h with hdata
      obtain ⟨-, rfl⟩ := Prod.mk.inj (Option.some.inj h)
      exact ⟨rfl, rfl⟩
    · rw [modbus_other h4 h2] at h
      exact absurd (Prod.mk.inj (Option.some.inj h)).1 zero_ne_ret
  · obtain ⟨r, hr, hform⟩ := analysis_other hmodbus c
    obtain rfl : r = (1, t) := Option.some.inj (hr.symm.trans h)
    match buf, (hform rfl).1.length with
    | [b0, b1, b2, b3, b4, b5], _ =>
      rw [List.getElem?_cons_succ, List.getElem?_cons_zero, Option.some_inj] at hmodbus
      rw [analysis_six hmodbus] at h
      split_ifs at h with hmt
      · obtain ⟨-, rfl⟩ := Prod.mk.inj (Option.some.inj h)
        exact ⟨rfl, rfl⟩
      · exact absurd (Prod.mk.inj (Option.some.inj h)).1 zero_ne_ret

/-- the form of the MT201 is accepted from any address -/
theorem answerOf_mt201 (address : UInt8) (c : CollectState) :
    answerOf [address, 0xBC, 0x00, 0x00, 0x00, 0x04] c = some (address, 1) := by
  have hcode : ¬ (CrcMatches [address, 0xBC, 0x00, 0x00, 0x00, 0x04] ∧ (0xBC : UInt8) = 0x03) := by
    rintro ⟨-, h⟩
    exact absurd h (by decide)
  exact answerOf_eq_some_iff.2 ⟨_, (analysis_six hcode c).trans (if_pos ⟨rfl, rfl, rfl⟩), rfl⟩

theorem sample_contact {basic : BasicConfig} {now v : UInt32} {s t : SensorState} {init_flag flag : UInt8}
    (h : s.sample basic now v init_flag = some (t, flag)) : t.contact = ⟨s.address, s.channel, 0, 0⟩ := by
  rw [SensorState.sample] at h
  obtain ⟨⟨stack, mode⟩, -, h⟩ := Option.bind_eq_some_iff.1 h
  obtain ⟨value, -, h⟩ := Option.bind_eq_some_iff.1 h
  dsimp only at h
  split_ifs at h
  · obtain ⟨rfl, -⟩ := Prod.mk.inj (Option.some.inj h)
    rfl
  · obtain ⟨rfl, -⟩ := Prod.mk.inj (Option.some.inj h)
    rfl

/-- the sensor that a reply is taken for -/
def Receiver.Takes (r : Receiver) (buf : List UInt8) (c : CollectState) (i : ℕ) : Prop :=
  r.basic.stack_depth ≠ 0 ∧ ∃ key, answerOf buf c = some key ∧ r.find key.1 key.2 = some i

/-- what a reply leaves of the contacts, where it is taken for the sensors with `P` -/
structure Receiver.Leaves (r r' : Receiver) (P : ℕ → Prop) : Prop where
  number : r'.number = r.number
  basic : r'.basic = r.basic
  taken : ∀ i, P i → (r'.state i).contact = ⟨(r.state i).address, (r.state i).channel, 0, 0⟩
  others : ∀ i, ¬ P i → (r'.state i).contact = (r.state i).contact

theorem Receiver.Leaves.same {r : Receiver} {P : ℕ → Prop} (h : ∀ i, ¬ P i) : r.Leaves r P :=
  ⟨rfl, rfl, fun i hi => absurd hi (h i), fun _ _ => rfl⟩

/-- an accepted reply is taken for the first sensor with its address and channel -/
theorem handle_spec {now : UInt32} {t : CollectState} {r r' : Receiver} (hupdate : t.update = 1)
    (h : r.handle now t = some r') :
    r.Leaves r' fun i => r.basic.stack_depth ≠ 0 ∧ r.find t.address t.channel = some i := by
  rw [Receiver.handle, hupdate] at h
  by_cases hdepth : r.basic.stack_depth = 0
  · rw [if_neg fun hcond => hcond.2 hdepth] at h
    obtain rfl := Option.some.inj h
    exact Receiver.Leaves.same fun i hi => hi.1 hdepth
  · rw [if_pos ⟨rfl, hdepth⟩] at h
    cases hfind : r.find t.address t.channel with
    | none =>
      rw [hfind] at h
      obtain rfl := Option.some.inj h
      exact Receiver.Leaves.same fun i hi => Option.some_ne_none i hi.2.symm
    | some k =>
      rw [hfind] at h
      obtain ⟨⟨s, flag⟩, hsample, h⟩ := Option.bind_eq_some_iff.1 h
      obtain rfl := Option.some.inj h
      refine ⟨rfl, rfl, fun i hi => ?_, fun i hi => ?_⟩
      · obtain rfl : k = i := Option.some.inj hi.2
        dsimp only
        rw [Function.update_self]
        exact sample_contact hsample
      · have hne : i ≠ k := by
          rintro rfl
          exact hi ⟨hdepth, rfl⟩
        dsimp only
        rw [Function.update_of_ne hne]

/-- **A reply** ends the wait for its sensor, and changes no other contact. -/
theorem recv_spec {now : UInt32} {buf : List UInt8} {c : CollectState} {r r' : Receiver}
    (h : lumeterRecvAndHandleDeviceFrame now buf c r = some r') : r.Leaves r' (r.Takes buf c) := by
  rw [lumeterRecvAndHandleDeviceFrame] at h
  obtain ⟨⟨ret, t⟩, hrun, h⟩ := Option.bind_eq_some_iff.1 h
  dsimp only at h
  by_cases hret : ret = 1
  · subst hret
    have hanswer : answerOf buf c = some (t.address, t.channel) := answerOf_eq_some_iff.2 ⟨t, hrun, rfl⟩
    have htakes : r.Takes buf c = fun i => r.basic.stack_depth ≠ 0 ∧ r.find t.address t.channel = some i := by
      funext i
      rw [Receiver.Takes, hanswer]
      simp
    rw [htakes]
    rw [if_pos rfl] at h
    exact handle_spec (accepted_channel hrun).2 h
  · rw [if_neg hret] at h
    obtain rfl := Option.some.inj h
    refine Receiver.Leaves.same fun i hi => ?_
    obtain ⟨-, key, hkey, -⟩ := hi
    obtain ⟨t', hrun', -⟩ := answerOf_eq_some_iff.1 hkey
    exact hret (Prod.mk.inj (Option.some.inj (hrun.symm.trans hrun'))).1

/-! ## A lap -/

section Laps

variable {t t' : Task} {l : Lap} {i : ℕ}

/-- the collection of a lap -/
def Task.polled (t : Task) (l : Lap) : ℕ → SensorState :=
  let state := (lumeter24HourUnchangedAlarm l.enable l.checked t.station).1.receiver.state
  if CollectDue l.collect_cycle l.tick t.time_s then (pollAll t.config t.number state).1 else state

theorem alarm_task (enable : UInt8) (occur_time : List UInt8) (t : Task) :
    (lumeterNoResponseAlarm enable occur_time t).1.station = t.station ∧
      (lumeterNoResponseAlarm enable occur_time t).1.config = t.config ∧
      (lumeterNoResponseAlarm enable occur_time t).1.time_s = t.time_s := by
  rw [lumeterNoResponseAlarm]
  split_ifs <;> exact ⟨rfl, rfl, rfl⟩

/-- the receiver between the collection and a reply -/
def Task.asked (t : Task) (l : Lap) : Receiver :=
  { (lumeter24HourUnchangedAlarm l.enable l.checked t.station).1.receiver with state := t.polled l }

theorem collect_receiver (collect_cycle : UInt16) (tick kept : UInt32) (t : Task) :
    (lumeterCollectCurrentState collect_cycle tick kept t).1.config = t.config ∧
      (lumeterCollectCurrentState collect_cycle tick kept t).1.station.receiver =
        { t.station.receiver with
          state := if CollectDue collect_cycle tick t.time_s then (pollAll t.config t.number t.state).1 else t.state } := by
  rw [lumeterCollectCurrentState]
  split_ifs <;> exact ⟨rfl, rfl⟩

theorem collect_asked (t : Task) (l : Lap) :
    (t.collect l).config = t.config ∧ (t.collect l).station.receiver = t.asked l := by
  obtain ⟨hstation, hconfig, htime⟩ := alarm_task l.enable l.occur_time t
  obtain ⟨hnumber, -, -⟩ := unchanged_contact l.enable l.checked t.station
  obtain ⟨hcollect, hreceiver⟩ := collect_receiver l.collect_cycle l.tick l.kept
    { (lumeterNoResponseAlarm l.enable l.occur_time t).1 with
      station := (lumeter24HourUnchangedAlarm l.enable l.checked
        (lumeterNoResponseAlarm l.enable l.occur_time t).1.station).1 }
  refine ⟨hcollect.trans hconfig, hreceiver.trans ?_⟩
  rw [Task.asked, Task.polled]
  simp only [Task.number, Task.state, htime, hstation, hconfig, hnumber]

/-- **A lap** polls, and takes a reply. -/
theorem lap_cases (h : t.lap l = some t') : t'.config = t.config ∧ l.receive (t.asked l) = some t'.station.receiver := by
  obtain ⟨hconfig, hasked⟩ := collect_asked t l
  obtain ⟨r, hr, rfl⟩ := Option.map_eq_some_iff.1 h
  rw [hasked] at hr
  exact ⟨hconfig, hr⟩

theorem lap_of_receive {r : Receiver} (h : l.receive (t.asked l) = some r) :
    ∃ t', t.lap l = some t' ∧ t'.config = t.config ∧ t'.station.receiver = r := by
  obtain ⟨hconfig, hasked⟩ := collect_asked t l
  rw [← hasked] at h
  rw [Task.lap, h]
  exact ⟨_, rfl, hconfig, rfl⟩

end Laps

/-! ## Runs -/

/-- a state of a run, for a sensor: the rounds of polls since its last reply -/
structure Silence where
  task : Task
  rounds : ℕ

/-- a reply at the address and the channel of a row -/
def Lap.AnswersTo (l : Lap) (c : DeviceConfig) : Prop :=
  ∃ buf, l.reply = some buf ∧ answerOf buf l.collect_state = some (c.address, c.channel)

instance (l : Lap) (c : DeviceConfig) : Decidable (l.AnswersTo c) :=
  match h : l.reply with
  | none => isFalse fun ⟨buf, hbuf, _⟩ => by rw [h] at hbuf; cases hbuf
  | some buf => decidable_of_iff (answerOf buf l.collect_state = some (c.address, c.channel))
      ⟨fun ha => ⟨buf, h, ha⟩, fun ⟨buf', hbuf, ha⟩ => by rw [h] at hbuf; cases hbuf; exact ha⟩

def Silence.step (i : ℕ) (w : Silence) (l : Lap) : Option Silence :=
  (w.task.lap l).map fun t => {
    task := t
    rounds :=
      if l.AnswersTo (w.task.config i) then 0
      else if CollectDue l.collect_cycle l.tick w.task.time_s then w.rounds + 1
      else w.rounds }

/-- what the alarm has to make of a sensor: it is on while more rounds than the response time says are without a reply, and
each change is reported -/
structure Silence.Right (i : ℕ) (w : Silence) (occur_time : List UInt8) : Prop where
  occur : (lumeterNoResponseAlarm 1 occur_time w.task).1.occur i = true ↔
    (w.task.config i).no_response_time.toNat ≤ w.rounds - 1
  reports : ∀ report, (i, report) ∈ (lumeterNoResponseAlarm 1 occur_time w.task).2 ↔
    (lumeterNoResponseAlarm 1 occur_time w.task).1.occur i ≠ w.task.occur i ∧
      report = noResponseReport (w.task.config i) (w.task.state i) occur_time
        ((lumeterNoResponseAlarm 1 occur_time w.task).1.occur i)

/-- two rows for one sensor -/
def Task.SameKey (t : Task) (j i : ℕ) : Prop :=
  (t.config j).address = (t.config i).address ∧ (t.config j).channel = (t.config i).channel

instance (t : Task) (j i : ℕ) : Decidable (t.SameKey j i) := inferInstanceAs (Decidable (_ ∧ _))

/-- replies are taken for a row: no row before it is for the same sensor, and the stack has room, or the channel is not the
one that is read out of replies -/
structure Task.Heard (t : Task) (i : ℕ) : Prop where
  first : ∀ j < i, ¬ t.SameKey j i
  depth : (t.config i).channel = 1 → t.station.receiver.basic.stack_depth ≠ 0

/-- the rows for one sensor, in the order of their polls -/
def Task.limits (t : Task) (i : ℕ) : List ℕ := limitsOf (t.config i) ((List.range t.number).map t.config)

/-- what holds in every state of a run from `t` -/
structure Counts (t : Task) (i : ℕ) (w : Silence) : Prop where
  config : w.task.config = t.config
  number : w.task.number = t.number
  basic : w.task.station.receiver.basic = t.station.receiver.basic
  places : ∀ k < t.number, (w.task.state k).contact.At (t.config k)
  shows : (w.task.state i).contact.Shows ((round (t.limits i))^[w.rounds] idle)

section Run

variable {t : Task} {i : ℕ} {w w' : Silence} {l : Lap}

theorem Contact.At.of_eq {c d : Contact} {config : DeviceConfig} (h : c.At config) (haddress : d.address = c.address)
    (hchannel : d.channel = c.channel) : d.At config := ⟨haddress.trans h.1, hchannel.trans h.2⟩

/-- **A call** turns the alarm on at the limit and off below it, and reports a change. -/
theorem alarm_spec {t : Task} (hi : i < t.number) (occur_time : List UInt8) :
    ((lumeterNoResponseAlarm 1 occur_time t).1.occur i = true ↔
      (t.config i).no_response_time.toNat ≤ (t.state i).no_resp_time.toNat) ∧
    ∀ report, (i, report) ∈ (lumeterNoResponseAlarm 1 occur_time t).2 ↔
      (lumeterNoResponseAlarm 1 occur_time t).1.occur i ≠ t.occur i ∧
        report = noResponseReport (t.config i) (t.state i) occur_time
          ((lumeterNoResponseAlarm 1 occur_time t).1.occur i) := by
  rw [lumeterNoResponseAlarm, if_pos rfl]
  dsimp only
  simp only [mem_eachRange, and_iff_right hi]
  rw [eachRange_entry, if_pos hi, checkResponse, ← UInt8.le_iff_toNat_le]
  cases t.occur i with
  | false =>
    rw [if_pos rfl]
    split_ifs with hle
    · exact ⟨iff_of_true rfl hle, fun report => by simp [eq_comm]⟩
    · exact ⟨iff_of_false not_false hle, fun report => by simp⟩
  | true =>
    rw [if_neg (Ne.symm Bool.false_ne_true)]
    split_ifs with hlt
    · exact ⟨iff_of_false not_false (UInt8.not_le.2 hlt), fun report => by simp [eq_comm]⟩
    · exact ⟨iff_of_true rfl (UInt8.not_lt.1 hlt), fun report => by simp⟩

/-- the sensors when a reply is waited for -/
theorem Counts.asked (hw : Counts t i w) (hi : i < t.number) (l : Lap) :
    (w.task.asked l).number = t.number ∧ (w.task.asked l).basic = t.station.receiver.basic ∧
      (∀ k < t.number, ((w.task.asked l).state k).contact.At (t.config k)) ∧
      ((w.task.asked l).state i).contact.Shows ((round (t.limits i))^[
        if CollectDue l.collect_cycle l.tick w.task.time_s then w.rounds + 1 else w.rounds] idle) := by
  obtain ⟨hnumber, hbasic, hcontact⟩ := unchanged_contact l.enable l.checked w.task.station
  have hplaces : ∀ k < t.number,
      ((lumeter24HourUnchangedAlarm l.enable l.checked w.task.station).1.receiver.state k).contact.At (t.config k) := by
    intro k hk
    rw [hcontact]
    exact hw.places k hk
  have hshows : ((lumeter24HourUnchangedAlarm l.enable l.checked w.task.station).1.receiver.state i).contact.Shows
      ((round (t.limits i))^[w.rounds] idle) := by
    rw [hcontact]
    exact hw.shows
  refine ⟨hnumber.trans hw.number, hbasic.trans hw.basic, ?_, ?_⟩
  · intro k hk
    rw [Task.asked, Task.polled]
    dsimp only
    split_ifs
    · rw [(pollAll_eq _ _ _).1]
      obtain ⟨haddress, hchannel⟩ := polls_place ((List.range w.task.number).map w.task.config) k
        (lumeter24HourUnchangedAlarm l.enable l.checked w.task.station).1.receiver.state
      exact (hplaces k hk).of_eq haddress hchannel
    · exact hplaces k hk
  · rw [Task.asked, Task.polled]
    dsimp only
    split_ifs
    · rw [(pollAll_eq _ _ _).1, hw.config, hw.number, Function.iterate_succ_apply']
      have hmax : t.number ≤ MAX_LUMETER_CONF_NUM := t.station.receiver.fits
      exact polls_watch (hi.trans_le hmax) _ (hplaces i hi) hshows
    · exact hshows

/-- a row without an earlier one for its sensor is the one that a reply is taken for -/
theorem takes_of_heard {r : Receiver} {buf : List UInt8} {c : CollectState} (hheard : t.Heard i) (hi : i < t.number)
    (hnumber : r.number = t.number) (hbasic : r.basic = t.station.receiver.basic)
    (hplaces : ∀ k < t.number, (r.state k).contact.At (t.config k)) 
    (h : answerOf buf c = some ((t.config i).address, (t.config i).channel)) : r.Takes buf c i := by
  obtain ⟨found, hrun, hkey⟩ := answerOf_eq_some_iff.1 h
  have hchannel : (t.config i).channel = 1 := (Prod.mk.inj hkey).2.symm.trans (accepted_channel hrun).1
  refine ⟨by rw [hbasic]; exact hheard.depth hchannel, _, h, ?_⟩
  rw [Receiver.find, List.find?_range_eq_some]
  refine ⟨?_, ?_, fun j hj => ?_⟩
  · exact decide_eq_true (hplaces i hi)
  · rw [hnumber]
    exact List.mem_range.2 hi
  · have hplace := hplaces j (hj.trans hi)
    rw [Bool.not_eq_true', decide_eq_false_iff_not]
    rintro ⟨haddress, hchannel⟩
    exact hheard.first j hj ⟨hplace.1.symm.trans haddress, hplace.2.symm.trans hchannel⟩

/-- a reply is taken for a row only from its address -/
theorem answers_of_takes {r : Receiver} {buf : List UInt8} (hi : i < t.number)
    (hplaces : ∀ k < t.number, (r.state k).contact.At (t.config k)) (hreply : l.reply = some buf)
    (h : r.Takes buf l.collect_state i) : l.AnswersTo (t.config i) := by
  obtain ⟨-, key, hanswer, hfind⟩ := h
  have hkey := List.find?_some hfind
  rw [decide_eq_true_eq] at hkey
  have hplace := hplaces i hi
  refine ⟨buf, hreply, hanswer.trans (congrArg some ?_)⟩
  exact Prod.ext (hkey.1.symm.trans hplace.1) (hkey.2.symm.trans hplace.2)

/-- **A lap**, if its reply is one that is taken. -/
theorem Counts.step (hw : Counts t i w) (hi : i < t.number) (h : w.step i l = some w')
    (hheard : l.AnswersTo (t.config i) → t.Heard i) : Counts t i w' := by
  obtain ⟨t', hlap, rfl⟩ := Option.map_eq_some_iff.1 h
  obtain ⟨hconfig, hreceive⟩ := lap_cases hlap
  obtain ⟨hnumber, hbasic, hplaces, hshows⟩ := hw.asked hi l
  rw [hw.config]
  rw [Lap.receive] at hreceive
  cases hreply : l.reply with
  | none =>
    rw [hreply] at hreceive
    have hsame := (Option.some.inj hreceive).symm
    have hnone : ¬ l.AnswersTo (t.config i) := by
      rintro ⟨buf, hbuf, -⟩
      rw [hreply] at hbuf
      exact absurd hbuf.symm (Option.some_ne_none buf)
    rw [if_neg hnone]
    refine ⟨hconfig.trans hw.config, ?_, ?_, fun k hk => ?_, ?_⟩
    · exact (congrArg Receiver.number hsame).trans hnumber
    · exact (congrArg Receiver.basic hsame).trans hbasic
    · rw [Task.state, hsame]
      exact hplaces k hk
    · rw [Task.state, hsame]
      exact hshows
  | some buf =>
    rw [hreply] at hreceive
    have hleaves := recv_spec hreceive
    refine ⟨hconfig.trans hw.config, hleaves.number.trans hnumber, hleaves.basic.trans hbasic, fun k hk => ?_, ?_⟩
    · rw [Task.state]
      by_cases htakes : (w.task.asked l).Takes buf l.collect_state k
      · rw [hleaves.taken k htakes]
        exact hplaces k hk
      · rw [hleaves.others k htakes]
        exact hplaces k hk
    · rw [Task.state]
      by_cases hanswers : l.AnswersTo (t.config i)
      · rw [if_pos hanswers]
        obtain ⟨buf', hbuf, hanswer⟩ := hanswers
        obtain rfl : buf = buf' := Option.some.inj (hreply.symm.trans hbuf)
        rw [hleaves.taken i (takes_of_heard (hheard ⟨buf, hbuf, hanswer⟩) hi hnumber hbasic hplaces hanswer)]
        exact ⟨rfl, rfl⟩
      · rw [if_neg hanswers, hleaves.others i fun htakes => hanswers (answers_of_takes hi hplaces hreply htakes)]
        exact hshows

/-- **A run**, if its replies are taken. -/
theorem Counts.run (hi : i < t.number) (hheard : t.Heard i) (laps : List Lap) (hw : Counts t i w)
    (h : laps.foldlM (Silence.step i) w = some w') : Counts t i w' :=
  foldlM_inv (fun _ _ _ hs hstep => hs.step hi hstep fun _ => hheard) laps w w' hw h

theorem counts_load (hi : i < t.number) : Counts t i ⟨t.load, 0⟩ := by
  have hload : ∀ k < t.number, t.load.state k = loadSensor (t.config k) := fun k hk => if_pos hk
  refine ⟨rfl, rfl, rfl, fun k hk => ?_, ?_⟩
  · rw [hload k hk]
    exact ⟨rfl, rfl⟩
  · rw [hload i hi]
    exact ⟨rfl, rfl⟩

/-- what the alarm makes of a sensor, by its count -/
theorem Counts.right_iff (hw : Counts t i w) (hi : i < t.number) (occur_time : List UInt8) : w.Right i occur_time ↔
    ((t.config i).no_response_time.toNat ≤ ((round (t.limits i))^[w.rounds] idle).missed ↔
      (t.config i).no_response_time.toNat ≤ w.rounds - 1) := by
  obtain ⟨hoccur, hreports⟩ := alarm_spec (i := i) (t := w.task) (by rw [hw.number]; exact hi) occur_time
  have hmissed : (w.task.state i).no_resp_time.toNat = ((round (t.limits i))^[w.rounds] idle).missed := hw.shows.missed
  rw [hw.config, hmissed] at hoccur
  constructor
  · intro h
    have hright := h.occur
    rw [hw.config] at hright
    exact hoccur.symm.trans hright
  · intro h
    refine ⟨?_, hreports⟩
    rw [hw.config]
    exact hoccur.trans h

theorem lap_frame {t t' : Task} (h : t.lap l = some t') : t'.config = t.config ∧ t'.number = t.number := by
  obtain ⟨hconfig, hreceive⟩ := lap_cases h
  have hnumber : (t.asked l).number = t.number := (unchanged_contact l.enable l.checked t.station).1
  refine ⟨hconfig, ?_⟩
  rw [Lap.receive] at hreceive
  cases hreply : l.reply with
  | none =>
    rw [hreply] at hreceive
    exact (congrArg Receiver.number (Option.some.inj hreceive)).symm.trans hnumber
  | some buf =>
    rw [hreply] at hreceive
    exact (recv_spec hreceive).number.trans hnumber

/-- in any run the rows stay as they are -/
theorem run_frame (laps : List Lap) (w : Silence) (h : laps.foldlM (Silence.step i) ⟨t.load, 0⟩ = some w) :
    w.task.config = t.config ∧ w.task.number = t.number := by
  refine foldlM_inv (P := fun w : Silence => w.task.config = t.config ∧ w.task.number = t.number)
    (fun w l w' hw hstep => ?_) laps ⟨t.load, 0⟩ w ⟨rfl, rfl⟩ h
  obtain ⟨t', hlap, rfl⟩ := Option.map_eq_some_iff.1 hstep
  obtain ⟨hconfig, hnumber⟩ := lap_frame hlap
  exact ⟨hconfig.trans hw.1, hnumber.trans hw.2⟩

/-- no reply is one of a sensor at another channel than 1 -/
theorem not_answersTo {c : DeviceConfig} (hchannel : c.channel ≠ 1) : ¬ l.AnswersTo c := by
  rintro ⟨buf, -, hanswer⟩
  obtain ⟨found, hrun, hkey⟩ := answerOf_eq_some_iff.1 hanswer
  exact hchannel ((Prod.mk.inj hkey).2.symm.trans (accepted_channel hrun).1)

/-! ## Rounds without a reply -/

/-- a lap with a collection and no reply -/
def quietLap : Lap := ⟨0, [], 0, 1, 0, 0, none, ⟨0, 0, 0, 0⟩, 0⟩

theorem quiet_due (time_s : UInt32) : CollectDue quietLap.collect_cycle quietLap.tick time_s :=
  ⟨by decide, UInt32.zero_le⟩

theorem rounds_run (hi : i < t.number) (n : ℕ) :
    ∃ w, (List.replicate n quietLap).foldlM (Silence.step i) ⟨t.load, 0⟩ = some w ∧ w.rounds = n ∧ Counts t i w := by
  induction n with
  | zero => exact ⟨_, rfl, rfl, counts_load hi⟩
  | succ n ih =>
    obtain ⟨w, hrun, hrounds, hcounts⟩ := ih
    have hnone : ∀ c, ¬ quietLap.AnswersTo c := fun c ⟨buf, hbuf, _⟩ => absurd hbuf.symm (Option.some_ne_none buf)
    have hstep : ∃ w', w.step i quietLap = some w' ∧ w'.rounds = n + 1 := by
      refine ⟨_, rfl, ?_⟩
      dsimp only
      rw [if_neg (hnone _), if_pos (quiet_due _), hrounds]
    obtain ⟨w', hw', hrounds'⟩ := hstep
    refine ⟨w', ?_, hrounds', hcounts.step hi hw' fun h => absurd h (hnone _)⟩
    rw [List.replicate_succ', List.foldlM_append, hrun]
    simp only [Option.bind_eq_bind, Option.bind_some, List.foldlM_cons, List.foldlM_nil, hw']
    rfl

/-- a lap with a reply of an MT201 -/
def answerLap (address : UInt8) : Lap := { quietLap with reply := some [address, 0xBC, 0x00, 0x00, 0x00, 0x04] }

/-- without a stack no reply is taken -/
theorem deaf_lap (hi : i < t.number) (hw : Counts t i w) (hdepth : t.station.receiver.basic.stack_depth = 0)
    (hchannel : (t.config i).channel = 1) : ∃ w', w.step i (answerLap (t.config i).address) = some w' ∧ w'.rounds = 0 ∧
      w'.task.config = t.config ∧ w'.task.number = t.number ∧
      (w'.task.state i).no_resp_time.toNat = ((round (t.limits i))^[w.rounds + 1] idle).missed := by
  obtain ⟨hnumber, hbasic, -, hshows⟩ := hw.asked hi (answerLap (t.config i).address)
  have hanswer := answerOf_mt201 (t.config i).address (answerLap (t.config i).address).collect_state
  obtain ⟨found, hrun, -⟩ := answerOf_eq_some_iff.1 hanswer
  have hreceive : (answerLap (t.config i).address).receive (w.task.asked (answerLap (t.config i).address)) =
      some (w.task.asked (answerLap (t.config i).address)) := by
    have hnone : ¬ (found.update = 1 ∧ (w.task.asked (answerLap (t.config i).address)).basic.stack_depth ≠ 0) := by
      rintro ⟨-, hne⟩
      rw [hbasic] at hne
      exact hne hdepth
    calc (answerLap (t.config i).address).receive (w.task.asked (answerLap (t.config i).address))
        = (w.task.asked (answerLap (t.config i).address)).handle (answerLap (t.config i).address).received found := by
          simp only [Lap.receive, answerLap, lumeterRecvAndHandleDeviceFrame] at hrun ⊢
          rw [hrun]
          rfl
      _ = some (w.task.asked (answerLap (t.config i).address)) := if_neg hnone
  obtain ⟨t', hlap, hconfig, hreceiver⟩ := lap_of_receive hreceive
  have hanswers : (answerLap (t.config i).address).AnswersTo (w.task.config i) := by
    refine ⟨_, rfl, hanswer.trans (congrArg some ?_)⟩
    rw [hw.config]
    exact Prod.ext rfl hchannel.symm
  refine ⟨_, by rw [Silence.step, hlap]; rfl, if_pos hanswers, hconfig.trans hw.config, ?_, ?_⟩
  · exact (congrArg Receiver.number hreceiver).trans hnumber
  · have hdue : CollectDue (answerLap (t.config i).address).collect_cycle (answerLap (t.config i).address).tick
        w.task.time_s := quiet_due _
    rw [if_pos hdue] at hshows
    rw [Task.state, hreceiver]
    exact hshows.missed

end Run

/-! ## The law -/

section Law

variable {t : Task} {i : ℕ}

/-- the row itself among those for its sensor -/
theorem limits_split (hi : i < t.number) : ∃ pre post, t.limits i = pre ++ (t.config i).no_response_time.toNat :: post ∧
    (pre = [] ↔ ∀ j < i, ¬ t.SameKey j i) ∧
    ((∀ x ∈ post, x = 0) ↔ ∀ j, i < j → j < t.number → t.SameKey j i → (t.config j).no_response_time = 0) := by
  have hrange : List.range t.number = List.range i ++ i :: List.range' (i + 1) (t.number - (i + 1)) := by
    rw [List.range_eq_range', List.range_eq_range', ← List.range'_succ]
    have hcount : t.number = i + (t.number - (i + 1) + 1) := by omega
    conv_lhs => rw [hcount]
    rw [← List.range'_append_1, Nat.zero_add]
  have hself : limitsOf (t.config i) [t.config i] = [(t.config i).no_response_time.toNat] := by
    rw [limitsOf_cons, if_pos ⟨rfl, rfl⟩]
    rfl
  have happend : ∀ xs ys : List DeviceConfig,
      limitsOf (t.config i) (xs ++ ys) = limitsOf (t.config i) xs ++ limitsOf (t.config i) ys := fun xs ys => by
    rw [limitsOf, List.filter_append, List.map_append, limitsOf, limitsOf]
  refine ⟨limitsOf (t.config i) ((List.range i).map t.config),
    limitsOf (t.config i) ((List.range' (i + 1) (t.number - (i + 1))).map t.config), ?_, ?_, ?_⟩
  · rw [Task.limits, hrange, List.map_append, List.map_cons, happend, limitsOf_cons, if_pos ⟨rfl, rfl⟩]
  · rw [limitsOf, List.map_eq_nil_iff, List.filter_eq_nil_iff]
    simp [Task.SameKey]
  · simp only [limitsOf, List.mem_map, List.mem_filter, List.mem_range'_1]
    constructor
    · intro h j hij hj hkey
      refine UInt8.toNat_inj.1 (h _ ⟨t.config j, ⟨⟨j, ⟨hij, by omega⟩, rfl⟩, decide_eq_true hkey⟩, rfl⟩)
    · rintro h x ⟨c, ⟨⟨j, ⟨hij, hj⟩, rfl⟩, hkey⟩, rfl⟩
      rw [h j hij (by omega) (of_decide_eq_true hkey)]
      rfl

end Law

theorem rows_fit (twice : Bool) : (if twice then 2 else 1) ≤ MAX_LUMETER_CONF_NUM := by cases twice <;> decide

/-- the sensor at address 5 and channel 1, in one row or in two; two rounds may go without a reply -/
def rows (twice : Bool) : Task where
  station := { oneStation with receiver := { oneSensor 1 0 with number := if twice then 2 else 1, fits := rows_fit twice } }
  config _ := ⟨5, 1, [], 1000, 2⟩
  occur _ := false
  time_s := 0

end DataConcentrator.Lumeter
