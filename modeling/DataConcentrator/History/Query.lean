/-
The alarm history query: `GetAlarmEventNumFromDateSegment` and `GetAlarmEventContentFromDateSegmentAndSendToServer`
of `history_record.c`, behind the gate of the handlers.

FatFS and allocations succeed, and plain `char` is unsigned. A write outside an array, or through a null pointer, is
`none`.
- `alarmHistoryQuery`: the query of a device, which uploads only where the file names record something;
- `analysisLoop`: the loop at `ANALYSIS_LOOP`, which opens a batch before it looks for a line;
- `finish`: the end of the directory.
-/
import DataConcentrator.Common.Calendar
import DataConcentrator.Common.Search
import DataConcentrator.Common.Text
import DataConcentrator.Protocol.ServerFrame

namespace DataConcentrator.History

open DataConcentrator.Protocol

/-! ## Dates -/

def leapYearJudge (year : ℕ) : Bool := if year % 400 = 0 then true else year % 4 = 0 ∧ year % 100 ≠ 0

/-- the table of `get_days_by_calendar` in its year, with what lies after it on the stack -/
def daysOfMonth (stack : ℕ → UInt8) (year i : ℕ) : UInt8 :=
  if i = 2 then if leapYearJudge year then 29 else 28 else monthDays stack i

/-- `get_days_by_calendar`; the years from 2000 on, this one with them -/
def getDaysByCalendar (stack : ℕ → UInt8) (year : ℕ) (month date : UInt8) : ℕ :=
  let days := (List.range' 2000 (year + 1 - 2000)).foldl (fun days i => days + if leapYearJudge i then 366 else 365) 0
  let days := (List.range' 1 (month.toNat - 1)).foldl (fun days i => days + (daysOfMonth stack year i).toNat) days
  days + date.toNat

/-- the number two digits stand for, as a `u8` -/
def twoDigits (c1 c2 : UInt8) : UInt8 := (c1 - 0x30) * 10 + (c2 - 0x30)

/-- `xxyymmdd`: the year at 2, the month at 4 and the day at 6 -/
def yearAt (text : ℕ → UInt8) : ℕ := (text 2).toNat * 10 + (text 3).toNat + 2000 - 11 * 0x30

def monthAt (text : ℕ → UInt8) : UInt8 := twoDigits (text 4) (text 5)

def dateAt (text : ℕ → UInt8) : UInt8 := twoDigits (text 6) (text 7)

/-- the days of a text, stored in a `u16` -/
def daysAt (stack : ℕ → UInt8) (text : ℕ → UInt8) : ℕ :=
  getDaysByCalendar stack (yearAt text) (monthAt text) (dateAt text) % 65536

/-! ## Files -/

/-- what `f_readdir` tells of a file, and the bytes in it; an empty name ends the directory -/
structure Entry where
  fname : ℕ → UInt8
  content : List UInt8
  named : fname 0 ≠ 0

/-- `EventHistory_S`; the dates are the memory from the pointers on -/
structure EventHistory where
  device_type : UInt8
  event_type : UInt8
  start_date : ℕ → UInt8
  end_date : ℕ → UInt8

/-- the clock, the identification of frames, and the stack -/
structure Env where
  w_year : ℕ
  w_month : UInt8
  w_date : UInt8
  -- `InitServerFrameStruct` counts the structures it has initialised
  init : ℕ → ServerFrameStruct
  stack : ℕ → UInt8

/-- `current_date` -/
def Env.current_date (env : Env) : ℕ := getDaysByCalendar env.stack env.w_year env.w_month env.w_date % 65536

def CONCENTRATOR : UInt8 := 0x00
def LAMP_CONTROLLER : UInt8 := 0x01
def RELAY : UInt8 := 0x02
def INPUT_COLLECTOR : UInt8 := 0x03
def ELECTRICITY_METER : UInt8 := 0x04
def LUMETER : UInt8 := 0x05

def TYPE_ALARM : UInt8 := 0
def TYPE_EVENT : UInt8 := 1
def TYPE_JOURNAL : UInt8 := 2
def TYPE_STATE : UInt8 := 3

def deviceDir (device_type : UInt8) : String :=
  if device_type = CONCENTRATOR then "0:CONCEN/"
  else if device_type = LAMP_CONTROLLER then "0:LAMP/"
  else if device_type = RELAY then "0:RELAY/"
  else if device_type = INPUT_COLLECTOR then "0:INPUT/"
  else if device_type = ELECTRICITY_METER then "0:METER/"
  else if device_type = LUMETER then "0:LUMETER/"
  else ""

/-- `base_path` of the upload -/
def basePath (q : EventHistory) : String :=
  deviceDir q.device_type ++
    if q.event_type = TYPE_ALARM then "ALARM"
    else if q.event_type = TYPE_EVENT then "EVENT"
    else if q.event_type = TYPE_JOURNAL then "JOURNAL"
    else ""

/-- `base_path` of the count, which knows one more type -/
def numBasePath (q : EventHistory) : String :=
  if q.event_type = TYPE_STATE then deviceDir q.device_type ++ "STATE" else basePath q

/-- a file to delete: older than 30 days, of the future, or with a name that no record has -/
def Stale (env : Env) (fname : ℕ → UInt8) : Prop :=
  (env.current_date : ℤ) - daysAt env.stack fname ≥ 30 ∨
  env.current_date < daysAt env.stack fname ∨
  fname 0 < 0x30 ∨ fname 0 > 0x46 ∨
  fname 1 < 0x30 ∨ fname 1 > 0x46 ∨
  yearAt fname < 2020 ∨
  monthAt fname < 1 ∨ monthAt fname > 12 ∨
  dateAt fname < 1 ∨ dateAt fname > 31 ∨
  fname 8 ≠ 0x2E ∨
  (fname 9 ≠ 0x41 ∧ fname 9 ≠ 0x45 ∧ fname 9 ≠ 0x4A)

instance decidableStale (env : Env) (fname : ℕ → UInt8) : Decidable (Stale env fname) := by unfold Stale; infer_instance

/-- the dates of the query, both of them in it -/
def InRange (env : Env) (q : EventHistory) (fname : ℕ → UInt8) : Prop :=
  daysAt env.stack q.start_date ≤ daysAt env.stack fname ∧ daysAt env.stack fname ≤ daysAt env.stack q.end_date

instance decidableInRange (env : Env) (q : EventHistory) (fname : ℕ → UInt8) : Decidable (InRange env q fname) := by
  unfold InRange; infer_instance

/-! ## The count -/

/-- `record_num` of a file name: `StrToHex` of its first two digits -/
def recordNum (fname : ℕ → UInt8) : ℕ := (hexDigit (fname 0) * 16 + hexDigit (fname 1)).toNat

/-- one file of the directory, on the sum, a `u16`, and the files that stay -/
def countEntry (env : Env) (q : EventHistory) (s : ℕ × List Entry) (e : Entry) : ℕ × List Entry :=
  if Stale env e.fname then s
  else if InRange env q e.fname then ((s.1 + recordNum e.fname) % 65536, s.2 ++ [e])
  else (s.1, s.2 ++ [e])

/-- the number, and the disk -/
def getAlarmEventNumFromDateSegment (env : Env) (q : EventHistory) (disk : String → List Entry) :
    ℕ × (String → List Entry) :=
  let counted := (disk (numBasePath q)).foldl (countEntry env q) (0, [])
  (counted.1, Function.update disk (numBasePath q) counted.2)

/-! ## The upload -/

def EVENT_NUM_OF_BATCH : ℕ := 5

/-- what becomes of a frame structure -/
inductive Outcome where
  | converted (server_frame_struct : ServerFrameStruct)
  | deleted (server_frame_struct : ServerFrameStruct)

/-- the structure that is sent, or whose parameters are freed -/
def Outcome.server_frame_struct : Outcome → ServerFrameStruct
  | .converted s => s
  | .deleted s => s

/-- the structure, where it is sent -/
def Outcome.sent : Outcome → Option ServerFrameStruct
  | .converted s => some s
  | .deleted _ => none

/-- the variables of the upload that outlive a file -/
structure St where
  i : ℕ
  server_frame_struct : Option ServerFrameStruct
  patch_num : ℕ
  -- structures initialised, what became of them, and the files that stay
  inits : ℕ
  outcomes : List Outcome
  files : List Entry

def initial : St := ⟨0, none, 1, 0, [], []⟩

/-- `sprintf` with `"%d"` -/
def sprintfD (n : ℕ) : List UInt8 := if n = 0 then [0x30] else decimal n

/-- the parameter `0x8001`, the patch number -/
def patchPara (patch_num : ℕ) : Parameter := ⟨0x8001, (sprintfD patch_num).length, sprintfD patch_num ++ [0]⟩

/-- a line, as the parameter at `i` -/
def linePara (i : ℕ) (line : List UInt8) : Parameter := ⟨UInt16.ofNat (0x4001 + i), line.length, line ++ [0]⟩

/-- a structure with its patch number, and room for the lines -/
def newStruct (env : Env) (q : EventHistory) (inits patch_num : ℕ) : ServerFrameStruct :=
  { env.init inits with
    msg_type := SYNC_RESPONSE
    msg_len := 10
    err_code := 0
    msg_id := (0x00A5 : UInt16) + ((q.device_type.toUInt16 <<< 8) &&& 0xFF00)
    para_num := EVENT_NUM_OF_BATCH + 1
    para := some (patchPara patch_num) :: List.replicate EVENT_NUM_OF_BATCH none }

/-- from `ANALYSIS_LOOP` to the search for a line -/
def openBatch (env : Env) (q : EventHistory) (s : St) : St :=
  if s.i = 0 ∧ s.server_frame_struct = none then
    { s with
      i := s.i + 1
      server_frame_struct := some (newStruct env q s.inits s.patch_num)
      patch_num := (s.patch_num + 1) % 65536
      inits := s.inits + 1 }
  else s

/-- `para[i]`; the array has `EVENT_NUM_OF_BATCH + 1` entries -/
def setPara (f : ServerFrameStruct) (i : ℕ) (p : Parameter) : Option ServerFrameStruct :=
  if i < f.para.length then some { f with para := f.para.set i (some p) } else none

/-- a line into the structure, which is sent when it is full -/
def addLine (line : List UInt8) (s : St) : Option St :=
  s.server_frame_struct.bind fun f => (setPara f s.i (linePara s.i line)).map fun f =>
    let i := s.i + 1
    if i = EVENT_NUM_OF_BATCH + 1 then
      { s with i := 0, server_frame_struct := none, outcomes := s.outcomes ++ [.converted f] }
    else { s with i := i, server_frame_struct := some f }

def crlf : List UInt8 := [0x0D, 0x0A]

/-- the loop at `ANALYSIS_LOOP` on the first `read_len` bytes of `read_buf`, at most `n` rounds, with the bytes left;
`memcpy` copies forward -/
def analysisLoop (env : Env) (q : EventHistory) : ℕ → St → List UInt8 → Option (St × List UInt8)
  | 0, _, _ => none
  | n + 1, s, read_buf =>
    let s := openBatch env q s
    let end_pos := myStrstr read_buf crlf read_buf.length 2
    if end_pos ≠ 0xFFFF then
      (addLine (read_buf.take end_pos) s).bind fun s =>
        if read_buf.length > end_pos then analysisLoop env q n s (read_buf.drop (end_pos + 2)) else some (s, [])
    else some (s, read_buf)

/-- the loop of `f_read` behind the first `read_pos` bytes of `read_buf`, an array of 1024; a short read closes the file,
and the next one fails -/
def readLoop (env : Env) (q : EventHistory) : ℕ → St → List UInt8 → List UInt8 → Option St
  | 0, _, _, _ => none
  | n + 1, s, read_buf, content =>
    let chunk := content.take 512
    if read_buf.length + chunk.length ≤ 1024 then
      (analysisLoop env q ((read_buf ++ chunk).length + 1) s (read_buf ++ chunk)).bind fun (s, read_buf) =>
        if chunk.length < 512 then some s else readLoop env q n s read_buf (content.drop 512)
    else none

/-- one file of the directory -/
def uploadEntry (env : Env) (q : EventHistory) (s : St) (e : Entry) : Option St :=
  if Stale env e.fname then some s
  else if InRange env q e.fname then
    (readLoop env q (e.content.length / 512 + 1) s [] e.content).map fun s => { s with files := s.files ++ [e] }
  else some { s with files := s.files ++ [e] }

/-- the end of the directory -/
def finish (s : St) : St :=
  s.server_frame_struct.elim s fun f =>
    if s.i ≤ 1 then { s with outcomes := s.outcomes ++ [.deleted f] }
    else { s with outcomes := s.outcomes ++ [.converted { f with para_num := s.i }] }

/-- what becomes of the structures, and the disk -/
def getAlarmEventContentFromDateSegmentAndSendToServer (env : Env) (q : EventHistory) (disk : String → List Entry) :
    Option (List Outcome × (String → List Entry)) :=
  ((disk (basePath q)).foldlM (uploadEntry env q) initial).map fun s =>
    ((finish s).outcomes, Function.update disk (basePath q) s.files)

/-- what `GetAlarmReportHistory` of a device asks for -/
def alarmEvents (device_type : UInt8) (start_date end_date : ℕ → UInt8) : EventHistory :=
  ⟨device_type, TYPE_ALARM, start_date, end_date⟩

/-- `GetAlarmReportHistory`, and the upload it queues -/
def alarmHistoryQuery (env : Env) (device_type : UInt8) (start_date end_date : ℕ → UInt8) (disk : String → List Entry) :
    Option (List Outcome × (String → List Entry)) :=
  let q := alarmEvents device_type start_date end_date
  let (record_num, disk) := getAlarmEventNumFromDateSegment env q disk
  if record_num = 0 then some ([], disk) else getAlarmEventContentFromDateSegmentAndSendToServer env q disk

end DataConcentrator.History
