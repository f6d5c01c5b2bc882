/-
How an alarm is stored: `StoreAlarmToSpiFlash` of `history_record.c`, after its walk through the directory.

FatFS operations succeed, but for a rename to a name that is there. The order of the entries after one is left open.
- `alarmLine`: the line of an alarm, which has to fit `wr_buf`;
- `writeAlarm`: the file of today is opened, written at its end, and renamed to the next number;
- `storeAlarmToSpiFlash`, `storeAll`: on the disk, and a run of stores;
- `ofToday_iff`: among the files that stay, the search in the names finds the files of today;
- `recordNum_alarmFile`: the number in a name reads back.
-/
import DataConcentrator.Common.Print
import DataConcentrator.History.Retention

namespace DataConcentrator.History

open Gregorian

/-! ## The line -/

/-- `AlarmReport_S` of one of the six devices; what its pointers point to -/
structure AlarmReport where
  record_type : UInt8
  device_type : UInt8
  alarm_type : UInt8
  device_address : List UInt8
  device_channel : List UInt8
  current_value : List UInt8
  set_value : List UInt8
  reference_value : List UInt8
  occur_time : List UInt8
  known : device_type ≤ LUMETER

/-- `wr_buf`, up to its terminator -/
def alarmLine (alarm_report : AlarmReport) : List UInt8 :=
  [0x41] ++
  (if alarm_report.record_type = 1 then [0x30] else if alarm_report.record_type = 0 then [0x31] else []) ++ [0x7C] ++
  sprintfD alarm_report.device_type.toNat ++ [0x7C] ++
  sprintfD alarm_report.alarm_type.toNat ++ [0x7C] ++
  cstr alarm_report.device_address ++ [0x7C] ++
  cstr alarm_report.device_channel ++ [0x7C] ++
  cstr alarm_report.current_value ++ [0x7C] ++
  -- a separator in the set value becomes a semicolon
  (cstr alarm_report.set_value).map (fun b => if b = 0x7C then 0x3B else b) ++ [0x7C] ++
  cstr alarm_report.reference_value ++ [0x7C] ++
  cstr alarm_report.occur_time ++ [0x0D, 0x0A]

/-- `wr_buf` has 256 bytes -/
def FitsWrBuf (alarm_report : AlarmReport) : Prop := (alarmLine alarm_report).length < 256

instance decidableFitsWrBuf (alarm_report : AlarmReport) : Decidable (FitsWrBuf alarm_report) :=
  inferInstanceAs (Decidable (_ < _))

/-! ## The file -/

/-- the name in `fileinfo.fname`, which has room for 13 bytes -/
def Entry.name (e : Entry) : List UInt8 := cstr ((List.range 13).map e.fname)

/-- `file_name` after the directory: the number, the day, and `.A` -/
def fileName (record_num : ℕ) (today : Today) : List UInt8 :=
  sprintf02X (UInt8.ofNat record_num) ++ dayText today.w_year today.w_month.toNat today.w_date.toNat ++ [0x2E, 0x41]

theorem fileName_named (record_num : ℕ) (today : Today) : (fileName record_num today).getD 0 0 ≠ 0 := fun h =>
  (hexChar_facts (UInt8.ofNat record_num)).2.1 (List.mem_cons.2 (Or.inl h))

def alarmFile (record_num : ℕ) (today : Today) (content : List UInt8) : Entry :=
  ⟨fun i => (fileName record_num today).getD i 0, content, fileName_named record_num today⟩

section Step

variable (stack : ℕ → UInt8) (today : Today)

/-- the directory after the walk, `mf_open`, `mf_write` and `mf_rename` -/
def writeAlarm (line : List UInt8) (dir : List Entry) : List Entry :=
  let record_num := (storeScan stack today dir).1
  let files := (storeScan stack today dir).2
  let next := if record_num + 1 > 0xFF then 0 else record_num + 1
  let content := ((files.find? fun e => e.name = fileName record_num today).elim [] Entry.content) ++ line
  let others := files.filter fun e => e.name ≠ fileName record_num today
  if others.any fun e => e.name = fileName next today then
    -- the rename fails, and the file of that name goes
    (others.filter fun e => e.name ≠ fileName next today) ++ [alarmFile record_num today content]
  else others ++ [alarmFile next today content]

end Step

/-- where FatFS has put the entries of a directory -/
structure Order where
  place : List Entry → List Entry
  perm : ∀ dir, (place dir).Perm dir

/-- a call: the alarm, the day of the clock, and the order of the directory after it -/
structure Store where
  alarm_report : AlarmReport
  calendar : Date
  order : Order

/-- `base_path` -/
def alarmPath (device_type : UInt8) : String := deviceDir device_type ++ "ALARM"

def Store.path (s : Store) : String := alarmPath s.alarm_report.device_type

section Run

variable (stack : ℕ → UInt8)

/-- the directory of the alarm -/
def storeIn (dir : List Entry) (s : Store) : List Entry :=
  s.order.place (writeAlarm stack (todayAt s.calendar) (alarmLine s.alarm_report) dir)

/-- the disk; a line that runs past `wr_buf` is `none` -/
def storeAlarmToSpiFlash (disk : String → List Entry) (s : Store) : Option (String → List Entry) :=
  if FitsWrBuf s.alarm_report then some (Function.update disk s.path (storeIn stack (disk s.path) s)) else none

/-- a run of stores, from empty directories on -/
def storeAll (stores : List Store) : Option (String → List Entry) :=
  stores.foldlM (storeAlarmToSpiFlash stack) fun _ => []

theorem storeAll_concat (stores : List Store) (s : Store) :
    storeAll stack (stores ++ [s]) = (storeAll stack stores).bind fun disk => storeAlarmToSpiFlash stack disk s := by
  rw [storeAll, List.foldlM_append]
  simp only [List.foldlM_cons, List.foldlM_nil, bind_pure]
  rfl

end Run

/-! ## Names -/

theorem timeDigit_inj {m n : ℕ} : timeDigit m = timeDigit n ↔ m % 10 = n % 10 := by
  rw [← UInt8.toNat_inj, timeDigit_toNat, timeDigit_toNat]
  omega

theorem timeDigit_ne {b : UInt8} (hb : b.toNat < 0x30) (n : ℕ) : timeDigit n ≠ b := by
  rintro rfl
  rw [timeDigit_toNat] at hb
  omega

theorem not_mem_fileName (n : ℕ) (today : Today) : 0 ∉ fileName n today := by
  have hdigit : ∀ k, 0 ≠ timeDigit k := fun k h => timeDigit_ne (by decide) k h.symm
  obtain ⟨-, hhigh, hlow⟩ := hexChar_facts (UInt8.ofNat n)
  simp only [List.mem_cons, not_or] at hhigh hlow
  simp only [fileName, sprintf02X, dayText, List.cons_append, List.nil_append, List.mem_cons, List.not_mem_nil,
    or_false, not_or]
  exact ⟨Ne.symm hhigh.1, Ne.symm hlow.1, hdigit _, hdigit _, hdigit _, hdigit _, hdigit _, hdigit _, by decide,
    by decide⟩

theorem alarmFile_name (n : ℕ) (today : Today) (content : List UInt8) :
    (alarmFile n today content).name = fileName n today := by
  have hbytes : (List.range 13).map (alarmFile n today content).fname = fileName n today ++ [0, 0, 0] := rfl
  have hzeros : cstr [0, 0, 0] = [] := rfl
  rw [Entry.name, hbytes, cstr_append (not_mem_fileName n today), hzeros, List.append_nil]

/-- the number in a name reads back -/
theorem recordNum_alarmFile {n : ℕ} (hn : n ≤ 255) (today : Today) (content : List UInt8) :
    recordNum (alarmFile n today content).fname = n := by
  have hfact := (hexChar_facts (UInt8.ofNat n)).1
  rw [recordNum]
  show (hexDigit (hexChar (UInt8.ofNat n / 16)) * 16 + hexDigit (hexChar (UInt8.ofNat n % 16))).toNat = n
  rw [hfact, UInt8.toNat_ofNat']
  omega

/-- the text of the day the clock shows -/
theorem dayText_todayAt {d : Date} (hd : InCentury d) :
    dayText (todayAt d).w_year (todayAt d).w_month.toNat (todayAt d).w_date.toNat = dayText d.year d.month d.day := by
  have hmonth := hd.month_le
  have hday := hd.day_le.trans (monthLength_le d.year d.month)
  rw [todayAt, UInt8.toNat_ofNat', UInt8.toNat_ofNat', Nat.mod_eq_of_lt (by omega), Nat.mod_eq_of_lt (by omega)]

theorem fileName_todayAt {d : Date} (hd : InCentury d) (n : ℕ) :
    fileName n (todayAt d) = sprintf02X (UInt8.ofNat n) ++ dayText d.year d.month d.day ++ [0x2E, 0x41] := by
  rw [fileName, dayText_todayAt hd]

theorem alarmFileOf_alarmFile {d : Date} (hd : InCentury d) (n : ℕ) (content : List UInt8) :
    AlarmFileOf d (alarmFile n (todayAt d) content).fname := by
  have hname : (alarmFile n (todayAt d) content).fname =
      fun i => (sprintf02X (UInt8.ofNat n) ++ dayText d.year d.month d.day ++ [0x2E, 0x41]).getD i 0 := by
    rw [← fileName_todayAt hd]
    rfl
  obtain ⟨hhigh, hlow⟩ := hexChar_range (UInt8.ofNat n)
  rw [hname]
  exact ⟨hhigh, hlow, rfl, rfl, rfl⟩

/-- six digits tell the days of the century apart -/
theorem dayText_inj {d t : Date} (hd : InCentury d) (ht : InCentury t)
    (h : dayText d.year d.month d.day = dayText t.year t.month t.day) : d = t := by
  simp only [dayText, List.cons.injEq, and_true, timeDigit_inj] at h
  have hfrom := hd.from2000
  have hto := hd.to2099
  have hfrom' := ht.from2000
  have hto' := ht.to2099
  have hmonth := hd.month_le
  have hmonth' := ht.month_le
  have hday := hd.day_le.trans (monthLength_le _ _)
  have hday' := ht.day_le.trans (monthLength_le _ _)
  obtain ⟨year, month, day⟩ := d
  obtain ⟨year', month', day'⟩ := t
  simp only [Date.mk.injEq]
  dsimp only at *
  omega

theorem fileName_inj {d t : Date} (hd : InCentury d) (ht : InCentury t) {m n : ℕ}
    (h : fileName m (todayAt d) = fileName n (todayAt t)) : d = t := by
  rw [fileName_todayAt hd, fileName_todayAt ht] at h
  have hdays := congrArg (fun name => (name.drop 2).take 6) h
  exact dayText_inj hd ht hdays

/-! ## Days that are kept -/

theorem getDays_mono (stack : ℕ → UInt8) {d t : Date} (hd : InCentury d) (ht : InCentury t)
    (h : d.ordinal ≤ t.ordinal) : getDays stack d ≤ getDays stack t := by
  have hdays := getDays_eq stack hd.toValid hd.from2000
  have htoday := getDays_eq stack ht.toValid ht.from2000
  have hyear := year_le_of_ordinal hd.toValid ht.toValid h
  rcases hyear.eq_or_lt with heq | hlt
  · rw [← heq] at htoday
    omega
  · -- a day between them makes up for the lengths of the years
    have hne : d.ordinal ≠ t.ordinal := fun heq => hlt.ne (congrArg Date.year (ordinal_inj hd.toValid ht.toValid heq))
    have hlen := yearLength_cases d.year
    have hlen' := yearLength_cases t.year
    omega

/-- less than 30 days do not reach the last months of the next year -/
theorem recent_year (stack : ℕ → UInt8) {d t : Date} (hd : InCentury d) (ht : InCentury t)
    (hrecent : getDays stack t < getDays stack d + 30) : t.year < d.year + 1 ∨ t.year = d.year + 1 ∧ t.month < 10 := by
  have hdays := getDays_eq stack hd.toValid hd.from2000
  have htoday := getDays_eq stack ht.toValid ht.from2000
  have hlen := yearLength_cases d.year
  have hlen' := yearLength_cases t.year
  have hof := hd.toValid.dayOfYear_le
  have hpos := ht.toValid.dayOfYear_pos
  have hnext := daysBeforeYear_succ d.year
  rw [Date.ordinal] at hdays htoday
  by_contra hfar
  rcases Nat.lt_or_ge (d.year + 1) t.year with hyear | hyear
  · have hyears : daysBeforeYear (d.year + 1 + 1) ≤ daysBeforeYear t.year := daysBeforeYear_mono hyear
    have hnext' := daysBeforeYear_succ (d.year + 1)
    have hlen'' := yearLength_cases (d.year + 1)
    omega
  · have heq : t.year = d.year + 1 := by omega
    have hmonth : 10 ≤ t.month := by omega
    have hmonths : daysBeforeMonth t.year 10 ≤ daysBeforeMonth t.year t.month := daysBeforeMonth_mono _ hmonth
    rw [daysBeforeMonth_eq _ (by omega) (by omega)] at hmonths
    rw [Date.dayOfYear] at htoday
    rw [heq] at htoday hmonths hlen'
    simp only [Nat.reduceSub, List.getD_cons_succ, List.getD_cons_zero] at hmonths
    omega

/-- the dates the names are good for -/
structure Recordable (d : Date) : Prop extends InCentury d where
  from2020 : 2020 ≤ d.year

/-- **The search.** The name of a day that is kept holds the text of today only if it is today. -/
theorem infix_fileName_iff (stack : ℕ → UInt8) {d t : Date} (hrec : Recordable d) (ht : InCentury t)
    (hle : d.ordinal ≤ t.ordinal) (hrecent : getDays stack t < getDays stack d + 30) (n : ℕ) :
    dayText t.year t.month t.day <:+: fileName n (todayAt d) ↔ d = t := by
  have hd := hrec.toInCentury
  have hfrom := hrec.from2020
  have hname := fileName_todayAt hd n
  constructor
  · rintro ⟨before, after, h⟩
    rw [hname] at h
    have hto := hd.to2099
    have hmonth := ht.month_le
    have hdot : ∀ k, timeDigit k ≠ 0x2E := timeDigit_ne (by decide)
    rcases before with _ | ⟨b0, _ | ⟨b1, _ | ⟨b2, _ | ⟨b3, _ | ⟨b4, before⟩⟩⟩⟩⟩
    all_goals
      simp only [dayText, sprintf02X, List.cons_append, List.nil_append, List.cons.injEq] at h
    · -- the year of the file would be a month
      have h2 := timeDigit_inj.1 h.2.2.1
      omega
    · -- so would its last digit, in the year after it
      have h1 := timeDigit_inj.1 h.2.2.1
      have h2 := timeDigit_inj.1 h.2.2.2.1
      have hyear := year_le_of_ordinal hd.toValid ht.toValid hle
      have htens : 2 ≤ d.year / 10 % 10 := by omega
      have hdigit : t.month / 10 ≤ 1 := by omega
      rcases recent_year stack hd ht hrecent with hsame | ⟨hnext, hmonth⟩
      · have heq : t.year = d.year := by omega
        rw [heq] at h1
        omega
      · have hzero : t.month / 10 = 0 := by omega
        rw [hzero] at h2
        omega
    · refine dayText_inj hd ht ?_
      simp only [dayText, List.cons.injEq, and_true]
      tauto
    · exact absurd h.2.2.2.2.2.2.2.2.1 (hdot _)
    · exact absurd h.2.2.2.2.2.2.2.2.1 (hdot _)
    · have hlen := congrArg List.length h.2.2.2.2.2
      simp only [List.length_append, List.length_cons, List.length_nil] at hlen
      omega
  · rintro rfl
    exact ⟨sprintf02X (UInt8.ofNat n), [0x2E, 0x41], hname.symm⟩

theorem ofToday_iff (stack : ℕ → UInt8) {d t : Date} (hd : Recordable d) (ht : InCentury t) (hle : d.ordinal ≤ t.ordinal)
    (hrecent : getDays stack t < getDays stack d + 30) (n : ℕ) (content : List UInt8) :
    OfToday (todayAt t) (alarmFile n (todayAt d) content).fname ↔ d = t := by
  rw [← infix_fileName_iff stack hd ht hle hrecent n, ← alarmFile_name n (todayAt d) content, OfToday, dayText_todayAt ht]
  exact searchStr_ne_none_iff (List.cons_ne_nil _ _) _

/-! ## The number of the file of today -/

/-- `record_num` after the walk, where the files of today agree on it -/
theorem storeScan_num (stack : ℕ → UInt8) (today : Today) {k : ℕ} {dir : List Entry}
    (hk : ∀ e ∈ dir, ¬ StaleAlarm stack today e.fname → OfToday today e.fname → recordNum e.fname = k) :
    (storeScan stack today dir).1 =
      if ∃ e ∈ dir, ¬ StaleAlarm stack today e.fname ∧ OfToday today e.fname then if k = 0xFF then 0 else k else 0 := by
  induction dir using List.reverseRecOn with
  | nil => simp [storeScan]
  | append_singleton dir e ih =>
    have hscan : storeScan stack today (dir ++ [e]) = storeEntry stack today (storeScan stack today dir) e :=
      List.foldl_concat ..
    have hdir := ih fun x hx => hk x (List.mem_append_left _ hx)
    rw [hscan, storeEntry]
    by_cases hs : StaleAlarm stack today e.fname
    · simp [hs, hdir]
    · by_cases ht : OfToday today e.fname
      · have hnum := hk e (by simp) hs ht
        by_cases hfull : k = 0xFF <;> simp [hs, ht, hnum, hfull]
      · simp [hs, ht, hdir]

end DataConcentrator.History
