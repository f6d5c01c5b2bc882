/-
How long alarms are kept: the walk of `StoreAlarmToSpiFlash` through the directory, before it writes the new alarm.

- `storeScan`: the files that stay, and `record_num` of the file of today;
- `getDays_eq`: a year before the date counts with the length of the date's own year;
- `stale_iff`: a file goes once the days of the calendar, so counted, reach 30;
- `keeps_thirty_days_iff`: days and deletions are right between two dates exactly when both years or neither are leap.
-/
import DataConcentrator.History.Query
import DataConcentrator.Lib.CLoop
import DataConcentrator.Lib.Gregorian

namespace DataConcentrator.History

open Gregorian

/-! ## The walk -/

/-- a decimal digit, as `TimeToString` writes it -/
def timeDigit (n : ℕ) : UInt8 := UInt8.ofNat (n % 10 + 0x30)

/-- `tmp[7]` to `tmp[12]`: the day, without the century -/
def dayText (year month date : ℕ) : List UInt8 :=
  [timeDigit (year / 10), timeDigit year, timeDigit (month / 10), timeDigit month, timeDigit (date / 10), timeDigit date]

/-- the day `calendar` shows -/
structure Today where
  w_year : ℕ
  w_month : UInt8
  w_date : UInt8

section Walk

variable (stack : ℕ → UInt8) (today : Today)

/-- `current_date` -/
def Today.current_date : ℕ := getDaysByCalendar stack today.w_year today.w_month today.w_date % 65536

/-- a file that is deleted for its date or its name -/
def StaleAlarm (fname : ℕ → UInt8) : Prop :=
  (today.current_date stack : ℤ) - daysAt stack fname ≥ 30 ∨
  today.current_date stack < daysAt stack fname ∨
  fname 0 < 0x30 ∨ fname 0 > 0x46 ∨
  fname 1 < 0x30 ∨ fname 1 > 0x46 ∨
  yearAt fname < 2020 ∨
  monthAt fname < 1 ∨ monthAt fname > 12 ∨
  dateAt fname < 1 ∨ dateAt fname > 31 ∨
  fname 8 ≠ 0x2E ∨
  fname 9 ≠ 0x41

instance decidableStaleAlarm (fname : ℕ → UInt8) : Decidable (StaleAlarm stack today fname) := by
  unfold StaleAlarm; infer_instance

/-- `search_str` finds the day of today in the name, which has room for 13 bytes -/
def OfToday (fname : ℕ → UInt8) : Prop :=
  searchStr (cstr ((List.range 13).map fname)) (dayText today.w_year today.w_month.toNat today.w_date.toNat) ≠ none

instance decidableOfToday (fname : ℕ → UInt8) : Decidable (OfToday today fname) :=
  inferInstanceAs (Decidable (¬ _ = _))

/-- one file of the directory, on `record_num` and the files that stay; a file with 255 records goes -/
def storeEntry (s : ℕ × List Entry) (e : Entry) : ℕ × List Entry :=
  if StaleAlarm stack today e.fname then s
  else if OfToday today e.fname then
    if recordNum e.fname = 0xFF then (0, s.2) else (recordNum e.fname, s.2 ++ [e])
  else (s.1, s.2 ++ [e])

/-- the loop on `f_readdir` -/
def storeScan (dir : List Entry) : ℕ × List Entry := dir.foldl (storeEntry stack today) (0, [])

/-- the file of today once it is full -/
def FullToday (fname : ℕ → UInt8) : Prop := OfToday today fname ∧ recordNum fname = 0xFF

theorem storeEntry_files (s : ℕ × List Entry) (e : Entry) [Decidable (FullToday today e.fname)] :
    (storeEntry stack today s e).2 = s.2 ++ if StaleAlarm stack today e.fname ∨ FullToday today e.fname then [] else [e] := by
  rw [storeEntry]
  by_cases hs : StaleAlarm stack today e.fname
  · simp [hs]
  · by_cases ht : OfToday today e.fname
    · by_cases hf : recordNum e.fname = 0xFF <;> simp [hs, ht, hf, FullToday]
    · simp [hs, ht, FullToday]

/-- the files that stay are neither stale nor full -/
theorem storeScan_files [∀ fname, Decidable (FullToday today fname)] (dir : List Entry) :
    (storeScan stack today dir).2 = dir.filter fun e => ¬ (StaleAlarm stack today e.fname ∨ FullToday today e.fname) := by
  induction dir using List.reverseRecOn with
  | nil => rfl
  | append_singleton dir e ih =>
    have hscan : storeScan stack today (dir ++ [e]) = storeEntry stack today (storeScan stack today dir) e :=
      List.foldl_concat ..
    rw [hscan, storeEntry_files, ih, List.filter_append, List.filter_singleton]
    by_cases h : StaleAlarm stack today e.fname ∨ FullToday today e.fname <;> simp [h]

theorem mem_storeScan (e : Entry) (dir : List Entry) :
    e ∈ (storeScan stack today dir).2 ↔ e ∈ dir ∧ ¬ StaleAlarm stack today e.fname ∧ ¬ FullToday today e.fname := by
  classical
  rw [storeScan_files, List.mem_filter, decide_eq_true_iff, not_or]

end Walk

/-! ## Days -/

theorem leapYearJudge_iff (y : ℕ) : leapYearJudge y = true ↔ Leap y := by
  rw [leapYearJudge, Leap]
  split_ifs with h
  · simp [h]
  · simp [h]

theorem daysOfMonth_eq (stack : ℕ → UInt8) (y : ℕ) {m : ℕ} (h1 : 1 ≤ m) (h12 : m ≤ 12) :
    (daysOfMonth stack y m).toNat = monthLength y m := by
  have hleap := leapYearJudge_iff y
  by_cases h : Leap y
  · rw [daysOfMonth, monthLength, hleap.2 h]
    interval_cases m <;> simp [monthDays, h]
  · have hj : leapYearJudge y = false := by simpa [h] using hleap
    rw [daysOfMonth, monthLength, hj]
    interval_cases m <;> simp [monthDays, h]

/-- `get_days_by_calendar` of a date -/
def getDays (stack : ℕ → UInt8) (d : Date) : ℕ :=
  getDaysByCalendar stack d.year (UInt8.ofNat d.month) (UInt8.ofNat d.day)

theorem monthLength_le (y m : ℕ) : monthLength y m ≤ 31 := by
  rw [monthLength]
  split_ifs <;> omega

/-- **What is counted.** The year of the date is counted whole, and its days again. -/
theorem getDays_eq (stack : ℕ → UInt8) {d : Date} (hd : d.Valid) (hy : 2000 ≤ d.year) :
    getDays stack d + daysBeforeYear 2000 = d.ordinal + yearLength d.year := by
  have hmonth : (UInt8.ofNat d.month).toNat = d.month := by
    have := hd.month_le
    simp
    omega
  have hday : (UInt8.ofNat d.day).toNat = d.day := by
    have := hd.day_le
    have := monthLength_le d.year d.month
    simp
    omega
  have hlen : ∀ y, (if leapYearJudge y then 366 else 365) = yearLength y := by
    intro y
    rw [yearLength]
    simp only [leapYearJudge_iff]
  have hyears : ∑ y ∈ Finset.Ico 2000 (2000 + (d.year + 1 - 2000)), yearLength y + daysBeforeYear 2000 =
      daysBeforeYear (d.year + 1) := by
    rw [show 2000 + (d.year + 1 - 2000) = d.year + 1 by omega, add_comm]
    exact Finset.sum_range_add_sum_Ico _ (by omega)
  have hmonths : ∑ i ∈ Finset.Ico 1 (1 + (d.month - 1)), (daysOfMonth stack d.year i).toNat =
      daysBeforeMonth d.year d.month := by
    rw [Nat.add_sub_cancel' hd.month_pos, daysBeforeMonth]
    refine Finset.sum_congr rfl fun i hi => ?_
    rw [Finset.mem_Ico] at hi
    exact daysOfMonth_eq stack d.year hi.1 (by have := hd.month_le; omega)
  simp only [getDays, getDaysByCalendar, CLoop.foldl_range'_add, hmonth, hday, hlen, hmonths]
  rw [Date.ordinal, Date.dayOfYear]
  have := daysBeforeYear_succ d.year
  omega

/-- the dates of the clock -/
structure InCentury (d : Date) : Prop extends d.Valid where
  from2000 : 2000 ≤ d.year
  to2099 : d.year ≤ 2099

/-- the days fit a `u16` -/
theorem getDays_lt (stack : ℕ → UInt8) {d : Date} (hd : InCentury d) : getDays stack d < 65536 := by
  have hdays := getDays_eq stack hd.toValid hd.from2000
  have h2000 := daysBeforeYear_eq 2000
  have hyear := daysBeforeYear_eq d.year
  have hle := hd.toValid.dayOfYear_le
  have hto := hd.to2099
  have hfrom := hd.from2000
  have hlen := yearLength_cases d.year
  rw [Date.ordinal] at hdays
  omega

/-! ## Files -/

/-- a name that `StoreAlarmToSpiFlash` gives a file of the day `d` -/
structure AlarmFileOf (d : Date) (fname : ℕ → UInt8) : Prop where
  num0 : 0x30 ≤ fname 0 ∧ fname 0 ≤ 0x46
  num1 : 0x30 ≤ fname 1 ∧ fname 1 ≤ 0x46
  day : [fname 2, fname 3, fname 4, fname 5, fname 6, fname 7] = dayText d.year d.month d.day
  dot : fname 8 = 0x2E
  type : fname 9 = 0x41

theorem timeDigit_toNat (n : ℕ) : (timeDigit n).toNat = n % 10 + 0x30 := by
  rw [timeDigit, UInt8.toNat_ofNat']
  omega

/-- two digits read back -/
theorem twoDigits_timeDigit : ∀ n < 100, twoDigits (timeDigit (n / 10)) (timeDigit n) = UInt8.ofNat n := by
  set_option maxRecDepth 4000 in decide

/-- the clock shows the day `d` -/
def todayAt (d : Date) : Today := ⟨d.year, UInt8.ofNat d.month, UInt8.ofNat d.day⟩

theorem AlarmFileOf.daysAt {d : Date} (hd : InCentury d) {fname : ℕ → UInt8} (hf : AlarmFileOf d fname) :
    yearAt fname = d.year ∧ monthAt fname = UInt8.ofNat d.month ∧ dateAt fname = UInt8.ofNat d.day := by
  have hday := hf.day
  simp only [dayText, List.cons.injEq, and_true] at hday
  obtain ⟨h2, h3, h4, h5, h6, h7⟩ := hday
  refine ⟨?_, ?_, ?_⟩
  · have hfrom := hd.from2000
    have hto := hd.to2099
    have hdigits : (fname 2).toNat = d.year / 10 % 10 + 0x30 ∧ (fname 3).toNat = d.year % 10 + 0x30 :=
      ⟨h2 ▸ timeDigit_toNat _, h3 ▸ timeDigit_toNat _⟩
    have hyear : yearAt fname = (fname 2).toNat * 10 + (fname 3).toNat + 2000 - 11 * 0x30 := rfl
    omega
  · have hle := hd.month_le
    rw [monthAt, h4, h5, twoDigits_timeDigit _ (by omega)]
  · have hle := hd.day_le
    have h31 := monthLength_le d.year d.month
    rw [dateAt, h6, h7, twoDigits_timeDigit _ (by omega)]

/-- what decides about a file with such a name -/
theorem stale_iff (stack : ℕ → UInt8) {d1 d2 : Date} (h1 : InCentury d1) (h2 : InCentury d2) (h2020 : 2020 ≤ d1.year)
    {fname : ℕ → UInt8} (hf : AlarmFileOf d1 fname) :
    StaleAlarm stack (todayAt d2) fname ↔
      getDays stack d1 + 30 ≤ getDays stack d2 ∨ getDays stack d2 < getDays stack d1 := by
  obtain ⟨hyear, hmonth, hdate⟩ := hf.daysAt h1
  have hcur : (todayAt d2).current_date stack = getDays stack d2 := Nat.mod_eq_of_lt (getDays_lt stack h2)
  have hfile : History.daysAt stack fname = getDays stack d1 := by
    rw [History.daysAt, hyear, hmonth, hdate]
    exact Nat.mod_eq_of_lt (getDays_lt stack h1)
  have hm : ¬ UInt8.ofNat d1.month < 1 ∧ ¬ UInt8.ofNat d1.month > 12 := by
    have hpos := h1.month_pos
    have hle := h1.month_le
    simp only [UInt8.lt_iff_toNat_lt, gt_iff_lt, UInt8.toNat_ofNat', UInt8.reduceToNat]
    omega
  have hd : ¬ UInt8.ofNat d1.day < 1 ∧ ¬ UInt8.ofNat d1.day > 31 := by
    have hpos := h1.day_pos
    have hle := h1.day_le
    have h31 := monthLength_le d1.year d1.month
    simp only [UInt8.lt_iff_toNat_lt, gt_iff_lt, UInt8.toNat_ofNat', UInt8.reduceToNat]
    omega
  rw [StaleAlarm, hcur, hfile, hyear, hmonth, hdate]
  simp only [hm, hd, UInt8.not_lt.2 hf.num0.1, UInt8.not_lt.2 hf.num0.2, UInt8.not_lt.2 hf.num1.1,
    UInt8.not_lt.2 hf.num1.2, Nat.not_lt.2 h2020, hf.dot, hf.type, ne_eq, not_true_eq_false, or_false]
  omega

/-- the lengths of the two years enter -/
theorem getDays_after (stack : ℕ → UInt8) {d1 d2 : Date} (h1 : InCentury d1) (h2 : InCentury d2) {n : ℕ}
    (hn : d1.after n = d2) :
    getDays stack d2 + yearLength d1.year = getDays stack d1 + n + yearLength d2.year := by
  have hd1 := getDays_eq stack h1.toValid h1.from2000
  have hd2 := getDays_eq stack h2.toValid h2.from2000
  have hord := (after_eq_iff h1.toValid h2.toValid n).1 hn
  omega

theorem yearLength_inj {y z : ℕ} : yearLength y = yearLength z ↔ (Leap y ↔ Leap z) := by
  rw [yearLength, yearLength]
  split_ifs with hy hz hz <;> simp [hy, hz]

/-- a file of `n` days goes for its age, but for one day where a year of 366 days and one of 365 days meet -/
theorem stale_after_iff (stack : ℕ → UInt8) {d1 d2 : Date} (h1 : InCentury d1) (h2 : InCentury d2) (h2020 : 2020 ≤ d1.year)
    {n : ℕ} (hn : d1.after n = d2) {fname : ℕ → UInt8} (hf : AlarmFileOf d1 fname) :
    StaleAlarm stack (todayAt d2) fname ↔ 30 + yearLength d1.year ≤ n + yearLength d2.year := by
  have hdays := getDays_after stack h1 h2 hn
  have hsame : n = 0 → yearLength d1.year = yearLength d2.year := by
    rintro rfl
    rw [← hn]
    rfl
  have hlen1 := yearLength_cases d1.year
  have hlen2 := yearLength_cases d2.year
  rw [stale_iff stack h1 h2 h2020 hf]
  omega

/-- the days the calendar counts from `d1` to `d2`, and the files of `d1` that go on the day `d2` -/
structure KeepsThirtyDays (stack : ℕ → UInt8) (d1 d2 : Date) : Prop where
  days : DaysBetween d1 d2 ((getDays stack d2 : ℤ) - getDays stack d1)
  files : ∀ n, d1.after n = d2 → 2020 ≤ d1.year → ∀ dir : List Entry, ∀ e ∈ dir, AlarmFileOf d1 e.fname →
    ¬ FullToday (todayAt d2) e.fname → (e ∉ (storeScan stack (todayAt d2) dir).2 ↔ 30 ≤ n)

/-- **Thirty days.** They are right between two years of one length only. -/
theorem keeps_thirty_days_iff (stack : ℕ → UInt8) {d1 d2 : Date} (h1 : InCentury d1) (h2 : InCentury d2) :
    KeepsThirtyDays stack d1 d2 ↔ (Leap d1.year ↔ Leap d2.year) := by
  rw [← yearLength_inj]
  constructor
  · intro h
    have hdays := (daysBetween_iff h1.toValid h2.toValid _).1 h.days
    have hd1 := getDays_eq stack h1.toValid h1.from2000
    have hd2 := getDays_eq stack h2.toValid h2.from2000
    omega
  · intro hlen
    refine ⟨?_, ?_⟩
    · have hd1 := getDays_eq stack h1.toValid h1.from2000
      have hd2 := getDays_eq stack h2.toValid h2.from2000
      rw [daysBetween_iff h1.toValid h2.toValid]
      omega
    · intro n hn h2020 dir e he hf hfull
      have hgone : e ∉ (storeScan stack (todayAt d2) dir).2 ↔ StaleAlarm stack (todayAt d2) e.fname := by
        rw [mem_storeScan]
        exact ⟨fun h => by_contra fun hs => h ⟨he, hs, hfull⟩, fun hs h => h.2.1 hs⟩
      rw [hgone, stale_after_iff stack h1 h2 h2020 hn hf]
      omega

/-- over the end of a common year -/
theorem keeps_thirty_days_2022 : KeepsThirtyDays (fun _ => 0) ⟨2022, 12, 20⟩ ⟨2023, 1, 19⟩ :=
  (keeps_thirty_days_iff (fun _ => 0) ⟨by decide, by decide, by decide⟩ ⟨by decide, by decide, by decide⟩).2 (by decide)

/-- at the end of 2023 a file goes on its 29th day -/
theorem deleted_after_29_days :
    Date.after ⟨2023, 12, 4⟩ 29 = ⟨2024, 1, 2⟩ ∧
    (getDays (fun _ => 0) ⟨2024, 1, 2⟩ : ℤ) - getDays (fun _ => 0) ⟨2023, 12, 4⟩ = 30 ∧
    StaleAlarm (fun _ => 0) (todayAt ⟨2024, 1, 2⟩)
      (fun i => ([0x30, 0x31, 0x32, 0x33, 0x31, 0x32, 0x30, 0x34, 0x2E, 0x41] : List UInt8).getD i 0) ∧
    ¬ KeepsThirtyDays (fun _ => 0) ⟨2023, 12, 4⟩ ⟨2024, 1, 2⟩ := by
  have hdays : (getDays (fun _ => 0) ⟨2024, 1, 2⟩ : ℤ) - getDays (fun _ => 0) ⟨2023, 12, 4⟩ = 30 := by decide
  refine ⟨by decide, hdays, by decide, fun h => ?_⟩
  have h30 := h.days
  rw [hdays, daysBetween_iff (by decide) (by decide)] at h30
  have hord : Date.ordinal ⟨2024, 1, 2⟩ = Date.ordinal ⟨2023, 12, 4⟩ + 29 :=
    (after_eq_iff (by decide) (by decide) 29).1 (by decide)
  omega

end DataConcentrator.History
