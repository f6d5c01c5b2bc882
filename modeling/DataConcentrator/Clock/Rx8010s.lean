/-
The real time clock: `rx8010s.c`, from the seconds of the network to the calendar that is read back.

The registers hold what was last written to them. What lies around a table in the memory is `flash`.
- `dateLoop_ends`: years and months peeled off leave the date of the day;
- `week_eq`: the table method gives the day of the week;
- `sync_reads_back`: `SyncTimeFromNet` and then `RX8010S_Get_Time`.
-/
import DataConcentrator.Lib.Gregorian
import DataConcentrator.Lib.WhileLoop

namespace DataConcentrator.Clock

open Gregorian

/-! ## The chip -/

/-- the time registers; the week is one bit of seven -/
structure Regs where
  year : UInt8
  month : UInt8
  day : UInt8
  hour : UInt8
  min : UInt8
  sec : UInt8
  week : UInt8
deriving DecidableEq, Repr

/-- `_calendar_obj` -/
structure CalendarObj where
  hour : UInt8
  min : UInt8
  sec : UInt8
  w_year : UInt16
  w_month : UInt8
  w_date : UInt8
  week : UInt8
deriving DecidableEq, Repr

def dataToBcd (data : UInt8) : UInt8 := (data / 10) <<< 4 ||| data % 10

def bcdToData (bcd : UInt8) : UInt8 := ((bcd &&& 0xF0) >>> 4) * 10 + (bcd &&& 0x0F)

/-- `table_week` -/
def tableWeek (flash : ℤ → UInt8) (i : ℤ) : UInt8 :=
  if 0 ≤ i ∧ i < 12 then ([0, 3, 3, 6, 1, 4, 6, 2, 5, 0, 3, 5] : List UInt8).getD i.toNat 0 else flash i

def rtcGetWeek (flash : ℤ → UInt8) (year : UInt16) (month day : UInt8) : UInt8 :=
  let yearH := (year / 100).toUInt8
  let yearL := (year % 100).toUInt8
  let yearL := if yearH > 19 then yearL + 100 else yearL
  let temp2 := yearL.toUInt16 + (yearL / 4).toUInt16
  let temp2 := temp2 % 7
  let temp2 := temp2 + day.toUInt16 + (tableWeek flash ((month.toNat : ℤ) - 1)).toUInt16
  let temp2 := if yearL % 4 = 0 ∧ month < 3 then temp2 - 1 else temp2
  (temp2 % 7).toUInt8

def setTime (flash : ℤ → UInt8) (syear smonth sday shour smin ssecond : UInt8) : Regs :=
  let week := rtcGetWeek flash (syear.toUInt16 + 2000) smonth sday
  let sweek := UInt8.ofNat (1 <<< week.toNat)
  let sweek := if sweek = 0x80 then 0x01 else sweek
  { year := dataToBcd syear
    month := dataToBcd smonth
    day := dataToBcd sday
    hour := dataToBcd shour
    min := dataToBcd smin
    sec := dataToBcd ssecond
    week := sweek }

/-- `while(week)`, with `cnt` -/
def weekRound (s : UInt8 × UInt8) : Option (UInt8 × UInt8) :=
  if s.1 ≠ 0 then some (s.1 / 2, s.2 + 1) else none

def getTime (fuel : ℕ) (regs : Regs) : Option CalendarObj :=
  (WhileLoop.run weekRound fuel (regs.week, 0)).map fun (_, cnt) =>
    { hour := bcdToData regs.hour
      min := bcdToData regs.min
      sec := bcdToData regs.sec
      w_year := (bcdToData regs.year).toUInt16 + 2000
      w_month := bcdToData regs.month
      w_date := bcdToData regs.day
      week := cnt - 1 }

/-! ## The network time -/

def isLeapYear (year : ℕ) : Bool := (year % 4 = 0 ∧ year % 100 ≠ 0) ∨ year % 400 = 0

/-- `temp` and `temp1` of `SyncTimeFromNet` -/
structure Temps where
  temp : ℕ
  temp1 : ℕ
deriving DecidableEq, Repr

/-- `while(temp >= 365)` -/
def yearRound (s : Temps) : Option Temps :=
  if s.temp ≥ 365 then
    if isLeapYear s.temp1 then
      if s.temp ≥ 366 then some ⟨s.temp - 366, (s.temp1 + 1) % 65536⟩ else none
    else some ⟨s.temp - 365, (s.temp1 + 1) % 65536⟩
  else none

/-- `mon_table` -/
def monTable (flash : ℤ → UInt8) (i : ℕ) : UInt8 :=
  if i < 12 then ([31, 28, 31, 30, 31, 30, 31, 31, 30, 31, 30, 31] : List UInt8).getD i 0 else flash i

/-- `while(temp >= 28)` -/
def monthRound (flash : ℤ → UInt8) (w_year : ℕ) (s : Temps) : Option Temps :=
  if s.temp ≥ 28 then
    if isLeapYear w_year ∧ s.temp1 = 1 then
      if s.temp ≥ 29 then some ⟨s.temp - 29, (s.temp1 + 1) % 65536⟩ else none
    else if s.temp ≥ (monTable flash s.temp1).toNat then
      some ⟨s.temp - (monTable flash s.temp1).toNat, (s.temp1 + 1) % 65536⟩
    else none
  else none

/-- `SyncTimeFromNet`, to what the registers hold after it; `none` where the fuel is not enough for its loops -/
def syncTimeFromNet (flash : ℤ → UInt8) (fuel : ℕ) (sec_num : UInt32) : Option Regs := do
  let years ← WhileLoop.run yearRound fuel ⟨sec_num.toNat / 86400, 1970⟩
  let w_year := years.temp1
  let months ← WhileLoop.run (monthRound flash w_year) fuel ⟨years.temp, 0⟩
  let w_month := UInt8.ofNat (months.temp1 + 1)
  let w_date := UInt8.ofNat (months.temp + 1)
  let temp := sec_num.toNat % 86400
  let hour := UInt8.ofNat (temp / 3600)
  let min := UInt8.ofNat (temp % 3600 / 60)
  let sec := UInt8.ofNat (temp % 3600 % 60)
  return setTime flash (UInt8.ofNat w_year - UInt8.ofNat 2000) w_month w_date hour min sec

/-! ## Years and months peeled off -/

/-- where the seconds begin -/
def epoch : Date := ⟨1970, 1, 1⟩

theorem isLeapYear_iff (y : ℕ) : isLeapYear y = true ↔ Leap y := by
  simp [isLeapYear, Leap]

theorem yearRound_eq (s : Temps) :
    yearRound s = if yearLength s.temp1 ≤ s.temp then some ⟨s.temp - yearLength s.temp1, (s.temp1 + 1) % 65536⟩
      else none := by
  have hleap := isLeapYear_iff s.temp1
  by_cases h : Leap s.temp1
  · rw [yearRound, yearLength, hleap.2 h, if_pos rfl, if_pos h]
    split_ifs with h1 h2 h2
    · rfl
    · rfl
    · omega
    · rfl
  · have hj : isLeapYear s.temp1 = false := by simpa [h] using hleap
    rw [yearRound, yearLength, hj, if_neg Bool.false_ne_true, if_neg h]

/-- the days of the years gone through and those to go -/
theorem yearRound_keeps {days : ℕ} (h : days ≤ 49710) (s t : Temps)
    (hs : s.temp + daysBeforeYear s.temp1 = days + daysBeforeYear 1970) (hst : yearRound s = some t) :
    t.temp + daysBeforeYear t.temp1 = days + daysBeforeYear 1970 ∧ t.temp < s.temp := by
  rw [yearRound_eq] at hst
  split_ifs at hst with hle
  cases hst
  have hsucc := daysBeforeYear_succ s.temp1
  have hyear := daysBeforeYear_eq s.temp1
  have h1970 := daysBeforeYear_eq 1970
  have hpos : 365 ≤ yearLength s.temp1 := by rw [yearLength]; split_ifs <;> simp
  have hmod : (s.temp1 + 1) % 65536 = s.temp1 + 1 := Nat.mod_eq_of_lt (by omega)
  simp only [hmod]
  omega

/-- the days of a `u32` of seconds leave the years in bounds -/
theorem yearLoop_ends {days : ℕ} (h : days ≤ 49710) {fuel : ℕ} (hfuel : days ≤ fuel) :
    ∃ t, WhileLoop.run yearRound fuel ⟨days, 1970⟩ = some t ∧
      t.temp + daysBeforeYear t.temp1 = days + daysBeforeYear 1970 ∧ t.temp < yearLength t.temp1 := by
  obtain ⟨t, ht, hinv, hend⟩ := WhileLoop.run_total Temps.temp (yearRound_keeps h) fuel ⟨days, 1970⟩ rfl hfuel
  refine ⟨t, ht, hinv, ?_⟩
  rw [yearRound_eq] at hend
  split_ifs at hend with hle
  exact not_le.1 hle

theorem monTable_eq (flash : ℤ → UInt8) (y : ℕ) {i : ℕ} (hi : i < 12) (h : ¬ (Leap y ∧ i = 1)) :
    (monTable flash i).toNat = monthLength y (i + 1) := by
  rw [monTable, if_pos hi, monthLength]
  interval_cases i <;> simp_all

theorem monthRound_eq (flash : ℤ → UInt8) (y : ℕ) {s : Temps} (hs : s.temp1 < 12) :
    monthRound flash y s = if monthLength y (s.temp1 + 1) ≤ s.temp
      then some ⟨s.temp - monthLength y (s.temp1 + 1), (s.temp1 + 1) % 65536⟩ else none := by
  have h28 : 28 ≤ monthLength y (s.temp1 + 1) := by
    rw [monthLength]
    split_ifs <;> omega
  by_cases h : Leap y ∧ s.temp1 = 1
  · have h29 : monthLength y (s.temp1 + 1) = 29 := by simp [monthLength, h.1, h.2]
    simp only [monthRound, isLeapYear_iff, if_pos h, h29]
    split_ifs with h1 h2 h2
    · rfl
    · rfl
    · omega
    · rfl
  · simp only [monthRound, isLeapYear_iff, if_neg h, monTable_eq flash y hs h]
    split_ifs with h1 h2 h2
    · rfl
    · rfl
    · omega
    · rfl

/-- the days of the months gone through and those to go; after December there are none to go -/
theorem monthRound_keeps (flash : ℤ → UInt8) {y days : ℕ} (h : days < yearLength y) (s t : Temps)
    (hs : s.temp1 < 12 ∧ s.temp + daysBeforeMonth y (s.temp1 + 1) = days) (hst : monthRound flash y s = some t) :
    (t.temp1 < 12 ∧ t.temp + daysBeforeMonth y (t.temp1 + 1) = days) ∧ t.temp < s.temp := by
  rw [monthRound_eq flash y hs.1] at hst
  split_ifs at hst with hle
  cases hst
  have hsucc : daysBeforeMonth y (s.temp1 + 1 + 1) = _ := daysBeforeMonth_succ y (Nat.succ_pos s.temp1)
  have hpos := monthLength_pos y (s.temp1 + 1)
  have h11 : s.temp1 ≠ 11 := by
    intro heq
    have htotal : daysBeforeMonth y (11 + 1 + 1) = yearLength y := daysBeforeMonth_thirteen y
    rw [heq] at hsucc hs hle
    omega
  have hmod : (s.temp1 + 1) % 65536 = s.temp1 + 1 := Nat.mod_eq_of_lt (by omega)
  simp only [hmod]
  omega

theorem monthLoop_ends (flash : ℤ → UInt8) {y days : ℕ} (h : days < yearLength y) {fuel : ℕ} (hfuel : days ≤ fuel) :
    ∃ t, WhileLoop.run (monthRound flash y) fuel ⟨days, 0⟩ = some t ∧
      t.temp1 < 12 ∧ t.temp + daysBeforeMonth y (t.temp1 + 1) = days ∧ t.temp < monthLength y (t.temp1 + 1) := by
  obtain ⟨t, ht, ⟨h12, hinv⟩, hend⟩ := WhileLoop.run_total Temps.temp (monthRound_keeps flash h) fuel ⟨days, 0⟩
    ⟨by simp, by simp [daysBeforeMonth_one]⟩ hfuel
  refine ⟨t, ht, h12, hinv, ?_⟩
  rw [monthRound_eq flash y h12] at hend
  split_ifs at hend with hle
  exact not_le.1 hle

/-- **The date of a day.** Both loops end, and what they leave is the date that many days after the first of 1970. -/
theorem dateLoops_end (flash : ℤ → UInt8) {days : ℕ} (h : days ≤ 49710) {fuel : ℕ} (hfuel : days ≤ fuel) :
    ∃ years months, WhileLoop.run yearRound fuel ⟨days, 1970⟩ = some years ∧
      WhileLoop.run (monthRound flash years.temp1) fuel ⟨years.temp, 0⟩ = some months ∧
      epoch.after days = ⟨years.temp1, months.temp1 + 1, months.temp + 1⟩ := by
  obtain ⟨years, hyears, hsum, hlt⟩ := yearLoop_ends h hfuel
  have h1970 : daysBeforeYear 1970 ≤ daysBeforeYear years.temp1 := by
    refine daysBeforeYear_mono ?_
    by_contra hless
    have hsucc : daysBeforeYear (years.temp1 + 1) ≤ daysBeforeYear 1970 := daysBeforeYear_mono (by omega)
    rw [daysBeforeYear_succ] at hsucc
    omega
  have hfuel' : years.temp ≤ fuel := by omega
  obtain ⟨months, hmonths, h12, hday, hle⟩ := monthLoop_ends flash hlt hfuel'
  refine ⟨years, months, hyears, hmonths, ?_⟩
  rw [after_eq_iff (by decide) ⟨by simp, by simpa using h12, by simp, by simpa using hle⟩]
  simp only [Date.ordinal, Date.dayOfYear, epoch, daysBeforeMonth_one]
  omega

/-! ## The registers -/

/-- both digits are read back -/
theorem bcdToData_dataToBcd : ∀ n < 100, bcdToData (dataToBcd (UInt8.ofNat n)) = UInt8.ofNat n := by
  set_option maxRecDepth 4000 in decide

/-- a day of the week is read back from its bit -/
theorem weekLoop_ends {w : ℕ} (hw : w < 7) {fuel : ℕ} (hfuel : 7 ≤ fuel) :
    WhileLoop.run weekRound fuel (UInt8.ofNat (1 <<< w), 0) = some (0, UInt8.ofNat w + 1) := by
  have hall : ∀ w < 7, WhileLoop.run weekRound 7 (UInt8.ofNat (1 <<< w), 0) = some (0, UInt8.ofNat w + 1) := by decide
  exact WhileLoop.run_mono (hall w hw) hfuel

/-- the table method, on the year of the century -/
theorem tableMethod {d : Date} (hd : d.Valid) {k : ℕ} (hy : d.year = 2000 + k) (hk : k < 100) :
    ((100 + k + (100 + k) / 4) % 7 + d.day + [0, 3, 3, 6, 1, 4, 6, 2, 5, 0, 3, 5].getD (d.month - 1) 0 -
        if k % 4 = 0 ∧ d.month < 3 then 1 else 0) % 7 = d.weekday := by
  have hyears : daysBeforeYear d.year = 730485 + 365 * k + (k + 3) / 4 := by
    have hcount := daysBeforeYear_eq d.year
    omega
  have hleap : Leap d.year ↔ k % 4 = 0 := by
    rw [Leap]
    omega
  have hpos := hd.day_pos
  have h1 := hd.month_pos
  have h12 := hd.month_le
  rw [Date.weekday, Date.ordinal, Date.dayOfYear, daysBeforeMonth_eq d.year h1 h12, hyears]
  simp only [hleap]
  clear hyears hleap hy hd
  generalize d.month = m at *
  generalize d.day = day at *
  rw [show (100 + k) / 4 = k / 4 + 25 by omega]
  by_cases h4 : k % 4 = 0
  · rw [show (k + 3) / 4 = k / 4 by omega]
    interval_cases m <;> simp [h4] <;> omega
  · rw [show (k + 3) / 4 = k / 4 + 1 by omega]
    interval_cases m <;> simp [h4] <;> omega

/-- the table, at the months of the calendar -/
theorem tableWeek_eq (flash : ℤ → UInt8) {m : ℕ} (h1 : 1 ≤ m) (h12 : m ≤ 12) :
    (tableWeek flash ((m : ℤ) - 1)).toNat = [0, 3, 3, 6, 1, 4, 6, 2, 5, 0, 3, 5].getD (m - 1) 0 := by
  rw [tableWeek, if_pos ⟨by omega, by omega⟩]
  interval_cases m <;> rfl

/-- what the calls of the 21st century compute -/
theorem rtcGetWeek_toNat (flash : ℤ → UInt8) {k m day : ℕ} (hk : k < 100) (hm1 : 1 ≤ m) (hm12 : m ≤ 12) (hd1 : 1 ≤ day)
    (hd31 : day ≤ 31) :
    (rtcGetWeek flash ((UInt8.ofNat k).toUInt16 + 2000) (UInt8.ofNat m) (UInt8.ofNat day)).toNat =
      ((100 + k + (100 + k) / 4) % 7 + day + [0, 3, 3, 6, 1, 4, 6, 2, 5, 0, 3, 5].getD (m - 1) 0 -
        if k % 4 = 0 ∧ m < 3 then 1 else 0) % 7 := by
  have hyear : ((UInt8.ofNat k).toUInt16 + 2000).toNat = 2000 + k := by
    simp
    omega
  have hH : (((UInt8.ofNat k).toUInt16 + 2000) / 100).toUInt8 = 20 := by
    rw [← UInt8.toNat_inj, UInt16.toNat_toUInt8, UInt16.toNat_div, hyear]
    simp
    omega
  have hL : (((UInt8.ofNat k).toUInt16 + 2000) % 100).toUInt8 + 100 = UInt8.ofNat (100 + k) := by
    rw [← UInt8.toNat_inj, UInt8.toNat_add, UInt16.toNat_toUInt8, UInt16.toNat_mod, hyear]
    simp
    omega
  have hmonth : (UInt8.ofNat m).toNat = m := by
    simp
    omega
  have hday : (UInt8.ofNat day).toNat = day := by
    simp
    omega
  have hyearL : (UInt8.ofNat (100 + k)).toNat = 100 + k := by
    simp
    omega
  have hleap : UInt8.ofNat (100 + k) % 4 = 0 ↔ k % 4 = 0 := by
    rw [← UInt8.toNat_inj, UInt8.toNat_mod, hyearL]
    simp
    omega
  have h3 : UInt8.ofNat m < 3 ↔ m < 3 := by
    rw [UInt8.lt_iff_toNat_lt, hmonth]
    rfl
  have htab := tableWeek_eq flash hm1 hm12
  have htable : [0, 3, 3, 6, 1, 4, 6, 2, 5, 0, 3, 5].getD (m - 1) 0 ≤ 6 := by
    interval_cases m <;> simp
  simp only [rtcGetWeek, hH, hL, hmonth, hleap, h3, show (20 : UInt8) > 19 from by decide, if_true]
  generalize [0, 3, 3, 6, 1, 4, 6, 2, 5, 0, 3, 5].getD (m - 1) 0 = tab at *
  have hsum : (100 + k + (100 + k) / 4) % 2 ^ 16 = 100 + k + (100 + k) / 4 := Nat.mod_eq_of_lt (by omega)
  have hbase : (100 + k + (100 + k) / 4) % 7 < 7 := Nat.mod_lt _ (by omega)
  -- the sum stays far below the width of `temp2`, and takes one off without going below zero
  split_ifs with hc
  · simp only [UInt16.toNat_toUInt8, UInt16.toNat_mod, UInt16.toNat_sub, UInt16.toNat_add, UInt8.toNat_toUInt16,
      UInt8.toNat_div, hyearL, hday, htab, hsum, UInt16.reduceToNat, UInt8.reduceToNat]
    generalize (100 + k + (100 + k) / 4) % 7 = base at *
    rw [Nat.mod_eq_of_lt (a := base + day) (by omega), Nat.mod_eq_of_lt (a := base + day + tab) (by omega),
      show 2 ^ 16 - 1 + (base + day + tab) = base + day + tab - 1 + 2 ^ 16 by omega, Nat.add_mod_right,
      Nat.mod_eq_of_lt (a := base + day + tab - 1) (by omega)]
    omega
  · simp only [UInt16.toNat_toUInt8, UInt16.toNat_mod, UInt16.toNat_add, UInt8.toNat_toUInt16, UInt8.toNat_div, hyearL,
      hday, htab, hsum, UInt16.reduceToNat, UInt8.reduceToNat]
    generalize (100 + k + (100 + k) / 4) % 7 = base at *
    rw [Nat.mod_eq_of_lt (a := base + day) (by omega), Nat.mod_eq_of_lt (a := base + day + tab) (by omega)]
    omega

/-- the day of the week, as a bit -/
theorem week_eq (flash : ℤ → UInt8) {d : Date} (hd : d.Valid) {k : ℕ} (hy : d.year = 2000 + k) (hk : k < 100) :
    (rtcGetWeek flash ((UInt8.ofNat k).toUInt16 + 2000) (UInt8.ofNat d.month) (UInt8.ofNat d.day)).toNat = d.weekday := by
  have h31 : d.day ≤ 31 := by
    have hle := hd.day_le
    rw [monthLength] at hle
    split_ifs at hle <;> omega
  rw [rtcGetWeek_toNat flash hk hd.month_pos hd.month_le hd.day_pos h31]
  exact tableMethod hd hy hk

/-! ## The calendar after a synchronisation -/

/-- the date of a second -/
def dateOf (sec_num : UInt32) : Date := epoch.after (sec_num.toNat / 86400)

/-- the calendar at a second of a day -/
def calendarAt (d : Date) (second : ℕ) : CalendarObj :=
  { hour := UInt8.ofNat (second / 3600)
    min := UInt8.ofNat (second / 60 % 60)
    sec := UInt8.ofNat (second % 60)
    w_year := UInt16.ofNat d.year
    w_month := UInt8.ofNat d.month
    w_date := UInt8.ofNat d.day
    week := UInt8.ofNat d.weekday }

/-- what is written in the registers is read back -/
theorem getTime_setTime (flash : ℤ → UInt8) {d : Date} (hd : d.Valid) (h2000 : 2000 ≤ d.year) (h2099 : d.year ≤ 2099)
    {second : ℕ} (hs : second < 86400) {fuel : ℕ} (hfuel : 7 ≤ fuel) :
    getTime fuel (setTime flash (UInt8.ofNat d.year - UInt8.ofNat 2000) (UInt8.ofNat d.month) (UInt8.ofNat d.day)
      (UInt8.ofNat (second / 3600)) (UInt8.ofNat (second % 3600 / 60)) (UInt8.ofNat (second % 3600 % 60))) =
    some (calendarAt d second) := by
  obtain ⟨k, hy⟩ : ∃ k, d.year = 2000 + k := ⟨d.year - 2000, by omega⟩
  have hyear : UInt8.ofNat d.year - UInt8.ofNat 2000 = UInt8.ofNat k := by
    rw [hy, UInt8.ofNat_add, UInt8.add_comm]
    exact UInt8.add_sub_cancel _ _
  have h31 : d.day ≤ 31 := by
    have hle := hd.day_le
    rw [monthLength] at hle
    split_ifs at hle <;> omega
  have hm12 := hd.month_le
  have hweek : d.weekday < 7 := Nat.mod_lt _ (by omega)
  have hbit : ∀ w < 7, (UInt8.ofNat (1 <<< w) : UInt8) ≠ 0x80 := by decide
  have hw_year : (UInt8.ofNat k).toUInt16 + 2000 = UInt16.ofNat d.year := by
    rw [← UInt16.toNat_inj, hy]
    simp
    omega
  have hmin : second % 3600 / 60 = second / 60 % 60 := by omega
  have hsec : second % 3600 % 60 = second % 60 := by omega
  simp only [setTime, getTime, hyear, week_eq flash hd hy (by omega : k < 100), hbit _ hweek, if_false]
  rw [weekLoop_ends hweek hfuel, hmin, hsec]
  simp only [Option.map_some, calendarAt, bcdToData_dataToBcd k (by omega), bcdToData_dataToBcd d.month (by omega),
    bcdToData_dataToBcd d.day (by omega), bcdToData_dataToBcd (second / 3600) (by omega),
    bcdToData_dataToBcd (second / 60 % 60) (by omega), bcdToData_dataToBcd (second % 60) (by omega), hw_year]
  simp

/-- **Network time.** The loops end, and the calendar reads the date, the time and the day of the week of the second. -/
theorem sync_reads_back (flash : ℤ → UInt8) (sec_num : UInt32) (h2000 : 2000 ≤ (dateOf sec_num).year)
    (h2099 : (dateOf sec_num).year ≤ 2099) :
    ∃ enough, ∀ fuel ≥ enough, (syncTimeFromNet flash fuel sec_num).bind (getTime fuel) =
      some (calendarAt (dateOf sec_num) (sec_num.toNat % 86400)) := by
  refine ⟨49710, fun fuel hfuel => ?_⟩
  have hdays : sec_num.toNat / 86400 ≤ 49710 := by
    have hlt := sec_num.toNat_lt
    omega
  have hdaysFuel : sec_num.toNat / 86400 ≤ fuel := by omega
  obtain ⟨years, months, hyears, hmonths, hdate⟩ := dateLoops_end flash hdays hdaysFuel
  have hvalid : (dateOf sec_num).Valid := Date.Valid.after (by decide) _
  have hseven : 7 ≤ fuel := by omega
  have hset := getTime_setTime flash hvalid h2000 h2099 (Nat.mod_lt sec_num.toNat (show 86400 > 0 by omega)) hseven
  rw [show (dateOf sec_num) = _ from hdate] at hset ⊢
  simp only [syncTimeFromNet, hyears, hmonths, Option.bind_eq_bind, Option.bind_some, Option.pure_def]
  exact hset

theorem dateOf_leapDay : dateOf 1709251199 = ⟨2024, 2, 29⟩ := by
  refine (after_eq_iff (by decide) (by decide) _).2 ?_
  have h1970 := daysBeforeYear_eq 1970
  have h2024 := daysBeforeYear_eq 2024
  have hmonth : daysBeforeMonth 2024 2 = 31 := by decide
  simp only [Date.ordinal, Date.dayOfYear, epoch, daysBeforeMonth_one, hmonth, UInt32.reduceToNat]
  omega

/-- the last second of a 29th of February -/
theorem sync_reads_back_2024 : ∃ enough, ∀ fuel ≥ enough,
    (syncTimeFromNet (fun _ => 0) fuel 1709251199).bind (getTime fuel) =
      some (calendarAt ⟨2024, 2, 29⟩ (23 * 3600 + 59 * 60 + 59)) := by
  have h := sync_reads_back (fun _ => 0) 1709251199 (by rw [dateOf_leapDay]; decide) (by rw [dateOf_leapDay]; decide)
  rw [dateOf_leapDay] at h
  exact h

end DataConcentrator.Clock
