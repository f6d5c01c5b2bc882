/-
The calendar of the real time clock.

- `getMinutesByCalendar`: the minutes since the start of a leap year;
- `minutes_pos`: a date of the calendar is never before minute 1440, its first day's.
-/
import Mathlib.Tactic

namespace DataConcentrator

/-- `calendar`; `week` is 0 on a Sunday -/
structure Calendar where
  w_month : UInt8
  w_date : UInt8
  hour : UInt8
  min : UInt8
  week : UInt8
deriving DecidableEq, Repr

/-- the values the clock can show -/
structure Calendar.Valid (c : Calendar) : Prop where
  month_pos : 1 ≤ c.w_month.toNat
  month_le : c.w_month.toNat ≤ 12
  date_pos : 1 ≤ c.w_date.toNat
  date_le : c.w_date.toNat ≤ 31
  hour_lt : c.hour.toNat < 24
  min_lt : c.min.toNat < 60
  week_lt : c.week.toNat < 7

/-- `calendar.hour * 60 + calendar.min` -/
def Calendar.minuteOfDay (c : Calendar) : ℕ := c.hour.toNat * 60 + c.min.toNat

/-- the table of `get_minutes_by_calendar`, with what lies after it on the stack -/
def monthDays (stack : ℕ → UInt8) (i : ℕ) : UInt8 :=
  if i < 13 then ([0, 31, 29, 31, 30, 31, 30, 31, 31, 30, 31, 30, 31] : List UInt8).getD i 0 else stack i

def getMinutesByCalendar (stack : ℕ → UInt8) (month date hour minute : UInt8) : ℕ :=
  let days := (List.range' 1 (month.toNat - 1)).foldl
    (fun days i => (days + (monthDays stack i).toNat) % 65536) 0
  let days := (days + date.toNat) % 65536
  1440 * days + hour.toNat * 60 + minute.toNat

/-- the days before a month of the calendar -/
theorem days_before (stack : ℕ → UInt8) : ∀ month : ℕ, month ≤ 12 →
    (List.range' 1 (month - 1)).foldl (fun days i => (days + (monthDays stack i).toNat) % 65536) 0 ≤ 335 := by
  intro month h
  interval_cases month <;> simp [monthDays, List.range']

theorem minutes_pos (stack : ℕ → UInt8) {c : Calendar} (hc : c.Valid) :
    1440 ≤ getMinutesByCalendar stack c.w_month c.w_date c.hour c.min := by
  have hdays := days_before stack c.w_month.toNat hc.month_le
  have h1 := hc.date_pos
  have h31 := hc.date_le
  rw [getMinutesByCalendar]
  omega

end DataConcentrator
