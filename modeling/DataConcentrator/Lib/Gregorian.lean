/-
The Gregorian calendar, also for the years before it was in use.

- `Date.next`, `Date.after`: the calendar day by day;
- `ordinal_after`: the number of a date grows by one with each day;
- `ordinal_inj`: no two dates have one number, so that days are counted by numbers (`after_eq_iff`, `daysBetween_iff`);
- `daysBeforeYear_eq`: the days of all years before one, in closed form;
- `weekday`, 0 on a Sunday.
-/
import Mathlib.Tactic

namespace Gregorian

/-! ## Years and months -/

def Leap (y : ℕ) : Prop := y % 4 = 0 ∧ y % 100 ≠ 0 ∨ y % 400 = 0

instance decidableLeap (y : ℕ) : Decidable (Leap y) := inferInstanceAs (Decidable (_ ∨ _))

def yearLength (y : ℕ) : ℕ := if Leap y then 366 else 365

theorem yearLength_cases (y : ℕ) : yearLength y = 365 ∨ yearLength y = 366 := by
  rw [yearLength]
  split_ifs
  · exact Or.inr rfl
  · exact Or.inl rfl

def monthLength (y m : ℕ) : ℕ :=
  if m = 2 then if Leap y then 29 else 28 else if m = 4 ∨ m = 6 ∨ m = 9 ∨ m = 11 then 30 else 31

/-- the days of the years before `y`, from year 0 on -/
def daysBeforeYear (y : ℕ) : ℕ := ∑ k ∈ Finset.range y, yearLength k

/-- the days of the months before `m` in the year `y` -/
def daysBeforeMonth (y m : ℕ) : ℕ := ∑ k ∈ Finset.Ico 1 m, monthLength y k

theorem daysBeforeYear_succ (y : ℕ) : daysBeforeYear (y + 1) = daysBeforeYear y + yearLength y :=
  Finset.sum_range_succ _ _

theorem daysBeforeMonth_one (y : ℕ) : daysBeforeMonth y 1 = 0 := rfl

theorem daysBeforeMonth_succ (y : ℕ) {m : ℕ} (h : 1 ≤ m) :
    daysBeforeMonth y (m + 1) = daysBeforeMonth y m + monthLength y m := Finset.sum_Ico_succ_top h _

theorem daysBeforeYear_mono {y z : ℕ} (h : y ≤ z) : daysBeforeYear y ≤ daysBeforeYear z :=
  Finset.sum_le_sum_of_subset (Finset.range_mono h)

theorem daysBeforeMonth_mono (y : ℕ) {m n : ℕ} (h : m ≤ n) : daysBeforeMonth y m ≤ daysBeforeMonth y n :=
  Finset.sum_le_sum_of_subset (Finset.Ico_subset_Ico_right h)

/-- the twelve months make the year -/
theorem daysBeforeMonth_thirteen (y : ℕ) : daysBeforeMonth y 13 = yearLength y := by
  by_cases h : Leap y
  · simp [daysBeforeMonth, Finset.sum_Ico_eq_sum_range, Finset.sum_range_succ, monthLength, yearLength, h]
  · simp [daysBeforeMonth, Finset.sum_Ico_eq_sum_range, Finset.sum_range_succ, monthLength, yearLength, h]

/-- the days before a month: those of a common year, and the 29th of February -/
theorem daysBeforeMonth_eq (y : ℕ) {m : ℕ} (h1 : 1 ≤ m) (h12 : m ≤ 12) :
    daysBeforeMonth y m = [0, 31, 59, 90, 120, 151, 181, 212, 243, 273, 304, 334].getD (m - 1) 0 +
      if Leap y ∧ 2 < m then 1 else 0 := by
  by_cases h : Leap y
  · interval_cases m <;>
      simp [daysBeforeMonth, Finset.sum_Ico_eq_sum_range, Finset.sum_range_succ, monthLength, h]
  · interval_cases m <;>
      simp [daysBeforeMonth, Finset.sum_Ico_eq_sum_range, Finset.sum_range_succ, monthLength, h]

/-- leap years are counted by the multiples of 4, 100 and 400 -/
theorem daysBeforeYear_eq (y : ℕ) : daysBeforeYear y + (y + 99) / 100 = 365 * y + (y + 3) / 4 + (y + 399) / 400 := by
  induction y with
  | zero => rfl
  | succ y ih =>
    have h4 : (y + 1 + 3) / 4 = (y + 3) / 4 + if y % 4 = 0 then 1 else 0 := by split_ifs <;> omega
    have h100 : (y + 1 + 99) / 100 = (y + 99) / 100 + if y % 100 = 0 then 1 else 0 := by split_ifs <;> omega
    have h400 : (y + 1 + 399) / 400 = (y + 399) / 400 + if y % 400 = 0 then 1 else 0 := by split_ifs <;> omega
    have hinner : y % 400 = 0 → y % 100 = 0 := fun h => by omega
    have houter : y % 100 = 0 → y % 4 = 0 := fun h => by omega
    rw [daysBeforeYear_succ, yearLength, h4, h100, h400]
    by_cases h : Leap y
    · rw [if_pos h]
      rcases h with ⟨hfour, hnot⟩ | hlong
      · rw [if_pos hfour, if_neg hnot, if_neg (mt hinner hnot)]
        omega
      · rw [if_pos (houter (hinner hlong)), if_pos (hinner hlong), if_pos hlong]
        omega
    · rw [if_neg h]
      obtain ⟨hcommon, hshort⟩ := not_or.1 h
      rw [if_neg hshort]
      by_cases hfour : y % 4 = 0
      · rw [if_pos hfour, if_pos (not_not.1 fun hnot => hcommon ⟨hfour, hnot⟩)]
        omega
      · rw [if_neg hfour, if_neg (mt houter hfour)]
        omega

/-! ## Dates -/

structure Date where
  year : ℕ
  month : ℕ
  day : ℕ
deriving DecidableEq, Repr

structure Date.Valid (d : Date) : Prop where
  month_pos : 1 ≤ d.month
  month_le : d.month ≤ 12
  day_pos : 1 ≤ d.day
  day_le : d.day ≤ monthLength d.year d.month

instance Date.decidableValid (d : Date) : Decidable d.Valid :=
  decidable_of_iff ((1 ≤ d.month ∧ d.month ≤ 12) ∧ 1 ≤ d.day ∧ d.day ≤ monthLength d.year d.month)
    ⟨fun h => ⟨h.1.1, h.1.2, h.2.1, h.2.2⟩, fun h => ⟨⟨h.month_pos, h.month_le⟩, h.day_pos, h.day_le⟩⟩

/-- the day after -/
def Date.next (d : Date) : Date :=
  if d.day < monthLength d.year d.month then ⟨d.year, d.month, d.day + 1⟩
  else if d.month < 12 then ⟨d.year, d.month + 1, 1⟩
  else ⟨d.year + 1, 1, 1⟩

/-- the date `n` days later -/
def Date.after (d : Date) (n : ℕ) : Date := Date.next^[n] d

def Date.dayOfYear (d : Date) : ℕ := daysBeforeMonth d.year d.month + d.day

/-- the number of the date, counted from year 0 on -/
def Date.ordinal (d : Date) : ℕ := daysBeforeYear d.year + d.dayOfYear

/-- 0 on a Sunday, 6 on a Saturday -/
def Date.weekday (d : Date) : ℕ := (d.ordinal + 5) % 7

theorem monthLength_pos (y m : ℕ) : 1 ≤ monthLength y m := by
  rw [monthLength]
  split_ifs <;> omega

theorem Date.Valid.next {d : Date} (h : d.Valid) : d.next.Valid := by
  rw [Date.next]
  split_ifs with hday hmonth
  · exact ⟨h.month_pos, h.month_le, by simp, hday⟩
  · exact ⟨by simp, hmonth, le_rfl, monthLength_pos _ _⟩
  · exact ⟨le_rfl, by simp, le_rfl, monthLength_pos _ _⟩

theorem ordinal_next {d : Date} (h : d.Valid) : d.next.ordinal = d.ordinal + 1 := by
  have hmonths := daysBeforeMonth_succ d.year h.month_pos
  have hday := h.day_le
  rw [Date.next]
  split_ifs with hd hm
  · rfl
  · simp only [Date.ordinal, Date.dayOfYear]
    omega
  · have h12 : d.month = 12 := le_antisymm h.month_le (not_lt.1 hm)
    have hyear := daysBeforeYear_succ d.year
    have htotal : daysBeforeMonth d.year (12 + 1) = yearLength d.year := daysBeforeMonth_thirteen d.year
    rw [h12] at hmonths hday hd
    simp only [Date.ordinal, Date.dayOfYear, daysBeforeMonth_one, h12]
    omega

theorem Date.after_succ (d : Date) (n : ℕ) : d.after (n + 1) = (d.after n).next := Function.iterate_succ_apply' _ _ _

theorem Date.Valid.after {d : Date} (h : d.Valid) (n : ℕ) : (d.after n).Valid := by
  induction n with
  | zero => exact h
  | succ n ih => rw [Date.after_succ]; exact ih.next

/-- each day counts one -/
theorem ordinal_after {d : Date} (h : d.Valid) (n : ℕ) : (d.after n).ordinal = d.ordinal + n := by
  induction n with
  | zero => rfl
  | succ n ih => rw [Date.after_succ, ordinal_next (h.after n), ih, add_assoc]

/-! ## Numbers of dates -/

theorem Date.Valid.dayOfYear_pos {d : Date} (h : d.Valid) : 1 ≤ d.dayOfYear := le_add_left h.day_pos

theorem Date.Valid.dayOfYear_le {d : Date} (h : d.Valid) : d.dayOfYear ≤ yearLength d.year := by
  have hmonth := daysBeforeMonth_succ d.year h.month_pos
  have hle : daysBeforeMonth d.year (d.month + 1) ≤ daysBeforeMonth d.year 13 :=
    daysBeforeMonth_mono d.year (Nat.succ_le_succ h.month_le)
  have hday := h.day_le
  rw [daysBeforeMonth_thirteen] at hle
  rw [Date.dayOfYear]
  omega

theorem year_le_of_ordinal {a b : Date} (ha : a.Valid) (hb : b.Valid) (h : a.ordinal ≤ b.ordinal) : a.year ≤ b.year := by
  by_contra hlt
  have hyears : daysBeforeYear (b.year + 1) ≤ daysBeforeYear a.year := daysBeforeYear_mono (by omega)
  have hday := hb.dayOfYear_le
  have hpos := ha.dayOfYear_pos
  rw [daysBeforeYear_succ] at hyears
  simp only [Date.ordinal] at h
  omega

theorem month_le_of_dayOfYear {a b : Date} (ha : a.Valid) (hb : b.Valid) (hy : a.year = b.year)
    (h : a.dayOfYear ≤ b.dayOfYear) : a.month ≤ b.month := by
  by_contra hlt
  have hmonths : daysBeforeMonth b.year (b.month + 1) ≤ daysBeforeMonth b.year a.month :=
    daysBeforeMonth_mono b.year (by omega)
  have hday := hb.day_le
  have hpos := ha.day_pos
  rw [daysBeforeMonth_succ b.year hb.month_pos] at hmonths
  rw [Date.dayOfYear, Date.dayOfYear, hy] at h
  omega

/-- a date has its number alone -/
theorem ordinal_inj {a b : Date} (ha : a.Valid) (hb : b.Valid) (h : a.ordinal = b.ordinal) : a = b := by
  have hy : a.year = b.year := le_antisymm (year_le_of_ordinal ha hb h.le) (year_le_of_ordinal hb ha h.ge)
  have hd : a.dayOfYear = b.dayOfYear := by
    rw [Date.ordinal, Date.ordinal, hy] at h
    omega
  have hm : a.month = b.month :=
    le_antisymm (month_le_of_dayOfYear ha hb hy hd.le) (month_le_of_dayOfYear hb ha hy.symm hd.ge)
  rw [Date.dayOfYear, Date.dayOfYear, hy, hm] at hd
  cases a
  cases b
  simp only [Date.mk.injEq]
  exact ⟨hy, hm, by simpa using hd⟩

/-- **Days between dates.** They are told by the numbers of the dates. -/
theorem after_eq_iff {a b : Date} (ha : a.Valid) (hb : b.Valid) (n : ℕ) :
    a.after n = b ↔ b.ordinal = a.ordinal + n := by
  rw [← ordinal_after ha]
  exact ⟨fun h => h ▸ rfl, fun h => ordinal_inj (ha.after n) hb h.symm⟩

/-- `b` is `k` days after `a`; before it where `k` is negative -/
def DaysBetween (a b : Date) (k : ℤ) : Prop :=
  (∃ n : ℕ, k = n ∧ a.after n = b) ∨ (∃ n : ℕ, k = -n ∧ b.after n = a)

theorem daysBetween_iff {a b : Date} (ha : a.Valid) (hb : b.Valid) (k : ℤ) :
    DaysBetween a b k ↔ k = (b.ordinal : ℤ) - a.ordinal := by
  simp only [DaysBetween, after_eq_iff ha hb, after_eq_iff hb ha]
  constructor
  · rintro (⟨n, rfl, hn⟩ | ⟨n, rfl, hn⟩) <;> omega
  · intro hk
    rcases le_total a.ordinal b.ordinal with hle | hle
    · exact Or.inl ⟨b.ordinal - a.ordinal, by omega, by omega⟩
    · exact Or.inr ⟨a.ordinal - b.ordinal, by omega, by omega⟩

-- the first day of 1970 was a Thursday
example : Date.weekday ⟨1970, 1, 1⟩ = 4 := by
  have h := daysBeforeYear_eq 1970
  simp only [Date.weekday, Date.ordinal, Date.dayOfYear, daysBeforeMonth_one]
  omega

end Gregorian
