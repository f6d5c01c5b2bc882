/-
The table of the year by which chronology strategies go: `RefreshRelayStrategyActionTime` looks up what
`SetLocationConfiguration` stored.

The setter counts months and days from 0, the lookups use those of the clock, which start at 1.
- `storeDay_entry`: a day of a month parameter is stored at `[type - 0x4003][k]` and nowhere else;
- `chronology_iff`: the lookups give what is stored for today exactly when they stay in the table and the entry of the
  day after in the month after bears the same times.
-/
import DataConcentrator.Concentrator.Location
import DataConcentrator.Relay.ActionTime

namespace DataConcentrator.Relay

open Concentrator (SwitchTable monthOf storeDay)

/-! ## What is stored -/

theorem change_entry {table table' : SwitchTable} {month date : ℕ} {f : SwitchTime → SwitchTime}
    (h : table.change month date f = some table') (m d : ℕ) :
    table'.entry m d = if m = month ∧ d = date then (table.entry month date).map f else table.entry m d := by
  obtain ⟨time, hentry, rfl⟩ := Option.map_eq_some_iff.1 h
  rw [SwitchTable.entry]
  split_ifs with hin hat hat
  · rw [hentry, Option.map_some]
  · rw [SwitchTable.entry, dif_pos hin]
  · obtain ⟨rfl, rfl⟩ := hat
    rw [SwitchTable.entry, dif_neg hin, Option.map_none]
  · rw [SwitchTable.entry, dif_neg hin]

/-- **Where a day goes.** The other entries stay. -/
theorem storeDay_entry {month k : ℕ} {value : List UInt8} {table table' : SwitchTable}
    (h : storeDay month value table k = some table') {m d : ℕ} (hother : ¬ (m = month ∧ d = k)) :
    table'.entry m d = table.entry m d := by
  simp only [storeDay, Option.bind_eq_bind, Option.bind_eq_some_iff] at h
  obtain ⟨⟨tmp, msg⟩, -, between, hon, ⟨tmp', msg'⟩, -, hoff⟩ := h
  rw [change_entry hoff, if_neg hother, change_entry hon, if_neg hother]

/-- the entry `SetLocationConfiguration` stores for a month and a day of it: entry `date - 1` of parameter
`0x4003 + month - 1` -/
def storedEntry (table : SwitchTable) (month date : ℕ) : Option SwitchTime :=
  table.entry (monthOf (UInt16.ofNat (0x4003 + month - 1))) (date - 1)

/-- the months of a year and their days -/
def IsDate (month date : ℕ) : Prop := 1 ≤ month ∧ month ≤ 12 ∧ 1 ≤ date ∧ date ≤ 31

/-- each day of the year has its entry -/
theorem storedEntry_eq (table : SwitchTable) {month date : ℕ} (h : IsDate month date) :
    storedEntry table month date = table.entry (month - 1) (date - 1) := by
  have hmonth : monthOf (UInt16.ofNat (0x4003 + month - 1)) = month - 1 := by
    have hall : ∀ m < 13, 1 ≤ m → monthOf (UInt16.ofNat (0x4003 + m - 1)) = m - 1 := by decide
    exact hall month (by have := h.2.1; omega) h.1
  rw [storedEntry, hmonth]

/-! ## What is looked up -/

/-- the lookups by month and date read the memory of the table -/
def Env.Reads (env : Env) (table : SwitchTable) : Prop :=
  ∀ month date time, table.entry month.toNat date.toNat = some time → env.switchTime month date = time

/-- the types that go by the table, with an option that has a branch -/
def Strategy.Chronology (strategy : Strategy) : Prop :=
  (strategy.type = 5 ∨ strategy.type = 6) ∧ (strategy.time_option = 1 ∨ strategy.time_option = 2)

/-- an environment whose table holds one entry for every day -/
def Env.always (env : Env) (time : SwitchTime) : Env := { env with switchTime := fun _ _ => time }

/-- the lookup for today stays in the table, and every strategy that goes by the table gets the time that was stored
for today -/
def UsesToday (env : Env) (table : SwitchTable) : Prop :=
  (table.entry env.calendar.w_month.toNat env.calendar.w_date.toNat).isSome ∧
    ∃ time, storedEntry table env.calendar.w_month.toNat env.calendar.w_date.toNat = some time ∧
      ∀ strategy : Strategy, strategy.Chronology →
        (refreshRelayStrategyActionTime env strategy).action_time =
          (refreshRelayStrategyActionTime (env.always time) strategy).action_time

/-- two entries with the same times -/
def SameTimes (s t : SwitchTime) : Prop := s.on = t.on ∧ s.off = t.off

/-- a chronology strategy looks at the times of today's entry only -/
theorem refresh_sameTimes {env env' : Env} (hcalendar : env'.calendar = env.calendar) (hlumeter : env'.lumeter = env.lumeter)
    (hlight : env'.illuminance_value = env.illuminance_value) (htimes : SameTimes env'.today env.today)
    {strategy : Strategy} (hs : strategy.Chronology) :
    (refreshRelayStrategyActionTime env' strategy).action_time =
      (refreshRelayStrategyActionTime env strategy).action_time := by
  have hhandled : strategy.Handled := by
    obtain ⟨htype, hoption⟩ := hs
    exact .inr (.inr ⟨.inr (.inr htype), hoption⟩)
  have hstart : startMinute env' strategy = startMinute env strategy := by
    obtain ⟨hon, hoff⟩ := htimes
    obtain ⟨htype, -⟩ := hs
    unfold startMinute
    rw [hon, hoff]
    rcases htype with htype | htype <;> simp [htype]
  have hsunset : ∀ t, sunsetLight env' t = sunsetLight env t := fun t => by
    rw [sunsetLight, sunsetLight, hcalendar, hlumeter, hlight]
  have hsunrise : ∀ t, sunriseLight env' t = sunriseLight env t := fun t => by
    rw [sunriseLight, sunriseLight, hcalendar, hlumeter, hlight]
  rw [refresh_time env' strategy hhandled, refresh_time env strategy hhandled, hstart]
  simp only [hsunset, hsunrise]

/-- a strategy without an offset and without the light shows the times themselves -/
def plainStrategy (time_option : UInt8) : Strategy := { Strategy.zero with type := 5, time_option := time_option }

theorem plainStrategy_time (env : Env) :
    ((refreshRelayStrategyActionTime env (plainStrategy 1)).action_time : ℤ) = env.today.off ∧
      ((refreshRelayStrategyActionTime env (plainStrategy 2)).action_time : ℤ) = env.today.on := by
  have hword : ∀ h m : UInt8, (minuteAt h m 0 : ℤ) = h.toNat * 60 + m.toNat := by
    intro h m
    have hh := h.toNat_lt
    have hm := m.toNat_lt
    unfold minuteAt toUnsigned
    omega
  exact ⟨hword _ _, hword _ _⟩

/-- **The lookups.** They use what is stored for today exactly up to November and the 30th, and there where the entry
they read, of the next day in the next month, has the same times. -/
theorem chronology_iff {env : Env} {table : SwitchTable} (hreads : env.Reads table)
    (hdate : IsDate env.calendar.w_month.toNat env.calendar.w_date.toNat) :
    UsesToday env table ↔ env.calendar.w_month.toNat ≤ 11 ∧ env.calendar.w_date.toNat ≤ 30 ∧
      ∃ read stored, table.entry env.calendar.w_month.toNat env.calendar.w_date.toNat = some read ∧
        table.entry (env.calendar.w_month.toNat - 1) (env.calendar.w_date.toNat - 1) = some stored ∧
        SameTimes stored read := by
  rw [UsesToday, storedEntry_eq table hdate]
  constructor
  · rintro ⟨hread, stored, hstored, huses⟩
    obtain ⟨read, hread⟩ := Option.isSome_iff_exists.1 hread
    have hin : env.calendar.w_month.toNat < 12 ∧ env.calendar.w_date.toNat < 31 := by
      by_contra hout
      rw [SwitchTable.entry, dif_neg hout] at hread
      cases hread
    have htoday : env.today = read := hreads _ _ read hread
    have hoff := huses (plainStrategy 1) ⟨.inl rfl, .inl rfl⟩
    have hon := huses (plainStrategy 2) ⟨.inl rfl, .inr rfl⟩
    refine ⟨by omega, by omega, read, stored, hread, hstored, ?_, ?_⟩
    · have htimes := (plainStrategy_time (env.always stored)).2.symm.trans
        ((congrArg Nat.cast hon.symm).trans (plainStrategy_time env).2)
      rwa [htoday] at htimes
    · have htimes := (plainStrategy_time (env.always stored)).1.symm.trans
        ((congrArg Nat.cast hoff.symm).trans (plainStrategy_time env).1)
      rwa [htoday] at htimes
  · rintro ⟨-, -, read, stored, hread, hstored, hsame⟩
    refine ⟨by rw [hread]; rfl, stored, hstored, fun strategy hs => ?_⟩
    have htoday : env.today = read := hreads _ _ read hread
    have htimes : SameTimes (env.always stored).today env.today := by
      rw [htoday]
      exact hsame
    exact (@refresh_sameTimes env (env.always stored) rfl rfl rfl htimes strategy hs).symm

/-! ## The first of January -/

/-- on at 18:00 and off at 6:00, an hour later and earlier from February on -/
def winterTable : SwitchTable := fun month _ => if month = 0 then ⟨17, 0, 7, 0⟩ else ⟨18, 0, 6, 0⟩

/-- a day of the year under `winterTable` -/
def winterEnv (month date : UInt8) : Env :=
  { duskEnv with
    calendar := { duskEnv.calendar with w_month := month, w_date := date }
    switchTime := fun month date => (winterTable.entry month.toNat date.toNat).getD ⟨0, 0, 0, 0⟩ }

theorem winterEnv_reads (month date : UInt8) : (winterEnv month date).Reads winterTable := by
  intro m d time h
  change (winterTable.entry m.toNat d.toNat).getD _ = time
  rw [h]
  rfl

/-- in February the entry of March does -/
theorem chronology_february : UsesToday (winterEnv 2 1) winterTable ↔
    (2 : UInt8).toNat ≤ 11 ∧ (1 : UInt8).toNat ≤ 30 ∧ ∃ read stored, winterTable.entry 2 1 = some read ∧
      winterTable.entry (2 - 1) (1 - 1) = some stored ∧ SameTimes stored read :=
  chronology_iff (winterEnv_reads 2 1) (by unfold IsDate; decide)

/-- on the first of January the lights go by February, on the 31st of December by what follows the table -/
theorem chronology_misses :
    (IsDate 1 1 ∧ ¬ UsesToday (winterEnv 1 1) winterTable) ∧ IsDate 12 31 ∧ ¬ UsesToday (winterEnv 12 31) winterTable := by
  refine ⟨⟨by unfold IsDate; decide, fun h => ?_⟩, by unfold IsDate; decide, fun h => ?_⟩
  · obtain ⟨-, time, htime, huses⟩ := h
    have hoff := huses (plainStrategy 1) ⟨.inl rfl, .inl rfl⟩
    have hstored : time = ⟨17, 0, 7, 0⟩ := (Option.some.inj htime).symm
    rw [hstored] at hoff
    exact absurd hoff (by decide)
  · exact absurd h.1 (by decide)

end DataConcentrator.Relay
