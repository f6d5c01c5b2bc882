/-
The action times of relay strategies against the minutes of a day.

- `intendedMinute`: the minute a strategy asks for, in the integers: the sun, the table of the year or midnight, the
  offset, and the advance or the delay by the light;
- `light_inDay_iff`: what the subtraction of an advance and the test of a delay make of a minute kept in a `u16`;
- `refresh_inDay_iff`: the action time is a minute of the day, and the intended one modulo a day, exactly when the
  intended minute before any delay lies in the day itself. Nothing brings a minute before midnight or after it back.
-/
import DataConcentrator.Relay.Strategy

namespace DataConcentrator.Relay

/-! ## What a strategy asks for -/

def SwitchTime.on (s : SwitchTime) : ℤ := s.on_hour.toNat * 60 + s.on_minute.toNat

def SwitchTime.off (s : SwitchTime) : ℤ := s.off_hour.toNat * 60 + s.off_minute.toNat

def SunRiseSetTime.rise (s : SunRiseSetTime) : ℤ := s.rise_h.toNat * 60 + s.rise_m.toNat

def SunRiseSetTime.set (s : SunRiseSetTime) : ℤ := s.set_h.toNat * 60 + s.set_m.toNat

/-- an offset as the parser stores it, in an `s16` -/
def Strategy.Parsed (strategy : Strategy) : Prop := -32768 ≤ strategy.offset_min ∧ strategy.offset_min < 32768

/-- the types and options `RefreshRelayStrategyActionTime` has a branch for -/
def Strategy.Handled (strategy : Strategy) : Prop :=
  strategy.type = 1 ∨ strategy.type = 2 ∨
    ((strategy.type = 3 ∨ strategy.type = 4 ∨ strategy.type = 5 ∨ strategy.type = 6) ∧
      (strategy.time_option = 1 ∨ strategy.time_option = 2))

/-- the types that look at the light -/
def Strategy.ByLight (strategy : Strategy) : Prop := strategy.type = 2 ∨ strategy.type = 4 ∨ strategy.type = 6

instance decidableByLight (strategy : Strategy) : Decidable strategy.ByLight := inferInstanceAs (Decidable (_ ∨ _))

/-- times of the sun and of the table of the year, and a clock, that show a minute of the day -/
structure Env.Valid (env : Env) : Prop where
  calendar : env.calendar.Valid
  rise : env.sun.rise < 1440
  set : env.sun.set < 1440
  on : env.today.on < 1440
  off : env.today.off < 1440

section Intended

variable (env : Env) (strategy : Strategy)

/-- the minute the offset counts from -/
def startMinute : ℤ :=
  if strategy.type = 1 ∨ strategy.type = 2 then 0
  else if strategy.type = 3 ∨ strategy.type = 4 then
    if strategy.time_option = 1 then env.sun.set else env.sun.rise
  else if strategy.time_option = 1 then env.today.off else env.today.on

/-- the minutes by which the lights go on or off earlier: dark before the time to turn on, bright before the other -/
def advance : ℕ :=
  if strategy.ByLight then
    if strategy.time_option = 1 ∧ env.illuminance_value ≤ env.lumeter.light_on_thre then
      env.lumeter.light_on_advance_time.toNat
    else if strategy.time_option = 2 ∧ env.illuminance_value ≥ env.lumeter.light_off_thre then
      env.lumeter.light_off_advance_time.toNat
    else 0
  else 0

/-- the minutes by which they go on or off later than `t`: not yet dark or bright, and the delayed minute has come -/
def delay (t : ℤ) : ℕ :=
  if strategy.ByLight then
    if strategy.time_option = 1 ∧ ¬ env.illuminance_value ≤ env.lumeter.light_on_thre ∧
        t + env.lumeter.light_on_delay_time.toNat ≤ env.calendar.minuteOfDay then
      env.lumeter.light_on_delay_time.toNat
    else if strategy.time_option = 2 ∧ ¬ env.illuminance_value ≥ env.lumeter.light_off_thre ∧
        t + env.lumeter.light_off_delay_time.toNat ≤ env.calendar.minuteOfDay then
      env.lumeter.light_off_delay_time.toNat
    else 0
  else 0

/-- the minute a strategy asks for, counted from the midnight before, or less than nothing -/
def intendedMinute : ℤ :=
  let t := startMinute env strategy + strategy.offset_min
  t - advance env strategy + delay env strategy t

end Intended

/-! ## Minutes in a `u16` -/

/-- `r` is a minute of the day, and the intended one modulo a day -/
def InDay (r : ℕ) (z : ℤ) : Prop := r < 1440 ∧ (r : ℤ) ≡ z [ZMOD 1440]

/-- a word has no minute of the day for the minutes outside of it: 65536 is no number of days -/
theorem word_inDay_iff {z : ℤ} (hlow : -98304 < z) (hhigh : z < 65536) :
    InDay (toUnsigned 16 z) z ↔ 0 ≤ z ∧ z < 1440 := by
  unfold InDay toUnsigned Int.ModEq
  constructor
  · rintro ⟨hlt, hmod⟩
    omega
  · rintro ⟨h0, h1⟩
    have hword : z % 2 ^ 16 = z := Int.emod_eq_of_lt h0 (by omega)
    rw [hword, Int.toNat_of_nonneg h0]
    exact ⟨by omega, rfl⟩

/-- the minutes `sunsetLight` and `sunriseLight` make of `t` -/
def lightMinute (shift : Prop) [Decidable shift] (advance delay gate t : ℕ) : ℕ :=
  if shift then toUnsigned 16 (t - advance)
  else if gate ≥ t + delay then toUnsigned 16 (t + delay)
  else t

/-- **The light.** An advance is right exactly when it stays in the day; without one the minute itself has to. -/
theorem light_inDay_iff (shift : Prop) [Decidable shift] {advance delay gate : ℕ} {z : ℤ} (ha : advance < 65536)
    (hg : gate < 1440) (hlow : -32768 ≤ z) (hhigh : z < 34268) :
    InDay (lightMinute shift advance delay gate (toUnsigned 16 z))
        (if shift then z - advance else if z + delay ≤ gate then z + delay else z) ↔
      0 ≤ (if shift then z - advance else z) ∧ (if shift then z - advance else z) < 1440 := by
  unfold lightMinute
  by_cases hs : shift
  · rw [if_pos hs, if_pos hs, if_pos hs]
    -- the two subtractions in words are one
    have hword : toUnsigned 16 ((toUnsigned 16 z : ℕ) - advance) = toUnsigned 16 (z - advance) := by
      unfold toUnsigned
      omega
    rw [hword]
    exact word_inDay_iff (by omega) (by omega)
  · rw [if_neg hs, if_neg hs, if_neg hs]
    by_cases hz : 0 ≤ z ∧ z < 1440
    · have hword : toUnsigned 16 z = z.toNat := by
        unfold toUnsigned
        omega
      rw [hword]
      refine ⟨fun _ => hz, fun _ => ?_⟩
      unfold InDay toUnsigned
      split_ifs <;> refine ⟨by omega, ?_⟩ <;> unfold Int.ModEq <;> omega
    · -- a word outside the day is later than every clock
      have hout : 1440 ≤ toUnsigned 16 z := by
        unfold toUnsigned
        omega
      refine ⟨fun h => ?_, fun h => absurd h hz⟩
      have hlater : ¬ gate ≥ toUnsigned 16 z + delay := by omega
      rw [if_neg hlater] at h
      exact absurd h.1 (by omega)

/-! ## The branches -/

section Branches

variable (env : Env) (strategy : Strategy)

/-- every branch sums its start and the offset in a word, and the light has its say on the sum -/
theorem refresh_time (hh : strategy.Handled) :
    (refreshRelayStrategyActionTime env strategy).action_time =
      (let t := toUnsigned 16 (startMinute env strategy + strategy.offset_min)
      if strategy.ByLight then
        if strategy.time_option = 1 then sunsetLight env t
        else if strategy.time_option = 2 then sunriseLight env t
        else t
      else t) := by
  unfold refreshRelayStrategyActionTime startMinute Strategy.ByLight minuteAt
  rcases hh with h1 | h2 | ⟨h | h | h | h, ho | ho⟩
  · simp [h1]
  · simp [h2]
  all_goals
    simp [h, ho]
    rfl

theorem sunsetLight_eq (t : ℕ) : sunsetLight env t =
    lightMinute (env.illuminance_value ≤ env.lumeter.light_on_thre) env.lumeter.light_on_advance_time.toNat
      env.lumeter.light_on_delay_time.toNat env.calendar.minuteOfDay t := rfl

theorem sunriseLight_eq (t : ℕ) : sunriseLight env t =
    lightMinute (env.illuminance_value ≥ env.lumeter.light_off_thre) env.lumeter.light_off_advance_time.toNat
      env.lumeter.light_off_delay_time.toNat env.calendar.minuteOfDay t := rfl

/-- the starts are minutes of the day -/
theorem start_range (hv : env.Valid) : 0 ≤ startMinute env strategy ∧ startMinute env strategy < 1440 := by
  have hrise : 0 ≤ env.sun.rise ∧ env.sun.rise < 1440 := ⟨by unfold SunRiseSetTime.rise; omega, hv.rise⟩
  have hset : 0 ≤ env.sun.set ∧ env.sun.set < 1440 := ⟨by unfold SunRiseSetTime.set; omega, hv.set⟩
  have hon : 0 ≤ env.today.on ∧ env.today.on < 1440 := ⟨by unfold SwitchTime.on; omega, hv.on⟩
  have hoff : 0 ≤ env.today.off ∧ env.today.off < 1440 := ⟨by unfold SwitchTime.off; omega, hv.off⟩
  unfold startMinute
  split_ifs <;> omega

theorem minuteOfDay_lt (hv : env.Valid) : env.calendar.minuteOfDay < 1440 := by
  have hhour := hv.calendar.hour_lt
  have hmin := hv.calendar.min_lt
  unfold Calendar.minuteOfDay
  omega

/-- the intended minute and the advance of a strategy for the lights-on time -/
theorem intended_on (hl : strategy.ByLight) (h1 : strategy.time_option = 1) (z : ℤ) :
    z - advance env strategy + delay env strategy z =
        (if env.illuminance_value ≤ env.lumeter.light_on_thre then z - env.lumeter.light_on_advance_time.toNat
        else if z + env.lumeter.light_on_delay_time.toNat ≤ env.calendar.minuteOfDay then
          z + env.lumeter.light_on_delay_time.toNat
        else z) ∧
      z - advance env strategy =
        if env.illuminance_value ≤ env.lumeter.light_on_thre then z - env.lumeter.light_on_advance_time.toNat else z := by
  have hne : ¬ strategy.time_option = 2 := by rw [h1]; decide
  unfold advance delay
  rw [if_pos hl, if_pos hl]
  simp only [h1, true_and]
  split_ifs <;> simp_all

/-- those of a strategy for the lights-off time -/
theorem intended_off (hl : strategy.ByLight) (h2 : strategy.time_option = 2) (z : ℤ) :
    z - advance env strategy + delay env strategy z =
        (if env.illuminance_value ≥ env.lumeter.light_off_thre then z - env.lumeter.light_off_advance_time.toNat
        else if z + env.lumeter.light_off_delay_time.toNat ≤ env.calendar.minuteOfDay then
          z + env.lumeter.light_off_delay_time.toNat
        else z) ∧
      z - advance env strategy =
        if env.illuminance_value ≥ env.lumeter.light_off_thre then z - env.lumeter.light_off_advance_time.toNat
        else z := by
  have hne : ¬ strategy.time_option = 1 := by rw [h2]; decide
  unfold advance delay
  rw [if_pos hl, if_pos hl]
  simp only [h2, true_and]
  split_ifs <;> simp_all

/-- the light moves no other strategy -/
theorem intended_still (h : ¬ (strategy.ByLight ∧ (strategy.time_option = 1 ∨ strategy.time_option = 2))) (z : ℤ) :
    z - advance env strategy + delay env strategy z = z ∧ z - advance env strategy = z := by
  unfold advance delay
  split_ifs <;> simp_all

/-- **Action times.** The action time is the intended minute of the day exactly when the minute before any delay, the
start with the offset less the advance, is not before midnight and not after the day. -/
theorem refresh_inDay_iff (hv : env.Valid) (hp : strategy.Parsed) (hh : strategy.Handled) :
    InDay (refreshRelayStrategyActionTime env strategy).action_time (intendedMinute env strategy) ↔
      0 ≤ startMinute env strategy + strategy.offset_min - advance env strategy ∧
        startMinute env strategy + strategy.offset_min - advance env strategy < 1440 := by
  obtain ⟨hs0, hs1⟩ := start_range env strategy hv
  obtain ⟨hp0, hp1⟩ := hp
  have hgate := minuteOfDay_lt env hv
  rw [refresh_time env strategy hh, intendedMinute]
  dsimp only
  have hlow : -32768 ≤ startMinute env strategy + strategy.offset_min := by omega
  have hhigh : startMinute env strategy + strategy.offset_min < 34268 := by omega
  generalize startMinute env strategy + strategy.offset_min = z at hlow hhigh ⊢
  by_cases hl : strategy.ByLight ∧ (strategy.time_option = 1 ∨ strategy.time_option = 2)
  · rcases hl with ⟨hl, h1 | h2⟩
    · obtain ⟨hintended, hadvance⟩ := intended_on env strategy hl h1 z
      rw [if_pos hl, if_pos h1, sunsetLight_eq, hintended, hadvance]
      exact light_inDay_iff _ (UInt16.toNat_lt _) hgate hlow hhigh
    · obtain ⟨hintended, hadvance⟩ := intended_off env strategy hl h2 z
      have hne : ¬ strategy.time_option = 1 := by rw [h2]; decide
      rw [if_pos hl, if_neg hne, if_pos h2, sunriseLight_eq, hintended, hadvance]
      exact light_inDay_iff _ (UInt16.toNat_lt _) hgate hlow hhigh
  · obtain ⟨hintended, hadvance⟩ := intended_still env strategy hl z
    rw [hintended, hadvance]
    have hplain : (if strategy.ByLight then
        if strategy.time_option = 1 then sunsetLight env (toUnsigned 16 z)
        else if strategy.time_option = 2 then sunriseLight env (toUnsigned 16 z)
        else toUnsigned 16 z
      else toUnsigned 16 z) = toUnsigned 16 z := by
      split_ifs <;> simp_all
    rw [hplain]
    exact word_inDay_iff (by omega) (by omega)

end Branches

/-! ## A dusk before the advance -/

/-- noon on the first of June, dark, with an advance of half an hour -/
def duskEnv : Env where
  calendar := ⟨6, 1, 12, 0, 3⟩
  sun := ⟨5, 0, 19, 0⟩
  illuminance_value := 10
  lumeter := ⟨20, 30, 30, 50, 30, 30⟩
  switchTime := fun _ _ => ⟨18, 0, 6, 0⟩

/-- on at ten past midnight, or half an hour earlier where it is dark -/
def earlyStrategy : Strategy := { Strategy.zero with type := 2, offset_min := 10, time_option := 1 }

theorem duskEnv_valid : duskEnv.Valid where
  calendar := ⟨by decide, by decide, by decide, by decide, by decide, by decide, by decide⟩
  rise := by decide
  set := by decide
  on := by decide
  off := by decide

/-- the same time counted from sunset is in the day -/
theorem refresh_inDay_dusk :
    duskEnv.Valid ∧ (InDay (refreshRelayStrategyActionTime duskEnv { earlyStrategy with type := 4 }).action_time
        (intendedMinute duskEnv { earlyStrategy with type := 4 }) ↔
      0 ≤ startMinute duskEnv { earlyStrategy with type := 4 } + 10 -
          advance duskEnv { earlyStrategy with type := 4 } ∧
        startMinute duskEnv { earlyStrategy with type := 4 } + 10 -
          advance duskEnv { earlyStrategy with type := 4 } < 1440) :=
  ⟨duskEnv_valid, refresh_inDay_iff duskEnv { earlyStrategy with type := 4 } duskEnv_valid ⟨by decide, by decide⟩
    (by unfold Strategy.Handled; decide)⟩

/-- twenty minutes before midnight are minute 65516 -/
theorem refresh_leavesDay :
    duskEnv.Valid ∧ earlyStrategy.Parsed ∧ earlyStrategy.Handled ∧ intendedMinute duskEnv earlyStrategy = -20 ∧
      ¬ InDay (refreshRelayStrategyActionTime duskEnv earlyStrategy).action_time
        (intendedMinute duskEnv earlyStrategy) := by
  refine ⟨duskEnv_valid, ⟨by decide, by decide⟩, by unfold Strategy.Handled; decide, by decide, fun h => ?_⟩
  have htime : (refreshRelayStrategyActionTime duskEnv earlyStrategy).action_time = 65516 := by decide
  exact absurd h.1 (by rw [htime]; omega)

end DataConcentrator.Relay
