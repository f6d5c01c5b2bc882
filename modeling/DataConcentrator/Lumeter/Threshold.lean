/-
The thresholds of the light sensors: `LumeterOverValueAbnormal` and `LumeterUnderValueAbnormal`.

Allocations succeed. Both keep one count a sensor for raising and clearing, and leave it where it was at a change.
- `check_spec`: what a call does to the count of a sensor, and what it reports;
- `overSensed_eq`: the upper threshold is compared as it should be;
- `overRun_eq`, `underRun_eq`: over the runs the counts are those that start anew at minus the threshold;
- `thresholds_law_iff`: when both routines raise and clear as the law of their thresholds says.
-/
import DataConcentrator.Lib.EachIndex
import DataConcentrator.Lumeter.Average
import DataConcentrator.Report.ConfirmTime

namespace DataConcentrator.Lumeter

open Debounce (Law Relapse Confirmed Reached alarms quiet watch watch_eq watch_congr both_laws_iff compared_laws_iff)
open EachIndex (eachRange eachRange_entry mem_eachRange)
open InputCollector (Counter Sensed Change)
open Report (counterView sensedPoll Within tick_view tick_within)

/-! ## The routines -/

/-- `LumeterConfig_S`, as far as the thresholds read it -/
structure SensorConfig where
  min_valid_value : UInt32
  min_valid_value_range : UInt32
  max_valid_value : UInt32
  max_valid_value_range : UInt32
  valid_value_confirm_time : UInt8
deriving DecidableEq, Repr

/-- `LumeterConfigNum` and `LumeterConfig` -/
structure Sensors where
  number : ℕ
  fits : number ≤ MAX_LUMETER_CONF_NUM
  config : ℕ → SensorConfig

/-- what a call finds: the ticks as they are compared and as they are kept, and values below `2 ^ 31` -/
structure ValuePoll where
  lumeter_thre_over_alarm_enable : UInt8
  collect_cycle : UInt16
  tick : UInt32
  kept : UInt32
  value : ℕ → UInt32
  low : ∀ i, (value i).toNat < 2 ^ 31

/-- the static variables of a routine -/
structure Statics where
  time_s : UInt32
  counter : ℕ → Counter

/-- when the program starts -/
def Statics.start : Statics := ⟨0, fun _ => ⟨0, false⟩⟩

/-- `(s32)x` -/
def s32 (x : UInt32) : ℤ := (x.toNat : ℤ).bmod (2 ^ 32)

def overSensed (c : SensorConfig) (value : UInt32) : Sensed where
  present := c.max_valid_value ≠ 0xFFFFFFFF && c.max_valid_value ≠ 0
  abnormal := c.max_valid_value ≤ value
  normal := s32 c.max_valid_value_range ≤ s32 (c.max_valid_value - value)

/-- the clear compares with the upper threshold -/
def underSensed (c : SensorConfig) (value : UInt32) : Sensed where
  present := c.min_valid_value ≠ 0xFFFFFFFF && c.min_valid_value ≠ 0
  abnormal := value ≤ c.min_valid_value
  normal := s32 c.min_valid_value_range ≤ s32 (value - c.max_valid_value)

/-- `record_type` of the report after a change -/
def recordType : Change → Option Bool
  | .stays => none
  | .raised => some true
  | .cleared => some false

section Check

variable (sensed : SensorConfig → UInt32 → Sensed) (cfg : Sensors) (p : ValuePoll)

/-- a sensor in the loop: its count, and the report if `record` is set -/
def checkSensor (i : ℕ) (c : Counter) : Counter × Option Bool :=
  let found := sensed (cfg.config i) (p.value i)
  if found.present then
    let r := c.tick (cfg.config i).valid_value_confirm_time found
    (r.1, recordType r.2)
  else (c, none)

def Due (s : Statics) : Prop :=
  p.lumeter_thre_over_alarm_enable = 1 ∧ UInt32.ofNat (p.collect_cycle.toNat / 10) ≤ p.tick - s.time_s

instance (s : Statics) : Decidable (Due p s) := inferInstanceAs (Decidable (_ ∧ _))

/-- the static variables after a call, and its reports -/
def check (s : Statics) : Statics × List (ℕ × Bool) :=
  if Due p s then
    let r := eachRange (checkSensor sensed cfg p) cfg.number s.counter
    (⟨p.kept, r.1⟩, r.2)
  else (s, [])

end Check

def lumeterOverValueAbnormal (cfg : Sensors) (p : ValuePoll) (s : Statics) : Statics × List (ℕ × Bool) :=
  check overSensed cfg p s

def lumeterUnderValueAbnormal (cfg : Sensors) (p : ValuePoll) (s : Statics) : Statics × List (ℕ × Bool) :=
  check underSensed cfg p s

/-! ## A call -/

section Call

variable {sensed : SensorConfig → UInt32 → Sensed} {cfg : Sensors} {p : ValuePoll} {s : Statics} {i : ℕ}

/-- a report says what a count has changed to -/
theorem recordType_iff (c : Counter) (confirm_time : UInt8) (found : Sensed) (b : Bool) :
    recordType (c.tick confirm_time found).2 = some b ↔
      c.occur = !b ∧ (c.tick confirm_time found).1.occur = b := by
  have hoccur := Counter.tick_occur c confirm_time found
  generalize c.tick confirm_time found = r at hoccur ⊢
  obtain ⟨d, change⟩ := r
  cases change <;> cases b <;> simp_all [recordType]

theorem checkSensor_report (i : ℕ) (c : Counter) (b : Bool) :
    (checkSensor sensed cfg p i c).2 = some b ↔ c.occur = !b ∧ (checkSensor sensed cfg p i c).1.occur = b := by
  rw [checkSensor]
  split_ifs
  · exact recordType_iff _ _ _ b
  · refine iff_of_false not_false ?_
    rintro ⟨hbefore, hafter⟩
    exact absurd (hafter.symm.trans hbefore) (Bool.self_ne_not b)

/-- **A call** looks once at each sensor, if it is due, and reports the changes. -/
theorem check_spec (hi : i < cfg.number) :
    (check sensed cfg p s).1.counter i =
        (if Due p s then (checkSensor sensed cfg p i (s.counter i)).1 else s.counter i) ∧
      ∀ b, (i, b) ∈ (check sensed cfg p s).2 ↔
        (s.counter i).occur = !b ∧ ((check sensed cfg p s).1.counter i).occur = b := by
  rw [check]
  by_cases hdue : Due p s
  · rw [if_pos hdue, if_pos hdue]
    dsimp only
    rw [eachRange_entry, if_pos hi]
    refine ⟨rfl, fun b => ?_⟩
    rw [mem_eachRange, and_iff_right hi, checkSensor_report]
  · rw [if_neg hdue, if_neg hdue]
    refine ⟨rfl, fun b => iff_of_false List.not_mem_nil ?_⟩
    rintro ⟨hbefore, hafter⟩
    exact absurd (hafter.symm.trans hbefore) (Bool.self_ne_not b)

end Call

/-! ## Runs -/

/-- thresholds from 1 to `2 ^ 31 - 1` with smaller ranges, and a count to be reached -/
structure InRange (c : SensorConfig) : Prop where
  min_pos : 0 < c.min_valid_value.toNat
  min_lt : c.min_valid_value.toNat < 2 ^ 31
  max_pos : 0 < c.max_valid_value.toNat
  max_lt : c.max_valid_value.toNat < 2 ^ 31
  min_range : c.min_valid_value_range.toNat < c.min_valid_value.toNat
  max_range : c.max_valid_value_range.toNat < c.max_valid_value.toNat
  confirm_pos : 1 ≤ c.valid_value_confirm_time.toNat
  confirm_le : c.valid_value_confirm_time.toNat ≤ 127

/-- the law of the upper threshold -/
def overLaw (c : SensorConfig) (value : UInt32) : Debounce.Poll where
  raises := c.max_valid_value.toNat ≤ value.toNat
  clears := (c.max_valid_value_range.toNat : ℤ) ≤ c.max_valid_value.toNat - value.toNat

/-- the law of the lower threshold -/
def underLaw (c : SensorConfig) (value : UInt32) : Debounce.Poll where
  raises := value.toNat ≤ c.min_valid_value.toNat
  clears := (c.min_valid_value_range.toNat : ℤ) ≤ value.toNat - c.min_valid_value.toNat

/-- how the lower threshold is compared -/
def underCompared (c : SensorConfig) (value : UInt32) : Debounce.Poll where
  raises := value.toNat ≤ c.min_valid_value.toNat
  clears := (c.min_valid_value_range.toNat : ℤ) ≤ value.toNat - c.max_valid_value.toNat

theorem s32_eq {x : UInt32} (h : x.toNat < 2 ^ 31) : s32 x = x.toNat := Int.bmod_eq_of_le (by omega) (by omega)

theorem toNat_sub_mod (x y : UInt32) : ((x - y).toNat : ℤ) = ((x.toNat : ℤ) - y.toNat) % ((2 ^ 32 : ℕ) : ℤ) := by
  have hx := x.toNat_lt
  have hy := y.toNat_lt
  rw [UInt32.toNat_sub]
  generalize x.toNat = a at *
  generalize y.toNat = b at *
  omega

/-- a difference of two such numbers fits an `s32` -/
theorem s32_sub {x y : UInt32} (hx : x.toNat < 2 ^ 31) (hy : y.toNat < 2 ^ 31) : s32 (x - y) = x.toNat - y.toNat :=
  calc s32 (x - y) = (((x.toNat : ℤ) - y.toNat) % ((2 ^ 32 : ℕ) : ℤ)).bmod (2 ^ 32) :=
        congrArg (Int.bmod · (2 ^ 32)) (toNat_sub_mod x y)
    _ = ((x.toNat : ℤ) - y.toNat).bmod (2 ^ 32) := Int.emod_bmod _ _
    _ = x.toNat - y.toNat := Int.bmod_eq_of_le (by omega) (by omega)

theorem present_of_inRange {x : UInt32} (hpos : 0 < x.toNat) (hlt : x.toNat < 2 ^ 31) :
    (decide (x ≠ 0xFFFFFFFF) && decide (x ≠ 0)) = true := by
  have hmax : x ≠ 0xFFFFFFFF := by
    rintro rfl
    exact absurd hlt (by decide)
  have hzero : x ≠ 0 := by
    rintro rfl
    exact absurd hpos (by decide)
  simp [hmax, hzero]

theorem overSensed_eq {c : SensorConfig} (hc : InRange c) {value : UInt32} (hv : value.toNat < 2 ^ 31) :
    (overSensed c value).present = true ∧ sensedPoll (overSensed c value) = overLaw c value := by
  refine ⟨present_of_inRange hc.max_pos hc.max_lt, ?_⟩
  have hrange : c.max_valid_value_range.toNat < 2 ^ 31 := hc.max_range.trans hc.max_lt
  simp only [sensedPoll, overSensed, overLaw, s32_sub hc.max_lt hv, s32_eq hrange, UInt32.le_iff_toNat_le]

theorem underSensed_eq {c : SensorConfig} (hc : InRange c) {value : UInt32} (hv : value.toNat < 2 ^ 31) :
    (underSensed c value).present = true ∧ sensedPoll (underSensed c value) = underCompared c value := by
  refine ⟨present_of_inRange hc.min_pos hc.min_lt, ?_⟩
  have hrange : c.min_valid_value_range.toNat < 2 ^ 31 := hc.min_range.trans hc.min_lt
  simp only [sensedPoll, underSensed, underCompared, s32_sub hv hc.max_lt, s32_eq hrange, UInt32.le_iff_toNat_le]

/-- the alarm of sensor `i` before each call of a run that is due and at its end, and what `poll` makes of the values these
calls find -/
def thresholdRun (sensed : SensorConfig → UInt32 → Sensed) (poll : SensorConfig → UInt32 → Debounce.Poll) (cfg : Sensors)
    (i : ℕ) (calls : List ValuePoll) : List Bool × List Debounce.Poll :=
  watch (fun s p => some (check sensed cfg p s).1) (fun s p => if Due p s then some (poll (cfg.config i) (p.value i)) else none)
    (fun s => (s.counter i).occur) Statics.start calls

section Runs

variable {sensed : SensorConfig → UInt32 → Sensed} {poll : SensorConfig → UInt32 → Debounce.Poll} {cfg : Sensors} {i : ℕ}

/-- the count of a routine over a run -/
theorem thresholdRun_eq (hi : i < cfg.number) (hc : InRange (cfg.config i))
    (hpoll : ∀ value : UInt32, value.toNat < 2 ^ 31 → (sensed (cfg.config i) value).present = true ∧
      sensedPoll (sensed (cfg.config i) value) = poll (cfg.config i) value) (calls : List ValuePoll) :
    (thresholdRun sensed poll cfg i calls).1 = alarms (cfg.config i).valid_value_confirm_time.toNat
      (-(cfg.config i).valid_value_confirm_time.toNat) quiet (thresholdRun sensed poll cfg i calls).2 := by
  refine watch_eq (I := fun s => Within (cfg.config i).valid_value_confirm_time.toNat (s.counter i))
    (v := fun s => counterView (s.counter i)) (fun _ => rfl) ?_ ?_ ?_ calls Statics.start ?_
  · intro s p t found hs hstep hlook
    obtain rfl := Option.some.inj hstep
    split_ifs at hlook with hdue
    obtain ⟨hpresent, heq⟩ := hpoll (p.value i) (p.low i)
    rw [(check_spec hi).1, if_pos hdue, checkSensor, if_pos hpresent, tick_view hc.confirm_le hs, heq, ← Option.some.inj hlook]
  · intro s p t hs hstep hlook
    obtain rfl := Option.some.inj hstep
    split_ifs at hlook with hdue
    rw [(check_spec hi).1, if_neg hdue]
  · intro s p t hs hstep
    obtain rfl := Option.some.inj hstep
    rw [(check_spec hi).1, checkSensor]
    split_ifs
    · exact tick_within hc.confirm_pos hc.confirm_le hs _
    · exact hs
    · exact hs
  · have hpos := hc.confirm_pos
    have hzero : (counterView (Statics.start.counter i)).progress = 0 := rfl
    rw [Within, hzero]
    omega

/-- `confirm_time` of a sensor -/
def confirmTime (cfg : Sensors) (i : ℕ) : ℕ := (cfg.config i).valid_value_confirm_time.toNat

def overRun (cfg : Sensors) (i : ℕ) (calls : List ValuePoll) : List Bool × List Debounce.Poll :=
  thresholdRun overSensed overLaw cfg i calls

def underRun (cfg : Sensors) (i : ℕ) (calls : List ValuePoll) : List Bool × List Debounce.Poll :=
  thresholdRun underSensed underLaw cfg i calls

/-- the same polls as the lower threshold is compared -/
def underPolls (cfg : Sensors) (i : ℕ) (calls : List ValuePoll) : List Debounce.Poll :=
  (thresholdRun underSensed underCompared cfg i calls).2

theorem overRun_eq (hi : i < cfg.number) (hc : InRange (cfg.config i)) (calls : List ValuePoll) :
    (overRun cfg i calls).1 = alarms (confirmTime cfg i) (-(confirmTime cfg i : ℤ)) quiet (overRun cfg i calls).2 :=
  thresholdRun_eq hi hc (fun _ hv => overSensed_eq hc hv) calls

theorem underRun_eq (hi : i < cfg.number) (hc : InRange (cfg.config i)) (calls : List ValuePoll) :
    (underRun cfg i calls).1 = alarms (confirmTime cfg i) (-(confirmTime cfg i : ℤ)) quiet (underPolls cfg i calls) ∧
      (underPolls cfg i calls).length = (underRun cfg i calls).2.length := by
  have hsame : ∀ (s : Statics) (p : ValuePoll), (if Due p s then some (underLaw (cfg.config i) (p.value i)) else none).isSome =
      (if Due p s then some (underCompared (cfg.config i) (p.value i)) else none).isSome := fun s p => by
    split_ifs <;> rfl
  obtain ⟨halarm, hlength⟩ := @watch_congr _ _ (fun s p => some (check underSensed cfg p s).1) _
    (fun s => (s.counter i).occur) _ hsame calls Statics.start
  exact ⟨halarm.trans (thresholdRun_eq hi hc (fun _ hv => underSensed_eq hc hv) calls), hlength.symm⟩

end Runs

/-- **The thresholds of the light sensors.** The upper threshold raises and clears as its law says exactly if no change of
the law is followed at once by `confirm_time` polls against it; the lower one exactly if its counter is full, by its own
comparisons, where the law is confirmed. Either reports the changes and nothing else. -/
theorem thresholds_law_iff (cfg : Sensors) (i : ℕ) (hi : i < cfg.number) (hc : InRange (cfg.config i))
    (calls : List ValuePoll) :
    ((∀ b, Law (confirmTime cfg i) (overRun cfg i calls).1 (overRun cfg i calls).2 b) ↔
      ∀ b k, ¬ Relapse (confirmTime cfg i) (alarms (confirmTime cfg i) 0 quiet (overRun cfg i calls).2)
        (overRun cfg i calls).2 b k) ∧
    ((∀ b, Law (confirmTime cfg i) (underRun cfg i calls).1 (underRun cfg i calls).2 b) ↔
      ∀ k < (underRun cfg i calls).2.length, ∀ b,
        (alarms (confirmTime cfg i) 0 quiet (underRun cfg i calls).2)[k]? = some b →
          (Confirmed (confirmTime cfg i) (alarms (confirmTime cfg i) 0 quiet (underRun cfg i calls).2)
              (underRun cfg i calls).2 b k ↔
            Reached (confirmTime cfg i) (alarms (confirmTime cfg i) 0 quiet (underRun cfg i calls).2)
              (underPolls cfg i calls) b k)) ∧
    ∀ (p : ValuePoll) (s : Statics) (b : Bool),
      ((i, b) ∈ (lumeterOverValueAbnormal cfg p s).2 ↔
        (s.counter i).occur = !b ∧ ((lumeterOverValueAbnormal cfg p s).1.counter i).occur = b) ∧
      ((i, b) ∈ (lumeterUnderValueAbnormal cfg p s).2 ↔
        (s.counter i).occur = !b ∧ ((lumeterUnderValueAbnormal cfg p s).1.counter i).occur = b) := by
  obtain ⟨hunder, hlength⟩ := underRun_eq hi hc calls
  refine ⟨?_, ?_, fun p s b => ⟨(check_spec hi).2 b, (check_spec hi).2 b⟩⟩
  · rw [overRun_eq hi hc]
    exact both_laws_iff hc.confirm_pos
  · rw [hunder]
    exact compared_laws_iff hc.confirm_pos hlength

/-! ## One sensor -/

theorem oneLimit_fits : 1 ≤ MAX_LUMETER_CONF_NUM := by decide

/-- a sensor with its values to be between 10 and 1000, confirmed by one poll -/
def oneLimit : Sensors := ⟨1, oneLimit_fits, fun _ => ⟨10, 5, 1000, 100, 1⟩⟩

theorem oneLimit_inRange : InRange (oneLimit.config 0) := by constructor <;> decide

/-- a value in one of three ranges -/
inductive Level where
  | dark
  | lit
  | bright

def Level.value : Level → UInt32
  | .dark => 5
  | .lit => 500
  | .bright => 2000

theorem Level.low (l : Level) : l.value.toNat < 2 ^ 31 := by cases l <;> decide

/-- a call every second -/
def callAt (l : Level) : ValuePoll := ⟨1, 0, 0, 0, fun _ => l.value, fun _ => l.low⟩

/-- a sensor that gets bright -/
theorem bright_law : Law 1 (overRun oneLimit 0 [callAt .bright]).1 (overRun oneLimit 0 [callAt .bright]).2 true ∧
    Law 1 (overRun oneLimit 0 [callAt .bright]).1 (overRun oneLimit 0 [callAt .bright]).2 false := by
  have hlaw := (thresholds_law_iff oneLimit 0 Nat.one_pos oneLimit_inRange [callAt .bright]).1.2 ?_
  · exact ⟨hlaw true, hlaw false⟩
  rintro b k ⟨-, -, hagainst⟩
  obtain ⟨p, hp, -⟩ := hagainst (k + 1) (Nat.lt_succ_self k) le_rfl
  have hlen : (overRun oneLimit 0 [callAt .bright]).2.length = 1 := rfl
  rw [List.getElem?_eq_none (by rw [hlen]; omega)] at hp
  exact absurd hp.symm (Option.some_ne_none p)

/-- **Late, and never.** The alarm of a bright sensor is not cleared by the first poll that should clear it; that of a dark
one is not cleared while its values stay below the upper threshold. -/
theorem threshold_late : ¬ (∀ b, Law 1 (overRun oneLimit 0 [callAt .bright, callAt .dark]).1
      (overRun oneLimit 0 [callAt .bright, callAt .dark]).2 b) ∧
    ¬ ∀ b, Law 1 (underRun oneLimit 0 [callAt .dark, callAt .lit]).1 (underRun oneLimit 0 [callAt .dark, callAt .lit]).2 b := by
  have hconfirmed : ∀ ps : List Debounce.Poll, Debounce.Against ps true 1 → Confirmed 1 [false, true, true] ps true 1 :=
    fun ps h => ⟨by decide, fun j h1 h2 => by rw [show j = 1 by omega]; exact ⟨rfl, h⟩⟩
  constructor
  · intro h
    have hrun : overRun oneLimit 0 [callAt .bright, callAt .dark] =
        ([false, true, true], [⟨true, false⟩, ⟨false, true⟩]) := by decide +kernel
    rw [hrun] at h
    exact absurd ((h true 1 (by decide) rfl).2 (hconfirmed _ ⟨_, rfl, rfl⟩)) (by decide)
  · intro h
    have hrun : underRun oneLimit 0 [callAt .dark, callAt .lit] =
        ([false, true, true], [⟨true, false⟩, ⟨false, true⟩]) := by decide +kernel
    rw [hrun] at h
    exact absurd ((h true 1 (by decide) rfl).2 (hconfirmed _ ⟨_, rfl, rfl⟩)) (by decide)

end DataConcentrator.Lumeter
