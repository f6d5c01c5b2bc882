/-
The alarms of the electricity meters' parameters: `ElectricityMeterDetectParasThreOver` and
`ElectricityMeterDetectParasThreUnder`.

Values are exact rationals, and allocations succeed. `occur` is one for the eight parameters of a channel; it is never taken
back, and what clears an alarm is a value that lies beyond its limit.
- `checkPara_done`, `call_done`: what the loop has done up to a parameter, and what a call does;
- `thresholds_right`: a run does what it has to as long as a channel has no more than one alarm;
- `never_cleared`: a voltage that is back, and a current that is too high together with a voltage.
-/
import DataConcentrator.ElectricityMeter.Readings
import DataConcentrator.Report.ConfirmTime

namespace DataConcentrator.ElectricityMeter

open DataConcentrator.Report (int8_succ)

/-! ## The configuration -/

def MAX_ELECTRICITY_METER_CONF_NUM : ℕ := 6

def MAX_ELECTRICITY_METER_CH_NUM : ℕ := 7

/-- the parameters in the order of `m` -/
def paras : List Para :=
  [.voltage, .current, .active_power, .active_energy, .reactive_energy, .power_factor, .frequency, .line_voltage]

/-- the two functions -/
inductive Side where
  | over
  | under
deriving DecidableEq

/-- `ElectricityMeter_Alarm_S`; `last_run_mode` is in `Detector`, and `none` is a limit of bytes `0xFF` -/
structure AlarmThre where
  channel : UInt8
  para_id : UInt8
  min_value : Option ℚ
  min_range : UInt8
  max_value : Option ℚ
  max_range : UInt8
  confirm_time : UInt8
  switch_run_mode : UInt8
  resume_run_mode : UInt8
  relay_action : UInt8

/-- a parameter of a channel of a meter -/
structure Spot where
  i : ℕ
  j : ℕ
  para : Para
deriving DecidableEq

def Spot.ch (s : Spot) : ℕ × ℕ := (s.i, s.j)

/-- what the functions read of `ElectricityMeterConfigNum`, `ElectricityMeterConfig` and the settings of the alarm -/
structure ThreConfig where
  electrical_parameters_thre_over_alarm_enable : UInt8
  detect_interval : UInt16
  number : ℕ
  number_le : number ≤ MAX_ELECTRICITY_METER_CONF_NUM
  ch_num : ℕ → ℕ
  ch_num_lt : ∀ i, ch_num i < MAX_ELECTRICITY_METER_CH_NUM
  alarm_thre : Spot → AlarmThre

def AlarmThre.limit (t : AlarmThre) : Side → Option ℚ
  | .over => t.max_value
  | .under => t.min_value

/-- the eight bytes from `max_value` on are `0xFF` -/
def AlarmThre.allOnes (t : AlarmThre) (last_run_mode : UInt8) : Bool :=
  t.max_value = none && t.max_range = 0xFF && t.confirm_time = 0xFF && last_run_mode = 0xFF && t.switch_run_mode = 0xFF

/-- a channel and a parameter, and an upper limit that is not zero; both functions ask for it -/
def AlarmThre.present (t : AlarmThre) : Bool :=
  t.channel.toNat < MAX_ELECTRICITY_METER_CH_NUM && t.para_id ≠ 0 && t.max_value ≠ some 0

/-- `value >= max_value` and `value <= min_value` -/
def AlarmThre.beyond (t : AlarmThre) (value : ℚ) : Side → Bool
  | .over => t.max_value.any fun limit => limit ≤ value
  | .under => t.min_value.any fun limit => value ≤ limit

/-- the test that clears an alarm -/
def AlarmThre.back (t : AlarmThre) (value : ℚ) : Side → Bool
  | .over => t.max_value.any fun limit => (t.max_range.toNat : ℚ) / 100 ≤ (value - limit) / 100
  | .under => t.min_value.any fun limit => (t.max_range.toNat : ℚ) / 100 ≤ (limit - value) / 100

/-! ## The detector -/

inductive Change where
  | raised
  | cleared
deriving DecidableEq

/-- `record_type`, `current_value` and `reference_value` of a report -/
structure ThreReport where
  record_type : UInt8
  current_value : UInt8
  reference_value : ℚ

/-- a change of an alarm, with its report -/
structure Event where
  spot : Spot
  change : Change
  report : ThreReport

/-- the static variables of the two functions, and what they change elsewhere -/
structure Detector where
  time_s : Side → UInt32
  cnt : Side → Spot → Int8
  occur : Side → ℕ × ℕ → Bool
  abnormal_ch : ℕ → UInt8
  last_run_mode : Spot → UInt8
  runMode : UInt8
  relayForceSwitchOffAllRelays : UInt8

/-- `ElectricityMeterCombineParasThreOverAlarm` -/
def electricityMeterCombineParasThreOverAlarm (d : Detector) (s : Spot) (value : ℚ) : ThreReport where
  record_type := if d.abnormal_ch s.i ≠ 0 then 1 else 0
  current_value := d.abnormal_ch s.i
  reference_value := value

namespace Detector

def setCnt (d : Detector) (side : Side) (s : Spot) (x : Int8) : Detector :=
  { d with cnt := Function.update d.cnt side (Function.update (d.cnt side) s x) }

def setOccur (d : Detector) (side : Side) (s : Spot) : Detector :=
  { d with occur := Function.update d.occur side (Function.update (d.occur side) s.ch true) }

def setAbnormal (d : Detector) (i : ℕ) (f : UInt8 → UInt8) : Detector :=
  { d with abnormal_ch := Function.update d.abnormal_ch i (f (d.abnormal_ch i)) }

def switchMode (d : Detector) (s : Spot) (t : AlarmThre) : Detector :=
  if t.switch_run_mode ≠ 0 then
    { d with last_run_mode := Function.update d.last_run_mode s d.runMode, runMode := t.switch_run_mode }
  else d

def switchOff (d : Detector) (t : AlarmThre) : Detector :=
  if t.relay_action = 1 then { d with relayForceSwitchOffAllRelays := 1 } else d

def resumeMode (d : Detector) (s : Spot) (t : AlarmThre) : Detector :=
  if t.switch_run_mode ≠ 0 then
    if t.resume_run_mode = 1 then { d with runMode := d.last_run_mode s } else d
  else d

def raise (d : Detector) (side : Side) (s : Spot) (t : AlarmThre) : Detector :=
  (((d.setOccur side s).setAbnormal s.i fun x => x ||| 1 <<< UInt8.ofNat s.j).switchMode s t).switchOff t

/-- an alarm that is cleared; `occur` is set here as well -/
def clear (d : Detector) (side : Side) (s : Spot) (t : AlarmThre) : Detector :=
  ((d.setOccur side s).setAbnormal s.i fun x => x &&& ~~~(1 <<< UInt8.ofNat s.j)).resumeMode s t

end Detector

/-! ## The loop -/

variable (cfg : ThreConfig) (side : Side) (value : Spot → ℚ)

/-- the body of the loop -/
def checkPara (st : Detector × List Event) (s : Spot) : Detector × List Event :=
  let t := cfg.alarm_thre s
  let d := st.1
  if t.present && !t.allOnes (d.last_run_mode s) then
    if d.occur side s.ch = false then
      if t.beyond (value s) side then
        let d := d.setCnt side s (d.cnt side s + 1)
        if (d.cnt side s).toInt = t.confirm_time.toNat then
          let d := d.raise side s t
          (d, st.2 ++ [⟨s, .raised, electricityMeterCombineParasThreOverAlarm d s (value s)⟩])
        else (d, st.2)
      else (d.setCnt side s 0, st.2)
    else if t.back (value s) side then
      let d := d.setCnt side s (d.cnt side s - 1)
      if (d.cnt side s).toInt = -t.confirm_time.toNat then
        let d := d.clear side s t
        (d, st.2 ++ [⟨s, .cleared, electricityMeterCombineParasThreOverAlarm d s (value s)⟩])
      else (d, st.2)
    else (d.setCnt side s 0, st.2)
  else st

/-- the parameters in the order of the three loops -/
def ThreConfig.spots : List Spot :=
  (List.range cfg.number).flatMap fun i => (List.range (cfg.ch_num i)).flatMap fun j => paras.map fun para => ⟨i, j, para⟩

/-- the alarm is enabled and the time of the function has come -/
def ThreConfig.due (now : UInt32) (d : Detector) : Prop :=
  cfg.electrical_parameters_thre_over_alarm_enable = 1 ∧
    UInt32.ofNat (cfg.detect_interval.toNat / 10) ≤ now - d.time_s side

instance (now : UInt32) (d : Detector) : Decidable (cfg.due side now d) := inferInstanceAs (Decidable (_ ∧ _))

def Detector.started (now : UInt32) (d : Detector) : Detector := { d with time_s := Function.update d.time_s side now }

def detectParasThre (now : UInt32) (d : Detector) : Detector × List Event :=
  if cfg.due side now d then cfg.spots.foldl (checkPara cfg side value) (d.started side now, []) else (d, [])

def electricityMeterDetectParasThreOver (now : UInt32) (d : Detector) : Detector × List Event :=
  detectParasThre cfg .over value now d

def electricityMeterDetectParasThreUnder (now : UInt32) (d : Detector) : Detector × List Event :=
  detectParasThre cfg .under value now d

/-! ## Alarms of their own -/

/-- the value is inside its limit by the range configured for it -/
def AlarmThre.inside (t : AlarmThre) (value : ℚ) : Side → Bool
  | .over => t.max_value.any fun limit => (t.max_range.toNat : ℚ) ≤ limit - value
  | .under => t.min_value.any fun limit => (t.min_range.toNat : ℚ) ≤ value - limit

/-- a limit is configured, and a number of polls to confirm it -/
def AlarmThre.Watched (t : AlarmThre) : Prop :=
  (t.channel.toNat < MAX_ELECTRICITY_METER_CH_NUM ∧ t.para_id ≠ 0 ∧ t.limit side ≠ none ∧ t.limit side ≠ some 0) ∧
    1 ≤ t.confirm_time.toNat ∧ t.confirm_time.toNat ≤ 127

instance (t : AlarmThre) : Decidable (t.Watched side) := inferInstanceAs (Decidable (_ ∧ _))

/-- a measured channel: 0 for the total, and one for each of `ch_num` phases -/
def ThreConfig.Measured (i j : ℕ) : Prop := i < cfg.number ∧ j ≤ cfg.ch_num i

instance (i j : ℕ) : Decidable (cfg.Measured i j) := inferInstanceAs (Decidable (_ ∧ _))

/-- a parameter of a measured channel with a limit -/
def ThreConfig.Alarmed (s : Spot) : Prop := cfg.Measured s.i s.j ∧ (cfg.alarm_thre s).Watched side

instance (s : Spot) : Decidable (cfg.Alarmed side s) := inferInstanceAs (Decidable (_ ∧ _))

/-- a call of one of the functions -/
structure Call where
  side : Side
  now : UInt32
  value : Spot → ℚ

/-- the state of a run, and for every parameter and limit an alarm that goes by the law -/
structure ThreRun where
  detector : Detector
  law : Side → Spot → Debounce.Counter

/-- the alarm by the law after a call -/
def ThreRun.nextLaw (w : ThreRun) (c : Call) (s : Spot) : Debounce.Counter :=
  (w.law c.side s).tick (cfg.alarm_thre s).confirm_time.toNat 0
    ⟨(cfg.alarm_thre s).beyond (c.value s) c.side, (cfg.alarm_thre s).inside (c.value s) c.side⟩

def ThreRun.call (w : ThreRun) (c : Call) : Detector × List Event := detectParasThre cfg c.side c.value c.now w.detector

def ThreRun.step (w : ThreRun) (c : Call) : ThreRun where
  detector := (w.call cfg c).1
  law := if cfg.due c.side c.now w.detector then Function.update w.law c.side (w.nextLaw cfg c) else w.law

/-- a change of a parameter's alarm among the events -/
def Reported (events : List Event) (s : Spot) (change : Change) : Prop := ∃ e ∈ events, e.spot = s ∧ e.change = change

/-- what a call has to do -/
structure ThreRun.Right (w : ThreRun) (c : Call) : Prop where
  raised : ∀ s, cfg.Alarmed c.side s → (Reported (w.call cfg c).2 s .raised ↔
    (w.law c.side s).active = false ∧ ((w.step cfg c).law c.side s).active = true)
  cleared : ∀ s, cfg.Alarmed c.side s → (Reported (w.call cfg c).2 s .cleared ↔
    (w.law c.side s).active = true ∧ ((w.step cfg c).law c.side s).active = false)
  mask : ∀ i j, cfg.Measured i j → (((w.step cfg c).detector.abnormal_ch i).toNat.testBit j = true ↔
    ∃ side para, cfg.Alarmed side ⟨i, j, para⟩ ∧ ((w.step cfg c).law side ⟨i, j, para⟩).active = true)

/-! ## One alarm in a channel -/

/-- the poll confirms an alarm -/
def ThreRun.Raises (w : ThreRun) (c : Call) (s : Spot) : Prop :=
  cfg.Alarmed c.side s ∧ (w.law c.side s).active = false ∧ (w.nextLaw cfg c s).active = true

/-- the poll confirms the end of an alarm -/
def ThreRun.Clears (w : ThreRun) (c : Call) (s : Spot) : Prop :=
  cfg.Alarmed c.side s ∧ (w.law c.side s).active = true ∧ (w.nextLaw cfg c s).active = false

/-- the first alarm of its channel, which is one that is polled for it -/
structure ThreRun.First (w : ThreRun) (c : Call) (s : Spot) : Prop where
  polled : s.j < cfg.ch_num s.i ∧ (cfg.alarm_thre s).present = true
  quiet : w.detector.occur c.side s.ch = false
  alone : ∀ s', s'.ch = s.ch → w.Raises cfg c s' → s' = s

/-- an alarm is the first of its channel and is not over yet, and no count is full that is not one of an alarm -/
structure ThreRun.Single (w : ThreRun) (c : Call) : Prop where
  first : ∀ s, w.Raises cfg c s → w.First cfg c s
  stays : ∀ s, ¬ w.Clears cfg c s
  down : ∀ s ∈ cfg.spots, w.detector.occur c.side s.ch = true ∨ (∃ s', s'.ch = s.ch ∧ s' ≠ s ∧ w.Raises cfg c s') →
    (cfg.alarm_thre s).present = true → (cfg.alarm_thre s).back (c.value s) c.side = true →
    (w.detector.cnt c.side s - 1).toInt ≠ -(cfg.alarm_thre s).confirm_time.toNat
  up : ∀ s ∈ cfg.spots, ¬ (cfg.alarm_thre s).Watched c.side → w.detector.occur c.side s.ch = false →
    (cfg.alarm_thre s).present = true → (cfg.alarm_thre s).beyond (c.value s) c.side = true →
    (w.detector.cnt c.side s + 1).toInt ≠ (cfg.alarm_thre s).confirm_time.toNat

/-! ## The bits of the mask -/

theorem setBit_iff (x : UInt8) {j k : ℕ} (hj : j < 8) :
    (x ||| 1 <<< UInt8.ofNat j).toNat.testBit k = true ↔ x.toNat.testBit k = true ∨ k = j := by
  have hshift : ((1 : UInt8) <<< UInt8.ofNat j).toNat = 2 ^ j := by
    interval_cases j <;> rfl
  rw [UInt8.toNat_or, Nat.testBit_or, hshift, Nat.testBit_two_pow, Bool.or_eq_true, decide_eq_true_iff, eq_comm (a := j)]

section Effects

variable {side : Side} (d : Detector) (s : Spot) (t : AlarmThre)

theorem raise_cnt : (d.raise side s t).cnt = d.cnt := by
  unfold Detector.raise Detector.switchOff Detector.switchMode Detector.setAbnormal Detector.setOccur
  split_ifs <;> rfl

theorem raise_occur : (d.raise side s t).occur = (d.setOccur side s).occur := by
  unfold Detector.raise Detector.switchOff Detector.switchMode Detector.setAbnormal
  split_ifs <;> rfl

theorem raise_abnormal_ch : (d.raise side s t).abnormal_ch =
    Function.update d.abnormal_ch s.i (d.abnormal_ch s.i ||| 1 <<< UInt8.ofNat s.j) := by
  unfold Detector.raise Detector.switchOff Detector.switchMode Detector.setAbnormal Detector.setOccur
  split_ifs <;> rfl

end Effects

/-! ## The order of the loop -/

variable {cfg side value}

theorem mem_paras (para : Para) : para ∈ paras := by
  cases para <;> decide

theorem mem_spots {s : Spot} : s ∈ cfg.spots ↔ s.i < cfg.number ∧ s.j < cfg.ch_num s.i := by
  rw [ThreConfig.spots, List.mem_flatMap]
  constructor
  · rintro ⟨i, hi, hs⟩
    obtain ⟨j, hj, hs⟩ := List.mem_flatMap.1 hs
    obtain ⟨para, -, rfl⟩ := List.mem_map.1 hs
    exact ⟨List.mem_range.1 hi, List.mem_range.1 hj⟩
  · rintro ⟨hi, hj⟩
    exact ⟨s.i, List.mem_range.2 hi, List.mem_flatMap.2 ⟨s.j, List.mem_range.2 hj, List.mem_map.2 ⟨s.para, mem_paras _, rfl⟩⟩⟩

/-- no parameter comes twice -/
theorem nodup_spots : cfg.spots.Nodup := by
  have hparas : ∀ i j, (paras.map fun para => (⟨i, j, para⟩ : Spot)).Nodup := fun i j =>
    (List.nodup_map_iff fun a b h => (Spot.mk.inj h).2.2).2 (by decide)
  have hj : ∀ i j, ∀ s ∈ paras.map fun para => (⟨i, j, para⟩ : Spot), s.i = i ∧ s.j = j := by
    intro i j s hs
    obtain ⟨para, -, rfl⟩ := List.mem_map.1 hs
    exact ⟨rfl, rfl⟩
  have hi : ∀ i n, ∀ s ∈ (List.range n).flatMap fun j => paras.map fun para => (⟨i, j, para⟩ : Spot), s.i = i := by
    intro i n s hs
    obtain ⟨j, -, hs⟩ := List.mem_flatMap.1 hs
    exact (hj i j s hs).1
  refine List.nodup_flatMap.2 ⟨fun i _ => List.nodup_flatMap.2 ⟨fun j _ => hparas i j, ?_⟩, ?_⟩
  · exact List.nodup_range.imp fun {a b} hab s ha hb => hab ((hj i a s ha).2.symm.trans (hj i b s hb).2)
  · exact List.nodup_range.imp fun {a b} hab s ha hb => hab ((hi a _ s ha).symm.trans (hi b _ s hb))

/-! ## Up to a parameter of the loop -/

/-- what holds between two calls -/
structure ThreRun.Sound (cfg : ThreConfig) (w : ThreRun) : Prop where
  counts : ∀ side, ∀ s ∈ cfg.spots, (cfg.alarm_thre s).Watched side → w.detector.occur side s.ch = false →
    (w.law side s).active = false ∧
      ((cfg.alarm_thre s).present = true → (w.detector.cnt side s).toInt = (w.law side s).progress)
  range : ∀ side s, (cfg.alarm_thre s).Watched side →
    0 ≤ (w.law side s).progress ∧ (w.law side s).progress < (cfg.alarm_thre s).confirm_time.toNat
  mask : ∀ i j, cfg.Measured i j → ((w.detector.abnormal_ch i).toNat.testBit j = true ↔
    ∃ side para, cfg.Alarmed side ⟨i, j, para⟩ ∧ (w.law side ⟨i, j, para⟩).active = true)

/-- what a call has done after the parameters `P` -/
structure Done (cfg : ThreConfig) (w : ThreRun) (c : Call) (P : List Spot) (st : Detector × List Event) : Prop where
  other : ∀ side, side ≠ c.side → st.1.cnt side = w.detector.cnt side ∧ st.1.occur side = w.detector.occur side
  occur : ∀ ch, st.1.occur c.side ch = true ↔
    w.detector.occur c.side ch = true ∨ ∃ s ∈ P, s.ch = ch ∧ w.Raises cfg c s
  counted : ∀ s ∈ P, (cfg.alarm_thre s).Watched c.side → (cfg.alarm_thre s).present = true →
    st.1.occur c.side s.ch = false → (st.1.cnt c.side s).toInt = (w.nextLaw cfg c s).progress
  uncounted : ∀ s, s ∉ P → st.1.cnt c.side s = w.detector.cnt c.side s
  mask : ∀ i j, (st.1.abnormal_ch i).toNat.testBit j = true ↔
    (w.detector.abnormal_ch i).toNat.testBit j = true ∨ ∃ s ∈ P, s.ch = (i, j) ∧ w.Raises cfg c s
  raised : ∀ s, Reported st.2 s .raised ↔ s ∈ P ∧ w.Raises cfg c s
  cleared : ∀ s, ¬ Reported st.2 s .cleared

section Loop

variable {w : ThreRun} {c : Call} {P : List Spot} {st : Detector × List Event} {s : Spot}

theorem setCnt_self (d : Detector) (side : Side) (s : Spot) : d.setCnt side s (d.cnt side s) = d := by
  rw [Detector.setCnt, Function.update_eq_self, Function.update_eq_self]

theorem setCnt_of_ne {d : Detector} {side : Side} {s s' : Spot} {x : Int8} (h : s' ≠ s) :
    (d.setCnt side s x).cnt side s' = d.cnt side s' := by
  rw [Detector.setCnt]
  dsimp only
  rw [Function.update_self, Function.update_of_ne h]

theorem setCnt_at (d : Detector) (side : Side) (s : Spot) (x : Int8) : (d.setCnt side s x).cnt side s = x := by
  rw [Detector.setCnt]
  dsimp only
  rw [Function.update_self, Function.update_self]

theorem exists_mem_snoc {q : Spot → Prop} : (∃ s' ∈ P ++ [s], q s') ↔ (∃ s' ∈ P, q s') ∨ q s := by
  simp only [List.mem_append, List.mem_singleton]
  constructor
  · rintro ⟨s', hs' | rfl, hq⟩
    · exact Or.inl ⟨s', hs', hq⟩
    · exact Or.inr hq
  · rintro (⟨s', hs', hq⟩ | hq)
    · exact ⟨s', Or.inl hs', hq⟩
    · exact ⟨s, Or.inr rfl, hq⟩

/-- a parameter that raises no alarm changes its count alone -/
theorem Done.count (h : Done cfg w c P st) (hno : ¬ w.Raises cfg c s) (x : Int8)
    (hx : (cfg.alarm_thre s).Watched c.side → (cfg.alarm_thre s).present = true → st.1.occur c.side s.ch = false →
      x.toInt = (w.nextLaw cfg c s).progress) : Done cfg w c (P ++ [s]) (st.1.setCnt c.side s x, st.2) where
  other side hside := by
    refine ⟨?_, (h.other side hside).2⟩
    rw [← (h.other side hside).1]
    exact Function.update_of_ne hside _ _
  occur ch := by
    rw [exists_mem_snoc, or_iff_left (b := s.ch = ch ∧ _) fun hs => hno hs.2]
    exact h.occur ch
  counted s' hs' hwatched hpresent hoff := by
    rcases eq_or_ne s' s with rfl | hne
    · rw [setCnt_at]
      exact hx hwatched hpresent hoff
    · rw [setCnt_of_ne hne]
      have hold := (List.mem_append.1 hs').resolve_right fun hmem => hne (List.mem_singleton.1 hmem)
      exact h.counted s' hold hwatched hpresent hoff
  uncounted s' hs' := by
    rw [List.mem_append, List.mem_singleton, not_or] at hs'
    rw [setCnt_of_ne hs'.2]
    exact h.uncounted s' hs'.1
  mask i j := by
    rw [exists_mem_snoc, or_iff_left (b := s.ch = (i, j) ∧ _) fun hs => hno hs.2]
    exact h.mask i j
  raised s' := by
    rw [h.raised s', List.mem_append, List.mem_singleton]
    exact ⟨fun hs => ⟨Or.inl hs.1, hs.2⟩, fun hs => ⟨hs.1.resolve_right fun heq => hno (heq ▸ hs.2), hs.2⟩⟩
  cleared := h.cleared

/-- one that raises an alarm takes its channel -/
theorem Done.raise (h : Done cfg w c P st) (hraises : w.Raises cfg c s) (hj : s.j < 8) (x : Int8) (r : ThreReport) :
    Done cfg w c (P ++ [s])
      ((st.1.setCnt c.side s x).raise c.side s (cfg.alarm_thre s), st.2 ++ [⟨s, .raised, r⟩]) := by
  have hoccur : ∀ ch, ((st.1.setCnt c.side s x).raise c.side s (cfg.alarm_thre s)).occur c.side ch = true ↔
      st.1.occur c.side ch = true ∨ s.ch = ch := by
    intro ch
    rw [raise_occur, Detector.setOccur]
    dsimp only
    rw [Function.update_self]
    rcases eq_or_ne ch s.ch with rfl | hne
    · rw [Function.update_self]
      exact iff_of_true rfl (Or.inr rfl)
    · rw [Function.update_of_ne hne, or_iff_left (Ne.symm hne)]
      rfl
  have hreported : ∀ s' change, Reported (st.2 ++ [⟨s, .raised, r⟩]) s' change ↔
      Reported st.2 s' change ∨ s = s' ∧ Change.raised = change := by
    intro s' change
    simp only [Reported, List.mem_append, List.mem_singleton]
    constructor
    · rintro ⟨e, he | rfl, hs', hchange⟩
      · exact Or.inl ⟨e, he, hs', hchange⟩
      · exact Or.inr ⟨hs', hchange⟩
    · rintro (⟨e, he, hs', hchange⟩ | ⟨hs', hchange⟩)
      · exact ⟨e, Or.inl he, hs', hchange⟩
      · exact ⟨_, Or.inr rfl, hs', hchange⟩
  refine ⟨fun side hside => ?_, fun ch => ?_, fun s' hs' hwatched hpresent hoff => ?_, fun s' hs' => ?_, fun i j => ?_,
    fun s' => ?_, fun s' => ?_⟩
  · rw [raise_cnt, raise_occur, ← (h.other side hside).1, ← (h.other side hside).2]
    exact ⟨Function.update_of_ne hside _ _, Function.update_of_ne hside _ _⟩
  · rw [hoccur, h.occur, exists_mem_snoc, or_assoc, and_iff_left hraises]
  · -- a parameter of another channel
    have hoff' := Bool.eq_false_iff.1 hoff
    rw [Ne, hoccur, not_or] at hoff'
    have hne : s' ≠ s := fun heq => hoff'.2 (congrArg Spot.ch heq.symm)
    rw [raise_cnt, setCnt_of_ne hne]
    exact h.counted s' ((List.mem_append.1 hs').resolve_right fun hmem => hne (List.mem_singleton.1 hmem)) hwatched
      hpresent (Bool.eq_false_iff.2 hoff'.1)
  · rw [List.mem_append, List.mem_singleton, not_or] at hs'
    rw [raise_cnt, setCnt_of_ne hs'.2]
    exact h.uncounted s' hs'.1
  · rw [raise_abnormal_ch, exists_mem_snoc, and_iff_left hraises, ← or_assoc, ← h.mask i j]
    rcases eq_or_ne i s.i with rfl | hne
    · rw [Function.update_self, setBit_iff _ hj]
      exact or_congr_right ⟨fun heq => by rw [heq]; rfl, fun heq => (Prod.mk.inj heq).2.symm⟩
    · rw [Function.update_of_ne hne, or_iff_left fun heq : s.ch = (i, j) => hne (Prod.mk.inj heq).1.symm]
      rfl
  · rw [hreported, h.raised, List.mem_append, List.mem_singleton, and_iff_left rfl]
    constructor
    · rintro (hs' | rfl)
      · exact ⟨Or.inl hs'.1, hs'.2⟩
      · exact ⟨Or.inr rfl, hraises⟩
    · rintro ⟨hs' | rfl, hs''⟩
      · exact Or.inl ⟨hs', hs''⟩
      · exact Or.inr rfl
  · rw [hreported]
    rintro (hs' | hs')
    · exact h.cleared s' hs'
    · exact Change.noConfusion hs'.2

theorem alarmed_of_mem (hs : s ∈ cfg.spots) (hwatched : (cfg.alarm_thre s).Watched side) : cfg.Alarmed side s := by
  obtain ⟨hi, hj⟩ := mem_spots.1 hs
  exact ⟨⟨hi, hj.le⟩, hwatched⟩

/-- the law of a parameter without an alarm -/
theorem nextLaw_of_quiet (hoff : (w.law c.side s).active = false) : w.nextLaw cfg c s =
    if (cfg.alarm_thre s).beyond (c.value s) c.side then
      if (w.law c.side s).progress + 1 = (cfg.alarm_thre s).confirm_time.toNat then ⟨0, true⟩
      else ⟨(w.law c.side s).progress + 1, false⟩
    else ⟨0, false⟩ := by
  rw [ThreRun.nextLaw, Debounce.Counter.tick, Debounce.Poll.opposes, hoff]
  rfl

/-- a parameter is polled -/
abbrev Polled (cfg : ThreConfig) (d : Detector) (s : Spot) : Prop :=
  ((cfg.alarm_thre s).present && !(cfg.alarm_thre s).allOnes (d.last_run_mode s)) = true

theorem loop_lt (hs : s ∈ cfg.spots) : s.j < 8 := by
  have hlt := cfg.ch_num_lt s.i
  have hs' := (mem_spots.1 hs).2
  rw [MAX_ELECTRICITY_METER_CH_NUM] at hlt
  omega

/-- without an alarm in the channel, the count is that of the law -/
theorem quiet_law (hsound : w.Sound cfg) (h : Done cfg w c P st) (hs : s ∈ cfg.spots) (hP : s ∉ P)
    (hpresent : (cfg.alarm_thre s).present = true) (hquiet : w.detector.occur c.side s.ch = false)
    (hwatched : (cfg.alarm_thre s).Watched c.side) : (w.law c.side s).active = false ∧
      (st.1.cnt c.side s + 1).toInt = (w.law c.side s).progress + 1 := by
  obtain ⟨hactive, hcount⟩ := hsound.counts c.side s hs hwatched hquiet
  have hcount' := (congrArg Int8.toInt (h.uncounted s hP)).trans (hcount hpresent)
  have hlt := (hsound.range c.side s hwatched).2
  have hle := hwatched.2.2
  exact ⟨hactive, by rw [int8_succ (by omega), hcount']⟩

/-- a law that is not raised raises no alarm -/
theorem not_raises_of_law {progress : ℤ}
    (hnext : (cfg.alarm_thre s).Watched c.side → w.nextLaw cfg c s = ⟨progress, false⟩) : ¬ w.Raises cfg c s := by
  intro hraises
  have hon := hraises.2.2
  rw [hnext hraises.1.2] at hon
  exact Bool.false_ne_true hon

/-- nothing raised in the channel -/
theorem quiet_done (hsound : w.Sound cfg) (hsingle : w.Single cfg c) (h : Done cfg w c P st) (hs : s ∈ cfg.spots)
    (hP : s ∉ P) (hpolled : Polled cfg st.1 s) (hoff : st.1.occur c.side s.ch = false) :
    Done cfg w c (P ++ [s]) (checkPara cfg c.side c.value st s) := by
  have hpresent := (Bool.and_eq_true_iff.1 hpolled).1
  have hquiet : w.detector.occur c.side s.ch = false :=
    Bool.eq_false_iff.2 fun hon => Bool.eq_false_iff.1 hoff ((h.occur _).2 (Or.inl hon))
  have hlaw := fun hwatched => quiet_law hsound h hs hP hpresent hquiet hwatched
  rw [checkPara]
  dsimp only
  rw [if_pos hpolled, if_pos hoff, setCnt_at]
  by_cases hbeyond : (cfg.alarm_thre s).beyond (c.value s) c.side = true
  · rw [if_pos hbeyond]
    by_cases hfull : (st.1.cnt c.side s + 1).toInt = (cfg.alarm_thre s).confirm_time.toNat
    · rw [if_pos hfull]
      have hwatched : (cfg.alarm_thre s).Watched c.side := by
        by_contra hno
        rw [h.uncounted s hP] at hfull
        exact hsingle.up s hs hno hquiet hpresent hbeyond hfull
      obtain ⟨hactive, hsucc⟩ := hlaw hwatched
      refine h.raise ⟨alarmed_of_mem hs hwatched, hactive, ?_⟩ (loop_lt hs) _ _
      rw [nextLaw_of_quiet hactive, if_pos hbeyond, if_pos (hsucc.symm.trans hfull)]
    · rw [if_neg hfull]
      have hnext : (cfg.alarm_thre s).Watched c.side → w.nextLaw cfg c s = ⟨(w.law c.side s).progress + 1, false⟩ := by
        intro hwatched
        obtain ⟨hactive, hsucc⟩ := hlaw hwatched
        rw [nextLaw_of_quiet hactive, if_pos hbeyond, if_neg fun heq => hfull (hsucc.trans heq)]
      refine h.count (not_raises_of_law hnext) _ fun hwatched _ _ => ?_
      rw [hnext hwatched]
      exact (hlaw hwatched).2
  · rw [if_neg hbeyond]
    have hnext : (cfg.alarm_thre s).Watched c.side → w.nextLaw cfg c s = ⟨0, false⟩ := by
      intro hwatched
      rw [nextLaw_of_quiet (hlaw hwatched).1, if_neg hbeyond]
    refine h.count (not_raises_of_law hnext) _ fun hwatched _ _ => ?_
    rw [hnext hwatched]
    rfl

/-- an alarm of the channel, raised in a call before or by another parameter -/
theorem taken_done (hsingle : w.Single cfg c) (h : Done cfg w c P st) (hs : s ∈ cfg.spots) (hP : s ∉ P)
    (hpolled : Polled cfg st.1 s) (hon : st.1.occur c.side s.ch = true) :
    Done cfg w c (P ++ [s]) (checkPara cfg c.side c.value st s) := by
  have hpresent := (Bool.and_eq_true_iff.1 hpolled).1
  have htaken : w.detector.occur c.side s.ch = true ∨ ∃ s', s'.ch = s.ch ∧ s' ≠ s ∧ w.Raises cfg c s' := by
    refine ((h.occur _).1 hon).imp_right ?_
    rintro ⟨s', hs', hch, hraises⟩
    exact ⟨s', hch, fun heq => hP (heq ▸ hs'), hraises⟩
  have hno : ¬ w.Raises cfg c s := by
    intro hraises
    have hfirst := hsingle.first s hraises
    rcases htaken with hbefore | ⟨s', hch, hne, hraises'⟩
    · rw [hfirst.quiet] at hbefore
      exact Bool.false_ne_true hbefore
    · exact hne (hfirst.alone s' hch hraises')
  have hcount : ∀ x, Done cfg w c (P ++ [s]) (st.1.setCnt c.side s x, st.2) := fun x =>
    h.count hno x fun _ _ hoff => absurd (hon.symm.trans hoff) Bool.noConfusion
  rw [checkPara]
  dsimp only
  rw [if_pos hpolled, if_neg (Bool.eq_false_iff.not_left.2 hon), setCnt_at]
  by_cases hback : (cfg.alarm_thre s).back (c.value s) c.side = true
  · have hfull := hsingle.down s hs htaken hpresent hback
    rw [← h.uncounted s hP] at hfull
    rw [if_pos hback, if_neg hfull]
    exact hcount _
  · rw [if_neg hback]
    exact hcount _

/-- a parameter that is not polled raises no alarm -/
theorem unpolled_done (hsingle : w.Single cfg c) (h : Done cfg w c P st) (hpolled : ¬Polled cfg st.1 s) :
    Done cfg w c (P ++ [s]) (checkPara cfg c.side c.value st s) := by
  -- a watched parameter is polled, whatever mode it has saved
  have hno : (cfg.alarm_thre s).Watched c.side → ¬ (cfg.alarm_thre s).present = true := by
    intro hwatched hpresent
    have hne : (cfg.alarm_thre s).confirm_time ≠ 0xFF := fun heq => by
      have hle := hwatched.2.2
      rw [heq] at hle
      exact absurd hle (by decide)
    refine hpolled ?_
    rw [Polled, hpresent, AlarmThre.allOnes, decide_eq_false hne, Bool.and_false, Bool.false_and, Bool.false_and]
    rfl
  have hsame : st = (st.1.setCnt c.side s (st.1.cnt c.side s), st.2) := by rw [setCnt_self]
  rw [checkPara]
  dsimp only
  rw [if_neg hpolled, hsame]
  refine h.count (fun hraises => ?_) _ fun hwatched hpresent _ => absurd hpresent (hno hwatched)
  exact hno hraises.1.2 (hsingle.first s hraises).polled.2

/-- **A parameter** in its turn, in a call with no more than one alarm in a channel. -/
theorem checkPara_done (hsound : w.Sound cfg) (hsingle : w.Single cfg c) (h : Done cfg w c P st) (hs : s ∈ cfg.spots)
    (hP : s ∉ P) : Done cfg w c (P ++ [s]) (checkPara cfg c.side c.value st s) := by
  by_cases hpolled : Polled cfg st.1 s
  · cases hoff : st.1.occur c.side s.ch with
    | false => exact quiet_done hsound hsingle h hs hP hpolled hoff
    | true => exact taken_done hsingle h hs hP hpolled hoff
  · exact unpolled_done hsingle h hpolled

end Loop

/-! ## Every run -/

/-- the static variables as they are at first, with the alarms off -/
def ThreRun.start (last_run_mode : Spot → UInt8) (runMode relays : UInt8) : ThreRun where
  detector := ⟨fun _ => 0, fun _ _ => 0, fun _ _ => false, fun _ => 0, last_run_mode, runMode, relays⟩
  law _ _ := Debounce.quiet

/-- a call after another -/
def next (cfg : ThreConfig) (w : ThreRun) (c : Call) : Option ThreRun := some (w.step cfg c)

section Run

variable {w : ThreRun} {c : Call}

theorem loop_done (hsound : w.Sound cfg) (hsingle : w.Single cfg c) (l : List Spot) :
    ∀ {P st}, P ++ l = cfg.spots → Done cfg w c P st → Done cfg w c cfg.spots (l.foldl (checkPara cfg c.side c.value) st) := by
  induction l with
  | nil =>
    intro P st hl h
    rw [List.append_nil] at hl
    rw [← hl]
    exact h
  | cons s l ih =>
    intro P st hl h
    have hnodup : (P ++ s :: l).Nodup := hl ▸ nodup_spots
    have hP : s ∉ P := fun hs => (List.disjoint_of_nodup_append hnodup) hs List.mem_cons_self
    have hs : s ∈ cfg.spots := hl ▸ List.mem_append_right P List.mem_cons_self
    exact ih (by rw [List.append_assoc]; exact hl) (checkPara_done hsound hsingle h hs hP)

/-- **What a call does** that takes place -/
theorem call_done (hsound : w.Sound cfg) (hsingle : w.Single cfg c) (hdue : cfg.due c.side c.now w.detector) :
    Done cfg w c cfg.spots (w.call cfg c) := by
  rw [ThreRun.call, detectParasThre, if_pos hdue]
  refine loop_done hsound hsingle cfg.spots (List.nil_append _) ?_
  have hnone : ∀ q : Spot → Prop, ¬ ∃ s ∈ ([] : List Spot), q s := fun q h => by
    obtain ⟨s, hs, -⟩ := h
    exact absurd hs List.not_mem_nil
  have hevents : ∀ s change, ¬ Reported [] s change := fun s change h => by
    obtain ⟨e, he, -⟩ := h
    exact absurd he List.not_mem_nil
  exact {
    other := fun _ _ => ⟨rfl, rfl⟩
    occur := fun ch => (or_iff_left (hnone _)).symm
    counted := fun s hs => absurd hs List.not_mem_nil
    uncounted := fun _ _ => rfl
    mask := fun i j => (or_iff_left (hnone _)).symm
    raised := fun s => iff_of_false (hevents s _) fun hs => absurd hs.1 List.not_mem_nil
    cleared := fun s => hevents s _ }

/-- the alarm of a parameter after a call that ends none -/
theorem nextLaw_active_iff (hsingle : w.Single cfg c) {s : Spot} (hs : cfg.Alarmed c.side s) :
    (w.nextLaw cfg c s).active = true ↔ (w.law c.side s).active = true ∨ w.Raises cfg c s := by
  cases hold : (w.law c.side s).active with
  | true =>
    refine iff_of_true ?_ (Or.inl rfl)
    by_contra hoff
    exact hsingle.stays s ⟨hs, hold, Bool.not_eq_true _ ▸ hoff⟩
  | false =>
    rw [or_iff_right Bool.false_ne_true]
    exact ⟨fun hon => ⟨hs, hold, hon⟩, fun h => h.2.2⟩

theorem raises_mem (hsingle : w.Single cfg c) {s : Spot} (h : w.Raises cfg c s) : s ∈ cfg.spots :=
  mem_spots.2 ⟨h.1.1.1, (hsingle.first s h).polled.1⟩

theorem nextLaw_range (hsound : w.Sound cfg) {s : Spot} (hs : (cfg.alarm_thre s).Watched c.side) :
    0 ≤ (w.nextLaw cfg c s).progress ∧ (w.nextLaw cfg c s).progress < (cfg.alarm_thre s).confirm_time.toNat := by
  obtain ⟨hlow, hhigh⟩ := hsound.range c.side s hs
  have hpos := hs.2.1
  rw [ThreRun.nextLaw, Debounce.Counter.tick]
  split_ifs with hop hfull
  · exact ⟨le_rfl, Int.natCast_pos.2 hpos⟩
  · exact ⟨by simp only; omega, by simp only; omega⟩
  · exact ⟨le_rfl, Int.natCast_pos.2 hpos⟩

/-- the alarms by the law after a call that takes place -/
theorem step_law (hdue : cfg.due c.side c.now w.detector) (side : Side) (s : Spot) :
    (w.step cfg c).law side s = if side = c.side then w.nextLaw cfg c s else w.law side s := by
  rw [ThreRun.step, if_pos hdue]
  dsimp only
  split_ifs with hside
  · rw [hside, Function.update_self]
  · rw [Function.update_of_ne hside]

/-- the mask after a call -/
theorem call_mask (hsound : w.Sound cfg) (hsingle : w.Single cfg c) (hdue : cfg.due c.side c.now w.detector) (i j : ℕ)
    (hij : cfg.Measured i j) : ((w.step cfg c).detector.abnormal_ch i).toNat.testBit j = true ↔
      ∃ side para, cfg.Alarmed side ⟨i, j, para⟩ ∧ ((w.step cfg c).law side ⟨i, j, para⟩).active = true := by
  have hmask := (call_done hsound hsingle hdue).mask i j
  rw [show (w.step cfg c).detector = (w.call cfg c).1 from rfl, hmask, hsound.mask i j hij]
  constructor
  · rintro (⟨side, para, halarmed, hon⟩ | ⟨s, -, hch, hraises⟩)
    · refine ⟨side, para, halarmed, ?_⟩
      rw [step_law hdue]
      split_ifs with hside
      · subst hside
        exact (nextLaw_active_iff hsingle halarmed).2 (Or.inl hon)
      · exact hon
    · obtain ⟨i', j', para⟩ := s
      obtain ⟨rfl, rfl⟩ := Prod.mk.inj hch
      refine ⟨c.side, para, hraises.1, ?_⟩
      rw [step_law hdue, if_pos rfl]
      exact hraises.2.2
  · rintro ⟨side, para, halarmed, hon⟩
    rw [step_law hdue] at hon
    split_ifs at hon with hside
    · subst hside
      rcases (nextLaw_active_iff hsingle halarmed).1 hon with hold | hraises
      · exact Or.inl ⟨c.side, para, halarmed, hold⟩
      · exact Or.inr ⟨_, raises_mem hsingle hraises, rfl, hraises⟩
    · exact Or.inl ⟨side, para, halarmed, hon⟩

/-- a call that does not take place -/
theorem call_not_due (hdue : ¬ cfg.due c.side c.now w.detector) : (w.call cfg c).2 = [] ∧ w.step cfg c = w := by
  have hcall : w.call cfg c = (w.detector, []) := if_neg hdue
  rw [ThreRun.step, hcall, if_neg hdue]
  exact ⟨rfl, rfl⟩

/-- **A call** does what it has to, as long as a channel has no more than one alarm. -/
theorem call_right (hsound : w.Sound cfg) (hsingle : cfg.due c.side c.now w.detector → w.Single cfg c) :
    w.Right cfg c ∧ (w.step cfg c).Sound cfg := by
  by_cases hdue : cfg.due c.side c.now w.detector
  · have hsingle := hsingle hdue
    have hdone := call_done hsound hsingle hdue
    have hmask := call_mask hsound hsingle hdue
    refine ⟨⟨fun s hs => ?_, fun s hs => ?_, hmask⟩, ⟨fun side s hs hwatched hoff => ?_, fun side s hs => ?_, hmask⟩⟩
    · rw [hdone.raised, step_law hdue, if_pos rfl, and_iff_right_of_imp fun h => raises_mem hsingle h, ThreRun.Raises,
        and_iff_right hs]
    · rw [step_law hdue, if_pos rfl]
      exact iff_of_false (hdone.cleared s) fun h => hsingle.stays s ⟨hs, h⟩
    · rw [step_law hdue]
      change (w.call cfg c).1.occur side s.ch = false at hoff
      change _ ∧ (_ → ((w.call cfg c).1.cnt side s).toInt = _)
      split_ifs with hside
      · subst hside
        -- nothing has been raised in the channel
        have hoff' := Bool.eq_false_iff.1 hoff
        rw [Ne, hdone.occur, not_or] at hoff'
        have hold := (hsound.counts c.side s hs hwatched (Bool.eq_false_iff.2 hoff'.1)).1
        refine ⟨Bool.eq_false_iff.2 fun hon => hoff'.2 ⟨s, hs, rfl, alarmed_of_mem hs hwatched, hold, hon⟩, fun hpresent => ?_⟩
        exact hdone.counted s hs hwatched hpresent hoff
      · obtain ⟨hcnt, hoccur⟩ := hdone.other side hside
        rw [hoccur] at hoff
        rw [hcnt]
        exact hsound.counts side s hs hwatched hoff
    · rw [step_law hdue]
      split_ifs with hside
      · subst hside
        exact nextLaw_range hsound hs
      · exact hsound.range side s hs
  · obtain ⟨hevents, hstep⟩ := call_not_due hdue
    have hnone : ∀ s change, ¬ Reported (w.call cfg c).2 s change := fun s change h => by
      rw [hevents] at h
      obtain ⟨e, he, -⟩ := h
      exact absurd he List.not_mem_nil
    rw [hstep]
    refine ⟨⟨fun s _ => ?_, fun s _ => ?_, ?_⟩, hsound⟩
    · rw [hstep]
      exact iff_of_false (hnone s _) fun h => Bool.false_ne_true (h.1.symm.trans h.2)
    · rw [hstep]
      exact iff_of_false (hnone s _) fun h => Bool.false_ne_true (h.2.symm.trans h.1)
    · rw [hstep]
      exact hsound.mask

theorem sound_start (last_run_mode : Spot → UInt8) (runMode relays : UInt8) :
    (ThreRun.start last_run_mode runMode relays).Sound cfg where
  counts _ _ _ _ _ := ⟨rfl, fun _ => rfl⟩
  range _ _ hs := ⟨le_rfl, Int.natCast_pos.2 hs.2.1⟩
  mask i j _ := by
    refine iff_of_false ?_ fun ⟨side, para, _, hon⟩ => Bool.false_ne_true hon
    rw [show ((ThreRun.start last_run_mode runMode relays).detector.abnormal_ch i).toNat = 0 from rfl, Nat.zero_testBit]
    exact Bool.false_ne_true

end Run

/-- **The alarms of the parameters.** In a run of calls in any order, every one of them raises and clears what it has to and
keeps the mask, as long as a channel has no more than one alarm, and this is not over. -/
theorem thresholds_right (cfg : ThreConfig) (last_run_mode : Spot → UInt8) (runMode relays : UInt8) (calls : List Call)
    (h : Tally.Along (next cfg) (fun w c => cfg.due c.side c.now w.detector → w.Single cfg c)
      (ThreRun.start last_run_mode runMode relays) calls) :
    Tally.Along (next cfg) (ThreRun.Right cfg) (ThreRun.start last_run_mode runMode relays) calls := by
  refine Tally.Along.of_inv (fun w c (hw : w.Sound cfg) hc => ?_) calls _ (sound_start last_run_mode runMode relays) h
  obtain ⟨hright, hnext⟩ := call_right hw hc
  exact ⟨hright, fun t ht => Option.some.inj ht ▸ hnext⟩

/-! ## One meter -/

instance (events : List Event) (s : Spot) (change : Change) : Decidable (Reported events s change) :=
  inferInstanceAs (Decidable (∃ e ∈ events, _))

/-- an entry that is not set -/
def unset : AlarmThre := ⟨0xFF, 0, none, 0, none, 0, 0, 0, 0, 0⟩

/-- an upper limit, with a range of 10 and one poll to confirm -/
def above (para_id : UInt8) (limit : ℚ) : AlarmThre := ⟨0, para_id, none, 0, some limit, 10, 1, 0, 0, 0⟩

def voltageSpot : Spot := ⟨0, 0, .voltage⟩

def currentSpot : Spot := ⟨0, 0, .current⟩

/-- a meter of one phase -/
def oneMeter (alarm_thre : Spot → AlarmThre) : ThreConfig where
  electrical_parameters_thre_over_alarm_enable := 1
  detect_interval := 0
  number := 1
  number_le := Nat.succ_le_succ (Nat.zero_le 5)
  ch_num _ := 1
  ch_num_lt _ := Nat.lt_of_sub_eq_succ rfl
  alarm_thre := alarm_thre

/-- with a limit of 250 for the voltage -/
def voltageMeter : ThreConfig := oneMeter fun s => if s = voltageSpot then above 1 250 else unset

/-- and one of 10 for the current -/
def bothMeter : ThreConfig := oneMeter fun s =>
  if s = voltageSpot then above 1 250 else if s = currentSpot then above 2 10 else unset

/-- a call that finds a voltage and a current -/
def finds (voltage current : ℚ) : Call := ⟨.over, 0, fun s => if s = voltageSpot then voltage else current⟩

def started : ThreRun := ThreRun.start (fun _ => 0) 0 0

/-- a voltage that gets too high -/
theorem high_voltage : Tally.Along (next voltageMeter) (ThreRun.Right voltageMeter) started [finds 260 0] := by
  have hpresent : ∀ s, (voltageMeter.alarm_thre s).present = true → s = voltageSpot := by
    intro s hs
    by_contra hne
    rw [voltageMeter, oneMeter] at hs
    simp only [if_neg hne] at hs
    exact absurd hs (by decide)
  have hwatched : ∀ s side, (voltageMeter.alarm_thre s).Watched side → s = voltageSpot := by
    intro s side hs
    by_contra hne
    rw [voltageMeter, oneMeter] at hs
    simp only [if_neg hne] at hs
    exact absurd hs.1.2.1 (by decide)
  refine thresholds_right voltageMeter (fun _ => 0) 0 0 _ ⟨fun _ => ?_, fun _ _ => trivial⟩
  exact {
    first := fun s hs => by
      obtain rfl := hwatched s _ hs.1.2
      exact ⟨⟨Nat.one_pos, by decide +kernel⟩, rfl, fun s' _ hs' => hwatched s' _ hs'.1.2⟩
    stays := fun s hs => Bool.false_ne_true hs.2.1
    down := fun s _ htaken hs => by
      obtain rfl := hpresent s hs
      rcases htaken with hon | ⟨s', -, hne, hs'⟩
      · exact absurd hon Bool.false_ne_true
      · exact absurd (hwatched s' _ hs'.1.2) hne
    up := fun s _ hno _ hs => by
      obtain rfl := hpresent s hs
      exact absurd (by decide +kernel) hno }

/-- **Never cleared, and the second parameter.** A voltage that is back inside its range is not cleared; a current that is too
high together with the voltage is not raised. -/
theorem never_cleared : ¬ Tally.Along (next voltageMeter) (ThreRun.Right voltageMeter) started [finds 260 0, finds 230 0] ∧
    ¬ Tally.Along (next bothMeter) (ThreRun.Right bothMeter) started [finds 260 20] := by
  refine ⟨fun h => ?_, fun h => ?_⟩
  · have hright := (h.2 _ rfl).1
    have hclear := (hright.cleared voltageSpot (by decide +kernel)).2 ⟨by decide +kernel, by decide +kernel⟩
    exact absurd hclear (by decide +kernel)
  · have hraise := (h.1.raised currentSpot (by decide +kernel)).2 ⟨rfl, by decide +kernel⟩
    exact absurd hraise (by decide +kernel)

end DataConcentrator.ElectricityMeter
