/-
The alarm of a stuck light sensor: `Lumeter24HourUnchangedAlarm`, over the samples that
`LumeterRecvAndHandleDeviceFrame` takes.

Allocations succeed. The alarm is raised when a value is away from its reference, and cleared when it is back.
- `poll_spec`: what a poll does to a sensor, and what it reports;
- `raises_apart`: a value that raises the alarm is not within its range;
- `unchanged_law_iff`: over a run, the reports are right exactly if nothing is to be reported and nothing is.
-/
import DataConcentrator.Lumeter.Threshold

namespace DataConcentrator.Lumeter

open CLoop (foldlM_inv)
open EachIndex (eachRange eachRange_entry mem_eachRange)

/-! ## The routine -/

/-- what the receiver and the static `occur` hold, and `value_unchanged_range` of each sensor -/
structure Station where
  receiver : Receiver
  occur : ℕ → Bool
  value_unchanged_range : ℕ → UInt32

/-- `abs((s32)(value - ref_value))` -/
def SensorState.apart (s : SensorState) : ℕ := (s32 (s.value - s.ref_value)).natAbs

/-- a sensor in the loop: its state and `occur`, and the report if `record` is set -/
def pollSensor (basic : BasicConfig) (range now : UInt32) (st : SensorState × Bool) :
    (SensorState × Bool) × Option Bool :=
  let (s, occur) := st
  if basic.stack_depth.toNat * 2 ≤ s.collect_time.toNat then
    if occur = false then
      if range.toNat ≤ s.apart then
        if 86400 ≤ now - s.unchange_time then ((s, true), some true) else ((s, occur), none)
      else (({ s with collect_time := 0 }, occur), none)
    else if s.apart < range.toNat then (({ s with collect_time := 0 }, false), some false)
    else ((s, occur), none)
  else ((s, occur), none)

/-- the state after a call, and its reports -/
def lumeter24HourUnchangedAlarm (enable : UInt8) (now : UInt32) (st : Station) : Station × List (ℕ × Bool) :=
  if enable = 1 then
    let r := eachRange (fun i => pollSensor st.receiver.basic (st.value_unchanged_range i) now) st.receiver.number
      fun i => (st.receiver.state i, st.occur i)
    ({ st with
      receiver := { st.receiver with state := fun i => (r.1 i).1 }
      occur := fun i => (r.1 i).2 }, r.2)
  else (st, [])

/-! ## Runs -/

/-- a sample that is accepted, or a call of the alarm, at a second -/
inductive Moment where
  | sample (now : ℕ) (address channel : UInt8) (value : UInt32)
  | poll (now : ℕ) (enable : UInt8)

def Moment.now : Moment → ℕ
  | .sample now .. => now
  | .poll now _ => now

/-- `GetSysTick1s` -/
def tick1s (now : ℕ) : UInt32 := UInt32.ofNat now

def Station.step (st : Station) : Moment → Option Station
  | .sample now address channel value =>
    (st.receiver.step (.sample (tick1s now) address channel value)).map fun r => { st with receiver := r }
  | .poll now enable => some (lumeter24HourUnchangedAlarm enable (tick1s now) st).1

/-- a sensor has a value, and it is within the range of its reference -/
def Station.Within (st : Station) (i : ℕ) : Prop :=
  st.receiver.init_flag i ≠ 1 ∧
    ((st.receiver.state i).value.toNat - (st.receiver.state i).ref_value.toNat : ℤ).natAbs <
      (st.value_unchanged_range i).toNat

instance (st : Station) (i : ℕ) : Decidable (st.Within i) := inferInstanceAs (Decidable (_ ∧ _))

/-- a state of a run, for sensor `i`: since when its value has been within the range, and whether each of its samples but the
first has changed its value by more than the range -/
structure Watched where
  station : Station
  since : Option ℕ
  changing : Bool

/-- the value of a sensor changes by more than the range -/
def Moves (i : ℕ) (before after : Station) : Prop :=
  (before.value_unchanged_range i).toNat <
    ((after.receiver.state i).value.toNat - (before.receiver.state i).value.toNat : ℤ).natAbs

instance (i : ℕ) (before after : Station) : Decidable (Moves i before after) := inferInstanceAs (Decidable (_ < _))

/-- the sample is one of sensor `i` -/
def Hears (i : ℕ) (st : Station) : Moment → Bool
  | .sample _ address channel _ => st.receiver.basic.stack_depth ≠ 0 && st.receiver.find address channel = some i
  | .poll .. => false

def Watched.step (i : ℕ) (w : Watched) (m : Moment) : Option Watched :=
  (w.station.step m).map fun st => {
    station := st
    since := if st.Within i then some (w.since.getD m.now) else none
    changing := w.changing && (!Hears i w.station m || w.station.receiver.init_flag i = 1 || decide (Moves i w.station st)) }

/-- **Stuck**: the value has been within the range for a day -/
def Watched.Stuck (w : Watched) (now : ℕ) : Prop := ∃ t, w.since = some t ∧ t + 86400 ≤ now

/-- what a call of the alarm has to report about sensor `i` -/
structure Watched.Right (i : ℕ) (w : Watched) (now : ℕ) : Prop where
  raise : w.station.occur i = false →
    ((i, true) ∈ (lumeter24HourUnchangedAlarm 1 (tick1s now) w.station).2 ↔ w.Stuck now)
  clear : w.station.occur i = true →
    ((i, false) ∈ (lumeter24HourUnchangedAlarm 1 (tick1s now) w.station).2 ↔ ¬ w.station.Within i)
  changing : w.changing = true → (i, true) ∉ (lumeter24HourUnchangedAlarm 1 (tick1s now) w.station).2

/-- the branch that raises the alarm would be taken -/
def Raises (i : ℕ) (w : Watched) (now : ℕ) : Prop :=
  w.station.receiver.basic.stack_depth.toNat * 2 ≤ (w.station.receiver.state i).collect_time.toNat ∧
    (w.station.value_unchanged_range i).toNat ≤ (w.station.receiver.state i).apart ∧
      86400 ≤ tick1s now - (w.station.receiver.state i).unchange_time

/-- what holds at every call of a run while the alarm is on -/
def AtPolls (i : ℕ) (P : Watched → ℕ → Prop) (w : Watched) (moments : List Moment) : Prop :=
  ∀ pre now post w', moments = pre ++ .poll now 1 :: post → pre.foldlM (Watched.step i) w = some w' → P w' now

/-! ## A call -/

/-- a difference cut to 32 bits is no greater -/
theorem apart_le (s : SensorState) : s.apart ≤ (s.value.toNat - s.ref_value.toNat : ℤ).natAbs := by
  have hmod : s32 (s.value - s.ref_value) = ((s.value.toNat : ℤ) - s.ref_value.toNat).bmod (2 ^ 32) :=
    (congrArg (Int.bmod · (2 ^ 32)) (toNat_sub_mod s.value s.ref_value)).trans (Int.emod_bmod _ _)
  have hv := s.value.toNat_lt
  have hr := s.ref_value.toNat_lt
  have hle : ∀ x : ℤ, -2 ^ 32 < x → x < 2 ^ 32 → (x.bmod (2 ^ 32)).natAbs ≤ x.natAbs := fun x h1 h2 => by
    rw [Int.bmod_def]
    omega
  rw [SensorState.apart, hmod]
  exact hle _ (by omega) (by omega)

section Poll

variable {i : ℕ} {st : Station} {w : Watched}

theorem raises_apart {now : ℕ} (h : Raises i w now) : ¬ w.station.Within i := fun hin =>
  absurd hin.2 (Nat.not_lt.2 (h.2.1.trans (apart_le _)))

/-- **A call** raises the alarm in its branch alone, and reports it. -/
theorem poll_spec (hi : i < w.station.receiver.number) (hoccur : w.station.occur i = false) (now : ℕ) :
    ((i, true) ∈ (lumeter24HourUnchangedAlarm 1 (tick1s now) w.station).2 ↔ Raises i w now) ∧
      ((lumeter24HourUnchangedAlarm 1 (tick1s now) w.station).1.occur i = true → Raises i w now) := by
  rw [lumeter24HourUnchangedAlarm, if_pos rfl]
  dsimp only
  rw [mem_eachRange, eachRange_entry, and_iff_right hi, if_pos hi, pollSensor, hoccur, Raises]
  split_ifs <;> simp_all

theorem poll_number (enable : UInt8) (now : UInt32) :
    (lumeter24HourUnchangedAlarm enable now st).1.receiver.number = st.receiver.number := by
  rw [lumeter24HourUnchangedAlarm]
  split_ifs <;> rfl

theorem handle_number {r r' : Receiver} {now : UInt32} {c : CollectState} (h : r.handle now c = some r') :
    r'.number = r.number := by
  rw [Receiver.handle] at h
  split_ifs at h
  · cases hfind : r.find c.address c.channel with
    | none =>
      rw [hfind] at h
      rw [← Option.some.inj h]
    | some k =>
      rw [hfind] at h
      obtain ⟨⟨s, flag⟩, -, h⟩ := Option.bind_eq_some_iff.1 h
      rw [← Option.some.inj h]
  · rw [← Option.some.inj h]

end Poll

/-! ## Every run -/

/-- what holds in every state of a run -/
structure Sound (i : ℕ) (w : Watched) : Prop where
  number : i < w.station.receiver.number
  since : ∀ t, w.since = some t → w.station.Within i

section Run

variable {i : ℕ} {w w' : Watched} {m : Moment}

theorem Watched.step_cases (h : w.step i m = some w') : ∃ st, w.station.step m = some st ∧ w'.station = st ∧
    w'.since = if st.Within i then some (w.since.getD m.now) else none := by
  obtain ⟨st, hst, rfl⟩ := Option.map_eq_some_iff.1 h
  exact ⟨st, hst, rfl, rfl⟩

theorem Sound.step (hw : Sound i w) (h : w.step i m = some w') : Sound i w' := by
  obtain ⟨st, hst, rfl, hsince⟩ := Watched.step_cases h
  refine ⟨?_, fun t ht => ?_⟩
  · have hnumber : w'.station.receiver.number = w.station.receiver.number := by
      cases m with
      | sample now address channel value =>
        obtain ⟨r, hr, heq⟩ := Option.map_eq_some_iff.1 hst
        rw [← heq]
        exact handle_number hr
      | poll now enable =>
        rw [← Option.some.inj hst]
        exact poll_number _ _
    rw [hnumber]
    exact hw.number
  · rw [hsince] at ht
    split_ifs at ht with hin
    exact hin

theorem sound_run (hw : Sound i w) {moments : List Moment} (h : moments.foldlM (Watched.step i) w = some w') : Sound i w' :=
  foldlM_inv (fun _ _ _ hs hstep => Sound.step hs hstep) moments w w' hw h

/-- a step that does not raise the alarm -/
theorem quiet_step (hw : Sound i w) (hoccur : w.station.occur i = false) (h : w.step i m = some w')
    (hpoll : ∀ now, m = .poll now 1 → ¬ Raises i w now) : w'.station.occur i = false := by
  obtain ⟨st, hst, rfl, -⟩ := Watched.step_cases h
  cases m with
  | sample now address channel value =>
    obtain ⟨r, -, heq⟩ := Option.map_eq_some_iff.1 hst
    rw [← heq]
    exact hoccur
  | poll now enable =>
    have hst : (lumeter24HourUnchangedAlarm enable (tick1s now) w.station).1 = w'.station := Option.some.inj hst
    rw [← hst]
    by_cases henable : enable = 1
    · subst henable
      exact Bool.eq_false_iff.2 fun hraised => hpoll now rfl ((poll_spec hw.number hoccur now).2 hraised)
    · rw [lumeter24HourUnchangedAlarm, if_neg henable]
      exact hoccur

/-- a run in which no call raises the alarm -/
theorem quiet_run (moments : List Moment) : ∀ {w : Watched}, Sound i w → w.station.occur i = false →
    AtPolls i (fun w now => w.station.occur i = false → ¬ Raises i w now) w moments →
    ∀ w', moments.foldlM (Watched.step i) w = some w' → w'.station.occur i = false := by
  induction moments with
  | nil =>
    intro w _ hoccur _ w' h
    rw [← Option.some.inj h]
    exact hoccur
  | cons m ms ih =>
    intro w hw hoccur hquiet w' h
    rw [List.foldlM_cons] at h
    obtain ⟨u, hu, h⟩ := Option.bind_eq_some_iff.1 h
    have hnext := quiet_step hw hoccur hu fun now hm => by
      subst hm
      exact hquiet [] now ms w rfl rfl hoccur
    refine ih (hw.step hu) hnext (fun pre now post v hpre hv => ?_) w' h
    refine hquiet (m :: pre) now post v (by rw [hpre]; rfl) ?_
    rw [List.foldlM_cons, hu]
    exact hv

end Run

/-- **The alarm of a stuck sensor.** In a run that starts without an alarm, every call reports about a sensor what it has to
exactly if no call finds it stuck and none takes the branch that raises the alarm. -/
theorem unchanged_law_iff (st : Station) (i : ℕ) (hi : i < st.receiver.number) (hstart : st.occur i = false)
    (moments : List Moment) :
    AtPolls i (Watched.Right i) ⟨st, none, true⟩ moments ↔
      AtPolls i (fun w now => ¬ w.Stuck now ∧ ¬ Raises i w now) ⟨st, none, true⟩ moments := by
  have hsound : Sound i ⟨st, none, true⟩ := ⟨hi, fun t ht => absurd ht.symm (Option.some_ne_none t)⟩
  -- a call that raises the alarm reports a sensor that is not stuck
  have hwrong : ∀ w now, Sound i w → w.station.occur i = false → (Watched.Right i w now ↔ ¬ w.Stuck now ∧ ¬ Raises i w now) := by
    intro w now hw hoccur
    have hreport := (poll_spec hw.number hoccur now).1
    have hapart : Raises i w now → ¬ w.Stuck now := fun hraises ⟨t, ht, _⟩ => raises_apart hraises (hw.since t ht)
    constructor
    · intro h
      have hiff := hreport.symm.trans (h.raise hoccur)
      exact ⟨fun hstuck => hapart (hiff.2 hstuck) hstuck, fun hraises => hapart hraises (hiff.1 hraises)⟩
    · rintro ⟨hstuck, hraises⟩
      refine ⟨fun _ => hreport.trans (iff_of_false hraises hstuck), fun hon => ?_, fun _ h => hraises (hreport.1 h)⟩
      rw [hoccur] at hon
      exact absurd hon Bool.false_ne_true
  have hprefix : ∀ (P : Watched → ℕ → Prop), (∀ w now, Sound i w → w.station.occur i = false → P w now → ¬ Raises i w now) →
      AtPolls i P ⟨st, none, true⟩ moments → ∀ pre now post w, moments = pre ++ .poll now 1 :: post →
        pre.foldlM (Watched.step i) ⟨st, none, true⟩ = some w → w.station.occur i = false := by
    intro P hP h pre now post w hmoments hrun
    refine quiet_run pre hsound hstart (fun pre' now' post' w' hpre hrun' hoccur => ?_) w hrun
    refine hP w' now' (sound_run hsound hrun') hoccur (h pre' now' (post' ++ .poll now 1 :: post) w' ?_ hrun')
    rw [hmoments, hpre, List.append_assoc]
    rfl
  constructor
  · intro h pre now post w hmoments hrun
    have hoccur := hprefix _ (fun w now hw hoccur hright => ((hwrong w now hw hoccur).1 hright).2) h pre now post w hmoments hrun
    exact (hwrong w now (sound_run hsound hrun) hoccur).1 (h pre now post w hmoments hrun)
  · intro h pre now post w hmoments hrun
    have hoccur := hprefix _ (fun w now _ _ hquiet => hquiet.2) h pre now post w hmoments hrun
    exact (hwrong w now (sound_run hsound hrun) hoccur).2 (h pre now post w hmoments hrun)

/-! ## One sensor -/

/-- one sensor that averages over one sample, with a range of 1000 -/
def oneStation : Station := ⟨oneSensor 1 0, fun _ => false, fun _ => 1000⟩

/-- a call before the first sample -/
theorem early_poll : AtPolls 0 (Watched.Right 0) ⟨oneStation, none, true⟩ [.poll 0 1] := by
  refine (unchanged_law_iff oneStation 0 Nat.one_pos rfl [.poll 0 1]).2 fun pre now post w hmoments hrun => ?_
  cases pre with
  | nil =>
    rw [← Option.some.inj hrun]
    refine ⟨?_, fun h => absurd h.1 (by decide)⟩
    rintro ⟨t, ht, -⟩
    exact absurd ht.symm (Option.some_ne_none t)
  | cons m ms => exact absurd (List.cons.inj hmoments).2 (List.ne_nil_of_length_pos (by simp)).symm

/-- what a run leaves: since when the value is within its range, whether the alarm is on, and what a call reports -/
def outcome (moments : List Moment) (now : ℕ) : Option (Option ℕ × Bool × List (ℕ × Bool)) :=
  (moments.foldlM (Watched.step 0) ⟨oneStation, none, true⟩).map fun w =>
    (w.since, w.station.occur 0, (lumeter24HourUnchangedAlarm 1 (tick1s now) w.station).2)

/-- **The wrong way round.** A dark sensor whose value does not change for a day is not reported; one that gets bright is,
as soon as it has been sampled twice. -/
theorem wrong_way_round : ¬ AtPolls 0 (Watched.Right 0) ⟨oneStation, none, true⟩ [.sample 0 5 1 7, .poll 86400 1] ∧
    ¬ AtPolls 0 (Watched.Right 0) ⟨oneStation, none, true⟩
      [.sample 86400 5 1 2000, .sample 86400 5 1 2000, .poll 86400 1] := by
  have hright : ∀ (pre : List Moment) (since : Option ℕ) (reports : List (ℕ × Bool)),
      outcome pre 86400 = some (since, false, reports) →
      AtPolls 0 (Watched.Right 0) ⟨oneStation, none, true⟩ (pre ++ [.poll 86400 1]) →
      ((0, true) ∈ reports ↔ ∃ t, since = some t ∧ t + 86400 ≤ 86400) := by
    intro pre since reports houtcome h
    obtain ⟨w, hrun, hw⟩ := Option.map_eq_some_iff.1 houtcome
    obtain ⟨rfl, hoff, rfl⟩ : w.since = since ∧ w.station.occur 0 = false ∧ _ = reports := by simpa using hw
    exact (h pre 86400 [] w rfl hrun).raise hoff
  refine ⟨fun h => ?_, fun h => ?_⟩
  · have hstuck := (hright [.sample 0 5 1 7] (some 0) [] (by decide +kernel) h).2 ⟨0, rfl, le_rfl⟩
    exact absurd hstuck List.not_mem_nil
  · obtain ⟨t, ht, -⟩ := (hright [.sample 86400 5 1 2000, .sample 86400 5 1 2000] none [(0, true)] (by decide +kernel) h).1
      (List.mem_singleton_self _)
    exact absurd ht.symm (Option.some_ne_none t)

end DataConcentrator.Lumeter
