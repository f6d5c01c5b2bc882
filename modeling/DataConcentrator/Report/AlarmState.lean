/-
The alarm counter `SysAlarmState`, fed by the reports of the input collector and relay checks.

Allocations and queue sends succeed.
- `detect_collector`: with their reports the checks do to the collectors what they did without;
- `moduleStep_good`, `relayStep_good`: a module that reports, under the condition, keeps the counter at the number of
  devices with an alarm;
- `alarmState_accounted`: in every run in which a check raises the alarms of a module in one pass and clears them in one
  pass, the counter is 0 exactly when no alarm is raised, and each alarm is reported raised and cleared in turn;
- `partial_clear`: a second loop of a module that is cleared later leaves the counter at 1 for ever.
-/
import DataConcentrator.InputCollector.Alarms
import DataConcentrator.Lib.Ledger

namespace DataConcentrator.Report

open DataConcentrator.InputCollector
open Ledger (Book Alternates Balanced balanced_empty)

/-! ## Reports -/

/-- what a report is about: a check of an input collector, or the task state of a relay module -/
inductive Source where
  | input (check : Check) (i : ℕ)
  | relay (i : ℕ)
deriving DecidableEq

/-- `cnt` and `occur` of `RelayAlarmTaskAbnormal` for a module -/
structure RelayAlarm where
  cnt : Int16
  occur : Bool
deriving DecidableEq

/-- the collectors, the relay modules, and `SysAlarmState` with the reports pushed so far -/
structure System where
  collector : Collector
  relay : ℕ → RelayAlarm
  book : Book Source

/-- `PushAlarmReportToAlarmQueue`; `SysAlarmState` is a `u32` -/
def pushAlarmReportToAlarmQueue (s : System) (source : Source) (record_type : ℕ) : System :=
  { s with book := s.book.push (2 ^ 32) source (record_type = 1) }

/-! ## The input collectors -/

variable {δ : Type}

/-- the check confirms a change of the loop, so `record[i]` is set -/
def changes (d : Detection) (c : Collector) (l : ℕ × ℕ) : Bool :=
  (d.sensed l.1 l.2).present &&
    ((c.counter ⟨d.check, l.1, l.2⟩).tick (d.threshold l.1 l.2).confirm_time (d.sensed l.1 l.2)).2 ≠ .stays

/-- one loop of module `i`, with `record[i]` -/
def loopRecord (d : Detection) (i : ℕ) (r : Collector × Bool) (j : ℕ) : Option (Collector × Bool) :=
  (d.loopStep r.1 (i, j)).map fun c => (c, r.2 || changes d r.1 (i, j))

/-- all loops of module `i` -/
def pass (d : Detection) (i : ℕ) (c : Collector) : Option (Collector × Bool) :=
  (List.range (d.loop_num i).toNat).foldlM (loopRecord d i) (c, false)

/-- the `record_type` of the report is taken from the abnormal loops of the module -/
def recordType (d : Detection) (i : ℕ) (c : Collector) : ℕ := if c.abnormal_loop d.check.table i ≠ 0 then 1 else 0

/-- one module -/
def moduleStep (d : Detection) (s : System) (i : ℕ) : Option System :=
  (pass d i s.collector).map fun (c, record) =>
    let s := { s with collector := c }
    if record then pushAlarmReportToAlarmQueue s (.input d.check i) (recordType d i c) else s

/-- a check with its reports -/
def detectReport (cfg : Config δ) (p : Poll δ) (s : System) (d : Detection) : Option System :=
  if d.due p s.collector then (List.range cfg.number).foldlM (moduleStep d) { s with collector := d.started p s.collector }
  else some s

/-- the three checks of `InputCollectorEventCheckPolling` -/
def detections (D : Doubles δ) (cfg : Config δ) (p : Poll δ) : List Detection :=
  [digitalDetection cfg p, overDetection D cfg p, underDetection D cfg p]

/-! ## The relay modules -/

def MAX_RELAY_MODULE_CONF_NUM : ℕ := 5

/-- what `RelayAlarmTaskAbnormal` finds when it is called -/
structure RelayPoll where
  task_abnormal_alarm_enable : UInt8
  loop_current_state : ℕ → UInt16
  loop_task_state : ℕ → UInt16

/-- the count of a module, and `record[i]` -/
def RelayAlarm.tick (a : RelayAlarm) (differs : Bool) : RelayAlarm × Bool :=
  if a.occur = false then
    if differs then if a.cnt + 1 = 10 then (⟨10, true⟩, true) else (⟨a.cnt + 1, false⟩, false)
    else (⟨0, false⟩, false)
  else if !differs then if a.cnt - 1 = -10 then (⟨-10, false⟩, true) else (⟨a.cnt - 1, true⟩, false)
  else (⟨0, true⟩, false)

/-- one module; `record_type` is taken from `cnt`, which is 10 or -10 -/
def relayStep (p : RelayPoll) (s : System) (i : ℕ) : Option System :=
  let r := (s.relay i).tick (p.loop_current_state i ≠ p.loop_task_state i)
  let s := { s with relay := Function.update s.relay i r.1 }
  some (if r.2 then pushAlarmReportToAlarmQueue s (.relay i) (if r.1.cnt = 10 then 1 else 0) else s)

/-! ## Runs -/

/-- the numbers of modules -/
structure Modules (δ : Type) where
  input : Config δ
  relays : ℕ
  fits : relays ≤ MAX_RELAY_MODULE_CONF_NUM

/-- a call of `InputCollectorEventCheckPolling` or of `RelayAlarmTaskAbnormal` -/
inductive Call (δ : Type) where
  | input (p : Poll δ)
  | relay (p : RelayPoll)

def callStep (D : Doubles δ) (m : Modules δ) (s : System) : Call δ → Option System
  | .input p => (detections D m.input p).foldlM (detectReport m.input p) s
  | .relay p => if p.task_abnormal_alarm_enable = 1 then (List.range m.relays).foldlM (relayStep p) s else some s

/-! ## The collectors, without the reports -/

/-- the loops of the modules, one module after the other -/
theorem foldlM_loops (f : Collector → ℕ × ℕ → Option Collector) (number : ℕ) (loop_num : ℕ → UInt8) (c : Collector) :
    (loops number loop_num).foldlM f c =
      (List.range number).foldlM (fun c i => (List.range (loop_num i).toNat).foldlM (fun c j => f c (i, j)) c) c := by
  rw [loops]
  induction List.range number generalizing c with
  | nil => rfl
  | cons i is ih =>
    rw [List.flatMap_cons, List.foldlM_append, List.foldlM_map, List.foldlM_cons]
    exact Option.bind_congr fun t _ => ih t

theorem moduleStep_collector (d : Detection) (s : System) (i : ℕ) :
    (moduleStep d s i).map System.collector =
      (List.range (d.loop_num i).toNat).foldlM (fun c j => d.loopStep c (i, j)) s.collector := by
  have hpass : (pass d i s.collector).map Prod.fst =
      (List.range (d.loop_num i).toNat).foldlM (fun c j => d.loopStep c (i, j)) s.collector := by
    refine Tally.foldlM_view Prod.fst (fun r j => ?_) _ (s.collector, false)
    rw [loopRecord, Option.map_map]
    exact Option.map_id'
  rw [← hpass, moduleStep, Option.map_map]
  refine congrArg (Option.map · (pass d i s.collector)) (funext fun r => ?_)
  obtain ⟨c, record⟩ := r
  cases record <;> rfl

theorem detectReport_collector (cfg : Config δ) (p : Poll δ) (s : System) (d : Detection) :
    (detectReport cfg p s d).map System.collector = detect cfg p d s.collector := by
  rw [detectReport, detect]
  split_ifs
  · rw [foldlM_loops]
    exact Tally.foldlM_view System.collector (moduleStep_collector d) _ _
  · rfl

/-- **With their reports the checks do what they did without.** -/
theorem detect_collector (D : Doubles δ) (m : Modules δ) (s : System) (p : Poll δ) :
    (callStep D m s (.input p)).map System.collector = inputCollectorEventCheckPolling D m.input p s.collector := by
  have hview := @Tally.foldlM_view _ _ _ _ (fun c d => detect m.input p d c) System.collector
    (detectReport_collector m.input p) (detections D m.input p) s
  refine hview.trans ?_
  simp only [detections, List.foldlM_cons, List.foldlM_nil, inputCollectorEventCheckPolling,
    inputCollectorD_QuantityAbnormal, inputCollectorA_OverQuantityAbnormal, inputCollectorA_UnderQuantityAbnormal]
  exact Option.bind_congr fun _ _ => Option.bind_congr fun _ _ => Option.bind_fun_some _

/-! ## What a pass does -/

theorem raise_counter (c : Collector) (a : Alarm) (thre : Threshold) : (c.raise a thre).counter = c.counter := by
  unfold Collector.raise Collector.switchOff Collector.switchMode Collector.setAbnormal
  split_ifs <;> rfl

theorem raise_mask (c : Collector) (a : Alarm) (thre : Threshold) :
    (c.raise a thre).abnormal_loop a.check.table a.i = c.abnormal_loop a.check.table a.i ||| 1 <<< UInt16.ofNat a.j := by
  unfold Collector.raise Collector.switchOff Collector.switchMode Collector.setAbnormal
  split_ifs <;> simp

theorem clear_counter (c : Collector) (a : Alarm) (thre : Threshold) : (c.clear a thre).counter = c.counter := by
  unfold Collector.clear Collector.resumeMode Collector.setAbnormal
  split_ifs <;> rfl

/-- **A loop**: nothing is confirmed and every alarm is as before; or the alarm of the loop alone is raised or cleared,
with its bit of the mask -/
theorem loopStep_cases {d : Detection} {i j : ℕ} {c c' : Collector} (h : d.loopStep c (i, j) = some c') :
    j < MAX_INPUT_COLLECTOR_LOOP_CH_NUM ∧ (∀ a, a ≠ ⟨d.check, i, j⟩ → (c'.counter a).occur = (c.counter a).occur) ∧
    (changes d c (i, j) = false ∧ (c'.counter ⟨d.check, i, j⟩).occur = (c.counter ⟨d.check, i, j⟩).occur ∧
        c'.abnormal_loop = c.abnormal_loop ∨
      changes d c (i, j) = true ∧ (c.counter ⟨d.check, i, j⟩).occur = false ∧ (c'.counter ⟨d.check, i, j⟩).occur = true ∧
        c'.abnormal_loop d.check.table i = c.abnormal_loop d.check.table i ||| 1 <<< UInt16.ofNat j ∨
      changes d c (i, j) = true ∧ (c.counter ⟨d.check, i, j⟩).occur = true ∧
        (c'.counter ⟨d.check, i, j⟩).occur = false) := by
  rw [Detection.loopStep, Collector.checkLoop] at h
  dsimp only at h
  split_ifs at h with hj hpresent
  · refine ⟨hj, ?_⟩
    have hocc := Counter.tick_occur (c.counter ⟨d.check, i, j⟩) (d.threshold i j).confirm_time (d.sensed i j)
    rw [changes, hpresent, Bool.true_and]
    generalize (c.counter ⟨d.check, i, j⟩).tick (d.threshold i j).confirm_time (d.sensed i j) = r at h hocc ⊢
    obtain ⟨n, change⟩ := r
    cases change with
    | stays =>
      rw [← Option.some.inj h]
      refine ⟨fun a ha => by simp only [Function.update_of_ne ha], Or.inl ⟨rfl, ?_, rfl⟩⟩
      simp only [Function.update_self]
      exact hocc
    | raised =>
      rw [← Option.some.inj h]
      obtain ⟨hbefore, hafter⟩ := hocc
      have hcounter := raise_counter { c with counter := Function.update c.counter ⟨d.check, i, j⟩ n } ⟨d.check, i, j⟩
        (d.threshold i j)
      have hmask := raise_mask { c with counter := Function.update c.counter ⟨d.check, i, j⟩ n } ⟨d.check, i, j⟩
        (d.threshold i j)
      rw [hcounter]
      refine ⟨fun a ha => by simp only [Function.update_of_ne ha], Or.inr (Or.inl ⟨rfl, hbefore, ?_, hmask⟩)⟩
      simp only [Function.update_self]
      exact hafter
    | cleared =>
      rw [← Option.some.inj h]
      obtain ⟨hbefore, hafter⟩ := hocc
      have hcounter := clear_counter { c with counter := Function.update c.counter ⟨d.check, i, j⟩ n } ⟨d.check, i, j⟩
        (d.threshold i j)
      rw [hcounter]
      refine ⟨fun a ha => by simp only [Function.update_of_ne ha], Or.inr (Or.inr ⟨rfl, hbefore, ?_⟩)⟩
      simp only [Function.update_self]
      exact hafter
  · rw [← Option.some.inj h, changes, Bool.eq_false_iff.2 hpresent]
    exact ⟨hj, fun _ _ => rfl, Or.inl ⟨rfl, rfl, rfl⟩⟩

/-- loops one after the other touch the alarms of their check and module, and nothing when none is confirmed -/
theorem loops_frame {d : Detection} {i : ℕ} (js : List ℕ) : ∀ {r r' : Collector × Bool},
    js.foldlM (loopRecord d i) r = some r' →
      (∀ a, a.check ≠ d.check ∨ a.i ≠ i → (r'.1.counter a).occur = (r.1.counter a).occur) ∧
      (r'.2 = false → r.2 = false ∧ ∀ a, (r'.1.counter a).occur = (r.1.counter a).occur) := by
  induction js with
  | nil =>
    intro r r' h
    rw [← Option.some.inj h]
    exact ⟨fun _ _ => rfl, fun h => ⟨h, fun _ => rfl⟩⟩
  | cons j js ih =>
    intro r r' h
    rw [List.foldlM_cons] at h
    obtain ⟨r1, hr1, h⟩ := Option.bind_eq_some_iff.1 h
    obtain ⟨c, hc, rfl⟩ := Option.map_eq_some_iff.1 hr1
    obtain ⟨-, hothers, hcases⟩ := loopStep_cases hc
    obtain ⟨hframe, hquiet⟩ := ih h
    constructor
    · intro a ha
      rw [hframe a ha]
      refine hothers a ?_
      rintro rfl
      exact ha.elim (fun h => h rfl) fun h => h rfl
    · intro hfalse
      obtain ⟨hor, hsame⟩ := hquiet hfalse
      obtain ⟨hr, hchange⟩ := Bool.or_eq_false_iff.1 hor
      refine ⟨hr, fun a => ?_⟩
      rw [hsame a]
      by_cases ha : a = ⟨d.check, i, j⟩
      · rcases hcases with ⟨-, hocc, -⟩ | ⟨htrue, -⟩ | ⟨htrue, -⟩
        · rw [ha]
          exact hocc
        · exact absurd (hchange.symm.trans htrue) (by decide)
        · exact absurd (hchange.symm.trans htrue) (by decide)
      · exact hothers a ha

/-- a check has an alarm raised on a module -/
def LoopRaised (c : Collector) (check : Check) (i : ℕ) : Prop :=
  ∃ j, j < MAX_INPUT_COLLECTOR_LOOP_CH_NUM ∧ (c.counter ⟨check, i, j⟩).occur = true

theorem loopRaised_congr {c c' : Collector} {check : Check} {i : ℕ}
    (h : ∀ j, (c'.counter ⟨check, i, j⟩).occur = (c.counter ⟨check, i, j⟩).occur) :
    LoopRaised c' check i ↔ LoopRaised c check i :=
  exists_congr fun j => and_congr_right fun _ => by rw [h j]

theorem bit_ne_zero {j : ℕ} (h : j < MAX_INPUT_COLLECTOR_LOOP_CH_NUM) : (1 : UInt16) <<< UInt16.ofNat j ≠ 0 := by
  have hall : ∀ j < 8, (1 : UInt16) <<< UInt16.ofNat j ≠ 0 := by decide
  exact hall j h

/-- loops without an alarm can only raise theirs; then the mask shows it -/
theorem loops_raise {d : Detection} {i : ℕ} (js : List ℕ) : js.Nodup → ∀ {r r' : Collector × Bool},
    (∀ j ∈ js, j < MAX_INPUT_COLLECTOR_LOOP_CH_NUM → (r.1.counter ⟨d.check, i, j⟩).occur = false) →
    (r.2 = true → LoopRaised r.1 d.check i ∧ r.1.abnormal_loop d.check.table i ≠ 0) →
    js.foldlM (loopRecord d i) r = some r' →
      (r'.2 = true → LoopRaised r'.1 d.check i ∧ r'.1.abnormal_loop d.check.table i ≠ 0) := by
  induction js with
  | nil =>
    intro _ r r' _ hr h
    rwa [← Option.some.inj h]
  | cons j js ih =>
    intro hnodup r r' hquiet hr h
    obtain ⟨hj, hnodup⟩ := List.nodup_cons.1 hnodup
    rw [List.foldlM_cons] at h
    obtain ⟨r1, hr1, h⟩ := Option.bind_eq_some_iff.1 h
    obtain ⟨c, hc, rfl⟩ := Option.map_eq_some_iff.1 hr1
    obtain ⟨hlt, hothers, hcases⟩ := loopStep_cases hc
    refine ih hnodup (fun k hk hlt => ?_) (fun hrecord => ?_) h
    · -- the later loops are still without one
      have hne : (⟨d.check, i, k⟩ : Alarm) ≠ ⟨d.check, i, j⟩ := by
        rintro heq
        rw [(Alarm.mk.inj heq).2.2] at hk
        exact hj hk
      rw [hothers _ hne]
      exact hquiet k (List.mem_cons_of_mem j hk) hlt
    · rcases hcases with ⟨hchange, hocc, hmask⟩ | ⟨-, -, hafter, hmask⟩ | ⟨-, hbefore, -⟩
      · have hbefore : r.2 = true := by simpa [hchange] using hrecord
        obtain ⟨hraised, hne⟩ := hr hbefore
        refine ⟨(loopRaised_congr fun k => ?_).2 hraised, by rw [hmask]; exact hne⟩
        by_cases hk : k = j
        · rw [hk]
          exact hocc
        · exact hothers _ fun heq => hk (Alarm.mk.inj heq).2.2
      · refine ⟨⟨j, hlt, hafter⟩, ?_⟩
        rw [hmask]
        intro hzero
        exact bit_ne_zero hlt (UInt16.or_eq_zero_iff.1 hzero).2
      · exact absurd (hbefore.symm.trans (hquiet j (by simp) hlt)) (by decide)

/-! ## The counter -/

/-- an alarm of a source is raised -/
def Raised (m : Modules δ) (s : System) : Source → Prop
  | .input check i => i < m.input.number ∧ LoopRaised s.collector check i
  | .relay i => i < m.relays ∧ (s.relay i).occur = true

/-- **Accounted.** The counter is 0 exactly when no alarm is raised, no clear report finds it at 0, and each source
reports raised and cleared in turn. -/
structure Accounted (m : Modules δ) (s : System) : Prop where
  zero : s.book.count = 0 ↔ ∀ source, ¬ Raised m s source
  found : ∀ e ∈ s.book.entries, e.opened = false → 1 ≤ e.found
  turns : ∀ source, Alternates (s.book.about source)

/-- the sources with an alarm, and books balanced on them -/
def Good (m : Modules δ) (s : System) : Prop := ∃ S : Finset Source, Balanced S s.book ∧ ∀ k, k ∈ S ↔ Raised m s k

theorem Good.accounted {m : Modules δ} {s : System} (h : Good m s) : Accounted m s := by
  obtain ⟨S, hbook, hS⟩ := h
  refine ⟨?_, hbook.found, hbook.turns⟩
  rw [hbook.count_eq_zero_iff]
  exact forall_congr' fun k => not_congr (hS k)

/-- there are few sources -/
theorem card_raised {m : Modules δ} {s : System} {S : Finset Source} (hS : ∀ k, k ∈ S ↔ Raised m s k) :
    S.card + 1 < 2 ^ 32 := by
  have hsub : S ⊆ ((Finset.range 10).image (Source.input .digital) ∪ (Finset.range 10).image (Source.input .overLimit)) ∪
      ((Finset.range 10).image (Source.input .underLimit) ∪ (Finset.range 5).image Source.relay) := by
    intro k hk
    have hraised := (hS k).1 hk
    cases k with
    | input check i =>
      have hi : i < 10 := lt_of_lt_of_le hraised.1 m.input.fits
      cases check <;> simp [hi]
    | relay i =>
      have hi : i < 5 := lt_of_lt_of_le hraised.1 m.fits
      simp [hi]
  have hcard : (((Finset.range 10).image (Source.input .digital) ∪ (Finset.range 10).image (Source.input .overLimit)) ∪
      ((Finset.range 10).image (Source.input .underLimit) ∪ (Finset.range 5).image Source.relay)).card = 35 := by decide
  have hle := Finset.card_le_card hsub
  omega

/-- a source is reported raised -/
theorem Good.raise {m : Modules δ} {s t : System} (h : Good m s) {k : Source} (hbefore : ¬ Raised m s k)
    (hafter : Raised m t k) (hothers : ∀ l, l ≠ k → (Raised m t l ↔ Raised m s l))
    (hbook : t.book = s.book.push (2 ^ 32) k true) : Good m t := by
  obtain ⟨S, hbal, hS⟩ := h
  refine ⟨insert k S, ?_, fun l => ?_⟩
  · rw [hbook]
    exact hbal.opened (fun hk => hbefore ((hS k).1 hk)) (card_raised hS)
  · rw [Finset.mem_insert]
    by_cases hl : l = k
    · rw [hl]
      exact ⟨fun _ => hafter, fun _ => Or.inl rfl⟩
    · rw [or_iff_right hl, hothers l hl]
      exact hS l

/-- a source is reported cleared -/
theorem Good.clear {m : Modules δ} {s t : System} (h : Good m s) {k : Source} (hbefore : Raised m s k)
    (hafter : ¬ Raised m t k) (hothers : ∀ l, l ≠ k → (Raised m t l ↔ Raised m s l))
    (hbook : t.book = s.book.push (2 ^ 32) k false) : Good m t := by
  obtain ⟨S, hbal, hS⟩ := h
  refine ⟨S.erase k, ?_, fun l => ?_⟩
  · rw [hbook]
    exact hbal.closed ((hS k).2 hbefore) (2 ^ 32)
  · rw [Finset.mem_erase]
    by_cases hl : l = k
    · rw [hl]
      exact ⟨fun hm => absurd rfl hm.1, fun hr => absurd hr hafter⟩
    · rw [and_iff_right hl, hothers l hl]
      exact hS l

/-- nothing is reported -/
theorem Good.quiet {m : Modules δ} {s t : System} (h : Good m s) (hsame : ∀ l, Raised m t l ↔ Raised m s l)
    (hbook : t.book = s.book) : Good m t := by
  obtain ⟨S, hbal, hS⟩ := h
  exact ⟨S, by rw [hbook]; exact hbal, fun l => (hS l).trans (hsame l).symm⟩

/-- a pass that confirms a change finds no alarm of its check on the module, or clears the last ones and the mask -/
def PassFits (d : Detection) (i : ℕ) (c : Collector) : Prop :=
  ∀ r ∈ pass d i c, r.2 = true →
    ¬ LoopRaised c d.check i ∨ ¬ LoopRaised r.1 d.check i ∧ r.1.abnormal_loop d.check.table i = 0

instance decidableLoopRaised (c : Collector) (check : Check) (i : ℕ) : Decidable (LoopRaised c check i) :=
  inferInstanceAs (Decidable (∃ j, j < MAX_INPUT_COLLECTOR_LOOP_CH_NUM ∧ _))

instance decidablePassFits (d : Detection) (i : ℕ) (c : Collector) : Decidable (PassFits d i c) :=
  inferInstanceAs (Decidable (∀ r ∈ pass d i c, _))

/-- **A module of collectors** keeps the books. -/
theorem moduleStep_good {m : Modules δ} {d : Detection} {s t : System} {i : ℕ} (hi : i < m.input.number) (h : Good m s)
    (hfits : PassFits d i s.collector) (hstep : moduleStep d s i = some t) : Good m t := by
  obtain ⟨⟨c, record⟩, hpass, rfl⟩ := Option.map_eq_some_iff.1 hstep
  obtain ⟨hframe, hquiet⟩ := loops_frame _ hpass
  have hothers : ∀ book, ∀ l, l ≠ .input d.check i → (Raised m ⟨c, s.relay, book⟩ l ↔ Raised m s l) := by
    intro book l hl
    cases l with
    | input check k =>
      refine and_congr_right fun _ => loopRaised_congr fun j => hframe _ ?_
      by_contra hsame
      rw [not_or, not_ne_iff, not_ne_iff] at hsame
      exact hl (by rw [← hsame.1, ← hsame.2])
    | relay k => exact Iff.rfl
  cases record with
  | false =>
    refine h.quiet (fun l => ?_) rfl
    cases l with
    | input check k => exact and_congr_right fun _ => loopRaised_congr fun j => (hquiet rfl).2 _
    | relay k => exact Iff.rfl
  | true =>
    by_cases hraised : LoopRaised s.collector d.check i
    · obtain ⟨hcleared, hmask⟩ := (hfits _ hpass rfl).resolve_left fun hn => hn hraised
      have htype : recordType d i c = 0 := if_neg fun hne => hne hmask
      refine @Good.clear _ m s _ h (.input d.check i) ⟨hi, hraised⟩ (fun hr => hcleared hr.2) (hothers _) ?_
      show s.book.push _ _ (decide (recordType d i c = 1)) = _
      rw [htype]
      rfl
    · have hnone : ∀ j ∈ List.range (d.loop_num i).toNat, j < MAX_INPUT_COLLECTOR_LOOP_CH_NUM →
          (s.collector.counter ⟨d.check, i, j⟩).occur = false := by
        intro j _ hj
        exact Bool.eq_false_iff.2 fun ht => hraised ⟨j, hj, ht⟩
      obtain ⟨hafter, hmask⟩ := loops_raise _ List.nodup_range hnone (fun hf => absurd hf Bool.false_ne_true) hpass rfl
      have htype : recordType d i c = 1 := if_pos hmask
      refine @Good.raise _ m s _ h (.input d.check i) (fun hr => hraised hr.2) ⟨hi, hafter⟩ (hothers _) ?_
      show s.book.push _ _ (decide (recordType d i c = 1)) = _
      rw [htype]
      rfl

/-- the count of a relay module: what is recorded is a change of its alarm, and `cnt` says which -/
theorem RelayAlarm.tick_cases (a : RelayAlarm) (differs : Bool) :
    (a.tick differs).2 = false ∧ (a.tick differs).1.occur = a.occur ∨
    (a.tick differs).2 = true ∧ a.occur = false ∧ (a.tick differs).1 = ⟨10, true⟩ ∨
    (a.tick differs).2 = true ∧ a.occur = true ∧ (a.tick differs).1 = ⟨-10, false⟩ := by
  unfold RelayAlarm.tick
  cases hocc : a.occur with
  | false =>
    rw [if_pos rfl]
    split_ifs <;> simp
  | true =>
    rw [if_neg (by decide)]
    split_ifs <;> simp

/-- **A relay module** keeps the books. -/
theorem relayStep_good {m : Modules δ} {p : RelayPoll} {s t : System} {i : ℕ} (hi : i < m.relays) (h : Good m s)
    (hstep : relayStep p s i = some t) : Good m t := by
  rw [relayStep, Option.some.injEq] at hstep
  have hothers : ∀ r book, ∀ l, l ≠ .relay i →
      (Raised m ⟨s.collector, Function.update s.relay i r, book⟩ l ↔ Raised m s l) := by
    intro r book l hl
    cases l with
    | input check k => exact Iff.rfl
    | relay k =>
      have hk : k ≠ i := fun hk => hl (by rw [hk])
      simp only [Raised, Function.update_of_ne hk]
  have hown : ∀ r book, Raised m ⟨s.collector, Function.update s.relay i r, book⟩ (.relay i) ↔ r.occur = true := by
    intro r book
    simp only [Raised, Function.update_self, and_iff_right hi]
  have hcases := (s.relay i).tick_cases (p.loop_current_state i ≠ p.loop_task_state i)
  generalize (s.relay i).tick (p.loop_current_state i ≠ p.loop_task_state i) = r at hcases hstep
  obtain ⟨a, record⟩ := r
  rcases hcases with ⟨hrecord, hocc⟩ | ⟨hrecord, hbefore, ha⟩ | ⟨hrecord, hbefore, ha⟩
  · simp only at hrecord hocc
    rw [← hstep]
    simp only [hrecord, Bool.false_eq_true, if_false]
    refine h.quiet (fun l => ?_) rfl
    by_cases hl : l = .relay i
    · rw [hl, hown, hocc, Raised, and_iff_right hi]
    · exact hothers _ _ l hl
  · simp only at hrecord ha
    rw [← hstep]
    simp only [hrecord, ha, if_true]
    refine @Good.raise _ m s _ h (.relay i) (fun hr => ?_) ((hown _ _).2 rfl) (hothers _ _) rfl
    rw [hr.2] at hbefore
    exact absurd hbefore (by decide)
  · simp only at hrecord ha
    rw [← hstep]
    simp only [hrecord, ha, if_true]
    exact @Good.clear _ m s _ h (.relay i) ⟨hi, hbefore⟩ (fun hr => absurd ((hown _ _).1 hr) (by decide)) (hothers _ _) rfl

/-- so it is for all modules, if the check takes place -/
def DetectionFits (cfg : Config δ) (p : Poll δ) (s : System) (d : Detection) : Prop :=
  d.due p s.collector → Tally.Along (moduleStep d) (fun s i => PassFits d i s.collector)
    { s with collector := d.started p s.collector } (List.range cfg.number)

instance decidableDetectionFits (cfg : Config δ) (p : Poll δ) (s : System) (d : Detection) :
    Decidable (DetectionFits cfg p s d) :=
  inferInstanceAs (Decidable (_ → _))

/-- and for the three checks; the relay modules ask for nothing -/
def CallFits (D : Doubles δ) (m : Modules δ) (s : System) : Call δ → Prop
  | .input p => Tally.Along (detectReport m.input p) (DetectionFits m.input p) s (detections D m.input p)
  | .relay _ => True

instance decidableCallFits (D : Doubles δ) (m : Modules δ) (s : System) : ∀ c : Call δ, Decidable (CallFits D m s c)
  | .input p => inferInstanceAs (Decidable (Tally.Along (detectReport m.input p) (DetectionFits m.input p) s _))
  | .relay _ => isTrue trivial

theorem detectReport_good {m : Modules δ} {p : Poll δ} {d : Detection} {s t : System} (h : Good m s)
    (hfits : DetectionFits m.input p s d) (hstep : detectReport m.input p s d = some t) : Good m t := by
  rw [detectReport] at hstep
  by_cases hdue : d.due p s.collector
  · rw [if_pos hdue] at hstep
    have hstarted : Good m { s with collector := d.started p s.collector } := by
      refine h.quiet (fun l => ?_) rfl
      cases l with
      | input check k => exact Iff.rfl
      | relay k => exact Iff.rfl
    exact Tally.last_of_along (D := (· < m.input.number)) (fun _ _ _ hi hs hq => moduleStep_good hi hs hq) _
      (fun _ hi => List.mem_range.1 hi) _ _ hstarted (hfits hdue) hstep
  · rw [if_neg hdue, Option.some.injEq] at hstep
    rwa [← hstep]

/-- **A call** keeps the books. -/
theorem callStep_good {D : Doubles δ} {m : Modules δ} {s t : System} {c : Call δ} (h : Good m s) (hfits : CallFits D m s c)
    (hstep : callStep D m s c = some t) : Good m t := by
  cases c with
  | input p =>
    exact Tally.last_of_along (D := fun _ => True) (fun _ _ _ _ hs hq => detectReport_good hs hq) _ (fun _ _ => trivial) _ _
      h hfits hstep
  | relay p =>
    rw [callStep] at hstep
    split_ifs at hstep with henable
    · exact Tally.last_of_along (Q := fun _ _ => True) (D := (· < m.relays)) (fun _ _ _ hi hs _ => relayStep_good hi hs) _
        (fun _ hi => List.mem_range.1 hi) _ _ h (Tally.along_of_forall (fun _ _ => trivial) _ _) hstep
    · rwa [← Option.some.inj hstep]

/-- **The alarm counter.** From a start without alarms and reports: in every run in which each pass over a module that
confirms a change either finds no alarm of its check on the module or clears the last ones and the mask, every state
reached is accounted. -/
theorem alarmState_accounted (D : Doubles δ) (m : Modules δ) (s : System) (hquiet : ∀ source, ¬ Raised m s source)
    (hbook : s.book = ⟨0, []⟩) (calls : List (Call δ)) (hfits : Tally.Along (callStep D m) (CallFits D m) s calls) :
    ∀ pre post t, calls = pre ++ post → pre.foldlM (callStep D m) s = some t → Accounted m t := by
  intro pre post t hcalls ht
  have hgood : Good m s := by
    refine ⟨∅, by rw [hbook]; exact balanced_empty, fun k => ?_⟩
    exact ⟨fun hk => absurd hk (Finset.notMem_empty k), fun hr => absurd hr (hquiet k)⟩
  rw [hcalls] at hfits
  have hpre := Tally.along_left pre post s hfits
  exact (Tally.last_of_along (D := fun _ => True) (fun _ _ _ _ hs hq => callStep_good hs hq) pre (fun _ _ => trivial) s t hgood
    hpre ht).accounted

/-! ## One collector with two loops -/

/-- one collector with two digital loops, no relay module -/
def oneCollector : Modules ℤ := ⟨twoLoops, 0, by decide⟩

/-- nothing is raised and nothing reported -/
def silent : System := ⟨automatic, fun _ => ⟨0, false⟩, ⟨0, []⟩⟩

def inputs (states : List UInt8) : List (Call ℤ) := states.map fun state => .input (pollOf state)

theorem quiet_silent (source : Source) : ¬ Raised oneCollector silent source := by
  cases source with
  | input check i => exact fun h => by obtain ⟨-, j, -, hj⟩ := h; exact absurd hj Bool.false_ne_true
  | relay i => exact fun h => absurd h.2 Bool.false_ne_true

theorem accounted_together : ∃ t, (inputs [3, 3, 0]).foldlM (callStep wholeNumbers oneCollector) silent = some t ∧
    Accounted oneCollector t := by
  have hrun : ((inputs [3, 3, 0]).foldlM (callStep wholeNumbers oneCollector) silent).isSome = true := by decide +kernel
  obtain ⟨t, ht⟩ := Option.isSome_iff_exists.1 hrun
  exact ⟨t, ht, alarmState_accounted wholeNumbers oneCollector silent quiet_silent rfl (inputs [3, 3, 0])
    (by decide +kernel) _ [] t (by simp) ht⟩

/-- **A partial clear.** Both loops are raised at once and cleared one after the other: the first clear is reported as a
raise, and the counter stays at 1 with no alarm raised. -/
theorem partial_clear : ∃ t, (inputs [3, 3, 2, 0]).foldlM (callStep wholeNumbers oneCollector) silent = some t ∧
    t.book.count = 1 ∧ ∀ source, ¬ Raised oneCollector t source := by
  have hrun : ((inputs [3, 3, 2, 0]).foldlM (callStep wholeNumbers oneCollector) silent).map (fun t =>
      (t.book.count, [Check.digital, .overLimit, .underLimit].map fun check => decide (LoopRaised t.collector check 0))) =
      some (1, [false, false, false]) := by decide +kernel
  obtain ⟨t, ht, hval⟩ := Option.map_eq_some_iff.1 hrun
  obtain ⟨hcount, hval⟩ := Prod.mk.inj hval
  refine ⟨t, ht, hcount, fun source => ?_⟩
  cases source with
  | input check i =>
    rintro ⟨hi, hraised⟩
    have hzero : i = 0 := Nat.lt_one_iff.1 hi
    rw [hzero] at hraised
    have hnone : ∀ check, decide (LoopRaised t.collector check 0) = false := by
      simp only [List.map_cons, List.map_nil, List.cons.injEq, and_true] at hval
      intro check
      cases check with
      | digital => exact hval.1
      | overLimit => exact hval.2.1
      | underLimit => exact hval.2.2
    exact of_decide_eq_false (hnone check) hraised
  | relay i => exact fun h => absurd h.1 (Nat.not_lt_zero i)

end DataConcentrator.Report
