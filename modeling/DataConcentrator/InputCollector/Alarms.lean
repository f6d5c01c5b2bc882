/-
The alarms of the input collectors: counted up to their confirmation, and switching the run mode while they are raised.

- `Counter.tick`: a loop that is found abnormal, or normal again, as many times as its threshold asks;
- `checkLoop`, `detect`: what the three checks do with a loop and with all of them;
- `runMode_restored`: alarms that are cleared in the reverse order of their raising leave the run mode as it was;
- `overlapping_alarms`: two alarms cleared in the order of their raising.
-/
import DataConcentrator.Lib.SaveRestore
import DataConcentrator.Lib.Tally

namespace DataConcentrator.InputCollector

open SaveRestore (Saved Nested nested_restore)

/-! ## Data -/

def MAX_INPUT_COLLECTOR_CONF_NUM : ℕ := 10

/-- `MAX_INPUT_COLLECTOR_D_LOOP_CH_NUM` and `MAX_INPUT_COLLECTOR_A_LOOP_CH_NUM` -/
def MAX_INPUT_COLLECTOR_LOOP_CH_NUM : ℕ := 8

/-- what `InputCollectorD_Alarm_S` and `InputCollectorA_Alarm_S` share; `last_run_mode` is in `Collector` -/
structure Threshold where
  confirm_time : UInt8
  switch_run_mode : UInt8
  resume_run_mode : UInt8
  relay_action : UInt8

structure D_Alarm extends Threshold where
  alarm_level : UInt8

structure A_Alarm (δ : Type) extends Threshold where
  min_value : δ
  max_value : δ

/-- `InputCollectorConfig_S`, as far as the checks read it -/
structure InputCollectorConfig (δ : Type) where
  d_loop_num : UInt8
  a_loop_num : UInt8
  d_alarm_thre : ℕ → D_Alarm
  a_alarm_thre : ℕ → A_Alarm δ

/-- `InputCollectorConfigNum` and `InputCollectorConfig` -/
structure Config (δ : Type) where
  number : ℕ
  fits : number ≤ MAX_INPUT_COLLECTOR_CONF_NUM
  config : ℕ → InputCollectorConfig δ

/-- the comparisons of doubles: `x <= y`, `(x - y) / 100.0f >= 0.05f`, `x == 0.0f`, and all eight bytes `0xFF` -/
structure Doubles (δ : Type) where
  le : δ → δ → Bool
  apart : δ → δ → Bool
  isZero : δ → Bool
  allOnes : δ → Bool

/-- the three functions that check -/
inductive Check where
  | digital
  | overLimit
  | underLimit
deriving DecidableEq

/-- the two arrays of thresholds of a module; the checks of over and under share one -/
inductive Table where
  | d_alarm_thre
  | a_alarm_thre
deriving DecidableEq

def Check.table : Check → Table
  | .digital => .d_alarm_thre
  | .overLimit => .a_alarm_thre
  | .underLimit => .a_alarm_thre

/-- an alarm of a loop of a module -/
structure Alarm where
  check : Check
  i : ℕ
  j : ℕ
deriving DecidableEq

/-- the entry of the thresholds that an alarm uses -/
def Alarm.entry (a : Alarm) : Table × ℕ × ℕ := (a.check.table, a.i, a.j)

/-- `cnt` and `occur` of a loop -/
structure Counter where
  cnt : Int8
  occur : Bool
deriving DecidableEq

structure Collector where
  runMode : UInt8
  relayForceSwitchOffAllRelays : UInt8
  last_run_mode : Table × ℕ × ℕ → UInt8
  abnormal_loop : Table → ℕ → UInt16
  time_s : Check → UInt32
  counter : Alarm → Counter
  -- history: the raised alarms that switch the mode, the last one first; nothing below reads it
  raised : List Alarm

/-- what the checks find when they are called: the ticks as they are compared and as they are kept -/
structure Poll (δ : Type) where
  d_quantity_abnormal_alarm_enable : UInt8
  a_quantity_abnormal_alarm_enable : UInt8
  detect_interval : UInt16
  tick : Check → UInt32
  kept : Check → UInt32
  d_current_state : ℕ → UInt8
  a_current_state : ℕ → ℕ → δ

/-! ## A loop -/

inductive Change where
  | stays
  | raised
  | cleared
deriving DecidableEq

/-- what a check finds about a loop: whether it looks at it at all, whether it is abnormal, and whether normal again -/
structure Sensed where
  present : Bool
  abnormal : Bool
  normal : Bool

def Counter.tick (c : Counter) (confirm_time : UInt8) (sensed : Sensed) : Counter × Change :=
  if c.occur = false then
    if sensed.abnormal then
      if (c.cnt + 1).toInt = confirm_time.toNat then (⟨c.cnt + 1, true⟩, .raised) else (⟨c.cnt + 1, false⟩, .stays)
    else (⟨0, false⟩, .stays)
  else if sensed.normal then
    if (c.cnt - 1).toInt = -confirm_time.toNat then (⟨c.cnt - 1, false⟩, .cleared) else (⟨c.cnt - 1, true⟩, .stays)
  else (⟨0, true⟩, .stays)

namespace Collector

def setAbnormal (s : Collector) (t : Table) (i : ℕ) (f : UInt16 → UInt16) : Collector :=
  { s with abnormal_loop := Function.update s.abnormal_loop t (Function.update (s.abnormal_loop t) i (f (s.abnormal_loop t i))) }

/-- the mode is saved and switched -/
def switchMode (s : Collector) (a : Alarm) (thre : Threshold) : Collector :=
  if thre.switch_run_mode ≠ 0 then
    { s with
      last_run_mode := Function.update s.last_run_mode a.entry s.runMode
      runMode := thre.switch_run_mode
      raised := a :: s.raised }
  else s

/-- the relays are forced off -/
def switchOff (s : Collector) (thre : Threshold) : Collector :=
  if thre.relay_action = 1 then { s with relayForceSwitchOffAllRelays := 1 } else s

/-- the mode saved is restored -/
def resumeMode (s : Collector) (a : Alarm) (thre : Threshold) : Collector :=
  if thre.switch_run_mode ≠ 0 then
    { s with
      runMode := if thre.resume_run_mode = 1 then s.last_run_mode a.entry else s.runMode
      raised := s.raised.erase a }
  else s

def raise (s : Collector) (a : Alarm) (thre : Threshold) : Collector :=
  ((s.setAbnormal a.check.table a.i fun x => x ||| 1 <<< UInt16.ofNat a.j).switchMode a thre).switchOff thre

def clear (s : Collector) (a : Alarm) (thre : Threshold) : Collector :=
  (s.setAbnormal a.check.table a.i fun x => x &&& ~~~(1 <<< UInt16.ofNat a.j)).resumeMode a thre

/-- a loop; `none` past the eight entries of the arrays -/
def checkLoop (s : Collector) (a : Alarm) (thre : Threshold) (sensed : Sensed) : Option Collector :=
  if a.j < MAX_INPUT_COLLECTOR_LOOP_CH_NUM then
    if sensed.present then
      let r := (s.counter a).tick thre.confirm_time sensed
      let s := { s with counter := Function.update s.counter a r.1 }
      match r.2 with
      | .stays => some s
      | .raised => some (s.raise a thre)
      | .cleared => some (s.clear a thre)
    else some s
  else none

end Collector

/-! ## The checks -/

/-- what one of the checks reads -/
structure Detection where
  check : Check
  enable : UInt8
  loop_num : ℕ → UInt8
  threshold : ℕ → ℕ → Threshold
  sensed : ℕ → ℕ → Sensed

variable {δ : Type}

/-- the modules and their loops in order -/
def loops (number : ℕ) (loop_num : ℕ → UInt8) : List (ℕ × ℕ) :=
  (List.range number).flatMap fun i => (List.range (loop_num i).toNat).map fun j => (i, j)

/-- the check is enabled and its time has come -/
def Detection.due (d : Detection) (p : Poll δ) (s : Collector) : Prop :=
  d.enable = 1 ∧ UInt32.ofNat (p.detect_interval.toNat / 10) ≤ p.tick d.check - s.time_s d.check

instance (d : Detection) (p : Poll δ) (s : Collector) : Decidable (d.due p s) := inferInstanceAs (Decidable (_ ∧ _))

def Detection.loopStep (d : Detection) (s : Collector) (l : ℕ × ℕ) : Option Collector :=
  s.checkLoop ⟨d.check, l.1, l.2⟩ (d.threshold l.1 l.2) (d.sensed l.1 l.2)

/-- the time of a check is kept -/
def Detection.started (d : Detection) (p : Poll δ) (s : Collector) : Collector :=
  { s with time_s := Function.update s.time_s d.check (p.kept d.check) }

def detect (cfg : Config δ) (p : Poll δ) (d : Detection) (s : Collector) : Option Collector :=
  if d.due p s then (loops cfg.number d.loop_num).foldlM d.loopStep (d.started p s) else some s

section Checks

variable (D : Doubles δ) (cfg : Config δ) (p : Poll δ)

def digitalDetection : Detection where
  check := .digital
  enable := p.d_quantity_abnormal_alarm_enable
  loop_num i := (cfg.config i).d_loop_num
  threshold i j := ((cfg.config i).d_alarm_thre j).toThreshold
  sensed i j :=
    let state : UInt8 := if (p.d_current_state i).toNat.testBit j then 1 else 0
    ⟨true, state = ((cfg.config i).d_alarm_thre j).alarm_level, state ≠ ((cfg.config i).d_alarm_thre j).alarm_level⟩

def overDetection : Detection where
  check := .overLimit
  enable := p.a_quantity_abnormal_alarm_enable
  loop_num i := (cfg.config i).a_loop_num
  threshold i j := ((cfg.config i).a_alarm_thre j).toThreshold
  sensed i j :=
    let max_value := ((cfg.config i).a_alarm_thre j).max_value
    ⟨!D.allOnes max_value && !D.isZero max_value, D.le max_value (p.a_current_state i j),
      D.apart max_value (p.a_current_state i j)⟩

def underDetection : Detection where
  check := .underLimit
  enable := p.a_quantity_abnormal_alarm_enable
  loop_num i := (cfg.config i).a_loop_num
  threshold i j := ((cfg.config i).a_alarm_thre j).toThreshold
  sensed i j :=
    let min_value := ((cfg.config i).a_alarm_thre j).min_value
    ⟨!D.allOnes min_value && !D.isZero min_value, D.le (p.a_current_state i j) min_value,
      D.apart (p.a_current_state i j) min_value⟩

def inputCollectorD_QuantityAbnormal (s : Collector) : Option Collector := detect cfg p (digitalDetection cfg p) s

def inputCollectorA_OverQuantityAbnormal (s : Collector) : Option Collector := detect cfg p (overDetection D cfg p) s

def inputCollectorA_UnderQuantityAbnormal (s : Collector) : Option Collector := detect cfg p (underDetection D cfg p) s

/-- `InputCollectorEventCheckPolling`, without the reports -/
def inputCollectorEventCheckPolling (s : Collector) : Option Collector := do
  let s ← inputCollectorD_QuantityAbnormal cfg p s
  let s ← inputCollectorA_OverQuantityAbnormal D cfg p s
  inputCollectorA_UnderQuantityAbnormal D cfg p s

end Checks

/-! ## The mode -/

/-- the threshold of an alarm -/
def Config.threshold (cfg : Config δ) (a : Alarm) : Threshold :=
  match a.check with
  | .digital => ((cfg.config a.i).d_alarm_thre a.j).toThreshold
  | .overLimit => ((cfg.config a.i).a_alarm_thre a.j).toThreshold
  | .underLimit => ((cfg.config a.i).a_alarm_thre a.j).toThreshold

def Config.Switches (cfg : Config δ) (a : Alarm) : Prop := (cfg.threshold a).switch_run_mode ≠ 0

/-- with no alarm raised that switches the mode, it is the one from before -/
def Restored (cfg : Config δ) (mode : UInt8) (s : Collector) : Prop :=
  (∀ a, cfg.Switches a → (s.counter a).occur = false) → s.runMode = mode

/-- an alarm that switches the mode is raised while the other alarm of its loop is not, and it is cleared as the one that
was raised last of those still raised -/
def Change.Fits (s : Collector) (a : Alarm) : Change → Prop
  | .stays => True
  | .raised => ∀ b ∈ s.raised, b.entry ≠ a.entry
  | .cleared => s.raised.head? = some a

instance (s : Collector) (a : Alarm) : ∀ change : Change, Decidable (change.Fits s a)
  | .stays => isTrue trivial
  | .raised => inferInstanceAs (Decidable (∀ b ∈ s.raised, b.entry ≠ a.entry))
  | .cleared => inferInstanceAs (Decidable (s.raised.head? = some a))

/-- so it is for a loop of the arrays -/
def Detection.LoopFits (d : Detection) (s : Collector) (l : ℕ × ℕ) : Prop :=
  l.2 < MAX_INPUT_COLLECTOR_LOOP_CH_NUM ∧
    ((d.sensed l.1 l.2).present = true → (d.threshold l.1 l.2).switch_run_mode ≠ 0 →
      ((s.counter ⟨d.check, l.1, l.2⟩).tick (d.threshold l.1 l.2).confirm_time (d.sensed l.1 l.2)).2.Fits s
        ⟨d.check, l.1, l.2⟩)

instance (d : Detection) (s : Collector) (l : ℕ × ℕ) : Decidable (d.LoopFits s l) :=
  inferInstanceAs (Decidable (_ ∧ (_ → _ → _)))

/-- for all the loops, if the check takes place -/
def Detection.Fits (cfg : Config δ) (p : Poll δ) (d : Detection) (s : Collector) : Prop :=
  d.due p s → Tally.Along d.loopStep d.LoopFits (d.started p s) (loops cfg.number d.loop_num)

instance (cfg : Config δ) (p : Poll δ) (d : Detection) (s : Collector) : Decidable (d.Fits cfg p s) :=
  inferInstanceAs (Decidable (_ → _))

/-- for the three checks, one after the other -/
def PollFits (D : Doubles δ) (cfg : Config δ) (s : Collector) (p : Poll δ) : Prop :=
  Tally.Along (fun s d => detect cfg p d s) (fun s d => d.Fits cfg p s) s
    [digitalDetection cfg p, overDetection D cfg p, underDetection D cfg p]

instance (D : Doubles δ) (cfg : Config δ) (s : Collector) (p : Poll δ) : Decidable (PollFits D cfg s p) :=
  inferInstanceAs (Decidable (Tally.Along _ _ _ _))

/-- the raised alarms that switch the mode, and what is saved for each -/
structure Kept (cfg : Config δ) (mode : UInt8) (s : Collector) : Prop where
  raised : ∀ a, a ∈ s.raised ↔ cfg.Switches a ∧ (s.counter a).occur = true
  nested : Nested Alarm.entry (fun a => (cfg.threshold a).switch_run_mode) mode s.last_run_mode s.runMode s.raised

section Runs

variable {D : Doubles δ} {cfg : Config δ} {p : Poll δ} {mode : UInt8} {s : Collector}

theorem Kept.restored (h : Kept cfg mode s) : Restored cfg mode s := by
  intro hquiet
  have hnone : s.raised = [] := by
    apply List.eq_nil_iff_forall_not_mem.2
    intro a ha
    obtain ⟨hswitch, hoccur⟩ := (h.raised a).1 ha
    exact absurd (hquiet a hswitch) (by rw [hoccur]; decide)
  have hn := h.nested
  rw [hnone] at hn
  exact hn

/-- what a count says about `occur` -/
theorem Counter.tick_occur (c : Counter) (confirm_time : UInt8) (sensed : Sensed) :
    match (c.tick confirm_time sensed).2 with
    | .stays => (c.tick confirm_time sensed).1.occur = c.occur
    | .raised => c.occur = false ∧ (c.tick confirm_time sensed).1.occur = true
    | .cleared => c.occur = true ∧ (c.tick confirm_time sensed).1.occur = false := by
  rw [Counter.tick]
  cases hc : c.occur with
  | false =>
    rw [if_pos rfl]
    split_ifs <;> simp
  | true =>
    rw [if_neg (by decide)]
    split_ifs <;> simp

/-- a count that changes nothing about the alarms that switch the mode -/
theorem Kept.count (h : Kept cfg mode s) {a : Alarm} {c : Counter}
    (hc : cfg.Switches a → c.occur = (s.counter a).occur) {t : Collector}
    (hcounter : t.counter = Function.update s.counter a c) (hraised : t.raised = s.raised)
    (hsaved : t.last_run_mode = s.last_run_mode) (hmode : t.runMode = s.runMode) : Kept cfg mode t := by
  refine ⟨fun b => ?_, ?_⟩
  · rw [hraised, h.raised b, hcounter]
    apply and_congr_right
    intro hb
    by_cases hab : b = a
    · subst hab
      rw [Function.update_self, hc hb]
    · rw [Function.update_of_ne hab]
  · rw [hraised, hsaved, hmode]
    exact h.nested

/-- an alarm that switches the mode is raised -/
theorem Kept.raise (h : Kept cfg mode s) {a : Alarm} {c : Counter} (hswitch : cfg.Switches a) (hoccur : c.occur = true)
    (hfree : ∀ b ∈ s.raised, b.entry ≠ a.entry) :
    Kept cfg mode (Collector.raise { s with counter := Function.update s.counter a c } a (cfg.threshold a)) := by
  have hnested := SaveRestore.nested_save (c := ⟨s.runMode, s.last_run_mode⟩) hfree h.nested
  have hmem : ∀ b, b ∈ a :: s.raised ↔ cfg.Switches b ∧ (Function.update s.counter a c b).occur = true := by
    intro b
    rw [List.mem_cons]
    by_cases hab : b = a
    · subst hab
      rw [Function.update_self]
      exact ⟨fun _ => ⟨hswitch, hoccur⟩, fun _ => Or.inl rfl⟩
    · rw [Function.update_of_ne hab, or_iff_right hab]
      exact h.raised b
  have hswitch : (cfg.threshold a).switch_run_mode ≠ 0 := hswitch
  rw [Collector.raise, Collector.switchMode, if_pos hswitch, Collector.switchOff]
  split_ifs
  · exact ⟨hmem, hnested⟩
  · exact ⟨hmem, hnested⟩

/-- the alarm raised last is cleared -/
theorem Kept.clear (h : Kept cfg mode s) {a : Alarm} {c : Counter} (hswitch : cfg.Switches a)
    (hresume : (cfg.threshold a).resume_run_mode = 1) (hoccur : c.occur = false) (hlast : s.raised.head? = some a) :
    Kept cfg mode (Collector.clear { s with counter := Function.update s.counter a c } a (cfg.threshold a)) := by
  obtain ⟨l, hl⟩ := List.head?_eq_some_iff.1 hlast
  have hn := h.nested
  rw [hl] at hn
  have hrestored := @nested_restore _ _ _ _ _ mode ⟨s.runMode, s.last_run_mode⟩ a l hn
  obtain ⟨-, hfree, -⟩ := hn
  have hmem : ∀ b, b ∈ l ↔ cfg.Switches b ∧ (Function.update s.counter a c b).occur = true := by
    intro b
    by_cases hab : b = a
    · subst hab
      rw [Function.update_self, hoccur]
      exact ⟨fun hb => absurd rfl (hfree b hb), fun hb => absurd hb.2 Bool.false_ne_true⟩
    · rw [Function.update_of_ne hab, ← h.raised b, hl, List.mem_cons, or_iff_right hab]
  have hswitch : (cfg.threshold a).switch_run_mode ≠ 0 := hswitch
  rw [Collector.clear, Collector.resumeMode, if_pos hswitch, if_pos hresume]
  have herase : s.raised.erase a = l := by rw [hl, List.erase_cons_head]
  refine ⟨?_, ?_⟩
  · show ∀ b, b ∈ s.raised.erase a ↔ _
    rw [herase]
    exact hmem
  · show Nested _ _ mode s.last_run_mode (s.last_run_mode a.entry) (s.raised.erase a)
    rw [herase]
    exact hrestored

/-- **A loop** that meets the condition keeps what is raised and saved. -/
theorem loopStep_kept (hresume : ∀ a, cfg.Switches a → (cfg.threshold a).resume_run_mode = 1) {d : Detection}
    (hd : ∀ i j, d.threshold i j = cfg.threshold ⟨d.check, i, j⟩) (h : Kept cfg mode s) {l : ℕ × ℕ}
    (hfits : d.LoopFits s l) : ∃ t, d.loopStep s l = some t ∧ Kept cfg mode t := by
  obtain ⟨hj, hfits⟩ := hfits
  rw [hd] at hfits
  rw [Detection.loopStep, hd, Collector.checkLoop, if_pos hj]
  by_cases hpresent : (d.sensed l.1 l.2).present = true
  · rw [if_pos hpresent]
    dsimp only
    have hocc := Counter.tick_occur (s.counter ⟨d.check, l.1, l.2⟩) (cfg.threshold ⟨d.check, l.1, l.2⟩).confirm_time
      (d.sensed l.1 l.2)
    have hfits := hfits hpresent
    generalize (s.counter ⟨d.check, l.1, l.2⟩).tick (cfg.threshold ⟨d.check, l.1, l.2⟩).confirm_time
      (d.sensed l.1 l.2) = r at hocc hfits ⊢
    obtain ⟨c, change⟩ := r
    cases change with
    | stays => exact ⟨_, rfl, h.count (fun _ => hocc) rfl rfl rfl rfl⟩
    | raised =>
      refine ⟨_, rfl, ?_⟩
      by_cases hswitch : (cfg.threshold ⟨d.check, l.1, l.2⟩).switch_run_mode ≠ 0
      · exact h.raise hswitch hocc.2 (hfits hswitch)
      · rw [Collector.raise, Collector.switchMode, if_neg hswitch, Collector.switchOff]
        split_ifs
        · exact h.count (fun hs => absurd hs hswitch) rfl rfl rfl rfl
        · exact h.count (fun hs => absurd hs hswitch) rfl rfl rfl rfl
    | cleared =>
      refine ⟨_, rfl, ?_⟩
      by_cases hswitch : (cfg.threshold ⟨d.check, l.1, l.2⟩).switch_run_mode ≠ 0
      · exact h.clear hswitch (hresume _ hswitch) hocc.2 (hfits hswitch)
      · rw [Collector.clear, Collector.resumeMode, if_neg hswitch]
        exact h.count (fun hs => absurd hs hswitch) rfl rfl rfl rfl
  · rw [if_neg hpresent]
    exact ⟨s, rfl, h⟩

/-- so does a check of all the loops -/
theorem detect_kept (hresume : ∀ a, cfg.Switches a → (cfg.threshold a).resume_run_mode = 1) {d : Detection}
    (hd : ∀ i j, d.threshold i j = cfg.threshold ⟨d.check, i, j⟩) (h : Kept cfg mode s) (hfits : d.Fits cfg p s) :
    ∃ t, detect cfg p d s = some t ∧ Kept cfg mode t := by
  rw [detect]
  by_cases hdue : d.due p s
  · rw [if_pos hdue]
    have hstarted : Kept cfg mode (d.started p s) := ⟨h.raised, h.nested⟩
    exact Tally.throughout_last _ _ _ (Tally.throughout_of_along
      (fun s l hs hl => loopStep_kept hresume hd hs hl) _ _ hstarted (hfits hdue))
  · rw [if_neg hdue]
    exact ⟨s, rfl, h⟩

/-- and so do the three checks -/
theorem poll_kept (hresume : ∀ a, cfg.Switches a → (cfg.threshold a).resume_run_mode = 1) (h : Kept cfg mode s)
    (hfits : PollFits D cfg s p) : ∃ t, inputCollectorEventCheckPolling D cfg p s = some t ∧ Kept cfg mode t := by
  obtain ⟨hdigital, hfits⟩ := hfits
  obtain ⟨s1, h1, hk1⟩ := detect_kept hresume (fun _ _ => rfl) h hdigital
  obtain ⟨hover, hfits⟩ := hfits s1 h1
  obtain ⟨s2, h2, hk2⟩ := detect_kept hresume (fun _ _ => rfl) hk1 hover
  obtain ⟨s3, h3, hk3⟩ := detect_kept hresume (fun _ _ => rfl) hk2 (hfits s2 h2).1
  refine ⟨s3, ?_, hk3⟩
  exact Option.bind_eq_some_iff.2 ⟨s1, h1, Option.bind_eq_some_iff.2 ⟨s2, h2, h3⟩⟩

end Runs

/-- **The run mode.** Where every alarm that switches the mode also restores it, and none of them is raised at the start:
in every run in which alarms are cleared in the reverse order of their raising, and no loop is over and under at once, the
mode is the one from the start whenever all of them are cleared. -/
theorem runMode_restored (D : Doubles δ) (cfg : Config δ)
    (hresume : ∀ a, cfg.Switches a → (cfg.threshold a).resume_run_mode = 1) (s : Collector)
    (hquiet : ∀ a, cfg.Switches a → (s.counter a).occur = false) (hraised : s.raised = []) (polls : List (Poll δ))
    (hfits : Tally.Along (fun s p => inputCollectorEventCheckPolling D cfg p s) (PollFits D cfg) s polls) :
    Tally.Throughout (fun s p => inputCollectorEventCheckPolling D cfg p s) (Restored cfg s.runMode) s polls := by
  have hkept : Kept cfg s.runMode s := by
    refine ⟨fun a => ?_, ?_⟩
    · rw [hraised]
      exact ⟨fun ha => absurd ha List.not_mem_nil, fun ha => absurd (hquiet a ha.1) (by rw [ha.2]; decide)⟩
    · rw [hraised]
      rfl
  apply Tally.Throughout.imp fun t (ht : Kept cfg s.runMode t) => ht.restored
  exact Tally.throughout_of_along (fun t p ht hp => poll_kept hresume ht hp) polls s hkept hfits

/-! ## Two alarms -/

/-- doubles that are whole numbers -/
def wholeNumbers : Doubles ℤ where
  le x y := x ≤ y
  apart x y := 5 ≤ x - y
  isZero x := x = 0
  allOnes _ := false

/-- a module with two digital loops, each switching to manual and restoring the mode -/
def twoLoops : Config ℤ where
  number := 1
  fits := by decide
  config i := ⟨2, 0, fun j => ⟨⟨1, if i = 0 ∧ j < 2 then 2 else 0, 1, 0⟩, 1⟩, fun _ => ⟨⟨1, 0, 0, 0⟩, 0, 0⟩⟩

theorem switches_twoLoops {a : Alarm} (ha : twoLoops.Switches a) : a = ⟨.digital, 0, 0⟩ ∨ a = ⟨.digital, 0, 1⟩ := by
  obtain ⟨check, i, j⟩ := a
  cases check with
  | digital =>
    have hij : i = 0 ∧ j < 2 := by
      by_contra hij
      exact ha (if_neg hij)
    obtain ⟨rfl, hj⟩ := hij
    rcases Nat.lt_succ_iff_lt_or_eq.1 hj with hj | rfl
    · rw [Nat.lt_one_iff.1 hj]
      exact Or.inl rfl
    · exact Or.inr rfl
  | overLimit => exact absurd rfl ha
  | underLimit => exact absurd rfl ha

/-- the loops in the given states, whenever they are polled -/
def pollOf (d_current_state : UInt8) : Poll ℤ := ⟨1, 1, 0, fun _ => 0, fun _ => 0, fun _ => d_current_state, fun _ _ => 0⟩

/-- automatic, without alarms -/
def automatic : Collector := ⟨1, 0, fun _ => 0, fun _ _ => 0, fun _ => 0, fun _ => ⟨0, false⟩, []⟩

theorem runMode_restored_nested :
    Tally.Throughout (fun s p => inputCollectorEventCheckPolling wholeNumbers twoLoops p s) (Restored twoLoops 1) automatic
      ([1, 3, 1, 1, 0].map pollOf) :=
  runMode_restored wholeNumbers twoLoops
    (fun a ha => by rcases switches_twoLoops ha with rfl | rfl <;> rfl)
    automatic (fun _ _ => rfl) rfl _ (by decide +kernel)

/-- **Overlapping alarms.** The second alarm is raised while the first one is; once both are cleared in that order, the mode
is manual. -/
theorem overlapping_alarms :
    ∃ t, ([1, 3, 2, 0].map pollOf).foldlM (fun s p => inputCollectorEventCheckPolling wholeNumbers twoLoops p s) automatic =
        some t ∧ (∀ a, twoLoops.Switches a → (t.counter a).occur = false) ∧ automatic.runMode = 1 ∧ t.runMode = 2 := by
  have hrun : (([1, 3, 2, 0].map pollOf).foldlM
      (fun s p => inputCollectorEventCheckPolling wholeNumbers twoLoops p s) automatic).map
      (fun t => ((t.counter ⟨.digital, 0, 0⟩).occur, (t.counter ⟨.digital, 0, 1⟩).occur, t.runMode)) =
      some (false, false, 2) := by decide +kernel
  obtain ⟨t, ht, hval⟩ := Option.map_eq_some_iff.1 hrun
  obtain ⟨hfirst, hval⟩ := Prod.mk.inj hval
  obtain ⟨hsecond, hmode⟩ := Prod.mk.inj hval
  refine ⟨t, ht, fun a ha => ?_, rfl, hmode⟩
  rcases switches_twoLoops ha with rfl | rfl
  · exact hfirst
  · exact hsecond

end DataConcentrator.InputCollector
