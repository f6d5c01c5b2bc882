/-
`confirm_time` of the input collectors as the threshold of a debounced alarm, over the runs of
`InputCollectorEventCheckPolling`.

The count is an `s8` and the threshold a `u8`; after a clear the count is left at minus the threshold.
- `tick_view`: up to 127, the counter of a loop is the one that starts anew at minus the threshold;
- `tick_never`: from 128 on, it never raises the alarm;
- `confirmTime_law_iff`: when an alarm is raised exactly at its `confirm_time`-th abnormal poll in a row;
- `late_raise`: an alarm that comes back as soon as it is cleared, and one with a threshold of 200.
-/
import DataConcentrator.Lib.Debounce
import DataConcentrator.Report.AlarmState

namespace DataConcentrator.Report

open DataConcentrator.InputCollector
open Debounce (Law Relapse Streak Confirmed alarms quiet watch watch_eq)

/-! ## The counter of a loop -/

/-- `cnt` counts up to a raise and down to a clear -/
def counterView (c : Counter) : Debounce.Counter := ⟨if c.occur then -c.cnt.toInt else c.cnt.toInt, c.occur⟩

/-- `cnt` stays between its values after a change -/
def Within (n : ℕ) (c : Counter) : Prop := -(n : ℤ) ≤ (counterView c).progress ∧ (counterView c).progress < n

/-- what a check finds about a loop, as a poll -/
def sensedPoll (sensed : Sensed) : Debounce.Poll := ⟨sensed.abnormal, sensed.normal⟩

theorem int8_succ {x : Int8} (h : x.toInt < 127) : (x + 1).toInt = x.toInt + 1 := by
  have hlow := Int8.le_toInt x
  have hone : (1 : Int8).toInt = 1 := rfl
  rw [Int8.toInt_add, hone, Int.bmod_eq_of_le] <;> omega

theorem int8_pred {x : Int8} (h : -128 < x.toInt) : (x - 1).toInt = x.toInt - 1 := by
  have hhigh := Int8.toInt_lt x
  have hone : (1 : Int8).toInt = 1 := rfl
  rw [Int8.toInt_sub, hone, Int.bmod_eq_of_le] <;> omega

/-- **The counter** of a loop with a threshold up to 127. -/
theorem tick_view {c : Counter} {confirm_time : UInt8} (hc : confirm_time.toNat ≤ 127) (h : Within confirm_time.toNat c)
    (sensed : Sensed) : counterView (c.tick confirm_time sensed).1 =
      (counterView c).tick confirm_time.toNat (-confirm_time.toNat) (sensedPoll sensed) := by
  obtain ⟨cnt, occur⟩ := c
  obtain ⟨hlow, hhigh⟩ := h
  cases occur with
  | false =>
    simp only [counterView, Bool.false_eq_true, if_false] at hlow hhigh
    have hsucc := int8_succ (x := cnt) (by omega)
    have htick : ((⟨cnt, false⟩ : Counter).tick confirm_time sensed).1 =
        if sensed.abnormal then if (cnt + 1).toInt = confirm_time.toNat then ⟨cnt + 1, true⟩ else ⟨cnt + 1, false⟩
        else ⟨0, false⟩ := by
      rw [Counter.tick, if_pos rfl]
      split_ifs <;> rfl
    have hcount : (counterView ⟨cnt, false⟩).tick confirm_time.toNat (-confirm_time.toNat) (sensedPoll sensed) =
        if sensed.abnormal then
          if cnt.toInt + 1 = confirm_time.toNat then ⟨-confirm_time.toNat, true⟩ else ⟨cnt.toInt + 1, false⟩
        else ⟨0, false⟩ := rfl
    rw [htick, hcount, ← hsucc]
    split_ifs with habnormal hfull
    · simp only [counterView, if_true, hfull]
    · rfl
    · rfl
  | true =>
    simp only [counterView, if_true] at hlow hhigh
    have hpred := int8_pred (x := cnt) (by omega)
    have htick : ((⟨cnt, true⟩ : Counter).tick confirm_time sensed).1 =
        if sensed.normal then if (cnt - 1).toInt = -confirm_time.toNat then ⟨cnt - 1, false⟩ else ⟨cnt - 1, true⟩
        else ⟨0, true⟩ := by
      rw [Counter.tick, if_neg (show ¬ true = false from Bool.noConfusion)]
      split_ifs <;> rfl
    have hcount : (counterView ⟨cnt, true⟩).tick confirm_time.toNat (-confirm_time.toNat) (sensedPoll sensed) =
        if sensed.normal then
          if -cnt.toInt + 1 = confirm_time.toNat then ⟨-confirm_time.toNat, false⟩ else ⟨-cnt.toInt + 1, true⟩
        else ⟨0, true⟩ := rfl
    have hneg : -cnt.toInt + 1 = -(cnt - 1).toInt := by rw [hpred]; ring
    rw [htick, hcount, hneg]
    by_cases hnormal : sensed.normal = true
    · rw [if_pos hnormal, if_pos hnormal]
      by_cases hfull : (cnt - 1).toInt = -confirm_time.toNat
      · have hfull' : -(cnt - 1).toInt = confirm_time.toNat := by rw [hfull, neg_neg]
        rw [if_pos hfull, if_pos hfull', counterView, hfull]
        rfl
      · have hfull' : ¬ -(cnt - 1).toInt = confirm_time.toNat := fun h => hfull (by rw [← h, neg_neg])
        rw [if_neg hfull, if_neg hfull']
        rfl
    · rw [if_neg hnormal, if_neg hnormal]
      rfl

theorem tick_within {c : Counter} {confirm_time : UInt8} (hpos : 1 ≤ confirm_time.toNat) (hc : confirm_time.toNat ≤ 127)
    (h : Within confirm_time.toNat c) (sensed : Sensed) : Within confirm_time.toNat (c.tick confirm_time sensed).1 := by
  rw [Within, tick_view hc h, Debounce.Counter.tick]
  obtain ⟨hlow, hhigh⟩ := h
  split_ifs with hop hfull
  · exact ⟨le_rfl, by simp only; omega⟩
  · exact ⟨by simp only; omega, by simp only; omega⟩
  · exact ⟨by simp only; omega, by simp only; omega⟩

/-- **A threshold from 128 on** is never reached. -/
theorem tick_never {c : Counter} {confirm_time : UInt8} (hc : 128 ≤ confirm_time.toNat) (h : c.occur = false)
    (sensed : Sensed) : (c.tick confirm_time sensed).1.occur = false := by
  have hlt := Int8.toInt_lt (c.cnt + 1)
  have hne : ¬ (c.cnt + 1).toInt = confirm_time.toNat := by omega
  rw [Counter.tick, if_pos h, if_neg hne]
  split_ifs <;> rfl

/-! ## A poll -/

variable {δ : Type}

/-- the check of an alarm -/
def detectionOf (D : Doubles δ) (cfg : Config δ) (p : Poll δ) : Check → Detection
  | .digital => digitalDetection cfg p
  | .overLimit => overDetection D cfg p
  | .underLimit => underDetection D cfg p

theorem detectionOf_check (D : Doubles δ) (cfg : Config δ) (p : Poll δ) (check : Check) :
    (detectionOf D cfg p check).check = check := by
  cases check <;> rfl

theorem detectionOf_threshold (D : Doubles δ) (cfg : Config δ) (p : Poll δ) (a : Alarm) :
    (detectionOf D cfg p a.check).threshold a.i a.j = cfg.threshold a := by
  obtain ⟨check, i, j⟩ := a
  cases check <;> rfl

/-- a loop: its count alone, and no time -/
theorem loopStep_counter {d : Detection} {l : ℕ × ℕ} {s t : Collector} (h : d.loopStep s l = some t) :
    t.time_s = s.time_s ∧ t.counter = if (d.sensed l.1 l.2).present then
      Function.update s.counter ⟨d.check, l.1, l.2⟩
        ((s.counter ⟨d.check, l.1, l.2⟩).tick (d.threshold l.1 l.2).confirm_time (d.sensed l.1 l.2)).1
      else s.counter := by
  rw [Detection.loopStep, Collector.checkLoop] at h
  dsimp only at h
  split_ifs at h with hj hpresent
  · rw [if_pos hpresent]
    generalize (s.counter ⟨d.check, l.1, l.2⟩).tick (d.threshold l.1 l.2).confirm_time (d.sensed l.1 l.2) = r at h ⊢
    obtain ⟨n, change⟩ := r
    cases change with
    | stays =>
      rw [← Option.some.inj h]
      exact ⟨rfl, rfl⟩
    | raised =>
      rw [← Option.some.inj h]
      refine ⟨?_, raise_counter _ _ _⟩
      unfold Collector.raise Collector.switchOff Collector.switchMode Collector.setAbnormal
      split_ifs <;> rfl
    | cleared =>
      rw [← Option.some.inj h]
      refine ⟨?_, clear_counter _ _ _⟩
      unfold Collector.clear Collector.resumeMode Collector.setAbnormal
      split_ifs <;> rfl
  · rw [← Option.some.inj h, if_neg hpresent]
    exact ⟨rfl, rfl⟩

/-- a loop in a pass over several -/
theorem loopsStep_counter {d : Detection} (a : Alarm) (ls : List (ℕ × ℕ)) (hls : ls.Nodup) : ∀ {s t : Collector},
    ls.foldlM d.loopStep s = some t → t.time_s = s.time_s ∧
      t.counter a = if a.check = d.check ∧ (a.i, a.j) ∈ ls ∧ (d.sensed a.i a.j).present = true then
        ((s.counter a).tick (d.threshold a.i a.j).confirm_time (d.sensed a.i a.j)).1 else s.counter a := by
  induction ls with
  | nil =>
    intro s t h
    rw [← Option.some.inj h]
    simp
  | cons l ls ih =>
    intro s t h
    obtain ⟨hl, hls⟩ := List.nodup_cons.1 hls
    rw [List.foldlM_cons] at h
    obtain ⟨u, hu, h⟩ := Option.bind_eq_some_iff.1 h
    obtain ⟨htime, hcounter⟩ := ih hls h
    obtain ⟨hutime, hown⟩ := loopStep_counter hu
    refine ⟨htime.trans hutime, ?_⟩
    rw [hcounter, hown]
    by_cases ha : a = ⟨d.check, l.1, l.2⟩
    · rw [ha]
      simp only [hl, false_and, and_false, if_false, List.mem_cons_self, true_and]
      split_ifs with hpresent
      · rw [Function.update_self]
      · rfl
    · have hne : a.check = d.check → (a.i, a.j) ≠ l := by
        rintro hcheck rfl
        exact ha (by rw [← hcheck])
      have hmem : (a.check = d.check ∧ (a.i, a.j) ∈ l :: ls ∧ (d.sensed a.i a.j).present = true) ↔
          (a.check = d.check ∧ (a.i, a.j) ∈ ls ∧ (d.sensed a.i a.j).present = true) :=
        and_congr_right fun hcheck => and_congr_left fun _ => by rw [List.mem_cons, or_iff_right (hne hcheck)]
      have hsame : (if (d.sensed l.1 l.2).present then Function.update s.counter ⟨d.check, l.1, l.2⟩
          ((s.counter ⟨d.check, l.1, l.2⟩).tick (d.threshold l.1 l.2).confirm_time (d.sensed l.1 l.2)).1
          else s.counter) a = s.counter a := by
        split_ifs
        · exact Function.update_of_ne ha _ _
        · rfl
      rw [hsame]
      simp only [hmem]

theorem nodup_loops (number : ℕ) (loop_num : ℕ → UInt8) : (loops number loop_num).Nodup := by
  rw [loops, List.nodup_flatMap]
  refine ⟨fun i _ => List.nodup_range.map fun j k h => (Prod.mk.inj h).2, ?_⟩
  refine List.nodup_range.imp ?_
  intro i k hik l hi hk
  obtain ⟨_, _, rfl⟩ := List.mem_map.1 hi
  obtain ⟨_, _, heq⟩ := List.mem_map.1 hk
  exact hik (Prod.mk.inj heq).1.symm

theorem mem_loops {number : ℕ} {loop_num : ℕ → UInt8} {i j : ℕ} :
    (i, j) ∈ loops number loop_num ↔ i < number ∧ j < (loop_num i).toNat := by
  simp [loops]

/-- a call looks at an alarm -/
def Looks (D : Doubles δ) (cfg : Config δ) (a : Alarm) (s : Collector) (p : Poll δ) : Prop :=
  (detectionOf D cfg p a.check).due p s ∧
    (a.i < cfg.number ∧ a.j < ((detectionOf D cfg p a.check).loop_num a.i).toNat) ∧
    ((detectionOf D cfg p a.check).sensed a.i a.j).present = true

instance (D : Doubles δ) (cfg : Config δ) (a : Alarm) (s : Collector) (p : Poll δ) : Decidable (Looks D cfg a s p) :=
  inferInstanceAs (Decidable (_ ∧ _ ∧ _))

/-- what a call finds about an alarm -/
def checkLook (D : Doubles δ) (cfg : Config δ) (a : Alarm) (s : Collector) (p : Poll δ) : Option Debounce.Poll :=
  if Looks D cfg a s p then some (sensedPoll ((detectionOf D cfg p a.check).sensed a.i a.j)) else none

/-- the count of an alarm after a call -/
def counted (D : Doubles δ) (cfg : Config δ) (a : Alarm) (s : Collector) (p : Poll δ) : Counter :=
  if Looks D cfg a s p then
    ((s.counter a).tick (cfg.threshold a).confirm_time ((detectionOf D cfg p a.check).sensed a.i a.j)).1
  else s.counter a

section Polls

variable {D : Doubles δ} {cfg : Config δ} {p : Poll δ} {a : Alarm} {s t : Collector}

/-- another check leaves the alarm and its time alone -/
theorem detect_other {check : Check} (h : detect cfg p (detectionOf D cfg p check) s = some t) (hne : check ≠ a.check) :
    t.counter a = s.counter a ∧ t.time_s a.check = s.time_s a.check := by
  rw [detect] at h
  split_ifs at h
  · obtain ⟨htime, hcounter⟩ := loopsStep_counter a _ (nodup_loops _ _) h
    rw [detectionOf_check, if_neg fun hn => hne hn.1.symm] at hcounter
    refine ⟨hcounter, ?_⟩
    rw [htime, Detection.started, detectionOf_check]
    exact Function.update_of_ne hne.symm _ _
  · rw [← Option.some.inj h]
    exact ⟨rfl, rfl⟩

theorem detect_own (h : detect cfg p (detectionOf D cfg p a.check) s = some t) : t.counter a = counted D cfg a s p := by
  rw [detect] at h
  split_ifs at h with hdue
  · obtain ⟨-, hcounter⟩ := loopsStep_counter a _ (nodup_loops _ _) h
    rw [hcounter, detectionOf_check, detectionOf_threshold, counted]
    simp only [Looks, hdue, true_and, mem_loops]
    rfl
  · rw [← Option.some.inj h, counted, if_neg fun hn => hdue hn.1]

/-- what a call finds depends on the time of the check alone -/
theorem counted_congr {u : Collector} (hcounter : u.counter a = s.counter a)
    (htime : u.time_s a.check = s.time_s a.check) :
    counted D cfg a u p = counted D cfg a s p := by
  simp only [counted, Looks, Detection.due, detectionOf_check, hcounter, htime]

/-- **A call** counts the alarm once. -/
theorem polling_counter (h : inputCollectorEventCheckPolling D cfg p s = some t) : t.counter a = counted D cfg a s p := by
  have hrun : inputCollectorEventCheckPolling D cfg p s =
      ((detect cfg p (detectionOf D cfg p .digital) s).bind fun s1 =>
        (detect cfg p (detectionOf D cfg p .overLimit) s1).bind fun s2 =>
          detect cfg p (detectionOf D cfg p .underLimit) s2) := rfl
  rw [hrun] at h
  obtain ⟨s1, h1, h⟩ := Option.bind_eq_some_iff.1 h
  obtain ⟨s2, h2, h3⟩ := Option.bind_eq_some_iff.1 h
  obtain ⟨check, i, j⟩ := a
  cases check with
  | digital =>
    rw [(detect_other (a := ⟨.digital, i, j⟩) h3 nofun).1, (detect_other (a := ⟨.digital, i, j⟩) h2 nofun).1]
    exact detect_own h1
  | overLimit =>
    obtain ⟨hcounter, htime⟩ := detect_other (a := ⟨.overLimit, i, j⟩) h1 nofun
    rw [(detect_other (a := ⟨.overLimit, i, j⟩) h3 nofun).1, ← counted_congr hcounter htime]
    exact detect_own h2
  | underLimit =>
    obtain ⟨hcounter1, htime1⟩ := detect_other (a := ⟨.underLimit, i, j⟩) h1 nofun
    obtain ⟨hcounter2, htime2⟩ := detect_other (a := ⟨.underLimit, i, j⟩) h2 nofun
    rw [← counted_congr (hcounter2.trans hcounter1) (htime2.trans htime1)]
    exact detect_own h3

end Polls

/-! ## Runs -/

/-- the alarm before each poll of a run and at its end, and what these polls find -/
def checkRun (D : Doubles δ) (cfg : Config δ) (a : Alarm) (s : Collector) (polls : List (Poll δ)) :
    List Bool × List Debounce.Poll :=
  watch (fun s p => inputCollectorEventCheckPolling D cfg p s) (checkLook D cfg a) (fun s => (s.counter a).occur) s polls

section Runs

variable {D : Doubles δ} {cfg : Config δ} {a : Alarm} {s : Collector} {polls : List (Poll δ)}

theorem counterView_zero : counterView ⟨0, false⟩ = quiet := rfl

/-- up to 127 the alarm is the one of the counter -/
theorem checkRun_eq (hpos : 1 ≤ (cfg.threshold a).confirm_time.toNat) (hc : (cfg.threshold a).confirm_time.toNat ≤ 127)
    (hs : s.counter a = ⟨0, false⟩) : (checkRun D cfg a s polls).1 =
      alarms (cfg.threshold a).confirm_time.toNat (-(cfg.threshold a).confirm_time.toNat) quiet
        (checkRun D cfg a s polls).2 := by
  rw [← counterView_zero, ← hs]
  refine watch_eq (I := fun s => Within (cfg.threshold a).confirm_time.toNat (s.counter a))
    (v := fun s => counterView (s.counter a)) (fun _ => rfl) ?_ ?_ ?_ polls s ?_
  · intro s p t poll hs hstep hlook
    rw [checkLook] at hlook
    split_ifs at hlook with hlooks
    rw [polling_counter hstep, counted, if_pos hlooks, ← Option.some.inj hlook]
    exact tick_view hc hs _
  · intro s p t hs hstep hlook
    rw [checkLook] at hlook
    split_ifs at hlook with hlooks
    rw [polling_counter hstep, counted, if_neg hlooks]
  · intro s p t hs hstep
    rw [polling_counter hstep, counted]
    split_ifs
    · exact tick_within hpos hc hs _
    · exact hs
  · rw [Within, hs, counterView_zero]
    exact ⟨by simp only [quiet]; omega, by simp only [quiet]; omega⟩

/-- from 128 on it is never raised -/
theorem checkRun_never (hc : 128 ≤ (cfg.threshold a).confirm_time.toNat) (hs : s.counter a = ⟨0, false⟩) :
    (checkRun D cfg a s polls).1 = List.replicate ((checkRun D cfg a s polls).2.length + 1) false := by
  refine Debounce.watch_replicate (I := fun s => (s.counter a).occur = false) (fun _ h => h) ?_ polls s (by rw [hs])
  intro s p t hs hstep
  rw [polling_counter hstep, counted]
  split_ifs
  · exact tick_never hc hs _
  · exact hs

/-- **The confirmation time.** In every run an alarm is raised after its `confirm_time` abnormal polls in a row at the
earliest. Up to 127 it is raised exactly at the last of them if and only if no clear is followed at once by as many
abnormal polls; from 128 on if and only if there never are as many in a row. -/
theorem confirmTime_law_iff (D : Doubles δ) (cfg : Config δ) (a : Alarm)
    (hpos : 1 ≤ (cfg.threshold a).confirm_time.toNat) (s : Collector) (hs : s.counter a = ⟨0, false⟩)
    (polls : List (Poll δ)) :
    (∀ k < (checkRun D cfg a s polls).2.length, (checkRun D cfg a s polls).1[k]? = some false →
      (checkRun D cfg a s polls).1[k + 1]? = some true →
      Confirmed (cfg.threshold a).confirm_time.toNat (checkRun D cfg a s polls).1 (checkRun D cfg a s polls).2 false k) ∧
    ((cfg.threshold a).confirm_time.toNat ≤ 127 →
      (Law (cfg.threshold a).confirm_time.toNat (checkRun D cfg a s polls).1 (checkRun D cfg a s polls).2 false ↔
        ∀ k, ¬ Relapse (cfg.threshold a).confirm_time.toNat (checkRun D cfg a s polls).1 (checkRun D cfg a s polls).2
          false k)) ∧
    (128 ≤ (cfg.threshold a).confirm_time.toNat →
      (Law (cfg.threshold a).confirm_time.toNat (checkRun D cfg a s polls).1 (checkRun D cfg a s polls).2 false ↔
        ∀ k, ¬ Streak (cfg.threshold a).confirm_time.toNat (checkRun D cfg a s polls).2 false k)) := by
  refine ⟨?_, ?_, ?_⟩
  · rcases Nat.lt_or_ge (cfg.threshold a).confirm_time.toNat 128 with hc | hc
    · rw [checkRun_eq hpos (Nat.le_of_lt_succ hc) hs]
      exact fun k hk hb hchange => Debounce.change_confirmed hpos (by omega) hk hb hchange
    · rw [checkRun_never hc hs]
      intro k hk _ hraised
      rw [List.getElem?_replicate, if_pos (by omega)] at hraised
      exact absurd hraised (by decide)
  · intro hc
    rw [checkRun_eq hpos hc hs]
    exact Debounce.law_iff hpos false
  · intro hc
    rw [checkRun_never hc hs]
    exact Debounce.law_replicate_iff hpos false

end Runs

/-! ## One loop -/

theorem oneLoop_fits : 1 ≤ MAX_INPUT_COLLECTOR_CONF_NUM := by decide

/-- a collector with one digital loop, abnormal when it is closed -/
def oneLoop (confirm_time : UInt8) : Config ℤ where
  number := 1
  fits := oneLoop_fits
  config _ := ⟨1, 0, fun _ => ⟨⟨confirm_time, 0, 0, 0⟩, 1⟩, fun _ => ⟨⟨1, 0, 0, 0⟩, 0, 0⟩⟩

/-- the loop in the given states -/
def loopRun (confirm_time : UInt8) (states : List UInt8) : List Bool × List Debounce.Poll :=
  checkRun wholeNumbers (oneLoop confirm_time) ⟨.digital, 0, 0⟩ automatic (states.map pollOf)

/-- abnormal twice, with one poll between -/
theorem confirmTime_law_once : Law 1 (loopRun 1 [1, 0, 1]).1 (loopRun 1 [1, 0, 1]).2 false := by
  refine ((confirmTime_law_iff wholeNumbers (oneLoop 1) ⟨.digital, 0, 0⟩ (by decide) automatic rfl
    ([1, 0, 1].map pollOf)).2.1 (by decide)).2 ?_
  have hrun : (loopRun 1 [1, 0, 1]).1 = [false, true, true, true] := by decide +kernel
  rintro k ⟨hbefore, hafter, -⟩
  have hafter : [false, true, true, true][k + 1]? = some false := by
    rw [← hrun]
    exact hafter
  rw [List.getElem?_cons_succ] at hafter
  have hmem := List.mem_of_getElem? hafter
  exact absurd hmem (by decide)

/-- **A late raise.** With a threshold of one poll the alarm is raised and cleared, and the abnormal poll after that does
not raise it; with a threshold of 200 it is not raised by 200 abnormal polls. -/
theorem late_raise : ¬ Law 1 (loopRun 1 [1, 0, 0, 1]).1 (loopRun 1 [1, 0, 0, 1]).2 false ∧
    ¬ Law 200 (loopRun 200 (List.replicate 200 1)).1 (loopRun 200 (List.replicate 200 1)).2 false := by
  constructor
  · have hrun : loopRun 1 [1, 0, 0, 1] = ([false, true, true, false, false],
        [⟨true, false⟩, ⟨false, true⟩, ⟨false, true⟩, ⟨true, false⟩]) := by decide +kernel
    rw [hrun]
    intro hlaw
    have hconf : Confirmed 1 [false, true, true, false, false]
        [⟨true, false⟩, ⟨false, true⟩, ⟨false, true⟩, ⟨true, false⟩] false 3 := by
      refine ⟨by decide, fun j h1 h2 => ?_⟩
      rw [show j = 3 by omega]
      exact ⟨rfl, ⟨true, false⟩, rfl, rfl⟩
    exact absurd ((hlaw 3 (by decide) rfl).2 hconf) (by decide)
  · have hpolls : (loopRun 200 (List.replicate 200 1)).2 = List.replicate 200 ⟨true, false⟩ := by decide +kernel
    have hnever : (loopRun 200 (List.replicate 200 1)).1 = List.replicate ((List.replicate 200 1).length + 1) false := by
      decide +kernel
    have hstreak : Streak 200 (List.replicate 200 ⟨true, false⟩) false 199 := by
      refine ⟨le_rfl, fun j _ hj => ⟨⟨true, false⟩, ?_, rfl⟩⟩
      exact (List.getElem?_replicate).trans (if_pos (by omega))
    have hlen : (List.replicate 200 (⟨true, false⟩ : Debounce.Poll)).length = (List.replicate 200 1).length := by
      rw [List.length_replicate, List.length_replicate]
    rw [hpolls, hnever, ← hlen, Debounce.law_replicate_iff (by decide)]
    exact fun hno => hno 199 hstreak

end DataConcentrator.Report
