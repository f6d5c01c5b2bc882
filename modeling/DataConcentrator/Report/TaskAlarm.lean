/-
`RelayAlarmTaskAbnormal` as a debounced alarm: ten polls in a row that find a module in another state than it was told
raise its alarm, and ten that find it there clear it.

After a change `cnt` is left at 10 or -10, from where the count to the next change starts.
- `tick_view`: the counter of a module is the one that starts anew at -10;
- `reports_changes`: what is reported about a module are the changes of its alarm;
- `taskAlarm_law_iff`: the alarm obeys the law of ten polls exactly when no change is followed at once by ten polls
  against it;
- `late_clear`: ten polls that differ and ten that do not, after which the alarm is still raised.
-/
import DataConcentrator.Lib.Debounce
import DataConcentrator.Report.AlarmState

namespace DataConcentrator.Report

open DataConcentrator.InputCollector
open Debounce (Law Relapse alarms quiet watch watch_eq both_laws_iff)

/-! ## The counter of a module -/

/-- `cnt` counts up to a raise and down to a clear -/
def RelayAlarm.view (a : RelayAlarm) : Debounce.Counter := ⟨if a.occur then -a.cnt.toInt else a.cnt.toInt, a.occur⟩

/-- `cnt` stays between its values after a change -/
def RelayAlarm.Bounded (a : RelayAlarm) : Prop := -10 ≤ a.view.progress ∧ a.view.progress < 10

/-- a poll finds another state than the module was told, or this one -/
def found (differs : Bool) : Debounce.Poll := ⟨differs, !differs⟩

theorem toInt_succ {x : Int16} (h : x.toInt < 10) (h' : -10 ≤ x.toInt) : (x + 1).toInt = x.toInt + 1 := by
  rw [Int16.toInt_add]
  have hone : (1 : Int16).toInt = 1 := rfl
  rw [hone, Int.bmod_eq_of_le] <;> omega

theorem toInt_pred {x : Int16} (h : x.toInt ≤ 10) (h' : -10 < x.toInt) : (x - 1).toInt = x.toInt - 1 := by
  rw [Int16.toInt_sub]
  have hone : (1 : Int16).toInt = 1 := rfl
  rw [hone, Int.bmod_eq_of_le] <;> omega

/-- **The counter** starts anew at -10. -/
theorem RelayAlarm.tick_view {a : RelayAlarm} (h : a.Bounded) (differs : Bool) :
    (a.tick differs).1.view = a.view.tick 10 (-10) (found differs) := by
  obtain ⟨cnt, occur⟩ := a
  obtain ⟨hlow, hhigh⟩ := h
  cases occur with
  | false =>
    simp only [view, Bool.false_eq_true, if_false] at hlow hhigh
    cases differs with
    | false => rfl
    | true =>
      have hsucc := toInt_succ hhigh hlow
      have htick : (⟨cnt, false⟩ : RelayAlarm).tick true =
          if cnt + 1 = 10 then (⟨10, true⟩, true) else (⟨cnt + 1, false⟩, false) := rfl
      have hcount : (⟨cnt, false⟩ : RelayAlarm).view.tick 10 (-10) (found true) =
          if cnt.toInt + 1 = 10 then ⟨-10, true⟩ else ⟨cnt.toInt + 1, false⟩ := rfl
      rw [htick, hcount, ← hsucc]
      by_cases hten : cnt + 1 = 10
      · rw [if_pos hten, hten]
        rfl
      · have hne : ¬ (cnt + 1).toInt = 10 := fun h => hten (Int16.toInt_inj.1 h)
        rw [if_neg hten, if_neg hne]
        rfl
  | true =>
    simp only [view, if_true] at hlow hhigh
    cases differs with
    | true => rfl
    | false =>
      have hpred := toInt_pred (x := cnt) (by omega) (by omega)
      have htick : (⟨cnt, true⟩ : RelayAlarm).tick false =
          if cnt - 1 = -10 then (⟨-10, false⟩, true) else (⟨cnt - 1, true⟩, false) := rfl
      have hcount : (⟨cnt, true⟩ : RelayAlarm).view.tick 10 (-10) (found false) =
          if -cnt.toInt + 1 = 10 then ⟨-10, false⟩ else ⟨-cnt.toInt + 1, true⟩ := rfl
      have hneg : -cnt.toInt + 1 = -(cnt - 1).toInt := by rw [hpred]; ring
      rw [htick, hcount, hneg]
      by_cases hten : cnt - 1 = -10
      · rw [if_pos hten, hten]
        rfl
      · have hne : ¬ -(cnt - 1).toInt = 10 := fun h =>
          hten (Int16.toInt_inj.1 (show (cnt - 1).toInt = (-10 : Int16).toInt from (neg_eq_iff_eq_neg.1 h)))
        rw [if_neg hten, if_neg hne]
        rfl

theorem RelayAlarm.tick_bounded {a : RelayAlarm} (h : a.Bounded) (differs : Bool) : (a.tick differs).1.Bounded := by
  obtain ⟨hlow, hhigh⟩ := h
  rw [Bounded, a.tick_view ⟨hlow, hhigh⟩, Debounce.Counter.tick]
  split_ifs with hop hten
  · exact ⟨le_rfl, show (-10 : ℤ) < 10 by decide⟩
  · exact ⟨by simp only; omega, by simp only at hten ⊢; omega⟩
  · exact ⟨show (-10 : ℤ) ≤ 0 by decide, show (0 : ℤ) < 10 by decide⟩

/-! ## A call -/

variable {δ : Type}

/-- the difference that a call looks at -/
def RelayPoll.differs (p : RelayPoll) (i : ℕ) : Bool := p.loop_current_state i ≠ p.loop_task_state i

/-- one module: its count, and the report of a change -/
theorem relayStep_eq {p : RelayPoll} {j : ℕ} {s t : System} (h : relayStep p s j = some t) :
    t.relay = Function.update s.relay j ((s.relay j).tick (p.differs j)).1 ∧
    t.book.about (.relay j) = s.book.about (.relay j) ++
      (if ((s.relay j).tick (p.differs j)).2 then [((s.relay j).tick (p.differs j)).1.occur] else []) ∧
    ∀ i ≠ j, t.book.about (.relay i) = s.book.about (.relay i) := by
  have hcases := (s.relay j).tick_cases (p.differs j)
  have hstep : relayStep p s j = some (if ((s.relay j).tick (p.differs j)).2 then
      pushAlarmReportToAlarmQueue { s with relay := Function.update s.relay j ((s.relay j).tick (p.differs j)).1 } (.relay j)
        (if ((s.relay j).tick (p.differs j)).1.cnt = 10 then 1 else 0)
      else { s with relay := Function.update s.relay j ((s.relay j).tick (p.differs j)).1 }) := rfl
  rw [hstep, Option.some.injEq] at h
  generalize (s.relay j).tick (p.differs j) = r at hcases h ⊢
  obtain ⟨a, record⟩ := r
  rcases hcases with ⟨rfl, -⟩ | ⟨rfl, -, ha⟩ | ⟨rfl, -, ha⟩
  · rw [← h]
    exact ⟨rfl, (List.append_nil _).symm, fun _ _ => rfl⟩
  · simp only at ha
    rw [← h, ha]
    refine ⟨rfl, Ledger.about_push_self _ _ _ _, fun i hi => ?_⟩
    exact Ledger.about_push_of_ne _ _ _ fun heq => hi (Source.relay.inj heq)
  · simp only at ha
    rw [← h, ha]
    refine ⟨rfl, Ledger.about_push_self _ _ _ _, fun i hi => ?_⟩
    exact Ledger.about_push_of_ne _ _ _ fun heq => hi (Source.relay.inj heq)

/-- a module in a pass over several -/
theorem relayPass_eq {p : RelayPoll} (i : ℕ) (js : List ℕ) (hjs : js.Nodup) : ∀ {s t : System},
    js.foldlM (relayStep p) s = some t →
      t.relay i = (if i ∈ js then ((s.relay i).tick (p.differs i)).1 else s.relay i) ∧
      t.book.about (.relay i) = s.book.about (.relay i) ++
        if i ∈ js ∧ ((s.relay i).tick (p.differs i)).2 = true then [((s.relay i).tick (p.differs i)).1.occur] else [] := by
  induction js with
  | nil =>
    intro s t h
    rw [← Option.some.inj h]
    simp
  | cons j js ih =>
    intro s t h
    obtain ⟨hj, hjs⟩ := List.nodup_cons.1 hjs
    rw [List.foldlM_cons] at h
    obtain ⟨u, hu, h⟩ := Option.bind_eq_some_iff.1 h
    obtain ⟨hrelay, hbook⟩ := ih hjs h
    obtain ⟨hown, habout, hothers⟩ := relayStep_eq hu
    by_cases hi : i = j
    · subst hi
      rw [if_neg hj, hown, Function.update_self] at hrelay
      rw [if_neg fun hn => hj hn.1, List.append_nil, habout] at hbook
      rw [hrelay, hbook]
      simp
    · rw [hown, Function.update_of_ne hi] at hrelay hbook
      rw [hrelay, hbook, hothers i hi]
      simp [hi]

/-- what a call finds about a module -/
def taskLook (m : Modules δ) (i : ℕ) (_ : System) (p : RelayPoll) : Option Debounce.Poll :=
  if p.task_abnormal_alarm_enable = 1 ∧ i < m.relays then some (found (p.differs i)) else none

/-- **A call**: a poll of the module, or nothing -/
theorem taskCall_eq {D : Doubles δ} {m : Modules δ} {i : ℕ} {s t : System} {p : RelayPoll}
    (h : callStep D m s (.relay p) = some t) :
    (p.task_abnormal_alarm_enable = 1 ∧ i < m.relays ∧ t.relay i = ((s.relay i).tick (p.differs i)).1 ∧
      t.book.about (.relay i) = s.book.about (.relay i) ++
        if ((s.relay i).tick (p.differs i)).2 then [(t.relay i).occur] else []) ∨
    (¬ (p.task_abnormal_alarm_enable = 1 ∧ i < m.relays) ∧ t.relay i = s.relay i ∧
      t.book.about (.relay i) = s.book.about (.relay i)) := by
  rw [callStep] at h
  split_ifs at h with henable
  · obtain ⟨hrelay, hbook⟩ := relayPass_eq i _ List.nodup_range h
    simp only [List.mem_range] at hrelay hbook
    by_cases hi : i < m.relays
    · rw [if_pos hi] at hrelay
      simp only [hi, true_and] at hbook
      rw [← hrelay] at hbook
      exact Or.inl ⟨henable, hi, hrelay, hbook⟩
    · rw [if_neg hi] at hrelay
      rw [if_neg fun hn => hi hn.1, List.append_nil] at hbook
      exact Or.inr ⟨fun hn => hi hn.2, hrelay, hbook⟩
  · rw [← Option.some.inj h]
    exact Or.inr ⟨fun hn => henable hn.1, rfl, rfl⟩

/-! ## Runs -/

/-- what a call reports about a module is a change of its alarm, and each change is reported -/
def ReportsChanges (D : Doubles δ) (m : Modules δ) (i : ℕ) : Prop :=
  ∀ s t p, callStep D m s (.relay p) = some t → t.book.about (.relay i) = s.book.about (.relay i) ++
    if (t.relay i).occur = (s.relay i).occur then [] else [(t.relay i).occur]

/-- **Reports.** -/
theorem reports_changes (D : Doubles δ) (m : Modules δ) (i : ℕ) : ReportsChanges D m i := by
  intro s t p h
  rcases taskCall_eq (i := i) h with ⟨-, -, hrelay, hbook⟩ | ⟨-, hrelay, hbook⟩
  · rw [hbook, hrelay]
    rcases (s.relay i).tick_cases (p.differs i) with ⟨hrecord, hocc⟩ | ⟨hrecord, hbefore, ha⟩ | ⟨hrecord, hbefore, ha⟩
    · rw [hrecord, hocc, if_pos rfl]
      rfl
    · rw [hrecord, ha, hbefore]
      rfl
    · rw [hrecord, ha, hbefore]
      rfl
  · rw [hbook, hrelay, if_pos rfl, List.append_nil]

/-- the alarm of module `i` before each poll of a run from the reset and at its end, and what these polls find -/
def taskRun (D : Doubles δ) (m : Modules δ) (i : ℕ) (calls : List RelayPoll) : List Bool × List Debounce.Poll :=
  watch (fun s p => callStep D m s (.relay p)) (taskLook m i) (fun s => (s.relay i).occur) silent calls

theorem taskRun_eq (D : Doubles δ) (m : Modules δ) (i : ℕ) (calls : List RelayPoll) :
    (taskRun D m i calls).1 = alarms 10 (-10) quiet (taskRun D m i calls).2 := by
  refine watch_eq (I := fun s => (s.relay i).Bounded) (v := fun s => (s.relay i).view) (fun _ => rfl) ?_ ?_ ?_ calls
    silent ⟨show (-10 : ℤ) ≤ 0 by decide, show (0 : ℤ) < 10 by decide⟩
  · intro s p t poll hs hstep hlook
    rcases taskCall_eq (i := i) hstep with ⟨henable, hi, hrelay, -⟩ | ⟨hn, -⟩
    · rw [taskLook, if_pos ⟨henable, hi⟩, Option.some.injEq] at hlook
      rw [hrelay, ← hlook]
      exact RelayAlarm.tick_view hs _
    · rw [taskLook, if_neg hn] at hlook
      cases hlook
  · intro s p t hs hstep hlook
    rcases taskCall_eq (i := i) hstep with ⟨henable, hi, -⟩ | ⟨-, hrelay, -⟩
    · rw [taskLook, if_pos ⟨henable, hi⟩] at hlook
      cases hlook
    · rw [hrelay]
  · intro s p t hs hstep
    rcases taskCall_eq (i := i) hstep with ⟨-, -, hrelay, -⟩ | ⟨-, hrelay, -⟩
    · rw [hrelay]
      exact RelayAlarm.tick_bounded hs _
    · rw [hrelay]
      exact hs

/-- **The law of the task alarm.** What is reported about a module are the changes of its alarm. In every run these come
exactly at the tenth poll in a row against the alarm if and only if no change, as this law has it, is followed at once by
ten polls against it. -/
theorem taskAlarm_law_iff (D : Doubles δ) (m : Modules δ) (i : ℕ) (calls : List RelayPoll) :
    ReportsChanges D m i ∧
    ((∀ b, Law 10 (taskRun D m i calls).1 (taskRun D m i calls).2 b) ↔
      ∀ b k, ¬ Relapse 10 (alarms 10 0 quiet (taskRun D m i calls).2) (taskRun D m i calls).2 b k) := by
  refine ⟨reports_changes D m i, ?_⟩
  rw [taskRun_eq]
  exact both_laws_iff (by decide)

/-! ## A module that comes back at once -/

/-- one relay module -/
def oneRelay : Modules ℤ := ⟨twoLoops, 1, by decide⟩

/-- a module told to close no loop -/
def relayPollOf (loop_current_state : UInt16) : RelayPoll := ⟨1, fun _ => loop_current_state, fun _ => 0⟩

/-- ten polls that find a loop closed, and ten that find it open -/
def comesBack : List RelayPoll := List.map relayPollOf (List.replicate 10 1 ++ List.replicate 10 0)

/-- **A late clear.** The first ten polls raise the alarm; the next ten do not clear it. -/
theorem late_clear :
    ¬ ∀ b, Law 10 (taskRun wholeNumbers oneRelay 0 comesBack).1 (taskRun wholeNumbers oneRelay 0 comesBack).2 b := by
  have hrun : taskRun wholeNumbers oneRelay 0 comesBack =
      (List.replicate 10 false ++ List.replicate 11 true,
        List.replicate 10 (found true) ++ List.replicate 10 (found false)) := by
    decide +kernel
  rw [hrun]
  intro hlaw
  have hconf : Debounce.Confirmed 10 (List.replicate 10 false ++ List.replicate 11 true)
      (List.replicate 10 (found true) ++ List.replicate 10 (found false)) true 19 := by
    refine ⟨by decide, fun j h1 h2 => ?_⟩
    have hlow : 10 ≤ j := by omega
    interval_cases j <;> exact ⟨rfl, found false, rfl, rfl⟩
  exact absurd ((hlaw true 19 (by decide) rfl).2 hconf) (by decide)

end DataConcentrator.Report
