/-
Which strategy group is in force: `RefreshCurrentRelayStrategyGroup`.

For every enabled group the appointments of that group are searched for ranges that hold now, each of which becomes a
candidate; the first candidate of greatest priority gives the group.
- `refresh_eq`: the function in terms of the accepted ranges;
- `accepts_iff`: exactly which ranges are judged otherwise than they say;
- `groupSelect_iff`: the right group is selected, and nothing is written outside the candidate array, exactly when there
  are at most ten candidates and the misjudged ranges do not change the group that wins;
- `sunday_masked`: a range for Sundays is not found on a Sunday.
-/
import DataConcentrator.Common.Calendar
import DataConcentrator.Lib.FirstMax

namespace DataConcentrator.Relay

/-! ## Data -/

def MAX_RELAY_MODULE_STRATEGY_GROUP_NUM : ℕ := 10

/-- `TimeRange_S` -/
structure TimeRange where
  s_month : UInt8
  s_date : UInt8
  s_hour : UInt8
  s_minute : UInt8
  e_month : UInt8
  e_date : UInt8
  e_hour : UInt8
  e_minute : UInt8
  week_enable : UInt8
deriving DecidableEq, Repr

/-- `RelayAppointment_S`; `range` is the memory from its array of ten entries on -/
structure Appointment where
  group_id : UInt8
  priority : UInt8
  time_range_num : UInt8
  range : ℕ → TimeRange

/-- `RelayStrategyGroupSwitch_S`; `group_id` is the memory from its array of ten entries on -/
structure StrategyGroupSwitch where
  group_num : UInt8
  group_id : ℕ → UInt8
  type : UInt8

/-- `RelayStrategyGroupID_Priority_S` -/
structure Candidate where
  group_id : UInt8
  priority : UInt8
deriving DecidableEq, Repr

/-- what two candidates are compared by -/
def Candidate.rank (c : Candidate) : ℕ := c.priority.toNat

def Appointment.candidate (a : Appointment) : Candidate := ⟨a.group_id, a.priority⟩

/-! ## The search -/

section Search

variable (stack : ℕ → UInt8) (cal : Calendar)

def currentMin : ℕ := getMinutesByCalendar stack cal.w_month cal.w_date cal.hour cal.min

def TimeRange.startMin (r : TimeRange) : ℕ := getMinutesByCalendar stack r.s_month r.s_date r.s_hour r.s_minute

def TimeRange.endMin (r : TimeRange) : ℕ := getMinutesByCalendar stack r.e_month r.e_date r.e_hour r.e_minute

/-- the time is not restricted -/
def TimeRange.allZero (r : TimeRange) : Prop :=
  r.s_month = 0 ∧ r.s_date = 0 ∧ r.s_hour = 0 ∧ r.s_minute = 0 ∧
    r.e_month = 0 ∧ r.e_date = 0 ∧ r.e_hour = 0 ∧ r.e_minute = 0

instance (r : TimeRange) : Decidable r.allZero := inferInstanceAs (Decidable (_ ∧ _))

/-- the test of a weekday mask, `week_enable & (1 << (calendar.week - 1))`; on a Sunday the shift is by -1, which leaves
no bit -/
def weekTest (week_enable : UInt8) : Bool :=
  week_enable = 0 || (cal.week ≠ 0 && week_enable.toNat.testBit (cal.week.toNat - 1))

/-- the tests of range `j` of an appointment, for the enabled group number `i`: across the end of the year the weekday
mask is that of range `i` -/
def accepts (i : ℕ) (a : Appointment) (j : ℕ) : Bool :=
  let r := a.range j
  let current_min := currentMin stack cal
  if r.allZero then weekTest cal r.week_enable
  else
    let start_min := r.startMin stack
    let end_min := r.endMin stack
    if start_min ≤ end_min then
      decide (start_min ≤ current_min ∧ current_min ≤ end_min) && weekTest cal r.week_enable
    else
      decide (start_min ≤ current_min ∧ current_min ≤ 527040 ∨ 1 ≤ current_min ∧ current_min ≤ end_min) &&
        weekTest cal (a.range i).week_enable

/-- the three loops; `none` when a candidate is stored past the array -/
def searchCandidates (sw : StrategyGroupSwitch) (appointments : List Appointment) : Option (List Candidate) :=
  (List.range sw.group_num.toNat).foldlM (fun ps i =>
    appointments.foldlM (fun ps a =>
      if a.group_id = sw.group_id i then
        (List.range a.time_range_num.toNat).foldlM (fun ps j =>
          if accepts stack cal i a j then FirstMax.append MAX_RELAY_MODULE_STRATEGY_GROUP_NUM ps [a.candidate]
          else some ps) ps
      else some ps) ps) []

/-- the group of the first candidate of greatest priority, 0 without any -/
def selectGroup (ps : List Candidate) : UInt8 :=
  match ps with
  | [] => 0
  | [p] => p.group_id
  | _ => (ps.getD (FirstMax.scan Candidate.rank ⟨0, 0⟩ ps ps.length).2 ⟨0, 0⟩).group_id

/-- the index of the head with an id; `heads` are the ids of the heads in `RelayStrategyGroup` -/
def getRelayStrategyGroupByGroupID (heads : List UInt8) (group_id : UInt8) : Option ℕ :=
  if 1 ≤ group_id.toNat ∧ group_id.toNat ≤ MAX_RELAY_MODULE_STRATEGY_GROUP_NUM then
    heads.findIdx? (· = group_id)
  else none

/-- `RefreshCurrentRelayStrategyGroup` -/
def refreshCurrentRelayStrategyGroup (sw : StrategyGroupSwitch) (appointments : List Appointment)
    (heads : List UInt8) : Option (Option ℕ) :=
  if sw.group_num = 0 then some (getRelayStrategyGroupByGroupID heads 0)
  else if sw.type = 1 then
    (searchCandidates stack cal sw appointments).map fun ps => getRelayStrategyGroupByGroupID heads (selectGroup ps)
  else if sw.type = 2 then
    some (getRelayStrategyGroupByGroupID heads (if sw.group_num = 1 then sw.group_id 0 else 0))
  else some (getRelayStrategyGroupByGroupID heads 0)

end Search

/-! ## What the ranges say -/

section Meaning

variable (stack : ℕ → UInt8) (cal : Calendar)

/-- the mask is empty or holds today: bit 0 is a Monday, bit 6 a Sunday -/
def today (week_enable : UInt8) : Bool :=
  week_enable = 0 || week_enable.toNat.testBit ((cal.week.toNat + 6) % 7)

/-- the range goes on over the end of the year -/
def TimeRange.wraps (r : TimeRange) : Prop := ¬ r.allZero ∧ r.endMin stack < r.startMin stack

instance (r : TimeRange) : Decidable (r.wraps stack) := inferInstanceAs (Decidable (_ ∧ _))

/-- now is in the window of the range, both ends included -/
def TimeRange.inWindow (r : TimeRange) : Prop :=
  r.allZero ∨
    if r.wraps stack then r.startMin stack ≤ currentMin stack cal ∨ currentMin stack cal ≤ r.endMin stack
    else r.startMin stack ≤ currentMin stack cal ∧ currentMin stack cal ≤ r.endMin stack

instance (r : TimeRange) : Decidable (r.inWindow stack cal) := inferInstanceAs (Decidable (_ ∨ _))

def TimeRange.active (r : TimeRange) : Bool := decide (r.inWindow stack cal) && today cal r.week_enable

/-- the appointments of the enabled groups, each with the number of its group, in the order of the search -/
def searched (sw : StrategyGroupSwitch) (appointments : List Appointment) : List (ℕ × Appointment) :=
  (List.range sw.group_num.toNat).flatMap fun i =>
    (appointments.filter fun a => a.group_id = sw.group_id i).map fun a => (i, a)

def Appointment.active (a : Appointment) : Bool :=
  (List.range a.time_range_num.toNat).any fun j => (a.range j).active stack cal

/-- the first of greatest priority among the appointments that hold now -/
def winner (sw : StrategyGroupSwitch) (appointments : List Appointment) : Option Candidate :=
  (((searched sw appointments).filter fun e => e.2.active stack cal).map fun e => e.2.candidate).argmax
    Candidate.rank

/-- the ranges of an appointment that pass the tests -/
def acceptedRanges (e : ℕ × Appointment) : List ℕ :=
  (List.range e.2.time_range_num.toNat).filter fun j => accepts stack cal e.1 e.2 j

/-- the first of greatest priority among the appointments with a range that passes the tests -/
def acceptedWinner (sw : StrategyGroupSwitch) (appointments : List Appointment) : Option Candidate :=
  (((searched sw appointments).filter fun e => decide ((acceptedRanges stack cal e).length ≠ 0)).map
    fun e => e.2.candidate).argmax Candidate.rank

/-- the ranges that pass, over all searched appointments -/
def acceptedNum (sw : StrategyGroupSwitch) (appointments : List Appointment) : ℕ :=
  ((searched sw appointments).map fun e => (acceptedRanges stack cal e).length).sum

/-- **The misjudged ranges.** Now is in the window of the range, and either
- it does not wrap, today is a Sunday, and its mask holds Sundays;
- it wraps, now is in it as one of the last minutes of the year, and its mask holds today;
- it wraps otherwise, and the test of the mask of range `i` is not what its own mask says. -/
def Misjudged (i : ℕ) (a : Appointment) (j : ℕ) : Prop :=
  (a.range j).inWindow stack cal ∧
    if (a.range j).wraps stack then
      if (a.range j).startMin stack ≤ currentMin stack cal ∧ 527040 < currentMin stack cal then
        today cal (a.range j).week_enable = true
      else weekTest cal (a.range i).week_enable ≠ today cal (a.range j).week_enable
    else cal.week = 0 ∧ (a.range j).week_enable.toNat.testBit 6 = true

end Meaning

/-! ## The tests against the ranges -/

section Judged

variable {stack : ℕ → UInt8} {cal : Calendar}

/-- the two weekday tests differ on a Sunday only -/
theorem weekTest_eq_today (hc : cal.Valid) (mask : UInt8) :
    weekTest cal mask = today cal mask ↔ ¬ (cal.week = 0 ∧ mask.toNat.testBit 6 = true) := by
  have hw := hc.week_lt
  rw [weekTest, today]
  by_cases h0 : cal.week = 0
  · rw [h0]
    have hbit : ((0 : UInt8).toNat + 6) % 7 = 6 := rfl
    rw [hbit]
    by_cases hm : mask = 0
    · subst hm
      decide
    · cases hb : mask.toNat.testBit 6 <;> simp [hm]
  · have hne : cal.week.toNat ≠ 0 := fun h => h0 (UInt8.toNat_inj.1 h)
    have hbit : (cal.week.toNat + 6) % 7 = cal.week.toNat - 1 := by omega
    rw [hbit]
    simp [h0]

theorem inWindow_of_not_wraps {r : TimeRange} (hz : ¬ r.allZero) (hw : ¬ r.wraps stack) :
    r.inWindow stack cal ↔ r.startMin stack ≤ currentMin stack cal ∧ currentMin stack cal ≤ r.endMin stack := by
  rw [TimeRange.inWindow, or_iff_right hz, if_neg hw]

theorem inWindow_of_wraps {r : TimeRange} (hw : r.wraps stack) :
    r.inWindow stack cal ↔ r.startMin stack ≤ currentMin stack cal ∨ currentMin stack cal ≤ r.endMin stack := by
  rw [TimeRange.inWindow, or_iff_right hw.1, if_pos hw]

/-- **Exactly which ranges are misjudged.** -/
theorem accepts_iff (hc : cal.Valid) (i : ℕ) (a : Appointment) (j : ℕ) :
    accepts stack cal i a j = (a.range j).active stack cal ↔ ¬ Misjudged stack cal i a j := by
  have hpos : 1 ≤ currentMin stack cal := (by decide : 1 ≤ 1440).trans (minutes_pos stack hc)
  rw [accepts, TimeRange.active, Misjudged]
  dsimp only
  by_cases hz : (a.range j).allZero
  · have hw : ¬ (a.range j).wraps stack := fun h => h.1 hz
    have hin : (a.range j).inWindow stack cal := Or.inl hz
    rw [if_pos hz, if_neg hw, decide_eq_true hin, Bool.true_and, weekTest_eq_today hc]
    simp only [hin, true_and]
  · rw [if_neg hz]
    by_cases hw : (a.range j).wraps stack
    · -- the window goes over the end of the year
      rw [if_neg (Nat.not_le.2 hw.2), if_pos hw]
      have hin : (a.range j).inWindow stack cal ↔ _ := inWindow_of_wraps hw
      have hlt := hw.2
      by_cases hlate : (a.range j).startMin stack ≤ currentMin stack cal ∧ 527040 < currentMin stack cal
      · have hnot : ¬ ((a.range j).startMin stack ≤ currentMin stack cal ∧ currentMin stack cal ≤ 527040 ∨
            1 ≤ currentMin stack cal ∧ currentMin stack cal ≤ (a.range j).endMin stack) := by omega
        have hyes : (a.range j).inWindow stack cal := hin.2 (Or.inl hlate.1)
        rw [if_pos hlate, decide_eq_false hnot, decide_eq_true hyes, Bool.false_and, Bool.true_and]
        simp only [hyes, true_and, Bool.not_eq_true]
        exact eq_comm
      · rw [if_neg hlate]
        by_cases hyes : (a.range j).inWindow stack cal
        · have htest : (a.range j).startMin stack ≤ currentMin stack cal ∧ currentMin stack cal ≤ 527040 ∨
              1 ≤ currentMin stack cal ∧ currentMin stack cal ≤ (a.range j).endMin stack := by
            rcases hin.1 hyes with h | h
            · exact Or.inl ⟨h, by omega⟩
            · exact Or.inr ⟨hpos, h⟩
          rw [decide_eq_true htest, decide_eq_true hyes, Bool.true_and, Bool.true_and]
          simp only [hyes, true_and, ne_eq, not_not]
        · have htest : ¬ ((a.range j).startMin stack ≤ currentMin stack cal ∧ currentMin stack cal ≤ 527040 ∨
              1 ≤ currentMin stack cal ∧ currentMin stack cal ≤ (a.range j).endMin stack) := by
            rw [hin] at hyes
            omega
          rw [decide_eq_false htest, decide_eq_false hyes, Bool.false_and, Bool.false_and]
          simp only [hyes, false_and, not_false_iff]
    · have hle : (a.range j).startMin stack ≤ (a.range j).endMin stack := not_lt.1 fun h => hw ⟨hz, h⟩
      rw [if_pos hle, if_neg hw]
      have hin : (a.range j).inWindow stack cal ↔ _ := inWindow_of_not_wraps hz hw
      simp only [← hin]
      by_cases hyes : (a.range j).inWindow stack cal
      · rw [decide_eq_true hyes, Bool.true_and, Bool.true_and, weekTest_eq_today hc]
        simp only [hyes, true_and]
      · rw [decide_eq_false hyes, Bool.false_and, Bool.false_and]
        simp only [hyes, false_and, not_false_iff]

end Judged

/-! ## The search against the meaning -/

section Selection

variable {stack : ℕ → UInt8} {cal : Calendar}

theorem foldlM_ranges (i : ℕ) (a : Appointment) (js : List ℕ) (ps : List Candidate)
    (hps : ps.length ≤ MAX_RELAY_MODULE_STRATEGY_GROUP_NUM) :
    js.foldlM (fun ps j =>
      if accepts stack cal i a j then FirstMax.append MAX_RELAY_MODULE_STRATEGY_GROUP_NUM ps [a.candidate]
      else some ps) ps =
    FirstMax.append MAX_RELAY_MODULE_STRATEGY_GROUP_NUM ps
      (List.replicate (js.filter fun j => accepts stack cal i a j).length a.candidate) := by
  rw [FirstMax.foldlM_append (g := fun j => if accepts stack cal i a j then [a.candidate] else []) ?_ js ps hps]
  · congr 1
    induction js with
    | nil => rfl
    | cons j js ih =>
      rw [List.flatMap_cons, ih, List.filter_cons]
      split_ifs <;> rfl
  · intro ps j hps
    split_ifs with h
    · rfl
    · rw [FirstMax.append, if_pos (by simpa using hps), List.append_nil]

/-- the candidates: each searched appointment once for each range of it that passes the tests -/
theorem searchCandidates_eq (sw : StrategyGroupSwitch) (appointments : List Appointment) :
    searchCandidates stack cal sw appointments =
      FirstMax.append MAX_RELAY_MODULE_STRATEGY_GROUP_NUM []
        ((searched sw appointments).flatMap fun e =>
          List.replicate (acceptedRanges stack cal e).length e.2.candidate) := by
  have hgroup : ∀ i ps, ps.length ≤ MAX_RELAY_MODULE_STRATEGY_GROUP_NUM →
      appointments.foldlM (fun ps a =>
        if a.group_id = sw.group_id i then
          (List.range a.time_range_num.toNat).foldlM (fun ps j =>
            if accepts stack cal i a j then FirstMax.append MAX_RELAY_MODULE_STRATEGY_GROUP_NUM ps [a.candidate]
            else some ps) ps
        else some ps) ps =
      FirstMax.append MAX_RELAY_MODULE_STRATEGY_GROUP_NUM ps
        (((appointments.filter fun a => a.group_id = sw.group_id i).map fun a => (i, a)).flatMap fun e =>
          List.replicate (acceptedRanges stack cal e).length e.2.candidate) := by
    intro i ps hps
    rw [FirstMax.foldlM_append (g := fun a => if a.group_id = sw.group_id i then
      List.replicate (acceptedRanges stack cal (i, a)).length a.candidate else []) ?_ appointments ps hps]
    · congr 1
      induction appointments with
      | nil => rfl
      | cons a appointments ih =>
        rw [List.flatMap_cons, ih, List.filter_cons]
        by_cases h : a.group_id = sw.group_id i
        · rw [if_pos h, if_pos (decide_eq_true h), List.map_cons, List.flatMap_cons]
        · rw [if_neg h, if_neg (by simpa using h), List.nil_append]
    · intro ps a hps
      split_ifs with h
      · exact foldlM_ranges i a _ ps hps
      · rw [FirstMax.append, if_pos (by simpa using hps), List.append_nil]
  rw [searchCandidates, FirstMax.foldlM_append (fun ps i hps => hgroup i ps hps) _ [] (Nat.zero_le _), searched,
    List.flatMap_assoc]

/-- the selection is the first candidate of greatest priority -/
theorem selectGroup_eq (heads : List UInt8) (ps : List Candidate) :
    getRelayStrategyGroupByGroupID heads (selectGroup ps) =
      (ps.argmax Candidate.rank).bind fun c => getRelayStrategyGroupByGroupID heads c.group_id := by
  match ps with
  | [] => rfl
  | [p] => rfl
  | p :: q :: ps =>
    rw [FirstMax.scan_eq_argmax Candidate.rank ⟨0, 0⟩ _ (List.cons_ne_nil p (q :: ps))]
    rfl

/-- **The function in terms of the accepted ranges.** -/
theorem refresh_eq {sw : StrategyGroupSwitch} (hnum : sw.group_num ≠ 0) (htype : sw.type = 1)
    (appointments : List Appointment) (heads : List UInt8) :
    refreshCurrentRelayStrategyGroup stack cal sw appointments heads =
      if acceptedNum stack cal sw appointments ≤ MAX_RELAY_MODULE_STRATEGY_GROUP_NUM then
        some ((acceptedWinner stack cal sw appointments).bind fun c => getRelayStrategyGroupByGroupID heads c.group_id)
      else none := by
  have hlength : ((searched sw appointments).flatMap fun e =>
      List.replicate (acceptedRanges stack cal e).length e.2.candidate).length =
        acceptedNum stack cal sw appointments := by
    simp only [List.length_flatMap, List.length_replicate, acceptedNum]
  rw [refreshCurrentRelayStrategyGroup, if_neg hnum, if_pos htype, searchCandidates_eq, FirstMax.append, hlength,
    List.length_nil, Nat.zero_add, List.nil_append]
  split_ifs
  · rw [Option.map_some, selectGroup_eq, FirstMax.argmax_flatMap_replicate]
    rfl
  · rfl

/-- the head of the group of the first appointment of greatest priority that holds now, NULL without one; nothing is
written outside the array -/
def Selects (stack : ℕ → UInt8) (cal : Calendar) (sw : StrategyGroupSwitch) (appointments : List Appointment)
    (heads : List UInt8) : Prop :=
  refreshCurrentRelayStrategyGroup stack cal sw appointments heads =
    some ((winner stack cal sw appointments).bind fun c => getRelayStrategyGroupByGroupID heads c.group_id)

/-- where no range is misjudged, the accepted appointments are those that hold now -/
theorem acceptedWinner_eq (hc : cal.Valid) {sw : StrategyGroupSwitch} {appointments : List Appointment}
    (h : ∀ e ∈ searched sw appointments, ∀ j < e.2.time_range_num.toNat, ¬ Misjudged stack cal e.1 e.2 j) :
    acceptedWinner stack cal sw appointments = winner stack cal sw appointments := by
  rw [acceptedWinner, winner]
  congr 2
  refine List.filter_congr fun e he => ?_
  rw [Bool.eq_iff_iff, decide_eq_true_iff, Appointment.active, List.any_eq_true, ne_eq, List.length_eq_zero_iff,
    acceptedRanges, List.filter_eq_nil_iff]
  constructor
  · intro hne
    by_contra hnone
    refine hne fun j hj hacc => hnone ⟨j, hj, ?_⟩
    rw [← (accepts_iff hc e.1 e.2 j).2 (h e he j (List.mem_range.1 hj))]
    exact hacc
  · intro hex hnone
    obtain ⟨j, hj, hactive⟩ := hex
    refine hnone j hj ?_
    rw [(accepts_iff hc e.1 e.2 j).2 (h e he j (List.mem_range.1 hj))]
    exact hactive

/-- **Group selection.** For any switch with enabled groups and type 1, at any calendar time: the right head is returned
and nothing is written outside the array exactly when at most ten ranges pass the tests and the first of greatest
priority among the accepted appointments has the head of the first among those that hold now. It has where no range is
misjudged. -/
theorem groupSelect_iff (hc : cal.Valid) (sw : StrategyGroupSwitch) (hnum : sw.group_num ≠ 0) (htype : sw.type = 1)
    (appointments : List Appointment) (heads : List UInt8) :
    (Selects stack cal sw appointments heads ↔
      acceptedNum stack cal sw appointments ≤ MAX_RELAY_MODULE_STRATEGY_GROUP_NUM ∧
      ((acceptedWinner stack cal sw appointments).bind fun c => getRelayStrategyGroupByGroupID heads c.group_id) =
        (winner stack cal sw appointments).bind fun c => getRelayStrategyGroupByGroupID heads c.group_id) ∧
    (acceptedNum stack cal sw appointments ≤ MAX_RELAY_MODULE_STRATEGY_GROUP_NUM →
      (∀ e ∈ searched sw appointments, ∀ j < e.2.time_range_num.toNat, ¬ Misjudged stack cal e.1 e.2 j) →
        Selects stack cal sw appointments heads) := by
  rw [Selects, refresh_eq hnum htype]
  refine ⟨⟨fun h => ?_, fun h => ?_⟩, fun hle h => ?_⟩
  · obtain ⟨hle, h⟩ := Option.ite_none_right_eq_some.1 h
    exact ⟨hle, Option.some.inj h⟩
  · rw [if_pos h.1, h.2]
  · rw [if_pos hle, acceptedWinner_eq hc h]

end Selection

/-! ## A range for Sundays -/

/-- noon of the first of March, a Sunday -/
def sunday : Calendar := ⟨3, 1, 12, 0, 0⟩

/-- group 1 at any time on Sundays -/
def onSundays : Appointment := ⟨1, 0, 1, fun _ => ⟨0, 0, 0, 0, 0, 0, 0, 0, 0x40⟩⟩

def firstGroup : StrategyGroupSwitch := ⟨1, fun _ => 1, 1⟩

def builtHeads : List UInt8 := [1, 2, 3, 4, 5, 6, 7, 8, 9, 10]

theorem sunday_valid : sunday.Valid := ⟨by decide, by decide, by decide, by decide, by decide, by decide, by decide⟩

/-- group 1 at any time -/
def always : Appointment := ⟨1, 0, 1, fun _ => ⟨0, 0, 0, 0, 0, 0, 0, 0, 0⟩⟩

theorem groupSelect_always : Selects (fun _ => 0) sunday firstGroup [always] builtHeads := by
  refine (groupSelect_iff sunday_valid firstGroup (by decide) rfl [always] builtHeads).2 (by decide +kernel) ?_
  have hsearched : searched firstGroup [always] = [(0, always)] := rfl
  intro e he j hj
  rw [hsearched, List.mem_singleton] at he
  subst he
  have hj : j = 0 := Nat.lt_one_iff.1 hj
  subst hj
  exact (accepts_iff sunday_valid 0 always 0).1 (by decide)

/-- **A range for Sundays is not found on a Sunday.** -/
theorem sunday_masked :
    sunday.Valid ∧ winner (fun _ => 0) sunday firstGroup [onSundays] = some ⟨1, 0⟩ ∧
      refreshCurrentRelayStrategyGroup (fun _ => 0) sunday firstGroup [onSundays] builtHeads = some none ∧
        ¬ Selects (fun _ => 0) sunday firstGroup [onSundays] builtHeads := by
  have hwin : winner (fun _ => 0) sunday firstGroup [onSundays] = some ⟨1, 0⟩ := by decide +kernel
  have hrun : refreshCurrentRelayStrategyGroup (fun _ => 0) sunday firstGroup [onSundays] builtHeads = some none := by
    decide +kernel
  refine ⟨sunday_valid, hwin, hrun, fun h => ?_⟩
  rw [Selects, hrun, hwin] at h
  exact absurd h (by decide)

end DataConcentrator.Relay
