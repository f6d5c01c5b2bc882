/-
Strategy dissemination: the task `0x01D5` that `LampSynchronizeConfig` builds for type 2.

- `strategy_sends`: the frames of the task, record by record, from any record and any `add_index`;
- `strategySync_iff`: when they are exactly the deliveries the stored records ask for;
- `second_address_unsent`: a record with two addresses.
-/
import DataConcentrator.Lib.IndexScan
import DataConcentrator.Plc.Run

namespace DataConcentrator.Plc

open IndexScan (selected)
open Protocol (ServerFrameStruct)

/-! ## The search for a record -/

/-- the valid record stored at an index -/
def Store.strategy (st : Store) (i : ℕ) : Option LampTask :=
  if st.readSpecifyLampStrategyNumList i && (st.lampTaskConfig i).1 then some (st.lampTaskConfig i).2 else none

def Store.stored (st : Store) (i : ℕ) : Bool := (st.strategy i).isSome

variable (st : Store)

theorem strategy_lt {i : ℕ} {lt : LampTask} (h : st.strategy i = some lt) : i < MAX_LAMP_STRATEGY_NUM := by
  by_contra hge
  simp [Store.strategy, Store.readSpecifyLampStrategyNumList, Nat.not_lt.1 hge] at h

/-- the current record after a round -/
def nextIndex (ctrl_mode i add_index : ℕ) : ℕ := if ctrl_mode = 2 ∧ add_index ≠ 0 then i else i + 1

theorem nextIndex_le (ctrl_mode i add_index : ℕ) : nextIndex ctrl_mode i add_index ≤ i + 1 := by
  unfold nextIndex
  split_ifs <;> omega

/-- the task at record `i` with `e` frames counted -/
def Task.wrote (task : Task) (i e : ℕ) : Task := { task with executed_index := i, executed_num := e }

@[simp] theorem wrote_index (task : Task) (i e : ℕ) : (task.wrote i e).executed_index = i := rfl

theorem nextRecord_eq {task : Task} (hi : task.executed_index < 65535) (ctrl_mode add_index : ℕ) :
    task.nextRecord ctrl_mode add_index =
      task.wrote (nextIndex ctrl_mode task.executed_index add_index) task.executed_num := by
  unfold Task.nextRecord nextIndex Task.wrote
  rw [inc16_of_lt hi]
  split_ifs <;> rfl

/-- what `CombinePlcUserFrame` returns for a record -/
def combinedStrategy (task : Task) (lamp_task : LampTask) (add_index : ℕ) : Combined :=
  let sent := strategyFrame task lamp_task add_index
  ⟨true, sent.1, task.wrote (nextIndex lamp_task.ctrl_mode task.executed_index sent.2) (task.executed_num + 1), sent.2⟩

theorem readTaskConf_hit {task : Task} {lamp_task : LampTask} (h : st.strategy task.executed_index = some lamp_task)
    (he : task.executed_num < 65535) (fuel ctrl_mode add_index : ℕ) (frame : PlcFrame) :
    readTaskConf st (fuel + 1) ctrl_mode add_index task frame = combinedStrategy task lamp_task add_index := by
  have hi := strategy_lt st h
  have hnext : ∀ m a, ({ task with executed_num := inc16 task.executed_num } : Task).nextRecord m a =
      task.wrote (nextIndex m task.executed_index a) (task.executed_num + 1) := by
    intro m a
    rw [nextRecord_eq (by unfold MAX_LAMP_STRATEGY_NUM at hi; dsimp only; omega), inc16_of_lt he]
    rfl
  unfold Store.strategy at h
  split_ifs at h with hstored
  cases h
  rw [readTaskConf]
  dsimp only
  rw [if_pos hstored, hnext, wrote_index, if_pos ((nextIndex_le _ _ _).trans hi)]
  rfl

/-- a round without a record moves to the next index, or clears `add_index` first -/
theorem readTaskConf_miss {task : Task} (h : st.strategy task.executed_index = none)
    (hi : task.executed_index < MAX_LAMP_STRATEGY_NUM) (fuel ctrl_mode add_index : ℕ) (frame : PlcFrame) :
    ∃ ctrl_mode', readTaskConf st (fuel + 1) ctrl_mode add_index task frame =
      readTaskConf st fuel ctrl_mode' 0
        (task.wrote (nextIndex ctrl_mode' task.executed_index add_index) task.executed_num) frame := by
  have hnot : (st.readSpecifyLampStrategyNumList task.executed_index && (st.lampTaskConfig task.executed_index).1) = false := by
    unfold Store.strategy at h
    split_ifs at h with hstored
    exact Bool.eq_false_iff.2 hstored
  rw [readTaskConf]
  dsimp only
  rw [if_neg (by rw [hnot]; simp), nextRecord_eq (by unfold MAX_LAMP_STRATEGY_NUM at hi; omega), wrote_index,
    if_pos ((nextIndex_le _ _ _).trans hi)]
  exact ⟨_, rfl⟩

/-- past the last index the task ends, at once or after `add_index` is clear -/
theorem readTaskConf_end {task : Task} (hi : task.executed_index = MAX_LAMP_STRATEGY_NUM)
    (fuel ctrl_mode add_index : ℕ) (frame : PlcFrame) (hf : 0 < fuel ∨ add_index = 0) :
    ∃ task' a, readTaskConf st (fuel + 1) ctrl_mode add_index task frame = ⟨false, frame, task', a⟩ ∧
      task'.state = .finished := by
  have hlist : st.readSpecifyLampStrategyNumList task.executed_index = false := by
    simp [Store.readSpecifyLampStrategyNumList, hi]
  induction fuel generalizing task ctrl_mode add_index with
  | zero =>
    obtain rfl : add_index = 0 := by omega
    rw [readTaskConf]
    dsimp only
    rw [hlist, Bool.false_and, if_neg (by simp), nextRecord_eq (by rw [hi]; decide), wrote_index, hi, if_neg]
    · exact ⟨_, _, rfl, rfl⟩
    · simp [nextIndex]
  | succ fuel ih =>
    rw [readTaskConf]
    dsimp only
    rw [hlist, Bool.false_and, if_neg Bool.false_ne_true, if_neg Bool.false_ne_true,
      nextRecord_eq (by rw [hi]; decide), wrote_index]
    split_ifs with hle
    · have hidx : nextIndex ctrl_mode task.executed_index add_index = MAX_LAMP_STRATEGY_NUM := by
        unfold nextIndex at hle ⊢
        split_ifs at hle ⊢ <;> omega
      rw [hidx]
      exact ih rfl ctrl_mode 0 (.inr rfl) (by simp [Store.readSpecifyLampStrategyNumList])
    · exact ⟨_, _, rfl, rfl⟩

/-- with `add_index` clear, the search finds the first stored record, or ends the task -/
theorem readTaskConf_search (frame : PlcFrame) (fuel : ℕ) : ∀ (task : Task) (ctrl_mode : ℕ),
    task.executed_index ≤ MAX_LAMP_STRATEGY_NUM → MAX_LAMP_STRATEGY_NUM < fuel + task.executed_index →
    task.executed_num < 65535 →
    match selected st.stored MAX_LAMP_STRATEGY_NUM task.executed_index with
    | [] => ∃ task' a, readTaskConf st fuel ctrl_mode 0 task frame = ⟨false, frame, task', a⟩ ∧ task'.state = .finished
    | k :: _ => ∀ lamp_task, st.strategy k = some lamp_task →
        readTaskConf st fuel ctrl_mode 0 task frame = combinedStrategy { task with executed_index := k } lamp_task 0 := by
  induction fuel with
  | zero =>
    intro task _ hi hf
    omega
  | succ fuel ih =>
    intro task ctrl_mode hi hf he
    rcases Nat.lt_or_ge task.executed_index MAX_LAMP_STRATEGY_NUM with hlt | hge
    · cases hs : st.strategy task.executed_index with
      | some lamp_task =>
        rw [IndexScan.selected_hit _ hlt (by rw [Store.stored, hs]; rfl)]
        intro lamp_task' hlt'
        rw [hs] at hlt'
        cases hlt'
        exact readTaskConf_hit st hs he fuel ctrl_mode 0 frame
      | none =>
        obtain ⟨ctrl_mode', hround⟩ := readTaskConf_miss st hs hlt fuel ctrl_mode 0 frame
        have hnext : nextIndex ctrl_mode' task.executed_index 0 = task.executed_index + 1 := if_neg (by simp)
        rw [IndexScan.selected_miss _ hlt (by rw [Store.stored, hs]; rfl), hround, hnext]
        exact ih (task.wrote (task.executed_index + 1) task.executed_num) ctrl_mode' hlt
          (by simp only [Task.wrote]; omega) he
    · rw [IndexScan.selected_end _ hge]
      exact readTaskConf_end st (by omega) fuel ctrl_mode 0 frame (.inr rfl)

/-! ## The frames of a run -/

/-- the record and the `add_index` the next frame is made from: an index without a record clears `add_index` -/
def Store.reach (st : Store) (i add_index : ℕ) : Option (ℕ × ℕ) :=
  if st.stored i then some (i, add_index)
  else ((selected st.stored MAX_LAMP_STRATEGY_NUM i).head?).map fun k => (k, 0)

/-- the search of one call -/
theorem readTaskConf_reach {task : Task} (hi : task.executed_index ≤ MAX_LAMP_STRATEGY_NUM)
    (he : task.executed_num < 65535) (ctrl_mode add_index : ℕ) (frame : PlcFrame) :
    match st.reach task.executed_index add_index with
    | none => ∃ task' a, readTaskConf st strategyFuel ctrl_mode add_index task frame = ⟨false, frame, task', a⟩ ∧
        task'.state = .finished
    | some (k, a) => ∀ lamp_task, st.strategy k = some lamp_task →
        readTaskConf st strategyFuel ctrl_mode add_index task frame =
          combinedStrategy { task with executed_index := k } lamp_task a := by
  cases hs : st.strategy task.executed_index with
  | some lamp_task =>
    rw [Store.reach, if_pos (by rw [Store.stored, hs]; rfl)]
    intro lamp_task' hlt'
    rw [hs] at hlt'
    cases hlt'
    exact readTaskConf_hit st hs he _ ctrl_mode add_index frame
  | none =>
    have hstored : st.stored task.executed_index = false := by rw [Store.stored, hs]; rfl
    rw [Store.reach, if_neg (by rw [hstored]; simp)]
    rcases Nat.lt_or_ge task.executed_index MAX_LAMP_STRATEGY_NUM with hlt | hge
    · -- the first round clears `add_index`, at the same index or at the next one
      obtain ⟨ctrl_mode', hround⟩ := readTaskConf_miss st hs hlt (MAX_LAMP_STRATEGY_NUM + 2) ctrl_mode add_index frame
      have hsel : selected st.stored MAX_LAMP_STRATEGY_NUM (nextIndex ctrl_mode' task.executed_index add_index) =
          selected st.stored MAX_LAMP_STRATEGY_NUM task.executed_index := by
        unfold nextIndex
        split_ifs
        · rfl
        · exact (IndexScan.selected_miss _ hlt hstored).symm
      have hsearch := readTaskConf_search st frame (MAX_LAMP_STRATEGY_NUM + 2)
        (task.wrote (nextIndex ctrl_mode' task.executed_index add_index) task.executed_num) ctrl_mode'
        ((nextIndex_le _ _ _).trans hlt) (by omega) he
      rw [wrote_index, hsel] at hsearch
      rw [strategyFuel, hround]
      cases hks : selected st.stored MAX_LAMP_STRATEGY_NUM task.executed_index with
      | nil =>
        rw [hks] at hsearch
        exact hsearch
      | cons k ks =>
        rw [hks] at hsearch
        exact hsearch
    · rw [IndexScan.selected_end _ hge]
      exact readTaskConf_end st (by omega) _ ctrl_mode add_index frame (.inl (by decide))

theorem reach_stored {i add_index k a : ℕ} (h : st.reach i add_index = some (k, a)) : st.stored k = true := by
  unfold Store.reach at h
  split_ifs at h with hs
  · cases h
    exact hs
  · obtain ⟨j, hj, hja⟩ := Option.map_eq_some_iff.1 h
    cases hja
    exact ((IndexScan.mem_selected _).1 (List.mem_of_mem_head? hj)).2.2

/-- the strategy task at record `k`, as far as its frames show it -/
def strategyTask (k : ℕ) : Task := { Task.zero with cmd_code := 0x01D5, executed_index := k }

theorem strategyFrame_task {task : Task} (hc : task.cmd_code = 0x01D5) (lamp_task : LampTask) (add_index : ℕ) :
    strategyFrame task lamp_task add_index = strategyFrame (strategyTask task.executed_index) lamp_task add_index := by
  have hcode : task.frameCode = (strategyTask task.executed_index).frameCode := by
    unfold Task.frameCode
    rw [hc]
    rfl
  unfold strategyFrame
  rw [hcode]
  rfl

/-- the frames of a strategy task with a budget of `n`, from index `i` and `add_index` on -/
def strategyFrames (st : Store) : ℕ → ℕ → ℕ → List PlcFrame
  | 0, _, _ => []
  | n + 1, i, add_index =>
    match st.reach i add_index with
    | none => []
    | some (k, a) =>
      match st.strategy k with
      | none => []
      | some lamp_task =>
        let sent := strategyFrame (strategyTask k) lamp_task a
        sent.1 :: strategyFrames st n (nextIndex lamp_task.ctrl_mode k sent.2) sent.2

theorem build_strategy (c : Call) {task : Task} (hc : task.cmd_code = 0x01D5) (add_index : ℕ)
    (hlt : task.executed_num < task.execute_total_num) :
    build st c add_index task =
      let r := readTaskConf st strategyFuel c.stackMode add_index task { PlcFrame.zero with cmd_code := task.frameCode }
      .built r.task r.frame r.ret r.add_index := by
  rw [build, if_pos hc, if_pos hlt, combine_strategy st _ _ _ _ _ rfl hc]

/-- **Record by record.** What a strategy task sends until it is finished. -/
theorem strategy_sends (n : ℕ) : ∀ (task : Task) (add_index : ℕ), task.cmd_code = 0x01D5 →
    task.executed_index ≤ MAX_LAMP_STRATEGY_NUM → task.execute_total_num < 65536 →
    task.execute_total_num - task.executed_num = n →
    Sends st add_index task (strategyFrames st n task.executed_index add_index) := by
  induction n with
  | zero =>
    intro task add_index hc hi htot hn
    refine .finished fun c => ?_
    rw [build, if_pos hc, if_neg (by omega)]
    trivial
  | succ n ih =>
    intro task add_index hc hi htot hn
    have hlt : task.executed_num < task.execute_total_num := by omega
    have hround := fun c : Call => readTaskConf_reach st hi (by omega : task.executed_num < 65535) c.stackMode add_index
      { PlcFrame.zero with cmd_code := task.frameCode }
    cases hr : st.reach task.executed_index add_index with
    | none =>
      simp only [strategyFrames, hr]
      refine .finished fun c => ?_
      have hc' := hround c
      rw [hr] at hc'
      obtain ⟨task', a, hread, hstate⟩ := hc'
      rw [build_strategy st c hc add_index hlt, hread]
      exact ⟨rfl, hstate⟩
    | some ka =>
      obtain ⟨k, a⟩ := ka
      obtain ⟨lamp_task, hk⟩ := Option.isSome_iff_exists.1 (reach_stored st hr)
      have hkN := strategy_lt st hk
      simp only [strategyFrames, hr, hk]
      have hsent : strategyFrame { task with executed_index := k } lamp_task a =
          strategyFrame (strategyTask k) lamp_task a :=
        @strategyFrame_task { task with executed_index := k } hc lamp_task a
      have hbuild : ∀ c, build st c add_index task = .built
          (task.wrote (nextIndex lamp_task.ctrl_mode k (strategyFrame (strategyTask k) lamp_task a).2)
            (task.executed_num + 1))
          (strategyFrame (strategyTask k) lamp_task a).1 true (strategyFrame (strategyTask k) lamp_task a).2 := by
        intro c
        have hc' := hround c
        rw [hr] at hc'
        rw [build_strategy st c hc add_index hlt, hc' lamp_task hk, combinedStrategy, hsent]
        rfl
      refine .sent hbuild fun r => ?_
      obtain ⟨x, y, z, hans⟩ := answered_frame (task.wrote
        (nextIndex lamp_task.ctrl_mode k (strategyFrame (strategyTask k) lamp_task a).2) (task.executed_num + 1)) r
      rw [hans]
      exact ih _ _ hc ((nextIndex_le _ _ _).trans hkN) htot (by simp only [Task.wrote]; omega)

/-! ## Deliveries -/

/-- the groups or addresses a record lists: its entries up to the first zero -/
def LampTask.idNum (lamp_task : LampTask) : ℕ :=
  ((List.range MAX_LAMP_GROUP_NUM).takeWhile fun k => lamp_task.group_add k ≠ 0).length

def LampTask.ids (lamp_task : LampTask) : List UInt32 := (List.range lamp_task.idNum).map lamp_task.group_add

/-- the recipients a record asks for -/
def LampTask.recipients (lamp_task : LampTask) : List Recipient :=
  match lamp_task.ctrl_mode with
  | 0 => [.all]
  | 1 => [.groups (lamp_task.ids.map UInt32.toUInt8)]
  | _ => lamp_task.ids.map .device

/-- what a frame delivers, to whom, and for which record -/
def tagged (frame : PlcFrame) : ℕ × Option Recipient × Option Payload := (frame.origin, frame.recipient, frame.buf)

/-- the deliveries the record at an index asks for -/
def Store.deliveries (st : Store) (k : ℕ) : List (ℕ × Option Recipient × Option Payload) :=
  match st.strategy k with
  | some lamp_task => lamp_task.recipients.map fun r => (k, some r, some (.strategy lamp_task.content))
  | none => []

theorem idNum_spec (lamp_task : LampTask) : lamp_task.idNum ≤ MAX_LAMP_GROUP_NUM ∧
    (∀ k < lamp_task.idNum, lamp_task.group_add k ≠ 0) ∧
    (lamp_task.idNum < MAX_LAMP_GROUP_NUM → lamp_task.group_add lamp_task.idNum = 0) := by
  obtain ⟨hle, hall, hend⟩ :=
    IndexScan.length_takeWhile_range (fun k => decide (lamp_task.group_add k ≠ 0)) MAX_LAMP_GROUP_NUM
  exact ⟨hle, fun k hk => of_decide_eq_true (hall k hk), fun hlt => not_not.1 (of_decide_eq_false (hend hlt))⟩

/-- the groups the frame is given: up to the first entry whose low byte is zero -/
theorem groupIds_spec (lamp_task : LampTask) :
    lamp_task.groupIds = (List.range lamp_task.groupIds.length).map (fun k => (lamp_task.group_add k).toUInt8) ∧
      lamp_task.groupIds.length ≤ lamp_task.idNum ∧
      ((∀ k < lamp_task.idNum, (lamp_task.group_add k).toUInt8 ≠ 0) ↔ lamp_task.groupIds.length = lamp_task.idNum) := by
  obtain ⟨hidle, hids, hidend⟩ := idNum_spec lamp_task
  have hmap : lamp_task.groupIds = ((List.range MAX_LAMP_GROUP_NUM).takeWhile
      fun k => decide ((lamp_task.group_add k).toUInt8 ≠ 0)).map fun k => (lamp_task.group_add k).toUInt8 := by
    rw [LampTask.groupIds, List.takeWhile_map]
    rfl
  obtain ⟨hle, hall, hend⟩ :=
    IndexScan.length_takeWhile_range (fun k => decide ((lamp_task.group_add k).toUInt8 ≠ 0)) MAX_LAMP_GROUP_NUM
  have hlen : lamp_task.groupIds.length = ((List.range MAX_LAMP_GROUP_NUM).takeWhile
      fun k => decide ((lamp_task.group_add k).toUInt8 ≠ 0)).length := by
    rw [hmap, List.length_map]
  rw [← hlen] at hle hall hend
  have hlow : lamp_task.groupIds.length ≤ lamp_task.idNum := by
    by_contra hlt
    have hzero := hidend (by omega)
    have hne := of_decide_eq_true (hall lamp_task.idNum (by omega))
    rw [hzero] at hne
    exact hne rfl
  refine ⟨?_, hlow, fun h => ?_, fun h k hk => of_decide_eq_true (hall k (by omega))⟩
  · have hrange := IndexScan.takeWhile_range (fun k => decide ((lamp_task.group_add k).toUInt8 ≠ 0)) MAX_LAMP_GROUP_NUM
    rw [← hlen] at hrange
    rw [hrange] at hmap
    exact hmap
  · by_contra hne
    have hlt : lamp_task.groupIds.length < lamp_task.idNum := by omega
    exact h _ hlt (not_not.1 (of_decide_eq_false (hend (by omega))))

/-- the groups sent are the groups listed exactly if fewer than ten are listed, none with a zero low byte -/
theorem sent_groups_iff (lamp_task : LampTask) :
    lamp_task.groupIds.take lamp_task.groupNum = lamp_task.ids.map UInt32.toUInt8 ↔
      lamp_task.ids.length < MAX_LAMP_GROUP_NUM ∧ ∀ id ∈ lamp_task.ids, id.toUInt8 ≠ 0 := by
  obtain ⟨hids, hle, hiff⟩ := groupIds_spec lamp_task
  obtain ⟨hidle, _, _⟩ := idNum_spec lamp_task
  have hmem : (∀ id ∈ lamp_task.ids, id.toUInt8 ≠ 0) ↔ ∀ k < lamp_task.idNum, (lamp_task.group_add k).toUInt8 ≠ 0 := by
    simp [LampTask.ids]
  have hlen : lamp_task.ids.length = lamp_task.idNum := by simp [LampTask.ids]
  have hmap : lamp_task.ids.map UInt32.toUInt8 =
      (List.range lamp_task.idNum).map fun k => (lamp_task.group_add k).toUInt8 := by
    rw [LampTask.ids, List.map_map]
    rfl
  rw [hmem, hiff, hlen, hmap, LampTask.groupNum]
  constructor
  · intro heq
    have hlength := congrArg List.length heq
    rw [List.length_take, List.length_map, List.length_range] at hlength
    split_ifs at hlength with hg
    · omega
    · unfold MAX_LAMP_GROUP_NUM at hg
      omega
  · rintro ⟨hlt, heq⟩
    rw [if_pos (by omega), List.take_length, ← heq]
    exact hids

/-- the frame for a shared record, which leaves `add_index` alone -/
theorem strategyFrame_shared (k : ℕ) {lamp_task : LampTask} (hm : lamp_task.ctrl_mode ≤ 1) (a : ℕ) :
    (strategyFrame (strategyTask k) lamp_task a).2 = a ∧
      tagged (strategyFrame (strategyTask k) lamp_task a).1 = (k,
        some (if lamp_task.ctrl_mode = 0 then .all else .groups (lamp_task.groupIds.take lamp_task.groupNum)),
        some (.strategy lamp_task.content)) := by
  rcases Nat.le_one_iff_eq_zero_or_eq_one.1 hm with h | h
  · simp [strategyFrame, h, tagged, PlcFrame.recipient, strategyTask]
  · simp [strategyFrame, h, tagged, PlcFrame.recipient, strategyTask]

/-- the frame for one address of a record -/
theorem strategyFrame_unicast (k : ℕ) {lamp_task : LampTask} (hm : lamp_task.ctrl_mode = 2) (a : ℕ) :
    (strategyFrame (strategyTask k) lamp_task a).2 = lamp_task.nextAdd a ∧
      tagged (strategyFrame (strategyTask k) lamp_task a).1 =
        (k, some (.device (lamp_task.group_add a)), some (.strategy lamp_task.content)) := by
  simp [strategyFrame, hm, tagged, PlcFrame.recipient, strategyTask]

/-! ## Complete runs -/

/-- each record fits its frame: one address, or fewer than ten groups that are nonzero as bytes -/
structure RecordsFit (st : Store) : Prop where
  single : ∀ k lamp_task, st.strategy k = some lamp_task → lamp_task.ctrl_mode = 2 → lamp_task.ids.length = 1
  groups : ∀ k lamp_task, st.strategy k = some lamp_task → lamp_task.ctrl_mode = 1 →
    lamp_task.ids.length < MAX_LAMP_GROUP_NUM ∧ ∀ id ∈ lamp_task.ids, id.toUInt8 ≠ 0

/-- the modes `LampTask_S` has -/
def Store.ModesValid (st : Store) : Prop := ∀ k lamp_task, st.strategy k = some lamp_task → lamp_task.ctrl_mode ≤ 2

theorem ids_single {lamp_task : LampTask} (h : lamp_task.ids.length = 1) :
    lamp_task.ids = [lamp_task.group_add 0] ∧ lamp_task.nextAdd 0 = 0 := by
  have hnum : lamp_task.idNum = 1 := by simpa [LampTask.ids] using h
  obtain ⟨_, _, hend⟩ := idNum_spec lamp_task
  refine ⟨by simp [LampTask.ids, hnum], ?_⟩
  have hzero : lamp_task.group_add 1 = 0 := by
    rw [hnum] at hend
    exact hend (by decide)
  rw [LampTask.nextAdd]
  exact if_pos hzero

/-- the deliveries of a record that is shared -/
theorem deliveries_shared {k : ℕ} {lamp_task : LampTask} (hfit : RecordsFit st) (hk : st.strategy k = some lamp_task)
    (hm : lamp_task.ctrl_mode ≤ 1) (a : ℕ) :
    st.deliveries k = [tagged (strategyFrame (strategyTask k) lamp_task a).1] := by
  rw [Store.deliveries, hk, (strategyFrame_shared k hm a).2]
  rcases Nat.le_one_iff_eq_zero_or_eq_one.1 hm with h | h
  · simp [LampTask.recipients, h]
  · have hgroups := (sent_groups_iff lamp_task).2 (hfit.groups k lamp_task hk h)
    simp [LampTask.recipients, h, hgroups]

/-- the delivery of a record with one address -/
theorem deliveries_single {k : ℕ} {lamp_task : LampTask} (hfit : RecordsFit st) (hk : st.strategy k = some lamp_task)
    (hm : lamp_task.ctrl_mode = 2) :
    st.deliveries k = [(k, some (.device (lamp_task.group_add 0)), some (.strategy lamp_task.content))] := by
  rw [Store.deliveries, hk]
  simp [LampTask.recipients, hm, (ids_single (hfit.single k lamp_task hk hm)).1]

theorem reach_of_stored {i : ℕ} (h : st.stored i = true) (a : ℕ) : st.reach i a = some (i, a) := if_pos h

/-- with `add_index` clear the search is that of the first stored record -/
theorem reach_clear (i : ℕ) :
    st.reach i 0 = ((selected st.stored MAX_LAMP_STRATEGY_NUM i).head?).map fun k => (k, 0) := by
  unfold Store.reach
  split_ifs with h
  · obtain ⟨lamp_task, hk⟩ := Option.isSome_iff_exists.1 h
    rw [IndexScan.selected_hit _ (strategy_lt st hk) h]
    rfl
  · rfl

/-- an index without a record clears `add_index` -/
theorem reach_miss {i : ℕ} (h : st.stored i = false) (a : ℕ) :
    st.reach i a = st.reach i 0 := by
  unfold Store.reach
  rw [if_neg (by rw [h]; simp), if_neg (by rw [h]; simp)]

/-- from any index with `add_index` clear, every record gets its deliveries -/
theorem frames_clear (hfit : RecordsFit st) (hmode : st.ModesValid) (ks : List ℕ) : ∀ n i,
    selected st.stored MAX_LAMP_STRATEGY_NUM i = ks → ks.length ≤ n →
    (strategyFrames st n i 0).map tagged = ks.flatMap st.deliveries := by
  induction ks with
  | nil =>
    intro n i hks _
    cases n with
    | zero => rfl
    | succ n => simp only [strategyFrames, reach_clear st i, hks, List.head?_nil, Option.map_none, List.map_nil,
        List.flatMap_nil]
  | cons k ks ih =>
    intro n i hks hn
    obtain ⟨n, rfl⟩ : ∃ m, n = m + 1 := ⟨n - 1, by rw [List.length_cons] at hn; omega⟩
    obtain ⟨_, hrest⟩ := IndexScan.selected_cons _ hks
    have hstored : st.stored k = true := by
      have hmem : k ∈ selected st.stored MAX_LAMP_STRATEGY_NUM i := by rw [hks]; simp
      exact ((IndexScan.mem_selected _).1 hmem).2.2
    obtain ⟨lamp_task, hk⟩ := Option.isSome_iff_exists.1 hstored
    have hnext := ih n (k + 1) hrest.symm (by rw [List.length_cons] at hn; omega)
    simp only [strategyFrames, reach_clear st i, hks, List.head?_cons, Option.map_some, hk, List.map_cons,
      List.flatMap_cons]
    rcases Nat.lt_or_ge lamp_task.ctrl_mode 2 with hm | hm
    · have hadd := (strategyFrame_shared k (by omega : lamp_task.ctrl_mode ≤ 1) 0).1
      rw [deliveries_shared st hfit hk (by omega) 0, hadd, nextIndex, if_neg (by simp), hnext]
      rfl
    · have hm : lamp_task.ctrl_mode = 2 := by have := hmode k lamp_task hk; omega
      obtain ⟨hadd, htag⟩ := strategyFrame_unicast k hm 0
      rw [(ids_single (hfit.single k lamp_task hk hm)).2] at hadd
      rw [deliveries_single st hfit hk hm, htag, hadd, nextIndex, if_neg (by simp), hnext]
      rfl

/-- the list of a record is entered at `a` as if at its start -/
def LampTask.entersAt (lamp_task : LampTask) (last : Prop) (a : ℕ) : Prop :=
  lamp_task.group_add a = lamp_task.group_add 0 ∧ (lamp_task.nextAdd a = 0 ∨ last)

/-- `add_index` does no harm from index `i` on: the first unicast record, unless an index without a record comes
before it, is entered as if at its start -/
def Store.CursorFits (st : Store) (i a : ℕ) : Prop :=
  ∀ m lamp_task, i ≤ m → st.strategy m = some lamp_task → lamp_task.ctrl_mode = 2 →
    (∀ j, i ≤ j → j < m → ∃ earlier, st.strategy j = some earlier ∧ earlier.ctrl_mode ≠ 2) →
    lamp_task.entersAt (∀ k > m, st.strategy k = none) a

/-- a record that is not the first unicast one leaves the condition to the rest -/
theorem cursorFits_next {i a : ℕ} {lamp_task : LampTask} (h : st.CursorFits i a) (hi : st.strategy i = some lamp_task)
    (hm : lamp_task.ctrl_mode ≠ 2) : st.CursorFits (i + 1) a := by
  intro m record him hrec hm2 hbefore
  refine h m record (by omega) hrec hm2 fun j hij hjm => ?_
  rcases Nat.eq_or_lt_of_le hij with rfl | hlt
  · exact ⟨lamp_task, hi, hm⟩
  · exact hbefore j hlt hjm

/-- with an `add_index` that does no harm, every record gets its deliveries -/
theorem frames_complete (hfit : RecordsFit st) (hmode : st.ModesValid) (d : ℕ) : ∀ i n a,
    i + d = MAX_LAMP_STRATEGY_NUM → n = (selected st.stored MAX_LAMP_STRATEGY_NUM i).length → st.CursorFits i a →
    (strategyFrames st n i a).map tagged = (selected st.stored MAX_LAMP_STRATEGY_NUM i).flatMap st.deliveries := by
  induction d with
  | zero =>
    intro i n a hid hn _
    rw [IndexScan.selected_end _ (by omega)] at hn ⊢
    rw [hn]
    rfl
  | succ d ih =>
    intro i n a hid hn hcur
    have hi : i < MAX_LAMP_STRATEGY_NUM := by omega
    cases hk : st.strategy i with
    | none =>
      have hstored : st.stored i = false := by rw [Store.stored, hk]; rfl
      have hsame : strategyFrames st n i a = strategyFrames st n i 0 := by
        cases n with
        | zero => rfl
        | succ n => simp only [strategyFrames, reach_miss st hstored a]
      rw [hsame]
      exact frames_clear st hfit hmode _ n i rfl hn.ge
    | some lamp_task =>
      have hstored : st.stored i = true := by rw [Store.stored, hk]; rfl
      rw [IndexScan.selected_hit _ hi hstored] at hn ⊢
      rw [hn, List.length_cons, List.flatMap_cons]
      simp only [strategyFrames, reach_of_stored st hstored, hk, List.map_cons]
      rcases Nat.lt_or_ge lamp_task.ctrl_mode 2 with hm | hm
      · have hadd := (strategyFrame_shared i (by omega : lamp_task.ctrl_mode ≤ 1) a).1
        rw [deliveries_shared st hfit hk (by omega) a, hadd, nextIndex, if_neg (by omega),
          ih (i + 1) _ a (by omega) rfl (cursorFits_next st hcur hk (by omega))]
        rfl
      · have hm : lamp_task.ctrl_mode = 2 := by have := hmode i lamp_task hk; omega
        obtain ⟨hstart, hleave⟩ := hcur i lamp_task le_rfl hk hm fun j hij hji => by omega
        obtain ⟨hadd, htag⟩ := strategyFrame_unicast i hm a
        rw [hstart] at htag
        rw [deliveries_single st hfit hk hm, htag, hadd]
        rcases hleave with hclear | hlast
        · rw [hclear, nextIndex, if_neg (by simp), frames_clear st hfit hmode _ _ (i + 1) rfl le_rfl]
          rfl
        · have hnil : selected st.stored MAX_LAMP_STRATEGY_NUM (i + 1) = [] := by
            rw [List.eq_nil_iff_forall_not_mem]
            intro k hmem
            obtain ⟨hik, _, hs⟩ := (IndexScan.mem_selected _).1 hmem
            rw [Store.stored, hlast k hik] at hs
            exact absurd hs (by simp)
          rw [hnil]
          rfl

/-! ## Runs that miss a delivery -/

theorem length_strategyFrames (n : ℕ) : ∀ i a, (strategyFrames st n i a).length ≤ n := by
  induction n with
  | zero => exact fun _ _ => le_rfl
  | succ n ih =>
    intro i a
    rw [strategyFrames]
    split
    · exact Nat.zero_le _
    · split
      · exact Nat.zero_le _
      · exact Nat.succ_le_succ (ih _ _)

/-- every frame is made from a stored record -/
theorem mem_strategyFrames (n : ℕ) : ∀ i a frame, frame ∈ strategyFrames st n i a →
    ∃ k lamp_task c, st.strategy k = some lamp_task ∧ frame = (strategyFrame (strategyTask k) lamp_task c).1 := by
  induction n with
  | zero =>
    intro i a frame h
    simp [strategyFrames] at h
  | succ n ih =>
    intro i a frame h
    rw [strategyFrames] at h
    split at h
    · simp at h
    · rename_i k c _
      split at h
      · simp at h
      · rename_i lamp_task hk
        rcases List.mem_cons.1 h with rfl | h
        · exact ⟨k, lamp_task, c, hk, rfl⟩
        · exact ih _ _ frame h

/-- the frames up to the first unicast record, when no index before it is without a record -/
theorem strategyFrames_upTo (a m : ℕ) :
    (∀ j < m, ∃ earlier, st.strategy j = some earlier ∧ earlier.ctrl_mode ≤ 1) → ∀ n,
    ∃ pre, strategyFrames st (m + n) 0 a = pre ++ strategyFrames st n m a := by
  induction m with
  | zero => exact fun _ n => ⟨[], by rw [Nat.zero_add]; rfl⟩
  | succ m ih =>
    intro hbefore n
    obtain ⟨earlier, hm, hmode⟩ := hbefore m (Nat.lt_succ_self m)
    obtain ⟨pre, hpre⟩ := ih (fun j hj => hbefore j (by omega)) (n + 1)
    have hstored : st.stored m = true := by rw [Store.stored, hm]; rfl
    refine ⟨pre ++ [(strategyFrame (strategyTask m) earlier a).1], ?_⟩
    rw [Nat.add_right_comm, Nat.add_assoc, hpre]
    simp only [strategyFrames, reach_of_stored st hstored, hm, (strategyFrame_shared m hmode a).1]
    rw [nextIndex, if_neg (by omega), List.append_assoc]
    rfl

theorem deliveries_key (k : ℕ) : ∀ x ∈ st.deliveries k, x.1 = k := by
  intro x hx
  unfold Store.deliveries at hx
  split at hx
  · obtain ⟨r, _, rfl⟩ := List.mem_map.1 hx
    rfl
  · simp at hx

/-- the frames of one record, in a run that makes the deliveries -/
theorem perm_of_record {fs : List PlcFrame} {ks : List ℕ} (hnd : ks.Nodup)
    (h : (fs.map tagged).Perm (ks.flatMap st.deliveries)) {k : ℕ} (hk : k ∈ ks) :
    ((fs.map tagged).filter fun x => decide (x.1 = k)).Perm (st.deliveries k) := by
  have hfilter := h.filter fun x => decide (x.1 = k)
  rwa [IndexScan.filter_keyed st.deliveries Prod.fst (deliveries_key st) ks hnd hk] at hfilter

/-- stored records: counted in `LampStrategyNumList`, with a mode of `LampTask_S`, and an address where it needs one -/
structure StrategyStore (st : Store) : Prop where
  count : st.lampStrategyNumList.number = ((List.range MAX_LAMP_STRATEGY_NUM).filter st.stored).length
  modes : st.ModesValid
  addressed : ∀ k lamp_task, st.strategy k = some lamp_task → lamp_task.ctrl_mode = 2 → lamp_task.ids ≠ []

/-- all deliveries the stored records ask for -/
def Store.allDeliveries (st : Store) : List (ℕ × Option Recipient × Option Payload) :=
  ((List.range MAX_LAMP_STRATEGY_NUM).filter st.stored).flatMap st.deliveries

theorem allDeliveries_eq :
    st.allDeliveries = (selected st.stored MAX_LAMP_STRATEGY_NUM 0).flatMap st.deliveries := by
  rw [Store.allDeliveries, IndexScan.selected_zero]

theorem mem_selected_of_strategy {k : ℕ} {lamp_task : LampTask} (hk : st.strategy k = some lamp_task) :
    k ∈ selected st.stored MAX_LAMP_STRATEGY_NUM 0 := by
  rw [IndexScan.mem_selected]
  exact ⟨Nat.zero_le k, strategy_lt st hk, by rw [Store.stored, hk]; rfl⟩

section Necessity

variable {st} {n a : ℕ} (hst : StrategyStore st)
  (h : ((strategyFrames st n 0 a).map tagged).Perm st.allDeliveries)
  (hn : n = (selected st.stored MAX_LAMP_STRATEGY_NUM 0).length)
include hst h

include hn in
/-- the budget counts records, so no record can ask for two frames -/
theorem single_of_perm (k : ℕ) (lamp_task : LampTask) (hk : st.strategy k = some lamp_task)
    (hm : lamp_task.ctrl_mode = 2) : lamp_task.ids.length = 1 := by
  have hone : ∀ j ∈ selected st.stored MAX_LAMP_STRATEGY_NUM 0, 1 ≤ (st.deliveries j).length := by
    intro j hj
    obtain ⟨record, hrec⟩ := Option.isSome_iff_exists.1 ((IndexScan.mem_selected _).1 hj).2.2
    rw [Store.deliveries, hrec, List.length_map]
    rcases Nat.lt_or_ge record.ctrl_mode 2 with hlt | hge
    · rcases Nat.le_one_iff_eq_zero_or_eq_one.1 (Nat.le_of_lt_succ hlt) with h' | h' <;>
        simp [LampTask.recipients, h']
    · have hm2 : record.ctrl_mode = 2 := by have := hst.modes j record hrec; omega
      have hpos := List.length_pos_iff.2 (hst.addressed j record hrec hm2)
      simp only [LampTask.recipients, hm2, List.length_map]
      exact hpos
  have hlen := h.length_eq
  rw [List.length_map, allDeliveries_eq] at hlen
  have hle := length_strategyFrames st n 0 a
  have hk1 := IndexScan.length_eq_one_of_flatMap_le st.deliveries _ hone (by omega) k
    (mem_selected_of_strategy st hk)
  rw [Store.deliveries, hk, List.length_map] at hk1
  simpa [LampTask.recipients, hm] using hk1

/-- a group frame that was sent carries the groups the code found -/
theorem groups_of_perm (k : ℕ) (lamp_task : LampTask) (hk : st.strategy k = some lamp_task)
    (hm : lamp_task.ctrl_mode = 1) :
    lamp_task.ids.length < MAX_LAMP_GROUP_NUM ∧ ∀ id ∈ lamp_task.ids, id.toUInt8 ≠ 0 := by
  have hmem : (k, some (Recipient.groups (lamp_task.ids.map UInt32.toUInt8)),
      some (Payload.strategy lamp_task.content)) ∈ st.allDeliveries := by
    rw [allDeliveries_eq]
    refine List.mem_flatMap.2 ⟨k, mem_selected_of_strategy st hk, ?_⟩
    simp [Store.deliveries, hk, LampTask.recipients, hm]
  obtain ⟨frame, hframe, htag⟩ := List.mem_map.1 (h.mem_iff.2 hmem)
  obtain ⟨j, record, c, hj, rfl⟩ := mem_strategyFrames st n 0 a frame hframe
  have hmode := hst.modes j record hj
  have hjk : j = k := by
    rcases Nat.lt_or_ge record.ctrl_mode 2 with hlt | hge
    · rw [(strategyFrame_shared j (by omega : record.ctrl_mode ≤ 1) c).2] at htag
      exact congrArg Prod.fst htag
    · rw [(strategyFrame_unicast j (by omega : record.ctrl_mode = 2) c).2] at htag
      exact congrArg Prod.fst htag
  subst hjk
  rw [hk, Option.some.injEq] at hj
  subst hj
  rw [(strategyFrame_shared j (by omega : lamp_task.ctrl_mode ≤ 1) c).2, if_neg (by omega)] at htag
  rw [← sent_groups_iff]
  simpa using htag

include hn in
/-- the first unicast record is entered as if at its start -/
theorem cursor_of_perm : st.CursorFits 0 a := by
  intro m lamp_task _ hk hm hbefore
  have hfit : RecordsFit st := ⟨single_of_perm hst h hn, groups_of_perm hst h⟩
  have hstored : st.stored m = true := by rw [Store.stored, hk]; rfl
  have hearlier : ∀ j < m, ∃ earlier, st.strategy j = some earlier ∧ earlier.ctrl_mode ≤ 1 := by
    intro j hj
    obtain ⟨earlier, hrec, hne⟩ := hbefore j (Nat.zero_le j) hj
    exact ⟨earlier, hrec, by have := hst.modes j earlier hrec; omega⟩
  have hall : (selected st.stored m 0).length = m := by
    refine IndexScan.length_selected_all _ fun j hj => ?_
    obtain ⟨earlier, hrec, _⟩ := hearlier j hj
    rw [Store.stored, hrec]
    rfl
  -- the budget that is left at record `m`
  have hleft : n = m + ((selected st.stored MAX_LAMP_STRATEGY_NUM (m + 1)).length + 1) := by
    rw [hn, IndexScan.selected_split _ (strategy_lt st hk) hstored, List.length_append, List.length_cons, hall]
  obtain ⟨pre, hpre⟩ := strategyFrames_upTo st a m hearlier
    ((selected st.stored MAX_LAMP_STRATEGY_NUM (m + 1)).length + 1)
  rw [← hleft, strategyFrames, reach_of_stored st hstored] at hpre
  obtain ⟨hadd, htag⟩ := strategyFrame_unicast m hm a
  simp only [hk, hadd] at hpre
  rw [allDeliveries_eq] at h
  have hperm := perm_of_record st ((List.nodup_range' ..).filter _) h (mem_selected_of_strategy st hk)
  rw [hpre, List.map_append, List.map_cons, htag, List.filter_append,
    List.filter_cons_of_pos (by simp), deliveries_single st hfit hk hm, List.perm_singleton] at hperm
  -- one frame for the record, so nothing before it and nothing after it
  have hlen := congrArg List.length hperm
  rw [List.length_append, List.length_cons, List.length_singleton] at hlen
  rw [List.eq_nil_of_length_eq_zero (by omega : (List.filter _ (pre.map tagged)).length = 0), List.nil_append,
    List.cons.injEq] at hperm
  obtain ⟨hhead, htail⟩ := hperm
  refine ⟨by simpa using hhead, ?_⟩
  by_cases hclear : lamp_task.nextAdd a = 0
  · exact .inl hclear
  · refine .inr fun k hmk => ?_
    cases hlater : st.strategy k with
    | none => rfl
    | some record =>
      have hmem : k ∈ selected st.stored MAX_LAMP_STRATEGY_NUM (m + 1) := by
        rw [IndexScan.mem_selected]
        exact ⟨hmk, strategy_lt st hlater, by rw [Store.stored, hlater]; rfl⟩
      obtain ⟨r, hr⟩ := Nat.exists_eq_succ_of_ne_zero (List.length_pos_iff.2 (List.ne_nil_of_mem hmem)).ne'
      obtain ⟨_, htag'⟩ := strategyFrame_unicast m hm (lamp_task.nextAdd a)
      rw [hr, nextIndex, if_pos ⟨hm, hclear⟩, Nat.succ_eq_add_one, strategyFrames, reach_of_stored st hstored] at htail
      simp only [hk, List.map_cons, htag'] at htail
      rw [List.filter_cons_of_pos (by simp)] at htail
      simp at htail

end Necessity

/-- when the frames of a run are the deliveries of the stored records -/
theorem strategy_complete_iff (hst : StrategyStore st) (a : ℕ) :
    ((strategyFrames st st.lampStrategyNumList.number 0 a).map tagged).Perm st.allDeliveries ↔
      RecordsFit st ∧ st.CursorFits 0 a := by
  have hn : st.lampStrategyNumList.number = (selected st.stored MAX_LAMP_STRATEGY_NUM 0).length := by
    rw [hst.count, IndexScan.selected_zero]
  constructor
  · intro h
    exact ⟨⟨single_of_perm hst h hn, groups_of_perm hst h⟩, cursor_of_perm hst h hn⟩
  · rintro ⟨hfit, hcur⟩
    rw [allDeliveries_eq, frames_complete st hfit hst.modes MAX_LAMP_STRATEGY_NUM 0 _ a (by omega) hn hcur]

/-- the frames of the task of a message -/
theorem strategy_delivers (hst : StrategyStore st) {msg : ServerFrameStruct} {task : Task}
    (h : lampSynchronizeConfig st msg = some task) (hc : task.cmd_code = 0x01D5)
    (calls : ℕ → Call) (s : St) (hcalls : ∀ k, (calls k).msgs = []) (hw : Working s task) :
    Delivers st calls s (fun fs => (fs.map tagged).Perm st.allDeliveries) ↔
      RecordsFit st ∧ st.CursorFits 0 s.add_index := by
  obtain ⟨bt, ids, rfl⟩ := sync_strategy h hc
  have hle : st.lampStrategyNumList.number ≤ MAX_LAMP_STRATEGY_NUM := by
    rw [hst.count]
    exact (List.length_filter_le _ _).trans (by rw [List.length_range])
  have hsends := strategy_sends st st.lampStrategyNumList.number _ s.add_index hc (Nat.zero_le _)
    (hle.trans_lt (by decide)) (Nat.sub_zero _)
  rw [delivers_iff _ hsends hcalls hw]
  exact strategy_complete_iff st hst s.add_index

/-- **Strategy dissemination.** The task delivers every stored record to all it lists, each exactly once, exactly if
every unicast record lists one address, every group record lists fewer than ten groups, and the `add_index` that
earlier tasks left does no harm to the first unicast record. -/
theorem strategySync_iff (hst : StrategyStore st) {msg : ServerFrameStruct} {task : Task}
    (h : lampSynchronizeConfig st msg = some task) (hc : task.cmd_code = 0x01D5)
    (calls : ℕ → Call) (s : St) (hcalls : ∀ k, (calls k).msgs = []) (hw : Working s task) :
    Delivers st calls s (fun fs => (fs.map tagged).Perm st.allDeliveries) ↔
      RecordsFit st ∧ st.CursorFits 0 s.add_index :=
  strategy_delivers st hst h hc calls s hcalls hw

/-- records of one action each, at indices 0 and 2 -/
def pairStrategies (r0 r2 : LampTask) : Store :=
  { Store.empty with
    lampStrategyNumList := ⟨2, fun i => i = 0 || i = 2⟩
    lampTaskConfig := fun i => (true, if i = 0 then r0 else r2) }

theorem pairStrategies_some {r0 r2 lamp_task : LampTask} {k : ℕ}
    (h : (pairStrategies r0 r2).strategy k = some lamp_task) : k = 0 ∧ lamp_task = r0 ∨ k = 2 ∧ lamp_task = r2 := by
  unfold Store.strategy at h
  split_ifs at h with hs
  cases h
  simp only [pairStrategies, Store.readSpecifyLampStrategyNumList, Bool.and_true] at hs ⊢
  split_ifs at hs with hN
  rcases Nat.eq_zero_or_pos k with rfl | hk
  · exact .inl ⟨rfl, rfl⟩
  · have hk0 : k ≠ 0 := hk.ne'
    have hk2 : k = 2 := by simpa [hk0] using hs
    subst hk2
    exact .inr ⟨rfl, rfl⟩

theorem pairStrategies_store {r0 r2 : LampTask} (h0 : r0.ctrl_mode ≤ 2) (h2 : r2.ctrl_mode ≤ 2)
    (ha0 : r0.ctrl_mode = 2 → r0.ids ≠ []) (ha2 : r2.ctrl_mode = 2 → r2.ids ≠ []) :
    StrategyStore (pairStrategies r0 r2) where
  count := by
    have hstored : ∀ k, (pairStrategies r0 r2).stored k = (decide (k < 512) && (k = 0 || k = 2)) := by
      intro k
      have hN : 512 ≤ k ↔ ¬ k < 512 := Nat.not_lt.symm
      by_cases hlt : k < 512 <;> by_cases hk0 : k = 0 <;> by_cases hk2 : k = 2 <;>
        simp [Store.stored, Store.strategy, Store.readSpecifyLampStrategyNumList, pairStrategies,
          MAX_LAMP_STRATEGY_NUM, hN, hlt, hk0, hk2]
    have hcount : 2 = ((List.range MAX_LAMP_STRATEGY_NUM).filter
        fun k => decide (k < 512) && (k = 0 || k = 2)).length := by decide +kernel
    rw [funext hstored]
    exact hcount
  modes k lamp_task hk := by
    rcases pairStrategies_some hk with ⟨_, rfl⟩ | ⟨_, rfl⟩ <;> assumption
  addressed k lamp_task hk hm := by
    rcases pairStrategies_some hk with ⟨_, rfl⟩ | ⟨_, rfl⟩
    · exact ha0 hm
    · exact ha2 hm

/-- a record for two groups -/
def groupRecord : LampTask := ⟨⟨1, 0, 0, 0, 0, 0, 0⟩, 1, fun k => [1, 2].getD k 0⟩

/-- a record for the devices of a list -/
def deviceRecord (ids : List UInt32) : LampTask := ⟨⟨2, 0, 0, 0, 0, 0, 0⟩, 2, fun k => ids.getD k 0⟩

/-- `"0"`, `"0"`, `"2"` -/
def strategyMsg : ServerFrameStruct := syncMsg [0x30] [0x30] [0x32]

/-- a group record and a device record are delivered, though an earlier task left `add_index` at 3: index 1 between
them holds no record -/
theorem strategySync_after_stop :
    Delivers (pairStrategies groupRecord (deviceRecord [7])) (fun _ => .quiet)
      { St.withTask (syncedTask (pairStrategies groupRecord (deviceRecord [7])) strategyMsg) with add_index := 3 }
      (fun fs => (fs.map tagged).Perm (pairStrategies groupRecord (deviceRecord [7])).allDeliveries) := by
  have hsync : lampSynchronizeConfig (pairStrategies groupRecord (deviceRecord [7])) strategyMsg =
      some (syncedTask (pairStrategies groupRecord (deviceRecord [7])) strategyMsg) :=
    syncedTask_eq (by decide +kernel)
  refine (strategySync_iff _ (pairStrategies_store (by decide) (by decide) (fun h => absurd h (by decide))
    (fun _ => by decide)) hsync (by decide +kernel) (fun _ => .quiet) _ (fun _ => rfl) ⟨rfl, .inr ⟨rfl, rfl⟩⟩).2
    ⟨⟨?_, ?_⟩, ?_⟩
  · intro k lamp_task hk hm
    rcases pairStrategies_some hk with ⟨_, rfl⟩ | ⟨_, rfl⟩
    · exact absurd hm (by decide)
    · decide +kernel
  · intro k lamp_task hk hm
    rcases pairStrategies_some hk with ⟨_, rfl⟩ | ⟨_, rfl⟩
    · have hids : groupRecord.ids = [1, 2] := by decide +kernel
      rw [hids]
      refine ⟨by decide, ?_⟩
      rintro id (_ | ⟨_, _ | ⟨_, h⟩⟩)
      · decide
      · decide
      · exact absurd h List.not_mem_nil
    · exact absurd hm (by decide)
  · intro m lamp_task _ hk hm hbefore
    rcases pairStrategies_some hk with ⟨_, rfl⟩ | ⟨rfl, _⟩
    · exact absurd hm (by decide)
    · obtain ⟨earlier, hone, _⟩ := hbefore 1 (Nat.zero_le 1) (by decide)
      rcases pairStrategies_some hone with ⟨h, _⟩ | ⟨h, _⟩ <;> exact absurd h (by decide)

/-- two devices in one record: the budget of the task is spent before the second device of the last record -/
theorem second_address_unsent :
    StrategyStore (pairStrategies groupRecord (deviceRecord [7, 8])) ∧
      lampSynchronizeConfig (pairStrategies groupRecord (deviceRecord [7, 8])) strategyMsg =
        some (syncedTask (pairStrategies groupRecord (deviceRecord [7, 8])) strategyMsg) ∧
      ¬ Delivers (pairStrategies groupRecord (deviceRecord [7, 8])) (fun _ => .quiet)
        (.withTask (syncedTask (pairStrategies groupRecord (deviceRecord [7, 8])) strategyMsg))
        (fun fs => (fs.map tagged).Perm (pairStrategies groupRecord (deviceRecord [7, 8])).allDeliveries) := by
  have hstore : StrategyStore (pairStrategies groupRecord (deviceRecord [7, 8])) :=
    pairStrategies_store (by decide) (by decide) (fun h => absurd h (by decide)) (fun _ => by decide)
  have hsync : lampSynchronizeConfig (pairStrategies groupRecord (deviceRecord [7, 8])) strategyMsg =
      some (syncedTask (pairStrategies groupRecord (deviceRecord [7, 8])) strategyMsg) :=
    syncedTask_eq (by decide +kernel)
  refine ⟨hstore, hsync, fun hdel => ?_⟩
  have hfit := ((strategy_delivers _ hstore hsync (by decide +kernel) _ _ (fun _ => rfl) (working_withTask _)).1 hdel).1
  exact absurd (hfit.single 2 (deviceRecord [7, 8]) (by rfl) rfl) (by decide)

end DataConcentrator.Plc
