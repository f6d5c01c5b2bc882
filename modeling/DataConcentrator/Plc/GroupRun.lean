/-
Tasks that address lamps one by one (`execute_type` 1 and 2), by broadcast or by group.

- `byLamp_sends`: the unicast frames go to the selected lamps in increasing index, up to the budget of the task;
- `groupRun_iff`: when a group task reaches exactly the members of its groups;
- `padding_reaches_stranger`: a group task that sends its only frame to a lamp without any group.
-/
import DataConcentrator.Lib.IndexScan
import DataConcentrator.Plc.Run

namespace DataConcentrator.Plc

open IndexScan (selected)

/-! ## One round of the search -/

/-- a task that addresses the lamps one by one, with a command that always fills its frame -/
structure ByLamp (task : Task) : Prop where
  scene : task.cmd_code ≠ 0x01D3
  strategy : task.cmd_code ≠ 0x01D5
  type : task.broadcast_type = 0 ∨ task.broadcast_type = 1
  each : task.execute_type ≠ 0
  total : task.execute_total_num < 65536

/-- the lamps it stops at -/
def Task.selects (task : Task) (lamp_config : LampConfig) : Bool :=
  if task.broadcast_type = 0 then true else task.wants lamp_config

theorem build_byLamp (st : Store) (c : Call) (add_index : ℕ) {task : Task} (h : ByLamp task) :
    build st c add_index task = buildEach st c add_index task task.selects := by
  have hselects : task.selects = if task.broadcast_type = 0 then fun _ => true else task.wants := by
    funext cfg
    unfold Task.selects
    split_ifs <;> rfl
  rw [build, if_neg h.strategy, hselects]
  rcases h.type with ht | ht
  · rw [if_pos ht, if_neg h.each, if_pos ht]
  · rw [if_neg (by omega), if_pos ht, if_neg h.each, if_neg (by omega)]

/-- the frame for lamp `k` while `e` frames are counted -/
def Task.lampFrame (task : Task) (st : Store) (k e : ℕ) : PlcFrame :=
  let task := { task with executed_index := k, executed_num := e }
  match st.lampConfig k with
  | some lamp_config =>
    { unicastFrame task lamp_config.address with cmd_code := task.frameCode }.load (userData st lamp_config task)
  | none => .zero

/-- the task once the frame for lamp `k` is counted -/
def Task.passed (task : Task) (k e : ℕ) : Task := { task with executed_index := k, executed_num := e }

variable (st : Store) (c : Call) (add_index : ℕ)

/-- whether the search stops at an index -/
def Store.stops (wanted : LampConfig → Bool) (k : ℕ) : Bool := (st.selectLamp wanted k).isSome

theorem selectLamp_config {wanted : LampConfig → Bool} {k : ℕ} {lamp_config : LampConfig}
    (h : st.selectLamp wanted k = some lamp_config) : st.lampConfig k = some lamp_config := by
  unfold Store.selectLamp at h
  split_ifs at h
  exact (Option.filter_eq_some_iff.1 h).1

theorem countedFrame_lamp {task : Task} (h : ByLamp task) {wanted : LampConfig → Bool} {lamp_config : LampConfig}
    (hs : st.selectLamp wanted task.executed_index = some lamp_config) :
    countedFrame st lamp_config c add_index task (unicastFrame task lamp_config.address) =
      if task.executed_num < task.execute_total_num then
        .built (task.passed task.executed_index (task.executed_num + 1))
          (task.lampFrame st task.executed_index task.executed_num) true add_index
      else .finished task add_index := by
  unfold countedFrame
  split_ifs with hlt
  · have htotal := h.total
    rw [combine_plain st _ _ _ _ _ rfl h.scene h.strategy]
    simp only [Task.lampFrame, selectLamp_config st hs, Task.passed, inc16_of_lt (by omega : task.executed_num < 65535)]
  · rfl

/-- a round at a lamp the search stops at -/
theorem readDeviceConf_hit {task : Task} (h : ByLamp task) {wanted : LampConfig → Bool} {lamp_config : LampConfig}
    (hs : st.selectLamp wanted task.executed_index = some lamp_config) (hi : task.executed_index < MAX_LAMP_CONF_NUM)
    (fuel : ℕ) (frame : PlcFrame) (got : Bool) :
    readDeviceConf st c wanted (fuel + 1) task frame got add_index =
      if task.executed_num < task.execute_total_num then
        .built (task.passed (task.executed_index + 1) (task.executed_num + 1))
          (task.lampFrame st task.executed_index task.executed_num) true add_index
      else .finished task add_index := by
  have hinc : inc16 task.executed_index = task.executed_index + 1 := inc16_of_lt (by unfold MAX_LAMP_CONF_NUM at hi; omega)
  rw [readDeviceConf, hs]
  dsimp only
  rw [countedFrame_lamp st c add_index h hs]
  split_ifs with hlt
  · simp only [Built.bind, Task.passed, hinc]
    rw [if_pos (Nat.succ_le_of_lt hi), if_pos trivial]
  · rfl

/-- a round at any other index -/
theorem readDeviceConf_miss {task : Task} {wanted : LampConfig → Bool}
    (hs : st.selectLamp wanted task.executed_index = none) (hi : task.executed_index < MAX_LAMP_CONF_NUM)
    (fuel : ℕ) (frame : PlcFrame) (got : Bool) :
    readDeviceConf st c wanted (fuel + 1) task frame got add_index =
      if got then .built (task.passed (task.executed_index + 1) task.executed_num) frame got add_index
      else readDeviceConf st c wanted fuel (task.passed (task.executed_index + 1) task.executed_num) frame got add_index := by
  have hinc : inc16 task.executed_index = task.executed_index + 1 := inc16_of_lt (by unfold MAX_LAMP_CONF_NUM at hi; omega)
  rw [readDeviceConf, hs]
  simp only [Built.bind, hinc]
  rw [if_pos (Nat.succ_le_of_lt hi)]
  rfl

/-- a round past the last lamp -/
theorem readDeviceConf_end {task : Task} {wanted : LampConfig → Bool}
    (hi : task.executed_index = MAX_LAMP_CONF_NUM) (fuel : ℕ) (frame : PlcFrame) (got : Bool) :
    ∃ task', readDeviceConf st c wanted (fuel + 1) task frame got add_index = .finished task' add_index := by
  have hs : st.selectLamp wanted task.executed_index = none := by
    simp [Store.selectLamp, Store.readSpecifyLampNumList, hi]
  rw [readDeviceConf, hs]
  simp only [Built.bind, hi]
  rw [if_neg (by decide)]
  exact ⟨_, rfl⟩

/-- the search stops at the first selected index, or finishes the task -/
theorem readDeviceConf_scan (wanted : LampConfig → Bool) (frame : PlcFrame) (fuel : ℕ) : ∀ task : Task, ByLamp task →
    task.executed_index ≤ MAX_LAMP_CONF_NUM → MAX_LAMP_CONF_NUM < fuel + task.executed_index →
    match selected (st.stops wanted) MAX_LAMP_CONF_NUM task.executed_index with
    | [] => ∃ task', readDeviceConf st c wanted fuel task frame false add_index = .finished task' add_index
    | k :: _ =>
      readDeviceConf st c wanted fuel task frame false add_index =
        if task.executed_num < task.execute_total_num then
          .built (task.passed (k + 1) (task.executed_num + 1)) (task.lampFrame st k task.executed_num) true add_index
        else .finished (task.passed k task.executed_num) add_index := by
  induction fuel with
  | zero =>
    intro task _ hi hf
    omega
  | succ fuel ih =>
    intro task h hi hf
    rcases Nat.lt_or_ge task.executed_index MAX_LAMP_CONF_NUM with hlt | hge
    · cases hs : st.selectLamp wanted task.executed_index with
      | some lamp_config =>
        rw [IndexScan.selected_hit _ hlt (by rw [Store.stops, hs]; rfl)]
        exact readDeviceConf_hit st c add_index h hs hlt fuel frame false
      | none =>
        rw [IndexScan.selected_miss _ hlt (by rw [Store.stops, hs]; rfl),
          readDeviceConf_miss st c add_index hs hlt fuel frame false, if_neg (by simp)]
        have hnext := ih (task.passed (task.executed_index + 1) task.executed_num)
          ⟨h.scene, h.strategy, h.type, h.each, h.total⟩ hlt (by simp only [Task.passed]; omega)
        exact hnext
    · rw [IndexScan.selected_end _ hge]
      exact readDeviceConf_end st c add_index (by omega) fuel frame false

/-! ## The frames of a run -/

/-- the frames for the lamps `ks`, the first with `e` frames counted before it -/
def lampFrames (frame : ℕ → ℕ → PlcFrame) : List ℕ → ℕ → List PlcFrame
  | [], _ => []
  | k :: ks, e => frame k e :: lampFrames frame ks (e + 1)

/-- the frame for all is still to be sent -/
def Task.announces (task : Task) : Prop := task.cmd_code ≤ 0x010F ∧ task.broadcast_state = 0

/-- an answer changes nothing the search looks at -/
theorem byLamp_answered {task : Task} (h : ByLamp task) (k e : ℕ) (r : Response) :
    ByLamp ((task.passed k e).answered r) ∧ ((task.passed k e).answered r).selects = task.selects ∧
      ((task.passed k e).answered r).lampFrame st = task.lampFrame st ∧
      ((task.passed k e).answered r).executed_index = k ∧ ((task.passed k e).answered r).executed_num = e ∧
      ((task.passed k e).answered r).execute_total_num = task.execute_total_num ∧
      (((task.passed k e).answered r).announces ↔ task.announces) := by
  obtain ⟨x, y, z, hr⟩ := answered_frame (task.passed k e) r
  rw [hr]
  exact ⟨⟨h.scene, h.strategy, h.type, h.each, h.total⟩, rfl, rfl, rfl, rfl, rfl, Iff.rfl⟩

theorem build_told (c : Call) {task : Task} (h : ByLamp task) (ha : ¬ task.announces) :
    build st c add_index task = readDeviceConf st c task.selects deviceFuel task .zero false add_index := by
  rw [build_byLamp st c add_index h, buildEach]
  exact if_neg ha

/-- **Lamp by lamp.** Past its announcement a task sends to the lamps it selects, in order, within its budget. -/
theorem byLamp_sends (ks : List ℕ) : ∀ task : Task, ByLamp task → ¬ task.announces →
    task.executed_index ≤ MAX_LAMP_CONF_NUM →
    selected (st.stops task.selects) MAX_LAMP_CONF_NUM task.executed_index = ks →
    Sends st add_index task (lampFrames (task.lampFrame st) (ks.take (task.execute_total_num - task.executed_num))
      task.executed_num) := by
  induction ks with
  | nil =>
    intro task h ha hi hks
    rw [List.take_nil]
    refine .finished fun c => ?_
    have hscan := readDeviceConf_scan st c add_index task.selects .zero deviceFuel task h hi
      (by unfold deviceFuel; omega)
    rw [hks] at hscan
    obtain ⟨task', htask⟩ := hscan
    rw [build_told st add_index c h ha, htask]
    trivial
  | cons k ks ih =>
    intro task h ha hi hks
    have hbuild : ∀ c, build st c add_index task =
        if task.executed_num < task.execute_total_num then
          .built (task.passed (k + 1) (task.executed_num + 1)) (task.lampFrame st k task.executed_num) true add_index
        else .finished (task.passed k task.executed_num) add_index := by
      intro c
      have hscan := readDeviceConf_scan st c add_index task.selects .zero deviceFuel task h hi
        (by unfold deviceFuel; omega)
      rw [hks] at hscan
      rw [build_told st add_index c h ha]
      exact hscan
    have hk := IndexScan.selected_cons _ hks
    by_cases hlt : task.executed_num < task.execute_total_num
    · obtain ⟨n, hn⟩ : ∃ n, task.execute_total_num - task.executed_num = n + 1 := ⟨_, (Nat.succ_pred (by omega)).symm⟩
      rw [hn, List.take_succ_cons, lampFrames]
      refine .sent (fun c => by rw [hbuild c, if_pos hlt]) fun r => ?_
      obtain ⟨h', hsel, hframe, hidx, hnum, htot, hann⟩ :=
        byLamp_answered st h (k + 1) (task.executed_num + 1) r
      have hrest := ih _ h' (fun hc => ha (hann.1 hc)) (by rw [hidx]; exact hk.1) (by rw [hsel, hidx]; exact hk.2.symm)
      rw [hframe, htot, hnum] at hrest
      have hn' : task.execute_total_num - (task.executed_num + 1) = n := by omega
      rwa [hn'] at hrest
    · rw [Nat.sub_eq_zero_of_le (by omega), List.take_zero]
      refine .finished fun c => ?_
      rw [hbuild c, if_neg hlt]
      trivial

/-- the announcement of a task as it is sent -/
def Task.announcement (task : Task) (st : Store) (c : Call) : PlcFrame :=
  { groupFrame task with cmd_code := task.frameCode }.load (userData st c.stackConfig task)

/-- a command that is announced reads nothing from the stack -/
theorem announcement_eq {task : Task} (h : task.announces) (c c' : Call) :
    task.announcement st c = task.announcement st c' := by
  have hD0 : task.cmd_code ≠ 0x01D0 := by have := h.1; omega
  simp only [Task.announcement, userData, hD0, if_false]

/-- the task with its announcement done -/
def Task.told (task : Task) : Task := { task with broadcast_state := 1 }

theorem byLamp_told {task : Task} (h : ByLamp task) : ByLamp task.told :=
  ⟨h.scene, h.strategy, h.type, h.each, h.total⟩

theorem not_announces_told (task : Task) : ¬ task.told.announces := fun h => Nat.one_ne_zero h.2

/-- an announced task builds the announcement first -/
theorem build_announced (c0 c : Call) {task : Task} (h : ByLamp task) (ha : task.announces) :
    build st c add_index task =
      readDeviceConf st c task.told.selects deviceFuel task.told (task.announcement st c0) true add_index := by
  have hcombine := combine_plain st c.stackConfig c.stackMode add_index task.told (groupFrame task.told)
    (groupFrame_buf task.told) h.scene h.strategy
  rw [build_byLamp st c add_index h, buildEach, announcement_eq st ha c0 c]
  exact (if_pos ha).trans (congrArg (fun r : Combined =>
    readDeviceConf st c task.told.selects deviceFuel r.task r.frame r.ret r.add_index) hcombine)

/-- the lamps after lamp 0, once the announcement is done -/
theorem told_sends {task : Task} (h : ByLamp task) (e : ℕ) (r : Response) :
    Sends st add_index ((task.told.passed 1 e).answered r)
      (lampFrames (task.lampFrame st)
        ((selected (st.stops task.selects) MAX_LAMP_CONF_NUM 1).take (task.execute_total_num - e)) e) := by
  obtain ⟨h', hsel, hframe, hidx, hnum, htot, hann⟩ := byLamp_answered st (byLamp_told h) 1 e r
  have hsends := byLamp_sends st add_index _ _ h' (fun hc => not_announces_told task (hann.1 hc))
    (by rw [hidx]; decide) rfl
  rw [hframe, htot, hnum, hsel, hidx] at hsends
  exact hsends

/-- the first frame of an announced task is the announcement, unless lamp 0 takes its place -/
theorem announced_sends (c0 : Call) {task : Task} (h : ByLamp task) (ha : task.announces)
    (hi : task.executed_index = 0) :
    Sends st add_index task
      ((if st.stops task.selects 0 then [] else [task.announcement st c0]) ++
        lampFrames (task.lampFrame st)
          ((selected (st.stops task.selects) MAX_LAMP_CONF_NUM 0).take (task.execute_total_num - task.executed_num))
          task.executed_num) := by
  have hpos : (0 : ℕ) < MAX_LAMP_CONF_NUM := by decide
  have hidx : task.told.executed_index = 0 := hi
  have hlt0 : task.told.executed_index < MAX_LAMP_CONF_NUM := by rw [hidx]; exact hpos
  cases hs : st.selectLamp task.told.selects 0 with
  | none =>
    have hstops : st.stops task.selects 0 = false := by
      unfold Store.stops
      exact (congrArg Option.isSome hs)
    rw [hstops, if_neg (by simp), IndexScan.selected_miss _ hpos hstops]
    refine .sent (fun c => ?_) (told_sends st add_index h task.executed_num)
    rw [build_announced st add_index c0 c h ha]
    refine (readDeviceConf_miss st c add_index (by rw [hidx]; exact hs) hlt0 _ _ true).trans ?_
    rw [if_pos rfl, hidx]
    rfl
  | some lamp_config =>
    have hstops : st.stops task.selects 0 = true := by
      unfold Store.stops
      exact (congrArg Option.isSome hs)
    have hround : ∀ c, build st c add_index task =
        if task.executed_num < task.execute_total_num then
          .built (task.told.passed 1 (task.executed_num + 1)) (task.lampFrame st 0 task.executed_num) true add_index
        else .finished task.told add_index := by
      intro c
      rw [build_announced st add_index c0 c h ha]
      refine (readDeviceConf_hit st c add_index (byLamp_told h) (by rw [hidx]; exact hs) hlt0 _ _ true).trans ?_
      rw [hidx]
      rfl
    rw [hstops, if_pos rfl, List.nil_append, IndexScan.selected_hit _ hpos hstops]
    by_cases hlt : task.executed_num < task.execute_total_num
    · obtain ⟨n, hn⟩ : ∃ n, task.execute_total_num - task.executed_num = n + 1 := ⟨_, (Nat.succ_pred (by omega)).symm⟩
      rw [hn, List.take_succ_cons, lampFrames]
      refine .sent (fun c => by rw [hround c, if_pos hlt]) fun r => ?_
      have hn' : n = task.execute_total_num - (task.executed_num + 1) := by omega
      rw [hn']
      exact told_sends st add_index h (task.executed_num + 1) r
    · rw [Nat.sub_eq_zero_of_le (by omega), List.take_zero]
      refine .finished fun c => ?_
      rw [hround c, if_neg hlt]
      trivial

/-! ## Unicast frames -/

/-- the frames for one device -/
def unicasts (fs : List PlcFrame) : List PlcFrame := fs.filter fun frame => frame.type = 2

/-- a frame made for lamp `i` and addressed to it -/
def Reaches (st : Store) (frame : PlcFrame) (i : ℕ) : Prop :=
  frame.origin = i ∧ (st.lampConfig i).map LampConfig.address = some frame.address

theorem lampFrame_spec (task : Task) {k : ℕ} (e : ℕ) (h : st.stops task.selects k = true) :
    (task.lampFrame st k e).type = 2 ∧ Reaches st (task.lampFrame st k e) k := by
  obtain ⟨cfg, hcfg⟩ := Option.isSome_iff_exists.1 h
  have hconf := selectLamp_config st hcfg
  simp only [Task.lampFrame, hconf, load_type, Reaches, load_origin, load_address, Option.map_some, unicastFrame,
    and_self]

theorem unicasts_lampFrames (task : Task) (ks : List ℕ) : ∀ e, (∀ k ∈ ks, st.stops task.selects k = true) →
    unicasts (lampFrames (task.lampFrame st) ks e) = lampFrames (task.lampFrame st) ks e ∧
      List.Forall₂ (Reaches st) (lampFrames (task.lampFrame st) ks e) ks := by
  induction ks with
  | nil => exact fun _ _ => ⟨rfl, .nil⟩
  | cons k ks ih =>
    intro e hks
    obtain ⟨htype, hreach⟩ := lampFrame_spec st task e (hks k (by simp))
    obtain ⟨huni, hall⟩ := ih (e + 1) fun j hj => hks j (by simp [hj])
    refine ⟨?_, .cons hreach hall⟩
    rw [lampFrames, unicasts, List.filter_cons_of_pos (by simpa using htype)]
    exact congrArg _ huni

/-- what a fresh task sends to single lamps -/
theorem unicasts_of_byLamp {task : Task} (h : ByLamp task) (hi : task.executed_index = 0)
    (hn : task.executed_num = 0) :
    ∃ fs, Sends st add_index task fs ∧ List.Forall₂ (Reaches st) (unicasts fs)
      ((selected (st.stops task.selects) MAX_LAMP_CONF_NUM 0).take task.execute_total_num) := by
  have hstops : ∀ k ∈ (selected (st.stops task.selects) MAX_LAMP_CONF_NUM 0).take task.execute_total_num,
      st.stops task.selects k = true := fun k hk =>
    ((IndexScan.mem_selected _).1 (List.mem_of_mem_take hk)).2.2
  obtain ⟨huni, hall⟩ := unicasts_lampFrames st task _ 0 hstops
  by_cases ha : task.announces
  · have hsends := announced_sends st add_index .quiet h ha hi
    rw [hn, Nat.sub_zero] at hsends
    refine ⟨_, hsends, ?_⟩
    have htype : task.broadcast_type ≠ 2 := by rcases h.type with ht | ht <;> omega
    have hgroup : (groupFrame task).type = task.broadcast_type := by
      unfold groupFrame
      dsimp only
      split_ifs <;> rfl
    rw [unicasts, List.filter_append]
    have hann : ∀ c, (if st.stops task.selects 0 then [] else [task.announcement st c]).filter
        (fun frame : PlcFrame => frame.type = 2) = [] := by
      intro c
      split_ifs
      · rfl
      · rw [List.filter_cons_of_neg, List.filter_nil]
        simpa [Task.announcement, hgroup] using htype
    rw [hann, List.nil_append]
    exact (congrArg (List.Forall₂ (Reaches st) · _) huni).mpr hall
  · have hsends := byLamp_sends st add_index _ task h ha (by rw [hi]; exact Nat.zero_le _) rfl
    rw [hn, hi, Nat.sub_zero] at hsends
    exact ⟨_, hsends, by rw [huni]; exact hall⟩

/-! ## Group tasks -/

/-- the lamp at an index, if it is configured -/
def Store.configured (st : Store) (i : ℕ) : Option LampConfig := st.selectLamp (fun _ => true) i

/-- a configured lamp that belongs to one of the groups -/
def Store.member (st : Store) (ids : List UInt32) (i : ℕ) : Bool :=
  (st.configured i).any fun cfg => decide (∃ j, (cfg.group j).toUInt32 ∈ ids)

/-- a configured lamp whose list ends with a zero, while the list of the task does too -/
def Store.padded (st : Store) (ids : List UInt32) (i : ℕ) : Bool :=
  decide (ids.length < MAX_LAMP_GROUP_NUM) && (st.configured i).any fun cfg => decide (∃ j, cfg.group j = 0)

/-- the frames a group task may send: the group counts added up, in a `u16` -/
def Store.groupBudget (st : Store) (ids : List UInt32) : ℕ :=
  (ids.map fun id => st.lampGroupListNum ((id.toUInt8.toNat : ℤ) - 1)).sum % 65536

/-- a fresh task for the groups `ids`, before its frames are counted -/
structure GroupTask (ids : List UInt32) (task : Task) : Prop where
  type : task.broadcast_type = 1
  each : task.execute_type = 1 ∨ task.execute_type = 2
  len : 1 ≤ ids.length ∧ ids.length ≤ MAX_LAMP_GROUP_NUM
  nonzero : ∀ id ∈ ids, id ≠ 0
  group_dev_id : ∀ k < MAX_LAMP_GROUP_NUM + 1, task.group_dev_id k = ids.getD k 0
  dev_num : task.dev_num = 0
  executed_num : task.executed_num = 0
  executed_index : task.executed_index = 0
  code : task.cmd_code ≠ 0x01D3 ∧ task.cmd_code ≠ 0x01D5

namespace GroupTask

variable {st : Store} {ids : List UInt32} {task : Task} (h : GroupTask ids task)
include h

theorem groupNum_eq : task.groupNum = ids.length := by
  obtain ⟨hle, hall, hend⟩ := groupNum_spec task
  have hlen := h.len.2
  rcases Nat.lt_trichotomy task.groupNum ids.length with hlt | heq | hgt
  · have hzero := hend (by omega)
    rw [h.group_dev_id _ (by omega), List.getD_eq_getElem?_getD, List.getElem?_eq_getElem hlt] at hzero
    exact absurd hzero (h.nonzero _ (List.getElem_mem hlt))
  · exact heq
  · have hne := hall _ hgt
    rw [h.group_dev_id _ (by omega), List.getD_eq_getElem?_getD, List.getElem?_eq_none le_rfl] at hne
    exact absurd rfl hne

theorem total_eq : (lampGetLampPlcExecuteTaskInfo st task).execute_total_num = st.groupBudget ids := by
  have hfold : ∀ (xs : List UInt32) (k n : ℕ), k + xs.length = ids.length → ids.drop k = xs → n < 65536 →
      (List.range' k xs.length).foldl
        (fun n m => (n + st.lampGroupListNum (((task.group_dev_id m).toUInt8.toNat : ℤ) - 1)) % 65536) n =
      (n + (xs.map fun id => st.lampGroupListNum ((id.toUInt8.toNat : ℤ) - 1)).sum) % 65536 := by
    intro xs
    induction xs with
    | nil => intro k n _ _ hn; simpa using (Nat.mod_eq_of_lt hn).symm
    | cons x xs ih =>
      intro k n hk hdrop hn
      have hlt : k < ids.length := by rw [List.length_cons] at hk; omega
      rw [List.drop_eq_getElem_cons hlt, List.cons.injEq] at hdrop
      have hlen := h.len.2
      have hx : task.group_dev_id k = x := by
        rw [h.group_dev_id k (by omega), List.getD_eq_getElem?_getD, List.getElem?_eq_getElem hlt]
        exact hdrop.1
      rw [List.length_cons, List.range'_succ, List.foldl_cons, hx,
        ih (k + 1) _ (by rw [List.length_cons] at hk; omega) hdrop.2 (Nat.mod_lt _ (by decide)), Nat.mod_add_mod,
        List.map_cons, List.sum_cons, Nat.add_assoc]
  have hexec : task.execute_type ≠ 0 := by rcases h.each with he | he <;> omega
  rw [lampGetLampPlcExecuteTaskInfo, getTaskInfo]
  dsimp only
  split
  · have := h.type; omega
  · have hsum := hfold ids 0 0 (by omega) rfl (by decide)
    rw [Nat.zero_add] at hsum
    simp only [hexec, if_false, h.dev_num, h.groupNum_eq, Nat.mul_one, List.range_eq_range', hsum, Nat.mod_mod]
    rfl
  · have := h.type; omega
  · rename_i h1 _
    exact absurd h.type h1

/-- counting the frames of a group task -/
theorem byLamp : ByLamp (lampGetLampPlcExecuteTaskInfo st task) := by
  have hexec : task.execute_type ≠ 0 := by rcases h.each with he | he <;> omega
  have htotal : (lampGetLampPlcExecuteTaskInfo st task).execute_total_num < 65536 := by
    rw [h.total_eq]
    exact Nat.mod_lt _ (by decide)
  have hframe := getTaskInfo_frame (fun id => (id.toUInt8.toNat : ℤ) - 1) 1 st task
  rw [lampGetLampPlcExecuteTaskInfo] at htotal ⊢
  rw [hframe] at htotal ⊢
  exact ⟨h.code.1, h.code.2, .inr h.type, hexec, htotal⟩

/-- the comparison of all pairs finds the members, and the pairs of padding -/
theorem wants_iff (cfg : LampConfig) : task.wants cfg = true ↔
    (∃ j, (cfg.group j).toUInt32 ∈ ids) ∨ ids.length < MAX_LAMP_GROUP_NUM ∧ ∃ j, cfg.group j = 0 := by
  have hlen := h.len.2
  rw [Task.wants, decide_eq_true_iff]
  constructor
  · rintro ⟨j, k, hjk⟩
    rw [h.group_dev_id k (by omega), List.getD_eq_getElem?_getD] at hjk
    rcases Nat.lt_or_ge k ids.length with hk | hk
    · rw [List.getElem?_eq_getElem hk] at hjk
      exact .inl ⟨j, by rw [hjk]; exact List.getElem_mem hk⟩
    · rw [List.getElem?_eq_none hk] at hjk
      refine .inr ⟨by omega, j, UInt8.toNat_inj.1 ?_⟩
      have hnat := congrArg UInt32.toNat hjk
      simpa using hnat
  · rintro (⟨j, hj⟩ | ⟨hlt, j, hj⟩)
    · obtain ⟨k, hk, hjk⟩ := List.getElem_of_mem hj
      refine ⟨j, ⟨k, by omega⟩, ?_⟩
      rw [h.group_dev_id k (by omega), List.getD_eq_getElem?_getD, List.getElem?_eq_getElem hk]
      exact hjk.symm
    · refine ⟨j, ⟨ids.length, hlt⟩, ?_⟩
      rw [h.group_dev_id ids.length (by omega), List.getD_eq_getElem?_getD, List.getElem?_eq_none le_rfl, hj]
      rfl

theorem stops_eq (k : ℕ) : st.stops (lampGetLampPlcExecuteTaskInfo st task).selects k =
    (st.member ids k || st.padded ids k) := by
  have hwants : (lampGetLampPlcExecuteTaskInfo st task).selects = task.wants := by
    rw [lampGetLampPlcExecuteTaskInfo, getTaskInfo_frame]
    funext cfg
    have h0 : task.broadcast_type ≠ 0 := by have := h.type; omega
    simp only [Task.selects, h0, if_false]
    rfl
  rw [hwants, Bool.eq_iff_iff]
  cases hl : st.readSpecifyLampNumList k with
  | false => simp [Store.stops, Store.selectLamp, Store.member, Store.padded, Store.configured, hl]
  | true =>
    cases hc : st.lampConfig k with
    | none => simp [Store.stops, Store.selectLamp, Store.member, Store.padded, Store.configured, hl, hc]
    | some cfg =>
      simp only [Store.stops, Store.selectLamp, Store.member, Store.padded, Store.configured, hl, hc, if_true,
        Option.any_some, Option.filter_some, h.wants_iff, Bool.or_eq_true, Bool.and_eq_true, decide_eq_true_eq]
      split_ifs with hm <;> simp [hm]

end GroupTask

/-- a list of frames that reach two lists of lamps -/
theorem reaches_unique {fs : List PlcFrame} : ∀ {ks js : List ℕ}, List.Forall₂ (Reaches st) fs ks →
    List.Forall₂ (Reaches st) fs js → ks = js := by
  induction fs with
  | nil =>
    rintro ks js (_ | _) (_ | _)
    rfl
  | cons f fs ih =>
    rintro ks js (_ | ⟨hk, hks⟩) (_ | ⟨hj, hjs⟩)
    rw [ih hks hjs, ← hk.1, ← hj.1]

/-- the frames of a group task, whatever it meets -/
theorem group_delivers {ids : List UInt32} {task : Task} (h : GroupTask ids task) (calls : ℕ → Call) (s : St)
    (hcalls : ∀ k, (calls k).msgs = []) (hw : Working s (lampGetLampPlcExecuteTaskInfo st task)) (ks : List ℕ) :
    Delivers st calls s (fun fs => List.Forall₂ (Reaches st) (unicasts fs) ks) ↔
      (selected (fun k => st.member ids k || st.padded ids k) MAX_LAMP_CONF_NUM 0).take (st.groupBudget ids) = ks := by
  have hidx : (lampGetLampPlcExecuteTaskInfo st task).executed_index = 0 := by
    rw [lampGetLampPlcExecuteTaskInfo, getTaskInfo_frame]
    exact h.executed_index
  have hnum : (lampGetLampPlcExecuteTaskInfo st task).executed_num = 0 := by
    rw [lampGetLampPlcExecuteTaskInfo, getTaskInfo_frame]
    exact h.executed_num
  obtain ⟨fs, hsends, hall⟩ := unicasts_of_byLamp st s.add_index h.byLamp hidx hnum
  rw [funext h.stops_eq, h.total_eq] at hall
  rw [delivers_iff _ hsends hcalls hw]
  exact ⟨fun hks => reaches_unique st hall hks, fun heq => heq ▸ hall⟩

/-- **Group addressing.** A group task sends one unicast frame to each member of its groups, in increasing index, and
no other, exactly if its budget covers the members and each lamp that only its padding matches comes after as many
matching lamps as the budget allows. -/
theorem groupRun_iff {ids : List UInt32} {task : Task} (h : GroupTask ids task) (calls : ℕ → Call) (s : St)
    (hcalls : ∀ k, (calls k).msgs = []) (hw : Working s (lampGetLampPlcExecuteTaskInfo st task)) :
    Delivers st calls s (fun fs => List.Forall₂ (Reaches st) (unicasts fs)
        ((List.range MAX_LAMP_CONF_NUM).filter (st.member ids))) ↔
      ((List.range MAX_LAMP_CONF_NUM).filter (st.member ids)).length ≤ st.groupBudget ids ∧
      ∀ k < MAX_LAMP_CONF_NUM, st.padded ids k = true → st.member ids k = false →
        st.groupBudget ids ≤ ((List.range k).filter fun i => st.member ids i || st.padded ids i).length := by
  rw [group_delivers st h calls s hcalls hw, ← IndexScan.selected_zero,
    IndexScan.take_selected_iff _ _ (fun k hk => by rw [hk]; rfl)]
  refine and_congr_right fun _ => forall_congr' fun k => forall_congr' fun _ => ?_
  rw [IndexScan.selected_zero, Bool.or_eq_true]
  constructor
  · exact fun hle hp hm => hle (.inr hp) hm
  · rintro hle (hm | hp) hnot
    · rw [hm] at hnot
      exact absurd hnot (by simp)
    · exact hle hp hnot

/-- two lamps, of one group each (0 for none), and the count of group 1 -/
def pairStore (g0 g1 : UInt8) (count : ℕ) : Store :=
  { Store.empty with
    lampNumList := ⟨2, fun i => i < 2⟩
    lampConfig := fun i =>
      if i = 0 then some ⟨100, [], fun j => if j.val = 0 then g0 else 0⟩
      else if i = 1 then some ⟨101, [], fun j => if j.val = 0 then g1 else 0⟩
      else none
    lampGroupListNum := fun i => if i = 0 then count else 0 }

/-- a state query for group 1 -/
def queryGroup : Task :=
  { Task.zero with cmd_code := 0x0170, broadcast_type := 1, execute_type := 2, group_dev_id := fun k => [1].getD k 0 }

theorem queryGroup_groupTask : GroupTask [1] queryGroup where
  type := rfl
  each := .inr rfl
  len := by decide
  nonzero := by simp
  group_dev_id := fun _ _ => rfl
  dev_num := rfl
  executed_num := rfl
  executed_index := rfl
  code := by decide

/-- both lamps in group 1: both are reached -/
theorem groupRun_two_members :
    Delivers (pairStore 1 1 2) (fun _ => .quiet) (.withTask (lampGetLampPlcExecuteTaskInfo (pairStore 1 1 2) queryGroup))
      (fun fs => List.Forall₂ (Reaches (pairStore 1 1 2)) (unicasts fs)
        ((List.range MAX_LAMP_CONF_NUM).filter ((pairStore 1 1 2).member [1]))) :=
  (groupRun_iff (pairStore 1 1 2) queryGroup_groupTask (fun _ => .quiet) _ (fun _ => rfl) (working_withTask _)).2
    ⟨by decide +kernel, by decide +kernel⟩

/-- the only frame of a task for group 1 goes to lamp 0, which has no group: its empty entries equal those of the
list of the task -/
theorem padding_reaches_stranger :
    GroupTask [1] queryGroup ∧ ¬ Delivers (pairStore 0 1 1) (fun _ => .quiet)
      (.withTask (lampGetLampPlcExecuteTaskInfo (pairStore 0 1 1) queryGroup))
      (fun fs => List.Forall₂ (Reaches (pairStore 0 1 1)) (unicasts fs)
        ((List.range MAX_LAMP_CONF_NUM).filter ((pairStore 0 1 1).member [1]))) := by
  refine ⟨queryGroup_groupTask, ?_⟩
  rw [group_delivers _ queryGroup_groupTask _ _ (fun _ => rfl) (working_withTask _)]
  decide +kernel

end DataConcentrator.Plc
