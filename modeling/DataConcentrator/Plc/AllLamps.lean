/-
Tasks for all lamps: a control that is broadcast first and then sent lamp by lamp, and the periodic query of
`LampAutoGetCurrentState`.

- `broadcast_counts`: what a control sends, and that every frame sent is counted as a success or a failure;
- `broadcast_never`: so no such task sends the broadcast first and counts the unicast frames only: a configured lamp 0
  takes the place of the broadcast, and otherwise the broadcast is counted with them;
- `query_lamps_iff`: the periodic query reaches every lamp only if there is none.
-/
import DataConcentrator.Plc.GroupRun
import DataConcentrator.Plc.Send

namespace DataConcentrator.Plc

open IndexScan (selected)

/-- the configured lamps, in increasing index -/
def Store.lamps (st : Store) : List ℕ := (List.range MAX_LAMP_CONF_NUM).filter fun i => (st.configured i).isSome

/-! ## Counting the answers -/

/-- the frames counted as answered or lost are the frames sent -/
structure Counts (sent : ℕ) (task : Task) : Prop where
  byLamp : ByLamp task
  each : task.execute_type = 1 ∨ task.execute_type = 2
  le : task.success_num + task.failed_num ≤ sent
  mod : (task.success_num + task.failed_num) % 65536 = sent % 65536

/-- all codes but `0x01D5` leave the task as it is -/
theorem combine_keeps (st : Store) (lamp_config : LampConfig) (stackMode add_index : ℕ) {task : Task}
    (h : task.cmd_code ≠ 0x01D5) (frame : PlcFrame) :
    (combinePlcUserFrame st lamp_config stackMode add_index task frame).task = task := by
  rw [combinePlcUserFrame]
  dsimp only
  split_ifs
  · rfl
  · split <;> rfl
  · rfl

theorem counts_congr {n : ℕ} {task : Task} (h : Counts n task) (e i b : ℕ) :
    Counts n { task with executed_num := e, executed_index := i, broadcast_state := b } :=
  ⟨⟨h.byLamp.scene, h.byLamp.strategy, h.byLamp.type, h.byLamp.each, h.byLamp.total⟩, h.each, h.le, h.mod⟩

theorem counts_steady (st : Store) (n : ℕ) : Steady st (Counts n) where
  counters task e i h := counts_congr h e i task.broadcast_state
  combine lamp_config stackMode add_index task frame h := by
    rw [combine_keeps st _ _ _ h.byLamp.strategy]
    exact h

/-- every answer but `STATE_START` is counted once -/
theorem counts_invariant (st : Store) : Invariant st (· ≠ .start) Counts where
  build := by
    intro n c add_index task h
    rw [build_byLamp st c add_index h.byLamp, buildEach]
    split_ifs
    · exact (counts_steady st n).readDeviceConf c _ _ _ _ _
        ((counts_steady st n).combine _ _ _ _ _ (counts_congr h task.executed_num task.executed_index 1))
    · exact (counts_steady st n).readDeviceConf c _ _ _ _ _ h
  answered := by
    intro n task r hr h
    have hle := h.le
    have hmod := h.mod
    have hsum : ∀ success failed timeout, success + failed ≤ n + 1 → (success + failed) % 65536 = (n + 1) % 65536 →
        Counts (n + 1) { task with
          state := .start, success_num := success, failed_num := failed, timeout_num := timeout } :=
      fun success failed timeout hle hmod =>
        ⟨⟨h.byLamp.scene, h.byLamp.strategy, h.byLamp.type, h.byLamp.each, h.byLamp.total⟩, h.each, hle, hmod⟩
    cases r with
    | start => exact absurd rfl hr
    | success =>
      have heq : task.answered .success = { task with
          state := .start, success_num := inc16 task.success_num, failed_num := task.failed_num,
          timeout_num := task.timeout_num } := by
        simp [Task.answered, Task.settle, Task.count, Response.state, h.each]
      rw [heq]
      exact hsum _ _ _ (by unfold inc16; omega) (by unfold inc16; omega)
    | fail =>
      have heq : task.answered .fail = { task with
          state := .start, success_num := task.success_num, failed_num := inc16 task.failed_num,
          timeout_num := task.timeout_num } := by
        simp [Task.answered, Task.settle, Task.count, Response.state, h.each]
      rw [heq]
      exact hsum _ _ _ (by unfold inc16; omega) (by unfold inc16; omega)
    | timeout =>
      have heq : task.answered .timeout = { task with
          state := .start, success_num := task.success_num, failed_num := inc16 task.failed_num,
          timeout_num := inc16 task.timeout_num } := by
        simp [Task.answered, Task.settle, Task.count, Response.state, h.each]
      rw [heq]
      exact hsum _ _ _ (by unfold inc16; omega) (by unfold inc16; omega)

/-! ## Broadcast first -/

/-- the calls send frames until the task is finished, and report it, with `P` -/
def Concludes (st : Store) (calls : ℕ → Call) (s : St) (P : List PlcFrame → Task → Prop) : Prop :=
  ∃ n s' fs done, FinishesAt st calls s n s' ∧ s'.frames = s.frames ++ fs ∧
    s'.trace.getLast? = some (.finished done) ∧ P fs done

/-- a run ends once -/
theorem Concludes.and {st : Store} {calls : ℕ → Call} {s : St} {P Q : List PlcFrame → Task → Prop}
    (hP : Concludes st calls s P) (hQ : Concludes st calls s Q) :
    Concludes st calls s fun fs done => P fs done ∧ Q fs done := by
  obtain ⟨n, s1, fs, done, hfin, hframes, hlast, hp⟩ := hP
  obtain ⟨n2, s2, fs2, done2, hfin2, hframes2, hlast2, hq⟩ := hQ
  obtain rfl := hfin.unique hfin2
  obtain rfl := List.append_cancel_left (hframes.symm.trans hframes2)
  rw [hlast, Option.some.injEq, Event.finished.injEq] at hlast2
  exact ⟨n, s1, fs, done, hfin, hframes, hlast, hp, hlast2 ▸ hq⟩

/-- a fresh control of all lamps -/
structure BroadcastTask (task : Task) : Prop where
  code : task.cmd_code ≤ 0x010F
  type : task.broadcast_type = 0
  each : task.execute_type = 1 ∨ task.execute_type = 2
  total : task.execute_total_num < 65536
  broadcast_state : task.broadcast_state = 0
  executed_num : task.executed_num = 0
  executed_index : task.executed_index = 0
  success_num : task.success_num = 0
  failed_num : task.failed_num = 0

/-- the broadcast comes first, then each configured lamp once, and the counters are those of the unicast frames -/
def BroadcastFirst (st : Store) (fs : List PlcFrame) (done : Task) : Prop :=
  (∃ frame us, fs = frame :: us ∧ frame.type = 0 ∧ frame.address = 0xFFFFFFFF ∧ (∀ u ∈ us, u.type = 2) ∧
    List.Forall₂ (Reaches st) us st.lamps) ∧
  done.success_num + done.failed_num = (unicasts fs).length

section Broadcast

variable {st : Store} {task : Task} {calls : ℕ → Call} {s : St}

theorem BroadcastTask.byLamp (h : BroadcastTask task) : ByLamp task where
  scene := by have := h.code; omega
  strategy := by have := h.code; omega
  type := .inl h.type
  each := by rcases h.each with he | he <;> omega
  total := h.total

/-- the frames to single lamps, within the budget -/
def Task.budgeted (task : Task) (st : Store) : List PlcFrame :=
  lampFrames (task.lampFrame st) (st.lamps.take task.execute_total_num) 0

theorem selected_lamps (h : BroadcastTask task) : selected (st.stops task.selects) MAX_LAMP_CONF_NUM 0 = st.lamps := by
  have hselects : task.selects = fun _ => true := by
    funext cfg
    rw [Task.selects, if_pos h.type]
  rw [IndexScan.selected_zero, hselects]
  rfl

theorem budgeted_spec (h : BroadcastTask task) : unicasts (task.budgeted st) = task.budgeted st ∧
    List.Forall₂ (Reaches st) (task.budgeted st) (st.lamps.take task.execute_total_num) := by
  refine unicasts_lampFrames st task _ 0 fun k hk => ?_
  rw [← selected_lamps h] at hk
  exact ((IndexScan.mem_selected _).1 (List.mem_of_mem_take hk)).2.2

theorem length_budgeted_le (st : Store) (h : BroadcastTask task) : (task.budgeted st).length ≤ MAX_LAMP_CONF_NUM := by
  rw [(@budgeted_spec st task h).2.length_eq, List.length_take]
  have hlamps : st.lamps.length ≤ MAX_LAMP_CONF_NUM :=
    (List.length_filter_le _ _).trans (le_of_eq List.length_range)
  omega

/-- **Control of all lamps.** Unless lamp 0 takes its place the broadcast is sent, then the lamps of the budget, and
every frame is counted. -/
theorem broadcast_counts (h : BroadcastTask task) (hcalls : ∀ k, (calls k).msgs = [])
    (hanswers : ∀ k, (calls k).response ≠ .start) (hw : Working s task) :
    Concludes st calls s fun fs done =>
      fs = (if (st.configured 0).isSome then [] else [task.announcement st .quiet]) ++ task.budgeted st ∧
        done.success_num + done.failed_num = fs.length := by
  have hsends := announced_sends st s.add_index .quiet h.byLamp ⟨h.code, h.broadcast_state⟩ h.executed_index
  rw [selected_lamps h, h.executed_num, Nat.sub_zero, ← Task.budgeted] at hsends
  have hselects : task.selects = fun _ => true := by
    funext cfg
    rw [Task.selects, if_pos h.type]
  obtain ⟨n, s', done, spent, hfin, hframes, hcounts, hlast⟩ :=
    plays_run (counts_invariant st) hsends.plays 0 calls s hcalls hanswers hw rfl
      ⟨h.byLamp, h.each, by rw [h.success_num, h.failed_num], by rw [h.success_num, h.failed_num]⟩
  rw [played_const] at hframes
  refine ⟨n, s', _, _, hfin, hframes, hlast, by rw [hselects]; rfl, ?_⟩
  have hshort : (if st.stops task.selects 0 then [] else [task.announcement st .quiet]).length ≤ 1 := by
    split_ifs
    · exact Nat.zero_le 1
    · exact le_rfl
  have hlen := length_budgeted_le st h
  have hle := hcounts.le
  have hmod := hcounts.mod
  have hall : ((if st.stops task.selects 0 then [] else [task.announcement st .quiet]) ++ task.budgeted st).length
      < 65536 := by
    unfold MAX_LAMP_CONF_NUM at hlen
    rw [List.length_append]
    omega
  rw [Nat.zero_add, List.length_map] at hle hmod
  rwa [Nat.mod_eq_of_lt hall, Nat.mod_eq_of_lt (lt_of_le_of_lt hle hall)] at hmod

/-- lamp 0 is configured: the broadcast does not come first -/
theorem not_first_of_lamp0 (h : BroadcastTask task) (hcalls : ∀ k, (calls k).msgs = [])
    (hanswers : ∀ k, (calls k).response ≠ .start) (hw : Working s task) (h0 : (st.configured 0).isSome = true) :
    ¬ Concludes st calls s (BroadcastFirst st) := by
  intro hfirst
  obtain ⟨n, s', fs, done, -, -, -, ⟨⟨frame, us, rfl, htype, -⟩, -⟩, hsent, -⟩ :=
    hfirst.and (broadcast_counts h hcalls hanswers hw)
  rw [if_pos h0, List.nil_append] at hsent
  have hmem : frame ∈ unicasts (task.budgeted st) := by
    rw [(budgeted_spec h).1, ← hsent]
    exact List.mem_cons_self
  have h2 : frame.type = 2 := by simpa using (List.mem_filter.1 hmem).2
  omega

/-- lamp 0 is not configured: the broadcast is counted -/
theorem counted_of_no_lamp0 (h : BroadcastTask task) (hcalls : ∀ k, (calls k).msgs = [])
    (hanswers : ∀ k, (calls k).response ≠ .start) (hw : Working s task) (h0 : (st.configured 0).isSome = false) :
    ¬ Concludes st calls s fun fs done => done.success_num + done.failed_num = (unicasts fs).length := by
  intro hcount
  obtain ⟨n, s', fs, done, -, -, -, hcounted, rfl, hsum⟩ := hcount.and (broadcast_counts h hcalls hanswers hw)
  rw [h0, if_neg (by simp)] at hcounted hsum
  have hgroup : (task.announcement st .quiet).type = 0 := by
    rw [Task.announcement, load_type]
    unfold groupFrame
    dsimp only
    split_ifs <;> exact h.type
  rw [unicasts, List.filter_append, List.filter_cons_of_neg (by simp [hgroup]), List.filter_nil, List.nil_append,
    ← unicasts, (budgeted_spec h).1] at hcounted
  rw [List.length_append, List.length_singleton] at hsum
  omega

/-- **Broadcast first.** No control of all lamps sends the broadcast first and counts the unicast frames only. -/
theorem broadcast_never (st : Store) {task : Task} (h : BroadcastTask task) (calls : ℕ → Call) (s : St)
    (hcalls : ∀ k, (calls k).msgs = []) (hanswers : ∀ k, (calls k).response ≠ .start) (hw : Working s task) :
    ¬ Concludes st calls s (BroadcastFirst st) := by
  cases h0 : (st.configured 0).isSome with
  | true => exact not_first_of_lamp0 h hcalls hanswers hw h0
  | false =>
    intro hfirst
    obtain ⟨n, s', fs, done, hfin, hframes, hlast, -, hcount⟩ := hfirst
    exact counted_of_no_lamp0 h hcalls hanswers hw h0 ⟨n, s', fs, done, hfin, hframes, hlast, hcount⟩

end Broadcast

/-- dim all lamps -/
def dimAll : Task := { Task.zero with cmd_code := 0x0103, execute_type := 1, data := [0, 50, 50] }

theorem dimAll_broadcastTask (st : Store) : BroadcastTask (lampGetLampPlcExecuteTaskInfo st dimAll) := by
  have htotal : (lampGetLampPlcExecuteTaskInfo st dimAll).execute_total_num < 65536 := Nat.mod_lt _ (by decide)
  rw [lampGetLampPlcExecuteTaskInfo, getTaskInfo_frame] at htotal ⊢
  exact ⟨show 0x0103 ≤ 0x010F by decide, rfl, .inl rfl, htotal, rfl, rfl, rfl, rfl, rfl⟩

/-- two lamps that answer -/
theorem broadcast_two : ¬ Concludes (pairStore 1 1 2) (fun _ => .quiet)
    (.withTask (lampGetLampPlcExecuteTaskInfo (pairStore 1 1 2) dimAll)) (BroadcastFirst (pairStore 1 1 2)) :=
  broadcast_never _ (dimAll_broadcastTask _) _ _ (fun _ => rfl) (fun _ => by decide) (working_withTask _)

/-- one lamp, at index 1 -/
def secondStore : Store :=
  { pairStore 1 1 2 with lampNumList := ⟨1, fun i => i = 1⟩ }

/-- lamps 0 and 1: no broadcast comes first; lamp 1 alone: one unicast frame, and two successes -/
theorem broadcast_lost_or_counted :
    (BroadcastTask (lampGetLampPlcExecuteTaskInfo (pairStore 1 1 2) dimAll) ∧
      ¬ Concludes (pairStore 1 1 2) (fun _ => .quiet)
        (.withTask (lampGetLampPlcExecuteTaskInfo (pairStore 1 1 2) dimAll)) (BroadcastFirst (pairStore 1 1 2))) ∧
    (BroadcastTask (lampGetLampPlcExecuteTaskInfo secondStore dimAll) ∧
      ¬ Concludes secondStore (fun _ => .quiet) (.withTask (lampGetLampPlcExecuteTaskInfo secondStore dimAll))
        fun fs done => done.success_num + done.failed_num = (unicasts fs).length) := by
  refine ⟨⟨dimAll_broadcastTask _, ?_⟩, dimAll_broadcastTask _, ?_⟩
  · exact not_first_of_lamp0 (dimAll_broadcastTask _) (fun _ => rfl) (fun _ => by decide) (working_withTask _)
      (by decide)
  · exact counted_of_no_lamp0 (dimAll_broadcastTask _) (fun _ => rfl) (fun _ => by decide) (working_withTask _)
      (by decide)

/-! ## `LampAutoGetCurrentState` -/

/-- the task it builds -/
def stateQuery (st : Store) (auto_report_plc_state : UInt8) : Task :=
  { Task.zero with
    broadcast_type := 0
    execute_type := 2
    cmd_code := 0x0170
    dev_num := st.lampNumList.number
    notify_enable := if auto_report_plc_state &&& ((1 : UInt8) <<< 2) ≠ 0 then 1 else 0 }

/-- `LampAutoGetCurrentState` at the tick `now`: its static `time`, a `time_t` of 32 bits, and the task it queues -/
def lampAutoGetCurrentState (st : Store) (state_collection_cycle : UInt16) (auto_report_plc_state : UInt8)
    (time now : UInt32) : UInt32 × Option Task :=
  if (now - time).toNat ≥ state_collection_cycle.toNat * 60 then (now, some (stateQuery st auto_report_plc_state))
  else (time, none)

/-- a query of one lamp -/
def Queries (st : Store) (frame : PlcFrame) (i : ℕ) : Prop :=
  frame.type = 2 ∧ frame.cmd_code = 0x70 ∧ Reaches st frame i

theorem stateQuery_byLamp (st : Store) (auto_report : UInt8) : ByLamp (stateQuery st auto_report) where
  scene := show 0x0170 ≠ 0x01D3 by decide
  strategy := show 0x0170 ≠ 0x01D5 by decide
  type := .inl rfl
  each := show 2 ≠ 0 by decide
  total := show 0 < 65536 by decide

/-- its `execute_total_num` is 0, so it is finished at the first lamp -/
theorem stateQuery_sends (st : Store) (auto_report : UInt8) (add_index : ℕ) :
    Sends st add_index (stateQuery st auto_report) [] := by
  have htold : ¬ (stateQuery st auto_report).announces := fun ha => absurd ha.1 (show ¬ 0x0170 ≤ 0x010F by decide)
  have hsends := byLamp_sends st add_index _ _ (stateQuery_byLamp st auto_report) htold (Nat.zero_le _) rfl
  have hspent : (stateQuery st auto_report).execute_total_num - (stateQuery st auto_report).executed_num = 0 := rfl
  rwa [hspent, List.take_zero] at hsends

/-- **Periodic query.** The task sends one query to each configured lamp, in increasing index, only where no lamp is
configured. -/
theorem query_lamps_iff (st : Store) {cycle : UInt16} {auto_report : UInt8} {time now : UInt32} {task : Task}
    (h : (lampAutoGetCurrentState st cycle auto_report time now).2 = some task) (calls : ℕ → Call) (s : St)
    (hcalls : ∀ k, (calls k).msgs = []) (hw : Working s task) :
    Delivers st calls s (fun fs => List.Forall₂ (Queries st) fs st.lamps) ↔
      ∀ k, k < MAX_LAMP_CONF_NUM → st.configured k = none := by
  obtain rfl : stateQuery st auto_report = task := by
    unfold lampAutoGetCurrentState at h
    split_ifs at h
    exact Option.some.inj h
  rw [delivers_iff _ (stateQuery_sends st auto_report s.add_index) hcalls hw, List.forall₂_nil_left_iff, Store.lamps,
    List.filter_eq_nil_iff]
  simp only [List.mem_range, Bool.not_eq_true, Option.isSome_eq_false_iff, Option.isNone_iff_eq_none]

/-- no lamp -/
theorem collect_nothing : Delivers .empty (fun _ => .quiet) (.withTask (stateQuery .empty 0))
    fun fs => List.Forall₂ (Queries .empty) fs Store.empty.lamps := by
  have htask : (lampAutoGetCurrentState .empty 30 0 86400 90000).2 = some (stateQuery .empty 0) :=
    congrArg Prod.snd (if_pos (by decide))
  refine (query_lamps_iff .empty htask _ _ (fun _ => rfl) (working_withTask _)).2 fun k _ => ?_
  unfold Store.configured Store.selectLamp
  split_ifs <;> rfl

/-- two lamps, and no query -/
theorem collect_two :
    (lampAutoGetCurrentState (pairStore 1 1 2) 30 0 86400 90000).2 = some (stateQuery (pairStore 1 1 2) 0) ∧
    ¬ Delivers (pairStore 1 1 2) (fun _ => .quiet) (.withTask (stateQuery (pairStore 1 1 2) 0))
      fun fs => List.Forall₂ (Queries (pairStore 1 1 2)) fs (pairStore 1 1 2).lamps := by
  refine ⟨congrArg Prod.snd (if_pos (by decide)), ?_⟩
  rw [delivers_iff _ (stateQuery_sends _ 0 _) (fun _ => rfl) (working_withTask _), List.forall₂_nil_left_iff]
  decide +kernel

end DataConcentrator.Plc
