/-
Synchronisation of the basic configuration: the task `0x01D0` that `LampSynchronizeConfig` builds for type 0.

- `byLamp_own`: a broadcast or group task sends each lamp its own record, lamp by lamp;
- `listed_plays`: a unicast task sends what the stack holds: no branch fills `lamp_config` for it;
- `configSync_iff`: every frame carries the record of the lamp it is addressed to, unless the task is a unicast one and
  the stack holds something else.
-/
import DataConcentrator.Plc.GroupRun

namespace DataConcentrator.Plc

open Protocol (ServerFrameStruct)

/-! ## The task -/

/-- a fresh task for the basic configuration -/
structure ConfigTask (task : Task) : Prop where
  code : task.cmd_code = 0x01D0
  execute_type : task.execute_type = 1
  executed_index : task.executed_index = 0
  executed_num : task.executed_num = 0
  total : task.execute_total_num < 65536
  type : task.broadcast_type ≤ 2
  unicast : task.broadcast_type = 2 → task.dev_num = task.groupNum ∧ task.execute_total_num = task.groupNum

theorem configTask_of_sync {st : Store} {s : ServerFrameStruct} {task : Task}
    (h : lampSynchronizeConfig st s = some task) (hc : task.cmd_code = 0x01D0) (ht : task.broadcast_type ≤ 2) :
    ConfigTask task := by
  obtain ⟨bt, ids, rfl⟩ := sync_config h hc
  have hle := (groupNum_spec { Task.addressed bt ids with cmd_code := 0x01D0, execute_type := 1 }).1
  have hunicast := getTaskInfo_unicast (fun id => (id.toUInt8.toNat : ℤ) - 1) 1 st
    { Task.addressed bt ids with cmd_code := 0x01D0, execute_type := 1 }
  have htotal := getTaskInfo_total (fun id => (id.toUInt8.toNat : ℤ) - 1) 1 st
    { Task.addressed bt ids with cmd_code := 0x01D0, execute_type := 1 } (show 0 < 65536 by decide)
  rw [lampGetLampPlcExecuteTaskInfo, getTaskInfo_frame] at ht ⊢
  refine ⟨rfl, rfl, rfl, rfl, htotal, ht, fun h2 => ⟨(hunicast h2).1, ?_⟩⟩
  refine (hunicast h2).2.trans ?_
  rw [Nat.mul_one, Nat.mod_eq_of_lt (lt_of_le_of_lt hle (by decide))]
  rfl

/-! ## Whose record a frame carries -/

variable (st : Store)

/-- a record as it is sent: its address is the number of the gateway -/
def Store.sentRecord (lamp_config : LampConfig) : Payload :=
  .config { lamp_config with address := st.concentratorGateWayID }

/-- `buf` is what is sent of the record of a configured lamp with an address, if there is one -/
def Store.RecordOf (address : UInt32) (buf : Option Payload) : Prop :=
  (∃ k cfg, st.configured k = some cfg ∧ cfg.address = address) →
    ∃ k cfg, st.configured k = some cfg ∧ cfg.address = address ∧ buf = some (st.sentRecord cfg)

/-- a unicast frame to a configured lamp carries its record -/
def OwnRecord (frame : PlcFrame) : Prop := frame.type = 2 → st.RecordOf frame.address frame.buf

/-! ## Broadcast and group tasks -/

theorem mem_lampFrames {frame : ℕ → ℕ → PlcFrame} {f : PlcFrame} (ks : List ℕ) : ∀ e,
    f ∈ lampFrames frame ks e → ∃ k ∈ ks, ∃ e', f = frame k e' := by
  induction ks with
  | nil => exact fun e h => absurd h List.not_mem_nil
  | cons k ks ih =>
    intro e h
    rcases List.mem_cons.1 h with rfl | h
    · exact ⟨k, List.mem_cons_self, e, rfl⟩
    · obtain ⟨j, hj, e', hf⟩ := ih (e + 1) h
      exact ⟨j, List.mem_cons_of_mem k hj, e', hf⟩

theorem userData_config {task : Task} (hc : task.cmd_code = 0x01D0) (lamp_config : LampConfig) :
    userData st lamp_config task = some (31, st.sentRecord lamp_config) := by
  unfold userData
  rw [hc]
  rfl

/-- the frame for a selected lamp carries the record that was just read -/
theorem lampFrame_own {task : Task} (hc : task.cmd_code = 0x01D0) {k : ℕ} (e : ℕ)
    (hk : st.stops task.selects k = true) : OwnRecord st (task.lampFrame st k e) := by
  obtain ⟨cfg, hcfg⟩ := Option.isSome_iff_exists.1 hk
  have hconf := selectLamp_config st hcfg
  have hconfigured : st.configured k = some cfg := by
    unfold Store.selectLamp at hcfg
    unfold Store.configured Store.selectLamp
    split_ifs at hcfg ⊢
    rw [hconf]
    rfl
  intro _ _
  refine ⟨k, cfg, hconfigured, ?_⟩
  have hdata := @userData_config st { task with executed_index := k, executed_num := e } hc cfg
  simp only [Task.lampFrame, hconf, load_address, unicastFrame, true_and]
  exact congrArg (fun data => (PlcFrame.load _ data).buf) hdata

/-- a broadcast or group task sends each lamp its own record -/
theorem byLamp_own {task : Task} (h : ConfigTask task) (h2 : task.broadcast_type ≠ 2) (add_index : ℕ) :
    ∃ fs, Sends st add_index task fs ∧ ∀ frame ∈ fs, OwnRecord st frame := by
  have hby : ByLamp task := by
    have hcode := h.code
    have hexec := h.execute_type
    have htype := h.type
    exact ⟨by omega, by omega, by omega, by omega, h.total⟩
  have htold : ¬ task.announces := fun ha => by
    have hcode := h.code
    have hle := ha.1
    omega
  refine ⟨_, byLamp_sends st add_index _ task hby htold (by rw [h.executed_index]; exact Nat.zero_le _) rfl, ?_⟩
  intro frame hframe
  obtain ⟨k, hk, e, rfl⟩ := mem_lampFrames _ _ hframe
  exact lampFrame_own st h.code e ((IndexScan.mem_selected _).1 (List.mem_of_mem_take hk)).2.2

/-! ## Unicast tasks -/

/-- the frame to the `k`-th listed address -/
def listedFrame (task : Task) (k : ℕ) (c : Call) : PlcFrame :=
  dataFrame (unicastFrame { task with executed_index := k } (task.group_dev_id k)) task (31, st.sentRecord c.stackConfig)

/-- a unicast task sends what the stack holds -/
theorem listed_plays {task : Task} (h : ConfigTask task) (h2 : task.broadcast_type = 2) (add_index : ℕ) :
    Plays st add_index task ((List.range' 0 task.groupNum).map (listedFrame st task)) := by
  obtain ⟨hle, hids, _⟩ := groupNum_spec task
  unfold MAX_LAMP_GROUP_NUM at hle
  obtain ⟨hdev, htotal⟩ := h.unicast h2
  have hfill : Fills st (fun t => t.cmd_code = 0x01D0 ∧ t.broadcast_type = 2 ∧ t.dev_num = task.groupNum ∧
      t.executed_num < task.groupNum) fun c _ => (31, st.sentRecord c.stackConfig) := by
    intro c add_index t frame hP hb
    rw [combine_plain st _ _ _ _ _ hb (by rw [hP.1]; decide) (by rw [hP.1]; decide), userData_config st hP.1]
    rfl
  have hplays := unicast_plays st add_index (by decide : 0x01D0 ≠ 0x01D5) (by omega) (by omega) _ hfill
    task.group_dev_id ⟨le_rfl, le_rfl⟩ hids (.inr rfl) task.groupNum task h.code h2 hdev htotal rfl
    (by rw [h.executed_index, Nat.zero_add]) (by rw [h.executed_num, h.executed_index])
  rwa [h.executed_index] at hplays

theorem mem_played_listed {task : Task} {calls : ℕ → Call} {n : ℕ} {frame : PlcFrame} :
    frame ∈ played calls ((List.range' 0 n).map (listedFrame st task)) ↔
      ∃ k, k < n ∧ frame = listedFrame st task k (calls k) := by
  rw [mem_played]
  constructor
  · rintro ⟨k, f, hf, rfl⟩
    obtain ⟨j, hj, rfl⟩ := Option.map_eq_some_iff.1 (List.getElem?_map .. ▸ hf)
    have hk := (List.getElem?_eq_some_iff.1 hj).1
    rw [List.length_range'] at hk
    rw [List.getElem?_range' hk, Option.some.injEq, Nat.zero_add, Nat.one_mul] at hj
    exact ⟨k, hk, by rw [hj]⟩
  · rintro ⟨k, hk, rfl⟩
    refine ⟨k, listedFrame st task k, ?_, rfl⟩
    rw [List.getElem?_map, List.getElem?_range' hk, Nat.one_mul, Nat.zero_add]
    rfl

/-- so its frames are right where the stack is -/
theorem listed_own_iff {task : Task} (h : ConfigTask task) (h2 : task.broadcast_type = 2) (calls : ℕ → Call) (s : St)
    (hcalls : ∀ k, (calls k).msgs = []) (hw : Working s task) :
    Delivers st calls s (fun fs => ∀ frame ∈ fs, OwnRecord st frame) ↔ ∀ k, k < task.groupNum →
      st.RecordOf (task.group_dev_id k) (some (st.sentRecord (calls k).stackConfig)) := by
  rw [delivers_played_iff _ (listed_plays st h h2 s.add_index) hcalls hw]
  constructor
  · exact fun hown k hk => hown (listedFrame st task k (calls k)) ((mem_played_listed st).2 ⟨k, hk, rfl⟩) rfl
  · intro hall frame hframe
    obtain ⟨k, hk, rfl⟩ := (mem_played_listed st).1 hframe
    exact fun _ => hall k hk

/-! ## Main result -/

/-- **Synchronisation of the configuration.** Every unicast frame to a configured lamp carries its record, exactly in a
broadcast or group task, or where the stack happens to hold that record in each call that sends to a configured lamp. -/
theorem configSync_iff {msg : ServerFrameStruct} {task : Task} (h : lampSynchronizeConfig st msg = some task)
    (hc : task.cmd_code = 0x01D0) (ht : task.broadcast_type ≤ 2) (calls : ℕ → Call) (s : St)
    (hcalls : ∀ k, (calls k).msgs = []) (hw : Working s task) :
    Delivers st calls s (fun fs => ∀ frame ∈ fs, OwnRecord st frame) ↔
      task.broadcast_type ≠ 2 ∨ ∀ k, k < task.groupNum →
        st.RecordOf (task.group_dev_id k) (some (st.sentRecord (calls k).stackConfig)) := by
  have htask := configTask_of_sync h hc ht
  by_cases h2 : task.broadcast_type = 2
  · rw [listed_own_iff st htask h2 calls s hcalls hw]
    exact ⟨.inr, fun hall => hall.resolve_left (not_not.2 h2)⟩
  · obtain ⟨fs, hsends, hown⟩ := byLamp_own st htask h2 s.add_index
    rw [delivers_iff _ hsends hcalls hw]
    exact ⟨fun _ => .inl h2, fun _ => hown⟩

/-- `"0"`, `""`, `"0"`: the configuration for all lamps -/
def allConfigs : ServerFrameStruct := syncMsg [0x30] [] [0x30]

/-- `"2"`, `"00000064"`, `"0"`: the configuration for device 100 -/
def deviceConfig : ServerFrameStruct := syncMsg [0x32] [0x30, 0x30, 0x30, 0x30, 0x30, 0x30, 0x36, 0x34] [0x30]

/-- both lamps get their own -/
theorem configSync_all :
    Delivers (pairStore 1 1 2) (fun _ => .quiet) (.withTask (syncedTask (pairStore 1 1 2) allConfigs))
      fun fs => ∀ frame ∈ fs, OwnRecord (pairStore 1 1 2) frame :=
  (configSync_iff (pairStore 1 1 2) (syncedTask_eq (by decide +kernel)) (by decide +kernel) (by decide +kernel)
    (fun _ => .quiet) _ (fun _ => rfl) (working_withTask _)).2 (.inl (by decide +kernel))

/-- lamp 0, in group 1, is sent a record without groups -/
theorem stack_record_sent :
    lampSynchronizeConfig (pairStore 1 1 2) deviceConfig = some (syncedTask (pairStore 1 1 2) deviceConfig) ∧
    ¬ Delivers (pairStore 1 1 2) (fun _ => .quiet) (.withTask (syncedTask (pairStore 1 1 2) deviceConfig))
      fun fs => ∀ frame ∈ fs, OwnRecord (pairStore 1 1 2) frame := by
  have hsync := @syncedTask_eq (pairStore 1 1 2) deviceConfig (by decide +kernel)
  refine ⟨hsync, ?_⟩
  have htask := configTask_of_sync hsync (by decide +kernel) (by decide +kernel)
  rw [listed_own_iff _ htask (by decide +kernel) _ _ (fun _ => rfl) (working_withTask _)]
  intro hall
  obtain ⟨k, cfg, hcfg, -, hsame⟩ := hall 0 (by decide +kernel) ⟨0, _, rfl, by decide +kernel⟩
  have hconf : (if k = 0 then _ else if k = 1 then _ else none) = some cfg := selectLamp_config _ hcfg
  split_ifs at hconf <;> cases hconf <;> exact absurd hsame (by decide +kernel)

end DataConcentrator.Plc
