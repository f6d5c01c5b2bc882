/-
Scene synchronisation: the task `0x01D3` that `LampSynchronizeConfig` builds for type 1.

- `shared_scenes`, `unicast_scenes`: the frames of the broadcast and group task, and of the unicast task;
- `sceneSync_iff`: every scene reaches every addressed device exactly once, unless the task is a unicast one and there
  is more than one scene;
- `second_scene_unsent`: two scenes for one device.
-/
import DataConcentrator.Plc.Run

namespace DataConcentrator.Plc

open Protocol (ServerFrameStruct)

/-! ## The task -/

/-- a fresh task for the `N` stored scenes -/
structure SceneTask (st : Store) (N : ℕ) (task : Task) : Prop where
  code : task.cmd_code = 0x01D3
  execute_type : task.execute_type = 0
  executed_index : task.executed_index = 0
  executed_num : task.executed_num = 0
  group_num : task.group_num = task.groupNum
  total : task.execute_total_num = if task.broadcast_type = 2 then task.groupNum * N else N
  dev_num : task.broadcast_type = 2 → task.dev_num = task.groupNum
  type : task.broadcast_type ≤ 2

theorem sceneTask_of_sync {st : Store} {s : ServerFrameStruct} {task : Task}
    (h : lampSynchronizeConfig st s = some task) (hc : task.cmd_code = 0x01D3) (ht : task.broadcast_type ≤ 2)
    (hN : st.lampAppointmentNum ≤ 10) : SceneTask st st.lampAppointmentNum task := by
  obtain ⟨bt, ids, rfl⟩ := sync_scene h hc
  have hle := (groupNum_spec { Task.addressed bt ids with cmd_code := 0x01D3 }).1
  have hmul : (Task.addressed bt ids).groupNum * st.lampAppointmentNum < 65536 :=
    (Nat.mul_le_mul hle hN).trans_lt (by decide)
  have hshared := getTaskInfo_shared (fun id => id.toNat) st.lampAppointmentNum st
    { Task.addressed bt ids with cmd_code := 0x01D3 }
  have hunicast := getTaskInfo_unicast (fun id => id.toNat) st.lampAppointmentNum st
    { Task.addressed bt ids with cmd_code := 0x01D3 }
  rw [lampGetLampPlcExecuteTaskInfo1, getTaskInfo_frame] at ht ⊢
  refine ⟨rfl, rfl, rfl, rfl, rfl, ?_, fun h2 => (hunicast h2).1, ht⟩
  change bt ≤ 2 at ht
  show _ = if bt = 2 then (Task.addressed bt ids).groupNum * st.lampAppointmentNum else st.lampAppointmentNum
  split_ifs with h2
  · exact (hunicast h2).2.trans (Nat.mod_eq_of_lt hmul)
  · have h01 : bt = 0 ∨ bt = 1 := by omega
    exact (hshared h01 rfl).trans (Nat.mod_eq_of_lt (by omega))

/-! ## Frames -/

variable (st : Store) (add_index : ℕ)

/-- the frame that carries a scene, under a header -/
def sceneFrame (header : PlcFrame) (task : Task) (scene : List UInt8) : PlcFrame :=
  { header with cmd_code := task.frameCode, len := 95, buf := some (.bytes scene) }

/-- a scene task whose next scene is stored sends it -/
theorem carries_scene {P : Task → Prop} {scene : Task → List UInt8} (hc : ∀ t, P t → t.cmd_code = 0x01D3)
    (hscene : ∀ t, P t → st.lampAppointment (modeId t) = some (scene t)) :
    Carries st P fun t => (95, .bytes (scene t)) :=
  fun lamp_config stackMode add_index task _ hP hb =>
    combine_scene st lamp_config stackMode add_index task _ hb (hc task hP) (hscene task hP)

/-- one shared frame for each scene -/
theorem shared_scenes {N : ℕ} (hN : N ≤ 10) {scene : ℕ → List UInt8}
    (hscene : ∀ i < N, st.lampAppointment i = some (scene i)) {task : Task} (h : SceneTask st N task)
    (ht : task.broadcast_type ≤ 1) : Sends st add_index task
      ((List.range N).map fun e => sceneFrame (groupFrame task) task (scene e)) := by
  have hcar : Carries st (fun t => t.cmd_code = 0x01D3 ∧ t.broadcast_type ≤ 1 ∧ t.executed_num < N)
      fun t => (95, .bytes (scene t.executed_num)) := by
    refine carries_scene st (fun _ hP => hP.1) fun t hP => ?_
    have hmode : modeId t = t.executed_num := by
      rw [modeId, if_neg (by omega), Nat.mod_eq_of_lt (by omega)]
    rw [hmode]
    exact hscene _ hP.2.2
  have htot := h.total
  rw [if_neg (by omega)] at htot
  have hsends := shared_sends st add_index (by decide : 0x01D3 ≠ 0x01D5) (by omega) (fun e => (95, .bytes (scene e)))
    hcar N task h.code h.execute_type ht htot (by rw [h.executed_num]; omega)
  rw [h.executed_num, ← List.range_eq_range'] at hsends
  exact hsends

/-- a unicast task stops behind the last address of its list: the end of the list is not a reason to start again -/
theorem unicast_scenes {N : ℕ} (hN : 1 ≤ N ∧ N ≤ 10) {scene : List UInt8} (hscene : st.lampAppointment 0 = some scene)
    {task : Task} (h : SceneTask st N task) (h2 : task.broadcast_type = 2)
    (hend : task.group_dev_id task.groupNum = 0) : Sends st add_index task ((List.range task.groupNum).map fun k =>
      sceneFrame (unicastFrame { task with executed_index := k } (task.group_dev_id k)) task scene) := by
  obtain ⟨hle, hids, _⟩ := groupNum_spec task
  unfold MAX_LAMP_GROUP_NUM at hle
  have htot := h.total
  rw [if_pos h2] at htot
  have hspent : task.groupNum * 1 ≤ task.groupNum * N := Nat.mul_le_mul_left _ hN.1
  have hsmall : task.groupNum * N ≤ 10 * 10 := Nat.mul_le_mul hle hN.2
  have hcar : Carries st (fun t => t.cmd_code = 0x01D3 ∧ t.broadcast_type = 2 ∧ t.dev_num = task.groupNum ∧
      t.executed_num < task.groupNum) fun _ => (95, .bytes scene) := by
    refine carries_scene st (fun _ hP => hP.1) fun t hP => ?_
    have hmode : modeId t = 0 := by
      rw [modeId, if_pos hP.2.1, hP.2.2.1, Nat.div_eq_of_lt hP.2.2.2]
    rw [hmode]
    exact hscene
  have hsends := unicast_sends st add_index (by decide : 0x01D3 ≠ 0x01D5) (by omega) (by omega) _ hcar
    task.group_dev_id ⟨le_rfl, by omega⟩ hids (.inl hend) task.groupNum task h.code h2 (h.dev_num h2) htot rfl
    (by rw [h.executed_index]; omega) (by rw [h.executed_num, h.executed_index])
  rw [h.executed_index, ← List.range_eq_range'] at hsends
  exact hsends

/-! ## Deliveries -/

/-- the devices a task addresses: all, the members of its groups, or its listed devices -/
def Task.recipients (task : Task) : List Recipient :=
  match task.broadcast_type with
  | 0 => [.all]
  | 1 => [.groups ((List.range task.groupNum).map fun k => (task.group_dev_id k).toUInt8)]
  | _ => (List.range task.groupNum).map fun k => .device (task.group_dev_id k)

/-- every scene to every recipient -/
def Task.sceneDeliveries (task : Task) (scene : ℕ → List UInt8) (N : ℕ) : List (Option Recipient × Option Payload) :=
  (List.range N).flatMap fun i => task.recipients.map fun r => (some r, some (.bytes (scene i)))

theorem length_sceneDeliveries (task : Task) (scene : ℕ → List UInt8) (N : ℕ) :
    (task.sceneDeliveries scene N).length = N * task.recipients.length := by
  simp [Task.sceneDeliveries, List.length_flatMap]

/-- a shared frame reaches the one recipient of its task -/
theorem delivery_shared {task : Task} (hg : task.group_num = task.groupNum) (ht : task.broadcast_type ≤ 1)
    (scene : List UInt8) :
    [delivery (sceneFrame (groupFrame task) task scene)] =
      task.recipients.map fun r => (some r, some (.bytes scene)) := by
  rcases Nat.le_one_iff_eq_zero_or_eq_one.1 ht with h | h
  · simp [delivery, sceneFrame, groupFrame, PlcFrame.recipient, Task.recipients, h]
  · simp [delivery, sceneFrame, groupFrame, PlcFrame.recipient, Task.recipients, h, hg]

/-- the frames of the first round of a unicast task -/
theorem delivery_unicast {task : Task} (ht : task.broadcast_type = 2) (scene : List UInt8) :
    ((List.range task.groupNum).map fun k =>
      delivery (sceneFrame (unicastFrame { task with executed_index := k } (task.group_dev_id k)) task scene)) =
      task.recipients.map fun r => (some r, some (.bytes scene)) := by
  simp [delivery, sceneFrame, unicastFrame, PlcFrame.recipient, Task.recipients, ht]

/-- the frames of a scene task: all scenes where they are shared, the first scene where they are unicast -/
theorem scene_frames {N : ℕ} {task : Task} (h : SceneTask st N task) (hN : 1 ≤ N ∧ N ≤ 10) {scene : ℕ → List UInt8}
    (hscene : ∀ i < N, st.lampAppointment i = some (scene i))
    (hend : task.broadcast_type = 2 → task.group_dev_id task.groupNum = 0) :
    ∃ fs, Sends st add_index task fs ∧
      fs.map delivery = task.sceneDeliveries scene (if task.broadcast_type = 2 then 1 else N) := by
  by_cases h2 : task.broadcast_type = 2
  · refine ⟨_, unicast_scenes st add_index hN (hscene 0 (by omega)) h h2 (hend h2), ?_⟩
    rw [if_pos h2, List.map_map]
    refine (delivery_unicast h2 (scene 0)).trans ?_
    simp [Task.sceneDeliveries, List.range_succ]
  · have ht : task.broadcast_type ≤ 1 := by have := h.type; omega
    refine ⟨_, shared_scenes st add_index hN.2 hscene h ht, ?_⟩
    rw [if_neg h2, List.map_map, List.map_eq_flatMap]
    exact congrArg (List.flatMap · (List.range N)) (funext fun i => delivery_shared h.group_num ht (scene i))

/-- the run of a scene task -/
theorem scene_delivers {N : ℕ} {task : Task} (h : SceneTask st N task) (hN : 1 ≤ N ∧ N ≤ 10) {scene : ℕ → List UInt8}
    (hscene : ∀ i < N, st.lampAppointment i = some (scene i))
    (hlist : task.broadcast_type = 2 → 1 ≤ task.groupNum ∧ task.group_dev_id task.groupNum = 0)
    (calls : ℕ → Call) (s : St) (hcalls : ∀ k, (calls k).msgs = []) (hw : Working s task) :
    Delivers st calls s (fun fs => (fs.map delivery).Perm (task.sceneDeliveries scene N)) ↔
      task.broadcast_type ≠ 2 ∨ N = 1 := by
  obtain ⟨fs, hsends, hfs⟩ := scene_frames st s.add_index h hN hscene fun h2 => (hlist h2).2
  rw [delivers_iff _ hsends hcalls hw, hfs]
  constructor
  · intro hperm
    by_contra hnot
    obtain ⟨h2, h1⟩ : task.broadcast_type = 2 ∧ N ≠ 1 := by
      rw [not_or, not_not] at hnot
      exact hnot
    have hlen := hperm.length_eq
    have hrec : task.recipients.length = task.groupNum := by
      simp [Task.recipients, h2]
    rw [length_sceneDeliveries, length_sceneDeliveries, if_pos h2, hrec] at hlen
    have hpos := (hlist h2).1
    have hcancel : 1 = N := Nat.eq_of_mul_eq_mul_right hpos hlen
    omega
  · rintro (h2 | h1)
    · rw [if_neg h2]
    · subst h1
      split_ifs <;> exact List.Perm.refl _

/-- **Scene synchronisation.** Every stored scene reaches every addressed device exactly once before the task is
finished, except in a unicast task with two or more scenes. -/
theorem sceneSync_iff {msg : ServerFrameStruct} {task : Task} {scene : ℕ → List UInt8}
    (h : lampSynchronizeConfig st msg = some task) (hc : task.cmd_code = 0x01D3)
    (hN : 1 ≤ st.lampAppointmentNum ∧ st.lampAppointmentNum ≤ 10)
    (hscene : ∀ i < st.lampAppointmentNum, st.lampAppointment i = some (scene i))
    (ht : task.broadcast_type ≤ 2)
    (hlist : task.broadcast_type = 2 → 1 ≤ task.groupNum ∧ task.group_dev_id task.groupNum = 0)
    (calls : ℕ → Call) (s : St) (hcalls : ∀ k, (calls k).msgs = []) (hw : Working s task) :
    Delivers st calls s (fun fs => (fs.map delivery).Perm (task.sceneDeliveries scene st.lampAppointmentNum)) ↔
      task.broadcast_type ≠ 2 ∨ st.lampAppointmentNum = 1 :=
  scene_delivers st (sceneTask_of_sync h hc ht hN.2) hN hscene hlist calls s hcalls hw

/-- two scenes of one byte -/
def twoScenes : Store :=
  { Store.empty with
    lampAppointmentNum := 2
    lampAppointment := fun i => if i < 2 then some [UInt8.ofNat i] else none }

/-- `"1"`, `"1,2"`, `"1"`: the scenes for groups 1 and 2 -/
def groupScenes : ServerFrameStruct := syncMsg [0x31] [0x31, 0x2C, 0x32] [0x31]

/-- `"2"`, `"0000000A"`, `"1"`: the scenes for device 10 -/
def deviceScenes : ServerFrameStruct := syncMsg [0x32] [0x30, 0x30, 0x30, 0x30, 0x30, 0x30, 0x30, 0x41] [0x31]

theorem twoScenes_stored (i : ℕ) (h : i < twoScenes.lampAppointmentNum) :
    twoScenes.lampAppointment i = some [UInt8.ofNat i] := if_pos h

/-- both scenes reach the two groups -/
theorem sceneSync_groups :
    Delivers twoScenes (fun _ => .quiet) (.withTask (syncedTask twoScenes groupScenes))
      (fun fs => (fs.map delivery).Perm
        ((syncedTask twoScenes groupScenes).sceneDeliveries (fun i => [UInt8.ofNat i]) 2)) :=
  (sceneSync_iff twoScenes (syncedTask_eq (by decide +kernel)) (by decide +kernel) (by decide) twoScenes_stored
    (by decide +kernel) (fun h => absurd h (by decide +kernel)) (fun _ => .quiet) _ (fun _ => rfl)
    (working_withTask _)).2 (.inl (by decide +kernel))

/-- device 10 is sent the first scene only -/
theorem second_scene_unsent :
    lampSynchronizeConfig twoScenes deviceScenes = some (syncedTask twoScenes deviceScenes) ∧
      ¬ Delivers twoScenes (fun _ => .quiet) (.withTask (syncedTask twoScenes deviceScenes))
        (fun fs => (fs.map delivery).Perm
          ((syncedTask twoScenes deviceScenes).sceneDeliveries (fun i => [UInt8.ofNat i]) 2)) := by
  have hsync : lampSynchronizeConfig twoScenes deviceScenes = some (syncedTask twoScenes deviceScenes) :=
    syncedTask_eq (by decide +kernel)
  refine ⟨hsync, fun hdel => ?_⟩
  have htask := sceneTask_of_sync hsync (by decide +kernel) (by decide +kernel) (by decide)
  rcases (scene_delivers twoScenes htask (by decide) twoScenes_stored (fun _ => by decide +kernel) _ _
    (fun _ => rfl) (working_withTask _)).1 hdel with h | h
  · exact absurd h (by decide +kernel)
  · exact absurd h (by decide)

end DataConcentrator.Plc
