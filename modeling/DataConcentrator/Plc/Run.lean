/-
Runs of a task that no state message interrupts.

- `Sends`: what a task sends until it finishes, as a derivation with one step for each frame;
- `shared_sends`, `unicast_sends`: the frames of a broadcast or group task, and of a unicast task;
- `plays_run`: calls follow the derivation, whatever the devices answer and whatever is queued meanwhile, and end with
  what every frame and every answer keep;
- `delivers_iff`: so a property of the frames sent until the task is finished is a property of that list.
-/
import DataConcentrator.Plc.Execute

namespace DataConcentrator.Plc

/-! ## The frames of a task -/

/-- the task once its frame has been answered -/
def Task.answered (task : Task) (r : Response) : Task := { task with state := r.state }.settle

theorem answered_state (task : Task) (r : Response) : (task.answered r).state = .start := by
  unfold Task.answered Task.settle
  cases r <;> simp [Response.state]

/-- an answer changes the state and the result counters only -/
theorem answered_frame (task : Task) (r : Response) : ∃ success failed timeout, task.answered r =
    { task with state := .start, success_num := success, failed_num := failed, timeout_num := timeout } := by
  by_cases h : task.execute_type = 1 ∨ task.execute_type = 2 <;> cases r <;>
    simp only [Task.answered, Task.settle, Task.count, Response.state, h, if_true, if_false, List.mem_cons,
      List.not_mem_nil, reduceCtorEq, or_true, or_false] <;>
    exact ⟨_, _, _, rfl⟩

/-- the next call ends the task -/
def Built.ends : Built → Prop
  | .finished _ _ => True
  | .built task _ got_frame _ => got_frame = false ∧ task.state = .finished

/-- `Sends st add_index task fs`: with nothing to interrupt it, the task sends `fs` and is finished -/
inductive Sends (st : Store) : ℕ → Task → List PlcFrame → Prop
  | finished {add_index : ℕ} {task : Task} (h : ∀ c, (build st c add_index task).ends) : Sends st add_index task []
  | sent {add_index add_index' : ℕ} {task task' : Task} {frame : PlcFrame} {fs : List PlcFrame}
      (h : ∀ c, build st c add_index task = .built task' frame true add_index')
      (hfs : ∀ r, Sends st add_index' (task'.answered r) fs) : Sends st add_index task (frame :: fs)

/-- the same, where a frame may hold what the call finds on the stack -/
inductive Plays (st : Store) : ℕ → Task → List (Call → PlcFrame) → Prop
  | finished {add_index : ℕ} {task : Task} (h : ∀ c, (build st c add_index task).ends) : Plays st add_index task []
  | sent {add_index add_index' : ℕ} {task task' : Task} {frame : Call → PlcFrame} {fs : List (Call → PlcFrame)}
      (h : ∀ c, build st c add_index task = .built task' (frame c) true add_index')
      (hfs : ∀ r, Plays st add_index' (task'.answered r) fs) : Plays st add_index task (frame :: fs)

theorem Sends.plays {st : Store} {add_index : ℕ} {task : Task} {fs : List PlcFrame} (h : Sends st add_index task fs) :
    Plays st add_index task (fs.map fun frame _ => frame) := by
  induction h with
  | finished hends => exact .finished hends
  | sent hb _ ih => exact .sent hb ih

theorem Plays.sends {st : Store} {fs : List PlcFrame} : ∀ {add_index : ℕ} {task : Task},
    Plays st add_index task (fs.map fun frame _ => frame) → Sends st add_index task fs := by
  induction fs with
  | nil =>
    intro add_index task h
    cases h with
    | finished hends => exact .finished hends
  | cons frame fs ih =>
    intro add_index task h
    cases h with
    | sent hb hfs => exact .sent hb fun r => ih (hfs r)

/-- the frames of a derivation, one a call -/
def played (calls : ℕ → Call) : List (Call → PlcFrame) → List PlcFrame
  | [] => []
  | frame :: fs => frame (calls 0) :: played (fun k => calls (k + 1)) fs

theorem played_const (fs : List PlcFrame) : ∀ calls, played calls (fs.map fun frame _ => frame) = fs := by
  induction fs with
  | nil => exact fun _ => rfl
  | cons frame fs ih => exact fun calls => congrArg (frame :: ·) (ih _)

theorem mem_played {fs : List (Call → PlcFrame)} {frame : PlcFrame} : ∀ {calls : ℕ → Call},
    frame ∈ played calls fs ↔ ∃ (k : ℕ) (f : Call → PlcFrame), fs[k]? = some f ∧ frame = f (calls k) := by
  induction fs with
  | nil => simp [played]
  | cons f fs ih =>
    intro calls
    rw [played, List.mem_cons, ih]
    constructor
    · rintro (rfl | ⟨k, g, hg, rfl⟩)
      · exact ⟨0, f, rfl, rfl⟩
      · exact ⟨k + 1, g, by rwa [List.getElem?_cons_succ], rfl⟩
    · rintro ⟨k, g, hg, rfl⟩
      cases k with
      | zero =>
        rw [List.getElem?_cons_zero, Option.some.injEq] at hg
        exact .inl (by rw [hg])
      | succ k => exact .inr ⟨k, g, by rwa [List.getElem?_cons_succ] at hg, rfl⟩

/-- the task after the branches that choose a frame -/
def Built.task : Built → Task
  | .finished task _ => task
  | .built task _ _ _ => task

/-- kept by the counters of a search and by filling a frame -/
structure Steady (st : Store) (P : Task → Prop) : Prop where
  counters : ∀ task e i, P task → P { task with executed_num := e, executed_index := i }
  combine : ∀ lamp_config stackMode add_index task frame, P task →
    P (combinePlcUserFrame st lamp_config stackMode add_index task frame).task

/-- a continuation that keeps `P` keeps it after any branch -/
theorem bind_keeps {P : Task → Prop} {b : Built} {f : Task → PlcFrame → Bool → ℕ → Built} (hb : P b.task)
    (hf : ∀ task frame got add_index, P task → P (f task frame got add_index).task) : P (b.bind f).task := by
  cases b with
  | finished task add_index => exact hb
  | built task frame got add_index => exact hf task frame got add_index hb

namespace Steady

variable {st : Store} {P : Task → Prop} (h : Steady st P) (c : Call)
include h

theorem countedFrame (lamp_config : LampConfig) (add_index : ℕ) {task : Task} (frame : PlcFrame) (hP : P task) :
    P (countedFrame st lamp_config c add_index task frame).task := by
  unfold Plc.countedFrame
  split_ifs
  · exact h.counters _ _ _ (h.combine lamp_config c.stackMode add_index task frame hP)
  · exact hP

theorem readDeviceConf (wanted : LampConfig → Bool) (fuel : ℕ) :
    ∀ {task : Task} (frame : PlcFrame) (got : Bool) (add_index : ℕ), P task →
      P (readDeviceConf st c wanted fuel task frame got add_index).task := by
  induction fuel with
  | zero => exact fun _ _ _ hP => hP
  | succ fuel ih =>
    intro task frame got add_index hP
    rw [Plc.readDeviceConf]
    refine bind_keeps ?_ fun task frame got add_index hP => ?_
    · split
      · exact h.countedFrame c _ add_index _ hP
      · exact hP
    · have hnext := h.counters task task.executed_num (inc16 task.executed_index) hP
      dsimp only
      split_ifs
      · exact hnext
      · exact ih frame got add_index hnext
      · exact hnext

end Steady

/-- `I n` is kept while frames are chosen, and a frame answered with one of `R` makes it `I (n + 1)` -/
structure Invariant (st : Store) (R : Response → Prop) (I : ℕ → Task → Prop) : Prop where
  build : ∀ n c add_index task, I n task → I n (build st c add_index task).task
  answered : ∀ n task r, R r → I n task → I (n + 1) (task.answered r)

/-! ## One call -/

/-- a call that meets nothing new and a device that answers -/
def Call.quiet : Call := ⟨[], [], .success, 0, false, ⟨0, [], fun _ => 0⟩, 0⟩

def Event.frame? : Event → Option PlcFrame
  | .sent frame => some frame
  | _ => none

def St.frames (s : St) : List PlcFrame := s.trace.filterMap Event.frame?

@[simp] theorem frames_log_sent (s : St) (frame : PlcFrame) : (s.log (.sent frame)).frames = s.frames ++ [frame] := by
  simp [St.frames, St.log, Event.frame?]

@[simp] theorem frames_log_finished (s : St) (task : Task) : (s.log (.finished task)).frames = s.frames := by
  simp [St.frames, St.log, Event.frame?]

@[simp] theorem frames_notify (s : St) (task : Task) : (s.notify task).frames = s.frames := by
  unfold St.notify
  split_ifs <;> simp [St.frames, St.log, Event.frame?]

/-- notices change the trace only -/
theorem notify_frame (s : St) (task : Task) : s.notify task = { s with trace := (s.notify task).trace } := by
  unfold St.notify
  split_ifs <;> rfl

@[simp] theorem settle_progress (s : St) (task : Task) : (s.settle task).task_progress = some task.settle := rfl

@[simp] theorem settle_add_index (s : St) (task : Task) : (s.settle task).add_index = s.add_index := by
  unfold St.settle
  split_ifs
  · rw [notify_frame]
  · rfl

@[simp] theorem settle_msgs (s : St) (task : Task) : (s.settle task).msgs = s.msgs := by
  unfold St.settle
  split_ifs
  · rw [notify_frame]
  · rfl

@[simp] theorem frames_settle (s : St) (task : Task) : (s.settle task).frames = s.frames := by
  unfold St.settle
  split_ifs
  · exact frames_notify s _
  · rfl

/-- `s'` is `s` after a call that left the task finished and sent nothing -/
structure Finished (s s' : St) : Prop where
  progress : s'.task_progress = none
  frames : s'.frames = s.frames

/-- the task as it is reported at the end -/
def Task.ended (task : Task) (spent_time : ℕ) : Task := { task with state := .finished, spent_time := spent_time }

/-- a finish with a clean `frame.buf` and a task in progress goes through -/
theorem finishTask_ok (c : Call) (s : St) {task : Task} (h : s.task_progress = some task) :
    ∃ s' spent, finishTask c false s = .ok s' ∧ Finished s s' ∧
      s'.trace.getLast? = some (.finished (task.ended spent)) := by
  rw [finishTask, if_neg (by simp), h]
  refine ⟨_, (c.tick + 65536 - s.time_sec % 65536) % 65536, rfl, ⟨rfl, ?_⟩, List.getLast?_concat⟩
  rw [frames_log_finished]
  exact frames_notify s _

/-- `s'` is `s` after a call that sent `frame` and left `task` in progress -/
structure Sent (frame : PlcFrame) (task : Task) (add_index : ℕ) (s s' : St) : Prop where
  progress : s'.task_progress = some task
  add_index : s'.add_index = add_index
  msgs : s'.msgs = s.msgs
  frames : s'.frames = s.frames ++ [frame]

theorem execute_ends (st : Store) (c : Call) (s : St) (task : Task) (h : s.task_progress = some task)
    (hb : (build st c s.add_index task).ends) : ∃ s' spent, execute st c s = .ok s' ∧ Finished s s' ∧
      s'.trace.getLast? = some (.finished ((build st c s.add_index task).task.ended spent)) := by
  rw [execute, h]
  dsimp only
  cases hbuild : build st c s.add_index task with
  | finished task' a =>
    obtain ⟨s', spent, hs', ⟨hp, hf⟩, hlast⟩ :=
      @finishTask_ok c { s with task_progress := some task', add_index := a } task' rfl
    exact ⟨s', spent, hs', ⟨hp, hf⟩, hlast⟩
  | built task' frame got a =>
    rw [hbuild] at hb
    obtain ⟨rfl, hstate⟩ := hb
    have hsettle : task'.settle = task' := by
      unfold Task.settle
      rw [if_neg (by rw [hstate]; decide)]
    obtain ⟨s', spent, hs', ⟨hp, hf⟩, hlast⟩ :=
      finishTask_ok c ({ s with task_progress := some task, add_index := a }.settle task') (settle_progress _ _)
    refine ⟨s', spent, ?_, ⟨hp, ?_⟩, ?_⟩
    · dsimp only
      rw [if_neg (by simp), conclude, if_pos (by rw [hsettle, hstate])]
      exact hs'
    · rw [hf, frames_settle]
      rfl
    · rw [hlast, hsettle]
      rfl

theorem execute_sent (st : Store) (c : Call) (s : St) (task task' : Task) (frame : PlcFrame) (add_index : ℕ)
    (h : s.task_progress = some task) (hb : build st c s.add_index task = .built task' frame true add_index) :
    ∃ s', execute st c s = .ok s' ∧ Sent frame (task'.answered c.response) add_index s s' := by
  have hstate : ({ task' with state := c.response.state } : Task).settle.state = .start := answered_state task' c.response
  rw [execute, h]
  dsimp only
  rw [hb]
  dsimp only
  rw [if_pos rfl, conclude, if_neg (by rw [hstate]; decide)]
  refine ⟨_, rfl, settle_progress _ _, settle_add_index _ _, settle_msgs _ _, ?_⟩
  rw [frames_settle]
  exact frames_log_sent _ frame

/-! ## What a frame delivers -/

/-- who reads a frame: `type`, and the address or the groups sent with it -/
inductive Recipient where
  | all
  | groups (ids : List UInt8)
  | device (address : UInt32)
deriving DecidableEq

def PlcFrame.recipient (frame : PlcFrame) : Option Recipient :=
  match frame.type with
  | 0 => some .all
  | 1 => some (.groups (frame.group_id.take frame.group_num))
  | 2 => some (.device frame.address)
  | _ => none

/-- what a frame delivers, and to whom -/
def delivery (frame : PlcFrame) : Option Recipient × Option Payload := (frame.recipient, frame.buf)

/-! ## Tasks with one kind of data -/

/-- the frame of a task with its data -/
def dataFrame (header : PlcFrame) (task : Task) (data : ℕ × Payload) : PlcFrame :=
  { header with cmd_code := task.frameCode }.load (some data)

/-- tasks with `P` fill a frame with the data that `data` gives, and are left as they are -/
def Carries (st : Store) (P : Task → Prop) (data : Task → ℕ × Payload) : Prop :=
  ∀ lamp_config stackMode add_index task frame, P task → frame.buf = none →
    combinePlcUserFrame st lamp_config stackMode add_index task frame =
      ⟨true, dataFrame frame task (data task), task, add_index⟩

/-- the same, where the data may be what the call finds on the stack -/
def Fills (st : Store) (P : Task → Prop) (data : Call → Task → ℕ × Payload) : Prop :=
  ∀ c add_index task frame, P task → frame.buf = none →
    combinePlcUserFrame st c.stackConfig c.stackMode add_index task frame =
      ⟨true, dataFrame frame task (data c task), task, add_index⟩

theorem Carries.fills {st : Store} {P : Task → Prop} {data : Task → ℕ × Payload} (h : Carries st P data) :
    Fills st P fun _ => data :=
  fun c => h c.stackConfig c.stackMode

section Counted

variable (st : Store) (add_index : ℕ)

/-- a frame within the budget -/
theorem countedFrame_fills {P : Task → Prop} {data : Call → Task → ℕ × Payload} (hcar : Fills st P data) (c : Call)
    {task : Task} {header : PlcFrame} (hP : P task) (hb : header.buf = none)
    (hlt : task.executed_num < task.execute_total_num) (htot : task.execute_total_num < 65536) :
    countedFrame st c.stackConfig c add_index task header =
      .built { task with executed_num := task.executed_num + 1 } (dataFrame header task (data c task)) true add_index := by
  have hinc : inc16 task.executed_num = task.executed_num + 1 := inc16_of_lt (by omega)
  rw [countedFrame, if_pos hlt, hcar _ _ _ _ hP hb]
  simp only [hinc]

/-- a task that shares its frames goes on as long as its budget lasts -/
theorem build_shared (c : Call) {task : Task} (hc : task.cmd_code ≠ 0x01D5) (he : task.execute_type = 0)
    (ht : task.broadcast_type ≤ 1) : build st c add_index task = buildOnce st c add_index task := by
  rw [build, if_neg hc]
  rcases Nat.le_one_iff_eq_zero_or_eq_one.1 ht with h | h
  · rw [if_pos h, if_pos he]
  · rw [if_neg (by rw [h]; decide), if_pos h, if_pos he]

theorem build_unicast (c : Call) {task : Task} (hc : task.cmd_code ≠ 0x01D5) (ht : task.broadcast_type = 2) :
    build st c add_index task = buildUnicast st c add_index task := by
  rw [build, if_neg hc, if_neg (by rw [ht]; decide), if_neg (by rw [ht]; decide), if_pos ht]

variable {code : ℕ} (hcode : code ≠ 0x01D5)

include hcode

/-- one shared frame for each round left -/
theorem shared_sends {N : ℕ} (hN : N < 65536) (data : ℕ → ℕ × Payload)
    (hcar : Carries st (fun t => t.cmd_code = code ∧ t.broadcast_type ≤ 1 ∧ t.executed_num < N)
      fun t => data t.executed_num) (n : ℕ) : ∀ task : Task,
    task.cmd_code = code → task.execute_type = 0 → task.broadcast_type ≤ 1 → task.execute_total_num = N →
    task.executed_num + n = N →
    Sends st add_index task
      ((List.range' task.executed_num n).map fun e => dataFrame (groupFrame task) task (data e)) := by
  induction n with
  | zero =>
    intro task hc he ht htot hn
    refine .finished fun c => ?_
    rw [build_shared st add_index c (by rwa [hc]) he ht, buildOnce, countedFrame, if_neg (by dsimp only; omega)]
    trivial
  | succ n ih =>
    intro task hc he ht htot hn
    have hbuild : ∀ c, build st c add_index task =
        .built { task with success_num := task.dev_num, failed_num := 0, executed_num := task.executed_num + 1 }
          (dataFrame (groupFrame task) task (data task.executed_num)) true add_index := by
      intro c
      rw [build_shared st add_index c (by rwa [hc]) he ht, buildOnce]
      exact @countedFrame_fills st add_index _ _ hcar.fills c { task with success_num := task.dev_num, failed_num := 0 } _
        ⟨hc, ht, by dsimp only; omega⟩ (groupFrame_buf task) (by dsimp only; omega) (by dsimp only; omega)
    rw [List.range'_succ, List.map_cons]
    refine .sent hbuild fun r => ?_
    obtain ⟨x, y, z, hr⟩ := answered_frame
      { task with success_num := task.dev_num, failed_num := 0, executed_num := task.executed_num + 1 } r
    rw [hr]
    exact ih _ hc he ht htot (by dsimp only; omega)

/-- a unicast task serves its list once: at the zero behind the list, or when its budget is spent, it stops -/
theorem unicast_plays {D E m : ℕ} (hD : D < 65535) (hE : E < 65536) (data : Call → ℕ × Payload)
    (hcar : Fills st (fun t => t.cmd_code = code ∧ t.broadcast_type = 2 ∧ t.dev_num = D ∧ t.executed_num < D)
      fun c _ => data c)
    (ids : ℕ → UInt32) (hm : m ≤ D ∧ m ≤ E) (hids : ∀ k < m, ids k ≠ 0) (hend : ids m = 0 ∨ m = E) (n : ℕ) :
    ∀ task : Task, task.cmd_code = code → task.broadcast_type = 2 → task.dev_num = D → task.execute_total_num = E →
    task.group_dev_id = ids → task.executed_index + n = m → task.executed_num = task.executed_index →
    Plays st add_index task ((List.range' task.executed_index n).map fun k c =>
      dataFrame (unicastFrame { task with executed_index := k } (ids k)) task (data c)) := by
  induction n with
  | zero =>
    intro task hc ht hdev htot hg hn hnum
    refine .finished fun c => ?_
    rw [build_unicast st add_index c (by rwa [hc]) ht, buildUnicast]
    dsimp only
    split_ifs with hzero
    · -- the budget is spent: the list goes on
      have hspent : m = E := hend.resolve_left (by rwa [hg, show task.executed_index = m by omega] at hzero)
      rw [countedFrame, if_neg (by omega)]
      trivial
    · trivial
  | succ n ih =>
    intro task hc ht hdev htot hg hn hnum
    have hlt : task.executed_index < m := by omega
    have hinc : inc16 task.executed_index = task.executed_index + 1 := inc16_of_lt (by omega)
    have hstep : ∀ c, build st c add_index task =
        .built { task with executed_num := task.executed_num + 1, executed_index := task.executed_index + 1 }
          (dataFrame (unicastFrame task (ids task.executed_index)) task (data c)) true add_index := by
      intro c
      rw [build_unicast st add_index c (by rwa [hc]) ht, buildUnicast]
      dsimp only
      rw [if_pos (by rw [hg]; exact hids _ hlt), hg,
        countedFrame_fills st add_index hcar c ⟨hc, ht, hdev, by omega⟩ rfl (by omega) (by omega)]
      simp only [Built.bind, hinc]
      rw [if_neg (by omega), ← hg]
    rw [List.range'_succ, List.map_cons]
    refine .sent hstep fun r => ?_
    obtain ⟨x, y, z, hr⟩ := answered_frame
      { task with executed_num := task.executed_num + 1, executed_index := task.executed_index + 1 } r
    rw [hr]
    exact ih _ hc ht hdev htot hg (by dsimp only; omega) (by dsimp only; omega)

theorem unicast_sends {D E m : ℕ} (hD : D < 65535) (hE : E < 65536) (data : ℕ × Payload)
    (hcar : Carries st (fun t => t.cmd_code = code ∧ t.broadcast_type = 2 ∧ t.dev_num = D ∧ t.executed_num < D)
      fun _ => data)
    (ids : ℕ → UInt32) (hm : m ≤ D ∧ m ≤ E) (hids : ∀ k < m, ids k ≠ 0) (hend : ids m = 0 ∨ m = E) (n : ℕ)
    (task : Task) (hc : task.cmd_code = code) (ht : task.broadcast_type = 2) (hdev : task.dev_num = D)
    (htot : task.execute_total_num = E) (hg : task.group_dev_id = ids) (hn : task.executed_index + n = m)
    (hnum : task.executed_num = task.executed_index) :
    Sends st add_index task ((List.range' task.executed_index n).map fun k =>
      dataFrame (unicastFrame { task with executed_index := k } (ids k)) task data) := by
  refine Plays.sends ?_
  rw [List.map_map]
  exact unicast_plays st add_index hcode hD hE (fun _ => data) hcar.fills ids hm hids hend n task hc ht hdev htot hg hn hnum

end Counted

/-! ## Runs -/

/-- nothing but `task` in the queue -/
def St.withTask (task : Task) : St := ⟨[task], [], none, none, 0, 0, []⟩

/-- no state message waits, and `task` is in progress or is the next to be taken -/
structure Working (s : St) (task : Task) : Prop where
  quiet : s.msgs = []
  current : s.task_progress = some task ∨ s.task_progress = none ∧ s.tasks.head? = some task

theorem working_withTask (task : Task) : Working (.withTask task) task := ⟨rfl, .inr ⟨rfl, rfl⟩⟩

/-- a call without a message goes on with the task -/
theorem recv_working (st : Store) (c : Call) (s : St) (task : Task) (h : Working s task) (hc : c.msgs = []) :
    ∃ s1, recvAndExecute st s c = execute st c s1 ∧ s1.task_progress = some task ∧ s1.add_index = s.add_index ∧
      s1.msgs = [] ∧ s1.frames = s.frames := by
  have hmsgs : (s.arrive c).msgs = [] := by simp [St.arrive, h.quiet, hc]
  rcases h.current with hp | ⟨hp, ht⟩
  · have hrecv : receiveTask c (s.arrive c) = s.arrive c := by
      unfold receiveTask
      simp [St.arrive, hp]
    exact ⟨s.arrive c, by rw [recvAndExecute, hrecv, hmsgs], hp, rfl, hmsgs, rfl⟩
  · obtain ⟨rest, hrest⟩ : ∃ rest, s.tasks = task :: rest := by
      cases hs : s.tasks with
      | nil => simp [hs] at ht
      | cons t rest => exact ⟨rest, by simp_all⟩
    have hrecv : receiveTask c (s.arrive c) =
        { s.arrive c with tasks := rest ++ c.tasks, task_progress := some task, time_sec := c.tick }.notify task := by
      unfold receiveTask
      simp [St.arrive, hp, hrest]
    refine ⟨receiveTask c (s.arrive c), ?_, ?_, ?_, ?_, ?_⟩
    · rw [recvAndExecute, hrecv, notify_frame]
      simp only [hmsgs]
    · rw [hrecv, notify_frame]
    · rw [hrecv, notify_frame]; rfl
    · rw [hrecv, notify_frame]; exact hmsgs
    · rw [hrecv, frames_notify]; rfl

theorem after_succ (st : Store) (calls : ℕ → Call) (s : St) (n : ℕ) :
    after st calls s (n + 1) = (recvAndExecute st s (calls 0)).bind fun s1 => after st (fun k => calls (k + 1)) s1 n := by
  induction n with
  | zero =>
    show (after st calls s 0).bind _ = _
    cases h : recvAndExecute st s (calls 0) with
    | error e => exact h
    | ok s1 => exact h
  | succ n ih =>
    rw [after, ih]
    cases recvAndExecute st s (calls 0) with
    | error e => rfl
    | ok s1 => rfl

/-- the `n`-th call is the one that finishes the task -/
structure FinishesAt (st : Store) (calls : ℕ → Call) (s : St) (n : ℕ) (s' : St) : Prop where
  pos : 0 < n
  run : after st calls s n = .ok s'
  done : s'.task_progress = none
  first : ∀ m, 0 < m → m < n → ∃ t, after st calls s m = .ok t ∧ t.task_progress ≠ none

theorem FinishesAt.unique {st : Store} {calls : ℕ → Call} {s s1 s2 : St} {n1 n2 : ℕ}
    (h1 : FinishesAt st calls s n1 s1) (h2 : FinishesAt st calls s n2 s2) : s1 = s2 := by
  rcases Nat.lt_trichotomy n1 n2 with hlt | rfl | hlt
  · obtain ⟨t, ht, hp⟩ := h2.first n1 h1.pos hlt
    rw [h1.run] at ht
    cases ht
    exact absurd h1.done hp
  · have hrun := h1.run
    rw [h2.run] at hrun
    cases hrun
    rfl
  · obtain ⟨t, ht, hp⟩ := h1.first n2 h2.pos hlt
    rw [h2.run] at ht
    cases ht
    exact absurd h2.done hp

/-- **Run of a task.** The calls send the frames of the derivation and then finish the task, which keeps its
invariant. -/
theorem plays_run {st : Store} {R : Response → Prop} {I : ℕ → Task → Prop} (hI : Invariant st R I) {add_index : ℕ}
    {task : Task} {fs : List (Call → PlcFrame)} (h : Plays st add_index task fs) :
    ∀ (i : ℕ) (calls : ℕ → Call) (s : St), (∀ k, (calls k).msgs = []) → (∀ k, R (calls k).response) → Working s task →
      s.add_index = add_index → I i task →
      ∃ n s' done spent, FinishesAt st calls s n s' ∧ s'.frames = s.frames ++ played calls fs ∧
        I (i + fs.length) done ∧ s'.trace.getLast? = some (.finished (done.ended spent)) := by
  induction h with
  | finished hends =>
    intro i calls s hcalls _ hw ha hi
    obtain ⟨s1, hrecv, hp, ha1, _, hf1⟩ := recv_working st (calls 0) s _ hw (hcalls 0)
    obtain ⟨s', spent, hs', hfin, hlast⟩ :=
      execute_ends st (calls 0) s1 _ hp (by rw [ha1, ha]; exact hends (calls 0))
    refine ⟨1, s', _, spent, ⟨Nat.one_pos, ?_, hfin.progress, fun m h0 h1 => by omega⟩, ?_, ?_, hlast⟩
    · exact hrecv.trans hs'
    · rw [hfin.frames, hf1, played, List.append_nil]
    · exact hI.build i _ _ _ hi
  | @sent add add' _ task' frame fs hb _ ih =>
    intro i calls s hcalls hR hw ha hi
    obtain ⟨s1, hrecv, hp, ha1, hm1, hf1⟩ := recv_working st (calls 0) s _ hw (hcalls 0)
    obtain ⟨s2, hs2, hsent⟩ :=
      execute_sent st (calls 0) s1 _ task' (frame (calls 0)) add' hp (by rw [ha1, ha]; exact hb (calls 0))
    have hcall : recvAndExecute st s (calls 0) = .ok s2 := hrecv.trans hs2
    have hkept := hI.build i (calls 0) add _ hi
    rw [hb (calls 0)] at hkept
    obtain ⟨n, s', done, spent, hfin, hframes, hdone, hlast⟩ := ih (calls 0).response (i + 1)
      (fun k => calls (k + 1)) s2 (fun k => hcalls (k + 1)) (fun k => hR (k + 1))
      ⟨hsent.msgs.trans hm1, .inl hsent.progress⟩ hsent.add_index (hI.answered i _ _ (hR 0) hkept)
    refine ⟨n + 1, s', done, spent, ⟨Nat.succ_pos n, ?_, hfin.done, ?_⟩, ?_, ?_, hlast⟩
    · rw [after_succ, hcall]
      exact hfin.run
    · intro m h0 hm
      obtain ⟨k, rfl⟩ : ∃ k, m = k + 1 := ⟨m - 1, by omega⟩
      rw [after_succ, hcall]
      rcases Nat.eq_zero_or_pos k with rfl | hk
      · exact ⟨s2, rfl, by rw [hsent.progress]; simp⟩
      · exact hfin.first k hk (by omega)
    · rw [hframes, hsent.frames, hf1, List.append_assoc]
      rfl
    · rwa [List.length_cons, Nat.add_comm fs.length 1, ← Nat.add_assoc]

/-- nothing is asked of the answers or the task -/
theorem invariant_true (st : Store) : Invariant st (fun _ => True) fun _ _ => True :=
  ⟨fun _ _ _ _ _ => trivial, fun _ _ _ _ _ => trivial⟩

/-- a task that gets no frame and is not finished stays in progress -/
theorem idle_run (st : Store) {task : Task} (hstate : task.state = .start)
    (hbuild : ∀ c add_index, build st c add_index task = .built task .zero false add_index) (calls : ℕ → Call) (s : St)
    (hcalls : ∀ k, (calls k).msgs = []) (hw : Working s task) (n : ℕ) :
    ∃ s', after st calls s n = .ok s' ∧ Working s' task ∧ (0 < n → s'.task_progress = some task) := by
  have hsettle : task.settle = task := by
    unfold Task.settle
    rw [if_neg (by rw [hstate]; decide)]
  induction n with
  | zero => exact ⟨s, rfl, hw, fun h => absurd h (lt_irrefl 0)⟩
  | succ n ih =>
    obtain ⟨t, ht, hwt, _⟩ := ih
    obtain ⟨s1, hrecv, hp, _, hm, _⟩ := recv_working st (calls n) t task hwt (hcalls n)
    have hp2 : (s1.settle task).task_progress = some task := by rw [settle_progress, hsettle]
    refine ⟨s1.settle task, ?_, ⟨(settle_msgs s1 task).trans hm, .inl hp2⟩, fun _ => hp2⟩
    rw [after, ht, Except.bind, hrecv, execute, hp]
    dsimp only
    rw [hbuild]
    dsimp only
    rw [if_neg (by simp), conclude, hsettle, if_neg (by rw [hstate]; decide), ← hp]

/-- the calls until the task is finished send frames with `P` -/
def Delivers (st : Store) (calls : ℕ → Call) (s : St) (P : List PlcFrame → Prop) : Prop :=
  ∃ n s' fs, FinishesAt st calls s n s' ∧ s'.frames = s.frames ++ fs ∧ P fs

/-- nothing is delivered where the task is never finished -/
theorem not_delivers_idle {st : Store} {task : Task} {calls : ℕ → Call} {s : St} (P : List PlcFrame → Prop)
    (hstate : task.state = .start)
    (hbuild : ∀ c add_index, build st c add_index task = .built task .zero false add_index)
    (hcalls : ∀ k, (calls k).msgs = []) (hw : Working s task) : ¬ Delivers st calls s P := by
  rintro ⟨n, s', fs, hfin, _, _⟩
  obtain ⟨t, ht, _, hp⟩ := idle_run st hstate hbuild calls s hcalls hw n
  have hsame := hfin.run
  rw [ht, Except.ok.injEq] at hsame
  have hdone := hfin.done
  rw [← hsame, hp hfin.pos] at hdone
  cases hdone

/-- **Frames of a run.** They are those of the derivation. -/
theorem delivers_played_iff {st : Store} {task : Task} {fs : List (Call → PlcFrame)} {calls : ℕ → Call} {s : St}
    (P : List PlcFrame → Prop) (h : Plays st s.add_index task fs) (hcalls : ∀ k, (calls k).msgs = [])
    (hw : Working s task) : Delivers st calls s P ↔ P (played calls fs) := by
  obtain ⟨n, s', _, _, hfin, hframes, _⟩ :=
    plays_run (invariant_true st) h 0 calls s hcalls (fun _ => trivial) hw rfl trivial
  constructor
  · rintro ⟨n2, s2, fs2, hfin2, hframes2, hP⟩
    obtain rfl := hfin.unique hfin2
    rwa [← List.append_cancel_left (hframes.symm.trans hframes2)] at hP
  · exact fun hP => ⟨n, s', _, hfin, hframes, hP⟩

theorem delivers_iff {st : Store} {task : Task} {fs : List PlcFrame} {calls : ℕ → Call} {s : St}
    (P : List PlcFrame → Prop) (h : Sends st s.add_index task fs) (hcalls : ∀ k, (calls k).msgs = [])
    (hw : Working s task) : Delivers st calls s P ↔ P fs := by
  rw [delivers_played_iff P h.plays hcalls hw, played_const]

end DataConcentrator.Plc
