/-
START, STOP and SUSPEND messages, over runs with any tasks and any messages.

- `build_order`, `execute_ledger`: choosing a frame never changes what was ordered;
- `run_ledger`: every queued task is in the queue, in progress, or finished, and in one of these only;
- `controlled_iff`: the runs in which control is safe, a suspended task is resumable and a stopped task is finished
  exactly once, are those whose messages never meet one of three states;
- `messages_fault`: the three states.
-/
import DataConcentrator.Plc.Run

namespace DataConcentrator.Plc

/-! ## What was ordered -/

/-- a task without its progress -/
def Task.order (task : Task) : Task :=
  { task with
    state := .start, executed_num := 0, executed_index := 0, broadcast_state := 0
    success_num := 0, failed_num := 0, timeout_num := 0, spent_time := 0 }

@[simp] theorem order_count (task : Task) : task.count.order = task.order := by
  unfold Task.count
  split_ifs
  · cases task with
    | mk _ _ state => cases state <;> rfl
  · rfl

@[simp] theorem order_settle (task : Task) : task.settle.order = task.order := by
  unfold Task.settle
  split_ifs
  · exact order_count task
  · rfl

variable (st : Store)

theorem order_nextRecord (task : Task) (ctrl_mode add_index : ℕ) :
    (task.nextRecord ctrl_mode add_index).order = task.order := by
  unfold Task.nextRecord
  split_ifs <;> rfl

theorem readTaskConf_order (fuel : ℕ) : ∀ (ctrl_mode add_index : ℕ) (task : Task) (frame : PlcFrame),
    (readTaskConf st fuel ctrl_mode add_index task frame).task.order = task.order := by
  induction fuel with
  | zero => exact fun _ _ _ _ => rfl
  | succ fuel ih =>
    intro ctrl_mode add_index task frame
    rw [readTaskConf]
    dsimp only
    split
    · split
      · exact order_nextRecord _ _ _
      · exact order_nextRecord { task with executed_num := inc16 task.executed_num } _ _
    · split_ifs
      · exact (ih _ _ _ _).trans (order_nextRecord _ _ _)
      · exact order_nextRecord task _ _
      · exact (ih _ _ _ _).trans (order_nextRecord _ _ _)
      · exact order_nextRecord task _ _

theorem combine_order (lamp_config : LampConfig) (stackMode add_index : ℕ) (task : Task) (frame : PlcFrame) :
    (combinePlcUserFrame st lamp_config stackMode add_index task frame).task.order = task.order := by
  rw [combinePlcUserFrame]
  split_ifs
  · rfl
  · dsimp only
    split <;> rfl
  · exact readTaskConf_order st _ _ _ _ _
  · rfl

variable (c : Call)

/-- the order of a task is kept by the search -/
theorem steady_order (o : Task) : Steady st fun task => task.order = o where
  counters _ _ _ h := h
  combine lamp_config stackMode add_index task frame h :=
    (combine_order st lamp_config stackMode add_index task frame).trans h

/-- **Order.** Choosing the next frame changes the progress of a task only. -/
theorem build_order (add_index : ℕ) (task : Task) : (build st c add_index task).task.order = task.order := by
  have heach : ∀ wanted, (buildEach st c add_index task wanted).task.order = task.order := by
    intro wanted
    unfold buildEach
    split_ifs
    · exact (steady_order st _).readDeviceConf c wanted _ _ _ _
        (combine_order st c.stackConfig c.stackMode add_index { task with broadcast_state := 1 } _)
    · exact (steady_order st _).readDeviceConf c wanted _ _ _ _ rfl
  have honce : (buildOnce st c add_index task).task.order = task.order :=
    (steady_order st task.order).countedFrame c c.stackConfig add_index _ rfl
  have hunicast : (buildUnicast st c add_index task).task.order = task.order := by
    unfold buildUnicast
    dsimp only
    split_ifs
    · refine bind_keeps (P := fun task' => task'.order = task.order) ?_ fun task' frame got add_index h => ?_
      · exact (steady_order st _).countedFrame c c.stackConfig add_index _ rfl
      · split_ifs <;> exact h
    · rfl
  unfold build
  split_ifs
  · exact combine_order st c.stackConfig c.stackMode add_index task _
  · rfl
  · exact honce
  · exact heach _
  · exact honce
  · exact heach _
  · exact hunicast
  · rfl

/-! ## The ledger -/

def Event.finished? : Event → Option Task
  | .finished task => some task
  | _ => none

/-- the tasks finished so far, as they were then -/
def St.finishedTasks (s : St) : List Task := s.trace.filterMap Event.finished?

/-- what was ordered and is finished, in progress, or still queued -/
def St.ledger (s : St) : List Task := (s.finishedTasks ++ s.task_progress.toList ++ s.tasks).map Task.order

@[simp] theorem finishedTasks_log_sent (s : St) (frame : PlcFrame) :
    (s.log (.sent frame)).finishedTasks = s.finishedTasks := by
  simp [St.finishedTasks, St.log, Event.finished?]

@[simp] theorem finishedTasks_log_finished (s : St) (task : Task) :
    (s.log (.finished task)).finishedTasks = s.finishedTasks ++ [task] := by
  simp [St.finishedTasks, St.log, Event.finished?]

@[simp] theorem finishedTasks_notify (s : St) (task : Task) : (s.notify task).finishedTasks = s.finishedTasks := by
  unfold St.notify
  split_ifs <;> simp [St.finishedTasks, St.log, Event.finished?]

/-- a task that is finished moves from the front of the running ones to the finished ones -/
structure Finishes (task : Task) (s s' : St) : Prop where
  progress : s'.task_progress = none
  backup : s'.task_backup = s.task_backup
  tasks : s'.tasks = s.tasks
  finished : ∃ spent_time, s'.finishedTasks =
    s.finishedTasks ++ [{ task with state := .finished, spent_time := spent_time }]

theorem finishTask_finishes {s : St} {task : Task} (h : s.task_progress = some task) :
    ∃ s', finishTask c false s = .ok s' ∧ Finishes task s s' := by
  rw [finishTask, if_neg (by simp), h]
  refine ⟨_, rfl, rfl, ?_, ?_, (c.tick + 65536 - s.time_sec % 65536) % 65536, ?_⟩
  · dsimp only [St.log]
    rw [notify_frame]
  · dsimp only [St.log]
    rw [notify_frame]
  · rw [finishedTasks_log_finished]
    exact congrArg (· ++ _) (finishedTasks_notify s _)

theorem Finishes.ledger {task order : Task} {s s' : St} (h : Finishes task s s') (ho : task.order = order.order) :
    s'.ledger = (s.finishedTasks ++ [order] ++ s.tasks).map Task.order := by
  obtain ⟨t, hf⟩ := h.finished
  have horder : ({ task with state := .finished, spent_time := t } : Task).order = order.order := ho
  simp [St.ledger, hf, h.progress, h.tasks, horder]

theorem settle_fields (s : St) (task : Task) : (s.settle task).task_backup = s.task_backup ∧
    (s.settle task).tasks = s.tasks ∧ (s.settle task).finishedTasks = s.finishedTasks := by
  unfold St.settle
  split_ifs
  · exact ⟨by rw [notify_frame], by rw [notify_frame], finishedTasks_notify s _⟩
  · exact ⟨rfl, rfl, rfl⟩

/-- the end of a call keeps the order in progress or finishes it -/
theorem conclude_ledger (s : St) (task order : Task) (ho : task.order = order.order) :
    ∃ s', conclude c s task = .ok s' ∧ s'.task_backup = s.task_backup ∧
      s'.ledger = (s.finishedTasks ++ [order] ++ s.tasks).map Task.order := by
  obtain ⟨hbackup, htasks, hfin⟩ := settle_fields s task
  have hsettle : task.settle.order = order.order := (order_settle task).trans ho
  unfold conclude
  split_ifs
  · obtain ⟨s', hs', hf⟩ := finishTask_finishes c (settle_progress s task)
    refine ⟨s', hs', hf.backup.trans hbackup, ?_⟩
    rw [hf.ledger hsettle, hfin, htasks]
  · refine ⟨_, rfl, hbackup, ?_⟩
    simp [St.ledger, hfin, htasks, hsettle]

/-- from `if(task_progress != NULL)` on, a call never faults, and loses and doubles nothing -/
theorem execute_ledger (s : St) : ∃ s', execute st c s = .ok s' ∧ s'.task_backup = s.task_backup ∧
    s'.ledger = s.ledger := by
  cases hp : s.task_progress with
  | none => exact ⟨s, by rw [execute, hp], rfl, rfl⟩
  | some task =>
    have hledger : s.ledger = (s.finishedTasks ++ [task] ++ s.tasks).map Task.order := by
      rw [St.ledger, hp]
      rfl
    have horder := build_order st c s.add_index task
    rw [execute, hp, hledger]
    dsimp only
    cases hb : build st c s.add_index task with
    | finished task' a =>
      rw [hb] at horder
      obtain ⟨s', hs', hf⟩ := @finishTask_finishes c { s with task_progress := some task', add_index := a } task' rfl
      exact ⟨s', hs', hf.backup, hf.ledger horder⟩
    | built task' frame got a =>
      rw [hb] at horder
      dsimp only
      split_ifs
      · obtain ⟨s', hs', hback, hled⟩ := conclude_ledger c
          ({ s with task_progress := some task, add_index := a }.log (.sent frame))
          { task' with state := c.response.state } task horder
        refine ⟨s', hs', hback, hled.trans ?_⟩
        rw [finishedTasks_log_sent]
        rfl
      · exact conclude_ledger c { s with task_progress := some task, add_index := a } task' task horder

/-! ## One call -/

/-- the state in which the message of a call is obeyed -/
def St.heard (s : St) (c : Call) : St := receiveTask c (s.arrive c)

theorem heard_spec (s : St) : (s.heard c).task_backup = s.task_backup ∧
    (s.heard c).finishedTasks = s.finishedTasks ∧ (s.heard c).ledger = s.ledger ++ c.tasks.map Task.order := by
  unfold St.heard receiveTask
  cases hp : s.task_progress with
  | some task =>
    simp only [St.arrive, hp]
    refine ⟨trivial, rfl, ?_⟩
    simp [St.ledger, hp, St.finishedTasks]
  | none =>
    cases ht : s.tasks ++ c.tasks with
    | nil =>
      simp only [St.arrive, hp, ht]
      refine ⟨trivial, rfl, ?_⟩
      obtain ⟨h1, h2⟩ := List.append_eq_nil_iff.1 ht
      simp [St.ledger, hp, St.finishedTasks, h1, h2]
    | cons task tasks =>
      simp only [St.arrive, hp, ht]
      refine ⟨by rw [notify_frame], (finishedTasks_notify _ _).trans rfl, ?_⟩
      rw [St.ledger, finishedTasks_notify, notify_frame]
      have hmap := congrArg (List.map Task.order) ht
      simp only [List.map_append, List.map_cons] at hmap
      simp [St.ledger, hp, St.finishedTasks, hmap]

/-- the message a call obeys, and what is left of the queue -/
theorem recvAndExecute_eq (s : St) : recvAndExecute st s c =
    match (s.heard c).msgs with
    | [] => execute st c (s.heard c)
    | msg :: msgs => obey st c msg { s.heard c with msgs := msgs } := rfl

/-- a message of kind `k` for the task in progress -/
def Orders (k : ℕ) (s : St) (c : Call) (task : Task) : Prop :=
  ∃ msg, (s.heard c).msgs.head? = some msg ∧ msg.state = k ∧ (s.heard c).task_progress = some task ∧
    msg.cmd_code = task.cmd_code

/-- a START message while nothing is in progress -/
def Starts (s : St) (c : Call) (msg : StateMsg) : Prop :=
  (s.heard c).msgs.head? = some msg ∧ msg.state = 0 ∧ (s.heard c).task_progress = none

/-- what a message must not meet: a START nothing in progress, a SUSPEND its task, a STOP its task while the stack
does not hold `NULL` for `frame.buf` -/
structure Safe (s : St) (c : Call) : Prop where
  start : ∀ msg, ¬ Starts s c msg
  suspend : ∀ task, ¬ Orders 2 s c task
  stop : ∀ task, Orders 1 s c task → c.stackBuf = false

/-- what the switch does while no task is set aside -/
theorem control_cases (msg : StateMsg) (s : St) (hb : s.task_backup = none) :
    control msg s = .nullTask ∧ msg.state = 0 ∧ s.task_progress = none ∨
    (∃ task, control msg s = .gotoFinished { s with task_progress := some { task with state := .finished } } ∧
      msg.state = 1 ∧ s.task_progress = some task ∧ msg.cmd_code = task.cmd_code) ∨
    (∃ task, control msg s = .gotoFinished { s with task_backup := some task, task_progress := none } ∧
      msg.state = 2 ∧ s.task_progress = some task ∧ msg.cmd_code = task.cmd_code) ∨
    control msg s = .goOn s ∧ (msg.state = 0 → s.task_progress ≠ none) ∧
      ((msg.state = 1 ∨ msg.state = 2) → ∀ task, s.task_progress = some task → msg.cmd_code ≠ task.cmd_code) := by
  rcases msg with ⟨code, k⟩
  cases hp : s.task_progress with
  | none =>
    match k with
    | 0 => exact .inl ⟨by simp only [control, hp, hb], rfl, rfl⟩
    | 1 => exact .inr (.inr (.inr ⟨by simp only [control, hp], by simp, by simp⟩))
    | 2 => exact .inr (.inr (.inr ⟨by simp only [control, hp], by simp, by simp⟩))
    | k + 3 => exact .inr (.inr (.inr ⟨by simp only [control], by simp, by simp⟩))
  | some task =>
    match k with
    | 0 => exact .inr (.inr (.inr ⟨by simp only [control, hp], by simp, by simp⟩))
    | 1 =>
      by_cases hcode : code = task.cmd_code
      · exact .inr (.inl ⟨task, by simp only [control, hp, hcode, if_true], rfl, rfl, hcode⟩)
      · exact .inr (.inr (.inr ⟨by simp only [control, hp, hcode, if_false], by simp, by simpa using hcode⟩))
    | 2 =>
      by_cases hcode : code = task.cmd_code
      · exact .inr (.inr (.inl ⟨task, by simp only [control, hp, hcode, if_true], rfl, rfl, hcode⟩))
      · exact .inr (.inr (.inr ⟨by simp only [control, hp, hcode, if_false], by simp, by simpa using hcode⟩))
    | k + 3 => exact .inr (.inr (.inr ⟨by simp only [control], by simp, by simp⟩))

theorem safe_of_no_message (h : (s.heard c).msgs = []) : Safe s c := by
  refine ⟨?_, ?_, ?_⟩
  · rintro msg ⟨hmsg, -⟩
    simp [h] at hmsg
  · rintro task ⟨msg, hmsg, -⟩
    simp [h] at hmsg
  · rintro task ⟨msg, hmsg, -⟩
    simp [h] at hmsg

/-- only the first message is looked at -/
theorem safe_of_head {msg : StateMsg} (hhead : (s.heard c).msgs.head? = some msg)
    (hstart : msg.state = 0 → (s.heard c).task_progress ≠ none)
    (hsuspend : ∀ task, msg.state = 2 → (s.heard c).task_progress = some task → msg.cmd_code ≠ task.cmd_code)
    (hstop : ∀ task, msg.state = 1 → (s.heard c).task_progress = some task → msg.cmd_code = task.cmd_code →
      c.stackBuf = false) : Safe s c := by
  have hsame : ∀ {msg'}, (s.heard c).msgs.head? = some msg' → msg' = msg := fun h => Option.some.inj (h.symm.trans hhead)
  refine ⟨?_, ?_, ?_⟩
  · rintro msg' ⟨hmsg', hk, hp⟩
    rw [hsame hmsg'] at hk
    exact hstart hk hp
  · rintro task ⟨msg', hmsg', hk, hp, hcode⟩
    rw [hsame hmsg'] at hk hcode
    exact hsuspend task hk hp hcode
  · rintro task ⟨msg', hmsg', hk, hp, hcode⟩
    rw [hsame hmsg'] at hk hcode
    exact hstop task hk hp hcode

/-- **One call.** While no task is set aside, a call goes through exactly if its message is safe; then it sets none
aside, and nothing ordered is lost or doubled. -/
theorem step_control (s : St) (hb : s.task_backup = none) :
    (Safe s c → ∃ s', recvAndExecute st s c = .ok s' ∧ s'.task_backup = none ∧
      s'.ledger = s.ledger ++ c.tasks.map Task.order) ∧
    (∀ s', recvAndExecute st s c = .ok s' → Safe s c) := by
  obtain ⟨hback, _, hledger⟩ := heard_spec c s
  rw [recvAndExecute_eq, ← hledger]
  rw [hb] at hback
  cases hm : (s.heard c).msgs with
  | nil =>
    refine ⟨fun _ => ?_, fun _ _ => safe_of_no_message c hm⟩
    obtain ⟨s', hs', hb', hl'⟩ := execute_ledger st c (s.heard c)
    exact ⟨s', hs', hb'.trans hback, hl'⟩
  | cons msg msgs =>
    have hhead : (s.heard c).msgs.head? = some msg := by rw [hm]; rfl
    dsimp only
    rw [obey]
    rcases control_cases msg { s.heard c with msgs := msgs } hback with ⟨hc, hk, hp⟩ | ⟨task, hc, hk, hp, hcode⟩ |
      ⟨task, hc, hk, hp, hcode⟩ | ⟨hc, h0, h12⟩
    · rw [hc]
      exact ⟨fun hsafe => absurd ⟨hhead, hk, hp⟩ (hsafe.start msg), fun s' hs' => by simp at hs'⟩
    · rw [hc]
      dsimp only
      refine ⟨fun hsafe => ?_, fun s' hs' => ?_⟩
      · rw [hsafe.stop task ⟨msg, hhead, hk, hp, hcode⟩]
        obtain ⟨s', hs', hf⟩ := @finishTask_finishes c
          { s.heard c with msgs := msgs, task_progress := some { task with state := .finished } } _ rfl
        refine ⟨s', hs', hf.backup.trans hback, (@Finishes.ledger _ task _ _ hf rfl).trans ?_⟩
        change (s.heard c).task_progress = some task at hp
        rw [St.ledger, hp]
        rfl
      · apply safe_of_head c hhead
        · exact fun hk' => absurd (hk.symm.trans hk') (by decide)
        · exact fun _ hk' => absurd (hk.symm.trans hk') (by decide)
        · intro _ _ _ _
          cases hbuf : c.stackBuf with
          | false => rfl
          | true => rw [hbuf, finishTask, if_pos rfl] at hs'; simp at hs'
    · rw [hc]
      refine ⟨fun hsafe => absurd ⟨msg, hhead, hk, hp, hcode⟩ (hsafe.suspend task), fun s' hs' => ?_⟩
      dsimp only at hs'
      rw [finishTask] at hs'
      split_ifs at hs'
    · rw [hc]
      refine ⟨fun _ => ?_, fun s' _ => ?_⟩
      · obtain ⟨s', hs', hb', hl'⟩ := execute_ledger st c { s.heard c with msgs := msgs }
        exact ⟨s', hs', hb'.trans hback, hl'⟩
      · apply safe_of_head c hhead
        · exact h0
        · exact fun task hk => h12 (Or.inr hk) task
        · exact fun task hk hp hcode => absurd hcode (h12 (Or.inl hk) task hp)

/-! ## Runs -/

def boot : St := ⟨[], [], none, none, 0, 0, []⟩

def run (calls : List Call) (s : St) : Except Fault St := calls.foldlM (recvAndExecute st) s

theorem run_snoc (calls : List Call) (s : St) :
    run st (calls ++ [c]) s = (run st calls s).bind fun s' => recvAndExecute st s' c := by
  simp only [run, List.foldlM_append, List.foldlM_cons, List.foldlM_nil, bind_pure]
  rfl

/-- every message of the run is safe in the state that obeys it -/
def SafeRun (calls : List Call) : Prop :=
  ∀ pre c post s, calls = pre ++ c :: post → run st pre boot = .ok s → Safe s c

/-- **Ledger.** A run that goes through sets no task aside, and every task queued in it is finished, in progress or
still queued, each once. -/
theorem run_ledger (calls : List Call) : ∀ s, run st calls boot = .ok s →
    s.task_backup = none ∧ s.ledger = (calls.flatMap Call.tasks).map Task.order := by
  induction calls using List.reverseRecOn with
  | nil =>
    intro s h
    cases h
    exact ⟨rfl, rfl⟩
  | append_singleton calls c ih =>
    intro s h
    rw [run_snoc] at h
    cases hrun : run st calls boot with
    | error e => rw [hrun] at h; cases h
    | ok s0 =>
      rw [hrun] at h
      change recvAndExecute st s0 c = .ok s at h
      obtain ⟨hb, hledger⟩ := ih s0 hrun
      obtain ⟨hgo, hsafe⟩ := step_control st c s0 hb
      obtain ⟨s', hs', hb', hledger'⟩ := hgo (hsafe s h)
      rw [h, Except.ok.injEq] at hs'
      subst hs'
      refine ⟨hb', ?_⟩
      rw [hledger', hledger, List.flatMap_append, List.map_append]
      simp

/-- a run goes through exactly if its messages are safe -/
theorem run_ok_iff (calls : List Call) : (∃ s, run st calls boot = .ok s) ↔ SafeRun st calls := by
  induction calls using List.reverseRecOn with
  | nil =>
    refine ⟨fun _ pre c post s h => ?_, fun _ => ⟨boot, rfl⟩⟩
    simp at h
  | append_singleton calls c ih =>
    constructor
    · rintro ⟨s, h⟩
      rw [run_snoc] at h
      cases hrun : run st calls boot with
      | error e => rw [hrun] at h; cases h
      | ok s0 =>
        rw [hrun] at h
        have hlast := (step_control st c s0 (run_ledger st calls s0 hrun).1).2 s h
        intro pre d post t hsplit ht
        rcases List.eq_nil_or_concat post with rfl | ⟨post, e, rfl⟩
        · obtain ⟨hpre, hd⟩ := List.append_inj' hsplit rfl
          cases hd
          rw [← hpre, hrun] at ht
          cases ht
          exact hlast
        · rw [List.concat_eq_append, ← List.cons_append, ← List.append_assoc] at hsplit
          exact ih.1 ⟨s0, hrun⟩ pre d post t (List.append_inj' hsplit rfl).1 ht
    · intro hsafe
      obtain ⟨s0, hrun⟩ := ih.2 fun pre d post t hsplit ht =>
        hsafe pre d (post ++ [c]) t (by rw [hsplit, List.append_assoc]; rfl) ht
      obtain ⟨s', hs', _⟩ := (step_control st c s0 (run_ledger st calls s0 hrun).1).1 (hsafe calls c [] s0 rfl hrun)
      exact ⟨s', by rw [run_snoc, hrun]; exact hs'⟩

/-! ## Main result -/

/-- a run in which control is safe: no fault; a suspended task goes on where it was when a START for it comes, if no
other SUSPEND comes between; a stopped task is finished by the STOP; and no task is finished twice or lost -/
structure Controlled (calls : List Call) : Prop where
  safe : ∃ s, run st calls boot = .ok s
  resumes : ∀ pre c mid c' post s s1 s2 task msg, calls = pre ++ c :: (mid ++ c' :: post) →
    run st pre boot = .ok s → Orders 2 s c task → recvAndExecute st s c = .ok s1 →
    (∀ d ∈ mid, ∀ m ∈ d.msgs, m.state ≠ 2) → (∀ m ∈ s1.msgs, m.state ≠ 2) → run st mid s1 = .ok s2 →
    Starts s2 c' msg → msg.cmd_code = task.cmd_code →
    ∃ s3 task', control msg (s2.heard c') = .goOn s3 ∧ s3.task_progress = some task' ∧ task'.order = task.order ∧
      task'.executed_num = task.executed_num ∧ task'.executed_index = task.executed_index
  stops : ∀ pre c post s task, calls = pre ++ c :: post → run st pre boot = .ok s → Orders 1 s c task →
    ∃ s' spent_time, recvAndExecute st s c = .ok s' ∧ s'.task_progress = none ∧
      s'.finishedTasks = s.finishedTasks ++ [{ task with state := .finished, spent_time := spent_time }]
  once : ∀ pre post s, calls = pre ++ post → run st pre boot = .ok s →
    s.ledger = (pre.flatMap Call.tasks).map Task.order

/-- a STOP that meets `NULL` finishes its task -/
theorem stop_finishes {s : St} {task : Task} (h : Orders 1 s c task) (hbuf : c.stackBuf = false) :
    ∃ s' spent_time, recvAndExecute st s c = .ok s' ∧ s'.task_progress = none ∧
      s'.finishedTasks = s.finishedTasks ++ [{ task with state := .finished, spent_time := spent_time }] := by
  obtain ⟨_, hfin, _⟩ := heard_spec c s
  obtain ⟨⟨code, k⟩, hhead, rfl, hp, rfl⟩ := h
  obtain ⟨msgs, hm⟩ := List.head?_eq_some_iff.1 hhead
  obtain ⟨s', hs', hf⟩ := @finishTask_finishes c
    { s.heard c with msgs := msgs, task_progress := some { task with state := .finished } } _ rfl
  obtain ⟨t, ht⟩ := hf.finished
  refine ⟨s', t, ?_, hf.progress, ?_⟩
  · rw [recvAndExecute_eq, hm]
    dsimp only
    rw [obey, hbuf]
    simp only [control, hp, if_true]
    exact hs'
  · rw [ht, ← hfin]
    rfl

/-- **Control.** Control is safe in exactly the runs in which no START is obeyed while nothing is in progress, no
SUSPEND while its task is in progress, and no STOP of the task in progress while the stack does not hold `NULL`. -/
theorem controlled_iff (calls : List Call) : Controlled st calls ↔ SafeRun st calls := by
  constructor
  · intro h
    exact (run_ok_iff st calls).1 h.safe
  · intro hsafe
    refine ⟨(run_ok_iff st calls).2 hsafe, ?_, ?_, ?_⟩
    · intro pre c mid c' post s s1 s2 task msg hsplit hrun horder
      exact absurd horder ((hsafe pre c _ s hsplit hrun).suspend task)
    · intro pre c post s task hsplit hrun horder
      exact stop_finishes st c horder ((hsafe pre c post s hsplit hrun).stop task horder)
    · intro pre post s _ hrun
      exact (run_ledger st pre s hrun).2

/-- a firmware update is queued, and a message with state `k` for it -/
def updateCall (k : ℕ) (tasks : List Task) (stackBuf : Bool) : Call :=
  { Call.quiet with tasks := tasks, msgs := [⟨0x01F3, k⟩], stackBuf := stackBuf }

/-- a START with nothing set aside reads a field of `NULL`; a SUSPEND of the task in progress reaches `FINISHED` with
`NULL` in its place; a STOP frees whatever the stack holds -/
theorem messages_fault :
    ¬ Controlled Store.empty [updateCall 0 [] false] ∧
    ¬ Controlled Store.empty [updateCall 2 [{ Task.zero with cmd_code := 0x01F3 }] false] ∧
    ¬ Controlled Store.empty [updateCall 1 [{ Task.zero with cmd_code := 0x01F3 }] true] := by
  refine ⟨fun h => ?_, fun h => ?_, fun h => ?_⟩
  · obtain ⟨s, hs⟩ := h.safe
    have hfault : run Store.empty [updateCall 0 [] false] boot = .error .nullTask := rfl
    rw [hfault] at hs
    cases hs
  · obtain ⟨s, hs⟩ := h.safe
    have hfault : run Store.empty [updateCall 2 [{ Task.zero with cmd_code := 0x01F3 }] false] boot =
        .error .nullTask := rfl
    rw [hfault] at hs
    cases hs
  · obtain ⟨s, hs⟩ := h.safe
    have hfault : run Store.empty [updateCall 1 [{ Task.zero with cmd_code := 0x01F3 }] true] boot =
        .error .wildFree := rfl
    rw [hfault] at hs
    cases hs

end DataConcentrator.Plc
