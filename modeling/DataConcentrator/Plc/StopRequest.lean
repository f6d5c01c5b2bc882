/-
The report of a task that starts, and the message that stops it: `LampSendExecuteLampPlcExecuteTaskFrameToServer` prints
the code of the task with `%04X`, `LampSetExecuteState` reads it with `myatoi`.

- `lampSetExecuteState_eq`: what is queued, by the last parameter of each type and what lies on the stack;
- `myatoi_sprintf04X`: the codes that `myatoi` reads back from four hexadecimal digits;
- `stop_request_iff`: the codes for which a stop request finds its task, and when a message with a parameter missing
  queues nothing;
- `stop_lost`: code 10, a message with nothing but the state, and one with nothing but the code.
-/
import DataConcentrator.Plc.Execute
import DataConcentrator.Common.Reader
import DataConcentrator.Relay.StrategyText

namespace DataConcentrator.Plc

open Relay (sprintf04X)

/-! ## Report -/

/-- `LampSendExecuteLampPlcExecuteTaskFrameToServer`: the identifier of the message and its parameters -/
def lampSendExecuteTask (recv_task : Task) : Option (ℕ × List TextPara) :=
  match recv_task.state with
  | .start => some (0x0173,
      [⟨0x4001, sprintf04X (.ofNat recv_task.cmd_code)⟩,
       ⟨0x8002, sprintfD recv_task.dev_num⟩,
       ⟨0x6003, sprintfD recv_task.execute_type⟩,
       ⟨0x4004, sprintfD recv_task.executed_num ++ [0x2F] ++ sprintfD recv_task.execute_total_num⟩])
  | .finished => some (0x0174,
      [⟨0x4001, sprintf04X (.ofNat recv_task.cmd_code)⟩,
       ⟨0x8002, sprintfD recv_task.success_num⟩,
       ⟨0x8003, sprintfD recv_task.failed_num⟩,
       ⟨0x8004, sprintfD recv_task.timeout_num⟩,
       ⟨0x8005, sprintfD recv_task.spent_time⟩])
  | _ => none

/-- the code a report gives of its task -/
def Reports (recv_task : Task) (text : List UInt8) : Prop :=
  ∃ para, lampSendExecuteTask recv_task = some (0x0173, para) ∧ ⟨0x4001, text⟩ ∈ para

theorem reports_iff {recv_task : Task} (h : recv_task.state = .start) (text : List UInt8) :
    Reports recv_task text ↔ text = sprintf04X (.ofNat recv_task.cmd_code) := by
  simp [Reports, lampSendExecuteTask, h]

/-! ## Message -/

/-- one round of the loop over the parameters, on `state` -/
def setExecuteState (state : StateMsg) (p : TextPara) : StateMsg :=
  if p.type = 0x4001 then { state with cmd_code := toUnsigned 16 (myatoi p.text) }
  else if p.type = 0x8002 then { state with state := (u8Of p.text).toNat }
  else state

/-- `LampSetExecuteState`: what goes to `xQueue_LampPlcExecuteTaskState`; `stack` is what `state` holds before the loop -/
def lampSetExecuteState (stack : StateMsg) (para : List TextPara) : Option StateMsg :=
  let state := para.foldl setExecuteState stack
  if state.state = 1 then some state else none

/-- the last text of a type -/
def lastOf (type : UInt16) (para : List TextPara) : Option (List UInt8) :=
  ((para.filter fun p => p.type = type).map TextPara.text).getLast?

theorem lastOf_concat (type : UInt16) (para : List TextPara) (p : TextPara) :
    lastOf type (para ++ [p]) = if p.type = type then some p.text else lastOf type para := by
  unfold lastOf
  split_ifs with h
  · simp [h]
  · simp [h]

/-- the last parameter of each type decides, and else the stack -/
theorem foldl_setExecuteState (stack : StateMsg) (para : List TextPara) :
    para.foldl setExecuteState stack =
      ⟨((lastOf 0x4001 para).map fun text => toUnsigned 16 (myatoi text)).getD stack.cmd_code,
        ((lastOf 0x8002 para).map fun text => (u8Of text).toNat).getD stack.state⟩ := by
  induction para using List.reverseRecOn with
  | nil => rfl
  | append_singleton para p ih =>
    rw [List.foldl_append, List.foldl_cons, List.foldl_nil, ih, lastOf_concat, lastOf_concat, setExecuteState]
    split_ifs with hcode hstate hstate
    · exact absurd (hcode.symm.trans hstate) (by decide)
    · rfl
    · rfl
    · rfl

/-- the state a message gives, or the one on the stack -/
def givenState (stack : StateMsg) (para : List TextPara) : ℕ :=
  ((lastOf 0x8002 para).map fun text => (u8Of text).toNat).getD stack.state

theorem lampSetExecuteState_eq (stack : StateMsg) (para : List TextPara) :
    lampSetExecuteState stack para = if givenState stack para = 1 then
      some ⟨((lastOf 0x4001 para).map fun text => toUnsigned 16 (myatoi text)).getD stack.cmd_code, 1⟩
    else none := by
  unfold lampSetExecuteState
  rw [foldl_setExecuteState]
  by_cases h : givenState stack para = 1
  · rw [if_pos h]
    exact (if_pos h).trans (congrArg (fun k => some (StateMsg.mk _ k)) h)
  · rw [if_neg h]
    exact if_neg h

/-- a message makes `RecvAndExecuteLampPlcExecuteTask` finish a task that is in progress -/
def Stops (msg : StateMsg) (task : Task) : Prop :=
  ∀ s : St, s.task_progress = some task →
    control msg s = .gotoFinished { s with task_progress := some { task with state := .finished } }

theorem stops_iff (msg : StateMsg) (task : Task) : Stops msg task ↔ msg.state = 1 ∧ msg.cmd_code = task.cmd_code := by
  obtain ⟨code, k⟩ := msg
  constructor
  · intro h
    have hrun := h ⟨[], [], some task, none, 0, 0, []⟩ rfl
    unfold control at hrun
    split at hrun
    · cases hrun
    · dsimp only at hrun
      split_ifs at hrun with hcode
      · exact ⟨‹_›, hcode⟩
    · dsimp only at hrun
      split_ifs at hrun
      simp at hrun
    · cases hrun
  · rintro ⟨hk, hcode⟩ s hs
    dsimp only at hk hcode
    subst hk
    simp only [control, hs, hcode, if_true]

/-! ## Hexadecimal digits read as decimal ones -/

theorem hexChar_lt {d : UInt8} (h : d < 10) : myisdigit (hexChar d) = true ∧ ((hexChar d).toNat - 0x30 : ℤ) = d.toNat := by
  have hall : ∀ d : UInt8, d < 10 → myisdigit (hexChar d) = true ∧ (hexChar d).toNat = 0x30 + d.toNat :=
    forall_byte (by decide +kernel)
  obtain ⟨hdigit, hvalue⟩ := hall d h
  exact ⟨hdigit, by omega⟩

theorem hexChar_ge : ∀ d : UInt8, 10 ≤ d → d < 16 → myisdigit (hexChar d) = false := forall_byte (by decide +kernel)

/-- what `myatoi` makes of hexadecimal digits: the digits up to the first letter, as decimal ones -/
def decimalReading (ds : List UInt8) : ℤ := (ds.takeWhile (· < 10)).foldl (fun (total : ℤ) d => 10 * total + d.toNat) 0

theorem takeWhile_hexChar {ds : List UInt8} (h : ∀ d ∈ ds, d < 16) :
    (ds.map hexChar).takeWhile myisdigit = (ds.takeWhile (· < 10)).map hexChar := by
  induction ds with
  | nil => rfl
  | cons d ds ih =>
    by_cases hd : d < 10
    · rw [List.map_cons, List.takeWhile_cons_of_pos (hexChar_lt hd).1, List.takeWhile_cons_of_pos (by simpa using hd),
        List.map_cons, ih fun x hx => h x (List.mem_cons_of_mem d hx)]
    · have hge := hexChar_ge d (UInt8.not_lt.1 hd) (h d List.mem_cons_self)
      rw [List.map_cons, List.takeWhile_cons_of_neg (by simp [hge]), List.takeWhile_cons_of_neg (by simpa using hd)]
      rfl

/-- no digit is white space or a sign -/
theorem hexChar_plain : ∀ d : UInt8, d < 16 → myisspace (hexChar d) = false ∧ hexChar d ≠ 0x2D ∧ hexChar d ≠ 0x2B :=
  forall_byte (by decide +kernel)

theorem myatoi_hexChar {ds : List UInt8} (h : ∀ d ∈ ds, d < 16) : myatoi (ds.map hexChar) = decimalReading ds := by
  have hfold : ∀ (ds : List UInt8) (total : ℤ), (∀ d ∈ ds, d < 10) →
      (ds.map hexChar).foldl (fun (total : ℤ) c => 10 * total + (c.toNat - 0x30 : ℤ)) total =
        ds.foldl (fun (total : ℤ) d => 10 * total + d.toNat) total := by
    intro ds
    induction ds with
    | nil => exact fun _ _ => rfl
    | cons d ds ih =>
      intro total hds
      rw [List.map_cons, List.foldl_cons, List.foldl_cons, (hexChar_lt (hds d List.mem_cons_self)).2]
      exact ih _ fun x hx => hds x (List.mem_cons_of_mem d hx)
  have hdigits : ∀ d ∈ ds.takeWhile (· < 10), d < 10 := fun d hd => by simpa using List.mem_takeWhile_imp hd
  cases ds with
  | nil => rfl
  | cons d ds =>
    obtain ⟨hspace, hminus, hplus⟩ := hexChar_plain d (h d List.mem_cons_self)
    have hdrop : ((d :: ds).map hexChar).dropWhile myisspace = (d :: ds).map hexChar :=
      List.dropWhile_cons_of_neg (by simp [hspace])
    rw [myatoi, hdrop]
    simp only [List.map_cons, List.headD_cons, hminus, hplus, or_self, if_false]
    rw [← List.map_cons, takeWhile_hexChar h, hfold _ 0 hdigits]
    rfl

/-- the four digits of a code -/
def codeDigits (c : UInt16) : List UInt8 :=
  [(c >>> 8).toUInt8 / 16, (c >>> 8).toUInt8 % 16, c.toUInt8 / 16, c.toUInt8 % 16]

theorem sprintf04X_eq (c : UInt16) : sprintf04X c = (codeDigits c).map hexChar := rfl

theorem codeDigits_toNat (c : UInt16) : (codeDigits c).map UInt8.toNat =
    [c.toNat / 4096, c.toNat / 256 % 16, c.toNat / 16 % 16, c.toNat % 16] := by
  have hc := c.toNat_lt
  have hhigh : ((c >>> 8).toUInt8).toNat = c.toNat / 256 := by
    rw [UInt16.toNat_toUInt8, UInt16.toNat_shiftRight]
    change c.toNat >>> 8 % 256 = _
    rw [Nat.shiftRight_eq_div_pow]
    omega
  have hlow : (c.toUInt8).toNat = c.toNat % 256 := UInt16.toNat_toUInt8 c
  simp only [codeDigits, List.map_cons, List.map_nil, UInt8.toNat_div, UInt8.toNat_mod, hhigh, hlow, List.cons.injEq,
    and_true]
  refine ⟨?_, ?_, ?_, ?_⟩
  all_goals
    simp
    try omega

theorem codeDigits_lt (c : UInt16) : ∀ d ∈ codeDigits c, d < 16 := by
  have hall : ∀ b : UInt8, b / 16 < 16 ∧ b % 16 < 16 := forall_byte (by decide +kernel)
  simp only [codeDigits, List.forall_mem_cons]
  exact ⟨(hall _).1, (hall _).2, (hall _).1, (hall _).2, by simp⟩

/-- four digits make a number that is no longer than it was, and the same only if it has one digit -/
theorem decimalReading_codeDigits (c : UInt16) : 0 ≤ decimalReading (codeDigits c) ∧
    decimalReading (codeDigits c) < 10000 ∧ (decimalReading (codeDigits c) = c.toNat ↔ c.toNat < 10) := by
  have hc := c.toNat_lt
  have hdigits := codeDigits_toNat c
  unfold codeDigits at hdigits ⊢
  simp only [List.map_cons, List.map_nil, List.cons.injEq, and_true] at hdigits
  obtain ⟨h1, h2, h3, h4⟩ := hdigits
  obtain ⟨hsum, hb1, hb2, hb3, hb4⟩ : c.toNat = 4096 * (c.toNat / 4096) + 256 * (c.toNat / 256 % 16) +
      16 * (c.toNat / 16 % 16) + c.toNat % 16 ∧ c.toNat / 4096 < 16 ∧ c.toNat / 256 % 16 < 16 ∧ c.toNat / 16 % 16 < 16 ∧
      c.toNat % 16 < 16 := by omega
  have hten : (10 : UInt8).toNat = 10 := rfl
  -- the first letter ends the number
  simp only [decimalReading, List.takeWhile_cons, List.takeWhile_nil, decide_eq_true_eq, UInt8.lt_iff_toNat_lt, h1, h2,
    h3, h4, hten]
  generalize c.toNat / 4096 = d1 at *
  generalize c.toNat / 256 % 16 = d2 at *
  generalize c.toNat / 16 % 16 = d3 at *
  generalize c.toNat % 16 = d4 at *
  split_ifs
  all_goals
    simp only [List.foldl_cons, List.foldl_nil, h1, h2, h3, h4]
    omega

/-- **Reading.** A code printed with `%04X` reads back exactly if it is below 10. -/
theorem myatoi_sprintf04X (c : UInt16) : toUnsigned 16 (myatoi (sprintf04X c)) = c.toNat ↔ c.toNat < 10 := by
  obtain ⟨hnonneg, hlt, hiff⟩ := decimalReading_codeDigits c
  rw [sprintf04X_eq, myatoi_hexChar (codeDigits_lt c), ← hiff, toUnsigned]
  omega

/-! ## Stop requests -/

/-- a message that asks to stop the task of a code: its two parameters, in any order -/
def StopRequest (code : List UInt8) (para : List TextPara) : Prop :=
  para.Perm [⟨0x4001, code⟩, ⟨0x8002, sprintfD 1⟩]

theorem lastOf_stopRequest {code : List UInt8} {para : List TextPara} (h : StopRequest code para) :
    lastOf 0x4001 para = some code ∧ lastOf 0x8002 para = some (sprintfD 1) := by
  rcases List.perm_pair.1 h with rfl | rfl
  · exact ⟨rfl, rfl⟩
  · exact ⟨rfl, rfl⟩

/-- what a stop request queues -/
theorem lampSetExecuteState_stopRequest (stack : StateMsg) {code : List UInt8} {para : List TextPara}
    (h : StopRequest code para) : lampSetExecuteState stack para = some ⟨toUnsigned 16 (myatoi code), 1⟩ := by
  obtain ⟨hcode, hstate⟩ := lastOf_stopRequest h
  have hone : givenState stack para = 1 := by
    have hread : (u8Of (sprintfD 1)).toNat = 1 := by decide
    rw [givenState, hstate, Option.map_some, Option.getD_some, hread]
  rw [lampSetExecuteState_eq, if_pos hone, hcode]
  rfl

/-- a stop request with the code of the report queues a message that stops the task, as far as it has got by then -/
def StopsItsTask (stack : StateMsg) (task : Task) : Prop :=
  ∀ code para running, Reports task code → StopRequest code para → running.cmd_code = task.cmd_code →
    ∃ msg, lampSetExecuteState stack para = some msg ∧ Stops msg running

theorem stopsItsTask_iff (stack : StateMsg) {task : Task} (hcode : task.cmd_code < 65536) (hstart : task.state = .start) :
    StopsItsTask stack task ↔ task.cmd_code < 10 := by
  have hnat : (UInt16.ofNat task.cmd_code).toNat = task.cmd_code := UInt16.toNat_ofNat_of_lt' hcode
  have hread := myatoi_sprintf04X (.ofNat task.cmd_code)
  rw [hnat] at hread
  rw [← hread]
  constructor
  · intro h
    obtain ⟨msg, hmsg, hstops⟩ := h _ _ task ((reports_iff hstart _).2 rfl) (List.Perm.refl _) rfl
    rw [lampSetExecuteState_stopRequest stack (List.Perm.refl _)] at hmsg
    cases hmsg
    exact ((stops_iff _ _).1 hstops).2
  · intro h code para running hreports hrequest hrunning
    rw [(reports_iff hstart _).1 hreports] at hrequest
    exact ⟨_, lampSetExecuteState_stopRequest stack hrequest, (stops_iff _ _).2 ⟨rfl, h.trans hrunning.symm⟩⟩

/-- a message that lacks one of the two parameters -/
def Incomplete (para : List TextPara) : Prop := lastOf 0x4001 para = none ∨ lastOf 0x8002 para = none

/-- **Stop requests.** A running task is stopped exactly if its code is below 10, and a message without both parameters
queues nothing exactly if its last state, or the one on the stack, is not 1. -/
theorem stop_request_iff (stack : StateMsg) (task : Task) (para : List TextPara) (hcode : task.cmd_code < 65536)
    (hstart : task.state = .start) :
    (StopsItsTask stack task ↔ task.cmd_code < 10) ∧
    ((Incomplete para → lampSetExecuteState stack para = none) ↔ (Incomplete para → givenState stack para ≠ 1)) := by
  refine ⟨stopsItsTask_iff stack hcode hstart, forall_congr' fun _ => ?_⟩
  rw [lampSetExecuteState_eq]
  split_ifs with h
  · exact iff_of_false (by simp) (fun hne => hne h)
  · exact iff_of_true rfl h

theorem stop_request_broadcast : (StopsItsTask ⟨0, 0⟩ { Task.zero with cmd_code := 3 } ↔ 3 < 10) ∧
    ((Incomplete [⟨0x4001, [0x35]⟩] → lampSetExecuteState ⟨0, 0⟩ [⟨0x4001, [0x35]⟩] = none) ↔
      (Incomplete [⟨0x4001, [0x35]⟩] → givenState ⟨0, 0⟩ [⟨0x4001, [0x35]⟩] ≠ 1)) :=
  stop_request_iff ⟨0, 0⟩ { Task.zero with cmd_code := 3 } [⟨0x4001, [0x35]⟩] (by decide) rfl

/-- **Stop requests that are lost.** Code 10 is reported as `000A` and read back as 0. A message with nothing but the
state is queued with a code from the stack, and one with nothing but the code with a state from the stack. -/
theorem stop_lost : ¬ StopsItsTask ⟨0, 0⟩ { Task.zero with cmd_code := 10 } ∧
    (Incomplete [⟨0x8002, [0x31]⟩] ∧ lampSetExecuteState ⟨0x0150, 0⟩ [⟨0x8002, [0x31]⟩] = some ⟨0x0150, 1⟩) ∧
    Incomplete [⟨0x4001, [0x35]⟩] ∧ lampSetExecuteState ⟨0, 1⟩ [⟨0x4001, [0x35]⟩] = some ⟨5, 1⟩ := by
  refine ⟨fun h => ?_, ⟨.inl rfl, by decide⟩, .inr rfl, by decide⟩
  exact absurd ((@stopsItsTask_iff ⟨0, 0⟩ { Task.zero with cmd_code := 10 } (by decide) rfl).1 h) (by decide)

end DataConcentrator.Plc
