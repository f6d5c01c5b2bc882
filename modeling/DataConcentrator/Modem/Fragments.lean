/-
Fragments sent through the modem: `Pull4gTxQueueAndSendFrame` takes one from its queue, `ec20_get_AT_QISEND` asks for the
prompt, writes it, and waits for `SEND OK`.

- `ec20GetAtQisend`, `runQueue`: what is written to the modem for one fragment and for a queue of them;
- `afterPrompts`: what is written from each prompt to the next command;
- `fragments_delivered_iff`: the queues of which each prompted fragment is written once;
- `written_twice`: a fragment of one byte.
-/
import DataConcentrator.Modem.AtWait
import DataConcentrator.Common.Print

namespace DataConcentrator.Modem

open DataConcentrator.Memory

/-! ## The functions -/

def TIMEOUT_1S : UInt16 := 100

/-- `"> "` -/
def promptText : List UInt8 := [0x3E, 0x20]

/-- `"SEND OK"` -/
def sendOk : List UInt8 := [0x53, 0x45, 0x4E, 0x44, 0x20, 0x4F, 0x4B]

/-- `"AT+QISEND=0,%d\r\n"` -/
def qisendCmd (len : ℕ) : List UInt8 :=
  [0x41, 0x54, 0x2B, 0x51, 0x49, 0x53, 0x45, 0x4E, 0x44, 0x3D, 0x30, 0x2C] ++ sprintfD len ++ crlf

/-- what a wait meets: `rx_fifo1` before it, the memory behind that, and the bursts before each poll -/
structure Answers where
  result_ptr : RingBuf CMD_BUF_MAX_LEN
  behind : List UInt8
  polls : List (List (List UInt8))

/-- `AT_SendCmd`, once `callback` is registered -/
def atSendCmd (cmd result : List UInt8) (retry : UInt8) (timeout : UInt16) (a : Answers) : Progress :=
  Exchange.outcome ⟨cmd, result, retry, timeout, a.result_ptr, a.behind, a.polls⟩

/-- `AT_SendData`, which differs in the length of what it sends only -/
def atSendData (data result : List UInt8) (retry : UInt8) (timeout : UInt16) (a : Answers) : Progress :=
  Exchange.outcome ⟨data, result, retry, timeout, a.result_ptr, a.behind, a.polls⟩

/-- what happens on the line to the modem -/
inductive LineEvent where
  | command (bytes : List UInt8)
  | prompt
  | data (bytes : List UInt8)

/-- a frame of `xQueue_4gFrameTx`, and what the modem answers to it -/
structure Fragment where
  buf : List UInt8
  prompts : Answers
  results : Answers

/-- `ec20_get_AT_QISEND`; `none` when a burst leaves `rx_fifo1` -/
def ec20GetAtQisend (f : Fragment) : Option (List LineEvent) :=
  match atSendCmd (qisendCmd f.buf.length) promptText 0 TIMEOUT_1S f.prompts with
  | .returned ret w =>
    if ret = 1 then
      -- `ec20_send_data` writes the fragment, and so does `AT_SendData`
      match atSendData f.buf sendOk 0 TIMEOUT_1S f.results with
      | .returned _ w' => some (w.written.map .command ++ .prompt :: .data f.buf :: w'.written.map .data)
      | _ => none
    else some (w.written.map .command)
  | _ => none

/-- `Pull4gTxQueueAndSendFrame` until the queue is empty -/
def runQueue : List Fragment → Option (List LineEvent)
  | [] => some []
  | f :: queue => (ec20GetAtQisend f).bind fun events => (runQueue queue).map fun rest => events ++ rest

/-! ## What is written after a prompt -/

/-- the data up to the next command or prompt -/
def dataUpTo : List LineEvent → List UInt8
  | .data bytes :: events => bytes ++ dataUpTo events
  | _ => []

/-- the data after each prompt -/
def afterPrompts : List LineEvent → List (List UInt8)
  | [] => []
  | .prompt :: events => dataUpTo events :: afterPrompts events
  | .command _ :: events => afterPrompts events
  | .data _ :: events => afterPrompts events

def promptWait (f : Fragment) : Exchange :=
  ⟨qisendCmd f.buf.length, promptText, 0, TIMEOUT_1S, f.prompts.result_ptr, f.prompts.behind, f.prompts.polls⟩

def resultWait (f : Fragment) : Exchange :=
  ⟨f.buf, sendOk, 0, TIMEOUT_1S, f.results.result_ptr, f.results.behind, f.results.polls⟩

/-- the bursts fit `rx_fifo1`, as long as they are waited for -/
structure Fragment.Fits (f : Fragment) : Prop where
  prompts : ∀ n, (promptWait f).Lasts n → (promptWait f).Fits n
  results : (promptWait f).Gets → ∀ n, (resultWait f).Lasts n → (resultWait f).Fits n

theorem atSendCmd_eq (f : Fragment) :
    atSendCmd (qisendCmd f.buf.length) promptText 0 TIMEOUT_1S f.prompts = (promptWait f).outcome := rfl

theorem atSendData_eq (f : Fragment) : atSendData f.buf sendOk 0 TIMEOUT_1S f.results = (resultWait f).outcome := rfl

theorem zero_ne : (0 : UInt8) ≠ 255 := by decide

/-- without retries a command is written once -/
theorem outcome_once {x : Exchange} (hretry : x.retry = 0) (hfits : ∀ n, x.Lasts n → x.Fits n) :
    ∃ ret w, x.outcome = .returned ret w ∧ w.written = [x.bytes] ∧ (ret = 1 ↔ x.Gets) := by
  obtain ⟨ret, w, k, hw, hwritten, hk, hgets⟩ := Exchange.outcome_spec (hretry ▸ zero_ne) hfits
  rw [hretry] at hk
  obtain rfl : k = 0 := Nat.le_zero.1 hk
  exact ⟨ret, w, hw, hwritten, hgets⟩

/-- one fragment: a command, and if the prompt comes the fragment twice -/
theorem qisend_fits {f : Fragment} (h : f.Fits) :
    ((promptWait f).Gets ∧ ec20GetAtQisend f =
      some [.command (qisendCmd f.buf.length), .prompt, .data f.buf, .data f.buf]) ∨
    (¬ (promptWait f).Gets ∧ ec20GetAtQisend f = some [.command (qisendCmd f.buf.length)]) := by
  obtain ⟨ret, w, hw, hwritten, hgets⟩ := @outcome_once (promptWait f) rfl h.prompts
  unfold ec20GetAtQisend
  rw [atSendCmd_eq, atSendData_eq, hw]
  dsimp only
  rw [hwritten]
  by_cases hone : ret = 1
  · obtain ⟨ret', w', hw', hwritten', -⟩ := @outcome_once (resultWait f) rfl (h.results (hgets.1 hone))
    refine .inl ⟨hgets.1 hone, ?_⟩
    rw [if_pos hone, hw']
    dsimp only
    rw [hwritten']
    rfl
  · exact .inr ⟨fun hg => hone (hgets.2 hg), if_neg hone⟩

/-- a burst that does not fit -/
theorem qisend_long {f : Fragment} (h : ¬ f.Fits) : ec20GetAtQisend f = none := by
  unfold ec20GetAtQisend
  rw [atSendCmd_eq, atSendData_eq]
  by_cases hprompts : ∀ n, (promptWait f).Lasts n → (promptWait f).Fits n
  · obtain ⟨ret, w, hw, -, hgets⟩ := @outcome_once (promptWait f) rfl hprompts
    have hresults : (promptWait f).Gets ∧ ¬ ∀ n, (resultWait f).Lasts n → (resultWait f).Fits n := by
      by_contra hno
      exact h ⟨hprompts, fun hg => by_contra fun hlong => hno ⟨hg, hlong⟩⟩
    obtain ⟨hg, hlong⟩ := hresults
    obtain ⟨n, hn⟩ := not_forall.1 hlong
    obtain ⟨hlasts, hfit⟩ := Classical.not_imp.1 hn
    have hfault := @Exchange.outcome_fault (resultWait f) zero_ne n hlasts hfit
    rw [hw]
    dsimp only
    rw [if_pos (hgets.2 hg), hfault]
  · obtain ⟨n, hn⟩ := not_forall.1 hprompts
    obtain ⟨hlasts, hfit⟩ := Classical.not_imp.1 hn
    rw [@Exchange.outcome_fault (promptWait f) zero_ne n hlasts hfit]

/-! ## Queues -/

/-- the fragments whose prompt comes, in the order of the queue -/
inductive Prompted : List Fragment → List Fragment → Prop where
  | nil : Prompted [] []
  | yes {f queue prompted} (h : (promptWait f).Gets) (hrest : Prompted queue prompted) :
    Prompted (f :: queue) (f :: prompted)
  | no {f queue prompted} (h : ¬ (promptWait f).Gets) (hrest : Prompted queue prompted) : Prompted (f :: queue) prompted

/-- the queue is worked off, and after each prompt its fragment is written once, up to the next command; together these
are the prompted fragments in the order of the queue -/
def Delivered (queue : List Fragment) : Prop :=
  ∃ events prompted, runQueue queue = some events ∧ Prompted queue prompted ∧
    afterPrompts events = prompted.map Fragment.buf

theorem afterPrompts_fragment (f : Fragment) (rest : List LineEvent) (h : dataUpTo rest = []) :
    afterPrompts ([.command (qisendCmd f.buf.length), .prompt, .data f.buf, .data f.buf] ++ rest) =
      (f.buf ++ f.buf) :: afterPrompts rest := by
  show (f.buf ++ (f.buf ++ dataUpTo rest)) :: afterPrompts rest = _
  rw [h, List.append_nil]

/-- what is written for a queue starts with a command -/
theorem dataUpTo_queue {queue : List Fragment} {events : List LineEvent} (h : runQueue queue = some events) :
    dataUpTo events = [] := by
  cases queue with
  | nil =>
    cases h
    rfl
  | cons f queue =>
    rw [runQueue, Option.bind_eq_some_iff] at h
    obtain ⟨first, hfirst, h⟩ := h
    obtain ⟨rest, -, rfl⟩ := Option.map_eq_some_iff.1 h
    by_cases hf : f.Fits
    · rcases qisend_fits hf with ⟨-, heq⟩ | ⟨-, heq⟩
      · rw [heq] at hfirst
        cases hfirst
        rfl
      · rw [heq] at hfirst
        cases hfirst
        rfl
    · rw [qisend_long hf] at hfirst
      cases hfirst

/-- what is written after the prompts is each prompted fragment twice -/
theorem runQueue_fits {queue : List Fragment} (h : ∀ f ∈ queue, f.Fits) :
    ∃ events prompted, runQueue queue = some events ∧ Prompted queue prompted ∧
      afterPrompts events = prompted.map fun f => f.buf ++ f.buf := by
  induction queue with
  | nil => exact ⟨[], [], rfl, .nil, rfl⟩
  | cons f queue ih =>
    obtain ⟨rest, prompted, hrest, hprompted, hafter⟩ := ih fun g hg => h g (List.mem_cons_of_mem f hg)
    rcases qisend_fits (h f List.mem_cons_self) with ⟨hgets, hf⟩ | ⟨hgets, hf⟩
    · refine ⟨[.command (qisendCmd f.buf.length), .prompt, .data f.buf, .data f.buf] ++ rest, f :: prompted, ?_,
        .yes hgets hprompted, ?_⟩
      · rw [runQueue, hf, hrest]
        rfl
      · rw [afterPrompts_fragment f rest (dataUpTo_queue hrest), hafter, List.map_cons]
    · refine ⟨[.command (qisendCmd f.buf.length)] ++ rest, prompted, ?_, .no hgets hprompted, hafter⟩
      rw [runQueue, hf, hrest]
      rfl

theorem fits_of_runQueue {queue : List Fragment} {events : List LineEvent} (h : runQueue queue = some events) :
    ∀ f ∈ queue, f.Fits := by
  induction queue generalizing events with
  | nil => simp
  | cons f queue ih =>
    rw [runQueue, Option.bind_eq_some_iff] at h
    obtain ⟨first, hfirst, h⟩ := h
    obtain ⟨rest, hrest, -⟩ := Option.map_eq_some_iff.1 h
    refine List.forall_mem_cons.2 ⟨?_, ih hrest⟩
    by_contra hlong
    rw [qisend_long hlong] at hfirst
    cases hfirst

theorem Prompted.unique {queue ps qs : List Fragment} (hp : Prompted queue ps) (hq : Prompted queue qs) : ps = qs := by
  induction hp generalizing qs with
  | nil =>
    cases hq
    rfl
  | yes h _ ih =>
    cases hq with
    | yes _ hrest => rw [ih hrest]
    | no hno _ => exact absurd h hno
  | no h _ ih =>
    cases hq with
    | yes hyes _ => exact absurd hyes h
    | no _ hrest => exact ih hrest

theorem Prompted.mem_iff {queue prompted : List Fragment} (h : Prompted queue prompted) (f : Fragment) :
    f ∈ prompted ↔ f ∈ queue ∧ (promptWait f).Gets := by
  induction h with
  | nil => simp
  | yes hgets _ ih =>
    rw [List.mem_cons, List.mem_cons, ih, or_and_right]
    refine or_congr ⟨?_, fun h => h.1⟩ Iff.rfl
    rintro rfl
    exact ⟨rfl, hgets⟩
  | no hno _ ih =>
    rw [ih, List.mem_cons, or_and_right]
    refine ⟨.inr, ?_⟩
    rintro (⟨rfl, hgets⟩ | h)
    · exact absurd hgets hno
    · exact h

theorem Delivered.empty {queue : List Fragment} (h : Delivered queue) :
    ∀ f ∈ queue, f.Fits ∧ ((promptWait f).Gets → f.buf = []) := by
  obtain ⟨events, prompted, hrun, hprompted, hafter⟩ := h
  have hfits := fits_of_runQueue hrun
  obtain ⟨events', prompted', hrun', hprompted', hafter'⟩ := runQueue_fits hfits
  rw [hrun] at hrun'
  cases hrun'
  cases hprompted.unique hprompted'
  rw [hafter] at hafter'
  refine fun f hf => ⟨hfits f hf, fun hgets => ?_⟩
  have htwice := List.map_inj_left.1 hafter' f ((hprompted.mem_iff f).2 ⟨hf, hgets⟩)
  simpa using htwice

/-- **Delivery.** The fragments of a queue are delivered exactly if no burst leaves `rx_fifo1` and the prompt comes for
empty fragments only. -/
theorem fragments_delivered_iff (queue : List Fragment) :
    Delivered queue ↔ ∀ f ∈ queue, f.Fits ∧ ((promptWait f).Gets → f.buf = []) := by
  refine ⟨Delivered.empty, fun h => ?_⟩
  obtain ⟨events, prompted, hrun, hprompted, hafter⟩ := runQueue_fits fun f hf => (h f hf).1
  refine ⟨events, prompted, hrun, hprompted, hafter.trans (List.map_congr_left fun f hf => ?_)⟩
  obtain ⟨hmem, hgets⟩ := (hprompted.mem_iff f).1 hf
  rw [(h f hmem).2 hgets, List.append_nil]

/-- one answer, before the first poll -/
def Answers.one (text : List UInt8) : Answers := ⟨ringbufInit CMD_BUF_MAX_LEN, [], [[text]]⟩

/-- **Twice.** The prompt comes for a fragment of one byte, and the byte is written twice. -/
theorem written_twice : ¬ Delivered [⟨[0x41], .one promptText, .one sendOk⟩] := by
  intro h
  obtain ⟨-, hempty⟩ := h.empty _ List.mem_cons_self
  refine absurd (hempty ⟨0, fun j hj => absurd hj (Nat.not_lt_zero j), ?_, .inr (by decide), ?_, ?_⟩) (by decide)
  · intro burst hburst
    rw [List.mem_singleton.1 hburst]
    decide
  · decide
  · decide +kernel

end DataConcentrator.Modem
