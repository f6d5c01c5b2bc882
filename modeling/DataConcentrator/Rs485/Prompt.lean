/-
A bus whose devices answer in time: `vTaskRS485` between devices that send only what they are asked for, while they are
asked.

- `Timely`: what the devices, the memory and the queues have to do for it;
- `exactly_once`: then every frame that comes in is the response to its own request, and none is lost or taken twice;
- `stale_taken`: a frame that comes in while no request is waited for is taken for the response to the next.
-/
import DataConcentrator.Lib.Tally
import DataConcentrator.Rs485.Bus

namespace DataConcentrator.Rs485

open Polling (Served)
open Tally (Along)

/-- a frame that is long enough to be taken for a response -/
def RxFrame.Long (f : RxFrame) : Prop := 2 ≤ f.buf.length

instance (f : RxFrame) : Decidable f.Long := inferInstanceAs (Decidable (_ ≤ _))

variable (Answers : BusFrame → RxFrame → Prop)

/-- a device answers one time while its request is waited for, and its response gets its memory and finds room on its
queue -/
def Timely (s : Bus) : Event → Prop
  | .receive frame => s.rx = none ∧ frame.Long ∧ ∃ f n t, s.phase = .waiting f n t ∧ Answers f frame
  | .turn memory _ => ∀ f n t, s.phase = .waiting f n t → s.rx ≠ none →
      memory = true ∧ (s.responses f.device_type).length < RESPONSES
  | _ => True

/-- what came in is the response to its own request, or waits for the next round -/
structure Matched (frames : List RxFrame) (s : Bus) : Prop where
  pending : ∀ r, s.rx = some r → r.Long ∧ ∃ f n t, s.phase = .waiting f n t ∧ Answers f r
  own : ∀ t ∈ s.served, ∀ r, t.answer = some r → Answers t.request r
  all : s.view.answers ++ s.rx.toList = frames
  queues : ∀ d, s.taken d ++ s.responses d = answersOf d s.served

variable {Answers} {frames : List RxFrame} {s : Bus}

theorem matched_powerOn : Matched Answers [] powerOn :=
  ⟨fun _ h => absurd h.symm (Option.some_ne_none _), fun _ h => absurd h List.not_mem_nil, rfl, fun _ => rfl⟩

/-- a request that ends with a response of its own, or with none -/
theorem matched_finish {f : BusFrame} {n : ℕ} {response : Option RxFrame} (hrx : s.rx = none)
    (hown : ∀ t ∈ s.served, ∀ r, t.answer = some r → Answers t.request r) (hresponse : ∀ r ∈ response, Answers f r)
    (hall : s.view.answers ++ response.toList = frames)
    (hqueues : ∀ d, s.taken d ++ s.responses d =
      answersOf d s.served ++ if f.device_type = d then response.toList else []) :
    Matched Answers frames (s.finish f n response) where
  pending r hr := absurd (hrx.symm.trans hr).symm (Option.some_ne_none r)
  own t ht r hr := by
    rcases List.mem_append.1 ht with ht | ht
    · exact hown t ht r hr
    · obtain rfl := List.mem_singleton.1 ht
      exact hresponse r hr
  all := by
    have hrx' : (s.finish f n response).rx = none := hrx
    rw [view_finish, Polling.answers_finish, hrx', Option.toList_none, List.append_nil]
    exact hall
  queues d := by
    rw [answersOf_finish]
    exact hqueues d

/-- a round without a response -/
theorem Matched.expire (h : Matched Answers frames s) (hrx : s.rx = none) (f : BusFrame) (n t : ℕ) :
    Matched Answers frames (s.expire f n t) := by
  have hnone : ∀ r, s.rx ≠ some r := fun r hr => absurd (hrx.symm.trans hr).symm (Option.some_ne_none r)
  simp only [Bus.expire]
  split_ifs
  · exact ⟨fun r hr => absurd hr (hnone r), h.own, h.all, h.queues⟩
  · refine ⟨fun r hr => absurd hr (hnone r), h.own, ?_, h.queues⟩
    have hanswers : (s.send f (n + 1)).view.answers = s.view.answers := rfl
    rw [hanswers]
    exact h.all
  · refine matched_finish hrx h.own (fun r hr => absurd hr (Option.not_mem_none r)) ?_ fun d => ?_
    · have hall := h.all
      rwa [hrx] at hall
    · rw [Option.toList_none, ite_self, List.append_nil]
      exact h.queues d

theorem respond_room {memory : Bool} {f : BusFrame} (hmemory : memory = true)
    (hroom : (s.responses f.device_type).length < RESPONSES) (response : RxFrame) (d : Module) :
    (s.respond memory f response).responses d = s.responses d ++ if f.device_type = d then [response] else [] := by
  rw [Bus.respond, if_pos ⟨hmemory, hroom⟩]
  dsimp only
  split_ifs with hd
  · subst hd
    rw [Function.update_self]
  · rw [Function.update_of_ne (Ne.symm hd), List.append_nil]

theorem respond_rest (memory : Bool) (f : BusFrame) (response : RxFrame) :
    (s.respond memory f response).taken = s.taken ∧ (s.respond memory f response).served = s.served ∧
      (s.respond memory f response).rx = s.rx := by
  rw [Bus.respond]
  split_ifs <;> exact ⟨rfl, rfl, rfl⟩

theorem Matched.turn {memory : Bool} {hci_outbuf : List UInt8} (h : Matched Answers frames s)
    (htimely : Timely Answers s (.turn memory hci_outbuf)) : Matched Answers frames (s.turn memory hci_outbuf) := by
  obtain ⟨requests, phase, rx, responses, wire, served, taken⟩ := s
  cases phase with
  | receive =>
    have hrx : rx = none := by
      cases rx with
      | none => rfl
      | some r =>
        obtain ⟨-, f, n, t, hphase, -⟩ := h.pending r rfl
        exact absurd hphase Phase.noConfusion
    subst hrx
    cases requests with
    | nil => exact ⟨fun r hr => absurd hr.symm (Option.some_ne_none r), h.own, h.all, h.queues⟩
    | cons f rest => exact ⟨fun r hr => absurd hr.symm (Option.some_ne_none r), h.own, h.all, h.queues⟩
  | waiting f n t =>
    cases rx with
    | none => exact h.expire rfl f n t
    | some response =>
      obtain ⟨hlong, f', n', t', hphase, hanswers⟩ := h.pending response rfl
      obtain ⟨rfl, -, -⟩ := Phase.waiting.inj hphase
      obtain ⟨hmemory, hroom⟩ := htimely f n t rfl (Option.some_ne_none response)
      have hrest := respond_rest (s := ⟨requests, .waiting f n t, none, responses, wire, served, taken⟩) memory f response
      have hqueue := respond_room (s := ⟨requests, .waiting f n t, none, responses, wire, served, taken⟩) hmemory hroom
        response
      simp only [Bus.turn]
      rw [if_pos (show 2 ≤ response.buf.length from hlong)]
      refine matched_finish hrest.2.2 ?_ ?_ ?_ fun d => ?_
      · rw [hrest.2.1]
        exact h.own
      · intro r hr
        rw [Option.mem_some_iff] at hr
        rwa [← hr]
      · rw [view_respond]
        exact h.all
      · rw [hrest.1, hrest.2.1, hqueue, ← List.append_assoc, Option.toList_some]
        exact congrArg (· ++ _) (h.queues d)
  | hci =>
    have hrx : rx = none := by
      cases rx with
      | none => rfl
      | some r =>
        obtain ⟨-, f, n, t, hphase, -⟩ := h.pending r rfl
        exact absurd hphase Phase.noConfusion
    subst hrx
    exact ⟨fun r hr => absurd hr.symm (Option.some_ne_none r), h.own, h.all, h.queues⟩

theorem Matched.step {e : Event} (h : Matched Answers frames s) (htimely : Timely Answers s e) :
    Matched Answers (frames ++ arrived [e]) (Rs485.step s e) := by
  cases e with
  | request f =>
    rw [show arrived [.request f] = [] from rfl, List.append_nil, Rs485.step]
    split_ifs
    · exact ⟨h.pending, h.own, h.all, h.queues⟩
    · exact h
  | receive frame =>
    obtain ⟨hrx, hlong, f, n, t, hphase, hanswers⟩ := htimely
    refine ⟨fun r hr => ?_, h.own, ?_, h.queues⟩
    · obtain rfl := Option.some.inj hr
      exact ⟨hlong, f, n, t, hphase, hanswers⟩
    · have hall := h.all
      rw [hrx, Option.toList_none, List.append_nil] at hall
      rw [← hall]
      rfl
  | turn memory hci_outbuf =>
    rw [show arrived [.turn memory hci_outbuf] = [] from rfl, List.append_nil]
    exact h.turn htimely
  | take d =>
    rw [show arrived [.take d] = [] from rfl, List.append_nil, Rs485.step]
    cases hqueue : s.responses d with
    | nil => exact h
    | cons frame rest =>
      refine ⟨h.pending, h.own, h.all, fun e => ?_⟩
      have he := h.queues e
      by_cases hde : e = d
      · subst hde
        rw [hqueue] at he
        dsimp only
        rw [Function.update_self, Function.update_self, List.append_assoc]
        exact he
      · dsimp only
        rw [Function.update_of_ne hde, Function.update_of_ne hde]
        exact he

theorem matched_run (events : List Event) : ∀ {s : Bus} {frames : List RxFrame}, Matched Answers frames s →
    Along (fun s e => some (step s e)) (Timely Answers) s events →
    Matched Answers (frames ++ arrived events) (run s events) := by
  induction events with
  | nil =>
    intro s frames h _
    rwa [show arrived [] = [] from rfl, List.append_nil]
  | cons e events ih =>
    intro s frames h halong
    have hnext := ih (h.step halong.1) (halong.2 _ rfl)
    rwa [List.append_assoc, arrived, arrived, ← List.filterMap_append] at hnext

/-- what came in is what was answered and what waits for the next round, each by its own request, and it is all on the
queues of the devices or taken off them -/
structure ExactlyOnce (Answers : BusFrame → RxFrame → Prop) (frames : List RxFrame) (s : Bus) : Prop where
  answered : frames = s.served.filterMap Served.answer ++ s.rx.toList
  own : ∀ t ∈ s.served, ∀ r, t.answer = some r → Answers t.request r
  queues : ∀ d, s.taken d ++ s.responses d = answersOf d s.served

/-- **Devices that answer in time.** In any run in which each frame comes in while its own request is waited for, before
another does, and is given its memory and a place on its queue, each is the response to its request, and the tasks of the
devices get every one of them once and in order. -/
theorem exactly_once (Answers : BusFrame → RxFrame → Prop) (events : List Event)
    (htimely : Along (fun s e => some (step s e)) (Timely Answers) powerOn events) :
    ExactlyOnce Answers (arrived events) (run powerOn events) := by
  have h := matched_run events matched_powerOn htimely
  rw [List.nil_append] at h
  exact ⟨h.all.symm, h.own, h.queues⟩

/-- a frame that echoes the address it was sent to -/
def echo : RxFrame := ⟨[1, 3, 2, 0, 7], by decide⟩

theorem answered_in_time : ExactlyOnce (fun f r => f.buf.head? = r.buf.head?) [echo]
    (run powerOn [.request someRequest, .turn true [], .turn true [], .receive echo, .turn true [], .take .LUMETER]) := by
  refine exactly_once _ [.request someRequest, .turn true [], .turn true [], .receive echo, .turn true [],
    .take .LUMETER] ⟨trivial, ?_⟩
  rintro _ ⟨⟩
  refine ⟨fun f n t h => absurd h Phase.noConfusion, ?_⟩
  rintro _ ⟨⟩
  refine ⟨fun f n t _ hrx => absurd rfl hrx, ?_⟩
  rintro _ ⟨⟩
  refine ⟨⟨rfl, by decide, someRequest, 0, 399, rfl, rfl⟩, ?_⟩
  rintro _ ⟨⟩
  refine ⟨fun f n t h _ => ⟨rfl, ?_⟩, ?_⟩
  · obtain ⟨rfl, -, -⟩ := Phase.waiting.inj h
    decide
  · rintro _ ⟨⟩
    exact ⟨trivial, fun _ _ => trivial⟩

/-- **Else** whatever came in while no request was waited for is the response to the next. -/
theorem stale_taken {s : Bus} {f : BusFrame} {rest : List BusFrame} {r : RxFrame} (hphase : s.phase = .receive)
    (hrequests : s.requests = f :: rest) (hrx : s.rx = some r) (hlong : r.Long) (memory memory' : Bool)
    (outbuf outbuf' : List UInt8) :
    (run s [.turn memory outbuf, .turn memory' outbuf']).served = s.served ++ [⟨f, 1, some r⟩] := by
  obtain ⟨requests, phase, rx, responses, wire, served, taken⟩ := s
  subst hphase hrequests hrx
  have hrest := respond_rest (s := ⟨rest, .waiting f 0 400, none, responses, wire ++ [.frame f], served, taken⟩) memory' f r
  simp only [run, List.foldl_cons, List.foldl_nil, step, Bus.turn, Bus.send]
  rw [if_pos (show 2 ≤ r.buf.length from hlong)]
  exact congrArg (· ++ [_]) hrest.2.1

end DataConcentrator.Rs485
