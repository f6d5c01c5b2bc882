/-
Alarm reports: a slot with one alarm, sent again until a response comes or the retransmissions are used up.

- `Sender.run`: the next lines of `SendAlarmReportToServer`; responses are handled between any of them;
- `step`: alarms queued, responses of reports that were sent (late, repeated or never), and the sender;
- `alarm_released`: what an alarm leaves its slot for;
- `foreign_response`: a second response to one alarm drops the next one.
-/
import DataConcentrator.Lib.Tally

namespace DataConcentrator.Report

/-! ## Data -/

/-- `AlarmReport_S`, as far as its report names it; `id` tells the alarms apart -/
structure AlarmReport where
  id : ℕ
  record_type : UInt8
  device_type : UInt8
deriving DecidableEq

/-- the message id of the report, and of the response to it -/
def AlarmReport.msg_id (a : AlarmReport) : UInt16 :=
  let msg_id : UInt16 := if a.record_type = 1 then 0x00A0 else if a.record_type = 0 then 0x00A1 else 0
  msg_id + ((a.device_type.toUInt16 <<< 8) &&& 0xFF00)

/-- the messages at which the handlers of the six kinds of devices set `AlarmReportResponse` to 0 -/
def clearsResponse (msg_id : UInt16) : Bool :=
  msg_id ∈ [0x00A0, 0x00A1, 0x01A0, 0x01A1, 0x02A0, 0x02A1, 0x03A0, 0x03A1, 0x04A0, 0x04A1, 0x05A0, 0x05A1]

structure BasicConfig where
  command_response_timeout : UInt16
  command_retransmission_times : UInt8

/-- where `SendAlarmReportToServer` is, between its uses of `AlarmReportResponse` -/
inductive Line where
  | enter
  | take
  | mark
  | first
  | check
  | wait
  | giveUp
  | drop
deriving DecidableEq

/-- an alarm that has left the slot, with the responses handled since it was taken, and how often it was sent -/
structure Release where
  alarm : AlarmReport
  responses : List AlarmReport
  transmissions : ℕ

/-- what `SendAlarmReportToServer` keeps, its queue, and the flag -/
structure Memory where
  alarmReportResponse : UInt8
  alarm_report : Option AlarmReport
  time_5 : UInt32
  retry_times5 : UInt8
  queue : List AlarmReport
  -- history: alarms so far, reports sent, responses handled since the alarm in the slot was taken, alarms released
  next : ℕ
  transmitted : List AlarmReport
  responses : List AlarmReport
  released : List Release

structure Sender extends Memory where
  line : Line

/-- `SendAlarmReportFrameToServer` -/
def Memory.transmit (m : Memory) : Memory := { m with transmitted := m.alarm_report.toList ++ m.transmitted }

/-- `DeleteAlarmReport`, and the slot is empty -/
def Memory.release (m : Memory) : Memory :=
  { m with
    alarm_report := none
    released := (m.alarm_report.toList.map fun a => ⟨a, m.responses, m.transmitted.count a⟩) ++ m.released }

/-- the sender goes on; `now` is the clock where it is compared, `kept` where it is kept -/
def Sender.run (c : BasicConfig) (s : Sender) (now kept : UInt32) : Sender :=
  match s.line with
  | .enter => ⟨s.toMemory, if s.alarmReportResponse = 0 then .take else .check⟩
  | .take =>
    match s.queue with
    | [] => ⟨s.release, .check⟩
    | a :: queue => ⟨{ s.release with alarm_report := some a, queue := queue, responses := [] }, .mark⟩
  | .mark => ⟨{ s.toMemory with alarmReportResponse := 1 }, .first⟩
  | .first => ⟨{ s.transmit with time_5 := kept, retry_times5 := 0 }, .check⟩
  | .check => ⟨s.toMemory, if s.alarmReportResponse = 1 then .wait else .enter⟩
  | .wait =>
    if c.command_response_timeout.toNat ≤ (now - s.time_5).toNat then
      if s.retry_times5 < c.command_retransmission_times then
        ⟨{ s.transmit with time_5 := kept, retry_times5 := s.retry_times5 + 1 }, .check⟩
      else ⟨{ s.toMemory with time_5 := kept, retry_times5 := 0 }, .giveUp⟩
    else ⟨s.toMemory, .enter⟩
  | .giveUp => ⟨{ s.toMemory with alarmReportResponse := 0 }, .drop⟩
  | .drop => ⟨s.release, .enter⟩

/-! ## Runs -/

inductive Event where
  | push (record_type device_type : UInt8)
  | respond (a : AlarmReport)
  | run (now kept : UInt32)

/-- the length of `xQueue_AlarmReportSend` -/
def ALARM_REPORT_QUEUE_LEN : ℕ := 20

/-- a step; the server responds to reports only -/
def step (c : BasicConfig) (s : Sender) : Event → Option Sender
  | .push record_type device_type =>
    if s.queue.length < ALARM_REPORT_QUEUE_LEN then
      some { s with queue := s.queue ++ [⟨s.next, record_type, device_type⟩], next := s.next + 1 }
    else some s
  | .respond a =>
    if a ∈ s.transmitted then
      if clearsResponse a.msg_id then some { s with alarmReportResponse := 0, responses := a :: s.responses }
      else some s
    else none
  | .run now kept => some (s.run c now kept)

def start : Sender := ⟨⟨0, none, 0, 0, [], 0, [], [], []⟩, .enter⟩

/-- responses are handled while the alarm they are for is in the slot, or none is -/
def RespondsToSlot (s : Sender) : Event → Prop
  | .respond a => ∀ b, s.alarm_report = some b → b = a
  | _ => True

/-! ## The invariant -/

/-- alarms are told apart -/
structure Named (m : Memory) : Prop where
  queue_nodup : m.queue.Nodup
  queue : ∀ a ∈ m.queue, a.id < m.next ∧ a ∉ m.transmitted
  transmitted : ∀ a ∈ m.transmitted, a.id < m.next
  slot : ∀ a, m.alarm_report = some a → a.id < m.next ∧ a ∉ m.queue

/-- sent once, and once for each retransmission -/
structure Sent (c : BasicConfig) (m : Memory) (a : AlarmReport) : Prop where
  count : m.transmitted.count a = 1 + m.retry_times5.toNat
  le : m.retry_times5 ≤ c.command_retransmission_times

/-- the flag is 0 only after a response -/
def Answered (m : Memory) : Prop := m.alarmReportResponse = 0 → m.responses ≠ []

/-- what holds where the sender is -/
def Holds (c : BasicConfig) (m : Memory) : Line → Prop
  | .enter => (m.alarm_report = none → m.alarmReportResponse = 0) ∧ ∀ a, m.alarm_report = some a → Sent c m a ∧ Answered m
  | .take => m.alarmReportResponse = 0 ∧ ∀ a, m.alarm_report = some a → m.responses ≠ []
  | .mark => ∃ a, m.alarm_report = some a ∧ a ∉ m.transmitted
  | .first => ∃ a, m.alarm_report = some a ∧ a ∉ m.transmitted ∧ Answered m
  | .check => (m.alarm_report = none → m.alarmReportResponse = 0) ∧ ∀ a, m.alarm_report = some a → Sent c m a ∧ Answered m
  | .wait => ∃ a, m.alarm_report = some a ∧ Sent c m a ∧ Answered m
  | .giveUp => ∃ a, m.alarm_report = some a ∧ m.transmitted.count a = 1 + c.command_retransmission_times.toNat
  | .drop => m.alarmReportResponse = 0 ∧
    ∃ a, m.alarm_report = some a ∧ m.transmitted.count a = 1 + c.command_retransmission_times.toNat

/-- an alarm leaves the slot after a response, or after all its transmissions -/
def Release.Due (c : BasicConfig) (r : Release) : Prop :=
  r.responses ≠ [] ∨ r.transmissions = 1 + c.command_retransmission_times.toNat

structure Inv (c : BasicConfig) (s : Sender) : Prop where
  named : Named s.toMemory
  holds : Holds c s.toMemory s.line
  released : ∀ r ∈ s.released, r.Due c

section Invariant

variable {c : BasicConfig} {m : Memory} {s t : Sender}

/-! ## Alarms are told apart -/

/-- the alarm in the slot is sent -/
theorem Named.transmit (h : Named m) : Named m.transmit := by
  have hmem : ∀ a, a ∈ m.transmit.transmitted ↔ m.alarm_report = some a ∨ a ∈ m.transmitted := by
    intro a
    rw [Memory.transmit, List.mem_append, Option.mem_toList]
  refine ⟨h.queue_nodup, fun a ha => ⟨(h.queue a ha).1, fun hsent => ?_⟩, fun a ha => ?_, h.slot⟩
  · rcases (hmem a).1 hsent with hslot | hsent
    · exact (h.slot a hslot).2 ha
    · exact (h.queue a ha).2 hsent
  · rcases (hmem a).1 ha with hslot | hsent
    · exact (h.slot a hslot).1
    · exact h.transmitted a hsent

/-- the first alarm of the queue is taken -/
theorem Named.take (h : Named m) {a : AlarmReport} {queue : List AlarmReport} (hqueue : m.queue = a :: queue) :
    Named { m.release with alarm_report := some a, queue := queue, responses := [] } := by
  have hnodup := h.queue_nodup
  rw [hqueue, List.nodup_cons] at hnodup
  refine ⟨hnodup.2, fun b hb => h.queue b (hqueue ▸ List.mem_cons_of_mem a hb), h.transmitted, fun b hb => ?_⟩
  cases hb
  exact ⟨(h.queue a (hqueue ▸ List.mem_cons_self)).1, hnodup.1⟩

/-- a new alarm is queued -/
theorem Named.push (h : Named m) (record_type device_type : UInt8) :
    Named { m with queue := m.queue ++ [⟨m.next, record_type, device_type⟩], next := m.next + 1 } := by
  have hnew : ∀ a : AlarmReport, a.id < m.next → a ≠ ⟨m.next, record_type, device_type⟩ := by
    intro a ha heq
    rw [heq] at ha
    exact lt_irrefl _ ha
  refine ⟨?_, fun a ha => ?_, fun a ha => (h.transmitted a ha).trans (Nat.lt_succ_self _), fun a ha => ?_⟩
  · refine List.nodup_append.2 ⟨h.queue_nodup, List.nodup_singleton _, fun a ha b hb => ?_⟩
    rw [List.mem_singleton.1 hb]
    exact hnew a (h.queue a ha).1
  · rcases List.mem_append.1 ha with ha | ha
    · exact ⟨((h.queue a ha).1).trans (Nat.lt_succ_self _), (h.queue a ha).2⟩
    · rw [List.mem_singleton.1 ha]
      exact ⟨Nat.lt_succ_self _, fun hsent => lt_irrefl _ (h.transmitted _ hsent)⟩
  · obtain ⟨hlt, hqueue⟩ := h.slot a ha
    refine ⟨hlt.trans (Nat.lt_succ_self _), fun hmem => ?_⟩
    rcases List.mem_append.1 hmem with hmem | hmem
    · exact hqueue hmem
    · exact hnew a hlt (List.mem_singleton.1 hmem)

/-! ## The sender -/

/-- the first time an alarm is sent -/
theorem count_first {a : AlarmReport} (hslot : m.alarm_report = some a) (hnew : a ∉ m.transmitted) :
    m.transmit.transmitted.count a = 1 := by
  rw [Memory.transmit, hslot]
  show (a :: m.transmitted).count a = 1
  rw [List.count_cons_self, List.count_eq_zero.2 hnew]

/-- it is sent once more -/
theorem count_again {a : AlarmReport} (hslot : m.alarm_report = some a) :
    m.transmit.transmitted.count a = m.transmitted.count a + 1 := by
  rw [Memory.transmit, hslot]
  exact List.count_cons_self

/-- what leaves the slot -/
theorem release_due {D : Release → Prop} (h : ∀ r ∈ m.released, D r)
    (hdue : ∀ a, m.alarm_report = some a → D ⟨a, m.responses, m.transmitted.count a⟩) :
    ∀ r ∈ m.release.released, D r := by
  intro r hr
  rw [Memory.release] at hr
  rcases List.mem_append.1 hr with hr | hr
  · obtain ⟨a, ha, rfl⟩ := List.mem_map.1 hr
    exact hdue a (Option.mem_toList.1 ha)
  · exact h r hr

/-- a retransmission -/
theorem Sent.again {a : AlarmReport} (h : Sent c m a) (hslot : m.alarm_report = some a)
    (hretry : m.retry_times5 < c.command_retransmission_times) (kept : UInt32) :
    Sent c { m.transmit with time_5 := kept, retry_times5 := m.retry_times5 + 1 } a := by
  have hlt : m.retry_times5.toNat + 1 < 256 :=
    lt_of_le_of_lt (UInt8.lt_iff_toNat_lt.1 hretry) c.command_retransmission_times.toNat_lt
  have hsucc : (m.retry_times5 + 1).toNat = m.retry_times5.toNat + 1 := by
    rw [UInt8.toNat_add]
    exact Nat.mod_eq_of_lt hlt
  constructor
  · show m.transmit.transmitted.count a = 1 + (m.retry_times5 + 1).toNat
    rw [count_again hslot, h.count, hsucc, Nat.add_assoc]
  · apply UInt8.le_iff_toNat_le.2
    show (m.retry_times5 + 1).toNat ≤ _
    rw [hsucc]
    exact UInt8.lt_iff_toNat_lt.1 hretry

/-- **The sender** keeps the invariant wherever it is. -/
theorem run_inv (h : Inv c s) (now kept : UInt32) : Inv c (s.run c now kept) := by
  obtain ⟨hn, hl, hr⟩ := h
  rw [Sender.run]
  cases hline : s.line with
  | enter =>
    rw [hline] at hl
    refine ⟨hn, ?_, hr⟩
    dsimp only
    split_ifs with hflag
    · exact ⟨hflag, fun a ha => (hl.2 a ha).2 hflag⟩
    · exact hl
  | take =>
    rw [hline] at hl
    have hreleased := release_due hr fun a ha => Or.inl (hl.2 a ha)
    dsimp only
    split
    · exact ⟨⟨hn.queue_nodup, hn.queue, hn.transmitted, fun _ ha => (nomatch ha)⟩,
        ⟨fun _ => hl.1, fun _ ha => (nomatch ha)⟩, hreleased⟩
    · next a queue hqueue =>
      exact ⟨hn.take hqueue, ⟨a, rfl, (hn.queue a (hqueue ▸ List.mem_cons_self)).2⟩, hreleased⟩
  | mark =>
    rw [hline] at hl
    obtain ⟨a, hslot, hnew⟩ := hl
    have hone : (1 : UInt8) ≠ 0 := by decide
    exact ⟨⟨hn.1, hn.2, hn.3, hn.4⟩, ⟨a, hslot, hnew, fun hflag => absurd hflag hone⟩, hr⟩
  | first =>
    rw [hline] at hl
    obtain ⟨a, hslot, hnew, hans⟩ := hl
    have hn' := hn.transmit
    refine ⟨⟨hn'.1, hn'.2, hn'.3, hn'.4⟩, ⟨fun hnone => ?_, fun b hb => ?_⟩, hr⟩
    · exact absurd (hslot.symm.trans hnone) (Option.some_ne_none a)
    · cases hslot.symm.trans hb
      exact ⟨⟨count_first hslot hnew, UInt8.zero_le⟩, hans⟩
  | check =>
    rw [hline] at hl
    refine ⟨hn, ?_, hr⟩
    dsimp only
    split_ifs with hflag
    · cases hslot : s.alarm_report with
      | none => exact absurd ((hl.1 hslot).symm.trans hflag) (by decide)
      | some a => exact ⟨a, hslot, hl.2 a hslot⟩
    · exact hl
  | wait =>
    rw [hline] at hl
    obtain ⟨a, hslot, hsent, hans⟩ := hl
    have hcheck : ∀ {b}, s.alarm_report = some b → b = a := fun hb => Option.some.inj (hb.symm.trans hslot)
    have hfilled : s.alarm_report = none → s.alarmReportResponse = 0 :=
      fun hnone => absurd (hslot.symm.trans hnone) (Option.some_ne_none a)
    dsimp only
    split_ifs with htime hretry
    · have hn' := hn.transmit
      refine ⟨⟨hn'.1, hn'.2, hn'.3, hn'.4⟩, ⟨hfilled, fun b hb => ?_⟩, hr⟩
      cases hcheck hb
      exact ⟨hsent.again hslot hretry kept, hans⟩
    · -- the retransmissions are used up
      have heq : s.retry_times5.toNat = c.command_retransmission_times.toNat :=
        le_antisymm (UInt8.le_iff_toNat_le.1 hsent.le) (not_lt.1 fun h => hretry (UInt8.lt_iff_toNat_lt.2 h))
      exact ⟨⟨hn.1, hn.2, hn.3, hn.4⟩, ⟨a, hslot, heq ▸ hsent.count⟩, hr⟩
    · refine ⟨hn, ⟨hfilled, fun b hb => ?_⟩, hr⟩
      cases hcheck hb
      exact ⟨hsent, hans⟩
  | giveUp =>
    rw [hline] at hl
    exact ⟨⟨hn.1, hn.2, hn.3, hn.4⟩, ⟨rfl, hl⟩, hr⟩
  | drop =>
    rw [hline] at hl
    obtain ⟨hflag, a, hslot, hcount⟩ := hl
    refine ⟨⟨hn.queue_nodup, hn.queue, hn.transmitted, fun _ ha => (nomatch ha)⟩,
      ⟨fun _ => hflag, fun _ ha => (nomatch ha)⟩, release_due hr fun b hb => ?_⟩
    cases hslot.symm.trans hb
    exact Or.inr hcount

/-- a response that is handled leaves what holds at each place -/
theorem Holds.respond {line : Line} (h : Holds c m line) (a : AlarmReport) :
    Holds c { m with alarmReportResponse := 0, responses := a :: m.responses } line := by
  have hsent : ∀ {b}, Sent c m b → Sent c { m with alarmReportResponse := 0, responses := a :: m.responses } b :=
    fun hb => ⟨hb.count, hb.le⟩
  have hans : Answered { m with alarmReportResponse := 0, responses := a :: m.responses } := fun _ => List.cons_ne_nil _ _
  cases line with
  | enter => exact ⟨fun _ => rfl, fun b hb => ⟨hsent (h.2 b hb).1, hans⟩⟩
  | take => exact ⟨rfl, fun _ _ => List.cons_ne_nil _ _⟩
  | mark => exact h
  | first =>
    obtain ⟨b, hslot, hnew, -⟩ := h
    exact ⟨b, hslot, hnew, hans⟩
  | check => exact ⟨fun _ => rfl, fun b hb => ⟨hsent (h.2 b hb).1, hans⟩⟩
  | wait =>
    obtain ⟨b, hslot, hb, -⟩ := h
    exact ⟨b, hslot, hsent hb, hans⟩
  | giveUp => exact h
  | drop => exact ⟨rfl, h.2⟩

/-- an alarm that is queued leaves it too -/
theorem Holds.push {line : Line} (h : Holds c m line) (queue : List AlarmReport) (next : ℕ) :
    Holds c { m with queue := queue, next := next } line := by
  have hsent : ∀ {b}, Sent c m b → Sent c { m with queue := queue, next := next } b := fun hb => ⟨hb.count, hb.le⟩
  cases line with
  | enter => exact ⟨h.1, fun b hb => ⟨hsent (h.2 b hb).1, (h.2 b hb).2⟩⟩
  | take => exact h
  | mark => exact h
  | first => exact h
  | check => exact ⟨h.1, fun b hb => ⟨hsent (h.2 b hb).1, (h.2 b hb).2⟩⟩
  | wait =>
    obtain ⟨b, hslot, hb, hans⟩ := h
    exact ⟨b, hslot, hsent hb, hans⟩
  | giveUp => exact h
  | drop => exact h

/-- **One step** keeps the invariant. -/
theorem step_inv (h : Inv c s) (e : Event) (ht : step c s e = some t) : Inv c t := by
  cases e with
  | push record_type device_type =>
    rw [step] at ht
    split_ifs at ht
    · cases ht
      exact ⟨h.named.push record_type device_type, h.holds.push _ _, h.released⟩
    · cases ht
      exact h
  | respond a =>
    rw [step] at ht
    split_ifs at ht
    · cases ht
      exact ⟨⟨h.named.queue_nodup, h.named.queue, h.named.transmitted, h.named.slot⟩, h.holds.respond a, h.released⟩
    · cases ht
      exact h
  | run now kept =>
    cases ht
    exact run_inv h now kept

/-! ## Responses to the alarm in the slot -/

/-- the responses handled since the alarm in the slot was taken are to it -/
structure Own (m : Memory) : Prop where
  slot : ∀ a, m.alarm_report = some a → ∀ b ∈ m.responses, b = a
  released : ∀ r ∈ m.released, ∀ b ∈ r.responses, b = r.alarm

theorem Own.release (h : Own m) : ∀ r ∈ m.release.released, ∀ b ∈ r.responses, b = r.alarm :=
  release_due (D := fun r => ∀ b ∈ r.responses, b = r.alarm) h.released h.slot

theorem Own.run (h : Own s.toMemory) (now kept : UInt32) : Own (s.run c now kept).toMemory := by
  rw [Sender.run]
  cases s.line with
  | enter => exact h
  | take =>
    dsimp only
    split
    · exact ⟨fun _ ha => (nomatch ha), h.release⟩
    · exact ⟨fun _ _ b hb => absurd hb List.not_mem_nil, h.release⟩
  | mark => exact ⟨h.slot, h.released⟩
  | first => exact ⟨h.slot, h.released⟩
  | check => exact h
  | wait =>
    dsimp only
    split_ifs
    · exact ⟨h.slot, h.released⟩
    · exact ⟨h.slot, h.released⟩
    · exact h
  | giveUp => exact ⟨h.slot, h.released⟩
  | drop => exact ⟨fun _ ha => (nomatch ha), h.release⟩

theorem Own.step (h : Own s.toMemory) (e : Event) (he : RespondsToSlot s e) (ht : step c s e = some t) :
    Own t.toMemory := by
  cases e with
  | push record_type device_type =>
    rw [Report.step] at ht
    split_ifs at ht
    · cases ht
      exact ⟨h.slot, h.released⟩
    · cases ht
      exact h
  | respond a =>
    rw [Report.step] at ht
    split_ifs at ht
    · cases ht
      refine ⟨fun b hb d hd => ?_, h.released⟩
      rcases List.mem_cons.1 hd with rfl | hd
      · exact (he b hb).symm
      · exact h.slot b hb d hd
    · cases ht
      exact h
  | run now kept =>
    cases ht
    exact h.run now kept

end Invariant

theorem inv_start (c : BasicConfig) : Inv c start := by
  refine ⟨⟨List.nodup_nil, fun _ ha => absurd ha List.not_mem_nil, fun _ ha => absurd ha List.not_mem_nil,
    fun _ ha => (nomatch ha)⟩, ⟨fun _ => rfl, fun _ ha => (nomatch ha)⟩, fun _ hr => absurd hr List.not_mem_nil⟩

theorem own_start : Own start.toMemory := ⟨fun _ ha => (nomatch ha), fun _ hr => absurd hr List.not_mem_nil⟩

/-- **Alarms that leave their slot.** In every run an alarm leaves it after a response that was handled since it was taken,
or after one transmission and all the retransmissions. Where responses are handled while their own alarm is in the slot or
none is, the response is to this alarm. -/
theorem alarm_released (c : BasicConfig) (events : List Event) (t : Sender)
    (ht : events.foldlM (step c) start = some t) :
    (∀ r ∈ t.released, r.responses ≠ [] ∨ r.transmissions = 1 + c.command_retransmission_times.toNat) ∧
      (Tally.Along (step c) RespondsToSlot start events →
        ∀ r ∈ t.released, r.alarm ∈ r.responses ∨ r.transmissions = 1 + c.command_retransmission_times.toNat) := by
  have hinv : Inv c t := Tally.last_of_along (Q := fun _ _ => True) (D := fun _ => True)
    (fun _ e _ _ hs _ hstep => step_inv hs e hstep) events (fun _ _ => trivial) _ _ (inv_start c)
    (Tally.along_of_forall (fun _ _ => trivial) events _) ht
  refine ⟨hinv.released, fun halong r hr => ?_⟩
  have hown : Own t.toMemory := Tally.last_of_along (D := fun _ => True)
    (fun s e u _ (hs : Own s.toMemory) he hstep => hs.step e he hstep) events (fun _ _ => trivial) _ _ own_start halong ht
  rcases hinv.released r hr with hresp | hcount
  · obtain ⟨b, hb⟩ := List.exists_mem_of_ne_nil _ hresp
    exact Or.inl (hown.released r hr b hb ▸ hb)
  · exact Or.inr hcount

/-! ## Two alarms -/

/-- the settings from the factory -/
def defaults : BasicConfig := ⟨60, 3⟩

/-- the sender goes on `n` times in a minute in which nothing is due -/
def runs (n : ℕ) : List Event := List.replicate n (.run 0 0)

def firstAlarm : AlarmReport := ⟨0, 1, 0⟩

/-- two alarms; the first is sent, and once more after a minute; a response to it is handled -/
def firstAnswered : List Event :=
  [.push 1 0, .push 1 0] ++ runs 5 ++ [.run 60 0, .respond firstAlarm] ++ runs 3

theorem alarm_released_answered :
    ∃ t, firstAnswered.foldlM (step defaults) start = some t ∧ t.released.length = 1 ∧
      ∀ r ∈ t.released, r.responses ≠ [] ∨ r.transmissions = 4 := by
  have hrun : (firstAnswered.foldlM (step defaults) start).map (fun t => t.released.length) = some 1 := by
    decide +kernel
  obtain ⟨t, ht, hlength⟩ := Option.map_eq_some_iff.1 hrun
  exact ⟨t, ht, hlength, (alarm_released defaults firstAnswered t ht).1⟩

/-- the second alarm is sent, and one more response to the first one is handled -/
def answeredAgain : List Event := firstAnswered ++ runs 2 ++ [.respond firstAlarm] ++ runs 3

/-- **A response to another alarm.** The response to the second transmission of the first alarm is handled when the second
one has been sent once: it is released, with three retransmissions left. -/
theorem foreign_response :
    ∃ t r, answeredAgain.foldlM (step defaults) start = some t ∧
      r ∈ t.released ∧ r.alarm ∉ r.responses ∧ r.transmissions = 1 ∧ defaults.command_retransmission_times = 3 := by
  have hrun : (answeredAgain.foldlM (step defaults) start).map
      (fun t => t.released.head?.map fun r => (decide (r.alarm ∈ r.responses), r.transmissions)) =
      some (some (false, 1)) := by decide +kernel
  obtain ⟨t, ht, hval⟩ := Option.map_eq_some_iff.1 hrun
  obtain ⟨r, hr, hval⟩ := Option.map_eq_some_iff.1 hval
  obtain ⟨hown, hcount⟩ := Prod.mk.inj hval
  exact ⟨t, r, ht, List.mem_of_head? hr, of_decide_eq_false hown, hcount, rfl⟩

end DataConcentrator.Report
