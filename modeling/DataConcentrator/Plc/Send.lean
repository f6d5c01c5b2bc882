/-
Sending over the power line: `SendPlcFrameToDeviceAndWaitResponse`.

A broadcast or group frame is repeated a set number of times; a unicast frame is sent, awaited, and sent again when
nothing answers. The counter `re_send_times` is a `u8`, and the wait goes through a `u16` of 10 ms.
- `send_bounded_iff`: the transmissions, the waits and the result are those of the settings, but for an awaited frame whose
  wait or whose count wraps before it is answered;
- `unanswered_endless`: with 255 retransmissions a frame that nothing answers is sent for ever;
- `response_cases`: what the result can be for each kind of frame.
-/
import DataConcentrator.Plc.Execute
import DataConcentrator.Plc.Receive

namespace DataConcentrator.Plc

/-! ## Data -/

/-- the settings of `LampBasicConfig_S` that sending reads -/
structure LampBasicConfig where
  /-- seconds -/
  response_timeout : UInt16
  retransmission_times : UInt8
  broadcast_times : UInt8
  /-- milliseconds -/
  broadcast_interval_time : UInt16
deriving DecidableEq, Repr

/-- one transmission and what followed it: the milliseconds waited, the calls of `RecvAndAnalysisPlcBottomFrame`, and
whether an answer came -/
structure Attempt where
  sent : List UInt8
  delay_ms : ℕ
  polls : ℕ
  answered : Bool
deriving DecidableEq, Repr

/-- the address an answer must come from; `0xD2` gives the device a new one -/
def BottomFrame.awaited (frame : BottomFrame) : Option UInt32 :=
  if frame.cmd_code = 0xD2 then readBe32 (fun i => frame.buf[i]?) 0 else some frame.address

/-- the comparison of a received frame with the frame sent -/
def BottomFrame.answeredBy (frame ack_frame : BottomFrame) : Option Bool :=
  frame.awaited.map fun address =>
    ack_frame.address = address ∧ (ack_frame.cmd_code = 0x80 ∨ ack_frame.cmd_code = frame.cmd_code)

/-! ## `SendPlcFrameToDeviceAndWaitResponse` -/

/-- what the power line brings: the result of each call of `RecvAndAnalysisPlcBottomFrame` -/
abbrev Pattern := ℕ → Option BottomFrame

/-- the loop `while(time_out)`, from the `polled`-th call on: whether an answer came, and the calls made -/
def awaitAnswer (frame : BottomFrame) (pattern : Pattern) (polled : ℕ) : ℕ → Option (Bool × ℕ)
  | 0 => some (false, polled)
  | time_out + 1 =>
    match pattern polled with
    | none => awaitAnswer frame pattern (polled + 1) time_out
    | some ack_frame => (frame.answeredBy ack_frame).bind fun responsed =>
      if responsed then some (true, polled + 1) else awaitAnswer frame pattern (polled + 1) time_out

/-- `time_out`, a `u16` of 10 ms -/
def LampBasicConfig.timeOut (config : LampBasicConfig) : ℕ := config.response_timeout.toNat * 100 % 65536

/-- the transmissions so far, the calls so far, and `re_send_times` -/
structure Sending where
  log : List Attempt
  polled : ℕ
  re_send_times : ℕ

/-- where one transmission leads: to `GET_OUT`, or to `RE_SEND` again -/
inductive Round where
  | getOut (ret : Response) (log : List Attempt)
  | again (s : Sending)

/-- after a broadcast or group frame -/
def sharedRound (config : LampBasicConfig) (send_buf : List UInt8) (s : Sending) : Round :=
  let log := s.log ++ [⟨send_buf, config.broadcast_interval_time.toNat, 0, false⟩]
  let re_send_times := (s.re_send_times + 1) % 256
  if re_send_times ≥ config.broadcast_times.toNat then .getOut .success log
  else .again ⟨log, s.polled, re_send_times⟩

/-- after a unicast frame and its wait -/
def unicastRound (config : LampBasicConfig) (send_buf : List UInt8) (s : Sending) (responsed : Bool) (polled : ℕ) :
    Round :=
  let log := s.log ++ [⟨send_buf, (polled - s.polled) * 10, polled - s.polled, responsed⟩]
  let re_send_times := (s.re_send_times + 1) % 256
  if responsed then .getOut .success log
  else if re_send_times ≤ config.retransmission_times.toNat then .again ⟨log, polled, re_send_times⟩
  else .getOut .timeout log

/-- one transmission and what follows it -/
def sendRound (config : LampBasicConfig) (pattern : Pattern) (frame : BottomFrame) (send_buf : List UInt8)
    (s : Sending) : Option Round :=
  if frame.type = 0 ∨ frame.type = 1 then some (sharedRound config send_buf s)
  else if frame.type = 2 ∧ frame.wait_ack = 1 then
    (awaitAnswer frame pattern s.polled config.timeOut).map fun (responsed, polled) =>
      unicastRound config send_buf s responsed polled
  else some (.getOut .start (s.log ++ [⟨send_buf, 0, 0, false⟩]))

/-- from `RE_SEND` on; `none` while it has not ended -/
def reSend (config : LampBasicConfig) (pattern : Pattern) (frame : BottomFrame) (send_buf : List UInt8) :
    ℕ → Sending → Option (Response × List Attempt)
  | 0, _ => none
  | fuel + 1, s => (sendRound config pattern frame send_buf s).bind fun
    | .getOut ret log => some (ret, log)
    | .again s => reSend config pattern frame send_buf fuel s

/-- `SendPlcFrameToDeviceAndWaitResponse`: its result and its transmissions -/
def sendPlcFrameToDeviceAndWaitResponse (config : LampBasicConfig) (pattern : Pattern) (in_frame : BottomFrame)
    (fuel : ℕ) : Option (Response × List Attempt) :=
  (combinePlcBottomFrame in_frame fun _ => 0).bind fun (send_len, send_buf) =>
    if send_len = 0 then some (.fail, [])
    else reSend config pattern in_frame (ByteStore.read send_buf 0 send_len) fuel ⟨[], 0, 0⟩

/-! ## One attempt -/

section Await

variable {frame : BottomFrame} {pattern : Pattern}

/-- an answer to the frame -/
def Answers (frame ack : BottomFrame) : Prop :=
  frame.awaited = some ack.address ∧ (ack.cmd_code = 0x80 ∨ ack.cmd_code = frame.cmd_code)

/-- the `k`-th call brings an answer -/
def AnswerAt (frame : BottomFrame) (pattern : Pattern) (k : ℕ) : Prop :=
  ∃ ack, pattern k = some ack ∧ Answers frame ack

/-- one call: it ends the wait exactly if it brings an answer -/
theorem awaitAnswer_succ (h : frame.awaited.isSome) (polled time_out : ℕ) :
    (AnswerAt frame pattern polled → awaitAnswer frame pattern polled (time_out + 1) = some (true, polled + 1)) ∧
    (¬ AnswerAt frame pattern polled →
      awaitAnswer frame pattern polled (time_out + 1) = awaitAnswer frame pattern (polled + 1) time_out) := by
  obtain ⟨address, haddress⟩ := Option.isSome_iff_exists.1 h
  rw [awaitAnswer]
  cases hack : pattern polled with
  | none =>
    refine ⟨?_, fun _ => rfl⟩
    rintro ⟨ack, hsome, -⟩
    rw [hack] at hsome
    cases hsome
  | some ack =>
    have hiff : AnswerAt frame pattern polled ↔
        ack.address = address ∧ (ack.cmd_code = 0x80 ∨ ack.cmd_code = frame.cmd_code) := by
      simp [AnswerAt, Answers, hack, haddress, eq_comm]
    simp only [BottomFrame.answeredBy, haddress, Option.map_some, Option.bind_some, decide_eq_true_eq, hiff]
    exact ⟨fun hresp => if_pos hresp, fun hresp => if_neg hresp⟩

/-- no answer comes: the wait takes its whole time -/
theorem awaitAnswer_missed (h : frame.awaited.isSome) (time_out : ℕ) : ∀ polled,
    (∀ k, polled ≤ k → k < polled + time_out → ¬ AnswerAt frame pattern k) →
    awaitAnswer frame pattern polled time_out = some (false, polled + time_out) := by
  induction time_out with
  | zero => exact fun polled _ => rfl
  | succ time_out ih =>
    intro polled hno
    rw [(awaitAnswer_succ h polled time_out).2 (hno polled le_rfl (by omega)),
      ih (polled + 1) fun k hk hlt => hno k (by omega) (by omega), Nat.add_right_comm, Nat.add_assoc]

/-- the first answer ends the wait -/
theorem awaitAnswer_hit (h : frame.awaited.isSome) {k : ℕ} (hk : AnswerAt frame pattern k) (time_out : ℕ) : ∀ polled,
    polled ≤ k → k < polled + time_out → (∀ j, polled ≤ j → j < k → ¬ AnswerAt frame pattern j) →
    awaitAnswer frame pattern polled time_out = some (true, k + 1) := by
  induction time_out with
  | zero => exact fun polled hle hlt => absurd hlt (Nat.not_lt.2 hle)
  | succ time_out ih =>
    intro polled hle hlt hfirst
    rcases Nat.eq_or_lt_of_le hle with rfl | hlater
    · exact (awaitAnswer_succ h polled time_out).1 hk
    · rw [(awaitAnswer_succ h polled time_out).2 (hfirst polled le_rfl hlater)]
      exact ih (polled + 1) hlater (by omega) fun j hj => hfirst j (by omega)

end Await

/-! ## From `RE_SEND` on -/

section ReSend

variable {config : LampBasicConfig} {pattern : Pattern} {frame : BottomFrame} {send_buf : List UInt8}

/-- the transmissions known after a round -/
def Round.log : Round → List Attempt
  | .getOut _ log => log
  | .again s => s.log

theorem sharedRound_log (s : Sending) :
    (sharedRound config send_buf s).log = s.log ++ [⟨send_buf, config.broadcast_interval_time.toNat, 0, false⟩] := by
  unfold sharedRound
  dsimp only
  split_ifs <;> rfl

theorem unicastRound_log (s : Sending) (responsed : Bool) (polled : ℕ) :
    (unicastRound config send_buf s responsed polled).log =
      s.log ++ [⟨send_buf, (polled - s.polled) * 10, polled - s.polled, responsed⟩] := by
  unfold unicastRound
  dsimp only
  split_ifs <;> rfl

/-- a round transmits once -/
theorem sendRound_log {s : Sending} {round : Round} (h : sendRound config pattern frame send_buf s = some round) :
    ∃ a, round.log = s.log ++ [a] := by
  unfold sendRound at h
  split_ifs at h
  · cases h
    exact ⟨_, sharedRound_log s⟩
  · obtain ⟨⟨responsed, polled⟩, -, rfl⟩ := Option.map_eq_some_iff.1 h
    exact ⟨_, unicastRound_log s responsed polled⟩
  · cases h
    exact ⟨_, rfl⟩

/-- what the first round sent stays -/
theorem reSend_log (fuel : ℕ) : ∀ {s : Sending} {r log}, reSend config pattern frame send_buf fuel s = some (r, log) →
    ∃ round more, sendRound config pattern frame send_buf s = some round ∧ log = round.log ++ more := by
  induction fuel with
  | zero => intro s r log h; cases h
  | succ fuel ih =>
    intro s r log h
    obtain ⟨round, hround, hrest⟩ := Option.bind_eq_some_iff.1 h
    refine ⟨round, ?_⟩
    cases round with
    | getOut ret sent =>
      cases hrest
      exact ⟨[], hround, (List.append_nil _).symm⟩
    | again s' =>
      obtain ⟨next, more, hnext, hlog⟩ := ih hrest
      obtain ⟨a, ha⟩ := sendRound_log hnext
      exact ⟨a :: more, hround, by rw [hlog, ha, List.append_assoc]; rfl⟩

/-- at least one transmission follows -/
theorem reSend_length {fuel : ℕ} {s : Sending} {r log} (h : reSend config pattern frame send_buf fuel s = some (r, log)) :
    s.log.length < log.length := by
  obtain ⟨round, more, hround, hlog⟩ := reSend_log fuel h
  obtain ⟨a, ha⟩ := sendRound_log hround
  rw [hlog, ha]
  simp only [List.length_append, List.length_cons]
  omega

/-- an end that is reached stays reached with more fuel -/
theorem reSend_add {fuel : ℕ} (n : ℕ) : ∀ {s : Sending} {res},
    reSend config pattern frame send_buf fuel s = some res →
    reSend config pattern frame send_buf (fuel + n) s = some res := by
  induction fuel with
  | zero => intro s res h; cases h
  | succ fuel ih =>
    intro s res h
    obtain ⟨round, hround, hrest⟩ := Option.bind_eq_some_iff.1 h
    rw [Nat.add_right_comm, reSend, hround, Option.bind_some]
    cases round with
    | getOut ret sent => exact hrest
    | again s' => exact ih hrest

/-- a broadcast or group frame is sent until its count is reached -/
theorem shared_run (htype : frame.type = 0 ∨ frame.type = 1) (n : ℕ) : ∀ s : Sending,
    s.re_send_times + 1 + n = max 1 config.broadcast_times.toNat →
    reSend config pattern frame send_buf (n + 1) s =
      some (.success, s.log ++ List.replicate (n + 1) ⟨send_buf, config.broadcast_interval_time.toNat, 0, false⟩) := by
  have hmax := config.broadcast_times.toNat_lt
  induction n with
  | zero =>
    intro s hs
    rw [reSend, sendRound, if_pos htype, Option.bind_some, sharedRound, if_pos (by omega)]
    rfl
  | succ n ih =>
    intro s hs
    rw [reSend, sendRound, if_pos htype, Option.bind_some, sharedRound, if_neg (by omega)]
    refine (ih _ (by dsimp only; omega)).trans ?_
    rw [List.append_assoc, List.replicate_succ (n := n + 1)]
    rfl

/-- a transmission that nothing answers -/
def LampBasicConfig.missed (config : LampBasicConfig) (send_buf : List UInt8) : Attempt :=
  ⟨send_buf, config.timeOut * 10, config.timeOut, false⟩

/-- a unicast frame that is awaited -/
def BottomFrame.Awaits (frame : BottomFrame) : Prop := frame.type = 2 ∧ frame.wait_ack = 1

theorem sendRound_unicast (h : frame.Awaits) (s : Sending) :
    sendRound config pattern frame send_buf s =
      (awaitAnswer frame pattern s.polled config.timeOut).map fun (responsed, polled) =>
        unicastRound config send_buf s responsed polled := by
  rw [sendRound, if_neg (by rw [h.1]; decide), if_pos (show frame.type = 2 ∧ frame.wait_ack = 1 from h)]

section Unicast

variable (hframe : frame.Awaits) (haddress : frame.awaited.isSome)
include hframe haddress

/-- nothing answers: the frame is sent again, or given up -/
theorem sendRound_missed {s : Sending}
    (hno : ∀ k, s.polled ≤ k → k < s.polled + config.timeOut → ¬ AnswerAt frame pattern k) :
    sendRound config pattern frame send_buf s =
      some (if (s.re_send_times + 1) % 256 ≤ config.retransmission_times.toNat then
        .again ⟨s.log ++ [config.missed send_buf], s.polled + config.timeOut, (s.re_send_times + 1) % 256⟩
      else .getOut .timeout (s.log ++ [config.missed send_buf])) := by
  rw [sendRound_unicast hframe, awaitAnswer_missed haddress _ _ hno, Option.map_some]
  simp only [unicastRound, Nat.add_sub_cancel_left, LampBasicConfig.missed, Bool.false_eq_true, if_false]

/-- the frame after `n` attempts that nothing answered -/
theorem reSend_missed (fuel n : ℕ) (hn : n ≤ config.retransmission_times.toNat)
    (hno : ∀ k, k < n * config.timeOut → ¬ AnswerAt frame pattern k) :
    reSend config pattern frame send_buf (fuel + n) ⟨[], 0, 0⟩ =
      reSend config pattern frame send_buf fuel
        ⟨List.replicate n (config.missed send_buf), n * config.timeOut, n⟩ := by
  induction n generalizing fuel with
  | zero => rw [Nat.zero_mul]; rfl
  | succ n ih =>
    have hmax := config.retransmission_times.toNat_lt
    have hall : (n + 1) * config.timeOut = n * config.timeOut + config.timeOut := Nat.succ_mul _ _
    have hnext : (n + 1) % 256 = n + 1 := Nat.mod_eq_of_lt (by omega)
    rw [show fuel + (n + 1) = fuel + 1 + n by omega, ih (fuel + 1) (by omega) fun k hk => hno k (by omega), reSend,
      sendRound_missed hframe haddress fun k _ hk => hno k (by dsimp only at hk; omega)]
    dsimp only
    rw [hnext, if_pos hn, Option.bind_some, hall, List.replicate_succ']

/-- the first answer comes within the attempts that are made -/
theorem reSend_answered {k : ℕ} (hk : AnswerAt frame pattern k) (hfirst : ∀ j, j < k → ¬ AnswerAt frame pattern j)
    (hlt : k < (config.retransmission_times.toNat + 1) * config.timeOut) :
    ∃ n polls, n ≤ config.retransmission_times.toNat ∧ n * config.timeOut + polls = k + 1 ∧
      (0 < n → config.timeOut ≤ k) ∧
      reSend config pattern frame send_buf (1 + n) ⟨[], 0, 0⟩ =
        some (.success, List.replicate n (config.missed send_buf) ++ [⟨send_buf, polls * 10, polls, true⟩]) := by
  have hpos : 0 < config.timeOut := Nat.pos_of_ne_zero fun h => by rw [h] at hlt; omega
  have hn : k / config.timeOut ≤ config.retransmission_times.toNat :=
    Nat.lt_succ_iff.1 ((Nat.div_lt_iff_lt_mul hpos).2 hlt)
  have hle : k / config.timeOut * config.timeOut ≤ k := Nat.div_mul_le_self _ _
  have hbefore : k < k / config.timeOut * config.timeOut + config.timeOut := by
    have h := Nat.lt_div_mul_add (a := k) hpos
    omega
  refine ⟨k / config.timeOut, k + 1 - k / config.timeOut * config.timeOut, hn, by omega, fun h => ?_, ?_⟩
  · exact Nat.le_of_not_lt fun hsmall => by rw [Nat.div_eq_of_lt hsmall] at h; omega
  · rw [reSend_missed hframe haddress 1 _ hn fun j hj => hfirst j (by omega), reSend, sendRound_unicast hframe,
      awaitAnswer_hit haddress hk _ _ hle hbefore fun j _ => hfirst j]
    rfl

/-- no answer comes, and the counter does not wrap: the frame is given up -/
theorem reSend_timeout (hmax : config.retransmission_times.toNat ≤ 254)
    (hno : ∀ k, k < (config.retransmission_times.toNat + 1) * config.timeOut → ¬ AnswerAt frame pattern k) :
    reSend config pattern frame send_buf (1 + config.retransmission_times.toNat) ⟨[], 0, 0⟩ =
      some (.timeout, List.replicate (config.retransmission_times.toNat + 1) (config.missed send_buf)) := by
  rw [Nat.add_mul, Nat.one_mul] at hno
  rw [reSend_missed hframe haddress 1 _ le_rfl fun k hk => hno k (by omega), reSend,
    sendRound_missed hframe haddress fun k _ hk => hno k hk]
  dsimp only
  rw [Nat.mod_eq_of_lt (by omega), if_neg (by omega), Option.bind_some, ← List.replicate_succ']

/-- no answer comes for 256 attempts, and the counter is 0 again -/
theorem reSend_wraps (hmax : config.retransmission_times.toNat = 255)
    (hno : ∀ k, k < 256 * config.timeOut → ¬ AnswerAt frame pattern k) (fuel : ℕ) :
    reSend config pattern frame send_buf (fuel + 256) ⟨[], 0, 0⟩ =
      reSend config pattern frame send_buf fuel
        ⟨List.replicate 256 (config.missed send_buf), 255 * config.timeOut + config.timeOut, 0⟩ := by
  have hround : sendRound config pattern frame send_buf
      ⟨List.replicate 255 (config.missed send_buf), 255 * config.timeOut, 255⟩ =
      some (.again ⟨List.replicate 256 (config.missed send_buf), 255 * config.timeOut + config.timeOut, 0⟩) := by
    rw [sendRound_missed hframe haddress fun k _ hk => hno k (by dsimp only at hk; omega),
      if_pos (show (255 + 1) % 256 ≤ _ from Nat.zero_le _), ← List.replicate_succ']
    simp only [Nat.reduceAdd, Nat.reduceMod]
  rw [show fuel + 256 = fuel + 1 + 255 by omega,
    reSend_missed hframe haddress (fuel + 1) 255 (by omega) fun k hk => hno k (by omega), reSend, hround]
  rfl

/-- **No end.** With 255 retransmissions a frame that nothing answers is sent for ever. -/
theorem unanswered_endless (hmax : config.retransmission_times.toNat = 255) (hno : ∀ k, ¬ AnswerAt frame pattern k)
    (fuel : ℕ) : ∀ s, reSend config pattern frame send_buf fuel s = none := by
  induction fuel with
  | zero => exact fun s => rfl
  | succ fuel ih =>
    intro s
    rw [reSend, sendRound_missed hframe haddress fun k _ _ => hno k, if_pos (by omega), Option.bind_some]
    exact ih _

end Unicast

end ReSend

/-! ## Main results -/

/-- what the settings promise of the result and the transmissions -/
structure Bounded (config : LampBasicConfig) (pattern : Pattern) (frame : BottomFrame) (ret : Response)
    (log : List Attempt) : Prop where
  unicast : frame.type = 2 → log.length ≤ 1 + config.retransmission_times.toNat
  shared : frame.type ≠ 2 → log.length = max 1 config.broadcast_times.toNat
  waits : frame.Awaits → ∀ a ∈ log, a.answered = false →
    a.polls = 100 * config.response_timeout.toNat ∧ a.delay_ms = 1000 * config.response_timeout.toNat
  success : frame.type = 2 → ret = .success → ∃ k, k < (log.map Attempt.polls).sum ∧ AnswerAt frame pattern k

/-- it ends, as the settings promise -/
def EndsBounded (config : LampBasicConfig) (pattern : Pattern) (frame : BottomFrame) : Prop :=
  ∃ fuel ret log, sendPlcFrameToDeviceAndWaitResponse config pattern frame fuel = some (ret, log) ∧
    Bounded config pattern frame ret log

section Main

variable {config : LampBasicConfig} {pattern : Pattern} {frame : BottomFrame}

/-- a frame that is prepared is sent from `RE_SEND` on -/
theorem send_prepared (htype : frame.type = 0 ∨ frame.type = 1 ∨ frame.type = 2)
    (hlen : (userBytes frame).length ≤ 238 ∨ (userBytes frame).length = 256) :
    ∃ send_buf, ∀ fuel, sendPlcFrameToDeviceAndWaitResponse config pattern frame fuel =
      reSend config pattern frame send_buf fuel ⟨[], 0, 0⟩ := by
  have hsend : ∀ {send_len m}, combinePlcBottomFrame frame (fun _ => 0) = some (send_len, m) → send_len ≠ 0 →
      ∃ send_buf, ∀ fuel, sendPlcFrameToDeviceAndWaitResponse config pattern frame fuel =
        reSend config pattern frame send_buf fuel ⟨[], 0, 0⟩ := by
    intro send_len m hcombine hne
    refine ⟨ByteStore.read m 0 send_len, fun fuel => ?_⟩
    rw [sendPlcFrameToDeviceAndWaitResponse, hcombine, Option.bind_some]
    exact if_neg hne
  have hcombine := combine_eq htype fun _ => 0
  rcases hlen with hlen | hlen
  · rw [if_pos (by omega)] at hcombine
    exact hsend hcombine (by omega)
  · rw [if_neg (by omega), if_pos hlen] at hcombine
    exact hsend hcombine (by decide)

/-- a broadcast or group frame keeps its count -/
theorem shared_bounded (htype : frame.type = 0 ∨ frame.type = 1) (send_buf : List UInt8) :
    ∃ fuel ret log, reSend config pattern frame send_buf fuel ⟨[], 0, 0⟩ = some (ret, log) ∧
      Bounded config pattern frame ret log := by
  have h2 : frame.type ≠ 2 := by rcases htype with h | h <;> rw [h] <;> decide
  refine ⟨_, _, _, shared_run htype (max 1 config.broadcast_times.toNat - 1) ⟨[], 0, 0⟩ (by dsimp only; omega), ?_⟩
  exact
    { unicast := fun h => absurd h h2
      shared := fun _ => by rw [List.nil_append, List.length_replicate]; omega
      waits := fun h => absurd h.1 h2
      success := fun h => absurd h h2 }

/-- a unicast frame that is not awaited is sent once -/
theorem unawaited_bounded (htype : frame.type = 2) (hno : ¬ frame.Awaits) (send_buf : List UInt8) :
    ∃ fuel ret log, reSend config pattern frame send_buf fuel ⟨[], 0, 0⟩ = some (ret, log) ∧
      Bounded config pattern frame ret log := by
  refine ⟨1, .start, [⟨send_buf, 0, 0, false⟩], ?_, ?_⟩
  · rw [reSend, sendRound, if_neg (by rw [htype]; decide), if_neg (show ¬ (frame.type = 2 ∧ frame.wait_ack = 1) from hno)]
    rfl
  · exact
      { unicast := fun _ => Nat.le_add_right 1 _
        shared := fun h => absurd htype h
        waits := fun h => absurd h hno
        success := fun _ h => by cases h }

/-- the wait is that of the settings, up to 655 seconds -/
theorem missed_waits (send_buf : List UInt8) :
    ((config.missed send_buf).polls = 100 * config.response_timeout.toNat ∧
      (config.missed send_buf).delay_ms = 1000 * config.response_timeout.toNat) ↔
      config.response_timeout.toNat ≤ 655 := by
  simp only [LampBasicConfig.missed, LampBasicConfig.timeOut]
  omega

/-- an awaited frame: an answer in the first attempt, or a wait that fits its counter and either a count that does or
an answer before the count wraps -/
def Keeps (config : LampBasicConfig) (pattern : Pattern) (frame : BottomFrame) : Prop :=
  (∃ k, k < config.timeOut ∧ AnswerAt frame pattern k) ∨
    config.response_timeout.toNat ≤ 655 ∧
      (config.retransmission_times.toNat ≤ 254 ∨ ∃ k, k < 256 * config.timeOut ∧ AnswerAt frame pattern k)

section Awaited

variable (hframe : frame.Awaits) (haddress : frame.awaited.isSome) (send_buf : List UInt8)
include hframe haddress

/-- an awaited frame that keeps the promises -/
theorem keeps_of_bounded {fuel : ℕ} {ret : Response} {log : List Attempt}
    (hrun : reSend config pattern frame send_buf fuel ⟨[], 0, 0⟩ = some (ret, log))
    (hbounded : Bounded config pattern frame ret log) : Keeps config pattern frame := by
  by_contra hkeeps
  simp only [Keeps, not_or, not_and, not_exists] at hkeeps
  obtain ⟨hfirst, hlater⟩ := hkeeps
  -- the first attempt is not answered, so its wait is the whole `time_out`
  obtain ⟨round, more, hround, hlog⟩ := reSend_log fuel hrun
  rw [sendRound_missed hframe haddress fun k _ hk => hfirst k (by dsimp only at hk; omega)] at hround
  have hmem : config.missed send_buf ∈ log := by
    rw [hlog, ← Option.some.inj hround]
    split_ifs <;> exact List.mem_append_left _ List.mem_cons_self
  have hwait := (missed_waits send_buf).1 (hbounded.waits hframe _ hmem rfl)
  -- 256 attempts are not answered, and the counter starts again
  obtain ⟨hcount, hno⟩ := hlater hwait
  have hmax := config.retransmission_times.toNat_lt
  have hagain := reSend_add 256 hrun
  rw [reSend_wraps hframe haddress (by omega) hno] at hagain
  have hlong := reSend_length hagain
  have hbound := hbounded.unicast hframe.1
  rw [List.length_replicate] at hlong
  omega

/-- the first answer comes while the frame is still sent -/
theorem answered_bounded (hkeeps : Keeps config pattern frame) {k : ℕ} (hk : AnswerAt frame pattern k)
    (hfirst : ∀ j, j < k → ¬ AnswerAt frame pattern j)
    (hlt : k < (config.retransmission_times.toNat + 1) * config.timeOut) :
    ∃ fuel ret log, reSend config pattern frame send_buf fuel ⟨[], 0, 0⟩ = some (ret, log) ∧
      Bounded config pattern frame ret log := by
  obtain ⟨n, polls, hn, htotal, hafter, hrun⟩ :=
    @reSend_answered config pattern frame send_buf hframe haddress k hk hfirst hlt
  have hwaits : 0 < n → config.response_timeout.toNat ≤ 655 := by
    intro hpos
    rcases hkeeps with ⟨j, hj, hanswer⟩ | ⟨hwait, -⟩
    · exact absurd hanswer (hfirst j (lt_of_lt_of_le hj (hafter hpos)))
    · exact hwait
  have hsum : ((List.replicate n (config.missed send_buf)).map Attempt.polls).sum = n * config.timeOut := by
    rw [List.map_replicate, List.sum_replicate, smul_eq_mul]
    rfl
  refine ⟨_, _, _, hrun, ?_⟩
  refine ⟨fun _ => ?_, fun h => absurd hframe.1 h, fun _ a ha hno => ?_, fun _ _ => ⟨k, ?_, hk⟩⟩
  · rw [List.length_append, List.length_replicate, List.length_singleton]
    omega
  · rcases List.mem_append.1 ha with ha | ha
    · obtain ⟨hne, rfl⟩ := List.mem_replicate.1 ha
      exact (missed_waits send_buf).2 (hwaits (Nat.pos_of_ne_zero hne))
    · rw [List.mem_singleton.1 ha] at hno
      cases hno
  · rw [List.map_append, List.sum_append, hsum]
    simp only [List.map_cons, List.map_nil, List.sum_singleton]
    omega

/-- no answer comes while the frame is sent -/
theorem unanswered_bounded (hkeeps : Keeps config pattern frame)
    (hno : ∀ k, k < (config.retransmission_times.toNat + 1) * config.timeOut → ¬ AnswerAt frame pattern k) :
    ∃ fuel ret log, reSend config pattern frame send_buf fuel ⟨[], 0, 0⟩ = some (ret, log) ∧
      Bounded config pattern frame ret log := by
  have hmax := config.retransmission_times.toNat_lt
  have hone : config.timeOut ≤ (config.retransmission_times.toNat + 1) * config.timeOut :=
    Nat.le_mul_of_pos_left _ (Nat.succ_pos _)
  have hwait : config.response_timeout.toNat ≤ 655 ∧ config.retransmission_times.toNat ≤ 254 := by
    rcases hkeeps with ⟨k, hlt, hk⟩ | ⟨hwait, hcount | ⟨k, hlt, hk⟩⟩
    · exact absurd hk (hno k (by omega))
    · exact ⟨hwait, hcount⟩
    · refine ⟨hwait, Nat.le_of_not_lt fun hall => hno k ?_ hk⟩
      rwa [show config.retransmission_times.toNat + 1 = 256 by omega]
  refine ⟨_, _, _, reSend_timeout hframe haddress hwait.2 hno, ?_⟩
  refine ⟨fun _ => ?_, fun h => absurd hframe.1 h, fun _ a ha _ => ?_, fun _ h => by cases h⟩
  · rw [List.length_replicate]
    omega
  · rw [List.eq_of_mem_replicate ha]
    exact (missed_waits send_buf).2 hwait.1

/-- an awaited frame, from `RE_SEND` on -/
theorem awaited_bounded_iff :
    (∃ fuel ret log, reSend config pattern frame send_buf fuel ⟨[], 0, 0⟩ = some (ret, log) ∧
      Bounded config pattern frame ret log) ↔ Keeps config pattern frame := by
  constructor
  · rintro ⟨fuel, ret, log, hrun, hbounded⟩
    exact keeps_of_bounded hframe haddress send_buf hrun hbounded
  · intro hkeeps
    by_cases hanswer : ∃ k, k < (config.retransmission_times.toNat + 1) * config.timeOut ∧ AnswerAt frame pattern k
    · classical
      have hsome : ∃ k, AnswerAt frame pattern k := hanswer.imp fun k hk => hk.2
      obtain ⟨k, hlt, hk⟩ := hanswer
      have hle : Nat.find hsome ≤ k := Nat.find_min' hsome hk
      exact answered_bounded hframe haddress send_buf hkeeps (Nat.find_spec hsome) (fun j => Nat.find_min hsome)
        (lt_of_le_of_lt hle hlt)
    · exact unanswered_bounded hframe haddress send_buf hkeeps fun k hlt hk => hanswer ⟨k, hlt, hk⟩

end Awaited

/-- **Retransmission.** Every frame that is prepared is sent as the settings say, but for an awaited frame whose wait
or whose count wraps before it is answered. -/
theorem send_bounded_iff (config : LampBasicConfig) (pattern : Pattern) {frame : BottomFrame}
    (htype : frame.type = 0 ∨ frame.type = 1 ∨ frame.type = 2) (haddress : frame.awaited.isSome) :
    EndsBounded config pattern frame ↔
      ((userBytes frame).length ≤ 239 ∨ (userBytes frame).length = 256) ∧
        (frame.type ≠ 2 → (userBytes frame).length ≠ 239) ∧
        (frame.type = 2 ∧ frame.wait_ack = 1 → (userBytes frame).length ≠ 239 → Keeps config pattern frame) := by
  by_cases hempty : (userBytes frame).length = 239
  · -- the result of `CombinePlcBottomFrame` is 0, and nothing is sent
    have hfail : ∀ fuel, sendPlcFrameToDeviceAndWaitResponse config pattern frame fuel = some (.fail, []) := by
      intro fuel
      rw [sendPlcFrameToDeviceAndWaitResponse, combine_eq htype, hempty]
      rfl
    constructor
    · rintro ⟨fuel, ret, log, hrun, hbounded⟩
      rw [hfail] at hrun
      cases hrun
      refine ⟨.inl (le_of_eq hempty), fun h => ?_, fun _ h => absurd hempty h⟩
      have hcount := hbounded.shared h
      rw [List.length_nil] at hcount
      omega
    · rintro ⟨-, h, -⟩
      have h2 : frame.type = 2 := by_contra fun hne => h hne hempty
      refine ⟨0, _, _, hfail 0, ?_⟩
      exact ⟨fun _ => Nat.zero_le _, fun hne => absurd h2 hne, fun _ a ha => absurd ha List.not_mem_nil,
        fun _ hret => by cases hret⟩
  · by_cases hlen : (userBytes frame).length ≤ 238 ∨ (userBytes frame).length = 256
    · obtain ⟨send_buf, hsend⟩ := @send_prepared config pattern frame htype hlen
      have hcond : (((userBytes frame).length ≤ 239 ∨ (userBytes frame).length = 256) ∧
          (frame.type ≠ 2 → (userBytes frame).length ≠ 239) ∧
          (frame.type = 2 ∧ frame.wait_ack = 1 → (userBytes frame).length ≠ 239 → Keeps config pattern frame)) ↔
          (frame.Awaits → Keeps config pattern frame) :=
        ⟨fun h hframe => h.2.2 hframe hempty, fun h => ⟨by omega, fun _ => hempty, fun hframe _ => h hframe⟩⟩
      rw [hcond, EndsBounded]
      simp only [hsend]
      by_cases hframe : frame.Awaits
      · rw [awaited_bounded_iff hframe haddress]
        exact ⟨fun h _ => h, fun h => h hframe⟩
      · refine iff_of_true ?_ fun h => absurd h hframe
        rcases htype with h | h | h
        · exact shared_bounded (.inl h) send_buf
        · exact shared_bounded (.inr h) send_buf
        · exact unawaited_bounded h hframe send_buf
    · -- a buffer is left, or a checksum does not end
      refine iff_of_false ?_ fun h => hlen (by omega)
      rintro ⟨fuel, ret, log, hrun, -⟩
      rw [sendPlcFrameToDeviceAndWaitResponse, combine_eq htype, if_neg (by omega), if_neg (by omega)] at hrun
      cases hrun

/-- **Results.** A broadcast or group frame succeeds, an awaited frame is answered or given up, and what cannot be
prepared fails. -/
theorem response_cases {fuel : ℕ} {ret : Response} {log : List Attempt}
    (h : sendPlcFrameToDeviceAndWaitResponse config pattern frame fuel = some (ret, log))
    (hframe : frame.type = 0 ∨ frame.type = 1 ∨ frame.Awaits) :
    ret = .success ∨ ret = .fail ∨ frame.Awaits ∧ ret = .timeout := by
  have hround : ∀ {send_buf s ret log}, sendRound config pattern frame send_buf s = some (.getOut ret log) →
      ret = .success ∨ frame.Awaits ∧ ret = .timeout := by
    intro send_buf s ret log hround
    rw [sendRound] at hround
    split_ifs at hround with hshared hunicast
    · rw [Option.some.injEq, sharedRound] at hround
      split_ifs at hround
      cases hround
      exact .inl rfl
    · obtain ⟨⟨responsed, polled⟩, -, hend⟩ := Option.map_eq_some_iff.1 hround
      dsimp only [unicastRound] at hend
      split_ifs at hend <;> cases hend
      · exact .inl rfl
      · exact .inr ⟨hunicast, rfl⟩
    · rcases hframe with hframe | hframe | hframe
      · exact absurd (.inl hframe) hshared
      · exact absurd (.inr hframe) hshared
      · exact absurd hframe hunicast
  have hrun : ∀ {send_buf} fuel {s ret log}, reSend config pattern frame send_buf fuel s = some (ret, log) →
      ret = .success ∨ frame.Awaits ∧ ret = .timeout := by
    intro send_buf fuel
    induction fuel with
    | zero => intro s ret log h; cases h
    | succ fuel ih =>
      intro s ret log h
      obtain ⟨round, hnext, hrest⟩ := Option.bind_eq_some_iff.1 h
      cases round with
      | getOut ret' log' =>
        cases hrest
        exact hround hnext
      | again s' => exact ih hrest
  obtain ⟨⟨send_len, send_buf⟩, -, hsend⟩ := Option.bind_eq_some_iff.1 h
  dsimp only at hsend
  split_ifs at hsend with hlen
  · cases hsend
    exact .inr (.inl rfl)
  · exact (hrun fuel hsend).imp_right .inr

end Main

/-- three retransmissions of five seconds each, and no answer -/
theorem bounded_silent : EndsBounded ⟨5, 3, 2, 100⟩ (fun _ => none) (zeroPayload 4) := by
  refine (send_bounded_iff _ _ (.inr (.inr rfl)) rfl).2 ⟨?_, ?_, ?_⟩
  · rw [length_userBytes, if_neg (by decide)]
    exact .inl (by decide)
  · exact fun h => absurd rfl h
  · exact fun _ _ => .inr ⟨by decide, .inl (by decide)⟩

/-- with 255 retransmissions nothing ends the sending, and with 656 seconds the wait is 640 ms -/
theorem unbounded_255 :
    (∀ fuel, sendPlcFrameToDeviceAndWaitResponse ⟨5, 255, 2, 100⟩ (fun _ => none) (zeroPayload 4) fuel = none) ∧
    ∃ send_buf, sendPlcFrameToDeviceAndWaitResponse ⟨656, 0, 2, 100⟩ (fun _ => none) (zeroPayload 4) 1 =
      some (.timeout, [⟨send_buf, 640, 64, false⟩]) := by
  have hframe : (zeroPayload 4).Awaits := ⟨rfl, rfl⟩
  have hlen : (userBytes (zeroPayload 4)).length = 10 := by
    rw [length_userBytes, if_neg (by decide)]
    rfl
  have hsilent : ∀ k, ¬ AnswerAt (zeroPayload 4) (fun _ => none) k := by
    rintro k ⟨ack, h, -⟩
    cases h
  constructor
  · intro fuel
    obtain ⟨send_buf, hsend⟩ := @send_prepared ⟨5, 255, 2, 100⟩ (fun _ => none) (zeroPayload 4)
      (.inr (.inr rfl)) (.inl (by omega))
    rw [hsend]
    exact unanswered_endless hframe rfl rfl hsilent fuel _
  · obtain ⟨send_buf, hsend⟩ := @send_prepared ⟨656, 0, 2, 100⟩ (fun _ => none) (zeroPayload 4)
      (.inr (.inr rfl)) (.inl (by omega))
    refine ⟨send_buf, ?_⟩
    rw [hsend]
    exact reSend_timeout hframe rfl (by decide) fun k _ => hsilent k

end DataConcentrator.Plc
