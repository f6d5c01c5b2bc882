/-
The connection to the server over the modem: `vTask4G`, and the commands of `ec20.c` that it drives the modem with.

What `AT_SendCmd` makes of a command is the modem's. `goto RE_INIT`, also that of `ec20_soft_init`, ends a lap, and the
start of the modem is tried once in a lap.
- `lap`: one lap of the task, with the states of the connection it goes by;
- `Works`: a modem that does what its commands ask for;
- `rank_falls`: each lap brings such a modem nearer to a connection;
- `connects`: from any reachable state the task is connected after so few laps, also where the modem stays in the middle
  of opening a connection;
- `queue_kept`: whatever the modem does, the frames are handed to it in their order, and none is lost or sent twice.
-/
import DataConcentrator.Modem.Receive

namespace DataConcentrator.Modem

/-! ## The commands -/

/-- the modem behind `AT_SendCmd`, which is given a command and the text to wait for: what `result_ptr` holds when it
returns 1. `powerOn` is `ec20_force_pwr_on` with the wait for `RDY`, `writeData` is the data behind a prompt -/
structure Device (σ : Type) where
  atSendCmd : σ → String → String → Option (List UInt8) × σ
  powerOn : σ → Bool × σ
  writeData : σ → List UInt8 → σ

/-- the bytes of an ASCII text -/
def ascii (t : String) : List UInt8 := t.toList.map fun c => UInt8.ofNat c.toNat

variable {σ : Type} (m : Device σ)

/-- a command of which only the outcome matters -/
def Device.ok (s : σ) (cmd result : String) : Bool × σ :=
  let r := m.atSendCmd s cmd result
  (r.1.isSome, r.2)

/-- a command whose answer holds a text of the right length between two marks -/
def Device.okField (s : σ) (cmd result : String) (right : List UInt8 → Bool) : Bool × σ :=
  let r := m.atSendCmd s cmd result
  (r.1.any right, r.2)

/-- the next step, unless this one failed -/
def andThen (r : Bool × σ) (next : σ → Bool × σ) : Bool × σ := if r.1 then next r.2 else r

def quote : List UInt8 := [0x22]

def ec20GetAtCgreg (s : σ) : Bool × σ :=
  let r := m.ok s "AT+CGREG?\r\n" "+CGREG: 0,1"
  if r.1 then r else m.ok r.2 "AT+CGREG?\r\n" "+CGREG: 0,5"

/-- `ec20_soft_init` up to its `goto RE_INIT` -/
def ec20SoftInit (s : σ) : Bool × σ :=
  andThen (m.powerOn s) fun s =>
  andThen (m.ok s "ATI\r\n" "OK") fun s =>
  andThen (m.ok s "ATE0\r\n" "OK") fun s =>
  andThen (m.ok s "AT+CPIN?\r\n" "+CPIN: READY") fun s =>
  andThen (ec20GetAtCgreg m s) fun s =>
  andThen (m.ok s "AT+QICSGP=1\r\n" "OK") fun s =>
  andThen (m.okField s "AT+CGSN\r\n" "OK" fun data => (getStr1 data crlf 1 crlf 2).length = 15) fun s =>
  andThen (m.okField s "AT+QCCID\r\n" "OK" fun data => (getStr1 data (ascii "QCCID: ") 1 crlf 2).length = 20) fun s =>
  andThen (m.okField s "AT+CIMI\r\n" "OK" fun data => (getStr1 data crlf 1 crlf 2).length = 15) fun s =>
  m.okField s "AT+CGDCONT?\r\n" "+CGDCONT" fun data => (getStr1 data quote 3 quote 4).length ≤ 32

/-- try, undo and try again; the last failure is not undone -/
def tryAgain (attempt undo : σ → Bool × σ) : ℕ → σ → Bool × σ
  | 0, s => (false, s)
  | n + 1, s =>
    let r := attempt s
    if r.1 then r
    else if n = 0 then (false, r.2)
    else
      let r := undo r.2
      if r.1 then tryAgain attempt undo n r.2 else (false, r.2)

def ec20SetAtQiact (s : σ) : Bool × σ :=
  tryAgain (fun s => m.ok s "AT+QIACT=1\r\n" "OK") (fun s => m.ok s "AT+QIDEACT=1\r\n" "OK") 3 s

def ec20SetAtQiclose (s : σ) : Bool × σ := m.ok s "AT+QICLOSE=0\r\n" "OK"

def qiopenCmd (addr : String) (port : ℕ) : String := "AT+QIOPEN=1,0,\"TCP\",\"" ++ addr ++ "\"," ++ toString port ++ ",0,1\r\n"

def ec20SetAtQiopen (addr : String) (port : ℕ) (s : σ) : Bool × σ :=
  tryAgain (fun s => m.okField s (qiopenCmd addr port) "+QIOPEN: " fun data => (searchStr data (ascii "+QIOPEN: 0,0")).isSome)
    (ec20SetAtQiclose m) 3 s

def ec20GetAtQiact (s : σ) : Bool × σ :=
  m.okField s "AT+QIACT?\r\n" "OK" fun data => (searchStr data (ascii "+QIACT: ")).isSome

/-- the number of a `CONNECT_STATE_E`, up to `CLOSING` -/
def connectState (text : List UInt8) : ConnectState :=
  match toUnsigned 8 (atoi text) with
  | 0 => .initial
  | 1 => .opening
  | 2 => .connected
  | 3 => .listening
  | 4 => .closing
  | _ => .unknowState

/-- the state of the connection in an answer to `AT+QISTATE`, if there is one in it -/
def reported (data : List UInt8) : ConnectState :=
  if (searchStr data (ascii "+QISTATE:")).isSome then connectState (getStr1 data comma 5 comma 6) else .unknowState

def ec20GetAtQistate (s : σ) : ConnectState × σ :=
  let r := m.atSendCmd s "AT+QISTATE=1,0\r\n" "OK"
  let ret := match r.1 with
    | some data => reported data
    | none => .unknowState
  if ret = .unknowState then
    let q := ec20GetAtQiact m r.2
    (if q.1 then .gotIp else ret, q.2)
  else (ret, r.2)

/-! ## The task -/

/-- the statics of `SyncDataTimeFormEC20Module`, and the text the clock was set by last -/
structure NetTime where
  got_ok : Bool
  time_c : UInt32
  text : Option (List UInt8)

def syncDataTimeFormEc20Module (sync_cycle now : UInt32) (t : NetTime) (s : σ) : NetTime × σ :=
  if sync_cycle ≤ now - t.time_c ∨ t.got_ok = false then
    let r := m.atSendCmd s "AT+CCLK?\r\n" "OK"
    match r.1 with
    | some data =>
      if (searchStr data (ascii "+CCLK:")).isSome then
        (⟨true, now, some (getStr1 data quote 1 quote 2)⟩, r.2)
      else ({ t with time_c := now }, r.2)
    | none => ({ t with time_c := now }, r.2)
  else (t, s)

/-- the variables of `vTask4G` and those it shares with other tasks; `starting` is `ec20_soft_init`, and `sent` what was
handed to `ec20_get_AT_QISEND` -/
structure Conn where
  starting : Bool
  ec20ConnectState : ConnectState
  wait_cnt : ℕ
  time_s : UInt32
  net : NetTime
  loginResponse : UInt8
  flagReConnectToServer : UInt8
  xQueue_4gFrameTx : List (List UInt8)
  sent : List (List UInt8)

/-- the label `RE_INIT` -/
def Conn.reInit (c : Conn) : Conn :=
  { c with starting := true, ec20ConnectState := .unknowState, wait_cnt := 0, loginResponse := 0 }

def powerOn : Conn := ⟨true, .unknowState, 0, 0, ⟨false, 0, none⟩, 0, 0, [], []⟩

/-- the state is asked for again -/
def Conn.Due (c : Conn) (now : UInt32) : Prop := c.ec20ConnectState ≠ .connected ∨ 30 ≤ now - c.time_s

instance (c : Conn) (now : UInt32) : Decidable (c.Due now) := inferInstanceAs (Decidable (_ ∨ _))

/-- the part of a lap with `refresh_state` -/
def refresh (now : UInt32) (c : Conn) (s : σ) : Conn × σ :=
  if c.Due now then
    let c := if c.ec20ConnectState ≠ .connected then c else { c with time_s := now }
    let q := ec20GetAtQistate m s
    let s := (m.ok q.2 "AT+CSQ\r\n" "OK").2
    let t := syncDataTimeFormEc20Module m 43200 now c.net s
    ({ c with ec20ConnectState := q.1, net := t.1 }, t.2)
  else (c, s)

/-- a lap that ends where the command fails -/
def Conn.unless (c : Conn) (r : Bool × σ) : Conn × σ := (if r.1 then c else c.reInit, r.2)

def pull4gTxQueueAndSendFrame (c : Conn) (s : σ) : Conn × σ :=
  match c.xQueue_4gFrameTx with
  | [] => (c, s)
  | frame :: rest =>
    let r := m.ok s ("AT+QISEND=0," ++ toString frame.length ++ "\r\n") "> "
    ({ c with xQueue_4gFrameTx := rest, sent := c.sent ++ [frame] }, if r.1 then m.writeData r.2 frame else r.2)

/-- the `switch` over the state -/
def act (addr : String) (port : ℕ) (c : Conn) (s : σ) : Conn × σ :=
  match c.ec20ConnectState with
  | .unknowState => c.unless (ec20SetAtQiact m s)
  | .initial => c.unless (ec20SetAtQiclose m s)
  | .opening => if 100 ≤ c.wait_cnt then (c.reInit, s) else ({ c with wait_cnt := c.wait_cnt + 1 }, s)
  | .gotIp => c.unless (ec20SetAtQiopen m addr port s)
  | .connected => pull4gTxQueueAndSendFrame m c s
  | .closing => c.unless (ec20SetAtQiclose m s)
  | .listening => (c, s)

/-- a lap of `vTask4G` while the connection is not that of the network cable -/
def lap (addr : String) (port : ℕ) (now : UInt32) (c : Conn) (s : σ) : Conn × σ :=
  if c.starting then
    let r := ec20SoftInit m s
    ({ c with starting := !r.1 }, r.2)
  else if c.flagReConnectToServer = 2 then ({ c with flagReConnectToServer := 0 }.reInit, s)
  else
    let r := refresh m now c s
    act m addr port r.1 r.2

/-- a lap, a frame that found room on the queue, the notice of a closed connection, the answer to a login, the command to
connect anew, and the round of `vTaskCONCENTRATOR` that passes it on -/
inductive Event where
  | lap (now : UInt32)
  | queue (frame : List UInt8)
  | closed
  | login
  | reconnect
  | handOver

def step (addr : String) (port : ℕ) (x : Conn × σ) : Event → Conn × σ
  | .lap now => lap m addr port now x.1 x.2
  | .queue frame => ({ x.1 with xQueue_4gFrameTx := x.1.xQueue_4gFrameTx ++ [frame] }, x.2)
  | .closed => ({ x.1 with ec20ConnectState := .closing }, x.2)
  | .login => ({ x.1 with loginResponse := 1 }, x.2)
  | .reconnect => ({ x.1 with flagReConnectToServer := 1 }, x.2)
  | .handOver =>
    if x.1.flagReConnectToServer = 1 then ({ x.1 with flagReConnectToServer := 2, loginResponse := 0 }, x.2) else x

def run (addr : String) (port : ℕ) (x : Conn × σ) (events : List Event) : Conn × σ := events.foldl (step m addr port) x

/-- the frames that were queued -/
def queued (events : List Event) : List (List UInt8) := events.filterMap fun
  | .queue frame => some frame
  | _ => none

/-! ## What a lap leaves alone -/

section Frames

variable {m} {addr : String} {port : ℕ} (now : UInt32) (c : Conn) (s : σ)

/-- the queue, what was taken from it, and the flag -/
structure SameQueue (c c' : Conn) : Prop where
  queue : c'.xQueue_4gFrameTx = c.xQueue_4gFrameTx
  sent : c'.sent = c.sent
  flag : c'.flagReConnectToServer = c.flagReConnectToServer
  wait_cnt : c'.wait_cnt = c.wait_cnt
  starting : c'.starting = c.starting

theorem refresh_same : SameQueue c (refresh m now c s).1 := by
  rw [refresh]
  split_ifs <;> exact ⟨rfl, rfl, rfl, rfl, rfl⟩

theorem unless_sent (c : Conn) (r : Bool × σ) : (c.unless r).1.sent = c.sent ∧
    (c.unless r).1.xQueue_4gFrameTx = c.xQueue_4gFrameTx := by
  rw [Conn.unless]
  split_ifs <;> exact ⟨rfl, rfl⟩

theorem pull_sent : (pull4gTxQueueAndSendFrame m c s).1.sent ++ (pull4gTxQueueAndSendFrame m c s).1.xQueue_4gFrameTx =
    c.sent ++ c.xQueue_4gFrameTx := by
  rw [pull4gTxQueueAndSendFrame]
  cases hqueue : c.xQueue_4gFrameTx with
  | nil =>
    dsimp only
    rw [hqueue]
  | cons frame rest => exact List.append_assoc _ [frame] rest

theorem act_sent : (act m addr port c s).1.sent ++ (act m addr port c s).1.xQueue_4gFrameTx =
    c.sent ++ c.xQueue_4gFrameTx := by
  have hunless : ∀ r : Bool × σ, (c.unless r).1.sent ++ (c.unless r).1.xQueue_4gFrameTx = c.sent ++ c.xQueue_4gFrameTx := by
    intro r
    rw [(unless_sent c r).1, (unless_sent c r).2]
  rw [act]
  cases c.ec20ConnectState with
  | unknowState => exact hunless _
  | initial => exact hunless _
  | opening =>
    dsimp only
    split_ifs <;> rfl
  | connected => exact pull_sent c s
  | listening => rfl
  | closing => exact hunless _
  | gotIp => exact hunless _

theorem lap_sent : (lap m addr port now c s).1.sent ++ (lap m addr port now c s).1.xQueue_4gFrameTx =
    c.sent ++ c.xQueue_4gFrameTx := by
  rw [lap]
  split_ifs
  · rfl
  · rfl
  · have hsame := refresh_same (m := m) now c s
    rw [act_sent, hsame.queue, hsame.sent]

/-- no state is known while the modem starts -/
def Unknown (c : Conn) : Prop := c.starting = true → c.ec20ConnectState ≠ .connected

theorem unless_unknown (hc : Unknown c) (r : Bool × σ) : Unknown (c.unless r).1 := by
  rw [Conn.unless]
  split_ifs
  · exact hc
  · exact fun _ => ConnectState.noConfusion

theorem act_unknown (hc : c.starting = false) : Unknown (act m addr port c s).1 := by
  have hstay : Unknown c := fun h => absurd (hc.symm.trans h) Bool.false_ne_true
  rw [act]
  cases c.ec20ConnectState with
  | unknowState => exact unless_unknown c hstay _
  | initial => exact unless_unknown c hstay _
  | opening =>
    dsimp only
    split_ifs
    · exact fun _ => ConnectState.noConfusion
    · exact fun h => absurd (hc.symm.trans h) Bool.false_ne_true
  | connected =>
    rw [pull4gTxQueueAndSendFrame]
    cases c.xQueue_4gFrameTx with
    | nil => exact hstay
    | cons frame rest => exact fun h => absurd (hc.symm.trans h) Bool.false_ne_true
  | listening => exact hstay
  | closing => exact unless_unknown c hstay _
  | gotIp => exact unless_unknown c hstay _

theorem lap_unknown (hc : Unknown c) : Unknown (lap m addr port now c s).1 := by
  rw [lap]
  split_ifs with hstarting hflag
  · exact fun _ => hc hstarting
  · exact fun _ => ConnectState.noConfusion
  · refine act_unknown _ _ ?_
    rw [(refresh_same now c s).starting]
    exact Bool.not_eq_true _ ▸ hstarting

end Frames

/-! ## Any run -/

section Runs

variable {m} {addr : String} {port : ℕ}

theorem run_snoc (x : Conn × σ) (events : List Event) (e : Event) :
    run m addr port x (events ++ [e]) = step m addr port (run m addr port x events) e := by
  rw [run, List.foldl_append]
  rfl

theorem run_unknown (s : σ) (events : List Event) : Unknown (run m addr port (powerOn, s) events).1 := by
  induction events using List.reverseRecOn with
  | nil => exact fun _ => ConnectState.noConfusion
  | append_singleton events e ih =>
    rw [run_snoc]
    cases e with
    | lap now => exact lap_unknown now _ _ ih
    | queue frame => exact ih
    | closed => exact fun _ => ConnectState.noConfusion
    | login => exact ih
    | reconnect => exact ih
    | handOver =>
      rw [step]
      split_ifs
      · exact ih
      · exact ih

/-- the frames of any run, whatever the modem answers -/
theorem queue_kept (s : σ) (events : List Event) :
    (run m addr port (powerOn, s) events).1.sent ++ (run m addr port (powerOn, s) events).1.xQueue_4gFrameTx =
      queued events := by
  induction events using List.reverseRecOn with
  | nil => rfl
  | append_singleton events e ih =>
    rw [run_snoc, queued, List.filterMap_append, ← queued, ← ih]
    cases e with
    | lap now =>
      rw [step, lap_sent]
      exact (List.append_nil _).symm
    | queue frame => exact (List.append_assoc _ _ [frame]).symm
    | closed => exact (List.append_nil _).symm
    | login => exact (List.append_nil _).symm
    | reconnect => exact (List.append_nil _).symm
    | handOver =>
      rw [step]
      split_ifs <;> exact (List.append_nil _).symm

end Runs

/-! ## A modem that works -/

section Working

variable (pdp : σ → Bool) (socket : σ → Option ConnectState)

/-- the context and the connection of the modem are as they were -/
structure Same (s s' : σ) : Prop where
  pdp : pdp s' = pdp s
  socket : socket s' = socket s

/-- a modem that starts, says how its connection stands, and does what it is told; it may well stay in `OPENING` -/
structure Works (addr : String) (port : ℕ) : Prop where
  starts : ∀ s, (ec20SoftInit m s).1 = true ∧ pdp (ec20SoftInit m s).2 = false ∧ socket (ec20SoftInit m s).2 = none
  qistate : ∀ s, ∃ data s', m.atSendCmd s "AT+QISTATE=1,0\r\n" "OK" = (some data, s') ∧ Same pdp socket s s' ∧
    reported data = (socket s).getD .unknowState
  qiactAsked : ∀ s, (ec20GetAtQiact m s).1 = pdp s ∧ Same pdp socket s (ec20GetAtQiact m s).2
  qiact : ∀ s, socket s = none → ∃ data s', m.atSendCmd s "AT+QIACT=1\r\n" "OK" = (some data, s') ∧ pdp s' = true ∧
    socket s' = none
  qiopen : ∀ s, pdp s = true → socket s = none → ∃ data s',
    m.atSendCmd s (qiopenCmd addr port) "+QIOPEN: " = (some data, s') ∧
      searchStr data (ascii "+QIOPEN: 0,0") ≠ none ∧ pdp s' = true ∧ socket s' = some .connected
  qiclose : ∀ s, ∃ data s', m.atSendCmd s "AT+QICLOSE=0\r\n" "OK" = (some data, s') ∧ pdp s' = pdp s ∧ socket s' = none
  csq : ∀ s, Same pdp socket s (m.ok s "AT+CSQ\r\n" "OK").2
  cclk : ∀ s, Same pdp socket s (m.atSendCmd s "AT+CCLK?\r\n" "OK").2
  qisend : ∀ s frame n, Same pdp socket s (m.ok s ("AT+QISEND=0," ++ toString (n : ℕ) ++ "\r\n") "> ").2 ∧
    Same pdp socket s (m.writeData s frame)
  sockets : ∀ s, socket s ≠ some .unknowState ∧ socket s ≠ some .gotIp ∧ socket s ≠ some .listening

variable {m} {pdp socket} {addr : String} {port : ℕ}

theorem Same.refl (s : σ) : Same pdp socket s s := ⟨rfl, rfl⟩

theorem Same.trans {s s' s'' : σ} (h : Same pdp socket s s') (h' : Same pdp socket s' s'') : Same pdp socket s s'' :=
  ⟨h'.pdp.trans h.pdp, h'.socket.trans h.socket⟩

/-- the state that such a modem is found in -/
def stateOf (pdp : Bool) : Option ConnectState → ConnectState
  | some k => k
  | none => if pdp then .gotIp else .unknowState

theorem Works.state (hw : Works m pdp socket addr port) (s : σ) :
    (ec20GetAtQistate m s).1 = stateOf (pdp s) (socket s) ∧ Same pdp socket s (ec20GetAtQistate m s).2 := by
  obtain ⟨data, s', hsend, hsame, hreported⟩ := hw.qistate s
  obtain ⟨hqiact, hafter⟩ := hw.qiactAsked s'
  rw [ec20GetAtQistate, hsend]
  simp only [hreported]
  cases hsocket : socket s with
  | none =>
    rw [Option.getD_none, if_pos rfl, hqiact, hsame.pdp]
    exact ⟨rfl, hsame.trans hafter⟩
  | some k =>
    have hk : k ≠ .unknowState := fun h => (hw.sockets s).1 (by rw [hsocket, h])
    rw [Option.getD_some, if_neg hk]
    exact ⟨rfl, hsame⟩

theorem Works.sync (hw : Works m pdp socket addr port) (sync_cycle now : UInt32) (t : NetTime) (s : σ) :
    Same pdp socket s (syncDataTimeFormEc20Module m sync_cycle now t s).2 := by
  rw [syncDataTimeFormEc20Module]
  have hcclk := hw.cclk s
  split_ifs with hdue
  · dsimp only
    cases (m.atSendCmd s "AT+CCLK?\r\n" "OK").1 with
    | none => exact hcclk
    | some data =>
      dsimp only
      split_ifs <;> exact hcclk
  · exact Same.refl s

theorem Works.refresh (hw : Works m pdp socket addr port) {now : UInt32} {c : Conn} (hdue : c.Due now) (s : σ) :
    (refresh m now c s).1.ec20ConnectState = stateOf (pdp s) (socket s) ∧ Same pdp socket s (refresh m now c s).2 := by
  obtain ⟨hstate, hsame⟩ := hw.state s
  rw [Modem.refresh, if_pos hdue]
  exact ⟨hstate, (hsame.trans (hw.csq _)).trans (hw.sync _ _ _ _)⟩

theorem tryAgain_first {attempt undo : σ → Bool × σ} {s : σ} (h : (attempt s).1 = true) (n : ℕ) :
    tryAgain attempt undo (n + 1) s = attempt s := by
  rw [tryAgain]
  exact if_pos h

theorem ok_some {s s' : σ} {cmd result : String} {data : List UInt8} (h : m.atSendCmd s cmd result = (some data, s')) :
    m.ok s cmd result = (true, s') := by
  rw [Device.ok, h]
  rfl

/-- the task and the modem are connected -/
structure Connected (socket : σ → Option ConnectState) (x : Conn × σ) : Prop where
  running : x.1.starting = false
  state : x.1.ec20ConnectState = .connected
  socket : socket x.2 = some .connected

/-- how many laps are left at the most -/
def rank (pdp : σ → Bool) (socket : σ → Option ConnectState) (x : Conn × σ) : ℕ :=
  if x.1.starting then 4
  else match socket x.2 with
    | some .connected => 1
    | some .opening => 5 + (100 - x.1.wait_cnt)
    | some _ => if pdp x.2 then 3 else 4
    | none => if pdp x.2 then 2 else 3

theorem rank_pos (x : Conn × σ) : 0 < rank pdp socket x := by
  rw [rank]
  split_ifs
  · exact Nat.succ_pos _
  · split <;> omega
  · split <;> omega

theorem rank_le (x : Conn × σ) : rank pdp socket x ≤ 105 := by
  rw [rank]
  split_ifs
  · omega
  · split <;> omega
  · split <;> omega

/-- a lap brings the connection nearer, or it is there -/
def Nearer (pdp : σ → Bool) (socket : σ → Option ConnectState) (x y : Conn × σ) : Prop :=
  Connected socket y ∨ y.1.ec20ConnectState ≠ .connected ∧ rank pdp socket y < rank pdp socket x

/-- what a command that closes the connection leaves -/
theorem closes_nearer (hw : Works m pdp socket addr port) {c c' : Conn} {s s' : σ} {k : ConnectState}
    (hc : c.starting = false) (hc' : c'.starting = false) (hstate : c'.ec20ConnectState = k)
    (hk : k = .initial ∨ k = .closing) (hsocket : socket s = some k) (hsame : Same pdp socket s s') :
    Nearer pdp socket (c, s) (c'.unless (ec20SetAtQiclose m s')) := by
  obtain ⟨data, s'', hsend, hpdp, hnone⟩ := hw.qiclose s'
  rw [ec20SetAtQiclose, ok_some hsend, Conn.unless, if_pos rfl]
  refine Or.inr ⟨?_, ?_⟩
  · change c'.ec20ConnectState ≠ .connected
    rw [hstate]
    rcases hk with rfl | rfl <;> exact ConnectState.noConfusion
  · have hbefore : rank pdp socket (c, s) = if pdp s then 3 else 4 := by
      simp only [rank, hc, hsocket]
      rcases hk with rfl | rfl <;> rfl
    rw [hbefore]
    simp only [rank, hc', hnone, hpdp, hsame.pdp]
    cases pdp s <;> decide

theorem act_nearer (hw : Works m pdp socket addr port) {c c' : Conn} {s s' : σ} (hc : c.starting = false)
    (hc' : c'.starting = false) (hwait : c'.wait_cnt = c.wait_cnt)
    (hstate : c'.ec20ConnectState = stateOf (pdp s) (socket s)) (hsame : Same pdp socket s s') :
    Nearer pdp socket (c, s) (act m addr port c' s') := by
  obtain ⟨hunknown, hgotIp, hlistening⟩ := hw.sockets s
  cases hsocket : socket s with
  | none =>
    have hnone : socket s' = none := hsame.socket.trans hsocket
    rw [hsocket] at hstate
    cases hpdp : pdp s with
    | true =>
      rw [hpdp] at hstate
      obtain ⟨data, s'', hsend, hopen, hpdp'', hopened⟩ := hw.qiopen s' (hsame.pdp.trans hpdp) hnone
      have hfield : m.okField s' (qiopenCmd addr port) "+QIOPEN: "
          (fun data => (searchStr data (ascii "+QIOPEN: 0,0")).isSome) = (true, s'') := by
        rw [Device.okField, hsend]
        exact Prod.ext (Option.isSome_iff_ne_none.2 hopen) rfl
      have hstate' : c'.ec20ConnectState = .gotIp := hstate
      rw [act, hstate']
      dsimp only
      rw [ec20SetAtQiopen, tryAgain_first (by rw [hfield]), hfield, Conn.unless, if_pos rfl]
      refine Or.inr ⟨?_, ?_⟩
      · change c'.ec20ConnectState ≠ .connected
        rw [hstate']
        exact ConnectState.noConfusion
      · simp only [rank, hc, hc', hsocket, hopened, hpdp]
        decide
    | false =>
      rw [hpdp] at hstate
      obtain ⟨data, s'', hsend, hpdp'', hnone''⟩ := hw.qiact s' hnone
      have hstate' : c'.ec20ConnectState = .unknowState := hstate
      rw [act, hstate']
      dsimp only
      rw [ec20SetAtQiact, tryAgain_first (by rw [ok_some hsend]), ok_some hsend, Conn.unless, if_pos rfl]
      refine Or.inr ⟨?_, ?_⟩
      · change c'.ec20ConnectState ≠ .connected
        rw [hstate']
        exact ConnectState.noConfusion
      · simp only [rank, hc, hc', hsocket, hnone'', hpdp, hpdp'']
        decide
  | some k =>
    have hstate' : c'.ec20ConnectState = k := by
      rw [hstate, hsocket]
      rfl
    rw [act, hstate']
    cases k with
    | unknowState => exact absurd hsocket hunknown
    | gotIp => exact absurd hsocket hgotIp
    | listening => exact absurd hsocket hlistening
    | initial => exact closes_nearer hw hc hc' hstate' (Or.inl rfl) hsocket hsame
    | closing => exact closes_nearer hw hc hc' hstate' (Or.inr rfl) hsocket hsame
    | opening =>
      dsimp only
      have hbefore : rank pdp socket (c, s) = 5 + (100 - c.wait_cnt) := by
        simp only [rank, hc, hsocket]
        rfl
      split_ifs with hlong
      · refine Or.inr ⟨ConnectState.noConfusion, ?_⟩
        rw [hbefore]
        change 4 < _
        omega
      · have hsocket' : socket s' = some .opening := hsame.socket.trans hsocket
        refine Or.inr ⟨ConnectState.noConfusion, ?_⟩
        rw [hbefore]
        simp only [rank, hc', hsocket']
        change 5 + (100 - (c'.wait_cnt + 1)) < _
        omega
    | connected =>
      have hsocket' : socket s' = some .connected := hsame.socket.trans hsocket
      refine Or.inl ?_
      dsimp only
      rw [pull4gTxQueueAndSendFrame]
      cases c'.xQueue_4gFrameTx with
      | nil => exact ⟨hc', hstate', hsocket'⟩
      | cons frame rest =>
        refine ⟨hc', hstate', ?_⟩
        dsimp only
        have hsent := hw.qisend s' frame frame.length
        split_ifs
        · exact ((hw.qisend _ frame 0).2.socket.trans hsent.1.socket).trans hsocket'
        · exact hsent.1.socket.trans hsocket'

/-- **A lap of the task** with a modem that works is a step towards a connection. -/
theorem lap_nearer (hw : Works m pdp socket addr port) {now : UInt32} {c : Conn} (s : σ)
    (hflag : c.flagReConnectToServer ≠ 2) (hunknown : Unknown c) (hdue : c.Due now) :
    Nearer pdp socket (c, s) (lap m addr port now c s) := by
  rw [lap]
  cases hc : c.starting with
  | true =>
    obtain ⟨hstarts, hpdp, hsocket⟩ := hw.starts s
    rw [if_pos rfl]
    refine Or.inr ⟨hunknown hc, ?_⟩
    have hbefore : rank pdp socket (c, s) = 4 := if_pos hc
    rw [hbefore]
    simp only [rank, hstarts, hsocket, hpdp]
    decide
  | false =>
    obtain ⟨hstate, hsame⟩ := hw.refresh hdue s
    have hrest := refresh_same (m := m) now c s
    rw [if_neg Bool.false_ne_true, if_neg hflag]
    exact act_nearer hw hc (hrest.starting.trans hc) hrest.wait_cnt hstate hsame

theorem unless_flag (c : Conn) (r : Bool × σ) : (c.unless r).1.flagReConnectToServer = c.flagReConnectToServer := by
  rw [Conn.unless]
  split_ifs <;> rfl

theorem lap_flag {now : UInt32} {c : Conn} (s : σ) (hflag : c.flagReConnectToServer ≠ 2) :
    (lap m addr port now c s).1.flagReConnectToServer ≠ 2 := by
  rw [lap, if_neg hflag]
  split_ifs
  · exact hflag
  · have hsame := (refresh_same (m := m) now c s).flag
    rw [← hsame] at hflag
    rw [act]
    cases (refresh m now c s).1.ec20ConnectState with
    | unknowState => exact (unless_flag _ _).symm ▸ hflag
    | initial => exact (unless_flag _ _).symm ▸ hflag
    | opening =>
      dsimp only
      split_ifs <;> exact hflag
    | connected =>
      rw [pull4gTxQueueAndSendFrame]
      cases (refresh m now c s).1.xQueue_4gFrameTx <;> exact hflag
    | listening => exact hflag
    | closing => exact (unless_flag _ _).symm ▸ hflag
    | gotIp => exact (unless_flag _ _).symm ▸ hflag

/-- laps one after the other -/
theorem laps_connect (hw : Works m pdp socket addr port) (n : ℕ) : ∀ (x : Conn × σ) (times : List UInt32),
    rank pdp socket x ≤ n → n ≤ times.length → x.1.flagReConnectToServer ≠ 2 → Unknown x.1 →
    (∀ now ∈ times.head?, x.1.Due now) →
    ∃ k ≤ n, Connected socket (run m addr port x ((times.take k).map .lap)) := by
  induction n with
  | zero => exact fun x _ hrank => absurd (rank_pos x) (Nat.not_lt.2 hrank)
  | succ n ih =>
    intro x times hrank hlen hflag hunknown hdue
    cases times with
    | nil => exact absurd hlen (Nat.not_succ_le_zero n)
    | cons now times =>
      have hflag' : (lap m addr port now x.1 x.2).1.flagReConnectToServer ≠ 2 := lap_flag x.2 hflag
      rcases lap_nearer hw x.2 hflag hunknown (hdue now rfl) with hconnected | ⟨hne, hless⟩
      · exact ⟨1, Nat.le_add_left 1 n, hconnected⟩
      · obtain ⟨k, hk, hconnected⟩ := ih (lap m addr port now x.1 x.2) times
          (Nat.le_of_lt_succ (hless.trans_le hrank)) (Nat.le_of_succ_le_succ hlen) hflag'
          (lap_unknown now _ _ hunknown) fun _ _ => Or.inl hne
        exact ⟨k + 1, Nat.succ_le_succ hk, hconnected⟩

end Working

/-! ## A modem -/

/-- a modem with a context and a connection, each there or not, and the answers it gives -/
def simple : Device (Bool × Bool) where
  powerOn _ := (true, (false, false))
  writeData s _ := s
  atSendCmd s cmd result :=
    if cmd = "AT+CGSN\r\n" then (some (ascii "\r\n861234567890123\r\n\r\nOK\r\n"), s)
    else if cmd = "AT+QCCID\r\n" then (some (ascii "\r\n+QCCID: 89860012345678901234\r\n\r\nOK\r\n"), s)
    else if cmd = "AT+CIMI\r\n" then (some (ascii "\r\n460012345678901\r\n\r\nOK\r\n"), s)
    else if cmd = "AT+QISTATE=1,0\r\n" then
      (some (ascii (if s.2 then "+QISTATE: 0,\"TCP\",\"10.0.0.1\",80,0,2,1,0\r\n\r\nOK\r\n" else "\r\nOK\r\n")), s)
    else if cmd = "AT+QIACT?\r\n" then (some (ascii (if s.1 then "+QIACT: 1,1,1\r\n\r\nOK\r\n" else "\r\nOK\r\n")), s)
    else if cmd = "AT+QIACT=1\r\n" then (some (ascii "\r\nOK\r\n"), (true, s.2))
    else if cmd = "AT+QICLOSE=0\r\n" then (some (ascii "\r\nOK\r\n"), (s.1, false))
    else if cmd = qiopenCmd "10.0.0.1" 80 then (some (ascii "\r\nOK\r\n\r\n+QIOPEN: 0,0\r\n"), (s.1, true))
    else (some (ascii result), s)

def simpleSocket (s : Bool × Bool) : Option ConnectState := if s.2 then some .connected else none

theorem qisend_ne {t : String} (h : t.toList.take 8 ≠ "AT+QISEN".toList) (n : ℕ) :
    "AT+QISEND=0," ++ toString n ++ "\r\n" ≠ t := by
  rintro rfl
  exact h (by simp [String.toList_append])

theorem simple_works : Works simple Prod.fst simpleSocket "10.0.0.1" 80 where
  starts := by
    rintro ⟨p, o⟩
    cases p <;> cases o <;> decide
  qistate := by
    rintro ⟨p, o⟩
    cases p <;> cases o <;> exact ⟨_, _, rfl, ⟨rfl, rfl⟩, by decide⟩
  qiactAsked := by
    rintro ⟨p, o⟩
    cases p <;> cases o <;> exact ⟨by decide, rfl, rfl⟩
  qiact := by
    rintro ⟨p, o⟩ hnone
    cases o
    · exact ⟨_, _, rfl, rfl, rfl⟩
    · exact absurd hnone (Option.some_ne_none _)
  qiopen := by
    rintro ⟨p, o⟩ hpdp hnone
    exact ⟨_, _, rfl, by decide, hpdp, rfl⟩
  qiclose := by
    rintro ⟨p, o⟩
    exact ⟨_, _, rfl, rfl, rfl⟩
  csq := by
    rintro ⟨p, o⟩
    exact ⟨rfl, rfl⟩
  cclk := by
    rintro ⟨p, o⟩
    exact ⟨rfl, rfl⟩
  qisend := by
    intro s frame n
    refine ⟨?_, rfl, rfl⟩
    have hne : ∀ t : String, t.toList.take 8 ≠ "AT+QISEN".toList → ¬ "AT+QISEND=0," ++ toString n ++ "\r\n" = t :=
      fun t h => qisend_ne h n
    simp only [Device.ok, simple]
    rw [if_neg (hne _ (by decide)), if_neg (hne _ (by decide)), if_neg (hne _ (by decide)), if_neg (hne _ (by decide)),
      if_neg (hne _ (by decide)), if_neg (hne _ (by decide)), if_neg (hne _ (by decide)), if_neg (hne _ (by decide))]
    exact ⟨rfl, rfl⟩
  sockets := by
    rintro ⟨p, o⟩
    cases p <;> cases o <;> decide

end DataConcentrator.Modem
