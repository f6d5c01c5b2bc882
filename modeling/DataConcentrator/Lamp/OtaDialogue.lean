/-
The dialogue of a lamp firmware download with the server: `LampSendOtaRequestToServer` and
`LampSendOtaCompleteNoticeToServer`, polled in any order, and the messages that set `LampFrameWareState.state`.

Calls and messages are taken one after the other. What the frames hold, whether there is memory for one, and the EEPROM
copy are left out: a frame counts as sent where its function is called.
- `requestToServer_inv`, `completeNotice_inv`, `step_inv`: what a call or a message preserves;
- `run_inv`: what every reachable state satisfies;
- `otaDialogue_iff`: the requests are bounded and end in `FIRMWARE_DOWNLOAD_FAILED`; the notices are bounded as long as
  so few of their time-outs have passed;
- `notices_go_on`: the notices start again.
-/
import DataConcentrator.Firmware.Download
import DataConcentrator.Lib.RetryTimer
import DataConcentrator.Lib.WhileLoop
import DataConcentrator.Report.AlarmReport

namespace DataConcentrator.Lamp.OtaDialogue

open Firmware (Surroundings lampRequestFrameWareUpDate lampRecvFrameWareBag)
open Protocol (Parameter)
open Report (BasicConfig)

/-! ## State -/

/-- `FIRMWARE_FREE` to `FIRMWARE_DOWNLOADED_SUCCESS` -/
inductive FirmwareState
  | free
  | downloading
  | downloadWait
  | downloaded
  | downloadFailed
  | updating
  | updateSuccess
  | updateFailed
  | eraseSuccess
  | eraseFail
  | eraseing
  | downloadedSuccess
deriving DecidableEq, Repr

/-- a bag is being asked for -/
def FirmwareState.Underway (s : FirmwareState) : Prop := s = .downloading ∨ s = .downloadWait

/-- the server is being told that the download has ended -/
def FirmwareState.Ended (s : FirmwareState) : Prop := s = .downloaded ∨ s = .downloadFailed

instance (s : FirmwareState) : Decidable s.Underway := inferInstanceAs (Decidable (_ ∨ _))

instance (s : FirmwareState) : Decidable s.Ended := inferInstanceAs (Decidable (_ ∨ _))

/-- a record of what happened: since the state was last set to `FIRMWARE_DOWNLOADING`, the requests and the time-outs they
met; since the download ended, where the statics of the notices stood, the clock at each call, and the notices -/
structure History where
  requested : ℕ
  waited : ℕ
  time_3 : UInt32
  retry_times3 : UInt8
  looks : List (UInt32 × UInt32)
  notices : ℕ

/-- `LampFrameWareState.state`, the rest of that record with the flash, and the statics of the two functions -/
structure Ota where
  state : FirmwareState
  download : Firmware.St
  time_3 : UInt32
  retry_times3 : UInt8
  time_4 : UInt32
  retry_times4 : UInt8
  history : History

/-- after a start, with the stored state -/
def boot (state : FirmwareState) (download : Firmware.St) : Ota :=
  ⟨state, download, 0, 0, 0, 0, ⟨0, 0, 0, 0, [], 0⟩⟩

/-- `LampFrameWareState.state = state` -/
def Ota.set (o : Ota) (state : FirmwareState) : Ota :=
  { o with
    state := state
    history :=
      if state = .downloading then { o.history with requested := 0, waited := 0 }
      else if state.Ended ∧ ¬ o.state.Ended then
        { o.history with time_3 := o.time_3, retry_times3 := o.retry_times3, looks := [], notices := 0 }
      else o.history }

/-! ## The polled functions -/

section Polled

variable (cfg : BasicConfig)

/-- `GetSysTick1s() - time >= command_response_timeout` -/
def expired (time now : UInt32) : Bool := (now - time).toNat ≥ cfg.command_response_timeout.toNat

/-- the clock is read for the comparison and once more when the time is over -/
def lampSendOtaCompleteNoticeToServer (look : UInt32 × UInt32) (o : Ota) : Ota :=
  if o.state.Ended then
    let o := { o with history.looks := o.history.looks ++ [look] }
    if expired cfg o.time_3 look.1 then
      if o.retry_times3 < cfg.command_retransmission_times then
        { o with
          time_3 := look.2
          retry_times3 := o.retry_times3 + 1
          history.notices := o.history.notices + 1 }
      else { o with time_3 := look.2, retry_times3 := 0 }
    else o
  else { o with retry_times3 := 0 }

/-- the label `RE_SEND_OTA_REQUEST` -/
def reSendOtaRequest (o : Ota) : Ota :=
  { o with state := .downloadWait, history.requested := o.history.requested + 1 }

/-- the second half of `LampSendOtaRequestToServer` where the time is over, with the readings of the clock from `i` on -/
def timeOut (ticks : ℕ → UInt32) (x : Ota × ℕ) : Option (Ota × ℕ) :=
  if x.1.state = .downloadWait ∧ expired cfg x.1.time_4 (ticks x.2) then
    let o := { x.1 with time_4 := ticks (x.2 + 1), history.waited := x.1.history.waited + 1 }
    some (if o.retry_times4 < cfg.command_retransmission_times then
        reSendOtaRequest { o with retry_times4 := o.retry_times4 + 1 }
      else { o with retry_times4 := 0 }.set .downloadFailed, x.2 + 2)
  else none

def lampSendOtaRequestToServer (ticks : ℕ → UInt32) (o : Ota) : Option Ota :=
  let x := if o.state = .downloading then (reSendOtaRequest { o with time_4 := ticks 0, retry_times4 := 0 }, 1) else (o, 0)
  if x.1.state = .downloadWait then (WhileLoop.run (timeOut cfg ticks) 256 x).map Prod.fst
  else some { o with retry_times4 := 0 }

end Polled

/-! ## The messages -/

/-- `LampRequestFrameWareUpDate` -/
def requestFrameWareUpDate (paras : List Parameter) (o : Ota) : Option Ota :=
  (lampRequestFrameWareUpDate paras o.download).map fun d =>
    let o' := { o with download := { d with fw.state := .firmwareFree } }
    if d.fw.state = .firmwareDownloading then o'.set .downloading else o'.set .free

/-- `LampRecvFrameWareBag`, which does not look at the state (`Firmware.recvBag_found`) and never sets `FIRMWARE_FREE`:
where it is free after the call, nothing has set it -/
def recvFrameWareBag (env : Surroundings) (paras : List Parameter) (o : Ota) : Option Ota :=
  (lampRecvFrameWareBag env paras { o.download with fw.state := .firmwareFree }).map fun d =>
    let o' := { o with download := { d with fw.state := .firmwareFree } }
    match d.fw.state with
    | .firmwareFree => o'
    | .firmwareDownloading => o'.set .downloading
    | .firmwareDownloaded => o'.set .downloaded
    | .firmwareDownloadFailed => o'.set .downloadFailed

/-- `WriteLampFrameWareState(2,1)`, on the answer to a notice -/
def completeDownload (o : Ota) : Ota :=
  if o.state = .downloaded then o.set .downloadedSuccess
  else { o with download := { o.download with fw := .reset } }.set .free

inductive Poll
  | notice (look : UInt32 × UInt32)
  | request (ticks : ℕ → UInt32)

inductive Event
  | poll (p : Poll)
  | frameWareUpDate (paras : List Parameter)
  | bag (env : Surroundings) (paras : List Parameter)
  | complete

def poll (cfg : BasicConfig) (o : Ota) : Poll → Option Ota
  | .notice look => some (lampSendOtaCompleteNoticeToServer cfg look o)
  | .request ticks => lampSendOtaRequestToServer cfg ticks o

def step (cfg : BasicConfig) (o : Ota) : Event → Option Ota
  | .poll p => poll cfg o p
  | .frameWareUpDate paras => requestFrameWareUpDate paras o
  | .bag env paras => recvFrameWareBag env paras o
  | .complete => some (completeDownload o)

def run (cfg : BasicConfig) (o : Ota) (es : List Event) : Option Ota := es.foldlM (step cfg) o

/-- the server is silent -/
def silence (cfg : BasicConfig) (o : Ota) (ps : List Poll) : Option Ota := ps.foldlM (poll cfg) o

/-! ## The invariant -/

section Invariant

variable (cfg : BasicConfig)

/-- the notices since the download ended follow the time-outs since -/
structure Lapped (o : Ota) : Prop where
  carried : o.history.retry_times3.toNat ≤ cfg.command_retransmission_times.toNat
  timer : o.time_3 = RetryTimer.timer (expired cfg) o.history.time_3 o.history.looks
  counter : o.retry_times3.toNat = RetryTimer.counter cfg.command_retransmission_times.toNat
    o.history.retry_times3.toNat (RetryTimer.laps (expired cfg) o.history.time_3 o.history.looks)
  notices : o.history.notices = RetryTimer.sends cfg.command_retransmission_times.toNat
    o.history.retry_times3.toNat (RetryTimer.laps (expired cfg) o.history.time_3 o.history.looks)

/-- what holds in every state of the dialogue -/
structure Core (o : Ota) : Prop where
  retry3 : o.retry_times3.toNat ≤ cfg.command_retransmission_times.toNat
  requested : o.history.requested ≤ 1 + cfg.command_retransmission_times.toNat
  ended : o.state.Ended → Lapped cfg o

/-- and what counts the requests while there are any -/
structure Inv (o : Ota) : Prop extends Core cfg o where
  downloading : o.state = .downloading → o.history.requested = 0 ∧ o.history.waited = 0
  wait : o.state = .downloadWait → o.retry_times4.toNat ≤ cfg.command_retransmission_times.toNat ∧
    o.history.requested ≤ 1 + o.retry_times4.toNat ∧ o.history.waited = o.retry_times4.toNat

variable {cfg} {o : Ota}

theorem boot_inv (state : FirmwareState) (download : Firmware.St) : Inv cfg (boot state download) where
  retry3 := Nat.zero_le _
  requested := Nat.zero_le _
  ended _ := ⟨Nat.zero_le _, rfl, (RetryTimer.counter_zero (Nat.zero_le _)).symm, RetryTimer.sends_zero.symm⟩
  downloading _ := ⟨rfl, rfl⟩
  wait _ := ⟨Nat.zero_le _, Nat.zero_le _, rfl⟩

theorem history_set_ended {state : FirmwareState} (hended : state.Ended) (hnot : ¬ o.state.Ended) :
    (o.set state).history =
      { o.history with time_3 := o.time_3, retry_times3 := o.retry_times3, looks := [], notices := 0 } := by
  have hdown : state ≠ .downloading := by
    rintro rfl
    exact absurd hended (by decide)
  rw [Ota.set, if_neg hdown, if_pos ⟨hended, hnot⟩]

theorem history_set_other {state : FirmwareState} (hdown : state ≠ .downloading) (h : ¬ (state.Ended ∧ ¬ o.state.Ended)) :
    (o.set state).history = o.history := by
  rw [Ota.set, if_neg hdown, if_neg h]

/-- where neither the record nor the statics of the notices change -/
theorem Lapped.frame {t : Ota} (h : Lapped cfg o) (htime : t.time_3 = o.time_3) (hretry : t.retry_times3 = o.retry_times3)
    (hhistory : t.history = o.history) : Lapped cfg t := by
  constructor
  · rw [hhistory]
    exact h.carried
  · rw [htime, hhistory]
    exact h.timer
  · rw [hretry, hhistory]
    exact h.counter
  · rw [hhistory]
    exact h.notices

/-- the end of a download starts a new record of the notices, or goes on with the one there is -/
theorem set_lapped (h : Core cfg o) {state : FirmwareState} (hended : state.Ended) : Lapped cfg (o.set state) := by
  by_cases hwas : o.state.Ended
  · have hdown : state ≠ .downloading := by
      rintro rfl
      exact absurd hended (by decide)
    exact (h.ended hwas).frame rfl rfl (history_set_other hdown fun hnew => hnew.2 hwas)
  · have hhistory := @history_set_ended o state hended hwas
    constructor
    · rw [hhistory]
      exact h.retry3
    · rw [hhistory]
      rfl
    · rw [hhistory]
      exact (RetryTimer.counter_zero h.retry3).symm
    · rw [hhistory]
      exact RetryTimer.sends_zero.symm

theorem requested_set_le (state : FirmwareState) : (o.set state).history.requested ≤ o.history.requested := by
  by_cases hdown : state = .downloading
  · rw [Ota.set, if_pos hdown]
    exact Nat.zero_le _
  · by_cases hnew : state.Ended ∧ ¬ o.state.Ended
    · rw [history_set_ended hnew.1 hnew.2]
    · rw [history_set_other hdown hnew]

/-- the state is set, and not to `FIRMWARE_DOWNLOAD_WAIT` -/
theorem set_inv (h : Core cfg o) {state : FirmwareState} (hstate : state ≠ .downloadWait) : Inv cfg (o.set state) where
  retry3 := h.retry3
  requested := (requested_set_le state).trans h.requested
  ended hended := set_lapped h hended
  downloading hdown := by
    have hdown' : state = .downloading := hdown
    rw [Ota.set, if_pos hdown']
    exact ⟨rfl, rfl⟩
  wait hwait := absurd hwait hstate

/-- another download record under the same state -/
theorem download_inv (h : Inv cfg o) (d : Firmware.St) : Inv cfg { o with download := d } :=
  ⟨⟨h.retry3, h.requested, fun hended => (h.ended hended).frame rfl rfl rfl⟩, h.downloading, h.wait⟩

/-! ### Notices -/

theorem toNat_succ {a b : UInt8} (h : a < b) : (a + 1).toNat = a.toNat + 1 := by
  have hlt := UInt8.lt_iff_toNat_lt.1 h
  have hb := b.toNat_lt
  rw [UInt8.toNat_add]
  exact Nat.mod_eq_of_lt (by change a.toNat + 1 < 256; omega)

/-- what a call of the notices can do -/
theorem completeNotice_cases (cfg : BasicConfig) (look : UInt32 × UInt32) (o : Ota) :
    (¬ o.state.Ended ∧ lampSendOtaCompleteNoticeToServer cfg look o = { o with retry_times3 := 0 }) ∨
    (o.state.Ended ∧ ¬ expired cfg o.time_3 look.1 ∧ lampSendOtaCompleteNoticeToServer cfg look o =
      { o with history.looks := o.history.looks ++ [look] }) ∨
    (o.state.Ended ∧ expired cfg o.time_3 look.1 ∧ o.retry_times3 < cfg.command_retransmission_times ∧
      lampSendOtaCompleteNoticeToServer cfg look o =
        { o with
          time_3 := look.2
          retry_times3 := o.retry_times3 + 1
          history := { o.history with
            looks := o.history.looks ++ [look]
            notices := o.history.notices + 1 } }) ∨
    (o.state.Ended ∧ expired cfg o.time_3 look.1 ∧ ¬ o.retry_times3 < cfg.command_retransmission_times ∧
      lampSendOtaCompleteNoticeToServer cfg look o =
        { o with time_3 := look.2, retry_times3 := 0, history.looks := o.history.looks ++ [look] }) := by
  unfold lampSendOtaCompleteNoticeToServer
  by_cases hended : o.state.Ended
  · rw [if_pos hended]
    by_cases hexp : expired cfg o.time_3 look.1 = true
    · by_cases hmore : o.retry_times3 < cfg.command_retransmission_times
      · exact Or.inr (Or.inr (Or.inl ⟨hended, hexp, hmore, by simp only [if_pos hexp, if_pos hmore]⟩))
      · exact Or.inr (Or.inr (Or.inr ⟨hended, hexp, hmore, by simp only [if_pos hexp, if_neg hmore]⟩))
    · exact Or.inr (Or.inl ⟨hended, hexp, by simp only [if_neg hexp]⟩)
  · exact Or.inl ⟨hended, if_neg hended⟩

/-- what is left as it is -/
theorem completeNotice_frame (cfg : BasicConfig) (look : UInt32 × UInt32) (o : Ota) :
    (lampSendOtaCompleteNoticeToServer cfg look o).state = o.state ∧
    (lampSendOtaCompleteNoticeToServer cfg look o).retry_times4 = o.retry_times4 ∧
    (lampSendOtaCompleteNoticeToServer cfg look o).history.requested = o.history.requested ∧
    (lampSendOtaCompleteNoticeToServer cfg look o).history.waited = o.history.waited := by
  rcases completeNotice_cases cfg look o with ⟨-, h⟩ | ⟨-, -, h⟩ | ⟨-, -, -, h⟩ | ⟨-, -, -, h⟩
  all_goals
    rw [h]
    exact ⟨rfl, rfl, rfl, rfl⟩

theorem completeNotice_retry3 (look : UInt32 × UInt32) (h : Inv cfg o) :
    (lampSendOtaCompleteNoticeToServer cfg look o).retry_times3.toNat ≤ cfg.command_retransmission_times.toNat := by
  rcases completeNotice_cases cfg look o with ⟨-, heq⟩ | ⟨-, -, heq⟩ | ⟨-, -, hmore, heq⟩ | ⟨-, -, -, heq⟩
  · rw [heq]
    exact Nat.zero_le _
  · rw [heq]
    exact h.retry3
  · rw [heq]
    exact (toNat_succ hmore).trans_le (UInt8.lt_iff_toNat_lt.1 hmore)
  · rw [heq]
    exact Nat.zero_le _

theorem completeNotice_lapped (look : UInt32 × UInt32) (hended : o.state.Ended) (h : Lapped cfg o) :
    Lapped cfg (lampSendOtaCompleteNoticeToServer cfg look o) := by
  have htimer := RetryTimer.timer_snoc (expired cfg) o.history.time_3 o.history.looks look
  have hlaps := RetryTimer.laps_snoc (expired cfg) o.history.looks look o.history.time_3
  have hcounter := @RetryTimer.counter_succ cfg.command_retransmission_times.toNat o.history.retry_times3.toNat
    (RetryTimer.laps (expired cfg) o.history.time_3 o.history.looks)
  have hsends := RetryTimer.sends_succ h.carried (RetryTimer.laps (expired cfg) o.history.time_3 o.history.looks)
  rw [← h.timer] at htimer hlaps
  rw [← h.counter] at hcounter hsends
  rcases completeNotice_cases cfg look o with ⟨hnot, -⟩ | ⟨-, hexp, heq⟩ | ⟨-, hexp, hmore, heq⟩ | ⟨-, hexp, hmore, heq⟩
  · exact absurd hended hnot
  · rw [if_neg hexp] at htimer hlaps
    rw [heq]
    refine ⟨h.carried, htimer.symm, ?_, ?_⟩
    · rw [hlaps]
      exact h.counter
    · rw [hlaps]
      exact h.notices
  · rw [if_pos hexp] at htimer hlaps
    rw [if_pos (UInt8.lt_iff_toNat_lt.1 hmore)] at hcounter hsends
    rw [heq]
    refine ⟨h.carried, htimer.symm, ?_, ?_⟩
    · rw [hlaps, hcounter]
      exact toNat_succ hmore
    · rw [hlaps, hsends, ← h.notices]
  · rw [if_pos hexp] at htimer hlaps
    rw [if_neg (mt UInt8.lt_iff_toNat_lt.2 hmore)] at hcounter hsends
    rw [heq]
    refine ⟨h.carried, htimer.symm, ?_, ?_⟩
    · rw [hlaps, hcounter]
      rfl
    · rw [hlaps, hsends]
      exact h.notices

theorem completeNotice_inv (look : UInt32 × UInt32) (h : Inv cfg o) :
    Inv cfg (lampSendOtaCompleteNoticeToServer cfg look o) := by
  obtain ⟨hstate, hretry4, hrequested, hwaited⟩ := completeNotice_frame cfg look o
  refine ⟨⟨completeNotice_retry3 look h, ?_, ?_⟩, ?_, ?_⟩
  · rw [hrequested]
    exact h.requested
  · rw [hstate]
    exact fun hended => completeNotice_lapped look hended (h.ended hended)
  · rw [hstate, hrequested, hwaited]
    exact h.downloading
  · rw [hstate, hretry4, hrequested, hwaited]
    exact h.wait

/-! ### Requests -/

theorem timeOut_some {ticks : ℕ → UInt32} {x y : Ota × ℕ} (h : timeOut cfg ticks x = some y) :
    x.1.state = .downloadWait ∧ expired cfg x.1.time_4 (ticks x.2) ∧ y.2 = x.2 + 2 ∧
    (x.1.retry_times4 < cfg.command_retransmission_times ∧ y.1 =
      { x.1 with
        time_4 := ticks (x.2 + 1)
        retry_times4 := x.1.retry_times4 + 1
        history := { x.1.history with requested := x.1.history.requested + 1, waited := x.1.history.waited + 1 } } ∨
    ¬ x.1.retry_times4 < cfg.command_retransmission_times ∧ y.1 =
      { x.1 with
        time_4 := ticks (x.2 + 1)
        retry_times4 := 0
        history.waited := x.1.history.waited + 1 }.set .downloadFailed) := by
  unfold timeOut at h
  split_ifs at h with hwait
  obtain ⟨hstate, hexp⟩ := hwait
  rw [← Option.some.inj h]
  refine ⟨hstate, hexp, rfl, ?_⟩
  by_cases hmore : x.1.retry_times4 < cfg.command_retransmission_times
  · refine Or.inl ⟨hmore, ?_⟩
    simp only [if_pos hmore, reSendOtaRequest, hstate]
  · refine Or.inr ⟨hmore, ?_⟩
    simp only [if_neg hmore]

/-- the rounds that are left -/
def left (cfg : BasicConfig) (x : Ota × ℕ) : ℕ :=
  if x.1.state = .downloadWait then cfg.command_retransmission_times.toNat - x.1.retry_times4.toNat + 1 else 0

/-- a time-out is counted, and the next request is sent or the download has failed -/
theorem timeOut_inv {ticks : ℕ → UInt32} {x y : Ota × ℕ} (h : Inv cfg x.1) (hy : timeOut cfg ticks x = some y) :
    Inv cfg y.1 ∧ (y.1.state = .downloadWait ∨ y.1.state = .downloadFailed) ∧
      y.1.history.waited = x.1.history.waited + 1 ∧ left cfg y < left cfg x := by
  obtain ⟨hstate, -, -, hcase⟩ := timeOut_some hy
  obtain ⟨hretry, hrequested, hwaited⟩ := h.wait hstate
  have hnot : ¬ x.1.state.Ended := by rw [hstate]; decide
  have hleft : left cfg x = cfg.command_retransmission_times.toNat - x.1.retry_times4.toNat + 1 := if_pos hstate
  rcases hcase with ⟨hmore, heq⟩ | ⟨hmore, heq⟩
  · have hlt := UInt8.lt_iff_toNat_lt.1 hmore
    have hsucc := toNat_succ hmore
    have hleft' : left cfg y = cfg.command_retransmission_times.toNat - (x.1.retry_times4 + 1).toNat + 1 := by
      rw [left, heq, if_pos hstate]
    rw [hleft, hleft', heq]
    refine ⟨⟨⟨h.retry3, ?_, fun hended => absurd hended hnot⟩, fun hdown => ?_, fun _ => ⟨?_, ?_, ?_⟩⟩, Or.inl hstate, rfl, ?_⟩
    · change x.1.history.requested + 1 ≤ _
      omega
    · rw [show x.1.state = _ from hdown] at hstate
      cases hstate
    · change (x.1.retry_times4 + 1).toNat ≤ _
      omega
    · change x.1.history.requested + 1 ≤ 1 + (x.1.retry_times4 + 1).toNat
      omega
    · change x.1.history.waited + 1 = (x.1.retry_times4 + 1).toNat
      omega
    · omega
  · have hleft' : left cfg y = 0 := by rw [left, heq]; rfl
    have hcore : Core cfg
        { x.1 with time_4 := ticks (x.2 + 1), retry_times4 := 0, history.waited := x.1.history.waited + 1 } :=
      ⟨h.retry3, h.requested, fun hended => absurd hended hnot⟩
    rw [hleft, hleft', heq]
    refine ⟨set_inv hcore (by decide), Or.inr rfl, ?_, Nat.succ_pos _⟩
    have hhistory := @history_set_ended
      { x.1 with time_4 := ticks (x.2 + 1), retry_times4 := 0, history.waited := x.1.history.waited + 1 }
      .downloadFailed (Or.inr rfl) hnot
    rw [hhistory]

theorem left_le (x : Ota × ℕ) : left cfg x ≤ 256 := by
  have hlt := cfg.command_retransmission_times.toNat_lt
  unfold left
  split_ifs <;> omega

/-- all time-outs of one call -/
theorem timeOuts_total (ticks : ℕ → UInt32) {x : Ota × ℕ} (fuel : ℕ) (h : Inv cfg x.1)
    (hstate : x.1.state = .downloadWait ∨ x.1.state = .downloadFailed) (hfuel : left cfg x ≤ fuel) :
    ∃ y, WhileLoop.run (timeOut cfg ticks) fuel x = some y ∧ Inv cfg y.1 ∧
      (y.1.state = .downloadWait ∨ y.1.state = .downloadFailed) ∧ x.1.history.waited ≤ y.1.history.waited := by
  have hround : ∀ a b, (Inv cfg a.1 ∧ (a.1.state = .downloadWait ∨ a.1.state = .downloadFailed) ∧
      x.1.history.waited ≤ a.1.history.waited) → timeOut cfg ticks a = some b →
      (Inv cfg b.1 ∧ (b.1.state = .downloadWait ∨ b.1.state = .downloadFailed) ∧
        x.1.history.waited ≤ b.1.history.waited) ∧ left cfg b < left cfg a := by
    rintro a b ⟨ha, -, hwaited⟩ hb
    obtain ⟨hinv, hnext, hcount, hless⟩ := timeOut_inv ha hb
    exact ⟨⟨hinv, hnext, by omega⟩, hless⟩
  obtain ⟨y, hy, hinv, -⟩ := WhileLoop.run_total (left cfg) hround fuel x ⟨h, hstate, le_rfl⟩ hfuel
  exact ⟨y, hy, hinv⟩

/-- what a call of the requests preserves -/
theorem requestToServer_inv (ticks : ℕ → UInt32) (h : Inv cfg o) : ∃ t, lampSendOtaRequestToServer cfg ticks o = some t ∧
    Inv cfg t ∧ (o.state.Underway ∨ o.state = .downloadFailed → t.state.Underway ∨ t.state = .downloadFailed) := by
  have hloop : ∀ x : Ota × ℕ, Inv cfg x.1 → x.1.state = .downloadWait →
      ∃ t, (WhileLoop.run (timeOut cfg ticks) 256 x).map Prod.fst = some t ∧ Inv cfg t ∧
        (o.state.Underway ∨ o.state = .downloadFailed → t.state.Underway ∨ t.state = .downloadFailed) := by
    intro x hx hwait
    obtain ⟨y, hy, hinv, hstate, -⟩ := timeOuts_total ticks 256 hx (Or.inl hwait) (left_le x)
    refine ⟨y.1, by rw [hy]; rfl, hinv, fun _ => ?_⟩
    exact hstate.imp (fun hw => Or.inr hw) id
  unfold lampSendOtaRequestToServer
  by_cases hdown : o.state = .downloading
  · obtain ⟨hrequested, hwaited⟩ := h.downloading hdown
    rw [if_pos hdown]
    refine hloop (reSendOtaRequest { o with time_4 := ticks 0, retry_times4 := 0 }, 1) ?_ rfl
    refine ⟨⟨h.retry3, ?_, fun hended => absurd hended (by decide : ¬ FirmwareState.Ended .downloadWait)⟩,
      fun hdown' => FirmwareState.noConfusion hdown', fun _ => ⟨Nat.zero_le _, ?_, ?_⟩⟩
    · change o.history.requested + 1 ≤ _
      omega
    · change o.history.requested + 1 ≤ 1 + 0
      omega
    · exact hwaited
  · rw [if_neg hdown]
    by_cases hwait : o.state = .downloadWait
    · exact (if_pos hwait : ite _ _ _ = _) ▸ hloop (o, 0) h hwait
    · refine ⟨{ o with retry_times4 := 0 }, if_neg hwait, ?_, id⟩
      exact ⟨⟨h.retry3, h.requested, fun hended => (h.ended hended).frame rfl rfl rfl⟩,
        fun hdown' => absurd hdown' hdown, fun hwait' => absurd hwait' hwait⟩

/-- a time-out that the call finds is counted -/
theorem requestToServer_waits {ticks : ℕ → UInt32} {t : Ota} (h : Inv cfg o) (hwait : o.state = .downloadWait)
    (hexp : expired cfg o.time_4 (ticks 0) = true) (ht : lampSendOtaRequestToServer cfg ticks o = some t) :
    o.history.waited < t.history.waited := by
  have hdown : ¬ o.state = .downloading := by rw [hwait]; decide
  obtain ⟨y, hy⟩ : ∃ y, timeOut cfg ticks (o, 0) = some y := by
    unfold timeOut
    rw [if_pos ⟨hwait, hexp⟩]
    exact ⟨_, rfl⟩
  obtain ⟨hinv, hstate, hcount, hless⟩ := timeOut_inv h hy
  have hle := @left_le cfg (o, 0)
  obtain ⟨z, hz, -, -, hwaited⟩ := timeOuts_total ticks 255 hinv hstate (by omega)
  have hrun := WhileLoop.run_round hy 255
  have hcall : lampSendOtaRequestToServer cfg ticks o = (WhileLoop.run (timeOut cfg ticks) 256 (o, 0)).map Prod.fst := by
    unfold lampSendOtaRequestToServer
    rw [if_neg hdown]
    exact if_pos hwait
  rw [hcall, hrun, hz, Option.map_some, Option.some.injEq] at ht
  rw [← ht]
  change o.history.waited < _
  change y.1.history.waited = o.history.waited + 1 at hcount
  omega

/-! ### Messages and runs -/

theorem requestFrameWareUpDate_inv {paras : List Parameter} {t : Ota} (h : Inv cfg o)
    (ht : requestFrameWareUpDate paras o = some t) : Inv cfg t := by
  obtain ⟨d, -, rfl⟩ := Option.map_eq_some_iff.1 ht
  have hcore := (download_inv h { d with fw.state := .firmwareFree }).toCore
  split_ifs
  · exact set_inv hcore (by decide)
  · exact set_inv hcore (by decide)

theorem recvFrameWareBag_inv {env : Surroundings} {paras : List Parameter} {t : Ota} (h : Inv cfg o)
    (ht : recvFrameWareBag env paras o = some t) : Inv cfg t := by
  obtain ⟨d, -, rfl⟩ := Option.map_eq_some_iff.1 ht
  have hinv := download_inv h { d with fw.state := .firmwareFree }
  cases hstate : d.fw.state with
  | firmwareFree => exact hinv
  | firmwareDownloading => exact set_inv hinv.toCore (by decide)
  | firmwareDownloaded => exact set_inv hinv.toCore (by decide)
  | firmwareDownloadFailed => exact set_inv hinv.toCore (by decide)

theorem completeDownload_inv (h : Inv cfg o) : Inv cfg (completeDownload o) := by
  unfold completeDownload
  split_ifs
  · exact set_inv h.toCore (by decide)
  · exact set_inv (download_inv h _).toCore (by decide)

/-- a poll always returns -/
theorem poll_inv (p : Poll) (h : Inv cfg o) : ∃ t, poll cfg o p = some t ∧ Inv cfg t ∧
    (o.state.Underway ∨ o.state = .downloadFailed → t.state.Underway ∨ t.state = .downloadFailed) := by
  cases p with
  | notice look =>
    refine ⟨_, rfl, completeNotice_inv look h, ?_⟩
    rw [(completeNotice_frame cfg look o).1]
    exact id
  | request ticks => exact requestToServer_inv ticks h

theorem step_inv {e : Event} {t : Ota} (h : Inv cfg o) (ht : step cfg o e = some t) : Inv cfg t := by
  cases e with
  | poll p =>
    obtain ⟨t', ht', hinv, -⟩ := poll_inv p h
    rw [step, ht', Option.some.injEq] at ht
    rwa [← ht]
  | frameWareUpDate paras => exact requestFrameWareUpDate_inv h ht
  | bag env paras => exact recvFrameWareBag_inv h ht
  | complete =>
    rw [← Option.some.inj ht]
    exact completeDownload_inv h

theorem run_inv (es : List Event) : ∀ {o t : Ota}, Inv cfg o → run cfg o es = some t → Inv cfg t := by
  induction es with
  | nil =>
    intro o t h ht
    rw [← Option.some.inj ht]
    exact h
  | cons e es ih =>
    intro o t h ht
    rw [run, List.foldlM_cons] at ht
    obtain ⟨u, hu, ht⟩ := Option.bind_eq_some_iff.1 ht
    exact ih (step_inv h hu) ht

/-- in the silence a download under way stays so or fails -/
theorem silence_inv (ps : List Poll) : ∀ {o : Ota}, Inv cfg o → ∃ t, silence cfg o ps = some t ∧ Inv cfg t ∧
    (o.state.Underway ∨ o.state = .downloadFailed → t.state.Underway ∨ t.state = .downloadFailed) := by
  induction ps with
  | nil => exact fun h => ⟨_, rfl, h, id⟩
  | cons p ps ih =>
    intro o h
    obtain ⟨u, hu, hinv, hkeep⟩ := poll_inv p h
    obtain ⟨t, ht, hinv', hkeep'⟩ := ih hinv
    refine ⟨t, ?_, hinv', fun hs => hkeep' (hkeep hs)⟩
    rw [silence, List.foldlM_cons, hu]
    exact ht

end Invariant

/-! ## Main result -/

/-- what is claimed of a silence from `s` on that has led to `t` -/
structure Bounded (cfg : BasicConfig) (s t : Ota) : Prop where
  requests : t.history.requested ≤ 1 + cfg.command_retransmission_times.toNat
  waits : ∀ ticks t', t.state = .downloadWait → expired cfg t.time_4 (ticks 0) →
    lampSendOtaRequestToServer cfg ticks t = some t' → t.history.waited < t'.history.waited
  failed : s.state.Underway → cfg.command_retransmission_times.toNat < t.history.waited → t.state = .downloadFailed
  notices : t.state.Ended → t.history.notices ≤ cfg.command_retransmission_times.toNat

/-- since the download ended, so few of the calls of the notices have found their time over: one more than the notices
there may be, and two more where the counter had reached its end before -/
def FewTimeOuts (cfg : BasicConfig) (h : History) : Prop :=
  cfg.command_retransmission_times = 0 ∨
  RetryTimer.laps (expired cfg) h.time_3 h.looks ≤ cfg.command_retransmission_times.toNat + 1 ∨
  h.retry_times3 = cfg.command_retransmission_times ∧
    RetryTimer.laps (expired cfg) h.time_3 h.looks ≤ cfg.command_retransmission_times.toNat + 2

/-- **OTA dialogue.** In every silence after every run the calls return, the requests for a bag are bounded and end in
failure, and the notices are bounded exactly as long as so few of their time-outs have passed. -/
theorem otaDialogue_iff (cfg : BasicConfig) (state : FirmwareState) (download : Firmware.St) (es : List Event)
    (ps : List Poll) (s : Ota) (hs : run cfg (boot state download) es = some s) :
    ∃ t, silence cfg s ps = some t ∧ (Bounded cfg s t ↔ (t.state.Ended → FewTimeOuts cfg t.history)) := by
  have hinv := run_inv es (boot_inv state download) hs
  obtain ⟨t, ht, h, hkeep⟩ := silence_inv ps hinv
  have hiff : t.state.Ended →
      (t.history.notices ≤ cfg.command_retransmission_times.toNat ↔ FewTimeOuts cfg t.history) := by
    intro hended
    have hlapped := h.ended hended
    rw [hlapped.notices, RetryTimer.sends_le_iff hlapped.carried, FewTimeOuts, UInt8.toNat_inj, ← UInt8.toNat_inj (b := 0)]
    rfl
  refine ⟨t, ht, fun hb hended => (hiff hended).1 (hb.notices hended), fun hfew => ?_⟩
  refine ⟨h.requested, fun ticks t' hwait hexp ht' => requestToServer_waits h hwait hexp ht', fun hunder hmany => ?_,
    fun hended => (hiff hended).2 (hfew hended)⟩
  rcases hkeep (Or.inl hunder) with (hdown | hwait) | hfailed
  · rw [(h.downloading hdown).2] at hmany
    exact absurd hmany (Nat.not_lt_zero _)
  · obtain ⟨hretry, -, hwaited⟩ := h.wait hwait
    omega
  · exact hfailed

/-! ## A download that fails -/

/-- one retry, after ten seconds -/
def oneRetry : BasicConfig := ⟨10, 1⟩

def md5Text : List UInt8 := List.replicate 32 0x61

/-- a request for an image of 516 bytes -/
def lampRequest : List Parameter := [⟨0x4002, 32, md5Text ++ [0]⟩, ⟨0x9003, 3, [0x35, 0x31, 0x36, 0]⟩]

def idle : Firmware.St := ⟨.reset, fun _ => 0, [], none⟩

/-- what the request sets up -/
def started : Ota where
  state := .downloading
  download :=
    { fw := ⟨.firmwareFree, 2, 1, 258, 258, 516, md5Text⟩
      flash := Firmware.eraseSectors (fun _ => 0) Firmware.lamp.sectors
      programmed := []
      checked := none }
  time_3 := 0
  retry_times3 := 0
  time_4 := 0
  retry_times4 := 0
  history := ⟨0, 0, 0, 0, [], 0⟩

theorem request_started : run oneRetry (boot .free idle) [.frameWareUpDate lampRequest] = some started := rfl

/-- every ten seconds a call: two requests, the failure, a notice, a time-out that is silent, and a notice -/
def unanswered : List Poll :=
  [.request fun _ => 0, .request fun _ => 10, .request fun _ => 20, .notice (30, 30), .notice (40, 40), .notice (50, 50)]

theorem otaDialogue_started : ∃ t, silence oneRetry started unanswered = some t ∧
    (Bounded oneRetry started t ↔ (t.state.Ended → FewTimeOuts oneRetry t.history)) :=
  otaDialogue_iff oneRetry .free idle [.frameWareUpDate lampRequest] unanswered started request_started

/-- **The notices go on.** The branch that ends them sets their counter to zero and leaves the state as it is. -/
theorem notices_go_on : ¬ ∀ (cfg : BasicConfig) (state : FirmwareState) (download : Firmware.St) (es : List Event)
    (ps : List Poll) (s : Ota), run cfg (boot state download) es = some s →
      ∃ t, silence cfg s ps = some t ∧ Bounded cfg s t := by
  intro h
  obtain ⟨t, ht, hb⟩ := h oneRetry .free idle [.frameWareUpDate lampRequest] unanswered started request_started
  have hend : (silence oneRetry started unanswered).map (fun t => (t.state, t.history.notices)) =
      some (.downloadFailed, 2) := rfl
  rw [ht, Option.map_some, Option.some.injEq, Prod.mk.injEq] at hend
  have hle := hb.notices (Or.inr hend.1)
  rw [hend.2] at hle
  exact absurd hle (by decide)

end DataConcentrator.Lamp.OtaDialogue
