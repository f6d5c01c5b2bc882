/-
A command to the modem and the wait for its answer: the loop of `AT_SendCmd` and `AT_SendData` in `at_cmd.c`, with the bursts that
`USART6_IRQHandler` hands over between polls.

- `poll`, `Exchange.after`: one round of `while(1)`, and the wait after so many of them;
- `clock`: how long a wait lasts, from the polls before which nothing came;
- `after_eq`: as long as a wait lasts it is where the clock and the bursts put it;
- `wait_iff`: the waits that end, write the command `1 + retry` times at most, return 1 only after a burst with the
  expected string and 0 only after `1 + retry` time-outs;
- `wait_wrong`: a `retry` of 255 without an answer, and an answer pieced together from two bursts.
-/
import DataConcentrator.Modem.Receive

namespace DataConcentrator.Modem

open DataConcentrator.Memory

/-! ## The wait -/

/-- what the interrupt does with a burst that holds nothing unsolicited, as far as the wait can see: `none` when it leaves
`rx_fifo1` -/
def answer (ringFifo1 : RingBuf CMD_BUF_MAX_LEN) (burst : List UInt8) : Option (RingBuf CMD_BUF_MAX_LEN) :=
  RingBuf.copyIn { ringFifo1 with getPtr := 0, putPtr := UInt16.ofNat burst.length } burst

/-- the interrupt on a burst in which it sees nothing unsolicited -/
theorem receive_answer {s : St} {burst : List UInt8} (hlen : burst.length < NET_BUF_MAX_LEN)
    (hget : s.ringFifo.getPtr = 0) (hresponse : IsResponse (received s burst).memory 0) :
    (∀ ring, answer s.ringFifo1 burst = some ring →
      ∃ t, receive 1 s burst = some (.ok t) ∧ t.rspOk = 1 ∧ t.ringFifo1 = ring) ∧
    (answer s.ringFifo1 burst = none → receive 1 s burst = some (.error .rxFifo1)) := by
  have hput : (received s burst).ringFifo.putPtr.toNat = burst.length := putPtr_received s hlen.le
  have helements : ringbufElements (received s burst).ringFifo = burst.length := by
    have hzero : (received s burst).ringFifo.getPtr = 0 := hget
    rw [@ringbufElements_of_get_zero NET_BUF_MAX_LEN 12 (by omega) rfl _ hzero, hput]
    exact Nat.mod_eq_of_lt hlen
  have hbytes : bytesAt (received s burst).memory 0 (ringbufElements (received s burst).ringFifo) = burst := by
    rw [helements, bytesAt, List.drop_zero, memory_received s hlen.le, List.append_assoc, List.take_left]
  have hptr : (received s burst).ringFifo.putPtr = UInt16.ofNat burst.length := by
    rw [← UInt16.toNat_inj, hput, UInt16.toNat_ofNat_of_lt' (hlen.trans (by decide))]
  have hpointers : (received s burst).ringFifo.getPtr = 0 := hget
  have hanalysis : analysis (received s burst) 0 = (answer s.ringFifo1 burst).elim (.error .rxFifo1)
      fun ring => .ok ({ received s burst with rspOk := 1, ringFifo1 := ring }, none) := by
    rw [analysis]
    dsimp only
    rw [if_neg hresponse, hbytes, hptr, hpointers]
    generalize ho : answer s.ringFifo1 burst = o
    have hcopy : RingBuf.copyIn { (received s burst).ringFifo1 with
        getPtr := 0, putPtr := UInt16.ofNat burst.length } burst = o := ho
    rw [hcopy]
    cases o <;> rfl
  rw [receive_eq, analysisLoop, hanalysis]
  constructor
  · intro ring hring
    rw [hring]
    exact ⟨_, rfl, rfl, rfl⟩
  · intro hnone
    rw [hnone]
    rfl

/-- the locals of the loop, `*result_ptr`, `*flag_ok`, what `callback` was given, and how often the time was up -/
structure Wait where
  newtime : ℕ
  retry_num : UInt8
  result_ptr : RingBuf CMD_BUF_MAX_LEN
  flag_ok : Bool
  written : List (List UInt8)
  timeouts : ℕ

inductive Progress where
  | waiting (w : Wait)
  | returned (ret : ℕ) (w : Wait)
  /-- a burst has left `rx_fifo1` -/
  | fault

/-- the bursts between two polls -/
def hear (w : Wait) (bursts : List (List UInt8)) : Option Wait :=
  bursts.foldlM (fun w burst => (answer w.result_ptr burst).map fun ring =>
    { w with result_ptr := ring, flag_ok := true }) w

/-- what is sent, what is waited for, and how long; `behind` is the memory that follows `rx_fifo1`, `polls` the bursts
before each poll -/
structure Exchange where
  bytes : List UInt8
  result : List UInt8
  retry : UInt8
  timeout : UInt16
  result_ptr : RingBuf CMD_BUF_MAX_LEN
  behind : List UInt8
  polls : List (List (List UInt8))

namespace Exchange

variable (x : Exchange)

/-- before the loop -/
def start : Wait := ⟨0, 0, ringbufClear x.result_ptr, false, [x.bytes], 0⟩

/-- one round of `while(1)` -/
def poll (w : Wait) : Progress :=
  let up := x.timeout.toNat ≤ w.newtime
  let w := if up then { w with retry_num := w.retry_num + 1, timeouts := w.timeouts + 1 } else w
  if up ∧ x.retry < w.retry_num then .returned 0 w
  else if w.flag_ok = true ∧ x.result <:+: cstr (w.result_ptr.data ++ x.behind) then
    .returned 1 { w with flag_ok := false }
  else
    let w := if w.flag_ok then { w with flag_ok := false } else { w with newtime := w.newtime + 1 }
    if up then
      .waiting { w with
        newtime := 0
        written := if 0 < w.retry_num ∧ w.retry_num.toNat < x.retry.toNat + 1 then w.written ++ [x.bytes]
          else w.written }
    else .waiting w

/-- the bursts before a poll -/
def bursts (n : ℕ) : List (List UInt8) := x.polls.getD n []

/-- after so many polls -/
def after : ℕ → Progress
  | 0 => .waiting x.start
  | n + 1 =>
    match after n with
    | .waiting w =>
      match hear w (x.bursts n) with
      | some w => x.poll w
      | none => .fault
    | p => p

/-- how the wait ends, unless it has 255 retries -/
def outcome : Progress := x.after (x.polls.length + (x.retry.toNat + 1) * (x.timeout.toNat + 1))

/-! ## The clock -/

/-- `newtime`, and the time-outs so far, before a poll of a wait that goes on -/
def clock : ℕ → ℕ × ℕ
  | 0 => (0, 0)
  | n + 1 =>
    if x.timeout.toNat ≤ (clock n).1 then (0, (clock n).2 + 1)
    else if x.bursts n = [] then ((clock n).1 + 1, (clock n).2)
    else clock n

/-- the time-outs before a poll -/
def timeouts (n : ℕ) : ℕ := (x.clock n).2

/-- what has been written after so many time-outs: nothing more when `retry_num` comes back to 0 -/
def writes (n : ℕ) : ℕ := 1 + (n - n / 256)

/-- the storage of `rx_fifo1` before a poll -/
def dataAt : ℕ → List UInt8
  | 0 => (ringbufClear x.result_ptr).data
  | n + 1 => (x.bursts n).foldl (fun data burst => burst ++ data.drop burst.length) (dataAt n)

/-- something came before a poll, and the expected string is in the buffer -/
def Matches (n : ℕ) : Prop := x.bursts n ≠ [] ∧ x.result <:+: cstr (x.dataAt (n + 1) ++ x.behind)

/-- the bursts before a poll fit `rx_fifo1` -/
def Fits (n : ℕ) : Prop := ∀ burst ∈ x.bursts n, burst.length ≤ CMD_BUF_MAX_LEN

/-- a poll is not the last time-out -/
def InTime (n : ℕ) : Prop := x.retry = 255 ∨ x.timeouts (n + 1) ≤ x.retry.toNat

/-- the wait lasts up to a poll -/
def Lasts (n : ℕ) : Prop := ∀ j < n, x.InTime j ∧ x.Fits j ∧ ¬ x.Matches j

/-! ## What a burst leaves behind -/

theorem answer_eq (ring : RingBuf CMD_BUF_MAX_LEN) {burst : List UInt8} (h : burst.length ≤ CMD_BUF_MAX_LEN) :
    ∃ ring', answer ring burst = some ring' ∧ ring'.data = burst ++ ring.data.drop burst.length := by
  rw [answer, RingBuf.copyIn, dif_pos h]
  exact ⟨_, rfl, rfl⟩

theorem hear_fits {w : Wait} {bursts : List (List UInt8)} (h : ∀ burst ∈ bursts, burst.length ≤ CMD_BUF_MAX_LEN) :
    ∃ ring, hear w bursts = some { w with result_ptr := ring, flag_ok := w.flag_ok || !bursts.isEmpty } ∧
      ring.data = bursts.foldl (fun data burst => burst ++ data.drop burst.length) w.result_ptr.data := by
  induction bursts generalizing w with
  | nil => exact ⟨w.result_ptr, by simp [hear], rfl⟩
  | cons burst bursts ih =>
    obtain ⟨ring, hring, hdata⟩ := answer_eq w.result_ptr (h burst List.mem_cons_self)
    obtain ⟨ring', hrest, hdata'⟩ := @ih { w with result_ptr := ring, flag_ok := true }
      fun b hb => h b (List.mem_cons_of_mem burst hb)
    refine ⟨ring', ?_, ?_⟩
    · rw [hear, List.foldlM_cons, hring]
      exact hrest.trans (by simp)
    · rw [hdata', List.foldl_cons, ← hdata]

theorem hear_long {w : Wait} {bursts : List (List UInt8)} (h : ¬ ∀ burst ∈ bursts, burst.length ≤ CMD_BUF_MAX_LEN) :
    hear w bursts = none := by
  induction bursts generalizing w with
  | nil => exact absurd (by simp) h
  | cons burst bursts ih =>
    by_cases hburst : burst.length ≤ CMD_BUF_MAX_LEN
    · obtain ⟨ring, hring, -⟩ := answer_eq w.result_ptr hburst
      rw [hear, List.foldlM_cons, hring]
      refine ih fun hrest => h fun b hb => ?_
      rcases List.mem_cons.1 hb with rfl | hb
      · exact hburst
      · exact hrest b hb
    · rw [hear, List.foldlM_cons, answer, RingBuf.copyIn, dif_neg hburst]
      rfl

/-! ## One round -/

/-- the wait before a poll is where the clock and the bursts put it -/
structure At (n : ℕ) (w : Wait) : Prop where
  newtime : w.newtime = (x.clock n).1
  retry_num : w.retry_num = UInt8.ofNat (x.timeouts n)
  data : w.result_ptr.data = x.dataAt n
  flag : w.flag_ok = false
  written : w.written = List.replicate (writes (x.timeouts n)) x.bytes
  timeouts : w.timeouts = x.timeouts n

variable {x}

theorem at_start : x.At 0 x.start := ⟨rfl, rfl, rfl, rfl, by simp [writes, timeouts, clock, start], rfl⟩

theorem timeouts_succ (n : ℕ) :
    x.timeouts (n + 1) = x.timeouts n + if x.timeout.toNat ≤ (x.clock n).1 then 1 else 0 := by
  rw [timeouts, timeouts, clock]
  split_ifs <;> rfl

/-- as long as a wait lasts, it has not run out of retries -/
theorem Lasts.bound {n : ℕ} (h : x.Lasts n) : x.retry = 255 ∨ x.timeouts n ≤ x.retry.toNat := by
  cases n with
  | zero => exact .inr (Nat.zero_le _)
  | succ n => exact (h n (Nat.lt_succ_self n)).1

theorem Lasts.succ {n : ℕ} (h : x.Lasts n) (htime : x.InTime n) (hfits : x.Fits n) (hmatch : ¬ x.Matches n) :
    x.Lasts (n + 1) := by
  intro j hj
  rcases Nat.lt_succ_iff_lt_or_eq.1 hj with hj | rfl
  · exact h j hj
  · exact ⟨htime, hfits, hmatch⟩

theorem Lasts.mono {n m : ℕ} (h : x.Lasts n) (hm : m ≤ n) : x.Lasts m := fun j hj => h j (hj.trans_le hm)

/-- the last time-out -/
theorem last_timeout_iff {n : ℕ} (h : x.retry = 255 ∨ x.timeouts n ≤ x.retry.toNat) :
    (x.timeout.toNat ≤ (x.clock n).1 ∧ x.retry < UInt8.ofNat (x.timeouts n) + 1) ↔ ¬ x.InTime n := by
  have hretry : x.retry = 255 ↔ x.retry.toNat = 255 := by rw [← UInt8.toNat_inj]; rfl
  have hone : (1 : UInt8).toNat = 1 := rfl
  have hbound := x.retry.toNat_lt
  rw [InTime, timeouts_succ, hretry, UInt8.lt_iff_toNat_lt, UInt8.toNat_add, UInt8.toNat_ofNat', hone]
  rw [hretry] at h
  split_ifs with hup
  · rw [and_iff_right hup]
    omega
  · omega

variable {n : ℕ} {w : Wait}

theorem after_long (hw : x.after n = .waiting w) (hfits : ¬ x.Fits n) : x.after (n + 1) = .fault := by
  rw [after, hw]
  dsimp only
  rw [hear_long hfits]

/-- what is polled -/
theorem after_fits (hw : x.after n = .waiting w) (hat : x.At n w) (hfits : x.Fits n) :
    ∃ ring, x.after (n + 1) = x.poll { w with result_ptr := ring, flag_ok := !(x.bursts n).isEmpty } ∧
      ring.data = x.dataAt (n + 1) := by
  obtain ⟨ring, hring, hdata⟩ := @hear_fits w _ hfits
  refine ⟨ring, ?_, ?_⟩
  · rw [after, hw]
    dsimp only
    rw [hring, hat.flag, Bool.false_or]
  · rw [hdata, hat.data, dataAt]

theorem after_last (hw : x.after n = .waiting w) (hat : x.At n w) (hlasts : x.Lasts n) (hfits : x.Fits n)
    (htime : ¬ x.InTime n) : ∃ w', x.after (n + 1) = .returned 0 w' ∧ w'.timeouts = x.timeouts (n + 1) ∧
      w'.written = w.written := by
  obtain ⟨ring, hafter, -⟩ := after_fits hw hat hfits
  obtain ⟨hup, hretry⟩ := (last_timeout_iff hlasts.bound).2 htime
  rw [hafter, poll, timeouts_succ, if_pos hup]
  simp only [hat.newtime, hup, hat.retry_num, hretry, if_true, and_self]
  exact ⟨_, rfl, by rw [hat.timeouts], rfl⟩

theorem after_match (hw : x.after n = .waiting w) (hat : x.At n w) (hlasts : x.Lasts n) (hfits : x.Fits n)
    (htime : x.InTime n) (hmatch : x.Matches n) : ∃ w', x.after (n + 1) = .returned 1 w' ∧ w'.written = w.written := by
  obtain ⟨ring, hafter, hdata⟩ := after_fits hw hat hfits
  have hgo := mt (last_timeout_iff hlasts.bound).1 (not_not.2 htime)
  have hsome : (!(x.bursts n).isEmpty) = true := by simpa using hmatch.1
  rw [hafter, poll]
  by_cases hup : x.timeout.toNat ≤ (x.clock n).1
  · have hretry : ¬ x.retry < UInt8.ofNat (x.timeouts n) + 1 := fun h => hgo ⟨hup, h⟩
    simp only [hat.newtime, hup, hat.retry_num, hretry, if_true, and_false, if_false, hsome, hdata, hmatch.2, and_self]
    exact ⟨_, rfl, rfl⟩
  · simp only [hat.newtime, hup, if_false, false_and, hsome, hdata, hmatch.2, and_self, if_true]
    exact ⟨_, rfl, rfl⟩

/-- a time-out with a retry left writes the command once more, unless `retry_num` comes back to 0 -/
theorem writes_succ (hup : x.timeout.toNat ≤ (x.clock n).1) (htime : x.InTime n) (written : List (List UInt8))
    (h : written = List.replicate (writes (x.timeouts n)) x.bytes) :
    (if 0 < UInt8.ofNat (x.timeouts n) + 1 ∧ (UInt8.ofNat (x.timeouts n) + 1).toNat < x.retry.toNat + 1 then
      written ++ [x.bytes] else written) = List.replicate (writes (x.timeouts (n + 1))) x.bytes := by
  have hsucc := @timeouts_succ x n
  have hretry : x.retry = 255 ↔ x.retry.toNat = 255 := by rw [← UInt8.toNat_inj]; rfl
  have hone : (1 : UInt8).toNat = 1 := rfl
  have hzero : (0 : UInt8).toNat = 0 := rfl
  have hnum : (UInt8.ofNat (x.timeouts n) + 1).toNat = (x.timeouts n + 1) % 256 := by
    rw [UInt8.toNat_add, UInt8.toNat_ofNat', hone]
    omega
  rw [if_pos hup] at hsucc
  rw [InTime, hretry, hsucc] at htime
  have hwrite : (0 < UInt8.ofNat (x.timeouts n) + 1 ∧ (UInt8.ofNat (x.timeouts n) + 1).toNat < x.retry.toNat + 1) ↔
      (x.timeouts n + 1) % 256 ≠ 0 := by
    rw [UInt8.lt_iff_toNat_lt, hnum, hzero]
    omega
  have hsum : writes (x.timeouts n + 1) = writes (x.timeouts n) + if (x.timeouts n + 1) % 256 ≠ 0 then 1 else 0 := by
    unfold writes
    split_ifs <;> omega
  rw [h, hsucc, hsum]
  by_cases hne : (x.timeouts n + 1) % 256 ≠ 0
  · rw [if_pos (hwrite.2 hne), if_pos hne, List.replicate_succ']
  · rw [if_neg (mt hwrite.1 hne), if_neg hne, Nat.add_zero]

/-- an answer that does not match stops the clock for one poll -/
theorem quiet_eq (w : Wait) :
    (if w.flag_ok = true then { w with flag_ok := false } else { w with newtime := w.newtime + 1 }) =
      { w with flag_ok := false, newtime := if w.flag_ok then w.newtime else w.newtime + 1 } := by
  rcases w with ⟨newtime, retry_num, ring, flag, written, timeouts⟩
  cases flag with
  | true => rfl
  | false => rfl

theorem after_on (hw : x.after n = .waiting w) (hat : x.At n w) (hlasts : x.Lasts n) (hfits : x.Fits n)
    (htime : x.InTime n) (hmatch : ¬ x.Matches n) : ∃ w', x.after (n + 1) = .waiting w' ∧ x.At (n + 1) w' := by
  obtain ⟨ring, hafter, hdata⟩ := after_fits hw hat hfits
  have hgo := mt (last_timeout_iff hlasts.bound).1 (not_not.2 htime)
  have hno : ¬ ((!(x.bursts n).isEmpty) = true ∧ x.result <:+: cstr (x.dataAt (n + 1) ++ x.behind)) :=
    fun h => hmatch ⟨by simpa using h.1, h.2⟩
  have hsucc := @timeouts_succ x n
  have hclock : x.clock (n + 1) = if x.timeout.toNat ≤ (x.clock n).1 then (0, (x.clock n).2 + 1)
    else if x.bursts n = [] then ((x.clock n).1 + 1, (x.clock n).2) else x.clock n := rfl
  rw [hafter, poll]
  simp only [quiet_eq]
  by_cases hup : x.timeout.toNat ≤ (x.clock n).1
  · have hretry : ¬ x.retry < UInt8.ofNat (x.timeouts n) + 1 := fun h => hgo ⟨hup, h⟩
    have hwritten := writes_succ hup htime w.written hat.written
    rw [if_pos hup] at hsucc hclock
    simp only [hat.newtime, hup, hat.retry_num, hretry, if_true, and_false, if_false, hdata, hno]
    refine ⟨_, rfl, ?_, ?_, hdata, rfl, hwritten, ?_⟩
    · rw [hclock]
    · rw [hsucc]
      simp
    · rw [hsucc, hat.timeouts]
  · rw [if_neg hup] at hsucc hclock
    simp only [hat.newtime, hup, if_false, false_and, hdata, hno]
    refine ⟨_, rfl, ?_, ?_, hdata, rfl, ?_, ?_⟩
    · rw [hclock]
      by_cases hempty : x.bursts n = []
      · simp [hempty]
      · simp [hempty]
    · rw [hsucc]
      exact hat.retry_num
    · rw [hsucc]
      exact hat.written
    · rw [hsucc]
      exact hat.timeouts

/-! ## The whole wait -/

/-- **Waiting.** As long as a wait lasts, the clock and the bursts say where it is. -/
theorem after_eq {n : ℕ} (h : x.Lasts n) : ∃ w, x.after n = .waiting w ∧ x.At n w := by
  induction n with
  | zero => exact ⟨x.start, rfl, at_start⟩
  | succ n ih =>
    obtain ⟨w, hw, hat⟩ := ih (h.mono (Nat.le_succ n))
    obtain ⟨htime, hfits, hmatch⟩ := h n (Nat.lt_succ_self n)
    exact after_on hw hat (h.mono (Nat.le_succ n)) hfits htime hmatch

/-- what has ended stays as it is -/
theorem after_stays {n m : ℕ} (hm : n ≤ m) (h : ∀ w, x.after n ≠ .waiting w) : x.after m = x.after n := by
  induction m, hm using Nat.le_induction with
  | base => rfl
  | succ m _ ih =>
    cases hn : x.after n with
    | waiting w => exact absurd hn (h w)
    | returned ret w =>
      rw [hn] at ih
      rw [after, ih]
    | fault =>
      rw [hn] at ih
      rw [after, ih]

/-- a wait that still goes on has lasted -/
theorem lasts_of_waiting {n : ℕ} {w : Wait} (h : x.after n = .waiting w) : x.Lasts n := by
  induction n generalizing w with
  | zero => exact fun j hj => absurd hj (Nat.not_lt_zero j)
  | succ n ih =>
    obtain ⟨v, hv⟩ : ∃ v, x.after n = .waiting v := by
      by_contra hno
      have hstays := after_stays (Nat.le_succ n) fun v hv => hno ⟨v, hv⟩
      rw [h] at hstays
      exact hno ⟨w, hstays.symm⟩
    have hlasts := ih hv
    obtain ⟨v', hv', hat⟩ := after_eq hlasts
    rw [hv] at hv'
    cases hv'
    have hfits : x.Fits n := by
      by_contra hlong
      rw [after_long hv hlong] at h
      cases h
    have htime : x.InTime n := by
      by_contra hlate
      obtain ⟨w', hw', -⟩ := after_last hv hat hlasts hfits hlate
      rw [hw'] at h
      cases h
    refine hlasts.succ htime hfits fun hmatch => ?_
    obtain ⟨w', hw', -⟩ := after_match hv hat hlasts hfits htime hmatch
    rw [hw'] at h
    cases h

/-- the time-outs only become more -/
theorem timeouts_mono {n m : ℕ} (h : n ≤ m) : x.timeouts n ≤ x.timeouts m := by
  induction m, h using Nat.le_induction with
  | base => exact le_rfl
  | succ m _ ih =>
    rw [timeouts_succ]
    exact ih.trans (Nat.le_add_right _ _)

theorem bursts_past {n : ℕ} (h : x.polls.length ≤ n) : x.bursts n = [] := by
  rw [bursts, List.getD_eq_getElem?_getD, List.getElem?_eq_none h]
  rfl

/-- once nothing comes any more, the time is up at least at every so many polls -/
theorem timeouts_late (k : ℕ) : k ≤ x.timeouts (x.polls.length + k * (x.timeout.toNat + 1)) := by
  induction k with
  | zero => exact Nat.zero_le _
  | succ k ih =>
    set n := x.polls.length + k * (x.timeout.toNat + 1) with hn
    -- either the time is up at one of the next polls, or the clock has gone on all the time
    have hgo : ∀ i, k + 1 ≤ x.timeouts (n + i) ∨ i ≤ (x.clock (n + i)).1 := by
      intro i
      induction i with
      | zero => exact .inr (Nat.zero_le _)
      | succ i ihi =>
        rcases ihi with hup | hclock
        · exact .inl (hup.trans (timeouts_mono (by omega)))
        · by_cases hup : x.timeout.toNat ≤ (x.clock (n + i)).1
          · refine .inl ?_
            have hmono := @timeouts_mono x n (n + i) (by omega)
            rw [← Nat.add_assoc, timeouts_succ, if_pos hup]
            omega
          · refine .inr ?_
            rw [← Nat.add_assoc, clock, if_neg hup, if_pos (bursts_past (by omega))]
            exact Nat.succ_le_succ hclock
    have hnext : x.polls.length + (k + 1) * (x.timeout.toNat + 1) = n + x.timeout.toNat + 1 := by
      rw [hn, Nat.add_mul, Nat.one_mul]
      omega
    rw [hnext]
    rcases hgo x.timeout.toNat with hup | hclock
    · exact hup.trans (timeouts_mono (Nat.le_succ _))
    · have hmono := @timeouts_mono x n (n + x.timeout.toNat) (by omega)
      rw [timeouts_succ, if_pos hclock]
      omega

/-- the expected string is in a burst before one of the first polls -/
def Answered (x : Exchange) (n : ℕ) : Prop := ∃ j ≤ n, ∃ burst ∈ x.bursts j, x.result <:+: burst

/-- how a wait ends: at the last time-out, or at a match -/
theorem returned_cases {n ret : ℕ} {w : Wait} (h : x.after n = .returned ret w) :
    ∃ m w', x.after m = .waiting w' ∧ x.after (m + 1) = .returned ret w ∧ x.At m w' ∧ x.Lasts m ∧ x.Fits m ∧
      w.written = w'.written ∧
      ((ret = 0 ∧ ¬ x.InTime m ∧ w.timeouts = x.timeouts (m + 1)) ∨ (ret = 1 ∧ x.InTime m ∧ x.Matches m)) := by
  induction n with
  | zero => cases h
  | succ n ih =>
    cases hn : x.after n with
    | returned ret' w' =>
      have hstays := after_stays (Nat.le_succ n) fun v hv => by
        rw [hn] at hv
        cases hv
      exact ih (hstays.symm.trans h)
    | fault =>
      have hstays := after_stays (Nat.le_succ n) fun v hv => by
        rw [hn] at hv
        cases hv
      rw [h, hn] at hstays
      cases hstays
    | waiting w' =>
      have hlasts := lasts_of_waiting hn
      obtain ⟨v, hv, hat⟩ := after_eq hlasts
      rw [hn] at hv
      cases hv
      have hfits : x.Fits n := by
        by_contra hlong
        rw [after_long hn hlong] at h
        cases h
      refine ⟨n, w', hn, h, hat, hlasts, hfits, ?_⟩
      by_cases htime : x.InTime n
      · by_cases hmatch : x.Matches n
        · obtain ⟨v, hv, hwritten⟩ := after_match hn hat hlasts hfits htime hmatch
          rw [h] at hv
          cases hv
          exact ⟨hwritten, .inr ⟨rfl, htime, hmatch⟩⟩
        · obtain ⟨v, hv, -⟩ := after_on hn hat hlasts hfits htime hmatch
          rw [h] at hv
          cases hv
      · obtain ⟨v, hv, htimeouts, hwritten⟩ := after_last hn hat hlasts hfits htime
        rw [h] at hv
        cases hv
        exact ⟨hwritten, .inl ⟨rfl, htime, htimeouts⟩⟩

/-- a wait that ends, writes its command `1 + retry` times at most, returns 1 only after a burst with the expected string,
and 0 only after `1 + retry` time-outs -/
structure Honest (x : Exchange) : Prop where
  ends : ∃ n ret w, x.after n = .returned ret w
  sends : ∀ n w, (x.after n = .waiting w ∨ ∃ ret, x.after n = .returned ret w) →
    ∃ k ≤ 1 + x.retry.toNat, w.written = List.replicate k x.bytes
  one : ∀ n w w', x.after n = .waiting w → x.after (n + 1) = .returned 1 w' → x.Answered n
  zero : ∀ n w, x.after n = .returned 0 w → w.timeouts = 1 + x.retry.toNat

/-- as long as the wait lasts every burst fits, and the expected string is in the buffer only after a burst that has it;
and with 255 retries it gets there, before `retry_num` has come round -/
structure Answerable (x : Exchange) : Prop where
  fits : ∀ n, x.Lasts n → x.Fits n
  whole : ∀ n, x.Lasts n → x.InTime n → x.Matches n → x.Answered n
  answer : x.retry = 255 → ∃ n, x.Lasts n ∧ x.Matches n ∧ x.timeouts n ≤ 256

theorem Honest.answerable (h : x.Honest) : x.Answerable := by
  have hfits : ∀ n, x.Lasts n → x.Fits n := by
    intro n hlasts
    by_contra hlong
    obtain ⟨w, hw, -⟩ := after_eq hlasts
    have hfault := after_long hw hlong
    obtain ⟨m, ret, w', hm⟩ := h.ends
    rcases Nat.lt_or_ge n m with hlt | hle
    · have hstays := after_stays hlt fun v hv => by
        rw [hfault] at hv
        cases hv
      rw [hfault, hm] at hstays
      cases hstays
    · have hstays := after_stays hle fun v hv => by
        rw [hm] at hv
        cases hv
      rw [hm, hw] at hstays
      cases hstays
  refine ⟨hfits, fun n hlasts htime hmatch => ?_, fun hretry => ?_⟩
  · obtain ⟨w, hw, hat⟩ := after_eq hlasts
    obtain ⟨w', hw', -⟩ := after_match hw hat hlasts (hfits n hlasts) htime hmatch
    exact h.one n w w' hw hw'
  · obtain ⟨n, ret, w, hw⟩ := h.ends
    obtain ⟨m, w', -, hend, hat, hlasts, -, hwritten, ⟨-, hlate, -⟩ | ⟨-, -, hmatch⟩⟩ := returned_cases hw
    · exact absurd (.inl hretry) hlate
    · obtain ⟨k, hk, hsent⟩ := h.sends n w (.inr ⟨ret, hw⟩)
      have hcount : writes (x.timeouts m) = k := by
        have hlen := congrArg List.length (hat.written.symm.trans (hwritten.symm.trans hsent))
        rwa [List.length_replicate, List.length_replicate] at hlen
      have h255 : x.retry.toNat = 255 := congrArg UInt8.toNat hretry
      refine ⟨m, hlasts, hmatch, ?_⟩
      unfold writes at hcount
      omega

theorem Answerable.writes_le (h : x.Answerable) {n : ℕ} (hlasts : x.Lasts n) :
    writes (x.timeouts n) ≤ 1 + x.retry.toNat := by
  unfold writes
  by_cases hretry : x.retry = 255
  · obtain ⟨m, -, hmatch, hm⟩ := h.answer hretry
    have hle : n ≤ m := by
      by_contra hlt
      exact (hlasts m (Nat.lt_of_not_le hlt)).2.2 hmatch
    have hmono := @timeouts_mono x _ _ hle
    have h255 : x.retry.toNat = 255 := congrArg UInt8.toNat hretry
    omega
  · have hbound := hlasts.bound.resolve_left hretry
    omega

theorem Answerable.ends (h : x.Answerable) : ∃ n ret w, x.after n = .returned ret w := by
  by_cases hretry : x.retry = 255
  · obtain ⟨m, hlasts, hmatch, -⟩ := h.answer hretry
    obtain ⟨w, hw, hat⟩ := after_eq hlasts
    obtain ⟨w', hw', -⟩ := after_match hw hat hlasts (h.fits m hlasts) (.inl hretry) hmatch
    exact ⟨m + 1, 1, w', hw'⟩
  · by_contra hno
    have hall : ∀ n, x.Lasts n := by
      intro n
      induction n with
      | zero => exact fun j hj => absurd hj (Nat.not_lt_zero j)
      | succ n ih =>
        obtain ⟨w, hw, hat⟩ := after_eq ih
        have htime : x.InTime n := by
          by_contra hlate
          obtain ⟨w', hw', -⟩ := after_last hw hat ih (h.fits n ih) hlate
          exact hno ⟨n + 1, 0, w', hw'⟩
        refine ih.succ htime (h.fits n ih) fun hmatch => ?_
        obtain ⟨w', hw', -⟩ := after_match hw hat ih (h.fits n ih) htime hmatch
        exact hno ⟨n + 1, 1, w', hw'⟩
    have hlate := @timeouts_late x (x.retry.toNat + 1)
    have hbound := (hall (x.polls.length + (x.retry.toNat + 1) * (x.timeout.toNat + 1))).bound.resolve_left hretry
    omega

theorem Answerable.honest (h : x.Answerable) : x.Honest := by
  refine ⟨h.ends, ?_, ?_, ?_⟩
  · rintro n w (hw | ⟨ret, hw⟩)
    · have hlasts := lasts_of_waiting hw
      obtain ⟨v, hv, hat⟩ := after_eq hlasts
      rw [hw] at hv
      cases hv
      exact ⟨_, h.writes_le hlasts, hat.written⟩
    · obtain ⟨m, w', -, -, hat, hlasts, -, hwritten, -⟩ := returned_cases hw
      exact ⟨_, h.writes_le hlasts, hwritten.trans hat.written⟩
  · intro n w w' hw hw'
    have hlasts := lasts_of_waiting hw
    obtain ⟨v, hv, hat⟩ := after_eq hlasts
    rw [hw] at hv
    cases hv
    have hfits := h.fits n hlasts
    by_cases htime : x.InTime n
    · by_cases hmatch : x.Matches n
      · exact h.whole n hlasts htime hmatch
      · obtain ⟨v, hv, -⟩ := after_on hw hat hlasts hfits htime hmatch
        rw [hw'] at hv
        cases hv
    · obtain ⟨v, hv, -⟩ := after_last hw hat hlasts hfits htime
      rw [hw'] at hv
      cases hv
  · intro n w hw
    obtain ⟨m, w', -, -, -, hlasts, -, -, ⟨-, hlate, hcount⟩ | ⟨hone, -⟩⟩ := returned_cases hw
    · rw [InTime, not_or] at hlate
      have hbound := hlasts.bound.resolve_left hlate.1
      have hsucc := @timeouts_succ x m
      split_ifs at hsucc <;> omega
    · cases hone

/-- **The wait.** It is honest exactly if it is answerable. -/
theorem wait_iff (x : Exchange) : x.Honest ↔ x.Answerable := ⟨Honest.answerable, Answerable.honest⟩

/-! ## The outcome -/

/-- the expected string gets into the buffer in time -/
def Gets (x : Exchange) : Prop := ∃ n, x.Lasts n ∧ x.Fits n ∧ x.InTime n ∧ x.Matches n

theorem outcome_ends (hretry : x.retry ≠ 255) (w : Wait) : x.outcome ≠ .waiting w := by
  intro h
  have hlate := @timeouts_late x (x.retry.toNat + 1)
  have hbound := (lasts_of_waiting h).bound.resolve_left hretry
  omega

/-- a wait that has ended ends so -/
theorem outcome_eq (hretry : x.retry ≠ 255) {n : ℕ} (h : ∀ w, x.after n ≠ .waiting w) : x.outcome = x.after n := by
  rcases Nat.le_total n (x.polls.length + (x.retry.toNat + 1) * (x.timeout.toNat + 1)) with hle | hle
  · exact after_stays hle h
  · exact (after_stays hle (outcome_ends hretry)).symm

theorem outcome_fault (hretry : x.retry ≠ 255) {n : ℕ} (hlasts : x.Lasts n) (hlong : ¬ x.Fits n) :
    x.outcome = .fault := by
  obtain ⟨w, hw, -⟩ := after_eq hlasts
  have hfault := after_long hw hlong
  have hsame := outcome_eq hretry fun v hv => by
    rw [hfault] at hv
    cases hv
  rw [hsame, hfault]

/-- a fault is a burst that does not fit -/
theorem fits_of_fault {n : ℕ} (h : x.after n = .fault) : ∃ m, x.Lasts m ∧ ¬ x.Fits m := by
  induction n with
  | zero => cases h
  | succ n ih =>
    by_contra hno
    have hfits : ∀ m, x.Lasts m → x.Fits m := fun m hlasts => by
      by_contra hlong
      exact hno ⟨m, hlasts, hlong⟩
    cases hn : x.after n with
    | fault => exact hno (ih hn)
    | returned ret w =>
      have hstays := after_stays (Nat.le_succ n) fun v hv => by
        rw [hn] at hv
        cases hv
      rw [h, hn] at hstays
      cases hstays
    | waiting w =>
      have hlasts := lasts_of_waiting hn
      obtain ⟨v, hv, hat⟩ := after_eq hlasts
      rw [hn] at hv
      cases hv
      by_cases htime : x.InTime n
      · by_cases hmatch : x.Matches n
        · obtain ⟨v, hv, -⟩ := after_match hn hat hlasts (hfits n hlasts) htime hmatch
          rw [h] at hv
          cases hv
        · obtain ⟨v, hv, -⟩ := after_on hn hat hlasts (hfits n hlasts) htime hmatch
          rw [h] at hv
          cases hv
      · obtain ⟨v, hv, -⟩ := after_last hn hat hlasts (hfits n hlasts) htime
        rw [h] at hv
        cases hv

/-- **Outcomes.** A wait whose bursts fit returns 1 if the expected string gets into the buffer, and 0 if not, and has
written its command `1 + retry` times at most. -/
theorem outcome_spec (hretry : x.retry ≠ 255) (hfits : ∀ n, x.Lasts n → x.Fits n) :
    ∃ ret w k, x.outcome = .returned ret w ∧ w.written = List.replicate (1 + k) x.bytes ∧ k ≤ x.retry.toNat ∧
      (ret = 1 ↔ x.Gets) := by
  cases h : x.outcome with
  | waiting w => exact absurd h (outcome_ends hretry w)
  | fault =>
    obtain ⟨m, hlasts, hlong⟩ := fits_of_fault h
    exact absurd (hfits m hlasts) hlong
  | returned ret w =>
    obtain ⟨m, w', -, hend, hat, hlasts, hfit, hwritten, hkind⟩ := returned_cases h
    have hbound := hlasts.bound.resolve_left hretry
    refine ⟨ret, w, x.timeouts m - x.timeouts m / 256, rfl, hwritten.trans hat.written, by omega, ?_⟩
    constructor
    · rintro rfl
      rcases hkind with ⟨hzero, -⟩ | ⟨-, htime, hmatch⟩
      · cases hzero
      · exact ⟨m, hlasts, hfit, htime, hmatch⟩
    · rintro ⟨n, hn, hfit, htime, hmatch⟩
      obtain ⟨v, hv, hat⟩ := after_eq hn
      obtain ⟨v', hv', -⟩ := after_match hv hat hn hfit htime hmatch
      have hsame := outcome_eq hretry fun u hu => by
        rw [hv'] at hu
        cases hu
      rw [h, hv'] at hsame
      cases hsame
      rfl

/-! ## Two waits -/

/-- `AT` for `OK`, with a time of 100 polls -/
def okExchange (retry : UInt8) (polls : List (List (List UInt8))) : Exchange :=
  ⟨[0x41, 0x54], [0x4F, 0x4B], retry, 100, ringbufInit CMD_BUF_MAX_LEN, [], polls⟩

/-- **Waits that go wrong.** With 255 retries and no answer a wait does not end; and after `AAK` an answer `AO` reads as
`AOK`. -/
theorem wait_wrong : ¬ (okExchange 255 []).Honest ∧
    ¬ (okExchange 0 [[[0x41, 0x41, 0x4B]], [[0x41, 0x4F]]]).Honest := by
  refine ⟨fun h => ?_, fun h => ?_⟩
  · obtain ⟨n, -, hmatch, -⟩ := h.answerable.answer rfl
    exact hmatch.1 rfl
  · have hlasts : (okExchange 0 [[[0x41, 0x41, 0x4B]], [[0x41, 0x4F]]]).Lasts 1 := by
      intro j hj
      obtain rfl := Nat.lt_one_iff.1 hj
      refine ⟨.inr (by decide), ?_, ?_⟩
      · intro burst hburst
        rw [List.mem_singleton.1 hburst]
        decide
      · intro hmatch
        exact absurd hmatch.2 (by decide +kernel)
    obtain ⟨j, hj, burst, hburst, hok⟩ := h.answerable.whole 1 hlasts (.inr (by decide))
      ⟨by decide, by decide +kernel⟩
    rcases Nat.le_one_iff_eq_zero_or_eq_one.1 hj with rfl | rfl
    · rw [List.mem_singleton.1 hburst] at hok
      exact absurd hok (by decide)
    · rw [List.mem_singleton.1 hburst] at hok
      exact absurd hok (by decide)

end Exchange

end DataConcentrator.Modem
