/-
The interrupt that sorts what the modem sends: `USART6_IRQHandler` of `usart6.c`.

- `analysisLoop_finishes`: the loop ends, and writes only inside its buffers, exactly when the walk that the length
  fields lead through the memory ends, and every place of it is sound;
- `not_returns_of_small`: no walk comes back as long as no length field makes the 16-bit position wrap round;
- `analysisLoop_puts`: a run of the loop only puts datagrams into the FIFO;
- `analysisLoop_mono`: more fuel does not matter to a run that ends.
-/
import DataConcentrator.Common.Search
import DataConcentrator.Lib.Walk
import DataConcentrator.Memory.Fifo
import DataConcentrator.Memory.RingBuf

namespace DataConcentrator.Modem

open DataConcentrator.Memory

/-! ## The texts of the modem -/

def NET_BUF_MAX_LEN : ℕ := 4096
def CMD_BUF_MAX_LEN : ℕ := 512

/-- `"\r\n"` -/
def crlf : List UInt8 := [0x0D, 0x0A]

/-- `"+QIURC: "` -/
def qiurc : List UInt8 := [0x2B, 0x51, 0x49, 0x55, 0x52, 0x43, 0x3A, 0x20]

/-- `"\"recv\""` -/
def recv : List UInt8 := [0x22, 0x72, 0x65, 0x63, 0x76, 0x22]

/-- `"\"closed\""` -/
def closed : List UInt8 := [0x22, 0x63, 0x6C, 0x6F, 0x73, 0x65, 0x64, 0x22]

/-- `","` -/
def comma : List UInt8 := [0x2C]

/-! ## State -/

/-- `CONNECT_STATE_E` -/
inductive ConnectState where
  | unknowState | initial | opening | connected | listening | closing | gotIp
deriving DecidableEq, Repr

/-- what the interrupt works on; `behind` is the memory that follows `rx_fifo` -/
structure St where
  ringFifo : RingBuf NET_BUF_MAX_LEN
  ringFifo1 : RingBuf CMD_BUF_MAX_LEN
  behind : List UInt8
  dlBuf : List Block
  rspOk : UInt8
  ec20ConnectState : ConnectState

/-- after `USART6_Init`, at the first start -/
def St.start (behind : List UInt8) : St :=
  ⟨ringbufInit NET_BUF_MAX_LEN, ringbufInit CMD_BUF_MAX_LEN, behind, membInit dl_buf, 0, .unknowState⟩

/-- what the pointer `ring_fifo.data` gives access to -/
def St.memory (s : St) : List UInt8 := s.ringFifo.data ++ s.behind

/-- a write past the end of `temp_buf`, or of `rx_fifo1` -/
inductive Fault where
  | tempBuf | rxFifo1
deriving DecidableEq, Repr

/-! ## What is read at a position -/

/-- the text at `ring_fifo.data + pos` -/
def textAt (memory : List UInt8) (pos : UInt16) : List UInt8 := cstr (memory.drop pos.toNat)

/-- the length field: what `get_str1` copies to `temp_buf`; there is no terminator in it -/
def tempBuf (memory : List UInt8) (pos : UInt16) : List UInt8 := getStr1 (textAt memory pos) comma 2 crlf 2

def recvLen (memory : List UInt8) (pos : UInt16) : UInt16 := UInt16.ofNat (toUnsigned 16 (atoi (tempBuf memory pos)))

def lenLen (memory : List UInt8) (pos : UInt16) : UInt8 := UInt8.ofNat (tempBuf memory pos).length

/-- `len` bytes of the memory -/
def bytesAt (memory : List UInt8) (start len : ℕ) : List UInt8 :=
  (memory.drop start ++ List.replicate len 0).take len

/-- the bytes given to `fifo_put` -/
def datagramAt (memory : List UInt8) (pos : UInt16) : List UInt8 :=
  bytesAt memory (pos.toNat + 21 + (lenLen memory pos).toNat) (recvLen memory pos).toNat

/-- `pos` after `pos += (21 + len_len + recv_len + 2)` -/
def posAfter (memory : List UInt8) (pos : UInt16) : UInt16 :=
  pos + (21 + (lenLen memory pos).toUInt16 + recvLen memory pos + 2)

/-! ## The loop -/

/-- once from `ANALYSIS_LOOP` on; `some pos` for a `goto ANALYSIS_LOOP` -/
def analysis (s : St) (pos : UInt16) : Except Fault (St × Option UInt16) :=
  let memory := s.memory
  if qiurc <:+: textAt memory pos then
    if recv <:+: textAt memory pos then
      if (tempBuf memory pos).length + 1 > 8 then .error .tempBuf
      else
        let s := { s with dlBuf := (fifoPut dl_buf s.dlBuf (datagramAt memory pos)).2 }
        if posAfter memory pos < s.ringFifo.putPtr then .ok (s, some (posAfter memory pos)) else .ok (s, none)
    else if closed <:+: textAt memory 0 then .ok ({ s with ec20ConnectState := .closing }, none)
    else .ok (s, none)
  else
    let s := { s with
      rspOk := 1
      ringFifo1 := { s.ringFifo1 with getPtr := s.ringFifo.getPtr, putPtr := s.ringFifo.putPtr } }
    match s.ringFifo1.copyIn (bytesAt memory 0 (ringbufElements s.ringFifo)) with
    | none => .error .rxFifo1
    | some ringFifo1 => .ok ({ s with ringFifo1 := ringFifo1 }, none)

/-- `ANALYSIS_LOOP` and `GET_OUT`; `none` when `fuel` rounds are not enough -/
def analysisLoop : ℕ → St → UInt16 → Option (Except Fault St)
  | 0, _, _ => none
  | fuel + 1, s, pos =>
    match analysis s pos with
    | .error fault => some (.error fault)
    | .ok (s, none) => some (.ok { s with ringFifo := ringbufClear s.ringFifo })
    | .ok (s, some pos) => analysisLoop fuel s pos

def USART_FLAG_IDLE : UInt16 := 0x0010

/-- `USART6_IRQHandler`, given the status register and the counter of the DMA -/
def usart6IrqHandler (fuel : ℕ) (sr currDataCounter : UInt16) (s : St) : Option (Except Fault St) :=
  if sr &&& 0x0F ≠ 0 then some (.ok s)
  else if sr &&& USART_FLAG_IDLE ≠ 0 then
    let putPtr := UInt16.ofNat NET_BUF_MAX_LEN - currDataCounter
    analysisLoop fuel { s with ringFifo := { s.ringFifo with putPtr := putPtr } } 0
  else some (.ok s)

/-- the DMA has written a burst to the storage of `ring_fifo`, at most to its end -/
def dmaWrite (s : St) (burst : List UInt8) : St :=
  { s with ringFifo := { s.ringFifo with
    data := burst.take NET_BUF_MAX_LEN ++ s.ringFifo.data.drop burst.length
    length_data := by rw [List.length_append, List.length_take, List.length_drop, s.ringFifo.length_data]; omega } }

/-- the state in which the loop starts on a burst -/
def received (s : St) (burst : List UInt8) : St :=
  { dmaWrite s burst with ringFifo := { (dmaWrite s burst).ringFifo with
    putPtr := UInt16.ofNat NET_BUF_MAX_LEN - UInt16.ofNat (NET_BUF_MAX_LEN - burst.length) } }

/-- a burst comes in, and then the line is idle -/
def receive (fuel : ℕ) (s : St) (burst : List UInt8) : Option (Except Fault St) :=
  usart6IrqHandler fuel USART_FLAG_IDLE (UInt16.ofNat (NET_BUF_MAX_LEN - burst.length)) (dmaWrite s burst)

theorem receive_eq (fuel : ℕ) (s : St) (burst : List UInt8) :
    receive fuel s burst = analysisLoop fuel (received s burst) 0 := by
  have herror : ¬ (USART_FLAG_IDLE &&& 0x0F ≠ 0) := by decide
  have hidle : USART_FLAG_IDLE &&& USART_FLAG_IDLE ≠ 0 := by decide
  rw [receive, usart6IrqHandler, if_neg herror, if_pos hidle]
  rfl

theorem putPtr_received (s : St) {burst : List UInt8} (h : burst.length ≤ NET_BUF_MAX_LEN) :
    (received s burst).ringFifo.putPtr.toNat = burst.length := by
  have hmax : NET_BUF_MAX_LEN = 4096 := rfl
  show (UInt16.ofNat NET_BUF_MAX_LEN - UInt16.ofNat (NET_BUF_MAX_LEN - burst.length)).toNat = _
  rw [UInt16.toNat_sub, UInt16.toNat_ofNat', UInt16.toNat_ofNat']
  omega

theorem memory_received (s : St) {burst : List UInt8} (h : burst.length ≤ NET_BUF_MAX_LEN) :
    (received s burst).memory = burst ++ (s.ringFifo.data.drop burst.length ++ s.behind) := by
  show burst.take NET_BUF_MAX_LEN ++ s.ringFifo.data.drop burst.length ++ s.behind = _
  rw [List.take_of_length_le h, List.append_assoc]

/-! ## The kinds of rounds -/

/-- a data notice is seen at a position -/
def IsNotice (memory : List UInt8) (pos : UInt16) : Prop :=
  qiurc <:+: textAt memory pos ∧ recv <:+: textAt memory pos

instance (memory : List UInt8) (pos : UInt16) : Decidable (IsNotice memory pos) := inferInstanceAs (Decidable (_ ∧ _))

/-- nothing unsolicited is seen at a position -/
def IsResponse (memory : List UInt8) (pos : UInt16) : Prop := ¬ qiurc <:+: textAt memory pos

/-- where the loop goes from a position, if it does not end there -/
def next (memory : List UInt8) (putPtr pos : UInt16) : Option UInt16 :=
  if IsNotice memory pos ∧ posAfter memory pos < putPtr then some (posAfter memory pos) else none

theorem length_bytesAt (memory : List UInt8) (start len : ℕ) : (bytesAt memory start len).length = len := by
  rw [bytesAt, List.length_take, List.length_append, List.length_replicate]
  omega

/-- the state after a datagram is put -/
def St.put (s : St) (data_buf : List UInt8) : St :=
  { s with dlBuf := (fifoPut dl_buf s.dlBuf data_buf).2 }

theorem analysis_notice {s : St} {pos : UInt16} (h : IsNotice s.memory pos)
    (hlen : (tempBuf s.memory pos).length ≤ 7) :
    analysis s pos = .ok (s.put (datagramAt s.memory pos), next s.memory s.ringFifo.putPtr pos) := by
  rw [analysis]
  dsimp only
  rw [if_pos h.1, if_pos h.2, if_neg (by omega), next]
  by_cases hpos : posAfter s.memory pos < s.ringFifo.putPtr
  · rw [if_pos hpos, if_pos ⟨h, hpos⟩]
    rfl
  · rw [if_neg hpos, if_neg fun hn => hpos hn.2]
    rfl

theorem analysis_long {s : St} {pos : UInt16} (h : IsNotice s.memory pos)
    (hlen : 7 < (tempBuf s.memory pos).length) : analysis s pos = .error .tempBuf := by
  rw [analysis]
  dsimp only
  rw [if_pos h.1, if_pos h.2, if_pos (by omega)]

/-- a round at an answer: it is copied to `ring_fifo1`, or does not fit -/
theorem analysis_response {s : St} {pos : UInt16} (h : IsResponse s.memory pos) :
    (∃ ringFifo1, analysis s pos = .ok ({ s with rspOk := 1, ringFifo1 := ringFifo1 }, none) ∧
      ringFifo1.getPtr = s.ringFifo.getPtr ∧ ringFifo1.putPtr = s.ringFifo.putPtr ∧
      bytesAt s.memory 0 (ringbufElements s.ringFifo) <+: ringFifo1.data) ∨
    (analysis s pos = .error .rxFifo1 ∧ CMD_BUF_MAX_LEN < ringbufElements s.ringFifo) := by
  rw [analysis]
  dsimp only
  rw [if_neg h, RingBuf.copyIn]
  rcases Nat.lt_or_ge CMD_BUF_MAX_LEN (ringbufElements s.ringFifo) with hlen | hlen
  · rw [dif_neg (by rw [length_bytesAt]; omega)]
    exact Or.inr ⟨rfl, hlen⟩
  · rw [dif_pos (by rw [length_bytesAt]; exact hlen)]
    exact Or.inl ⟨_, rfl, rfl, rfl, List.prefix_append _ _⟩

/-- **The rounds.** What a round does that does not fault. -/
theorem analysis_ok {s t : St} {pos : UInt16} {r : Option UInt16} (h : analysis s pos = .ok (t, r)) :
    (IsNotice s.memory pos ∧ (tempBuf s.memory pos).length ≤ 7 ∧ t = s.put (datagramAt s.memory pos) ∧
        r = next s.memory s.ringFifo.putPtr pos) ∨
      (¬ IsNotice s.memory pos ∧ r = none ∧ t.dlBuf = s.dlBuf ∧ t.ringFifo = s.ringFifo ∧ t.behind = s.behind) := by
  by_cases hnotice : IsNotice s.memory pos
  · refine Or.inl ⟨hnotice, ?_⟩
    rcases Nat.lt_or_ge 7 (tempBuf s.memory pos).length with hlen | hlen
    · rw [analysis_long hnotice hlen] at h
      cases h
    · rw [analysis_notice hnotice hlen] at h
      cases h
      exact ⟨hlen, rfl, rfl⟩
  · refine Or.inr ⟨hnotice, ?_⟩
    rw [analysis] at h
    dsimp only at h
    by_cases hurc : qiurc <:+: textAt s.memory pos
    · rw [if_pos hurc, if_neg fun hrecv => hnotice ⟨hurc, hrecv⟩] at h
      split_ifs at h <;> cases h <;> exact ⟨rfl, rfl, rfl, rfl⟩
    · rw [if_neg hurc] at h
      split at h
      · cases h
      · cases h
        exact ⟨rfl, rfl, rfl, rfl⟩

/-- where a round goes, and what it leaves as it was -/
theorem analysis_frame {s t : St} {pos : UInt16} {r : Option UInt16} (h : analysis s pos = .ok (t, r)) :
    r = next s.memory s.ringFifo.putPtr pos ∧ t.memory = s.memory ∧ t.ringFifo = s.ringFifo := by
  rcases analysis_ok h with ⟨-, -, rfl, hr⟩ | ⟨hnotice, hr, -, hring, hbehind⟩
  · exact ⟨hr, rfl, rfl⟩
  · refine ⟨?_, ?_, hring⟩
    · rw [hr, next, if_neg fun hn => hnotice hn.1]
    · rw [St.memory, St.memory, hring, hbehind]

/-! ## Runs -/

/-- more fuel does not matter to a run that ends -/
theorem analysisLoop_mono {m : ℕ} {s : St} {pos : UInt16} {r : Except Fault St} (h : analysisLoop m s pos = some r) :
    ∀ n, m ≤ n → analysisLoop n s pos = some r := by
  induction m generalizing s pos with
  | zero => cases h
  | succ m ih =>
    intro n hn
    obtain ⟨n, rfl⟩ : ∃ k, n = k + 1 := ⟨n - 1, by omega⟩
    rw [analysisLoop] at h ⊢
    cases hround : analysis s pos with
    | error fault =>
      rw [hround] at h
      exact h
    | ok round =>
      obtain ⟨t, next⟩ := round
      rw [hround] at h
      cases next with
      | none => exact h
      | some pos => exact ih h n (by omega)

/-- a run of the loop puts datagrams into the FIFO, first the one it reads where it starts -/
theorem analysisLoop_puts {fuel : ℕ} {s t : St} {pos : UInt16} (h : analysisLoop fuel s pos = some (.ok t)) :
    ∃ datagrams, t.dlBuf = putAll dl_buf s.dlBuf datagrams ∧
      (IsNotice s.memory pos → (tempBuf s.memory pos).length ≤ 7 ∧
        ∃ rest, datagrams = datagramAt s.memory pos :: rest) := by
  induction fuel generalizing s pos with
  | zero => cases h
  | succ fuel ih =>
    rw [analysisLoop] at h
    cases hround : analysis s pos with
    | error fault =>
      rw [hround] at h
      cases h
    | ok round =>
      obtain ⟨u, r⟩ := round
      rw [hround] at h
      rcases analysis_ok hround with ⟨hnotice, hlen, hu, hr⟩ | ⟨hnotice, hr, hblocks, -⟩
      · cases hnext : r with
        | none =>
          rw [hnext] at h
          cases h
          refine ⟨[datagramAt s.memory pos], ?_, fun _ => ⟨hlen, [], rfl⟩⟩
          rw [hu]
          rfl
        | some pos' =>
          rw [hnext] at h
          obtain ⟨datagrams, hblocks, -⟩ := ih h
          refine ⟨datagramAt s.memory pos :: datagrams, ?_, fun _ => ⟨hlen, datagrams, rfl⟩⟩
          rw [hblocks, hu]
          rfl
      · rw [hr] at h
        cases h
        exact ⟨[], hblocks, fun hn => absurd hn hnotice⟩

/-- one round at a notice with more of the burst behind it -/
theorem analysisLoop_goto {s : St} {pos pos' : UInt16} (h : IsNotice s.memory pos)
    (hlen : (tempBuf s.memory pos).length ≤ 7) (hnext : next s.memory s.ringFifo.putPtr pos = some pos') (fuel : ℕ) :
    analysisLoop (fuel + 1) s pos = analysisLoop fuel (s.put (datagramAt s.memory pos)) pos' := by
  rw [analysisLoop, analysis_notice h hlen, hnext]

/-- the last round, at a notice -/
theorem analysisLoop_getOut {s : St} {pos : UInt16} (h : IsNotice s.memory pos)
    (hlen : (tempBuf s.memory pos).length ≤ 7) (hnext : next s.memory s.ringFifo.putPtr pos = none) (fuel : ℕ) :
    analysisLoop (fuel + 1) s pos =
      some (.ok { s.put (datagramAt s.memory pos) with ringFifo := ringbufClear s.ringFifo }) := by
  rw [analysisLoop, analysis_notice h hlen, hnext]
  rfl

/-! ## When the loop ends -/

instance finiteUInt16 : Finite UInt16 := Finite.of_injective UInt16.toFin fun _ _ h => UInt16.toFin_inj.1 h

/-- what the loop does at a position stays inside its buffers -/
def SoundAt (memory : List UInt8) (ringFifo : RingBuf NET_BUF_MAX_LEN) (pos : UInt16) : Prop :=
  (IsNotice memory pos → (tempBuf memory pos).length ≤ 7) ∧
    (IsResponse memory pos → ringbufElements ringFifo ≤ CMD_BUF_MAX_LEN)

theorem analysis_isOk_iff (s : St) (pos : UInt16) :
    (∃ t, analysis s pos = .ok (t, next s.memory s.ringFifo.putPtr pos)) ↔ SoundAt s.memory s.ringFifo pos := by
  constructor
  · intro h
    obtain ⟨t, ht⟩ := h
    refine ⟨fun hnotice => ?_, fun hresponse => ?_⟩
    · by_contra hlen
      rw [analysis_long hnotice (by omega)] at ht
      cases ht
    · by_contra hlen
      rw [analysis] at ht
      dsimp only at ht
      rw [if_neg hresponse, RingBuf.copyIn, dif_neg (by rw [length_bytesAt]; exact hlen)] at ht
      cases ht
  · intro h
    by_cases hnotice : IsNotice s.memory pos
    · exact ⟨_, analysis_notice hnotice (h.1 hnotice)⟩
    · rw [next, if_neg fun hn => hnotice hn.1, analysis]
      dsimp only
      by_cases hurc : qiurc <:+: textAt s.memory pos
      · rw [if_pos hurc, if_neg fun hrecv => hnotice ⟨hurc, hrecv⟩]
        split_ifs
        · exact ⟨_, rfl⟩
        · exact ⟨_, rfl⟩
      · rw [if_neg hurc, RingBuf.copyIn, dif_pos (by rw [length_bytesAt]; exact h.2 hurc)]
        exact ⟨_, rfl⟩

/-- **When the loop ends**: the walk that the length fields lead through the memory ends, and no place of it makes the
loop write past its buffers. -/
theorem analysisLoop_finishes (s : St) (pos : UInt16) :
    (∃ fuel t, analysisLoop fuel s pos = some (.ok t)) ↔
      Walk.Finishes (next s.memory s.ringFifo.putPtr) (SoundAt s.memory s.ringFifo) pos := by
  constructor
  · intro h
    obtain ⟨fuel, t, h⟩ := h
    induction fuel generalizing s pos with
    | zero => cases h
    | succ fuel ih =>
      rw [analysisLoop] at h
      cases hround : analysis s pos with
      | error fault =>
        rw [hround] at h
        cases h
      | ok round =>
        obtain ⟨u, r⟩ := round
        obtain ⟨rfl, hmemory, hring⟩ := analysis_frame hround
        rw [hround] at h
        refine ⟨(analysis_isOk_iff s pos).1 ⟨u, hround⟩, fun pos' hpos => ?_⟩
        rw [hpos] at h
        have hrest := ih u pos' h
        rwa [hmemory, hring] at hrest
  · -- the memory stays as it is over the run, only the FIFO changes
    have key : ∀ memory ringFifo pos, Walk.Finishes (next memory ringFifo.putPtr) (SoundAt memory ringFifo) pos →
        ∀ s : St, s.memory = memory → s.ringFifo = ringFifo →
          ∃ fuel t, analysisLoop fuel s pos = some (.ok t) := by
      intro memory ringFifo pos h
      induction h with
      | @mk pos here there ih =>
        intro s hmemory hring
        subst hmemory hring
        obtain ⟨u, hround⟩ := (analysis_isOk_iff s pos).2 here
        obtain ⟨-, hmemory, hring⟩ := analysis_frame hround
        cases hnext : next s.memory s.ringFifo.putPtr pos with
        | none =>
          refine ⟨1, { u with ringFifo := ringbufClear u.ringFifo }, ?_⟩
          rw [analysisLoop, hround, hnext]
        | some pos' =>
          obtain ⟨fuel, t, hrun⟩ := ih pos' hnext u hmemory hring
          refine ⟨fuel + 1, t, ?_⟩
          rw [analysisLoop, hround, hnext]
          exact hrun
    exact fun h => key s.memory s.ringFifo pos h s rfl rfl

/-- no length field makes the position wrap round: the walk only goes up -/
theorem not_returns_of_small (memory : List UInt8) (putPtr pos : UInt16)
    (h : ∀ q, Walk.Reach (next memory putPtr) pos q → IsNotice memory q →
      q.toNat + 21 + (lenLen memory q).toNat + (recvLen memory q).toNat + 2 < 65536) :
    ∀ q, Walk.Reach (next memory putPtr) pos q → ¬ Walk.Returns (next memory putPtr) q := by
  refine Walk.not_returns_of_lt UInt16.toNat fun q q' hq hnext => ?_
  rw [next] at hnext
  split_ifs at hnext with hcond
  cases hnext
  have hsmall := h q hq hcond.1
  have hlen := (lenLen memory q).toNat_lt
  have hafter : (posAfter memory q).toNat = q.toNat + (21 + (lenLen memory q).toNat + (recvLen memory q).toNat + 2) := by
    rw [posAfter]
    simp only [UInt16.toNat_add, UInt8.toNat_toUInt16, UInt16.reduceToNat]
    omega
  rw [hafter]
  omega

end DataConcentrator.Modem
