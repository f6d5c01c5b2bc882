/-
Reassembly of server frames, `RecvNetFrameAndPushToRxQueue`.

Allocations and queue sends succeed; a chunk that would run past `recv_buf` is `none`.
- `poll_refines`: one call takes the complete frames off the unconsumed bytes, as `cutter` does, and keeps the rest;
- `run_refines`: so the state after any calls is the one `Reassembly.Cutter.feed` computes from the chunks;
- `received_eq`: a stream of escaped frames is received as those frames, however it is cut into chunks.
-/
import DataConcentrator.Lib.Reassembly
import DataConcentrator.Common.Text
import DataConcentrator.Protocol.Escape
import DataConcentrator.Protocol.ServerFrame

namespace DataConcentrator.Protocol

/-! ## The code -/

def NET_RX_FRAME_MAX_LEN : ℕ := 4096

/-- the static variables of `RecvNetFrameAndPushToRxQueue` and `xQueue_ServerFrameRx` -/
structure Recv where
  time_r : ℕ
  recv_pos : ℕ
  recv_len : ℕ
  frame_len : ℕ
  recv_buf : ℕ → UInt8
  queue : List ServerFrame

/-- start-up -/
def Recv.init : Recv := ⟨0, 0, 0, 0, fun _ => 0, []⟩

/-- one call: what `fifo_get` hands over, and the two readings of `GetSysTick1s` -/
structure Poll where
  data : List UInt8
  tick : ℕ
  tickEnd : ℕ

/-- from the label `ANALYSIS_LOOP` on -/
def analysisLoop (mode : ConnectionMode) : ℕ → Recv → Option Recv
  | 0, _ => none
  | fuel + 1, st =>
    let pending := ByteStore.read st.recv_buf 0 st.recv_len
    let head_pos := myStrstr pending [0x02] st.recv_len 1
    let tail_pos := myStrstr pending [0x03] st.recv_len 1
    if head_pos ≠ 0xFFFF ∧ tail_pos ≠ 0xFFFF ∧ tail_pos > head_pos then
      let frame_len := tail_pos + 1 - head_pos
      let rx_frame := frameOf mode (escapeSymbolDelete (ByteStore.read st.recv_buf head_pos frame_len))
      let st := { st with frame_len := frame_len, queue := st.queue ++ [rx_frame] }
      if st.recv_len > frame_len then
        let recv_len := st.recv_len - tail_pos - 1
        analysisLoop mode fuel { st with
          recv_len := recv_len
          recv_pos := recv_len
          recv_buf := ByteStore.write st.recv_buf 0 (ByteStore.read st.recv_buf (tail_pos + 1) recv_len) }
      else some { st with recv_pos := 0, recv_len := 0, frame_len := 0 }
    else some st

/-- `RecvNetFrameAndPushToRxQueue`; each round of the loop drops at least a byte -/
def recvNetFrameAndPushToRxQueue (mode : ConnectionMode) (st : Recv) (p : Poll) : Option Recv :=
  if st.recv_pos + p.data.length ≤ NET_RX_FRAME_MAX_LEN then
    let st := { st with
      recv_buf := ByteStore.write st.recv_buf st.recv_pos p.data
      recv_len := p.data.length }
    let analysed :=
      if st.recv_len ≠ 0 then
        let recv_pos := st.recv_pos + st.recv_len
        analysisLoop mode (recv_pos + 1) { st with time_r := p.tick, recv_pos := recv_pos, recv_len := recv_pos }
      else some st
    analysed.map fun st =>
      if (st.recv_pos ≠ 0 ∨ st.recv_len ≠ 0) ∧ p.tickEnd - st.time_r ≥ 3 then
        { st with recv_pos := 0, recv_len := 0, frame_len := 0 }
      else st
  else none

def run (mode : ConnectionMode) (st : Recv) (polls : List Poll) : Option Recv :=
  polls.foldlM (recvNetFrameAndPushToRxQueue mode) st

/-! ## The cutter -/

/-- the bytes from the first start mark to the first end mark, unescaped, and what follows them -/
def cutFrame (buf : List UInt8) : Option (List UInt8 × List UInt8) :=
  if 0x02 ∈ buf ∧ 0x03 ∈ buf ∧ buf.idxOf 0x02 < buf.idxOf 0x03 then
    some (escapeSymbolDelete ((buf.drop (buf.idxOf 0x02)).take (buf.idxOf 0x03 + 1 - buf.idxOf 0x02)),
      buf.drop (buf.idxOf 0x03 + 1))
  else none

def cutter : Reassembly.Cutter UInt8 (List UInt8) where
  cut := cutFrame
  shorter := by
    intro xs b rest h
    unfold cutFrame at h
    split_ifs at h with hc
    obtain ⟨-, rfl⟩ := Prod.mk.inj (Option.some.inj h)
    have := List.idxOf_lt_length_of_mem hc.2.1
    rw [List.length_drop]
    omega
  stable := by
    intro xs ys b rest h
    unfold cutFrame at h ⊢
    split_ifs at h with hc
    obtain ⟨rfl, rfl⟩ := Prod.mk.inj (Option.some.inj h)
    obtain ⟨h2, h3, hlt⟩ := hc
    have htail := List.idxOf_lt_length_of_mem h3
    have hi2 : (xs ++ ys).idxOf 0x02 = xs.idxOf 0x02 := List.idxOf_append_of_mem h2
    have hi3 : (xs ++ ys).idxOf 0x03 = xs.idxOf 0x03 := List.idxOf_append_of_mem h3
    rw [hi2, hi3, if_pos ⟨List.mem_append_left _ h2, List.mem_append_left _ h3, hlt⟩,
      List.drop_append_of_le_length (by omega), List.drop_append_of_le_length (by omega),
      List.take_append_of_le_length (by rw [List.length_drop]; omega)]

/-- a frame with its marks -/
def IsFrame (f : List UInt8) : Prop := ∃ interior, f = frame interior

/-- the escaped form of a frame -/
def image (f : List UInt8) : List UInt8 := escaped ((f.drop 1).dropLast)

theorem image_frame (interior : List UInt8) : image (frame interior) = escaped interior := by
  rw [image, drop_frame]

/-- **The cutter undoes the escape layer**, and finds no frame before its last byte -/
theorem cutter_encodes : cutter.Encodes IsFrame image where
  whole := by
    rintro _ rest ⟨interior, rfl⟩
    obtain ⟨h2, h3⟩ := not_mem_escape interior
    have hbody : escaped interior ++ rest = 0x02 :: (interior.flatMap escape ++ 0x03 :: rest) := by simp [escaped]
    have hlen : (escaped interior).length = (interior.flatMap escape).length + 2 := by simp [escaped]
    have hi2 : (escaped interior ++ rest).idxOf 0x02 = 0 := by rw [hbody, List.idxOf_cons_self]
    have hi3 : (escaped interior ++ rest).idxOf 0x03 = (interior.flatMap escape).length + 1 := by
      rw [hbody, List.idxOf_cons_ne _ (by decide), List.idxOf_append_of_notMem h3, List.idxOf_cons_self]
    show cutFrame (image (frame interior) ++ rest) = _
    rw [image_frame, cutFrame, hi2, hi3, if_pos ⟨by rw [hbody]; simp, by rw [hbody]; simp, by omega⟩, List.drop_zero,
      Nat.sub_zero, show (interior.flatMap escape).length + 1 + 1 = (escaped interior).length by omega, List.take_left,
      List.drop_left, escapeSymbolDelete_escaped]
  part := by
    rintro _ xs ys ⟨interior, rfl⟩ henc hne
    rw [image_frame] at henc
    obtain ⟨h2, h3⟩ := not_mem_escape interior
    have hdrop : xs ++ ys.dropLast = 0x02 :: interior.flatMap escape := by
      rw [← List.dropLast_append_of_ne_nil hne, ← henc, escaped, List.dropLast_concat]
    have hmem : 0x03 ∉ xs := by
      intro hx
      have : (0x03 : UInt8) ∈ 0x02 :: interior.flatMap escape := hdrop ▸ List.mem_append_left _ hx
      rcases List.mem_cons.1 this with h | h
      · exact absurd h (by decide)
      · exact h3 h
    show cutFrame xs = none
    rw [cutFrame, if_neg fun h => hmem h.2.1]

/-! ## The code refines the cutter -/

/-- the unconsumed bytes are the first `recv_pos` of `recv_buf` -/
structure Pending (st : Recv) (pend : List UInt8) : Prop where
  pos : st.recv_pos = pend.length
  buf : ByteStore.read st.recv_buf 0 pend.length = pend

/-- what the analysis of the unconsumed bytes `pend` makes of `st` -/
structure Analysed (mode : ConnectionMode) (st : Recv) (pend : List UInt8) (st' : Recv) : Prop where
  pending : Pending st' (cutter.drain pend).2
  len : st'.recv_len = st'.recv_pos
  queue : st'.queue = st.queue ++ (cutter.drain pend).1.map (frameOf mode)
  time : st'.time_r = st.time_r

theorem myStrstr_found (b : UInt8) (bs : List UInt8) (h : bs.length ≤ NET_RX_FRAME_MAX_LEN) :
    myStrstr bs [b] bs.length 1 ≠ 0xFFFF ↔ b ∈ bs := by
  rw [myStrstr_byte]
  unfold NET_RX_FRAME_MAX_LEN at h
  split_ifs with hb
  · have := List.idxOf_lt_length_of_mem hb
    exact ⟨fun _ => hb, fun _ => by omega⟩
  · exact ⟨fun h => absurd rfl h, fun h => absurd h hb⟩

/-- the frame that the two searches find, and the bytes after it -/
theorem cut_found {st : Recv} {pend : List UInt8} (hp : Pending st pend) (h2 : 0x02 ∈ pend) (h3 : 0x03 ∈ pend)
    (hlt : pend.idxOf 0x02 < pend.idxOf 0x03) : cutter.cut pend = some (escapeSymbolDelete
      (ByteStore.read st.recv_buf (pend.idxOf 0x02) (pend.idxOf 0x03 + 1 - pend.idxOf 0x02)),
        pend.drop (pend.idxOf 0x03 + 1)) := by
  have htail := List.idxOf_lt_length_of_mem h3
  have hslice := ByteStore.read_slice st.recv_buf 0 (n := pend.length) (i := pend.idxOf 0x02)
    (k := pend.idxOf 0x03 + 1 - pend.idxOf 0x02) (by omega)
  rw [hp.buf, Nat.zero_add] at hslice
  show cutFrame pend = _
  rw [cutFrame, if_pos ⟨h2, h3, hlt⟩, hslice]

/-- the bytes that are moved to the front -/
theorem read_rest {st : Recv} {pend : List UInt8} (hp : Pending st pend) {n : ℕ} (hn : n < pend.length) :
    ByteStore.read st.recv_buf (n + 1) (pend.length - n - 1) = pend.drop (n + 1) := by
  have hslice := ByteStore.read_slice st.recv_buf 0 (n := pend.length) (i := n + 1) (k := pend.length - n - 1) (by omega)
  rw [hp.buf, Nat.zero_add, List.take_of_length_le (by rw [List.length_drop]; omega)] at hslice
  exact hslice.symm

/-- the condition of the loop is that of the cutter -/
theorem searches_iff {pend : List UInt8} (hmax : pend.length ≤ NET_RX_FRAME_MAX_LEN) :
    (myStrstr pend [0x02] pend.length 1 ≠ 0xFFFF ∧ myStrstr pend [0x03] pend.length 1 ≠ 0xFFFF ∧
      myStrstr pend [0x03] pend.length 1 > myStrstr pend [0x02] pend.length 1) ↔
        (0x02 ∈ pend ∧ 0x03 ∈ pend ∧ pend.idxOf 0x02 < pend.idxOf 0x03) := by
  rw [myStrstr_found _ _ hmax, myStrstr_found _ _ hmax]
  refine and_congr_right fun h2 => and_congr_right fun h3 => ?_
  rw [myStrstr_byte, myStrstr_byte, if_pos h2, if_pos h3]

/-- **The loop drains the buffer.** -/
theorem analysisLoop_drain (mode : ConnectionMode) (fuel : ℕ) : ∀ (st : Recv) (pend : List UInt8), Pending st pend →
    st.recv_len = pend.length → pend.length ≤ NET_RX_FRAME_MAX_LEN → pend.length < fuel →
      ∃ st', analysisLoop mode fuel st = some st' ∧ Analysed mode st pend st' := by
  induction fuel with
  | zero =>
    intro _ pend _ _ _ h
    exact absurd h (Nat.not_lt_zero _)
  | succ fuel ih =>
    intro st pend hp hlen hmax hfuel
    rw [analysisLoop, hlen, hp.buf]
    simp only [searches_iff hmax]
    split_ifs with hc hgt
    · -- a frame, and bytes after it
      obtain ⟨h2, h3, hlt⟩ := hc
      have hcut := cut_found hp h2 h3 hlt
      have htail := List.idxOf_lt_length_of_mem h3
      rw [myStrstr_byte, myStrstr_byte, if_pos h2, if_pos h3] at hgt ⊢
      rw [read_rest hp htail]
      set head := pend.idxOf 0x02
      set tail := pend.idxOf 0x03
      have hrest : (pend.drop (tail + 1)).length = pend.length - tail - 1 := by rw [List.length_drop]; omega
      have hbuf := ByteStore.read_write_same st.recv_buf 0 (pend.drop (tail + 1))
      obtain ⟨st', hrun, hst'⟩ := ih { st with
        frame_len := tail + 1 - head
        queue := st.queue ++ [frameOf mode (escapeSymbolDelete (ByteStore.read st.recv_buf head (tail + 1 - head)))]
        recv_len := pend.length - tail - 1
        recv_pos := pend.length - tail - 1
        recv_buf := ByteStore.write st.recv_buf 0 (pend.drop (tail + 1)) } (pend.drop (tail + 1)) ⟨hrest.symm, hbuf⟩
        hrest.symm (by omega) (by omega)
      refine ⟨st', hrun, ?_, hst'.len, ?_, hst'.time⟩
      · rw [cutter.drain_some hcut]
        exact hst'.pending
      · rw [cutter.drain_some hcut, hst'.queue]
        simp
    · -- the frame ends the buffer
      obtain ⟨h2, h3, hlt⟩ := hc
      have hcut := cut_found hp h2 h3 hlt
      rw [myStrstr_byte, myStrstr_byte, if_pos h2, if_pos h3] at hgt ⊢
      rw [List.drop_of_length_le (by omega)] at hcut
      refine ⟨_, rfl, ?_, rfl, ?_, rfl⟩
      · rw [cutter.drain_some hcut]
        exact ⟨rfl, rfl⟩
      · rw [cutter.drain_some hcut]
        simp [cutter.drain_nil]
    · -- no frame
      have hcut : cutter.cut pend = none := by
        show cutFrame pend = none
        rw [cutFrame, if_neg hc]
      refine ⟨st, rfl, ?_, by rw [hlen, hp.pos], ?_, rfl⟩
      · rw [cutter.drain_none hcut]
        exact hp
      · rw [cutter.drain_none hcut]
        simp

/-- the time of the last chunk after one more poll -/
def lastArrival (t : ℕ) (p : Poll) : ℕ := if p.data = [] then t else p.tick

/-- a chunk that finds no room -/
theorem poll_overrun (mode : ConnectionMode) {st : Recv} {pend : List UInt8} (p : Poll) (hp : Pending st pend)
    (hroom : ¬ pend.length + p.data.length ≤ NET_RX_FRAME_MAX_LEN) : recvNetFrameAndPushToRxQueue mode st p = none := by
  rw [recvNetFrameAndPushToRxQueue, hp.pos, if_neg hroom]

/-- **One call** appends its chunk to the unconsumed bytes and drains them; what is left is dropped when the last chunk
came 3 s ago. -/
theorem poll_spec (mode : ConnectionMode) {st : Recv} {pend : List UInt8} (p : Poll) (hp : Pending st pend)
    (hcut : cutter.cut pend = none) (hroom : pend.length + p.data.length ≤ NET_RX_FRAME_MAX_LEN) :
    ∃ st', recvNetFrameAndPushToRxQueue mode st p = some st' ∧
      Pending st' (if (cutter.drain (pend ++ p.data)).2 ≠ [] ∧ p.tickEnd - lastArrival st.time_r p ≥ 3 then []
        else (cutter.drain (pend ++ p.data)).2) ∧
      st'.queue = st.queue ++ (cutter.drain (pend ++ p.data)).1.map (frameOf mode) ∧
      st'.time_r = lastArrival st.time_r p := by
  rw [recvNetFrameAndPushToRxQueue, hp.pos, if_pos hroom]
  by_cases hd : p.data = []
  · have hlen : p.data.length = 0 := by rw [hd]; rfl
    simp only [hlen, ne_eq, not_true, if_false, Option.map_some, or_false]
    rw [hd, List.append_nil, cutter.drain_none hcut, lastArrival, if_pos hd]
    have hempty : pend.length ≠ 0 ↔ pend ≠ [] := by rw [ne_eq, List.length_eq_zero_iff]
    by_cases hlate : pend.length ≠ 0 ∧ p.tickEnd - st.time_r ≥ 3
    · rw [if_pos hlate, if_pos ⟨hempty.1 hlate.1, hlate.2⟩]
      exact ⟨_, rfl, ⟨rfl, rfl⟩, by simp, rfl⟩
    · rw [if_neg hlate, if_neg fun h => hlate ⟨hempty.2 h.1, h.2⟩]
      exact ⟨_, rfl, ⟨rfl, by simpa using hp.buf⟩, by simp, rfl⟩
  · have hlen : p.data.length ≠ 0 := by simpa using hd
    rw [lastArrival, if_neg hd]
    have hbuf : ByteStore.read (ByteStore.write st.recv_buf pend.length p.data) 0 (pend ++ p.data).length =
        pend ++ p.data := by
      rw [List.length_append, ByteStore.read_add, ByteStore.read_write_frame _ _ _ _ _ (Or.inr (by omega)), hp.buf,
        Nat.zero_add, ByteStore.read_write_same]
    obtain ⟨st', hrun, hst'⟩ := analysisLoop_drain mode (pend.length + p.data.length + 1)
      { st with
        time_r := p.tick
        recv_buf := ByteStore.write st.recv_buf pend.length p.data
        recv_pos := pend.length + p.data.length
        recv_len := pend.length + p.data.length } (pend ++ p.data)
      ⟨by simp, hbuf⟩ (by simp) (by simpa using hroom) (by simp)
    simp only [hlen, ne_eq, not_false_eq_true, if_true, hrun, Option.map_some]
    have htime : st'.time_r = p.tick := hst'.time
    have hempty : (st'.recv_pos ≠ 0 ∨ st'.recv_len ≠ 0) ↔ (cutter.drain (pend ++ p.data)).2 ≠ [] := by
      rw [hst'.len, or_self, hst'.pending.pos, ne_eq, List.length_eq_zero_iff]
    by_cases hlate : (st'.recv_pos ≠ 0 ∨ st'.recv_len ≠ 0) ∧ p.tickEnd - st'.time_r ≥ 3
    · rw [if_pos hlate, if_pos ⟨hempty.1 hlate.1, htime ▸ hlate.2⟩]
      exact ⟨_, rfl, ⟨rfl, rfl⟩, hst'.queue, htime⟩
    · rw [if_neg hlate, if_neg fun h => hlate ⟨hempty.2 h.1, htime ▸ h.2⟩]
      exact ⟨_, rfl, hst'.pending, hst'.queue, htime⟩

/-- one call in time leaves everything that is not a frame yet -/
theorem poll_refines (mode : ConnectionMode) {st : Recv} {pend : List UInt8} (p : Poll) (hp : Pending st pend)
    (hcut : cutter.cut pend = none) (hroom : pend.length + p.data.length ≤ NET_RX_FRAME_MAX_LEN)
    (htime : (cutter.drain (pend ++ p.data)).2 ≠ [] → p.tickEnd < lastArrival st.time_r p + 3) :
    ∃ st', recvNetFrameAndPushToRxQueue mode st p = some st' ∧ Pending st' (cutter.drain (pend ++ p.data)).2 ∧
      st'.queue = st.queue ++ (cutter.drain (pend ++ p.data)).1.map (frameOf mode) ∧
      st'.time_r = lastArrival st.time_r p := by
  have hspec := poll_spec mode p hp hcut hroom
  rwa [if_neg] at hspec
  rintro ⟨hne, hlate⟩
  have := htime hne
  omega

/-! ## Runs -/

def chunks (polls : List Poll) : List (List UInt8) := polls.map Poll.data

/-- the time of the last chunk of a run -/
def lastTick (polls : List Poll) : ℕ := polls.foldl lastArrival 0

theorem run_snoc (mode : ConnectionMode) (st : Recv) (polls : List Poll) (p : Poll) :
    run mode st (polls ++ [p]) = (run mode st polls).bind fun st => recvNetFrameAndPushToRxQueue mode st p := by
  simp [run, List.foldlM_append]

theorem chunks_snoc (polls : List Poll) (p : Poll) : chunks (polls ++ [p]) = chunks polls ++ [p.data] := by
  simp [chunks]

/-- **Refinement.** Calls that find room for their chunk, and come within 3 s of the last one while bytes are waiting,
leave the frames that `feed` cuts off the chunks in the queue. -/
theorem run_refines (mode : ConnectionMode) (polls : List Poll)
    (hroom : ∀ pre p post, polls = pre ++ p :: post →
      (cutter.feed (chunks pre)).2.length + p.data.length ≤ NET_RX_FRAME_MAX_LEN)
    (htime : ∀ pre p post, polls = pre ++ p :: post →
      (cutter.feed (chunks (pre ++ [p]))).2 ≠ [] → p.tickEnd < lastTick (pre ++ [p]) + 3) :
    ∃ st, run mode .init polls = some st ∧ Pending st (cutter.feed (chunks polls)).2 ∧
      st.queue = (cutter.feed (chunks polls)).1.map (frameOf mode) ∧ st.time_r = lastTick polls := by
  induction polls using List.reverseRecOn with
  | nil => exact ⟨.init, rfl, ⟨rfl, rfl⟩, rfl, rfl⟩
  | append_singleton polls p ih =>
    obtain ⟨st, hrun, hpend, hqueue, htick⟩ := ih
      (fun pre q post h => hroom pre q (post ++ [p]) (by rw [h]; simp))
      (fun pre q post h => htime pre q (post ++ [p]) (by rw [h]; simp))
    have hcut : cutter.cut (cutter.feed (chunks polls)).2 = none := by
      rw [cutter.feed_eq_drain]
      exact cutter.cut_leftover _
    have hlast : lastTick (polls ++ [p]) = lastArrival st.time_r p := by
      rw [lastTick, List.foldl_append, htick]
      rfl
    have hfeed : cutter.feed (chunks (polls ++ [p])) = cutter.feedStep (cutter.feed (chunks polls)) p.data := by
      rw [chunks_snoc, cutter.feed_snoc]
    have hnow := htime polls p [] (by simp)
    rw [hfeed, hlast] at hnow
    obtain ⟨st', hstep, hpend', hqueue', htick'⟩ := poll_refines mode p hpend hcut (hroom polls p [] (by simp)) hnow
    refine ⟨st', ?_, ?_, ?_, ?_⟩
    · rw [run_snoc, hrun]
      exact hstep
    · rw [hfeed]
      exact hpend'
    · rw [hqueue', hqueue, hfeed, Reassembly.Cutter.feedStep, List.map_append]
    · rw [htick', hlast]

/-! ## Main result -/

/-- the bytes after the last whole frame when the chunks of `polls` have arrived -/
def waiting (fs : List (List UInt8)) (polls : List Poll) : ℕ :=
  Reassembly.unconsumed (fs.map image) (chunks polls).flatten.length

/-- the calls deliver the escaped frames `fs` in stream order: unconsumed bytes never pass the buffer, and while some
are waiting the calls stay within 3 s of the last chunk -/
structure Delivers (fs : List (List UInt8)) (polls : List Poll) : Prop where
  frames : ∀ f ∈ fs, IsFrame f
  stream : (chunks polls).flatten = fs.flatMap image
  room : ∀ pre p post, polls = pre ++ p :: post → waiting fs pre + p.data.length ≤ NET_RX_FRAME_MAX_LEN
  timely : ∀ pre p post, polls = pre ++ p :: post → waiting fs (pre ++ [p]) ≠ 0 → p.tickEnd < lastTick (pre ++ [p]) + 3

theorem waiting_eq {fs : List (List UInt8)} {polls : List Poll} (h : Delivers fs polls) (pre post : List Poll)
    (hp : polls = pre ++ post) : waiting fs pre = (cutter.feed (chunks pre)).2.length := by
  rw [waiting, cutter.feed_eq_drain]
  refine Reassembly.unconsumed_eq cutter cutter_encodes fs h.frames _ (chunks post).flatten ?_
  rw [← h.stream, hp]
  simp [chunks]

/-- the escaped frames of a delivery fit the buffer, so `EscapeSymbolAdd` writes them as they are -/
theorem escapeSymbolAdd_of_delivers {fs : List (List UInt8)} {polls : List Poll} (h : Delivers fs polls)
    (outbuf : ℕ → UInt8) : ∀ f ∈ fs, escapeSymbolAdd outbuf f = image f := by
  intro f hf
  have hcap : ∀ img ∈ fs.map image, img.length ≤ NET_RX_FRAME_MAX_LEN := by
    refine Reassembly.length_le_of_room (fs.map image) (chunks polls) _ (by rw [h.stream]; rfl) ?_
    intro pre c post hsplit
    obtain ⟨pre', tail, rfl, hpre, htail⟩ := List.map_eq_append_iff.1 hsplit
    obtain ⟨p, post', rfl, rfl, -⟩ := List.map_eq_cons_iff.1 htail
    rw [← hpre]
    exact h.room pre' p post' rfl
  obtain ⟨interior, rfl⟩ := h.frames f hf
  have := hcap _ (List.mem_map_of_mem hf)
  rw [image_frame] at this ⊢
  unfold NET_RX_FRAME_MAX_LEN at this
  exact escapeSymbolAdd_eq outbuf interior (by omega)

/-- **Reassembly does not depend on the chunks.** However the escaped frames are cut into chunks, the queue receives
exactly the frames, each once and in order. -/
theorem received_eq (mode : ConnectionMode) (outbuf : ℕ → UInt8) (fs : List (List UInt8)) (polls : List Poll)
    (h : Delivers fs polls) :
    (chunks polls).flatten = fs.flatMap (escapeSymbolAdd outbuf) ∧
      ∃ st, run mode .init polls = some st ∧ st.queue = fs.map (frameOf mode) := by
  constructor
  · rw [h.stream]
    exact List.flatMap_congr fun f hf => (escapeSymbolAdd_of_delivers h outbuf f hf).symm
  · obtain ⟨st, hrun, -, hqueue, -⟩ := run_refines mode polls
      (fun pre p post hp => by rw [← waiting_eq h pre (p :: post) hp]; exact h.room pre p post hp)
      (fun pre p post hp hne => h.timely pre p post hp (by
        rw [waiting_eq h (pre ++ [p]) post (by rw [hp]; simp)]
        exact fun h0 => hne (List.eq_nil_of_length_eq_zero h0)))
    refine ⟨st, hrun, ?_⟩
    rw [hqueue, cutter.feed_eq_drain, h.stream, cutter.drain_encoded cutter_encodes fs h.frames]

/-- a call without a chunk, and two frames cut inside an escape, across their border and before an end mark -/
def fourPolls : List Poll :=
  [⟨[0x02, 0x1B], 7, 7⟩, ⟨[], 9, 9⟩, ⟨[0xE7, 0x41, 0x03, 0x02], 9, 10⟩, ⟨[0x03], 11, 20⟩]

theorem forall_split {α : Type*} {P : List α → α → Prop} (l : List α)
    (h : ∀ i, ∀ hi : i < l.length, P (l.take i) l[i]) : ∀ pre p post, l = pre ++ p :: post → P pre p := by
  rintro pre p post rfl
  simpa using h pre.length (by simp)

theorem delivers_fourPolls : Delivers [frame [0x02, 0x41], frame []] fourPolls where
  frames := by
    intro f hf
    rcases List.mem_cons.1 hf with rfl | hf
    · exact ⟨_, rfl⟩
    · exact ⟨[], List.mem_singleton.1 hf⟩
  stream := by decide
  room := forall_split fourPolls (by decide)
  timely := forall_split (P := fun pre p => waiting _ (pre ++ [p]) ≠ 0 → p.tickEnd < lastTick (pre ++ [p]) + 3) fourPolls
    (by decide)

theorem received_fourPolls : ∃ st, run .modeEth .init fourPolls = some st ∧
    st.queue = [frameOf .modeEth [0x02, 0x02, 0x41, 0x03], frameOf .modeEth [0x02, 0x03]] :=
  (received_eq .modeEth (fun _ => 0) [frame [0x02, 0x41], frame []] fourPolls delivers_fourPolls).2

end DataConcentrator.Protocol
