/-
From the unescaped frame to the transmit queue: the second half of `ConvertFrameStructToFrame`.

The escaped frame goes out in fragments of `EC20_MAX_RECV_SEND_BUF_LEN` bytes.
- `fragments_sent`: the fragment loop cuts every buffer of 1 to 65535 bytes without loss;
- `lossless_iff`: the buffer the escaped frame is written to has the length `GetFinalFrameLen` says, a `u16` that counts
  the marks at the two ends as well, so what is sent is the escaped frame iff that length fits a `u16`;
- `lost_frame`: an escaped frame of 65534 bytes of which nothing is sent.

Allocations succeed, but for `pvPortMalloc(0)`, which gives `NULL`; queues have room.
-/
import DataConcentrator.Protocol.Escape
import DataConcentrator.Protocol.RoundTrip
import DataConcentrator.Protocol.ParameterLoops

namespace DataConcentrator.Protocol

def EC20_MAX_RECV_SEND_BUF_LEN : ℕ := 1024

/-! ## The fragment loop -/

/-- the frames handed to `PushTheFrameToTxQueue`, and `ret` -/
structure Tx where
  pushed : List ServerFrame
  ret : ℕ
deriving DecidableEq, Repr

/-- the bytes of a frame -/
def ServerFrame.bytes (f : ServerFrame) : List UInt8 := f.buf.take f.len

/-- `PushTheFrameToTxQueue`, on the four queues; a frame of `MODE_INSIDE` is deleted -/
def pushTheFrameToTxQueue (queues : ConnectionMode → List ServerFrame) (tx_frame : ServerFrame) :
    ConnectionMode → List ServerFrame :=
  if tx_frame.connection_mode = .modeInside then queues
  else Function.update queues tx_frame.connection_mode (queues tx_frame.connection_mode ++ [tx_frame])

/-- `tx_frame->len` -/
def fragmentLen (final_frame_len frame_num i : ℕ) : ℕ :=
  if i = frame_num then final_frame_len % EC20_MAX_RECV_SEND_BUF_LEN else EC20_MAX_RECV_SEND_BUF_LEN

/-- one round of the fragment loop; a frame without a buffer is deleted, a copy from behind the frame is `none` -/
def fragmentRound (mode : ConnectionMode) (final_buf : List UInt8) (frame_num : ℕ) (tx : Tx) (i : ℕ) : Option Tx :=
  let len := fragmentLen final_buf.length frame_num i
  let buf := (final_buf.drop (i * EC20_MAX_RECV_SEND_BUF_LEN)).take len
  if len = 0 then some tx
  else if h : len ≤ buf.length then some ⟨tx.pushed ++ [⟨mode, len, buf, h⟩], (tx.ret + 1) % 256⟩
  else none

/-- the loop, with `frame_num` a `u8` -/
def pushFragments (mode : ConnectionMode) (final_buf : List UInt8) : Option Tx :=
  let frame_num := final_buf.length / EC20_MAX_RECV_SEND_BUF_LEN % 256
  forU8 (frame_num + 1) (fragmentRound mode final_buf frame_num) ⟨[], 0⟩

/-! ## The escaped frame -/

/-- what `EscapeSymbolAdd` makes of a buffer -/
def escapedFrame (origin_buf : List UInt8) : List UInt8 := escaped ((origin_buf.drop 1).dropLast)

/-- from the call of `GetFinalFrameLen` on; `EscapeSymbolAdd` writes as many bytes as the escaped frame has, and `none`
is a write behind `final_buf` -/
def sendFinalFrame (heap : ℕ → UInt8) (mode : ConnectionMode) (origin_buf : List UInt8) : Option Tx :=
  let final_frame_len := getFinalFrameLen origin_buf
  if final_frame_len = 0 then some ⟨[], 0⟩
  else if (escapedFrame origin_buf).length ≤ final_frame_len then
    pushFragments mode (escapeSymbolAdd heap origin_buf)
  else none

/-- `ConvertFrameStructToFrame`; the two buffers are allocated with the contents `heap` and `heap'` -/
def convertFrameStructToFrame (heap heap' : ℕ → UInt8) (s : ServerFrameStruct) : Option Tx :=
  (originBuf heap s).bind fun origin_buf =>
    (sendFinalFrame heap' s.connection_mode origin_buf).bind fun tx =>
      (deleteServerFrameStruct s).map fun _ => tx

/-! ## What the loop keeps -/

/-- the first `n` bytes are pushed, in fragments neither empty nor too long -/
structure Sent (mode : ConnectionMode) (final_buf : List UInt8) (n : ℕ) (tx : Tx) : Prop where
  bytes : tx.pushed.flatMap ServerFrame.bytes = final_buf.take n
  sizes : ∀ f ∈ tx.pushed, 1 ≤ f.len ∧ f.len ≤ EC20_MAX_RECV_SEND_BUF_LEN
  modes : ∀ f ∈ tx.pushed, f.connection_mode = mode
  count : tx.ret = tx.pushed.length

section Loop

variable (mode : ConnectionMode) {final_buf : List UInt8}

/-- **One fragment.** -/
theorem fragmentRound_sent {frame_num i : ℕ} {tx : Tx}
    (h : Sent mode final_buf (i * EC20_MAX_RECV_SEND_BUF_LEN) tx) (hret : tx.pushed.length < 255)
    (hlen : i * EC20_MAX_RECV_SEND_BUF_LEN + fragmentLen final_buf.length frame_num i ≤ final_buf.length) :
    ∃ tx', fragmentRound mode final_buf frame_num tx i = some tx' ∧
      Sent mode final_buf (i * EC20_MAX_RECV_SEND_BUF_LEN + fragmentLen final_buf.length frame_num i) tx' ∧
      tx'.pushed.length ≤ tx.pushed.length + 1 := by
  set len := fragmentLen final_buf.length frame_num i with hdef
  have hle : len ≤ EC20_MAX_RECV_SEND_BUF_LEN := by
    rw [hdef, fragmentLen]
    split_ifs
    · exact (Nat.mod_lt _ (by decide)).le
    · exact le_rfl
  by_cases h0 : len = 0
  · refine ⟨tx, ?_, ?_, Nat.le_succ _⟩
    · rw [fragmentRound, ← hdef]
      exact if_pos h0
    · rwa [h0, Nat.add_zero]
  · have hbuf : ((final_buf.drop (i * EC20_MAX_RECV_SEND_BUF_LEN)).take len).length = len := by
      rw [List.length_take, List.length_drop]
      omega
    refine ⟨⟨tx.pushed ++ [⟨mode, len, (final_buf.drop (i * EC20_MAX_RECV_SEND_BUF_LEN)).take len, hbuf.ge⟩],
      (tx.ret + 1) % 256⟩, ?_, ⟨?_, ?_, ?_, ?_⟩, ?_⟩
    · rw [fragmentRound, ← hdef, if_neg h0, dif_pos hbuf.ge]
    · rw [List.flatMap_append, h.bytes, List.flatMap_singleton, ServerFrame.bytes, List.take_take, min_self,
        List.take_add]
    · intro f hf
      rcases List.mem_append.1 hf with hf | hf
      · exact h.sizes f hf
      · rw [List.mem_singleton.1 hf]
        exact ⟨Nat.pos_of_ne_zero h0, hle⟩
    · intro f hf
      rcases List.mem_append.1 hf with hf | hf
      · exact h.modes f hf
      · rw [List.mem_singleton.1 hf]
    · have hcount := h.count
      simp only [List.length_append, List.length_singleton]
      omega
    · rw [List.length_append, List.length_singleton]

/-- the full fragments -/
theorem fullFragments_sent (hlen : final_buf.length ≤ 65535) (n : ℕ) :
    n ≤ final_buf.length / EC20_MAX_RECV_SEND_BUF_LEN →
      ∃ tx, (List.range n).foldlM (fragmentRound mode final_buf (final_buf.length / EC20_MAX_RECV_SEND_BUF_LEN))
          ⟨[], 0⟩ = some tx ∧
        Sent mode final_buf (n * EC20_MAX_RECV_SEND_BUF_LEN) tx ∧ tx.pushed.length ≤ n := by
  induction n with
  | zero =>
    intro _
    refine ⟨⟨[], 0⟩, rfl, ⟨?_, ?_, ?_, rfl⟩, le_rfl⟩
    · simp
    · exact fun f hf => absurd hf List.not_mem_nil
    · exact fun f hf => absurd hf List.not_mem_nil
  | succ n ih =>
    intro hn
    obtain ⟨tx, hrun, hsent, hcount⟩ := ih (Nat.le_of_succ_le hn)
    have hfull : fragmentLen final_buf.length (final_buf.length / EC20_MAX_RECV_SEND_BUF_LEN) n =
        EC20_MAX_RECV_SEND_BUF_LEN := if_neg (Nat.ne_of_lt hn)
    have hmany : n < 64 := lt_of_lt_of_le hn (Nat.div_le_of_le_mul (hlen.trans (by decide)))
    have hroom := Nat.div_mul_le_self final_buf.length EC20_MAX_RECV_SEND_BUF_LEN
    have hmul := Nat.mul_le_mul_right EC20_MAX_RECV_SEND_BUF_LEN hn
    obtain ⟨tx', hstep, hsent', hcount'⟩ := @fragmentRound_sent mode final_buf
      (final_buf.length / EC20_MAX_RECV_SEND_BUF_LEN) n tx hsent (by omega)
      (by rw [hfull, ← Nat.succ_mul]; exact hmul.trans hroom)
    refine ⟨tx', ?_, ?_, by omega⟩
    · exact (CLoop.foldlM_range_succ hrun).trans hstep
    · rw [hfull, ← Nat.succ_mul] at hsent'
      exact hsent'

/-- **Fragmentation.** The loop sends all of the buffer, in order. -/
theorem fragments_sent (hlen : final_buf.length ≤ 65535) :
    ∃ tx, pushFragments mode final_buf = some tx ∧ Sent mode final_buf final_buf.length tx := by
  set frame_num := final_buf.length / EC20_MAX_RECV_SEND_BUF_LEN with hnum
  have hsmall : frame_num < 64 :=
    Nat.div_lt_of_lt_mul (lt_of_le_of_lt hlen (by decide))
  obtain ⟨tx, hrun, hsent, hcount⟩ := fullFragments_sent mode hlen frame_num le_rfl
  have hlast : frame_num * EC20_MAX_RECV_SEND_BUF_LEN + fragmentLen final_buf.length frame_num frame_num =
      final_buf.length := by
    rw [fragmentLen, if_pos rfl, hnum]
    exact Nat.div_add_mod' _ _
  obtain ⟨tx', hstep, hsent', _⟩ := @fragmentRound_sent mode final_buf frame_num frame_num tx hsent (by omega) hlast.le
  refine ⟨tx', ?_, hlast ▸ hsent'⟩
  rw [pushFragments, ← hnum, Nat.mod_eq_of_lt (by omega), forU8, CLoop.forLoop_eq_foldlM 8 _ 255 _ (by omega) (by omega),
    CLoop.foldlM_range_succ hrun]
  exact hstep

end Loop

/-- the queue of a link takes what is pushed, in order -/
theorem queue_pushed {mode : ConnectionMode} (hmode : mode ≠ .modeInside) (fs : List ServerFrame) :
    ∀ queues, (∀ f ∈ fs, f.connection_mode = mode) →
      fs.foldl pushTheFrameToTxQueue queues mode = queues mode ++ fs := by
  induction fs with
  | nil => intro queues _; simp
  | cons f fs ih =>
    intro queues h
    have hf := h f List.mem_cons_self
    rw [List.foldl_cons, ih _ fun g hg => h g (List.mem_cons_of_mem f hg), pushTheFrameToTxQueue, hf, if_neg hmode,
      Function.update_self, List.append_assoc]
    rfl

/-! ## Lengths -/

/-- the special bytes at the ends of a buffer are counted, but not escaped -/
theorem length_escapedFrame {x : List UInt8} (h : 2 ≤ x.length) :
    (escapedFrame x).length = x.length + ((x.drop 1).dropLast).countP special ∧
      (escapedFrame x).length ≤ x.length + x.countP special ∧ x.length + x.countP special ≤ (escapedFrame x).length + 2 := by
  obtain ⟨a, y, rfl⟩ := List.exists_cons_of_length_pos (Nat.lt_of_lt_of_le Nat.two_pos h)
  have hne : y ≠ [] := by
    rintro rfl
    exact absurd h (Nat.not_le.2 Nat.one_lt_two)
  have hy := List.dropLast_concat_getLast hne
  set mid := y.dropLast with hmid
  set b := y.getLast hne
  have hlen : (escapedFrame (a :: y)).length = mid.length + 2 + mid.countP special := by
    rw [escapedFrame, length_escaped, length_frame]
    rfl
  have hx : (a :: y).length = mid.length + 2 := by rw [← hy]; simp
  have hcount : (a :: y).countP special = mid.countP special + (if special b then 1 else 0) +
      (if special a then 1 else 0) := by
    rw [← hy, List.countP_cons, List.countP_append, List.countP_singleton]
  refine ⟨?_, ?_, ?_⟩
  · rw [hlen, hx]
    rfl
  · omega
  · rw [hlen, hx, hcount]
    split_ifs <;> omega

/-- `EscapeSymbolAdd` does not look at the ends of its buffer -/
theorem escapeSymbolAdd_frame (heap : ℕ → UInt8) {x : List UInt8} (h : 2 ≤ x.length)
    (hlen : (escapedFrame x).length < 65536) : escapeSymbolAdd heap x = escapedFrame x := by
  have hsame : x.length = (frame ((x.drop 1).dropLast)).length := by
    rw [length_frame, List.length_dropLast, List.length_drop]
    omega
  rw [escapedFrame] at hlen ⊢
  rw [← escapeSymbolAdd_eq heap _ hlen, escapeSymbolAdd, escapeSymbolAdd, drop_frame, ← hsame]

/-! ## Main result -/

/-- what is pushed is the frame, cut into fragments neither empty nor too long, and goes to the queue of the link -/
def Lossless (result : Option Tx) (mode : ConnectionMode) (frame : List UInt8) : Prop :=
  ∃ tx, result = some tx ∧ (∀ f ∈ tx.pushed, 1 ≤ f.len ∧ f.len ≤ EC20_MAX_RECV_SEND_BUF_LEN) ∧
    tx.pushed.flatMap ServerFrame.bytes = frame ∧
    ∀ queues, mode ≠ .modeInside → tx.pushed.foldl pushTheFrameToTxQueue queues mode = queues mode ++ tx.pushed

/-- where `GetFinalFrameLen` wraps round, the buffer has 0 bytes or 1 -/
theorem sendFinalFrame_wrapped (heap : ℕ → UInt8) (mode : ConnectionMode) {x : List UInt8} (h : 2 ≤ x.length)
    (hlen : (escapedFrame x).length ≤ 65535) (hwrap : 65535 < x.length + x.countP special) :
    sendFinalFrame heap mode x = some ⟨[], 0⟩ ∨ sendFinalFrame heap mode x = none := by
  have hbounds := length_escapedFrame h
  rw [sendFinalFrame, getFinalFrameLen_eq]
  split_ifs
  · exact .inl rfl
  · omega
  · exact .inr rfl

theorem sendFinalFrame_lossless_iff (heap : ℕ → UInt8) (mode : ConnectionMode) {x : List UInt8} (h : 2 ≤ x.length)
    (hlen : (escapedFrame x).length ≤ 65535) :
    Lossless (sendFinalFrame heap mode x) mode (escapedFrame x) ↔ x.length + x.countP special ≤ 65535 := by
  have hbounds := length_escapedFrame h
  constructor
  · rintro ⟨tx, hrun, _, hbytes, _⟩
    by_contra hwrap
    rcases sendFinalFrame_wrapped heap mode h hlen (Nat.not_le.1 hwrap) with hnone | hnone
    · -- nothing is pushed
      rw [hnone, Option.some.injEq] at hrun
      subst hrun
      cases hbytes
    · rw [hnone] at hrun
      cases hrun
  · intro hfits
    obtain ⟨tx, hrun, hsent⟩ := @fragments_sent mode (escapedFrame x) hlen
    refine ⟨tx, ?_, hsent.sizes, ?_, fun queues hmode => queue_pushed hmode _ queues hsent.modes⟩
    · rw [sendFinalFrame, getFinalFrameLen_eq, Nat.mod_eq_of_lt (Nat.lt_succ_of_le hfits),
        if_neg (by omega), if_pos hbounds.2.1, escapeSymbolAdd_frame heap h (Nat.lt_succ_of_le hlen), hrun]
    · rw [hsent.bytes, List.take_length]

/-- the structure is freed after the frame is sent -/
theorem convertFrameStructToFrame_eq {heap : ℕ → UInt8} (heap' : ℕ → UInt8) {s : ServerFrameStruct} {x : List UInt8}
    (hx : originBuf heap s = some x) :
    convertFrameStructToFrame heap heap' s = sendFinalFrame heap' s.connection_mode x := by
  obtain ⟨freed, hfreed⟩ := Option.isSome_iff_exists.1 (delete_of_originBuf hx)
  rw [convertFrameStructToFrame, hx, Option.bind_some, hfreed]
  cases sendFinalFrame heap' s.connection_mode x <;> rfl

/-- **Lossless fragmentation.** The fragments of an escaped frame of up to 65535 bytes are that frame iff the length
of the frame before the escape and the number of its special bytes, its two marks among them, fit a `u16` together. -/
theorem lossless_iff {heap : ℕ → UInt8} (heap' : ℕ → UInt8) {s : ServerFrameStruct} {x : List UInt8}
    (hx : originBuf heap s = some x) (h : 2 ≤ x.length) (hlen : (escapedFrame x).length ≤ 65535) :
    Lossless (convertFrameStructToFrame heap heap' s) s.connection_mode (escapedFrame x) ↔
      x.length + x.countP special ≤ 65535 := by
  rw [convertFrameStructToFrame_eq heap' hx]
  exact sendFinalFrame_lossless_iff heap' s.connection_mode h hlen

/-! ## Long texts -/

/-- a text of `n` times `A` -/
def longValue (n : ℕ) : Parameter := ⟨0x4101, n, List.replicate n 0x41 ++ [0]⟩

/-- a response with one such text; its ids are chosen so that the checksum is the same for every length -/
def longText (n : ℕ) : ServerFrameStruct :=
  { ServerFrameStruct.zero with
    connection_mode := .mode4G
    start := 0x02
    msg_type := SYNC_RESPONSE
    serial_num := 1
    msg_id := 0x0104
    gateway_id := 10
    device_id := 0x3E5D4C01
    para_num := 1
    para := [some (longValue n)]
    stop := 0x03 }

theorem longText_sendable {n : ℕ} (h : n ≤ 65504) : Sendable (longText n) [longValue n] where
  down := .inr (.inr rfl)
  para := rfl
  num := rfl
  few := Nat.one_le_ofNat
  text := by
    intro p hp
    rw [List.mem_singleton.1 hp]
    refine ⟨Nat.lt_of_le_of_lt h (by decide), List.replicate n 0x41, [], rfl, ?_, List.length_replicate⟩
    exact fun hmem => absurd (List.eq_of_mem_replicate hmem) (by decide)
  short := by
    simp only [List.map_cons, List.map_nil, List.sum_cons, List.sum_nil, longValue]
    omega

/-- the letter leaves this state of the checksum as it is -/
theorem crc32Step_fixed (n : ℕ) : (List.replicate n 0x41).foldl crc32Step 0xBBB0F7F4 = 0xBBB0F7F4 := by
  induction n with
  | zero => rfl
  | succ n ih =>
    have hstep : crc32Step 0xBBB0F7F4 0x41 = 0xBBB0F7F4 := by decide +kernel
    rw [List.replicate_succ, List.foldl_cons, hstep, ih]

theorem longText_crcPart (n : ℕ) :
    crcPart (longText n) [longValue n] = frameIds (longText 0) ++ putBe16 0x4101 ++ (List.replicate n 0x41 ++ [0]) := by
  have htake : (longValue n).value.take (n + 1) = List.replicate n 0x41 ++ [0] := by
    rw [longValue, List.take_of_length_le (by simp)]
  rw [crcPart, paraBytes, List.flatMap_singleton, Parameter.bytes, show (longValue n).len = n from rfl, htake,
    List.append_assoc]
  rfl

theorem longText_crc (n : ℕ) : crc32 (crcPart (longText n) [longValue n]) = 0x4594790D := by
  have hids : (frameIds (longText 0) ++ putBe16 0x4101).foldl crc32Step 0xFFFFFFFF = 0xBBB0F7F4 := by decide +kernel
  rw [longText_crcPart, crc32, List.foldl_append, hids, List.foldl_append, crc32Step_fixed]
  decide +kernel

/-- between its marks the frame has no special byte, as long as there is none in the length field -/
theorem longText_wire {n : ℕ} (h : n ≤ 65504) (hhead : (frameHead (longText 0) (31 + n)).tail.countP special = 0) :
    ∃ interior, wire (longText n) [longValue n] = frame interior ∧ interior.length = 29 + n ∧
      interior.countP special = 0 := by
  have hpara : (paraBytes [longValue n]).length = 3 + n := by
    rw [length_paraBytes _ (longText_sendable h).text]
    rfl
  have hlen : (wire (longText n) [longValue n]).length = 31 + n := by
    rw [length_wire, hpara]
    omega
  have hframe : wire (longText n) [longValue n] =
      frame ((frameHead (longText 0) (31 + n)).tail ++ putBe32 0x4594790D ++ crcPart (longText n) [longValue n]) := by
    rw [wire, hpara, longText_crc, show 28 + (3 + n) = 31 + n by omega, frame]
    simp [frameHead, longText, ServerFrameStruct.zero]
  refine ⟨_, hframe, ?_, ?_⟩
  · rw [hframe, length_frame] at hlen
    omega
  · have hids : (frameIds (longText 0)).countP special = 0 ∧ (putBe16 0x4101).countP special = 0 ∧
        (putBe32 0x4594790D).countP special = 0 ∧ [(0 : UInt8)].countP special = 0 := by decide +kernel
    have htext : (List.replicate n (0x41 : UInt8)).countP special = 0 := by
      rw [List.countP_replicate]
      rfl
    simp only [longText_crcPart, List.countP_append, hids, hhead, htext]

/-- a text of five letters arrives -/
theorem lossless_five : ∃ x, originBuf (fun _ => 0) (longText 5) = some x ∧
    Lossless (convertFrameStructToFrame (fun _ => 0) (fun _ => 0) (longText 5)) .mode4G (escapedFrame x) := by
  obtain ⟨interior, hwire, hlen, hcount⟩ := @longText_wire 5 (by decide) (by decide +kernel)
  have hx := originBuf_eq (fun _ => 0) (@longText_sendable 5 (by decide))
  have hescaped : (escapedFrame (frame interior)).length = 36 := by
    rw [escapedFrame, drop_frame, length_escaped, length_frame, hlen, hcount]
  rw [hwire] at hx
  refine ⟨_, hx, (lossless_iff (fun _ => 0) hx ?_ ?_).2 ?_⟩
  · rw [length_frame]
    omega
  · rw [hescaped]
    decide
  · rw [length_frame, countP_frame, hlen, hcount]
    decide

/-- 65534 bytes: `pvPortMalloc` is asked for 0 bytes, and nothing is sent -/
theorem lost_frame : ∃ x, originBuf (fun _ => 0) (longText 65503) = some x ∧ (escapedFrame x).length = 65534 ∧
    convertFrameStructToFrame (fun _ => 0) (fun _ => 0) (longText 65503) = some ⟨[], 0⟩ ∧
    ¬ Lossless (convertFrameStructToFrame (fun _ => 0) (fun _ => 0) (longText 65503)) .mode4G (escapedFrame x) := by
  obtain ⟨interior, hwire, hlen, hcount⟩ := @longText_wire 65503 (by decide) (by decide +kernel)
  have hx := originBuf_eq (fun _ => 0) (@longText_sendable 65503 (by decide))
  have hescaped : (escapedFrame (frame interior)).length = 65534 := by
    rw [escapedFrame, drop_frame, length_escaped, length_frame, hlen, hcount]
  have hnone : convertFrameStructToFrame (fun _ => 0) (fun _ => 0) (longText 65503) = some ⟨[], 0⟩ := by
    rw [convertFrameStructToFrame_eq _ hx, hwire, sendFinalFrame, getFinalFrameLen_eq, length_frame, countP_frame, hlen,
      hcount]
    rfl
  rw [hwire] at hx
  refine ⟨_, hx, hescaped, hnone, ?_⟩
  rw [hnone]
  rintro ⟨tx, hrun, _, hbytes, _⟩
  rw [Option.some.injEq] at hrun
  subst hrun
  rw [← hbytes] at hescaped
  cases hescaped

end DataConcentrator.Protocol
