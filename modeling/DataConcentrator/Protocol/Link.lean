/-
Several tasks send over one link: `ConvertFrameStructToFrame` in each of them, `PushTheFrameToTxQueue` behind a mutex.

The mutex is held for one fragment. The server is not part of the repository, so what is sent is read back by the
repository's own reader of the same format, `RecvNetFrameAndPushToRxQueue`.
- `pieces_short`, `pieces_long`: a message goes out in one fragment exactly when its escaped frame has at most 1024 bytes;
- `drain_split`: a whole frame between two fragments of another makes one frame of the two and blocks the reader;
- `intact_iff`: the messages arrive whole in every interleaving exactly when only one task sends, or all of them send
  messages of one fragment.
-/
import DataConcentrator.Lib.Writers
import DataConcentrator.Protocol.Fragments
import DataConcentrator.Protocol.Stream

namespace DataConcentrator.Protocol

open Writers (State Idle Whole start part written)

/-! ## Messages -/

/-- a frame structure that a task sends, and what its two buffers hold when they are allocated -/
structure Message where
  s : ServerFrameStruct
  ps : List Parameter
  heap : ℕ → UInt8
  heap' : ℕ → UInt8
  buildable : Buildable s ps
  start : s.start = 0x02
  stop : s.stop = 0x03

namespace Message

/-- the unescaped frame -/
def frame (m : Message) : List UInt8 := wire m.s m.ps

/-- the frame as it goes over the link -/
def image (m : Message) : List UInt8 := Protocol.image m.frame

/-- the fragments that are pushed -/
def pieces (m : Message) : List ServerFrame :=
  (convertFrameStructToFrame m.heap m.heap' m.s).elim [] Tx.pushed

theorem isFrame (m : Message) : IsFrame m.frame := by
  obtain ⟨middle, hmiddle⟩ : ∃ middle, wire m.s m.ps = m.s.start :: (middle ++ [m.s.stop]) := by
    refine ⟨(frameHead m.s (28 + (paraBytes m.ps).length)).tail ++ putBe32 (crc32 (crcPart m.s m.ps)) ++
      crcPart m.s m.ps, ?_⟩
    simp [wire, frameHead]
  refine ⟨middle, ?_⟩
  rw [frame, hmiddle, m.start, m.stop]
  rfl

theorem two_le_length (m : Message) : 2 ≤ m.frame.length := by
  rw [frame, length_wire]
  omega

theorem length_image (m : Message) : m.frame.length + m.frame.countP special ≤ m.image.length + 2 ∧
    m.frame.length ≤ m.image.length := by
  have hbounds := length_escapedFrame m.two_le_length
  rw [show escapedFrame m.frame = m.image from rfl] at hbounds
  omega

/-- the fragment loop works on the escaped frame -/
theorem pieces_eq (m : Message) (hlen : m.image.length ≤ NET_RX_FRAME_MAX_LEN) :
    m.pieces = (pushFragments m.s.connection_mode m.image).elim [] Tx.pushed := by
  unfold NET_RX_FRAME_MAX_LEN at hlen
  have hbounds := length_escapedFrame m.two_le_length
  have himage : escapedFrame m.frame = m.image := rfl
  have hlong := m.two_le_length
  rw [himage] at hbounds
  have hsend : sendFinalFrame m.heap' m.s.connection_mode m.frame = pushFragments m.s.connection_mode m.image := by
    have hnum : getFinalFrameLen m.frame = m.frame.length + m.frame.countP special := by
      rw [getFinalFrameLen_eq, Nat.mod_eq_of_lt (by omega)]
    have hadd : escapeSymbolAdd m.heap' m.frame = m.image :=
      escapeSymbolAdd_frame m.heap' m.two_le_length (by rw [himage]; omega)
    rw [sendFinalFrame, hnum, hadd, himage, if_neg (by omega), if_pos hbounds.2.1]
  rw [pieces, convertFrameStructToFrame_eq m.heap' (originBuf_buildable m.heap m.buildable)]
  exact congrArg (Option.elim · [] Tx.pushed) hsend

/-- **What a task pushes for a message** is the frame of the message, in fragments for the queue of the link. -/
theorem pieces_spec (m : Message) (hlen : m.image.length ≤ NET_RX_FRAME_MAX_LEN) :
    m.pieces.flatMap ServerFrame.bytes = m.image ∧
      (∀ f ∈ m.pieces, 1 ≤ f.len ∧ f.len ≤ EC20_MAX_RECV_SEND_BUF_LEN) ∧
      ∀ f ∈ m.pieces, f.connection_mode = m.s.connection_mode := by
  obtain ⟨tx, hrun, hsent⟩ := @fragments_sent m.s.connection_mode m.image (hlen.trans (by decide))
  rw [pieces_eq m hlen, hrun]
  refine ⟨?_, hsent.sizes, hsent.modes⟩
  rw [Option.elim_some, hsent.bytes, List.take_length]

end Message

/-! ## Fragments -/

theorem length_bytes (f : ServerFrame) : f.bytes.length = f.len := by
  rw [ServerFrame.bytes, List.length_take, min_eq_left f.fits]

/-- the number of bytes of some fragments -/
theorem length_le_of_sizes {fs : List ServerFrame} (h : ∀ f ∈ fs, f.len ≤ EC20_MAX_RECV_SEND_BUF_LEN) :
    (fs.flatMap ServerFrame.bytes).length ≤ fs.length * EC20_MAX_RECV_SEND_BUF_LEN := by
  induction fs with
  | nil => exact Nat.zero_le _
  | cons f fs ih =>
    have hf := h f List.mem_cons_self
    have hfs := ih fun g hg => h g (List.mem_cons_of_mem f hg)
    rw [List.flatMap_cons, List.length_append, length_bytes, List.length_cons, Nat.succ_mul]
    omega

/-- one round where the whole buffer fits a fragment -/
theorem pushFragments_short (mode : ConnectionMode) {buf : List UInt8} (h0 : 0 < buf.length)
    (h : buf.length ≤ EC20_MAX_RECV_SEND_BUF_LEN) : ∃ tx f, pushFragments mode buf = some tx ∧ tx.pushed = [f] := by
  have hround : ∀ frame_num, fragmentLen buf.length frame_num 0 = buf.length →
      (List.range 1).foldlM (fragmentRound mode buf frame_num) ⟨[], 0⟩ =
        some ⟨[⟨mode, buf.length, buf, le_rfl⟩], 1⟩ := by
    intro frame_num hlen
    have hone : fragmentRound mode buf frame_num ⟨[], 0⟩ 0 = some ⟨[⟨mode, buf.length, buf, le_rfl⟩], 1⟩ := by
      rw [fragmentRound]
      simp only [hlen, Nat.zero_mul, List.drop_zero, List.take_length, if_neg h0.ne', dif_pos le_rfl, List.nil_append]
    exact (CLoop.foldlM_range_succ (n := 0) rfl).trans hone
  refine ⟨⟨[⟨mode, buf.length, buf, le_rfl⟩], 1⟩, _, ?_, rfl⟩
  rcases h.lt_or_eq with hlt | heq
  · have hnum : buf.length / EC20_MAX_RECV_SEND_BUF_LEN % 256 = 0 := by rw [Nat.div_eq_of_lt hlt]
    have hlen : fragmentLen buf.length 0 0 = buf.length := by rw [fragmentLen, if_pos rfl, Nat.mod_eq_of_lt hlt]
    simp only [pushFragments, hnum, forU8]
    rw [CLoop.forLoop_eq_foldlM 8 _ 255 _ (by omega) (by omega), hround 0 hlen]
  · -- the second round finds nothing left
    have hnum : buf.length / EC20_MAX_RECV_SEND_BUF_LEN % 256 = 1 := by rw [heq]; rfl
    have hlen : fragmentLen buf.length 1 0 = buf.length := by rw [fragmentLen, if_neg (by omega), heq]
    have hlast : fragmentLen buf.length 1 1 = 0 := by rw [fragmentLen, if_pos rfl, heq, Nat.mod_self]
    simp only [pushFragments, hnum, forU8]
    rw [CLoop.forLoop_eq_foldlM 8 _ 255 _ (by omega) (by omega), CLoop.foldlM_range_succ (hround 1 hlen), fragmentRound,
      hlast]
    rfl

theorem Message.pieces_short (m : Message) (h : m.image.length ≤ EC20_MAX_RECV_SEND_BUF_LEN) : ∃ f, m.pieces = [f] := by
  have hpos := m.length_image.2.trans' m.two_le_length
  obtain ⟨tx, f, hrun, hf⟩ := @pushFragments_short m.s.connection_mode m.image (by omega) h
  exact ⟨f, by rw [m.pieces_eq (h.trans (by decide)), hrun]; exact hf⟩

/-- a longer message has a first fragment and more -/
theorem Message.pieces_long (m : Message) (hlen : m.image.length ≤ NET_RX_FRAME_MAX_LEN)
    (h : ¬ m.image.length ≤ EC20_MAX_RECV_SEND_BUF_LEN) : ∃ f fs, m.pieces = f :: fs ∧
      m.image = f.bytes ++ fs.flatMap ServerFrame.bytes ∧ f.bytes ≠ [] ∧ fs.flatMap ServerFrame.bytes ≠ [] := by
  obtain ⟨hbytes, hsizes, -⟩ := m.pieces_spec hlen
  rcases hfs : m.pieces with _ | ⟨f, fs⟩ <;> rw [hfs] at hbytes hsizes
  · rw [← hbytes] at h
    exact absurd (Nat.zero_le _) h
  · have hf := hsizes f List.mem_cons_self
    rw [List.flatMap_cons] at hbytes
    refine ⟨f, fs, rfl, hbytes.symm, ?_, ?_⟩
    · rw [← List.length_pos_iff, length_bytes]
      exact hf.1
    · intro hnil
      rw [← hbytes, hnil, List.append_nil, length_bytes] at h
      exact h hf.2

/-! ## The reader -/

/-- **A frame between two parts of another**: the reader takes the first part and the frame for one frame, and keeps the
second part for ever. -/
theorem drain_split {f g xs ys : List UInt8} (hf : IsFrame f) (hg : IsFrame g) (himage : image f = xs ++ ys)
    (hxs : xs ≠ []) (hys : ys ≠ []) : (cutter.drain (xs ++ (image g ++ ys))).1.length = 1 := by
  obtain ⟨inner, rfl⟩ := hf
  obtain ⟨inner', rfl⟩ := hg
  rw [image_frame] at himage ⊢
  obtain ⟨h2, h3⟩ := not_mem_escape inner
  obtain ⟨-, h3'⟩ := not_mem_escape inner'
  obtain ⟨x, xs, rfl⟩ := List.exists_cons_of_ne_nil hxs
  obtain ⟨rfl, hbody⟩ := List.cons.inj (show 0x02 :: (inner.flatMap escape ++ [0x03]) = x :: (xs ++ ys) from himage)
  have hlast := List.dropLast_append_getLast hys
  have hmid : inner.flatMap escape = xs ++ ys.dropLast ∧ [0x03] = [ys.getLast hys] := by
    rw [← hlast, ← List.append_assoc] at hbody
    exact List.append_inj' hbody rfl
  have hxs3 : 0x03 ∉ xs := fun h => h3 (by rw [hmid.1]; exact List.mem_append_left _ h)
  have hys2 : 0x02 ∉ ys := by
    rw [← hlast, ← hmid.2]
    intro h
    rcases List.mem_append.1 h with h | h
    · exact h2 (by rw [hmid.1]; exact List.mem_append_right _ h)
    · exact absurd (List.mem_singleton.1 h) (by decide)
  -- the first end mark is that of the whole frame
  have hstream : 0x02 :: xs ++ (escaped inner' ++ ys) =
      (0x02 :: xs ++ 0x02 :: inner'.flatMap escape) ++ 0x03 :: ys := by simp [escaped]
  have hno3 : 0x03 ∉ 0x02 :: xs ++ 0x02 :: inner'.flatMap escape := by
    simp [hxs3, h3']
  have hcut : ∃ taken, cutter.cut (0x02 :: xs ++ (escaped inner' ++ ys)) = some (taken, ys) := by
    have hi2 : (0x02 :: xs ++ (escaped inner' ++ ys)).idxOf 0x02 = 0 := List.idxOf_cons_self
    have hi3 : (0x02 :: xs ++ (escaped inner' ++ ys)).idxOf 0x03 =
        (0x02 :: xs ++ 0x02 :: inner'.flatMap escape).length := by
      rw [hstream, List.idxOf_append_of_notMem hno3, List.idxOf_cons_self, Nat.add_zero]
    have hdrop : (0x02 :: xs ++ (escaped inner' ++ ys)).drop
        ((0x02 :: xs ++ 0x02 :: inner'.flatMap escape).length + 1) = ys := by
      rw [hstream, ← List.drop_drop, List.drop_left]
      rfl
    refine ⟨escapeSymbolDelete (((0x02 :: xs ++ (escaped inner' ++ ys)).drop 0).take
      ((0x02 :: xs ++ 0x02 :: inner'.flatMap escape).length + 1 - 0)), ?_⟩
    show cutFrame _ = _
    rw [cutFrame, hi2, hi3, if_pos ⟨List.mem_cons_self, by rw [hstream]; simp, by simp⟩, hdrop]
  have hstuck : cutter.cut ys = none := by
    show cutFrame ys = none
    rw [cutFrame, if_neg fun hc => hys2 hc.1]
  obtain ⟨taken, hcut⟩ := hcut
  rw [cutter.drain_some hcut, cutter.drain_none hstuck]
  rfl

/-- calls that read `bytes`, at most `n` of them at a time, and come within 3 s while part of a frame waits -/
structure Reads (n : ℕ) (bytes : List UInt8) (polls : List Poll) : Prop where
  stream : (chunks polls).flatten = bytes
  sizes : ∀ p ∈ polls, p.data.length ≤ n
  timely : ∀ pre p post, polls = pre ++ p :: post → (cutter.feed (chunks (pre ++ [p]))).2 ≠ [] →
    p.tickEnd < lastTick (pre ++ [p]) + 3

/-- frames that leave room for a chunk all arrive -/
theorem delivered_of_reads (mode : ConnectionMode) {n : ℕ} {fs : List (List UInt8)} {polls : List Poll}
    (h : Reads n (fs.flatMap image) polls) (hfs : ∀ f ∈ fs, IsFrame f)
    (hroom : ∀ f ∈ fs, (image f).length + n ≤ NET_RX_FRAME_MAX_LEN) (hn : n ≤ NET_RX_FRAME_MAX_LEN) :
    Delivered mode polls fs := by
  obtain ⟨st, hrun, -, hqueue, -⟩ := run_refines mode polls (by
    intro pre p post hp
    have hbytes : fs.flatMap image = (chunks pre).flatten ++ (chunks (p :: post)).flatten := by
      rw [← h.stream, hp]
      simp [chunks]
    have hwaiting := Reassembly.unconsumed_eq cutter cutter_encodes fs hfs _ _ hbytes
    have hmost : ∀ img ∈ fs.map image, img.length ≤ NET_RX_FRAME_MAX_LEN - n := by
      intro img himg
      obtain ⟨f, hf, rfl⟩ := List.mem_map.1 himg
      have := hroom f hf
      omega
    have hle := Reassembly.unconsumed_le (fs.map image) _ hmost (chunks pre).flatten.length (by
      rw [show (fs.map image).flatten = fs.flatMap image from rfl, hbytes, List.length_append]
      exact Nat.le_add_right _ _)
    have hsize := h.sizes p (by rw [hp]; simp)
    rw [cutter.feed_eq_drain, ← hwaiting]
    omega) h.timely
  refine ⟨st, hrun, ?_⟩
  rw [hqueue, cutter.feed_eq_drain, h.stream, cutter.drain_encoded cutter_encodes fs hfs]

/-- byte by byte, without delay -/
def byteByByte (bytes : List UInt8) : List Poll := bytes.map fun b => ⟨[b], 0, 0⟩

theorem chunks_byteByByte (bytes : List UInt8) : (chunks (byteByByte bytes)).flatten = bytes := by
  induction bytes with
  | nil => rfl
  | cons b bytes ih => exact congrArg (b :: ·) ih

theorem inTime_byteByByte (bytes : List UInt8) : ∀ pre p post, byteByByte bytes = pre ++ p :: post →
    p.tickEnd < lastTick (pre ++ [p]) + 3 := by
  intro pre p post h
  have hp : p ∈ byteByByte bytes := by
    rw [h]
    simp
  obtain ⟨b, -, rfl⟩ := List.mem_map.1 hp
  exact Nat.lt_of_lt_of_le (Nat.succ_pos 2) (Nat.le_add_left 3 _)

theorem reads_byteByByte {n : ℕ} (hn : 1 ≤ n) (bytes : List UInt8) : Reads n bytes (byteByByte bytes) where
  stream := chunks_byteByByte bytes
  sizes := by
    intro p hp
    obtain ⟨b, -, rfl⟩ := List.mem_map.1 hp
    exact hn
  timely := fun pre p post hp _ => inTime_byteByByte bytes pre p post hp

/-- read byte by byte, only the frames that the whole stream has arrive -/
theorem delivered_byteByByte {mode : ConnectionMode} {bytes : List UInt8} {fs : List (List UInt8)}
    (h : Delivered mode (byteByByte bytes) fs) : (cutter.drain bytes).1.length = fs.length := by
  have hframes := ((delivered_iff mode (fun pre p post hp _ _ => inTime_byteByByte bytes pre p post hp) fs).1 h).2
  rw [chunks_byteByByte] at hframes
  simpa using congrArg List.length hframes

/-! ## Main result -/

variable {ι : Type*} [DecidableEq ι]

/-- the tasks take turns as `sched` says -/
def sent (messages : ι → List Message) (sched : List ι) : State ι Message ServerFrame :=
  Writers.run Message.pieces (start messages) sched

/-- the queue of the link after the pushes -/
def txQueue (mode : ConnectionMode) (st : State ι Message ServerFrame) : List ServerFrame :=
  st.queue.foldl pushTheFrameToTxQueue (fun _ => []) mode

/-- the bytes that go over the link -/
def linkBytes (mode : ConnectionMode) (st : State ι Message ServerFrame) : List UInt8 :=
  (txQueue mode st).flatMap ServerFrame.bytes

/-- the messages sent so far arrive, each task's in its order, however the reader's calls cut the stream -/
def Intact (mode : ConnectionMode) (n : ℕ) (messages : ι → List Message) (st : State ι Message ServerFrame) : Prop :=
  ∃ order : List (ι × Message), (∀ i, part i order ++ (st.writers i).items = messages i) ∧
    ∀ polls, Reads n (linkBytes mode st) polls → Delivered mode polls (order.map fun x => x.2.frame)

/-- tasks that send over one link, with messages that leave the reader room for `n` bytes -/
structure OnLink (mode : ConnectionMode) (n : ℕ) (messages : ι → List Message) : Prop where
  link : mode ≠ .modeInside
  mode : ∀ i, ∀ m ∈ messages i, m.s.connection_mode = mode
  room : ∀ i, ∀ m ∈ messages i, m.image.length + n ≤ NET_RX_FRAME_MAX_LEN
  chunk : 1 ≤ n ∧ n ≤ NET_RX_FRAME_MAX_LEN

section Sending

variable {mode : ConnectionMode} {n : ℕ} {messages : ι → List Message} (h : OnLink mode n messages)
include h

omit [DecidableEq ι] in
theorem OnLink.fits {i : ι} {m : Message} (hm : m ∈ messages i) : m.image.length ≤ NET_RX_FRAME_MAX_LEN :=
  (Nat.le_add_right _ _).trans (h.room i m hm)

/-- where whole messages are in the queue, they are on the link -/
theorem OnLink.linkBytes_whole {order : List (ι × Message)} {st : State ι Message ServerFrame}
    (hwhole : Whole Message.pieces messages order st) :
    linkBytes mode st = (order.map fun x => x.2.frame).flatMap image := by
  have hmem := Writers.mem_items hwhole
  have hmodes : ∀ f ∈ st.queue, f.connection_mode = mode := by
    intro f hf
    rw [hwhole.queue, written, List.mem_flatMap] at hf
    obtain ⟨x, hx, hf⟩ := hf
    rw [(x.2.pieces_spec (h.fits (hmem x hx))).2.2 f hf, h.mode x.1 x.2 (hmem x hx)]
  rw [linkBytes, txQueue, queue_pushed h.link _ _ hmodes, List.nil_append, hwhole.queue, written, List.flatMap_assoc,
    List.flatMap_map]
  exact List.flatMap_congr fun x hx => (x.2.pieces_spec (h.fits (hmem x hx))).1

theorem OnLink.intact_of_whole {order : List (ι × Message)} {st : State ι Message ServerFrame}
    (hwhole : Whole Message.pieces messages order st) : Intact mode n messages st := by
  have hmem := Writers.mem_items hwhole
  refine ⟨order, hwhole.parts, fun polls hpolls => ?_⟩
  rw [h.linkBytes_whole hwhole] at hpolls
  apply delivered_of_reads mode hpolls
  · intro f hf
    obtain ⟨x, -, rfl⟩ := List.mem_map.1 hf
    exact x.2.isFrame
  · intro f hf
    obtain ⟨x, hx, rfl⟩ := List.mem_map.1 hf
    exact h.room x.1 x.2 (hmem x hx)
  · exact h.chunk.2

/-- a schedule that mixes two messages -/
theorem OnLink.mixed {i j : ι} (hij : i ≠ j) {m : Message} (hm : m ∈ messages i)
    (hlong : ¬ m.image.length ≤ EC20_MAX_RECV_SEND_BUF_LEN) (hj : messages j ≠ []) :
    ∃ sched, Idle (sent messages sched) ∧
      ¬ Intact mode n messages (sent messages sched) := by
  obtain ⟨as, as', hi⟩ := List.append_of_mem hm
  obtain ⟨b, bs, hb⟩ := List.exists_cons_of_ne_nil hj
  obtain ⟨f, fs, hpieces, himage, hne, hne'⟩ := m.pieces_long (h.fits hm) hlong
  obtain ⟨sched, hidle, hqueue, hitems, hitems'⟩ := Writers.split_run hij hi hb hpieces
  rw [← sent] at hidle hqueue hitems hitems'
  refine ⟨sched, hidle, ?_⟩
  set st := sent messages sched
  have hbefore : ∀ a ∈ as, a ∈ messages i := fun a ha => by
    rw [hi]
    exact List.mem_append_left _ ha
  have hbj : b ∈ messages j := by
    rw [hb]
    exact List.mem_cons_self
  have hmodes : ∀ g ∈ st.queue, g.connection_mode = mode := by
    intro g hg
    rw [hqueue, ← List.cons_append, List.mem_append] at hg
    rcases hg with hg | hg
    · obtain ⟨a, ha, hg⟩ := List.mem_flatMap.1 hg
      rw [(a.pieces_spec (h.fits (hbefore a ha))).2.2 g hg, h.mode i a (hbefore a ha)]
    · have hsplit : g ∈ m.pieces ∨ g ∈ b.pieces := by
        rw [hpieces]
        simp only [List.cons_append, List.mem_cons, List.mem_append] at hg ⊢
        rcases hg with hg | hg | hg
        · exact Or.inl (Or.inl hg)
        · exact Or.inr hg
        · exact Or.inl (Or.inr hg)
      rcases hsplit with hg | hg
      · rw [(m.pieces_spec (h.fits hm)).2.2 g hg, h.mode i m hm]
      · rw [(b.pieces_spec (h.fits hbj)).2.2 g hg, h.mode j b hbj]
  have hbytes : linkBytes mode st =
      (as.map Message.frame).flatMap image ++ (f.bytes ++ (image b.frame ++ fs.flatMap ServerFrame.bytes)) := by
    rw [linkBytes, txQueue, queue_pushed h.link _ _ hmodes, List.nil_append, hqueue, List.flatMap_append,
      List.flatMap_cons, List.flatMap_append, (b.pieces_spec (h.fits hbj)).1, List.flatMap_assoc, List.flatMap_map]
    congr 1
    exact List.flatMap_congr fun a ha => (a.pieces_spec (h.fits (hbefore a ha))).1
  rintro ⟨order, hparts, hdelivered⟩
  have hcount := delivered_byteByByte (hdelivered _ (reads_byteByByte h.chunk.1 _))
  have hframes : ∀ g ∈ as.map Message.frame, IsFrame g := by
    intro g hg
    obtain ⟨a, -, rfl⟩ := List.mem_map.1 hg
    exact a.isFrame
  have hdrain := cutter.drain_append ((as.map Message.frame).flatMap image)
    (f.bytes ++ (image b.frame ++ fs.flatMap ServerFrame.bytes))
  rw [cutter.drain_encoded cutter_encodes _ hframes, List.nil_append] at hdrain
  rw [hbytes, hdrain, List.length_append, drain_split m.isFrame b.isFrame himage hne hne', List.length_map,
    List.length_map] at hcount
  -- two messages went into one frame
  have hi' : (part i order).length = as.length + 1 := by
    have hlen := congrArg List.length (hparts i)
    rw [hitems, hi] at hlen
    simp only [List.length_append, List.length_cons] at hlen
    omega
  have hj' : (part j order).length = 1 := by
    have hlen := congrArg List.length (hparts j)
    rw [hitems', hb] at hlen
    simp only [List.length_append, List.length_cons] at hlen
    omega
  have hboth := Writers.length_parts hij order
  omega

end Sending

/-- **Messages stay whole** in every interleaving of the tasks exactly when only one of them sends over the link, or
every message goes out in one fragment. -/
theorem intact_iff {mode : ConnectionMode} {n : ℕ} {messages : ι → List Message} (h : OnLink mode n messages) :
    (∀ sched, Idle (sent messages sched) →
      Intact mode n messages (sent messages sched)) ↔
        (∃ i, ∀ j, j ≠ i → messages j = []) ∨ ∀ i, ∀ m ∈ messages i, m.image.length ≤ EC20_MAX_RECV_SEND_BUF_LEN := by
  constructor
  · intro hall
    by_contra hnot
    obtain ⟨halone, hsingle⟩ := not_or.1 hnot
    simp only [not_forall] at hsingle
    obtain ⟨i, m, hm, hlong⟩ := hsingle
    simp only [not_exists, not_forall] at halone
    obtain ⟨j, hji, hj⟩ := halone i
    obtain ⟨sched, hidle, hmixed⟩ := h.mixed (Ne.symm hji) hm hlong hj
    exact hmixed (hall sched hidle)
  · rintro (⟨i, hothers⟩ | hsingle) sched hidle
    · obtain ⟨order, hwhole⟩ := Writers.whole_of_alone hothers sched hidle
      exact h.intact_of_whole hwhole
    · have hone : ∀ i, ∀ m ∈ messages i, ∃ f, Message.pieces m = [f] := fun i m hm => m.pieces_short (hsingle i m hm)
      obtain ⟨order, hwhole⟩ := Writers.whole_of_single hone sched hidle
      exact h.intact_of_whole hwhole

/-- a report of five letters -/
def fiveLetters : Message where
  s := longText 5
  ps := [longValue 5]
  heap := fun _ => 0
  heap' := fun _ => 0
  buildable := (longText_sendable (n := 5) (Nat.le_of_ble_eq_true rfl)).buildable
  start := rfl
  stop := rfl

theorem length_fiveLetters : fiveLetters.image.length = 36 := by
  obtain ⟨interior, hwire, hlen, hcount⟩ := @longText_wire 5 (by decide) (by decide +kernel)
  have hframe : fiveLetters.frame = frame interior := hwire
  rw [Message.image, hframe, image_frame, length_escaped, length_frame, hlen, hcount]

theorem onLink_fiveLetters : OnLink .mode4G 1536 fun _ : Bool => [fiveLetters] where
  link := by decide
  mode := by
    intro i m hm
    rw [List.mem_singleton.1 hm]
    rfl
  room := by
    intro i m hm
    rw [List.mem_singleton.1 hm, length_fiveLetters]
    decide
  chunk := by decide

theorem intact_two_tasks : fiveLetters.image.length = 36 ∧
    ∀ sched, Idle (sent (fun _ : Bool => [fiveLetters]) sched) →
      Intact .mode4G 1536 (fun _ : Bool => [fiveLetters]) (sent (fun _ : Bool => [fiveLetters]) sched) := by
  refine ⟨length_fiveLetters, (intact_iff onLink_fiveLetters).2 (Or.inr fun i m hm => ?_)⟩
  rw [List.mem_singleton.1 hm, length_fiveLetters]
  decide

end DataConcentrator.Protocol
