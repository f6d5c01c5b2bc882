/-
`RecvNetFrameAndPushToRxQueue` on any stream: room in `recv_buf`, and recovery after noise.

`run_refines` is about calls that find room and come in time. Here the calls are arbitrary.
- `run_room`, `run_no_room`: calls that always find room leave what `line` says; a chunk without room overruns `recv_buf`;
- `bounded_iff`: no append passes the end of `recv_buf` exactly when the bytes of no complete frame that arrived since the
  last silence always leave room for the next chunk;
- `recovers_iff`: the frames after noise are delivered exactly when the noise has no end mark in it and there is room.
-/
import DataConcentrator.Protocol.Receive

namespace DataConcentrator.Protocol

/-! ## The line -/

/-- what has come in: the frames completed before the last silence, the bytes since, the time of the last chunk -/
structure Line where
  done : List (List UInt8)
  bytes : List UInt8
  time : ℕ

/-- one call; it is silent when the last chunk came at least 3 s ago -/
def Line.next (l : Line) (p : Poll) : Line :=
  let time := lastArrival l.time p
  if p.tickEnd - time ≥ 3 then ⟨l.done ++ (cutter.drain (l.bytes ++ p.data)).1, [], time⟩
  else ⟨l.done, l.bytes ++ p.data, time⟩

def line (polls : List Poll) : Line := polls.foldl Line.next ⟨[], [], 0⟩

/-- the bytes that belong to no complete frame -/
def leftover (bytes : List UInt8) : List UInt8 := (cutter.drain bytes).2

/-- all complete frames -/
def Line.frames (l : Line) : List (List UInt8) := l.done ++ (cutter.drain l.bytes).1

theorem line_snoc (polls : List Poll) (p : Poll) : line (polls ++ [p]) = (line polls).next p := by
  simp [line, List.foldl_append]

theorem next_time (l : Line) (p : Poll) : (l.next p).time = lastArrival l.time p := by
  rw [Line.next]
  split_ifs <;> rfl

theorem next_frames (l : Line) (p : Poll) : (l.next p).frames = l.done ++ (cutter.drain (l.bytes ++ p.data)).1 := by
  rw [Line.next]
  split_ifs
  · simp [Line.frames, cutter.drain_nil]
  · rfl

/-- draining before a chunk comes does not matter -/
theorem drain_leftover (l : Line) (data : List UInt8) :
    l.frames ++ (cutter.drain (leftover l.bytes ++ data)).1 = l.done ++ (cutter.drain (l.bytes ++ data)).1 ∧
      (cutter.drain (leftover l.bytes ++ data)).2 = leftover (l.bytes ++ data) := by
  have happend := cutter.drain_append l.bytes data
  constructor
  · rw [happend, Line.frames, List.append_assoc]
    rfl
  · rw [leftover, leftover, happend]

theorem line_time (polls : List Poll) : (line polls).time = lastTick polls := by
  induction polls using List.reverseRecOn with
  | nil => rfl
  | append_singleton polls p ih =>
    rw [line_snoc, next_time, ih, lastTick, lastTick, List.foldl_append]
    rfl

/-! ## Room in the buffer -/

/-- at every call, what belongs to no complete frame leaves room for the chunk -/
def Room (polls : List Poll) : Prop :=
  ∀ pre p post, polls = pre ++ p :: post → (leftover (line pre).bytes).length + p.data.length ≤ NET_RX_FRAME_MAX_LEN

theorem room_snoc (polls : List Poll) (p : Poll) :
    Room (polls ++ [p]) ↔
      Room polls ∧ (leftover (line polls).bytes).length + p.data.length ≤ NET_RX_FRAME_MAX_LEN := by
  constructor
  · exact fun h => ⟨fun pre q post hq => h pre q (post ++ [p]) (by rw [hq]; simp), h polls p [] rfl⟩
  · rintro ⟨hpolls, hp⟩ pre q post hq
    rcases List.eq_nil_or_concat' post with rfl | ⟨post, r, rfl⟩
    · obtain ⟨rfl, hpq⟩ := List.append_inj' hq rfl
      rwa [← (List.cons.inj hpq).1]
    · rw [← List.cons_append, ← List.append_assoc] at hq
      exact hpolls pre q post (List.append_inj' hq rfl).1

/-- what a run with room leaves behind -/
structure Received (mode : ConnectionMode) (l : Line) (st : Recv) : Prop where
  pending : Pending st (leftover l.bytes)
  queue : st.queue = l.frames.map (frameOf mode)
  time : st.time_r = l.time

theorem received_step (mode : ConnectionMode) {l : Line} {st : Recv} (p : Poll) (h : Received mode l st)
    (hroom : (leftover l.bytes).length + p.data.length ≤ NET_RX_FRAME_MAX_LEN) :
    ∃ st', recvNetFrameAndPushToRxQueue mode st p = some st' ∧ Received mode (l.next p) st' := by
  obtain ⟨hframes, hleft⟩ := drain_leftover l p.data
  obtain ⟨st', hstep, hpend, hqueue, htime⟩ := poll_spec mode p h.pending (cutter.cut_leftover _) hroom
  rw [hleft, h.time] at hpend
  refine ⟨st', hstep, ?_, ?_, ?_⟩
  · rw [Line.next]
    by_cases hlate : p.tickEnd - lastArrival l.time p ≥ 3
    · -- silence: nothing is left, whether bytes were waiting or not
      rw [if_pos hlate]
      have hnil : (if leftover (l.bytes ++ p.data) ≠ [] ∧ p.tickEnd - lastArrival l.time p ≥ 3 then []
          else leftover (l.bytes ++ p.data)) = [] := by
        split_ifs with hc
        · rfl
        · by_contra hne
          exact hc ⟨hne, hlate⟩
      rwa [hnil] at hpend
    · rw [if_neg hlate]
      rwa [if_neg fun hc => hlate hc.2] at hpend
  · rw [hqueue, h.queue, next_frames, ← hframes, List.map_append]
  · rw [htime, h.time, next_time]

/-- **Calls with room.** -/
theorem run_room (mode : ConnectionMode) (polls : List Poll) (h : Room polls) :
    ∃ st, run mode .init polls = some st ∧ Received mode (line polls) st := by
  induction polls using List.reverseRecOn with
  | nil => exact ⟨.init, rfl, ⟨rfl, rfl⟩, rfl, rfl⟩
  | append_singleton polls p ih =>
    obtain ⟨hpolls, hp⟩ := (room_snoc polls p).1 h
    obtain ⟨st, hrun, hst⟩ := ih hpolls
    obtain ⟨st', hstep, hst'⟩ := received_step mode p hst hp
    refine ⟨st', ?_, ?_⟩
    · rw [run_snoc, hrun]
      exact hstep
    · rwa [line_snoc]

/-- **A chunk without room.** -/
theorem run_no_room (mode : ConnectionMode) (polls : List Poll) (h : ¬ Room polls) : run mode .init polls = none := by
  induction polls using List.reverseRecOn with
  | nil => exact absurd (fun pre p post hp => by simp at hp) h
  | append_singleton polls p ih =>
    rw [run_snoc]
    by_cases hpolls : Room polls
    · obtain ⟨st, hrun, hst⟩ := run_room mode polls hpolls
      rw [hrun]
      exact poll_overrun mode p hst.pending fun hp => h ((room_snoc polls p).2 ⟨hpolls, hp⟩)
    · rw [ih hpolls]
      rfl

/-- at every copy of a run `recv_pos` and the chunk stay within `recv_buf` -/
def Bounded (mode : ConnectionMode) (polls : List Poll) : Prop :=
  ∀ pre p post, polls = pre ++ p :: post →
    ∃ st, run mode .init pre = some st ∧ st.recv_pos + p.data.length ≤ NET_RX_FRAME_MAX_LEN

theorem room_of_bounded {mode : ConnectionMode} {polls : List Poll} (h : Bounded mode polls) : Room polls := by
  intro pre p post hp
  obtain ⟨st, hrun, hfits⟩ := h pre p post hp
  by_cases hroom : Room pre
  · obtain ⟨st', hrun', hst'⟩ := run_room mode pre hroom
    have hsame : st = st' := Option.some.inj (hrun.symm.trans hrun')
    rw [hsame, hst'.pending.pos] at hfits
    exact hfits
  · rw [run_no_room mode pre hroom] at hrun
    exact absurd hrun (by simp)

theorem bounded_of_room (mode : ConnectionMode) {polls : List Poll} (h : Room polls) : Bounded mode polls := by
  intro pre p post hp
  have hpre : Room pre := fun pre' q post' hq => h pre' q (post' ++ p :: post) (by rw [hp, hq]; simp)
  obtain ⟨st, hrun, hst⟩ := run_room mode pre hpre
  refine ⟨st, hrun, ?_⟩
  rw [hst.pending.pos]
  exact h pre p post hp

/-- **The bound of the receive buffer** holds in exactly the runs with room. -/
theorem bounded_iff (mode : ConnectionMode) (polls : List Poll) : Bounded mode polls ↔ Room polls :=
  ⟨room_of_bounded, bounded_of_room mode⟩

theorem leftover_no_start {bytes : List UInt8} (h : 0x02 ∉ bytes) : leftover bytes = bytes := by
  have hcut : cutter.cut bytes = none := by
    show cutFrame bytes = none
    rw [cutFrame, if_neg fun hc => h hc.1]
  rw [leftover, cutter.drain_none hcut]

/-- `k` chunks of `n` bytes each, with no mark in them -/
def flood (n k : ℕ) : List Poll := List.replicate k ⟨List.replicate n 0x41, 0, 0⟩

theorem line_flood (n k : ℕ) : (line (flood n k)).bytes = List.replicate (n * k) 0x41 ∧ (line (flood n k)).time = 0 := by
  induction k with
  | zero => exact ⟨rfl, rfl⟩
  | succ k ih =>
    obtain ⟨hbytes, htime⟩ := ih
    have htick : lastArrival 0 ⟨List.replicate n 0x41, 0, 0⟩ = 0 := by
      rw [lastArrival]
      split_ifs <;> rfl
    rw [flood, List.replicate_succ', line_snoc, ← flood, Line.next, htime, htick, hbytes]
    exact ⟨List.replicate_append_replicate, rfl⟩

/-- nothing of a flood is ever taken off the buffer -/
theorem room_flood {n k : ℕ} (h : Room (flood n (k + 1))) : n * k + n ≤ NET_RX_FRAME_MAX_LEN := by
  have hmark : (0x02 : UInt8) ∉ List.replicate (n * k) 0x41 := by
    intro hm
    have hbyte : (0x02 : UInt8) = 0x41 := List.eq_of_mem_replicate hm
    exact absurd hbyte (by decide)
  have hroom := h (flood n k) ⟨List.replicate n 0x41, 0, 0⟩ [] List.replicate_succ'
  rwa [(line_flood n k).1, leftover_no_start hmark, List.length_replicate, List.length_replicate] at hroom

/-- **Overrun**: with three full blocks of the FIFO the third is written to `recv_buf[3072..4608)`. -/
theorem flood_overruns : ¬ Bounded .modeEth (flood 1536 3) := by
  intro h
  have hroom : 1536 * 2 + 1536 ≤ NET_RX_FRAME_MAX_LEN := room_flood (room_of_bounded h)
  exact absurd hroom (by decide)

/-! ## Noise -/

/-- bytes without a mark are skipped -/
theorem cut_skip {noise : List UInt8} (h2 : 0x02 ∉ noise) (h3 : 0x03 ∉ noise) {bytes rest f : List UInt8}
    (h : cutter.cut bytes = some (f, rest)) : cutter.cut (noise ++ bytes) = some (f, rest) := by
  change cutFrame bytes = some (f, rest) at h
  show cutFrame (noise ++ bytes) = some (f, rest)
  unfold cutFrame at h ⊢
  split_ifs at h with hc
  obtain ⟨hm2, hm3, hlt⟩ := hc
  have hi2 : (noise ++ bytes).idxOf 0x02 = noise.length + bytes.idxOf 0x02 := List.idxOf_append_of_notMem h2
  have hi3 : (noise ++ bytes).idxOf 0x03 = noise.length + bytes.idxOf 0x03 := List.idxOf_append_of_notMem h3
  rw [hi2, hi3, if_pos ⟨List.mem_append_right _ hm2, List.mem_append_right _ hm3, by omega⟩, Nat.add_assoc,
    Nat.add_sub_add_left, List.drop_length_add_append, List.drop_length_add_append]
  exact congrArg some (Option.some.inj h)

/-- an end mark with no start mark before it stays in front of everything that follows -/
theorem cut_stuck {noise : List UInt8} (h2 : 0x02 ∉ noise) (h3 : 0x03 ∈ noise) (bytes : List UInt8) :
    cutter.cut (noise ++ bytes) = none := by
  show cutFrame (noise ++ bytes) = none
  have hi2 : (noise ++ bytes).idxOf 0x02 = noise.length + bytes.idxOf 0x02 := List.idxOf_append_of_notMem h2
  have hi3 : (noise ++ bytes).idxOf 0x03 = noise.idxOf 0x03 := List.idxOf_append_of_mem h3
  have hlt := List.idxOf_lt_length_of_mem h3
  rw [cutFrame, if_neg]
  rintro ⟨-, -, hc⟩
  rw [hi2, hi3] at hc
  omega

/-- noise and the frame after it, as they come over the line -/
def noisy (part : List UInt8 × List UInt8) : List UInt8 := part.1 ++ image part.2

/-- noise without a start mark before a frame -/
def IsPart (part : List UInt8 × List UInt8) : Prop := 0x02 ∉ part.1 ∧ IsFrame part.2

theorem drain_clean {rest : List UInt8} (hrest : 0x03 ∉ rest) (parts : List (List UInt8 × List UInt8))
    (hparts : ∀ q ∈ parts, IsPart q) (hclean : ∀ q ∈ parts, 0x03 ∉ q.1) :
    (cutter.drain (parts.flatMap noisy ++ rest)).1 = parts.map Prod.snd := by
  induction parts with
  | nil =>
    have hcut : cutter.cut rest = none := by
      show cutFrame rest = none
      rw [cutFrame, if_neg fun hc => hrest hc.2.1]
    rw [List.flatMap_nil, List.nil_append, cutter.drain_none hcut]
    rfl
  | cons q parts ih =>
    obtain ⟨hstart, hframe⟩ := hparts q (by simp)
    have hcut := cut_skip hstart (hclean q (by simp)) (cutter_encodes.whole q.2 (parts.flatMap noisy ++ rest) hframe)
    rw [List.flatMap_cons, noisy, List.append_assoc, List.append_assoc, cutter.drain_some hcut,
      ih (fun r hr => hparts r (List.mem_cons_of_mem q hr)) fun r hr => hclean r (List.mem_cons_of_mem q hr)]
    rfl

theorem drain_stuck {rest : List UInt8} (parts : List (List UInt8 × List UInt8)) (hparts : ∀ q ∈ parts, IsPart q)
    (hstuck : ∃ q ∈ parts, 0x03 ∈ q.1) : (cutter.drain (parts.flatMap noisy ++ rest)).1.length < parts.length := by
  induction parts with
  | nil => simp at hstuck
  | cons q parts ih =>
    obtain ⟨hstart, hframe⟩ := hparts q (by simp)
    rw [List.flatMap_cons, noisy, List.append_assoc, List.append_assoc]
    by_cases hq : 0x03 ∈ q.1
    · rw [cutter.drain_none (cut_stuck hstart hq _)]
      exact Nat.succ_pos _
    · have hlater : ∃ r ∈ parts, 0x03 ∈ r.1 := by
        obtain ⟨r, hr, h3⟩ := hstuck
        rcases List.mem_cons.1 hr with rfl | hr
        · exact absurd h3 hq
        · exact ⟨r, hr, h3⟩
      have hcut := cut_skip hstart hq (cutter_encodes.whole q.2 (parts.flatMap noisy ++ rest) hframe)
      rw [cutter.drain_some hcut]
      exact Nat.succ_lt_succ (ih (fun r hr => hparts r (List.mem_cons_of_mem q hr)) hlater)

/-! ## Chunks in time -/

/-- once bytes have arrived, the calls before the last chunk come within 3 s of the chunk before them -/
def InTime (polls : List Poll) : Prop :=
  ∀ pre p post, polls = pre ++ p :: post → (chunks (pre ++ [p])).flatten ≠ [] → (chunks post).flatten ≠ [] →
    p.tickEnd < lastTick (pre ++ [p]) + 3

theorem flatten_snoc (polls : List Poll) (p : Poll) :
    (chunks (polls ++ [p])).flatten = (chunks polls).flatten ++ p.data := by
  rw [chunks_snoc, List.flatten_append, List.flatten_singleton]

theorem lastTick_snoc (polls : List Poll) (p : Poll) : lastTick (polls ++ [p]) = lastArrival (lastTick polls) p := by
  simp [lastTick, List.foldl_append]

/-- no silence once bytes have arrived -/
theorem line_unbroken (polls : List Poll)
    (h : ∀ pre p post, polls = pre ++ p :: post → (chunks (pre ++ [p])).flatten ≠ [] →
      p.tickEnd < lastTick (pre ++ [p]) + 3) :
    (line polls).done = [] ∧ (line polls).bytes = (chunks polls).flatten := by
  induction polls using List.reverseRecOn with
  | nil => exact ⟨rfl, rfl⟩
  | append_singleton polls p ih =>
    obtain ⟨hdone, hbytes⟩ := ih fun pre q post hq => h pre q (post ++ [p]) (by rw [hq]; simp)
    have hp := h polls p [] rfl
    rw [lastTick_snoc] at hp
    rw [line_snoc, Line.next, line_time, hdone, hbytes, ← flatten_snoc]
    split_ifs with hlate
    · -- only before the first byte
      have hnone : (chunks (polls ++ [p])).flatten = [] := by
        by_contra hne
        have := hp hne
        omega
      rw [hnone]
      exact ⟨rfl, rfl⟩
    · exact ⟨rfl, rfl⟩

/-- **In time, silence breaks nothing**: the frames are those of the whole stream. -/
theorem line_frames (polls : List Poll) (h : InTime polls) :
    (line polls).frames = (cutter.drain (chunks polls).flatten).1 := by
  induction polls using List.reverseRecOn with
  | nil => rfl
  | append_singleton polls p ih =>
    rw [line_snoc, next_frames, flatten_snoc]
    by_cases hdata : p.data = []
    · have hpolls : InTime polls := by
        intro pre q post hq hpre hpost
        refine h pre q (post ++ [p]) (by rw [hq]; simp) hpre ?_
        rwa [flatten_snoc, hdata, List.append_nil]
      rw [hdata, List.append_nil, List.append_nil]
      exact ih hpolls
    · obtain ⟨hdone, hbytes⟩ := line_unbroken polls fun pre q post hq hpre =>
        h pre q (post ++ [p]) (by rw [hq]; simp) hpre (by rw [flatten_snoc]; simp [hdata])
      rw [hdone, hbytes, List.nil_append]

/-! ## Recovery -/

/-- the calls deliver frames with noise before them, in time, and then bytes without an end mark -/
structure Noisy (parts : List (List UInt8 × List UInt8)) (rest : List UInt8) (polls : List Poll) : Prop where
  isPart : ∀ q ∈ parts, IsPart q
  unended : 0x03 ∉ rest
  stream : (chunks polls).flatten = parts.flatMap noisy ++ rest
  time : InTime polls

/-- the queue receives the frames `fs` -/
def Delivered (mode : ConnectionMode) (polls : List Poll) (fs : List (List UInt8)) : Prop :=
  ∃ st, run mode .init polls = some st ∧ st.queue = fs.map (frameOf mode)

/-- frames arrive only where the whole stream has them, and only with room -/
theorem delivered_iff (mode : ConnectionMode) {polls : List Poll} (h : InTime polls) (fs : List (List UInt8)) :
    Delivered mode polls fs ↔
      Room polls ∧ (cutter.drain (chunks polls).flatten).1.map (frameOf mode) = fs.map (frameOf mode) := by
  constructor
  · rintro ⟨st, hrun, hqueue⟩
    by_cases hroom : Room polls
    · obtain ⟨st', hrun', hst'⟩ := run_room mode polls hroom
      have hsame : st = st' := Option.some.inj (hrun.symm.trans hrun')
      rw [hsame, hst'.queue, line_frames polls h] at hqueue
      exact ⟨hroom, hqueue⟩
    · rw [run_no_room mode polls hroom] at hrun
      exact absurd hrun (by simp)
  · rintro ⟨hroom, hframes⟩
    obtain ⟨st, hrun, hst⟩ := run_room mode polls hroom
    exact ⟨st, hrun, by rw [hst.queue, line_frames polls h, hframes]⟩

/-- **Recovery after noise.** The frames are delivered, each once and in order, exactly when no end mark comes before a
start mark and the buffer has room. -/
theorem recovers_iff (mode : ConnectionMode) {parts : List (List UInt8 × List UInt8)} {rest : List UInt8}
    {polls : List Poll} (h : Noisy parts rest polls) :
    Delivered mode polls (parts.map Prod.snd) ↔ (∀ q ∈ parts, 0x03 ∉ q.1) ∧ Room polls := by
  rw [delivered_iff mode h.time, h.stream]
  constructor
  · rintro ⟨hroom, hframes⟩
    refine ⟨fun q hq h3 => ?_, hroom⟩
    have hlt := @drain_stuck rest parts h.isPart ⟨q, hq, h3⟩
    have hlen := congrArg List.length hframes
    rw [List.length_map, List.length_map, List.length_map] at hlen
    omega
  · rintro ⟨hclean, hroom⟩
    exact ⟨hroom, by rw [drain_clean h.unended parts h.isPart hclean]⟩

/-- one chunk: `noise`, then a frame with `0x41` in it -/
def afterNoise (noise : List UInt8) : List Poll := [⟨noise ++ [0x02, 0x41, 0x03], 0, 0⟩]

theorem noisy_afterNoise {noise : List UInt8} (h : 0x02 ∉ noise) : Noisy [(noise, frame [0x41])] [] (afterNoise noise) where
  isPart := by
    intro q hq
    rw [List.mem_singleton.1 hq]
    exact ⟨h, [0x41], rfl⟩
  unended := by simp
  stream := by simp [chunks, afterNoise, noisy, image_frame, escaped, escape]
  time := by
    intro pre p post hp hpre hpost
    rcases pre with _ | ⟨q, pre⟩
    · rw [← (List.cons.inj hp).2] at hpost
      exact absurd rfl hpost
    · exact absurd (List.cons.inj hp).2 (by simp)

theorem room_one {p : Poll} (h : p.data.length ≤ NET_RX_FRAME_MAX_LEN) : Room [p] := by
  have hsnoc := (room_snoc [] p).2 ⟨fun pre q post hq => by simp at hq, by rw [show leftover _ = [] from rfl]; simpa using h⟩
  exact hsnoc

theorem recovers_from_one_byte : Delivered .modeEth (afterNoise [0x41]) [frame [0x41]] :=
  (recovers_iff .modeEth (noisy_afterNoise (by decide))).2 ⟨by decide, room_one (by decide)⟩

/-- **No recovery**: a stray end mark before the frame keeps it in the buffer until it is dropped. -/
theorem lost_after_end_mark : ¬ Delivered .modeEth (afterNoise [0x03]) [frame [0x41]] := by
  have hpart := @noisy_afterNoise [0x03] (by decide)
  intro h
  obtain ⟨-, hframes⟩ := (delivered_iff .modeEth hpart.time _).1 h
  exact absurd (congrArg List.length hframes) (by decide)

end DataConcentrator.Protocol
