/-
What the modem sends in one burst, and whether each part of it gets where it belongs.

- `handled_of_noticesFirst`: notices, and behind them answers, are all handled as long as the answers fit `ring_fifo1`;
- `not_handled_of_answer_first`: an answer before a notice takes the place of its datagram;
- `not_handled_of_long`: a burst that ends in an answer and fills `ring_fifo1` leaves nothing to read there;
- `receive_iff`: for any answers and any sizes of the notices, all bursts are handled exactly when no answer stands
  before a notice and a burst with an answer is short; for any bytes at all, the loop ends inside its buffers exactly
  when the walk of the length fields is sound and does not come back;
- `misreading`: an answer before a notice of one byte, and a length field that leads the loop back to where it is.
-/
import DataConcentrator.Modem.Notices

namespace DataConcentrator.Modem

open DataConcentrator.Memory

/-! ## Bursts -/

/-- a part of a burst -/
inductive Segment where
  | response (text : List UInt8)
  | notice (payload : List UInt8)
deriving DecidableEq

def Segment.bytes : Segment → List UInt8
  | .response text => text
  | .notice payload => Modem.notice payload

def Segment.isNotice : Segment → Bool
  | .response _ => false
  | .notice _ => true

/-- the segment with zeros for its payload -/
def Segment.zeroed : Segment → Segment
  | .response text => .response text
  | .notice payload => .notice (List.replicate payload.length 0)

def burst (segs : List Segment) : List UInt8 := segs.flatMap Segment.bytes

def responses (segs : List Segment) : List (List UInt8) :=
  segs.filterMap fun | .response text => some text | .notice _ => none

def payloads (segs : List Segment) : List (List UInt8) :=
  segs.filterMap fun | .response _ => none | .notice payload => some payload

/-- the answers are texts of at most 511 bytes with nothing unsolicited in them, the payloads have 1 to 1500 bytes; the
burst fits `rx_fifo`, and the FIFO has as many blocks as it has notices -/
structure WellFormed (segs : List Segment) : Prop where
  texts : ∀ r ∈ responses segs, r ≠ [] ∧ 0 ∉ r
  solicited : ¬ qiurc <:+: (responses segs).flatten
  total : (responses segs).flatten.length ≤ 511
  sizes : ∀ n ∈ (payloads segs).map List.length, 1 ≤ n ∧ n ≤ 1500
  fits : (burst segs).length ≤ NET_BUF_MAX_LEN
  blocks : (payloads segs).length ≤ dl_buf.num

/-- `ringbuf_clear` was the last to write to `rx_fifo` -/
def Cleared (s : St) : Prop :=
  s.ringFifo.getPtr = 0 ∧ s.ringFifo.data.take (NET_BUF_MAX_LEN - 1) = List.replicate (NET_BUF_MAX_LEN - 1) 0

/-- the interrupt ends without a write past its buffers; the payloads are in the FIFO, each once and in their order, and
every answer is in `ring_fifo1` -/
def Handled (segs : List Segment) (s : St) : Prop :=
  ∃ fuel t, receive fuel s (burst segs) = some (.ok t) ∧ taken s.dlBuf t.dlBuf = payloads segs ∧
    (responses segs ≠ [] → t.rspOk = 1 ∧ ∀ r ∈ responses segs, r <:+: contents t.ringFifo1)

/-- no answer stands before a notice -/
def NoticesFirst (segs : List Segment) : Prop := segs.Pairwise fun a b => b.isNotice = true → a.isNotice = true

/-! ## The parts of a burst -/

/-- notices, then answers, then nothing or a notice -/
theorem exists_parts (segs : List Segment) : ∃ (ps rs : List (List UInt8)) (tl : List Segment),
    segs = ps.map .notice ++ (rs.map .response ++ tl) ∧ (tl = [] ∨ rs ≠ [] ∧ ∃ p tl', tl = .notice p :: tl') := by
  induction segs with
  | nil => exact ⟨[], [], [], rfl, Or.inl rfl⟩
  | cons seg segs ih =>
    obtain ⟨ps, rs, tl, rfl, htl⟩ := ih
    cases seg with
    | notice p => exact ⟨p :: ps, rs, tl, rfl, htl⟩
    | response r =>
      cases ps with
      | nil =>
        refine ⟨[], r :: rs, tl, rfl, ?_⟩
        rcases htl with htl | ⟨-, htl⟩
        · exact Or.inl htl
        · exact Or.inr ⟨List.cons_ne_nil r rs, htl⟩
      | cons p ps =>
        exact ⟨[], [r], _, rfl, Or.inr ⟨List.cons_ne_nil r [], p, _, rfl⟩⟩

theorem responses_append (xs ys : List Segment) : responses (xs ++ ys) = responses xs ++ responses ys :=
  List.filterMap_append

theorem payloads_append (xs ys : List Segment) : payloads (xs ++ ys) = payloads xs ++ payloads ys :=
  List.filterMap_append

theorem burst_append (xs ys : List Segment) : burst (xs ++ ys) = burst xs ++ burst ys := List.flatMap_append

@[simp] theorem responses_notices (ps : List (List UInt8)) : responses (ps.map .notice) = [] := by
  rw [responses, List.filterMap_map]
  exact List.filterMap_eq_nil_iff.2 fun _ _ => rfl

@[simp] theorem responses_responses (rs : List (List UInt8)) : responses (rs.map .response) = rs := by
  rw [responses, List.filterMap_map]
  exact List.filterMap_some

@[simp] theorem payloads_notices (ps : List (List UInt8)) : payloads (ps.map .notice) = ps := by
  rw [payloads, List.filterMap_map]
  exact List.filterMap_some

@[simp] theorem payloads_responses (rs : List (List UInt8)) : payloads (rs.map .response) = [] := by
  rw [payloads, List.filterMap_map]
  exact List.filterMap_eq_nil_iff.2 fun _ _ => rfl

@[simp] theorem burst_notices (ps : List (List UInt8)) : burst (ps.map .notice) = ps.flatMap notice := by
  rw [burst, List.flatMap_map]
  rfl

@[simp] theorem burst_responses (rs : List (List UInt8)) : burst (rs.map .response) = rs.flatten := by
  rw [burst, List.flatMap_map]
  exact List.flatMap_id

theorem noticesFirst_parts (ps rs : List (List UInt8)) : NoticesFirst (ps.map .notice ++ rs.map .response) := by
  rw [NoticesFirst, List.pairwise_append, List.pairwise_map, List.pairwise_map]
  refine ⟨List.pairwise_of_forall fun _ _ _ => rfl, List.pairwise_of_forall fun _ _ h => absurd h Bool.false_ne_true, ?_⟩
  intro a ha b _ _
  obtain ⟨p, -, rfl⟩ := List.mem_map.1 ha
  rfl

theorem not_noticesFirst (ps : List (List UInt8)) {rs : List (List UInt8)} (hne : rs ≠ []) (p : List UInt8)
    (tl : List Segment) : ¬ NoticesFirst (ps.map .notice ++ (rs.map .response ++ .notice p :: tl)) := by
  intro h
  rw [NoticesFirst, List.pairwise_append, List.pairwise_append] at h
  obtain ⟨r, rs, rfl⟩ := List.exists_cons_of_ne_nil hne
  exact absurd (h.2.1.2.2 (.response r) List.mem_cons_self (.notice p) List.mem_cons_self rfl) Bool.false_ne_true

/-! ## Bursts with the same answers and sizes -/

theorem responses_zeroed (segs : List Segment) : responses (segs.map Segment.zeroed) = responses segs := by
  rw [responses, List.filterMap_map]
  refine List.filterMap_congr fun seg _ => ?_
  cases seg <;> rfl

theorem payloads_zeroed (segs : List Segment) :
    payloads (segs.map Segment.zeroed) = (payloads segs).map fun p => List.replicate p.length 0 := by
  rw [payloads, payloads, List.filterMap_map, List.map_filterMap]
  refine List.filterMap_congr fun seg _ => ?_
  cases seg <;> rfl

theorem sizes_zeroed (segs : List Segment) :
    (payloads (segs.map Segment.zeroed)).map List.length = (payloads segs).map List.length := by
  rw [payloads_zeroed, List.map_map]
  exact List.map_congr_left fun p _ => List.length_replicate

theorem length_burst_zeroed (segs : List Segment) : (burst (segs.map Segment.zeroed)).length = (burst segs).length := by
  rw [burst, burst, List.length_flatMap, List.length_flatMap, List.map_map]
  refine congrArg List.sum (List.map_congr_left fun seg _ => ?_)
  cases seg with
  | response text => rfl
  | notice payload =>
    show (notice (List.replicate payload.length 0)).length = (notice payload).length
    rw [length_notice, length_notice, List.length_replicate]

theorem noticesFirst_zeroed (segs : List Segment) : NoticesFirst (segs.map Segment.zeroed) ↔ NoticesFirst segs := by
  have hkind : ∀ seg : Segment, seg.zeroed.isNotice = seg.isNotice := fun seg => by cases seg <;> rfl
  rw [NoticesFirst, List.pairwise_map, NoticesFirst]
  simp only [hkind]

theorem zeroed_zeroed (segs : List Segment) : (segs.map Segment.zeroed).map Segment.zeroed = segs.map Segment.zeroed := by
  rw [List.map_map]
  refine List.map_congr_left fun seg _ => ?_
  cases seg with
  | response text => rfl
  | notice payload =>
    show Segment.notice (List.replicate (List.replicate payload.length 0).length 0) = .notice (List.replicate payload.length 0)
    rw [List.length_replicate]

theorem WellFormed.of_zeroed {segs segs' : List Segment} (h : segs'.map Segment.zeroed = segs.map Segment.zeroed)
    (hw : WellFormed segs) : WellFormed segs' := by
  have hresponses : responses segs' = responses segs := by rw [← responses_zeroed, h, responses_zeroed]
  have hsizes : (payloads segs').map List.length = (payloads segs).map List.length := by
    rw [← sizes_zeroed, h, sizes_zeroed]
  have hburst : (burst segs').length = (burst segs).length := by rw [← length_burst_zeroed, h, length_burst_zeroed]
  have hcount : (payloads segs').length = (payloads segs).length := by
    rw [← List.length_map List.length, hsizes, List.length_map]
  constructor
  · rw [hresponses]
    exact hw.texts
  · rw [hresponses]
    exact hw.solicited
  · rw [hresponses]
    exact hw.total
  · rw [hsizes]
    exact hw.sizes
  · rw [hburst]
    exact hw.fits
  · rw [hcount]
    exact hw.blocks

/-! ## Notices first -/

/-- the loop after the notices a burst begins with -/
theorem run_notices {s : St} {ps : List (List UInt8)} {rest more : List UInt8} (hsizes : ∀ p ∈ ps, p.length ≤ 1500)
    (hmem : s.memory = ps.flatMap notice ++ (rest ++ more))
    (hput : s.ringFifo.putPtr.toNat = (ps.flatMap notice).length + rest.length)
    (hmax : s.ringFifo.putPtr.toNat ≤ NET_BUF_MAX_LEN) (hrest : ps = [] ∨ rest ≠ []) (fuel : ℕ) :
    analysisLoop (ps.length + fuel) s 0 =
      analysisLoop fuel { s with dlBuf := putAll dl_buf s.dlBuf ps } (UInt16.ofNat (ps.flatMap notice).length) := by
  rcases hrest with rfl | hrest
  · rw [List.length_nil, Nat.zero_add]
    rfl
  · have hpos : 0 < rest.length := List.length_pos_iff.2 hrest
    have hrun := analysisLoop_notices ps hsizes fuel s 0 (rest ++ more) (by rw [hmem, List.drop_zero]) (by omega) hmax
    rw [Nat.zero_add] at hrun
    exact hrun

theorem taken_payloads {blocks : List Block} {ps : List (List UInt8)} (hsizes : ∀ p ∈ ps, p.length ≤ 1500)
    (hfree : ps.length ≤ freeBlocks blocks) : taken blocks (putAll dl_buf blocks ps) = ps := by
  have hwhole : ps.map (·.take dl_buf.maxlen) = ps := by
    rw [← List.map_id ps, List.map_map]
    refine List.map_congr_left fun p hp => List.take_of_length_le ((hsizes p hp).trans ?_)
    decide
  rw [taken_putAll, hwhole, List.take_of_length_le hfree]

theorem elements_ringFifo {s : St} (h : s.ringFifo.getPtr = 0) :
    ringbufElements s.ringFifo = s.ringFifo.putPtr.toNat % 4096 :=
  ringbufElements_of_get_zero (k := 12) (by omega) rfl h

theorem elements_ringFifo1 {ringFifo1 : RingBuf CMD_BUF_MAX_LEN} (h : ringFifo1.getPtr = 0) :
    ringbufElements ringFifo1 = ringFifo1.putPtr.toNat % 512 :=
  ringbufElements_of_get_zero (k := 9) (by omega) rfl h

theorem contents_ringFifo1 {ringFifo1 : RingBuf CMD_BUF_MAX_LEN} {n : ℕ} (hget : ringFifo1.getPtr = 0)
    (hput : ringFifo1.putPtr.toNat = n) (hn : n < CMD_BUF_MAX_LEN) : contents ringFifo1 = ringFifo1.data.take n := by
  have hzero : ringFifo1.getPtr.toNat = 0 := congrArg UInt16.toNat hget
  have hcount : ringbufElements ringFifo1 = n := by
    rw [elements_ringFifo1 hget, hput]
    exact Nat.mod_eq_of_lt hn
  have hall : drain n ringFifo1 = (ringFifo1.data.drop ringFifo1.getPtr.toNat).take n :=
    contents_eq (k := 9) (by omega) rfl n ringFifo1 (by omega) (hput.trans_lt hn)
  rw [contents, hcount, hall, hzero, List.drop_zero]

/-- answers behind the notices, in a short burst, are copied to `ring_fifo1` -/
theorem analysisLoop_answers {s : St} {ps : List (List UInt8)} {answers more : List UInt8}
    (hsizes : ∀ p ∈ ps, p.length ≤ 1500) (hrest : ps = [] ∨ answers ≠ [])
    (hmem : s.memory = ps.flatMap notice ++ (answers ++ 0 :: more))
    (hput : s.ringFifo.putPtr.toNat = (ps.flatMap notice ++ answers).length)
    (hshort : (ps.flatMap notice ++ answers).length ≤ 511) (hget : s.ringFifo.getPtr = 0)
    (h0 : 0 ∉ answers) (hsolicited : ¬ qiurc <:+: answers) :
    ∃ fuel t, analysisLoop fuel s 0 = some (.ok t) ∧ t.dlBuf = putAll dl_buf s.dlBuf ps ∧ t.rspOk = 1 ∧
      contents t.ringFifo1 = ps.flatMap notice ++ answers := by
  have hmax : NET_BUF_MAX_LEN = 4096 := rfl
  have hcmd : CMD_BUF_MAX_LEN = 512 := rfl
  have hlen := hput
  rw [List.length_append] at hput
  have hrun := run_notices hsizes hmem hput (by omega) hrest 1
  have hpos : (UInt16.ofNat (ps.flatMap notice).length).toNat = (ps.flatMap notice).length :=
    toNat_ofNat_of_le (by omega)
  have helements : ringbufElements s.ringFifo = (ps.flatMap notice ++ answers).length := by
    rw [elements_ringFifo hget, hlen]
    exact Nat.mod_eq_of_lt (by omega)
  have hresponse : IsResponse s.memory (UInt16.ofNat (ps.flatMap notice).length) := by
    rw [IsResponse, textAt, hpos, hmem, List.drop_left, cstr_append h0]
    rw [show cstr (0 :: more) = [] from rfl, List.append_nil]
    exact hsolicited
  rcases analysis_response (s := { s with dlBuf := putAll dl_buf s.dlBuf ps }) hresponse with
    ⟨ringFifo1, hround, hget1, hput1, hdata⟩ | ⟨-, hlong⟩
  · refine ⟨ps.length + 1, { s with
      dlBuf := putAll dl_buf s.dlBuf ps
      rspOk := 1
      ringFifo1 := ringFifo1
      ringFifo := ringbufClear s.ringFifo }, ?_, rfl, rfl, ?_⟩
    · rw [hrun, analysisLoop, hround]
    · have hput1' : ringFifo1.putPtr.toNat = (ps.flatMap notice ++ answers).length := by
        rw [hput1]
        exact hlen
      obtain ⟨rest, hrest⟩ := hdata
      change bytesAt s.memory 0 (ringbufElements s.ringFifo) ++ rest = _ at hrest
      have hbytes : bytesAt s.memory 0 (ringbufElements s.ringFifo) = ps.flatMap notice ++ answers := by
        rw [helements, bytesAt, List.drop_zero, hmem, ← List.append_assoc, List.append_assoc _ (0 :: more), List.take_left]
      show contents ringFifo1 = _
      rw [contents_ringFifo1 (hget1.trans hget) hput1' (by omega), ← hrest, hbytes, List.take_left]
  · change _ < ringbufElements s.ringFifo at hlong
    omega

theorem flatten_ne_nil {rs : List (List UInt8)} (htexts : ∀ r ∈ rs, r ≠ [] ∧ 0 ∉ r) (hne : rs ≠ []) :
    rs.flatten ≠ [] := by
  intro hnil
  obtain ⟨r, rs, rfl⟩ := List.exists_cons_of_ne_nil hne
  exact (htexts r List.mem_cons_self).1 (List.flatten_eq_nil_iff.1 hnil r List.mem_cons_self)

theorem not_mem_flatten {rs : List (List UInt8)} (htexts : ∀ r ∈ rs, r ≠ [] ∧ 0 ∉ r) : 0 ∉ rs.flatten := by
  intro h
  obtain ⟨r, hr, h0⟩ := List.mem_flatten.1 h
  exact (htexts r hr).2 h0

/-- `rx_fifo` behind a short burst -/
theorem drop_cleared {s : St} (h : Cleared s) {k : ℕ} (hk : k < NET_BUF_MAX_LEN - 1) :
    ∃ more, s.ringFifo.data.drop k = 0 :: more := by
  have hlen : k < s.ringFifo.data.length := by
    rw [s.ringFifo.length_data]
    omega
  have hbyte : s.ringFifo.data[k] = 0 := by
    have htake : (s.ringFifo.data.take (NET_BUF_MAX_LEN - 1))[k]? = some 0 := by
      rw [h.2]
      exact List.getElem?_replicate_of_lt hk
    rw [List.getElem?_take_of_lt hk, List.getElem?_eq_getElem hlen] at htake
    exact Option.some.inj htake
  exact ⟨s.ringFifo.data.drop (k + 1), by rw [List.drop_eq_getElem_cons hlen, hbyte]⟩

/-- **Notices first.** Notices, and behind them answers, are handled as long as a burst with answers is short. -/
theorem handled_of_noticesFirst {ps rs : List (List UInt8)} (hsizes : ∀ p ∈ ps, p.length ≤ 1500)
    (htexts : ∀ r ∈ rs, r ≠ [] ∧ 0 ∉ r) (hsolicited : ¬ qiurc <:+: rs.flatten)
    (hfits : (ps.flatMap notice ++ rs.flatten).length ≤ NET_BUF_MAX_LEN)
    (hshort : rs ≠ [] → (ps.flatMap notice ++ rs.flatten).length ≤ 511) {s : St} (hs : Cleared s)
    (hfree : ps.length ≤ freeBlocks s.dlBuf) : Handled (ps.map .notice ++ rs.map .response) s := by
  have hpayloads : payloads (ps.map .notice ++ rs.map .response) = ps := by
    rw [payloads_append, payloads_notices, payloads_responses, List.append_nil]
  have hresponses : responses (ps.map .notice ++ rs.map .response) = rs := by
    rw [responses_append, responses_notices, responses_responses, List.nil_append]
  have hburst : burst (ps.map .notice ++ rs.map .response) = ps.flatMap notice ++ rs.flatten := by
    rw [burst_append, burst_notices, burst_responses]
  have hput := putPtr_received s hfits
  have hmem := memory_received s hfits
  rw [Handled, hpayloads, hresponses, hburst]
  by_cases hlast : rs = [] ∧ ps ≠ []
  · -- the last notice ends the burst
    obtain ⟨rfl, hne⟩ := hlast
    rw [List.flatten_nil, List.append_nil] at hfits hput hmem ⊢
    refine ⟨ps.length, _, (receive_eq _ _ _).trans (analysisLoop_only_notices hne hsizes hmem hput (by omega)), ?_,
      fun h => absurd rfl h⟩
    exact taken_payloads hsizes hfree
  · have hlen : (ps.flatMap notice ++ rs.flatten).length ≤ 511 := by
      by_cases hnil : rs = []
      · have hps : ps = [] := by_contra fun hps => hlast ⟨hnil, hps⟩
        rw [hnil, hps]
        exact Nat.zero_le _
      · exact hshort hnil
    have hrest : ps = [] ∨ rs.flatten ≠ [] := by
      by_cases hrs : rs = []
      · exact Or.inl (by_contra fun hps => hlast ⟨hrs, hps⟩)
      · exact Or.inr (flatten_ne_nil htexts hrs)
    obtain ⟨more, hmore⟩ := drop_cleared hs (k := (ps.flatMap notice ++ rs.flatten).length) (by
      show _ < 4095
      omega)
    rw [hmore, List.cons_append, List.append_assoc] at hmem
    obtain ⟨fuel, t, hrun, hblocks, hok, hcontents⟩ :=
      analysisLoop_answers hsizes hrest hmem hput hlen hs.1 (not_mem_flatten htexts) hsolicited
    refine ⟨fuel, t, (receive_eq _ _ _).trans hrun, ?_, fun _ => ⟨hok, fun r hr => ?_⟩⟩
    · rw [hblocks]
      exact taken_payloads hsizes hfree
    · obtain ⟨xs, ys, rfl⟩ := List.append_of_mem hr
      rw [hcontents]
      exact ⟨ps.flatMap notice ++ xs.flatten, ys.flatten, by simp [List.append_assoc]⟩

/-! ## What goes wrong -/

theorem putAll_append (m : Memb) (blocks : List Block) (xs ys : List (List UInt8)) :
    putAll m (putAll m blocks xs) ys = putAll m blocks (xs ++ ys) := (List.foldl_append).symm

/-- the notice of a payload of zeros -/
theorem notice_zeros {n : ℕ} (hn : 1 ≤ n) (more : List UInt8) :
    notice (List.replicate n 0) ++ more = header n ++ 0 :: (List.replicate (n - 1) 0 ++ crlf ++ more) := by
  obtain ⟨n, rfl⟩ : ∃ m, n = m + 1 := ⟨n - 1, by omega⟩
  rw [notice, List.length_replicate, Nat.add_sub_cancel, List.replicate_succ]
  simp only [List.append_assoc, List.cons_append]

/-- the datagram put in the place of the one behind an answer -/
theorem puts_of_answer_first {s t : St} {ps : List (List UInt8)} {answer rest more : List UInt8} {n fuel : ℕ}
    (hsizes : ∀ p ∈ ps, p.length ≤ 1500) (hpos : 1 ≤ n) (hn : n ≤ 1500) (hne : answer ≠ []) (h0 : 0 ∉ answer)
    (htotal : answer.length ≤ CMD_BUF_MAX_LEN)
    (hmem : s.memory = ps.flatMap notice ++ (answer ++ (notice (List.replicate n 0) ++ rest) ++ more))
    (hput : s.ringFifo.putPtr.toNat = (ps.flatMap notice ++ (answer ++ (notice (List.replicate n 0) ++ rest))).length)
    (hmax : s.ringFifo.putPtr.toNat ≤ NET_BUF_MAX_LEN) (hrun : analysisLoop fuel s 0 = some (.ok t)) :
    ∃ wrong others, t.dlBuf = putAll dl_buf s.dlBuf (ps ++ wrong :: others) ∧
      ∀ k, wrong.take k ≠ List.replicate n 0 := by
  rw [List.length_append] at hput
  -- the loop gets past the first notices, to the answer
  have hstart := run_notices hsizes hmem hput hmax (Or.inr (List.append_ne_nil_of_left_ne_nil hne _)) fuel
  have hloop := hstart.symm.trans (analysisLoop_mono hrun (ps.length + fuel) (Nat.le_add_left _ _))
  have hdrop : s.memory.drop (UInt16.ofNat (ps.flatMap notice).length).toNat =
      answer ++ header n ++ 0 :: (List.replicate (n - 1) 0 ++ crlf ++ (rest ++ more)) := by
    rw [toNat_ofNat_of_le (by omega), hmem, List.drop_left, List.append_assoc, List.append_assoc, notice_zeros hpos,
      ← List.append_assoc answer]
  obtain ⟨hnotice, hwrong⟩ := misread hne h0 htotal hpos hn hdrop
  obtain ⟨datagrams, hblocks, hfirst⟩ := analysisLoop_puts hloop
  obtain ⟨hlen, others, rfl⟩ := hfirst hnotice
  exact ⟨_, others, hblocks.trans (putAll_append dl_buf s.dlBuf ps _), hwrong hlen⟩

/-- **An answer before a notice** takes the place of the datagram of that notice, when the payload is zeros. -/
theorem not_handled_of_answer_first {ps rs : List (List UInt8)} {n : ℕ} {tl : List Segment}
    (hsizes : ∀ p ∈ ps, p.length ≤ 1500) (hpos : 1 ≤ n) (hn : n ≤ 1500) (hne : rs.flatten ≠ []) (h0 : 0 ∉ rs.flatten)
    (htotal : rs.flatten.length ≤ CMD_BUF_MAX_LEN) {s : St} (hfree : ps.length < freeBlocks s.dlBuf)
    (hfits : (burst (ps.map .notice ++ (rs.map .response ++ .notice (List.replicate n 0) :: tl))).length ≤
      NET_BUF_MAX_LEN) :
    ¬ Handled (ps.map .notice ++ (rs.map .response ++ .notice (List.replicate n 0) :: tl)) s := by
  intro h
  obtain ⟨fuel, t, hrun, htaken, -⟩ := h
  have hburst : burst (ps.map .notice ++ (rs.map .response ++ .notice (List.replicate n 0) :: tl)) =
      ps.flatMap notice ++ (rs.flatten ++ (notice (List.replicate n 0) ++ burst tl)) := by
    rw [burst_append, burst_notices, burst_append, burst_responses]
    rfl
  have hpayloads : payloads (ps.map .notice ++ (rs.map .response ++ .notice (List.replicate n 0) :: tl)) =
      ps ++ List.replicate n 0 :: payloads tl := by
    rw [payloads_append, payloads_notices, payloads_append, payloads_responses]
    rfl
  have hput := putPtr_received s hfits
  have hmem := memory_received s hfits
  rw [hburst] at hfits hput hmem hrun
  rw [List.append_assoc] at hmem
  obtain ⟨wrong, others, hblocks, hwrong⟩ := puts_of_answer_first hsizes hpos hn hne h0 htotal hmem hput
    (hput.trans_le hfits) ((receive_eq _ _ _).symm.trans hrun)
  change t.dlBuf = putAll dl_buf s.dlBuf _ at hblocks
  rw [hpayloads, hblocks, taken_putAll] at htaken
  have hthere := congrArg (·[ps.length]?) htaken
  rw [List.getElem?_take_of_lt hfree, List.getElem?_map, List.getElem?_append_right le_rfl,
    List.getElem?_append_right le_rfl, Nat.sub_self, List.getElem?_cons_zero, List.getElem?_cons_zero] at hthere
  exact hwrong dl_buf.maxlen (Option.some.inj hthere)

/-- `ring_fifo1` after a long burst that ends in answers: its indices say that it is empty -/
theorem contents_of_long {s t : St} {ps : List (List UInt8)} {answers : List UInt8} {k fuel : ℕ}
    (hsizes : ∀ p ∈ ps, p.length ≤ 1500) (hne : answers ≠ []) (h0 : 0 ∉ answers) (hsolicited : ¬ qiurc <:+: answers)
    (hmem : s.memory = ps.flatMap notice ++ (answers ++ List.replicate k 0))
    (hput : s.ringFifo.putPtr.toNat = (ps.flatMap notice ++ answers).length) (hget : s.ringFifo.getPtr = 0)
    (hlong : 511 < (ps.flatMap notice ++ answers).length)
    (hfits : (ps.flatMap notice ++ answers).length ≤ NET_BUF_MAX_LEN)
    (hrun : analysisLoop fuel s 0 = some (.ok t)) : contents t.ringFifo1 = [] := by
  have hmax : NET_BUF_MAX_LEN = 4096 := rfl
  have hcmd : CMD_BUF_MAX_LEN = 512 := rfl
  have helements := elements_ringFifo hget
  have htotal := hput
  rw [List.length_append] at hput
  have hstart := run_notices hsizes hmem hput (by omega) (Or.inr hne) (fuel + 1)
  have hloop := hstart.symm.trans (analysisLoop_mono hrun (ps.length + (fuel + 1)) (by omega))
  have hresponse : IsResponse s.memory (UInt16.ofNat (ps.flatMap notice).length) := by
    rw [IsResponse, textAt, toNat_ofNat_of_le (by omega), hmem, List.drop_left, cstr_append h0]
    have hnone : cstr (List.replicate k 0) = [] := (cstr_append_zeros [] k : _)
    rw [hnone, List.append_nil]
    exact hsolicited
  rw [analysisLoop] at hloop
  rcases analysis_response (s := { s with dlBuf := putAll dl_buf s.dlBuf ps }) hresponse with
    ⟨ringFifo1, hround, hget1, hput1, hdata⟩ | ⟨hround, -⟩
  · rw [hround] at hloop
    cases hloop
    -- what is copied fits, so that the burst has 512 or 4096 bytes
    have hfit : ringbufElements s.ringFifo ≤ CMD_BUF_MAX_LEN := by
      have hle := hdata.length_le
      rwa [length_bytesAt, ringFifo1.length_data] at hle
    have hempty : ringbufElements ringFifo1 = 0 := by
      rw [elements_ringFifo1 (hget1.trans hget), hput1]
      show s.ringFifo.putPtr.toNat % 512 = 0
      omega
    show contents ringFifo1 = []
    rw [contents, hempty]
    rfl
  · rw [hround] at hloop
    cases hloop

/-- the memory with the first burst in it -/
theorem memory_start {bytes : List UInt8} (h : bytes.length ≤ NET_BUF_MAX_LEN) :
    (received (St.start []) bytes).memory = bytes ++ List.replicate (4096 - bytes.length) 0 := by
  have hzeros : (St.start []).ringFifo.data.drop bytes.length ++ (St.start []).behind =
      List.replicate (4096 - bytes.length) 0 := by
    show (List.replicate 4096 0).drop bytes.length ++ [] = _
    rw [List.append_nil, List.drop_replicate]
  rw [memory_received _ h, hzeros]

/-- **A long burst** that ends in an answer: `ring_fifo1` is overrun, or nothing is left to read in it. -/
theorem not_handled_of_long {ps rs : List (List UInt8)} (hsizes : ∀ p ∈ ps, p.length ≤ 1500)
    (htexts : ∀ r ∈ rs, r ≠ [] ∧ 0 ∉ r) (hne : rs ≠ []) (hsolicited : ¬ qiurc <:+: rs.flatten)
    (hlong : 511 < (ps.flatMap notice ++ rs.flatten).length)
    (hfits : (ps.flatMap notice ++ rs.flatten).length ≤ NET_BUF_MAX_LEN) :
    ¬ Handled (ps.map .notice ++ rs.map .response) (St.start []) := by
  intro h
  obtain ⟨fuel, t, hrun, -, hanswers⟩ := h
  have hresponses : responses (ps.map .notice ++ rs.map .response) = rs := by
    rw [responses_append, responses_notices, responses_responses, List.nil_append]
  have hburst : burst (ps.map .notice ++ rs.map .response) = ps.flatMap notice ++ rs.flatten := by
    rw [burst_append, burst_notices, burst_responses]
  rw [hresponses] at hanswers
  rw [hburst, receive_eq] at hrun
  obtain ⟨r, rs, rfl⟩ := List.exists_cons_of_ne_nil hne
  have hmem := memory_start hfits
  rw [List.append_assoc] at hmem
  have hempty := contents_of_long hsizes (flatten_ne_nil htexts hne) (not_mem_flatten htexts) hsolicited hmem
    (putPtr_received (St.start []) hfits) rfl hlong hfits hrun
  have hanswer : r <:+: contents t.ringFifo1 := (hanswers hne).2 r List.mem_cons_self
  rw [hempty, List.infix_nil] at hanswer
  exact (htexts r List.mem_cons_self).1 hanswer

/-! ## Demultiplexing -/

theorem cleared_start : Cleared (St.start []) := by
  refine ⟨rfl, ?_⟩
  show (List.replicate 4096 0).take 4095 = _
  rw [List.take_replicate]
  rfl

theorem handled_of_wellFormed {segs : List Segment} (hw : WellFormed segs) (hfirst : NoticesFirst segs)
    (hshort : responses segs ≠ [] → (burst segs).length ≤ 511) {s : St} (hs : Cleared s)
    (hfree : (payloads segs).length ≤ freeBlocks s.dlBuf) : Handled segs s := by
  obtain ⟨ps, rs, tl, rfl, rfl | ⟨hne, p, tl, rfl⟩⟩ := exists_parts segs
  · obtain ⟨htexts, hsolicited, -, hsizes, hfits, -⟩ := hw
    rw [List.append_nil] at *
    rw [payloads_append, payloads_notices, payloads_responses, List.append_nil] at hsizes hfree
    rw [responses_append, responses_notices, responses_responses, List.nil_append] at htexts hsolicited hshort
    rw [burst_append, burst_notices, burst_responses] at hfits hshort
    exact handled_of_noticesFirst (fun p hp => (hsizes p.length (List.mem_map_of_mem hp)).2) htexts hsolicited hfits
      hshort hs hfree
  · exact absurd hfirst (not_noticesFirst ps hne p tl)

/-- what a burst looks like that is handled though its payloads are zeros -/
theorem noticesFirst_of_handled {segs : List Segment} (hw : WellFormed segs) (hzeros : segs.map Segment.zeroed = segs)
    (h : Handled segs (St.start [])) : NoticesFirst segs ∧ (responses segs ≠ [] → (burst segs).length ≤ 511) := by
  obtain ⟨htexts, hsolicited, htotal, hsizes, hfits, hblocks⟩ := hw
  obtain ⟨ps, rs, tl, rfl, rfl | ⟨hne, p, tl, rfl⟩⟩ := exists_parts segs
  · rw [List.append_nil] at *
    refine ⟨noticesFirst_parts ps rs, fun hne => ?_⟩
    rw [payloads_append, payloads_notices, payloads_responses, List.append_nil] at hsizes
    rw [responses_append, responses_notices, responses_responses, List.nil_append] at htexts hsolicited hne
    rw [burst_append, burst_notices, burst_responses] at hfits ⊢
    by_contra hlong
    exact not_handled_of_long (fun p hp => (hsizes p.length (List.mem_map_of_mem hp)).2) htexts hne hsolicited
      (by omega) hfits h
  · exfalso
    have hp : p = List.replicate p.length 0 := by
      have hfixed := List.map_inj_left.1 (hzeros.trans (List.map_id _).symm) (.notice p)
        (List.mem_append_right _ (List.mem_append_right _ List.mem_cons_self))
      exact (Segment.notice.inj hfixed).symm
    have hpayloads : payloads (ps.map .notice ++ (rs.map .response ++ .notice p :: tl)) = ps ++ p :: payloads tl := by
      rw [payloads_append, payloads_notices, payloads_append, payloads_responses]
      rfl
    have hresponses : responses (ps.map .notice ++ (rs.map .response ++ .notice p :: tl)) = rs ++ responses tl := by
      rw [responses_append, responses_notices, responses_append, responses_responses]
      rfl
    rw [hpayloads] at hsizes hblocks
    rw [hresponses] at htexts htotal
    have hps : ∀ q ∈ ps, q.length ≤ 1500 := fun q hq =>
      (hsizes q.length (List.mem_map_of_mem (List.mem_append_left _ hq))).2
    have hsize := hsizes p.length (List.mem_map_of_mem (List.mem_append_right _ List.mem_cons_self))
    have hrs : ∀ r ∈ rs, r ≠ [] ∧ 0 ∉ r := fun r hr => htexts r (List.mem_append_left _ hr)
    have htotal' : rs.flatten.length ≤ CMD_BUF_MAX_LEN := by
      rw [List.flatten_append, List.length_append] at htotal
      show _ ≤ 512
      omega
    have hfree : ps.length < freeBlocks (St.start []).dlBuf := by
      have hthree : freeBlocks (St.start []).dlBuf = dl_buf.num := by decide
      rw [List.length_append, List.length_cons] at hblocks
      omega
    rw [hp] at h hfits
    exact not_handled_of_answer_first hps hsize.1 hsize.2 (flatten_ne_nil hrs hne) (not_mem_flatten hrs) htotal' hfree
      hfits h

/-- **Well-formed bursts.** For any answers and any sizes of the notices: all bursts with them are handled exactly when
no answer stands before a notice, and a burst with an answer has at most 511 bytes. -/
theorem handled_iff {segs : List Segment} (hw : WellFormed segs) :
    (∀ segs', segs'.map Segment.zeroed = segs.map Segment.zeroed → ∀ s, Cleared s →
        (payloads segs').length ≤ freeBlocks s.dlBuf → Handled segs' s) ↔
      NoticesFirst segs ∧ (responses segs ≠ [] → (burst segs).length ≤ 511) := by
  constructor
  · intro h
    have hwz := hw.of_zeroed (zeroed_zeroed segs)
    have hzeros := h (segs.map Segment.zeroed) (zeroed_zeroed segs) (St.start []) cleared_start hwz.blocks
    have hparts := noticesFirst_of_handled hwz (zeroed_zeroed segs) hzeros
    rwa [noticesFirst_zeroed, responses_zeroed, length_burst_zeroed] at hparts
  · intro h segs' hsame s hs hfree
    have hfirst : NoticesFirst segs' := by
      rw [← noticesFirst_zeroed, hsame, noticesFirst_zeroed]
      exact h.1
    refine handled_of_wellFormed (hw.of_zeroed hsame) hfirst (fun hne => ?_) hs hfree
    rw [← responses_zeroed, hsame, responses_zeroed] at hne
    rw [← length_burst_zeroed, hsame, length_burst_zeroed]
    exact h.2 hne

/-- **Demultiplexing.** For any answers and any sizes of the notices: all bursts with them are handled exactly when no
answer stands before a notice, and a burst with an answer has at most 511 bytes. For any bytes, with any length fields:
the loop ends inside its buffers exactly when, along the walk that the length fields lead through the memory, each field
has at most 7 characters, an answer is only met in a burst that fits `ring_fifo1`, and no position comes back. -/
theorem receive_iff {segs : List Segment} (hw : WellFormed segs) (s : St) (bytes : List UInt8) :
    ((∀ segs', segs'.map Segment.zeroed = segs.map Segment.zeroed → ∀ s, Cleared s →
        (payloads segs').length ≤ freeBlocks s.dlBuf → Handled segs' s) ↔
      NoticesFirst segs ∧ (responses segs ≠ [] → (burst segs).length ≤ 511)) ∧
    ((∃ fuel t, receive fuel s bytes = some (.ok t)) ↔
      ∀ pos, Walk.Reach (next (received s bytes).memory (received s bytes).ringFifo.putPtr) 0 pos →
        SoundAt (received s bytes).memory (received s bytes).ringFifo pos ∧
          ¬ Walk.Returns (next (received s bytes).memory (received s bytes).ringFifo.putPtr) pos) := by
  refine ⟨handled_iff hw, ?_⟩
  simp only [receive_eq]
  rw [analysisLoop_finishes]
  exact Walk.finishes_iff 0

/-- `"\r\nOK\r\n"` -/
def ok : List UInt8 := [0x0D, 0x0A, 0x4F, 0x4B, 0x0D, 0x0A]

theorem wellFormed_ok {segs : List Segment} (hresponses : responses segs = [ok]) (hpayloads : payloads segs = [[0]])
    (hlen : (burst segs).length ≤ 100) : WellFormed segs := by
  constructor
  · rw [hresponses]
    decide
  · rw [hresponses]
    decide
  · rw [hresponses]
    decide
  · rw [hpayloads]
    decide
  · exact hlen.trans (by decide)
  · rw [hpayloads]
    decide

theorem receive_notice_then_ok :
    NoticesFirst [.notice [0], .response ok] ∧ Handled [.notice [0], .response ok] (St.start []) := by
  have hw : WellFormed [.notice [0], .response ok] := wellFormed_ok rfl rfl (by decide +kernel)
  have hcond : NoticesFirst [.notice [0], .response ok] ∧
      (responses [.notice [0], .response ok] ≠ [] → (burst [.notice [0], .response ok]).length ≤ 511) :=
    ⟨noticesFirst_parts [[0]] [ok], fun _ => by decide +kernel⟩
  exact ⟨hcond.1, (receive_iff hw (St.start []) []).1.2 hcond _ rfl (St.start []) cleared_start (by decide)⟩

/-- a round that leads back to its position never ends -/
theorem endless_of_next {memory : List UInt8} {putPtr pos : UInt16} (hnotice : IsNotice memory pos)
    (hlen : (tempBuf memory pos).length ≤ 7) (hnext : next memory putPtr pos = some pos) (fuel : ℕ) :
    ∀ s : St, s.memory = memory → s.ringFifo.putPtr = putPtr → analysisLoop fuel s pos = none := by
  induction fuel with
  | zero => exact fun _ _ _ => rfl
  | succ fuel ih =>
    intro s hmemory hput
    subst hmemory hput
    rw [analysisLoop_goto hnotice hlen hnext]
    exact ih _ rfl rfl

/-- a notice whose length field is `65508` -/
def looping : List UInt8 :=
  crlf ++ qiurc ++ recv ++ [0x2C, 0x30, 0x2C] ++ [0x36, 0x35, 0x35, 0x30, 0x38] ++ crlf

theorem textAt_looping (more : List UInt8) : textAt (looping ++ 0 :: more) 0 = looping := by
  have h0 : 0 ∉ looping := by decide
  show cstr (looping ++ 0 :: more) = _
  rw [cstr_append h0]
  exact List.append_nil _

/-- **A malformed length field** can lead the loop back to where it is. -/
theorem endless (fuel : ℕ) : receive fuel (St.start []) looping = none := by
  have hfits : looping.length ≤ NET_BUF_MAX_LEN := by decide
  have hmem : (received (St.start []) looping).memory = looping ++ 0 :: List.replicate 4069 0 := by
    have hcount : 4096 - looping.length = 4069 + 1 := rfl
    rw [memory_start hfits, hcount, List.replicate_succ]
  have htext := textAt_looping (List.replicate 4069 0)
  have htemp : tempBuf (looping ++ 0 :: List.replicate 4069 0) 0 = [0x36, 0x35, 0x35, 0x30, 0x38] := by
    rw [tempBuf, htext]
    decide +kernel
  have hnotice : IsNotice (looping ++ 0 :: List.replicate 4069 0) 0 := by
    rw [IsNotice, htext]
    decide +kernel
  have hafter : posAfter (looping ++ 0 :: List.replicate 4069 0) 0 = 0 := by
    rw [posAfter, lenLen, recvLen, htemp]
    decide +kernel
  have hput : (0 : UInt16) < (received (St.start []) looping).ringFifo.putPtr := by
    rw [UInt16.lt_iff_toNat_lt, putPtr_received _ hfits]
    decide
  have hnext : next (looping ++ 0 :: List.replicate 4069 0) (received (St.start []) looping).ringFifo.putPtr 0 = some 0 := by
    rw [next, hafter, if_pos ⟨hnotice, hput⟩]
  rw [receive_eq]
  exact endless_of_next hnotice (by rw [htemp]; decide) hnext fuel _ hmem rfl

/-- **Misreading.** `OK` and then a notice of one zero byte, all blocks free: the notice is not delivered. And a length
field `65508` keeps the loop going for ever. -/
theorem misreading :
    (WellFormed [.response ok, .notice [0]] ∧ Cleared (St.start []) ∧
      (payloads [.response ok, .notice [0]]).length ≤ freeBlocks (St.start []).dlBuf ∧
      ¬ Handled [.response ok, .notice [0]] (St.start [])) ∧
    ∀ fuel, receive fuel (St.start []) looping = none := by
  have hw : WellFormed [.response ok, .notice [0]] := wellFormed_ok rfl rfl (by decide +kernel)
  refine ⟨⟨hw, cleared_start, by decide, ?_⟩, endless⟩
  exact @not_handled_of_answer_first [] [ok] 1 [] (fun p hp => absurd hp List.not_mem_nil) le_rfl (by omega) (by decide)
    (by decide) (by decide) (St.start []) (by decide) hw.fits

end DataConcentrator.Modem
