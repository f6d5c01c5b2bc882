/-
The server frame codec round trip, and the zero bytes that break it.

The decoder takes the number of zero bytes after offset 27 for the number of parameters. A zero byte of a parameter
type, or a zero stop byte, is counted too.
- `originBuf_eq`: the encoder builds exactly `wire`;
- `roundTrips_iff`: a frame decodes to the message it was built from iff its stray zero bytes are a multiple of 256;
- `zero_type_splits`: one parameter of type `0x0001` decodes as two.
-/
import DataConcentrator.Protocol.ServerFrame

namespace DataConcentrator.Protocol

/-! ## What a frame says -/

/-- the value buffer holds a text of `len` bytes and its terminator -/
def Parameter.IsText (p : Parameter) : Prop :=
  p.len < 65536 ∧ ∃ text rest, p.value = text ++ 0 :: rest ∧ 0 ∉ text ∧ text.length = p.len

/-- type, length and text of a parameter -/
def Parameter.shown (p : Parameter) : UInt16 × ℕ × List UInt8 := (p.type, p.len, p.value.take p.len)

/-- the bytes of a parameter in the frame -/
def Parameter.bytes (p : Parameter) : List UInt8 := putBe16 p.type ++ p.value.take (p.len + 1)

/-- what the decoder allocates for a parameter -/
def Parameter.received (p : Parameter) : Parameter := ⟨p.type, p.len, p.value.take (p.len + 1)⟩

/-- the parameter part of the frame -/
def paraBytes (ps : List Parameter) : List UInt8 := ps.flatMap Parameter.bytes

/-- a frame structure to encode: a message type that carries parameters, at most 255 of them, all of them texts, and
a length that fits a `u16` -/
structure Sendable (s : ServerFrameStruct) (ps : List Parameter) : Prop where
  down : s.msg_type = SERVER_REQUEST_DOWN ∨ s.msg_type = SERVER_RESPONSE_DOWN ∨ s.msg_type = SYNC_RESPONSE
  para : s.para = ps.map some
  num : s.para_num = ps.length
  few : ps.length ≤ 255
  text : ∀ p ∈ ps, p.IsText
  short : 28 + (ps.map fun p => 3 + p.len).sum < 65536

/-- what the encoder needs of a frame structure, whatever its message type -/
structure Buildable (s : ServerFrameStruct) (ps : List Parameter) : Prop where
  para : s.para = ps.map some
  num : s.para_num = ps.length
  few : ps.length ≤ 255
  text : ∀ p ∈ ps, p.IsText
  short : 28 + (ps.map fun p => 3 + p.len).sum < 65536

theorem Sendable.buildable {s : ServerFrameStruct} {ps : List Parameter} (h : Sendable s ps) : Buildable s ps :=
  ⟨h.para, h.num, h.few, h.text, h.short⟩

/-- the fields and the parameter list that the receiver goes by -/
structure SameMessage (d s : ServerFrameStruct) : Prop where
  start : d.start = s.start
  msg_type : d.msg_type = s.msg_type
  serial_num : d.serial_num = s.serial_num
  err_code : d.err_code = s.err_code
  msg_id : d.msg_id = s.msg_id
  gateway_id : d.gateway_id = s.gateway_id
  device_id : d.device_id = s.device_id
  stop : d.stop = s.stop
  para_num : d.para_num = s.para_num
  para : d.para.map (Option.map Parameter.shown) = s.para.map (Option.map Parameter.shown)

/-- the structure decoded from the frame built for `s` -/
def recoded (heap : ℕ → UInt8) (mode : ConnectionMode) (s : ServerFrameStruct) : Option ServerFrameStruct :=
  (originBuf heap s).bind fun buf => (getServerFrameStruct (frameOf mode buf)).map Prod.snd

def RoundTrips (heap : ℕ → UInt8) (mode : ConnectionMode) (s : ServerFrameStruct) : Prop :=
  ∃ d, recoded heap mode s = some d ∧ SameMessage d s

/-- zero bytes after offset 27 that end no value -/
def strayZeros (s : ServerFrameStruct) (ps : List Parameter) : ℕ :=
  (ps.map fun p => (putBe16 p.type).count 0).sum + if s.stop = 0 then 1 else 0

/-! ## The encoder -/

theorem forU8_paras {σ : Type*} {s : ServerFrameStruct} {ps : List Parameter} (h : Buildable s ps)
    (body : σ → Parameter → Option σ) (t : σ) :
    forU8 s.para_num (fun t i => (s.paraAt i).bind (body t)) t = ps.foldlM body t := by
  have hpara : ∀ i, s.paraAt i = ps[i]? := by
    intro i
    rw [ServerFrameStruct.paraAt, h.para, List.getElem?_map]
    cases ps[i]? <;> rfl
  have hfew := h.few
  simp only [forU8, hpara, h.num]
  rw [CLoop.forLoop_eq_foldlM 8 _ 255 t (by omega) hfew]
  exact CLoop.foldlM_range_getElem? body ps t

theorem Parameter.IsText.length_take {p : Parameter} (h : p.IsText) : (p.value.take (p.len + 1)).length = p.len + 1 := by
  obtain ⟨-, text, rest, hv, -, hl⟩ := h
  simp [hv, hl]

/-- what can be sent can be copied -/
theorem copy_buildable {s : ServerFrameStruct} {ps : List Parameter} (h : Buildable s ps) :
    copyServerFrameStruct s 1 = some { s with para := ps.map fun p => some p.received } := by
  have hloop : ∀ (qs : List Parameter) (copied : List (Option Parameter)), (∀ p ∈ qs, p.IsText) →
      qs.foldlM (fun copied p => (copyParameter p).map (copied ++ [some ·])) copied =
        some (copied ++ qs.map fun p => some p.received) := by
    intro qs
    induction qs with
    | nil =>
      intro copied _
      rw [List.map_nil, List.append_nil]
      rfl
    | cons p qs ih =>
      intro copied ht
      have hp := (ht p List.mem_cons_self).length_take
      have hlen : p.len < p.value.length := by
        rw [List.length_take] at hp
        omega
      rw [List.foldlM_cons, copyParameter, if_pos hlen]
      refine (ih _ fun q hq => ht q (List.mem_cons_of_mem p hq)).trans ?_
      rw [List.append_assoc]
      rfl
  rw [copyServerFrameStruct, if_pos rfl, forU8_paras h fun copied p => (copyParameter p).map (copied ++ [some ·]),
    hloop ps [] h.text]
  rfl

theorem length_paraBytes (ps : List Parameter) (h : ∀ p ∈ ps, p.IsText) :
    (paraBytes ps).length = (ps.map fun p => 3 + p.len).sum := by
  induction ps with
  | nil => rfl
  | cons p ps ih =>
    have hp := (h p (by simp)).length_take
    have hps := ih fun q hq => h q (List.mem_cons_of_mem p hq)
    simp only [paraBytes] at hps
    simp only [paraBytes, List.flatMap_cons, Parameter.bytes, List.length_append, length_putBe16, hp, hps, List.map_cons,
      List.sum_cons]
    omega

theorem originFrameLen_eq {s : ServerFrameStruct} {ps : List Parameter} (h : Buildable s ps) :
    originFrameLen s = some (28 + (paraBytes ps).length) := by
  have hloop : ∀ (qs : List Parameter) (n : ℕ), n + (qs.map fun p => 3 + p.len).sum < 65536 →
      qs.foldlM (fun n p => some ((n + 3 + p.len) % 65536)) n = some (n + (qs.map fun p => 3 + p.len).sum) := by
    intro qs
    induction qs with
    | nil => intro n _; rfl
    | cons p qs ih =>
      intro n hn
      rw [List.map_cons, List.sum_cons] at hn ⊢
      rw [List.foldlM_cons, Nat.mod_eq_of_lt (by omega)]
      refine (ih (n + 3 + p.len) (by omega)).trans ?_
      congr 1
      omega
  rw [originFrameLen, forU8_paras h (fun n p => some ((n + 3 + p.len) % 65536)), hloop ps 28 h.short,
    length_paraBytes ps h.text]

/-- the second loop writes the parameters one after the other -/
theorem putParameters_eq (ps : List Parameter) (ht : ∀ p ∈ ps, p.IsText) : ∀ (buf : ℕ → UInt8) (offset : ℕ),
    offset + (paraBytes ps).length < 65536 →
      ps.foldlM putParameter (buf, offset) =
        some (ByteStore.write buf offset (paraBytes ps), offset + (paraBytes ps).length) := by
  induction ps with
  | nil => intro buf offset _; simp [paraBytes]
  | cons p ps ih =>
    intro buf offset hoff
    have hp := (ht p (by simp)).length_take
    have hlt : p.len < p.value.length := by
      have := hp
      rw [List.length_take] at this
      omega
    have hbytes : (p.bytes).length = p.len + 3 := by simp [Parameter.bytes, hp]; omega
    have hcons : paraBytes (p :: ps) = p.bytes ++ paraBytes ps := rfl
    rw [hcons, List.length_append, hbytes] at hoff ⊢
    have hstep : putParameter (buf, offset) p =
        some (ByteStore.write buf offset p.bytes, offset + p.bytes.length) := by
      simp only [putParameter, hlt, if_true]
      rw [Nat.mod_eq_of_lt (by omega), Nat.mod_eq_of_lt (by omega), hbytes, Parameter.bytes,
        ← ByteStore.write_append buf offset (putBe16 p.type), length_putBe16,
        show offset + 2 + (p.len + 1) = offset + (p.len + 3) by omega]
    rw [List.foldlM_cons, hstep]
    refine (ih (fun q hq => ht q (List.mem_cons_of_mem p hq)) _ _ (by omega)).trans ?_
    rw [ByteStore.write_append, hbytes]
    simp only [Option.some.injEq, Prod.mk.injEq, true_and]
    omega

/-- the part of the frame that the CRC covers -/
def crcPart (s : ServerFrameStruct) (ps : List Parameter) : List UInt8 := frameIds s ++ paraBytes ps

/-- the unescaped frame of a structure -/
def wire (s : ServerFrameStruct) (ps : List Parameter) : List UInt8 :=
  frameHead s (28 + (paraBytes ps).length) ++ putBe32 (crc32 (crcPart s ps)) ++ (crcPart s ps ++ [s.stop])

theorem length_frameHead (s : ServerFrameStruct) (n : ℕ) : (frameHead s n).length = 13 := rfl

theorem length_frameIds (s : ServerFrameStruct) : (frameIds s).length = 10 := rfl

theorem length_wire (s : ServerFrameStruct) (ps : List Parameter) :
    (wire s ps).length = 28 + (paraBytes ps).length := by
  simp only [wire, crcPart, List.length_append, length_frameHead, length_frameIds, length_putBe32, List.length_singleton]
  omega

/-- **Encoder spec.** -/
theorem originBuf_buildable (heap : ℕ → UInt8) {s : ServerFrameStruct} {ps : List Parameter} (h : Buildable s ps) :
    originBuf heap s = some (wire s ps) := by
  have hshort := h.short
  rw [← length_paraBytes ps h.text] at hshort
  set n := 28 + (paraBytes ps).length with hn
  set head := frameHead s n with hhead
  have hids : (frameIds s).length = 10 := rfl
  -- the writes, in the order of the source, come to one write from offset 0
  have hbuf : ByteStore.write (ByteStore.write (ByteStore.write heap 0 (head ++ [0, 0, 0, 0] ++ frameIds s)) (n - 1)
      [s.stop]) 27 (paraBytes ps) =
      ByteStore.write heap 0 (head ++ [0, 0, 0, 0] ++ (crcPart s ps ++ [s.stop])) := by
    have hpre : (head ++ [0, 0, 0, 0] ++ frameIds s).length = 27 := by simp [hhead, length_frameHead, hids]
    rw [ByteStore.write_comm _ _ _ _ _ (by omega)]
    have hfst := ByteStore.write_append heap 0 (head ++ [0, 0, 0, 0] ++ frameIds s) (paraBytes ps)
    rw [hpre, Nat.zero_add] at hfst
    have hsnd := ByteStore.write_append heap 0 (head ++ [0, 0, 0, 0] ++ frameIds s ++ paraBytes ps) [s.stop]
    rw [List.length_append, hpre, Nat.zero_add] at hsnd
    rw [hfst, show n - 1 = 27 + (paraBytes ps).length by omega, hsnd]
    simp [crcPart]
  have hcrc : ByteStore.read (ByteStore.write heap 0 (head ++ [0, 0, 0, 0] ++ (crcPart s ps ++ [s.stop]))) 17 (n - 18) =
      crcPart s ps := by
    have hall := ByteStore.read_write_same heap 0 (head ++ [0, 0, 0, 0] ++ crcPart s ps ++ [s.stop])
    have hlen : (head ++ [0, 0, 0, 0] ++ crcPart s ps ++ [s.stop]).length = 17 + ((n - 18) + 1) := by
      simp only [List.length_append, hhead, length_frameHead, crcPart, hids, List.length_cons, List.length_nil]
      omega
    rw [hlen, ByteStore.read_add, ByteStore.read_add, List.append_assoc (head ++ _)] at hall
    obtain ⟨-, hall⟩ := List.append_inj hall (by simp [hhead, length_frameHead])
    obtain ⟨hall, -⟩ := List.append_inj hall (by simp [crcPart, hids]; omega)
    simpa using hall
  have hpatch := ByteStore.write_patch heap 0 head [0, 0, 0, 0] (putBe32 (crc32 (crcPart s ps)))
    (crcPart s ps ++ [s.stop]) rfl
  rw [show 0 + head.length = 13 by rfl] at hpatch
  have hread := ByteStore.read_write_same heap 0 (wire s ps)
  rw [length_wire, ← hn] at hread
  simp only [originBuf, originFrameLen_eq h, Option.bind_some, forU8_paras h putParameter]
  rw [putParameters_eq ps h.text _ 27 (by omega), Option.map_some, hbuf, hcrc, hpatch]
  exact congrArg some hread

theorem originBuf_eq (heap : ℕ → UInt8) {s : ServerFrameStruct} {ps : List Parameter} (h : Sendable s ps) :
    originBuf heap s = some (wire s ps) :=
  originBuf_buildable heap h.buildable

/-! ## The decoder -/

theorem getParameter_eq (f : ServerFrame) (pos : ℕ) (p : Parameter) (rest : List UInt8) (ht : p.IsText)
    (hd : f.buf.drop pos = p.bytes ++ rest) (hpos : pos + p.bytes.length < 65536) :
    getParameter f pos = some (p.received, pos + p.bytes.length) := by
  obtain ⟨hlen, text, tail, hv, h0, hl⟩ := ht
  have htake : p.value.take (p.len + 1) = text ++ [0] := by simp [hv, ← hl, List.take_append]
  have hbytes : p.bytes.length = p.len + 3 := by simp [Parameter.bytes, htake, hl]; omega
  have hmsg : p.bytes ++ rest =
      (p.type >>> 8).toUInt8 :: (p.type >>> 0).toUInt8 :: (text ++ 0 :: rest) := by
    simp [Parameter.bytes, htake, putBe16]
  have hvalue : (text ++ 0 :: rest).take (p.len + 1) = text ++ [0] := by simp [← hl, List.take_append]
  rw [hbytes] at hpos ⊢
  simp only [getParameter, hd, hmsg, strlen_text text rest h0, Option.map_some, hl, getBe16_putBe16]
  rw [Nat.mod_eq_of_lt hlen, Nat.mod_eq_of_lt (by omega), hvalue, Parameter.received, htake,
    show pos + 2 + (p.len + 1) = pos + (p.len + 3) by omega]

/-- the loop reads the parameters back in order -/
theorem getParametersFrom_eq (f : ServerFrame) (stop : UInt8) (ps : List Parameter) (ht : ∀ p ∈ ps, p.IsText) :
    ∀ pos, f.buf.drop pos = paraBytes ps ++ [stop] → pos + (paraBytes ps).length + 1 = f.len → f.len < 65536 →
      getParametersFrom f ps.length pos = some (ps.map fun p => some p.received) := by
  induction ps with
  | nil => intro pos _ _ _; rfl
  | cons p ps ih =>
    intro pos hd hlen hmax
    have hcons : paraBytes (p :: ps) = p.bytes ++ paraBytes ps := rfl
    rw [hcons, List.append_assoc] at hd
    rw [hcons, List.length_append] at hlen
    have hp : 2 ≤ p.bytes.length := by simp [Parameter.bytes]
    have hget := getParameter_eq f pos p _ (ht p (by simp)) hd (by omega)
    have hnext : f.buf.drop (pos + p.bytes.length) = paraBytes ps ++ [stop] := by
      rw [← List.drop_drop, hd, List.drop_left]
    have hrest := ih (fun q hq => ht q (List.mem_cons_of_mem p hq)) _ hnext (by omega) hmax
    rw [List.length_cons, getParametersFrom, if_pos (by omega), hget]
    exact congrArg (Option.map (some p.received :: ·)) hrest

theorem countZeros_eq (bs : List UInt8) : ∀ cnt, cnt < 256 →
    bs.foldl (fun cnt b => if b = 0 then (cnt + 1) % 256 else cnt) cnt = (cnt + bs.count 0) % 256 := by
  induction bs with
  | nil => intro cnt h; simp [Nat.mod_eq_of_lt h]
  | cons b bs ih =>
    intro cnt h
    rw [List.foldl_cons]
    split_ifs with hb
    · rw [ih _ (Nat.mod_lt _ (by omega)), hb, List.count_cons_self]
      omega
    · rw [ih cnt h, List.count_cons_of_ne hb]

theorem count_text {p : Parameter} (h : p.IsText) : (p.bytes).count 0 = (putBe16 p.type).count 0 + 1 := by
  obtain ⟨-, text, rest, hv, h0, hl⟩ := h
  have htake : p.value.take (p.len + 1) = text ++ [0] := by simp [hv, ← hl, List.take_append]
  rw [Parameter.bytes, List.count_append, htake, List.count_append, List.count_eq_zero_of_not_mem h0]
  rfl

theorem count_paraBytes (ps : List Parameter) (ht : ∀ p ∈ ps, p.IsText) :
    (paraBytes ps).count 0 = (ps.map fun p => (putBe16 p.type).count 0).sum + ps.length := by
  induction ps with
  | nil => rfl
  | cons p ps ih =>
    have hcons : paraBytes (p :: ps) = p.bytes ++ paraBytes ps := rfl
    rw [hcons, List.count_append, count_text (ht p (by simp)), ih fun q hq => ht q (List.mem_cons_of_mem p hq),
      List.map_cons, List.sum_cons, List.length_cons]
    omega

theorem drop_wire (s : ServerFrameStruct) (ps : List Parameter) : (wire s ps).drop 27 = paraBytes ps ++ [s.stop] := by
  have h27 : (frameHead s (28 + (paraBytes ps).length) ++ putBe32 (crc32 (crcPart s ps)) ++ frameIds s).length = 27 := rfl
  have hw : wire s ps = (frameHead s (28 + (paraBytes ps).length) ++ putBe32 (crc32 (crcPart s ps)) ++ frameIds s) ++
      (paraBytes ps ++ [s.stop]) := by
    simp [wire, crcPart]
  rw [hw, ← h27, List.drop_left]

/-- the decoder counts the parameters and the stray zero bytes -/
theorem getParameterNum_wire (mode : ConnectionMode) {s : ServerFrameStruct} {ps : List Parameter} (h : Sendable s ps) :
    getParameterNum (frameOf mode (wire s ps)) = (ps.length + strayZeros s ps) % 256 := by
  have hstop : [s.stop].count 0 = if s.stop = 0 then 1 else 0 := by
    rw [List.count_singleton]
    split_ifs with h1 h2 h2 <;> simp_all
  have hbuf : ((frameOf mode (wire s ps)).buf.take (frameOf mode (wire s ps)).len).drop 27 = paraBytes ps ++ [s.stop] := by
    simp only [frameOf, List.take_length, drop_wire]
  rw [getParameterNum, hbuf, countZeros_eq _ 0 (by omega), List.count_append, count_paraBytes ps h.text, hstop, strayZeros]
  congr 1
  omega

/-- a frame that passes the CRC gate and carries parameters -/
theorem getServerFrameStruct_of_crc (f : ServerFrame) (hlen : 28 ≤ f.len)
    (hcrc : crc32 ((f.buf.drop 17).take (f.len - 18)) = getBe32 (f.at 13) (f.at 14) (f.at 15) (f.at 16))
    (hdown : f.at 1 = SERVER_REQUEST_DOWN ∨ f.at 1 = SERVER_RESPONSE_DOWN ∨ f.at 1 = SYNC_RESPONSE) :
    getServerFrameStruct f = (getParametersFrom f (getParameterNum f) 27).map fun para => (asS8 (getParameterNum f),
      { connection_mode := f.connection_mode
        start := f.at 0
        msg_type := f.at 1
        serial_num := getBe32 (f.at 2) (f.at 3) (f.at 4) (f.at 5)
        msg_len := getBe16 (f.at 6) (f.at 7)
        err_code := f.at 8
        crc32 := getBe32 (f.at 13) (f.at 14) (f.at 15) (f.at 16)
        msg_id := getBe16 (f.at 17) (f.at 18)
        gateway_id := getBe32 (f.at 19) (f.at 20) (f.at 21) (f.at 22)
        device_id := getBe32 (f.at 23) (f.at 24) (f.at 25) (f.at 26)
        para_num := getParameterNum f
        para := para
        stop := f.at (f.len - 1) }) := by
  unfold getServerFrameStruct
  rw [if_neg (by omega), if_pos hcrc, if_pos hdown, getParameters, Option.map_map]
  rfl

/-- the bytes that the CRC of a built frame is taken over -/
theorem crcPart_wire (mode : ConnectionMode) (s : ServerFrameStruct) (ps : List Parameter) :
    ((frameOf mode (wire s ps)).buf.drop 17).take ((frameOf mode (wire s ps)).len - 18) = crcPart s ps := by
  have hlen : (frameOf mode (wire s ps)).len = 28 + (paraBytes ps).length := length_wire s ps
  have hw : wire s ps = (frameHead s (28 + (paraBytes ps).length) ++ putBe32 (crc32 (crcPart s ps))) ++
      (crcPart s ps ++ [s.stop]) := rfl
  have h17 : (frameHead s (28 + (paraBytes ps).length) ++ putBe32 (crc32 (crcPart s ps))).length = 17 := rfl
  have hpart : (crcPart s ps).length = (frameOf mode (wire s ps)).len - 18 := by
    simp only [crcPart, List.length_append, length_frameIds, hlen]
    omega
  have hdrop : (frameOf mode (wire s ps)).buf.drop 17 = crcPart s ps ++ [s.stop] := by
    rw [← h17]
    exact List.drop_left
  rw [hdrop, ← hpart, List.take_left]

/-- **Decoder spec on a built frame**: the CRC gate lets it through and every header field comes back; the parameters
are those of the loop over the counted number of entries. -/
theorem getServerFrameStruct_wire (mode : ConnectionMode) {s : ServerFrameStruct} {ps : List Parameter}
    (h : Sendable s ps) :
    (getServerFrameStruct (frameOf mode (wire s ps))).map Prod.snd =
      (getParametersFrom (frameOf mode (wire s ps)) (getParameterNum (frameOf mode (wire s ps))) 27).map fun para =>
        { s with
          connection_mode := mode
          msg_len := getBe16 ((wire s ps).getD 6 0) ((wire s ps).getD 7 0)
          crc32 := crc32 (crcPart s ps)
          para_num := getParameterNum (frameOf mode (wire s ps))
          para := para } := by
  set f := frameOf mode (wire s ps) with hf
  have hlen : f.len = 28 + (paraBytes ps).length := length_wire s ps
  have hat : ∀ i, f.at i = (wire s ps).getD i 0 := fun _ => rfl
  have hstop : f.at (f.len - 1) = s.stop := by
    have hw : wire s ps = (frameHead s (28 + (paraBytes ps).length) ++ putBe32 (crc32 (crcPart s ps)) ++ crcPart s ps) ++
        [s.stop] := by simp [wire]
    have hl : (frameHead s (28 + (paraBytes ps).length) ++ putBe32 (crc32 (crcPart s ps)) ++ crcPart s ps).length =
        f.len - 1 := by
      simp only [List.length_append, crcPart, length_frameHead, length_putBe32, length_frameIds, hlen]
      omega
    rw [hat, hw, List.getD_eq_getElem?_getD, ← hl, List.getElem?_concat_length, Option.getD_some]
  have hcrc : getBe32 (f.at 13) (f.at 14) (f.at 15) (f.at 16) = crc32 (crcPart s ps) :=
    getBe32_putBe32 (crc32 (crcPart s ps))
  have hsum : crc32 ((f.buf.drop 17).take (f.len - 18)) = crc32 (crcPart s ps) :=
    congrArg crc32 (crcPart_wire mode s ps)
  have hserial : getBe32 (f.at 2) (f.at 3) (f.at 4) (f.at 5) = s.serial_num := getBe32_putBe32 s.serial_num
  have hmsg : getBe16 (f.at 17) (f.at 18) = s.msg_id := getBe16_putBe16 s.msg_id
  have hgate : getBe32 (f.at 19) (f.at 20) (f.at 21) (f.at 22) = s.gateway_id := getBe32_putBe32 s.gateway_id
  have hdev : getBe32 (f.at 23) (f.at 24) (f.at 25) (f.at 26) = s.device_id := getBe32_putBe32 s.device_id
  have h0 : f.at 0 = s.start := rfl
  have h1 : f.at 1 = s.msg_type := rfl
  have h8 : f.at 8 = s.err_code := rfl
  have hgo := getServerFrameStruct_of_crc f (by omega) (by rw [hsum, hcrc]) (by rw [h1]; exact h.down)
  rw [hserial, hmsg, hgate, hdev, h0, h1, h8, hstop, hcrc] at hgo
  rw [hgo, Option.map_map]
  rfl

/-! ## Main results -/

theorem recoded_eq (heap : ℕ → UInt8) (mode : ConnectionMode) {s : ServerFrameStruct} {ps : List Parameter}
    (h : Sendable s ps) :
    recoded heap mode s = (getServerFrameStruct (frameOf mode (wire s ps))).map Prod.snd := by
  rw [recoded, originBuf_eq heap h, Option.bind_some]

/-- the decoded parameter count takes in the stray zero bytes -/
theorem para_num_of_recoded {heap : ℕ → UInt8} {mode : ConnectionMode} {s d : ServerFrameStruct} {ps : List Parameter}
    (h : Sendable s ps) (hd : recoded heap mode s = some d) : d.para_num = (ps.length + strayZeros s ps) % 256 := by
  rw [recoded_eq heap mode h, getServerFrameStruct_wire mode h] at hd
  obtain ⟨para, -, rfl⟩ := Option.map_eq_some_iff.1 hd
  exact getParameterNum_wire mode h

/-- **Round trip.** The decoder gives back the message a frame was built from iff the number of stray zero bytes is a
multiple of 256. -/
theorem roundTrips_iff (heap : ℕ → UInt8) (mode : ConnectionMode) (s : ServerFrameStruct) (ps : List Parameter)
    (h : Sendable s ps) : RoundTrips heap mode s ↔ strayZeros s ps % 256 = 0 := by
  have hnum := getParameterNum_wire mode h
  have hfew := h.few
  constructor
  · rintro ⟨d, hd, hsame⟩
    have hcount := para_num_of_recoded h hd
    rw [hsame.para_num, h.num] at hcount
    omega
  · intro hz
    have hcount : getParameterNum (frameOf mode (wire s ps)) = ps.length := by
      rw [hnum]
      omega
    have hshort := h.short
    rw [← length_paraBytes ps h.text] at hshort
    have hlen : (frameOf mode (wire s ps)).len = 28 + (paraBytes ps).length := length_wire s ps
    have hparas := getParametersFrom_eq (frameOf mode (wire s ps)) s.stop ps h.text 27 (drop_wire s ps) (by omega)
      (by omega)
    have hrecoded := recoded_eq heap mode h
    rw [getServerFrameStruct_wire mode h, hcount, hparas, Option.map_some] at hrecoded
    refine ⟨_, hrecoded, ?_⟩
    · have hshown : ∀ p : Parameter, p.received.shown = p.shown := fun p => by
        simp [Parameter.received, Parameter.shown, List.take_take]
      refine ⟨rfl, rfl, rfl, rfl, rfl, rfl, rfl, rfl, h.num.symm, ?_⟩
      simp only [h.para, List.map_map]
      refine List.map_congr_left fun p _ => ?_
      simp [hshown]

/-- a request with the parameters `ps` -/
def request (ps : List Parameter) : ServerFrameStruct :=
  { ServerFrameStruct.zero with
    start := 0x02, msg_type := SERVER_REQUEST_DOWN, msg_id := 0x0181, gateway_id := 0xC0A80001
    para_num := ps.length, para := ps.map some, stop := 0x03 }

theorem sendable_request (ps : List Parameter) (hfew : ps.length ≤ 255) (htext : ∀ p ∈ ps, p.IsText)
    (hshort : 28 + (ps.map fun p => 3 + p.len).sum < 65536) : Sendable (request ps) ps :=
  ⟨Or.inl rfl, rfl, rfl, hfew, htext, hshort⟩

/-- the text `7` under the type `t` -/
def digit (t : UInt16) : Parameter := ⟨t, 1, [0x37, 0]⟩

theorem isText_digit (t : UInt16) : (digit t).IsText := ⟨(by decide : 1 < 65536), [0x37], [], rfl, by decide, rfl⟩

theorem sendable_digits (ts : List UInt16) (h : ts.length ≤ 255) :
    Sendable (request (ts.map digit)) (ts.map digit) := by
  refine sendable_request _ (by simpa using h) ?_ ?_
  · intro p hp
    obtain ⟨t, -, rfl⟩ := List.mem_map.1 hp
    exact isText_digit t
  · have hsum : ((ts.map digit).map fun p => 3 + p.len).sum = 4 * ts.length := by
      induction ts with
      | nil => rfl
      | cons t ts ih =>
        have := ih (by simp only [List.length_cons] at h; omega)
        simp only [List.map_cons, List.sum_cons, List.length_cons, this, digit]
        omega
    omega

theorem roundTrips_two_digits :
    RoundTrips (fun _ => 0) .mode4G (request ([0x1101, 0x2101].map digit)) :=
  (roundTrips_iff (fun _ => 0) .mode4G _ _ (sendable_digits [0x1101, 0x2101] (by decide))).2 (by decide)

/-- **A type with a zero byte is taken for two parameters.** -/
theorem zero_type_splits :
    Sendable (request [digit 0x0001]) [digit 0x0001] ∧ ¬ RoundTrips (fun _ => 0) .mode4G (request [digit 0x0001]) := by
  have hs : Sendable (request [digit 0x0001]) [digit 0x0001] := sendable_digits [0x0001] (by decide)
  refine ⟨hs, ?_⟩
  rintro ⟨d, hd, hsame⟩
  have hnum := para_num_of_recoded hs hd
  rw [hsame.para_num] at hnum
  exact absurd hnum (by decide)

end DataConcentrator.Protocol
