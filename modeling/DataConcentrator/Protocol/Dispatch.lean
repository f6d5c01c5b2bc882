/-
From a received frame to the queue of its device, `ServerFrameHandle` and `TransServerFrameStructToOtherTask`.

Allocations succeed; a read outside the memory of the frame is `none`.
- `serverFrameHandle_once`: a decoded structure is queued once or freed once, never both and never neither;
- `readable_decode`: a frame with a well-formed parameter list is decoded without leaving it;
- `dispatched_iff`: every frame goes where it should exactly unless it is a valid one for a known device whose parameter
  count is from 128 on, which the decoder returns as an error code.
-/
import DataConcentrator.Protocol.Decode

namespace DataConcentrator.Protocol

/-! ## The two functions -/

/-- `DEVICE_TYPE_E`, the devices with a queue -/
inductive DeviceType where
  | concentrator
  | lampController
  | relay
  | inputCollector
  | electricityMeter
  | lumeter
deriving DecidableEq, Repr

/-- the `switch` over the device type -/
def xQueue (device_type : UInt8) : Option DeviceType :=
  if device_type = 0x00 then some .concentrator
  else if device_type = 0x01 then some .lampController
  else if device_type = 0x02 then some .relay
  else if device_type = 0x03 then some .inputCollector
  else if device_type = 0x04 then some .electricityMeter
  else if device_type = 0x05 then some .lumeter
  else none

/-- what becomes of a structure: it waits on the queue of a device, or `DeleteServerFrameStruct` has freed it -/
inductive Event where
  | queued (device : DeviceType) (s : ServerFrameStruct)
  | freed (s : ServerFrameStruct)
deriving DecidableEq, Repr

/-- the high byte of `msg_id` -/
def deviceType (msg_id : UInt16) : UInt8 := ((msg_id &&& 0xFF00) >>> 8).toUInt8

/-- `TransServerFrameStructToOtherTask`; `sent` is the outcome of `xQueueSend` -/
def transServerFrameStructToOtherTask (sent : Bool) (s : ServerFrameStruct) : List Event :=
  match xQueue (deviceType s.msg_id) with
  | some device => if sent then [.queued device s] else [.freed s]
  | none => [.freed s]

/-- `ServerFrameHandle` -/
def serverFrameHandle (sent : Bool) (f : ServerFrame) : Option (List Event) :=
  (getServerFrameStruct f).map fun (ret, s) =>
    if ret ≥ 0 then transServerFrameStructToOtherTask sent s else [.freed s]

/-! ## Ownership -/

/-- **One owner.** A structure that was decoded is queued once or freed once. -/
theorem serverFrameHandle_once {sent : Bool} {f : ServerFrame} {events : List Event}
    (h : serverFrameHandle sent f = some events) : ∃ s, events = [.freed s] ∨ ∃ device, events = [.queued device s] := by
  obtain ⟨⟨ret, s⟩, -, rfl⟩ := Option.map_eq_some_iff.1 h
  have hqueue : ∃ t, transServerFrameStructToOtherTask sent s = [.freed t] ∨
      ∃ device, transServerFrameStructToOtherTask sent s = [.queued device t] := by
    refine ⟨s, ?_⟩
    unfold transServerFrameStructToOtherTask
    cases xQueue (deviceType s.msg_id) with
    | none => exact Or.inl rfl
    | some device =>
      cases sent with
      | false => exact Or.inl rfl
      | true => exact Or.inr ⟨device, rfl⟩
  by_cases hret : ret ≥ 0
  · simp only [if_pos hret]
    exact hqueue
  · simp only [if_neg hret]
    exact ⟨s, Or.inl rfl⟩

theorem trans_known {s : ServerFrameStruct} {device : DeviceType} (h : xQueue (deviceType s.msg_id) = some device) :
    transServerFrameStructToOtherTask true s = [.queued device s] := by
  rw [transServerFrameStructToOtherTask, h]
  rfl

theorem trans_unknown (sent : Bool) {s : ServerFrameStruct} (h : xQueue (deviceType s.msg_id) = none) :
    transServerFrameStructToOtherTask sent s = [.freed s] := by
  rw [transServerFrameStructToOtherTask, h]

/-! ## Decoding without leaving memory -/

/-- what the decoder needs of a frame whose parameters it reads: they are well formed and fill the frame up to its last
byte, or memory behind the frame holds a zero byte -/
def Readable (f : ServerFrame) : Prop :=
  CrcOk f → Down f → (∃ ps stop, (∀ p ∈ ps, p.IsText) ∧ paraPart f = paraBytes ps ++ [stop]) ∨ 0 ∈ f.buf.drop f.len

/-- a terminator behind the frame ends every search -/
theorem getParametersFrom_of_zero {f : ServerFrame} (h0 : 0 ∈ f.buf.drop f.len) (n : ℕ) :
    ∀ pos, ∃ para, getParametersFrom f n pos = some para := by
  induction n with
  | zero => exact fun pos => ⟨[], rfl⟩
  | succ n ih =>
    intro pos
    rw [getParametersFrom]
    by_cases hpos : pos < f.len - 1
    · have hfits := f.fits
      obtain ⟨hi, rest, hrest⟩ : ∃ hi rest, f.buf.drop pos = hi :: rest := by
        rw [List.drop_eq_getElem_cons (by omega)]
        exact ⟨_, _, rfl⟩
      have hsecond : f.buf.drop (pos + 1) = rest := by rw [← List.drop_drop, hrest]; rfl
      obtain ⟨lo, msg, hmsg⟩ : ∃ lo msg, rest = lo :: msg := by
        rw [← hsecond, List.drop_eq_getElem_cons (by omega)]
        exact ⟨_, _, rfl⟩
      have hthird : f.buf.drop (pos + 2) = msg := by
        rw [← List.drop_drop, hrest, hmsg]
        rfl
      have hzero : 0 ∈ msg := by
        rw [← hthird]
        have hsplit : f.buf.drop f.len = (f.buf.drop (pos + 2)).drop (f.len - (pos + 2)) := by
          rw [List.drop_drop, Nat.add_sub_cancel' (by omega)]
        rw [hsplit] at h0
        exact List.mem_of_mem_drop h0
      obtain ⟨k, hk⟩ := strlen_of_mem hzero
      have hget : ∃ p, getParameter f pos = some p := by
        rw [getParameter, hrest, hmsg]
        simp only [hk]
        exact ⟨_, rfl⟩
      obtain ⟨p, hp⟩ := hget
      obtain ⟨para, hpara⟩ := ih p.2
      refine ⟨some p.1 :: para, ?_⟩
      rw [if_pos hpos, hp]
      exact congrArg (Option.map (some p.1 :: ·)) hpara
    · obtain ⟨para, hpara⟩ := ih pos
      exact ⟨none :: para, by rw [if_neg hpos, hpara]; rfl⟩

/-- rounds after the last parameter read nothing -/
theorem getParametersFrom_end {f : ServerFrame} {pos : ℕ} (h : ¬ pos < f.len - 1) (n : ℕ) :
    getParametersFrom f n pos = some (List.replicate n none) := by
  induction n with
  | zero => rfl
  | succ n ih =>
    rw [getParametersFrom, if_neg h, ih]
    rfl

/-- well-formed parameters are read one after the other, however many entries were counted -/
theorem getParametersFrom_of_texts {f : ServerFrame} (hmax : f.len < 65536) (stop : UInt8) (ps : List Parameter)
    (ht : ∀ p ∈ ps, p.IsText) : ∀ n pos, (f.buf.take f.len).drop pos = paraBytes ps ++ [stop] →
      ∃ para, getParametersFrom f n pos = some para := by
  have hlen : (f.buf.take f.len).length = f.len := by rw [List.length_take, Nat.min_eq_left f.fits]
  induction ps with
  | nil =>
    intro n pos hd
    have hone := congrArg List.length hd
    rw [List.length_drop, hlen] at hone
    exact ⟨_, getParametersFrom_end (by simp [paraBytes] at hone; omega) n⟩
  | cons p ps ih =>
    intro n pos hd
    cases n with
    | zero => exact ⟨[], rfl⟩
    | succ n =>
      have hcons : paraBytes (p :: ps) = p.bytes ++ paraBytes ps := rfl
      rw [hcons, List.append_assoc] at hd
      have hsize := congrArg List.length hd
      rw [List.length_drop, hlen, List.length_append, List.length_append, List.length_singleton] at hsize
      have hp : 2 ≤ p.bytes.length := by simp [Parameter.bytes]
      have hbuf : f.buf.drop pos = p.bytes ++ (paraBytes ps ++ [stop] ++ f.buf.drop f.len) := by
        rw [← List.append_assoc, ← hd, ← List.drop_append_of_le_length (by rw [hlen]; omega), List.take_append_drop]
      have hget := getParameter_eq f pos p _ (ht p (by simp)) hbuf (by omega)
      have hnext : (f.buf.take f.len).drop (pos + p.bytes.length) = paraBytes ps ++ [stop] := by
        rw [← List.drop_drop, hd, List.drop_left]
      obtain ⟨para, hpara⟩ := ih (fun q hq => ht q (List.mem_cons_of_mem p hq)) n _ hnext
      refine ⟨some p.received :: para, ?_⟩
      rw [getParametersFrom, if_pos (by omega), hget]
      exact congrArg (Option.map (some p.received :: ·)) hpara

theorem readable_decode {f : ServerFrame} (hmax : f.len < 65536) (h : Readable f) (hcrc : CrcOk f) (hdown : Down f)
    (n : ℕ) : ∃ para, getParametersFrom f n 27 = some para := by
  rcases h hcrc hdown with ⟨ps, stop, ht, hpart⟩ | h0
  · exact getParametersFrom_of_texts hmax stop ps ht n 27 hpart
  · exact getParametersFrom_of_zero h0 n 27

/-! ## Dispatch -/

/-- the device that the frame names -/
def named (f : ServerFrame) : Option DeviceType := xQueue (deviceType (getBe16 (f.at 17) (f.at 18)))

/-- the frame is handled as it should be, the queue sends succeeding: the structure decoded from a valid frame of a known
device is queued for it once and not freed, everything else is freed once and not queued -/
structure Dispatched (f : ServerFrame) : Prop where
  valid : CrcOk f → ∀ device, named f = some device →
    ∃ ret s, getServerFrameStruct f = some (ret, s) ∧ serverFrameHandle true f = some [.queued device s]
  other : ¬ CrcOk f ∨ named f = none → ∃ s, serverFrameHandle true f = some [.freed s]

theorem handle_bad {f : ServerFrame} (h : ¬ CrcOk f) : ∃ s, serverFrameHandle true f = some [.freed s] := by
  rw [serverFrameHandle, getServerFrameStruct]
  by_cases hlen : f.len < 28
  · rw [if_pos hlen]
    exact ⟨_, rfl⟩
  · have hcrc : ¬ crc32 ((f.buf.drop 17).take (f.len - 18)) = getBe32 (f.at 13) (f.at 14) (f.at 15) (f.at 16) :=
      fun hc => h ⟨by omega, hc⟩
    rw [if_neg hlen, if_neg hcrc]
    exact ⟨_, rfl⟩

/-- a frame that passes the CRC gate is decoded, with `ret` as in the source -/
theorem decode_ok {f : ServerFrame} (hmax : f.len < 65536) (hcrc : CrcOk f) (hread : Readable f) :
    ∃ ret s, getServerFrameStruct f = some (ret, s) ∧ s.msg_id = getBe16 (f.at 17) (f.at 18) ∧
      (ret < 0 ↔ Down f ∧ 128 ≤ (paraPart f).count 0 % 256) := by
  by_cases hdown : Down f
  · obtain ⟨s, hs, hid, -⟩ := getServerFrameStruct_down hcrc hdown
    obtain ⟨para, hpara⟩ := readable_decode hmax hread hcrc hdown (getParameterNum f)
    rw [hpara] at hs
    refine ⟨_, _, hs, hid, ?_⟩
    rw [← getParameterNum_eq, asS8]
    have hlt : getParameterNum f < 256 := by
      rw [getParameterNum_eq]
      exact Nat.mod_lt _ (by omega)
    split_ifs with h128
    · exact ⟨fun h => by omega, fun h => by omega⟩
    · exact ⟨fun _ => ⟨hdown, by omega⟩, fun _ => by omega⟩
  · obtain ⟨s, hs, hid, -, -⟩ := getServerFrameStruct_up hcrc hdown
    exact ⟨0, s, hs, hid, fun h => absurd h (by omega), fun h => absurd h.1 hdown⟩

/-- **Dispatch.** A frame is handled as it should be unless it is a valid frame of a known device, of a type with
parameters, whose zero bytes from offset 27 on number at least 128 (mod 256). -/
theorem dispatched_iff {f : ServerFrame} (hmax : f.len < 65536) (hread : Readable f) :
    Dispatched f ↔ ¬ (CrcOk f ∧ (named f).isSome ∧ Down f ∧ 128 ≤ (paraPart f).count 0 % 256) := by
  by_cases hcrc : CrcOk f
  · obtain ⟨ret, s, hs, hid, hret⟩ := decode_ok hmax hcrc hread
    have hhandle : ∀ sent, serverFrameHandle sent f =
        some (if ret ≥ 0 then transServerFrameStructToOtherTask sent s else [.freed s]) := by
      intro sent
      rw [serverFrameHandle, hs]
      rfl
    constructor
    · rintro h ⟨-, hknown, hbad⟩
      obtain ⟨device, hdevice⟩ := Option.isSome_iff_exists.1 hknown
      obtain ⟨ret', s', -, hqueued⟩ := h.valid hcrc device hdevice
      have hneg := hret.2 hbad
      rw [hhandle, if_neg (by omega)] at hqueued
      simp at hqueued
    · intro h
      constructor
      · intro _ device hdevice
        have hpos : ret ≥ 0 := by
          by_contra hneg
          exact h ⟨hcrc, by rw [hdevice]; rfl, hret.1 (by omega)⟩
        refine ⟨ret, s, hs, ?_⟩
        rw [hhandle, if_pos hpos, trans_known (by rw [hid]; exact hdevice)]
      · rintro (hbad | hunknown)
        · exact absurd hcrc hbad
        · refine ⟨s, ?_⟩
          rw [hhandle, trans_unknown true (by rw [hid]; exact hunknown), ite_self]
  · exact ⟨fun _ h => hcrc h.1, fun _ => ⟨fun h => absurd h hcrc, fun _ => handle_bad hcrc⟩⟩

/-! ## Requests to the concentrator -/

/-- `n` parameters with the text `7` -/
def digits (n : ℕ) : List Parameter := (List.replicate n 0x1101).map digit

/-- a request of these, as it is received -/
def digitsFrame (n : ℕ) : ServerFrame := frameOf .mode4G (wire (request (digits n)) (digits n))

theorem paraPart_digits (n : ℕ) : paraPart (digitsFrame n) = paraBytes (digits n) ++ [0x03] := by
  rw [digitsFrame, paraPart_frameOf, drop_wire]
  rfl

theorem readable_digits (n : ℕ) : Readable (digitsFrame n) := by
  refine fun _ _ => Or.inl ⟨digits n, 0x03, fun p hp => ?_, paraPart_digits n⟩
  obtain ⟨t, -, rfl⟩ := List.mem_map.1 hp
  exact isText_digit t

theorem digits_succ (n : ℕ) : paraBytes (digits (n + 1)) = [0x11, 0x01, 0x37, 0x00] ++ paraBytes (digits n) := by
  rw [digits, List.replicate_succ, List.map_cons]
  rfl

theorem length_digits (n : ℕ) : (digitsFrame n).len = 28 + 4 * n := by
  have hpart : (paraBytes (digits n)).length = 4 * n := by
    induction n with
    | zero => rfl
    | succ n ih =>
      rw [digits_succ, List.length_append, ih]
      show 4 + 4 * n = 4 * (n + 1)
      omega
  rw [← hpart]
  exact length_wire _ _

theorem count_digits (n : ℕ) : (paraPart (digitsFrame n)).count 0 = n := by
  rw [paraPart_digits, List.count_append]
  induction n with
  | zero => rfl
  | succ n ih =>
    have hone : ([0x11, 0x01, 0x37, 0x00] : List UInt8).count 0 = 1 := by decide
    rw [digits_succ, List.count_append, hone]
    omega

theorem dispatched_one : Dispatched (digitsFrame 1) := by
  refine (dispatched_iff (by rw [length_digits]; omega) (readable_digits 1)).2 fun h => ?_
  have hcount := h.2.2.2
  rw [count_digits] at hcount
  exact absurd hcount (by decide)

/-- **A request with 128 parameters is freed**: the count comes back as -128. -/
theorem not_dispatched_128 : ¬ Dispatched (digitsFrame 128) := by
  have hcrc : CrcOk (digitsFrame 128) := crcOk_wire .mode4G _ _
  have hdown : Down (digitsFrame 128) := Or.inl rfl
  have hnamed : named (digitsFrame 128) = some .lampController := by rfl
  obtain ⟨ret, s, hs, -, hret⟩ := decode_ok (by rw [length_digits]; omega) hcrc (readable_digits 128)
  intro h
  obtain ⟨ret', s', -, hqueued⟩ := h.valid hcrc _ hnamed
  have hneg : ret < 0 := hret.2 ⟨hdown, by rw [count_digits]⟩
  rw [serverFrameHandle, hs] at hqueued
  simp only [Option.map_some, ge_iff_le, if_neg (show ¬ 0 ≤ ret by omega)] at hqueued
  simp at hqueued

end DataConcentrator.Protocol
