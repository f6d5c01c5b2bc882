/-
What `GetParameters` reads and stores on any frame that passes the CRC gate.

The number of entries is a count of zero bytes; the values are found by a cursor of their own.
- `getParametersFrom_stored_iff`: the loop stays in the frame and fills its entries exactly when they are all there;
- `parameters_count_iff`: a count below 256 fits the parameters exactly when each zero byte has two other bytes before it;
- `safe_iff`: the decoder is safe exactly on the frames whose parameters come in the counted number.
-/
import DataConcentrator.Protocol.RoundTrip

namespace DataConcentrator.Protocol

/-! ## Frames -/

/-- the CRC gate -/
def CrcOk (f : ServerFrame) : Prop :=
  28 ≤ f.len ∧ crc32 ((f.buf.drop 17).take (f.len - 18)) = getBe32 (f.at 13) (f.at 14) (f.at 15) (f.at 16)

/-- the message types that carry parameters -/
def Down (f : ServerFrame) : Prop := f.at 1 = SERVER_REQUEST_DOWN ∨ f.at 1 = SERVER_RESPONSE_DOWN ∨ f.at 1 = SYNC_RESPONSE

instance decidableDown (f : ServerFrame) : Decidable (Down f) := by unfold Down; infer_instance

/-- everything from the first parameter on -/
def paraPart (f : ServerFrame) : List UInt8 := (f.buf.take f.len).drop 27

theorem getParameterNum_eq (f : ServerFrame) : getParameterNum f = (paraPart f).count 0 % 256 := by
  rw [getParameterNum, countZeros_eq _ 0 (by omega), Nat.zero_add]
  rfl

theorem getServerFrameStruct_up {f : ServerFrame} (hcrc : CrcOk f) (hup : ¬ Down f) :
    ∃ s, getServerFrameStruct f = some (0, s) ∧ s.msg_id = getBe16 (f.at 17) (f.at 18) ∧ s.para_num = 0 ∧ s.para = [] := by
  unfold getServerFrameStruct
  have hlen := hcrc.1
  rw [if_neg (by omega), if_pos hcrc.2]
  exact ⟨_, if_neg hup, rfl, rfl, rfl⟩

theorem getServerFrameStruct_down {f : ServerFrame} (hcrc : CrcOk f) (hdown : Down f) :
    ∃ s : ServerFrameStruct, getServerFrameStruct f = (getParametersFrom f (getParameterNum f) 27).map (fun para =>
      (asS8 (getParameterNum f), { s with para := para })) ∧
        s.msg_id = getBe16 (f.at 17) (f.at 18) ∧ s.para_num = getParameterNum f := by
  refine ⟨{
    connection_mode := f.connection_mode
    start := f.at 0
    msg_type := f.at 1
    serial_num := getBe32 (f.at 2) (f.at 3) (f.at 4) (f.at 5)
    msg_len := getBe16 (f.at 6) (f.at 7)
    err_code := f.at 8
    crc32 := getBe32 (f.at 13) (f.at 14) (f.at 15) (f.at 16)
    msg_id := getBe16 (f.at 17) (f.at 18)
    gateway_id := getBe32 (f.at 19) (f.at 20) (f.at 21) (f.at 22)
    device_id := getBe32 (f.at 23) (f.at 24) (f.at 25) (f.at 26)
    para_num := getParameterNum f
    para := []
    stop := f.at (f.len - 1) }, ?_, rfl, rfl⟩
  exact getServerFrameStruct_of_crc f hcrc.1 hcrc.2 hdown

/-! ## Parameters -/

/-- `n` parameters from the start of `bytes` on, each a type and a terminated text -/
inductive Parameters : ℕ → List UInt8 → Prop
  | none (bytes : List UInt8) : Parameters 0 bytes
  | next (hi lo : UInt8) (text rest : List UInt8) (n : ℕ) : 0 ∉ text → Parameters n rest →
      Parameters (n + 1) (hi :: lo :: (text ++ 0 :: rest))

/-- one round on the frame: where a parameter is, the cursor goes on behind it -/
theorem getParameter_text (f : ServerFrame) (hmax : f.buf.length < 65536) {pos : ℕ} {hi lo : UInt8} {text rest : List UInt8}
    (hd : f.buf.drop pos = hi :: lo :: (text ++ 0 :: rest)) (h0 : 0 ∉ text) :
    getParameter f pos = some (⟨getBe16 hi lo, text.length, text ++ [0]⟩, pos + (text.length + 3)) ∧
      f.buf.drop (pos + (text.length + 3)) = rest ∧ pos + (text.length + 3) ≤ f.buf.length := by
  have hlen := congrArg List.length hd
  rw [List.length_drop, List.length_cons, List.length_cons, List.length_append, List.length_cons] at hlen
  have hvalue : (text ++ 0 :: rest).take (text.length + 1) = text ++ [0] := by simp [List.take_append]
  refine ⟨?_, ?_, by omega⟩
  · simp only [getParameter, hd, strlen_text text rest h0, Option.map_some]
    rw [Nat.mod_eq_of_lt (by omega), hvalue, Nat.mod_eq_of_lt (by omega)]
    congr 2
    omega
  · rw [← List.drop_drop, hd]
    simp [List.drop_append]

/-- one round that stays in the frame has found a parameter -/
theorem text_of_getParameter {f : ServerFrame} {pos : ℕ} {p : Parameter × ℕ} (h : getParameter f pos = some p) :
    ∃ hi lo text rest, f.buf.drop pos = hi :: lo :: (text ++ 0 :: rest) ∧ 0 ∉ text := by
  unfold getParameter at h
  split at h
  · rename_i hi lo msg hd
    obtain ⟨n, hn, -⟩ := Option.map_eq_some_iff.1 h
    obtain ⟨text, rest, hmsg, h0, -⟩ := text_of_strlen hn
    exact ⟨hi, lo, text, rest, by rw [hd, hmsg], h0⟩
  · exact absurd h (by simp)

/-- the entries are all stored -/
def Stored (para : List (Option Parameter)) : Prop := ∀ e ∈ para, e ≠ none

/-- **The loop of `GetParameters`** reads inside the frame and stores its `n` entries exactly when there are `n` parameters
from the cursor on. -/
theorem getParametersFrom_stored_iff (f : ServerFrame) (hall : f.len = f.buf.length) (hmax : f.buf.length < 65536) (n : ℕ) :
    ∀ pos, (∃ para, getParametersFrom f n pos = some para ∧ Stored para) ↔ Parameters n (f.buf.drop pos) := by
  induction n with
  | zero => exact fun pos => ⟨fun _ => .none _, fun _ => ⟨[], rfl, by simp [Stored]⟩⟩
  | succ n ih =>
    intro pos
    rw [getParametersFrom]
    constructor
    · rintro ⟨para, hpara, hstored⟩
      split_ifs at hpara with hpos
      · obtain ⟨⟨p, next⟩, hp, hrest⟩ := Option.bind_eq_some_iff.1 hpara
        obtain ⟨tail, htail, rfl⟩ := Option.map_eq_some_iff.1 hrest
        obtain ⟨hi, lo, text, rest, hd, h0⟩ := text_of_getParameter hp
        obtain ⟨hget, hnext, -⟩ := getParameter_text f hmax hd h0
        have hcursor := (Prod.mk.inj (Option.some.inj (hp.symm.trans hget))).2
        have hmore := (ih next).1 ⟨tail, htail, fun e he => hstored e (List.mem_cons_of_mem _ he)⟩
        rw [hcursor, hnext] at hmore
        rw [hd]
        exact .next hi lo text rest n h0 hmore
      · obtain ⟨tail, -, rfl⟩ := Option.map_eq_some_iff.1 hpara
        exact absurd rfl (hstored none (by simp))
    · intro h
      generalize hd : f.buf.drop pos = bytes at h
      cases h with
      | next hi lo text rest n h0 hmore =>
        obtain ⟨hget, hnext, hend⟩ := getParameter_text f hmax hd h0
        obtain ⟨tail, htail, hstored⟩ := (ih (pos + (text.length + 3))).2 (by rw [hnext]; exact hmore)
        refine ⟨some ⟨getBe16 hi lo, text.length, text ++ [0]⟩ :: tail, ?_, ?_⟩
        · rw [if_pos (by omega), hget]
          exact congrArg (Option.map (some _ :: ·)) htail
        · intro e he
          rcases List.mem_cons.1 he with rfl | he
          · simp
          · exact hstored e he

/-! ## Zero bytes -/

/-- every zero byte has two other bytes before it -/
def Spaced (bytes : List UInt8) : Prop :=
  ∀ pre post, bytes = pre ++ 0 :: post → ∃ before hi lo, pre = before ++ [hi, lo] ∧ hi ≠ 0 ∧ lo ≠ 0

theorem le_count_of_parameters {n : ℕ} {bytes : List UInt8} (h : Parameters n bytes) : n ≤ bytes.count 0 := by
  induction h with
  | none bytes => exact Nat.zero_le _
  | next hi lo text rest n h0 hrest ih =>
    rw [List.count_cons, List.count_cons, List.count_append, List.count_cons_self]
    omega

/-- a text with something before it ends in two bytes that are not zero -/
theorem two_before {hi lo : UInt8} (hhi : hi ≠ 0) (hlo : lo ≠ 0) (text : List UInt8) (h0 : 0 ∉ text) :
    ∃ before a b, hi :: lo :: text = before ++ [a, b] ∧ a ≠ 0 ∧ b ≠ 0 := by
  induction text generalizing hi lo with
  | nil => exact ⟨[], hi, lo, rfl, hhi, hlo⟩
  | cons t text ih =>
    rw [List.mem_cons, not_or] at h0
    obtain ⟨before, a, b, heq, ha, hb⟩ := ih hlo (fun h => h0.1 h.symm) h0.2
    exact ⟨hi :: before, a, b, by rw [heq]; rfl, ha, hb⟩

/-- where no zero byte is too early, what follows the first text is spaced as well -/
theorem spaced_iff {hi lo : UInt8} {text rest : List UInt8} (h0 : 0 ∉ text) :
    Spaced (hi :: lo :: (text ++ 0 :: rest)) ↔ (hi ≠ 0 ∧ lo ≠ 0) ∧ Spaced rest := by
  have hwhole : hi :: lo :: (text ++ 0 :: rest) = (hi :: lo :: text) ++ 0 :: rest := rfl
  constructor
  · intro h
    have hhi : hi ≠ 0 := by
      rintro rfl
      obtain ⟨before, a, b, hnil, -⟩ := h [] (lo :: (text ++ 0 :: rest)) rfl
      simp at hnil
    have hlo : lo ≠ 0 := by
      rintro rfl
      obtain ⟨before, a, b, hone, -⟩ := h [hi] (text ++ 0 :: rest) rfl
      have := congrArg List.length hone
      simp at this
    refine ⟨⟨hhi, hlo⟩, fun pre post hrest => ?_⟩
    obtain ⟨before, a, b, hpre, ha, hb⟩ := h (hi :: lo :: text ++ 0 :: pre) post (by rw [hwhole, hrest]; simp)
    rcases List.eq_nil_or_concat' pre with rfl | ⟨pre', b', rfl⟩
    · -- the terminator would be one of the two
      have hcut : (hi :: lo :: text) ++ [0] = (before ++ [a]) ++ [b] := by simpa using hpre
      exact absurd (List.cons.inj (List.append_inj' hcut rfl).2).1.symm hb
    · rcases List.eq_nil_or_concat' pre' with rfl | ⟨pre'', a', rfl⟩
      · have hcut : (hi :: lo :: text) ++ [0] ++ [b'] = (before ++ [a]) ++ [b] := by simpa using hpre
        obtain ⟨hcut, -⟩ := List.append_inj' hcut rfl
        exact absurd (List.cons.inj (List.append_inj' hcut rfl).2).1.symm ha
      · have hcut : (hi :: lo :: text ++ 0 :: pre'') ++ [a', b'] = before ++ [a, b] := by simpa using hpre
        obtain ⟨-, htwo⟩ := List.append_inj' hcut rfl
        obtain ⟨rfl, hone⟩ := List.cons.inj htwo
        obtain ⟨rfl, -⟩ := List.cons.inj hone
        exact ⟨pre'', a', b', by simp, ha, hb⟩
  · rintro ⟨⟨hhi, hlo⟩, hrest⟩ pre post heq
    rw [hwhole] at heq
    rcases List.append_eq_append_iff.1 heq with ⟨more, rfl, hmore⟩ | ⟨more, htext, hmore⟩
    · rcases more with _ | ⟨z, more⟩
      · rw [List.append_nil]
        exact two_before hhi hlo text h0
      · obtain ⟨rfl, hrest'⟩ := List.cons.inj hmore
        obtain ⟨before, a, b, rfl, ha, hb⟩ := hrest more post hrest'
        exact ⟨hi :: lo :: text ++ 0 :: before, a, b, by simp, ha, hb⟩
    · rcases more with _ | ⟨z, more⟩
      · rw [List.append_nil] at htext
        rw [← htext]
        exact two_before hhi hlo text h0
      · -- no zero byte before the terminator
        obtain ⟨rfl, -⟩ := List.cons.inj hmore
        have hmem : (0 : UInt8) ∈ hi :: lo :: text := by rw [htext]; simp
        simp only [List.mem_cons] at hmem
        rcases hmem with h | h | h
        · exact absurd h.symm hhi
        · exact absurd h.symm hlo
        · exact absurd h h0

theorem spaced_of_no_zero {bytes : List UInt8} (h : 0 ∉ bytes) : Spaced bytes := by
  intro pre post heq
  exact absurd (by rw [heq]; simp) h

theorem spaced_of_parameters {n : ℕ} {bytes : List UInt8} (h : Parameters n bytes) (hn : n = bytes.count 0) :
    Spaced bytes := by
  induction h with
  | none bytes => exact spaced_of_no_zero (List.count_eq_zero.1 hn.symm)
  | next hi lo text rest n h0 hrest ih =>
    have hle := le_count_of_parameters hrest
    rw [List.count_cons, List.count_cons, List.count_append, List.count_cons_self,
      List.count_eq_zero_of_not_mem h0] at hn
    refine (spaced_iff h0).2 ⟨⟨?_, ?_⟩, ih (by omega)⟩
    · rintro rfl
      simp only [beq_self_eq_true, if_true] at hn
      omega
    · rintro rfl
      simp only [beq_self_eq_true, if_true] at hn
      omega

theorem parameters_of_spaced (bytes : List UInt8) (h : Spaced bytes) : Parameters (bytes.count 0) bytes := by
  induction hn : bytes.length using Nat.strong_induction_on generalizing bytes with
  | _ n ih =>
    by_cases hmem : 0 ∈ bytes
    · obtain ⟨pre, rest, rfl, hpre⟩ := List.eq_append_cons_of_mem hmem
      obtain ⟨hi, lo, text, rfl⟩ : ∃ hi lo text, pre = hi :: lo :: text := by
        obtain ⟨before, a, b, rfl, -⟩ := h pre rest rfl
        rcases before with _ | ⟨c, _ | ⟨d, before⟩⟩
        · exact ⟨a, b, [], rfl⟩
        · exact ⟨c, a, [b], rfl⟩
        · exact ⟨c, d, before ++ [a, b], rfl⟩
      have h0 : 0 ∉ text := fun h => hpre (by simp [h])
      obtain ⟨⟨hhi, hlo⟩, hrest⟩ := (spaced_iff h0).1 h
      have hcount : (hi :: lo :: text ++ 0 :: rest).count 0 = rest.count 0 + 1 := by
        rw [List.count_append, List.count_eq_zero_of_not_mem hpre, List.count_cons_self, Nat.zero_add]
      rw [hcount]
      refine .next hi lo text rest _ h0 (ih rest.length ?_ rest hrest rfl)
      rw [← hn, List.length_append, @List.length_cons _ 0]
      omega
    · rw [List.count_eq_zero_of_not_mem hmem]
      exact .none _

/-- **As many parameters as zero bytes** are there exactly when the zero bytes are spaced. -/
theorem parameters_count_iff (bytes : List UInt8) : Parameters (bytes.count 0) bytes ↔ Spaced bytes :=
  ⟨fun h => spaced_of_parameters h rfl, parameters_of_spaced bytes⟩

/-! ## Safety -/

/-- the decoder reads only inside `bytes`, and the entries it counts are the ones it stores -/
def Safe (mode : ConnectionMode) (bytes : List UInt8) : Prop :=
  ∃ ret s, getServerFrameStruct (frameOf mode bytes) = some (ret, s) ∧ s.para.length = s.para_num ∧ Stored s.para

theorem length_getParametersFrom (f : ServerFrame) (n : ℕ) : ∀ pos para, getParametersFrom f n pos = some para →
    para.length = n := by
  induction n with
  | zero =>
    intro pos para h
    rw [← Option.some.inj h]
    rfl
  | succ n ih =>
    intro pos para h
    rw [getParametersFrom] at h
    split_ifs at h
    · obtain ⟨⟨p, next⟩, -, hrest⟩ := Option.bind_eq_some_iff.1 h
      obtain ⟨tail, htail, rfl⟩ := Option.map_eq_some_iff.1 hrest
      rw [List.length_cons, ih next tail htail]
    · obtain ⟨tail, htail, rfl⟩ := Option.map_eq_some_iff.1 h
      rw [List.length_cons, ih pos tail htail]

theorem paraPart_frameOf (mode : ConnectionMode) (bytes : List UInt8) : paraPart (frameOf mode bytes) = bytes.drop 27 := by
  rw [paraPart, frameOf, List.take_length]

theorem safe_of_down_iff (mode : ConnectionMode) {bytes : List UInt8} (hmax : bytes.length < 65536)
    (hcrc : CrcOk (frameOf mode bytes)) (hdown : Down (frameOf mode bytes)) :
    Safe mode bytes ↔ Parameters ((bytes.drop 27).count 0 % 256) (bytes.drop 27) := by
  obtain ⟨s, hs, -, hnum⟩ := getServerFrameStruct_down hcrc hdown
  have hloop := getParametersFrom_stored_iff (frameOf mode bytes) rfl hmax (getParameterNum (frameOf mode bytes)) 27
  rw [← paraPart_frameOf mode bytes, ← getParameterNum_eq, paraPart_frameOf, Safe, hs]
  refine Iff.trans ?_ hloop
  constructor
  · rintro ⟨ret, d, hd, -, hstored⟩
    obtain ⟨para, hpara, hpair⟩ := Option.map_eq_some_iff.1 hd
    rw [← (Prod.mk.inj hpair).2] at hstored
    exact ⟨para, hpara, hstored⟩
  · rintro ⟨para, hpara, hstored⟩
    refine ⟨_, _, by rw [hpara]; rfl, ?_, hstored⟩
    exact (length_getParametersFrom _ _ _ _ hpara).trans hnum.symm

/-- **Decoder safety.** On a frame that passes the CRC gate the decoder reads inside the frame and stores every entry it
counts exactly when the frame carries no parameters, or has from offset 27 on as many complete ones as it has zero bytes
there (mod 256); with fewer than 256 zero bytes this says that each of them has two other bytes before it. -/
theorem safe_iff (mode : ConnectionMode) {bytes : List UInt8} (hmax : bytes.length < 65536)
    (hcrc : CrcOk (frameOf mode bytes)) :
    (Safe mode bytes ↔
      (Down (frameOf mode bytes) → Parameters ((bytes.drop 27).count 0 % 256) (bytes.drop 27))) ∧
    ((bytes.drop 27).count 0 < 256 →
      (Safe mode bytes ↔ (Down (frameOf mode bytes) → Spaced (bytes.drop 27)))) := by
  have hwhole : Safe mode bytes ↔
      (Down (frameOf mode bytes) → Parameters ((bytes.drop 27).count 0 % 256) (bytes.drop 27)) := by
    by_cases hdown : Down (frameOf mode bytes)
    · rw [safe_of_down_iff mode hmax hcrc hdown]
      exact ⟨fun h _ => h, fun h => h hdown⟩
    · obtain ⟨s, hs, -, hnum, hpara⟩ := getServerFrameStruct_up hcrc hdown
      refine ⟨fun _ h => absurd h hdown, fun _ => ⟨0, s, hs, ?_, ?_⟩⟩
      · rw [hnum, hpara]
        rfl
      · rw [hpara]
        simp [Stored]
  refine ⟨hwhole, fun hfew => ?_⟩
  rw [hwhole, Nat.mod_eq_of_lt hfew, parameters_count_iff]

/-- a built frame passes the gate -/
theorem crcOk_wire (mode : ConnectionMode) (s : ServerFrameStruct) (ps : List Parameter) :
    CrcOk (frameOf mode (wire s ps)) := by
  have hlen : (frameOf mode (wire s ps)).len = 28 + (paraBytes ps).length := length_wire s ps
  refine ⟨by omega, ?_⟩
  rw [crcPart_wire mode s ps]
  exact (getBe32_putBe32 (crc32 (crcPart s ps))).symm

theorem safe_two_digits : Safe .mode4G (wire (request ([0x1101, 0x2101].map digit)) ([0x1101, 0x2101].map digit)) := by
  have hpart := drop_wire (request ([0x1101, 0x2101].map digit)) ([0x1101, 0x2101].map digit)
  refine (safe_iff .mode4G (by rw [length_wire]; decide) (crcOk_wire .mode4G _ _)).1.2 fun _ => ?_
  rw [hpart]
  exact .next 0x11 0x01 [0x37] _ 1 (by decide) (.next 0x21 0x01 [0x37] [0x03] 0 (by decide) (.none _))

/-- **An entry that is never set**: the zero byte of a type `0x0001` is counted as a second parameter. -/
theorem unset_entry : ¬ Safe .mode4G (wire (request [digit 0x0001]) [digit 0x0001]) := by
  intro h
  have hdown : Down (frameOf .mode4G (wire (request [digit 0x0001]) [digit 0x0001])) := Or.inl rfl
  have hparams := (safe_of_down_iff .mode4G (by rw [length_wire]; decide) (crcOk_wire .mode4G _ _) hdown).1 h
  rw [drop_wire] at hparams
  have hspaced := spaced_of_parameters hparams (by decide)
  obtain ⟨before, a, b, hnil, -⟩ := hspaced [] [0x01, 0x37, 0x00, 0x03] rfl
  exact absurd (congrArg List.length hnil) (by simp)

end DataConcentrator.Protocol
