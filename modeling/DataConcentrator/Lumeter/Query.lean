/-
The query of the light sensors' values: `LumeterGetCurrentState`.

Allocations succeed and every frame is queued. A text that does not fit `tmp`, and a parameter past those allocated, have
no result.
- `visit_eq`: both passes over the queried pairs and the sensors meet the matching sensors in order;
- `fill_eq`: the answer has room for two of them;
- `answered_iff`: when the answer holds the address and the value of each matching sensor.
-/
import DataConcentrator.Common.Hex
import DataConcentrator.Lamp.Query
import DataConcentrator.Lumeter.Average
import DataConcentrator.Relay.StrategyText

namespace DataConcentrator.Lumeter

open CLoop (foldlM_range_getElem? foldlM_ran)
open Lamp (DEVICE_RESPONSE_UP NO_ERR respond textParameter)
open Protocol (Parameter ServerFrameStruct SYNC_RESPONSE)
open Relay (sprintfX)

/-! ## The two passes -/

/-- the address of a queried pair, and `tmp` after it was read there -/
def readAddress (value tmp : List UInt8) : Option (UInt8 × List UInt8) := do
  let (text, r) ← (Reader.mk value tmp).field 25 (· = 0)
  let tmp := if text.length = 1 then 0x30 :: text ++ r.tmp.drop 2 else r.tmp
  let add ← strToHex 1 tmp
  some (add.headD 0, tmp)

/-- the queried pair `k` is the address and the channel of a sensor -/
def readPair (s : ServerFrameStruct) (k : ℕ) (sensor : SensorState) (tmp : List UInt8) : Option (Bool × List UInt8) := do
  let address ← s.paraAt (k * 2)
  let (add, tmp) ← readAddress address.value tmp
  let channel ← s.paraAt (k * 2 + 1)
  let ch := u8Of channel.value
  some (add = sensor.address && ch = sensor.channel, tmp)

section Visit

variable {σ : Type} (r : Receiver) (s : ServerFrameStruct) (body : σ → SensorState → Option σ)

/-- one round of the inner loop: `body` at a match -/
def visitSensor (k : ℕ) (st : σ × List UInt8) (j : ℕ) : Option (σ × List UInt8) := do
  let (hit, tmp) ← readPair s k (r.state j) st.2
  let next ← if hit then body st.1 (r.state j) else some st.1
  some (next, tmp)

def visitPair (st : σ × List UInt8) (k : ℕ) : Option (σ × List UInt8) :=
  (List.range r.number).foldlM (visitSensor r s body k) st

/-- the two loops, which the source has twice -/
def visit (st : σ) (tmp : List UInt8) : Option (σ × List UInt8) :=
  let module_num := s.para_num / 2
  (List.range module_num).foldlM (visitPair r s body) (st, tmp)

end Visit

def setPara (para : List (Option Parameter)) (i : ℕ) (p : Parameter) : Option (List (Option Parameter)) :=
  if i < para.length then some (para.set i (some p)) else none

/-- `%d` of a `u32` -/
def sprintfD32 (x : UInt32) : List UInt8 := sprintfD ((x.toNat : ℤ).bmod (2 ^ 32))

/-- the address and the value of a sensor, at the cursor `i` -/
def fillSensor (st : List (Option Parameter) × ℕ) (sensor : SensorState) : Option (List (Option Parameter) × ℕ) := do
  let (para, i) := st
  let para ← setPara para i (textParameter (0x3001 + UInt16.ofNat i) (sprintfX sensor.address))
  let i := (i + 1) % 256
  let para ← setPara para i (textParameter (0x4001 + UInt16.ofNat i) (sprintfD32 sensor.value))
  some (para, (i + 1) % 256)

/-- the frames that are queued; `tmp` starts as zeros -/
def lumeterGetCurrentState (r : Receiver) (s : ServerFrameStruct) : Option (List ServerFrameStruct) :=
  if s.para_num % 2 = 0 then do
    let (para_num, tmp) ← visit r s (fun n _ => some ((n + 2) % 256)) 0 (List.replicate 25 0)
    if para_num ≠ 0 then
      let para_num := 4
      let ((para, _), _) ← visit r s fillSensor (List.replicate para_num none, 0) tmp
      some [respond s [], { respond s [] with msg_type := SYNC_RESPONSE, para_num := para_num, para := para }]
    else some [respond s []]
  else some []

/-! ## Queries -/

/-- a pair as it is asked for -/
structure Pair where
  address : List UInt8
  channel : List UInt8
  pos : 0 < address.length
  address_text : 0 ∉ address
  channel_text : 0 ∉ channel

/-- a request and the pairs it asks for; `para_num` is a `u8` -/
structure Query where
  frame : ServerFrameStruct
  pairs : List Pair
  num : frame.para_num = 2 * pairs.length
  byte : frame.para_num < 256
  address : ∀ k p, pairs[k]? = some p → ∃ q, frame.paraAt (k * 2) = some q ∧ q.value = p.address ++ [0]
  channel : ∀ k p, pairs[k]? = some p → ∃ q, frame.paraAt (k * 2 + 1) = some q ∧ q.value = p.channel ++ [0]

/-- the sensor a pair asks for -/
def Pair.asks (p : Pair) (sensor : SensorState) : Bool :=
  hexByteOf p.address = sensor.address && u8Of (p.channel ++ [0]) = sensor.channel

/-- the sensors that are asked for, in the order of the pairs -/
def matching (r : Receiver) (pairs : List Pair) : List SensorState :=
  pairs.flatMap fun p => ((List.range r.number).map r.state).filter p.asks

section Visit

variable {r : Receiver}

theorem readAddress_eq {text : List UInt8} (hpos : 0 < text.length) (htext : 0 ∉ text) (tmp : List UInt8) :
    ∃ tmp', readAddress (text ++ [0]) tmp = if text.length < 25 then some (hexByteOf text, tmp') else none := by
  have hplain : ∀ x ∈ text, decide (x = 0) = false := fun x hx => decide_eq_false fun h => htext (h ▸ hx)
  by_cases hlen : text.length < 25
  · simp only [readAddress, Reader.field, TextScan.scan_text (b := (0 : UInt8)) (decide_eq_true rfl) hplain hlen,
      if_pos hlen]
    rcases text with _ | ⟨h1, _ | ⟨h2, more⟩⟩
    · exact absurd hpos (Nat.lt_irrefl 0)
    · exact ⟨_, rfl⟩
    · have htwo : ¬ (h1 :: h2 :: more).length = 1 := by simp
      simp only [Option.map_some, Option.bind_eq_bind, Option.bind_some, if_neg htwo]
      exact ⟨_, rfl⟩
  · simp only [readAddress, Reader.field, TextScan.scan_long hplain (Nat.not_lt.1 hlen), if_neg hlen]
    exact ⟨tmp, rfl⟩

theorem readPair_eq (q : Query) {k : ℕ} {p : Pair} (hp : q.pairs[k]? = some p) (sensor : SensorState) (tmp : List UInt8) :
    ∃ tmp', readPair q.frame k sensor tmp = if p.address.length < 25 then some (p.asks sensor, tmp') else none := by
  obtain ⟨a, ha, haddress⟩ := q.address k p hp
  obtain ⟨c, hc, hchannel⟩ := q.channel k p hp
  obtain ⟨tmp', hread⟩ := readAddress_eq p.pos p.address_text tmp
  refine ⟨tmp', ?_⟩
  rw [readPair, ha, Option.bind_eq_bind, Option.bind_some, haddress, hread, hc]
  split_ifs
  · rw [Pair.asks, ← hchannel]
    rfl
  · rfl

variable {σ : Type} {body : σ → SensorState → Option σ}

/-- the sensors met for one pair -/
theorem visitPair_eq (q : Query) {k : ℕ} {p : Pair} (hp : q.pairs[k]? = some p) (hlen : p.address.length < 25)
    (js : List ℕ) : ∀ st : σ × List UInt8, (js.foldlM (visitSensor r q.frame body k) st).map Prod.fst =
      ((js.map r.state).filter p.asks).foldlM body st.1 := by
  induction js with
  | nil => exact fun st => rfl
  | cons j js ih =>
    intro st
    obtain ⟨tmp', hread⟩ := readPair_eq q hp (r.state j) st.2
    rw [List.foldlM_cons, visitSensor, hread, if_pos hlen, List.map_cons]
    simp only [Option.bind_eq_bind, Option.bind_some]
    cases hasks : p.asks (r.state j) with
    | true =>
      rw [List.filter_cons_of_pos hasks, if_pos rfl, List.foldlM_cons]
      cases hbody : body st.1 (r.state j) with
      | none => rfl
      | some next => exact ih (next, tmp')
    | false =>
      rw [List.filter_cons_of_neg (by simp [hasks]), if_neg Bool.false_ne_true]
      exact ih (st.1, tmp')

/-- the texts fit `tmp` -/
def Short (r : Receiver) (pairs : List Pair) : Prop := r.number = 0 ∨ ∀ p ∈ pairs, p.address.length < 25

/-- **A pass** meets the matching sensors in order, if the texts fit. -/
theorem visit_eq (q : Query) (h : Short r q.pairs) (st : σ) (tmp : List UInt8) :
    (visit r q.frame body st tmp).map Prod.fst = (matching r q.pairs).foldlM body st := by
  have hnum : q.frame.para_num / 2 = q.pairs.length := by
    rw [q.num]
    omega
  have hprefix : ∀ n ≤ q.pairs.length, ((List.range n).foldlM (visitPair r q.frame body) (st, tmp)).map Prod.fst =
      (matching r (q.pairs.take n)).foldlM body st := by
    intro n
    induction n with
    | zero => exact fun _ => rfl
    | succ n ih =>
      intro hn
      have hp : q.pairs[n]? = some q.pairs[n] := List.getElem?_eq_getElem hn
      have htake : matching r (q.pairs.take (n + 1)) =
          matching r (q.pairs.take n) ++ ((List.range r.number).map r.state).filter (q.pairs[n]).asks := by
        rw [List.take_add_one, hp, Option.toList_some, matching, List.flatMap_append, List.flatMap_singleton]
        rfl
      rw [htake, List.foldlM_append, ← ih (Nat.le_of_succ_le hn), List.range_succ, List.foldlM_append]
      cases (List.range n).foldlM (visitPair r q.frame body) (st, tmp) with
      | none => rfl
      | some st' =>
        simp only [Option.bind_eq_bind, Option.bind_some, Option.map_some, List.foldlM_cons, List.foldlM_nil,
          Option.pure_def, Option.bind_fun_some]
        rcases h with h | h
        · simp [visitPair, h]
        · exact visitPair_eq q hp (h _ (List.getElem_mem hn)) _ st'
  rw [visit, hnum, hprefix _ le_rfl, List.take_length]

/-- otherwise it has no result -/
theorem visit_long (q : Query) (h : ¬ Short r q.pairs) (st : σ) (tmp : List UInt8) :
    visit r q.frame body st tmp = none := by
  rw [Short, not_or, not_forall] at h
  obtain ⟨hnumber, p, hp⟩ := h
  rw [Classical.not_imp] at hp
  obtain ⟨hmem, hlong⟩ := hp
  obtain ⟨k, hk, hget⟩ := List.getElem_of_mem hmem
  have hnum : q.frame.para_num / 2 = q.pairs.length := by
    rw [q.num]
    omega
  by_contra hsome
  obtain ⟨t, ht⟩ := Option.ne_none_iff_exists'.1 hsome
  obtain ⟨u, v, huv⟩ := foldlM_ran _ _ _ ht k (List.mem_range.2 (by rw [hnum]; exact hk))
  obtain ⟨u', v', huv'⟩ := foldlM_ran _ _ _ huv 0 (List.mem_range.2 (Nat.pos_of_ne_zero hnumber))
  obtain ⟨tmp', hread⟩ := readPair_eq q (show q.pairs[k]? = some p by rw [List.getElem?_eq_getElem hk, hget]) (r.state 0) u'.2
  rw [visitSensor, hread, if_neg hlong] at huv'
  exact absurd huv'.symm (Option.some_ne_none _)

end Visit

/-! ## The answer -/

/-- the parameters of the sensors, from the cursor on: the address, then the value -/
def parameters : ℕ → List SensorState → List Parameter
  | _, [] => []
  | i, s :: ss => textParameter (0x3001 + UInt16.ofNat i) (sprintfX s.address) ::
      textParameter (0x4001 + UInt16.ofNat (i + 1)) (digits s.value.toNat) :: parameters (i + 2) ss

/-- if any sensor matches, the answer holds the parameters of those that match, and no others; otherwise there is none -/
def Answered (r : Receiver) (q : Query) : Prop :=
  lumeterGetCurrentState r q.frame = some (respond q.frame [] ::
    if matching r q.pairs = [] then [] else
      [{ respond q.frame (parameters 0 (matching r q.pairs)) with msg_type := SYNC_RESPONSE }])

/-- a value with the top bit is printed with a sign -/
theorem sprintfD32_eq_iff (x : UInt32) : sprintfD32 x = digits x.toNat ↔ x.toNat < 2 ^ 31 := by
  have hx := x.toNat_lt
  rw [sprintfD32, sprintfD]
  by_cases hlow : x.toNat < 2 ^ 31
  · have hmod : (x.toNat : ℤ).bmod (2 ^ 32) = x.toNat := Int.bmod_eq_of_le (by omega) (by omega)
    rw [hmod, if_neg (by omega), Int.natAbs_natCast]
    exact iff_of_true rfl hlow
  · have hmod : (x.toNat : ℤ).bmod (2 ^ 32) = x.toNat - 2 ^ 32 := by
      rw [Int.bmod_def]
      omega
    rw [hmod, if_pos (by omega)]
    refine iff_of_false (fun h => ?_) hlow
    have hminus : (0x2D : UInt8) ∈ digits x.toNat := by
      rw [← h]
      exact List.mem_cons_self
    exact absurd (mem_digits hminus) (by decide)

theorem textParameter_inj {type : UInt16} {a b : List UInt8} : textParameter type a = textParameter type b ↔ a = b :=
  ⟨fun h => List.append_cancel_right (congrArg Parameter.value h), fun h => by rw [h]⟩

theorem count_eq (ms : List SensorState) : ∀ n < 256,
    ms.foldlM (fun n _ => some ((n + 2) % 256)) n = some ((n + 2 * ms.length) % 256) := by
  induction ms with
  | nil => exact fun n hn => by simp [Nat.mod_eq_of_lt hn]
  | cons m ms ih =>
    intro n hn
    rw [List.foldlM_cons, Option.bind_eq_bind, Option.bind_some, ih _ (Nat.mod_lt _ (by decide)), List.length_cons]
    congr 1
    omega

/-- **The parameters.** There is room for two sensors. -/
theorem fill_eq (a b c : SensorState) (ms : List SensorState) :
    [a].foldlM fillSensor (List.replicate 4 none, 0) = some ([some (textParameter 0x3001 (sprintfX a.address)),
      some (textParameter 0x4002 (sprintfD32 a.value)), none, none], 2) ∧
    [a, b].foldlM fillSensor (List.replicate 4 none, 0) = some ([some (textParameter 0x3001 (sprintfX a.address)),
      some (textParameter 0x4002 (sprintfD32 a.value)), some (textParameter 0x3003 (sprintfX b.address)),
      some (textParameter 0x4004 (sprintfD32 b.value))], 4) ∧
    (a :: b :: c :: ms).foldlM fillSensor (List.replicate 4 none, 0) = none :=
  ⟨rfl, rfl, rfl⟩

section Answer

variable {r : Receiver} {q : Query}

/-- the answer with the parameters that were filled in -/
theorem currentState_eq (h : Short r q.pairs) : lumeterGetCurrentState r q.frame =
    if 2 * (matching r q.pairs).length % 256 ≠ 0 then
      ((matching r q.pairs).foldlM fillSensor (List.replicate 4 none, 0)).map fun st =>
        [respond q.frame [], { respond q.frame [] with msg_type := SYNC_RESPONSE, para_num := 4, para := st.1 }]
    else some [respond q.frame []] := by
  have heven : q.frame.para_num % 2 = 0 := by
    rw [q.num]
    omega
  have hcount := (visit_eq q h 0 (List.replicate 25 0)).trans (count_eq (matching r q.pairs) 0 (by decide))
  rw [Nat.zero_add] at hcount
  obtain ⟨⟨n, tmp⟩, hvisit, hn⟩ := Option.map_eq_some_iff.1 hcount
  obtain rfl : n = 2 * (matching r q.pairs).length % 256 := hn
  rw [lumeterGetCurrentState, if_pos heven, hvisit]
  simp only [Option.bind_eq_bind, Option.bind_some]
  split_ifs
  · have hfill := @visit_eq r _ fillSensor q h (List.replicate 4 none, 0) tmp
    rw [← hfill]
    cases visit r q.frame fillSensor (List.replicate 4 none, 0) tmp <;> rfl
  · rfl

theorem currentState_long (h : ¬ Short r q.pairs) : lumeterGetCurrentState r q.frame = none := by
  have heven : q.frame.para_num % 2 = 0 := by
    rw [q.num]
    omega
  rw [lumeterGetCurrentState, if_pos heven, visit_long q h]
  rfl

/-- **The light sensors' values.** The answer holds what it should exactly if the address texts fit and no sensor or two
sensors match, whose values are printed without a sign. -/
theorem answered_iff (r : Receiver) (q : Query) : Answered r q ↔ Short r q.pairs ∧
    (matching r q.pairs = [] ∨ (matching r q.pairs).length = 2 ∧ ∀ s ∈ matching r q.pairs, s.value.toNat < 2 ^ 31) := by
  by_cases hshort : Short r q.pairs
  swap
  · rw [Answered, currentState_long hshort]
    exact iff_of_false (fun h => absurd h.symm (Option.some_ne_none _)) fun h => hshort h.1
  rw [and_iff_right hshort, Answered, currentState_eq hshort]
  generalize matching r q.pairs = ms
  match ms with
  | [] => exact iff_of_true rfl (Or.inl rfl)
  | [a] =>
    refine iff_of_false (fun h => ?_) (fun h => h.elim (List.cons_ne_nil _ _) fun h => absurd h.1 (by simp))
    rw [if_pos (by simp), (fill_eq a a a []).1, if_neg (List.cons_ne_nil _ _)] at h
    have hnum := congrArg ServerFrameStruct.para_num (List.cons.inj (List.cons.inj (Option.some.inj h)).2).1
    exact absurd hnum (by simp [respond, parameters])
  | [a, b] =>
    rw [if_pos (by simp), (fill_eq a b a []).2.1, if_neg (List.cons_ne_nil _ _)]
    constructor
    · intro h
      have hpara := congrArg ServerFrameStruct.para (List.cons.inj (List.cons.inj (Option.some.inj h)).2).1
      have ha := textParameter_inj.1 (Option.some.inj (Option.some.inj (congrArg (·[1]?) hpara)))
      have hb := textParameter_inj.1 (Option.some.inj (Option.some.inj (congrArg (·[3]?) hpara)))
      refine Or.inr ⟨rfl, fun s hs => ?_⟩
      rcases List.mem_cons.1 hs with rfl | hs
      · exact (sprintfD32_eq_iff _).1 ha
      · rw [List.mem_singleton.1 hs]
        exact (sprintfD32_eq_iff _).1 hb
    · intro h
      have hsmall := (h.resolve_left (List.cons_ne_nil _ _)).2
      rw [(sprintfD32_eq_iff _).2 (hsmall a (by simp)), (sprintfD32_eq_iff _).2 (hsmall b (by simp))]
      rfl
  | a :: b :: c :: ms =>
    refine iff_of_false (fun h => ?_) (fun h => h.elim (List.cons_ne_nil _ _) fun h => absurd h.1 (by simp))
    rw [(fill_eq a b c ms).2.2, if_neg (List.cons_ne_nil _ _)] at h
    split_ifs at h
    · exact absurd h.symm (Option.some_ne_none _)
    · exact absurd (List.cons.inj (Option.some.inj h)).2.symm (List.cons_ne_nil _ _)

end Answer

/-! ## One pair, and three -/

def pairParameters (p : Pair) : List (Option Parameter) :=
  [some (textParameter 0x3001 p.address), some (textParameter 0x4002 p.channel)]

theorem pairParameters_at (pairs : List Pair) : ∀ (k : ℕ) (p : Pair), pairs[k]? = some p →
    (pairs.flatMap pairParameters)[k * 2]? = some (some (textParameter 0x3001 p.address)) ∧
      (pairs.flatMap pairParameters)[k * 2 + 1]? = some (some (textParameter 0x4002 p.channel)) := by
  induction pairs with
  | nil => exact fun k p hp => absurd hp.symm (Option.some_ne_none _)
  | cons x xs ih =>
    intro k p hp
    cases k with
    | zero =>
      rw [List.getElem?_cons_zero, Option.some_inj] at hp
      subst hp
      exact ⟨rfl, rfl⟩
    | succ k => simpa [Nat.succ_mul, pairParameters] using ih k p hp

/-- a request for some pairs -/
def ask (pairs : List Pair) (h : pairs.length < 128) : Query where
  frame := { ServerFrameStruct.zero with para_num := 2 * pairs.length, para := pairs.flatMap pairParameters }
  pairs := pairs
  num := rfl
  byte := by
    simp only
    omega
  address k p hp := ⟨_, by rw [ServerFrameStruct.paraAt, (pairParameters_at pairs k p hp).1]; rfl, rfl⟩
  channel k p hp := ⟨_, by rw [ServerFrameStruct.paraAt, (pairParameters_at pairs k p hp).2]; rfl, rfl⟩

theorem fivePair_address : 0 ∉ [(0x35 : UInt8)] := by decide

theorem fivePair_channel : 0 ∉ [(0x31 : UInt8)] := by decide

/-- address 5 and channel 1 -/
def fivePair : Pair := ⟨[0x35], [0x31], Nat.one_pos, fivePair_address, fivePair_channel⟩

theorem ask_fits : [fivePair].length < 128 ∧ [fivePair, fivePair, fivePair].length < 128 := by decide

/-- **Two parameters too many**, and no answer at all: one pair that matches leaves half of four parameters as they were
allocated, three write past them. -/
theorem one_not_answered : ¬ Answered (oneSensor 20 5) (ask [fivePair] ask_fits.1) ∧
    ¬ Answered (oneSensor 20 5) (ask [fivePair, fivePair, fivePair] ask_fits.2) := by
  constructor
  · intro h
    have hnum : (lumeterGetCurrentState (oneSensor 20 5) (ask [fivePair] ask_fits.1).frame).map
        (·.map ServerFrameStruct.para_num) = some [0, 4] := by decide +kernel
    rw [show lumeterGetCurrentState _ _ = _ from h] at hnum
    have htwo : (some [0, 2] : Option (List ℕ)) = some [0, 4] := hnum
    exact absurd htwo (by decide)
  · intro h
    have hnone : (lumeterGetCurrentState (oneSensor 20 5) (ask [fivePair, fivePair, fivePair] ask_fits.2).frame).isNone =
        true := by decide +kernel
    rw [show lumeterGetCurrentState _ _ = _ from h] at hnone
    exact absurd hnone Bool.false_ne_true

end DataConcentrator.Lumeter
