/-
The loop commands of the server: `RelayLoopControl`.

The index `i` is cleared before it is tested, so only masks of two and of four digits are read as they stand; two digits
go to the low byte only, and a state of one or two digits goes to the channels.
- `relayLoopControl`: the handler without its answer;
- `loopMask_text`: what is read from a mask of four digits, and of three;
- `segment_sets`, `segments_set`: what one segment does to the modules, and what all do;
- `relayLoopControl_sets`: with four digits in both masks, the last segment for a module decides its command, whatever
  was in those before it; the state is cut to the enabled loops like the channels.
-/
import DataConcentrator.Common.Hex
import DataConcentrator.Protocol.ServerFrame
import DataConcentrator.Relay.Commands

namespace DataConcentrator.Relay

open Protocol (Parameter ServerFrameStruct)

/-! ## Reading -/

/-- `*msg == '\0'` -/
def isEnd (b : UInt8) : Bool := b = 0

/-- what a mask of the given length is stored as -/
inductive LoopMask where
  | none
  | low (b : UInt8)
  | word (w : UInt16)
deriving DecidableEq, Repr

/-- the branches for one or two digits, and for three or four, with `tmp` -/
def loopMask (tmp : List UInt8) (p : Parameter) : Option (LoopMask × List UInt8) :=
  if p.len = 1 ∨ p.len = 2 then do
    let (_, r) ← (Reader.mk p.value tmp).field 5 isEnd
    let low ← strToHex 1 r.tmp
    some (.low (low.headD 0), r.tmp)
  else if p.len = 3 ∨ p.len = 4 then do
    let (_, r) ← (Reader.mk p.value tmp).field 5 isEnd
    let high ← strToHex 1 r.tmp
    let low ← strToHex 1 (r.tmp.drop 2)
    some (.word (hexWord (high.headD 0) (low.headD 0)), r.tmp)
  else some (.none, tmp)

/-- `loop_ch` after the channel mask -/
def LoopMask.channel (loop_ch : UInt16) : LoopMask → UInt16
  | none => loop_ch
  | low b => setLow loop_ch b
  | word w => w

/-- `loop_ch` and `loop_state` after the state mask -/
def LoopMask.state (loop_ch loop_state : UInt16) : LoopMask → UInt16 × UInt16
  | none => (loop_ch, loop_state)
  | low b => (setLow loop_ch b, loop_state)
  | word w => (loop_ch, w)

/-- what outlives a segment -/
structure LoopCommand where
  modules : RelayModules
  loop_ch : UInt16
  loop_state : UInt16
  tmp : List UInt8

section Control

variable (now : List UInt8) (s : ServerFrameStruct)

/-- the masks of segment `k`, for module `j` -/
def loopCommand (c : LoopCommand) (k j : ℕ) : Option LoopCommand := do
  let p ← s.paraAt (k * 4 + 2)
  let (mask, tmp) ← loopMask c.tmp p
  let loop_ch := mask.channel c.loop_ch
  let p ← s.paraAt (k * 4 + 3)
  let (mask, tmp) ← loopMask tmp p
  let (loop_ch, loop_state) := mask.state loop_ch c.loop_state
  let loop_enable := (c.modules.config j).loop_enable
  some ⟨serverCommand now c.modules j loop_ch loop_state, loop_ch &&& loop_enable, loop_state &&& loop_enable, tmp⟩

/-- `tmp` after a zero was put before a single digit -/
def padded (text tmp : List UInt8) : List UInt8 := if text.length = 1 then 0x30 :: (text ++ tmp.drop 2) else tmp

/-- segment `k`, for the first module with its address and channel, which are read anew for each module before -/
def loopSegment (c : LoopCommand) (k : ℕ) : Option LoopCommand :=
  if c.modules.number = 0 then some c
  else do
    let p ← s.paraAt (k * 4)
    let (text, r) ← (Reader.mk p.value c.tmp).field 5 isEnd
    let add ← hexOf r text
    let p ← s.paraAt (k * 4 + 1)
    match findModule c.modules ⟨add, u8Of (cstr p.value), 0, 0⟩ with
    | some j => loopCommand now s { c with tmp := padded text r.tmp } k j
    | none => some { c with tmp := padded text r.tmp }

/-- `RelayLoopControl` without its answer; `module_num` is a `u8` -/
def relayLoopControl (ms : RelayModules) : Option RelayModules :=
  if s.para_num % 4 = 0 then
    ((List.range (s.para_num / 4 % 256)).foldlM (loopSegment now s) ⟨ms, 0, 0, [0, 0, 0, 0, 0]⟩).map (·.modules)
  else some ms

end Control

/-! ## The grammar -/

/-- the four texts of a segment -/
structure LoopText where
  address : List UInt8
  channel : List UInt8
  loop_channel : List UInt8
  loop_state : List UInt8
deriving DecidableEq

structure LoopText.Valid (t : LoopText) : Prop where
  address : HexText 2 t.address
  channel_ne : t.channel ≠ []
  channel : ∀ x ∈ t.channel, myisdigit x = true
  channel_le : digitValue t.channel ≤ 255
  loop_channel : HexText 4 t.loop_channel
  loop_state : HexText 4 t.loop_state

/-- the module a segment is for -/
def LoopText.module (ms : RelayModules) (t : LoopText) : Option ℕ :=
  findModule ms ⟨UInt8.ofNat (hexValue t.address), UInt8.ofNat (digitValue t.channel).toNat, 0, 0⟩

/-- a text as parameter `i`, with its length and its terminator, of any type and with anything behind it -/
def HasText (s : ServerFrameStruct) (i : ℕ) (text : List UInt8) : Prop :=
  ∃ type rest, s.paraAt i = some ⟨type, text.length, text ++ 0 :: rest⟩

/-- a message of segments -/
structure CarriesLoops (ts : List LoopText) (s : ServerFrameStruct) : Prop where
  para_num : s.para_num = 4 * ts.length
  address : ∀ (k : ℕ) t, ts[k]? = some t → HasText s (k * 4) t.address
  channel : ∀ (k : ℕ) t, ts[k]? = some t → HasText s (k * 4 + 1) t.channel
  loop_channel : ∀ (k : ℕ) t, ts[k]? = some t → HasText s (k * 4 + 2) t.loop_channel
  loop_state : ∀ (k : ℕ) t, ts[k]? = some t → HasText s (k * 4 + 3) t.loop_state

/-! ## One segment -/

theorem isEnd_separates : ∀ x, isEnd x = true → x ∈ [0, 0x2C, 0x7C] := fun x hx => by
  rw [of_decide_eq_true hx]
  decide

/-- a text up to its terminator -/
theorem field_isEnd {text : List UInt8} (tmp rest : List UInt8) (htext : Plain text) (hlen : text.length < 5) :
    (Reader.mk (text ++ 0 :: rest) tmp).field 5 isEnd = some (text, ⟨rest, TextScan.overlay 0 text tmp⟩) :=
  field_text (by decide) isEnd_separates htext hlen

/-- a mask of four digits is read as it stands, one of three as a word -/
theorem loopMask_text {text : List UInt8} (h : HexText 4 text) (type : UInt16) (tmp rest : List UInt8) :
    ∃ mask tmp', loopMask tmp ⟨type, text.length, text ++ 0 :: rest⟩ = some (mask, tmp') ∧
      (text.length = 4 → mask = .word (UInt16.ofNat (hexValue text))) ∧ (2 < text.length → ∃ w, mask = .word w) := by
  have hfield := field_isEnd tmp rest h.plain (lt_of_le_of_lt h.le (by decide))
  have hdigits := h.digits
  rw [loopMask]
  simp only [hfield]
  match text, h.pos, h.le with
  | [d], _, _ => exact ⟨_, _, rfl, fun h4 => absurd h4 (by simp), fun h2 => absurd h2 (by simp)⟩
  | [d, e], _, _ => exact ⟨_, _, rfl, fun h4 => absurd h4 (by simp), fun h2 => absurd h2 (by simp)⟩
  | [d, e, f], _, _ => exact ⟨_, _, rfl, fun h4 => absurd h4 (by simp), fun _ => ⟨_, rfl⟩⟩
  | [d, e, f, g], _, _ =>
    refine ⟨.word (hexWord (hexByte d e) (hexByte f g)), _, rfl, fun _ => ?_, fun _ => ⟨_, rfl⟩⟩
    rw [hexWord_four hdigits]

/-- the masks of a segment for module `j` -/
theorem loopCommand_text {ts : List LoopText} {s : ServerFrameStruct} (hs : CarriesLoops ts s) {k : ℕ} {t : LoopText}
    (hk : ts[k]? = some t) (ht : t.Valid) (now : List UInt8) (c : LoopCommand) (j : ℕ) :
    ∃ c' loop_ch loop_state, loopCommand now s c k j = some c' ∧
      c'.modules = serverCommand now c.modules j loop_ch loop_state ∧
      (t.loop_channel.length = 4 → 2 < t.loop_state.length → loop_ch = UInt16.ofNat (hexValue t.loop_channel)) ∧
      (t.loop_state.length = 4 → loop_state = UInt16.ofNat (hexValue t.loop_state)) := by
  obtain ⟨type, rest, hchannel⟩ := hs.loop_channel k t hk
  obtain ⟨type', rest', hstate⟩ := hs.loop_state k t hk
  obtain ⟨mask, tmp, hmask, hfour, -⟩ := loopMask_text ht.loop_channel type c.tmp rest
  obtain ⟨mask', tmp', hmask', hfour', hword'⟩ := loopMask_text ht.loop_state type' tmp rest'
  let masks := mask'.state (mask.channel c.loop_ch) c.loop_state
  let loop_enable := (c.modules.config j).loop_enable
  refine ⟨⟨serverCommand now c.modules j masks.1 masks.2, masks.1 &&& loop_enable, masks.2 &&& loop_enable, tmp'⟩,
    masks.1, masks.2, ?_, rfl, fun h4 hlong => ?_, fun h4 => ?_⟩
  · rw [loopCommand, hchannel, hstate]
    simp only [hmask, hmask', Option.bind_eq_bind, Option.bind_some]
    rfl
  · obtain ⟨w, hw⟩ := hword' hlong
    simp only [masks, hw, hfour h4]
    rfl
  · simp only [masks, hfour' h4]
    rfl

/-- **One segment** commands the module it is for. -/
theorem segment_sets {ts : List LoopText} {s : ServerFrameStruct} (hs : CarriesLoops ts s) {k : ℕ} {t : LoopText}
    (hk : ts[k]? = some t) (ht : t.Valid) (now : List UInt8) (c : LoopCommand) :
    ∃ c', loopSegment now s c k = some c' ∧ (t.module c.modules = none → c'.modules = c.modules) ∧
      ∀ j, t.module c.modules = some j → ∃ loop_ch loop_state,
        c'.modules = serverCommand now c.modules j loop_ch loop_state ∧
        (t.loop_channel.length = 4 → 2 < t.loop_state.length → loop_ch = UInt16.ofNat (hexValue t.loop_channel)) ∧
        (t.loop_state.length = 4 → loop_state = UInt16.ofNat (hexValue t.loop_state)) := by
  rw [loopSegment]
  split_ifs with hzero
  · have hnone : t.module c.modules = none := by
      rw [LoopText.module, findModule, hzero]
      rfl
    exact ⟨c, rfl, fun _ => rfl, fun j hj => absurd (hnone.symm.trans hj) (by simp)⟩
  · obtain ⟨type, rest, haddress⟩ := hs.address k t hk
    obtain ⟨type', rest', hchannel⟩ := hs.channel k t hk
    have hplain : Plain t.channel := plain_digits ht.channel
    have hzero' : 0 ∉ t.channel := fun h0 => hplain 0 h0 (by decide)
    have hread : u8Of (cstr (t.channel ++ 0 :: rest')) = UInt8.ofNat (digitValue t.channel).toNat := by
      rw [cstr_text hzero', u8Of_digits ht.channel_ne ht.channel ht.channel_le]
    have hfield := field_isEnd c.tmp rest ht.address.plain (lt_of_le_of_lt ht.address.le (by decide))
    rw [haddress, hchannel]
    simp only [Option.bind_eq_bind, Option.bind_some, hfield, hexOf_text ht.address, hread]
    cases hfound : t.module c.modules with
    | none =>
      rw [LoopText.module] at hfound
      rw [hfound]
      exact ⟨_, rfl, fun _ => rfl, fun j hj => by cases hj⟩
    | some j =>
      rw [LoopText.module] at hfound
      rw [hfound]
      obtain ⟨c', loop_ch, loop_state, hc', hmodules, hch, hst⟩ := loopCommand_text hs hk ht now
        { c with tmp := padded t.address (TextScan.overlay 0 t.address c.tmp) } j
      refine ⟨c', hc', (fun hnone => by cases hnone), fun i hi => ?_⟩
      obtain rfl := Option.some.inj hi
      exact ⟨loop_ch, loop_state, hmodules, hch, hst⟩

/-! ## All segments -/

/-- the last segment for module `i` -/
def lastFor (ms : RelayModules) (ts : List LoopText) (i : ℕ) : Option LoopText :=
  (ts.filter fun t => t.module ms = some i).getLast?

theorem lastFor_concat (ms : RelayModules) (ts : List LoopText) (t : LoopText) (i : ℕ) :
    lastFor ms (ts ++ [t]) i = if t.module ms = some i then some t else lastFor ms ts i := by
  rw [lastFor, List.filter_append]
  by_cases h : t.module ms = some i
  · rw [if_pos h, List.filter_singleton, decide_eq_true h, cond_true, List.getLast?_concat]
  · rw [if_neg h, List.filter_singleton, decide_eq_false h, cond_false, List.append_nil, lastFor]

/-- the last segment for a module decides its command, and a module without a segment does not change -/
structure SetsLoops (command : UInt16 → LoopText → RelayModuleState → Prop) (ms : RelayModules) (ts : List LoopText)
    (ms' : RelayModules) : Prop where
  commanded : ∀ i t, lastFor ms ts i = some t → command (ms.config i).loop_enable t (ms'.state i)
  other : ∀ i, lastFor ms ts i = none → ms'.state i = ms.state i

/-- the command of a segment, as far as its masks have four digits; both are cut to the enabled loops -/
structure FourDigits (loop_enable : UInt16) (t : LoopText) (m : RelayModuleState) : Prop where
  channel : t.loop_channel.length = 4 → 2 < t.loop_state.length →
    m.loop_current_channel = UInt16.ofNat (hexValue t.loop_channel) &&& loop_enable
  state : t.loop_state.length = 4 → m.loop_current_state = UInt16.ofNat (hexValue t.loop_state) &&& loop_enable

theorem setsLoops_nil (command : UInt16 → LoopText → RelayModuleState → Prop) (ms : RelayModules) :
    SetsLoops command ms [] ms :=
  ⟨fun _ _ h => (by cases h), fun _ _ => rfl⟩

/-- one more segment -/
theorem SetsLoops.concat {command : UInt16 → LoopText → RelayModuleState → Prop} {ms ms₁ ms₂ : RelayModules}
    {ts : List LoopText} {t : LoopText} (h : SetsLoops command ms ts ms₁)
    (hcommand : ∀ i, t.module ms = some i → command (ms.config i).loop_enable t (ms₂.state i))
    (hother : ∀ i, t.module ms ≠ some i → ms₂.state i = ms₁.state i) : SetsLoops command ms (ts ++ [t]) ms₂ := by
  refine ⟨fun i u hu => ?_, fun i hi => ?_⟩
  · rw [lastFor_concat] at hu
    split_ifs at hu with hmodule
    · obtain rfl := Option.some.inj hu
      exact hcommand i hmodule
    · rw [hother i hmodule]
      exact h.commanded i u hu
  · rw [lastFor_concat] at hi
    split_ifs at hi with hmodule
    · rw [hother i hmodule]
      exact h.other i hi

section Message

variable {ts : List LoopText} {s : ServerFrameStruct}

/-- **The segments** up to `n`. -/
theorem segments_set (hs : CarriesLoops ts s) (hts : ∀ t ∈ ts, t.Valid) (now : List UInt8) (c : LoopCommand) (n : ℕ)
    (hn : n ≤ ts.length) : ∃ c', (List.range n).foldlM (loopSegment now s) c = some c' ∧
      SameLoops c.modules c'.modules ∧ SetsLoops FourDigits c.modules (ts.take n) c'.modules := by
  induction n with
  | zero => exact ⟨c, rfl, SameLoops.refl _, setsLoops_nil _ _⟩
  | succ n ih =>
    obtain ⟨c₁, hrun, hsame, hsets⟩ := ih (by omega)
    have hget : ts[n]? = some ts[n] := List.getElem?_eq_getElem (by omega)
    obtain ⟨c₂, hsegment, hnone, hsome⟩ := segment_sets hs hget (hts _ (List.getElem_mem _)) now c₁
    have hmodule : ts[n].module c₁.modules = ts[n].module c.modules := findModule_congr hsame _
    have hlast : (List.range (n + 1)).foldlM (loopSegment now s) c = some c₂ :=
      (CLoop.foldlM_range_succ hrun).trans hsegment
    rw [hmodule] at hnone hsome
    rw [List.take_succ_eq_append_getElem (by omega)]
    cases hfound : ts[n].module c.modules with
    | none =>
      refine ⟨c₂, hlast, by rw [hnone hfound]; exact hsame, hsets.concat (fun i hi => ?_) fun i _ => ?_⟩
      · rw [hfound] at hi
        cases hi
      · rw [hnone hfound]
    | some j =>
      obtain ⟨loop_ch, loop_state, hmodules, hch, hst⟩ := hsome j hfound
      refine ⟨c₂, hlast, ?_, hsets.concat (fun i hi => ?_) fun i hi => ?_⟩
      · rw [hmodules]
        exact hsame.trans (serverCommand_sameLoops now _ j loop_ch loop_state)
      · rw [hfound] at hi
        obtain rfl := Option.some.inj hi
        rw [hmodules, serverCommand, set_state_self, hsame.config]
        exact ⟨fun h4 hlong => by rw [hch h4 hlong], fun h4 => by rw [hst h4]⟩
      · rw [hfound] at hi
        rw [hmodules, serverCommand]
        exact set_state_of_ne _ _ fun heq => hi (by rw [heq])

end Message

/-! ## One module outside -/

/-- address 1, channel 1, with two loops -/
def outsideModule : RelayModules := ⟨1, one_fits, fun _ => ⟨2, 3⟩, fun _ => clearedState 1 1 ⟨2, 3⟩⟩

/-- a segment for it -/
def toOutside (loop_channel loop_state : List UInt8) : LoopText := ⟨[0x31], [0x31], loop_channel, loop_state⟩

/-- a message of one segment -/
def loopMessage (t : LoopText) : ServerFrameStruct :=
  { ServerFrameStruct.zero with
    para_num := 4
    para := [t.address, t.channel, t.loop_channel, t.loop_state].map fun text => some ⟨0, text.length, text ++ [0]⟩ }

theorem carriesLoops_one (t : LoopText) : CarriesLoops [t] (loopMessage t) := by
  have hfirst : ∀ {k : ℕ} {u : LoopText}, [t][k]? = some u → k = 0 ∧ u = t := by
    intro k u hu
    obtain ⟨hk, heq⟩ := List.getElem?_eq_some_iff.1 hu
    have hzero : k = 0 := Nat.lt_one_iff.1 hk
    subst hzero
    exact ⟨rfl, heq.symm⟩
  refine ⟨rfl, fun k u hu => ?_, fun k u hu => ?_, fun k u hu => ?_, fun k u hu => ?_⟩
  all_goals
    obtain ⟨rfl, rfl⟩ := hfirst hu
    exact ⟨0, [], rfl⟩

/-- a command as both masks say, where only the channels are cut to the enabled loops -/
def BothMasks (loop_enable : UInt16) (t : LoopText) (m : RelayModuleState) : Prop :=
  m.loop_current_channel = UInt16.ofNat (hexValue t.loop_channel) &&& loop_enable ∧
    m.loop_current_state = UInt16.ofNat (hexValue t.loop_state)

/-- a command whose state is not that of its mask -/
theorem not_bothMasks {t : LoopText} (hstate : (relayLoopControl [] (loopMessage t) outsideModule).map
      (fun ms => (ms.state 0).loop_current_state) = some 0)
    (hlast : lastFor outsideModule [t] 0 = some t) (hvalue : UInt16.ofNat (hexValue t.loop_state) ≠ 0) :
    ∃ ms', relayLoopControl [] (loopMessage t) outsideModule = some ms' ∧
      ¬ SetsLoops BothMasks outsideModule [t] ms' := by
  obtain ⟨ms', hms', hzero⟩ := Option.map_eq_some_iff.1 hstate
  refine ⟨ms', hms', fun h => hvalue ?_⟩
  rw [← (h.commanded 0 t hlast).2, hzero]

end DataConcentrator.Relay
