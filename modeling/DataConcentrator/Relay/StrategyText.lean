/-
The texts of relay strategies: `RelaySetRelayStrategy` reads them, `RelayGetRelayStrategy` prints them.

The masks of an action are read into variables that outlive it: a mask of one or two digits replaces the low byte only.
- `StrategyText`: the grammar, and the record a text of it denotes;
- `readStrategy_text`: what is read from such a text, in terms of the masks read before;
- `rightFrom_iff`: masks are read right exactly where every short one follows no long one, or one below 0x0100;
- `taskText_denotes`: a printed record is a text of the grammar that denotes it;
- `relayStrategy_iff`: the records a message denotes are stored, and answered, exactly under that condition on its masks
  and with numbers that fit a byte.
-/
import DataConcentrator.Common.Hex
import DataConcentrator.Lib.Batching
import DataConcentrator.Protocol.ServerFrame
import DataConcentrator.Relay.Strategy
import Mathlib.Data.List.GetD

namespace DataConcentrator.Relay

open Protocol (Parameter ServerFrameStruct)

/-! ## Records -/

def MAX_RELAY_MODULE_STRATEGY_NUM : ℕ := 300

/-- `RelayTask_S` without its checksum; `action` is the memory from the array of five actions on -/
structure RelayTaskRecord where
  group_id : UInt8
  type : UInt8
  time : ℤ
  time_option : UInt8
  action_num : UInt8
  action : ℕ → RelayTaskAction

/-- `memset(.., 0, ..)` -/
def zeroAction : RelayTaskAction := ⟨0, 0, 0, 0⟩

/-! ## Reading -/

/-- `loop_ch` or `loop_action` after a mask: one or two digits go to the low byte, three or four to both, and others
leave it -/
def readMask (old : UInt16) : List UInt8 → UInt16
  | [d] => setLow old (hexByte 0x30 d)
  | [d, e] => setLow old (hexByte d e)
  | [d, e, f] => hexWord (hexByte 0x30 d) (hexByte e f)
  | [d, e, f, g] => hexWord (hexByte d e) (hexByte f g)
  | _ => old

/-- `loop_ch` and `loop_action` -/
abbrev Masks := UInt16 × UInt16

def readAction (m : Masks) (r : Reader) : Option (RelayTaskAction × Masks × Reader) := do
  let (text, r) ← r.field 16 isComma
  let add ← hexOf r text
  let (ch, r) ← r.field 16 isComma
  let (text, r) ← r.field 16 isComma
  let loop_ch := readMask m.1 text
  let (text, r) ← r.field 16 endsField
  let loop_action := readMask m.2 text
  some (⟨add, u8Of ch, loop_ch, loop_action⟩, (loop_ch, loop_action), r)

/-- one parameter, with the masks and `tmp`, which outlive it -/
def readStrategy (m : Masks) (tmp value : List UInt8) : Option (RelayTaskRecord × Masks × List UInt8) := do
  let (group_id, r) ← (Reader.mk value tmp).field 16 isComma
  let (type, r) ← r.field 16 isComma
  let (time, r) ← r.field 16 isComma
  let (time_option, r) ← r.field 16 isBar
  let seg_num ← segNum MAX_RELAY_MODULE_CONF_NUM r.msg
  let (actions, m, r) ← readSegments readAction seg_num m { r with msg := rewound r.msg }
  some (⟨u8Of group_id, u8Of type, (myatoi time).bmod 65536, u8Of time_option, UInt8.ofNat seg_num,
    fun k => actions.getD k zeroAction⟩, m, r.tmp)

/-- the calls of `WriteRelayStrategy`, whose index is a `u8`, and what outlives a round -/
structure SetState where
  writes : List (ℕ × RelayTaskRecord)
  masks : Masks
  tmp : List UInt8

def strategyRound (s : ServerFrameStruct) (st : SetState) (j : ℕ) : Option SetState :=
  (s.paraAt j).bind fun p =>
    if p.len ≠ 0 then (readStrategy st.masks st.tmp p.value).map fun t =>
      ⟨st.writes ++ [(j % 256, t.1)], t.2.1, t.2.2⟩
    else some st

/-- `RelaySetRelayStrategy` without its answer: `RelayStrategyNum.number`, and the records in the order they are
written; `tmp` is what lies on the stack -/
def relaySetRelayStrategy (tmp : List UInt8) (s : ServerFrameStruct) : Option (ℕ × List (ℕ × RelayTaskRecord)) :=
  let strategy_num := min s.para_num MAX_RELAY_MODULE_STRATEGY_NUM
  ((List.range strategy_num).foldlM (strategyRound s) ⟨[], (0, 0), tmp⟩).map fun st => (strategy_num, st.writes)

/-! ## Printing -/

/-- `%X` of a byte -/
def sprintfX (b : UInt8) : List UInt8 := if b < 16 then [hexChar b] else sprintf02X b

/-- `%04X` of a `u16` -/
def sprintf04X (w : UInt16) : List UInt8 := sprintf02X (w >>> 8).toUInt8 ++ sprintf02X w.toUInt8

def actionPieces (a : RelayTaskAction) : List (List UInt8) :=
  [sprintfX a.module_address, [0x2C], sprintfD a.module_channel.toNat, [0x2C], sprintf04X a.loop_channel, [0x2C],
    sprintf04X a.loop_action]

def taskPieces (r : RelayTaskRecord) : List (List UInt8) :=
  [sprintfD r.group_id.toNat, [0x2C], sprintfD r.type.toNat, [0x2C], sprintfD r.time, [0x2C],
    sprintfD r.time_option.toNat, [0x7C]] ++
    (List.range r.action_num.toNat).flatMap fun j =>
      actionPieces (r.action j) ++ if j < r.action_num.toNat - 1 then [[0x7C]] else []

/-- `char buf[110]` -/
def taskText (r : RelayTaskRecord) : Option (List UInt8) := strcats 110 (taskPieces r)

/-- `para[i]` of the answer, from the records with right checksums; the index of `ReadRelayStrategy` is a `u8`, and
without a valid record the type is left as the heap has it -/
def strategyParameter (heap : ℕ → UInt16) (stored : ℕ → Option RelayTaskRecord) (i : ℕ) : Option Parameter :=
  match stored (i % 256) with
  | some r => (taskText r).map fun buf => ⟨0x4101 + UInt16.ofNat i, buf.length, buf ++ [0]⟩
  | none => some ⟨heap i, 0, [0]⟩

/-- the parameters `RelayGetRelayStrategy` answers with -/
def relayGetRelayStrategy (heap : ℕ → UInt16) (number : ℕ) (stored : ℕ → Option RelayTaskRecord) : Option (List Parameter) :=
  (List.range number).mapM (strategyParameter heap stored)

/-! ## The grammar -/

/-- a number of a byte, in a field that fits `tmp` -/
structure ByteText (text : List UInt8) : Prop where
  ne_nil : text ≠ []
  fits : text.length < 16
  digits : ∀ x ∈ text, myisdigit x = true
  le : digitValue text ≤ 255

/-- the digits of a number that may have a sign -/
def unsigned (text : List UInt8) : List UInt8 := if text.headD 0 = 0x2D ∨ text.headD 0 = 0x2B then text.drop 1 else text

/-- its value -/
def signedValue (text : List UInt8) : ℤ :=
  if text.headD 0 = 0x2D then -digitValue (unsigned text) else digitValue (unsigned text)

/-- a number of an `s16`, with or without a sign -/
structure TimeText (text : List UInt8) : Prop where
  ne_nil : unsigned text ≠ []
  fits : text.length < 16
  digits : ∀ x ∈ unsigned text, myisdigit x = true
  ge : -32768 ≤ signedValue text
  le : signedValue text < 32768

structure ActionText where
  module_address : List UInt8
  module_channel : List UInt8
  loop_channel : List UInt8
  loop_action : List UInt8
deriving DecidableEq

structure StrategyText where
  group_id : List UInt8
  type : List UInt8
  time : List UInt8
  time_option : List UInt8
  actions : List ActionText
deriving DecidableEq

structure ActionText.Valid (a : ActionText) : Prop where
  module_address : HexText 2 a.module_address
  module_channel : ByteText a.module_channel
  loop_channel : HexText 4 a.loop_channel
  loop_action : HexText 4 a.loop_action

structure StrategyText.Valid (t : StrategyText) : Prop where
  group_id : ByteText t.group_id
  type : ByteText t.type
  time : TimeText t.time
  time_option : ByteText t.time_option
  actions : ∀ a ∈ t.actions, a.Valid
  pos : 1 ≤ t.actions.length
  le : t.actions.length ≤ MAX_RELAY_MODULE_CONF_NUM

def ActionText.text (a : ActionText) : List UInt8 :=
  a.module_address ++ 0x2C :: (a.module_channel ++ 0x2C :: (a.loop_channel ++ 0x2C :: a.loop_action))

def StrategyText.text (t : StrategyText) : List UInt8 :=
  t.group_id ++ 0x2C :: (t.type ++ 0x2C :: (t.time ++ 0x2C :: (t.time_option ++
    0x7C :: [0x7C].intercalate (t.actions.map ActionText.text))))

/-- the action a text denotes -/
def ActionText.action (a : ActionText) : RelayTaskAction :=
  ⟨UInt8.ofNat (hexValue a.module_address), UInt8.ofNat (digitValue a.module_channel).toNat,
    UInt16.ofNat (hexValue a.loop_channel), UInt16.ofNat (hexValue a.loop_action)⟩

/-- the record a text denotes -/
def StrategyText.task (t : StrategyText) : RelayTaskRecord where
  group_id := UInt8.ofNat (digitValue t.group_id).toNat
  type := UInt8.ofNat (digitValue t.type).toNat
  time := signedValue t.time
  time_option := UInt8.ofNat (digitValue t.time_option).toNat
  action_num := UInt8.ofNat t.actions.length
  action := fun k => (t.actions.map ActionText.action).getD k zeroAction

/-! ## Masks -/

/-- a mask of one or two digits -/
theorem readMask_short (old : UInt16) {text : List UInt8} (h : HexText 4 text) (hshort : text.length ≤ 2) :
    readMask old text = setLow old (UInt8.ofNat (hexValue text)) := by
  have hvalue := hexByteOf_value ⟨h.pos, hshort, h.digits⟩
  have hbyte : UInt8.ofNat (hexValue text) = hexByteOf text := by rw [← hvalue, UInt8.ofNat_toNat]
  rw [hbyte]
  match text, h.pos, hshort with
  | [d], _, _ => rfl
  | [d, e], _, _ => rfl

/-- a mask of three or four digits -/
theorem readMask_long (old : UInt16) {text : List UInt8} (h : HexText 4 text) (hlong : 2 < text.length) :
    readMask old text = UInt16.ofNat (hexValue text) := by
  have hdigits := h.digits
  match text, hlong, h.le with
  | [d, e, f], _, _ =>
    -- the digit before them is zero
    have hfour : ∀ x ∈ [0x30, d, e, f], isHexDigit x = true := List.forall_mem_cons.2 ⟨by decide, hdigits⟩
    rw [readMask, ← hexValue_zero]
    exact hexWord_four hfour
  | [d, e, f, g], _, _ => exact hexWord_four hdigits

/-- a mask is read right if it has three digits, or finds nothing in the high byte -/
theorem readMask_right_iff (old : UInt16) {text : List UInt8} (h : HexText 4 text) :
    readMask old text = UInt16.ofNat (hexValue text) ↔ 2 < text.length ∨ old.toNat < 256 := by
  by_cases hlong : 2 < text.length
  · exact iff_of_true (readMask_long old h hlong) (.inl hlong)
  · have hshort : text.length ≤ 2 := Nat.not_lt.1 hlong
    have hvalue : (UInt8.ofNat (hexValue text)).toNat = hexValue text := by
      rw [← hexByteOf_value ⟨h.pos, hshort, h.digits⟩, UInt8.ofNat_toNat]
    have hright := setLow_eq_iff old (UInt8.ofNat (hexValue text))
    rw [hvalue] at hright
    rw [readMask_short old h hshort, hright, or_iff_right hlong]

/-- the high byte after a mask -/
theorem readMask_high (old : UInt16) {text : List UInt8} (h : HexText 4 text) :
    (readMask old text).toNat / 256 = if 2 < text.length then hexValue text / 256 else old.toNat / 256 := by
  split_ifs with hlong
  · have hpow := Nat.pow_le_pow_right (show 0 < 16 by decide) h.le
    rw [readMask_long old h hlong, UInt16.toNat_ofNat_of_lt' (lt_of_lt_of_le (hexValue_lt h.digits) hpow)]
  · have hbyte := (UInt8.ofNat (hexValue text)).toNat_lt
    rw [readMask_short old h (Nat.not_lt.1 hlong), setLow_value]
    omega

/-- the masks read one after another are those of the texts -/
def RightFrom : UInt16 → List (List UInt8) → Prop
  | _, [] => True
  | old, text :: texts => readMask old text = UInt16.ofNat (hexValue text) ∧ RightFrom (readMask old text) texts

theorem rightFrom_append (xs ys : List (List UInt8)) : ∀ old,
    RightFrom old (xs ++ ys) ↔ RightFrom old xs ∧ RightFrom (xs.foldl readMask old) ys := by
  induction xs with
  | nil => exact fun old => ⟨fun h => ⟨trivial, h⟩, fun h => h.2⟩
  | cons x xs ih =>
    intro old
    rw [List.cons_append, RightFrom, RightFrom, ih, and_assoc]
    rfl

/-- every mask is read right after those before it -/
theorem rightFrom_forall (texts : List (List UInt8)) : ∀ old, RightFrom old texts ↔
    ∀ before text after, texts = before ++ text :: after →
      readMask (before.foldl readMask old) text = UInt16.ofNat (hexValue text) := by
  induction texts with
  | nil =>
    refine fun old => iff_of_true trivial fun before text after h => ?_
    exact absurd h.symm (by simp)
  | cons t texts ih =>
    intro old
    rw [RightFrom, ih]
    constructor
    · rintro ⟨hfirst, hmore⟩ before text after h
      cases before with
      | nil =>
        obtain ⟨rfl, -⟩ := List.cons.inj h
        exact hfirst
      | cons b before =>
        obtain ⟨rfl, hrest⟩ := List.cons.inj h
        exact hmore before text after hrest
    · exact fun h => ⟨h [] t texts rfl, fun before text after heq => h (t :: before) text after (by rw [heq]; rfl)⟩

/-- the last mask of three or four digits, 0 without one -/
def lastLong (texts : List (List UInt8)) : ℕ := ((texts.filter fun t => 2 < t.length).getLast?.map hexValue).getD 0

/-- no mask of one or two digits comes after a mask of three or four whose high byte is not zero, without another of
three or four between them -/
def ShortAfterLow (texts : List (List UInt8)) : Prop :=
  ∀ before text after, texts = before ++ text :: after → text.length ≤ 2 → lastLong before < 256

/-- the high byte that is left is that of the last long mask -/
theorem foldl_readMask_high {texts : List (List UInt8)} (h : ∀ t ∈ texts, HexText 4 t) :
    (texts.foldl readMask 0).toNat / 256 = lastLong texts / 256 := by
  induction texts using List.reverseRecOn with
  | nil => rfl
  | append_singleton texts t ih =>
    have htexts := ih fun u hu => h u (List.mem_append_left _ hu)
    rw [List.foldl_append, List.foldl_cons, List.foldl_nil, readMask_high _ (h t (by simp)), lastLong, List.filter_append]
    by_cases hlong : 2 < t.length
    · rw [if_pos hlong, List.filter_singleton, decide_eq_true hlong, cond_true, List.getLast?_concat]
      rfl
    · rw [if_neg hlong, List.filter_singleton, decide_eq_false hlong, cond_false, List.append_nil, htexts]
      rfl

/-- **Masks.** -/
theorem rightFrom_iff {texts : List (List UInt8)} (h : ∀ t ∈ texts, HexText 4 t) :
    RightFrom 0 texts ↔ ShortAfterLow texts := by
  have hsplit : ∀ before text after, texts = before ++ text :: after →
      (readMask (before.foldl readMask 0) text = UInt16.ofNat (hexValue text) ↔
        (text.length ≤ 2 → lastLong before < 256)) := by
    rintro before text after rfl
    have hhigh := foldl_readMask_high fun t ht => h t (List.mem_append_left _ ht)
    rw [readMask_right_iff _ (h text (by simp)), ← Nat.not_le, ← imp_iff_not_or]
    constructor
    · exact fun himp hshort => by have hlow := himp hshort; omega
    · exact fun himp hshort => by have hlow := himp hshort; omega
  rw [rightFrom_forall]
  exact forall₃_congr fun before text after => forall_congr' fun heq => hsplit before text after heq

/-! ## Fields -/

theorem ByteText.plain {text : List UInt8} (h : ByteText text) : Plain text := plain_digits h.digits

theorem ByteText.reads {text : List UInt8} (h : ByteText text) : u8Of text = UInt8.ofNat (digitValue text).toNat :=
  u8Of_digits h.ne_nil h.digits h.le

/-- the sign apart from the digits -/
theorem unsigned_cases (text : List UInt8) :
    (∃ sign, (sign = 0x2D ∨ sign = 0x2B) ∧ text = sign :: unsigned text) ∨
      (text.headD 0 ≠ 0x2D ∧ text.headD 0 ≠ 0x2B ∧ unsigned text = text) := by
  unfold unsigned
  split_ifs with hsign
  · cases text with
    | nil => exact absurd hsign (by decide)
    | cons d ds => exact .inl ⟨d, hsign, rfl⟩
  · exact .inr ⟨fun h => hsign (.inl h), fun h => hsign (.inr h), rfl⟩

theorem TimeText.plain {text : List UInt8} (h : TimeText text) : Plain text := by
  rcases unsigned_cases text with ⟨sign, hsign, htext⟩ | ⟨-, -, htext⟩
  · intro x hx
    rw [htext] at hx
    rcases List.mem_cons.1 hx with rfl | hx
    · rcases hsign with rfl | rfl <;> decide
    · exact plain_digits h.digits x hx
  · rw [← htext]
    exact plain_digits h.digits

/-- a time is read with its sign -/
theorem myatoi_signed {text : List UInt8} (h : TimeText text) : myatoi text = signedValue text := by
  rcases unsigned_cases text with ⟨sign, hsign, htext⟩ | ⟨hminus, hplus, htext⟩
  · have htake : (unsigned text).takeWhile myisdigit = unsigned text := List.takeWhile_eq_self_iff.2 h.digits
    have hspace : myisspace sign = false := by rcases hsign with rfl | rfl <;> decide
    have hdrop : text.dropWhile myisspace = text := by
      rw [htext]
      exact List.dropWhile_cons_of_neg (by simp [hspace])
    have hhead : text.headD 0 = sign := congrArg (fun t => List.headD t 0) htext
    have htail : text.drop 1 = unsigned text := congrArg (List.drop 1) htext
    rw [myatoi, signedValue, hdrop]
    simp only [hhead, if_pos hsign, htail, htake]
    rfl
  · have hdigits := h.digits
    have hne := h.ne_nil
    rw [htext] at hdigits hne
    rw [myatoi_digits hne hdigits, signedValue, if_neg hminus, htext]

theorem TimeText.reads {text : List UInt8} (h : TimeText text) : (myatoi text).bmod 65536 = signedValue text := by
  have hge := h.ge
  have hle := h.le
  rw [myatoi_signed h]
  exact Int.bmod_eq_of_le (by omega) (by omega)

/-! ## One text -/

/-- the action that is read, after masks -/
def ActionText.read (m : Masks) (a : ActionText) : RelayTaskAction :=
  { a.action with loop_channel := readMask m.1 a.loop_channel, loop_action := readMask m.2 a.loop_action }

/-- the masks after an action -/
def ActionText.masks (m : Masks) (a : ActionText) : Masks := (readMask m.1 a.loop_channel, readMask m.2 a.loop_action)

theorem ActionText.Valid.reads {a : ActionText} (h : a.Valid) :
    ReadsSegment readAction ActionText.text ActionText.read ActionText.masks a := by
  intro m b rest tmp hb
  have haddress := h.module_address
  have hchannel := h.loop_channel
  have haction := h.loop_action
  have hvalue : a.text ++ b :: rest = a.module_address ++ 0x2C :: (a.module_channel ++ 0x2C :: (a.loop_channel ++
      0x2C :: (a.loop_action ++ b :: rest))) := by
    rw [ActionText.text]
    simp only [List.append_assoc, List.cons_append]
  have hlast := @field_text 16 endsField a.loop_action rest
    (TextScan.overlay 0 a.loop_channel (TextScan.overlay 0 a.module_channel (TextScan.overlay 0 a.module_address tmp)))
    b hb endsField_separates haction.plain (lt_of_le_of_lt haction.le (by decide))
  refine ⟨TextScan.overlay 0 a.loop_action (TextScan.overlay 0 a.loop_channel (TextScan.overlay 0 a.module_channel
    (TextScan.overlay 0 a.module_address tmp))), ?_⟩
  rw [readAction, hvalue]
  simp only [field_isComma _ haddress.plain (lt_of_le_of_lt haddress.le (by decide : 2 < 16)), hexOf_text haddress,
    field_isComma _ h.module_channel.plain h.module_channel.fits,
    field_isComma _ hchannel.plain (lt_of_le_of_lt hchannel.le (by decide : 4 < 16)), hlast, h.module_channel.reads,
    Option.bind_eq_bind, Option.bind_some]
  rfl

/-- the record that is read, after masks -/
def StrategyText.read (m : Masks) (t : StrategyText) : RelayTaskRecord :=
  { t.task with action := fun k => (valuesFrom ActionText.read ActionText.masks m t.actions).getD k zeroAction }

/-- the masks after a record -/
def StrategyText.masks (m : Masks) (t : StrategyText) : Masks := t.actions.foldl ActionText.masks m

theorem ActionText.Valid.segment {a : ActionText} (h : a.Valid) : Segment a.text := by
  have hall : ∀ y ∈ ([0, 0x7C] : List UInt8), y ∈ ([0, 0x2C, 0x7C] : List UInt8) ∧ y ≠ 0x2C :=
    List.all_iff_forall_prop.1 (by decide)
  intro x hx hsep
  obtain ⟨hmem, hne⟩ := hall x hsep
  rw [ActionText.text] at hx
  rcases List.mem_append.1 hx with hx | hx
  · exact h.module_address.plain x hx hmem
  · rcases List.mem_cons.1 hx with hx | hx
    · exact hne hx
    · rcases List.mem_append.1 hx with hx | hx
      · exact h.module_channel.plain x hx hmem
      · rcases List.mem_cons.1 hx with hx | hx
        · exact hne hx
        · rcases List.mem_append.1 hx with hx | hx
          · exact h.loop_channel.plain x hx hmem
          · rcases List.mem_cons.1 hx with hx | hx
            · exact hne hx
            · exact h.loop_action.plain x hx hmem

theorem ActionText.Valid.length_le {a : ActionText} (h : a.Valid) : a.text.length ≤ 28 := by
  have h1 := h.module_address.le
  have h2 := h.module_channel.fits
  have h3 := h.loop_channel.le
  have h4 := h.loop_action.le
  simp only [ActionText.text, List.length_append, List.length_cons]
  omega

/-- **One strategy**: what is read, whatever follows its terminator. -/
theorem readStrategy_text {t : StrategyText} (h : t.Valid) (m : Masks) (tmp rest : List UInt8) :
    ∃ tmp', readStrategy m tmp (t.text ++ 0 :: rest) = some (t.read m, t.masks m, tmp') := by
  have hpos := h.pos
  have hle := h.le
  rw [MAX_RELAY_MODULE_CONF_NUM] at hle
  have hvalue : t.text ++ 0 :: rest = t.group_id ++ 0x2C :: (t.type ++ 0x2C :: (t.time ++ 0x2C :: (t.time_option ++
      0x7C :: ([0x7C].intercalate (t.actions.map ActionText.text) ++ 0 :: rest)))) := by
    rw [StrategyText.text]
    simp only [List.append_assoc, List.cons_append]
  have hsegments : ∀ text ∈ t.actions.map ActionText.text, Segment text := by
    intro text htext
    obtain ⟨a, ha, rfl⟩ := List.mem_map.1 htext
    exact (h.actions a ha).segment
  have hlen : (t.actions.map ActionText.text).length = t.actions.length := List.length_map _
  have hnum : segNum MAX_RELAY_MODULE_CONF_NUM ([0x7C].intercalate (t.actions.map ActionText.text) ++ 0 :: rest) =
      some t.actions.length := by
    rw [segNum_intercalate hsegments (by omega) (by rw [hlen]; exact h.le) (by omega), hlen]
  have hback : rewound ([0x7C].intercalate (t.actions.map ActionText.text) ++ 0 :: rest) =
      [0x7C].intercalate (t.actions.map ActionText.text) ++ 0 :: rest := by
    refine rewound_text (segments_terminate hsegments) ?_ rest
    obtain ⟨a, as, hsplit⟩ := List.exists_cons_of_length_pos (by omega : 0 < t.actions.length)
    have hlt := @TextScan.length_intercalate_lt _ (0x7C : UInt8) 28 a.text (as.map ActionText.text) (by
      intro text htext
      obtain ⟨a', ha', rfl⟩ := List.mem_map.1 (show text ∈ (a :: as).map ActionText.text from htext)
      exact (h.actions a' (hsplit ▸ ha')).length_le)
    rw [hsplit, List.length_cons] at hle
    rw [List.length_map] at hlt
    rw [hsplit, List.map_cons]
    omega
  have hne : t.actions ≠ [] := fun hnil => by
    rw [hnil, List.length_nil] at hpos
    omega
  obtain ⟨tmp', hread⟩ := readSegments_text (fun a ha => (h.actions a ha).reads) hne rest m
    (TextScan.overlay 0 t.time_option (TextScan.overlay 0 t.time (TextScan.overlay 0 t.type
      (TextScan.overlay 0 t.group_id tmp))))
  refine ⟨tmp', ?_⟩
  rw [readStrategy, hvalue]
  simp only [field_isComma _ h.group_id.plain h.group_id.fits, field_isComma _ h.type.plain h.type.fits,
    field_isComma _ h.time.plain h.time.fits, field_isBar _ h.time_option.plain h.time_option.fits, hnum, hback, hread,
    h.group_id.reads, h.type.reads, h.time.reads, h.time_option.reads, Option.bind_eq_bind, Option.bind_some]
  rfl

/-! ## What the masks decide -/

/-- the channel masks of a text, and its action masks -/
def StrategyText.channels (t : StrategyText) : List (List UInt8) := t.actions.map ActionText.loop_channel

def StrategyText.operations (t : StrategyText) : List (List UInt8) := t.actions.map ActionText.loop_action

/-- an action is read right if its masks are -/
theorem ActionText.read_eq_iff (m : Masks) (a : ActionText) : a.read m = a.action ↔
    readMask m.1 a.loop_channel = UInt16.ofNat (hexValue a.loop_channel) ∧
      readMask m.2 a.loop_action = UInt16.ofNat (hexValue a.loop_action) := by
  rw [ActionText.read, ActionText.action, RelayTaskAction.mk.injEq]
  simp only [true_and]

theorem actions_right_iff (as : List ActionText) : ∀ m : Masks,
    valuesFrom ActionText.read ActionText.masks m as = as.map ActionText.action ↔
      RightFrom m.1 (as.map ActionText.loop_channel) ∧ RightFrom m.2 (as.map ActionText.loop_action) := by
  induction as with
  | nil => exact fun m => iff_of_true rfl ⟨trivial, trivial⟩
  | cons a as ih =>
    intro m
    rw [valuesFrom, List.map_cons, List.cons.injEq, ih, ActionText.read_eq_iff]
    exact and_and_and_comm

theorem foldl_masks (as : List ActionText) : ∀ m : Masks, as.foldl ActionText.masks m =
    ((as.map ActionText.loop_channel).foldl readMask m.1, (as.map ActionText.loop_action).foldl readMask m.2) := by
  induction as with
  | nil => exact fun _ => rfl
  | cons a as ih => exact fun m => ih (a.masks m)

/-- the actions of a record are those of its array -/
theorem StrategyText.read_eq_iff (m : Masks) (t : StrategyText) :
    t.read m = t.task ↔ RightFrom m.1 t.channels ∧ RightFrom m.2 t.operations := by
  have hlen : (valuesFrom ActionText.read ActionText.masks m t.actions).length = (t.actions.map ActionText.action).length := by
    rw [length_valuesFrom, List.length_map]
  rw [channels, operations, ← actions_right_iff]
  constructor
  · intro h
    refine List.ext_getElem hlen fun k hk hk' => ?_
    have hgetD : (valuesFrom ActionText.read ActionText.masks m t.actions).getD k zeroAction =
        (t.actions.map ActionText.action).getD k zeroAction := congrFun (congrArg RelayTaskRecord.action h) k
    rwa [List.getD_eq_getElem _ _ hk, List.getD_eq_getElem _ _ hk'] at hgetD
  · intro h
    rw [StrategyText.read, h]
    rfl

theorem strategies_right_iff (ts : List StrategyText) : ∀ m : Masks,
    valuesFrom StrategyText.read StrategyText.masks m ts = ts.map StrategyText.task ↔
      RightFrom m.1 (ts.flatMap StrategyText.channels) ∧ RightFrom m.2 (ts.flatMap StrategyText.operations) := by
  induction ts with
  | nil => exact fun m => iff_of_true rfl ⟨trivial, trivial⟩
  | cons t ts ih =>
    intro m
    have hmasks : t.masks m = (t.channels.foldl readMask m.1, t.operations.foldl readMask m.2) := foldl_masks t.actions m
    rw [valuesFrom, List.map_cons, List.cons.injEq, ih, StrategyText.read_eq_iff, List.flatMap_cons, List.flatMap_cons,
      rightFrom_append, rightFrom_append, hmasks]
    exact and_and_and_comm

/-! ## One message -/

/-- records under the numbers they are written to -/
def numbered (rs : List RelayTaskRecord) : List (ℕ × RelayTaskRecord) := rs.zipIdx.map fun r => (r.2 % 256, r.1)

theorem numbered_concat (rs : List RelayTaskRecord) (r : RelayTaskRecord) :
    numbered (rs ++ [r]) = numbered rs ++ [(rs.length % 256, r)] := by
  rw [numbered, List.zipIdx_append, List.map_append, Nat.zero_add]
  rfl

/-- a message with texts for parameters, each with a terminator and anything behind it -/
structure Carries (ts : List StrategyText) (s : ServerFrameStruct) : Prop where
  para_num : s.para_num = ts.length
  para : ∀ j t, ts[j]? = some t → ∃ type rest, s.paraAt j = some ⟨type, t.text.length, t.text ++ 0 :: rest⟩

theorem StrategyText.length_text (t : StrategyText) : t.text.length ≠ 0 := by
  rw [StrategyText.text, List.length_append, List.length_cons]
  omega

section Message

variable {ts : List StrategyText} {s : ServerFrameStruct}

/-- the rounds up to `n` -/
theorem strategyRounds_text (hs : Carries ts s) (hts : ∀ t ∈ ts, t.Valid) (tmp : List UInt8) (n : ℕ) (hn : n ≤ ts.length) :
    ∃ tmp', (List.range n).foldlM (strategyRound s) ⟨[], (0, 0), tmp⟩ =
      some ⟨numbered (valuesFrom StrategyText.read StrategyText.masks (0, 0) (ts.take n)),
        (ts.take n).foldl StrategyText.masks (0, 0), tmp'⟩ := by
  induction n with
  | zero => exact ⟨tmp, rfl⟩
  | succ n ih =>
    obtain ⟨tmp', hrun⟩ := ih (by omega)
    have hget : ts[n]? = some ts[n] := List.getElem?_eq_getElem (by omega)
    obtain ⟨type, rest, hpara⟩ := hs.para n _ hget
    obtain ⟨tmp'', hread⟩ := readStrategy_text (hts ts[n] (List.getElem_mem _))
      ((ts.take n).foldl StrategyText.masks (0, 0)) tmp' rest
    have hlen : (ts.take n).length = n := List.length_take_of_le (by omega)
    refine ⟨tmp'', ?_⟩
    rw [CLoop.foldlM_range_succ hrun, List.take_succ_eq_append_getElem (by omega), valuesFrom_concat,
      numbered_concat, length_valuesFrom, hlen, List.foldl_append]
    rw [strategyRound, hpara, Option.bind_some, if_pos ts[n].length_text, hread]
    rfl

/-- what is written: the first 300 texts -/
theorem relaySetRelayStrategy_text (hs : Carries ts s) (hts : ∀ t ∈ ts, t.Valid) (tmp : List UInt8) :
    relaySetRelayStrategy tmp s = some (min ts.length MAX_RELAY_MODULE_STRATEGY_NUM,
      numbered (valuesFrom StrategyText.read StrategyText.masks (0, 0)
        (ts.take (min ts.length MAX_RELAY_MODULE_STRATEGY_NUM)))) := by
  obtain ⟨tmp', hrun⟩ := strategyRounds_text hs hts tmp (min ts.length MAX_RELAY_MODULE_STRATEGY_NUM) (Nat.min_le_left _ _)
  rw [relaySetRelayStrategy]
  simp only [hs.para_num, hrun, Option.map_some]

end Message

/-! ## Printed records -/

/-- a text of the grammar that denotes a record -/
def Denotes (text : List UInt8) (r : RelayTaskRecord) : Prop := ∃ t : StrategyText, t.Valid ∧ t.text = text ∧ t.task = r

/-- the records the setter writes: one to five actions, a time of 16 bits, and nothing beyond the actions -/
structure RelayTaskRecord.Valid (r : RelayTaskRecord) : Prop where
  pos : 1 ≤ r.action_num.toNat
  le : r.action_num.toNat ≤ MAX_RELAY_MODULE_CONF_NUM
  time_ge : -32768 ≤ r.time
  time_lt : r.time < 32768
  beyond : ∀ k, r.action_num.toNat ≤ k → r.action k = zeroAction

def printedAction (a : RelayTaskAction) : ActionText :=
  ⟨sprintfX a.module_address, sprintfD a.module_channel.toNat, sprintf04X a.loop_channel, sprintf04X a.loop_action⟩

def printed (r : RelayTaskRecord) : StrategyText :=
  ⟨sprintfD r.group_id.toNat, sprintfD r.type.toNat, sprintfD r.time, sprintfD r.time_option.toNat,
    (List.range r.action_num.toNat).map fun j => printedAction (r.action j)⟩

theorem sprintfD_nat (n : ℕ) : sprintfD (n : ℤ) = digits n := if_neg (Int.not_lt.2 (Int.natCast_nonneg n))

theorem digitValue_digits (n : ℕ) : digitValue (digits n) = n := foldl_digits n

theorem byteText_sprintfD (b : UInt8) : ByteText (sprintfD b.toNat) ∧ digitValue (sprintfD b.toNat) = b.toNat := by
  have hlen := length_sprintfD_byte b
  have hb := b.toNat_lt
  rw [sprintfD_nat] at hlen ⊢
  have hvalue := digitValue_digits b.toNat
  refine ⟨⟨digits_ne_nil _, by omega, fun x hx => mem_digits hx, ?_⟩, hvalue⟩
  rw [hvalue]
  omega

/-- digits have no sign before them -/
theorem unsigned_digits (n : ℕ) : unsigned (digits n) = digits n ∧ (digits n).headD 0 ≠ 0x2D := by
  obtain ⟨d, ds, hds⟩ := List.exists_cons_of_ne_nil (digits_ne_nil n)
  have hd : myisdigit d = true := mem_digits (n := n) (by rw [hds]; exact List.mem_cons_self)
  obtain ⟨-, hminus, hplus⟩ := digit_plain d hd
  have hhead : (digits n).headD 0 = d := by rw [hds]; rfl
  refine ⟨?_, by rwa [hhead]⟩
  rw [unsigned, hhead, if_neg (not_or.2 ⟨hminus, hplus⟩)]

theorem unsigned_sprintfD (n : ℤ) : unsigned (sprintfD n) = digits n.natAbs ∧ signedValue (sprintfD n) = n := by
  unfold sprintfD
  split_ifs with hneg
  · have htail : unsigned (0x2D :: digits n.natAbs) = digits n.natAbs := rfl
    refine ⟨htail, ?_⟩
    rw [signedValue, htail, digitValue_digits, List.headD_cons, if_pos rfl]
    omega
  · obtain ⟨hsame, hhead⟩ := unsigned_digits n.natAbs
    refine ⟨hsame, ?_⟩
    rw [signedValue, hsame, digitValue_digits, if_neg hhead]
    omega

theorem timeText_sprintfD {n : ℤ} (hge : -32768 ≤ n) (hlt : n < 32768) : TimeText (sprintfD n) := by
  obtain ⟨hdigits, hvalue⟩ := unsigned_sprintfD n
  have hlen := @length_sprintfD_le n 5 (by decide) (by omega)
  refine ⟨?_, ?_, ?_, by rwa [hvalue], by rwa [hvalue]⟩
  · rw [hdigits]
    exact digits_ne_nil _
  · split_ifs at hlen <;> omega
  · rw [hdigits]
    exact fun x hx => mem_digits hx

theorem hexText_sprintfX (b : UInt8) : HexText 2 (sprintfX b) ∧ hexValue (sprintfX b) = b.toNat := by
  have hall : ∀ b : UInt8, (0 < (sprintfX b).length ∧ (sprintfX b).length ≤ 2 ∧
      (sprintfX b).all isHexDigit = true) ∧ hexValue (sprintfX b) = b.toNat := forall_byte (by decide +kernel)
  obtain ⟨⟨hpos, hle, hdigits⟩, hvalue⟩ := hall b
  exact ⟨⟨hpos, hle, List.all_eq_true.1 hdigits⟩, hvalue⟩

theorem hexText_sprintf04X (w : UInt16) : HexText 4 (sprintf04X w) ∧ hexValue (sprintf04X w) = w.toNat := by
  have hw := w.toNat_lt
  have hhigh : ((w >>> 8).toUInt8).toNat = w.toNat / 256 := by
    rw [UInt16.toNat_toUInt8, UInt16.toNat_shiftRight]
    change w.toNat >>> 8 % 256 = _
    rw [Nat.shiftRight_eq_div_pow]
    omega
  have hlow : (w.toUInt8).toNat = w.toNat % 256 := UInt16.toNat_toUInt8 w
  refine ⟨⟨(by decide : 0 < 4), le_rfl, fun x hx => ?_⟩, ?_⟩
  · rcases List.mem_append.1 hx with hx | hx
    · exact (hexByte_printed _).1 x hx
    · exact (hexByte_printed _).1 x hx
  · rw [sprintf04X, hexValue_append, (hexByte_printed _).2, (hexByte_printed _).2, hhigh, hlow]
    change w.toNat / 256 * 256 + _ = _
    omega

theorem printedAction_valid (a : RelayTaskAction) : (printedAction a).Valid :=
  ⟨(hexText_sprintfX _).1, (byteText_sprintfD _).1, (hexText_sprintf04X _).1, (hexText_sprintf04X _).1⟩

theorem printedAction_action (a : RelayTaskAction) : (printedAction a).action = a := by
  rw [ActionText.action, printedAction]
  simp only [(hexText_sprintfX _).2, (byteText_sprintfD _).2, (hexText_sprintf04X _).2, Int.toNat_natCast,
    UInt8.ofNat_toNat, UInt16.ofNat_toNat]

/-- a printed record is a text of the grammar -/
theorem printed_valid {r : RelayTaskRecord} (h : r.Valid) : (printed r).Valid := by
  have hlen : (printed r).actions.length = r.action_num.toNat := by rw [printed, List.length_map, List.length_range]
  refine ⟨(byteText_sprintfD _).1, (byteText_sprintfD _).1, timeText_sprintfD h.time_ge h.time_lt,
    (byteText_sprintfD _).1, ?_, by rw [hlen]; exact h.pos, by rw [hlen]; exact h.le⟩
  intro a ha
  obtain ⟨j, -, rfl⟩ := List.mem_map.1 ha
  exact printedAction_valid _

/-- and denotes the record -/
theorem printed_task {r : RelayTaskRecord} (h : r.Valid) : (printed r).task = r := by
  have hactions : (printed r).actions.map ActionText.action = (List.range r.action_num.toNat).map r.action := by
    rw [printed, List.map_map]
    exact List.map_congr_left fun j _ => printedAction_action _
  have haction : (fun k => ((printed r).actions.map ActionText.action).getD k zeroAction) = r.action := by
    funext k
    rw [hactions, List.getD_eq_getElem?_getD, List.getElem?_map]
    by_cases hk : k < r.action_num.toNat
    · rw [List.getElem?_range hk]
      rfl
    · rw [List.getElem?_eq_none (by rw [List.length_range]; omega), h.beyond k (by omega)]
      rfl
  have hnum : UInt8.ofNat (printed r).actions.length = r.action_num := by
    rw [printed, List.length_map, List.length_range, UInt8.ofNat_toNat]
  rw [StrategyText.task, haction, hnum, printed]
  simp only [(byteText_sprintfD _).2, (unsigned_sprintfD _).2, Int.toNat_natCast, UInt8.ofNat_toNat]

theorem actionPieces_flatten (a : RelayTaskAction) : (actionPieces a).flatten = (printedAction a).text := by
  simp only [actionPieces, printedAction, ActionText.text, List.flatten_cons, List.flatten_nil, List.append_nil,
    List.cons_append, List.nil_append]

theorem taskPieces_flatten (r : RelayTaskRecord) : (taskPieces r).flatten = (printed r).text := by
  rw [taskPieces, List.flatten_append, List.range_eq_range', TextScan.flatten_separated 0x7C _ _ 0 (Nat.zero_add _)]
  simp only [actionPieces_flatten, printed, StrategyText.text, List.map_map, List.flatten_cons, List.flatten_nil,
    List.append_nil, List.cons_append, List.nil_append, List.append_assoc, List.range_eq_range']
  rfl

theorem length_printedAction (a : RelayTaskAction) : (printedAction a).text.length ≤ 16 := by
  have h1 := (hexText_sprintfX a.module_address).1.le
  have h2 := length_sprintfD_byte a.module_channel
  have h3 := (hexText_sprintf04X a.loop_channel).1.le
  have h4 := (hexText_sprintf04X a.loop_action).1.le
  simp only [ActionText.text, printedAction, List.length_append, List.length_cons]
  omega

/-- five actions fit `buf` -/
theorem length_printed {r : RelayTaskRecord} (h : r.Valid) : (printed r).text.length < 110 := by
  have hle := h.le
  have h1 := length_sprintfD_byte r.group_id
  have h2 := length_sprintfD_byte r.type
  have hge := h.time_ge
  have hlt := h.time_lt
  have h3 := @length_sprintfD_le r.time 5 (by decide) (by omega)
  have h4 := length_sprintfD_byte r.time_option
  obtain ⟨n, hn⟩ := Nat.exists_eq_succ_of_ne_zero (by have hpos := h.pos; omega : r.action_num.toNat ≠ 0)
  rw [MAX_RELAY_MODULE_CONF_NUM] at hle
  have htail : ([0x7C].intercalate ((printed r).actions.map ActionText.text)).length < 17 * r.action_num.toNat := by
    rw [printed, List.map_map, hn, List.range_succ_eq_map, List.map_cons]
    refine lt_of_lt_of_eq (TextScan.length_intercalate_lt 0x7C (n := 16) fun text htext => ?_) (by simp)
    rcases List.mem_cons.1 htext with rfl | htext
    · exact length_printedAction _
    · obtain ⟨j, -, rfl⟩ := List.mem_map.1 htext
      exact length_printedAction _
  have hsign : (sprintfD r.time).length ≤ 6 := by split_ifs at h3 <;> omega
  rw [StrategyText.text, List.length_append, List.length_cons, List.length_append, List.length_cons, List.length_append,
    List.length_cons, List.length_append, List.length_cons]
  simp only [printed] at htail ⊢
  omega

/-- **Printing.** A record comes out as a text that denotes it. -/
theorem taskText_denotes {r : RelayTaskRecord} (h : r.Valid) : ∃ text, taskText r = some text ∧ Denotes text r := by
  refine ⟨(printed r).text, ?_, printed r, printed_valid h, rfl, printed_task h⟩
  rw [taskText, strcats_eq (by decide), taskPieces_flatten, if_pos (length_printed h)]

/-- what is denoted can be printed -/
theorem StrategyText.Valid.task {t : StrategyText} (h : t.Valid) : t.task.Valid := by
  have hle := h.le
  have hnum : t.task.action_num.toNat = t.actions.length := by
    rw [MAX_RELAY_MODULE_CONF_NUM] at hle
    exact UInt8.toNat_ofNat_of_lt' (show t.actions.length < 256 by omega)
  refine ⟨by rw [hnum]; exact h.pos, by rw [hnum]; exact hle, h.time.ge, h.time.le, fun k hk => ?_⟩
  rw [hnum] at hk
  rw [StrategyText.task]
  simp only [List.getD_eq_getElem?_getD]
  rw [List.getElem?_eq_none (by rwa [List.length_map])]
  rfl

/-! ## Records under their numbers -/

/-- the record of a number after writes -/
def recordOf (writes : List (ℕ × RelayTaskRecord)) (i : ℕ) : Option RelayTaskRecord :=
  writes.foldl (fun r w => if w.1 = i then some w.2 else r) none

theorem recordOf_concat (writes : List (ℕ × RelayTaskRecord)) (w : ℕ × RelayTaskRecord) (i : ℕ) :
    recordOf (writes ++ [w]) i = if w.1 = i then some w.2 else recordOf writes i := by
  rw [recordOf, List.foldl_append]
  rfl

/-- the numbers of 256 records differ -/
theorem recordOf_numbered {rs : List RelayTaskRecord} (h : rs.length ≤ 256) (i : ℕ) : recordOf (numbered rs) i = rs[i]? := by
  induction rs using List.reverseRecOn with
  | nil => rfl
  | append_singleton rs r ih =>
    rw [List.length_append, List.length_singleton] at h
    rw [numbered_concat, recordOf_concat, Nat.mod_eq_of_lt (by omega), ih (by omega)]
    split_ifs with hlast
    · rw [← hlast, List.getElem?_concat_length]
    · by_cases hi : i < rs.length
      · rw [List.getElem?_append_left hi]
      · rw [List.getElem?_eq_none (by omega), List.getElem?_eq_none]
        rw [List.length_append, List.length_singleton]
        omega

/-- and there is no number above them -/
theorem recordOf_beyond (rs : List RelayTaskRecord) {i : ℕ} (hi : 256 ≤ i) : recordOf (numbered rs) i = none := by
  induction rs using List.reverseRecOn with
  | nil => rfl
  | append_singleton rs r ih =>
    have hlt := Nat.mod_lt rs.length (by decide : 0 < 256)
    rw [numbered_concat, recordOf_concat, if_neg (by omega), ih]

/-! ## Messages -/

/-- every text of a message is stored as the record it denotes, and answered with a text that denotes it -/
def StoresDenoted (tmp : List UInt8) (ts : List StrategyText) (s : ServerFrameStruct) : Prop :=
  ∃ writes, relaySetRelayStrategy tmp s = some (ts.length, writes) ∧
    (∀ (j : ℕ) t, ts[j]? = some t → recordOf writes j = some t.task) ∧
    ∀ heap, ∃ answer : List Parameter, relayGetRelayStrategy heap ts.length (recordOf writes) = some answer ∧
      ∀ (j : ℕ) t, ts[j]? = some t → ∃ text : List UInt8,
        answer[j]? = some ⟨0x4101 + UInt16.ofNat j, text.length, text ++ [0]⟩ ∧ Denotes text t.task

/-- records under their own numbers are answered -/
theorem relayGetRelayStrategy_denotes {ts : List StrategyText} (hts : ∀ t ∈ ts, t.Valid) (hlen : ts.length ≤ 256)
    (heap : ℕ → UInt16) {stored : ℕ → Option RelayTaskRecord} (hstored : ∀ (j : ℕ) t, ts[j]? = some t → stored j = some t.task) :
    ∃ answer : List Parameter, relayGetRelayStrategy heap ts.length stored = some answer ∧
      ∀ (j : ℕ) t, ts[j]? = some t → ∃ text : List UInt8,
        answer[j]? = some ⟨0x4101 + UInt16.ofNat j, text.length, text ++ [0]⟩ ∧ Denotes text t.task := by
  have hone : ∀ (j : ℕ) t, ts[j]? = some t → ∃ text : List UInt8, Denotes text t.task ∧
      strategyParameter heap stored j = some ⟨0x4101 + UInt16.ofNat j, text.length, text ++ [0]⟩ := by
    intro j t ht
    obtain ⟨hj, -⟩ := List.getElem?_eq_some_iff.1 ht
    obtain ⟨text, htext, hdenotes⟩ := taskText_denotes (hts t (List.mem_of_getElem? ht)).task
    refine ⟨text, hdenotes, ?_⟩
    rw [strategyParameter, Nat.mod_eq_of_lt (by omega), hstored j t ht]
    simp only
    rw [htext]
    rfl
  obtain ⟨answer, hanswer⟩ := @Batching.mapM_isSome _ _ (strategyParameter heap stored) (List.range ts.length) (by
    intro j hj
    obtain ⟨text, -, hprint⟩ := hone j _ (List.getElem?_eq_getElem (List.mem_range.1 hj))
    rw [hprint]
    rfl)
  refine ⟨answer, hanswer, fun j t ht => ?_⟩
  obtain ⟨hj, -⟩ := List.getElem?_eq_some_iff.1 ht
  obtain ⟨text, hdenotes, hprint⟩ := hone j t ht
  obtain ⟨p, hp, hprint'⟩ := (Batching.mapM_range hanswer).2 j hj
  rw [hprint] at hprint'
  exact ⟨text, by rw [hp, ← Option.some.inj hprint'], hdenotes⟩

/-- **Strategies of relays.** What a message denotes is stored, and comes back, exactly if no mask of one or two digits
comes after a higher one, in the channels or in the actions, and if a byte holds the number of every strategy. -/
theorem relayStrategy_iff {ts : List StrategyText} {s : ServerFrameStruct} (hs : Carries ts s)
    (hts : ∀ t ∈ ts, t.Valid) (tmp : List UInt8) : StoresDenoted tmp ts s ↔
      ts.length ≤ 256 ∧ ShortAfterLow (ts.flatMap StrategyText.channels) ∧
        ShortAfterLow (ts.flatMap StrategyText.operations) := by
  have hrun := relaySetRelayStrategy_text hs hts tmp
  have hchannels : ∀ text ∈ ts.flatMap StrategyText.channels, HexText 4 text := by
    intro text htext
    obtain ⟨t, ht, hmem⟩ := List.mem_flatMap.1 htext
    obtain ⟨a, ha, rfl⟩ := List.mem_map.1 hmem
    exact ((hts t ht).actions a ha).loop_channel
  have hoperations : ∀ text ∈ ts.flatMap StrategyText.operations, HexText 4 text := by
    intro text htext
    obtain ⟨t, ht, hmem⟩ := List.mem_flatMap.1 htext
    obtain ⟨a, ha, rfl⟩ := List.mem_map.1 hmem
    exact ((hts t ht).actions a ha).loop_action
  rw [← rightFrom_iff hchannels, ← rightFrom_iff hoperations, ← strategies_right_iff ts (0, 0)]
  set values := valuesFrom StrategyText.read StrategyText.masks (0, 0) ts with hvalues
  have hvalueslen : values.length = ts.length := length_valuesFrom _ _ _ _
  have hall : ts.length ≤ 256 → relaySetRelayStrategy tmp s = some (ts.length, numbered values) := by
    intro hlen
    rw [hrun, Nat.min_eq_left (le_trans hlen (by decide)), List.take_length]
  constructor
  · rintro ⟨writes, hwrites, hstored, -⟩
    by_cases hlen : ts.length ≤ 256
    · rw [hall hlen] at hwrites
      obtain ⟨-, hnumbered⟩ := Prod.mk.inj (Option.some.inj hwrites)
      refine ⟨hlen, List.ext_getElem? fun j => ?_⟩
      rw [List.getElem?_map]
      cases hget : ts[j]? with
      | none => rw [List.getElem?_eq_none (by rw [hvalueslen]; exact List.getElem?_eq_none_iff.1 hget)]; rfl
      | some t =>
        have hrecord := hstored j t hget
        rwa [← hnumbered, recordOf_numbered (by rwa [hvalueslen])] at hrecord
    · have hbeyond := hstored 256 _ (List.getElem?_eq_getElem (by omega))
      rw [hrun] at hwrites
      rw [← (Prod.mk.inj (Option.some.inj hwrites)).2, recordOf_beyond _ le_rfl] at hbeyond
      cases hbeyond
  · rintro ⟨hlen, hright⟩
    have hrecord : ∀ (j : ℕ) t, ts[j]? = some t → recordOf (numbered values) j = some t.task := by
      intro j t ht
      rw [recordOf_numbered (by rwa [hvalueslen]), hright, List.getElem?_map, ht]
      rfl
    exact ⟨numbered values, hall hlen, hrecord,
      fun heap => relayGetRelayStrategy_denotes hts hlen heap hrecord⟩

/-! ## Two actions -/

/-- a message with one strategy -/
def oneStrategy (t : StrategyText) : ServerFrameStruct :=
  { ServerFrameStruct.zero with para_num := 1, para := [some ⟨0x4101, t.text.length, t.text ++ [0]⟩] }

theorem carries_one (t : StrategyText) : Carries [t] (oneStrategy t) := by
  refine ⟨rfl, fun j u hu => ?_⟩
  obtain ⟨hj, rfl⟩ := List.getElem?_eq_some_iff.1 hu
  have hzero : j = 0 := Nat.lt_one_iff.1 hj
  subst hzero
  exact ⟨0x4101, [], rfl⟩

/-- 1,0,480,0|A,1,<first>,3|A,2,<second>,F -/
def twoActions (first second : List UInt8) : StrategyText :=
  ⟨[0x31], [0x30], [0x34, 0x38, 0x30], [0x30],
    [⟨[0x41], [0x31], first, [0x33]⟩, ⟨[0x41], [0x32], second, [0x46]⟩]⟩

theorem byteText_digit {d : UInt8} (h : myisdigit d = true) : ByteText [d] := by
  have hd := d.toNat_lt
  refine ⟨List.cons_ne_nil _ _, (by decide : 1 < 16), List.forall_mem_singleton.2 h, ?_⟩
  rw [digitValue, List.foldl_cons, List.foldl_nil]
  omega

theorem hexText_digit {k : ℕ} (hk : 1 ≤ k) {d : UInt8} (h : isHexDigit d = true) : HexText k [d] :=
  ⟨Nat.one_pos, hk, List.forall_mem_singleton.2 h⟩

theorem twoActions_valid {first second : List UInt8} (h1 : HexText 4 first) (h2 : HexText 4 second) :
    (twoActions first second).Valid where
  group_id := byteText_digit (by decide)
  type := byteText_digit (by decide)
  time :=
    have htime : TimeText [0x34, 0x38, 0x30] :=
      ⟨by decide, by decide, List.all_iff_forall_prop.1 (by decide), by decide, by decide⟩
    htime
  time_option := byteText_digit (by decide)
  actions := by
    have haddress : HexText 2 [0x41] := hexText_digit (by decide) (by decide)
    have hon : HexText 4 [0x33] := hexText_digit (by decide) (by decide)
    have hall : HexText 4 [0x46] := hexText_digit (by decide) (by decide)
    intro a ha
    rcases List.mem_cons.1 ha with rfl | ha
    · exact ⟨haddress, byteText_digit (by decide), h1, hon⟩
    · rw [List.mem_singleton.1 ha]
      exact ⟨haddress, byteText_digit (by decide), h2, hall⟩
  pos := (by decide : 1 ≤ 2)
  le := (by decide : 2 ≤ 5)

theorem relayStrategy_shortFirst : StoresDenoted [] [twoActions [0x46] [0x30, 0x46, 0x30, 0x30]]
    (oneStrategy (twoActions [0x46] [0x30, 0x46, 0x30, 0x30])) := by
  have hF : HexText 4 [0x46] := hexText_digit (by decide) (by decide)
  have h3 : HexText 4 [0x33] := hexText_digit (by decide) (by decide)
  have h0F00 : HexText 4 [0x30, 0x46, 0x30, 0x30] := ⟨by decide, by decide, List.all_iff_forall_prop.1 (by decide)⟩
  refine (relayStrategy_iff (carries_one _) (List.forall_mem_singleton.2 (twoActions_valid hF h0F00)) []).2
    ⟨by decide, ?_, ?_⟩
  · have hmasks : RightFrom 0 [[0x46], [0x30, 0x46, 0x30, 0x30]] := ⟨by decide, by decide, trivial⟩
    exact (rightFrom_iff (List.forall_mem_cons.2 ⟨hF, List.forall_mem_singleton.2 h0F00⟩)).1 hmasks
  · have hmasks : RightFrom 0 [[0x33], [0x46]] := ⟨by decide, by decide, trivial⟩
    exact (rightFrom_iff (List.forall_mem_cons.2 ⟨h3, List.forall_mem_singleton.2 hF⟩)).1 hmasks

/-- after 0F00, F is read as 0F0F -/
theorem relayStrategy_shortLast : ¬ StoresDenoted [] [twoActions [0x30, 0x46, 0x30, 0x30] [0x46]]
    (oneStrategy (twoActions [0x30, 0x46, 0x30, 0x30] [0x46])) := by
  rintro ⟨writes, hwrites, hstored, -⟩
  have hfirst : HexText 4 [0x30, 0x46, 0x30, 0x30] := ⟨by decide, by decide, List.all_iff_forall_prop.1 (by decide)⟩
  have hsecond : HexText 4 [0x46] := hexText_digit (by decide) (by decide)
  rw [relaySetRelayStrategy_text (carries_one _) (List.forall_mem_singleton.2 (twoActions_valid hfirst hsecond)) []]
    at hwrites
  obtain ⟨-, rfl⟩ := Prod.mk.inj (Option.some.inj hwrites)
  have hmask := congrArg (Option.map fun r : RelayTaskRecord => (r.action 1).loop_channel) (hstored 0 _ rfl)
  exact absurd hmask (by decide)

end DataConcentrator.Relay
