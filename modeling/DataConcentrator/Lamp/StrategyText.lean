/-
The text of a lamp strategy: `LampGetLampStrategy` prints it into `char buf[80]`, `LampSetLampStrategy` reads it through
`char tmp[17]`.

- `strategyText_eq`: what is printed, and when it fits;
- `strategyOf_text`: what is printed reads back, whatever follows its terminator;
- `strategy_roundTrip_iff`: a record comes back exactly if its text fits: always with groups, and with addresses up to 71 bytes
  for the numbers and the addresses.
-/
import DataConcentrator.Common.Print
import DataConcentrator.Lamp.Configure
import DataConcentrator.Lib.Batching
import DataConcentrator.Lib.TextScan

namespace DataConcentrator.Lamp

open Plc (Store LampTask PlcTask LampListNum MAX_LAMP_STRATEGY_NUM MAX_LAMP_GROUP_NUM inc16)
open Protocol (Parameter ServerFrameStruct)

/-! ## Printing -/

/-- a `u16` read as an `s16` -/
def signed16 (x : UInt16) : ℤ := (x.toNat : ℤ).bmod (2 ^ 16)

/-- a `u32` printed with `%d` -/
def signed32 (x : UInt32) : ℤ := (x.toNat : ℤ).bmod (2 ^ 32)

/-- the numbers before `ctrl_mode`, each with the separator after it -/
def contentNumbers (content : PlcTask) : List (ℤ × UInt8) :=
  [(content.group_id.toNat, 0x2C), (content.type.toNat, 0x2C), (content.executor.toNat, 0x2C),
    (signed16 content.time, 0x2C), (content.time_option.toNat, 0x7C), (content.brightness.1.toNat, 0x2C),
    (content.brightness.2.toNat, 0x2C)]

/-- all numbers of a strategy -/
def numbers (task : LampTask) : List (ℤ × UInt8) := contentNumbers task.content ++ [((task.ctrl_mode : ℤ), 0x2C)]

/-- the groups or addresses that are not zero -/
def groupAdds (task : LampTask) : List UInt32 :=
  ((List.range MAX_LAMP_GROUP_NUM).map task.group_add).filter (· ≠ 0)

/-- a group as a number, an address as eight digits -/
def printAdd (ctrl_mode : ℕ) (add : UInt32) : List UInt8 :=
  if ctrl_mode = 2 then sprintf08X add else sprintfD (signed32 add)

/-- what is copied to `buf`, piece by piece -/
def strategyPieces (task : LampTask) : List (List UInt8) :=
  ((numbers task).flatMap fun n => [sprintfD n.1, [n.2]]) ++
    (groupAdds task).flatMap fun add => [printAdd task.ctrl_mode add, [0x2C]]

/-- `buf` of `LampGetLampStrategy`; its last byte is cut off -/
def strategyText (task : LampTask) : Option (List UInt8) := (strcats 80 (strategyPieces task)).map List.dropLast

/-! ## Reading -/

/-- the text before a comma, which is passed, or the end, which is not -/
def lastField (msg : List UInt8) : Option (List UInt8 × List UInt8) :=
  let ends := fun b => comma b || b = 0
  let text := msg.takeWhile fun b => !ends b
  match msg.dropWhile fun b => !ends b with
  | b :: msg => if text.length < 17 then some (text, if b = 0 then b :: msg else msg) else none
  | [] => none

/-- the texts up to the terminator -/
def listTexts (msg : List UInt8) : Option (List (List UInt8)) :=
  if 0 ∈ msg then
    (Plc.segments (cstr msg)).mapM fun text => if text.length < 17 then some text else none
  else none

/-- the entries of `group_add`; `add` is the last address read -/
def readAdds (ctrl_mode : ℕ) : UInt32 → List (List UInt8) → UInt32 × List UInt32
  | add, [] => (add, [])
  | add, text :: texts =>
    let add' := if ctrl_mode = 2 then lampAddress add text else add
    let entry := if ctrl_mode = 2 then add' else UInt32.ofNat (toUnsigned 32 (myatoi text))
    let r := readAdds ctrl_mode add' texts
    (r.1, entry :: r.2)

/-- one parameter of `LampSetLampStrategy`, with `add`, which outlives it; `none` where a text does not end or fit -/
def strategyOf (add : UInt32) (value : List UInt8) : Option (UInt32 × LampTask) := do
  let (group_id, msg) ← field comma value
  let (type, msg) ← field comma msg
  let (executor, msg) ← field comma msg
  let (time, msg) ← field comma msg
  let (time_option, msg) ← field bar msg
  let (brightness_0, msg) ← field comma msg
  let (brightness_1, msg) ← field comma msg
  let (ctrl_mode, msg) ← lastField msg
  let texts ← listTexts msg
  let ctrl_mode := toUnsigned 8 (myatoi ctrl_mode)
  let (add, adds) := readAdds ctrl_mode add texts
  if adds.length ≤ MAX_LAMP_GROUP_NUM then
    some (add, {
      content := ⟨byteOf group_id, byteOf type, byteOf executor, UInt16.ofNat (toUnsigned 16 (myatoi time)),
        byteOf time_option, (byteOf brightness_0, byteOf brightness_1)⟩
      ctrl_mode := ctrl_mode
      group_add := fun k => adds.getD k 0 })
  else none

/-- `WriteLampTaskConfig` for a record with its checksum; the index is a `u8` -/
def writeLampTaskConfig (st : Store) (i : ℕ) (task : LampTask) : Store :=
  { st with lampTaskConfig := fun n => if n = i % 256 then (true, task) else st.lampTaskConfig n }

def writeSpecifyLampStrategyNumList (st : Store) (i : ℕ) (mode : ℕ) : Store :=
  if i ≥ MAX_LAMP_STRATEGY_NUM then st
  else
    let l := st.lampStrategyNumList
    if mode = 0 then
      { st with lampStrategyNumList :=
        { number := if l.list i then (l.number + 65535) % 65536 else l.number
          list := fun n => if n = i then false else l.list n } }
    else
      { st with lampStrategyNumList :=
        { number := if l.list i then l.number else inc16 l.number
          list := fun n => if n = i then true else l.list n } }

/-- a record with its parameter's number -/
def configureStrategy (st : Store) (task_num : ℕ) (lamp_task : LampTask) : Store :=
  if task_num < MAX_LAMP_STRATEGY_NUM then
    writeSpecifyLampStrategyNumList (writeLampTaskConfig st task_num lamp_task) task_num 1
  else st

/-- `LampSetLampStrategy`, without its answer -/
def lampSetLampStrategy (st : Store) (s : ServerFrameStruct) : Option Store :=
  (parameters s).bind fun ps =>
    (ps.foldlM (fun (r : UInt32 × Store) p => (strategyOf r.1 p.value).map fun t =>
      (t.1, configureStrategy r.2 (p.type - 0x4001).toNat t.2)) (0, st)).map Prod.snd

/-! ## What is printed -/

/-- the numbers with their separators, before what follows them -/
def heading (ns : List (ℤ × UInt8)) (rest : List UInt8) : List UInt8 :=
  ns.foldr (fun n rest => sprintfD n.1 ++ n.2 :: rest) rest

@[simp] theorem heading_nil (rest : List UInt8) : heading [] rest = rest := rfl

@[simp] theorem heading_cons (n : ℤ × UInt8) (ns : List (ℤ × UInt8)) (rest : List UInt8) :
    heading (n :: ns) rest = sprintfD n.1 ++ n.2 :: heading ns rest := rfl

theorem heading_append (ns : List (ℤ × UInt8)) (rest more : List UInt8) :
    heading ns (rest ++ more) = heading ns rest ++ more := by
  induction ns with
  | nil => rfl
  | cons n ns ih => rw [heading_cons, heading_cons, ih, List.append_assoc, List.cons_append]

theorem length_heading (ns : List (ℤ × UInt8)) (rest : List UInt8) :
    (heading ns rest).length = (ns.map fun n => (sprintfD n.1).length).sum + ns.length + rest.length := by
  induction ns with
  | nil => simp [heading]
  | cons n ns ih =>
    rw [heading_cons, List.length_append, List.length_cons, ih, List.map_cons, List.sum_cons, List.length_cons]
    omega

/-- a list of texts, each after a comma -/
def commaList (texts : List (List UInt8)) : List UInt8 := texts.flatMap (0x2C :: ·)

/-- the printed groups or addresses -/
def addTexts (task : LampTask) : List (List UInt8) := (groupAdds task).map (printAdd task.ctrl_mode)

theorem flatten_numbers (ns : List (ℤ × UInt8)) (rest : List UInt8) :
    (ns.flatMap fun n => [sprintfD n.1, [n.2]]).flatten ++ rest = heading ns rest := by
  induction ns with
  | nil => rfl
  | cons n ns ih =>
    rw [List.flatMap_cons, List.flatten_append, List.append_assoc, ih]
    simp [heading]

/-- commas after the texts are commas before them -/
theorem flatten_texts (texts : List (List UInt8)) :
    0x2C :: (texts.flatMap fun text => [text, [0x2C]]).flatten = commaList texts ++ [0x2C] := by
  induction texts with
  | nil => rfl
  | cons text texts ih =>
    rw [List.flatMap_cons, List.flatten_append, commaList, List.flatMap_cons, List.append_assoc, ← commaList, ← ih]
    simp

/-- the text without the comma at its end -/
def line (task : LampTask) : List UInt8 :=
  heading (contentNumbers task.content) (sprintfD task.ctrl_mode ++ commaList (addTexts task))

theorem flatten_strategyPieces (task : LampTask) : (strategyPieces task).flatten = line task ++ [0x2C] := by
  have hadds : (groupAdds task).flatMap (fun add => [printAdd task.ctrl_mode add, [0x2C]]) =
      (addTexts task).flatMap fun text => [text, [0x2C]] := by
    rw [addTexts, List.flatMap_map]
  rw [strategyPieces, List.flatten_append, hadds, flatten_numbers, numbers, heading, List.foldr_append, ← heading, line,
    ← heading_append, List.append_assoc, ← flatten_texts]
  rfl

/-- **Printing.** The text comes out exactly if it fits `buf` with its comma and its terminator. -/
theorem strategyText_eq (task : LampTask) :
    strategyText task = if (line task).length ≤ 78 then some (line task) else none := by
  rw [strategyText, strcats_eq (by decide), flatten_strategyPieces, List.length_append, List.length_singleton]
  by_cases h : (line task).length ≤ 78
  · rw [if_pos h, if_pos (by omega), Option.map_some, List.dropLast_concat]
  · rw [if_neg h, if_neg (by omega), Option.map_none]

/-! ## What reads back -/

/-- a text without separators, up to one -/
theorem field_text {ends : UInt8 → Bool} {text rest : List UInt8} {b : UInt8} (hb : ends b = true)
    (htext : ∀ x ∈ text, ends x = false) (hlen : text.length < 17) :
    field ends (text ++ b :: rest) = some (text, rest) := by
  unfold field
  simp only [TextScan.takeWhile_upTo hb htext, TextScan.dropWhile_upTo hb htext, if_pos hlen]

/-- a number up to a separator -/
theorem field_number {ends : UInt8 → Bool} {n : ℤ} {rest : List UInt8} {b : UInt8} (hb : ends b = true)
    (hends : ∀ x, ends x = true → x ∈ [0, 0x2C, 0x7C]) (hlen : (sprintfD n).length < 17) :
    field ends (sprintfD n ++ b :: rest) = some (sprintfD n, rest) := by
  refine field_text hb (fun x hx => ?_) hlen
  cases hx' : ends x with
  | false => rfl
  | true => exact absurd (hends x hx') (not_mem_sprintfD hx)

/-- the list without its first comma -/
def listText (texts : List (List UInt8)) : List UInt8 := (commaList texts).drop 1

/-- the last number, with a list or without one -/
theorem lastField_number {n : ℤ} (texts : List (List UInt8)) (rest : List UInt8) (hlen : (sprintfD n).length < 17) :
    lastField (sprintfD n ++ (commaList texts ++ 0 :: rest)) = some (sprintfD n, listText texts ++ 0 :: rest) := by
  have hplain : ∀ x ∈ sprintfD n, (comma x || decide (x = 0)) = false := by
    intro x hx
    have hsep := not_mem_sprintfD hx
    simp only [List.mem_cons, List.not_mem_nil, or_false, not_or] at hsep
    simp [comma, hsep.1, hsep.2.1]
  have hsplit : ∀ (b : UInt8) (more : List UInt8), (comma b || decide (b = 0)) = true →
      lastField (sprintfD n ++ b :: more) = some (sprintfD n, if b = 0 then b :: more else more) := by
    intro b more hb
    have htake := @TextScan.takeWhile_upTo _ (fun b => comma b || decide (b = 0)) _ more b hb hplain
    have hdrop := @TextScan.dropWhile_upTo _ (fun b => comma b || decide (b = 0)) _ more b hb hplain
    unfold lastField
    simp only [htake, hdrop, if_pos hlen]
  cases texts with
  | nil => exact hsplit 0 rest (by decide)
  | cons text texts => exact hsplit 0x2C _ (by decide)

/-- the texts of a list that its separators can be seen in -/
structure ListItem (text : List UInt8) : Prop where
  separators : ∀ x ∈ text, x ∉ [0, 0x2C, 0x7C]
  ne_nil : text ≠ []
  fits : text.length < 17

theorem splitOn_listText {text : List UInt8} {texts : List (List UInt8)} (h : ∀ t ∈ text :: texts, ListItem t) :
    (listText (text :: texts)).splitOn 0x2C = text :: texts := by
  have hfree : ∀ {t : List UInt8}, ListItem t → ∀ x ∈ t, (x == 0x2C) = false := by
    intro t ht x hx
    have hsep := ht.separators x hx
    simp only [List.mem_cons, List.not_mem_nil, or_false, not_or] at hsep
    simp [hsep.2.1]
  induction texts generalizing text with
  | nil =>
    have hone : listText [text] = text := by simp [listText, commaList]
    rw [hone]
    exact List.splitOnP_eq_singleton (hfree (h text List.mem_cons_self))
  | cons next texts ih =>
    have hcons : listText (text :: next :: texts) = text ++ 0x2C :: listText (next :: texts) := by
      simp [listText, commaList]
    have hnext := ih fun t ht => h t (List.mem_cons_of_mem text ht)
    rw [List.splitOn] at hnext ⊢
    rw [hcons, List.splitOnP_append_cons _ _ (by decide), hnext,
      List.splitOnP_eq_singleton (hfree (h text List.mem_cons_self))]
    rfl

theorem segments_listText {texts : List (List UInt8)} (h : ∀ t ∈ texts, ListItem t) :
    Plc.segments (listText texts) = texts := by
  cases texts with
  | nil => rfl
  | cons text texts =>
    have hlast : (text :: texts).getLast? ≠ some [] := by
      intro hnil
      exact (h _ (List.mem_of_getLast? hnil)).ne_nil rfl
    rw [Plc.segments]
    simp only [splitOn_listText h]
    exact if_neg hlast

theorem not_mem_listText {texts : List (List UInt8)} (h : ∀ t ∈ texts, ListItem t) : 0 ∉ listText texts := by
  intro h0
  obtain ⟨text, htext, hmem⟩ := List.mem_flatMap.1 (List.mem_of_mem_drop h0)
  rcases List.mem_cons.1 hmem with h0 | hmem
  · exact absurd h0 (by decide)
  · exact (h text htext).separators 0 hmem (by decide)

/-- a list reads back -/
theorem listTexts_listText {texts : List (List UInt8)} (h : ∀ t ∈ texts, ListItem t) (rest : List UInt8) :
    listTexts (listText texts ++ 0 :: rest) = some texts := by
  have hcstr : cstr (listText texts ++ 0 :: rest) = listText texts := by
    rw [cstr_append (not_mem_listText h), cstr, List.takeWhile_cons_of_neg (by decide), List.append_nil]
  have hfits : texts.mapM (fun text => if text.length < 17 then some text else none) = some (texts.map id) :=
    Batching.mapM_some fun t ht => if_pos (h t ht).fits
  rw [listTexts, if_pos (List.mem_append_right _ List.mem_cons_self), hcstr, segments_listText h, hfits, List.map_id]

/-! ## Numbers and addresses -/

theorem length_byte (b : UInt8) : (sprintfD (b.toNat : ℤ)).length ≤ 3 := by
  have hb := b.toNat_lt
  exact length_sprintfD_le (k := 3) (by decide) (by omega)

theorem length_signed16 (x : UInt16) : (sprintfD (signed16 x)).length ≤ 6 := by
  have hlow : -2 ^ 15 ≤ signed16 x := Int.le_bmod (by decide)
  have hhigh : signed16 x < 2 ^ 15 := Int.bmod_lt (by decide)
  have habs : (signed16 x).natAbs < 10 ^ 5 := by norm_num; omega
  have h := length_sprintfD_le (by decide) habs
  split_ifs at h <;> omega

theorem length_signed32 (x : UInt32) : (sprintfD (signed32 x)).length ≤ 11 := by
  have hlow : -2 ^ 31 ≤ signed32 x := Int.le_bmod (by decide)
  have hhigh : signed32 x < 2 ^ 31 := Int.bmod_lt (by decide)
  have habs : (signed32 x).natAbs < 10 ^ 10 := by norm_num; omega
  have h := length_sprintfD_le (by decide) habs
  split_ifs at h <;> omega

theorem ofNat_byte (b : UInt8) : UInt8.ofNat (toUnsigned 8 (b.toNat : ℤ)) = b := by
  have hb := b.toNat_lt
  have hmod : toUnsigned 8 (b.toNat : ℤ) = b.toNat := by
    rw [toUnsigned]
    omega
  rw [hmod, UInt8.ofNat_toNat]

/-- an unsigned number read as a signed one and back -/
theorem toUnsigned_bmod {w n : ℕ} (h : n < 2 ^ w) : toUnsigned w ((n : ℤ).bmod (2 ^ w)) = n := by
  have hpow : (2 : ℤ) ^ w = ((2 ^ w : ℕ) : ℤ) := by push_cast; rfl
  rw [toUnsigned, hpow, Int.bmod_emod, Int.emod_eq_of_lt (Int.natCast_nonneg n) (Int.ofNat_lt.2 h), Int.toNat_natCast]

theorem toUnsigned_signed16 (x : UInt16) : toUnsigned 16 (signed16 x) = x.toNat := toUnsigned_bmod x.toNat_lt

theorem toUnsigned_signed32 (x : UInt32) : toUnsigned 32 (signed32 x) = x.toNat := toUnsigned_bmod x.toNat_lt

theorem ofNat_signed16 (x : UInt16) : UInt16.ofNat (toUnsigned 16 (signed16 x)) = x := by
  rw [toUnsigned_signed16]
  exact UInt16.ofNat_toNat

theorem ofNat_signed32 (x : UInt32) : UInt32.ofNat (toUnsigned 32 (signed32 x)) = x := by
  rw [toUnsigned_signed32]
  exact UInt32.ofNat_toNat

theorem lampAddress_sprintf08X (add x : UInt32) : lampAddress add (sprintf08X x) = x := by
  rw [lampAddress, if_pos (length_sprintf08X x), strToHex_sprintf08X]
  exact getBe32_putBe32 x

theorem listItem_printAdd (ctrl_mode : ℕ) (add : UInt32) : ListItem (printAdd ctrl_mode add) := by
  unfold printAdd
  split_ifs
  · exact ⟨fun x hx => not_mem_sprintf08X hx, List.cons_ne_nil _ _, by rw [length_sprintf08X]; decide⟩
  · exact ⟨fun x hx => not_mem_sprintfD hx, sprintfD_ne_nil _, (length_signed32 add).trans_lt (by decide)⟩

theorem length_readAdds (ctrl_mode : ℕ) (texts : List (List UInt8)) : ∀ add,
    (readAdds ctrl_mode add texts).2.length = texts.length := by
  induction texts with
  | nil => exact fun add => rfl
  | cons text texts ih => exact fun add => congrArg Nat.succ (ih _)

/-- printed groups or addresses read back -/
theorem readAdds_printAdd (ctrl_mode : ℕ) (adds : List UInt32) : ∀ add,
    (readAdds ctrl_mode add (adds.map (printAdd ctrl_mode))).2 = adds := by
  induction adds with
  | nil => exact fun add => rfl
  | cons a adds ih =>
    intro add
    have hentry : (if ctrl_mode = 2 then (if ctrl_mode = 2 then lampAddress add (printAdd ctrl_mode a) else add)
        else UInt32.ofNat (toUnsigned 32 (myatoi (printAdd ctrl_mode a)))) = a := by
      unfold printAdd
      split_ifs
      · exact lampAddress_sprintf08X add a
      · rw [myatoi_sprintfD, ofNat_signed32]
    rw [List.map_cons, readAdds]
    exact congrArg₂ List.cons hentry (ih _)

/-! ## One strategy -/

/-- a number that fits `tmp`, up to a comma -/
theorem field_comma {n : ℤ} (rest : List UInt8) (hlen : (sprintfD n).length < 17) :
    field comma (sprintfD n ++ 0x2C :: rest) = some (sprintfD n, rest) :=
  field_number (by decide) (fun x hx => by simp [of_decide_eq_true hx]) hlen

/-- a number that fits `tmp`, up to a bar -/
theorem field_bar {n : ℤ} (rest : List UInt8) (hlen : (sprintfD n).length < 17) :
    field bar (sprintfD n ++ 0x7C :: rest) = some (sprintfD n, rest) :=
  field_number (by decide) (fun x hx => by simp [of_decide_eq_true hx]) hlen

/-- eight numbers and a list -/
theorem strategyOf_heading {n₁ n₂ n₃ n₄ n₅ n₆ n₇ n₈ : ℤ} {texts : List (List UInt8)} (add : UInt32)
    (rest : List UInt8) (hlen : ∀ n ∈ [n₁, n₂, n₃, n₄, n₅, n₆, n₇, n₈], (sprintfD n).length < 17)
    (hitems : ∀ t ∈ texts, ListItem t) (hroom : texts.length ≤ MAX_LAMP_GROUP_NUM) :
    strategyOf add (heading [(n₁, 0x2C), (n₂, 0x2C), (n₃, 0x2C), (n₄, 0x2C), (n₅, 0x7C), (n₆, 0x2C), (n₇, 0x2C)]
      (sprintfD n₈ ++ (commaList texts ++ 0 :: rest))) =
    some ((readAdds (toUnsigned 8 n₈) add texts).1, {
      content := ⟨UInt8.ofNat (toUnsigned 8 n₁), UInt8.ofNat (toUnsigned 8 n₂), UInt8.ofNat (toUnsigned 8 n₃),
        UInt16.ofNat (toUnsigned 16 n₄), UInt8.ofNat (toUnsigned 8 n₅),
        (UInt8.ofNat (toUnsigned 8 n₆), UInt8.ofNat (toUnsigned 8 n₇))⟩
      ctrl_mode := toUnsigned 8 n₈
      group_add := fun k => (readAdds (toUnsigned 8 n₈) add texts).2.getD k 0 }) := by
  simp only [List.forall_mem_cons] at hlen
  obtain ⟨h1, h2, h3, h4, h5, h6, h7, h8, -⟩ := hlen
  rw [strategyOf]
  simp only [heading_cons, heading_nil, field_comma _ h1, field_comma _ h2, field_comma _ h3, field_comma _ h4,
    field_bar _ h5, field_comma _ h6, field_comma _ h7, lastField_number _ _ h8, listTexts_listText hitems,
    Option.bind_eq_bind, Option.bind_some, byteOf, myatoi_sprintfD]
  rw [if_pos (by rwa [length_readAdds])]

theorem length_groupAdds_le (task : LampTask) : (groupAdds task).length ≤ MAX_LAMP_GROUP_NUM := by
  refine (List.length_filter_le _ _).trans ?_
  rw [List.length_map, List.length_range]

/-- the record that is read from a text -/
def readBack (task : LampTask) : LampTask := { task with group_add := fun k => (groupAdds task).getD k 0 }

/-- the numbers of a record fit `tmp` -/
theorem numbers_fit {task : LampTask} (hmode : task.ctrl_mode < 256) :
    ∀ n ∈ (numbers task).map Prod.fst, (sprintfD n).length < 17 := by
  have hlast : (sprintfD (task.ctrl_mode : ℤ)).length ≤ 3 := length_sprintfD_le (k := 3) (by decide) (by omega)
  have hbyte : ∀ b : UInt8, (sprintfD (b.toNat : ℤ)).length < 17 := fun b => (length_byte b).trans_lt (by decide)
  have htime : (sprintfD (signed16 task.content.time)).length < 17 := (length_signed16 _).trans_lt (by decide)
  rw [numbers, contentNumbers]
  simp only [List.cons_append, List.nil_append, List.map_cons, List.map_nil, List.forall_mem_cons]
  exact ⟨hbyte _, hbyte _, hbyte _, htime, hbyte _, hbyte _, hbyte _, hlast.trans_lt (by decide), by simp⟩

/-- **Reading.** A printed strategy reads back, whatever follows its terminator. -/
theorem strategyOf_text {task : LampTask} (hmode : task.ctrl_mode < 256) (add : UInt32) (rest : List UInt8) :
    ∃ add', strategyOf add (line task ++ 0 :: rest) = some (add', readBack task) := by
  have hvalue : line task ++ 0 :: rest = heading (contentNumbers task.content)
      (sprintfD task.ctrl_mode ++ (commaList (addTexts task) ++ 0 :: rest)) := by
    rw [line, ← heading_append, List.append_assoc]
  have hctrl : toUnsigned 8 (task.ctrl_mode : ℤ) = task.ctrl_mode := by
    rw [toUnsigned]
    omega
  have hitems : ∀ t ∈ addTexts task, ListItem t := by
    intro t ht
    obtain ⟨a, -, rfl⟩ := List.mem_map.1 ht
    exact listItem_printAdd task.ctrl_mode a
  have hroom : (addTexts task).length ≤ MAX_LAMP_GROUP_NUM := by
    rw [addTexts, List.length_map]
    exact length_groupAdds_le task
  have hadds : (readAdds task.ctrl_mode add (addTexts task)).2 = groupAdds task :=
    readAdds_printAdd task.ctrl_mode (groupAdds task) add
  refine ⟨(readAdds task.ctrl_mode add (addTexts task)).1, ?_⟩
  rw [hvalue, contentNumbers, strategyOf_heading add rest (numbers_fit hmode) hitems hroom]
  simp only [ofNat_byte, ofNat_signed16, hctrl, hadds]
  rfl

/-! ## The round trip -/

/-- the records a strategy is configured with: the groups, each a byte, or the addresses are the first entries -/
structure WellFormedTask (task : LampTask) : Prop where
  mode : task.ctrl_mode ≤ 2
  packed : ∃ m ≤ MAX_LAMP_GROUP_NUM, (∀ k < m, task.group_add k ≠ 0) ∧
    ∀ k < MAX_LAMP_GROUP_NUM, m ≤ k → task.group_add k = 0
  groups : task.ctrl_mode ≠ 2 → ∀ k < MAX_LAMP_GROUP_NUM, task.group_add k ≤ 255
  addressed : task.ctrl_mode = 2 → task.group_add 0 ≠ 0

/-- two records with the same fields -/
structure Same (task task' : LampTask) : Prop where
  content : task'.content = task.content
  ctrl_mode : task'.ctrl_mode = task.ctrl_mode
  group_add : ∀ k < MAX_LAMP_GROUP_NUM, task'.group_add k = task.group_add k

/-- the text comes out, and a message with it, for any strategy, stores the record -/
def RoundTrip (task : LampTask) : Prop :=
  ∃ text, strategyText task = some text ∧
    ∀ (st : Store) (s : ServerFrameStruct) (n len : ℕ) (rest : List UInt8), n < MAX_LAMP_STRATEGY_NUM →
      s.para_num = 1 → s.paraAt 0 = some ⟨UInt16.ofNat (0x4001 + n), len, text ++ 0 :: rest⟩ →
      ∃ st' task', lampSetLampStrategy st s = some st' ∧ st'.lampTaskConfig (n % 256) = (true, task') ∧ Same task task'

/-- the digits and signs of the numbers -/
def width (task : LampTask) : ℕ := ((numbers task).map fun n => (sprintfD n.1).length).sum

theorem groupAdds_of_packed {task : LampTask} {m : ℕ} (hm : m ≤ MAX_LAMP_GROUP_NUM)
    (hset : ∀ k < m, task.group_add k ≠ 0) (hclear : ∀ k < MAX_LAMP_GROUP_NUM, m ≤ k → task.group_add k = 0) :
    groupAdds task = (List.range m).map task.group_add := by
  have hpacked : ∀ i (hi : i < ((List.range MAX_LAMP_GROUP_NUM).map task.group_add).length),
      decide (((List.range MAX_LAMP_GROUP_NUM).map task.group_add)[i] ≠ 0) = true ↔ i < m := by
    intro i hi
    rw [List.length_map, List.length_range] at hi
    rw [List.getElem_map, List.getElem_range, decide_eq_true_eq]
    constructor
    · intro hne
      by_contra hle
      exact hne (hclear i hi (Nat.not_lt.1 hle))
    · exact hset i
  rw [groupAdds, TextScan.filter_packed hpacked, ← List.map_take, List.take_range, Nat.min_eq_left hm]

theorem same_readBack {task : LampTask} (h : WellFormedTask task) : Same task (readBack task) := by
  obtain ⟨m, hm, hset, hclear⟩ := h.packed
  refine ⟨rfl, rfl, fun k hk => ?_⟩
  have hadds : (readBack task).group_add k = ((List.range m).map task.group_add).getD k 0 :=
    congrArg (·.getD k 0) (groupAdds_of_packed hm hset hclear)
  rw [hadds, List.getD_eq_getElem?_getD, List.getElem?_map]
  by_cases hkm : k < m
  · rw [List.getElem?_range hkm]
    rfl
  · rw [List.getElem?_eq_none (by rw [List.length_range]; omega), hclear k hk (by omega)]
    rfl

theorem length_commaList (texts : List (List UInt8)) :
    (commaList texts).length = (texts.map fun text => text.length + 1).sum := by
  rw [commaList, List.length_flatMap]
  rfl

theorem length_line (task : LampTask) : (line task).length = width task + 7 + (commaList (addTexts task)).length := by
  have hwidth : width task = ((contentNumbers task.content).map fun n => (sprintfD n.1).length).sum +
      (sprintfD (task.ctrl_mode : ℤ)).length := by
    rw [width, numbers, List.map_append, List.sum_append]
    rfl
  have hseven : (contentNumbers task.content).length = 7 := rfl
  rw [line, length_heading, List.length_append, hwidth, hseven]
  omega

/-- addresses take nine bytes each -/
theorem length_addresses {task : LampTask} (h : task.ctrl_mode = 2) :
    (commaList (addTexts task)).length = 9 * (groupAdds task).length := by
  rw [length_commaList, addTexts, List.map_map]
  have hnine : ((fun text : List UInt8 => text.length + 1) ∘ printAdd task.ctrl_mode) = fun _ => 9 := by
    funext add
    rw [Function.comp_apply, printAdd, if_pos h, length_sprintf08X]
  rw [hnine, List.map_const', List.sum_replicate, smul_eq_mul, Nat.mul_comm]

/-- a group of one byte takes up to four -/
theorem length_groups {task : LampTask} (h : task.ctrl_mode ≠ 2)
    (hgroups : ∀ k < MAX_LAMP_GROUP_NUM, task.group_add k ≤ 255) : (commaList (addTexts task)).length ≤ 40 := by
  have hprint : ∀ text ∈ addTexts task, text.length + 1 ≤ 4 := by
    intro text htext
    obtain ⟨add, hadd, rfl⟩ := List.mem_map.1 htext
    obtain ⟨k, hk, rfl⟩ := List.mem_map.1 (List.mem_of_mem_filter hadd)
    have hle : (task.group_add k).toNat ≤ 255 := UInt32.le_iff_toNat_le.1 (hgroups k (List.mem_range.1 hk))
    have hsigned : signed32 (task.group_add k) = (task.group_add k).toNat :=
      Int.bmod_eq_of_le (by omega) (by omega)
    have hdigits : (sprintfD (task.group_add k).toNat).length ≤ 3 :=
      length_sprintfD_le (k := 3) (by decide) (by omega)
    rw [printAdd, if_neg h, hsigned]
    omega
  have hsum := List.sum_le_card_nsmul ((addTexts task).map fun text => text.length + 1) 4 fun n hn => by
    obtain ⟨text, htext, rfl⟩ := List.mem_map.1 hn
    exact hprint text htext
  have hlen := length_groupAdds_le task
  rw [MAX_LAMP_GROUP_NUM] at hlen
  rw [List.length_map, addTexts, List.length_map, smul_eq_mul, ← addTexts] at hsum
  rw [length_commaList]
  omega

theorem width_le {task : LampTask} (h : task.ctrl_mode ≤ 2) : width task ≤ 25 := by
  have hmode : (sprintfD (task.ctrl_mode : ℤ)).length ≤ 1 := length_sprintfD_le (k := 1) (by decide) (by omega)
  have hle : List.Forall₂ (· ≤ ·) ((numbers task).map fun n => (sprintfD n.1).length) [3, 3, 3, 6, 3, 3, 3, 1] := by
    rw [numbers, contentNumbers]
    simp only [List.cons_append, List.nil_append, List.map_cons, List.map_nil]
    exact .cons (length_byte _) (.cons (length_byte _) (.cons (length_byte _) (.cons (length_signed16 _)
      (.cons (length_byte _) (.cons (length_byte _) (.cons (length_byte _) (.cons hmode .nil)))))))
  exact hle.sum_le_sum

/-- when the text fits -/
theorem line_fits_iff {task : LampTask} (h : WellFormedTask task) :
    (line task).length ≤ 78 ↔ task.ctrl_mode ≠ 2 ∨ 9 * (groupAdds task).length + width task ≤ 71 := by
  rw [length_line]
  by_cases h2 : task.ctrl_mode = 2
  · rw [length_addresses h2]
    refine ⟨fun hle => .inr (by omega), fun hor => ?_⟩
    have hle := hor.resolve_left (not_not_intro h2)
    omega
  · have hwidth := width_le h.mode
    have hlist := length_groups h2 (h.groups h2)
    exact ⟨fun _ => .inl h2, fun _ => by omega⟩

/-- a message of one strategy stores its record -/
theorem stores_strategy {st : Store} {s : ServerFrameStruct} {n len : ℕ} {value : List UInt8} {task : LampTask}
    {add : UInt32} (hn : n < MAX_LAMP_STRATEGY_NUM) (hone : s.para_num = 1)
    (hpara : s.paraAt 0 = some ⟨UInt16.ofNat (0x4001 + n), len, value⟩)
    (hread : strategyOf 0 value = some (add, task)) :
    ∃ st', lampSetLampStrategy st s = some st' ∧ st'.lampTaskConfig (n % 256) = (true, task) := by
  have hnum : (UInt16.ofNat (0x4001 + n) - 0x4001).toNat = n := by
    unfold MAX_LAMP_STRATEGY_NUM at hn
    rw [UInt16.ofNat_add, UInt16.add_comm]
    have hcancel : UInt16.ofNat n + UInt16.ofNat 0x4001 - 0x4001 = UInt16.ofNat n := UInt16.add_sub_cancel _ _
    rw [hcancel, UInt16.toNat_ofNat']
    omega
  have hps : parameters s = some [⟨UInt16.ofNat (0x4001 + n), len, value⟩] := by
    rw [parameters, hone, List.range_one, List.mapM_cons, hpara]
    rfl
  refine ⟨configureStrategy st n task, ?_, ?_⟩
  · rw [lampSetLampStrategy, hps, Option.bind_some, List.foldlM_cons, hread]
    simp only [Option.map_some, hnum]
    rfl
  · have hnot : ¬ n ≥ MAX_LAMP_STRATEGY_NUM := Nat.not_le.2 hn
    rw [configureStrategy, if_pos hn, writeSpecifyLampStrategyNumList, if_neg hnot, if_neg (by decide)]
    exact if_pos rfl

/-- **Round trip.** Of the records a strategy is configured with, those come back whose texts fit: all with groups, and
with addresses those whose numbers and addresses take 71 bytes at most. -/
theorem strategy_roundTrip_iff {task : LampTask} (h : WellFormedTask task) :
    RoundTrip task ↔ task.ctrl_mode ≠ 2 ∨ 9 * (groupAdds task).length + width task ≤ 71 := by
  rw [← line_fits_iff h, RoundTrip, strategyText_eq]
  constructor
  · rintro ⟨text, htext, -⟩
    by_contra hlong
    rw [if_neg hlong] at htext
    cases htext
  · intro hfit
    refine ⟨line task, if_pos hfit, fun st s n len rest hn hone hpara => ?_⟩
    have hmode : task.ctrl_mode < 256 := h.mode.trans_lt (by decide)
    obtain ⟨add', hread⟩ := strategyOf_text hmode 0 rest
    obtain ⟨st', hset, hstored⟩ := stores_strategy hn hone hpara hread
    exact ⟨st', readBack task, hset, hstored, same_readBack h⟩

/-- a strategy for `m` lamps -/
def addressed (m : ℕ) : LampTask :=
  ⟨⟨1, 2, 3, 0xFFFF, 5, (60, 70)⟩, 2, fun k => if k < m then 0x12345678 else 0⟩

theorem wellFormedTask_addressed {m : ℕ} (h1 : 1 ≤ m) (hm : m ≤ MAX_LAMP_GROUP_NUM) : WellFormedTask (addressed m) where
  mode := le_rfl
  packed := by
    refine ⟨m, hm, fun k hk => ?_, fun k _ hk => if_neg (Nat.not_lt.2 hk)⟩
    have hset : (addressed m).group_add k = 0x12345678 := if_pos hk
    rw [hset]
    decide
  groups := fun h => absurd rfl h
  addressed := by
    intro _
    have hset : (addressed m).group_add 0 = 0x12345678 := if_pos h1
    rw [hset]
    decide

/-- one lamp comes back -/
theorem roundTrip_one : WellFormedTask (addressed 1) ∧ RoundTrip (addressed 1) :=
  have h : WellFormedTask (addressed 1) := wellFormedTask_addressed le_rfl (by decide)
  ⟨h, (strategy_roundTrip_iff h).2 (.inr (by decide +kernel))⟩

/-- ten lamps overflow the buffer -/
theorem not_roundTrip_ten : ¬ ∀ task, WellFormedTask task → RoundTrip task := by
  intro hall
  obtain ⟨text, htext, -⟩ := hall (addressed 10) (wellFormedTask_addressed (by decide) le_rfl)
  have hnone : strategyText (addressed 10) = none := by decide +kernel
  rw [hnone] at htext
  cases htext

end DataConcentrator.Lamp
