/-
The text of a scene, an appointment of relays or of lamps: a group, a priority, and ranges of time with their weekdays.

- `sceneText`, `readScene`: the printer and the reader that the relay handlers, the lamp handlers and the power line
  share, up to the sizes of their buffers;
- `sceneText_eq`: what is printed, and when it fits;
- `length_line_le`: ten ranges of two-digit fields take 217 bytes at most;
- `readScene_line`: what is printed for such ranges reads back, whatever follows it.
-/
import DataConcentrator.Common.Hex
import DataConcentrator.Relay.GroupSelect

namespace DataConcentrator.Scene

open Relay (TimeRange)

/-! ## Scenes -/

/-- `MAX_RELAY_MODULE_APPOINTMENT_TIME_RANGE_NUM` and `MAX_LAMP_APPOINTMENT_TIME_RANGE_NUM` -/
def MAX_APPOINTMENT_TIME_RANGE_NUM : ℕ := 10

/-- `RelaySenceConfig_S` and `LampSenceConfig_S` without their checksums; `range` is the memory from the array of ten
ranges on -/
structure SenceConfig where
  group_id : UInt8
  priority : UInt8
  time_range_num : UInt8
  range : ℕ → TimeRange

/-- `memset(.., 0, ..)` -/
def zeroRange : TimeRange := ⟨0, 0, 0, 0, 0, 0, 0, 0, 0⟩

/-! ## Printing -/

/-- `%02d` -/
def sprintf02D (b : UInt8) : List UInt8 := if b < 10 then 0x30 :: digits b.toNat else digits b.toNat

/-- the four numbers of a time -/
def timePieces (month date hour minute : UInt8) : List (List UInt8) :=
  [sprintf02D month, sprintf02D date, sprintf02D hour, sprintf02D minute]

/-- the pieces of one range -/
def rangePieces (r : TimeRange) : List (List UInt8) :=
  (if r.allZero then [[0x30, 0x2C, 0x30]]
    else timePieces r.s_month r.s_date r.s_hour r.s_minute ++ [[0x2C]] ++
      timePieces r.e_month r.e_date r.e_hour r.e_minute) ++
    [[0x2C], sprintf02X r.week_enable]

def scenePieces (c : SenceConfig) : List (List UInt8) :=
  [sprintfD c.group_id.toNat, [0x2C], sprintfD c.priority.toNat, [0x7C]] ++
    (List.range c.time_range_num.toNat).flatMap fun j =>
      rangePieces (c.range j) ++ if j < c.time_range_num.toNat - 1 then [[0x7C]] else []

/-- `buf`, of `size` bytes -/
def sceneText (size : ℕ) (c : SenceConfig) : Option (List UInt8) := strcats size (scenePieces c)

/-! ## Reading -/

/-- month, date, hour and minute of a number `MMDDhhmm` -/
def splitTime (time : ℕ) : UInt8 × UInt8 × UInt8 × UInt8 :=
  (UInt8.ofNat (time / 1000000), UInt8.ofNat (time / 10000 % 100), UInt8.ofNat (time / 100 % 100),
    UInt8.ofNat (time % 100))

/-- `time = myatoi(tmp)`, a `u32` -/
def timeOf (text : List UInt8) : UInt8 × UInt8 × UInt8 × UInt8 := splitTime (toUnsigned 32 (myatoi text))

def readRange (size : ℕ) (r : Reader) : Option (TimeRange × Reader) := do
  let (text, r) ← r.field size isComma
  let (s_month, s_date, s_hour, s_minute) := timeOf text
  let (text, r) ← r.field size isComma
  let (e_month, e_date, e_hour, e_minute) := timeOf text
  let (text, r) ← r.field size endsField
  let week ← hexOf r text
  some (⟨s_month, s_date, s_hour, s_minute, e_month, e_date, e_hour, e_minute, week⟩, r)

/-- the loop over the ranges; nothing but `tmp` outlives a range -/
def readRanges (size n : ℕ) (r : Reader) : Option (List TimeRange × Unit × Reader) :=
  readSegments (fun _ r => (readRange size r).map fun t => (t.1, (), t.2)) n () r

/-- one parameter, and what `tmp` holds after it -/
def readScene (size : ℕ) (tmp value : List UInt8) : Option (SenceConfig × List UInt8) := do
  let (group_id, r) ← (Reader.mk value tmp).field size isComma
  let (priority, r) ← r.field size isBar
  let seg_num ← segNum MAX_APPOINTMENT_TIME_RANGE_NUM r.msg
  let (ranges, _, r) ← readRanges size seg_num { r with msg := rewound r.msg }
  some (⟨u8Of group_id, u8Of priority, UInt8.ofNat seg_num, fun k => ranges.getD k zeroRange⟩, r.tmp)

/-! ## What is printed -/

def rangeText (r : TimeRange) : List UInt8 := (rangePieces r).flatten

/-- the ranges in use -/
def SenceConfig.ranges (c : SenceConfig) : List TimeRange := (List.range c.time_range_num.toNat).map c.range

/-- the whole text -/
def line (c : SenceConfig) : List UInt8 :=
  sprintfD c.group_id.toNat ++ 0x2C :: (sprintfD c.priority.toNat ++
    0x7C :: [0x7C].intercalate (c.ranges.map rangeText))

theorem flatten_scenePieces (c : SenceConfig) : (scenePieces c).flatten = line c := by
  rw [scenePieces, List.flatten_append, List.range_eq_range', TextScan.flatten_separated 0x7C _ _ 0 (Nat.zero_add _)]
  rw [line, SenceConfig.ranges, List.range_eq_range', List.map_map]
  simp only [List.flatten_cons, List.flatten_nil, List.append_assoc, List.nil_append, List.cons_append]
  rfl

/-- **Printing.** The text comes out exactly if it fits `buf` with its terminator. -/
theorem sceneText_eq {size : ℕ} (hsize : 0 < size) (c : SenceConfig) :
    sceneText size c = if (line c).length < size then some (line c) else none := by
  rw [sceneText, strcats_eq hsize, flatten_scenePieces]

/-! ## Two digits -/

/-- the fields of the two times -/
def times (r : TimeRange) : List UInt8 :=
  [r.s_month, r.s_date, r.s_hour, r.s_minute, r.e_month, r.e_date, r.e_hour, r.e_minute]

/-- every field prints with two digits -/
def TwoDigits (r : TimeRange) : Prop := ∀ b ∈ times r, b ≤ 99

theorem sprintf02D_eq : ∀ b : UInt8, b ≤ 99 →
    sprintf02D b = [UInt8.ofNat (0x30 + b.toNat / 10), UInt8.ofNat (0x30 + b.toNat % 10)] :=
  forall_byte (by decide +kernel)

/-- two digits after what was read before them -/
theorem foldl_sprintf02D {b : UInt8} (hb : b ≤ 99) (total : ℤ) :
    (sprintf02D b).foldl (fun (total : ℤ) c => 10 * total + (c.toNat - 0x30 : ℤ)) total = 100 * total + b.toNat := by
  have hle : b.toNat ≤ 99 := UInt8.le_iff_toNat_le.1 hb
  have hchar : ∀ d < 10, (UInt8.ofNat (0x30 + d)).toNat = 0x30 + d := by decide
  rw [sprintf02D_eq b hb]
  simp only [List.foldl_cons, List.foldl_nil, hchar _ (show b.toNat / 10 < 10 by omega),
    hchar _ (show b.toNat % 10 < 10 by omega)]
  omega

theorem sprintf02D_digits {b : UInt8} (hb : b ≤ 99) : ∀ x ∈ sprintf02D b, myisdigit x = true := by
  have hle : b.toNat ≤ 99 := UInt8.le_iff_toNat_le.1 hb
  rw [sprintf02D_eq b hb]
  intro x hx
  simp only [List.mem_cons, List.not_mem_nil, or_false] at hx
  rcases hx with rfl | rfl
  · exact (digit_facts _ (by omega)).1
  · exact (digit_facts _ (by omega)).1

theorem length_sprintf02D {b : UInt8} (hb : b ≤ 99) : (sprintf02D b).length = 2 := by
  rw [sprintf02D_eq b hb]
  rfl

section Times

variable {month date hour minute : UInt8} (h : ∀ b ∈ [month, date, hour, minute], b ≤ 99)

include h

theorem length_timePieces : (timePieces month date hour minute).flatten.length = 8 := by
  simp only [List.forall_mem_cons] at h
  obtain ⟨hmonth, hdate, hhour, hminute, -⟩ := h
  simp only [timePieces, List.flatten_cons, List.flatten_nil, List.append_nil, List.length_append,
    length_sprintf02D hmonth, length_sprintf02D hdate, length_sprintf02D hhour, length_sprintf02D hminute]

theorem timePieces_digits : ∀ x ∈ (timePieces month date hour minute).flatten, myisdigit x = true := by
  intro x hx
  obtain ⟨piece, hpiece, hx⟩ := List.mem_flatten.1 hx
  rw [timePieces] at hpiece
  obtain ⟨b, hb, rfl⟩ := List.mem_map.1 (show piece ∈ [month, date, hour, minute].map sprintf02D from hpiece)
  exact sprintf02D_digits (h b hb) x hx

/-- **A time reads back.** -/
theorem timeOf_timePieces : timeOf (timePieces month date hour minute).flatten = (month, date, hour, minute) := by
  have hne : (timePieces month date hour minute).flatten ≠ [] := by
    intro hnil
    have hlen := length_timePieces h
    rw [hnil] at hlen
    cases hlen
  have hvalue : myatoi (timePieces month date hour minute).flatten =
      ((month.toNat * 1000000 + date.toNat * 10000 + hour.toNat * 100 + minute.toNat : ℕ) : ℤ) := by
    rw [myatoi_digits hne (timePieces_digits h), digitValue]
    simp only [List.forall_mem_cons] at h
    obtain ⟨hmonth, hdate, hhour, hminute, -⟩ := h
    simp only [timePieces, List.flatten_cons, List.flatten_nil, List.append_nil, List.foldl_append,
      foldl_sprintf02D hmonth, foldl_sprintf02D hdate, foldl_sprintf02D hhour, foldl_sprintf02D hminute]
    push_cast
    ring
  simp only [List.forall_mem_cons, UInt8.le_iff_toNat_le] at h
  obtain ⟨hmonth, hdate, hhour, hminute, -⟩ := h
  have h99 : (99 : UInt8).toNat = 99 := rfl
  have hword : ∀ n : ℕ, n < 100000000 → toUnsigned 32 (n : ℤ) = n := by
    intro n hn
    unfold toUnsigned
    omega
  rw [timeOf, hvalue, hword _ (by omega), splitTime]
  have hm : (month.toNat * 1000000 + date.toNat * 10000 + hour.toNat * 100 + minute.toNat) / 1000000 = month.toNat := by
    omega
  have hd : (month.toNat * 1000000 + date.toNat * 10000 + hour.toNat * 100 + minute.toNat) / 10000 % 100 =
      date.toNat := by omega
  have hh : (month.toNat * 1000000 + date.toNat * 10000 + hour.toNat * 100 + minute.toNat) / 100 % 100 = hour.toNat := by
    omega
  have hn : (month.toNat * 1000000 + date.toNat * 10000 + hour.toNat * 100 + minute.toNat) % 100 = minute.toNat := by
    omega
  rw [hm, hd, hh, hn]
  simp only [UInt8.ofNat_toNat]

end Times

/-! ## Ranges -/

/-- the text of one time of a range -/
structure TimeText (text : List UInt8) (time : UInt8 × UInt8 × UInt8 × UInt8) : Prop where
  plain : Plain text
  fits : text.length ≤ 8
  reads : timeOf text = time

theorem timeText_timePieces {month date hour minute : UInt8} (h : ∀ b ∈ [month, date, hour, minute], b ≤ 99) :
    TimeText (timePieces month date hour minute).flatten (month, date, hour, minute) :=
  ⟨plain_digits (timePieces_digits h), (length_timePieces h).le, timeOf_timePieces h⟩

/-- a range that is not restricted is printed in short, and reads back too -/
theorem timeText_zero : TimeText [0x30] (0, 0, 0, 0) := by
  refine ⟨fun x hx => ?_, by decide, by decide⟩
  rw [List.mem_singleton.1 hx]
  decide

/-- two times and the weekdays -/
theorem rangeText_eq {r : TimeRange} (h : TwoDigits r) : ∃ s e,
    rangeText r = s ++ 0x2C :: (e ++ 0x2C :: sprintf02X r.week_enable) ∧
      TimeText s (r.s_month, r.s_date, r.s_hour, r.s_minute) ∧ TimeText e (r.e_month, r.e_date, r.e_hour, r.e_minute) := by
  by_cases hz : r.allZero
  · refine ⟨[0x30], [0x30], ?_, ?_⟩
    · rw [rangeText, rangePieces, if_pos hz]
      rfl
    · obtain ⟨h1, h2, h3, h4, h5, h6, h7, h8⟩ := hz
      rw [h1, h2, h3, h4, h5, h6, h7, h8]
      exact ⟨timeText_zero, timeText_zero⟩
  · refine ⟨(timePieces r.s_month r.s_date r.s_hour r.s_minute).flatten,
      (timePieces r.e_month r.e_date r.e_hour r.e_minute).flatten, ?_, timeText_timePieces fun b hb => h b ?_,
      timeText_timePieces fun b hb => h b ?_⟩
    · rw [rangeText, rangePieces, if_neg hz]
      simp only [List.flatten_append, List.flatten_cons, List.flatten_nil, List.append_nil, List.append_assoc,
        List.cons_append, List.nil_append]
    · exact List.mem_append_left [r.e_month, r.e_date, r.e_hour, r.e_minute] hb
    · exact List.mem_append_right [r.s_month, r.s_date, r.s_hour, r.s_minute] hb

theorem length_sprintf02X (b : UInt8) : (sprintf02X b).length = 2 := rfl

theorem plain_sprintf02X (b : UInt8) : Plain (sprintf02X b) := by
  intro x hx
  rcases List.mem_cons.1 hx with rfl | hx
  · exact (hexChar_facts b).2.1
  · rw [List.mem_singleton.1 hx]
    exact (hexChar_facts b).2.2

/-- the weekdays read back -/
theorem hexOf_sprintf02X (b : UInt8) (msg tmp : List UInt8) :
    hexOf ⟨msg, TextScan.overlay 0 (sprintf02X b) tmp⟩ (sprintf02X b) = some b := by
  rw [hexOf_overlay (Nat.lt_of_lt_of_eq Nat.two_pos (length_sprintf02X b).symm)]
  exact congrArg some (hexChar_facts b).1

/-- **One range reads back**, up to any byte that ends it. -/
theorem readRange_text {r : TimeRange} (h : TwoDigits r) {size : ℕ} (hsize : 8 < size) {b : UInt8}
    (hb : endsField b = true) (rest tmp : List UInt8) :
    ∃ tmp', readRange size ⟨rangeText r ++ b :: rest, tmp⟩ = some (r, ⟨rest, tmp'⟩) := by
  obtain ⟨s, e, htext, hs, he⟩ := rangeText_eq h
  have hvalue : rangeText r ++ b :: rest = s ++ 0x2C :: (e ++ 0x2C :: (sprintf02X r.week_enable ++ b :: rest)) := by
    rw [htext]
    simp only [List.append_assoc, List.cons_append]
  have hweek := @field_text size endsField (sprintf02X r.week_enable) rest
    (TextScan.overlay 0 e (TextScan.overlay 0 s tmp)) b hb endsField_separates (plain_sprintf02X _)
    (by rw [length_sprintf02X]; omega)
  refine ⟨TextScan.overlay 0 (sprintf02X r.week_enable) (TextScan.overlay 0 e (TextScan.overlay 0 s tmp)), ?_⟩
  rw [readRange, hvalue]
  simp only [field_isComma _ hs.plain (hs.fits.trans_lt hsize), field_isComma _ he.plain (he.fits.trans_lt hsize), hweek,
    hs.reads, he.reads, hexOf_sprintf02X, Option.bind_eq_bind, Option.bind_some]

/-- and so do ranges with a bar between each two, up to the terminator -/
theorem readRanges_text {size : ℕ} (hsize : 8 < size) {rs : List TimeRange} (hrs : ∀ r ∈ rs, TwoDigits r) (hne : rs ≠ [])
    (rest tmp : List UInt8) : ∃ tmp',
      readRanges size rs.length ⟨[0x7C].intercalate (rs.map rangeText) ++ 0 :: rest, tmp⟩ = some (rs, (), ⟨rest, tmp'⟩) := by
  have hreads : ∀ r ∈ rs, ReadsSegment (fun (_ : Unit) r => (readRange size r).map fun t => (t.1, (), t.2)) rangeText
      (fun _ r => r) (fun s _ => s) r := by
    intro r hr s b rest tmp hb
    obtain ⟨tmp', hread⟩ := readRange_text (hrs r hr) hsize hb rest tmp
    exact ⟨tmp', congrArg (Option.map fun t => (t.1, (), t.2)) hread⟩
  obtain ⟨tmp', hread⟩ := readSegments_text hreads hne rest () tmp
  rw [valuesFrom_const, List.map_id'] at hread
  exact ⟨tmp', hread⟩

/-! ## Scenes that read back -/

/-- one to ten ranges, of two-digit fields -/
structure SenceConfig.Valid (c : SenceConfig) : Prop where
  pos : 1 ≤ c.time_range_num.toNat
  le : c.time_range_num.toNat ≤ MAX_APPOINTMENT_TIME_RANGE_NUM
  fields : ∀ k < c.time_range_num.toNat, TwoDigits (c.range k)

/-- two scenes with the same fields, in the ranges in use -/
structure Same (c c' : SenceConfig) : Prop where
  group_id : c'.group_id = c.group_id
  priority : c'.priority = c.priority
  time_range_num : c'.time_range_num = c.time_range_num
  range : ∀ k < c.time_range_num.toNat, c'.range k = c.range k

section Valid

variable {c : SenceConfig} (h : c.Valid)

theorem length_ranges (c : SenceConfig) : c.ranges.length = c.time_range_num.toNat := by
  rw [SenceConfig.ranges, List.length_map, List.length_range]

include h

theorem ranges_twoDigits : ∀ r ∈ c.ranges, TwoDigits r := by
  intro r hr
  obtain ⟨k, hk, rfl⟩ := List.mem_map.1 hr
  exact h.fields k (List.mem_range.1 hk)

theorem rangeText_segment : ∀ t ∈ c.ranges.map rangeText, Segment t := by
  intro t ht x hx hsep
  obtain ⟨r, hr, rfl⟩ := List.mem_map.1 ht
  obtain ⟨s, e, htext, hs, he⟩ := rangeText_eq (ranges_twoDigits h r hr)
  have hall : ∀ y ∈ ([0, 0x7C] : List UInt8), y ∈ ([0, 0x2C, 0x7C] : List UInt8) ∧ y ≠ 0x2C :=
    List.all_iff_forall_prop.1 (by decide)
  obtain ⟨hmem, hne⟩ := hall x hsep
  rw [htext] at hx
  rcases List.mem_append.1 hx with hx | hx
  · exact hs.plain x hx hmem
  · rcases List.mem_cons.1 hx with hx | hx
    · exact hne hx
    · rcases List.mem_append.1 hx with hx | hx
      · exact he.plain x hx hmem
      · rcases List.mem_cons.1 hx with hx | hx
        · exact hne hx
        · exact plain_sprintf02X _ x hx hmem

theorem length_rangeText {r : TimeRange} (hr : r ∈ c.ranges) : (rangeText r).length ≤ 20 := by
  obtain ⟨s, e, htext, hs, he⟩ := rangeText_eq (ranges_twoDigits h r hr)
  have hstart := hs.fits
  have hend := he.fits
  rw [htext, List.length_append, List.length_cons, List.length_append, List.length_cons, length_sprintf02X]
  omega

/-- **The size.** 217 bytes are enough for every valid scene. -/
theorem length_line_le : (line c).length ≤ 217 := by
  have hne : 0 < c.ranges.length := by
    rw [length_ranges]
    exact h.pos
  have hranges : ([0x7C].intercalate (c.ranges.map rangeText)).length < 21 * c.ranges.length := by
    have htexts : ∀ t ∈ c.ranges.map rangeText, t.length ≤ 20 := by
      intro t ht
      obtain ⟨r, hr, rfl⟩ := List.mem_map.1 ht
      exact length_rangeText h hr
    obtain ⟨r, rs, hsplit⟩ := List.exists_cons_of_length_pos hne
    rw [hsplit, List.map_cons] at htexts ⊢
    have hlt := TextScan.length_intercalate_lt 0x7C htexts
    rwa [List.length_map] at hlt
  have hgroup := length_sprintfD_byte c.group_id
  have hpriority := length_sprintfD_byte c.priority
  have hle := h.le
  rw [length_ranges] at hranges
  rw [MAX_APPOINTMENT_TIME_RANGE_NUM] at hle
  rw [line, List.length_append, List.length_cons, List.length_append, List.length_cons]
  omega

/-- **Reading.** A printed scene reads back, whatever follows its terminator and whatever `tmp` held. -/
theorem readScene_line {size : ℕ} (hsize : 8 < size) (tmp rest : List UInt8) :
    ∃ c' tmp', readScene size tmp (line c ++ 0 :: rest) = some (c', tmp') ∧ Same c c' := by
  have hpos := h.pos
  have hle := h.le
  rw [MAX_APPOINTMENT_TIME_RANGE_NUM] at hle
  have hne : c.ranges ≠ [] := by
    intro hnil
    have hlen := length_ranges c
    rw [hnil, List.length_nil] at hlen
    omega
  have hvalue : line c ++ 0 :: rest = sprintfD c.group_id.toNat ++ 0x2C :: (sprintfD c.priority.toNat ++
      0x7C :: ([0x7C].intercalate (c.ranges.map rangeText) ++ 0 :: rest)) := by
    rw [line]
    simp only [List.append_assoc, List.cons_append]
  have hlen : (c.ranges.map rangeText).length = c.time_range_num.toNat := by rw [List.length_map, length_ranges]
  have hnum : segNum MAX_APPOINTMENT_TIME_RANGE_NUM ([0x7C].intercalate (c.ranges.map rangeText) ++ 0 :: rest) =
      some c.ranges.length := by
    rw [segNum_intercalate (rangeText_segment h) (by omega) (by rw [hlen]; exact h.le) (by omega), List.length_map]
  have hback : rewound ([0x7C].intercalate (c.ranges.map rangeText) ++ 0 :: rest) =
      [0x7C].intercalate (c.ranges.map rangeText) ++ 0 :: rest := by
    have hline := length_line_le h
    rw [line, List.length_append, List.length_cons, List.length_append, List.length_cons] at hline
    exact rewound_text (segments_terminate (rangeText_segment h)) (by omega) rest
  obtain ⟨tmp', hread⟩ := readRanges_text hsize (ranges_twoDigits h) hne rest
    (TextScan.overlay 0 (sprintfD c.priority.toNat) (TextScan.overlay 0 (sprintfD c.group_id.toNat) tmp))
  have hgroup := (length_sprintfD_byte c.group_id).trans_lt (by omega : 3 < size)
  have hpriority := (length_sprintfD_byte c.priority).trans_lt (by omega : 3 < size)
  refine ⟨⟨c.group_id, c.priority, UInt8.ofNat c.ranges.length, fun k => c.ranges.getD k zeroRange⟩, tmp', ?_, rfl, rfl,
    ?_, fun k hk => ?_⟩
  · rw [readScene, hvalue]
    simp only [field_isComma _ (plain_sprintfD _) hgroup, field_isBar _ (plain_sprintfD _) hpriority, hnum, hback, hread,
      u8Of_sprintfD, Option.bind_eq_bind, Option.bind_some]
  · change UInt8.ofNat c.ranges.length = c.time_range_num
    rw [length_ranges, UInt8.ofNat_toNat]
  · change c.ranges.getD k zeroRange = c.range k
    rw [SenceConfig.ranges, List.getD_eq_getElem?_getD, List.getElem?_map, List.getElem?_range hk]
    rfl

end Valid

end DataConcentrator.Scene
