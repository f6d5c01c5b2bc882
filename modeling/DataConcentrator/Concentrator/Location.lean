/-
The table of the year: `GetLocationConfiguration` prints it month by month, `SetLocationConfiguration` reads it.

The coordinates are what `atof` makes of their texts; the checksum and the answer of the setter are left out. A read or
write outside a buffer is `none`.
- `getLocationConfiguration`, `setLocationConfiguration`: the two handlers; the setter's loop is bounded by the
  `para_num` it finds behind a null pointer;
- `storeDay_monthText`: the first day of a printed month overflows `tmp`, since its second text runs to the terminator;
- `location_stored_iff`: a table sent is the table stored only if nothing is handled and it was stored before.
-/
import DataConcentrator.Common.Print
import DataConcentrator.Lib.Batching
import DataConcentrator.Lib.TextScan
import DataConcentrator.Protocol.ServerFrame
import DataConcentrator.Relay.Strategy

namespace DataConcentrator.Concentrator

open Relay (SwitchTime)
open Protocol (Parameter ServerFrameStruct forU8)

/-! ## The table -/

/-- `switch_time_month_table` -/
abbrev SwitchTable := Fin 12 → Fin 31 → SwitchTime

/-- `ConcentratorLocationConfig_S` without its checksum -/
structure LocationConfig (F : Type) where
  longitude : F
  latitude : F
  switch_time_month_table : SwitchTable

/-- the entry at `[month][date]`, inside the table -/
def SwitchTable.entry (table : SwitchTable) (month date : ℕ) : Option SwitchTime :=
  if h : month < 12 ∧ date < 31 then some (table ⟨month, h.1⟩ ⟨date, h.2⟩) else none

/-- the table with the entry at `[month][date]` changed -/
def SwitchTable.change (table : SwitchTable) (month date : ℕ) (f : SwitchTime → SwitchTime) : Option SwitchTable :=
  (table.entry month date).map fun time m d => if m.val = month ∧ d.val = date then f time else table m d

/-! ## `SetLocationConfiguration` -/

/-- `type - 0x4003` in a `u8` -/
def monthOf (type : UInt16) : ℕ := (type - 0x4003).toNat % 256

/-- `char tmp[16]` -/
def tmpSize : ℕ := 16

/-- one round of the loop over the days: `msg` starts at the value again, and the second text is taken up to the
terminator -/
def storeDay (month : ℕ) (value : List UInt8) (table : SwitchTable) (k : ℕ) : Option SwitchTable := do
  let (tmp, msg) ← TextScan.scan tmpSize (· = 0x2C) value
  let time := toUnsigned 16 (myatoi tmp)
  let table ← table.change month k fun s =>
    { s with on_hour := UInt8.ofNat (time / 100), on_minute := UInt8.ofNat (time % 100) }
  let (tmp, _) ← TextScan.scan tmpSize (· = 0) (msg.drop 1)
  let time := toUnsigned 16 (myatoi tmp)
  table.change month k fun s =>
    { s with off_hour := UInt8.ofNat (time / 100), off_minute := UInt8.ofNat (time % 100) }

section Set

variable {F : Type} (atof : List UInt8 → F)

/-- a coordinate is read from the first or the second parameter, wherever its own stands -/
def setParameter (s : ServerFrameStruct) (config : LocationConfig F) (p : Parameter) : Option (LocationConfig F) :=
  if p.type = 0x2001 then (s.paraAt 0).map fun p => { config with longitude := atof (cstr p.value) }
  else if p.type = 0x2002 then (s.paraAt 1).map fun p => { config with latitude := atof (cstr p.value) }
  else ((List.range 31).foldlM (storeDay (monthOf p.type) p.value) config.switch_time_month_table).map fun table =>
    { config with switch_time_month_table := table }

/-- `null_para_num` is what `resp_server_frame_struct->para_num` reads while the pointer is null -/
def setLocationConfiguration (null_para_num : ℕ) (config : LocationConfig F) (s : ServerFrameStruct) :
    Option (LocationConfig F) :=
  forU8 null_para_num (fun config j => (s.paraAt j).bind (setParameter atof s config)) config

end Set

/-! ## `GetLocationConfiguration` -/

def int4BitToString (num : ℕ) : List UInt8 :=
  [UInt8.ofNat (num / 1000 + 0x30), UInt8.ofNat (num / 100 % 10 + 0x30), UInt8.ofNat (num / 10 % 10 + 0x30),
    UInt8.ofNat (num % 10 + 0x30)]

/-- the pieces one day adds to `buf` -/
def dayPieces (days : Fin 31 → SwitchTime) (k : Fin 31) : List (List UInt8) :=
  let s := days k
  [int4BitToString (s.on_hour.toNat * 100 + s.on_minute.toNat), [0x2C],
    int4BitToString (s.off_hour.toNat * 100 + s.off_minute.toNat)] ++ if k.val < 30 then [[0x7C]] else []

/-- `buf` after the loop over the days -/
def monthText (days : Fin 31 → SwitchTime) : Option (List UInt8) := strcats 310 ((List.finRange 31).flatMap (dayPieces days))

/-- a parameter of the answer -/
def printed (type : UInt16) (text : List UInt8) : Parameter := ⟨type, text.length, text ++ [0]⟩

/-- the parameters of the answer; `sprintf` prints a coordinate -/
def getLocationConfiguration {F : Type} (sprintf : F → List UInt8) (config : LocationConfig F) :
    Option (List Parameter) := do
  let longitude ← strcats 310 [sprintf config.longitude]
  let latitude ← strcats 310 [sprintf config.latitude]
  let months ← (List.finRange 12).mapM fun j =>
    (monthText (config.switch_time_month_table j)).map (printed (0x4103 + UInt16.ofNat j.val))
  some ([printed 0x2101 longitude, printed 0x2102 latitude] ++ months)

/-! ## A printed month -/

theorem int4BitToString_plain {num : ℕ} (h : num < 26000) : ∀ x ∈ int4BitToString num, x ≠ 0x2C ∧ x ≠ 0 := by
  have hchar : ∀ d < 26, UInt8.ofNat (d + 0x30) ≠ 0x2C ∧ UInt8.ofNat (d + 0x30) ≠ 0 := by decide
  intro x hx
  simp only [int4BitToString, List.mem_cons, List.not_mem_nil, or_false] at hx
  rcases hx with rfl | rfl | rfl | rfl
  · exact hchar _ (by omega)
  · exact hchar _ (by omega)
  · exact hchar _ (by omega)
  · exact hchar _ (by omega)

/-- two bytes as a number of up to five digits -/
theorem time_lt (hour minute : UInt8) : hour.toNat * 100 + minute.toNat < 26000 := by
  have hhour := hour.toNat_lt
  have hminute := minute.toNat_lt
  omega

theorem length_dayPieces (days : Fin 31 → SwitchTime) (k : Fin 31) :
    (dayPieces days k).flatten.length = 9 + if k.val < 30 then 1 else 0 := by
  unfold dayPieces
  split_ifs <;> simp [int4BitToString]

theorem dayPieces_plain (days : Fin 31 → SwitchTime) (k : Fin 31) : ∀ x ∈ (dayPieces days k).flatten, x ≠ 0 := by
  intro x hx
  obtain ⟨piece, hpiece, hx⟩ := List.mem_flatten.1 hx
  rcases List.mem_append.1 hpiece with hpiece | hpiece
  · simp only [List.mem_cons, List.not_mem_nil, or_false] at hpiece
    rcases hpiece with rfl | rfl | rfl
    · exact (int4BitToString_plain (time_lt _ _) x hx).2
    · rw [List.mem_singleton.1 hx]
      decide
    · exact (int4BitToString_plain (time_lt _ _) x hx).2
  · split_ifs at hpiece
    · rw [List.mem_singleton.1 hpiece] at hx
      rw [List.mem_singleton.1 hx]
      decide
    · cases hpiece

/-- the days of a month, one after another -/
theorem flatten_days (days : Fin 31 → SwitchTime) (ks : List (Fin 31)) :
    (ks.flatMap (dayPieces days)).flatten = ks.flatMap fun k => (dayPieces days k).flatten := by
  rw [List.flatMap_def, List.flatten_flatten, List.map_map, List.flatMap_def]
  rfl

theorem length_days (days : Fin 31 → SwitchTime) :
    ((List.finRange 31).flatMap (dayPieces days)).flatten.length = 309 := by
  have hlengths : (List.finRange 31).map (fun k => (dayPieces days k).flatten.length) =
      (List.finRange 31).map fun k => 9 + if k.val < 30 then 1 else 0 :=
    List.map_congr_left fun k _ => length_dayPieces days k
  rw [flatten_days, List.length_flatMap, hlengths]
  decide

/-- the text of a month: four digits, a comma, and 304 more bytes without a terminator -/
theorem monthText_eq (days : Fin 31 → SwitchTime) : ∃ first more, monthText days = some (first ++ 0x2C :: more) ∧
    first.length = 4 ∧ (∀ x ∈ first, x ≠ 0x2C) ∧ more.length = 304 ∧ ∀ x ∈ more, x ≠ 0 := by
  have hlen := length_days days
  -- the first number is apart from the others
  obtain ⟨more, hsplit⟩ : ∃ more, ((List.finRange 31).flatMap (dayPieces days)).flatten =
      int4BitToString ((days 0).on_hour.toNat * 100 + (days 0).on_minute.toNat) ++ 0x2C :: more := by
    rw [List.finRange_succ, List.flatMap_cons, List.flatten_append, dayPieces]
    exact ⟨_, rfl⟩
  refine ⟨int4BitToString ((days 0).on_hour.toNat * 100 + (days 0).on_minute.toNat), more, ?_, rfl,
    fun x hx => (int4BitToString_plain (time_lt _ _) x hx).1, ?_, fun x hx => ?_⟩
  · rw [monthText, strcats_eq (by decide), if_pos (by omega), hsplit]
  · have hfour : (int4BitToString ((days 0).on_hour.toNat * 100 + (days 0).on_minute.toNat)).length = 4 := rfl
    rw [hsplit, List.length_append, List.length_cons] at hlen
    omega
  · have hmem : x ∈ ((List.finRange 31).flatMap (dayPieces days)).flatten := by
      rw [hsplit]
      exact List.mem_append_right _ (List.mem_cons_of_mem _ hx)
    rw [flatten_days] at hmem
    obtain ⟨k, -, hx⟩ := List.mem_flatMap.1 hmem
    exact dayPieces_plain days k x hx

/-- **An answer comes out** for coordinates whose texts fit `buf`: the months leave it one byte, for the terminator. -/
theorem getLocation_isSome {F : Type} {sprintf : F → List UInt8} {config : LocationConfig F}
    (hlongitude : (sprintf config.longitude).length < 310) (hlatitude : (sprintf config.latitude).length < 310) :
    ∃ answer, getLocationConfiguration sprintf config = some answer := by
  have hone : ∀ text : List UInt8, text.length < 310 → strcats 310 [text] = some text := by
    intro text htext
    rw [strcats_eq (by decide), List.flatten_singleton, if_pos htext]
  obtain ⟨months, hmonths⟩ := @Batching.mapM_isSome (Fin 12) Parameter
    (fun j => (monthText (config.switch_time_month_table j)).map (printed (0x4103 + UInt16.ofNat j.val)))
    (List.finRange 12) (fun j _ => by
      obtain ⟨first, more, htext, -⟩ := monthText_eq (config.switch_time_month_table j)
      rw [htext]
      rfl)
  rw [getLocationConfiguration, hone _ hlongitude, hone _ hlatitude, hmonths]
  exact ⟨_, rfl⟩

/-! ## Reading it back -/

/-- **The first day of a printed month overflows `tmp`**, whatever follows the text. -/
theorem storeDay_monthText {days : Fin 31 → SwitchTime} {text : List UInt8} (h : monthText days = some text)
    (month : ℕ) (rest : List UInt8) (table : SwitchTable) (k : ℕ) : storeDay month (text ++ 0 :: rest) table k = none := by
  obtain ⟨first, more, htext, hfour, hcomma, hmore, hplain⟩ := monthText_eq days
  have hvalue : text ++ 0 :: rest = first ++ 0x2C :: (more ++ 0 :: rest) := by
    rw [h] at htext
    rw [Option.some.inj htext, List.append_assoc, List.cons_append]
  have hfirst : TextScan.scan tmpSize (· = 0x2C) (text ++ 0 :: rest) = some (first, 0x2C :: (more ++ 0 :: rest)) := by
    rw [hvalue]
    exact TextScan.scan_text (by decide) (fun x hx => decide_eq_false (hcomma x hx)) (by rw [hfour]; decide)
  have hsecond : TextScan.scan tmpSize (· = 0) (more ++ 0 :: rest) = none :=
    TextScan.scan_long (fun x hx => decide_eq_false (hplain x hx)) (by rw [hmore]; decide)
  rw [storeDay]
  simp only [hfirst, List.drop_succ_cons, List.drop_zero, hsecond, Option.bind_eq_bind, Option.bind_some,
    Option.bind_none, Option.bind_fun_none]

section RoundTrip

variable {F : Type} (atof : List UInt8 → F)

/-- a month of the answer as a parameter of a message; anything may follow it in memory -/
def resent (rest : Parameter → List UInt8) (p : Parameter) : Parameter :=
  { p with type := p.type - 0x0100, value := p.value ++ rest p }

/-- a message with the months of an answer, in any order -/
structure Resent (answer : List Parameter) (s : ServerFrameStruct) : Prop where
  months : ∃ ps rest, List.Perm ps ((answer.drop 2).map (resent rest)) ∧ s.para = ps.map some

/-- the months of an answer -/
theorem months_of_answer {sprintf : F → List UInt8} {config : LocationConfig F} {answer : List Parameter}
    (h : getLocationConfiguration sprintf config = some answer) :
    List.Forall₂ (fun (j : Fin 12) p => ∃ text, monthText (config.switch_time_month_table j) = some text ∧
      p = printed (0x4103 + UInt16.ofNat j.val) text) (List.finRange 12) (answer.drop 2) := by
  simp only [getLocationConfiguration, Option.bind_eq_bind, Option.bind_eq_some_iff, Option.some.injEq] at h
  obtain ⟨longitude, -, latitude, -, months, hmonths, rfl⟩ := h
  refine (Batching.forall₂_of_mapM hmonths).imp fun j p hp => ?_
  obtain ⟨text, htext, rfl⟩ := Option.map_eq_some_iff.1 hp
  exact ⟨text, htext, rfl⟩

/-- no month that was printed can be read -/
theorem setParameter_month (s : ServerFrameStruct) (config : LocationConfig F) {days : Fin 31 → SwitchTime}
    {text : List UInt8} (h : monthText days = some text) (rest : Parameter → List UInt8) (j : Fin 12) :
    setParameter atof s config (resent rest (printed (0x4103 + UInt16.ofNat j.val) text)) = none := by
  have htypes : ∀ j : Fin 12, ¬ (0x4103 + UInt16.ofNat j.val - 0x0100 : UInt16) = 0x2001 ∧
      ¬ (0x4103 + UInt16.ofNat j.val - 0x0100 : UInt16) = 0x2002 := by decide
  set p := resent rest (printed (0x4103 + UInt16.ofNat j.val) text) with hp
  have hvalue : p.value = text ++ 0 :: rest (printed (0x4103 + UInt16.ofNat j.val) text) := by
    rw [hp]
    exact List.append_assoc text [0] _
  have hlongitude : ¬ p.type = 0x2001 := (htypes j).1
  have hlatitude : ¬ p.type = 0x2002 := (htypes j).2
  rw [setParameter, if_neg hlongitude, if_neg hlatitude, hvalue, List.range_succ_eq_map, List.foldlM_cons,
    storeDay_monthText h]
  rfl

/-- the first round overflows `tmp` -/
theorem setLocation_overflows {sprintf : F → List UInt8} {config : LocationConfig F} {answer : List Parameter}
    (hanswer : getLocationConfiguration sprintf config = some answer) {s : ServerFrameStruct} (hs : Resent answer s)
    {null_para_num : ℕ} (hpos : 0 < null_para_num) (config₀ : LocationConfig F) :
    setLocationConfiguration atof null_para_num config₀ s = none := by
  obtain ⟨ps, rest, hperm, hpara⟩ := hs.months
  have hmonths := months_of_answer hanswer
  have hlen : ps.length = 12 := by
    rw [hperm.length_eq, List.length_map, ← hmonths.length_eq, List.length_finRange]
  obtain ⟨p, ps, rfl⟩ := List.exists_cons_of_length_pos (by omega : 0 < ps.length)
  obtain ⟨q, hq, rfl⟩ := List.mem_map.1 (hperm.subset List.mem_cons_self)
  obtain ⟨i, hi, rfl⟩ := List.getElem_of_mem hq
  obtain ⟨text, htext, hprinted⟩ := hmonths.get (by rwa [hmonths.length_eq]) hi
  have hfirst : s.paraAt 0 = some (resent rest (answer.drop 2)[i]) := by
    rw [ServerFrameStruct.paraAt, hpara]
    rfl
  rw [setLocationConfiguration, forU8, CLoop.forLoop, if_pos hpos, hfirst, Option.bind_some]
  change (setParameter atof s config₀ (resent rest ((answer.drop 2).get ⟨i, hi⟩))).bind _ = none
  rw [hprinted, setParameter_month atof s config₀ htext rest]
  rfl

/-- **The table.** After handling the months of an answer the table is the one they are of only if the loop made no
round, and the table was the same before. -/
theorem location_stored_iff {sprintf : F → List UInt8} {config : LocationConfig F} {answer : List Parameter}
    (hanswer : getLocationConfiguration sprintf config = some answer) {s : ServerFrameStruct} (hs : Resent answer s)
    (null_para_num : ℕ) (config₀ : LocationConfig F) :
    (∃ config', setLocationConfiguration atof null_para_num config₀ s = some config' ∧
        config'.switch_time_month_table = config.switch_time_month_table) ↔
      null_para_num = 0 ∧ config₀.switch_time_month_table = config.switch_time_month_table := by
  rcases Nat.eq_zero_or_pos null_para_num with rfl | hpos
  · have hnone : setLocationConfiguration atof 0 config₀ s = some config₀ := by
      rw [setLocationConfiguration, forU8, CLoop.forLoop_done 8 _ 255 config₀ le_rfl]
    rw [hnone]
    constructor
    · rintro ⟨config', hsome, htable⟩
      rw [Option.some.inj hsome]
      exact ⟨rfl, htable⟩
    · rintro ⟨-, htable⟩
      exact ⟨config₀, rfl, htable⟩
  · rw [setLocation_overflows atof hanswer hs hpos config₀]
    constructor
    · rintro ⟨config', hsome, -⟩
      cases hsome
    · rintro ⟨hzero, -⟩
      exact absurd hzero (by omega)

end RoundTrip

/-! ## The default table -/

/-- a coordinate in millionths, printed with six of its digits after the point -/
def printMillionths (n : ℕ) : List UInt8 := digits (n / 10 ^ 6) ++ 0x2E :: sixDigits (n % 10 ^ 6)

/-- the lights on at 18:00 and off at 6:00 the whole year -/
def evenConfig : LocationConfig ℕ := ⟨116397128, 39916527, fun _ _ => ⟨18, 0, 6, 0⟩⟩

def evenAnswer : List Parameter := (getLocationConfiguration printMillionths evenConfig).getD []

/-- the months of the answer in their order -/
def evenMessage : ServerFrameStruct :=
  { ServerFrameStruct.zero with para_num := 12, para := ((evenAnswer.drop 2).map (resent fun _ => [])).map some }

theorem evenAnswer_eq : getLocationConfiguration printMillionths evenConfig = some evenAnswer := by
  obtain ⟨answer, hanswer⟩ := @getLocation_isSome ℕ printMillionths evenConfig (by decide +kernel) (by decide +kernel)
  rw [evenAnswer, hanswer]
  rfl

theorem evenMessage_resent : Resent evenAnswer evenMessage := by
  have hpara : evenMessage.para = ((evenAnswer.drop 2).map (resent fun _ => [])).map some := by rw [evenMessage]
  exact ⟨⟨_, _, List.Perm.refl _, hpara⟩⟩

/-- a loop without a round keeps the table that was sent -/
theorem location_stored_even :
    (∃ config', setLocationConfiguration (fun _ => 0) 0 evenConfig evenMessage = some config' ∧
        config'.switch_time_month_table = evenConfig.switch_time_month_table) ↔
      0 = 0 ∧ evenConfig.switch_time_month_table = evenConfig.switch_time_month_table :=
  location_stored_iff (fun _ => 0) evenAnswer_eq evenMessage_resent 0 evenConfig

/-- with twelve rounds the first month overflows `tmp` -/
theorem location_unread : Resent evenAnswer evenMessage ∧
    ¬ ∃ config', setLocationConfiguration (fun _ => 0) 12 evenConfig evenMessage = some config' ∧
      config'.switch_time_month_table = evenConfig.switch_time_month_table := by
  refine ⟨evenMessage_resent, ?_⟩
  rw [setLocation_overflows (fun _ => 0) evenAnswer_eq evenMessage_resent (by decide) evenConfig]
  rintro ⟨config', hsome, -⟩
  cases hsome

end DataConcentrator.Concentrator
