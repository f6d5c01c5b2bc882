/-
The clock set by the server: `SynchronizeTime`, `RX8010S_Set_Time` and `RX8010S_Get_Time` over the wires.

The answer shows `calendar` as it was last read, not the time that was set.
- `setTime_wires`, `getTime_wires`: what the two calls do over the wires is what they do with the registers;
- `fieldOf_decimalText`, `text_calendarAt`: the text of a second, read and printed;
- `stamp_reads_back`: the text the server sent is what the clock shows, whatever else is done with the chip in between.
-/
import DataConcentrator.Clock.Iic
import DataConcentrator.Clock.Rx8010s
import DataConcentrator.Common.Reader
import DataConcentrator.Lamp.Query
import DataConcentrator.Protocol.RoundTrip

namespace DataConcentrator.Clock

open Gregorian I2c Protocol

/-! ## The registers on the bus -/

def RX8010_REG_SEC : UInt8 := 0x10
def RX8010_REG_MIN : UInt8 := 0x11
def RX8010_REG_HOUR : UInt8 := 0x12
def RX8010_REG_WEEK : UInt8 := 0x13
def RX8010_REG_DAY : UInt8 := 0x14
def RX8010_REG_MONTH : UInt8 := 0x15
def RX8010_REG_YEAR : UInt8 := 0x16
def RX8010_REG_EXT : UInt8 := 0x1D
def RX8010_REG_FLAG : UInt8 := 0x1E
def RX8010_REG_CTRL : UInt8 := 0x1F

/-- the time registers, in the order of `RX8010S_Get_Time` -/
def timeRegisters : List UInt8 :=
  [RX8010_REG_YEAR, RX8010_REG_MONTH, RX8010_REG_DAY, RX8010_REG_HOUR, RX8010_REG_MIN, RX8010_REG_SEC, RX8010_REG_WEEK]

/-- the writes of `RX8010S_Set_Time` -/
def setAccesses (r : Regs) : List Access :=
  [.write RX8010_REG_YEAR r.year, .write RX8010_REG_MONTH r.month, .write RX8010_REG_DAY r.day,
    .write RX8010_REG_HOUR r.hour, .write RX8010_REG_MIN r.min, .write RX8010_REG_SEC r.sec,
    .write RX8010_REG_WEEK r.week]

/-- `RX8010S_Set_Time` -/
def rx8010sSetTime (flash : ℤ → UInt8) (syear smonth sday shour smin ssecond : UInt8) (s : Iic) : Iic :=
  (runWires (setAccesses (setTime flash syear smonth sday shour smin ssecond)) s).2

/-- the seven bytes of `RX8010S_Get_Time` -/
def regsOf : List UInt8 → Option Regs
  | [year, month, day, hour, min, sec, week] => some ⟨year, month, day, hour, min, sec, week⟩
  | _ => none

/-- `RX8010S_Get_Time` -/
def rx8010sGetTime (fuel : ℕ) (s : Iic) : Option (CalendarObj × Iic) :=
  let r := runWires (timeRegisters.map .read) s
  ((regsOf r.1).bind (getTime fuel)).map fun calendar => (calendar, r.2)

/-- the accesses of `RX8010S_Init` before it reads the time -/
def initAccesses : List Access :=
  [.read 0x20, .write 0x17 0x58, .write 0x30 0x0, .write 0x31 0x18, .write 0x32 0x0, .write RX8010_REG_EXT 0x04,
    .write RX8010_REG_EXT 0, .write RX8010_REG_CTRL 0x02, .write RX8010_REG_FLAG 0x0, .write RX8010_REG_CTRL 0x0]

/-! ## The command -/

/-- a number of up to four digits, out of `char buf[5]` -/
def fieldOf (value : List UInt8) (i n : ℕ) : ℤ := myatoi ((value.drop i).take n ++ List.replicate (5 - n) 0)

/-- two digits of a number -/
def twoDigits (n : ℕ) : List UInt8 := [UInt8.ofNat (n / 10 % 10 + 0x30), UInt8.ofNat (n % 10 + 0x30)]

/-- what `TimeToString` writes -/
def timeToString (year : UInt16) (month date hour minute second : UInt8) : List UInt8 :=
  [UInt8.ofNat (year.toNat / 1000 + 0x30), UInt8.ofNat (year.toNat / 100 % 10 + 0x30)] ++ twoDigits year.toNat ++
    twoDigits month.toNat ++ twoDigits date.toNat ++ twoDigits hour.toNat ++ twoDigits minute.toNat ++
    twoDigits second.toNat

/-- the text of a calendar -/
def CalendarObj.text (c : CalendarObj) : List UInt8 := timeToString c.w_year c.w_month c.w_date c.hour c.min c.sec

/-- `TimeToString` on a buffer; `none` is a write behind it -/
def putTime (c : CalendarObj) (p : Parameter) : Option Parameter :=
  if 14 ≤ p.value.length then some ⟨0xA101, p.len, c.text ++ p.value.drop 14⟩ else none

/-- `SynchronizeTime`, to the structure that is sent and the bus; `calendar` is what was read of the clock last -/
def synchronizeTime (flash : ℤ → UInt8) (calendar : CalendarObj) (s : ServerFrameStruct) (bus : Iic) :
    Option (ServerFrameStruct × Iic) := do
  let p ← s.paraAt 0
  -- the fields are copied out of the first 14 bytes
  let value ← if 14 ≤ p.value.length then some p.value else none
  let w_year := UInt16.ofNat (toUnsigned 16 (fieldOf value 0 4))
  let w_month := UInt8.ofNat (toUnsigned 8 (fieldOf value 4 2))
  let w_date := UInt8.ofNat (toUnsigned 8 (fieldOf value 6 2))
  let hour := UInt8.ofNat (toUnsigned 8 (fieldOf value 8 2))
  let min := UInt8.ofNat (toUnsigned 8 (fieldOf value 10 2))
  let sec := UInt8.ofNat (toUnsigned 8 (fieldOf value 12 2))
  let bus := rx8010sSetTime flash (w_year - 2000).toUInt8 w_month w_date hour min sec bus
  let resp ← copyServerFrameStruct s 1
  let first ← resp.paraAt 0
  let first ← putTime calendar first
  return ({ resp with msg_type := Lamp.DEVICE_RESPONSE_UP, err_code := Lamp.NO_ERR, para := resp.para.set 0 (some first) },
    bus)

/-! ## Registers -/

/-- no access writes the register -/
def Spares (xs : List Access) (a : UInt8) : Prop := ∀ data, Access.write a data ∉ xs

theorem runRegisters_spares (xs : List Access) {a : UInt8} (h : Spares xs a) : ∀ regs, (runRegisters xs regs).2 a = regs a := by
  induction xs with
  | nil => exact fun _ => rfl
  | cons x xs ih =>
    have hxs : Spares xs a := fun data hmem => h data (List.mem_cons_of_mem x hmem)
    intro regs
    cases x with
    | read b => exact ih hxs regs
    | write b data =>
      have hne : a ≠ b := fun hab => h data (by rw [hab]; exact List.mem_cons_self)
      show (runRegisters xs (Function.update regs b data)).2 a = _
      rw [ih hxs, Function.update_of_ne hne]

theorem runRegisters_read (as : List UInt8) (regs : UInt8 → UInt8) :
    runRegisters (as.map .read) regs = (as.map regs, regs) := by
  induction as with
  | nil => rfl
  | cons a as ih => rw [List.map_cons, runRegisters, ih, List.map_cons]

theorem init_spares : ∀ a ∈ timeRegisters, Spares initAccesses a := by
  intro a ha data hmem
  simp only [timeRegisters, List.mem_cons, List.not_mem_nil, or_false] at ha
  simp only [initAccesses, List.mem_cons, List.not_mem_nil, or_false, Access.write.injEq, reduceCtorEq, false_or] at hmem
  rcases ha with rfl | rfl | rfl | rfl | rfl | rfl | rfl <;> revert hmem <;> simp [RX8010_REG_YEAR, RX8010_REG_MONTH,
    RX8010_REG_DAY, RX8010_REG_HOUR, RX8010_REG_MIN, RX8010_REG_SEC, RX8010_REG_WEEK, RX8010_REG_EXT, RX8010_REG_CTRL,
    RX8010_REG_FLAG]

/-- the registers hold these bytes -/
def Holds (regs : UInt8 → UInt8) (r : Regs) : Prop := regsOf (timeRegisters.map regs) = some r

theorem holds_set (r : Regs) (regs : UInt8 → UInt8) : Holds (runRegisters (setAccesses r) regs).2 r := by
  rfl

theorem holds_spares {xs : List Access} (h : ∀ a ∈ timeRegisters, Spares xs a) {regs : UInt8 → UInt8} {r : Regs}
    (hr : Holds regs r) : Holds (runRegisters xs regs).2 r := by
  rw [Holds, List.map_congr_left fun a ha => runRegisters_spares xs (h a ha) regs]
  exact hr

theorem set_spares (r : Regs) {a : UInt8} (ha : a ∉ timeRegisters) : Spares (setAccesses r) a := by
  intro data hmem
  simp only [setAccesses, List.mem_cons, List.not_mem_nil, or_false, Access.write.injEq] at hmem
  apply ha
  rcases hmem with ⟨rfl, -⟩ | ⟨rfl, -⟩ | ⟨rfl, -⟩ | ⟨rfl, -⟩ | ⟨rfl, -⟩ | ⟨rfl, -⟩ | ⟨rfl, -⟩ <;> simp [timeRegisters]

/-- **`RX8010S_Set_Time` over the wires** leaves the chip ready, with the registers set and the others as they were. -/
theorem setTime_wires (flash : ℤ → UInt8) (syear smonth sday shour smin ssecond : UInt8) {c : Chip} (hc : Ready c) :
    ∃ c', Ready c' ∧ rx8010sSetTime flash syear smonth sday shour smin ssecond (atRest c) = atRest c' ∧
      Holds c'.mem (setTime flash syear smonth sday shour smin ssecond) ∧ ∀ a ∉ timeRegisters, c'.mem a = c.mem a := by
  set r := setTime flash syear smonth sday shour smin ssecond with hr
  obtain ⟨c', hc', hrun, hmem, -⟩ := accesses_refine (setAccesses r) c hc
  refine ⟨c', hc', ?_, ?_, fun a ha => ?_⟩
  · rw [rx8010sSetTime, ← hr, hrun]
  · rw [hmem]
    exact holds_set r c.mem
  · rw [hmem]
    exact runRegisters_spares _ (set_spares r ha) c.mem

/-- **`RX8010S_Get_Time` over the wires** reads the registers. -/
theorem getTime_wires (fuel : ℕ) {c : Chip} (hc : Ready c) {r : Regs} (hr : Holds c.mem r) :
    ∃ c', Ready c' ∧ rx8010sGetTime fuel (atRest c) = (getTime fuel r).map fun calendar => (calendar, atRest c') := by
  obtain ⟨c', hc', hrun, -, -⟩ := accesses_refine (timeRegisters.map .read) c hc
  rw [runRegisters_read] at hrun
  refine ⟨c', hc', ?_⟩
  rw [rx8010sGetTime, hrun]
  show ((regsOf (timeRegisters.map c.mem)).bind (getTime fuel)).map _ = _
  rw [show regsOf (timeRegisters.map c.mem) = some r from hr]
  rfl

/-! ## Texts -/

/-- `n` digits of a number -/
def decimalText : ℕ → ℕ → List UInt8
  | 0, _ => []
  | n + 1, v => decimalText n (v / 10) ++ [UInt8.ofNat (v % 10 + 0x30)]

/-- a second of a day as the server writes it: `YYYYMMDDhhmmss` -/
def stamp (d : Date) (second : ℕ) : List UInt8 :=
  decimalText 4 d.year ++ decimalText 2 d.month ++ decimalText 2 d.day ++ decimalText 2 (second / 3600) ++
    decimalText 2 (second / 60 % 60) ++ decimalText 2 (second % 60)

theorem length_decimalText (n : ℕ) : ∀ v, (decimalText n v).length = n := by
  induction n with
  | zero => exact fun _ => rfl
  | succ n ih =>
    intro v
    rw [decimalText, List.length_append, ih, List.length_singleton]

theorem digit_byte : ∀ n < 10, (UInt8.ofNat (n + 0x30)).toNat = n + 48 ∧ myisdigit (UInt8.ofNat (n + 0x30)) = true := by
  decide

theorem mem_decimalText (n : ℕ) : ∀ v, ∀ x ∈ decimalText n v, myisdigit x = true := by
  induction n with
  | zero => exact fun _ x hx => absurd hx List.not_mem_nil
  | succ n ih =>
    intro v x hx
    rcases List.mem_append.1 hx with hx | hx
    · exact ih _ x hx
    · rw [List.mem_singleton.1 hx]
      exact (digit_byte (v % 10) (Nat.mod_lt _ (by omega))).2

theorem digitValue_decimalText (n : ℕ) : ∀ v, v < 10 ^ n → digitValue (decimalText n v) = v := by
  induction n with
  | zero =>
    intro v hv
    rw [show v = 0 by omega]
    rfl
  | succ n ih =>
    intro v hv
    have hdiv : v / 10 < 10 ^ n := Nat.div_lt_of_lt_mul (by rw [pow_succ] at hv; omega)
    have hval := ih (v / 10) hdiv
    have hlast := (digit_byte (v % 10) (Nat.mod_lt _ (by omega))).1
    rw [digitValue] at hval ⊢
    rw [decimalText, List.foldl_append, hval, List.foldl_cons, List.foldl_nil, hlast]
    omega

/-- **A field of the text is read.** -/
theorem fieldOf_decimalText {n v : ℕ} (hn : 0 < n) (h4 : n ≤ 4) (hv : v < 10 ^ n) {value pre post : List UInt8}
    (h : value = pre ++ (decimalText n v ++ post)) : fieldOf value pre.length n = v := by
  have htake : (value.drop pre.length).take n = decimalText n v := by
    rw [h, List.drop_left, List.take_append_of_le_length (by rw [length_decimalText]), List.take_of_length_le
      (by rw [length_decimalText])]
  have hne : decimalText n v ≠ [] := by
    rw [← List.length_pos_iff, length_decimalText]
    exact hn
  have hzero : ∀ b ∈ (List.replicate (5 - n) (0 : UInt8)).head?, myisdigit b = false := by
    intro b hb
    rw [show 5 - n = (4 - n) + 1 by omega, List.replicate_succ] at hb
    rw [← Option.some.inj hb]
    rfl
  rw [fieldOf, htake, myatoi_upTo hne (mem_decimalText n v) hzero, digitValue_decimalText n v hv]

theorem twoDigits_eq (v : ℕ) (h : v < 100) : twoDigits v = decimalText 2 v := by
  have hlow : v / 10 % 10 = v / 10 := Nat.mod_eq_of_lt (by omega)
  simp [twoDigits, decimalText, hlow]

/-- a calendar prints the second it shows -/
theorem text_calendarAt {d : Date} (hd : d.Valid) (h2099 : d.year ≤ 2099) {second : ℕ} (hs : second < 86400) :
    (calendarAt d second).text = stamp d second := by
  have h31 : d.day ≤ 31 := by
    have hle := hd.day_le
    rw [monthLength] at hle
    split_ifs at hle <;> omega
  have h12 := hd.month_le
  have hbyte : ∀ n < 100, (UInt8.ofNat n).toNat = n := by
    intro n hn
    simp
    omega
  have hyear : (UInt16.ofNat d.year).toNat = d.year := by
    simp
    omega
  have hhead : [UInt8.ofNat (d.year / 1000 + 0x30), UInt8.ofNat (d.year / 100 % 10 + 0x30)] ++ twoDigits d.year =
      decimalText 4 d.year := by
    have h1 : d.year / 10 / 10 / 10 % 10 = d.year / 1000 := by omega
    have h2 : d.year / 10 / 10 % 10 = d.year / 100 % 10 := by omega
    simp [twoDigits, decimalText, h1, h2]
  rw [CalendarObj.text, calendarAt, timeToString, hyear, hhead, hbyte d.month (by omega), hbyte d.day (by omega),
    hbyte (second / 3600) (by omega), hbyte (second / 60 % 60) (by omega), hbyte (second % 60) (by omega),
    twoDigits_eq d.month (by omega), twoDigits_eq d.day (by omega), twoDigits_eq (second / 3600) (by omega),
    twoDigits_eq (second / 60 % 60) (by omega), twoDigits_eq (second % 60) (by omega), stamp]

/-! ## Main result -/

/-- what the six fields of the text make of the registers -/
theorem setTime_fields (flash : ℤ → UInt8) {d : Date} (hd : d.Valid) (h2000 : 2000 ≤ d.year) (h2099 : d.year ≤ 2099)
    {second : ℕ} (hs : second < 86400) {value rest : List UInt8} (h : value = stamp d second ++ rest) {fuel : ℕ}
    (hfuel : 7 ≤ fuel) :
    getTime fuel (setTime flash (UInt16.ofNat (toUnsigned 16 (fieldOf value 0 4)) - 2000).toUInt8
      (UInt8.ofNat (toUnsigned 8 (fieldOf value 4 2))) (UInt8.ofNat (toUnsigned 8 (fieldOf value 6 2)))
      (UInt8.ofNat (toUnsigned 8 (fieldOf value 8 2))) (UInt8.ofNat (toUnsigned 8 (fieldOf value 10 2)))
      (UInt8.ofNat (toUnsigned 8 (fieldOf value 12 2)))) = some (calendarAt d second) := by
  have h31 : d.day ≤ 31 := by
    have hle := hd.day_le
    rw [monthLength] at hle
    split_ifs at hle <;> omega
  have h12 := hd.month_le
  have hlen := length_decimalText
  have hfield : ∀ {n v : ℕ} {pre post : List UInt8}, 0 < n → n ≤ 4 → v < 10 ^ n →
      value = pre ++ (decimalText n v ++ post) → fieldOf value pre.length n = v :=
    fun hn h4 hv => fieldOf_decimalText hn h4 hv
  have hyear := @hfield 4 d.year [] _ (by omega) le_rfl (by omega) (by rw [h, stamp]; simp only [List.append_assoc]; rfl)
  have hmonth := @hfield 2 d.month (decimalText 4 d.year) _ (by omega) (by omega) (by omega)
    (by rw [h, stamp]; simp only [List.append_assoc]; rfl)
  have hday := @hfield 2 d.day (decimalText 4 d.year ++ decimalText 2 d.month) _ (by omega) (by omega) (by omega)
    (by rw [h, stamp]; simp only [List.append_assoc]; rfl)
  have hhour := @hfield 2 (second / 3600) (decimalText 4 d.year ++ decimalText 2 d.month ++ decimalText 2 d.day) _
    (by omega) (by omega) (by omega) (by rw [h, stamp]; simp only [List.append_assoc]; rfl)
  have hmin := @hfield 2 (second / 60 % 60) (decimalText 4 d.year ++ decimalText 2 d.month ++ decimalText 2 d.day ++
    decimalText 2 (second / 3600)) _ (by omega) (by omega) (by omega) (by rw [h, stamp]; simp only [List.append_assoc]; rfl)
  have hsec := @hfield 2 (second % 60) (decimalText 4 d.year ++ decimalText 2 d.month ++ decimalText 2 d.day ++
    decimalText 2 (second / 3600) ++ decimalText 2 (second / 60 % 60)) _ (by omega) (by omega) (by omega)
    (by rw [h, stamp]; simp only [List.append_assoc]; rfl)
  simp only [List.length_append, hlen, List.length_nil, Nat.reduceAdd] at hyear hmonth hday hhour hmin hsec
  have hword : ∀ n : ℕ, n < 65536 → toUnsigned 16 (n : ℤ) = n := by
    intro n hn
    unfold toUnsigned
    omega
  have hbyte : ∀ n : ℕ, n < 256 → toUnsigned 8 (n : ℤ) = n := by
    intro n hn
    unfold toUnsigned
    omega
  have hshort : (UInt16.ofNat d.year - 2000).toUInt8 = UInt8.ofNat d.year - UInt8.ofNat 2000 := by
    rw [← UInt8.toNat_inj, UInt16.toNat_toUInt8, UInt16.toNat_sub, UInt8.toNat_sub]
    simp
    omega
  rw [hyear, hmonth, hday, hhour, hmin, hsec, hword d.year (by omega), hbyte d.month (by omega), hbyte d.day (by omega),
    hbyte (second / 3600) (by omega), hbyte (second / 60 % 60) (by omega), hbyte (second % 60) (by omega), hshort,
    ← show second % 3600 / 60 = second / 60 % 60 by omega, ← show second % 3600 % 60 = second % 60 by omega]
  exact getTime_setTime flash hd h2000 h2099 hs hfuel

/-- **The clock set by the server.** After `SynchronizeTime` with the text of a second, and any accesses that leave the
time registers alone, a start-up among them, `RX8010S_Get_Time` reads that second and prints that text. The other
registers stay, and the answer carries the time that was read before. -/
theorem stamp_reads_back (flash : ℤ → UInt8) {c : Chip} (hc : Ready c) {d : Date} (hd : d.Valid) (h2000 : 2000 ≤ d.year)
    (h2099 : d.year ≤ 2099) {second : ℕ} (hs : second < 86400) {s : ServerFrameStruct} {p : Parameter}
    {ps : List Parameter} (hsend : Buildable s (p :: ps)) (hlen : p.len = 14) (htext : p.value.take 14 = stamp d second)
    (calendar : CalendarObj) :
    ∃ resp c', synchronizeTime flash calendar s (atRest c) = some (resp, atRest c') ∧ Ready c' ∧
      (∀ a ∉ timeRegisters, c'.mem a = c.mem a) ∧
      resp.para.head? = some (some ⟨0xA101, 14, calendar.text ++ [0]⟩) ∧
      ∀ xs, (∀ a ∈ timeRegisters, Spares xs a) → ∀ fuel ≥ 7, ∃ c'' now,
        rx8010sGetTime fuel (runWires xs (atRest c')).2 = some (now, atRest c'') ∧
          now = calendarAt d second ∧ now.text = stamp d second := by
  obtain ⟨hfits, text, tail, hvalue, h0, htail⟩ := hsend.text p List.mem_cons_self
  rw [hlen] at htail
  have hvalue14 : 14 ≤ p.value.length := by
    rw [hvalue, List.length_append, htail]
    exact Nat.le_add_right _ _
  have hsplit : p.value = stamp d second ++ p.value.drop 14 := by rw [← htext, List.take_append_drop]
  obtain ⟨c', hc', hset, hholds, hothers⟩ := setTime_wires flash
    (UInt16.ofNat (toUnsigned 16 (fieldOf p.value 0 4)) - 2000).toUInt8
    (UInt8.ofNat (toUnsigned 8 (fieldOf p.value 4 2))) (UInt8.ofNat (toUnsigned 8 (fieldOf p.value 6 2)))
    (UInt8.ofNat (toUnsigned 8 (fieldOf p.value 8 2))) (UInt8.ofNat (toUnsigned 8 (fieldOf p.value 10 2)))
    (UInt8.ofNat (toUnsigned 8 (fieldOf p.value 12 2))) hc
  have hpara : s.paraAt 0 = some p := by
    rw [ServerFrameStruct.paraAt, hsend.para]
    rfl
  have hreceived : p.received = ⟨p.type, 14, text ++ [0]⟩ := by
    rw [Parameter.received, hlen, hvalue]
    simp [List.take_append, htail]
  have hput : putTime calendar p.received = some ⟨0xA101, 14, calendar.text ++ [0]⟩ := by
    have hdrop : (text ++ [0]).drop 14 = [0] := by rw [← htail, List.drop_left]
    rw [putTime, hreceived, if_pos (by simp [htail])]
    rw [hdrop]
  refine ⟨{ s with
      msg_type := Lamp.DEVICE_RESPONSE_UP
      err_code := Lamp.NO_ERR
      para := some ⟨0xA101, 14, calendar.text ++ [0]⟩ :: ps.map fun q => some q.received }, c', ?_, hc', hothers, rfl, ?_⟩
  · have hcopied : ({ s with para := (p :: ps).map fun q => some q.received } : ServerFrameStruct).paraAt 0 =
        some p.received := rfl
    simp only [synchronizeTime, hpara, Option.bind_eq_bind, Option.bind_some, if_pos hvalue14, hset,
      copy_buildable hsend, hcopied, hput, Option.pure_def]
    rfl
  · intro xs hxs fuel hfuel
    obtain ⟨c₁, hc₁, hrun, hmem, -⟩ := accesses_refine xs c' hc'
    have hkept := holds_spares hxs hholds
    rw [← hmem] at hkept
    obtain ⟨c'', -, hget⟩ := getTime_wires fuel hc₁ hkept
    refine ⟨c'', calendarAt d second, ?_, rfl, text_calendarAt hd h2099 hs⟩
    rw [hrun, hget, setTime_fields flash hd h2000 h2099 hs hsplit hfuel]
    rfl

/-- the last second of a leap day -/
def leapSecond : Parameter := ⟨0x1101, 14, stamp ⟨2024, 2, 29⟩ 86399 ++ [0]⟩

theorem leapSecond_buildable : Buildable (request [leapSecond]) [leapSecond] where
  para := rfl
  num := rfl
  few := by decide
  text := by
    intro p hp
    rw [List.mem_singleton.1 hp]
    exact ⟨by decide, stamp ⟨2024, 2, 29⟩ 86399, [], rfl, by decide, by decide⟩
  short := by decide

theorem leapSecond_reads_back : ∃ resp c' c'' now,
    synchronizeTime (fun _ => 0) (calendarAt ⟨2020, 1, 1⟩ 0) (request [leapSecond]) (atRest blank) = some (resp, atRest c') ∧
      rx8010sGetTime 7 (runWires initAccesses (atRest c')).2 = some (now, atRest c'') ∧
        now = calendarAt ⟨2024, 2, 29⟩ 86399 := by
  obtain ⟨resp, c', hset, -, -, -, hget⟩ := stamp_reads_back (fun _ => 0) blank_ready
    (show (⟨2024, 2, 29⟩ : Date).Valid by decide) (by decide) (by decide) (show 86399 < 86400 by decide)
    leapSecond_buildable rfl rfl (calendarAt ⟨2020, 1, 1⟩ 0)
  obtain ⟨c'', now, hread, hnow, -⟩ := hget initAccesses init_spares 7 le_rfl
  exact ⟨resp, c', c'', now, hset, hread, hnow⟩

end DataConcentrator.Clock
