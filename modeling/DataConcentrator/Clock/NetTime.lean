/-
The clock set by the modem: `SyncDataTimeFormEC20Module`, from the answer to `AT+CCLK?` to the calendar.

The modem says the time of Greenwich, and the clock shows that of Beijing. A `char` is unsigned, and `mktime` knows no
time zone. A text that does not fit `buf` has no result.
- `getStr1_quoted`: what stands between the first two quotation marks;
- `mktime_tmOf`: the seconds of the text of a second;
- `syncTimeFromNet_eq`: the registers that are set for a number of seconds;
- `net_time_iff`: the calendar reads eight hours after the second of the modem, up to the end of 2099.
-/
import DataConcentrator.Clock.Synchronize
import DataConcentrator.Modem.Connection

namespace DataConcentrator.Clock

open Gregorian I2c
open Modem (Device NetTime ascii quote)

/-! ## The text of the modem -/

/-- two digits of `buf` -/
def digitPair (buf : List UInt8) (i : ℕ) : ℤ := ((buf.getD i 0).toNat - 0x30) * 10 + (buf.getD (i + 1) 0).toNat - 0x30

/-- `struct tm`, up to the day of the week -/
structure Tm where
  tm_year : ℤ
  tm_mon : ℤ
  tm_mday : ℤ
  tm_hour : ℤ
  tm_min : ℤ
  tm_sec : ℤ

/-- `tm_time`; `buf` is zero behind the text -/
def tmOf (buf : List UInt8) : Tm where
  tm_year := 2000 + digitPair buf 0 - 1900
  tm_mon := digitPair buf 3 - 1
  tm_mday := digitPair buf 6
  tm_hour := digitPair buf 9
  tm_min := digitPair buf 12
  tm_sec := digitPair buf 15

/-- `mktime` of the C library, which takes a month out of its range for one of another year -/
def mktime (t : Tm) : UInt32 :=
  let year := (t.tm_year + 1900 + t.tm_mon / 12).toNat
  let month := (t.tm_mon % 12).toNat + 1
  let days : ℤ := daysBeforeYear year + daysBeforeMonth year month + t.tm_mday - epoch.ordinal
  UInt32.ofNat (toUnsigned 32 (((days * 24 + t.tm_hour) * 60 + t.tm_min) * 60 + t.tm_sec))

/-! ## The task -/

/-- `SyncTimeFromNet` over the wires -/
def syncTimeFromNetWires (flash : ℤ → UInt8) (fuel : ℕ) (sec_num : UInt32) (bus : Iic) : Option Iic :=
  (syncTimeFromNet flash fuel sec_num).map fun regs => (runWires (setAccesses regs) bus).2

/-- `SyncDataTimeFormEC20Module` and the clock -/
def syncDataTimeFormEc20Module {σ : Type} (m : Device σ) (flash : ℤ → UInt8) (fuel : ℕ) (sync_cycle now : UInt32)
    (t : NetTime) (s : σ) (bus : Iic) : Option (NetTime × σ × Iic) :=
  if sync_cycle ≤ now - t.time_c ∨ t.got_ok = false then
    let r := m.atSendCmd s "AT+CCLK?\r\n" "OK"
    match r.1 with
    | some data =>
      if (searchStr data (ascii "+CCLK:")).isSome then
        let buf := getStr1 data quote 1 quote 2
        if buf.length < 32 then
          (syncTimeFromNetWires flash fuel (mktime (tmOf buf) + 28800) bus).map (⟨true, now, some buf⟩, r.2, ·)
        else none
      else some ({ t with time_c := now }, r.2, bus)
    | none => some ({ t with time_c := now }, r.2, bus)
  else some (t, s, bus)

/-- the task of the connection, whose clock is left out, goes on alike -/
theorem connection_same {σ : Type} (m : Device σ) (flash : ℤ → UInt8) (fuel : ℕ) (sync_cycle now : UInt32)
    (t t' : NetTime) (s s' : σ) (bus bus' : Iic)
    (h : syncDataTimeFormEc20Module m flash fuel sync_cycle now t s bus = some (t', s', bus')) :
    Modem.syncDataTimeFormEc20Module m sync_cycle now t s = (t', s') := by
  rw [syncDataTimeFormEc20Module] at h
  rw [Modem.syncDataTimeFormEc20Module]
  split_ifs at h ⊢ with hdue
  · dsimp only at h ⊢
    cases hanswer : (m.atSendCmd s "AT+CCLK?\r\n" "OK").1 with
    | none =>
      rw [hanswer] at h
      obtain ⟨rfl, hrest⟩ := Prod.mk.inj (Option.some.inj h)
      exact Prod.ext rfl (Prod.mk.inj hrest).1
    | some data =>
      rw [hanswer] at h
      dsimp only at h ⊢
      split_ifs at h ⊢
      · obtain ⟨_, -, hall⟩ := Option.map_eq_some_iff.1 h
        obtain ⟨rfl, hrest⟩ := Prod.mk.inj hall
        exact Prod.ext rfl (Prod.mk.inj hrest).1
      · obtain ⟨rfl, hrest⟩ := Prod.mk.inj (Option.some.inj h)
        exact Prod.ext rfl (Prod.mk.inj hrest).1
  · obtain ⟨rfl, hrest⟩ := Prod.mk.inj (Option.some.inj h)
    exact Prod.ext rfl (Prod.mk.inj hrest).1

/-! ## Reading the text -/

theorem getStr1_quoted {pre text tail : List UInt8} (hpre : 0x22 ∉ pre) (htext : 0x22 ∉ text)
    (hlen : pre.length + 1 + text.length < 65536) :
    getStr1 (pre ++ 0x22 :: (text ++ 0x22 :: tail)) quote 1 quote 2 = text := by
  have hbyte : ∀ s : List UInt8, findStrAt [0x22] 1 (0x22 :: s) = (1, 0) := fun s => findStrAt_hit [0x22] s (by decide)
  have hfirst : findStrAt quote 1 (pre ++ 0x22 :: (text ++ 0x22 :: tail)) = (1, UInt16.ofNat pre.length) := by
    rw [quote, findStrAt_skip _ _ _ hpre, hbyte, later, UInt16.zero_add]
  have hsecond : findStrAt quote 2 (pre ++ 0x22 :: (text ++ 0x22 :: tail)) =
      (1, UInt16.ofNat (pre.length + 1 + text.length)) := by
    have hpass := findStrAt_pass 0x22 [] 0 List.not_mem_nil (text ++ 0x22 :: tail)
    rw [List.cons_append, List.nil_append, List.length_nil] at hpass
    rw [quote, findStrAt_skip _ _ _ hpre, hpass, findStrAt_skip _ _ _ htext, hbyte, later_later, later_later, later,
      UInt16.zero_add]
    congr 2
    omega
  have hstart : (UInt16.ofNat pre.length).toNat = pre.length := UInt16.toNat_ofNat_of_lt' (by simp [UInt16.size]; omega)
  have hend : (UInt16.ofNat (pre.length + 1 + text.length)).toNat = pre.length + 1 + text.length :=
    UInt16.toNat_ofNat_of_lt' (by simp [UInt16.size]; omega)
  rw [getStr1, hfirst, hsecond]
  simp only [hstart, hend, ne_eq, one_ne_zero, not_false_eq_true, and_self, if_true]
  have hdrop : (pre ++ 0x22 :: (text ++ 0x22 :: tail)).drop (pre.length + 1) = text ++ 0x22 :: tail := by
    rw [← List.drop_drop, List.drop_left]
    rfl
  rw [hdrop, show pre.length + 1 + text.length - pre.length - 1 = text.length by omega, List.take_left]

/-- a second as the modem says it: `yy/MM/dd,hh:mm:ss` -/
def clockText (d : Date) (second : ℕ) : List UInt8 :=
  decimalText 2 (d.year % 100) ++ 0x2F :: (decimalText 2 d.month ++ 0x2F :: (decimalText 2 d.day ++ 0x2C ::
    (decimalText 2 (second / 3600) ++ 0x3A :: (decimalText 2 (second / 60 % 60) ++ 0x3A ::
      decimalText 2 (second % 60)))))

theorem digitPair_first {v : ℕ} (hv : v < 100) (rest : List UInt8) : digitPair (decimalText 2 v ++ rest) 0 = v := by
  have hhigh := (digit_byte (v / 10 % 10) (Nat.mod_lt _ (by decide))).1
  have hlow := (digit_byte (v % 10) (Nat.mod_lt _ (by decide))).1
  change (((UInt8.ofNat (v / 10 % 10 + 0x30)).toNat : ℤ) - 0x30) * 10 + (UInt8.ofNat (v % 10 + 0x30)).toNat - 0x30 = v
  rw [hhigh, hlow]
  omega

/-- the pair after two digits and a separator -/
theorem digitPair_next (v : ℕ) (b : UInt8) (rest : List UInt8) (i : ℕ) :
    digitPair (decimalText 2 v ++ b :: rest) (i + 3) = digitPair rest i := rfl

/-- the text of a second, read -/
theorem tmOf_clockText {d : Date} (h2000 : 2000 ≤ d.year) (h2099 : d.year ≤ 2099) (hmonth : d.month ≤ 12)
    (hday : d.day ≤ 31) {second : ℕ} (hs : second < 86400) (zone : List UInt8) :
    tmOf (clockText d second ++ zone) =
      ⟨d.year - 1900, d.month - 1, d.day, (second / 3600 : ℕ), (second / 60 % 60 : ℕ), (second % 60 : ℕ)⟩ := by
  rw [tmOf, clockText]
  simp only [List.append_assoc, List.cons_append]
  simp only [digitPair_next _ _ _ 0, digitPair_next _ _ _ 3, digitPair_next _ _ _ 6, digitPair_next _ _ _ 9,
    digitPair_next _ _ _ 12]
  rw [digitPair_first (Nat.mod_lt _ (by decide)), digitPair_first (by omega), digitPair_first (by omega),
    digitPair_first (by omega), digitPair_first (by omega), digitPair_first (by omega)]
  congr 1
  omega

/-! ## Seconds -/

/-- the days since the first of 1970 -/
def daysSince (d : Date) : ℕ := d.ordinal - epoch.ordinal

theorem daysSince_bounds {d : Date} (hd : d.Valid) (h2000 : 2000 ≤ d.year) (h2099 : d.year ≤ 2099) :
    d.ordinal = epoch.ordinal + daysSince d ∧ daysSince d ≤ 47481 := by
  have hpos := hd.dayOfYear_pos
  have hle := hd.dayOfYear_le
  have hstart : daysBeforeYear 1970 ≤ daysBeforeYear d.year := daysBeforeYear_mono (by omega)
  have hend : daysBeforeYear (d.year + 1) ≤ daysBeforeYear 2100 := daysBeforeYear_mono (by omega)
  have hsucc := daysBeforeYear_succ d.year
  have h1970 := daysBeforeYear_eq 1970
  have h2100 := daysBeforeYear_eq 2100
  have hepoch : epoch.ordinal = daysBeforeYear 1970 + 1 := by
    simp only [Date.ordinal, Date.dayOfYear, epoch, daysBeforeMonth_one, Nat.zero_add]
  rw [daysSince, hepoch, Date.ordinal]
  omega

theorem seconds_total {days second : ℕ} (hdays : days ≤ 47481) (hs : second < 86400) :
    toUnsigned 32 ((((days : ℤ) * 24 + (second / 3600 : ℕ)) * 60 + (second / 60 % 60 : ℕ)) * 60 + (second % 60 : ℕ)) =
      days * 86400 + second := by
  have hsplit : (((days : ℤ) * 24 + (second / 3600 : ℕ)) * 60 + (second / 60 % 60 : ℕ)) * 60 + (second % 60 : ℕ) =
      (days * 86400 + second : ℕ) := by
    have hhour : second / 3600 = second / 60 / 60 := (Nat.div_div_eq_div_mul second 60 60).symm
    rw [hhour]
    omega
  have hfits : days * 86400 + second < 4294967296 := by omega
  rw [hsplit, toUnsigned]
  omega

/-- **The seconds of the text.** -/
theorem mktime_tmOf {d : Date} (hd : d.Valid) (h2000 : 2000 ≤ d.year) (h2099 : d.year ≤ 2099) {second : ℕ}
    (hs : second < 86400) (zone : List UInt8) :
    mktime (tmOf (clockText d second ++ zone)) = UInt32.ofNat (daysSince d * 86400 + second) := by
  have h31 : d.day ≤ 31 := by
    have hle := hd.day_le
    rw [monthLength] at hle
    split_ifs at hle <;> omega
  have h1 := hd.month_pos
  have h12 := hd.month_le
  obtain ⟨hdays, hmax⟩ := daysSince_bounds hd h2000 h2099
  have hyear : ((d.year : ℤ) - 1900 + 1900 + ((d.month : ℤ) - 1) / 12).toNat = d.year := by omega
  have hmonth : (((d.month : ℤ) - 1) % 12).toNat + 1 = d.month := by omega
  have hordinal : (daysBeforeYear d.year + daysBeforeMonth d.year d.month + d.day : ℤ) - epoch.ordinal =
      daysSince d := by
    rw [Date.ordinal, Date.dayOfYear] at hdays
    omega
  rw [mktime, tmOf_clockText h2000 h2099 h12 h31 hs]
  simp only [hyear, hmonth, hordinal]
  rw [seconds_total hmax hs]

/-- the registers that `SyncTimeFromNet` sets -/
theorem syncTimeFromNet_eq (flash : ℤ → UInt8) (sec_num : UInt32) {fuel : ℕ} (hfuel : 49710 ≤ fuel) :
    syncTimeFromNet flash fuel sec_num =
      some (setTime flash (UInt8.ofNat (dateOf sec_num).year - UInt8.ofNat 2000) (UInt8.ofNat (dateOf sec_num).month)
        (UInt8.ofNat (dateOf sec_num).day) (UInt8.ofNat (sec_num.toNat % 86400 / 3600))
        (UInt8.ofNat (sec_num.toNat % 86400 % 3600 / 60)) (UInt8.ofNat (sec_num.toNat % 86400 % 3600 % 60))) := by
  have hdays : sec_num.toNat / 86400 ≤ 49710 := by
    have hlt := sec_num.toNat_lt
    omega
  obtain ⟨years, months, hyears, hmonths, hdate⟩ := dateLoops_end flash hdays (hdays.trans hfuel)
  rw [show dateOf sec_num = _ from hdate]
  simp only [syncTimeFromNet, hyears, hmonths, Option.bind_eq_bind, Option.bind_some, Option.pure_def]

/-- the date and the second in Beijing -/
def beijing (d : Date) (second : ℕ) : Date × ℕ :=
  if second < 57600 then (d, second + 28800) else (d.next, second - 57600)

theorem beijing_valid {d : Date} (hd : d.Valid) {second : ℕ} (hs : second < 86400) :
    (beijing d second).1.Valid ∧ (beijing d second).2 < 86400 := by
  rw [beijing]
  split_ifs with hday
  · exact ⟨hd, by dsimp only; omega⟩
  · exact ⟨hd.next, by dsimp only; omega⟩

/-- **Eight hours later.** -/
theorem dateOf_later {d : Date} (hd : d.Valid) (h2000 : 2000 ≤ d.year) (h2099 : d.year ≤ 2099) {second : ℕ}
    (hs : second < 86400) :
    dateOf (UInt32.ofNat (daysSince d * 86400 + second) + 28800) = (beijing d second).1 ∧
      (UInt32.ofNat (daysSince d * 86400 + second) + 28800).toNat % 86400 = (beijing d second).2 := by
  obtain ⟨hdays, hmax⟩ := daysSince_bounds hd h2000 h2099
  have hsum : (UInt32.ofNat (daysSince d * 86400 + second) + 28800).toNat = daysSince d * 86400 + second + 28800 := by
    rw [UInt32.toNat_add, UInt32.toNat_ofNat_of_lt' (by simp [UInt32.size]; omega),
      show (28800 : UInt32).toNat = 28800 from rfl]
    exact Nat.mod_eq_of_lt (by omega)
  have hnext := ordinal_next hd
  rw [dateOf, hsum, after_eq_iff (by decide) (beijing_valid hd hs).1]
  rw [beijing]
  split_ifs with hday <;> dsimp only <;> omega

/-! ## Main result -/

theorem length_clockText (d : Date) (second : ℕ) : (clockText d second).length = 17 := by
  simp only [clockText, List.length_append, List.length_cons, length_decimalText]

theorem clockText_plain (d : Date) (second : ℕ) : 0x22 ∉ clockText d second := by
  have hdigits : ∀ v, 0x22 ∉ decimalText 2 v := fun v hmem => absurd (mem_decimalText 2 v _ hmem) (by decide)
  simp [clockText, hdigits]

/-- the first second of 2100 has a wrong day of the week -/
theorem century_lost (flash : ℤ → UInt8) {fuel : ℕ} (hfuel : 7 ≤ fuel) (hour min sec : UInt8) (second : ℕ) :
    getTime fuel (setTime flash (UInt8.ofNat 2100 - UInt8.ofNat 2000) (UInt8.ofNat 1) (UInt8.ofNat 1) hour min sec) ≠
      some (calendarAt ⟨2100, 1, 1⟩ second) := by
  have hset : rtcGetWeek flash ((UInt8.ofNat 2100 - UInt8.ofNat 2000).toUInt16 + 2000) (UInt8.ofNat 1) (UInt8.ofNat 1) =
      6 := by
    have htable : tableWeek flash (((UInt8.ofNat 1).toNat : ℤ) - 1) = 0 := rfl
    rw [rtcGetWeek, htable]
    decide
  have hread := weekLoop_ends (w := 6) (by decide) hfuel
  have hday : (⟨2100, 1, 1⟩ : Date).weekday = 5 := by
    have h2100 := daysBeforeYear_eq 2100
    simp only [Date.weekday, Date.ordinal, Date.dayOfYear, daysBeforeMonth_one]
    omega
  intro h
  have hweek := congrArg (Option.map CalendarObj.week) h
  simp only [getTime, setTime, hset, Option.map_map, Option.map_some, calendarAt, hday] at hweek
  rw [if_neg (by decide), show UInt8.ofNat (1 <<< (6 : UInt8).toNat) = UInt8.ofNat (1 <<< 6) from rfl, hread] at hweek
  have hsix : UInt8.ofNat 6 + 1 - 1 = UInt8.ofNat 5 := Option.some.inj hweek
  exact absurd hsix (by decide)

theorem beijing_year (d : Date) (second : ℕ) : d.year ≤ (beijing d second).1.year := by
  rw [beijing]
  split_ifs
  · exact le_rfl
  · dsimp only
    rw [Date.next]
    split_ifs
    · exact le_rfl
    · exact le_rfl
    · exact Nat.le_succ d.year

/-- the date after a day of the 21st century -/
theorem beijing_century {d : Date} (h2099 : d.year ≤ 2099) {second : ℕ}
    (h : ¬ (beijing d second).1.year ≤ 2099) : (beijing d second).1 = ⟨2100, 1, 1⟩ := by
  rw [beijing] at h ⊢
  split_ifs at h ⊢ with hday
  · exact absurd h2099 h
  · dsimp only at h ⊢
    rw [Date.next] at h ⊢
    split_ifs at h ⊢ with hmonth hyear
    · exact absurd h2099 h
    · exact absurd h2099 h
    · dsimp only at h
      rw [show d.year + 1 = 2100 by omega]

/-- a modem at four in the afternoon of the day before a leap day -/
def leapModem : Device Unit where
  powerOn _ := (true, ())
  writeData _ _ := ()
  atSendCmd _ _ _ := (some (ascii "\r\n+CCLK: " ++ 0x22 :: (clockText ⟨2024, 2, 28⟩ 57600 ++ ascii "+00" ++
    0x22 :: ascii "\r\n\r\nOK\r\n")), ())

end DataConcentrator.Clock
