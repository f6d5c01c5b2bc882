/-
The report of the state of a lamp, `LampRecvLampStateAndSendToServer`: the readings of its channels and its time.

Texts of `float` values are left open, but for their length and their separators.
- `stateText`: the parameter of the readings, from two tests of the channel mask;
- `stateText_shows_iff`: the masks and readings for which it shows each channel's own entry;
- `runTogether_iff`: when numbers written one after another make the same text;
- `report_iff`: both, for all states;
- `report_wrong`: a lamp with two channels, one with the first only, and two times with one text.
-/
import DataConcentrator.Common.Reader

namespace DataConcentrator.Lamp

/-! ## Numbers written one after another -/

/-- how many digits a list of numbers has -/
def digitCount (ns : List ℕ) : ℕ := (ns.map fun n => (digits n).length).sum

/-- the number that all their digits make -/
def runTogether (ns : List ℕ) : ℕ := ns.foldl (fun total n => total * 10 ^ (digits n).length + n) 0

theorem foldl_digitValue (text : List UInt8) (total : ℤ) :
    text.foldl (fun (total : ℤ) c => 10 * total + (c.toNat - 0x30 : ℤ)) total =
      total * 10 ^ text.length + digitValue text := by
  induction text using List.reverseRecOn with
  | nil => simp [digitValue]
  | append_singleton text c ih =>
    rw [digitValue, List.foldl_append, List.foldl_append, ih, List.length_append]
    simp only [List.foldl_cons, List.foldl_nil, List.length_singleton, digitValue]
    ring

theorem digitValue_append (s t : List UInt8) : digitValue (s ++ t) = digitValue s * 10 ^ t.length + digitValue t := by
  rw [digitValue, List.foldl_append, foldl_digitValue]
  rfl

/-- digits are known by their number and their value -/
theorem digitValue_inj {s t : List UInt8} (hs : ∀ x ∈ s, myisdigit x = true) (ht : ∀ x ∈ t, myisdigit x = true)
    (hlen : s.length = t.length) (h : digitValue s = digitValue t) : s = t := by
  induction s using List.reverseRecOn generalizing t with
  | nil => exact (List.length_eq_zero_iff.1 hlen.symm).symm
  | append_singleton s x ih =>
    rcases List.eq_nil_or_concat t with rfl | ⟨t, y, rfl⟩
    · simp at hlen
    · rw [List.concat_eq_append] at *
      have hone : ∀ x : UInt8, digitValue [x] = x.toNat - 0x30 := fun x => by simp [digitValue]
      have hx : 0x30 ≤ x ∧ x ≤ 0x39 := of_decide_eq_true (hs x (by simp))
      have hy : 0x30 ≤ y ∧ y ≤ 0x39 := of_decide_eq_true (ht y (by simp))
      simp only [UInt8.le_iff_toNat_le] at hx hy
      change (48 ≤ x.toNat ∧ x.toNat ≤ 57) at hx
      change (48 ≤ y.toNat ∧ y.toNat ≤ 57) at hy
      rw [digitValue_append, digitValue_append, hone, hone, List.length_singleton, List.length_singleton] at h
      have hrest : s = t := by
        refine ih (fun z hz => hs z (by simp [hz])) (fun z hz => ht z (by simp [hz])) ?_ (by omega)
        simpa using hlen
      have hlast : x.toNat = y.toNat := by
        rw [hrest] at h
        omega
      rw [hrest, UInt8.toNat_inj.1 hlast]

/-- **Numbers run together.** Two lists of numbers make the same text exactly if they have as many digits and make the
same number. -/
theorem runTogether_iff (ns ms : List ℕ) :
    ns.flatMap digits = ms.flatMap digits ↔ digitCount ns = digitCount ms ∧ runTogether ns = runTogether ms := by
  have hlength : ∀ ns : List ℕ, (ns.flatMap digits).length = digitCount ns := fun ns => List.length_flatMap
  have hdigits : ∀ ns : List ℕ, ∀ x ∈ ns.flatMap digits, myisdigit x = true := by
    intro ns x hx
    obtain ⟨n, -, hn⟩ := List.mem_flatMap.1 hx
    exact mem_digits hn
  have hvalue : ∀ ns : List ℕ, digitValue (ns.flatMap digits) = runTogether ns := by
    intro ns
    induction ns using List.reverseRecOn with
    | nil => rfl
    | append_singleton ns n ih =>
      have hn : digitValue (digits n) = n := foldl_digits n
      rw [List.flatMap_append, digitValue_append, ih, runTogether, runTogether, List.foldl_append]
      simp [hn]
  constructor
  · intro h
    refine ⟨?_, ?_⟩
    · rw [← hlength, ← hlength, h]
    · have hboth := hvalue ns
      rw [h, hvalue ms] at hboth
      exact_mod_cast hboth.symm
  · rintro ⟨hcount, hnumber⟩
    refine digitValue_inj (hdigits ns) (hdigits ms) ?_ ?_
    · rw [hlength, hlength, hcount]
    · rw [hvalue, hvalue, hnumber]

/-! ## State -/

/-- `LampParas_S` -/
structure LampParas where
  brightness : UInt8
  light_up_day : UInt16
  light_up_total : UInt32
  active_energy_day : UInt32
  active_energy_total : UInt32
  reactive_energy_day : UInt32
  reactive_energy_total : UInt32
  voltage : UInt16
  current : UInt16
  active_power : UInt16
  power_factor : UInt16
  frequency : UInt16

/-- `LampState_S`, with its `MAX_LAMP_CH_NUM` channels -/
structure LampState where
  report_type : UInt8
  address : UInt32
  channel : UInt8
  lamp_paras : Fin 2 → LampParas
  run_mode : UInt8
  controller : UInt8
  control_time : Fin 3 → UInt8
  temperature : Int8
  tilt_angle : UInt16
  dev_time : Fin 6 → UInt8

/-- the texts of `float` values: thousandths with `%03f`, whole numbers with `%f`, hundredths with `%02f` -/
structure FloatTexts where
  milli : UInt32 → List UInt8
  whole : UInt16 → List UInt8
  centi : UInt16 → List UInt8

/-- a text fits `char tmp[16]` and holds no separator -/
def PlainText (text : List UInt8) : Prop := text.length < 16 ∧ ∀ x ∈ text, x ≠ 0x2C ∧ x ≠ 0x7C

structure FloatTexts.Plain (F : FloatTexts) : Prop where
  milli : ∀ v, PlainText (F.milli v)
  whole : ∀ v, PlainText (F.whole v)
  centi : ∀ v, PlainText (F.centi v)

variable (F : FloatTexts)

/-! ## Readings -/

/-- a segment up to the current -/
def headPieces (paras : LampParas) : List (List UInt8) :=
  [sprintfD paras.brightness.toNat, [0x2C],
   sprintfD (paras.light_up_day.toNat / 60 : ℕ), [0x3A], sprintfD (paras.light_up_day.toNat % 60 : ℕ), [0x2C],
   sprintfD (paras.light_up_total.toNat / 60 : ℕ), [0x3A], sprintfD (paras.light_up_total.toNat % 60 : ℕ), [0x2C],
   F.milli paras.active_energy_day, [0x2C],
   F.milli paras.active_energy_total, [0x2C],
   F.milli paras.reactive_energy_day, [0x2C],
   F.milli paras.reactive_energy_total, [0x2C],
   F.whole paras.voltage, [0x2C],
   F.milli paras.current.toUInt32, [0x2C]]

/-- a segment from the active power on -/
def tailPieces (paras : LampParas) : List (List UInt8) :=
  [F.milli paras.active_power.toUInt32, [0x2C],
   F.centi paras.power_factor, [0x2C],
   F.centi paras.frequency]

/-- what is written for the channel mask: the segment of the first channel ends with values of the second, and the
second has a segment only if it is alone -/
def statePieces (state : LampState) : List (List UInt8) :=
  (if state.channel &&& 0x01 ≠ 0 then headPieces F (state.lamp_paras 0) ++ tailPieces F (state.lamp_paras 1) else []) ++
  if state.channel = 0x02 then
    (if state.channel &&& 0x01 ≠ 0 then [[0x7C]] else []) ++
      (headPieces F (state.lamp_paras 1) ++ tailPieces F (state.lamp_paras 1))
  else []

/-- through `tmp[16]` into `buf[200]` -/
def stateText (state : LampState) : Option (List UInt8) :=
  if (statePieces F state).all fun piece => piece.length < 16 then strcats 200 (statePieces F state) else none

/-- `LampRecvLampStateAndSendToServer`: `msg_id` and the parameters; `none` when a text leaves its buffer -/
def lampRecvLampState (state : LampState) : Option (UInt16 × List TextPara) :=
  (stateText F state).map fun text =>
    (if state.report_type = 0 then 0x0171 else if state.report_type = 1 then 0x0172 else 0,
     [⟨0x4001, sprintf08X state.address⟩,
      ⟨0x3002, sprintf02X state.channel⟩,
      ⟨0x4003, text⟩,
      ⟨0x4004, sprintfD state.run_mode.toNat ++ [0x2C] ++ sprintfD state.controller.toNat ++ [0x2C] ++
        sprintfD (state.control_time 0).toNat ++ sprintfD (state.control_time 1).toNat ++
        sprintfD (state.control_time 2).toNat ++ [0x2C] ++ sprintfD state.temperature.toInt ++ [0x2C] ++
        sprintfD state.tilt_angle.toNat⟩,
      ⟨0x4005, []⟩,
      ⟨0xA006, sprintfD 20 ++ sprintfD (state.dev_time 0).toNat ++ sprintfD (state.dev_time 1).toNat ++
        sprintfD (state.dev_time 2).toNat ++ sprintfD (state.dev_time 3).toNat ++ sprintfD (state.dev_time 4).toNat ++
        sprintfD (state.dev_time 5).toNat⟩])

/-- the text of a parameter -/
def reportedText (state : LampState) (type : UInt16) : Option (List UInt8) :=
  (lampRecvLampState F state).bind fun report => (report.2.find? fun p => p.type = type).map TextPara.text

/-! ## What it should show -/

/-- the readings of one channel, from its own entry -/
def segment (paras : LampParas) : List UInt8 := (headPieces F paras ++ tailPieces F paras).flatten

/-- the entries of the channels in the mask -/
def LampState.setChannels (state : LampState) : List LampParas :=
  (if state.channel.toNat.testBit 0 then [state.lamp_paras 0] else []) ++
    if state.channel.toNat.testBit 1 then [state.lamp_paras 1] else []

/-- the parameter lists a segment for each channel in the mask, and fits -/
def Shows (state : LampState) : Prop :=
  ∃ text, reportedText F state 0x4003 = some text ∧ text = List.intercalate [0x7C] (state.setChannels.map (segment F)) ∧
    text.length < 200

/-- not both channels, and if it is the first, the last three values of the second read the same -/
structure OwnReadings (state : LampState) : Prop where
  one : state.channel ≠ 3
  active_power : state.channel = 1 →
    F.milli (state.lamp_paras 1).active_power.toUInt32 = F.milli (state.lamp_paras 0).active_power.toUInt32
  power_factor : state.channel = 1 → F.centi (state.lamp_paras 1).power_factor = F.centi (state.lamp_paras 0).power_factor
  frequency : state.channel = 1 → F.centi (state.lamp_paras 1).frequency = F.centi (state.lamp_paras 0).frequency

/-- the numbers of the time, behind the century -/
def LampState.times (state : LampState) : List ℕ := List.ofFn fun i => (state.dev_time i).toNat

/-- a piece that fits `tmp`, and holds no bar -/
def GoodPiece (piece : List UInt8) : Prop := piece.length < 16 ∧ 0x7C ∉ piece

theorem PlainText.good {text : List UInt8} (h : PlainText text) : GoodPiece text := ⟨h.1, fun hx => (h.2 _ hx).2 rfl⟩

/-- a number of a few digits -/
theorem number_good {n : ℕ} (h : n < 10 ^ 15) : GoodPiece (sprintfD n) := by
  have hlen := @length_sprintfD_le n 15 (by decide) (by simpa using h)
  rw [if_neg (by omega), Nat.add_zero] at hlen
  exact ⟨by omega, fun hx => not_mem_sprintfD hx (by decide)⟩

theorem length_number {n k : ℕ} (hk : 0 < k) (h : n < 10 ^ k) : (sprintfD n).length ≤ k := by
  have hlen := @length_sprintfD_le n k hk (by simpa using h)
  rwa [if_neg (by omega), Nat.add_zero] at hlen

/-- texts that are bounded one by one -/
theorem length_flatten_le {pieces : List (List UInt8)} {bounds : List ℕ}
    (h : List.Forall₂ (fun piece k => piece.length ≤ k) pieces bounds) : pieces.flatten.length ≤ bounds.sum := by
  induction h with
  | nil => exact le_rfl
  | cons hpiece _ ih =>
    rw [List.flatten_cons, List.length_append, List.sum_cons]
    exact Nat.add_le_add hpiece ih

section Plain

variable {F} (hF : F.Plain)
include hF

theorem length_head (paras : LampParas) : (headPieces F paras).flatten.length ≤ 120 := by
  have hday := paras.light_up_day.toNat_lt
  have htotal := paras.light_up_total.toNat_lt
  have hbrightness := paras.brightness.toNat_lt
  have hcomma : ([0x2C] : List UInt8).length ≤ 1 := le_rfl
  have hcolon : ([0x3A] : List UInt8).length ≤ 1 := le_rfl
  have hmilli : ∀ v, (F.milli v).length ≤ 15 := fun v => Nat.le_of_lt_succ (hF.milli v).1
  have hwhole : (F.whole paras.voltage).length ≤ 15 := Nat.le_of_lt_succ (hF.whole _).1
  refine @length_flatten_le _ [3, 1, 4, 1, 2, 1, 8, 1, 2, 1, 15, 1, 15, 1, 15, 1, 15, 1, 15, 1, 15, 1] ?_
  simp only [headPieces, List.forall₂_cons, List.forall₂_nil_left_iff]
  exact ⟨length_number (by decide) (by omega), hcomma, length_number (by decide) (by omega), hcolon,
    length_number (by decide) (by omega), hcomma, length_number (by decide) (by omega), hcolon,
    length_number (by decide) (by omega), hcomma, hmilli _, hcomma, hmilli _, hcomma, hmilli _, hcomma, hmilli _, hcomma,
    hwhole, hcomma, hmilli _, hcomma, trivial⟩

theorem head_good (paras : LampParas) : ∀ piece ∈ headPieces F paras, GoodPiece piece := by
  have hday := paras.light_up_day.toNat_lt
  have htotal := paras.light_up_total.toNat_lt
  have hbrightness := paras.brightness.toNat_lt
  have hcomma : GoodPiece [0x2C] := ⟨by decide, by decide⟩
  have hcolon : GoodPiece [0x3A] := ⟨by decide, by decide⟩
  simp only [headPieces, List.forall_mem_cons]
  exact ⟨number_good (by omega), hcomma, number_good (by omega), hcolon, number_good (by omega), hcomma,
    number_good (by omega), hcolon, number_good (by omega), hcomma, (hF.milli _).good, hcomma, (hF.milli _).good, hcomma,
    (hF.milli _).good, hcomma, (hF.milli _).good, hcomma, (hF.whole _).good, hcomma, (hF.milli _).good, hcomma, by simp⟩

theorem length_tail (paras : LampParas) : (tailPieces F paras).flatten.length ≤ 47 := by
  have hcomma : ([0x2C] : List UInt8).length ≤ 1 := le_rfl
  have hmilli : ∀ v, (F.milli v).length ≤ 15 := fun v => Nat.le_of_lt_succ (hF.milli v).1
  have hcenti : ∀ v, (F.centi v).length ≤ 15 := fun v => Nat.le_of_lt_succ (hF.centi v).1
  refine @length_flatten_le _ [15, 1, 15, 1, 15] ?_
  simp only [tailPieces, List.forall₂_cons, List.forall₂_nil_left_iff]
  exact ⟨hmilli _, hcomma, hcenti _, hcomma, hcenti _, trivial⟩

theorem tail_good (paras : LampParas) : ∀ piece ∈ tailPieces F paras, GoodPiece piece := by
  have hcomma : GoodPiece [0x2C] := ⟨by decide, by decide⟩
  simp only [tailPieces, List.forall_mem_cons]
  exact ⟨(hF.milli _).good, hcomma, (hF.centi _).good, hcomma, (hF.centi _).good, by simp⟩

/-- a segment comes out as it is written, and holds no bar -/
theorem segment_fits (own other : LampParas) :
    (headPieces F own ++ tailPieces F other).flatten.length < 200 ∧
    0x7C ∉ (headPieces F own ++ tailPieces F other).flatten ∧
    ((headPieces F own ++ tailPieces F other).all fun piece => piece.length < 16) = true := by
  have hhead := length_head hF own
  have htail := length_tail hF other
  have hgood : ∀ piece ∈ headPieces F own ++ tailPieces F other, GoodPiece piece := by
    intro piece hpiece
    rcases List.mem_append.1 hpiece with hpiece | hpiece
    · exact head_good hF own piece hpiece
    · exact tail_good hF other piece hpiece
  refine ⟨?_, ?_, ?_⟩
  · rw [List.flatten_append, List.length_append]
    omega
  · intro hbar
    obtain ⟨piece, hpiece, hmem⟩ := List.mem_flatten.1 hbar
    exact (hgood piece hpiece).2 hmem
  · rw [List.all_eq_true]
    exact fun piece hpiece => decide_eq_true (hgood piece hpiece).1

omit hF in
theorem append_comma_inj {a a' b b' : List UInt8} (ha : 0x2C ∉ a) (ha' : 0x2C ∉ a') :
    a ++ 0x2C :: b = a' ++ 0x2C :: b' ↔ a = a' ∧ b = b' := by
  constructor
  · intro h
    have htake : ∀ {a b : List UInt8}, 0x2C ∉ a → (a ++ 0x2C :: b).takeWhile (· ≠ 0x2C) = a := by
      intro a b ha
      rw [List.takeWhile_append_of_pos fun x hx => by simpa using ne_of_mem_of_not_mem hx ha]
      simp
    have hfirst := congrArg (List.takeWhile (· ≠ 0x2C)) h
    rw [htake ha, htake ha'] at hfirst
    subst hfirst
    exact ⟨rfl, by simpa using h⟩
  · rintro ⟨rfl, rfl⟩
    rfl

/-- two texts with the same values up to the current -/
theorem tail_inj {own other other' : LampParas} :
    (headPieces F own ++ tailPieces F other).flatten = (headPieces F own ++ tailPieces F other').flatten ↔
      F.milli other.active_power.toUInt32 = F.milli other'.active_power.toUInt32 ∧
      F.centi other.power_factor = F.centi other'.power_factor ∧ F.centi other.frequency = F.centi other'.frequency := by
  have hsplit : ∀ paras, (tailPieces F paras).flatten =
      F.milli paras.active_power.toUInt32 ++ 0x2C :: (F.centi paras.power_factor ++ 0x2C :: F.centi paras.frequency) := by
    intro paras
    simp [tailPieces]
  have hmilli : ∀ v, (0x2C : UInt8) ∉ F.milli v := fun v hx => ((hF.milli v).2 _ hx).1 rfl
  have hcenti : ∀ v, (0x2C : UInt8) ∉ F.centi v := fun v hx => ((hF.centi v).2 _ hx).1 rfl
  rw [List.flatten_append, List.flatten_append, List.append_cancel_left_eq, hsplit, hsplit,
    append_comma_inj (hmilli _) (hmilli _), append_comma_inj (hcenti _) (hcenti _)]

omit hF in
/-- what is written, for each mask -/
theorem statePieces_eq {state : LampState} (h : state.channel = 1 ∨ state.channel = 2 ∨ state.channel = 3) :
    statePieces F state = headPieces F (state.lamp_paras (if state.channel = 2 then 1 else 0)) ++
      tailPieces F (state.lamp_paras 1) := by
  unfold statePieces
  rcases h with h | h | h
  · rw [h, if_pos (by decide), if_neg (by decide), if_neg (by decide), List.append_nil]
  · rw [h, if_neg (by decide), if_pos rfl, if_neg (by decide), if_pos rfl, List.nil_append, List.nil_append]
  · rw [h, if_pos (by decide), if_neg (by decide), if_neg (by decide), List.append_nil]

theorem stateText_eq {state : LampState} (h : state.channel = 1 ∨ state.channel = 2 ∨ state.channel = 3) :
    stateText F state = some (headPieces F (state.lamp_paras (if state.channel = 2 then 1 else 0)) ++
      tailPieces F (state.lamp_paras 1)).flatten := by
  obtain ⟨hlen, -, hall⟩ := segment_fits hF (state.lamp_paras (if state.channel = 2 then 1 else 0)) (state.lamp_paras 1)
  rw [stateText, statePieces_eq h, if_pos hall, strcats_eq (by decide), if_pos hlen]

/-- the readings and the time of a report -/
theorem reportedText_eq {state : LampState} (h : state.channel = 1 ∨ state.channel = 2 ∨ state.channel = 3) :
    reportedText F state 0x4003 = some (headPieces F (state.lamp_paras (if state.channel = 2 then 1 else 0)) ++
      tailPieces F (state.lamp_paras 1)).flatten ∧
    reportedText F state 0xA006 = some (digits 20 ++ state.times.flatMap digits) := by
  rw [reportedText, reportedText, lampRecvLampState, stateText_eq hF h]
  refine ⟨rfl, ?_⟩
  have hdigits : ∀ n : ℕ, sprintfD n = digits n := fun n => if_neg (by omega)
  have htwenty : sprintfD 20 = digits 20 := hdigits 20
  have htimes : state.times = [(state.dev_time 0).toNat, (state.dev_time 1).toNat, (state.dev_time 2).toNat,
      (state.dev_time 3).toNat, (state.dev_time 4).toNat, (state.dev_time 5).toNat] := rfl
  rw [htimes]
  simp [htwenty, hdigits]

omit hF in
theorem intercalate_segment (paras : LampParas) :
    List.intercalate [0x7C] ([paras].map (segment F)) = (headPieces F paras ++ tailPieces F paras).flatten := by
  simp [List.intercalate, segment]

/-- the readings are those of each channel's own entry -/
theorem shows_iff {state : LampState} (h : state.channel = 1 ∨ state.channel = 2 ∨ state.channel = 3) :
    Shows F state ↔ OwnReadings F state := by
  obtain ⟨hlen, hbar, -⟩ := segment_fits hF (state.lamp_paras (if state.channel = 2 then 1 else 0)) (state.lamp_paras 1)
  have hshows : Shows F state ↔ (headPieces F (state.lamp_paras (if state.channel = 2 then 1 else 0)) ++
      tailPieces F (state.lamp_paras 1)).flatten = List.intercalate [0x7C] (state.setChannels.map (segment F)) := by
    rw [Shows, (reportedText_eq hF h).1]
    constructor
    · rintro ⟨text, htext, heq, -⟩
      cases htext
      exact heq
    · exact fun heq => ⟨_, rfl, heq, hlen⟩
  rw [hshows]
  rcases h with h | h | h
  · have hset : state.setChannels = [state.lamp_paras 0] := by
      rw [LampState.setChannels, h]
      rfl
    have hown : OwnReadings F state ↔
        F.milli (state.lamp_paras 1).active_power.toUInt32 = F.milli (state.lamp_paras 0).active_power.toUInt32 ∧
        F.centi (state.lamp_paras 1).power_factor = F.centi (state.lamp_paras 0).power_factor ∧
        F.centi (state.lamp_paras 1).frequency = F.centi (state.lamp_paras 0).frequency :=
      ⟨fun ho => ⟨ho.active_power h, ho.power_factor h, ho.frequency h⟩,
        fun ho => ⟨by rw [h]; decide, fun _ => ho.1, fun _ => ho.2.1, fun _ => ho.2.2⟩⟩
    rw [hset, hown, h, if_neg (by decide), intercalate_segment]
    exact tail_inj hF
  · have hset : state.setChannels = [state.lamp_paras 1] := by
      rw [LampState.setChannels, h]
      rfl
    have hne : state.channel ≠ 1 := by
      rw [h]
      decide
    refine iff_of_true ?_ ⟨by rw [h]; decide, fun h1 => absurd h1 hne, fun h1 => absurd h1 hne, fun h1 => absurd h1 hne⟩
    rw [hset, h, if_pos rfl, intercalate_segment]
  · have hset : state.setChannels = [state.lamp_paras 0, state.lamp_paras 1] := by
      rw [LampState.setChannels, h]
      rfl
    -- the bar between the segments is not printed
    refine iff_of_false (fun heq => hbar ?_) (fun ho => ho.one h)
    rw [heq, hset]
    simp [List.intercalate]

/-- two times with one text -/
theorem sameTime_iff {state state' : LampState} (h : state.channel = 1 ∨ state.channel = 2 ∨ state.channel = 3)
    (h' : state'.channel = 1 ∨ state'.channel = 2 ∨ state'.channel = 3) :
    reportedText F state 0xA006 = reportedText F state' 0xA006 ↔
      digitCount state.times = digitCount state'.times ∧ runTogether state.times = runTogether state'.times := by
  rw [(reportedText_eq hF h).2, (reportedText_eq hF h').2, Option.some_inj, List.append_cancel_left_eq, runTogether_iff]

/-- **State reports.** The readings are those of each channel exactly if the mask is not 3 and, if it is 1, the last three
values of the two entries read the same; and two times have two texts exactly if they have different numbers of digits
or make different numbers. -/
theorem report_iff (state state' : LampState) (h : state.channel = 1 ∨ state.channel = 2 ∨ state.channel = 3)
    (h' : state'.channel = 1 ∨ state'.channel = 2 ∨ state'.channel = 3) :
    (Shows F state ↔ OwnReadings F state) ∧
    ((state.dev_time ≠ state'.dev_time → reportedText F state 0xA006 ≠ reportedText F state' 0xA006) ↔
      (state.dev_time ≠ state'.dev_time →
        digitCount state.times ≠ digitCount state'.times ∨ runTogether state.times ≠ runTogether state'.times)) := by
  refine ⟨shows_iff hF h, forall_congr' fun _ => ?_⟩
  rw [Ne, sameTime_iff hF h h', not_and_or]

end Plain

/-! ## Three reports -/

/-- a number of `unit`-ths, with six decimals -/
def exactText (unit n : ℕ) : List UInt8 := digits (n / unit) ++ [0x2E] ++ sixDigits (n % unit * (10 ^ 6 / unit))

/-- as printed where the values are exact -/
def exactTexts : FloatTexts :=
  ⟨fun v => exactText 1000 v.toNat, fun v => exactText 1 v.toNat, fun v => exactText 100 v.toNat⟩

theorem exactText_plain {unit n : ℕ} (hunit : unit = 1 ∨ unit = 100 ∨ unit = 1000) (h : n / unit < 10 ^ 8) :
    PlainText (exactText unit n) := by
  have hrest : n % unit * (10 ^ 6 / unit) < 10 ^ 6 := by
    rcases hunit with rfl | rfl | rfl
    · omega
    · omega
    · omega
  have hwhole := length_digits_le (by decide) h
  have hsix := length_digits_le (by decide) hrest
  refine ⟨?_, fun x hx => ?_⟩
  · simp only [exactText, sixDigits, List.length_append, List.length_replicate, List.length_singleton]
    omega
  · -- digits, a point, zeros and digits
    have hother : myisdigit x = true ∨ x = 0x2E ∨ x = 0x30 := by
      simp only [exactText, sixDigits, List.mem_append, List.mem_singleton, List.mem_replicate] at hx
      rcases hx with (hx | hx) | (⟨-, hx⟩ | hx)
      · exact .inl (mem_digits hx)
      · exact .inr (.inl hx)
      · exact .inr (.inr hx)
      · exact .inl (mem_digits hx)
    refine ⟨?_, ?_⟩
    · rintro rfl
      exact absurd hother (by decide)
    · rintro rfl
      exact absurd hother (by decide)

theorem exactTexts_plain : exactTexts.Plain where
  milli v := exactText_plain (.inr (.inr rfl)) (by have := v.toNat_lt; omega)
  whole v := exactText_plain (.inl rfl) (by have := v.toNat_lt; omega)
  centi v := exactText_plain (.inr (.inl rfl)) (by have := v.toNat_lt; omega)

def idleParas : LampParas := ⟨0, 0, 0, 0, 0, 0, 0, 0, 0, 0, 0, 0⟩

/-- a lamp with a channel mask, the active power of its second channel, and a time -/
def lampState (channel : UInt8) (active_power : UInt16) (dev_time : Fin 6 → UInt8) : LampState :=
  ⟨0, 1, channel, ![idleParas, { idleParas with active_power := active_power }], 0, 0, ![0, 0, 0], 0, 0, dev_time⟩

theorem report_second :
    (Shows exactTexts (lampState 2 500 ![24, 1, 11, 0, 0, 0]) ↔
      OwnReadings exactTexts (lampState 2 500 ![24, 1, 11, 0, 0, 0])) ∧
    (((lampState 2 500 ![24, 1, 11, 0, 0, 0]).dev_time ≠ (lampState 2 500 ![24, 2, 11, 0, 0, 0]).dev_time →
        reportedText exactTexts (lampState 2 500 ![24, 1, 11, 0, 0, 0]) 0xA006 ≠
          reportedText exactTexts (lampState 2 500 ![24, 2, 11, 0, 0, 0]) 0xA006) ↔
      ((lampState 2 500 ![24, 1, 11, 0, 0, 0]).dev_time ≠ (lampState 2 500 ![24, 2, 11, 0, 0, 0]).dev_time →
        digitCount (lampState 2 500 ![24, 1, 11, 0, 0, 0]).times ≠
            digitCount (lampState 2 500 ![24, 2, 11, 0, 0, 0]).times ∨
          runTogether (lampState 2 500 ![24, 1, 11, 0, 0, 0]).times ≠
            runTogether (lampState 2 500 ![24, 2, 11, 0, 0, 0]).times)) :=
  report_iff exactTexts_plain (lampState 2 500 ![24, 1, 11, 0, 0, 0]) (lampState 2 500 ![24, 2, 11, 0, 0, 0])
    (.inr (.inl rfl)) (.inr (.inl rfl))

/-- **Reports that are wrong.** With both channels the second is missing; with the first alone its active power is that
of the second; and the eleventh of January has the text of the first of November. -/
theorem report_wrong :
    ¬ Shows exactTexts (lampState 3 0 ![24, 1, 11, 0, 0, 0]) ∧
    ¬ Shows exactTexts (lampState 1 500 ![24, 1, 11, 0, 0, 0]) ∧
    ((lampState 2 0 ![24, 1, 11, 0, 0, 0]).dev_time ≠ (lampState 2 0 ![24, 11, 1, 0, 0, 0]).dev_time ∧
      reportedText exactTexts (lampState 2 0 ![24, 1, 11, 0, 0, 0]) 0xA006 =
        reportedText exactTexts (lampState 2 0 ![24, 11, 1, 0, 0, 0]) 0xA006) := by
  refine ⟨fun h => ?_, fun h => ?_, by decide, ?_⟩
  · exact ((shows_iff exactTexts_plain (.inr (.inr rfl))).1 h).one rfl
  · exact absurd (((shows_iff exactTexts_plain (.inl rfl)).1 h).active_power rfl) (by decide)
  · exact (sameTime_iff exactTexts_plain (.inr (.inl rfl)) (.inr (.inl rfl))).2 (by decide)

end DataConcentrator.Lamp
