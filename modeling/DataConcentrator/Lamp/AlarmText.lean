/-
Alarms that lamps send over the power line: the texts of the current values, the set values and the reference values in
`LampLeakageAlarm`, `LampElectricalParaOverThreAlarm`, `LampLightOnAbnormalAlarm` and `LampTaskStateAbnormalAlarm`.

- `Layout`: the fields of a payload from its second byte on, for each of the three texts;
- `strcats_listing`: values with commas between them, and when they fit `buf`;
- `alarm_texts_iff`: the payloads that each handler reports field by field;
- `texts_wrong`: a payload of each of the other three kinds.
-/
import DataConcentrator.History.Store

namespace DataConcentrator.Lamp

open History (AlarmReport LAMP_CONTROLLER LUMETER)

/-! ## Handlers -/

/-- `PlcFrame_S` of a lamp, as far as it is read here; `len` is the length of `buf` -/
structure AlarmFrame where
  address : UInt32
  buf : List UInt8

namespace AlarmFrame

variable (user_frame : AlarmFrame)

def byte (i : ℕ) : UInt8 := user_frame.buf.getD i 0

/-- `((((u16)(*(buf + i))) << 8) & 0xFF00) + *(buf + j)` -/
def word (i j : ℕ) : ℕ := ((user_frame.byte i).toNat <<< 8 &&& 0xFF00) + (user_frame.byte j).toNat

/-- `%d` of a byte -/
def byteText (i : ℕ) : List UInt8 := sprintfD (user_frame.byte i).toNat

/-- `%d` of two bytes in a row -/
def wordText (i : ℕ) : List UInt8 := sprintfD (user_frame.word i (i + 1))

end AlarmFrame

/-- texts into `char buf[25]`, with a comma before each but the first -/
def alarmText (texts : List (List UInt8)) : Option (List UInt8) := strcats 25 (texts.intersperse [0x2C])

theorem lampController_known : LAMP_CONTROLLER ≤ LUMETER := by decide

/-- what becomes of a frame: nothing, a text that leaves `buf`, or a report -/
inductive AlarmOutcome where
  | dropped
  | overflow
  | pushed (alarm_report : AlarmReport)

/-- the report with its three texts; a text is `none` when it leaves `buf` -/
def lampAlarmReport (user_frame : AlarmFrame) (record_type : UInt8) (occur_time : List UInt8)
    (current_value set_value reference_value : Option (List UInt8)) : AlarmOutcome :=
  match current_value, set_value, reference_value with
  | some current_value, some set_value, some reference_value =>
    .pushed
      { record_type := record_type
        device_type := LAMP_CONTROLLER
        alarm_type := user_frame.byte 0
        device_address := sprintf08X user_frame.address
        device_channel := sprintfD 2
        current_value := current_value
        set_value := set_value
        reference_value := reference_value
        occur_time := occur_time
        known := lampController_known }
  | _, _, _ => .overflow

variable (user_frame : AlarmFrame) (record_type : UInt8) (occur_time : List UInt8)

def lampLeakageAlarm : AlarmOutcome :=
  if user_frame.buf.length ≠ 11 then .dropped
  else lampAlarmReport user_frame record_type occur_time
    (alarmText [user_frame.wordText 1, user_frame.wordText 3])
    -- the last value is made of bytes 4 and 10, the first of them shifted by 9
    (alarmText [user_frame.wordText 5, user_frame.wordText 7,
      sprintfD ((((user_frame.byte 4).toNat <<< 9 &&& 0xFF00) + (user_frame.byte 10).toNat : ℕ))])
    (some [])

def lampElectricalParaOverThreAlarm : AlarmOutcome :=
  if user_frame.buf.length ≠ 14 then .dropped
  else lampAlarmReport user_frame record_type occur_time
    (alarmText [user_frame.byteText 1])
    (alarmText [user_frame.byteText 2, user_frame.byteText 3, user_frame.wordText 4, user_frame.byteText 6,
      user_frame.wordText 7, user_frame.byteText 9, user_frame.wordText 10])
    (alarmText [user_frame.wordText 12])

def lampLightOnAbnormalAlarm : AlarmOutcome :=
  if user_frame.buf.length ≠ 17 then .dropped
  else lampAlarmReport user_frame record_type occur_time
    (alarmText [user_frame.byteText 1, user_frame.wordText 2])
    (alarmText [user_frame.wordText 4, user_frame.byteText 6, user_frame.byteText 7, user_frame.wordText 8])
    (alarmText [user_frame.byteText 10, user_frame.wordText 11, user_frame.wordText 13, user_frame.wordText 15])

def lampTaskStateAbnormalAlarm : AlarmOutcome :=
  if user_frame.buf.length < 12 then .dropped
  else lampAlarmReport user_frame record_type occur_time
    (alarmText [user_frame.byteText 1, user_frame.byteText 2])
    (some [])
    -- the last byte of the text is taken away, for a comma that is not there
    ((alarmText [user_frame.byteText 3, user_frame.byteText 4, user_frame.byteText 5, user_frame.wordText 6,
      user_frame.byteText 8, user_frame.byteText 9, user_frame.byteText 10]).map List.dropLast)

/-! ## Layouts -/

inductive Width where
  | byte
  | word

def Width.bytes : Width → ℕ
  | .byte => 1
  | .word => 2

/-- the most digits of a field -/
def Width.digits : Width → ℕ
  | .byte => 3
  | .word => 5

/-- the fields of the three texts, one after another -/
structure Layout where
  current : List Width
  set : List Width
  reference : List Width

def bytesOf (widths : List Width) : ℕ := (widths.map Width.bytes).sum

def Layout.bytes (layout : Layout) : ℕ := bytesOf layout.current + bytesOf layout.set + bytesOf layout.reference

def leakageLayout : Layout := ⟨[.word, .word], [.word, .word, .word], []⟩

def electricalLayout : Layout := ⟨[.byte], [.byte, .byte, .word, .byte, .word, .byte, .word], [.word]⟩

def lightOnLayout : Layout := ⟨[.byte, .word], [.word, .byte, .byte, .word], [.byte, .word, .word, .word]⟩

def taskStateLayout : Layout := ⟨[.byte, .byte], [], [.byte, .byte, .byte, .word, .byte, .byte, .byte]⟩

/-- the values of fields in a row, words big-endian, from a byte on -/
def fieldValues : List Width → ℕ → List ℕ
  | [], _ => []
  | .byte :: widths, i => (user_frame.byte i).toNat :: fieldValues widths (i + 1)
  | .word :: widths, i =>
    ((user_frame.byte i).toNat * 256 + (user_frame.byte (i + 1)).toNat) :: fieldValues widths (i + 2)

/-- values in decimal, with commas between them -/
def listing (values : List ℕ) : List UInt8 := List.intercalate [0x2C] (values.map fun n => sprintfD n)

/-- the three texts list the fields of a layout, in the order of the payload, and fit `buf` -/
structure Layout.Right (layout : Layout) (alarm_report : AlarmReport) : Prop where
  current : alarm_report.current_value = listing (fieldValues user_frame layout.current 1)
  set : alarm_report.set_value = listing (fieldValues user_frame layout.set (1 + bytesOf layout.current))
  reference : alarm_report.reference_value =
    listing (fieldValues user_frame layout.reference (1 + bytesOf layout.current + bytesOf layout.set))
  fits : alarm_report.current_value.length < 25 ∧ alarm_report.set_value.length < 25 ∧
    alarm_report.reference_value.length < 25

/-- a report goes out, and it lists the fields of a layout -/
def Layout.Reported (layout : Layout) (outcome : AlarmOutcome) : Prop :=
  ∃ alarm_report, outcome = .pushed alarm_report ∧ layout.Right user_frame alarm_report

/-! ## Texts -/

theorem word_eq (i : ℕ) :
    user_frame.word i (i + 1) = (user_frame.byte i).toNat * 256 + (user_frame.byte (i + 1)).toNat := by
  have hall : ∀ b : UInt8, b.toNat <<< 8 &&& 0xFF00 = b.toNat * 256 := forall_byte (by decide +kernel)
  rw [AlarmFrame.word, hall]

theorem shifted_eq : ∀ b : UInt8, b.toNat <<< 9 &&& 0xFF00 = 2 * b.toNat % 256 * 256 := forall_byte (by decide +kernel)

/-- values into `buf` -/
theorem alarmText_values (values : List ℕ) : alarmText (values.map fun n => sprintfD n) =
    if (listing values).length < 25 then some (listing values) else none :=
  strcats_eq (by decide) _

theorem length_listing {values : List ℕ} (h : values ≠ []) :
    (listing values).length + 1 = (values.map fun n => (digits n).length + 1).sum := by
  have htext : ∀ n : ℕ, (sprintfD n).length = (digits n).length := by
    intro n
    rw [sprintfD, if_neg (by omega)]
    rfl
  induction values with
  | nil => exact absurd rfl h
  | cons n values ih =>
    cases values with
    | nil => simp [listing, List.intercalate, htext]
    | cons m values =>
      have hcons : listing (n :: m :: values) = sprintfD n ++ [0x2C] ++ listing (m :: values) := by
        simp [listing, List.intercalate]
      have hrest := ih (List.cons_ne_nil m values)
      rw [List.map_cons, List.sum_cons, ← hrest, hcons]
      simp only [List.length_append, htext, List.length_singleton]
      omega

theorem digits_field (widths : List Width) (i : ℕ) :
    ((fieldValues user_frame widths i).map fun n => (digits n).length + 1).sum ≤
      (widths.map fun w => w.digits + 1).sum := by
  induction widths generalizing i with
  | nil => exact le_rfl
  | cons w widths ih =>
    have hbyte := (user_frame.byte i).toNat_lt
    have hnext := (user_frame.byte (i + 1)).toNat_lt
    cases w with
    | byte =>
      have hlen := length_digits_le (k := 3) (by decide) (show (user_frame.byte i).toNat < 10 ^ 3 by omega)
      have hdigits : Width.byte.digits = 3 := rfl
      have hrest := ih (i + 1)
      simp only [fieldValues, List.map_cons, List.sum_cons]
      omega
    | word =>
      have hlen := length_digits_le (k := 5) (by decide)
        (show (user_frame.byte i).toNat * 256 + (user_frame.byte (i + 1)).toNat < 10 ^ 5 by omega)
      have hdigits : Width.word.digits = 5 := rfl
      have hrest := ih (i + 2)
      simp only [fieldValues, List.map_cons, List.sum_cons]
      omega

/-- fields with at most 24 digits and commas fit -/
theorem listing_fits {widths : List Width} (hne : widths ≠ []) (h : (widths.map fun w => w.digits + 1).sum ≤ 25) (i : ℕ) :
    (listing (fieldValues user_frame widths i)).length < 25 := by
  have hvalues : fieldValues user_frame widths i ≠ [] := by
    cases widths with
    | nil => exact absurd rfl hne
    | cons w widths => cases w <;> exact List.cons_ne_nil _ _
  have hlen := length_listing hvalues
  have hsum := digits_field user_frame widths i
  omega

/-- so they come out as they are -/
theorem alarmText_fields {widths : List Width} (hne : widths ≠ [])
    (h : (widths.map fun w => w.digits + 1).sum ≤ 25) (i : ℕ) :
    alarmText ((fieldValues user_frame widths i).map fun n => sprintfD n) =
      some (listing (fieldValues user_frame widths i)) := by
  rw [alarmText_values, if_pos (listing_fits user_frame hne h i)]

/-- fields of one text, as a handler writes them -/
theorem wordText_eq (i : ℕ) : user_frame.wordText i =
    sprintfD ((user_frame.byte i).toNat * 256 + (user_frame.byte (i + 1)).toNat : ℕ) := by
  rw [AlarmFrame.wordText, word_eq]

/-! ## Handlers and layouts -/

section Handlers

variable {user_frame record_type occur_time}

/-- a report with the three texts of a layout -/
theorem reported_iff (layout : Layout) {set : List UInt8}
    (hcurrent : (listing (fieldValues user_frame layout.current 1)).length < 25)
    (hset : set.length < 25)
    (hreference : (listing (fieldValues user_frame layout.reference
      (1 + bytesOf layout.current + bytesOf layout.set))).length < 25) :
    layout.Reported user_frame (lampAlarmReport user_frame record_type occur_time
      (some (listing (fieldValues user_frame layout.current 1))) (some set)
      (some (listing (fieldValues user_frame layout.reference (1 + bytesOf layout.current + bytesOf layout.set))))) ↔
    set = listing (fieldValues user_frame layout.set (1 + bytesOf layout.current)) := by
  constructor
  · rintro ⟨r, hr, hright⟩
    cases hr
    exact hright.set
  · intro h
    exact ⟨_, rfl, rfl, h, rfl, hcurrent, hset, hreference⟩

/-- two listings that differ in their last value only -/
theorem listing_three_inj {k m n n' : ℕ} (h : listing [k, m, n] = listing [k, m, n']) : n = n' := by
  have hsplit : ∀ n : ℕ, listing [k, m, n] = sprintfD k ++ [0x2C] ++ (sprintfD m ++ [0x2C]) ++ sprintfD n := by
    intro n
    simp [listing, List.intercalate]
  rw [hsplit, hsplit] at h
  have hread := congrArg myatoi (List.append_cancel_left h)
  rw [myatoi_sprintfD, myatoi_sprintfD] at hread
  exact_mod_cast hread

/-- three words fit -/
theorem words_fit {k m n : ℕ} (hk : k < 10 ^ 5) (hm : m < 10 ^ 5) (hn : n < 10 ^ 5) :
    (listing [k, m, n]).length < 25 := by
  have hlen := length_listing (List.cons_ne_nil k [m, n])
  have h1 := length_digits_le (by decide) hk
  have h2 := length_digits_le (by decide) hm
  have h3 := length_digits_le (by decide) hn
  simp only [List.map_cons, List.map_nil, List.sum_cons, List.sum_nil] at hlen
  omega

theorem leakage_iff (h : user_frame.buf.length = 11) :
    leakageLayout.Reported user_frame (lampLeakageAlarm user_frame record_type occur_time) ↔
      2 * (user_frame.byte 4).toNat % 256 = (user_frame.byte 9).toNat := by
  have hcurrent : alarmText [user_frame.wordText 1, user_frame.wordText 3] =
      some (listing (fieldValues user_frame [.word, .word] 1)) := by
    rw [wordText_eq, wordText_eq]
    exact @alarmText_fields user_frame [.word, .word] (by simp) (by decide) 1
  have h5 := (user_frame.byte 5).toNat_lt
  have h6 := (user_frame.byte 6).toNat_lt
  have h7 := (user_frame.byte 7).toNat_lt
  have h8 := (user_frame.byte 8).toNat_lt
  have h10 := (user_frame.byte 10).toNat_lt
  obtain ⟨last, hlast⟩ : ∃ last, last = 2 * (user_frame.byte 4).toNat % 256 * 256 + (user_frame.byte 10).toNat := ⟨_, rfl⟩
  have hfits := @words_fit ((user_frame.byte 5).toNat * 256 + (user_frame.byte 6).toNat)
    ((user_frame.byte 7).toNat * 256 + (user_frame.byte 8).toNat) last (by omega) (by omega) (by omega)
  have hset : alarmText [user_frame.wordText 5, user_frame.wordText 7,
      sprintfD ((((user_frame.byte 4).toNat <<< 9 &&& 0xFF00) + (user_frame.byte 10).toNat : ℕ))] =
      some (listing [(user_frame.byte 5).toNat * 256 + (user_frame.byte 6).toNat,
        (user_frame.byte 7).toNat * 256 + (user_frame.byte 8).toNat, last]) := by
    rw [wordText_eq, wordText_eq, shifted_eq, ← hlast]
    exact (alarmText_values [_, _, last]).trans (if_pos hfits)
  rw [lampLeakageAlarm, if_neg (not_not.2 h), hcurrent, hset]
  refine (reported_iff leakageLayout ?_ hfits (Nat.succ_pos 24)).trans ?_
  · exact listing_fits user_frame (by simp [leakageLayout]) (by decide) 1
  · constructor
    · intro heq
      have hvalue : last = (user_frame.byte 9).toNat * 256 + (user_frame.byte 10).toNat := listing_three_inj heq
      omega
    · intro heq
      rw [hlast, heq]
      rfl

/-- the set values of a threshold alarm -/
def electricalSetValues (user_frame : AlarmFrame) : List ℕ := fieldValues user_frame electricalLayout.set 2

theorem electrical_iff (h : user_frame.buf.length = 14) :
    electricalLayout.Reported user_frame (lampElectricalParaOverThreAlarm user_frame record_type occur_time) ↔
      ((electricalSetValues user_frame).map fun n => (digits n).length).sum ≤ 18 := by
  have hcurrent : alarmText [user_frame.byteText 1] = some (listing (fieldValues user_frame [.byte] 1)) :=
    @alarmText_fields user_frame [.byte] (by simp) (by decide) 1
  have hreference : alarmText [user_frame.wordText 12] = some (listing (fieldValues user_frame [.word] 12)) := by
    rw [wordText_eq]
    exact @alarmText_fields user_frame [.word] (by simp) (by decide) 12
  have hset : alarmText [user_frame.byteText 2, user_frame.byteText 3, user_frame.wordText 4, user_frame.byteText 6,
      user_frame.wordText 7, user_frame.byteText 9, user_frame.wordText 10] =
      if (listing (electricalSetValues user_frame)).length < 25 then some (listing (electricalSetValues user_frame))
      else none := by
    rw [wordText_eq, wordText_eq, wordText_eq]
    exact alarmText_values (electricalSetValues user_frame)
  have hlen := length_listing (show electricalSetValues user_frame ≠ [] from List.cons_ne_nil _ _)
  rw [List.sum_map_add] at hlen
  have hcount : ((electricalSetValues user_frame).map fun _ => 1).sum = 7 := rfl
  rw [lampElectricalParaOverThreAlarm, if_neg (not_not.2 h), hcurrent, hreference, hset]
  by_cases hfits : (listing (electricalSetValues user_frame)).length < 25
  · rw [if_pos hfits]
    refine iff_of_true ((reported_iff electricalLayout ?_ hfits ?_).2 rfl) (by omega)
    · exact listing_fits user_frame (by simp [electricalLayout]) (by decide) 1
    · exact listing_fits user_frame (by simp [electricalLayout]) (by decide) 12
  · rw [if_neg hfits]
    refine iff_of_false ?_ (by omega)
    rintro ⟨r, hr, -⟩
    cases hr

theorem lightOn_reported (h : user_frame.buf.length = 17) :
    lightOnLayout.Reported user_frame (lampLightOnAbnormalAlarm user_frame record_type occur_time) := by
  have hcurrent : alarmText [user_frame.byteText 1, user_frame.wordText 2] =
      some (listing (fieldValues user_frame [.byte, .word] 1)) := by
    rw [wordText_eq]
    exact @alarmText_fields user_frame [.byte, .word] (by simp) (by decide) 1
  have hset : alarmText [user_frame.wordText 4, user_frame.byteText 6, user_frame.byteText 7, user_frame.wordText 8] =
      some (listing (fieldValues user_frame [.word, .byte, .byte, .word] 4)) := by
    rw [wordText_eq, wordText_eq]
    exact @alarmText_fields user_frame [.word, .byte, .byte, .word] (by simp) (by decide) 4
  have hreference : alarmText [user_frame.byteText 10, user_frame.wordText 11, user_frame.wordText 13,
      user_frame.wordText 15] = some (listing (fieldValues user_frame [.byte, .word, .word, .word] 10)) := by
    rw [wordText_eq, wordText_eq, wordText_eq]
    exact @alarmText_fields user_frame [.byte, .word, .word, .word] (by simp) (by decide) 10
  rw [lampLightOnAbnormalAlarm, if_neg (not_not.2 h), hcurrent, hset, hreference]
  refine (reported_iff lightOnLayout ?_ ?_ ?_).2 rfl
  · exact listing_fits user_frame (by simp [lightOnLayout]) (by decide) 1
  · exact @listing_fits user_frame [.word, .byte, .byte, .word] (by simp) (by decide) 4
  · exact listing_fits user_frame (by simp [lightOnLayout]) (by decide) 10

/-- the last digit is gone -/
theorem taskState_not_reported (h : 12 ≤ user_frame.buf.length) :
    ¬ taskStateLayout.Reported user_frame (lampTaskStateAbnormalAlarm user_frame record_type occur_time) := by
  rintro ⟨r, hr, hright⟩
  obtain ⟨values, hvalues⟩ : ∃ values, values = fieldValues user_frame taskStateLayout.reference 3 := ⟨_, rfl⟩
  have hreference : alarmText [user_frame.byteText 3, user_frame.byteText 4, user_frame.byteText 5,
      user_frame.wordText 6, user_frame.byteText 8, user_frame.byteText 9, user_frame.byteText 10] =
      if (listing values).length < 25 then some (listing values) else none := by
    rw [wordText_eq, hvalues]
    exact alarmText_values (fieldValues user_frame taskStateLayout.reference 3)
  have hcurrent : alarmText [user_frame.byteText 1, user_frame.byteText 2] =
      some (listing (fieldValues user_frame [.byte, .byte] 1)) :=
    @alarmText_fields user_frame [.byte, .byte] (by simp) (by decide) 1
  have hpos : 0 < (listing values).length := by
    have hlen := length_listing (show values ≠ [] from hvalues ▸ List.cons_ne_nil _ _)
    rw [hvalues] at hlen ⊢
    have hmany : 1 + 1 ≤ ((fieldValues user_frame taskStateLayout.reference 3).map fun n => (digits n).length + 1).sum :=
      Nat.add_le_add (Nat.succ_le_succ (Nat.zero_le _)) (Nat.le_add_right_of_le (Nat.succ_le_succ (Nat.zero_le _)))
    omega
  rw [lampTaskStateAbnormalAlarm, if_neg (Nat.not_lt.2 h), hcurrent, hreference] at hr
  by_cases hfits : (listing values).length < 25
  · rw [if_pos hfits] at hr
    cases hr
    have htext : (listing values).dropLast = listing values := hright.reference.trans (by rw [hvalues]; rfl)
    have hshort := congrArg List.length htext
    rw [List.length_dropLast] at hshort
    omega
  · rw [if_neg hfits] at hr
    cases hr

end Handlers

/-- **Alarms.** A leakage alarm is reported as it is sent exactly if twice its fifth byte is its tenth, modulo 256; one of
thresholds if its set values have 18 digits at most; one of a lamp that should be on always; and one of a task never. The
layouts of the first three take up the whole payload. -/
theorem alarm_texts_iff :
    (user_frame.buf.length = 11 → 1 + leakageLayout.bytes = user_frame.buf.length ∧
      (leakageLayout.Reported user_frame (lampLeakageAlarm user_frame record_type occur_time) ↔
        2 * (user_frame.byte 4).toNat % 256 = (user_frame.byte 9).toNat)) ∧
    (user_frame.buf.length = 14 → 1 + electricalLayout.bytes = user_frame.buf.length ∧
      (electricalLayout.Reported user_frame (lampElectricalParaOverThreAlarm user_frame record_type occur_time) ↔
        ((electricalSetValues user_frame).map fun n => (digits n).length).sum ≤ 18)) ∧
    (user_frame.buf.length = 17 → 1 + lightOnLayout.bytes = user_frame.buf.length ∧
      lightOnLayout.Reported user_frame (lampLightOnAbnormalAlarm user_frame record_type occur_time)) ∧
    (12 ≤ user_frame.buf.length →
      ¬ taskStateLayout.Reported user_frame (lampTaskStateAbnormalAlarm user_frame record_type occur_time)) :=
  ⟨fun h => ⟨h.symm, leakage_iff h⟩, fun h => ⟨h.symm, electrical_iff h⟩, fun h => ⟨h.symm, lightOn_reported h⟩,
    taskState_not_reported⟩

/-- a payload of one byte repeated -/
def filled (n : ℕ) (b : UInt8) : AlarmFrame := ⟨1, List.replicate n b⟩

/-- **Texts that are wrong.** A leakage of 1 everywhere shows 513 for 257; thresholds of 255 everywhere leave `buf`; the
state of a task of 1 everywhere ends in a comma. -/
theorem texts_wrong :
    ¬ leakageLayout.Reported (filled 11 1) (lampLeakageAlarm (filled 11 1) 1 []) ∧
    ¬ electricalLayout.Reported (filled 14 255) (lampElectricalParaOverThreAlarm (filled 14 255) 1 []) ∧
    ¬ taskStateLayout.Reported (filled 12 1) (lampTaskStateAbnormalAlarm (filled 12 1) 1 []) :=
  ⟨fun h => absurd ((leakage_iff rfl).1 h) (by decide), fun h => absurd ((electrical_iff rfl).1 h) (by decide),
    taskState_not_reported (by decide)⟩

end DataConcentrator.Lamp
