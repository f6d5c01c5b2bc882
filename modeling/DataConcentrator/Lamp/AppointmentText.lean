/-
The appointments of the lamps as texts: `LampGetLampAppointment` prints those the concentrator stores,
`LampSetLampAppointment` reads them, and `PlcGetLampAppointment` prints one a lamp reports.

- `lampAppointment_roundTrip`: stored records of two-digit fields come back from their texts;
- `plcGetLampAppointment_eq`: what is reported is the record behind the payload, `(LampSenceConfig_S *)buf + 1` being
  one whole record further on;
- `lampTexts_never`: so no record is reported as it was received, whatever the memory holds.
-/
import DataConcentrator.Plc.BottomFrame
import DataConcentrator.Scene.Appointments

namespace DataConcentrator.Lamp

open Plc (BottomFrame)
open Protocol (Parameter ServerFrameStruct)
open Relay (TimeRange)
open Scene (SenceConfig AppointmentStore SentBack Restored sceneText)

/-! ## The stored records -/

def lampSetLampAppointment (tmp : List UInt8) (st : AppointmentStore) (s : ServerFrameStruct) :
    Option AppointmentStore := Scene.setAppointments tmp st s

/-- `char buf[220]` -/
def lampGetLampAppointment (heap : ℕ → UInt16) (st : AppointmentStore) : Option (List Parameter) :=
  Scene.getAppointments 220 heap st

/-- **Appointments of lamps.** What `LampGetLampAppointment` prints, sent back in a message, is stored as equal
records. -/
theorem lampAppointment_roundTrip {st : AppointmentStore} (hst : st.Valid) (heap : ℕ → UInt16) :
    ∃ answer, lampGetLampAppointment heap st = some answer ∧
      ∀ s, SentBack answer s → ∀ (tmp : List UInt8) (st₀ : AppointmentStore),
        ∃ st', lampSetLampAppointment tmp st₀ s = some st' ∧ st'.number = st.number ∧ Restored st st' st.number :=
  Scene.appointments_roundTrip hst (by decide) heap

/-! ## The reported record -/

/-- `sizeof(LampSenceConfig_S)` -/
def senceConfigSize : ℕ := 95

/-- the range in memory at `a` -/
def rangeAt (mem : ℕ → UInt8) (a : ℕ) : TimeRange :=
  ⟨mem a, mem (a + 1), mem (a + 2), mem (a + 3), mem (a + 4), mem (a + 5), mem (a + 6), mem (a + 7), mem (a + 8)⟩

/-- the record in memory at `a` -/
def senceConfigAt (mem : ℕ → UInt8) (a : ℕ) : SenceConfig :=
  ⟨mem a, mem (a + 1), mem (a + 2), fun k => rangeAt mem (a + 3 + 9 * k)⟩

theorem senceConfigAt_add (mem : ℕ → UInt8) (n a : ℕ) :
    senceConfigAt mem (n + a) = senceConfigAt (fun i => mem (n + i)) a := by
  simp only [senceConfigAt, rangeAt, Nat.add_assoc]

/-- the memory from `user_frame->buf` on -/
def payloadMemory (user_frame : BottomFrame) (behind : ℕ → UInt8) (i : ℕ) : UInt8 :=
  if i < user_frame.len then user_frame.buf.getD i 0 else behind (i - user_frame.len)

def DEVICE_REQUEST_UP : UInt8 := 0x03

/-- the report, `some none` for a payload of another size; `start` is what `InitServerFrameStruct` leaves -/
def plcGetLampAppointment (start : ServerFrameStruct) (user_frame : BottomFrame) (behind : ℕ → UInt8) :
    Option (Option ServerFrameStruct) :=
  if user_frame.len ≠ senceConfigSize then some none
  else (sceneText 256 (senceConfigAt (payloadMemory user_frame behind) (0 + senceConfigSize))).map fun buf =>
    some { start with
      msg_type := DEVICE_REQUEST_UP
      msg_len := 10
      err_code := 0
      msg_id := 0x0100 + user_frame.cmd_code.toUInt16
      para_num := 1
      para := [some ⟨0x4101, buf.length, buf ++ [0]⟩] }

/-- a payload that holds a record -/
structure HoldsRecord (user_frame : BottomFrame) (c : SenceConfig) : Prop where
  len : user_frame.len = senceConfigSize
  group_id : (senceConfigAt (user_frame.buf.getD · 0) 0).group_id = c.group_id
  priority : (senceConfigAt (user_frame.buf.getD · 0) 0).priority = c.priority
  time_range_num : (senceConfigAt (user_frame.buf.getD · 0) 0).time_range_num = c.time_range_num
  range : ∀ k < Scene.MAX_APPOINTMENT_TIME_RANGE_NUM, (senceConfigAt (user_frame.buf.getD · 0) 0).range k = c.range k

/-- **What is reported** is what lies behind the payload. -/
theorem plcGetLampAppointment_eq {user_frame : BottomFrame} (hlen : user_frame.len = senceConfigSize)
    (start : ServerFrameStruct) (behind : ℕ → UInt8) :
    (plcGetLampAppointment start user_frame behind).map (Option.map fun report => report.paraAt 0) =
      (sceneText 256 (senceConfigAt behind 0)).map fun buf => some (some ⟨0x4101, buf.length, buf ++ [0]⟩) := by
  have hbehind : senceConfigAt (payloadMemory user_frame behind) (0 + senceConfigSize) = senceConfigAt behind 0 := by
    have hmem : (fun i => payloadMemory user_frame behind (senceConfigSize + i)) = behind := by
      funext i
      rw [payloadMemory, hlen, if_neg (by omega), Nat.add_sub_cancel_left]
    rw [Nat.add_comm 0, senceConfigAt_add, hmem]
  rw [plcGetLampAppointment, if_neg (not_not.2 hlen), hbehind, Option.map_map]
  rfl

/-! ## The two printers -/

/-- one record, at index 0 -/
def oneScene (c : SenceConfig) : AppointmentStore := ⟨1, fun i => if i = 0 then some c else none⟩

/-- a payload with a record is reported with the text that is printed for the record when it is stored, whatever lies
behind the payload, and that text sent back stores the record -/
def TextsAgree (c : SenceConfig) : Prop :=
  ∃ p, lampGetLampAppointment (fun _ => 0) (oneScene c) = some [p] ∧
    (∀ user_frame, HoldsRecord user_frame c → ∀ (behind : ℕ → UInt8) (start : ServerFrameStruct), ∃ report q,
      plcGetLampAppointment start user_frame behind = some (some report) ∧ report.paraAt 0 = some q ∧ q.value = p.value) ∧
    ∀ s, SentBack [p] s → ∀ (tmp : List UInt8) (st₀ : AppointmentStore), ∃ st' c',
      lampSetLampAppointment tmp st₀ s = some st' ∧ st'.appointment 0 = some c' ∧ Scene.Same c c'

def rangeBytes (r : TimeRange) : List UInt8 :=
  [r.s_month, r.s_date, r.s_hour, r.s_minute, r.e_month, r.e_date, r.e_hour, r.e_minute, r.week_enable]

/-- a record in a payload, with a checksum of zero -/
def senceConfigBytes (c : SenceConfig) : List UInt8 :=
  [c.group_id, c.priority, c.time_range_num] ++
    (List.range Scene.MAX_APPOINTMENT_TIME_RANGE_NUM).flatMap (fun k => rangeBytes (c.range k)) ++ [0, 0]

theorem length_senceConfigBytes (c : SenceConfig) : (senceConfigBytes c).length = senceConfigSize := rfl

/-- a lamp's answer with a record -/
def recordFrame (c : SenceConfig) : BottomFrame where
  type := 2
  address := 10
  cmd_code := 0xD4
  group_num := 0
  group_id := fun _ => 0
  wait_ack := 1
  resp_ack := 1
  len := senceConfigSize
  buf := senceConfigBytes c
  groups := Nat.zero_le _
  holds := length_senceConfigBytes c

theorem recordFrame_holds (c : SenceConfig) : HoldsRecord (recordFrame c) c where
  len := rfl
  group_id := rfl
  priority := rfl
  time_range_num := rfl
  range := by
    intro k hk
    have hk10 : k < 10 := hk
    interval_cases k <;> rfl

/-- two printed records with the same text are of one group -/
theorem group_of_line {c c' : SenceConfig} (h : Scene.line c = Scene.line c') : c.group_id = c'.group_id := by
  have htake : ∀ c : SenceConfig, (Scene.line c).takeWhile (fun b => !isComma b) = sprintfD c.group_id.toNat := by
    intro c
    refine TextScan.takeWhile_upTo (by decide) fun x hx => ?_
    cases hx' : isComma x with
    | false => rfl
    | true => exact absurd (isComma_separates x hx') (plain_sprintfD _ x hx)
  have hgroup : sprintfD c.group_id.toNat = sprintfD c'.group_id.toNat := by rw [← htake c, ← htake c', h]
  rw [← u8Of_sprintfD c.group_id, ← u8Of_sprintfD c'.group_id, hgroup]

/-- what lies behind: a record of the next group, without ranges -/
def nextGroup (c : SenceConfig) (i : ℕ) : UInt8 := if i = 0 then c.group_id + 1 else 0

/-- what is stored is printed as it is -/
theorem lampGet_value {c : SenceConfig} {p : Parameter}
    (h : lampGetLampAppointment (fun _ => 0) (oneScene c) = some [p]) : p.value = Scene.line c ++ [0] := by
  have hone := Batching.forall₂_of_mapM h
  rw [show (oneScene c).number = 1 from rfl, List.range_one, List.forall₂_cons] at hone
  have hprint : (sceneText 220 c).map (fun buf => (⟨0x4101 + UInt16.ofNat 0, buf.length, buf ++ [0]⟩ : Parameter)) =
    some p := hone.1
  rw [Scene.sceneText_eq (by decide)] at hprint
  split_ifs at hprint
  · rw [← Option.some.inj hprint]
  · cases hprint

/-- what is reported is printed from behind the payload -/
theorem plcGet_value {user_frame : BottomFrame} (hlen : user_frame.len = senceConfigSize) {start report : ServerFrameStruct}
    {behind : ℕ → UInt8} (h : plcGetLampAppointment start user_frame behind = some (some report)) {q : Parameter}
    (hq : report.paraAt 0 = some q) : q.value = Scene.line (senceConfigAt behind 0) ++ [0] := by
  have hprint := plcGetLampAppointment_eq hlen start behind
  rw [h, Scene.sceneText_eq (by decide), Option.map_some, Option.map_some, hq] at hprint
  split_ifs at hprint
  · rw [Option.some.inj (Option.some.inj (Option.some.inj hprint))]
  · cases hprint

/-- **A record is not reported as it is stored**: what the memory behind it holds is reported. -/
theorem lampTexts_never (c : SenceConfig) : ¬ TextsAgree c := by
  rintro ⟨p, hget, hreport, -⟩
  obtain ⟨report, q, hplc, hq, hvalue⟩ := hreport (recordFrame c) (recordFrame_holds c) (nextGroup c) .zero
  rw [lampGet_value hget, plcGet_value rfl hplc hq] at hvalue
  have hgroup : c.group_id + 1 = c.group_id := group_of_line (List.append_cancel_right hvalue)
  have hnat := congrArg UInt8.toNat hgroup
  rw [UInt8.toNat_add] at hnat
  have hone : (1 : UInt8).toNat = 1 := rfl
  have hbyte := c.group_id.toNat_lt
  omega

/-- a record of one range, whose report is of group 2 and has no range -/
theorem lampTexts_differ :
    (⟨1, 1, 1, fun _ => ⟨6, 1, 20, 0, 6, 30, 4, 0, 0x7F⟩⟩ : SenceConfig).Valid ∧
      ¬ TextsAgree ⟨1, 1, 1, fun _ => ⟨6, 1, 20, 0, 6, 30, 4, 0, 0x7F⟩⟩ := by
  refine ⟨⟨by decide, by decide, fun k _ => ?_⟩, ?_⟩
  · change ∀ b ∈ ([6, 1, 20, 0, 6, 30, 4, 0] : List UInt8), b ≤ 99
    exact List.all_iff_forall_prop.1 (by decide)
  · rintro ⟨p, hget, hreport, -⟩
    obtain ⟨report, q, hplc, hq, hvalue⟩ := hreport _ (recordFrame_holds _) (nextGroup ⟨1, 1, 1, fun _ => Scene.zeroRange⟩)
      .zero
    rw [lampGet_value hget, plcGet_value rfl hplc hq] at hvalue
    have hgroup := group_of_line (List.append_cancel_right hvalue)
    exact absurd hgroup (by decide)

end DataConcentrator.Lamp
