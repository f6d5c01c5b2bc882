/-
The handlers of appointments, which the relays and the lamps have alike.

- `setAppointments`, `getAppointments`: the setter and the getter, up to the size of the getter's buffer; the setter's
  answer is left out, and so are the EEPROM copies beyond the records themselves;
- `setRound_printed`: a parameter with a printed text stores an equal record under its number;
- `appointments_roundTrip`: the parameters of an answer, sent back with anything behind them, store equal records.
-/
import DataConcentrator.Lib.Batching
import DataConcentrator.Protocol.ServerFrame
import DataConcentrator.Scene.Text

namespace DataConcentrator.Scene

open Protocol (Parameter ServerFrameStruct)

/-! ## The handlers -/

/-- `MAX_RELAY_MODULE_APPOINTMENT_NUM` and `MAX_LAMP_APPOINTMENT_NUM` -/
def MAX_APPOINTMENT_NUM : ℕ := 10

/-- `RelayAppointmentNum` or `LampAppointmentNum`, and the records in the EEPROM whose checksums are right -/
structure AppointmentStore where
  number : ℕ
  appointment : ℕ → Option SenceConfig

/-- `WriteRelayAppointment` or `WriteLampAppointment` for a record with its checksum -/
def AppointmentStore.write (st : AppointmentStore) (i : ℕ) (c : SenceConfig) : AppointmentStore :=
  { st with appointment := fun k => if k = i then some c else st.appointment k }

/-- one round of the setter; `tmp` keeps its bytes from one parameter to the next -/
def setRound (s : ServerFrameStruct) (r : AppointmentStore × List UInt8) (j : ℕ) :
    Option (AppointmentStore × List UInt8) :=
  (s.paraAt j).bind fun p =>
    if p.len ≠ 0 then (readScene 16 r.2 p.value).map fun t => (r.1.write j t.1, t.2) else some r

/-- the setter; `para_num` is a `u8`, `tmp` what lies on the stack -/
def setAppointments (tmp : List UInt8) (st : AppointmentStore) (s : ServerFrameStruct) : Option AppointmentStore :=
  let para_num := min (s.para_num % 256) MAX_APPOINTMENT_NUM
  ((List.range para_num).foldlM (setRound s) ({ st with number := para_num }, tmp)).map Prod.fst

/-- `para[i]` of the answer, with a `buf` of `size` bytes; without a valid record its type is left as the heap has it -/
def appointmentParameter (size : ℕ) (heap : ℕ → UInt16) (st : AppointmentStore) (i : ℕ) : Option Parameter :=
  match st.appointment i with
  | some c => (sceneText size c).map fun buf => ⟨0x4101 + UInt16.ofNat i, buf.length, buf ++ [0]⟩
  | none => some ⟨heap i, 0, [0]⟩

/-- the parameters the getter answers with -/
def getAppointments (size : ℕ) (heap : ℕ → UInt16) (st : AppointmentStore) : Option (List Parameter) :=
  (List.range st.number).mapM (appointmentParameter size heap st)

/-! ## The round trip -/

/-- what the readers of the number and the setter keep, with records of ranges of two digits -/
structure AppointmentStore.Valid (st : AppointmentStore) : Prop where
  number : st.number ≤ MAX_APPOINTMENT_NUM
  records : ∀ i < st.number, ∀ c, st.appointment i = some c → c.Valid

/-- a message whose parameters are those of an answer, of any types and with anything behind their values -/
structure SentBack (answer : List Parameter) (s : ServerFrameStruct) : Prop where
  para_num : s.para_num = answer.length
  para : ∀ i p, answer[i]? = some p → ∃ type rest, s.paraAt i = some ⟨type, p.len, p.value ++ rest⟩

section RoundTrip

variable {st : AppointmentStore} {size : ℕ}

theorem line_ne_nil (c : SenceConfig) : (line c).length ≠ 0 := by
  rw [line, List.length_append, List.length_cons]
  omega

/-- a valid record is printed -/
theorem appointmentParameter_valid (hsize : 217 < size) (heap : ℕ → UInt16) {i : ℕ} {c : SenceConfig}
    (h : st.appointment i = some c)
    (hc : c.Valid) : appointmentParameter size heap st i =
      some ⟨0x4101 + UInt16.ofNat i, (line c).length, line c ++ [0]⟩ := by
  have hlen := length_line_le hc
  rw [appointmentParameter, h]
  simp only
  rw [sceneText_eq (by omega), if_pos (by omega), Option.map_some]

/-- **One parameter** with a printed text stores an equal record, whatever was stored and whatever `tmp` holds. -/
theorem setRound_printed {s : ServerFrameStruct} {j : ℕ} {c : SenceConfig} (hc : c.Valid) {type : UInt16}
    {rest : List UInt8} (hp : s.paraAt j = some ⟨type, (line c).length, line c ++ [0] ++ rest⟩)
    (r : AppointmentStore × List UInt8) :
    ∃ c' tmp', setRound s r j = some (r.1.write j c', tmp') ∧ Same c c' := by
  obtain ⟨c', tmp', hread, hsame⟩ := readScene_line hc (by decide : 8 < 16) r.2 rest
  refine ⟨c', tmp', ?_, hsame⟩
  have hvalue : line c ++ [0] ++ rest = line c ++ 0 :: rest := by simp
  rw [setRound, hp, Option.bind_some, if_pos (line_ne_nil c), hvalue, hread]
  rfl

/-- the records below `n` are those of `st`, where it has any -/
def Restored (st st' : AppointmentStore) (n : ℕ) : Prop :=
  ∀ i < n, ∀ c, st.appointment i = some c → ∃ c', st'.appointment i = some c' ∧ Same c c'

/-- the answer has a parameter for every number -/
theorem parameter_of_answer {heap : ℕ → UInt16} {answer : List Parameter}
    (h : getAppointments size heap st = some answer) :
    answer.length = st.number ∧ ∀ i < st.number, ∃ p, answer[i]? = some p ∧ appointmentParameter size heap st i = some p :=
  Batching.mapM_range h

theorem AppointmentStore.Valid.answered (hst : st.Valid) (hsize : 217 < size) (heap : ℕ → UInt16) :
    ∃ answer, getAppointments size heap st = some answer := by
  refine Batching.mapM_isSome fun i hi => ?_
  cases hrecord : st.appointment i with
  | none =>
    rw [appointmentParameter, hrecord]
    rfl
  | some c =>
    rw [appointmentParameter_valid hsize heap hrecord (hst.records i (List.mem_range.1 hi) c hrecord)]
    rfl

theorem Restored.write {st' : AppointmentStore} {n : ℕ} (h : Restored st st' n) {c : SenceConfig}
    (hn : ∀ c₀, st.appointment n = some c₀ → Same c₀ c) : Restored st (st'.write n c) (n + 1) := by
  intro i hi c₀ hc₀
  by_cases heq : i = n
  · rw [heq] at hc₀
    exact ⟨c, if_pos heq, hn c₀ hc₀⟩
  · obtain ⟨c', hc', hsame⟩ := h i (by omega) c₀ hc₀
    exact ⟨c', (if_neg heq).trans hc', hsame⟩

/-- the rounds up to `n` -/
theorem setRounds_printed (hst : st.Valid) (hsize : 217 < size) {heap : ℕ → UInt16} {answer : List Parameter}
    (hanswer : getAppointments size heap st = some answer) {s : ServerFrameStruct} (hs : SentBack answer s)
    (r : AppointmentStore × List UInt8) (n : ℕ) (hn : n ≤ st.number) :
    ∃ r', (List.range n).foldlM (setRound s) r = some r' ∧ r'.1.number = r.1.number ∧ Restored st r'.1 n := by
  induction n with
  | zero => exact ⟨r, rfl, rfl, fun i hi => absurd hi (Nat.not_lt_zero i)⟩
  | succ n ih =>
    obtain ⟨r', hrun, hnumber, hrestored⟩ := ih (by omega)
    obtain ⟨p, hp, hprint⟩ := (parameter_of_answer hanswer).2 n (by omega)
    obtain ⟨type, rest, hpara⟩ := hs.para n p hp
    have hlast : ∀ r'', setRound s r' n = some r'' → (List.range (n + 1)).foldlM (setRound s) r = some r'' :=
      fun r'' hr'' => (CLoop.foldlM_range_succ hrun).trans hr''
    cases hrecord : st.appointment n with
    | none =>
      -- an empty text is passed over
      rw [appointmentParameter, hrecord] at hprint
      obtain rfl := Option.some.inj hprint
      refine ⟨r', hlast r' ?_, hnumber, fun i hi c hc => hrestored i ?_ c hc⟩
      · rw [setRound, hpara]
        rfl
      · rcases Nat.lt_succ_iff_lt_or_eq.1 hi with hi | rfl
        · exact hi
        · rw [hrecord] at hc
          cases hc
    | some c =>
      have hc := hst.records n (by omega) c hrecord
      rw [appointmentParameter_valid hsize heap hrecord hc] at hprint
      obtain rfl := Option.some.inj hprint
      obtain ⟨c', tmp', hround, hsame⟩ := setRound_printed hc hpara r'
      refine ⟨(r'.1.write n c', tmp'), hlast _ hround, hnumber, hrestored.write fun c₀ hc₀ => ?_⟩
      rw [hrecord] at hc₀
      rwa [← Option.some.inj hc₀]

/-- **Appointments.** What a getter prints, sent back in a message, is stored as equal records. -/
theorem appointments_roundTrip (hst : st.Valid) (hsize : 217 < size) (heap : ℕ → UInt16) :
    ∃ answer, getAppointments size heap st = some answer ∧
      ∀ s, SentBack answer s → ∀ (tmp : List UInt8) (st₀ : AppointmentStore),
        ∃ st', setAppointments tmp st₀ s = some st' ∧ st'.number = st.number ∧ Restored st st' st.number := by
  obtain ⟨answer, hanswer⟩ := hst.answered hsize heap
  refine ⟨answer, hanswer, fun s hs tmp st₀ => ?_⟩
  have hnumber := hst.number
  have hpara_num : min (s.para_num % 256) MAX_APPOINTMENT_NUM = st.number := by
    have hbyte : st.number < 256 := lt_of_le_of_lt hnumber (by decide)
    rw [hs.para_num, (parameter_of_answer hanswer).1, Nat.mod_eq_of_lt hbyte, Nat.min_eq_left hnumber]
  obtain ⟨r', hrun, hkept, hrestored⟩ :=
    setRounds_printed hst hsize hanswer hs ({ st₀ with number := st.number }, tmp) st.number le_rfl
  refine ⟨r'.1, ?_, hkept, hrestored⟩
  rw [setAppointments, hpara_num, hrun]
  rfl

end RoundTrip

end DataConcentrator.Scene
