/-
The run mode over whole runs: messages and alarms that change it, parameter resets, and power cycles.

`ReadRunMode` and `WriteRunMode` are those of the configuration store. An alarm of a collector or a meter sets the run
mode to the byte its threshold names, or puts back the one it has saved; here that byte is part of the event.
- `restart_after_reset`: what `WriteRunMode` stores reads back as mode 0, which is none of the four;
- `runMode_iff`: the run mode survives restarts, and is always defined, exactly in the runs without a restart after a
  reset (and without an alarm that switches to an undefined mode).
-/
import DataConcentrator.Eeprom.NonInterference
import DataConcentrator.Lib.Tally

namespace DataConcentrator.Eeprom.RunMode

/-! ## The handlers -/

/-- `RUN_MODE_E` -/
def MODE_AUTO : UInt8 := 1
def MODE_MANUAL : UInt8 := 2
def MODE_TASK : UInt8 := 3
def MODE_STOP : UInt8 := 4

/-- one of the four modes -/
def Defined (mode : UInt8) : Prop := mode = MODE_AUTO ∨ mode = MODE_MANUAL ∨ mode = MODE_TASK ∨ mode = MODE_STOP

instance decidableDefined (mode : UInt8) : Decidable (Defined mode) := inferInstanceAs (Decidable (_ ∨ _))

def modeRec : Rec := .first .concentratorRunMode

def basicRec : Rec := .first .concentratorBasicConf

/-- the variable `RunMode` -/
def runMode (st : St) : UInt8 := (st.ram modeRec).headD 0

/-- `SetRunMode`, on the number in its text -/
def setRunMode (run_mode : UInt8) (st : St) : St :=
  if run_mode ≥ MODE_AUTO ∧ run_mode ≤ MODE_STOP then st.setRam modeRec [run_mode] else st

/-- `ResetConfigParameters`, on the first of its numbers -/
def resetConfigParameters (reset_type : UInt8) (st : St) : St :=
  if reset_type = 1 then writeRecord basicRec 1 true (writeRecord modeRec 1 true st)
  else if reset_type = 2 then writeRecord basicRec 1 true (writeRecord modeRec 1 true st)
  else st

/-- `RunMode` has its initial value when `ReadRunMode` runs -/
def restart (st : St) : St := readRunMode modeRec (st.setRam modeRec [ MODE_AUTO ])

/-! ## Runs -/

inductive Event where
  | setRunMode (run_mode : UInt8)
  | alarm (mode : UInt8)
  | resetConfigParameters (reset_type : UInt8)
  | restart

structure Sys where
  st : St
  -- `RunMode` after the last call of `WriteRunMode`
  given : Option UInt8
  -- a call of it has stored
  stored : Bool
  -- each restart so far has brought `given` back
  survived : Bool

/-- the record that `ReadRunMode` reads -/
def record (st : St) : List UInt8 := st.cat25xRead modeRec.readAdd modeRec.kind.len

/-- it passes the check of `ReadRunMode` -/
def Passes (buf : List UInt8) : Prop := buf.drop 1 = [(crc16 (buf.take 1)).1, (crc16 (buf.take 1)).2]

instance decidablePasses (buf : List UInt8) : Decidable (Passes buf) := inferInstanceAs (Decidable (_ = _))

def step (s : Sys) : Event → Option Sys
  | .setRunMode run_mode => some { s with st := setRunMode run_mode s.st }
  | .alarm mode => some { s with st := s.st.setRam modeRec [mode] }
  | .resetConfigParameters reset_type =>
    some { s with
      st := resetConfigParameters reset_type s.st
      given := if reset_type = 1 ∨ reset_type = 2 then some (runMode (writeRecord modeRec 1 true s.st)) else s.given
      stored := if reset_type = 1 ∨ reset_type = 2 then true else s.stored }
  | .restart =>
    let st := restart s.st
    some { s with
      st := st
      given := if Passes (record s.st) then s.given else some (runMode st)
      survived := s.survived && s.given.all (· == runMode st) }

/-- the globals before the first start, over any EEPROM -/
def firstStart (eeprom : ℕ → UInt8) : Sys :=
  { st := boot eeprom fun r => if r = modeRec then [ MODE_AUTO ] else List.replicate r.kind.len 0
    given := none
    stored := false
    survived := true }

/-- the run mode is defined, and each restart has brought it back -/
structure Good (s : Sys) : Prop where
  defined : Defined (runMode s.st)
  survived : s.survived = true

/-- the record of an EEPROM does not pass with an undefined mode -/
def Sound (eeprom : ℕ → UInt8) : Prop :=
  Passes (record (firstStart eeprom).st) → Defined ((record (firstStart eeprom).st).headD 0)

/-- alarms switch to defined modes, and nothing has been stored before a restart -/
def Harmless (eeprom : ℕ → UInt8) (s : Sys) : Event → Prop
  | .alarm mode => Defined mode
  | .restart => s.stored = false ∧ Sound eeprom
  | _ => True

/-! ## Reading and writing -/

theorem runMode_setRam (st : St) (mode : UInt8) : runMode (st.setRam modeRec [mode]) = mode := by
  rw [runMode, St.setRam_ram_same]
  rfl

theorem length_record (st : St) : (record st).length = 3 := ByteStore.length_read _ _ _

/-- what `ReadRunMode` makes of a record -/
theorem runMode_readRunMode (st : St) :
    runMode (readRunMode modeRec st) = if Passes (record st) then (record st).headD 0 else MODE_AUTO := by
  obtain ⟨a, b, c, hbuf⟩ : ∃ a b c, record st = [a, b, c] := List.length_eq_three.1 (length_record st)
  have hread : readRunMode modeRec st =
      if Passes (record st) then st.setRam modeRec ((record st).take 1) else writeRunMode modeRec 1 false st := rfl
  rw [hread]
  split_ifs with h
  · rw [hbuf]
    exact runMode_setRam st a
  · exact runMode_setRam st MODE_AUTO

theorem readRunMode_eeprom (st : St) : (readRunMode modeRec st).eeprom = st.eeprom := by
  have hread : readRunMode modeRec st =
      if Passes (record st) then st.setRam modeRec ((record st).take 1) else writeRunMode modeRec 1 false st := rfl
  rw [hread]
  split_ifs <;> rfl

/-- the record depends on the EEPROM only -/
theorem record_congr {s t : St} (h : s.eeprom = t.eeprom) : record s = record t := by
  rw [record, record, St.cat25xRead, St.cat25xRead, h]

/-- what `WriteRunMode` stores -/
def storedRecord : List UInt8 := [0, (crc16 [0]).1, (crc16 [0]).2]

theorem basicRec_ne : basicRec ≠ modeRec := by decide

/-- a writer leaves the other RAM copies alone; one resets the next record too -/
theorem writeGlobal_ram_of_ne {r r' : Rec} (h : r' ≠ r) (hk : r.kind ≠ .inputCollectorConf ∧ r.kind ≠ .lampFwState)
    (reset : ℕ) (we : Bool) (st : St) : (writeGlobal r reset we st).ram r' = st.ram r' := by
  have hreset : (applyReset r reset st).ram r' = st.ram r' := by
    rw [applyReset, resetRam, dif_neg (fun hc => hk.1 hc.1)]
    split_ifs with h1 h2
    · exact St.setRam_ram_of_ne st _ h
    · exact absurd h2.2 hk.2
    · rfl
  rw [writeGlobal]
  split_ifs
  · exact (St.setRam_ram_of_ne _ _ h).trans hreset
  · exact hreset

/-- the two records of a reset lie apart -/
theorem record_basic (st : St) (hlen : (st.ram basicRec).length = basicRec.kind.len) :
    record (writeRecord basicRec 1 true st) = record st ∧
    ((writeRecord basicRec 1 true st).ram basicRec).length = basicRec.kind.len ∧
    runMode (writeRecord basicRec 1 true st) = runMode st := by
  have hglobal : writeRecord basicRec 1 true st = writeGlobal basicRec 1 true st :=
    writeRecord_global (by decide) (by simp [Kind.byValue, basicRec, Rec.first]) 1 true st
  have hstores := writeGlobal_stores basicRec 1 st
  have hreset := length_applyReset basicRec 1 st hlen
  have hseal := (length_sealRecord (hreset ▸ len_ge_two basicRec.kind)).trans hreset
  rw [hglobal]
  refine ⟨?_, ?_, ?_⟩
  · rw [record, record, St.cat25xRead, St.cat25xRead, hstores.eeprom]
    refine ByteStore.read_write_frame _ _ _ _ _ ?_
    rw [hseal]
    decide
  · rw [← hseal]
    exact congrArg List.length (St.setRam_ram_same (applyReset basicRec 1 st) basicRec _)
  · rw [runMode, runMode, writeGlobal_ram_of_ne basicRec_ne.symm (by decide)]

/-- after `WriteRunMode(1,1)` -/
theorem record_writeRunMode (st : St) :
    record (writeRecord modeRec 1 true st) = storedRecord ∧ runMode (writeRecord modeRec 1 true st) = MODE_AUTO ∧
    (writeRecord modeRec 1 true st).ram basicRec = st.ram basicRec := by
  refine ⟨?_, ?_, ?_⟩
  · rw [record, St.cat25xRead, (writeRunMode_stores rfl 1 st).eeprom]
    exact ByteStore.read_write_same st.eeprom modeRec.writeAdd storedRecord
  · exact runMode_setRam st MODE_AUTO
  · exact St.setRam_ram_of_ne st [ MODE_AUTO ] basicRec_ne

/-- **The mode is not stored.** After a reset a restart brings up mode 0. -/
theorem restart_after_reset (st : St) (h : record st = storedRecord) : runMode (restart st) = 0 := by
  have hrec : record (st.setRam modeRec [ MODE_AUTO ]) = storedRecord := h
  rw [restart, runMode_readRunMode, hrec]
  rfl

/-! ## The invariant -/

/-- what the EEPROM holds, and what `WriteRunMode` was last called for -/
structure Inv (eeprom : ℕ → UInt8) (s : Sys) : Prop where
  sized : (s.st.ram basicRec).length = basicRec.kind.len
  after : s.stored = true → record s.st = storedRecord ∧ s.given = some MODE_AUTO
  before : s.stored = false → record s.st = record (firstStart eeprom).st ∧
    (s.given = none ∨ s.given = some MODE_AUTO ∧ ¬ Passes (record s.st))

theorem inv_firstStart (eeprom : ℕ → UInt8) : Inv eeprom (firstStart eeprom) := by
  refine ⟨?_, ?_, ?_⟩
  · exact List.length_replicate
  · exact fun h => absurd h Bool.false_ne_true
  · exact fun _ => ⟨rfl, Or.inl rfl⟩

/-- RAM alone changes -/
theorem Inv.ram {eeprom : ℕ → UInt8} {s : Sys} (h : Inv eeprom s) (mode : UInt8) :
    Inv eeprom { s with st := s.st.setRam modeRec [mode] } := by
  refine ⟨?_, h.after, h.before⟩
  have hram : (s.st.setRam modeRec [mode]).ram basicRec = s.st.ram basicRec := St.setRam_ram_of_ne _ _ basicRec_ne
  exact (congrArg List.length hram).trans h.sized

theorem Inv.reset {eeprom : ℕ → UInt8} {s : Sys} (h : Inv eeprom s) (survived : Bool) :
    Inv eeprom ⟨writeRecord basicRec 1 true (writeRecord modeRec 1 true s.st),
      some (runMode (writeRecord modeRec 1 true s.st)), true, survived⟩ := by
  obtain ⟨hrec, hmode, hram⟩ := record_writeRunMode s.st
  obtain ⟨hrec', hlen, -⟩ := record_basic (writeRecord modeRec 1 true s.st) (by rw [hram]; exact h.sized)
  refine ⟨hlen, fun _ => ⟨hrec'.trans hrec, congrArg some hmode⟩, fun hno => absurd hno (by simp)⟩

/-- both types that are known do the same -/
theorem resetConfigParameters_eq (reset_type : UInt8) (st : St) :
    resetConfigParameters reset_type st = if reset_type = 1 ∨ reset_type = 2
      then writeRecord basicRec 1 true (writeRecord modeRec 1 true st) else st := by
  rw [resetConfigParameters]
  split_ifs with h1 h2 h2 <;> simp_all

/-- a restart leaves the EEPROM and the basic configuration alone -/
theorem restart_frame (st : St) :
    record (restart st) = record st ∧ (restart st).ram basicRec = st.ram basicRec := by
  refine ⟨record_congr (readRunMode_eeprom _), ?_⟩
  have hread : restart st = if Passes (record st)
      then (st.setRam modeRec [ MODE_AUTO ]).setRam modeRec ((record st).take 1)
      else writeRunMode modeRec 1 false (st.setRam modeRec [ MODE_AUTO ]) := rfl
  rw [hread]
  split_ifs
  · exact (St.setRam_ram_of_ne _ _ basicRec_ne).trans (St.setRam_ram_of_ne _ _ basicRec_ne)
  · exact (St.setRam_ram_of_ne _ [ MODE_AUTO ] basicRec_ne).trans (St.setRam_ram_of_ne _ _ basicRec_ne)

theorem runMode_restart (st : St) :
    runMode (restart st) = if Passes (record st) then (record st).headD 0 else MODE_AUTO :=
  runMode_readRunMode _

theorem passes_storedRecord : Passes storedRecord := rfl

theorem Inv.step {eeprom : ℕ → UInt8} {s t : Sys} (h : Inv eeprom s) {e : Event} (hstep : step s e = some t) :
    Inv eeprom t := by
  cases e with
  | setRunMode run_mode =>
    cases hstep
    rw [setRunMode]
    split_ifs
    · exact h.ram run_mode
    · exact h
  | alarm mode =>
    cases hstep
    exact h.ram mode
  | resetConfigParameters reset_type =>
    cases hstep
    simp only [resetConfigParameters_eq]
    by_cases ht : reset_type = 1 ∨ reset_type = 2
    · simp only [if_pos ht]
      exact h.reset s.survived
    · simp only [if_neg ht]
      exact h
  | restart =>
    cases hstep
    obtain ⟨hrec, hram⟩ := restart_frame s.st
    refine ⟨(congrArg List.length hram).trans h.sized, fun hs => ?_, fun hs => ?_⟩
    · obtain ⟨hafter, hgiven⟩ := h.after hs
      rw [hafter, if_pos passes_storedRecord]
      exact ⟨hrec.trans hafter, hgiven⟩
    · obtain ⟨hbefore, hgiven⟩ := h.before hs
      refine ⟨hrec.trans hbefore, ?_⟩
      simp only [hrec]
      by_cases hpass : Passes (record s.st)
      · rw [if_pos hpass]
        exact hgiven
      · rw [if_neg hpass, runMode_restart, if_neg hpass]
        exact Or.inr ⟨rfl, hpass⟩

/-! ## Which runs -/

theorem defined_of_range {mode : UInt8} (h : mode ≥ MODE_AUTO ∧ mode ≤ MODE_STOP) : Defined mode := by
  simp only [ge_iff_le, UInt8.le_iff_toNat_le, MODE_AUTO, MODE_STOP, UInt8.reduceToNat] at h
  simp only [Defined, ← UInt8.toNat_inj, MODE_AUTO, MODE_MANUAL, MODE_TASK, MODE_STOP, UInt8.reduceToNat]
  omega

/-- a step keeps the mode exactly when it is harmless -/
theorem step_good_iff {eeprom : ℕ → UInt8} {s : Sys} (h : Inv eeprom s) (hs : Good s) (e : Event) :
    (∃ t, step s e = some t ∧ Good t) ↔ Harmless eeprom s e := by
  cases e with
  | setRunMode run_mode =>
    refine iff_of_true ⟨_, rfl, ?_, hs.survived⟩ trivial
    show Defined (runMode (setRunMode run_mode s.st))
    rw [setRunMode]
    split_ifs with hm
    · rw [runMode_setRam]
      exact defined_of_range hm
    · exact hs.defined
  | alarm mode =>
    constructor
    · rintro ⟨t, ht, hgood⟩
      cases ht
      exact runMode_setRam s.st mode ▸ hgood.defined
    · intro hmode
      exact ⟨_, rfl, (runMode_setRam s.st mode).symm ▸ hmode, hs.survived⟩
  | resetConfigParameters reset_type =>
    refine iff_of_true ⟨_, rfl, ?_, hs.survived⟩ trivial
    show Defined (runMode (resetConfigParameters reset_type s.st))
    rw [resetConfigParameters_eq]
    obtain ⟨_, hmode, hram⟩ := record_writeRunMode s.st
    split_ifs
    · rw [(record_basic _ (by rw [hram]; exact h.sized)).2.2, hmode]
      exact Or.inl rfl
    · exact hs.defined
  | restart =>
    have hmode := runMode_restart s.st
    constructor
    · rintro ⟨t, ht, hgood⟩
      cases ht
      have hdefined : Defined (runMode (restart s.st)) := hgood.defined
      cases hstored : s.stored with
      | true =>
        rw [restart_after_reset s.st (h.after hstored).1] at hdefined
        exact absurd hdefined (by decide)
      | false =>
        refine ⟨hstored, fun hpass => ?_⟩
        rw [← (h.before hstored).1] at hpass ⊢
        rwa [hmode, if_pos hpass] at hdefined
    · rintro ⟨hstored, hsound⟩
      obtain ⟨hbefore, hgiven⟩ := h.before hstored
      rw [Sound, ← hbefore] at hsound
      refine ⟨_, rfl, ?_, ?_⟩
      · show Defined (runMode (restart s.st))
        rw [hmode]
        split_ifs with hpass
        · exact hsound hpass
        · exact Or.inl rfl
      · show (s.survived && s.given.all (· == runMode (restart s.st))) = true
        rw [hs.survived, Bool.true_and]
        rcases hgiven with hnone | ⟨hsome, hpass⟩
        · rw [hnone]
          rfl
        · rw [hsome, hmode, if_neg hpass]
          rfl

/-- **Runs of the mode.** -/
theorem runMode_iff (eeprom : ℕ → UInt8) (events : List Event) :
    Tally.Throughout step Good (firstStart eeprom) events ↔
      Tally.Along step (Harmless eeprom) (firstStart eeprom) events :=
  Tally.throughout_iff_along (D := fun _ => True) (fun _ _ _ _ hinv _ hstep _ => hinv.step hstep)
    (fun _ e _ hinv hgood => step_good_iff hinv hgood e) events (fun _ _ => trivial) _ (inv_firstStart eeprom)
    ⟨Or.inl rfl, rfl⟩

/-- an EEPROM as it comes, erased -/
def erased : ℕ → UInt8 := fun _ => 0xFF

/-- a restart after a reset: `WriteRunMode` has given the automatic mode, and the device runs in mode 0 -/
theorem mode_lost :
    (([.resetConfigParameters 1, .restart] : List Event).foldlM step (firstStart erased)).map
      (fun s => (s.given, runMode s.st)) = some (some MODE_AUTO, 0) ∧
    ¬ Tally.Throughout step Good (firstStart erased) [.resetConfigParameters 1, .restart] := by
  obtain ⟨hrec, hmode, hram⟩ := record_writeRunMode (firstStart erased).st
  have hstored := (record_basic (writeRecord modeRec 1 true (firstStart erased).st) (by
    rw [hram]
    exact (inv_firstStart erased).sized)).1.trans hrec
  have hzero := restart_after_reset _ hstored
  have hgiven : (([.resetConfigParameters 1, .restart] : List Event).foldlM step (firstStart erased)).map
      (fun s => (s.given, runMode s.st)) = some (some MODE_AUTO, 0) := by
    simp only [List.foldlM_cons, List.foldlM_nil, step, Option.bind_eq_bind, Option.bind_some, Option.pure_def,
      Option.map_some, resetConfigParameters, if_true, true_or, hstored, passes_storedRecord, hzero, hmode]
  refine ⟨hgiven, fun h => ?_⟩
  obtain ⟨t, ht, hgood⟩ := Tally.throughout_last step _ _ h
  rw [ht, Option.map_some, Option.some.injEq, Prod.mk.injEq] at hgiven
  have hdefined := hgood.defined
  rw [hgiven.2] at hdefined
  exact absurd hdefined (by decide)

end DataConcentrator.Eeprom.RunMode
