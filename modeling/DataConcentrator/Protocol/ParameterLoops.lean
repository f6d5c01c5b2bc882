/-
The loops over the parameters of a frame structure, and the loop over the stored relay strategies.

`para_num` and `RelayStrategyNum.number` may be as large as `MAX_RELAY_MODULE_STRATEGY_NUM`; the loops of
`ConvertFrameStructToFrame`, `DeleteServerFrameStruct` and `ReadRelayStrategyGroups` count in a `u8`.
- `loops_end_iff`: they visit each index once and end exactly for the counts up to 255;
- `originBuf_endless`: with more parameters no frame is ever built;
- `getParameterNum_lt`: a structure that comes from a received frame has at most 255.
-/
import DataConcentrator.Protocol.ServerFrame
import DataConcentrator.Eeprom.Indexed

namespace DataConcentrator.Protocol

open Eeprom (leNat readGlobal readStrategy)

def MAX_RELAY_MODULE_STRATEGY_NUM : ℕ := 300

/-! ## `ConvertFrameStructToFrame` -/

/-- one round of the loop that adds up the length -/
def lengthRound (s : ServerFrameStruct) (n i : ℕ) : Option ℕ :=
  (s.paraAt i).bind fun p => some ((n + 3 + p.len) % 65536)

/-- one round of the loop that copies the parameters -/
def copyRound (s : ServerFrameStruct) (st : (ℕ → UInt8) × ℕ) (i : ℕ) : Option ((ℕ → UInt8) × ℕ) :=
  (s.paraAt i).bind (putParameter st)

theorem originFrameLen_loop (s : ServerFrameStruct) : originFrameLen s = forU8 s.para_num (lengthRound s) 28 := rfl

theorem originBuf_loop (heap : ℕ → UInt8) (s : ServerFrameStruct) :
    originBuf heap s = (originFrameLen s).bind fun n =>
      let buf := ByteStore.write heap 0 (frameHead s n ++ [0, 0, 0, 0] ++ frameIds s)
      (forU8 s.para_num (copyRound s) (ByteStore.write buf (n - 1) [s.stop], 27)).map fun (buf, _) =>
        ByteStore.read (ByteStore.write buf 13 (putBe32 (crc32 (ByteStore.read buf 17 (n - 18))))) 0 n := rfl

/-! ## `DeleteServerFrameStruct` -/

/-- a block given back to the heap -/
inductive Freed where
  | value (i : ℕ)
  | para
  | self
deriving DecidableEq, Repr

/-- one round of the loop -/
def freeRound (s : ServerFrameStruct) (freed : List Freed) (i : ℕ) : Option (List Freed) :=
  (s.paraAt i).map fun _ => freed ++ [.value i]

/-- what `DeleteServerFrameStruct` frees, in order; an empty `para` is the `NULL` that `pvPortMalloc(0)` returns -/
def deleteServerFrameStruct (s : ServerFrameStruct) : Option (List Freed) :=
  if s.para = [] then some [.self]
  else
    (if s.para_num ≠ 0 then forU8 s.para_num (freeRound s) [] else some []).map fun freed => freed ++ [.para, .self]

/-! ## `ReadRelayStrategyGroups` -/

/-- `RelayStrategyNum` as `ReadRelayStrategyNum` leaves it -/
def readRelayStrategyNum (st : Eeprom.St) : Eeprom.St := readGlobal (.first .relayModuleStrategyNum) st

/-- `RelayStrategyNum.number` -/
def relayStrategyNum (st : Eeprom.St) : ℕ := leNat ((st.ram (.first .relayModuleStrategyNum)).take 4)

/-- one round of the loop over the records -/
def recordRound (st : Eeprom.St) (stored : List (Option (List UInt8))) (i : ℕ) :
    Option (List (Option (List UInt8))) :=
  some (stored ++ [readStrategy st i])

/-- the records `ReadRelayStrategyGroups` reads -/
def readStrategyRecords (st : Eeprom.St) : Option (List (Option (List UInt8))) :=
  let st := readRelayStrategyNum st
  if relayStrategyNum st = 0 then some []
  else forU8 (relayStrategyNum st) (recordRound st) []

theorem readStrategyRecords_eq (st : Eeprom.St) (h : relayStrategyNum (readRelayStrategyNum st) ≠ 0) :
    readStrategyRecords st =
      Eeprom.readStrategies (readRelayStrategyNum st) (relayStrategyNum (readRelayStrategyNum st)) := by
  rw [readStrategyRecords]
  exact if_neg h

/-- the reader accepts no number above the maximum -/
theorem relayStrategyNum_le (st : Eeprom.St) :
    relayStrategyNum (readRelayStrategyNum st) ≤ MAX_RELAY_MODULE_STRATEGY_NUM := by
  unfold readRelayStrategyNum readGlobal
  dsimp only
  split_ifs with h
  · have hcount := (Bool.and_eq_true_iff.1 h).2
    rw [relayStrategyNum, Eeprom.St.setRam_ram_same]
    exact of_decide_eq_true hcount
  · -- the reset stores 0
    simp [relayStrategyNum, Eeprom.writeGlobal, Eeprom.applyReset, Eeprom.resetRam, Eeprom.Rec.first,
      Eeprom.Kind.fields, Eeprom.countFields, Eeprom.resetFields, Eeprom.Field.zero, leNat]

/-! ## Termination -/

/-- each parameter is stored, with room for its text and the terminator -/
def Filled (s : ServerFrameStruct) : Prop :=
  ∀ i < s.para_num, ∃ p, s.paraAt i = some p ∧ p.len < p.value.length

/-- the parameter loops visit each index below `para_num` once, and end -/
structure ParameterLoopsEnd (s : ServerFrameStruct) : Prop where
  length : CLoop.VisitsAll 8 s.para_num (lengthRound s) 28
  copy : ∀ buf, CLoop.VisitsAll 8 s.para_num (copyRound s) (buf, 27)
  free : CLoop.VisitsAll 8 s.para_num (freeRound s) []

/-- so does the loop over the records -/
def RecordLoopEnds (st : Eeprom.St) : Prop :=
  let st := readRelayStrategyNum st
  CLoop.VisitsAll 8 (relayStrategyNum st) (recordRound st) []

section Filled

variable {s : ServerFrameStruct} (h : Filled s)
include h

theorem lengthRound_isSome : ∀ i < s.para_num, ∀ n, (lengthRound s n i).isSome := by
  intro i hi n
  obtain ⟨p, hp, _⟩ := h i hi
  rw [lengthRound, hp]
  rfl

theorem copyRound_isSome : ∀ i < s.para_num, ∀ st, (copyRound s st i).isSome := by
  intro i hi st
  obtain ⟨p, hp, hlen⟩ := h i hi
  rw [copyRound, hp, Option.bind_some, putParameter, if_pos hlen]
  rfl

theorem freeRound_isSome : ∀ i < s.para_num, ∀ freed, (freeRound s freed i).isSome := by
  intro i hi freed
  obtain ⟨p, hp, _⟩ := h i hi
  rw [freeRound, hp]
  rfl

theorem parameterLoopsEnd_iff : ParameterLoopsEnd s ↔ s.para_num < 2 ^ 8 := by
  constructor
  · exact fun hend => (CLoop.visitsAll_iff 28 (lengthRound_isSome h)).1 hend.length
  · intro hlt
    refine ⟨?_, fun buf => ?_, ?_⟩
    · exact (CLoop.visitsAll_iff 28 (lengthRound_isSome h)).2 hlt
    · exact (CLoop.visitsAll_iff (buf, 27) (copyRound_isSome h)).2 hlt
    · exact (CLoop.visitsAll_iff [] (freeRound_isSome h)).2 hlt

end Filled

/-- the loop over the records ends iff its counter can reach the number -/
theorem recordLoopEnds_iff (st : Eeprom.St) :
    RecordLoopEnds st ↔ relayStrategyNum (readRelayStrategyNum st) < 2 ^ 8 :=
  CLoop.visitsAll_iff [] fun _ _ _ => rfl

/-- **Counted loops.** They visit each index once and end iff the counts fit the `u8` counter. -/
theorem loops_end_iff {s : ServerFrameStruct} (h : Filled s) (st : Eeprom.St) :
    (ParameterLoopsEnd s ↔ s.para_num ≤ 255) ∧
      (RecordLoopEnds st ↔ relayStrategyNum (readRelayStrategyNum st) ≤ 255) :=
  ⟨(parameterLoopsEnd_iff h).trans Nat.lt_succ_iff, (recordLoopEnds_iff st).trans Nat.lt_succ_iff⟩

/-- a response with `n` empty texts -/
def emptyTexts (n : ℕ) : ServerFrameStruct :=
  { ServerFrameStruct.zero with para_num := n, para := List.replicate n (some ⟨0x4101, 0, [0]⟩) }

theorem filled_emptyTexts (n : ℕ) : Filled (emptyTexts n) := by
  intro i hi
  have hlt : i < n := hi
  refine ⟨⟨0x4101, 0, [0]⟩, ?_, Nat.one_pos⟩
  simp [ServerFrameStruct.paraAt, emptyTexts, hlt]

/-- an EEPROM with nothing but a number of strategies, low byte first -/
def strategyCount (lo hi : UInt8) : Eeprom.St :=
  ⟨ByteStore.write (fun _ => 0) Eeprom.Kind.relayModuleStrategyNum.add (Eeprom.sealRecord [lo, hi, 0, 0, 0, 0]),
    fun _ => [], []⟩

/-- 255 of each -/
theorem loops_end_255 : ParameterLoopsEnd (emptyTexts 255) ∧ RecordLoopEnds (strategyCount 255 0) :=
  ⟨(loops_end_iff (filled_emptyTexts 255) (strategyCount 255 0)).1.2 le_rfl,
    (loops_end_iff (filled_emptyTexts 255) (strategyCount 255 0)).2.2 (by decide +kernel)⟩

/-- 256 of each are within the maximum, and no loop ends -/
theorem loops_endless_256 :
    Filled (emptyTexts 256) ∧ (emptyTexts 256).para_num ≤ MAX_RELAY_MODULE_STRATEGY_NUM ∧
      ¬ ParameterLoopsEnd (emptyTexts 256) ∧
      relayStrategyNum (readRelayStrategyNum (strategyCount 0 1)) = 256 ∧ ¬ RecordLoopEnds (strategyCount 0 1) := by
  have hnum : relayStrategyNum (readRelayStrategyNum (strategyCount 0 1)) = 256 := by decide +kernel
  refine ⟨filled_emptyTexts 256, by decide, ?_, hnum, ?_⟩
  · rw [parameterLoopsEnd_iff (filled_emptyTexts 256)]
    exact lt_irrefl 256
  · rw [recordLoopEnds_iff, hnum]
    exact lt_irrefl 256

/-! ## What follows -/

/-- with more than 255 parameters no frame is built -/
theorem originBuf_endless (heap : ℕ → UInt8) {s : ServerFrameStruct} (h : 256 ≤ s.para_num) :
    originBuf heap s = none := by
  rw [originBuf_loop, originFrameLen_loop, forU8, CLoop.forLoop_endless _ h 255 0 28 (by decide)]
  rfl

/-- up to 255 parameters every value is freed once, then the array and the structure -/
theorem deleteServerFrameStruct_eq {s : ServerFrameStruct} (h : Filled s) (hpara : s.para ≠ [])
    (hnum : s.para_num ≤ 255) :
    deleteServerFrameStruct s = some ((List.range s.para_num).map .value ++ [.para, .self]) := by
  have happend : ∀ (is : List ℕ) (freed : List Freed), (∀ i ∈ is, i < s.para_num) →
      is.foldlM (freeRound s) freed = some (freed ++ is.map .value) := by
    intro is
    induction is with
    | nil => intro freed _; simp
    | cons i is ih =>
      intro freed his
      obtain ⟨p, hp, _⟩ := h i (his i List.mem_cons_self)
      rw [List.foldlM_cons, freeRound, hp]
      refine (ih _ fun j hj => his j (List.mem_cons_of_mem i hj)).trans ?_
      simp
  have hloop : forU8 s.para_num (freeRound s) [] = some ((List.range s.para_num).map .value) := by
    rw [forU8, CLoop.forLoop_eq_foldlM 8 _ 255 [] (by omega) hnum, happend _ [] fun i hi => List.mem_range.1 hi]
    rfl
  rw [deleteServerFrameStruct, if_neg hpara]
  split_ifs with h0
  · rw [hloop]
    rfl
  · rw [Decidable.not_not.1 h0]
    rfl

/-- what was copied can be freed -/
theorem delete_of_originBuf {heap : ℕ → UInt8} {s : ServerFrameStruct} {origin_buf : List UInt8}
    (h : originBuf heap s = some origin_buf) : (deleteServerFrameStruct s).isSome := by
  have hnum : s.para_num < 2 ^ 8 := by
    by_contra hge
    rw [originBuf_endless heap (Nat.not_lt.1 hge)] at h
    cases h
  rw [originBuf_loop] at h
  obtain ⟨n, hn, _⟩ := Option.bind_eq_some_iff.1 h
  rw [originFrameLen_loop, forU8, CLoop.forLoop_eq_foldlM 8 _ 255 28 hnum (Nat.le_of_lt_succ hnum)] at hn
  have hstored : ∀ i ∈ List.range s.para_num, ∀ freed, (freeRound s freed i).isSome := by
    intro i hi freed
    obtain ⟨m, m', hround⟩ := CLoop.foldlM_ran _ _ _ hn i hi
    obtain ⟨p, hp, _⟩ := Option.bind_eq_some_iff.1 hround
    rw [freeRound, hp]
    rfl
  rw [deleteServerFrameStruct]
  split_ifs
  · rfl
  · rw [Option.isSome_map, forU8, CLoop.forLoop_eq_foldlM 8 _ 255 [] hnum (Nat.le_of_lt_succ hnum)]
    exact CLoop.foldlM_isSome _ [] hstored
  · rfl

/-- the decoder counts in a `u8` -/
theorem getParameterNum_lt (f : ServerFrame) : getParameterNum f < 256 := by
  have hstep : ∀ (bs : List UInt8) (n : ℕ), n < 256 →
      bs.foldl (fun cnt b => if b = 0 then (cnt + 1) % 256 else cnt) n < 256 := by
    intro bs
    induction bs with
    | nil => exact fun n hn => hn
    | cons b bs ih =>
      intro n hn
      rw [List.foldl_cons]
      apply ih
      split_ifs
      · exact Nat.mod_lt _ (by decide)
      · exact hn
  exact hstep _ 0 (by decide)

end DataConcentrator.Protocol
