/-
The lists of the configured lamps and of the configured strategies: `WriteSpecifyLampNumList`,
`WriteSpecifyLampStrategyNumList` and the two `ReadSpecify` functions, on the bytes of `LampListNum_S`.

The checksum, which is written when a list is stored, is left out.
- `indices_writeSpecify`, `counted_writeSpecify`: a call inserts or erases its index, and the number stays the count;
- `numLists_track`: what the lists are after any calls, with an index above the maximum or not;
- `writeSpecify_view`: the lists of the stored tables are these lists, seen bit by bit.
-/
import DataConcentrator.Lamp.StrategyText
import DataConcentrator.Lib.BitSet

namespace DataConcentrator.Lamp.NumList

open Plc (MAX_LAMP_CONF_NUM MAX_LAMP_STRATEGY_NUM Store inc16)
open BitSet (indices mask)

/-! ## The lists -/

/-- `LampListNum_S` -/
structure LampListNum where
  number : UInt16
  list : Vector UInt8 64

/-- `memset(.., 0, sizeof(LampListNum_S))` -/
def LampListNum.reset : LampListNum := ⟨0, Vector.replicate 64 0⟩

theorem toNat_divisor {i : UInt16} (h : i.toNat < 512) : (i / 8).toUInt8.toNat = i.toNat / 8 := by
  rw [UInt16.toNat_toUInt8, UInt16.toNat_div]
  exact Nat.mod_eq_of_lt (by change i.toNat / 8 < 256; omega)

theorem toNat_remainder (i : UInt16) : (i % 8).toUInt8.toNat = i.toNat % 8 := by
  rw [UInt16.toNat_toUInt8, UInt16.toNat_mod]
  exact Nat.mod_eq_of_lt (by change i.toNat % 8 < 256; omega)

theorem divisor_lt {max : ℕ} (hmax : max ≤ 512) {i : UInt16} (h : ¬ i.toNat ≥ max) : (i / 8).toUInt8.toNat < 64 := by
  rw [toNat_divisor (by omega)]
  omega

/-- whether bit `i % 8` of `list[i / 8]` is set -/
def readSpecify {max : ℕ} (hmax : max ≤ 512) (l : LampListNum) (i : UInt16) : UInt8 :=
  if h : i.toNat ≥ max then 0
  else
    let divisor := (i / 8).toUInt8
    let remainder := (i % 8).toUInt8
    have hlt : divisor.toNat < 64 := divisor_lt hmax h
    if l.list[divisor.toNat] &&& mask remainder ≠ 0 then 1 else 0

/-- the bit is cleared for mode 0 and set else; `number` counts it where it changes -/
def writeSpecify {max : ℕ} (hmax : max ≤ 512) (l : LampListNum) (i : UInt16) (mode : UInt8) : LampListNum :=
  if h : i.toNat ≥ max then l
  else
    let divisor := (i / 8).toUInt8
    let remainder := (i % 8).toUInt8
    have hlt : divisor.toNat < 64 := divisor_lt hmax h
    if mode = 0 then
      { number := if l.list[divisor.toNat] &&& mask remainder ≠ 0 then l.number - 1 else l.number
        list := l.list.set divisor.toNat (l.list[divisor.toNat] &&& ~~~mask remainder) hlt }
    else
      { number := if l.list[divisor.toNat] &&& mask remainder = 0 then l.number + 1 else l.number
        list := l.list.set divisor.toNat (l.list[divisor.toNat] ||| mask remainder) hlt }

/-- `LampNumList` and `LampStrategyNumList` -/
structure Lists where
  lampNumList : LampListNum
  lampStrategyNumList : LampListNum

def Lists.reset : Lists := ⟨.reset, .reset⟩

theorem conf_le : MAX_LAMP_CONF_NUM ≤ 512 := le_rfl

theorem strategy_le : MAX_LAMP_STRATEGY_NUM ≤ 512 := le_rfl

def readSpecifyLampNumList (s : Lists) (i : UInt16) : UInt8 := readSpecify conf_le s.lampNumList i

def writeSpecifyLampNumList (s : Lists) (i : UInt16) (mode : UInt8) : Lists :=
  { s with lampNumList := writeSpecify conf_le s.lampNumList i mode }

def readSpecifyLampStrategyNumList (s : Lists) (i : UInt16) : UInt8 := readSpecify strategy_le s.lampStrategyNumList i

def writeSpecifyLampStrategyNumList (s : Lists) (i : UInt16) (mode : UInt8) : Lists :=
  { s with lampStrategyNumList := writeSpecify strategy_le s.lampStrategyNumList i mode }

/-! ## One call -/

section One

variable {max : ℕ} {l : LampListNum} {i : UInt16}

/-- how a bit is looked at -/
theorem test_iff (hmax : max ≤ 512) (h : ¬ i.toNat ≥ max) (hlt : (i / 8).toUInt8.toNat < 64) :
    l.list[(i / 8).toUInt8.toNat] &&& mask (i % 8).toUInt8 ≠ 0 ↔ i.toNat ∈ indices l.list := by
  have hr := toNat_remainder i
  rw [BitSet.test_iff (by omega), BitSet.mem_indices, BitSet.bit_of_lt (by omega), hr]
  simp only [toNat_divisor (show i.toNat < 512 by omega)]

theorem readSpecify_eq (hmax : max ≤ 512) :
    readSpecify hmax l i = if i.toNat < max ∧ i.toNat ∈ indices l.list then 1 else 0 := by
  unfold readSpecify
  by_cases h : i.toNat ≥ max
  · rw [dif_pos h, if_neg (by omega)]
  · rw [dif_neg h]
    simp only [test_iff hmax h, not_le.1 h, true_and]

theorem writeSpecify_out (hmax : max ≤ 512) (mode : UInt8) (h : i.toNat ≥ max) : writeSpecify hmax l i mode = l := dif_pos h

theorem indices_writeSpecify (hmax : max ≤ 512) (mode : UInt8) (h : ¬ i.toNat ≥ max) : indices (writeSpecify hmax l i mode).list =
    if mode = 0 then (indices l.list).erase i.toNat else insert i.toNat (indices l.list) := by
  have hr := toNat_remainder i
  have hclear := @BitSet.indices_clear 64 l.list i.toNat (i % 8).toUInt8 (by omega) hr
  have hset := @BitSet.indices_set 64 l.list i.toNat (i % 8).toUInt8 (by omega) hr
  rw [writeSpecify, dif_neg h]
  simp only [toNat_divisor (show i.toNat < 512 by omega)]
  by_cases hmode : mode = 0
  · rw [if_pos hmode, if_pos hmode]
    exact hclear
  · rw [if_neg hmode, if_neg hmode]
    exact hset

/-- `number` is the count of the set bits -/
def Counted (l : LampListNum) : Prop := l.number.toNat = (indices l.list).card

theorem number_writeSpecify (hmax : max ≤ 512) (mode : UInt8) (h : ¬ i.toNat ≥ max) : (writeSpecify hmax l i mode).number =
    if mode = 0 then if i.toNat ∈ indices l.list then l.number - 1 else l.number
    else if i.toNat ∈ indices l.list then l.number else l.number + 1 := by
  have htest := fun hlt => @test_iff max l i hmax h hlt
  have htest' : ∀ hlt : (i / 8).toUInt8.toNat < 64,
      l.list[(i / 8).toUInt8.toNat] &&& mask (i % 8).toUInt8 = 0 ↔ ¬ i.toNat ∈ indices l.list :=
    fun hlt => by rw [← htest hlt, not_ne_iff]
  rw [writeSpecify, dif_neg h]
  by_cases hmode : mode = 0
  · rw [if_pos hmode, if_pos hmode]
    simp only [htest]
  · rw [if_neg hmode, if_neg hmode]
    simp only [htest', ite_not]

theorem counted_writeSpecify (hmax : max ≤ 512) (mode : UInt8) (hl : Counted l) : Counted (writeSpecify hmax l i mode) := by
  by_cases h : i.toNat ≥ max
  · rwa [writeSpecify_out hmax mode h]
  unfold Counted at hl ⊢
  have hle := @BitSet.card_indices_le _ l.list
  rw [number_writeSpecify hmax mode h, indices_writeSpecify hmax mode h]
  by_cases hmode : mode = 0
  · rw [if_pos hmode, if_pos hmode]
    by_cases hmem : i.toNat ∈ indices l.list
    · have hpos := Finset.card_pos.2 ⟨_, hmem⟩
      rw [if_pos hmem, Finset.card_erase_of_mem hmem, UInt16.toNat_sub_of_le, hl]
      · rfl
      · rw [UInt16.le_iff_toNat_le, hl]
        exact hpos
    · rw [if_neg hmem, Finset.erase_eq_of_notMem hmem, hl]
  · rw [if_neg hmode, if_neg hmode]
    by_cases hmem : i.toNat ∈ indices l.list
    · rw [if_pos hmem, Finset.insert_eq_of_mem hmem, hl]
    · rw [if_neg hmem, Finset.card_insert_of_notMem hmem, UInt16.toNat_add, hl]
      exact Nat.mod_eq_of_lt (by change _ + 1 < 65536; omega)

end One

/-! ## Any calls -/

/-- a call adds the index, and no later one deletes it -/
def Added (i : UInt16) (calls : List (UInt16 × UInt8)) : Prop :=
  ∃ pre mode post, calls = pre ++ (i, mode) :: post ∧ mode ≠ 0 ∧ (i, 0) ∉ post

theorem not_added_nil (i : UInt16) : ¬ Added i [] := by
  rintro ⟨pre, mode, post, h, -⟩
  exact List.append_ne_nil_of_right_ne_nil _ (List.cons_ne_nil _ _) h.symm

theorem added_append (i : UInt16) (calls : List (UInt16 × UInt8)) (c : UInt16 × UInt8) :
    Added i (calls ++ [c]) ↔ if c.1 = i then c.2 ≠ 0 else Added i calls := by
  constructor
  · rintro ⟨pre, mode, post, h, hmode, hpost⟩
    rcases List.eq_nil_or_concat post with rfl | ⟨post, d, rfl⟩
    · obtain ⟨-, hc⟩ := List.append_inj' h rfl
      rw [List.singleton_inj.1 hc, if_pos rfl]
      exact hmode
    · rw [List.concat_eq_append, ← List.cons_append, ← List.append_assoc] at h
      obtain ⟨hcalls, hc⟩ := List.append_inj' h rfl
      rw [List.concat_eq_append, List.mem_append, not_or] at hpost
      rw [List.singleton_inj.1 hc]
      split_ifs with hd
      · exact fun hzero => hpost.2 (List.mem_singleton.2 (Prod.ext hd.symm hzero.symm))
      · exact ⟨pre, mode, post, hcalls, hmode, hpost.1⟩
  · intro h
    split_ifs at h with hc
    · exact ⟨calls, c.2, [], by rw [← hc], h, List.not_mem_nil⟩
    · obtain ⟨pre, mode, post, rfl, hmode, hpost⟩ := h
      refine ⟨pre, mode, post ++ [c], by simp, hmode, ?_⟩
      rw [List.mem_append, not_or, List.mem_singleton]
      exact ⟨hpost, fun hic => hc (hic ▸ rfl)⟩

/-- a list after calls that are all about it -/
def writes {max : ℕ} (hmax : max ≤ 512) (calls : List (UInt16 × UInt8)) : LampListNum :=
  calls.foldl (fun l c => writeSpecify hmax l c.1 c.2) .reset

theorem counted_writes {max : ℕ} (hmax : max ≤ 512) (calls : List (UInt16 × UInt8)) : Counted (writes hmax calls) := by
  induction calls using List.reverseRecOn with
  | nil =>
    change (0 : UInt16).toNat = (indices (Vector.replicate 64 (0 : UInt8))).card
    rw [BitSet.indices_zero]
    rfl
  | append_singleton calls c ih =>
    rw [writes, List.foldl_append]
    exact counted_writeSpecify hmax c.2 ih

theorem mem_writes_iff {max : ℕ} (hmax : max ≤ 512) (calls : List (UInt16 × UInt8)) (i : UInt16) :
    i.toNat ∈ indices (writes hmax calls).list ↔ i.toNat < max ∧ Added i calls := by
  induction calls using List.reverseRecOn with
  | nil =>
    refine iff_of_false ?_ fun h => not_added_nil i h.2
    change i.toNat ∉ indices (Vector.replicate 64 (0 : UInt8))
    rw [BitSet.indices_zero]
    exact Finset.notMem_empty _
  | append_singleton calls c ih =>
    have hstep : writes hmax (calls ++ [c]) = writeSpecify hmax (writes hmax calls) c.1 c.2 := by
      rw [writes, List.foldl_append]
      rfl
    rw [hstep, added_append]
    by_cases h : c.1.toNat ≥ max
    · rw [writeSpecify_out hmax c.2 h, ih]
      by_cases hc : c.1 = i
      · subst hc
        exact iff_of_false (fun hi => absurd hi.1 (Nat.not_lt.2 h)) fun hi => absurd hi.1 (Nat.not_lt.2 h)
      · rw [if_neg hc]
    · rw [indices_writeSpecify hmax c.2 h]
      by_cases hc : c.1 = i
      · subst hc
        rw [if_pos rfl]
        split_ifs with hmode
        · simp [hmode]
        · simp [hmode, not_le.1 h]
      · have hne : i.toNat ≠ c.1.toNat := fun heq => hc (UInt16.toNat_inj.1 heq.symm)
        rw [if_neg hc, ← ih]
        split_ifs
        · rw [Finset.mem_erase, and_iff_right hne]
        · rw [Finset.mem_insert, or_iff_right hne]

/-- the calls of both functions -/
inductive Call
  | writeSpecifyLampNumList (i : UInt16) (mode : UInt8)
  | writeSpecifyLampStrategyNumList (i : UInt16) (mode : UInt8)

def step (s : Lists) : Call → Lists
  | .writeSpecifyLampNumList i mode => writeSpecifyLampNumList s i mode
  | .writeSpecifyLampStrategyNumList i mode => writeSpecifyLampStrategyNumList s i mode

def run (calls : List Call) : Lists := calls.foldl step .reset

def Call.ofLamps : Call → Option (UInt16 × UInt8)
  | .writeSpecifyLampNumList i mode => some (i, mode)
  | .writeSpecifyLampStrategyNumList _ _ => none

def Call.ofStrategies : Call → Option (UInt16 × UInt8)
  | .writeSpecifyLampNumList _ _ => none
  | .writeSpecifyLampStrategyNumList i mode => some (i, mode)

/-- each list sees the calls that are about it -/
theorem run_eq (calls : List Call) : run calls =
    ⟨writes conf_le (calls.filterMap Call.ofLamps), writes strategy_le (calls.filterMap Call.ofStrategies)⟩ := by
  induction calls using List.reverseRecOn with
  | nil => rfl
  | append_singleton calls c ih =>
    have hstep : run (calls ++ [c]) = step (run calls) c := by
      rw [run, List.foldl_append]
      rfl
    rw [hstep, ih, List.filterMap_append, List.filterMap_append, writes, writes, writes, writes, List.foldl_append,
      List.foldl_append]
    cases c <;> rfl

/-- what a list has to do with the calls about it: the count of its bits, and what is read of it -/
structure Tracks (max : ℕ) (l : LampListNum) (read : UInt16 → UInt8) (calls : List (UInt16 × UInt8)) : Prop where
  number : l.number.toNat = (indices l.list).card
  read_one : ∀ i, read i = 1 ↔ i.toNat < max ∧ Added i calls
  read_zero : ∀ i, read i ≠ 1 → read i = 0

theorem tracks_writes {max : ℕ} (hmax : max ≤ 512) (calls : List (UInt16 × UInt8)) :
    Tracks max (writes hmax calls) (readSpecify hmax (writes hmax calls)) calls where
  number := counted_writes hmax calls
  read_one i := by
    have hmem := mem_writes_iff hmax calls i
    rw [readSpecify_eq hmax]
    split_ifs with h
    · exact iff_of_true rfl (hmem.1 h.2)
    · exact iff_of_false (by decide) fun h' => h ⟨h'.1, hmem.2 h'⟩
  read_zero i hi := by
    rw [readSpecify_eq hmax] at hi ⊢
    split_ifs at hi ⊢ with h
    · exact absurd rfl hi
    · rfl

/-- **Configured indices.** After any calls from the reset on the number of a list is the count of its set bits, `1` is
read for the indices added and not deleted since, and an index above the maximum changes nothing. -/
theorem numLists_track (calls : List Call) :
    Tracks MAX_LAMP_CONF_NUM (run calls).lampNumList (readSpecifyLampNumList (run calls))
      (calls.filterMap Call.ofLamps) ∧
    Tracks MAX_LAMP_STRATEGY_NUM (run calls).lampStrategyNumList (readSpecifyLampStrategyNumList (run calls))
      (calls.filterMap Call.ofStrategies) ∧
    ∀ (i : UInt16) (mode : UInt8),
      (i.toNat ≥ MAX_LAMP_CONF_NUM → writeSpecifyLampNumList (run calls) i mode = run calls) ∧
      (i.toNat ≥ MAX_LAMP_STRATEGY_NUM → writeSpecifyLampStrategyNumList (run calls) i mode = run calls) := by
  refine ⟨?_, ?_, fun i mode => ⟨fun h => ?_, fun h => ?_⟩⟩
  · rw [run_eq]
    exact tracks_writes conf_le _
  · rw [run_eq]
    exact tracks_writes strategy_le _
  · rw [writeSpecifyLampNumList, writeSpecify_out conf_le mode h]
  · rw [writeSpecifyLampStrategyNumList, writeSpecify_out strategy_le mode h]

/-! ## The stored tables -/

/-- a list with a truth value for each bit -/
def LampListNum.view (l : LampListNum) : Plc.LampListNum := ⟨l.number.toNat, BitSet.bit l.list⟩

theorem bit_eq (list : Vector UInt8 64) (n : ℕ) : BitSet.bit list n = decide (n ∈ indices list) := by
  rw [Bool.eq_iff_iff, ← BitSet.mem_indices, decide_eq_true_iff]

/-- a call, seen bit by bit -/
theorem view_writeSpecify {max : ℕ} (hmax : max ≤ 512) {l : LampListNum} {i : UInt16} (mode : UInt8)
    (h : ¬ i.toNat ≥ max) : (writeSpecify hmax l i mode).view =
      if mode = 0 then
        { number := if l.view.list i.toNat then (l.view.number + 65535) % 65536 else l.view.number
          list := fun n => if n = i.toNat then false else l.view.list n }
      else
        { number := if l.view.list i.toNat then l.view.number else inc16 l.view.number
          list := fun n => if n = i.toNat then true else l.view.list n } := by
  have hpred : (l.number - 1).toNat = (l.number.toNat + 65535) % 65536 := by
    rw [UInt16.toNat_sub, Nat.add_comm]
    rfl
  have hmem : BitSet.bit l.list i.toNat = true ↔ i.toNat ∈ indices l.list := BitSet.mem_indices.symm
  rw [LampListNum.view, number_writeSpecify hmax mode h]
  simp only [LampListNum.view, hmem]
  by_cases hmode : mode = 0
  · rw [if_pos hmode, if_pos hmode]
    refine congrArg₂ Plc.LampListNum.mk ?_ (funext fun n => ?_)
    · rw [apply_ite UInt16.toNat, hpred]
    · rw [bit_eq, indices_writeSpecify hmax mode h, if_pos hmode, bit_eq]
      by_cases hn : n = i.toNat <;> simp [hn]
  · rw [if_neg hmode, if_neg hmode]
    refine congrArg₂ Plc.LampListNum.mk ?_ (funext fun n => ?_)
    · rw [apply_ite UInt16.toNat, UInt16.toNat_add]
      rfl
    · rw [bit_eq, indices_writeSpecify hmax mode h, if_neg hmode, bit_eq]
      by_cases hn : n = i.toNat <;> simp [hn]

theorem toNat_eq_zero_iff (mode : UInt8) : mode.toNat = 0 ↔ mode = 0 := UInt8.toNat_inj (b := 0)

/-- **Refinement.** The stored tables follow the bytes. -/
theorem writeSpecify_view {st : Store} {s : Lists} (hlamps : st.lampNumList = s.lampNumList.view)
    (hstrategies : st.lampStrategyNumList = s.lampStrategyNumList.view) (i : UInt16) (mode : UInt8) :
    (Lamp.writeSpecifyLampNumList st i.toNat mode.toNat).lampNumList =
      (writeSpecifyLampNumList s i mode).lampNumList.view ∧
    (Lamp.writeSpecifyLampStrategyNumList st i.toNat mode.toNat).lampStrategyNumList =
      (writeSpecifyLampStrategyNumList s i mode).lampStrategyNumList.view := by
  have hmode := toNat_eq_zero_iff mode
  constructor
  · rw [writeSpecifyLampNumList, Lamp.writeSpecifyLampNumList]
    by_cases h : i.toNat ≥ MAX_LAMP_CONF_NUM
    · rw [if_pos h, writeSpecify_out conf_le mode h, hlamps]
    · rw [if_neg h, view_writeSpecify conf_le mode h, hlamps]
      by_cases hm : mode = 0
      · rw [if_pos hm, if_pos (hmode.2 hm)]
      · rw [if_neg hm, if_neg (mt hmode.1 hm)]
  · rw [writeSpecifyLampStrategyNumList, Lamp.writeSpecifyLampStrategyNumList]
    by_cases h : i.toNat ≥ MAX_LAMP_STRATEGY_NUM
    · rw [if_pos h, writeSpecify_out strategy_le mode h, hstrategies]
    · rw [if_neg h, view_writeSpecify strategy_le mode h, hstrategies]
      by_cases hm : mode = 0
      · rw [if_pos hm, if_pos (hmode.2 hm)]
      · rw [if_neg hm, if_neg (mt hmode.1 hm)]

end DataConcentrator.Lamp.NumList
