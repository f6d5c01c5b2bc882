/-
The number of lamps in each group: `LampGroupListNum.list`, kept by `LampSetBasicConfiguration` while it reads the
parameters, against the records it stores, and the `dev_num` that is read from it for one group.

- `configureLamp_lead`: what one lamp adds to the difference between the list and the records;
- `fits_iff`: exactly when that is nothing;
- `groupCounts_iff`: over any messages, the list is right throughout exactly when each lamp fits; what
  `LampGetLampPlcExecuteTaskInfo1` and `LampStartFirmWareUpdate` read is right after no message at all;
- `configured_twice`: one lamp with one group, sent twice, is counted twice.
-/
import Mathlib.Data.List.GetD
import Mathlib.Data.List.Basic
import DataConcentrator.Lamp.Configure
import DataConcentrator.Lib.Tally

namespace DataConcentrator.Lamp

open Plc (Store LampConfig MAX_LAMP_CONF_NUM MAX_LAMP_GROUP_NUM inc16)
open Protocol (Parameter ServerFrameStruct)

/-! ## The records -/

/-- lamp `i` is configured and its record lists group `g` -/
def inGroup (st : Store) (g : UInt8) (i : ℕ) : Bool :=
  st.readSpecifyLampNumList i && match st.lampConfig i with
    | some config => decide (∃ k, config.group k = g)
    | none => false

/-- the configured lamps whose records list group `g` -/
def groupCount (st : Store) (g : UInt8) : ℕ := ((Finset.range MAX_LAMP_CONF_NUM).filter fun i => inGroup st g i).card

/-- the ids of the groups -/
def IsGroup (g : UInt8) : Prop := 1 ≤ g.toNat ∧ g.toNat ≤ MAX_LAMP_GROUP_NUM

instance (g : UInt8) : Decidable (IsGroup g) := inferInstanceAs (Decidable (_ ∧ _))

/-- `LampGroupListNum.list[g - 1]` -/
def listed (st : Store) (g : UInt8) : ℕ := st.lampGroupListNum ((g.toNat : ℤ) - 1)

theorem groupCount_le (st : Store) (g : UInt8) : groupCount st g ≤ MAX_LAMP_CONF_NUM :=
  (Finset.card_filter_le _ _).trans_eq (Finset.card_range _)

/-- the array of a record lists what was sent, besides the padding -/
theorem mem_record {ids : List UInt8} {g : UInt8} (hg : IsGroup g) (hlen : ids.length ≤ MAX_LAMP_GROUP_NUM) :
    (∃ k : Fin MAX_LAMP_GROUP_NUM, ids.getD k 0 = g) ↔ g ∈ ids := by
  constructor
  · intro h
    obtain ⟨k, hk⟩ := h
    by_cases hlt : k.val < ids.length
    · rw [List.getD_eq_getElem _ _ hlt] at hk
      exact hk ▸ List.getElem_mem hlt
    · rw [List.getD_eq_default _ _ (Nat.le_of_not_lt hlt)] at hk
      rw [← hk] at hg
      exact absurd hg (by decide)
  · intro h
    obtain ⟨k, hk, rfl⟩ := List.mem_iff_getElem.1 h
    exact ⟨⟨k, hk.trans_le hlen⟩, List.getD_eq_getElem _ _ hk⟩

/-! ## Counting ids -/

/-- the ids are counted one by one; nothing else changes -/
theorem countGroups (ids : List UInt8) : ∀ st : Store, ∃ memory,
    ids.foldl countGroup st = { st with lampGroupListNum := memory } ∧
    (∀ g, listed st g + ids.count g < 65536 → memory ((g.toNat : ℤ) - 1) = listed st g + ids.count g) ∧
    ∀ i, (∀ g ∈ ids, i ≠ (g.toNat : ℤ) - 1) → memory i = st.lampGroupListNum i := by
  induction ids with
  | nil => exact fun st => ⟨_, rfl, fun g _ => rfl, fun i _ => rfl⟩
  | cons id ids ih =>
    intro st
    obtain ⟨memory, hfold, hcount, hframe⟩ := ih (countGroup st id)
    refine ⟨memory, by rw [List.foldl_cons, hfold]; rfl, fun g hg => ?_, fun i hi => ?_⟩
    · by_cases hid : id = g
      · subst hid
        rw [List.count_cons_self] at hg ⊢
        have hlt : listed st id < 65535 := by omega
        have hhead : listed (countGroup st id) id = listed st id + 1 := (if_pos rfl).trans (Plc.inc16_of_lt hlt)
        rw [hcount id (by omega), hhead]
        omega
      · have hne : ¬ ((g.toNat : ℤ) - 1 = (id.toNat : ℤ) - 1) := by
          intro h
          exact hid (UInt8.toNat_inj.1 (by omega))
        have hhead : listed (countGroup st id) g = listed st g := if_neg hne
        rw [List.count_cons_of_ne hid] at hg ⊢
        rw [hcount g (by omega), hhead]
    · rw [hframe i fun g hg => hi g (List.mem_cons_of_mem id hg)]
      exact if_neg (hi id List.mem_cons_self)

/-! ## One lamp -/

/-- no record above the reach of the `u8` index -/
def LowRecords (st : Store) : Prop := ∀ i, 256 ≤ i → st.lampConfig i = none

section OneLamp

variable {st : Store} {lamp_num : ℕ} {lamp_conf : LampConfig} {ids : List UInt8}

variable (st lamp_conf ids) in
/-- the two tables after a lamp -/
theorem configureLamp_tables (hlamp : lamp_num < MAX_LAMP_CONF_NUM) :
    (∀ i, (configureLamp st lamp_num lamp_conf ids).readSpecifyLampNumList i =
      (decide (i = lamp_num) || st.readSpecifyLampNumList i)) ∧
    (∀ i, (configureLamp st lamp_num lamp_conf ids).lampConfig i =
      if i = lamp_num % 256 then some lamp_conf else st.lampConfig i) ∧
    (configureLamp st lamp_num lamp_conf ids).lampGroupListNum = (ids.foldl countGroup st).lampGroupListNum := by
  obtain ⟨memory, hfold, -, -⟩ := countGroups ids st
  rw [configureLamp, hfold]
  dsimp only
  rw [if_pos hlamp, writeSpecifyLampNumList, if_neg (Nat.not_le.2 hlamp)]
  dsimp only
  rw [if_neg one_ne_zero]
  refine ⟨fun i => ?_, fun i => rfl, rfl⟩
  simp only [Store.readSpecifyLampNumList, writeLampConfig]
  by_cases hi : i ≥ MAX_LAMP_CONF_NUM
  · rw [if_pos hi, if_pos hi, decide_eq_false (by omega)]
    rfl
  · rw [if_neg hi, if_neg hi]
    by_cases h : i = lamp_num
    · rw [if_pos h, decide_eq_true h]
      rfl
    · rw [if_neg h, decide_eq_false h]
      rfl

/-- the record is stored under `lamp_num % 256`: whether it counts depends on whether that lamp is configured -/
theorem inGroup_stored (hlamp : lamp_num < MAX_LAMP_CONF_NUM) (hlen : ids.length ≤ MAX_LAMP_GROUP_NUM) {g : UInt8}
    (hg : IsGroup g) (add : UInt32) (settings : List UInt8) :
    inGroup (configureLamp st lamp_num ⟨add, settings, fun k => ids.getD k 0⟩ ids) g (lamp_num % 256) =
      (decide ((lamp_num < 256 ∨ st.readSpecifyLampNumList (lamp_num % 256) = true) ∧ g ∈ ids)) := by
  obtain ⟨hnum, hconf, -⟩ := configureLamp_tables st ⟨add, settings, fun k => ids.getD k 0⟩ ids hlamp
  have hsame : lamp_num % 256 = lamp_num ↔ lamp_num < 256 := by
    constructor
    · intro h
      exact h ▸ Nat.mod_lt _ (by decide)
    · exact Nat.mod_eq_of_lt
  rw [inGroup, hnum, hconf, if_pos rfl]
  dsimp only
  rw [Bool.eq_iff_iff]
  simp only [Bool.and_eq_true, Bool.or_eq_true, decide_eq_true_eq, hsame, mem_record hg hlen]

/-- no other lamp changes its groups -/
theorem inGroup_other (hlamp : lamp_num < MAX_LAMP_CONF_NUM) (hlow : LowRecords st) (g : UInt8) {i : ℕ}
    (hi : i ≠ lamp_num % 256) : inGroup (configureLamp st lamp_num lamp_conf ids) g i = inGroup st g i := by
  obtain ⟨hnum, hconf, -⟩ := configureLamp_tables st lamp_conf ids hlamp
  rw [inGroup, inGroup, hnum, hconf, if_neg hi]
  by_cases h : i = lamp_num
  · -- it is configured under an index the record cannot have
    have hhigh : 256 ≤ i := by
      by_contra hlt
      exact hi (h ▸ (Nat.mod_eq_of_lt (by omega)).symm)
    rw [hlow i hhigh]
    simp only [Bool.and_false]
  · rw [decide_eq_false h, Bool.false_or]

theorem lowRecords_configureLamp (hlamp : lamp_num < MAX_LAMP_CONF_NUM) (hlow : LowRecords st) :
    LowRecords (configureLamp st lamp_num lamp_conf ids) := by
  intro i hi
  rw [(configureLamp_tables _ _ _ hlamp).2.1, if_neg (by omega)]
  exact hlow i hi

/-- how far the list is ahead of the records -/
def lead (g : UInt8) (st : Store) : ℤ := listed st g - groupCount st g

/-- **One lamp.** The list grows by the ids sent; the records lose what was stored before under the index and gain the
ids if that index is a configured lamp's. -/
theorem configureLamp_lead (hlamp : lamp_num < MAX_LAMP_CONF_NUM) (hlow : LowRecords st)
    (hlen : ids.length ≤ MAX_LAMP_GROUP_NUM) {g : UInt8} (hg : IsGroup g) (hfit : listed st g + ids.count g < 65536)
    (add : UInt32) (settings : List UInt8) :
    lead g (configureLamp st lamp_num ⟨add, settings, fun k => ids.getD k 0⟩ ids) +
        (if (lamp_num < 256 ∨ st.readSpecifyLampNumList (lamp_num % 256) = true) ∧ g ∈ ids then 1 else 0) =
      lead g st + ids.count g + (if inGroup st g (lamp_num % 256) then 1 else 0) := by
  set st' := configureLamp st lamp_num ⟨add, settings, fun k => ids.getD k 0⟩ ids with hst'
  have hmem : lamp_num % 256 ∈ Finset.range MAX_LAMP_CONF_NUM :=
    Finset.mem_range.2 ((Nat.mod_lt _ (by decide)).trans (by decide))
  have hcard := Tally.card_filter_update (Finset.range MAX_LAMP_CONF_NUM) (fun i => inGroup st g i = true)
    (fun i => inGroup st' g i = true) hmem fun i _ hi => by rw [hst', inGroup_other hlamp hlow g hi]
  have hlist : listed st' g = listed st g + ids.count g := by
    obtain ⟨memory, hfold, hcount, -⟩ := countGroups ids st
    rw [listed, hst', (configureLamp_tables _ _ _ hlamp).2.2, hfold]
    exact hcount g hfit
  have hnew : (inGroup st' g (lamp_num % 256) = true) ↔
      ((lamp_num < 256 ∨ st.readSpecifyLampNumList (lamp_num % 256) = true) ∧ g ∈ ids) := by
    rw [hst', inGroup_stored hlamp hlen hg]
    exact decide_eq_true_iff
  simp only [hnew] at hcard
  change groupCount st' g + _ = groupCount st g + _ at hcard
  rw [lead, lead, hlist]
  split_ifs at hcard ⊢ <;> push_cast <;> omega

/-- the lamp keeps the list right: nothing is stored under its index that counts, its ids are distinct, and its record
counts or has none -/
structure Fits (st : Store) (lamp_num : ℕ) (ids : List UInt8) : Prop where
  fresh : ∀ g, IsGroup g → inGroup st g (lamp_num % 256) = false
  nodup : ids.Nodup
  counted : ids = [] ∨ lamp_num < 256 ∨ st.readSpecifyLampNumList (lamp_num % 256) = true

theorem length_le_of_groups (hids : ∀ g ∈ ids, IsGroup g) (hnodup : ids.Nodup) : ids.length ≤ MAX_LAMP_GROUP_NUM := by
  have hnodup' : (ids.map UInt8.toNat).Nodup := hnodup.map fun _ _ h => UInt8.toNat_inj.1 h
  have hsub : (ids.map UInt8.toNat).toFinset ⊆ Finset.Icc 1 MAX_LAMP_GROUP_NUM := by
    intro n hn
    obtain ⟨g, hg, rfl⟩ := List.mem_map.1 (List.mem_toFinset.1 hn)
    exact Finset.mem_Icc.2 (hids g hg)
  have hcard := Finset.card_le_card hsub
  rwa [List.toFinset_card_of_nodup hnodup', List.length_map, Nat.card_Icc] at hcard

/-- **Exactly when a lamp keeps every lead.** -/
theorem fits_iff (hlamp : lamp_num < MAX_LAMP_CONF_NUM) (hlow : LowRecords st) (hids : ∀ g ∈ ids, IsGroup g)
    (hlen : ids.length ≤ MAX_LAMP_GROUP_NUM) (hfit : ∀ g, IsGroup g → listed st g + ids.count g < 65536)
    (add : UInt32) (settings : List UInt8) :
    (∀ g, IsGroup g → lead g (configureLamp st lamp_num ⟨add, settings, fun k => ids.getD k 0⟩ ids) = lead g st) ↔
      Fits st lamp_num ids := by
  have hlead := fun g hg => configureLamp_lead hlamp hlow hlen (g := g) hg (hfit g hg) add settings
  constructor
  · intro hkept
    have hbalance : ∀ g, IsGroup g →
        (if (lamp_num < 256 ∨ st.readSpecifyLampNumList (lamp_num % 256) = true) ∧ g ∈ ids then 1 else 0) =
          (ids.count g : ℤ) + (if inGroup st g (lamp_num % 256) then 1 else 0) := by
      intro g hg
      have := hlead g hg
      rw [hkept g hg] at this
      linarith
    refine ⟨fun g hg => ?_, List.nodup_iff_count_le_one.2 fun g => ?_, ?_⟩
    · -- what was stored leaves no room for an id, and the record of no id cannot make up for it
      by_contra hin
      have := hbalance g hg
      rw [Bool.not_eq_false] at hin
      simp only [hin, if_true] at this
      split_ifs at this with h
      · have := List.count_pos_iff.2 h.2
        omega
      · omega
    · by_cases hmem : g ∈ ids
      · have := hbalance g (hids g hmem)
        split_ifs at this <;> omega
      · rw [List.count_eq_zero_of_not_mem hmem]
        exact Nat.zero_le 1
    · by_contra hnot
      rw [not_or] at hnot
      obtain ⟨g, hmem⟩ := List.exists_mem_of_ne_nil ids hnot.1
      have := hbalance g (hids g hmem)
      rw [if_neg fun h => hnot.2 h.1] at this
      have := List.count_pos_iff.2 hmem
      split_ifs at * <;> omega
  · intro h g hg
    have := hlead g hg
    rw [h.fresh g hg] at this
    by_cases hmem : g ∈ ids
    · have hc : lamp_num < 256 ∨ st.readSpecifyLampNumList (lamp_num % 256) = true :=
        h.counted.resolve_left (List.ne_nil_of_mem hmem)
      rw [if_pos ⟨hc, hmem⟩, List.count_eq_one_of_mem h.nodup hmem, if_neg Bool.false_ne_true] at this
      push_cast at this
      linarith
    · rw [if_neg fun h => hmem h.2, List.count_eq_zero_of_not_mem hmem, if_neg Bool.false_ne_true] at this
      push_cast at this
      linarith

/-- no lamp lowers a lead, and none raises it by more than the ids it may have and the record it replaces -/
theorem lead_mono (hlamp : lamp_num < MAX_LAMP_CONF_NUM) (hlow : LowRecords st)
    (hlen : ids.length ≤ MAX_LAMP_GROUP_NUM) {g : UInt8} (hg : IsGroup g) (hfit : listed st g + ids.count g < 65536)
    (add : UInt32) (settings : List UInt8) :
    lead g st ≤ lead g (configureLamp st lamp_num ⟨add, settings, fun k => ids.getD k 0⟩ ids) ∧
      lead g (configureLamp st lamp_num ⟨add, settings, fun k => ids.getD k 0⟩ ids) ≤ lead g st + 11 := by
  have hlead := configureLamp_lead hlamp hlow hlen hg hfit add settings
  have hcount : ids.count g ≤ 10 := List.count_le_length.trans hlen
  have hmem : (lamp_num < 256 ∨ st.readSpecifyLampNumList (lamp_num % 256) = true) ∧ g ∈ ids → 1 ≤ ids.count g :=
    fun h => List.count_pos_iff.2 h.2
  split_ifs at hlead with h1 h2 h2
  · have := hmem h1
    exact ⟨by linarith, by linarith⟩
  · have := hmem h1
    exact ⟨by omega, by omega⟩
  · exact ⟨by omega, by omega⟩
  · exact ⟨by omega, by omega⟩

end OneLamp

/-! ## One message -/

variable (atof : List UInt8 → UInt32)

/-- a parameter whose text can be read; a lamp is one the list has room for, and its ids are those of groups -/
def Readable (p : Parameter) : Prop :=
  if p.type ∈ basicTypes then p.type = 0x3002 → (cstr p.value).length < 17
  else ∃ t, lampText atof p.value = some t ∧ lampNum p < MAX_LAMP_CONF_NUM ∧ ∀ g ∈ t.ids, IsGroup g

/-- a message as the decoder delivers it: a `u8` counts its parameters -/
def WellFormed (s : ServerFrameStruct) : Prop :=
  ∃ ps, parameters s = some ps ∧ ps.length ≤ 255 ∧ ∀ p ∈ ps, Readable atof p

/-- the lamp of a parameter, if it is one, fits the store it finds -/
def ParamFits (s : LoopState) (p : Parameter) : Prop :=
  ∀ t, p.type ∉ basicTypes → lampText atof p.value = some t → Fits s.store (lampNum p) t.ids

/-- room for `n` more parameters -/
def Room (n : ℕ) (s : LoopState) : Prop :=
  LowRecords s.store ∧ (∀ g : {g // IsGroup g}, 0 ≤ lead g s.store ∧ lead g s.store + 11 * n ≤ 11 * 255) ∧
    ∀ i, i < 0 ∨ (MAX_LAMP_GROUP_NUM : ℤ) < i → s.store.lampGroupListNum i = 0

theorem room_listed {n : ℕ} {s : LoopState} (h : Room (n + 1) s) {g : UInt8} (hg : IsGroup g) :
    listed s.store g < 11 * 255 + MAX_LAMP_CONF_NUM := by
  have hle := groupCount_le s.store g
  obtain ⟨-, hlead, -⟩ := h
  obtain ⟨-, hroom⟩ := hlead ⟨g, hg⟩
  simp only [lead] at hroom
  push_cast at hroom
  omega

theorem reportState_some (ch : UInt8) (text : List UInt8) (h : text.length < 17) : ∃ c, reportState ch text = some c := by
  match text with
  | [] => exact ⟨ch, rfl⟩
  | [d] => exact ⟨_, rfl⟩
  | [d, e] => exact ⟨_, rfl⟩
  | _ :: _ :: _ :: _ => exact ⟨ch, if_pos h⟩

/-- the other parameters leave the store alone, and are read -/
theorem basic_store (s : LoopState) {p : Parameter} (hp : p.type ∈ basicTypes) (h : Readable atof p) :
    ∃ t, s.parameter atof p = some t ∧ t.store = s.store := by
  rw [Readable, if_pos hp] at h
  rw [LoopState.parameter, if_pos hp, LoopState.basic]
  by_cases h1 : p.type = 0x3002
  · obtain ⟨ch, hch⟩ := reportState_some s.ch _ (h h1)
    rw [if_neg (by rw [h1]; decide), if_pos h1, hch]
    exact ⟨_, rfl, rfl⟩
  · rw [if_neg h1]
    split_ifs
    all_goals exact ⟨_, rfl, rfl⟩

/-- a lamp is stored, or has more ids than its record -/
theorem lamp_store (s : LoopState) {p : Parameter} (hp : p.type ∉ basicTypes) {t : LampText}
    (ht : lampText atof p.value = some t) :
    s.parameter atof p = if t.ids.length ≤ MAX_LAMP_GROUP_NUM then
      some { s with
        add := lampAddress s.add t.address
        store := configureLamp s.store (lampNum p)
          ⟨lampAddress s.add t.address, t.settings, fun k => t.ids.getD k 0⟩ t.ids }
      else none := by
  rw [LoopState.parameter, if_neg hp, ht]
  rfl

theorem readable_lamp {p : Parameter} (hp : p.type ∉ basicTypes) (h : Readable atof p) :
    ∃ t, lampText atof p.value = some t ∧ lampNum p < MAX_LAMP_CONF_NUM ∧ ∀ g ∈ t.ids, IsGroup g := by
  rw [Readable, if_neg hp] at h
  exact h

/-- counting stays in the array -/
theorem configureLamp_outside {st : Store} {lamp_num : ℕ} {lamp_conf : LampConfig} {ids : List UInt8}
    (hlamp : lamp_num < MAX_LAMP_CONF_NUM) (hids : ∀ g ∈ ids, IsGroup g) {i : ℤ}
    (hi : i < 0 ∨ (MAX_LAMP_GROUP_NUM : ℤ) < i) :
    (configureLamp st lamp_num lamp_conf ids).lampGroupListNum i = st.lampGroupListNum i := by
  obtain ⟨memory, hfold, -, hframe⟩ := countGroups ids st
  rw [(configureLamp_tables _ _ _ hlamp).2.2, hfold]
  apply hframe i
  intro g hg h
  obtain ⟨h1, h10⟩ := hids g hg
  omega

theorem parameter_room {n : ℕ} {s t : LoopState} {p : Parameter} (hp : Readable atof p) (hs : Room (n + 1) s)
    (h : s.parameter atof p = some t) :
    Room n t ∧ ∀ g : {g // IsGroup g}, lead g s.store ≤ lead g t.store := by
  obtain ⟨hlow, hlead, hout⟩ := id hs
  by_cases hb : p.type ∈ basicTypes
  · obtain ⟨t', ht', hstore⟩ := basic_store atof s hb hp
    rw [ht', Option.some.injEq] at h
    subst h
    rw [Room, hstore]
    refine ⟨⟨hlow, fun g => ⟨(hlead g).1, ?_⟩, hout⟩, fun g => le_rfl⟩
    have := (hlead g).2
    push_cast at this
    linarith
  · obtain ⟨x, hx, hlamp, hids⟩ := readable_lamp atof hb hp
    rw [lamp_store atof s hb hx] at h
    obtain ⟨hlen, h⟩ := Option.ite_none_right_eq_some.1 h
    cases h
    have hmono : ∀ g : {g // IsGroup g}, _ := fun g =>
      lead_mono hlamp hlow hlen g.2 (by
        have := room_listed hs g.2
        have : x.ids.count g.1 ≤ 10 := List.count_le_length.trans hlen
        simp only [MAX_LAMP_CONF_NUM] at *
        omega) (lampAddress s.add x.address) x.settings
    refine ⟨⟨lowRecords_configureLamp hlamp hlow, fun g => ⟨(hlead g).1.trans (hmono g).1, ?_⟩, fun i hi => ?_⟩,
      fun g => (hmono g).1⟩
    · have := (hlead g).2
      have := (hmono g).2
      push_cast at *
      linarith
    · exact (configureLamp_outside hlamp hids hi).trans (hout i hi)

theorem parameter_kept {n : ℕ} {s : LoopState} {p : Parameter} (hp : Readable atof p) (hs : Room (n + 1) s) :
    (∃ t, s.parameter atof p = some t ∧ ∀ g : {g // IsGroup g}, lead g t.store = lead g s.store) ↔
      ParamFits atof s p := by
  by_cases hb : p.type ∈ basicTypes
  · obtain ⟨t, ht, hstore⟩ := basic_store atof s hb hp
    exact ⟨fun _ _ hnb => absurd hb hnb, fun _ => ⟨t, ht, fun g => by rw [hstore]⟩⟩
  · obtain ⟨x, hx, hlamp, hids⟩ := readable_lamp atof hb hp
    have hroom : ∀ g, IsGroup g → x.ids.length ≤ MAX_LAMP_GROUP_NUM → listed s.store g + x.ids.count g < 65536 := by
      intro g hg hlen
      have := room_listed hs hg
      have : x.ids.count g ≤ 10 := List.count_le_length.trans hlen
      simp only [MAX_LAMP_CONF_NUM] at *
      omega
    constructor
    · intro h t _ ht
      obtain ⟨u, hu, hkept⟩ := h
      rw [hx, Option.some.injEq] at ht
      subst ht
      rw [lamp_store atof s hb hx] at hu
      obtain ⟨hlen, hu⟩ := Option.ite_none_right_eq_some.1 hu
      cases hu
      exact (fits_iff hlamp hs.1 hids hlen (fun g hg => hroom g hg hlen) _ _).1 fun g hg => hkept ⟨g, hg⟩
    · intro h
      have hfits := h x hb hx
      have hlen := length_le_of_groups hids hfits.nodup
      refine ⟨_, (lamp_store atof s hb hx).trans (if_pos hlen), fun g => ?_⟩
      exact (fits_iff hlamp hs.1 hids hlen (fun g hg => hroom g hg hlen) _ _).2 hfits g.1 g.2

/-- every lamp of the message fits -/
def MessageFits (c : Conf) (s : ServerFrameStruct) : Prop :=
  ∀ ps, parameters s = some ps →
    Tally.Along (LoopState.parameter atof) (ParamFits atof) ⟨c.lampBasicConfig, c.store, 0, 0⟩ ps

/-- what every message keeps of the memory: no record out of reach, nothing written outside the structure -/
def Sound (c : Conf) : Prop :=
  LowRecords c.store ∧ ∀ i, i < 0 ∨ (MAX_LAMP_GROUP_NUM : ℤ) < i → c.store.lampGroupListNum i = 0

/-- the list agrees with the records -/
def Agrees (c : Conf) : Prop := ∀ g, IsGroup g → listed c.store g = groupCount c.store g

theorem agrees_iff_lead (c : Conf) : Agrees c ↔ ∀ g : {g // IsGroup g}, lead g c.store = 0 := by
  constructor
  · intro h g
    rw [lead, h g.1 g.2, sub_self]
  · intro h g hg
    exact Int.ofNat_inj.1 (sub_eq_zero.1 (h ⟨g, hg⟩))

/-- the checksum is written after the list, not in it -/
theorem lead_writeLampGroupListNum (st : Store) (g : {g // IsGroup g}) : lead g (writeLampGroupListNum st) = lead g st := by
  have hne : ¬ ((g.1.toNat : ℤ) - 1 = MAX_LAMP_GROUP_NUM) := by
    have := g.2.2
    omega
  have hlist : listed (writeLampGroupListNum st) g = listed st g := if_neg hne
  rw [lead, hlist]
  rfl

theorem room_start {c : Conf} (hs : Sound c) (ha : Agrees c) {n : ℕ} (hn : n ≤ 255) :
    Room n ⟨c.lampBasicConfig, c.store, 0, 0⟩ := by
  refine ⟨hs.1, fun g => ?_, hs.2⟩
  have hlead : lead g c.store = 0 := (agrees_iff_lead c).1 ha g
  have hn : (n : ℤ) ≤ 255 := by exact_mod_cast hn
  dsimp only
  rw [hlead]
  exact ⟨le_rfl, by linarith⟩

section Message

variable {atof} {c : Conf} {s : ServerFrameStruct} (hw : WellFormed atof s) (hs : Sound c) (ha : Agrees c)

include hw hs ha

/-- the parameters of a message, read one after the other -/
theorem message_parameters : ∃ ps, parameters s = some ps ∧ ∀ r,
    (ps.foldlM (LoopState.parameter atof) ⟨c.lampBasicConfig, c.store, 0, 0⟩ = some r → Room 0 r) ∧
    ((∃ r, ps.foldlM (LoopState.parameter atof) ⟨c.lampBasicConfig, c.store, 0, 0⟩ = some r ∧
      ∀ g : {g // IsGroup g}, lead g r.store = 0) ↔ MessageFits atof c s) := by
  obtain ⟨ps, hps, hlen, hread⟩ := hw
  obtain ⟨hinv, hkept⟩ := @Tally.kept_iff_along _ _ (LoopState.parameter atof) {g // IsGroup g}
    (fun g r => lead g r.store) Room (ParamFits atof) (Readable atof)
    (fun n r p t hp hr h => parameter_room atof hp hr h) (fun n r p hp hr => parameter_kept atof hp hr) ps hread
    ⟨c.lampBasicConfig, c.store, 0, 0⟩ (room_start hs ha hlen)
  refine ⟨ps, hps, fun r => ⟨fun h => (hinv r h).1, ?_⟩⟩
  have hstart : ∀ g : {g // IsGroup g}, lead g c.store = 0 := (agrees_iff_lead c).1 ha
  simp only [hstart] at hkept
  rw [hkept]
  constructor
  · intro h ps' hps'
    rw [hps, Option.some.injEq] at hps'
    exact hps' ▸ h
  · exact fun h => h ps hps

theorem message_sound {t : Conf} (h : lampSetBasicConfiguration atof c s = some t) : Sound t := by
  obtain ⟨ps, hps, hrun⟩ := message_parameters hw hs ha
  rw [lampSetBasicConfiguration, hps, Option.bind_some] at h
  obtain ⟨r, hr, rfl⟩ := Option.map_eq_some_iff.1 h
  obtain ⟨hlow, -, hout⟩ := (hrun r).1 hr
  refine ⟨hlow, fun i hi => ?_⟩
  have hne : ¬ (i = MAX_LAMP_GROUP_NUM) := by
    rcases hi with hi | hi
    · exact fun h => absurd hi (by omega)
    · exact ne_of_gt hi
  exact (if_neg hne).trans (hout i hi)

theorem message_agrees : (∃ t, lampSetBasicConfiguration atof c s = some t ∧ Agrees t) ↔ MessageFits atof c s := by
  obtain ⟨ps, hps, hrun⟩ := message_parameters hw hs ha
  rw [← (hrun ⟨c.lampBasicConfig, c.store, 0, 0⟩).2, lampSetBasicConfiguration, hps, Option.bind_some]
  constructor
  · intro h
    obtain ⟨t, ht, hat⟩ := h
    obtain ⟨r, hr, rfl⟩ := Option.map_eq_some_iff.1 ht
    refine ⟨r, hr, fun g => ?_⟩
    rw [← lead_writeLampGroupListNum]
    exact (agrees_iff_lead _).1 hat g
  · intro h
    obtain ⟨r, hr, hlead⟩ := h
    refine ⟨_, Option.map_eq_some_iff.2 ⟨r, hr, rfl⟩, (agrees_iff_lead _).2 fun g => ?_⟩
    exact (lead_writeLampGroupListNum r.store g).trans (hlead g)

end Message

/-! ## The counts that are read -/

/-- a task for one group, before its devices are counted -/
structure OneGroup (task : Plc.Task) (g : UInt8) : Prop where
  broadcast_type : task.broadcast_type = 1
  first : (task.group_dev_id 0).toNat = g.toNat
  second : task.group_dev_id 1 = 0
  dev_num : task.dev_num = 0

theorem oneGroup_groupNum {task : Plc.Task} {g : UInt8} (hg : IsGroup g) (h : OneGroup task g) : task.groupNum = 1 := by
  obtain ⟨hle, hall, hend⟩ := Plc.groupNum_spec task
  have hpos : task.groupNum ≠ 0 := by
    intro h0
    have hfirst : task.group_dev_id 0 = 0 := by
      have := hend (by rw [h0]; decide)
      rwa [h0] at this
    have hzero : g.toNat = 0 := by rw [← h.first, hfirst]; rfl
    exact absurd hg.1 (by omega)
  have hlt : ¬ 1 < task.groupNum := fun h1 => hall 1 h1 h.second
  omega

/-- the two counting functions read one entry -/
theorem getTaskInfo_oneGroup (groupIndex : UInt32 → ℤ) (rounds : ℕ) (st : Store) {task : Plc.Task} {g : UInt8}
    (hg : IsGroup g) (h : OneGroup task g) :
    (Plc.getTaskInfo groupIndex rounds st task).dev_num =
      st.lampGroupListNum (groupIndex (task.group_dev_id 0)) % 65536 := by
  have hnum := oneGroup_groupNum hg h
  rw [Plc.getTaskInfo]
  dsimp only
  rw [h.broadcast_type]
  change (List.range task.groupNum).foldl _ task.dev_num = _
  rw [hnum, h.dev_num]
  change (0 + _) % 65536 = _
  rw [zero_add]

/-- `LampGetLampPlcExecuteTaskInfo` reads the entry of the group -/
theorem info_oneGroup (st : Store) {task : Plc.Task} {g : UInt8} (hg : IsGroup g) (h : OneGroup task g) :
    (Plc.lampGetLampPlcExecuteTaskInfo st task).dev_num = listed st g % 65536 := by
  have hid : (task.group_dev_id 0).toUInt8.toNat = g.toNat := by
    rw [UInt32.toNat_toUInt8, h.first]
    exact Nat.mod_eq_of_lt g.toNat_lt
  rw [Plc.lampGetLampPlcExecuteTaskInfo, getTaskInfo_oneGroup _ _ _ hg h, hid, listed]

/-- `LampGetLampPlcExecuteTaskInfo1` reads the one after it -/
theorem info1_oneGroup (st : Store) {task : Plc.Task} {g : UInt8} (hg : IsGroup g) (h : OneGroup task g) :
    (Plc.lampGetLampPlcExecuteTaskInfo1 st task).dev_num = st.lampGroupListNum g.toNat % 65536 := by
  rw [Plc.lampGetLampPlcExecuteTaskInfo1, getTaskInfo_oneGroup _ _ _ hg h, h.first]

/-- the parameters of a firmware update address the task and do nothing else to it -/
theorem addressed_updateParameters (images : Images) (first : Option Parameter) (ps : List Parameter) :
    ∀ s r, Plc.Addressed s → updateParameters images first ps s = some (.ok r) → Plc.Addressed r := by
  induction ps with
  | nil =>
    intro s r hs h
    cases h
    exact hs
  | cons p ps ih =>
    intro s r hs h
    rw [updateParameters] at h
    obtain ⟨e, he, h⟩ := Option.bind_eq_some_iff.1 h
    cases e with
    | error state => cases h
    | ok t =>
      refine ih t r ?_ h
      rw [updateParameter] at he
      by_cases h1 : p.type = 0x8001
      · rw [if_pos h1] at he
        cases he
        obtain ⟨bt, ids, hs⟩ := hs
        exact ⟨_, ids, by rw [hs]⟩
      rw [if_neg h1] at he
      by_cases h2 : p.type = 0x4002
      · rw [if_pos h2] at he
        obtain ⟨t', ht', hok⟩ := Option.map_eq_some_iff.1 he
        cases hok
        exact CLoop.foldlM_inv Plc.addressed_pushText _ s t hs ht'
      rw [if_neg h2] at he
      by_cases h3 : p.type = 0x4003
      · rw [if_pos h3] at he
        obtain ⟨f, -, hf⟩ := Option.bind_eq_some_iff.1 he
        split_ifs at hf <;> cases hf
        exact hs
      · rw [if_neg h3] at he
        cases he
        exact hs

/-- and so does `LampStartFirmWareUpdate` -/
theorem update_oneGroup {images : Images} {st : Store} {s : ServerFrameStruct} {task : Plc.Task} {g : UInt8}
    (h : lampStartFirmWareUpdate images st s = some (.ok task)) (hbt : task.broadcast_type = 1)
    (hnum : task.group_num = 1) (hfirst : (task.group_dev_id 0).toNat = g.toNat) :
    task.dev_num = st.lampGroupListNum g.toNat % 65536 := by
  obtain ⟨ps, -, h⟩ := Option.bind_eq_some_iff.1 h
  obtain ⟨e, he, h⟩ := Option.map_eq_some_iff.1 h
  cases e with
  | error state => cases h
  | ok r =>
    obtain ⟨bt, ids, hr⟩ := addressed_updateParameters images _ ps _ r ⟨0, fun _ => 0, rfl⟩ he
    have htask : updateTask images st r.k r.task = task := by cases h; rfl
    rw [hr] at htask
    subst htask
    have hbt1 : bt = 1 := by
      unfold updateTask at hbt
      dsimp only at hbt
      split at hbt <;> exact hbt
    subst hbt1
    change r.k = 1 at hnum
    change (ids 0).toNat = g.toNat at hfirst
    change (List.range r.k).foldl (fun n m => (n + st.lampGroupListNum (ids m).toNat) % 65536) 0 = _
    rw [hnum]
    change (0 + st.lampGroupListNum (ids 0).toNat) % 65536 = _
    rw [hfirst, zero_add]

/-! ## Over any messages -/

/-- the list is right, nothing else was written, and `LampGetLampPlcExecuteTaskInfo` reads the number from it -/
structure Counted (c : Conf) : Prop where
  counts : Agrees c
  outside : ∀ i, i < 0 ∨ (MAX_LAMP_GROUP_NUM : ℤ) < i → c.store.lampGroupListNum i = 0
  info : ∀ g task, IsGroup g → OneGroup task g →
    (Plc.lampGetLampPlcExecuteTaskInfo c.store task).dev_num = groupCount c.store g

/-- and so do the other two functions -/
structure Exact (c : Conf) : Prop extends Counted c where
  info1 : ∀ g task, IsGroup g → OneGroup task g →
    (Plc.lampGetLampPlcExecuteTaskInfo1 c.store task).dev_num = groupCount c.store g
  update : ∀ images s task g, IsGroup g → lampStartFirmWareUpdate images c.store s = some (.ok task) →
    task.broadcast_type = 1 → task.group_num = 1 → (task.group_dev_id 0).toNat = g.toNat →
      task.dev_num = groupCount c.store g

theorem counted_of_agrees {c : Conf} (hs : Sound c) (ha : Agrees c) : Counted c := by
  refine ⟨ha, hs.2, fun g task hg h => ?_⟩
  have hle : groupCount c.store g < 65536 := (groupCount_le _ _).trans_lt (by decide)
  rw [info_oneGroup c.store hg h, ha g hg, Nat.mod_eq_of_lt hle]

/-- the checksum of ten copies of a number -/
def crcOfCopies (n : ℕ) : ℕ × ℕ :=
  ((List.range MAX_LAMP_GROUP_NUM).flatMap fun _ => [n % 256, n / 256 % 256]).foldl crc16NatStep (255, 255)

/-- no number of lamps is the checksum of ten copies of itself -/
theorem crcOfCopies_ne : ∀ n ≤ MAX_LAMP_CONF_NUM, (crcOfCopies n).1 * 256 + (crcOfCopies n).2 ≠ n := by decide +kernel

theorem crc16Value_copies (n : ℕ) :
    crc16Value ((List.range MAX_LAMP_GROUP_NUM).flatMap fun _ => [UInt8.ofNat n, UInt8.ofNat (n / 256)]) =
      (crcOfCopies n).1 * 256 + (crcOfCopies n).2 := by
  set bs := (List.range MAX_LAMP_GROUP_NUM).flatMap fun _ => [UInt8.ofNat n, UInt8.ofNat (n / 256)] with hbs
  have hmap : bs.map UInt8.toNat = (List.range MAX_LAMP_GROUP_NUM).flatMap fun _ => [n % 256, n / 256 % 256] := by
    rw [hbs, List.map_flatMap]
    rfl
  have hcrc : ((crc16 bs).1.toNat, (crc16 bs).2.toNat) = crcOfCopies n := by
    rw [crcOfCopies, ← hmap]
    exact crc16_nat bs (0xFF, 0xFF)
  rw [crc16Value, ← hcrc]

theorem crc16Value_lt (bs : List UInt8) : crc16Value bs < 65536 := by
  have hhi := (crc16 bs).1.toNat_lt
  have hlo := (crc16 bs).2.toNat_lt
  rw [crc16Value]
  omega

def oneGroupTask (g : UInt8) : Plc.Task :=
  { Plc.Task.zero with broadcast_type := 1, group_dev_id := fun i => if i = 0 then g.toUInt32 else 0 }

theorem oneGroup_oneGroupTask (g : UInt8) : OneGroup (oneGroupTask g) g := ⟨rfl, UInt8.toNat_toUInt32 g, rfl, rfl⟩

theorem isGroup_ofNat {n : ℕ} (h1 : 1 ≤ n) (h10 : n ≤ MAX_LAMP_GROUP_NUM) :
    IsGroup (UInt8.ofNat n) ∧ (UInt8.ofNat n).toNat = n := by
  have hmax : MAX_LAMP_GROUP_NUM = 10 := rfl
  have hn : (UInt8.ofNat n).toNat = n := Nat.mod_eq_of_lt (by omega)
  rw [IsGroup, hn]
  exact ⟨⟨h1, h10⟩, rfl⟩

/-- entry `n` is both the number of group `n + 1` and, one too far, that of group `n` -/
theorem Exact.entry {c : Conf} (he : Exact c) {n : ℕ} (h1 : 1 ≤ n) (h10 : n ≤ MAX_LAMP_GROUP_NUM) :
    c.store.lampGroupListNum n % 65536 = c.store.lampGroupListNum (n - 1) := by
  obtain ⟨hg, hn⟩ := isGroup_ofNat h1 h10
  have hinfo := he.info1 _ _ hg (oneGroup_oneGroupTask _)
  rw [info1_oneGroup _ hg (oneGroup_oneGroupTask _), ← he.counts _ hg, listed, hn] at hinfo
  exact hinfo

theorem Agrees.small {c : Conf} (ha : Agrees c) {n : ℕ} (h : n < MAX_LAMP_GROUP_NUM) :
    c.store.lampGroupListNum n ≤ MAX_LAMP_CONF_NUM := by
  obtain ⟨hg, hn⟩ := isGroup_ofNat (Nat.succ_pos n) h
  have hcount := ha _ hg
  have hidx : ((n + 1 : ℕ) : ℤ) - 1 = n := by
    push_cast
    ring
  rw [listed, hn, hidx] at hcount
  exact hcount.trans_le (groupCount_le _ _)

/-- each group has as many lamps as the one before it -/
theorem Exact.equal {c : Conf} (he : Exact c) (n : ℕ) (h : n < MAX_LAMP_GROUP_NUM) :
    c.store.lampGroupListNum n = c.store.lampGroupListNum 0 := by
  induction n with
  | zero => rfl
  | succ n ih =>
    have hstep := he.entry (Nat.succ_pos n) h.le
    have hidx : ((n + 1 : ℕ) : ℤ) - 1 = (n : ℕ) := by
      push_cast
      ring
    have hsmall : c.store.lampGroupListNum (n + 1 : ℕ) < 65536 := (he.counts.small h).trans_lt (by decide)
    rw [Nat.mod_eq_of_lt hsmall, hidx] at hstep
    exact hstep.trans (ih (Nat.lt_of_succ_lt h))

theorem writeLampGroupListNum_entry (st : Store) {n : ℕ} (h : n < MAX_LAMP_GROUP_NUM) :
    (writeLampGroupListNum st).lampGroupListNum n = st.lampGroupListNum n := by
  have hne : ¬ (n : ℤ) = MAX_LAMP_GROUP_NUM := by omega
  exact if_neg hne

/-- **No message leaves every number right.** Each group would have as many lamps as the one before it, and the last one
as many as the checksum says. -/
theorem not_exact {c t : Conf} {s : ServerFrameStruct} (h : lampSetBasicConfiguration atof c s = some t) : ¬ Exact t := by
  intro he
  obtain ⟨ps, -, h⟩ := Option.bind_eq_some_iff.1 h
  obtain ⟨r, -, rfl⟩ := Option.map_eq_some_iff.1 h
  set st := r.store
  have hall : ∀ n : ℕ, n < MAX_LAMP_GROUP_NUM → st.lampGroupListNum n = st.lampGroupListNum 0 := by
    intro n hn
    calc st.lampGroupListNum n = (writeLampGroupListNum st).lampGroupListNum n := (writeLampGroupListNum_entry st hn).symm
      _ = (writeLampGroupListNum st).lampGroupListNum 0 := he.equal n hn
      _ = st.lampGroupListNum 0 := writeLampGroupListNum_entry st (n := 0) (by decide)
  have hsmall : st.lampGroupListNum 0 ≤ MAX_LAMP_CONF_NUM := by
    have hzero := he.counts.small (n := 0) (by decide)
    rwa [writeLampGroupListNum_entry st (n := 0) (by decide)] at hzero
  have hbytes : groupListBytes st = (List.range MAX_LAMP_GROUP_NUM).flatMap fun _ =>
      [UInt8.ofNat (st.lampGroupListNum 0), UInt8.ofNat (st.lampGroupListNum 0 / 256)] := by
    rw [groupListBytes]
    refine List.flatMap_congr fun i hi => ?_
    rw [hall i (List.mem_range.1 hi)]
  have hlast := he.entry (n := MAX_LAMP_GROUP_NUM) (by decide) le_rfl
  have hcrc : (writeLampGroupListNum st).lampGroupListNum (MAX_LAMP_GROUP_NUM : ℕ) = crc16Value (groupListBytes st) := by
    simp only [writeLampGroupListNum, if_true]
  rw [hcrc, Nat.mod_eq_of_lt (crc16Value_lt _), hbytes, crc16Value_copies] at hlast
  refine crcOfCopies_ne (st.lampGroupListNum 0) hsmall (hlast.trans ?_)
  exact (writeLampGroupListNum_entry st (n := 9) (by decide)).trans (hall 9 (by decide))

theorem sound_erased : Sound .erased := ⟨fun _ _ => rfl, fun _ _ => rfl⟩

theorem agrees_erased : Agrees .erased := by
  intro g _
  have hnone : ∀ i, inGroup Conf.erased.store g i = false := fun i => Bool.and_false _
  rw [groupCount, Finset.filter_false_of_mem fun i _ => by rw [hnone i]; exact Bool.false_ne_true]
  rfl

/-- **Group counts.** From an erased memory, over any readable messages: the list is right throughout exactly when each
lamp fits the store it finds; all the numbers read from it are right throughout only where there is no message. -/
theorem groupCounts_iff (msgs : List ServerFrameStruct) (hmsgs : ∀ s ∈ msgs, WellFormed atof s) :
    (Tally.Throughout (lampSetBasicConfiguration atof) Exact .erased msgs ↔ msgs = []) ∧
    (Tally.Throughout (lampSetBasicConfiguration atof) Counted .erased msgs ↔
      Tally.Along (lampSetBasicConfiguration atof) (MessageFits atof) .erased msgs) := by
  have hcounted := counted_of_agrees sound_erased agrees_erased
  refine ⟨⟨fun h => ?_, fun h => ?_⟩, ?_⟩
  · cases msgs with
    | nil => rfl
    | cons s msgs =>
      obtain ⟨_, t, ht, h⟩ := h
      exact absurd (Tally.throughout_head _ h) (not_exact atof ht)
  · subst h
    have hzero : ∀ g, IsGroup g → groupCount Conf.erased.store g = 0 := fun g hg => (agrees_erased g hg).symm
    refine ⟨hcounted, fun g task hg ht => ?_, fun images s task g hg ht hbt hnum hfirst => ?_⟩
    · rw [info1_oneGroup _ hg ht, hzero g hg]
      rfl
    · rw [update_oneGroup ht hbt hnum hfirst, hzero g hg]
      rfl
  · refine @Tally.throughout_iff_along _ _ _ Sound _ _ (WellFormed atof) ?_ ?_ msgs hmsgs _ sound_erased hcounted
    · intro c s t hw hs hc h _
      exact message_sound hw hs hc.counts h
    · intro c s hw hs hc
      rw [← message_agrees hw hs hc.counts]
      constructor
      · exact fun ⟨t, ht, hct⟩ => ⟨t, ht, hct.counts⟩
      · exact fun ⟨t, ht, hat⟩ => ⟨t, ht, counted_of_agrees (message_sound hw hs hc.counts ht) hat⟩

/-- a message that configures one lamp: every field zero, and the ids -/
def lampMsg (type : UInt16) (ids : List UInt8) : ServerFrameStruct :=
  let value := (List.replicate 8 [0x30, 0x2C]).flatten ++ [0x30, 0x7C, 0x30, 0x2C, 0x30, 0x7C] ++ ids ++ [0]
  { ServerFrameStruct.zero with para_num := 1, para := [some ⟨type, value.length - 1, value⟩] }

/-- lamp 0 in group 1 -/
theorem wellFormed_lampMsg : WellFormed (fun _ => 0) (lampMsg 0x400A [0x31]) := by
  refine ⟨_, rfl, by decide, fun p hp => ?_⟩
  rw [List.mem_singleton.1 hp]
  exact ⟨_, rfl, by decide, by decide +kernel⟩

theorem groupCounts_none_and_one :
    Tally.Throughout (lampSetBasicConfiguration fun _ => 0) Exact .erased [] ∧
      (Tally.Throughout (lampSetBasicConfiguration fun _ => 0) Counted .erased [lampMsg 0x400A [0x31]] ↔
        Tally.Along (lampSetBasicConfiguration fun _ => 0) (MessageFits fun _ => 0) .erased [lampMsg 0x400A [0x31]]) := by
  refine ⟨(groupCounts_iff _ [] fun _ h => absurd h List.not_mem_nil).1.2 rfl, (groupCounts_iff _ _ fun s hs => ?_).2⟩
  rw [List.mem_singleton.1 hs]
  exact wellFormed_lampMsg

/-- **One lamp, sent twice.** Lamp 0 is configured with group 1, and then again: the list says two lamps. -/
theorem configured_twice :
    let msgs := [lampMsg 0x400A [0x31], lampMsg 0x400A [0x31]]
    (∀ s ∈ msgs, WellFormed (fun _ => 0) s) ∧
      (msgs.foldlM (lampSetBasicConfiguration fun _ => 0) .erased).map
        (fun c => (listed c.store 1, groupCount c.store 1)) = some (2, 1) ∧
      ¬ Tally.Throughout (lampSetBasicConfiguration fun _ => 0) Exact .erased msgs := by
  intro msgs
  have hrun : (msgs.foldlM (lampSetBasicConfiguration fun _ => 0) .erased).map
      (fun c => (listed c.store 1, groupCount c.store 1)) = some (2, 1) := by decide +kernel
  refine ⟨fun s hs => ?_, hrun, fun h => ?_⟩
  · have hs : s = lampMsg 0x400A [0x31] := by simpa [msgs] using hs
    rw [hs]
    exact wellFormed_lampMsg
  · obtain ⟨c, hc, hexact⟩ := Tally.throughout_last _ msgs _ h
    rw [hc, Option.map_some, Option.some.injEq, Prod.mk.injEq, hexact.counts 1 (by decide)] at hrun
    omega

end DataConcentrator.Lamp
