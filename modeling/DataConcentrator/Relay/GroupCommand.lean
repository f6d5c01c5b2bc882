/-
The group commands of the server: `RelayLoopGroupControl`.

A loop is in sixteen groups at most, and a slot without a group holds 0. The single number 0 asks for every grouped
loop; among other numbers a 0 is compared with the slots like any of them.
- `relayLoopGroupControl`: the handler without its answer, with the commands it gives;
- `groupList_text`: which numbers of the list are read;
- `groupLoops_spec`, `groupModules_run`: the masks of a module, and the commands to all of them;
- `relayLoopGroupControl_iff`: when the commands are for the enabled loops in the groups of the list.
-/
import DataConcentrator.AlarmConfig.Handlers
import DataConcentrator.Lib.CLoop
import DataConcentrator.Relay.LoopCommand

namespace DataConcentrator.Relay

open Protocol (Parameter ServerFrameStruct)
open AlarmConfig (MAX_RELAY_MODULE_LOOP_CH_NUM)

def MAX_RELAY_MODULE_LOOP_GROUP_NUM : ℕ := 16

/-! ## The list -/

/-- `*msg == ',' || *msg == '\0'` -/
def endsNumber (b : UInt8) : Bool := b = 0x2C || b = 0

/-- `group_num`, a `u8`: one more than the commas before the terminator, 16 at most -/
def groupNum (msg : List UInt8) : Option ℕ :=
  if 0 ∈ msg then some (min (((cstr msg).count 0x2C + 1) % 256) MAX_RELAY_MODULE_LOOP_GROUP_NUM) else none

/-- one number of the list -/
def groupNumber (_ : Unit) (r : Reader) : Option (UInt8 × Unit × Reader) :=
  (r.field 5 endsNumber).map fun f => (u8Of f.1, (), f.2)

/-- the first `group_num` entries of `group` -/
def groupList (msg : List UInt8) : Option (List UInt8) := do
  let group_num ← groupNum msg
  let (group, _, _) ← readSegments groupNumber group_num () ⟨msg, [0, 0, 0, 0, 0]⟩
  some group

/-! ## The loops of a module -/

/-- the field `loop_group` of each module -/
def LoopGroups : Type := ℕ → Fin MAX_RELAY_MODULE_LOOP_CH_NUM → Fin MAX_RELAY_MODULE_LOOP_GROUP_NUM → UInt8

section Masks

variable (loop_group : LoopGroups) (on_off : UInt8) (group : List UInt8)

/-- `RelayModuleConfig[i].loop_group[k][m]`; `none` outside the array -/
def loopGroupAt (i k : ℕ) (m : Fin MAX_RELAY_MODULE_LOOP_GROUP_NUM) : Option UInt8 :=
  if h : k < MAX_RELAY_MODULE_LOOP_CH_NUM then some (loop_group i ⟨k, h⟩ m) else none

/-- the test of a slot: against 0 for the single number 0, and by the loop over `j` otherwise -/
def slotTest (slot : Option UInt8) : Option Bool :=
  if group = [0] then slot.map (· != 0) else group.anyM fun g => slot.map (· == g)

/-- the loop over `m`, left at the first slot that passes -/
def loopTest (i k : ℕ) : Option Bool :=
  (List.finRange MAX_RELAY_MODULE_LOOP_GROUP_NUM).anyM fun m => slotTest group (loopGroupAt loop_group i k m)

/-- one round of the loop over `k`, on `loop_ch` and `loop_state` -/
def groupLoop (i : ℕ) (c : UInt16 × UInt16) (k : ℕ) : Option (UInt16 × UInt16) :=
  (loopTest loop_group group i k).map fun passes =>
    if passes then
      (c.1 ||| loopBit k,
        if on_off = 1 then c.2 ||| loopBit k else if on_off = 0 then c.2 &&& ~~~loopBit k else c.2)
    else c

/-- `loop_ch` and `loop_state` of module `i` -/
def groupLoops (config : RelayModuleConfig) (i : ℕ) : Option (UInt16 × UInt16) :=
  (List.range config.loop_num.toNat).foldlM (groupLoop loop_group on_off group i) (0, 0)

end Masks

section Control

variable (now : List UInt8) (loop_group : LoopGroups)

/-- the modules, and the channels they were commanded with, in the order of the commands -/
abbrev GroupCommands : Type := RelayModules × List (ℕ × UInt16)

/-- one round of the loop over `i` -/
def groupModule (config : ℕ → RelayModuleConfig) (on_off : UInt8) (group : List UInt8) (r : GroupCommands) (i : ℕ) :
    Option GroupCommands :=
  (groupLoops loop_group on_off group (config i) i).map fun c =>
    if c.1 ≠ 0 then (serverCommand now r.1 i c.1 c.2, r.2 ++ [(i, c.1 &&& (config i).loop_enable)]) else r

/-- `RelayLoopGroupControl` without its answer -/
def relayLoopGroupControl (s : ServerFrameStruct) (ms : RelayModules) : Option GroupCommands :=
  if s.para_num = 2 then do
    let p ← s.paraAt 0
    let group ← groupList p.value
    let p ← s.paraAt 1
    (List.range ms.number).foldlM (groupModule now loop_group ms.config (u8Of (cstr p.value)) group) (ms, [])
  else some (ms, [])

end Control

/-! ## Meaning -/

section Meaning

variable (loop_group : LoopGroups)

/-- some slot of loop `k` of module `i` holds `g` -/
def InGroup (i k : ℕ) (g : UInt8) : Prop :=
  ∃ (h : k < MAX_RELAY_MODULE_LOOP_CH_NUM) (m : Fin MAX_RELAY_MODULE_LOOP_GROUP_NUM), loop_group i ⟨k, h⟩ m = g

instance decidableInGroup (i k : ℕ) (g : UInt8) : Decidable (InGroup loop_group i k g) :=
  inferInstanceAs (Decidable (∃ (_ : _) (_ : _), _))

/-- a loop in one of the nonzero groups of a list -/
def Listed (gs : List UInt8) (i k : ℕ) : Prop := ∃ g ∈ gs, g ≠ 0 ∧ InGroup loop_group i k g

instance decidableListed (gs : List UInt8) (i k : ℕ) : Decidable (Listed loop_group gs i k) :=
  List.decidableBEx (fun g => g ≠ 0 ∧ InGroup loop_group i k g) gs

/-- a loop in any group -/
def Grouped (i k : ℕ) : Prop :=
  ∃ (h : k < MAX_RELAY_MODULE_LOOP_CH_NUM) (m : Fin MAX_RELAY_MODULE_LOOP_GROUP_NUM), loop_group i ⟨k, h⟩ m ≠ 0

instance decidableGrouped (i k : ℕ) : Decidable (Grouped loop_group i k) :=
  inferInstanceAs (Decidable (∃ (_ : _) (_ : _), _))

/-- the loops a list of group numbers is for -/
def Meant (gs : List UInt8) (i k : ℕ) : Prop := if gs = [0] then Grouped loop_group i k else Listed loop_group gs i k

instance decidableMeant (gs : List UInt8) (i k : ℕ) : Decidable (Meant loop_group gs i k) :=
  inferInstanceAs (Decidable (ite _ _ _))

/-- the numbers that are used: of an empty list a 0, and the first sixteen of as many as a `u8` counts -/
def usedGroups (gs : List UInt8) : List UInt8 :=
  if gs = [] then [0] else gs.take (min (gs.length % 256) MAX_RELAY_MODULE_LOOP_GROUP_NUM)

/-- **The mistaken loops** of a list.
- A single 0 is used but is not the list, and the loop is in groups, though in none of the list;
- other numbers are used, a 0 among them, and the loop has a slot without a group, but is in no group of the list;
- other numbers are used, and the loop is in a group of the list but in none that is used, and no 0 is used for a slot
  of it without a group. -/
def Mistaken (gs : List UInt8) (i k : ℕ) : Prop :=
  if usedGroups gs = [0] then gs ≠ [0] ∧ Grouped loop_group i k ∧ ¬ Listed loop_group gs i k
  else (0 ∈ usedGroups gs ∧ InGroup loop_group i k 0 ∧ ¬ Listed loop_group gs i k) ∨
    (Listed loop_group gs i k ∧ ¬ Listed loop_group (usedGroups gs) i k ∧
      ¬ (0 ∈ usedGroups gs ∧ InGroup loop_group i k 0))

end Meaning

section Commands

variable (now : List UInt8) (on_off : UInt8) (ms : RelayModules)

/-- the modules of the log have their channels and their state commanded, no other module changes, and the log holds the
loops that are wanted -/
structure CommandsLoops (wanted : ℕ → ℕ → Prop) (r : GroupCommands) : Prop where
  commanded : ∀ i ch, (i, ch) ∈ r.2 → r.1.state i = { ms.state i with
    loop_current_channel := ch
    loop_current_state := if on_off = 1 then ch else 0
    controller := 1
    control_time := now
    execute_immediately := 1 }
  other : ∀ i, (∀ ch, (i, ch) ∉ r.2) → r.1.state i = ms.state i
  selected : ∀ i k, (∃ ch, (i, ch) ∈ r.2 ∧ bit ch k = true) ↔ wanted i k

/-- the enabled loops of the first `n` modules with a property -/
def EnabledLoops (p : ℕ → ℕ → Prop) (n i k : ℕ) : Prop :=
  i < n ∧ k < (ms.config i).loop_num.toNat ∧ p i k ∧ bit (ms.config i).loop_enable k = true

end Commands

/-! ## What passes the test -/

section Passes

variable (loop_group : LoopGroups) (on_off : UInt8) (group : List UInt8) (i : ℕ)

/-- the loops the numbers in `group` are used for -/
def Passes (k : ℕ) : Prop := if group = [0] then Grouped loop_group i k else ∃ g ∈ group, InGroup loop_group i k g

/-- a slot that lets its loop pass -/
def SlotPasses (g : UInt8) : Prop := if group = [0] then g ≠ 0 else g ∈ group

instance decidableSlotPasses (g : UInt8) : Decidable (SlotPasses group g) := inferInstanceAs (Decidable (ite _ _ _))

theorem passes_iff {k : ℕ} (hk : k < MAX_RELAY_MODULE_LOOP_CH_NUM) :
    Passes loop_group group i k ↔ ∃ m, SlotPasses group (loop_group i ⟨k, hk⟩ m) := by
  rw [Passes]
  by_cases hzero : group = [0]
  · simp only [SlotPasses, if_pos hzero, Grouped, hk, exists_true_left]
  · simp only [SlotPasses, if_neg hzero]
    constructor
    · rintro ⟨g, hg, _, m, rfl⟩
      exact ⟨m, hg⟩
    · rintro ⟨m, hm⟩
      exact ⟨_, hm, hk, m, rfl⟩

theorem Passes.inside {k : ℕ} (h : Passes loop_group group i k) : k < MAX_RELAY_MODULE_LOOP_CH_NUM := by
  rw [Passes] at h
  split_ifs at h
  · obtain ⟨hk, -⟩ := h
    exact hk
  · obtain ⟨g, hg, hk, -⟩ := h
    exact hk

theorem slotTest_some (g : UInt8) : slotTest group (some g) = some (decide (SlotPasses group g)) := by
  unfold slotTest SlotPasses
  by_cases hzero : group = [0]
  · simp only [if_pos hzero, Option.map_some]
    congr 1
    by_cases hg : g = 0 <;> simp [hg]
  · simp only [if_neg hzero, Option.map_some]
    have hany : (group.anyM fun x => some (g == x)) = some (group.any fun x => g == x) := List.anyM_pure
    rw [hany, ← List.contains_eq_any_beq, List.contains_eq_mem]

/-- inside the array, or without a number to compare, the test of a loop ends -/
theorem loopTest_spec {k : ℕ} (h : k < MAX_RELAY_MODULE_LOOP_CH_NUM ∨ group = []) :
    ∃ b, loopTest loop_group group i k = some b ∧ (b = true ↔ Passes loop_group group i k) := by
  by_cases hempty : group = []
  · subst hempty
    refine ⟨false, ?_, by simp [Passes]⟩
    have hslot : ∀ slot, slotTest [] slot = pure false := fun slot => rfl
    rw [loopTest]
    simp only [hslot, List.anyM_pure]
    rfl
  · have hk := h.resolve_right hempty
    have hslot : ∀ m, slotTest group (loopGroupAt loop_group i k m) =
        pure (decide (SlotPasses group (loop_group i ⟨k, hk⟩ m))) := by
      intro m
      rw [loopGroupAt, dif_pos hk]
      exact slotTest_some group _
    refine ⟨(List.finRange MAX_RELAY_MODULE_LOOP_GROUP_NUM).any fun m =>
      decide (SlotPasses group (loop_group i ⟨k, hk⟩ m)), ?_, ?_⟩
    · rw [loopTest]
      simp only [hslot]
      exact List.anyM_pure
    · rw [passes_iff loop_group group i hk, List.any_eq_true]
      simp only [List.mem_finRange, true_and, decide_eq_true_eq]

/-- the first loop after the array is read outside it -/
theorem loopTest_outside {k : ℕ} (hk : MAX_RELAY_MODULE_LOOP_CH_NUM ≤ k) (hgroup : group ≠ []) :
    loopTest loop_group group i k = none := by
  have hslot : ∀ m, slotTest group (loopGroupAt loop_group i k m) = none := by
    intro m
    rw [loopGroupAt, dif_neg (Nat.not_lt.2 hk), slotTest]
    split_ifs
    · rfl
    · obtain ⟨g, gs, rfl⟩ := List.exists_cons_of_ne_nil hgroup
      rfl
  rw [loopTest]
  simp only [hslot]
  rfl

/-! ## The masks of a module -/

/-- the loops of a module are all looked at, or no number is compared -/
def Inside (config : RelayModuleConfig) : Prop := config.loop_num.toNat ≤ MAX_RELAY_MODULE_LOOP_CH_NUM ∨ group = []

/-- the next loop is put in a mask of those before it -/
theorem bits_insert {mask : UInt16} {p : ℕ → Prop} {n : ℕ} (hbits : ∀ k, bit mask k = true ↔ k < n ∧ p k) (hn : n < 16)
    (hp : p n) (k : ℕ) : bit (mask ||| loopBit n) k = true ↔ k < n + 1 ∧ p k := by
  rw [bit_or, Bool.or_eq_true, hbits, bit_loopBit k hn, decide_eq_true_eq]
  constructor
  · rintro (⟨hk, hpk⟩ | rfl)
    · exact ⟨Nat.lt_succ_of_lt hk, hpk⟩
    · exact ⟨Nat.lt_succ_self n, hp⟩
  · rintro ⟨hk, hpk⟩
    rcases Nat.lt_succ_iff_lt_or_eq.1 hk with hlt | heq
    · exact .inl ⟨hlt, hpk⟩
    · exact .inr heq.symm

theorem bits_skip {mask : UInt16} {p : ℕ → Prop} {n : ℕ} (hbits : ∀ k, bit mask k = true ↔ k < n ∧ p k) (hp : ¬ p n)
    (k : ℕ) : bit mask k = true ↔ k < n + 1 ∧ p k := by
  rw [hbits]
  refine and_congr_left fun hpk => ⟨Nat.lt_succ_of_lt, fun hk => ?_⟩
  exact lt_of_le_of_ne (Nat.lt_succ_iff.1 hk) fun heq => hp (heq ▸ hpk)

/-- **The masks of a module**: the loops that pass, and their state. -/
theorem groupLoops_spec {config : RelayModuleConfig} (h : Inside group config) :
    ∃ c, groupLoops loop_group on_off group config i = some c ∧ c.2 = (if on_off = 1 then c.1 else 0) ∧
      ∀ k, bit c.1 k = true ↔ k < config.loop_num.toNat ∧ Passes loop_group group i k := by
  have hrounds : ∀ n ≤ config.loop_num.toNat, ∃ c,
      (List.range n).foldlM (groupLoop loop_group on_off group i) (0, 0) = some c ∧
        c.2 = (if on_off = 1 then c.1 else 0) ∧ ∀ k, bit c.1 k = true ↔ k < n ∧ Passes loop_group group i k := by
    intro n
    induction n with
    | zero => exact fun _ => ⟨(0, 0), rfl, by simp, by simp⟩
    | succ n ih =>
      intro hn
      obtain ⟨c, hrun, hstate, hbits⟩ := ih (by omega)
      obtain ⟨b, htest, hpasses⟩ := loopTest_spec loop_group group i (k := n) (h.imp_left fun hle => by omega)
      rw [CLoop.foldlM_range_succ hrun, groupLoop, htest, Option.map_some]
      cases b with
      | true =>
        have hpass : Passes loop_group group i n := hpasses.1 rfl
        refine ⟨_, rfl, ?_, bits_insert hbits (lt_trans hpass.inside (by decide)) hpass⟩
        rw [if_pos rfl, hstate]
        by_cases hon : on_off = 1
        · simp only [hon, if_true]
        · by_cases hoff : on_off = 0
          · simp [hoff]
          · simp [hon, hoff]
      | false =>
        have hpass : ¬ Passes loop_group group i n := fun hp => absurd (hpasses.2 hp) (by decide)
        exact ⟨c, rfl, hstate, bits_skip hbits hpass⟩
  exact hrounds _ le_rfl

theorem groupLoops_outside {config : RelayModuleConfig} (h : ¬ Inside group config) :
    groupLoops loop_group on_off group config i = none := by
  rw [Inside, not_or, Nat.not_le] at h
  cases hrun : groupLoops loop_group on_off group config i with
  | none => rfl
  | some c =>
    obtain ⟨c', c'', hstep⟩ := CLoop.foldlM_ran _ _ _ hrun MAX_RELAY_MODULE_LOOP_CH_NUM (List.mem_range.2 h.1)
    rw [groupLoop, loopTest_outside loop_group group i le_rfl h.2] at hstep
    cases hstep

end Passes

/-! ## The commands -/

section Rounds

variable {now : List UInt8} {on_off : UInt8} {ms : RelayModules} {r : GroupCommands}

theorem CommandsLoops.congr {wanted wanted' : ℕ → ℕ → Prop} (h : CommandsLoops now on_off ms wanted r)
    (hwanted : ∀ i k, wanted i k ↔ wanted' i k) : CommandsLoops now on_off ms wanted' r :=
  ⟨h.commanded, h.other, fun i k => (h.selected i k).trans (hwanted i k)⟩

/-- one more command, for a module that has none -/
theorem CommandsLoops.command {wanted : ℕ → ℕ → Prop} (h : CommandsLoops now on_off ms wanted r) {n : ℕ}
    (hnone : ∀ ch, (n, ch) ∉ r.2) (hsame : SameLoops ms r.1) {c : UInt16 × UInt16}
    (hstate : c.2 = if on_off = 1 then c.1 else 0) :
    CommandsLoops now on_off ms (fun i k => wanted i k ∨ i = n ∧ bit (c.1 &&& (ms.config n).loop_enable) k = true)
      (serverCommand now r.1 n c.1 c.2, r.2 ++ [(n, c.1 &&& (ms.config n).loop_enable)]) := by
  have hkeep : ∀ i, i ≠ n → (serverCommand now r.1 n c.1 c.2).state i = r.1.state i :=
    fun i hi => set_state_of_ne _ _ hi
  refine ⟨fun i ch hmem => ?_, fun i hi => ?_, fun i k => ?_⟩
  · rcases List.mem_append.1 hmem with hmem | hmem
    · have hi : i ≠ n := fun heq => hnone ch (heq ▸ hmem)
      rw [hkeep i hi]
      exact h.commanded i ch hmem
    · obtain ⟨rfl, rfl⟩ := Prod.mk.inj (List.mem_singleton.1 hmem)
      have hmask : c.2 &&& (ms.config i).loop_enable =
          if on_off = 1 then c.1 &&& (ms.config i).loop_enable else 0 := by
        rw [hstate]
        split_ifs
        · rfl
        · exact UInt16.zero_and
      rw [serverCommand, set_state_self, h.other i hnone, hsame.config, hmask]
  · have hi' : i ≠ n := fun heq => hi _ (List.mem_append_right _ (by rw [heq]; exact List.mem_singleton.2 rfl))
    rw [hkeep i hi']
    exact h.other i fun ch hmem => hi ch (List.mem_append_left _ hmem)
  · rw [← h.selected]
    constructor
    · rintro ⟨ch, hmem, hbit⟩
      rcases List.mem_append.1 hmem with hmem | hmem
      · exact .inl ⟨ch, hmem, hbit⟩
      · obtain ⟨rfl, rfl⟩ := Prod.mk.inj (List.mem_singleton.1 hmem)
        exact .inr ⟨rfl, hbit⟩
    · rintro (⟨ch, hmem, hbit⟩ | ⟨rfl, hbit⟩)
      · exact ⟨ch, List.mem_append_left _ hmem, hbit⟩
      · exact ⟨_, List.mem_append_right _ (List.mem_singleton.2 rfl), hbit⟩

variable (now on_off ms) (loop_group : LoopGroups) (group : List UInt8)

/-- **The first `n` modules** are commanded with the enabled loops that pass. -/
theorem groupModules_run (n : ℕ) (h : ∀ i < n, Inside group (ms.config i)) : ∃ r : GroupCommands,
    (List.range n).foldlM (groupModule now loop_group ms.config on_off group) (ms, []) = some r ∧ SameLoops ms r.1 ∧
      (∀ e ∈ r.2, e.1 < n) ∧ CommandsLoops now on_off ms (EnabledLoops ms (Passes loop_group group) n) r := by
  induction n with
  | zero =>
    refine ⟨(ms, []), rfl, SameLoops.refl ms, by simp, fun i ch hmem => ?_, fun _ _ => rfl, fun i k => ?_⟩
    · cases hmem
    · simp [EnabledLoops]
  | succ n ih =>
    obtain ⟨r, hrun, hsame, hbelow, hcommands⟩ := ih fun i hi => h i (by omega)
    obtain ⟨c, hloops, hstate, hbits⟩ := groupLoops_spec loop_group on_off group n (h n (Nat.lt_succ_self n))
    have hnone : ∀ ch, (n, ch) ∉ r.2 := fun ch hmem => absurd (hbelow _ hmem) (lt_irrefl n)
    have hwanted : ∀ i k, EnabledLoops ms (Passes loop_group group) n i k ∨
        i = n ∧ bit (c.1 &&& (ms.config n).loop_enable) k = true ↔
          EnabledLoops ms (Passes loop_group group) (n + 1) i k := by
      intro i k
      rw [bit_and, Bool.and_eq_true, hbits, EnabledLoops, EnabledLoops]
      constructor
      · rintro (⟨hi, hk⟩ | ⟨rfl, ⟨hk, hp⟩, hen⟩)
        · exact ⟨by omega, hk⟩
        · exact ⟨Nat.lt_succ_self i, hk, hp, hen⟩
      · rintro ⟨hi, hk, hp, hen⟩
        rcases Nat.lt_succ_iff_lt_or_eq.1 hi with hlt | rfl
        · exact .inl ⟨hlt, hk, hp, hen⟩
        · exact .inr ⟨rfl, ⟨hk, hp⟩, hen⟩
    rw [CLoop.foldlM_range_succ hrun, groupModule, hloops, Option.map_some]
    by_cases hch : c.1 = 0
    · rw [if_neg (not_not.2 hch)]
      refine ⟨r, rfl, hsame, fun e he => lt_trans (hbelow e he) (Nat.lt_succ_self n), hcommands.congr fun i k => ?_⟩
      rw [← hwanted, hch, UInt16.zero_and]
      simp
    · rw [if_pos hch]
      refine ⟨_, rfl, hsame.trans (serverCommand_sameLoops now _ n _ _), fun e he => ?_,
        (hcommands.command hnone hsame hstate).congr hwanted⟩
      rcases List.mem_append.1 he with he | he
      · exact lt_trans (hbelow e he) (Nat.lt_succ_self n)
      · rw [List.mem_singleton.1 he]
        exact Nat.lt_succ_self n

theorem groupModules_outside {n i : ℕ} (hi : i < n) (h : ¬ Inside group (ms.config i)) :
    (List.range n).foldlM (groupModule now loop_group ms.config on_off group) (ms, []) = none := by
  cases hrun : (List.range n).foldlM (groupModule now loop_group ms.config on_off group) (ms, []) with
  | none => rfl
  | some r =>
    obtain ⟨r', r'', hstep⟩ := CLoop.foldlM_ran _ _ _ hrun i (List.mem_range.2 hi)
    rw [groupModule, groupLoops_outside loop_group on_off group i h] at hstep
    cases hstep

end Rounds

/-! ## Reading the list -/

/-- a group number: digits that make a byte, with zeros before them as far as they fit the buffer -/
structure NumberText (text : List UInt8) : Prop where
  ne : text ≠ []
  digits : ∀ x ∈ text, myisdigit x = true
  le : digitValue text ≤ 255
  short : text.length < 5

def numberOf (text : List UInt8) : UInt8 := UInt8.ofNat (digitValue text).toNat

/-- a message with a list of group numbers, and with `on_off` -/
structure CarriesGroups (texts : List (List UInt8)) (on_off : List UInt8) (s : ServerFrameStruct) : Prop where
  para_num : s.para_num = 2
  groups : HasText s 0 ([0x2C].intercalate texts)
  state : HasText s 1 on_off
  terminated : 0 ∉ on_off

theorem endsNumber_separates : ∀ x, endsNumber x = true → x ∈ [0, 0x2C, 0x7C] := fun x hx => by
  simp only [endsNumber, Bool.or_eq_true, decide_eq_true_eq] at hx
  rcases hx with rfl | rfl <;> decide

theorem reads_groupNumber {text : List UInt8} (htext : Plain text) (hlen : text.length < 5) :
    ReadsUpTo endsNumber groupNumber id (fun _ text => u8Of text) (fun s _ => s) text := by
  intro _ b rest tmp hb
  refine ⟨TextScan.overlay 0 text tmp, ?_⟩
  rw [groupNumber, id, field_text hb endsNumber_separates htext hlen]
  rfl

/-- the numbers that are read of texts with a comma between each two -/
theorem groupList_texts {texts : List (List UInt8)} (hne : texts ≠ []) (hplain : ∀ t ∈ texts, Plain t)
    (hlen : ∀ t ∈ texts, t.length < 5) (rest : List UInt8) : groupList ([0x2C].intercalate texts ++ 0 :: rest) =
      some ((texts.take (min (texts.length % 256) MAX_RELAY_MODULE_LOOP_GROUP_NUM)).map u8Of) := by
  have hzero : 0 ∉ [0x2C].intercalate texts := by
    intro h0
    rcases TextScan.mem_intercalate h0 with heq | ⟨t, ht, h0⟩
    · exact absurd heq (by decide)
    · exact hplain t ht 0 h0 (by decide)
  have hcount : ([0x2C].intercalate texts).count 0x2C + 1 = texts.length := by
    obtain ⟨t, ts, rfl⟩ := List.exists_cons_of_ne_nil hne
    rw [TextScan.count_intercalate fun t ht hx => hplain t ht _ hx (by decide), List.length_cons]
  have hnum : groupNum ([0x2C].intercalate texts ++ 0 :: rest) =
      some (min (texts.length % 256) MAX_RELAY_MODULE_LOOP_GROUP_NUM) := by
    rw [groupNum, if_pos (List.mem_append_right _ List.mem_cons_self), cstr_text hzero, hcount]
  have hle : min (texts.length % 256) MAX_RELAY_MODULE_LOOP_GROUP_NUM ≤ texts.length :=
    le_trans (min_le_left _ _) (Nat.mod_le _ _)
  obtain ⟨r, hread, -⟩ := readSegments_first (by decide : endsNumber 0x2C = true) (by decide : endsNumber 0 = true)
    (fun t ht => reads_groupNumber (hplain t ht) (hlen t ht)) hne rest _ hle () [0, 0, 0, 0, 0]
  rw [List.map_id] at hread
  rw [groupList, hnum]
  simp only [Option.bind_eq_bind, Option.bind_some, hread, valuesFrom_const]

/-- **The list** as it is read: an empty one is a single 0. -/
theorem groupList_text {texts : List (List UInt8)} (h : ∀ t ∈ texts, NumberText t) (rest : List UInt8) :
    groupList ([0x2C].intercalate texts ++ 0 :: rest) = some (usedGroups (texts.map numberOf)) := by
  by_cases hempty : texts = []
  · subst hempty
    exact groupList_texts (List.cons_ne_nil [] []) (by simp [Plain]) (by simp) rest
  · have hvalue : ∀ t ∈ texts, u8Of t = numberOf t := fun t ht => u8Of_digits (h t ht).ne (h t ht).digits (h t ht).le
    rw [groupList_texts hempty (fun t ht => plain_digits (h t ht).digits) (fun t ht => (h t ht).short), usedGroups,
      if_neg (mt List.map_eq_nil_iff.1 hempty), List.length_map, ← List.map_take]
    exact congrArg some (List.map_congr_left fun t ht => hvalue t (List.mem_of_mem_take ht))

/-! ## The loops that are meant -/

section Meant

variable {loop_group : LoopGroups} {gs : List UInt8} {i k : ℕ}

theorem Listed.grouped (h : Listed loop_group gs i k) : Grouped loop_group i k := by
  obtain ⟨g, -, hg, hk, m, rfl⟩ := h
  exact ⟨hk, m, hg⟩

theorem Listed.mono {gs' : List UInt8} (h : Listed loop_group gs i k) (hsub : ∀ g ∈ gs, g ∈ gs') :
    Listed loop_group gs' i k := by
  obtain ⟨g, hmem, hg⟩ := h
  exact ⟨g, hsub g hmem, hg⟩

theorem usedGroups_subset (hne : gs ≠ []) : ∀ g ∈ usedGroups gs, g ∈ gs := by
  intro g hg
  rw [usedGroups, if_neg hne] at hg
  exact List.mem_of_mem_take hg

/-- with a list of numbers, a loop passes for a number listed or for a slot without a group -/
theorem passes_list (hzero : gs ≠ [0]) :
    Passes loop_group gs i k ↔ Listed loop_group gs i k ∨ (0 ∈ gs ∧ InGroup loop_group i k 0) := by
  rw [Passes, if_neg hzero]
  constructor
  · rintro ⟨g, hmem, hg⟩
    by_cases h0 : g = 0
    · exact .inr ⟨h0 ▸ hmem, h0 ▸ hg⟩
    · exact .inl ⟨g, hmem, h0, hg⟩
  · rintro (⟨g, hmem, -, hg⟩ | ⟨hmem, hg⟩)
    · exact ⟨g, hmem, hg⟩
    · exact ⟨0, hmem, hg⟩

/-- **The mistaken loops** are those for which the numbers used and the list differ. -/
theorem mistaken_iff : Mistaken loop_group gs i k ↔
    ¬ (Passes loop_group (usedGroups gs) i k ↔ Meant loop_group gs i k) := by
  have hgrouped : Listed loop_group gs i k → Grouped loop_group i k := Listed.grouped
  rw [Mistaken]
  by_cases hused : usedGroups gs = [0]
  · rw [if_pos hused, Passes, if_pos hused, Meant]
    split_ifs with hgs
    · exact ⟨fun h => absurd hgs h.1, fun h => absurd Iff.rfl h⟩
    · tauto
  · have hgs : gs ≠ [0] := by
      rintro rfl
      exact hused rfl
    have hempty : gs ≠ [] := by
      rintro rfl
      exact hused rfl
    have hmono : Listed loop_group (usedGroups gs) i k → Listed loop_group gs i k :=
      fun h => h.mono (usedGroups_subset hempty)
    rw [if_neg hused, passes_list hused, Meant, if_neg hgs]
    tauto

/-- no loop is mistaken for a single 0, nor for a list of up to sixteen other numbers -/
theorem not_mistaken (h : gs = [0] ∨ gs ≠ [] ∧ 0 ∉ gs ∧ gs.length ≤ MAX_RELAY_MODULE_LOOP_GROUP_NUM) :
    ¬ Mistaken loop_group gs i k := by
  rw [mistaken_iff, not_not]
  rcases h with rfl | ⟨hne, hzero, hlen⟩
  · exact Iff.rfl
  · have hused : usedGroups gs = gs := by
      have h16 : MAX_RELAY_MODULE_LOOP_GROUP_NUM < 256 := by decide
      rw [usedGroups, if_neg hne, Nat.mod_eq_of_lt (by omega), Nat.min_eq_left hlen, List.take_length]
    have hgs : gs ≠ [0] := by
      rintro rfl
      exact hzero List.mem_cons_self
    rw [hused, passes_list hgs, Meant, if_neg hgs]
    exact or_iff_left fun h0 => hzero h0.1

end Meant

section Message

variable {texts : List (List UInt8)} {on_off : List UInt8} {s : ServerFrameStruct}

/-- the handler, once its parameters are read -/
theorem relayLoopGroupControl_text (hs : CarriesGroups texts on_off s) (htexts : ∀ t ∈ texts, NumberText t)
    (now : List UInt8) (loop_group : LoopGroups) (ms : RelayModules) : relayLoopGroupControl now loop_group s ms =
      (List.range ms.number).foldlM
        (groupModule now loop_group ms.config (u8Of on_off) (usedGroups (texts.map numberOf))) (ms, []) := by
  obtain ⟨type, rest, hgroups⟩ := hs.groups
  obtain ⟨type', rest', hstate⟩ := hs.state
  rw [relayLoopGroupControl, if_pos hs.para_num, hgroups, hstate]
  simp only [Option.bind_eq_bind, Option.bind_some, groupList_text htexts, cstr_text hs.terminated]

/-- **Group commands.** The handler ends, and commands the enabled loops in the groups of its list, or every grouped loop
for the single number 0, exactly if no module has more loops than the array, unless no number is used at all, and none of
the enabled loops is mistaken. -/
theorem relayLoopGroupControl_iff (hs : CarriesGroups texts on_off s) (htexts : ∀ t ∈ texts, NumberText t)
    (now : List UInt8) (loop_group : LoopGroups) (ms : RelayModules) :
    (∃ r, relayLoopGroupControl now loop_group s ms = some r ∧
      CommandsLoops now (u8Of on_off) ms (EnabledLoops ms (Meant loop_group (texts.map numberOf)) ms.number) r) ↔
    ∀ i < ms.number, Inside (usedGroups (texts.map numberOf)) (ms.config i) ∧
      ∀ k < (ms.config i).loop_num.toNat, bit (ms.config i).loop_enable k = true →
        ¬ Mistaken loop_group (texts.map numberOf) i k := by
  rw [relayLoopGroupControl_text hs htexts]
  set gs := texts.map numberOf with hgs
  constructor
  · rintro ⟨r, hrun, hmeant⟩
    have hinside : ∀ i < ms.number, Inside (usedGroups gs) (ms.config i) := by
      intro i hi
      by_contra hout
      rw [groupModules_outside now _ ms loop_group _ hi hout] at hrun
      cases hrun
    obtain ⟨r', hrun', -, -, hpassed⟩ := groupModules_run now (u8Of on_off) ms loop_group (usedGroups gs) _ hinside
    obtain rfl := Option.some.inj (hrun.symm.trans hrun')
    refine fun i hi => ⟨hinside i hi, fun k hk hen => ?_⟩
    have hboth := (hpassed.selected i k).symm.trans (hmeant.selected i k)
    rw [mistaken_iff, not_not]
    exact ⟨fun h => (hboth.1 ⟨hi, hk, h, hen⟩).2.2.1, fun h => (hboth.2 ⟨hi, hk, h, hen⟩).2.2.1⟩
  · intro h
    obtain ⟨r, hrun, -, -, hpassed⟩ := groupModules_run now (u8Of on_off) ms loop_group (usedGroups gs) _
      fun i hi => (h i hi).1
    refine ⟨r, hrun, hpassed.congr fun i k => ?_⟩
    rw [EnabledLoops, EnabledLoops]
    refine and_congr_right fun hi => and_congr_right fun hk => and_congr_left fun hen => ?_
    exact not_not.1 (mt mistaken_iff.2 ((h i hi).2 k hk hen))

end Message

/-! ## Two loops -/

/-- a module with the given number of loops, all of them enabled -/
def moduleOf (loop_num : UInt8) : RelayModules :=
  ⟨1, one_fits, fun _ => ⟨loop_num, 0xFFFF⟩, fun _ => clearedState 1 1 ⟨loop_num, 0xFFFF⟩⟩

/-- the first loop in group 1, the second in group 5 -/
def oneAndFive : LoopGroups := fun _ k m => if m.val ≠ 0 then 0 else if k.val = 0 then 1 else if k.val = 1 then 5 else 0

/-- a message that switches groups on -/
def groupMessage (groups : List UInt8) : ServerFrameStruct :=
  { ServerFrameStruct.zero with
    para_num := 2
    para := [some ⟨0, groups.length, groups ++ [0]⟩, some ⟨0, 1, [0x31, 0]⟩] }

theorem carriesGroups_message (texts : List (List UInt8)) :
    CarriesGroups texts [0x31] (groupMessage ([0x2C].intercalate texts)) :=
  ⟨rfl, ⟨0, [], rfl⟩, ⟨0, [], rfl⟩, by decide⟩

/-- 5 -/
theorem groupControl_five : ∃ r, relayLoopGroupControl [] oneAndFive (groupMessage [0x35]) (moduleOf 2) = some r ∧
    CommandsLoops [] 1 (moduleOf 2) (EnabledLoops (moduleOf 2) (Meant oneAndFive [5]) 1) r := by
  have hnumber : NumberText [0x35] := ⟨by decide, List.all_iff_forall_prop.1 (by decide), by decide, by decide⟩
  have hinside : Inside [5] ⟨2, 0xFFFF⟩ := .inl (by decide)
  have hlist : [(5 : UInt8)] ≠ [] ∧ 0 ∉ [(5 : UInt8)] ∧ [(5 : UInt8)].length ≤ MAX_RELAY_MODULE_LOOP_GROUP_NUM := by
    decide
  exact (relayLoopGroupControl_iff (carriesGroups_message [[0x35]]) (List.forall_mem_singleton.2 hnumber) [] oneAndFive
    (moduleOf 2)).2 fun i _ => ⟨hinside, fun k _ _ => not_mistaken (.inr hlist)⟩

/-- 0 and 5 command the loop of group 1 as well, and a module of thirteen loops is read outside its groups -/
theorem groupControl_zeroAmong :
    (¬ ∃ r, relayLoopGroupControl [] oneAndFive (groupMessage [0x30, 0x2C, 0x35]) (moduleOf 2) = some r ∧
      CommandsLoops [] 1 (moduleOf 2) (EnabledLoops (moduleOf 2) (Meant oneAndFive [0, 5]) 1) r) ∧
    relayLoopGroupControl [] oneAndFive (groupMessage [0x35]) (moduleOf 13) = none := by
  have hlog : (relayLoopGroupControl [] oneAndFive (groupMessage [0x30, 0x2C, 0x35]) (moduleOf 2)).map (·.2) =
      some [(0, 3)] := by decide
  refine ⟨?_, by decide⟩
  rintro ⟨r, hr, h⟩
  rw [hr] at hlog
  have hlog : r.2 = [(0, 3)] := Option.some.inj hlog
  have hmem : ((0 : ℕ), (3 : UInt16)) ∈ r.2 := by
    rw [hlog]
    exact List.mem_singleton.2 rfl
  obtain ⟨-, -, hmeant, -⟩ := (h.selected 0 0).1 ⟨3, hmem, by decide⟩
  exact absurd hmeant (by decide)

end DataConcentrator.Relay
