/-
The ten strategy lists and the appointment list as they are read and deleted: `ReadRelayStrategyGroups`,
`ReadRelayAppointmentGroup`, `RelayAllStrategyGroupDelete` and `RelayAppointmentGroupDelete`.

- `readStrategies_spec`, `readAppointments_spec`: reading builds lists of new nodes only, and leaves a strategy without a
  list exactly when it is of no group;
- `deleteAll_spec`: deleting does nothing to lists without nodes after their heads, and reads a freed node otherwise;
- `Groups.reaches_iff`: what can be reached from the heads.
-/
import DataConcentrator.Relay.StrategyOrder

namespace DataConcentrator.Relay

open Dll (Heap Fault Allocator Chain Reaches)

/-! ## Reading and deleting -/

/-- one round of the second loop of `ReadRelayStrategyGroups`; `none` is a stored strategy whose check fails -/
def addStored (A : Allocator) (env : Env) (heads : List (Option ℕ)) (h : Heap Strategy) :
    Option Strategy → Except Fault (Heap Strategy)
  | none => .ok h
  | some relay_task => relayStrategyAdd (newStrategy A env h relay_task).2 heads (newStrategy A env h relay_task).1

/-- the counter of the second loop is a `u8` -/
def readRelayStrategyGroups (A : Allocator) (env : Env) (h : Heap Strategy) (stored : List (Option Strategy)) :
    Except Fault (List (Option ℕ) × Heap Strategy) := do
  let r := buildHeads A h MAX_RELAY_MODULE_STRATEGY_GROUP_NUM
  if stored.length < 256 then
    let h ← stored.foldlM (addStored A env r.1) r.2
    return (r.1, h)
  else .error .endless

/-- `RelayStrategyGroupDelete` -/
def relayStrategyGroupDelete (h : Heap Strategy) (heads : List (Option ℕ)) (group_id : UInt8) :
    Except Fault (Heap Strategy) := do
  let head_strategy ← groupHead h heads group_id
  match head_strategy with
  | none => .ok h
  | some a => do
    let n ← h.get a
    Dll.deleteLoop (h.live.card + 1) h n.next

/-- one round of the loop of `RelayAllStrategyGroupDelete` -/
def deleteHead (heads : List (Option ℕ)) (h : Heap Strategy) : Option ℕ → Except Fault (Heap Strategy)
  | none => .ok h
  | some a => do
    let n ← h.get a
    relayStrategyGroupDelete h heads n.val.group_id

def relayAllStrategyGroupDelete (h : Heap Strategy) (heads : List (Option ℕ)) : Except Fault (Heap Strategy) :=
  heads.foldlM (deleteHead heads) h

/-- `memset(appointment, 0, ..)` -/
def Appointment.zero : Appointment := ⟨0, 0, 0, fun _ => ⟨0, 0, 0, 0, 0, 0, 0, 0, 0⟩⟩

/-- `RelayAppointmentGroupAdd`, with the head at `a`: at the end -/
def relayAppointmentGroupAdd (h : Heap Appointment) (a s : ℕ) : Except Fault (Heap Appointment) :=
  Dll.addLoop (fun _ _ _ => false) s (h.live.card + 1) h a

/-- one round of the loop of `ReadRelayAppointmentGroup` -/
def addAppointment (A : Allocator) (a : ℕ) (h : Heap Appointment) : Option Appointment → Except Fault (Heap Appointment)
  | none => .ok h
  | some relay_sence_config => relayAppointmentGroupAdd (h.malloc A relay_sence_config).2 a (h.malloc A relay_sence_config).1

/-- the head, and the stored appointments after it -/
def readRelayAppointmentGroup (A : Allocator) (h : Heap Appointment) (stored : List (Option Appointment)) :
    Except Fault (ℕ × Heap Appointment) := do
  let r := h.malloc A Appointment.zero
  let h ← stored.foldlM (addAppointment A r.1) r.2
  return (r.1, h)

def relayAppointmentGroupDelete (h : Heap Appointment) (appointmentGroup : Option ℕ) :
    Except Fault (Heap Appointment) :=
  match appointmentGroup with
  | none => .ok h
  | some a => do
    let n ← h.get a
    Dll.deleteLoop (h.live.card + 1) h n.next

/-! ## The ten lists -/

/-- a node of one of the lists -/
def InLists (address : ℕ → ℕ) (nodes : ℕ → List ℕ) (a : ℕ) : Prop :=
  ∃ i < MAX_RELAY_MODULE_STRATEGY_GROUP_NUM, a ∈ address i :: nodes i

/-- ten lists without a common node; those after the heads are `nodes` -/
structure Groups (h : Heap Strategy) (heads : List (Option ℕ)) (address : ℕ → ℕ) (nodes : ℕ → List ℕ) : Prop where
  built : Built h heads address
  chain : ∀ i < MAX_RELAY_MODULE_STRATEGY_GROUP_NUM, Chain h (address i :: nodes i)
  disjoint : ∀ i < MAX_RELAY_MODULE_STRATEGY_GROUP_NUM, ∀ j < MAX_RELAY_MODULE_STRATEGY_GROUP_NUM, i ≠ j →
    ∀ a ∈ address i :: nodes i, a ∉ address j :: nodes j

section TenLists

variable {h : Heap Strategy} {heads : List (Option ℕ)} {address : ℕ → ℕ} {nodes : ℕ → List ℕ}

theorem Groups.live (hg : Groups h heads address nodes) {a : ℕ} (ha : InLists address nodes a) : a ∈ h.live := by
  obtain ⟨i, hi, ha⟩ := ha
  exact (hg.chain i hi).live a ha

theorem Groups.getD_heads (hg : Groups h heads address nodes) {i : ℕ} (hi : i < MAX_RELAY_MODULE_STRATEGY_GROUP_NUM) :
    heads.getD i none = some (address i) := by
  rw [hg.built.heads, List.getD_eq_getElem?_getD, List.getElem?_map, List.getElem?_range hi]
  rfl

/-- what can be reached from the heads -/
theorem Groups.reaches_iff (hg : Groups h heads address nodes) (a : ℕ) :
    (∃ p ∈ heads, Reaches h p a) ↔ InLists address nodes a := by
  rw [hg.built.heads]
  constructor
  · intro hr
    obtain ⟨p, hp, hr⟩ := hr
    obtain ⟨i, hi, rfl⟩ := List.mem_map.1 hp
    have hi := List.mem_range.1 hi
    exact ⟨i, hi, (Dll.reaches_iff (hg.chain i hi).linked).1 hr⟩
  · intro hin
    obtain ⟨i, hi, ha⟩ := hin
    refine ⟨some (address i), List.mem_map.2 ⟨i, List.mem_range.2 hi, rfl⟩, ?_⟩
    exact (Dll.reaches_iff (hg.chain i hi).linked).2 ha

/-- the lists stay where links and ids do -/
theorem Groups.congr (hg : Groups h heads address nodes) {h' : Heap Strategy} (hlive : ∀ a ∈ h.live, a ∈ h'.live)
    (hcell : ∀ a ∈ h.live, (h'.cell a).next = (h.cell a).next ∧ (h'.cell a).prev = (h.cell a).prev ∧
      (h'.cell a).val.group_id = (h.cell a).val.group_id) : Groups h' heads address nodes := by
  refine ⟨hg.built.congr hlive fun a ha => (hcell a ha).2.2, fun i hi => ?_, hg.disjoint⟩
  have hmem : ∀ a ∈ address i :: nodes i, a ∈ h.live := (hg.chain i hi).live
  exact (hg.chain i hi).congr (fun a _ ha => hlive a ha) (fun a ha => (hcell a (hmem a ha)).1)
    fun a ha => (hcell a (hmem a ha)).2.1

/-- a new node leaves the lists as they are -/
theorem Groups.malloc (hg : Groups h heads address nodes) (A : Allocator) (v : Strategy) :
    Groups (h.malloc A v).2 heads address nodes := by
  refine hg.congr (fun a ha => Finset.mem_insert_of_mem ha) fun a ha => ?_
  rw [Dll.malloc_old A v ha]
  exact ⟨rfl, rfl, rfl⟩

theorem group_index {g : UInt8} (hg : IsGroup g) : g.toNat - 1 < MAX_RELAY_MODULE_STRATEGY_GROUP_NUM :=
  lt_of_lt_of_le (Nat.sub_lt hg.1 Nat.one_pos) hg.2

/-- the lists with a node put into one of them -/
def withNode (nodes : ℕ → List ℕ) (k : ℕ) (ns : List ℕ) (i : ℕ) : List ℕ := if i = k then ns else nodes i

theorem mem_withNode {k s : ℕ} {ns : List ℕ} (hperm : ns.Perm (s :: nodes k)) (i a : ℕ) :
    a ∈ address i :: withNode nodes k ns i ↔ a ∈ address i :: nodes i ∨ a = s ∧ i = k := by
  rw [withNode]
  by_cases hik : i = k
  · subst hik
    rw [if_pos rfl, List.mem_cons, List.mem_cons, hperm.mem_iff, List.mem_cons]
    tauto
  · rw [if_neg hik]
    simp [hik]

/-- a new node in list `k` leaves the other lists alone -/
theorem Groups.addNode (hg : Groups h heads address nodes) {h' : Heap Strategy} {k s : ℕ} {ns : List ℕ}
    (hk : k < MAX_RELAY_MODULE_STRATEGY_GROUP_NUM) (hperm : ns.Perm (s :: nodes k)) (hs : ¬ InLists address nodes s)
    (hchain : Chain h' (address k :: ns)) (hlive : h'.live = h.live)
    (hval : ∀ i, (h'.cell i).val = (h.cell i).val) (hframe : ∀ i, i ∉ s :: address k :: nodes k → h'.cell i = h.cell i) :
    Groups h' heads address (withNode nodes k ns) := by
  have hother : ∀ i < MAX_RELAY_MODULE_STRATEGY_GROUP_NUM, i ≠ k → ∀ a ∈ address i :: nodes i, h'.cell a = h.cell a := by
    intro i hi hik a ha
    apply hframe
    intro hmem
    rcases List.mem_cons.1 hmem with rfl | hmem
    · exact hs ⟨i, hi, ha⟩
    · exact hg.disjoint i hi k hk hik a ha hmem
  refine ⟨?_, ?_, ?_⟩
  · exact hg.built.congr (fun a ha => hlive ▸ ha) fun a _ => by rw [hval]
  · intro i hi
    rw [Relay.withNode]
    by_cases hik : i = k
    · rw [hik, if_pos rfl]
      exact hchain
    · rw [if_neg hik]
      apply (hg.chain i hi).congr
      · exact fun a _ ha => hlive ▸ ha
      · intro a ha
        rw [hother i hi hik a ha]
      · intro a ha
        rw [hother i hi hik a ha]
  · intro i hi j hj hij a ha hja
    rcases (mem_withNode hperm i a).1 ha with ha | ⟨rfl, hik⟩
    · rcases (mem_withNode hperm j a).1 hja with hja | ⟨rfl, -⟩
      · exact hg.disjoint i hi j hj hij a ha hja
      · exact hs ⟨i, hi, ha⟩
    · rcases (mem_withNode hperm j a).1 hja with hja | ⟨-, hjk⟩
      · exact hs ⟨j, hj, hja⟩
      · exact hij (hik.trans hjk.symm)

theorem inLists_withNode {k s : ℕ} {ns : List ℕ} (hk : k < MAX_RELAY_MODULE_STRATEGY_GROUP_NUM)
    (hperm : ns.Perm (s :: nodes k)) (a : ℕ) :
    InLists address (withNode nodes k ns) a ↔ InLists address nodes a ∨ a = s := by
  constructor
  · rintro ⟨i, hi, ha⟩
    rcases (mem_withNode hperm i a).1 ha with ha | ⟨ha, -⟩
    · exact Or.inl ⟨i, hi, ha⟩
    · exact Or.inr ha
  · rintro (⟨i, hi, ha⟩ | ha)
    · exact ⟨i, hi, (mem_withNode hperm i a).2 (Or.inl ha)⟩
    · exact ⟨k, hk, (mem_withNode hperm k a).2 (Or.inr ⟨ha, rfl⟩)⟩

/-- **A stored strategy is added** to the list of its group, or to none. -/
theorem addStored_spec (A : Allocator) (env : Env) (hg : Groups h heads address nodes) (strategy : Strategy) :
    ∃ h' nodes' s, addStored A env heads h (some strategy) = .ok h' ∧
      Groups h' heads address nodes' ∧ s ∉ h.live ∧ (∀ a, a ∈ h'.live ↔ a = s ∨ a ∈ h.live) ∧
      ∀ a, InLists address nodes' a ↔ InLists address nodes a ∨ a = s ∧ IsGroup strategy.group_id := by
  set new := refreshRelayStrategyActionTime env strategy.stored
  set s := A.pick h.live
  set m : Heap Strategy := (newStrategy A env h strategy).2
  have hfresh : s ∉ h.live := Dll.malloc_fresh A h new
  have hself : m.cell s = ⟨new, none, none⟩ := Dll.malloc_self A h new
  have hlive : ∀ a, a ∈ m.live ↔ a = s ∨ a ∈ h.live := Dll.mem_malloc A h new
  have hgm : Groups m heads address nodes := hg.malloc A new
  have hid : (m.cell s).val.group_id = strategy.group_id := by
    have hstored := congrArg Strategy.group_id (refresh_stored env strategy.stored)
    rw [hself]
    exact hstored
  have hsm : s ∈ m.live := (hlive s).2 (Or.inl rfl)
  have hout : ¬ InLists address nodes s := fun hin => hfresh (hg.live hin)
  by_cases hgroup : IsGroup strategy.group_id
  · have hidx := group_index hgroup
    set k := strategy.group_id.toNat - 1
    obtain ⟨h', hadd, hchain, hlive', hval, hframe⟩ := relayStrategyAdd_spec hgm.built hgroup
      (hgm.chain k hidx) hsm (fun hmem => hout ⟨k, hidx, hmem⟩) (by rw [hself]) hid
    obtain ⟨ns, hns, hperm⟩ := Dll.insertAt_cons goesBetween (fun i => (m.cell i).val) s (address k) (nodes k)
    rw [hns] at hchain
    refine ⟨h', withNode nodes k ns, s, hadd, hgm.addNode hidx hperm hout hchain hlive' hval hframe, hfresh, ?_, ?_⟩
    · intro a
      rw [hlive']
      exact hlive a
    · intro a
      rw [inLists_withNode hidx hperm, and_iff_left hgroup]
  · refine ⟨m, nodes, s, relayStrategyAdd_stray hsm (fun hg => hgroup (hid ▸ hg)), hgm, hfresh, hlive, ?_⟩
    intro a
    exact ⟨Or.inl, fun hin => hin.elim id fun hs => absurd hs.2 hgroup⟩

/-- the heads alone -/
theorem buildHeads_groups (A : Allocator) (h : Heap Strategy) :
    ∃ address : ℕ → ℕ, Groups (buildHeads A h MAX_RELAY_MODULE_STRATEGY_GROUP_NUM).2
        (buildHeads A h MAX_RELAY_MODULE_STRATEGY_GROUP_NUM).1 address (fun _ => []) ∧
      (∀ a, InLists address (fun _ => []) a → a ∉ h.live) ∧
      ∀ a, a ∈ (buildHeads A h MAX_RELAY_MODULE_STRATEGY_GROUP_NUM).2.live ↔
        a ∈ h.live ∨ InLists address (fun _ => []) a := by
  obtain ⟨address, hheads, hcell, hlive, hinj, -⟩ := buildHeads_spec A h MAX_RELAY_MODULE_STRATEGY_GROUP_NUM (by decide)
  have hin : ∀ a, InLists address (fun _ => []) a ↔ ∃ i < MAX_RELAY_MODULE_STRATEGY_GROUP_NUM, a = address i := by
    intro a
    simp [InLists]
  refine ⟨address, ⟨⟨hheads, fun i hi => (hlive _).2 (Or.inr ⟨i, hi, rfl⟩), fun i hi => ?_⟩, fun i hi => ⟨?_, ?_, ?_⟩,
    fun i hi j hj hij a ha hja => ?_⟩, fun a ha => ?_, fun a => ?_⟩
  · rw [(hcell i hi).2]
    have h10 : i < 10 := hi
    exact Nat.mod_eq_of_lt (by omega)
  · change ((buildHeads A h _).2.cell (address i)).next = none
    rw [(hcell i hi).2]
  · exact List.nodup_singleton _
  · intro a ha
    rw [List.mem_singleton.1 ha]
    exact (hlive _).2 (Or.inr ⟨i, hi, rfl⟩)
  · rw [List.mem_singleton] at ha hja
    exact hij (hinj i hi j hj (ha.symm.trans hja))
  · obtain ⟨i, hi, rfl⟩ := (hin a).1 ha
    exact (hcell i hi).1
  · rw [hlive, hin]

/-- adding keeps the lists; a node without a list comes from a strategy of no group -/
theorem addAll_spec (A : Allocator) (env : Env) (old : Finset ℕ) (xs : List (Option Strategy)) :
    ∀ (m : Heap Strategy) (nodes : ℕ → List ℕ), Groups m heads address nodes →
      (∀ a, InLists address nodes a → a ∉ old) → (∀ a ∈ old, a ∈ m.live) →
      ∃ m' nodes', xs.foldlM (addStored A env heads) m = .ok m' ∧ Groups m' heads address nodes' ∧
        (∀ a, InLists address nodes' a → a ∉ old) ∧ (∀ a ∈ old, a ∈ m'.live) ∧
        ((∀ a ∈ m'.live, a ∈ old ∨ InLists address nodes' a) ↔
          (∀ a ∈ m.live, a ∈ old ∨ InLists address nodes a) ∧ ∀ t, some t ∈ xs → IsGroup t.group_id) := by
  induction xs with
  | nil =>
    intro m nodes hg hnew hold
    exact ⟨m, nodes, rfl, hg, hnew, hold, fun hall => ⟨hall, fun t ht => absurd ht List.not_mem_nil⟩, fun hall => hall.1⟩
  | cons x xs ih =>
    intro m nodes hg hnew hold
    cases x with
    | none =>
      obtain ⟨m', nodes', hfold, hg', hnew', hold', hiff⟩ := ih m nodes hg hnew hold
      refine ⟨m', nodes', hfold, hg', hnew', hold', hiff.trans (and_congr_right fun _ => ?_)⟩
      exact forall_congr' fun t => imp_congr_left (by simp)
    | some strategy =>
      obtain ⟨m1, nodes1, s, hadd, hg1, hs, hlive1, hin1⟩ := addStored_spec A env hg strategy
      have hsin : InLists address nodes1 s ↔ IsGroup strategy.group_id := by
        rw [hin1]
        refine ⟨fun h => h.elim (fun hmem => absurd (hg.live hmem) hs) fun h => h.2, fun h => Or.inr ⟨rfl, h⟩⟩
      have hnew1 : ∀ a, InLists address nodes1 a → a ∉ old := by
        intro a ha
        rcases (hin1 a).1 ha with ha | ⟨rfl, -⟩
        · exact hnew a ha
        · exact fun hmem => hs (hold a hmem)
      obtain ⟨m', nodes', hfold, hg', hnew', hold', hiff⟩ := ih m1 nodes1 hg1 hnew1 fun a ha =>
        (hlive1 a).2 (Or.inr (hold a ha))
      refine ⟨m', nodes', ?_, hg', hnew', hold', hiff.trans ?_⟩
      · rw [List.foldlM_cons, hadd]
        exact hfold
      · constructor
        · intro hall
          have hgroup : IsGroup strategy.group_id := by
            rcases hall.1 s ((hlive1 s).2 (Or.inl rfl)) with hmem | hmem
            · exact absurd (hold s hmem) hs
            · exact hsin.1 hmem
          refine ⟨fun a ha => ?_, fun t ht => ?_⟩
          · refine (hall.1 a ((hlive1 a).2 (Or.inr ha))).imp_right fun hmem => ?_
            rcases (hin1 a).1 hmem with hmem | ⟨rfl, -⟩
            · exact hmem
            · exact absurd ha hs
          · rcases List.mem_cons.1 ht with heq | ht
            · rw [Option.some.inj heq]
              exact hgroup
            · exact hall.2 t ht
        · intro hall
          refine ⟨fun a ha => ?_, fun t ht => hall.2 t (List.mem_cons_of_mem _ ht)⟩
          rcases (hlive1 a).1 ha with rfl | ha
          · exact Or.inr (hsin.2 (hall.2 strategy List.mem_cons_self))
          · exact (hall.1 a ha).imp_right fun hmem => (hin1 a).2 (Or.inl hmem)

/-- **Reading the strategies.** -/
theorem readStrategies_spec (A : Allocator) (env : Env) (h : Heap Strategy) {stored : List (Option Strategy)}
    (hlen : stored.length < 256) :
    ∃ h' heads address nodes, readRelayStrategyGroups A env h stored = .ok (heads, h') ∧
      Groups h' heads address nodes ∧ (∀ a, InLists address nodes a → a ∉ h.live) ∧ (∀ a ∈ h.live, a ∈ h'.live) ∧
      ((∀ a ∈ h'.live, a ∈ h.live ∨ InLists address nodes a) ↔ ∀ t, some t ∈ stored → IsGroup t.group_id) := by
  obtain ⟨address, hgroups, hfresh, hlive⟩ := buildHeads_groups A h
  obtain ⟨h', nodes', hfold, hg', hnew', hold', hiff⟩ := addAll_spec A env h.live stored _ _ hgroups hfresh
    fun a ha => (hlive a).2 (Or.inl ha)
  refine ⟨h', _, address, nodes', ?_, hg', hnew', hold', hiff.trans (and_iff_right fun a ha => (hlive a).1 ha)⟩
  rw [readRelayStrategyGroups, if_pos hlen, hfold]
  rfl

/-- **Deleting the strategies.** -/
theorem deleteAll_spec (hg : Groups h heads address nodes) :
    relayAllStrategyGroupDelete h heads =
      if ∀ i < MAX_RELAY_MODULE_STRATEGY_GROUP_NUM, nodes i = [] then .ok h else .error .freed := by
  have hone : ∀ i < MAX_RELAY_MODULE_STRATEGY_GROUP_NUM,
      (do let n ← h.get (address i); relayStrategyGroupDelete h heads n.val.group_id) =
        if nodes i = [] then .ok h else .error .freed := by
    intro i hi
    have hid := hg.built.ids i hi
    have hgroup : IsGroup (h.cell (address i)).val.group_id := by
      rw [IsGroup, hid]
      exact ⟨Nat.le_add_left 1 i, hi⟩
    rw [Dll.get_live (hg.built.live i hi)]
    change relayStrategyGroupDelete h heads (h.cell (address i)).val.group_id = _
    rw [relayStrategyGroupDelete, groupHead_built hg.built hgroup, hid, Nat.add_sub_cancel]
    change (h.get (address i) >>= _) = _
    rw [Dll.get_live (hg.built.live i hi)]
    exact Dll.deleteLoop_spec (hg.chain i hi) _
  have hrun : ∀ xs : List ℕ, (∀ i ∈ xs, i < MAX_RELAY_MODULE_STRATEGY_GROUP_NUM) →
      (xs.map fun i => some (address i)).foldlM (deleteHead heads) h =
        if ∀ i ∈ xs, nodes i = [] then .ok h else .error .freed := by
    intro xs
    induction xs with
    | nil => exact fun _ => (if_pos fun i hi => absurd hi List.not_mem_nil).symm
    | cons i xs ih =>
      intro hxs
      rw [List.map_cons, List.foldlM_cons]
      change ((do let n ← h.get (address i); relayStrategyGroupDelete h heads n.val.group_id) >>= _) = _
      rw [hone i (hxs i List.mem_cons_self)]
      by_cases hi : nodes i = []
      · rw [if_pos hi]
        refine (ih fun j hj => hxs j (List.mem_cons_of_mem i hj)).trans (if_congr ?_ rfl rfl)
        simp [hi]
      · rw [if_neg hi, if_neg fun hall => hi (hall i List.mem_cons_self)]
        rfl
  have hheads := hrun (List.range MAX_RELAY_MODULE_STRATEGY_GROUP_NUM) fun i hi => List.mem_range.1 hi
  rw [← hg.built.heads] at hheads
  rw [relayAllStrategyGroupDelete, hheads]
  simp only [List.mem_range]

end TenLists

/-! ## Appointments -/

section Appointments

/-- **An appointment is added** to its list. -/
theorem addAppointment_spec (A : Allocator) {m : Heap Appointment} {a : ℕ} {bs : List ℕ} (hc : Chain m (a :: bs))
    (appointment : Appointment) :
    ∃ m' s, addAppointment A a m (some appointment) = .ok m' ∧ Chain m' (a :: (bs ++ [s])) ∧ s ∉ m.live ∧
      (∀ i, i ∈ m'.live ↔ i = s ∨ i ∈ m.live) ∧ (m'.cell s).val = appointment ∧
        ∀ i ∈ m.live, (m'.cell i).val = (m.cell i).val := by
  set s := (m.malloc A appointment).1
  set m1 : Heap Appointment := (m.malloc A appointment).2
  have hfresh : s ∉ m.live := Dll.malloc_fresh A m appointment
  have hself : m1.cell s = ⟨appointment, none, none⟩ := Dll.malloc_self A m appointment
  have hlive1 : ∀ i, i ∈ m1.live ↔ i = s ∨ i ∈ m.live := Dll.mem_malloc A m appointment
  have hc1 : Chain m1 (a :: bs) := hc.malloc A appointment
  have hfuel : bs.length < m1.live.card + 1 := by
    have := hc1.length_le
    rw [List.length_cons] at this
    omega
  obtain ⟨m2, hadd, hchain, hlive2, hval, -⟩ := Dll.addLoop_spec (fun _ _ _ => false) s bs a (m1.live.card + 1) m1 hc1
    ((hlive1 s).2 (Or.inl rfl)) (fun hmem => hfresh (hc.live s hmem)) (by rw [hself]) hfuel
  rw [Dll.insertAt_false] at hchain
  refine ⟨m2, s, hadd, hchain, hfresh, fun i => hlive2 ▸ hlive1 i, ?_, fun i hi => ?_⟩
  · rw [hval, hself]
  · rw [hval, Dll.malloc_old A appointment hi]

/-- the loop that adds them leaves what was there before -/
theorem addAppointments_spec (A : Allocator) (a : ℕ) (xs : List (Option Appointment)) :
    ∀ (m : Heap Appointment) (bs : List ℕ), Chain m (a :: bs) →
      ∃ m' new, xs.foldlM (addAppointment A a) m = .ok m' ∧ Chain m' (a :: (bs ++ new)) ∧ (∀ i ∈ new, i ∉ m.live) ∧
        (∀ i, i ∈ m'.live ↔ i ∈ m.live ∨ i ∈ new) ∧ (∀ i ∈ m.live, (m'.cell i).val = (m.cell i).val) ∧
          new.map (fun i => (m'.cell i).val) = xs.filterMap id := by
  induction xs with
  | nil =>
    intro m bs hc
    exact ⟨m, [], rfl, by rwa [List.append_nil], by simp, by simp, fun _ _ => rfl, rfl⟩
  | cons x xs ih =>
    intro m bs hc
    cases x with
    | none => exact ih m bs hc
    | some appointment =>
      obtain ⟨m1, s, hadd, hc1, hs, hlive1, hself, hval1⟩ := addAppointment_spec A hc appointment
      obtain ⟨m', new, hfold, hc', hnew, hlive', hval', hvals⟩ := ih m1 (bs ++ [s]) hc1
      have hin : ∀ i, i ∈ m.live → i ∈ m1.live := fun i hi => (hlive1 i).2 (Or.inr hi)
      refine ⟨m', s :: new, ?_, ?_, ?_, ?_, ?_, ?_⟩
      · rw [List.foldlM_cons, hadd]
        exact hfold
      · rwa [List.append_cons]
      · intro i hi
        rcases List.mem_cons.1 hi with rfl | hi
        · exact hs
        · exact fun hold => hnew i hi (hin i hold)
      · intro i
        rw [hlive', hlive1, List.mem_cons, or_comm (a := i = s), or_assoc]
      · exact fun i hi => (hval' i (hin i hi)).trans (hval1 i hi)
      · rw [List.map_cons, hval' s ((hlive1 s).2 (Or.inl rfl)), hself, hvals]
        rfl

/-- **Reading the appointments** gives a list of them in the order in which they are stored. -/
theorem readAppointments_spec (A : Allocator) (h : Heap Appointment) (stored : List (Option Appointment)) :
    ∃ a h' bs, readRelayAppointmentGroup A h stored = .ok (a, h') ∧ Chain h' (a :: bs) ∧
      (∀ i ∈ a :: bs, i ∉ h.live) ∧ (∀ i, i ∈ h'.live ↔ i ∈ h.live ∨ i ∈ a :: bs) ∧
      bs.map (fun i => (h'.cell i).val) = stored.filterMap id := by
  set a := (h.malloc A Appointment.zero).1
  have hmem : ∀ i, i ∈ (h.malloc A Appointment.zero).2.live ↔ i = a ∨ i ∈ h.live := Dll.mem_malloc A h _
  have hhead : ((h.malloc A Appointment.zero).2.cell a).next = none := by rw [Dll.malloc_self]
  have hstart : Chain (h.malloc A Appointment.zero).2 [a] :=
    ⟨hhead, List.nodup_singleton _, fun i hi => (hmem i).2 (Or.inl (List.mem_singleton.1 hi))⟩
  obtain ⟨h', bs, hfold, hc, hnew, hlive, -, hvals⟩ := addAppointments_spec A a stored _ [] hstart
  refine ⟨a, h', bs, ?_, hc, ?_, ?_, hvals⟩
  · rw [readRelayAppointmentGroup]
    exact congrArg (fun r => r >>= fun h => .ok (a, h)) hfold
  · intro i hi hold
    rcases List.mem_cons.1 hi with rfl | hi
    · exact Dll.malloc_fresh A h _ hold
    · exact hnew i hi ((hmem i).2 (Or.inr hold))
  · intro i
    rw [hlive, hmem, List.mem_cons, or_comm (a := i = a), or_assoc]

/-- deleting the appointments -/
theorem deleteAppointments_spec {h : Heap Appointment} {a : ℕ} {bs : List ℕ} (hc : Chain h (a :: bs)) :
    relayAppointmentGroupDelete h (some a) = if bs = [] then .ok h else .error .freed := by
  rw [relayAppointmentGroupDelete, Dll.get_live (hc.live a List.mem_cons_self)]
  exact Dll.deleteLoop_spec hc _

end Appointments

end DataConcentrator.Relay
