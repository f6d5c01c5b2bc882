/-
The strategy and appointment lists over the life of the relay task: refreshes, group switches, temporary strategies, and
changes of the sun times and the light.

- `RelayLists.step`: a step; `none` when a node is used that is not allocated, a loop does not end, or more candidates are
  stored than there is room for;
- `refreshPart_iff`, `sunPart_iff`, `temporaryPart_iff`: exactly when a part of an iteration is safe and leaves the
  allocated nodes in the lists;
- `lifecycle_iff`: a run is safe, and the allocated nodes are exactly those in the lists throughout, exactly when each
  iteration meets these conditions;
- `refreshed_twice`: a second refresh.
-/
import DataConcentrator.Relay.Groups
import DataConcentrator.Relay.InForce

namespace DataConcentrator.Relay

open Dll (Heap Fault Allocator Chain Reaches)

/-! ## The state -/

/-- the stored strategies and appointments; `none` is a record whose check fails -/
structure StoredRecords where
  strategies : List (Option Strategy)
  strategies_le : strategies.length ≤ 300
  appointments : List (Option Appointment)
  appointments_le : appointments.length ≤ 10

/-- `RelayStrategyGroupSwitch_S` with its time -/
structure SwitchRequest where
  switch : StrategyGroupSwitch
  time : List UInt8

structure RelayLists where
  strategies : Heap Strategy
  heads : List (Option ℕ)
  appointments : Heap Appointment
  appointmentGroup : Option ℕ
  current : Option ℕ
  refresh : UInt8
  switch : StrategyGroupSwitch
  temporary : SwitchRequest
  seenSun : SunRiseSetTime
  seenIlluminance : ℕ
  stored : StoredRecords
  env : Env
  modules : RelayModules

/-- the allocators of the two kinds of nodes, and the memory after the table of months -/
structure Platform where
  strategyNodes : Allocator
  appointmentNodes : Allocator
  stack : ℕ → UInt8

variable (P : Platform)

namespace RelayLists

/-! ## An iteration -/

/-- the ids of the heads, as `GetRelayStrategyGroupByGroupID` compares them -/
def headId (h : Heap Strategy) (p : Option ℕ) : Except Fault UInt8 := do
  let a ← Dll.deref p
  let n ← h.get a
  return n.val.group_id

/-- `RefreshCurrentRelayStrategyGroup` over the lists -/
def currentGroup (s : RelayLists) : Option (Option ℕ) := do
  let ids ← (s.heads.mapM (headId s.strategies)).toOption
  let a ← s.appointmentGroup
  let nodes ← (do let n ← s.appointments.get a; Dll.toList (s.appointments.live.card + 1) s.appointments n.next).toOption
  let i ← refreshCurrentRelayStrategyGroup P.stack s.env.calendar s.switch
    (nodes.map fun b => (s.appointments.cell b).val) ids
  return i.bind fun i => s.heads.getD i none

/-- the lists deleted and read again -/
def reread (s : RelayLists) : Except Fault RelayLists := do
  let strategies ← relayAllStrategyGroupDelete s.strategies s.heads
  let appointments ← relayAppointmentGroupDelete s.appointments s.appointmentGroup
  let r ← readRelayStrategyGroups P.strategyNodes s.env strategies s.stored.strategies
  let q ← readRelayAppointmentGroup P.appointmentNodes appointments s.stored.appointments
  return { s with
    strategies := r.2
    heads := r.1
    appointments := q.2
    appointmentGroup := some q.1
    current := none
    refresh := 0 }

/-- the refresh at the start of `RelayExecuteStrategyGroup` -/
def refreshPart (s : RelayLists) : Option RelayLists :=
  if s.refresh = 1 then do
    let s ← (s.reread P).toOption
    let current ← s.currentGroup P
    return { s with current := current }
  else some s

/-- the sun times or the light are not those seen last -/
def changed (s : RelayLists) : Prop := s.seenSun ≠ s.env.sun ∨ s.seenIlluminance ≠ s.env.illuminance_value

instance (s : RelayLists) : Decidable s.changed := inferInstanceAs (Decidable (_ ∨ _))

/-- the action times refreshed when the sun times or the light change -/
def sunPart (s : RelayLists) : Option RelayLists :=
  if s.changed then do
    let a ← s.current
    let n ← (s.strategies.get a).toOption
    let strategies ← (refreshRelayStrategyGroupActionTime s.env s.strategies s.heads n.val.group_id).toOption
    return { s with strategies := strategies, seenSun := s.env.sun, seenIlluminance := s.env.illuminance_value }
  else some s

/-- the search and the commands -/
def executePart (now : List UInt8) (s : RelayLists) : Option RelayLists :=
  (executeStrategies now s.env.calendar.minuteOfDay s.strategies s.current s.modules).toOption.map fun modules =>
    { s with modules := modules }

/-- `due` says that a second has passed -/
def relayExecuteStrategyGroup (due : Bool) (now : List UInt8) (s : RelayLists) : Option RelayLists :=
  if due then do
    let s ← s.refreshPart P
    let s ← s.sunPart
    s.executePart now
  else some { s with modules := updateRelayState now s.modules 0 }

/-- the minute in the time of a temporary switch -/
def temporaryMinute (time : List UInt8) : ℕ :=
  toUnsigned 8 (myatoi ((time.drop 8).take 2)) * 60 + toUnsigned 8 (myatoi ((time.drop 10).take 2))

def relayExecuteTemporaryStrategyGroup (now : List UInt8) (s : RelayLists) : Option RelayLists :=
  if s.temporary.switch.type = 3 then do
    let p ← (groupHead s.strategies s.heads (s.temporary.switch.group_id 0)).toOption
    match p with
    | none => some s
    | some a => do
      let nodes ← (do let n ← s.strategies.get a; Dll.toList (s.strategies.live.card + 1) s.strategies n.next).toOption
      let due := nodes.filter fun i => temporaryMinute s.temporary.time = timeAt s.strategies i
      return { s with
        modules := due.foldl (fun ms i => runTemporary now ms (s.strategies.cell i).val.action) s.modules
        temporary := if due = [] then s.temporary else { s.temporary with switch.type := 0 } }
  else some s

/-! ## Runs -/

inductive Event where
  | switch (request : SwitchRequest)
  | store (stored : StoredRecords)
  | environment (env : Env)
  | iteration (due : Bool) (now : List UInt8)

/-- the end of `RelaySetStrategyGroupSwitch` -/
def setStrategyGroupSwitch (s : RelayLists) (request : SwitchRequest) : RelayLists :=
  if request.switch.type = 3 then { s with temporary := request }
  else if request.switch.type = 1 ∨ request.switch.type = 2 then { s with switch := request.switch, refresh := 1 }
  else s

def step (s : RelayLists) : Event → Option RelayLists
  | .switch request => some (s.setStrategyGroupSwitch request)
  | .store stored => some { s with stored := stored }
  | .environment env => some { s with env := env }
  | .iteration due now => do
    let s ← s.relayExecuteStrategyGroup P due now
    s.relayExecuteTemporaryStrategyGroup now

/-- nothing has been read yet -/
def Unread (s : RelayLists) : Prop :=
  s.heads = List.replicate MAX_RELAY_MODULE_STRATEGY_GROUP_NUM none ∧ s.appointmentGroup = none

/-- the allocated nodes are those that can be reached from the ten heads, and from the head of the appointments -/
def Tidy (s : RelayLists) : Prop :=
  (∀ a, a ∈ s.strategies.live ↔ ∃ p ∈ s.heads, Reaches s.strategies p a) ∧
    ∀ a, a ∈ s.appointments.live ↔ Reaches s.appointments s.appointmentGroup a

/-- the group that the stored records select -/
def selected (s : RelayLists) : Option (Option ℕ) :=
  refreshCurrentRelayStrategyGroup P.stack s.env.calendar s.switch (s.stored.appointments.filterMap id) builtHeads

/-- the first refresh, of at most 255 stored strategies that are all of groups 1 to 10, with room for the candidates -/
structure ReadFits (s : RelayLists) : Prop where
  unread : s.Unread
  number : s.stored.strategies.length < 256
  groups : ∀ t, some t ∈ s.stored.strategies → IsGroup t.group_id
  room : (s.selected P).isSome

/-- a group is selected when the sun times and the light are looked at -/
def GroupSelected (s : RelayLists) : Prop :=
  if s.refresh = 1 then ∃ i, s.selected P = some (some i) else s.current ≠ none

/-- an iteration that reads the lists does so for the first time and from records that fit; a group is selected when the
sun times or the light change; and a temporary strategy of a group comes after the lists have been read -/
def StepFits (s : RelayLists) : Event → Prop
  | .iteration due _ =>
    (due = true → (s.refresh = 1 → s.ReadFits P) ∧ (s.changed → s.GroupSelected P)) ∧
      (s.temporary.switch.type = 3 → IsGroup (s.temporary.switch.group_id 0) →
        s.Unread → due = true ∧ s.refresh = 1)
  | _ => True

/-- at the start -/
def boot (stored : StoredRecords) (switch : StrategyGroupSwitch) (env : Env) (modules : RelayModules) : RelayLists where
  strategies := ⟨∅, fun _ => ⟨Strategy.zero, none, none⟩⟩
  heads := List.replicate MAX_RELAY_MODULE_STRATEGY_GROUP_NUM none
  appointments := ⟨∅, fun _ => ⟨Appointment.zero, none, none⟩⟩
  appointmentGroup := none
  current := none
  refresh := 1
  switch := switch
  temporary := ⟨⟨0, fun _ => 0, 0⟩, []⟩
  seenSun := ⟨0, 0, 0, 0⟩
  seenIlluminance := 0
  stored := stored
  env := env
  modules := modules

/-! ## The invariant -/

/-- before the first refresh there are no nodes -/
structure Blank (s : RelayLists) : Prop where
  unread : s.Unread
  strategies : s.strategies.live = ∅
  appointments : s.appointments.live = ∅
  current : s.current = none
  refresh : s.refresh = 1

/-- after it there are ten lists and the appointments, with all the nodes -/
structure Read (s : RelayLists) (address : ℕ → ℕ) (nodes : ℕ → List ℕ) (a : ℕ) (bs : List ℕ) : Prop where
  groups : Groups s.strategies s.heads address nodes
  strategies : ∀ i ∈ s.strategies.live, InLists address nodes i
  group : s.appointmentGroup = some a
  chain : Chain s.appointments (a :: bs)
  appointments : ∀ i ∈ s.appointments.live, i ∈ a :: bs
  current : ∀ c, s.current = some c → ∃ i < MAX_RELAY_MODULE_STRATEGY_GROUP_NUM, c = address i

/-- nothing has been read, or all is in the lists -/
def Kept (s : RelayLists) : Prop := s.Blank ∨ ∃ address nodes a bs, s.Read address nodes a bs

theorem not_reaches_none {α : Type} (h : Heap α) (a : ℕ) : ¬ Reaches h none a := fun hr => by cases hr

section Invariant

variable {P} {s t : RelayLists}

theorem Read.not_unread {address : ℕ → ℕ} {nodes : ℕ → List ℕ} {a : ℕ} {bs : List ℕ} (h : s.Read address nodes a bs) :
    ¬ s.Unread := fun hu => by
  have hnone := hu.2
  rw [h.group] at hnone
  exact absurd hnone (by simp)

theorem Kept.tidy (h : s.Kept) : s.Tidy := by
  rcases h with h | ⟨address, nodes, a, bs, h⟩
  · rw [Tidy, h.strategies, h.appointments, h.unread.1, h.unread.2]
    refine ⟨fun i => ⟨fun hi => absurd hi (Finset.notMem_empty i), fun hr => ?_⟩,
      fun i => ⟨fun hi => absurd hi (Finset.notMem_empty i), fun hr => absurd hr (not_reaches_none _ i)⟩⟩
    obtain ⟨p, hp, hr⟩ := hr
    rw [List.eq_of_mem_replicate hp] at hr
    exact absurd hr (not_reaches_none _ i)
  · refine ⟨fun i => ?_, fun i => ?_⟩
    · rw [h.groups.reaches_iff]
      exact ⟨h.strategies i, h.groups.live⟩
    · rw [h.group]
      exact ⟨fun hi => (Dll.reaches_iff h.chain.linked).2 (h.appointments i hi),
        fun hr => h.chain.live i ((Dll.reaches_iff h.chain.linked).1 hr)⟩

/-- what the lists are made of stays -/
structure SameLists (s t : RelayLists) : Prop where
  heads : t.heads = s.heads
  live : t.strategies.live = s.strategies.live
  cell : ∀ i, (t.strategies.cell i).next = (s.strategies.cell i).next ∧
    (t.strategies.cell i).prev = (s.strategies.cell i).prev ∧
      (t.strategies.cell i).val.group_id = (s.strategies.cell i).val.group_id
  appointments : t.appointments = s.appointments
  appointmentGroup : t.appointmentGroup = s.appointmentGroup
  current : t.current = s.current
  refresh : t.refresh = s.refresh

theorem SameLists.trans {u : RelayLists} (h : SameLists s t) (h' : SameLists t u) : SameLists s u := by
  refine ⟨h'.heads.trans h.heads, h'.live.trans h.live, fun i => ?_, h'.appointments.trans h.appointments,
    h'.appointmentGroup.trans h.appointmentGroup, h'.current.trans h.current, h'.refresh.trans h.refresh⟩
  obtain ⟨h1, h2, h3⟩ := h.cell i
  obtain ⟨h1', h2', h3'⟩ := h'.cell i
  exact ⟨h1'.trans h1, h2'.trans h2, h3'.trans h3⟩

theorem Kept.same (h : s.Kept) (hsame : SameLists s t) : t.Kept := by
  rcases h with h | ⟨address, nodes, a, bs, h⟩
  · left
    exact ⟨⟨hsame.heads.trans h.unread.1, hsame.appointmentGroup.trans h.unread.2⟩, hsame.live.trans h.strategies,
      by rw [hsame.appointments]; exact h.appointments, hsame.current.trans h.current, hsame.refresh.trans h.refresh⟩
  · right
    refine ⟨address, nodes, a, bs, ?_, ?_, hsame.appointmentGroup.trans h.group, ?_, ?_, ?_⟩
    · rw [hsame.heads]
      exact h.groups.congr (fun i hi => hsame.live ▸ hi) fun i _ => hsame.cell i
    · rw [hsame.live]
      exact h.strategies
    · rw [hsame.appointments]
      exact h.chain
    · rw [hsame.appointments]
      exact h.appointments
    · rw [hsame.current]
      exact h.current

theorem SameLists.tidy (hsame : SameLists s t) (h : t.Tidy) : s.Tidy := by
  refine ⟨fun i => ?_, fun i => ?_⟩
  · rw [← hsame.live, h.1 i, hsame.heads]
    constructor
    · exact fun ⟨p, hp, hr⟩ => ⟨p, hp, hr.congr fun j => (hsame.cell j).1.symm⟩
    · exact fun ⟨p, hp, hr⟩ => ⟨p, hp, hr.congr fun j => (hsame.cell j).1⟩
  · have hi := h.2 i
    rw [hsame.appointments, hsame.appointmentGroup] at hi
    exact hi

theorem SameLists.unread (hsame : SameLists s t) : t.Unread ↔ s.Unread := by
  rw [Unread, Unread, hsame.heads, hsame.appointmentGroup]

theorem toOption_bind {ε α β : Type} {x : Except ε α} {f : α → Option β} {b : β} :
    (x.toOption >>= f) = some b ↔ ∃ a, x = .ok a ∧ f a = some b := by
  cases x with
  | error e => exact ⟨fun h => (nomatch h), fun ⟨a, ha, _⟩ => (nomatch ha)⟩
  | ok a => exact ⟨fun h => ⟨a, rfl, h⟩, fun ⟨a', ha, h⟩ => Except.ok.inj ha ▸ h⟩

/-! ## The parts that keep the lists -/

/-- refreshing changes the action times only -/
theorem refreshGroup_keeps {env : Env} {h h' : Heap Strategy} {heads : List (Option ℕ)} {g : UInt8}
    (hok : refreshRelayStrategyGroupActionTime env h heads g = .ok h') :
    h'.live = h.live ∧ ∀ i, (h'.cell i).next = (h.cell i).next ∧ (h'.cell i).prev = (h.cell i).prev ∧
      (h'.cell i).val.group_id = (h.cell i).val.group_id := by
  rw [refreshRelayStrategyGroupActionTime] at hok
  cases hhead : groupHead h heads g with
  | error e => rw [hhead] at hok; cases hok
  | ok p =>
    rw [hhead] at hok
    cases p with
    | none =>
      cases hok
      exact ⟨rfl, fun i => ⟨rfl, rfl, rfl⟩⟩
    | some a =>
      by_cases ha : a ∈ h.live
      · change (h.get a >>= _) = _ at hok
        rw [Dll.get_live ha] at hok
        refine Dll.mapLoop_keeps _ Strategy.group_id (fun v => ?_) _ _ _ _ hok
        have hid := congrArg Strategy.group_id (refresh_stored env v)
        exact hid
      · change (h.get a >>= _) = _ at hok
        rw [Dll.Heap.get, if_neg ha] at hok
        cases hok

theorem sunPart_same (h : s.sunPart = some t) : SameLists s t ∧ t.temporary = s.temporary := by
  rw [sunPart] at h
  split_ifs at h with hc
  · obtain ⟨a, hcurrent, h⟩ := Option.bind_eq_some_iff.1 h
    obtain ⟨n, hn, h⟩ := toOption_bind.1 h
    obtain ⟨strategies, hrefresh, h⟩ := toOption_bind.1 h
    cases h
    obtain ⟨hlive, hcell⟩ := refreshGroup_keeps hrefresh
    exact ⟨⟨rfl, hlive, hcell, rfl, rfl, rfl, rfl⟩, rfl⟩
  · cases h
    exact ⟨⟨rfl, rfl, fun i => ⟨rfl, rfl, rfl⟩, rfl, rfl, rfl, rfl⟩, rfl⟩

/-- **A change of the sun times or the light** needs a group. -/
theorem sunPart_iff (hk : s.Kept) : (∃ t, s.sunPart = some t) ↔ (s.changed → s.current ≠ none) := by
  rw [sunPart]
  by_cases hc : s.changed
  · rw [if_pos hc]
    cases hcur : s.current with
    | none => exact ⟨fun ⟨t, ht⟩ => (nomatch ht), fun h => absurd rfl (h hc)⟩
    | some c =>
      refine ⟨fun _ _ => Option.some_ne_none c, fun _ => ?_⟩
      rcases hk with h | ⟨address, nodes, a, bs, h⟩
      · exact absurd (hcur.symm.trans h.current) (Option.some_ne_none c)
      · obtain ⟨i, hi, rfl⟩ := h.current c hcur
        have hid := h.groups.built.ids i hi
        have hgroup : IsGroup (s.strategies.cell (address i)).val.group_id := by
          rw [IsGroup, hid]
          exact ⟨Nat.le_add_left 1 i, hi⟩
        have hidx : (s.strategies.cell (address i)).val.group_id.toNat - 1 = i := by rw [hid, Nat.add_sub_cancel]
        obtain ⟨strategies, hrefresh, -⟩ := refreshGroup_spec s.env h.groups.built hgroup (hidx ▸ h.groups.chain i hi)
        change ∃ t, ((s.strategies.get (address i)).toOption >>= _) = _
        rw [Dll.get_live (h.groups.built.live i hi)]
        refine ⟨_, toOption_bind.2 ⟨_, rfl, toOption_bind.2 ⟨strategies, hrefresh, rfl⟩⟩⟩
  · rw [if_neg hc]
    exact ⟨fun _ h => absurd h hc, fun _ => ⟨s, rfl⟩⟩

theorem executePart_same {now : List UInt8} (h : s.executePart now = some t) :
    SameLists s t ∧ t.temporary = s.temporary := by
  obtain ⟨ms, hms, rfl⟩ := Option.map_eq_some_iff.1 h
  exact ⟨⟨rfl, rfl, fun i => ⟨rfl, rfl, rfl⟩, rfl, rfl, rfl, rfl⟩, rfl⟩

theorem executePart_ok (hk : s.Kept) (now : List UInt8) : ∃ t, s.executePart now = some t := by
  rw [executePart]
  cases hcur : s.current with
  | none => exact ⟨_, rfl⟩
  | some c =>
    rcases hk with h | ⟨address, nodes, a, bs, h⟩
    · exact absurd (hcur.symm.trans h.current) (Option.some_ne_none c)
    · obtain ⟨i, hi, rfl⟩ := h.current c hcur
      obtain ⟨ms, hms⟩ := executeStrategies_ok (n := s.env.calendar.minuteOfDay) (h.groups.chain i hi) now s.modules
      rw [hms]
      exact ⟨_, rfl⟩

theorem temporary_same {now : List UInt8} (h : s.relayExecuteTemporaryStrategyGroup now = some t) : SameLists s t := by
  rw [relayExecuteTemporaryStrategyGroup] at h
  split_ifs at h with htype
  · obtain ⟨p, hp, h⟩ := toOption_bind.1 h
    cases p with
    | none =>
      cases h
      exact ⟨rfl, rfl, fun i => ⟨rfl, rfl, rfl⟩, rfl, rfl, rfl, rfl⟩
    | some a =>
      obtain ⟨nodes, hnodes, h⟩ := toOption_bind.1 h
      cases h
      exact ⟨rfl, rfl, fun i => ⟨rfl, rfl, rfl⟩, rfl, rfl, rfl, rfl⟩
  · cases h
    exact ⟨rfl, rfl, fun i => ⟨rfl, rfl, rfl⟩, rfl, rfl, rfl, rfl⟩

/-- **A temporary strategy** of a group needs the heads. -/
theorem temporary_iff (hk : s.Kept) (now : List UInt8) :
    (∃ t, s.relayExecuteTemporaryStrategyGroup now = some t) ↔
      (s.temporary.switch.type = 3 → IsGroup (s.temporary.switch.group_id 0) → ¬ s.Unread) := by
  set g := s.temporary.switch.group_id 0 with hg
  rw [relayExecuteTemporaryStrategyGroup]
  by_cases htype : s.temporary.switch.type = 3
  · rw [if_pos htype]
    by_cases hgroup : IsGroup g
    · rcases hk with h | ⟨address, nodes, a, bs, h⟩
      · refine ⟨fun ⟨t, ht⟩ => ?_, fun hfits => absurd h.unread (hfits htype hgroup)⟩
        obtain ⟨p, hp, -⟩ := toOption_bind.1 ht
        have hrange : 1 ≤ g.toNat ∧ g.toNat ≤ MAX_RELAY_MODULE_STRATEGY_GROUP_NUM := hgroup
        rw [groupHead, if_pos hrange, h.unread.1] at hp
        cases hp
      · refine ⟨fun _ _ _ => h.not_unread, fun _ => ?_⟩
        have hchain := h.groups.chain _ (group_index hgroup)
        have hfuel : (nodes (g.toNat - 1)).length < s.strategies.live.card + 1 := by
          have := hchain.length_le
          rw [List.length_cons] at this
          omega
        refine ⟨_, toOption_bind.2 ⟨_, groupHead_built h.groups.built hgroup,
          toOption_bind.2 ⟨nodes (g.toNat - 1), ?_, rfl⟩⟩⟩
        rw [Dll.get_live (hchain.live _ List.mem_cons_self)]
        change Dll.toList _ s.strategies (s.strategies.cell _).next = _
        rw [Dll.linked_next hchain.linked]
        exact Dll.toList_eq _ _ _ hchain.of_cons hfuel
    · have hrange : ¬ (1 ≤ g.toNat ∧ g.toNat ≤ MAX_RELAY_MODULE_STRATEGY_GROUP_NUM) := hgroup
      refine ⟨fun _ _ hin => absurd hin hgroup, fun _ => ⟨s, toOption_bind.2 ⟨none, ?_, rfl⟩⟩⟩
      rw [groupHead, if_neg hrange]
  · rw [if_neg htype]
    exact ⟨fun _ h => absurd h htype, fun _ => ⟨s, rfl⟩⟩

/-! ## Reading -/

/-- what reading leaves, and the lists it has built -/
structure Reread (s t : RelayLists) (address : ℕ → ℕ) (nodes : ℕ → List ℕ) (a : ℕ) (bs : List ℕ) : Prop where
  groups : Groups t.strategies t.heads address nodes
  new : ∀ i, InLists address nodes i → i ∉ s.strategies.live
  old : ∀ i ∈ s.strategies.live, i ∈ t.strategies.live
  strays : (∀ i ∈ t.strategies.live, i ∈ s.strategies.live ∨ InLists address nodes i) ↔
    ∀ r, some r ∈ s.stored.strategies → IsGroup r.group_id
  group : t.appointmentGroup = some a
  chain : Chain t.appointments (a :: bs)
  appointments : ∀ i, i ∈ t.appointments.live ↔ i ∈ s.appointments.live ∨ i ∈ a :: bs
  stored : bs.map (fun i => (t.appointments.cell i).val) = s.stored.appointments.filterMap id
  current : t.current = none
  refresh : t.refresh = 0
  same : t.env = s.env ∧ t.switch = s.switch ∧ t.temporary = s.temporary ∧ t.seenSun = s.seenSun ∧
    t.seenIlluminance = s.seenIlluminance ∧ t.modules = s.modules

theorem reread_ok (hdelete : relayAllStrategyGroupDelete s.strategies s.heads = .ok s.strategies)
    (happ : relayAppointmentGroupDelete s.appointments s.appointmentGroup = .ok s.appointments)
    (hlen : s.stored.strategies.length < 256) :
    ∃ t address nodes a bs, s.reread P = .ok t ∧ Reread s t address nodes a bs := by
  obtain ⟨h', heads, address, nodes, hread, hgroups, hnew, hold, hstrays⟩ :=
    readStrategies_spec P.strategyNodes s.env s.strategies hlen
  obtain ⟨a, ap, bs, hreadap, hchain, -, hlive, hstored⟩ :=
    readAppointments_spec P.appointmentNodes s.appointments s.stored.appointments
  refine ⟨{ s with
    strategies := h'
    heads := heads
    appointments := ap
    appointmentGroup := some a
    current := none
    refresh := 0 }, address, nodes, a, bs, ?_, ⟨hgroups, hnew, hold, hstrays, rfl, hchain, hlive, hstored, rfl, rfl,
    rfl, rfl, rfl, rfl, rfl, rfl⟩⟩
  rw [reread, hdelete, happ]
  change (readRelayStrategyGroups P.strategyNodes s.env s.strategies s.stored.strategies >>= _) = _
  rw [hread]
  change (readRelayAppointmentGroup P.appointmentNodes s.appointments s.stored.appointments >>= _) = _
  rw [hreadap]
  rfl

/-- in the lists just read the group is selected from the stored appointments -/
theorem Reread.currentGroup_eq {address : ℕ → ℕ} {nodes : ℕ → List ℕ} {a : ℕ} {bs : List ℕ}
    (h : Reread s t address nodes a bs) :
    t.currentGroup P = (s.selected P).map fun i => i.bind fun i => t.heads.getD i none := by
  have hids : t.heads.mapM (headId t.strategies) = .ok builtHeads := by
    have hrun : ∀ xs : List ℕ, (∀ i ∈ xs, i < MAX_RELAY_MODULE_STRATEGY_GROUP_NUM) →
        (xs.map fun i => some (address i)).mapM (headId t.strategies) = .ok (xs.map fun i => UInt8.ofNat (i + 1)) := by
      intro xs
      induction xs with
      | nil => exact fun _ => rfl
      | cons i xs ih =>
        intro hxs
        have hi := hxs i List.mem_cons_self
        have hid : headId t.strategies (some (address i)) = .ok (UInt8.ofNat (i + 1)) := by
          rw [headId]
          change (t.strategies.get (address i) >>= _) = _
          rw [Dll.get_live (h.groups.built.live i hi)]
          have hlt : i + 1 < 256 := by
            have hi10 : i < 10 := hi
            omega
          exact congrArg Except.ok (UInt8.toNat_inj.1 ((h.groups.built.ids i hi).trans (Nat.mod_eq_of_lt hlt).symm))
        rw [List.map_cons, List.mapM_cons, hid, ih fun j hj => hxs j (List.mem_cons_of_mem i hj)]
        rfl
    rw [h.groups.built.heads, hrun _ fun i hi => List.mem_range.1 hi]
    rfl
  have hfuel : bs.length < t.appointments.live.card + 1 := by
    have := h.chain.length_le
    rw [List.length_cons] at this
    omega
  have hnodes : (do let n ← t.appointments.get a; Dll.toList (t.appointments.live.card + 1) t.appointments n.next) =
      .ok bs := by
    rw [Dll.get_live (h.chain.live a List.mem_cons_self)]
    change Dll.toList _ t.appointments (t.appointments.cell a).next = _
    rw [Dll.linked_next h.chain.linked]
    exact Dll.toList_eq bs _ _ h.chain.of_cons hfuel
  obtain ⟨henv, hswitch, -⟩ := h.same
  rw [currentGroup, hids, h.group]
  change ((do let n ← t.appointments.get a; Dll.toList (t.appointments.live.card + 1) t.appointments n.next).toOption
    >>= _) = _
  rw [hnodes]
  change (refreshCurrentRelayStrategyGroup P.stack t.env.calendar t.switch (bs.map fun b => (t.appointments.cell b).val)
    builtHeads >>= _) = _
  rw [henv, hswitch, h.stored, selected]
  cases refreshCurrentRelayStrategyGroup P.stack s.env.calendar s.switch (s.stored.appointments.filterMap id)
    builtHeads <;> rfl

/-- a group that is selected is one of the ten -/
theorem selected_lt {i : ℕ} (h : s.selected P = some (some i)) : i < MAX_RELAY_MODULE_STRATEGY_GROUP_NUM := by
  have hget : ∀ g, getRelayStrategyGroupByGroupID builtHeads g = some i → i < MAX_RELAY_MODULE_STRATEGY_GROUP_NUM := by
    intro g hg
    rw [getRelayStrategyGroupByGroupID] at hg
    split_ifs at hg
    exact (List.findIdx?_eq_some_iff_findIdx_eq.1 hg).1
  rw [selected, refreshCurrentRelayStrategyGroup] at h
  split_ifs at h
  · exact hget _ (Option.some.inj h)
  · obtain ⟨ps, -, hps⟩ := Option.map_eq_some_iff.1 h
    exact hget _ hps
  · exact hget _ (Option.some.inj h)
  · exact hget _ (Option.some.inj h)
  · exact hget _ (Option.some.inj h)

theorem Blank.deletes (h : s.Blank) : relayAllStrategyGroupDelete s.strategies s.heads = .ok s.strategies ∧
    relayAppointmentGroupDelete s.appointments s.appointmentGroup = .ok s.appointments := by
  rw [h.unread.1, h.unread.2]
  exact ⟨rfl, rfl⟩

/-- too many stored strategies are read without an end -/
theorem reread_number (h : s.reread P = .ok t) : s.stored.strategies.length < 256 := by
  by_contra hlen
  rw [reread] at h
  cases hdelete : relayAllStrategyGroupDelete s.strategies s.heads with
  | error e => rw [hdelete] at h; cases h
  | ok strategies =>
    rw [hdelete] at h
    cases happ : relayAppointmentGroupDelete s.appointments s.appointmentGroup with
    | error e => rw [happ] at h; cases h
    | ok appointments =>
      rw [happ] at h
      change (readRelayStrategyGroups P.strategyNodes s.env strategies s.stored.strategies >>= _) = _ at h
      rw [readRelayStrategyGroups, if_neg hlen] at h
      cases h

/-- lists with nodes cannot be deleted, and heads are never freed -/
theorem Read.not_reread {address : ℕ → ℕ} {nodes : ℕ → List ℕ} {a : ℕ} {bs : List ℕ} (h : s.Read address nodes a bs)
    (hok : s.reread P = .ok t) {u : RelayLists} (hsame : SameLists t u ∨ u = { t with current := u.current }) :
    ¬ u.Tidy := by
  intro htidy
  have hlen := reread_number hok
  have hdelete := deleteAll_spec h.groups
  have happ := deleteAppointments_spec h.chain
  by_cases hnodes : ∀ i < MAX_RELAY_MODULE_STRATEGY_GROUP_NUM, nodes i = []
  · rw [if_pos hnodes] at hdelete
    by_cases hbs : bs = []
    · rw [if_pos hbs, ← h.group] at happ
      obtain ⟨t', address', nodes', a', bs', hok', hread⟩ := reread_ok hdelete happ hlen
      cases hok.symm.trans hok'
      have hold : address 0 ∈ s.strategies.live := h.groups.built.live 0 (by decide)
      have htidy' : ∀ i, i ∈ t.strategies.live ↔ ∃ p ∈ t.heads, Reaches t.strategies p i := by
        rcases hsame with hsame | heq
        · exact (hsame.tidy htidy).1
        · rw [heq] at htidy
          exact htidy.1
      obtain hreach := (htidy' _).1 (hread.old _ hold)
      exact hread.new _ ((hread.groups.reaches_iff _).1 hreach) hold
    · rw [if_neg hbs, ← h.group] at happ
      rw [reread, hdelete] at hok
      change (relayAppointmentGroupDelete s.appointments s.appointmentGroup >>= _) = _ at hok
      rw [happ] at hok
      cases hok
  · rw [if_neg hnodes] at hdelete
    rw [reread, hdelete] at hok
    cases hok

/-- a first refresh from records that fit -/
theorem refreshPart_eq (hk : s.Kept) (hrefresh : s.refresh = 1) (hfits : s.ReadFits P) :
    ∃ t address nodes a bs sel, Reread s t address nodes a bs ∧ s.selected P = some sel ∧
      s.refreshPart P = some { t with current := sel.bind fun i => t.heads.getD i none } ∧
      Read { t with current := sel.bind fun i => t.heads.getD i none } address nodes a bs := by
  have hblank : s.Blank := hk.resolve_right fun ⟨_, _, _, _, h⟩ => h.not_unread hfits.unread
  obtain ⟨t, address, nodes, a, bs, hok, hread⟩ := reread_ok hblank.deletes.1 hblank.deletes.2 hfits.number
  obtain ⟨sel, hsel⟩ := Option.isSome_iff_exists.1 hfits.room
  have hcurrent : t.currentGroup P = some (sel.bind fun i => t.heads.getD i none) := by
    rw [hread.currentGroup_eq, hsel]
    rfl
  refine ⟨t, address, nodes, a, bs, sel, hread, hsel, ?_, hread.groups, fun i hi => ?_, hread.group, hread.chain,
    fun i hi => ?_, fun c hc => ?_⟩
  · rw [refreshPart, if_pos hrefresh, hok]
    change (t.currentGroup P >>= _) = _
    rw [hcurrent]
    rfl
  · refine (hread.strays.2 hfits.groups i hi).resolve_left fun hold => ?_
    rw [hblank.strategies] at hold
    exact absurd hold (Finset.notMem_empty i)
  · refine ((hread.appointments i).1 hi).resolve_left fun hold => ?_
    rw [hblank.appointments] at hold
    exact absurd hold (Finset.notMem_empty i)
  · cases sel with
    | none => exact absurd hc (by simp)
    | some i =>
      have hi := selected_lt hsel
      exact ⟨i, hi, Option.some.inj (hc.symm.trans (hread.groups.getD_heads hi))⟩

/-- **A refresh** is safe and leaves no node outside the lists exactly when it is the first, and its records fit. -/
theorem refreshPart_iff (hk : s.Kept) :
    (∃ t, s.refreshPart P = some t ∧ t.Tidy) ↔ (s.refresh = 1 → s.ReadFits P) := by
  by_cases hrefresh : s.refresh = 1
  · constructor
    · intro hex _
      obtain ⟨t, ht, htidy⟩ := hex
      have ht' := ht
      rw [refreshPart, if_pos hrefresh] at ht
      obtain ⟨t0, hok, ht⟩ := toOption_bind.1 ht
      obtain ⟨current, hcurrent, ht⟩ := Option.bind_eq_some_iff.1 ht
      have heq : t = { t0 with current := current } := (Option.some.inj ht).symm
      rcases hk with hblank | ⟨address, nodes, a, bs, h⟩
      · have hlen := reread_number hok
        obtain ⟨t1, address, nodes, a, bs, hok1, hread⟩ := reread_ok hblank.deletes.1 hblank.deletes.2 hlen
        cases hok.symm.trans hok1
        refine ⟨hblank.unread, hlen, hread.strays.1 fun i hi => ?_, ?_⟩
        · rw [heq] at htidy
          exact Or.inr ((hread.groups.reaches_iff i).1 ((htidy.1 i).1 hi))
        · rw [hread.currentGroup_eq] at hcurrent
          obtain ⟨sel, hsel, -⟩ := Option.map_eq_some_iff.1 hcurrent
          exact Option.isSome_iff_exists.2 ⟨sel, hsel⟩
      · refine absurd htidy (h.not_reread hok (Or.inr ?_))
        rw [heq]
    · intro hfits
      obtain ⟨t, address, nodes, a, bs, sel, -, -, ht, hread⟩ := refreshPart_eq hk hrefresh (hfits hrefresh)
      exact ⟨_, ht, Kept.tidy (Or.inr ⟨address, nodes, a, bs, hread⟩)⟩
  · rw [refreshPart, if_neg hrefresh]
    exact ⟨fun _ h => absurd h hrefresh, fun _ => ⟨s, rfl, hk.tidy⟩⟩

/-- what such a refresh leaves -/
theorem refreshPart_kept (hk : s.Kept) (hfits : s.refresh = 1 → s.ReadFits P) (ht : s.refreshPart P = some t) :
    t.Kept ∧ t.temporary = s.temporary ∧ (t.changed ↔ s.changed) ∧ (t.current ≠ none ↔ s.GroupSelected P) ∧
      (t.Unread ↔ s.Unread ∧ s.refresh ≠ 1) := by
  rw [GroupSelected]
  by_cases hrefresh : s.refresh = 1
  · obtain ⟨t', address, nodes, a, bs, sel, hreread, hsel, ht', hread⟩ :=
      refreshPart_eq hk hrefresh (hfits hrefresh)
    cases ht.symm.trans ht'
    obtain ⟨henv, -, htemp, hsun, hill, -⟩ := hreread.same
    refine ⟨Or.inr ⟨address, nodes, a, bs, hread⟩, htemp, ?_, ?_, ?_⟩
    · show (t'.seenSun ≠ t'.env.sun ∨ t'.seenIlluminance ≠ t'.env.illuminance_value) ↔ _
      rw [henv, hsun, hill]
      rfl
    · rw [if_pos hrefresh, hsel]
      cases sel with
      | none => simp
      | some i =>
        have hget := hreread.groups.getD_heads (selected_lt hsel)
        exact ⟨fun _ => ⟨i, rfl⟩, fun _ heq => absurd (hget.symm.trans heq) (Option.some_ne_none _)⟩
    · exact ⟨fun hu => absurd hu hread.not_unread, fun h => absurd hrefresh h.2⟩
  · rw [refreshPart, if_neg hrefresh] at ht
    cases ht
    rw [if_neg hrefresh]
    exact ⟨hk, rfl, Iff.rfl, Iff.rfl, fun hu => ⟨hu, hrefresh⟩, fun h => h.1⟩

/-! ## Runs of the task -/

theorem setStrategyGroupSwitch_kept (hk : s.Kept) (request : SwitchRequest) :
    (s.setStrategyGroupSwitch request).Kept := by
  rw [setStrategyGroupSwitch]
  split_ifs
  · exact hk.same ⟨rfl, rfl, fun i => ⟨rfl, rfl, rfl⟩, rfl, rfl, rfl, rfl⟩
  · rcases hk with h | ⟨address, nodes, a, bs, h⟩
    · exact Or.inl ⟨h.unread, h.strategies, h.appointments, h.current, rfl⟩
    · exact Or.inr ⟨address, nodes, a, bs, h.groups, h.strategies, h.group, h.chain, h.appointments, h.current⟩
  · exact hk

/-- the part of an iteration before the temporary strategies -/
theorem executeStrategyGroup_iff (hk : s.Kept) (due : Bool) (now : List UInt8) :
    (∃ t, s.relayExecuteStrategyGroup P due now = some t ∧ t.Tidy) ↔
      (due = true → (s.refresh = 1 → s.ReadFits P) ∧ (s.changed → s.GroupSelected P)) := by
  cases due with
  | false =>
    have hsame : SameLists s { s with modules := updateRelayState now s.modules 0 } :=
      ⟨rfl, rfl, fun i => ⟨rfl, rfl, rfl⟩, rfl, rfl, rfl, rfl⟩
    exact ⟨fun _ h => absurd h Bool.false_ne_true, fun _ => ⟨_, rfl, (hk.same hsame).tidy⟩⟩
  | true =>
    rw [relayExecuteStrategyGroup, if_pos rfl]
    constructor
    · intro hex _
      obtain ⟨t, ht, htidy⟩ := hex
      obtain ⟨s1, h1, ht⟩ := Option.bind_eq_some_iff.1 ht
      obtain ⟨s2, h2, ht⟩ := Option.bind_eq_some_iff.1 ht
      have htidy1 : s1.Tidy := ((sunPart_same h2).1.trans (executePart_same ht).1).tidy htidy
      have hfits := (refreshPart_iff hk).1 ⟨s1, h1, htidy1⟩
      obtain ⟨hk1, -, hchanged, hcurrent, -⟩ := refreshPart_kept hk hfits h1
      exact ⟨hfits, fun hc => hcurrent.1 ((sunPart_iff hk1).1 ⟨s2, h2⟩ (hchanged.2 hc))⟩
    · intro h
      obtain ⟨hfits, hselected⟩ := h rfl
      obtain ⟨s1, h1, -⟩ := (refreshPart_iff hk).2 hfits
      obtain ⟨hk1, -, hchanged, hcurrent, -⟩ := refreshPart_kept hk hfits h1
      obtain ⟨s2, h2⟩ := (sunPart_iff hk1).2 fun hc => hcurrent.2 (hselected (hchanged.1 hc))
      have hk2 := hk1.same (sunPart_same h2).1
      obtain ⟨t, ht⟩ := executePart_ok hk2 now
      refine ⟨t, ?_, (hk2.same (executePart_same ht).1).tidy⟩
      exact Option.bind_eq_some_iff.2 ⟨s1, h1, Option.bind_eq_some_iff.2 ⟨s2, h2, ht⟩⟩

theorem executeStrategyGroup_kept (hk : s.Kept) {due : Bool} {now : List UInt8}
    (hfits : due = true → s.refresh = 1 → s.ReadFits P) (ht : s.relayExecuteStrategyGroup P due now = some t) :
    t.Kept ∧ t.temporary = s.temporary ∧ (t.Unread ↔ s.Unread ∧ ¬ (due = true ∧ s.refresh = 1)) := by
  cases due with
  | false =>
    cases ht
    exact ⟨hk.same ⟨rfl, rfl, fun i => ⟨rfl, rfl, rfl⟩, rfl, rfl, rfl, rfl⟩, rfl,
      fun hu => ⟨hu, fun h => absurd h.1 Bool.false_ne_true⟩, fun h => h.1⟩
  | true =>
    rw [relayExecuteStrategyGroup, if_pos rfl] at ht
    obtain ⟨s1, h1, ht⟩ := Option.bind_eq_some_iff.1 ht
    obtain ⟨s2, h2, ht⟩ := Option.bind_eq_some_iff.1 ht
    obtain ⟨hk1, htemp1, -, -, hunread⟩ := refreshPart_kept hk (hfits rfl) h1
    obtain ⟨hsame2, htemp2⟩ := sunPart_same h2
    obtain ⟨hsame, htemp⟩ := executePart_same ht
    refine ⟨(hk1.same hsame2).same hsame, htemp.trans (htemp2.trans htemp1), ?_⟩
    rw [hsame.unread, hsame2.unread, hunread]
    simp

/-- **One step** is safe and keeps the nodes in the lists exactly when it meets the condition. -/
theorem step_iff (hk : s.Kept) (e : Event) : (∃ t, s.step P e = some t ∧ t.Tidy) ↔ s.StepFits P e := by
  cases e with
  | switch request => exact ⟨fun _ => trivial, fun _ => ⟨_, rfl, (setStrategyGroupSwitch_kept hk request).tidy⟩⟩
  | store stored =>
    exact ⟨fun _ => trivial, fun _ => ⟨_, rfl,
      (hk.same ⟨rfl, rfl, fun i => ⟨rfl, rfl, rfl⟩, rfl, rfl, rfl, rfl⟩).tidy⟩⟩
  | environment env =>
    exact ⟨fun _ => trivial, fun _ => ⟨_, rfl,
      (hk.same ⟨rfl, rfl, fun i => ⟨rfl, rfl, rfl⟩, rfl, rfl, rfl, rfl⟩).tidy⟩⟩
  | iteration due now =>
    constructor
    · intro hex
      obtain ⟨t, ht, htidy⟩ := hex
      obtain ⟨s1, h1, ht⟩ := Option.bind_eq_some_iff.1 ht
      have hfits := (executeStrategyGroup_iff hk due now).1 ⟨s1, h1, (temporary_same ht).tidy htidy⟩
      obtain ⟨hk1, htemp, hunread⟩ := executeStrategyGroup_kept hk (fun hdue => (hfits hdue).1) h1
      refine ⟨hfits, fun htype hgroup hu => ?_⟩
      by_contra hnot
      exact (temporary_iff hk1 now).1 ⟨t, ht⟩ (htemp ▸ htype) (htemp ▸ hgroup) (hunread.2 ⟨hu, hnot⟩)
    · intro h
      obtain ⟨hfits, htemporary⟩ := h
      obtain ⟨s1, h1, -⟩ := (executeStrategyGroup_iff hk due now).2 hfits
      obtain ⟨hk1, htemp, hunread⟩ := executeStrategyGroup_kept hk (fun hdue => (hfits hdue).1) h1
      obtain ⟨t, ht⟩ := (temporary_iff hk1 now).2 fun htype hgroup hu => by
        obtain ⟨hu, hnot⟩ := hunread.1 hu
        exact hnot (htemporary (htemp ▸ htype) (htemp ▸ hgroup) hu)
      exact ⟨t, Option.bind_eq_some_iff.2 ⟨s1, h1, ht⟩, (hk1.same (temporary_same ht)).tidy⟩

theorem step_kept (hk : s.Kept) {e : Event} (hfits : s.StepFits P e) (ht : s.step P e = some t) : t.Kept := by
  cases e with
  | switch request =>
    cases ht
    exact setStrategyGroupSwitch_kept hk request
  | store stored =>
    cases ht
    exact hk.same ⟨rfl, rfl, fun i => ⟨rfl, rfl, rfl⟩, rfl, rfl, rfl, rfl⟩
  | environment env =>
    cases ht
    exact hk.same ⟨rfl, rfl, fun i => ⟨rfl, rfl, rfl⟩, rfl, rfl, rfl, rfl⟩
  | iteration due now =>
    obtain ⟨s1, h1, ht⟩ := Option.bind_eq_some_iff.1 ht
    exact (executeStrategyGroup_kept hk (fun hdue => (hfits.1 hdue).1) h1).1.same (temporary_same ht)

end Invariant

/-! ## The claim over runs -/

theorem boot_kept (stored : StoredRecords) (switch : StrategyGroupSwitch) (env : Env) (modules : RelayModules) :
    (boot stored switch env modules).Kept :=
  Or.inl ⟨⟨rfl, rfl⟩, rfl, rfl, rfl, rfl⟩

/-- **Life of the lists.** From the start of the task, with any stored records, for any requests, any changes of the
records, of the sun times and of the light, and any iterations: every step uses allocated nodes only, and the allocated
nodes are those that the heads reach, exactly when each iteration meets the condition. -/
theorem lifecycle_iff (P : Platform) (stored : StoredRecords) (switch : StrategyGroupSwitch) (env : Env)
    (modules : RelayModules) (events : List Event) :
    Tally.Throughout (step P) Tidy (boot stored switch env modules) events ↔
      Tally.Along (step P) (StepFits P) (boot stored switch env modules) events := by
  have hboot := boot_kept stored switch env modules
  refine @Tally.throughout_iff_along _ _ _ Kept Tidy (StepFits P) (fun _ => True) ?_ ?_ events
    (fun _ _ => trivial) _ hboot hboot.tidy
  · intro s e t _ hk _ ht htidy
    exact step_kept hk ((step_iff hk e).1 ⟨t, ht, htidy⟩) ht
  · exact fun s e _ hk _ => step_iff hk e

/-- a day without sun times and without light -/
def dark : Env :=
  ⟨⟨9, 1, 18, 0, 0⟩, ⟨0, 0, 0, 0⟩, 0, ⟨0, 0, 0, 0, 0, 0⟩, fun _ _ => ⟨0, 0, 0, 0⟩⟩

def noModules : RelayModules := ⟨0, Nat.zero_le _, fun _ => ⟨0, 0⟩, fun _ => clearedState 0 0 ⟨0, 0⟩⟩

def toNoGroup : StrategyGroupSwitch := ⟨0, fun _ => 0, 1⟩

def platform : Platform := ⟨ascending, ascending, fun _ => 0⟩

theorem no_strategies : ([] : List (Option Strategy)).length ≤ 300 := Nat.zero_le _

theorem no_appointments : ([] : List (Option Appointment)).length ≤ 10 := Nat.zero_le _

/-- with the given strategies stored, and no appointments -/
def bootWith (strategies : List (Option Strategy)) (h : strategies.length ≤ 300) : RelayLists :=
  boot ⟨strategies, h, [], no_appointments⟩ toNoGroup dark noModules

/-- an iteration, a switch to no group, and another iteration -/
def switchToNone : List Event := [.iteration true [], .switch ⟨toNoGroup, []⟩, .iteration true []]

/-- where nothing follows a head, nothing else is reached from it -/
theorem reaches_last {h : Heap Strategy} {p : Option ℕ} {a : ℕ} (hlast : ∀ b, p = some b → (h.cell b).next = none)
    (hr : Reaches h p a) : p = some a := by
  cases hr with
  | here => rfl
  | next b _ hr =>
    rw [hlast b rfl] at hr
    exact absurd hr (not_reaches_none h a)

/-- **A second refresh.** With one strategy stored it reads the node that it has freed; with nothing stored it leaves
the old heads allocated, although nothing reaches them. -/
theorem refreshed_twice :
    switchToNone.foldlM (step platform) (bootWith [some atSix] (by decide)) = none ∧
      ∃ t, switchToNone.foldlM (step platform) (bootWith [] (by decide)) = some t ∧ ¬ t.Tidy := by
  constructor
  · have hrun : (switchToNone.foldlM (step platform) (bootWith [some atSix] (by decide))).isNone = true := by
      decide +kernel
    exact Option.isNone_iff_eq_none.1 hrun
  · have hrun : (switchToNone.foldlM (step platform) (bootWith [] (by decide))).map
        (fun t => (decide (1 ∈ t.strategies.live), t.heads,
          t.heads.map fun p => p.bind fun a => (t.strategies.cell a).next)) =
        some (true, (List.range 10).map fun i => some (i + 11), List.replicate 10 none) := by decide +kernel
    obtain ⟨t, ht, hval⟩ := Option.map_eq_some_iff.1 hrun
    refine ⟨t, ht, fun htidy => ?_⟩
    obtain ⟨hlive, hval⟩ := Prod.mk.inj hval
    obtain ⟨hheads, hnext⟩ := Prod.mk.inj hval
    obtain ⟨p, hp, hr⟩ := (htidy.1 1).1 (of_decide_eq_true hlive)
    have hlast : ∀ b, p = some b → (t.strategies.cell b).next = none := by
      intro b hb
      have hmem := List.mem_map_of_mem (f := fun p => p.bind fun a => (t.strategies.cell a).next) hp
      rw [hnext, hb] at hmem
      exact List.eq_of_mem_replicate hmem
    rw [reaches_last hlast hr, hheads] at hp
    exact absurd hp (by decide)

end RelayLists

end DataConcentrator.Relay
