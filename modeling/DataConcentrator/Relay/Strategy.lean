/-
Strategies, their action times, and the lists of the ten strategy groups: `RefreshRelayStrategyActionTime`,
`RelayStrategyAdd`, `RefreshRelayStrategyGroupActionTime` and the heads `ReadRelayStrategyGroups` allocates.

- `refreshRelayStrategyActionTime`: the minute a strategy is due, from its type and option and what the sun, the light
  meters and the clock say;
- `groupHead_built`: the search for the head of a group;
- `relayStrategyAdd_spec`, `refreshGroup_spec`: what adding and refreshing do to the list of a group.
-/
import DataConcentrator.Common.Calendar
import DataConcentrator.Common.Text
import DataConcentrator.Lib.Dll
import DataConcentrator.Relay.GroupSelect

namespace DataConcentrator.Relay

open Dll (Heap Fault Allocator Chain)

/-! ## Strategies -/

def MAX_RELAY_MODULE_CONF_NUM : ℕ := 5

/-- `RelayTaskAction_S` -/
structure RelayTaskAction where
  module_address : UInt8
  module_channel : UInt8
  loop_channel : UInt16
  loop_action : UInt16
deriving DecidableEq, Repr

/-- `RelayStrategy_S` without its links; its actions are those of the first `action_num` entries of the array -/
structure Strategy where
  group_id : UInt8
  type : UInt8
  action_time : ℕ
  offset_min : ℤ
  time_option : UInt8
  action : List RelayTaskAction
  fits : action.length ≤ MAX_RELAY_MODULE_CONF_NUM
deriving DecidableEq

/-- `memset(strategy, 0, ..)` -/
def Strategy.zero : Strategy := ⟨0, 0, 0, 0, 0, [], Nat.zero_le _⟩

/-- `SunRiseSetTime_S` -/
structure SunRiseSetTime where
  rise_h : UInt8
  rise_m : UInt8
  set_h : UInt8
  set_m : UInt8
deriving DecidableEq, Repr

/-- `LumeterBasicConfig_S`, as far as strategies read it -/
structure LumeterBasicConfig where
  light_on_thre : ℕ
  light_on_advance_time : UInt16
  light_on_delay_time : UInt16
  light_off_thre : ℕ
  light_off_advance_time : UInt16
  light_off_delay_time : UInt16
deriving DecidableEq, Repr

/-- `SwitchTime_S` -/
structure SwitchTime where
  on_hour : UInt8
  on_minute : UInt8
  off_hour : UInt8
  off_minute : UInt8
deriving DecidableEq, Repr

/-- what the action times depend on; `switchTime` is the memory of the table of the year by `w_month` and `w_date` -/
structure Env where
  calendar : Calendar
  sun : SunRiseSetTime
  illuminance_value : ℕ
  lumeter : LumeterBasicConfig
  switchTime : UInt8 → UInt8 → SwitchTime

/-! ## Action times -/

section ActionTime

variable (env : Env)

/-- the start of the lights-on time, by the light -/
def sunsetLight (t : ℕ) : ℕ :=
  if env.illuminance_value ≤ env.lumeter.light_on_thre then
    toUnsigned 16 (t - env.lumeter.light_on_advance_time.toNat)
  else if env.calendar.minuteOfDay ≥ t + env.lumeter.light_on_delay_time.toNat then
    toUnsigned 16 (t + env.lumeter.light_on_delay_time.toNat)
  else t

/-- the start of the lights-off time, by the light -/
def sunriseLight (t : ℕ) : ℕ :=
  if env.illuminance_value ≥ env.lumeter.light_off_thre then
    toUnsigned 16 (t - env.lumeter.light_off_advance_time.toNat)
  else if env.calendar.minuteOfDay ≥ t + env.lumeter.light_off_delay_time.toNat then
    toUnsigned 16 (t + env.lumeter.light_off_delay_time.toNat)
  else t

/-- `hour * 60 + minute + offset_min`, stored in a `u16` -/
def minuteAt (hour minute : UInt8) (offset_min : ℤ) : ℕ :=
  toUnsigned 16 (hour.toNat * 60 + minute.toNat + offset_min)

/-- the entry of the table of the year for today -/
def Env.today : SwitchTime := env.switchTime env.calendar.w_month env.calendar.w_date

def refreshRelayStrategyActionTime (strategy : Strategy) : Strategy :=
  let offset_min := strategy.offset_min
  let sunset := minuteAt env.sun.set_h env.sun.set_m offset_min
  let sunrise := minuteAt env.sun.rise_h env.sun.rise_m offset_min
  let off := minuteAt env.today.off_hour env.today.off_minute offset_min
  let on := minuteAt env.today.on_hour env.today.on_minute offset_min
  if strategy.type = 1 then { strategy with action_time := toUnsigned 16 offset_min }
  else if strategy.type = 2 then
    let t := toUnsigned 16 offset_min
    { strategy with
      action_time :=
        if strategy.time_option = 1 then sunsetLight env t
        else if strategy.time_option = 2 then sunriseLight env t
        else t }
  else if strategy.time_option = 1 then
    if strategy.type = 3 then { strategy with action_time := sunset }
    else if strategy.type = 4 then { strategy with action_time := sunsetLight env sunset }
    else if strategy.type = 5 then { strategy with action_time := off }
    else if strategy.type = 6 then { strategy with action_time := sunsetLight env off }
    else strategy
  else if strategy.time_option = 2 then
    if strategy.type = 3 then { strategy with action_time := sunrise }
    else if strategy.type = 4 then { strategy with action_time := sunriseLight env sunrise }
    else if strategy.type = 5 then { strategy with action_time := on }
    else if strategy.type = 6 then { strategy with action_time := sunriseLight env on }
    else strategy
  else strategy

/-- a strategy as it is stored, without the time it is due -/
def Strategy.stored (strategy : Strategy) : Strategy := { strategy with action_time := 0 }

/-- refreshing changes the action time only -/
theorem refresh_stored (strategy : Strategy) :
    (refreshRelayStrategyActionTime env strategy).stored = strategy.stored := by
  unfold refreshRelayStrategyActionTime
  dsimp only
  split_ifs <;> rfl

end ActionTime

/-! ## The groups -/

/-- the search for a head by its group id -/
def findHead (h : Heap Strategy) (group_id : UInt8) : List (Option ℕ) → Except Fault (Option ℕ)
  | [] => .ok none
  | p :: heads => do
    let a ← Dll.deref p
    let n ← h.get a
    if group_id = n.val.group_id then .ok (some a) else findHead h group_id heads

/-- the part that adding, refreshing, deleting and `GetRelayStrategyGroupByGroupID` share; `heads` is the array
`RelayStrategyGroup` -/
def groupHead (h : Heap Strategy) (heads : List (Option ℕ)) (group_id : UInt8) : Except Fault (Option ℕ) :=
  if 1 ≤ group_id.toNat ∧ group_id.toNat ≤ MAX_RELAY_MODULE_STRATEGY_GROUP_NUM then findHead h group_id heads
  else .ok none

/-- `strategy` goes after `temp_strategy` -/
def goesBetween (temp_strategy strategy next : Strategy) : Bool :=
  temp_strategy.action_time ≤ strategy.action_time ∧ strategy.action_time < next.action_time

def relayStrategyAdd (h : Heap Strategy) (heads : List (Option ℕ)) (strategy : ℕ) : Except Fault (Heap Strategy) := do
  let n ← h.get strategy
  let head_strategy ← groupHead h heads n.val.group_id
  match head_strategy with
  | some a => Dll.addLoop goesBetween strategy (h.live.card + 1) h a
  | none => .ok h

def refreshRelayStrategyGroupActionTime (env : Env) (h : Heap Strategy) (heads : List (Option ℕ)) (group_id : UInt8) :
    Except Fault (Heap Strategy) := do
  let head_strategy ← groupHead h heads group_id
  match head_strategy with
  | some a => do
    let n ← h.get a
    Dll.mapLoop (refreshRelayStrategyActionTime env) (h.live.card + 1) h n.next
  | none => .ok h

/-- the first loop of `ReadRelayStrategyGroups`: one head for each group -/
def buildHeads (A : Allocator) (h : Heap Strategy) : ℕ → List (Option ℕ) × Heap Strategy
  | 0 => ([], h)
  | n + 1 =>
    let (heads, h) := buildHeads A h n
    let (a, h) := h.malloc A { Strategy.zero with group_id := UInt8.ofNat (n + 1) }
    (heads ++ [some a], h)

/-- the ten heads, at the addresses `at`, are allocated and bear their ids -/
structure Built (h : Heap Strategy) (heads : List (Option ℕ)) (address : ℕ → ℕ) : Prop where
  heads : heads = (List.range MAX_RELAY_MODULE_STRATEGY_GROUP_NUM).map fun i => some (address i)
  live : ∀ i < MAX_RELAY_MODULE_STRATEGY_GROUP_NUM, address i ∈ h.live
  ids : ∀ i < MAX_RELAY_MODULE_STRATEGY_GROUP_NUM, (h.cell (address i)).val.group_id.toNat = i + 1

/-- `groupHead` is for the ids from 1 to 10 -/
def IsGroup (g : UInt8) : Prop := 1 ≤ g.toNat ∧ g.toNat ≤ MAX_RELAY_MODULE_STRATEGY_GROUP_NUM

theorem findHead_range (h : Heap Strategy) (address : ℕ → ℕ) {g : UInt8} (n : ℕ) : ∀ k,
    (∀ i, k ≤ i → i < k + n → address i ∈ h.live ∧ (h.cell (address i)).val.group_id.toNat = i + 1) →
      k < g.toNat → g.toNat ≤ k + n →
        findHead h g ((List.range' k n).map fun i => some (address i)) = .ok (some (address (g.toNat - 1))) := by
  induction n with
  | zero => intro k _ h1 h2; omega
  | succ n ih =>
    intro k hk h1 h2
    obtain ⟨hlive, hid⟩ := hk k le_rfl (by omega)
    rw [List.range'_succ, List.map_cons, findHead]
    change (h.get (address k) >>= _) = _
    rw [Dll.get_live hlive]
    change (if g = (h.cell (address k)).val.group_id then _ else _) = _
    by_cases hg : g.toNat = k + 1
    · have heq : g = (h.cell (address k)).val.group_id := UInt8.toNat_inj.1 (hg.trans hid.symm)
      rw [if_pos heq, hg, Nat.add_sub_cancel]
    · have hne : ¬ g = (h.cell (address k)).val.group_id := fun heq => hg (heq ▸ hid)
      rw [if_neg hne]
      exact ih (k + 1) (fun i h1 h2 => hk i (by omega) (by omega)) (by omega) (by omega)

/-- **The head of a group.** -/
theorem groupHead_built {h : Heap Strategy} {heads : List (Option ℕ)} {address : ℕ → ℕ} (hb : Built h heads address)
    {g : UInt8} (hg : IsGroup g) : groupHead h heads g = .ok (some (address (g.toNat - 1))) := by
  have hrange : 1 ≤ g.toNat ∧ g.toNat ≤ MAX_RELAY_MODULE_STRATEGY_GROUP_NUM := hg
  rw [groupHead, if_pos hrange, hb.heads, List.range_eq_range']
  refine findHead_range h address _ 0 (fun i _ hi => ⟨hb.live i (by simpa using hi), hb.ids i (by simpa using hi)⟩) hg.1 ?_
  simpa using hg.2

/-- the heads stay where allocations and ids do -/
theorem Built.congr {h h' : Heap Strategy} {heads : List (Option ℕ)} {address : ℕ → ℕ} (hb : Built h heads address)
    (hlive : ∀ a ∈ h.live, a ∈ h'.live)
    (hid : ∀ a ∈ h.live, (h'.cell a).val.group_id = (h.cell a).val.group_id) : Built h' heads address :=
  ⟨hb.heads, fun i hi => hlive _ (hb.live i hi), fun i hi => by rw [hid _ (hb.live i hi), hb.ids i hi]⟩

/-- what `buildHeads` leaves: `n` heads without successors, beside what was allocated before -/
theorem buildHeads_spec (A : Allocator) (h : Heap Strategy) (n : ℕ) (hn : n < 256) :
    ∃ address : ℕ → ℕ, (buildHeads A h n).1 = (List.range n).map (fun i => some (address i)) ∧
      (∀ i < n, address i ∉ h.live ∧
        (buildHeads A h n).2.cell (address i) = ⟨{ Strategy.zero with group_id := UInt8.ofNat (i + 1) }, none, none⟩) ∧
      (∀ a, a ∈ (buildHeads A h n).2.live ↔ a ∈ h.live ∨ ∃ i < n, a = address i) ∧
      (∀ i < n, ∀ j < n, address i = address j → i = j) ∧
      ∀ a ∈ h.live, (buildHeads A h n).2.cell a = h.cell a := by
  induction n with
  | zero => exact ⟨fun _ => 0, rfl, fun i hi => absurd hi (Nat.not_lt_zero i), fun a => by simp [buildHeads],
      fun i hi => absurd hi (Nat.not_lt_zero i), fun a _ => rfl⟩
  | succ n ih =>
    obtain ⟨address, hheads, hcell, hlive, hinj, hframe⟩ := ih (by omega)
    set new := A.pick (buildHeads A h n).2.live with hnew
    have hfresh : new ∉ (buildHeads A h n).2.live := A.fresh _
    have hne : ∀ i < n, address i ≠ new := fun i hi heq => hfresh ((hlive new).2 (Or.inr ⟨i, hi, heq.symm⟩))
    have hcellnew : ∀ a, (buildHeads A h (n + 1)).2.cell a = if a = new then
        ⟨{ Strategy.zero with group_id := UInt8.ofNat (n + 1) }, none, none⟩ else (buildHeads A h n).2.cell a :=
      fun a => rfl
    have hlivenew : (buildHeads A h (n + 1)).2.live = insert new (buildHeads A h n).2.live := rfl
    have hheadsnew : (buildHeads A h (n + 1)).1 = (buildHeads A h n).1 ++ [some new] := rfl
    -- the new head comes after the ones before
    obtain ⟨address', hself, hother⟩ : ∃ address' : ℕ → ℕ, address' n = new ∧ ∀ i < n, address' i = address i :=
      ⟨fun i => if i = n then new else address i, if_pos rfl, fun i hi => if_neg (by omega)⟩
    refine ⟨address', ?_, fun i hi => ?_, fun a => ?_, fun i hi j hj hij => ?_, fun a ha => ?_⟩
    · rw [hheadsnew, hheads, List.range_succ, List.map_append, List.map_singleton, hself]
      congr 1
      exact List.map_congr_left fun i hi => by rw [hother i (List.mem_range.1 hi)]
    · rcases Nat.lt_succ_iff_lt_or_eq.1 hi with hi | rfl
      · rw [hother i hi, hcellnew, if_neg (hne i hi)]
        exact hcell i hi
      · rw [hself, hcellnew, if_pos rfl]
        exact ⟨fun hmem => hfresh ((hlive new).2 (Or.inl hmem)), rfl⟩
    · rw [hlivenew, Finset.mem_insert, hlive]
      constructor
      · intro hmem
        rcases hmem with rfl | hmem | ⟨i, hi, rfl⟩
        · exact Or.inr ⟨n, by omega, hself.symm⟩
        · exact Or.inl hmem
        · exact Or.inr ⟨i, by omega, (hother i hi).symm⟩
      · intro hmem
        rcases hmem with hmem | ⟨i, hi, rfl⟩
        · exact Or.inr (Or.inl hmem)
        · rcases Nat.lt_succ_iff_lt_or_eq.1 hi with hi | rfl
          · exact Or.inr (Or.inr ⟨i, hi, hother i hi⟩)
          · exact Or.inl hself
    · rcases Nat.lt_succ_iff_lt_or_eq.1 hi with hi | rfl <;> rcases Nat.lt_succ_iff_lt_or_eq.1 hj with hj | rfl
      · rw [hother i hi, hother j hj] at hij
        exact hinj i hi j hj hij
      · rw [hother i hi, hself] at hij
        exact absurd hij (hne i hi)
      · rw [hother j hj, hself] at hij
        exact absurd hij.symm (hne j hj)
      · rfl
    · have hanew : a ≠ new := fun heq => hfresh (heq ▸ (hlive a).2 (Or.inl ha))
      rw [hcellnew, if_neg hanew, hframe a ha]

/-! ## Adding and refreshing -/

section Lists

variable {h : Heap Strategy} {heads : List (Option ℕ)} {address : ℕ → ℕ} {g : UInt8} {ns : List ℕ}

theorem relayStrategyAdd_spec (hb : Built h heads address) (hg : IsGroup g)
    (hc : Chain h (address (g.toNat - 1) :: ns)) {s : ℕ} (hs : s ∈ h.live) (hsn : s ∉ address (g.toNat - 1) :: ns)
    (hnext : (h.cell s).next = none) (hid : (h.cell s).val.group_id = g) :
    ∃ h', relayStrategyAdd h heads s = .ok h' ∧
      Chain h' (Dll.insertAt goesBetween (fun i => (h.cell i).val) s (address (g.toNat - 1) :: ns)) ∧
      h'.live = h.live ∧ (∀ i, (h'.cell i).val = (h.cell i).val) ∧
      ∀ i, i ∉ s :: address (g.toNat - 1) :: ns → h'.cell i = h.cell i := by
  have hfuel : ns.length < h.live.card + 1 := by
    have := hc.length_le
    rw [List.length_cons] at this
    omega
  obtain ⟨h', hadd, hchain, hlive, hval, -, hframe⟩ := Dll.addLoop_spec goesBetween s ns _ _ h hc hs hsn hnext hfuel
  refine ⟨h', ?_, hchain, hlive, hval, hframe⟩
  rw [relayStrategyAdd, Dll.get_live hs]
  change (groupHead h heads (h.cell s).val.group_id >>= _) = _
  rw [hid, groupHead_built hb hg]
  exact hadd

/-- a strategy of no group is not put in any list -/
theorem relayStrategyAdd_stray {s : ℕ} (hs : s ∈ h.live) (hid : ¬ IsGroup (h.cell s).val.group_id) :
    relayStrategyAdd h heads s = .ok h := by
  have hrange : ¬ (1 ≤ (h.cell s).val.group_id.toNat ∧
      (h.cell s).val.group_id.toNat ≤ MAX_RELAY_MODULE_STRATEGY_GROUP_NUM) := hid
  rw [relayStrategyAdd, Dll.get_live hs]
  change (groupHead h heads (h.cell s).val.group_id >>= _) = _
  rw [groupHead, if_neg hrange]
  rfl

theorem refreshGroup_spec (env : Env) (hb : Built h heads address) (hg : IsGroup g)
    (hc : Chain h (address (g.toNat - 1) :: ns)) :
    ∃ h', refreshRelayStrategyGroupActionTime env h heads g = .ok h' ∧ h'.live = h.live ∧
      (∀ i ∈ ns, h'.cell i =
        ⟨refreshRelayStrategyActionTime env (h.cell i).val, (h.cell i).prev, (h.cell i).next⟩) ∧
      ∀ i, i ∉ ns → h'.cell i = h.cell i := by
  have hfuel : ns.length < h.live.card + 1 := by
    have := hc.length_le
    rw [List.length_cons] at this
    omega
  obtain ⟨h', hmap, hlive, hval, hframe⟩ :=
    Dll.mapLoop_spec (refreshRelayStrategyActionTime env) ns _ h hc.of_cons hfuel
  refine ⟨h', ?_, hlive, hval, hframe⟩
  rw [refreshRelayStrategyGroupActionTime, groupHead_built hb hg]
  change (h.get (address (g.toNat - 1)) >>= _) = _
  rw [Dll.get_live (hc.live _ List.mem_cons_self)]
  change Dll.mapLoop _ _ h (h.cell (address (g.toNat - 1))).next = _
  rw [Dll.linked_next hc.linked]
  exact hmap

end Lists

end DataConcentrator.Relay
