/-
The list of one strategy group over any sequence of `RelayStrategyAdd` and `RefreshRelayStrategyGroupActionTime`.

- `insertAt_sorted`: a strategy added to a list in order keeps the order;
- `strategyList_iff`: after any operations the list is linked both ways and holds the added strategies, and it is in
  order throughout exactly when no refresh brings the action times out of the order of the list;
- `sunset_moves`: a fixed strategy and one at sunset change places.
-/
import DataConcentrator.Lib.Tally
import DataConcentrator.Relay.Strategy

namespace DataConcentrator.Relay

open Dll (Heap Fault Allocator Chain)

/-! ## Operations -/

/-- the operations on a group: a strategy of it is added, with the time it is due then, or the times are refreshed -/
inductive GroupOp where
  | add (env : Env) (strategy : Strategy)
  | refresh (env : Env)

/-- the strategies in memory, the array `RelayStrategyGroup`, and a record of what was added -/
structure GroupState where
  heap : Heap Strategy
  heads : List (Option ℕ)
  added : List Strategy

/-- a new node for a strategy, with its action time -/
def newStrategy (A : Allocator) (env : Env) (h : Heap Strategy) (strategy : Strategy) : ℕ × Heap Strategy :=
  h.malloc A (refreshRelayStrategyActionTime env strategy.stored)

def groupStep (A : Allocator) (g : UInt8) (st : GroupState) : GroupOp → Except Fault GroupState
  | .add env strategy => do
    let (s, h) := newStrategy A env st.heap strategy
    let h ← relayStrategyAdd h st.heads s
    return { st with heap := h, added := strategy :: st.added }
  | .refresh env => do
    let h ← refreshRelayStrategyGroupActionTime env st.heap st.heads g
    return { st with heap := h }

/-- the heads alone -/
def GroupState.start (A : Allocator) : GroupState :=
  let r := buildHeads A ⟨∅, fun _ => ⟨Strategy.zero, none, none⟩⟩ MAX_RELAY_MODULE_STRATEGY_GROUP_NUM
  ⟨r.2, r.1, []⟩

/-- the nodes of the group after its head, as a loop meets them -/
def groupNodes (st : GroupState) (g : UInt8) : Except Fault (List ℕ) := do
  let head_strategy ← groupHead st.heap st.heads g
  let a ← Dll.deref head_strategy
  let n ← st.heap.get a
  Dll.toList (st.heap.live.card + 1) st.heap n.next

/-- the strategies of the group in the order of its list -/
def groupStrategies (st : GroupState) (g : UInt8) : List Strategy :=
  match groupNodes st g with
  | .ok ns => ns.map fun i => (st.heap.cell i).val
  | .error _ => []

/-- nondecreasing action times -/
def InTimeOrder (l : List Strategy) : Prop := l.Pairwise fun s t => s.action_time ≤ t.action_time

/-- the list of the group: linked both ways from its head, with the added strategies, in order -/
structure Kept (g : UInt8) (st : GroupState) : Prop where
  chain : ∃ a ns, groupHead st.heap st.heads g = .ok (some a) ∧ Chain st.heap (a :: ns) ∧
    groupStrategies st g = ns.map fun i => (st.heap.cell i).val
  added : ((groupStrategies st g).map Strategy.stored).Perm (st.added.map Strategy.stored)
  order : InTimeOrder (groupStrategies st g)

/-- a refresh leaves no strategy due before one that stands before it in the list -/
def OpFits (g : UInt8) (st : GroupState) : GroupOp → Prop
  | .add _ _ => True
  | .refresh env => (groupStrategies st g).Pairwise fun s t =>
      (refreshRelayStrategyActionTime env s).action_time ≤ (refreshRelayStrategyActionTime env t).action_time

/-! ## Order -/

/-- a node that is due after the head comes where its time is -/
theorem insertAt_sorted (val : ℕ → Strategy) (s : ℕ) (l : List ℕ) : ∀ a,
    (a :: l).Pairwise (fun i j => (val i).action_time ≤ (val j).action_time) →
      (val a).action_time ≤ (val s).action_time →
        (Dll.insertAt goesBetween val s (a :: l)).Pairwise fun i j => (val i).action_time ≤ (val j).action_time := by
  induction l with
  | nil =>
    intro a _ has
    exact List.pairwise_pair.2 has
  | cons b l ih =>
    intro a hp has
    obtain ⟨ha, hl⟩ := List.pairwise_cons.1 hp
    rw [Dll.insertAt]
    split_ifs with hbt
    · have hlt : (val s).action_time < (val b).action_time := (of_decide_eq_true hbt).2
      have hb := (List.pairwise_cons.1 hl).1
      refine List.pairwise_cons.2 ⟨fun i hi => ?_, List.pairwise_cons.2 ⟨fun i hi => ?_, hl⟩⟩
      · rcases List.mem_cons.1 hi with rfl | hi
        · exact has
        · exact ha i hi
      · rcases List.mem_cons.1 hi with rfl | hi
        · exact hlt.le
        · exact hlt.le.trans (hb i hi)
    · have hbs : (val b).action_time ≤ (val s).action_time := by
        by_contra hlt
        exact hbt (decide_eq_true ⟨has, not_le.1 hlt⟩)
      refine List.pairwise_cons.2 ⟨fun i hi => ?_, ih b hl hbs⟩
      obtain ⟨l', hl', hperm⟩ := Dll.insertAt_cons goesBetween val s b l
      rw [hl'] at hi
      rcases List.mem_cons.1 hi with rfl | hi
      · exact ha i List.mem_cons_self
      · rcases List.mem_cons.1 (hperm.mem_iff.1 hi) with rfl | hi
        · exact has
        · exact ha i (List.mem_cons_of_mem b hi)

/-! ## One operation -/

section Step

variable {A : Allocator} {g : UInt8} {st : GroupState}

/-- what the operations keep: the heads, the list of the group, and what it holds -/
structure Holds (g : UInt8) (st : GroupState) (address : ℕ → ℕ) (ns : List ℕ) : Prop where
  built : Built st.heap st.heads address
  chain : Chain st.heap (address (g.toNat - 1) :: ns)
  head : (st.heap.cell (address (g.toNat - 1))).val.action_time = 0
  added : (ns.map fun i => (st.heap.cell i).val.stored).Perm (st.added.map Strategy.stored)

theorem Holds.strategies {address : ℕ → ℕ} {ns : List ℕ} (hg : IsGroup g) (h : Holds g st address ns) :
    groupStrategies st g = ns.map fun i => (st.heap.cell i).val := by
  have hfuel : ns.length < st.heap.live.card + 1 := by
    have := h.chain.length_le
    rw [List.length_cons] at this
    omega
  have hnodes : groupNodes st g = .ok ns := by
    rw [groupNodes, groupHead_built h.built hg]
    change (st.heap.get (address (g.toNat - 1)) >>= _) = _
    rw [Dll.get_live (h.chain.live _ List.mem_cons_self)]
    change Dll.toList _ st.heap (st.heap.cell (address (g.toNat - 1))).next = _
    rw [Dll.linked_next h.chain.linked]
    exact Dll.toList_eq ns _ _ h.chain.of_cons hfuel
  rw [groupStrategies, hnodes]

theorem Holds.kept {address : ℕ → ℕ} {ns : List ℕ} (hg : IsGroup g) (h : Holds g st address ns) :
    Kept g st ↔ InTimeOrder (groupStrategies st g) := by
  refine ⟨fun hk => hk.order, fun ho => ⟨⟨_, ns, groupHead_built h.built hg, h.chain, h.strategies hg⟩, ?_, ho⟩⟩
  rw [h.strategies hg, List.map_map]
  exact h.added

/-- **Adding** keeps the list, and its order. -/
theorem add_holds {address : ℕ → ℕ} {ns : List ℕ} (hg : IsGroup g) (h : Holds g st address ns) (env : Env)
    {strategy : Strategy} (hid : strategy.group_id = g) :
    ∃ st' ns', groupStep A g st (.add env strategy) = .ok st' ∧ Holds g st' address ns' ∧
      (InTimeOrder (groupStrategies st g) → InTimeOrder (groupStrategies st' g)) := by
  set new := refreshRelayStrategyActionTime env strategy.stored with hnew
  set s := A.pick st.heap.live with hs
  set m : Heap Strategy := (newStrategy A env st.heap strategy).2 with hm
  have hfresh : s ∉ st.heap.live := Dll.malloc_fresh A st.heap new
  have hold : ∀ i ∈ st.heap.live, m.cell i = st.heap.cell i := fun i hi => Dll.malloc_old A new hi
  have hself : m.cell s = ⟨new, none, none⟩ := Dll.malloc_self A st.heap new
  have hlive : m.live = insert s st.heap.live := rfl
  have hstored : new.stored = strategy.stored := refresh_stored env strategy.stored
  have hnewid : new.group_id = g := (congrArg Strategy.group_id hstored).trans hid
  have hlist : ∀ i ∈ address (g.toNat - 1) :: ns, i ∈ st.heap.live := h.chain.live
  have hbm : Built m st.heads address :=
    h.built.congr (fun a ha => hlive ▸ Finset.mem_insert_of_mem ha) fun a ha => by rw [hold a ha]
  have hcm : Chain m (address (g.toNat - 1) :: ns) := h.chain.malloc A new
  have hsn : s ∉ address (g.toNat - 1) :: ns := fun hmem => hfresh (hlist s hmem)
  obtain ⟨m', hadd, hchain, hlive', hval, hframe⟩ := relayStrategyAdd_spec hbm hg hcm
    (hlive ▸ Finset.mem_insert_self s _) hsn (by rw [hself]) (by rw [hself]; exact hnewid)
  obtain ⟨ns', hns', hperm⟩ := Dll.insertAt_cons goesBetween (fun i => (m.cell i).val) s (address (g.toNat - 1)) ns
  rw [hns'] at hchain
  have hvalold : ∀ i ∈ st.heap.live, (m'.cell i).val = (st.heap.cell i).val := fun i hi => by rw [hval, hold i hi]
  have hnsval : ns.map (fun i => (m'.cell i).val.stored) = ns.map fun i => (st.heap.cell i).val.stored :=
    List.map_congr_left fun i hi => by rw [hvalold i (hlist i (List.mem_cons_of_mem _ hi))]
  have hh : Holds g ⟨m', st.heads, strategy :: st.added⟩ address ns' := by
    refine ⟨hbm.congr (fun a ha => hlive' ▸ ha) fun a _ => by rw [hval], hchain, ?_, ?_⟩
    · rw [hvalold _ (hlist _ List.mem_cons_self)]
      exact h.head
    · refine (hperm.map _).trans ?_
      rw [List.map_cons, hval, hself, hstored, hnsval]
      exact h.added.cons _
  refine ⟨_, ns', ?_, hh, fun ho => ?_⟩
  · show (do let h ← relayStrategyAdd m st.heads s; return { st with heap := h, added := strategy :: st.added }) = _
    rw [hadd]
    rfl
  · rw [Holds.strategies hg hh]
    rw [h.strategies hg] at ho
    have hpair : (address (g.toNat - 1) :: ns).Pairwise fun i j =>
        (m.cell i).val.action_time ≤ (m.cell j).val.action_time := by
      refine List.pairwise_cons.2 ⟨fun i _ => ?_, ?_⟩
      · rw [hold _ (hlist _ List.mem_cons_self), h.head]
        exact Nat.zero_le _
      · refine (List.pairwise_map.1 ho).imp_of_mem fun {i j} hi hj hij => ?_
        rw [hold i (hlist i (List.mem_cons_of_mem _ hi)), hold j (hlist j (List.mem_cons_of_mem _ hj))]
        exact hij
    have hhead : (m.cell (address (g.toNat - 1))).val.action_time ≤ (m.cell s).val.action_time := by
      rw [hold _ (hlist _ List.mem_cons_self), h.head]
      exact Nat.zero_le _
    have hsorted := insertAt_sorted (fun i => (m.cell i).val) s ns _ hpair hhead
    rw [hns'] at hsorted
    refine List.pairwise_map.2 ((List.pairwise_cons.1 hsorted).2.imp fun {i j} hij => ?_)
    dsimp only
    rw [hval, hval]
    exact hij

/-- **Refreshing** changes the times where they stand. -/
theorem refresh_holds {address : ℕ → ℕ} {ns : List ℕ} (hg : IsGroup g) (h : Holds g st address ns) (env : Env) :
    ∃ st', groupStep A g st (.refresh env) = .ok st' ∧ Holds g st' address ns ∧
      groupStrategies st' g = (groupStrategies st g).map (refreshRelayStrategyActionTime env) := by
  obtain ⟨m, hrefresh, hlive, hval, hframe⟩ := refreshGroup_spec env h.built hg h.chain
  have hhead : address (g.toNat - 1) ∉ ns := (List.nodup_cons.1 h.chain.nodup).1
  have hstored : ∀ i, (m.cell i).val.stored = (st.heap.cell i).val.stored := by
    intro i
    by_cases hi : i ∈ ns
    · rw [hval i hi]
      exact refresh_stored env _
    · rw [hframe i hi]
  have hlinks : ∀ i, (m.cell i).next = (st.heap.cell i).next ∧ (m.cell i).prev = (st.heap.cell i).prev := by
    intro i
    by_cases hi : i ∈ ns
    · rw [hval i hi]
      exact ⟨rfl, rfl⟩
    · rw [hframe i hi]
      exact ⟨rfl, rfl⟩
  have hh : Holds g { st with heap := m } address ns := by
    refine ⟨h.built.congr (fun a ha => hlive ▸ ha) fun a _ => ?_,
      h.chain.congr (fun i _ hi => hlive ▸ hi) (fun i _ => (hlinks i).1) fun i _ => (hlinks i).2, ?_, ?_⟩
    · have hid := congrArg Strategy.group_id (hstored a)
      exact hid
    · show (m.cell _).val.action_time = 0
      rw [hframe _ hhead]
      exact h.head
    · simp only [hstored]
      exact h.added
  refine ⟨_, ?_, hh, ?_⟩
  · rw [groupStep, hrefresh]
    rfl
  · rw [Holds.strategies hg hh, h.strategies hg, List.map_map]
    exact List.map_congr_left fun i hi => by rw [hval i hi]; rfl

end Step

/-! ## Any operations -/

/-- an operation on group `g` -/
def GroupOp.On (g : UInt8) : GroupOp → Prop
  | .add _ strategy => strategy.group_id = g
  | .refresh _ => True

/-- a step that succeeds -/
def groupStep? (A : Allocator) (g : UInt8) (st : GroupState) (op : GroupOp) : Option GroupState :=
  (groupStep A g st op).toOption

theorem holds_start (A : Allocator) {g : UInt8} (hg : IsGroup g) : ∃ address, Holds g (.start A) address [] := by
  obtain ⟨address, hheads, hcell, hlive, hinj, -⟩ :=
    buildHeads_spec A ⟨∅, fun _ => ⟨Strategy.zero, none, none⟩⟩ MAX_RELAY_MODULE_STRATEGY_GROUP_NUM (by decide)
  have hidx : g.toNat - 1 < MAX_RELAY_MODULE_STRATEGY_GROUP_NUM := by
    have h1 := hg.1
    have h10 := hg.2
    omega
  refine ⟨address, ⟨hheads, fun i hi => (hlive _).2 (Or.inr ⟨i, hi, rfl⟩), fun i hi => ?_⟩, ⟨?_, ?_, ?_⟩, ?_,
    List.Perm.refl _⟩
  · change ((buildHeads A _ _).2.cell (address i)).val.group_id.toNat = i + 1
    rw [(hcell i hi).2]
    have h10 : i < 10 := hi
    exact Nat.mod_eq_of_lt (by omega)
  · change ((buildHeads A _ _).2.cell (address (g.toNat - 1))).next = none
    rw [(hcell _ hidx).2]
  · exact List.nodup_singleton _
  · intro a ha
    rw [List.mem_singleton.1 ha]
    exact (hlive _).2 (Or.inr ⟨_, hidx, rfl⟩)
  · change ((buildHeads A _ _).2.cell (address (g.toNat - 1))).val.action_time = 0
    rw [(hcell _ hidx).2]
    rfl

/-- **The list of a group.** For any operations on a group, in any order and at any times: after each of them the list
is linked both ways and holds exactly the added strategies, and it is in order, exactly when no refresh makes a strategy
due before one that stands before it. -/
theorem strategyList_iff (A : Allocator) {g : UInt8} (hg : IsGroup g) (ops : List GroupOp)
    (hops : ∀ op ∈ ops, op.On g) :
    Tally.Throughout (groupStep? A g) (Kept g) (.start A) ops ↔ Tally.Along (groupStep? A g) (OpFits g) (.start A) ops := by
  obtain ⟨address, hstart⟩ := holds_start A hg
  have hkept : Kept g (.start A) := (hstart.kept hg).2 (by rw [hstart.strategies hg]; exact List.Pairwise.nil)
  let Inv : GroupState → Prop := fun st => ∃ ns, Holds g st address ns
  refine @Tally.throughout_iff_along _ _ _ Inv _ _ (GroupOp.On g) ?_ ?_ ops hops _ ⟨[], hstart⟩ hkept
  · intro st op st' hop hinv _ hstep _
    obtain ⟨ns, h⟩ := hinv
    cases op with
    | add env strategy =>
      obtain ⟨t, ns', ht, hh, -⟩ := add_holds (A := A) hg h env hop
      rw [groupStep?, ht] at hstep
      cases hstep
      exact ⟨ns', hh⟩
    | refresh env =>
      obtain ⟨t, ht, hh, -⟩ := refresh_holds (A := A) hg h env
      rw [groupStep?, ht] at hstep
      cases hstep
      exact ⟨ns, hh⟩
  · intro st op hop hinv hk
    obtain ⟨ns, h⟩ := hinv
    cases op with
    | add env strategy =>
      obtain ⟨t, ns', ht, hh, horder⟩ := add_holds (A := A) hg h env hop
      exact ⟨fun _ => trivial, fun _ => ⟨t, by rw [groupStep?, ht]; rfl, (hh.kept hg).2 (horder hk.order)⟩⟩
    | refresh env =>
      obtain ⟨t, ht, hh, hmap⟩ := refresh_holds (A := A) hg h env
      have hiff : Kept g t ↔ OpFits g st (.refresh env) := by
        rw [hh.kept hg, hmap, InTimeOrder, List.pairwise_map]
        rfl
      rw [← hiff]
      constructor
      · intro hex
        obtain ⟨t', ht', hk'⟩ := hex
        rw [groupStep?, ht] at ht'
        cases ht'
        exact hk'
      · exact fun hk' => ⟨t, by rw [groupStep?, ht]; rfl, hk'⟩

/-! ## A strategy at sunset -/

/-- nodes at the lowest addresses above those in use -/
def ascending : Allocator where
  pick s := s.sup id + 1
  fresh _ h := absurd (Finset.le_sup (f := id) h) (Nat.not_succ_le_self _)

/-- six in the evening of a day whose sun sets at the given time -/
def evening (set_h set_m : UInt8) : Env :=
  ⟨⟨9, 1, 18, 0, 0⟩, ⟨6, 0, set_h, set_m⟩, 0, ⟨0, 0, 0, 0, 0, 0⟩, fun _ _ => ⟨0, 0, 0, 0⟩⟩

/-- at 18:00, whatever the sun does -/
def atSix : Strategy := ⟨1, 1, 0, 1080, 1, [], Nat.zero_le _⟩

def atSunset : Strategy := ⟨1, 3, 0, 0, 1, [], Nat.zero_le _⟩

/-- the two strategies, and then a refresh -/
def twoStrategies (set_h : UInt8) : List GroupOp :=
  [.add (evening 18 30) atSix, .add (evening 18 30) atSunset, .refresh (evening set_h 30)]

theorem twoStrategies_on (set_h : UInt8) : ∀ op ∈ twoStrategies set_h, op.On 1 := by
  intro op hop
  rcases List.mem_cons.1 hop with rfl | hop
  · rfl
  · rcases List.mem_cons.1 hop with rfl | hop
    · rfl
    · rw [List.mem_singleton.1 hop]
      trivial

theorem strategyList_two :
    Tally.Throughout (groupStep? ascending 1) (Kept 1) (.start ascending) ((twoStrategies 18).take 2) := by
  refine (strategyList_iff ascending ⟨by decide, by decide⟩ _ fun op hop => ?_).2
    ⟨trivial, fun _ _ => ⟨trivial, fun _ _ => trivial⟩⟩
  exact twoStrategies_on 18 op (List.mem_of_mem_take hop)

/-- **A sunset that moves.** With the sun setting at 18:30 the strategy at sunset comes after the one at 18:00; a refresh
when it sets at 17:30 leaves it there. -/
theorem sunset_moves :
    ((twoStrategies 17).foldlM (groupStep? ascending 1) (.start ascending)).map
        (fun st => (groupStrategies st 1).map Strategy.action_time) = some [1080, 1050] ∧
      ¬ Tally.Throughout (groupStep? ascending 1) (Kept 1) (.start ascending) (twoStrategies 17) := by
  have hrun : ((twoStrategies 17).foldlM (groupStep? ascending 1) (.start ascending)).map
      (fun st => (groupStrategies st 1).map Strategy.action_time) = some [1080, 1050] := by decide +kernel
  refine ⟨hrun, fun h => ?_⟩
  obtain ⟨st, hst, hk⟩ := Tally.throughout_last _ _ _ h
  rw [hst, Option.map_some, Option.some.injEq] at hrun
  have horder : ((groupStrategies st 1).map Strategy.action_time).Pairwise (· ≤ ·) := List.pairwise_map.2 hk.order
  rw [hrun] at horder
  exact absurd horder (by decide)

end DataConcentrator.Relay
