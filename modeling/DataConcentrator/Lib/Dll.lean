/-
Doubly linked lists with a head node, in an explicit heap: reading, writing or freeing a node that is not allocated is a
fault, and so is a loop that does not end.

- `addLoop_spec`: a node put between two neighbours, or at the end, keeps the list linked;
- `mapLoop_spec`: a loop over the nodes that changes their values;
- `toList_eq`, `reaches_iff`: the nodes a loop meets are those of the list;
- `deleteLoop_spec`: the loop that frees a node before it reads the node's successor.
-/
import Mathlib.Data.Finset.Card
import Mathlib.Tactic

namespace Dll

/-! ## The heap -/

inductive Fault where
  | null
  | freed
  | endless
deriving DecidableEq, Repr

structure Cell (α : Type) where
  val : α
  prev : Option ℕ
  next : Option ℕ

/-- the allocated nodes, and what memory holds at each address -/
structure Heap (α : Type) where
  live : Finset ℕ
  cell : ℕ → Cell α

/-- where a new node is allocated -/
structure Allocator where
  pick : Finset ℕ → ℕ
  fresh : ∀ s, pick s ∉ s

variable {α : Type}

def deref (p : Option ℕ) : Except Fault ℕ :=
  match p with
  | none => .error .null
  | some a => .ok a

def Heap.get (h : Heap α) (a : ℕ) : Except Fault (Cell α) := if a ∈ h.live then .ok (h.cell a) else .error .freed

/-- the heap with a node changed -/
def Heap.set (h : Heap α) (a : ℕ) (f : Cell α → Cell α) : Heap α :=
  { h with cell := fun i => if i = a then f (h.cell i) else h.cell i }

def Heap.put (h : Heap α) (a : ℕ) (f : Cell α → Cell α) : Except Fault (Heap α) :=
  if a ∈ h.live then .ok (h.set a f) else .error .freed

def Heap.free (h : Heap α) (a : ℕ) : Except Fault (Heap α) :=
  if a ∈ h.live then .ok { h with live := h.live.erase a } else .error .freed

/-- a new node without neighbours -/
def Heap.malloc (A : Allocator) (h : Heap α) (v : α) : ℕ × Heap α :=
  let a := A.pick h.live
  (a, { live := insert a h.live, cell := fun i => if i = a then ⟨v, none, none⟩ else h.cell i })

theorem get_live {h : Heap α} {a : ℕ} (ha : a ∈ h.live) : h.get a = .ok (h.cell a) := if_pos ha

theorem put_live {h : Heap α} {a : ℕ} (ha : a ∈ h.live) (f : Cell α → Cell α) : h.put a f = .ok (h.set a f) := if_pos ha

@[simp] theorem cell_set_self (h : Heap α) (a : ℕ) (f : Cell α → Cell α) : (h.set a f).cell a = f (h.cell a) := if_pos rfl

theorem cell_set_of_ne {h : Heap α} {a i : ℕ} (f : Cell α → Cell α) (hi : i ≠ a) : (h.set a f).cell i = h.cell i :=
  if_neg hi

/-! ## Lists -/

/-- each node points to its neighbours; the last one has no successor -/
def Linked (h : Heap α) : List ℕ → Prop
  | [] => True
  | [a] => (h.cell a).next = none
  | a :: b :: l => (h.cell a).next = some b ∧ (h.cell b).prev = some a ∧ Linked h (b :: l)

/-- a list of allocated nodes, its head first -/
structure Chain (h : Heap α) (ns : List ℕ) : Prop where
  linked : Linked h ns
  nodup : ns.Nodup
  live : ∀ a ∈ ns, a ∈ h.live

theorem Chain.tail {h : Heap α} {a b : ℕ} {l : List ℕ} (hc : Chain h (a :: b :: l)) : Chain h (b :: l) :=
  ⟨hc.linked.2.2, hc.nodup.of_cons, fun i hi => hc.live i (List.mem_cons_of_mem a hi)⟩

/-- one more node in front -/
theorem Chain.cons {h : Heap α} {a b : ℕ} {l : List ℕ} (hc : Chain h (b :: l)) (hnext : (h.cell a).next = some b)
    (hprev : (h.cell b).prev = some a) (ha : a ∉ b :: l) (hlive : a ∈ h.live) : Chain h (a :: b :: l) := by
  refine ⟨⟨hnext, hprev, hc.linked⟩, List.nodup_cons.2 ⟨ha, hc.nodup⟩, ?_⟩
  intro i hi
  rcases List.mem_cons.1 hi with rfl | hi
  · exact hlive
  · exact hc.live i hi

theorem Chain.length_le {h : Heap α} {ns : List ℕ} (hc : Chain h ns) : ns.length ≤ h.live.card := by
  rw [← List.toFinset_card_of_nodup hc.nodup]
  exact Finset.card_le_card fun a ha => hc.live a (List.mem_toFinset.1 ha)

theorem linked_next {h : Heap α} {a : ℕ} {l : List ℕ} (hl : Linked h (a :: l)) : (h.cell a).next = l.head? := by
  cases l with
  | nil => exact hl
  | cons b l => exact hl.1

/-- links that are not touched stay -/
theorem linked_congr {h h' : Heap α} {l : List ℕ} : ∀ a, (∀ i ∈ a :: l, (h'.cell i).next = (h.cell i).next) →
    (∀ i ∈ l, (h'.cell i).prev = (h.cell i).prev) → Linked h (a :: l) → Linked h' (a :: l) := by
  induction l with
  | nil =>
    intro a hn _ hl
    rw [Linked, hn a List.mem_cons_self]
    exact hl
  | cons b l ih =>
    intro a hn hp hl
    obtain ⟨h1, h2, h3⟩ := hl
    refine ⟨(hn a List.mem_cons_self).trans h1, (hp b List.mem_cons_self).trans h2, ih b ?_ ?_ h3⟩
    · exact fun i hi => hn i (List.mem_cons_of_mem a hi)
    · exact fun i hi => hp i (List.mem_cons_of_mem b hi)

theorem Chain.congr {h h' : Heap α} {ns : List ℕ} (hc : Chain h ns) (hlive : ∀ i ∈ ns, i ∈ h.live → i ∈ h'.live)
    (hnext : ∀ i ∈ ns, (h'.cell i).next = (h.cell i).next) (hprev : ∀ i ∈ ns, (h'.cell i).prev = (h.cell i).prev) :
    Chain h' ns := by
  refine ⟨?_, hc.nodup, fun i hi => hlive i hi (hc.live i hi)⟩
  cases ns with
  | nil => trivial
  | cons a l => exact linked_congr a hnext (fun i hi => hprev i (List.mem_cons_of_mem a hi)) hc.linked

/-! ## New nodes -/

section Malloc

variable (A : Allocator) (h : Heap α) (v : α)

theorem malloc_fresh : (h.malloc A v).1 ∉ h.live := A.fresh _

theorem malloc_self : (h.malloc A v).2.cell (h.malloc A v).1 = ⟨v, none, none⟩ := if_pos rfl

theorem mem_malloc (a : ℕ) : a ∈ (h.malloc A v).2.live ↔ a = (h.malloc A v).1 ∨ a ∈ h.live := Finset.mem_insert

variable {h}

theorem malloc_old {a : ℕ} (ha : a ∈ h.live) : (h.malloc A v).2.cell a = h.cell a := by
  have hne : a ≠ (h.malloc A v).1 := fun heq => malloc_fresh A h v (heq ▸ ha)
  exact if_neg hne

theorem Chain.malloc {ns : List ℕ} (hc : Chain h ns) : Chain (h.malloc A v).2 ns := by
  apply hc.congr
  · exact fun i _ hi => (mem_malloc A h v i).2 (Or.inr hi)
  · intro i hi
    rw [malloc_old A v (hc.live i hi)]
  · intro i hi
    rw [malloc_old A v (hc.live i hi)]

end Malloc

/-! ## Adding a node -/

/-- the loop that puts node `s` after the first node `t` of the list that is the last one, or whose value and that of
its successor are such that `s` goes between -/
def addLoop (between : α → α → α → Bool) (s : ℕ) : ℕ → Heap α → ℕ → Except Fault (Heap α)
  | 0, _, _ => .error .endless
  | fuel + 1, h, t => do
    let n ← h.get t
    match n.next with
    | none =>
      let h ← h.put t fun c => { c with next := some s }
      h.put s fun c => { c with prev := some t }
    | some x =>
      let c ← h.get x
      let new ← h.get s
      if between n.val new.val c.val then
        let h ← h.put s fun c => { c with next := some x }
        let h ← h.put t fun c => { c with next := some s }
        let old ← h.get x
        let h ← h.put s fun c => { c with prev := old.prev }
        h.put x fun c => { c with prev := some s }
      else addLoop between s fuel h x

/-- where the loop puts `s` in the list -/
def insertAt (between : α → α → α → Bool) (val : ℕ → α) (s : ℕ) : List ℕ → List ℕ
  | [] => [s]
  | [a] => [a, s]
  | a :: b :: l =>
    if between (val a) (val s) (val b) then a :: s :: b :: l else a :: insertAt between val s (b :: l)

theorem insertAt_cons (between : α → α → α → Bool) (val : ℕ → α) (s a : ℕ) (l : List ℕ) :
    ∃ l', insertAt between val s (a :: l) = a :: l' ∧ l'.Perm (s :: l) := by
  induction l generalizing a with
  | nil => exact ⟨[s], rfl, List.Perm.refl _⟩
  | cons b l ih =>
    rw [insertAt]
    split_ifs with hb
    · exact ⟨_, rfl, List.Perm.refl _⟩
    · obtain ⟨l', hl', hp⟩ := ih b
      refine ⟨b :: l', by rw [hl'], ?_⟩
      exact (hp.cons b).trans (List.Perm.swap s b l)

/-- without a place between two nodes it goes to the end -/
theorem insertAt_false (val : ℕ → α) (s a : ℕ) (l : List ℕ) :
    insertAt (fun _ _ _ => false) val s (a :: l) = a :: (l ++ [s]) := by
  induction l generalizing a with
  | nil => rfl
  | cons b l ih =>
    rw [insertAt, if_neg Bool.false_ne_true, ih]
    rfl

/-- the heap with `s` after `a`, the last node -/
def Heap.linkLast (h : Heap α) (s a : ℕ) : Heap α :=
  (h.set a fun c => { c with next := some s }).set s fun c => { c with prev := some a }

/-- the heap with `s` between `a` and its successor `b` -/
def Heap.linkBetween (h : Heap α) (s a b : ℕ) : Heap α :=
  (((h.set s fun c => { c with next := some b }).set a fun c => { c with next := some s }).set s
    fun c => { c with prev := some a }).set b fun c => { c with prev := some s }

theorem linkLast_self (h : Heap α) {s a : ℕ} (hne : s ≠ a) :
    (h.linkLast s a).cell s = ⟨(h.cell s).val, some a, (h.cell s).next⟩ := by
  rw [Heap.linkLast, cell_set_self, cell_set_of_ne _ hne]

theorem linkLast_last (h : Heap α) {s a : ℕ} (hne : s ≠ a) :
    (h.linkLast s a).cell a = ⟨(h.cell a).val, (h.cell a).prev, some s⟩ := by
  rw [Heap.linkLast, cell_set_of_ne _ hne.symm, cell_set_self]

theorem linkLast_frame (h : Heap α) {s a i : ℕ} (hs : i ≠ s) (ha : i ≠ a) : (h.linkLast s a).cell i = h.cell i := by
  rw [Heap.linkLast, cell_set_of_ne _ hs, cell_set_of_ne _ ha]

theorem linkLast_val (h : Heap α) {s a : ℕ} (hne : s ≠ a) (i : ℕ) : ((h.linkLast s a).cell i).val = (h.cell i).val := by
  by_cases hs : i = s
  · rw [hs, linkLast_self h hne]
  · by_cases ha : i = a
    · rw [ha, linkLast_last h hne]
    · rw [linkLast_frame h hs ha]

theorem chain_linkLast {h : Heap α} {s a : ℕ} (hc : Chain h [a]) (hs : s ∈ h.live) (hne : s ≠ a)
    (hnext : (h.cell s).next = none) : Chain (h.linkLast s a) [a, s] := by
  refine ⟨⟨by rw [linkLast_last h hne], by rw [linkLast_self h hne], ?_⟩, by simpa using hne.symm, ?_⟩
  · show ((h.linkLast s a).cell s).next = none
    rw [linkLast_self h hne]
    exact hnext
  · intro i hi
    rcases List.mem_cons.1 hi with rfl | hi
    · exact hc.live i List.mem_cons_self
    · rw [List.mem_singleton.1 hi]
      exact hs

section Between

variable {h : Heap α} {s a b : ℕ}

theorem linkBetween_self (ha : s ≠ a) (hb : s ≠ b) :
    (h.linkBetween s a b).cell s = ⟨(h.cell s).val, some a, some b⟩ := by
  rw [Heap.linkBetween, cell_set_of_ne _ hb, cell_set_self, cell_set_of_ne _ ha, cell_set_self]

theorem linkBetween_before (ha : s ≠ a) (hab : a ≠ b) :
    (h.linkBetween s a b).cell a = ⟨(h.cell a).val, (h.cell a).prev, some s⟩ := by
  rw [Heap.linkBetween, cell_set_of_ne _ hab, cell_set_of_ne _ ha.symm, cell_set_self, cell_set_of_ne _ ha.symm]

theorem linkBetween_after (hb : s ≠ b) (hab : a ≠ b) :
    (h.linkBetween s a b).cell b = ⟨(h.cell b).val, some s, (h.cell b).next⟩ := by
  rw [Heap.linkBetween, cell_set_self, cell_set_of_ne _ hb.symm, cell_set_of_ne _ hab.symm, cell_set_of_ne _ hb.symm]

theorem linkBetween_frame {i : ℕ} (hs : i ≠ s) (ha : i ≠ a) (hb : i ≠ b) :
    (h.linkBetween s a b).cell i = h.cell i := by
  rw [Heap.linkBetween, cell_set_of_ne _ hb, cell_set_of_ne _ hs, cell_set_of_ne _ ha, cell_set_of_ne _ hs]

theorem linkBetween_val (ha : s ≠ a) (hb : s ≠ b) (hab : a ≠ b) (i : ℕ) :
    ((h.linkBetween s a b).cell i).val = (h.cell i).val := by
  by_cases his : i = s
  · rw [his, linkBetween_self ha hb]
  · by_cases hia : i = a
    · rw [hia, linkBetween_before ha hab]
    · by_cases hib : i = b
      · rw [hib, linkBetween_after hb hab]
      · rw [linkBetween_frame his hia hib]

theorem chain_linkBetween {l : List ℕ} (hc : Chain h (a :: b :: l)) (hs : s ∈ h.live) (hsa : s ∉ a :: b :: l) :
    Chain (h.linkBetween s a b) (a :: s :: b :: l) := by
  have hout := (List.nodup_cons.1 hc.nodup).1
  have hsb : s ∉ b :: l := fun hmem => hsa (List.mem_cons_of_mem a hmem)
  have ha : s ≠ a := fun h => hsa (h ▸ List.mem_cons_self)
  have hb : s ≠ b := fun h => hsb (h ▸ List.mem_cons_self)
  have hab : a ≠ b := fun h => hout (h ▸ List.mem_cons_self)
  have hrest : ∀ i ∈ l, (h.linkBetween s a b).cell i = h.cell i := by
    intro i hi
    apply linkBetween_frame
    · rintro rfl
      exact hsb (List.mem_cons_of_mem b hi)
    · rintro rfl
      exact hout (List.mem_cons_of_mem b hi)
    · rintro rfl
      exact (List.nodup_cons.1 hc.tail.nodup).1 hi
  have htail : Chain (h.linkBetween s a b) (b :: l) := by
    refine ⟨linked_congr b ?_ ?_ hc.tail.linked, hc.tail.nodup, hc.tail.live⟩
    · intro i hi
      rcases List.mem_cons.1 hi with rfl | hi
      · rw [linkBetween_after hb hab]
      · rw [hrest i hi]
    · intro i hi
      rw [hrest i hi]
  have hself := linkBetween_self (h := h) ha hb
  apply Chain.cons
  · apply htail.cons
    · rw [hself]
    · rw [linkBetween_after hb hab]
    · exact hsb
    · exact hs
  · rw [linkBetween_before ha hab]
  · rw [hself]
  · rw [List.mem_cons, not_or]
    exact ⟨ha.symm, hout⟩
  · exact hc.live a List.mem_cons_self

end Between

/-- the last round -/
theorem addLoop_last (between : α → α → α → Bool) {h : Heap α} {s a : ℕ} (fuel : ℕ) (hc : Chain h [a])
    (hs : s ∈ h.live) : addLoop between s (fuel + 1) h a = .ok (h.linkLast s a) := by
  have ha := hc.live a List.mem_cons_self
  rw [addLoop, get_live ha]
  change (match (h.cell a).next with | none => _ | some x => _) = _
  rw [linked_next hc.linked]
  change (h.put a _ >>= fun h => h.put s _) = _
  rw [put_live ha]
  exact put_live (h := h.set a _) hs _

/-- a round before the last one -/
theorem addLoop_round (between : α → α → α → Bool) {h : Heap α} {s a b : ℕ} {l : List ℕ} (fuel : ℕ)
    (hc : Chain h (a :: b :: l)) (hs : s ∈ h.live) (hb : s ≠ b) : addLoop between s (fuel + 1) h a =
      if between (h.cell a).val (h.cell s).val (h.cell b).val then .ok (h.linkBetween s a b)
      else addLoop between s fuel h b := by
  have ha := hc.live a List.mem_cons_self
  have hlive := hc.live b (List.mem_cons_of_mem a List.mem_cons_self)
  have hab : a ≠ b := fun h => (List.nodup_cons.1 hc.nodup).1 (h ▸ List.mem_cons_self)
  rw [addLoop, get_live ha]
  change (match (h.cell a).next with | none => _ | some x => _) = _
  rw [linked_next hc.linked]
  change (h.get b >>= _) = _
  rw [get_live hlive]
  change (h.get s >>= _) = _
  rw [get_live hs]
  change (if between (h.cell a).val (h.cell s).val (h.cell b).val = true then _ else _) = _
  split_ifs
  · rw [put_live hs]
    change (Heap.put _ a _ >>= _) = _
    rw [put_live (h := h.set s _) ha]
    change (Heap.get _ b >>= _) = _
    rw [get_live (h := (h.set s _).set a _) hlive]
    change (Heap.put _ s _ >>= _) = _
    rw [put_live (h := (h.set s _).set a _) hs, cell_set_of_ne _ hab.symm, cell_set_of_ne _ hb.symm, hc.linked.2.1]
    exact put_live (h := ((h.set s _).set a _).set s _) hlive _
  · rfl

/-- **Adding a node** keeps the list; values, allocations and the other nodes stay as they are. -/
theorem addLoop_spec (between : α → α → α → Bool) (s : ℕ) (l : List ℕ) : ∀ (a fuel : ℕ) (h : Heap α),
    Chain h (a :: l) → s ∈ h.live → s ∉ a :: l → (h.cell s).next = none → l.length < fuel →
      ∃ h', addLoop between s fuel h a = .ok h' ∧
        Chain h' (insertAt between (fun i => (h.cell i).val) s (a :: l)) ∧ h'.live = h.live ∧
        (∀ i, (h'.cell i).val = (h.cell i).val) ∧ (h'.cell a).prev = (h.cell a).prev ∧
        ∀ i, i ∉ s :: a :: l → h'.cell i = h.cell i := by
  induction l with
  | nil =>
    intro a fuel h hc hs hsa hnext hfuel
    obtain ⟨fuel, rfl⟩ := Nat.exists_eq_add_one.2 (Nat.zero_lt_of_lt hfuel)
    have hne : s ≠ a := fun h => hsa (h ▸ List.mem_cons_self)
    refine ⟨h.linkLast s a, addLoop_last between fuel hc hs, chain_linkLast hc hs hne hnext, rfl, linkLast_val h hne, ?_, ?_⟩
    · rw [linkLast_last h hne]
    · intro i hi
      rw [List.mem_cons, List.mem_singleton, not_or] at hi
      exact linkLast_frame h hi.1 hi.2
  | cons b l ih =>
    intro a fuel h hc hs hsa hnext hfuel
    obtain ⟨fuel, rfl⟩ := Nat.exists_eq_add_one.2 (Nat.zero_lt_of_lt hfuel)
    have ha : s ≠ a := fun h => hsa (h ▸ List.mem_cons_self)
    have hb : s ≠ b := fun h => hsa (h ▸ List.mem_cons_of_mem a List.mem_cons_self)
    have hab : a ≠ b := fun h => (List.nodup_cons.1 hc.nodup).1 (h ▸ List.mem_cons_self)
    rw [addLoop_round between fuel hc hs hb, insertAt]
    split_ifs with hbt
    · refine ⟨_, rfl, chain_linkBetween hc hs hsa, rfl, linkBetween_val ha hb hab, ?_, ?_⟩
      · rw [linkBetween_before ha hab]
      · intro i hi
        rw [List.mem_cons, List.mem_cons, List.mem_cons, not_or, not_or, not_or] at hi
        exact linkBetween_frame hi.1 hi.2.1 hi.2.2.1
    · obtain ⟨h', hadd, hchain, hlive, hval, hprev, hframe⟩ := ih b fuel h hc.tail hs
        (fun h => hsa (List.mem_cons_of_mem a h)) hnext (by simpa using hfuel)
      obtain ⟨l', hl', hperm⟩ := insertAt_cons between (fun i => (h.cell i).val) s b l
      have haout : a ∉ s :: b :: l := by
        rw [List.mem_cons, not_or]
        exact ⟨ha.symm, (List.nodup_cons.1 hc.nodup).1⟩
      have hsame := hframe a haout
      refine ⟨h', hadd, ?_, hlive, hval, by rw [hsame], ?_⟩
      · rw [hl'] at hchain ⊢
        have hmem : a ∉ b :: l' := by
          rw [(hperm.cons b).mem_iff]
          exact fun h => haout ((List.Perm.swap s b l).mem_iff.1 h)
        apply hchain.cons
        · rw [hsame]
          exact hc.linked.1
        · exact hprev.trans hc.linked.2.1
        · exact hmem
        · exact hlive ▸ hc.live a List.mem_cons_self
      · intro i hi
        apply hframe
        intro h
        apply hi
        exact (List.Perm.swap s a (b :: l)).mem_iff.1 (List.mem_cons_of_mem a h)

/-! ## Loops over the nodes -/

/-- the loop that changes the value of each node -/
def mapLoop (f : α → α) : ℕ → Heap α → Option ℕ → Except Fault (Heap α)
  | 0, _, _ => .error .endless
  | _ + 1, h, none => .ok h
  | fuel + 1, h, some t => do
    let h ← h.put t fun c => { c with val := f c.val }
    let n ← h.get t
    mapLoop f fuel h n.next

/-- **Changing the values** of the nodes leaves their links and the other nodes alone. -/
theorem mapLoop_spec (f : α → α) (l : List ℕ) : ∀ (fuel : ℕ) (h : Heap α), Chain h l → l.length < fuel →
    ∃ h', mapLoop f fuel h l.head? = .ok h' ∧ h'.live = h.live ∧
      (∀ i ∈ l, h'.cell i = ⟨f (h.cell i).val, (h.cell i).prev, (h.cell i).next⟩) ∧
      ∀ i, i ∉ l → h'.cell i = h.cell i := by
  induction l with
  | nil =>
    intro fuel h _ hfuel
    obtain ⟨fuel, rfl⟩ : ∃ k, fuel = k + 1 := ⟨fuel - 1, by have := hfuel; simp at this; omega⟩
    exact ⟨h, rfl, rfl, fun i hi => absurd hi List.not_mem_nil, fun i _ => rfl⟩
  | cons a l ih =>
    intro fuel h hc hfuel
    obtain ⟨fuel, rfl⟩ : ∃ k, fuel = k + 1 := ⟨fuel - 1, by omega⟩
    have ha := hc.live a List.mem_cons_self
    have hal := (List.nodup_cons.1 hc.nodup).1
    have hstep : mapLoop f (fuel + 1) h (some a) =
        mapLoop f fuel (h.set a fun c => { c with val := f c.val }) l.head? := by
      rw [mapLoop, put_live ha]
      change (Heap.get _ a >>= _) = _
      rw [get_live (h := h.set a _) ha, cell_set_self, ← linked_next hc.linked]
      rfl
    have htail : Chain (h.set a fun c => { c with val := f c.val }) l := by
      have hne : ∀ i ∈ l, i ≠ a := fun i hi h => hal (h ▸ hi)
      have hcl : Chain h l := by
        cases l with
        | nil => exact ⟨trivial, List.nodup_nil, fun i hi => absurd hi List.not_mem_nil⟩
        | cons b l => exact hc.tail
      refine hcl.congr (fun i _ hi => hi) (fun i hi => ?_) (fun i hi => ?_)
      · rw [cell_set_of_ne _ (hne i hi)]
      · rw [cell_set_of_ne _ (hne i hi)]
    obtain ⟨h', hloop, hlive, hval, hframe⟩ := ih fuel _ htail (by simpa using hfuel)
    refine ⟨h', hstep.trans hloop, hlive, fun i hi => ?_, fun i hi => ?_⟩
    · rcases List.mem_cons.1 hi with rfl | hi
      · rw [hframe i hal, cell_set_self]
      · have hne : i ≠ a := fun h => hal (h ▸ hi)
        rw [hval i hi, cell_set_of_ne _ hne]
    · rw [List.mem_cons, not_or] at hi
      rw [hframe i hi.2, cell_set_of_ne _ hi.1]

/-- wherever the loop ends, it has left allocations and links as they were, and what `f` keeps -/
theorem mapLoop_keeps {β : Type} (f : α → α) (g : α → β) (hf : ∀ v, g (f v) = g v) (fuel : ℕ) :
    ∀ (h : Heap α) (p : Option ℕ) (h' : Heap α), mapLoop f fuel h p = .ok h' →
      h'.live = h.live ∧ ∀ i, (h'.cell i).next = (h.cell i).next ∧ (h'.cell i).prev = (h.cell i).prev ∧
        g (h'.cell i).val = g (h.cell i).val := by
  induction fuel with
  | zero => intro h p h' hok; cases hok
  | succ fuel ih =>
    intro h p h' hok
    cases p with
    | none =>
      cases hok
      exact ⟨rfl, fun i => ⟨rfl, rfl, rfl⟩⟩
    | some t =>
      by_cases ht : t ∈ h.live
      · rw [mapLoop, put_live ht] at hok
        change (Heap.get _ t >>= _) = _ at hok
        rw [get_live (h := h.set t _) ht] at hok
        obtain ⟨hlive, hcell⟩ := ih _ _ _ hok
        refine ⟨hlive, fun i => ?_⟩
        obtain ⟨h1, h2, h3⟩ := hcell i
        rw [h1, h2, h3]
        by_cases hi : i = t
        · rw [hi, cell_set_self]
          exact ⟨rfl, rfl, hf _⟩
        · rw [cell_set_of_ne _ hi]
          exact ⟨rfl, rfl, rfl⟩
      · rw [mapLoop, Heap.put, if_neg ht] at hok
        cases hok

/-- the nodes a loop meets -/
def toList : ℕ → Heap α → Option ℕ → Except Fault (List ℕ)
  | 0, _, _ => .error .endless
  | _ + 1, _, none => .ok []
  | fuel + 1, h, some t => do
    let n ← h.get t
    let l ← toList fuel h n.next
    return t :: l

theorem chain_nil (h : Heap α) : Chain h [] := ⟨trivial, List.nodup_nil, fun _ hi => absurd hi List.not_mem_nil⟩

theorem Chain.of_cons {h : Heap α} {a : ℕ} {l : List ℕ} (hc : Chain h (a :: l)) : Chain h l := by
  cases l with
  | nil => exact chain_nil h
  | cons b l => exact hc.tail

theorem toList_eq (l : List ℕ) : ∀ (fuel : ℕ) (h : Heap α), Chain h l → l.length < fuel →
    toList fuel h l.head? = .ok l := by
  induction l with
  | nil =>
    intro fuel h _ hfuel
    obtain ⟨fuel, rfl⟩ : ∃ k, fuel = k + 1 := ⟨fuel - 1, by have := hfuel; simp at this; omega⟩
    rfl
  | cons a l ih =>
    intro fuel h hc hfuel
    obtain ⟨fuel, rfl⟩ : ∃ k, fuel = k + 1 := ⟨fuel - 1, by omega⟩
    rw [List.head?_cons, toList, get_live (hc.live a List.mem_cons_self)]
    change (toList fuel h (h.cell a).next >>= _) = _
    rw [linked_next hc.linked, ih fuel h hc.of_cons (by simpa using hfuel)]
    rfl

/-- a node that a loop from a pointer meets -/
inductive Reaches (h : Heap α) : Option ℕ → ℕ → Prop
  | here (a : ℕ) : Reaches h (some a) a
  | next (a b : ℕ) : Reaches h (h.cell a).next b → Reaches h (some a) b

theorem Linked.of_cons {h : Heap α} {a : ℕ} {l : List ℕ} (hl : Linked h (a :: l)) : Linked h l := by
  cases l with
  | nil => trivial
  | cons b l => exact hl.2.2

theorem reaches_of_mem {h : Heap α} {b : ℕ} {l : List ℕ} (hl : Linked h l) (hb : b ∈ l) : Reaches h l.head? b := by
  induction l with
  | nil => exact absurd hb List.not_mem_nil
  | cons a l ih =>
    rcases List.mem_cons.1 hb with rfl | hb
    · exact Reaches.here b
    · apply Reaches.next
      rw [linked_next hl]
      exact ih hl.of_cons hb

/-- the nodes reached depend on the links alone -/
theorem Reaches.congr {h h' : Heap α} (hnext : ∀ i, (h'.cell i).next = (h.cell i).next) {p : Option ℕ} {b : ℕ}
    (hr : Reaches h p b) : Reaches h' p b := by
  induction hr with
  | here a => exact Reaches.here a
  | next a b _ ih =>
    apply Reaches.next
    rw [hnext]
    exact ih

/-- **The nodes reached** from the head of a list are those of the list. -/
theorem reaches_iff {h : Heap α} {b : ℕ} {l : List ℕ} (hl : Linked h l) : Reaches h l.head? b ↔ b ∈ l := by
  refine ⟨fun hr => ?_, reaches_of_mem hl⟩
  generalize hp : l.head? = p at hr
  induction hr generalizing l with
  | here a => exact List.mem_of_mem_head? hp
  | next a b _ ih =>
    obtain ⟨l, rfl⟩ := List.head?_eq_some_iff.1 hp
    exact List.mem_cons_of_mem a (ih hl.of_cons (linked_next hl).symm)

/-! ## Deleting the nodes -/

/-- the node after `p` taken out of the list, when `next` follows it -/
def unlink (h : Heap α) (p : ℕ) (next : Option ℕ) : Except Fault (Heap α) :=
  match next with
  | some x => do
    let h ← h.put p fun c => { c with next := some x }
    h.put x fun c => { c with prev := some p }
  | none => h.put p fun c => { c with next := none }

/-- the loop that unlinks and frees each node, and then reads the successor of the node it has freed -/
def deleteLoop : ℕ → Heap α → Option ℕ → Except Fault (Heap α)
  | 0, _, _ => .error .endless
  | _ + 1, h, none => .ok h
  | fuel + 1, h, some t => do
    let n ← h.get t
    let p ← deref n.prev
    let h ← unlink h p n.next
    let h ← h.free t
    let n ← h.get t
    deleteLoop fuel h n.next

/-- **Deleting** does nothing to a list that has only its head, and reads a freed node in any other. -/
theorem deleteLoop_spec {h : Heap α} {a : ℕ} {l : List ℕ} (hc : Chain h (a :: l)) (fuel : ℕ) :
    deleteLoop (fuel + 1) h (h.cell a).next = if l = [] then .ok h else .error .freed := by
  rw [linked_next hc.linked]
  cases l with
  | nil => rfl
  | cons b l =>
    have ha := hc.live a List.mem_cons_self
    have hb := hc.live b (List.mem_cons_of_mem a List.mem_cons_self)
    -- whatever is unlinked, `b` is freed and then read
    have hfreed : ∀ h' : Heap α, h'.live = h.live →
        (do let h ← h'.free b; let n ← h.get b; deleteLoop fuel h n.next) = .error .freed := by
      intro h' hlive
      have hfree : h'.free b = .ok { h' with live := h'.live.erase b } := if_pos (hlive ▸ hb)
      have hget : Heap.get { h' with live := h'.live.erase b } b = .error .freed := if_neg (Finset.notMem_erase b _)
      rw [hfree]
      change (Heap.get _ b >>= _) = _
      rw [hget]
      rfl
    rw [if_neg (List.cons_ne_nil b l), List.head?_cons, deleteLoop, get_live hb]
    change (deref (h.cell b).prev >>= _) = _
    rw [hc.linked.2.1]
    change (unlink h a (h.cell b).next >>= _) = _
    rw [linked_next hc.tail.linked]
    cases l with
    | nil =>
      rw [List.head?_nil, unlink, put_live ha]
      exact hfreed _ rfl
    | cons d l =>
      have hd := hc.live d (List.mem_cons_of_mem a (List.mem_cons_of_mem b List.mem_cons_self))
      have hput : unlink h a (some d) =
          .ok ((h.set a fun c => { c with next := some d }).set d fun c => { c with prev := some a }) := by
        rw [unlink, put_live ha]
        exact put_live (h := h.set a _) hd _
      rw [List.head?_cons, hput]
      exact hfreed _ rfl

end Dll
