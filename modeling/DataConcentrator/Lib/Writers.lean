/-
Several writers and one queue: each writes its items one after the other, piece by piece, in any interleaving.

- `whole_of_single`: where every item is one piece, the queue is made of whole items, each writer's in its order;
- `whole_of_alone`: and so it is where only one writer has items;
- `split_run`: else there is a run that puts a whole item between two pieces of another.
-/
import Mathlib.Tactic

namespace Writers

/-- the pieces of the item under way that are not written yet, and the items after it -/
structure Writer (α β : Type*) where
  pieces : List β
  items : List α

structure State (ι α β : Type*) where
  writers : ι → Writer α β
  queue : List β

variable {ι α β : Type*} [DecidableEq ι]

def start (items : ι → List α) : State ι α β := ⟨fun i => ⟨[], items i⟩, []⟩

/-- `i` becomes `w` and has written `ps` -/
def State.put (s : State ι α β) (i : ι) (w : Writer α β) (ps : List β) : State ι α β :=
  ⟨Function.update s.writers i w, s.queue ++ ps⟩

/-- one writer writes its next piece, or cuts its next item -/
def step (cut : α → List β) (s : State ι α β) (i : ι) : State ι α β :=
  match s.writers i with
  | ⟨p :: ps, items⟩ => s.put i ⟨ps, items⟩ [p]
  | ⟨[], a :: items⟩ => s.put i ⟨cut a, items⟩ []
  | ⟨[], []⟩ => s

def run (cut : α → List β) (s : State ι α β) (sched : List ι) : State ι α β := sched.foldl (step cut) s

/-- no item is half written -/
def Idle (s : State ι α β) : Prop := ∀ i, (s.writers i).pieces = []

/-- the items of one writer in an order of all items -/
def part (i : ι) (order : List (ι × α)) : List α := (order.filter fun x => x.1 = i).map Prod.snd

/-- the pieces of the items of an order -/
def written (cut : α → List β) (order : List (ι × α)) : List β := order.flatMap fun x => cut x.2

/-- the queue holds the items of `order`, and each writer has written its own in its order -/
structure Whole (cut : α → List β) (items : ι → List α) (order : List (ι × α)) (s : State ι α β) : Prop where
  queue : s.queue = written cut order
  parts : ∀ i, part i order ++ (s.writers i).items = items i

section Runs

variable {cut : α → List β} {s : State ι α β} {i : ι}

@[simp]
theorem put_self (s : State ι α β) (i : ι) (w : Writer α β) (ps : List β) : (s.put i w ps).writers i = w :=
  Function.update_self ..

theorem put_of_ne {i j : ι} (h : j ≠ i) (s : State ι α β) (w : Writer α β) (ps : List β) :
    (s.put i w ps).writers j = s.writers j :=
  Function.update_of_ne h ..

@[simp]
theorem put_queue (s : State ι α β) (i : ι) (w : Writer α β) (ps : List β) : (s.put i w ps).queue = s.queue ++ ps := rfl

@[simp]
theorem put_put (s : State ι α β) (i : ι) (w w' : Writer α β) (ps qs : List β) :
    (s.put i w ps).put i w' qs = s.put i w' (ps ++ qs) := by
  simp [State.put]

theorem put_same {w : Writer α β} (h : s.writers i = w) : s.put i w [] = s := by
  rw [State.put, ← h, Function.update_eq_self, List.append_nil]

theorem run_snoc (s : State ι α β) (sched : List ι) (i : ι) : run cut s (sched ++ [i]) = step cut (run cut s sched) i := by
  rw [run, List.foldl_append]
  rfl

theorem run_append (s : State ι α β) (sched sched' : List ι) :
    run cut s (sched ++ sched') = run cut (run cut s sched) sched' := by
  rw [run, List.foldl_append]
  rfl

theorem step_piece {p : β} {ps : List β} {items : List α} (h : s.writers i = ⟨p :: ps, items⟩) :
    step cut s i = s.put i ⟨ps, items⟩ [p] := by
  rw [step, h]

theorem step_item {a : α} {items : List α} (h : s.writers i = ⟨[], a :: items⟩) :
    step cut s i = s.put i ⟨cut a, items⟩ [] := by
  rw [step, h]

theorem step_done (h : s.writers i = ⟨[], []⟩) : step cut s i = s := by
  rw [step, h]

end Runs

/-! ## Orders -/

theorem part_snoc_self (i : ι) (order : List (ι × α)) (a : α) : part i (order ++ [(i, a)]) = part i order ++ [a] := by
  simp [part]

theorem part_snoc_ne {i j : ι} (h : j ≠ i) (order : List (ι × α)) (a : α) :
    part i (order ++ [(j, a)]) = part i order := by
  simp [part, h]

omit [DecidableEq ι] in
theorem written_snoc (cut : α → List β) (order : List (ι × α)) (x : ι × α) :
    written cut (order ++ [x]) = written cut order ++ cut x.2 := by
  simp [written]

/-- the items of one writer alone -/
theorem part_alone (i : ι) (done : List α) : part i (done.map (Prod.mk i)) = done := by
  induction done with
  | nil => rfl
  | cons a done ih =>
    rw [List.map_cons, part, List.filter_cons_of_pos (by simp), List.map_cons]
    exact congrArg (a :: ·) ih

theorem part_alone_ne {i j : ι} (h : j ≠ i) (done : List α) : part j (done.map (Prod.mk i)) = [] := by
  rw [part, List.filter_eq_nil_iff.2, List.map_nil]
  intro x hx
  obtain ⟨a, -, rfl⟩ := List.mem_map.1 hx
  simpa using Ne.symm h

/-- two writers have no item in common -/
theorem length_parts {i j : ι} (h : i ≠ j) (order : List (ι × α)) :
    (part i order).length + (part j order).length ≤ order.length := by
  induction order with
  | nil => exact le_rfl
  | cons x order ih =>
    simp only [part, List.length_map, List.length_cons] at ih ⊢
    rw [List.filter_cons, List.filter_cons]
    by_cases hi : x.1 = i
    · have hj : ¬ x.1 = j := fun hj => h (hi.symm.trans hj)
      simp only [hi, h, decide_true, decide_false, if_true, List.length_cons] at ih ⊢
      simp only [Bool.false_eq_true, if_false]
      omega
    · simp only [hi, decide_false, Bool.false_eq_true, if_false]
      split_ifs
      · rw [List.length_cons]
        omega
      · omega

theorem mem_of_mem_part {i : ι} {a : α} {order : List (ι × α)} (h : (i, a) ∈ order) : a ∈ part i order := by
  rw [part, List.mem_map]
  exact ⟨(i, a), List.mem_filter.2 ⟨h, by simp⟩, rfl⟩

theorem mem_items {cut : α → List β} {items : ι → List α} {order : List (ι × α)} {s : State ι α β}
    (h : Whole cut items order s) : ∀ x ∈ order, x.2 ∈ items x.1 := by
  rintro ⟨i, a⟩ hx
  rw [← h.parts i]
  exact List.mem_append_left _ (mem_of_mem_part hx)

/-! ## Items of one piece -/

/-- writer `i` has the items `cut` under way -/
structure UnderWay (cut : α → List β) (items : ι → List α) (order : List (ι × α)) (s : State ι α β) : Prop where
  queue : s.queue = written cut order
  parts : ∀ i, ∃ now, part i order ++ now ++ (s.writers i).items = items i ∧ now.flatMap cut = (s.writers i).pieces

variable {cut : α → List β} {items : ι → List α}

/-- **One step.** A piece that is written completes an item. -/
theorem underWay_step (hone : ∀ i, ∀ a ∈ items i, ∃ p, cut a = [p]) {order : List (ι × α)} {s : State ι α β}
    (h : UnderWay cut items order s) (i : ι) : ∃ order', UnderWay cut items order' (step cut s i) := by
  obtain ⟨now, hitems, hpieces⟩ := h.parts i
  rcases hw : s.writers i with ⟨_ | ⟨p, ps⟩, rest⟩ <;> rw [hw] at hitems hpieces
  · rcases rest with _ | ⟨a, rest⟩
    · exact ⟨order, by rwa [step_done hw]⟩
    · -- the next item is cut
      rw [step_item hw]
      refine ⟨order, ?_, fun j => ?_⟩
      · rw [put_queue, List.append_nil, h.queue]
      · by_cases hj : j = i
        · subst hj
          refine ⟨now ++ [a], ?_, ?_⟩
          · rw [put_self]
            simpa using hitems
          · rw [put_self, List.flatMap_append, hpieces]
            simp
        · rw [put_of_ne hj]
          exact h.parts j
  · -- the piece is a whole item
    rw [step_piece hw]
    rcases now with _ | ⟨a, now⟩
    · cases hpieces
    obtain ⟨q, hq⟩ := hone i a (by rw [← hitems]; simp)
    rw [List.flatMap_cons, hq] at hpieces
    obtain ⟨rfl, hps⟩ := List.cons.inj hpieces
    refine ⟨order ++ [(i, a)], ?_, fun j => ?_⟩
    · rw [written_snoc, hq, put_queue, h.queue]
    · by_cases hj : j = i
      · subst hj
        refine ⟨now, ?_, ?_⟩
        · rw [part_snoc_self, put_self]
          simpa using hitems
        · rw [put_self]
          exact hps
      · rw [part_snoc_ne (Ne.symm hj), put_of_ne hj]
        exact h.parts j

theorem underWay_run (hone : ∀ i, ∀ a ∈ items i, ∃ p, cut a = [p]) (sched : List ι) :
    ∃ order, UnderWay cut items order (run cut (start items) sched) := by
  induction sched using List.reverseRecOn with
  | nil => exact ⟨[], rfl, fun i => ⟨[], rfl, rfl⟩⟩
  | append_singleton sched i ih =>
    obtain ⟨order, h⟩ := ih
    rw [run_snoc]
    exact underWay_step hone h i

/-- **Items of one piece stay whole**, however the writers take turns. -/
theorem whole_of_single (hone : ∀ i, ∀ a ∈ items i, ∃ p, cut a = [p]) (sched : List ι)
    (hidle : Idle (run cut (start items) sched)) : ∃ order, Whole cut items order (run cut (start items) sched) := by
  obtain ⟨order, hqueue, hparts⟩ := underWay_run hone sched
  refine ⟨order, hqueue, fun i => ?_⟩
  obtain ⟨now, hitems, hpieces⟩ := hparts i
  rw [hidle i] at hpieces
  rcases now with _ | ⟨a, now⟩
  · rwa [List.append_nil] at hitems
  · obtain ⟨p, hp⟩ := hone i a (by rw [← hitems]; simp)
    rw [List.flatMap_cons, hp] at hpieces
    cases hpieces

/-! ## One writer -/

theorem alone_run {i : ι} (hothers : ∀ j, j ≠ i → items j = []) (sched : List ι) :
    (∀ j, j ≠ i → (run cut (start items) sched).writers j = ⟨[], []⟩) ∧
      ∃ done, (run cut (start items) sched).queue ++ ((run cut (start items) sched).writers i).pieces = done.flatMap cut ∧
        done ++ ((run cut (start items) sched).writers i).items = items i := by
  induction sched using List.reverseRecOn with
  | nil =>
    refine ⟨fun j hj => ?_, [], rfl, rfl⟩
    show (⟨[], items j⟩ : Writer α β) = _
    rw [hothers j hj]
  | append_singleton sched j ih =>
    obtain ⟨hquiet, done, hqueue, hitems⟩ := ih
    rw [run_snoc]
    set s := run cut (start items) sched
    by_cases hj : j = i
    · subst hj
      rcases hw : s.writers j with ⟨_ | ⟨p, ps⟩, _ | ⟨a, rest⟩⟩ <;> rw [hw] at hqueue hitems
      · rw [step_done hw, hw]
        exact ⟨hquiet, done, hqueue, hitems⟩
      · rw [step_item hw]
        refine ⟨fun k hk => by rw [put_of_ne hk]; exact hquiet k hk, done ++ [a], ?_, ?_⟩
        · rw [put_self, List.flatMap_append, ← hqueue]
          simp
        · rw [put_self]
          simpa using hitems
      all_goals
        rw [step_piece hw]
        refine ⟨fun k hk => by rw [put_of_ne hk]; exact hquiet k hk, done, ?_, ?_⟩
        · rw [put_self]
          simpa using hqueue
        · rw [put_self]
          exact hitems
    · rw [step_done (hquiet j hj)]
      exact ⟨hquiet, done, hqueue, hitems⟩

/-- **The items of a writer with no other stay whole.** -/
theorem whole_of_alone {i : ι} (hothers : ∀ j, j ≠ i → items j = []) (sched : List ι)
    (hidle : Idle (run cut (start items) sched)) : ∃ order, Whole cut items order (run cut (start items) sched) := by
  obtain ⟨hquiet, done, hqueue, hitems⟩ := @alone_run _ _ _ _ cut items i hothers sched
  rw [hidle i, List.append_nil] at hqueue
  refine ⟨done.map (Prod.mk i), ?_, fun j => ?_⟩
  · rw [hqueue, written, List.flatMap_map]
  · by_cases hj : j = i
    · subst hj
      rw [part_alone, hitems]
    · rw [part_alone_ne hj, hquiet j hj, hothers j hj]
      rfl

/-! ## Two writers -/

/-- one writer alone for a while writes its pieces -/
theorem run_pieces (i : ι) (ps : List β) : ∀ (s : State ι α β) (qs : List β) (rest : List α),
    s.writers i = ⟨ps ++ qs, rest⟩ → run cut s (List.replicate ps.length i) = s.put i ⟨qs, rest⟩ ps := by
  induction ps with
  | nil => exact fun s qs rest h => (put_same h).symm
  | cons p ps ih =>
    intro s qs rest h
    have hrest := ih (s.put i ⟨ps ++ qs, rest⟩ [p]) qs rest (put_self ..)
    rw [List.length_cons, List.replicate_succ, run, List.foldl_cons, step_piece (h.trans rfl), ← run]
    exact hrest.trans (put_put ..)

/-- it writes some of its items -/
theorem run_items (i : ι) (as : List α) : ∀ (s : State ι α β) (rest : List α), s.writers i = ⟨[], as ++ rest⟩ →
    ∃ sched, run cut s sched = s.put i ⟨[], rest⟩ (as.flatMap cut) := by
  induction as with
  | nil => exact fun s rest h => ⟨[], (put_same h).symm⟩
  | cons a as ih =>
    intro s rest h
    have hcut : run cut s [i] = s.put i ⟨cut a, as ++ rest⟩ [] := step_item h
    have hwrite := @run_pieces _ _ _ _ cut i (cut a) (s.put i ⟨cut a, as ++ rest⟩ []) [] (as ++ rest) (by simp)
    obtain ⟨sched, hsched⟩ := ih (s.put i ⟨[], as ++ rest⟩ (cut a)) rest (put_self ..)
    refine ⟨[i] ++ List.replicate (cut a).length i ++ sched, ?_⟩
    rw [run_append, run_append, hcut, hwrite, put_put, List.nil_append, hsched, put_put, List.flatMap_cons]

/-- **A whole item between two pieces of another**: the writers are idle again at the end. -/
theorem split_run {i j : ι} (hij : i ≠ j) {as as' bs : List α} {a b : α} {p : β} {ps : List β}
    (hi : items i = as ++ a :: as') (hj : items j = b :: bs) (ha : cut a = p :: ps) :
    ∃ sched, Idle (run cut (start items) sched) ∧
      (run cut (start items) sched).queue = as.flatMap cut ++ (p :: (cut b ++ ps)) ∧
      ((run cut (start items) sched).writers i).items = as' ∧ ((run cut (start items) sched).writers j).items = bs := by
  obtain ⟨before, hbefore⟩ := @run_items _ _ _ _ cut i as (start items) (a :: as')
    (congrArg (Writer.mk []) hi)
  set s₁ := (start items).put i ⟨[], a :: as'⟩ (as.flatMap cut) with hs₁
  -- the first piece of `a`
  have hfirst : run cut s₁ [i, i] = (start items).put i ⟨ps, as'⟩ (as.flatMap cut ++ [p]) := by
    show step cut (step cut s₁ i) i = _
    rw [@step_item _ _ _ _ cut s₁ i a as' (put_self ..), ha, step_piece (put_self ..), put_put, hs₁, put_put,
      List.nil_append]
  set s₂ := (start items).put i ⟨ps, as'⟩ (as.flatMap cut ++ [p]) with hs₂
  obtain ⟨other, hother⟩ := @run_items _ _ _ _ cut j [b] s₂ bs (by
    rw [hs₂, put_of_ne (Ne.symm hij)]
    exact congrArg (Writer.mk []) hj)
  set s₃ := s₂.put j ⟨[], bs⟩ ([b].flatMap cut) with hs₃
  have hlast := @run_pieces _ _ _ _ cut i ps s₃ [] as' (by
    rw [hs₃, put_of_ne hij, hs₂, put_self, List.append_nil])
  have hrun : run cut (start items) (before ++ [i, i] ++ other ++ List.replicate ps.length i) = s₃.put i ⟨[], as'⟩ ps := by
    rw [run_append, run_append, run_append, hbefore, hfirst, hother, hlast]
  refine ⟨before ++ [i, i] ++ other ++ List.replicate ps.length i, ?_, ?_, ?_, ?_⟩ <;> rw [hrun]
  · intro k
    by_cases hk : k = i
    · rw [hk, put_self]
    · rw [put_of_ne hk, hs₃]
      by_cases hkj : k = j
      · rw [hkj, put_self]
      · rw [put_of_ne hkj, hs₂, put_of_ne hk]
        rfl
  · simp [hs₃, hs₂, start]
  · rw [put_self]
  · rw [put_of_ne (Ne.symm hij), hs₃, put_self]

end Writers
