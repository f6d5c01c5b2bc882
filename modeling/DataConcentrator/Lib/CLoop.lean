/-
Counted loops of C code whose counter has a fixed width.

`for (i = 0; i < bound; i ++)` with a counter of `w` bits goes round for ever once `bound` is above `2 ^ w - 1`.
- `forLoop_endless`: such a loop never ends;
- `forLoop_congr`: a loop sees its body below its bound only;
- `forLoop_eq_foldlM`: below that bound the loop is the monadic fold over `0 .. bound - 1`;
- `foldl_range'_add`: a loop that adds up, as a sum;
- `foldlM_inv`: the invariant rule of such a fold; `foldlM_isSome_iff`: where it faults;
- `foldlM_room_iff`: a loop that fills an array, up to its end;
- `visitsAll_iff`: a loop whose body cannot fault visits each index once and ends iff its bound fits the counter.
-/
import Mathlib.Tactic

namespace CLoop

variable {σ : Type*}

/-- the loop from counter `i` on; `none` when the body faults or `fuel` rounds are not enough -/
def forLoop (w bound : ℕ) (body : σ → ℕ → Option σ) : ℕ → ℕ → σ → Option σ
  | 0, i, s => if i < bound then none else some s
  | fuel + 1, i, s =>
    if i < bound then (body s i).bind (forLoop w bound body fuel ((i + 1) % 2 ^ w)) else some s

theorem forLoop_done (w : ℕ) {bound i : ℕ} (body : σ → ℕ → Option σ) (fuel : ℕ) (s : σ) (h : bound ≤ i) :
    forLoop w bound body fuel i s = some s := by
  cases fuel <;> simp [forLoop, Nat.not_lt.2 h]

theorem forLoop_step (w : ℕ) {bound i : ℕ} (body : σ → ℕ → Option σ) (fuel : ℕ) (s : σ) (h : i < bound)
    (hb : bound < 2 ^ w) :
    forLoop w bound body (fuel + 1) i s = (body s i).bind (forLoop w bound body fuel (i + 1)) := by
  rw [forLoop, if_pos h, Nat.mod_eq_of_lt (by omega)]

/-- a counter that cannot reach the bound -/
theorem forLoop_endless {w bound : ℕ} (body : σ → ℕ → Option σ) (hb : 2 ^ w ≤ bound) (fuel : ℕ) :
    ∀ i s, i < 2 ^ w → forLoop w bound body fuel i s = none := by
  induction fuel with
  | zero =>
    intro i s hi
    rw [forLoop, if_pos (by omega)]
  | succ fuel ih =>
    intro i s hi
    rw [forLoop, if_pos (by omega), Option.bind_eq_none_iff]
    exact fun t _ => ih _ t (Nat.mod_lt _ (by omega))

theorem forLoop_from (w : ℕ) {bound : ℕ} (body : σ → ℕ → Option σ) (hb : bound < 2 ^ w) (n : ℕ) :
    ∀ i fuel s, i + n = bound → n ≤ fuel →
      forLoop w bound body fuel i s = (List.range' i n).foldlM body s := by
  induction n with
  | zero =>
    intro i fuel s hi _
    rw [forLoop_done w body fuel s (by omega)]
    rfl
  | succ n ih =>
    intro i fuel s hi hf
    obtain ⟨fuel, rfl⟩ : ∃ k, fuel = k + 1 := ⟨fuel - 1, by omega⟩
    rw [forLoop_step w body fuel s (by omega) hb, List.range'_succ, List.foldlM_cons]
    refine Option.bind_congr fun t _ => ?_
    exact ih (i + 1) fuel t (by omega) (by omega)

/-- a loop whose bound fits the counter runs its body once for each index -/
theorem forLoop_eq_foldlM (w : ℕ) {bound : ℕ} (body : σ → ℕ → Option σ) (fuel : ℕ) (s : σ) (hb : bound < 2 ^ w)
    (hf : bound ≤ fuel) : forLoop w bound body fuel 0 s = (List.range bound).foldlM body s := by
  rw [forLoop_from w body hb bound 0 fuel s (by omega) hf, List.range_eq_range']

/-- a loop sees its body below the bound only -/
theorem forLoop_congr (w : ℕ) {bound : ℕ} {body body' : σ → ℕ → Option σ} (h : ∀ i < bound, ∀ s, body s i = body' s i)
    (fuel : ℕ) : ∀ i s, forLoop w bound body fuel i s = forLoop w bound body' fuel i s := by
  induction fuel with
  | zero => exact fun i s => rfl
  | succ fuel ih =>
    intro i s
    rw [forLoop, forLoop]
    split_ifs with hi
    · rw [h i hi s]
      exact Option.bind_congr fun t _ => ih _ t
    · rfl

/-- a fold over the indices of the part `xs` of a list is a fold over its elements -/
theorem foldlM_indices {α : Type*} (body : σ → α → Option σ) (xs : List α) : ∀ (pre : List α) (s : σ),
    (List.range' pre.length xs.length).foldlM (fun s i => ((pre ++ xs)[i]?).bind (body s)) s = xs.foldlM body s := by
  induction xs with
  | nil => intro pre s; rfl
  | cons x xs ih =>
    intro pre s
    have hx : (pre ++ x :: xs)[pre.length]? = some x := by simp
    rw [List.length_cons, List.range'_succ, List.foldlM_cons, List.foldlM_cons, hx]
    refine Option.bind_congr fun t _ => ?_
    simpa using ih (pre ++ [x]) t

theorem foldlM_range_getElem? {α : Type*} (body : σ → α → Option σ) (xs : List α) (s : σ) :
    (List.range xs.length).foldlM (fun s i => (xs[i]?).bind (body s)) s = xs.foldlM body s := by
  rw [List.range_eq_range']
  exact foldlM_indices body xs [] s

/-- a loop sees its body at its elements only -/
theorem foldlM_congr {α : Type*} {body body' : σ → α → Option σ} (xs : List α) : ∀ s : σ,
    (∀ x ∈ xs, ∀ s, body s x = body' s x) → xs.foldlM body s = xs.foldlM body' s := by
  induction xs with
  | nil => exact fun s _ => rfl
  | cons x xs ih =>
    intro s h
    rw [List.foldlM_cons, List.foldlM_cons, h x List.mem_cons_self s]
    exact congrArg _ (funext fun t => ih t fun y hy => h y (List.mem_cons_of_mem x hy))

/-- one more round -/
theorem foldlM_range_succ {body : σ → ℕ → Option σ} {n : ℕ} {s t : σ}
    (h : (List.range n).foldlM body s = some t) : (List.range (n + 1)).foldlM body s = body t n := by
  rw [List.range_succ, List.foldlM_append, h]
  exact Option.bind_fun_some _

/-- a loop that adds up its indices' values -/
theorem foldl_range'_add (f : ℕ → ℕ) (a n s : ℕ) :
    (List.range' a n).foldl (fun s i => s + f i) s = s + ∑ i ∈ Finset.Ico a (a + n), f i := by
  induction n with
  | zero => simp
  | succ n ih =>
    rw [List.range'_1_concat, List.foldl_append, ih, ← Nat.add_assoc a n 1, Finset.sum_Ico_succ_top (Nat.le_add_right a n)]
    exact add_assoc _ _ _

/-- an invariant of the body holds after the loop -/
theorem foldlM_inv {α : Type*} {body : σ → α → Option σ} {P : σ → Prop}
    (hstep : ∀ s a s', P s → body s a = some s' → P s') (xs : List α) :
    ∀ s s', P s → xs.foldlM body s = some s' → P s' := by
  induction xs with
  | nil =>
    intro s s' hs h
    rw [List.foldlM_nil, Option.pure_def, Option.some.injEq] at h
    exact h ▸ hs
  | cons x xs ih =>
    intro s s' hs h
    rw [List.foldlM_cons] at h
    obtain ⟨t, ht, h⟩ := Option.bind_eq_some_iff.1 h
    exact ih t s' (hstep s x t hs ht) h

/-- a loop that ends has run its body at every element -/
theorem foldlM_ran {α : Type*} {body : σ → α → Option σ} (xs : List α) : ∀ s t, xs.foldlM body s = some t →
    ∀ x ∈ xs, ∃ s' t', body s' x = some t' := by
  induction xs with
  | nil => exact fun s t _ x hx => absurd hx List.not_mem_nil
  | cons x xs ih =>
    intro s t h y hy
    rw [List.foldlM_cons] at h
    obtain ⟨u, hu, h⟩ := Option.bind_eq_some_iff.1 h
    rcases List.mem_cons.1 hy with rfl | hy
    · exact ⟨s, u, hu⟩
    · exact ih u t h y hy

/-- two loops over one list, side by side -/
theorem foldlM_prod {σ τ α : Type*} (f : σ → α → Option σ) (g : τ → α → Option τ) (l : List α) : ∀ (s : σ) (t : τ),
    l.foldlM (fun (x : σ × τ) a => (f x.1 a).bind fun s' => (g x.2 a).map fun t' => (s', t')) (s, t) =
      (l.foldlM f s).bind fun s' => (l.foldlM g t).map fun t' => (s', t') := by
  induction l with
  | nil => intro s t; rfl
  | cons a l ih =>
    intro s t
    rw [List.foldlM_cons, List.foldlM_cons, List.foldlM_cons]
    cases hf : f s a with
    | none => rfl
    | some s' =>
      cases hg : g t a with
      | none => cases hl : l.foldlM f s' <;> simp [hl]
      | some t' => simpa using ih s' t'

/-! ## Visited indices -/

/-- the body, with a log of the indices it is run at -/
def logged (body : σ → ℕ → Option σ) (t : σ × List ℕ) (i : ℕ) : Option (σ × List ℕ) :=
  (body t.1 i).map fun s => (s, t.2 ++ [i])

/-- the loop ends, and has visited each index below its bound once, in order -/
def VisitsAll (w bound : ℕ) (body : σ → ℕ → Option σ) (s : σ) : Prop :=
  ∃ fuel t, forLoop w bound (logged body) fuel 0 (s, []) = some (t, List.range bound)

/-- the log leaves the loop as it is -/
theorem forLoop_logged (w bound : ℕ) (body : σ → ℕ → Option σ) (fuel : ℕ) : ∀ (i : ℕ) (s : σ) (seen : List ℕ),
    (forLoop w bound (logged body) fuel i (s, seen)).map Prod.fst = forLoop w bound body fuel i s := by
  induction fuel with
  | zero =>
    intro i s seen
    unfold forLoop
    split_ifs <;> rfl
  | succ fuel ih =>
    intro i s seen
    rw [forLoop, forLoop]
    split_ifs with h
    · cases hb : body s i with
      | none => simp [logged, hb]
      | some t => simpa [logged, hb] using ih _ t (seen ++ [i])
    · rfl

theorem foldlM_logged (body : σ → ℕ → Option σ) (is : List ℕ) : ∀ (s : σ) (seen : List ℕ),
    is.foldlM (logged body) (s, seen) = (is.foldlM body s).map fun t => (t, seen ++ is) := by
  induction is with
  | nil => intro s seen; simp
  | cons i is ih =>
    intro s seen
    rw [List.foldlM_cons, List.foldlM_cons]
    cases hb : body s i with
    | none => simp [logged, hb]
    | some t => simpa [logged, hb] using ih t (seen ++ [i])

/-- a body that faults at some elements, whatever the state, faults in the loop if the loop gets to one -/
theorem foldlM_isSome_iff {α : Type*} {body : σ → α → Option σ} {I : σ → Prop} {P : α → Prop}
    (hinv : ∀ s x t, I s → body s x = some t → I t) (xs : List α) : ∀ s : σ,
    (∀ x ∈ xs, ∀ t, I t → ((body t x).isSome ↔ P x)) → I s → ((xs.foldlM body s).isSome ↔ ∀ x ∈ xs, P x) := by
  induction xs with
  | nil => exact fun s _ _ => ⟨fun _ x hx => absurd hx List.not_mem_nil, fun _ => rfl⟩
  | cons x xs ih =>
    intro s hbody hs
    have hhead := hbody x List.mem_cons_self s hs
    rw [List.foldlM_cons, List.forall_mem_cons, ← hhead]
    cases hx : body s x with
    | none => exact ⟨fun h => (nomatch h), fun h => (nomatch h.1)⟩
    | some t =>
      have htail := ih t (fun y hy => hbody y (List.mem_cons_of_mem x hy)) (hinv s x t hs hx)
      exact ⟨fun h => ⟨rfl, htail.1 h⟩, fun h => htail.2 h.2⟩

/-- a body that never faults -/
theorem foldlM_isSome {α : Type*} {body : σ → α → Option σ} (xs : List α) (s : σ)
    (h : ∀ x ∈ xs, ∀ t, (body t x).isSome) : (xs.foldlM body s).isSome := by
  have hiff := foldlM_isSome_iff (I := fun _ => True) (P := fun _ => True) (fun _ _ _ _ _ => trivial) xs s
    (fun x hx t _ => iff_true_intro (h x hx t)) trivial
  exact hiff.2 fun _ _ => trivial

section Room

variable {α : Type*} {body : σ → α → Option σ} {used : σ → ℕ} {need : α → ℕ}

/-- what a loop uses, where each element uses its own share -/
theorem foldlM_used (hused : ∀ s x t, body s x = some t → used t = used s + need x) (xs : List α) :
    ∀ s t, xs.foldlM body s = some t → used t = used s + (xs.map need).sum := by
  induction xs with
  | nil =>
    intro s t h
    rw [← Option.some.inj h, List.map_nil, List.sum_nil, Nat.add_zero]
  | cons x xs ih =>
    intro s t h
    rw [List.foldlM_cons] at h
    obtain ⟨u, hu, h⟩ := Option.bind_eq_some_iff.1 h
    rw [ih u t h, hused s x u hu, List.map_cons, List.sum_cons, Nat.add_assoc]

/-- and when there is room for all of it -/
theorem foldlM_room_iff {room : ℕ} {P : α → Prop}
    (hstep : ∀ s x, used s ≤ room → ((body s x).isSome ↔ P x ∧ used s + need x ≤ room))
    (hused : ∀ s x t, body s x = some t → used t = used s + need x) (xs : List α) :
    ∀ s, used s ≤ room →
      ((xs.foldlM body s).isSome ↔ (∀ x ∈ xs, P x) ∧ used s + (xs.map need).sum ≤ room) := by
  induction xs with
  | nil => exact fun s hs => ⟨fun _ => ⟨fun x hx => absurd hx List.not_mem_nil, hs⟩, fun _ => rfl⟩
  | cons x xs ih =>
    intro s hs
    have hhead := hstep s x hs
    rw [List.foldlM_cons, List.forall_mem_cons, List.map_cons, List.sum_cons, ← Nat.add_assoc]
    cases hx : body s x with
    | none =>
      rw [hx] at hhead
      refine ⟨fun h => (nomatch h), fun h => ?_⟩
      exact absurd (hhead.2 ⟨h.1.1, by omega⟩) Bool.false_ne_true
    | some t =>
      rw [hx] at hhead
      obtain ⟨hP, hroom⟩ := hhead.1 rfl
      have htail := ih t (by rw [hused s x t hx]; exact hroom)
      rw [hused s x t hx] at htail
      exact ⟨fun h => ⟨⟨hP, (htail.1 h).1⟩, (htail.1 h).2⟩, fun h => htail.2 ⟨h.1.2, h.2⟩⟩

end Room

/-- **Visits.** -/
theorem visitsAll_iff {w bound : ℕ} {body : σ → ℕ → Option σ} (s : σ)
    (hbody : ∀ i < bound, ∀ t, (body t i).isSome) : VisitsAll w bound body s ↔ bound < 2 ^ w := by
  constructor
  · rintro ⟨fuel, t, h⟩
    have hplain := forLoop_logged w bound body fuel 0 s []
    by_contra hb
    rw [h, forLoop_endless body (Nat.not_lt.1 hb) fuel 0 s (Nat.two_pow_pos w)] at hplain
    cases hplain
  · intro hb
    have hsome := @foldlM_isSome σ ℕ body (List.range bound) s fun i hi => hbody i (List.mem_range.1 hi)
    obtain ⟨t, ht⟩ := Option.isSome_iff_exists.1 hsome
    refine ⟨bound, t, ?_⟩
    rw [forLoop_eq_foldlM w _ bound _ hb le_rfl, foldlM_logged, ht]
    rfl

end CLoop
