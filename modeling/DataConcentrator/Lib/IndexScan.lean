/-
Scans over the indices `0 .. N - 1` that stop at the selected ones, with a budget of stops.

- `selected_hit`, `selected_miss`, `selected_end`: what one round of a scan finds;
- `length_takeWhile_range`: where a scan that breaks at the first index without a property stops;
- `take_eq_filter_iff`: when the first `n` elements of a list are exactly those with a property;
- `filter_keyed`, `length_eq_one_of_flatMap_le`: a list put together from one part for each index;
- `take_selected_iff`: when a scan with a budget of `n` stops, on a selection that is too wide, stops exactly at the
  intended indices.
-/
import Mathlib.Tactic

namespace IndexScan

/-- the selected indices from `i` on, below `N` -/
def selected (p : ℕ → Bool) (N i : ℕ) : List ℕ := (List.range' i (N - i)).filter p

variable (p q : ℕ → Bool) {N i : ℕ}

theorem selected_end (h : N ≤ i) : selected p N i = [] := by
  rw [selected, Nat.sub_eq_zero_of_le h]
  rfl

theorem selected_hit (h : i < N) (hp : p i = true) : selected p N i = i :: selected p N (i + 1) := by
  obtain ⟨n, hn⟩ : ∃ n, N - i = n + 1 := ⟨N - i - 1, by omega⟩
  have hrest : N - (i + 1) = n := by omega
  rw [selected, selected, hrest, hn, List.range'_succ, List.filter_cons_of_pos hp]

theorem selected_miss (h : i < N) (hp : p i = false) : selected p N i = selected p N (i + 1) := by
  obtain ⟨n, hn⟩ : ∃ n, N - i = n + 1 := ⟨N - i - 1, by omega⟩
  have hrest : N - (i + 1) = n := by omega
  rw [selected, selected, hrest, hn, List.range'_succ, List.filter_cons_of_neg (by simp [hp])]

theorem mem_selected {k : ℕ} : k ∈ selected p N i ↔ i ≤ k ∧ k < N ∧ p k = true := by
  have hrange : i ≤ k ∧ k < i + (N - i) ↔ i ≤ k ∧ k < N := by omega
  rw [selected, List.mem_filter, List.mem_range'_1, hrange, and_assoc]

/-- the first selected index, and what is left after it -/
theorem selected_cons {k : ℕ} {ks : List ℕ} (h : selected p N i = k :: ks) : k < N ∧ ks = selected p N (k + 1) := by
  generalize hn : N - i = n
  induction n generalizing i with
  | zero =>
    rw [selected_end p (by omega)] at h
    simp at h
  | succ n ih =>
    cases hp : p i with
    | true =>
      rw [selected_hit p (by omega) hp, List.cons.injEq] at h
      obtain ⟨rfl, rfl⟩ := h
      exact ⟨by omega, rfl⟩
    | false =>
      rw [selected_miss p (by omega) hp] at h
      exact ih h (by omega)

theorem selected_zero : selected p N 0 = (List.range N).filter p := by
  rw [selected, Nat.sub_zero, List.range_eq_range']

/-- the selection below an index, the index, and the selection above it -/
theorem selected_split (h : i < N) (hp : p i = true) :
    selected p N 0 = selected p i 0 ++ i :: selected p N (i + 1) := by
  have hsplit : List.range' 0 N = List.range' 0 i ++ List.range' i (N - i) := by
    have happend := @List.range'_append_1 0 i (N - i)
    rw [Nat.zero_add, Nat.add_sub_cancel' h.le] at happend
    exact happend.symm
  rw [← selected_hit p h hp]
  simp only [selected, Nat.sub_zero, hsplit, List.filter_append]

/-- when every index is selected -/
theorem length_selected_all (h : ∀ k < N, p k = true) : (selected p N 0).length = N := by
  rw [selected_zero, List.filter_eq_self.2, List.length_range]
  exact fun k hk => h k (List.mem_range.1 hk)

/-! ## Initial segments -/

theorem length_takeWhile_range' (n : ℕ) : ∀ s : ℕ, ((List.range' s n).takeWhile p).length ≤ n ∧
    (∀ k < ((List.range' s n).takeWhile p).length, p (s + k) = true) ∧
    (((List.range' s n).takeWhile p).length < n → p (s + ((List.range' s n).takeWhile p).length) = false) := by
  induction n with
  | zero => simp
  | succ n ih =>
    intro s
    obtain ⟨hle, hall, hend⟩ := ih (s + 1)
    rw [List.range'_succ]
    cases hp : p s with
    | false => simp [hp]
    | true =>
      rw [List.takeWhile_cons_of_pos hp, List.length_cons]
      refine ⟨Nat.succ_le_succ hle, fun k hk => ?_, fun hlt => ?_⟩
      · cases k with
        | zero => exact hp
        | succ k =>
          have hk' := hall k (Nat.lt_of_succ_lt_succ hk)
          rwa [Nat.add_right_comm] at hk'
      · have hend' := hend (Nat.lt_of_succ_lt_succ hlt)
        rwa [Nat.add_right_comm] at hend'

/-- the initial segment of `0 .. n - 1` on which `p` holds -/
theorem length_takeWhile_range (n : ℕ) : ((List.range n).takeWhile p).length ≤ n ∧
    (∀ k < ((List.range n).takeWhile p).length, p k = true) ∧
    (((List.range n).takeWhile p).length < n → p ((List.range n).takeWhile p).length = false) := by
  have h := length_takeWhile_range' p n 0
  simpa only [List.range_eq_range', Nat.zero_add] using h

theorem takeWhile_range (n : ℕ) : (List.range n).takeWhile p = List.range ((List.range n).takeWhile p).length := by
  have hle := (length_takeWhile_range p n).1
  have hpre : (List.range n).takeWhile p <+: List.range n := List.takeWhile_prefix p
  have htake := List.prefix_iff_eq_take.1 hpre
  rw [List.take_range, Nat.min_eq_left hle] at htake
  exact htake

/-! ## Budgets -/

variable {α : Type*}

/-- the first `n` elements are those with `q` exactly if `n` is enough for them and elements without `q` come later -/
theorem take_eq_filter_iff (q : α → Bool) (xs : List α) : ∀ n, xs.take n = xs.filter q ↔
    (xs.filter q).length ≤ n ∧ ∀ pre x post, xs = pre ++ x :: post → q x = false → n ≤ pre.length := by
  induction xs with
  | nil =>
    intro n
    simp
  | cons x xs ih =>
    intro n
    cases hq : q x with
    | false =>
      rw [List.filter_cons_of_neg (by simp [hq])]
      constructor
      · intro h
        cases n with
        | zero => exact ⟨by rw [← h]; simp, fun _ _ _ _ _ => Nat.zero_le _⟩
        | succ n =>
          have hx : x ∈ xs.filter q := by rw [← h]; simp
          rw [List.mem_filter, hq] at hx
          exact absurd hx.2 (by simp)
      · rintro ⟨hlen, hpos⟩
        have hn : n = 0 := Nat.le_zero.1 (hpos [] x xs rfl hq)
        rw [hn, List.take_zero]
        exact (List.eq_nil_of_length_eq_zero (by omega)).symm
    | true =>
      rw [List.filter_cons_of_pos hq]
      cases n with
      | zero => simp
      | succ n =>
        rw [List.take_succ_cons, List.cons.injEq, ih n]
        constructor
        · rintro ⟨_, hlen, hpos⟩
          refine ⟨by simpa using hlen, fun pre y post hsplit hy => ?_⟩
          cases pre with
          | nil =>
            rw [List.nil_append, List.cons.injEq] at hsplit
            rw [← hsplit.1, hq] at hy
            exact absurd hy (by simp)
          | cons z pre =>
            rw [List.cons_append, List.cons.injEq] at hsplit
            exact Nat.succ_le_succ (hpos pre y post hsplit.2 hy)
        · rintro ⟨hlen, hpos⟩
          refine ⟨rfl, by simpa using hlen, fun pre y post hsplit hy => ?_⟩
          have hle := hpos (x :: pre) y post (by rw [hsplit]; rfl) hy
          simpa using hle

/-- a wider selection with a budget -/
theorem take_selected_iff (hqp : ∀ k, q k = true → p k = true) (n : ℕ) :
    (selected p N 0).take n = selected q N 0 ↔
      (selected q N 0).length ≤ n ∧ ∀ k < N, p k = true → q k = false → n ≤ (selected p k 0).length := by
  have hfilter : selected q N 0 = (selected p N 0).filter q := by
    rw [selected, selected, List.filter_filter]
    refine List.filter_congr fun k _ => ?_
    cases hq : q k with
    | false => rfl
    | true => rw [hqp k hq]; rfl
  rw [hfilter, take_eq_filter_iff]
  refine and_congr_right fun _ => ⟨fun h k hk hp hq => ?_, fun h pre x post hsplit hq => ?_⟩
  · exact h _ k _ (selected_split p hk hp) hq
  · have hx : x ∈ selected p N 0 := by rw [hsplit]; simp
    obtain ⟨_, hxN, hpx⟩ := (mem_selected p).1 hx
    have hle := h x hxN hpx hq
    have hnodup : (selected p N 0).Nodup := (List.nodup_range' ..).filter _
    rw [selected_split p hxN hpx] at hsplit hnodup
    obtain ⟨rfl, _⟩ : selected p x 0 = pre ∧ selected p N (x + 1) = post := by
      have hidx := congrArg (List.idxOf x) hsplit
      have h1 : x ∉ selected p x 0 := fun hm => absurd ((mem_selected p).1 hm).2.1 (lt_irrefl x)
      have h2 : x ∉ pre := by
        rw [hsplit] at hnodup
        exact fun hm => (List.nodup_append.1 hnodup).2.2 x hm x (by simp) rfl
      rw [List.idxOf_append_of_notMem h1, List.idxOf_append_of_notMem h2] at hidx
      simp only [List.idxOf_cons_self, Nat.add_zero] at hidx
      have := List.append_inj hsplit hidx
      exact ⟨this.1, by simpa using this.2⟩
    exact hle

/-! ## What each index contributes -/

variable (f : ℕ → List α) (key : α → ℕ)

theorem filter_keyed_of_notMem (hkey : ∀ k, ∀ x ∈ f k, key x = k) {k : ℕ} (ks : List ℕ) (hk : k ∉ ks) :
    (ks.flatMap f).filter (fun x => decide (key x = k)) = [] := by
  rw [List.filter_eq_nil_iff]
  intro x hx
  obtain ⟨j, hj, hxj⟩ := List.mem_flatMap.1 hx
  have hne : key x ≠ k := fun h => hk (by rw [← h, hkey j x hxj]; exact hj)
  simpa using hne

/-- the part of a list that comes from one index, when elements carry their index -/
theorem filter_keyed (hkey : ∀ k, ∀ x ∈ f k, key x = k) {k : ℕ} (ks : List ℕ) (hnd : ks.Nodup) (hk : k ∈ ks) :
    (ks.flatMap f).filter (fun x => decide (key x = k)) = f k := by
  induction ks with
  | nil => simp at hk
  | cons j ks ih =>
    rw [List.nodup_cons] at hnd
    rw [List.flatMap_cons, List.filter_append]
    rcases List.mem_cons.1 hk with rfl | hk
    · rw [filter_keyed_of_notMem f key hkey ks hnd.1, List.append_nil, List.filter_eq_self]
      exact fun x hx => by simpa using hkey k x hx
    · have hne : j ≠ k := fun h => hnd.1 (h ▸ hk)
      rw [ih hnd.2 hk, List.filter_eq_nil_iff.2, List.nil_append]
      intro x hx
      have hkx := hkey j x hx
      simpa [hkx] using hne

/-- nonempty contributions that fit into one element each have one element each -/
theorem length_eq_one_of_flatMap_le (ks : List ℕ) : (∀ k ∈ ks, 1 ≤ (f k).length) →
    (ks.flatMap f).length ≤ ks.length → ∀ k ∈ ks, (f k).length = 1 := by
  have hle : ∀ ks : List ℕ, (∀ k ∈ ks, 1 ≤ (f k).length) → ks.length ≤ (ks.flatMap f).length := by
    intro ks hpos
    induction ks with
    | nil => exact Nat.zero_le _
    | cons j ks ih =>
      rw [List.flatMap_cons, List.length_append, List.length_cons]
      have h1 := hpos j (by simp)
      have h2 := ih fun k hk => hpos k (by simp [hk])
      omega
  induction ks with
  | nil => simp
  | cons j ks ih =>
    intro hpos hlen k hk
    have hpos' : ∀ k ∈ ks, 1 ≤ (f k).length := fun k hk => hpos k (by simp [hk])
    rw [List.flatMap_cons, List.length_append, List.length_cons] at hlen
    have h1 := hpos j (by simp)
    have h2 := hle ks hpos'
    rcases List.mem_cons.1 hk with rfl | hk
    · omega
    · exact ih hpos' (by omega) k hk

end IndexScan
