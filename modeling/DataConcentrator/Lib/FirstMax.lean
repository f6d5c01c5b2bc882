/-
The first element of greatest key, `List.argmax`, as a loop over an array finds it.

- `scan_eq_argmax`: keeping the greatest key and its index over a list gives its first maximum;
- `argmax_flatMap_replicate`: entries stored several times in a row do not change the first maximum;
- `foldlM_append`: nested loops that append to an array of bounded size.
-/
import Mathlib.Data.List.MinMax
import Mathlib.Tactic

namespace FirstMax

variable {α β κ : Type*} [LinearOrder κ]

/-! ## Scanning -/

/-- `if (max < key(x[i])) { max = key(x[i]); index = i; }` -/
def scanStep (key : α → κ) (d : α) (xs : List α) (s : κ × ℕ) (i : ℕ) : κ × ℕ :=
  if s.1 < key (xs.getD i d) then (key (xs.getD i d), i) else s

/-- the loop from the first element on -/
def scan (key : α → κ) (d : α) (xs : List α) (k : ℕ) : κ × ℕ :=
  (List.range k).foldl (scanStep key d xs) (key (xs.getD 0 d), 0)

/-- after `k + 1` rounds the index is that of the first maximum of the first `k + 1` elements -/
theorem scan_spec (key : α → κ) (d : α) (xs : List α) (k : ℕ) (hk : k < xs.length) :
    (scan key d xs (k + 1)).1 = key (xs.getD (scan key d xs (k + 1)).2 d) ∧
      (xs.take (k + 1)).argmax key = some (xs.getD (scan key d xs (k + 1)).2 d) := by
  induction k with
  | zero =>
    cases xs with
    | nil => exact absurd hk (Nat.lt_irrefl 0)
    | cons x xs =>
      have hscan : scan key d (x :: xs) 1 = (key x, 0) := by simp [scan, scanStep]
      rw [hscan]
      exact ⟨rfl, List.argmax_singleton⟩
  | succ k ih =>
    obtain ⟨hmax, harg⟩ := ih (by omega)
    have hget : xs.getD (k + 1) d = xs[k + 1] := by simp [hk]
    have htake : xs.take (k + 1 + 1) = xs.take (k + 1) ++ [xs.getD (k + 1) d] := by
      rw [hget, List.take_add_one, List.getElem?_eq_getElem hk]
      rfl
    have hscan : scan key d xs (k + 1 + 1) = scanStep key d xs (scan key d xs (k + 1)) (k + 1) := by
      rw [scan, List.range_succ, List.foldl_append]
      rfl
    rw [htake, List.argmax_concat, harg, hscan, scanStep, hmax]
    dsimp only
    split_ifs with h
    · exact ⟨rfl, rfl⟩
    · exact ⟨hmax, rfl⟩

theorem scan_eq_argmax (key : α → κ) (d : α) (xs : List α) (hxs : xs ≠ []) :
    xs.argmax key = some (xs.getD (scan key d xs xs.length).2 d) := by
  obtain ⟨n, hn⟩ : ∃ n, xs.length = n + 1 := ⟨xs.length - 1, by have := List.length_pos_iff.2 hxs; omega⟩
  have h := (scan_spec key d xs n (by omega)).2
  rwa [← hn, List.take_length] at h

/-! ## Repeated entries -/

theorem argmax_append_congr (key : α → κ) {l l' : List α} (h : l.argmax key = l'.argmax key) (a : α) :
    (l ++ [a]).argmax key = (l' ++ [a]).argmax key := by
  rw [List.argmax_concat, List.argmax_concat, h]

theorem argmax_append_replicate (key : α → κ) (l : List α) (a : α) (n : ℕ) :
    (l ++ List.replicate (n + 1) a).argmax key = (l ++ [a]).argmax key := by
  induction n with
  | zero => rfl
  | succ n ih =>
    rw [List.replicate_succ', ← List.append_assoc, List.argmax_concat, ih]
    cases h : (l ++ [a]).argmax key with
    | none => simp at h
    | some c =>
      have hle : key a ≤ key c := List.le_of_mem_argmax (List.mem_append_right l List.mem_cons_self) h
      exact if_neg (not_lt.2 hle)

theorem argmax_flatMap_replicate (key : β → κ) (n : α → ℕ) (f : α → β) (l : List α) :
    (l.flatMap fun x => List.replicate (n x) (f x)).argmax key =
      ((l.filter fun x => decide (n x ≠ 0)).map f).argmax key := by
  induction l using List.reverseRecOn with
  | nil => rfl
  | append_singleton l x ih =>
    rw [List.flatMap_append, List.filter_append, List.map_append, List.flatMap_singleton]
    cases hn : n x with
    | zero =>
      have hfilter : [x].filter (fun x => decide (n x ≠ 0)) = [] := by simp [hn]
      rw [hfilter, List.replicate_zero, List.append_nil, List.map_nil, List.append_nil]
      exact ih
    | succ m =>
      have hfilter : [x].filter (fun x => decide (n x ≠ 0)) = [x] := by simp [hn]
      rw [hfilter, argmax_append_replicate]
      exact argmax_append_congr key ih (f x)

/-! ## Appending to a bounded array -/

/-- entries appended to an array of `cap` entries; `none` past its end -/
def append (cap : ℕ) (ps cs : List α) : Option (List α) :=
  if ps.length + cs.length ≤ cap then some (ps ++ cs) else none

theorem foldlM_append {γ : Type*} {cap : ℕ} {body : List α → γ → Option (List α)} {g : γ → List α}
    (hbody : ∀ ps x, ps.length ≤ cap → body ps x = append cap ps (g x)) (xs : List γ) :
    ∀ ps, ps.length ≤ cap → xs.foldlM body ps = append cap ps (xs.flatMap g) := by
  induction xs with
  | nil =>
    intro ps hps
    rw [List.foldlM_nil, append, List.flatMap_nil, if_pos (by simpa using hps), List.append_nil]
    rfl
  | cons x xs ih =>
    intro ps hps
    rw [List.foldlM_cons, hbody ps x hps, List.flatMap_cons, append]
    split_ifs with h
    · change xs.foldlM body (ps ++ g x) = _
      rw [ih _ (by simpa using h), append, append, List.length_append, List.length_append, List.append_assoc,
        Nat.add_assoc]
    · have hlong : ¬ ps.length + (g x ++ xs.flatMap g).length ≤ cap := by
        rw [List.length_append]
        omega
      rw [append, if_neg hlong]
      rfl

end FirstMax
