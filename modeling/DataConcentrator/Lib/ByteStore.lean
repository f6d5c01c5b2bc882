/-
A flat byte-addressed store (EEPROM, flash): writes, reads and what a write leaves alone.

- `read_write_same`: a read of exactly the written range returns the written bytes;
- `read_write_frame`: a write outside a range does not change what is read there;
- `writes_read`: after any run of labelled writes, each to the region of its label, a region that no other written
  label overlaps holds the last bytes written under its own label.
-/
import Mathlib.Tactic

namespace ByteStore

variable {α : Type*}

/-! ## Regions -/

/-- the half-open range `[base, base + size)` -/
structure Region where
  base : ℕ
  size : ℕ
deriving DecidableEq, Repr

namespace Region

def Contains (r : Region) (a : ℕ) : Prop := r.base ≤ a ∧ a < r.base + r.size

def Disjoint (r s : Region) : Prop := r.base + r.size ≤ s.base ∨ s.base + s.size ≤ r.base

instance (r s : Region) : Decidable (r.Disjoint s) := by unfold Disjoint; infer_instance

theorem Disjoint.symm {r s : Region} (h : r.Disjoint s) : s.Disjoint r := Or.symm h

/-- parts of disjoint regions are disjoint -/
theorem Disjoint.mono {r s r' s' : Region} (h : r.Disjoint s) (hr : r.base ≤ r'.base)
    (hr' : r'.base + r'.size ≤ r.base + r.size) (hs : s.base ≤ s'.base)
    (hs' : s'.base + s'.size ≤ s.base + s.size) : r'.Disjoint s' := by
  unfold Disjoint at h ⊢
  rcases h with h | h
  · exact Or.inl (by omega)
  · exact Or.inr (by omega)

theorem not_contains_of_disjoint {r s : Region} (h : r.Disjoint s) {a : ℕ} (ha : r.Contains a) :
    ¬ s.Contains a := by
  unfold Disjoint at h
  unfold Contains at ha ⊢
  omega

theorem not_contains_empty (b a : ℕ) : ¬ Contains ⟨b, 0⟩ a := fun h => absurd h.1 (Nat.not_le.2 h.2)

end Region

/-! ## Writes and reads -/

/-- store `bs` from address `a` on -/
def write (m : ℕ → α) (a : ℕ) (bs : List α) : ℕ → α :=
  fun i => if a ≤ i then (bs[i - a]?).getD (m i) else m i

/-- the `n` cells from address `a` on -/
def read (m : ℕ → α) (a n : ℕ) : List α := (List.range n).map fun i => m (a + i)

@[simp] theorem length_read (m : ℕ → α) (a n : ℕ) : (read m a n).length = n := by simp [read]

theorem write_of_lt (m : ℕ → α) {a i : ℕ} (bs : List α) (h : i < a) : write m a bs i = m i := by
  simp [write, Nat.not_le.2 h]

theorem write_of_ge (m : ℕ → α) {a i : ℕ} (bs : List α) (h : a + bs.length ≤ i) : write m a bs i = m i := by
  have : bs[i - a]? = none := List.getElem?_eq_none (by omega)
  simp [write, this]

theorem write_at (m : ℕ → α) (a i : ℕ) (bs : List α) (h : i < bs.length) : write m a bs (a + i) = bs[i] := by
  simp [write, h]

@[simp] theorem write_nil (m : ℕ → α) (a : ℕ) : write m a [] = m := by
  funext i
  simp [write]

/-- a read of exactly the written range returns the written bytes -/
theorem read_write_same (m : ℕ → α) (a : ℕ) (bs : List α) : read (write m a bs) a bs.length = bs := by
  apply List.ext_getElem
  · simp
  · intro i h1 h2
    simp [read, write_at m a i bs h2]

/-- a range reads as some bytes when each of its cells does -/
theorem read_eq_iff {m : ℕ → α} {a n : ℕ} {bs : List α} (h : bs.length = n) :
    read m a n = bs ↔ ∀ k, (hk : k < bs.length) → m (a + k) = bs[k] := by
  constructor
  · rintro hread k hk
    have hget := List.getElem_of_eq hread (i := k) (by rw [length_read]; omega)
    rw [← hget]
    simp [read]
  · intro hall
    apply List.ext_getElem
    · rw [length_read, h]
    · intro k _ hk
      rw [← hall k hk]
      simp [read]

/-- **Frame rule.** A write outside a range does not change what is read there -/
theorem read_write_frame (m : ℕ → α) (a b n : ℕ) (bs : List α) (h : a + bs.length ≤ b ∨ b + n ≤ a) :
    read (write m a bs) b n = read m b n := by
  apply List.ext_getElem
  · simp
  · intro i h1 h2
    simp only [length_read] at h1
    simp only [read, List.getElem_map, List.getElem_range]
    rcases h with h | h
    · exact write_of_ge m bs (by omega)
    · exact write_of_lt m bs (by omega)

/-- two adjacent writes are one -/
theorem write_append (m : ℕ → α) (a : ℕ) (xs ys : List α) :
    write (write m a xs) (a + xs.length) ys = write m a (xs ++ ys) := by
  funext i
  rcases Nat.lt_or_ge i (a + xs.length) with h | h
  · rw [write_of_lt _ _ h]
    by_cases ha : a ≤ i
    · simp only [write, ha, if_true]
      rw [List.getElem?_append_left (by omega)]
    · rw [write_of_lt _ _ (by omega), write_of_lt _ _ (by omega)]
  · have hi : i - (a + xs.length) = i - a - xs.length := by omega
    simp only [write, h, show a ≤ i by omega, if_true, hi]
    rw [List.getElem?_append_right (by omega), List.getElem?_eq_none (l := xs) (by omega), Option.getD_none]

/-- writes to ranges that do not meet commute -/
theorem write_comm (m : ℕ → α) (a b : ℕ) (xs ys : List α) (h : a + xs.length ≤ b) :
    write (write m b ys) a xs = write (write m a xs) b ys := by
  funext i
  rcases Nat.lt_or_ge i b with hi | hi
  · rw [write_of_lt (write m a xs) _ hi]
    simp only [write, Nat.not_le.2 hi, if_false]
  · rw [write_of_ge _ _ (by omega)]
    simp only [write, hi, if_true]
    rw [List.getElem?_eq_none (l := xs) (by omega)]
    simp

/-- a write replaces an earlier one of the same range -/
theorem write_over (m : ℕ → α) (a : ℕ) (old new : List α) (h : new.length = old.length) :
    write (write m a old) a new = write m a new := by
  funext i
  rcases Nat.lt_or_ge i (a + old.length) with hi | hi
  · by_cases ha : a ≤ i
    · have hn : i - a < new.length := by omega
      simp [write, ha, hn]
    · rw [write_of_lt _ _ (by omega), write_of_lt _ _ (by omega), write_of_lt _ _ (by omega)]
  · rw [write_of_ge _ _ (by omega), write_of_ge _ _ hi, write_of_ge _ _ (by omega)]

/-- a write that covers the range of an earlier one replaces it -/
theorem write_cover (m : ℕ → α) {a b : ℕ} {xs ys : List α} (hle : b ≤ a) (hend : a + xs.length ≤ b + ys.length) :
    write (write m a xs) b ys = write m b ys := by
  funext i
  rcases Nat.lt_or_ge i b with hi | hi
  · rw [write_of_lt _ _ hi, write_of_lt _ _ (by omega), write_of_lt _ _ hi]
  · rcases Nat.lt_or_ge i (b + ys.length) with hin | hout
    · obtain ⟨k, rfl⟩ := Nat.exists_eq_add_of_le hi
      rw [write_at _ b k ys (by omega), write_at _ b k ys (by omega)]
    · rw [write_of_ge _ _ hout, write_of_ge _ _ (by omega), write_of_ge _ _ hout]

/-- a write over the middle of what was written replaces that part -/
theorem write_patch (m : ℕ → α) (a : ℕ) (xs old new ys : List α) (h : new.length = old.length) :
    write (write m a (xs ++ old ++ ys)) (a + xs.length) new = write m a (xs ++ new ++ ys) := by
  rw [← write_append m a (xs ++ old) ys, ← write_append m a (xs ++ new) ys, ← write_append m a xs old,
    ← write_append m a xs new, write_comm _ _ _ _ _ (by simp; omega), write_over _ _ _ _ h]
  simp [h]

/-- a read of the first part of what was written -/
theorem read_write_prefix (m : ℕ → α) (a : ℕ) (xs ys : List α) : read (write m a (xs ++ ys)) a xs.length = xs := by
  apply List.ext_getElem
  · simp
  · intro i h1 h2
    simp [read, write_at m a i (xs ++ ys) (by rw [List.length_append]; omega), h2]

/-- a write of what is there changes nothing -/
theorem write_read_self (m : ℕ → α) (a n : ℕ) : write m a (read m a n) = m := by
  funext i
  rcases Nat.lt_or_ge i a with hi | hi
  · exact write_of_lt m _ hi
  · rcases Nat.lt_or_ge i (a + n) with hin | hout
    · obtain ⟨k, rfl⟩ := Nat.exists_eq_add_of_le hi
      rw [write_at m a k _ (by rw [length_read]; omega)]
      simp [read]
    · exact write_of_ge m _ (by rw [length_read]; exact hout)

/-- reading two adjacent ranges -/
theorem read_add (m : ℕ → α) (a n k : ℕ) : read m a (n + k) = read m a n ++ read m (a + n) k := by
  simp [read, List.range_add, Function.comp_def, Nat.add_assoc]

/-- a part of a range that was read -/
theorem read_slice (m : ℕ → α) (a : ℕ) {n i k : ℕ} (h : i + k ≤ n) :
    ((read m a n).drop i).take k = read m (a + i) k := by
  obtain ⟨l, rfl⟩ : ∃ l, n = i + (k + l) := ⟨n - i - k, by omega⟩
  rw [read_add, List.drop_left' (length_read m a i), read_add, List.take_left' (length_read m (a + i) k)]

/-! ## Buffers of a fixed size -/

/-- a write to a buffer of `size` cells; `none` is a write behind its end -/
def put (size : ℕ) (m : ℕ → α) (a : ℕ) (bs : List α) : Option (ℕ → α) :=
  if a + bs.length ≤ size then some (write m a bs) else none

theorem put_eq_some {size a : ℕ} (m : ℕ → α) {bs : List α} (h : a + bs.length ≤ size) :
    put size m a bs = some (write m a bs) := if_pos h

theorem put_eq_none {size a : ℕ} (m : ℕ → α) {bs : List α} (h : size < a + bs.length) : put size m a bs = none :=
  if_neg (Nat.not_le.2 h)

/-- two adjacent writes are one -/
theorem put_append (size : ℕ) (m : ℕ → α) (a : ℕ) (xs ys : List α) :
    ((put size m a xs).bind fun m => put size m (a + xs.length) ys) = put size m a (xs ++ ys) := by
  by_cases hx : a + xs.length ≤ size
  · rw [put_eq_some m hx, Option.bind_some, put, put, List.length_append, ← Nat.add_assoc, write_append]
  · rw [put_eq_none m (Nat.not_le.1 hx), put_eq_none m (by rw [List.length_append]; omega), Option.bind_none]

/-- what follows a write sees the written buffer only -/
theorem put_congr {β : Type*} {size a : ℕ} {m : ℕ → α} {xs : List α} {g g' : (ℕ → α) → Option β}
    (h : g (write m a xs) = g' (write m a xs)) : (put size m a xs).bind g = (put size m a xs).bind g' := by
  unfold put
  split_ifs
  · exact h
  · rfl

theorem put_bind {β : Type*} {size a b : ℕ} (m : ℕ → α) (xs ys : List α) (g : (ℕ → α) → Option β)
    (h : a + xs.length = b) :
    ((put size m a xs).bind fun m => (put size m b ys).bind g) = (put size m a (xs ++ ys)).bind g := by
  rw [← put_append, h]
  cases put size m a xs <;> rfl

theorem put_map {β : Type*} {size a b : ℕ} (m : ℕ → α) (xs ys : List α) (g : (ℕ → α) → β) (h : a + xs.length = b) :
    ((put size m a xs).bind fun m => (put size m b ys).map g) = (put size m a (xs ++ ys)).map g := by
  rw [← put_append, h]
  cases put size m a xs <;> rfl

/-! ## Labelled writes -/

section Labelled

variable {ι : Type*} [DecidableEq ι] (region : ι → Region)

/-- a run of writes, each at the start of its label's region -/
def writes (m : ℕ → α) (ws : List (ι × List α)) : ℕ → α :=
  ws.foldl (fun m w => write m (region w.1).base w.2) m

/-- the bytes most recently written under label `i` -/
def lastWrite (ws : List (ι × List α)) (i : ι) : Option (List α) :=
  ws.foldl (fun last w => if w.1 = i then some w.2 else last) none

omit [DecidableEq ι] in
theorem writes_snoc (m : ℕ → α) (ws : List (ι × List α)) (w : ι × List α) :
    writes region m (ws ++ [w]) = write (writes region m ws) (region w.1).base w.2 := by
  simp [writes, List.foldl_append]

theorem lastWrite_snoc (ws : List (ι × List α)) (w : ι × List α) (i : ι) :
    lastWrite (ws ++ [w]) i = if w.1 = i then some w.2 else lastWrite ws i := by
  simp [lastWrite, List.foldl_append]

/-- what was last written under a label was written under it -/
theorem mem_of_lastWrite {ws : List (ι × List α)} {i : ι} {bs : List α} (h : lastWrite ws i = some bs) :
    (i, bs) ∈ ws := by
  induction ws using List.reverseRecOn with
  | nil => simp [lastWrite] at h
  | append_singleton ws w ih =>
    rw [lastWrite_snoc] at h
    split_ifs at h with hw
    · simp only [Option.some.injEq] at h
      obtain ⟨j, cs⟩ := w
      simp only at hw h
      subst hw h
      simp
    · exact List.mem_append_left _ (ih h)

/-- **Non-interference.** If every write fits its label's region and the regions of different written labels are
disjoint, each written region holds the bytes last written under its label. -/
theorem writes_read (m : ℕ → α) (ws : List (ι × List α)) (hlen : ∀ w ∈ ws, w.2.length = (region w.1).size)
    (hdis : ∀ v ∈ ws, ∀ w ∈ ws, v.1 ≠ w.1 → (region v.1).Disjoint (region w.1))
    (i : ι) (bs : List α) (hi : lastWrite ws i = some bs) :
    read (writes region m ws) (region i).base (region i).size = bs := by
  induction ws using List.reverseRecOn with
  | nil => simp [lastWrite] at hi
  | append_singleton ws w ih =>
    have hw : w.2.length = (region w.1).size := hlen w (by simp)
    rw [lastWrite_snoc] at hi
    rw [writes_snoc]
    split_ifs at hi with hwi
    · subst hwi
      simp only [Option.some.injEq] at hi
      subst hi
      rw [← hw]
      exact read_write_same _ _ _
    · have hmem : (i, bs) ∈ ws := mem_of_lastWrite hi
      have hd := hdis w (by simp) (i, bs) (List.mem_append_left _ hmem) hwi
      rw [read_write_frame]
      · exact ih (fun v hv => hlen v (List.mem_append_left _ hv))
          (fun v hv u hu => hdis v (List.mem_append_left _ hv) u (List.mem_append_left _ hu)) hi
      · rw [hw]; exact hd

end Labelled

end ByteStore
