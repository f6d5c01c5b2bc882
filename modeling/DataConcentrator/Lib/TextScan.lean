/-
Reading a text field by field into a buffer of a fixed size.

- `scan`: the field before the next element that ends it, and the rest from that element on;
- `scan_text`, `scan_long`: what it gives where the field fits, and where it is too long;
- `scan_eq_some_iff`: when there is a field; `Fields`, `Records`: fields, and records of them, one behind the other;
- `overlay`: what the buffer holds after a field was copied to it;
- `count_intercalate`: separators between fields that hold none are one fewer than the fields;
- `length_intercalate_lt`: the room fields of a bounded length take with their separators;
- `flatten_separated`: printing a separator after every field but the last;
- `filter_packed`: a list whose elements of a kind come first.
-/
import Mathlib.Data.List.TakeWhile
import Mathlib.Tactic

namespace TextScan

variable {α : Type*}

/-- the field, and what follows from the element that ends it on; `none` where nothing ends it, or where the field and
a terminator do not fit in `size` places -/
def scan (size : ℕ) (ends : α → Bool) (msg : List α) : Option (List α × List α) :=
  let text := msg.takeWhile fun b => !ends b
  let rest := msg.dropWhile fun b => !ends b
  if rest.isEmpty || decide (size ≤ text.length) then none else some (text, rest)

section Scan

variable {size : ℕ} {ends : α → Bool} {text rest : List α} {b : α}

/-- a text without an end in it, up to one -/
theorem takeWhile_upTo (hb : ends b = true) (htext : ∀ x ∈ text, ends x = false) :
    (text ++ b :: rest).takeWhile (fun b => !ends b) = text := by
  have hplain : ∀ x ∈ text, (!ends x) = true := fun x hx => by rw [htext x hx]; rfl
  rw [List.takeWhile_append_of_pos hplain, List.takeWhile_cons_of_neg (by simp [hb]), List.append_nil]

theorem dropWhile_upTo (hb : ends b = true) (htext : ∀ x ∈ text, ends x = false) :
    (text ++ b :: rest).dropWhile (fun b => !ends b) = b :: rest := by
  have hplain : ∀ x ∈ text, (!ends x) = true := fun x hx => by rw [htext x hx]; rfl
  rw [List.dropWhile_append_of_pos hplain, List.dropWhile_cons_of_neg (by simp [hb])]

theorem scan_upTo (hb : ends b = true) (htext : ∀ x ∈ text, ends x = false) :
    scan size ends (text ++ b :: rest) = if text.length < size then some (text, b :: rest) else none := by
  unfold scan
  simp only [takeWhile_upTo hb htext, dropWhile_upTo hb htext, List.isEmpty_cons, Bool.false_or, decide_eq_true_eq]
  by_cases hlen : text.length < size
  · rw [if_neg (Nat.not_le.2 hlen), if_pos hlen]
  · rw [if_pos (Nat.not_lt.1 hlen), if_neg hlen]

/-- a field that fits -/
theorem scan_text (hb : ends b = true) (htext : ∀ x ∈ text, ends x = false) (hlen : text.length < size) :
    scan size ends (text ++ b :: rest) = some (text, b :: rest) := by
  rw [scan_upTo hb htext, if_pos hlen]

/-- a field that runs past the buffer -/
theorem scan_long {msg : List α} (htext : ∀ x ∈ text, ends x = false) (hlen : size ≤ text.length) :
    scan size ends (text ++ msg) = none := by
  have hplain : ∀ x ∈ text, (!ends x) = true := fun x hx => by rw [htext x hx]; rfl
  have hle : size ≤ ((text ++ msg).takeWhile fun b => !ends b).length := by
    rw [List.takeWhile_append_of_pos hplain, List.length_append]
    omega
  unfold scan
  simp only [decide_eq_true hle, Bool.or_true, if_true]

end Scan

/-! ## What can be read -/

/-- a field with nothing in it that ends it, and room for a terminator behind it -/
structure Fits (size : ℕ) (ends : α → Bool) (text : List α) : Prop where
  plain : ∀ x ∈ text, ends x = false
  length : text.length < size

/-- a field at the front of `msg`, up to `b` -/
theorem scan_eq_some_iff {size : ℕ} {ends : α → Bool} {msg text rest : List α} {b : α} :
    scan size ends msg = some (text, b :: rest) ↔ msg = text ++ b :: rest ∧ Fits size ends text ∧ ends b = true := by
  constructor
  · intro h
    unfold scan at h
    simp only at h
    split_ifs at h with hno
    obtain ⟨htext, hrest⟩ := Prod.mk.inj (Option.some.inj h)
    rw [Bool.or_eq_true, not_or, decide_eq_true_eq, Nat.not_le] at hno
    refine ⟨?_, ⟨fun x hx => ?_, htext ▸ hno.2⟩, ?_⟩
    · rw [← htext, ← hrest, List.takeWhile_append_dropWhile]
    · rw [← htext] at hx
      simpa using List.mem_takeWhile_imp hx
    · have hhead := List.head?_dropWhile_not (fun b => !ends b) msg
      rw [hrest] at hhead
      simpa using hhead
  · rintro ⟨rfl, hfits, hb⟩
    exact scan_text hb hfits.plain hfits.length

theorem scan_isSome {size : ℕ} {ends : α → Bool} {msg text rest : List α} (h : scan size ends msg = some (text, rest)) :
    ∃ b more, rest = b :: more := by
  unfold scan at h
  simp only at h
  split_ifs at h with hno
  obtain ⟨-, hrest⟩ := Prod.mk.inj (Option.some.inj h)
  rw [hrest, Bool.or_eq_true, not_or] at hno
  cases rest with
  | nil => exact absurd rfl hno.1
  | cons b more => exact ⟨b, more, rfl⟩

/-- fields at the front of `msg`, each up to what ends it, and what follows them -/
def Fields (size : ℕ) : List (α → Bool) → List α → List α → Prop
  | [], msg, rest => msg = rest
  | ends :: more, msg, rest =>
    ∃ text b after, msg = text ++ b :: after ∧ Fits size ends text ∧ ends b = true ∧ Fields size more after rest

/-- `n` records of such fields, one behind the other -/
def Records (size : ℕ) (fields : List (α → Bool)) : ℕ → List α → List α → Prop
  | 0, msg, rest => msg = rest
  | n + 1, msg, rest => ∃ after, Fields size fields msg after ∧ Records size fields n after rest

/-- the buffer after a field and its terminator -/
def overlay (stop : α) (text old : List α) : List α := text ++ stop :: old.drop (text.length + 1)

/-! ## Separators -/

theorem count_intercalate [DecidableEq α] {sep : α} {text : List α} {texts : List (List α)}
    (h : ∀ t ∈ text :: texts, sep ∉ t) : ([sep].intercalate (text :: texts)).count sep = texts.length := by
  induction texts generalizing text with
  | nil =>
    rw [List.intercalate_singleton, List.count_eq_zero_of_not_mem (h text List.mem_cons_self)]
    rfl
  | cons next texts ih =>
    rw [List.intercalate_cons_cons, List.append_assoc, List.singleton_append, List.count_append, List.count_cons_self,
      ih fun t ht => h t (List.mem_cons_of_mem text ht), List.count_eq_zero_of_not_mem (h text List.mem_cons_self),
      Nat.zero_add]
    rfl

/-- fields of at most `n` elements with their separators -/
theorem length_intercalate_lt (sep : α) {n : ℕ} {text : List α} {texts : List (List α)}
    (h : ∀ t ∈ text :: texts, t.length ≤ n) :
    ([sep].intercalate (text :: texts)).length < (n + 1) * (texts.length + 1) := by
  induction texts generalizing text with
  | nil =>
    have htext := h text List.mem_cons_self
    rw [List.intercalate_singleton, List.length_nil]
    omega
  | cons next texts ih =>
    have htext := h text List.mem_cons_self
    have hmore := ih fun t ht => h t (List.mem_cons_of_mem text ht)
    rw [List.intercalate_cons_cons, List.length_append, List.length_append, List.length_singleton, List.length_cons,
      Nat.mul_succ (n + 1) (texts.length + 1)]
    omega

theorem mem_intercalate {sep x : α} {texts : List (List α)} (h : x ∈ [sep].intercalate texts) :
    x = sep ∨ ∃ t ∈ texts, x ∈ t := by
  induction texts with
  | nil => cases h
  | cons text texts ih =>
    cases texts with
    | nil =>
      rw [List.intercalate_singleton] at h
      exact .inr ⟨text, List.mem_cons_self, h⟩
    | cons next texts =>
      rw [List.intercalate_cons_cons, List.append_assoc, List.singleton_append] at h
      rcases List.mem_append.1 h with h | h
      · exact .inr ⟨text, List.mem_cons_self, h⟩
      · rcases List.mem_cons.1 h with h | h
        · exact .inl h
        · rcases ih h with h | ⟨t, ht, hx⟩
          · exact .inl h
          · exact .inr ⟨t, List.mem_cons_of_mem text ht, hx⟩

/-- pieces with a separator after each but the last of `n` -/
theorem flatten_separated (sep : α) (f : ℕ → List (List α)) {n : ℕ} (m : ℕ) : ∀ k, k + m = n →
    ((List.range' k m).flatMap fun j => f j ++ if j < n - 1 then [[sep]] else []).flatten =
      [sep].intercalate ((List.range' k m).map fun j => (f j).flatten) := by
  induction m with
  | zero => exact fun k _ => rfl
  | succ m ih =>
    intro k hk
    rw [List.range'_succ, List.flatMap_cons, List.flatten_append, ih (k + 1) (by omega), List.map_cons]
    cases m with
    | zero =>
      have hlast : ¬ k < n - 1 := by omega
      rw [if_neg hlast, List.append_nil, List.range'_zero, List.map_nil, List.intercalate_nil, List.append_nil,
        List.intercalate_singleton]
    | succ m =>
      have hmore : k < n - 1 := by omega
      rw [if_pos hmore, List.flatten_append, List.flatten_singleton, List.range'_succ, List.map_cons,
        List.intercalate_cons_cons]

/-! ## Packed lists -/

theorem filter_packed {p : α → Bool} {xs : List α} {m : ℕ} (h : ∀ i (hi : i < xs.length), p xs[i] = true ↔ i < m) :
    xs.filter p = xs.take m := by
  have hfirst : (xs.take m).filter p = xs.take m := by
    refine List.filter_eq_self.2 fun x hx => ?_
    obtain ⟨i, hi, rfl⟩ := List.mem_take_iff_getElem.1 hx
    exact (h i (by omega)).2 (by omega)
  have hrest : (xs.drop m).filter p = [] := by
    refine List.filter_eq_nil_iff.2 fun x hx => ?_
    obtain ⟨i, hi, rfl⟩ := List.mem_drop_iff_getElem.1 hx
    exact fun hp => absurd ((h (m + i) (by omega)).1 hp) (by omega)
  calc xs.filter p = (xs.take m ++ xs.drop m).filter p := by rw [List.take_append_drop]
    _ = xs.take m := by rw [List.filter_append, hfirst, hrest, List.append_nil]

end TextScan
