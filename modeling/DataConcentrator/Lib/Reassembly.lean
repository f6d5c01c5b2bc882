/-
Cutting a stream into items while it arrives in chunks.

A cutter takes the first complete item off a buffer and is stable: bytes that arrive later do not change it.
- `drain_append`: draining a buffer, then what is left with more bytes behind it, is draining it all at once;
- `feed_eq_drain`: so the items do not depend on how the stream is cut into chunks;
- `drain_encoded`: a concatenation of encoded items drains to those items, each once and in order;
- `unconsumed_eq`: what is left of a prefix of it is the part after the last whole item, `unconsumed_le` at most an item;
- `length_le_of_room`: a buffer that never overflows bounds every item.
-/
import Mathlib.Tactic

namespace Reassembly

variable {α β : Type*}

/-- `cut` takes the first complete item off a buffer -/
structure Cutter (α β : Type*) where
  cut : List α → Option (β × List α)
  shorter : ∀ xs b rest, cut xs = some (b, rest) → rest.length < xs.length
  stable : ∀ xs ys b rest, cut xs = some (b, rest) → cut (xs ++ ys) = some (b, rest ++ ys)

namespace Cutter

variable (c : Cutter α β)

/-! ## Draining a buffer -/

/-- at most `n` items off a buffer, and what is left -/
def drainN : ℕ → List α → List β × List α
  | 0, xs => ([], xs)
  | n + 1, xs =>
    match c.cut xs with
    | none => ([], xs)
    | some (b, rest) => (b :: (drainN n rest).1, (drainN n rest).2)

/-- every complete item of a buffer, and what is left -/
def drain (xs : List α) : List β × List α := c.drainN xs.length xs

theorem drainN_enough (n : ℕ) : ∀ xs, xs.length ≤ n → c.drainN n xs = c.drain xs := by
  have hsucc : ∀ n xs, xs.length ≤ n → c.drainN (n + 1) xs = c.drainN n xs := by
    intro n
    induction n with
    | zero =>
      intro xs hxs
      cases hc : c.cut xs with
      | none => simp [drainN, hc]
      | some p =>
        have := c.shorter xs p.1 p.2 hc
        omega
    | succ n ih =>
      intro xs hxs
      rw [drainN, drainN]
      cases hc : c.cut xs with
      | none => rfl
      | some p =>
        have := c.shorter xs p.1 p.2 hc
        simp only [ih p.2 (by omega)]
  induction n with
  | zero =>
    intro xs hxs
    rw [drain, Nat.le_zero.1 hxs]
  | succ n ih =>
    intro xs hxs
    rcases Nat.lt_or_ge xs.length (n + 1) with h | h
    · rw [hsucc n xs (by omega)]
      exact ih xs (by omega)
    · rw [drain, show xs.length = n + 1 by omega]

theorem drain_none {xs : List α} (h : c.cut xs = none) : c.drain xs = ([], xs) := by
  rw [drain]
  cases xs with
  | nil => rfl
  | cons x xs => simp [drainN, h]

theorem drain_some {xs rest : List α} {b : β} (h : c.cut xs = some (b, rest)) :
    c.drain xs = (b :: (c.drain rest).1, (c.drain rest).2) := by
  have hlt := c.shorter xs b rest h
  obtain ⟨n, hn⟩ : ∃ n, xs.length = n + 1 := ⟨xs.length - 1, by omega⟩
  rw [drain, hn, drainN, h]
  simp only [c.drainN_enough n rest (by omega)]

/-- nothing complete is left -/
theorem cut_leftover (xs : List α) : c.cut (c.drain xs).2 = none := by
  induction hn : xs.length using Nat.strong_induction_on generalizing xs with
  | _ n ih =>
    cases hc : c.cut xs with
    | none => rw [c.drain_none hc]; exact hc
    | some p =>
      have hlt := c.shorter xs p.1 p.2 hc
      rw [c.drain_some hc]
      exact ih p.2.length (by omega) p.2 rfl

/-- **Draining goes on where it stopped.** -/
theorem drain_append (xs ys : List α) :
    c.drain (xs ++ ys) =
      ((c.drain xs).1 ++ (c.drain ((c.drain xs).2 ++ ys)).1, (c.drain ((c.drain xs).2 ++ ys)).2) := by
  induction hn : xs.length using Nat.strong_induction_on generalizing xs with
  | _ n ih =>
    cases hc : c.cut xs with
    | none => rw [c.drain_none hc]; rfl
    | some p =>
      obtain ⟨b, rest⟩ := p
      have hlt := c.shorter xs b rest hc
      rw [c.drain_some (c.stable xs ys b rest hc), c.drain_some hc, ih rest.length (by omega) rest rfl]
      rfl

/-! ## Chunks -/

/-- one more chunk, on the items so far and the buffer -/
def feedStep (s : List β × List α) (chunk : List α) : List β × List α :=
  (s.1 ++ (c.drain (s.2 ++ chunk)).1, (c.drain (s.2 ++ chunk)).2)

def feed (chunks : List (List α)) : List β × List α := chunks.foldl c.feedStep ([], [])

theorem feed_snoc (chunks : List (List α)) (chunk : List α) :
    c.feed (chunks ++ [chunk]) = c.feedStep (c.feed chunks) chunk := by
  simp [feed, List.foldl_append]

theorem drain_nil : c.drain [] = ([], []) := rfl

/-- **The cuts between chunks do not matter.** -/
theorem feed_eq_drain (chunks : List (List α)) : c.feed chunks = c.drain chunks.flatten := by
  induction chunks using List.reverseRecOn with
  | nil => rfl
  | append_singleton chunks chunk ih =>
    rw [feed_snoc, ih, List.flatten_append, List.flatten_singleton, drain_append]
    rfl

/-! ## Encoded items -/

/-- `enc` writes the items that satisfy `P` as the cutter finds them, and no item is complete before its last byte -/
structure Encodes (P : β → Prop) (enc : β → List α) : Prop where
  whole : ∀ b rest, P b → c.cut (enc b ++ rest) = some (b, rest)
  part : ∀ b xs ys, P b → enc b = xs ++ ys → ys ≠ [] → c.cut xs = none

variable {P : β → Prop} {enc : β → List α}

/-- **Round trip.** -/
theorem drain_encoded (h : c.Encodes P enc) (bs : List β) (hbs : ∀ b ∈ bs, P b) : c.drain (bs.flatMap enc) = (bs, []) := by
  induction bs with
  | nil => rfl
  | cons b bs ih =>
    rw [List.flatMap_cons, c.drain_some (h.whole b _ (hbs b (by simp))), ih fun d hd => hbs d (List.mem_cons_of_mem b hd)]

end Cutter

/-- the number of bytes after the last whole item among the first `n` bytes of a concatenation -/
def unconsumed : List (List α) → ℕ → ℕ
  | [], n => n
  | img :: imgs, n => if img.length ≤ n then unconsumed imgs (n - img.length) else n

theorem unconsumed_eq (c : Cutter α β) {P : β → Prop} {enc : β → List α} (h : c.Encodes P enc) (bs : List β)
    (hbs : ∀ b ∈ bs, P b) : ∀ xs ys, bs.flatMap enc = xs ++ ys →
      unconsumed (bs.map enc) xs.length = (c.drain xs).2.length := by
  induction bs with
  | nil =>
    intro xs ys hxs
    have hx : xs = [] := (List.append_eq_nil_iff.1 hxs.symm).1
    rw [hx]
    rfl
  | cons b bs ih =>
    intro xs ys hxs
    have hb := hbs b (by simp)
    rw [List.flatMap_cons] at hxs
    rw [List.map_cons, unconsumed]
    split_ifs with hlen
    · -- the first item is whole
      obtain ⟨xs', hx, hrest⟩ : ∃ xs', xs = enc b ++ xs' ∧ bs.flatMap enc = xs' ++ ys := by
        rcases List.append_eq_append_iff.1 hxs with ⟨zs, hz, hr⟩ | ⟨zs, hz, hr⟩
        · exact ⟨zs, hz, hr⟩
        · have hnil : zs = [] := by
            have := congrArg List.length hz
            rw [List.length_append] at this
            exact List.eq_nil_of_length_eq_zero (by omega)
          subst hnil
          exact ⟨[], by simpa using hz.symm, by simpa using hr.symm⟩
      rw [hx, c.drain_some (h.whole b xs' hb), List.length_append, Nat.add_sub_cancel_left]
      exact ih (fun d hd => hbs d (List.mem_cons_of_mem b hd)) xs' ys hrest
    · -- the bytes stop inside the first item
      obtain ⟨zs, hz, hne⟩ : ∃ zs, enc b = xs ++ zs ∧ zs ≠ [] := by
        rcases List.append_eq_append_iff.1 hxs with ⟨zs, hz, -⟩ | ⟨zs, hz, -⟩
        · rw [hz, List.length_append] at hlen
          omega
        · refine ⟨zs, hz, ?_⟩
          rintro rfl
          rw [hz, List.append_nil] at hlen
          omega
      rw [c.drain_none (h.part b xs zs hb hz hne)]

/-- what waits for its last bytes is shorter than an item -/
theorem unconsumed_le (imgs : List (List α)) (m : ℕ) (hm : ∀ img ∈ imgs, img.length ≤ m) : ∀ n, n ≤ imgs.flatten.length →
    unconsumed imgs n ≤ m := by
  induction imgs with
  | nil =>
    intro n hn
    exact hn.trans (Nat.zero_le m)
  | cons img imgs ih =>
    intro n hn
    rw [List.flatten_cons, List.length_append] at hn
    rw [unconsumed]
    split_ifs with hlen
    · apply ih
      · exact fun i hi => hm i (List.mem_cons_of_mem img hi)
      · exact Nat.sub_le_iff_le_add'.2 hn
    · exact (not_le.1 hlen).le.trans (hm img List.mem_cons_self)

/-! ## Items that pass through a bounded buffer -/

/-- the whole items among the first `n` bytes of a concatenation -/
def wholes : List (List α) → ℕ → List (List α)
  | [], _ => []
  | img :: imgs, n => if img.length ≤ n then img :: wholes imgs (n - img.length) else []

theorem length_of_mem_wholes (imgs : List (List α)) : ∀ n, ∀ img ∈ wholes imgs n, img.length ≤ n := by
  induction imgs with
  | nil => intro n img h; simp [wholes] at h
  | cons i imgs ih =>
    intro n img h
    rw [wholes] at h
    split_ifs at h with hi
    · rcases List.mem_cons.1 h with rfl | h
      · exact hi
      · have := ih _ img h
        omega
    · simp at h

/-- an item completed by `d` more bytes fits in the bytes that were waiting and these -/
theorem wholes_step (imgs : List (List α)) (d : ℕ) : ∀ n, ∀ img ∈ wholes imgs (n + d),
    img ∈ wholes imgs n ∨ img.length ≤ unconsumed imgs n + d := by
  induction imgs with
  | nil => intro n img h; simp [wholes] at h
  | cons i imgs ih =>
    intro n img h
    rw [wholes] at h
    split_ifs at h with hnd
    · rw [wholes, unconsumed]
      split_ifs with hn
      · rcases List.mem_cons.1 h with rfl | h
        · exact Or.inl (by simp)
        · rw [show n + d - i.length = n - i.length + d by omega] at h
          rcases ih _ img h with h | h
          · exact Or.inl (List.mem_cons_of_mem i h)
          · exact Or.inr h
      · right
        rcases List.mem_cons.1 h with rfl | h
        · exact hnd
        · have := length_of_mem_wholes imgs _ img h
          omega
    · simp at h

theorem wholes_all (imgs : List (List α)) : wholes imgs imgs.flatten.length = imgs := by
  induction imgs with
  | nil => rfl
  | cons i imgs ih =>
    rw [wholes, List.flatten_cons, List.length_append, if_pos (by omega), Nat.add_sub_cancel_left, ih]

/-- if the waiting bytes never pass `cap`, neither does any item -/
theorem length_le_of_room (imgs chunks : List (List α)) (cap : ℕ) (hs : chunks.flatten = imgs.flatten)
    (hroom : ∀ pre c post, chunks = pre ++ c :: post → unconsumed imgs pre.flatten.length + c.length ≤ cap) :
    ∀ img ∈ imgs, img.length ≤ cap := by
  have hpre : ∀ pre post, chunks = pre ++ post → ∀ img ∈ wholes imgs pre.flatten.length, img.length ≤ cap := by
    intro pre
    induction pre using List.reverseRecOn with
    | nil =>
      intro post _ img h
      have := length_of_mem_wholes imgs 0 img h
      omega
    | append_singleton pre c ih =>
      intro post hp img h
      rw [List.append_assoc] at hp
      rw [List.flatten_append, List.flatten_singleton, List.length_append] at h
      rcases wholes_step imgs c.length _ img h with h | h
      · exact ih _ hp img h
      · have := hroom pre c post hp
        omega
  have hall := hpre chunks [] (by simp)
  rw [hs, wholes_all] at hall
  exact hall

end Reassembly
