/-
Stores to the cells of a table, one after the other; each changes one cell, and may be refused by its place.

- `putAll_other`: a cell that no store is for keeps its content;
- `putAll_of_mem`: where no two stores are for one cell, a cell holds what its store made of its content;
- `putAll_without`: a store is for its own cell only;
- `storeAll_eq`: all stores are made, if none is for a place outside;
- `findIdx_key_iff`, `nodup_rows`: the rows of a table and their cells.
-/
import Mathlib.Data.List.Nodup
import Mathlib.Logic.Function.Basic

namespace Puts

variable {κ α V : Type*} [DecidableEq κ] (place : α → κ) (put : α → V → V)

/-- one store -/
def putOne (T : κ → V) (a : α) : κ → V := Function.update T (place a) (put a (T (place a)))

def putAll (T : κ → V) (as : List α) : κ → V := as.foldl (putOne place put) T

theorem putAll_cons (T : κ → V) (a : α) (as : List α) :
    putAll place put T (a :: as) = putAll place put (putOne place put T a) as := rfl

theorem putOne_other {T : κ → V} {a : α} {p : κ} (h : place a ≠ p) : putOne place put T a p = T p :=
  Function.update_of_ne (Ne.symm h) _ _

theorem putAll_other {as : List α} {p : κ} (h : ∀ a ∈ as, place a ≠ p) :
    ∀ T : κ → V, putAll place put T as p = T p := by
  induction as with
  | nil => exact fun _ => rfl
  | cons a as ih =>
    intro T
    rw [putAll_cons, ih fun b hb => h b (List.mem_cons_of_mem a hb), putOne_other place put (h a List.mem_cons_self)]

/-- **One store for each cell.** -/
theorem putAll_of_mem {as : List α} (hnodup : (as.map place).Nodup) {a : α} (ha : a ∈ as) :
    ∀ T : κ → V, putAll place put T as (place a) = put a (T (place a)) := by
  induction as with
  | nil => cases ha
  | cons b as ih =>
    intro T
    rw [List.map_cons, List.nodup_cons] at hnodup
    rw [putAll_cons]
    rcases List.mem_cons.1 ha with rfl | ha
    · have hlater : ∀ c ∈ as, place c ≠ place a := fun c hc heq => hnodup.1 (heq ▸ List.mem_map_of_mem hc)
      rw [putAll_other place put hlater, putOne, Function.update_self]
    · have hne : place b ≠ place a := fun heq => hnodup.1 (heq ▸ List.mem_map_of_mem ha)
      rw [ih hnodup.2 ha, putOne_other place put hne]

/-- the stores made from a list of which each element has a cell of its own -/
theorem putAll_map_of_mem {β : Type*} {as : List β} {store : β → α} {cell : β → κ}
    (hplace : ∀ b ∈ as, place (store b) = cell b) (hnodup : (as.map cell).Nodup) {b : β} (hb : b ∈ as) (T : κ → V) :
    putAll place put T (as.map store) (cell b) = put (store b) (T (cell b)) := by
  have hplaces : (as.map store).map place = as.map cell := by
    rw [List.map_map]
    exact List.map_congr_left hplace
  have hput := putAll_of_mem place put (hplaces ▸ hnodup) (List.mem_map_of_mem (f := store) hb) T
  rwa [hplace b hb] at hput

theorem putAll_append (T : κ → V) (as bs : List α) :
    putAll place put T (as ++ bs) = putAll place put (putAll place put T as) bs := List.foldl_append

/-- a cell depends on its own content only -/
theorem putAll_congr {p : κ} (as : List α) : ∀ {T T' : κ → V}, T p = T' p →
    putAll place put T as p = putAll place put T' as p := by
  induction as with
  | nil => exact fun h => h
  | cons a as ih =>
    intro T T' h
    refine ih ?_
    by_cases ha : place a = p
    · subst ha
      rw [putOne, putOne, Function.update_self, Function.update_self, h]
    · rw [putOne_other place put ha, putOne_other place put ha, h]

/-- a store changes no cell but its own, whatever comes before and after it -/
theorem putAll_without {a : α} {p : κ} (h : place a ≠ p) (as bs : List α) (T : κ → V) :
    putAll place put T (as ++ a :: bs) p = putAll place put T (as ++ bs) p := by
  rw [putAll_append, putAll_append, putAll_cons]
  exact putAll_congr place put bs (putOne_other place put h)

/-! ## Places outside -/

variable (inside : κ → Bool)

/-- the stores, up to one that is for a place outside -/
def storeAll (T : κ → V) (as : List α) : Option (κ → V) :=
  as.foldlM (fun T a => if inside (place a) then some (putOne place put T a) else none) T

theorem storeAll_eq (as : List α) : ∀ T : κ → V, storeAll place put inside T as =
    if ∀ a ∈ as, inside (place a) = true then some (putAll place put T as) else none := by
  induction as with
  | nil => exact fun _ => rfl
  | cons a as ih =>
    intro T
    rw [storeAll, List.foldlM_cons]
    by_cases ha : inside (place a) = true
    · rw [if_pos ha]
      change storeAll place put inside (putOne place put T a) as = _
      rw [ih]
      simp only [List.forall_mem_cons, ha, true_and]
      rfl
    · rw [if_neg ha, if_neg fun h => ha (h a List.mem_cons_self)]
      rfl

theorem storeAll_other {as : List α} {p : κ} (h : ∀ a ∈ as, place a ≠ p) {T T' : κ → V}
    (hstore : storeAll place put inside T as = some T') : T' p = T p := by
  rw [storeAll_eq] at hstore
  split_ifs at hstore
  rw [← Option.some.inj hstore, putAll_other place put h]

/-! ## Rows -/

section Rows

variable {β γ : Type*} {rows : List β}

/-- the row that is found for a key is the first with it -/
theorem findIdx_key_iff (key : β → κ) {m : ℕ} {row : β} (h : rows[m]? = some row) (k : κ) :
    (rows.findIdx fun r => key r = k) = m ↔ key row = k ∧ ∀ i < m, ∀ other, rows[i]? = some other → key other ≠ k := by
  obtain ⟨hm, rfl⟩ := List.getElem?_eq_some_iff.1 h
  rw [List.findIdx_eq hm, decide_eq_true_iff]
  refine and_congr_right fun _ => ⟨fun hbefore i hi other hother => ?_, fun hbefore i hi => ?_⟩
  · obtain ⟨hilen, rfl⟩ := List.getElem?_eq_some_iff.1 hother
    exact of_decide_eq_false (hbefore i hi)
  · exact decide_eq_false (hbefore i hi _ (List.getElem?_eq_getElem (Nat.lt_trans hi hm)))

/-- the cells of all rows, one row after the other -/
theorem nodup_rows {part : β × ℕ → List γ} {index : γ → ℕ} (hpart : ∀ k, (part k).Nodup)
    (hindex : ∀ k, ∀ c ∈ part k, index c = k.2) : (rows.zipIdx.flatMap part).Nodup := by
  rw [List.nodup_flatMap]
  refine ⟨fun k _ => hpart k, ?_⟩
  have hindices : (rows.zipIdx.map Prod.snd).Pairwise (· ≠ ·) := by
    rw [List.zipIdx_map_snd]
    exact List.nodup_range'
  refine (List.pairwise_map.1 hindices).imp fun hne => List.disjoint_left.2 fun c hc hc' => ?_
  exact hne ((hindex _ c hc).symm.trans (hindex _ c hc'))

end Rows

end Puts
