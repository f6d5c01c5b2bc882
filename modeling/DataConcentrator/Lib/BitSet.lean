/-
A set of numbers kept as the bits of an array of bytes.

- `indices`: the numbers whose bit is set; bit `i % 8` of byte `i / 8` stands for `i`;
- `test_iff`: how a bit is looked at;
- `indices_set`, `indices_clear`: setting a bit inserts its number, clearing it erases it.
-/
import Mathlib.Data.Nat.Bitwise
import Mathlib.Tactic

namespace BitSet

variable {n : ℕ} {list : Vector UInt8 n} {i j : ℕ}

def bit (list : Vector UInt8 n) (i : ℕ) : Bool := if h : i / 8 < n then list[i / 8].toNat.testBit (i % 8) else false

/-- the numbers whose bit is set -/
def indices (list : Vector UInt8 n) : Finset ℕ := (Finset.range (8 * n)).filter fun i => bit list i

theorem bit_of_lt (h : i / 8 < n) : bit list i = list[i / 8].toNat.testBit (i % 8) := dif_pos h

theorem mem_indices : i ∈ indices list ↔ bit list i = true := by
  rw [indices, Finset.mem_filter, Finset.mem_range, and_iff_right_iff_imp]
  intro h
  by_contra hout
  rw [bit, dif_neg (by omega)] at h
  exact Bool.false_ne_true h

theorem card_indices_le : (indices list).card ≤ 8 * n := by
  have hle := Finset.card_filter_le (Finset.range (8 * n)) fun i => bit list i
  rwa [Finset.card_range] at hle

theorem indices_zero : indices (Vector.replicate n (0 : UInt8)) = ∅ := by
  refine Finset.eq_empty_of_forall_notMem fun i hi => ?_
  have hbit := mem_indices.1 hi
  unfold bit at hbit
  split_ifs at hbit with h
  rw [Vector.getElem_replicate] at hbit
  simp at hbit

/-! ## One byte -/

/-- `1 << r` -/
def mask (r : UInt8) : UInt8 := 1 <<< r

theorem toNat_mask {r : UInt8} (h : r.toNat < 8) : (mask r).toNat = 2 ^ r.toNat := by
  have hpow : 2 ^ r.toNat < 2 ^ 8 := Nat.pow_lt_pow_right (by decide) h
  rw [mask, UInt8.toNat_shiftLeft, Nat.mod_eq_of_lt h, UInt8.toNat_one, Nat.one_shiftLeft, Nat.mod_eq_of_lt hpow]

theorem test_iff {b r : UInt8} (h : r.toNat < 8) : b &&& mask r ≠ 0 ↔ b.toNat.testBit r.toNat = true := by
  have hand : (b &&& mask r).toNat = (b.toNat.testBit r.toNat).toNat * 2 ^ r.toNat := by
    rw [UInt8.toNat_and, toNat_mask h, Nat.and_two_pow]
  have hpos := Nat.two_pow_pos r.toNat
  rw [Ne, ← UInt8.toNat_inj, hand, UInt8.toNat_zero]
  cases b.toNat.testBit r.toNat <;> simp

theorem testBit_or_mask {b r : UInt8} (h : r.toNat < 8) (k : ℕ) :
    (b ||| mask r).toNat.testBit k = (b.toNat.testBit k || decide (r.toNat = k)) := by
  rw [UInt8.toNat_or, Nat.testBit_or, toNat_mask h, Nat.testBit_two_pow]

theorem testBit_and_not_mask {b r : UInt8} (h : r.toNat < 8) {k : ℕ} (hk : k < 8) :
    (b &&& ~~~mask r).toNat.testBit k = (b.toNat.testBit k && !decide (r.toNat = k)) := by
  have hnot : (~~~mask r).toNat = 2 ^ 8 - (2 ^ r.toNat + 1) := by
    rw [UInt8.toNat_not, toNat_mask h, Nat.add_comm, ← Nat.sub_sub]
    rfl
  have hpow : 2 ^ r.toNat < 2 ^ 8 := Nat.pow_lt_pow_right (by decide) h
  rw [UInt8.toNat_and, Nat.testBit_and, hnot, Nat.testBit_two_pow_sub_succ hpow, Nat.testBit_two_pow]
  simp [hk]

/-! ## The whole array -/

/-- the array after byte `i / 8` is replaced by one that differs at bit `i % 8` only -/
theorem bit_set {b : UInt8} (h : i / 8 < n) {on : Bool} (hon : b.toNat.testBit (i % 8) = on)
    (hframe : ∀ k < 8, k ≠ i % 8 → b.toNat.testBit k = list[i / 8].toNat.testBit k) (j : ℕ) :
    bit (list.set (i / 8) b h) j = if j = i then on else bit list j := by
  by_cases hj : j / 8 < n
  · rw [bit_of_lt hj, Vector.getElem_set]
    by_cases hbyte : i / 8 = j / 8
    · rw [if_pos hbyte]
      by_cases heq : j = i
      · rw [if_pos heq, heq, hon]
      · rw [if_neg heq, hframe _ (Nat.mod_lt _ (by decide)) (by omega), bit_of_lt hj]
        simp only [hbyte]
    · rw [if_neg hbyte, if_neg (by rintro rfl; exact hbyte rfl), bit_of_lt hj]
  · rw [bit, dif_neg hj, if_neg (by rintro rfl; exact hj h), bit, dif_neg hj]

theorem indices_set {r : UInt8} (h : i / 8 < n) (hr : r.toNat = i % 8) :
    indices (list.set (i / 8) (list[i / 8] ||| mask r) h) = insert i (indices list) := by
  have hr8 : r.toNat < 8 := hr ▸ Nat.mod_lt _ (by decide)
  ext j
  have hframe : ∀ k < 8, k ≠ i % 8 → (list[i / 8] ||| mask r).toNat.testBit k = list[i / 8].toNat.testBit k := by
    intro k _ hk
    rw [testBit_or_mask hr8, hr, decide_eq_false (Ne.symm hk), Bool.or_false]
  have hon : (list[i / 8] ||| mask r).toNat.testBit (i % 8) = true := by
    rw [testBit_or_mask hr8, hr, decide_eq_true rfl, Bool.or_true]
  have hbit := bit_set h hon hframe j
  rw [mem_indices, Finset.mem_insert, mem_indices, hbit]
  split_ifs with heq <;> simp [heq]

theorem indices_clear {r : UInt8} (h : i / 8 < n) (hr : r.toNat = i % 8) :
    indices (list.set (i / 8) (list[i / 8] &&& ~~~mask r) h) = (indices list).erase i := by
  have hr8 : r.toNat < 8 := hr ▸ Nat.mod_lt _ (by decide)
  ext j
  have hframe : ∀ k < 8, k ≠ i % 8 → (list[i / 8] &&& ~~~mask r).toNat.testBit k = list[i / 8].toNat.testBit k := by
    intro k hk8 hk
    rw [testBit_and_not_mask hr8 hk8, hr, decide_eq_false (Ne.symm hk), Bool.not_false, Bool.and_true]
  have hoff : (list[i / 8] &&& ~~~mask r).toNat.testBit (i % 8) = false := by
    rw [testBit_and_not_mask hr8 (Nat.mod_lt i (by decide)), hr, decide_eq_true rfl, Bool.not_true, Bool.and_false]
  have hbit := bit_set h hoff hframe j
  rw [mem_indices, Finset.mem_erase, mem_indices, hbit]
  split_ifs with heq <;> simp [heq]

end BitSet
