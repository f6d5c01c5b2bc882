/-
Cyclic redundancy checks of reflected polynomials, bit by bit and by table.

- `bitStep_xor`: a bit step is linear, and so are the steps of a byte (`bitSteps_xor`);
- `byteStep_table`: the eight steps of a byte are one look into a table and a shift.
-/
import Mathlib.Tactic

namespace ReflectedCrc

variable {w : ℕ} (poly : BitVec w)

/-- one bit leaves to the right, and the polynomial is added for a one -/
def bitStep (c : BitVec w) : BitVec w := if c.getLsbD 0 then (c >>> 1) ^^^ poly else c >>> 1

def bitSteps (k : ℕ) (c : BitVec w) : BitVec w := (bitStep poly)^[k] c

/-- a byte comes in at the low end and leaves bit by bit -/
def byteStep (c : BitVec w) (b : BitVec 8) : BitVec w := bitSteps poly 8 (c ^^^ b.setWidth w)

/-- what is left of a message, from `init` on -/
def remainder (init : BitVec w) (bs : List (BitVec 8)) : BitVec w := bs.foldl (byteStep poly) init

def crc (init xorout : BitVec w) (bs : List (BitVec 8)) : BitVec w := remainder poly init bs ^^^ xorout

/-! ## Linearity -/

theorem bitStep_xor (a b : BitVec w) : bitStep poly (a ^^^ b) = bitStep poly a ^^^ bitStep poly b := by
  have hshift : (a ^^^ b) >>> 1 = a >>> 1 ^^^ b >>> 1 := BitVec.ushiftRight_xor_distrib a b 1
  unfold bitStep
  rw [BitVec.getLsbD_xor, hshift]
  cases a.getLsbD 0 <;> cases b.getLsbD 0
  · rfl
  · exact BitVec.xor_assoc _ _ _
  · change a >>> 1 ^^^ b >>> 1 ^^^ poly = a >>> 1 ^^^ poly ^^^ b >>> 1
    ac_rfl
  · change a >>> 1 ^^^ b >>> 1 = a >>> 1 ^^^ poly ^^^ (b >>> 1 ^^^ poly)
    have hpoly : a >>> 1 ^^^ poly ^^^ (b >>> 1 ^^^ poly) = a >>> 1 ^^^ b >>> 1 ^^^ (poly ^^^ poly) := by ac_rfl
    rw [hpoly, BitVec.xor_self, BitVec.xor_zero]

theorem bitSteps_succ (k : ℕ) (c : BitVec w) : bitSteps poly (k + 1) c = bitSteps poly k (bitStep poly c) := rfl

theorem bitSteps_xor (k : ℕ) : ∀ a b : BitVec w, bitSteps poly k (a ^^^ b) = bitSteps poly k a ^^^ bitSteps poly k b := by
  induction k with
  | zero => exact fun _ _ => rfl
  | succ k ih =>
    intro a b
    rw [bitSteps_succ, bitStep_xor, ih]
    rfl

/-- zeros leave without a trace -/
theorem bitSteps_shift (k : ℕ) : ∀ c : BitVec w, (∀ i < k, c.getLsbD i = false) → bitSteps poly k c = c >>> k := by
  induction k with
  | zero => exact fun c _ => (BitVec.ushiftRight_zero c).symm
  | succ k ih =>
    intro c hc
    have hfirst : bitStep poly c = c >>> 1 := by
      rw [bitStep, hc 0 (Nat.succ_pos k)]
      rfl
    rw [bitSteps_succ, hfirst, ih _ fun i hi => ?_, ← BitVec.shiftRight_add, Nat.add_comm]
    rw [BitVec.getLsbD_ushiftRight]
    exact hc (1 + i) (by omega)

/-! ## By table -/

/-- the low byte, and what is above it -/
theorem low_xor_high (c : BitVec w) : c = (c.setWidth 8).setWidth w ^^^ c >>> 8 <<< 8 := by
  refine BitVec.eq_of_getLsbD_eq fun i hi => ?_
  rw [BitVec.getLsbD_xor, BitVec.getLsbD_setWidth, BitVec.getLsbD_setWidth, BitVec.getLsbD_shiftLeft,
    BitVec.getLsbD_ushiftRight]
  by_cases h : i < 8
  · simp [h, hi]
  · simp [h, hi, Nat.add_sub_cancel' (Nat.not_lt.1 h)]

theorem high_low_bits (c : BitVec w) : ∀ i < 8, (c >>> 8 <<< 8).getLsbD i = false := by
  intro i hi
  simp [hi]

theorem high_shift (c : BitVec w) : c >>> 8 <<< 8 >>> 8 = c >>> 8 := by
  refine BitVec.eq_of_getLsbD_eq fun i hi => ?_
  rw [BitVec.getLsbD_ushiftRight, BitVec.getLsbD_shiftLeft, BitVec.getLsbD_ushiftRight, BitVec.getLsbD_ushiftRight]
  by_cases h : 8 + i < w
  · simp [h]
  · rw [BitVec.getLsbD_of_ge c (8 + i) (Nat.not_lt.1 h)]
    simp [h]

theorem bitSteps_eight (c : BitVec w) : bitSteps poly 8 c = bitSteps poly 8 ((c.setWidth 8).setWidth w) ^^^ c >>> 8 := by
  have hsplit : bitSteps poly 8 c = bitSteps poly 8 ((c.setWidth 8).setWidth w ^^^ c >>> 8 <<< 8) :=
    congrArg _ (low_xor_high c)
  rw [hsplit, bitSteps_xor, bitSteps_shift poly 8 _ (high_low_bits c), high_shift]

/-- **By table.** The steps of a byte are one look into the table of the bytes' own steps. -/
theorem byteStep_table (c : BitVec w) (b : BitVec 8) :
    byteStep poly c b = bitSteps poly 8 (((c ^^^ b.setWidth w).setWidth 8).setWidth w) ^^^ c >>> 8 := by
  have hbyte : b.setWidth w >>> 8 = 0#w := by
    refine BitVec.eq_of_getLsbD_eq fun i hi => ?_
    rw [BitVec.getLsbD_ushiftRight, BitVec.getLsbD_setWidth, BitVec.getLsbD_of_ge b (8 + i) (by omega)]
    simp
  rw [byteStep, bitSteps_eight, BitVec.ushiftRight_xor_distrib c, hbyte, BitVec.xor_zero]

end ReflectedCrc
