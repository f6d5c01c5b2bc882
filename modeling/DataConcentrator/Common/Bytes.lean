/-
Big-endian integer fields, as the firmware writes and reads them byte by byte.

- `getBe32_putBe32`, `getBe16_putBe16`: reading the bytes a field was written as gives the field back.
-/
import Mathlib.Tactic

namespace DataConcentrator

/-- `(u8)(x >> 24) .. (u8)(x >> 0)` -/
def putBe32 (x : UInt32) : List UInt8 :=
  [(x >>> 24).toUInt8, (x >>> 16).toUInt8, (x >>> 8).toUInt8, (x >>> 0).toUInt8]

def putBe16 (x : UInt16) : List UInt8 := [(x >>> 8).toUInt8, (x >>> 0).toUInt8]

/-- `((u32)a << 24) + ((u32)b << 16) + ((u32)c << 8) + (u32)d` -/
def getBe32 (a b c d : UInt8) : UInt32 :=
  (a.toUInt32 <<< 24) + (b.toUInt32 <<< 16) + (c.toUInt32 <<< 8) + d.toUInt32

def getBe16 (a b : UInt8) : UInt16 := (a.toUInt16 <<< 8) + b.toUInt16

@[simp] theorem length_putBe32 (x : UInt32) : (putBe32 x).length = 4 := rfl

@[simp] theorem length_putBe16 (x : UInt16) : (putBe16 x).length = 2 := rfl

theorem getBe32_putBe32 (x : UInt32) :
    getBe32 (x >>> 24).toUInt8 (x >>> 16).toUInt8 (x >>> 8).toUInt8 (x >>> 0).toUInt8 = x := by
  apply UInt32.toNat_inj.mp
  have hx := x.toNat_lt
  simp only [getBe32, UInt32.toNat_add, UInt32.toNat_shiftLeft, UInt8.toNat_toUInt32, UInt32.toNat_toUInt8,
    UInt32.toNat_shiftRight, Nat.shiftLeft_eq, Nat.shiftRight_eq_div_pow, UInt32.reduceToNat, Nat.reduceMod]
  omega

theorem getBe16_putBe16 (x : UInt16) : getBe16 (x >>> 8).toUInt8 (x >>> 0).toUInt8 = x := by
  apply UInt16.toNat_inj.mp
  have hx := x.toNat_lt
  simp only [getBe16, UInt16.toNat_add, UInt16.toNat_shiftLeft, UInt8.toNat_toUInt16, UInt16.toNat_toUInt8,
    UInt16.toNat_shiftRight, Nat.shiftLeft_eq, Nat.shiftRight_eq_div_pow, UInt16.reduceToNat, Nat.reduceMod]
  omega

theorem putBe16_injective {x y : UInt16} (h : putBe16 x = putBe16 y) : x = y := by
  obtain ⟨h1, h2⟩ := List.cons_eq_cons.1 h
  rw [← getBe16_putBe16 x, h1, (List.cons_eq_cons.1 h2).1, getBe16_putBe16]

end DataConcentrator
