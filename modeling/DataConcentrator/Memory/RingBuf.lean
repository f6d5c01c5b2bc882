/-
The ring buffers of `ringbuf.c`: a storage, and the indices the next byte is put to and taken from.

- `ringbufElements_eq`: how many bytes are in a buffer whose indices have not come round the end of the storage;
- `contents_eq`: these are the bytes between the two indices.
-/
import Mathlib.Tactic

namespace DataConcentrator.Memory

/-- `struct ringbuf`, over a storage of `size` bytes -/
structure RingBuf (size : ℕ) where
  data : List UInt8
  putPtr : UInt16
  getPtr : UInt16
  length_data : data.length = size

variable {size : ℕ}

/-- the mask `ringbuf_init` sets -/
def RingBuf.mask (_ : RingBuf size) : UInt16 := UInt16.ofNat (size - 1)

/-- `ringbuf_init` over a storage that starts as zeros -/
def ringbufInit (size : ℕ) : RingBuf size := ⟨List.replicate size 0, 0, 0, List.length_replicate⟩

/-- `ringbuf_clear`: the last byte of the storage is left as it is -/
def ringbufClear (r : RingBuf size) : RingBuf size where
  data := List.replicate (size - 1) 0 ++ r.data.drop (size - 1)
  putPtr := 0
  getPtr := 0
  length_data := by rw [List.length_append, List.length_replicate, List.length_drop, r.length_data]; omega

def ringbufElements (r : RingBuf size) : ℕ := ((r.putPtr - r.getPtr) &&& r.mask).toNat

/-- `ringbuf_get`: `none` for -1 -/
def ringbufGet (r : RingBuf size) : Option (UInt8 × RingBuf size) :=
  if ringbufElements r > 0 then
    some (r.data.getD r.getPtr.toNat 0, { r with getPtr := (r.getPtr + 1) &&& r.mask })
  else none

/-- bytes written from the start of the storage on; `none` when they do not fit -/
def RingBuf.copyIn (r : RingBuf size) (bytes : List UInt8) : Option (RingBuf size) :=
  if h : bytes.length ≤ size then
    some { r with
      data := bytes ++ r.data.drop bytes.length
      length_data := by rw [List.length_append, List.length_drop, r.length_data]; omega }
  else none

/-- the bytes that `n` calls of `ringbuf_get` give -/
def drain : ℕ → RingBuf size → List UInt8
  | 0, _ => []
  | n + 1, r =>
    match ringbufGet r with
    | none => []
    | some (c, r) => c :: drain n r

/-- the bytes in the buffer -/
def contents (r : RingBuf size) : List UInt8 := drain (ringbufElements r) r

/-! ## Elements -/

theorem toNat_and_mask {k : ℕ} (hk : k ≤ 15) (hsize : size = 2 ^ k) (r : RingBuf size) (x : UInt16) :
    (x &&& r.mask).toNat = x.toNat % 2 ^ k := by
  have hpow : 2 ^ k ≤ 2 ^ 15 := Nat.pow_le_pow_right (by omega) hk
  have hmask : r.mask.toNat = 2 ^ k - 1 := by
    rw [RingBuf.mask, hsize, UInt16.toNat_ofNat']
    exact Nat.mod_eq_of_lt (by omega)
  rw [UInt16.toNat_and, hmask, Nat.and_two_pow_sub_one_eq_mod]

theorem ringbufElements_of_get_zero {k : ℕ} (hk : k ≤ 15) (hsize : size = 2 ^ k) {r : RingBuf size}
    (hget : r.getPtr = 0) : ringbufElements r = r.putPtr.toNat % 2 ^ k := by
  rw [ringbufElements, hget, UInt16.sub_zero, toNat_and_mask hk hsize]

theorem ringbufElements_eq {k : ℕ} (hk : k ≤ 15) (hsize : size = 2 ^ k) {r : RingBuf size}
    (hle : r.getPtr.toNat ≤ r.putPtr.toNat) (hput : r.putPtr.toNat < size) :
    ringbufElements r = r.putPtr.toNat - r.getPtr.toNat := by
  rw [ringbufElements, toNat_and_mask hk hsize, UInt16.toNat_sub_of_le _ _ (UInt16.le_iff_toNat_le.2 hle)]
  exact Nat.mod_eq_of_lt (by omega)

/-- **The bytes in a buffer** are those between its indices. -/
theorem contents_eq {k : ℕ} (hk : k ≤ 15) (hsize : size = 2 ^ k) (n : ℕ) : ∀ r : RingBuf size,
    r.getPtr.toNat + n = r.putPtr.toNat → r.putPtr.toNat < size → drain n r = (r.data.drop r.getPtr.toNat).take n := by
  induction n with
  | zero => intro r _ _; rfl
  | succ n ih =>
    intro r hn hput
    have helements := ringbufElements_eq hk hsize (r := r) (by omega) hput
    have hnext : ((r.getPtr + 1) &&& r.mask).toNat = r.getPtr.toNat + 1 := by
      have hsum : (r.getPtr + 1).toNat = r.getPtr.toNat + 1 := by
        rw [UInt16.toNat_add]
        exact Nat.mod_eq_of_lt (by have := r.putPtr.toNat_lt; change r.getPtr.toNat + 1 < 2 ^ 16; omega)
      rw [toNat_and_mask hk hsize, hsum]
      exact Nat.mod_eq_of_lt (by omega)
    have hlen : r.getPtr.toNat < r.data.length := by rw [r.length_data]; omega
    have hget : ringbufGet r = some (r.data[r.getPtr.toNat], { r with getPtr := (r.getPtr + 1) &&& r.mask }) := by
      rw [ringbufGet, if_pos (by omega), List.getD_eq_getElem?_getD, List.getElem?_eq_getElem hlen]
      rfl
    have hrest := ih { r with getPtr := (r.getPtr + 1) &&& r.mask } (by dsimp only; omega) hput
    dsimp only at hrest
    rw [drain, hget]
    dsimp only
    rw [hrest, hnext, List.drop_eq_getElem_cons hlen, List.take_succ_cons]

end DataConcentrator.Memory
