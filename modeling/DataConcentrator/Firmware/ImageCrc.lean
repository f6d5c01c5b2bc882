/-
The CRC32 of a downloaded image: the table against the polynomial, and the pieces against the whole.

- `crc32_bitwise`: `CRC32` is the reflected check of the polynomial `0xEDB88320`;
- `imageCrc_eq`: the loop of `RecvFrameWareBag`, in the widths of its counters, is the one over numbers;
- `imageCrc_whole`: the value it ends with.
-/
import DataConcentrator.Firmware.Download
import DataConcentrator.Common.Print
import DataConcentrator.Lib.CLoop
import DataConcentrator.Lib.ReflectedCrc

namespace DataConcentrator.Firmware

open ReflectedCrc (bitSteps byteStep byteStep_table remainder)

/-! ## The table -/

def polynomial : BitVec 32 := 0xEDB88320

/-- entry by entry the table holds the steps of a byte -/
theorem crc32tab_eq : ∀ b : UInt8, (crc32tab.getD b.toNat 0).toBitVec = bitSteps polynomial 8 (b.toBitVec.setWidth 32) :=
  forall_byte (by decide +kernel)

theorem crc32Step_bitwise (crc : UInt32) (b : UInt8) :
    (crc32Step crc b).toBitVec = byteStep polynomial crc.toBitVec b.toBitVec := by
  have hindex : ((crc ^^^ b.toUInt32) &&& 0xff).toNat = (crc ^^^ b.toUInt32).toUInt8.toNat := by
    rw [UInt32.toNat_and, UInt32.toNat_toUInt8]
    exact Nat.and_two_pow_sub_one_eq_mod _ 8
  rw [crc32Step, hindex, UInt32.toBitVec_xor, crc32tab_eq, byteStep_table]
  rfl

theorem foldl_bitwise (bs : List UInt8) : ∀ crc : UInt32,
    (bs.foldl crc32Step crc).toBitVec = remainder polynomial crc.toBitVec (bs.map UInt8.toBitVec) := by
  induction bs with
  | nil => exact fun _ => rfl
  | cons b bs ih =>
    intro crc
    rw [List.foldl_cons, ih, crc32Step_bitwise]
    rfl

/-- **Bit by bit.** -/
theorem crc32_bitwise (bs : List UInt8) : (crc32 bs).toBitVec =
    ReflectedCrc.crc polynomial (BitVec.allOnes 32) (BitVec.allOnes 32) (bs.map UInt8.toBitVec) := by
  rw [crc32, UInt32.toBitVec_xor, foldl_bitwise]
  rfl

/-! ## The pieces -/

/-- the body of the loop, for a chunk of the image -/
def chunk (flash : ℕ → UInt8) (base k_num last_k_byte_num : ℕ) (crc32_cal : UInt32) (i : ℕ) : UInt32 :=
  let crc32_cal :=
    if i < k_num - 1 then crc32Extend (ByteStore.read flash (base + 1024 * i) 1024) crc32_cal 0 else crc32_cal
  if i = k_num - 1 then
    if last_k_byte_num = 0 then crc32Extend (ByteStore.read flash (base + 1024 * i) 1024) crc32_cal 1
    else crc32Extend (ByteStore.read flash (base + 1024 * i) last_k_byte_num) crc32_cal 1
  else crc32_cal

/-- the loop with `file_len` a `u32` and `k_num`, `last_k_byte_num` and `i` of 16 bits; no `u16` counts more rounds than
`fuel` -/
def imageCrc (flash : ℕ → UInt8) (base : ℕ) (total_bags : UInt16) (crc32_cal : UInt32) : Option UInt32 :=
  let file_len : UInt32 := 256 * (total_bags.toUInt32 - 1)
  let last_k_byte_num := (file_len % 1024).toUInt16
  let k_num := if last_k_byte_num > 0 then (file_len / 1024).toUInt16 + 1 else (file_len / 1024).toUInt16
  CLoop.forLoop 16 k_num.toNat (fun crc32_cal i => some (chunk flash base k_num.toNat last_k_byte_num.toNat crc32_cal i))
    65535 0 crc32_cal

/-- what the counters hold -/
theorem counters_eq {total_bags : UInt16} (h : 0 < total_bags) {n : ℕ} (hn : 256 * (total_bags.toNat - 1) = n) :
    (256 * (total_bags.toUInt32 - 1) % 1024).toUInt16.toNat = n % 1024 ∧
    (256 * (total_bags.toUInt32 - 1) / 1024).toUInt16.toNat = n / 1024 := by
  have hpos : 1 ≤ total_bags.toNat := UInt16.lt_iff_toNat_lt.1 h
  have hlt := total_bags.toNat_lt
  have hone : (1 : UInt32) ≤ total_bags.toUInt32 := UInt32.le_iff_toNat_le.2 (by rw [UInt16.toNat_toUInt32]; exact hpos)
  have hlen : (256 * (total_bags.toUInt32 - 1)).toNat = n := by
    rw [UInt32.toNat_mul, UInt32.toNat_sub_of_le _ _ hone, UInt16.toNat_toUInt32]
    change 256 * (total_bags.toNat - 1) % 2 ^ 32 = n
    omega
  rw [UInt32.toNat_toUInt16, UInt32.toNat_mod, UInt32.toNat_toUInt16, UInt32.toNat_div, hlen]
  change n % 1024 % 2 ^ 16 = _ ∧ n / 1024 % 2 ^ 16 = _
  omega

theorem flashCrc_chunks (flash : ℕ → UInt8) (base n : ℕ) (crc32_cal : UInt32) :
    flashCrc flash base n crc32_cal =
      (List.range (n / 1024 + if n % 1024 > 0 then 1 else 0)).foldl
        (chunk flash base (n / 1024 + if n % 1024 > 0 then 1 else 0) (n % 1024)) crc32_cal := rfl

/-- the counters are wide enough -/
theorem imageCrc_eq (flash : ℕ → UInt8) (base : ℕ) {total_bags : UInt16} (h : 0 < total_bags) {n : ℕ}
    (hn : 256 * (total_bags.toNat - 1) = n) (crc32_cal : UInt32) :
    imageCrc flash base total_bags crc32_cal = some (flashCrc flash base n crc32_cal) := by
  obtain ⟨hlast, hk⟩ := counters_eq h hn
  have hlt := total_bags.toNat_lt
  have hpos : (256 * (total_bags.toUInt32 - 1) % 1024).toUInt16 > 0 ↔ n % 1024 > 0 := by
    rw [gt_iff_lt, UInt16.lt_iff_toNat_lt, hlast]
    rfl
  have hk_num : (if (256 * (total_bags.toUInt32 - 1) % 1024).toUInt16 > 0
      then (256 * (total_bags.toUInt32 - 1) / 1024).toUInt16 + 1
      else (256 * (total_bags.toUInt32 - 1) / 1024).toUInt16).toNat = n / 1024 + if n % 1024 > 0 then 1 else 0 := by
    rw [apply_ite UInt16.toNat, UInt16.toNat_add, hk, UInt16.toNat_one]
    simp only [hpos]
    split_ifs <;> omega
  rw [imageCrc, flashCrc_chunks]
  simp only [hk_num, hlast]
  rw [CLoop.forLoop_eq_foldlM 16 _ 65535 crc32_cal (by split_ifs <;> omega) (by split_ifs <;> omega)]
  exact List.foldlM_pure

/-- **The whole image.** What the loop ends with is the checksum of the image in one call, and that of the polynomial. -/
theorem imageCrc_whole (flash : ℕ → UInt8) (base n : ℕ) (hpos : 0 < n) :
    flashCrc flash base n 0xFFFFFFFF = crc32 (ByteStore.read flash base n) ∧
    (crc32 (ByteStore.read flash base n)).toBitVec =
      ReflectedCrc.crc 0xEDB88320 (BitVec.allOnes 32) (BitVec.allOnes 32)
        ((ByteStore.read flash base n).map UInt8.toBitVec) ∧
    ∀ total_bags : UInt16, 256 * (total_bags.toNat - 1) = n →
      imageCrc flash base total_bags 0xFFFFFFFF = some (crc32 (ByteStore.read flash base n)) := by
  have hwhole := flashCrc_eq flash base n hpos
  refine ⟨hwhole, crc32_bitwise _, fun total_bags hn => ?_⟩
  have hbags : 0 < total_bags := UInt16.lt_iff_toNat_lt.2 (by change 0 < total_bags.toNat; omega)
  rw [imageCrc_eq flash base hbags hn, hwhole]

theorem imageCrc_whole_bag :
    flashCrc (fun _ => 0) 0 256 0xFFFFFFFF = crc32 (ByteStore.read (fun _ => 0) 0 256) ∧
    (crc32 (ByteStore.read (fun _ => 0) 0 256)).toBitVec =
      ReflectedCrc.crc 0xEDB88320 (BitVec.allOnes 32) (BitVec.allOnes 32)
        ((ByteStore.read (fun _ => 0) 0 256).map UInt8.toBitVec) ∧
    ∀ total_bags : UInt16, 256 * (total_bags.toNat - 1) = 256 →
      imageCrc (fun _ => 0) 0 total_bags 0xFFFFFFFF = some (crc32 (ByteStore.read (fun _ => 0) 0 256)) :=
  imageCrc_whole (fun _ => 0) 0 256 (by decide)

end DataConcentrator.Firmware
