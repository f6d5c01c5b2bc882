/-
Firmware download: `RequestFrameWareUpDate`, `RecvFrameWareBag` and `FrameWareUpDateStop` of the concentrator, and the
lamp controller's `LampRequestFrameWareUpDate` and `LampRecvFrameWareBag`, which differ in constants only.

The answers to the server, the EEPROM copy of the state and the file name, which no function here reads, are left out.
`RecvFrameWareBag` takes its loop bound through a pointer that is NULL, and its CRC runs over 65534 bytes from a
buffer of 258: what lies there is an input of each call, `Surroundings`.
- `recvBag`: the bag handler, over a `Target` that says where the image goes;
- `recvBag_found`: what it does, whatever the state;
- `flashCrc_eq`: the CRC32 taken in pieces of 1024 bytes is the CRC32 of the whole image, unless that is empty.
-/
import DataConcentrator.Lib.ByteStore
import DataConcentrator.Common.Crc
import DataConcentrator.Common.Text
import DataConcentrator.Protocol.ServerFrame

namespace DataConcentrator.Firmware

open Protocol (Parameter)
open ByteStore (Region)

/-! ## Data -/

inductive DownloadState where
  | firmwareFree
  | firmwareDownloading
  | firmwareDownloaded
  | firmwareDownloadFailed
deriving DecidableEq, Repr

/-- `FrameWareState_S`; `md5` is the text in the 33-byte field -/
structure FrameWareState where
  state : DownloadState
  total_bags : ℕ
  current_bag_cnt : ℕ
  bag_size : ℕ
  last_bag_size : ℕ
  total_size : ℕ
  md5 : List UInt8
deriving DecidableEq, Repr

def FIRMWARE_BAG_SIZE : ℕ := 258

/-- where an image is downloaded to: the sectors erased for it start at its base address and hold it -/
structure Target where
  firmwareSize : ℕ
  md5Type : UInt16
  sizeType : UInt16
  sectors : Region
  fits : firmwareSize ≤ sectors.size
  bags : firmwareSize ≤ 65535 * FIRMWARE_BAG_SIZE

def Target.base (T : Target) : ℕ := T.sectors.base

/-- the concentrator's own image: sectors 9 to 11 -/
def concentrator : Target := ⟨0x080A0000 - 0x08040000, 0x4003, 0x9004, ⟨0x080A0000, 0x60000⟩, by decide, by decide⟩

/-- the lamp controllers' image: sector 5 -/
def lamp : Target := ⟨131072, 0x4002, 0x9003, ⟨0x08020000, 0x20000⟩, by decide, by decide⟩

/-- the state, the flash, and a record of what happened to them since the request: the bags programmed, with their
contents, and the checksum of the last final bag -/
structure St where
  fw : FrameWareState
  flash : ℕ → UInt8
  programmed : List (ℕ × List UInt8)
  checked : Option UInt32

/-- what a call of `RecvFrameWareBag` finds in memory: `para_num` of the structure at NULL, and the bytes after `msg` -/
structure Surroundings where
  nullParaNum : ℕ
  stack : List UInt8
  covers : stack.length = 65534 - FIRMWARE_BAG_SIZE

/-! ## Flash -/

/-- `FLASH_EraseSector` -/
def eraseSectors (flash : ℕ → UInt8) (r : Region) : ℕ → UInt8 :=
  fun i => if r.base ≤ i ∧ i < r.base + r.size then 0xFF else flash i

/-- `FLASH_ProgramHalfWord`: programming can only clear bits -/
def programHalfWord (flash : ℕ → UInt8) (add : ℕ) (temp : UInt16) : ℕ → UInt8 :=
  ByteStore.write flash add [flash add &&& temp.toUInt8, flash (add + 1) &&& (temp >>> 8).toUInt8]

/-- the loop over the half words of a bag -/
def programBag (flash : ℕ → UInt8) (add : ℕ) (msg : List UInt8) : ℕ → UInt8 :=
  (List.range ((FIRMWARE_BAG_SIZE - 2) / 2)).foldl (fun flash i =>
    let temp := ((msg.getD (i * 2 + 1) 0).toUInt16 <<< 8) + (msg.getD (i * 2) 0).toUInt16
    programHalfWord flash (add + i * 2) temp) flash

/-- `crc32_cal` after the first `file_len` bytes of the image, in pieces of 1024 bytes -/
def flashCrc (flash : ℕ → UInt8) (base file_len : ℕ) (crc32_cal : UInt32) : UInt32 :=
  let last_k_byte_num := file_len % 1024
  let k_num := file_len / 1024 + if last_k_byte_num > 0 then 1 else 0
  (List.range k_num).foldl (fun crc32_cal i =>
    let crc32_cal :=
      if i < k_num - 1 then crc32Extend (ByteStore.read flash (base + 1024 * i) 1024) crc32_cal 0 else crc32_cal
    if i = k_num - 1 then
      if last_k_byte_num = 0 then crc32Extend (ByteStore.read flash (base + 1024 * i) 1024) crc32_cal 1
      else crc32Extend (ByteStore.read flash (base + 1024 * i) last_k_byte_num) crc32_cal 1
    else crc32_cal) crc32_cal

theorem and_ff (b : UInt8) : 0xFF &&& b = b := by
  apply UInt8.toNat_inj.mp
  have hb := b.toNat_lt
  rw [UInt8.toNat_and, Nat.and_comm]
  exact (Nat.and_two_pow_sub_one_eq_mod b.toNat 8).trans (Nat.mod_eq_of_lt hb)

theorem halfWord_low (hi lo : UInt8) : ((hi.toUInt16 <<< 8) + lo.toUInt16).toUInt8 = lo := by
  apply UInt8.toNat_inj.mp
  have hl := lo.toNat_lt
  simp only [UInt16.toNat_toUInt8, UInt16.toNat_add, UInt16.toNat_shiftLeft, UInt8.toNat_toUInt16, Nat.shiftLeft_eq,
    UInt16.reduceToNat, Nat.reduceMod]
  omega

theorem halfWord_high (hi lo : UInt8) : (((hi.toUInt16 <<< 8) + lo.toUInt16) >>> 8).toUInt8 = hi := by
  apply UInt8.toNat_inj.mp
  have hl := lo.toNat_lt
  have hh := hi.toNat_lt
  simp only [UInt16.toNat_toUInt8, UInt16.toNat_shiftRight, UInt16.toNat_add, UInt16.toNat_shiftLeft,
    UInt8.toNat_toUInt16, Nat.shiftLeft_eq, Nat.shiftRight_eq_div_pow, UInt16.reduceToNat, Nat.reduceMod]
  omega

/-- a half word on erased flash is stored as it is -/
theorem programHalfWord_erased (flash : ℕ → UInt8) (add : ℕ) (hi lo : UInt8) (h0 : flash add = 0xFF)
    (h1 : flash (add + 1) = 0xFF) :
    programHalfWord flash add ((hi.toUInt16 <<< 8) + lo.toUInt16) = ByteStore.write flash add [lo, hi] := by
  rw [programHalfWord, h0, h1, and_ff, and_ff, halfWord_low, halfWord_high]

/-- **A bag on erased flash is stored byte for byte.** -/
theorem programBag_erased (flash : ℕ → UInt8) (add : ℕ) (msg : List UInt8) (hlen : msg.length = FIRMWARE_BAG_SIZE)
    (he : ∀ i, add ≤ i → i < add + (FIRMWARE_BAG_SIZE - 2) → flash i = 0xFF) :
    programBag flash add msg = ByteStore.write flash add (msg.take (FIRMWARE_BAG_SIZE - 2)) := by
  unfold FIRMWARE_BAG_SIZE at hlen he ⊢
  have hloop : ∀ k, k ≤ 128 → (List.range k).foldl (fun flash i =>
      programHalfWord flash (add + i * 2) (((msg.getD (i * 2 + 1) 0).toUInt16 <<< 8) + (msg.getD (i * 2) 0).toUInt16))
      flash = ByteStore.write flash add (msg.take (2 * k)) := by
    intro k
    induction k with
    | zero => intro _; simp
    | succ k ih =>
      intro hk
      have htake : msg.take (2 * (k + 1)) = msg.take (2 * k) ++ [msg.getD (k * 2) 0, msg.getD (k * 2 + 1) 0] := by
        have h0 : k * 2 < msg.length := by omega
        have h1 : k * 2 + 1 < msg.length := by omega
        rw [show 2 * (k + 1) = 2 * k + 1 + 1 by ring, List.take_add_one, List.take_add_one, Nat.mul_comm 2 k,
          List.getD_eq_getElem?_getD, List.getD_eq_getElem?_getD, List.getElem?_eq_getElem h0, List.getElem?_eq_getElem h1,
          List.append_assoc]
        rfl
      have hl : (msg.take (2 * k)).length = 2 * k := by rw [List.length_take]; omega
      rw [List.range_succ, List.foldl_append, ih (by omega), List.foldl_cons, List.foldl_nil, htake,
        ← ByteStore.write_append, hl, Nat.mul_comm 2 k]
      refine programHalfWord_erased _ _ _ _ ?_ ?_
      · rw [ByteStore.write_of_ge _ _ (by rw [Nat.mul_comm k 2, hl])]
        exact he _ (by omega) (by omega)
      · rw [ByteStore.write_of_ge _ _ (by rw [Nat.mul_comm k 2, hl]; omega)]
        exact he _ (by omega) (by omega)
  exact hloop 128 le_rfl

/-- **The CRC32 in pieces** is the CRC32 of the image, unless there is none -/
theorem flashCrc_eq (flash : ℕ → UInt8) (base file_len : ℕ) (h : 0 < file_len) :
    flashCrc flash base file_len 0xFFFFFFFF = crc32 (ByteStore.read flash base file_len) := by
  unfold flashCrc
  set last := file_len % 1024 with hlast
  obtain ⟨n, hn⟩ : ∃ n, (file_len / 1024 + if last > 0 then 1 else 0) = n + 1 :=
    ⟨file_len / 1024 + (if last > 0 then 1 else 0) - 1, by split_ifs <;> omega⟩
  simp only [hn, Nat.add_sub_cancel]
  -- every piece but the last
  have hloop : ∀ j, j ≤ n → (List.range j).foldl (fun crc32_cal i =>
      if i = n then
        if last = 0 then crc32Extend (ByteStore.read flash (base + 1024 * i) 1024)
          (if i < n then crc32Extend (ByteStore.read flash (base + 1024 * i) 1024) crc32_cal 0 else crc32_cal) 1
        else crc32Extend (ByteStore.read flash (base + 1024 * i) last)
          (if i < n then crc32Extend (ByteStore.read flash (base + 1024 * i) 1024) crc32_cal 0 else crc32_cal) 1
      else if i < n then crc32Extend (ByteStore.read flash (base + 1024 * i) 1024) crc32_cal 0 else crc32_cal)
      0xFFFFFFFF = crc32Extend (ByteStore.read flash base (1024 * j)) 0xFFFFFFFF 0 := by
    intro j
    induction j with
    | zero => intro _; rfl
    | succ j ih =>
      intro hj
      rw [List.range_succ, List.foldl_append, ih (by omega), List.foldl_cons, List.foldl_nil, if_neg (by omega),
        if_pos (by omega), crc32Extend_append, ← ByteStore.read_add]
      rfl
  rw [List.range_succ, List.foldl_append, hloop n le_rfl, List.foldl_cons, List.foldl_nil, if_pos rfl,
    if_neg (lt_irrefl n), crc32_eq_extend]
  split_ifs with hz
  · rw [if_neg (by omega)] at hn
    rw [crc32Extend_append, ← ByteStore.read_add, show 1024 * n + 1024 = file_len by omega]
  · rw [if_pos (by omega)] at hn
    rw [crc32Extend_append, ← ByteStore.read_add, show 1024 * n + last = file_len by omega]

/-! ## Request and stop -/

/-- `WriteFrameWareState(1, ..)` -/
def FrameWareState.reset : FrameWareState := ⟨.firmwareFree, 0, 0, 0, 0, 0, []⟩

/-- the parameters of a request; an MD5 text of more than 32 bytes runs over its field -/
def readRequest (T : Target) (fw : FrameWareState) (p : Parameter) : Option FrameWareState :=
  if p.type = T.md5Type then
    if p.len ≤ 32 then some { fw with md5 := cstr (p.value.take p.len) } else none
  else if p.type = T.sizeType then some { fw with total_size := toUnsigned 32 (myatoi p.value) }
  else some fw

/-- `total_bags` of an image -/
def bagCount (total_size : ℕ) : ℕ :=
  if total_size % FIRMWARE_BAG_SIZE ≠ 0 then total_size / FIRMWARE_BAG_SIZE + 1 else total_size / FIRMWARE_BAG_SIZE

theorem bagCount_bounds (total_size : ℕ) :
    total_size ≤ bagCount total_size * FIRMWARE_BAG_SIZE ∧
      bagCount total_size * FIRMWARE_BAG_SIZE < total_size + FIRMWARE_BAG_SIZE := by
  unfold bagCount FIRMWARE_BAG_SIZE
  split_ifs <;> omega

/-- `RequestFrameWareUpDate` and `LampRequestFrameWareUpDate` -/
def requestUpDate (T : Target) (paras : List Parameter) (st : St) : Option St :=
  (paras.foldlM (readRequest T) st.fw).map fun fw =>
    if fw.total_size > T.firmwareSize ∨ fw.total_size < FIRMWARE_BAG_SIZE ∨ fw.md5.length ≠ 32 then
      { st with fw := .reset }
    else
      let rest := fw.total_size % FIRMWARE_BAG_SIZE
      { fw := { fw with
          state := .firmwareDownloading
          total_bags := bagCount fw.total_size
          current_bag_cnt := 1
          bag_size := FIRMWARE_BAG_SIZE
          last_bag_size := if rest ≠ 0 then rest else FIRMWARE_BAG_SIZE }
        flash := eraseSectors st.flash T.sectors
        programmed := []
        checked := none }

def requestFrameWareUpDate (paras : List Parameter) (st : St) : Option St := requestUpDate concentrator paras st

def lampRequestFrameWareUpDate (paras : List Parameter) (st : St) : Option St := requestUpDate lamp paras st

/-- the 33-byte buffer `md5` after `memcpy` of a text; a longer one leaves no terminator in it -/
def copyMd5 (md5 : List UInt8) (p : Parameter) : Option (List UInt8) :=
  if p.len ≤ 32 then some (p.value.take p.len ++ md5.drop p.len) else none

/-- `FrameWareUpDateStop`, which reads the first parameter of its message -/
def frameWareUpDateStop (st : St) : List Parameter → Option St
  | [] => none
  | p :: _ =>
    if p.type = 0x4001 then
      (copyMd5 (List.replicate 33 0) p).map fun md5 =>
        if (searchStr (cstr md5) st.fw.md5).isSome then { st with fw := .reset } else st
    else some st

/-! ## Bags -/

/-- the CRC16 at the end of a bag -/
def crcRead (msg : List UInt8) : UInt8 × UInt8 := (msg.getD (FIRMWARE_BAG_SIZE - 2) 0, msg.getD (FIRMWARE_BAG_SIZE - 1) 0)

/-- the CRC32 at the start of the final bag -/
def crc32Read (msg : List UInt8) : UInt32 :=
  ((msg.getD 0 0).toUInt32 <<< 24) + ((msg.getD 1 0).toUInt32 <<< 16) + ((msg.getD 2 0).toUInt32 <<< 8) +
    (msg.getD 3 0).toUInt32

/-- what follows when the CRC16 of a bag is right; `crc32_cal` is a local of the handler -/
def storeBag (T : Target) (msg : List UInt8) (current_bags : ℕ) (crc32_cal : UInt32) (st : St) : St × UInt32 :=
  if current_bags = st.fw.current_bag_cnt then
    if current_bags < st.fw.total_bags then
      ({ st with
        flash := programBag st.flash (T.base + (current_bags - 1) * (FIRMWARE_BAG_SIZE - 2)) msg
        fw := { st.fw with
          current_bag_cnt := (st.fw.current_bag_cnt + 1) % 65536
          state := .firmwareDownloading }
        programmed := st.programmed ++ [(current_bags, msg.take (FIRMWARE_BAG_SIZE - 2))] }, crc32_cal)
    else if current_bags = st.fw.total_bags then
      let file_len := (FIRMWARE_BAG_SIZE - 2) * (st.fw.total_bags - 1)
      let crc32_cal := flashCrc st.flash T.base file_len crc32_cal
      ({ st with
        fw := { st.fw with
          state := if crc32Read msg = crc32_cal then .firmwareDownloaded else .firmwareDownloadFailed }
        checked := some (crc32Read msg) }, crc32_cal)
    else (st, crc32_cal)
  else (st, crc32_cal)

/-- the loop of `RecvFrameWareBag`, with its locals `md5`, `current_bags` and `crc32_cal`, which is set before the loop
only; `bag_size` is 0, so the CRC16 covers `(u16)(0 - 2)` bytes -/
def recvLoop (T : Target) (env : Surroundings) : List Parameter → List UInt8 → ℕ → UInt32 → St → Option St
  | [], _, _, _, st => some st
  | p :: ps, md5, current_bags, crc32_cal, st =>
    if p.type = 0x4101 then (copyMd5 md5 p).bind fun md5 => recvLoop T env ps md5 current_bags crc32_cal st
    else if p.type = 0x8102 then
      let current_bags := toUnsigned 16 (myatoi p.value)
      if current_bags > st.fw.total_bags then some st else recvLoop T env ps md5 current_bags crc32_cal st
    else if p.type = 0x3103 then
      if (searchStr (cstr md5) st.fw.md5).isNone then some st
      else if p.len > FIRMWARE_BAG_SIZE * 2 then some st
      else (strToHex FIRMWARE_BAG_SIZE p.value).bind fun msg =>
        let crc_cal := crc16 (msg ++ env.stack)
        let stored := if crc_cal = crcRead msg then storeBag T msg current_bags crc32_cal st else (st, crc32_cal)
        recvLoop T env ps md5 current_bags stored.2 stored.1
    else recvLoop T env ps md5 current_bags crc32_cal st

section RecvLoop

variable (T : Target) (env : Surroundings) (p : Parameter) (ps : List Parameter) (md5 : List UInt8) (n : ℕ) (cal : UInt32)
  (st : St)

/-- what a data parameter that is read comes to -/
def storeData (msg : List UInt8) : St × UInt32 :=
  if crc16 (msg ++ env.stack) = crcRead msg then storeBag T msg n cal st else (st, cal)

theorem recvLoop_md5 (h : p.type = 0x4101) :
    recvLoop T env (p :: ps) md5 n cal st = (copyMd5 md5 p).bind fun md5 => recvLoop T env ps md5 n cal st := by
  rw [recvLoop, if_pos h]

theorem recvLoop_number (h : p.type = 0x8102) :
    recvLoop T env (p :: ps) md5 n cal st =
      if toUnsigned 16 (myatoi p.value) > st.fw.total_bags then some st
      else recvLoop T env ps md5 (toUnsigned 16 (myatoi p.value)) cal st := by
  rw [recvLoop, if_neg (by rw [h]; decide), if_pos h]

theorem recvLoop_data (h : p.type = 0x3103) :
    recvLoop T env (p :: ps) md5 n cal st =
      if (searchStr (cstr md5) st.fw.md5).isNone then some st
      else if p.len > FIRMWARE_BAG_SIZE * 2 then some st
      else (strToHex FIRMWARE_BAG_SIZE p.value).bind fun msg =>
        recvLoop T env ps md5 n (storeData T env n cal st msg).2 (storeData T env n cal st msg).1 := by
  rw [recvLoop, if_neg (by rw [h]; decide), if_neg (by rw [h]; decide), if_pos h]
  rfl

theorem recvLoop_other (h1 : p.type ≠ 0x4101) (h2 : p.type ≠ 0x8102) (h3 : p.type ≠ 0x3103) :
    recvLoop T env (p :: ps) md5 n cal st = recvLoop T env ps md5 n cal st := by
  rw [recvLoop, if_neg h1, if_neg h2, if_neg h3]

end RecvLoop

/-- the bag handler; a bound above the number of parameters leads the loop out of their array -/
def recvBag (T : Target) (env : Surroundings) (paras : List Parameter) (st : St) : Option St :=
  if env.nullParaNum ≤ paras.length then
    recvLoop T env (paras.take env.nullParaNum) (List.replicate 33 0) 0 0xFFFFFFFF st
  else none

def recvFrameWareBag (env : Surroundings) (paras : List Parameter) (st : St) : Option St :=
  recvBag concentrator env paras st

def lampRecvFrameWareBag (env : Surroundings) (paras : List Parameter) (st : St) : Option St :=
  recvBag lamp env paras st

/-! ## The state that the bag handler finds -/

section Found

variable (T : Target) (env : Surroundings) (found : DownloadState)

/-- the record with the state that was found, as long as the handler has not set one -/
def keepFound (d : St) : St :=
  if d.fw.state = .firmwareFree then { d with fw.state := found } else d

theorem keepFound_fields (d : St) : (keepFound found d).fw.total_bags = d.fw.total_bags ∧
    (keepFound found d).fw.current_bag_cnt = d.fw.current_bag_cnt ∧ (keepFound found d).fw.md5 = d.fw.md5 := by
  unfold keepFound
  split_ifs
  · exact ⟨rfl, rfl, rfl⟩
  · exact ⟨rfl, rfl, rfl⟩

theorem keepFound_of_set {d : St} (h : d.fw.state ≠ .firmwareFree) : keepFound found d = d := if_neg h

theorem storeBag_keepFound (msg : List UInt8) (n : ℕ) (cal : UInt32) (d : St) :
    storeBag T msg n cal (keepFound found d) =
      ((keepFound found (storeBag T msg n cal d).1), (storeBag T msg n cal d).2) := by
  have hnew : ∀ (fw : FrameWareState) (flash : ℕ → UInt8) (programmed : List (ℕ × List UInt8))
      (checked : Option UInt32), fw.state ≠ .firmwareFree →
      keepFound found ⟨fw, flash, programmed, checked⟩ = ⟨fw, flash, programmed, checked⟩ :=
    fun fw flash programmed checked h => keepFound_of_set found h
  obtain ⟨fw, flash, programmed, checked⟩ := d
  by_cases hfree : fw.state = .firmwareFree
  · have hfound : keepFound found ⟨fw, flash, programmed, checked⟩ =
        ⟨{ fw with state := found }, flash, programmed, checked⟩ := if_pos hfree
    unfold storeBag
    rw [hfound]
    dsimp only
    split_ifs with hturn hmore hlast hcheck
    · rw [hnew _ _ _ _ (by simp)]
    · rw [hnew _ _ _ _ (by simp)]
    · rw [hnew _ _ _ _ (by simp)]
    · rw [hfound]
    · rw [hfound]
  · rw [hnew _ _ _ _ hfree]
    unfold storeBag
    dsimp only
    split_ifs with hturn hmore hlast hcheck
    · rw [hnew _ _ _ _ (by simp)]
    · rw [hnew _ _ _ _ (by simp)]
    · rw [hnew _ _ _ _ (by simp)]
    · rw [hnew _ _ _ _ hfree]
    · rw [hnew _ _ _ _ hfree]

theorem recvLoop_keepFound (paras : List Parameter) : ∀ (md5 : List UInt8) (n : ℕ) (cal : UInt32) (d : St),
    recvLoop T env paras md5 n cal (keepFound found d) =
      (recvLoop T env paras md5 n cal d).map (keepFound found) := by
  induction paras with
  | nil => exact fun _ _ _ _ => rfl
  | cons p ps ih =>
    intro md5 n cal d
    obtain ⟨htotal, -, hmd5⟩ := keepFound_fields found d
    by_cases h1 : p.type = 0x4101
    · rw [recvLoop_md5 _ _ _ _ _ _ _ _ h1, recvLoop_md5 _ _ _ _ _ _ _ _ h1, Option.map_bind]
      exact Option.bind_congr fun md5 _ => ih md5 n cal d
    by_cases h2 : p.type = 0x8102
    · rw [recvLoop_number _ _ _ _ _ _ _ _ h2, recvLoop_number _ _ _ _ _ _ _ _ h2, htotal]
      split_ifs
      · rfl
      · exact ih _ _ _ d
    by_cases h3 : p.type = 0x3103
    · rw [recvLoop_data _ _ _ _ _ _ _ _ h3, recvLoop_data _ _ _ _ _ _ _ _ h3, hmd5]
      split_ifs
      · rfl
      · rfl
      · rw [Option.map_bind]
        refine Option.bind_congr fun msg _ => ?_
        have hstore : storeData T env n cal (keepFound found d) msg =
            (keepFound found (storeData T env n cal d msg).1, (storeData T env n cal d msg).2) := by
          unfold storeData
          split_ifs
          · exact storeBag_keepFound T found msg n cal d
          · rfl
        rw [hstore]
        exact ih _ _ _ _
    · rw [recvLoop_other _ _ _ _ _ _ _ _ h1 h2 h3, recvLoop_other _ _ _ _ _ _ _ _ h1 h2 h3]
      exact ih md5 n cal d

/-- **The state is not looked at.** The handler does under any state what it does under `FIRMWARE_FREE`. -/
theorem recvBag_found (paras : List Parameter) {d : St} (h : d.fw.state = .firmwareFree) :
    recvBag T env paras { d with fw.state := found } = (recvBag T env paras d).map (keepFound found) := by
  have hd : keepFound found d = { d with fw.state := found } := if_pos h
  rw [← hd]
  unfold recvBag
  split_ifs
  · exact recvLoop_keepFound T env found _ _ _ _ d
  · rfl

end Found

end DataConcentrator.Firmware
