/-
Safety of the firmware download, over runs of bags and stops in any order.

- `storeBag_eq`: on an active download, a bag with the right CRC16 is stored byte for byte or judged by the CRC32 of all
  bags before it;
- `recvBag_of_isBag`: under `Meets`, the bag handler does exactly what `respond` says;
- `run_inv`: what every reachable state satisfies;
- `download_safe`: a run whose messages all meet the condition is safe.
Witness that the condition is needed:
- `first_bag_ignored`: with the halfword 0 at the NULL structure's `para_num`, a good first bag is ignored.
-/
import DataConcentrator.Firmware.Download

namespace DataConcentrator.Firmware

open Protocol (Parameter)

/-! ## Runs -/

inductive Event where
  | bag (env : Surroundings) (paras : List Parameter)
  | stop (paras : List Parameter)

def step (T : Target) (st : St) : Event → Option St
  | .bag env paras => recvBag T env paras st
  | .stop paras => frameWareUpDateStop st paras

def run (T : Target) (st : St) (es : List Event) : Option St := es.foldlM (step T) st

theorem run_snoc (T : Target) (st : St) (es : List Event) (e : Event) :
    run T st (es ++ [e]) = (run T st es).bind fun st => step T st e := by
  simp [run, List.foldlM_append]

theorem run_append (T : Target) (st : St) (es fs : List Event) :
    run T st (es ++ fs) = (run T st es).bind fun st => run T st fs := by
  simp [run, List.foldlM_append]

/-! ## What a message asks for -/

/-- the three parameters the bag handler looks at -/
def ofBag (p : Parameter) : Bool := p.type = 0x4101 ∨ p.type = 0x8102 ∨ p.type = 0x3103

/-- what a bag message carries; `bytes` is missing when the text is too long for a bag -/
structure Bag where
  md5 : List UInt8
  number : ℕ
  bytes : Option (List UInt8)

/-- the message carries the bag `b`: MD5, number and data in this order, among parameters of other types -/
def IsBag (paras : List Parameter) (b : Bag) : Prop :=
  ∃ pm pn pd, paras.filter ofBag = [pm, pn, pd] ∧ pm.type = 0x4101 ∧ pn.type = 0x8102 ∧ pd.type = 0x3103 ∧
    b.md5 = cstr (pm.value.take pm.len) ∧ b.number = toUnsigned 16 (myatoi pn.value) ∧
    b.bytes = if pd.len ≤ FIRMWARE_BAG_SIZE * 2 then strToHex FIRMWARE_BAG_SIZE pd.value else none

/-- the bag is the next one, for this image, and intact -/
def Accepts (st : St) (b : Bag) (msg : List UInt8) : Prop :=
  b.number = st.fw.current_bag_cnt ∧ (searchStr b.md5 st.fw.md5).isSome ∧
    crc16 (msg.take (FIRMWARE_BAG_SIZE - 2)) = crcRead msg

instance (st : St) (b : Bag) (msg : List UInt8) : Decidable (Accepts st b msg) := by unfold Accepts; infer_instance

/-- the bytes programmed so far -/
def St.image (st : St) : List UInt8 := st.programmed.flatMap Prod.snd

/-- what an accepted bag does: the last one is compared with the image, any other is programmed at its place -/
def accepted (T : Target) (msg : List UInt8) (st : St) : St :=
  let number := st.fw.current_bag_cnt
  let data := msg.take (FIRMWARE_BAG_SIZE - 2)
  if number < st.fw.total_bags then
    { st with
      flash := ByteStore.write st.flash (T.base + (number - 1) * (FIRMWARE_BAG_SIZE - 2)) data
      fw := { st.fw with current_bag_cnt := number + 1, state := .firmwareDownloading }
      programmed := st.programmed ++ [(number, data)] }
  else
    { st with
      fw := { st.fw with
        state := if crc32Read msg = crc32 st.image then .firmwareDownloaded else .firmwareDownloadFailed }
      checked := some (crc32Read msg) }

/-- the answer to a bag: an acceptable one is accepted, any other changes nothing -/
def respond (T : Target) (st : St) (b : Bag) : St :=
  match b.bytes with
  | none => st
  | some msg => if Accepts st b msg then accepted T msg st else st

theorem respond_of_accepts (T : Target) {st : St} {b : Bag} {msg : List UInt8} (hb : b.bytes = some msg)
    (ha : Accepts st b msg) : respond T st b = accepted T msg st := by
  rw [respond, hb]
  exact if_pos ha

/-- the stop names the image being downloaded -/
def Stops (st : St) (paras : List Parameter) : Prop :=
  ∃ p ps, paras = p :: ps ∧ p.type = 0x4001 ∧ (searchStr (cstr (p.value.take p.len)) st.fw.md5).isSome

/-- every bag but the last was programmed once and in order, lies in the flash, and has the CRC32 of the last one -/
structure Complete (T : Target) (st : St) : Prop where
  order : st.programmed.map Prod.fst = List.range' 1 (st.fw.total_bags - 1)
  sizes : ∀ b ∈ st.programmed, b.2.length = FIRMWARE_BAG_SIZE - 2
  stored : ByteStore.read st.flash T.base ((FIRMWARE_BAG_SIZE - 2) * (st.fw.total_bags - 1)) = st.image
  checked : st.checked = some (crc32 st.image)

/-- the download from `st₀` over `es` is safe -/
structure Safe (T : Target) (st₀ : St) (es : List Event) : Prop where
  returns : ∃ st, run T st₀ es = some st
  bag : ∀ pre env paras post st b, es = pre ++ .bag env paras :: post → run T st₀ pre = some st → IsBag paras b →
    step T st (.bag env paras) = some (respond T st b)
  stopped : ∀ pre paras mid post st st', es = pre ++ .stop paras :: (mid ++ post) → run T st₀ pre = some st →
    Stops st paras → run T st₀ (pre ++ .stop paras :: mid) = some st' → st' = { st with fw := .reset }
  downloaded : ∀ pre post st, es = pre ++ post → run T st₀ pre = some st → st.fw.state = .firmwareDownloaded →
    Complete T st

/-! ## The condition -/

/-- a parameter that the handler reads within its buffers and checks as it should -/
structure ParaMeets (env : Surroundings) (p : Parameter) : Prop where
  md5 : p.type = 0x4101 → p.len ≤ 32
  data : p.type = 0x3103 → p.len ≤ FIRMWARE_BAG_SIZE * 2 → ∃ msg, strToHex FIRMWARE_BAG_SIZE p.value = some msg ∧
    (crc16 (msg ++ env.stack) = crcRead msg ↔ crc16 (msg.take (FIRMWARE_BAG_SIZE - 2)) = crcRead msg)

/-- the data parameters that follow the number of the last bag, from `current_bags` on -/
def finals (total_bags : ℕ) : ℕ → List Parameter → ℕ
  | _, [] => 0
  | current_bags, p :: ps =>
    if p.type = 0x8102 then finals total_bags (toUnsigned 16 (myatoi p.value)) ps
    else if p.type = 0x3103 ∧ current_bags = total_bags then finals total_bags current_bags ps + 1
    else finals total_bags current_bags ps

/-- a message that reaches none of the defects: the bound read through NULL is the number of parameters, the image has
more than one bag, the last bag comes once at most, and the parameters are read and checked as they should -/
def Meets (total_bags : ℕ) : Event → Prop
  | .bag env paras => env.nullParaNum = paras.length ∧ total_bags ≠ 1 ∧ finals total_bags 0 paras ≤ 1 ∧
      ∀ p ∈ paras, ParaMeets env p
  | .stop paras => ∃ p ps, paras = p :: ps ∧ (p.type = 0x4001 → p.len ≤ 32)

/-! ## The invariant -/

/-- a download in progress -/
structure Active (T : Target) (total : ℕ) (st : St) : Prop where
  bags : st.fw.total_bags = total
  cnt : 1 ≤ st.fw.current_bag_cnt ∧ st.fw.current_bag_cnt ≤ total
  room : (FIRMWARE_BAG_SIZE - 2) * (total - 1) ≤ T.sectors.size ∧ total < 65536
  order : st.programmed.map Prod.fst = List.range' 1 (st.fw.current_bag_cnt - 1)
  sizes : ∀ b ∈ st.programmed, b.2.length = FIRMWARE_BAG_SIZE - 2
  stored : ByteStore.read st.flash T.base ((FIRMWARE_BAG_SIZE - 2) * (st.fw.current_bag_cnt - 1)) = st.image
  erased : ∀ i, T.base + (FIRMWARE_BAG_SIZE - 2) * (st.fw.current_bag_cnt - 1) ≤ i → i < T.base + T.sectors.size →
    st.flash i = 0xFF
  done : st.fw.state = .firmwareDownloaded → st.fw.current_bag_cnt = total ∧ st.checked = some (crc32 st.image)

/-- a download is in progress, or there is none -/
def Inv (T : Target) (total : ℕ) (st : St) : Prop := Active T total st ∨ st.fw = .reset

theorem Inv.complete {T : Target} {total : ℕ} {st : St} (h : Inv T total st)
    (hd : st.fw.state = .firmwareDownloaded) : Complete T st := by
  rcases h with h | h
  · obtain ⟨hcnt, hchecked⟩ := h.done hd
    have horder := h.order
    have hstored := h.stored
    rw [hcnt, ← h.bags] at horder hstored
    exact ⟨horder, h.sizes, hstored, hchecked⟩
  · rw [h] at hd
    exact absurd hd (by decide)

/-- an accepted request sets up a download, any other leaves none -/
theorem requestUpDate_inv {T : Target} {paras : List Parameter} {st₀ st : St} (h : requestUpDate T paras st₀ = some st) :
    Inv T st.fw.total_bags st := by
  obtain ⟨fw, -, rfl⟩ := Option.map_eq_some_iff.1 h
  split_ifs with hbad
  · exact Or.inr rfl
  · left
    have hfits := T.fits
    have hbags := T.bags
    have hsize : fw.total_size ≤ T.firmwareSize ∧ FIRMWARE_BAG_SIZE ≤ fw.total_size := by
      constructor <;> by_contra hc <;> exact hbad (by omega)
    have hq := bagCount_bounds fw.total_size
    unfold FIRMWARE_BAG_SIZE at hsize hbags hq
    refine ⟨rfl, ⟨le_rfl, ?_⟩, ⟨?_, ?_⟩, rfl, by simp, rfl, ?_, by simp⟩
    all_goals simp only [FIRMWARE_BAG_SIZE]
    · omega
    · omega
    · omega
    · intro i hi hlt
      simp only [Nat.sub_self, Nat.mul_zero, Nat.add_zero] at hi
      exact if_pos ⟨hi, hlt⟩

/-! ## One bag -/

/-- **A bag with the right CRC16.** -/
theorem storeBag_eq {T : Target} {total : ℕ} {st : St} (h : Active T total st) (hone : total ≠ 1) (msg : List UInt8)
    (hlen : msg.length = FIRMWARE_BAG_SIZE) (n : ℕ) {cal : UInt32} (hcal : n = total → cal = 0xFFFFFFFF) :
    (storeBag T msg n cal st).1 = if n = st.fw.current_bag_cnt then accepted T msg st else st := by
  unfold storeBag
  split_ifs with hn hlt heq
  · -- a bag before the last is programmed on erased flash
    subst hn
    obtain ⟨hc1, hc2⟩ := h.cnt
    obtain ⟨hroom, hsmall⟩ := h.room
    rw [h.bags] at hlt
    have hadd : T.base + (st.fw.current_bag_cnt - 1) * (FIRMWARE_BAG_SIZE - 2) + (FIRMWARE_BAG_SIZE - 2) ≤
        T.base + T.sectors.size := by
      unfold FIRMWARE_BAG_SIZE at hroom ⊢
      omega
    have herased : ∀ i, T.base + (st.fw.current_bag_cnt - 1) * (FIRMWARE_BAG_SIZE - 2) ≤ i →
        i < T.base + (st.fw.current_bag_cnt - 1) * (FIRMWARE_BAG_SIZE - 2) + (FIRMWARE_BAG_SIZE - 2) →
        st.flash i = 0xFF := by
      intro i hi hlt
      refine h.erased i ?_ (by omega)
      rw [Nat.mul_comm]
      exact hi
    rw [programBag_erased st.flash _ msg hlen herased, Nat.mod_eq_of_lt (by omega), accepted, h.bags]
    simp only [if_pos hlt]
  · -- the last one is compared with what was programmed
    subst hn
    have hcnt : st.fw.current_bag_cnt = total := by rw [heq, h.bags]
    have hfile : 0 < (FIRMWARE_BAG_SIZE - 2) * (total - 1) := by
      have := h.cnt
      unfold FIRMWARE_BAG_SIZE
      omega
    have hstored := h.stored
    rw [hcnt] at hstored
    rw [accepted, h.bags, hcnt, hcal hcnt]
    simp only [lt_irrefl, if_false, flashCrc_eq _ _ _ hfile, hstored]
  · have := h.cnt
    have := h.bags
    omega
  · rfl

/-- `crc32_cal` is left alone by every bag but the last -/
theorem storeBag_cal (T : Target) (msg : List UInt8) {n : ℕ} (cal : UInt32) {st : St} (hn : n ≠ st.fw.total_bags) :
    (storeBag T msg n cal st).2 = cal := by
  unfold storeBag
  split_ifs <;> rfl

/-- accepting a bag keeps the download going -/
theorem accepted_active {T : Target} {total : ℕ} {st : St} (h : Active T total st) (msg : List UInt8)
    (hlen : msg.length = FIRMWARE_BAG_SIZE) : Active T total (accepted T msg st) := by
  obtain ⟨hc1, hc2⟩ := h.cnt
  obtain ⟨hroom, hsmall⟩ := h.room
  have hdata : (msg.take (FIRMWARE_BAG_SIZE - 2)).length = FIRMWARE_BAG_SIZE - 2 := by
    rw [List.length_take, hlen]
    rfl
  unfold accepted
  rw [h.bags]
  by_cases hlt : st.fw.current_bag_cnt < total
  · simp only [if_pos hlt]
    obtain ⟨k, hk⟩ : ∃ k, st.fw.current_bag_cnt = k + 1 := ⟨st.fw.current_bag_cnt - 1, by omega⟩
    have horder := h.order
    have hstored := h.stored
    rw [hk] at horder hstored hlt ⊢
    simp only [Nat.add_sub_cancel] at horder hstored ⊢
    refine ⟨h.bags, ⟨by simp, by simp only; omega⟩, h.room, ?_, ?_, ?_, ?_, by simp⟩
    · simp only [List.map_append, horder, Nat.add_sub_cancel]
      rw [List.range'_concat, Nat.add_comm 1 (1 * k), Nat.one_mul]
      rfl
    · intro b hb
      rcases List.mem_append.1 hb with hb | hb
      · exact h.sizes b hb
      · rw [List.mem_singleton.1 hb]
        exact hdata
    · simp only [Nat.add_sub_cancel, St.image, List.flatMap_append, List.flatMap_singleton]
      rw [Nat.mul_add, Nat.mul_one, ByteStore.read_add, Nat.mul_comm k,
        ByteStore.read_write_frame _ _ _ _ _ (Or.inr le_rfl), hstored]
      have hsame := ByteStore.read_write_same st.flash (T.base + (FIRMWARE_BAG_SIZE - 2) * k)
        (msg.take (FIRMWARE_BAG_SIZE - 2))
      rw [hdata] at hsame
      rw [hsame]
      rfl
    · intro i hi hi'
      simp only [Nat.add_sub_cancel] at hi ⊢
      rw [Nat.mul_add, Nat.mul_one] at hi
      rw [ByteStore.write_of_ge _ _ (by rw [hdata, Nat.mul_comm k]; omega)]
      exact h.erased i (by rw [hk, Nat.add_sub_cancel]; omega) hi'
  · simp only [if_neg hlt]
    refine ⟨h.bags, h.cnt, h.room, h.order, h.sizes, h.stored, h.erased, ?_⟩
    intro hd
    simp only at hd
    split_ifs at hd with hcrc
    exact ⟨by simp only; omega, by simp only [hcrc]; rfl⟩

/-! ## One message -/

/-- the four kinds of parameters -/
theorem para_cases (p : Parameter) : p.type = 0x4101 ∨ p.type = 0x8102 ∨ p.type = 0x3103 ∨
    (p.type ≠ 0x4101 ∧ p.type ≠ 0x8102 ∧ p.type ≠ 0x3103) := by
  by_cases h1 : p.type = 0x4101
  · exact Or.inl h1
  · by_cases h2 : p.type = 0x8102
    · exact Or.inr (Or.inl h2)
    · by_cases h3 : p.type = 0x3103
      · exact Or.inr (Or.inr (Or.inl h3))
      · exact Or.inr (Or.inr (Or.inr ⟨h1, h2, h3⟩))

/-- the bag handler's loop skips every other parameter -/
theorem recvLoop_filter (T : Target) (env : Surroundings) (ps : List Parameter) : ∀ md5 n cal st,
    recvLoop T env ps md5 n cal st = recvLoop T env (ps.filter ofBag) md5 n cal st := by
  induction ps with
  | nil => intro md5 n cal st; rfl
  | cons p ps ih =>
    intro md5 n cal st
    rcases para_cases p with h | h | h | ⟨h1, h2, h3⟩
    · rw [List.filter_cons_of_pos (by simp [ofBag, h]), recvLoop_md5 (h := h), recvLoop_md5 (h := h)]
      simp only [← ih]
    · rw [List.filter_cons_of_pos (by simp [ofBag, h]), recvLoop_number (h := h), recvLoop_number (h := h)]
      simp only [← ih]
    · rw [List.filter_cons_of_pos (by simp [ofBag, h]), recvLoop_data (h := h), recvLoop_data (h := h)]
      simp only [← ih]
    · rw [List.filter_cons_of_neg (by simp [ofBag, h1, h2, h3]), recvLoop_other _ _ _ _ _ _ _ _ h1 h2 h3, ih]

/-- with no download in progress, a message changes nothing -/
theorem recvLoop_idle (T : Target) (env : Surroundings) {st : St} (hst : st.fw = .reset) (ps : List Parameter)
    (hps : ∀ p ∈ ps, ParaMeets env p) : ∀ md5 n cal, recvLoop T env ps md5 n cal st = some st := by
  induction ps with
  | nil => intro md5 n cal; rfl
  | cons p ps ih =>
    intro md5 n cal
    have hp := hps p (by simp)
    have ih := ih fun q hq => hps q (List.mem_cons_of_mem p hq)
    rcases para_cases p with h | h | h | ⟨h1, h2, h3⟩
    · rw [recvLoop_md5 (h := h), copyMd5, if_pos (hp.md5 h), Option.bind_some, ih]
    · rw [recvLoop_number (h := h)]
      split_ifs
      · rfl
      · exact ih md5 _ cal
    · have hnone : (searchStr (cstr md5) st.fw.md5).isNone := by rw [hst, FrameWareState.reset, searchStr_nil]; rfl
      rw [recvLoop_data (h := h), if_pos hnone]
    · rw [recvLoop_other _ _ _ _ _ _ _ _ h1 h2 h3, ih]

/-- what the handler makes of a data parameter that it reads -/
theorem storeData_eq {T : Target} {total : ℕ} {env : Surroundings} {st : St} (h : Active T total st) (hone : total ≠ 1)
    {msg : List UInt8} (hlen : msg.length = FIRMWARE_BAG_SIZE)
    (hcrc : crc16 (msg ++ env.stack) = crcRead msg ↔ crc16 (msg.take (FIRMWARE_BAG_SIZE - 2)) = crcRead msg) (n : ℕ)
    {cal : UInt32} (hcal : n = total → cal = 0xFFFFFFFF) :
    (storeData T env n cal st msg).1 =
      if n = st.fw.current_bag_cnt ∧ crc16 (msg.take (FIRMWARE_BAG_SIZE - 2)) = crcRead msg then accepted T msg st
      else st := by
  rw [storeData, apply_ite Prod.fst, storeBag_eq h hone msg hlen n hcal]
  simp only [hcrc]
  split_ifs with h1 h2 h3 h3 h3
  · rfl
  · exact absurd ⟨h2, h1⟩ h3
  · exact absurd h3.1 h2
  · rfl
  · exact absurd h3.2 h1
  · rfl

theorem storeData_cal (T : Target) (env : Surroundings) {n : ℕ} (cal : UInt32) {st : St} (hn : n ≠ st.fw.total_bags)
    (msg : List UInt8) : (storeData T env n cal st msg).2 = cal := by
  rw [storeData, apply_ite Prod.snd, storeBag_cal T msg cal hn, ite_self]

/-- `crc32_cal` is as it was before the loop, or the last bag does not come any more -/
def Fresh (total n : ℕ) (ps : List Parameter) (cal : UInt32) : Prop :=
  cal = 0xFFFFFFFF ∧ finals total n ps ≤ 1 ∨ finals total n ps = 0

/-- any message keeps a download going -/
theorem recvLoop_active {T : Target} {total : ℕ} {env : Surroundings} (hone : total ≠ 1) (ps : List Parameter)
    (hps : ∀ p ∈ ps, ParaMeets env p) : ∀ md5 n cal st, Active T total st → Fresh total n ps cal →
      ∃ st', recvLoop T env ps md5 n cal st = some st' ∧ Active T total st' := by
  induction ps with
  | nil => intro md5 n cal st h _; exact ⟨st, rfl, h⟩
  | cons p ps ih =>
    intro md5 n cal st h hfresh
    have hp := hps p (by simp)
    have ih := ih fun q hq => hps q (List.mem_cons_of_mem p hq)
    unfold Fresh at hfresh
    rw [finals] at hfresh
    rcases para_cases p with hk | hk | hk | ⟨h1, h2, h3⟩
    · rw [recvLoop_md5 (h := hk), copyMd5, if_pos (hp.md5 hk), Option.bind_some]
      rw [hk, if_neg (by decide), if_neg (by simp)] at hfresh
      exact ih _ n cal st h hfresh
    · rw [recvLoop_number (h := hk)]
      rw [if_pos hk] at hfresh
      split_ifs
      · exact ⟨st, rfl, h⟩
      · exact ih md5 _ cal st h hfresh
    · rw [recvLoop_data (h := hk)]
      rw [if_neg (by rw [hk]; decide)] at hfresh
      split_ifs with hm hl
      · exact ⟨st, rfl, h⟩
      · exact ⟨st, rfl, h⟩
      · obtain ⟨msg, hmsg, hcrc⟩ := hp.data hk (by omega)
        have hlen := length_strToHex _ _ _ hmsg
        -- a last bag is the first of its message, and there is none after it
        have hboth : (n = total → cal = 0xFFFFFFFF) ∧ Fresh total n ps (storeData T env n cal st msg).2 := by
          by_cases hn : n = total
          · rw [if_pos ⟨hk, hn⟩] at hfresh
            rcases hfresh with ⟨hcal, hle⟩ | hzero
            · exact ⟨fun _ => hcal, Or.inr (by omega)⟩
            · omega
          · rw [if_neg fun h' => hn h'.2] at hfresh
            rw [storeData_cal T env cal (by rwa [h.bags]) msg]
            exact ⟨fun h' => absurd h' hn, hfresh⟩
        rw [hmsg, Option.bind_some, storeData_eq h hone hlen hcrc n hboth.1]
        refine ih md5 n _ _ ?_ hboth.2
        split_ifs
        · exact accepted_active h msg hlen
        · exact h
    · rw [recvLoop_other _ _ _ _ _ _ _ _ h1 h2 h3]
      rw [if_neg h2, if_neg fun h' => h3 h'.1] at hfresh
      exact ih md5 n cal st h hfresh

/-- **A bag message** does what `respond` says. -/
theorem recvBag_of_isBag {T : Target} {total : ℕ} {env : Surroundings} {paras : List Parameter} {st : St} {b : Bag}
    (h : Inv T total st) (hm : Meets total (.bag env paras)) (hb : IsBag paras b) :
    recvBag T env paras st = some (respond T st b) := by
  obtain ⟨hnum, hone, -, hps⟩ := hm
  rw [recvBag, if_pos hnum.le, hnum, List.take_length]
  rcases h with h | h
  · obtain ⟨pm, pn, pd, hf, hpm, hpn, hpd, hmd5, hnumber, hbytes⟩ := hb
    have hmem : ∀ p ∈ [pm, pn, pd], ParaMeets env p := fun p hp => hps p (List.mem_of_mem_filter (hf ▸ hp))
    have hcopy : copyMd5 (List.replicate 33 0) pm = some (pm.value.take pm.len ++ List.replicate (33 - pm.len) 0) := by
      rw [copyMd5, if_pos ((hmem pm (by simp)).md5 hpm), List.drop_replicate]
    rw [recvLoop_filter, hf, recvLoop_md5 (h := hpm), hcopy, Option.bind_some, recvLoop_number (h := hpn), ← hnumber]
    have hcnt := h.cnt
    rw [← h.bags] at hcnt
    unfold respond
    split_ifs with hbig
    · -- the number is past the last bag
      have hno : ∀ msg, ¬ Accepts st b msg := fun msg ha => by have := ha.1; omega
      cases b.bytes with
      | none => rfl
      | some msg => simp only [if_neg (hno msg)]
    · rw [recvLoop_data (h := hpd), cstr_append_zeros, ← hmd5]
      split_ifs with hnone hlong
      · -- another image
        have hno : ∀ msg, ¬ Accepts st b msg := fun msg ha => by
          have := ha.2.1
          rw [Option.isNone_iff_eq_none.1 hnone] at this
          exact absurd this (by simp)
        cases b.bytes with
        | none => rfl
        | some msg => simp only [if_neg (hno msg)]
      · rw [hbytes, if_neg (by omega)]
      · obtain ⟨msg, hmsg, hcrc⟩ := (hmem pd (by simp)).data hpd (by omega)
        have hlen := length_strToHex _ _ _ hmsg
        have hsome : (searchStr b.md5 st.fw.md5).isSome := Option.isSome_iff_ne_none.2 (by simpa using hnone)
        rw [hbytes, if_pos (by omega), hmsg, Option.bind_some, recvLoop,
          storeData_eq h hone hlen hcrc b.number fun _ => rfl]
        simp only [Accepts, hsome, true_and]
  · have hno : ∀ msg, ¬ Accepts st b msg := fun msg ha => by
      have := ha.2.1
      rw [h, FrameWareState.reset, searchStr_nil] at this
      exact absurd this (by simp)
    rw [recvLoop_idle T env h paras hps]
    unfold respond
    cases b.bytes with
    | none => rfl
    | some msg => simp only [if_neg (hno msg)]

/-- a stop ends the download or changes nothing -/
theorem stop_cases {total : ℕ} {paras : List Parameter} (st : St) (hm : Meets total (.stop paras)) :
    frameWareUpDateStop st paras = some { st with fw := .reset } ∨
      (frameWareUpDateStop st paras = some st ∧ ¬ Stops st paras) := by
  obtain ⟨p, ps, rfl, hp⟩ := hm
  simp only [frameWareUpDateStop]
  split_ifs with ht
  · rw [copyMd5, if_pos (hp ht), Option.map_some, List.drop_replicate, cstr_append_zeros]
    split_ifs with hs
    · exact Or.inl rfl
    · refine Or.inr ⟨rfl, ?_⟩
      rintro ⟨q, qs, hq, -, hq'⟩
      obtain ⟨rfl, -⟩ := List.cons.inj hq
      exact hs hq'
  · refine Or.inr ⟨rfl, ?_⟩
    rintro ⟨q, qs, hq, hq', -⟩
    obtain ⟨rfl, -⟩ := List.cons.inj hq
    exact ht hq'

theorem step_inv {T : Target} {total : ℕ} {st : St} (h : Inv T total st) (e : Event) (hm : Meets total e) :
    ∃ st', step T st e = some st' ∧ Inv T total st' := by
  cases e with
  | bag env paras =>
    obtain ⟨hnum, hone, hfinals, hps⟩ := hm
    simp only [step, recvBag]
    rw [if_pos hnum.le, hnum, List.take_length]
    rcases h with h | h
    · obtain ⟨st', hst', ha⟩ := recvLoop_active hone paras hps (List.replicate 33 0) 0 0xFFFFFFFF st h
        (Or.inl ⟨rfl, hfinals⟩)
      exact ⟨st', hst', Or.inl ha⟩
    · exact ⟨st, recvLoop_idle T env h paras hps _ _ _, Or.inr h⟩
  | stop paras =>
    rcases stop_cases st hm with hs | ⟨hs, -⟩
    · exact ⟨_, hs, Or.inr rfl⟩
    · exact ⟨st, hs, h⟩

/-- after a stop nothing changes any more -/
theorem step_idle {T : Target} {total : ℕ} {st : St} (h : st.fw = .reset) (e : Event) (hm : Meets total e) :
    step T st e = some st := by
  cases e with
  | bag env paras =>
    obtain ⟨hnum, -, -, hps⟩ := hm
    simp only [step, recvBag]
    rw [if_pos hnum.le]
    exact recvLoop_idle T env h _ (fun p hp => hps p (List.mem_of_mem_take hp)) _ _ _
  | stop paras =>
    rcases stop_cases st hm with hs | ⟨hs, -⟩
    · have hself : { st with fw := .reset } = st := by rw [← h]
      rw [hself] at hs
      exact hs
    · exact hs

/-! ## Runs keep the invariant -/

theorem run_inv {T : Target} {total : ℕ} {st₀ : St} (h : Inv T total st₀) (es : List Event)
    (hm : ∀ e ∈ es, Meets total e) : ∃ st, run T st₀ es = some st ∧ Inv T total st := by
  induction es using List.reverseRecOn with
  | nil => exact ⟨st₀, rfl, h⟩
  | append_singleton es e ih =>
    obtain ⟨st, hst, hinv⟩ := ih fun d hd => hm d (List.mem_append_left _ hd)
    obtain ⟨st', hst', hinv'⟩ := step_inv hinv e (hm e (by simp))
    exact ⟨st', by rw [run_snoc, hst]; exact hst', hinv'⟩

theorem run_idle {T : Target} {total : ℕ} {st₀ : St} (h : st₀.fw = .reset) (es : List Event)
    (hm : ∀ e ∈ es, Meets total e) : run T st₀ es = some st₀ := by
  induction es using List.reverseRecOn with
  | nil => rfl
  | append_singleton es e ih =>
    rw [run_snoc, ih fun d hd => hm d (List.mem_append_left _ hd)]
    exact step_idle h e (hm e (by simp))

/-! ## Main result -/

/-- **Download safety.** From the state a request sets up, every run whose messages meet the condition is safe. -/
theorem download_safe (T : Target) (paras : List Parameter) (st₀ st₁ : St) (es : List Event)
    (h : requestUpDate T paras st₀ = some st₁) (hm : ∀ e ∈ es, Meets st₁.fw.total_bags e) : Safe T st₁ es := by
  have hinv := requestUpDate_inv h
  have hrun : ∀ pre post st, es = pre ++ post → run T st₁ pre = some st → Inv T st₁.fw.total_bags st := by
    intro pre post st hes hst
    obtain ⟨st', hst', hinv'⟩ := run_inv hinv pre fun e he => hm e (by rw [hes]; exact List.mem_append_left _ he)
    rw [hst, Option.some.injEq] at hst'
    rw [hst']
    exact hinv'
  refine ⟨?_, ?_, ?_, ?_⟩
  · obtain ⟨st, hst, -⟩ := run_inv hinv es hm
    exact ⟨st, hst⟩
  · intro pre env paras post st b hes hst hb
    exact recvBag_of_isBag (hrun pre _ st hes hst) (hm _ (by rw [hes]; simp)) hb
  · intro pre paras mid post st st' hes hst hs hst'
    have hstop : frameWareUpDateStop st paras = some { st with fw := .reset } := by
      rcases stop_cases st (hm (.stop paras) (by rw [hes]; simp)) with hc | ⟨-, hc⟩
      · exact hc
      · exact absurd hs hc
    have hidle := @run_idle T st₁.fw.total_bags { st with fw := .reset } rfl mid
      fun e he => hm e (by rw [hes]; simp [he])
    rw [run_append, hst, Option.bind_some, run, List.foldlM_cons] at hst'
    have hgo : (frameWareUpDateStop st paras).bind (fun s => run T s mid) = some st' := hst'
    rw [hstop, Option.bind_some, hidle] at hgo
    exact (Option.some.inj hgo).symm
  · intro pre post st hes hst hd
    exact (hrun pre post st hes hst).complete hd

/-! ## A two-bag image -/

def md5Text : List UInt8 := List.replicate 32 0x61

/-- a request for an image of 516 bytes -/
def request : List Parameter := [⟨0x4003, 32, md5Text ++ [0]⟩, ⟨0x9004, 3, [0x35, 0x31, 0x36, 0]⟩]

def idle : St := ⟨.reset, fun _ => 0, [], none⟩

/-- the download the request sets up -/
def started : St :=
  { fw := ⟨.firmwareDownloading, 2, 1, 258, 258, 516, md5Text⟩
    flash := eraseSectors (fun _ => 0) concentrator.sectors
    programmed := []
    checked := none }

/-- a bag whose first 256 bytes have CRC16 0 -/
def quietBag : List UInt8 := [0xFF, 0xFF] ++ List.replicate 256 0

/-- bag 1, in hexadecimal -/
def firstBag : List Parameter :=
  [⟨0x4101, 32, md5Text ++ [0]⟩, ⟨0x8102, 1, [0x31, 0]⟩,
    ⟨0x3103, 516, List.replicate 4 0x46 ++ List.replicate 512 0x30 ++ [0]⟩]

/-- zeros above `msg` on the stack, and `n` at the NULL structure's `para_num` -/
def zeroStack (n : ℕ) : Surroundings := ⟨n, List.replicate (65534 - FIRMWARE_BAG_SIZE) 0, List.length_replicate⟩

theorem request_started : requestUpDate concentrator request idle = some started := rfl

theorem strToHex_firstBag : strToHex FIRMWARE_BAG_SIZE
    (List.replicate 4 0x46 ++ List.replicate 512 0x30 ++ [0]) = some quietBag := by decide +kernel

/-- zeros leave a CRC16 of 0 as it is -/
theorem crc16_quiet (k : ℕ) : crc16 ([0xFF, 0xFF] ++ List.replicate k 0) = (0, 0) := by
  have hzeros : (List.replicate k (0 : UInt8)).foldl crc16Step (0, 0) = (0, 0) := by
    induction k with
    | zero => rfl
    | succ k ih =>
      rw [List.replicate_succ, List.foldl_cons, show crc16Step (0, 0) 0 = (0, 0) by decide, ih]
  have htwo : crc16Step (crc16Step (0xFF, 0xFF) 0xFF) 0xFF = (0, 0) := by decide
  rw [crc16, List.foldl_append, List.foldl_cons, List.foldl_cons, List.foldl_nil, htwo, hzeros]

theorem crc16_take_quietBag : crc16 (quietBag.take (FIRMWARE_BAG_SIZE - 2)) = crcRead quietBag := by
  have htake : quietBag.take (FIRMWARE_BAG_SIZE - 2) = [0xFF, 0xFF] ++ List.replicate 254 0 := by decide +kernel
  rw [htake, crc16_quiet]
  decide

theorem isBag_firstBag : IsBag firstBag ⟨md5Text, 1, some quietBag⟩ := by
  refine ⟨_, _, _, rfl, rfl, rfl, rfl, by decide, by decide, ?_⟩
  rw [if_pos (by decide)]
  exact strToHex_firstBag.symm

theorem meets_firstBag : Meets 2 (.bag (zeroStack 3) firstBag) := by
  refine ⟨rfl, by decide, by decide, ?_⟩
  intro p hp
  simp only [firstBag, List.mem_cons, List.not_mem_nil, or_false] at hp
  rcases hp with rfl | rfl | rfl
  · exact ⟨fun _ => le_rfl, fun h => absurd h (by decide)⟩
  · exact ⟨fun h => absurd h (by decide), fun h => absurd h (by decide)⟩
  · refine ⟨fun h => absurd h (by decide), fun _ _ => ⟨quietBag, strToHex_firstBag, ?_⟩⟩
    have hall : crc16 (quietBag ++ (zeroStack 3).stack) = (0, 0) := by
      rw [quietBag, zeroStack, List.append_assoc, List.replicate_append_replicate, crc16_quiet]
    rw [hall, crc16_take_quietBag]
    exact ⟨fun _ => rfl, fun _ => by decide⟩

theorem download_safe_firstBag : Safe concentrator started [.bag (zeroStack 3) firstBag] :=
  download_safe concentrator request idle started [.bag (zeroStack 3) firstBag] request_started (by
    intro e he
    rw [List.mem_singleton.1 he]
    exact meets_firstBag)

/-- **The first bag is ignored.** The loop bound is read through the NULL pointer; where it is 0, no parameter of a
good bag is looked at. -/
theorem first_bag_ignored : ¬ Safe concentrator started [.bag (zeroStack 0) firstBag] := by
  intro h
  have hstep := h.bag [] (zeroStack 0) firstBag [] started _ rfl rfl isBag_firstBag
  have hsame : step concentrator started (.bag (zeroStack 0) firstBag) = some started := rfl
  have haccept : Accepts started ⟨md5Text, 1, some quietBag⟩ quietBag := ⟨rfl, by decide, crc16_take_quietBag⟩
  have hnext : respond concentrator started ⟨md5Text, 1, some quietBag⟩ = accepted concentrator quietBag started :=
    respond_of_accepts concentrator rfl haccept
  rw [hsame, hnext, Option.some.injEq] at hstep
  have hcnt := congrArg (fun st => st.fw.current_bag_cnt) hstep
  exact absurd hcnt (by decide)

end DataConcentrator.Firmware
