/-
The configuration store keeps its records apart, as far as the address map lets it.

A run is any sequence of `Write*` calls with `write_enable == 1`, on any records with any contents.
- `step_stores`: a call stores one record image, which passes its reader's checks when the call is `Placed`;
- `readBack_of_lastWritten`: in a run that never writes both records of an overlapping pair, never writes an entry
  past 255, and stores only counts within their bound, every `Read*` hands back the bytes last written to its record;
- `switch_lost`: writing the relay appointment count destroys the stored mode switch.
-/
import DataConcentrator.Eeprom.Config

namespace DataConcentrator.Eeprom

open ByteStore (Region)

/-! ## Runs -/

/-- a call of a `Write*` function with `write_enable == 1`: the record, the `reset` argument, and the contents of the
RAM copy (or of the struct passed) at the call -/
structure Call where
  target : Rec
  reset : ℕ
  contents : List UInt8
  sized : contents.length = target.kind.sizeof

def step (st : St) (c : Call) : St := writeRecord c.target c.reset true (st.setRam c.target c.contents)

def run (st : St) (calls : List Call) : St := calls.foldl step st

/-- power-up: any EEPROM, any RAM, nothing written yet -/
def boot (eeprom : ℕ → UInt8) (ram : Rec → List UInt8) : St := ⟨eeprom, ram, []⟩

/-- the writes of a state's log, by record -/
def written (st : St) : List (Rec × List UInt8) := st.log.map fun e => (e.1, e.2.2)

/-- the bytes most recently written to a record -/
def lastWritten (st : St) (r : Rec) : Option (List UInt8) := ByteStore.lastWrite (written st) r

/-- the part of the stored bytes that a reader hands to the program: the run mode leaves its CRC behind -/
def handedOver (r : Rec) (bs : List UInt8) : List UInt8 := if r.kind = .concentratorRunMode then bs.take 1 else bs

/-- the RAM copy of a record after its `Read*` function has run -/
def readBack (st : St) (r : Rec) : List UInt8 := (readRecord r st).ram r

/-- the reader of the record's collection reaches it: its index is below the count -/
def Covered (st : St) (r : Rec) : Prop :=
  ∀ c, r.kind.countKind = some c → r.idx < leNat (((readGlobal (.first c) st).ram (.first c)).take 4)

/-- a call that reaches none of the defects: its index fits the `u8` parameter and a count is within its bound -/
def Placed (c : Call) : Prop := c.target.idx < 256 ∧ (c.reset ≠ 1 → c.target.kind.countOk c.contents = true)

instance (c : Call) : Decidable (Placed c) := by unfold Placed; infer_instance

theorem run_snoc (st : St) (calls : List Call) (c : Call) : run st (calls ++ [c]) = step (run st calls) c := by
  simp [run, List.foldl_append]

/-! ## What a writer does -/

/-- the stored bytes pass every check of the record's reader -/
def Readable (k : Kind) (bs : List UInt8) : Prop :=
  if k = .concentratorRunMode then bs = [0, (crc16 [0]).1, (crc16 [0]).2]
  else k.byIndex = true ∨ (crcMatches bs = true ∧ k.countOk bs = true)

theorem len_ge_two (k : Kind) : 2 ≤ k.len := by cases k <;> decide

theorem length_resetRam (r : Rec) (st : St) (h : (st.ram r).length = r.kind.len) :
    ((resetRam r st).ram r).length = r.kind.len := by
  have hs : (resetFields (r.kind.fields (onOffTimes st)) (st.ram r)).length = r.kind.len := by
    rw [length_resetFields _ _ (by rw [sum_widths, h]), h]
  unfold resetRam
  split_ifs with hnext
  · rw [St.setRam_ram_of_ne]
    · simpa using hs
    · intro he; have := congrArg Rec.idx he; simp at this
  · simpa using hs

/-- the `number` field opens its record and resets to 0 -/
theorem number_first (k : Kind) (w m : ℕ) (h : k.countBound = some (w, m)) :
    w + 2 ≤ k.len ∧ ∃ name fs, ∀ onOff, k.fields onOff = Field.zero name w :: fs := by
  cases k <;> simp only [Kind.countBound, Option.some.injEq, Prod.mk.injEq, reduceCtorEq] at h <;>
    obtain ⟨rfl, rfl⟩ := h <;> exact ⟨by decide, _, _, fun _ => rfl⟩

theorem leNat_replicate_zero (n : ℕ) : leNat (List.replicate n 0) = 0 := by
  induction n with
  | zero => rfl
  | succ n ih => simp only [List.replicate_succ, leNat, List.foldr_cons] at ih ⊢; simp [ih]

theorem take_resetFields_zero (name : String) (w : ℕ) (fs : List Field) (bs : List UInt8) :
    (resetFields (Field.zero name w :: fs) bs).take w = List.replicate w 0 := by
  simp [resetFields, Field.zero]

/-- the `number` field lies before the CRC -/
theorem countOk_sealRecord (k : Kind) (bs : List UInt8) (hlen : bs.length = k.len) :
    k.countOk (sealRecord bs) = k.countOk bs := by
  unfold Kind.countOk
  cases hb : k.countBound with
  | none => rfl
  | some p =>
    obtain ⟨w, m⟩ := p
    obtain ⟨hw, -⟩ := number_first k w m hb
    have ht : (sealRecord bs).take w = bs.take w := by
      simp only [sealRecord]
      rw [List.take_append_of_le_length (by simp; omega), List.take_take, Nat.min_eq_left (by omega)]
    simp [ht]

/-- a reset count is 0 -/
theorem countOk_resetRam (r : Rec) (st : St) : r.kind.countOk ((resetRam r st).ram r) = true := by
  unfold Kind.countOk
  cases hb : r.kind.countBound with
  | none => rfl
  | some p =>
    obtain ⟨w, m⟩ := p
    obtain ⟨-, name, fs, hfs⟩ := number_first r.kind w m hb
    have hk : r.kind ≠ .inputCollectorConf := by intro hk; simp [hk, Kind.countBound] at hb
    have hram : (resetRam r st).ram r = resetFields (Field.zero name w :: fs) (st.ram r) := by
      simp [resetRam, hk, hfs]
    simp only [hram, take_resetFields_zero, leNat_replicate_zero]
    simp

theorem length_applyReset (r : Rec) (reset : ℕ) (st : St) (h : (st.ram r).length = r.kind.len) :
    ((applyReset r reset st).ram r).length = r.kind.len := by
  unfold applyReset
  split_ifs with h1 h2
  · exact length_resetRam r st h
  · unfold resetLampFwState
    split_ifs
    · have hl : r.kind.len = 79 := by rw [h2.2]; rfl
      simp [h, hl]
    · exact length_resetRam r st h
  · exact h

theorem countOk_applyReset (r : Rec) (reset : ℕ) (st : St) (h : reset ≠ 1 → r.kind.countOk (st.ram r) = true) :
    r.kind.countOk ((applyReset r reset st).ram r) = true := by
  unfold applyReset
  split_ifs with h1 h2
  · exact countOk_resetRam r st
  · simp [Kind.countOk, Kind.countBound, h2.2]
  · exact h h1

/-- resetting the RAM copy touches neither the EEPROM nor the log -/
theorem applyReset_store (r : Rec) (reset : ℕ) (st : St) :
    (applyReset r reset st).eeprom = st.eeprom ∧ (applyReset r reset st).log = st.log := by
  have hr : (resetRam r st).eeprom = st.eeprom ∧ (resetRam r st).log = st.log := by
    unfold resetRam; split_ifs <;> exact ⟨rfl, rfl⟩
  unfold applyReset
  split_ifs
  · exact hr
  · unfold resetLampFwState
    split_ifs
    · exact ⟨rfl, rfl⟩
    · exact hr
  · exact ⟨rfl, rfl⟩

/-- one `CAT25X_Write`: `t` is `s` with `bs` stored at the record's write address -/
structure Stores (r : Rec) (bs : List UInt8) (s t : St) : Prop where
  eeprom : t.eeprom = ByteStore.write s.eeprom r.writeAdd bs
  log : t.log = s.log ++ [(r, r.writeAdd, bs)]

theorem cat25xWrite_stores (r : Rec) (bs : List UInt8) (s : St) : Stores r bs s (s.cat25xWrite r r.writeAdd bs) :=
  ⟨rfl, rfl⟩

theorem writeGlobal_stores (r : Rec) (reset : ℕ) (st : St) :
    Stores r (sealRecord ((applyReset r reset st).ram r)) st (writeGlobal r reset true st) := by
  obtain ⟨he, hl⟩ := applyReset_store r reset st
  constructor
  · simp [writeGlobal, St.cat25xWrite, he]
  · simp [writeGlobal, St.cat25xWrite, hl]

/-- the records written by value -/
def Kind.byValue (k : Kind) : Prop := k = .lampConf ∨ k = .lampStrategy

theorem writeRecord_global {r : Rec} (h1 : r.kind ≠ .concentratorRunMode) (h2 : ¬ r.kind.byValue) (reset : ℕ)
    (we : Bool) (st : St) : writeRecord r reset we st = writeGlobal r reset we st := by
  unfold Kind.byValue at h2
  unfold writeRecord
  split
  · exact absurd ‹_› h1
  · exact absurd (Or.inl ‹_›) h2
  · exact absurd (Or.inr ‹_›) h2
  · rfl

theorem writeRecord_byValue {r : Rec} (h : r.kind.byValue) (reset : ℕ) (we : Bool) (st : St) :
    writeRecord r reset we st = writeByValue r reset st := by
  unfold writeRecord
  rcases h with h | h <;> rw [h]

theorem writeRunMode_stores {r : Rec} (hk : r.kind = .concentratorRunMode) (reset : ℕ) (st : St) :
    Stores r [0, (crc16 [0]).1, (crc16 [0]).2] st (writeRecord r reset true st) := by
  unfold writeRecord
  rw [hk]
  by_cases h : reset = 1 <;> constructor <;> simp [writeRunMode, h, St.cat25xWrite]

theorem writeByValue_stores (r : Rec) (reset : ℕ) (st : St) (h : (st.ram r).length = r.kind.len) :
    ∃ bs, Stores r bs st (writeByValue r reset st) ∧ bs.length = r.kind.len := by
  unfold writeByValue
  split_ifs
  · refine ⟨_, cat25xWrite_stores r _ st, ?_⟩
    rw [length_resetFields _ _ (by rw [sum_widths, h]), h]
  · refine ⟨_, cat25xWrite_stores r _ st, ?_⟩
    have h2 := len_ge_two r.kind
    rw [length_sealRecord (by omega), h]

/-- **Write spec.** A call stores exactly one record image, of the record's length; if the call is `Placed` the
image passes the checks of the record's reader. -/
theorem step_stores (st : St) (c : Call) : ∃ bs, Stores c.target bs st (step st c) ∧ bs.length = c.target.kind.len ∧
    (Placed c → Readable c.target.kind bs) := by
  set s := st.setRam c.target c.contents
  have hlen : (s.ram c.target).length = c.target.kind.len := by
    rw [St.setRam_ram_same, c.sized, sizeof_eq_len]
  have h2 := len_ge_two c.target.kind
  by_cases hrm : c.target.kind = .concentratorRunMode
  · obtain ⟨he, hl⟩ := writeRunMode_stores hrm c.reset s
    exact ⟨_, ⟨he, hl⟩, by rw [hrm]; rfl, fun _ => by rw [Readable, if_pos hrm]⟩
  · by_cases hv : c.target.kind.byValue
    · obtain ⟨bs, ⟨he, hl⟩, hbs⟩ := writeByValue_stores c.target c.reset s hlen
      have hs : step st c = writeByValue c.target c.reset s := writeRecord_byValue hv c.reset true s
      refine ⟨bs, ⟨by rw [hs]; exact he, by rw [hs]; exact hl⟩, hbs, fun _ => ?_⟩
      rw [Readable, if_neg hrm]
      rcases hv with hv | hv <;> exact Or.inl (by rw [hv]; rfl)
    · have hs : step st c = writeGlobal c.target c.reset true s := writeRecord_global hrm hv c.reset true s
      obtain ⟨he, hl⟩ := writeGlobal_stores c.target c.reset s
      have hlr := length_applyReset c.target c.reset s hlen
      refine ⟨_, ⟨by rw [hs]; exact he, by rw [hs]; exact hl⟩, ?_, fun hp => ?_⟩
      · rw [length_sealRecord (by omega), hlr]
      · rw [Readable, if_neg hrm]
        refine Or.inr ⟨crcMatches_sealRecord (by omega), ?_⟩
        rw [countOk_sealRecord _ _ hlr]
        exact countOk_applyReset _ _ _ (by rw [St.setRam_ram_same]; exact hp.2)

/-! ## What a run leaves in the EEPROM -/

theorem writeAdd_eq {r : Rec} (h : r.idx < 256) : r.writeAdd = r.region.base := by
  simp [Rec.writeAdd, Kind.writeIdx, Rec.region, Nat.mod_eq_of_lt h]

theorem readAdd_eq {r : Rec} (h : r.idx < 256) : r.readAdd = r.region.base := by
  have : r.kind.readIdx r.idx = r.idx := by
    unfold Kind.readIdx
    split <;> exact Nat.mod_eq_of_lt (by omega)
  simp [Rec.readAdd, this, Rec.region]

/-- the state after a run of placed calls: the EEPROM is the initial one with the logged images written to their
records' ranges -/
structure Inv (eeprom : ℕ → UInt8) (targets : List Rec) (st : St) : Prop where
  store : st.eeprom = ByteStore.writes Rec.region eeprom (written st)
  inPlace : ∀ e ∈ st.log, e.2.1 = e.1.region.base ∧ e.2.2.length = e.1.region.size
  readable : ∀ e ∈ st.log, Readable e.1.kind e.2.2
  named : ∀ e ∈ st.log, e.1 ∈ targets ∧ e.1.idx < 256

theorem inv_boot (eeprom : ℕ → UInt8) (ram : Rec → List UInt8) : Inv eeprom [] (boot eeprom ram) := by
  constructor <;> simp [boot, written, ByteStore.writes]

theorem step_inv {eeprom : ℕ → UInt8} {targets : List Rec} {st : St} (h : Inv eeprom targets st) (c : Call)
    (hc : Placed c) : Inv eeprom (targets ++ [c.target]) (step st c) := by
  obtain ⟨bs, ⟨he, hl⟩, hlen, hread⟩ := step_stores st c
  refine ⟨?_, ?_, ?_, ?_⟩
  · have hw : written (step st c) = written st ++ [(c.target, bs)] := by simp [written, hl]
    rw [he, h.store, writeAdd_eq hc.1, hw, ByteStore.writes_snoc]
  all_goals
    intro e hm
    rw [hl, List.mem_append, List.mem_singleton] at hm
    rcases hm with hm | rfl
  · exact h.inPlace e hm
  · exact ⟨writeAdd_eq hc.1, hlen⟩
  · exact h.readable e hm
  · exact hread hc
  · obtain ⟨h1, h2⟩ := h.named e hm
    exact ⟨List.mem_append_left _ h1, h2⟩
  · exact ⟨by simp, hc.1⟩

theorem run_inv (eeprom : ℕ → UInt8) (ram : Rec → List UInt8) (calls : List Call) (h : ∀ c ∈ calls, Placed c) :
    Inv eeprom (calls.map Call.target) (run (boot eeprom ram) calls) := by
  induction calls using List.reverseRecOn with
  | nil => exact inv_boot eeprom ram
  | append_singleton calls c ih =>
    rw [run_snoc, List.map_append]
    exact step_inv (ih fun d hd => h d (List.mem_append_left _ hd)) c (h c (by simp))

/-- **A run keeps each record's last image** in the record's range, when no written pair overlaps -/
theorem region_of_lastWritten {eeprom : ℕ → UInt8} {targets : List Rec} {st : St} (h : Inv eeprom targets st)
    (hc : ∀ r ∈ targets, ∀ s ∈ targets, ¬ Clash r s) {r : Rec} {bs : List UInt8} (hr : lastWritten st r = some bs) :
    ByteStore.read st.eeprom r.region.base r.region.size = bs := by
  rw [h.store]
  apply ByteStore.writes_read Rec.region eeprom (written st) _ _ r bs hr
  · intro w hw
    obtain ⟨e, he, rfl⟩ := List.mem_map.1 hw
    exact (h.inPlace e he).2
  · intro v hv w hw hne
    obtain ⟨e, he, rfl⟩ := List.mem_map.1 hv
    obtain ⟨f, hf, rfl⟩ := List.mem_map.1 hw
    exact disjoint_of_not_clash hne (hc _ (h.named e he).1 _ (h.named f hf).1)

theorem logged_of_lastWritten {st : St} {r : Rec} {bs : List UInt8} (h : lastWritten st r = some bs) :
    ∃ add, (r, add, bs) ∈ st.log := by
  obtain ⟨⟨s, add, cs⟩, he, heq⟩ := List.mem_map.1 (ByteStore.mem_of_lastWrite h)
  simp only [Prod.mk.injEq] at heq
  obtain ⟨rfl, rfl⟩ := heq
  exact ⟨add, he⟩

/-! ## What a reader hands back -/

/-- a global's reader keeps what it reads when the checks pass -/
theorem readGlobal_ram (r : Rec) (st : St) (bs : List UInt8) (h : st.cat25xRead r.readAdd r.kind.sizeof = bs)
    (hc : crcMatches bs = true) (hn : r.kind.countOk bs = true) : (readGlobal r st).ram r = bs := by
  simp [readGlobal, h, hc, hn]

theorem readGlobal_eeprom {r : Rec} (h1 : r.kind ≠ .fwState) (h2 : r.kind ≠ .lampFwState) (st : St) :
    (readGlobal r st).eeprom = st.eeprom := by
  have h := (applyReset_store r 1 (st.setRam r (st.cat25xRead r.readAdd r.kind.sizeof))).1
  simp only [readGlobal, writeGlobal, h1, h2, decide_false, Bool.or_self, Bool.false_eq_true, if_false]
  split_ifs
  · rfl
  · exact h

/-- reading an entry leaves the entries before it alone -/
theorem readGlobal_ram_before {r s : Rec} (hk : s.kind ≠ .fwState ∧ s.kind ≠ .lampFwState) (hlt : r.idx < s.idx)
    (st : St) : (readGlobal s st).ram r = st.ram r := by
  have hne : r ≠ s := by rintro rfl; omega
  have hreset : ∀ t : St, (resetRam s t).ram r = t.ram r := by
    intro t
    unfold resetRam
    split_ifs with hn
    · rw [St.setRam_ram_of_ne, St.setRam_ram_of_ne _ _ hne]
      intro he; have := congrArg Rec.idx he; simp only at this; omega
    · exact St.setRam_ram_of_ne _ _ hne
  simp only [readGlobal, writeGlobal, hk.1, hk.2, decide_false, Bool.or_self, Bool.false_eq_true, if_false, applyReset,
    if_true]
  split_ifs
  · exact St.setRam_ram_of_ne _ _ hne
  · rw [hreset]; exact St.setRam_ram_of_ne _ _ hne

/-- the loop of a collection's reader: entries below `n` hold what was read for them -/
theorem readEntries_ram {r : Rec} (hk : r.kind ≠ .fwState ∧ r.kind ≠ .lampFwState) {st : St} {bs : List UInt8}
    (h : st.cat25xRead r.readAdd r.kind.sizeof = bs) (hc : crcMatches bs = true) (hn : r.kind.countOk bs = true)
    (n : ℕ) :
    ((List.range n).foldl (readEntry r.kind) st).eeprom = st.eeprom ∧
      (r.idx < n → ((List.range n).foldl (readEntry r.kind) st).ram r = bs) := by
  induction n with
  | zero => simp
  | succ n ih =>
    rw [List.range_succ, List.foldl_append, List.foldl_cons, List.foldl_nil]
    set t := (List.range n).foldl (readEntry r.kind) st
    unfold readEntry
    split_ifs with hmax
    · set s : Rec := ⟨r.kind, n, hmax⟩ with hs
      have hks : s.kind ≠ .fwState ∧ s.kind ≠ .lampFwState := hk
      refine ⟨by rw [readGlobal_eeprom hks.1 hks.2]; exact ih.1, fun hlt => ?_⟩
      rcases Nat.lt_succ_iff_lt_or_eq.1 hlt with hlt | heq
      · rw [readGlobal_ram_before hks (by rw [hs]; exact hlt)]; exact ih.2 hlt
      · have hr : s = r := Rec.ext_iff'.2 ⟨rfl, heq.symm⟩
        rw [hr]
        exact readGlobal_ram r t bs (by rw [St.cat25xRead, ih.1]; exact h) hc hn
    · have := r.idx_lt
      exact ⟨ih.1, fun hlt => ih.2 (by omega)⟩

/-- **Read spec.** If the record's range holds an image that passes its reader's checks, the reader hands it back -/
theorem readBack_of_region {r : Rec} (hi : r.idx < 256) {st : St} {bs : List UInt8}
    (h : ByteStore.read st.eeprom r.region.base r.region.size = bs) (hr : Readable r.kind bs) (hcov : Covered st r) :
    readBack st r = handedOver r bs := by
  have hread : st.cat25xRead r.readAdd r.kind.sizeof = bs := by
    rw [readAdd_eq hi, sizeof_eq_len]; exact h
  unfold readBack readRecord handedOver
  unfold Readable at hr
  split_ifs at hr ⊢ with hrm hbi
  · have hbuf : st.cat25xRead r.readAdd r.kind.len = bs := by rw [← sizeof_eq_len]; exact hread
    simp [readRunMode, hbuf, hr]
  · simp [readByIndex, hread]
  · rcases hr with hr | ⟨hc, hn⟩
    · exact absurd hr hbi
    · cases hck : r.kind.countKind with
      | none => exact readGlobal_ram r st bs hread hc hn
      | some c =>
        have hk : r.kind ≠ .fwState ∧ r.kind ≠ .lampFwState := by
          constructor <;> intro he <;> simp [he, Kind.countKind] at hck
        have hc' : c ≠ .fwState ∧ c ≠ .lampFwState := by
          revert hck
          cases r.kind <;> simp only [Kind.countKind, Option.some.injEq, reduceCtorEq, false_imp_iff] <;>
            rintro rfl <;> decide
        have he : (readGlobal (.first c) st).eeprom = st.eeprom := readGlobal_eeprom hc'.1 hc'.2 st
        exact (readEntries_ram hk (by rw [St.cat25xRead, he]; exact hread) hc hn _).2 (hcov c hck)

/-! ## Main results -/

/-- every `CAT25X_Write` so far stayed inside the range of the record it was made for -/
def InRange (st : St) : Prop :=
  ∀ e ∈ st.log, e.1.region.base ≤ e.2.1 ∧ e.2.1 + e.2.2.length ≤ e.1.region.base + e.1.region.size

/-- every record reads back the bytes most recently written to it -/
def Isolated (st : St) : Prop :=
  ∀ r bs, lastWritten st r = some bs → Covered st r → readBack st r = handedOver r bs

/-- **Non-interference of the records.** In a run whose calls are all `Placed` and that never writes both records of
an overlapping pair, every write stays in its record's range, the ranges of different written records are disjoint,
and every `Read*` hands back the bytes last written to its record. -/
theorem readBack_of_lastWritten (eeprom : ℕ → UInt8) (ram : Rec → List UInt8) (calls : List Call)
    (hp : ∀ c ∈ calls, Placed c) (hc : ∀ c ∈ calls, ∀ d ∈ calls, ¬ Clash c.target d.target) :
    InRange (run (boot eeprom ram) calls) ∧
      (∀ c ∈ calls, ∀ d ∈ calls, c.target ≠ d.target → c.target.region.Disjoint d.target.region) ∧
      Isolated (run (boot eeprom ram) calls) := by
  have h := run_inv eeprom ram calls hp
  refine ⟨fun e he => ?_, fun c hcm d hdm hne => disjoint_of_not_clash hne (hc c hcm d hdm), fun r bs hr hcov => ?_⟩
  · obtain ⟨h1, h2⟩ := h.inPlace e he
    omega
  · have hclash : ∀ r ∈ calls.map Call.target, ∀ s ∈ calls.map Call.target, ¬ Clash r s := by
      simpa using hc
    obtain ⟨add, he⟩ := logged_of_lastWritten hr
    exact readBack_of_region (h.named _ he).2 (region_of_lastWritten h hclash hr) (h.readable _ he) hcov

/-- a count of one relay appointment -/
def oneAppointment : Call := ⟨.first .relayModuleAppointmentNum, 0, [1, 0, 0, 0, 0, 0], by decide⟩

/-- a mode switch with no group -/
def emptySwitch : Call := ⟨.first .relayModuleStrategySwitch, 0, List.replicate 29 0, by decide⟩

/-- a light meter entry -/
def secondLumeter : Call := ⟨⟨.lumeterConf, 1, by decide⟩, 1, List.replicate 42 7, by decide⟩

theorem readBack_lumeter_run :
    (∀ c ∈ [oneAppointment, secondLumeter, oneAppointment], Placed c) ∧
      Isolated (run (boot (fun _ => 0) fun _ => []) [oneAppointment, secondLumeter, oneAppointment]) :=
  ⟨by decide, (readBack_of_lastWritten (fun _ => 0) (fun _ => []) [oneAppointment, secondLumeter, oneAppointment]
    (by decide) (by decide)).2.2⟩

/-- **The appointment count destroys the mode switch**: after storing the switch and then the count, the switch's
reader finds a bad CRC and resets it. -/
theorem switch_lost : ¬ Isolated (run (boot (fun _ => 0) fun _ => []) [emptySwitch, oneAppointment]) := by
  intro h
  have hw : lastWritten (run (boot (fun _ => 0) fun _ => []) [emptySwitch, oneAppointment])
      (.first .relayModuleStrategySwitch) = some (sealRecord (List.replicate 29 0)) := by decide +kernel
  have hne : readBack (run (boot (fun _ => 0) fun _ => []) [emptySwitch, oneAppointment])
      (.first .relayModuleStrategySwitch) ≠ sealRecord (List.replicate 29 0) := by decide +kernel
  exact hne (h _ _ hw (by intro c hc; cases hc))

end DataConcentrator.Eeprom
