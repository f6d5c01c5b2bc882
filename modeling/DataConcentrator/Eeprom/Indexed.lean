/-
The collections that are written and read one index at a time: lamp configurations, lamp tasks, relay strategies.

The writers take a `u8 i`, the lamp readers a `u16 i`; the relay strategies are read in a loop with a `u8` counter.
- `slot_step`: a write changes the slot of its index modulo 256 and no other of the collection;
- `readStrategies_eq`: the loop reads every strategy when there are at most 255 of them, and never ends otherwise;
- `indexed_iff`: an index reads back, and the others keep their contents, exactly below 256.
-/
import DataConcentrator.Eeprom.NonInterference
import DataConcentrator.Lib.CLoop

namespace DataConcentrator.Eeprom

open ByteStore (Region)

/-! ## Slots -/

/-- what the EEPROM holds in the range of a record -/
def slot (st : St) (r : Rec) : List UInt8 := st.cat25xRead r.region.base r.kind.len

/-- the entry whose slot a write to `r` really goes to -/
def landing (r : Rec) : Rec := ⟨r.kind, r.idx % 256, lt_of_le_of_lt (Nat.mod_le _ _) r.idx_lt⟩

theorem writeAdd_landing (r : Rec) : r.writeAdd = (landing r).region.base := rfl

theorem landing_eq_iff (r : Rec) : landing r = r ↔ r.idx < 256 := by
  rw [Rec.ext_iff']
  constructor
  · rintro ⟨-, hidx⟩
    have hlt : r.idx % 256 < 256 := Nat.mod_lt _ (by omega)
    rwa [show r.idx % 256 = r.idx from hidx] at hlt
  · exact fun h => ⟨rfl, Nat.mod_eq_of_lt h⟩

/-- the calls in question: `WriteLampConfig(i,0,c)`, `WriteLampTaskConfig(i,0,t)` and `WriteRelayStrategy(i,..)` -/
def ByIndex (c : Call) : Prop := c.target.kind.byValue ∧ c.reset = 0 ∨ c.target.kind = .relayModuleStrategy

/-- the record a call stores: the contents, or what the reset makes of them, with their CRC -/
def image (st : St) (c : Call) : List UInt8 :=
  sealRecord ((applyReset c.target c.reset (st.setRam c.target c.contents)).ram c.target)

theorem image_of_no_reset (st : St) {c : Call} (h : c.reset = 0) : image st c = sealRecord c.contents := by
  rw [image, applyReset, h]
  simp

theorem length_image (st : St) (c : Call) : (image st c).length = c.target.kind.len := by
  have h2 := len_ge_two c.target.kind
  have hlen : ((st.setRam c.target c.contents).ram c.target).length = c.target.kind.len := by
    rw [St.setRam_ram_same, c.sized, sizeof_eq_len]
  have himage := length_applyReset c.target c.reset _ hlen
  rw [image, length_sealRecord (by omega), himage]

theorem crcMatches_image (st : St) (c : Call) : crcMatches (image st c) = true := by
  refine crcMatches_sealRecord ?_
  have hlen := length_image st c
  have h2 := len_ge_two c.target.kind
  rw [length_applyReset c.target c.reset _ (by rw [St.setRam_ram_same, c.sized, sizeof_eq_len])]
  exact h2

theorem step_image (st : St) {c : Call} (h : ByIndex c) :
    (step st c).eeprom = ByteStore.write st.eeprom (landing c.target).region.base (image st c) := by
  rcases h with ⟨hv, h0⟩ | hk
  · rw [step, writeRecord_byValue hv, writeByValue, h0, if_neg (by decide), image_of_no_reset st h0]
    simp [St.cat25xWrite, writeAdd_landing]
  · have hstored := writeGlobal_stores c.target c.reset (st.setRam c.target c.contents)
    have hglobal := @writeRecord_global c.target (by rw [hk]; decide) (by rw [hk, Kind.byValue]; decide) c.reset true
      (st.setRam c.target c.contents)
    rw [step, hglobal, hstored.eeprom]
    rfl

/-- **A write changes one slot.** -/
theorem slot_step (st : St) {c : Call} (h : ByIndex c) (s : Rec) (hs : s.kind = c.target.kind) :
    slot (step st c) s = if s = landing c.target then image st c else slot st s := by
  rw [slot, St.cat25xRead, step_image st h]
  split_ifs with hland
  · rw [hland, show (landing c.target).kind.len = (image st c).length from (length_image st c).symm]
    exact ByteStore.read_write_same _ _ _
  · have hidx : s.idx ≠ (landing c.target).idx := fun hi => hland (Rec.ext_iff'.2 ⟨hs, hi⟩)
    have hdis : s.region.Disjoint (landing c.target).region := disjoint_of_same_kind hs hidx
    refine ByteStore.read_write_frame _ _ _ _ _ ?_
    rw [length_image st c]
    exact Or.symm hdis

/-! ## The readers -/

/-- `ReadLampConfig` and `ReadLampTaskConfig` read the slot of their index -/
theorem readByIndex_lamp (st : St) {r : Rec} (h : r.kind.byValue) :
    (readByIndex r st).1 = crcMatches (slot st r) ∧ (readByIndex r st).2.ram r = slot st r := by
  have hidx := r.idx_lt
  have hread : r.readAdd = r.region.base := by
    rw [Rec.readAdd, Rec.region]
    rcases h with h | h
    · rw [h] at hidx ⊢
      rw [Kind.readIdx, Nat.mod_eq_of_lt (lt_trans hidx (by decide))]
    · rw [h] at hidx ⊢
      rw [Kind.readIdx, Nat.mod_eq_of_lt (lt_trans hidx (by decide))]
  rw [readByIndex, hread, sizeof_eq_len]
  exact ⟨rfl, St.setRam_ram_same _ _ _⟩

/-- one round of the second loop of `ReadRelayStrategyGroups`: the stored strategy `i`, when its CRC matches -/
def readStrategy (st : St) (i : ℕ) : Option (List UInt8) :=
  let relay_task := st.cat25xRead (Kind.relayModuleStrategy.add + i * Kind.relayModuleStrategy.len)
    Kind.relayModuleStrategy.sizeof
  if crcMatches relay_task then some relay_task else none

/-- the loop, with `RelayStrategyNum.number` as its bound and a `u8` counter -/
def readStrategies (st : St) (number : ℕ) : Option (List (Option (List UInt8))) :=
  CLoop.forLoop 8 number (fun stored i => some (stored ++ [readStrategy st i])) 255 0 []

/-- **The read loop** ends with every strategy read when the counter can reach the number; otherwise it never ends. -/
theorem readStrategies_eq (st : St) (number : ℕ) :
    readStrategies st number = if number < 256 then some ((List.range number).map (readStrategy st)) else none := by
  have happend : ∀ (is : List ℕ) (stored : List (Option (List UInt8))),
      is.foldlM (fun stored i => some (stored ++ [readStrategy st i])) stored =
        some (stored ++ is.map (readStrategy st)) := by
    intro is
    induction is with
    | nil => intro stored; simp
    | cons i is ih =>
      intro stored
      rw [List.foldlM_cons, Option.bind_eq_bind, Option.bind_some, ih]
      simp
  rw [readStrategies]
  split_ifs with h
  · rw [CLoop.forLoop_eq_foldlM 8 _ 255 [] (by omega) (by omega), happend, List.nil_append]
  · exact CLoop.forLoop_endless _ (by omega) 255 0 [] (by decide)

theorem readStrategy_slot (st : St) {r : Rec} (h : r.kind = .relayModuleStrategy) :
    readStrategy st r.idx = if crcMatches (slot st r) then some (slot st r) else none := by
  rw [readStrategy, sizeof_eq_len, slot, Rec.region, h]

/-! ## Round trips -/

/-- the other entries of the collection keep their contents -/
def OthersKept (st : St) (c : Call) : Prop :=
  ∀ s : Rec, s.kind = c.target.kind → s ≠ c.target → slot (step st c) s = slot st s

/-- after the write the lamp reader of that index finds the record, with a matching CRC -/
structure LampRoundTrip (st : St) (c : Call) : Prop where
  crc : (readByIndex c.target (step st c)).1 = true
  same : (readByIndex c.target (step st c)).2.ram c.target = image st c
  others : OthersKept st c

/-- after the write the loop over `number` strategies finds the record at its index -/
structure RelayRoundTrip (st : St) (c : Call) (number : ℕ) : Prop where
  same : ∃ stored, readStrategies (step st c) number = some stored ∧ stored[c.target.idx]? = some (some (image st c))
  others : OthersKept st c

theorem othersKept_of_small (st : St) {c : Call} (h : ByIndex c) (hlt : c.target.idx < 256) : OthersKept st c := by
  intro s hs hne
  rw [slot_step st h s hs, (landing_eq_iff c.target).2 hlt, if_neg hne]

/-- the write changes nothing at all -/
def Unchanged (st : St) (c : Call) : Prop :=
  slot st c.target = image st c ∧ slot st (landing c.target) = image st c

theorem lampRoundTrip_iff (st : St) {c : Call} (hv : c.target.kind.byValue) (h0 : c.reset = 0) :
    LampRoundTrip st c ↔ c.target.idx < 256 ∨ Unchanged st c := by
  have hby : ByIndex c := Or.inl ⟨hv, h0⟩
  have hown := slot_step st hby c.target rfl
  obtain ⟨hcrc, hram⟩ := readByIndex_lamp (step st c) hv
  constructor
  · intro h
    by_cases hlt : c.target.idx < 256
    · exact Or.inl hlt
    · have hland : landing c.target ≠ c.target := fun he => hlt ((landing_eq_iff c.target).1 he)
      have hsame := h.same
      rw [hram, hown, if_neg (Ne.symm hland)] at hsame
      have hother := h.others (landing c.target) rfl hland
      rw [slot_step st hby (landing c.target) rfl, if_pos rfl] at hother
      exact Or.inr ⟨hsame, hother.symm⟩
  · intro h
    have hslot : slot (step st c) c.target = image st c := by
      rw [hown]
      rcases h with hlt | hun
      · rw [if_pos ((landing_eq_iff c.target).2 hlt).symm]
      · rw [hun.1, ite_self]
    refine ⟨by rw [hcrc, hslot, crcMatches_image], by rw [hram, hslot], ?_⟩
    rcases h with hlt | hun
    · exact othersKept_of_small st hby hlt
    · intro s hs _
      rw [slot_step st hby s hs]
      split_ifs with hland
      · rw [hland, hun.2]
      · rfl

theorem relayRoundTrip_iff (st : St) {c : Call} (hk : c.target.kind = .relayModuleStrategy) {number : ℕ}
    (hin : c.target.idx < number) : RelayRoundTrip st c number ↔ number < 256 := by
  have hby : ByIndex c := Or.inr hk
  constructor
  · intro h
    obtain ⟨stored, hstored, -⟩ := h.same
    rw [readStrategies_eq] at hstored
    by_contra hbig
    rw [if_neg hbig] at hstored
    exact absurd hstored (by simp)
  · intro hlt
    have hsmall : c.target.idx < 256 := by omega
    have hslot : slot (step st c) c.target = image st c := by
      rw [slot_step st hby c.target rfl, if_pos ((landing_eq_iff c.target).2 hsmall).symm]
    refine ⟨⟨_, by rw [readStrategies_eq, if_pos hlt], ?_⟩, othersKept_of_small st hby hsmall⟩
    rw [List.getElem?_map, List.getElem?_range hin, Option.map_some, readStrategy_slot _ hk, hslot, crcMatches_image,
      if_pos rfl]

/-- **Indexed records.** A lamp record reads back, with the others unchanged, exactly when its index is below 256 or the
write changes nothing; a relay strategy among `number` stored ones exactly when `number` is below 256. -/
theorem indexed_iff (st : St) (c : Call) :
    (c.target.kind.byValue → c.reset = 0 → (LampRoundTrip st c ↔ c.target.idx < 256 ∨ Unchanged st c)) ∧
    (c.target.kind = .relayModuleStrategy → ∀ number, c.target.idx < number →
      (RelayRoundTrip st c number ↔ number < 256)) :=
  ⟨fun hv h0 => lampRoundTrip_iff st hv h0, fun hk _ hin => relayRoundTrip_iff st hk hin⟩

/-- lamp `i` with every byte 1 -/
def lampOnes (i : ℕ) (h : i < Kind.lampConf.max) : Call :=
  ⟨⟨.lampConf, i, h⟩, 0, List.replicate 31 1, by rw [sizeof_eq_len, List.length_replicate]; rfl⟩

theorem lamp_255_round_trip : LampRoundTrip (boot (fun _ => 0) fun _ => []) (lampOnes 255 (by decide)) :=
  ((indexed_iff (boot (fun _ => 0) fun _ => []) (lampOnes 255 (by decide))).1 (Or.inl rfl) rfl).2
    (Or.inl (by decide))

/-- **Lamp 256 is written over lamp 0.** -/
theorem lamp_256_lost : ¬ LampRoundTrip (boot (fun _ => 0) fun _ => []) (lampOnes 256 (by decide)) := by
  intro h
  rcases (lampRoundTrip_iff _ (Or.inl rfl) rfl).1 h with hlt | hun
  · exact absurd hlt (by decide)
  · have hfirst := congrArg (List.getD · 0 0) hun.1
    exact absurd hfirst (by decide +kernel)

end DataConcentrator.Eeprom
