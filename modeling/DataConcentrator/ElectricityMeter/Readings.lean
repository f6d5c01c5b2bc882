/-
Readings of the external electricity meters: replies decoded into one collect state and copied to the meters.

- `analysisBuiltOutElectricityMeterFrame`: what a reply leaves in the collect state;
- `electricityMeterRecvAndHandleDeviceFrame`: the copy to the meter;
- `readings_iff`: the readings are never mixed exactly when no reply finds what it does not fill filled by another meter;
- `mixed_readings`: the second reply of one meter is lost.
-/
import DataConcentrator.Common.Crc
import DataConcentrator.Lib.Tally
import Mathlib.Data.List.GetD

namespace DataConcentrator.ElectricityMeter

/-! ## Data -/

/-- the fields of `ElectricityMeter_Para_S` -/
inductive Para where
  | voltage
  | current
  | active_power
  | active_energy
  | reactive_energy
  | power_factor
  | frequency
  | line_voltage
deriving DecidableEq

/-- the floating-point numbers: from their bytes, the most significant first, and from whole numbers -/
structure Floats (V : Type) where
  float : List UInt8 → V
  double : List UInt8 → V
  one : V
  quotient : ℕ → ℕ → V
  doubleQuotient : ℕ → ℕ → V
  mul : V → V → V
  sum : List V → V
  sixth : V → V

/-- a field: as it was at the start, or decoded from a reply of the meter with an address -/
inductive Reading (V : Type) where
  | initial
  | decoded (address : UInt8) (value : V)

/-- an array of `ElectricityMeter_Para_S` -/
abbrev Paras (V : Type) := ℕ → Para → Reading V

/-- `ElectricityMeterConfig_S`, as far as replies are decoded with it -/
structure MeterConfig (V : Type) where
  address : UInt8
  channel : UInt8
  voltage_ratio : V
  current_ratio : V

/-- `ElectricityMeterCollectState_S` -/
structure CollectState (V : Type) where
  address : UInt8
  channel : UInt8
  update : UInt8
  collect_para : Paras V

/-- `ElectricityMeterState_S`, as far as replies change it -/
structure MeterState (V : Type) where
  address : UInt8
  channel : UInt8
  current_para : Paras V

/-- the configured meters, the static `meter_state`, and the frames that go on to the server -/
structure Meters (V : Type) where
  meters : List (MeterState V)
  meter_state : CollectState V
  transTransFrames : List (List UInt8)

/-! ## Decoding -/

variable {V : Type} (F : Floats V)

/-- a field to fill -/
structure Write (V : Type) where
  ch : ℕ
  para : Para
  value : V

def fill (address : UInt8) (writes : List (Write V)) (c : Paras V) : Paras V :=
  writes.foldl (fun c w ch para => if ch = w.ch ∧ para = w.para then .decoded address w.value else c ch para) c

/-- the fields of the 116 bytes, and where they stand -/
def powerFields : List (ℕ × Para × ℕ) :=
  [(1, .voltage, 0), (2, .voltage, 4), (3, .voltage, 8), (0, .voltage, 12),
   (1, .line_voltage, 16), (2, .line_voltage, 20), (3, .line_voltage, 24), (0, .line_voltage, 28),
   (1, .current, 32), (2, .current, 36), (3, .current, 40), (0, .current, 44),
   (0, .frequency, 48), (1, .frequency, 48), (2, .frequency, 48), (3, .frequency, 48),
   (1, .active_power, 52), (2, .active_power, 56), (3, .active_power, 60), (0, .active_power, 64),
   (1, .power_factor, 100), (2, .power_factor, 104), (3, .power_factor, 108), (0, .power_factor, 112)]

def powerWrites (data : List UInt8) : List (Write V) :=
  powerFields.map fun f => ⟨f.1, f.2.1, F.float ((data.drop f.2.2).take 4)⟩

def energyWrites (data : List UInt8) : List (Write V) :=
  [⟨0, .active_energy, F.double (data.take 8)⟩, ⟨0, .reactive_energy, F.double ((data.drop 8).take 8)⟩]

/-- two bytes and four bytes of the data, the most significant first -/
def word (data : List UInt8) (k : ℕ) : ℕ := (data.getD k 0).toNat * 256 + (data.getD (k + 1) 0).toNat

def dword (data : List UInt8) (k : ℕ) : ℕ := word data k * 65536 + word data (k + 2)

/-- one of the six channels -/
structure Channel (V : Type) where
  voltage : V
  current : V
  active_power : V
  active_energy : V
  power_factor : V
  frequency : V

def channelAt (voltage_ratio current_ratio : V) (data : List UInt8) (i : ℕ) : Channel V where
  voltage := F.mul (F.quotient (word data (14 * i)) 100) voltage_ratio
  current := F.mul (F.quotient (word data (14 * i + 2)) 100) current_ratio
  active_power := F.quotient (word data (14 * i + 4)) 1000
  active_energy := F.doubleQuotient (dword data (14 * i + 6)) 100
  power_factor := F.quotient (word data (14 * i + 10)) 1000
  frequency := F.quotient (word data (14 * i + 12)) 100

def channelWrites (ch : ℕ) (c : Channel V) : List (Write V) :=
  [⟨ch, .voltage, c.voltage⟩, ⟨ch, .current, c.current⟩, ⟨ch, .active_power, c.active_power⟩,
   ⟨ch, .active_energy, c.active_energy⟩, ⟨ch, .power_factor, c.power_factor⟩, ⟨ch, .frequency, c.frequency⟩]

/-- the six channels, and what they give together -/
def sixWrites (voltage_ratio current_ratio : V) (data : List UInt8) : List (Write V) :=
  let c := channelAt F voltage_ratio current_ratio data
  let all := fun f : Channel V → V => (List.range 6).map fun i => f (c i)
  (List.range 6).flatMap (fun i => channelWrites (i + 1) (c i)) ++
    channelWrites 0 ⟨F.sixth (F.sum (all Channel.voltage)), F.sum (all Channel.current), F.sum (all Channel.active_power),
      F.sum (all Channel.active_energy), F.sixth (F.sum (all Channel.power_factor)), (c 0).frequency⟩

def analysisBuiltOutElectricityMeterFrame (config : List (MeterConfig V)) (buf : List UInt8) (m : CollectState V) :
    UInt8 × CollectState V :=
  let crc16_read := (buf.getD (buf.length - 2) 0, buf.getD (buf.length - 1) 0)
  if crc16_read = crc16 (buf.take (buf.length - 2)) ∧ buf.getD 1 0 = 0x03 then
    let address := buf.getD 0 0
    let data_len := buf.getD 2 0
    let data := buf.drop 3
    let ratios := (config.find? fun c => c.address = address ∧ c.channel = 1).map fun c => (c.voltage_ratio, c.current_ratio)
    if 32 ≤ address ∧ address ≤ 47 then
      if data_len = 116 then
        (1, { m with address := address, channel := 1, collect_para := fill address (powerWrites F data) m.collect_para })
      else if data_len = 16 then
        (1, ⟨address, 1, 1, fill address (energyWrites F data) m.collect_para⟩)
      else (0, m)
    else if 48 ≤ address ∧ address ≤ 53 then
      if data_len = 84 then
        let ratios := ratios.getD (F.one, F.one)
        (1, ⟨address, 1, 1, fill address (sixWrites F ratios.1 ratios.2 data) m.collect_para⟩)
      else (0, m)
    else (0, m)
  else (0, m)

/-- `ElectricityMeterRecvAndHandleDeviceFrame`, for a frame in its queue -/
def electricityMeterRecvAndHandleDeviceFrame (config : List (MeterConfig V)) (s : Meters V) (buf : List UInt8) : Meters V :=
  let r := analysisBuiltOutElectricityMeterFrame F config buf s.meter_state
  if r.1 = 1 then
    if r.2.update = 1 then
      { s with
        meter_state := { r.2 with update := 0 }
        meters := s.meters.map fun m =>
          if m.address = r.2.address ∧ m.channel = r.2.channel then { m with current_para := r.2.collect_para } else m }
    else { s with meter_state := r.2 }
  else { s with meter_state := r.2, transTransFrames := s.transTransFrames ++ [buf] }

/-! ## Replies -/

inductive Kind where
  | power
  | energy
  | six
deriving DecidableEq

/-- which meters send a reply, and how many bytes of data it has -/
def Kind.Fits : Kind → UInt8 → ℕ → Prop
  | .power, address, len => (32 ≤ address ∧ address ≤ 47) ∧ len = 116
  | .energy, address, len => (32 ≤ address ∧ address ≤ 47) ∧ len = 16
  | .six, address, len => (48 ≤ address ∧ address ≤ 53) ∧ len = 84

/-- a well-formed reply -/
structure Reply where
  kind : Kind
  address : UInt8
  data : List UInt8
  fits : kind.Fits address data.length

def Reply.body (r : Reply) : List UInt8 := r.address :: 0x03 :: UInt8.ofNat r.data.length :: r.data

def Reply.frame (r : Reply) : List UInt8 := r.body ++ [(crc16 r.body).1, (crc16 r.body).2]

/-- a run: the meters, and the replies handled so far, the last one first -/
structure Run (V : Type) extends Meters V where
  handled : List Reply

def Run.step (config : List (MeterConfig V)) (s : Run V) (r : Reply) : Run V :=
  ⟨electricityMeterRecvAndHandleDeviceFrame F config s.toMeters r.frame, r :: s.handled⟩

/-- each field is as it was at the start, or decoded from a reply of the meter with the address -/
def Own (address : UInt8) (c : Paras V) : Prop :=
  ∀ ch para, c ch para = .initial ∨ ∃ value, c ch para = .decoded address value

/-- the fields of each meter are its own -/
def Unmixed (s : Run V) : Prop := ∀ m ∈ s.meters, Own m.address m.current_para

/-- the fields that a reply fills -/
def Kind.fields : Kind → List (ℕ × Para)
  | .power => powerFields.map fun f => (f.1, f.2.1)
  | .energy => [(0, .active_energy), (0, .reactive_energy)]
  | .six => [1, 2, 3, 4, 5, 6, 0].flatMap fun ch =>
      [(ch, .voltage), (ch, .current), (ch, .active_power), (ch, .active_energy), (ch, .power_factor), (ch, .frequency)]

/-- the energies of a configured meter come when no six-channel module has replied, and after its own power reply; the
reply of a configured six-channel module comes when no other kind of meter has replied -/
def ReplyFits (s : Run V) (r : Reply) : Prop :=
  (∃ m ∈ s.meters, m.address = r.address ∧ m.channel = 1) →
    match r.kind with
    | .power => True
    | .energy => (∀ q ∈ s.handled, q.kind ≠ .six) ∧
        ∀ q, s.handled.find? (fun q => q.kind = .power) = some q → q.address = r.address
    | .six => ∀ q ∈ s.handled, q.kind = .six

section Steps

variable {F : Floats V} {config : List (MeterConfig V)} {s : Run V}

/-! ## What a reply fills -/

/-- the fields listed are decoded from a reply of the meter, the others stay -/
def Fills (address : UInt8) (fields : List (ℕ × Para)) (c c' : Paras V) : Prop :=
  ∀ ch para, ((ch, para) ∈ fields → ∃ value, c' ch para = .decoded address value) ∧
    ((ch, para) ∉ fields → c' ch para = c ch para)

theorem fill_fills (address : UInt8) (writes : List (Write V)) : ∀ c : Paras V,
    Fills address (writes.map fun w => (w.ch, w.para)) c (fill address writes c) := by
  induction writes with
  | nil => exact fun c ch para => ⟨fun h => absurd h List.not_mem_nil, fun _ => rfl⟩
  | cons w writes ih =>
    intro c ch para
    obtain ⟨hmem, hnot⟩ := ih (fun ch para => if ch = w.ch ∧ para = w.para then .decoded address w.value else c ch para)
      ch para
    by_cases hlater : (ch, para) ∈ writes.map fun w => (w.ch, w.para)
    · exact ⟨fun _ => hmem hlater, fun h => absurd (List.mem_cons_of_mem _ hlater) h⟩
    · by_cases hhere : ch = w.ch ∧ para = w.para
      · refine ⟨fun _ => ⟨w.value, (hnot hlater).trans (if_pos hhere)⟩, fun h => absurd ?_ h⟩
        rw [hhere.1, hhere.2]
        exact List.mem_cons_self
      · refine ⟨fun h => ?_, fun _ => (hnot hlater).trans (if_neg hhere)⟩
        rcases List.mem_cons.1 h with heq | h
        · exact absurd (Prod.mk.inj heq) hhere
        · exact absurd h hlater

/-- the parts of a frame as they are read -/
theorem frame_parts (r : Reply) : r.frame.getD (r.frame.length - 2) 0 = (crc16 r.body).1 ∧
    r.frame.getD (r.frame.length - 1) 0 = (crc16 r.body).2 ∧ r.frame.take (r.frame.length - 2) = r.body ∧
    r.frame.getD 0 0 = r.address ∧ r.frame.getD 1 0 = 0x03 ∧ r.frame.getD 2 0 = UInt8.ofNat r.data.length ∧
    r.frame.drop 3 = r.data ++ [(crc16 r.body).1, (crc16 r.body).2] := by
  have hlen : r.frame.length = r.body.length + 2 := by rw [Reply.frame, List.length_append]; rfl
  refine ⟨?_, ?_, ?_, rfl, rfl, rfl, rfl⟩
  · rw [hlen, Nat.add_sub_cancel, Reply.frame, List.getD_append_right _ _ _ _ le_rfl, Nat.sub_self]
    rfl
  · rw [hlen, show r.body.length + 2 - 1 = r.body.length + 1 from rfl, Reply.frame,
      List.getD_append_right _ _ _ _ (Nat.le_succ _), Nat.succ_sub (le_refl _), Nat.sub_self]
    rfl
  · rw [hlen, Nat.add_sub_cancel, Reply.frame, List.take_left]

/-- what a reply leaves in the collect state -/
theorem analysis_frame (F : Floats V) (config : List (MeterConfig V)) (r : Reply) (m : CollectState V) :
    ∃ c, analysisBuiltOutElectricityMeterFrame F config r.frame m =
      (1, ⟨r.address, 1, if r.kind = .power then m.update else 1, c⟩) ∧ Fills r.address r.kind.fields m.collect_para c := by
  obtain ⟨hhi, hlo, hbody, haddress, hcode, hlen, hdata⟩ := frame_parts r
  rw [analysisBuiltOutElectricityMeterFrame]
  simp only [hhi, hlo, hbody, haddress, hcode, hlen, hdata, and_self, if_true]
  have hfits := r.fits
  cases hkind : r.kind with
  | power =>
    rw [hkind] at hfits
    obtain ⟨hrange, hn⟩ := hfits
    have hlen : UInt8.ofNat r.data.length = 116 := by rw [hn]; rfl
    rw [if_pos hrange, if_pos hlen, if_pos rfl]
    exact ⟨_, rfl, fill_fills r.address (powerWrites F _) m.collect_para⟩
  | energy =>
    rw [hkind] at hfits
    obtain ⟨hrange, hn⟩ := hfits
    have hlen : UInt8.ofNat r.data.length = 16 := by rw [hn]; rfl
    rw [if_pos hrange, if_neg (by rw [hlen]; decide), if_pos hlen, if_neg (by decide)]
    exact ⟨_, rfl, fill_fills r.address (energyWrites F _) m.collect_para⟩
  | six =>
    rw [hkind] at hfits
    obtain ⟨hrange, hn⟩ := hfits
    have hlen : UInt8.ofNat r.data.length = 84 := by rw [hn]; rfl
    have hother : ¬ (32 ≤ r.address ∧ r.address ≤ 47) := fun h =>
      absurd (UInt8.le_iff_toNat_le.1 (UInt8.le_trans hrange.1 h.2)) (by decide)
    rw [if_neg hother, if_pos hrange, if_pos hlen, if_neg (by decide)]
    exact ⟨_, rfl, fill_fills r.address (sixWrites F _ _ _) m.collect_para⟩

/-! ## Who filled a field -/

/-- the last reply that fills a field -/
def lastFill (handled : List Reply) (ch : ℕ) (para : Para) : Option Reply :=
  handled.find? fun q => (ch, para) ∈ q.kind.fields

/-- each field is decoded from the last reply that fills it -/
def FilledBy (handled : List Reply) (c : Paras V) : Prop :=
  ∀ ch para, match lastFill handled ch para with
    | none => c ch para = .initial
    | some q => ∃ value, c ch para = .decoded q.address value

theorem lastFill_mem {handled : List Reply} {ch : ℕ} {para : Para} {q : Reply} (h : lastFill handled ch para = some q) :
    q ∈ handled ∧ (ch, para) ∈ q.kind.fields :=
  ⟨List.mem_of_find?_eq_some h, by simpa using List.find?_some h⟩

theorem lastFill_cons {handled : List Reply} {r : Reply} {ch : ℕ} {para : Para} (h : (ch, para) ∈ r.kind.fields) :
    lastFill (r :: handled) ch para = some r := List.find?_cons_of_pos (decide_eq_true h)

theorem lastFill_skip {handled : List Reply} {r : Reply} {ch : ℕ} {para : Para} (h : (ch, para) ∉ r.kind.fields) :
    lastFill (r :: handled) ch para = lastFill handled ch para :=
  List.find?_cons_of_neg fun hd => h (of_decide_eq_true hd)

/-- a field that one reply fills has a last reply that fills it -/
theorem lastFill_isSome {handled : List Reply} {ch : ℕ} {para : Para} {q : Reply} (hq : q ∈ handled)
    (hfill : (ch, para) ∈ q.kind.fields) : ∃ q', lastFill handled ch para = some q' := by
  apply Option.isSome_iff_exists.1
  exact List.find?_isSome.2 ⟨q, hq, decide_eq_true hfill⟩

theorem FilledBy.cons {handled : List Reply} {r : Reply} {c c' : Paras V} (h : FilledBy handled c)
    (hfills : Fills r.address r.kind.fields c c') : FilledBy (r :: handled) c' := by
  intro ch para
  obtain ⟨hmem, hnot⟩ := hfills ch para
  by_cases hr : (ch, para) ∈ r.kind.fields
  · rw [lastFill_cons hr]
    exact hmem hr
  · rw [lastFill_skip hr, hnot hr]
    exact h ch para

/-- all the fields are those of one meter -/
theorem FilledBy.own_iff {handled : List Reply} {c : Paras V} (h : FilledBy handled c) (address : UInt8) :
    Own address c ↔ ∀ ch para q, lastFill handled ch para = some q → q.address = address := by
  constructor
  · intro hown ch para q hq
    have hfield := h ch para
    rw [hq] at hfield
    obtain ⟨value, hfield⟩ := hfield
    rcases hown ch para with hinitial | ⟨value', hdecoded⟩
    · rw [hfield] at hinitial
      cases hinitial
    · rw [hfield] at hdecoded
      cases hdecoded
      rfl
  · intro hall ch para
    have hfield := h ch para
    cases hlast : lastFill handled ch para with
    | none =>
      rw [hlast] at hfield
      exact Or.inl hfield
    | some q =>
      rw [hlast] at hfield
      rw [← hall ch para q hlast]
      exact Or.inr hfield

/-! ## Which replies go together -/

theorem six_address {q r : Reply} (hq : q.kind = .six) (hr : r.kind ≠ .six) : q.address ≠ r.address := by
  intro heq
  have hq' := q.fits
  rw [hq] at hq'
  have hr' : 32 ≤ r.address ∧ r.address ≤ 47 := by
    have hfits := r.fits
    cases hkind : r.kind with
    | power => rw [hkind] at hfits; exact hfits.1
    | energy => rw [hkind] at hfits; exact hfits.1
    | six => exact absurd hkind hr
  rw [heq] at hq'
  exact absurd (UInt8.le_iff_toNat_le.1 (UInt8.le_trans hq'.1.1 hr'.2)) (by decide)

/-- a field that one kind of reply alone fills -/
theorem field_of_kind {handled : List Reply} {r q : Reply} {ch : ℕ} {para : Para} {kind : Kind}
    (honly : ∀ k : Kind, (ch, para) ∈ k.fields ↔ k = kind) (hr : r.kind ≠ kind) (hq : q ∈ handled) (hkind : q.kind = kind) :
    ∃ q', lastFill (r :: handled) ch para = some q' ∧ q'.kind = kind := by
  obtain ⟨q', hlast⟩ := lastFill_isSome hq ((honly q.kind).2 hkind)
  refine ⟨q', ?_, (honly q'.kind).1 (lastFill_mem hlast).2⟩
  rw [lastFill_skip fun h => hr ((honly r.kind).1 h)]
  exact hlast

theorem line_voltage_power (k : Kind) : (0, .line_voltage) ∈ k.fields ↔ k = .power := by cases k <;> decide

theorem voltage_six (k : Kind) : (4, .voltage) ∈ k.fields ↔ k = .six := by cases k <;> decide

theorem reactive_energy_energy (k : Kind) : (0, .reactive_energy) ∈ k.fields ↔ k = .energy := by cases k <;> decide

/-- after the energies of a meter -/
theorem energy_iff {handled : List Reply} {r : Reply} (hr : r.kind = .energy) :
    (∀ ch para q, lastFill (r :: handled) ch para = some q → q.address = r.address) ↔
      (∀ q ∈ handled, q.kind ≠ .six) ∧
        ∀ q, handled.find? (fun q => q.kind = .power) = some q → q.address = r.address := by
  constructor
  · intro h
    refine ⟨fun q hq hsix => ?_, fun q hq => h 0 .line_voltage q ?_⟩
    · obtain ⟨q', hlast, hkind⟩ := field_of_kind voltage_six (by rw [hr]; decide) hq hsix
      exact six_address hkind (by rw [hr]; decide) (h 4 .voltage q' hlast)
    · have hnot : (0, Para.line_voltage) ∉ r.kind.fields := by rw [hr]; decide
      rw [lastFill_skip hnot, lastFill]
      simp only [line_voltage_power]
      exact hq
  · intro h ch para q hlast
    obtain ⟨hsix, hpower⟩ := h
    by_cases hfill : (ch, para) ∈ r.kind.fields
    · rw [lastFill_cons hfill] at hlast
      rw [Option.some.inj hlast]
    · rw [lastFill_skip hfill] at hlast
      obtain ⟨hmem, hqfill⟩ := lastFill_mem hlast
      have hkind : q.kind = .power := by
        cases hkind : q.kind with
        | power => rfl
        | energy => exact absurd (hr ▸ hkind ▸ hqfill) hfill
        | six => exact absurd hkind (hsix q hmem)
      rw [hkind] at hqfill
      -- no reply after it is a power reply, since that would fill the field too
      obtain ⟨-, later, earlier, hsplit, hlater⟩ := List.find?_eq_some_iff_append.1 hlast
      apply hpower q
      refine List.find?_eq_some_iff_append.2 ⟨decide_eq_true hkind, later, earlier, hsplit, fun x hx => ?_⟩
      have hx := hlater x hx
      simp only [Bool.not_eq_true', decide_eq_false_iff_not] at hx ⊢
      intro hxkind
      rw [hxkind] at hx
      exact hx hqfill

/-- after a reply of a six-channel module -/
theorem six_iff {handled : List Reply} {r : Reply} (hr : r.kind = .six) :
    (∀ ch para q, lastFill (r :: handled) ch para = some q → q.address = r.address) ↔ ∀ q ∈ handled, q.kind = .six := by
  constructor
  · intro h q hq
    cases hkind : q.kind with
    | power =>
      obtain ⟨q', hlast, hkind'⟩ := field_of_kind line_voltage_power (by rw [hr]; decide) hq hkind
      exact absurd (h 0 .line_voltage q' hlast).symm (six_address hr (by rw [hkind']; decide))
    | energy =>
      obtain ⟨q', hlast, hkind'⟩ := field_of_kind reactive_energy_energy (by rw [hr]; decide) hq hkind
      exact absurd (h 0 .reactive_energy q' hlast).symm (six_address hr (by rw [hkind']; decide))
    | six => rfl
  · intro h ch para q hlast
    obtain ⟨hmem, hfill⟩ := lastFill_mem hlast
    have hkind : q.kind = .six := by
      rcases List.mem_cons.1 hmem with rfl | hmem
      · exact hr
      · exact h q hmem
    rw [hkind, ← hr] at hfill
    rw [lastFill_cons hfill] at hlast
    rw [Option.some.inj hlast]

/-! ## A step -/

/-- the collect state holds what the replies have filled, and nothing is left to copy -/
structure Kept (s : Run V) : Prop where
  update : s.meter_state.update = 0
  filled : FilledBy s.handled s.meter_state.collect_para

variable (F config) in
/-- the 116 bytes are only collected -/
theorem step_power (h : Kept s) {r : Reply} (hkind : r.kind = .power) :
    ∃ c, s.step F config r = ⟨⟨s.meters, ⟨r.address, 1, 0, c⟩, s.transTransFrames⟩, r :: s.handled⟩ ∧
      Fills r.address r.kind.fields s.meter_state.collect_para c := by
  obtain ⟨c, hanalysis, hfills⟩ := analysis_frame F config r s.meter_state
  rw [if_pos hkind, h.update] at hanalysis
  refine ⟨c, ?_, hfills⟩
  rw [Run.step, electricityMeterRecvAndHandleDeviceFrame, hanalysis]
  rfl

variable (F config) in
/-- the other replies are copied, with all that has been collected -/
theorem step_copy (s : Run V) {r : Reply} (hkind : r.kind ≠ .power) :
    ∃ c, s.step F config r = ⟨⟨s.meters.map fun m =>
        if m.address = r.address ∧ m.channel = 1 then { m with current_para := c } else m,
          ⟨r.address, 1, 0, c⟩, s.transTransFrames⟩, r :: s.handled⟩ ∧
      Fills r.address r.kind.fields s.meter_state.collect_para c := by
  obtain ⟨c, hanalysis, hfills⟩ := analysis_frame F config r s.meter_state
  rw [if_neg hkind] at hanalysis
  refine ⟨c, ?_, hfills⟩
  rw [Run.step, electricityMeterRecvAndHandleDeviceFrame, hanalysis]
  rfl

theorem step_kept (h : Kept s) (r : Reply) : Kept (s.step F config r) := by
  by_cases hkind : r.kind = .power
  · obtain ⟨c, hstep, hfills⟩ := step_power F config h hkind
    rw [hstep]
    exact ⟨rfl, h.filled.cons hfills⟩
  · obtain ⟨c, hstep, hfills⟩ := step_copy F config s hkind
    rw [hstep]
    exact ⟨rfl, h.filled.cons hfills⟩

/-- what is copied is the meter's own exactly when the replies so far have filled nothing else -/
theorem copy_iff (h : Kept s) (hs : Unmixed s) {r : Reply} (hkind : r.kind ≠ .power) :
    Unmixed (s.step F config r) ↔ ((∃ m ∈ s.meters, m.address = r.address ∧ m.channel = 1) →
      ∀ ch para q, lastFill (r :: s.handled) ch para = some q → q.address = r.address) := by
  obtain ⟨c, hstep, hfills⟩ := step_copy F config s hkind
  rw [hstep, ← (h.filled.cons hfills).own_iff r.address]
  constructor
  · intro hunmixed hex
    obtain ⟨m, hm, hmatch⟩ := hex
    have hown := hunmixed _ (List.mem_map_of_mem hm)
    rw [if_pos hmatch] at hown
    exact hmatch.1 ▸ hown
  · intro hown m' hm'
    obtain ⟨m, hm, rfl⟩ := List.mem_map.1 hm'
    split_ifs with hmatch
    · exact hmatch.1.symm ▸ hown ⟨m, hm, hmatch⟩
    · exact hs m hm

/-- **One reply** leaves the readings unmixed exactly when it fits those handled before. -/
theorem step_iff (h : Kept s) (hs : Unmixed s) (r : Reply) : Unmixed (s.step F config r) ↔ ReplyFits s r := by
  rw [ReplyFits]
  cases hkind : r.kind with
  | power =>
    obtain ⟨c, hstep, -⟩ := step_power F config h hkind
    rw [hstep]
    exact ⟨fun _ _ => trivial, fun _ => hs⟩
  | energy => rw [copy_iff h hs (by rw [hkind]; decide), energy_iff hkind]
  | six => rw [copy_iff h hs (by rw [hkind]; decide), six_iff hkind]

end Steps

/-! ## Runs -/

/-- the configured meters at the start, with their addresses and channels -/
def start (meters : List (UInt8 × UInt8)) : Run V :=
  ⟨⟨meters.map fun m => ⟨m.1, m.2, fun _ _ => .initial⟩, ⟨0, 0, 0, fun _ _ => .initial⟩, []⟩, []⟩

theorem kept_start (meters : List (UInt8 × UInt8)) : Kept (V := V) (start meters) := ⟨rfl, fun _ _ => rfl⟩

theorem unmixed_start (meters : List (UInt8 × UInt8)) : Unmixed (V := V) (start meters) := by
  intro m hm ch para
  obtain ⟨m', -, rfl⟩ := List.mem_map.1 hm
  exact Or.inl rfl

/-- **Readings of several meters.** For any configured meters and any replies in any order: the fields of each meter are at
all times as at the start or decoded from its own replies, exactly when each reply fits those handled before it. -/
theorem readings_iff (F : Floats V) (config : List (MeterConfig V)) (meters : List (UInt8 × UInt8)) (replies : List Reply) :
    Tally.Throughout (fun s r => some (s.step F config r)) Unmixed (start meters) replies ↔
      Tally.Along (fun s r => some (s.step F config r)) ReplyFits (start meters) replies := by
  refine @Tally.throughout_iff_along _ _ _ Kept Unmixed ReplyFits (fun _ => True) ?_ ?_ replies (fun _ _ => trivial) _
    (kept_start meters) (unmixed_start meters)
  · intro s r t _ hk _ ht _
    cases ht
    exact step_kept hk r
  · intro s r _ hk hs
    rw [← step_iff hk hs r]
    constructor
    · intro h
      obtain ⟨t, ht, hunmixed⟩ := h
      cases ht
      exact hunmixed
    · exact fun h => ⟨_, rfl, h⟩

/-! ## A lost reply -/

def powerReply : Reply := ⟨.power, 32, List.replicate 116 0, by exact ⟨⟨by decide, by decide⟩, rfl⟩⟩

def energyReply : Reply := ⟨.energy, 33, List.replicate 16 0, by exact ⟨⟨by decide, by decide⟩, rfl⟩⟩

/-- numbers for replies whose bytes are all zero -/
def zeroFloats : Floats ℚ := ⟨fun _ => 0, fun _ => 0, 1, fun a b => a / b, fun a b => a / b, (· * ·), List.sum, (· / 6)⟩

/-- **A lost reply.** Two meters; the second reply of the one is lost, and the second reply of the other is handled. -/
theorem mixed_readings :
    ¬ Tally.Throughout (fun s r => some (s.step zeroFloats [⟨32, 1, 1, 1⟩, ⟨33, 1, 1, 1⟩] r)) Unmixed
      (start [(32, 1), (33, 1)]) [powerReply, energyReply] := by
  intro h
  obtain ⟨-, s1, h1, hs1, s2, h2, hs2⟩ := h
  obtain ⟨c, hstep, -⟩ := step_power zeroFloats [⟨32, 1, 1, 1⟩, ⟨33, 1, 1, 1⟩] (kept_start [(32, 1), (33, 1)])
    (r := powerReply) rfl
  have hk1 : Kept s1 := Option.some.inj h1 ▸ step_kept (kept_start _) powerReply
  have hfits := (step_iff hk1 hs1 energyReply).1 (Option.some.inj h2 ▸ hs2)
  rw [← Option.some.inj h1, hstep] at hfits
  obtain ⟨-, hpower⟩ := hfits ⟨⟨33, 1, _⟩, List.mem_cons_of_mem _ List.mem_cons_self, rfl, rfl⟩
  exact absurd (hpower powerReply rfl) (by decide)

end DataConcentrator.ElectricityMeter
