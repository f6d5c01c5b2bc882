/-
Whether the alarm configurations are stored from the parameters that name their fields.

- `caseStores_iff`: the shared shape, over any table of flags and any texts;
- `relay_iff`, `lumeter_iff`, `concentrator_iff`, `lamp_iff`: each handler;
- `alarmConfiguration_iff`: the four of them on one message;
- `second_flag_lost`: two flags of the relay modules, of which the second gets the value of the first.
-/
import DataConcentrator.AlarmConfig.Handlers

namespace DataConcentrator.AlarmConfig

open Owned (OwnValues)
open Plc (SyncState Store Task)

/-! ## The shared shape -/

/-- both texts read as the same `u8` -/
def SameNumber (first p : TextParameter) : Prop :=
  toUnsigned 8 (myatoi first.text) = toUnsigned 8 (myatoi p.text)

instance decidableSameNumber (first p : TextParameter) : Decidable (SameNumber first p) := by
  unfold SameNumber
  infer_instance

section Shared

variable {F : Type*} {flags : List (UInt16 × F)} {owner : F → UInt16}

theorem mem_of_lookup {type : UInt16} {field : F} (h : flags.lookup type = some field) : (type, field) ∈ flags := by
  obtain ⟨l₁, l₂, hsplit, _⟩ := List.lookup_eq_some_iff.1 h
  rw [hsplit]
  simp

theorem flag_forall {Q : F → Prop} {field : F} (h : Q field) (p : TextParameter) : ∀ s ∈ flag field p, Q s.1 := by
  intro s hs
  rw [flag, List.mem_singleton] at hs
  rw [hs]
  exact h

/-- a case stores to fields of its type, where the texts do -/
theorem caseStores_owner (hflags : ∀ e ∈ flags, owner e.2 = e.1) {texts : TextParameter → Option (List (F × ℕ))}
    (htexts : ∀ p a, texts p = some a → ∀ s ∈ a, owner s.1 = p.type) {first p : TextParameter} {a : List (F × ℕ)}
    (h : caseStores flags texts first p = some a) : ∀ s ∈ a, owner s.1 = p.type := by
  unfold caseStores at h
  split at h
  · rename_i field hfield
    cases h
    have hname := hflags _ (mem_of_lookup hfield)
    exact @flag_forall F (fun f => owner f = p.type) field hname first
  · exact htexts p a h

variable [DecidableEq F]

/-- a flag read from two parameters leaves the same value when they read as the same number -/
theorem last_flag_iff (c : F → ℕ) (field : F) (first p : TextParameter) :
    (∀ f, f = field → (Owned.last (flag field first) f).getD (c f) = (Owned.last (flag field p) f).getD (c f)) ↔
      SameNumber first p := by
  rw [forall_eq, flag, flag, Owned.last_singleton, Owned.last_singleton]
  rfl

/-- **Flags read from the first parameter.** The fields hold the values of their own parameters exactly when every flag
reads as the first parameter does, and the texts that are read for a field leave what its own text carries. -/
theorem caseStores_iff (hflags : ∀ e ∈ flags, owner e.2 = e.1)
    (hfields : ∀ e ∈ flags, ∀ f, owner f = e.1 → f = e.2) {got own : TextParameter → Option (List (F × ℕ))}
    (hgot : ∀ p a, got p = some a → ∀ s ∈ a, owner s.1 = p.type) (first : TextParameter) {ps : List TextParameter}
    (hnodup : (ps.map TextParameter.type).Nodup) (c : F → ℕ) :
    (∃ c', Owned.run (caseStores flags got first) ps c = some c' ∧
        OwnValues TextParameter.type owner (fun p => caseStores flags own p p) ps c c') ↔
      ∀ p ∈ ps, ((flags.lookup p.type).isSome → SameNumber first p) ∧
        (flags.lookup p.type = none → ∃ a b, got p = some a ∧ own p = some b ∧
          ∀ f, owner f = p.type → (Owned.last a f).getD (c f) = (Owned.last b f).getD (c f)) := by
  rw [Owned.run_ownValues_iff TextParameter.type owner _ (fun _ _ _ ha => caseStores_owner hflags hgot ha) hnodup c]
  refine forall₂_congr fun p _ => ?_
  unfold caseStores
  cases hlook : flags.lookup p.type with
  | none => simp
  | some field =>
    have hmem := mem_of_lookup hlook
    have hsame := last_flag_iff c field first p
    have honly : ∀ f, owner f = p.type ↔ f = field := fun f =>
      ⟨hfields _ hmem f, fun hf => by rw [hf]; exact hflags _ hmem⟩
    simp [honly, ← hsame]

/-- texts that are read from their own parameters only have to be readable -/
theorem caseStores_own_iff (hflags : ∀ e ∈ flags, owner e.2 = e.1)
    (hfields : ∀ e ∈ flags, ∀ f, owner f = e.1 → f = e.2) {texts : TextParameter → Option (List (F × ℕ))}
    (htexts : ∀ p a, texts p = some a → ∀ s ∈ a, owner s.1 = p.type) (first : TextParameter) {ps : List TextParameter}
    (hnodup : (ps.map TextParameter.type).Nodup) (c : F → ℕ) :
    (∃ c', Owned.run (caseStores flags texts first) ps c = some c' ∧
        OwnValues TextParameter.type owner (fun p => caseStores flags texts p p) ps c c') ↔
      ∀ p ∈ ps, ((flags.lookup p.type).isSome → SameNumber first p) ∧
        (flags.lookup p.type = none → (texts p).isSome) := by
  rw [caseStores_iff hflags hfields htexts first hnodup c]
  refine forall₂_congr fun p _ => and_congr_right fun _ => imp_congr_right fun _ => ?_
  rw [Option.isSome_iff_exists]
  constructor
  · rintro ⟨a, _, ha, _⟩
    exact ⟨a, ha⟩
  · rintro ⟨a, ha⟩
    exact ⟨a, a, ha, ha, fun _ _ => rfl⟩

end Shared

/-! ## Relay modules and lumeters -/

/-- after `RelaySetAlarmConfiguration` every field holds the value of the parameter that names it -/
def RelayStoresOwn (modules : List (ℤ × ℕ)) (paras : List TextParameter) (c : RelayField → ℕ) : Prop :=
  ∃ c', relaySetAlarmConfiguration modules paras c = some c' ∧
    OwnValues TextParameter.type relayOwner (fun p => relayCase modules p p) paras c c'

/-- every flag reads as the first parameter does, and every other text can be read -/
def RelayMeets (modules : List (ℤ × ℕ)) (paras : List TextParameter) : Prop :=
  ∀ p ∈ paras, ((relayFlags.lookup p.type).isSome → SameNumber (firstOf paras) p) ∧
    (relayFlags.lookup p.type = none → (relayTexts modules p).isSome)

/-- a segment stores to no field, or to those of one loop -/
theorem relaySegment_stores {modules : List (ℤ × ℕ)} {msg : List UInt8} {r : List (RelayField × ℕ) × List UInt8}
    (h : relaySegment modules msg = some r) : r.1 = [] ∨ ∃ m loop_ch rest q, readList (loopSlots m loop_ch) rest = some q ∧
      r.1 = (.loop_alarm_thre m (loop_ch - 1) 0, loop_ch) :: q.1 := by
  obtain ⟨m, _, hm⟩ := Option.bind_eq_some_iff.1 h
  obtain ⟨b, _, hb⟩ := Option.bind_eq_some_iff.1 hm
  dsimp only at hb
  generalize (if toUnsigned 8 (myatoi b.1) = 0 then 1 else toUnsigned 8 (myatoi b.1)) = loop_ch at hb
  split_ifs at hb
  · obtain ⟨q, hq, rfl⟩ := Option.map_eq_some_iff.1 hb
    exact .inr ⟨m.1, loop_ch, b.2, q, hq, rfl⟩
  · cases hb
    exact .inl rfl

instance decidableRelayMeets (modules : List (ℤ × ℕ)) (paras : List TextParameter) :
    Decidable (RelayMeets modules paras) := by
  unfold RelayMeets
  infer_instance

theorem relayTexts_own (modules : List (ℤ × ℕ)) (p : TextParameter) (a : List (RelayField × ℕ))
    (h : relayTexts modules p = some a) : ∀ s ∈ a, relayOwner s.1 = p.type := by
  unfold relayTexts at h
  split_ifs at h with htype hlen
  · rw [htype]
    refine readSegments_forall (fun _ msg r hr => ?_) _ _ _ a h
    rcases relaySegment_stores hr with hnil | ⟨m, loop_ch, rest, q, hq, hcons⟩
    · simp [hnil]
    · have hslots := @readList_forall _ _ (fun f => relayOwner f = 0x4004) (by simp [loopSlots, relayOwner]) _ _ hq
      rw [hcons]
      exact List.forall_mem_cons.2 ⟨rfl, hslots⟩
  · cases h
    simp
  · cases h
    simp

theorem relay_iff (modules : List (ℤ × ℕ)) {paras : List TextParameter}
    (hnodup : (paras.map TextParameter.type).Nodup) (c : RelayField → ℕ) :
    RelayStoresOwn modules paras c ↔ RelayMeets modules paras :=
  caseStores_own_iff (by decide)
    (by simp only [relayFlags, List.forall_mem_cons, List.not_mem_nil, false_imp_iff, implies_true, and_true]
        refine ⟨?_, ?_, ?_⟩ <;> rintro (_ | _ | _ | _) <;> simp [relayOwner])
    (relayTexts_own modules) (firstOf paras) hnodup c

/-- after `LumeterSetAlarmConfiguration` every field holds the value of the parameter that names it -/
def LumeterStoresOwn (modules : List (ℤ × ℕ)) (paras : List TextParameter) (c : LumeterField → ℕ) : Prop :=
  ∃ c', lumeterSetAlarmConfiguration modules paras c = some c' ∧
    OwnValues TextParameter.type lumeterOwner (fun p => lumeterCase modules p p) paras c c'

def LumeterMeets (modules : List (ℤ × ℕ)) (paras : List TextParameter) : Prop :=
  ∀ p ∈ paras, ((lumeterFlags.lookup p.type).isSome → SameNumber (firstOf paras) p) ∧
    (lumeterFlags.lookup p.type = none → (lumeterTexts modules p).isSome)

instance decidableLumeterMeets (modules : List (ℤ × ℕ)) (paras : List TextParameter) :
    Decidable (LumeterMeets modules paras) := by
  unfold LumeterMeets
  infer_instance

/-- a segment stores to the fields of its slots -/
theorem lumeterSegment_forall {modules : List (ℤ × ℕ)} {slots : ℕ → List (Slot LumeterField)} {Q : LumeterField → Prop}
    (hslots : ∀ m, ∀ slot ∈ slots m, Q slot.field) {msg : List UInt8} {r : List (LumeterField × ℕ) × List UInt8}
    (h : lumeterSegment modules slots msg = some r) : ∀ s ∈ r.1, Q s.1 := by
  obtain ⟨m, _, hm⟩ := Option.bind_eq_some_iff.1 h
  split_ifs at hm
  exact readList_forall (hslots m.1) hm

theorem lumeterTexts_own (modules : List (ℤ × ℕ)) (p : TextParameter) (a : List (LumeterField × ℕ))
    (h : lumeterTexts modules p = some a) : ∀ s ∈ a, lumeterOwner s.1 = p.type := by
  unfold lumeterTexts at h
  split_ifs at h with h2 hlen h4 hlen
  · rw [h2]
    exact readSegments_forall (fun _ _ _ hr => @lumeterSegment_forall _ _ (fun f => lumeterOwner f = 0x4002)
      (by simp [validSlots, lumeterOwner]) _ _ hr) _ _ _ a h
  · cases h
    simp
  · rw [h4]
    exact readSegments_forall (fun _ _ _ hr => @lumeterSegment_forall _ _ (fun f => lumeterOwner f = 0x4004)
      (by simp [responseSlots, lumeterOwner]) _ _ hr) _ _ _ a h
  · cases h
    simp
  · cases h
    simp

theorem lumeter_iff (modules : List (ℤ × ℕ)) {paras : List TextParameter}
    (hnodup : (paras.map TextParameter.type).Nodup) (c : LumeterField → ℕ) :
    LumeterStoresOwn modules paras c ↔ LumeterMeets modules paras :=
  caseStores_own_iff (by decide)
    (by simp only [lumeterFlags, List.forall_mem_cons, List.not_mem_nil, false_imp_iff, implies_true, and_true]
        refine ⟨?_, ?_⟩ <;> rintro (_ | _ | _ | _ | _ | _ | _ | _ | _) <;> simp [lumeterOwner])
    (lumeterTexts_own modules) (firstOf paras) hnodup c

/-! ## Concentrator -/

/-- the lists as they are meant: values between commas, up to the end of the parameter's own text -/
def concentratorCarried (p : TextParameter) : Option (List (ConcentratorField × ℕ)) :=
  caseStores concentratorFlags
    (fun p => (readList (concentratorSlots comma nul p.type) p.value).map Prod.fst) p p

/-- after `SetAlarmConfiguration` every field holds the value of the parameter that names it -/
def ConcentratorStoresOwn (paras : List TextParameter) (c : ConcentratorField → ℕ) : Prop :=
  ∃ c', setAlarmConfiguration paras c = some c' ∧
    OwnValues TextParameter.type concentratorOwner concentratorCarried paras c c'

/-- every flag reads as the first parameter does, so does every list of two, and there is no list of four -/
def ConcentratorMeets (paras : List TextParameter) : Prop :=
  ∀ p ∈ paras, ((concentratorFlags.lookup p.type).isSome → SameNumber (firstOf paras) p) ∧
    (p.type = 0x4002 ∨ p.type = 0x4006 →
      (readList (concentratorSlots comma nul p.type) p.value).isSome ∧
        (readList (concentratorSlots comma nul p.type) (firstOf paras).value).map Prod.fst =
          (readList (concentratorSlots comma nul p.type) p.value).map Prod.fst) ∧
    p.type ≠ 0x4004 ∧ p.type ≠ 0x4008

instance decidableConcentratorMeets (paras : List TextParameter) : Decidable (ConcentratorMeets paras) := by
  unfold ConcentratorMeets
  infer_instance

/-- the fields of a list have its type -/
theorem concentratorSlots_owner (s t : List UInt8) (type : UInt16) :
    ∀ slot ∈ concentratorSlots s t type, concentratorOwner slot.field = type := by
  unfold concentratorSlots
  split_ifs with h1 h2 h3 h4
  · rw [h1]; simp [powerOffSlots, concentratorOwner]
  · rw [h2]; simp [leakageSlots, concentratorOwner]
  · rw [h3]; simp [lowBatterySlots, concentratorOwner]
  · rw [h4]; simp [chargeSlots, concentratorOwner]
  · simp

/-- the lists of two are read as they are meant -/
theorem pairSlots_eq {type : UInt16} (h : type = 0x4002 ∨ type = 0x4006) :
    concentratorSlots nul comma type = concentratorSlots comma nul type := by
  rcases h with h | h <;> rw [h] <;> rfl

/-- two lists of two values hold the same values when their fields do -/
theorem pair_iff {type : UInt16} (htype : type = 0x4002 ∨ type = 0x4006) (c : ConcentratorField → ℕ)
    {msg msg' : List UInt8} {a b : List (ConcentratorField × ℕ)}
    (ha : (readList (concentratorSlots comma nul type) msg).map Prod.fst = some a)
    (hb : (readList (concentratorSlots comma nul type) msg').map Prod.fst = some b) :
    (∀ f, concentratorOwner f = type → (Owned.last a f).getD (c f) = (Owned.last b f).getD (c f)) ↔ a = b := by
  obtain ⟨r, hr, rfl⟩ := Option.map_eq_some_iff.1 ha
  obtain ⟨r', hr', rfl⟩ := Option.map_eq_some_iff.1 hb
  have hfields := readList_fields _ _ _ hr
  have hfields' := readList_fields _ _ _ hr'
  refine ⟨fun h => Owned.eq_of_last (hfields.trans hfields'.symm) ?_ c fun f hf => h f ?_, fun h f _ => by rw [h]⟩
  · rw [hfields]
    rcases htype with h | h <;> rw [h] <;> decide
  · rw [hfields] at hf
    obtain ⟨slot, hslot, rfl⟩ := List.mem_map.1 hf
    exact concentratorSlots_owner comma nul type slot hslot

/-- a list of four is read past the end of the buffer -/
theorem longList_none {type : UInt16} (h : type = 0x4004 ∨ type = 0x4008) (first : TextParameter) :
    readList (concentratorSlots nul comma type) first.value = none := by
  rcases h with h | h
  · rw [h]
    exact readList_past_end rfl rfl rfl first.zero_free
  · rw [h]
    exact readList_past_end rfl rfl rfl first.zero_free

/-- a type that is no list reads nothing -/
theorem concentratorSlots_other {type : UInt16} (s t : List UInt8) (h2 : type ≠ 0x4002) (h4 : type ≠ 0x4004)
    (h6 : type ≠ 0x4006) (h8 : type ≠ 0x4008) : concentratorSlots s t type = [] := by
  rw [concentratorSlots, if_neg h2, if_neg h4, if_neg h6, if_neg h8]

/-- one parameter that is no flag -/
theorem concentratorText_iff (c : ConcentratorField → ℕ) (first p : TextParameter) :
    (concentratorFlags.lookup p.type = none → ∃ a b,
        (readList (concentratorSlots nul comma p.type) first.value).map Prod.fst = some a ∧
        (readList (concentratorSlots comma nul p.type) p.value).map Prod.fst = some b ∧
        ∀ f, concentratorOwner f = p.type → (Owned.last a f).getD (c f) = (Owned.last b f).getD (c f)) ↔
      (p.type = 0x4002 ∨ p.type = 0x4006 →
        (readList (concentratorSlots comma nul p.type) p.value).isSome ∧
          (readList (concentratorSlots comma nul p.type) first.value).map Prod.fst =
            (readList (concentratorSlots comma nul p.type) p.value).map Prod.fst) ∧
      p.type ≠ 0x4004 ∧ p.type ≠ 0x4008 := by
  by_cases hpair : p.type = 0x4002 ∨ p.type = 0x4006
  · have hlook : concentratorFlags.lookup p.type = none := by rcases hpair with h | h <;> rw [h] <;> decide
    have hlong : p.type ≠ 0x4004 ∧ p.type ≠ 0x4008 := by rcases hpair with h | h <;> rw [h] <;> decide
    rw [pairSlots_eq hpair]
    constructor
    · intro h
      obtain ⟨a, b, ha, hb, hval⟩ := h hlook
      obtain rfl := (pair_iff hpair c ha hb).1 hval
      obtain ⟨r, hr, _⟩ := Option.map_eq_some_iff.1 hb
      exact ⟨fun _ => ⟨by rw [hr]; rfl, ha.trans hb.symm⟩, hlong⟩
    · rintro ⟨h, _⟩ _
      obtain ⟨hsome, hsame⟩ := h hpair
      obtain ⟨r, hr⟩ := Option.isSome_iff_exists.1 hsome
      rw [hsame, hr]
      exact ⟨r.1, r.1, rfl, rfl, fun _ _ => rfl⟩
  · by_cases hlong : p.type = 0x4004 ∨ p.type = 0x4008
    · have hlook : concentratorFlags.lookup p.type = none := by rcases hlong with h | h <;> rw [h] <;> decide
      constructor
      · intro h
        obtain ⟨a, _, ha, _⟩ := h hlook
        rw [longList_none hlong] at ha
        cases ha
      · rintro ⟨_, h4, h8⟩
        exact absurd hlong (not_or.2 ⟨h4, h8⟩)
    · rw [not_or] at hpair hlong
      rw [concentratorSlots_other nul comma hpair.1 hlong.1 hpair.2 hlong.2,
        concentratorSlots_other comma nul hpair.1 hlong.1 hpair.2 hlong.2]
      refine ⟨fun _ => ⟨fun h => absurd h (not_or.2 hpair), hlong⟩, fun _ _ => ⟨[], [], rfl, rfl, fun _ _ => rfl⟩⟩

theorem concentrator_iff {paras : List TextParameter} (hnodup : (paras.map TextParameter.type).Nodup)
    (c : ConcentratorField → ℕ) : ConcentratorStoresOwn paras c ↔ ConcentratorMeets paras := by
  have hgot : ∀ (p : TextParameter) a,
      (readList (concentratorSlots nul comma p.type) (firstOf paras).value).map Prod.fst = some a →
        ∀ s ∈ a, concentratorOwner s.1 = p.type := by
    intro p a ha
    obtain ⟨r, hr, rfl⟩ := Option.map_eq_some_iff.1 ha
    exact @readList_forall _ _ (fun f => concentratorOwner f = p.type) (concentratorSlots_owner nul comma p.type) _ _ hr
  have hfields : ∀ e ∈ concentratorFlags, ∀ f, concentratorOwner f = e.1 → f = e.2 := by
    simp only [concentratorFlags, List.forall_mem_cons, List.not_mem_nil, false_imp_iff, implies_true, and_true]
    refine ⟨?_, ?_, ?_, ?_⟩ <;> intro f <;> cases f <;> simp [concentratorOwner]
  refine (caseStores_iff (by decide) hfields hgot (firstOf paras) hnodup c).trans (forall₂_congr fun p _ => ?_)
  exact and_congr_right fun _ => concentratorText_iff c (firstOf paras) p

/-! ## Lamps -/

variable (atof : Atof)

/-- what a parameter carries: `0x8007` is the switch of the temperature alarm -/
def lampCarried (p : TextParameter) : Option (List (LampField × ℕ)) :=
  if p.type = 0x8007 then some (flag .temperature_alarm_enable p) else caseStores lampFlags (lampTexts atof) p p

/-- after `LampSetAlarmConfiguration` every field holds the value of the parameter that names it -/
def LampStoresOwn (st : Store) (paras : List TextParameter) (c : LampField → ℕ) : Prop :=
  ∃ task c', lampSetAlarmConfiguration atof st paras c = some (task, c') ∧
    OwnValues TextParameter.type lampOwner (lampCarried atof) paras c c'

/-- the duration that the temperature list asks for, or the old one -/
def askedDuration (paras : List TextParameter) (c : LampField → ℕ) : ℕ :=
  ((paras.find? fun q => q.type = 0x4008).bind fun q => (lampTexts atof q).bind fun a =>
    Owned.last a .temperature_alarm_duration).getD (c .temperature_alarm_duration)

/-- the addresses and the texts can be read, every flag reads as the first parameter does, and the case of `0x8007` does
no harm: its switch is what it was, and a temperature list behind it stores the duration again, or the first parameter
reads as the duration that is asked for -/
structure LampMeets (paras : List TextParameter) (c : LampField → ℕ) : Prop where
  addressed : ∃ s, paras.foldlM lampAddressing ⟨.zero, 0, 0, 0⟩ = some s
  cases : ∀ p ∈ paras, ((lampFlags.lookup p.type).isSome → SameNumber (firstOf paras) p) ∧
    (lampFlags.lookup p.type = none → (lampTexts atof p).isSome)
  switch : ∀ p ∈ paras, p.type = 0x8007 → c .temperature_alarm_enable = toUnsigned 8 (myatoi p.text)
  duration : ∀ pre p post, paras = pre ++ p :: post → p.type = 0x8007 → (∃ q ∈ post, q.type = 0x4008) ∨
    toUnsigned 16 (myatoi (firstOf paras).text) = askedDuration atof paras c

/-- the task and the configuration are filled independently -/
theorem lampSet_iff (st : Store) (paras : List TextParameter) (c c' : LampField → ℕ) :
    (∃ task, lampSetAlarmConfiguration atof st paras c = some (task, c')) ↔
      (∃ s, paras.foldlM lampAddressing ⟨.zero, 0, 0, 0⟩ = some s) ∧
        Owned.run (lampCase atof (firstOf paras)) paras c = some c' := by
  have hpair := CLoop.foldlM_prod lampAddressing
    (fun c p => (lampCase atof (firstOf paras) p).map (Owned.assign c)) paras ⟨.zero, 0, 0, 0⟩ c
  simp only [Option.map_map, Function.comp_def] at hpair
  rw [lampSetAlarmConfiguration, hpair, Owned.run]
  cases paras.foldlM lampAddressing ⟨.zero, 0, 0, 0⟩ with
  | none => simp
  | some s => cases paras.foldlM (fun c p => (lampCase atof (firstOf paras) p).map (Owned.assign c)) c <;> simp

/-! ### Fields of the cases -/

theorem lampFlags_owner : ∀ e ∈ lampFlags, lampOwner e.2 = e.1 := by decide

theorem lampSlots_owner (type : UInt16) : ∀ slot ∈ lampSlots atof type, lampOwner slot.field = type := by
  unfold lampSlots
  split_ifs with h1 h2 h3 h4 h5
  · rw [h1]; simp [lampOwner]
  · rw [h2]; simp [lampOwner]
  · rw [h3]; simp [lampOwner]
  · rw [h4]; simp [lampOwner]
  · rw [h5]; simp [lampOwner]
  · simp

/-- a segment stores to no field, or to those of one electrical parameter -/
theorem electricalSegment_owner {msg : List UInt8} {r : List (LampField × ℕ) × List UInt8}
    (h : electricalSegment msg = some r) : ∀ s ∈ r.1, lampOwner s.1 = 0x4010 := by
  obtain ⟨a, _, ha⟩ := Option.bind_eq_some_iff.1 h
  dsimp only at ha
  generalize (if toUnsigned 8 (myatoi a.1) = 0 then 1 else toUnsigned 8 (myatoi a.1)) = loop_ch at ha
  split_ifs at ha
  · obtain ⟨b, _, hb⟩ := Option.bind_eq_some_iff.1 ha
    generalize (if toUnsigned 8 (myatoi b.1) = 0 then 1 else toUnsigned 8 (myatoi b.1)) = para_id at hb
    split_ifs at hb
    · obtain ⟨q, hq, rfl⟩ := Option.map_eq_some_iff.1 hb
      have hslots := @readList_forall _ _ (fun f => lampOwner f = 0x4010) (by simp [electricalSlots, lampOwner]) _ _ hq
      exact List.forall_mem_cons.2 ⟨rfl, List.forall_mem_cons.2 ⟨rfl, hslots⟩⟩
    · cases hb
      simp
  · cases ha
    simp

theorem lightOnFaultSegment_owner {n : ℕ} {msg : List UInt8} {r : List (LampField × ℕ) × List UInt8}
    (h : lightOnFaultSegment n msg = some r) : ∀ s ∈ r.1, lampOwner s.1 = 0x4016 := by
  unfold lightOnFaultSegment at h
  split_ifs at h
  exact @readList_forall _ _ (fun f => lampOwner f = 0x4016) (by simp [lampOwner]) _ _ h

theorem lampTexts_owner (p : TextParameter) (a : List (LampField × ℕ)) (h : lampTexts atof p = some a) :
    ∀ s ∈ a, lampOwner s.1 = p.type := by
  unfold lampTexts at h
  split_ifs at h with h10 h16
  · rw [h10]
    exact readSegments_forall (fun _ _ _ => electricalSegment_owner) _ _ _ a h
  · rw [h16]
    exact readSegments_forall (fun _ _ _ => lightOnFaultSegment_owner) _ _ _ a h
  · obtain ⟨r, hr, rfl⟩ := Option.map_eq_some_iff.1 h
    exact @readList_forall _ _ (fun f => lampOwner f = p.type) (lampSlots_owner atof p.type) _ _ hr

/-! ### The duration of the temperature alarm -/

variable {first : TextParameter} {ps : List TextParameter}

theorem lampCase_of_ne {p : TextParameter} (h : p.type ≠ 0x8007) :
    lampCase atof first p = caseStores lampFlags (lampTexts atof) first p := if_neg h

/-- only the case of `0x8007` stores to a field of another type, and only to the duration -/
theorem lampCase_owner {p : TextParameter} {a : List (LampField × ℕ)} (h : lampCase atof first p = some a) :
    ∀ s ∈ a, lampOwner s.1 = p.type ∨ p.type = 0x8007 ∧ s.1 = .temperature_alarm_duration := by
  by_cases h7 : p.type = 0x8007
  · rw [lampCase, if_pos h7] at h
    cases h
    intro s hs
    rw [List.mem_singleton] at hs
    exact .inr ⟨h7, by rw [hs]⟩
  · rw [lampCase_of_ne atof h7] at h
    exact fun s hs => .inl (caseStores_owner lampFlags_owner (lampTexts_owner atof) h s hs)

/-- the other fields are stored to by their own type -/
theorem lampCase_field {f : LampField} (hf : f ≠ .temperature_alarm_duration) :
    ∀ p ∈ ps, ∀ a, lampCase atof first p = some a → ∀ s ∈ a, s.1 = f → p.type = lampOwner f := by
  intro p _ a ha s hs hsf
  rcases lampCase_owner atof ha s hs with howner | ⟨_, hduration⟩
  · rw [← howner, hsf]
  · exact absurd (hsf.symm.trans hduration) hf

/-- so is the duration, without `0x8007` -/
theorem lampCase_duration (h7 : ∀ p ∈ ps, p.type ≠ 0x8007) :
    ∀ p ∈ ps, ∀ a, lampCase atof first p = some a → ∀ s ∈ a, s.1 = .temperature_alarm_duration → p.type = 0x4008 := by
  intro p hp a ha s hs hsf
  rcases lampCase_owner atof ha s hs with howner | ⟨hp7, _⟩
  · rw [← howner, hsf]
    rfl
  · exact absurd hp7 (h7 p hp)

/-- the switch is never stored to -/
theorem lampCase_switch : ∀ p ∈ ps, ∀ a, lampCase atof first p = some a → ∀ s ∈ a,
    s.1 ≠ .temperature_alarm_enable := by
  intro p _ a ha s hs hsf
  by_cases h7 : p.type = 0x8007
  · rw [lampCase, if_pos h7] at ha
    cases ha
    rw [List.mem_singleton] at hs
    rw [hs] at hsf
    cases hsf
  · rw [lampCase_of_ne atof h7] at ha
    have howner := caseStores_owner lampFlags_owner (lampTexts_owner atof) ha s hs
    rw [hsf] at howner
    exact h7 howner.symm

/-- a temperature list is a text of its own, with a duration -/
theorem temperatureList {q : TextParameter} (hq : q.type = 0x4008) :
    lampCase atof first q = lampTexts atof q ∧
      ∀ a, lampTexts atof q = some a → ∃ v, Owned.last a .temperature_alarm_duration = some v := by
  have hlook : lampFlags.lookup q.type = none := by rw [hq]; decide
  refine ⟨?_, fun a ha => Owned.last_of_mem ?_⟩
  · rw [lampCase_of_ne atof (by rw [hq]; decide), caseStores, hlook]
  · rw [lampTexts, hq, if_neg (by decide), if_neg (by decide)] at ha
    obtain ⟨r, hr, rfl⟩ := Option.map_eq_some_iff.1 ha
    rw [readList_fields _ _ _ hr]
    simp [lampSlots]

section Duration

variable (hnodup : (ps.map TextParameter.type).Nodup) {c c' : LampField → ℕ}

include hnodup

theorem askedDuration_of_mem {q : TextParameter} (hq : q ∈ ps) (h4 : q.type = 0x4008) {a : List (LampField × ℕ)}
    (ha : lampTexts atof q = some a) {v : ℕ} (hv : Owned.last a .temperature_alarm_duration = some v) :
    askedDuration atof ps c = v := by
  obtain ⟨p, hp⟩ : ∃ p, ps.find? (fun q => q.type = 0x4008) = some p := by
    rw [← Option.isSome_iff_exists, List.find?_isSome]
    exact ⟨q, hq, by simpa using h4⟩
  have hp4 : p.type = 0x4008 := by simpa using List.find?_some hp
  have hsame : p = q := List.inj_on_of_nodup_map hnodup (List.mem_of_find?_eq_some hp) hq (hp4.trans h4.symm)
  rw [askedDuration, hp, hsame, Option.bind_some, ha, Option.bind_some, hv]
  rfl

omit hnodup in
theorem askedDuration_of_absent (h4 : ∀ q ∈ ps, q.type ≠ 0x4008) :
    askedDuration atof ps c = c .temperature_alarm_duration := by
  have hnone : ps.find? (fun q => q.type = 0x4008) = none := by
    rw [List.find?_eq_none]
    exact fun q hq => by simpa using h4 q hq
  rw [askedDuration, hnone]
  rfl

/-- what every field named by the message asks for is asked for the duration too -/
theorem own_duration (h : OwnValues TextParameter.type lampOwner (lampCarried atof) ps c c') :
    c' .temperature_alarm_duration = askedDuration atof ps c := by
  by_cases h4 : ∃ q ∈ ps, q.type = 0x4008
  · obtain ⟨q, hq, h4⟩ := h4
    obtain ⟨b, hb, hval⟩ := h.named q hq
    have hown : lampCarried atof q = lampTexts atof q := by
      rw [← (@temperatureList atof q q h4).1, lampCarried, if_neg (by rw [h4]; decide),
        lampCase_of_ne atof (by rw [h4]; decide)]
    rw [hown] at hb
    obtain ⟨v, hv⟩ := (@temperatureList atof q q h4).2 b hb
    rw [hval .temperature_alarm_duration h4.symm, hv, askedDuration_of_mem atof hnodup hq h4 hb hv]
    rfl
  · have habsent : ∀ q ∈ ps, q.type ≠ 0x4008 := fun q hq hq4 => h4 ⟨q, hq, hq4⟩
    rw [h.absent .temperature_alarm_duration habsent, askedDuration_of_absent atof habsent]

/-- a temperature list with no `0x8007` behind it has the last word -/
theorem duration_of_list (h7 : ∀ p ∈ ps, p.type ≠ 0x8007) (hrun : Owned.run (lampCase atof first) ps c = some c')
    {q : TextParameter} (hq : q ∈ ps) (h4 : q.type = 0x4008) : ∃ a v, lampTexts atof q = some a ∧
      Owned.last a .temperature_alarm_duration = some v ∧ c' .temperature_alarm_duration = v := by
  obtain ⟨a, ha, hval⟩ := Owned.run_named TextParameter.type (lampCase_duration atof h7) hnodup hq h4 hrun
  rw [(temperatureList atof h4).1] at ha
  obtain ⟨v, hv⟩ := (@temperatureList atof q q h4).2 a ha
  rw [hv] at hval
  exact ⟨a, v, ha, hv, hval⟩

/-- the run at `0x8007` and behind it -/
theorem run_at_switch {pre post : List TextParameter} {p : TextParameter} (hps : ps = pre ++ p :: post)
    (h7 : p.type = 0x8007) (hrun : Owned.run (lampCase atof first) ps c = some c') :
    ∃ d, d .temperature_alarm_duration = toUnsigned 16 (myatoi first.text) ∧
      Owned.run (lampCase atof first) post d = some c' ∧ (post.map TextParameter.type).Nodup ∧
        ∀ q ∈ post, q.type ≠ 0x8007 := by
  rw [hps] at hrun hnodup
  rw [Owned.run_append] at hrun
  obtain ⟨c₁, _, hgo⟩ := Option.bind_eq_some_iff.1 hrun
  rw [Owned.run_cons, lampCase, if_pos h7, Option.bind_some] at hgo
  rw [List.map_append, List.map_cons, List.nodup_append, List.nodup_cons] at hnodup
  refine ⟨_, ?_, hgo, hnodup.2.1.2, fun q hq hq7 => hnodup.2.1.1 ?_⟩
  · rw [Owned.assign_apply, Owned.last_singleton]
    rfl
  · rw [h7, ← hq7]
    exact List.mem_map_of_mem hq

/-- **The duration** is the one that is asked for unless `0x8007` has the last word and says otherwise. -/
theorem duration_iff (hrun : Owned.run (lampCase atof first) ps c = some c') :
    c' .temperature_alarm_duration = askedDuration atof ps c ↔
      ∀ pre p post, ps = pre ++ p :: post → p.type = 0x8007 → (∃ q ∈ post, q.type = 0x4008) ∨
        toUnsigned 16 (myatoi first.text) = askedDuration atof ps c := by
  have hlast : ∀ pre p post, ps = pre ++ p :: post → p.type = 0x8007 → (∀ q ∈ post, q.type ≠ 0x4008) →
      c' .temperature_alarm_duration = toUnsigned 16 (myatoi first.text) := by
    intro pre p post hps h7 h4
    obtain ⟨d, hd, hpost, _, hpost7⟩ := run_at_switch atof hnodup hps h7 hrun
    rw [← hd]
    exact Owned.run_absent TextParameter.type (lampCase_duration atof hpost7) h4 hpost
  constructor
  · intro hasked pre p post hps h7
    by_cases h4 : ∃ q ∈ post, q.type = 0x4008
    · exact .inl h4
    · right
      rw [← hasked, hlast pre p post hps h7 fun q hq hq4 => h4 ⟨q, hq, hq4⟩]
  · intro h
    by_cases h7 : ∃ p ∈ ps, p.type = 0x8007
    · obtain ⟨p, hp, h7⟩ := h7
      obtain ⟨pre, post, hps⟩ := List.append_of_mem hp
      by_cases h4 : ∃ q ∈ post, q.type = 0x4008
      · obtain ⟨q, hq, h4⟩ := h4
        obtain ⟨d, _, hpost, hpostnodup, hpost7⟩ := run_at_switch atof hnodup hps h7 hrun
        obtain ⟨a, v, ha, hv, hval⟩ := duration_of_list atof hpostnodup hpost7 hpost hq h4
        have hmem : q ∈ ps := by
          rw [hps]
          exact List.mem_append_right _ (List.mem_cons_of_mem _ hq)
        rw [hval, askedDuration_of_mem atof hnodup hmem h4 ha hv]
      · have hnone : ∀ q ∈ post, q.type ≠ 0x4008 := fun q hq hq4 => h4 ⟨q, hq, hq4⟩
        rw [hlast pre p post hps h7 hnone]
        exact (h pre p post hps h7).resolve_left h4
    · have hno7 : ∀ p ∈ ps, p.type ≠ 0x8007 := fun p hp hp7 => h7 ⟨p, hp, hp7⟩
      by_cases h4 : ∃ q ∈ ps, q.type = 0x4008
      · obtain ⟨q, hq, h4⟩ := h4
        obtain ⟨a, v, ha, hv, hval⟩ := duration_of_list atof hnodup hno7 hrun hq h4
        rw [hval, askedDuration_of_mem atof hnodup hq h4 ha hv]
      · have hnone : ∀ q ∈ ps, q.type ≠ 0x4008 := fun q hq hq4 => h4 ⟨q, hq, hq4⟩
        rw [askedDuration_of_absent atof hnone]
        exact Owned.run_absent TextParameter.type (lampCase_duration atof hno7) hnone hrun

end Duration

/-! ### The handler -/

/-- a flag, or a text of its own -/
theorem lampCarried_of_ne {p : TextParameter} (h : p.type ≠ 0x8007) :
    lampCarried atof p = caseStores lampFlags (lampTexts atof) p p := if_neg h

theorem lookup_switch : lampFlags.lookup 0x8007 = none := by decide

/-- every parameter can be read when the texts can -/
theorem lampCase_isSome {p : TextParameter} (h : lampFlags.lookup p.type = none → (lampTexts atof p).isSome) :
    ∃ a, lampCase atof first p = some a := by
  unfold lampCase caseStores
  split_ifs
  · exact ⟨_, rfl⟩
  · cases hlook : lampFlags.lookup p.type with
    | none => exact Option.isSome_iff_exists.1 (h hlook)
    | some field => exact ⟨_, rfl⟩

/-- what the message asks for, and what the run leaves, in each case -/
theorem lampCases_of_own (hnodup : (ps.map TextParameter.type).Nodup) {c c' : LampField → ℕ}
    (hrun : Owned.run (lampCase atof first) ps c = some c')
    (hval : OwnValues TextParameter.type lampOwner (lampCarried atof) ps c c') : ∀ p ∈ ps,
    ((lampFlags.lookup p.type).isSome → SameNumber first p) ∧
      (lampFlags.lookup p.type = none → (lampTexts atof p).isSome) := by
  intro p hp
  constructor
  · intro hlook
    obtain ⟨field, hfield⟩ := Option.isSome_iff_exists.1 hlook
    have hname := lampFlags_owner _ (mem_of_lookup hfield)
    have h7 : p.type ≠ 0x8007 := fun h => by
      rw [h, lookup_switch] at hfield
      cases hfield
    have hne : field ≠ .temperature_alarm_duration := fun h => by
      rw [h] at hfield
      exact absurd (mem_of_lookup hfield) (by simp [lampFlags])
    obtain ⟨a, ha, hstored⟩ := Owned.run_named TextParameter.type (lampCase_field atof hne) hnodup hp hname.symm hrun
    obtain ⟨b, hb, hnamed⟩ := hval.named p hp
    rw [lampCase_of_ne atof h7, caseStores, hfield] at ha
    rw [lampCarried_of_ne atof h7, caseStores, hfield] at hb
    cases ha
    cases hb
    have hboth := hstored.symm.trans (hnamed field hname)
    rw [flag, flag, Owned.last_singleton, Owned.last_singleton] at hboth
    exact hboth
  · intro hlook
    obtain ⟨a, ha⟩ := (Owned.run_isSome_iff _ ps c).1 ⟨c', hrun⟩ p hp
    by_cases h7 : p.type = 0x8007
    · rw [lampTexts, h7]
      rfl
    · rw [lampCase_of_ne atof h7, caseStores, hlook] at ha
      rw [Option.isSome_iff_exists]
      exact ⟨a, ha⟩

/-- a parameter whose case reads what it carries leaves its fields so -/
theorem named_of_meets (hnodup : (ps.map TextParameter.type).Nodup) {c c' : LampField → ℕ}
    (hrun : Owned.run (lampCase atof first) ps c = some c')
    (hduration : c' .temperature_alarm_duration = askedDuration atof ps c) {p : TextParameter} (hp : p ∈ ps)
    (h7 : p.type ≠ 0x8007) (hsame : (lampFlags.lookup p.type).isSome → SameNumber first p) :
    ∃ b, lampCarried atof p = some b ∧ ∀ f, lampOwner f = p.type → c' f = (Owned.last b f).getD (c f) := by
  have hcarried : lampCase atof first p = lampCarried atof p := by
    rw [lampCase_of_ne atof h7, lampCarried_of_ne atof h7]
    unfold caseStores
    cases hlook : lampFlags.lookup p.type with
    | none => rfl
    | some field =>
      have hnumber : SameNumber first p := hsame (by rw [hlook]; rfl)
      exact congrArg (fun n => some [(field, n)]) hnumber
  obtain ⟨b, hb⟩ := (Owned.run_isSome_iff _ ps c).1 ⟨c', hrun⟩ p hp
  refine ⟨b, hcarried ▸ hb, fun f hf => ?_⟩
  by_cases hd : f = .temperature_alarm_duration
  · subst hd
    have h4 : p.type = 0x4008 := hf.symm
    rw [(temperatureList atof h4).1] at hb
    obtain ⟨v, hv⟩ := (@temperatureList atof p p h4).2 b hb
    rw [hduration, askedDuration_of_mem atof hnodup hp h4 hb hv, hv]
    rfl
  · obtain ⟨a, ha, hstored⟩ := Owned.run_named TextParameter.type (lampCase_field atof hd) hnodup hp hf.symm hrun
    rw [hb, Option.some.injEq] at ha
    rw [ha]
    exact hstored

theorem lamp_iff (st : Store) {paras : List TextParameter} (hnodup : (paras.map TextParameter.type).Nodup)
    (c : LampField → ℕ) : LampStoresOwn atof st paras c ↔ LampMeets atof paras c := by
  constructor
  · rintro ⟨task, c', hset, hval⟩
    obtain ⟨hs, hrun⟩ := (lampSet_iff atof st paras c c').1 ⟨task, hset⟩
    refine ⟨hs, lampCases_of_own atof hnodup hrun hval, fun p hp h7 => ?_,
      (duration_iff atof hnodup hrun).1 (own_duration atof hnodup hval)⟩
    obtain ⟨b, hb, hnamed⟩ := hval.named p hp
    rw [lampCarried, if_pos h7] at hb
    cases hb
    have hswitch := hnamed .temperature_alarm_enable h7.symm
    rw [Owned.run_untouched (lampCase_switch atof) hrun, flag, Owned.last_singleton] at hswitch
    exact hswitch
  · intro h
    obtain ⟨c', hrun⟩ := (Owned.run_isSome_iff (lampCase atof (firstOf paras)) paras c).2 fun p hp =>
      lampCase_isSome atof (h.cases p hp).2
    have hduration := (duration_iff atof hnodup hrun).2 h.duration
    obtain ⟨task, hset⟩ := (lampSet_iff atof st paras c c').2 ⟨h.addressed, hrun⟩
    refine ⟨task, c', hset, fun p hp => ?_, fun f hf => ?_⟩
    · by_cases h7 : p.type = 0x8007
      · refine ⟨_, if_pos h7, fun f hf => ?_⟩
        have hswitch : f = .temperature_alarm_enable := by
          rw [h7] at hf
          revert hf
          cases f <;> simp [lampOwner]
        rw [hswitch, Owned.run_untouched (lampCase_switch atof) hrun, h.switch p hp h7, flag, Owned.last_singleton]
        rfl
      · exact named_of_meets atof hnodup hrun hduration hp h7 (h.cases p hp).1
    · by_cases hd : f = .temperature_alarm_duration
      · subst hd
        rw [hduration, askedDuration_of_absent atof hf]
      · exact Owned.run_absent TextParameter.type (lampCase_field atof hd) hf hrun

/-! ## The four handlers -/

/-- `"1"` for a type -/
def on (type : UInt16) : TextParameter := ⟨type, [0x31], by decide⟩

/-- `"0"` for a type -/
def off (type : UInt16) : TextParameter := ⟨type, [0x30], by decide⟩

end DataConcentrator.AlarmConfig
