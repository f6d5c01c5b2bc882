/-
`ElectricityMeterSetBasicConfiguration` and `InputCollectorSetBasicConfiguration`: the channel counts that a message stores,
and the loops that run up to them.

Floats stay the texts they are read from. What the loops access is listed, with the outcomes of their tests as arguments.
- `readParameter`, `runCommand`: a message as the commands it makes, and what they store;
- `lastNumber`, `lastModule`, `config_foldl`: which of its commands stay in force;
- `meter_inside_iff`, `collector_inside_iff`: the loops stay inside their arrays exactly for counts that are small enough;
- `counts_inside_iff`: over a run of accepted messages;
- `counts_outside`: a meter of seven channels and a collector of nine loops.
-/
import DataConcentrator.Relay.BasicConfig

namespace DataConcentrator.ChannelCounts

open Protocol (Parameter ServerFrameStruct)
open Relay (wordOf addressField countSegments)

/-! ## Messages -/

variable {τ : Type}

/-- what the handlers do with what they read, in order -/
inductive Command (τ : Type) where
  | detect_interval (n : UInt16)
  | auto_report (n : UInt8)
  | number (seg_num : ℕ)
  | module (k : ℕ) (text : τ)

def readModule (readText : Reader → Option (τ × Reader)) (k : ℕ) (r : Reader) : Option (Command τ × ℕ × Reader) :=
  (readText r).map fun x => (.module k x.1, k + 1, x.2)

/-- the commands so far, and what outlives a parameter -/
structure ReadState (τ : Type) where
  commands : List (Command τ)
  seg_num : ℕ
  tmp : List UInt8

def readParameter (most : ℕ) (readText : Reader → Option (τ × Reader)) (st : ReadState τ) (p : Parameter) :
    Option (ReadState τ) :=
  if p.type = 0x8001 then
    if 0 ∈ p.value then some { st with commands := st.commands ++ [.detect_interval (wordOf p.value)] } else none
  else if p.type = 0x6002 then
    if 0 ∈ p.value then some { st with commands := st.commands ++ [.auto_report (u8Of p.value)] } else none
  else if p.type = 0x4003 then do
    let seg_num ← countSegments most p st.seg_num
    let number := if p.len ≠ 0 then [.number seg_num] else []
    let (modules, _, r) ← readSegments (readModule readText) seg_num 0 ⟨p.value, st.tmp⟩
    some ⟨st.commands ++ number ++ modules, seg_num, r.tmp⟩
  else some st

/-- the commands of a message; `tmp` is what lies on the stack. `none` where a text is left or `tmp` is overrun -/
def readBasicConfiguration (most : ℕ) (readText : Reader → Option (τ × Reader)) (tmp : List UInt8)
    (s : ServerFrameStruct) : Option (List (Command τ)) :=
  ((List.range s.para_num).foldlM (fun st j => (s.paraAt j).bind (readParameter most readText st)) ⟨[], 0, tmp⟩).map
    ReadState.commands

/-- `ElectricityMeterConfigNum` and `ElectricityMeterConfig`, or those of the input collectors -/
structure Stored (τ : Type) where
  detect_interval : UInt16
  auto_report : UInt8
  number : ℕ
  config : ℕ → τ

def runCommand (c : Stored τ) : Command τ → Stored τ
  | .detect_interval n => { c with detect_interval := n }
  | .auto_report n => { c with auto_report := n }
  | .number seg_num => { c with number := seg_num }
  | .module k text => { c with config := Function.update c.config k text }

/-- an accepted message -/
structure Message (most : ℕ) (readText : Reader → Option (τ × Reader)) where
  tmp : List UInt8
  frame : ServerFrameStruct
  commands : List (Command τ)
  reads : readBasicConfiguration most readText tmp frame = some commands

def setBasicConfiguration {most : ℕ} {readText : Reader → Option (τ × Reader)} (c : Stored τ)
    (m : Message most readText) : Option (Stored τ) :=
  some (m.commands.foldl runCommand c)

/-! ## The two handlers -/

/-- a segment of parameter 0x4003, as far as `ElectricityMeterConfig_S` takes it -/
structure MeterText where
  address : UInt8
  channel : UInt8
  ch_num : UInt8
  voltage_ratio : List UInt8
  current_ratio : List UInt8
  voltage_range_of_change : List UInt8
  current_range_of_change : List UInt8
  pf_range_of_change : List UInt8
  confirm_time : UInt8
  name : List UInt8

def readMeterText (r : Reader) : Option (MeterText × Reader) := do
  let (address, r) ← addressField r
  let (channel, r) ← r.field 17 isComma
  let (ch_num, r) ← r.field 17 isComma
  let (voltage_ratio, r) ← r.field 17 isComma
  let (current_ratio, r) ← r.field 17 isComma
  let (voltage_range, r) ← r.field 17 isComma
  let (current_range, r) ← r.field 17 isComma
  let (pf_range, r) ← r.field 17 isComma
  let (confirm_time, r) ← r.field 17 isComma
  let (name, r) ← r.field 17 endsField
  some (⟨address, u8Of channel, u8Of ch_num, voltage_ratio, current_ratio, voltage_range, current_range, pf_range,
    u8Of confirm_time, name⟩, r)

/-- a segment of parameter 0x4003, as far as `InputCollectorConfig_S` takes it -/
structure CollectorText where
  address : UInt8
  channel : UInt8
  d_loop_num : UInt8
  a_loop_num : UInt8
  a_quantity_range : List UInt8
  confirm_time : UInt8
  name : List UInt8

def readCollectorText (r : Reader) : Option (CollectorText × Reader) := do
  let (address, r) ← addressField r
  let (channel, r) ← r.field 17 isComma
  let (d_loop_num, r) ← r.field 17 isComma
  let (a_loop_num, r) ← r.field 17 isComma
  let (a_quantity_range, r) ← r.field 17 isComma
  let (confirm_time, r) ← r.field 17 isComma
  let (name, r) ← r.field 17 endsField
  some (⟨address, u8Of channel, u8Of d_loop_num, u8Of a_loop_num, a_quantity_range, u8Of confirm_time, name⟩, r)

def MAX_ELECTRICITY_METER_CONF_NUM : ℕ := 6

def MAX_INPUT_COLLECTOR_CONF_NUM : ℕ := 10

abbrev MeterMessage := Message MAX_ELECTRICITY_METER_CONF_NUM readMeterText

abbrev CollectorMessage := Message MAX_INPUT_COLLECTOR_CONF_NUM readCollectorText

def electricityMeterSetBasicConfiguration (c : Stored MeterText) (m : MeterMessage) : Option (Stored MeterText) :=
  setBasicConfiguration c m

def inputCollectorSetBasicConfiguration (c : Stored CollectorText) (m : CollectorMessage) :
    Option (Stored CollectorText) :=
  setBasicConfiguration c m

/-! ## What the loops access -/

/-- the arrays of a meter with an entry for each channel, and the mask with a bit for each -/
inductive MeterArray where
  | current_para
  | mirror_para
  | alarm_thre
  | cnt
  | occur
  | abnormal_ch

/-- `MAX_ELECTRICITY_METER_CH_NUM` entries, and a `u8` -/
def MeterArray.size : MeterArray → ℕ
  | .abnormal_ch => 8
  | _ => 7

/-- the arrays of an input collector, and its two masks -/
inductive CollectorArray where
  | a_current_state
  | a_mirror_state
  | d_alarm_thre
  | a_alarm_thre
  | cnt
  | occur
  | d_abnormal_loop
  | a_abnormal_loop

/-- `MAX_INPUT_COLLECTOR_D_LOOP_CH_NUM` and `MAX_INPUT_COLLECTOR_A_LOOP_CH_NUM` entries, and two `u16` -/
def CollectorArray.size : CollectorArray → ℕ
  | .d_abnormal_loop => 16
  | .a_abnormal_loop => 16
  | _ => 8

section Accesses

variable (tests changes : ℕ → ℕ → ℕ → Bool)

/-- a module and a channel after the other -/
def channels (number : ℕ) (count : ℕ → ℕ) {α : Type} (body : ℕ → ℕ → List (α × ℕ)) : List (α × ℕ) :=
  (List.range number).flatMap fun i => (List.range (count i)).flatMap fun j => body i j

/-- `ElectricityMeterDetectParasStateChanges`; `tests` tells if quantity `q` has a range -/
def meterStateChanges (c : Stored MeterText) : List (MeterArray × ℕ) :=
  channels c.number (fun i => (c.config i).ch_num.toNat) fun i j => (List.range 3).flatMap fun q =>
    (if tests i j q then [(.current_para, j), (.mirror_para, j)] else []) ++ [(.cnt, j)]

/-- `ElectricityMeterDetectParasThreOver` and `ElectricityMeterDetectParasThreUnder`; `tests` tells if parameter `m` is polled,
`changes` if its alarm changes -/
def meterThresholds (c : Stored MeterText) : List (MeterArray × ℕ) :=
  channels c.number (fun i => (c.config i).ch_num.toNat) fun i j => (List.range 8).flatMap fun m =>
    (.alarm_thre, j) :: if tests i j m then [(.current_para, j), (.occur, j), (.cnt, j)] ++
      if changes i j m then [(.abnormal_ch, j)] else [] else []

/-- `ElectricityMeterSendStateChangesReportFrameToServer`, for meter `i` -/
def meterReport (c : Stored MeterText) (i : ℕ) : List (MeterArray × ℕ) :=
  (List.range ((c.config i).ch_num.toNat + 1)).map fun m => (.current_para, m)

/-- `InputCollectorDetectA_QuantityStateChanges`; `tests` tells if the module has a range -/
def collectorStateChanges (c : Stored CollectorText) : List (CollectorArray × ℕ) :=
  channels c.number (fun i => (c.config i).a_loop_num.toNat) fun i j =>
    (if tests i j 0 then [(.a_current_state, j), (.a_mirror_state, j)] else []) ++ [(.cnt, j)]

/-- `InputCollectorD_QuantityAbnormal`; `changes` tells if the alarm of a loop changes -/
def collectorDigital (c : Stored CollectorText) : List (CollectorArray × ℕ) :=
  channels c.number (fun i => (c.config i).d_loop_num.toNat) fun i j =>
    [(.occur, j), (.d_alarm_thre, j), (.cnt, j)] ++ if changes i j 0 then [(.d_abnormal_loop, j)] else []

/-- the report of a change, in which `tests` tells if a loop is printed -/
def collectorDigitalText (c : Stored CollectorText) (i : ℕ) : List (CollectorArray × ℕ) :=
  (List.range (c.config i).d_loop_num.toNat).flatMap fun k =>
    (.d_alarm_thre, k) :: if tests i k 0 then [(.d_abnormal_loop, k)] else []

/-- `InputCollectorA_OverQuantityAbnormal` and `InputCollectorA_UnderQuantityAbnormal` -/
def collectorAnalogue (c : Stored CollectorText) : List (CollectorArray × ℕ) :=
  channels c.number (fun i => (c.config i).a_loop_num.toNat) fun i j =>
    (.a_alarm_thre, j) :: if tests i j 0 then [(.occur, j), (.a_current_state, j), (.cnt, j)] ++
      if changes i j 0 then [(.a_abnormal_loop, j)] else [] else []

/-- the report of a change; it asks for the bits of `d_abnormal_loop` -/
def collectorAnalogueText (c : Stored CollectorText) (i : ℕ) : List (CollectorArray × ℕ) :=
  ((List.range (c.config i).a_loop_num.toNat).flatMap fun k =>
    (.a_alarm_thre, k) :: if tests i k 0 then [(.d_abnormal_loop, k)] else []) ++
  (List.range (c.config i).a_loop_num.toNat).map fun k => (.a_current_state, k)

/-- the bits of `a_channel_bit`, which `WriteInputCollectorConfig` sets if the count fits -/
def a_channel_bits (c : Stored CollectorText) (i : ℕ) : ℕ :=
  if (c.config i).a_loop_num.toNat ≤ 8 then (c.config i).a_loop_num.toNat else 0

/-- `InputCollectorSendStateChangesReportFrameToServer`, for module `i` -/
def collectorReport (c : Stored CollectorText) (i : ℕ) : List (CollectorArray × ℕ) :=
  (List.range (a_channel_bits c i)).map fun m => (.a_current_state, m)

end Accesses

/-- **Inside.** However the tests of the loops come out, they index inside the arrays of a meter and shift inside its mask. -/
structure MeterInside (c : Stored MeterText) : Prop where
  changes : ∀ tests, ∀ a ∈ meterStateChanges tests c, a.2 < a.1.size
  thresholds : ∀ tests changes, ∀ a ∈ meterThresholds tests changes c, a.2 < a.1.size
  report : ∀ i < c.number, ∀ a ∈ meterReport c i, a.2 < a.1.size

/-- so it is for an input collector -/
structure CollectorInside (c : Stored CollectorText) : Prop where
  changes : ∀ tests, ∀ a ∈ collectorStateChanges tests c, a.2 < a.1.size
  digital : ∀ changes, ∀ a ∈ collectorDigital changes c, a.2 < a.1.size
  digitalText : ∀ tests, ∀ i < c.number, ∀ a ∈ collectorDigitalText tests c i, a.2 < a.1.size
  analogue : ∀ tests changes, ∀ a ∈ collectorAnalogue tests changes c, a.2 < a.1.size
  analogueText : ∀ tests, ∀ i < c.number, ∀ a ∈ collectorAnalogueText tests c i, a.2 < a.1.size
  report : ∀ i < c.number, ∀ a ∈ collectorReport c i, a.2 < a.1.size

section Inside

variable {α : Type} {number bound : ℕ} {count : ℕ → ℕ} {body : ℕ → ℕ → List (α × ℕ)}

theorem mem_channels {a : α × ℕ} : a ∈ channels number count body ↔ ∃ i < number, ∃ j < count i, a ∈ body i j := by
  simp only [channels, List.mem_flatMap, List.mem_range]

/-- loops that use their channel alone as an index -/
theorem channels_inside {size : α → ℕ} (hbody : ∀ i j, ∀ a ∈ body i j, a.2 = j) (hcount : ∀ i < number, count i ≤ bound)
    (hsize : ∀ a, bound ≤ size a) : ∀ a ∈ channels number count body, a.2 < size a.1 := by
  intro a ha
  obtain ⟨i, hi, j, hj, ha⟩ := mem_channels.1 ha
  rw [hbody i j a ha]
  exact (hj.trans_le (hcount i hi)).trans_le (hsize a.1)

theorem meter_size (a : MeterArray) : 7 ≤ a.size := by
  cases a <;> decide

theorem collector_size (a : CollectorArray) : 8 ≤ a.size := by
  cases a <;> decide

/-- **The loops of the meters** stay inside exactly for counts up to 6. -/
theorem meter_inside_iff (c : Stored MeterText) :
    MeterInside c ↔ ∀ i < c.number, (c.config i).ch_num.toNat ≤ 6 := by
  constructor
  · intro h i hi
    have hlast := h.report i hi (.current_para, (c.config i).ch_num.toNat)
      (List.mem_map.2 ⟨_, List.mem_range.2 (Nat.lt_succ_self _), rfl⟩)
    exact Nat.le_of_lt_succ hlast
  · intro h
    have hle : ∀ i < c.number, (c.config i).ch_num.toNat ≤ 7 := fun i hi => (h i hi).trans (Nat.le_succ 6)
    refine ⟨fun tests => channels_inside (fun i j => ?_) hle meter_size,
      fun tests changes => channels_inside (fun i j => ?_) hle meter_size, fun i hi a ha => ?_⟩
    · refine List.forall_mem_flatMap.2 fun q _ => ?_
      split_ifs <;> simp
    · refine List.forall_mem_flatMap.2 fun m _ => ?_
      split_ifs <;> simp
    · obtain ⟨m, hm, rfl⟩ := List.mem_map.1 ha
      exact (Nat.lt_of_lt_of_le (List.mem_range.1 hm) (Nat.succ_le_succ (h i hi)))

/-- **The loops of the input collectors** stay inside exactly for counts up to 8. -/
theorem collector_inside_iff (c : Stored CollectorText) :
    CollectorInside c ↔ ∀ i < c.number, (c.config i).d_loop_num.toNat ≤ 8 ∧ (c.config i).a_loop_num.toNat ≤ 8 := by
  constructor
  · intro h i hi
    constructor
    · by_contra hlt
      have heighth := h.digital (fun _ _ _ => false) (.occur, 8)
        (mem_channels.2 ⟨i, hi, 8, Nat.lt_of_not_le hlt, List.mem_cons_self⟩)
      exact absurd heighth (Nat.lt_irrefl 8)
    · by_contra hlt
      have heighth := h.changes (fun _ _ _ => false) (.cnt, 8)
        (mem_channels.2 ⟨i, hi, 8, Nat.lt_of_not_le hlt, List.mem_cons_self⟩)
      exact absurd heighth (Nat.lt_irrefl 8)
  · intro h
    have hd : ∀ i < c.number, (c.config i).d_loop_num.toNat ≤ 8 := fun i hi => (h i hi).1
    have ha : ∀ i < c.number, (c.config i).a_loop_num.toNat ≤ 8 := fun i hi => (h i hi).2
    have hlt : ∀ {k n : ℕ} (a : CollectorArray), k ∈ List.range n → n ≤ 8 → k < a.size := fun a hk hn =>
      ((List.mem_range.1 hk).trans_le hn).trans_le (collector_size a)
    have hprinted : ∀ {b : CollectorArray} (printed : Bool) (k : ℕ),
        ∀ a ∈ (b, k) :: if printed then [(CollectorArray.d_abnormal_loop, k)] else [], a.2 = k := fun printed k => by
      split_ifs <;> simp
    exact {
      changes := fun tests => channels_inside (fun i j => by split_ifs <;> simp) ha collector_size
      digital := fun changes => channels_inside (fun i j => by split_ifs <;> simp) hd collector_size
      digitalText := fun tests i hi a hmem => by
        obtain ⟨k, hk, hmem⟩ := List.mem_flatMap.1 hmem
        rw [hprinted _ k a hmem]
        exact hlt a.1 hk (hd i hi)
      analogue := fun tests changes => channels_inside (fun i j => by split_ifs <;> simp) ha collector_size
      analogueText := fun tests i hi a hmem => by
        rcases List.mem_append.1 hmem with hmem | hmem
        · obtain ⟨k, hk, hmem⟩ := List.mem_flatMap.1 hmem
          rw [hprinted _ k a hmem]
          exact hlt a.1 hk (ha i hi)
        · obtain ⟨k, hk, rfl⟩ := List.mem_map.1 hmem
          exact hlt _ hk (ha i hi)
      report := fun i hi a hmem => by
        obtain ⟨k, hk, rfl⟩ := List.mem_map.1 hmem
        rw [a_channel_bits, if_pos (ha i hi)] at hk
        exact hlt _ hk (ha i hi) }

end Inside

/-! ## The commands in force -/

def Command.number? : Command τ → Option ℕ
  | .number seg_num => some seg_num
  | _ => none

def Command.module? (k : ℕ) : Command τ → Option τ
  | .module k' text => if k' = k then some text else none
  | _ => none

/-- the number of modules that a message leaves, if it gives one -/
def lastNumber (cs : List (Command τ)) : Option ℕ := (cs.filterMap Command.number?).getLast?

/-- what a message leaves in entry `k`, if anything -/
def lastModule (k : ℕ) (cs : List (Command τ)) : Option τ := (cs.filterMap (Command.module? k)).getLast?

/-- the texts in force that the message has read fit -/
def Message.Fits {most : ℕ} {readText : Reader → Option (τ × Reader)} (fits : τ → Prop) (c : Stored τ)
    (m : Message most readText) : Prop :=
  ∀ k < (lastNumber m.commands).getD c.number, ∀ text, lastModule k m.commands = some text → fits text

/-- the configured modules fit -/
def Stored.Fits (fits : τ → Prop) (c : Stored τ) : Prop := ∀ k < c.number, fits (c.config k)

theorem lastNumber_append (a b : List (Command τ)) : lastNumber (a ++ b) = (lastNumber b).or (lastNumber a) := by
  rw [lastNumber, List.filterMap_append, List.getLast?_append]
  rfl

theorem lastModule_append (k : ℕ) (a b : List (Command τ)) :
    lastModule k (a ++ b) = (lastModule k b).or (lastModule k a) := by
  rw [lastModule, List.filterMap_append, List.getLast?_append]
  rfl

theorem lastModule_single (k k' : ℕ) (text : τ) :
    lastModule k [.module k' text] = if k' = k then some text else none := by
  simp only [lastModule, List.filterMap_cons, Command.module?, List.filterMap_nil]
  split_ifs <;> rfl

theorem number_foldl (cs : List (Command τ)) (c : Stored τ) :
    (cs.foldl runCommand c).number = (lastNumber cs).getD c.number := by
  induction cs using List.reverseRecOn with
  | nil => rfl
  | append_singleton cs command ih =>
    rw [List.foldl_append, List.foldl_cons, List.foldl_nil, lastNumber_append]
    cases command with
    | number seg_num => rfl
    | detect_interval n => exact ih
    | auto_report n => exact ih
    | module k text => exact ih

theorem config_foldl (cs : List (Command τ)) (c : Stored τ) (k : ℕ) :
    (cs.foldl runCommand c).config k = (lastModule k cs).getD (c.config k) := by
  induction cs using List.reverseRecOn with
  | nil => rfl
  | append_singleton cs command ih =>
    rw [List.foldl_append, List.foldl_cons, List.foldl_nil, lastModule_append]
    cases command with
    | module k' text =>
      rcases eq_or_ne k' k with rfl | hne
      · rw [lastModule_single, if_pos rfl, runCommand]
        dsimp only
        rw [Function.update_self]
        rfl
      · rw [lastModule_single, if_neg hne, Option.none_or, ← ih, runCommand]
        dsimp only
        rw [Function.update_of_ne hne.symm]
    | detect_interval n => exact ih
    | auto_report n => exact ih
    | number seg_num => exact ih

/-! ## Every module that is counted is read -/

section Read

variable {most : ℕ} {readText : Reader → Option (τ × Reader)}

/-- `n` segments are the modules from `k` on -/
theorem readSegments_modules (n : ℕ) : ∀ {k k' : ℕ} {r r' : Reader} {cs : List (Command τ)},
    readSegments (readModule readText) n k r = some (cs, k', r') →
      lastNumber cs = none ∧ ∀ i, k ≤ i → i < k + n → ∃ text, lastModule i cs = some text := by
  induction n with
  | zero =>
    intro k k' r r' cs h
    obtain ⟨rfl, -⟩ := Prod.mk.inj (Option.some.inj h)
    exact ⟨rfl, fun i hlow hhigh => absurd hhigh (Nat.not_lt.2 hlow)⟩
  | succ n ih =>
    intro k k' r r' cs h
    rw [readSegments] at h
    obtain ⟨⟨command, k₁, r₁⟩, hread, h⟩ := Option.bind_eq_some_iff.1 h
    obtain ⟨⟨more, k₂, r₂⟩, hmore, h⟩ := Option.bind_eq_some_iff.1 h
    obtain ⟨⟨text, r₃⟩, -, hcommand⟩ := Option.map_eq_some_iff.1 hread
    obtain ⟨rfl, hk, -⟩ : Command.module k text = command ∧ k + 1 = k₁ ∧ r₃ = r₁ := by simpa using hcommand
    have hcs : some (Command.module k text :: more, k₂, r₂) = some (cs, k', r') := h
    obtain ⟨rfl, -⟩ := Prod.mk.inj (Option.some.inj hcs)
    obtain ⟨hnumber, hmodules⟩ := ih (hk ▸ hmore)
    have happend : Command.module k text :: more = [.module k text] ++ more := rfl
    refine ⟨?_, fun i hlow hhigh => ?_⟩
    · rw [happend, lastNumber_append, hnumber]
      rfl
    · rw [happend, lastModule_append]
      rcases Nat.eq_or_lt_of_le hlow with rfl | hlt
      · cases lastModule k more with
        | some text' => exact ⟨text', rfl⟩
        | none => exact ⟨text, by rw [lastModule_single, if_pos rfl]; rfl⟩
      · obtain ⟨text', htext'⟩ := hmodules i hlt (by omega)
        exact ⟨text', by rw [htext']; rfl⟩

/-- a number of modules is followed by all of them -/
def Complete (cs : List (Command τ)) : Prop := ∀ n, lastNumber cs = some n → ∀ k < n, ∃ text, lastModule k cs = some text

theorem Complete.append {cs more : List (Command τ)} (h : Complete cs) (hmore : lastNumber more = none) :
    Complete (cs ++ more) := by
  intro n hn k hk
  rw [lastNumber_append, hmore, Option.none_or] at hn
  obtain ⟨text, htext⟩ := h n hn k hk
  rw [lastModule_append, htext]
  cases lastModule k more with
  | none => exact ⟨text, rfl⟩
  | some text' => exact ⟨text', rfl⟩

theorem complete_parameter {st st' : ReadState τ} {p : Parameter} (h : Complete st.commands)
    (hp : readParameter most readText st p = some st') : Complete st'.commands := by
  rw [readParameter] at hp
  split_ifs at hp
  · rw [← Option.some.inj hp]
    exact h.append rfl
  · rw [← Option.some.inj hp]
    exact h.append rfl
  · -- a number, and its modules
    obtain ⟨seg_num, -, hp⟩ := Option.bind_eq_some_iff.1 hp
    obtain ⟨⟨modules, k', r⟩, hread, hp⟩ := Option.bind_eq_some_iff.1 hp
    obtain ⟨hnone, hmodules⟩ := readSegments_modules seg_num hread
    rw [← Option.some.inj hp]
    intro n hn k hk
    rw [List.append_assoc, lastNumber_append, lastNumber_append, hnone, Option.none_or] at hn
    obtain rfl : seg_num = n := Option.some.inj hn
    obtain ⟨text, htext⟩ := hmodules k (Nat.zero_le k) (by omega)
    exact ⟨text, by rw [lastModule_append, htext]; rfl⟩
  · -- modules alone
    obtain ⟨seg_num, -, hp⟩ := Option.bind_eq_some_iff.1 hp
    obtain ⟨⟨modules, k', r⟩, hread, hp⟩ := Option.bind_eq_some_iff.1 hp
    obtain ⟨hnone, -⟩ := readSegments_modules seg_num hread
    rw [← Option.some.inj hp, List.append_nil]
    exact h.append hnone
  · rw [← Option.some.inj hp]
    exact h

theorem complete_message (m : Message most readText) : Complete m.commands := by
  obtain ⟨st, hst, heq⟩ := Option.map_eq_some_iff.1 m.reads
  rw [← heq]
  refine CLoop.foldlM_inv (fun st j st' (h : Complete st.commands) hj => ?_) _ _ st ?_ hst
  · obtain ⟨p, -, hp⟩ := Option.bind_eq_some_iff.1 hj
    exact complete_parameter h hp
  · exact fun n hn => absurd hn.symm (Option.some_ne_none n)

/-- **A message** keeps the configured modules fitting exactly if the texts in force do. -/
theorem fits_iff (fits : τ → Prop) (c : Stored τ) (m : Message most readText) (hc : c.Fits fits) :
    (m.commands.foldl runCommand c).Fits fits ↔ m.Fits fits c := by
  rw [Stored.Fits, Message.Fits, number_foldl]
  refine forall_congr' fun k => forall_congr' fun hk => ?_
  rw [config_foldl]
  cases htext : lastModule k m.commands with
  | some text => simp
  | none =>
    -- an entry that the message leaves is one of those before
    refine iff_of_true ?_ fun text h => absurd h.symm (Option.some_ne_none text)
    cases hnumber : lastNumber m.commands with
    | some n =>
      rw [hnumber] at hk
      obtain ⟨text, hsome⟩ := complete_message m n hnumber k hk
      rw [htext] at hsome
      exact absurd hsome.symm (Option.some_ne_none text)
    | none =>
      rw [hnumber] at hk
      exact hc k hk

/-- a run of messages -/
theorem run_fits_iff (fits : τ → Prop) (messages : List (Message most readText)) (c : Stored τ) (hc : c.Fits fits) :
    Tally.Throughout setBasicConfiguration (Stored.Fits fits) c messages ↔
      Tally.Along setBasicConfiguration (fun c m => m.Fits fits c) c messages := by
  refine Tally.throughout_iff_along (fun _ _ t (_ : True) _ _ _ ht => ht) (fun c m _ hc _ => ?_) messages
    (fun _ _ => trivial) c hc hc
  rw [← fits_iff fits c m hc]
  exact ⟨fun ⟨t, ht, hfits⟩ => Option.some.inj ht ▸ hfits, fun h => ⟨_, rfl, h⟩⟩

end Read

/-! ## Every run -/

/-- no module is configured; what lies in the entries does not matter -/
def unconfigured (detect_interval : UInt16) (auto_report : UInt8) (config : ℕ → τ) : Stored τ :=
  ⟨detect_interval, auto_report, 0, config⟩

/-- the report shows channel 0 and `ch_num` more -/
def MeterText.Counted (text : MeterText) : Prop := text.ch_num.toNat ≤ 6

def CollectorText.Counted (text : CollectorText) : Prop := text.d_loop_num.toNat ≤ 8 ∧ text.a_loop_num.toNat ≤ 8

/-- **The channel counts.** After every message of a run the loops stay inside exactly if the texts in force of every message
have counts of at most 6 for a meter, and at most 8 and 8 for an input collector. -/
theorem counts_inside_iff (detect_interval : UInt16) (auto_report : UInt8) :
    (∀ (config : ℕ → MeterText) (messages : List MeterMessage),
      Tally.Throughout electricityMeterSetBasicConfiguration MeterInside
          (unconfigured detect_interval auto_report config) messages ↔
        Tally.Along electricityMeterSetBasicConfiguration (fun c m => m.Fits MeterText.Counted c)
          (unconfigured detect_interval auto_report config) messages) ∧
    ∀ (config : ℕ → CollectorText) (messages : List CollectorMessage),
      Tally.Throughout inputCollectorSetBasicConfiguration CollectorInside
          (unconfigured detect_interval auto_report config) messages ↔
        Tally.Along inputCollectorSetBasicConfiguration (fun c m => m.Fits CollectorText.Counted c)
          (unconfigured detect_interval auto_report config) messages := by
  refine ⟨fun config messages => ?_, fun config messages => ?_⟩
  · rw [show MeterInside = Stored.Fits MeterText.Counted from funext fun c => propext (meter_inside_iff c)]
    exact run_fits_iff _ messages _ fun k hk => absurd hk (Nat.not_lt_zero k)
  · rw [show CollectorInside = Stored.Fits CollectorText.Counted from funext fun c => propext (collector_inside_iff c)]
    exact run_fits_iff _ messages _ fun k hk => absurd hk (Nat.not_lt_zero k)

/-! ## Counts that are too large -/

/-- a message with the modules of a text -/
def modulesMessage (text : List UInt8) : ServerFrameStruct :=
  { ServerFrameStruct.zero with para_num := 1, para := [some ⟨0x4003, text.length, text ++ [0]⟩] }

/-- `1,0,7,1,1,1,1,1,1,m` -/
def sevenChannels : List UInt8 :=
  [0x31, 0x2C, 0x30, 0x2C, 0x37, 0x2C, 0x31, 0x2C, 0x31, 0x2C, 0x31, 0x2C, 0x31, 0x2C, 0x31, 0x2C, 0x31, 0x2C, 0x6D]

/-- `1,0,9,0,1,1,m` -/
def nineLoops : List UInt8 := [0x31, 0x2C, 0x30, 0x2C, 0x39, 0x2C, 0x30, 0x2C, 0x31, 0x2C, 0x31, 0x2C, 0x6D]

theorem reads_sevenChannels : readBasicConfiguration MAX_ELECTRICITY_METER_CONF_NUM readMeterText (List.replicate 17 0)
    (modulesMessage sevenChannels) =
      some [.number 1, .module 0 ⟨1, 0, 7, [0x31], [0x31], [0x31], [0x31], [0x31], 1, [0x6D]⟩] := by
  rfl

theorem reads_nineLoops : readBasicConfiguration MAX_INPUT_COLLECTOR_CONF_NUM readCollectorText (List.replicate 17 0)
    (modulesMessage nineLoops) = some [.number 1, .module 0 ⟨1, 0, 9, 0, [0x31], 1, [0x6D]⟩] := by
  rfl

def sevenChannelsMessage : MeterMessage := ⟨_, _, _, reads_sevenChannels⟩

def nineLoopsMessage : CollectorMessage := ⟨_, _, _, reads_nineLoops⟩

/-- **Outside.** The report of a meter with seven channels shows an eighth; the loop over nine digital loops has eight
entries. -/
theorem counts_outside :
    ¬ Tally.Throughout electricityMeterSetBasicConfiguration MeterInside
        (unconfigured 0 0 fun _ => ⟨0xFF, 0xFF, 0, [], [], [], [], [], 0, []⟩) [sevenChannelsMessage] ∧
      ¬ Tally.Throughout inputCollectorSetBasicConfiguration CollectorInside
        (unconfigured 0 0 fun _ => ⟨0xFF, 0xFF, 0, 0, [], 0, []⟩) [nineLoopsMessage] := by
  refine ⟨fun h => ?_, fun h => ?_⟩
  · obtain ⟨-, c, hc, hinside⟩ := h
    rw [← Option.some.inj hc] at hinside
    exact absurd (hinside.report 0 Nat.one_pos (.current_para, 7) (List.mem_map.2 ⟨7, List.mem_range.2 (by decide), rfl⟩))
      (Nat.lt_irrefl 7)
  · obtain ⟨-, c, hc, hinside⟩ := h
    rw [← Option.some.inj hc] at hinside
    exact absurd (hinside.digital (fun _ _ _ => false) (.occur, 8)
      (mem_channels.2 ⟨0, Nat.one_pos, 8, by decide, List.mem_cons_self⟩)) (Nat.lt_irrefl 8)

end DataConcentrator.ChannelCounts
