/-
`RelaySetBasicConfiguration`: the modules and their loops from a message, in the memory in which they lie.

A segment of parameter 0x4005 searches the module it names; the stores after the search use the index it ends at, which
is the number of modules if there is none.
- `readBasicConfiguration`: a message as the commands it makes;
- `loopStores`: what a segment stores, and where;
- `framed_iff`: a segment keeps to the module it names exactly if there is one and the groups end in its entry;
- `basicConfiguration_framed_iff`: so it is for all segments of a message, in terms of the modules before it.
-/
import DataConcentrator.Common.Hex
import DataConcentrator.Eeprom.ResetRecord
import DataConcentrator.Protocol.ServerFrame
import DataConcentrator.Relay.Module
import DataConcentrator.Lib.Tally

namespace DataConcentrator.Relay

open ByteStore (Region)
open Eeprom.ResetRecord (Packed Arrays)
open Protocol (Parameter ServerFrameStruct)

/-! ## Commands -/

/-- a segment of parameter 0x4004 -/
structure ModuleText where
  address : UInt8
  channel : UInt8
  loop_num : UInt8
  interval_time : UInt16
  name : List UInt8
deriving DecidableEq

/-- a segment of parameter 0x4005 -/
structure LoopSegment where
  address : UInt8
  channel : UInt8
  loop_ch : UInt8
  en : UInt8
  groups : List UInt8
deriving DecidableEq

/-- what the handler does with what it reads, in order -/
inductive ConfigCommand where
  | times (on off : UInt16)
  | monitoring (cycle : UInt16)
  | recording (time : UInt8)
  | number (seg_num : ℕ)
  | module (k : Fin MAX_RELAY_MODULE_CONF_NUM) (text : ModuleText)
  | loop (seg : LoopSegment)
deriving DecidableEq

/-! ## Reading -/

/-- a number stored in a `u16` -/
def wordOf (text : List UInt8) : UInt16 := UInt16.ofNat (toUnsigned 16 (myatoi text))

def isNul (b : UInt8) : Bool := b = 0

/-- `*msg == '\\0' || *msg == '|'` -/
def endsSegment (b : UInt8) : Bool := b = 0 || b = 0x7C

/-- an address: a single digit is moved behind a zero, in `tmp` -/
def addressField (r : Reader) : Option (UInt8 × Reader) := do
  let (text, r) ← r.field 17 isComma
  let r := if text.length = 1 then { r with tmp := 0x30 :: (text ++ r.tmp.drop 2) } else r
  let bs ← strToHex 1 r.tmp
  some (bs.headD 0, r)

/-- segment `k` of parameter 0x4004; `none` behind the array too -/
def readModule (k : ℕ) (r : Reader) : Option (ConfigCommand × ℕ × Reader) :=
  if h : k < MAX_RELAY_MODULE_CONF_NUM then do
    let (address, r) ← addressField r
    let (channel, r) ← r.field 17 isComma
    let (loop_num, r) ← r.field 17 isComma
    let (interval_time, r) ← r.field 17 isComma
    let (name, r) ← r.field 17 endsField
    some (.module ⟨k, h⟩ ⟨address, u8Of channel, u8Of loop_num, wordOf interval_time, name⟩, k + 1, r)
  else none

/-- `group_num`, a `u8`: one more than the commas before the end of the segment; `pos` is a `u16` -/
def loopGroupNum (r : Reader) : Option (ℕ × Reader) :=
  let part := r.msg.takeWhile fun b => !endsSegment b
  if part.length < r.msg.length then
    some ((part.count 0x2C + 1) % 256, { r with msg := r.msg.drop (part.length - part.length % 65536) })
  else none

def readGroup (_ : Unit) (r : Reader) : Option (UInt8 × Unit × Reader) := do
  let (group, r) ← r.field 17 endsField
  some (u8Of group, (), r)

/-- a segment of parameter 0x4005; groups follow if a comma ends `en` -/
def readLoop (_ : Unit) (r : Reader) : Option (ConfigCommand × Unit × Reader) := do
  let (address, r) ← addressField r
  let (ch, r) ← r.field 17 isComma
  let (loop_ch, r) ← r.field 17 isComma
  let (en, after) ← r.field 17 endsField
  let (group_num, r) ← if r.msg[en.length]? = some 0x2C then loopGroupNum after else some (0, after)
  let (groups, _, r) ← readSegments readGroup group_num () r
  some (.loop ⟨address, u8Of ch, u8Of loop_ch, u8Of en, groups⟩, (), r)

/-- the commands so far, and what outlives a parameter -/
structure ReadState where
  commands : List ConfigCommand
  seg_num : ℕ
  tmp : List UInt8

/-- `seg_num` is counted if the parameter has a length, and is the one from before if not -/
def countSegments (most : ℕ) (p : Parameter) (seg_num : ℕ) : Option ℕ :=
  if p.len ≠ 0 then segNum most p.value else some seg_num

def readParameter (st : ReadState) (p : Parameter) : Option ReadState :=
  if p.type = 0x4001 then do
    let (on, r) ← (Reader.mk p.value st.tmp).field 17 isComma
    let (off, r) ← r.field 17 isNul
    some { st with commands := st.commands ++ [.times (wordOf on) (wordOf off)], tmp := r.tmp }
  else if p.type = 0x8002 then
    if 0 ∈ p.value then some { st with commands := st.commands ++ [.monitoring (wordOf p.value)] } else none
  else if p.type = 0x8003 then
    if 0 ∈ p.value then some { st with commands := st.commands ++ [.recording (u8Of p.value)] } else none
  else if p.type = 0x4004 then do
    let seg_num ← countSegments MAX_RELAY_MODULE_CONF_NUM p st.seg_num
    let number := if p.len ≠ 0 then [.number seg_num] else []
    let (modules, _, r) ← readSegments readModule seg_num 0 ⟨p.value, st.tmp⟩
    some ⟨st.commands ++ number ++ modules, seg_num, r.tmp⟩
  else if p.type = 0x4005 then do
    let seg_num ← countSegments 255 p st.seg_num
    let (loops, _, r) ← readSegments readLoop seg_num () ⟨p.value, st.tmp⟩
    some ⟨st.commands ++ loops, seg_num, r.tmp⟩
  else some st

/-- the commands of a message; `tmp` is what lies on the stack. `none` where a text is left or `tmp` is overrun -/
def readBasicConfiguration (tmp : List UInt8) (s : ServerFrameStruct) : Option (List ConfigCommand) :=
  ((List.range s.para_num).foldlM (fun st j => (s.paraAt j).bind (readParameter st)) ⟨[], 0, tmp⟩).map ReadState.commands

/-! ## Storing -/

/-- `RelayModuleConfig_S`, as it lies in memory -/
def packedConfig : Packed :=
  [("address", 1), ("channel", 1), ("loop_num", 1), ("interval_time", 2), ("module", 16), ("loop_enable", 2),
   ("loop_group", 12 * 16), ("loop_alarm_thre", 12 * 5), ("crc16", 2)]

/-- `RelayModuleState_S` -/
def packedState : Packed :=
  [("address", 1), ("channel", 1), ("interval_time", 2), ("execute_immediately", 1), ("loop_channel_bit", 2),
   ("loop_last_channel", 2), ("loop_current_channel", 2), ("loop_last_task_channel", 2), ("loop_task_channel", 2),
   ("loop_mirror_state", 2), ("loop_last_state", 2), ("loop_current_state", 2), ("loop_collect_state", 2),
   ("loop_last_task_state", 2), ("loop_task_state", 2), ("controller", 1), ("control_time", 15), ("abnormal_loop", 2),
   ("loop_alarm", 12 * 8)]

/-- `RelayModuleConfig` and `RelayModuleState` -/
abbrev RelayArrays := Arrays 5 packedConfig packedState

/-- the array that a store goes through -/
inductive RelayArray where
  | RelayModuleConfig
  | RelayModuleState
deriving DecidableEq

/-- bytes stored through an array, at an address -/
structure Store where
  array : RelayArray
  address : ℕ
  bytes : List UInt8

/-- entry `m` of an array -/
def entry (A : RelayArrays) : RelayArray → ℕ → Region
  | .RelayModuleConfig, m => A.record m
  | .RelayModuleState, m => A.own m

def applyStores (mem : ℕ → UInt8) (stores : List Store) : ℕ → UInt8 :=
  stores.foldl (fun mem w => ByteStore.write mem w.address w.bytes) mem

def lowHigh (w : UInt16) : List UInt8 := [w.toUInt8, (w >>> 8).toUInt8]

def wordAt (mem : ℕ → UInt8) (a : ℕ) : UInt16 := (mem a).toUInt16 ||| (mem (a + 1)).toUInt16 <<< 8

/-- `RelayModuleBasicConfig` without its checksum -/
structure RelayModuleBasicConfig where
  on_hour : UInt8
  on_minute : UInt8
  off_hour : UInt8
  off_minute : UInt8
  state_monitoring_cycle : UInt16
  state_recording_time : UInt8
deriving DecidableEq

/-- `RelayModuleConfigNum.number`, and the memory with the two arrays -/
structure ConfigRam where
  number : ℕ
  fits : number ≤ MAX_RELAY_MODULE_CONF_NUM
  basic : RelayModuleBasicConfig
  mem : ℕ → UInt8

section Storing

variable (ub : UInt8 → UInt16) (A : RelayArrays)

/-- `WriteRelayModuleConfig(m,0,1)`, without the EEPROM: the checksum, and the state anew -/
def writeRelayModuleConfig (m : ℕ) (mem : ℕ → UInt8) : List Store :=
  let p := (A.record m).base
  let crc := crc16 (ByteStore.read mem p 275)
  [⟨.RelayModuleConfig, p + 275, [crc.2, crc.1]⟩,
   ⟨.RelayModuleState, (A.own m).base,
    [mem p, mem (p + 1), mem (p + 3), mem (p + 4), 0] ++ lowHigh (loopChannelBit (mem (p + 2))) ++ List.replicate 134 0⟩]

/-- the search: the first module with the address and channel, or their number -/
def searchedModule (s : ConfigRam) (address channel : UInt8) : ℕ :=
  (List.range s.number).findIdx fun m =>
    s.mem (A.record m).base = address && s.mem ((A.record m).base + 1) = channel

/-- `1 << (loop_ch - 1)`; `ub` is what the shift gives where its distance is negative or too large -/
def enableBit (loop_ch : UInt8) : UInt16 :=
  if 1 ≤ loop_ch ∧ loop_ch ≤ 31 then UInt16.ofNat (2 ^ (loop_ch.toNat - 1)) else ub loop_ch

/-- `loop_enable` and `loop_group[loop_ch - 1]` of entry `m` -/
def segmentStores (m : ℕ) (seg : LoopSegment) (mem : ℕ → UInt8) : List Store :=
  let p := (A.record m).base
  let loop_enable := wordAt mem (p + 21)
  (if seg.en = 1 then [⟨.RelayModuleConfig, p + 21, lowHigh (loop_enable ||| enableBit ub seg.loop_ch)⟩]
    else if seg.en = 0 then [⟨.RelayModuleConfig, p + 21, lowHigh (loop_enable &&& ~~~enableBit ub seg.loop_ch)⟩]
    else []) ++
  [⟨.RelayModuleConfig, p + 7 + 16 * seg.loop_ch.toNat, seg.groups⟩]

/-- all that a segment of parameter 0x4005 stores -/
def loopStores (s : ConfigRam) (seg : LoopSegment) : List Store :=
  let m := searchedModule A s seg.address seg.channel
  let stores := segmentStores ub A m seg s.mem
  stores ++ writeRelayModuleConfig A m (applyStores s.mem stores)

/-- a segment of parameter 0x4004; a name of 16 or more is not kept -/
def moduleStores (k : ℕ) (text : ModuleText) (mem : ℕ → UInt8) : List Store :=
  let p := (A.record k).base
  let name := if text.name.length < 16 then text.name else []
  let stores : List Store := [⟨.RelayModuleConfig, p, [text.address, text.channel, text.loop_num] ++
    lowHigh text.interval_time ++ name ++ List.replicate (16 - name.length) 0⟩]
  stores ++ writeRelayModuleConfig A k (applyStores mem stores)

def runCommand (s : ConfigRam) : ConfigCommand → ConfigRam
  | .times on off =>
    { s with basic := { s.basic with
        on_hour := (on / 100).toUInt8
        on_minute := (on % 100).toUInt8
        off_hour := (off / 100).toUInt8
        off_minute := (off % 100).toUInt8 } }
  | .monitoring cycle => { s with basic := { s.basic with state_monitoring_cycle := cycle } }
  | .recording time => { s with basic := { s.basic with state_recording_time := time } }
  | .number seg_num => { s with number := min seg_num MAX_RELAY_MODULE_CONF_NUM, fits := Nat.min_le_right _ _ }
  | .module k text => { s with mem := applyStores s.mem (moduleStores A k text s.mem) }
  | .loop seg => { s with mem := applyStores s.mem (loopStores ub A s seg) }

/-- `RelaySetBasicConfiguration`, without its answer -/
def relaySetBasicConfiguration (tmp : List UInt8) (msg : ServerFrameStruct) (s : ConfigRam) : Option ConfigRam :=
  (readBasicConfiguration tmp msg).map fun commands => commands.foldl (runCommand ub A) s

end Storing

/-! ## What a segment may touch -/

section Frames

variable (ub : UInt8 → UInt16) (A : RelayArrays)

/-- a segment keeps to the module it names: every store is in that module's entry of its array, so without such a module
there is none; and the rest of the memory is as before -/
structure Framed (s : ConfigRam) (seg : LoopSegment) : Prop where
  stores : ∀ w ∈ loopStores ub A s seg, ∀ k < w.bytes.length,
    searchedModule A s seg.address seg.channel < s.number ∧
      (entry A w.array (searchedModule A s seg.address seg.channel)).Contains (w.address + k)
  memory : ∀ a, (searchedModule A s seg.address seg.channel < s.number →
      ∀ array, ¬ (entry A array (searchedModule A s seg.address seg.channel)).Contains a) →
    (runCommand ub A s (.loop seg)).mem a = s.mem a

/-- so does every segment of a run -/
def FramedAt (s : ConfigRam) : ConfigCommand → Prop
  | .loop seg => Framed ub A s seg
  | _ => True

/-- the groups end before the checksum of the entry ends -/
def InEntry (seg : LoopSegment) : Prop := seg.groups = [] ∨ 7 + 16 * seg.loop_ch.toNat + seg.groups.length ≤ 277

/-- the modules, by their addresses and channels -/
structure ModuleTable where
  number : ℕ
  name : ℕ → UInt8 × UInt8

/-- the table after a command -/
def ModuleTable.next (T : ModuleTable) : ConfigCommand → ModuleTable
  | .number seg_num => { T with number := min seg_num MAX_RELAY_MODULE_CONF_NUM }
  | .module k text => { T with name := Function.update T.name k (text.address, text.channel) }
  | _ => T

/-- the segment names a module of the table, and its groups end in an entry -/
def ModuleTable.Allows (T : ModuleTable) : ConfigCommand → Prop
  | .loop seg => (∃ m < T.number, T.name m = (seg.address, seg.channel)) ∧ InEntry seg
  | _ => True

/-- so do all segments, each with the modules as they are then -/
def ModuleTable.AllowsAll : ModuleTable → List ConfigCommand → Prop
  | _, [] => True
  | T, c :: cs => T.Allows c ∧ (T.next c).AllowsAll cs

def ConfigRam.table (s : ConfigRam) : ModuleTable :=
  ⟨s.number, fun m => (s.mem (A.record m).base, s.mem ((A.record m).base + 1))⟩

/-! ## Stores -/

theorem applyStores_append (mem : ℕ → UInt8) (ws vs : List Store) :
    applyStores mem (ws ++ vs) = applyStores (applyStores mem ws) vs := List.foldl_append

/-- stores leave alone what they do not meet -/
theorem applyStores_frame {a : ℕ} (ws : List Store) (h : ∀ w ∈ ws, ∀ k < w.bytes.length, w.address + k ≠ a) :
    ∀ mem : ℕ → UInt8, applyStores mem ws a = mem a := by
  induction ws with
  | nil => exact fun _ => rfl
  | cons w ws ih =>
    intro mem
    have hrest := ih (fun v hv => h v (List.mem_cons_of_mem _ hv)) (ByteStore.write mem w.address w.bytes)
    have hfirst : ByteStore.write mem w.address w.bytes a = mem a := by
      rcases Nat.lt_or_ge a w.address with hlt | hge
      · exact ByteStore.write_of_lt mem _ hlt
      · refine ByteStore.write_of_ge mem _ (Nat.not_lt.1 fun hlt => ?_)
        exact h w List.mem_cons_self (a - w.address) (by omega) (by omega)
    exact hrest.trans hfirst

theorem writeRelayModuleConfig_entry (m : ℕ) (mem : ℕ → UInt8) : ∀ w ∈ writeRelayModuleConfig A m mem,
    ∀ k < w.bytes.length, (entry A w.array m).Contains (w.address + k) := by
  have hcrc : (A.record m).size = 277 := rfl
  have hstate : (A.own m).size = 141 := rfl
  intro w hw k hk
  rw [writeRelayModuleConfig, List.mem_cons, List.mem_singleton] at hw
  rcases hw with rfl | rfl
  · simp only [List.length_cons, List.length_nil] at hk
    simp only [entry, Region.Contains, hcrc]
    omega
  · rw [List.length_append, List.length_append, List.length_replicate] at hk
    simp only [lowHigh, List.length_cons, List.length_nil] at hk
    simp only [entry, Region.Contains, hstate]
    omega

/-- the own stores of a segment with groups that end in the entry -/
theorem segmentStores_entry {seg : LoopSegment} (h : InEntry seg) (m : ℕ) (mem : ℕ → UInt8) :
    ∀ w ∈ segmentStores ub A m seg mem, ∀ k < w.bytes.length, (entry A w.array m).Contains (w.address + k) := by
  have hsize : (A.record m).size = 277 := rfl
  have hword : ∀ (word : UInt16) k, k < (lowHigh word).length →
      (entry A .RelayModuleConfig m).Contains ((A.record m).base + 21 + k) := by
    intro word k hk
    simp only [lowHigh, List.length_cons, List.length_nil] at hk
    simp only [entry, Region.Contains, hsize]
    omega
  have hgroups : ∀ k < seg.groups.length,
      (entry A .RelayModuleConfig m).Contains ((A.record m).base + 7 + 16 * seg.loop_ch.toNat + k) := by
    intro k hk
    rcases h with hnone | hfits
    · rw [hnone] at hk
      exact absurd hk (Nat.not_lt_zero k)
    · simp only [entry, Region.Contains, hsize]
      omega
  intro w hw k hk
  rw [segmentStores, List.mem_append, List.mem_singleton] at hw
  rcases hw with hw | rfl
  · split_ifs at hw
    · rw [List.mem_singleton.1 hw] at hk ⊢
      exact hword _ k hk
    · rw [List.mem_singleton.1 hw] at hk ⊢
      exact hword _ k hk
    · exact absurd hw List.not_mem_nil
  · exact hgroups k hk

theorem moduleStores_entry (k : ℕ) (text : ModuleText) (mem : ℕ → UInt8) : ∀ w ∈ moduleStores A k text mem,
    ∀ i < w.bytes.length, (entry A w.array k).Contains (w.address + i) := by
  have hsize : (A.record k).size = 277 := rfl
  have hname : ∀ name : List UInt8, name.length ≤ 16 →
      ([text.address, text.channel, text.loop_num] ++ lowHigh text.interval_time ++ name ++
        List.replicate (16 - name.length) 0).length = 21 := by
    intro name hle
    simp only [lowHigh, List.length_append, List.length_cons, List.length_nil, List.length_replicate]
    omega
  intro w hw i hi
  rw [moduleStores, List.mem_append, List.mem_singleton] at hw
  rcases hw with rfl | hw
  · have hle : (if text.name.length < 16 then text.name else []).length ≤ 16 := by
      split_ifs with hlt
      · exact hlt.le
      · exact Nat.zero_le _
    rw [hname _ hle] at hi
    simp only [entry, Region.Contains, hsize]
    omega
  · exact writeRelayModuleConfig_entry A k _ w hw i hi

/-! ## One segment -/

variable {ub A}

/-- the search ends below the number exactly if the module is there -/
theorem searchedModule_lt_iff {s : ConfigRam} {address channel : UInt8} : searchedModule A s address channel < s.number ↔
    ∃ m < s.number, s.mem (A.record m).base = address ∧ s.mem ((A.record m).base + 1) = channel := by
  have hfound : searchedModule A s address channel < (List.range s.number).length ↔ _ := List.findIdx_lt_length
  rw [List.length_range] at hfound
  rw [hfound]
  simp

/-- **A segment** keeps to the module it names exactly if there is one and the groups end in its entry. -/
theorem framed_iff {s : ConfigRam} {seg : LoopSegment} : Framed ub A s seg ↔
    searchedModule A s seg.address seg.channel < s.number ∧ InEntry seg := by
  constructor
  · rintro ⟨hstores, -⟩
    -- the checksum is always stored
    have hcrc : ∃ w ∈ loopStores ub A s seg, 0 < w.bytes.length := by
      refine ⟨_, List.mem_append_right _ List.mem_cons_self, ?_⟩
      exact Nat.succ_pos _
    obtain ⟨w, hw, hpos⟩ := hcrc
    refine ⟨(hstores w hw 0 hpos).1, ?_⟩
    by_cases hnone : seg.groups = []
    · exact Or.inl hnone
    · have hgroups := hstores ⟨.RelayModuleConfig,
        (A.record (searchedModule A s seg.address seg.channel)).base + 7 + 16 * seg.loop_ch.toNat, seg.groups⟩
        (List.mem_append_left _ (List.mem_append_right _ (List.mem_singleton.2 rfl)))
      have hlen : 0 < seg.groups.length := List.length_pos_of_ne_nil hnone
      have hlast := (hgroups (seg.groups.length - 1) (Nat.sub_lt hlen Nat.one_pos)).2
      have hsize : (A.record (searchedModule A s seg.address seg.channel)).size = 277 := rfl
      simp only [entry, Region.Contains, hsize] at hlast
      exact Or.inr (by omega)
  · rintro ⟨hfound, hentry⟩
    have hstores : ∀ w ∈ loopStores ub A s seg, ∀ k < w.bytes.length,
        (entry A w.array (searchedModule A s seg.address seg.channel)).Contains (w.address + k) := by
      intro w hw
      rcases List.mem_append.1 hw with hw | hw
      · exact segmentStores_entry ub A hentry _ _ w hw
      · exact writeRelayModuleConfig_entry A _ _ w hw
    refine ⟨fun w hw k hk => ⟨hfound, hstores w hw k hk⟩, fun a ha => applyStores_frame _ ?_ _⟩
    rintro w hw k hk rfl
    exact ha hfound w.array (hstores w hw k hk)

/-! ## Runs -/

/-- a table says which modules there are -/
structure ModuleTable.Of (T : ModuleTable) (A : RelayArrays) (s : ConfigRam) : Prop where
  number : T.number = s.number
  name : ∀ m < MAX_RELAY_MODULE_CONF_NUM, T.name m = (s.mem (A.record m).base, s.mem ((A.record m).base + 1))

/-- the first bytes of an entry are in no entry of another module, and in no state -/
theorem name_not_contains {m n : ℕ} (hm : m < MAX_RELAY_MODULE_CONF_NUM) (hn : n < MAX_RELAY_MODULE_CONF_NUM) {i : ℕ}
    (hi : i < 2) : ¬ (A.own n).Contains ((A.record m).base + i) ∧
      (m ≠ n → ¬ (A.record n).Contains ((A.record m).base + i)) := by
  have hapart := A.apart
  have hc : packedConfig.sizeof = 277 := rfl
  have hs : packedState.sizeof = 141 := rfl
  have hmax : MAX_RELAY_MODULE_CONF_NUM = 5 := rfl
  simp only [Region.Disjoint, Region.Contains, Arrays.record, Arrays.own, hc, hs] at hapart ⊢
  constructor
  · omega
  · intro hne
    rcases Nat.lt_or_gt_of_ne hne with h | h <;> omega

/-- a module's own stores leave the names of the others alone -/
theorem names_kept {n : ℕ} (hn : n < MAX_RELAY_MODULE_CONF_NUM) {ws : List Store}
    (hws : ∀ w ∈ ws, ∀ k < w.bytes.length, (entry A w.array n).Contains (w.address + k)) {m : ℕ}
    (hm : m < MAX_RELAY_MODULE_CONF_NUM) (hne : m ≠ n) {i : ℕ} (hi : i < 2) (mem : ℕ → UInt8) :
    applyStores mem ws ((A.record m).base + i) = mem ((A.record m).base + i) := by
  obtain ⟨hstate, hconfig⟩ := name_not_contains (A := A) hm hn hi
  refine applyStores_frame _ (fun w hw k hk heq => ?_) _
  have hin := hws w hw k hk
  rw [heq] at hin
  cases harray : w.array with
  | RelayModuleConfig =>
    rw [harray] at hin
    exact hconfig hne hin
  | RelayModuleState =>
    rw [harray] at hin
    exact hstate hin

/-- what `WriteRelayModuleConfig` stores leaves every name alone -/
theorem writeRelayModuleConfig_names {m n : ℕ} (hm : m < MAX_RELAY_MODULE_CONF_NUM) (hn : n < MAX_RELAY_MODULE_CONF_NUM)
    {i : ℕ} (hi : i < 2) (mem : ℕ → UInt8) :
    applyStores mem (writeRelayModuleConfig A n mem) ((A.record m).base + i) = mem ((A.record m).base + i) := by
  by_cases hne : m = n
  · subst hne
    refine applyStores_frame _ (fun w hw k hk heq => ?_) mem
    have hin := writeRelayModuleConfig_entry A m mem w hw k hk
    rw [heq] at hin
    rw [writeRelayModuleConfig, List.mem_cons, List.mem_singleton] at hw
    rcases hw with rfl | rfl
    · simp only at heq
      omega
    · exact (name_not_contains hm hm hi).1 hin
  · exact names_kept hn (writeRelayModuleConfig_entry A n mem) hm hne hi mem

/-- nor does a segment rename its own module -/
theorem loop_names {s : ConfigRam} {seg : LoopSegment} (h : Framed ub A s seg) {m : ℕ}
    (hm : m < MAX_RELAY_MODULE_CONF_NUM) {i : ℕ} (hi : i < 2) :
    (runCommand ub A s (.loop seg)).mem ((A.record m).base + i) = s.mem ((A.record m).base + i) := by
  obtain ⟨hfound, hentry⟩ := framed_iff.1 h
  have hn : searchedModule A s seg.address seg.channel < MAX_RELAY_MODULE_CONF_NUM := lt_of_lt_of_le hfound s.fits
  rw [runCommand, loopStores]
  simp only [applyStores_append]
  generalize searchedModule A s seg.address seg.channel = n at hn
  rw [writeRelayModuleConfig_names hm hn hi]
  by_cases hne : m = n
  · subst hne
    refine applyStores_frame _ (fun w hw k hk heq => ?_) s.mem
    rw [segmentStores, List.mem_append, List.mem_singleton] at hw
    rcases hw with hw | rfl
    · split_ifs at hw
      · rw [List.mem_singleton.1 hw] at heq
        simp only at heq
        omega
      · rw [List.mem_singleton.1 hw] at heq
        simp only at heq
        omega
      · exact absurd hw List.not_mem_nil
    · simp only at heq
      omega
  · exact names_kept hn (segmentStores_entry ub A hentry n s.mem) hm hne hi s.mem

/-- a segment of parameter 0x4004 names its module -/
theorem module_names (s : ConfigRam) (k : Fin MAX_RELAY_MODULE_CONF_NUM) (text : ModuleText) {m : ℕ}
    (hm : m < MAX_RELAY_MODULE_CONF_NUM) :
    ((runCommand ub A s (.module k text)).mem (A.record m).base,
      (runCommand ub A s (.module k text)).mem ((A.record m).base + 1)) =
    Function.update (fun m => (s.mem (A.record m).base, s.mem ((A.record m).base + 1))) (k : ℕ)
      (text.address, text.channel) m := by
  by_cases hne : m = k
  · subst hne
    rw [Function.update_self, runCommand, moduleStores]
    simp only [applyStores_append]
    have h0 := writeRelayModuleConfig_names (A := A) (i := 0) hm hm (by decide)
    have h1 := writeRelayModuleConfig_names (A := A) (i := 1) hm hm (by decide)
    simp only [Nat.add_zero] at h0
    rw [h0, h1]
    have hfirst : ∀ (mem : ℕ → UInt8) p b0 b1 (rest : List UInt8),
        ByteStore.write mem p (b0 :: b1 :: rest) p = b0 ∧ ByteStore.write mem p (b0 :: b1 :: rest) (p + 1) = b1 :=
      fun mem p b0 b1 rest => ⟨ByteStore.write_at mem p 0 (b0 :: b1 :: rest) (Nat.succ_pos _),
        ByteStore.write_at mem p 1 (b0 :: b1 :: rest) (Nat.succ_lt_succ (Nat.succ_pos _))⟩
    obtain ⟨haddress, hchannel⟩ := hfirst s.mem (A.record k).base text.address text.channel _
    exact Prod.ext haddress hchannel
  · have hkeep : ∀ i < 2, (runCommand ub A s (.module k text)).mem ((A.record m).base + i) =
        s.mem ((A.record m).base + i) :=
      fun i hi => names_kept k.isLt (moduleStores_entry A k text s.mem) hm hne hi s.mem
    rw [Function.update_of_ne hne]
    exact Prod.ext (hkeep 0 (by decide)) (hkeep 1 (by decide))

/-- a command takes the table to the next one -/
theorem ModuleTable.Of.next {T : ModuleTable} {s : ConfigRam} (h : T.Of A s) {c : ConfigCommand} (hc : FramedAt ub A s c) :
    (T.next c).Of A (runCommand ub A s c) := by
  cases c with
  | times on off => exact ⟨h.number, h.name⟩
  | monitoring cycle => exact ⟨h.number, h.name⟩
  | recording time => exact ⟨h.number, h.name⟩
  | number seg_num => exact ⟨rfl, h.name⟩
  | module k text =>
    refine ⟨h.number, fun m hm => ?_⟩
    rw [module_names s k text hm]
    by_cases hne : m = k
    · rw [hne, Function.update_self]
      exact Function.update_self _ _ _
    · rw [Function.update_of_ne hne, ← h.name m hm]
      exact Function.update_of_ne hne _ _
  | loop seg =>
    refine ⟨h.number, fun m hm => ?_⟩
    have h0 := loop_names hc hm (i := 0) (by decide)
    have h1 := loop_names hc hm (i := 1) (by decide)
    rw [Nat.add_zero] at h0
    rw [h0, h1]
    exact h.name m hm

/-- a command keeps to its module if the table allows it -/
theorem ModuleTable.Of.framedAt_iff {T : ModuleTable} {s : ConfigRam} (h : T.Of A s) (c : ConfigCommand) :
    FramedAt ub A s c ↔ T.Allows c := by
  cases c with
  | loop seg =>
    rw [FramedAt, framed_iff, searchedModule_lt_iff, Allows, h.number]
    refine and_congr_left fun _ => exists_congr fun m => and_congr_right fun hm => ?_
    rw [h.name m (lt_of_lt_of_le hm s.fits), Prod.mk.injEq]
  | _ => exact Iff.rfl

theorem framed_all_iff (cs : List ConfigCommand) : ∀ (T : ModuleTable) (s : ConfigRam), T.Of A s →
    (Tally.Along (fun s c => some (runCommand ub A s c)) (FramedAt ub A) s cs ↔ T.AllowsAll cs) := by
  induction cs with
  | nil => exact fun _ _ _ => Iff.rfl
  | cons c cs ih =>
    intro T s h
    rw [Tally.Along, ModuleTable.AllowsAll]
    constructor
    · rintro ⟨hc, hcs⟩
      exact ⟨(h.framedAt_iff c).1 hc, (ih _ _ (h.next hc)).1 (hcs _ rfl)⟩
    · rintro ⟨hc, hcs⟩
      have hframed : FramedAt ub A _ c := (h.framedAt_iff c).2 hc
      refine ⟨hframed, fun t ht => ?_⟩
      rw [← Option.some.inj ht]
      exact (ih _ _ (h.next hframed)).2 hcs

theorem table_of (s : ConfigRam) : (s.table A).Of A s := ⟨rfl, fun _ _ => rfl⟩

/-- the handler reads the message without leaving a text or overrunning `tmp`, and every segment of parameter 0x4005 keeps
to the module it names -/
def LoopsFramed (ub : UInt8 → UInt16) (A : RelayArrays) (tmp : List UInt8) (msg : ServerFrameStruct) (s : ConfigRam) :
    Prop :=
  ∃ commands, readBasicConfiguration tmp msg = some commands ∧
    Tally.Along (fun s c => some (runCommand ub A s c)) (FramedAt ub A) s commands

/-- **The basic configuration.** Every segment of parameter 0x4005 keeps to the module it names exactly if the message is
read within its texts and `tmp`, each segment names a module there is then, and its groups end in the entry of it. -/
theorem basicConfiguration_framed_iff (ub : UInt8 → UInt16) (A : RelayArrays) (tmp : List UInt8) (msg : ServerFrameStruct)
    (s : ConfigRam) : LoopsFramed ub A tmp msg s ↔
      ∃ commands, readBasicConfiguration tmp msg = some commands ∧ (s.table A).AllowsAll commands :=
  exists_congr fun commands => and_congr_right fun _ => framed_all_iff commands _ s (table_of s)

end Frames

/-! ## A module that is not there -/

/-- the two arrays one behind the other -/
def someArrays : RelayArrays where
  configBase := 0
  stateBase := 1385
  apart := Or.inl (le_refl 1385)

/-- one module, with address and channel 1, in a memory of zeros -/
def namelessModule : ConfigRam where
  number := 1
  fits := by decide
  basic := ⟨18, 0, 6, 0, 30, 30⟩
  mem := fun a => if a < 2 then 1 else 0

/-- a message with the loop segments of a text -/
def loopConfigMessage (text : List UInt8) : ServerFrameStruct :=
  { ServerFrameStruct.zero with para_num := 1, para := [some ⟨0x4005, text.length, text ++ [0]⟩] }

/-- `2,1,1,1` -/
def unknownLoop : List UInt8 := [0x32, 0x2C, 0x31, 0x2C, 0x31, 0x2C, 0x31]

/-- **An unknown module.** The only module has address 1; enabling a loop of module 2 enables it in the next entry. -/
theorem unknown_loop_stored :
    ¬ LoopsFramed (fun _ => 0) someArrays (List.replicate 17 0) (loopConfigMessage unknownLoop) namelessModule ∧
    ∃ t, relaySetBasicConfiguration (fun _ => 0) someArrays (List.replicate 17 0) (loopConfigMessage unknownLoop)
        namelessModule = some t ∧
      namelessModule.mem ((someArrays.record 1).base + 21) = 0 ∧ t.mem ((someArrays.record 1).base + 21) = 1 := by
  have hread : readBasicConfiguration (List.replicate 17 0) (loopConfigMessage unknownLoop) =
      some [.loop ⟨2, 1, 1, 1, []⟩] := by
    decide +kernel
  constructor
  · rintro ⟨commands, hcommands, hframed⟩
    rw [hread, Option.some.injEq] at hcommands
    rw [← hcommands] at hframed
    have hfound := (framed_iff.1 hframed.1).1
    exact absurd hfound (by decide +kernel)
  · refine ⟨_, congrArg (Option.map _) hread, rfl, ?_⟩
    decide +kernel

end DataConcentrator.Relay
