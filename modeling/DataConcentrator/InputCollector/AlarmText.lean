/-
The alarm thresholds of the input collectors as texts: `InputCollectorGetAlarmConfiguration` prints them, and
`InputCollectorSetAlarmConfiguration` reads them.

A `double` is its bits; `BoundTexts` are the conversions of bounds.
- `Kind`: the digital and the analog lists are printed and read in one way;
- `getLoops`, `setLoops`: in a buffer of 1700 bytes, through `tmp[10]`; channel 8 is not accepted;
- `setLoops_of_restorable`, `restorable_of_runs`: the lists that come back;
- `harmless_iff`: the segments that leave the others as they are;
- `collector_iff`: both, for the two lists;
- `collector_lost`: a threshold on channel 8, a bound of 220, a segment for channel 9, and one for an eleventh module.

Allocations succeed. The answer and the copies in the EEPROM are left out.
-/
import DataConcentrator.Common.Entries
import DataConcentrator.Lib.Puts

namespace DataConcentrator.CollectorAlarm

open Puts (storeAll putAll)
open Relay (sprintfX)

/-! ## Thresholds -/

def MAX_INPUT_COLLECTOR_CONF_NUM : ℕ := 10

/-- `MAX_INPUT_COLLECTOR_D_LOOP_CH_NUM` and `MAX_INPUT_COLLECTOR_A_LOOP_CH_NUM` -/
def MAX_LOOP_CH_NUM : ℕ := 8

/-- `InputCollectorD_Alarm_S` -/
structure D_Alarm where
  channel : UInt8
  alarm_level : UInt8
  confirm_time : UInt8
  last_run_mode : UInt8
  switch_run_mode : UInt8
  resume_run_mode : UInt8
  relay_action : UInt8

/-- `InputCollectorA_Alarm_S` -/
structure A_Alarm where
  channel : UInt8
  min_value : UInt64
  max_value : UInt64
  confirm_time : UInt8
  last_run_mode : UInt8
  switch_run_mode : UInt8
  resume_run_mode : UInt8
  relay_action : UInt8

/-- a configured module -/
structure Module where
  address : UInt8
  channel : UInt8
  d_loop_num : ℕ
  a_loop_num : ℕ
  d_loop_num_le : d_loop_num ≤ MAX_LOOP_CH_NUM
  a_loop_num_le : a_loop_num ≤ MAX_LOOP_CH_NUM

def Module.key (module : Module) : UInt8 × UInt8 := (module.address, module.channel)

/-- the configured modules -/
structure Modules where
  list : List Module
  length_le : list.length ≤ MAX_INPUT_COLLECTOR_CONF_NUM

/-- a module and the index of a loop -/
abbrev Place := ℕ × ℕ

/-- `InputCollectorAlarmConfig`, and the thresholds in `InputCollectorConfig` -/
structure AlarmConfig where
  d_quantity_abnormal_alarm_enable : UInt8
  a_quantity_abnormal_alarm_enable : UInt8
  d_alarm_thre : Place → D_Alarm
  a_alarm_thre : Place → A_Alarm

/-! ## Lists of one kind -/

/-- a kind of thresholds: how many values there are besides the last, the loops that are printed, the texts of the
values, and what an entry stores; `same v old` is the record `v` with what no text holds left as in `old` -/
structure Kind (V : Type) where
  more : ℕ
  loop_num : Module → ℕ
  channel : V → UInt8
  values : V → List (List UInt8)
  set : UInt8 → List (List UInt8) → V → V
  same : V → V → V
  loop_num_le : ∀ module, loop_num module ≤ MAX_LOOP_CH_NUM
  three_le : 3 ≤ more
  length_values : ∀ v, (values v).length = more + 1
  plain : ∀ v, ∀ t ∈ values v, Plain t
  ne_nil : ∀ v, ∀ t ∈ values v, t ≠ []
  channel_same : ∀ v old, channel (same v old) = channel v
  channel_set : ∀ loop_ch values old, channel (set loop_ch values old) = loop_ch
  other : ∀ loop_ch, ∃ v, channel v ≠ loop_ch

section Lists

variable {V : Type} (K : Kind V)

def loopEntry (key : UInt8 × UInt8) (v : V) : EntryText where
  add := sprintfX key.1
  place := [sprintfD key.2.toNat, sprintfD (K.channel v).toNat]
  values := K.values v

/-- the loops that are printed, each with the address and channel of its module -/
def printed (modules : Modules) (thre : Place → V) : List ((UInt8 × UInt8) × Place) :=
  (modules.list.zipIdx.flatMap fun k => (List.range (K.loop_num k.1)).map fun j => (k.1.key, (k.2, j))).filter
    fun e => decide ((K.channel (thre e.2)).toNat = e.2.2 + 1)

def loopEntries (modules : Modules) (thre : Place → V) : List EntryText :=
  (printed K modules thre).map fun e => loopEntry K e.1 (thre e.2)

/-- `tmp[25]` takes each field first -/
def getLoops (modules : Modules) (thre : Place → V) : Option (List UInt8) :=
  let es := loopEntries K modules thre
  if ∀ e ∈ es, ∀ t ∈ e.fields, t.length < 25 then printEntries 1700 (es.map EntryText.fields) else none

/-- address, channel, `loop_ch` and the values, in `tmp[10]` -/
def loopFormat : EntryFormat where
  size := 10
  place := 2
  more := K.more
  accepts place := decide ((u8Of (place.getD 1 [])).toNat < MAX_LOOP_CH_NUM)

/-- the index of the module, or how many there are -/
def moduleIndex (modules : Modules) (key : UInt8 × UInt8) : ℕ := modules.list.findIdx fun module => module.key = key

/-- what an accepted entry stores, and where -/
structure Stored where
  m : ℕ
  loop_ch : ℕ
  values : List (List UInt8)
deriving DecidableEq

def Stored.place (t : Stored) : Place := (t.m, t.loop_ch - 1)

/-- `loop_ch`; 0 is taken for 1 -/
def loopOf (text : List UInt8) : ℕ := if (u8Of text).toNat = 0 then 1 else (u8Of text).toNat

def storedOf (modules : Modules) (e : Entry) : Option Stored :=
  e.values.map fun values =>
    ⟨moduleIndex modules (e.add, u8Of (e.place.getD 0 [])), loopOf (e.place.getD 1 []), values⟩

/-- what each entry of a text stores, if anything, and `tmp` after them -/
def readStored (modules : Modules) (tmp text : List UInt8) : Option (List (Option Stored) × List UInt8) :=
  ((loopFormat K).readAll tmp text).map fun r => (r.1.map (storedOf modules), r.2)

/-- whether a place is in the table of `MAX_INPUT_COLLECTOR_CONF_NUM` modules -/
def inTable (p : Place) : Bool := p.1 < MAX_INPUT_COLLECTOR_CONF_NUM

def setStored (t : Stored) (v : V) : V := K.set (UInt8.ofNat t.loop_ch) t.values v

def setLoops (modules : Modules) (text : List UInt8) (s : (Place → V) × List UInt8) :
    Option ((Place → V) × List UInt8) :=
  (readStored K modules s.2 text).bind fun r =>
    (storeAll Stored.place (setStored K) inTable s.1 (r.1.filterMap id)).map fun thre => (thre, r.2)

end Lists

/-! ## The two kinds -/

/-- `double` of which every bit is set -/
def NA : UInt64 := 0xFFFFFFFFFFFFFFFF

def setDigital (loop_ch : UInt8) (values : List (List UInt8)) (old : D_Alarm) : D_Alarm :=
  let value (i : ℕ) := values.getD i []
  { old with
    channel := loop_ch
    alarm_level := u8Of (value 0)
    confirm_time := u8Of (value 1)
    switch_run_mode := u8Of (value 2)
    resume_run_mode := u8Of (value 3)
    relay_action := u8Of (value 4) }

def digitalValues (v : D_Alarm) : List (List UInt8) :=
  [sprintfD v.alarm_level.toNat, sprintfD v.confirm_time.toNat, sprintfD v.switch_run_mode.toNat,
    sprintfD v.resume_run_mode.toNat, sprintfD v.relay_action.toNat]

section Analog

variable (F : BoundTexts UInt64)

/-- the low half of a bound is copied to a `long long`, and it is compared with eight bytes of `0xFF` -/
def boundField (v : UInt64) : List UInt8 :=
  let thre := v % 0x100000000
  if thre = 0xFFFFFFFFFFFFFFFF then markNA else F.text v

/-- `memset` of eight bytes for the mark -/
def boundOf (text : List UInt8) : UInt64 := if isMarked text then NA else F.value text

def setAnalog (loop_ch : UInt8) (values : List (List UInt8)) (old : A_Alarm) : A_Alarm :=
  let value (i : ℕ) := values.getD i []
  { old with
    channel := loop_ch
    min_value := boundOf F (value 0)
    max_value := boundOf F (value 1)
    confirm_time := u8Of (value 2)
    switch_run_mode := u8Of (value 3)
    resume_run_mode := u8Of (value 4)
    relay_action := u8Of (value 5) }

def analogValues (v : A_Alarm) : List (List UInt8) :=
  [boundField F v.min_value, boundField F v.max_value, sprintfD v.confirm_time.toNat, sprintfD v.switch_run_mode.toNat,
    sprintfD v.resume_run_mode.toNat, sprintfD v.relay_action.toNat]

/-- four bytes are never eight bytes of `0xFF` -/
theorem boundField_eq (v : UInt64) : boundField F v = F.text v := by
  have hne : v % 0x100000000 ≠ 0xFFFFFFFFFFFFFFFF := by
    intro h
    have hnat := congrArg UInt64.toNat h
    rw [UInt64.toNat_mod] at hnat
    change v.toNat % 4294967296 = 18446744073709551615 at hnat
    omega
  rw [boundField, if_neg hne]

end Analog

/-- a byte and the one after it -/
theorem succ_ne (b : UInt8) : b + 1 ≠ b := by
  intro h
  have hnat := congrArg UInt8.toNat h
  have hlt := b.toNat_lt
  rw [UInt8.toNat_add] at hnat
  change (b.toNat + 1) % 256 = _ at hnat
  omega

theorem digital_plain (v : D_Alarm) : ∀ t ∈ digitalValues v, Plain t := by
  simp only [digitalValues, List.forall_mem_cons]
  exact ⟨plain_sprintfD _, plain_sprintfD _, plain_sprintfD _, plain_sprintfD _, plain_sprintfD _,
    fun _ h => absurd h List.not_mem_nil⟩

theorem digital_ne_nil (v : D_Alarm) : ∀ t ∈ digitalValues v, t ≠ [] := by
  simp only [digitalValues, List.forall_mem_cons]
  exact ⟨sprintfD_ne_nil _, sprintfD_ne_nil _, sprintfD_ne_nil _, sprintfD_ne_nil _, sprintfD_ne_nil _,
    fun _ h => absurd h List.not_mem_nil⟩

def D_Alarm.same (v old : D_Alarm) : D_Alarm := { v with last_run_mode := old.last_run_mode }

theorem digital_other (loop_ch : UInt8) : ∃ v : D_Alarm, v.channel ≠ loop_ch :=
  ⟨⟨loop_ch + 1, 0, 0, 0, 0, 0, 0⟩, succ_ne loop_ch⟩

def digital : Kind D_Alarm where
  more := 4
  loop_num := Module.d_loop_num
  channel := D_Alarm.channel
  values := digitalValues
  set := setDigital
  same := D_Alarm.same
  loop_num_le := Module.d_loop_num_le
  three_le := Nat.le_succ 3
  length_values _ := rfl
  plain := digital_plain
  ne_nil := digital_ne_nil
  channel_same _ _ := rfl
  channel_set _ _ _ := rfl
  other := digital_other

section Analog

variable (F : BoundTexts UInt64)

theorem analog_plain (v : A_Alarm) : ∀ t ∈ analogValues F v, Plain t := by
  simp only [analogValues, List.forall_mem_cons, boundField_eq]
  exact ⟨F.plain _, F.plain _, plain_sprintfD _, plain_sprintfD _, plain_sprintfD _, plain_sprintfD _,
    fun _ h => absurd h List.not_mem_nil⟩

theorem analog_ne_nil (v : A_Alarm) : ∀ t ∈ analogValues F v, t ≠ [] := by
  simp only [analogValues, List.forall_mem_cons, boundField_eq]
  exact ⟨F.ne_nil _, F.ne_nil _, sprintfD_ne_nil _, sprintfD_ne_nil _, sprintfD_ne_nil _, sprintfD_ne_nil _,
    fun _ h => absurd h List.not_mem_nil⟩

def A_Alarm.same (v old : A_Alarm) : A_Alarm := { v with last_run_mode := old.last_run_mode }

theorem analog_other (loop_ch : UInt8) : ∃ v : A_Alarm, v.channel ≠ loop_ch :=
  ⟨⟨loop_ch + 1, 0, 0, 0, 0, 0, 0, 0⟩, succ_ne loop_ch⟩

def analog : Kind A_Alarm where
  more := 5
  loop_num := Module.a_loop_num
  channel := A_Alarm.channel
  values := analogValues F
  set := setAnalog F
  same := A_Alarm.same
  loop_num_le := Module.a_loop_num_le
  three_le := Nat.le_add_right 3 2
  length_values _ := rfl
  plain := analog_plain F
  ne_nil := analog_ne_nil F
  channel_same _ _ := rfl
  channel_set _ _ _ := rfl
  other := analog_other

/-! ## The handlers -/

def inputCollectorGetAlarmConfiguration (modules : Modules) (s : AlarmConfig) : Option (List TextPara) :=
  (getLoops digital modules s.d_alarm_thre).bind fun d => (getLoops (analog F) modules s.a_alarm_thre).map fun a =>
    [⟨0x6101, sprintfD s.d_quantity_abnormal_alarm_enable.toNat⟩, ⟨0x4102, d⟩,
      ⟨0x6103, sprintfD s.a_quantity_abnormal_alarm_enable.toNat⟩, ⟨0x4104, a⟩]

/-- a round of the loop over the parameters -/
def setParameter (modules : Modules) (s : AlarmConfig × List UInt8) (p : TextPara) :
    Option (AlarmConfig × List UInt8) :=
  if p.type = 0x6001 then some ({ s.1 with d_quantity_abnormal_alarm_enable := u8Of p.text }, s.2)
  else if p.type = 0x4002 then
    (setLoops digital modules p.text (s.1.d_alarm_thre, s.2)).map fun r => ({ s.1 with d_alarm_thre := r.1 }, r.2)
  else if p.type = 0x6003 then some ({ s.1 with a_quantity_abnormal_alarm_enable := u8Of p.text }, s.2)
  else if p.type = 0x4004 then
    (setLoops (analog F) modules p.text (s.1.a_alarm_thre, s.2)).map fun r => ({ s.1 with a_alarm_thre := r.1 }, r.2)
  else some s

def inputCollectorSetAlarmConfiguration (modules : Modules) (paras : List TextPara) (tmp : List UInt8)
    (s : AlarmConfig) : Option AlarmConfig := (paras.foldlM (setParameter F modules) (s, tmp)).map Prod.fst

end Analog

/-! ## Printed lists -/

section Printed

variable {V : Type} {K : Kind V} {modules : Modules} {thre : Place → V}

/-- the characters of an entry, with a separator behind each field -/
def loopWidth (K : Kind V) (key : UInt8 × UInt8) (v : V) : ℕ :=
  hexWidth key.1 + decimalWidth key.2.toNat + decimalWidth (K.channel v).toNat +
    ((K.values v).map fun t => t.length + 1).sum + 3

def printedWidth (K : Kind V) (modules : Modules) (thre : Place → V) : ℕ :=
  ((printed K modules thre).map fun e => loopWidth K e.1 (thre e.2)).sum

theorem width_loopEntry (key : UInt8 × UInt8) (v : V) : entryWidth (loopEntry K key v).fields = loopWidth K key v := by
  simp only [entryWidth, EntryText.fields, loopEntry, List.cons_append, List.nil_append, List.map_cons, List.sum_cons,
    length_sprintfX, length_sprintfD_nat, loopWidth]
  omega

theorem shaped_loopEntry (key : UInt8 × UInt8) (v : V) : (loopFormat K).Shaped (loopEntry K key v) where
  add := sprintfX_ne_nil key.1
  place := rfl
  values := K.length_values v
  plain := by
    simp only [EntryText.fields, loopEntry, List.cons_append, List.nil_append, List.forall_mem_cons]
    exact ⟨plain_sprintfX _, plain_sprintfD _, plain_sprintfD _, K.plain v⟩

theorem short_loopEntry (key : UInt8 × UInt8) (v : V) :
    (loopFormat K).Short (loopEntry K key v) ↔ ∀ t ∈ K.values v, t.length ≤ 9 := by
  have hadd := (hexWidth_le key.1).trans (by decide : 2 ≤ 9)
  have hbytes := fun b => (decimalWidth_byte b).trans (by decide : 3 ≤ 9)
  simp only [EntryFormat.Short, EntryText.fields, loopEntry, loopFormat, List.cons_append, List.nil_append,
    List.forall_mem_cons, length_sprintfX, length_sprintfD_nat, Nat.lt_succ_iff, hadd, hbytes, true_and]

theorem accepts_loopEntry (key : UInt8 × UInt8) (v : V) :
    (loopFormat K).accepts (loopEntry K key v).place = true ↔ (K.channel v).toNat < 8 := by
  simp only [loopFormat, loopEntry, List.getD_cons_succ, List.getD_cons_zero, u8Of_sprintfD, decide_eq_true_eq,
    MAX_LOOP_CH_NUM]

theorem mem_printed {key : UInt8 × UInt8} {p : Place} : (key, p) ∈ printed K modules thre ↔
    ∃ module, modules.list[p.1]? = some module ∧ module.key = key ∧ p.2 < K.loop_num module ∧
      (K.channel (thre p)).toNat = p.2 + 1 := by
  rw [printed, List.mem_filter, List.mem_flatMap, decide_eq_true_eq]
  constructor
  · rintro ⟨⟨⟨module, m⟩, hmodule, hp⟩, hset⟩
    obtain ⟨j, hj, heq⟩ := List.mem_map.1 hp
    cases heq
    exact ⟨module, List.mem_zipIdx_iff_getElem?.1 hmodule, rfl, List.mem_range.1 hj, hset⟩
  · rintro ⟨module, hmodule, rfl, hj, hset⟩
    exact ⟨⟨(module, p.1), List.mem_zipIdx_iff_getElem?.2 hmodule,
      List.mem_map.2 ⟨p.2, List.mem_range.2 hj, rfl⟩⟩, hset⟩

/-- each place once -/
theorem nodup_printed : ((printed K modules thre).map Prod.snd).Nodup := by
  have hall : ((modules.list.zipIdx.flatMap fun k =>
      (List.range (K.loop_num k.1)).map fun j => (k.1.key, (k.2, j))).map Prod.snd).Nodup := by
    rw [List.map_flatMap]
    refine @Puts.nodup_rows _ _ modules.list _ Prod.fst (fun k => ?_) fun k p hp => ?_
    · rw [List.map_map]
      exact List.Nodup.map (fun j j' h => by cases h; rfl) List.nodup_range
    · rw [List.map_map] at hp
      obtain ⟨j, -, rfl⟩ := List.mem_map.1 hp
      rfl
  exact hall.sublist (List.filter_sublist.map Prod.snd)

theorem width_loopEntries : entriesWidth (loopEntries K modules thre) = printedWidth K modules thre := by
  rw [entriesWidth, loopEntries, List.map_map, printedWidth]
  exact congrArg List.sum (List.map_congr_left fun e _ => width_loopEntry e.1 (thre e.2))

theorem mem_loopEntries {e : EntryText} : e ∈ loopEntries K modules thre ↔
    ∃ key p, (key, p) ∈ printed K modules thre ∧ e = loopEntry K key (thre p) := by
  rw [loopEntries, List.mem_map]
  constructor
  · rintro ⟨⟨key, p⟩, hmem, rfl⟩
    exact ⟨key, p, hmem, rfl⟩
  · rintro ⟨key, p, hmem, rfl⟩
    exact ⟨(key, p), hmem, rfl⟩

/-- the number of entries is a `u8` -/
theorem length_loopEntries (h : printedWidth K modules thre ≤ 1699) : (loopEntries K modules thre).length ≤ 255 := by
  have hentry : ∀ e ∈ loopEntries K modules thre, 14 ≤ entryWidth e.fields := by
    intro e he
    obtain ⟨key, p, -, rfl⟩ := mem_loopEntries.1 he
    have hne : ∀ t ∈ (loopEntry K key (thre p)).fields, t ≠ [] := by
      simp only [EntryText.fields, loopEntry, List.cons_append, List.nil_append, List.forall_mem_cons]
      exact ⟨sprintfX_ne_nil _, sprintfD_ne_nil _, sprintfD_ne_nil _, K.ne_nil _⟩
    have hwidth := two_le_entryWidth hne
    have hcount : (loopEntry K key (thre p)).fields.length = K.more + 4 := by
      simp only [EntryText.fields, loopEntry, List.length_cons, List.length_append, List.length_nil, K.length_values]
      omega
    have hmore := K.three_le
    omega
  have hlength := length_le_entriesWidth hentry
  rw [width_loopEntries] at hlength
  omega

end Printed

/-! ## Stored lists -/

section Stored

variable {V : Type} {K : Kind V} {modules : Modules} {thre : Place → V}

/-- the index of a key that is there is that of the first module with it -/
theorem moduleIndex_eq_iff {m : ℕ} {module : Module} (h : modules.list[m]? = some module) (key : UInt8 × UInt8) :
    moduleIndex modules key = m ↔
      module.key = key ∧ ∀ i < m, ∀ other, modules.list[i]? = some other → other.key ≠ key :=
  Puts.findIdx_key_iff Module.key h key

/-- a threshold of a configured module -/
def Configured (K : Kind V) (modules : Modules) (thre : Place → V) (m : ℕ) (module : Module) (j : ℕ) : Prop :=
  modules.list[m]? = some module ∧ j < MAX_LOOP_CH_NUM ∧ (K.channel (thre (m, j))).toNat = j + 1

theorem configured_of_printed {key : UInt8 × UInt8} {p : Place} (h : (key, p) ∈ printed K modules thre) :
    ∃ module, module.key = key ∧ p.2 < K.loop_num module ∧ Configured K modules thre p.1 module p.2 := by
  obtain ⟨module, hmodule, hkey, hj, hset⟩ := mem_printed.1 h
  exact ⟨module, hkey, hj, hmodule, hj.trans_le (K.loop_num_le module), hset⟩

/-- what is stored for a printed threshold -/
def storedFor (K : Kind V) (modules : Modules) (thre : Place → V) (e : (UInt8 × UInt8) × Place) : Stored :=
  ⟨moduleIndex modules e.1, (K.channel (thre e.2)).toNat, K.values (thre e.2)⟩

theorem storedOf_loopEntry (key : UInt8 × UInt8) {v : V} (h : (K.channel v).toNat ≠ 0) :
    storedOf modules (loopEntry K key v).entry =
      some ⟨moduleIndex modules key, (K.channel v).toNat, K.values v⟩ := by
  rw [storedOf, EntryText.entry, Option.map_some]
  simp only [loopEntry, hexByteOf_sprintfX, List.getD_cons_zero, List.getD_cons_succ, loopOf, u8Of_sprintfD, if_neg h]

/-- no threshold of channel 8 is written -/
theorem place_of_read {tmp text : List UInt8} {x : List (Option Stored) × List UInt8}
    (h : readStored K modules tmp text = some x) {t : Stored} (ht : t ∈ x.1.filterMap id) :
    t.place.2 < 7 ∧ ∃ key, t.place.1 = moduleIndex modules key := by
  obtain ⟨r, hread, rfl⟩ := Option.map_eq_some_iff.1 h
  rw [List.filterMap_map, List.mem_filterMap] at ht
  obtain ⟨e, he, hstore⟩ := ht
  obtain ⟨values, hvalues, rfl⟩ := Option.map_eq_some_iff.1 hstore
  have haccepts := readAll_accepted hread e he (by rw [hvalues]; rfl)
  rw [loopFormat, decide_eq_true_eq] at haccepts
  have hloop : (u8Of (e.place.getD 1 [])).toNat < 8 := haccepts
  refine ⟨?_, _, rfl⟩
  change loopOf (e.place.getD 1 []) - 1 < 7
  unfold loopOf
  split_ifs <;> omega

/-- whatever the former thresholds, there is a content of `tmp` with which the text brings back those it was printed
from -/
def Runs (K : Kind V) (modules : Modules) (thre : Place → V) (text : List UInt8) : Prop :=
  ∀ old, ∃ tmp new tmp', setLoops K modules text (old, tmp) = some (new, tmp') ∧
    ∀ m module j, Configured K modules thre m module j → new (m, j) = K.same (thre (m, j)) (old (m, j))

/-- a value that is read as it was -/
def Reads (K : Kind V) (v : V) : Prop := ∀ old, K.set (K.channel v) (K.values v) old = K.same v old

/-- thresholds that are printed, on channels that are accepted, for the modules that are found -/
structure Listed (K : Kind V) (modules : Modules) (thre : Place → V) : Prop where
  listed : ∀ m module j, Configured K modules thre m module j → j < K.loop_num module ∧ j < 7
  first : ∀ m module j, Configured K modules thre m module j →
    ∀ i < m, ∀ other, modules.list[i]? = some other → other.key ≠ module.key
  width : printedWidth K modules thre ≤ 1699

/-- thresholds that come back -/
structure Restorable (K : Kind V) (modules : Modules) (thre : Place → V) : Prop extends Listed K modules thre where
  short : ∀ m module j, Configured K modules thre m module j → ∀ t ∈ K.values (thre (m, j)), t.length ≤ 9
  reads : ∀ m module j, Configured K modules thre m module j → Reads K (thre (m, j))

theorem getLoops_eq_some_iff {text : List UInt8} : getLoops K modules thre = some text ↔
    (∀ e ∈ loopEntries K modules thre, ∀ t ∈ e.fields, t.length < 25) ∧ printedWidth K modules thre ≤ 1699 ∧
      text = entriesText (loopEntries K modules thre) := by
  change (if ∀ e ∈ loopEntries K modules thre, ∀ t ∈ e.fields, t.length < 25 then
    printEntries 1700 ((loopEntries K modules thre).map EntryText.fields) else none) = some text ↔ _
  rw [print_entries (by decide), width_loopEntries]
  split_ifs with hfits hwidth
  · exact ⟨fun h => ⟨hfits, Nat.le_of_lt_succ hwidth, (Option.some.inj h).symm⟩, fun h => by rw [h.2.2]⟩
  · exact ⟨fun h => absurd h (by simp), fun h => absurd (Nat.lt_succ_of_le h.2.1) hwidth⟩
  · exact ⟨fun h => absurd h (by simp), fun h => absurd h.1 hfits⟩

/-- every threshold is stored, whatever is read -/
theorem stored_of_runs {text : List UInt8} (h : Runs K modules thre text) {m : ℕ} {module : Module} {j : ℕ}
    (hc : Configured K modules thre m module j) :
    ∃ tmp x, readStored K modules tmp text = some x ∧ ∃ t ∈ x.1.filterMap id, t.place = (m, j) := by
  obtain ⟨other, hother⟩ := K.other (K.channel (thre (m, j)))
  obtain ⟨tmp, new, tmp', hset, hsame⟩ := h fun _ => other
  obtain ⟨x, hread, hmap⟩ := Option.bind_eq_some_iff.1 hset
  obtain ⟨new', hstore, heq⟩ := Option.map_eq_some_iff.1 hmap
  cases heq
  refine ⟨tmp, x, hread, ?_⟩
  by_contra hnone
  push Not at hnone
  have hkept := (hsame m module j hc).symm.trans (Puts.storeAll_other _ _ _ hnone hstore)
  exact hother ((congrArg K.channel hkept).symm.trans (K.channel_same _ _))

theorem loop_of_runs {text : List UInt8} (h : Runs K modules thre text) {m : ℕ} {module : Module} {j : ℕ}
    (hc : Configured K modules thre m module j) : j < 7 := by
  obtain ⟨tmp, x, hread, t, ht, hplace⟩ := stored_of_runs h hc
  have hloop := (place_of_read hread ht).1
  rwa [hplace] at hloop

theorem first_of_runs {text : List UInt8} (h : Runs K modules thre text) {m : ℕ} {module : Module} {j : ℕ}
    (hc : Configured K modules thre m module j) : moduleIndex modules module.key = m := by
  obtain ⟨tmp, x, hread, t, ht, hplace⟩ := stored_of_runs h hc
  obtain ⟨key, hkey⟩ := (place_of_read hread ht).2
  rw [hplace] at hkey
  have hindex := hkey.symm
  obtain ⟨rfl, -⟩ := (moduleIndex_eq_iff hc.1 key).1 hindex
  exact hindex

/-- thresholds of the channels up to 7 are accepted -/
theorem accepted_entries (h : ∀ m module j, Configured K modules thre m module j → j < 7) :
    ∀ e ∈ loopEntries K modules thre, (loopFormat K).Shaped e ∧ (loopFormat K).accepts e.place = true := by
  intro e he
  obtain ⟨key, p, hp, rfl⟩ := mem_loopEntries.1 he
  obtain ⟨module, -, -, hc⟩ := configured_of_printed hp
  have hj : p.2 < 7 := h _ _ _ hc
  have hchannel : (K.channel (thre p)).toNat = p.2 + 1 := hc.2.2
  refine ⟨shaped_loopEntry key _, (accepts_loopEntry key _).2 ?_⟩
  rw [hchannel]
  exact Nat.succ_lt_succ hj

/-- what is stored for accepted entries -/
theorem stored_entries : ((loopEntries K modules thre).map EntryText.entry).map (storedOf modules) =
    ((printed K modules thre).map (storedFor K modules thre)).map some := by
  rw [loopEntries, List.map_map, List.map_map, List.map_map]
  refine List.map_congr_left fun e he => ?_
  obtain ⟨key, p⟩ := e
  obtain ⟨module, -, -, hc⟩ := configured_of_printed he
  have hchannel : (K.channel (thre p)).toNat = p.2 + 1 := hc.2.2
  have hne : (K.channel (thre p)).toNat ≠ 0 := by
    rw [hchannel]
    exact Nat.succ_ne_zero _
  exact storedOf_loopEntry key hne

/-- each at its own place, where the modules are the first of their keys -/
theorem place_storedFor (h : ∀ m module j, Configured K modules thre m module j → moduleIndex modules module.key = m)
    {e : (UInt8 × UInt8) × Place} (he : e ∈ printed K modules thre) : (storedFor K modules thre e).place = e.2 := by
  obtain ⟨key, m, j⟩ := e
  obtain ⟨module, rfl, -, hc⟩ := configured_of_printed he
  have hindex := h _ _ _ hc
  change (moduleIndex modules module.key, (K.channel (thre (m, j))).toNat - 1) = (m, j)
  rw [hindex, hc.2.2, Nat.add_sub_cancel]

/-- what is stored, in the place it is printed from -/
theorem stored_at (hfirst : ∀ m module j, Configured K modules thre m module j → moduleIndex modules module.key = m)
    {m : ℕ} {module : Module} {j : ℕ} (hc : Configured K modules thre m module j) (hj : j < K.loop_num module)
    (old : Place → V) :
    putAll Stored.place (setStored K) old ((printed K modules thre).map (storedFor K modules thre)) (m, j) =
      K.set (K.channel (thre (m, j))) (K.values (thre (m, j))) (old (m, j)) := by
  have hprinted : (module.key, (m, j)) ∈ printed K modules thre := mem_printed.2 ⟨module, hc.1, rfl, hj, hc.2.2⟩
  have hput := Puts.putAll_map_of_mem Stored.place (setStored K) (fun e he => place_storedFor hfirst he) nodup_printed
    hprinted old
  rw [hput, setStored, storedFor, UInt8.ofNat_toNat]

/-- the entries that are printed, stored over former thresholds -/
theorem setLoops_entries
    (hfirst : ∀ m module j, Configured K modules thre m module j → moduleIndex modules module.key = m)
    {tmp tmp' : List UInt8} (hread : (loopFormat K).readAll tmp (entriesText (loopEntries K modules thre)) =
      some ((loopEntries K modules thre).map EntryText.entry, tmp')) (old : Place → V) :
    setLoops K modules (entriesText (loopEntries K modules thre)) (old, tmp) =
      some (putAll Stored.place (setStored K) old ((printed K modules thre).map (storedFor K modules thre)), tmp') := by
  have hinside : ∀ t ∈ (printed K modules thre).map (storedFor K modules thre), inTable t.place = true := by
    intro t ht
    obtain ⟨⟨key, p⟩, he, rfl⟩ := List.mem_map.1 ht
    obtain ⟨module, -, -, hc⟩ := configured_of_printed he
    rw [place_storedFor hfirst he]
    exact decide_eq_true ((List.getElem?_eq_some_iff.1 hc.1).1.trans_le modules.length_le)
  rw [setLoops, readStored, hread, Option.map_some, Option.bind_some, stored_entries, List.filterMap_map,
    Function.id_comp, List.filterMap_some, Puts.storeAll_eq, if_pos hinside, Option.map_some]

/-- the entries that come back have short fields, and are read as they are -/
theorem read_of_runs (hwidth : printedWidth K modules thre ≤ 1699)
    (h : Runs K modules thre (entriesText (loopEntries K modules thre))) :
    (∀ e ∈ loopEntries K modules thre, (loopFormat K).Short e) ∧
    ∀ tmp, ∃ tmp', (loopFormat K).readAll tmp (entriesText (loopEntries K modules thre)) =
      some ((loopEntries K modules thre).map EntryText.entry, tmp') := by
  have haccepted := accepted_entries fun m module j => @loop_of_runs _ _ _ _ _ h m module j
  have hshort : ∀ e ∈ loopEntries K modules thre, (loopFormat K).Short e := by
    by_contra hlong
    push Not at hlong
    obtain ⟨tmp, new, tmp', hset, -⟩ := h thre
    rw [setLoops, readStored, readAll_long haccepted (length_loopEntries hwidth) hlong] at hset
    cases hset
  exact ⟨hshort, readAll_text (fun e he => ⟨(haccepted e he).1, hshort e he, (haccepted e he).2⟩)
    (length_loopEntries hwidth)⟩

theorem listed_of_runs (hwidth : printedWidth K modules thre ≤ 1699)
    (h : Runs K modules thre (entriesText (loopEntries K modules thre))) {m : ℕ} {module : Module} {j : ℕ}
    (hc : Configured K modules thre m module j) : j < K.loop_num module := by
  obtain ⟨tmp, x, hread, t, ht, hplace⟩ := stored_of_runs h hc
  obtain ⟨tmp', hentries⟩ := (read_of_runs hwidth h).2 tmp
  rw [readStored, hentries, Option.map_some, stored_entries] at hread
  cases hread
  rw [List.filterMap_map, Function.id_comp, List.filterMap_some, List.mem_map] at ht
  obtain ⟨e, he, rfl⟩ := ht
  rw [place_storedFor (fun m module j => @first_of_runs _ _ _ _ _ h m module j) he] at hplace
  obtain ⟨key, p⟩ := e
  obtain rfl : p = (m, j) := hplace
  obtain ⟨module', -, hj, hc'⟩ := configured_of_printed he
  have hmodule : some module' = some module := hc'.1.symm.trans hc.1
  cases hmodule
  exact hj

theorem reads_of_runs (hwidth : printedWidth K modules thre ≤ 1699)
    (h : Runs K modules thre (entriesText (loopEntries K modules thre))) {m : ℕ} {module : Module} {j : ℕ}
    (hc : Configured K modules thre m module j) : Reads K (thre (m, j)) := by
  intro old
  have hfirst : ∀ m module j, Configured K modules thre m module j → moduleIndex modules module.key = m :=
    fun m module j => @first_of_runs _ _ _ _ _ h m module j
  obtain ⟨tmp, new, tmp', hset, hsame⟩ := h fun _ => old
  obtain ⟨tmp₁, hentries⟩ := (read_of_runs hwidth h).2 tmp
  rw [setLoops_entries hfirst hentries] at hset
  cases hset
  rw [← hsame m module j hc, stored_at hfirst hc (listed_of_runs hwidth h hc)]

theorem restorable_of_runs {text : List UInt8} (hget : getLoops K modules thre = some text)
    (h : Runs K modules thre text) : Restorable K modules thre := by
  obtain ⟨-, hwidth, rfl⟩ := getLoops_eq_some_iff.1 hget
  exact
    { listed := fun m module j hc => ⟨listed_of_runs hwidth h hc, loop_of_runs h hc⟩
      first := fun m module j hc => ((moduleIndex_eq_iff hc.1 _).1 (first_of_runs h hc)).2
      short := fun m module j hc =>
        have hprinted : (module.key, (m, j)) ∈ printed K modules thre :=
          mem_printed.2 ⟨module, hc.1, rfl, listed_of_runs hwidth h hc, hc.2.2⟩
        (short_loopEntry module.key _).1 ((read_of_runs hwidth h).1 _ (mem_loopEntries.2 ⟨_, _, hprinted, rfl⟩))
      reads := fun m module j hc => reads_of_runs hwidth h hc
      width := hwidth }

theorem short_entries (h : Restorable K modules thre) : ∀ e ∈ loopEntries K modules thre, (loopFormat K).Short e := by
  intro e he
  obtain ⟨key, p, hp, rfl⟩ := mem_loopEntries.1 he
  obtain ⟨module, -, -, hc⟩ := configured_of_printed hp
  exact (short_loopEntry key _).2 (h.short _ _ _ hc)

theorem getLoops_of_restorable (h : Restorable K modules thre) :
    getLoops K modules thre = some (entriesText (loopEntries K modules thre)) :=
  getLoops_eq_some_iff.2 ⟨fun e he t ht => (short_entries h e he t ht).trans (by decide : 10 < 25), h.width, rfl⟩

/-- **Restored lists.** -/
theorem setLoops_of_restorable (h : Restorable K modules thre) (old : Place → V) (tmp : List UInt8) : ∃ new tmp',
    setLoops K modules (entriesText (loopEntries K modules thre)) (old, tmp) = some (new, tmp') ∧
      ∀ m module j, Configured K modules thre m module j → new (m, j) = K.same (thre (m, j)) (old (m, j)) := by
  have hfirst : ∀ m module j, Configured K modules thre m module j → moduleIndex modules module.key = m :=
    fun m module j hc => (moduleIndex_eq_iff hc.1 _).2 ⟨rfl, h.first m module j hc⟩
  have haccepted := accepted_entries fun m module j hc => (h.listed m module j hc).2
  obtain ⟨tmp', hread⟩ := readAll_text (fun e he => ⟨(haccepted e he).1, short_entries h e he, (haccepted e he).2⟩)
    (length_loopEntries h.width) tmp
  refine ⟨_, tmp', setLoops_entries hfirst hread old, fun m module j hc => ?_⟩
  rw [stored_at hfirst hc (h.listed m module j hc).1]
  exact h.reads m module j hc _

end Stored

/-! ## What comes back -/

section Result

variable {F : BoundTexts UInt64} {modules : Modules}

/-- thresholds whose bounds are marks or numbers that can be written as texts -/
structure Thresholds (F : BoundTexts UInt64) (modules : Modules) extends AlarmConfig where
  min_text : ∀ m module j, Configured (analog F) modules a_alarm_thre m module j →
    (a_alarm_thre (m, j)).min_value = NA ∨
      F.value (F.text (a_alarm_thre (m, j)).min_value) = (a_alarm_thre (m, j)).min_value
  max_text : ∀ m module j, Configured (analog F) modules a_alarm_thre m module j →
    (a_alarm_thre (m, j)).max_value = NA ∨
      F.value (F.text (a_alarm_thre (m, j)).max_value) = (a_alarm_thre (m, j)).max_value

/-- the texts are printed, and read back into equal thresholds, whose last run mode is left as it was -/
def Restored (s : Thresholds F modules) : Prop :=
  ∃ d_enable d a_enable a, inputCollectorGetAlarmConfiguration F modules s.toAlarmConfig =
      some [⟨0x6101, d_enable⟩, ⟨0x4102, d⟩, ⟨0x6103, a_enable⟩, ⟨0x4104, a⟩] ∧
    ∀ (tmp : List UInt8) (old : AlarmConfig), ∃ new,
      inputCollectorSetAlarmConfiguration F modules [⟨0x4002, d⟩, ⟨0x4004, a⟩] tmp old = some new ∧
      (∀ m module j, Configured digital modules s.d_alarm_thre m module j →
        new.d_alarm_thre (m, j) = (s.d_alarm_thre (m, j)).same (old.d_alarm_thre (m, j))) ∧
      ∀ m module j, Configured (analog F) modules s.a_alarm_thre m module j →
        new.a_alarm_thre (m, j) = (s.a_alarm_thre (m, j)).same (old.a_alarm_thre (m, j))

/-- bounds that fit `tmp[10]`, and marks that are read as marks -/
def BoundsRead (F : BoundTexts UInt64) (v : A_Alarm) : Prop :=
  (F.text v.min_value).length ≤ 9 ∧ (F.text v.max_value).length ≤ 9 ∧
    (v.min_value = NA ∨ v.max_value = NA → F.value (F.text NA) = NA)

theorem set_two (d a tmp : List UInt8) (old : AlarmConfig) :
    inputCollectorSetAlarmConfiguration F modules [⟨0x4002, d⟩, ⟨0x4004, a⟩] tmp old =
      (setLoops digital modules d (old.d_alarm_thre, tmp)).bind fun r =>
        (setLoops (analog F) modules a (old.a_alarm_thre, r.2)).map fun r' =>
          { old with d_alarm_thre := r.1, a_alarm_thre := r'.1 } := by
  rw [inputCollectorSetAlarmConfiguration, List.foldlM_cons]
  cases hd : setLoops digital modules d (old.d_alarm_thre, tmp) with
  | none =>
    have hround : setParameter F modules (old, tmp) ⟨0x4002, d⟩ = none := by
      change (setLoops digital modules d (old.d_alarm_thre, tmp)).map _ = none
      rw [hd, Option.map_none]
    rw [hround]
    rfl
  | some r =>
    have hround : setParameter F modules (old, tmp) ⟨0x4002, d⟩ = some ({ old with d_alarm_thre := r.1 }, r.2) := by
      change (setLoops digital modules d (old.d_alarm_thre, tmp)).map _ = _
      rw [hd, Option.map_some]
    rw [hround]
    change Option.map _ (((setLoops (analog F) modules a (old.a_alarm_thre, r.2)).map _).bind some) = _
    rw [Option.bind_fun_some, Option.map_map]
    rfl

theorem short_digital (v : D_Alarm) : ∀ t ∈ digital.values v, t.length ≤ 9 := by
  intro t ht
  simp only [digital, digitalValues, List.mem_cons, List.not_mem_nil, or_false] at ht
  rcases ht with rfl | rfl | rfl | rfl | rfl <;> exact (length_sprintfD_byte _).trans (by decide : 3 ≤ 9)

theorem reads_digital (v : D_Alarm) : Reads digital v := by
  intro old
  simp only [digital, setDigital, digitalValues, List.getD_cons_zero, List.getD_cons_succ, u8Of_sprintfD, D_Alarm.same]

theorem short_analog (v : A_Alarm) : (∀ t ∈ (analog F).values v, t.length ≤ 9) ↔
    (F.text v.min_value).length ≤ 9 ∧ (F.text v.max_value).length ≤ 9 := by
  have hbytes := fun b => (length_sprintfD_byte b).trans (by decide : 3 ≤ 9)
  simp only [analog, analogValues, List.forall_mem_cons, boundField_eq, hbytes, List.not_mem_nil, false_implies,
    implies_true, and_true]

theorem reads_analog (v : A_Alarm) : Reads (analog F) v ↔
    F.value (F.text v.min_value) = v.min_value ∧ F.value (F.text v.max_value) = v.max_value := by
  have hset : ∀ old, (analog F).set ((analog F).channel v) ((analog F).values v) old =
      { v.same old with min_value := F.value (F.text v.min_value), max_value := F.value (F.text v.max_value) } := by
    intro old
    simp only [analog, setAnalog, analogValues, boundField_eq, boundOf, F.unmarked, List.getD_cons_zero,
      List.getD_cons_succ, u8Of_sprintfD, A_Alarm.same, Bool.false_eq_true, if_false]
  constructor
  · intro h
    have hcell := (hset v).symm.trans (h v)
    exact ⟨congrArg A_Alarm.min_value hcell, congrArg A_Alarm.max_value hcell⟩
  · rintro ⟨hmin, hmax⟩ old
    rw [hset old, hmin, hmax]
    rfl

theorem restorable_digital {thre : Place → D_Alarm} (h : Listed digital modules thre) :
    Restorable digital modules thre where
  toListed := h
  short m _ j _ := short_digital (thre (m, j))
  reads m _ j _ := reads_digital (thre (m, j))

theorem restorable_analog (s : Thresholds F modules) (h : Listed (analog F) modules s.a_alarm_thre)
    (hbounds : ∀ m module j, Configured (analog F) modules s.a_alarm_thre m module j →
      BoundsRead F (s.a_alarm_thre (m, j))) : Restorable (analog F) modules s.a_alarm_thre where
  toListed := h
  short m module j hc := (short_analog _).2 ⟨(hbounds m module j hc).1, (hbounds m module j hc).2.1⟩
  reads m module j hc := by
    have hmarks := (hbounds m module j hc).2.2
    refine (reads_analog _).2 ⟨?_, ?_⟩
    · rcases s.min_text m module j hc with hna | htext
      · rw [hna]
        exact hmarks (.inl hna)
      · exact htext
    · rcases s.max_text m module j hc with hna | htext
      · rw [hna]
        exact hmarks (.inr hna)
      · exact htext

theorem boundsRead_of_restorable {thre : Place → A_Alarm} (h : Restorable (analog F) modules thre) {m : ℕ}
    {module : Module} {j : ℕ} (hc : Configured (analog F) modules thre m module j) : BoundsRead F (thre (m, j)) := by
  obtain ⟨hmin, hmax⟩ := (short_analog _).1 (h.short m module j hc)
  obtain ⟨hmin', hmax'⟩ := (reads_analog _).1 (h.reads m module j hc)
  refine ⟨hmin, hmax, fun hna => ?_⟩
  rcases hna with hna | hna
  · rwa [hna] at hmin'
  · rwa [hna] at hmax'

theorem restored_lists_iff (s : Thresholds F modules) : Restored s ↔ Listed digital modules s.d_alarm_thre ∧
    Listed (analog F) modules s.a_alarm_thre ∧ ∀ m module j,
      Configured (analog F) modules s.a_alarm_thre m module j → BoundsRead F (s.a_alarm_thre (m, j)) := by
  constructor
  · rintro ⟨d_enable, d, a_enable, a, hget, hset⟩
    obtain ⟨d', hd, hrest⟩ := Option.bind_eq_some_iff.1 hget
    obtain ⟨a', ha, heq⟩ := Option.map_eq_some_iff.1 hrest
    simp only [List.cons.injEq, TextPara.mk.injEq, true_and, and_true] at heq
    obtain ⟨-, rfl, -, rfl⟩ := heq
    have hdigital : Runs digital modules s.d_alarm_thre d' := by
      intro old
      obtain ⟨new, hnew, hsame, -⟩ := hset [] { s.toAlarmConfig with d_alarm_thre := old }
      rw [set_two] at hnew
      obtain ⟨r, hr, hmap⟩ := Option.bind_eq_some_iff.1 hnew
      obtain ⟨r', -, rfl⟩ := Option.map_eq_some_iff.1 hmap
      exact ⟨[], r.1, r.2, hr, hsame⟩
    have hanalog : Runs (analog F) modules s.a_alarm_thre a' := by
      intro old
      obtain ⟨new, hnew, -, hsame⟩ := hset [] { s.toAlarmConfig with a_alarm_thre := old }
      rw [set_two] at hnew
      obtain ⟨r, -, hmap⟩ := Option.bind_eq_some_iff.1 hnew
      obtain ⟨r', hr', rfl⟩ := Option.map_eq_some_iff.1 hmap
      exact ⟨r.2, r'.1, r'.2, hr', hsame⟩
    have ha' := restorable_of_runs ha hanalog
    exact ⟨(restorable_of_runs hd hdigital).toListed, ha'.toListed, fun m module j => boundsRead_of_restorable ha'⟩
  · rintro ⟨hdigital, hanalog, hbounds⟩
    have hd := restorable_digital hdigital
    have ha := restorable_analog s hanalog hbounds
    refine ⟨sprintfD s.d_quantity_abnormal_alarm_enable.toNat, entriesText (loopEntries digital modules s.d_alarm_thre),
      sprintfD s.a_quantity_abnormal_alarm_enable.toNat, entriesText (loopEntries (analog F) modules s.a_alarm_thre),
      ?_, fun tmp old => ?_⟩
    · rw [inputCollectorGetAlarmConfiguration, getLoops_of_restorable hd, getLoops_of_restorable ha]
      rfl
    · obtain ⟨d_new, tmp₁, hd_set, hd_same⟩ := setLoops_of_restorable hd old.d_alarm_thre tmp
      obtain ⟨a_new, tmp₂, ha_set, ha_same⟩ := setLoops_of_restorable ha old.a_alarm_thre tmp₁
      refine ⟨{ old with d_alarm_thre := d_new, a_alarm_thre := a_new }, ?_, hd_same, ha_same⟩
      rw [set_two, hd_set, Option.bind_some, ha_set]
      rfl

end Result

/-! ## Segments among others -/

section Segments

variable {V : Type} {K : Kind V} {modules : Modules}

/-- a segment as the handler reads one -/
structure LoopText (K : Kind V) extends EntryText where
  shaped : (loopFormat K).Shaped toEntryText
  short : (loopFormat K).Short toEntryText

namespace LoopText

/-- for a channel up to 7 -/
def Accepted (s : LoopText K) : Prop := (u8Of (s.place.getD 1 [])).toNat < MAX_LOOP_CH_NUM

def stored (modules : Modules) (s : LoopText K) : Stored :=
  ⟨moduleIndex modules (hexByteOf s.add, u8Of (s.place.getD 0 [])), loopOf (s.place.getD 1 []), s.values⟩

/-- accepted, and for a module in the table -/
def Known (modules : Modules) (s : LoopText K) : Prop :=
  s.Accepted ∧ (s.stored modules).m < MAX_INPUT_COLLECTOR_CONF_NUM

end LoopText

def loopsText (segments : List (LoopText K)) : List UInt8 := entriesText (segments.map LoopText.toEntryText)

/-- wherever it stands among known segments, the thresholds of the others are stored as they are without it, and nothing
outside the table is written -/
def Harmless (modules : Modules) (s : LoopText K) : Prop :=
  ∀ before after : List (LoopText K), (∀ e ∈ before ++ after, e.Known modules) → (before ++ s :: after).length ≤ 255 →
    ∀ (old : Place → V) (tmp : List UInt8), ∃ new new₀,
      (setLoops K modules (loopsText (before ++ s :: after)) (old, tmp)).map Prod.fst = some new ∧
      (setLoops K modules (loopsText (before ++ after)) (old, tmp)).map Prod.fst = some new₀ ∧
      ∀ p, (s.Accepted → (s.stored modules).place ≠ p) → new p = new₀ p

theorem setLoops_accepted {segments : List (LoopText K)} (h : ∀ e ∈ segments, e.Accepted) (h255 : segments.length ≤ 255)
    (old : Place → V) (tmp : List UInt8) : (setLoops K modules (loopsText segments) (old, tmp)).map Prod.fst =
      storeAll Stored.place (setStored K) inTable old (segments.map (LoopText.stored modules)) := by
  have haccepted : ∀ e ∈ segments.map LoopText.toEntryText,
      (loopFormat K).Shaped e ∧ (loopFormat K).Short e ∧ (loopFormat K).accepts e.place = true := by
    intro e he
    obtain ⟨s, hs, rfl⟩ := List.mem_map.1 he
    exact ⟨s.shaped, s.short, decide_eq_true (h s hs)⟩
  obtain ⟨tmp', hread⟩ := readAll_text haccepted (by rwa [List.length_map]) tmp
  have hstored : ((segments.map LoopText.toEntryText).map EntryText.entry).map (storedOf modules) =
      (segments.map (LoopText.stored modules)).map some := by
    rw [List.map_map, List.map_map, List.map_map]
    rfl
  rw [setLoops, readStored, loopsText, hread, Option.map_some, Option.bind_some, hstored, List.filterMap_map,
    Function.id_comp, List.filterMap_some, Option.map_map]
  exact congrFun Option.map_id _

theorem setLoops_known {segments : List (LoopText K)} (h : ∀ e ∈ segments, e.Known modules)
    (h255 : segments.length ≤ 255) (old : Place → V) (tmp : List UInt8) :
    (setLoops K modules (loopsText segments) (old, tmp)).map Prod.fst =
      some (putAll Stored.place (setStored K) old (segments.map (LoopText.stored modules))) := by
  have hinside : ∀ t ∈ segments.map (LoopText.stored modules), inTable t.place = true := by
    intro t ht
    obtain ⟨s, hs, rfl⟩ := List.mem_map.1 ht
    exact decide_eq_true (h s hs).2
  rw [setLoops_accepted (fun e he => (h e he).1) h255, Puts.storeAll_eq, if_pos hinside]

theorem harmless_of_known {s : LoopText K} (h : s.Known modules) : Harmless modules s := by
  intro before after hothers h255 old tmp
  have hall : ∀ e ∈ before ++ s :: after, e.Known modules := by
    intro e he
    rcases List.mem_append.1 he with he | he
    · exact hothers e (List.mem_append_left _ he)
    · rcases List.mem_cons.1 he with rfl | he
      · exact h
      · exact hothers e (List.mem_append_right _ he)
  have hfewer : (before ++ after).length ≤ 255 := by
    rw [List.length_append, List.length_cons] at h255
    rw [List.length_append]
    omega
  refine ⟨_, _, setLoops_known hall h255 old tmp, setLoops_known hothers hfewer old tmp, fun p hp => ?_⟩
  rw [List.map_append, List.map_cons, List.map_append]
  exact Puts.putAll_without Stored.place (setStored K) (hp h.1) _ _ old

/-- `ch` and `loop_ch` are read from the second and the third value -/
theorem place_of_values {s : EntryText} (hshaped : (loopFormat K).Shaped s) (hshort : (loopFormat K).Short s)
    {rest tmp : List UInt8} {e : Entry} {r : Reader}
    (h : (loopFormat K).read ⟨entryLine s.values ++ rest, tmp⟩ = some (e, r)) :
    e.place.getD 1 [] = s.values.getD 2 [] := by
  have hlength := hshaped.values
  have hmore : (loopFormat K).more = K.more := rfl
  have hthree := K.three_le
  obtain ⟨v₀, values₀, h₀⟩ := List.exists_cons_of_length_pos (l := s.values) (by omega)
  rw [h₀, List.length_cons] at hlength
  obtain ⟨v₁, values₁, rfl⟩ := List.exists_cons_of_length_pos (l := values₀) (by omega)
  rw [List.length_cons] at hlength
  obtain ⟨v₂, values₂, rfl⟩ := List.exists_cons_of_length_pos (l := values₁) (by omega)
  rw [List.length_cons] at hlength
  obtain ⟨v₃, more, rfl⟩ := List.exists_cons_of_length_pos (l := values₂) (by omega)
  have hfields : ∀ t ∈ s.values, t ∈ s.fields := fun t ht => List.mem_cons_of_mem _ (List.mem_append_right _ ht)
  have hplace := @EntryFormat.place_of_read (loopFormat K) ⟨v₀, [v₁, v₂], v₃ :: more⟩
    (fun t ht => hshaped.plain t (hfields t (by rw [h₀]; exact ht)))
    (fun t ht => hshort t (hfields t (by rw [h₀]; exact ht))) rfl (List.cons_ne_nil _ _) rest tmp e r
  rw [h₀] at h
  rw [hplace h, h₀]
  rfl

/-- the place that is read behind a rejected segment is made of its values -/
theorem loop_of_misread {s x : LoopText K} (hrejected : ¬s.Accepted) {tmp : List UInt8}
    {r : List (Option Stored) × List UInt8} (h : readStored K modules tmp (loopsText [s, x]) = some r) :
    ∀ t ∈ r.1.filterMap id, t.loop_ch = loopOf (s.values.getD 2 []) := by
  have hshaped : ∀ e ∈ [s, x].map LoopText.toEntryText, (loopFormat K).Shaped e := by
    simp only [List.map_cons, List.map_nil, List.forall_mem_cons]
    exact ⟨s.shaped, x.shaped, fun _ h => absurd h List.not_mem_nil⟩
  obtain ⟨y, hread, rfl⟩ := Option.map_eq_some_iff.1 h
  rw [loopsText, readAll_eq hshaped (List.cons_ne_nil _ _) (by decide : 2 ≤ 255)] at hread
  obtain ⟨z, hsegments, rfl⟩ := Option.map_eq_some_iff.1 hread
  have hbar : [s, x].map LoopText.toEntryText = [s.toEntryText, x.toEntryText] := rfl
  rw [hbar, entriesText_cons_cons, entriesText_singleton, List.append_assoc, List.cons_append] at hsegments
  obtain ⟨tmp', hfirst⟩ := EntryFormat.read_rejected s.shaped s.short (decide_eq_false hrejected)
    (entryLine x.fields ++ [0]) tmp
  obtain ⟨a, hstep, htail⟩ := Option.bind_eq_some_iff.1 hsegments
  rw [EntryFormat.step, hfirst] at hstep
  cases hstep
  obtain ⟨b, hnext, hlast⟩ := Option.bind_eq_some_iff.1 htail
  cases hlast
  obtain ⟨c, hstep', htail'⟩ := Option.bind_eq_some_iff.1 hnext
  cases htail'
  obtain ⟨⟨e, r⟩, hsecond, heq⟩ := Option.map_eq_some_iff.1 hstep'
  cases heq
  have hplace := place_of_values s.shaped s.short hsecond
  intro t ht
  obtain ⟨o, ho, rfl⟩ := List.mem_filterMap.1 ht
  simp only [List.map_cons, List.map_nil, List.mem_cons, List.not_mem_nil, or_false] at ho
  rcases ho with hnone | hstored
  · cases hnone
  · obtain ⟨values, -, rfl⟩ := Option.map_eq_some_iff.1 hstored.symm
    change loopOf (e.place.getD 1 []) = _
    rw [hplace]

/-- there is room for a module in the table -/
theorem first_module (modules : Modules) : ∃ key, moduleIndex modules key = 0 := by
  unfold moduleIndex
  cases modules.list with
  | nil => exact ⟨(0, 0), rfl⟩
  | cons module list => exact ⟨module.key, by rw [List.findIdx_cons, decide_eq_true rfl, cond_true]⟩

theorem zeros_plain {n : ℕ} {t : List UInt8} (h : t ∈ List.replicate n [0x30]) : Plain t ∧ t.length < 10 := by
  rw [List.eq_of_mem_replicate h]
  exact ⟨List.all_iff_forall_prop.1 (by decide), by decide⟩

/-- a segment of zeros, for a channel of a module -/
def zeroEntry (K : Kind V) (key : UInt8 × UInt8) (loop_ch : UInt8) : EntryText :=
  ⟨sprintfX key.1, [sprintfD key.2.toNat, sprintfD loop_ch.toNat], List.replicate (K.more + 1) [0x30]⟩

theorem shaped_zeroEntry (key : UInt8 × UInt8) (loop_ch : UInt8) : (loopFormat K).Shaped (zeroEntry K key loop_ch) where
  add := sprintfX_ne_nil key.1
  place := rfl
  values := List.length_replicate
  plain := by
    simp only [EntryText.fields, zeroEntry, List.cons_append, List.nil_append, List.forall_mem_cons]
    exact ⟨plain_sprintfX _, plain_sprintfD _, plain_sprintfD _, fun _ h => (zeros_plain h).1⟩

theorem short_zeroEntry (key : UInt8 × UInt8) (loop_ch : UInt8) : (loopFormat K).Short (zeroEntry K key loop_ch) := by
  have hadd := (hexWidth_le key.1).trans (by decide : 2 ≤ 9)
  have hbytes := fun b => (decimalWidth_byte b).trans (by decide : 3 ≤ 9)
  simp only [EntryFormat.Short, EntryText.fields, zeroEntry, loopFormat, List.cons_append, List.nil_append,
    List.forall_mem_cons, length_sprintfX, length_sprintfD_nat, Nat.lt_succ_iff, hadd, hbytes, true_and]
  exact fun t h => Nat.le_of_lt_succ (zeros_plain h).2

def zeroLoop (K : Kind V) (key : UInt8 × UInt8) (loop_ch : UInt8) : LoopText K :=
  ⟨zeroEntry K key loop_ch, shaped_zeroEntry key loop_ch, short_zeroEntry key loop_ch⟩

theorem stored_zeroLoop (key : UInt8 × UInt8) {loop_ch : UInt8} (h : loop_ch.toNat ≠ 0) :
    (zeroLoop K key loop_ch).stored modules =
      ⟨moduleIndex modules key, loop_ch.toNat, List.replicate (K.more + 1) [0x30]⟩ := by
  simp only [LoopText.stored, zeroLoop, zeroEntry, hexByteOf_sprintfX, List.getD_cons_zero, List.getD_cons_succ, loopOf,
    u8Of_sprintfD, if_neg h]

theorem zeroLoop_known {key : UInt8 × UInt8} (hkey : moduleIndex modules key = 0) {loop_ch : UInt8}
    (hlow : loop_ch.toNat ≠ 0) (hhigh : loop_ch.toNat < 8) : (zeroLoop K key loop_ch).Known modules := by
  constructor
  · change (u8Of (sprintfD loop_ch.toNat)).toNat < 8
    rwa [u8Of_sprintfD]
  · rw [stored_zeroLoop key hlow, hkey]
    exact Nat.succ_pos 9

/-- alone, it is stored -/
theorem channel_zeroLoop {key : UInt8 × UInt8} (hkey : moduleIndex modules key = 0) {loop_ch : UInt8}
    (hlow : loop_ch.toNat ≠ 0) (hhigh : loop_ch.toNat < 8) {old new : Place → V} {tmp : List UInt8}
    (h : (setLoops K modules (loopsText [zeroLoop K key loop_ch]) (old, tmp)).map Prod.fst = some new) :
    K.channel (new (0, loop_ch.toNat - 1)) = loop_ch := by
  have hknown : ∀ e ∈ [zeroLoop K key loop_ch], e.Known modules := by
    intro e he
    rw [List.mem_singleton.1 he]
    exact zeroLoop_known hkey hlow hhigh
  rw [setLoops_known hknown (Nat.succ_pos 254), List.map_singleton, stored_zeroLoop key hlow, hkey] at h
  rw [← Option.some.inj h]
  change K.channel (Puts.putOne Stored.place (setStored K) old _ (0, loop_ch.toNat - 1)) = _
  rw [Puts.putOne, Stored.place, Function.update_self, setStored, K.channel_set, UInt8.ofNat_toNat]

/-- behind a segment that is not accepted, only the channel that is read there is stored -/
theorem kept_of_misread {s x : LoopText K} (hrejected : ¬s.Accepted) {loop_ch : ℕ} (hlow : loop_ch ≠ 0)
    (hother : loopOf (s.values.getD 2 []) ≠ loop_ch) (m : ℕ) {old new : Place → V} {tmp : List UInt8}
    (h : (setLoops K modules (loopsText [s, x]) (old, tmp)).map Prod.fst = some new) :
    new (m, loop_ch - 1) = old (m, loop_ch - 1) := by
  obtain ⟨⟨thre, tmp'⟩, hset, rfl⟩ := Option.map_eq_some_iff.1 h
  obtain ⟨r, hread, hmap⟩ := Option.bind_eq_some_iff.1 hset
  obtain ⟨thre', hstore, heq⟩ := Option.map_eq_some_iff.1 hmap
  cases heq
  refine Puts.storeAll_other _ _ _ (fun t ht hplace => ?_) hstore
  have hloop := loop_of_misread hrejected hread t ht
  have hindex : t.loop_ch - 1 = loop_ch - 1 := congrArg Prod.snd hplace
  have hpos : loopOf (s.values.getD 2 []) ≠ 0 := by
    unfold loopOf
    split_ifs with hzero
    · exact Nat.one_ne_zero
    · exact hzero
  rw [hloop] at hindex
  omega

/-- a segment that is not accepted takes the next one with it -/
theorem accepted_of_harmless {s : LoopText K} (h : Harmless modules s) : s.Accepted := by
  by_contra hrejected
  obtain ⟨key, hkey⟩ := first_module modules
  -- the channel of the next is another than the one that is read for it
  obtain ⟨loop_ch, hlow, hhigh, hother⟩ : ∃ loop_ch : UInt8, loop_ch.toNat ≠ 0 ∧ loop_ch.toNat < 8 ∧
      loopOf (s.values.getD 2 []) ≠ loop_ch.toNat := by
    by_cases hone : loopOf (s.values.getD 2 []) = 1
    · exact ⟨2, by decide, by decide, by rw [hone]; decide⟩
    · exact ⟨1, by decide, by decide, hone⟩
  obtain ⟨v, hv⟩ := K.other loop_ch
  obtain ⟨new, new₀, hnew, hnew₀, hsame⟩ := h [] [zeroLoop K key loop_ch]
    (fun e he => by rw [List.mem_singleton.1 he]; exact zeroLoop_known hkey hlow hhigh) (by decide : 2 ≤ 255)
    (fun _ => v) []
  have hstored := channel_zeroLoop hkey hlow hhigh hnew₀
  have hkept := kept_of_misread hrejected hlow hother 0 hnew
  rw [← hsame (0, loop_ch.toNat - 1) fun haccepted => absurd haccepted hrejected, hkept] at hstored
  exact hv hstored

/-- **Segments.** One leaves the others as they are exactly when it is accepted and its module is in the table. -/
theorem harmless_iff (s : LoopText K) : Harmless modules s ↔ s.Known modules := by
  refine ⟨fun h => ⟨accepted_of_harmless h, ?_⟩, harmless_of_known⟩
  have haccepted : ∀ e ∈ [s], e.Accepted := by
    intro e he
    rw [List.mem_singleton.1 he]
    exact accepted_of_harmless h
  obtain ⟨new, -, hnew, -, -⟩ := h [] [] (fun _ he => absurd he List.not_mem_nil) (Nat.succ_pos 254)
    (fun _ => (K.other 0).choose) []
  rw [List.nil_append, setLoops_accepted haccepted (Nat.succ_pos 254), Puts.storeAll_eq] at hnew
  split_ifs at hnew with hinside
  exact of_decide_eq_true (hinside (s.stored modules) List.mem_cons_self)

end Segments

/-- **Thresholds.** They come back exactly when each is listed on a channel up to 7, for the first module with its key,
the bounds have nine characters at most, a mark reads back as one, and there is room for all; and a segment of either
list leaves the others as they are exactly when its channel is at most 7 and its module in the table. -/
theorem collector_iff (F : BoundTexts UInt64) (modules : Modules) (s : Thresholds F modules) (d : LoopText digital)
    (a : LoopText (analog F)) :
    (Restored s ↔ Listed digital modules s.d_alarm_thre ∧ Listed (analog F) modules s.a_alarm_thre ∧
      ∀ m module j, Configured (analog F) modules s.a_alarm_thre m module j → BoundsRead F (s.a_alarm_thre (m, j))) ∧
    (Harmless modules d ↔ d.Known modules) ∧ (Harmless modules a ↔ a.Known modules) :=
  ⟨restored_lists_iff s, harmless_iff d, harmless_iff a⟩

/-! ## Thresholds that are lost -/

/-- `%f` and `atof` of 220; other numbers are taken for 0 -/
def sampleText (v : UInt64) : List UInt8 :=
  if v = 0x406B800000000000 then [0x32, 0x32, 0x30, 0x2E, 0x30, 0x30, 0x30, 0x30, 0x30, 0x30]
  else [0x30, 0x2E, 0x30, 0x30, 0x30, 0x30, 0x30, 0x30]

def sampleValue (text : List UInt8) : UInt64 := if text = sampleText 0x406B800000000000 then 0x406B800000000000 else 0

theorem sampleText_law {Q : List UInt8 → Prop} (h220 : Q (sampleText 0x406B800000000000)) (h0 : Q (sampleText 0))
    (v : UInt64) : Q (sampleText v) := by
  by_cases hv : v = 0x406B800000000000
  · rwa [hv]
  · rw [sampleText, if_neg hv]
    exact h0

theorem sampleText_plain (v : UInt64) : Plain (sampleText v) :=
  sampleText_law (List.all_iff_forall_prop.1 (by decide)) (List.all_iff_forall_prop.1 (by decide)) v

theorem sampleText_ne_nil (v : UInt64) : sampleText v ≠ [] := @sampleText_law (· ≠ []) (by decide) (by decide) v

theorem sampleText_unmarked (v : UInt64) : isMarked (sampleText v) = false :=
  @sampleText_law (fun text => isMarked text = false) (by decide) (by decide) v

theorem sampleValue_text : sampleValue (sampleText 0x406B800000000000) = 0x406B800000000000 := by decide

def sampleTexts : BoundTexts UInt64 :=
  ⟨sampleText, sampleValue, sampleText_plain, sampleText_ne_nil, sampleText_unmarked⟩

/-- a module with eight loops of either kind -/
def eightLoops (address : UInt8) : Module := ⟨address, 1, 8, 8, Nat.le_refl 8, Nat.le_refl 8⟩

def oneModule : Modules := ⟨[eightLoops 1], Nat.le_of_ble_eq_true rfl⟩

def tenModules : Modules := ⟨[1, 2, 3, 4, 5, 6, 7, 8, 9, 10].map eightLoops, Nat.le_of_ble_eq_true rfl⟩

/-- a digital and an analog threshold, the second with bounds of 220 -/
def sampleThresholds (d_channel a_channel : UInt8) : Thresholds sampleTexts oneModule :=
  ⟨⟨1, 1, fun _ => ⟨d_channel, 1, 3, 0, 1, 0, 1⟩,
    fun _ => ⟨a_channel, 0x406B800000000000, 0x406B800000000000, 3, 0, 1, 0, 1⟩⟩,
    fun _ _ _ _ => .inr sampleValue_text, fun _ _ _ _ => .inr sampleValue_text⟩

/-- lost: a digital threshold on channel 8, an analog one with bounds of 220, the segment behind one for channel 9, and
what lies behind a table of ten modules -/
theorem collector_lost : ¬Restored (sampleThresholds 8 0) ∧ ¬Restored (sampleThresholds 0 1) ∧
    ¬Harmless oneModule (zeroLoop digital (1, 1) 9) ∧ ¬Harmless tenModules (zeroLoop digital (11, 1) 1) := by
  refine ⟨fun h => ?_, fun h => ?_, fun h => ?_, fun h => ?_⟩
  · have hc : Configured digital oneModule (sampleThresholds 8 0).d_alarm_thre 0 (eightLoops 1) 7 :=
      ⟨rfl, by decide, by decide⟩
    exact absurd (((restored_lists_iff _).1 h).1.listed _ _ _ hc).2 (by decide)
  · have hc : Configured (analog sampleTexts) oneModule (sampleThresholds 0 1).a_alarm_thre 0 (eightLoops 1) 0 :=
      ⟨rfl, by decide, by decide⟩
    exact absurd (((restored_lists_iff _).1 h).2.2 _ _ _ hc).1 (by decide)
  · exact absurd ((harmless_iff _).1 h).1 (by unfold LoopText.Accepted; decide)
  · exact absurd ((harmless_iff _).1 h).2 (by decide)

end DataConcentrator.CollectorAlarm
