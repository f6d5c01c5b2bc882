/-
The text of a lamp: `LampGetBasicConfiguration` prints it, `LampSetBasicConfiguration` reads it.

With groups the printer cuts off the comma after the last one, without groups the bar before the list, which the reader
then takes the terminator for.
- `configText_eq`: what is printed;
- `lampText_configLine`: what is read up to the byte after the second brightness, whatever that byte is;
- `configText_roundTrip_iff`: a record comes back exactly if its text fits and it has a group.
-/
import DataConcentrator.Common.Reader
import DataConcentrator.Lamp.Query

namespace DataConcentrator.Lamp

open Plc (Store LampConfig MAX_LAMP_CONF_NUM MAX_LAMP_GROUP_NUM)
open Protocol (Parameter ServerFrameStruct)

/-! ## What is printed -/

/-- the fields with their separators, before what follows the second brightness -/
def configLine (config : LampConfig) (rest : List UInt8) : List UInt8 :=
  let default_brightness := setting config 14
  sprintf08X config.address ++ 0x2C ::
    heading [(signed8 (setting config 0), 0x2C), (signed8 (setting config 1), 0x2C)]
      (sprintfF (settingFloat config 2) ++ (0x2C : UInt8) :: (sprintfF (settingFloat config 6) ++ (0x2C : UInt8) ::
        heading [((setting config 10).toNat, 0x2C), ((setting config 11).toNat, 0x2C), ((setting config 12).toNat, 0x2C),
            ((setting config 13).toNat, 0x7C), (((default_brightness >>> 4) &&& 0x0F).toNat * 10, 0x2C)]
          (sprintfD ((default_brightness &&& 0x0F).toNat * 10) ++ rest)))

/-- the groups that are printed -/
def configGroups (config : LampConfig) : List UInt8 := (List.ofFn config.group).filter (· ≠ 0)

def groupTexts (config : LampConfig) : List (List UInt8) := (configGroups config).map fun g => sprintfD g.toNat

/-- what follows the second brightness -/
def configTail (config : LampConfig) : List UInt8 :=
  if configGroups config = [] then [] else 0x7C :: listText (groupTexts config)

theorem configLine_append (config : LampConfig) (rest more : List UInt8) :
    configLine config (rest ++ more) = configLine config rest ++ more := by
  simp only [configLine, heading_cons, heading_nil, List.append_assoc, List.cons_append]

theorem flatten_configPieces (config : LampConfig) : (configPieces config).flatten =
    configLine config (0x7C :: ((groupTexts config).flatMap fun text => [text, [0x2C]]).flatten) := by
  rw [groupTexts, List.flatMap_map, configPieces, List.flatten_append]
  simp only [configLine, heading_cons, heading_nil, List.flatten_cons, List.flatten_nil, List.append_assoc,
    List.cons_append, List.nil_append, configGroups]

/-- the byte at the end: a comma after the groups, or the bar where there are none -/
theorem flatten_configTail (config : LampConfig) : ∃ last,
    (configPieces config).flatten = configLine config (configTail config) ++ [last] := by
  rw [flatten_configPieces, configTail]
  split_ifs with hnone
  · refine ⟨0x7C, ?_⟩
    rw [← configLine_append, groupTexts, hnone]
    rfl
  · obtain ⟨g, gs, hgroups⟩ := List.exists_cons_of_ne_nil hnone
    have htexts : groupTexts config = sprintfD g.toNat :: gs.map fun g => sprintfD g.toNat := by
      rw [groupTexts, hgroups, List.map_cons]
    have hcommas := flatten_texts (groupTexts config)
    have hlist : commaList (groupTexts config) = 0x2C :: listText (groupTexts config) := by
      rw [htexts]
      rfl
    rw [hlist, List.cons_append] at hcommas
    refine ⟨0x2C, ?_⟩
    rw [← configLine_append, (List.cons.inj hcommas).2]
    rfl

/-- **Printing.** -/
theorem configText_fits {config : LampConfig} (h : ConfigFits config) :
    configText config = some (configLine config (configTail config)) := by
  obtain ⟨last, hflatten⟩ := flatten_configTail config
  rw [configText, if_pos ⟨h.longitude, h.latitude⟩, strcats_eq (by decide), if_pos h.text, hflatten, Option.map_some,
    List.dropLast_concat]

/-! ## Fields -/

/-- a text that fits `tmp`, up to a comma -/
theorem field_plain {text : List UInt8} (rest : List UInt8) (htext : Plain text) (hlen : text.length < 17) :
    field comma (text ++ 0x2C :: rest) = some (text, rest) := by
  refine field_text (by decide) (fun x hx => ?_) hlen
  cases hx' : comma x with
  | false => rfl
  | true => exact absurd (isComma_separates x hx') (htext x hx)

theorem plain_sprintf08X (x : UInt32) : Plain (sprintf08X x) := fun _ hx => not_mem_sprintf08X hx

/-- a coordinate holds no separator -/
theorem plain_sprintfF (bits : UInt32) : Plain (sprintfF bits) := by
  have hdigits : ∀ n, Plain (digits n) := fun n => plain_digits fun x hx => mem_digits hx
  have hsign : Plain (if bits.toNat < 2 ^ 31 then [] else [0x2D]) := by
    split_ifs
    · exact fun x hx => absurd hx List.not_mem_nil
    · exact List.forall_mem_singleton.2 (by decide)
  have happend : ∀ {xs ys}, Plain xs → Plain ys → Plain (xs ++ ys) := fun hxs hys x hx =>
    (List.mem_append.1 hx).elim (hxs x) (hys x)
  have hsix : ∀ n, Plain (sixDigits n) := fun n => by
    refine happend (fun x hx => ?_) (hdigits n)
    rw [List.eq_of_mem_replicate hx]
    decide
  have hdot : Plain [0x2E] := List.forall_mem_singleton.2 (by decide)
  have hwords : Plain [0x69, 0x6E, 0x66] ∧ Plain [0x6E, 0x61, 0x6E] := by
    exact ⟨List.all_iff_forall_prop.1 (by decide), List.all_iff_forall_prop.1 (by decide)⟩
  unfold sprintfF
  simp only
  by_cases hspecial : (bits >>> 23).toNat % 256 = 255
  · rw [if_pos hspecial]
    refine happend hsign ?_
    split_ifs
    · exact hwords.1
    · exact hwords.2
  · rw [if_neg hspecial]
    exact happend (happend (happend hsign (hdigits _)) hdot) (hsix _)

/-- the ids read back -/
theorem groupIds_listText {texts : List (List UInt8)} (h : ∀ t ∈ texts, ListItem t) (rest : List UInt8) :
    groupIds (listText texts ++ 0 :: rest) = some (texts.map byteOf) := by
  have hread : ∀ t ∈ texts, (if t.length < 17 then some (UInt8.ofNat (toUnsigned 8 (myatoi t))) else none) =
      some (byteOf t) := fun t ht => if_pos (h t ht).fits
  rw [groupIds, if_pos (List.mem_append_right _ List.mem_cons_self), cstr_text (not_mem_listText h),
    segments_listText h, Batching.mapM_some hread]

/-! ## What is read -/

theorem byteOf_byte (b : UInt8) : byteOf (sprintfD b.toNat) = b := by
  rw [byteOf, myatoi_sprintfD, ofNat_byte]

theorem byteOf_signed8 (b : UInt8) : byteOf (sprintfD (signed8 b)) = b := by
  have hvalue : toUnsigned 8 (signed8 b) = b.toNat := toUnsigned_bmod b.toNat_lt
  rw [byteOf, myatoi_sprintfD, hvalue]
  exact UInt8.ofNat_toNat

theorem length_signed8 (b : UInt8) : (sprintfD (signed8 b)).length ≤ 4 := by
  have hlow : -2 ^ 7 ≤ signed8 b := Int.le_bmod (by decide)
  have hhigh : signed8 b < 2 ^ 7 := Int.bmod_lt (by decide)
  have habs : (signed8 b).natAbs < 10 ^ 3 := by norm_num; omega
  have h := length_sprintfD_le (by decide) habs
  split_ifs at h <;> omega

/-- a brightness is printed as a percentage and read as a nibble -/
theorem brightness_back (b : UInt8) :
    ((byteOf (sprintfD (((b >>> 4) &&& 0x0F).toNat * 10)) / 10) <<< 4 &&& 0xF0) +
      (byteOf (sprintfD ((b &&& 0x0F).toNat * 10)) / 10 &&& 0x0F) = b := by
  have hall : ∀ b : UInt8, ((UInt8.ofNat (toUnsigned 8 (((b >>> 4) &&& 0x0F).toNat * 10 : ℤ)) / 10) <<< 4 &&& 0xF0) +
      (UInt8.ofNat (toUnsigned 8 ((b &&& 0x0F).toNat * 10 : ℤ)) / 10 &&& 0x0F) = b := forall_byte (by decide +kernel)
  rw [byteOf, byteOf, myatoi_sprintfD, myatoi_sprintfD]
  exact hall b

theorem length_brightness (b : UInt8) : (sprintfD (((b >>> 4) &&& 0x0F).toNat * 10)).length < 17 ∧
    (sprintfD ((b &&& 0x0F).toNat * 10)).length < 17 := by
  have hhigh := ((b >>> 4) &&& 0x0F).toNat_lt
  have hlow := (b &&& 0x0F).toNat_lt
  have h1 := @length_sprintfD_le (((b >>> 4) &&& 0x0F).toNat * 10) 4 (by decide) (by omega)
  have h2 := @length_sprintfD_le ((b &&& 0x0F).toNat * 10) 4 (by decide) (by omega)
  constructor
  · split_ifs at h1 <;> omega
  · split_ifs at h2 <;> omega

variable (atof : List UInt8 → UInt32)

/-- the settings that are read, with the coordinates that `atof` makes of theirs -/
def readSettings (config : LampConfig) : List UInt8 :=
  [setting config 0, setting config 1] ++ putLe32 (atof (sprintfF (settingFloat config 2))) ++
    putLe32 (atof (sprintfF (settingFloat config 6))) ++
      [setting config 10, setting config 11, setting config 12, setting config 13, setting config 14]

theorem bind_field {β : Type} {ends : UInt8 → Bool} {msg text rest : List UInt8}
    {more : List UInt8 × List UInt8 → Option β} (h : field ends msg = some (text, rest)) :
    (field ends msg >>= more) = more (text, rest) := by
  rw [h]
  rfl

/-- **Reading**, up to the bar before the list, or a terminator in its place. -/
theorem lampText_configLine {config : LampConfig} (h : ConfigFits config) {b : UInt8} (hb : b = 0x7C ∨ b = 0)
    (rest : List UInt8) : lampText atof (configLine config (b :: rest)) =
      (groupIds rest).map fun ids => ⟨sprintf08X config.address, readSettings atof config, ids⟩ := by
  have hbyte : ∀ c : UInt8, (sprintfD (c.toNat : ℤ)).length < 17 := fun c => (length_byte c).trans_lt (by decide)
  have hsigned : ∀ c : UInt8, (sprintfD (signed8 c)).length < 17 := fun c => (length_signed8 c).trans_lt (by decide)
  have hcoordinate : ∀ bits, (sprintfF bits).length < 16 → (sprintfF bits).length < 17 := fun _ hlen => by omega
  have haddress : (sprintf08X config.address).length < 17 := by
    rw [length_sprintf08X]
    decide
  have hlast : (bar b || decide (b = 0)) = true := by rcases hb with rfl | rfl <;> decide
  obtain ⟨hbright1, hbright2⟩ := length_brightness (setting config 14)
  have hend := @field_number (fun b => bar b || b = 0) ((setting config 14 &&& 0x0F).toNat * 10) rest b hlast (by
    intro x hx
    simp only [bar, Bool.or_eq_true, decide_eq_true_eq] at hx
    rcases hx with rfl | rfl <;> decide) hbright2
  simp only [configLine, heading_cons, heading_nil]
  rw [lampText]
  refine (bind_field (field_plain _ (plain_sprintf08X _) haddress)).trans ?_
  refine (bind_field (field_comma _ (hsigned _))).trans ?_
  refine (bind_field (field_comma _ (hsigned _))).trans ?_
  refine (bind_field (field_plain _ (plain_sprintfF _) (hcoordinate _ h.longitude))).trans ?_
  refine (bind_field (field_plain _ (plain_sprintfF _) (hcoordinate _ h.latitude))).trans ?_
  refine (bind_field (field_comma _ (hbyte _))).trans ?_
  refine (bind_field (field_comma _ (hbyte _))).trans ?_
  refine (bind_field (field_comma _ (hbyte _))).trans ?_
  refine (bind_field (field_bar _ (hbyte _))).trans ?_
  refine (bind_field (field_comma _ hbright1)).trans ?_
  refine (bind_field hend).trans ?_
  simp only [byteOf_byte, byteOf_signed8, brightness_back]
  cases groupIds rest with
  | none => rfl
  | some ids => rfl

/-! ## The round trip -/

/-- the groups are the first entries -/
def Packed (config : LampConfig) : Prop := ∃ m ≤ MAX_LAMP_GROUP_NUM, ∀ k, config.group k ≠ 0 ↔ k.val < m

theorem configGroups_packed {config : LampConfig} {m : ℕ} (h : ∀ k, config.group k ≠ 0 ↔ k.val < m) :
    configGroups config = (List.ofFn config.group).take m := by
  refine TextScan.filter_packed fun i hi => ?_
  rw [List.length_ofFn] at hi
  rw [List.getElem_ofFn, decide_eq_true_eq]
  exact h ⟨i, hi⟩

/-- the groups come back -/
theorem getD_configGroups {config : LampConfig} (h : Packed config) (k : Fin MAX_LAMP_GROUP_NUM) :
    (configGroups config).getD k 0 = config.group k := by
  obtain ⟨m, -, hm⟩ := h
  rw [configGroups_packed hm, List.getD_eq_getElem?_getD, List.getElem?_take]
  split_ifs with hk
  · rw [List.getElem?_ofFn, dif_pos k.isLt]
    rfl
  · exact (not_not.1 fun hne => hk ((hm k).1 hne)).symm

theorem configGroups_eq_nil_iff {config : LampConfig} (h : Packed config) :
    configGroups config = [] ↔ config.group ⟨0, by decide⟩ = 0 := by
  obtain ⟨m, -, hm⟩ := h
  have hfirst := hm ⟨0, by decide⟩
  have hlen : (List.ofFn config.group).length = MAX_LAMP_GROUP_NUM := List.length_ofFn
  rw [configGroups_packed hm, List.take_eq_nil_iff, ← not_iff_not, not_or]
  constructor
  · rintro ⟨hpos, -⟩
    exact hfirst.2 (Nat.pos_of_ne_zero hpos)
  · refine fun hne => ⟨(hfirst.1 hne).ne', fun hnil => ?_⟩
    rw [hnil] at hlen
    cases hlen

/-- two records with the same fields, where the coordinates are what `atof` makes of the printed ones -/
structure SameConfig (config config' : LampConfig) : Prop where
  address : config'.address = config.address
  settings : ∀ k, k ≤ 1 ∨ 10 ≤ k ∧ k < 15 → setting config' k = setting config k
  longitude : settingFloat config' 2 = atof (sprintfF (settingFloat config 2))
  latitude : settingFloat config' 6 = atof (sprintfF (settingFloat config 6))
  group : config'.group = config.group

/-- the text comes out, and a message with it, for any lamp and with anything behind its terminator or nothing, stores
the record -/
def ConfigRoundTrip (config : LampConfig) : Prop :=
  ∃ text, configText config = some text ∧
    ∀ (c : Conf) (s : ServerFrameStruct) (n len : ℕ) (rest : List UInt8), n < MAX_LAMP_CONF_NUM →
      s.para_num = 1 → s.paraAt 0 = some ⟨UInt16.ofNat (0x400A + n), len, text ++ 0 :: rest⟩ →
      ∃ c' config', lampSetBasicConfiguration atof c s = some c' ∧ c'.store.lampConfig (n % 256) = some config' ∧
        SameConfig atof config config'

theorem listItem_groupTexts (config : LampConfig) : ∀ t ∈ groupTexts config, ListItem t := by
  intro t ht
  obtain ⟨g, -, rfl⟩ := List.mem_map.1 ht
  exact ⟨plain_sprintfD _, sprintfD_ne_nil _, (length_byte g).trans_lt (by decide)⟩

theorem groupTexts_back (config : LampConfig) : (groupTexts config).map byteOf = configGroups config := by
  rw [groupTexts, List.map_map]
  exact (List.map_congr_left fun g _ => byteOf_byte g).trans (List.map_id _)

/-- a message of one lamp -/
theorem setBasicConfiguration_oneLamp {s : ServerFrameStruct} {n len : ℕ} {value : List UInt8} (c : Conf)
    (hn : n < MAX_LAMP_CONF_NUM) (hone : s.para_num = 1)
    (hpara : s.paraAt 0 = some ⟨UInt16.ofNat (0x400A + n), len, value⟩) :
    lampSetBasicConfiguration atof c s = (lampText atof value).bind fun t =>
      if t.ids.length ≤ MAX_LAMP_GROUP_NUM then
        some ⟨c.lampBasicConfig, writeLampGroupListNum (configureLamp c.store n
          ⟨lampAddress 0 t.address, t.settings, fun k => t.ids.getD k 0⟩ t.ids)⟩
      else none := by
  unfold MAX_LAMP_CONF_NUM at hn
  have hvalue : (UInt16.ofNat (0x400A + n)).toNat = 0x400A + n :=
    UInt16.toNat_ofNat_of_lt' (show 0x400A + n < 65536 by omega)
  have hother : UInt16.ofNat (0x400A + n) ∉ basicTypes := by
    intro hmem
    have hall : ∀ t ∈ basicTypes, t.toNat < 0x400A ∨ 0x420A ≤ t.toNat := List.all_iff_forall_prop.1 (by decide)
    have hrange := hall _ hmem
    omega
  have hnum : lampNum ⟨UInt16.ofNat (0x400A + n), len, value⟩ = n := by
    rw [lampNum, UInt16.toNat_sub_of_le _ _ (by rw [UInt16.le_iff_toNat_le, hvalue]; exact Nat.le_add_right _ _), hvalue]
    exact Nat.add_sub_cancel_left _ _
  have hps : parameters s = some [⟨UInt16.ofNat (0x400A + n), len, value⟩] := by
    rw [parameters, hone, List.range_one, List.mapM_cons, hpara]
    rfl
  rw [lampSetBasicConfiguration, hps, Option.bind_some, List.foldlM_cons, LoopState.parameter, if_neg hother]
  simp only [hnum]
  cases lampText atof value with
  | none => rfl
  | some t =>
    simp only [Option.bind_some]
    split_ifs
    · rfl
    · rfl

/-- the record that is read -/
def readConfig (config : LampConfig) : LampConfig := ⟨config.address, readSettings atof config, config.group⟩

theorem same_readConfig (config : LampConfig) : SameConfig atof config (readConfig atof config) := by
  refine ⟨rfl, fun k hk => ?_, getBe32_putBe32 _, getBe32_putBe32 _, rfl⟩
  rcases hk with hk | ⟨hge, hlt⟩
  · interval_cases k <;> rfl
  · interval_cases k <;> rfl

/-- the record of a lamp is stored -/
theorem configureLamp_stored {st : Store} {n : ℕ} {config : LampConfig} {ids : List UInt8} (hn : n < MAX_LAMP_CONF_NUM) :
    (writeLampGroupListNum (configureLamp st n config ids)).lampConfig (n % 256) = some config := by
  have hnot : ¬ n ≥ MAX_LAMP_CONF_NUM := Nat.not_le.2 hn
  rw [configureLamp, if_pos hn, writeSpecifyLampNumList, if_neg hnot, if_neg (by decide)]
  exact if_pos rfl

/-- without a group the terminator is taken for the bar before the list, and nothing need lie behind it -/
theorem not_roundTrip_empty {config : LampConfig} (hfits : ConfigFits config) (hempty : configGroups config = []) :
    ¬ ConfigRoundTrip atof config := by
  rintro ⟨text, htext, hback⟩
  rw [configText_fits hfits] at htext
  obtain rfl := Option.some.inj htext
  obtain ⟨c', config', hset, -⟩ := hback Conf.erased
    { ServerFrameStruct.zero with
      para_num := 1
      para := [some ⟨UInt16.ofNat 0x400A, 0, configLine config (configTail config) ++ [0]⟩] }
    0 0 [] (by decide) rfl rfl
  rw [setBasicConfiguration_oneLamp atof _ (by decide : 0 < MAX_LAMP_CONF_NUM) rfl rfl, ← configLine_append, configTail,
    if_pos hempty, List.nil_append, lampText_configLine atof hfits (.inr rfl)] at hset
  cases hset

/-- **Round trip.** A lamp comes back exactly if its text fits `buf`, its coordinates `tmp`, and it is in a group. -/
theorem configText_roundTrip_iff {config : LampConfig} (h : Packed config) :
    ConfigRoundTrip atof config ↔ ConfigFits config ∧ config.group ⟨0, by decide⟩ ≠ 0 := by
  have hnil := configGroups_eq_nil_iff h
  constructor
  · rintro ⟨text, htext, hback⟩
    have hfits : ConfigFits config := (configText_isSome_iff config).1 (by rw [htext]; rfl)
    refine ⟨hfits, fun hnone => ?_⟩
    exact not_roundTrip_empty atof hfits (hnil.2 hnone) ⟨text, htext, hback⟩
  · rintro ⟨hfits, hgroup⟩
    refine ⟨_, configText_fits hfits, fun c s n len rest hn hone hpara => ?_⟩
    have hids : groupIds (listText (groupTexts config) ++ 0 :: rest) = some (configGroups config) := by
      rw [groupIds_listText (listItem_groupTexts config), groupTexts_back]
    have hread : lampText atof (configLine config (configTail config) ++ 0 :: rest) =
        some ⟨sprintf08X config.address, readSettings atof config, configGroups config⟩ := by
      rw [← configLine_append, configTail, if_neg fun hempty => hgroup (hnil.1 hempty), List.cons_append,
        lampText_configLine atof hfits (.inl rfl), hids, Option.map_some]
    have hlen : (configGroups config).length ≤ MAX_LAMP_GROUP_NUM :=
      (List.length_filter_le _ _).trans_eq List.length_ofFn
    have hgroups : (fun k : Fin MAX_LAMP_GROUP_NUM => (configGroups config).getD k 0) = config.group :=
      funext (getD_configGroups h)
    refine ⟨⟨c.lampBasicConfig, writeLampGroupListNum (configureLamp c.store n (readConfig atof config)
      (configGroups config))⟩, readConfig atof config, ?_, configureLamp_stored hn, same_readConfig atof config⟩
    rw [setBasicConfiguration_oneLamp atof c hn hone hpara, hread, Option.bind_some, if_pos hlen]
    simp only [lampAddress_sprintf08X, hgroups, readConfig]

/-! ## A lamp in groups, and one in none -/

/-- a lamp at 120.25 and 30.25 in the first `m` groups -/
def lampInGroups (m : ℕ) : LampConfig :=
  ⟨0x12345678, [10, 246] ++ putLe32 0x42F08000 ++ putLe32 0x41F20000 ++ [5, 1, 0, 3, 0xA5],
    fun k => if k.val < m then UInt8.ofNat (k.val + 1) else 0⟩

theorem packed_lampInGroups {m : ℕ} (hm : m ≤ MAX_LAMP_GROUP_NUM) : Packed (lampInGroups m) := by
  refine ⟨m, hm, fun k => ?_⟩
  have hset : ∀ k : Fin MAX_LAMP_GROUP_NUM, UInt8.ofNat (k.val + 1) ≠ 0 := by decide
  simp only [lampInGroups]
  split_ifs with hk
  · exact iff_of_true (hset k) hk
  · exact iff_of_false (not_not.2 rfl) hk

/-- `atof`, of the two texts -/
def atofOf (text : List UInt8) : UInt32 := if text = sprintfF 0x42F08000 then 0x42F08000 else 0x41F20000

theorem fits_lampInGroups : ConfigFits (lampInGroups 2) ∧ ConfigFits (lampInGroups 0) :=
  ⟨⟨by decide +kernel, by decide +kernel, by decide +kernel⟩, ⟨by decide +kernel, by decide +kernel, by decide +kernel⟩⟩

theorem configText_twoGroups : Packed (lampInGroups 2) ∧ ConfigRoundTrip atofOf (lampInGroups 2) :=
  have h : Packed (lampInGroups 2) := packed_lampInGroups (by decide)
  ⟨h, (configText_roundTrip_iff atofOf h).2 ⟨fits_lampInGroups.1, by decide⟩⟩

/-- without a group -/
theorem configText_noGroup : ¬ ConfigRoundTrip atofOf (lampInGroups 0) :=
  not_roundTrip_empty atofOf fits_lampInGroups.2 (by decide)

end DataConcentrator.Lamp
