/-
The queries of the stored records: `LampGetLampStrategy` and `LampGetBasicConfiguration`.

Allocations succeed and every answer is queued; the value both functions return is left out.
- `Table.query`: the loop both share, over a table of records; the last batch leaves at the last index, for the
  strategies only if a strategy is listed there;
- `query_eq`: the answers are the batches of the configured records;
- `complete_iff`: when the answers hold every configured record;
- `queries_complete_iff`: both queries.
-/
import DataConcentrator.Lamp.StrategyText
import DataConcentrator.Lib.Batching

namespace DataConcentrator.Lamp

open Plc (Store LampConfig LampTask MAX_LAMP_CONF_NUM MAX_LAMP_STRATEGY_NUM)
open Protocol (Parameter ServerFrameStruct)

/-! ## The text of a lamp -/

/-- a `u8` read as an `s8` -/
def signed8 (x : UInt8) : ℤ := (x.toNat : ℤ).bmod (2 ^ 8)

/-- a byte after the address -/
def setting (config : LampConfig) (k : ℕ) : UInt8 := config.settings.getD k 0

/-- the bits of a `float` after the address -/
def settingFloat (config : LampConfig) (k : ℕ) : UInt32 :=
  getBe32 (setting config (k + 3)) (setting config (k + 2)) (setting config (k + 1)) (setting config k)

/-- what is copied to `buf`, piece by piece -/
def configPieces (config : LampConfig) : List (List UInt8) :=
  let advance_time := setting config 0
  let delay_time := setting config 1
  let longitude := settingFloat config 2
  let latitude := settingFloat config 6
  let light_wane := setting config 10
  let auto_report := setting config 11
  let adjust_type := setting config 12
  let node_loss_check_times := setting config 13
  let default_brightness := setting config 14
  [sprintf08X config.address, [0x2C], sprintfD (signed8 advance_time), [0x2C], sprintfD (signed8 delay_time), [0x2C],
    sprintfF longitude, [0x2C], sprintfF latitude, [0x2C], sprintfD light_wane.toNat, [0x2C],
    sprintfD auto_report.toNat, [0x2C], sprintfD adjust_type.toNat, [0x2C],
    sprintfD node_loss_check_times.toNat, [0x7C], sprintfD (((default_brightness >>> 4) &&& 0x0F).toNat * 10), [0x2C],
    sprintfD ((default_brightness &&& 0x0F).toNat * 10), [0x7C]] ++
    ((List.ofFn config.group).filter (· ≠ 0)).flatMap fun group => [sprintfD group.toNat, [0x2C]]

/-- `buf` of `LampGetBasicConfiguration`; a coordinate passes through `char tmp[16]`, the last byte is cut off -/
def configText (config : LampConfig) : Option (List UInt8) :=
  if (sprintfF (settingFloat config 2)).length < 16 ∧ (sprintfF (settingFloat config 6)).length < 16 then
    (strcats 80 (configPieces config)).map List.dropLast
  else none

/-! ## The answers -/

def DEVICE_RESPONSE_UP : UInt8 := 0x02

def NO_ERR : UInt8 := 0x00

/-- a parameter with a text and its terminator -/
def textParameter (type : UInt16) (text : List UInt8) : Parameter := ⟨type, text.length, text ++ [0]⟩

/-- an answer: `CopyServerFrameStruct` with mode 0, and the parameters -/
def respond (s : ServerFrameStruct) (ps : List Parameter) : ServerFrameStruct :=
  { s with
    msg_type := DEVICE_RESPONSE_UP
    msg_len := 10
    err_code := NO_ERR
    para_num := ps.length
    para := ps.map some }

/-- a table of records the server can ask for -/
structure Table (α : Type) where
  size : ℕ
  /-- `ReadSpecify..NumList` -/
  listed : ℕ → Bool
  /-- the record, if its checksum is right -/
  read : ℕ → Option α
  /-- the type of the parameter for index 0 -/
  type : UInt16
  text : α → Option (List UInt8)
  /-- the batch is looked at after every index, not only after a listed one -/
  always : Bool

variable {α : Type} (t : Table α) (s : ServerFrameStruct)

/-- what is read for an index -/
def Table.record (j : ℕ) : Option (ℕ × α) := if t.listed j then (t.read j).map (j, ·) else none

/-- the parameter of one entry of `index` and its record -/
def Table.parameter (r : ℕ × α) : Option Parameter := (t.text r.2).map (textParameter (t.type + UInt16.ofNat r.1))

/-- the answer with a batch -/
def Table.answer (batch : List (ℕ × α)) : Option ServerFrameStruct := (batch.mapM t.parameter).map (respond s)

/-- one round of the loop, on the answers and on the `k` records collected -/
def Table.round (r : List ServerFrameStruct × List (ℕ × α)) (j : ℕ) :
    Option (List ServerFrameStruct × List (ℕ × α)) :=
  let batch := r.2 ++ (t.record j).toList
  if (t.always ∨ t.listed j) ∧ (batch.length = 10 ∨ 1 ≤ batch.length ∧ j = t.size - 1) then
    (t.answer s batch).map fun a => (r.1 ++ [a], [])
  else some (r.1, batch)

/-- the answers with the records; `none` where a text does not fit its buffer -/
def Table.query : Option (List ServerFrameStruct) := ((List.range t.size).foldlM (t.round s) ([], [])).map Prod.fst

/-- the strategies: the batch is looked at in the branch of a listed index -/
def strategyTable (st : Store) : Table LampTask where
  size := MAX_LAMP_STRATEGY_NUM
  listed := st.readSpecifyLampStrategyNumList
  read j := if (st.lampTaskConfig j).1 then some (st.lampTaskConfig j).2 else none
  type := 0x4101
  text := strategyText
  always := false

/-- the lamps: the batch is looked at after that branch -/
def lampTable (st : Store) : Table LampConfig where
  size := MAX_LAMP_CONF_NUM
  listed := st.readSpecifyLampNumList
  read := st.lampConfig
  type := 0x410A
  text := configText
  always := true

def lampGetLampStrategy (st : Store) (s : ServerFrameStruct) : Option (List ServerFrameStruct) :=
  (strategyTable st).query s

/-- the parameters of the first answer -/
def basicParameters (c : LampBasicConfig) : List Parameter :=
  [textParameter 0x7101 (sprintfD ((c.auto_sync_time_cycle : ℤ).bmod (2 ^ 32))),
    textParameter 0x3102 (sprintf02X (UInt8.ofNat c.auto_report_plc_state)),
    textParameter 0x8103 (sprintfD c.state_collection_cycle),
    textParameter 0x8104 (sprintfD c.state_collection_offset),
    textParameter 0x8105 (sprintfD c.state_recording_time),
    textParameter 0x8106 (sprintfD c.response_timeout),
    textParameter 0x8107 (sprintfD c.retransmission_times),
    textParameter 0x8108 (sprintfD c.broadcast_times),
    textParameter 0x8109 (sprintfD c.broadcast_interval_time)]

def lampGetBasicConfiguration (c : Conf) (s : ServerFrameStruct) : Option (List ServerFrameStruct) :=
  ((lampTable c.store).query s).map (respond s (basicParameters c.lampBasicConfig) :: ·)

/-! ## The loop -/

/-- the configured records with their indices, in increasing order: listed, and the checksum is right -/
def Table.configured : List (ℕ × α) := (List.range t.size).filterMap t.record

/-- what the loop holds after the records in `b` -/
def Table.reached (b : Batching.St (ℕ × α)) : Option (List ServerFrameStruct × List (ℕ × α)) :=
  (b.done.mapM (t.answer s)).map (·, b.filling)

/-- only a listed index has a record -/
theorem listed_of_record {j : ℕ} {r : ℕ × α} (h : t.record j = some r) : t.listed j = true := by
  unfold Table.record at h
  split_ifs at h with hlisted
  exact hlisted

theorem reached_fst (b : Batching.St (ℕ × α)) : (t.reached s b).map Prod.fst = b.done.mapM (t.answer s) := by
  rw [Table.reached, Option.map_map]
  exact Option.map_id'

/-- a round, on the answers so far -/
theorem bind_reached (b : Batching.St (ℕ × α)) (j : ℕ) :
    ((t.reached s b).bind fun r => t.round s r j) =
      (b.done.mapM (t.answer s)).bind fun fs => t.round s (fs, b.filling) j := by
  rw [Table.reached, Option.bind_map]
  rfl

/-- a round without an answer -/
theorem bind_kept (b : Batching.St (ℕ × α)) (batch : List (ℕ × α)) :
    ((b.done.mapM (t.answer s)).bind fun fs => some (fs, batch)) = t.reached s ⟨b.done, batch⟩ := by
  rw [Table.reached, Option.map_eq_bind]
  rfl

/-- a round with one -/
theorem bind_sent (b : Batching.St (ℕ × α)) (batch : List (ℕ × α)) :
    ((b.done.mapM (t.answer s)).bind fun fs => (t.answer s batch).map fun a => (fs ++ [a], ([] : List (ℕ × α)))) =
      t.reached s ⟨b.done ++ [batch], []⟩ := by
  rw [Table.reached, List.mapM_append, List.mapM_cons]
  cases b.done.mapM (t.answer s) with
  | none => rfl
  | some fs =>
    cases t.answer s batch with
    | none => rfl
    | some a => rfl

/-- **Step.** Before the last index a round puts the record, if there is one, in its batch. -/
theorem round_reached {b : Batching.St (ℕ × α)} (hroom : b.filling.length < 10) {j : ℕ} (hj : j ≠ t.size - 1) :
    ((t.reached s b).bind fun r => t.round s r j) = t.reached s (Batching.pushAll 10 b (t.record j).toList) := by
  rw [bind_reached]
  unfold Table.round
  cases hrecord : t.record j with
  | none =>
    simp only [Option.toList_none, List.append_nil, hroom.ne, hj, and_false, or_self, if_false, Batching.pushAll_nil]
    exact bind_kept t s b b.filling
  | some r =>
    have hlisted := listed_of_record t hrecord
    simp only [Option.toList_some, hlisted, or_true, true_and, hj, and_false, or_false, Batching.pushAll_cons,
      Batching.pushAll_nil, List.length_append, List.length_singleton]
    unfold Batching.push
    by_cases hfull : b.filling.length + 1 = 10
    · simp only [hfull, if_true]
      exact bind_sent t s b (b.filling ++ [r])
    · simp only [hfull, if_false]
      exact bind_kept t s b (b.filling ++ [r])

/-- the records of the first indices, in batches -/
def Table.batched (n : ℕ) : Batching.St (ℕ × α) :=
  Batching.pushAll 10 Batching.start ((List.range n).filterMap t.record)

theorem batched_succ (n : ℕ) : t.batched (n + 1) = Batching.pushAll 10 (t.batched n) (t.record n).toList := by
  rw [Table.batched, List.range_succ, List.filterMap_append, Batching.pushAll_append]
  cases hrecord : t.record n with
  | none => rw [List.filterMap_cons_none hrecord]; rfl
  | some r => rw [List.filterMap_cons_some hrecord]; rfl

theorem inv_batched (n : ℕ) : Batching.Inv 10 (t.batched n) ((List.range n).filterMap t.record) :=
  Batching.inv_run (by decide) _

/-- **Run.** Before the last index the records are in batches, the full ones answered. -/
theorem rounds_reached : ∀ {n : ℕ}, n < t.size →
    (List.range n).foldlM (t.round s) ([], []) = t.reached s (t.batched n) := by
  intro n
  induction n with
  | zero => intro _; rfl
  | succ n ih =>
    intro hn
    have hround := round_reached t s (inv_batched t n).room (j := n) (by omega)
    rw [List.range_succ, List.foldlM_append, ih (by omega), batched_succ, ← hround]
    simp only [List.foldlM_cons, List.foldlM_nil, bind_pure]
    rfl

/-- the batches that are answered: the last one only if it is looked at after the last index -/
def Table.batches : List (List (ℕ × α)) :=
  if t.always ∨ t.listed (t.size - 1) then Batching.flush (t.batched t.size) else (t.batched t.size).done

/-- the last round -/
theorem round_last {n : ℕ} (hn : t.size = n + 1) :
    (((t.reached s (t.batched n)).bind fun r => t.round s r n).map Prod.fst) = t.batches.mapM (t.answer s) := by
  have hlast : n = t.size - 1 := by omega
  rw [bind_reached, Table.batches, hn, Nat.add_sub_cancel, batched_succ]
  unfold Table.round
  cases hrecord : t.record n with
  | none =>
    simp only [Option.toList_none, List.append_nil, (inv_batched t n).room.ne, ← hlast, and_true, false_or,
      Batching.pushAll_nil]
    by_cases hlook : t.always = true ∨ t.listed n = true
    · rw [if_pos hlook]
      unfold Batching.flush
      by_cases hnil : (t.batched n).filling = []
      · have hzero : ¬1 ≤ (t.batched n).filling.length := by simp [hnil]
        rw [if_pos hnil]
        simp only [hzero, and_false, if_false]
        rw [bind_kept, reached_fst]
      · have hone : 1 ≤ (t.batched n).filling.length := List.length_pos_iff.2 hnil
        rw [if_neg hnil]
        simp only [hlook, hone, and_self, if_true]
        rw [bind_sent, reached_fst]
    · simp only [hlook, false_and, if_false]
      rw [bind_kept, reached_fst]
  | some r =>
    -- only a listed index adds a record, so the batch is looked at
    have hlook : t.always = true ∨ t.listed n = true := .inr (listed_of_record t hrecord)
    have hone : 1 ≤ ((t.batched n).filling ++ [r]).length := by simp
    simp only [Option.toList_some, hlook, hone, ← hlast, and_self, or_true, if_true, Batching.pushAll_cons,
      Batching.pushAll_nil]
    rw [Batching.flush_push, bind_sent, reached_fst]

/-- **The answers are the batches of the configured records.** -/
theorem query_eq (hsize : 0 < t.size) : t.query s = t.batches.mapM (t.answer s) := by
  obtain ⟨n, hn⟩ := Nat.exists_eq_succ_of_ne_zero hsize.ne'
  rw [Table.query, ← round_last t s hn]
  have hrun := rounds_reached t s (n := n) (by omega)
  have hsplit : List.range t.size = List.range n ++ [n] := by rw [hn, List.range_succ]
  rw [hsplit, List.foldlM_append, hrun]
  simp only [List.foldlM_cons, List.foldlM_nil, bind_pure]
  rfl

/-! ## What the answers hold -/

/-- the parameter with the record: its type is that of the index, its value the text -/
def Table.Shows (r : ℕ × α) (p : Option Parameter) : Prop :=
  ∃ text, t.text r.2 = some text ∧ p = some (textParameter (t.type + UInt16.ofNat r.1) text)

/-- the answers together hold each configured record once, in increasing order, ten at most in each -/
structure Table.Complete (frames : List ServerFrameStruct) : Prop where
  all : List.Forall₂ t.Shows t.configured (frames.flatMap (·.para))
  num : ∀ f ∈ frames, f.para_num = f.para.length ∧ f.para_num ≤ 10

/-- an answer holds its batch -/
theorem shows_of_answer {batch : List (ℕ × α)} {f : ServerFrameStruct} (h : t.answer s batch = some f) :
    List.Forall₂ t.Shows batch f.para ∧ f.para_num = f.para.length := by
  obtain ⟨ps, hps, rfl⟩ := Option.map_eq_some_iff.1 h
  refine ⟨List.forall₂_map_right_iff.2 ((Batching.forall₂_of_mapM hps).imp fun r p hp => ?_), by simp [respond]⟩
  obtain ⟨text, htext, rfl⟩ := Option.map_eq_some_iff.1 hp
  exact ⟨text, htext, rfl⟩

/-- answers hold their batches -/
theorem shows_of_answers {bs : List (List (ℕ × α))} {frames : List ServerFrameStruct}
    (h : bs.mapM (t.answer s) = some frames) :
    List.Forall₂ t.Shows bs.flatten (frames.flatMap (·.para)) ∧
      ∀ f ∈ frames, ∃ b ∈ bs, f.para_num = f.para.length ∧ f.para.length = b.length := by
  have hall := Batching.forall₂_of_mapM h
  clear h
  induction hall with
  | nil => exact ⟨.nil, by simp⟩
  | @cons b f bs frames hb _ ih =>
    obtain ⟨hshows, hnum⟩ := shows_of_answer t s hb
    refine ⟨List.rel_append hshows ih.1, fun g hg => ?_⟩
    rcases List.mem_cons.1 hg with rfl | hg
    · exact ⟨b, List.mem_cons_self, hnum, hshows.length_eq.symm⟩
    · obtain ⟨b', hb', hg'⟩ := ih.2 g hg
      exact ⟨b', List.mem_cons_of_mem b hb', hg'⟩

/-- the batches begin with the configured records, in order -/
theorem batches_begin : t.batches.flatten <+: t.configured := by
  have hinv := inv_batched t t.size
  rw [Table.batches]
  split_ifs with hlook
  · rw [(Batching.batches_flush hinv).all, Table.configured]
  · exact ⟨_, hinv.all⟩

theorem length_of_mem_batches {batch : List (ℕ × α)} (h : batch ∈ t.batches) : batch.length ≤ 10 := by
  have hinv := inv_batched t t.size
  rw [Table.batches] at h
  split_ifs at h with hlook
  · exact ((Batching.batches_flush hinv).some batch h).2
  · exact (hinv.full batch h).le

/-- the batches hold every record exactly if the last batch leaves or is empty -/
theorem length_batches_iff :
    t.batches.flatten.length = t.configured.length ↔
      t.always ∨ t.listed (t.size - 1) ∨ t.configured.length % 10 = 0 := by
  have hinv := inv_batched t t.size
  rw [← Table.configured] at hinv
  rw [Table.batches, ← or_assoc, ← Batching.filling_eq_nil_iff hinv]
  split_ifs with hlook
  · rw [(Batching.batches_flush hinv).all]
    exact ⟨fun _ => .inl hlook, fun _ => rfl⟩
  · have hlen : (t.batched t.size).done.flatten.length + (t.batched t.size).filling.length = t.configured.length := by
      rw [← List.length_append, hinv.all]
    rw [← List.length_eq_zero_iff]
    refine ⟨fun h => .inr (by omega), fun h => ?_⟩
    have hzero := h.resolve_left hlook
    omega

/-- a batch whose texts fit is answered -/
theorem answer_isSome {batch : List (ℕ × α)} (h : ∀ r ∈ batch, (t.text r.2).isSome) : (t.answer s batch).isSome := by
  have hparams : ∀ r ∈ batch, (t.parameter r).isSome := by
    intro r hr
    rw [Table.parameter, Option.isSome_map]
    exact h r hr
  obtain ⟨ps, hps⟩ := Batching.mapM_isSome hparams
  rw [Table.answer, hps]
  rfl

/-- **Completeness of a query.** All texts fit, and the last batch leaves or is empty. -/
theorem complete_iff (hsize : 0 < t.size) :
    (∃ frames, t.query s = some frames ∧ t.Complete frames) ↔
      (∀ r ∈ t.configured, (t.text r.2).isSome) ∧
        (t.always ∨ t.listed (t.size - 1) ∨ t.configured.length % 10 = 0) := by
  rw [query_eq t s hsize, ← length_batches_iff]
  constructor
  · rintro ⟨frames, hframes, hcomplete⟩
    refine ⟨fun r hr => ?_, ?_⟩
    · obtain ⟨i, rfl⟩ := List.mem_iff_get.1 hr
      obtain ⟨text, htext, -⟩ := hcomplete.all.get i.isLt (hcomplete.all.length_eq ▸ i.isLt)
      exact Option.isSome_iff_exists.2 ⟨text, htext⟩
    · have hlen := (shows_of_answers t s hframes).1.length_eq
      exact hlen.trans hcomplete.all.length_eq.symm
  · rintro ⟨hfit, hlen⟩
    have hflat : t.batches.flatten = t.configured := (batches_begin t).eq_of_length hlen
    have hanswers : ∀ batch ∈ t.batches, (t.answer s batch).isSome := fun batch hbatch =>
      answer_isSome t s fun r hr => hfit r (hflat ▸ List.mem_flatten_of_mem hbatch hr)
    obtain ⟨frames, hframes⟩ := Batching.mapM_isSome hanswers
    obtain ⟨hshows, hnum⟩ := shows_of_answers t s hframes
    refine ⟨frames, hframes, hflat ▸ hshows, fun f hf => ?_⟩
    obtain ⟨batch, hbatch, hpara, hlength⟩ := hnum f hf
    refine ⟨hpara, ?_⟩
    calc f.para_num = batch.length := hpara.trans hlength
      _ ≤ 10 := length_of_mem_batches t hbatch

/-! ## Both queries -/

/-- a lamp whose text fits `buf`, and its coordinates `tmp` -/
structure ConfigFits (config : LampConfig) : Prop where
  longitude : (sprintfF (settingFloat config 2)).length < 16
  latitude : (sprintfF (settingFloat config 6)).length < 16
  text : (configPieces config).flatten.length < 80

theorem configText_isSome_iff (config : LampConfig) : (configText config).isSome ↔ ConfigFits config := by
  rw [configText, strcats_eq (by decide)]
  constructor
  · intro h
    split_ifs at h with hcoordinates htext
    · exact ⟨hcoordinates.1, hcoordinates.2, htext⟩
    · cases h
    · cases h
  · intro h
    rw [if_pos ⟨h.longitude, h.latitude⟩, if_pos h.text]
    rfl

theorem strategyText_isSome_iff (task : LampTask) : (strategyText task).isSome ↔ (line task).length ≤ 78 := by
  rw [strategyText_eq]
  split_ifs with h
  · exact ⟨fun _ => h, fun _ => rfl⟩
  · exact ⟨fun h' => absurd h' (by decide), fun h' => absurd h' h⟩

/-- all configured strategies are answered, and after the first answer all configured lamps -/
structure QueriesComplete (c : Conf) (s : ServerFrameStruct) : Prop where
  strategies : ∃ frames, lampGetLampStrategy c.store s = some frames ∧ (strategyTable c.store).Complete frames
  lamps : ∃ first frames, lampGetBasicConfiguration c s = some (first :: frames) ∧ (lampTable c.store).Complete frames

theorem strategies_complete_iff (st : Store) (s : ServerFrameStruct) :
    (∃ frames, lampGetLampStrategy st s = some frames ∧ (strategyTable st).Complete frames) ↔
      (∀ r ∈ (strategyTable st).configured, (line r.2).length ≤ 78) ∧
        (st.readSpecifyLampStrategyNumList 511 = true ∨ (strategyTable st).configured.length % 10 = 0) := by
  have hfit := fun r : ℕ × LampTask => strategyText_isSome_iff r.2
  rw [← forall₂_congr fun r _ => hfit r]
  have hsize : 0 < MAX_LAMP_STRATEGY_NUM := by decide
  refine (complete_iff (strategyTable st) s hsize).trans (and_congr_right fun _ => ?_)
  exact or_iff_right Bool.false_ne_true

theorem lamps_complete_iff (c : Conf) (s : ServerFrameStruct) :
    (∃ first frames, lampGetBasicConfiguration c s = some (first :: frames) ∧ (lampTable c.store).Complete frames) ↔
      ∀ r ∈ (lampTable c.store).configured, ConfigFits r.2 := by
  have hfit := fun r : ℕ × LampConfig => configText_isSome_iff r.2
  have hsize : 0 < MAX_LAMP_CONF_NUM := by decide
  have hquery := complete_iff (lampTable c.store) s hsize
  rw [← forall₂_congr fun r _ => hfit r]
  constructor
  · rintro ⟨first, frames, hframes, hcomplete⟩
    obtain ⟨frames', hframes', hcons⟩ := Option.map_eq_some_iff.1 hframes
    obtain ⟨-, rfl⟩ := List.cons.inj hcons
    exact (hquery.1 ⟨frames', hframes', hcomplete⟩).1
  · intro hall
    obtain ⟨frames, hframes, hcomplete⟩ := hquery.2 ⟨hall, .inl rfl⟩
    exact ⟨_, frames, Option.map_eq_some_iff.2 ⟨frames, hframes, rfl⟩, hcomplete⟩

/-- **The queries.** They are complete exactly if every text fits its buffer and the strategies fill whole batches or
one is listed at the last index. -/
theorem queries_complete_iff (c : Conf) (s : ServerFrameStruct) :
    QueriesComplete c s ↔
      (∀ r ∈ (strategyTable c.store).configured, (line r.2).length ≤ 78) ∧
      (∀ r ∈ (lampTable c.store).configured, ConfigFits r.2) ∧
      (c.store.readSpecifyLampStrategyNumList 511 = true ∨ (strategyTable c.store).configured.length % 10 = 0) := by
  have hstrategies := strategies_complete_iff c.store s
  have hlamps := lamps_complete_iff c s
  constructor
  · rintro ⟨h1, h2⟩
    obtain ⟨hfit, hlast⟩ := hstrategies.1 h1
    exact ⟨hfit, hlamps.1 h2, hlast⟩
  · rintro ⟨hfit, hlampsFit, hlast⟩
    exact ⟨hstrategies.2 ⟨hfit, hlast⟩, hlamps.2 hlampsFit⟩

/-- one strategy, for the first index -/
def oneStrategy : Store :=
  writeSpecifyLampStrategyNumList (writeLampTaskConfig .empty 0 (addressed 1)) 0 1

/-- it is not answered -/
theorem oneStrategy_lost : ¬ ∀ c s, QueriesComplete c s := by
  intro hall
  have hcomplete := hall ⟨Conf.erased.lampBasicConfig, oneStrategy⟩ .zero
  obtain ⟨-, hlast⟩ := (strategies_complete_iff oneStrategy .zero).1 hcomplete.strategies
  have hone : (strategyTable oneStrategy).configured.length = 1 := by decide +kernel
  rw [hone] at hlast
  exact absurd hlast (by decide)

end DataConcentrator.Lamp
