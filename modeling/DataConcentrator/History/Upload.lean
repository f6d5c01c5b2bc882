/-
The upload of the alarm history: which lines it sends, and when it sends them all.

A batch is opened before the next line is looked for. When the lines end with a full batch, the one opened after it is
deleted with the entries of its parameters never stored.
- `analysisLoop_eq`, `readLoop_eq`: over the chunks of a file, the loops put its lines into batches of five;
- `upload_run`: over the files of the directory, the batches go on from one file to the next;
- `alarmHistoryQuery_iff`: the query sends every line once, in order, in batches numbered from 1, and keeps its frame
  structures whole, exactly when the last batch is not a full one and the patch number does not wrap;
- `fifth_line_deletes`: five lines.
-/
import DataConcentrator.History.Lines
import DataConcentrator.Lib.Batching

namespace DataConcentrator.History

open DataConcentrator.Protocol Batching Reassembly

/-! ## What is asked of an upload -/

/-- the files of the query's dates -/
def Selected (env : Env) (q : EventHistory) (e : Entry) : Prop := ¬ Stale env e.fname ∧ InRange env q e.fname

instance decidableSelected (env : Env) (q : EventHistory) (e : Entry) : Decidable (Selected env q e) := by
  unfold Selected; infer_instance

/-- the content of a file is these lines -/
structure Stores (e : Entry) (lines : List (List UInt8)) : Prop where
  content : e.content = lines.flatMap storeLine
  line : ∀ line ∈ lines, Line line

/-- the parameters of a batch: its number, and its lines -/
def batchParas (patch_num : ℕ) (lines : List (List UInt8)) : List Parameter :=
  patchPara patch_num :: lines.mapIdx fun j line => linePara (j + 1) line

/-- a structure with the parameters of a batch and no others -/
structure Carries (patch_num : ℕ) (lines : List (List UInt8)) (s : ServerFrameStruct) : Prop where
  num : s.para_num = lines.length + 1
  para : ∀ i, s.paraAt i = (batchParas patch_num lines)[i]?

/-- exactly `para_num` entries have been stored -/
def Initialised (s : ServerFrameStruct) : Prop := ∀ i, (s.paraAt i).isSome ↔ i < s.para_num

/-- every line once and in order, in batches numbered from 1, and every structure whole -/
structure Complete (lines : List (List UInt8)) (outcomes : List Outcome) : Prop where
  batches : ∃ bs, Batches EVENT_NUM_OF_BATCH lines bs ∧ (outcomes.filterMap Outcome.sent).length = bs.length ∧
    ∀ k b s, bs[k]? = some b → (outcomes.filterMap Outcome.sent)[k]? = some s → Carries (k + 1) b s
  initialised : ∀ o ∈ outcomes, Initialised o.server_frame_struct

theorem length_batchParas (patch_num : ℕ) (lines : List (List UInt8)) :
    (batchParas patch_num lines).length = lines.length + 1 := by simp [batchParas]

theorem Carries.initialised {patch_num : ℕ} {lines : List (List UInt8)} {s : ServerFrameStruct}
    (h : Carries patch_num lines s) : Initialised s := by
  intro i
  rw [h.para, h.num, ← length_batchParas patch_num lines]
  simp

/-- nothing sent -/
theorem complete_nil_iff {lines : List (List UInt8)} : Complete lines [] ↔ lines = [] := by
  constructor
  · rintro ⟨⟨bs, hbatches, hlen, -⟩, -⟩
    rw [← hbatches.all, List.length_eq_zero_iff.1 hlen.symm]
    rfl
  · rintro rfl
    exact ⟨⟨[], ⟨rfl, by simp, by simp⟩, rfl, by simp⟩, by simp⟩

/-- a query that ends, and is complete -/
def Uploads (lines : List (List UInt8)) (r : Option (List Outcome × (String → List Entry))) : Prop :=
  ∃ outcomes disk, r = some (outcomes, disk) ∧ Complete lines outcomes

@[simp] theorem uploads_some {lines : List (List UInt8)} {outcomes : List Outcome} {disk : String → List Entry} :
    Uploads lines (some (outcomes, disk)) ↔ Complete lines outcomes := by
  constructor
  · rintro ⟨_, _, hr, h⟩
    rwa [(Prod.mk.inj (Option.some.inj hr)).1]
  · exact fun h => ⟨outcomes, disk, rfl, h⟩

/-! ## The states of the upload -/

section States

variable (env : Env) (q : EventHistory)

/-- the structure of the batch after `k` others -/
def batchStruct (k : ℕ) (lines : List (List UInt8)) : ServerFrameStruct :=
  { newStruct env q k ((k + 1) % 65536) with
    para := (batchParas ((k + 1) % 65536) lines).map some ++ List.replicate (EVENT_NUM_OF_BATCH - lines.length) none }

/-- the same, when it is sent -/
def sentStruct (k : ℕ) (lines : List (List UInt8)) : ServerFrameStruct :=
  { batchStruct env q k lines with para_num := lines.length + 1 }

def sentAll (bs : List (List (List UInt8))) : List Outcome := bs.mapIdx fun k b => .converted (sentStruct env q k b)

theorem sentAll_concat (bs : List (List (List UInt8))) (b : List (List UInt8)) :
    sentAll env q (bs ++ [b]) = sentAll env q bs ++ [.converted (sentStruct env q bs.length b)] := List.mapIdx_concat

/-- no batch is open -/
def idle (files : List Entry) (b : Batching.St (List UInt8)) : St :=
  ⟨0, none, (b.done.length + 1) % 65536, b.done.length, sentAll env q b.done, files⟩

/-- the batch being filled is open -/
def opened (files : List Entry) (b : Batching.St (List UInt8)) : St :=
  ⟨b.filling.length + 1, some (batchStruct env q b.done.length b.filling), (b.done.length + 2) % 65536,
    b.done.length + 1, sentAll env q b.done, files⟩

theorem openBatch_idle (files : List Entry) {b : Batching.St (List UInt8)} (h : b.filling = []) :
    openBatch env q (idle env q files b) = opened env q files b := by
  have hnum : ((b.done.length + 1) % 65536 + 1) % 65536 = (b.done.length + 2) % 65536 := Nat.mod_add_mod _ _ _
  simp only [openBatch, idle, and_self, if_true, hnum, opened, h]
  rfl

theorem openBatch_opened (files : List Entry) (b : Batching.St (List UInt8)) :
    openBatch env q (opened env q files b) = opened env q files b := by
  rw [openBatch, if_neg]
  exact fun h => Nat.succ_ne_zero _ h.1

theorem openBatch_files (s : St) (files : List Entry) :
    openBatch env q { s with files := files } = { openBatch env q s with files := files } := by
  unfold openBatch
  split_ifs <;> rfl

/-! ## Lines -/

/-- a line goes to the first entry that has not been stored -/
theorem setPara_batch (k : ℕ) {lines : List (List UInt8)} (h : lines.length < EVENT_NUM_OF_BATCH) (line : List UInt8) :
    setPara (batchStruct env q k lines) (lines.length + 1) (linePara (lines.length + 1) line) =
      some (batchStruct env q k (lines ++ [line])) := by
  obtain ⟨m, hm⟩ : ∃ m, EVENT_NUM_OF_BATCH - lines.length = m + 1 := ⟨EVENT_NUM_OF_BATCH - lines.length - 1, by omega⟩
  have hm' : EVENT_NUM_OF_BATCH - (lines ++ [line]).length = m := by
    rw [List.length_append, List.length_singleton]
    omega
  have hlen := length_batchParas ((k + 1) % 65536) lines
  have hparas : batchParas ((k + 1) % 65536) (lines ++ [line]) =
      batchParas ((k + 1) % 65536) lines ++ [linePara (lines.length + 1) line] := by
    simp [batchParas, List.mapIdx_append]
  simp only [setPara, batchStruct, hm, hm', hparas]
  rw [if_pos (by simp [hlen]), List.set_append_right _ _ (by simp [hlen]), List.length_map, hlen, Nat.sub_self,
    List.replicate_succ, List.set_cons_zero, List.map_append, List.append_assoc]
  rfl

theorem addLine_some {s : St} {f f' : ServerFrameStruct} {line : List UInt8} (hf : s.server_frame_struct = some f)
    (hp : setPara f s.i (linePara s.i line) = some f') : addLine line s = some (
      if s.i + 1 = EVENT_NUM_OF_BATCH + 1 then
        { s with i := 0, server_frame_struct := none, outcomes := s.outcomes ++ [.converted f'] }
      else { s with i := s.i + 1, server_frame_struct := some f' }) := by
  simp only [addLine, hf, Option.bind_some, hp, Option.map_some]

/-- **One line.** A batch it fills is sent, and the next one is opened when the loop goes on. -/
theorem addLine_opened (files : List Entry) {b : Batching.St (List UInt8)} (h : b.filling.length < EVENT_NUM_OF_BATCH)
    (line : List UInt8) : ∃ s, addLine line (opened env q files b) = some s ∧
      openBatch env q s = opened env q files (push EVENT_NUM_OF_BATCH b line) := by
  refine ⟨_, addLine_some rfl (setPara_batch env q b.done.length h line), ?_⟩
  by_cases hlast : b.filling.length + 1 = EVENT_NUM_OF_BATCH
  · have hi : (opened env q files b).i + 1 = EVENT_NUM_OF_BATCH + 1 := congrArg (· + 1) hlast
    have hfull : batchStruct env q b.done.length (b.filling ++ [line]) =
        sentStruct env q b.done.length (b.filling ++ [line]) := by
      simp only [sentStruct, List.length_append, List.length_singleton, hlast]
      rfl
    rw [if_pos hi, push, if_pos hlast, hfull]
    refine (congrArg (openBatch env q) ?_).trans (openBatch_idle env q files rfl)
    simp only [idle, opened, sentAll_concat, List.length_append, List.length_singleton]
  · have hi : (opened env q files b).i + 1 ≠ EVENT_NUM_OF_BATCH + 1 := fun h => hlast (Nat.succ.inj h)
    rw [if_neg hi, push, if_neg hlast]
    refine (congrArg (openBatch env q) ?_).trans (openBatch_opened env q files _)
    simp only [opened, List.length_append, List.length_singleton]

/-! ## Files -/

/-- **The loop at `ANALYSIS_LOOP`** puts the lines of the buffer into batches, and leaves what comes after them. -/
theorem analysisLoop_eq (files : List Entry) (n : ℕ) : ∀ (s : St) (read_buf : List UInt8) (b : Batching.St (List UInt8)),
    openBatch env q s = opened env q files b → b.filling.length < EVENT_NUM_OF_BATCH → read_buf.length < n →
      analysisLoop env q n s read_buf =
        some (opened env q files (pushAll EVENT_NUM_OF_BATCH b (lineCutter.drain read_buf).1),
          (lineCutter.drain read_buf).2) := by
  induction n with
  | zero =>
    intro s read_buf b _ _ hn
    exact absurd hn (Nat.not_lt_zero _)
  | succ n ih =>
    intro s read_buf b hs hroom hn
    simp only [analysisLoop, hs]
    by_cases hend : myStrstr read_buf crlf read_buf.length 2 ≠ 0xFFFF
    · have hcut : lineCutter.cut read_buf = some (read_buf.take (myStrstr read_buf crlf read_buf.length 2),
          read_buf.drop (myStrstr read_buf crlf read_buf.length 2 + 2)) := if_pos hend
      have hshorter := lineCutter.shorter _ _ _ hcut
      obtain ⟨s', hadd, hs'⟩ := addLine_opened env q files hroom (read_buf.take (myStrstr read_buf crlf read_buf.length 2))
      have hmore : read_buf.length > myStrstr read_buf crlf read_buf.length 2 := by
        have hcrlf : crlf.length = 2 := rfl
        have hfound := congrArg List.length (cutLine_some hcut).1
        simp only [List.length_append, hcrlf, List.length_take, List.length_drop] at hfound
        omega
      rw [if_pos hend, hadd, Option.bind_some, if_pos hmore, ih s' _ _ hs' (room_push hroom _) (by omega),
        lineCutter.drain_some hcut, pushAll_cons]
    · have hcut : lineCutter.cut read_buf = none := if_neg hend
      rw [if_neg hend, lineCutter.drain_none hcut, pushAll_nil]

/-- **The loop of `f_read`** puts the lines of a file into batches, wherever the chunks cut it. -/
theorem readLoop_eq (files : List Entry) (n : ℕ) : ∀ (s : St) (read_buf content : List UInt8)
    (b : Batching.St (List UInt8)), openBatch env q s = opened env q files b → b.filling.length < EVENT_NUM_OF_BATCH →
      lineCutter.cut read_buf = none → (∀ k, (lineCutter.drain (read_buf ++ content.take k)).2.length ≤ 512) →
      content.length / 512 < n →
      readLoop env q n s read_buf content =
        some (opened env q files (pushAll EVENT_NUM_OF_BATCH b (lineCutter.drain (read_buf ++ content)).1)) := by
  induction n with
  | zero =>
    intro s read_buf content b _ _ _ _ hn
    exact absurd hn (Nat.not_lt_zero _)
  | succ n ih =>
    intro s read_buf content b hs hroom hcut hshort hn
    have hbuf : read_buf.length ≤ 512 := by simpa [lineCutter.drain_none hcut] using hshort 0
    have hchunk : (content.take 512).length ≤ 512 := List.length_take_le 512 content
    simp only [readLoop]
    rw [if_pos (by omega), analysisLoop_eq env q files _ s _ b hs hroom (Nat.lt_succ_self _), Option.bind_some]
    by_cases hlast : (content.take 512).length < 512
    · have hall : content.take 512 = content := by
        apply List.take_of_length_le
        rw [List.length_take] at hlast
        omega
      rw [if_pos hlast, hall]
    · have hwhole : 512 ≤ content.length := by
        rw [List.length_take] at hlast
        omega
      have hsplit : read_buf ++ content = read_buf ++ content.take 512 ++ content.drop 512 := by
        rw [List.append_assoc, List.take_append_drop]
      have hrest : (content.drop 512).length / 512 < n := by
        rw [List.length_drop]
        omega
      have hshort' : ∀ k, (lineCutter.drain
          ((lineCutter.drain (read_buf ++ content.take 512)).2 ++ (content.drop 512).take k)).2.length ≤ 512 := by
        intro k
        have hk := hshort (512 + k)
        rw [List.take_add, ← List.append_assoc, lineCutter.drain_append] at hk
        exact hk
      rw [if_neg hlast, ih _ _ _ _ (openBatch_opened env q files _) (room_pushAll hroom _) (lineCutter.cut_leftover _)
        hshort' hrest, hsplit, lineCutter.drain_append (read_buf ++ content.take 512), pushAll_append]

/-- one file of the query's dates -/
theorem uploadEntry_selected {s : St} {e : Entry} {b : Batching.St (List UInt8)} {lines : List (List UInt8)}
    (hs : openBatch env q s = opened env q s.files b) (hroom : b.filling.length < EVENT_NUM_OF_BATCH)
    (he : Selected env q e) (hstores : Stores e lines) :
    uploadEntry env q s e = some (opened env q (s.files ++ [e]) (pushAll EVENT_NUM_OF_BATCH b lines)) := by
  have hshort : ∀ k, (lineCutter.drain ([] ++ e.content.take k)).2.length ≤ 512 := by
    intro k
    have hsplit : lines.flatMap storeLine = e.content.take k ++ e.content.drop k := by
      rw [List.take_append_drop, hstores.content]
    exact (leftover_short hstores.line hsplit).trans (by omega)
  rw [uploadEntry, if_neg he.1, if_pos he.2,
    readLoop_eq env q s.files _ s [] e.content b hs hroom rfl hshort (Nat.lt_succ_self _), List.nil_append,
    hstores.content, lineCutter.drain_encoded encodes_lines lines hstores.line]
  rfl

theorem uploadEntry_other (s : St) {e : Entry} (he : ¬ Selected env q e) :
    uploadEntry env q s e = some { s with files := s.files ++ if Stale env e.fname then [] else [e] } := by
  unfold uploadEntry
  by_cases hstale : Stale env e.fname
  · rw [if_pos hstale, if_pos hstale, List.append_nil]
  · rw [if_neg hstale, if_neg fun h => he ⟨hstale, h⟩, if_neg hstale]

/-! ## The directory -/

/-- the lines of the files that are selected -/
def selectedLines (stored : Entry → List (List UInt8)) (es : List Entry) : List (List UInt8) :=
  (es.filter (Selected env q ·)).flatMap stored

/-- the files that stay -/
def kept (es : List Entry) : List Entry := es.filter (¬ Stale env ·.fname)

variable {stored : Entry → List (List UInt8)}

theorem kept_cons (e : Entry) (es : List Entry) :
    kept env (e :: es) = (if Stale env e.fname then [] else [e]) ++ kept env es := by
  rw [kept, List.filter_cons]
  by_cases hstale : Stale env e.fname
  · simp [hstale, kept]
  · simp [hstale, kept]

theorem selectedLines_cons (e : Entry) (es : List Entry) : selectedLines env q stored (e :: es) =
    (if Selected env q e then stored e else []) ++ selectedLines env q stored es := by
  rw [selectedLines, List.filter_cons]
  by_cases he : Selected env q e
  · simp [he, selectedLines]
  · simp [he, selectedLines]

theorem selectedLines_eq_nil {es : List Entry} (h : ∀ e ∈ es, ¬ Selected env q e) : selectedLines env q stored es = [] := by
  rw [selectedLines, List.filter_eq_nil_iff.2 (by simpa using h)]
  rfl

/-- **The files one after the other.** Nothing happens until there is a file to read; from then on a batch is open. -/
theorem upload_run (es : List Entry) : ∀ (s : St) (b : Batching.St (List UInt8)),
    openBatch env q s = opened env q s.files b → b.filling.length < EVENT_NUM_OF_BATCH →
    (∀ e ∈ es, Selected env q e → Stores e (stored e)) →
      ∃ s', es.foldlM (uploadEntry env q) s = some s' ∧
        ((s' = { s with files := s.files ++ kept env es } ∧ ∀ e ∈ es, ¬ Selected env q e) ∨
          s' = opened env q (s.files ++ kept env es)
            (pushAll EVENT_NUM_OF_BATCH b (selectedLines env q stored es))) := by
  induction es with
  | nil =>
    intro s b _ _ _
    exact ⟨s, rfl, Or.inl ⟨by simp [kept], by simp⟩⟩
  | cons e es ih =>
    intro s b hs hroom hstores
    have hmore : ∀ d ∈ es, Selected env q d → Stores d (stored d) := fun d hd => hstores d (List.mem_cons_of_mem e hd)
    rw [kept_cons, selectedLines_cons, ← List.append_assoc]
    by_cases he : Selected env q e
    · -- the first file to read opens a batch, the next ones go on with it
      have hentry := uploadEntry_selected env q hs hroom he (hstores e List.mem_cons_self he)
      obtain ⟨s', hrun, hs'⟩ := ih _ _ (openBatch_opened env q _ _) (room_pushAll hroom (stored e)) hmore
      refine ⟨s', by rw [List.foldlM_cons, hentry]; exact hrun, Or.inr ?_⟩
      rw [if_neg he.1, if_pos he, pushAll_append]
      rcases hs' with ⟨hs', hnone⟩ | hs'
      · rw [hs', selectedLines_eq_nil env q hnone, pushAll_nil]
        rfl
      · exact hs'
    · have hs1 : openBatch env q { s with files := s.files ++ if Stale env e.fname then [] else [e] } =
          opened env q (s.files ++ if Stale env e.fname then [] else [e]) b := by
        rw [openBatch_files, hs]
        rfl
      obtain ⟨s', hrun, hs'⟩ := ih _ _ hs1 hroom hmore
      refine ⟨s', by rw [List.foldlM_cons, uploadEntry_other env q s he]; exact hrun, ?_⟩
      rw [if_neg he, List.nil_append]
      rcases hs' with ⟨hs', hnone⟩ | hs'
      · exact Or.inl ⟨hs', List.forall_mem_cons.2 ⟨he, hnone⟩⟩
      · exact Or.inr hs'

/-! ## The end of the directory -/

/-- what became of the structures when the lines have been put into batches -/
def outcomesOf (b : Batching.St (List UInt8)) : List Outcome :=
  sentAll env q b.done ++
    [if b.filling = [] then .deleted (batchStruct env q b.done.length [])
     else .converted (sentStruct env q b.done.length b.filling)]

theorem finish_opened (files : List Entry) (b : Batching.St (List UInt8)) :
    (finish (opened env q files b)).outcomes = outcomesOf env q b := by
  unfold outcomesOf finish
  by_cases hnil : b.filling = []
  · have hi : (opened env q files b).i ≤ 1 := by simp [opened, hnil]
    rw [if_pos hnil]
    simp only [opened, Option.elim_some, hnil]
    rfl
  · have hpos : 0 < b.filling.length := List.length_pos_iff.2 hnil
    have hi : ¬ b.filling.length + 1 ≤ 1 := by omega
    rw [if_neg hnil]
    simp only [opened, Option.elim_some, hi, if_false]
    rfl

/-- the structures sent are those of the batches -/
theorem sent_outcomesOf (b : Batching.St (List UInt8)) :
    (outcomesOf env q b).filterMap Outcome.sent = (flush b).mapIdx (sentStruct env q) := by
  have hall : ∀ bs : List (List (List UInt8)), (sentAll env q bs).filterMap Outcome.sent = bs.mapIdx (sentStruct env q) := by
    intro bs
    induction bs using List.reverseRecOn with
    | nil => rfl
    | append_singleton bs b ih =>
      rw [sentAll_concat, List.filterMap_append, ih, List.mapIdx_concat]
      rfl
  unfold outcomesOf flush
  split_ifs with hnil
  · rw [List.filterMap_append, hall]
    exact List.append_nil _
  · rw [List.filterMap_append, hall, List.mapIdx_concat]
    rfl

theorem paraAt_batchStruct (k : ℕ) (lines : List (List UInt8)) (i : ℕ) :
    (batchStruct env q k lines).paraAt i = (batchParas ((k + 1) % 65536) lines)[i]? := by
  have hlen := length_batchParas ((k + 1) % 65536) lines
  rw [ServerFrameStruct.paraAt, batchStruct]
  rcases Nat.lt_or_ge i (batchParas ((k + 1) % 65536) lines).length with hi | hi
  · rw [List.getElem?_append_left (by simpa using hi), List.getElem?_map, List.getElem?_eq_getElem hi]
    rfl
  · rw [List.getElem?_append_right (by simpa using hi), List.getElem?_eq_none hi, List.getElem?_replicate]
    split_ifs <;> rfl

/-- a structure carries its batch, under a number that a `u16` holds -/
theorem carries_sentStruct (k : ℕ) (lines : List (List UInt8)) :
    Carries ((k + 1) % 65536) lines (sentStruct env q k lines) := ⟨rfl, paraAt_batchStruct env q k lines⟩

/-- a batch opened and not filled has one entry stored of six -/
theorem not_initialised_empty (k : ℕ) : ¬ Initialised (batchStruct env q k []) := by
  intro h
  have h1 := (h 1).2 (show 1 < EVENT_NUM_OF_BATCH + 1 by decide)
  rw [paraAt_batchStruct] at h1
  exact absurd h1 (by simp [batchParas])

/-- the numbers come back to 0 -/
theorem patchPara_wraps : patchPara 0 ≠ patchPara 65536 := by
  intro h
  have hlen := congrArg Parameter.len h
  simp [patchPara, sprintfD, decimal] at hlen

/-- **What is left at the end decides.** -/
theorem complete_outcomesOf_iff {b : Batching.St (List UInt8)} {lines : List (List UInt8)}
    (h : Inv EVENT_NUM_OF_BATCH b lines) :
    Complete lines (outcomesOf env q b) ↔ b.filling ≠ [] ∧ (flush b).length ≤ 65535 := by
  constructor
  · rintro ⟨⟨bs, hbatches, hlen, hcarries⟩, hinit⟩
    rw [sent_outcomesOf, List.length_mapIdx] at hlen
    constructor
    · intro hnil
      apply not_initialised_empty env q b.done.length
      have hlast := hinit _ (List.mem_append_right _ List.mem_cons_self)
      rw [if_pos hnil] at hlast
      exact hlast
    · by_contra hmany
      have hb : 65535 < bs.length := by omega
      have hf : 65535 < (flush b).length := by omega
      have hlate := hcarries 65535 bs[65535] (sentStruct env q 65535 (flush b)[65535])
        (List.getElem?_eq_getElem hb) (by
          rw [sent_outcomesOf, List.getElem?_mapIdx, List.getElem?_eq_getElem hf]
          rfl)
      have hzero := (carries_sentStruct env q 65535 (flush b)[65535]).para 0
      rw [hlate.para 0] at hzero
      exact patchPara_wraps (Option.some.inj hzero).symm
  · rintro ⟨hnil, hfew⟩
    refine ⟨⟨flush b, batches_flush h, by rw [sent_outcomesOf, List.length_mapIdx], ?_⟩, ?_⟩
    · intro k c s hc hs
      have hk : k < (flush b).length := (List.getElem?_eq_some_iff.1 hc).1
      rw [sent_outcomesOf, List.getElem?_mapIdx, hc] at hs
      rw [← Option.some.inj hs]
      have hcarries := carries_sentStruct env q k c
      rwa [Nat.mod_eq_of_lt (by omega)] at hcarries
    · intro o ho
      rw [outcomesOf, if_neg hnil] at ho
      rcases List.mem_append.1 ho with ho | ho
      · obtain ⟨k, hk, rfl⟩ := List.mem_mapIdx.1 ho
        exact (carries_sentStruct env q k _).initialised
      · rw [List.mem_singleton.1 ho]
        exact (carries_sentStruct env q b.done.length b.filling).initialised

/-! ## The query -/

/-- the sum of the numbers in the names, a `u16` -/
def recorded (es : List Entry) : ℕ := ((es.filter (Selected env q ·)).map fun e => recordNum e.fname).sum % 65536

theorem countEntries (es : List Entry) : ∀ (n : ℕ) (files : List Entry), n < 65536 →
    es.foldl (countEntry env q) (n, files) =
      ((n + ((es.filter (Selected env q ·)).map fun e => recordNum e.fname).sum) % 65536, files ++ kept env es) := by
  induction es with
  | nil =>
    intro n files hn
    simp [kept, Nat.mod_eq_of_lt hn]
  | cons e es ih =>
    intro n files hn
    rw [List.foldl_cons, countEntry]
    by_cases hstale : Stale env e.fname
    · have he : ¬ Selected env q e := fun h => h.1 hstale
      rw [if_pos hstale, ih n files hn]
      simp [he, hstale, kept]
    · by_cases hrange : InRange env q e.fname
      · have he : Selected env q e := ⟨hstale, hrange⟩
        rw [if_neg hstale, if_pos hrange, ih _ _ (Nat.mod_lt _ (by omega))]
        simp [he, hstale, kept, Nat.add_assoc]
      · have he : ¬ Selected env q e := fun h => hrange h.2
        rw [if_neg hstale, if_neg hrange, ih n _ hn]
        simp [he, hstale, kept]

/-- the count, for a type that the upload knows too -/
theorem getAlarmEventNum_eq (hpath : numBasePath q = basePath q) (disk : String → List Entry) :
    getAlarmEventNumFromDateSegment env q disk =
      (recorded env q (disk (basePath q)), Function.update disk (basePath q) (kept env (disk (basePath q)))) := by
  have hentries := countEntries env q (disk (basePath q)) 0 [] (by omega)
  rw [Nat.zero_add, List.nil_append] at hentries
  simp only [getAlarmEventNumFromDateSegment, hpath, hentries]
  rfl

/-- the files that the count deletes are not selected -/
theorem filter_kept (es : List Entry) : (kept env es).filter (Selected env q ·) = es.filter (Selected env q ·) := by
  rw [kept, List.filter_filter]
  apply List.filter_congr
  intro e _
  by_cases hstale : Stale env e.fname
  · simp [Selected, hstale]
  · simp [hstale]

theorem selectedLines_kept (es : List Entry) :
    selectedLines env q stored (kept env es) = selectedLines env q stored es := by
  rw [selectedLines, filter_kept, selectedLines]

/-- what is recorded is recorded in a file that is still there -/
theorem exists_selected {es : List Entry} (h : recorded env q es ≠ 0) : ∃ e ∈ kept env es, Selected env q e := by
  by_contra hnone
  push Not at hnone
  apply h
  rw [recorded, ← filter_kept, List.filter_eq_nil_iff.2 (by simpa using hnone)]
  rfl

/-- **The upload**, when it is queued: where there is a file to read it leaves what the batches leave. -/
theorem upload_eq (disk : String → List Entry)
    (h : ∀ e ∈ disk (basePath q), Selected env q e → Stores e (stored e))
    (hsome : ∃ e ∈ disk (basePath q), Selected env q e) :
    ∃ disk', getAlarmEventContentFromDateSegmentAndSendToServer env q disk = some
      (outcomesOf env q (pushAll EVENT_NUM_OF_BATCH start (selectedLines env q stored (disk (basePath q)))), disk') := by
  have hinitial : openBatch env q initial = opened env q initial.files start :=
    openBatch_idle env q [] (b := start) rfl
  obtain ⟨s, hrun, hs⟩ := upload_run env q (disk (basePath q)) initial start hinitial (by decide) h
  rw [getAlarmEventContentFromDateSegmentAndSendToServer, hrun]
  rcases hs with ⟨-, hnone⟩ | rfl
  · obtain ⟨e, he, hsel⟩ := hsome
    exact absurd hsel (hnone e he)
  · rw [Option.map_some, finish_opened]
    exact ⟨_, rfl⟩

theorem upload_iff (disk : String → List Entry)
    (h : ∀ e ∈ disk (basePath q), Selected env q e → Stores e (stored e))
    (hsome : ∃ e ∈ disk (basePath q), Selected env q e) {lines : List (List UInt8)}
    (hlines : selectedLines env q stored (disk (basePath q)) = lines) :
    Uploads lines (getAlarmEventContentFromDateSegmentAndSendToServer env q disk) ↔
      lines.length % EVENT_NUM_OF_BATCH ≠ 0 ∧ lines.length ≤ EVENT_NUM_OF_BATCH * 65535 := by
  obtain ⟨disk', hupload⟩ := upload_eq env q disk h hsome
  have hinv : Inv EVENT_NUM_OF_BATCH (pushAll EVENT_NUM_OF_BATCH start lines) lines := inv_run (by decide) lines
  calc Uploads lines (getAlarmEventContentFromDateSegmentAndSendToServer env q disk)
      ↔ Complete lines (outcomesOf env q (pushAll EVENT_NUM_OF_BATCH start lines)) := by
        rw [hupload, uploads_some, hlines]
    _ ↔ (pushAll EVENT_NUM_OF_BATCH start lines).filling ≠ [] ∧
          (flush (pushAll EVENT_NUM_OF_BATCH start lines)).length ≤ 65535 := complete_outcomesOf_iff env q hinv
    _ ↔ lines.length % EVENT_NUM_OF_BATCH ≠ 0 ∧ lines.length ≤ EVENT_NUM_OF_BATCH * 65535 :=
        and_congr (filling_eq_nil_iff hinv).not (length_flush_le_iff hinv 65535)

end States

/-- **The history query** is complete exactly when the names of the selected files record something, their lines do not
fill the last batch and the patch number does not wrap; or when there is no line at all to send. -/
theorem alarmHistoryQuery_iff (env : Env) (device_type : UInt8) (start_date end_date : ℕ → UInt8)
    (disk : String → List Entry) (stored : Entry → List (List UInt8)) :
    let q := alarmEvents device_type start_date end_date
    let files := disk (basePath q)
    let lines := selectedLines env q stored files
    (∀ e ∈ files, Selected env q e → Stores e (stored e)) →
      (Uploads lines (alarmHistoryQuery env device_type start_date end_date disk) ↔
        if recorded env q files = 0 then lines = []
        else lines.length % EVENT_NUM_OF_BATCH ≠ 0 ∧ lines.length ≤ EVENT_NUM_OF_BATCH * 65535) := by
  intro q files lines h
  have hquery : alarmHistoryQuery env device_type start_date end_date disk =
      if recorded env q files = 0 then some ([], Function.update disk (basePath q) (kept env files))
      else getAlarmEventContentFromDateSegmentAndSendToServer env q
        (Function.update disk (basePath q) (kept env files)) := by
    simp only [alarmHistoryQuery]
    rw [getAlarmEventNum_eq env q rfl disk]
  rw [hquery]
  split_ifs with hnum
  · exact uploads_some.trans complete_nil_iff
  · apply upload_iff
    · rw [Function.update_self]
      exact fun e he => h e (List.mem_of_mem_filter he)
    · rw [Function.update_self]
      exact exists_selected env q hnum
    · rw [Function.update_self]
      exact selectedLines_kept env q files

/-! ## A day -/

/-- 15 June 2020, and no other file date -/
def june15 (k : ℕ) : UInt8 := ([0x32, 0x30, 0x32, 0x30, 0x30, 0x36, 0x31, 0x35] : List UInt8).getD k 0

/-- `nn200615.A`, for a number below 10 -/
def dayFile (n : UInt8) (lines : List (List UInt8)) : Entry where
  fname k := ([0x30, 0x30 + n, 0x32, 0x30, 0x30, 0x36, 0x31, 0x35, 0x2E, 0x41] : List UInt8).getD k 0
  content := lines.flatMap storeLine
  named := show (0x30 : UInt8) ≠ 0 by decide

/-- the day, with the structures as `InitServerFrameStruct` leaves them -/
def dayEnv : Env where
  w_year := 2020
  w_month := 6
  w_date := 15
  init k := { ServerFrameStruct.zero with
    connection_mode := .mode4G, start := 0x02, msg_type := 0x03, serial_num := UInt32.ofNat k, msg_len := 10, stop := 0x03 }
  stack _ := 0

/-- `"A0|"` and a digit -/
def dayLine (n : UInt8) : List UInt8 := [0x41, 0x30, 0x7C, 0x30 + n]

def dayQuery : EventHistory := alarmEvents CONCENTRATOR june15 june15

/-- the lines of a file in which there are `n` -/
def dayLines (n : ℕ) : List (List UInt8) := (List.range n).map fun k => dayLine (UInt8.ofNat k)

/-- one line is uploaded -/
theorem one_line : Uploads (selectedLines dayEnv dayQuery (fun _ => dayLines 1) [dayFile 1 (dayLines 1)])
    (alarmHistoryQuery dayEnv CONCENTRATOR june15 june15 (fun _ => [dayFile 1 (dayLines 1)])) := by
  refine (alarmHistoryQuery_iff dayEnv CONCENTRATOR june15 june15 (fun _ => [dayFile 1 (dayLines 1)])
    (fun _ => dayLines 1) ?_).2 ?_
  · intro e he _
    rw [List.mem_singleton.1 he]
    refine ⟨rfl, ?_⟩
    intro line hline
    rw [List.mem_singleton.1 hline]
    exact ⟨by decide, by decide⟩
  · decide +kernel

/-- **Five lines.** They are sent, and the batch opened after them is deleted with the values of five parameters that
were never stored. -/
theorem fifth_line_deletes : Stores (dayFile 5 (dayLines 5)) (dayLines 5) ∧
    ¬ Uploads (selectedLines dayEnv dayQuery (fun _ => dayLines 5) [dayFile 5 (dayLines 5)])
      (alarmHistoryQuery dayEnv CONCENTRATOR june15 june15 (fun _ => [dayFile 5 (dayLines 5)])) := by
  constructor
  · refine ⟨rfl, ?_⟩
    intro line hline
    obtain ⟨k, hk, rfl⟩ := List.mem_map.1 hline
    rw [List.mem_range] at hk
    interval_cases k <;> exact ⟨by decide, by decide⟩
  · rintro ⟨outcomes, disk', hout, hcomplete⟩
    have hrun : (alarmHistoryQuery dayEnv CONCENTRATOR june15 june15 (fun _ => [dayFile 5 (dayLines 5)])).map
        (fun r => r.1.map fun o => (o.server_frame_struct.para_num, (o.server_frame_struct.paraAt 1).isSome)) =
          some [(6, true), (6, false)] := by
      decide +kernel
    rw [hout, Option.map_some] at hrun
    have hlast : (6, false) ∈ outcomes.map fun o =>
        (o.server_frame_struct.para_num, (o.server_frame_struct.paraAt 1).isSome) := by
      rw [Option.some.inj hrun]
      simp
    obtain ⟨o, ho, hp⟩ := List.mem_map.1 hlast
    obtain ⟨hnum, hentry⟩ := Prod.mk.inj hp
    have hstored := (hcomplete.initialised o ho 1).2 (by omega)
    rw [hentry] at hstored
    exact absurd hstored (by decide)

end DataConcentrator.History
