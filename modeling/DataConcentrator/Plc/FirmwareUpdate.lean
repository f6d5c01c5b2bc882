/-
Firmware dissemination: the task `0x01F3` that `LampStartFirmWareUpdate` builds for a downloaded lamp image.

- `firmwareTask_of_start`: what a message makes of the task;
- `downloaded_chunks`: how many chunks of 128 bytes the programmed image has, and where they are in the flash;
- `firmwareUpdate_iff`: when every chunk reaches every addressed device exactly once, numbered and counted right;
- `second_chunk_unsent`: one device, two chunks, and every counter right.

The answer to the server is left out, but for its `state`.
-/
import DataConcentrator.Firmware.Safety
import DataConcentrator.Plc.Run

namespace DataConcentrator.Plc

open Protocol (ServerFrameStruct Parameter)

/-! ## `LampStartFirmWareUpdate` -/

def FIRMWARE_DOWNLOADED_SUCCESS : UInt8 := 11

/-- what it reads of `FrameWareState`, the record of the concentrator's own image, and `LampFrameWareState.state` -/
structure FirmwareRecords where
  md5 : List UInt8
  total_bags : UInt16
  lamp_state : UInt8

/-- the loop over the parameters: what they filled, or the `state` it leaves at `GET_OUT` with. The MD5 is taken from
the first parameter, whichever has the type `0x4003` -/
def startLoop (fw : FirmwareRecords) (s : ServerFrameStruct) :
    List ℕ → SyncState → List UInt8 → Option (Except ℕ SyncState)
  | [], acc, _ => some (.ok acc)
  | j :: js, acc, md5 => (s.paraAt j).bind fun p =>
    if p.type = 0x4003 then
      (s.paraAt 0).bind fun first => (Firmware.copyMd5 md5 first).bind fun md5 =>
        if (searchStr (cstr md5) fw.md5).isNone then some (.error 2)
        else if fw.lamp_state ≠ FIRMWARE_DOWNLOADED_SUCCESS then some (.error 3)
        else startLoop fw s js acc md5
    else (acc.addressing p).bind fun acc => startLoop fw s js acc md5

/-- the counters, for `k` groups or devices -/
def startTask (st : Store) (fw : FirmwareRecords) (k : ℕ) (task : Task) : Task :=
  let task := { task with
    notify_enable := 1
    cmd_code := 0x01F3
    execute_total_num := fw.total_bags.toNat }
  match task.broadcast_type with
  | 0 => { task with dev_num := st.lampNumList.number }
  | 1 => { task with
      group_num := k
      dev_num := (List.range k).foldl
        (fun n m => (n + st.lampGroupListNum (task.group_dev_id m).toNat) % 65536) task.dev_num }
  | 2 => { task with
      execute_type := 1
      dev_num := k
      execute_total_num := k * fw.total_bags.toNat % 65536 }
  | _ => task

/-- the `state` that is answered and the task that is queued; `none` when a text, an address or the MD5 is stored
outside its array -/
def lampStartFirmWareUpdate (st : Store) (fw : FirmwareRecords) (s : ServerFrameStruct) : Option (ℕ × Option Task) :=
  (startLoop fw s (List.range s.para_num) ⟨.zero, 0, 0, 0⟩ (List.replicate 33 0)).map fun r =>
    match r with
    | .error state => (state, none)
    | .ok r => (0, some (startTask st fw r.k r.task))

/-! ### The task it builds -/

/-- a list of `k` addresses, with zeros behind them -/
structure Listed (r : SyncState) : Prop where
  addressed : Addressed r
  room : r.k ≤ MAX_LAMP_GROUP_NUM + 1
  zeros : ∀ i, r.k ≤ i → r.task.group_dev_id i = 0

theorem listed_push {s s' : SyncState} (hs : Listed s) (id : UInt32) (h : s.push id = some s') : Listed s' := by
  unfold SyncState.push at h
  split_ifs at h with hk
  obtain ⟨bt, ids, ht⟩ := hs.addressed
  cases h
  refine ⟨⟨bt, _, by rw [ht]⟩, hk, fun i hi => ?_⟩
  dsimp only at hi ⊢
  rw [if_neg (by omega)]
  exact hs.zeros i (by omega)

theorem listed_pushText (s : SyncState) (text : List UInt8) (s' : SyncState) (hs : Listed s)
    (h : s.pushText text = some s') : Listed s' := by
  have hadd : ∀ add, Listed { s with add := add } := fun add => ⟨hs.addressed, hs.room, hs.zeros⟩
  simp only [SyncState.pushText] at h
  split_ifs at h
  · exact listed_push (hadd _) _ h
  · exact listed_push (hadd _) _ h
  · exact listed_push hs _ h

theorem listed_addressing (s : SyncState) (p : Parameter) (s' : SyncState) (hs : Listed s)
    (h : s.addressing p = some s') : Listed s' := by
  simp only [SyncState.addressing] at h
  split_ifs at h
  · obtain ⟨bt, ids, ht⟩ := hs.addressed
    cases h
    exact ⟨⟨_, ids, by rw [ht]⟩, hs.room, hs.zeros⟩
  · exact CLoop.foldlM_inv listed_pushText _ s s' hs h
  · cases h
    exact hs

theorem listed_startLoop (fw : FirmwareRecords) (s : ServerFrameStruct) (js : List ℕ) :
    ∀ acc md5 r, Listed acc → startLoop fw s js acc md5 = some (.ok r) → Listed r := by
  induction js with
  | nil =>
    intro acc md5 r hacc h
    cases h
    exact hacc
  | cons j js ih =>
    intro acc md5 r hacc h
    obtain ⟨p, _, hp⟩ := Option.bind_eq_some_iff.1 h
    by_cases h3 : p.type = 0x4003
    · rw [if_pos h3] at hp
      obtain ⟨first, _, hfirst⟩ := Option.bind_eq_some_iff.1 hp
      obtain ⟨md5', _, hmd5⟩ := Option.bind_eq_some_iff.1 hfirst
      split_ifs at hmd5 with hfound hstate
      · simp at hmd5
      · simp at hmd5
      · exact ih _ _ _ hacc hmd5
    · rw [if_neg h3] at hp
      obtain ⟨acc', hacc', hgo⟩ := Option.bind_eq_some_iff.1 hp
      exact ih _ _ _ (listed_addressing acc p acc' hacc hacc') hgo

/-- a fresh task of `total_bags` rounds -/
structure FirmwareTask (total_bags : ℕ) (task : Task) : Prop where
  code : task.cmd_code = 0x01F3
  state : task.state = .start
  executed_index : task.executed_index = 0
  executed_num : task.executed_num = 0
  shared : task.broadcast_type ≤ 1 → task.execute_type = 0 ∧ task.execute_total_num = total_bags
  unicast : task.broadcast_type = 2 → task.execute_total_num = task.dev_num * total_bags % 65536 ∧
    task.dev_num ≤ MAX_LAMP_GROUP_NUM + 1 ∧ task.group_dev_id task.dev_num = 0

theorem firmwareTask_of_start {st : Store} {fw : FirmwareRecords} {s : ServerFrameStruct} {state : ℕ} {task : Task}
    (h : lampStartFirmWareUpdate st fw s = some (state, some task)) : FirmwareTask fw.total_bags.toNat task := by
  obtain ⟨r, hr, h⟩ := Option.map_eq_some_iff.1 h
  cases r with
  | error state => cases h
  | ok r =>
    have hlist := listed_startLoop fw s _ _ _ r ⟨⟨0, fun _ => 0, rfl⟩, Nat.zero_le _, fun _ _ => rfl⟩ hr
    obtain ⟨bt, ids, ht⟩ := hlist.addressed
    have hzero := hlist.zeros r.k le_rfl
    cases h
    rw [ht] at hzero ⊢
    unfold startTask
    dsimp only
    split
    · exact ⟨rfl, rfl, rfl, rfl, fun _ => ⟨rfl, rfl⟩, fun h2 => absurd h2 (by simp_all)⟩
    · exact ⟨rfl, rfl, rfl, rfl, fun _ => ⟨rfl, rfl⟩, fun h2 => absurd h2 (by simp_all)⟩
    · exact ⟨rfl, rfl, rfl, rfl, fun h1 => absurd h1 (by simp_all), fun _ => ⟨rfl, hlist.room, hzero⟩⟩
    · exact ⟨rfl, rfl, rfl, rfl, fun _ => ⟨rfl, rfl⟩, fun h2 => absurd h2 ‹_›⟩

/-! ## The image -/

/-- the lamp record and the flash hold what the download `d` left -/
structure Downloaded (st : Store) (d : Firmware.St) : Prop where
  complete : Firmware.Complete Firmware.lamp d
  bags : d.fw.total_bags = Firmware.bagCount d.fw.total_size
  least : Firmware.FIRMWARE_BAG_SIZE ≤ d.fw.total_size
  most : d.fw.total_size ≤ Firmware.lamp.firmwareSize
  size : st.total_size = d.fw.total_size
  flash : ∀ i, st.flash i = d.flash (Firmware.lamp.base + i)

/-- how many chunks it takes to cover an image -/
def chunkCount (image : List UInt8) : ℕ :=
  (image.length + (LAMP_FIRMWARE_BAG_SEND_SIZE - 1)) / LAMP_FIRMWARE_BAG_SEND_SIZE

/-- chunk `i` of an image, from 0 on -/
def chunkOf (image : List UInt8) (i : ℕ) : List UInt8 :=
  (image.drop (LAMP_FIRMWARE_BAG_SEND_SIZE * i)).take LAMP_FIRMWARE_BAG_SEND_SIZE

/-- it is the least number of chunks with room for the image -/
theorem chunkCount_le_iff (image : List UInt8) (n : ℕ) :
    chunkCount image ≤ n ↔ image.length ≤ LAMP_FIRMWARE_BAG_SEND_SIZE * n := by
  unfold chunkCount LAMP_FIRMWARE_BAG_SEND_SIZE
  omega

/-- a chunk with its number, their number, its length and its CRC16 -/
def chunkData (number total : ℕ) (bytes : List UInt8) : List UInt8 :=
  putBe16 (UInt16.ofNat number) ++ putBe16 (UInt16.ofNat total) ++
    putBe16 (UInt16.ofNat LAMP_FIRMWARE_BAG_SEND_SIZE) ++ bytes ++ [(crc16 bytes).1, (crc16 bytes).2]

/-- the second field is the total -/
theorem total_of_chunkData {n n' total total' : ℕ} {bytes bytes' : List UInt8} (ht : total < 65536)
    (ht' : total' < 65536) (h : chunkData n total bytes = chunkData n' total' bytes') : total = total' := by
  have hfield : ∀ n total bytes, ((chunkData n total bytes).drop 2).take 2 = putBe16 (UInt16.ofNat total) :=
    fun _ _ _ => rfl
  have hput : putBe16 (UInt16.ofNat total) = putBe16 (UInt16.ofNat total') := by
    rw [← hfield n total bytes, h, hfield]
  have hword := putBe16_injective hput
  have hnat := congrArg UInt16.toNat hword
  rwa [UInt16.toNat_ofNat_of_lt' ht, UInt16.toNat_ofNat_of_lt' ht'] at hnat

/-- two chunks for each bag but the last, which carries the checksum only; each where the sender reads it -/
theorem downloaded_chunks {st : Store} {d : Firmware.St} (h : Downloaded st d) :
    chunkCount d.image = 2 * ((st.total_size - 1) / 258) ∧
      ∀ i < chunkCount d.image, chunkOf d.image i =
        (List.range LAMP_FIRMWARE_BAG_SEND_SIZE).map fun k => st.flash (LAMP_FIRMWARE_BAG_SEND_SIZE * i + k) := by
  have hread : d.image = ByteStore.read st.flash 0 (256 * (d.fw.total_bags - 1)) := by
    rw [← h.complete.stored]
    simp only [ByteStore.read, Nat.zero_add, h.flash]
    rfl
  have hlen : d.image.length = 256 * (d.fw.total_bags - 1) := by
    rw [hread, ByteStore.length_read]
  have hbags : d.fw.total_bags - 1 = (st.total_size - 1) / 258 := by
    have := h.least
    rw [h.bags, h.size, Firmware.bagCount]
    unfold Firmware.FIRMWARE_BAG_SIZE at this ⊢
    split_ifs <;> omega
  have hcount : chunkCount d.image = 2 * ((st.total_size - 1) / 258) := by
    rw [chunkCount, hlen, hbags]
    unfold LAMP_FIRMWARE_BAG_SEND_SIZE
    omega
  refine ⟨hcount, fun i hi => ?_⟩
  rw [hcount, ← hbags] at hi
  have hsplit : 256 * (d.fw.total_bags - 1) = 128 * i + (128 + (256 * (d.fw.total_bags - 1) - 128 * (i + 1))) := by
    omega
  rw [chunkOf, hread, hsplit, ByteStore.read_add, ByteStore.read_add]
  unfold LAMP_FIRMWARE_BAG_SEND_SIZE
  rw [List.drop_left' (ByteStore.length_read _ _ _), List.take_left' (ByteStore.length_read _ _ _), Nat.zero_add]
  rfl

/-! ## Frames -/

variable (st : Store) (add_index : ℕ)

/-- what a frame carries for the chunk at an index: the length of the frame, and its data with `total_size / 128` as
the number of chunks -/
def sentChunk (index : ℕ) : ℕ × Payload :=
  (136, .bytes (chunkData (index + 1) (st.total_size / LAMP_FIRMWARE_BAG_SEND_SIZE)
    ((List.range LAMP_FIRMWARE_BAG_SEND_SIZE).map fun k => st.flash (LAMP_FIRMWARE_BAG_SEND_SIZE * index + k))))

/-- `flash_read_index` -/
def flashReadIndex (task : Task) : ℕ :=
  if task.broadcast_type = 2 then task.executed_num / task.dev_num else task.executed_num

/-- a firmware task sends the chunk its counters give -/
theorem carries_firmware {P : Task → Prop} {data : Task → ℕ × Payload} (hc : ∀ t, P t → t.cmd_code = 0x01F3)
    (hdata : ∀ t, P t → data t = sentChunk st (flashReadIndex t)) : Carries st P data := by
  intro lamp_config stackMode add_index task frame hP hb
  have hcode := hc task hP
  rw [combine_plain st lamp_config stackMode add_index task frame hb (by rw [hcode]; decide) (by rw [hcode]; decide),
    userData, hcode, hdata task hP]
  rfl

/-- `total_bags` frames, one for each chunk from the first on -/
theorem shared_chunks {B : ℕ} (hB : B < 65536) {task : Task} (h : FirmwareTask B task)
    (ht : task.broadcast_type ≤ 1) : Sends st add_index task
      ((List.range B).map fun e => dataFrame (groupFrame task) task (sentChunk st e)) := by
  have hcar : Carries st (fun t => t.cmd_code = 0x01F3 ∧ t.broadcast_type ≤ 1 ∧ t.executed_num < B)
      fun t => sentChunk st t.executed_num := by
    refine carries_firmware st (fun _ hP => hP.1) fun t hP => ?_
    rw [flashReadIndex, if_neg (by omega)]
  obtain ⟨htype, htot⟩ := h.shared ht
  have hsends := shared_sends st add_index (by decide : 0x01F3 ≠ 0x01D5) hB (sentChunk st) hcar B task h.code htype ht
    htot (by rw [h.executed_num]; omega)
  rw [h.executed_num, ← List.range_eq_range'] at hsends
  exact hsends

/-- the first chunk, once for each device up to the first address zero or the end of the budget -/
theorem unicast_chunks {B : ℕ} {task : Task} (h : FirmwareTask B task) (h2 : task.broadcast_type = 2) : ∃ m,
    m ≤ task.dev_num ∧ (m = 0 ↔ task.group_dev_id 0 = 0 ∨ task.dev_num * B % 65536 = 0) ∧
      Sends st add_index task ((List.range m).map fun k =>
        dataFrame (unicastFrame { task with executed_index := k } (task.group_dev_id k)) task (sentChunk st 0)) := by
  obtain ⟨htot, hdev, hend⟩ := h.unicast h2
  have hex : ∃ m, task.group_dev_id m = 0 ∨ m = task.dev_num * B % 65536 := ⟨task.dev_num, .inl hend⟩
  set m := Nat.find hex with hm
  have hstop : task.group_dev_id m = 0 ∨ m = task.dev_num * B % 65536 := Nat.find_spec hex
  have hbefore : ∀ k < m, ¬ (task.group_dev_id k = 0 ∨ k = task.dev_num * B % 65536) := fun k hk => Nat.find_min hex hk
  have hmD : m ≤ task.dev_num := Nat.find_min' hex (.inl hend)
  have hmE : m ≤ task.dev_num * B % 65536 := Nat.find_min' hex (.inr rfl)
  have hcar : Carries st (fun t => t.cmd_code = 0x01F3 ∧ t.broadcast_type = 2 ∧ t.dev_num = task.dev_num ∧
      t.executed_num < task.dev_num) fun _ => sentChunk st 0 := by
    refine carries_firmware st (fun _ hP => hP.1) fun t hP => ?_
    rw [flashReadIndex, if_pos hP.2.1, hP.2.2.1, Nat.div_eq_of_lt hP.2.2.2]
  unfold MAX_LAMP_GROUP_NUM at hdev
  have hsends := unicast_sends st add_index (by decide : 0x01F3 ≠ 0x01D5) (by omega) (Nat.mod_lt _ (by decide)) _ hcar
    task.group_dev_id ⟨hmD, hmE⟩ (fun k hk h0 => hbefore k hk (.inl h0)) hstop m task h.code h2 rfl htot rfl
    (by rw [h.executed_index]; omega) (by rw [h.executed_num, h.executed_index])
  rw [h.executed_index, ← List.range_eq_range'] at hsends
  refine ⟨m, hmD, ?_, hsends⟩
  rw [hm, Nat.find_eq_zero]
  exact or_congr_right eq_comm

/-! ## Deliveries -/

/-- the devices the task addresses: all, the members of its groups, or its listed devices -/
def Task.addressees (task : Task) : List Recipient :=
  match task.broadcast_type with
  | 0 => [.all]
  | 1 => [.groups ((List.range task.group_num).map fun k => (task.group_dev_id k).toUInt8)]
  | _ => (List.range task.dev_num).map fun k => .device (task.group_dev_id k)

/-- every chunk to every addressee -/
def Task.chunkDeliveries (task : Task) (image : List UInt8) : List (Option Recipient × Option Payload) :=
  (List.range (chunkCount image)).flatMap fun i => task.addressees.map fun r =>
    (some r, some (.bytes (chunkData (i + 1) (chunkCount image) (chunkOf image i))))

theorem length_chunkDeliveries (task : Task) (image : List UInt8) :
    (task.chunkDeliveries image).length = chunkCount image * task.addressees.length := by
  simp [Task.chunkDeliveries, List.length_flatMap]

/-- the one addressee of a shared frame -/
theorem addressees_shared {task : Task} (ht : task.broadcast_type ≤ 1) :
    ∃ r, task.addressees = [r] ∧ ∀ data, (dataFrame (groupFrame task) task data).recipient = some r := by
  rcases Nat.le_one_iff_eq_zero_or_eq_one.1 ht with h | h
  · exact ⟨.all, by simp [Task.addressees, h],
      fun data => by simp [dataFrame, groupFrame, PlcFrame.load, PlcFrame.recipient, h]⟩
  · exact ⟨.groups ((List.range task.group_num).map fun k => (task.group_dev_id k).toUInt8),
      by simp [Task.addressees, h],
      fun data => by simp [dataFrame, groupFrame, PlcFrame.load, PlcFrame.recipient, h]⟩

variable {d : Firmware.St} (hd : Downloaded st d)

include hd

theorem total_size_le : st.total_size ≤ 131072 := by
  have hmost := hd.most
  rw [← hd.size] at hmost
  exact hmost

/-- shared frames are the deliveries when the three counts agree -/
theorem shared_perm {B : ℕ} {task : Task} (ht : task.broadcast_type ≤ 1) :
    (((List.range B).map fun e => dataFrame (groupFrame task) task (sentChunk st e)).map delivery).Perm
        (task.chunkDeliveries d.image) ↔
      B = chunkCount d.image ∧
        (chunkCount d.image = 0 ∨ st.total_size / LAMP_FIRMWARE_BAG_SEND_SIZE = chunkCount d.image) := by
  obtain ⟨r, hr, hrec⟩ := addressees_shared ht
  obtain ⟨hcount, hchunk⟩ := downloaded_chunks hd
  have hsize := total_size_le st hd
  have hsent : ((List.range B).map fun e => dataFrame (groupFrame task) task (sentChunk st e)).map delivery =
      (List.range B).map fun e => (some r, some (sentChunk st e).2) := by
    rw [List.map_map]
    refine List.map_congr_left fun e _ => ?_
    rw [Function.comp_apply, delivery, hrec]
    rfl
  have hspec : task.chunkDeliveries d.image = (List.range (chunkCount d.image)).map fun i =>
      (some r, some (.bytes (chunkData (i + 1) (chunkCount d.image) (chunkOf d.image i)))) := by
    rw [Task.chunkDeliveries, hr, List.map_eq_flatMap]
    rfl
  rw [hsent, hspec]
  constructor
  · intro hperm
    have hB : B = chunkCount d.image := by simpa using hperm.length_eq
    refine ⟨hB, ?_⟩
    rcases Nat.eq_zero_or_pos (chunkCount d.image) with h0 | hpos
    · exact .inl h0
    · right
      have hmem := hperm.subset (List.mem_map.2 ⟨0, List.mem_range.2 (by rw [hB]; exact hpos), rfl⟩)
      obtain ⟨i, _, hi⟩ := List.mem_map.1 hmem
      have hbytes : chunkData (i + 1) (chunkCount d.image) (chunkOf d.image i) = _ :=
        Payload.bytes.inj (Option.some.inj (Prod.mk.inj hi).2)
      refine (total_of_chunkData ?_ ?_ hbytes).symm
      · rw [hcount]
        omega
      · unfold LAMP_FIRMWARE_BAG_SEND_SIZE
        omega
  · rintro ⟨hB, h⟩
    rw [hB]
    refine List.Perm.of_eq (List.map_congr_left fun i hi => ?_)
    rw [List.mem_range] at hi
    have htotal := h.resolve_left (by omega)
    rw [sentChunk, htotal, hchunk i hi]

/-- unicast frames are the deliveries when there is nothing to deliver -/
theorem unicast_perm {m : ℕ} {task : Task} (ht : task.broadcast_type = 2) (hm : m ≤ task.dev_num) :
    (((List.range m).map fun k =>
        dataFrame (unicastFrame { task with executed_index := k } (task.group_dev_id k)) task (sentChunk st 0)).map
          delivery).Perm (task.chunkDeliveries d.image) ↔
      task.dev_num = 0 ∨ chunkCount d.image = 0 ∧ m = 0 := by
  obtain ⟨hcount, _⟩ := downloaded_chunks hd
  have hlen : (task.chunkDeliveries d.image).length = chunkCount d.image * task.dev_num := by
    rw [length_chunkDeliveries]
    simp [Task.addressees, ht]
  constructor
  · intro hperm
    have hsame := hperm.length_eq
    rw [hlen, List.length_map, List.length_map, List.length_range] at hsame
    -- an even number of rounds, of which one is sent
    rcases Nat.eq_zero_or_pos (chunkCount d.image) with h0 | hpos
    · rw [h0, Nat.zero_mul] at hsame
      exact .inr ⟨h0, hsame⟩
    · left
      have htwo : 2 * task.dev_num ≤ chunkCount d.image * task.dev_num := Nat.mul_le_mul_right _ (by omega)
      omega
  · intro h
    have hzero : chunkCount d.image * task.dev_num = 0 ∧ m = 0 := by
      rcases h with h | ⟨h0, hm0⟩
      · exact ⟨by rw [h, Nat.mul_zero], by omega⟩
      · exact ⟨by rw [h0, Nat.zero_mul], hm0⟩
    rw [List.eq_nil_of_length_eq_zero (hlen.trans hzero.1), hzero.2]
    exact List.Perm.refl _

/-- the counts of a firmware task agree with an image of `total_size` bytes, in bags of 258, whose chunks are counted
without the last bag -/
def Agrees (total_bags total_size : ℕ) (task : Task) : Prop :=
  let chunks := 2 * ((total_size - 1) / 258)
  task.broadcast_type ≤ 1 ∧ total_bags = chunks ∧ (chunks = 0 ∨ total_size / 128 = chunks) ∨
    task.broadcast_type = 2 ∧
      (task.dev_num = 0 ∨ chunks = 0 ∧ (task.group_dev_id 0 = 0 ∨ task.dev_num * total_bags % 65536 = 0))

/-- the run of a firmware task -/
theorem firmware_delivers {B : ℕ} (hB : B < 65536) {task : Task} (h : FirmwareTask B task) (calls : ℕ → Call) (s : St)
    (hcalls : ∀ k, (calls k).msgs = []) (hw : Working s task) :
    Delivers st calls s (fun fs => (fs.map delivery).Perm (task.chunkDeliveries d.image)) ↔
      Agrees B st.total_size task := by
  have hcount := (downloaded_chunks hd).1
  unfold Agrees
  rw [← hcount]
  rcases Nat.lt_trichotomy task.broadcast_type 2 with ht | ht | ht
  · have h1 : task.broadcast_type ≤ 1 := Nat.le_of_lt_succ ht
    have h2 : task.broadcast_type ≠ 2 := Nat.ne_of_lt ht
    rw [delivers_iff _ (shared_chunks st s.add_index hB h h1) hcalls hw, shared_perm st hd h1]
    simp only [h1, h2, true_and, false_and, or_false]
    rfl
  · obtain ⟨m, hm, hzero, hsends⟩ := unicast_chunks st s.add_index h ht
    rw [delivers_iff _ hsends hcalls hw, unicast_perm st hd ht hm, hzero]
    simp [ht]
  · -- no branch sends a frame or finishes the task
    have hbuild : ∀ c a, build st c a task = .built task .zero false a := by
      intro c a
      rw [build, if_neg (by rw [h.code]; decide), if_neg (by omega), if_neg (by omega), if_neg (by omega)]
    refine ⟨fun hdel => absurd hdel (not_delivers_idle _ h.state hbuild hcalls hw), ?_⟩
    rintro (⟨h1, _⟩ | ⟨h2, _⟩)
    · omega
    · omega

/-- **Firmware dissemination.** Every chunk of the programmed image, with its number and the number of chunks, reaches
every addressed device exactly once before the task is finished, exactly when the counts agree. -/
theorem firmwareUpdate_iff {fw : FirmwareRecords} {msg : ServerFrameStruct} {state : ℕ} {task : Task}
    (h : lampStartFirmWareUpdate st fw msg = some (state, some task)) (calls : ℕ → Call) (s : St)
    (hcalls : ∀ k, (calls k).msgs = []) (hw : Working s task) :
    Delivers st calls s (fun fs => (fs.map delivery).Perm (task.chunkDeliveries d.image)) ↔
      Agrees fw.total_bags.toNat st.total_size task :=
  firmware_delivers st hd fw.total_bags.toNat_lt (firmwareTask_of_start h) calls s hcalls hw

omit hd

/-! ### Two runs -/

/-- an MD5 text -/
def imageMd5 : List UInt8 := List.replicate 32 0x61

/-- a download of 259 bytes: one bag of `0xFF` and the checksum -/
def blankDownload : Firmware.St where
  fw := ⟨.firmwareDownloaded, 2, 2, 258, 1, 259, imageMd5⟩
  flash _ := 0xFF
  programmed := [(1, List.replicate 256 0xFF)]
  checked := some (crc32 (List.replicate 256 0xFF))

def blankStore : Store := { Store.empty with total_size := 259, flash := fun _ => 0xFF }

def blankRecords : FirmwareRecords := ⟨imageMd5, 2, FIRMWARE_DOWNLOADED_SUCCESS⟩

theorem blank_complete : Firmware.Complete Firmware.lamp blankDownload := by
  refine ⟨rfl, fun b hb => ?_, by decide +kernel, by decide +kernel⟩
  rw [List.mem_singleton.1 hb]
  exact List.length_replicate

theorem blank_downloaded : Downloaded blankStore blankDownload where
  complete := blank_complete
  bags := rfl
  least := by decide
  most := by decide
  size := rfl
  flash _ := rfl

/-- the MD5, how the image is sent, and to whom -/
def startMsg (broadcast_type ids : List UInt8) : ServerFrameStruct :=
  { ServerFrameStruct.zero with
    para_num := 3
    para := [some ⟨0x4003, 32, imageMd5 ++ [0]⟩, some ⟨0x8001, broadcast_type.length, broadcast_type ++ [0]⟩,
      some ⟨0x4002, ids.length, ids ++ [0]⟩] }

/-- the task of a message, where there is one -/
def startedTask (st : Store) (fw : FirmwareRecords) (s : ServerFrameStruct) : Task :=
  ((lampStartFirmWareUpdate st fw s).bind Prod.snd).getD .zero

theorem startedTask_eq {st : Store} {fw : FirmwareRecords} {s : ServerFrameStruct}
    (h : ((lampStartFirmWareUpdate st fw s).bind Prod.snd).isSome = true) :
    ∃ state, lampStartFirmWareUpdate st fw s = some (state, some (startedTask st fw s)) := by
  obtain ⟨task, htask⟩ := Option.isSome_iff_exists.1 h
  obtain ⟨⟨state, queued⟩, hr, hq⟩ := Option.bind_eq_some_iff.1 htask
  refine ⟨state, ?_⟩
  rw [startedTask, htask, hr]
  exact congrArg (fun q => some (state, q)) hq

/-- `"1"`, `"1,2"`: for groups 1 and 2 -/
def groupStart : ServerFrameStruct := startMsg [0x31] [0x31, 0x2C, 0x32]

/-- `"2"`, `"0000000A"`: for device 10 -/
def deviceStart : ServerFrameStruct := startMsg [0x32] [0x30, 0x30, 0x30, 0x30, 0x30, 0x30, 0x30, 0x41]

/-- both chunks reach the two groups -/
theorem firmwareUpdate_groups :
    Delivers blankStore (fun _ => .quiet) (.withTask (startedTask blankStore blankRecords groupStart))
      (fun fs => (fs.map delivery).Perm
        ((startedTask blankStore blankRecords groupStart).chunkDeliveries blankDownload.image)) :=
  have ⟨_, hstart⟩ := @startedTask_eq blankStore blankRecords groupStart (by decide +kernel)
  (firmwareUpdate_iff blankStore blank_downloaded hstart (fun _ => .quiet) _ (fun _ => rfl)
    (working_withTask _)).2 (.inl ⟨by decide +kernel, by decide +kernel, .inr (by decide +kernel)⟩)

/-- device 10 is sent the first of two chunks only -/
theorem second_chunk_unsent :
    (∃ state, lampStartFirmWareUpdate blankStore blankRecords deviceStart =
        some (state, some (startedTask blankStore blankRecords deviceStart))) ∧
      Downloaded blankStore blankDownload ∧
      ¬ Delivers blankStore (fun _ => .quiet) (.withTask (startedTask blankStore blankRecords deviceStart))
        (fun fs => (fs.map delivery).Perm
          ((startedTask blankStore blankRecords deviceStart).chunkDeliveries blankDownload.image)) := by
  obtain ⟨state, hstart⟩ := @startedTask_eq blankStore blankRecords deviceStart (by decide +kernel)
  refine ⟨⟨state, hstart⟩, blank_downloaded, fun hdel => ?_⟩
  rcases (firmware_delivers blankStore blank_downloaded (by decide) (firmwareTask_of_start hstart) _ _
    (fun _ => rfl) (working_withTask _)).1 hdel with ⟨h1, _⟩ | ⟨_, h0 | ⟨h0, _⟩⟩
  · exact absurd h1 (by decide +kernel)
  · exact absurd h0 (by decide +kernel)
  · exact absurd h0 (by decide +kernel)

end DataConcentrator.Plc
