/-
The receive FIFO: `fifo_put` and `fifo_get` over the blocks of `memb.c`.

- `fifoPut_eq`, `fifoGet_eq`: a put goes to the first free block, a get empties the first block in use;
- `taken_putAll`: puts with no get between fill the free blocks in their order;
- `fifo_iff`: over any calls, the datagrams that come out, and then those still stored, are those that were put, in
  their order, exactly when each put finds after the first free block no other datagram than its own;
- `overtaken`: a datagram put after a get overtakes one that was put before it.
-/
import Mathlib.Data.List.TakeWhile
import DataConcentrator.Lib.Tally

namespace DataConcentrator.Memory

/-! ## Blocks -/

/-- one block: its reference count, the length stored at its start, and the bytes after that -/
structure Block where
  count : ℕ
  datalen : ℕ
  data : List UInt8
deriving DecidableEq, Repr

/-- `struct memb`: the payload of a block, short enough for the `int16_t` `fifo_get` reads its length with -/
structure Memb where
  num : ℕ
  maxlen : ℕ
  fits : maxlen ≤ 32767

def DL_BUF_MAX_LEN : ℕ := 1536

/-- `FIFO(dl_buf, 3, DL_BUF_MAX_LEN)` -/
def dl_buf : Memb := ⟨3, DL_BUF_MAX_LEN, by decide⟩

/-- `memb_init` -/
def membInit (m : Memb) : List Block := List.replicate m.num ⟨0, 0, List.replicate m.maxlen 0⟩

/-- `memb_alloc`: the index of the block -/
def membAlloc (blocks : List Block) : Option (ℕ × List Block) :=
  (blocks.findIdx? fun b => b.count = 0).map fun i =>
    (i, blocks.modify i fun b => { b with count := b.count + 1 })

/-- `memb_free` of block `i` -/
def membFree (blocks : List Block) (i : ℕ) : List Block :=
  blocks.modify i fun b => { b with count := b.count - 1 }

/-! ## The pipe -/

/-- the bytes of a datagram written over the ones a block has -/
def Block.write (b : Block) (validlen : ℕ) (data_buf : List UInt8) : Block :=
  { b with datalen := validlen, data := data_buf.take validlen ++ b.data.drop validlen }

/-- `fifo_put` on the pipe: its result, and the blocks -/
def fifoPut (m : Memb) (blocks : List Block) (data_buf : List UInt8) : ℤ × List Block :=
  match membAlloc blocks with
  | none => (-2, blocks)
  | some (i, blocks) =>
    let validlen := if data_buf.length > m.maxlen then m.maxlen else data_buf.length
    (0, blocks.modify i fun b => b.write validlen data_buf)

/-- `fifo_get` on the pipe: the bytes it copies, and the blocks; `none` when the length is negative as an `int16_t` -/
def fifoGet (blocks : List Block) : Option (List UInt8 × List Block) :=
  match blocks.findIdx? fun b => b.count ≠ 0 with
  | none => some ([], blocks)
  | some i => (blocks[i]?).bind fun b =>
    if b.datalen ≤ 32767 then some (b.data.take b.datalen, membFree blocks i) else none

/-- the calls on a pipe -/
inductive Call where
  | put (data_buf : List UInt8)
  | get

/-- the blocks, and a record of the calls: the datagrams accepted and the results with bytes -/
structure St where
  blocks : List Block
  accepted : List (List UInt8)
  got : List (List UInt8)

def St.start (m : Memb) : St := ⟨membInit m, [], []⟩

def step (m : Memb) (s : St) : Call → Option St
  | .put data_buf =>
    let r := fifoPut m s.blocks data_buf
    some { s with blocks := r.2, accepted := if r.1 = 0 then s.accepted ++ [data_buf] else s.accepted }
  | .get => (fifoGet s.blocks).map fun (bytes, blocks) =>
    { s with blocks := blocks, got := if bytes = [] then s.got else s.got ++ [bytes] }

/-! ## The first block of a kind -/

theorem findIdx?_split (p : Block → Bool) (blocks : List Block) (i : ℕ) (h : blocks.findIdx? p = some i) :
    ∃ pre b post, blocks = pre ++ b :: post ∧ pre.length = i ∧ (∀ x ∈ pre, p x = false) ∧ p b = true := by
  induction blocks generalizing i with
  | nil => cases h
  | cons c blocks ih =>
    rw [List.findIdx?_cons] at h
    cases hc : p c with
    | true =>
      rw [hc, if_pos rfl, Option.some.injEq] at h
      exact ⟨[], c, blocks, rfl, h, by simp, hc⟩
    | false =>
      rw [hc, if_neg Bool.false_ne_true] at h
      obtain ⟨k, hk, rfl⟩ := Option.map_eq_some_iff.1 h
      obtain ⟨pre, b, post, rfl, rfl, hpre, hb⟩ := ih k hk
      refine ⟨c :: pre, b, post, rfl, rfl, fun x hx => ?_, hb⟩
      rcases List.mem_cons.1 hx with rfl | hx
      · exact hc
      · exact hpre x hx

theorem modify_split (f : Block → Block) (pre : List Block) (b : Block) (post : List Block) :
    (pre ++ b :: post).modify pre.length f = pre ++ f b :: post := by
  induction pre with
  | nil => rfl
  | cons c pre ih => rw [List.cons_append, List.length_cons, List.modify_succ_cons, ih, List.cons_append]

/-! ## What is stored -/

def Block.datagram (b : Block) : List UInt8 := b.data.take b.datalen

/-- the datagrams with bytes -/
def nonEmpty (l : List (List UInt8)) : List (List UInt8) := l.filter fun x => x ≠ []

/-- the datagrams in the blocks in use, in the order of the blocks -/
def stored (blocks : List Block) : List (List UInt8) :=
  nonEmpty ((blocks.filter fun b => b.count ≠ 0).map Block.datagram)

theorem stored_append (xs ys : List Block) : stored (xs ++ ys) = stored xs ++ stored ys := by
  simp only [stored, nonEmpty, List.filter_append, List.map_append]

theorem stored_free {b : Block} (h : b.count = 0) (bs : List Block) : stored (b :: bs) = stored bs := by
  simp [stored, h]

theorem stored_used {b : Block} (h : b.count ≠ 0) (bs : List Block) :
    stored (b :: bs) = nonEmpty [b.datagram] ++ stored bs := by
  simp only [stored, nonEmpty, List.filter_cons, decide_eq_true h, if_true, List.map_cons]
  split_ifs <;> rfl

/-- the reference counts are 0 or 1, and the lengths fit -/
def Sound (m : Memb) (blocks : List Block) : Prop := ∀ b ∈ blocks, b.count ≤ 1 ∧ b.datalen ≤ m.maxlen

/-- **A put** takes the first free block, and fails without one. -/
theorem fifoPut_eq (m : Memb) {blocks : List Block} (hs : Sound m blocks) {data_buf : List UInt8}
    (hlen : data_buf.length ≤ m.maxlen) :
    (fifoPut m blocks data_buf = (-2, blocks) ∧ ∀ b ∈ blocks, b.count ≠ 0) ∨
    ∃ pre b b' post, blocks = pre ++ b :: post ∧ (∀ x ∈ pre, x.count ≠ 0) ∧ b.count = 0 ∧
      fifoPut m blocks data_buf = (0, pre ++ b' :: post) ∧ b'.count = 1 ∧ b'.datagram = data_buf ∧
        Sound m (pre ++ b' :: post) := by
  cases hi : blocks.findIdx? fun b => b.count = 0 with
  | none =>
    refine Or.inl ⟨?_, fun b hb h => ?_⟩
    · rw [fifoPut, membAlloc, hi]
      rfl
    · have := List.findIdx?_eq_none_iff.1 hi b hb
      simp [h] at this
  | some i =>
    obtain ⟨pre, b, post, rfl, rfl, hpre, hb⟩ := findIdx?_split _ blocks i hi
    refine Or.inr ⟨pre, b, ({ b with count := b.count + 1 } : Block).write data_buf.length data_buf, post, rfl,
      fun x hx => of_decide_eq_false (hpre x hx), of_decide_eq_true hb, ?_, ?_, ?_, ?_⟩
    · rw [fifoPut, membAlloc, hi, Option.map_some]
      dsimp only
      rw [if_neg (not_lt.2 hlen), modify_split, modify_split]
    · show b.count + 1 = 1
      rw [of_decide_eq_true hb]
    · rw [Block.datagram, Block.write]
      simp
    · intro x hx
      rcases List.mem_append.1 hx with hx | hx
      · exact hs x (List.mem_append_left _ hx)
      · rcases List.mem_cons.1 hx with rfl | hx
        · exact ⟨by show b.count + 1 ≤ 1; rw [of_decide_eq_true hb], hlen⟩
        · exact hs x (List.mem_append_right _ (List.mem_cons_of_mem b hx))

/-- **A get** empties the first block in use. -/
theorem fifoGet_eq (m : Memb) {blocks : List Block} (hs : Sound m blocks) :
    (fifoGet blocks = some ([], blocks) ∧ stored blocks = []) ∨
    ∃ b rest, fifoGet blocks = some (b, rest) ∧ stored blocks = nonEmpty [b] ++ stored rest ∧ Sound m rest := by
  cases hi : blocks.findIdx? fun b => b.count ≠ 0 with
  | none =>
    refine Or.inl ⟨by rw [fifoGet, hi], ?_⟩
    have hfilter : blocks.filter (fun b => b.count ≠ 0) = [] :=
      List.filter_eq_nil_iff.2 fun b hb => by simpa using List.findIdx?_eq_none_iff.1 hi b hb
    rw [stored, hfilter]
    rfl
  | some i =>
    obtain ⟨pre, b, post, rfl, rfl, hpre, hb⟩ := findIdx?_split _ blocks i hi
    have hbs := hs b (List.mem_append_right _ List.mem_cons_self)
    have hcount : b.count = 1 := by
      have := of_decide_eq_true hb
      omega
    have hnone : stored pre = [] := by
      have hfilter : pre.filter (fun b => b.count ≠ 0) = [] :=
        List.filter_eq_nil_iff.2 fun x hx => by simpa using hpre x hx
      rw [stored, hfilter]
      rfl
    refine Or.inr ⟨b.datagram, pre ++ { b with count := b.count - 1 } :: post, ?_, ?_, ?_⟩
    · rw [fifoGet, hi]
      dsimp only
      rw [List.getElem?_append_right le_rfl, Nat.sub_self, List.getElem?_cons_zero, Option.bind_some,
        if_pos (hbs.2.trans m.fits), membFree, modify_split]
      rfl
    · have hfree : ({ b with count := b.count - 1 } : Block).count = 0 := by
        show b.count - 1 = 0
        omega
      rw [stored_append, stored_append, hnone, stored_free hfree, stored_used (by omega)]
      rfl
    · intro x hx
      rcases List.mem_append.1 hx with hx | hx
      · exact hs x (List.mem_append_left _ hx)
      · rcases List.mem_cons.1 hx with rfl | hx
        · exact ⟨by show b.count - 1 ≤ 1; omega, hbs.2⟩
        · exact hs x (List.mem_append_right _ (List.mem_cons_of_mem b hx))

/-! ## Puts with no get between -/

def putAll (m : Memb) (blocks : List Block) (datagrams : List (List UInt8)) : List Block :=
  datagrams.foldl (fun blocks data_buf => (fifoPut m blocks data_buf).2) blocks

/-- the datagrams of the blocks that were free before and are in use after, in the order of the blocks -/
def taken : List Block → List Block → List (List UInt8)
  | b :: before, b' :: after => (if b.count = 0 ∧ b'.count ≠ 0 then [b'.datagram] else []) ++ taken before after
  | _, _ => []

def freeBlocks (blocks : List Block) : ℕ := blocks.countP fun b => b.count = 0

theorem fifoPut_cons_used (m : Memb) {b : Block} (hb : b.count ≠ 0) (blocks : List Block) (data_buf : List UInt8) :
    (fifoPut m (b :: blocks) data_buf).2 = b :: (fifoPut m blocks data_buf).2 := by
  rw [fifoPut, fifoPut, membAlloc, membAlloc, List.findIdx?_cons, decide_eq_false hb, if_neg Bool.false_ne_true]
  cases blocks.findIdx? fun b => b.count = 0 with
  | none => rfl
  | some i => rfl

theorem fifoPut_cons_free (m : Memb) {b : Block} (hb : b.count = 0) (blocks : List Block) (data_buf : List UInt8) :
    ∃ b', (fifoPut m (b :: blocks) data_buf).2 = b' :: blocks ∧ b'.count ≠ 0 ∧
      b'.datagram = data_buf.take m.maxlen := by
  rw [fifoPut, membAlloc, List.findIdx?_cons, decide_eq_true hb, if_pos rfl, Option.map_some]
  refine ⟨_, rfl, Nat.succ_ne_zero b.count, ?_⟩
  show (data_buf.take (if data_buf.length > m.maxlen then _ else _) ++ _).take (if data_buf.length > m.maxlen then _ else _)
    = _
  rcases Nat.lt_or_ge m.maxlen data_buf.length with hlen | hlen
  · rw [if_pos hlen, List.take_append_of_le_length (by rw [List.length_take]; omega), List.take_take, min_self]
  · rw [if_neg (by omega), List.take_length, List.take_left, List.take_of_length_le hlen]

theorem putAll_cons_used (m : Memb) {b : Block} (hb : b.count ≠ 0) (datagrams : List (List UInt8)) :
    ∀ blocks, putAll m (b :: blocks) datagrams = b :: putAll m blocks datagrams := by
  induction datagrams with
  | nil => exact fun _ => rfl
  | cons d ds ih =>
    intro blocks
    show putAll m (fifoPut m (b :: blocks) d).2 ds = b :: putAll m (fifoPut m blocks d).2 ds
    rw [fifoPut_cons_used m hb, ih]

theorem taken_self (blocks : List Block) : taken blocks blocks = [] := by
  induction blocks with
  | nil => rfl
  | cons b blocks ih => rw [taken, if_neg fun h => h.2 h.1, ih, List.append_nil]

/-- **Puts with no get between**: the first of them, as many as there are free blocks, are stored in their order. -/
theorem taken_putAll (m : Memb) (blocks : List Block) : ∀ datagrams,
    taken blocks (putAll m blocks datagrams) = (datagrams.map (·.take m.maxlen)).take (freeBlocks blocks) := by
  induction blocks with
  | nil => exact fun datagrams => by rw [freeBlocks, List.countP_nil, List.take_zero, taken.eq_2]; simp
  | cons b blocks ih =>
    intro datagrams
    by_cases hb : b.count = 0
    · have hfree : freeBlocks (b :: blocks) = freeBlocks blocks + 1 := List.countP_cons_of_pos (decide_eq_true hb)
      cases datagrams with
      | nil =>
        show taken (b :: blocks) (b :: blocks) = _
        rw [taken_self, List.map_nil, List.take_nil]
      | cons d ds =>
        obtain ⟨b', hput, hused, hdata⟩ := fifoPut_cons_free m hb blocks d
        show taken (b :: blocks) (putAll m (fifoPut m (b :: blocks) d).2 ds) = _
        rw [hput, putAll_cons_used m hused, taken, if_pos ⟨hb, hused⟩, hdata, ih, hfree, List.map_cons,
          List.take_succ_cons, List.singleton_append]
    · have hfree : freeBlocks (b :: blocks) = freeBlocks blocks :=
        List.countP_cons_of_neg (by rw [decide_eq_false hb]; exact Bool.false_ne_true)
      rw [putAll_cons_used m hb, taken, if_neg fun h => hb h.1, List.nil_append, ih, hfree]

/-! ## Order -/

/-- what came out, and then what is stored, is what was put, in its order -/
def InOrder (s : St) : Prop := s.got ++ stored s.blocks = nonEmpty s.accepted

/-- the datagrams behind the first free block -/
def behind (blocks : List Block) : List (List UInt8) := stored (blocks.dropWhile fun b => b.count ≠ 0)

/-- a put finds no other datagram behind the block it takes -/
def CallFits (s : St) : Call → Prop
  | .put data_buf => data_buf = [] ∨ ∀ y ∈ behind s.blocks, y = data_buf
  | .get => True

theorem cons_eq_append_singleton {α : Type*} (x : α) (l : List α) : x :: l = l ++ [x] ↔ ∀ y ∈ l, y = x := by
  constructor
  · induction l with
    | nil => exact fun _ y hy => absurd hy List.not_mem_nil
    | cons z l ih =>
      intro h y hy
      rw [List.cons_append, List.cons.injEq] at h
      obtain ⟨rfl, h⟩ := h
      rcases List.mem_cons.1 hy with rfl | hy
      · rfl
      · exact ih h y hy
  · intro h
    rw [List.eq_replicate_of_mem h, ← List.replicate_succ, List.replicate_succ']

theorem behind_split {pre post : List Block} {b : Block} (hpre : ∀ x ∈ pre, x.count ≠ 0) (hb : b.count = 0) :
    behind (pre ++ b :: post) = stored post := by
  rw [behind, List.dropWhile_append_of_pos (by simpa using hpre), List.dropWhile_cons_of_neg (by simpa using hb),
    stored_free hb]

theorem behind_full {blocks : List Block} (h : ∀ b ∈ blocks, b.count ≠ 0) : behind blocks = [] := by
  have hnil : blocks.dropWhile (fun b => decide (b.count ≠ 0)) = [] :=
    List.dropWhile_eq_nil_iff.2 fun b hb => decide_eq_true (h b hb)
  rw [behind, hnil]
  rfl

/-- the datagrams that are put fit in a block -/
def Call.Fitting (m : Memb) : Call → Prop
  | .put data_buf => data_buf.length ≤ m.maxlen
  | .get => True

theorem nonEmpty_append (l : List (List UInt8)) (x : List UInt8) : nonEmpty (l ++ [x]) = nonEmpty l ++ nonEmpty [x] :=
  List.filter_append l [x]

theorem step_sound {m : Memb} {s t : St} {c : Call} (hc : c.Fitting m) (hs : Sound m s.blocks)
    (h : step m s c = some t) : Sound m t.blocks := by
  cases c with
  | put data_buf =>
    cases h
    rcases fifoPut_eq m hs hc with ⟨hput, -⟩ | ⟨pre, b, b', post, -, -, -, hput, -, -, hsound⟩
    · rw [hput]
      exact hs
    · rw [hput]
      exact hsound
  | get =>
    obtain ⟨r, hr, rfl⟩ := Option.map_eq_some_iff.1 h
    rcases fifoGet_eq m hs with ⟨hget, -⟩ | ⟨b, rest, hget, -, hsound⟩
    · rw [hget] at hr
      cases hr
      exact hs
    · rw [hget] at hr
      cases hr
      exact hsound

/-- **One call.** A get always keeps the order, a put exactly when it fits. -/
theorem step_inOrder {m : Memb} {s : St} {c : Call} (hc : c.Fitting m) (hs : Sound m s.blocks) (ho : InOrder s) :
    (∃ t, step m s c = some t ∧ InOrder t) ↔ CallFits s c := by
  cases c with
  | put data_buf =>
    have hstep : (∃ t, step m s (.put data_buf) = some t ∧ InOrder t) ↔
        InOrder { s with
          blocks := (fifoPut m s.blocks data_buf).2
          accepted := if (fifoPut m s.blocks data_buf).1 = 0 then s.accepted ++ [data_buf] else s.accepted } :=
      ⟨fun ⟨t, ht, hot⟩ => by cases ht; exact hot, fun h => ⟨_, rfl, h⟩⟩
    rw [hstep, CallFits]
    rcases fifoPut_eq m hs hc with ⟨hput, hfull⟩ | ⟨pre, b, b', post, hblocks, hpre, hb, hput, hb', hdata, -⟩
    · rw [hput, behind_full hfull]
      exact ⟨fun _ => Or.inr fun y hy => absurd hy List.not_mem_nil, fun _ => ho⟩
    · rw [hput, hblocks, behind_split hpre hb]
      rw [InOrder, hblocks, stored_append, stored_free hb] at ho
      have hused : b'.count ≠ 0 := by omega
      rw [InOrder]
      dsimp only
      rw [if_pos rfl, nonEmpty_append, ← ho, stored_append, stored_used hused, hdata, List.append_assoc,
        List.append_assoc, List.append_cancel_left_eq, List.append_cancel_left_eq]
      by_cases hnil : data_buf = []
      · subst hnil
        simp [nonEmpty]
      · have hone : nonEmpty [data_buf] = [data_buf] := by simp [nonEmpty, hnil]
        rw [hone, or_iff_right hnil]
        exact cons_eq_append_singleton data_buf (stored post)
  | get =>
    refine ⟨fun _ => trivial, fun _ => ?_⟩
    rcases fifoGet_eq m hs with ⟨hget, -⟩ | ⟨b, rest, hget, hstored, -⟩
    · exact ⟨s, by rw [step, hget]; rfl, ho⟩
    · refine ⟨_, by rw [step, hget]; rfl, ?_⟩
      rw [InOrder, hstored] at ho
      rw [InOrder]
      dsimp only
      by_cases hnil : b = []
      · subst hnil
        rw [if_pos rfl]
        simpa [nonEmpty] using ho
      · have hone : nonEmpty [b] = [b] := by simp [nonEmpty, hnil]
        rw [hone, ← List.append_assoc] at ho
        rw [if_neg hnil]
        exact ho

theorem sound_start (m : Memb) : Sound m (St.start m).blocks := by
  intro b hb
  rw [List.eq_of_mem_replicate hb]
  exact ⟨Nat.zero_le 1, Nat.zero_le _⟩

theorem inOrder_start (m : Memb) : InOrder (St.start m) := by
  have hfilter : (membInit m).filter (fun b => b.count ≠ 0) = [] :=
    List.filter_eq_nil_iff.2 fun b hb => by rw [List.eq_of_mem_replicate hb]; simp
  rw [InOrder, St.start, stored, hfilter]
  rfl

/-- **The FIFO.** For any number of blocks and any calls: after each of them the datagrams that came out, followed by
those a drain would give, are those that were put, in their order, exactly when each put finds behind the block it takes
no other datagram than its own. -/
theorem fifo_iff (m : Memb) (calls : List Call) (hcalls : ∀ c ∈ calls, c.Fitting m) :
    Tally.Throughout (step m) InOrder (.start m) calls ↔ Tally.Along (step m) CallFits (.start m) calls :=
  Tally.throughout_iff_along (fun _ _ _ hc hs _ h _ => step_sound hc hs h) (fun _ _ hc hs ho => step_inOrder hc hs ho)
    calls hcalls (.start m) (sound_start m) (inOrder_start m)

theorem fifo_two_puts :
    Tally.Throughout (step dl_buf) InOrder (.start dl_buf) [.put [1], .put [2]] ↔
      Tally.Along (step dl_buf) CallFits (.start dl_buf) [.put [1], .put [2]] := by
  refine fifo_iff dl_buf _ fun c hc => ?_
  rcases List.mem_cons.1 hc with rfl | hc
  · show 1 ≤ DL_BUF_MAX_LEN
    decide
  · rw [List.mem_singleton.1 hc]
    show 1 ≤ DL_BUF_MAX_LEN
    decide

/-- **Overtaking.** Two datagrams are put, one is taken out, a third is put: it comes out before the second. -/
theorem overtaken :
    ([.put [1], .put [2], .get, .put [3], .get, .get].foldlM (step dl_buf) (.start dl_buf)).map
      (fun s => (s.accepted, s.got)) = some ([[1], [2], [3]], [[1], [3], [2]]) := by
  decide +kernel

end DataConcentrator.Memory
