/-
The escape layer of the server link: `EscapeSymbolAdd` and `EscapeSymbolDelete`.

Inside a frame the bytes `0x02`, `0x03` and `0x1B` travel as `0x1B 0xE7`, `0x1B 0xE8` and `0x1B 0x00`.
- `escapeSymbolAdd_eq`: as long as its length fits a `u16`, the escaped frame is `escaped`;
- `escapeSymbolDelete_escaped`: deleting the escapes gives the frame back;
- `not_mem_escape`: no start or end mark occurs between the ends of an escaped frame;
- `escapeLayer_iff`: `GetFinalFrameLen` says two bytes more than are written, and the rest of the layer is a bijection
  exactly when the escaped length fits a `u16`.
-/
import DataConcentrator.Lib.ByteStore

namespace DataConcentrator.Protocol

/-! ## The two functions -/

/-- the output buffer of `EscapeSymbolAdd` with `j` and `out_len` -/
structure EscapeOut where
  outbuf : ℕ → UInt8
  j : ℕ
  out_len : ℕ

/-- one round of the loop of `EscapeSymbolAdd` -/
def addRound (o : EscapeOut) (b : UInt8) : EscapeOut :=
  let two (code : UInt8) : EscapeOut :=
    let j := (o.j + 1) % 65536
    ⟨ByteStore.write (ByteStore.write o.outbuf o.j [0x1B]) j [code], (j + 1) % 65536, (o.out_len + 1) % 65536⟩
  if b = 0x02 then two 0xE7
  else if b = 0x03 then two 0xE8
  else if b = 0x1B then two 0x00
  else ⟨ByteStore.write o.outbuf o.j [b], (o.j + 1) % 65536, o.out_len⟩

/-- the first `out_len` bytes that `EscapeSymbolAdd` leaves in `outbuf` -/
def escapeSymbolAdd (outbuf : ℕ → UInt8) (inbuf : List UInt8) : List UInt8 :=
  let o := (inbuf.drop 1).dropLast.foldl addRound ⟨outbuf, 1, inbuf.length⟩
  ByteStore.read (ByteStore.write (ByteStore.write o.outbuf 0 [0x02]) (o.out_len - 1) [0x03]) 0 o.out_len

/-- the loop of `EscapeSymbolDelete` from `inbuf[i]` on; it stops at the last byte, which an escape may look at -/
def deleteLoop : List UInt8 → List UInt8
  | [] => []
  | [_] => []
  | a :: b :: rest =>
    if a = 0x1B ∧ b = 0xE7 then 0x02 :: deleteLoop rest
    else if a = 0x1B ∧ b = 0xE8 then 0x03 :: deleteLoop rest
    else if a = 0x1B ∧ b = 0x00 then 0x1B :: deleteLoop rest
    else a :: deleteLoop (b :: rest)

/-- the first `out_len` bytes that `EscapeSymbolDelete` leaves in `outbuf` -/
def escapeSymbolDelete (inbuf : List UInt8) : List UInt8 :=
  if inbuf.head? = some 0x02 ∧ inbuf.getLast? = some 0x03 then 0x02 :: deleteLoop (inbuf.drop 1) ++ [0x03] else []

/-! ## What they are for -/

/-- the bytes that stand for one byte of the interior -/
def escape (b : UInt8) : List UInt8 :=
  if b = 0x02 then [0x1B, 0xE7] else if b = 0x03 then [0x1B, 0xE8] else if b = 0x1B then [0x1B, 0x00] else [b]

/-- a frame: its marks and what lies between them -/
def frame (interior : List UInt8) : List UInt8 := 0x02 :: interior ++ [0x03]

/-- the escaped frame -/
def escaped (interior : List UInt8) : List UInt8 := 0x02 :: interior.flatMap escape ++ [0x03]

theorem length_escape (b : UInt8) : 1 ≤ (escape b).length ∧ (escape b).length ≤ 2 := by
  unfold escape
  split_ifs <;> simp

theorem length_le_flatMap_escape (bs : List UInt8) : bs.length ≤ (bs.flatMap escape).length := by
  induction bs with
  | nil => exact le_rfl
  | cons b bs ih =>
    have := (length_escape b).1
    rw [List.flatMap_cons, List.length_append, List.length_cons]
    omega

/-! ## Adding escapes -/

/-- one round appends the escape of its byte -/
theorem addRound_eq (o : EscapeOut) (b : UInt8) (hj : o.j + (escape b).length < 65536)
    (hl : o.out_len + (escape b).length ≤ 65536) :
    addRound o b = ⟨ByteStore.write o.outbuf o.j (escape b), o.j + (escape b).length,
      o.out_len + ((escape b).length - 1)⟩ := by
  have two : ∀ code : UInt8, o.j + 2 < 65536 → o.out_len + 2 ≤ 65536 →
      (⟨ByteStore.write (ByteStore.write o.outbuf o.j [0x1B]) ((o.j + 1) % 65536) [code],
        ((o.j + 1) % 65536 + 1) % 65536, (o.out_len + 1) % 65536⟩ : EscapeOut) =
      ⟨ByteStore.write o.outbuf o.j [0x1B, code], o.j + 2, o.out_len + 1⟩ := by
    intro code hj hl
    rw [Nat.mod_eq_of_lt (a := o.j + 1) (by omega), Nat.mod_eq_of_lt (a := o.j + 1 + 1) (by omega),
      Nat.mod_eq_of_lt (a := o.out_len + 1) (by omega)]
    have := ByteStore.write_append o.outbuf o.j [0x1B] [code]
    exact congrArg (EscapeOut.mk · (o.j + 2) (o.out_len + 1)) this
  unfold escape at hj hl ⊢
  unfold addRound
  split_ifs at hj hl ⊢ with h2 h3 h1b
  · exact two 0xE7 hj hl
  · exact two 0xE8 hj hl
  · exact two 0x00 hj hl
  · simp only [Nat.mod_eq_of_lt (show o.j + 1 < 65536 from hj)]
    rfl

theorem addRounds_eq (bs : List UInt8) : ∀ o : EscapeOut, o.j + (bs.flatMap escape).length < 65536 →
    o.out_len + (bs.flatMap escape).length ≤ 65535 + bs.length →
      ∃ out_len, out_len + bs.length = o.out_len + (bs.flatMap escape).length ∧
        bs.foldl addRound o =
          ⟨ByteStore.write o.outbuf o.j (bs.flatMap escape), o.j + (bs.flatMap escape).length, out_len⟩ := by
  induction bs with
  | nil => intro o _ _; exact ⟨o.out_len, rfl, by simp⟩
  | cons b bs ih =>
    intro o hj hl
    have h1 := (length_escape b).1
    have hbs := length_le_flatMap_escape bs
    rw [List.flatMap_cons, List.length_append] at hj hl
    rw [List.length_cons] at hl
    rw [List.foldl_cons, addRound_eq o b (by omega) (by omega)]
    obtain ⟨out_len, hout, heq⟩ := ih ⟨ByteStore.write o.outbuf o.j (escape b), o.j + (escape b).length,
      o.out_len + ((escape b).length - 1)⟩ (by simp only; omega) (by simp only; omega)
    refine ⟨out_len, ?_, ?_⟩
    · simp only at hout
      rw [List.length_cons, List.flatMap_cons, List.length_append]
      omega
    · rw [heq, ByteStore.write_append, List.flatMap_cons, List.length_append, Nat.add_assoc]

theorem drop_frame (interior : List UInt8) : ((frame interior).drop 1).dropLast = interior := by
  simp [frame]

/-- **`EscapeSymbolAdd` writes the escaped frame.** -/
theorem escapeSymbolAdd_eq (outbuf : ℕ → UInt8) (interior : List UInt8) (h : (escaped interior).length < 65536) :
    escapeSymbolAdd outbuf (frame interior) = escaped interior := by
  have hlen : (escaped interior).length = (interior.flatMap escape).length + 2 := by simp [escaped]
  have hframe : (frame interior).length = interior.length + 2 := by simp [frame]
  obtain ⟨out_len, hout, heq⟩ := addRounds_eq interior ⟨outbuf, 1, (frame interior).length⟩ (by simp only; omega)
    (by simp only; omega)
  have hout' : out_len = (interior.flatMap escape).length + 2 := by simp only at hout; omega
  have hhead : ByteStore.write (ByteStore.write outbuf 1 (interior.flatMap escape)) 0 [0x02] =
      ByteStore.write outbuf 0 (0x02 :: interior.flatMap escape) := by
    rw [ByteStore.write_comm _ _ _ _ _ (by simp)]
    exact ByteStore.write_append outbuf 0 [0x02] (interior.flatMap escape)
  have htail := ByteStore.write_append outbuf 0 (0x02 :: interior.flatMap escape) [0x03]
  rw [List.length_cons, Nat.zero_add] at htail
  rw [escapeSymbolAdd, drop_frame, heq]
  simp only [hhead, hout', ← hlen]
  rw [hlen, show (interior.flatMap escape).length + 2 - 1 = (interior.flatMap escape).length + 1 by omega, htail, ← hlen]
  exact ByteStore.read_write_same outbuf 0 (escaped interior)

/-! ## Deleting escapes -/

theorem deleteLoop_escape (b : UInt8) (rest : List UInt8) (hne : rest ≠ []) :
    deleteLoop (escape b ++ rest) = b :: deleteLoop rest := by
  unfold escape
  split_ifs with h2 h3 h1b
  · rw [h2]; rfl
  · rw [h3]; rfl
  · rw [h1b]; rfl
  · cases rest with
    | nil => exact absurd rfl hne
    | cons r rest => simp [deleteLoop, h1b]

theorem deleteLoop_interior (interior : List UInt8) : deleteLoop (interior.flatMap escape ++ [0x03]) = interior := by
  induction interior with
  | nil => rfl
  | cons b interior ih =>
    rw [List.flatMap_cons, List.append_assoc, deleteLoop_escape b _ (by simp), ih]

/-- **Deleting the escapes gives the frame back.** -/
theorem escapeSymbolDelete_escaped (interior : List UInt8) : escapeSymbolDelete (escaped interior) = frame interior := by
  have hlast : (escaped interior).getLast? = some 0x03 := by
    rw [escaped, List.getLast?_append]
    rfl
  rw [escapeSymbolDelete, if_pos ⟨rfl, hlast⟩]
  have hloop := deleteLoop_interior interior
  simp only [escaped, frame, List.cons_append, List.drop_succ_cons, List.drop_zero, hloop]

/-- the escaped interior has no mark in it -/
theorem not_mem_escape (interior : List UInt8) : 0x02 ∉ interior.flatMap escape ∧ 0x03 ∉ interior.flatMap escape := by
  have hbyte : ∀ b : UInt8, 0x02 ∉ escape b ∧ 0x03 ∉ escape b := by
    intro b
    unfold escape
    split_ifs with h2 h3 h1b
    · decide
    · decide
    · decide
    · simp only [List.mem_singleton]
      exact ⟨fun h => h2 h.symm, fun h => h3 h.symm⟩
  simp only [List.mem_flatMap, not_exists, not_and]
  exact ⟨fun b _ => (hbyte b).1, fun b _ => (hbyte b).2⟩

/-! ## Lengths -/

/-- `GetFinalFrameLen`; it counts the marks at the two ends of the frame as well -/
def getFinalFrameLen (buf : List UInt8) : ℕ :=
  (buf.foldl (fun final_len b => if b = 0x02 ∨ b = 0x03 ∨ b = 0x1B then (final_len + 1) % 65536 else final_len) 0 +
    buf.length) % 65536

/-- a byte that is escaped -/
def special (b : UInt8) : Bool := b = 0x02 ∨ b = 0x03 ∨ b = 0x1B

theorem length_escape_eq (b : UInt8) : (escape b).length = 1 + if special b then 1 else 0 := by
  unfold escape special
  split_ifs <;> simp_all

theorem length_flatMap_escape (bs : List UInt8) : (bs.flatMap escape).length = bs.length + bs.countP special := by
  induction bs with
  | nil => rfl
  | cons b bs ih =>
    rw [List.flatMap_cons, List.length_append, ih, length_escape_eq, List.length_cons, List.countP_cons]
    omega

theorem length_frame (interior : List UInt8) : (frame interior).length = interior.length + 2 := by
  rw [frame, List.length_append, List.length_cons]
  rfl

theorem length_escaped (interior : List UInt8) :
    (escaped interior).length = (frame interior).length + interior.countP special := by
  rw [escaped, List.length_append, List.length_cons, length_flatMap_escape, length_frame, List.length_singleton]
  omega

theorem countP_frame (interior : List UInt8) : (frame interior).countP special = interior.countP special + 2 := by
  have hends : special 0x02 = true ∧ special 0x03 = true := by decide
  rw [frame, List.countP_append, List.countP_cons, List.countP_singleton, hends.1, hends.2, if_pos rfl]

/-- a counter of `u16` width over the bytes of a kind -/
theorem foldl_count (p : UInt8 → Prop) [DecidablePred p] (bs : List UInt8) : ∀ n < 65536,
    bs.foldl (fun n b => if p b then (n + 1) % 65536 else n) n = (n + bs.countP fun b => p b) % 65536 := by
  induction bs with
  | nil => exact fun n hn => (Nat.mod_eq_of_lt hn).symm
  | cons b bs ih =>
    intro n hn
    rw [List.foldl_cons, List.countP_cons]
    by_cases hb : p b
    · rw [if_pos hb, ih _ (Nat.mod_lt _ (by omega)), if_pos (decide_eq_true hb)]
      omega
    · rw [if_neg hb, ih n hn, if_neg (by simpa using hb), Nat.add_zero]

theorem getFinalFrameLen_eq (buf : List UInt8) : getFinalFrameLen buf = (buf.length + buf.countP special) % 65536 := by
  rw [getFinalFrameLen, foldl_count _ buf 0 (by omega)]
  show ((0 + buf.countP special) % 65536 + buf.length) % 65536 = _
  omega

/-- `out_len` over the rounds -/
theorem out_len_addRounds (bs : List UInt8) : ∀ o : EscapeOut, o.out_len < 65536 →
    (bs.foldl addRound o).out_len = (o.out_len + bs.countP special) % 65536 := by
  induction bs with
  | nil => exact fun o ho => (Nat.mod_eq_of_lt ho).symm
  | cons b bs ih =>
    intro o ho
    have hround : (addRound o b).out_len = (o.out_len + if special b then 1 else 0) % 65536 := by
      unfold addRound special
      split_ifs <;> simp_all [Nat.mod_eq_of_lt ho]
    rw [List.foldl_cons, ih _ (hround ▸ Nat.mod_lt _ (by omega)), hround, List.countP_cons]
    omega

theorem length_escapeSymbolAdd (outbuf : ℕ → UInt8) {interior : List UInt8} (h : (frame interior).length ≤ 65535) :
    (escapeSymbolAdd outbuf (frame interior)).length = ((frame interior).length + interior.countP special) % 65536 := by
  rw [escapeSymbolAdd, drop_frame]
  show (ByteStore.read _ 0 (interior.foldl addRound ⟨outbuf, 1, (frame interior).length⟩).out_len).length = _
  rw [ByteStore.length_read, out_len_addRounds _ _ (by show (frame interior).length < 65536; omega)]

/-- deleting escapes makes nothing longer -/
theorem length_deleteLoop (bs : List UInt8) : (deleteLoop bs).length ≤ bs.length - 1 := by
  induction bs using deleteLoop.induct with
  | case1 => exact le_rfl
  | case2 a => exact le_rfl
  | case3 a b rest h ih =>
    rw [deleteLoop, if_pos h]
    simp only [List.length_cons]
    omega
  | case4 a b rest h h' ih =>
    rw [deleteLoop, if_neg h, if_pos h']
    simp only [List.length_cons]
    omega
  | case5 a b rest h h' h'' ih =>
    rw [deleteLoop, if_neg h, if_neg h', if_pos h'']
    simp only [List.length_cons]
    omega
  | case6 a b rest h h' h'' ih =>
    rw [deleteLoop, if_neg h, if_neg h', if_neg h'']
    simp only [List.length_cons] at ih ⊢
    omega

theorem length_escapeSymbolDelete (inbuf : List UInt8) : (escapeSymbolDelete inbuf).length ≤ inbuf.length := by
  rw [escapeSymbolDelete]
  split_ifs with h
  · obtain ⟨a, b, rest, rfl⟩ : ∃ a b rest, inbuf = a :: b :: rest := by
      match inbuf, h with
      | [a], h => exact absurd (Option.some.inj (h.1.symm.trans h.2)) (by decide)
      | a :: b :: rest, _ => exact ⟨a, b, rest, rfl⟩
    have hloop := length_deleteLoop (b :: rest)
    simp only [List.drop_succ_cons, List.drop_zero, List.length_append, List.length_cons, List.length_nil] at hloop ⊢
    omega
  · exact Nat.zero_le _

/-! ## The layer as a whole -/

/-- as many bytes are written as `GetFinalFrameLen` says -/
def ExactLen (outbuf : ℕ → UInt8) (x : List UInt8) : Prop := (escapeSymbolAdd outbuf x).length = getFinalFrameLen x

/-- the escaped frame has no mark between its ends; deleting its escapes gives the frame back, and adding them again gives
the escaped frame back -/
structure Invertible (outbuf : ℕ → UInt8) (x : List UInt8) : Prop where
  clean : 0x02 ∉ ((escapeSymbolAdd outbuf x).drop 1).dropLast ∧ 0x03 ∉ ((escapeSymbolAdd outbuf x).drop 1).dropLast
  back : escapeSymbolDelete (escapeSymbolAdd outbuf x) = x
  again : escapeSymbolAdd outbuf (escapeSymbolDelete (escapeSymbolAdd outbuf x)) = escapeSymbolAdd outbuf x

/-- a string with the two marks at its ends -/
theorem exists_interior {x : List UInt8} (hstart : x.head? = some 0x02) (hend : x.getLast? = some 0x03) :
    ∃ interior, x = frame interior := by
  obtain ⟨rest, rfl⟩ := List.head?_eq_some_iff.1 hstart
  rcases List.eq_nil_or_concat' rest with rfl | ⟨interior, b, rfl⟩
  · exact absurd (Option.some.inj hend) (by decide)
  · rw [← List.cons_append, List.getLast?_concat] at hend
    exact ⟨interior, by rw [Option.some.inj hend]; rfl⟩

theorem invertible_iff (outbuf : ℕ → UInt8) {interior : List UInt8} (hlen : (frame interior).length ≤ 65535) :
    Invertible outbuf (frame interior) ↔ (frame interior).length + interior.countP special ≤ 65535 := by
  constructor
  · intro h
    by_contra hlong
    have hback := congrArg List.length h.back
    have hcount : interior.countP special ≤ interior.length := List.countP_le_length
    have hle := length_escapeSymbolDelete (escapeSymbolAdd outbuf (frame interior))
    rw [hback, length_escapeSymbolAdd outbuf hlen] at hle
    rw [length_frame] at *
    omega
  · intro h
    have hadd := escapeSymbolAdd_eq outbuf interior (by rw [length_escaped]; omega)
    have hdrop : ((escaped interior).drop 1).dropLast = interior.flatMap escape := by simp [escaped]
    constructor
    · rw [hadd, hdrop]
      exact not_mem_escape interior
    · rw [hadd, escapeSymbolDelete_escaped]
    · rw [hadd, escapeSymbolDelete_escaped, hadd]

/-- **The escape layer.** For every string of a `u16` length with the marks at its ends: `GetFinalFrameLen` says two bytes
more than are written; the rest is a bijection exactly when the escaped frame has at most 65535 bytes. -/
theorem escapeLayer_iff (outbuf : ℕ → UInt8) {x : List UInt8} (hstart : x.head? = some 0x02)
    (hend : x.getLast? = some 0x03) (hlen : x.length ≤ 65535) :
    getFinalFrameLen x = ((escapeSymbolAdd outbuf x).length + 2) % 65536 ∧
      ¬ (ExactLen outbuf x ∧ Invertible outbuf x) ∧
      (Invertible outbuf x ↔ x.length + ((x.drop 1).dropLast).countP special ≤ 65535) := by
  obtain ⟨interior, rfl⟩ := exists_interior hstart hend
  have hfinal : getFinalFrameLen (frame interior) = ((escapeSymbolAdd outbuf (frame interior)).length + 2) % 65536 := by
    rw [getFinalFrameLen_eq, countP_frame, length_escapeSymbolAdd outbuf hlen]
    omega
  refine ⟨hfinal, fun h => ?_, ?_⟩
  · have hexact : (escapeSymbolAdd outbuf (frame interior)).length = _ := h.1
    have hwritten := length_escapeSymbolAdd outbuf hlen
    omega
  · rw [drop_frame]
    exact invertible_iff outbuf hlen

theorem escapeLayer_three_bytes :
    ¬ (ExactLen (fun _ => 0) [0x02, 0x1B, 0x03] ∧ Invertible (fun _ => 0) [0x02, 0x1B, 0x03]) ∧
      Invertible (fun _ => 0) [0x02, 0x1B, 0x03] := by
  obtain ⟨-, hnot, hiff⟩ := @escapeLayer_iff (fun _ => 0) [0x02, 0x1B, 0x03] rfl rfl (by decide)
  exact ⟨hnot, hiff.2 (by decide)⟩

/-- **Two bytes too many**: the empty frame is escaped to 2 bytes, `GetFinalFrameLen` says 4. -/
theorem finalLen_of_empty : ¬ ExactLen (fun _ => 0) [0x02, 0x03] := by
  unfold ExactLen
  decide

end DataConcentrator.Protocol
