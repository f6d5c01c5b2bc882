/-
The lines of a day file, as `MyStrstr` finds them in the read buffer.

- `myStrstr_line`, `myStrstr_none`: the search stops at the first line end;
- `lineCutter`: the search and the two copies after it, `encodes_lines`: they read stored lines back;
- `leftover_short`: a line of which only a part has been read leaves room for 512 more bytes.
-/
import DataConcentrator.Lib.Reassembly
import DataConcentrator.History.Query

namespace DataConcentrator.History

open Reassembly

/-! ## The search -/

/-- one round away from a line end -/
theorem myStrstrLoop_pass (len n : ℕ) {c : UInt8} {bs : List UInt8} (h : ¬ crlf <+: c :: bs) (hn : 1 ≤ n) :
    myStrstrLoop crlf 2 len (n + 1) (c :: bs) = myStrstrLoop crlf 2 len n bs := by
  have htake : (c :: bs).take 2 ≠ crlf.take 2 := by
    intro heq
    apply h
    rw [show crlf = crlf.take 2 from rfl, ← heq]
    exact List.take_prefix 2 (c :: bs)
  rw [myStrstrLoop, if_pos (by omega), if_neg htake, List.drop_one, List.tail_cons]

theorem myStrstrLoop_none (len : ℕ) {bs : List UInt8} (h : ¬ crlf <:+: bs) :
    myStrstrLoop crlf 2 len bs.length bs = 0xFFFF := by
  induction bs with
  | nil => rfl
  | cons c bs ih =>
    rw [List.infix_cons_iff, not_or] at h
    cases bs with
    | nil => rfl
    | cons d bs => rw [List.length_cons, myStrstrLoop_pass len _ h.1 (by simp), ih h.2]

theorem myStrstrLoop_line (len : ℕ) (rest : List UInt8) {line : List UInt8} (h : ¬ crlf <:+: line) :
    (line ++ (crlf ++ rest)).length ≤ len →
      myStrstrLoop crlf 2 len (line ++ (crlf ++ rest)).length (line ++ (crlf ++ rest)) =
        len - (line ++ (crlf ++ rest)).length + line.length := by
  induction line with
  | nil =>
    intro _
    rfl
  | cons c line ih =>
    intro hlen
    rw [List.infix_cons_iff, not_or] at h
    have hpass : ¬ crlf <+: c :: (line ++ (crlf ++ rest)) := by
      cases line with
      | nil => simp [crlf]
      | cons d line => simpa [crlf] using h.1
    have hpos : 1 ≤ (line ++ (crlf ++ rest)).length := by
      simp only [crlf, List.length_append, List.length_cons]
      omega
    have hmore := ih h.2 ((Nat.le_succ _).trans hlen)
    rw [List.cons_append, List.length_cons, myStrstrLoop_pass len _ hpass hpos, hmore, List.length_cons]
    rw [List.cons_append, List.length_cons] at hlen
    omega

theorem myStrstr_none {bs : List UInt8} (h : ¬ crlf <:+: bs) : myStrstr bs crlf bs.length 2 = 0xFFFF := by
  rw [myStrstr, myStrstrLoop_none _ h, ite_self]

/-- **The search stops at the end of the first line.** -/
theorem myStrstr_line (rest : List UInt8) {line : List UInt8} (h : ¬ crlf <:+: line) :
    myStrstr (line ++ (crlf ++ rest)) crlf (line ++ (crlf ++ rest)).length 2 = line.length := by
  rw [myStrstr, if_neg (by simp [crlf]), myStrstrLoop_line _ rest h le_rfl, Nat.sub_self, Nat.zero_add]

/-- bytes with a line end in them have a first line -/
theorem exists_first_line {bs : List UInt8} (h : crlf <:+: bs) : ∃ line rest, bs = line ++ (crlf ++ rest) ∧ ¬ crlf <:+: line := by
  induction bs with
  | nil => simp [crlf] at h
  | cons c bs ih =>
    by_cases hstart : crlf <+: c :: bs
    · obtain ⟨rest, hrest⟩ := hstart
      exact ⟨[], rest, hrest.symm, by simp [crlf]⟩
    · rcases List.infix_cons_iff.1 h with h | h
      · exact absurd h hstart
      · obtain ⟨line, rest, rfl, hline⟩ := ih h
        refine ⟨c :: line, rest, rfl, ?_⟩
        rw [List.infix_cons_iff, not_or]
        refine ⟨fun hpre => hstart (hpre.trans ?_), hline⟩
        exact List.prefix_append (c :: line) (crlf ++ rest)

/-! ## The cutter -/

/-- the line that the search finds, and the bytes after its end -/
def cutLine (read_buf : List UInt8) : Option (List UInt8 × List UInt8) :=
  let end_pos := myStrstr read_buf crlf read_buf.length 2
  if end_pos ≠ 0xFFFF then some (read_buf.take end_pos, read_buf.drop (end_pos + 2)) else none

theorem cutLine_none {bs : List UInt8} (h : ¬ crlf <:+: bs) : cutLine bs = none := by
  simp only [cutLine, myStrstr_none h, ne_eq, not_true_eq_false, if_false]

theorem cutLine_line (rest : List UInt8) {line : List UInt8} (h : ¬ crlf <:+: line) (hlen : line.length ≠ 0xFFFF) :
    cutLine (line ++ (crlf ++ rest)) = some (line, rest) := by
  have hdrop : (line ++ (crlf ++ rest)).drop (line.length + 2) = rest := by simp [List.drop_append, crlf]
  simp only [cutLine, myStrstr_line rest h]
  rw [if_pos hlen, List.take_left, hdrop]

theorem cutLine_some {bs line rest : List UInt8} (h : cutLine bs = some (line, rest)) :
    bs = line ++ (crlf ++ rest) ∧ ¬ crlf <:+: line ∧ line.length ≠ 0xFFFF := by
  by_cases hin : crlf <:+: bs
  · obtain ⟨line', rest', rfl, hline⟩ := exists_first_line hin
    by_cases hlen : line'.length = 0xFFFF
    · simp only [cutLine, myStrstr_line rest' hline, hlen, ne_eq, not_true_eq_false, if_false] at h
      exact absurd h (by simp)
    · rw [cutLine_line rest' hline hlen] at h
      obtain ⟨rfl, rfl⟩ := Prod.mk.inj (Option.some.inj h)
      exact ⟨rfl, hline, hlen⟩
  · rw [cutLine_none hin] at h
    exact absurd h (by simp)

def lineCutter : Cutter UInt8 (List UInt8) where
  cut := cutLine
  shorter := by
    intro bs line rest h
    rw [(cutLine_some h).1]
    simp only [crlf, List.length_append, List.length_cons]
    omega
  stable := by
    intro bs more line rest h
    obtain ⟨rfl, hline, hlen⟩ := cutLine_some h
    rw [List.append_assoc, List.append_assoc]
    exact cutLine_line (rest ++ more) hline hlen

/-- a stored line, without its end -/
structure Line (line : List UInt8) : Prop where
  short : line.length ≤ 255
  whole : ¬ crlf <:+: line

def storeLine (line : List UInt8) : List UInt8 := line ++ crlf

/-- the first byte of the line end completes no line -/
theorem not_infix_concat {line : List UInt8} (h : ¬ crlf <:+: line) : ¬ crlf <:+: line ++ [0x0D] := by
  rw [List.infix_concat_iff, not_or]
  refine ⟨?_, h⟩
  rintro ⟨pre, hpre⟩
  have hlast := congrArg List.getLast? hpre
  simp [crlf] at hlast

/-- **Stored lines read back**, none before its end. -/
theorem encodes_lines : lineCutter.Encodes Line storeLine where
  whole := by
    intro line rest h
    rw [storeLine, List.append_assoc]
    exact cutLine_line rest h.whole (by have := h.short; omega)
  part := by
    intro line xs ys h hsplit hys
    have hpre : xs <+: line ++ [0x0D] := by
      have hall : line ++ [0x0D] ++ [0x0A] = xs ++ ys := by rw [List.append_assoc]; exact hsplit
      rcases List.eq_nil_or_concat ys with rfl | ⟨ys, y, rfl⟩
      · exact absurd rfl hys
      · rw [List.concat_eq_append, ← List.append_assoc] at hall
        exact ⟨ys, (List.append_inj' hall rfl).1.symm⟩
    exact cutLine_none fun hin => not_infix_concat h.whole (hin.trans hpre.isInfix)

/-- what is left of the first bytes of stored lines -/
theorem leftover_short {lines : List (List UInt8)} (h : ∀ line ∈ lines, Line line) {xs ys : List UInt8}
    (hsplit : lines.flatMap storeLine = xs ++ ys) : (lineCutter.drain xs).2.length ≤ 257 := by
  rw [← unconsumed_eq lineCutter encodes_lines lines h xs ys hsplit]
  apply unconsumed_le
  · intro img himg
    obtain ⟨line, hline, rfl⟩ := List.mem_map.1 himg
    have hshort := (h line hline).short
    simp only [storeLine, crlf, List.length_append, List.length_cons, List.length_nil]
    omega
  · rw [← List.flatMap_def, hsplit, List.length_append]
    exact Nat.le_add_right _ _

end DataConcentrator.History
