/-
How the handlers of alarm configurations read the text of a parameter, piece by piece through `char tmp[10]`.

- `readUntil`: one piece, up to a stop;
- `readList`, `readSegments`: numbers stored one after another, and runs of them between bars;
- `readList_fields`: a list that can be read stores exactly to its fields;
- `readList_past_end`: reading on after the end of the text leaves the buffer.
-/
import DataConcentrator.Common.Text
import DataConcentrator.Lib.Owned

namespace DataConcentrator.AlarmConfig

/-- a parameter as `GetParameters` builds it: its value is a text and the zero behind it -/
structure TextParameter where
  type : UInt16
  text : List UInt8
  zero_free : 0 ∉ text

def TextParameter.empty : TextParameter := ⟨0, [], List.not_mem_nil⟩

/-- the buffer of the value -/
def TextParameter.value (p : TextParameter) : List UInt8 := p.text ++ [0]

/-! ## Pieces -/

def comma : List UInt8 := [0x2C]
def nul : List UInt8 := [0]
/-- `'|'` and the end of the text -/
def barOrNul : List UInt8 := [0x7C, 0]
def commaBarOrNul : List UInt8 := [0x2C, 0x7C, 0]

/-- `while(*msg != stop) tmp[i ++] = *(msg ++)` and the step over the stop: the piece and what follows it. `none` when
the buffer has no stop or the piece and its zero do not fit in `tmp` -/
def readUntil (stops msg : List UInt8) : Option (List UInt8 × List UInt8) :=
  let tmp := msg.takeWhile (· ∉ stops)
  if tmp.length < msg.length ∧ tmp.length < 10 then some (tmp, msg.drop (tmp.length + 1)) else none

/-- a list is its longest good piece, the byte that ends it, and the rest -/
theorem split_takeWhile (good : UInt8 → Bool) (msg : List UInt8) (h : (msg.takeWhile good).length < msg.length) :
    ∃ b, msg = msg.takeWhile good ++ b :: msg.drop ((msg.takeWhile good).length + 1) ∧ good b = false := by
  induction msg with
  | nil => simp at h
  | cons b msg ih =>
    cases hb : good b with
    | true =>
      rw [List.takeWhile_cons, hb, if_pos rfl, List.length_cons, List.length_cons] at h
      obtain ⟨z, hz, hbad⟩ := ih (by omega)
      refine ⟨z, ?_, hbad⟩
      rw [List.takeWhile_cons, hb, if_pos rfl, List.length_cons, List.drop_succ_cons, List.cons_append, ← hz]
    | false =>
      refine ⟨b, ?_, hb⟩
      rw [List.takeWhile_cons, hb]
      rfl

/-- a piece that can be read, its stop and the rest are the buffer -/
theorem readUntil_spec {stops msg tmp rest : List UInt8} (h : readUntil stops msg = some (tmp, rest)) :
    ∃ b, msg = tmp ++ b :: rest ∧ b ∈ stops := by
  unfold readUntil at h
  dsimp only at h
  split_ifs at h with hfits
  obtain ⟨rfl, rfl⟩ := Prod.mk.inj (Option.some.inj h)
  obtain ⟨b, hmsg, hb⟩ := split_takeWhile _ msg hfits.1
  exact ⟨b, hmsg, by simpa using hb⟩

/-- a piece before a comma leaves the rest of the text -/
theorem readUntil_comma {text tmp rest : List UInt8} (h0 : 0 ∉ text)
    (h : readUntil comma (text ++ [0]) = some (tmp, rest)) : ∃ text', rest = text' ++ [0] ∧ 0 ∉ text' := by
  obtain ⟨b, hmsg, hb⟩ := readUntil_spec h
  rw [comma, List.mem_singleton] at hb
  subst hb
  rcases List.eq_nil_or_concat rest with rfl | ⟨text', z, rfl⟩
  · have hlast := congrArg List.getLast? hmsg
    simp at hlast
  · rw [List.concat_eq_append, ← List.cons_append, ← List.append_assoc] at hmsg
    obtain ⟨htext, hz⟩ := List.append_inj' hmsg rfl
    refine ⟨text', by rw [List.concat_eq_append, ← hz], fun hmem => h0 ?_⟩
    rw [htext]
    simp [hmem]

/-- nothing follows the piece that the end of the text stops -/
theorem readUntil_nul {text tmp rest : List UInt8} (h0 : 0 ∉ text) (h : readUntil nul (text ++ [0]) = some (tmp, rest)) :
    rest = [] := by
  obtain ⟨b, hmsg, hb⟩ := readUntil_spec h
  rw [nul, List.mem_singleton] at hb
  subst hb
  rcases List.eq_nil_or_concat rest with rfl | ⟨text', z, rfl⟩
  · rfl
  · rw [List.concat_eq_append, ← List.cons_append, ← List.append_assoc] at hmsg
    obtain ⟨htext, _⟩ := List.append_inj' hmsg rfl
    rw [htext] at h0
    simp at h0

/-! ## Numbers -/

variable {F : Type*}

/-- a piece up to `stops`, read as a number and stored to a field of so many bits; `none` for a piece that `read`
cannot take -/
structure Slot (F : Type*) where
  stops : List UInt8
  field : F
  width : ℕ
  read : List UInt8 → Option ℤ

/-- `myatoi(tmp)` -/
def atoi (tmp : List UInt8) : Option ℤ := some (myatoi tmp)

/-- `StrToHex(&add, tmp, 1)`, after a single digit got a zero before it; an empty piece leaves an old byte in `tmp[1]` -/
def hexByte : List UInt8 → Option ℤ
  | [] => none
  | [digit] => (strToHex 1 [0x30, digit]).map fun bs => (bs.headD 0).toNat
  | tmp => (strToHex 1 tmp).map fun bs => (bs.headD 0).toNat

/-- `myatoi(tmp)`, or four bytes `0xFF` for `NA` -/
def atoiOrNA (tmp : List UInt8) : Option ℤ := some (if tmp.take 2 = [0x4E, 0x41] then 0xFFFFFFFF else myatoi tmp)

/-- the stores of a list, and what follows it -/
def readList : List (Slot F) → List UInt8 → Option (List (F × ℕ) × List UInt8)
  | [], msg => some ([], msg)
  | slot :: slots, msg => (readUntil slot.stops msg).bind fun r => (slot.read r.1).bind fun n =>
    (readList slots r.2).map fun q => ((slot.field, toUnsigned slot.width n) :: q.1, q.2)

theorem readList_fields (slots : List (Slot F)) : ∀ (msg : List UInt8) (r : List (F × ℕ) × List UInt8),
    readList slots msg = some r → r.1.map Prod.fst = slots.map Slot.field := by
  induction slots with
  | nil =>
    intro msg r h
    cases h
    rfl
  | cons slot slots ih =>
    intro msg r h
    obtain ⟨piece, _, hpiece⟩ := Option.bind_eq_some_iff.1 h
    obtain ⟨n, _, hn⟩ := Option.bind_eq_some_iff.1 hpiece
    obtain ⟨q, hq, rfl⟩ := Option.map_eq_some_iff.1 hn
    rw [List.map_cons, List.map_cons, ih _ q hq]

/-- what holds of the fields of a list holds of its stores -/
theorem readList_forall {slots : List (Slot F)} {Q : F → Prop} (hslots : ∀ slot ∈ slots, Q slot.field) {msg : List UInt8}
    {r : List (F × ℕ) × List UInt8} (h : readList slots msg = some r) : ∀ s ∈ r.1, Q s.1 := by
  intro s hs
  have hmem : s.1 ∈ slots.map Slot.field := by
    rw [← readList_fields slots msg r h]
    exact List.mem_map_of_mem hs
  obtain ⟨slot, hslot, hfield⟩ := List.mem_map.1 hmem
  rw [← hfield]
  exact hslots slot hslot

/-- the loop over `seg_num` segments, from segment `n` on -/
def readSegments (segment : ℕ → List UInt8 → Option (List (F × ℕ) × List UInt8)) :
    ℕ → ℕ → List UInt8 → Option (List (F × ℕ))
  | _, 0, _ => some []
  | n, left + 1, msg => (segment n msg).bind fun r => (readSegments segment (n + 1) left r.2).map (r.1 ++ ·)

/-- what holds of the stores of each segment holds of all -/
theorem readSegments_forall {segment : ℕ → List UInt8 → Option (List (F × ℕ) × List UInt8)} {Q : F × ℕ → Prop}
    (hseg : ∀ n msg r, segment n msg = some r → ∀ s ∈ r.1, Q s) (left : ℕ) : ∀ n msg a,
    readSegments segment n left msg = some a → ∀ s ∈ a, Q s := by
  induction left with
  | zero =>
    intro n msg a h s hs
    cases h
    simp at hs
  | succ left ih =>
    intro n msg a h s hs
    obtain ⟨r, hr, hrest⟩ := Option.bind_eq_some_iff.1 h
    obtain ⟨a', ha', rfl⟩ := Option.map_eq_some_iff.1 hrest
    rcases List.mem_append.1 hs with hs | hs
    · exact hseg n msg r hr s hs
    · exact ih (n + 1) r.2 a' ha' s hs

/-- `seg_num`, a `u8` -/
def segNum (text : List UInt8) : ℕ := (text.count 0x7C + 1) % 256

/-- **Reading past the end.** After a piece up to the end of the text nothing more can be read. -/
theorem readList_past_end {a b c d : Slot F} (ha : a.stops = comma) (hb : b.stops = comma) (hc : c.stops = nul)
    {text : List UInt8} (h0 : 0 ∉ text) : readList [a, b, c, d] (text ++ [0]) = none := by
  rw [Option.eq_none_iff_forall_not_mem]
  intro r h
  rw [Option.mem_def] at h
  obtain ⟨⟨ta, ra⟩, hra, h⟩ := Option.bind_eq_some_iff.1 h
  obtain ⟨_, _, h⟩ := Option.bind_eq_some_iff.1 h
  obtain ⟨_, h, _⟩ := Option.map_eq_some_iff.1 h
  obtain ⟨⟨tb, rb⟩, hrb, h⟩ := Option.bind_eq_some_iff.1 h
  obtain ⟨_, _, h⟩ := Option.bind_eq_some_iff.1 h
  obtain ⟨_, h, _⟩ := Option.map_eq_some_iff.1 h
  obtain ⟨⟨tc, rc⟩, hrc, h⟩ := Option.bind_eq_some_iff.1 h
  obtain ⟨_, _, h⟩ := Option.bind_eq_some_iff.1 h
  obtain ⟨_, h, _⟩ := Option.map_eq_some_iff.1 h
  obtain ⟨⟨td, rd⟩, hrd, _⟩ := Option.bind_eq_some_iff.1 h
  rw [ha] at hra
  obtain ⟨texta, rfl, hza⟩ := readUntil_comma h0 hra
  rw [hb] at hrb
  obtain ⟨textb, rfl, hzb⟩ := readUntil_comma hza hrb
  rw [hc] at hrc
  obtain rfl := readUntil_nul hzb hrc
  simp [readUntil] at hrd

end DataConcentrator.AlarmConfig
