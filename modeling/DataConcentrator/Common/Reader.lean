/-
How the handlers read a parameter: field after field is copied to a scratch buffer, and segments are counted by their
bars before they are read.

- `field_text`, `field_number`: what a field gives, and where the reader stands after it;
- `segNum_intercalate`: segments with a bar between each two are counted as they are;
- `readSegments_first`, `readSegments_text`: and read as they are, each in the state the one before left;
- `myatoi_upTo`, `myatoi_digits`: a text of digits is the number they make.
-/
import Mathlib.Data.Bool.AllAny
import DataConcentrator.Common.Print
import DataConcentrator.Lib.TextScan

namespace DataConcentrator

/-! ## Fields -/

/-- `msg`, and the scratch buffer `tmp` the fields are copied to -/
structure Reader where
  msg : List UInt8
  tmp : List UInt8
deriving DecidableEq, Repr

def isComma (b : UInt8) : Bool := b = 0x2C

def isBar (b : UInt8) : Bool := b = 0x7C

/-- `*msg == ',' || *msg == '|' || *msg == '\0'` -/
def endsField (b : UInt8) : Bool := b = 0x2C || b = 0x7C || b = 0

/-- a field is copied to `tmp` with a terminator, and the byte that ends it is passed; `none` where nothing ends it or
it does not fit -/
def Reader.field (size : ℕ) (ends : UInt8 → Bool) (r : Reader) : Option (List UInt8 × Reader) :=
  (TextScan.scan size ends r.msg).map fun s => (s.1, ⟨s.2.drop 1, TextScan.overlay 0 s.1 r.tmp⟩)

/-- the texts no separator is in -/
def Plain (text : List UInt8) : Prop := ∀ x ∈ text, x ∉ [0, 0x2C, 0x7C]

theorem field_text {size : ℕ} {ends : UInt8 → Bool} {text rest tmp : List UInt8} {b : UInt8} (hb : ends b = true)
    (hends : ∀ x, ends x = true → x ∈ [0, 0x2C, 0x7C]) (htext : Plain text) (hlen : text.length < size) :
    (Reader.mk (text ++ b :: rest) tmp).field size ends = some (text, ⟨rest, TextScan.overlay 0 text tmp⟩) := by
  have hplain : ∀ x ∈ text, ends x = false := by
    intro x hx
    cases hx' : ends x with
    | false => rfl
    | true => exact absurd (hends x hx') (htext x hx)
  rw [Reader.field, TextScan.scan_text hb hplain hlen]
  rfl

theorem plain_sprintfD (n : ℤ) : Plain (sprintfD n) := fun _ hx => not_mem_sprintfD hx

theorem plain_digits {text : List UInt8} (h : ∀ x ∈ text, myisdigit x = true) : Plain text := by
  intro x hx hsep
  have hother : ∀ y ∈ ([0, 0x2C, 0x7C] : List UInt8), myisdigit y = false := List.all_iff_forall_prop.1 (by decide)
  exact absurd (h x hx) (by rw [hother x hsep]; decide)

theorem isComma_separates : ∀ x, isComma x = true → x ∈ [0, 0x2C, 0x7C] := fun x hx => by
  rw [of_decide_eq_true hx]
  decide

theorem isBar_separates : ∀ x, isBar x = true → x ∈ [0, 0x2C, 0x7C] := fun x hx => by
  rw [of_decide_eq_true hx]
  decide

theorem endsField_separates : ∀ x, endsField x = true → x ∈ [0, 0x2C, 0x7C] := fun x hx => by
  simp only [endsField, Bool.or_eq_true, decide_eq_true_eq] at hx
  rcases hx with (rfl | rfl) | rfl <;> decide

/-- a field up to a comma -/
theorem field_isComma {size : ℕ} {text tmp : List UInt8} (rest : List UInt8) (htext : Plain text)
    (hlen : text.length < size) :
    (Reader.mk (text ++ 0x2C :: rest) tmp).field size isComma = some (text, ⟨rest, TextScan.overlay 0 text tmp⟩) :=
  field_text (by decide) isComma_separates htext hlen

/-- a field up to a bar -/
theorem field_isBar {size : ℕ} {text tmp : List UInt8} (rest : List UInt8) (htext : Plain text)
    (hlen : text.length < size) :
    (Reader.mk (text ++ 0x7C :: rest) tmp).field size isBar = some (text, ⟨rest, TextScan.overlay 0 text tmp⟩) :=
  field_text (by decide) isBar_separates htext hlen

/-! ## Segments -/

/-- `seg_num`, a `u8`: one more than the bars before the terminator, `most` at most -/
def segNum (most : ℕ) (msg : List UInt8) : Option ℕ :=
  if 0 ∈ msg then some (min (((cstr msg).count 0x7C + 1) % 256) most) else none

/-- `msg -= pos`, where `pos` is a `u16` -/
def rewound (msg : List UInt8) : List UInt8 := msg.drop ((cstr msg).length - (cstr msg).length % 65536)

theorem cstr_text {text : List UInt8} (h : 0 ∉ text) (rest : List UInt8) : cstr (text ++ 0 :: rest) = text := by
  rw [cstr_append h, cstr, List.takeWhile_cons_of_neg (by decide), List.append_nil]

theorem rewound_text {text : List UInt8} (h : 0 ∉ text) (hlen : text.length < 65536) (rest : List UInt8) :
    rewound (text ++ 0 :: rest) = text ++ 0 :: rest := by
  rw [rewound, cstr_text h, Nat.mod_eq_of_lt hlen, Nat.sub_self, List.drop_zero]

section Segments

/-- what may stand between two bars -/
def Segment (text : List UInt8) : Prop := ∀ x ∈ text, x ∉ [0, 0x7C]

variable {texts : List (List UInt8)}

theorem segments_terminate (h : ∀ t ∈ texts, Segment t) : 0 ∉ [0x7C].intercalate texts := by
  intro h0
  rcases TextScan.mem_intercalate h0 with heq | ⟨t, ht, h0⟩
  · exact absurd heq (by decide)
  · exact h t ht 0 h0 (by decide)

theorem segNum_intercalate {most : ℕ} (h : ∀ t ∈ texts, Segment t) (hpos : 0 < texts.length)
    (hmost : texts.length ≤ most) (h255 : texts.length ≤ 255) (rest : List UInt8) :
    segNum most ([0x7C].intercalate texts ++ 0 :: rest) = some texts.length := by
  obtain ⟨text, texts, rfl⟩ := List.exists_cons_of_length_pos hpos
  have hbars : ∀ t ∈ text :: texts, (0x7C : UInt8) ∉ t := fun t ht hx => h t ht _ hx (by decide)
  rw [List.length_cons] at hmost h255 ⊢
  rw [segNum, if_pos (List.mem_append_right _ List.mem_cons_self), cstr_text (segments_terminate h),
    TextScan.count_intercalate hbars, Nat.mod_eq_of_lt (by omega), Nat.min_eq_left hmost]

end Segments

/-! ## Reading the segments -/

section ReadSegments

variable {σ α β : Type*}

/-- `n` segments, one after another; `s` is what outlives each of them -/
def readSegments (step : σ → Reader → Option (β × σ × Reader)) : ℕ → σ → Reader → Option (List β × σ × Reader)
  | 0, s, r => some ([], s, r)
  | n + 1, s, r => do
    let (b, s, r) ← step s r
    let (bs, s, r) ← readSegments step n s r
    some (b :: bs, s, r)

/-- what segments give, each in the state the one before left -/
def valuesFrom (value : σ → α → β) (next : σ → α → σ) : σ → List α → List β
  | _, [] => []
  | s, a :: as => value s a :: valuesFrom value next (next s a) as

/-- `step` reads a text, up to any byte that ends it -/
def ReadsUpTo (ends : UInt8 → Bool) (step : σ → Reader → Option (β × σ × Reader)) (text : α → List UInt8)
    (value : σ → α → β) (next : σ → α → σ) (a : α) : Prop :=
  ∀ s (b : UInt8) rest tmp, ends b = true →
    ∃ tmp', step s ⟨text a ++ b :: rest, tmp⟩ = some (value s a, next s a, ⟨rest, tmp'⟩)

/-- the first `n` of the texts with a separator between each two are read, and all of them up to what stops them -/
theorem readSegments_first {ends : UInt8 → Bool} {sep stop : UInt8} (hsep : ends sep = true) (hstop : ends stop = true)
    {step : σ → Reader → Option (β × σ × Reader)} {text : α → List UInt8} {value : σ → α → β} {next : σ → α → σ}
    {as : List α} (h : ∀ a ∈ as, ReadsUpTo ends step text value next a) (hne : as ≠ []) (rest : List UInt8) :
    ∀ n ≤ as.length, ∀ s tmp, ∃ r, readSegments step n s ⟨[sep].intercalate (as.map text) ++ stop :: rest, tmp⟩ =
      some (valuesFrom value next s (as.take n), (as.take n).foldl next s, r) ∧ (n = as.length → r.msg = rest) := by
  induction as with
  | nil => exact absurd rfl hne
  | cons a as ih =>
    intro n hn s tmp
    cases n with
    | zero => exact ⟨_, rfl, fun h0 => absurd h0 (by simp)⟩
    | succ n =>
      have hread := h a List.mem_cons_self
      cases as with
      | nil =>
        obtain rfl : n = 0 := by simpa using hn
        obtain ⟨tmp', hlast⟩ := hread s stop rest tmp hstop
        refine ⟨⟨rest, tmp'⟩, ?_, fun _ => rfl⟩
        rw [List.map_cons, List.map_nil, List.intercalate_singleton, readSegments, hlast]
        rfl
      | cons next_a as =>
        obtain ⟨tmp₁, hfirst⟩ := hread s sep ([sep].intercalate ((next_a :: as).map text) ++ stop :: rest) tmp hsep
        obtain ⟨r, hmore, hend⟩ := ih (fun a' ha' => h a' (List.mem_cons_of_mem a ha')) (List.cons_ne_nil _ _) n
          (Nat.le_of_succ_le_succ hn) (next s a) tmp₁
        refine ⟨r, ?_, fun heq => hend (Nat.succ_injective heq)⟩
        rw [List.map_cons, List.map_cons, List.intercalate_cons_cons, readSegments]
        simp only [List.append_assoc, List.cons_append, List.nil_append]
        rw [List.map_cons] at hfirst hmore
        rw [hfirst]
        simp only [Option.bind_eq_bind, Option.bind_some]
        rw [hmore]
        rfl

/-- `step` reads the text of a segment, up to any byte that ends it -/
def ReadsSegment (step : σ → Reader → Option (β × σ × Reader)) (text : α → List UInt8) (value : σ → α → β)
    (next : σ → α → σ) (a : α) : Prop :=
  ∀ s (b : UInt8) rest tmp, endsField b = true →
    ∃ tmp', step s ⟨text a ++ b :: rest, tmp⟩ = some (value s a, next s a, ⟨rest, tmp'⟩)

/-- **Segments** with a bar between each two are read one after another, up to the terminator. -/
theorem readSegments_text {step : σ → Reader → Option (β × σ × Reader)} {text : α → List UInt8} {value : σ → α → β}
    {next : σ → α → σ} {as : List α} (h : ∀ a ∈ as, ReadsSegment step text value next a) (hne : as ≠ [])
    (rest : List UInt8) : ∀ s tmp, ∃ tmp', readSegments step as.length s
      ⟨[0x7C].intercalate (as.map text) ++ 0 :: rest, tmp⟩ =
        some (valuesFrom value next s as, as.foldl next s, ⟨rest, tmp'⟩) := by
  intro s tmp
  have hbar : endsField 0x7C = true := by decide
  have hzero : endsField 0 = true := by decide
  obtain ⟨r, hread, hend⟩ := readSegments_first hbar hzero h hne rest as.length le_rfl s tmp
  refine ⟨r.tmp, ?_⟩
  rw [hread, List.take_length, ← hend rfl]

/-- segments that nothing outlives -/
theorem valuesFrom_const (value : α → β) (s : σ) (as : List α) :
    valuesFrom (fun _ => value) (fun s _ => s) s as = as.map value := by
  induction as with
  | nil => rfl
  | cons a as ih => exact congrArg _ ih

@[simp] theorem length_valuesFrom (value : σ → α → β) (next : σ → α → σ) (as : List α) :
    ∀ s, (valuesFrom value next s as).length = as.length := by
  induction as with
  | nil => exact fun _ => rfl
  | cons a as ih => exact fun s => congrArg (· + 1) (ih (next s a))

theorem valuesFrom_concat (value : σ → α → β) (next : σ → α → σ) (as : List α) (a : α) :
    ∀ s, valuesFrom value next s (as ++ [a]) = valuesFrom value next s as ++ [value (as.foldl next s) a] := by
  induction as with
  | nil => exact fun _ => rfl
  | cons b as ih => exact fun s => congrArg (value s b :: ·) (ih (next s b))

end ReadSegments

/-! ## Numbers -/

/-- a number stored in a `u8` -/
def u8Of (text : List UInt8) : UInt8 := UInt8.ofNat (toUnsigned 8 (myatoi text))

theorem u8Of_sprintfD (b : UInt8) : u8Of (sprintfD b.toNat) = b := by
  have hb := b.toNat_lt
  have hmod : toUnsigned 8 (b.toNat : ℤ) = b.toNat := by
    rw [toUnsigned]
    omega
  rw [u8Of, myatoi_sprintfD, hmod]
  exact UInt8.ofNat_toNat

theorem length_sprintfD_byte (b : UInt8) : (sprintfD (b.toNat : ℤ)).length ≤ 3 := by
  have hb := b.toNat_lt
  exact length_sprintfD_le (k := 3) (by decide) (by omega)

/-- the digits of a text, from its first on -/
def digitValue (text : List UInt8) : ℤ := text.foldl (fun (total : ℤ) c => 10 * total + (c.toNat - 0x30 : ℤ)) 0

theorem digitValue_nonneg {text : List UInt8} (h : ∀ x ∈ text, myisdigit x = true) : 0 ≤ digitValue text := by
  induction text using List.reverseRecOn with
  | nil => exact le_rfl
  | append_singleton text d ih =>
    have htext := ih fun x hx => h x (List.mem_append_left _ hx)
    have hd : (0x30 : UInt8) ≤ d := (of_decide_eq_true (h d (by simp))).1
    have hle : (0x30 : UInt8).toNat ≤ d.toNat := UInt8.le_iff_toNat_le.1 hd
    have hzero : (0x30 : UInt8).toNat = 48 := rfl
    rw [digitValue] at htext ⊢
    rw [List.foldl_append, List.foldl_cons, List.foldl_nil]
    omega

/-- the digits end with the text or with a byte that is none -/
theorem myatoi_upTo {text rest : List UInt8} (hne : text ≠ []) (h : ∀ x ∈ text, myisdigit x = true)
    (hrest : ∀ b ∈ rest.head?, myisdigit b = false) : myatoi (text ++ rest) = digitValue text := by
  obtain ⟨d, ds, rfl⟩ := List.exists_cons_of_ne_nil hne
  obtain ⟨hspace, hminus, hplus⟩ := digit_plain d (h d List.mem_cons_self)
  have hdrop : (d :: ds ++ rest).dropWhile myisspace = d :: ds ++ rest := List.dropWhile_cons_of_neg (by simp [hspace])
  have hstop : rest.takeWhile myisdigit = [] := by
    cases rest with
    | nil => rfl
    | cons b rest => exact List.takeWhile_cons_of_neg (by simp [hrest b rfl])
  have htake : (d :: ds ++ rest).takeWhile myisdigit = d :: ds := by
    rw [List.takeWhile_append_of_pos h, hstop, List.append_nil]
  rw [myatoi, hdrop]
  simp only [List.cons_append, List.headD_cons, hminus, hplus, or_self, if_false]
  rw [← List.cons_append, htake]
  rfl

theorem myatoi_digits {text : List UInt8} (hne : text ≠ []) (h : ∀ x ∈ text, myisdigit x = true) :
    myatoi text = digitValue text := by
  have htext := @myatoi_upTo text [] hne h (by simp)
  rwa [List.append_nil] at htext

/-- a number of a byte is stored as it stands -/
theorem u8Of_digits {text : List UInt8} (hne : text ≠ []) (h : ∀ x ∈ text, myisdigit x = true)
    (hle : digitValue text ≤ 255) : u8Of text = UInt8.ofNat (digitValue text).toNat := by
  have hnonneg := digitValue_nonneg h
  have hword : toUnsigned 8 (digitValue text) = (digitValue text).toNat := by
    unfold toUnsigned
    omega
  rw [u8Of, myatoi_digits hne h, hword]

end DataConcentrator
