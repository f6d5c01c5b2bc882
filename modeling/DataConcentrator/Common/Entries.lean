/-
Lists of entries as the handlers of alarm configurations print and read them: fields with a comma between each two, and
entries with a bar between each two.

An entry starts with an address and the numbers of its place; its values are read only where the place is accepted.
- `printEntries_eq`: the entries come out, or do not fit the buffer;
- `read_text`, `read_long`, `read_rejected`: an entry that is read as it stands, one with a field that is too long, and
  one whose values are left to the next;
- `place_of_read`: the place of whatever is read;
- `readAll_text`, `readAll_long`: a list of entries;
- `print_entries`, `length_le_entriesWidth`: how much room it takes.
-/
import DataConcentrator.Common.Hex
import DataConcentrator.Relay.StrategyText

namespace DataConcentrator

open Relay (sprintfX)

/-! ## Printing -/

/-- the fields of an entry as they are written -/
def entryPieces : List (List UInt8) → List (List UInt8)
  | [] => []
  | [field] => [field, [0x7C]]
  | field :: fields => field :: [0x2C] :: entryPieces fields

/-- the entries in a buffer of `size` bytes, without the bar behind the last -/
def printEntries (size : ℕ) (entries : List (List (List UInt8))) : Option (List UInt8) :=
  (strcats size (entries.flatMap entryPieces)).map List.dropLast

/-- an entry -/
def entryLine (fields : List (List UInt8)) : List UInt8 := [0x2C].intercalate fields

/-- how much room an entry takes, with what follows it -/
def entryWidth (fields : List (List UInt8)) : ℕ := (fields.map fun field => field.length + 1).sum

theorem flatten_entryPieces {fields : List (List UInt8)} (h : fields ≠ []) :
    (entryPieces fields).flatten = entryLine fields ++ [0x7C] := by
  induction fields with
  | nil => exact absurd rfl h
  | cons field fields ih =>
    cases fields with
    | nil =>
      rw [entryLine, List.intercalate_singleton]
      simp [entryPieces]
    | cons next fields =>
      have hmore := ih (List.cons_ne_nil _ _)
      rw [entryLine] at hmore ⊢
      rw [entryPieces, List.flatten_cons, List.flatten_cons, hmore, List.intercalate_cons_cons]
      simp only [List.append_assoc]
      exact List.cons_ne_nil _ _

theorem length_entryPieces (fields : List (List UInt8)) : (entryPieces fields).flatten.length = entryWidth fields := by
  induction fields with
  | nil => rfl
  | cons field fields ih =>
    cases fields with
    | nil => simp [entryPieces, entryWidth]
    | cons next fields =>
      rw [entryPieces, List.flatten_cons, List.flatten_cons, List.length_append, List.length_append, ih]
      · change field.length + (1 + entryWidth (next :: fields)) = field.length + 1 + entryWidth (next :: fields)
        omega
      · exact List.cons_ne_nil _ _

/-- a separator behind each text, but the last -/
theorem dropLast_separated (sep : UInt8) (texts : List (List UInt8)) :
    (texts.flatMap fun t => t ++ [sep]).dropLast = [sep].intercalate texts := by
  induction texts with
  | nil => rfl
  | cons text texts ih =>
    cases texts with
    | nil => simp [List.intercalate_singleton]
    | cons next texts =>
      have hne : (next :: texts).flatMap (fun t => t ++ [sep]) ≠ [] := by simp
      rw [List.flatMap_cons, List.dropLast_append_of_ne_nil hne, ih, List.intercalate_cons_cons]

/-- **Printed entries.** -/
theorem printEntries_eq {size : ℕ} (hsize : 0 < size) {entries : List (List (List UInt8))} (h : ∀ e ∈ entries, e ≠ []) :
    printEntries size entries = if (entries.map entryWidth).sum < size then
      some ([0x7C].intercalate (entries.map entryLine)) else none := by
  have hpieces : (entries.flatMap entryPieces).flatten = entries.flatMap fun e => (entryPieces e).flatten := by
    rw [List.flatten_eq_flatMap, List.flatMap_assoc]
    exact List.flatMap_congr fun e _ => List.flatten_eq_flatMap.symm
  have hflatten : (entries.flatMap entryPieces).flatten = (entries.map entryLine).flatMap fun t => t ++ [0x7C] := by
    rw [hpieces, List.flatMap_map]
    exact List.flatMap_congr fun e he => flatten_entryPieces (h e he)
  have hlength : (entries.flatMap entryPieces).flatten.length = (entries.map entryWidth).sum := by
    rw [hpieces, List.length_flatMap]
    exact congrArg List.sum (List.map_congr_left fun e _ => length_entryPieces e)
  rw [printEntries, strcats_eq hsize, hlength, hflatten]
  split_ifs
  · rw [Option.map_some, dropLast_separated]
  · rfl

/-! ## Reading -/

/-- so many fields, each up to a comma -/
def readHead (size : ℕ) : ℕ → Reader → Option (List (List UInt8) × Reader)
  | 0, r => some ([], r)
  | n + 1, r => (r.field size isComma).bind fun a => (readHead size n a.2).map fun b => (a.1 :: b.1, b.2)

/-- so many fields and one more, which ends with a comma, a bar or the text -/
def readValues (size n : ℕ) (r : Reader) : Option (List (List UInt8) × Reader) :=
  (readHead size n r).bind fun a => (a.2.field size endsField).map fun b => (a.1 ++ [b.1], b.2)

/-- what is read of an entry: the address, the numbers of the place, and the values if the place is accepted -/
structure Entry where
  add : UInt8
  place : List (List UInt8)
  values : Option (List (List UInt8))
deriving DecidableEq

/-- how a handler reads an entry: into `tmp[size]`, so many numbers, and values besides the last -/
structure EntryFormat where
  size : ℕ
  place : ℕ
  more : ℕ
  accepts : List (List UInt8) → Bool

/-- one entry -/
def EntryFormat.read (F : EntryFormat) (r : Reader) : Option (Entry × Reader) :=
  (r.field F.size isComma).bind fun a => (hexOf a.2 a.1).bind fun add => (readHead F.size F.place a.2).bind fun b =>
    if F.accepts b.1 then (readValues F.size F.more b.2).map fun c => (⟨add, b.1, some c.1⟩, c.2)
    else some (⟨add, b.1, none⟩, b.2)

/-- one entry after another -/
def EntryFormat.step (F : EntryFormat) (_ : Unit) (r : Reader) : Option (Entry × Unit × Reader) :=
  (F.read r).map fun e => (e.1, (), e.2)

/-- all entries of a parameter, and `tmp` after them; an empty one is not read -/
def EntryFormat.readAll (F : EntryFormat) (tmp text : List UInt8) : Option (List Entry × List UInt8) :=
  if text.length = 0 then some ([], tmp)
  else (segNum 255 (text ++ [0])).bind fun n =>
    (readSegments F.step n () ⟨text ++ [0], tmp⟩).map fun x => (x.1, x.2.2.tmp)

/-! ## Fields -/

section Fields

variable {size : ℕ} {ends : UInt8 → Bool} {text rest tmp : List UInt8} {texts : List (List UInt8)}

theorem field_long (hends : ∀ x, ends x = true → x ∈ [0, 0x2C, 0x7C]) (htext : Plain text) (hlen : size ≤ text.length) :
    (Reader.mk (text ++ rest) tmp).field size ends = none := by
  have hplain : ∀ x ∈ text, ends x = false := by
    intro x hx
    cases hx' : ends x with
    | false => rfl
    | true => exact absurd (hends x hx') (htext x hx)
  rw [Reader.field, TextScan.scan_long hplain hlen]
  rfl

theorem readHead_text (hplain : ∀ t ∈ texts, Plain t) (hshort : ∀ t ∈ texts, t.length < size) : ∀ tmp, ∃ tmp',
    readHead size texts.length ⟨texts.flatMap (fun t => t ++ [0x2C]) ++ rest, tmp⟩ = some (texts, ⟨rest, tmp'⟩) := by
  induction texts with
  | nil => exact fun tmp => ⟨tmp, rfl⟩
  | cons t texts ih =>
    intro tmp
    obtain ⟨tmp', hmore⟩ := ih (fun s hs => hplain s (List.mem_cons_of_mem t hs))
      (fun s hs => hshort s (List.mem_cons_of_mem t hs)) (TextScan.overlay 0 t tmp)
    refine ⟨tmp', ?_⟩
    rw [List.flatMap_cons, List.append_assoc, List.append_assoc, List.singleton_append, List.length_cons, readHead,
      field_isComma _ (hplain t List.mem_cons_self) (hshort t List.mem_cons_self), Option.bind_some, hmore]
    rfl

theorem readHead_long (hplain : ∀ t ∈ texts, Plain t) (hlong : ∃ t ∈ texts, size ≤ t.length) : ∀ tmp,
    readHead size texts.length ⟨texts.flatMap (fun t => t ++ [0x2C]) ++ rest, tmp⟩ = none := by
  induction texts with
  | nil =>
    obtain ⟨t, ht, -⟩ := hlong
    cases ht
  | cons t texts ih =>
    intro tmp
    rw [List.flatMap_cons, List.append_assoc, List.append_assoc, List.singleton_append, List.length_cons, readHead]
    by_cases ht : size ≤ t.length
    · rw [field_long isComma_separates (hplain t List.mem_cons_self) ht]
      rfl
    · have hmore : ∃ s ∈ texts, size ≤ s.length := by
        obtain ⟨s, hs, hlen⟩ := hlong
        rcases List.mem_cons.1 hs with rfl | hs
        · exact absurd hlen ht
        · exact ⟨s, hs, hlen⟩
      rw [field_isComma _ (hplain t List.mem_cons_self) (Nat.not_le.1 ht), Option.bind_some,
        ih (fun s hs => hplain s (List.mem_cons_of_mem t hs)) hmore]
      rfl

/-- the last of some fields stands apart -/
theorem entryLine_concat (fields : List (List UInt8)) (last : List UInt8) :
    entryLine (fields ++ [last]) = fields.flatMap (fun t => t ++ [0x2C]) ++ last := by
  induction fields with
  | nil =>
    rw [List.nil_append, entryLine, List.intercalate_singleton]
    rfl
  | cons field fields ih =>
    obtain ⟨next, more, hmore⟩ : ∃ next more, fields ++ [last] = next :: more := by
      cases fields with
      | nil => exact ⟨last, [], rfl⟩
      | cons next fields => exact ⟨next, fields ++ [last], rfl⟩
    rw [entryLine] at ih ⊢
    rw [List.cons_append, hmore, List.intercalate_cons_cons, ← hmore, ih, List.flatMap_cons]
    simp only [List.append_assoc]

end Fields

/-! ## Entries -/

/-- the texts of an entry -/
structure EntryText where
  add : List UInt8
  place : List (List UInt8)
  values : List (List UInt8)

def EntryText.fields (e : EntryText) : List (List UInt8) := e.add :: (e.place ++ e.values)

/-- a text with as many fields as the handler reads, and no separator in them -/
structure EntryFormat.Shaped (F : EntryFormat) (e : EntryText) : Prop where
  add : e.add ≠ []
  place : e.place.length = F.place
  values : e.values.length = F.more + 1
  plain : ∀ t ∈ e.fields, Plain t

/-- every field, with a terminator, fits `tmp` -/
def EntryFormat.Short (F : EntryFormat) (e : EntryText) : Prop := ∀ t ∈ e.fields, t.length < F.size

/-- what is read of an accepted entry -/
def EntryText.entry (e : EntryText) : Entry := ⟨hexByteOf e.add, e.place, some e.values⟩

section Entries

variable {F : EntryFormat} {e : EntryText} {b : UInt8}

theorem EntryText.values_split (e : EntryText) (h : e.values ≠ []) : entryLine e.fields =
    e.add ++ 0x2C :: (e.place.flatMap (fun t => t ++ [0x2C]) ++
      (e.values.dropLast.flatMap (fun t => t ++ [0x2C]) ++ e.values.getLast h)) := by
  have hfields : e.fields = (e.add :: (e.place ++ e.values.dropLast)) ++ [e.values.getLast h] := by
    rw [EntryText.fields, List.cons_append, List.append_assoc, List.dropLast_append_getLast h]
  rw [hfields, entryLine_concat, List.flatMap_cons, List.flatMap_append]
  simp only [List.append_assoc, List.cons_append, List.nil_append]

theorem EntryFormat.Shaped.values_ne_nil (h : F.Shaped e) : e.values ≠ [] := by
  intro hnil
  have hlen := h.values
  rw [hnil] at hlen
  cases hlen

/-- address and place, up to where the values are -/
theorem EntryFormat.read_place (h : F.Shaped e) (hadd : e.add.length < F.size)
    (hplace : ∀ t ∈ e.place, t.length < F.size) (msg tmp : List UInt8) :
    ∃ tmp', F.read ⟨e.add ++ 0x2C :: (e.place.flatMap (fun t => t ++ [0x2C]) ++ msg), tmp⟩ =
      if F.accepts e.place then
        (readValues F.size F.more ⟨msg, tmp'⟩).map fun c => (⟨hexByteOf e.add, e.place, some c.1⟩, c.2)
      else some (⟨hexByteOf e.add, e.place, none⟩, ⟨msg, tmp'⟩) := by
  have hplain : ∀ t ∈ e.place, Plain t := fun t ht =>
    h.plain t (List.mem_cons_of_mem _ (List.mem_append_left _ ht))
  obtain ⟨tmp', hread⟩ := @readHead_text F.size msg e.place hplain hplace (TextScan.overlay 0 e.add tmp)
  refine ⟨tmp', ?_⟩
  rw [EntryFormat.read, field_isComma _ (h.plain e.add List.mem_cons_self) hadd, Option.bind_some,
    hexOf_overlay (List.length_pos_iff.2 h.add), Option.bind_some, ← h.place, hread, Option.bind_some]

theorem length_values_dropLast (h : F.Shaped e) : e.values.dropLast.length = F.more := by
  rw [List.length_dropLast, h.values, Nat.add_sub_cancel]

/-- **An entry** whose place is accepted is read as it stands. -/
theorem EntryFormat.read_text (h : F.Shaped e) (hshort : F.Short e) (haccepts : F.accepts e.place = true)
    (hb : endsField b = true) (rest tmp : List UInt8) :
    ∃ tmp', F.read ⟨entryLine e.fields ++ b :: rest, tmp⟩ = some (e.entry, ⟨rest, tmp'⟩) := by
  have hne := h.values_ne_nil
  have hvalue : ∀ t ∈ e.values, Plain t ∧ t.length < F.size := fun t ht =>
    have hmem : t ∈ e.fields := List.mem_cons_of_mem _ (List.mem_append_right _ ht)
    ⟨h.plain t hmem, hshort t hmem⟩
  obtain ⟨tmp₁, hplace⟩ := EntryFormat.read_place h (hshort e.add List.mem_cons_self)
    (fun t ht => hshort t (List.mem_cons_of_mem _ (List.mem_append_left _ ht)))
    (e.values.dropLast.flatMap (fun t => t ++ [0x2C]) ++ (e.values.getLast hne ++ b :: rest)) tmp
  obtain ⟨tmp₂, hmore⟩ := @readHead_text F.size (e.values.getLast hne ++ b :: rest) e.values.dropLast
    (fun t ht => (hvalue t (List.mem_of_mem_dropLast ht)).1) (fun t ht => (hvalue t (List.mem_of_mem_dropLast ht)).2) tmp₁
  have hlast := hvalue _ (List.getLast_mem hne)
  refine ⟨TextScan.overlay 0 (e.values.getLast hne) tmp₂, ?_⟩
  rw [length_values_dropLast h] at hmore
  rw [e.values_split hne]
  simp only [List.append_assoc, List.cons_append]
  rw [hplace, if_pos haccepts, readValues, hmore, Option.bind_some, field_text hb endsField_separates hlast.1 hlast.2]
  simp only [Option.map_some, List.dropLast_append_getLast]
  rfl

/-- an entry with a field that does not fit is not read -/
theorem EntryFormat.read_long (h : F.Shaped e) (hlong : ¬F.Short e) (haccepts : F.accepts e.place = true)
    (rest tmp : List UInt8) : F.read ⟨entryLine e.fields ++ b :: rest, tmp⟩ = none := by
  have hne := h.values_ne_nil
  have hplain : ∀ t ∈ e.place ++ e.values, Plain t := fun t ht => h.plain t (List.mem_cons_of_mem _ ht)
  rw [e.values_split hne]
  simp only [List.append_assoc, List.cons_append]
  by_cases hadd : e.add.length < F.size
  case neg =>
    rw [EntryFormat.read, field_long isComma_separates (h.plain e.add List.mem_cons_self) (Nat.not_lt.1 hadd)]
    rfl
  by_cases hplace : ∀ t ∈ e.place, t.length < F.size
  case neg =>
    push Not at hplace
    rw [EntryFormat.read, field_isComma _ (h.plain e.add List.mem_cons_self) hadd, Option.bind_some,
      hexOf_overlay (List.length_pos_iff.2 h.add), Option.bind_some, ← h.place,
      readHead_long (fun t ht => hplain t (List.mem_append_left _ ht)) hplace]
    rfl
  obtain ⟨tmp₁, hread⟩ := EntryFormat.read_place h hadd hplace
    (e.values.dropLast.flatMap (fun t => t ++ [0x2C]) ++ (e.values.getLast hne ++ b :: rest)) tmp
  have hvalues : ∀ t ∈ e.values.dropLast, Plain t := fun t ht =>
    hplain t (List.mem_append_right _ (List.mem_of_mem_dropLast ht))
  rw [hread, if_pos haccepts, readValues, ← length_values_dropLast h]
  by_cases hmore : ∀ t ∈ e.values.dropLast, t.length < F.size
  case neg =>
    push Not at hmore
    rw [readHead_long hvalues hmore]
    rfl
  obtain ⟨tmp₂, hhead⟩ := @readHead_text F.size (e.values.getLast hne ++ b :: rest) _ hvalues hmore tmp₁
  -- then the last value is the one
  have hlast : F.size ≤ (e.values.getLast hne).length := by
    refine Nat.not_lt.1 fun hlast => hlong fun t ht => ?_
    rw [EntryText.fields, List.mem_cons, List.mem_append, ← List.dropLast_append_getLast hne, List.mem_append,
      List.mem_singleton] at ht
    rcases ht with rfl | ht | ht | rfl
    · exact hadd
    · exact hplace t ht
    · exact hmore t ht
    · exact hlast
  rw [hhead, Option.bind_some,
    field_long endsField_separates (hplain _ (List.mem_append_right _ (List.getLast_mem hne))) hlast]
  rfl

/-- the values of an entry whose place is not accepted are left to the next entry -/
theorem EntryFormat.read_rejected (h : F.Shaped e) (hshort : F.Short e) (haccepts : F.accepts e.place = false)
    (rest tmp : List UInt8) : ∃ tmp', F.read ⟨entryLine e.fields ++ b :: rest, tmp⟩ =
      some (⟨hexByteOf e.add, e.place, none⟩, ⟨entryLine e.values ++ b :: rest, tmp'⟩) := by
  have hne := h.values_ne_nil
  obtain ⟨tmp', hread⟩ := EntryFormat.read_place h (hshort e.add List.mem_cons_self)
    (fun t ht => hshort t (List.mem_cons_of_mem _ (List.mem_append_left _ ht))) (entryLine e.values ++ b :: rest) tmp
  have hvalues : entryLine e.values =
      e.values.dropLast.flatMap (fun t => t ++ [0x2C]) ++ e.values.getLast hne := by
    rw [← entryLine_concat, List.dropLast_append_getLast]
  refine ⟨tmp', ?_⟩
  rw [haccepts, if_neg Bool.false_ne_true, hvalues] at hread
  rw [e.values_split hne, hvalues]
  simp only [List.append_assoc, List.cons_append] at hread ⊢
  exact hread

/-- where an entry is read, its place is what stands behind the first field -/
theorem EntryFormat.place_of_read (hplain : ∀ t ∈ e.fields, Plain t) (hshort : F.Short e)
    (hplace : e.place.length = F.place) (hne : e.values ≠ []) {rest tmp : List UInt8} {x : Entry} {r : Reader}
    (h : F.read ⟨entryLine e.fields ++ rest, tmp⟩ = some (x, r)) : x.place = e.place := by
  have hfields : ∀ t ∈ e.place, Plain t ∧ t.length < F.size := fun t ht =>
    have hmem : t ∈ e.fields := List.mem_cons_of_mem _ (List.mem_append_left _ ht)
    ⟨hplain t hmem, hshort t hmem⟩
  rw [e.values_split hne] at h
  simp only [List.append_assoc, List.cons_append] at h
  rw [EntryFormat.read, field_isComma _ (hplain e.add List.mem_cons_self) (hshort e.add List.mem_cons_self),
    Option.bind_some] at h
  obtain ⟨add, -, hrest⟩ := Option.bind_eq_some_iff.1 h
  obtain ⟨tmp', hread⟩ := @readHead_text F.size _ e.place (fun t ht => (hfields t ht).1) (fun t ht => (hfields t ht).2)
    (TextScan.overlay 0 e.add tmp)
  rw [← hplace, hread, Option.bind_some] at hrest
  split_ifs at hrest
  · obtain ⟨c, -, heq⟩ := Option.map_eq_some_iff.1 hrest
    cases heq
    rfl
  · cases hrest
    rfl

end Entries

/-! ## Lists of entries -/

section Lists

variable {F : EntryFormat} {es : List EntryText}

/-- entries as they are printed -/
def entriesText (es : List EntryText) : List UInt8 := [0x7C].intercalate (es.map fun e => entryLine e.fields)

theorem entriesText_cons_cons (e next : EntryText) (es : List EntryText) :
    entriesText (e :: next :: es) = entryLine e.fields ++ 0x7C :: entriesText (next :: es) := by
  rw [entriesText, List.map_cons, List.map_cons, List.intercalate_cons_cons, List.append_assoc, List.singleton_append]
  rfl

theorem entriesText_singleton (e : EntryText) : entriesText [e] = entryLine e.fields := by
  rw [entriesText, List.map_singleton, List.intercalate_singleton]

theorem entryLine_segment {fields : List (List UInt8)} (h : ∀ t ∈ fields, Plain t) : Segment (entryLine fields) := by
  intro x hx hsep
  rcases TextScan.mem_intercalate hx with rfl | ⟨t, ht, hxt⟩
  · exact absurd hsep (by decide)
  · refine h t ht x hxt ?_
    simp only [List.mem_cons, List.not_mem_nil, or_false] at hsep ⊢
    exact hsep.imp_right Or.inr

theorem entryLine_ne_nil (e : EntryText) (hadd : e.add ≠ []) : entryLine e.fields ≠ [] := by
  obtain ⟨x, xs, hx⟩ := List.exists_cons_of_ne_nil hadd
  have hmem : x ∈ entryLine e.fields := by
    rw [entryLine, EntryText.fields, hx]
    cases hmore : e.place ++ e.values with
    | nil => simp [List.intercalate_singleton]
    | cons t ts => simp [List.intercalate_cons_cons]
  exact List.ne_nil_of_mem hmem

theorem entriesText_ne_nil (h : ∀ e ∈ es, F.Shaped e) (hne : es ≠ []) : (entriesText es).length ≠ 0 := by
  obtain ⟨e, es, rfl⟩ := List.exists_cons_of_ne_nil hne
  obtain ⟨x, xs, hx⟩ := List.exists_cons_of_ne_nil (entryLine_ne_nil e (h e List.mem_cons_self).add)
  cases es with
  | nil => simp [entriesText_singleton, hx]
  | cons next es => simp [entriesText_cons_cons, hx]

/-- what the handler counts -/
theorem readAll_eq (h : ∀ e ∈ es, F.Shaped e) (hne : es ≠ []) (h255 : es.length ≤ 255) (tmp : List UInt8) :
    F.readAll tmp (entriesText es) =
      (readSegments F.step es.length () ⟨entriesText es ++ [0], tmp⟩).map fun x => (x.1, x.2.2.tmp) := by
  have hsegments : ∀ t ∈ es.map fun e => entryLine e.fields, Segment t := by
    intro t ht
    obtain ⟨e, he, rfl⟩ := List.mem_map.1 ht
    exact entryLine_segment (h e he).plain
  have hlen : (es.map fun e => entryLine e.fields).length = es.length := List.length_map _
  have hcount := @segNum_intercalate (es.map fun e => entryLine e.fields) 255 hsegments
    (by rw [hlen]; exact List.length_pos_iff.2 hne) (by rw [hlen]; exact h255) (by rw [hlen]; exact h255) []
  rw [hlen] at hcount
  rw [EntryFormat.readAll, if_neg (entriesText_ne_nil h hne), entriesText, hcount, Option.bind_some]

/-- values are read where the place is accepted -/
theorem read_accepted {r r' : Reader} {e : Entry} (h : F.read r = some (e, r')) (hvalues : e.values.isSome) :
    F.accepts e.place = true := by
  obtain ⟨a, -, h⟩ := Option.bind_eq_some_iff.1 h
  obtain ⟨add, -, h⟩ := Option.bind_eq_some_iff.1 h
  obtain ⟨b, -, h⟩ := Option.bind_eq_some_iff.1 h
  by_cases haccepts : F.accepts b.1 = true
  · rw [if_pos haccepts] at h
    obtain ⟨c, -, heq⟩ := Option.map_eq_some_iff.1 h
    cases heq
    exact haccepts
  · rw [if_neg haccepts] at h
    cases h
    cases hvalues

theorem readSegments_accepted : ∀ (n : ℕ) (r : Reader) (x : List Entry × Unit × Reader),
    readSegments F.step n () r = some x → ∀ e ∈ x.1, e.values.isSome → F.accepts e.place = true
  | 0, r, x, h => by
    cases h
    exact fun e he => absurd he List.not_mem_nil
  | n + 1, r, x, h => by
    rw [readSegments] at h
    obtain ⟨⟨e, u, r'⟩, hstep, htail⟩ := Option.bind_eq_some_iff.1 h
    obtain ⟨⟨es, u', r''⟩, hmore, hlast⟩ := Option.bind_eq_some_iff.1 htail
    obtain ⟨⟨e', r₁⟩, hread, heq⟩ := Option.map_eq_some_iff.1 hstep
    cases heq
    rw [← Option.some.inj hlast]
    intro e he
    rcases List.mem_cons.1 he with rfl | he
    · exact read_accepted hread
    · exact readSegments_accepted n r₁ _ hmore e he

theorem readAll_accepted {tmp text : List UInt8} {x : List Entry × List UInt8} (h : F.readAll tmp text = some x) :
    ∀ e ∈ x.1, e.values.isSome → F.accepts e.place = true := by
  rw [EntryFormat.readAll] at h
  split_ifs at h
  · cases h
    exact fun e he => absurd he List.not_mem_nil
  · obtain ⟨n, -, h⟩ := Option.bind_eq_some_iff.1 h
    obtain ⟨y, hread, rfl⟩ := Option.map_eq_some_iff.1 h
    exact readSegments_accepted n _ y hread

/-- **Lists of entries** are read as they stand. -/
theorem readAll_text (h : ∀ e ∈ es, F.Shaped e ∧ F.Short e ∧ F.accepts e.place = true) (h255 : es.length ≤ 255)
    (tmp : List UInt8) : ∃ tmp', F.readAll tmp (entriesText es) = some (es.map EntryText.entry, tmp') := by
  by_cases hne : es = []
  · subst hne
    exact ⟨tmp, rfl⟩
  have hreads : ∀ e ∈ es, ReadsSegment F.step (fun e => entryLine e.fields) (fun _ e => EntryText.entry e)
      (fun s _ => s) e := by
    rintro e he - b rest tmp hb
    obtain ⟨hshaped, hshort, haccepts⟩ := h e he
    obtain ⟨tmp', hread⟩ := EntryFormat.read_text hshaped hshort haccepts hb rest tmp
    exact ⟨tmp', by rw [EntryFormat.step, hread]; rfl⟩
  obtain ⟨tmp', hread⟩ := readSegments_text hreads hne [] () tmp
  refine ⟨tmp', ?_⟩
  rw [readAll_eq (fun e he => (h e he).1) hne h255, entriesText, hread, valuesFrom_const]
  rfl

theorem readSegments_long (h : ∀ e ∈ es, F.Shaped e ∧ F.accepts e.place = true) (hlong : ∃ e ∈ es, ¬F.Short e)
    (rest : List UInt8) : ∀ tmp, readSegments F.step es.length () ⟨entriesText es ++ 0 :: rest, tmp⟩ = none := by
  induction es with
  | nil =>
    obtain ⟨e, he, -⟩ := hlong
    cases he
  | cons e es ih =>
    intro tmp
    obtain ⟨hshaped, haccepts⟩ := h e List.mem_cons_self
    by_cases hshort : F.Short e
    case neg =>
      obtain ⟨b, more, hmore⟩ : ∃ b more, entriesText (e :: es) ++ 0 :: rest = entryLine e.fields ++ b :: more := by
        cases es with
        | nil => exact ⟨0, rest, by rw [entriesText_singleton]⟩
        | cons next es =>
          refine ⟨0x7C, entriesText (next :: es) ++ 0 :: rest, ?_⟩
          rw [entriesText_cons_cons, List.append_assoc, List.cons_append]
      rw [hmore, List.length_cons, readSegments, EntryFormat.step,
        EntryFormat.read_long hshaped hshort haccepts more tmp]
      rfl
    have hlater : ∃ e' ∈ es, ¬F.Short e' := by
      obtain ⟨e', he', hlong⟩ := hlong
      rcases List.mem_cons.1 he' with rfl | he'
      · exact absurd hshort hlong
      · exact ⟨e', he', hlong⟩
    have hmore := ih (fun e' he' => h e' (List.mem_cons_of_mem e he')) hlater
    cases es with
    | nil =>
      obtain ⟨e', he', -⟩ := hlater
      cases he'
    | cons next es =>
      have hbar : endsField 0x7C = true := by decide
      obtain ⟨tmp', hread⟩ := EntryFormat.read_text hshaped hshort haccepts hbar (entriesText (next :: es) ++ 0 :: rest)
        tmp
      rw [entriesText_cons_cons, List.append_assoc, List.cons_append, List.length_cons, readSegments, EntryFormat.step,
        hread]
      simp only [Option.map_some, Option.bind_eq_bind, Option.bind_some]
      rw [hmore tmp']
      rfl

/-- a list with a field that does not fit is not read -/
theorem readAll_long (h : ∀ e ∈ es, F.Shaped e ∧ F.accepts e.place = true) (h255 : es.length ≤ 255)
    (hlong : ∃ e ∈ es, ¬F.Short e) (tmp : List UInt8) : F.readAll tmp (entriesText es) = none := by
  have hne : es ≠ [] := by
    rintro rfl
    obtain ⟨e, he, -⟩ := hlong
    cases he
  rw [readAll_eq (fun e he => (h e he).1) hne h255, readSegments_long h hlong]
  rfl

end Lists

/-! ## Widths -/

/-- the number of decimal digits -/
def decimalWidth (n : ℕ) : ℕ := Nat.log 10 n + 1

theorem length_digits (n : ℕ) : (digits n).length = decimalWidth n := by
  unfold digits
  split_ifs with hn
  · rw [hn]
    rfl
  · rw [decimal, List.length_map, List.length_reverse, Nat.length_digits 10 n (by decide) hn, decimalWidth]

theorem length_sprintfD_nat (n : ℕ) : (sprintfD n).length = decimalWidth n := by
  have hnonneg : ¬(n : ℤ) < 0 := by omega
  rw [sprintfD, if_neg hnonneg, Int.natAbs_natCast, length_digits]

theorem decimalWidth_byte (b : UInt8) : decimalWidth b.toNat ≤ 3 := by
  rw [← length_sprintfD_nat]
  exact length_sprintfD_byte b

section Widths

variable {es : List EntryText}

/-- room for all entries -/
def entriesWidth (es : List EntryText) : ℕ := (es.map fun e => entryWidth e.fields).sum

theorem print_entries {size : ℕ} (hsize : 0 < size) (es : List EntryText) :
    printEntries size (es.map EntryText.fields) = if entriesWidth es < size then some (entriesText es) else none := by
  have hne : ∀ fields ∈ es.map EntryText.fields, fields ≠ [] := by
    intro fields hfields
    obtain ⟨e, -, rfl⟩ := List.mem_map.1 hfields
    exact List.cons_ne_nil _ _
  rw [printEntries_eq hsize hne, List.map_map, List.map_map]
  rfl

/-- a byte for each field and one behind it -/
theorem two_le_entryWidth {fields : List (List UInt8)} (h : ∀ t ∈ fields, t ≠ []) :
    2 * fields.length ≤ entryWidth fields := by
  induction fields with
  | nil => exact Nat.zero_le _
  | cons t fields ih =>
    have hmore := ih fun s hs => h s (List.mem_cons_of_mem t hs)
    have hpos := List.length_pos_iff.2 (h t List.mem_cons_self)
    rw [entryWidth] at hmore ⊢
    rw [List.map_cons, List.sum_cons, List.length_cons]
    omega

theorem length_le_entriesWidth {w : ℕ} (h : ∀ e ∈ es, w ≤ entryWidth e.fields) : es.length * w ≤ entriesWidth es := by
  induction es with
  | nil => simp [entriesWidth]
  | cons e es ih =>
    have hmore := ih fun e' he' => h e' (List.mem_cons_of_mem e he')
    have he := h e List.mem_cons_self
    rw [entriesWidth] at hmore ⊢
    rw [List.map_cons, List.sum_cons, List.length_cons, Nat.succ_mul]
    omega

end Widths

/-! ## Addresses -/

def hexWidth (b : UInt8) : ℕ := if b < 16 then 1 else 2

theorem length_sprintfX (b : UInt8) : (sprintfX b).length = hexWidth b := by
  rw [sprintfX, hexWidth]
  split_ifs <;> rfl

theorem hexWidth_le (b : UInt8) : hexWidth b ≤ 2 := by
  rw [hexWidth]
  split_ifs <;> decide

theorem plain_sprintfX (b : UInt8) : Plain (sprintfX b) := (Relay.hexText_sprintfX b).1.plain

theorem sprintfX_ne_nil (b : UInt8) : sprintfX b ≠ [] := List.length_pos_iff.1 (Relay.hexText_sprintfX b).1.pos

/-- an address reads back -/
theorem hexByteOf_sprintfX (b : UInt8) : hexByteOf (sprintfX b) = b := by
  obtain ⟨htext, hvalue⟩ := Relay.hexText_sprintfX b
  have hnat := hexByteOf_value htext
  rw [hvalue] at hnat
  exact UInt8.toNat_inj.1 hnat

/-! ## Bounds -/

/-- `"NA"`, for a bound that is not set -/
def markNA : List UInt8 := [0x4E, 0x41]

/-- `tmp[0] == 'N' && tmp[1] == 'A'` -/
def isMarked (text : List UInt8) : Bool := text.take 2 = markNA

/-- how bounds are printed with `%f` and read with `atof`; no text of theirs holds a separator or starts like the
mark -/
structure BoundTexts (ν : Type) where
  text : ν → List UInt8
  value : List UInt8 → ν
  plain : ∀ v, Plain (text v)
  ne_nil : ∀ v, text v ≠ []
  unmarked : ∀ v, isMarked (text v) = false

end DataConcentrator
