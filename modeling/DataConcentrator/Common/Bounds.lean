/-
When the handlers stay inside a text: a parser succeeds exactly where the fields it copies end before the text does and fit
the scratch buffer.

- `Starts`: fields at the front of a text, and a condition on what follows them;
- `Reads`: such a parser; `reads_field`: a field, and a parser for the rest;
- `Takes`: a parser of fields, one behind the other; `readSegments_iff`, `reads_counted`: one of records of them.
-/
import DataConcentrator.Common.Hex

namespace DataConcentrator

open TextScan (Fits Fields Records)

/-! ## Fields -/

/-- fields at the front of a text, with `P` of what follows them -/
def Starts (size : ℕ) (fields : List (UInt8 → Bool)) (P : List UInt8 → Prop) (msg : List UInt8) : Prop :=
  ∃ body, Fields size fields msg body ∧ P body

theorem starts_nil (size : ℕ) (P : List UInt8 → Prop) (msg : List UInt8) : Starts size [] P msg ↔ P msg :=
  ⟨fun ⟨_, h, hP⟩ => by rw [show msg = _ from h]; exact hP, fun hP => ⟨msg, rfl, hP⟩⟩

theorem starts_cons (size : ℕ) (ends : UInt8 → Bool) (more : List (UInt8 → Bool)) (P : List UInt8 → Prop)
    (msg : List UInt8) : Starts size (ends :: more) P msg ↔
      ∃ text b after, msg = text ++ b :: after ∧ Fits size ends text ∧ ends b = true ∧ Starts size more P after := by
  constructor
  · rintro ⟨body, ⟨text, b, after, hmsg, hfits, hb, hmore⟩, hP⟩
    exact ⟨text, b, after, hmsg, hfits, hb, body, hmore, hP⟩
  · rintro ⟨text, b, after, hmsg, hfits, hb, body, hmore, hP⟩
    exact ⟨body, ⟨text, b, after, hmsg, hfits, hb, hmore⟩, hP⟩

variable {ρ : Type*} {size : ℕ} {ends : UInt8 → Bool}

/-- a field is copied where there is one -/
theorem field_eq_some_iff {r r' : Reader} {text : List UInt8} : r.field size ends = some (text, r') ↔
    ∃ b after, r.msg = text ++ b :: after ∧ Fits size ends text ∧ ends b = true ∧
      r' = ⟨after, TextScan.overlay 0 text r.tmp⟩ := by
  rw [Reader.field, Option.map_eq_some_iff]
  constructor
  · rintro ⟨⟨text', rest⟩, hscan, heq⟩
    obtain ⟨b, after, rfl⟩ := TextScan.scan_isSome hscan
    obtain ⟨rfl, rfl⟩ := Prod.mk.inj heq
    obtain ⟨hmsg, hfits, hb⟩ := TextScan.scan_eq_some_iff.1 hscan
    exact ⟨b, after, hmsg, hfits, hb, rfl⟩
  · rintro ⟨b, after, hmsg, hfits, hb, rfl⟩
    exact ⟨(text, b :: after), TextScan.scan_eq_some_iff.2 ⟨hmsg, hfits, hb⟩, rfl⟩

/-- `tmp` keeps its size -/
theorem length_overlay {text tmp : List UInt8} (h : Fits size ends text) (htmp : tmp.length = size) :
    (TextScan.overlay 0 text tmp).length = size := by
  have hlen := h.length
  rw [TextScan.overlay, List.length_append, List.length_cons, List.length_drop]
  omega

/-- two bytes of `tmp` are there to be read -/
theorem hexOf_isSome {r : Reader} (h : 2 ≤ r.tmp.length) (text : List UInt8) : ∃ b, hexOf r text = some b := by
  have htwo : ∀ src : List UInt8, 2 ≤ src.length → ∃ bs, strToHex 1 src = some bs := by
    intro src hsrc
    match src, hsrc with
    | h1 :: h2 :: more, _ => exact ⟨_, rfl⟩
  obtain ⟨bs, hbs⟩ := htwo (if text.length = 1 then 0x30 :: text else r.tmp) (by
    split_ifs with hone
    · rw [List.length_cons, hone]
    · exact h)
  exact ⟨bs.headD 0, by rw [hexOf, hbs, Option.map_some]⟩

/-- a parser that succeeds exactly where `P` holds of the text, and leaves the scratch buffer as long as it was -/
structure Reads (size : ℕ) (P : List UInt8 → Prop) (out : ρ → List UInt8) (q : Reader → Option ρ) : Prop where
  isSome_iff : ∀ r, r.tmp.length = size → ((q r).isSome ↔ P r.msg)
  length : ∀ r x, r.tmp.length = size → q r = some x → (out x).length = size

/-- **A field, and a parser for the rest.** -/
theorem reads_field {q : List UInt8 × Reader → Option ρ} {P : List UInt8 → Prop} {out : ρ → List UInt8}
    {more : List (UInt8 → Bool)} (h : ∀ text, Reads size (Starts size more P) out fun r => q (text, r)) :
    Reads size (Starts size (ends :: more) P) out fun r => (r.field size ends).bind q where
  isSome_iff r htmp := by
    rw [starts_cons]
    constructor
    · intro hsome
      obtain ⟨x, hx⟩ := Option.isSome_iff_exists.1 hsome
      obtain ⟨⟨text, r'⟩, hfield, hq⟩ := Option.bind_eq_some_iff.1 hx
      obtain ⟨b, after, hmsg, hfits, hb, rfl⟩ := field_eq_some_iff.1 hfield
      have hlen := length_overlay hfits htmp
      have hmore := ((h text).isSome_iff ⟨after, _⟩ hlen).1 (Option.isSome_iff_exists.2 ⟨x, hq⟩)
      exact ⟨text, b, after, hmsg, hfits, hb, hmore⟩
    · rintro ⟨text, b, after, hmsg, hfits, hb, hmore⟩
      have hlen := length_overlay hfits htmp
      have hfield := field_eq_some_iff.2 ⟨b, after, hmsg, hfits, hb, rfl⟩
      rw [hfield, Option.bind_some]
      exact ((h text).isSome_iff ⟨after, _⟩ hlen).2 hmore
  length r x htmp hx := by
    obtain ⟨⟨text, r'⟩, hfield, hq⟩ := Option.bind_eq_some_iff.1 hx
    obtain ⟨b, after, -, hfits, -, rfl⟩ := field_eq_some_iff.1 hfield
    exact (h text).length ⟨after, _⟩ x (length_overlay hfits htmp) hq

/-! ## Records -/

/-- a parser that succeeds exactly where the fields are, and leaves the reader behind them -/
structure Takes (size : ℕ) (fields : List (UInt8 → Bool)) (out : ρ → Reader) (step : Reader → Option ρ) : Prop where
  complete : ∀ r rest, r.tmp.length = size → Fields size fields r.msg rest → ∃ x, step r = some x ∧ (out x).msg = rest
  sound : ∀ r x, r.tmp.length = size → step r = some x →
    (out x).tmp.length = size ∧ Fields size fields r.msg (out x).msg

theorem takes_some {out : ρ → Reader} {f : Reader → ρ} (hf : ∀ r, out (f r) = r) : Takes size [] out fun r => some (f r) where
  complete r rest _ h := ⟨f r, rfl, by rw [hf]; exact h⟩
  sound r x htmp h := by
    rw [← Option.some.inj h, hf]
    exact ⟨htmp, rfl⟩

/-- a step that only reads `tmp` -/
theorem takes_hexOf {fields : List (UInt8 → Bool)} {out : ρ → Reader} {text : List UInt8} {q : UInt8 → Reader → Option ρ}
    (hsize : 2 ≤ size) (h : ∀ b, Takes size fields out (q b)) :
    Takes size fields out fun r => (hexOf r text).bind fun b => q b r where
  complete r rest htmp hfields := by
    obtain ⟨b, hb⟩ := hexOf_isSome (r := r) (by omega) text
    obtain ⟨x, hx, hrest⟩ := (h b).complete r rest htmp hfields
    exact ⟨x, by rw [hb]; exact hx, hrest⟩
  sound r x htmp hx := by
    obtain ⟨b, -, hq⟩ := Option.bind_eq_some_iff.1 hx
    exact (h b).sound r x htmp hq

theorem takes_field {fields : List (UInt8 → Bool)} {out : ρ → Reader} {q : List UInt8 × Reader → Option ρ}
    (h : ∀ text, Takes size fields out fun r => q (text, r)) :
    Takes size (ends :: fields) out fun r => (r.field size ends).bind q where
  complete r rest htmp := by
    rintro ⟨text, b, after, hmsg, hfits, hb, hfields⟩
    have hlen := length_overlay hfits htmp
    have hfield := field_eq_some_iff.2 ⟨b, after, hmsg, hfits, hb, rfl⟩
    obtain ⟨x, hx, hrest⟩ := (h text).complete ⟨after, _⟩ rest hlen hfields
    exact ⟨x, by rw [hfield]; exact hx, hrest⟩
  sound r x htmp hx := by
    obtain ⟨⟨text, r'⟩, hfield, hq⟩ := Option.bind_eq_some_iff.1 hx
    obtain ⟨b, after, hmsg, hfits, hb, rfl⟩ := field_eq_some_iff.1 hfield
    have hlen := length_overlay hfits htmp
    obtain ⟨hout, hfields⟩ := (h text).sound ⟨after, _⟩ x hlen hq
    exact ⟨hout, text, b, after, hmsg, hfits, hb, hfields⟩

theorem takes_map {τ : Type*} {fields : List (UInt8 → Bool)} {out : ρ → Reader} {out' : τ → Reader}
    {step : Reader → Option ρ} {f : ρ → τ} (hf : ∀ x, out' (f x) = out x) (h : Takes size fields out step) :
    Takes size fields out' fun r => (step r).map f where
  complete r rest htmp hfields := by
    obtain ⟨x, hx, hrest⟩ := h.complete r rest htmp hfields
    exact ⟨f x, by rw [hx]; rfl, by rw [hf]; exact hrest⟩
  sound r y htmp hy := by
    obtain ⟨x, hx, rfl⟩ := Option.map_eq_some_iff.1 hy
    rw [hf]
    exact h.sound r x htmp hx

/-- **Records** are read exactly where they are. -/
theorem readSegments_iff {σ β : Type*} {step : σ → Reader → Option (β × σ × Reader)} {fields : List (UInt8 → Bool)}
    (h : ∀ s, Takes size fields (fun x => x.2.2) (step s)) :
    ∀ n s r, r.tmp.length = size → ((readSegments step n s r).isSome ↔ ∃ rest, Records size fields n r.msg rest)
  | 0, s, r, _ => ⟨fun _ => ⟨r.msg, rfl⟩, fun _ => rfl⟩
  | n + 1, s, r, htmp => by
    have ih := readSegments_iff h n
    rw [readSegments]
    constructor
    · intro hsome
      obtain ⟨x, hx⟩ := Option.isSome_iff_exists.1 hsome
      obtain ⟨⟨b, s', r'⟩, hstep, hx⟩ := Option.bind_eq_some_iff.1 hx
      obtain ⟨⟨bs, s'', r''⟩, hmore, -⟩ := Option.bind_eq_some_iff.1 hx
      obtain ⟨hlen, hfields⟩ := (h s).sound r _ htmp hstep
      obtain ⟨rest, hrest⟩ := (ih s' r' hlen).1 (by rw [hmore]; rfl)
      exact ⟨rest, r'.msg, hfields, hrest⟩
    · rintro ⟨rest, after, hfields, hrest⟩
      obtain ⟨⟨b, s', r'⟩, hstep, rfl⟩ := (h s).complete r after htmp hfields
      obtain ⟨hlen, -⟩ := (h s).sound r _ htmp hstep
      obtain ⟨x, hx⟩ := Option.isSome_iff_exists.1 ((ih s' r' hlen).2 ⟨rest, hrest⟩)
      rw [hstep]
      simp only [Option.bind_eq_bind, Option.bind_some]
      rw [hx]
      rfl

/-- the scratch buffer after them -/
theorem length_readSegments {σ β : Type*} {step : σ → Reader → Option (β × σ × Reader)} {fields : List (UInt8 → Bool)}
    (h : ∀ s, Takes size fields (fun x => x.2.2) (step s)) :
    ∀ n s r x, r.tmp.length = size → readSegments step n s r = some x → x.2.2.tmp.length = size
  | 0, s, r, x, htmp, hx => by
    rw [← Option.some.inj hx]
    exact htmp
  | n + 1, s, r, x, htmp, hx => by
    rw [readSegments] at hx
    obtain ⟨⟨b, s', r'⟩, hstep, hx⟩ := Option.bind_eq_some_iff.1 hx
    obtain ⟨⟨bs, s'', r''⟩, hmore, hx⟩ := Option.bind_eq_some_iff.1 hx
    obtain ⟨hlen, -⟩ := (h s).sound r _ htmp hstep
    rw [← Option.some.inj hx]
    exact length_readSegments h n s' r' (bs, s'', r'') hlen hmore

/-- as many records as the bars ask for, at most `most`, as the counting and the rewinding find them -/
def Counted (size most : ℕ) (record : List (UInt8 → Bool)) (body : List UInt8) : Prop :=
  ∃ n rest, segNum most body = some n ∧ Records size record n (rewound body) rest

/-- **Counted records**: `g` makes the result of them -/
theorem reads_counted {σ β : Type*} {most : ℕ} {record : List (UInt8 → Bool)}
    {step : σ → Reader → Option (β × σ × Reader)} {out : ρ → List UInt8} {g : ℕ → List β × σ × Reader → Option ρ}
    (hg : ∀ n y, ∃ x, g n y = some x ∧ out x = y.2.2.tmp) (h : ∀ s, Takes size record (fun x => x.2.2) (step s)) (s : σ) :
    Reads size (Starts size [] (Counted size most record)) out fun r =>
      (segNum most r.msg).bind fun n => (readSegments step n s { r with msg := rewound r.msg }).bind (g n) where
  isSome_iff r htmp := by
    rw [starts_nil]
    have hread := fun n => readSegments_iff h n s { r with msg := rewound r.msg } htmp
    constructor
    · intro hsome
      obtain ⟨x, hx⟩ := Option.isSome_iff_exists.1 hsome
      obtain ⟨n, hn, hx⟩ := Option.bind_eq_some_iff.1 hx
      obtain ⟨y, hy, -⟩ := Option.bind_eq_some_iff.1 hx
      obtain ⟨rest, hrest⟩ := (hread n).1 (by rw [hy]; rfl)
      exact ⟨n, rest, hn, hrest⟩
    · rintro ⟨n, rest, hn, hrest⟩
      obtain ⟨y, hy⟩ := Option.isSome_iff_exists.1 ((hread n).2 ⟨rest, hrest⟩)
      obtain ⟨x, hx, -⟩ := hg n y
      rw [hn, Option.bind_some, hy, Option.bind_some, hx]
      rfl
  length r x htmp hx := by
    obtain ⟨n, -, hx⟩ := Option.bind_eq_some_iff.1 hx
    obtain ⟨y, hy, hx⟩ := Option.bind_eq_some_iff.1 hx
    obtain ⟨x', hx', hout⟩ := hg n y
    rw [hx'] at hx
    rw [← Option.some.inj hx, hout]
    exact length_readSegments h n s { r with msg := rewound r.msg } y htmp hy

end DataConcentrator
