/-
Which texts the setters of strategies and appointments, and the readers of address lists, stay inside of.

A text is the value of a parameter up to its terminator. A setter that leaves a text, overruns `tmp` or the array it fills
has no result here; a loop over a text ends with it.
- `reads_strategy`, `reads_scene`: one parameter of the setters of the relays;
- `strategyOf_isSome_iff`: one of `LampSetLampStrategy`;
- `readAll_isSome_iff`: the address lists of a message, which share one array;
- `parsers_inside_iff`: the messages whose texts the handlers stay inside of; `parsers_leave`: two they do not.
-/
import DataConcentrator.Common.Bounds
import DataConcentrator.Lamp.StrategyText
import DataConcentrator.Relay.AppointmentText
import DataConcentrator.Relay.StrategyText

namespace DataConcentrator.TextBounds

open Protocol (Parameter ServerFrameStruct)

/-! ## Strategies and appointments of the relays -/

/-- the fields of a header, and counted records -/
def Segmented (size most : ℕ) (header record : List (UInt8 → Bool)) (value : List UInt8) : Prop :=
  Starts size header (Counted size most record) value

theorem takes_readAction (m : Relay.Masks) :
    Takes 16 [isComma, isComma, isComma, endsField] (fun x => x.2.2) (Relay.readAction m) := by
  unfold Relay.readAction
  refine takes_field fun text => ?_
  refine takes_hexOf (by decide) fun add => ?_
  refine takes_field fun ch => ?_
  refine takes_field fun loop_ch => ?_
  refine takes_field fun loop_action => ?_
  exact takes_some fun _ => rfl

/-- one parameter of `RelaySetRelayStrategy` -/
theorem reads_strategy (m : Relay.Masks) : Reads 16 (Segmented 16 Relay.MAX_RELAY_MODULE_CONF_NUM
    [isComma, isComma, isComma, isBar] [isComma, isComma, isComma, endsField]) (fun x => x.2.2)
    fun r => Relay.readStrategy m r.tmp r.msg := by
  unfold Relay.readStrategy
  refine reads_field fun group_id => ?_
  refine reads_field fun type => ?_
  refine reads_field fun time => ?_
  refine reads_field fun time_option => ?_
  refine reads_counted (fun n y => ?_) takes_readAction m
  exact ⟨_, rfl, rfl⟩

theorem takes_readRange (_ : Unit) : Takes 16 [isComma, isComma, endsField] (fun x => x.2.2)
    fun r => (Scene.readRange 16 r).map fun t => (t.1, (), t.2) := by
  refine takes_map (fun _ => rfl) (?_ : Takes 16 _ Prod.snd (Scene.readRange 16))
  unfold Scene.readRange
  refine takes_field fun start => ?_
  refine takes_field fun stop => ?_
  refine takes_field fun week => ?_
  refine takes_hexOf (by decide) fun b => ?_
  exact takes_some fun _ => rfl

/-- one parameter of `RelaySetRelayAppointment` -/
theorem reads_scene : Reads 16 (Segmented 16 Scene.MAX_APPOINTMENT_TIME_RANGE_NUM [isComma, isBar]
    [isComma, isComma, endsField]) Prod.snd fun r => Scene.readScene 16 r.tmp r.msg := by
  unfold Scene.readScene
  refine reads_field fun group_id => ?_
  refine reads_field fun priority => ?_
  refine reads_counted (fun n y => ?_) takes_readRange ()
  exact ⟨_, rfl, rfl⟩

/-! ## Strategies of the lamps -/

section Lamp

open Lamp (comma bar)
open Plc (segments)

/-- the end of the mode: a comma, which is passed, or the end, which is not -/
def endsMode (b : UInt8) : Bool := comma b || b = 0

theorem field_eq_scan (ends : UInt8 → Bool) (msg : List UInt8) :
    Lamp.field ends msg = (TextScan.scan 17 ends msg).map fun s => (s.1, s.2.drop 1) := by
  unfold Lamp.field TextScan.scan
  cases hrest : msg.dropWhile fun b => !ends b with
  | nil => rfl
  | cons b rest => grind

theorem lastField_eq_scan (msg : List UInt8) : Lamp.lastField msg =
    (TextScan.scan 17 endsMode msg).map fun s => (s.1, if s.2.head? = some 0 then s.2 else s.2.drop 1) := by
  unfold Lamp.lastField TextScan.scan endsMode
  dsimp only
  cases hrest : msg.dropWhile fun b => !(comma b || b = 0) with
  | nil => rfl
  | cons b rest => grind

/-- a field of a lamp, and a parser for the rest -/
theorem field_bind_iff {ρ : Type*} {ends : UInt8 → Bool} {q : List UInt8 × List UInt8 → Option ρ}
    {P : List UInt8 → Prop} {more : List (UInt8 → Bool)}
    (h : ∀ text rest, (q (text, rest)).isSome ↔ Starts 17 more P rest) (msg : List UInt8) :
    ((Lamp.field ends msg).bind q).isSome ↔ Starts 17 (ends :: more) P msg := by
  rw [starts_cons, field_eq_scan]
  constructor
  · intro hsome
    obtain ⟨x, hx⟩ := Option.isSome_iff_exists.1 hsome
    obtain ⟨field, hfield, hq⟩ := Option.bind_eq_some_iff.1 hx
    obtain ⟨⟨text, rest⟩, hscan, rfl⟩ := Option.map_eq_some_iff.1 hfield
    obtain ⟨b, after, rfl⟩ := TextScan.scan_isSome hscan
    obtain ⟨hmsg, hfits, hb⟩ := TextScan.scan_eq_some_iff.1 hscan
    exact ⟨text, b, after, hmsg, hfits, hb, (h text after).1 (Option.isSome_iff_exists.2 ⟨x, hq⟩)⟩
  · rintro ⟨text, b, after, hmsg, hfits, hb, hmore⟩
    rw [TextScan.scan_eq_some_iff.2 ⟨hmsg, hfits, hb⟩]
    exact (h text after).2 hmore

/-- the texts up to the terminator fit, and there are at most as many as `group_add` has entries -/
def Listed (msg : List UInt8) : Prop :=
  0 ∈ msg ∧ (∀ text ∈ segments (cstr msg), text.length < 17) ∧ (segments (cstr msg)).length ≤ Plc.MAX_LAMP_GROUP_NUM

/-- the mode, and the list behind its comma if there is one -/
def ModeAndList (msg : List UInt8) : Prop :=
  ∃ mode b after, msg = mode ++ b :: after ∧ TextScan.Fits 17 endsMode mode ∧ endsMode b = true ∧
    Listed (if b = 0 then b :: after else after)

/-- the fields of a lamp strategy, the mode and the list -/
def StrategyFits (value : List UInt8) : Prop :=
  Starts 17 [comma, comma, comma, comma, bar, comma, comma] ModeAndList value

theorem length_readAdds (ctrl_mode : ℕ) (texts : List (List UInt8)) :
    ∀ add, (Lamp.readAdds ctrl_mode add texts).2.length = texts.length := by
  induction texts with
  | nil => exact fun _ => rfl
  | cons text texts ih =>
    intro add
    rw [Lamp.readAdds, List.length_cons, List.length_cons, ih]

/-- the texts are all there if each of them fits -/
theorem mapM_fits_iff (texts ys : List (List UInt8)) :
    (texts.mapM fun text => if text.length < 17 then some text else none) = some ys ↔
      (∀ text ∈ texts, text.length < 17) ∧ ys = texts := by
  induction texts generalizing ys with
  | nil => simp [eq_comm]
  | cons text texts ih =>
    rw [List.mapM_cons, List.forall_mem_cons]
    by_cases hlen : text.length < 17
    · simp only [if_pos hlen, Option.pure_def, Option.bind_eq_bind, Option.bind_some, Option.bind_eq_some_iff, ih]
      grind
    · simp [hlen]

theorem listTexts_eq_some_iff (msg : List UInt8) (texts : List (List UInt8)) : Lamp.listTexts msg = some texts ↔
    0 ∈ msg ∧ (∀ text ∈ segments (cstr msg), text.length < 17) ∧ texts = segments (cstr msg) := by
  rw [Lamp.listTexts]
  split_ifs with h0
  · rw [mapM_fits_iff, and_iff_right h0]
  · exact iff_of_false not_false fun h => h0 h.1

/-- the list, and what is made of one that is not too long -/
theorem listTexts_bind_iff {ρ : Type*} {g : List (List UInt8) → Option ρ}
    (hg : ∀ texts, (g texts).isSome ↔ texts.length ≤ Plc.MAX_LAMP_GROUP_NUM) (msg : List UInt8) :
    ((Lamp.listTexts msg).bind g).isSome ↔ Listed msg := by
  constructor
  · intro hsome
    obtain ⟨x, hx⟩ := Option.isSome_iff_exists.1 hsome
    obtain ⟨texts, hlist, hx⟩ := Option.bind_eq_some_iff.1 hx
    obtain ⟨h0, hshort, rfl⟩ := (listTexts_eq_some_iff _ _).1 hlist
    exact ⟨h0, hshort, (hg _).1 (Option.isSome_iff_exists.2 ⟨x, hx⟩)⟩
  · rintro ⟨h0, hshort, hroom⟩
    rw [(listTexts_eq_some_iff _ _).2 ⟨h0, hshort, rfl⟩]
    exact (hg _).2 hroom

/-- the mode, and the list behind it -/
theorem lastField_bind_iff {ρ : Type*} {q : List UInt8 × List UInt8 → Option ρ}
    (hq : ∀ mode rest, (q (mode, rest)).isSome ↔ Listed rest) (msg : List UInt8) :
    ((Lamp.lastField msg).bind q).isSome ↔ ModeAndList msg := by
  rw [lastField_eq_scan]
  constructor
  · intro hsome
    obtain ⟨x, hx⟩ := Option.isSome_iff_exists.1 hsome
    obtain ⟨field, hfield, hx⟩ := Option.bind_eq_some_iff.1 hx
    obtain ⟨⟨mode, rest⟩, hscan, rfl⟩ := Option.map_eq_some_iff.1 hfield
    obtain ⟨b, after, rfl⟩ := TextScan.scan_isSome hscan
    obtain ⟨hmsg, hfits, hb⟩ := TextScan.scan_eq_some_iff.1 hscan
    have hlist := (hq mode _).1 (Option.isSome_iff_exists.2 ⟨x, hx⟩)
    simp only [List.head?_cons, Option.some_inj, List.drop_one, List.tail_cons] at hlist
    exact ⟨mode, b, after, hmsg, hfits, hb, hlist⟩
  · rintro ⟨mode, b, after, hmsg, hfits, hb, hlist⟩
    rw [TextScan.scan_eq_some_iff.2 ⟨hmsg, hfits, hb⟩, Option.map_some, Option.bind_some]
    simp only [List.head?_cons, Option.some_inj, List.drop_one, List.tail_cons]
    exact (hq mode _).2 hlist

/-- one parameter of `LampSetLampStrategy` -/
theorem strategyOf_isSome_iff (add : UInt32) (value : List UInt8) :
    (Lamp.strategyOf add value).isSome ↔ StrategyFits value := by
  unfold Lamp.strategyOf StrategyFits
  refine field_bind_iff (fun group_id msg => ?_) value
  refine field_bind_iff (fun type msg => ?_) msg
  refine field_bind_iff (fun executor msg => ?_) msg
  refine field_bind_iff (fun time msg => ?_) msg
  refine field_bind_iff (fun time_option msg => ?_) msg
  refine field_bind_iff (fun brightness_0 msg => ?_) msg
  refine field_bind_iff (fun brightness_1 msg => ?_) msg
  rw [starts_nil]
  refine lastField_bind_iff (fun ctrl_mode msg => ?_) msg
  refine listTexts_bind_iff (fun texts => ?_) msg
  have hlen := length_readAdds (toUnsigned 8 (myatoi ctrl_mode)) texts add
  dsimp only
  rw [hlen]
  split_ifs with hroom
  · exact iff_of_true rfl hroom
  · exact iff_of_false Bool.false_ne_true hroom

end Lamp

/-! ## Address lists -/

section Addresses

open Plc (SyncState segments MAX_LAMP_GROUP_NUM)

/-- an entry that fits `tmp` is stored where `k` is -/
theorem pushText_eq (s : SyncState) (text : List UInt8) : ∃ add id,
    s.pushText text = if text.length < 10 then SyncState.push { s with add := add } id else none := by
  rw [SyncState.pushText]
  by_cases htype : s.task.broadcast_type = 2
  · rw [if_pos htype]
    exact ⟨_, _, rfl⟩
  · rw [if_neg htype]
    exact ⟨s.add, _, rfl⟩

/-- one entry fits `tmp`, and there is room for it -/
theorem pushText_isSome_iff (s : SyncState) (text : List UInt8) :
    (s.pushText text).isSome ↔ text.length < 10 ∧ s.k + 1 ≤ MAX_LAMP_GROUP_NUM + 1 := by
  obtain ⟨add, id, htext⟩ := pushText_eq s text
  rw [htext, SyncState.push]
  split_ifs with hlen hk
  · exact iff_of_true rfl ⟨hlen, hk⟩
  · exact iff_of_false Bool.false_ne_true fun h => hk h.2
  · exact iff_of_false Bool.false_ne_true fun h => hlen h.1

theorem k_pushText (s : SyncState) (text : List UInt8) (s' : SyncState) (h : s.pushText text = some s') :
    s'.k = s.k + 1 := by
  obtain ⟨add, id, htext⟩ := pushText_eq s text
  rw [htext, SyncState.push] at h
  split_ifs at h
  cases h
  rfl

/-- the entries of a parameter -/
def entries (p : Parameter) : List (List UInt8) := if p.type = 0x4002 then segments (cstr p.value) else []

/-- a parameter that reads its entries one after another reads those that fit, while there is room -/
structure ReadsEntries (read : SyncState → Parameter → Option SyncState) : Prop where
  list : ∀ s p, p.type = 0x4002 → read s p = (segments (cstr p.value)).foldlM SyncState.pushText s
  other : ∀ s p, p.type ≠ 0x4002 → ∃ s', read s p = some s' ∧ s'.k = s.k

theorem addressing_readsEntries : ReadsEntries SyncState.addressing where
  list s p hp := by
    rw [SyncState.addressing, if_neg (by rw [hp]; decide), if_pos hp]
  other s p hp := by
    rw [SyncState.addressing, if_neg hp]
    split_ifs
    · exact ⟨_, rfl, rfl⟩
    · exact ⟨_, rfl, rfl⟩

theorem parameter_readsEntries : ReadsEntries SyncState.parameter where
  list s p hp := by
    rw [SyncState.parameter, if_neg (by rw [hp]; decide), if_pos hp]
  other s p hp := by
    rw [SyncState.parameter, if_neg hp]
    split_ifs
    · exact ⟨_, rfl, rfl⟩
    · exact ⟨_, rfl, rfl⟩
    · exact ⟨_, rfl, rfl⟩

section Read

variable {read : SyncState → Parameter → Option SyncState} (h : ReadsEntries read)
include h

theorem k_read (s : SyncState) (p : Parameter) (s' : SyncState) (hs' : read s p = some s') :
    s'.k = s.k + (entries p).length := by
  by_cases hp : p.type = 0x4002
  · rw [h.list s p hp] at hs'
    rw [CLoop.foldlM_used k_pushText _ s s' hs', entries, if_pos hp, List.map_const', List.sum_replicate, smul_eq_mul,
      Nat.mul_one]
  · obtain ⟨t, ht, hk⟩ := h.other s p hp
    rw [ht] at hs'
    rw [← Option.some.inj hs', hk, entries, if_neg hp, List.length_nil, Nat.add_zero]

theorem read_isSome_iff (s : SyncState) (p : Parameter) (hs : s.k ≤ MAX_LAMP_GROUP_NUM + 1) :
    (read s p).isSome ↔
      (∀ text ∈ entries p, text.length < 10) ∧ s.k + (entries p).length ≤ MAX_LAMP_GROUP_NUM + 1 := by
  by_cases hp : p.type = 0x4002
  · have hroom := CLoop.foldlM_room_iff (fun s text _ => pushText_isSome_iff s text) k_pushText
      (segments (cstr p.value)) s hs
    rw [List.map_const', List.sum_replicate, smul_eq_mul, Nat.mul_one] at hroom
    rw [h.list s p hp, entries, if_pos hp, hroom]
  · obtain ⟨t, ht, -⟩ := h.other s p hp
    rw [ht, entries, if_neg hp]
    exact iff_of_true rfl ⟨fun text htext => absurd htext List.not_mem_nil, hs⟩

/-- the parameters of a message, from where `k` is zero -/
theorem readAll_isSome_iff (ps : List Parameter) {s : SyncState} (hs : s.k = 0) : (ps.foldlM read s).isSome ↔
    (∀ p ∈ ps, ∀ text ∈ entries p, text.length < 10) ∧ (ps.flatMap entries).length ≤ MAX_LAMP_GROUP_NUM + 1 := by
  have hroom := CLoop.foldlM_room_iff (read_isSome_iff h) (k_read h) ps s (by rw [hs]; exact Nat.zero_le _)
  rw [hroom, hs, Nat.zero_add, List.length_flatMap]

end Read

end Addresses

/-! ## Messages -/

/-- a message with parameters whose values are texts, and no memory behind their terminators -/
structure CarriesTexts (ps : List Parameter) (s : ServerFrameStruct) : Prop where
  para_num : s.para_num = ps.length
  para : ∀ j < ps.length, s.paraAt j = ps[j]?
  texts : ∀ p ∈ ps, ∃ text, 0 ∉ text ∧ p.value = text ++ [0]

section Message

variable {ps : List Parameter} {s : ServerFrameStruct}

theorem parameters_of_carriesTexts (hs : CarriesTexts ps s) : Lamp.parameters s = some ps := by
  have hparas : (List.range ps.length).map (fun j => ps.getD j ⟨0, 0, []⟩) = ps := by
    refine List.ext_getElem (by rw [List.length_map, List.length_range]) fun j hj hj' => ?_
    rw [List.getElem_map, List.getElem_range, List.getD_eq_getElem _ _ hj']
  rw [Lamp.parameters, hs.para_num, Batching.mapM_some (g := fun j => ps.getD j ⟨0, 0, []⟩), hparas]
  intro j hj
  have hj' := List.mem_range.1 hj
  rw [hs.para j hj', List.getD_eq_getElem _ _ hj', List.getElem?_eq_getElem hj']

/-- one round of a setter: a parameter that is not empty is read through `tmp`, which outlives it -/
structure Round (s : ServerFrameStruct) (size : ℕ) (P : List UInt8 → Prop) {σ : Type*} (tmp : σ → List UInt8)
    (body : σ → ℕ → Option σ) : Prop where
  isSome_iff : ∀ a j p, s.paraAt j = some p → (tmp a).length = size → ((body a j).isSome ↔ (p.len ≠ 0 → P p.value))
  length : ∀ a j b, (tmp a).length = size → body a j = some b → (tmp b).length = size

theorem round_reads {σ τ : Type*} {size : ℕ} {P : List UInt8 → Prop} {read : σ → Reader → Option τ} {tmp : σ → List UInt8}
    {out : τ → List UInt8} {f : σ → ℕ → τ → σ} {body : σ → ℕ → Option σ} (hread : ∀ a, Reads size P out (read a))
    (hf : ∀ a j x, tmp (f a j x) = out x) (hbody : ∀ a j, body a j = (s.paraAt j).bind fun p =>
      if p.len ≠ 0 then (read a ⟨p.value, tmp a⟩).map (f a j) else some a) : Round s size P tmp body where
  isSome_iff a j p hp ha := by
    rw [hbody, hp, Option.bind_some]
    split_ifs with hlen
    · rw [Option.isSome_map, (hread a).isSome_iff ⟨_, _⟩ ha]
      exact (imp_iff_right hlen).symm
    · exact iff_of_true rfl fun h => absurd h hlen
  length a j b ha hb := by
    rw [hbody] at hb
    obtain ⟨p, -, hb⟩ := Option.bind_eq_some_iff.1 hb
    by_cases hlen : p.len ≠ 0
    · rw [if_pos hlen] at hb
      obtain ⟨x, hx, rfl⟩ := Option.map_eq_some_iff.1 hb
      rw [hf]
      exact (hread a).length _ x ha hx
    · rw [if_neg hlen] at hb
      rw [← Option.some.inj hb]
      exact ha

/-- the rounds over the first `n` parameters -/
theorem rounds_isSome_iff {σ : Type*} {size : ℕ} {P : List UInt8 → Prop} {tmp : σ → List UInt8}
    {body : σ → ℕ → Option σ} (hbody : Round s size P tmp body) (hs : CarriesTexts ps s) {n : ℕ} (hn : n ≤ ps.length)
    (a : σ) (ha : (tmp a).length = size) :
    ((List.range n).foldlM body a).isSome ↔ ∀ p ∈ ps.take n, p.len ≠ 0 → P p.value := by
  have hrun := CLoop.foldlM_isSome_iff (P := fun j => ∀ p, s.paraAt j = some p → p.len ≠ 0 → P p.value)
    (fun a j b => hbody.length a j b) (List.range n) a ?_ ha
  · rw [hrun]
    constructor
    · intro h p hp
      obtain ⟨j, hj, rfl⟩ := List.mem_take_iff_getElem.1 hp
      refine h j (List.mem_range.2 (by omega)) _ ?_
      rw [hs.para j (by omega), List.getElem?_eq_getElem (by omega)]
    · intro h j hj p hp
      have hj' := List.mem_range.1 hj
      rw [hs.para j (by omega)] at hp
      obtain ⟨hlt, rfl⟩ := List.getElem?_eq_some_iff.1 hp
      exact h _ (List.mem_take_iff_getElem.2 ⟨j, by omega, rfl⟩)
  · intro j hj b hb
    have hj' : j < ps.length := (List.mem_range.1 hj).trans_le hn
    have hp : s.paraAt j = some ps[j] := by rw [hs.para j hj', List.getElem?_eq_getElem hj']
    rw [hbody.isSome_iff b j _ hp hb]
    refine ⟨fun h p hp' => ?_, fun h => h _ hp⟩
    rw [← Option.some.inj (hp.symm.trans hp')]
    exact h

/-- what a parameter of `RelaySetRelayStrategy` has to hold -/
def StrategySegments (value : List UInt8) : Prop :=
  Segmented 16 Relay.MAX_RELAY_MODULE_CONF_NUM [isComma, isComma, isComma, isBar] [isComma, isComma, isComma, endsField]
    value

/-- what a parameter of `RelaySetRelayAppointment` has to hold -/
def AppointmentSegments (value : List UInt8) : Prop :=
  Segmented 16 Scene.MAX_APPOINTMENT_TIME_RANGE_NUM [isComma, isBar] [isComma, isComma, endsField] value

theorem strategyRound_round : Round s 16 StrategySegments Relay.SetState.tmp (Relay.strategyRound s) := by
  refine round_reads (f := fun a j x => ⟨a.writes ++ [(j % 256, x.1)], x.2.1, x.2.2⟩) (fun a => reads_strategy a.masks)
    (fun _ _ _ => rfl) fun a j => ?_
  rw [Relay.strategyRound]

theorem setRound_round : Round s 16 AppointmentSegments Prod.snd (Scene.setRound s) := by
  refine round_reads (f := fun a j x => ⟨a.1.write j x.1, x.2⟩) (fun _ => reads_scene) (fun _ _ _ => rfl) fun a j => ?_
  rw [Scene.setRound]

theorem strategy_isSome_iff (hs : CarriesTexts ps s) {tmp : List UInt8} (htmp : tmp.length = 16) :
    (Relay.relaySetRelayStrategy tmp s).isSome ↔
      ∀ p ∈ ps.take (min ps.length Relay.MAX_RELAY_MODULE_STRATEGY_NUM), p.len ≠ 0 → StrategySegments p.value := by
  have hrun := rounds_isSome_iff strategyRound_round hs (Nat.min_le_left ps.length Relay.MAX_RELAY_MODULE_STRATEGY_NUM)
    ⟨[], (0, 0), tmp⟩ htmp
  rw [Relay.relaySetRelayStrategy, Option.isSome_map, hs.para_num]
  exact hrun

theorem appointment_isSome_iff (hs : CarriesTexts ps s) {tmp : List UInt8} (htmp : tmp.length = 16)
    (st : Scene.AppointmentStore) : (Relay.relaySetRelayAppointment tmp st s).isSome ↔
      ∀ p ∈ ps.take (min (ps.length % 256) Scene.MAX_APPOINTMENT_NUM), p.len ≠ 0 → AppointmentSegments p.value := by
  have hle : min (ps.length % 256) Scene.MAX_APPOINTMENT_NUM ≤ ps.length :=
    (Nat.min_le_left _ _).trans (Nat.mod_le _ _)
  have hrun := rounds_isSome_iff setRound_round hs hle
    ({ st with number := min (ps.length % 256) Scene.MAX_APPOINTMENT_NUM }, tmp) htmp
  rw [Relay.relaySetRelayAppointment, Scene.setAppointments, hs.para_num, Option.isSome_map]
  exact hrun

theorem lampStrategy_isSome_iff (hs : CarriesTexts ps s) (st : Plc.Store) :
    (Lamp.lampSetLampStrategy st s).isSome ↔ ∀ p ∈ ps, StrategyFits p.value := by
  rw [Lamp.lampSetLampStrategy, parameters_of_carriesTexts hs, Option.bind_some, Option.isSome_map]
  refine CLoop.foldlM_isSome_iff (I := fun _ => True) (fun _ _ _ _ _ => trivial) ps (0, st) (fun p _ r _ => ?_) trivial
  rw [Option.isSome_map]
  exact strategyOf_isSome_iff r.1 p.value

/-- what the address lists of a message have to hold -/
def AddressesFit (ps : List Parameter) : Prop :=
  (∀ p ∈ ps, ∀ text ∈ entries p, text.length < 10) ∧ (ps.flatMap entries).length ≤ Plc.MAX_LAMP_GROUP_NUM + 1

theorem sync_isSome_iff (hs : CarriesTexts ps s) (st : Plc.Store) :
    (Plc.lampSynchronizeConfig st s).isSome ↔ AddressesFit ps := by
  have hparas : Plc.syncParameters s = ps.foldlM Plc.SyncState.parameter ⟨.zero, 0, 0, 0⟩ := by
    rw [Plc.syncParameters, hs.para_num, ← CLoop.foldlM_range_getElem? Plc.SyncState.parameter ps]
    refine CLoop.foldlM_congr _ _ fun j hj a => ?_
    rw [hs.para j (List.mem_range.1 hj)]
  rw [Plc.lampSynchronizeConfig, Option.isSome_map, hparas]
  exact readAll_isSome_iff parameter_readsEntries ps rfl

end Message

/-! ## The parsers -/

/-- **Bounds of the parsers.** The setters of strategies and appointments and the readers of address lists stay inside of
the texts, `tmp` and the arrays exactly where the fields end before the texts do, and fit, and the lists have room. -/
theorem parsers_inside_iff {ps : List Parameter} {s : ServerFrameStruct} (hs : CarriesTexts ps s) {tmp : List UInt8}
    (htmp : tmp.length = 16) (st : Scene.AppointmentStore) (store : Plc.Store) :
    ((Relay.relaySetRelayStrategy tmp s).isSome ↔
      ∀ p ∈ ps.take (min ps.length Relay.MAX_RELAY_MODULE_STRATEGY_NUM), p.len ≠ 0 → StrategySegments p.value) ∧
    ((Relay.relaySetRelayAppointment tmp st s).isSome ↔
      ∀ p ∈ ps.take (min (ps.length % 256) Scene.MAX_APPOINTMENT_NUM), p.len ≠ 0 → AppointmentSegments p.value) ∧
    ((Lamp.lampSetLampStrategy store s).isSome ↔ ∀ p ∈ ps, StrategyFits p.value) ∧
    ((Plc.lampSynchronizeConfig store s).isSome ↔ AddressesFit ps) ∧
    ((ps.foldlM Plc.SyncState.addressing ⟨.zero, 0, 0, 0⟩).isSome ↔ AddressesFit ps) := by
  refine ⟨strategy_isSome_iff hs htmp, appointment_isSome_iff hs htmp st, lampStrategy_isSome_iff hs store,
    sync_isSome_iff hs store, ?_⟩
  exact readAll_isSome_iff addressing_readsEntries ps rfl

/-- a message of parameters -/
def message (ps : List Parameter) : ServerFrameStruct :=
  { ServerFrameStruct.zero with para_num := ps.length, para := ps.map some }

theorem carriesTexts_message {ps : List Parameter} (h : ∀ p ∈ ps, ∃ text, 0 ∉ text ∧ p.value = text ++ [0]) :
    CarriesTexts ps (message ps) where
  para_num := rfl
  para j hj := by
    rw [ServerFrameStruct.paraAt, message, List.getElem?_map, List.getElem?_eq_getElem hj]
    rfl
  texts := h

/-- a list of group ids -/
def groupList (ids : List (List UInt8)) : Parameter :=
  ⟨0x4002, ([0x2C].intercalate ids).length, [0x2C].intercalate ids ++ [0]⟩

/-- two groups -/
theorem parsers_inside_twoGroups :
    (Plc.lampSynchronizeConfig .empty (message [groupList [[0x31], [0x32]]])).isSome :=
  (parsers_inside_iff (carriesTexts_message (List.forall_mem_singleton.2 ⟨_, by decide, rfl⟩))
    (List.length_replicate (n := 16) (a := 0)) ⟨0, fun _ => none⟩ .empty).2.2.2.1.2 ⟨by decide, by decide⟩

/-- a strategy or an appointment without a comma -/
def noComma : Parameter := ⟨0x4001, 1, [0x35, 0]⟩

/-- twelve groups -/
def twelveGroups : Parameter := groupList (List.replicate 12 [0x31])

/-- **Past the terminator and the array.** Without a comma the setters read on behind the text; the twelfth entry of a
list is stored behind the array. -/
theorem parsers_leave :
    CarriesTexts [noComma] (message [noComma]) ∧ CarriesTexts [twelveGroups] (message [twelveGroups]) ∧
      (Relay.relaySetRelayStrategy (List.replicate 16 0) (message [noComma])).isSome = false ∧
      (Relay.relaySetRelayAppointment (List.replicate 16 0) ⟨0, fun _ => none⟩ (message [noComma])).isSome = false ∧
      (Lamp.lampSetLampStrategy .empty (message [noComma])).isSome = false ∧
      (Plc.lampSynchronizeConfig .empty (message [twelveGroups])).isSome = false := by
  refine ⟨carriesTexts_message (List.forall_mem_singleton.2 ⟨[0x35], by decide, rfl⟩),
    carriesTexts_message (List.forall_mem_singleton.2 ⟨_, by decide, rfl⟩), ?_, ?_, ?_, ?_⟩
  · decide
  · decide
  · decide
  · decide

end DataConcentrator.TextBounds
