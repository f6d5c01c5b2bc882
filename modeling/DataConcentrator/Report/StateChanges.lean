/-
Reports of changed quantities: `ElectricityMeterDetectParasStateChanges` and
`InputCollectorDetectA_QuantityStateChanges`.

Values are exact rationals; allocations and queue sends succeed. All quantities of a module write to one `occur`, and
`abs` takes an `int`.
- `poll_spec`: what a poll does to a module, and what it queues;
- `report_shows`: what the frame of a meter shows;
- `changes_reported_iff`: over a run, every change is reported exactly if no later quantity takes the flag back and, in an
  input collector, none changes at all;
- `changes_lost`: a voltage before a current without a range, and an input collector.
-/
import DataConcentrator.ElectricityMeter.Readings
import DataConcentrator.Lib.EachIndex

namespace DataConcentrator.StateChanges

open DataConcentrator.ElectricityMeter (Para)
open EachIndex (eachRange eachRange_entry filter_eachRange eachKey eachKey_entry eachKey_flag)

/-! ## A quantity -/

/-- a quantity of a module: as it is measured, as it was reported, and its count -/
structure Quantity where
  current : ℚ
  mirror : ℚ
  cnt : UInt8

/-- `abs`, of an argument that is cut to an `int` -/
def intAbs (x : ℚ) : ℕ := if 0 ≤ x then ⌊x⌋.natAbs else ⌈x⌉.natAbs

/-- the count goes up to `confirm_time` -/
def Quantity.counted (q : Quantity) (confirm_time : UInt8) : Quantity :=
  if q.cnt < confirm_time then { q with cnt := q.cnt + 1 } else q

/-- the block of a quantity: what it makes of it, and what it writes to `occur` -/
def checkQuantity (range : ℚ) (confirm_time : UInt8) (settle : Quantity → Quantity) (q : Quantity) :
    Quantity × Option Bool :=
  if range ≠ 0 then
    if range ≤ intAbs (q.current - q.mirror) then
      if (q.counted confirm_time).cnt = confirm_time then (settle (q.counted confirm_time), some true)
      else (q.counted confirm_time, none)
    else ({ q with cnt := 0 }, some false)
  else ({ q with cnt := 0 }, some false)

/-- `mirror = current` -/
def adopt (q : Quantity) : Quantity := { q with mirror := q.current }

/-- `current = mirror` -/
def revert (q : Quantity) : Quantity := { q with current := q.mirror }

/-! ## The modules -/

variable {κ : Type}

/-- an entry of the states with its static variables -/
structure Module (κ : Type) where
  quantity : κ → Quantity
  occur : Bool

/-- a copy of the state -/
structure Report (κ : Type) where
  current : κ → ℚ
  mirror : κ → ℚ

structure Station (κ : Type) where
  time_s : UInt32
  modules : ℕ → Module κ

/-- what the two functions read, and what they do with a confirmed quantity -/
structure Settings (κ : Type) where
  auto_report : UInt8
  detect_interval : UInt16
  number : ℕ
  keys : ℕ → List κ
  nodup : ∀ i, (keys i).Nodup
  range : ℕ → κ → ℚ
  confirm_time : ℕ → UInt8
  settle : Quantity → Quantity

variable (S : Settings κ)

def Settings.check (i : ℕ) (k : κ) (q : Quantity) : Quantity × Option Bool :=
  checkQuantity (S.range i k) (S.confirm_time i) S.settle q

def Settings.pollModule [DecidableEq κ] (i : ℕ) (m : Module κ) : Module κ × Option (Report κ) :=
  let r := eachKey (S.check i) (S.keys i) (m.quantity, m.occur)
  if r.2 = true then (⟨r.1, false⟩, some ⟨fun k => (r.1 k).current, fun k => (r.1 k).mirror⟩) else (⟨r.1, r.2⟩, none)

def Settings.due (now : UInt32) (st : Station κ) : Prop :=
  S.auto_report = 1 ∧ UInt32.ofNat (S.detect_interval.toNat / 10) ≤ now - st.time_s

instance (now : UInt32) (st : Station κ) : Decidable (S.due now st) := inferInstanceAs (Decidable (_ ∧ _))

/-- the state after a call, and what it has queued -/
def detectStateChanges [DecidableEq κ] (now : UInt32) (st : Station κ) : Station κ × List (ℕ × Report κ) :=
  if S.due now st then
    let r := eachRange S.pollModule S.number st.modules
    (⟨now, r.1⟩, r.2)
  else (st, [])

/-! ## The meters -/

structure MeterSettings where
  auto_report : UInt8
  detect_interval : UInt16
  number : ℕ
  address : ℕ → UInt8
  channel : ℕ → UInt8
  ch_num : ℕ → UInt8
  ch_num_lt : ∀ i, (ch_num i).toNat < 7
  voltage_range_of_change : ℕ → ℚ
  current_range_of_change : ℕ → ℚ
  pf_range_of_change : ℕ → ℚ
  confirm_time : ℕ → UInt8

/-- the three quantities with a block of their own -/
def watchedParas : List Para := [.voltage, .current, .power_factor]

def MeterSettings.range (cfg : MeterSettings) (i : ℕ) : Para → ℚ
  | .voltage => cfg.voltage_range_of_change i
  | .current => cfg.current_range_of_change i
  | .power_factor => cfg.pf_range_of_change i
  | _ => 0

theorem nodup_watchedParas : watchedParas.Nodup := by decide

def meterKeys (ch_num : ℕ) : List (ℕ × Para) := List.range ch_num ×ˢ watchedParas

def MeterSettings.settings (cfg : MeterSettings) : Settings (ℕ × Para) where
  auto_report := cfg.auto_report
  detect_interval := cfg.detect_interval
  number := cfg.number
  keys i := meterKeys (cfg.ch_num i).toNat
  nodup _ := List.nodup_range.product nodup_watchedParas
  range i k := cfg.range i k.2
  confirm_time := cfg.confirm_time
  settle := adopt

def electricityMeterDetectParasStateChanges (cfg : MeterSettings) (now : UInt32) (st : Station (ℕ × Para)) :
    Station (ℕ × Para) × List (ℕ × Report (ℕ × Para)) :=
  detectStateChanges cfg.settings now st

/-- what is printed into a parameter -/
inductive Field where
  | hex (n : UInt8)
  | dec (n : UInt8)
  | fixed (decimals : ℕ) (value : ℚ)

structure Parameter where
  type : ℕ
  fields : List Field

/-- the values of a channel as they are printed, with their decimals -/
def printedParas : List (Para × ℕ) :=
  [(.voltage, 2), (.current, 3), (.active_power, 3), (.active_energy, 2), (.reactive_energy, 2), (.power_factor, 2),
   (.frequency, 2), (.line_voltage, 2)]

/-- the parameters of the frame -/
def electricityMeterSendStateChangesReportFrameToServer (address channel ch_num : UInt8) (current_para : ℕ × Para → ℚ) :
    List Parameter :=
  ⟨0x3001, [.hex address]⟩ :: ⟨0x4002, [.dec channel]⟩ :: ⟨0x8003, [.dec ch_num]⟩ ::
    (List.range (ch_num.toNat + 1)).map fun m =>
      ⟨0x8004 + m, printedParas.map fun p => .fixed p.2 (current_para (m, p.1))⟩

/-! ## The input collectors -/

structure CollectorSettings where
  auto_report : UInt8
  detect_interval : UInt16
  number : ℕ
  a_loop_num : ℕ → UInt8
  a_loop_num_le : ∀ i, (a_loop_num i).toNat ≤ 8
  a_quantity_range : ℕ → ℚ
  confirm_time : ℕ → UInt8

def CollectorSettings.settings (cfg : CollectorSettings) : Settings ℕ where
  auto_report := cfg.auto_report
  detect_interval := cfg.detect_interval
  number := cfg.number
  keys i := List.range (cfg.a_loop_num i).toNat
  nodup _ := List.nodup_range
  range i _ := cfg.a_quantity_range i
  confirm_time := cfg.confirm_time
  settle := revert

def inputCollectorDetectA_QuantityStateChanges (cfg : CollectorSettings) (now : UInt32) (st : Station ℕ) :
    Station ℕ × List (ℕ × Report ℕ) :=
  detectStateChanges cfg.settings now st

/-! ## Runs -/

/-- values collected from a module, and a call -/
inductive Moment (κ : Type) where
  | collect (i : ℕ) (value : κ → ℚ)
  | poll (now : UInt32)

/-- the state of a run, and for how many polls in a row each quantity has differed from its mirror -/
structure Watched (κ : Type) where
  station : Station κ
  streak : ℕ → κ → ℕ

def Watched.quantity (w : Watched κ) (i : ℕ) (k : κ) : Quantity := (w.station.modules i).quantity k

/-- the value differs from its mirror by at least the range -/
def Quantity.Differs (q : Quantity) (range : ℚ) : Prop := range ≠ 0 ∧ range ≤ |q.current - q.mirror|

instance (q : Quantity) (range : ℚ) : Decidable (q.Differs range) := inferInstanceAs (Decidable (_ ∧ _))

def Station.collect (st : Station κ) (i : ℕ) (value : κ → ℚ) : Station κ :=
  let m := st.modules i
  ⟨st.time_s, Function.update st.modules i ⟨fun k => { m.quantity k with current := value k }, m.occur⟩⟩

variable [DecidableEq κ]

def Watched.step (w : Watched κ) : Moment κ → Watched κ
  | .collect i value => { w with station := w.station.collect i value }
  | .poll now => {
      station := (detectStateChanges S now w.station).1
      streak := if S.due now w.station then
          fun i k => if (w.quantity i k).Differs (S.range i k) then w.streak i k + 1 else 0
        else w.streak }

def next (w : Watched κ) (m : Moment κ) : Option (Watched κ) := some (w.step S m)

/-- the poll makes it `confirm_time` polls in a row -/
def Watched.Due (w : Watched κ) (i : ℕ) (k : κ) : Prop :=
  (w.quantity i k).Differs (S.range i k) ∧ (S.confirm_time i).toNat ≤ w.streak i k + 1

/-- what a poll has to do: one report of a module with a due quantity, which carries every such value, and mirrors that
become the values -/
def Watched.RightPoll (Shown : ℕ → κ → Prop) (Carries : ℕ → Report κ → κ → ℚ → Prop) (w : Watched κ) (now : UInt32) : Prop :=
  S.due now w.station → ∀ i < S.number, (∃ k, Shown i k ∧ w.Due S i k) →
    ∃ r, (detectStateChanges S now w.station).2.filter (fun r => r.1 = i) = [(i, r)] ∧
      ∀ k, Shown i k → w.Due S i k → Carries i r k (w.quantity i k).current ∧
        (((detectStateChanges S now w.station).1.modules i).quantity k).mirror = (w.quantity i k).current

/-- a condition at every poll that takes place -/
def AtPoll (P : Watched κ → UInt32 → Prop) (w : Watched κ) : Moment κ → Prop
  | .collect .. => True
  | .poll now => P w now

/-! ## What the loops find -/

/-- the code counts the quantity -/
def Quantity.Counts (q : Quantity) (range : ℚ) : Prop := range ≠ 0 ∧ range ≤ intAbs (q.current - q.mirror)

/-- and its count is full -/
def Settings.Fires (i : ℕ) (k : κ) (q : Quantity) : Prop :=
  q.Counts (S.range i k) ∧ (q.counted (S.confirm_time i)).cnt = S.confirm_time i

/-- a quantity fires, and those after it in the loops are counted -/
def Settings.Last (i : ℕ) (quantity : κ → Quantity) : Prop :=
  ∃ pre k post, S.keys i = pre ++ k :: post ∧ S.Fires i k (quantity k) ∧ ∀ k' ∈ post, (quantity k').Counts (S.range i k')

/-- what a module with due quantities needs, where `Taken` is what each of them needs -/
def Watched.CaughtPoll (Shown : ℕ → κ → Prop) (Taken : Watched κ → ℕ → κ → Prop) (w : Watched κ) (now : UInt32) : Prop :=
  S.due now w.station → ∀ i < S.number, (∃ k, Shown i k ∧ w.Due S i k) →
    S.Last i (w.quantity i) ∧ ∀ k, Shown i k → w.Due S i k → Taken w i k

/-! ## A poll -/

theorem counted_current (q : Quantity) (confirm_time : UInt8) : (q.counted confirm_time).current = q.current := by
  rw [Quantity.counted]
  split_ifs <;> rfl

theorem counted_mirror (q : Quantity) (confirm_time : UInt8) : (q.counted confirm_time).mirror = q.mirror := by
  rw [Quantity.counted]
  split_ifs <;> rfl

/-- what a block writes to `occur` -/
theorem check_flag {κ : Type} (S : Settings κ) (i : ℕ) (k : κ) (q : Quantity) :
    ((S.check i k q).2 = some true ↔ S.Fires i k q) ∧ ((S.check i k q).2 ≠ some false ↔ q.Counts (S.range i k)) := by
  rw [Settings.check, checkQuantity, Settings.Fires, Quantity.Counts]
  split_ifs with hrange hcounts hfull <;> simp [*]

/-- a block changes the values of a quantity that fires alone -/
theorem check_values {κ : Type} (S : Settings κ) (i : ℕ) (k : κ) (q : Quantity) :
    S.Fires i k q ∧ (S.check i k q).1 = S.settle (q.counted (S.confirm_time i)) ∨
      ¬ S.Fires i k q ∧ (S.check i k q).1.current = q.current ∧ (S.check i k q).1.mirror = q.mirror := by
  rw [Settings.check, checkQuantity, Settings.Fires, Quantity.Counts]
  split_ifs with hrange hcounts hfull
  · exact Or.inl ⟨⟨⟨hrange, hcounts⟩, hfull⟩, rfl⟩
  · exact Or.inr ⟨fun h => hfull h.2, counted_current q _, counted_mirror q _⟩
  · exact Or.inr ⟨fun h => hcounts h.1.2, rfl, rfl⟩
  · exact Or.inr ⟨fun h => hrange h.1.1, rfl, rfl⟩

section Poll

variable {S} {w : Watched κ} {i : ℕ} {now : UInt32}

/-- the values of a quantity after a poll -/
def Watched.after (S : Settings κ) (w : Watched κ) (i : ℕ) (k : κ) : Quantity :=
  if k ∈ S.keys i then (S.check i k (w.quantity i k)).1 else w.quantity i k

/-- between two polls no flag is up -/
def Watched.Lowered (w : Watched κ) : Prop := ∀ i, (w.station.modules i).occur = false

theorem pollModule_spec (m : Module κ) (hoccur : m.occur = false) :
    (S.pollModule i m).1.quantity = (eachKey (S.check i) (S.keys i) (m.quantity, m.occur)).1 ∧
      (S.pollModule i m).1.occur = false ∧
      (S.Last i m.quantity ∧ (S.pollModule i m).2 = some ⟨fun k => ((S.pollModule i m).1.quantity k).current,
        fun k => ((S.pollModule i m).1.quantity k).mirror⟩ ∨
      ¬ S.Last i m.quantity ∧ (S.pollModule i m).2 = none) := by
  have hflag := eachKey_flag (S.check i) (S.keys i) (S.nodup i) (m.quantity, m.occur)
  rw [or_iff_left fun h => Bool.false_ne_true (hoccur.symm.trans h.1)] at hflag
  simp only [(check_flag S i _ _).1, (check_flag S i _ _).2] at hflag
  rw [Settings.pollModule]
  split_ifs with hup
  · exact ⟨rfl, rfl, Or.inl ⟨hflag.1 hup, rfl⟩⟩
  · exact ⟨rfl, Bool.eq_false_iff.2 hup, Or.inr ⟨fun h => hup (hflag.2 h), rfl⟩⟩

/-- **A poll** that takes place. -/
theorem poll_spec (hlow : w.Lowered) (hdue : S.due now w.station) (hi : i < S.number) :
    (∀ k, ((detectStateChanges S now w.station).1.modules i).quantity k = w.after S i k) ∧
      ∀ r, (detectStateChanges S now w.station).2.filter (fun r => r.1 = i) = [(i, r)] ↔
        S.Last i (w.quantity i) ∧ r = ⟨fun k => (w.after S i k).current, fun k => (w.after S i k).mirror⟩ := by
  obtain ⟨hquantity, -, hreport⟩ := pollModule_spec (S := S) (i := i) (w.station.modules i) (hlow i)
  have hafter : ∀ k, (S.pollModule i (w.station.modules i)).1.quantity k = w.after S i k := fun k => by
    rw [hquantity, eachKey_entry _ _ (S.nodup i)]
    rfl
  rw [detectStateChanges, if_pos hdue]
  dsimp only
  refine ⟨fun k => ?_, fun r => ?_⟩
  · rw [eachRange_entry, if_pos hi]
    exact hafter k
  · simp only [hafter] at hreport
    rw [filter_eachRange, if_pos hi]
    rcases hreport with ⟨hlast, heq⟩ | ⟨hno, heq⟩
    · have hlast' : S.Last i (w.quantity i) := hlast
      rw [heq, and_iff_right hlast', Option.toList_some, List.map_singleton, List.singleton_inj, Prod.mk_right_inj,
        eq_comm]
    · rw [heq]
      exact iff_of_false (List.cons_ne_nil _ _).symm fun h => hno h.1

/-- **What is right** about a poll, where the reports carry what they are copied from -/
theorem right_iff {Shown : ℕ → κ → Prop} {Carries : ℕ → Report κ → κ → ℚ → Prop} {Taken : Watched κ → ℕ → κ → Prop}
    (hcarries : ∀ i r k v, Shown i k → (Carries i r k v ↔ r.current k = v))
    (htaken : ∀ i k, (w.after S i k).current = (w.quantity i k).current ∧
      (w.after S i k).mirror = (w.quantity i k).current ↔ Taken w i k) (hlow : w.Lowered) :
    w.RightPoll S Shown Carries now ↔ w.CaughtPoll S Shown Taken now := by
  refine forall_congr' fun hdue => forall_congr' fun i => forall_congr' fun hi => forall_congr' fun _ => ?_
  obtain ⟨hafter, hreport⟩ := poll_spec hlow hdue hi
  simp only [hreport, hafter]
  constructor
  · rintro ⟨r, ⟨hlast, rfl⟩, hall⟩
    refine ⟨hlast, fun k hshown hk => ?_⟩
    obtain ⟨hcarried, hmirror⟩ := hall k hshown hk
    exact (htaken i k).1 ⟨(hcarries i _ k _ hshown).1 hcarried, hmirror⟩
  · rintro ⟨hlast, hall⟩
    refine ⟨_, ⟨hlast, rfl⟩, fun k hshown hk => ?_⟩
    obtain ⟨hcurrent, hmirror⟩ := (htaken i k).2 (hall k hshown hk)
    exact ⟨(hcarries i _ k _ hshown).2 hcurrent, hmirror⟩

/-- no poll leaves a flag up -/
theorem Watched.Lowered.step (hlow : w.Lowered) (m : Moment κ) : (w.step S m).Lowered := by
  intro i
  cases m with
  | collect i' value =>
    rw [Watched.step, Station.collect]
    dsimp only
    rcases eq_or_ne i i' with rfl | hne
    · rw [Function.update_self]
      exact hlow i
    · rw [Function.update_of_ne hne]
      exact hlow i
  | poll now =>
    rw [Watched.step, detectStateChanges]
    dsimp only
    split_ifs
    · dsimp only
      rw [eachRange_entry]
      split_ifs
      · exact (pollModule_spec (w.station.modules i) (hlow i)).2.1
      · exact hlow i
    · exact hlow i

/-- **A run** is right exactly if each poll is. -/
theorem run_right_iff {Shown : ℕ → κ → Prop} {Carries : ℕ → Report κ → κ → ℚ → Prop} {Taken : Watched κ → ℕ → κ → Prop}
    (hcarries : ∀ i r k v, Shown i k → (Carries i r k v ↔ r.current k = v))
    (htaken : ∀ w : Watched κ, ∀ i k, (w.after S i k).current = (w.quantity i k).current ∧
      (w.after S i k).mirror = (w.quantity i k).current ↔ Taken w i k) (hlow : w.Lowered) (moments : List (Moment κ)) :
    Tally.Along (next S) (AtPoll (Watched.RightPoll S Shown Carries)) w moments ↔
      Tally.Along (next S) (AtPoll (Watched.CaughtPoll S Shown Taken)) w moments := by
  refine @Tally.along_congr _ _ (next S) Watched.Lowered _ _ (fun _ => True) ?_ ?_ moments (fun _ _ => trivial) w hlow
  · intro w m t _ hw ht
    rw [← Option.some.inj ht]
    exact hw.step m
  · intro w m _ hw
    cases m with
    | collect i value => exact Iff.rfl
    | poll now => exact right_iff hcarries (htaken w) hw

end Poll

/-! ## The two functions -/

/-- the values and mirrors at the start; nothing is counted -/
def Watched.start (current mirror : ℕ → κ → ℚ) : Watched κ where
  station := ⟨0, fun i => ⟨fun k => ⟨current i k, mirror i k, 0⟩, false⟩⟩
  streak _ _ := 0

omit [DecidableEq κ] in
theorem lowered_start (current mirror : ℕ → κ → ℚ) : (Watched.start current mirror).Lowered := fun _ => rfl

/-- voltage, current and power factor of the channels 0 to `ch_num`, which the report shows -/
def MeterSettings.Shown (cfg : MeterSettings) (i : ℕ) (k : ℕ × Para) : Prop :=
  k.1 ≤ (cfg.ch_num i).toNat ∧ k.2 ∈ watchedParas

/-- the frame made of a report shows a value of a channel -/
def MeterSettings.Carries (cfg : MeterSettings) (i : ℕ) (r : Report (ℕ × Para)) (k : ℕ × Para) (v : ℚ) : Prop :=
  ∃ p ∈ electricityMeterSendStateChangesReportFrameToServer (cfg.address i) (cfg.channel i) (cfg.ch_num i) r.current,
    p.type = 0x8004 + k.1 ∧
      ∃ decimals, p.fields[printedParas.findIdx fun q => q.1 = k.2]? = some (.fixed decimals v)

/-- a quantity that fires, and one that is at its mirror anyway -/
def MeterSettings.Taken (cfg : MeterSettings) (w : Watched (ℕ × Para)) (i : ℕ) (k : ℕ × Para) : Prop :=
  k.1 < (cfg.ch_num i).toNat ∧ k.2 ∈ watchedParas ∧ cfg.settings.Fires i k (w.quantity i k) ∨
    (w.quantity i k).mirror = (w.quantity i k).current

/-- **The frame of a meter** shows the values that the report has copied. -/
theorem report_shows (cfg : MeterSettings) (i : ℕ) (r : Report (ℕ × Para)) (k : ℕ × Para) (v : ℚ) (hk : cfg.Shown i k) :
    cfg.Carries i r k v ↔ r.current k = v := by
  obtain ⟨j, para⟩ := k
  have hfield : ∃ decimals, (printedParas.map fun p => Field.fixed p.2 (r.current (j, p.1)))[
      printedParas.findIdx fun q => q.1 = para]? = some (.fixed decimals (r.current (j, para))) := by
    cases para <;> exact ⟨_, rfl⟩
  constructor
  · rintro ⟨p, hp, htype, decimals, hv⟩
    have hbelow := hk.1
    have hlt := cfg.ch_num_lt i
    simp only [electricityMeterSendStateChangesReportFrameToServer, List.mem_cons, List.mem_map, List.mem_range] at hp
    rcases hp with rfl | rfl | rfl | ⟨m, -, rfl⟩
    · simp only at htype
      omega
    · simp only at htype
      omega
    · simp only at htype
      omega
    · simp only [Nat.add_left_cancel_iff] at htype
      subst htype
      obtain ⟨decimals', hfield⟩ := hfield
      simp only at hv
      rw [hfield] at hv
      exact (Field.fixed.inj (Option.some.inj hv)).2
  · rintro rfl
    refine ⟨_, List.mem_cons_of_mem _ (List.mem_cons_of_mem _ (List.mem_cons_of_mem _ (List.mem_map.2
      ⟨j, List.mem_range.2 (Nat.lt_succ_of_le hk.1), rfl⟩))), rfl, hfield⟩

/-- what a meter makes of a quantity -/
theorem meter_taken (cfg : MeterSettings) (w : Watched (ℕ × Para)) (i : ℕ) (k : ℕ × Para) :
    (w.after cfg.settings i k).current = (w.quantity i k).current ∧
      (w.after cfg.settings i k).mirror = (w.quantity i k).current ↔ cfg.Taken w i k := by
  have hmem : k ∈ cfg.settings.keys i ↔ k.1 < (cfg.ch_num i).toNat ∧ k.2 ∈ watchedParas := by
    rw [show cfg.settings.keys i = List.range (cfg.ch_num i).toNat ×ˢ watchedParas from rfl, List.mem_product, List.mem_range]
  rw [MeterSettings.Taken, ← and_assoc, ← hmem, Watched.after]
  split_ifs with hk
  · rcases check_values cfg.settings i k (w.quantity i k) with ⟨hfires, heq⟩ | ⟨hno, hcurrent, hmirror⟩
    · rw [heq]
      exact iff_of_true ⟨counted_current _ _, counted_current _ _⟩ (Or.inl ⟨hk, hfires⟩)
    · rw [hcurrent, hmirror, and_iff_right rfl, or_iff_right fun h => hno h.2]
  · rw [and_iff_right rfl, or_iff_right fun h => hk h.1]

def CollectorSettings.Shown (cfg : CollectorSettings) (i k : ℕ) : Prop := k < (cfg.a_loop_num i).toNat

def Unmoved (w : Watched ℕ) (i k : ℕ) : Prop := (w.quantity i k).mirror = (w.quantity i k).current

/-- an input collector never takes a value -/
theorem collector_taken (cfg : CollectorSettings) (w : Watched ℕ) (i k : ℕ) :
    (w.after cfg.settings i k).current = (w.quantity i k).current ∧
      (w.after cfg.settings i k).mirror = (w.quantity i k).current ↔ Unmoved w i k := by
  rw [Unmoved, Watched.after]
  split_ifs with hk
  · rcases check_values cfg.settings i k (w.quantity i k) with ⟨-, heq⟩ | ⟨-, hcurrent, hmirror⟩
    · have hmirror : (cfg.settings.check i k (w.quantity i k)).1.mirror = (w.quantity i k).mirror := by
        rw [heq]
        exact counted_mirror _ _
      have hcurrent : (cfg.settings.check i k (w.quantity i k)).1.current = (w.quantity i k).mirror := by
        rw [heq]
        exact counted_mirror _ _
      rw [hcurrent, hmirror, and_self_iff]
    · rw [hcurrent, hmirror, and_iff_right rfl]
  · rw [and_iff_right rfl]

/-- **Changes are not lost** exactly if, at every poll that takes place and in every module with a due quantity, some quantity
fires and those after it in the loops are counted, and every due quantity fires (or is at its mirror); in an input collector
all of them have to be at their mirrors. -/
theorem changes_reported_iff (meter : MeterSettings) (current mirror : ℕ → ℕ × Para → ℚ)
    (moments : List (Moment (ℕ × Para))) (collector : CollectorSettings) (current' mirror' : ℕ → ℕ → ℚ)
    (moments' : List (Moment ℕ)) :
    (Tally.Along (next meter.settings) (AtPoll (Watched.RightPoll meter.settings meter.Shown meter.Carries))
          (Watched.start current mirror) moments ↔
        Tally.Along (next meter.settings) (AtPoll (Watched.CaughtPoll meter.settings meter.Shown meter.Taken))
          (Watched.start current mirror) moments) ∧
      (Tally.Along (next collector.settings)
          (AtPoll (Watched.RightPoll collector.settings collector.Shown fun _ r k v => r.current k = v))
          (Watched.start current' mirror') moments' ↔
        Tally.Along (next collector.settings) (AtPoll (Watched.CaughtPoll collector.settings collector.Shown Unmoved))
          (Watched.start current' mirror') moments') := by
  constructor
  · exact run_right_iff (report_shows meter) (meter_taken meter) (lowered_start current mirror) moments
  · exact run_right_iff (fun _ _ _ _ _ => Iff.rfl) (collector_taken collector) (lowered_start current' mirror') moments'

/-! ## One module -/

/-- a meter of one phase; the current and the power factor have no range -/
def oneMeter : MeterSettings where
  auto_report := 1
  detect_interval := 0
  number := 1
  address _ := 1
  channel _ := 1
  ch_num _ := 1
  ch_num_lt _ := Nat.lt_of_sub_eq_succ rfl
  voltage_range_of_change _ := 5
  current_range_of_change _ := 0
  pf_range_of_change _ := 0
  confirm_time _ := 1

/-- an input collector with one analogue channel -/
def oneCollector : CollectorSettings where
  auto_report := 1
  detect_interval := 0
  number := 1
  a_loop_num _ := 1
  a_loop_num_le _ := Nat.le_add_left 1 7
  a_quantity_range _ := 5
  confirm_time _ := 1

/-- **Changes that are lost.** The voltage of a meter has changed, but its current has no range; an input collector takes the
change back. -/
theorem changes_lost :
    ¬ Tally.Along (next oneMeter.settings) (AtPoll (Watched.RightPoll oneMeter.settings oneMeter.Shown oneMeter.Carries))
        (Watched.start (fun _ _ => 230) fun _ _ => 0) [.poll 0] ∧
      ¬ Tally.Along (next oneCollector.settings)
        (AtPoll (Watched.RightPoll oneCollector.settings oneCollector.Shown fun _ r k v => r.current k = v))
        (Watched.start (fun _ _ => 10) fun _ _ => 0) [.poll 0] := by
  refine ⟨fun h => ?_, fun h => ?_⟩
  · obtain ⟨r, hr, -⟩ := h.1 (by decide) 0 Nat.one_pos ⟨(0, .voltage), ⟨by decide, by decide⟩, by decide +kernel, by decide⟩
    have hnone : (detectStateChanges oneMeter.settings 0
        (Watched.start (fun _ _ => 230) fun _ _ => 0 : Watched (ℕ × Para)).station).2.length = 0 := by decide +kernel
    rw [List.length_eq_zero_iff.1 hnone] at hr
    exact absurd hr (List.cons_ne_nil _ _).symm
  · have hdue : (Watched.start (fun _ _ => 10) fun _ _ => 0 : Watched ℕ).Due oneCollector.settings 0 0 :=
      ⟨by decide +kernel, by decide⟩
    obtain ⟨r, -, hall⟩ := h.1 (by decide) 0 Nat.one_pos ⟨0, Nat.one_pos, hdue⟩
    exact absurd (hall 0 Nat.one_pos hdue).2 (by decide +kernel)

end DataConcentrator.StateChanges
