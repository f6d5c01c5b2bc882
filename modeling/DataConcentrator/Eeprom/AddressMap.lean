/-
The EEPROM address map of `common.h`: every configuration record with its base address, its length, and, for a
collection, the number of its entries. All records share one flat address space.

- `disjoint_of_not_clash`: two different records whose pair is not listed in `Clash` have disjoint ranges;
- `clash_overlaps`: the ranges of a listed pair do overlap, so `Clash` is exact.

`LAMP_NODE_LOSS_ALARM_CONF` and `LAMP_STRATEGY_NUM` have an address but no Read or Write function; they are left out.
-/
import DataConcentrator.Lib.ByteStore

namespace DataConcentrator.Eeprom

open ByteStore (Region)

/-! ## Records -/

/-- the kinds of configuration records, one for each pair of Read and Write functions -/
inductive Kind where
  | concentratorBasicConf | concentratorRunMode | concentratorAlarmConf | concentratorGateWay
  | electricityInMeterRatio | concentratorLocationConf | fwState | concentratorLocalNetConf
  | relayModuleStrategySwitch | relayModuleAppointmentNum | relayModuleStrategyNum | relayModuleConfNum
  | relayModuleBasicConf | relayModuleConf | relayModuleAlarmConf | relayModuleAppointment | relayModuleStrategy
  | inputCollectorBasicConf | inputCollectorConfNum | inputCollectorConf | inputCollectorAlarmConf
  | electricityMeterBasicConf | electricityMeterConfNum | electricityMeterConf | electricityMeterAlarmConf
  | lampListNum | lampAppointmentNum | lampGroupListNum | lampBasicConf | lampFwState
  | lampAppointment | lampConf | lampStrategy | lampStrategyListNum
  | lumeterConfNum | lumeterBasicConf | lumeterAlarmConf | lumeterConf
deriving DecidableEq, Repr

namespace Kind

def all : List Kind :=
  [concentratorBasicConf, concentratorRunMode, concentratorAlarmConf, concentratorGateWay, electricityInMeterRatio,
   concentratorLocationConf, fwState, concentratorLocalNetConf, relayModuleStrategySwitch, relayModuleAppointmentNum,
   relayModuleStrategyNum, relayModuleConfNum, relayModuleBasicConf, relayModuleConf, relayModuleAlarmConf,
   relayModuleAppointment, relayModuleStrategy, inputCollectorBasicConf, inputCollectorConfNum, inputCollectorConf,
   inputCollectorAlarmConf, electricityMeterBasicConf, electricityMeterConfNum, electricityMeterConf,
   electricityMeterAlarmConf, lampListNum, lampAppointmentNum, lampGroupListNum, lampBasicConf, lampFwState,
   lampAppointment, lampConf, lampStrategy, lampStrategyListNum, lumeterConfNum, lumeterBasicConf, lumeterAlarmConf,
   lumeterConf]

theorem mem_all (k : Kind) : k ∈ all := by cases k <;> decide

/-- the `_ADD` constants -/
def add : Kind → ℕ
  | concentratorBasicConf => 0
  | concentratorRunMode => 151
  | concentratorAlarmConf => 155
  | concentratorGateWay => 184
  | electricityInMeterRatio => 190
  | concentratorLocationConf => 201
  | fwState => 1721
  | concentratorLocalNetConf => 1800
  | relayModuleStrategySwitch => 1848
  | relayModuleAppointmentNum => 1874
  | relayModuleStrategyNum => 1880
  | relayModuleConfNum => 1886
  | relayModuleBasicConf => 1892
  | relayModuleConf => 1901
  | relayModuleAlarmConf => 3301
  | relayModuleAppointment => 3351
  | relayModuleStrategy => 4351
  | inputCollectorBasicConf => 15790
  | inputCollectorConfNum => 15795
  | inputCollectorConf => 15801
  | inputCollectorAlarmConf => 18391
  | electricityMeterBasicConf => 17551
  | electricityMeterConfNum => 17556
  | electricityMeterConf => 17562
  | electricityMeterAlarmConf => 23526
  | lampListNum => 23533
  | lampAppointmentNum => 23608
  | lampGroupListNum => 23620
  | lampBasicConf => 23642
  | lampFwState => 23660
  | lampAppointment => 23739
  | lampConf => 24689
  | lampStrategy => 40561
  | lampStrategyListNum => 66673
  | lumeterConfNum => 70000
  | lumeterBasicConf => 70006
  | lumeterAlarmConf => 70031
  | lumeterConf => 70035

/-- the `_LEN` constants -/
def len : Kind → ℕ
  | concentratorBasicConf => 127
  | concentratorRunMode => 3
  | concentratorAlarmConf => 24
  | concentratorGateWay => 6
  | electricityInMeterRatio => 10
  | concentratorLocationConf => 1506
  | fwState => 79
  | concentratorLocalNetConf => 26
  | relayModuleStrategySwitch => 29
  | relayModuleAppointmentNum => 6
  | relayModuleStrategyNum => 6
  | relayModuleConfNum => 6
  | relayModuleBasicConf => 9
  | relayModuleConf => 277
  | relayModuleAlarmConf => 5
  | relayModuleAppointment => 95
  | relayModuleStrategy => 38
  | inputCollectorBasicConf => 5
  | inputCollectorConfNum => 6
  | inputCollectorConf => 259
  | inputCollectorAlarmConf => 4
  | electricityMeterBasicConf => 5
  | electricityMeterConfNum => 6
  | electricityMeterConf => 994
  | electricityMeterAlarmConf => 3
  | lampListNum => 68
  | lampAppointmentNum => 6
  | lampGroupListNum => 22
  | lampBasicConf => 18
  | lampFwState => 79
  | lampAppointment => 95
  | lampConf => 31
  | lampStrategy => 51
  | lampStrategyListNum => 68
  | lumeterConfNum => 6
  | lumeterBasicConf => 25
  | lumeterAlarmConf => 4
  | lumeterConf => 42

/-- the `MAX_*_NUM` constants of the collections; 1 for a single record -/
def max : Kind → ℕ
  | relayModuleConf => 5
  | relayModuleAppointment => 10
  | relayModuleStrategy => 300
  | inputCollectorConf => 10
  | electricityMeterConf => 6
  | lampAppointment => 10
  | lampConf => 512
  | lampStrategy => 512
  | lumeterConf => 4
  | _ => 1

/-- the whole range of a kind, all its entries included -/
def span (k : Kind) : Region := ⟨k.add, k.max * k.len⟩

theorem max_pos (k : Kind) : 0 < k.max := by cases k <;> decide

end Kind

/-- a configuration record: its kind and, in a collection, its index below the bound -/
structure Rec where
  kind : Kind
  idx : ℕ
  idx_lt : idx < kind.max
deriving DecidableEq, Repr

/-- the first entry of a kind; the only one unless the kind is a collection -/
def Rec.first (k : Kind) : Rec := ⟨k, 0, k.max_pos⟩

/-- `[ADD + i*LEN, ADD + (i+1)*LEN)` -/
def Rec.region (r : Rec) : Region := ⟨r.kind.add + r.idx * r.kind.len, r.kind.len⟩

theorem Rec.ext_iff' {r s : Rec} : r = s ↔ r.kind = s.kind ∧ r.idx = s.idx := by
  cases r; cases s; simp

/-! ## Which records overlap -/

/-- one order of an overlapping pair: the mode switch and the relay appointment count; the input collectors 6 to 9
and the electricity meter records; the input collector alarm record and the first meter -/
def ClashOrd (r s : Rec) : Prop :=
  (r.kind = .relayModuleStrategySwitch ∧ s.kind = .relayModuleAppointmentNum) ∨
  (r.kind = .inputCollectorConf ∧ r.idx = 6 ∧ s.kind = .electricityMeterBasicConf) ∨
  (r.kind = .inputCollectorConf ∧ r.idx = 6 ∧ s.kind = .electricityMeterConfNum) ∨
  (r.kind = .inputCollectorConf ∧ 6 ≤ r.idx ∧ s.kind = .electricityMeterConf ∧ s.idx = 0) ∨
  (r.kind = .inputCollectorAlarmConf ∧ s.kind = .electricityMeterConf ∧ s.idx = 0)

instance (r s : Rec) : Decidable (ClashOrd r s) := by unfold ClashOrd; infer_instance

/-- the pairs of records whose ranges overlap -/
def Clash (r s : Rec) : Prop := ClashOrd r s ∨ ClashOrd s r

instance (r s : Rec) : Decidable (Clash r s) := by unfold Clash; infer_instance

theorem Clash.symm {r s : Rec} (h : Clash r s) : Clash s r := Or.symm h

/-- one order of the pairs of kinds whose spans overlap -/
def spansMeet (k l : Kind) : Bool :=
  (k = .relayModuleStrategySwitch && l = .relayModuleAppointmentNum) ||
  (k = .inputCollectorConf &&
    (l = .electricityMeterBasicConf || l = .electricityMeterConfNum || l = .electricityMeterConf)) ||
  (k = .inputCollectorAlarmConf && l = .electricityMeterConf)

theorem spans_disjoint (k l : Kind) (hne : k ≠ l) (h1 : spansMeet k l = false) (h2 : spansMeet l k = false) :
    k.span.Disjoint l.span := by
  have h : ∀ k ∈ Kind.all, ∀ l ∈ Kind.all, k ≠ l → spansMeet k l = false → spansMeet l k = false →
      k.span.Disjoint l.span := by decide +kernel
  exact h k (Kind.mem_all k) l (Kind.mem_all l) hne h1 h2

/-- an entry lies inside its kind's span -/
theorem region_in_span (r : Rec) : r.kind.span.base ≤ r.region.base ∧
    r.region.base + r.region.size ≤ r.kind.span.base + r.kind.span.size := by
  have h : (r.idx + 1) * r.kind.len ≤ r.kind.max * r.kind.len := Nat.mul_le_mul_right _ r.idx_lt
  rw [Nat.add_mul, Nat.one_mul] at h
  constructor
  · simp [Kind.span, Rec.region]
  · simp only [Kind.span, Rec.region]; omega

/-- two entries of one collection do not overlap -/
theorem disjoint_of_same_kind {r s : Rec} (hk : r.kind = s.kind) (hi : r.idx ≠ s.idx) :
    r.region.Disjoint s.region := by
  simp only [Region.Disjoint, Rec.region, ← hk]
  rcases Nat.lt_or_gt_of_ne hi with h | h
  · left
    have := Nat.mul_le_mul_right r.kind.len (Nat.succ_le_of_lt h)
    rw [Nat.succ_mul] at this; omega
  · right
    have := Nat.mul_le_mul_right r.kind.len (Nat.succ_le_of_lt h)
    rw [Nat.succ_mul] at this; omega

/-- where the spans of two kinds meet, the entries that are not listed still stay apart -/
theorem disjoint_of_spansMeet {r s : Rec} (hm : spansMeet r.kind s.kind = true) (hc : ¬ ClashOrd r s) :
    r.region.Disjoint s.region := by
  obtain ⟨k, i, hi⟩ := r
  obtain ⟨l, j, hj⟩ := s
  simp only [spansMeet, Bool.or_eq_true, Bool.and_eq_true, decide_eq_true_eq] at hm
  rcases hm with (⟨rfl, rfl⟩ | ⟨rfl, (rfl | rfl) | rfl⟩) | ⟨rfl, rfl⟩ <;>
    simp only [ClashOrd, Kind.max] at hc hi hj <;>
    simp only [Region.Disjoint, Rec.region, Kind.add, Kind.len] <;>
    simp at hc <;> omega

/-- **Layout.** Two different records that are not a listed pair have disjoint ranges -/
theorem disjoint_of_not_clash {r s : Rec} (hne : r ≠ s) (hc : ¬ Clash r s) : r.region.Disjoint s.region := by
  by_cases hk : r.kind = s.kind
  · exact disjoint_of_same_kind hk fun hi => hne (Rec.ext_iff'.2 ⟨hk, hi⟩)
  · cases h1 : spansMeet r.kind s.kind with
    | true => exact disjoint_of_spansMeet h1 fun h => hc (Or.inl h)
    | false =>
      cases h2 : spansMeet s.kind r.kind with
      | true => exact (disjoint_of_spansMeet h2 fun h => hc (Or.inr h)).symm
      | false =>
        have hr := region_in_span r
        have hs := region_in_span s
        exact (spans_disjoint _ _ hk h1 h2).mono hr.1 hr.2 hs.1 hs.2

/-- the ranges of a listed pair overlap -/
theorem clashOrd_overlaps {r s : Rec} (h : ClashOrd r s) : ¬ r.region.Disjoint s.region := by
  obtain ⟨k, i, hi⟩ := r
  obtain ⟨l, j, hj⟩ := s
  simp only [ClashOrd] at h
  rcases h with ⟨rfl, rfl⟩ | ⟨rfl, rfl, rfl⟩ | ⟨rfl, rfl, rfl⟩ | ⟨rfl, h6, rfl, rfl⟩ | ⟨rfl, rfl, rfl⟩ <;>
    simp only [Kind.max] at hi hj <;>
    simp only [Region.Disjoint, Rec.region, Kind.add, Kind.len] <;> omega

theorem clash_overlaps {r s : Rec} (h : Clash r s) : ¬ r.region.Disjoint s.region := by
  rcases h with h | h
  · exact clashOrd_overlaps h
  · exact fun hd => clashOrd_overlaps h hd.symm

/-- **`Clash` is exact**: different records overlap just when their pair is listed -/
theorem disjoint_iff_not_clash {r s : Rec} (hne : r ≠ s) : r.region.Disjoint s.region ↔ ¬ Clash r s :=
  ⟨fun hd hc => clash_overlaps hc hd, disjoint_of_not_clash hne⟩

end DataConcentrator.Eeprom
