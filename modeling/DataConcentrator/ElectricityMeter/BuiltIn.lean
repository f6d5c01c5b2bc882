/-
The built-in meter: `HT7038GetParameters` reads the registers of the metering chip, `ElectricityMeterGetBuiltInParas`
copies what it makes of them.

Index 0 of an array is for the three phases together, 1 to 3 are for the phases. Floating-point operations are left open.
- `phases_apart_iff`: registers of one phase decide the readings of that phase, but for the reactive power, where phase C
  shows that of B, and all three together that of A;
- `reactive_leaks`: registers that differ in one reactive power only.
-/
import Mathlib.Tactic

namespace DataConcentrator.BuiltInMeter

/-! ## Registers -/

inductive Phase where
  | a
  | b
  | c
deriving DecidableEq

/-- what a register measures: the three phases together, or one of them -/
inductive Line where
  | abc
  | phase (p : Phase)
deriving DecidableEq

def Line.index : Line → ℕ
  | .abc => 0
  | .phase .a => 1
  | .phase .b => 2
  | .phase .c => 3

/-- the first of four registers in a row, and the one of a line -/
def rowOf (first : UInt8) : Line → UInt8
  | .phase .a => first
  | .phase .b => first + 1
  | .phase .c => first + 2
  | .abc => first + 3

def HT7038_REG_ACTIVE_POWER : Line → UInt8 := rowOf 0x01
def HT7038_REG_REACTIVE_POWER : Line → UInt8 := rowOf 0x05
def HT7038_REG_APPARENT_POWER : Line → UInt8 := rowOf 0x09
def HT7038_REG_RMS_VOL (p : Phase) : UInt8 := rowOf 0x0D (.phase p)
def HT7038_REG_RMS_CURRENT : Line → UInt8 := rowOf 0x10
def HT7038_REG_PFACTOR : Line → UInt8 := rowOf 0x14
def HT7038_REG_FREQUENCY : UInt8 := 0x1C
def HT7038_REG_ACTIVE_ENERGY : Line → UInt8 := rowOf 0x1E
def HT7038_REG_REACTIVE_ENERGY : Line → UInt8 := rowOf 0x22
def HT7038_REG_APPARENT_ENERGY : Line → UInt8 := rowOf 0x35

/-- the registers of the chip, of three bytes each, as `HT7038GetSingleParameter` returns them -/
abbrev Registers := UInt8 → Fin (2 ^ 24)

/-! ## Readings -/

/-- the operations on `float` and `double` -/
structure Arithmetic (F D : Type) where
  ofInt : ℤ → F
  const : ℚ → F
  add : F → F → F
  mul : F → F → F
  div : F → F → F
  toDouble : F → D
  addDouble : D → D → D
  zero : D

/-- `BulitInMeterParas_S` -/
structure BulitInMeterParas (F D : Type) where
  voltage : Line → F
  current : Line → F
  active_power : Line → F
  reactive_power : Line → F
  apparent_power : Line → F
  power_factor : Line → F
  active_energy : Line → D
  reactive_energy : Line → D
  apparent_energy : Line → D
  frequency : F

/-- `ElectricityMeter_Para_S` -/
structure Para (F D : Type) where
  voltage : F
  current : F
  active_power : F
  active_energy : D
  reactive_energy : D
  power_factor : F
  frequency : F
  line_voltage : F

/-- `ElectricityMeterConfig_S`, as far as it is read here -/
structure MeterRatio (F : Type) where
  address : UInt8
  channel : UInt8
  voltage_ratio : F
  current_ratio : F

/-- the configured meters, `BulitInMeterRatio` and `HT7038_K` -/
structure Settings (F : Type) where
  config : List (MeterRatio F)
  voltage_ratio : F
  current_ratio : F
  k : F

variable {F D : Type} (A : Arithmetic F D) (S : Settings F) (r : Registers)

/-- the ratios of the meter at address 0 and channel 0, or those stored for the built-in meter -/
def Settings.ratio : F × F :=
  ((S.config.find? fun m => m.address = 0 ∧ m.channel = 0).map fun m => (m.voltage_ratio, m.current_ratio)).getD
    (S.voltage_ratio, S.current_ratio)

/-- a value of 24 bits with its sign -/
def signed (value : Fin (2 ^ 24)) : ℤ := if value.val.testBit 23 then value.val - 0x01000000 else value.val

def voltageOf (value : Fin (2 ^ 24)) : F := A.mul (A.div (A.ofInt value.val) (A.const 8192)) S.ratio.1

def currentOf (value : Fin (2 ^ 24)) : F :=
  A.mul (A.div (A.mul (A.div (A.div (A.ofInt value.val) (A.const 8192)) (A.const 10.2)) (A.const 40)) (A.const 16)) S.ratio.2

def powerOf (value : Fin (2 ^ 24)) : F := A.div (A.mul (A.ofInt (signed value)) S.k) (A.const 1000)

def factorOf (value : Fin (2 ^ 24)) : F := A.div (A.ofInt (signed value)) (A.ofInt 0x800000)

/-- the energies of the arrays on the stack are 0 -/
def energyOf (value : Fin (2 ^ 24)) : D :=
  A.addDouble A.zero (A.toDouble (A.div (A.div (A.ofInt value.val) (A.const 6400)) (A.const 12)))

def ht7038GetParameters : BulitInMeterParas F D where
  voltage
    | .phase p => voltageOf A S (r (HT7038_REG_RMS_VOL p))
    | .abc => A.div (A.add (A.add (voltageOf A S (r (HT7038_REG_RMS_VOL .a))) (voltageOf A S (r (HT7038_REG_RMS_VOL .b))))
        (voltageOf A S (r (HT7038_REG_RMS_VOL .c)))) (A.const 3)
  current l := currentOf A S (r (HT7038_REG_RMS_CURRENT l))
  active_power l := powerOf A S (r (HT7038_REG_ACTIVE_POWER l))
  reactive_power
    | .phase .a => powerOf A S (r (HT7038_REG_REACTIVE_POWER (.phase .a)))
    | .phase .b => powerOf A S (r (HT7038_REG_REACTIVE_POWER (.phase .b)))
    -- the registers of B and A once more
    | .phase .c => powerOf A S (r (HT7038_REG_REACTIVE_POWER (.phase .b)))
    | .abc => powerOf A S (r (HT7038_REG_REACTIVE_POWER (.phase .a)))
  apparent_power l := powerOf A S (r (HT7038_REG_APPARENT_POWER l))
  power_factor l := factorOf A (r (HT7038_REG_PFACTOR l))
  active_energy l := energyOf A (r (HT7038_REG_ACTIVE_ENERGY l))
  reactive_energy l := energyOf A (r (HT7038_REG_REACTIVE_ENERGY l))
  apparent_energy l := energyOf A (r (HT7038_REG_APPARENT_ENERGY l))
  frequency := A.div (A.ofInt (r HT7038_REG_FREQUENCY).val) (A.ofInt 0x2000)

/-- one round of the loop, on `current_para` -/
def copyPara (paras : BulitInMeterParas F D) (current_para : ℕ → Para F D) (l : Line) : ℕ → Para F D :=
  Function.update current_para l.index { current_para l.index with
    voltage := paras.voltage l
    current := paras.current l
    active_power := paras.active_power l
    active_energy := paras.active_energy l
    reactive_energy := paras.reactive_energy l
    power_factor := paras.power_factor l
    frequency := paras.frequency }

def electricityMeterGetBuiltInParas (paras : BulitInMeterParas F D) (current_para : ℕ → Para F D) : ℕ → Para F D :=
  [.abc, .phase .a, .phase .b, .phase .c].foldl (copyPara paras) current_para

/-- what is copied to an index -/
theorem electricityMeterGetBuiltInParas_at (paras : BulitInMeterParas F D) (current_para : ℕ → Para F D) (l : Line) :
    electricityMeterGetBuiltInParas paras current_para l.index = ⟨paras.voltage l, paras.current l, paras.active_power l,
      paras.active_energy l, paras.reactive_energy l, paras.power_factor l, paras.frequency,
      (current_para l.index).line_voltage⟩ := by
  rcases l with _ | _ | _ | _ <;> rfl

/-! ## What an index depends on -/

/-- the registers of a phase, and the frequency -/
def phaseRegisters (p : Phase) : List UInt8 :=
  [HT7038_REG_RMS_VOL p, HT7038_REG_RMS_CURRENT (.phase p), HT7038_REG_ACTIVE_POWER (.phase p),
    HT7038_REG_REACTIVE_POWER (.phase p), HT7038_REG_APPARENT_POWER (.phase p), HT7038_REG_PFACTOR (.phase p),
    HT7038_REG_ACTIVE_ENERGY (.phase p), HT7038_REG_REACTIVE_ENERGY (.phase p), HT7038_REG_APPARENT_ENERGY (.phase p),
    HT7038_REG_FREQUENCY]

/-- the registers of the three phases together -/
def combinedRegisters : List UInt8 :=
  [HT7038_REG_RMS_CURRENT .abc, HT7038_REG_ACTIVE_POWER .abc, HT7038_REG_REACTIVE_POWER .abc,
    HT7038_REG_APPARENT_POWER .abc, HT7038_REG_PFACTOR .abc, HT7038_REG_ACTIVE_ENERGY .abc,
    HT7038_REG_REACTIVE_ENERGY .abc, HT7038_REG_APPARENT_ENERGY .abc]

def Agree (adds : List UInt8) (r r' : Registers) : Prop := ∀ add ∈ adds, r add = r' add

/-- `BulitInMeterParas`, and the state of a meter, after a reading -/
structure Reading (F D : Type) where
  paras : BulitInMeterParas F D
  current_para : ℕ → Para F D

def read (current_para : ℕ → Para F D) : Reading F D :=
  ⟨ht7038GetParameters A S r, electricityMeterGetBuiltInParas (ht7038GetParameters A S r) current_para⟩

/-- the same current, powers, power factor and energies at an index, in both structures -/
structure SameAt (l : Line) (x y : Reading F D) : Prop where
  current : x.paras.current l = y.paras.current l
  active_power : x.paras.active_power l = y.paras.active_power l
  reactive_power : x.paras.reactive_power l = y.paras.reactive_power l
  apparent_power : x.paras.apparent_power l = y.paras.apparent_power l
  power_factor : x.paras.power_factor l = y.paras.power_factor l
  active_energy : x.paras.active_energy l = y.paras.active_energy l
  reactive_energy : x.paras.reactive_energy l = y.paras.reactive_energy l
  apparent_energy : x.paras.apparent_energy l = y.paras.apparent_energy l
  para_current : (x.current_para l.index).current = (y.current_para l.index).current
  para_active_power : (x.current_para l.index).active_power = (y.current_para l.index).active_power
  para_active_energy : (x.current_para l.index).active_energy = (y.current_para l.index).active_energy
  para_reactive_energy : (x.current_para l.index).reactive_energy = (y.current_para l.index).reactive_energy
  para_power_factor : (x.current_para l.index).power_factor = (y.current_para l.index).power_factor

/-- and the same voltage -/
structure SamePhase (p : Phase) (x y : Reading F D) : Prop extends SameAt (.phase p) x y where
  voltage : x.paras.voltage (.phase p) = y.paras.voltage (.phase p)
  para_voltage : (x.current_para (Line.phase p).index).voltage = (y.current_para (Line.phase p).index).voltage

section Two

variable {A S} {r r' : Registers} {current_para : ℕ → Para F D}

/-- registers that agree on a line leave only the reactive power open -/
theorem sameAt_iff {l : Line} (hcurrent : r (HT7038_REG_RMS_CURRENT l) = r' (HT7038_REG_RMS_CURRENT l))
    (hactive : r (HT7038_REG_ACTIVE_POWER l) = r' (HT7038_REG_ACTIVE_POWER l))
    (happarent : r (HT7038_REG_APPARENT_POWER l) = r' (HT7038_REG_APPARENT_POWER l))
    (hfactor : r (HT7038_REG_PFACTOR l) = r' (HT7038_REG_PFACTOR l))
    (hactiveEnergy : r (HT7038_REG_ACTIVE_ENERGY l) = r' (HT7038_REG_ACTIVE_ENERGY l))
    (hreactiveEnergy : r (HT7038_REG_REACTIVE_ENERGY l) = r' (HT7038_REG_REACTIVE_ENERGY l))
    (happarentEnergy : r (HT7038_REG_APPARENT_ENERGY l) = r' (HT7038_REG_APPARENT_ENERGY l)) :
    SameAt l (read A S r current_para) (read A S r' current_para) ↔
      (ht7038GetParameters A S r).reactive_power l = (ht7038GetParameters A S r').reactive_power l := by
  constructor
  · exact fun h => h.reactive_power
  · intro h
    constructor
    case reactive_power => exact h
    all_goals
      simp only [read, electricityMeterGetBuiltInParas_at, ht7038GetParameters, hcurrent, hactive, happarent, hfactor,
        hactiveEnergy, hreactiveEnergy, happarentEnergy]

theorem samePhase_iff {p : Phase} (h : Agree (phaseRegisters p) r r') :
    SamePhase p (read A S r current_para) (read A S r' current_para) ↔
      (ht7038GetParameters A S r).reactive_power (.phase p) = (ht7038GetParameters A S r').reactive_power (.phase p) := by
  simp only [Agree, phaseRegisters, List.forall_mem_cons] at h
  obtain ⟨hvoltage, hcurrent, hactive, -, happarent, hfactor, hactiveEnergy, hreactiveEnergy, happarentEnergy, -⟩ := h
  have hat : SameAt (.phase p) (read A S r current_para) (read A S r' current_para) ↔ _ :=
    sameAt_iff hcurrent hactive happarent hfactor hactiveEnergy hreactiveEnergy happarentEnergy
  rw [← hat]
  refine ⟨fun h => h.toSameAt, fun h => ⟨h, ?_, ?_⟩⟩
  · simp only [read, ht7038GetParameters, hvoltage]
  · simp only [read, electricityMeterGetBuiltInParas_at, ht7038GetParameters, hvoltage]

theorem sameCombined_iff (h : Agree combinedRegisters r r') :
    SameAt .abc (read A S r current_para) (read A S r' current_para) ↔
      powerOf A S (r (HT7038_REG_REACTIVE_POWER (.phase .a))) = powerOf A S (r' (HT7038_REG_REACTIVE_POWER (.phase .a))) := by
  simp only [Agree, combinedRegisters, List.forall_mem_cons] at h
  obtain ⟨hcurrent, hactive, -, happarent, hfactor, hactiveEnergy, hreactiveEnergy, happarentEnergy, -⟩ := h
  exact sameAt_iff hcurrent hactive happarent hfactor hactiveEnergy hreactiveEnergy happarentEnergy

end Two

/-- **Phases and leaks.** Equal registers of a phase, or of the three together, give equal readings, exactly if those of C
come with an equal reactive power of B, and those of the three with one of A. -/
theorem phases_apart_iff (r' : Registers) (current_para : ℕ → Para F D) :
    ((∀ p, Agree (phaseRegisters p) r r' → SamePhase p (read A S r current_para) (read A S r' current_para)) ∧
      (Agree combinedRegisters r r' → SameAt .abc (read A S r current_para) (read A S r' current_para))) ↔
    (Agree (phaseRegisters .c) r r' →
      powerOf A S (r (HT7038_REG_REACTIVE_POWER (.phase .b))) = powerOf A S (r' (HT7038_REG_REACTIVE_POWER (.phase .b)))) ∧
    (Agree combinedRegisters r r' →
      powerOf A S (r (HT7038_REG_REACTIVE_POWER (.phase .a))) = powerOf A S (r' (HT7038_REG_REACTIVE_POWER (.phase .a)))) := by
  refine and_congr ⟨fun h hc => (samePhase_iff hc).1 (h .c hc), fun h p hp => (samePhase_iff hp).2 ?_⟩
    ⟨fun h hc => (sameCombined_iff hc).1 (h hc), fun h hc => (sameCombined_iff hc).2 (h hc)⟩
  -- only C reads another register than its own
  cases p with
  | a => exact congrArg (powerOf A S) (hp _ (by simp [phaseRegisters]))
  | b => exact congrArg (powerOf A S) (hp _ (by simp [phaseRegisters]))
  | c => exact h hp

/-! ## One register -/

/-- rational numbers -/
def exact : Arithmetic ℚ ℚ := ⟨fun n => n, id, (· + ·), (· * ·), (· / ·), id, (· + ·), 0⟩

def oneToOne : Settings ℚ := ⟨[], 1, 1, 1⟩

/-- a chip that shows 1000 in one register and 0 in the others -/
def only (add : UInt8) : Registers := fun x => if x = add then 1000 else 0

theorem agree_only {adds : List UInt8} {add : UInt8} (h : add ∉ adds) : Agree adds (only add) (fun _ => 0) :=
  fun _ hx => if_neg (ne_of_mem_of_not_mem hx h)

theorem powerOf_differ : powerOf exact oneToOne 1000 ≠ powerOf exact oneToOne 0 := by decide +kernel

/-- **Leaks.** A reactive power of B is shown at C, and one of A for the three phases together. -/
theorem reactive_leaks :
    ¬ (∀ p, Agree (phaseRegisters p) (only 0x06) (fun _ => 0) →
      SamePhase p (read exact oneToOne (only 0x06) fun _ => ⟨0, 0, 0, 0, 0, 0, 0, 0⟩)
        (read exact oneToOne (fun _ => 0) fun _ => ⟨0, 0, 0, 0, 0, 0, 0, 0⟩)) ∧
    ¬ (Agree combinedRegisters (only 0x05) (fun _ => 0) →
      SameAt .abc (read exact oneToOne (only 0x05) fun _ => ⟨0, 0, 0, 0, 0, 0, 0, 0⟩)
        (read exact oneToOne (fun _ => 0) fun _ => ⟨0, 0, 0, 0, 0, 0, 0, 0⟩)) := by
  constructor
  · intro h
    have hagree : Agree (phaseRegisters .c) (only 0x06) (fun _ => 0) := agree_only (by decide)
    exact powerOf_differ ((samePhase_iff hagree).1 (h .c hagree))
  · intro h
    have hagree : Agree combinedRegisters (only 0x05) (fun _ => 0) := agree_only (by decide)
    exact powerOf_differ ((sameCombined_iff hagree).1 (h hagree))

end DataConcentrator.BuiltInMeter
