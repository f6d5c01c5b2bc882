/-
A reset of one record in RAM: `WriteInputCollectorConfig` and `WriteElectricityMeterConfig` with `reset` 1, over a flat
memory in which the arrays of the records lie.

The reset clears as many bytes as the state record of the module has, which is not the size of the configuration.
- `sizes`: 266 bytes for 259 of a collector, 564 bytes for 994 of a meter;
- `resetCollector_memory`, `resetMeter_memory`: the whole memory after a reset;
- `reset_touches_iff`: when a reset sets the record to its defaults and leaves the rest of the memory alone.
-/
import DataConcentrator.Eeprom.Config

namespace DataConcentrator.Eeprom.ResetRecord

open ByteStore (Region)

/-! ## Packed structs -/

/-- a packed struct: the names and the sizes of its fields, without gaps -/
abbrev Packed := List (String × ℕ)

def Packed.sizeof (s : Packed) : ℕ := (s.map Prod.snd).sum

/-- `InputCollectorD_Alarm_S` -/
def collectorDAlarm : Packed :=
  [("channel", 1), ("alarm_level", 1), ("confirm_time", 1), ("last_run_mode", 1), ("switch_run_mode", 1),
   ("resume_run_mode", 1), ("relay_action", 1)]

/-- `InputCollectorA_Alarm_S` -/
def collectorAAlarm : Packed :=
  [("channel", 1), ("min_value", 8), ("max_value", 8), ("confirm_time", 1), ("last_run_mode", 1),
   ("switch_run_mode", 1), ("resume_run_mode", 1), ("relay_action", 1)]

/-- `InputCollectorConfig_S` -/
def collectorConfig : Packed :=
  [("address", 1), ("channel", 1), ("d_loop_num", 1), ("a_loop_num", 1), ("a_quantity_range", 4), ("confirm_time", 1),
   ("module", 16), ("d_alarm_thre", 8 * collectorDAlarm.sizeof), ("a_alarm_thre", 8 * collectorAAlarm.sizeof),
   ("crc16", 2)]

/-- `InputCollectorState_S` -/
def collectorState : Packed :=
  [("address", 1), ("channel", 1), ("d_channel_bit", 1), ("a_channel_bit", 1), ("d_mirror_state", 1),
   ("d_current_state", 1), ("a_mirror_state", 8 * 8), ("a_current_state", 8 * 8), ("d_abnormal_loop", 2),
   ("a_abnormal_loop", 2), ("d_alarm", 8 * 8), ("a_alarm", 8 * 8)]

/-- `ElectricityMeter_Para_S` -/
def meterPara : Packed :=
  [("voltage", 4), ("current", 4), ("active_power", 4), ("active_energy", 8), ("reactive_energy", 8),
   ("power_factor", 4), ("frequency", 4), ("line_voltage", 4)]

/-- `ElectricityMeter_Alarm_S` -/
def meterAlarm : Packed :=
  [("channel", 1), ("para_id", 1), ("min_value", 4), ("min_range", 1), ("max_value", 4), ("max_range", 1),
   ("confirm_time", 1), ("last_run_mode", 1), ("switch_run_mode", 1), ("resume_run_mode", 1), ("relay_action", 1)]

/-- `ElectricityMeterConfig_S` -/
def meterConfig : Packed :=
  [("address", 1), ("channel", 1), ("ch_num", 1), ("voltage_ratio", 4), ("current_ratio", 4),
   ("voltage_range_of_change", 4), ("current_range_of_change", 4), ("pf_range_of_change", 4), ("confirm_time", 1),
   ("module", 16), ("alarm_thre", 7 * (8 * meterAlarm.sizeof)), ("crc16", 2)]

/-- `ElectricityMeterState_S` -/
def meterState : Packed :=
  [("address", 1), ("channel", 1), ("ch_num", 1), ("abnormal_ch", 1), ("mirror_para", 7 * meterPara.sizeof),
   ("current_para", 7 * meterPara.sizeof)]

/-- the sizes do not agree, though those of the configurations do with their records in the EEPROM -/
theorem sizes : collectorState.sizeof = 266 ∧ collectorConfig.sizeof = Kind.len .inputCollectorConf ∧
    meterState.sizeof = 564 ∧ meterConfig.sizeof = Kind.len .electricityMeterConf := by decide

/-! ## The writers -/

/-- where the array of the configurations and that of the states lie in RAM -/
structure Arrays (number : ℕ) (config state : Packed) where
  configBase : ℕ
  stateBase : ℕ
  apart : Region.Disjoint ⟨configBase, number * config.sizeof⟩ ⟨stateBase, number * state.sizeof⟩

/-- `MAX_INPUT_COLLECTOR_CONF_NUM` collectors -/
abbrev CollectorArrays := Arrays 10 collectorConfig collectorState

/-- `MAX_ELECTRICITY_METER_CONF_NUM` meters -/
abbrev MeterArrays := Arrays 6 meterConfig meterState

section Arrays

variable {number : ℕ} {config state : Packed} (A : Arrays number config state)

/-- record `i` -/
def Arrays.record (i : ℕ) : Region := ⟨A.configBase + i * config.sizeof, config.sizeof⟩

/-- the state of module `i` -/
def Arrays.own (i : ℕ) : Region := ⟨A.stateBase + i * state.sizeof, state.sizeof⟩

end Arrays

def memset (m : ℕ → UInt8) (p n : ℕ) : ℕ → UInt8 := ByteStore.write m p (List.replicate n 0)

/-- the checksum behind the body of a record of `size` bytes -/
def putCrc (size p : ℕ) (m : ℕ → UInt8) : ℕ → UInt8 :=
  let crc := crc16 (ByteStore.read m p (size - 2))
  ByteStore.write m (p + (size - 2)) [crc.2, crc.1]

/-- `d_channel_bit` and `a_channel_bit` -/
def channelBits (loop_num : UInt8) : UInt8 :=
  if loop_num ≤ 8 then (List.range loop_num.toNat).foldl (fun bits j => bits ||| UInt8.ofNat (1 <<< j)) 0 else 0

/-- `WriteInputCollectorConfig`, without the EEPROM -/
def writeInputCollectorConfig (A : CollectorArrays) (i : ℕ) (reset write_enable : UInt8) (m : ℕ → UInt8) : ℕ → UInt8 :=
  let p := (A.record i).base
  let q := (A.own i).base
  let m :=
    if reset = 1 then
      let m := memset m p collectorState.sizeof
      let m := ByteStore.write m p [0xFF]
      let m := ByteStore.write m (p + 1) [0xFF]
      (List.range (m (p + 2)).toNat).foldl (fun m k => ByteStore.write m (p + 25 + 7 * k + 2) [3]) m
    else m
  let m := if write_enable = 1 then putCrc collectorConfig.sizeof p m else m
  let m := memset m q collectorState.sizeof
  let m := ByteStore.write m q [m p]
  let m := ByteStore.write m (q + 1) [m (p + 1)]
  let m := ByteStore.write m (q + 2) [channelBits (m (p + 2))]
  ByteStore.write m (q + 3) [channelBits (m (p + 3))]

/-- `1.0f` -/
def oneFloat : List UInt8 := [0, 0, 0x80, 0x3F]

/-- `WriteElectricityMeterConfig`, without the EEPROM -/
def writeElectricityMeterConfig (A : MeterArrays) (i : ℕ) (reset write_enable : UInt8) (m : ℕ → UInt8) : ℕ → UInt8 :=
  let p := (A.record i).base
  let q := (A.own i).base
  let m :=
    if reset = 1 then
      let m := memset m p meterState.sizeof
      let m := ByteStore.write m p [0xFF]
      let m := ByteStore.write m (p + 1) [0xFF]
      let m := ByteStore.write m (p + 3) oneFloat
      ByteStore.write m (p + 7) oneFloat
    else m
  let m := if write_enable = 1 then putCrc meterConfig.sizeof p m else m
  let m := memset m q meterState.sizeof
  let m := ByteStore.write m q [m p]
  let m := ByteStore.write m (q + 1) [m (p + 1)]
  ByteStore.write m (q + 2) [m (p + 2)]

/-! ## Defaults -/

/-- the default of a collector: no loops, and no address yet -/
def collectorDefault : List UInt8 := [0xFF, 0xFF] ++ List.replicate 257 0

/-- the default of a meter: the same, and ratios of one -/
def meterDefault : List UInt8 := [0xFF, 0xFF, 0] ++ oneFloat ++ oneFloat ++ List.replicate 983 0

/-- a default record; its checksum is computed where the record is stored too -/
def image (default : List UInt8) (write_enable : UInt8) : List UInt8 :=
  if write_enable = 1 then sealRecord default else default

/-- a memory that has a record at its default, and nothing else touched but a region `own` -/
structure Touches (record own : Region) (default : List UInt8) (m m' : ℕ → UInt8) : Prop where
  default : ByteStore.read m' record.base record.size = default
  frame : ∀ a, ¬ record.Contains a → ¬ own.Contains a → m' a = m a

/-! ## The memory after a reset -/

/-- one more byte of a cleared range -/
theorem write_front (m : ℕ → UInt8) (a : ℕ) (bs rest : List UInt8) (b old : UInt8) :
    ByteStore.write (ByteStore.write m a (bs ++ old :: rest)) (a + bs.length) [b] =
      ByteStore.write m a (bs ++ b :: rest) := by
  have h := ByteStore.write_patch m a bs [old] [b] rest rfl
  simpa using h

theorem write_outside (m : ℕ → UInt8) {a q : ℕ} (bs : List UInt8) (h : a < q ∨ q + bs.length ≤ a) :
    ByteStore.write m q bs a = m a :=
  h.elim (ByteStore.write_of_lt m bs) (ByteStore.write_of_ge m bs)

/-- the checksum of a record that was written as a whole -/
theorem putCrc_write (m : ℕ → UInt8) (p : ℕ) {bs : List UInt8} (h : 2 ≤ bs.length) (rest : List UInt8) :
    putCrc bs.length p (ByteStore.write m p (bs ++ rest)) = ByteStore.write m p (sealRecord bs ++ rest) := by
  have hbody : (bs.take (bs.length - 2)).length = bs.length - 2 := by rw [List.length_take]; omega
  have hcrc : (bs.drop (bs.length - 2)).length = 2 := by rw [List.length_drop]; omega
  have hread : ByteStore.read (ByteStore.write m p (bs ++ rest)) p (bs.length - 2) = bs.take (bs.length - 2) := by
    have hprefix := ByteStore.read_write_prefix m p (bs.take (bs.length - 2)) (bs.drop (bs.length - 2) ++ rest)
    rwa [← List.append_assoc, List.take_append_drop, hbody] at hprefix
  rw [putCrc, hread, sealRecord]
  have hpatch := ByteStore.write_patch m p (bs.take (bs.length - 2)) (bs.drop (bs.length - 2))
    [(crc16 (bs.take (bs.length - 2))).2, (crc16 (bs.take (bs.length - 2))).1] rest hcrc.symm
  rw [List.take_append_drop, hbody] at hpatch
  exact hpatch

/-- what a collector's state is set to -/
def collectorStateImage (address channel d_loop_num a_loop_num : UInt8) : List UInt8 :=
  [address, channel, channelBits d_loop_num, channelBits a_loop_num] ++ List.replicate 262 0

/-- what a meter's state is set to -/
def meterStateImage (address channel ch_num : UInt8) : List UInt8 := [address, channel, ch_num] ++ List.replicate 561 0

/-- the state is cleared and then filled from the configuration, which lies elsewhere -/
theorem collectorState_memory (m : ℕ → UInt8) {p q : ℕ} (h : p + 4 ≤ q ∨ q + 266 ≤ p) :
    (let n := memset m q collectorState.sizeof
     let n := ByteStore.write n q [n p]
     let n := ByteStore.write n (q + 1) [n (p + 1)]
     let n := ByteStore.write n (q + 2) [channelBits (n (p + 2))]
     ByteStore.write n (q + 3) [channelBits (n (p + 3))]) =
    ByteStore.write m q (collectorStateImage (m p) (m (p + 1)) (m (p + 2)) (m (p + 3))) := by
  obtain ⟨tail, htail⟩ : ∃ tail : List UInt8, tail = List.replicate 262 0 := ⟨_, rfl⟩
  have hlen : tail.length = 262 := by rw [htail, List.length_replicate]
  have hclear : memset m q collectorState.sizeof = ByteStore.write m q (0 :: 0 :: 0 :: 0 :: tail) := by
    rw [htail]
    rfl
  have hout : ∀ (b0 b1 b2 b3 : UInt8) (a : ℕ), p ≤ a → a < p + 4 →
      ByteStore.write m q (b0 :: b1 :: b2 :: b3 :: tail) a = m a := by
    intro b0 b1 b2 b3 a hpa ha
    refine write_outside m _ ?_
    simp only [List.length_cons, hlen]
    omega
  have h0 : ∀ b, ByteStore.write (ByteStore.write m q (0 :: 0 :: 0 :: 0 :: tail)) q [b] =
      ByteStore.write m q (b :: 0 :: 0 :: 0 :: tail) := fun b => write_front m q [] (0 :: 0 :: 0 :: tail) b 0
  have h1 : ∀ b0 b, ByteStore.write (ByteStore.write m q (b0 :: 0 :: 0 :: 0 :: tail)) (q + 1) [b] =
      ByteStore.write m q (b0 :: b :: 0 :: 0 :: tail) := fun b0 b => write_front m q [b0] (0 :: 0 :: tail) b 0
  have h2 : ∀ b0 b1 b, ByteStore.write (ByteStore.write m q (b0 :: b1 :: 0 :: 0 :: tail)) (q + 2) [b] =
      ByteStore.write m q (b0 :: b1 :: b :: 0 :: tail) := fun b0 b1 b => write_front m q [b0, b1] (0 :: tail) b 0
  have h3 : ∀ b0 b1 b2 b, ByteStore.write (ByteStore.write m q (b0 :: b1 :: b2 :: 0 :: tail)) (q + 3) [b] =
      ByteStore.write m q (b0 :: b1 :: b2 :: b :: tail) := fun b0 b1 b2 b => write_front m q [b0, b1, b2] tail b 0
  simp only [hclear, h0, h1, h2, h3]
  rw [hout _ _ _ _ p le_rfl (by omega), hout _ _ _ _ (p + 1) (by omega) (by omega),
    hout _ _ _ _ (p + 2) (by omega) (by omega), hout _ _ _ _ (p + 3) (by omega) (by omega), htail]
  rfl

theorem meterState_memory (m : ℕ → UInt8) {p q : ℕ} (h : p + 3 ≤ q ∨ q + 564 ≤ p) :
    (let n := memset m q meterState.sizeof
     let n := ByteStore.write n q [n p]
     let n := ByteStore.write n (q + 1) [n (p + 1)]
     ByteStore.write n (q + 2) [n (p + 2)]) =
    ByteStore.write m q (meterStateImage (m p) (m (p + 1)) (m (p + 2))) := by
  obtain ⟨tail, htail⟩ : ∃ tail : List UInt8, tail = List.replicate 561 0 := ⟨_, rfl⟩
  have hlen : tail.length = 561 := by rw [htail, List.length_replicate]
  have hclear : memset m q meterState.sizeof = ByteStore.write m q (0 :: 0 :: 0 :: tail) := by
    rw [htail]
    rfl
  have hout : ∀ (b0 b1 b2 : UInt8) (a : ℕ), p ≤ a → a < p + 3 →
      ByteStore.write m q (b0 :: b1 :: b2 :: tail) a = m a := by
    intro b0 b1 b2 a hpa ha
    refine write_outside m _ ?_
    simp only [List.length_cons, hlen]
    omega
  have h0 : ∀ b, ByteStore.write (ByteStore.write m q (0 :: 0 :: 0 :: tail)) q [b] =
      ByteStore.write m q (b :: 0 :: 0 :: tail) := fun b => write_front m q [] (0 :: 0 :: tail) b 0
  have h1 : ∀ b0 b, ByteStore.write (ByteStore.write m q (b0 :: 0 :: 0 :: tail)) (q + 1) [b] =
      ByteStore.write m q (b0 :: b :: 0 :: tail) := fun b0 b => write_front m q [b0] (0 :: tail) b 0
  have h2 : ∀ b0 b1 b, ByteStore.write (ByteStore.write m q (b0 :: b1 :: 0 :: tail)) (q + 2) [b] =
      ByteStore.write m q (b0 :: b1 :: b :: tail) := fun b0 b1 b => write_front m q [b0, b1] tail b 0
  simp only [hclear, h0, h1, h2]
  rw [hout _ _ _ p le_rfl (by omega), hout _ _ _ (p + 1) (by omega) (by omega),
    hout _ _ _ (p + 2) (by omega) (by omega), htail]
  rfl

/-- a collector's reset: the defaults, and seven bytes of zero behind them -/
theorem collectorReset_memory (m : ℕ → UInt8) (p : ℕ) :
    (let n := memset m p collectorState.sizeof
     let n := ByteStore.write n p [0xFF]
     let n := ByteStore.write n (p + 1) [0xFF]
     (List.range (n (p + 2)).toNat).foldl (fun n k => ByteStore.write n (p + 25 + 7 * k + 2) [3]) n) =
    ByteStore.write m p (collectorDefault ++ List.replicate 7 0) := by
  have hclear : memset m p collectorState.sizeof = ByteStore.write m p ([] ++ 0 :: (0 :: List.replicate 264 0)) := rfl
  have h0 := write_front m p [] (0 :: List.replicate 264 0) 0xFF 0
  have h1 := write_front m p [0xFF] (List.replicate 264 0) 0xFF 0
  have hwhole : [0xFF] ++ 0xFF :: List.replicate 264 0 = collectorDefault ++ List.replicate 7 (0 : UInt8) := by
    rw [collectorDefault, List.append_assoc, ← List.replicate_add]
    rfl
  have hlen : 2 < ([0xFF] ++ 0xFF :: List.replicate 264 (0 : UInt8)).length := by
    rw [List.length_append, List.length_cons, List.length_cons, List.length_replicate]
    decide
  -- the number of loops has been cleared, so that the loop on it does nothing
  have hnum : ByteStore.write m p ([0xFF] ++ 0xFF :: List.replicate 264 0) (p + 2) = 0 :=
    (ByteStore.write_at m p 2 _ hlen).trans rfl
  have hboth : ByteStore.write (ByteStore.write m p ([] ++ 0xFF :: (0 :: List.replicate 264 0))) (p + 1) [0xFF] =
      ByteStore.write m p ([0xFF] ++ 0xFF :: List.replicate 264 0) := h1
  rw [List.length_nil, Nat.add_zero] at h0
  simp only [hclear, h0]
  rw [hboth, hnum, hwhole]
  rfl

/-- a meter's reset: the head of the defaults -/
theorem meterReset_memory (m : ℕ → UInt8) (p : ℕ) :
    (let n := memset m p meterState.sizeof
     let n := ByteStore.write n p [0xFF]
     let n := ByteStore.write n (p + 1) [0xFF]
     let n := ByteStore.write n (p + 3) oneFloat
     ByteStore.write n (p + 7) oneFloat) =
    ByteStore.write m p ([0xFF, 0xFF, 0] ++ oneFloat ++ oneFloat ++ List.replicate 553 0) := by
  have hclear : memset m p meterState.sizeof =
      ByteStore.write m p ([] ++ 0 :: (0 :: 0 :: ([0, 0, 0, 0] ++ ([0, 0, 0, 0] ++ List.replicate 553 0)))) := rfl
  have h0 := write_front m p [] (0 :: 0 :: ([0, 0, 0, 0] ++ ([0, 0, 0, 0] ++ List.replicate 553 0))) 0xFF 0
  have h1 := write_front m p [0xFF] (0 :: ([0, 0, 0, 0] ++ ([0, 0, 0, 0] ++ List.replicate 553 0))) 0xFF 0
  have h2 := ByteStore.write_patch m p [0xFF, 0xFF, 0] [0, 0, 0, 0] oneFloat ([0, 0, 0, 0] ++ List.replicate 553 0) rfl
  have h3 := ByteStore.write_patch m p ([0xFF, 0xFF, 0] ++ oneFloat) [0, 0, 0, 0] oneFloat (List.replicate 553 0) rfl
  have h1' : ByteStore.write (ByteStore.write m p
      ([] ++ 0xFF :: (0 :: 0 :: ([0, 0, 0, 0] ++ ([0, 0, 0, 0] ++ List.replicate 553 0))))) (p + 1) [0xFF] =
      ByteStore.write m p ([0xFF, 0xFF, 0] ++ [0, 0, 0, 0] ++ ([0, 0, 0, 0] ++ List.replicate 553 0)) := h1
  have h2' : ByteStore.write (ByteStore.write m p
      ([0xFF, 0xFF, 0] ++ [0, 0, 0, 0] ++ ([0, 0, 0, 0] ++ List.replicate 553 0))) (p + 3) oneFloat =
      ByteStore.write m p ([0xFF, 0xFF, 0] ++ oneFloat ++ [0, 0, 0, 0] ++ List.replicate 553 0) := h2
  rw [List.length_nil, Nat.add_zero] at h0
  simp only [hclear, h0, h1', h2']
  exact h3

/-! ## Frames -/

theorem Arrays.disjoint {number : ℕ} {config state : Packed} (A : Arrays number config state) {i : ℕ} (hi : i < number) :
    (A.record i).Disjoint (A.own i) := by
  have hc : (i + 1) * config.sizeof ≤ number * config.sizeof := Nat.mul_le_mul_right _ hi
  have hs : (i + 1) * state.sizeof ≤ number * state.sizeof := Nat.mul_le_mul_right _ hi
  rw [Nat.add_mul] at hc hs
  refine A.apart.mono ?_ ?_ ?_ ?_ <;> simp only [Arrays.record, Arrays.own] <;> omega

section Written

variable {record own : Region} {bytes behind states : List UInt8} (m : ℕ → UInt8)

/-- a memory in which a record, what lies behind it and a state were written -/
def written (m : ℕ → UInt8) (record own : Region) (bytes behind states : List UInt8) : ℕ → UInt8 :=
  ByteStore.write (ByteStore.write m record.base (bytes ++ behind)) own.base states

/-- the record holds what was written there -/
theorem read_written (hbytes : bytes.length = record.size) (hstates : states.length = own.size)
    (hdisj : record.Disjoint own) :
    ByteStore.read (written m record own bytes behind states) record.base record.size = bytes := by
  rw [written, ByteStore.read_write_frame, ← hbytes, ByteStore.read_write_prefix]
  rw [hstates]
  exact hdisj.symm

/-- the state holds what was written there -/
theorem written_state {k : ℕ} (hk : k < states.length) :
    written m record own bytes behind states (own.base + k) = states[k] := ByteStore.write_at _ _ _ _ hk

/-- behind the record the rest of the write lies -/
theorem written_behind (hbytes : bytes.length = record.size) (hstates : states.length = own.size)
    (hbehind : Region.Disjoint ⟨record.base + record.size, behind.length⟩ own) {k : ℕ} (hk : k < behind.length) :
    written m record own bytes behind states (record.base + record.size + k) = behind[k] := by
  have hlen : bytes.length + k < (bytes ++ behind).length := by rw [List.length_append]; omega
  have hout : record.base + record.size + k < own.base ∨
      own.base + states.length ≤ record.base + record.size + k := by
    simp only [Region.Disjoint] at hbehind
    omega
  have hat := ByteStore.write_at m record.base (bytes.length + k) (bytes ++ behind) hlen
  rw [List.getElem_append_right (by omega)] at hat
  rw [written, write_outside _ _ hout, ← hbytes, Nat.add_assoc, hat]
  congr 1
  omega

/-- elsewhere nothing was written -/
theorem written_elsewhere (hbytes : bytes.length = record.size) (hstates : states.length = own.size) {a : ℕ}
    (ha : ¬ record.Contains a) (ha' : ¬ Region.Contains ⟨record.base + record.size, behind.length⟩ a)
    (hown : ¬ own.Contains a) : written m record own bytes behind states a = m a := by
  simp only [Region.Contains] at ha ha' hown
  rw [written, write_outside _ _ (by omega), write_outside _ _ (by rw [List.length_append]; omega)]

/-- when this touches the record and the state alone: the bytes behind have been what is written there -/
theorem touches_iff {default : List UInt8} (hbytes : bytes.length = record.size) (hstates : states.length = own.size)
    (hdisj : record.Disjoint own) (hbehind : Region.Disjoint ⟨record.base + record.size, behind.length⟩ own) :
    Touches record own default m (written m record own bytes behind states) ↔
      bytes = default ∧ ByteStore.read m (record.base + record.size) behind.length = behind := by
  rw [ByteStore.read_eq_iff rfl]
  constructor
  · rintro ⟨hdefault, hframe⟩
    refine ⟨(read_written m hbytes hstates hdisj).symm.trans hdefault, fun k hk => ?_⟩
    have hin : Region.Contains ⟨record.base + record.size, behind.length⟩ (record.base + record.size + k) :=
      ⟨Nat.le_add_right _ _, Nat.add_lt_add_left hk _⟩
    rw [← hframe _ (fun h => absurd h.2 (by omega)) (Region.not_contains_of_disjoint hbehind hin)]
    exact written_behind m hbytes hstates hbehind hk
  · rintro ⟨rfl, hsame⟩
    refine ⟨read_written m hbytes hstates hdisj, fun a ha hown => ?_⟩
    by_cases hin : Region.Contains ⟨record.base + record.size, behind.length⟩ a
    · obtain ⟨k, rfl⟩ := Nat.exists_eq_add_of_le hin.1
      have hk : k < behind.length := by have := hin.2; simp only at this; omega
      rw [written_behind m hbytes hstates hbehind hk, hsame k hk]
    · exact written_elsewhere m hbytes hstates ha hin hown

/-- when it touches the record alone: the state has been what is written there too -/
theorem touches_alone_iff {default : List UInt8} (hstates : states.length = own.size) (hdisj : record.Disjoint own) :
    Touches record ⟨0, 0⟩ default m (written m record own bytes behind states) ↔
      Touches record own default m (written m record own bytes behind states) ∧
      ByteStore.read m own.base own.size = states := by
  rw [ByteStore.read_eq_iff hstates]
  constructor
  · rintro ⟨hdefault, hframe⟩
    refine ⟨⟨hdefault, fun a ha _ => hframe a ha (Region.not_contains_empty 0 a)⟩, fun k hk => ?_⟩
    have hin : own.Contains (own.base + k) := ⟨Nat.le_add_right _ _, by omega⟩
    rw [← hframe _ (Region.not_contains_of_disjoint hdisj.symm hin) (Region.not_contains_empty 0 _)]
    exact written_state m hk
  · rintro ⟨⟨hdefault, hframe⟩, hsame⟩
    refine ⟨hdefault, fun a ha _ => ?_⟩
    by_cases hown : own.Contains a
    · obtain ⟨k, rfl⟩ := Nat.exists_eq_add_of_le hown.1
      have hk : k < states.length := by have := hown.2; omega
      rw [written_state m hk, hsame k hk]
    · exact hframe a ha hown

end Written

/-! ## The two writers -/

theorem length_collectorDefault : collectorDefault.length = 259 := by
  rw [collectorDefault, List.length_append, List.length_replicate]
  rfl

theorem length_image {bs : List UInt8} (h : 2 ≤ bs.length) (write_enable : UInt8) :
    (image bs write_enable).length = bs.length := by
  unfold image
  split_ifs
  · exact length_sealRecord h
  · rfl

/-- the checksum stands behind the fields -/
theorem getElem?_image {bs : List UInt8} {k : ℕ} (h : k < bs.length - 2) (write_enable : UInt8) :
    (image bs write_enable)[k]? = bs[k]? := by
  unfold image sealRecord
  split_ifs
  · rw [List.getElem?_append_left (by rw [List.length_take]; omega), List.getElem?_take_of_lt h]
  · rfl

/-- a record is stored with its checksum if it is to be stored -/
theorem seal_memory (m : ℕ → UInt8) (p : ℕ) {bs : List UInt8} {size : ℕ} (hsize : bs.length = size) (h : 2 ≤ size)
    (rest : List UInt8) (write_enable : UInt8) :
    (if write_enable = 1 then putCrc size p (ByteStore.write m p (bs ++ rest)) else ByteStore.write m p (bs ++ rest)) =
      ByteStore.write m p (image bs write_enable ++ rest) := by
  subst hsize
  unfold image
  split_ifs
  · exact putCrc_write m p h rest
  · rfl

/-- a field of a record that was written with what lies behind it -/
theorem field_at (m : ℕ → UInt8) (p : ℕ) {bs : List UInt8} (rest : List UInt8) {k : ℕ} {b : UInt8}
    (h : k < bs.length - 2) (hb : bs[k]? = some b) (write_enable : UInt8) :
    ByteStore.write m p (image bs write_enable ++ rest) (p + k) = b := by
  have hk : (image bs write_enable)[k]? = some b := (getElem?_image h write_enable).trans hb
  obtain ⟨hlt, hget⟩ := List.getElem?_eq_some_iff.1 hk
  rw [ByteStore.write_at m p k _ (by rw [List.length_append]; omega), List.getElem_append_left hlt, hget]

/-- the record at its defaults, and seven bytes of zero behind it -/
theorem resetCollector_memory (A : CollectorArrays) {i : ℕ} (hi : i < 10) (write_enable : UInt8) (m : ℕ → UInt8) :
    writeInputCollectorConfig A i 1 write_enable m =
      written m (A.record i) (A.own i) (image collectorDefault write_enable) (List.replicate 7 0)
        (collectorStateImage 0xFF 0xFF 0 0) := by
  have happ : (A.record i).base + 4 ≤ (A.own i).base ∨ (A.own i).base + 266 ≤ (A.record i).base := by
    have hdisj := A.disjoint hi
    have hsize : (A.record i).size = 259 := rfl
    have hown : (A.own i).size = 266 := rfl
    simp only [Region.Disjoint, hsize, hown] at hdisj
    omega
  have hsize : collectorConfig.sizeof = 259 := rfl
  have hfield : ∀ {k b}, k < 257 → collectorDefault[k]? = some b →
      ByteStore.write m (A.record i).base (image collectorDefault write_enable ++ List.replicate 7 0)
        ((A.record i).base + k) = b := by
    intro k b hk hb
    exact field_at m _ _ (by rw [length_collectorDefault]; omega) hb write_enable
  have hfill := collectorState_memory
    (ByteStore.write m (A.record i).base (image collectorDefault write_enable ++ List.replicate 7 0)) happ
  have h0 := hfield (k := 0) (by decide) rfl
  rw [Nat.add_zero] at h0
  rw [h0, hfield (k := 1) (by decide) rfl, hfield (k := 2) (by decide) rfl, hfield (k := 3) (by decide) rfl] at hfill
  simp only [writeInputCollectorConfig, if_true, collectorReset_memory, hsize,
    seal_memory m _ length_collectorDefault (by decide)]
  exact hfill

/-- the first bytes of a meter's defaults, as many as its state has -/
def meterHead : List UInt8 := [0xFF, 0xFF, 0] ++ oneFloat ++ oneFloat ++ List.replicate 553 0

theorem length_meterHead : meterHead.length = 564 := by
  rw [meterHead, List.length_append, List.length_replicate]
  rfl

theorem meterDefault_eq : meterDefault = meterHead ++ List.replicate 430 0 := by
  rw [meterDefault, meterHead, List.append_assoc _ (List.replicate 553 0), ← List.replicate_add]

/-- the bytes of record `i` that a reset does not clear -/
def stale (A : MeterArrays) (i : ℕ) (m : ℕ → UInt8) : List UInt8 := ByteStore.read m ((A.record i).base + 564) 430

/-- the head of the defaults, and the old bytes behind it up to the checksum -/
theorem resetMeter_memory (A : MeterArrays) {i : ℕ} (hi : i < 6) (write_enable : UInt8) (m : ℕ → UInt8) :
    writeElectricityMeterConfig A i 1 write_enable m =
      written m (A.record i) (A.own i) (image (meterHead ++ stale A i m) write_enable) []
        (meterStateImage 0xFF 0xFF 0) := by
  have happ : (A.record i).base + 3 ≤ (A.own i).base ∨ (A.own i).base + 564 ≤ (A.record i).base := by
    have hdisj := A.disjoint hi
    have hsize : (A.record i).size = 994 := rfl
    have hown : (A.own i).size = 564 := rfl
    simp only [Region.Disjoint, hsize, hown] at hdisj
    omega
  have hsize : meterConfig.sizeof = 994 := rfl
  have hlen : (meterHead ++ stale A i m).length = 994 := by
    rw [List.length_append, length_meterHead, stale, ByteStore.length_read]
  have hhead : ByteStore.write m (A.record i).base meterHead =
      ByteStore.write m (A.record i).base (meterHead ++ stale A i m ++ []) := by
    have hkeep : ByteStore.write (ByteStore.write m (A.record i).base meterHead) ((A.record i).base + 564)
        (stale A i m) = ByteStore.write m (A.record i).base meterHead := by
      have hread : stale A i m =
          ByteStore.read (ByteStore.write m (A.record i).base meterHead) ((A.record i).base + 564) 430 := by
        rw [stale, ByteStore.read_write_frame]
        exact Or.inl (by rw [length_meterHead])
      rw [hread, ByteStore.write_read_self]
    have happend := ByteStore.write_append m (A.record i).base meterHead (stale A i m)
    rw [length_meterHead, hkeep] at happend
    rw [happend, List.append_nil]
  have hfield : ∀ {k b}, k < 564 → meterHead[k]? = some b →
      ByteStore.write m (A.record i).base (image (meterHead ++ stale A i m) write_enable ++ [])
        ((A.record i).base + k) = b := by
    intro k b hk hb
    refine field_at m _ _ (by rw [hlen]; omega) ?_ write_enable
    rw [List.getElem?_append_left (by rw [length_meterHead]; exact hk), hb]
  have hfill := meterState_memory
    (ByteStore.write m (A.record i).base (image (meterHead ++ stale A i m) write_enable ++ [])) happ
  have h0 := hfield (k := 0) (by decide) rfl
  rw [Nat.add_zero] at h0
  rw [h0, hfield (k := 1) (by decide) rfl, hfield (k := 2) (by decide) rfl] at hfill
  have hreset := meterReset_memory m (A.record i).base
  rw [← meterHead, hhead] at hreset
  simp only [writeElectricityMeterConfig, if_true, hreset, hsize, seal_memory m _ hlen (by decide)]
  exact hfill

/-! ## When a reset touches one record -/

/-- what is written behind a collector's record does not reach its state -/
theorem behind_disjoint (A : CollectorArrays) {i : ℕ} (hi : i < 10) :
    Region.Disjoint ⟨(A.record i).base + (A.record i).size, (List.replicate 7 (0 : UInt8)).length⟩ (A.own i) := by
  have happ := A.apart
  have hc : collectorConfig.sizeof = 259 := rfl
  have hs : collectorState.sizeof = 266 := rfl
  simp only [Region.Disjoint, Arrays.record, Arrays.own, hc, hs, List.length_replicate] at happ ⊢
  omega

/-- a collector's reset is right when the first bytes of the next record are zero anyhow -/
theorem resetCollector_touches_iff (A : CollectorArrays) {i : ℕ} (hi : i < 10) (write_enable : UInt8)
    (m : ℕ → UInt8) :
    (Touches (A.record i) (A.own i) (image collectorDefault write_enable) m
        (writeInputCollectorConfig A i 1 write_enable m) ↔
      ByteStore.read m (A.record (i + 1)).base 7 = List.replicate 7 0) ∧
    (Touches (A.record i) ⟨0, 0⟩ (image collectorDefault write_enable) m
        (writeInputCollectorConfig A i 1 write_enable m) ↔
      ByteStore.read m (A.record (i + 1)).base 7 = List.replicate 7 0 ∧
      ByteStore.read m (A.own i).base (A.own i).size = collectorStateImage 0xFF 0xFF 0 0) := by
  have hbase : (A.record (i + 1)).base = (A.record i).base + (A.record i).size := by
    simp only [Arrays.record]
    ring
  have hlen : (image collectorDefault write_enable).length = (A.record i).size :=
    (length_image (by rw [length_collectorDefault]; decide) _).trans length_collectorDefault
  have hstates : (collectorStateImage 0xFF 0xFF 0 0).length = (A.own i).size := by
    rw [collectorStateImage, List.length_append, List.length_replicate]
    rfl
  have hdisj := A.disjoint hi
  have htouch : Touches (A.record i) (A.own i) (image collectorDefault write_enable) m _ ↔ _ :=
    touches_iff m hlen hstates hdisj (behind_disjoint A hi)
  rw [List.length_replicate, ← hbase, and_iff_right rfl] at htouch
  rw [resetCollector_memory A hi]
  exact ⟨htouch, (touches_alone_iff m hstates hdisj).trans (and_congr_left' htouch)⟩

theorem sealRecord_append (body : List UInt8) {c : List UInt8} (h : c.length = 2) :
    sealRecord (body ++ c) = body ++ [(crc16 body).2, (crc16 body).1] := by
  have htake : (body ++ c).take ((body ++ c).length - 2) = body := by
    rw [List.length_append, h, Nat.add_sub_cancel, List.take_left']
    rfl
  rw [sealRecord, htake]

/-- stored, the checksum is computed anew; otherwise the old one is still there -/
theorem image_stale_iff (A : MeterArrays) (i : ℕ) (write_enable : UInt8) (m : ℕ → UInt8) :
    image (meterHead ++ stale A i m) write_enable = image meterDefault write_enable ↔
      ByteStore.read m ((A.record i).base + 564) 428 = List.replicate 428 0 ∧
      (write_enable = 1 ∨ ByteStore.read m ((A.record i).base + 992) 2 = [0, 0]) := by
  have hsplit : stale A i m =
      ByteStore.read m ((A.record i).base + 564) 428 ++ ByteStore.read m ((A.record i).base + 992) 2 :=
    ByteStore.read_add m _ 428 2
  have hzero : List.replicate 430 (0 : UInt8) = List.replicate 428 0 ++ [0, 0] := List.replicate_add 428 2 0
  have hlen : (ByteStore.read m ((A.record i).base + 564) 428).length = (List.replicate 428 (0 : UInt8)).length := by
    rw [ByteStore.length_read, List.length_replicate]
  rw [meterDefault_eq, hsplit, hzero, ← List.append_assoc, ← List.append_assoc]
  unfold image
  split_ifs with hwe
  · have hold := sealRecord_append (meterHead ++ ByteStore.read m ((A.record i).base + 564) 428)
      (ByteStore.length_read m ((A.record i).base + 992) 2)
    have hnew := sealRecord_append (meterHead ++ List.replicate 428 0) (c := [0, 0]) rfl
    rw [hold, hnew, and_iff_left (Or.inl hwe)]
    constructor
    · intro h
      have hbody := List.append_inj_left' h (by rw [List.length_cons, List.length_cons]; rfl)
      exact List.append_cancel_left hbody
    · rintro h
      rw [h]
  · rw [or_iff_right hwe, List.append_assoc, List.append_assoc, List.append_right_inj]
    exact ⟨fun h => List.append_inj h hlen, fun ⟨h, h'⟩ => by rw [h, h']⟩

/-- a meter's reset is right when what it does not clear is zero anyhow -/
theorem resetMeter_touches_iff (A : MeterArrays) {i : ℕ} (hi : i < 6) (write_enable : UInt8) (m : ℕ → UInt8) :
    (Touches (A.record i) (A.own i) (image meterDefault write_enable) m
        (writeElectricityMeterConfig A i 1 write_enable m) ↔
      ByteStore.read m ((A.record i).base + 564) 428 = List.replicate 428 0 ∧
      (write_enable = 1 ∨ ByteStore.read m ((A.record i).base + 992) 2 = [0, 0])) ∧
    (Touches (A.record i) ⟨0, 0⟩ (image meterDefault write_enable) m
        (writeElectricityMeterConfig A i 1 write_enable m) ↔
      (ByteStore.read m ((A.record i).base + 564) 428 = List.replicate 428 0 ∧
        (write_enable = 1 ∨ ByteStore.read m ((A.record i).base + 992) 2 = [0, 0])) ∧
      ByteStore.read m (A.own i).base (A.own i).size = meterStateImage 0xFF 0xFF 0) := by
  have hstale : (meterHead ++ stale A i m).length = 994 := by
    rw [List.length_append, length_meterHead, stale, ByteStore.length_read]
  have hlen : (image (meterHead ++ stale A i m) write_enable).length = (A.record i).size :=
    (length_image (by rw [hstale]; decide) _).trans hstale
  have hstates : (meterStateImage 0xFF 0xFF 0).length = (A.own i).size := by
    rw [meterStateImage, List.length_append, List.length_replicate]
    rfl
  have hdisj := A.disjoint hi
  have hnone : Region.Disjoint ⟨(A.record i).base + (A.record i).size, ([] : List UInt8).length⟩ (A.own i) := by
    simp only [Region.Disjoint, List.length_nil, Nat.add_zero] at hdisj ⊢
    omega
  have htouch : Touches (A.record i) (A.own i) (image meterDefault write_enable) m _ ↔ _ :=
    touches_iff m hlen hstates hdisj hnone
  rw [and_iff_left (by rfl), image_stale_iff] at htouch
  rw [resetMeter_memory A hi]
  exact ⟨htouch, (touches_alone_iff m hstates hdisj).trans (and_congr_left' htouch)⟩

/-- **A reset of one record.** A collector's clears seven bytes of the record behind it, a meter's leaves the last 430
bytes of its own: each sets its record to the defaults and leaves the rest alone exactly when these bytes are zero
before. The state of the module is counted with its record, or else has to be at its defaults too. -/
theorem reset_touches_iff (A : CollectorArrays) (M : MeterArrays) (i j : ℕ) (hi : i < 10) (hj : j < 6)
    (write_enable : UInt8) (m : ℕ → UInt8) :
    ((Touches (A.record i) (A.own i) (image collectorDefault write_enable) m
        (writeInputCollectorConfig A i 1 write_enable m) ↔
      ByteStore.read m (A.record (i + 1)).base 7 = List.replicate 7 0) ∧
    (Touches (A.record i) ⟨0, 0⟩ (image collectorDefault write_enable) m
        (writeInputCollectorConfig A i 1 write_enable m) ↔
      ByteStore.read m (A.record (i + 1)).base 7 = List.replicate 7 0 ∧
      ByteStore.read m (A.own i).base (A.own i).size = collectorStateImage 0xFF 0xFF 0 0)) ∧
    ((Touches (M.record j) (M.own j) (image meterDefault write_enable) m
        (writeElectricityMeterConfig M j 1 write_enable m) ↔
      ByteStore.read m ((M.record j).base + 564) 428 = List.replicate 428 0 ∧
      (write_enable = 1 ∨ ByteStore.read m ((M.record j).base + 992) 2 = [0, 0])) ∧
    (Touches (M.record j) ⟨0, 0⟩ (image meterDefault write_enable) m
        (writeElectricityMeterConfig M j 1 write_enable m) ↔
      (ByteStore.read m ((M.record j).base + 564) 428 = List.replicate 428 0 ∧
        (write_enable = 1 ∨ ByteStore.read m ((M.record j).base + 992) 2 = [0, 0])) ∧
      ByteStore.read m (M.own j).base (M.own j).size = meterStateImage 0xFF 0xFF 0)) :=
  ⟨resetCollector_touches_iff A hi write_enable m, resetMeter_touches_iff M hj write_enable m⟩

/-- collectors one behind the other, and their states behind them -/
def someCollectors : CollectorArrays where
  configBase := 0
  stateBase := 2590
  apart := Or.inl (le_refl 2590)

def someMeters : MeterArrays where
  configBase := 0
  stateBase := 5964
  apart := Or.inl (le_refl 5964)

/-- the last records of a memory of zeros -/
theorem reset_touches_last :
    Touches (someCollectors.record 9) (someCollectors.own 9) (image collectorDefault 1) (fun _ => 0)
      (writeInputCollectorConfig someCollectors 9 1 1 fun _ => 0) ∧
    Touches (someMeters.record 5) (someMeters.own 5) (image meterDefault 1) (fun _ => 0)
      (writeElectricityMeterConfig someMeters 5 1 1 fun _ => 0) := by
  have h := reset_touches_iff someCollectors someMeters 9 5 (by decide) (by decide) 1 fun _ => 0
  have hzero : ByteStore.read (fun _ => (0 : UInt8)) ((someMeters.record 5).base + 564) 428 = List.replicate 428 0 := by
    simp [ByteStore.read]
  exact ⟨h.1.1.2 (by decide), h.2.1.2 ⟨hzero, Or.inl rfl⟩⟩

/-- with the arrays full of ones, the first collector's reset clears the second's address, and the first meter's leaves
ones in its own record -/
theorem reset_spills :
    ¬ Touches (someCollectors.record 0) (someCollectors.own 0) (image collectorDefault 1) (fun _ => 1)
      (writeInputCollectorConfig someCollectors 0 1 1 fun _ => 1) ∧
    ¬ Touches (someMeters.record 0) (someMeters.own 0) (image meterDefault 1) (fun _ => 1)
      (writeElectricityMeterConfig someMeters 0 1 1 fun _ => 1) := by
  rw [(resetCollector_touches_iff someCollectors (by decide) 1 _).1, (resetMeter_touches_iff someMeters (by decide) 1 _).1]
  refine ⟨by decide, fun h => ?_⟩
  have hfirst := congrArg List.head? h.1
  rw [ByteStore.read, List.head?_map] at hfirst
  exact absurd hfirst (by decide)

end DataConcentrator.Eeprom.ResetRecord
