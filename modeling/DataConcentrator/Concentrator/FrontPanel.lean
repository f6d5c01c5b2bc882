/-
Frames of the front panel: `HandleMMI_Frame` checks what came in, dispatches it to a handler, and `CombineMMI_Frame`
makes the reply.

- `checks`, `dispatch`, `handleMMIFrame`: `none` where a byte behind what was received, or an entry outside
  `LampGroupListNum.list`, is read;
- `combine_accepted`, `dispatch_combined`: what a handler writes is a frame that the checks accept;
- `dispatch_inside`: a length byte that fits keeps a handler inside what was received;
- `frames_safe_iff`: the frames that are handled safely;
- `frames_unsafe`: nothing at all, a length byte that does not fit, and a group that does not exist.

The memory for a lamp task is there.
-/
import DataConcentrator.Common.Print
import DataConcentrator.Plc.Task
import DataConcentrator.Relay.Module

namespace DataConcentrator.FrontPanel

open Relay (calCheckSum)
open Plc (Task)

/-! ## State -/

/-- an entry of `InputCollectorState` or of `RelayModuleState`, with the loops it shows -/
structure ModuleState where
  address : UInt8
  channel : UInt8
  state : UInt16

/-- what the handlers read -/
structure Device where
  /-- `BulitInMeterParas`, byte by byte -/
  bulitInMeterParas : Fin 212 → UInt8
  builtInInputCollectorState : UInt16
  inputCollectorState : List ModuleState
  builtInRelayState : UInt16
  relayModuleState : List ModuleState
  gateWayId : UInt32
  /-- `ConcentratorLocalNetConfig`, byte by byte -/
  localNetConfig : Fin 26 → UInt8
  /-- `BulitInMeterRatio`, cut to `u16` -/
  voltage_ratio : UInt16
  current_ratio : UInt16
  /-- address and channel of the configured meters -/
  meters : List (UInt8 × UInt8)
  w_year : UInt16
  /-- month, day, hour, minute, second -/
  calendar : Fin 5 → UInt8
  connection_mode : UInt8
  ec20Connected : Bool
  ethConnected : Bool
  csq : UInt8
  auto_report_plc_state : UInt8
  lampNumber : ℕ
  lampGroupList : Fin 10 → UInt16

/-- what a handler does besides its reply -/
inductive Effect where
  | allBuiltInRelay (loop_current_channel loop_current_state : UInt16)
  | relay (address channel : UInt8) (loop_current_channel loop_current_state : UInt16)
  | lampTask (task : Task)
  | gateWayId (number : UInt32) (plc_addr : List UInt8)
  | localNetConfig (config : List UInt8) (connection_mode : UInt8) (server_ip server_port : List UInt8)
  | electricRatio (voltage_ratio current_ratio : UInt16) (meter : Option ℕ)
  | setTime (data : List UInt8)
  | reBoot
  | reConnect

/-- what is written to `outbuf`, and the length that is returned -/
structure Reply where
  ret : UInt8
  outbuf : List UInt8
deriving DecidableEq

/-- `ret = 0`, and nothing written -/
def noReply : Reply := ⟨0, []⟩

def combineMMIFrame (cmd_code : UInt8) (data : List UInt8) : Reply :=
  let head := [0x68, cmd_code, UInt8.ofNat data.length] ++ data
  ⟨UInt8.ofNat data.length + 5, head ++ [calCheckSum head, 0x16]⟩

/-! ## Handlers -/

/-- a byte of the data; `none` behind what was received -/
abbrev Data := ℕ → Option UInt8

section Handlers

variable (dev : Device) (cmd_code : UInt8) (data : Data) (data_len : UInt8)

/-- `(hi << 8) + lo` -/
def wordOf (hi lo : UInt8) : UInt16 := hi.toUInt16 <<< 8 + lo.toUInt16

/-- four bytes, the highest first -/
def numberOf (b0 b1 b2 b3 : UInt8) : UInt32 :=
  (b0.toUInt32 <<< 24) + (b1.toUInt32 <<< 16) + (b2.toUInt32 <<< 8) + b3.toUInt32

def wordBytes (w : UInt16) : List UInt8 := [(w >>> 8).toUInt8, w.toUInt8]

def numberBytes (n : UInt32) : List UInt8 := [(n >>> 24).toUInt8, (n >>> 16).toUInt8, (n >>> 8).toUInt8, n.toUInt8]

/-- the loop that looks for the module at `*(data + 0)` and `*(data + 1)` -/
def findModule : List ModuleState → Option (Option ModuleState)
  | [] => some none
  | m :: modules =>
    (data 0).bind fun address =>
      if m.address = address then
        (data 1).bind fun channel => if m.channel = channel then some (some m) else findModule modules
      else findModule modules

/-- `*(data + 0) == 0 && *(data + 1) == 0` -/
def isBuiltIn : Option Bool :=
  (data 0).bind fun address => if address = 0 then (data 1).map fun channel => decide (channel = 0) else some false

/-- the reply of the handlers that set something -/
def done (effects : List Effect) : List Effect × Reply := (effects, combineMMIFrame cmd_code [0])

/-- the state of the built-in module or of another -/
def getState (builtIn : UInt16) (modules : List ModuleState) : Option (List Effect × Reply) :=
  (isBuiltIn data).bind fun b =>
    (if b then some builtIn else (findModule data modules).map fun m => (m.map ModuleState.state).getD 0).map fun state =>
      ([], combineMMIFrame cmd_code (wordBytes state))

def getDI_State : Option (List Effect × Reply) :=
  getState cmd_code data dev.builtInInputCollectorState dev.inputCollectorState

def getDO_State : Option (List Effect × Reply) := getState cmd_code data dev.builtInRelayState dev.relayModuleState

def setDO_State : Option (List Effect × Reply) :=
  if data_len = 4 then
    match dev.relayModuleState with
    | [] => (isBuiltIn data).bind fun b =>
      if b then (data 2).bind fun hi => (data 3).map fun lo => done cmd_code [.allBuiltInRelay 0xFFFF (wordOf hi lo)]
      else some (done cmd_code [])
    | modules => (findModule data modules).bind fun m =>
      match m with
      | some m => (data 2).bind fun hi => (data 3).map fun lo =>
        done cmd_code [.relay m.address m.channel 0xFFFF (wordOf hi lo)]
      | none => some (done cmd_code [])
  else some (done cmd_code [])

/-- the task for the power line, up to what depends on the kind of broadcast -/
def lampTask (type b1 b2 : UInt8) (add : UInt32) : Task :=
  { Task.zero with
    notify_enable := if dev.auto_report_plc_state &&& 8 ≠ 0 then 1 else 0
    cmd_code := 0x0103
    broadcast_type := type.toNat
    group_dev_id := fun i => if i = 0 then add else 0
    data := [0x03, b1, b2, 0] }

def setLamp_State : Option (List Effect × Reply) :=
  if data_len = 7 then
    (data 0).bind fun type =>
      if type ≤ 2 then
        (data 1).bind fun b1 => (data 2).bind fun b2 => (data 3).bind fun b3 => (data 4).bind fun b4 =>
        (data 5).bind fun b5 => (data 6).bind fun b6 =>
          let add := numberOf b3 b4 b5 b6
          let task := lampTask dev type b1 b2 add
          if type = 0 then
            some (done cmd_code [.lampTask
              { task with execute_type := 0, dev_num := dev.lampNumber, execute_total_num := 1 }])
          else if type = 1 then
            -- the group is the index itself, and is not checked
            if h : add.toNat < 10 then
              some (done cmd_code [.lampTask { task with
                execute_type := 0, group_num := 1, dev_num := (dev.lampGroupList ⟨add.toNat, h⟩).toNat
                execute_total_num := 1 }])
            else none
          else some (done cmd_code [.lampTask { task with execute_type := 1, dev_num := 1, execute_total_num := 1 }])
      else some (done cmd_code [])
  else some (done cmd_code [])

/-- `memcpy` of so many bytes of the data -/
def readData (n : ℕ) : Option (List UInt8) := (List.range n).mapM data

def setGateWayID : Option (List Effect × Reply) :=
  if data_len = 4 then
    (data 0).bind fun b0 => (data 1).bind fun b1 => (data 2).bind fun b2 => (data 3).map fun b3 =>
      done cmd_code [.gateWayId (numberOf b0 b1 b2 b3) [0, 0, b0, b1, b2, b3]]
  else some (done cmd_code [])

/-- four numbers with points between them -/
def ipText (ip : List UInt8) : List UInt8 := List.intercalate [0x2E] (ip.map fun b => sprintfD b.toNat)

def setLocalNetConfig : Option (List Effect × Reply) :=
  if data_len = 26 then
    (readData data 26).map fun config =>
      done cmd_code [.localNetConfig config (config.getD 0 0) (ipText ((config.drop 18).take 4))
        (sprintfD (wordOf (config.getD 23 0) (config.getD 22 0)).toNat)]
  else some (done cmd_code [])

def setElectricRatio : Option (List Effect × Reply) :=
  if data_len = 4 then
    (data 0).bind fun b0 => (data 1).bind fun b1 => (data 2).bind fun b2 => (data 3).map fun b3 =>
      done cmd_code [.electricRatio (wordOf b0 b1) (wordOf b2 b3) (dev.meters.findIdx? fun m => m = (0, 0))]
  else some (done cmd_code [])

def setSysDateTime : Option (List Effect × Reply) :=
  if data_len = 6 then (readData data 6).map fun time => done cmd_code [.setTime time] else some (done cmd_code [])

def setSysReset : Option (List Effect × Reply) :=
  if data_len = 1 then
    (data 0).map fun type => done cmd_code (if type = 0 then [.reBoot] else if type = 2 then [.reConnect] else [])
  else some (done cmd_code [])

def SOFT_WARE_VRESION : ℕ := 101

def MODE_INSIDE : UInt8 := 0
def MODE_4G : UInt8 := 1
def MODE_ETH : UInt8 := 2

/-- `conn_mode` of `GetLinkTypeLinkState` -/
def connMode : UInt8 :=
  if dev.connection_mode = MODE_INSIDE then
    if dev.ec20Connected then MODE_4G else if dev.ethConnected then MODE_ETH else MODE_INSIDE
  else dev.connection_mode

def linkState : List UInt8 :=
  if connMode dev = MODE_4G then [connMode dev, if dev.ec20Connected then 1 else 0, 0 - dev.csq]
  else if connMode dev = MODE_ETH then [connMode dev, if dev.ethConnected then 1 else 0, 0]
  else [connMode dev, 0, 0]

/-- the data of the handlers that only read -/
def readings : Option (List UInt8) :=
  if cmd_code = 0x00 then some (List.ofFn dev.bulitInMeterParas)
  else if cmd_code = 0x04 then some ([UInt8.ofNat (SOFT_WARE_VRESION / 100), UInt8.ofNat (SOFT_WARE_VRESION % 100)] ++
    numberBytes dev.gateWayId)
  else if cmd_code = 0x05 then some (List.ofFn dev.localNetConfig)
  else if cmd_code = 0x07 then some (numberBytes dev.gateWayId)
  else if cmd_code = 0x09 then some (wordBytes dev.voltage_ratio ++ wordBytes dev.current_ratio)
  else if cmd_code = 0x0B then some ((dev.w_year - 2000).toUInt8 :: List.ofFn dev.calendar)
  else if cmd_code = 0x10 then some (linkState dev)
  else none

/-- `switch(cmd_code)` -/
def dispatch : Option (List Effect × Reply) :=
  match readings dev cmd_code with
  | some buf => some ([], combineMMIFrame cmd_code buf)
  | none =>
    if cmd_code = 0x01 then getDI_State dev cmd_code data
    else if cmd_code = 0x02 then setDO_State dev cmd_code data data_len
    else if cmd_code = 0x03 then setLamp_State dev cmd_code data data_len
    else if cmd_code = 0x06 then setLocalNetConfig cmd_code data data_len
    else if cmd_code = 0x08 then setGateWayID cmd_code data data_len
    else if cmd_code = 0x0A then setElectricRatio dev cmd_code data data_len
    else if cmd_code = 0x0C then setSysDateTime cmd_code data data_len
    else if cmd_code = 0x11 then getDO_State dev cmd_code data
    else if cmd_code = 0x12 then setSysReset cmd_code data data_len
    else some ([], noReply)

end Handlers

/-! ## Frames -/

/-- `*(inbuf + i)`; `none` outside what was received -/
def byteAt (inbuf : List UInt8) (i : ℤ) : Option UInt8 := if 0 ≤ i then inbuf[i.toNat]? else none

/-- `CalCheckSum` of `len` bytes -/
def checkSumOf (inbuf : List UInt8) (len : ℕ) : Option UInt8 :=
  if len ≤ inbuf.length then some (calCheckSum (inbuf.take len)) else none

/-- the checks at the start of `HandleMMI_Frame`; the length is cut to `u16` for `CalCheckSum` -/
def checks (inbuf : List UInt8) : Option Bool :=
  let len := inbuf.length
  (byteAt inbuf 0).bind fun start =>
    if start ≠ 0x68 then some false
    else (byteAt inbuf (len - 1)).bind fun stop =>
      if stop ≠ 0x16 then some false
      else (byteAt inbuf (len - 2)).bind fun read_check_sum =>
        (checkSumOf inbuf (toUnsigned 16 (len - 2))).map fun cal_check_sum => decide (read_check_sum = cal_check_sum)

/-- `inbuf + 3` -/
def dataOf (inbuf : List UInt8) : Data := fun i => inbuf[3 + i]?

/-- `HandleMMI_Frame` -/
def handleMMIFrame (dev : Device) (inbuf : List UInt8) : Option (List Effect × Reply) :=
  (checks inbuf).bind fun ok =>
    if ok then
      (byteAt inbuf 1).bind fun cmd_code => (byteAt inbuf 2).bind fun data_len =>
        dispatch dev cmd_code (dataOf inbuf) data_len
    else some ([], noReply)

/-! ## Replies -/

/-- the commands that have a handler -/
def Known (cmd_code : UInt8) : Prop := cmd_code ≤ 0x0C ∨ cmd_code = 0x10 ∨ cmd_code = 0x11 ∨ cmd_code = 0x12

instance decidableKnown (cmd_code : UInt8) : Decidable (Known cmd_code) :=
  inferInstanceAs (Decidable (_ ∨ _))

/-- the length byte is the received length less the five bytes around the data -/
def Fits (inbuf : List UInt8) : Prop := ∃ data_len, byteAt inbuf 2 = some data_len ∧ data_len.toNat + 5 = inbuf.length

/-- marks, checksum and length byte are right -/
def Accepted (inbuf : List UInt8) : Prop := checks inbuf = some true ∧ Fits inbuf

/-- **Replies.** What is combined has the length that is returned, and the checks accept it. -/
theorem combine_accepted (cmd_code : UInt8) {data : List UInt8} (h : data.length ≤ 250) :
    (combineMMIFrame cmd_code data).ret.toNat = (combineMMIFrame cmd_code data).outbuf.length ∧
      Accepted (combineMMIFrame cmd_code data).outbuf := by
  obtain ⟨head, hhead⟩ : ∃ head, head = [0x68, cmd_code, UInt8.ofNat data.length] ++ data := ⟨_, rfl⟩
  have hlen : head.length = data.length + 3 := by
    rw [hhead, List.length_append]
    exact Nat.add_comm 3 data.length
  have hout : (combineMMIFrame cmd_code data).outbuf = head ++ [calCheckSum head, 0x16] := by rw [hhead]; rfl
  have hfive : (5 : UInt8).toNat = 5 := rfl
  constructor
  · rw [hout, List.length_append, hlen]
    change (UInt8.ofNat data.length + 5).toNat = data.length + 3 + 2
    rw [UInt8.toNat_add, UInt8.toNat_ofNat', hfive]
    omega
  have hfits : Fits (head ++ [calCheckSum head, 0x16]) := by
    refine ⟨UInt8.ofNat data.length, by rw [hhead]; rfl, ?_⟩
    rw [UInt8.toNat_ofNat', List.length_append, hlen]
    change data.length % 256 + 5 = data.length + 3 + 2
    omega
  rw [Accepted, hout]
  refine ⟨?_, hfits⟩
  · have hstart : byteAt (head ++ [calCheckSum head, 0x16]) 0 = some 0x68 := by rw [hhead]; rfl
    have hstop : byteAt (head ++ [calCheckSum head, 0x16]) ((data.length + 5 : ℕ) - 1) = some 0x16 := by
      rw [byteAt, if_pos (by omega), List.getElem?_append_right (by omega), hlen,
        show ((data.length + 5 : ℕ) - 1 : ℤ).toNat - (data.length + 3) = 1 by omega]
      rfl
    have hsum : byteAt (head ++ [calCheckSum head, 0x16]) ((data.length + 5 : ℕ) - 2) = some (calCheckSum head) := by
      rw [byteAt, if_pos (by omega), List.getElem?_append_right (by omega), hlen,
        show ((data.length + 5 : ℕ) - 2 : ℤ).toNat - (data.length + 3) = 0 by omega]
      rfl
    have hunsigned : toUnsigned 16 ((data.length + 5 : ℕ) - 2) = head.length := by
      rw [toUnsigned, hlen]
      omega
    have hcal : checkSumOf (head ++ [calCheckSum head, 0x16]) head.length = some (calCheckSum head) := by
      rw [checkSumOf, if_pos (by rw [List.length_append]; omega), List.take_left]
    have htotal : (head ++ [calCheckSum head, 0x16]).length = data.length + 5 := by
      rw [List.length_append, hlen]
      rfl
    rw [checks, htotal, hstart]
    simp only [Option.bind_some, ne_eq, not_true_eq_false, if_false, hstop, hsum, hunsigned, hcal, Option.map_some,
      decide_true]

/-- whatever a handler returns is a combined reply of 212 data bytes at most -/
def Combined (cmd_code : UInt8) (o : Option (List Effect × Reply)) : Prop :=
  ∀ p ∈ o, ∃ data : List UInt8, data.length ≤ 212 ∧ p.2 = combineMMIFrame cmd_code data

section Combined

variable {cmd_code : UInt8} {α : Type}

theorem Combined.bind {o : Option α} {f : α → Option (List Effect × Reply)} (h : ∀ a, Combined cmd_code (f a)) :
    Combined cmd_code (o.bind f) := by
  intro p hp
  obtain ⟨a, -, ha⟩ := Option.bind_eq_some_iff.1 hp
  exact h a p ha

theorem Combined.some {e : List Effect} {data : List UInt8} (h : data.length ≤ 212) :
    Combined cmd_code (some (e, combineMMIFrame cmd_code data)) := by
  intro p hp
  cases hp
  exact ⟨data, h, rfl⟩

theorem Combined.map {o : Option α} {f : α → List Effect × Reply} (h : ∀ a, Combined cmd_code (Option.some (f a))) :
    Combined cmd_code (o.map f) := by
  intro p hp
  obtain ⟨a, -, rfl⟩ := Option.map_eq_some_iff.1 hp
  exact h a _ rfl

theorem Combined.done (e : List Effect) : Combined cmd_code (Option.some (done cmd_code e)) :=
  Combined.some (by decide)

theorem Combined.ite {c : Prop} [Decidable c] {o o' : Option (List Effect × Reply)} (h : Combined cmd_code o)
    (h' : Combined cmd_code o') : Combined cmd_code (if c then o else o') := by
  split_ifs
  · exact h
  · exact h'

end Combined

section Handlers

variable (dev : Device) (cmd_code : UInt8) (data : Data) (data_len : UInt8)

theorem getState_combined (builtIn : UInt16) (modules : List ModuleState) :
    Combined cmd_code (getState cmd_code data builtIn modules) :=
  Combined.bind fun _ => Combined.map fun _ => Combined.some (by rw [wordBytes]; exact Nat.le_of_ble_eq_true rfl)

theorem setDO_State_combined : Combined cmd_code (setDO_State dev cmd_code data data_len) := by
  have hword : ∀ f : UInt8 → UInt8 → List Effect,
      Combined cmd_code ((data 2).bind fun hi => (data 3).map fun lo => done cmd_code (f hi lo)) :=
    fun f => Combined.bind fun _ => Combined.map fun _ => Combined.done _
  refine Combined.ite ?_ (Combined.done _)
  split
  · exact Combined.bind fun _ => Combined.ite (hword _) (Combined.done _)
  · refine Combined.bind fun m => ?_
    cases m with
    | none => exact Combined.done _
    | some m => exact hword _

theorem setLamp_State_combined : Combined cmd_code (setLamp_State dev cmd_code data data_len) := by
  refine Combined.ite (Combined.bind fun type => Combined.ite ?_ (Combined.done _)) (Combined.done _)
  refine Combined.bind fun b1 => Combined.bind fun b2 => Combined.bind fun b3 => Combined.bind fun b4 =>
    Combined.bind fun b5 => Combined.bind fun b6 => ?_
  refine Combined.ite (Combined.done _) (Combined.ite ?_ (Combined.done _))
  split_ifs
  · exact Combined.done _
  · intro p hp
    cases hp

theorem setLocalNetConfig_combined : Combined cmd_code (setLocalNetConfig cmd_code data data_len) :=
  Combined.ite (Combined.map fun _ => Combined.done _) (Combined.done _)

theorem setGateWayID_combined : Combined cmd_code (setGateWayID cmd_code data data_len) :=
  Combined.ite (Combined.bind fun _ => Combined.bind fun _ => Combined.bind fun _ => Combined.map fun _ =>
    Combined.done _) (Combined.done _)

theorem setElectricRatio_combined : Combined cmd_code (setElectricRatio dev cmd_code data data_len) :=
  Combined.ite (Combined.bind fun _ => Combined.bind fun _ => Combined.bind fun _ => Combined.map fun _ =>
    Combined.done _) (Combined.done _)

theorem setSysDateTime_combined : Combined cmd_code (setSysDateTime cmd_code data data_len) :=
  Combined.ite (Combined.map fun _ => Combined.done _) (Combined.done _)

theorem setSysReset_combined : Combined cmd_code (setSysReset cmd_code data data_len) :=
  Combined.ite (Combined.map fun _ => Combined.done _) (Combined.done _)

theorem readings_length {buf : List UInt8} (h : readings dev cmd_code = some buf) : buf.length ≤ 212 := by
  have hlink : (linkState dev).length = 3 := by
    rw [linkState]
    split_ifs <;> rfl
  have hbytes : ∀ {n} (f : Fin n → UInt8), n ≤ 212 → (List.ofFn f).length ≤ 212 := by
    intro n f hn
    rwa [List.length_ofFn]
  have hnumber : ∀ n, (numberBytes n).length = 4 := fun _ => rfl
  rw [readings] at h
  split_ifs at h <;> cases h
  · exact hbytes _ (by omega)
  · rw [List.length_append, hnumber]
    decide
  · exact hbytes _ (by omega)
  · rw [hnumber]
    decide
  · exact Nat.le_of_ble_eq_true rfl
  · rw [List.length_cons, List.length_ofFn]
    decide
  · rw [hlink]
    decide

/-- **Commands.** A known command is answered with a combined reply, whatever its data. -/
theorem dispatch_combined (h : Known cmd_code) : Combined cmd_code (dispatch dev cmd_code data data_len) := by
  rw [dispatch]
  cases hbuf : readings dev cmd_code with
  | some buf => exact Combined.some (readings_length dev cmd_code hbuf)
  | none =>
    change Combined cmd_code (if _ then _ else _)
    split_ifs with h1 h2 h3 h6 h8 hA hC h11 h12
    · exact getState_combined _ _ _ _
    · exact setDO_State_combined _ _ _ _
    · exact setLamp_State_combined _ _ _ _
    · exact setLocalNetConfig_combined _ _ _
    · exact setGateWayID_combined _ _ _
    · exact setElectricRatio_combined _ _ _ _
    · exact setSysDateTime_combined _ _ _
    · exact getState_combined _ _ _ _
    · exact setSysReset_combined _ _ _
    · rw [readings] at hbuf
      split_ifs at hbuf with h0 h4 h5 h7 h9 hB h10
      simp only [Known, UInt8.le_iff_toNat_le, ← UInt8.toNat_inj, UInt8.reduceToNat] at *
      omega

theorem dispatch_unknown (h : ¬Known cmd_code) : dispatch dev cmd_code data data_len = some ([], noReply) := by
  have hne : ∀ k, Known k → cmd_code ≠ k := fun k hk he => h (he ▸ hk)
  have hbuf : readings dev cmd_code = none := by
    rw [readings, if_neg (hne _ (by decide)), if_neg (hne _ (by decide)), if_neg (hne _ (by decide)),
      if_neg (hne _ (by decide)), if_neg (hne _ (by decide)), if_neg (hne _ (by decide)), if_neg (hne _ (by decide))]
  rw [dispatch, hbuf]
  change (if _ then _ else _) = _
  rw [if_neg (hne _ (by decide)), if_neg (hne _ (by decide)), if_neg (hne _ (by decide)),
    if_neg (hne _ (by decide)), if_neg (hne _ (by decide)), if_neg (hne _ (by decide)), if_neg (hne _ (by decide)),
    if_neg (hne _ (by decide)), if_neg (hne _ (by decide))]

end Handlers

/-! ## What is read -/

section Inside

variable {α β : Type} {o : Option α}

theorem inside_bind {f : α → Option β} (ho : o.isSome) (hf : ∀ a, (f a).isSome) : (o.bind f).isSome := by
  obtain ⟨a, rfl⟩ := Option.isSome_iff_exists.1 ho
  exact hf a

theorem inside_map {f : α → β} (ho : o.isSome) : (o.map f).isSome := by
  rwa [Option.isSome_map]

theorem inside_ite {c : Prop} [Decidable c] {o' : Option α} (ho : c → o.isSome) (ho' : ¬c → o'.isSome) :
    (if c then o else o').isSome := by
  split_ifs with hc
  · exact ho hc
  · exact ho' hc

variable (dev : Device) (cmd_code : UInt8) {data : Data} {data_len : UInt8}

theorem findModule_inside (h0 : (data 0).isSome) (h1 : (data 1).isSome) (modules : List ModuleState) :
    (findModule data modules).isSome := by
  induction modules with
  | nil => rfl
  | cons m modules ih =>
    exact inside_bind h0 fun _ => inside_ite (fun _ => inside_bind h1 fun _ => inside_ite (fun _ => rfl) fun _ => ih)
      fun _ => ih

theorem isBuiltIn_inside (h0 : (data 0).isSome) (h1 : (data 1).isSome) : (isBuiltIn data).isSome :=
  inside_bind h0 fun _ => inside_ite (fun _ => inside_map h1) fun _ => rfl

theorem getState_inside (h0 : (data 0).isSome) (h1 : (data 1).isSome) (builtIn : UInt16)
    (modules : List ModuleState) : (getState cmd_code data builtIn modules).isSome := by
  refine inside_bind (isBuiltIn_inside h0 h1) fun b => inside_map ?_
  exact inside_ite (fun _ => rfl) fun _ => inside_map (findModule_inside h0 h1 modules)

theorem setDO_State_inside (h : ∀ i < data_len.toNat + 2, (data i).isSome) :
    (setDO_State dev cmd_code data data_len).isSome := by
  refine inside_ite (fun hlen => ?_) fun _ => rfl
  subst hlen
  have hword : ∀ f : UInt8 → UInt8 → List Effect × Reply,
      ((data 2).bind fun hi => (data 3).map fun lo => f hi lo).isSome :=
    fun f => inside_bind (h 2 (by decide)) fun _ => inside_map (h 3 (by decide))
  split
  · exact inside_bind (isBuiltIn_inside (h 0 (by decide)) (h 1 (by decide))) fun _ =>
      inside_ite (fun _ => hword _) fun _ => rfl
  · refine inside_bind (findModule_inside (h 0 (by decide)) (h 1 (by decide)) _) fun m => ?_
    cases m with
    | none => rfl
    | some m => exact hword _

theorem mapM_inside {is : List ℕ} (h : ∀ i ∈ is, (data i).isSome) : (is.mapM data).isSome := by
  induction is with
  | nil => rfl
  | cons i is ih =>
    rw [List.mapM_cons]
    exact inside_bind (h i List.mem_cons_self) fun _ =>
      inside_bind (ih fun j hj => h j (List.mem_cons_of_mem _ hj)) fun _ => rfl

theorem readData_inside {n : ℕ} (h : ∀ i < n, (data i).isSome) : (readData data n).isSome :=
  mapM_inside fun i hi => h i (List.mem_range.1 hi)

theorem setLocalNetConfig_inside (h : ∀ i < data_len.toNat + 2, (data i).isSome) :
    (setLocalNetConfig cmd_code data data_len).isSome := by
  refine inside_ite (fun hlen => ?_) fun _ => rfl
  subst hlen
  exact inside_map (readData_inside fun i hi => h i (Nat.lt_add_right 2 hi))

theorem setSysDateTime_inside (h : ∀ i < data_len.toNat + 2, (data i).isSome) :
    (setSysDateTime cmd_code data data_len).isSome := by
  refine inside_ite (fun hlen => ?_) fun _ => rfl
  subst hlen
  exact inside_map (readData_inside fun i hi => h i (Nat.lt_add_right 2 hi))

theorem setGateWayID_inside (h : ∀ i < data_len.toNat + 2, (data i).isSome) :
    (setGateWayID cmd_code data data_len).isSome := by
  refine inside_ite (fun hlen => ?_) fun _ => rfl
  subst hlen
  exact inside_bind (h 0 (by decide)) fun _ => inside_bind (h 1 (by decide)) fun _ =>
    inside_bind (h 2 (by decide)) fun _ => inside_map (h 3 (by decide))

theorem setElectricRatio_inside (h : ∀ i < data_len.toNat + 2, (data i).isSome) :
    (setElectricRatio dev cmd_code data data_len).isSome := by
  refine inside_ite (fun hlen => ?_) fun _ => rfl
  subst hlen
  exact inside_bind (h 0 (by decide)) fun _ => inside_bind (h 1 (by decide)) fun _ =>
    inside_bind (h 2 (by decide)) fun _ => inside_map (h 3 (by decide))

theorem setSysReset_inside (h : ∀ i < data_len.toNat + 2, (data i).isSome) :
    (setSysReset cmd_code data data_len).isSome :=
  inside_ite (fun _ => inside_map (h 0 (by omega))) fun _ => rfl

/-- the number of the group in the data of `SetLamp_State` -/
def groupOf (data : Data) : Option UInt32 :=
  (data 3).bind fun b3 => (data 4).bind fun b4 => (data 5).bind fun b5 => (data 6).map fun b6 => numberOf b3 b4 b5 b6

/-- a broadcast to a group that is not in `LampGroupListNum.list` -/
def NoGroup (data : Data) (data_len : UInt8) : Prop :=
  data_len = 7 ∧ data 0 = some 1 ∧ ∃ group ∈ groupOf data, 10 ≤ group.toNat

theorem setLamp_State_inside (h : ∀ i < data_len.toNat + 2, (data i).isSome) :
    (setLamp_State dev cmd_code data data_len).isSome ↔ ¬NoGroup data data_len := by
  rw [setLamp_State]
  by_cases hlen : data_len = 7
  case neg =>
    rw [if_neg hlen]
    exact ⟨fun _ hno => hlen hno.1, fun _ => rfl⟩
  subst hlen
  have hbyte : ∀ i < 9, ∃ b, data i = some b := fun i hi => Option.isSome_iff_exists.1 (h i hi)
  obtain ⟨type, h0⟩ := hbyte 0 (by decide)
  obtain ⟨b1, h1⟩ := hbyte 1 (by decide)
  obtain ⟨b2, h2⟩ := hbyte 2 (by decide)
  obtain ⟨b3, h3⟩ := hbyte 3 (by decide)
  obtain ⟨b4, h4⟩ := hbyte 4 (by decide)
  obtain ⟨b5, h5⟩ := hbyte 5 (by decide)
  obtain ⟨b6, h6⟩ := hbyte 6 (by decide)
  have hgroup : groupOf data = some (numberOf b3 b4 b5 b6) := by
    rw [groupOf, h3, h4, h5, h6]
    rfl
  simp only [NoGroup, hgroup, h0, h1, h2, h3, h4, h5, h6, Option.bind_some, if_true, true_and, Option.some.injEq,
    Option.mem_def, exists_eq_left']
  by_cases htype : type = 1
  · subst htype
    by_cases hlt : (numberOf b3 b4 b5 b6).toNat < 10
    · simp [hlt]
    · simp [hlt]
  · simp only [htype, if_false, false_and, not_false_eq_true, iff_true]
    exact inside_ite (fun _ => inside_ite (fun _ => rfl) fun _ => rfl) fun _ => rfl

/-- **Dispatch.** Where a length byte fits, only a group that does not exist takes a handler outside. -/
theorem dispatch_inside (h : ∀ i < data_len.toNat + 2, (data i).isSome) :
    (dispatch dev cmd_code data data_len).isSome ↔ ¬(cmd_code = 0x03 ∧ NoGroup data data_len) := by
  have h0 := h 0 (by omega)
  have h1 := h 1 (by omega)
  by_cases hcmd : cmd_code = 0x03
  · subst hcmd
    exact (setLamp_State_inside dev 0x03 h).trans (not_congr ⟨fun hno => ⟨rfl, hno⟩, And.right⟩)
  have hothers : (dispatch dev cmd_code data data_len).isSome := by
    rw [dispatch]
    cases readings dev cmd_code with
    | some buf => rfl
    | none =>
      change (if _ then _ else _ : Option (List Effect × Reply)).isSome
      refine inside_ite (fun _ => getState_inside _ h0 h1 _ _) fun _ => ?_
      refine inside_ite (fun _ => setDO_State_inside _ _ h) fun _ => ?_
      refine inside_ite (fun h3 => absurd h3 hcmd) fun _ => ?_
      refine inside_ite (fun _ => setLocalNetConfig_inside _ h) fun _ => ?_
      refine inside_ite (fun _ => setGateWayID_inside _ h) fun _ => ?_
      refine inside_ite (fun _ => setElectricRatio_inside _ _ h) fun _ => ?_
      refine inside_ite (fun _ => setSysDateTime_inside _ h) fun _ => ?_
      refine inside_ite (fun _ => getState_inside _ h0 h1 _ _) fun _ => ?_
      exact inside_ite (fun _ => setSysReset_inside _ h) fun _ => rfl
  exact iff_of_true hothers fun hno => hcmd hno.1

end Inside

/-! ## Received frames -/

variable (dev : Device) (inbuf : List UInt8)

theorem byteAt_inside {i : ℤ} (h0 : 0 ≤ i) (h : i < inbuf.length) : (byteAt inbuf i).isSome := by
  rw [byteAt, if_pos h0, List.getElem?_eq_getElem (by omega)]
  rfl

/-- the checks read nothing outside, once there is a byte -/
theorem checks_inside (h : inbuf ≠ []) : (checks inbuf).isSome := by
  have hpos := List.length_pos_iff.2 h
  obtain ⟨start, hstart⟩ := Option.isSome_iff_exists.1 (byteAt_inside inbuf le_rfl (by omega))
  rw [checks, hstart, Option.bind_some]
  refine inside_ite (fun _ => rfl) fun hmark => ?_
  obtain hone | htwo : inbuf.length = 1 ∨ 2 ≤ inbuf.length := by omega
  · -- the end mark is looked for in the start mark
    rw [hone, show ((1 : ℕ) - 1 : ℤ) = 0 by rfl, hstart, Option.bind_some, not_not.1 hmark]
    rfl
  · refine inside_bind (byteAt_inside inbuf (by omega) (by omega)) fun _ => inside_ite (fun _ => rfl) fun _ => ?_
    refine inside_bind (byteAt_inside inbuf (by omega) (by omega)) fun _ => inside_map ?_
    rw [checkSumOf, if_pos]
    · rfl
    · rw [toUnsigned]
      omega

/-- what the checks have seen -/
theorem checks_marks (h : checks inbuf = some true) :
    byteAt inbuf 0 = some 0x68 ∧ byteAt inbuf (inbuf.length - 1) = some 0x16 ∧
      ∃ sum, byteAt inbuf (inbuf.length - 2) = some sum ∧
        checkSumOf inbuf (toUnsigned 16 (inbuf.length - 2)) = some sum := by
  obtain ⟨start, hstart, h⟩ := Option.bind_eq_some_iff.1 h
  split_ifs at h with hmark
  · cases h
  obtain ⟨stop, hstop, h⟩ := Option.bind_eq_some_iff.1 h
  split_ifs at h with hend
  · cases h
  obtain ⟨read, hread, h⟩ := Option.bind_eq_some_iff.1 h
  obtain ⟨cal, hcal, heq⟩ := Option.map_eq_some_iff.1 h
  exact ⟨not_not.1 hmark ▸ hstart, not_not.1 hend ▸ hstop, read, hread, of_decide_eq_true heq ▸ hcal⟩

/-- a frame that passes the checks has a command and a length byte -/
theorem checks_length (h : checks inbuf = some true) : 3 ≤ inbuf.length := by
  obtain ⟨hstart, hstop, sum, hread, hcal⟩ := checks_marks inbuf h
  by_contra hlt
  obtain hzero | hone | htwo : inbuf.length = 0 ∨ inbuf.length = 1 ∨ inbuf.length = 2 := by omega
  · rw [List.length_eq_zero_iff.1 hzero] at hstart
    cases hstart
  · rw [hone, show ((1 : ℕ) - 1 : ℤ) = 0 by rfl, hstart] at hstop
    cases hstop
  · rw [htwo, show ((2 : ℕ) - 2 : ℤ) = 0 by rfl, hstart] at hread
    cases hread
    rw [htwo, show toUnsigned 16 ((2 : ℕ) - 2) = 0 by rfl, checkSumOf, if_pos (Nat.zero_le _)] at hcal
    cases hcal

/-- a length byte that fits leaves the data, the checksum and the end mark behind it -/
theorem dataOf_inside {data_len : UInt8} (h : data_len.toNat + 5 = inbuf.length) :
    ∀ i < data_len.toNat + 2, (dataOf inbuf i).isSome := by
  intro i hi
  rw [dataOf, List.getElem?_eq_getElem (by omega)]
  rfl

theorem combine_ne_noReply (cmd_code : UInt8) (data : List UInt8) : combineMMIFrame cmd_code data ≠ noReply :=
  fun h => List.cons_ne_nil _ _ (congrArg Reply.outbuf h)

/-- what is asked of `HandleMMI_Frame` for one received string -/
def Safe : Prop :=
  ∃ effects reply, handleMMIFrame dev inbuf = some (effects, reply) ∧
    reply.ret.toNat = reply.outbuf.length ∧
    ((effects ≠ [] ∨ reply ≠ noReply) → Accepted inbuf) ∧
    (reply ≠ noReply → Accepted reply.outbuf ∧ ∃ cmd_code data, reply = combineMMIFrame cmd_code data)

/-- the length byte fits, and a group that is asked for is in the list -/
def InFrame (cmd_code data_len : UInt8) : Prop :=
  data_len.toNat + 5 = inbuf.length ∧ ¬(cmd_code = 0x03 ∧ NoGroup (dataOf inbuf) data_len)

/-- something is received, and a frame with a known command is one that fits -/
def Good : Prop :=
  inbuf ≠ [] ∧ (checks inbuf = some true → ∀ cmd_code ∈ byteAt inbuf 1, ∀ data_len ∈ byteAt inbuf 2,
    Known cmd_code → InFrame inbuf cmd_code data_len)

/-- **Front panel.** A received string is handled safely exactly when there is one, and its length byte fits and its
group exists once its marks and checksum hold and its command is known. -/
theorem frames_safe_iff : Safe dev inbuf ↔ Good inbuf := by
  have hnoReply : noReply.ret.toNat = noReply.outbuf.length := rfl
  by_cases hnil : inbuf = []
  case pos =>
    subst hnil
    refine iff_of_false ?_ fun h => h.1 rfl
    rintro ⟨effects, reply, h, -⟩
    cases h
  obtain ⟨ok, hok⟩ := Option.isSome_iff_exists.1 (checks_inside inbuf hnil)
  rw [Good, Safe, handleMMIFrame, hok, Option.bind_some]
  cases ok with
  | false =>
    refine iff_of_true ⟨[], noReply, rfl, hnoReply, fun h => ?_, fun h => absurd rfl h⟩ ⟨hnil, fun h => ?_⟩
    · exact absurd h (by simp)
    · cases h
  | true =>
    have hlength := checks_length inbuf hok
    obtain ⟨cmd_code, hcmd⟩ := Option.isSome_iff_exists.1 (byteAt_inside inbuf (i := 1) (by omega) (by omega))
    obtain ⟨data_len, hdata⟩ := Option.isSome_iff_exists.1 (byteAt_inside inbuf (i := 2) (by omega) (by omega))
    rw [if_pos rfl, hcmd, hdata, Option.bind_some, Option.bind_some]
    have hframe : (inbuf ≠ [] ∧ (some true = some true → ∀ c ∈ some cmd_code, ∀ n ∈ some data_len,
        Known c → InFrame inbuf c n)) ↔ (Known cmd_code → InFrame inbuf cmd_code data_len) :=
      ⟨fun h => h.2 rfl cmd_code rfl data_len rfl, fun h => ⟨hnil, by rintro - c ⟨⟩ n ⟨⟩; exact h⟩⟩
    rw [hframe]
    by_cases hknown : Known cmd_code
    case neg =>
      rw [dispatch_unknown dev cmd_code _ _ hknown]
      refine iff_of_true ⟨[], noReply, rfl, hnoReply, fun h => ?_, fun h => absurd rfl h⟩ fun h => absurd h hknown
      exact absurd h (by simp)
    rw [imp_iff_right hknown]
    have hcombined := dispatch_combined dev cmd_code (dataOf inbuf) data_len hknown
    constructor
    · rintro ⟨effects, reply, hsome, -, hacts, -⟩
      obtain ⟨buf, -, rfl⟩ := hcombined _ hsome
      obtain ⟨-, n, hn, hfits⟩ := hacts (Or.inr (combine_ne_noReply cmd_code buf))
      cases hdata.symm.trans hn
      refine ⟨hfits, (dispatch_inside dev cmd_code ?_).1 (Option.isSome_iff_exists.2 ⟨_, hsome⟩)⟩
      exact dataOf_inside inbuf hfits
    · rintro ⟨hfits, hgroup⟩
      obtain ⟨⟨effects, reply⟩, hsome⟩ := Option.isSome_iff_exists.1
        ((dispatch_inside dev cmd_code (dataOf_inside inbuf hfits)).2 hgroup)
      obtain ⟨buf, hbuf, rfl⟩ := hcombined _ hsome
      obtain ⟨hret, haccepted⟩ := combine_accepted cmd_code (hbuf.trans (by decide))
      exact ⟨effects, _, hsome, hret, fun _ => ⟨hok, data_len, hdata, hfits⟩,
        fun _ => ⟨haccepted, cmd_code, buf, rfl⟩⟩

/-- a device with nothing configured -/
def bareDevice : Device where
  bulitInMeterParas := fun _ => 0
  builtInInputCollectorState := 0
  inputCollectorState := []
  builtInRelayState := 0
  relayModuleState := []
  gateWayId := 0
  localNetConfig := fun _ => 0
  voltage_ratio := 1
  current_ratio := 1
  meters := []
  w_year := 2020
  calendar := fun _ => 0
  connection_mode := MODE_INSIDE
  ec20Connected := false
  ethConnected := false
  csq := 0
  auto_report_plc_state := 0
  lampNumber := 0
  lampGroupList := fun _ => 0

/-- not safe: nothing at all, a time that is not there, a version that is given for a length byte of 9 without any
data, and a switch of group 10 -/
theorem frames_unsafe :
    ¬Safe bareDevice [] ∧ ¬Safe bareDevice [0x68, 0x0C, 6, 0x7A, 0x16] ∧
      ¬Safe bareDevice [0x68, 0x04, 9, 0x75, 0x16] ∧
      ¬Safe bareDevice [0x68, 0x03, 7, 1, 0xFF, 0xFF, 0, 0, 0, 10, 0x7B, 0x16] := by
  have houtside : ∀ inbuf, (handleMMIFrame bareDevice inbuf).isNone = true → ¬Safe bareDevice inbuf := by
    rintro inbuf hnone ⟨effects, reply, hsome, -⟩
    rw [hsome] at hnone
    cases hnone
  refine ⟨houtside _ rfl, houtside _ rfl, ?_, houtside _ rfl⟩
  rintro ⟨effects, reply, hsome, -, hacts, -⟩
  obtain ⟨-, data_len, hdata, hfits⟩ := hacts (Or.inr (by cases hsome; exact combine_ne_noReply _ _))
  cases hdata
  exact absurd hfits (by decide)

end DataConcentrator.FrontPanel
