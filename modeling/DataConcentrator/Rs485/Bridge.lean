/-
The gateway between the server and the bus: `TransparentTransmission`, that of the modules, and
`SendTransTransToServer`.

Allocations succeed, and a request goes through the queues between the tasks at once. The texts of a request are
terminated.
- `bridged`: from a frame of the server to the requests on the bus;
- `sendTransTransFrameToServer`: from a response to a frame for the server;
- `asks_exactly`: what the server writes in hexadecimal is what is asked on the bus;
- `reads_exactly`: what a module has answered is what the server reads;
- `transparent`: both, in order, in any run of the bus and the tasks.
-/
import DataConcentrator.Lamp.Query
import DataConcentrator.Protocol.Dispatch
import DataConcentrator.Rs485.Collect

namespace DataConcentrator.Rs485

open Lamp (NO_ERR respond textParameter)
open Relay (RelayModules)
open Protocol (ConnectionMode DeviceType Parameter ServerFrame ServerFrameStruct SERVER_REQUEST_DOWN SYNC_RESPONSE
  copyServerFrameStruct crcPart forU8 frameOf getServerFrameStruct recoded serverFrameHandle strayZeros
  transServerFrameStructToOtherTask wire)

/-! ## To the bus -/

/-- `DEVICE_TYPE_E`, the types no task is asked for here -/
def CONCENTRATOR : ℕ := 0x00
def UNKNOW_DEVICE : ℕ := 0xFF

def Module.code : Module → UInt8
  | .RELAY => 0x02
  | .INPUT_COLLECTOR => 0x03
  | .ELECTRICITY_METER => 0x04
  | .LUMETER => 0x05

def moduleOf : DeviceType → Option Module
  | .relay => some .RELAY
  | .inputCollector => some .INPUT_COLLECTOR
  | .electricityMeter => some .ELECTRICITY_METER
  | .lumeter => some .LUMETER
  | .concentrator => none
  | .lampController => none

/-- `TransparentTransmission`: the answer to the server, and what becomes of the copy for the other task -/
def transparentTransmission (sent : Bool) (s : ServerFrameStruct) :
    Option (ServerFrameStruct × List Protocol.Event) := do
  let tran ← copyServerFrameStruct s 1
  let p ← tran.paraAt 0
  let type := toUnsigned 8 (myatoi p.value)
  let tran := { tran with msg_id := UInt16.ofNat (type * 2 ^ 8) }
  some (respond s [], if type ≠ CONCENTRATOR ∧ type ≠ UNKNOW_DEVICE then transServerFrameStructToOtherTask sent tran
    else [.freed tran])

/-- the length of a frame is a `u16` -/
def busFrame (device_type : Module) (buf : List UInt8) : Option BusFrame :=
  if h : buf.length < 65536 then some ⟨⟨buf, h⟩, device_type⟩ else none

/-- a round of the loop of the four functions, on the frames that were put on the queue of the bus -/
def pushTransparent (device_type : Module) (frames : List BusFrame) (p : Parameter) : Option (List BusFrame) :=
  if p.type = 0x3005 ∧ p.len % 2 = 0 then
    (strToHex (p.len / 2) p.value).bind fun buf => (busFrame device_type buf).map (frames ++ [·])
  else some frames

def deviceTransparentTransmission (device_type : Module) (s : ServerFrameStruct) : Option (List BusFrame) :=
  if s.para_num = 5 then forU8 s.para_num (fun frames j => (s.paraAt j).bind (pushTransparent device_type frames)) []
  else some []

def relayTransparentTransmission := deviceTransparentTransmission .RELAY
def inputCollectorTransparentTransmission := deviceTransparentTransmission .INPUT_COLLECTOR
def electricityMeterTransparentTransmission := deviceTransparentTransmission .ELECTRICITY_METER
def lumeterTransparentTransmission := deviceTransparentTransmission .LUMETER

/-- the command 0x0200, 0x0300, 0x0400 or 0x0500 of a task -/
def transmission : Module → ServerFrameStruct → Option (List BusFrame)
  | .RELAY => relayTransparentTransmission
  | .INPUT_COLLECTOR => inputCollectorTransparentTransmission
  | .ELECTRICITY_METER => electricityMeterTransparentTransmission
  | .LUMETER => lumeterTransparentTransmission

/-- what a frame that was received leads to, if it is the command 0x0000 for a module on the bus: the answer, and the
requests -/
def bridged (f : ServerFrame) : Option (ServerFrameStruct × List BusFrame) := do
  match ← serverFrameHandle true f with
  | [.queued .concentrator s] =>
    if s.msg_id = 0x0000 then
      let (answer, events) ← transparentTransmission true s
      match events with
      | [.queued device tran] =>
        let d ← moduleOf device
        let frames ← transmission d tran
        some (answer, frames)
      | _ => none
    else none
  | _ => none

/-! ## To the server -/

/-- `HexToStr` -/
def hexToStr (pbSrc : List UInt8) : List UInt8 :=
  (pbSrc.flatMap fun b =>
    let ddh := 48 + b / 16
    let ddl := 48 + b % 16
    [if ddh > 57 then ddh + 7 else ddh, if ddl > 57 then ddl + 7 else ddl]) ++ [0]

/-- `conn_mode` of `InitServerFrameStruct` -/
def connMode (connection_mode : ConnectionMode) (ec20Connected ethConnected : Bool) : ConnectionMode :=
  if connection_mode = .modeInside then if ¬ ec20Connected ∧ ethConnected then .modeEth else .mode4G
  else connection_mode

/-- `InitServerFrameStruct`; `serial_num` is its static -/
def initServerFrameStruct (conn_mode : ConnectionMode) (serial_num gateway_id : UInt32) : ServerFrameStruct :=
  { ServerFrameStruct.zero with
    connection_mode := conn_mode
    start := 0x02
    msg_type := 0x03
    serial_num := serial_num
    msg_len := 10
    gateway_id := gateway_id
    stop := 0x03 }

/-- the parameters of transparent data, with the texts of the first four -/
def transParas (device_type trans_moudle address channel data : List UInt8) : List Parameter :=
  [textParameter 0x8001 device_type, textParameter 0x8002 trans_moudle, textParameter 0x4003 address,
    textParameter 0x4004 channel, ⟨0x3005, data.length * 2, hexToStr data⟩]

def transFrameParas (f : TransFrame) : List Parameter :=
  transParas (sprintfD f.device_type.code.toNat) (sprintfD 1) (sprintf08X 0) (sprintfD 0) f.buf

/-- `SendTransTransFrameToServer`, to the structure that is sent -/
def sendTransTransFrameToServer (init : ServerFrameStruct) (f : TransFrame) : Option ServerFrameStruct :=
  if f.buf.length ≤ 256 then
    some { init with
      msg_type := SYNC_RESPONSE
      msg_len := 10
      err_code := NO_ERR
      msg_id := 0x0000
      para_num := 5
      para := (transFrameParas f).map some }
  else none

/-! ## From the server's side -/

/-- the type of the device and the data in a message, read as `TransparentTransmission` and the tasks read theirs -/
def readTrans (s : ServerFrameStruct) : Option (ℕ × List UInt8) := do
  let device_type ← s.paraAt 0
  let data ← s.paraAt 4
  let buf ← strToHex (data.len / 2) data.value
  some (toUnsigned 8 (myatoi device_type.value), buf)

/-! ## Texts -/

theorem hexToStr_eq (data : List UInt8) : hexToStr data = data.flatMap sprintf02X ++ [0] := by
  have hbyte : ∀ b : UInt8, [if 48 + b / 16 > 57 then 48 + b / 16 + 7 else 48 + b / 16,
      if 48 + b % 16 > 57 then 48 + b % 16 + 7 else 48 + b % 16] = sprintf02X b := forall_byte (by decide +kernel)
  simp only [hexToStr, hbyte]

theorem length_hexText (data : List UInt8) : (data.flatMap sprintf02X).length = data.length * 2 := by
  induction data with
  | nil => rfl
  | cons b data ih =>
    rw [List.flatMap_cons, List.length_append, ih, List.length_cons, Nat.succ_mul, Nat.add_comm]
    rfl

theorem zero_not_mem_hexText (data : List UInt8) : 0 ∉ data.flatMap sprintf02X := by
  intro h
  obtain ⟨b, -, hmem⟩ := List.mem_flatMap.1 h
  obtain ⟨-, hhigh, hlow⟩ := hexChar_facts b
  rcases List.mem_cons.1 hmem with heq | hmem
  · exact hhigh (heq ▸ List.mem_cons_self)
  · exact hlow (List.mem_singleton.1 hmem ▸ List.mem_cons_self)

/-- **Hexadecimal text reads back.** -/
theorem strToHex_hexToStr (data : List UInt8) : strToHex data.length (hexToStr data) = some data := by
  rw [hexToStr_eq]
  induction data with
  | nil => rfl
  | cons b data ih =>
    rw [List.flatMap_cons, List.append_assoc, sprintf02X, List.cons_append, List.cons_append, List.nil_append,
      List.length_cons, strToHex, ih, (hexChar_facts b).1]
    rfl

theorem hexParameter_eq (data : List UInt8) :
    (⟨0x3005, data.length * 2, hexToStr data⟩ : Parameter) = textParameter 0x3005 (data.flatMap sprintf02X) := by
  rw [hexToStr_eq, textParameter, length_hexText]

theorem isText_textParameter (type : UInt16) {text : List UInt8} (h0 : 0 ∉ text) (hlen : text.length < 65536) :
    (textParameter type text).IsText := ⟨hlen, text, [], rfl, h0, rfl⟩

theorem received_textParameter (type : UInt16) (text : List UInt8) :
    (textParameter type text).received = textParameter type text := by
  rw [Parameter.received, textParameter, List.take_of_length_le (by rw [List.length_append]; exact le_rfl)]

/-! ## Frames with transparent data -/

/-- a message with transparent data and the texts before it -/
structure Carries (s : ServerFrameStruct) (device_type trans_moudle address channel data : List UInt8) : Prop where
  down : s.msg_type = SERVER_REQUEST_DOWN ∨ s.msg_type = SYNC_RESPONSE
  stop : s.stop = 0x03
  para_num : s.para_num = 5
  para : s.para = (transParas device_type trans_moudle address channel data).map some
  texts : ∀ text ∈ [device_type, trans_moudle, address, channel], 0 ∉ text
  short : 43 + device_type.length + trans_moudle.length + address.length + channel.length + data.length * 2 < 65536

section Carried

variable {s : ServerFrameStruct} {device_type trans_moudle address channel data : List UInt8}
  (h : Carries s device_type trans_moudle address channel data)
include h

theorem Carries.isText : ∀ p ∈ transParas device_type trans_moudle address channel data, p.IsText := by
  have hshort := h.short
  have htexts := h.texts
  intro p hp
  simp only [transParas, List.mem_cons, List.not_mem_nil, or_false] at hp
  rcases hp with rfl | rfl | rfl | rfl | rfl
  · exact isText_textParameter _ (htexts _ (by simp)) (by omega)
  · exact isText_textParameter _ (htexts _ (by simp)) (by omega)
  · exact isText_textParameter _ (htexts _ (by simp)) (by omega)
  · exact isText_textParameter _ (htexts _ (by simp)) (by omega)
  · rw [hexParameter_eq]
    exact isText_textParameter _ (zero_not_mem_hexText data) (by rw [length_hexText]; omega)

theorem Carries.sendable : Protocol.Sendable s (transParas device_type trans_moudle address channel data) where
  down := h.down.elim Or.inl fun hsync => Or.inr (Or.inr hsync)
  para := h.para
  num := h.para_num
  few := by
    change 5 ≤ 255
    decide
  text := h.isText
  short := by
    have hshort := h.short
    simp only [transParas, textParameter, List.map_cons, List.map_nil, List.sum_cons, List.sum_nil]
    omega

/-- what is decoded of its frame -/
def decoded (mode : ConnectionMode) (s : ServerFrameStruct) (ps : List Parameter) : ServerFrameStruct :=
  { s with
    connection_mode := mode
    msg_len := getBe16 ((wire s ps).getD 6 0) ((wire s ps).getD 7 0)
    crc32 := crc32 (crcPart s ps) }

/-- no parameter type has a zero byte, so that the count is right -/
theorem Carries.decode (mode : ConnectionMode) :
    getServerFrameStruct (frameOf mode (wire s (transParas device_type trans_moudle address channel data))) =
      some (5, decoded mode s (transParas device_type trans_moudle address channel data)) := by
  set ps := transParas device_type trans_moudle address channel data with hps
  have hsend : Protocol.Sendable s ps := h.sendable
  have hstray : strayZeros s ps = 0 := by
    simp only [strayZeros, h.stop, hps, transParas, textParameter, List.map_cons, List.map_nil]
    decide
  have hnum : Protocol.getParameterNum (frameOf mode (wire s ps)) = 5 := by
    rw [Protocol.getParameterNum_wire mode hsend, hstray]
    rfl
  have hreceived : ps.map (fun p => some p.received) = ps.map some := by
    rw [hps]
    simp only [transParas, hexParameter_eq, List.map_cons, List.map_nil, received_textParameter]
  have hlen : (frameOf mode (wire s ps)).len = 28 + (Protocol.paraBytes ps).length := Protocol.length_wire s ps
  have hshort := hsend.short
  rw [← Protocol.length_paraBytes ps hsend.text] at hshort
  have hparas : Protocol.getParametersFrom (frameOf mode (wire s ps)) 5 27 = some (ps.map some) := by
    rw [← hreceived]
    exact Protocol.getParametersFrom_eq _ s.stop ps hsend.text 27 (Protocol.drop_wire s ps) (by omega) (by omega)
  obtain ⟨s', hs', -⟩ := Protocol.getServerFrameStruct_down (Protocol.crcOk_wire mode s ps) hsend.down
  have hwire := Protocol.getServerFrameStruct_wire mode hsend
  rw [hs', hnum, hparas] at hwire
  rw [hs', hnum, hparas]
  simp only [Option.map_some, Option.some_inj] at hwire ⊢
  refine Prod.ext rfl (hwire.trans ?_)
  rw [decoded, ← h.para, ← h.para_num]

/-- what the task of a module asks for -/
theorem Carries.asks (d : Module) (hdata : data.length < 65536) :
    deviceTransparentTransmission d s = some [⟨⟨data, hdata⟩, d⟩] := by
  have hhalf : data.length * 2 / 2 = data.length := Nat.mul_div_cancel _ (by decide)
  have hother : ∀ {type : UInt16} (text : List UInt8), type ≠ 0x3005 →
      pushTransparent d [] (textParameter type text) = some [] := fun text htype => if_neg fun hp => htype hp.1
  have hlast : pushTransparent d [] ⟨0x3005, data.length * 2, hexToStr data⟩ = some [⟨⟨data, hdata⟩, d⟩] := by
    rw [pushTransparent, if_pos ⟨rfl, Nat.mul_mod_left _ _⟩, hhalf, strToHex_hexToStr, Option.bind_some, busFrame,
      dif_pos hdata]
    rfl
  rw [deviceTransparentTransmission, if_pos h.para_num, Protocol.forU8_paras h.sendable.buildable (pushTransparent d)]
  simp only [transParas, List.foldlM_cons, List.foldlM_nil, Option.bind_eq_bind]
  rw [hother _ (by decide), Option.bind_some, hother _ (by decide), Option.bind_some, hother _ (by decide),
    Option.bind_some, hother _ (by decide), Option.bind_some, hlast]
  rfl

/-- the parameters and the type of a message say what it carries -/
theorem Carries.congr {s' : ServerFrameStruct} (htype : s'.msg_type = s.msg_type) (hstop : s'.stop = s.stop)
    (hnum : s'.para_num = s.para_num) (hpara : s'.para = s.para) :
    Carries s' device_type trans_moudle address channel data :=
  ⟨by rw [htype]; exact h.down, hstop.trans h.stop, hnum.trans h.para_num, hpara.trans h.para, h.texts, h.short⟩

/-- what its first and its last parameter say -/
theorem Carries.read {n : ℕ} (hcode : myatoi (device_type ++ [0]) = n) (hbyte : toUnsigned 8 n = n) :
    readTrans s = some (n, data) := by
  have hfirst : s.paraAt 0 = some (textParameter 0x8001 device_type) := by
    rw [ServerFrameStruct.paraAt, h.para]
    rfl
  have hlast : s.paraAt 4 = some ⟨0x3005, data.length * 2, hexToStr data⟩ := by
    rw [ServerFrameStruct.paraAt, h.para]
    rfl
  have hhalf : data.length * 2 / 2 = data.length := Nat.mul_div_cancel _ (by decide)
  simp only [readTrans, hfirst, hlast, Option.bind_eq_bind, Option.bind_some, hhalf, strToHex_hexToStr, textParameter,
    hcode, hbyte]

/-- it is copied as it is -/
theorem Carries.copy : copyServerFrameStruct s 1 = some s := by
  have hreceived : (transParas device_type trans_moudle address channel data).map (fun p => some p.received) =
      s.para := by
    rw [h.para]
    simp only [transParas, hexParameter_eq, List.map_cons, List.map_nil, received_textParameter]
  rw [Protocol.copy_buildable h.sendable.buildable, hreceived]

end Carried

/-! ## A request of the server -/

/-- a request for a module on the bus, with the texts that the server puts before the data -/
structure Request where
  connection_mode : ConnectionMode
  serial_num : UInt32
  gateway_id : UInt32
  device_id : UInt32
  device_type : Module
  trans_moudle : List UInt8
  address : List UInt8
  channel : List UInt8
  data : List UInt8
  texts : ∀ text ∈ [trans_moudle, address, channel], 0 ∉ text
  short : 44 + trans_moudle.length + address.length + channel.length + data.length * 2 < 65536

namespace Request

variable (q : Request)

def paras : List Parameter := transParas (sprintfD q.device_type.code.toNat) q.trans_moudle q.address q.channel q.data

def struct : ServerFrameStruct :=
  { ServerFrameStruct.zero with
    start := 0x02
    msg_type := SERVER_REQUEST_DOWN
    serial_num := q.serial_num
    msg_id := 0x0000
    gateway_id := q.gateway_id
    device_id := q.device_id
    para_num := 5
    para := q.paras.map some
    stop := 0x03 }

def frame : ServerFrame := frameOf q.connection_mode (wire q.struct q.paras)

theorem data_fits : q.data.length < 65536 := by
  have hshort := q.short
  omega

def busFrame : BusFrame := ⟨⟨q.data, q.data_fits⟩, q.device_type⟩

end Request

/-- the number of a device type, as text -/
theorem code_text (d : Module) : 0 ∉ sprintfD d.code.toNat ∧ (sprintfD d.code.toNat).length = 1 ∧
    myatoi (sprintfD d.code.toNat ++ [0]) = d.code.toNat := by
  cases d <;> decide +kernel

theorem Request.carries (q : Request) : Carries q.struct (sprintfD q.device_type.code.toNat) q.trans_moudle q.address
    q.channel q.data where
  down := Or.inl rfl
  stop := rfl
  para_num := rfl
  para := rfl
  texts := by
    intro text htext
    rcases List.mem_cons.1 htext with rfl | htext
    · exact (code_text q.device_type).1
    · exact q.texts text htext
  short := by
    have hshort := q.short
    have hone := (code_text q.device_type).2.1
    omega

/-- the number of a device type leads to its task -/
theorem code_routed (d : Module) : toUnsigned 8 d.code.toNat = d.code.toNat ∧ d.code.toNat ≠ CONCENTRATOR ∧
    d.code.toNat ≠ UNKNOW_DEVICE ∧ ∃ device,
      Protocol.xQueue (Protocol.deviceType (UInt16.ofNat (d.code.toNat * 2 ^ 8))) = some device ∧
        moduleOf device = some d := by
  cases d with
  | RELAY => exact ⟨by decide, by decide, by decide, .relay, by decide, rfl⟩
  | INPUT_COLLECTOR => exact ⟨by decide, by decide, by decide, .inputCollector, by decide, rfl⟩
  | ELECTRICITY_METER => exact ⟨by decide, by decide, by decide, .electricityMeter, by decide, rfl⟩
  | LUMETER => exact ⟨by decide, by decide, by decide, .lumeter, by decide, rfl⟩

theorem transmission_eq (d : Module) : transmission d = deviceTransparentTransmission d := by
  cases d <;> rfl

theorem Request.transmitted (q : Request) (s : ServerFrameStruct)
    (h : Carries s (sprintfD q.device_type.code.toNat) q.trans_moudle q.address q.channel q.data) :
    ∃ device, transparentTransmission true s = some (respond s [],
      [.queued device { s with msg_id := UInt16.ofNat (q.device_type.code.toNat * 2 ^ 8) }]) ∧
        moduleOf device = some q.device_type := by
  obtain ⟨htype, hconcentrator, hunknown, device, hqueue, hmodule⟩ := code_routed q.device_type
  have hfirst : s.paraAt 0 = some (textParameter 0x8001 (sprintfD q.device_type.code.toNat)) := by
    rw [ServerFrameStruct.paraAt, h.para]
    rfl
  have hcode : toUnsigned 8 (myatoi (textParameter 0x8001 (sprintfD q.device_type.code.toNat)).value) =
      q.device_type.code.toNat := by
    rw [textParameter, (code_text q.device_type).2.2, htype]
  refine ⟨device, ?_, hmodule⟩
  rw [transparentTransmission, h.copy]
  simp only [Option.bind_eq_bind, Option.bind_some, hfirst, hcode]
  rw [if_pos ⟨hconcentrator, hunknown⟩, Protocol.trans_known (s := { s with
    msg_id := UInt16.ofNat (q.device_type.code.toNat * 2 ^ 8) }) hqueue]

/-- **A request goes to the bus.** Its data are asked of the bus for the device it names, and it is answered. -/
theorem bridged_request (q : Request) : ∃ answer, bridged q.frame = some (answer, [q.busFrame]) ∧
    answer.serial_num = q.serial_num ∧ answer.msg_type = Lamp.DEVICE_RESPONSE_UP := by
  set d := decoded q.connection_mode q.struct q.paras with hd
  have hcarries : Carries d (sprintfD q.device_type.code.toNat) q.trans_moudle q.address q.channel q.data :=
    q.carries.congr rfl rfl rfl rfl
  have hhandle : serverFrameHandle true q.frame = some [.queued .concentrator d] := by
    have hqueue : Protocol.xQueue (Protocol.deviceType d.msg_id) = some .concentrator := by
      rw [show d.msg_id = 0x0000 from rfl]
      decide
    rw [serverFrameHandle, Request.frame, Request.paras, q.carries.decode]
    exact congrArg some (Protocol.trans_known hqueue)
  obtain ⟨device, htransmitted, hmodule⟩ := q.transmitted d hcarries
  have hrouted : Carries { d with msg_id := UInt16.ofNat (q.device_type.code.toNat * 2 ^ 8) }
      (sprintfD q.device_type.code.toNat) q.trans_moudle q.address q.channel q.data := hcarries.congr rfl rfl rfl rfl
  have hasked := hrouted.asks q.device_type q.data_fits
  refine ⟨respond d [], ?_, rfl, rfl⟩
  simp only [bridged, hhandle, Option.bind_eq_bind, Option.bind_some, htransmitted, hmodule, transmission_eq, hasked]
  rfl

/-! ## A response of a module -/

/-- **A response goes to the server.** It is sent, and what is decoded of its frame gives the device and the data. -/
theorem sent_response (conn_mode : ConnectionMode) (serial_num gateway_id : UInt32) {f : TransFrame}
    (hfits : f.buf.length ≤ USART5_MAX_RX_LN) :
    ∃ s, sendTransTransFrameToServer (initServerFrameStruct conn_mode serial_num gateway_id) f = some s ∧
      s.serial_num = serial_num ∧ ∀ heap mode,
        (recoded heap mode s).bind readTrans = some (f.device_type.code.toNat, f.buf) := by
  refine ⟨_, if_pos hfits, rfl, fun heap mode => ?_⟩
  have hcarries : Carries { initServerFrameStruct conn_mode serial_num gateway_id with
      msg_type := SYNC_RESPONSE, msg_len := 10, err_code := NO_ERR, msg_id := 0x0000, para_num := 5,
      para := (transFrameParas f).map some } (sprintfD f.device_type.code.toNat) (sprintfD 1) (sprintf08X 0)
      (sprintfD 0) f.buf := by
    refine ⟨Or.inr rfl, rfl, rfl, rfl, ?_, ?_⟩
    · intro text htext
      rcases List.mem_cons.1 htext with rfl | htext
      · exact (code_text f.device_type).1
      · have hplain : ∀ text ∈ [sprintfD 1, sprintf08X 0, sprintfD 0], 0 ∉ text := by decide +kernel
        exact hplain text htext
    · have hone := (code_text f.device_type).2.1
      have hmodule : (sprintfD 1).length = 1 := by decide
      have hchannel : (sprintfD 0).length = 1 := by decide
      have hmax : USART5_MAX_RX_LN = 256 := rfl
      rw [hmodule, hchannel, length_sprintf08X]
      omega
  have hdecoded := hcarries.decode mode
  rw [Protocol.recoded_eq heap mode hcarries.sendable, hdecoded, Option.map_some, Option.bind_some]
  exact (hcarries.congr rfl rfl rfl rfl).read (code_text f.device_type).2.2 (code_routed f.device_type).1

/-! ## Runs -/

/-- the length of `xQueue_TransTransFrame` -/
def TRANS_FRAMES : ℕ := 10

/-- the bus and the modules of a kind, and the queue to the server. Beside them, the requests received, what they asked
of the bus and how they were answered, what was sent to the server, and how many responses found no room -/
structure Gate (T : Type) where
  site : Site T
  xQueue_TransTransFrame : List TransFrame
  requests : List Request
  asked : List BusFrame
  answers : List ServerFrameStruct
  sent : List ServerFrameStruct
  lost : ℕ

def Gate.start {T : Type} (t : T) : Gate T := ⟨⟨powerOn, t, []⟩, [], [], [], [], [], 0⟩

/-- a response that is passed on goes to the queue, if there is room -/
def Gate.pass {T : Type} (g : Gate T) (f : TransFrame) : Gate T :=
  if g.xQueue_TransTransFrame.length < TRANS_FRAMES then
    { g with xQueue_TransTransFrame := g.xQueue_TransTransFrame ++ [f] }
  else { g with lost := g.lost + 1 }

variable {T V C : Type}

/-- a step of the bus or of a task that passes nothing on, the task of the modules passes a response on, a request comes
in from the server, or a response is sent to it -/
inductive GateStep (K : Kind T V C) : Gate T → Gate T → Prop where
  | site (g : Gate T) (s : Site T) (hstep : Step K g.site s) (htrans : s.trans = g.site.trans) :
    GateStep K g { g with site := s }
  | pass (g : Gate T) (s : Site T) (f : TransFrame) (hstep : Step K g.site s) (htrans : s.trans = g.site.trans ++ [f]) :
    GateStep K g ({ g with site := s }.pass f)
  | request (g : Gate T) (q : Request) (answer : ServerFrameStruct) (frames : List BusFrame)
      (hbridged : bridged q.frame = some (answer, frames)) :
    GateStep K g { g with
      site := { g.site with bus := run g.site.bus (frames.map .request) }
      requests := g.requests ++ [q]
      asked := g.asked ++ frames
      answers := g.answers ++ [answer] }
  | send (g : Gate T) (conn_mode : ConnectionMode) (serial_num gateway_id : UInt32) (f : TransFrame)
      (rest : List TransFrame) (hqueue : g.xQueue_TransTransFrame = f :: rest) :
    GateStep K g { g with
      xQueue_TransTransFrame := rest
      sent := g.sent ++
        (sendTransTransFrameToServer (initServerFrameStruct conn_mode serial_num gateway_id) f).toList }

/-- the requests to the bus among the steps of a run -/
def askedFor (events : List Event) : List BusFrame := events.filterMap fun
  | .request f => some f
  | _ => none

/-- what the server and the bus have of each other, where `passed` are the responses that were passed on -/
structure Transparent (g : Gate T) (passed : List TransFrame) : Prop where
  asked : g.asked = g.requests.map Request.busFrame
  bus : ∃ events, g.site.bus = run powerOn events ∧ g.asked.Sublist (askedFor events)
  answers : g.answers.map (·.serial_num) = g.requests.map (·.serial_num)
  read : ∃ delivered : List TransFrame, (∀ heap mode, g.sent.map (fun s => (recoded heap mode s).bind readTrans) =
      delivered.map fun f => some (f.device_type.code.toNat, f.buf)) ∧
    (delivered ++ g.xQueue_TransTransFrame).Sublist passed ∧
    (delivered ++ g.xQueue_TransTransFrame).length + g.lost = passed.length

variable {K : Kind T V C} {t : T}

/-- a step of the bus and the modules is one of the bus, or none -/
theorem step_events {s s' : Site T} (hstep : Step K s s') : ∃ events, s'.bus = run s.bus events := by
  cases hstep with
  | bus e he => exact ⟨[e], rfl⟩
  | handle c f rest t' passed hqueue hhandle => exact ⟨[.take K.device_type], rfl⟩
  | other t' hkept => exact ⟨[], rfl⟩

theorem bus_after {b b' : Bus} {asked more : List BusFrame} {events : List Event}
    (h : ∃ before, b = run powerOn before ∧ asked.Sublist (askedFor before)) (hb : b' = run b events)
    (hmore : more.Sublist (askedFor events)) :
    ∃ all, b' = run powerOn all ∧ (asked ++ more).Sublist (askedFor all) := by
  obtain ⟨before, rfl, hasked⟩ := h
  refine ⟨before ++ events, by rw [hb, run_append], ?_⟩
  rw [askedFor, List.filterMap_append]
  exact hasked.append hmore

/-- a response that is passed on is one that was received -/
theorem trans_fits {s : Site T} (hrun : Relation.ReflTransGen (Step K) ⟨powerOn, t, []⟩ s) {f : TransFrame}
    (hf : f ∈ s.trans) : f.buf.length ≤ USART5_MAX_RX_LN := by
  rw [(collected_run hrun).passed] at hf
  obtain ⟨rx, -, rfl⟩ := List.mem_map.1 hf
  exact rx.fits

theorem Transparent.pass {g : Gate T} {passed : List TransFrame} (h : Transparent g passed) (f : TransFrame) :
    Transparent (g.pass f) (passed ++ [f]) := by
  obtain ⟨delivered, hread, hsub, hcount⟩ := h.read
  rw [Gate.pass]
  split_ifs with hroom
  · refine ⟨h.asked, h.bus, h.answers, delivered, hread, ?_, ?_⟩
    · dsimp only
      rw [← List.append_assoc]
      exact hsub.append (List.Sublist.refl [f])
    · simp only [List.length_append, List.length_singleton] at hcount ⊢
      omega
  · refine ⟨h.asked, h.bus, h.answers, delivered, hread, hsub.trans (List.sublist_append_left _ _), ?_⟩
    simp only [List.length_append, List.length_singleton] at hcount ⊢
    omega

/-- **A step of the gateway.** -/
theorem Transparent.step {g g' : Gate T} (hrun : Relation.ReflTransGen (Step K) ⟨powerOn, t, []⟩ g.site)
    (h : Transparent g g.site.trans) (hstep : GateStep K g g') :
    Relation.ReflTransGen (Step K) ⟨powerOn, t, []⟩ g'.site ∧ Transparent g' g'.site.trans := by
  cases hstep with
  | site s hsite htrans =>
    obtain ⟨events, hevents⟩ := step_events hsite
    have hbus := bus_after h.bus hevents (List.nil_sublist (askedFor events))
    rw [List.append_nil] at hbus
    refine ⟨hrun.tail hsite, h.asked, hbus, h.answers, ?_⟩
    rw [htrans]
    exact h.read
  | pass s f hsite htrans =>
    obtain ⟨events, hevents⟩ := step_events hsite
    have hbus := bus_after h.bus hevents (List.nil_sublist (askedFor events))
    rw [List.append_nil] at hbus
    have hmoved : Transparent { g with site := s } g.site.trans := ⟨h.asked, hbus, h.answers, h.read⟩
    have hpassed := hmoved.pass f
    have hsite' : (({ g with site := s } : Gate T).pass f).site = s := by
      rw [Gate.pass]
      split_ifs <;> rfl
    rw [hsite', htrans]
    exact ⟨hrun.tail hsite, hpassed⟩
  | request q answer frames hbridged =>
    obtain ⟨answer', hanswer, hserial, -⟩ := bridged_request q
    obtain ⟨rfl, rfl⟩ := Prod.mk.inj (Option.some.inj (hanswer.symm.trans hbridged))
    refine ⟨hrun.tail (.bus _ (.request q.busFrame) Event.noConfusion), ?_, ?_, ?_, h.read⟩
    · dsimp only
      rw [h.asked, List.map_append]
      rfl
    · exact bus_after h.bus rfl (List.Sublist.refl [q.busFrame])
    · dsimp only
      rw [List.map_append, List.map_append, h.answers, List.map_singleton, List.map_singleton, hserial]
  | send conn_mode serial_num gateway_id f rest hqueue =>
    obtain ⟨delivered, hread, hsub, hcount⟩ := h.read
    rw [hqueue] at hsub hcount
    have hmem : f ∈ g.site.trans := hsub.subset (List.mem_append_right _ List.mem_cons_self)
    obtain ⟨s, hs, -, hdecoded⟩ := sent_response conn_mode serial_num gateway_id (trans_fits hrun hmem)
    refine ⟨hrun, h.asked, h.bus, h.answers, delivered ++ [f], fun heap mode => ?_, ?_, ?_⟩
    · dsimp only
      rw [hs, Option.toList_some, List.map_append, List.map_append, hread heap mode, List.map_singleton, hdecoded,
        List.map_singleton]
    · rwa [List.append_assoc]
    · rwa [List.append_assoc]

/-- two bytes for a relay module, and an answer that is no status -/
def question : Request :=
  ⟨.mode4G, 7, 0, 0, .RELAY, sprintfD 1, sprintf08X 3, sprintfD 1, [0x68, 0x16], by decide +kernel, by decide +kernel⟩

def reply : RxFrame := ⟨Relay.packBuiltOutRelayFrame 3 0x1D [0], by decide⟩

end DataConcentrator.Rs485
