/-
The address of the server: `SetBasicConfiguration` stores its text and its port, and derives `remote_ip` from the text.

The answer, and the two calls that store the configurations, are left out: with `reset` 0 these change checksums only.
A read or write outside a buffer is `none`.
- `remoteOctet_quad`: each of the four scans begins at the start of the text and runs to its end, so that each gives
  the first number;
- `address_iff`: an address is derived as it stands exactly when it is short and its four numbers are one.
-/
import DataConcentrator.Common.Reader
import DataConcentrator.Protocol.ServerFrame

namespace DataConcentrator.Concentrator

open Protocol (Parameter ServerFrameStruct forU8)

/-! ## `SetBasicConfiguration` -/

/-- `ConcentratorBasicConfig_S` without its checksum -/
structure BasicConfig where
  connection_mode : UInt8
  server_ip : Fin 31 → UInt8
  server_port : Fin 6 → UInt8
  heartbeat_cycle : UInt16
  electric_energy_collection_cycle : UInt16
  electric_energy_recording_time : UInt8
  cupboard_alarm_collection_cycle : UInt16
  cupboard_alarm_recording_time : UInt8
  command_response_timeout : UInt16
  command_retransmission_times : UInt8
  heartbeat_response_timeout : UInt16
  heartbeat_retransmission_times : UInt8
  operation_password : Fin 7 → UInt8
  manufacturer_name : Fin 33 → UInt8
  manufacturer_website : Fin 33 → UInt8

/-- the fields of `ConcentratorLocalNetConfig_S` that are derived -/
structure LocalNetConfig where
  connection_mode : UInt8
  remote_ip : Fin 4 → UInt8
  remote_port : UInt16

/-- a number stored in a `u16` -/
def u16Of (text : List UInt8) : UInt16 := UInt16.ofNat (toUnsigned 16 (myatoi text))

/-- `memset` of a field and `memcpy` of a value into it -/
def fill (n : ℕ) (p : Parameter) : Option (Fin n → UInt8) :=
  if p.len ≤ n ∧ p.len ≤ p.value.length then some fun i => if i.val < p.len then p.value.getD i.val 0 else 0 else none

/-- one parameter of the message -/
def setBasicParameter (config : BasicConfig) (p : Parameter) : Option BasicConfig :=
  let text := cstr p.value
  if p.type = 0x8001 then some { config with connection_mode := u8Of text }
  else if p.type = 0x4002 then (fill 31 p).map fun server_ip => { config with server_ip }
  else if p.type = 0x7003 then (fill 6 p).map fun server_port => { config with server_port }
  else if p.type = 0x8004 then some { config with heartbeat_cycle := u16Of text }
  else if p.type = 0x8005 then some { config with electric_energy_collection_cycle := u16Of text }
  else if p.type = 0x8006 then some { config with electric_energy_recording_time := u8Of text }
  else if p.type = 0x8007 then some { config with cupboard_alarm_collection_cycle := u16Of text }
  else if p.type = 0x8008 then some { config with cupboard_alarm_recording_time := u8Of text }
  else if p.type = 0x8009 then some { config with command_response_timeout := u16Of text }
  else if p.type = 0x800A then some { config with command_retransmission_times := u8Of text }
  else if p.type = 0x800B then some { config with heartbeat_response_timeout := u16Of text }
  else if p.type = 0x800C then some { config with heartbeat_retransmission_times := u8Of text }
  else if p.type = 0x400D then (fill 7 p).map fun operation_password => { config with operation_password }
  else if p.type = 0x400E then (fill 33 p).map fun manufacturer_name => { config with manufacturer_name }
  else if p.type = 0x400F then (fill 33 p).map fun manufacturer_website => { config with manufacturer_website }
  else some config

/-- the loop over the parameters -/
def setBasicParameters (s : ServerFrameStruct) (config : BasicConfig) : Option BasicConfig :=
  forU8 s.para_num (fun config j => (s.paraAt j).bind (setBasicParameter config)) config

/-- `char tmp[10]` of `SetBasicConfiguration` -/
def addressSize : ℕ := 10

/-- one of the scans: from the start of `server_ip` to a comma or the terminator -/
def remoteOctet (config : BasicConfig) : Option UInt8 :=
  (TextScan.scan addressSize (fun b => b = 0x2C || b = 0) (List.ofFn config.server_ip)).map fun s => u8Of s.1

def leBytes (n : UInt16) : List UInt8 := [n.toUInt8, (n >>> 8).toUInt8]

/-- the memory from `server_port` on -/
def fromServerPort (config : BasicConfig) : List UInt8 :=
  List.ofFn config.server_port ++ leBytes config.heartbeat_cycle ++ leBytes config.electric_energy_collection_cycle ++
    [config.electric_energy_recording_time] ++ leBytes config.cupboard_alarm_collection_cycle ++
    [config.cupboard_alarm_recording_time] ++ leBytes config.command_response_timeout ++
    [config.command_retransmission_times] ++ leBytes config.heartbeat_response_timeout ++
    [config.heartbeat_retransmission_times] ++ List.ofFn config.operation_password ++
    List.ofFn config.manufacturer_name ++ List.ofFn config.manufacturer_website

def deriveAddress (config : BasicConfig) : Option LocalNetConfig := do
  let ip0 ← remoteOctet config
  let ip1 ← remoteOctet config
  let ip2 ← remoteOctet config
  let ip3 ← remoteOctet config
  some
    { connection_mode := config.connection_mode
      remote_ip := ![ip0, ip1, ip2, ip3]
      remote_port := u16Of (cstr (fromServerPort config)) }

def setBasicConfiguration (s : ServerFrameStruct) (config : BasicConfig) : Option (BasicConfig × LocalNetConfig) := do
  let config ← setBasicParameters s config
  let net ← deriveAddress config
  some (config, net)

/-! ## Dotted quads -/

/-- the text of a number of at most `most` -/
structure Decimal (most : ℤ) (text : List UInt8) : Prop where
  ne_nil : text ≠ []
  digits : ∀ x ∈ text, myisdigit x = true
  le : digitValue text ≤ most

/-- `a.b.c.d` -/
def quadText (octet : Fin 4 → List UInt8) : List UInt8 :=
  octet 0 ++ 0x2E :: (octet 1 ++ 0x2E :: (octet 2 ++ 0x2E :: octet 3))

/-- a field holds a text and its terminator -/
def Holds {n : ℕ} (field : Fin n → UInt8) (text : List UInt8) : Prop := ∃ rest, List.ofFn field = text ++ 0 :: rest

theorem digit_ne {x : UInt8} (h : myisdigit x = true) : x ≠ 0x2C ∧ x ≠ 0 := by
  refine ⟨?_, ?_⟩ <;> rintro rfl <;> exact absurd h (by decide)

theorem quadText_plain {octet : Fin 4 → List UInt8} (h : ∀ i, Decimal 255 (octet i)) :
    ∀ x ∈ quadText octet, x ≠ 0x2C ∧ x ≠ 0 := by
  intro x hx
  have hdot : (0x2E : UInt8) ≠ 0x2C ∧ (0x2E : UInt8) ≠ 0 := by decide
  simp only [quadText, List.mem_append, List.mem_cons] at hx
  rcases hx with hx | rfl | hx | rfl | hx | rfl | hx
  · exact digit_ne ((h 0).digits x hx)
  · exact hdot
  · exact digit_ne ((h 1).digits x hx)
  · exact hdot
  · exact digit_ne ((h 2).digits x hx)
  · exact hdot
  · exact digit_ne ((h 3).digits x hx)

/-- the number a quad begins with -/
theorem u8Of_quadText {octet : Fin 4 → List UInt8} (h : ∀ i, Decimal 255 (octet i)) :
    u8Of (quadText octet) = UInt8.ofNat (digitValue (octet 0)).toNat := by
  have hstop : ∀ b ∈ (0x2E :: (octet 1 ++ 0x2E :: (octet 2 ++ 0x2E :: octet 3))).head?, myisdigit b = false := by
    intro b hb
    cases hb
    decide
  have hnumber : myatoi (quadText octet) = digitValue (octet 0) := myatoi_upTo (h 0).ne_nil (h 0).digits hstop
  have hnonneg := digitValue_nonneg (h 0).digits
  have hle := (h 0).le
  have hword : toUnsigned 8 (digitValue (octet 0)) = (digitValue (octet 0)).toNat := by
    unfold toUnsigned
    omega
  rw [u8Of, hnumber, hword]

/-- **Four times the first number.** A scan passes the dots, and overflows `tmp` where the text is as long as it. -/
theorem remoteOctet_quad {config : BasicConfig} {octet : Fin 4 → List UInt8} (h : ∀ i, Decimal 255 (octet i))
    (hip : Holds config.server_ip (quadText octet)) :
    remoteOctet config = if (quadText octet).length ≤ 9 then some (UInt8.ofNat (digitValue (octet 0)).toNat) else none := by
  obtain ⟨rest, hrest⟩ := hip
  have hplain : ∀ x ∈ quadText octet, (decide (x = 0x2C) || decide (x = 0)) = false := by
    intro x hx
    obtain ⟨hcomma, hzero⟩ := quadText_plain h x hx
    simp [hcomma, hzero]
  rw [remoteOctet, hrest, TextScan.scan_upTo (by decide) hplain]
  simp only [addressSize, Nat.lt_succ_iff]
  split_ifs
  · rw [Option.map_some, u8Of_quadText h]
  · rfl

/-- numbers up to 255 are told apart as bytes -/
theorem octet_inj {a b : List UInt8} (ha : Decimal 255 a) (hb : Decimal 255 b)
    (heq : UInt8.ofNat (digitValue a).toNat = UInt8.ofNat (digitValue b).toNat) : digitValue a = digitValue b := by
  have hapos := digitValue_nonneg ha.digits
  have hbpos := digitValue_nonneg hb.digits
  have hale := ha.le
  have hble := hb.le
  rw [← UInt8.toNat_inj, UInt8.toNat_ofNat', UInt8.toNat_ofNat'] at heq
  omega

/-- the port is read to its terminator -/
theorem port_of {config : BasicConfig} {port : List UInt8} (hport : Decimal 65535 port)
    (hp : Holds config.server_port port) :
    u16Of (cstr (fromServerPort config)) = UInt16.ofNat (digitValue port).toNat := by
  obtain ⟨rest, hrest⟩ := hp
  have hplain : (0 : UInt8) ∉ port := fun h0 => (digit_ne (hport.digits 0 h0)).2 rfl
  have htext : cstr (fromServerPort config) = port := by
    simp only [fromServerPort, hrest, List.append_assoc, List.cons_append]
    exact cstr_text hplain _
  have hnonneg := digitValue_nonneg hport.digits
  have hle := hport.le
  have hword : toUnsigned 16 (digitValue port) = (digitValue port).toNat := by
    unfold toUnsigned
    omega
  rw [u16Of, htext, myatoi_digits hport.ne_nil hport.digits, hword]

/-- **The derived address.** It is the address of the text for short texts of four equal numbers only. -/
theorem address_iff {s : ServerFrameStruct} {config config' : BasicConfig}
    (hset : setBasicParameters s config = some config') {octet : Fin 4 → List UInt8} (h : ∀ i, Decimal 255 (octet i))
    (hip : Holds config'.server_ip (quadText octet)) {port : List UInt8} (hport : Decimal 65535 port)
    (hp : Holds config'.server_port port) :
    (∃ net, setBasicConfiguration s config = some (config', net) ∧
      (∀ i, net.remote_ip i = UInt8.ofNat (digitValue (octet i)).toNat) ∧
      net.remote_port = UInt16.ofNat (digitValue port).toNat) ↔
    (quadText octet).length ≤ 9 ∧ ∀ i, digitValue (octet i) = digitValue (octet 0) := by
  have hoctet := remoteOctet_quad h hip
  by_cases hlen : (quadText octet).length ≤ 9
  · rw [if_pos hlen] at hoctet
    have hfour : ∀ b : UInt8, ![b, b, b, b] = fun _ => b := by
      intro b
      funext i
      fin_cases i <;> rfl
    have hrun : setBasicConfiguration s config = some (config', ⟨config'.connection_mode,
        fun _ => UInt8.ofNat (digitValue (octet 0)).toNat, UInt16.ofNat (digitValue port).toNat⟩) := by
      simp only [setBasicConfiguration, hset, deriveAddress, hoctet, port_of hport hp, hfour, Option.bind_eq_bind,
        Option.bind_some]
    rw [hrun]
    constructor
    · rintro ⟨net, hnet, hremote, -⟩
      cases hnet
      exact ⟨hlen, fun i => octet_inj (h i) (h 0) (hremote i).symm⟩
    · rintro ⟨-, hsame⟩
      refine ⟨_, rfl, fun i => ?_, rfl⟩
      rw [hsame i]
  · rw [if_neg hlen] at hoctet
    have hrun : setBasicConfiguration s config = none := by
      simp only [setBasicConfiguration, hset, deriveAddress, hoctet, Option.bind_eq_bind, Option.bind_some,
        Option.bind_none]
    rw [hrun]
    refine iff_of_false ?_ fun h => hlen h.1
    rintro ⟨net, hnet, -⟩
    cases hnet

/-! ## Messages -/

/-- a message with an address and a port; the values carry their terminators -/
def addressMessage (address port : List UInt8) : ServerFrameStruct :=
  { ServerFrameStruct.zero with
    para_num := 2
    para := [some ⟨0x4002, address.length, address ++ [0]⟩, some ⟨0x7003, port.length, port ++ [0]⟩] }

def blankConfig : BasicConfig :=
  ⟨0, fun _ => 0, fun _ => 0, 0, 0, 0, 0, 0, 0, 0, 0, 0, fun _ => 0, fun _ => 0, fun _ => 0⟩

/-- `8.8.8.8` and `7703` -/
def eights : ServerFrameStruct :=
  addressMessage [0x38, 0x2E, 0x38, 0x2E, 0x38, 0x2E, 0x38] [0x37, 0x37, 0x30, 0x33]

/-- the basic configuration after it -/
def eightsConfig : BasicConfig := (setBasicParameters eights blankConfig).getD blankConfig

theorem address_of_eights : ∃ net, setBasicConfiguration eights blankConfig = some (eightsConfig, net) ∧
    (∀ i, net.remote_ip i = 8) ∧ net.remote_port = 7703 := by
  have hset : setBasicParameters eights blankConfig = some eightsConfig := rfl
  have hip : Holds eightsConfig.server_ip (quadText fun _ => [0x38]) := ⟨List.replicate 23 0, rfl⟩
  have hp : Holds eightsConfig.server_port [0x37, 0x37, 0x30, 0x33] := ⟨[0], rfl⟩
  obtain ⟨net, hnet, hremote, hport⟩ := (address_iff hset
    (fun _ => ⟨by decide, List.all_iff_forall_prop.1 (by decide), by decide⟩) hip
    ⟨by decide, List.all_iff_forall_prop.1 (by decide), by decide⟩ hp).2 ⟨by decide, fun _ => rfl⟩
  exact ⟨net, hnet, hremote, hport⟩

/-- `10.0.0.1` becomes `10.10.10.10`, and the default address of the source overflows `tmp` -/
theorem address_wrong :
    (setBasicConfiguration (addressMessage [0x31, 0x30, 0x2E, 0x30, 0x2E, 0x30, 0x2E, 0x31] [0x38, 0x30])
      blankConfig).map (fun c => [c.2.remote_ip 0, c.2.remote_ip 1, c.2.remote_ip 2, c.2.remote_ip 3]) =
        some [10, 10, 10, 10] ∧
    (setBasicConfiguration (addressMessage [0x31, 0x30, 0x33, 0x2E, 0x34, 0x38, 0x2E, 0x32, 0x33, 0x32, 0x2E, 0x31, 0x31,
      0x39] [0x37, 0x37, 0x30, 0x33]) blankConfig).isNone = true := by
  decide

end DataConcentrator.Concentrator
