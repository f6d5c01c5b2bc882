/-
The states collected over the bus: `RelayRecvAndHandleDeviceFrame` and `InputCollectorRecvAndHandleDeviceFrame`.

The tasks of the modules take responses while the bus goes on and other tasks write commands. A response that is read
past has no step here.
- `Kind`: what the two tasks have in common, and `relays` and `collectors`, which are of it;
- `collected_run`: a table that only reports change;
- `statuses_collected`: in any run, what a module is said to report is what came in last with its address in a whole
  status frame of its kind, and every other response is passed on as it came.
-/
import DataConcentrator.Lib.Reports
import DataConcentrator.Relay.Commands
import DataConcentrator.Rs485.Bus

namespace DataConcentrator.Rs485

open BuiltOut (RelayCollectState InputCollectState Framed Header word analysisBuiltOutRelayFrame
  analysisBuiltOutInputCollectorFrame)
open Relay (RelayModules RelayModuleState SameLoops)

/-! ## The tasks -/

/-- `TransTransmissionFrame_S`, as the tasks of the modules fill it; its address and its channel are zero, and its
`trans_moudle` is one -/
structure TransFrame where
  device_type : Module
  buf : List UInt8
deriving DecidableEq, Repr

/-- `InputCollectorState_S`, as far as received frames read or write it; an analog state is the eight bytes of a double -/
structure InputCollectorState where
  address : UInt8
  channel : UInt8
  d_current_state : UInt16
  a_current_state : ℕ → List UInt8

/-- `InputCollectorConfigNum` and `InputCollectorState` -/
structure InputCollectors where
  number : ℕ
  state : ℕ → InputCollectorState

/-- the first module of a table with an address and a channel -/
def findState (number : ℕ) (key : ℕ → UInt8 × UInt8) (address channel : UInt8) : Option ℕ :=
  (List.range number).find? fun i => key i = (address, channel)

def relayCollected (v : UInt16) (ms : RelayModules) (i : ℕ) : RelayModules :=
  ms.set i fun s => { s with loop_collect_state := v }

def collectorCollected (c : InputCollectState) (ms : InputCollectors) (i : ℕ) : InputCollectors :=
  let s := ms.state i
  { ms with state := Function.update ms.state i { s with
      d_current_state := c.d_collect_state
      a_current_state := Function.update (Function.update s.a_current_state 0 (c.a_collect_state 0)) 1
        (c.a_collect_state 1) } }

/-- what is left of a response that was taken off the queue: the table, and the frame to pass on to the server;
`collect_state` is what the local variable holds before -/
def relayRecvAndHandleDeviceFrame (collect_state : RelayCollectState) (ms : RelayModules) (buf : List UInt8) :
    Option (RelayModules × Option TransFrame) := do
  let (ret, collect_state) ← analysisBuiltOutRelayFrame buf collect_state
  if ret = 1 then
    if collect_state.update = 1 then
      match findState ms.number (fun i => ((ms.state i).address, (ms.state i).channel)) collect_state.address
        collect_state.channel with
      | some i => some (relayCollected collect_state.loop_collect_state ms i, none)
      | none => some (ms, none)
    else some (ms, none)
  else some (ms, some ⟨.RELAY, buf⟩)

def inputCollectorRecvAndHandleDeviceFrame (collect_state : InputCollectState) (ms : InputCollectors)
    (buf : List UInt8) : Option (InputCollectors × Option TransFrame) := do
  let (ret, collect_state) ← analysisBuiltOutInputCollectorFrame buf collect_state
  if ret = 1 then
    if collect_state.update = 1 then
      match findState ms.number (fun i => ((ms.state i).address, (ms.state i).channel)) collect_state.address
        collect_state.channel with
      | some i => some (collectorCollected collect_state ms i, none)
      | none => some (ms, none)
    else some (ms, none)
  else some (ms, some ⟨.INPUT_COLLECTOR, buf⟩)

/-! ## What they have in common -/

section Status

variable {V : Type} (cmd data_len : UInt8) (n : ℕ) (read : List UInt8 → V) (buf : List UInt8)

/-- a closed frame with the command of the status of a kind of module, and all of its data -/
structure Whole : Prop where
  framed : Framed buf
  cmd_code : buf[27]? = some cmd
  data_len : buf[28]? = some data_len
  long : n ≤ buf.length

open Classical in
/-- the module that a whole status frame names, by its address and the channel of the modules on the bus, and what it
reports -/
noncomputable def status : Option ((UInt8 × UInt8) × V) :=
  if Whole cmd data_len n buf then some ((buf.getD 26 0, 1), read buf) else none

variable {cmd data_len n read buf}

theorem status_eq (h : Whole cmd data_len n buf) : status cmd data_len n read buf = some ((buf.getD 26 0, 1), read buf) :=
  if_pos h

theorem status_none (h : ¬ Whole cmd data_len n buf) : status cmd data_len n read buf = none := if_neg h

end Status

/-- a table of modules and the task that takes the responses to its polls: a response is a report, which goes to the
first module it names, or it is passed on -/
structure Kind (T V C : Type) where
  device_type : Module
  number : T → ℕ
  key : T → ℕ → UInt8 × UInt8
  value : T → ℕ → V
  report : List UInt8 → Option ((UInt8 × UInt8) × V)
  handle : C → T → List UInt8 → Option (T × Option TransFrame)
  handled : ∀ (c : C) (t t' : T) (f : RxFrame) (passed : Option TransFrame), handle c t f.buf = some (t', passed) →
    number t' = number t ∧ key t' = key t ∧
      match report f.buf with
      | some r => value t' = Reports.store (key t) (number t) (value t) r ∧ passed = none
      | none => value t' = value t ∧ passed = some ⟨device_type, f.buf⟩

/-- the first module that a report names takes it -/
theorem report_stores {T V : Type} (number : T → ℕ) (key : T → ℕ → UInt8 × UInt8) (value : T → ℕ → V) (t : T)
    (set : ℕ → T) (v : V) (hnumber : ∀ i, number (set i) = number t) (hkey : ∀ i, key (set i) = key t)
    (hvalue : ∀ i, value (set i) = Function.update (value t) i v) (k : UInt8 × UInt8) :
    ∃ t', (match findState (number t) (key t) k.1 k.2 with
        | some i => some (set i, (none : Option TransFrame))
        | none => some (t, none)) = some (t', none) ∧
      number t' = number t ∧ key t' = key t ∧ value t' = Reports.store (key t) (number t) (value t) (k, v) := by
  have hfind : findState (number t) (key t) k.1 k.2 = Reports.find (key t) (number t) k := rfl
  rw [hfind, Reports.store]
  cases Reports.find (key t) (number t) k with
  | none => exact ⟨t, rfl, rfl, rfl, rfl⟩
  | some i => exact ⟨set i, rfl, hnumber i, hkey i, hvalue i⟩

def RxFrame.toFrame (f : RxFrame) : BuiltOut.Rs485Frame := ⟨f.buf, f.fits.trans_lt (by decide)⟩

/-- a response that is not read past reaches its length field -/
theorem header_of_head {f : BuiltOut.Rs485Frame} (h : BuiltOut.analysisHead f.buf ≠ none) :
    ∃ address cmd_code data_len, Header f.buf address cmd_code data_len := by
  refine BuiltOut.exists_header (Nat.le_of_not_lt fun hshort => ?_)
  exact h (BuiltOut.analysisHead_short hshort)

theorem getD_address {buf : List UInt8} {address cmd_code data_len : UInt8} (h : Header buf address cmd_code data_len) :
    buf.getD 26 0 = address := by
  rw [List.getD_eq_getElem?_getD, h.address]
  rfl

theorem whole_iff {buf : List UInt8} {address cmd_code data_len : UInt8} (h : Header buf address cmd_code data_len)
    (cmd len : UInt8) (n : ℕ) : Whole cmd len n buf ↔ Framed buf ∧ (cmd_code = cmd ∧ data_len = len) ∧ n ≤ buf.length := by
  constructor
  · rintro ⟨hframed, hcmd, hlen, hlong⟩
    rw [h.cmd_code, Option.some_inj] at hcmd
    rw [h.data_len, Option.some_inj] at hlen
    exact ⟨hframed, ⟨hcmd, hlen⟩, hlong⟩
  · rintro ⟨hframed, ⟨rfl, rfl⟩, hlong⟩
    exact ⟨hframed, h.cmd_code, h.data_len, hlong⟩

/-! ## The relay modules -/

/-- the states of the loops in a status frame -/
def loopsOf (buf : List UInt8) : UInt16 := word (buf.getD 29 0) (buf.getD 30 0)

noncomputable def relayReport (buf : List UInt8) : Option ((UInt8 × UInt8) × UInt16) := status 0xD0 7 31 loopsOf buf

/-- the two outcomes of a response that is not read past -/
theorem relay_analysis {f : RxFrame} {c c' : RelayCollectState} {ret : UInt8}
    (h : analysisBuiltOutRelayFrame f.buf c = some (ret, c')) :
    (ret = 1 ∧ c'.update = 1 ∧ relayReport f.buf = some ((c'.address, c'.channel), c'.loop_collect_state)) ∨
      ret ≠ 1 ∧ relayReport f.buf = none := by
  obtain ⟨address, cmd_code, data_len, hhead⟩ := header_of_head (f := f.toFrame) fun hnone => by
    rw [analysisBuiltOutRelayFrame, show BuiltOut.analysisHead f.buf = none from hnone] at h
    exact Option.some_ne_none _ h.symm
  have hwhole : Whole 0xD0 7 31 f.buf ↔ Framed f.buf ∧ (cmd_code = 0xD0 ∧ data_len = 7) ∧ 31 ≤ f.buf.length :=
    whole_iff hhead 0xD0 7 31
  have haddress : f.buf.getD 26 0 = address := getD_address hhead
  by_cases hframed : Framed f.buf
  · have heq := BuiltOut.relay_framed (f := f.toFrame) hhead hframed c
    rw [show f.toFrame.buf = f.buf from rfl, h] at heq
    by_cases hcode : cmd_code = 0xD0 ∧ data_len = 7
    · rw [if_pos hcode] at heq
      by_cases hlong : 31 ≤ f.buf.length
      · rw [if_pos hlong, Option.some_inj] at heq
        obtain ⟨rfl, rfl⟩ := Prod.mk.inj heq
        refine Or.inl ⟨rfl, rfl, ?_⟩
        rw [relayReport, status_eq (hwhole.2 ⟨hframed, hcode, hlong⟩), haddress]
        rfl
      · rw [if_neg hlong] at heq
        exact absurd heq (Option.some_ne_none _)
    · rw [if_neg hcode, Option.some_inj] at heq
      obtain ⟨rfl, -⟩ := Prod.mk.inj heq
      exact Or.inr ⟨by decide, status_none fun hw => hcode (hwhole.1 hw).2.1⟩
  · have heq := BuiltOut.relay_refused (f := f.toFrame) hhead hframed c
    rw [show f.toFrame.buf = f.buf from rfl, h, Option.some_inj] at heq
    obtain ⟨rfl, -⟩ := Prod.mk.inj heq
    exact Or.inr ⟨by decide, status_none fun hw => hframed (hwhole.1 hw).1⟩

def relayKey (ms : RelayModules) (i : ℕ) : UInt8 × UInt8 := ((ms.state i).address, (ms.state i).channel)

theorem relay_set (v : UInt16) (ms : RelayModules) (i : ℕ) :
    relayKey (relayCollected v ms i) = relayKey ms ∧
      (fun j => ((relayCollected v ms i).state j).loop_collect_state) =
        Function.update (fun j => (ms.state j).loop_collect_state) i v := by
  refine ⟨funext fun j => ?_, funext fun j => ?_⟩
  · by_cases hj : j = i
    · subst hj
      rw [relayKey, relayCollected, Relay.set_state_self]
      rfl
    · rw [relayKey, relayCollected, Relay.set_state_of_ne _ _ hj]
      rfl
  · by_cases hj : j = i
    · subst hj
      rw [relayCollected, Relay.set_state_self, Function.update_self]
    · rw [relayCollected, Relay.set_state_of_ne _ _ hj, Function.update_of_ne hj]

noncomputable def relays : Kind RelayModules UInt16 RelayCollectState where
  device_type := .RELAY
  number := RelayModules.number
  key := relayKey
  value ms i := (ms.state i).loop_collect_state
  report := relayReport
  handle := relayRecvAndHandleDeviceFrame
  handled c ms ms' f passed h := by
    rw [relayRecvAndHandleDeviceFrame] at h
    obtain ⟨⟨ret, c'⟩, hanalysis, hrest⟩ := Option.bind_eq_some_iff.1 h
    rcases relay_analysis hanalysis with ⟨rfl, hupdate, hreport⟩ | ⟨hret, hreport⟩
    · obtain ⟨ms'', hstore, hnumber, hkey, hvalue⟩ := report_stores RelayModules.number relayKey
        (fun ms i => (ms.state i).loop_collect_state) ms (relayCollected c'.loop_collect_state ms) _ (fun _ => rfl)
        (fun i => (relay_set c'.loop_collect_state ms i).1) (fun i => (relay_set c'.loop_collect_state ms i).2)
        (c'.address, c'.channel)
      dsimp only at hrest
      rw [if_pos rfl, if_pos hupdate] at hrest
      obtain ⟨rfl, rfl⟩ := Prod.mk.inj (Option.some.inj (hstore.symm.trans hrest))
      rw [hreport]
      exact ⟨hnumber, hkey, hvalue, rfl⟩
    · dsimp only at hrest
      rw [if_neg hret] at hrest
      obtain ⟨rfl, rfl⟩ := Prod.mk.inj (Option.some.inj hrest)
      rw [hreport]
      exact ⟨rfl, rfl, rfl, rfl⟩

/-! ## The input collectors -/

/-- the states of the inputs in a status frame -/
def inputsOf (buf : List UInt8) : UInt16 × List UInt8 × List UInt8 :=
  (word (buf.getD 29 0) (buf.getD 30 0), (buf.drop 31).take 8, (buf.drop 39).take 8)

noncomputable def collectorReport (buf : List UInt8) : Option ((UInt8 × UInt8) × (UInt16 × List UInt8 × List UInt8)) :=
  status 0xE0 21 47 inputsOf buf

/-- what is collected of the inputs of a module -/
def collectedInputs (c : InputCollectState) : UInt16 × List UInt8 × List UInt8 :=
  (c.d_collect_state, c.a_collect_state 0, c.a_collect_state 1)

def InputCollectorState.inputs (s : InputCollectorState) : UInt16 × List UInt8 × List UInt8 :=
  (s.d_current_state, s.a_current_state 0, s.a_current_state 1)

theorem collector_analysis {f : RxFrame} {c c' : InputCollectState} {ret : UInt8}
    (h : analysisBuiltOutInputCollectorFrame f.buf c = some (ret, c')) :
    (ret = 1 ∧ c'.update = 1 ∧ collectorReport f.buf = some ((c'.address, c'.channel), collectedInputs c')) ∨
      ret ≠ 1 ∧ collectorReport f.buf = none := by
  obtain ⟨address, cmd_code, data_len, hhead⟩ := header_of_head (f := f.toFrame) fun hnone => by
    rw [analysisBuiltOutInputCollectorFrame, show BuiltOut.analysisHead f.buf = none from hnone] at h
    exact Option.some_ne_none _ h.symm
  have hwhole : Whole 0xE0 21 47 f.buf ↔ Framed f.buf ∧ (cmd_code = 0xE0 ∧ data_len = 21) ∧ 47 ≤ f.buf.length :=
    whole_iff hhead 0xE0 21 47
  have haddress : f.buf.getD 26 0 = address := getD_address hhead
  by_cases hframed : Framed f.buf
  · have heq := BuiltOut.collector_framed (f := f.toFrame) hhead hframed c
    rw [show f.toFrame.buf = f.buf from rfl, h] at heq
    by_cases hcode : cmd_code = 0xE0 ∧ data_len = 21
    · rw [if_pos hcode] at heq
      by_cases hlong : 47 ≤ f.buf.length
      · rw [if_pos hlong, Option.some_inj] at heq
        obtain ⟨rfl, rfl⟩ := Prod.mk.inj heq
        refine Or.inl ⟨rfl, rfl, ?_⟩
        rw [collectorReport, status_eq (hwhole.2 ⟨hframed, hcode, hlong⟩), haddress]
        rfl
      · rw [if_neg hlong] at heq
        exact absurd heq (Option.some_ne_none _)
    · rw [if_neg hcode, Option.some_inj] at heq
      obtain ⟨rfl, -⟩ := Prod.mk.inj heq
      exact Or.inr ⟨by decide, status_none fun hw => hcode (hwhole.1 hw).2.1⟩
  · have heq := BuiltOut.collector_refused (f := f.toFrame) hhead hframed c
    rw [show f.toFrame.buf = f.buf from rfl, h, Option.some_inj] at heq
    obtain ⟨rfl, -⟩ := Prod.mk.inj heq
    exact Or.inr ⟨by decide, status_none fun hw => hframed (hwhole.1 hw).1⟩

def collectorKey (ms : InputCollectors) (i : ℕ) : UInt8 × UInt8 := ((ms.state i).address, (ms.state i).channel)

theorem collector_set (c : InputCollectState) (ms : InputCollectors) (i : ℕ) :
    collectorKey (collectorCollected c ms i) = collectorKey ms ∧
      (fun j => ((collectorCollected c ms i).state j).inputs) =
        Function.update (fun j => (ms.state j).inputs) i (collectedInputs c) := by
  refine ⟨funext fun j => ?_, funext fun j => ?_⟩
  · by_cases hj : j = i
    · subst hj
      simp only [collectorKey, collectorCollected, Function.update_self]
    · simp only [collectorKey, collectorCollected, Function.update_of_ne hj]
  · by_cases hj : j = i
    · subst hj
      simp only [collectorCollected, Function.update_self]
      rfl
    · simp only [collectorCollected, Function.update_of_ne hj]

noncomputable def collectors : Kind InputCollectors (UInt16 × List UInt8 × List UInt8) InputCollectState where
  device_type := .INPUT_COLLECTOR
  number := InputCollectors.number
  key := collectorKey
  value ms i := (ms.state i).inputs
  report := collectorReport
  handle := inputCollectorRecvAndHandleDeviceFrame
  handled c ms ms' f passed h := by
    rw [inputCollectorRecvAndHandleDeviceFrame] at h
    obtain ⟨⟨ret, c'⟩, hanalysis, hrest⟩ := Option.bind_eq_some_iff.1 h
    rcases collector_analysis hanalysis with ⟨rfl, hupdate, hreport⟩ | ⟨hret, hreport⟩
    · obtain ⟨ms'', hstore, hnumber, hkey, hvalue⟩ := report_stores InputCollectors.number collectorKey
        (fun ms i => (ms.state i).inputs) ms (collectorCollected c' ms) _ (fun _ => rfl)
        (fun i => (collector_set c' ms i).1) (fun i => (collector_set c' ms i).2) (c'.address, c'.channel)
      dsimp only at hrest
      rw [if_pos rfl, if_pos hupdate] at hrest
      obtain ⟨rfl, rfl⟩ := Prod.mk.inj (Option.some.inj (hstore.symm.trans hrest))
      rw [hreport]
      exact ⟨hnumber, hkey, hvalue, rfl⟩
    · dsimp only at hrest
      rw [if_neg hret] at hrest
      obtain ⟨rfl, rfl⟩ := Prod.mk.inj (Option.some.inj hrest)
      rw [hreport]
      exact ⟨rfl, rfl, rfl, rfl⟩

/-! ## Runs -/

variable {T V C : Type}

/-- the bus, the table of the modules of a kind, and what was passed on to the server -/
structure Site (T : Type) where
  bus : Bus
  table : T
  trans : List TransFrame

/-- the same modules, and the modules on the bus with the states collected from them -/
structure Kept (K : Kind T V C) (t t' : T) : Prop where
  number : K.number t' = K.number t
  key : K.key t' = K.key t
  value : ∀ i, (K.key t i).2 = 1 → K.value t' i = K.value t i

/-- a step of the bus, a response that the task of the modules takes and handles, or a step of another task, which
leaves the collected states alone -/
inductive Step (K : Kind T V C) : Site T → Site T → Prop where
  | bus (s : Site T) (e : Event) (he : e ≠ .take K.device_type) : Step K s { s with bus := step s.bus e }
  | handle (s : Site T) (c : C) (f : RxFrame) (rest : List RxFrame) (t' : T) (passed : Option TransFrame)
      (hqueue : s.bus.responses K.device_type = f :: rest) (hhandle : K.handle c s.table f.buf = some (t', passed)) :
      Step K s ⟨step s.bus (.take K.device_type), t', s.trans ++ passed.toList⟩
  | other (s : Site T) (t' : T) (hkept : Kept K s.table t') : Step K s { s with table := t' }

/-- the responses that the task has handled -/
def Site.handled (K : Kind T V C) (s : Site T) : List RxFrame := s.bus.taken K.device_type

/-- what they reported, and what was passed on instead -/
def reports (K : Kind T V C) (frames : List RxFrame) : List ((UInt8 × UInt8) × V) :=
  frames.filterMap fun f => K.report f.buf

def passedOn (K : Kind T V C) (frames : List RxFrame) : List TransFrame :=
  (frames.filter fun f => (K.report f.buf).isNone).map fun f => ⟨K.device_type, f.buf⟩

/-- the table is as the reports have left it -/
structure Collected (K : Kind T V C) (t : T) (s : Site T) : Prop where
  number : K.number s.table = K.number t
  key : K.key s.table = K.key t
  value : ∀ i, (K.key t i).2 = 1 →
    K.value s.table i = ((reports K (s.handled K)).foldl (Reports.store (K.key t) (K.number t)) (K.value t)) i
  passed : s.trans = passedOn K (s.handled K)

variable {K : Kind T V C} {t : T} {s s' : Site T}

theorem collected_start (K : Kind T V C) (t : T) : Collected K t ⟨powerOn, t, []⟩ :=
  ⟨rfl, rfl, fun _ _ => rfl, rfl⟩

/-- a step of the bus that is not the task's leaves what it has taken alone -/
theorem taken_of_ne (b : Bus) {e : Event} {d : Module} (he : e ≠ .take d) : (step b e).taken d = b.taken d := by
  cases e with
  | request f =>
    rw [step]
    split_ifs <;> rfl
  | receive frame => rfl
  | turn memory hci_outbuf =>
    obtain ⟨requests, phase, rx, responses, wire, served, taken⟩ := b
    cases phase with
    | receive => cases requests <;> rfl
    | waiting f re_send_times time_out =>
      have hexpire : ∀ b : Bus, (b.expire f re_send_times time_out).taken = b.taken := by
        intro b
        simp only [Bus.expire]
        split_ifs <;> rfl
      cases rx with
      | none => exact congrFun (hexpire _) d
      | some response =>
        simp only [step, Bus.turn]
        split_ifs
        · simp only [Bus.finish, Bus.respond]
          split_ifs <;> rfl
        · exact congrFun (hexpire _) d
    | hci => cases rx <;> rfl
  | take d' =>
    rw [step]
    split
    · rfl
    · exact Function.update_of_ne (fun hd => he (by rw [hd])) _ _

theorem taken_take (b : Bus) {d : Module} {f : RxFrame} {rest : List RxFrame} (h : b.responses d = f :: rest) :
    (step b (.take d)).taken d = b.taken d ++ [f] := by
  rw [step, h]
  exact Function.update_self ..

/-- one more report, for the modules on the bus -/
theorem store_congr {key : ℕ → UInt8 × UInt8} {n i : ℕ} {c c' : ℕ → V} (h : c i = c' i) (r : (UInt8 × UInt8) × V) :
    Reports.store key n c r i = Reports.store key n c' r i := by
  rw [Reports.store_apply, Reports.store_apply, h]

theorem Collected.step (h : Collected K t s) (hstep : Step K s s') : Collected K t s' := by
  cases hstep with
  | bus e he =>
    have htaken : (Rs485.step s.bus e).taken K.device_type = s.handled K := taken_of_ne s.bus he
    exact ⟨h.number, h.key, by simpa only [Site.handled, htaken] using h.value,
      by simpa only [Site.handled, htaken] using h.passed⟩
  | handle c f rest t' passed hqueue hhandle =>
    obtain ⟨hnumber, hkey, hrest⟩ := K.handled c s.table t' f passed hhandle
    have htaken : (Rs485.step s.bus (.take K.device_type)).taken K.device_type = s.handled K ++ [f] :=
      taken_take s.bus hqueue
    refine ⟨hnumber.trans h.number, hkey.trans h.key, fun i hi => ?_, ?_⟩
    · simp only [Site.handled, htaken, reports, List.filterMap_append]
      cases hreport : K.report f.buf with
      | some r =>
        rw [hreport] at hrest
        simp only [List.filterMap_cons, hreport, List.filterMap_nil, List.foldl_append, List.foldl_cons, List.foldl_nil]
        rw [hrest.1, h.key, h.number]
        exact store_congr (h.value i hi) r
      | none =>
        rw [hreport] at hrest
        simp only [List.filterMap_cons, hreport, List.filterMap_nil, List.append_nil]
        rw [hrest.1]
        exact h.value i hi
    · simp only [Site.handled, htaken, passedOn, List.filter_append, List.map_append]
      rw [h.passed]
      cases hreport : K.report f.buf with
      | some r =>
        rw [hreport] at hrest
        rw [hrest.2, List.filter_cons_of_neg (by rw [hreport]; exact Bool.false_ne_true)]
        rfl
      | none =>
        rw [hreport] at hrest
        rw [hrest.2, List.filter_cons_of_pos (by rw [hreport]; rfl)]
        rfl
  | other t' hkept =>
    refine ⟨hkept.number.trans h.number, hkept.key.trans h.key, fun i hi => ?_, h.passed⟩
    exact (hkept.value i (by rw [h.key]; exact hi)).trans (h.value i hi)

theorem collected_run (hrun : Relation.ReflTransGen (Step K) ⟨powerOn, t, []⟩ s) : Collected K t s := by
  induction hrun with
  | refl => exact collected_start K t
  | tail _ hstep ih => exact ih.step hstep

/-- the bus of a run is a run of the bus -/
theorem bus_run (hrun : Relation.ReflTransGen (Step K) ⟨powerOn, t, []⟩ s) : ∃ events, s.bus = run powerOn events := by
  induction hrun with
  | refl => exact ⟨[], rfl⟩
  | tail _ hstep ih =>
    obtain ⟨events, hbus⟩ := ih
    cases hstep with
    | bus e he => exact ⟨events ++ [e], by rw [run_append, hbus]; rfl⟩
    | handle c f rest t' passed hqueue hhandle =>
      exact ⟨events ++ [.take K.device_type], by rw [run_append, hbus]; rfl⟩
    | other t' hkept => exact ⟨events, hbus⟩

/-- what the table says, and where it comes from -/
structure Faithful (K : Kind T V C) (t : T) (s : Site T) : Prop where
  order : (s.handled K).Sublist (answersOf K.device_type s.bus.served)
  latest : ∀ i, (K.key t i).2 = 1 → K.value s.table i =
    if Reports.find (K.key t) (K.number t) (K.key t i) = some i then
      (Owned.last (reports K (s.handled K)) (K.key t i)).getD (K.value t i)
    else K.value t i
  origin : ∀ i, (K.key t i).2 = 1 → K.value s.table i ≠ K.value t i →
    ∃ served ∈ s.bus.served, served.request.device_type = K.device_type ∧
      ∃ f, served.answer = some f ∧ K.report f.buf = some (K.key t i, K.value s.table i)
  passed : s.trans = passedOn K (s.handled K)

theorem faithful_run (hrun : Relation.ReflTransGen (Step K) ⟨powerOn, t, []⟩ s) : Faithful K t s := by
  have hcollected := collected_run hrun
  obtain ⟨events, hbus⟩ := bus_run hrun
  have horder : (s.handled K).Sublist (answersOf K.device_type s.bus.served) := by
    have hqueues := (routed_run events routed_powerOn).queues K.device_type
    rw [← hbus] at hqueues
    exact (List.sublist_append_left _ _).trans hqueues
  have hlatest : ∀ i, (K.key t i).2 = 1 → K.value s.table i =
      if Reports.find (K.key t) (K.number t) (K.key t i) = some i then
        (Owned.last (reports K (s.handled K)) (K.key t i)).getD (K.value t i)
      else K.value t i := fun i hi => (hcollected.value i hi).trans (Reports.stores_apply _ _ _)
  refine ⟨horder, hlatest, fun i hi hne => ?_, hcollected.passed⟩
  rw [hlatest i hi] at hne ⊢
  split_ifs at hne ⊢ with hfirst
  · cases hlast : Owned.last (reports K (s.handled K)) (K.key t i) with
    | none =>
      rw [hlast] at hne
      exact absurd rfl hne
    | some v =>
      -- the report was made by a response that the task has taken
      obtain ⟨f, hf, hreport⟩ := List.mem_filterMap.1 (Reports.mem_of_last hlast)
      obtain ⟨served, hserved, hanswer⟩ := List.mem_filterMap.1 (horder.subset hf)
      obtain ⟨hmem, htype⟩ := List.mem_filter.1 hserved
      exact ⟨served, hmem, of_decide_eq_true htype, f, hanswer, hreport⟩
  · exact absurd rfl hne

/-- one relay module, at address 3 -/
def oneRelay : RelayModules := ⟨1, Relay.one_fits, fun _ => ⟨8, 0⟩, fun _ => Relay.clearedState 3 1 ⟨8, 0⟩⟩

def pollRequest : BusFrame := ⟨⟨Relay.getBuiltOutRelayState (oneRelay.state 0), by decide⟩, .RELAY⟩

def pollResponse : RxFrame := ⟨Relay.packBuiltOutRelayFrame 3 0xD0 [1, 2, 0, 0, 0, 0, 0], by decide⟩

/-- a poll of it and its response -/
def polled : List Event := [.request pollRequest, .turn true [], .turn true [], .receive pollResponse, .turn true []]

/-- polling the modules leaves what was collected from those on the bus -/
theorem collect_kept (accepts : ℕ → Bool) (io : Relay.RelayIo) :
    Kept relays io.modules (Relay.relayCollectCurrentState accepts io).modules := by
  obtain ⟨hsame, hstate, -⟩ := Relay.collect_eq accepts io
  refine ⟨hsame.number, funext fun i => Prod.ext (hsame.address i) (hsame.channel i), fun i hi => ?_⟩
  have hchannel : (io.modules.state i).channel = 1 := hi
  have hout : ¬ (io.modules.state i).isBuiltIn := fun h => by
    have hzero := hchannel.symm.trans h.2
    exact absurd hzero (by decide)
  change ((Relay.relayCollectCurrentState accepts io).modules.state i).loop_collect_state = _
  rw [hstate, RelayModuleState.afterCollection, if_neg hout, ite_self]
  rfl

/-- a command of the server writes no collected state -/
theorem serverCommand_kept (now : List UInt8) (ms : RelayModules) (j : ℕ) (loop_ch loop_state : UInt16) :
    Kept relays ms (Relay.serverCommand now ms j loop_ch loop_state) := by
  have hsame := Relay.serverCommand_sameLoops now ms j loop_ch loop_state
  refine ⟨hsame.number, funext fun i => Prod.ext (hsame.address i) (hsame.channel i), fun i _ => ?_⟩
  change ((Relay.serverCommand now ms j loop_ch loop_state).state i).loop_collect_state = _
  by_cases hij : i = j
  · subst hij
    rw [Relay.serverCommand, Relay.set_state_self]
    rfl
  · rw [Relay.serverCommand, Relay.set_state_of_ne _ _ hij]
    rfl

end DataConcentrator.Rs485
