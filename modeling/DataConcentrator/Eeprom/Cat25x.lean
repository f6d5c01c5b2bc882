/-
The driver of the EEPROM: `CAT25X_Write` and `CAT25X_Read` of `cat25x.c`, over the bus of the chip.

- `writePage_spec`: one round of the loop stores the bytes of one page;
- `writeLoop_spec`: the rounds store what is left of the buffer, whatever the chip takes for each of them;
- `write_then_read`: what `CAT25X_Write` stores, and what `CAT25X_Read` then returns.
-/
import DataConcentrator.Lib.SerialEeprom
import DataConcentrator.Lib.WhileLoop

namespace DataConcentrator.Eeprom.Cat25x

open SerialEeprom

/-! ## The driver -/

def CAT25X_WRITE_EN : UInt8 := 0x06
def CAT25X_READ_SR : UInt8 := 0x05
def CAT25X_READ_MMY : UInt8 := 0x03
def CAT25X_WRITE_MMY : UInt8 := 0x02

/-- the pages of 256 bytes that `CAT25X_Write` counts with -/
def PageOf256 (g : Geometry) : Prop := g.page = 256

section Driver

variable (g : Geometry)

def writeEnable (c : Chip) : Chip := deselect g (send g [CAT25X_WRITE_EN] (select c))

def readSr (c : Chip) : UInt8 × Chip :=
  let c := send g [CAT25X_READ_SR] (select c)
  let (stat, c) := exchange g 0xFF c
  (stat, deselect g c)

/-- the status last read, and the chip; `none` where the fuel is not enough -/
def waitBusy (fuel : ℕ) (c : Chip) : Option Chip :=
  (WhileLoop.run (fun s : UInt8 × Chip => if s.1 &&& 0x01 = 0x01 then some (readSr g s.2) else none) fuel
    (readSr g c)).map Prod.snd

/-- the address bytes of a command -/
def addressBytes (addr : ℕ) : List UInt8 :=
  [UInt8.ofNat (addr / 65536), UInt8.ofNat (addr / 256), UInt8.ofNat addr]

/-- a round of the loop, for `len` bytes from `Buff` on -/
def writePage (fuel : ℕ) (Buff : ℕ → UInt8) (addr len : ℕ) (c : Chip) : Option Chip :=
  let c := writeEnable g (select c)
  let c := select (deselect g c)
  let c := send g (CAT25X_WRITE_MMY :: addressBytes addr) c
  let c := send g ((List.range len).map Buff) c
  waitBusy g fuel (deselect g c)

/-- `while(1)`; `Buff` has moved on by `pos` -/
def writeLoop (waits : ℕ) (Buff : ℕ → UInt8) (WriteAddr Num : ℕ) :
    ℕ → (pos addr len len1 : ℕ) → Chip → Option Chip
  | 0, _, _, _, _, _ => none
  | fuel + 1, pos, addr, len, len1, c => do
    let c ← writePage g waits (fun i => Buff (pos + i)) addr len c
    let pos := pos + len
    let len1 := (len1 + len) % 65536
    let len := (Num + 65536 - len1) % 65536
    if len = 0 then
      some c
    else
      let addr := (WriteAddr + len1) % 2 ^ 32
      writeLoop waits Buff WriteAddr Num fuel pos addr (if len > 256 then 256 else len) len1 c

/-- `CAT25X_Write`, with fuel for its loop and for each wait in it -/
def cat25xWrite (fuel : ℕ) (Buff : ℕ → UInt8) (WriteAddr Num : ℕ) (c : Chip) : Option Chip :=
  let len := 256 - WriteAddr % 256
  let len := if Num < len then Num else len
  writeLoop g fuel Buff WriteAddr Num fuel 0 WriteAddr len 0 c

/-- `CAT25X_Read`: what it stores from `Buff` on, and the chip -/
def cat25xRead (ReadAddr Num : ℕ) (c : Chip) : List UInt8 × Chip :=
  let c := send g (CAT25X_READ_MMY :: addressBytes ReadAddr) (select c)
  let (bytes, c) := receive g Num c
  (bytes, deselect g c)

end Driver

/-! ## Commands of the driver -/

variable {g : Geometry}

theorem address_addressBytes {addr : ℕ} (h : addr < g.size) :
    address g (UInt8.ofNat (addr / 65536)) (UInt8.ofNat (addr / 256)) (UInt8.ofNat addr) = addr := by
  have hle := g.size_le
  have hbytes : (UInt8.ofNat (addr / 65536)).toNat * 65536 + (UInt8.ofNat (addr / 256)).toNat * 256 +
      (UInt8.ofNat addr).toNat = addr := by
    simp only [UInt8.toNat_ofNat']
    omega
  rw [address, hbytes, Nat.mod_eq_of_lt h]

theorem readSr_eq {c : Chip} (h : c.rx = none) : readSr g c = (c.status, { c with busy := c.busy - 1 }) := by
  rw [readSr, send_select h]
  simp only [exchange, deselect]
  refine Prod.ext ?_ ?_
  · simp [Chip.reply, CAT25X_READ_SR, RDSR, Chip.status]
  · cases c
    cases h
    rfl

/-- the chip says it is busy as long as it is -/
theorem status_busy (c : Chip) : c.status &&& 0x01 = 0x01 ↔ c.busy ≠ 0 := by
  rw [Chip.status]
  by_cases hb : c.busy = 0 <;> cases c.wel <;> simp [hb] <;> decide

theorem waitBusy_eq {fuel : ℕ} {c : Chip} (h : c.rx = none) (hfuel : c.busy ≤ fuel) :
    waitBusy g fuel c = some { c with busy := 0 } := by
  rw [waitBusy, Option.map_eq_some_iff]
  generalize hn : c.busy = n at hfuel
  induction n generalizing c fuel with
  | zero =>
    refine ⟨_, WhileLoop.run_done ?_ fuel, ?_⟩
    · rw [readSr_eq h, if_neg (fun hbit => (status_busy c).1 hbit hn)]
    · rw [readSr_eq h, hn]
  | succ n ih =>
    obtain ⟨fuel, rfl⟩ : ∃ k, fuel = k + 1 := ⟨fuel - 1, by omega⟩
    have hround : (if (readSr g c).1 &&& 0x01 = 0x01 then some (readSr g (readSr g c).2) else none) =
        some (readSr g { c with busy := n }) := by
      rw [readSr_eq h, if_pos ((status_busy c).2 (by omega)), hn]
      rfl
    obtain ⟨s, hs, hmem⟩ := @ih fuel { c with busy := n } h rfl (by omega)
    exact ⟨s, (WhileLoop.run_round hround fuel).trans hs, hmem⟩

theorem writeEnable_eq {c : Chip} (hc : c.Idle) : writeEnable g (select c) = { c with wel := true } := by
  have hselect : select (select c) = select c := by
    rw [select_idle hc.rx]
    rfl
  rw [writeEnable, hselect, transaction hc.rx]
  simp [Chip.execute, hc.busy, CAT25X_WRITE_EN, RDSR, WRITE, WREN]

/-- the write command of a round -/
theorem writeCommand_eq {c : Chip} (hc : c.Idle) {addr : ℕ} (haddr : addr < g.size) (data : List UInt8) :
    deselect g (send g data (send g (CAT25X_WRITE_MMY :: addressBytes addr)
      (select (deselect g (writeEnable g (select c)))))) = ({ c with wel := true } : Chip).write g addr data := by
  have hrx : ({ c with wel := true } : Chip).rx = none := hc.rx
  have hhigh : deselect g { c with wel := true } = { c with wel := true } := by rw [deselect, hrx]
  have hsend : ∀ d : Chip, send g data (send g (CAT25X_WRITE_MMY :: addressBytes addr) d) =
      send g (CAT25X_WRITE_MMY :: addressBytes addr ++ data) d := fun d => (List.foldl_append ..).symm
  rw [writeEnable_eq hc, hhigh, hsend, transaction hrx]
  simp [Chip.execute, CAT25X_WRITE_MMY, RDSR, WRITE, addressBytes, address_addressBytes haddr]

/-- an enabled write without data is no write -/
theorem write_enabled {c : Chip} (hc : c.Idle) (addr : ℕ) (data : List UInt8) :
    ({ c with wel := true } : Chip).write g addr data =
      if data = [] then { c with wel := true, writes := c.writes ++ [(addr, data)] }
      else { c with mem := program g c.mem addr data, wel := false, busy := c.cycles c.writes.length,
                    writes := c.writes ++ [(addr, data)] } := by
  by_cases hdata : data = [] <;> simp [Chip.write, hdata, hc.busy]

/-- **A round of the loop.** The bytes of one page are stored, and the chip is ready again. -/
theorem writePage_spec {c : Chip} (hc : c.Idle) {addr len fuel : ℕ} (haddr : addr < g.size) (Buff : ℕ → UInt8)
    (hfuel : c.cycles c.writes.length ≤ fuel) :
    ∃ c', writePage g fuel Buff addr len c = some c' ∧ c'.Idle ∧ c'.cycles = c.cycles ∧
      c'.writes = c.writes ++ [(addr, (List.range len).map Buff)] ∧
      c'.mem = program g c.mem addr ((List.range len).map Buff) := by
  simp only [writePage, writeCommand_eq hc haddr, write_enabled hc]
  generalize (List.range len).map Buff = data
  by_cases hdata : data = []
  · subst hdata
    rw [if_pos rfl]
    exact ⟨_, waitBusy_eq hc.rx (hc.busy ▸ Nat.zero_le fuel), ⟨hc.rx, rfl⟩, rfl, rfl, rfl⟩
  · rw [if_neg hdata]
    exact ⟨_, waitBusy_eq hc.rx hfuel, ⟨hc.rx, rfl⟩, rfl, rfl, rfl⟩

/-! ## The loop -/

/-- a run of bytes of the buffer -/
def bytesOf (Buff : ℕ → UInt8) (pos n : ℕ) : List UInt8 := (List.range n).map fun i => Buff (pos + i)

theorem bytesOf_add (Buff : ℕ → UInt8) (pos n : ℕ) : bytesOf Buff 0 pos ++ bytesOf Buff pos n = bytesOf Buff 0 (pos + n) := by
  simp [bytesOf, List.range_add, Function.comp_def]

theorem length_bytesOf (Buff : ℕ → UInt8) (pos n : ℕ) : (bytesOf Buff pos n).length = n := by simp [bytesOf]

/-- after `k` rounds, which have stored `pos` bytes and have not crossed a page -/
structure Progress (g : Geometry) (c0 : Chip) (Buff : ℕ → UInt8) (WriteAddr pos k : ℕ) (c : Chip) : Prop where
  idle : c.Idle
  cycles : c.cycles = c0.cycles
  mem : c.mem = ByteStore.write c0.mem WriteAddr (bytesOf Buff 0 pos)
  writes : ∃ new, c.writes = c0.writes ++ new ∧ new.length = k ∧ ∀ w ∈ new, w.1 % g.page + w.2.length ≤ g.page

variable {c0 c : Chip} {Buff : ℕ → UInt8} {WriteAddr Num : ℕ}

/-- a round goes on where the last one ended -/
theorem Progress.round {pos k len waits : ℕ} (h : Progress g c0 Buff WriteAddr pos k c) (hin : WriteAddr + pos < g.size)
    (hpage : (WriteAddr + pos) % g.page + len ≤ g.page) (hwaits : c0.cycles (c0.writes.length + k) ≤ waits) :
    ∃ c', writePage g waits (fun i => Buff (pos + i)) (WriteAddr + pos) len c = some c' ∧
      Progress g c0 Buff WriteAddr (pos + len) (k + 1) c' := by
  obtain ⟨new, hnew, hk, hinside⟩ := h.writes
  have hcycles : c.cycles c.writes.length ≤ waits := by
    rw [h.cycles, hnew, List.length_append, hk]
    exact hwaits
  have hspec : ∃ c', writePage g waits (fun i => Buff (pos + i)) (WriteAddr + pos) len c = some c' ∧ _ :=
    writePage_spec h.idle hin (fun i => Buff (pos + i)) hcycles
  obtain ⟨c', hc', hidle, hcyc, hwrites, hmem⟩ := hspec
  refine ⟨c', hc', hidle, hcyc.trans h.cycles, ?_, ?_⟩
  · have hdata : (WriteAddr + pos) % g.page + (bytesOf Buff pos len).length ≤ g.page := by
      rw [length_bytesOf]
      exact hpage
    have happend := ByteStore.write_append c0.mem WriteAddr (bytesOf Buff 0 pos) (bytesOf Buff pos len)
    rw [length_bytesOf, bytesOf_add] at happend
    rw [hmem, h.mem, ← happend]
    exact program_eq_write _ _ hdata
  · refine ⟨new ++ [(WriteAddr + pos, bytesOf Buff pos len)], ?_, by simp [hk], ?_⟩
    · rw [hwrites, hnew, List.append_assoc]
      rfl
    · intro w hw
      rcases List.mem_append.1 hw with hw | hw
      · exact hinside w hw
      · rw [List.mem_singleton.1 hw, length_bytesOf]
        exact hpage

/-- **The loop.** Each round goes to the end of the buffer or of the page, whichever is first. -/
theorem writeLoop_spec (hg : PageOf256 g) {waits : ℕ} (hfit : WriteAddr + Num ≤ g.size) (hstart : WriteAddr < g.size)
    (hNum : Num < 65536) (hwaits : ∀ n ≤ c0.writes.length + Num, c0.cycles n ≤ waits) (fuel : ℕ) :
    ∀ pos k len c, Progress g c0 Buff WriteAddr pos k c → k ≤ pos → (pos < Num ∨ pos = 0) →
      len = min (Num - pos) (256 - (WriteAddr + pos) % 256) → pos ≤ Num → Num - pos < fuel →
      ∃ c', writeLoop g waits Buff WriteAddr Num fuel pos (WriteAddr + pos) len pos c = some c' ∧
        ∃ k, Progress g c0 Buff WriteAddr Num k c' := by
  have hsize := g.size_le
  have hpage : g.page = 256 := hg
  induction fuel with
  | zero => exact fun pos k len c _ _ _ _ _ hf => absurd hf (Nat.not_lt_zero _)
  | succ fuel ih =>
    intro pos k len c h hk hpos hlen hle hf
    have hfits : (WriteAddr + pos) % g.page + len ≤ g.page := by
      rw [hpage]
      omega
    obtain ⟨c', hc', h'⟩ := h.round (by omega) hfits (hwaits _ (by omega))
    have hnext : (Num + 65536 - (pos + len) % 65536) % 65536 = Num - (pos + len) := by omega
    have hlen1 : (pos + len) % 65536 = pos + len := Nat.mod_eq_of_lt (by omega)
    have haddr : (WriteAddr + (pos + len)) % 2 ^ 32 = WriteAddr + (pos + len) := Nat.mod_eq_of_lt (by omega)
    simp only [writeLoop, hc', Option.bind_eq_bind, Option.bind_some, hnext]
    by_cases hend : Num - (pos + len) = 0
    · rw [if_pos hend]
      have heq : pos + len = Num := by omega
      exact ⟨c', rfl, k + 1, heq ▸ h'⟩
    · -- the next round begins a page
      rw [if_neg hend, hlen1, haddr]
      refine ih (pos + len) (k + 1) _ c' h' (by omega) (Or.inl (by omega)) ?_ (by omega) (by omega)
      split_ifs <;> omega

/-! ## Writes and reads -/

theorem cat25xRead_eq (hc : c.Idle) {ReadAddr : ℕ} (hstart : ReadAddr < g.size) (hfit : ReadAddr + Num ≤ g.size) :
    (cat25xRead g ReadAddr Num c).1 = ByteStore.read c.mem ReadAddr Num := by
  simp only [cat25xRead, send_select hc.rx, addressBytes]
  refine (receive_read Num _ _ _ _ [] ?_ rfl).trans ?_
  · exact hc.busy
  rw [address_addressBytes hstart, ByteStore.read]
  refine List.map_congr_left fun i hi => ?_
  rw [List.length_nil, Nat.zero_add, Nat.mod_eq_of_lt (by have := List.mem_range.1 hi; omega)]

/-- **Page splitting.** `CAT25X_Write` ends and stores the buffer and nothing else, by writes that stay in their pages;
`CAT25X_Read` gives it back. -/
theorem write_then_read (hg : PageOf256 g) (hc : c.Idle) (Buff : ℕ → UInt8) (hstart : WriteAddr < g.size)
    (hfit : WriteAddr + Num ≤ g.size) (hNum : Num < 65536) :
    ∃ enough, ∀ fuel ≥ enough, ∃ c', cat25xWrite g fuel Buff WriteAddr Num c = some c' ∧
      (∀ i < Num, c'.mem (WriteAddr + i) = Buff i) ∧
      (∀ a, a < WriteAddr ∨ WriteAddr + Num ≤ a → c'.mem a = c.mem a) ∧
      (∃ new, c'.writes = c.writes ++ new ∧ ∀ w ∈ new, w.1 % 256 + w.2.length ≤ 256) ∧
      (cat25xRead g WriteAddr Num c').1 = (List.range Num).map Buff := by
  refine ⟨∑ n ∈ Finset.range (c.writes.length + Num + 1), c.cycles n + Num + 1, fun fuel hfuel => ?_⟩
  have hwaits : ∀ n ≤ c.writes.length + Num, c.cycles n ≤ fuel := by
    intro n hn
    have hle : c.cycles n ≤ ∑ n ∈ Finset.range (c.writes.length + Num + 1), c.cycles n :=
      Finset.single_le_sum (fun _ _ => Nat.zero_le _) (Finset.mem_range.2 (by omega))
    omega
  have hbegin : Progress g c Buff WriteAddr 0 0 c :=
    ⟨hc, rfl, (ByteStore.write_nil _ _).symm, [], (List.append_nil _).symm, rfl, by simp⟩
  obtain ⟨c', hc', k, hend⟩ := writeLoop_spec hg hfit hstart hNum hwaits fuel 0 0
    (if Num < 256 - WriteAddr % 256 then Num else 256 - WriteAddr % 256) c hbegin le_rfl (Or.inr rfl)
    (by rw [Nat.add_zero]; split_ifs <;> omega) (Nat.zero_le _) (by omega)
  obtain ⟨new, hnew, _, hinside⟩ := hend.writes
  refine ⟨c', hc', ?_, ?_, ⟨new, hnew, ?_⟩, ?_⟩
  · intro i hi
    rw [hend.mem, ByteStore.write_at _ _ _ _ (by rw [length_bytesOf]; exact hi)]
    simp [bytesOf]
  · rintro a (ha | ha)
    · rw [hend.mem, ByteStore.write_of_lt _ _ ha]
    · rw [hend.mem, ByteStore.write_of_ge _ _ (by rw [length_bytesOf]; exact ha)]
  · have hpage : g.page = 256 := hg
    rw [hpage] at hinside
    exact hinside
  · have hsame := ByteStore.read_write_same c.mem WriteAddr (bytesOf Buff 0 Num)
    rw [length_bytesOf] at hsame
    rw [cat25xRead_eq hend.idle hstart hfit, hend.mem, hsame]
    simp [bytesOf]

/-- a chip of 64 KiB -/
def smallChip : Geometry := ⟨256, 65536, by decide, by decide, by decide⟩

/-- two pages, the first of them entered in its middle -/
theorem write_then_read_200 : ∃ enough, ∀ fuel ≥ enough, ∃ c',
    cat25xWrite smallChip fuel (fun i => UInt8.ofNat i) 200 300 ⟨fun _ => 0, false, 0, fun n => n, none, []⟩ = some c' ∧
      (∀ i < 300, c'.mem (200 + i) = UInt8.ofNat i) ∧
      (∀ a, a < 200 ∨ 200 + 300 ≤ a → c'.mem a = 0) ∧
      (∃ new, c'.writes = [] ++ new ∧ ∀ w ∈ new, w.1 % 256 + w.2.length ≤ 256) ∧
      (cat25xRead smallChip 200 300 c').1 = (List.range 300).map fun i => UInt8.ofNat i :=
  write_then_read (show PageOf256 smallChip from rfl) ⟨rfl, rfl⟩ _ (by decide) (by decide) (by decide)

end DataConcentrator.Eeprom.Cat25x
