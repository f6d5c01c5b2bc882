/-
A serial EEPROM on a byte-wide bus: a chip that takes a command between two edges of its select line, and whose write
command goes round inside a page.

- `program_eq_write`: a write that stays inside its page stores its bytes one after the other;
- `transaction`: the bytes of one selection are one command;
- `receive_read`: what is received after a read command.
-/
import DataConcentrator.Lib.ByteStore

namespace SerialEeprom

/-! ## The chip -/

/-- the instruction set -/
def WRDI : UInt8 := 0x04
def RDSR : UInt8 := 0x05
def WREN : UInt8 := 0x06
def READ : UInt8 := 0x03
def WRITE : UInt8 := 0x02

/-- the pages of a chip with addresses of three bytes -/
structure Geometry where
  page : ℕ
  size : ℕ
  page_pos : 0 < page
  page_dvd : page ∣ size
  size_le : size ≤ 2 ^ 24

structure Chip where
  mem : ℕ → UInt8
  -- the write enable latch
  wel : Bool
  -- how many times the status still reads busy
  busy : ℕ
  -- for how many status reads each write lasts
  cycles : ℕ → ℕ
  -- the bytes since the chip was selected
  rx : Option (List UInt8)
  -- the write commands the chip was sent
  writes : List (ℕ × List UInt8)

/-- neither selected nor busy -/
structure Chip.Idle (c : Chip) : Prop where
  rx : c.rx = none
  busy : c.busy = 0

variable (g : Geometry)

def address (a2 a1 a0 : UInt8) : ℕ := (a2.toNat * 65536 + a1.toNat * 256 + a0.toNat) % g.size

/-- the bytes of a write command, from an address on and round in its page -/
def program (m : ℕ → UInt8) (a : ℕ) (data : List UInt8) : ℕ → UInt8 :=
  data.zipIdx.foldl (fun m x => Function.update m (a - a % g.page + (a + x.2) % g.page) x.1) m

def Chip.status (c : Chip) : UInt8 := (if c.busy = 0 then 0 else 1) + if c.wel then 2 else 0

/-- what the chip answers to the next byte -/
def Chip.reply (c : Chip) : List UInt8 → UInt8
  | [] => 0xFF
  | op :: args =>
    if op = RDSR then c.status
    else if c.busy ≠ 0 then 0xFF
    else if op = READ then
      match args with
      | a2 :: a1 :: a0 :: rest => c.mem ((address g a2 a1 a0 + rest.length) % g.size)
      | _ => 0xFF
    else 0xFF

/-- a write command; it takes data, and the latch, and finds the chip ready -/
def Chip.write (c : Chip) (a : ℕ) (data : List UInt8) : Chip :=
  let logged := { c with writes := c.writes ++ [(a, data)] }
  if c.busy ≠ 0 ∨ c.wel = false ∨ data = [] then logged
  else { logged with mem := program g c.mem a data, wel := false, busy := c.cycles c.writes.length }

/-- the command of one selection -/
def Chip.execute (c : Chip) : List UInt8 → Chip
  | [] => c
  | op :: args =>
    if op = RDSR then { c with busy := c.busy - 1 }
    else if op = WRITE then
      match args with
      | a2 :: a1 :: a0 :: data => c.write g (address g a2 a1 a0) data
      | _ => c
    else if c.busy ≠ 0 then c
    else if op = WREN then { c with wel := true }
    else if op = WRDI then { c with wel := false }
    else c

/-! ## The bus -/

/-- the falling edge of the select line; low already, it stays -/
def select (c : Chip) : Chip := if c.rx.isNone then { c with rx := some [] } else c

/-- the rising edge -/
def deselect (c : Chip) : Chip :=
  match c.rx with
  | none => c
  | some bytes => ({ c with rx := none } : Chip).execute g bytes

/-- a byte each way -/
def exchange (b : UInt8) (c : Chip) : UInt8 × Chip :=
  match c.rx with
  | none => (0xFF, c)
  | some bytes => (c.reply g bytes, { c with rx := some (bytes ++ [b]) })

def send (bytes : List UInt8) (c : Chip) : Chip := bytes.foldl (fun c b => (exchange g b c).2) c

/-- `n` bytes received -/
def receive : ℕ → Chip → List UInt8 × Chip
  | 0, c => ([], c)
  | n + 1, c =>
    let r := exchange g 0xFF c
    let rest := receive n r.2
    (r.1 :: rest.1, rest.2)

/-! ## Commands -/

variable {g}

theorem send_eq (bytes : List UInt8) : ∀ (c : Chip) (xs : List UInt8), c.rx = some xs →
    send g bytes c = { c with rx := some (xs ++ bytes) } := by
  induction bytes with
  | nil =>
    intro c xs h
    rw [List.append_nil, ← h]
    rfl
  | cons b bytes ih =>
    intro c xs h
    have hstep : (exchange g b c).2 = { c with rx := some (xs ++ [b]) } := by rw [exchange, h]
    rw [send, List.foldl_cons, hstep]
    have hrest := ih { c with rx := some (xs ++ [b]) } (xs ++ [b]) rfl
    rw [send] at hrest
    rw [hrest, List.append_assoc]
    rfl

theorem select_idle {c : Chip} (h : c.rx = none) : select c = { c with rx := some [] } := by
  rw [select, h]
  rfl

theorem send_select {c : Chip} (h : c.rx = none) (bytes : List UInt8) :
    send g bytes (select c) = { c with rx := some bytes } := by
  rw [select_idle h]
  exact send_eq bytes _ [] rfl

/-- **One selection.** The bytes between the edges are one command. -/
theorem transaction {c : Chip} (h : c.rx = none) (bytes : List UInt8) :
    deselect g (send g bytes (select c)) = c.execute g bytes := by
  rw [send_select h, deselect]
  cases c
  cases h
  rfl

/-- what is received after a read command has been sent -/
theorem receive_read (n : ℕ) : ∀ (c : Chip) (a2 a1 a0 : UInt8) (rest : List UInt8), c.busy = 0 →
    c.rx = some (READ :: a2 :: a1 :: a0 :: rest) →
    (receive g n c).1 = (List.range n).map fun i => c.mem ((address g a2 a1 a0 + (rest.length + i)) % g.size) := by
  induction n with
  | zero => exact fun _ _ _ _ _ _ _ => rfl
  | succ n ih =>
    intro c a2 a1 a0 rest hbusy h
    have hstep : exchange g 0xFF c = (c.mem ((address g a2 a1 a0 + rest.length) % g.size),
        { c with rx := some (READ :: a2 :: a1 :: a0 :: (rest ++ [0xFF])) }) := by
      rw [exchange, h]
      simp [Chip.reply, hbusy, RDSR, READ]
    rw [receive, hstep, List.range_succ_eq_map, List.map_cons, List.map_map]
    have hrest := ih { c with rx := some (READ :: a2 :: a1 :: a0 :: (rest ++ [0xFF])) } a2 a1 a0 (rest ++ [0xFF])
      hbusy rfl
    simp only [hrest, List.length_append, List.length_singleton, Nat.add_zero, List.cons.injEq, true_and]
    refine List.map_congr_left fun i _ => ?_
    rw [Function.comp_apply, Nat.succ_eq_add_one, Nat.add_assoc rest.length 1 i, Nat.add_comm 1 i]

/-! ## Pages -/

/-- **Inside a page.** A write that does not reach the end of its page stores its bytes in order. -/
theorem program_eq_write (m : ℕ → UInt8) (a : ℕ) {data : List UInt8} (h : a % g.page + data.length ≤ g.page) :
    program g m a data = ByteStore.write m a data := by
  have key : ∀ (xs : List UInt8) (k : ℕ) (m : ℕ → UInt8), a % g.page + k + xs.length ≤ g.page →
      (xs.zipIdx k).foldl (fun m x => Function.update m (a - a % g.page + (a + x.2) % g.page) x.1) m =
        ByteStore.write m (a + k) xs := by
    intro xs
    induction xs with
    | nil => exact fun k m _ => (ByteStore.write_nil m (a + k)).symm
    | cons b xs ih =>
      intro k m hk
      rw [List.length_cons] at hk
      have hin : (a + k) % g.page = a % g.page + k := by
        rw [← Nat.mod_add_mod]
        exact Nat.mod_eq_of_lt (by omega)
      have hle := Nat.mod_le a g.page
      have hat : a - a % g.page + (a + k) % g.page = a + k := by omega
      have hone : Function.update m (a + k) b = ByteStore.write m (a + k) [b] := by
        funext i
        rcases Nat.lt_trichotomy i (a + k) with hi | rfl | hi
        · rw [ByteStore.write_of_lt m [b] hi, Function.update_of_ne (by omega)]
        · rw [Function.update_self]
          exact (ByteStore.write_at m (a + k) 0 [b] (by simp)).symm
        · rw [ByteStore.write_of_ge m [b] (by simpa using hi), Function.update_of_ne (by omega)]
      rw [List.zipIdx_cons, List.foldl_cons, hat, hone, ih (k + 1) _ (by omega)]
      exact ByteStore.write_append m (a + k) [b] xs
  exact key data 0 m (by omega)

end SerialEeprom
