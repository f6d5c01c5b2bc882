/-
The value of a light sensor: `LumeterRecvAndHandleDeviceFrame` with the stack of samples it averages over.

An allocation succeeds, unless it asks for no bytes. A write or a read outside the stack, or a division by zero, has no
result.
- `setStack_any`: the configuration takes any depth and any number to ignore;
- `push_first`, `push_next`: what is on the stack after a sample;
- `averageValue_eq`: the average as a mean of natural numbers;
- `Ready.window`: at a depth that has not changed for so many samples, the stack holds the last of them;
- `averageValue_sorted`: the average over the sorted copy would be the trimmed mean;
- `average_of_run`: a run of samples whose ends on the stack are its extremes gives the trimmed mean each time.
-/
import DataConcentrator.Common.Reader
import DataConcentrator.Lib.BubbleSort
import DataConcentrator.Lib.CLoop
import DataConcentrator.Lumeter.Frame

namespace DataConcentrator.Lumeter

open BubbleSort (bubbleSort bubbleSort_eq)
open CLoop (foldlM_range_succ)

/-! ## Data -/

def MAX_LUMETER_CONF_NUM : ℕ := 4

def MAX_LUMETER_STACK_LEN : ℕ := 100

/-- `LumeterBasicConfig_S`, as far as the samples read it -/
structure BasicConfig where
  stack_depth : UInt8
  ignore_num : UInt8
deriving DecidableEq, Repr

/-- an array of `MAX_LUMETER_STACK_LEN` samples -/
structure Stack where
  entries : List UInt32
  size : entries.length = MAX_LUMETER_STACK_LEN
deriving DecidableEq

/-- a write to the stack -/
def Stack.put (s : Stack) (k : ℕ) (x : UInt32) : Option Stack :=
  if k < MAX_LUMETER_STACK_LEN then some ⟨s.entries.set k x, by rw [List.length_set, s.size]⟩ else none

/-- `LumeterState_S` -/
structure SensorState where
  address : UInt8
  channel : UInt8
  waitting_resp : UInt8
  no_resp_time : UInt8
  collect_time : UInt8
  unchange_time : UInt32
  ref_value : UInt32
  stack : Stack
  value : UInt32

/-- `LumeterBasicConfig`, `LumeterConfigNum`, `LumeterState` and `init_flag` -/
structure Receiver where
  basic : BasicConfig
  number : ℕ
  fits : number ≤ MAX_LUMETER_CONF_NUM
  state : ℕ → SensorState
  init_flag : ℕ → UInt8

/-! ## Samples -/

/-- the order of `u32` -/
instance u32LinearOrder : LinearOrder UInt32 where
  le_refl := UInt32.le_refl
  le_trans _ _ _ := UInt32.le_trans
  le_antisymm _ _ := UInt32.le_antisymm
  le_total := UInt32.le_total
  lt_iff_le_not_ge _ _ := ⟨fun h => ⟨UInt32.le_of_lt h, UInt32.not_le.2 h⟩, fun h => UInt32.not_le.1 h.2⟩
  toDecidableLE := inferInstance

/-- the stack, and the flag it leaves behind -/
def lumeterPushNewDateToStack (stack : Stack) (depth : UInt8) (new_data : UInt32) (mode : UInt8) :
    Option (Stack × UInt8) :=
  if mode = 1 then do
    let stack ← (List.range depth.toNat).foldlM (fun s j => s.put j new_data) stack
    some (stack, 0)
  else do
    let stack ← (List.range' 1 (depth.toNat - 1)).foldlM (fun s j => do s.put (j - 1) (← s.entries[j]?)) stack
    -- `stack + depth - 1` lies before the stack for a depth of 0
    if depth = 0 then none
    else do
      let stack ← stack.put (depth.toNat - 1) new_data
      some (stack, mode)

def lumeterGetAverageValue (stack : List UInt32) (depth ignore_num : UInt8) : Option UInt32 := do
  let head := ignore_num.toNat
  let range := depth - ignore_num * 2
  let sum ← (List.range range.toNat).foldlM (fun sum k => do some (sum + (← stack[head + k]?))) (0 : UInt32)
  if range = 0 then none else some (sum / range.toUInt32)

/-- a sample of a sensor -/
def SensorState.sample (basic : BasicConfig) (now : UInt32) (new_data : UInt32) (s : SensorState) (init_flag : UInt8) :
    Option (SensorState × UInt8) := do
  let (stack, init_flag) ← lumeterPushNewDateToStack s.stack basic.stack_depth new_data init_flag
  -- the copy is sorted, and the average is taken over the stack
  let _sort_buf := bubbleSort basic.stack_depth.toNat (stack.entries.take basic.stack_depth.toNat)
  let value ← lumeterGetAverageValue stack.entries basic.stack_depth basic.ignore_num
  let s := { s with waitting_resp := 0, no_resp_time := 0, stack := stack, value := value }
  if s.collect_time.toNat < basic.stack_depth.toNat * 2 then
    some ({ s with collect_time := s.collect_time + 1 }, init_flag)
  else some ({ s with ref_value := value, unchange_time := now }, init_flag)

/-- the first sensor with an address and a channel -/
def Receiver.find (r : Receiver) (address channel : UInt8) : Option ℕ :=
  (List.range r.number).find? fun i => (r.state i).address = address ∧ (r.state i).channel = channel

/-- a reply that `AnalysisBuiltOutLumeterFrame` accepted; `sort_buf` takes `stack_depth` words -/
def Receiver.handle (now : UInt32) (collect_state : CollectState) (r : Receiver) : Option Receiver :=
  if collect_state.update = 1 ∧ r.basic.stack_depth ≠ 0 then
    match r.find collect_state.address collect_state.channel with
    | none => some r
    | some i => do
      let (s, init_flag) ← (r.state i).sample r.basic now collect_state.value (r.init_flag i)
      some { r with
        state := Function.update r.state i s
        init_flag := Function.update r.init_flag i init_flag }
  else some r

/-- any other reply is passed on as it came, and changes nothing here -/
def lumeterRecvAndHandleDeviceFrame (now : UInt32) (buf : List UInt8) (collect_state : CollectState) (r : Receiver) :
    Option Receiver := do
  let (ret, collect_state) ← analysisBuiltOutLumeterFrame buf collect_state
  if ret = 1 then r.handle now collect_state else some r

/-- the case `0x4003` of `LumeterSetBasicConfiguration` -/
def setStack (value tmp : List UInt8) : Option BasicConfig := do
  let (stack_depth, r) ← (Reader.mk value tmp).field 17 isComma
  let (ignore_num, _) ← r.field 17 (· = 0)
  some ⟨u8Of stack_depth, u8Of ignore_num⟩

/-- **Any depth** and any number to ignore can be set. -/
theorem setStack_any (basic : BasicConfig) (tmp : List UInt8) :
    setStack (sprintfD basic.stack_depth.toNat ++ 0x2C :: (sprintfD basic.ignore_num.toNat ++ [0])) tmp = some basic := by
  have hdepth := length_sprintfD_byte basic.stack_depth
  have hignore := length_sprintfD_byte basic.ignore_num
  rw [setStack, field_isComma _ (plain_sprintfD _) (by omega)]
  simp only [Option.bind_eq_bind, Option.bind_some]
  rw [field_text (by decide) (fun x hx => by rw [of_decide_eq_true hx]; decide) (plain_sprintfD _) (by omega)]
  simp only [Option.bind_some, u8Of_sprintfD]

/-! ## The stack after a sample -/

section Push

variable {stack : Stack} {depth mode : UInt8} {v : UInt32}

theorem Stack.put_eq {s : Stack} {k : ℕ} (hk : k < MAX_LUMETER_STACK_LEN) (x : UInt32) :
    ∃ t, s.put k x = some t ∧ t.entries = s.entries.set k x := ⟨_, if_pos hk, rfl⟩

/-- the first sample, to every entry up to the depth -/
theorem fill_spec (v : UInt32) (stack : Stack) : ∀ n ≤ MAX_LUMETER_STACK_LEN,
    ∃ t, (List.range n).foldlM (fun s j => Stack.put s j v) stack = some t ∧
      ∀ i, t.entries[i]? = if i < n then some v else stack.entries[i]?
  | 0, _ => ⟨stack, rfl, fun i => by simp⟩
  | n + 1, hn => by
    obtain ⟨t, ht, hentries⟩ := fill_spec v stack n (Nat.le_of_succ_le hn)
    obtain ⟨u, hu, hset⟩ := Stack.put_eq (s := t) hn v
    have hlt : n < t.entries.length := by rw [t.size]; exact hn
    refine ⟨u, (foldlM_range_succ ht).trans hu, fun i => ?_⟩
    rw [hset, List.getElem?_set, if_pos hlt, hentries]
    rcases Nat.lt_trichotomy i n with hi | rfl | hi
    · rw [if_neg hi.ne', if_pos hi, if_pos (Nat.lt_succ_of_lt hi)]
    · simp
    · rw [if_neg hi.ne, if_neg (Nat.not_lt.2 hi.le), if_neg (Nat.not_lt.2 hi)]

/-- the samples moved down by one -/
theorem shift_spec (stack : Stack) : ∀ n < MAX_LUMETER_STACK_LEN,
    ∃ t, (List.range' 1 n).foldlM (fun s j => do Stack.put s (j - 1) (← s.entries[j]?)) stack = some t ∧
      ∀ i, t.entries[i]? = if i < n then stack.entries[i + 1]? else stack.entries[i]?
  | 0, _ => ⟨stack, rfl, fun i => by simp⟩
  | n + 1, hn => by
    obtain ⟨t, ht, hentries⟩ := shift_spec stack n (Nat.lt_of_succ_lt hn)
    have hentry : n + 1 < stack.entries.length := by rw [stack.size]; exact hn
    obtain ⟨u, hu, hset⟩ := Stack.put_eq (s := t) (Nat.lt_of_succ_lt hn) stack.entries[n + 1]
    have hread : t.entries[n + 1]? = some stack.entries[n + 1] := by
      rw [hentries, if_neg (by omega), List.getElem?_eq_getElem]
    have hlt : n < t.entries.length := by rw [t.size]; exact Nat.lt_of_succ_lt hn
    refine ⟨u, ?_, fun i => ?_⟩
    · rw [List.range'_concat, List.foldlM_append, ht, show 1 + 1 * n = n + 1 by omega]
      simp only [Option.bind_eq_bind, Option.bind_some, List.foldlM_cons, List.foldlM_nil, hread, Nat.add_sub_cancel, hu]
      rfl
    · rw [hset, List.getElem?_set, if_pos hlt, hentries]
      rcases Nat.lt_trichotomy i n with hi | rfl | hi
      · rw [if_neg hi.ne', if_pos hi, if_pos (Nat.lt_succ_of_lt hi)]
      · simp
      · rw [if_neg hi.ne, if_neg (Nat.not_lt.2 hi.le), if_neg (Nat.not_lt.2 hi)]

theorem push_first (hd : depth.toNat ≤ MAX_LUMETER_STACK_LEN) :
    ∃ t, lumeterPushNewDateToStack stack depth v 1 = some (t, 0) ∧
      t.entries.take depth.toNat = List.replicate depth.toNat v := by
  obtain ⟨t, ht, hentries⟩ := fill_spec v stack depth.toNat hd
  refine ⟨t, by simp [lumeterPushNewDateToStack, ht], List.ext_getElem? fun i => ?_⟩
  rw [List.getElem?_take, List.getElem?_replicate, hentries]
  split_ifs <;> rfl

theorem push_next (hmode : mode ≠ 1) (hpos : 0 < depth.toNat) (hd : depth.toNat ≤ MAX_LUMETER_STACK_LEN) :
    ∃ t, lumeterPushNewDateToStack stack depth v mode = some (t, mode) ∧
      t.entries.take depth.toNat = (stack.entries.take depth.toNat).tail ++ [v] := by
  obtain ⟨t, ht, hentries⟩ := shift_spec stack (depth.toNat - 1) (by omega)
  obtain ⟨u, hu, hset⟩ := Stack.put_eq (s := t) (show depth.toNat - 1 < MAX_LUMETER_STACK_LEN by omega) v
  have hdepth : depth ≠ 0 := by
    rintro rfl
    exact absurd hpos (Nat.lt_irrefl 0)
  have hlength : ((stack.entries.take depth.toNat).tail).length = depth.toNat - 1 := by
    rw [List.length_tail, List.length_take, stack.size, Nat.min_eq_left hd]
  have hlt : depth.toNat - 1 < t.entries.length := by
    rw [t.size]
    omega
  refine ⟨u, ?_, List.ext_getElem? fun i => ?_⟩
  · rw [lumeterPushNewDateToStack, if_neg hmode, ht, Option.bind_eq_bind, Option.bind_some, if_neg hdepth, hu]
    rfl
  · rw [List.getElem?_take, hset, List.getElem?_set, if_pos hlt, hentries, List.getElem?_append, hlength,
      List.getElem?_tail, List.getElem?_take]
    rcases Nat.lt_trichotomy i (depth.toNat - 1) with hi | rfl | hi
    · rw [if_pos (by omega), if_neg (by omega), if_pos hi, if_pos hi, if_pos (by omega)]
    · simp [hpos]
    · rw [if_neg (by omega), if_neg (by omega), List.getElem?_eq_none (by simp only [List.length_singleton]; omega)]

end Push

/-! ## The average -/

/-- what is left without `g` entries at each end -/
def middle (g : ℕ) (xs : List UInt32) : List UInt32 := (xs.drop g).take (xs.length - 2 * g)

def total (xs : List UInt32) : ℕ := (xs.map UInt32.toNat).sum

/-- the integer mean -/
def mean (xs : List UInt32) : ℕ := total xs / xs.length

theorem length_middle {g : ℕ} {xs : List UInt32} : (middle g xs).length = xs.length - 2 * g := by
  rw [middle, List.length_take, List.length_drop]
  omega

/-- the loop adds up modulo `2 ^ 32` -/
theorem sum_spec (xs : List UInt32) (head : ℕ) : ∀ n, head + n ≤ xs.length →
    ∃ sum : UInt32, (List.range n).foldlM (fun sum k => do some (sum + (← xs[head + k]?))) 0 = some sum ∧
      sum.toNat = total ((xs.drop head).take n) % 2 ^ 32
  | 0, _ => ⟨0, rfl, rfl⟩
  | n + 1, hn => by
    obtain ⟨sum, hsum, htotal⟩ := sum_spec xs head n (Nat.le_of_succ_le hn)
    have hlt : head + n < xs.length := hn
    refine ⟨sum + xs[head + n], ?_, ?_⟩
    · rw [foldlM_range_succ hsum, List.getElem?_eq_getElem hlt]
      rfl
    · have htake : (xs.drop head).take (n + 1) = (xs.drop head).take n ++ [xs[head + n]] := by
        rw [List.take_add_one, List.getElem?_drop, List.getElem?_eq_getElem hlt, Option.toList_some]
      rw [UInt32.toNat_add, htotal, htake, total, total, List.map_append, List.sum_append]
      simp

/-- the range does not wrap around -/
theorem range_eq {depth ignore_num : UInt8} (h : 2 * ignore_num.toNat < depth.toNat) :
    (depth - ignore_num * 2).toNat = depth.toNat - 2 * ignore_num.toNat := by
  have hlt := depth.toNat_lt
  have htwo : (2 : UInt8).toNat = 2 := rfl
  have hmul : (ignore_num * 2).toNat = 2 * ignore_num.toNat := by
    rw [UInt8.toNat_mul, htwo]
    omega
  rw [UInt8.toNat_sub_of_le _ _ (UInt8.le_iff_toNat_le.2 (by omega)), hmul]

/-- **The average** over what lies between the ends of the stack. -/
theorem averageValue_eq {depth ignore_num : UInt8} {stack w : List UInt32} (hw : stack.take depth.toNat = w)
    (hlen : w.length = depth.toNat) (hg : 2 * ignore_num.toNat < depth.toNat)
    (hfits : total (middle ignore_num.toNat w) < 2 ^ 32) :
    ∃ value, lumeterGetAverageValue stack depth ignore_num = some value ∧
      value.toNat = mean (middle ignore_num.toNat w) := by
  have hrange := range_eq hg
  have hstack : depth.toNat ≤ stack.length := by
    rw [← hlen, ← hw, List.length_take]
    exact Nat.min_le_right _ _
  have hmiddle : (stack.drop ignore_num.toNat).take (depth.toNat - 2 * ignore_num.toNat) = middle ignore_num.toNat w := by
    rw [middle, hlen, ← hw, List.drop_take, List.take_take, Nat.min_eq_left (by omega)]
  obtain ⟨sum, hsum, htotal⟩ := sum_spec stack ignore_num.toNat (depth.toNat - 2 * ignore_num.toNat) (by omega)
  rw [hmiddle, Nat.mod_eq_of_lt hfits] at htotal
  have hne : depth - ignore_num * 2 ≠ 0 := by
    intro hzero
    rw [hzero] at hrange
    exact absurd hrange (by simp; omega)
  refine ⟨sum / (depth - ignore_num * 2).toUInt32, ?_, ?_⟩
  · rw [lumeterGetAverageValue, hrange, hsum]
    exact if_neg hne
  · rw [UInt32.toNat_div, htotal, UInt8.toNat_toUInt32, hrange, mean, length_middle, hlen]

/-! ## The last samples -/

/-- a sample and the depth at which it was taken -/
abbrev Sample := UInt32 × UInt8

/-- the last `n` elements -/
def lastN {α : Type*} (n : ℕ) (xs : List α) : List α := xs.drop (xs.length - n)

section LastN

variable {α : Type*} {n : ℕ}

theorem lastN_suffix (n : ℕ) (xs : List α) : lastN n xs <:+ xs := List.drop_suffix _ _

theorem length_lastN {xs : List α} (h : n ≤ xs.length) : (lastN n xs).length = n := by
  rw [lastN, List.length_drop]
  omega

theorem lastN_of_length_le {xs : List α} (h : xs.length ≤ n) : lastN n xs = xs := by
  rw [lastN, Nat.sub_eq_zero_of_le h, List.drop_zero]

theorem lastN_append (xs : List α) {ys : List α} (h : n ≤ ys.length) : lastN n (xs ++ ys) = lastN n ys := by
  rw [lastN, List.length_append, Nat.add_sub_assoc h, ← List.drop_drop, List.drop_left, lastN]

theorem map_lastN {β : Type*} (f : α → β) (xs : List α) : (lastN n xs).map f = lastN n (xs.map f) := by
  rw [lastN, lastN, List.map_drop, List.length_map]

end LastN

/-- the last `d` samples, the first one in the place of those that are missing -/
def window (d : ℕ) (xs : List UInt32) : List UInt32 := lastN d (List.replicate d (xs.headD 0) ++ xs)

/-- standing in once more makes no difference -/
theorem window_cons (d : ℕ) (x : UInt32) (xs : List UInt32) : window d (x :: xs) = lastN d (List.replicate d x ++ xs) := by
  have hlen : d ≤ (List.replicate d x ++ xs).length := by
    rw [List.length_append, List.length_replicate]
    exact Nat.le_add_right _ _
  have hcons : List.replicate d x ++ x :: xs = [x] ++ (List.replicate d x ++ xs) := by
    rw [← List.append_assoc, List.singleton_append, ← List.replicate_succ, List.replicate_succ', List.append_assoc,
      List.singleton_append]
  rw [window, List.headD_cons, hcons, lastN_append [x] hlen]

/-- the samples as if the first had been taken as often as the stack was deep -/
def filled : List Sample → List Sample
  | [] => []
  | x :: xs => List.replicate x.2.toNat x ++ xs

/-- the stack follows the samples: at every depth it ends with those last taken at it -/
def Follows (stack : Stack) (samples : List Sample) : Prop :=
  ∀ (d : UInt8) (xs : List Sample), d.toNat ≤ MAX_LUMETER_STACK_LEN → xs <:+ filled samples → (∀ x ∈ xs, x.2 = d) →
    xs.length ≤ d.toNat → xs.map Prod.fst <:+ stack.entries.take d.toNat

/-- the flag of a sensor says whether there has been a sample -/
structure Ready (stack : Stack) (init_flag : UInt8) (samples : List Sample) : Prop where
  follows : Follows stack samples
  flag : init_flag = if samples = [] then 1 else 0

section Samples

variable {stack : Stack} {init_flag depth : UInt8} {v : UInt32} {samples : List Sample}

theorem filled_concat (h : samples ≠ []) : filled (samples ++ [(v, depth)]) = filled samples ++ [(v, depth)] := by
  cases samples with
  | nil => exact absurd rfl h
  | cons x xs => rw [List.cons_append, filled, filled, List.append_assoc]

theorem length_take_stack (hd : depth.toNat ≤ MAX_LUMETER_STACK_LEN) : (stack.entries.take depth.toNat).length = depth.toNat := by
  rw [List.length_take, stack.size, Nat.min_eq_left hd]

/-- **A sample** at a depth the stack has room for. -/
theorem Ready.push (h : Ready stack init_flag samples) (hpos : 0 < depth.toNat)
    (hd : depth.toNat ≤ MAX_LUMETER_STACK_LEN) :
    ∃ t, lumeterPushNewDateToStack stack depth v init_flag = some (t, 0) ∧ Ready t 0 (samples ++ [(v, depth)]) := by
  have hflag : (0 : UInt8) = if samples ++ [(v, depth)] = [] then 1 else 0 :=
    (if_neg (List.append_ne_nil_of_right_ne_nil _ (List.cons_ne_nil _ _))).symm
  by_cases hfirst : samples = []
  · subst hfirst
    rw [h.flag, if_pos rfl]
    obtain ⟨t, ht, htake⟩ := @push_first stack depth v hd
    refine ⟨t, ht, fun d xs hroom hsuffix hdepth hlen => ?_, hflag⟩
    -- a suffix of as many copies of the first sample
    have hcopies : ∀ x ∈ xs, x = (v, depth) := fun x hx => by
      have hmem := hsuffix.subset hx
      rw [List.nil_append, filled, List.append_nil] at hmem
      exact List.eq_of_mem_replicate hmem
    cases xs with
    | nil => exact List.nil_suffix
    | cons x xs =>
      have hsame : depth = d := by
        rw [← hdepth x List.mem_cons_self, hcopies x List.mem_cons_self]
      subst hsame
      have hrep := List.eq_replicate_of_mem hcopies
      rw [hrep, List.map_replicate, htake]
      exact ⟨List.replicate (depth.toNat - (x :: xs).length) v, by
        rw [List.replicate_append_replicate, Nat.sub_add_cancel hlen]⟩
  · have hzero : init_flag = 0 := h.flag.trans (if_neg hfirst)
    subst hzero
    obtain ⟨t, ht, htake⟩ := @push_next stack depth 0 v (by decide) hpos hd
    refine ⟨t, ht, fun d xs hroom hsuffix hdepth hlen => ?_, hflag⟩
    rw [filled_concat hfirst] at hsuffix
    rcases List.suffix_concat_iff.1 hsuffix with rfl | ⟨xs', rfl, hsuffix'⟩
    · exact List.nil_suffix
    · have hsame : depth = d := hdepth (v, depth) (by simp)
      subst hsame
      rw [List.length_append, List.length_singleton] at hlen
      have hbefore := h.follows depth xs' hd hsuffix' (fun x hx => hdepth x (List.mem_append_left _ hx)) (by omega)
      -- the oldest entry is not among them
      obtain ⟨pre, hpre⟩ := hbefore
      have hlong := congrArg List.length hpre
      rw [List.length_append, List.length_map, length_take_stack hd] at hlong
      obtain ⟨a, pre, rfl⟩ : ∃ a rest, pre = a :: rest := List.exists_cons_of_length_pos (by omega)
      rw [htake, ← hpre, List.map_append]
      exact ⟨pre, by rw [List.cons_append, List.tail_cons, List.append_assoc]; rfl⟩

/-- so the stack holds the window, if the depth was the same for as long -/
theorem Ready.window (h : Ready stack init_flag samples) (hne : samples ≠ []) (hd : depth.toNat ≤ MAX_LUMETER_STACK_LEN)
    (hsettled : ∀ x ∈ lastN depth.toNat samples, x.2 = depth) :
    stack.entries.take depth.toNat = window depth.toNat (samples.map Prod.fst) := by
  obtain ⟨x, xs, rfl⟩ := List.exists_cons_of_ne_nil hne
  have hfollows := h.follows depth (lastN depth.toNat (filled (x :: xs))) hd (lastN_suffix _ _)
  -- a suffix of the stack of its whole length is the stack
  have hwhole : ∀ ys : List Sample, lastN depth.toNat (filled (x :: xs)) = ys → (∀ y ∈ ys, y.2 = depth) →
      ys.length = depth.toNat → stack.entries.take depth.toNat = ys.map Prod.fst := by
    rintro ys rfl hdepth hlen
    refine ((hfollows hdepth hlen.le).eq_of_length ?_).symm
    rw [List.length_map, hlen, length_take_stack hd]
  rcases Nat.lt_or_ge depth.toNat (x :: xs).length with hlong | hshort
  · have hxs : depth.toNat ≤ xs.length := Nat.le_of_lt_succ hlong
    have hcons : lastN depth.toNat (x :: xs) = lastN depth.toNat xs := lastN_append [x] hxs
    rw [hcons] at hsettled
    have hlen : depth.toNat ≤ (xs.map Prod.fst).length := by rwa [List.length_map]
    rw [hwhole (lastN depth.toNat xs) (lastN_append _ hxs) hsettled (length_lastN hxs), map_lastN, List.map_cons,
      window_cons, lastN_append _ hlen]
  · rw [lastN_of_length_le hshort] at hsettled
    have hx : x.2 = depth := hsettled x List.mem_cons_self
    have hfilled : filled (x :: xs) = List.replicate depth.toNat x ++ xs := by rw [filled, hx]
    have hlen : depth.toNat ≤ (List.replicate depth.toNat x ++ xs).length := by
      rw [List.length_append, List.length_replicate]
      exact Nat.le_add_right _ _
    have hall : ∀ y ∈ lastN depth.toNat (List.replicate depth.toNat x ++ xs), y.2 = depth := fun y hy => by
      rcases List.mem_append.1 ((lastN_suffix _ _).subset hy) with hy | hy
      · rw [List.eq_of_mem_replicate hy, hx]
      · exact hsettled y (List.mem_cons_of_mem _ hy)
    rw [hwhole _ (by rw [hfilled]) hall (length_lastN hlen), map_lastN, List.map_append, List.map_replicate, List.map_cons,
      window_cons]

end Samples

/-! ## The trimmed mean -/

/-- the mean without the `g` smallest and the `g` greatest -/
def trimmedMean (g : ℕ) (xs : List UInt32) : ℕ := mean (middle g (xs.mergeSort (· ≤ ·)))

/-- **The sorted copy.** The average over it would be the trimmed mean. -/
theorem averageValue_sorted {depth ignore_num : UInt8} {w : List UInt32} (hlen : w.length = depth.toNat)
    (hg : 2 * ignore_num.toNat < depth.toNat) (hfits : total (middle ignore_num.toNat (bubbleSort depth.toNat w)) < 2 ^ 32) :
    ∃ value, lumeterGetAverageValue (bubbleSort depth.toNat w) depth ignore_num = some value ∧
      value.toNat = trimmedMean ignore_num.toNat w := by
  have hsort : bubbleSort depth.toNat w = w.mergeSort (· ≤ ·) := by rw [← hlen, bubbleSort_eq]
  have hlength : (bubbleSort depth.toNat w).length = depth.toNat := by rw [hsort, List.length_mergeSort, hlen]
  obtain ⟨value, hvalue, hmean⟩ := averageValue_eq (List.take_of_length_le hlength.le) hlength hg hfits
  exact ⟨value, hvalue, by rw [hmean, hsort, trimmedMean]⟩

/-- the samples up to one taken at depth `d` with `g` to ignore: the stack is deep enough and was as deep at the last `d` of
them, and those on it between its ends add up, in 32 bits, to what those between the smallest and the greatest do -/
structure Even (d g : UInt8) (samples : List Sample) : Prop where
  room : d.toNat ≤ MAX_LUMETER_STACK_LEN
  trimmed : 2 * g.toNat < d.toNat
  settled : ∀ x ∈ lastN d.toNat samples, x.2 = d
  ends : total (middle g.toNat (window d.toNat (samples.map Prod.fst))) =
    total (middle g.toNat ((window d.toNat (samples.map Prod.fst)).mergeSort (· ≤ ·)))
  fits : total (middle g.toNat (window d.toNat (samples.map Prod.fst))) < 2 ^ 32

/-- **One sample** of a sensor. -/
theorem sample_spec {basic : BasicConfig} {s : SensorState} {init_flag : UInt8} {samples : List Sample} {v : UInt32}
    (h : Ready s.stack init_flag samples) (hv : Even basic.stack_depth basic.ignore_num (samples ++ [(v, basic.stack_depth)]))
    (now : UInt32) : ∃ t, s.sample basic now v init_flag = some (t, 0) ∧
      Ready t.stack 0 (samples ++ [(v, basic.stack_depth)]) ∧ t.address = s.address ∧ t.channel = s.channel ∧
      t.value.toNat = trimmedMean basic.ignore_num.toNat
        (window basic.stack_depth.toNat ((samples ++ [(v, basic.stack_depth)]).map Prod.fst)) := by
  have hpos : 0 < basic.stack_depth.toNat := by
    have htrimmed := hv.trimmed
    omega
  have hne : samples ++ [(v, basic.stack_depth)] ≠ [] := List.append_ne_nil_of_right_ne_nil _ (List.cons_ne_nil _ _)
  obtain ⟨stack, hpush, hready⟩ := h.push (v := v) hpos hv.room
  have hwindow := hready.window hne hv.room hv.settled
  have hlen : (window basic.stack_depth.toNat ((samples ++ [(v, basic.stack_depth)]).map Prod.fst)).length =
      basic.stack_depth.toNat := by rw [← hwindow, length_take_stack hv.room]
  obtain ⟨value, hvalue, hmean⟩ := averageValue_eq hwindow hlen hv.trimmed hv.fits
  have htrimmed : value.toNat = trimmedMean basic.ignore_num.toNat
      (window basic.stack_depth.toNat ((samples ++ [(v, basic.stack_depth)]).map Prod.fst)) := by
    rw [hmean, trimmedMean, mean, mean, hv.ends, length_middle, length_middle, List.length_mergeSort]
  rw [SensorState.sample, hpush, Option.bind_eq_bind, Option.bind_some]
  simp only [hvalue]
  split_ifs
  · exact ⟨_, rfl, hready, rfl, rfl, htrimmed⟩
  · exact ⟨_, rfl, hready, rfl, rfl, htrimmed⟩

/-! ## Runs -/

/-- the depth and the number to ignore are set, or a reply is accepted -/
inductive Event where
  | configure (basic : BasicConfig)
  | sample (now : UInt32) (address channel : UInt8) (value : UInt32)

def Receiver.step (r : Receiver) : Event → Option Receiver
  | .configure basic => some { r with basic := basic }
  | .sample now address channel value => r.handle now ⟨address, channel, 1, value⟩

/-- a reply that is accepted is such a sample -/
theorem recv_accepted {now : UInt32} {buf : List UInt8} {c t : CollectState} (r : Receiver)
    (h : analysisBuiltOutLumeterFrame buf c = some (1, t)) (hupdate : t.update = 1) :
    lumeterRecvAndHandleDeviceFrame now buf c r = r.step (.sample now t.address t.channel t.value) := by
  have hsample : (⟨t.address, t.channel, 1, t.value⟩ : CollectState) = t := by rw [← hupdate]
  rw [lumeterRecvAndHandleDeviceFrame, h, Receiver.step, hsample]
  rfl

/-- what has been set, and the samples of each sensor -/
structure Log where
  basic : BasicConfig
  samples : ℕ → List Sample

/-- an accepted sample, with the sensor it is of; without a depth none is taken -/
def Log.accepts (find : UInt8 → UInt8 → Option ℕ) (l : Log) : Event → Option (ℕ × UInt32)
  | .configure _ => none
  | .sample _ address channel value =>
    if l.basic.stack_depth = 0 then none else (find address channel).map fun i => (i, value)

def Log.add (l : Log) (i : ℕ) (v : UInt32) : List Sample := l.samples i ++ [(v, l.basic.stack_depth)]

def Log.next (find : UInt8 → UInt8 → Option ℕ) (l : Log) (e : Event) : Log where
  basic := match e with
    | .configure basic => basic
    | .sample .. => l.basic
  samples := match l.accepts find e with
    | none => l.samples
    | some (i, v) => Function.update l.samples i (l.add i v)

/-- a step whose sample, if it is accepted, is even -/
def Log.StepEven (find : UInt8 → UInt8 → Option ℕ) (l : Log) (e : Event) : Prop :=
  ∀ i v, l.accepts find e = some (i, v) → Even l.basic.stack_depth l.basic.ignore_num (l.add i v)

/-- so are those of all steps -/
def Log.AllEven (find : UInt8 → UInt8 → Option ℕ) : Log → List Event → Prop
  | _, [] => True
  | l, e :: es => l.StepEven find e ∧ (l.next find e).AllEven find es

/-- before the first sample -/
def Receiver.log (r : Receiver) : Log := ⟨r.basic, fun _ => []⟩

/-- the receiver after the steps of a log -/
structure Keeps (find : UInt8 → UInt8 → Option ℕ) (r : Receiver) (l : Log) : Prop where
  find : r.find = find
  basic : r.basic = l.basic
  ready : ∀ i, Ready (r.state i).stack (r.init_flag i) (l.samples i)

section Runs

variable {find : UInt8 → UInt8 → Option ℕ} {r : Receiver} {l : Log}

theorem find_congr {r s : Receiver} (hnumber : s.number = r.number)
    (haddress : ∀ i, (s.state i).address = (r.state i).address) (hchannel : ∀ i, (s.state i).channel = (r.state i).channel) :
    s.find = r.find := by
  funext address channel
  simp only [Receiver.find, hnumber, haddress, hchannel]

/-- what a step does to the sensors -/
theorem Keeps.step (h : Keeps find r l) {e : Event} (he : l.StepEven find e) :
    ∃ s, r.step e = some s ∧ Keeps find s (l.next find e) ∧ ∀ i v, l.accepts find e = some (i, v) →
      (s.state i).value.toNat = trimmedMean l.basic.ignore_num.toNat
        (window l.basic.stack_depth.toNat ((l.add i v).map Prod.fst)) := by
  cases e with
  | configure basic => exact ⟨_, rfl, ⟨h.find, rfl, h.ready⟩, fun i v hi => absurd hi.symm (Option.some_ne_none _)⟩
  | sample now address channel value =>
    simp only [Receiver.step, Receiver.handle, true_and, h.find, h.basic]
    by_cases hdepth : l.basic.stack_depth = 0
    · have hnone : l.accepts find (.sample now address channel value) = none := if_pos hdepth
      rw [if_neg (not_not.2 hdepth), Log.next, hnone]
      exact ⟨r, rfl, ⟨h.find, h.basic, h.ready⟩, fun i v hi => absurd hi.symm (Option.some_ne_none _)⟩
    · have haccepts : l.accepts find (.sample now address channel value) =
          (find address channel).map fun i => (i, value) := if_neg hdepth
      rw [if_pos hdepth, Log.next, haccepts]
      cases hfind : find address channel with
      | none => exact ⟨r, rfl, ⟨h.find, h.basic, h.ready⟩, fun i v hi => absurd hi.symm (Option.some_ne_none _)⟩
      | some i =>
        rw [hfind] at haccepts
        obtain ⟨t, ht, hready, haddress, hchannel, hvalue⟩ := sample_spec (h.ready i) (he i value haccepts) now
        refine ⟨⟨l.basic, r.number, r.fits, Function.update r.state i t, Function.update r.init_flag i 0⟩,
          by simp only [ht]; rfl, ⟨?_, rfl, fun k => ?_⟩, fun k v hk => ?_⟩
        · rw [← h.find]
          refine find_congr rfl (fun k => ?_) fun k => ?_
          · rcases eq_or_ne k i with rfl | hk
            · simpa using haddress
            · simp [hk]
          · rcases eq_or_ne k i with rfl | hk
            · simpa using hchannel
            · simp [hk]
        · rcases eq_or_ne k i with rfl | hk
          · simpa [Log.add] using hready
          · simpa [hk] using h.ready k
        · obtain ⟨rfl, rfl⟩ := Prod.mk.inj (Option.some.inj hk)
          simpa [Log.add] using hvalue

/-- a run of steps -/
theorem Keeps.run (es : List Event) : ∀ {r : Receiver} {l : Log}, Keeps find r l → l.AllEven find es →
    ∃ s, es.foldlM Receiver.step r = some s ∧ Keeps find s (es.foldl (Log.next find) l) := by
  induction es with
  | nil => exact fun h _ => ⟨_, rfl, h⟩
  | cons e es ih =>
    intro r l h heven
    obtain ⟨s, hs, hkeeps, -⟩ := h.step heven.1
    obtain ⟨t, ht, hrun⟩ := ih hkeeps heven.2
    exact ⟨t, by rw [List.foldlM_cons, hs]; exact ht, hrun⟩

theorem allEven_concat (es : List Event) (e : Event) : ∀ l : Log, l.AllEven find (es ++ [e]) ↔
    l.AllEven find es ∧ (es.foldl (Log.next find) l).StepEven find e := by
  induction es with
  | nil => exact fun l => ⟨fun h => ⟨trivial, h.1⟩, fun h => ⟨h.2, trivial⟩⟩
  | cons e' es ih => exact fun l => (and_congr_right fun _ => ih _).trans and_assoc.symm

end Runs

/-- before the first sample the flags are set -/
theorem keeps_start {r : Receiver} (h : ∀ i, r.init_flag i = 1) : Keeps r.find r r.log where
  find := rfl
  basic := rfl
  ready i := ⟨fun d xs _ hsuffix _ _ => by rw [List.suffix_nil.1 hsuffix]; exact List.nil_suffix, h i⟩

/-- **The light sensors' values.** In a run whose samples are all even, no step reads or writes outside the stack or divides
by zero, and each accepted sample makes the value of its sensor the trimmed mean of the last samples. -/
theorem average_of_run (r : Receiver) (hstart : ∀ i, r.init_flag i = 1) (es : List Event) (e : Event)
    (heven : r.log.AllEven r.find (es ++ [e])) :
    ∃ s t, es.foldlM Receiver.step r = some s ∧ s.step e = some t ∧
      ∀ i v, (es.foldl (Log.next r.find) r.log).accepts r.find e = some (i, v) →
        (t.state i).value.toNat = trimmedMean (es.foldl (Log.next r.find) r.log).basic.ignore_num.toNat
          (window (es.foldl (Log.next r.find) r.log).basic.stack_depth.toNat
            (((es.foldl (Log.next r.find) r.log).add i v).map Prod.fst)) := by
  obtain ⟨hes, he⟩ := (allEven_concat es e _).1 heven
  obtain ⟨s, hs, hkeeps⟩ := (keeps_start hstart).run es hes
  obtain ⟨t, ht, -, hvalue⟩ := hkeeps.step he
  exact ⟨s, t, hs, ht, hvalue⟩

/-! ## One sensor -/

theorem oneSensor_fits : 1 ≤ MAX_LUMETER_CONF_NUM := by decide

/-- a sensor at address 5 and channel 1, before its first sample -/
def oneSensor (stack_depth ignore_num : UInt8) : Receiver where
  basic := ⟨stack_depth, ignore_num⟩
  number := 1
  fits := oneSensor_fits
  state _ := ⟨5, 1, 0, 0, 0, 0, 0, ⟨List.replicate MAX_LUMETER_STACK_LEN 0, List.length_replicate⟩, 0⟩
  init_flag _ := 1

/-- a sample of it -/
def taken (value : UInt32) : Event := .sample 0 5 1 value

/-- the first sample -/
theorem first_value : ∃ t, (oneSensor 3 1).step (taken 7) = some t ∧ (t.state 0).value.toNat = trimmedMean 1 [7, 7, 7] := by
  obtain ⟨s, t, hs, ht, hvalue⟩ := average_of_run (oneSensor 3 1) (fun _ => rfl) [] (taken 7) (by
    refine ⟨fun i v hi => ?_, trivial⟩
    obtain ⟨rfl, rfl⟩ : 0 = i ∧ (7 : UInt32) = v := Prod.mk.inj (Option.some.inj hi)
    exact ⟨by decide, by decide, List.all_iff_forall_prop.1 (by decide), by rw [← bubbleSort_eq]; decide, by decide⟩)
  obtain rfl := Option.some.inj hs
  exact ⟨t, ht, hvalue 0 7 rfl⟩

/-- **Not the trimmed mean.** With three samples to keep and one to ignore at each end, the samples 5, 9 and 1 give 9; with
four and two the first one divides by zero. -/
theorem not_trimmed :
    ([5, 9, 1].foldlM (fun r v => Receiver.step r (taken v)) (oneSensor 3 1)).map (fun r => (r.state 0).value.toNat) ≠
        some (trimmedMean 1 (window 3 [5, 9, 1])) ∧
      (oneSensor 4 2).step (taken 7) = none := by
  have hvalue : ([5, 9, 1].foldlM (fun r v => Receiver.step r (taken v)) (oneSensor 3 1)).map
      (fun r => (r.state 0).value.toNat) = some 9 := by decide +kernel
  have hmean : trimmedMean 1 (window 3 [5, 9, 1]) = 5 := by
    rw [trimmedMean, ← bubbleSort_eq]
    decide
  refine ⟨by rw [hvalue, hmean]; decide, ?_⟩
  have hnone : ((oneSensor 4 2).step (taken 7)).isNone = true := by decide +kernel
  exact Option.isNone_iff_eq_none.1 hnone

end DataConcentrator.Lumeter
