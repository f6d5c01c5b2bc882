/-
A list whose entries start at given times of the day.

- `inForce`: the last entry that has started, or the last of the list before any has;
- `inForce_next`: a minute later the same entry is in force, unless one starts then;
- `head?_dueAt_iff`: the first entry that starts now is the one in force exactly when no other starts now.
-/
import Mathlib.Tactic

namespace Schedule

variable {ι : Type*} (time : ι → ℕ) (n : ℕ)

/-- the entries that start at `n` or have started before -/
def started (l : List ι) : List ι := l.filter fun i => time i ≤ n

/-- the entries that start at `n` -/
def dueAt (l : List ι) : List ι := l.filter fun i => time i = n

def inForce (l : List ι) : Option ι := (started time n l).getLast?.or l.getLast?

variable {time n}

@[simp] theorem mem_started {i : ι} {l : List ι} : i ∈ started time n l ↔ i ∈ l ∧ time i ≤ n := by
  rw [started, List.mem_filter, decide_eq_true_eq]

@[simp] theorem mem_dueAt {i : ι} {l : List ι} : i ∈ dueAt time n l ↔ i ∈ l ∧ time i = n := by
  rw [dueAt, List.mem_filter, decide_eq_true_eq]

theorem started_cons_of_le {a : ι} (ha : time a ≤ n) (l : List ι) :
    started time n (a :: l) = a :: started time n l := List.filter_cons_of_pos (decide_eq_true ha)

theorem started_cons_of_lt {a : ι} (ha : n < time a) (l : List ι) : started time n (a :: l) = started time n l :=
  List.filter_cons_of_neg (by simpa using ha)

theorem dueAt_cons_of_eq {a : ι} (ha : time a = n) (l : List ι) : dueAt time n (a :: l) = a :: dueAt time n l :=
  List.filter_cons_of_pos (decide_eq_true ha)

theorem dueAt_cons_of_ne {a : ι} (ha : time a ≠ n) (l : List ι) : dueAt time n (a :: l) = dueAt time n l :=
  List.filter_cons_of_neg (by simpa using ha)

/-- nothing has started before the first entry does -/
theorem started_eq_nil {l : List ι} (h : ∀ i ∈ l, n < time i) : started time n l = [] :=
  List.filter_eq_nil_iff.2 fun i hi => by simpa using h i hi

theorem dueAt_eq_nil {l : List ι} (h : ∀ i ∈ l, time i ≠ n) : dueAt time n l = [] :=
  List.filter_eq_nil_iff.2 fun i hi => by simpa using h i hi

/-- where nothing is earlier, what has started starts now -/
theorem started_eq_dueAt {l : List ι} (h : ∀ i ∈ l, n ≤ time i) : started time n l = dueAt time n l := by
  refine List.filter_congr fun i hi => ?_
  have hi := h i hi
  exact decide_eq_decide.2 ⟨fun hle => le_antisymm hle hi, fun heq => heq.le⟩

/-- an entry before others that have started is not in force -/
theorem inForce_cons_of_started {a b : ι} {l : List ι} (hb : b ∈ started time n l) :
    inForce time n (a :: l) = inForce time n l := by
  have hne : started time n l ≠ [] := List.ne_nil_of_mem hb
  have hlast : (started time n (a :: l)).getLast? = (started time n l).getLast? := by
    rcases le_or_gt (time a) n with ha | ha
    · rw [started_cons_of_le ha, List.getLast?_cons_of_ne_nil hne]
    · rw [started_cons_of_lt ha]
  rw [inForce, inForce, hlast, List.getLast?_eq_some_getLast hne]
  rfl

/-- nor is one that has not started, before others -/
theorem inForce_cons_of_lt {a : ι} (ha : n < time a) {l : List ι} (hl : l ≠ []) :
    inForce time n (a :: l) = inForce time n l := by
  rw [inForce, inForce, started_cons_of_lt ha, List.getLast?_cons_of_ne_nil hl]

/-- an entry that has started is in force while the ones after it have not -/
theorem inForce_cons_of_le {a : ι} (ha : time a ≤ n) {l : List ι} (h : ∀ i ∈ l, n < time i) :
    inForce time n (a :: l) = some a := by
  rw [inForce, started_cons_of_le ha, started_eq_nil h]
  rfl

/-- a minute later the same entry is in force, unless one starts then; after the last minute of the day comes its
first -/
theorem inForce_next {day : ℕ} {l : List ι} (hl : ∀ i ∈ l, time i < day) (hn : n < day)
    (hnext : ∀ i ∈ l, time i ≠ (n + 1) % day) : inForce time ((n + 1) % day) l = inForce time n l := by
  rcases Nat.lt_or_eq_of_le (Nat.succ_le_of_lt hn) with hlt | heq
  · have hmod : (n + 1) % day = n + 1 := Nat.mod_eq_of_lt hlt
    have hstarted : started time (n + 1) l = started time n l := by
      refine List.filter_congr fun i hi => decide_eq_decide.2 ⟨fun hle => ?_, fun hle => hle.trans (Nat.le_succ n)⟩
      have hne : time i ≠ n + 1 := hmod ▸ hnext i hi
      exact Nat.lt_succ_iff.1 (lt_of_le_of_ne hle hne)
    rw [hmod, inForce, inForce, hstarted]
  · -- midnight: all have started by the last minute, and none by the first
    have hmod : (n + 1) % day = 0 := by rw [← heq, Nat.mod_self]
    have hnone : started time 0 l = [] :=
      started_eq_nil fun i hi => Nat.pos_of_ne_zero (hmod ▸ hnext i hi)
    have hall : started time n l = l := by
      refine List.filter_eq_self.2 fun i hi => decide_eq_true ?_
      exact Nat.lt_succ_iff.1 (heq ▸ hl i hi)
    rw [hmod, inForce, inForce, hnone, hall, Option.or_self]
    rfl

/-- in a list in the order of its times, the last entry that starts now is in force -/
theorem inForce_of_due {l : List ι} (hs : l.Pairwise fun i j => time i ≤ time j) (hdue : dueAt time n l ≠ []) :
    inForce time n l = (dueAt time n l).getLast? := by
  induction l with
  | nil => exact absurd rfl hdue
  | cons a l ih =>
    obtain ⟨ha, hs⟩ := List.pairwise_cons.1 hs
    rcases lt_trichotomy (time a) n with hlt | heq | hgt
    · rw [dueAt_cons_of_ne hlt.ne] at hdue ⊢
      obtain ⟨b, hb⟩ := List.exists_mem_of_ne_nil _ hdue
      obtain ⟨hbl, hbn⟩ := mem_dueAt.1 hb
      rw [inForce_cons_of_started (mem_started.2 ⟨hbl, hbn.le⟩)]
      exact ih hs hdue
    · have hall : ∀ i ∈ a :: l, n ≤ time i := by
        intro i hi
        rcases List.mem_cons.1 hi with rfl | hi
        · exact heq.ge
        · exact heq.ge.trans (ha i hi)
      rw [inForce, started_eq_dueAt hall, dueAt_cons_of_eq heq, List.getLast?_eq_some_getLast (List.cons_ne_nil _ _)]
      rfl
    · refine absurd (dueAt_eq_nil fun i hi => ?_) hdue
      rcases List.mem_cons.1 hi with rfl | hi
      · exact hgt.ne'
      · exact (hgt.trans_le (ha i hi)).ne'

/-- **Several entries at one time.** -/
theorem head?_dueAt_iff {l : List ι} (hs : l.Pairwise fun i j => time i ≤ time j) (hd : l.Nodup) :
    (dueAt time n l).head?.or (inForce time n l) = inForce time n l ↔ (dueAt time n l).length ≤ 1 := by
  have hforce := inForce_of_due (n := n) hs
  have hnodup : (dueAt time n l).Nodup := hd.filter _
  cases hdue : dueAt time n l with
  | nil => exact ⟨fun _ => Nat.zero_le 1, fun _ => rfl⟩
  | cons a d =>
    rw [hdue] at hforce hnodup
    rw [hforce (List.cons_ne_nil a d)]
    cases d with
    | nil => exact ⟨fun _ => le_rfl, fun _ => rfl⟩
    | cons b d =>
      constructor
      · intro h
        rw [List.getLast?_cons_of_ne_nil (List.cons_ne_nil b d), List.getLast?_eq_some_getLast (List.cons_ne_nil b d)] at h
        have hmem : a ∈ b :: d := (Option.some.inj h) ▸ List.getLast_mem (List.cons_ne_nil b d)
        exact absurd hmem (List.nodup_cons.1 hnodup).1
      · exact fun h => absurd h (by simp)

end Schedule
