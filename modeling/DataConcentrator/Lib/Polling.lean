/-
A master that polls over one line: it sends the first request of its queue, looks so many times for an answer, and sends
it again a few times as long as there is none.

- `accounts_run`: what was asked is served in its order, each request sent in a row, and given up only after the last
  time;
- `answers_look`: an answer is taken for the request that is waited for, and for one request at most one is;
- `served_of_looks`: whatever the line does, a request is served after so many looks.
-/
import Mathlib.Tactic

namespace Polling

/-! ## The master -/

/-- a request that is done with, how often it was sent, and its answer -/
structure Served (R A : Type*) where
  request : R
  sends : ℕ
  answer : Option A

inductive Phase (R : Type*) where
  | ready
  | waiting (r : R) (resent left : ℕ)
  | pause

structure Master (R A : Type*) where
  queue : List R
  phase : Phase R
  sent : List R
  done : List (Served R A)

inductive Move (R A : Type*) where
  | ask (r : R)
  | look (a : Option A)

variable {R A : Type*}

def start : Master R A := ⟨[], .ready, [], []⟩

/-- the request is sent for another `window` looks -/
def Master.send (window : ℕ) (m : Master R A) (r : R) (resent : ℕ) : Master R A :=
  { m with phase := .waiting r resent window, sent := m.sent ++ [r] }

def Master.finish (m : Master R A) (r : R) (resent : ℕ) (a : Option A) : Master R A :=
  { m with phase := .pause, done := m.done ++ [⟨r, resent + 1, a⟩] }

/-- one look at the line -/
def Master.look (resends window : ℕ) (m : Master R A) (a : Option A) : Master R A :=
  match m.phase, m.queue with
  | .ready, [] => { m with phase := .pause }
  | .ready, r :: rest => { m with queue := rest }.send window r 0
  | .waiting r resent left, _ =>
    if a.isSome then m.finish r resent a
    else if 1 < left then { m with phase := .waiting r resent (left - 1) }
    else if resent < resends then m.send window r (resent + 1)
    else m.finish r resent none
  | .pause, _ => { m with phase := .ready }

def step (resends window : ℕ) (m : Master R A) : Move R A → Master R A
  | .ask r => { m with queue := m.queue ++ [r] }
  | .look a => m.look resends window a

def run (resends window : ℕ) (m : Master R A) (moves : List (Move R A)) : Master R A :=
  moves.foldl (step resends window) m

/-- the requests of a run, in the order they came in -/
def asked (moves : List (Move R A)) : List R := moves.filterMap fun
  | .ask r => some r
  | .look _ => none

def looks (moves : List (Move R A)) : ℕ := moves.countP fun
  | .ask _ => false
  | .look _ => true

def Phase.current : Phase R → List R
  | .waiting r _ _ => [r]
  | _ => []

/-- how often the request that is waited for was sent -/
def Phase.sent : Phase R → List R
  | .waiting r resent _ => List.replicate (resent + 1) r
  | _ => []

/-- the answers, in the order they were taken -/
def Master.answers (m : Master R A) : List A := m.done.filterMap Served.answer

/-! ## What was served -/

section Accounts

variable {resends window : ℕ}

/-- the counters are in their bounds -/
def Phase.Proper (resends window : ℕ) : Phase R → Prop
  | .waiting _ resent left => resent ≤ resends ∧ 0 < left ∧ left ≤ window
  | _ => True

/-- a request is given up after the last time it was sent -/
structure Fair (resends : ℕ) (t : Served R A) : Prop where
  once : 1 ≤ t.sends
  most : t.sends ≤ resends + 1
  given : t.answer = none → t.sends = resends + 1

/-- what was asked is done with, waited for or in the queue, and what was sent is all that -/
structure Accounts (resends window : ℕ) (rs : List R) (m : Master R A) : Prop where
  asked : rs = m.done.map Served.request ++ m.phase.current ++ m.queue
  sent : m.sent = (m.done.flatMap fun t => List.replicate t.sends t.request) ++ m.phase.sent
  fair : ∀ t ∈ m.done, Fair resends t
  proper : m.phase.Proper resends window

theorem accounts_start (resends window : ℕ) : Accounts resends window [] (start : Master R A) :=
  ⟨rfl, rfl, fun _ ht => absurd ht List.not_mem_nil, trivial⟩

variable {rs : List R} {m : Master R A}

theorem Accounts.ask (h : Accounts resends window rs m) (r : R) :
    Accounts resends window (rs ++ [r]) { m with queue := m.queue ++ [r] } where
  asked := by
    calc rs ++ [r] = (m.done.map Served.request ++ m.phase.current ++ m.queue) ++ [r] := by rw [← h.asked]
      _ = _ := List.append_assoc ..
  sent := h.sent
  fair := h.fair
  proper := h.proper

/-- a request is finished with a fair number of sends -/
theorem Accounts.finish {r : R} {resent left : ℕ} (h : Accounts resends window rs m)
    (hphase : m.phase = .waiting r resent left) {a : Option A} (ha : a = none → resent = resends) :
    Accounts resends window rs (m.finish r resent a) := by
  obtain ⟨hasked, hsent, hfair, hproper⟩ := h
  rw [hphase] at hasked hsent hproper
  refine ⟨?_, ?_, ?_, trivial⟩
  · simpa [Master.finish, Phase.current] using hasked
  · simpa [Master.finish, Phase.sent] using hsent
  · intro t ht
    rcases List.mem_append.1 ht with ht | ht
    · exact hfair t ht
    · obtain rfl := List.mem_singleton.1 ht
      exact ⟨Nat.le_add_left _ _, Nat.succ_le_succ hproper.1, fun hnone => congrArg Nat.succ (ha hnone)⟩

theorem Accounts.look (hw : 0 < window) (h : Accounts resends window rs m) (a : Option A) :
    Accounts resends window rs (m.look resends window a) := by
  obtain ⟨queue, phase, sent, done⟩ := m
  cases phase with
  | ready =>
    obtain ⟨hasked, hsent, hfair, -⟩ := h
    cases queue with
    | nil => exact ⟨hasked, hsent, hfair, trivial⟩
    | cons r rest =>
      refine ⟨?_, ?_, hfair, Nat.zero_le _, hw, le_rfl⟩
      · simpa [Master.look, Master.send, Phase.current] using hasked
      · simpa [Master.look, Master.send, Phase.sent] using hsent
  | waiting r resent left =>
    simp only [Master.look]
    split_ifs with hsome hlong hagain
    · exact h.finish rfl fun hnone => by rw [hnone] at hsome; exact absurd hsome Bool.false_ne_true
    · obtain ⟨hresent, -, hleft⟩ := h.proper
      exact ⟨h.asked, h.sent, h.fair, hresent, by omega, by omega⟩
    · refine ⟨h.asked, ?_, h.fair, hagain, hw, le_rfl⟩
      have hsent : sent = _ ++ List.replicate (resent + 1) r := h.sent
      simp only [Master.send, Phase.sent]
      rw [hsent, List.append_assoc, ← List.replicate_succ']
    · exact h.finish rfl fun _ => le_antisymm h.proper.1 (not_lt.1 hagain)
  | pause => exact ⟨h.asked, h.sent, h.fair, trivial⟩

/-- **What a run serves.** The requests are served in the order they came in; each is sent up to `resends + 1` times in a
row, and given up only after all of them. -/
theorem accounts_run (hw : 0 < window) (moves : List (Move R A)) : ∀ {m : Master R A} {rs : List R},
    Accounts resends window rs m → Accounts resends window (rs ++ asked moves) (run resends window m moves) := by
  induction moves with
  | nil =>
    intro m rs h
    rwa [show asked ([] : List (Move R A)) = [] from rfl, List.append_nil]
  | cons move moves ih =>
    intro m rs h
    cases move with
    | ask r =>
      have hnext := ih (h.ask r)
      rwa [List.append_assoc] at hnext
    | look a => exact ih (h.look hw a)

end Accounts

/-! ## The answers -/

section Answers

variable {resends window : ℕ} (m : Master R A) (a : Option A)

theorem answers_finish (r : R) (resent : ℕ) : (m.finish r resent a).answers = m.answers ++ a.toList := by
  cases a <;> simp [Master.answers, Master.finish]

/-- what a look adds to the answers: what it finds, if it is waiting -/
theorem answers_look : (m.look resends window a).answers =
    m.answers ++ match m.phase with
      | .waiting _ _ _ => a.toList
      | _ => [] := by
  obtain ⟨queue, phase, sent, done⟩ := m
  cases phase with
  | ready => cases queue <;> exact (List.append_nil _).symm
  | waiting r resent left =>
    simp only [Master.look]
    cases a with
    | some a => exact answers_finish _ _ _ _
    | none =>
      simp only [Option.isSome_none, Bool.false_eq_true, if_false]
      split_ifs
      · exact (List.append_nil _).symm
      · exact (List.append_nil _).symm
      · exact answers_finish _ _ _ _
  | pause => exact (List.append_nil _).symm

end Answers

/-! ## How long it takes -/

section Progress

variable (resends window : ℕ)

/-- the looks that one request takes at most -/
def span : ℕ := (resends + 1) * window + 2

/-- the looks after which request number `i` is done with at the latest -/
def cost (i : ℕ) (m : Master R A) : ℕ :=
  if i < m.done.length then 0
  else match m.phase with
    | .ready => (i - m.done.length + 1) * span resends window
    | .waiting _ resent left => (i - m.done.length) * span resends window + 1 + (resends - resent) * window + left
    | .pause => (i - m.done.length + 1) * span resends window + 1

variable {resends window} {i : ℕ} {rs : List R} {m : Master R A}

theorem cost_of_not_done (hi : ¬ i < m.done.length) : cost resends window i m = match m.phase with
    | .ready => (i - m.done.length + 1) * span resends window
    | .waiting _ resent left => (i - m.done.length) * span resends window + 1 + (resends - resent) * window + left
    | .pause => (i - m.done.length + 1) * span resends window + 1 := if_neg hi

/-- a request among those that were not finished before -/
theorem cost_finish (r : R) (resent : ℕ) (a : Option A) (hi : ¬ i < m.done.length) :
    cost resends window i (m.finish r resent a) ≤ (i - m.done.length) * span resends window + 1 := by
  have hlen : (m.finish r resent a).done.length = m.done.length + 1 := by simp [Master.finish]
  rw [cost, hlen]
  split_ifs with hdone
  · exact Nat.zero_le _
  · have hsub : i - (m.done.length + 1) + 1 = i - m.done.length := by omega
    simp only [Master.finish, hsub]
    exact le_rfl

/-- each look brings a request that was asked nearer to its end -/
theorem cost_look (h : Accounts resends window rs m) (hi : i < rs.length) (a : Option A) :
    cost resends window i (m.look resends window a) ≤ cost resends window i m - 1 := by
  by_cases hdone : i < m.done.length
  · have hgrow : m.done.length ≤ (m.look resends window a).done.length := by
      obtain ⟨queue, phase, sent, done⟩ := m
      cases phase with
      | ready => cases queue <;> exact le_rfl
      | waiting r resent left =>
        simp only [Master.look]
        split_ifs <;> simp [Master.finish, Master.send]
      | pause => exact le_rfl
    rw [cost, if_pos (hdone.trans_le hgrow)]
    exact Nat.zero_le _
  obtain ⟨queue, phase, sent, done⟩ := m
  dsimp only at hdone
  cases phase with
  | ready =>
    cases queue with
    | nil =>
      -- nothing is waiting: every request that was asked is done with
      have hlen := congrArg List.length h.asked
      simp only [Phase.current, List.append_nil, List.length_map] at hlen
      exact absurd (hlen ▸ hi) hdone
    | cons r rest =>
      rw [cost_of_not_done hdone, cost_of_not_done (by exact hdone)]
      simp only [Master.look, Master.send, span, Nat.sub_zero]
      rw [Nat.succ_mul (i - done.length), Nat.succ_mul resends]
      omega
  | waiting r resent left =>
    obtain ⟨hresent, hleft, -⟩ := h.proper
    have hcost : cost resends window i (⟨queue, .waiting r resent left, sent, done⟩ : Master R A) =
        (i - done.length) * span resends window + 1 + (resends - resent) * window + left := cost_of_not_done hdone
    rw [hcost]
    simp only [Master.look]
    split_ifs with hsome hlong hagain
    · have hfin : cost resends window i (Master.finish ⟨queue, .waiting r resent left, sent, done⟩ r resent a) ≤
          (i - done.length) * span resends window + 1 := cost_finish r resent a hdone
      omega
    · rw [cost_of_not_done (by exact hdone)]
      dsimp only
      omega
    · have hsucc : (resends - resent) * window = (resends - (resent + 1)) * window + window := by
        rw [← Nat.succ_mul, Nat.succ_eq_add_one, show resends - (resent + 1) + 1 = resends - resent by omega]
      rw [cost_of_not_done (by exact hdone), hsucc]
      simp only [Master.send]
      omega
    · have hfin : cost resends window i (Master.finish ⟨queue, .waiting r resent left, sent, done⟩ r resent none) ≤
          (i - done.length) * span resends window + 1 := cost_finish r resent none hdone
      omega
  | pause =>
    rw [cost_of_not_done hdone, cost_of_not_done (by exact hdone)]
    exact le_rfl

theorem done_of_cost (hi : cost resends window i m = 0) : i < m.done.length := by
  by_contra hdone
  rw [cost, if_neg hdone] at hi
  cases hphase : m.phase with
  | ready =>
    rw [hphase] at hi
    rcases Nat.mul_eq_zero.1 hi with hzero | hzero
    · exact absurd hzero (Nat.succ_ne_zero _)
    · exact absurd hzero (Nat.succ_ne_zero _)
  | waiting r resent left =>
    rw [hphase] at hi
    dsimp only at hi
    omega
  | pause =>
    rw [hphase] at hi
    exact absurd hi (Nat.succ_ne_zero _)

/-- **A request is served in time**, whatever is found on the line and whatever else is asked meanwhile. -/
theorem served_of_looks (hw : 0 < window) (moves : List (Move R A)) : ∀ {m : Master R A} {rs : List R},
    Accounts resends window rs m → i < rs.length → cost resends window i m ≤ looks moves →
    i < (run resends window m moves).done.length := by
  induction moves with
  | nil =>
    intro m rs h _ hcost
    exact done_of_cost (Nat.le_zero.1 hcost)
  | cons move moves ih =>
    intro m rs h hi hcost
    cases move with
    | ask r =>
      exact ih (h.ask r) (by rw [List.length_append]; exact Nat.lt_add_right _ hi) hcost
    | look a =>
      have hlooks : looks (Move.look a :: moves) = looks moves + 1 := List.countP_cons_of_pos rfl
      rw [hlooks] at hcost
      exact ih (h.look hw a) hi ((cost_look h hi a).trans (Nat.sub_le_of_le_add hcost))

/-- the most it can take -/
theorem cost_le (h : Accounts resends window rs m) :
    cost resends window i m ≤ (i - m.done.length + 1) * span resends window + 1 := by
  rw [cost]
  split_ifs with hdone
  · exact Nat.zero_le _
  · cases hphase : m.phase with
    | ready => exact Nat.le_succ _
    | waiting r resent left =>
      have hproper := h.proper
      rw [hphase] at hproper
      obtain ⟨-, -, hleft⟩ := hproper
      have hmul : (resends - resent) * window ≤ resends * window := Nat.mul_le_mul_right _ (Nat.sub_le _ _)
      dsimp only
      rw [Nat.succ_mul (i - m.done.length), span, Nat.succ_mul resends]
      omega
    | pause => exact le_rfl

end Progress

end Polling
