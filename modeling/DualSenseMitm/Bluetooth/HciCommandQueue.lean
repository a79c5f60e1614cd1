import Mathlib.Data.List.Basic
import DualSenseMitm.Common.Clock

/-!
# HCI commands, one at a time

Every Command Complete and Command Status carries how many commands the controller will accept right
now.  `HciCommandQueue` keeps the commands that have to wait for that: `next` offers the front of
the queue while the allowance lasts and the queue is not held, `written` and `dropped` take it off.

`pump` is the loop of `pump_commands`: write what `next` offers until it offers nothing.  Each
round takes one command off, so a fuel of the queue's length is enough, and `next_pump` says that
the loop really ends because `next` has nothing to offer.
-/

set_option autoImplicit false

namespace DualSenseMitm

/-- An HCI command as it waits in the queue. -/
structure Command where
  /-- Opcode group. -/
  ogf : UInt16 := 0
  /-- Opcode within the group. -/
  ocf : UInt16 := 0
  /-- The parameter block. -/
  param : List UInt8 := []
  /-- Names the command in the log. -/
  what : String := ""
  /-- A failure is expected and not worth a log line. -/
  quiet : Bool := false
deriving DecidableEq, Repr

/-- The commands waiting, and what the controller said it has room for. -/
structure HciCommandQueue where
  /-- Commands not yet written, oldest first. -/
  queue : List Command := []
  /-- The allowance; one before the controller has said anything. -/
  credits : UInt8 := 1
  /-- Nothing goes out, for the length of a reset. -/
  held : Bool := false
  /-- A command was written since the last answer. -/
  awaiting : Bool := false
  /-- When the last command was written. -/
  lastWrite : Time := noTime
  /-- How long an answer may take. -/
  timeout : Time := seconds 2
deriving DecidableEq, Repr

namespace HciCommandQueue

/-- `push`. -/
def push (c : Command) (q : HciCommandQueue) : HciCommandQueue := { q with queue := q.queue ++ [c] }

/-- The command to write now, if there is one and the controller has room. -/
def next (q : HciCommandQueue) : Option Command :=
  if q.held || q.credits == 0 || q.queue.isEmpty then none else q.queue.head?

/-- The command `next` returned has been written. -/
def written (now : Time) (q : HciCommandQueue) : HciCommandQueue :=
  if q.queue.isEmpty then q
  else
    { q with
      queue := q.queue.tail
      credits := if 0 < q.credits then q.credits - 1 else q.credits
      lastWrite := now
      awaiting := true }

/-- The write failed: it never reached the controller, so it costs no room. -/
def dropped (q : HciCommandQueue) : HciCommandQueue := { q with queue := q.queue.tail }

/-- A Command Complete or Command Status, for any opcode. -/
def answered (ncmd : UInt8) (q : HciCommandQueue) : HciCommandQueue :=
  { q with credits := ncmd, awaiting := false }

/-- `hold`. -/
def hold (q : HciCommandQueue) : HciCommandQueue := { q with held := true }

/-- `release`. -/
def release (q : HciCommandQueue) : HciCommandQueue := { q with held := false }

/-- A write that has had no answer for longer than the timeout. -/
def overdue (now : Time) (q : HciCommandQueue) : Bool :=
  q.awaiting && q.credits == 0 && decide (q.timeout < now - q.lastWrite)

/-- Stop waiting for it and let the queue move again. -/
def giveUp (q : HciCommandQueue) : HciCommandQueue := { q with awaiting := false, credits := 1 }

/-- The loop of `pump_commands`, from its `k`-th round on: `write k` says whether that round's write
succeeds and `clock k` when it happens.  The commands that left the queue come back in order, each
with whether it was written. -/
def pumpLoop (write : ℕ → Bool) (clock : ℕ → Time) :
    (fuel k : ℕ) → HciCommandQueue → List (Command × Bool) × HciCommandQueue
  | 0, _, q => ([], q)
  | fuel + 1, k, q =>
    match q.next with
    | none => ([], q)
    | some c =>
      let rest := pumpLoop write clock fuel (k + 1)
        (if write k then q.written (clock k) else q.dropped)
      ((c, write k) :: rest.1, rest.2)

/-- `pump_commands`. -/
def pump (write : ℕ → Bool) (clock : ℕ → Time) (q : HciCommandQueue) :
    List (Command × Bool) × HciCommandQueue :=
  pumpLoop write clock q.queue.length 0 q

/-! ## The fields each operation leaves alone -/

@[simp] theorem queue_push (q : HciCommandQueue) (c : Command) :
    (q.push c).queue = q.queue ++ [c] := rfl
@[simp] theorem queue_answered (q : HciCommandQueue) (n : UInt8) :
    (q.answered n).queue = q.queue := rfl
@[simp] theorem queue_hold (q : HciCommandQueue) : q.hold.queue = q.queue := rfl
@[simp] theorem queue_release (q : HciCommandQueue) : q.release.queue = q.queue := rfl
@[simp] theorem queue_giveUp (q : HciCommandQueue) : q.giveUp.queue = q.queue := rfl

@[simp] theorem held_push (q : HciCommandQueue) (c : Command) : (q.push c).held = q.held := rfl
@[simp] theorem held_written (q : HciCommandQueue) (now : Time) :
    (q.written now).held = q.held := by
  rw [written]
  split <;> rfl
@[simp] theorem held_dropped (q : HciCommandQueue) : q.dropped.held = q.held := rfl
@[simp] theorem held_answered (q : HciCommandQueue) (n : UInt8) :
    (q.answered n).held = q.held := rfl
@[simp] theorem held_hold (q : HciCommandQueue) : q.hold.held = true := rfl
@[simp] theorem held_release (q : HciCommandQueue) : q.release.held = false := rfl
@[simp] theorem held_giveUp (q : HciCommandQueue) : q.giveUp.held = q.held := rfl

@[simp] theorem credits_push (q : HciCommandQueue) (c : Command) :
    (q.push c).credits = q.credits := rfl
@[simp] theorem credits_dropped (q : HciCommandQueue) : q.dropped.credits = q.credits := rfl
@[simp] theorem credits_answered (q : HciCommandQueue) (n : UInt8) :
    (q.answered n).credits = n := rfl
@[simp] theorem credits_hold (q : HciCommandQueue) : q.hold.credits = q.credits := rfl
@[simp] theorem credits_release (q : HciCommandQueue) : q.release.credits = q.credits := rfl
@[simp] theorem credits_giveUp (q : HciCommandQueue) : q.giveUp.credits = 1 := rfl

/-! ## What `next` offers -/

/-- `next` offers the front of the queue, and only when nothing stands in the way. -/
theorem next_eq_some_iff {q : HciCommandQueue} {c : Command} :
    q.next = some c ↔ q.held = false ∧ q.credits ≠ 0 ∧ ∃ rest, q.queue = c :: rest := by
  rw [next]
  cases hq : q.queue with
  | nil => simp
  | cons d rest =>
    by_cases hh : q.held = true <;> by_cases hc : q.credits = 0 <;> simp [hh, hc]

/-- `next` offers nothing exactly when one of the three reasons holds. -/
theorem next_eq_none_iff {q : HciCommandQueue} :
    q.next = none ↔ q.queue = [] ∨ q.held = true ∨ q.credits = 0 := by
  rw [next]
  cases hq : q.queue with
  | nil => simp
  | cons d rest =>
    by_cases hh : q.held = true <;> by_cases hc : q.credits = 0 <;> simp [hh, hc]

theorem queue_written {q : HciCommandQueue} {c : Command} (h : q.next = some c) (now : Time) :
    q.queue = c :: (q.written now).queue := by
  obtain ⟨-, -, rest, hq⟩ := next_eq_some_iff.mp h
  simp [written, hq]

theorem queue_dropped {q : HciCommandQueue} {c : Command} (h : q.next = some c) :
    q.queue = c :: q.dropped.queue := by
  obtain ⟨-, -, rest, hq⟩ := next_eq_some_iff.mp h
  simp [dropped, hq]

/-- A write that was admitted costs one credit. -/
theorem credits_written {q : HciCommandQueue} {c : Command} (h : q.next = some c) (now : Time) :
    (q.written now).credits.toNat + 1 = q.credits.toNat := by
  obtain ⟨-, hc, rest, hq⟩ := next_eq_some_iff.mp h
  have hpos : 0 < q.credits := UInt8.pos_iff_ne_zero.mpr hc
  have h1 : 1 ≤ q.credits.toNat := Nat.succ_le_of_lt (UInt8.lt_iff_toNat_lt.mp hpos)
  have hle : (1 : UInt8) ≤ q.credits := UInt8.le_iff_toNat_le.mpr h1
  simp only [written, hq, List.isEmpty_cons, Bool.false_eq_true, if_false, if_pos hpos,
    UInt8.toNat_sub_of_le _ _ hle]
  simp
  omega

/-! ## What the loop does -/

/-- **The loop leaves with nothing to write**: a fuel of the queue's length is enough. -/
theorem next_pumpLoop (write : ℕ → Bool) (clock : ℕ → Time) (fuel k : ℕ) (q : HciCommandQueue)
    (hfuel : q.queue.length ≤ fuel) : (pumpLoop write clock fuel k q).2.next = none := by
  induction fuel generalizing k q with
  | zero =>
    have hq : q.queue = [] := List.length_eq_zero_iff.mp (Nat.le_zero.mp hfuel)
    simp [pumpLoop, next_eq_none_iff, hq]
  | succ fuel ih =>
    rw [pumpLoop]
    cases hn : q.next with
    | none => exact hn
    | some c =>
      apply ih
      split
      · have := congrArg List.length (queue_written hn (clock k))
        simp only [List.length_cons] at this
        omega
      · have := congrArg List.length (queue_dropped hn)
        simp only [List.length_cons] at this
        omega

theorem next_pump (write : ℕ → Bool) (clock : ℕ → Time) (q : HciCommandQueue) :
    (q.pump write clock).2.next = none :=
  next_pumpLoop write clock _ _ q (Nat.le_refl _)

/-- What left the queue is its front, in order. -/
theorem queue_pumpLoop (write : ℕ → Bool) (clock : ℕ → Time) (fuel k : ℕ) (q : HciCommandQueue) :
    q.queue = (pumpLoop write clock fuel k q).1.map Prod.fst
      ++ (pumpLoop write clock fuel k q).2.queue := by
  induction fuel generalizing k q with
  | zero => rfl
  | succ fuel ih =>
    rw [pumpLoop]
    cases hn : q.next with
    | none => rfl
    | some c =>
      rw [List.map_cons, List.cons_append, ← ih]
      split
      · exact queue_written hn _
      · exact queue_dropped hn

/-- A command leaves with the result of its own write: the `j`-th of the loop with that of round
`k + j`. -/
theorem wrote_pumpLoop {write : ℕ → Bool} {clock : ℕ → Time} {fuel k j : ℕ} {q : HciCommandQueue}
    {out : Command × Bool} (h : (pumpLoop write clock fuel k q).1[j]? = some out) :
    out.2 = write (k + j) := by
  induction fuel generalizing k j q with
  | zero => simp [pumpLoop] at h
  | succ fuel ih =>
    rw [pumpLoop] at h
    cases hn : q.next with
    | none => simp [hn] at h
    | some c =>
      rw [hn] at h
      cases j with
      | zero =>
        rw [List.getElem?_cons_zero, Option.some_inj] at h
        rw [← h, Nat.add_zero]
      | succ j =>
        rw [List.getElem?_cons_succ] at h
        rw [ih h, Nat.add_assoc, Nat.add_comm 1]

theorem queue_pump (write : ℕ → Bool) (clock : ℕ → Time) (q : HciCommandQueue) :
    q.queue = (q.pump write clock).1.map Prod.fst ++ (q.pump write clock).2.queue :=
  queue_pumpLoop write clock _ _ q

end HciCommandQueue

end DualSenseMitm
