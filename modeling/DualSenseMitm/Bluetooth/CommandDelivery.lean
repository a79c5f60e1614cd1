import Mathlib.Data.List.Induction
import DualSenseMitm.Bluetooth.HciCommandQueue
import DualSenseMitm.Lib.Machine

/-!
# What the command queue delivers, and when it can wedge

Two machines over `HciCommandQueue`.

The first runs `pump_commands` between the queue's other operations and keeps a log of everything
that matters: commands pushed, written and dropped, holds and releases, and each time the allowance
is set.  `Legal log q` is the log's grammar — every write is one that `next` offered — and what the
queue promises is read off it: nothing is reordered, lost or duplicated (`Legal.order`), nothing is
written while held (`Legal.not_held`), the writes since the allowance was last set fit in it
(`Legal.spent`), and the credits are what these writes have left of it, so that a failed write costs
nothing (`Legal.spent_add_credits`).  Each mark of a command that left says what that command's own
write did (`QueueOp.wrote_of_dropped`, `QueueOp.wrote_of_written`).  `command_delivery` is the whole
of it, for every sequence of operations.

The second keeps, beside the queue, the commands that were written and have had no answer *of their
own*.  The queue cannot see that: one flag, `awaiting`, stands for all of them, and any answer
clears it.  `Watched.recovers_iff` says exactly which runs that harms.
-/

set_option autoImplicit false

namespace DualSenseMitm

open Machine HciCommandQueue

/-! ## The log of a run -/

/-- What a run of the queue leaves behind. -/
inductive Mark
  | pushed (c : Command)
  | written (c : Command)
  | dropped (c : Command)
  | allowance (n : UInt8)
  | hold
  | release

/-- The command a mark says was pushed. -/
def Mark.pushed? : Mark → Option Command
  | .pushed c => some c
  | _ => none

/-- The command a mark says left the queue. -/
def Mark.gone? : Mark → Option Command
  | .written c => some c
  | .dropped c => some c
  | _ => none

/-- The mark is of a write. -/
def Mark.isWrite : Mark → Bool
  | .written _ => true
  | _ => false

/-- The mark sets the allowance. -/
def Mark.isAllowance : Mark → Bool
  | .allowance _ => true
  | _ => false

/-- Whether the queue is held behind a mark. -/
def Mark.heldNext (b : Bool) : Mark → Bool
  | .hold => true
  | .release => false
  | _ => b

/-- The allowance in force behind a mark. -/
def Mark.allowanceNext (n : ℕ) : Mark → ℕ
  | .allowance k => k.toNat
  | _ => n

/-- How much of the allowance is used up behind a mark. -/
def Mark.spentNext (n : ℕ) : Mark → ℕ
  | .allowance _ => 0
  | .written _ => n + 1
  | _ => n

/-- The commands pushed, in order. -/
def pushedIn (log : List Mark) : List Command := log.filterMap Mark.pushed?

/-- The commands that left the queue, written or dropped, in order. -/
def goneIn (log : List Mark) : List Command := log.filterMap Mark.gone?

/-- How many commands were written. -/
def writesIn (log : List Mark) : ℕ := log.countP Mark.isWrite

/-- Whether the last of the holds and releases was a hold. -/
def heldAfter (log : List Mark) : Bool := log.foldl Mark.heldNext false

/-- The allowance last set; a controller allows one command before it has said anything. -/
def allowanceAfter (log : List Mark) : ℕ := log.foldl Mark.allowanceNext 1

/-- The writes since the allowance was last set. -/
def spentAfter (log : List Mark) : ℕ := log.foldl Mark.spentNext 0

@[simp] theorem pushedIn_concat (log : List Mark) (m : Mark) :
    pushedIn (log ++ [m]) = pushedIn log ++ m.pushed?.toList := by
  cases m <;> simp [pushedIn, Mark.pushed?]

@[simp] theorem goneIn_concat (log : List Mark) (m : Mark) :
    goneIn (log ++ [m]) = goneIn log ++ m.gone?.toList := by
  cases m <;> simp [goneIn, Mark.gone?]

@[simp] theorem heldAfter_concat (log : List Mark) (m : Mark) :
    heldAfter (log ++ [m]) = m.heldNext (heldAfter log) := by
  simp [heldAfter]

@[simp] theorem allowanceAfter_concat (log : List Mark) (m : Mark) :
    allowanceAfter (log ++ [m]) = m.allowanceNext (allowanceAfter log) := by
  simp [allowanceAfter]

@[simp] theorem spentAfter_concat (log : List Mark) (m : Mark) :
    spentAfter (log ++ [m]) = m.spentNext (spentAfter log) := by
  simp [spentAfter]

/-- Between two settings of the allowance, the writes add up. -/
theorem spentAfter_append {pre mid : List Mark} (hmid : ∀ m ∈ mid, m.isAllowance = false) :
    spentAfter (pre ++ mid) = spentAfter pre + writesIn mid := by
  induction mid using List.reverseRecOn with
  | nil => simp [writesIn]
  | append_singleton mid m ih =>
    have hm := hmid m (by simp)
    rw [← List.append_assoc, spentAfter_concat, ih fun m' hm' ↦ hmid m' (by simp [hm'])]
    cases m <;> simp_all [Mark.spentNext, Mark.isAllowance, Mark.isWrite, writesIn, Nat.add_assoc]

theorem allowanceAfter_append {pre mid : List Mark} (hmid : ∀ m ∈ mid, m.isAllowance = false) :
    allowanceAfter (pre ++ mid) = allowanceAfter pre := by
  induction mid using List.reverseRecOn with
  | nil => simp
  | append_singleton mid m ih =>
    have hm := hmid m (by simp)
    rw [← List.append_assoc, allowanceAfter_concat, ih fun m' hm' ↦ hmid m' (by simp [hm'])]
    cases m <;> simp_all [Mark.allowanceNext, Mark.isAllowance]

/-- The logs the queue can produce, with the queue each leaves: a command is written or dropped
only as `next` offers it. -/
inductive Legal : List Mark → HciCommandQueue → Prop
  | start (timeout : Time) : Legal [] { timeout := timeout }
  | push {log q} (c : Command) : Legal log q → Legal (log ++ [.pushed c]) (q.push c)
  | written {log q} (c : Command) (now : Time) :
    Legal log q → q.next = some c → Legal (log ++ [.written c]) (q.written now)
  | dropped {log q} (c : Command) :
    Legal log q → q.next = some c → Legal (log ++ [.dropped c]) q.dropped
  | answered {log q} (n : UInt8) : Legal log q → Legal (log ++ [.allowance n]) (q.answered n)
  | hold {log q} : Legal log q → Legal (log ++ [.hold]) q.hold
  | release {log q} : Legal log q → Legal (log ++ [.release]) q.release
  | giveUp {log q} : Legal log q → Legal (log ++ [.allowance 1]) q.giveUp

namespace Legal

variable {log : List Mark} {q : HciCommandQueue}

/-- **Order.**  The commands pushed are those that left, in the same order, and then the queue. -/
theorem order (h : Legal log q) : pushedIn log = goneIn log ++ q.queue := by
  induction h with
  | start => rfl
  | push c _ ih => simp [ih, Mark.pushed?, Mark.gone?]
  | written c now _ hn ih =>
    rw [queue_written hn now] at ih
    simp [ih, Mark.pushed?, Mark.gone?]
  | dropped c _ hn ih =>
    rw [queue_dropped hn] at ih
    simp [ih, Mark.pushed?, Mark.gone?]
  | answered | hold | release | giveUp => simpa [Mark.pushed?, Mark.gone?]

/-- The queue is held exactly when the log says so. -/
theorem held (h : Legal log q) : q.held = heldAfter log := by
  induction h with
  | start => rfl
  | push | written | dropped | answered | giveUp => simpa [Mark.heldNext]
  | hold | release => simp [Mark.heldNext]

/-- The credits left are the allowance less what was written on it; a failed write costs
nothing. -/
theorem spent_add_credits (h : Legal log q) :
    spentAfter log + q.credits.toNat = allowanceAfter log := by
  induction h with
  | start => rfl
  | written c now _ hn ih =>
    have := credits_written hn now
    simp only [spentAfter_concat, allowanceAfter_concat, Mark.spentNext, Mark.allowanceNext]
    omega
  | answered | giveUp => simp [Mark.spentNext, Mark.allowanceNext]
  | push | dropped | hold | release => simpa [Mark.spentNext, Mark.allowanceNext]

/-- Cutting the last mark off a legal log leaves a legal log, which offered the command of a
write. -/
theorem concat {m : Mark} (h : Legal (log ++ [m]) q) :
    ∃ q', Legal log q' ∧ ∀ c, m = .written c → q'.next = some c := by
  generalize hl : log ++ [m] = l at h
  cases h with
  | start => simp at hl
  | push c hq =>
    obtain ⟨rfl, hm⟩ := List.append_inj' hl rfl
    exact ⟨_, hq, by simp_all⟩
  | written c now hq hn =>
    obtain ⟨rfl, hm⟩ := List.append_inj' hl rfl
    exact ⟨_, hq, by simp_all⟩
  | dropped c hq hn =>
    obtain ⟨rfl, hm⟩ := List.append_inj' hl rfl
    exact ⟨_, hq, by simp_all⟩
  | answered n hq =>
    obtain ⟨rfl, hm⟩ := List.append_inj' hl rfl
    exact ⟨_, hq, by simp_all⟩
  | hold hq =>
    obtain ⟨rfl, hm⟩ := List.append_inj' hl rfl
    exact ⟨_, hq, by simp_all⟩
  | release hq =>
    obtain ⟨rfl, hm⟩ := List.append_inj' hl rfl
    exact ⟨_, hq, by simp_all⟩
  | giveUp hq =>
    obtain ⟨rfl, hm⟩ := List.append_inj' hl rfl
    exact ⟨_, hq, by simp_all⟩

/-- Every prefix of a legal log is legal. -/
theorem of_append {pre post : List Mark} (h : Legal (pre ++ post) q) : ∃ q', Legal pre q' := by
  induction post using List.reverseRecOn generalizing q with
  | nil => exact ⟨q, by simpa using h⟩
  | append_singleton post m ih =>
    rw [← List.append_assoc] at h
    obtain ⟨q', hq', -⟩ := h.concat
    exact ih hq'

/-- **Nothing is written between a hold and its release.** -/
theorem not_held {pre post : List Mark} {c : Command} (h : Legal (pre ++ .written c :: post) q) :
    heldAfter pre = false := by
  rw [← List.singleton_append, ← List.append_assoc] at h
  obtain ⟨q', hq'⟩ := h.of_append
  obtain ⟨q'', hq'', hn⟩ := hq'.concat
  rw [← hq''.held]
  exact (next_eq_some_iff.mp (hn c rfl)).1

/-- **The writes of a stretch fit in its allowance.** -/
theorem spent {pre mid post : List Mark} (h : Legal (pre ++ mid ++ post) q)
    (hmid : ∀ m ∈ mid, m.isAllowance = false) :
    spentAfter pre + writesIn mid ≤ allowanceAfter pre := by
  obtain ⟨q', hq'⟩ := h.of_append
  have := hq'.spent_add_credits
  rw [spentAfter_append hmid, allowanceAfter_append hmid] at this
  omega

end Legal

/-! ## The queue under any sequence of operations -/

/-- What is done to the queue from outside. -/
inductive QueueOp
  /-- A command is queued. -/
  | push (c : Command)
  /-- `pump_commands`, whose `k`-th write succeeds if `write k`, at `clock k`. -/
  | pump (write : ℕ → Bool) (clock : ℕ → Time)
  /-- An answer, with the allowance it carries. -/
  | answered (n : UInt8)
  | hold
  | release
  | giveUp

/-- The queue with the log it has left so far. -/
structure Delivery where
  /-- The queue. -/
  q : HciCommandQueue
  /-- Everything that happened to it. -/
  log : List Mark := []

/-- The mark of a command that left the queue in a pump. -/
def Mark.ofPumped (p : Command × Bool) : Mark := if p.2 then .written p.1 else .dropped p.1

/-- One operation. -/
def Delivery.step (d : Delivery) : QueueOp → Delivery
  | .push c => ⟨d.q.push c, d.log ++ [.pushed c]⟩
  | .pump write clock =>
    let out := d.q.pump write clock
    ⟨out.2, d.log ++ out.1.map Mark.ofPumped⟩
  | .answered n => ⟨d.q.answered n, d.log ++ [.allowance n]⟩
  | .hold => ⟨d.q.hold, d.log ++ [.hold]⟩
  | .release => ⟨d.q.release, d.log ++ [.release]⟩
  | .giveUp => ⟨d.q.giveUp, d.log ++ [.allowance 1]⟩

/-- What the `k`-th write of an operation did; only a pump writes. -/
def QueueOp.wrote : QueueOp → ℕ → Option Bool
  | .pump write _, k => some (write k)
  | _, _ => none

/-- A new queue with its timeout. -/
def Delivery.start (timeout : Time) : Delivery := ⟨{ timeout := timeout }, []⟩

/-- What a pump writes and drops is legal, round after round. -/
theorem Legal.pumpLoop {log : List Mark} {q : HciCommandQueue} (h : Legal log q)
    (write : ℕ → Bool) (clock : ℕ → Time) (fuel k : ℕ) :
    Legal (log ++ (HciCommandQueue.pumpLoop write clock fuel k q).1.map Mark.ofPumped)
      (HciCommandQueue.pumpLoop write clock fuel k q).2 := by
  induction fuel generalizing k q log with
  | zero => simpa [HciCommandQueue.pumpLoop] using h
  | succ fuel ih =>
    rw [HciCommandQueue.pumpLoop]
    cases hn : q.next with
    | none => simpa using h
    | some c =>
      simp only [List.map_cons]
      rw [← List.singleton_append, ← List.append_assoc]
      cases hw : write k with
      | true => exact ih (h.written c (clock k) hn) (k + 1)
      | false => exact ih (h.dropped c hn) (k + 1)

theorem Legal.step {d : Delivery} (h : Legal d.log d.q) (op : QueueOp) :
    Legal (d.step op).log (d.step op).q := by
  cases op with
  | push c => exact h.push c
  | pump write clock => exact h.pumpLoop write clock _ 0
  | answered n => exact h.answered n
  | hold => exact h.hold
  | release => exact h.release
  | giveUp => exact h.giveUp

/-- The log so far is legal and leaves the queue as it is. -/
def Delivery.Consistent (d : Delivery) : Prop := Legal d.log d.q

/-- Every run leaves a legal log. -/
theorem legal_run (timeout : Time) (ops : List QueueOp) :
    (run Delivery.step (.start timeout) ops).Consistent :=
  run_invariant ops (Legal.start timeout) fun _ op h ↦ Legal.step h op

/-- The one operation whose marks are of commands that left is the pump, and the `k`-th of them
tells the result of the `k`-th write. -/
theorem wrote_of_mark {d : Delivery} {op : QueueOp} {k : ℕ} {m : Mark} {c : Command}
    (hm : (d.step op).log[d.log.length + k]? = some m) (hc : m.gone? = some c) :
    ∃ b, op.wrote k = some b ∧ m = Mark.ofPumped (c, b) := by
  cases op with
  | pump write clock =>
    rw [Delivery.step, List.getElem?_append_right (Nat.le_add_right _ _), Nat.add_sub_cancel_left,
      List.getElem?_map, Option.map_eq_some_iff] at hm
    obtain ⟨⟨c', b⟩, hout, rfl⟩ := hm
    have hb : b = write k := by simpa using wrote_pumpLoop hout
    refine ⟨b, by rw [hb]; rfl, ?_⟩
    cases b <;> simp_all [Mark.ofPumped, Mark.gone?]
  | push | answered | hold | release | giveUp =>
    rw [Delivery.step, List.getElem?_append_right (Nat.le_add_right _ _),
      Nat.add_sub_cancel_left, List.getElem?_singleton] at hm
    split at hm <;> simp_all [Mark.gone?, eq_comm]

namespace QueueOp

variable {d : Delivery} {op : QueueOp} {k : ℕ} {c : Command}

/-- A command is lost only if its own write failed. -/
theorem wrote_of_dropped (h : (d.step op).log[d.log.length + k]? = some (.dropped c)) :
    op.wrote k = some false := by
  obtain ⟨b, hb, hm⟩ := wrote_of_mark h rfl
  cases b with
  | false => exact hb
  | true => simp [Mark.ofPumped] at hm

/-- And written only if that succeeded. -/
theorem wrote_of_written (h : (d.step op).log[d.log.length + k]? = some (.written c)) :
    op.wrote k = some true := by
  obtain ⟨b, hb, hm⟩ := wrote_of_mark h rfl
  cases b with
  | false => simp [Mark.ofPumped] at hm
  | true => exact hb

end QueueOp

/-- **What the queue delivers**, after any operations.  The commands pushed are the commands that
left, in order, and then the queue; whatever is done next, a command that leaves is marked dropped
only if its own write failed, and written only if that succeeded; no write stands between a hold and
its release; the writes of a stretch without a new allowance fit in the one it began with, and the
credits left are the allowance less the writes on it, whatever else failed; and a pump ends with the
queue empty, held or out of credits. -/
theorem command_delivery (timeout : Time) (ops : List QueueOp) :
    let d : Delivery := run Delivery.step (.start timeout) ops
    pushedIn d.log = goneIn d.log ++ d.q.queue
      ∧ (∀ op k c,
          ((d.step op).log[d.log.length + k]? = some (.dropped c) → op.wrote k = some false)
          ∧ ((d.step op).log[d.log.length + k]? = some (.written c) → op.wrote k = some true))
      ∧ (∀ pre c post, d.log = pre ++ .written c :: post → heldAfter pre = false)
      ∧ (∀ pre mid post, d.log = pre ++ mid ++ post → (∀ m ∈ mid, m.isAllowance = false) →
          spentAfter pre + writesIn mid ≤ allowanceAfter pre)
      ∧ spentAfter d.log + d.q.credits.toNat = allowanceAfter d.log
      ∧ ∀ write clock, let q := (d.step (.pump write clock)).q
          q.queue = [] ∨ q.held = true ∨ q.credits = 0 := by
  intro d
  have h : Legal d.log d.q := legal_run timeout ops
  refine ⟨h.order, fun op k c ↦ ⟨QueueOp.wrote_of_dropped, QueueOp.wrote_of_written⟩,
    fun pre c post hlog ↦ ?_, fun pre mid post hlog hmid ↦ ?_, h.spent_add_credits,
    fun write clock ↦ next_eq_none_iff.mp (next_pump write clock d.q)⟩
  · rw [hlog] at h
    exact h.not_held
  · rw [hlog] at h
    exact h.spent hmid

/-! ## Answers of their own -/

/-- The queue beside the commands that were written and have had no answer of their own, oldest
first.  The queue itself never looks at the second. -/
structure Watched where
  /-- The queue. -/
  q : HciCommandQueue
  /-- Written, and not answered themselves. -/
  unanswered : List Command := []
deriving DecidableEq

/-- The queue's operations one by one, as its callers perform them. -/
inductive WatchOp
  /-- A command is queued. -/
  | push (c : Command)
  /-- The front of the queue went out. -/
  | written (now : Time)
  /-- The front of the queue could not be written. -/
  | dropped
  /-- An answer with its allowance: to the `own`-th of the unanswered commands, or to none of
  them. -/
  | answered (n : UInt8) (own : Option ℕ)
  | hold
  | release
  | giveUp

namespace Watched

/-- The commands an answer leaves without one. -/
def remaining (w : Watched) : Option ℕ → List Command
  | none => w.unanswered
  | some i => w.unanswered.eraseIdx i

/-- One operation. -/
def step (w : Watched) : WatchOp → Watched
  | .push c => { w with q := w.q.push c }
  | .written now => ⟨w.q.written now, w.unanswered ++ w.q.queue.head?.toList⟩
  | .dropped => { w with q := w.q.dropped }
  | .answered n own => ⟨w.q.answered n, w.remaining own⟩
  | .hold => { w with q := w.q.hold }
  | .release => { w with q := w.q.release }
  | .giveUp => { w with q := w.q.giveUp }

/-- A new queue with its timeout. -/
def start (timeout : Time) : Watched := { q := { timeout := timeout } }

/-- A command is stuck behind one that was never answered. -/
def Stuck (w : Watched) : Prop :=
  w.unanswered ≠ [] ∧ w.q.held = false ∧ w.q.credits = 0 ∧ w.q.queue ≠ []

instance (w : Watched) : Decidable w.Stuck := inferInstanceAs (Decidable (_ ∧ _ ∧ _ ∧ _))

/-- What is promised of a state: if a command is stuck then, once the timeout is over, the watch
sees it and giving up lets the queue move. -/
def Recovers (w : Watched) : Prop :=
  w.Stuck → (∀ t, w.q.lastWrite + w.q.timeout < t → w.q.overdue t = true) ∧ w.q.giveUp.next ≠ none

/-- An answer that takes the allowance away leaves no written command without an answer. -/
def AnswersAll (w : Watched) : WatchOp → Prop
  | .answered n own => n = 0 → w.remaining own = []
  | _ => True

/-- Out of credits with a command unanswered, the queue knows that it is waiting. -/
def Aware (w : Watched) : Prop := w.unanswered ≠ [] → w.q.credits = 0 → w.q.awaiting = true

theorem Aware.step {w : Watched} (h : w.Aware) {op : WatchOp} (hop : w.AnswersAll op) :
    (w.step op).Aware := by
  cases op with
  | push c => exact h
  | written now =>
    intro hu hc
    cases hq : w.q.queue with
    | nil =>
      simp only [Watched.step, written, hq, List.isEmpty_nil, if_true, List.head?_nil,
        Option.toList_none, List.append_nil] at hu hc ⊢
      exact h hu hc
    | cons c rest => simp [Watched.step, written, hq]
  | dropped => exact h
  | answered n own => exact fun hu hc ↦ absurd (hop hc) hu
  | hold => exact h
  | release => exact h
  | giveUp => exact fun _ hc ↦ absurd hc (by simp [Watched.step])

theorem Aware.recovers {w : Watched} (h : w.Aware) : w.Recovers := by
  intro ⟨hu, hheld, hc, hq⟩
  constructor
  · intro t ht
    have hlate : w.q.timeout < t - w.q.lastWrite := by
      simp only [Time] at *
      omega
    simp [overdue, h hu hc, hc, hlate]
  · rw [Ne, next_eq_none_iff]
    simp [hq, hheld]

/-- The converse: a state that is not aware is one release and one command away from being stuck
for good. -/
theorem not_recovers_of_not_aware {w : Watched} (h : ¬ w.Aware) (c : Command) :
    ¬ ((w.step .release).step (.push c)).Recovers := by
  intro hrec
  refine h fun hu hc ↦ ?_
  by_contra ha
  have := (hrec ⟨hu, rfl, hc, by simp [Watched.step]⟩).1 (w.q.lastWrite + w.q.timeout + 1)
    (by simp only [Watched.step, push, HciCommandQueue.release, Time]; omega)
  simp [Watched.step, overdue, push, HciCommandQueue.release, ha] at this

/-- **The queue recovers from every unanswered command exactly when no answer takes the allowance
away while another command is still unanswered.**  The condition is on the steps of the run; the
property is of every state on the way, and of those a release and one more command lead to. -/
theorem recovers_iff (timeout : Time) (ops : List WatchOp) :
    Along Watched.step AnswersAll (.start timeout) ops
      ↔ ∀ pre, pre <+: ops → (run Watched.step (.start timeout) pre).Recovers
          ∧ ∀ c, (run Watched.step (.start timeout) (pre ++ [.release, .push c])).Recovers := by
  have hstart : (start timeout).Aware := fun hu ↦ absurd rfl hu
  constructor
  · intro h pre hpre
    have haware : (run Watched.step (.start timeout) pre).Aware :=
      run_invariant_of_along hstart (fun w op hw hop ↦ hw.step hop) (h.of_prefix hpre)
    refine ⟨haware.recovers, fun c ↦ ?_⟩
    rw [run_append]
    have hrelease := haware.step (show AnswersAll _ .release from trivial)
    exact (hrelease.step (show AnswersAll _ (.push c) from trivial)).recovers
  · intro h
    rw [along_iff_prefixes]
    intro pre op hpre
    by_contra hop
    have haware : ¬ (run Watched.step (.start timeout) (pre ++ [op])).Aware := by
      rw [run_concat]
      cases op with
      | answered n own =>
        obtain ⟨rfl, hrem⟩ := Classical.not_imp.mp hop
        exact fun hw ↦ by simpa [Watched.step, answered] using hw hrem rfl
      | push | written | dropped | hold | release | giveUp => exact absurd trivial hop
    have hrec := (h _ hpre).2 {}
    rw [run_append] at hrec
    exact not_recovers_of_not_aware haware {} hrec

/-- Two commands queued, the first written, and the controller answers with a no-op that allows
nothing: the second waits, and no watch ever sees it. -/
theorem stuck_after_noop :
    ¬ (run Watched.step (.start (seconds 2))
      [.push { ocf := 1 }, .push { ocf := 2 }, .written 0, .answered 0 none]).Recovers := by
  intro h
  have := (h (by decide)).1 (seconds 3) (by decide)
  exact absurd this (by decide)

end Watched

end DualSenseMitm
