import Mathlib.Data.List.Basic
import Mathlib.Logic.Relation

/-!
# A stream through a single slot

Values arrive one after another and are passed on, kept back in a slot that holds a single one, or
lost.  A value that goes into the slot overwrites what was there, and whatever is passed on directly
empties it, so nothing can overtake anything.

* `InOrder passes waits trace` — at every point of the trace, what was sent is a subsequence of the
  arrivals that `passes` lets through; and whatever left the slot was, at that moment, the newest
  arrival of those that may wait.
* `Step` — what may happen to such a stream, and `inOrder_of_steps`: any run keeps its order.
-/

set_option autoImplicit false

namespace LatestSlot

variable {α : Type*}

/-- What happens to a value: it arrives, or it is sent, from the slot or directly. -/
inductive Event (α : Type*)
  | arrived (x : α)
  | sent (x : α) (fromSlot : Bool)

/-- The arrivals, oldest first. -/
def arrived (trace : List (Event α)) : List α :=
  trace.filterMap fun | .arrived x => some x | _ => none

/-- What was sent, oldest first. -/
def sent (trace : List (Event α)) : List α :=
  trace.filterMap fun | .sent x _ => some x | _ => none

section append

variable (trace : List (Event α)) (x : α) (fromSlot : Bool)

@[simp] theorem arrived_concat_arrived :
    arrived (trace ++ [.arrived x]) = arrived trace ++ [x] := by simp [arrived]

@[simp] theorem arrived_concat_sent :
    arrived (trace ++ [.sent x fromSlot]) = arrived trace := by simp [arrived]

@[simp] theorem sent_concat_arrived : sent (trace ++ [.arrived x]) = sent trace := by simp [sent]

@[simp] theorem sent_concat_sent :
    sent (trace ++ [.sent x fromSlot]) = sent trace ++ [x] := by simp [sent]

end append

variable (passes waits : α → Bool)

/-- The newest arrival of those that may wait in the slot. -/
def newest (trace : List (Event α)) : Option α := ((arrived trace).filter waits).getLast?

/-- Nothing is reordered or duplicated, and what leaves the slot is the newest. -/
structure InOrder (trace : List (Event α)) : Prop where
  subsequence : ∀ pre, pre <+: trace → (sent pre).Sublist ((arrived pre).filter passes)
  fromSlot : ∀ pre x, pre ++ [.sent x true] <+: trace → newest waits pre = some x

/-- A trace and what is in the slot. -/
structure State (α : Type*) where
  trace : List (Event α)
  held : Option α

/-- What may happen next. -/
inductive Step : State α → State α → Prop
  /-- A value that may not wait is lost, and the slot is left alone. -/
  | ignore {s x} (hx : waits x = false) : Step s ⟨s.trace ++ [.arrived x], s.held⟩
  /-- A value is lost together with what is in the slot. -/
  | refuse {s x} : Step s ⟨s.trace ++ [.arrived x], none⟩
  | hold {s x} (hx : waits x = true) : Step s ⟨s.trace ++ [.arrived x], some x⟩
  | pass {s x} (hx : passes x = true) : Step s ⟨s.trace ++ [.arrived x] ++ [.sent x false], none⟩
  | flush {s x} (hx : s.held = some x) : Step s ⟨s.trace ++ [.sent x true], none⟩
  | clear {s} : Step s ⟨s.trace, none⟩

/-- A value in the slot: everything sent so far arrived before it, and nothing that could have taken
its place arrived after it. -/
def Waiting (trace : List (Event α)) (x : α) : Prop :=
  waits x = true ∧ ∃ a₁ a₂, arrived trace = a₁ ++ x :: a₂ ∧ (sent trace).Sublist (a₁.filter passes)
    ∧ ∀ b ∈ a₂, waits b = false

/-- The order, and the slot being part of it. -/
structure Inv (s : State α) : Prop where
  inOrder : InOrder passes waits s.trace
  waiting : ∀ x, s.held = some x → Waiting passes waits s.trace x

namespace InOrder

variable {passes waits} {trace : List (Event α)}

theorem nil : InOrder passes waits ([] : List (Event α)) := by
  refine ⟨fun pre hpre ↦ ?_, fun pre x hpre ↦ ?_⟩
  · rw [List.prefix_nil.mp hpre]; exact List.nil_sublist _
  · exact absurd (List.prefix_nil.mp hpre) (by simp)

theorem concat (h : InOrder passes waits trace) (e : Event α)
    (hsub : (sent (trace ++ [e])).Sublist ((arrived (trace ++ [e])).filter passes))
    (hslot : ∀ x, e = .sent x true → newest waits trace = some x) :
    InOrder passes waits (trace ++ [e]) := by
  refine ⟨fun pre hpre ↦ ?_, fun pre x hpre ↦ ?_⟩
  · rcases List.prefix_concat_iff.mp hpre with rfl | hpre
    · exact hsub
    · exact h.subsequence pre hpre
  · rcases List.prefix_concat_iff.mp hpre with heq | hpre
    · obtain ⟨rfl, he⟩ := List.append_inj' heq rfl
      exact hslot x (List.cons.inj he).1.symm
    · exact h.fromSlot pre x hpre

theorem arrive (h : InOrder passes waits trace) (x : α) :
    InOrder passes waits (trace ++ [.arrived x]) := by
  refine h.concat _ ?_ nofun
  rw [sent_concat_arrived, arrived_concat_arrived, List.filter_append]
  exact (h.subsequence trace List.prefix_rfl).trans (List.sublist_append_left _ _)

end InOrder

variable {passes waits} {s t : State α}

theorem Waiting.newest {trace : List (Event α)} {x : α} (h : Waiting passes waits trace x) :
    newest waits trace = some x := by
  obtain ⟨hx, a₁, a₂, ha, -, hnone⟩ := h
  have h₂ : a₂.filter waits = [] := List.filter_eq_nil_iff.mpr fun b hb ↦ by simp [hnone b hb]
  simp [LatestSlot.newest, ha, hx, h₂]

/-- One step keeps the invariant, if whatever may wait is let through. -/
theorem Inv.step (hwait : ∀ x, waits x = true → passes x = true) (h : Inv passes waits s)
    (hst : Step passes waits s t) : Inv passes waits t := by
  have hsub := h.inOrder.subsequence _ List.prefix_rfl
  cases hst with
  | @ignore x hx =>
    refine ⟨h.inOrder.arrive _, fun y hy ↦ ?_⟩
    obtain ⟨hwy, a₁, a₂, ha, hs, hnone⟩ := h.waiting y hy
    refine ⟨hwy, a₁, a₂ ++ [x], by rw [arrived_concat_arrived, ha]; simp, by simpa using hs, ?_⟩
    intro b hb
    rcases List.mem_append.mp hb with hb | hb
    · exact hnone b hb
    · rwa [List.mem_singleton.mp hb]
  | refuse => exact ⟨h.inOrder.arrive _, nofun⟩
  | @hold x hx =>
    refine ⟨h.inOrder.arrive _, fun y hy ↦ ?_⟩
    obtain rfl := Option.some.inj hy
    exact ⟨hx, arrived s.trace, [], by simp, by simpa using hsub, by simp⟩
  | @pass x hx =>
    refine ⟨(h.inOrder.arrive x).concat _ ?_ nofun, nofun⟩
    rw [sent_concat_sent, sent_concat_arrived, arrived_concat_sent, arrived_concat_arrived,
      List.filter_append, List.filter_cons_of_pos hx]
    exact hsub.append (List.Sublist.refl _)
  | @flush x hx =>
    have hw := h.waiting x hx
    refine ⟨h.inOrder.concat _ ?_ fun y hy ↦ ?_, nofun⟩
    · obtain ⟨hwx, a₁, a₂, ha, hs, -⟩ := hw
      rw [sent_concat_sent, arrived_concat_sent, ha, List.filter_append,
        List.filter_cons_of_pos (hwait x hwx)]
      exact hs.append (List.singleton_sublist.mpr (by simp))
    · cases hy
      exact hw.newest
  | clear => exact ⟨h.inOrder, nofun⟩

/-- **Any run keeps its order.** -/
theorem inOrder_of_steps (hwait : ∀ x, waits x = true → passes x = true)
    (h : Relation.ReflTransGen (Step passes waits) ⟨[], none⟩ s) : InOrder passes waits s.trace := by
  have hinv : Inv passes waits s := by
    induction h with
    | refl => exact ⟨.nil, nofun⟩
    | tail _ hst ih => exact ih.step hwait hst
  exact hinv.inOrder

end LatestSlot
