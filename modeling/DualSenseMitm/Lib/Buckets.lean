import Mathlib.Algebra.BigOperators.Group.List.Basic
import Mathlib.Algebra.Order.Group.Unbundled.Int

/-!
# Buckets of at least a length

A sequence of durations is cut into buckets: each is closed by the duration that fills it, and the next one
starts clean.

* `Buckets.flatten_fill` — nothing is lost, nothing is counted twice, and the order is kept.
* `Buckets.Sound.fill` — a closed bucket is filled by its last duration, and the open one is not full.
-/

set_option autoImplicit false

/-- The buckets that are closed, in order, and the one that is open. -/
structure Buckets (α : Type*) where
  closed : List (List α) := []
  current : List α := []

namespace Buckets

variable {α : Type*} [AddMonoid α] [LinearOrder α]

/-- One more duration. -/
def add (length : α) (x : Buckets α) (d : α) : Buckets α :=
  if (x.current ++ [d]).sum < length then { x with current := x.current ++ [d] }
  else { closed := x.closed ++ [x.current ++ [d]], current := [] }

/-- The durations of a sequence, one after the other. -/
def fill (length : α) (x : Buckets α) (ds : List α) : Buckets α := ds.foldl (add length) x

variable {length : α}

theorem fill_nil (x : Buckets α) : x.fill length [] = x := rfl

theorem fill_cons (x : Buckets α) (d : α) (ds : List α) :
    x.fill length (d :: ds) = (x.add length d).fill length ds := rfl

theorem fill_append (x : Buckets α) (ds es : List α) :
    x.fill length (ds ++ es) = (x.fill length ds).fill length es := List.foldl_append

/-- All that went in. -/
def flatten (x : Buckets α) : List α := x.closed.flatten ++ x.current

theorem flatten_add (x : Buckets α) (d : α) : (x.add length d).flatten = x.flatten ++ [d] := by
  unfold add flatten
  split <;> simp

theorem flatten_fill (x : Buckets α) (ds : List α) : (x.fill length ds).flatten = x.flatten ++ ds := by
  induction ds generalizing x with
  | nil => rw [fill_nil, List.append_nil]
  | cons d ds ih => rw [fill_cons, ih, flatten_add, List.append_assoc, List.singleton_append]

/-- A bucket that its last duration has filled. -/
def Filled (length : α) (b : List α) : Prop :=
  ∃ init d, b = init ++ [d] ∧ (init ≠ [] → init.sum < length) ∧ length ≤ b.sum

/-- Closed buckets are filled, and the open one is not full. -/
structure Sound (length : α) (x : Buckets α) : Prop where
  closed : ∀ b ∈ x.closed, Filled length b
  current : x.current ≠ [] → x.current.sum < length

theorem Sound.add {x : Buckets α} (h : x.Sound length) (d : α) : (x.add length d).Sound length := by
  unfold Buckets.add
  by_cases hfull : (x.current ++ [d]).sum < length
  · rw [if_pos hfull]
    exact ⟨h.closed, fun _ ↦ hfull⟩
  · rw [if_neg hfull]
    refine ⟨fun b hb ↦ ?_, fun hn ↦ absurd rfl hn⟩
    rcases List.mem_append.mp hb with hb | hb
    · exact h.closed b hb
    · rw [List.mem_singleton.mp hb]
      exact ⟨x.current, d, rfl, h.current, not_lt.mp hfull⟩

theorem Sound.fill {x : Buckets α} (h : x.Sound length) (ds : List α) : (x.fill length ds).Sound length := by
  induction ds generalizing x with
  | nil => exact h
  | cons d ds ih => exact ih (h.add d)

end Buckets
