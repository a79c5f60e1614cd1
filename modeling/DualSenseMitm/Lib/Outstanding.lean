import Mathlib.Data.List.Basic

/-!
# Requests that are outstanding

One party asks and the other answers each request once, in the order they were sent, after any delay.
`Outstanding β` holds the requests that have no answer yet, each with what is known of it and with a
number, so that an answer can be said to be the one to a particular request.

* `send` — requests are sent, under the next numbers.
* `answer` — the oldest one is answered.
* `oldest` — the one that is answered next, which no other is older than (`oldest_le`).
-/

set_option autoImplicit false

/-- The requests without an answer, oldest first, with their numbers. -/
structure Outstanding (β : Type*) where
  waiting : List (β × ℕ) := []
  /-- The number of the next request. -/
  next : ℕ := 0
  sorted : waiting.Pairwise (fun p q ↦ p.2 < q.2)
  bound : ∀ p ∈ waiting, p.2 < next

namespace Outstanding

variable {β : Type*} (o : Outstanding β)

/-- Nothing has been sent. -/
def empty : Outstanding β where
  sorted := .nil
  bound := nofun

theorem pairwise_zipIdx (bs : List β) (n : ℕ) : (bs.zipIdx n).Pairwise fun p q ↦ p.2 < q.2 := by
  induction bs generalizing n with
  | nil => exact .nil
  | cons b bs ih =>
    rw [List.zipIdx_cons]
    exact .cons (fun p hp ↦ List.le_snd_of_mem_zipIdx hp) (ih (n + 1))

/-- Requests are sent, one after the other. -/
def send (bs : List β) : Outstanding β where
  waiting := o.waiting ++ bs.zipIdx o.next
  next := o.next + bs.length
  sorted := by
    refine List.pairwise_append.mpr ⟨o.sorted, pairwise_zipIdx bs o.next, fun p hp q hq ↦ ?_⟩
    exact Nat.lt_of_lt_of_le (o.bound p hp) (List.le_snd_of_mem_zipIdx hq)
  bound := by
    intro p hp
    rcases List.mem_append.mp hp with hp | hp
    · exact Nat.lt_of_lt_of_le (o.bound p hp) (Nat.le_add_right _ _)
    · rw [Nat.add_comm]
      exact List.snd_lt_of_mem_zipIdx hp

/-- The oldest request is answered. -/
def answer : Outstanding β where
  waiting := o.waiting.tail
  next := o.next
  sorted := o.sorted.tail
  bound p hp := o.bound p (List.mem_of_mem_tail hp)

/-- The request that is answered next. -/
def oldest : Option (β × ℕ) := o.waiting.head?

theorem oldest_le {p q : β × ℕ} (hp : o.oldest = some p) (hq : q ∈ o.waiting) : p.2 ≤ q.2 := by
  obtain ⟨rest, hrest⟩ := List.head?_eq_some_iff.mp hp
  rw [hrest] at hq
  rcases List.mem_cons.mp hq with rfl | hq
  · exact Nat.le_refl _
  · have hsorted := o.sorted
    rw [hrest, List.pairwise_cons] at hsorted
    exact Nat.le_of_lt (hsorted.1 q hq)

/-- A request that is sent is new, or was there. -/
theorem mem_send {bs : List β} {p : β × ℕ} :
    p ∈ (o.send bs).waiting ↔ p ∈ o.waiting ∨ p ∈ bs.zipIdx o.next := List.mem_append

/-- The first of the requests that are sent has the next number. -/
theorem mem_send_head {bs : List β} {b : β} (h : bs.head? = some b) :
    (b, o.next) ∈ (o.send bs).waiting := by
  obtain ⟨rest, rfl⟩ := List.head?_eq_some_iff.mp h
  exact o.mem_send.mpr (.inr List.mem_cons_self)

/-- Whatever is not answered stays. -/
theorem mem_answer {p q : β × ℕ} (hp : o.oldest = some p) (hq : q ∈ o.waiting) (hne : q ≠ p) :
    q ∈ o.answer.waiting := by
  obtain ⟨rest, hrest⟩ := List.head?_eq_some_iff.mp hp
  have htail : o.answer.waiting = rest := congrArg List.tail hrest
  rw [hrest] at hq
  rw [htail]
  exact (List.mem_cons.mp hq).resolve_left hne

end Outstanding
