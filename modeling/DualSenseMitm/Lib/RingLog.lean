import Mathlib.Algebra.Ring.Nat
import Mathlib.Data.List.Basic
import Mathlib.Logic.Function.Basic

/-!
# The end of a log in a ring

A writer appends to a log without end and has `N` slots for it: entry `i` lies in slot `i % N`.
A reader follows the log behind the writer and skips what it is too late for.

* `Keeps ring log lo` — every entry from `lo` on is where a reader looks for it.  The slot of the next
  entry may be written, whole or in part, while the entry it held is not among these
  (`Keeps.overwrite`), and once it holds the next entry the log may grow (`Keeps.push`).
* `Accounts handed log` — what a reader was handed is the log, every entry as itself or in one of the
  gaps it was told of.
-/

set_option autoImplicit false

namespace RingLog

variable {α : Type*} {N : ℕ} [NeZero N]

/-- Where entry `i` lies. -/
def slot (N : ℕ) [NeZero N] (i : ℕ) : Fin N := Fin.ofNat N i

theorem slot_ne {i j : ℕ} (h : i < j) (hj : j < i + N) : slot N j ≠ slot N i := by
  intro heq
  have hmod : j % N = i % N := congrArg Fin.val heq
  have hzero : (j - i) % N = 0 := Nat.sub_mod_eq_zero_of_mod_eq hmod
  rw [Nat.mod_eq_of_lt (by omega)] at hzero
  omega

/-! ## Where the entries are -/

/-- The entries from `lo` on are in their slots. -/
def Keeps (ring : Fin N → α) (log : List α) (lo : ℕ) : Prop :=
  ∀ i, lo ≤ i → i < log.length → log[i]? = some (ring (slot N i))

namespace Keeps

variable {ring : Fin N → α} {log : List α} {lo : ℕ}

theorem nil : Keeps ring [] lo := fun i _ hi ↦ absurd hi (Nat.not_lt_zero i)

theorem mono {lo' : ℕ} (h : Keeps ring log lo) (hlo : lo ≤ lo') : Keeps ring log lo' :=
  fun i hi ↦ h i (Nat.le_trans hlo hi)

/-- The slot of the next entry is free when the entry a ring before it is not kept. -/
theorem overwrite (h : Keeps ring log lo) (hlo : log.length < lo + N) (x : α) :
    Keeps (Function.update ring (slot N log.length) x) log lo := by
  intro i hi hlt
  rw [Function.update_of_ne (slot_ne hlt (by omega)).symm]
  exact h i hi hlt

theorem push (h : Keeps ring log lo) {x : α} (hx : ring (slot N log.length) = x) :
    Keeps ring (log ++ [x]) lo := by
  intro i hi hlt
  rcases Nat.lt_or_ge i log.length with hold | hnew
  · rw [List.getElem?_append_left hold]
    exact h i hi hold
  · have heq : i = log.length := by
      rw [List.length_append, List.length_singleton] at hlt
      omega
    rw [heq, List.getElem?_concat_length, hx]

/-- A reader that is still in time takes the next entry from its slot. -/
theorem drop_eq_cons (h : Keeps ring log lo) {i : ℕ} (hi : lo ≤ i) (hlt : i < log.length) :
    log.drop i = ring (slot N i) :: log.drop (i + 1) := by
  have hentry := h i hi hlt
  rw [List.getElem?_eq_getElem hlt, Option.some_inj] at hentry
  rw [List.drop_eq_getElem_cons hlt, hentry]

end Keeps

/-! ## What a reader is handed -/

/-- A reader is handed an entry, or told how many it is too late for. -/
inductive Handed (α : Type*)
  | lost (k : ℕ)
  | entry (x : α)
deriving DecidableEq

/-- The log is what was handed out: each entry as itself, in order and once, or in a gap. -/
def Accounts : List (Handed α) → List α → Prop
  | [], log => log = []
  | .lost k :: handed, log => k ≤ log.length ∧ Accounts handed (log.drop k)
  | .entry x :: handed, log => log.head? = some x ∧ Accounts handed log.tail

theorem Accounts.append {handed handed' : List (Handed α)} {log log' : List α}
    (h : Accounts handed log) (h' : Accounts handed' log') : Accounts (handed ++ handed') (log ++ log') := by
  induction handed generalizing log with
  | nil =>
    rw [Accounts] at h
    rw [h]
    exact h'
  | cons x handed ih =>
    cases x with
    | lost k =>
      obtain ⟨hk, hrest⟩ := h
      refine ⟨by rw [List.length_append]; omega, ?_⟩
      rw [List.drop_append_of_le_length hk]
      exact ih hrest
    | entry x =>
      obtain ⟨hx, hrest⟩ := h
      obtain ⟨rest, rfl⟩ := List.head?_eq_some_iff.mp hx
      exact ⟨rfl, ih hrest⟩

theorem accounts_lost (log : List α) : Accounts [.lost log.length] log := ⟨Nat.le_refl _, List.drop_length⟩

theorem accounts_entries_iff {entries log : List α} : Accounts (entries.map .entry) log ↔ log = entries := by
  induction entries generalizing log with
  | nil => rfl
  | cons x entries ih =>
    constructor
    · rintro ⟨hx, hrest⟩
      obtain ⟨rest, rfl⟩ := List.head?_eq_some_iff.mp hx
      exact congrArg (x :: ·) (ih.mp hrest)
    · rintro rfl
      exact ⟨rfl, ih.mpr rfl⟩

theorem accounts_entries (log : List α) : Accounts (log.map .entry) log := accounts_entries_iff.mpr rfl

/-- A gap at the front, and the rest of the log. -/
theorem accounts_gap {k : ℕ} {entries log : List α} (hk : k ≤ log.length) (hentries : entries = log.drop k) :
    Accounts (.lost k :: entries.map .entry) log := ⟨hk, accounts_entries_iff.mpr hentries.symm⟩

theorem Accounts.length_gap {k : ℕ} {entries log : List α}
    (h : Accounts (.lost k :: entries.map .entry) log) : k + entries.length = log.length := by
  obtain ⟨hk, hrest⟩ := h
  rw [← accounts_entries_iff.mp hrest, List.length_drop]
  omega

/-- What a reader is handed, the gaps apart. -/
def entries (handed : List (Handed α)) : List α :=
  handed.filterMap fun | .lost _ => none | .entry x => some x

/-- A reader that was told of no loss has been handed the log. -/
theorem Accounts.eq_entries {handed : List (Handed α)} {log : List α} (h : Accounts handed log)
    (hnone : ∀ k, .lost k ∈ handed → k = 0) : entries handed = log := by
  induction handed generalizing log with
  | nil =>
    rw [Accounts] at h
    exact h.symm
  | cons x handed ih =>
    have hrest : ∀ k, .lost k ∈ handed → k = 0 := fun k hk ↦ hnone k (List.mem_cons_of_mem _ hk)
    cases x with
    | lost k =>
      have hlog := h.2
      rw [hnone k List.mem_cons_self, List.drop_zero] at hlog
      exact ih hlog hrest
    | entry x =>
      obtain ⟨rest, rfl⟩ := List.head?_eq_some_iff.mp h.1
      exact congrArg (x :: ·) (ih h.2 hrest)

/-- A reader that has been handed the first entries goes on. -/
theorem accounts_append_gap {handed : List (Handed α)} {seen k : ℕ} {entries log : List α}
    (h : Accounts handed (log.take seen)) (hk : k ≤ log.length - seen)
    (hentries : entries = log.drop (seen + k)) :
    Accounts (handed ++ .lost k :: entries.map .entry) log := by
  have hrest : Accounts (.lost k :: entries.map .entry) (log.drop seen) :=
    accounts_gap (by rw [List.length_drop]; exact hk) (by rw [hentries, List.drop_drop])
  have hall := h.append hrest
  rwa [List.take_append_drop] at hall

end RingLog
