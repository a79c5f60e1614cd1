import Mathlib.Data.List.Induction
import Mathlib.Logic.Function.Basic
import DualSenseMitm.Lib.Machine

/-!
# A sequence lock

One writer and one reader share a memory of cells and a counter.  The writer makes the counter odd,
stores into the cells, and makes it even; a reader that finds the counter odd, or changed across its
copy, tries again.  Every load and every store is a step, and the two take their steps in any order.

* `Access` — what a write does to one cell: a load into a register, or a store of a value computed from
  the registers.
* `CopyOrder` — the cells in the order a reader copies them, which are all the cells there are.
* `Locked` — what ties the counter to the two sides, kept by every step on which the counter does not wrap
  (`Locked.step`).
* `run_write` — a write that is not interrupted.
* `snapshots_stood` — every snapshot is the memory as it stood at a moment when no write was in progress.
-/

set_option autoImplicit false

namespace SeqLock

open Machine

variable {κ : Type*} [DecidableEq κ] {V : κ → Type*}

/-- An access of a write to a cell. -/
inductive Access (V : κ → Type*)
  | load (k : κ)
  | store (k : κ) (value : (∀ k, V k) → V k)

/-- Where the writer is. -/
inductive WriterAt (V : κ → Type*)
  | idle
  | loadSeq (write : List (Access V))
  | storeOdd (write : List (Access V)) (seq : UInt64)
  /-- Between the two stores of the counter. -/
  | inside (todo : List (Access V)) (seq : UInt64) (registers : ∀ k, V k)

/-- Where the reader is, with how often it may still try again. -/
inductive ReaderAt (V : κ → Type*)
  | idle
  | loadSeq (retries : ℕ)
  /-- Between the two loads of the counter. -/
  | inside (retries : ℕ) (todo : List κ) (seq : UInt64) (snap : ∀ k, V k)

/-- The shared memory and the two sides. -/
structure State (V : κ → Type*) where
  seq : UInt64 := 0
  mem : ∀ k, V k
  writer : WriterAt V := .idle
  reader : ReaderAt V := .idle
  /-- What the reader was given, one for each of its calls that succeeded. -/
  snapshots : List (∀ k, V k) := []

/-- Who moves: a side starts a call, or takes the next step of the one it is in. -/
inductive Turn (V : κ → Type*)
  | write (write : List (Access V))
  | writer
  | read
  | reader

/-- How a reader goes about its copy. -/
structure CopyOrder (V : κ → Type*) where
  cells : List κ
  complete : ∀ k, k ∈ cells
  /-- A copy before anything has been loaded into it. -/
  blank : ∀ k, V k
  retries : ℕ

namespace State

def writerStep (s : State V) : State V :=
  match s.writer with
  | .idle => s
  | .loadSeq write => { s with writer := .storeOdd write s.seq }
  | .storeOdd write seq => { s with seq := seq + 1, writer := .inside write seq s.mem }
  | .inside (.load k :: todo) seq registers =>
    { s with writer := .inside todo seq (Function.update registers k (s.mem k)) }
  | .inside (.store k value :: todo) seq registers =>
    { s with mem := Function.update s.mem k (value registers), writer := .inside todo seq registers }
  | .inside [] seq _ => { s with seq := seq + 2, writer := .idle }

/-- The reader starts over, or gives up. -/
def retry (s : State V) : ℕ → State V
  | 0 => { s with reader := .idle }
  | retries + 1 => { s with reader := .loadSeq retries }

variable (L : CopyOrder V)

def readerStep (s : State V) : State V :=
  match s.reader with
  | .idle => s
  | .loadSeq retries =>
    if s.seq &&& 1 = 1 then s.retry retries
    else { s with reader := .inside retries L.cells s.seq L.blank }
  | .inside retries (k :: todo) seq snap =>
    { s with reader := .inside retries todo seq (Function.update snap k (s.mem k)) }
  | .inside retries [] seq snap =>
    if s.seq = seq then { s with reader := .idle, snapshots := s.snapshots ++ [snap] } else s.retry retries

def step (s : State V) : Turn V → State V
  | .write write => if s.writer matches .idle then { s with writer := .loadSeq write } else s
  | .writer => s.writerStep
  | .read => if s.reader matches .idle then { s with reader := .loadSeq L.retries } else s
  | .reader => s.readerStep L

end State

/-! ## A write that is not interrupted -/

/-- What an access does to the memory and the registers. -/
def Access.perform (p : (∀ k, V k) × (∀ k, V k)) : Access V → (∀ k, V k) × (∀ k, V k)
  | .load k => (p.1, Function.update p.2 k (p.1 k))
  | .store k value => (Function.update p.1 k (value p.2), p.2)

theorem run_inside (L : CopyOrder V) (s : State V) (todo : List (Access V)) (seq : UInt64) (registers : ∀ k, V k) :
    run (State.step L) { s with writer := .inside todo seq registers } (List.replicate (todo.length + 1) .writer)
      = { s with seq := seq + 2, mem := (todo.foldl Access.perform (s.mem, registers)).1, writer := .idle } := by
  induction todo generalizing s registers with
  | nil => rfl
  | cons access todo ih =>
    rw [List.length_cons, List.replicate_succ, run_cons]
    cases access with
    | load k => exact ih s (Function.update registers k (s.mem k))
    | store k value => exact ih { s with mem := Function.update s.mem k (value registers) } registers

/-- A write that nobody interrupts. -/
theorem run_write (L : CopyOrder V) {s : State V} (hidle : s.writer = .idle) (write : List (Access V)) :
    run (State.step L) s (.write write :: List.replicate (write.length + 3) .writer)
      = { s with seq := s.seq + 2, mem := (write.foldl Access.perform (s.mem, s.mem)).1, writer := .idle } := by
  have hstart : s.step L (.write write) = { s with writer := .loadSeq write } := by rw [State.step, hidle]; rfl
  rw [run_cons, hstart, List.replicate_succ, run_cons, List.replicate_succ, run_cons]
  exact run_inside L { s with seq := s.seq + 1 } write s.seq s.mem

section stores

variable {ι : Type*} {g : ι → κ} {v : (i : ι) → V (g i)} (p : (∀ k, V k) × (∀ k, V k))

theorem perform_stores_of_notMem {l : List ι} {k : κ} (h : ∀ i ∈ l, g i ≠ k) :
    ((l.map fun i ↦ Access.store (g i) fun _ ↦ v i).foldl Access.perform p).1 k = p.1 k := by
  induction l generalizing p with
  | nil => rfl
  | cons i l ih =>
    rw [List.map_cons, List.foldl_cons, ih _ fun j hj ↦ h j (List.mem_cons_of_mem i hj)]
    exact Function.update_of_ne (h i List.mem_cons_self).symm _ _

/-- Each cell has what was stored into it. -/
theorem perform_stores_of_mem {l : List ι} (hg : ∀ i j, g i = g j → i = j) {i : ι} (hi : i ∈ l) :
    ((l.map fun i ↦ Access.store (g i) fun _ ↦ v i).foldl Access.perform p).1 (g i) = v i := by
  induction l generalizing p with
  | nil => exact absurd hi List.not_mem_nil
  | cons j l ih =>
    rw [List.map_cons, List.foldl_cons]
    by_cases hl : i ∈ l
    · exact ih _ hl
    · rcases List.mem_cons.mp hi with rfl | hmem
      · rw [perform_stores_of_notMem _ fun j hj heq ↦ hl (hg j i heq ▸ hj)]
        exact Function.update_self ..
      · exact absurd hmem hl

end stores

/-! ## What ties the counter to the two sides -/

/-- The memory is a memory that stood when no write was in progress. -/
def Stood (L : CopyOrder V) (s₀ : State V) (turns : List (Turn V)) (m : ∀ k, V k) : Prop :=
  ∃ pre, pre <+: turns ∧ (run (State.step L) s₀ pre).writer = .idle ∧ (run (State.step L) s₀ pre).mem = m

theorem Stood.mono {L : CopyOrder V} {s₀ : State V} {turns turns' : List (Turn V)} {m : ∀ k, V k}
    (h : Stood L s₀ turns m) (hpre : turns <+: turns') : Stood L s₀ turns' m := by
  obtain ⟨pre, hp, hidle, hm⟩ := h
  exact ⟨pre, hp.trans hpre, hidle, hm⟩

/-- The counter is odd inside a write, and outside the memory stood. -/
def Writes (stood : (∀ k, V k) → Prop) (s : State V) : WriterAt V → Prop
  | .idle | .loadSeq _ => s.seq.toNat % 2 = 0 ∧ stood s.mem
  | .storeOdd _ seq => s.seq = seq ∧ s.seq.toNat % 2 = 0 ∧ stood s.mem
  | .inside _ seq _ => s.seq.toNat = seq.toNat + 1 ∧ seq.toNat % 2 = 0

/-- While the counter has not moved, what was copied is what is there. -/
def Copies (s : State V) : ReaderAt V → Prop
  | .idle | .loadSeq _ => True
  | .inside _ todo seq snap =>
    seq.toNat % 2 = 0 ∧ seq.toNat ≤ s.seq.toNat ∧ (s.seq = seq → ∀ k, k ∉ todo → snap k = s.mem k)

/-- The invariant of the lock, with what counts as having stood. -/
structure Locked (stood : (∀ k, V k) → Prop) (s : State V) : Prop where
  writes : Writes stood s s.writer
  copies : Copies s s.reader
  snapshots : ∀ snap ∈ s.snapshots, stood snap

section steps

variable {L : CopyOrder V} {s t : State V} {stood stood' : (∀ k, V k) → Prop}

omit [DecidableEq κ] in
/-- A copy does not notice what leaves the counter and the memory alone. -/
theorem Copies.congr {r : ReaderAt V} (h : Copies s r) (hseq : t.seq = s.seq) (hmem : t.mem = s.mem) :
    Copies t r := by
  unfold Copies at h ⊢
  rw [hseq, hmem]
  exact h

omit [DecidableEq κ] in
/-- Nor what happens once the counter has moved on from the value it started with. -/
theorem Copies.moved {r : ReaderAt V} (h : Copies s r) (hle : s.seq.toNat ≤ t.seq.toNat)
    (hmoved : t.seq.toNat % 2 = 1 ∨ s.seq.toNat < t.seq.toNat) : Copies t r := by
  cases r with
  | idle => trivial
  | loadSeq => trivial
  | inside retries todo seq snap =>
    obtain ⟨heven, hseq, -⟩ := h
    refine ⟨heven, Nat.le_trans hseq hle, fun heq ↦ ?_⟩
    have hnat := congrArg UInt64.toNat heq
    omega

theorem Locked.writerStep (h : Locked stood s) (hmono : ∀ m, stood m → stood' m)
    (hidle : s.writerStep.writer = .idle → stood' s.writerStep.mem)
    (hwrap : s.seq ≤ s.writerStep.seq) : Locked stood' s.writerStep := by
  have hwrites := h.writes
  have hsnapshots : ∀ snap ∈ s.snapshots, stood' snap := fun snap hs ↦ hmono _ (h.snapshots snap hs)
  rw [UInt64.le_iff_toNat_le] at hwrap
  revert hidle hwrap
  rw [State.writerStep]
  cases hw : s.writer with
  | idle =>
    intro hidle hwrap
    rw [hw] at hwrites
    exact ⟨by rw [hw]; exact ⟨hwrites.1, hmono _ hwrites.2⟩, h.copies, hsnapshots⟩
  | loadSeq write =>
    intro hidle hwrap
    rw [hw] at hwrites
    exact ⟨⟨rfl, hwrites.1, hmono _ hwrites.2⟩, h.copies.congr rfl rfl, hsnapshots⟩
  | storeOdd write seq =>
    intro hidle hwrap
    rw [hw] at hwrites
    obtain ⟨rfl, heven, -⟩ := hwrites
    have hsucc : (s.seq + 1).toNat = s.seq.toNat + 1 := by
      dsimp only at hwrap
      rw [UInt64.toNat_add, UInt64.toNat_one] at hwrap ⊢
      have hmax := s.seq.toNat_lt
      omega
    exact ⟨⟨hsucc, heven⟩, h.copies.moved hwrap (.inr (by dsimp only; omega)), hsnapshots⟩
  | inside todo seq registers =>
    rw [hw] at hwrites
    obtain ⟨hseq, heven⟩ := hwrites
    cases todo with
    | nil =>
      intro hidle hwrap
      have hsucc : (seq + 2).toNat = s.seq.toNat + 1 := by
        dsimp only at hwrap
        have htwo : (2 : UInt64).toNat = 2 := rfl
        rw [UInt64.toNat_add, htwo] at hwrap ⊢
        have hmax := s.seq.toNat_lt
        omega
      refine ⟨⟨by dsimp only; omega, hidle rfl⟩, ?_, hsnapshots⟩
      exact h.copies.moved hwrap (.inr (by dsimp only; omega))
    | cons access todo =>
      cases access with
      | load k =>
        intro hidle hwrap
        exact ⟨⟨hseq, heven⟩, h.copies.congr rfl rfl, hsnapshots⟩
      | store k value =>
        -- a reader that copies now has started from an even counter, and will see this one
        intro hidle hwrap
        exact ⟨⟨hseq, heven⟩, h.copies.moved hwrap (.inl (by dsimp only; omega)), hsnapshots⟩

omit [DecidableEq κ] in
/-- A counter that is even was found outside a write. -/
theorem Locked.stood_mem (h : Locked stood s) (heven : s.seq.toNat % 2 = 0) : stood s.mem := by
  have hwrites := h.writes
  cases hw : s.writer with
  | idle =>
    rw [hw] at hwrites
    exact hwrites.2
  | loadSeq =>
    rw [hw] at hwrites
    exact hwrites.2
  | storeOdd =>
    rw [hw] at hwrites
    exact hwrites.2.2
  | inside todo seq registers =>
    rw [hw] at hwrites
    obtain ⟨hseq, hseqEven⟩ := hwrites
    omega

omit [DecidableEq κ] in
theorem Locked.retry (h : Locked stood s) (retries : ℕ) : Locked stood (s.retry retries) := by
  cases retries with
  | zero => exact ⟨h.writes, trivial, h.snapshots⟩
  | succ retries => exact ⟨h.writes, trivial, h.snapshots⟩

theorem Locked.readerStep (h : Locked stood s) : Locked stood (s.readerStep L) := by
  have hcopies := h.copies
  rw [State.readerStep]
  cases hr : s.reader with
  | idle => exact h
  | loadSeq retries =>
    dsimp only
    split
    · exact h.retry retries
    · rename_i hodd
      have heven : s.seq.toNat % 2 = 0 := by
        have hbit : (s.seq &&& 1).toNat = s.seq.toNat % 2 := by
          rw [UInt64.toNat_and, UInt64.toNat_one, Nat.and_one_is_mod]
        rcases Nat.mod_two_eq_zero_or_one s.seq.toNat with hzero | hone
        · exact hzero
        · exact absurd (UInt64.toNat_inj.mp (by rw [hbit, hone]; rfl)) hodd
      exact ⟨h.writes, ⟨heven, Nat.le_refl _, fun _ k hk ↦ absurd (L.complete k) hk⟩, h.snapshots⟩
  | inside retries todo seq snap =>
    rw [hr] at hcopies
    obtain ⟨heven, hle, hcopied⟩ := hcopies
    cases todo with
    | cons k todo =>
      refine ⟨h.writes, ⟨heven, hle, fun hseq j hj ↦ ?_⟩, h.snapshots⟩
      by_cases hjk : j = k
      · subst hjk
        exact Function.update_self ..
      · rw [Function.update_of_ne hjk]
        exact hcopied hseq j (by rw [List.mem_cons, not_or]; exact ⟨hjk, hj⟩)
    | nil =>
      dsimp only
      split
      · rename_i hseq
        have hsnap : snap = s.mem := funext fun k ↦ hcopied hseq k List.not_mem_nil
        have hstood : stood snap := by
          rw [hsnap]
          exact h.stood_mem (by rw [hseq]; exact heven)
        refine ⟨h.writes, trivial, fun m hm ↦ ?_⟩
        rcases List.mem_append.mp hm with hold | hnew
        · exact h.snapshots m hold
        · rw [List.mem_singleton.mp hnew]
          exact hstood
      · exact h.retry retries

/-- One turn of either side. -/
theorem Locked.step {turn : Turn V} (h : Locked stood s) (hmono : ∀ m, stood m → stood' m)
    (hidle : (s.step L turn).writer = .idle → stood' (s.step L turn).mem)
    (hwrap : s.seq ≤ (s.step L turn).seq) : Locked stood' (s.step L turn) := by
  have hwrites := h.writes
  have h' : Locked stood' s := by
    refine ⟨?_, h.copies, fun snap hs ↦ hmono _ (h.snapshots snap hs)⟩
    cases hw : s.writer <;> rw [hw] at hwrites
    · exact ⟨hwrites.1, hmono _ hwrites.2⟩
    · exact ⟨hwrites.1, hmono _ hwrites.2⟩
    · exact ⟨hwrites.1, hwrites.2.1, hmono _ hwrites.2.2⟩
    · exact hwrites
  cases turn with
  | write write =>
    rw [State.step]
    cases hw : s.writer with
    | idle =>
      have hwrites' := h'.writes
      rw [hw] at hwrites'
      exact ⟨hwrites', h'.copies.congr rfl rfl, h'.snapshots⟩
    | _ => exact h'
  | writer => exact h.writerStep hmono hidle hwrap
  | read =>
    rw [State.step]
    cases hr : s.reader with
    | idle => exact ⟨h'.writes, trivial, h'.snapshots⟩
    | _ => exact h'
  | reader => exact h'.readerStep

end steps

/-- **What a reader is given.**  While the counter does not wrap, every snapshot is the memory as it stood at
a moment when no write was in progress. -/
theorem snapshots_stood {L : CopyOrder V} {m₀ : ∀ k, V k} {turns : List (Turn V)}
    (h : Along (State.step L) (fun s turn ↦ s.seq ≤ (s.step L turn).seq) { mem := m₀ } turns) :
    ∀ snap ∈ (run (State.step L) { mem := m₀ } turns).snapshots, Stood L { mem := m₀ } turns snap := by
  have hlocked : Locked (Stood L { mem := m₀ } turns) (run (State.step L) { mem := m₀ } turns) := by
    induction turns using List.reverseRecOn with
    | nil => exact ⟨⟨rfl, [], List.prefix_rfl, rfl, rfl⟩, trivial, fun snap hs ↦ absurd hs List.not_mem_nil⟩
    | append_singleton turns turn ih =>
      obtain ⟨hbefore, hlast, -⟩ := along_append.mp h
      rw [run_concat]
      refine (ih hbefore).step (fun m hm ↦ hm.mono (List.prefix_append ..)) (fun hidle ↦ ?_) hlast
      exact ⟨turns ++ [turn], List.prefix_rfl, by rw [run_concat]; exact hidle, by rw [run_concat]⟩
  exact hlocked.snapshots

end SeqLock
