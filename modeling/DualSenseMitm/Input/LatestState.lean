import DualSenseMitm.Input.InputFeed
import DualSenseMitm.Lib.SeqLock

/-!
# The latest state behind its sequence lock

The page of the feed as cells: one for each byte of the body, for the time, for the count of reports and
for each field of the link.  `publish` and `publish_link` are lists of accesses to them and `latest` copies
them all, so what a viewer is given is a state that was published.
-/

set_option autoImplicit false

namespace DualSenseMitm.InputFeed

open Machine SeqLock

/-! ## The cells -/

/-- The fields of `Link`, in their order. -/
inductive LinkField
  | stage
  | callAttempt
  | consoleSent
  | outputSent
  | outputDropped
  | gapWindow
  | gapCount
  | gapMaxUs
  | consoleLive
  | linkQuality
  | linkRssi
  | afhChannels
  | radioRead
deriving DecidableEq

namespace LinkField

def Value : LinkField → Type
  | stage => Stage
  | callAttempt | linkQuality | afhChannels => UInt8
  | consoleSent | outputSent | outputDropped => UInt64
  | gapWindow | gapCount | gapMaxUs => UInt32
  | linkRssi => Int8
  | consoleLive | radioRead => Bool

def get (l : LinkSnapshot) : (f : LinkField) → f.Value
  | stage => l.stage
  | callAttempt => l.callAttempt
  | consoleSent => l.consoleSent
  | outputSent => l.outputSent
  | outputDropped => l.outputDropped
  | gapWindow => l.gapWindow
  | gapCount => l.gapCount
  | gapMaxUs => l.gapMaxUs
  | consoleLive => l.consoleLive
  | linkQuality => l.linkQuality
  | linkRssi => l.linkRssi
  | afhChannels => l.afhChannels
  | radioRead => l.radioRead

def all : List LinkField :=
  [stage, callAttempt, consoleSent, outputSent, outputDropped, gapWindow, gapCount, gapMaxUs, consoleLive,
    linkQuality, linkRssi, afhChannels, radioRead]

theorem mem_all (f : LinkField) : f ∈ all := by
  cases f <;> decide

end LinkField

/-- What a load or a store reaches. -/
inductive Cell
  | body (i : Fin BODY_LEN)
  | monotonicNs
  | reports
  | link (f : LinkField)
deriving DecidableEq

namespace Cell

def Value : Cell → Type
  | body _ => UInt8
  | monotonicNs | reports => UInt64
  | link f => f.Value

/-- The cells in the order `latest` copies them. -/
def all : List Cell :=
  (List.finRange BODY_LEN).map body ++ [monotonicNs, reports] ++ LinkField.all.map link

theorem mem_all (c : Cell) : c ∈ all := by
  cases c with
  | body i => simp [all]
  | monotonicNs => simp [all]
  | reports => simp [all]
  | link f => simp [all, LinkField.mem_all]

end Cell

/-- `Snapshot`. -/
structure Snapshot where
  monotonicNs : UInt64 := 0
  reports : UInt64 := 0
  link : LinkSnapshot := {}
  body : Body := fun _ ↦ 0

namespace Snapshot

/-- The cells a snapshot fills. -/
def cells (s : Snapshot) : (c : Cell) → c.Value
  | .body i => s.body i
  | .monotonicNs => s.monotonicNs
  | .reports => s.reports
  | .link f => f.get s.link

/-- The snapshot in the cells. -/
def ofCells (m : (c : Cell) → c.Value) : Snapshot :=
  { monotonicNs := m .monotonicNs
    reports := m .reports
    body := fun i ↦ m (.body i)
    link :=
      { stage := m (.link .stage)
        callAttempt := m (.link .callAttempt)
        consoleSent := m (.link .consoleSent)
        outputSent := m (.link .outputSent)
        outputDropped := m (.link .outputDropped)
        gapWindow := m (.link .gapWindow)
        gapCount := m (.link .gapCount)
        gapMaxUs := m (.link .gapMaxUs)
        consoleLive := m (.link .consoleLive)
        linkQuality := m (.link .linkQuality)
        linkRssi := m (.link .linkRssi)
        afhChannels := m (.link .afhChannels)
        radioRead := m (.link .radioRead) } }

@[simp] theorem ofCells_cells (s : Snapshot) : ofCells s.cells = s := rfl

end Snapshot

/-! ## The calls -/

/-- The assignment of the link. -/
def storeLink (link : LinkSnapshot) : List (Access Cell.Value) :=
  LinkField.all.map fun f ↦ .store (.link f) fun _ ↦ f.get link

/-- The time of a report, and one more of them. -/
def countWrite (monotonicNs : UInt64) : List (Access Cell.Value) :=
  [.store .monotonicNs fun _ ↦ monotonicNs, .load .reports,
    .store .reports fun registers ↦
      let reports : UInt64 := registers .reports
      reports + 1]

/-- What `publish` does between its stores of the counter. -/
def publishWrite (body : Body) (link : LinkSnapshot) (monotonicNs : UInt64) : List (Access Cell.Value) :=
  (List.finRange BODY_LEN).map (fun i ↦ .store (.body i) fun _ ↦ body i) ++ countWrite monotonicNs
    ++ storeLink link

/-- `latest` copies every cell, and tries sixteen times. -/
def latestOrder : CopyOrder Cell.Value :=
  { cells := Cell.all
    complete := Cell.mem_all
    blank := Snapshot.cells {}
    retries := 15 }

/-- Who moves. -/
inductive FeedTurn
  | publish (body : Body) (link : LinkSnapshot) (monotonicNs : UInt64)
  | publishLink (link : LinkSnapshot)
  | writer
  | latest
  | reader

def FeedTurn.turn : FeedTurn → Turn Cell.Value
  | .publish body link monotonicNs => .write (publishWrite body link monotonicNs)
  | .publishLink link => .write (storeLink link)
  | .writer => .writer
  | .latest => .read
  | .reader => .reader

/-! ## A call that is not interrupted -/

/-- The part of the page behind the lock. -/
def Shared.snapshot (s : Shared) : Snapshot :=
  { monotonicNs := s.monotonicNs, reports := s.reports, link := s.link, body := s.body }

theorem perform_storeLink (link : LinkSnapshot) (p : ((c : Cell) → c.Value) × ((c : Cell) → c.Value)) :
    ((storeLink link).foldl Access.perform p).1
      = Snapshot.cells { Snapshot.ofCells p.1 with link := link } := by
  funext c
  cases c with
  | link f =>
    exact perform_stores_of_mem p (fun f f' h ↦ by cases h; rfl) (LinkField.mem_all f)
  | body i => exact perform_stores_of_notMem p fun f _ ↦ by simp
  | monotonicNs => exact perform_stores_of_notMem p fun f _ ↦ by simp
  | reports => exact perform_stores_of_notMem p fun f _ ↦ by simp

theorem perform_storeBody (body : Body) (p : ((c : Cell) → c.Value) × ((c : Cell) → c.Value)) :
    (((List.finRange BODY_LEN).map fun i ↦ Access.store (.body i) fun _ ↦ body i).foldl Access.perform p).1
      = Snapshot.cells { Snapshot.ofCells p.1 with body := body } := by
  funext c
  cases c with
  | body i => exact perform_stores_of_mem p (fun i j h ↦ by cases h; rfl) (List.mem_finRange i)
  | monotonicNs => exact perform_stores_of_notMem p fun i _ ↦ by simp
  | reports => exact perform_stores_of_notMem p fun i _ ↦ by simp
  | link f => exact (perform_stores_of_notMem p fun i _ ↦ by simp).trans (by cases f <;> rfl)

/-- The time, and the count one higher than it is found. -/
theorem perform_count (snap : Snapshot) (monotonicNs : UInt64) (registers : (c : Cell) → c.Value) :
    ((countWrite monotonicNs).foldl Access.perform (snap.cells, registers)).1
      = Snapshot.cells { snap with monotonicNs := monotonicNs, reports := snap.reports + 1 } := by
  funext c
  cases c <;> rfl

/-- `publish_link`, access by access, leaves the page the call as a whole leaves. -/
theorem run_publishLink (w : Writer) (link : LinkSnapshot) :
    run (State.step latestOrder) { seq := w.shared.seq, mem := w.shared.snapshot.cells }
        (.write (storeLink link) :: List.replicate ((storeLink link).length + 3) .writer)
      = { seq := (w.publishLink link).shared.seq, mem := (w.publishLink link).shared.snapshot.cells } := by
  rw [run_write latestOrder rfl, perform_storeLink]
  rfl

/-- So does `publish`. -/
theorem run_publish (w : Writer) (body : Body) (link : LinkSnapshot) (monotonicNs realtimeNs : UInt64) :
    let w' := w.publish body link monotonicNs realtimeNs
    run (State.step latestOrder) { seq := w.shared.seq, mem := w.shared.snapshot.cells }
        (.write (publishWrite body link monotonicNs)
          :: List.replicate ((publishWrite body link monotonicNs).length + 3) .writer)
      = { seq := w'.shared.seq, mem := w'.shared.snapshot.cells } := by
  have hpage : (w.publish body link monotonicNs realtimeNs).shared.seq = w.shared.seq + 2
      ∧ (w.publish body link monotonicNs realtimeNs).shared.snapshot
        = { monotonicNs := monotonicNs, reports := w.shared.reports + 1, link := link, body := body } := by
    rw [Writer.publish]
    dsimp only
    split <;> exact ⟨rfl, rfl⟩
  obtain ⟨hseq, hsnapshot⟩ := hpage
  dsimp only
  rw [run_write latestOrder rfl, hseq, hsnapshot, publishWrite, List.foldl_append, List.foldl_append,
    perform_storeLink]
  have hbody := perform_storeBody body (w.shared.snapshot.cells, w.shared.snapshot.cells)
  generalize ((List.finRange BODY_LEN).map fun i ↦ Access.store (.body i) fun _ ↦ body i).foldl
    Access.perform (w.shared.snapshot.cells, w.shared.snapshot.cells) = p at hbody
  obtain ⟨m, registers⟩ := p
  obtain rfl : m = _ := hbody
  rw [perform_count]
  rfl

/-! ## Any order of turns -/

/-- The page as `open` leaves it, and then every turn. -/
def runFeed (turns : List FeedTurn) : State Cell.Value :=
  run (State.step latestOrder) { mem := Snapshot.cells {} } (turns.map FeedTurn.turn)

/-- A turn does not make the counter wrap. -/
def NoWrap (s : State Cell.Value) (turn : Turn Cell.Value) : Prop := s.seq ≤ (s.step latestOrder turn).seq

instance (s : State Cell.Value) (turn : Turn Cell.Value) : Decidable (NoWrap s turn) :=
  inferInstanceAs (Decidable (s.seq ≤ (s.step latestOrder turn).seq))

/-- While the counter does not wrap, every snapshot is the page as it stood at a moment when no write was in
progress. -/
theorem latest_returns_published {turns : List FeedTurn}
    (h : Along (State.step latestOrder) NoWrap { mem := Snapshot.cells {} } (turns.map FeedTurn.turn)) :
    ∀ snap ∈ (runFeed turns).snapshots.map Snapshot.ofCells, ∃ pre, pre <+: turns
      ∧ (runFeed pre).writer = .idle ∧ snap = Snapshot.ofCells (runFeed pre).mem := by
  intro snap hsnap
  obtain ⟨m, hm, rfl⟩ := List.mem_map.mp hsnap
  obtain ⟨pre, ⟨post, happend⟩, hidle, hmem⟩ := snapshots_stood h m hm
  obtain ⟨pre, post, rfl, rfl, -⟩ := List.map_eq_append_iff.mp happend.symm
  exact ⟨pre, List.prefix_append .., hidle, by rw [runFeed, hmem]⟩

/-- A report is published and read, and while it is copied the next one is published. -/
def overtaken : List FeedTurn :=
  List.flatten [[.publish (fun _ ↦ 8) {} 7], List.replicate 82 .writer, [.latest], List.replicate 40 .reader,
    [.publish (fun _ ↦ 9) {} 8], (List.replicate 41 [.writer, .reader]).flatten, List.replicate 41 .writer,
    List.replicate 80 .reader]

theorem latest_returns_published_report :
    (∀ snap ∈ (runFeed overtaken).snapshots.map Snapshot.ofCells, ∃ pre, pre <+: overtaken
      ∧ (runFeed pre).writer = .idle ∧ snap = Snapshot.ofCells (runFeed pre).mem)
      ∧ ((runFeed overtaken).snapshots.map Snapshot.ofCells).map Snapshot.monotonicNs = [8] :=
  ⟨latest_returns_published (by decide +kernel), by decide +kernel⟩

end DualSenseMitm.InputFeed
