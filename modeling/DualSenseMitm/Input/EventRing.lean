import DualSenseMitm.Input.PressLog

/-!
# The ring while both sides run

`publish` and `drain` cut into their loads and stores: one step is one access to `event_head` or to one
field of a slot, and the two sides take their steps in any order.  The slot is filled before the head
moves, which keeps a half-written event from a reader that is behind by less than a ring.  A reader that
is behind by a whole ring copies the very slot that is filled next.
-/

set_option autoImplicit false

namespace DualSenseMitm.InputFeed

open Machine RingLog

/-- Where `publish` is, once it has found a change. -/
inductive WriterAt
  | idle
  | loadHead (e : Event)
  | storeRealtime (e : Event) (head : UInt64)
  | storeButtons (e : Event) (head : UInt64)
  | storeReserved (e : Event) (head : UInt64)
  | storeHead (e : Event) (head : UInt64)

/-- Where `drain` is: in its loop, with the head it has read, what it will return and what it has handed
out. -/
inductive ReaderAt
  | idle
  | loadHead
  | loadRealtime (head lost : UInt64) (events : List Event)
  | loadButtons (head lost : UInt64) (events : List Event) (realtimeNs : UInt64)
  | loadReserved (head lost : UInt64) (events : List Event) (realtimeNs : UInt64) (buttons : UInt32)

/-- The ring, its writer and one reader. -/
structure EventRing where
  eventHead : UInt64 := 0
  events : Fin EVENTS → Event := fun _ ↦ {}
  lastButtons : UInt32 := 0
  writer : WriterAt := .idle
  cursor : UInt64 := 0
  reader : ReaderAt := .idle
  /-- What the drains that are over gave. -/
  drained : List Drained := []

/-- Who moves: a side starts a call, or takes the next step of the one it is in. -/
inductive RingTurn
  | publish (body : Body) (realtimeNs : UInt64)
  | writer
  | drain
  | reader

namespace EventRing

/-- One field of the slot of event `n` is stored. -/
def storeField (s : EventRing) (n : UInt64) (f : Event → Event) : EventRing :=
  { s with events := Function.update s.events (slotOf n) (f (s.events (slotOf n))) }

/-- `publish`, up to its first access to the ring. -/
def startPublish (s : EventRing) (body : Body) (realtimeNs : UInt64) : EventRing :=
  let buttons := packButtons body
  if buttons = s.lastButtons then s
  else { s with lastButtons := buttons, writer := .loadHead ⟨realtimeNs, buttons, 0⟩ }

def writerStep (s : EventRing) : EventRing :=
  match s.writer with
  | .idle => s
  | .loadHead e => { s with writer := .storeRealtime e s.eventHead }
  | .storeRealtime e head =>
    { s.storeField head fun x ↦ { x with realtimeNs := e.realtimeNs } with writer := .storeButtons e head }
  | .storeButtons e head =>
    { s.storeField head fun x ↦ { x with buttons := e.buttons } with writer := .storeReserved e head }
  | .storeReserved e head =>
    { s.storeField head fun x ↦ { x with reserved := e.reserved } with writer := .storeHead e head }
  | .storeHead _ head => { s with eventHead := head + 1, writer := .idle }

/-- The loop condition of `drain`: another event to copy, or the return. -/
def nextEvent (s : EventRing) (head lost : UInt64) (events : List Event) : EventRing :=
  if s.cursor < head then { s with reader := .loadRealtime head lost events }
  else { s with reader := .idle, drained := s.drained ++ [⟨lost, events, s.cursor⟩] }

def readerStep (s : EventRing) : EventRing :=
  match s.reader with
  | .idle => s
  | .loadHead =>
    let start := Shared.drainFrom s.eventHead s.cursor
    { s with cursor := start.1 }.nextEvent s.eventHead start.2 []
  | .loadRealtime head lost events =>
    { s with reader := .loadButtons head lost events (s.events (slotOf s.cursor)).realtimeNs }
  | .loadButtons head lost events realtimeNs =>
    { s with reader := .loadReserved head lost events realtimeNs (s.events (slotOf s.cursor)).buttons }
  | .loadReserved head lost events realtimeNs buttons =>
    let e : Event := ⟨realtimeNs, buttons, (s.events (slotOf s.cursor)).reserved⟩
    { s with cursor := s.cursor + 1 }.nextEvent head lost (events ++ [e])

def step (s : EventRing) : RingTurn → EventRing
  | .publish body realtimeNs => if s.writer matches .idle then s.startPublish body realtimeNs else s
  | .writer => s.writerStep
  | .drain => if s.reader matches .idle then { s with reader := .loadHead } else s
  | .reader => s.readerStep

/-- The events published: an event is when the head moves past it. -/
def note (log : List Event) (s : EventRing) : RingTurn → List Event
  | .writer =>
    match s.writer with
    | .storeHead e _ => log ++ [e]
    | _ => log
  | _ => log

/-- What the drains gave, with what the one under way has handed out. -/
def given (s : EventRing) : List Drained :=
  match s.reader with
  | .idle | .loadHead => s.drained
  | .loadRealtime _ lost events | .loadButtons _ lost events _ | .loadReserved _ lost events _ _ =>
    s.drained ++ [⟨lost, events, s.cursor⟩]

/-- Some field of the next event is stored already. -/
def filling (s : EventRing) : ℕ :=
  match s.writer with
  | .storeButtons .. | .storeReserved .. | .storeHead .. => 1
  | _ => 0

/-- A drain is in its loop. -/
def copying (s : EventRing) : Bool :=
  match s.reader with
  | .idle | .loadHead => false
  | _ => true

/-- The reader copies an event whose slot the writer has begun to fill again. -/
def Lapped (s : EventRing) : Prop :=
  s.copying ∧ s.cursor.toNat + EVENTS < s.eventHead.toNat + s.filling

instance (s : EventRing) : Decidable s.Lapped :=
  inferInstanceAs (Decidable (s.copying ∧ s.cursor.toNat + EVENTS < s.eventHead.toNat + s.filling))

/-- The head is about to wrap. -/
def wraps (s : EventRing) : Bool :=
  match s.writer with
  | .storeHead _ head => head + 1 == 0
  | _ => false

/-- The reader is not lapped when it takes a step, and the head does not wrap. -/
def InTime (s : EventRing) : RingTurn → Prop
  | .reader => ¬ s.Lapped
  | .writer => s.wraps = false
  | _ => True

instance (s : EventRing) : (turn : RingTurn) → Decidable (s.InTime turn)
  | .reader => inferInstanceAs (Decidable (¬ s.Lapped))
  | .writer => inferInstanceAs (Decidable (s.wraps = false))
  | .publish .. => isTrue trivial
  | .drain => isTrue trivial

/-- Everything before the cursor was handed out whole and in order, or is counted as lost. -/
def WholeEvents (q : EventRing × List Event) : Prop :=
  Accounts (handed q.1.given) (q.2.take q.1.cursor.toNat)

/-! ## The fields -/

section fields

variable (s : EventRing) (head lost : UInt64) (events : List Event)

@[simp] theorem given_nextEvent :
    (s.nextEvent head lost events).given = s.drained ++ [⟨lost, events, s.cursor⟩] := by
  rw [nextEvent]
  split <;> rfl

@[simp] theorem cursor_nextEvent : (s.nextEvent head lost events).cursor = s.cursor := by
  rw [nextEvent]
  split <;> rfl

@[simp] theorem eventHead_nextEvent : (s.nextEvent head lost events).eventHead = s.eventHead := by
  rw [nextEvent]
  split <;> rfl

@[simp] theorem events_nextEvent : (s.nextEvent head lost events).events = s.events := by
  rw [nextEvent]
  split <;> rfl

@[simp] theorem writer_nextEvent : (s.nextEvent head lost events).writer = s.writer := by
  rw [nextEvent]
  split <;> rfl

end fields

/-! ## A call that is not interrupted -/

/-- The ring of a feed. -/
def ofWriter (w : Writer) : EventRing :=
  { eventHead := w.shared.eventHead, events := w.shared.events, lastButtons := w.lastButtons }

/-- `publish`, access by access, leaves the ring the call as a whole leaves. -/
theorem run_publish (w : Writer) (body : Body) (link : LinkSnapshot) (monotonicNs realtimeNs : UInt64) :
    run step (ofWriter w) (.publish body realtimeNs :: List.replicate 5 .writer)
      = ofWriter (w.publish body link monotonicNs realtimeNs) := by
  by_cases hsame : packButtons body = w.lastButtons
  · have hstart : (ofWriter w).step (.publish body realtimeNs) = ofWriter w := if_pos hsame
    rw [run_cons, hstart, Writer.publish]
    dsimp only
    rw [if_pos hsame]
    rfl
  · have hstart : (ofWriter w).step (.publish body realtimeNs) = { ofWriter w with
        lastButtons := packButtons body, writer := .loadHead ⟨realtimeNs, packButtons body, 0⟩ } := if_neg hsame
    rw [run_cons, hstart, Writer.publish]
    dsimp only
    rw [if_neg hsame]
    simp [List.replicate, step, writerStep, storeField, ofWriter]

/-- The loop of `drain`, access by access. -/
theorem run_nextEvent (sh : Shared) (head lost : UInt64) (cursor : UInt64) :
    ∀ (s : EventRing) (events : List Event), s.events = sh.events → s.cursor = cursor →
      run step (s.nextEvent head lost events) (List.replicate (3 * (sh.copyEvents head cursor).length) .reader)
        = { s with
            cursor := if cursor < head then head else cursor
            reader := .idle
            drained := s.drained
              ++ [⟨lost, events ++ sh.copyEvents head cursor, if cursor < head then head else cursor⟩] } := by
  fun_induction Shared.copyEvents sh head cursor with
  | case1 cursor hlt ih =>
    intro s events hevents hcursor
    subst hcursor
    -- three loads, and the loop again behind them
    have hturns : List.replicate (3 * (sh.events (slotOf s.cursor) :: sh.copyEvents head (s.cursor + 1)).length)
        RingTurn.reader = List.replicate 3 .reader
          ++ List.replicate (3 * (sh.copyEvents head (s.cursor + 1)).length) .reader := by
      rw [List.length_cons, Nat.mul_succ, Nat.add_comm, List.replicate_add]
    have hcopied : run step (s.nextEvent head lost events) (List.replicate 3 .reader)
        = { s with
            cursor := s.cursor + 1
            reader := .loadReserved head lost events (sh.events (slotOf s.cursor)).realtimeNs
              (sh.events (slotOf s.cursor)).buttons }.nextEvent head lost
            (events ++ [sh.events (slotOf s.cursor)]) := by
      rw [← hevents, nextEvent, if_pos hlt]
      rfl
    have hend : (if s.cursor + 1 < head then head else s.cursor + 1) = head := by
      split
      · rfl
      · rename_i hge
        have hnat := UInt64.lt_iff_toNat_lt.mp hlt
        have hmax := head.toNat_lt
        have hle := UInt64.le_iff_toNat_le.mp (UInt64.not_lt.mp hge)
        refine UInt64.toNat_inj.mp ?_
        rw [UInt64.toNat_add, UInt64.toNat_one] at hle ⊢
        omega
    have hrest := ih { s with
      cursor := s.cursor + 1
      reader := .loadReserved head lost events (sh.events (slotOf s.cursor)).realtimeNs
        (sh.events (slotOf s.cursor)).buttons } (events ++ [sh.events (slotOf s.cursor)]) hevents rfl
    rw [hend, List.append_assoc, List.singleton_append] at hrest
    rw [if_pos hlt, hturns, run_append, hcopied]
    exact hrest
  | case2 cursor hge =>
    intro s events hevents hcursor
    subst hcursor
    rw [if_neg hge, List.length_nil, List.append_nil, nextEvent, if_neg hge]
    rfl

/-- `drain`, access by access, gives what the call as a whole gives. -/
theorem run_drain (w : Writer) (cursor : UInt64) :
    let d := w.shared.drain cursor
    run step { ofWriter w with cursor := cursor } (.drain :: .reader :: List.replicate (3 * d.events.length) .reader)
      = { ofWriter w with cursor := d.cursor, drained := [d] } := by
  dsimp only
  rw [run_cons, run_cons]
  exact run_nextEvent w.shared w.shared.eventHead (Shared.drainFrom w.shared.eventHead cursor).2 _
    { ofWriter w with cursor := (Shared.drainFrom w.shared.eventHead cursor).1, reader := .loadHead } [] rfl rfl

/-! ## The writer -/

/-- The slot of the next event, as far as the writer has come with it. -/
def Filled (s : EventRing) : WriterAt → Prop
  | .idle | .loadHead _ => True
  | .storeRealtime _ head => head = s.eventHead
  | .storeButtons e head =>
    head = s.eventHead ∧ (s.events (slotOf s.eventHead)).realtimeNs = e.realtimeNs
  | .storeReserved e head =>
    head = s.eventHead ∧ (s.events (slotOf s.eventHead)).realtimeNs = e.realtimeNs
      ∧ (s.events (slotOf s.eventHead)).buttons = e.buttons
  | .storeHead e head => head = s.eventHead ∧ s.events (slotOf s.eventHead) = e

/-- The ring holds the end of the log, but for the slot that is being filled. -/
structure Holds (s : EventRing) (log : List Event) : Prop where
  head : s.eventHead.toNat = log.length
  filled : s.Filled s.writer
  keeps : Keeps s.events log (log.length + s.filling - EVENTS)

variable {s : EventRing} {log : List Event}

theorem slotOf_eventHead (h : s.Holds log) : slotOf s.eventHead = slot EVENTS log.length := by
  rw [slotOf, h.head]

/-- A store into the slot of the next event touches no other. -/
theorem Holds.store (h : s.Holds log) {t : EventRing} (f : Event → Event) (hhead : t.eventHead = s.eventHead)
    (hevents : t.events = (s.storeField s.eventHead f).events) (hfilling : t.filling = 1)
    (hfilled : t.Filled t.writer) : t.Holds log := by
  refine ⟨by rw [hhead, h.head], hfilled, ?_⟩
  have hpos : 0 < EVENTS := by decide
  have hle : s.filling ≤ 1 := by
    rw [filling]
    split <;> decide
  rw [hevents, hfilling, storeField, slotOf_eventHead h]
  exact (h.keeps.mono (by omega)).overwrite (by omega) _

theorem Holds.writerStep (h : s.Holds log)
    (hwrap : s.wraps = false) :
    s.writerStep.Holds (note log s .writer) := by
  have hfilled := h.filled
  rw [EventRing.writerStep, note]
  cases hw : s.writer with
  | idle => exact h
  | loadHead e =>
    refine ⟨h.head, rfl, ?_⟩
    have hkeeps := h.keeps
    rw [filling, hw] at hkeeps
    exact hkeeps
  | storeRealtime e head =>
    rw [hw] at hfilled
    obtain rfl : head = s.eventHead := hfilled
    exact h.store (fun x ↦ { x with realtimeNs := e.realtimeNs }) rfl rfl rfl ⟨rfl, by simp [storeField]⟩
  | storeButtons e head =>
    rw [hw] at hfilled
    obtain ⟨rfl, hrealtime⟩ := hfilled
    exact h.store (fun x ↦ { x with buttons := e.buttons }) rfl rfl rfl
      ⟨rfl, by simpa [storeField] using hrealtime, by simp [storeField]⟩
  | storeReserved e head =>
    rw [hw] at hfilled
    obtain ⟨rfl, hrealtime, hbuttons⟩ := hfilled
    exact h.store (fun x ↦ { x with reserved := e.reserved }) rfl rfl rfl
      ⟨rfl, by simp [storeField, hrealtime, hbuttons]⟩
  | storeHead e head =>
    rw [hw] at hfilled
    obtain ⟨rfl, hslot⟩ := hfilled
    rw [wraps, hw, beq_eq_false_iff_ne] at hwrap
    rw [slotOf_eventHead h] at hslot
    have hkeeps := h.keeps
    rw [filling, hw] at hkeeps
    refine ⟨?_, trivial, ?_⟩
    · rw [List.length_append, List.length_singleton, ← h.head]
      show (s.eventHead + 1).toNat = _
      rw [UInt64.toNat_add, UInt64.toNat_one, Nat.mod_eq_of_lt]
      have hmax := s.eventHead.toNat_lt
      have hne : s.eventHead.toNat + 1 ≠ 2 ^ 64 := by
        intro heq
        refine hwrap (UInt64.toNat_inj.mp ?_)
        rw [UInt64.toNat_add, UInt64.toNat_one, heq]
        rfl
      omega
    · rw [List.length_append, List.length_singleton]
      exact hkeeps.push hslot

theorem Holds.congr (h : s.Holds log) {t : EventRing} (hhead : t.eventHead = s.eventHead)
    (hevents : t.events = s.events) (hwriter : t.writer = s.writer) : t.Holds log := by
  have hfilling : t.filling = s.filling := by rw [filling, filling, hwriter]
  refine ⟨by rw [hhead, h.head], ?_, by rw [hevents, hfilling]; exact h.keeps⟩
  have hfilled := h.filled
  rw [hwriter]
  unfold Filled at hfilled ⊢
  rw [hhead, hevents]
  exact hfilled

/-! ## The reader -/

/-- The event under the cursor, as far as the reader has come with it. -/
def Copied (s : EventRing) (log : List Event) : ReaderAt → Prop
  | .idle | .loadHead => True
  | .loadRealtime head _ _ => s.cursor < head ∧ head.toNat ≤ log.length
  | .loadButtons head _ _ realtimeNs =>
    (s.cursor < head ∧ head.toNat ≤ log.length)
      ∧ ∃ e, log[s.cursor.toNat]? = some e ∧ e.realtimeNs = realtimeNs
  | .loadReserved head _ _ realtimeNs buttons =>
    (s.cursor < head ∧ head.toNat ≤ log.length)
      ∧ ∃ e, log[s.cursor.toNat]? = some e ∧ e.realtimeNs = realtimeNs ∧ e.buttons = buttons

/-- Everything before the cursor was handed out as itself, or is in a gap. -/
structure Reads (s : EventRing) (log : List Event) : Prop where
  cursor_le : s.cursor.toNat ≤ log.length
  copied : s.Copied log s.reader
  accounts : Accounts (handed s.given) (log.take s.cursor.toNat)

/-- What the writer does meanwhile is behind the cursor. -/
theorem Reads.append (h : s.Reads log) {t : EventRing} (hcursor : t.cursor = s.cursor)
    (hreader : t.reader = s.reader) (hdrained : t.drained = s.drained) (new : List Event) :
    t.Reads (log ++ new) := by
  have hgiven : t.given = s.given := by rw [given, given, hreader, hdrained, hcursor]
  have hlen : log.length ≤ (log ++ new).length := by
    rw [List.length_append]
    exact Nat.le_add_right ..
  refine ⟨by rw [hcursor]; exact h.cursor_le.trans hlen, ?_, ?_⟩
  · have hcopied := h.copied
    rw [hreader]
    cases hr : s.reader with
    | idle => trivial
    | loadHead => trivial
    | loadRealtime head lost events =>
      rw [hr] at hcopied
      exact ⟨hcursor ▸ hcopied.1, hcopied.2.trans hlen⟩
    | loadButtons head lost events realtimeNs =>
      rw [hr] at hcopied
      obtain ⟨⟨hlt, hle⟩, e, he, hrealtime⟩ := hcopied
      refine ⟨⟨hcursor ▸ hlt, hle.trans hlen⟩, e, ?_, hrealtime⟩
      rw [hcursor, List.getElem?_append_left (List.getElem?_eq_some_iff.mp he).1, he]
    | loadReserved head lost events realtimeNs buttons =>
      rw [hr] at hcopied
      obtain ⟨⟨hlt, hle⟩, e, he, hfields⟩ := hcopied
      refine ⟨⟨hcursor ▸ hlt, hle.trans hlen⟩, e, ?_, hfields⟩
      rw [hcursor, List.getElem?_append_left (List.getElem?_eq_some_iff.mp he).1, he]
  · rw [hgiven, hcursor, List.take_append_of_le_length h.cursor_le]
    exact h.accounts

/-- The loop goes on, or the drain is over. -/
theorem reads_nextEvent {head lost : UInt64} {events : List Event} (hle : s.cursor.toNat ≤ log.length)
    (hhead : head.toNat ≤ log.length)
    (haccounts : Accounts (handed (s.drained ++ [⟨lost, events, s.cursor⟩])) (log.take s.cursor.toNat)) :
    (s.nextEvent head lost events).Reads log := by
  refine ⟨by rw [cursor_nextEvent]; exact hle, ?_, by rw [given_nextEvent, cursor_nextEvent]; exact haccounts⟩
  rw [nextEvent]
  split
  · rename_i hlt
    exact ⟨hlt, hhead⟩
  · trivial

/-- A reader that is not lapped finds the event under its cursor. -/
theorem Holds.entry (h : s.Holds log) (hlt : s.cursor.toNat < log.length)
    (htime : s.eventHead.toNat + s.filling ≤ s.cursor.toNat + EVENTS) :
    log[s.cursor.toNat]? = some (s.events (slotOf s.cursor)) := by
  rw [h.head] at htime
  exact h.keeps _ (by omega) hlt

theorem Reads.readerStep (h : s.Reads log) (hh : s.Holds log) (htime : ¬ s.Lapped) : s.readerStep.Reads log := by
  have hcopied := h.copied
  have haccounts := h.accounts
  rw [EventRing.readerStep]
  cases hr : s.reader with
  | idle => exact h
  | loadHead =>
    have hle : s.cursor ≤ s.eventHead := UInt64.le_iff_toNat_le.mpr (by rw [hh.head]; exact h.cursor_le)
    obtain ⟨hlost, hstart⟩ := drainFrom_spec hle
    rw [hh.head] at hlost hstart
    rw [given, hr] at haccounts
    have hcursor := h.cursor_le
    refine reads_nextEvent (by dsimp only; omega) hh.head.le ?_
    have hgap : Accounts [.lost (Shared.drainFrom s.eventHead s.cursor).2.toNat]
        ((log.drop s.cursor.toNat).take (Shared.drainFrom s.eventHead s.cursor).2.toNat) := by
      have hlen : ((log.drop s.cursor.toNat).take (Shared.drainFrom s.eventHead s.cursor).2.toNat).length
          = (Shared.drainFrom s.eventHead s.cursor).2.toNat := by
        rw [List.length_take, List.length_drop]
        omega
      have hall := accounts_lost ((log.drop s.cursor.toNat).take (Shared.drainFrom s.eventHead s.cursor).2.toNat)
      rwa [hlen] at hall
    have hboth := haccounts.append hgap
    rw [handed_concat]
    dsimp only
    rw [hstart, ← hlost, List.take_add]
    exact hboth
  | loadRealtime head lost events =>
    rw [hr] at hcopied
    have hlt : s.cursor.toNat < log.length :=
      (UInt64.lt_iff_toNat_lt.mp hcopied.1).trans_le hcopied.2
    rw [Lapped, copying, hr] at htime
    rw [given, hr] at haccounts
    exact ⟨h.cursor_le, ⟨hcopied, _, hh.entry hlt (Nat.not_lt.mp fun hlate ↦ htime ⟨rfl, hlate⟩), rfl⟩, haccounts⟩
  | loadButtons head lost events realtimeNs =>
    rw [hr] at hcopied
    obtain ⟨hin, e, he, hrealtime⟩ := hcopied
    have hlt : s.cursor.toNat < log.length := (UInt64.lt_iff_toNat_lt.mp hin.1).trans_le hin.2
    rw [Lapped, copying, hr] at htime
    rw [given, hr] at haccounts
    have hentry := hh.entry hlt (Nat.not_lt.mp fun hlate ↦ htime ⟨rfl, hlate⟩)
    obtain rfl : e = s.events (slotOf s.cursor) := Option.some_inj.mp (he.symm.trans hentry)
    exact ⟨h.cursor_le, ⟨hin, _, hentry, hrealtime, rfl⟩, haccounts⟩
  | loadReserved head lost events realtimeNs buttons =>
    rw [hr] at hcopied
    obtain ⟨hin, e, he, hrealtime, hbuttons⟩ := hcopied
    have hlt : s.cursor.toNat < log.length := (UInt64.lt_iff_toNat_lt.mp hin.1).trans_le hin.2
    rw [Lapped, copying, hr] at htime
    rw [given, hr] at haccounts
    have hentry := hh.entry hlt (Nat.not_lt.mp fun hlate ↦ htime ⟨rfl, hlate⟩)
    obtain rfl : e = s.events (slotOf s.cursor) := Option.some_inj.mp (he.symm.trans hentry)
    subst hrealtime hbuttons
    have hsucc : (s.cursor + 1).toNat = s.cursor.toNat + 1 := by
      have hmax := head.toNat_lt
      have hnat := UInt64.lt_iff_toNat_lt.mp hin.1
      rw [UInt64.toNat_add, UInt64.toNat_one]
      omega
    refine reads_nextEvent (by dsimp only; omega) hin.2 ?_
    have hone := haccounts.append (accounts_entries [s.events (slotOf s.cursor)])
    rw [handed_concat] at hone ⊢
    dsimp only
    rw [hsucc, List.take_add_one, he, List.map_append, List.map_cons, List.map_nil]
    simpa using hone

/-! ## Each side leaves the other alone -/

theorem writerStep_reads (s : EventRing) : s.writerStep.cursor = s.cursor ∧ s.writerStep.reader = s.reader
    ∧ s.writerStep.drained = s.drained := by
  rw [EventRing.writerStep]
  split <;> exact ⟨rfl, rfl, rfl⟩

theorem readerStep_writes (s : EventRing) : s.readerStep.eventHead = s.eventHead
    ∧ s.readerStep.events = s.events ∧ s.readerStep.writer = s.writer := by
  rw [EventRing.readerStep]
  split <;> simp

/-! ## Any order of turns -/

/-- One turn of either side. -/
theorem holds_reads_step {turn : RingTurn} (hh : s.Holds log) (hr : s.Reads log) (htime : s.InTime turn) :
    (s.step turn).Holds (note log s turn) ∧ (s.step turn).Reads (note log s turn) := by
  cases turn with
  | publish body realtimeNs =>
    show (if s.writer matches .idle then s.startPublish body realtimeNs else s).Holds log
      ∧ (if s.writer matches .idle then s.startPublish body realtimeNs else s).Reads log
    cases hw : s.writer with
    | idle =>
      rw [if_pos rfl, startPublish]
      split
      · exact ⟨hh, hr⟩
      · have hkeeps := hh.keeps
        rw [filling, hw] at hkeeps
        have hsame := hr.append (t := { s with
          lastButtons := packButtons body, writer := .loadHead ⟨realtimeNs, packButtons body, 0⟩ }) rfl rfl rfl []
        rw [List.append_nil] at hsame
        exact ⟨⟨hh.head, trivial, hkeeps⟩, hsame⟩
    | _ => exact ⟨hh, hr⟩
  | writer =>
    obtain ⟨hcursor, hreader, hdrained⟩ := writerStep_reads s
    refine ⟨hh.writerStep htime, ?_⟩
    rw [step, note]
    split
    · exact hr.append hcursor hreader hdrained _
    · rw [← List.append_nil log]
      exact hr.append hcursor hreader hdrained []
  | drain =>
    show (if s.reader matches .idle then { s with reader := .loadHead } else s).Holds log
      ∧ (if s.reader matches .idle then { s with reader := .loadHead } else s).Reads log
    cases hreader : s.reader with
    | idle =>
      have haccounts := hr.accounts
      rw [given, hreader] at haccounts
      exact ⟨hh.congr rfl rfl rfl, hr.cursor_le, trivial, haccounts⟩
    | _ => exact ⟨hh, hr⟩
  | reader =>
    obtain ⟨hhead, hevents, hwriter⟩ := readerStep_writes s
    exact ⟨hh.congr hhead hevents hwriter, hr.readerStep hh htime⟩

/-- **What a drain hands out.**  As long as the reader is not lapped and the head does not wrap, it is whole
events, in order, and every event before the cursor is among them or counted as lost. -/
theorem drains_whole_events {turns : List RingTurn}
    (h : Along (withHistory step note) (fun q turn ↦ q.1.InTime turn) ({}, []) turns) :
    WholeEvents (run (withHistory step note) ({}, []) turns) := by
  let Inv (q : EventRing × List Event) : Prop := q.1.Holds q.2 ∧ q.1.Reads q.2
  have hinit : Inv ({}, []) := ⟨⟨rfl, trivial, Keeps.nil⟩, ⟨le_rfl, trivial, rfl⟩⟩
  have hrun : Inv (run (withHistory step note) ({}, []) turns) :=
    run_invariant_of_along hinit (fun q turn hq htime ↦ holds_reads_step hq.1 hq.2 htime) h
  exact hrun.2.accounts

/-- A press is drained while its release is published, and the release by the next drain. -/
def tap : List RingTurn :=
  List.flatten [[.publish (Function.update (fun _ ↦ 0) DPAD_OFF 0x28) 7], List.replicate 5 .writer,
    [.drain, .reader, .publish (Function.update (fun _ ↦ 0) DPAD_OFF 0x08) 9],
    (List.replicate 5 [.writer, .reader]).flatten, [.drain], List.replicate 4 .reader]

theorem drains_whole_events_tap :
    WholeEvents (run (withHistory step note) ({}, []) tap)
      ∧ (run step {} tap).drained.map (fun d ↦ d.events.map Event.realtimeNs) = [[7], [9]] :=
  ⟨drains_whole_events (by decide +kernel), by decide +kernel⟩

instance decidableAccounts {α : Type} [DecidableEq α] :
    (handed : List (Handed α)) → (log : List α) → Decidable (Accounts handed log)
  | [], log => inferInstanceAs (Decidable (log = []))
  | .lost k :: handed, log =>
    have : Decidable (Accounts handed (log.drop k)) := decidableAccounts handed (log.drop k)
    inferInstanceAs (Decidable (k ≤ log.length ∧ Accounts handed (log.drop k)))
  | .entry x :: handed, log =>
    have : Decidable (Accounts handed log.tail) := decidableAccounts handed log.tail
    inferInstanceAs (Decidable (log.head? = some x ∧ Accounts handed log.tail))

instance (q : EventRing × List Event) : Decidable (WholeEvents q) :=
  inferInstanceAs (Decidable (Accounts (handed q.1.given) (q.2.take q.1.cursor.toNat)))

/-- A ring's worth of changes, one at a time. -/
def ringful : List RingTurn :=
  (List.range EVENTS).flatMap fun n ↦
    .publish (Function.update (fun _ ↦ 0) DPAD_OFF (if n % 2 = 0 then 0x28 else 0x08)) (UInt64.ofNat (n + 1))
      :: List.replicate 5 .writer

/-- A drain that starts a ring behind and meets the next publish. -/
def meeting : List RingTurn :=
  [.drain, .reader, .publish (Function.update (fun _ ↦ 0) DPAD_OFF 0x48) 1000, .writer, .writer, .reader, .reader,
    .reader]

/-- The reader hands out an event with the time of the one that takes its slot. -/
theorem torn_event : ¬ ∀ turns, WholeEvents (run (withHistory step note) ({}, []) turns) := by
  rw [not_forall]
  refine ⟨ringful ++ meeting, ?_⟩
  decide +kernel

end EventRing

end DualSenseMitm.InputFeed
