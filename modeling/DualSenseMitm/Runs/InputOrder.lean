import DualSenseMitm.Frames
import DualSenseMitm.Lib.LatestSlot
import DualSenseMitm.Moves

/-!
# The order of the pad's input towards the console

The held report makes the input stream a stream through a single slot: `Relay.slot` reads it off the
state, `Relay.keepsStream_step` shows that a step of the relay is a run of `LatestSlot.Step`, and `inOrder_run` is
what follows for every run.  It is about the marks in the trace; which frames carry the marked reports comes with
their format.

An arrival is a report and whether the console's interrupt channel was open when it came.  Opaque
frames are never passed on, and a report waits in the slot only if the channel was open and it fits.
-/

set_option autoImplicit false

namespace DualSenseMitm

open Machine LatestSlot

/-- What the trace says about the pad's input. -/
def Output.inputEvent : Output → Option (LatestSlot.Event (List UInt8 × Bool))
  | .padInput report consoleOpen => some (.arrived (report, consoleOpen))
  | .relayed report flushed _ => some (.sent (report, true) flushed)
  | _ => none

/-- The pad's reports and those sent on towards the console, in the order in which they came and
went. -/
def inputTrace (out : List Output) : List (LatestSlot.Event (List UInt8 × Bool)) :=
  out.filterMap Output.inputEvent

/-- A frame that carries controller state. -/
def notOpaque (a : List UInt8 × Bool) : Bool := !opaqueFrame a.1

/-- A report of at most 79 bytes that carries controller state and arrived while the console's
interrupt channel was open. -/
def mayWait (a : List UInt8 × Bool) : Bool := a.2 && notOpaque a && decide (a.1.length ≤ 79)

/-- The report in the slot. -/
def HeldFrame.waiting (h : HeldFrame) : Option (List UInt8 × Bool) :=
  if h.valid then some (h.view, true) else none

namespace Relay

/-- The input stream of a state. -/
def slot (r : Relay) : State (List UInt8 × Bool) where
  trace := inputTrace r.out
  held := (r.h .toPlaystation).held.waiting

/-- The pad-facing handler holds nothing back. -/
def PadSideIdle (r : Relay) : Prop := (r.h .toDualsense).held.valid = false

/-- The input stream behind is a later one of the stream before. -/
def Streams (r r' : Relay) : Prop :=
  Relation.ReflTransGen (LatestSlot.Step notOpaque mayWait) r.slot r'.slot

/-! ## What has nothing to do with the stream -/

section performs

variable {A : Set Aspect} {r r' : Relay} (h : Performs (Op.Within A) r r')
  (hA : ∀ s, .relaying s ∉ A)
include h hA

theorem inputTrace_eq : inputTrace r'.out = inputTrace r.out := by
  obtain ⟨new, hout, hnew⟩ := h.out
  have hnil : new.filterMap Output.inputEvent = [] := by
    refine List.filterMap_eq_nil_iff.mpr fun o ho ↦ ?_
    cases o with
    | padInput report consoleOpen => exact absurd ((hnew _ ho).within rfl rfl) (not_exists.mpr hA)
    | relayed report flushed now => exact absurd ((hnew _ ho).within rfl rfl) (not_exists.mpr hA)
    | _ => rfl
  rw [inputTrace, hout, List.filterMap_append, hnil, List.append_nil, inputTrace]

theorem padSideIdle_of_within (hidle : r.PadSideIdle) : r'.PadSideIdle := by
  rcases held_eq_or_empty h .toDualsense (hA _) with heq | heq
  · rwa [PadSideIdle, heq]
  · rw [PadSideIdle, heq]; rfl

theorem streams_of_within : r.Streams r' := by
  have htrace := inputTrace_eq h hA
  rcases held_eq_or_empty h .toPlaystation (hA _) with heq | heq
  · have hslot : r'.slot = r.slot := by rw [slot, slot, htrace, heq]
    rw [Streams, hslot]
  · have hslot : r'.slot = ⟨r.slot.trace, none⟩ := by rw [slot, htrace, heq]; rfl
    rw [Streams, hslot]
    exact .single .clear

end performs

theorem slot_of_within {A : Set Aspect} {r r' : Relay} (h : Performs (Op.Within A) r r')
    (hA : ∀ s, .relaying s ∉ A) (hl : .links ∉ A) : r'.slot = r.slot := by
  rw [slot, slot, inputTrace_eq h hA, held_eq h .toPlaystation (hA _) hl]

theorem slot_of_quiet {r r' : Relay} (h : Performs Op.Quiet r r') : r'.slot = r.slot :=
  slot_of_within (A := ∅) h.within (by simp) (by simp)

variable (r : Relay)

theorem slot_noteInputSent (s : ConnectionSide) : (r.noteInputSent s).slot = r.slot :=
  slot_of_within (A := {.measuring}) (within_noteInputSent r s (.inr rfl)) (by simp) (by simp)

theorem slot_afterRoom : (r.afterRoom .toPlaystation).slot = r.slot :=
  slot_of_within (A := {.credits .toPlaystation}) (within_afterRoom r _ (.inl (by rfl))) (by simp) (by simp)

/-! ## A report arrives -/

theorem slot_sendReportToConsole (s : ConnectionSide) (report : List UInt8) (flushed : Bool) :
    (r.sendReportToConsole s report flushed).slot
      = ⟨r.slot.trace ++ [.sent (report, true) flushed], r.slot.held⟩ := by
  rw [slot_of_within (forwards_sendReportToConsole r s report flushed) (by simp) (by simp)]
  simp [slot, inputTrace, Output.inputEvent]

theorem slot_clearHeld :
    (r.onHeld .toPlaystation fun h ↦ h.clear).slot = ⟨r.slot.trace, none⟩ := by
  simp [slot, HeldFrame.waiting]

theorem slot_storeHeld (report : List UInt8) :
    (r.onHeld .toPlaystation fun h ↦ h.store report).slot
      = ⟨r.slot.trace, if report.length ≤ 79 ∧ report ≠ [] then some (report, true) else none⟩ := by
  by_cases hlen : report.length ≤ 79
  · have hview := (r.h .toPlaystation).held.view_store hlen
    by_cases hnil : report = []
    · subst hnil; simp [slot, HeldFrame.waiting, HeldFrame.valid, hview]
    · simp [slot, HeldFrame.waiting, HeldFrame.valid, hview, hnil, hlen]
  · have hstore := (r.h .toPlaystation).held.store_of_lt (Nat.lt_of_not_le hlen)
    simp [slot, HeldFrame.waiting, hstore, hlen]

theorem slot_emit_padInput (report : List UInt8) (o : Bool) :
    (r.emit (.padInput report o)).slot = ⟨r.slot.trace ++ [.arrived (report, o)], r.slot.held⟩ := by
  simp [slot, inputTrace, Output.inputEvent]

/-- What is left to do with a report that has just arrived, in a state whose stream does not know it
yet. -/
theorem streams_relayPadInputToConsole {σ : State (List UInt8 × Bool)} {report : List UInt8}
    (hslot : r.slot = ⟨σ.trace ++ [.arrived (report, r.linked && r.dcid .toPlaystation .hidInterrupt
      != 0)], σ.held⟩) :
    Relation.ReflTransGen (LatestSlot.Step notOpaque mayWait) σ
      (r.relayPadInputToConsole .toDualsense report).slot := by
  unfold relayPadInputToConsole
  extract_lets r₁
  by_cases hopen : r.linked = true ∧ r.dcid ConnectionSide.toDualsense.other .hidInterrupt ≠ 0
  · have ho : (r.linked && r.dcid .toPlaystation .hidInterrupt != 0) = true := by
      simpa using hopen
    rw [ho] at hslot
    rw [if_pos hopen]
    have h₁ : Performs Op.Quiet r r₁ := quiet_onChannels r _ fun _ ↦ ⟨rfl, rfl⟩
    by_cases hopaque : opaqueFrame report = true
    · have hq := h₁.trans (quiet_onStreams r₁ .toPlaystation (f := fun st ↦
        { st with consoleInputOpaqueDropped := st.consoleInputOpaqueDropped + 1 }) fun _ ↦ rfl)
      rw [if_pos hopaque]
      rw [← slot_of_quiet hq] at hslot
      exact hslot ▸ .single (.ignore (by simp [mayWait, notOpaque, hopaque]))
    · rw [if_neg hopaque]
      have hroom : (r₁.afterRoom ConnectionSide.toDualsense.other).slot = r.slot :=
        (slot_afterRoom r₁).trans (slot_of_quiet h₁)
      split
      · -- it goes out at once, and supersedes what was held
        rw [slot_sendReportToConsole, slot_noteInputSent]
        change Relation.ReflTransGen _ σ ⟨(slot (onHeld _ .toPlaystation _)).trace ++ _,
          (slot (onHeld _ .toPlaystation _)).held⟩
        rw [slot_clearHeld, hroom, hslot]
        exact .single (.pass (by simp [notOpaque, hopaque]))
      · -- it waits, if it fits
        have hstreams := quiet_onStreams (r₁.afterRoom ConnectionSide.toDualsense.other)
          ConnectionSide.toDualsense.other (f := fun st ↦
            { st with consoleInputBackpressure := st.consoleInputBackpressure + 1 }) fun _ ↦ rfl
        change Relation.ReflTransGen _ σ (slot (onHeld _ .toPlaystation _))
        rw [slot_storeHeld, slot_of_quiet hstreams, hroom, hslot]
        by_cases hlen : report.length ≤ 79 ∧ report ≠ []
        · rw [if_pos hlen]
          exact .single (.hold (by simp [mayWait, notOpaque, hopaque, hlen.1]))
        · rw [if_neg hlen]
          exact .single .refuse
  · have ho : (r.linked && r.dcid .toPlaystation .hidInterrupt != 0) = false := by
      simpa using hopen
    rw [if_neg hopen, hslot, ho]
    exact .single (.ignore rfl)

theorem streams_relayPadInput (report : List UInt8) :
    r.Streams (r.relayPadInput .toDualsense report) := by
  unfold relayPadInput
  extract_lets r₁
  have h₁ : Performs Op.Quiet r₁ ((r₁.publishInput .toDualsense report).relayPadInputToUsb
      .toDualsense report) :=
    (quiet_publishInput r₁ _ report).trans (quiet_relayPadInputToUsb _ _ report)
  have h₁' : Performs (Op.Within ∅) r₁ _ := h₁.within
  refine streams_relayPadInputToConsole _ ?_
  rw [slot_of_quiet h₁, h₁.linked, dcid_eq h₁' .toPlaystation (by simp) (by simp)]
  exact slot_emit_padInput r report _

/-! ## A buffer returns -/

theorem streams_flushHeldReport (s : ConnectionSide) (hidle : r.PadSideIdle) :
    r.Streams (r.flushHeldReport s) := by
  unfold flushHeldReport
  extract_lets r₁
  cases s with
  | toDualsense => rw [if_neg (by rw [hidle]; decide), Streams]
  | toPlaystation =>
    have h₁ : r₁.slot = r.slot := slot_afterRoom r
    have hq : r.Streams r₁ := by rw [Streams, h₁]
    split
    · rename_i hvalid
      have hheld : r.slot.held = some ((r.h .toPlaystation).held.view, true) := if_pos hvalid
      split
      · split
        · rw [Streams, slot_clearHeld, h₁]
          exact .single .clear
        · split
          · rw [Streams, slot_sendReportToConsole, slot_of_quiet (quiet_onStreams _ _ fun _ ↦ by rfl),
              slot_noteInputSent, slot_clearHeld, h₁]
            exact .single (.flush hheld)
          · exact hq
      · exact hq
    · rw [Streams]

/-! ## Any step -/

/-- The stream goes on, and the pad-facing handler stays idle. -/
def KeepsStream (r r' : Relay) : Prop := r.PadSideIdle → r.Streams r' ∧ r'.PadSideIdle

theorem KeepsStream.trans {r r' r'' : Relay} (h : r.KeepsStream r') (h' : r'.KeepsStream r'') :
    r.KeepsStream r'' := fun hidle ↦
  ⟨(h hidle).1.trans (h' (h hidle).2).1, (h' (h hidle).2).2⟩

theorem keepsStream_of_within {A : Set Aspect} {r r' : Relay} (h : Performs (Op.Within A) r r')
    (hA : ∀ s, .relaying s ∉ A) : r.KeepsStream r' := fun hidle ↦
  ⟨streams_of_within h hA, padSideIdle_of_within h hA hidle⟩

theorem keepsStream_routePayload (s : ConnectionSide) (cid : UInt16) (payload : List UInt8) :
    r.KeepsStream (r.routePayload s cid payload) := by
  by_cases h : s = .toDualsense ∧ cid = Channel.hidInterrupt.scid
  · obtain ⟨rfl, rfl⟩ := h
    change r.KeepsStream (r.relayPadInput .toDualsense payload)
    have hw : Performs (Op.Within {.relaying .toPlaystation}) r
        (r.relayPadInput .toDualsense payload) := within_relayPadInput r _ (by rfl) payload
    refine fun hidle ↦ ⟨streams_relayPadInput r payload, ?_⟩
    rwa [PadSideIdle, held_eq hw .toDualsense (by simp) (by simp)]
  · exact keepsStream_of_within (A := {.reports, .forwarding, .console s, .pacing s})
      (within_routePayload_of_ne r s (by simp) (by simp) (by simp) (by simp) h payload) (by simp)

theorem keepsStream_routeL2capPdu (s : ConnectionSide) (pdu : List UInt8) :
    r.KeepsStream (r.routeL2capPdu s pdu) := by
  have hm := pdu_move r s pdu
  revert hm
  generalize PduContents.decode pdu = contents
  generalize r.routeL2capPdu s pdu = t
  intro hm
  cases hm with
  | nothing => exact fun hidle ↦ ⟨.refl, hidle⟩
  | command =>
    exact keepsStream_of_within (A := {.signalling s, .binding s})
      (within_handleL2capCmd r s (by simp) (by simp) _) (by simp)
  | payload => exact keepsStream_routePayload r s _ _

theorem keepsStream_routePdu (s : ConnectionSide) (handle : UInt16) (pdu : List UInt8) :
    r.KeepsStream (r.routePdu s handle pdu) := by
  have h : Performs (Op.Within {.routing}) r (r.emit (.routed s handle pdu)) := within_emit r rfl
  exact (keepsStream_of_within h (by simp)).trans (keepsStream_routeL2capPdu _ s pdu)

theorem keepsStream_flushHeldReport (s : ConnectionSide) :
    r.KeepsStream (r.flushHeldReport s) := by
  refine fun hidle ↦ ⟨streams_flushHeldReport r s hidle, ?_⟩
  cases s with
  | toDualsense => rwa [flushHeldReport, if_neg (by rw [hidle]; decide)]
  | toPlaystation =>
    have hw : Performs (Op.Within {.relaying .toPlaystation}) r (r.flushHeldReport .toPlaystation) :=
      within_flushHeldReport r _ (by rfl)
    rwa [PadSideIdle, held_eq hw .toDualsense (by simp) (by simp)]

theorem keepsStream_handleNumCompletedPackets (s : ConnectionSide) (plen : UInt8)
    (p : PacketContents) : r.KeepsStream (r.handleNumCompletedPackets s plen p) := by
  have hrefl : r.KeepsStream r := fun hidle ↦ ⟨.refl, hidle⟩
  unfold handleNumCompletedPackets
  split
  · exact hrefl
  · split
    · exact hrefl
    · refine KeepsStream.trans ?_ (keepsStream_flushHeldReport _ s)
      refine keepsStream_of_within (A := {.credits s}) (.trans ?_ (quiet_advance _ _).within) (by simp)
      exact within_onAcl r s (.inl (by rfl)) (AclFlowControl.shrinks_onNumCompleted _ _)

theorem keepsStream_setReasm (s : ConnectionSide) (handle : UInt16) (re : Option AclReasm) :
    r.KeepsStream (r.setReasm s handle re) :=
  keepsStream_of_within (within_setReasm r s (Set.mem_singleton _) handle re) (by simp)

theorem keepsStream_acl {s : ConnectionSide} {p : PacketContents} {t : Relay}
    (h : AclMove r s p t) : r.KeepsStream t := by
  cases h with
  | dropped => exact fun hidle ↦ ⟨.refl, hidle⟩
  | ghost h =>
    have hw : Performs (Op.Within {.linkNotes, .closing}) r (r.handleGhost s (aclHandle p)) :=
      within_handleGhost r s (by simp) (by simp) _
    exact keepsStream_of_within hw (by simp)
  | buffered hc => exact keepsStream_setReasm r s _ _
  | routed ho hc => exact (keepsStream_setReasm r s _ _).trans (keepsStream_routePdu _ s _ _)
  | routedLast ho hc =>
    exact ((keepsStream_setReasm r s _ _).trans (keepsStream_routePdu _ s _ _)).trans
      (keepsStream_setReasm _ s _ _)

/-- A step of the relay is a run of the stream through the slot. -/
theorem keepsStream_step (i : Input) : r.KeepsStream (r.step i) := by
  have hm := step_move r i
  have hw := hm.within
  revert hm hw
  generalize r.cause i = c
  generalize r.step i = t
  intro hm hw
  cases hm with
  | acl => exact keepsStream_acl r (acl_move r _ _)
  | numCompletedPackets => exact keepsStream_handleNumCompletedPackets r _ _ _
  | quiet h => exact keepsStream_of_within (A := ∅) h.within (by simp)
  | _ => exact keepsStream_of_within hw (by simp [Cause.aspects])

end Relay

/-- In every run, at every point of the trace, the reports sent towards the console are a subsequence of the
non-opaque reports the pad sent, and whatever the held slot releases is the newest report that could have
waited in it. -/
theorem inOrder_run (c : Config) (is : List Input) :
    InOrder notOpaque mayWait (inputTrace (run Relay.step (.init c) is).out) := by
  have hrun : (Relay.init c).KeepsStream (run Relay.step (.init c) is) :=
    run_invariant is (fun hidle ↦ ⟨.refl, hidle⟩) fun r i hr ↦ hr.trans (r.keepsStream_step i)
  refine inOrder_of_steps (fun a ha ↦ ?_) (hrun rfl).1
  rw [mayWait, Bool.and_eq_true, Bool.and_eq_true] at ha
  exact ha.1.2

end DualSenseMitm
