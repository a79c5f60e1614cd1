import DualSenseMitm.Runs.InputOrder
import DualSenseMitm.Runs.Pages
import DualSenseMitm.Sending

/-!
# What a link was owed

The console-facing handler keeps one report back while no buffer is free.  `HeldSince` follows how often
the console's current link has changed and under which link the report in the slot was stored.  A link
that is gone takes its report with it; one that the console leaves for another does not, so a report
stays with its link exactly as long as no link is left while a report waits (`Relay.LeavesHeld`).
-/

set_option autoImplicit false

namespace DualSenseMitm

open Bytes Machine

/-- A report sent from the slot. -/
def Output.isFlush : Output → Bool
  | .relayed _ flushed _ => flushed
  | _ => false

/-- A report of the pad that may wait for the console. -/
def Output.isKept : Output → Bool
  | .padInput report consoleOpen => consoleOpen && !opaqueFrame report
  | _ => false

namespace Relay

/-- The report kept back for the console. -/
abbrev held (r : Relay) : HeldFrame := (r.h .toPlaystation).held

/-- The console's current link. -/
abbrev consoleLink (r : Relay) : UInt16 := (r.h .toPlaystation).links.connectionHandle

/-- The step puts a report of the pad into the slot. -/
def stores (r : Relay) (i : Input) : Bool := (r.step i).held.valid && (r.added i).any Output.isKept

/-- The console leaves its current link for another while a report waits. -/
def LeavesHeld (r : Relay) (i : Input) : Prop :=
  r.consoleLink ≠ 0 ∧ r.held.valid = true
    ∧ ∃ k ∈ (r.cause i).completed?,
      k.1 = .toPlaystation ∧ k.2.status = HCI_SUCCESS ∧ k.2.handle ≠ r.consoleLink

instance (r : Relay) (i : Input) : Decidable (r.LeavesHeld i) :=
  inferInstanceAs (Decidable (_ ∧ _ ∧ ∃ k ∈ (r.cause i).completed?, _))

variable {r r' r'' : Relay}

/-! ## What is sent from the slot -/

/-- From one state to another nothing is sent from the slot. -/
def FlushesNothing (r r' : Relay) : Prop := ∃ new, r'.out = r.out ++ new ∧ ∀ o ∈ new, o.isFlush = false

theorem FlushesNothing.trans (h : FlushesNothing r r') (h' : FlushesNothing r' r'') :
    FlushesNothing r r'' := by
  obtain ⟨new, hr, hnew⟩ := h
  obtain ⟨more, hr', hmore⟩ := h'
  refine ⟨new ++ more, by rw [hr', hr, List.append_assoc], fun o ho ↦ ?_⟩
  exact (List.mem_append.mp ho).elim (hnew o) (hmore o)

theorem flushesNothing_of_out {new : List Output} (h : r'.out = r.out ++ new)
    (hnew : ∀ o ∈ new, o.isFlush = false) : FlushesNothing r r' := ⟨new, h, hnew⟩

theorem flushesNothing_of_within {A : Set Aspect} (h : Performs (Op.Within A) r r')
    (hA : ∀ s, .relaying s ∉ A) : FlushesNothing r r' := by
  obtain ⟨new, hout, hnew⟩ := h.out
  refine ⟨new, hout, fun o ho ↦ ?_⟩
  cases o with
  | relayed report flushed now => exact absurd ((hnew _ ho).within rfl rfl) (not_exists.mpr hA)
  | _ => rfl

theorem flushesNothing_of_quiet (h : Performs Op.Quiet r r') : FlushesNothing r r' :=
  flushesNothing_of_within (A := ∅) h.within (by simp)

theorem flushesNothing_sendReportToConsole (r : Relay) (s : ConnectionSide) (report : List UInt8) :
    FlushesNothing r (r.sendReportToConsole s report false) := by
  have hmark : FlushesNothing r (r.emit (.relayed report false r.lastReading)) :=
    flushesNothing_of_out (out_emit r _) (by simp [Output.isFlush])
  exact hmark.trans (flushesNothing_of_within (forwards_sendReportToConsole r s report false) (by simp))

/-! ## A report arrives -/

variable (r) (report : List UInt8)

theorem held_of_quiet {r r' : Relay} (h : Performs Op.Quiet r r') : r'.held = r.held :=
  held_eq (A := ∅) h.within .toPlaystation (by simp) (by simp)

theorem held_noteInputSent (r : Relay) (s : ConnectionSide) : (r.noteInputSent s).held = r.held :=
  held_eq (A := {.measuring}) (within_noteInputSent r s (.inr rfl)) .toPlaystation (by simp) (by simp)

theorem held_afterRoom : (r.afterRoom .toPlaystation).held = r.held :=
  held_eq (A := {.credits .toPlaystation}) (within_afterRoom r _ (.inl (by rfl))) .toPlaystation (by simp)
    (by simp)

theorem flushesNothing_afterRoom : FlushesNothing r (r.afterRoom .toPlaystation) :=
  flushesNothing_of_within (A := {.credits .toPlaystation}) (within_afterRoom r _ (.inl (by rfl))) (by simp)

theorem held_sendReportToConsole (flushed : Bool) :
    (r.sendReportToConsole .toPlaystation report flushed).held = r.held :=
  held_eq (forwards_sendReportToConsole r .toPlaystation report flushed) .toPlaystation (by simp) (by simp)

/-- When a report arrives, the slot stays as it is or is emptied, or the report is one to keep. -/
theorem held_relayPadInputToConsole :
    ((r.relayPadInputToConsole .toDualsense report).held = r.held
        ∨ (r.relayPadInputToConsole .toDualsense report).held = .empty
        ∨ (r.linked && r.dcid .toPlaystation .hidInterrupt != 0) = true ∧ opaqueFrame report = false)
      ∧ FlushesNothing r (r.relayPadInputToConsole .toDualsense report) := by
  unfold relayPadInputToConsole
  extract_lets r₁
  have h₁ : Performs Op.Quiet r r₁ := quiet_onChannels r _ fun _ ↦ ⟨rfl, rfl⟩
  have hroom : FlushesNothing r (r₁.afterRoom .toPlaystation) :=
    (flushesNothing_of_quiet h₁).trans (flushesNothing_afterRoom r₁)
  split
  · rename_i hopen
    have ho : (r.linked && r.dcid .toPlaystation .hidInterrupt != 0) = true := by simpa using hopen
    split
    · have hq := h₁.trans (quiet_onStreams r₁ .toPlaystation (f := fun st ↦
        { st with consoleInputOpaqueDropped := st.consoleInputOpaqueDropped + 1 }) fun _ ↦ rfl)
      exact ⟨.inl (held_of_quiet hq), flushesNothing_of_quiet hq⟩
    · rename_i hopaque
      refine ⟨.inr (.inr ⟨ho, Bool.eq_false_iff.mpr hopaque⟩), ?_⟩
      split
      · have hcleared : FlushesNothing (r₁.afterRoom .toPlaystation)
            ((r₁.afterRoom .toPlaystation).onHeld .toPlaystation fun h ↦ h.clear) :=
          flushesNothing_of_out (by simp) (List.forall_mem_nil _)
        have hnoted := within_noteInputSent (A := {.measuring})
          ((r₁.afterRoom .toPlaystation).onHeld .toPlaystation fun h ↦ h.clear) .toPlaystation (.inr rfl)
        exact ((hroom.trans hcleared).trans
          (flushesNothing_of_within hnoted (by simp))).trans (flushesNothing_sendReportToConsole _ _ report)
      · have hstreams := quiet_onStreams (r₁.afterRoom .toPlaystation) .toPlaystation (f := fun st ↦
          { st with consoleInputBackpressure := st.consoleInputBackpressure + 1 }) fun _ ↦ rfl
        exact (hroom.trans (flushesNothing_of_quiet hstreams)).trans
          (flushesNothing_of_out (by simp) (List.forall_mem_nil _))
  · exact ⟨.inl rfl, flushesNothing_of_quiet (.refl r)⟩

/-- What becomes of the slot, and what of the trace, when the pad sends a report. -/
theorem held_relayPadInput :
    let r' := r.relayPadInput .toDualsense report
    (r'.held = r.held ∨ r'.held = .empty
        ∨ r.linked = true ∧ ∃ new, r'.out = r.out ++ .padInput report true :: new ∧ opaqueFrame report = false)
      ∧ FlushesNothing r r' := by
  intro r'
  let mark := Output.padInput report (r.linked && r.dcid .toPlaystation .hidInterrupt != 0)
  let r₂ := ((r.emit mark).publishInput .toDualsense report).relayPadInputToUsb .toDualsense report
  have hq : Performs Op.Quiet (r.emit mark) r₂ :=
    (quiet_publishInput _ _ report).trans (quiet_relayPadInputToUsb _ _ report)
  obtain ⟨hslot, hnone⟩ := held_relayPadInputToConsole r₂ report
  have hheld : r₂.held = r.held := (held_of_quiet hq).trans rfl
  have hopen : (r₂.linked && r₂.dcid .toPlaystation .hidInterrupt != 0)
      = (r.linked && r.dcid .toPlaystation .hidInterrupt != 0) := by
    rw [hq.linked, dcid_eq (A := ∅) hq.within .toPlaystation (by simp) (by simp)]
    rfl
  have hmarked : FlushesNothing r (r.emit mark) :=
    flushesNothing_of_out (out_emit r mark) (by simp [mark, Output.isFlush])
  have hall : FlushesNothing r r' := (hmarked.trans (flushesNothing_of_quiet hq)).trans hnone
  refine ⟨?_, hall⟩
  rw [hheld, hopen] at hslot
  rcases hslot with hs | hs | ⟨ho, hopaque⟩
  · exact .inl hs
  · exact .inr (.inl hs)
  · obtain ⟨new, hnew, -⟩ := (flushesNothing_of_quiet hq).trans hnone
    have hmark : mark = .padInput report true := congrArg (Output.padInput report) ho
    refine .inr (.inr ⟨(Bool.and_eq_true_iff.mp ho).1, new, ?_, hopaque⟩)
    rw [show r'.out = _ from hnew, out_emit, List.append_assoc, hmark]
    rfl

/-! ## A buffer returns -/

theorem out_flushHeldReport (s : ConnectionSide) :
    FlushesNothing r (r.flushHeldReport s) ∨ (r.h s).held.valid = true := by
  unfold flushHeldReport
  extract_lets r₁
  split
  · exact .inr ‹_›
  · exact .inl (flushesNothing_of_quiet (.refl r))

theorem held_flushHeldReport :
    (r.flushHeldReport .toPlaystation).held = r.held ∨ (r.flushHeldReport .toPlaystation).held = .empty := by
  unfold flushHeldReport
  extract_lets r₁
  have h₁ : r₁.held = r.held := held_afterRoom r
  split
  · split
    · split
      · exact .inr (by simp [held, HeldFrame.clear])
      · split
        · right
          rw [held_sendReportToConsole, held_of_quiet (quiet_onStreams _ _ fun _ ↦ by rfl), held_noteInputSent]
          simp [held, HeldFrame.clear]
        · exact .inl h₁
    · exact .inl h₁
  · exact .inl rfl

/-! ## One step -/

theorem padSideIdle_step (h : r.PadSideIdle) (i : Input) : (r.step i).PadSideIdle :=
  ((keepsStream_step r i) h).2

variable {r}

section relaying

variable {Q R : Relay → Relay → Prop}
  (hquiet : ∀ {A r r'}, Performs (Op.Within A) r r' → (∀ s, .relaying s ∉ A) → .measuring ∉ A → Q r r')
  (hnone : ∀ {r r'}, Q r r' → R r r') (hbehind : ∀ {r r' r''}, Q r r' → R r' r'' → R r r'')
include hquiet hnone

theorem relaying_routePayload (hinput : ∀ r report, R r (relayPadInput r .toDualsense report)) (r : Relay)
    (s : ConnectionSide) (cid : UInt16) (data : List UInt8) : R r (r.routePayload s cid data) := by
  by_cases h : s = .toDualsense ∧ cid = Channel.hidInterrupt.scid
  · obtain ⟨rfl, rfl⟩ := h
    exact hinput r data
  · exact hnone (hquiet (A := {.reports, .forwarding, .console s, .pacing s})
      (within_routePayload_of_ne r s (by simp) (by simp) (by simp) (by simp) h data) (by simp) (by simp))

include hbehind

theorem relaying_numCompleted (hflush : ∀ r, r.PadSideIdle → ∀ s, R r (flushHeldReport r s)) (r : Relay)
    (hidle : r.PadSideIdle) (s : ConnectionSide) (plen : UInt8) (p : PacketContents) :
    R r (r.handleNumCompletedPackets s plen p) := by
  have hrefl : R r r := hnone (hquiet (A := ∅) (.refl r) (by simp) (by simp))
  unfold handleNumCompletedPackets
  split
  · exact hrefl
  · split
    · exact hrefl
    · rename_i body _ _
      have hcount : Performs (Op.Within {.credits s}) r ((r.onAcl s fun a ↦
          a.onNumCompleted (fun k ↦ r.env.clock (r.tick + k)) body).advance (byteAt body 0).toNat) :=
        (within_onAcl r s (.inl (by rfl)) (AclFlowControl.shrinks_onNumCompleted _ _)).trans
          (quiet_advance _ _).within
      exact hbehind (hquiet hcount (by simp) (by simp))
        (hflush _ (padSideIdle_of_within hcount (by simp) hidle) s)

/-- **What is relayed.**  Apart from a report of the pad and a buffer that returns, a step relays nothing;
and what it does behind these and before them relays nothing either. -/
theorem relaying_step (hbefore : ∀ {r r' r''}, R r r' → Q r' r'' → R r r'')
    (hinput : ∀ r report, R r (relayPadInput r .toDualsense report))
    (hflush : ∀ r, r.PadSideIdle → ∀ s, R r (flushHeldReport r s)) (r : Relay) (hidle : r.PadSideIdle)
    (i : Input) : R r (r.step i) := by
  have hm := step_move r i
  have hw := hm.within
  revert hm hw
  generalize r.cause i = cause
  generalize r.step i = r'
  intro hm hw
  cases hm with
  | @acl s p =>
    have hpart := acl_part r s p
    revert hpart
    generalize r.handleAcl s p = r'
    generalize r.contentsOf s p = contents
    intro hpart
    cases hpart with
    | nothing h => exact hnone (hquiet h (by simp) (by simp))
    | @command re pdu q _ h =>
      obtain ⟨re', rfl⟩ := h
      have hbefore := within_arriving (A := {.linkNotes, .routing, .signalling s, .binding s}) r s (by simp)
        (by simp) p re pdu
      have hcommand := hbefore.trans (within_handleL2capCmd _ s (by simp) (by simp) q)
      exact hnone (hquiet (hcommand.trans (within_setReasm _ s (by simp) _ _)) (by simp) (by simp))
    | @payload re pdu cid data _ h =>
      obtain ⟨re', rfl⟩ := h
      have harrive := within_arriving (A := {.linkNotes, .routing}) r s (by simp) (by simp) p re pdu
      have hafter := within_setReasm (A := {.linkNotes}) ((r.arriving s p re pdu).routePayload s cid data) s
        (by simp) (aclHandle p) re'
      have hroute := relaying_routePayload hquiet hnone hinput (r.arriving s p re pdu) s cid data
      exact hbefore (hbehind (hquiet harrive (by simp) (by simp)) hroute) (hquiet hafter (by simp) (by simp))
  | numCompletedPackets => exact relaying_numCompleted hquiet hnone hbehind hflush r hidle _ _ _
  | quiet h => exact hnone (hquiet (A := ∅) h.within (by simp) (by simp))
  | _ => exact hnone (hquiet hw (by simp [Cause.aspects]) (by simp [Cause.aspects]))

end relaying

/-- What one step can do to the slot: it sends from it only what is there, and otherwise leaves it,
empties it or stores in it. -/
structure SlotStep (r r' : Relay) (new : List Output) : Prop where
  out : r'.out = r.out ++ new
  flush : (∀ o ∈ new, o.isFlush = false) ∨ r.held.valid = true
  slot : r'.held = r.held ∨ r'.held = .empty
    ∨ r.linked = true ∧ ∃ report, .padInput report true ∈ new ∧ opaqueFrame report = false

/-- Nothing is sent from the slot, and it stays as it is or is emptied. -/
def LeavesSlot (r r' : Relay) : Prop :=
  FlushesNothing r r' ∧ (r'.held = r.held ∨ r'.held = .empty) ∧ r'.linked = r.linked

theorem LeavesSlot.slotStep (h : LeavesSlot r r') : ∃ new, SlotStep r r' new := by
  obtain ⟨⟨new, hout, hnone⟩, hslot, -⟩ := h
  exact ⟨new, hout, .inl hnone, hslot.imp_right .inl⟩

theorem LeavesSlot.behind {new : List Output} (h : LeavesSlot r r') (h' : SlotStep r' r'' new) :
    ∃ new, SlotStep r r'' new := by
  obtain ⟨⟨before, hout, hnone⟩, hslot, hlinked⟩ := h
  refine ⟨before ++ new, by rw [h'.out, hout, List.append_assoc], ?_, ?_⟩
  · refine h'.flush.imp (fun hnone' o ho ↦ (List.mem_append.mp ho).elim (hnone o) (hnone' o)) fun hvalid ↦ ?_
    rcases hslot with hs | hs
    · rwa [← hs]
    · rw [hs] at hvalid
      cases hvalid
  · rcases h'.slot with hs | hs | ⟨hl, report, hmem, hopaque⟩
    · rw [hs]
      exact hslot.imp_right .inl
    · exact .inr (.inl hs)
    · exact .inr (.inr ⟨hlinked ▸ hl, report, List.mem_append_right _ hmem, hopaque⟩)

theorem LeavesSlot.before {new : List Output} (h' : LeavesSlot r' r'') (h : SlotStep r r' new) :
    ∃ new, SlotStep r r'' new := by
  obtain ⟨⟨after, hout, hnone⟩, hslot, -⟩ := h'
  refine ⟨new ++ after, by rw [hout, h.out, List.append_assoc], ?_, ?_⟩
  · exact h.flush.imp_left fun hnone' o ho ↦ (List.mem_append.mp ho).elim (hnone' o) (hnone o)
  · rcases hslot with hs | hs
    · rw [hs]
      refine h.slot.imp_right (Or.imp_right (And.imp_right ?_))
      rintro ⟨report, hmem, hopaque⟩
      exact ⟨report, List.mem_append_left _ hmem, hopaque⟩
    · exact .inr (.inl hs)

/-- The pad's handler has nothing in its slot, so only the console's sends from it. -/
theorem slotStep_flushHeldReport (r : Relay) (hidle : r.PadSideIdle) (s : ConnectionSide) :
    ∃ new, SlotStep r (r.flushHeldReport s) new := by
  cases s with
  | toDualsense =>
    rw [flushHeldReport, if_neg (by rw [hidle]; decide)]
    exact ⟨[], by simp, .inl (by simp), .inl rfl⟩
  | toPlaystation =>
    have hw : Performs (Op.Within {.relaying .toPlaystation}) r (r.flushHeldReport .toPlaystation) :=
      within_flushHeldReport r _ (by rfl)
    obtain ⟨new, hout, -⟩ := hw.out
    refine ⟨new, hout, ?_, (held_flushHeldReport r).imp_right .inl⟩
    refine (out_flushHeldReport r .toPlaystation).imp_left ?_
    rintro ⟨new', hout', hnone⟩
    rwa [List.append_cancel_left (hout.symm.trans hout')]

/-- **What one step does to the slot.** -/
theorem slot_step (r : Relay) (hidle : r.PadSideIdle) (i : Input) : SlotStep r (r.step i) (r.added i) := by
  suffices h : ∃ new, SlotStep r (r.step i) new by
    obtain ⟨new, h⟩ := h
    rwa [added_eq h.out]
  refine relaying_step (Q := LeavesSlot) (R := fun r r' ↦ ∃ new, SlotStep r r' new) (fun h hA _ ↦ ?_)
    LeavesSlot.slotStep (fun h h' ↦ h'.elim fun _ ↦ h.behind) (fun h h' ↦ h.elim fun _ ↦ h'.before)
    (fun r report ↦ ?_) slotStep_flushHeldReport r hidle i
  · exact ⟨flushesNothing_of_within h hA, held_eq_or_empty h .toPlaystation (hA _), h.linked⟩
  · obtain ⟨hslot, new, hout, hnone⟩ := held_relayPadInput r report
    refine ⟨new, hout, .inl hnone, hslot.imp_right (Or.imp_right (And.imp_right ?_))⟩
    rintro ⟨more, hmore, hopaque⟩
    have hnew : new = .padInput report true :: more := List.append_cancel_left (hout.symm.trans hmore)
    exact ⟨report, by rw [hnew]; exact List.mem_cons_self, hopaque⟩

/-! ## What becomes of the slot when the link changes -/

/-- No step that relays anything changes the links there are. -/
theorem consoleLink_of_relaying (r : Relay) (i : Input) (hs : ∃ s, .relaying s ∈ (r.cause i).aspects) :
    (r.step i).consoleLink = r.consoleLink := by
  have hlinks : (r.step i).openLinks .toPlaystation = r.openLinks .toPlaystation := by
    rw [openLinks_step]
    revert hs
    generalize r.cause i = cause
    rintro ⟨s, hs⟩
    cases cause with
    | event t e =>
      cases e with
      | numCompletedPackets => rfl
      | _ => simp [Cause.aspects] at hs
    | acl => rfl
    | _ => rfl
  exact congrArg Prod.fst hlinks

theorem consoleLink_of_stores (i : Input) (h : r.stores i = true) :
    (r.step i).consoleLink = r.consoleLink := by
  rw [stores, Bool.and_eq_true, List.any_eq_true] at h
  obtain ⟨-, o, ho, hkept⟩ := h
  obtain ⟨new, hout, hnew⟩ := (step_move r i).within.out
  rw [added_eq hout] at ho
  cases o with
  | padInput => exact consoleLink_of_relaying r i ((hnew _ ho).within rfl rfl)
  | _ => cases hkept

@[simp] theorem held_currentGone (r : Relay) : (r.currentGone .toPlaystation).held = .empty := by
  simp [held, currentGone, resetChannels, writePageScanActivity, writeScanEnable, HeldFrame.clear]

/-- A link that is gone takes its report with it. -/
theorem held_of_hangUp (i : Input) {e : EvtDisconnComplete}
    (hc : r.cause i = .event .toPlaystation (.disconnectComplete e)) (he : e.handle = r.consoleLink) :
    (r.step i).held = .empty := by
  have hm := step_move r i
  rw [hc] at hm
  revert hm
  generalize r.step i = r'
  intro hm
  cases hm with
  | quiet _ h => exact absurd h (Set.insert_nonempty _ _).ne_empty
  | disconnectComplete hp =>
    rw [handleDisconnectComplete_eq r _ hp, if_neg (not_not_intro he)]
    have hkept := held_eq (within_scheduleReconnect (A := {.timing .toPlaystation})
      ((r.linkGone .toPlaystation e.handle).currentGone .toPlaystation) .toPlaystation (by rfl)
      (reconnectDelay .toPlaystation e)) .toPlaystation (by simp) (by simp)
    rw [held, hkept]
    exact held_currentGone _

/-- Only a link that comes and a link that goes change the current one. -/
theorem consoleLink_change (r : Relay) (i : Input) (h : (r.step i).consoleLink ≠ r.consoleLink) :
    (∃ e, r.cause i = .event .toPlaystation (.connectionComplete e) ∧ e.status = HCI_SUCCESS
        ∧ e.handle ≠ r.consoleLink)
      ∨ ∃ e, r.cause i = .event .toPlaystation (.disconnectComplete e) ∧ e.handle = r.consoleLink := by
  have hlinks : (r.step i).consoleLink = (r.linksAfter .toPlaystation (r.cause i)).1 :=
    congrArg Prod.fst (openLinks_step r i .toPlaystation)
  rw [hlinks] at h
  revert h
  generalize r.cause i = cause
  intro h
  cases cause with
  | event t e =>
    cases e with
    | connectionComplete e =>
      rw [linksAfter] at h
      split at h
      · rename_i hup
        obtain ⟨rfl, hs⟩ := hup
        exact .inl ⟨e, rfl, hs, h⟩
      · exact absurd rfl h
    | disconnectComplete e =>
      rw [linksAfter] at h
      split at h
      · rename_i ht
        subst ht
        by_cases he : e.handle = r.consoleLink
        · exact .inr ⟨e, rfl, he⟩
        · exact absurd (if_neg he) h
      · exact absurd rfl h
    | _ => exact absurd rfl h
  | _ => exact absurd rfl h

end Relay

/-! ## The link a report was stored under -/

/-- How often the console's current link has changed, and how often it had when the report in the slot
was stored; nothing, if there was no link. -/
structure HeldSince where
  links : ℕ := 0
  stored : Option ℕ := none

namespace HeldSince

open Relay

/-- The current link changes, or a report is stored. -/
def note (x : HeldSince) (r : Relay) (i : Input) : HeldSince where
  links := if (r.step i).consoleLink = r.consoleLink then x.links else x.links + 1
  stored := if r.stores i then (if r.consoleLink = 0 then none else some x.links) else x.stored

/-- A report in the slot was stored under the current link, or under none. -/
structure Owed (x : HeldSince) (r : Relay) : Prop where
  current : r.held.valid = true → x.stored = none ∨ x.stored = some x.links
  unlinked : r.held.valid = true → r.consoleLink = 0 → x.stored = none

/-- What the step sends from the slot was stored under the current link, or under none. -/
def SendsOwn (q : Relay × HeldSince) (i : Input) : Prop :=
  ∀ report now, .relayed report true now ∈ q.1.added i → q.2.stored = none ∨ q.2.stored = some q.2.links

variable {x : HeldSince} {r : Relay} {i : Input}

theorem sendsOwn (hidle : r.PadSideIdle) (h : x.Owed r) : SendsOwn (r, x) i := by
  intro report now hmem
  rcases (slot_step r hidle i).flush with hnone | hvalid
  · exact absurd (hnone _ hmem) (by simp [Output.isFlush])
  · exact h.current hvalid

/-- **A report stays with its link.** -/
theorem Owed.step (hidle : r.PadSideIdle) (h : x.Owed r) (hi : ¬ r.LeavesHeld i) :
    (x.note r i).Owed (r.step i) := by
  by_cases hstores : r.stores i = true
  · have hlink := consoleLink_of_stores i hstores
    refine ⟨fun _ ↦ ?_, fun _ hzero ↦ ?_⟩
    · simp only [note, hstores, hlink, if_true]
      by_cases hzero : r.consoleLink = 0
      · exact .inl (if_pos hzero)
      · exact .inr (if_neg hzero)
    · simp only [note, hstores, if_true]
      exact if_pos (hlink.symm.trans hzero)
  -- otherwise what is in the slot was there before
  have hold : (r.step i).held.valid = true → (r.step i).held = r.held := by
    intro hvalid
    rcases (slot_step r hidle i).slot with hsame | hempty | ⟨-, report, hmem, hopaque⟩
    · exact hsame
    · rw [hempty] at hvalid
      cases hvalid
    · refine absurd ?_ hstores
      rw [stores, hvalid, Bool.true_and]
      exact List.any_eq_true.mpr ⟨_, hmem, by simp [Output.isKept, hopaque]⟩
  have hstored : (x.note r i).stored = x.stored := if_neg hstores
  have hgone : (r.step i).held.valid = true → (r.step i).consoleLink ≠ r.consoleLink → x.stored = none := by
    intro hvalid hne
    have hwaits : r.held.valid = true := hold hvalid ▸ hvalid
    rcases consoleLink_change r i hne with ⟨e, hc, hs, he⟩ | ⟨e, hc, he⟩
    · by_cases hzero : r.consoleLink = 0
      · exact h.unlinked hwaits hzero
      · exact absurd ⟨hzero, hwaits, (.toPlaystation, e), by rw [hc]; rfl, rfl, hs, he⟩ hi
    · rw [held_of_hangUp i hc he] at hvalid
      cases hvalid
  constructor
  · intro hvalid
    rw [hstored]
    by_cases hsame : (r.step i).consoleLink = r.consoleLink
    · rw [show (x.note r i).links = x.links from if_pos hsame]
      exact h.current (hold hvalid ▸ hvalid)
    · exact .inl (hgone hvalid hsame)
  · intro hvalid hzero
    rw [hstored]
    by_cases hsame : (r.step i).consoleLink = r.consoleLink
    · exact h.unlinked (hold hvalid ▸ hvalid) (hsame ▸ hzero)
    · exact hgone hvalid hsame

end HeldSince

/-- **When a report held back goes with its link.**  In a run in which the console never leaves its link
for another while a report waits for it, no report that was stored under one link is sent from the slot
under another. -/
theorem held_reports_stay (cfg : Config) (is : List Input)
    (h : Along Relay.step (fun r i ↦ ¬ r.LeavesHeld i) (.init cfg) is) :
    Along (withHistory Relay.step HeldSince.note) HeldSince.SendsOwn (.init cfg, {}) is := by
  rw [← along_withHistory Relay.step HeldSince.note (p := (.init cfg, {}))] at h
  have hinit : HeldSince.Owed {} (.init cfg) := by
    have hempty : (Relay.init cfg).held.valid = false := rfl
    constructor <;> intro hvalid <;> simp [hempty] at hvalid
  let Inv (q : Relay × HeldSince) := q.1.PadSideIdle ∧ q.2.Owed q.1
  have hstart : Inv (.init cfg, {}) := ⟨rfl, hinit⟩
  refine h.of_invariant hstart fun q i hq hi ↦ ?_
  exact ⟨⟨Relay.padSideIdle_step q.1 hq.1 i, hq.2.step hq.1 hi⟩, HeldSince.sendsOwn hq.1 hq.2⟩

/-- A report that waits when the console's link goes is not sent on its next one. -/
theorem held_reports_stay_hangUp :
    let is := Input.bothLinked
      ++ [.bufferSize 8, .openChannel .toPlaystation 2 Channel.hidInterrupt.psm 0x40, .stateReport,
        .hangUp .toPlaystation 2 0x08]
      ++ Input.incomingCall .toPlaystation ⟨7, 7, 7, 7, 7, 7⟩ 3
      ++ [.openChannel .toPlaystation 3 Channel.hidInterrupt.psm 0x41, .framesOut 3 2]
    Along (withHistory Relay.step HeldSince.note) HeldSince.SendsOwn (.init .session, {}) is :=
  held_reports_stay .session _ (by decide +kernel)

/-- A report waits for the console's link 2 when the console calls again, on link 3. -/
def Input.reportLeftBehind : List Input :=
  Input.bothLinked
    ++ [.bufferSize 8, .openChannel .toPlaystation 2 Channel.hidInterrupt.psm 0x40, .stateReport]
    ++ Input.incomingCall .toPlaystation ⟨7, 7, 7, 7, 7, 7⟩ 3
    ++ [.openChannel .toPlaystation 3 Channel.hidInterrupt.psm 0x41, .framesOut 2 2]

/-- Link 3 is sent the report that waited for link 2. -/
theorem report_left_behind :
    ¬ ∀ cfg is, Along (withHistory Relay.step HeldSince.note) HeldSince.SendsOwn (.init cfg, {}) is := by
  intro h
  let freed := Input.framesOut 3 2
  have hlast := along_iff_prefixes.mp (h .session (Input.reportLeftBehind ++ [freed]))
    Input.reportLeftBehind freed List.prefix_rfl
    ([HIDP_DATA_INPUT, REPORT_BT, 0x01] ++ List.replicate 76 0) 1 (by decide +kernel)
  exact absurd hlast (by decide +kernel)

end DualSenseMitm
