import DualSenseMitm.Runs.Ends
import DualSenseMitm.Runs.HeldReports

/-!
# A report that waits, and a buffer that is free

The console-facing handler keeps a report back while its adapter holds as many packets as the budget
allows, and sends it when packets are completed.  Two other events free buffers and send nothing: the
Disconnection Complete of a link that is not the current one, and an answer to Read Buffer Size that
raises the budget.  A report waits only for buffers that are out exactly as long as none of these comes
(`Relay.FreesUnused`).
-/

set_option autoImplicit false

namespace DualSenseMitm

open Bytes Machine AclFlowControl

namespace Relay

/-- The accounting of the console's adapter. -/
abbrev consoleAcl (r : Relay) : AclFlowControl := (r.h .toPlaystation).acl

/-- The console's interrupt channel. -/
abbrev consoleInput (r : Relay) : UInt16 := r.dcid .toPlaystation .hidInterrupt

/-- A report that waits for an open channel waits for buffers that are out. -/
def Served (r : Relay) : Prop :=
  r.held.valid = true → r.consoleInput ≠ 0 → r.consoleAcl.budget ≤ r.consoleAcl.total

/-- Behind an event that frees buffers and sends nothing: how many packets are out, and how many may
be. -/
def freed? (r : Relay) : Cause → Option (Int × Int)
  | .event .toPlaystation (.disconnectComplete e) =>
    if e.handle = r.consoleLink then none
    else some (r.consoleAcl.total - r.consoleAcl.inFlightOf e.handle, r.consoleAcl.budget)
  | .event .toPlaystation (.bufferSize n) => some (r.consoleAcl.total, (r.consoleAcl.setMaxPackets n).budget)
  | _ => none

/-- Behind an event that sends nothing the adapter has a buffer free for a report. -/
def Frees (r : Relay) (i : Input) : Prop := ∃ k ∈ r.freed? (r.cause i), k.1 < k.2

/-- The channel opens while a buffer is free. -/
def OpensFree (r : Relay) (i : Input) : Prop :=
  r.consoleAcl.total < r.consoleAcl.budget
    ∧ ∃ cmd ∈ r.commandOf (r.cause i), r.endAfter .toPlaystation .hidInterrupt cmd ≠ 0

/-- A report that waits is not sent although a buffer is free: another link is gone or the adapter tells
a larger pool, or the channel opens with buffers free already. -/
def FreesUnused (r : Relay) (i : Input) : Prop :=
  r.held.valid = true ∧ (r.consoleInput ≠ 0 ∧ r.Frees i ∨ r.consoleInput = 0 ∧ r.OpensFree i)

instance (r : Relay) (i : Input) : Decidable (r.Frees i) :=
  inferInstanceAs (Decidable (∃ k ∈ r.freed? (r.cause i), k.1 < k.2))

instance (r : Relay) (i : Input) : Decidable (r.OpensFree i) :=
  inferInstanceAs (Decidable (_ ∧ ∃ cmd ∈ r.commandOf (r.cause i), _))

instance (r : Relay) (i : Input) : Decidable (r.FreesUnused i) := inferInstanceAs (Decidable (_ ∧ (_ ∨ _)))

/-! ## What counts no buffer as free -/

/-- Packets are sent, and nothing else happens to the accounting. -/
structure Spends (a a' : AclFlowControl) : Prop where
  maxPackets : a'.maxPackets = a.maxPackets
  depth : a'.depth = a.depth
  total : a.total ≤ a'.total

theorem Spends.refl (a : AclFlowControl) : Spends a a := ⟨rfl, rfl, le_rfl⟩

theorem Spends.trans {a a' a'' : AclFlowControl} (h : Spends a a') (h' : Spends a' a'') : Spends a a'' :=
  ⟨h'.maxPackets.trans h.maxPackets, h'.depth.trans h.depth, h.total.trans h'.total⟩

theorem Spends.budget {a a' : AclFlowControl} (h : Spends a a') : a'.budget = a.budget := by
  rw [AclFlowControl.budget, AclFlowControl.budget, h.maxPackets, h.depth]

theorem spends_onSent (handle : UInt16) (a : AclFlowControl) : Spends a (a.onSent handle) :=
  ⟨rfl, rfl, Int.le_add_one le_rfl⟩

variable {r r' : Relay} {A : Set Aspect}

theorem spends_perform {op : Op} (hop : op.Within A r) (hc : .credits .toPlaystation ∉ A)
    (hr : .relaying .toPlaystation ∉ A) (hl : .links ∉ A) : Spends r.consoleAcl (r.perform op).consoleAcl := by
  cases op with
  | acl s f =>
    cases s with
    | toDualsense =>
      have hsame : (r.perform (.acl .toDualsense f)).consoleAcl = r.consoleAcl := by
        simp [consoleAcl, Relay.perform]
      rw [hsame]
      exact .refl _
    | toPlaystation =>
      rcases hop with ⟨hs, -⟩ | ⟨-, hA | hA | hA⟩
      · cases hs
      · exact absurd hA hc
      · exact absurd hA hr
      · exact absurd hA hl
  | frame s cid pre data =>
    cases s with
    | toDualsense =>
      have hsame : (r.perform (.frame .toDualsense cid pre data)).consoleAcl = r.consoleAcl := by
        simp [consoleAcl, Relay.perform]
      rw [hsame]
      exact .refl _
    | toPlaystation =>
      have hsame : (r.perform (.frame .toPlaystation cid pre data)).consoleAcl
          = r.aclAfterFrame .toPlaystation (pre ++ data) := by
        simp [consoleAcl, Relay.perform]
      rw [hsame, aclAfterFrame]
      split
      · exact .refl _
      · split
        · exact spends_onSent _ _
        · exact .refl _
  | _ =>
    have hsame : ∀ a : AclFlowControl, a = r.consoleAcl → Spends r.consoleAcl a := fun a ha ↦ ha ▸ .refl _
    exact hsame _ (by simp [consoleAcl, Relay.perform])

theorem spends_of_within (h : Performs (Op.Within A) r r') (hc : .credits .toPlaystation ∉ A)
    (hr : .relaying .toPlaystation ∉ A) (hl : .links ∉ A) : Spends r.consoleAcl r'.consoleAcl :=
  h.invariant (fun a ↦ Spends r.consoleAcl a.consoleAcl) (.refl _) fun _ _ ha hop ↦
    ha.trans (spends_perform hop hc hr hl)

/-- Sending packets takes nothing from a report that waits. -/
theorem Served.of_spends (h : r.Served) (hs : Spends r.consoleAcl r'.consoleAcl)
    (hheld : r'.held = r.held ∨ r'.held = .empty)
    (hopen : r.held.valid = true → r'.consoleInput ≠ 0 →
      r.consoleInput ≠ 0 ∨ r.consoleAcl.budget ≤ r.consoleAcl.total) : r'.Served := by
  intro hvalid hne
  rcases hheld with hheld | hheld
  · have hold : r.held.valid = true := hheld ▸ hvalid
    have hfull : r.consoleAcl.budget ≤ r.consoleAcl.total := (hopen hold hne).elim (h hold) id
    exact (hs.budget.trans_le hfull).trans hs.total
  · rw [hheld] at hvalid
    cases hvalid

theorem Served.of_empty (h : r.held = .empty) : r.Served := by
  intro hvalid
  rw [h] at hvalid
  cases hvalid

theorem Served.of_within (h : r.Served) (hw : Performs (Op.Within A) r r')
    (hc : .credits .toPlaystation ∉ A) (hr : .relaying .toPlaystation ∉ A) (hl : .links ∉ A)
    (hb : .binding .toPlaystation ∉ A) : r'.Served := by
  refine h.of_spends (spends_of_within hw hc hr hl) (.inl (held_eq hw .toPlaystation hr hl)) fun _ hne ↦ .inl ?_
  rwa [consoleInput, dcid_eq hw .toPlaystation hl hb] at hne

/-! ## A report arrives, a buffer returns -/

/-- A report is kept back only while as many packets are out as the budget allows. -/
theorem full_of_no_room (h : r.room .toPlaystation = false) :
    (r.afterRoom .toPlaystation).consoleAcl = r.consoleAcl ∧ r.consoleAcl.budget ≤ r.consoleAcl.total := by
  have hacl : (r.afterRoom .toPlaystation).consoleAcl
      = (r.consoleAcl.hasRoom r.now (r.env.clock (r.tick + 1))).2 := by
    simp [consoleAcl, afterRoom]
  rw [hacl]
  rw [room] at h
  revert h
  unfold hasRoom
  split
  · intro h
    cases h
  · split
    · intro h
      cases h
    · intro h
      exact ⟨rfl, Int.not_lt.mp (of_decide_eq_false h)⟩

theorem served_relayPadInputToConsole (h : r.Served) (report : List UInt8) :
    (r.relayPadInputToConsole .toDualsense report).Served := by
  unfold relayPadInputToConsole
  extract_lets r₁
  have hq₁ : Performs Op.Quiet r r₁ := quiet_onChannels r _ fun _ ↦ ⟨rfl, rfl⟩
  have h₁ : r₁.Served := h.of_within (A := ∅) hq₁.within (by simp) (by simp) (by simp) (by simp)
  split
  · split
    · exact h₁.of_within (A := ∅) (quiet_onStreams r₁ _ fun _ ↦ by rfl).within (by simp) (by simp) (by simp) (by simp)
    · split
      · refine .of_empty ?_
        rw [show ConnectionSide.toDualsense.other = .toPlaystation from rfl, held_sendReportToConsole,
          held_noteInputSent]
        simp [held, HeldFrame.clear]
      · rename_i hroom
        obtain ⟨hacl, hfull⟩ := full_of_no_room (Bool.eq_false_iff.mpr hroom)
        intro _ _
        have hsame : ∀ f g, (((r₁.afterRoom .toPlaystation).onStreams .toPlaystation f).onHeld
            .toPlaystation g).consoleAcl = r₁.consoleAcl := by
          intro f g
          rw [← hacl]
          simp [consoleAcl]
        rw [show ConnectionSide.toDualsense.other = .toPlaystation from rfl, hsame]
        exact hfull
  · exact h

theorem served_relayPadInput (h : r.Served) (report : List UInt8) :
    (r.relayPadInput .toDualsense report).Served := by
  unfold relayPadInput
  extract_lets r₁
  have h₁ : r₁.Served := h
  have hq : Performs Op.Quiet r₁ ((r₁.publishInput .toDualsense report).relayPadInputToUsb .toDualsense report) :=
    (quiet_publishInput r₁ _ report).trans (quiet_relayPadInputToUsb _ _ report)
  exact served_relayPadInputToConsole
    (h₁.of_within (A := ∅) hq.within (by simp) (by simp) (by simp) (by simp)) report

/-- Behind a flush nothing waits for a buffer that is free. -/
theorem served_flushHeldReport (hlinked : r.held.valid = true → r.linked = true) :
    (r.flushHeldReport .toPlaystation).Served := by
  unfold flushHeldReport
  extract_lets r₁
  split
  · rename_i hvalid
    split
    · split
      · exact .of_empty (by simp [held, HeldFrame.clear])
      · split
        · refine .of_empty ?_
          rw [held_sendReportToConsole, held_of_quiet (quiet_onStreams _ _ fun _ ↦ by rfl), held_noteInputSent]
          simp [held, HeldFrame.clear]
        · rename_i hnot
          exact absurd (hlinked hvalid) hnot
    · rename_i hroom
      obtain ⟨hacl, hfull⟩ := full_of_no_room (Bool.eq_false_iff.mpr hroom)
      intro _ _
      rw [show r₁.consoleAcl = r.consoleAcl from hacl]
      exact hfull
  · rename_i hvalid
    exact fun h ↦ absurd h hvalid

theorem served_numCompleted (h : r.Served) (hlinked : r.held.valid = true → r.linked = true) (plen : UInt8)
    (p : PacketContents) : (r.handleNumCompletedPackets .toPlaystation plen p).Served := by
  unfold handleNumCompletedPackets
  split
  · exact h
  · split
    · exact h
    · rename_i body _ _
      refine served_flushHeldReport fun hvalid ↦ ?_
      have hheld : ((r.onAcl .toPlaystation fun a ↦
          a.onNumCompleted (fun k ↦ r.env.clock (r.tick + k)) body).advance (byteAt body 0).toNat).held
            = r.held := by simp [held]
      rw [hheld] at hvalid
      exact hlinked hvalid

/-! ## Links come and go -/

/-- A new link counts no buffer as free. -/
theorem acl_connected (r : Relay) (s : ConnectionSide) (e : EvtConnComplete) :
    (r.connected s e).consoleAcl = r.consoleAcl := by
  unfold connected
  extract_lets r₂ r₃ r₄ r₅ r₆
  have h₂ : r₂.consoleAcl = r.consoleAcl := by
    simp only [r₂, leaveOldLink]
    split
    · simp [consoleAcl, resetChannels]
    · rfl
  have h₅ : r₅.consoleAcl = r₂.consoleAcl := by
    simp only [r₅, r₄, r₃, endHandoverPaging]
    split
    · simp [consoleAcl]
    · simp [consoleAcl, writePageTimeout]
  have h₆ : r₆.consoleAcl = r₅.consoleAcl := by
    simp only [r₆]
    split
    · simp [consoleAcl, writePageScanActivity]
    · rfl
  rw [← h₂, ← h₅, ← h₆]
  simp [consoleAcl]

theorem spends_handleConnectionComplete (r : Relay) (s : ConnectionSide) {p : PacketContents}
    {e : EvtConnComplete × PacketContents} (hp : EvtConnComplete.get? p = some e) :
    Spends r.consoleAcl (r.handleConnectionComplete s p).consoleAcl := by
  rw [handleConnectionComplete_eq r s hp]
  have h₁ : Spends r.consoleAcl (r.pageOver s e.1.status).consoleAcl :=
    spends_of_within (within_pageOver (A := {.linkNotes, .scanning s.other}) r s (by simp) (by simp) _)
      (by simp) (by simp) (by simp)
  have h₂ : Spends r.consoleAcl ((r.pageOver s e.1.status).connected s e.1).consoleAcl := by
    rw [acl_connected]
    exact h₁
  split
  · exact h₁.trans (spends_of_within (within_handleConnectionFailure (A := {.timing s}) _ s (by rfl) _)
      (by simp) (by simp) (by simp))
  · split
    · exact h₂
    · exact h₂.trans (spends_of_within (within_requestAuthentication (A := {.authenticating s}) _ s (by rfl) _)
        (by simp) (by simp) (by simp))

theorem total_onDisconnect (handle : UInt16) (a : AclFlowControl) :
    (a.onDisconnect handle).total = a.total - a.inFlightOf handle
      ∧ (a.onDisconnect handle).budget = a.budget := by
  rw [onDisconnect, inFlightOf]
  cases a.inFlight.lookup handle with
  | none => exact ⟨(Int.sub_zero _).symm, rfl⟩
  | some was => exact ⟨rfl, rfl⟩

theorem acl_linkGone (r : Relay) (s : ConnectionSide) (handle : UInt16) :
    (r.linkGone s handle).consoleAcl
      = if s = .toPlaystation then r.consoleAcl.onDisconnect handle else r.consoleAcl := by
  cases s <;> simp [consoleAcl, linkGone]

theorem acl_currentGone (r : Relay) (s : ConnectionSide) : (r.currentGone s).consoleAcl = r.consoleAcl := by
  cases s <;> simp [consoleAcl, currentGone, resetChannels, writePageScanActivity, writeScanEnable]

/-- What changes neither the accounting nor what waits, and opens no channel. -/
theorem Served.of_unopened (h : r.Served) (hs : Spends r.consoleAcl r'.consoleAcl)
    (hw : Performs (Op.Within A) r r') (hr : .relaying .toPlaystation ∉ A) (hb : .binding .toPlaystation ∉ A) :
    r'.Served := by
  refine h.of_spends hs (held_eq_or_empty hw .toPlaystation hr) fun _ hne ↦ .inl fun hzero ↦ hne ?_
  exact (dcid_or_zero .toPlaystation .hidInterrupt hw hb).elim (Eq.trans · hzero) id

theorem served_handleDisconnectComplete (h : r.Served) {s : ConnectionSide} {p : PacketContents}
    {e : EvtDisconnComplete × PacketContents} (hp : EvtDisconnComplete.get? p = some e)
    (hfull : s = .toPlaystation → e.1.handle ≠ r.consoleLink → r.held.valid = true → r.consoleInput ≠ 0 →
      r.consoleAcl.budget ≤ r.consoleAcl.total - r.consoleAcl.inFlightOf e.1.handle) :
    (r.handleDisconnectComplete s p).Served := by
  have hw := within_handleDisconnectComplete (A := {.links, .timing s, .scanning s, .pacing s}) r s (by simp)
    (by simp) (by simp) (by simp) p
  have hlast := fun a : Relay ↦ spends_of_within
    (within_scheduleReconnect (A := {.timing s}) a s (by rfl) (reconnectDelay s e.1)) (by simp) (by simp) (by simp)
  cases s with
  | toDualsense =>
    refine h.of_unopened ?_ hw (by simp) (by simp)
    rw [handleDisconnectComplete_eq r _ hp]
    have hgone : (r.linkGone .toDualsense e.1.handle).consoleAcl = r.consoleAcl := acl_linkGone r _ _
    split
    · rw [hgone]
      exact .refl _
    · have hall := hlast ((r.linkGone .toDualsense e.1.handle).currentGone .toDualsense)
      rw [acl_currentGone, hgone] at hall
      exact hall
  | toPlaystation =>
    rw [handleDisconnectComplete_eq r _ hp]
    by_cases hcur : e.1.handle = r.consoleLink
    · rw [if_neg (not_not_intro hcur)]
      refine .of_empty ?_
      rw [held, held_eq (within_scheduleReconnect (A := {.timing .toPlaystation}) _ .toPlaystation (by rfl) _)
        .toPlaystation (by simp) (by simp)]
      exact held_currentGone _
    · rw [if_pos hcur]
      intro hvalid hne
      have hheld : (r.linkGone .toPlaystation e.1.handle).held = r.held := by simp [held, linkGone]
      have hdcid : (r.linkGone .toPlaystation e.1.handle).consoleInput = r.consoleInput := by
        simp [consoleInput, dcid, linkGone]
      rw [hheld] at hvalid
      rw [hdcid] at hne
      obtain ⟨htotal, hbudget⟩ := total_onDisconnect e.1.handle r.consoleAcl
      rw [acl_linkGone, if_pos rfl, htotal, hbudget]
      exact hfull rfl hcur hvalid hne

/-- The answer to Read Buffer Size leaves what waits alone. -/
theorem served_bufferSize {p : PacketContents} {n : UInt16} (hp : bufferCount? p = some n)
    (hfull : r.held.valid = true → r.consoleInput ≠ 0 →
      (r.consoleAcl.setMaxPackets n).budget ≤ r.consoleAcl.total) :
    (r.handleCmdComplete .toPlaystation p).Served := by
  rcases handleCmdComplete_cases r .toPlaystation p with ⟨n', r₁, hn, hq, heq⟩ | ⟨hn, -⟩
  · obtain rfl : n' = n := Option.some.inj (hn.symm.trans hp)
    have hs : Spends r.consoleAcl r₁.consoleAcl :=
      spends_of_within (A := ∅) hq.within (by simp) (by simp) (by simp)
    have hheld : (r₁.onAcl .toPlaystation fun a ↦ a.setMaxPackets n').held = r.held := by
      rw [← held_of_quiet hq]
      simp [held]
    have hdcid : (r₁.onAcl .toPlaystation fun a ↦ a.setMaxPackets n').consoleInput = r.consoleInput := by
      rw [consoleInput, consoleInput, ← dcid_eq (A := ∅) hq.within .toPlaystation (by simp) (by simp)]
      simp [dcid]
    have hacl : (r₁.onAcl .toPlaystation fun a ↦ a.setMaxPackets n').consoleAcl
        = r₁.consoleAcl.setMaxPackets n' := by simp [consoleAcl]
    have hbudget : (r₁.consoleAcl.setMaxPackets n').budget = (r.consoleAcl.setMaxPackets n').budget := by
      simp only [budget, setMaxPackets]
      rw [hs.depth]
      rfl
    rw [heq]
    intro hvalid hne
    rw [hheld] at hvalid
    rw [hdcid] at hne
    rw [hacl, hbudget]
    exact (hfull hvalid hne).trans hs.total
  · rw [hn] at hp
    cases hp

/-- The pad's packets. -/
theorem served_acl (h : r.Served) (p : PacketContents) : (r.handleAcl .toDualsense p).Served := by
  have hpart := acl_part r .toDualsense p
  revert hpart
  generalize r.handleAcl .toDualsense p = r'
  generalize r.contentsOf .toDualsense p = contents
  intro hpart
  cases hpart with
  | nothing h' => exact h.of_within h' (by simp) (by simp) (by simp) (by simp)
  | @command re pdu q _ h' =>
    obtain ⟨re', rfl⟩ := h'
    have hbefore := within_arriving (A := {.linkNotes, .routing, .signalling .toDualsense, .binding .toDualsense})
      r .toDualsense (by simp) (by simp) p re pdu
    have hcommand := hbefore.trans (within_handleL2capCmd _ .toDualsense (by simp) (by simp) q)
    exact h.of_within (hcommand.trans (within_setReasm _ .toDualsense (by simp) _ _)) (by simp) (by simp)
      (by simp) (by simp)
  | @payload re pdu cid data _ h' =>
    obtain ⟨re', rfl⟩ := h'
    have hbefore : (r.arriving .toDualsense p re pdu).Served :=
      h.of_within (within_arriving (A := {.linkNotes, .routing}) r .toDualsense (by simp) (by simp) p re pdu)
        (by simp) (by simp) (by simp) (by simp)
    refine Served.of_within (A := {.linkNotes}) ?_ (within_setReasm _ _ (by simp) _ re') (by simp) (by simp)
      (by simp) (by simp)
    by_cases hinput : cid = Channel.hidInterrupt.scid
    · rw [hinput]
      exact served_relayPadInput hbefore data
    · exact hbefore.of_within (A := {.reports, .forwarding, .console .toDualsense, .pacing .toDualsense})
        (within_routePayload_of_ne _ _ (by simp) (by simp) (by simp) (by simp) (fun hc ↦ hinput hc.2) data)
        (by simp) (by simp) (by simp) (by simp)

/-! ## Any step -/

/-- The interrupt channel does not open with a buffer free while a report waits. -/
theorem open_before {i : Input} (hi : ¬ r.FreesUnused i) (hvalid : r.held.valid = true)
    (hne : (r.step i).consoleInput ≠ 0) :
    r.consoleInput ≠ 0 ∨ r.consoleAcl.budget ≤ r.consoleAcl.total := by
  by_cases hopen : r.consoleInput = 0
  · right
    by_contra hfull
    cases hcmd : r.commandOf (r.cause i) with
    | none =>
      exact hne ((dcid_of_no_command .toPlaystation .hidInterrupt hcmd).elim (Eq.trans · hopen) id)
    | some cmd =>
      refine hi ⟨hvalid, .inr ⟨hopen, Int.not_le.mp hfull, cmd, hcmd, ?_⟩⟩
      rwa [← dcid_of_command .toPlaystation .hidInterrupt hcmd]
  · exact .inl hopen

/-- **One step leaves no report waiting for a buffer that is free.** -/
theorem Served.step {i : Input} (h : r.Served) (hlinked : r.held.valid = true → r.linked = true)
    (hi : ¬ r.FreesUnused i) : (r.step i).Served := by
  have hm := step_move r i
  have hw := hm.within
  have hopen := fun hvalid ↦ open_before hi hvalid
  have hfrees : r.held.valid = true → r.consoleInput ≠ 0 → ∀ k, r.freed? (r.cause i) = some k → k.2 ≤ k.1 :=
    fun hvalid hne k hk ↦ Int.not_lt.mp fun hlt ↦ hi ⟨hvalid, .inl ⟨hne, k, hk, hlt⟩⟩
  clear hi
  revert hm hw hopen hfrees
  generalize r.cause i = cause
  generalize r.step i = r'
  intro hm hw hopen hfrees
  -- what counts no buffer as free, and keeps no report back
  have haside : .credits .toPlaystation ∉ cause.aspects → .relaying .toPlaystation ∉ cause.aspects →
      .links ∉ cause.aspects → r'.Served := fun hc hr hl ↦
    h.of_spends (spends_of_within hw hc hr hl) (.inl (held_eq hw .toPlaystation hr hl)) hopen
  cases hm with
  | @acl s p =>
    cases s with
    | toPlaystation => refine haside ?_ ?_ ?_ <;> simp [Cause.aspects, aclAspects]
    | toDualsense => exact served_acl h p
  | @numCompletedPackets s plen p =>
    cases s with
    | toPlaystation => exact served_numCompleted h hlinked plen p
    | toDualsense => exact haside (by simp [Cause.aspects]) (by simp [Cause.aspects]) (by simp [Cause.aspects])
  | @bufferSize s p n hp =>
    cases s with
    | toDualsense => exact haside (by simp [Cause.aspects]) (by simp [Cause.aspects]) (by simp [Cause.aspects])
    | toPlaystation => exact served_bufferSize hp fun hvalid hne ↦ hfrees hvalid hne _ rfl
  | connectionComplete hp =>
    exact h.of_unopened (spends_handleConnectionComplete r _ hp) hw (by simp [Cause.aspects])
      (by simp [Cause.aspects])
  | @disconnectComplete s p e q hp =>
    refine served_handleDisconnectComplete h hp fun hs hother hvalid hne ↦ ?_
    subst hs
    exact hfrees hvalid hne _ (if_neg hother)
  | quiet _ hc => exact haside (by simp [hc]) (by simp [hc]) (by simp [hc])
  | _ => exact haside (by simp [Cause.aspects]) (by simp [Cause.aspects]) (by simp [Cause.aspects])

/-- Only a report of the pad is kept back, and only with the handlers linked. -/
theorem linked_of_held (hidle : r.PadSideIdle) (h : r.held.valid = true → r.linked = true) (i : Input)
    (hvalid : (r.step i).held.valid = true) : (r.step i).linked = true := by
  rw [(step_move r i).within.linked]
  rcases (slot_step r hidle i).slot with hsame | hempty | ⟨hlinked, -⟩
  · exact h (hsame ▸ hvalid)
  · rw [hempty] at hvalid
    cases hvalid
  · exact hlinked

end Relay

/-- **When no buffer is free while a report waits.**  In a run in which no buffers come free behind a
report that waits but with completed packets, a report that waits for the console's open channel always
waits for buffers that are out. -/
theorem no_free_buffer (cfg : Config) (is : List Input)
    (h : Along Relay.step (fun r i ↦ ¬ r.FreesUnused i) (.init cfg) is) :
    Along Relay.step (fun r i ↦ (r.step i).Served) (.init cfg) is := by
  let Inv (r : Relay) := r.PadSideIdle ∧ (r.held.valid = true → r.linked = true) ∧ r.Served
  have hempty : (Relay.init cfg).held = .empty := rfl
  have hstart : Inv (.init cfg) := by
    refine ⟨rfl, fun hvalid ↦ ?_, .of_empty hempty⟩
    rw [hempty] at hvalid
    cases hvalid
  refine h.of_invariant hstart fun r i ⟨hidle, hlinked, hserved⟩ hi ↦ ?_
  have hnext := hserved.step hlinked hi
  exact ⟨⟨Relay.padSideIdle_step r hidle i, Relay.linked_of_held hidle hlinked i, hnext⟩, hnext⟩

/-- The console plays on link 3 with its first link still up, and a report waits. -/
def Input.waitingBehindTwoLinks : List Input :=
  Input.bothLinked ++ [.bufferSize 8, .openChannel .toPlaystation 2 Channel.hidInterrupt.psm 0x40]
    ++ Input.incomingCall .toPlaystation ⟨7, 7, 7, 7, 7, 7⟩ 3
    ++ [.openChannel .toPlaystation 3 Channel.hidInterrupt.psm 0x41, .framesOut 3 1, .stateReport]

/-- A report waits, and is sent with the next completed packet. -/
theorem no_free_buffer_completed :
    let is := Input.waitingBehindTwoLinks ++ [.framesOut 2 2]
    Along Relay.step (fun r i ↦ (r.step i).Served) (.init .session) is :=
  no_free_buffer .session _ (by decide +kernel)

/-- The first link goes, and takes two packets with it; the report still waits. -/
theorem report_waits_for_nothing :
    ¬ ∀ cfg is, Along Relay.step (fun r i ↦ (r.step i).Served) (.init cfg) is := by
  intro h
  let gone := Input.hangUp .toPlaystation 2 0x08
  have hlast := along_iff_prefixes.mp (h .session (Input.waitingBehindTwoLinks ++ [gone]))
    Input.waitingBehindTwoLinks gone List.prefix_rfl
  exact absurd (hlast (by decide +kernel) (by decide +kernel)) (by decide +kernel)

end DualSenseMitm
