import DualSenseMitm.Sending

/-!
# What most functions do not reach

Most of the relay is bookkeeping: links, keys, paging, signalling, the stages of ep0.  A reading of the state
that the elementary operations of the bookkeeping leave alone is `Blind`, and every function that is made of
these operations leaves a blind reading as it was, whatever it reads.  What is counted and shown is such a
reading, and what is sent on the data channels is another.
-/

set_option autoImplicit false

namespace DualSenseMitm

open Bytes

/-! ## What is read -/

/-- The counters of a handler that `relay_status` prints. -/
structure Counts where
  inputCount : UInt64
  backpressure : UInt64
  flushed : UInt64
  opaqueDropped : UInt64
  outputCount : UInt64
  outputDropped : UInt64
deriving DecidableEq

def Streams.counts (st : Streams) : Counts :=
  ⟨st.consoleInputCount, st.consoleInputBackpressure, st.consoleInputFlushed, st.consoleInputOpaqueDropped,
    st.consoleOutputCount, st.consoleOutputDropped⟩

/-- What a viewer or the host gets, and the marks of the pad's input. -/
def Output.isShown : Output → Bool
  | .padInput .. | .relayed .. | .published .. | .publishedLink .. | .usbInput .. | .gadgetDetached => true
  | _ => false

/-- A coroutine that attaches the gadget, or detaches it. -/
def Task.isGadget : Task → Bool
  | .startUsbGadget _ | .enableUsbGadget _ | .handover _ => true
  | _ => false

/-- The reset, which is written past the queue. -/
def Command.isReset (c : Command) : Bool := c.ogf == OGF_HOST_CTL && c.ocf == OCF_RESET

/-- A command that was given to the queue. -/
def Output.issued? (s : ConnectionSide) : Output → Option Command
  | .cmdIssued t c => if t = s ∧ c.isReset = false then some c else none
  | _ => none

/-- A command that left the queue. -/
def Output.gone? (s : ConnectionSide) : Output → Option Command
  | .cmdWritten t c | .cmdDropped t c => if t = s ∧ c.isReset = false then some c else none
  | _ => none

/-- An output that is no command, no frame, and shown to nobody. -/
structure Output.Aside (o : Output) : Prop where
  issued : ∀ s, o.issued? s = none
  gone : ∀ s, o.gone? s = none
  shown : o.isShown = false
  sent : o.sent? = none

/-- A reading that the bookkeeping leaves alone. -/
structure Blind {α : Type*} (φ : Relay → α) : Prop where
  onLinks : ∀ r s f, φ (r.onLinks s f) = φ r
  onPairing : ∀ r s f, φ (r.onPairing s f) = φ r
  onPaging : ∀ r s f, φ (r.onPaging s f) = φ r
  onChannels : ∀ r s f, φ (r.onChannels s f) = φ r
  onHeld : ∀ r s f, φ (r.onHeld s f) = φ r
  onAcl : ∀ r s f, φ (r.onAcl s f) = φ r
  onRadio : ∀ r s f, φ (r.onRadio s f) = φ r
  setPhase : ∀ r s p, φ (r.setPhase s p) = φ r
  advance : ∀ r n, φ (r.advance n) = φ r
  onCmdQueue : ∀ r s f, (∀ q, (f q).queue = q.queue) → φ (r.onCmdQueue s f) = φ r
  onStreams : ∀ r s f, (∀ st, (f st).counts = st.counts ∧ (f st).usbStarted = st.usbStarted) →
    φ (r.onStreams s f) = φ r
  onUsb : ∀ r f, (∀ u, (f u).bound = u.bound ∧ (f u).endpointsEnabled = u.endpointsEnabled
    ∧ (f u).serving = u.serving ∧ (f u).inBusy = u.inBusy) → φ (r.onUsb f) = φ r
  spawn : ∀ r t, t.isGadget = false → φ (r.spawn t) = φ r
  emit : ∀ r o, o.Aside → φ (r.emit o) = φ r
  pumpCommands : ∀ r s, φ (r.pumpCommands s) = φ r
  sendCmd : ∀ r s ogf ocf param what, φ (r.sendCmd s ogf ocf param what) = φ r
  signal : ∀ r s pre data, φ (r.l2capSendFrame s L2CAP_CID_SIGNALLING pre data) = φ r

namespace Blind

open Relay

variable {α : Type*} {φ : Relay → α} (hφ : Blind φ) (r : Relay) (s : ConnectionSide)

include hφ

/-! ## Commands and signalling -/

section sending

theorem setDcid (c : Channel) (dcid : UInt16) : φ (r.setDcid s c dcid) = φ r := hφ.onChannels r s _

theorem l2capSendCmdRequest (code : UInt8) (data : List UInt8) : φ (r.l2capSendCmdRequest s code data) = φ r := by
  rw [Relay.l2capSendCmdRequest, l2capSendCmd, hφ.signal, hφ.onChannels]

theorem l2capSendCmdResponse (ident code : UInt8) (data : List UInt8) :
    φ (r.l2capSendCmdResponse s ident code data) = φ r := hφ.signal r s _ _

theorem l2capSendConnRequest (c : Channel) : φ (r.l2capSendConnRequest s c) = φ r :=
  hφ.l2capSendCmdRequest r s _ _

theorem l2capSendConfigureMtuRequest (dcid mtuSize : UInt16) :
    φ (r.l2capSendConfigureMtuRequest s dcid mtuSize) = φ r := hφ.l2capSendCmdRequest r s _ _

theorem writeScanEnable (mode : UInt8) : φ (r.writeScanEnable s mode) = φ r := hφ.sendCmd r s _ _ _ _

theorem writePageScanActivity (interval window : UInt16) : φ (r.writePageScanActivity s interval window) = φ r :=
  hφ.sendCmd r s _ _ _ _

theorem writePageTimeout (slots : UInt16) : φ (r.writePageTimeout s slots) = φ r := hφ.sendCmd r s _ _ _ _

theorem disconnect (handle : UInt16) : φ (r.disconnect s handle) = φ r := hφ.sendCmd r s _ _ _ _

theorem foldl_disconnect (handles : List UInt16) :
    φ (handles.foldl (fun r handle ↦ r.disconnect s handle) r) = φ r := by
  induction handles generalizing r with
  | nil => rfl
  | cons handle handles ih => rw [List.foldl_cons, ih, hφ.disconnect]

theorem disconnectLink : φ (r.disconnectLink s) = φ r := by
  rw [Relay.disconnectLink, hφ.foldl_disconnect]

theorem suppressCmdErrors (b : Bool) : φ (r.suppressCmdErrors s b) = φ r := hφ.onPaging r s _

theorem watchCommands : φ (r.watchCommands s) = φ r := by
  unfold Relay.watchCommands
  split
  · rw [hφ.pumpCommands, hφ.onCmdQueue _ _ _ HciCommandQueue.queue_giveUp, hφ.advance]
  · exact hφ.advance r 1

theorem commandAnswered (ncmd : UInt8) : φ (r.commandAnswered s ncmd) = φ r := by
  rw [Relay.commandAnswered, hφ.pumpCommands, hφ.onCmdQueue _ _ _ fun q ↦ HciCommandQueue.queue_answered q ncmd]

theorem readRadioQuality : φ (r.readRadioQuality s) = φ r := by
  unfold Relay.readRadioQuality
  extract_lets handle r₁ r₂ r₃ r₄
  have h₁ : φ r₁ = φ r := hφ.suppressCmdErrors r s true
  have h₄ : φ r₄ = φ r := by simp only [r₄, r₃, r₂, hφ.sendCmd, h₁]
  split
  · rfl
  · rw [hφ.suppressCmdErrors, h₄]

theorem applyConsoleSideIdentity : φ (r.applyConsoleSideIdentity s) = φ r := by
  unfold Relay.applyConsoleSideIdentity
  extract_lets r₁ r₂ r₃
  have h₁ : φ r₁ = φ r := by
    show φ (ite _ _ _) = _
    split
    · rw [readBdAddr, hφ.sendCmd, spoofBdAddr, hφ.suppressCmdErrors, hφ.sendCmd, hφ.suppressCmdErrors]
    · rfl
  have h₃ : φ r₃ = φ r := by
    simp only [r₃, r₂, writeExtendedInquiryResult, writeClassOfDevice, hφ.sendCmd, h₁]
  split
  · exact h₃
  · rw [hφ.writeScanEnable, h₃]

theorem applySideSettings : φ (r.applySideSettings s) = φ r := by
  cases s with
  | toDualsense => rw [Relay.applySideSettings, hφ.writeScanEnable, writeDefaultLinkPolicy, hφ.sendCmd]
  | toPlaystation =>
    rw [Relay.applySideSettings, hφ.applyConsoleSideIdentity, writeDefaultLinkPolicy, hφ.sendCmd]

theorem sendConnectionRequest (addr : BdAddr) : φ (r.sendConnectionRequest s addr) = φ r := by
  unfold Relay.sendConnectionRequest
  split
  · split
    · rw [hφ.sendCmd, hφ.onPaging, hφ.writeScanEnable]
    · exact hφ.sendCmd r s _ _ _ _
  · rfl

end sending

/-! ## Coming up -/

theorem setUp : φ (r.setUp s) = φ r := by
  unfold Relay.setUp
  extract_lets r₁ r₂ r₃ r₄ r₅ r₆ r₇ r₈
  have h₇ : φ r₇ = φ r := by
    simp only [r₇, r₆, r₅, r₄, r₃, r₂, r₁, readBufferSize, writeAuthEnabled, writeEventMask,
      writeSimplePairingEnabled, hφ.writePageTimeout, hφ.writePageScanActivity, hφ.sendCmd, hφ.setPhase]
  have h₈ : φ r₈ = φ r := (hφ.applySideSettings r₇ s).trans h₇
  cases s with
  | toDualsense => exact (hφ.sendConnectionRequest r₈ _ _).trans h₈
  | toPlaystation => exact h₈

theorem afterReset : φ (r.afterReset s) = φ r := by
  rw [Relay.afterReset, hφ.setUp, hφ.pumpCommands, hφ.onCmdQueue _ _ _ HciCommandQueue.queue_release]

theorem startHandler : φ (r.startHandler s) = φ r := by
  unfold Relay.startHandler
  extract_lets r₁ ok r₂
  have h₁ : φ r₁ = φ r := hφ.onCmdQueue r s _ HciCommandQueue.queue_hold
  have haside : (pumpOutput s (resetCommand, ok)).Aside := by
    have hreset : resetCommand.isReset = true := rfl
    rw [pumpOutput]
    split
    · exact ⟨fun _ ↦ rfl, fun t ↦ if_neg fun h ↦ (by rw [hreset] at h; cases h.2), rfl, rfl⟩
    · exact ⟨fun _ ↦ rfl, fun t ↦ if_neg fun h ↦ (by rw [hreset] at h; cases h.2), rfl, rfl⟩
  have h₂ : φ r₂ = φ r := by rw [hφ.emit _ _ haside, hφ.advance, h₁]
  split
  · rw [hφ.setPhase, h₂]
  · rw [hφ.afterReset, h₂]

theorem packetDuringReset (packet : List UInt8) : φ (r.packetDuringReset s packet) = φ r := by
  unfold Relay.packetDuringReset
  split
  · rw [hφ.afterReset, hφ.onCmdQueue _ _ _ fun q ↦ HciCommandQueue.queue_answered q _]
  · rfl

/-! ## Events -/

section events

theorem scheduleReconnect (delay : Time) : φ (r.scheduleReconnect s delay) = φ r := by
  unfold Relay.scheduleReconnect
  split
  · rfl
  · rw [hφ.spawn _ _ rfl, hφ.onPaging]

theorem fireReconnect : φ (r.fireReconnect s) = φ r := by
  unfold Relay.fireReconnect
  extract_lets r₁
  have h₁ : φ r₁ = φ r := hφ.onPaging r s _
  split
  · exact h₁
  · rw [hφ.sendConnectionRequest, h₁]

theorem endHandoverPaging : φ (r.endHandoverPaging s) = φ r := by
  unfold Relay.endHandoverPaging
  split
  · rfl
  · rw [hφ.writePageTimeout, hφ.onPaging]

theorem handleConnectionFailure (e : EvtConnComplete) : φ (r.handleConnectionFailure s e) = φ r := by
  unfold Relay.handleConnectionFailure
  extract_lets btAddr r₁ since r₂
  have h₁ : φ r₁ = φ r := hφ.onPaging r s _
  have h₂ : φ r₂ = φ r := by simp only [r₂, hφ.endHandoverPaging, hφ.advance, h₁]
  split
  · split
    · split
      · exact hφ.scheduleReconnect r _ _
      · rfl
    · split
      · rw [hφ.scheduleReconnect, h₁]
      · split
        · rw [hφ.scheduleReconnect, h₂]
        · split <;> rw [hφ.scheduleReconnect, hφ.advance, h₁]
  · rfl

theorem pageOver (status : UInt8) : φ (r.pageOver s status) = φ r := by
  unfold Relay.pageOver
  extract_lets failed
  split
  · exact hφ.onLinks r s _
  · split
    · rw [hφ.writeScanEnable, hφ.onPaging]
    · rfl

theorem resetChannels : φ (r.resetChannels s) = φ r := hφ.onChannels r s _

theorem leaveOldLink (handle : UInt16) : φ (r.leaveOldLink s handle) = φ r := by
  unfold Relay.leaveOldLink
  extract_lets current
  split
  · simp only [hφ.resetChannels, hφ.onLinks]
  · rfl

theorem handleConnectionComplete (p : PacketContents) : φ (r.handleConnectionComplete s p) = φ r := by
  unfold Relay.handleConnectionComplete
  split
  · rfl
  · extract_lets r₁ r₂ r₃ r₄ r₅ r₆ r₇
    have h₁ : φ r₁ = φ r := hφ.pageOver r s _
    have h₅ : φ r₅ = φ r := by
      simp only [r₅, r₄, r₃, r₂, hφ.endHandoverPaging, hφ.onPaging, hφ.onLinks, hφ.leaveOldLink, h₁]
    have h₆ : φ r₆ = φ r := by
      show φ (ite _ _ _) = _
      split
      · rw [hφ.writePageScanActivity, h₅]
      · exact h₅
    split
    · rw [hφ.handleConnectionFailure, h₁]
    · split
      · rw [hφ.onLinks, h₆]
      · rw [requestAuthentication, hφ.sendCmd, hφ.onLinks, h₆]

theorem linkGone (handle : UInt16) : φ (r.linkGone s handle) = φ r := by
  simp only [Relay.linkGone, hφ.onLinks, hφ.onAcl]

theorem currentGone : φ (r.currentGone s) = φ r := by
  cases s with
  | toDualsense =>
    simp only [Relay.currentGone, hφ.resetChannels, hφ.onLinks, hφ.onHeld, hφ.writePageScanActivity]
  | toPlaystation =>
    simp only [Relay.currentGone, hφ.resetChannels, hφ.onLinks, hφ.onHeld, hφ.writePageScanActivity,
      hφ.writeScanEnable]

theorem handleDisconnectComplete (p : PacketContents) : φ (r.handleDisconnectComplete s p) = φ r := by
  cases hp : EvtDisconnComplete.get? p with
  | none => rw [Relay.handleDisconnectComplete, hp]
  | some e =>
    rw [handleDisconnectComplete_eq r s hp]
    split
    · exact hφ.linkGone r s _
    · rw [hφ.scheduleReconnect, hφ.currentGone, hφ.linkGone]

theorem handleConnRequest (p : PacketContents) : φ (r.handleConnRequest s p) = φ r := by
  unfold Relay.handleConnRequest
  split
  · rfl
  · extract_lets expected
    split
    · rw [hφ.sendCmd, hφ.onLinks]
    · exact hφ.sendCmd r s _ _ _ _

theorem handleModeChange (p : PacketContents) : φ (r.handleModeChange s p) = φ r := by
  unfold Relay.handleModeChange
  split
  · rfl
  · split
    · exact hφ.onLinks r s _
    · rfl

theorem handleLinkKeyRequest (p : PacketContents) : φ (r.handleLinkKeyRequest s p) = φ r := by
  unfold Relay.handleLinkKeyRequest
  split
  · rfl
  · split
    · exact hφ.sendCmd r s _ _ _ _
    · exact hφ.sendCmd r s _ _ _ _

theorem handleIoCapabilityRequest (p : PacketContents) : φ (r.handleIoCapabilityRequest s p) = φ r := by
  unfold Relay.handleIoCapabilityRequest
  split
  · rfl
  · exact hφ.sendCmd r s _ _ _ _

theorem handleUserConfirmRequest (p : PacketContents) : φ (r.handleUserConfirmRequest s p) = φ r := by
  unfold Relay.handleUserConfirmRequest
  split
  · rfl
  · exact hφ.sendCmd r s _ _ _ _

theorem handleAuthComplete (p : PacketContents) : φ (r.handleAuthComplete s p) = φ r := by
  unfold Relay.handleAuthComplete
  split
  · rfl
  · extract_lets r₁ r₂
    have h₁ : φ r₁ = φ r := hφ.emit r _ ⟨fun _ ↦ rfl, fun _ ↦ rfl, rfl, rfl⟩
    have h₂ : φ r₂ = φ r := (hφ.onPairing r₁ s _).trans h₁
    split
    · split
      · split
        · split
          · rw [hφ.emit r₂ _ ⟨fun _ ↦ rfl, fun _ ↦ rfl, rfl, rfl⟩, h₂]
          · exact h₂
        · exact h₁
      · rfl
    · split
      · rw [requestEncryption, hφ.sendCmd]
      · exact hφ.l2capSendConnRequest r _ _

theorem handleEncryptChange (p : PacketContents) : φ (r.handleEncryptChange s p) = φ r := by
  unfold Relay.handleEncryptChange
  split
  · rfl
  · split
    · extract_lets r₁
      have h₁ : φ r₁ = φ r := by
        show φ (ite _ _ _) = _
        split
        · exact hφ.l2capSendConnRequest r _ _
        · rfl
      split
      · rw [requestCentralRole, hφ.sendCmd, h₁]
      · exact h₁
    · rfl

theorem handleLinkKeyNotify (p : PacketContents) : φ (r.handleLinkKeyNotify s p) = φ r := by
  unfold Relay.handleLinkKeyNotify
  split
  · rfl
  · extract_lets r₁
    have h₁ : φ r₁ = φ r :=
      (hφ.onPairing _ s _).trans (hφ.emit r _ ⟨fun _ ↦ rfl, fun _ ↦ rfl, rfl, rfl⟩)
    split
    · rw [hφ.emit _ _ ⟨fun _ ↦ rfl, fun _ ↦ rfl, rfl, rfl⟩, hφ.onPairing, h₁]
    · rw [hφ.emit _ _ ⟨fun _ ↦ rfl, fun _ ↦ rfl, rfl, rfl⟩, h₁]

theorem sweepStaleLinks : φ (r.sweepStaleLinks s) = φ r := by
  unfold Relay.sweepStaleLinks
  split
  · rfl
  · rw [hφ.scheduleReconnect, hφ.spawn _ _ rfl, hφ.foldl_disconnect, hφ.onPaging]

theorem handleCmdStatus (p : PacketContents) : φ (r.handleCmdStatus s p) = φ r := by
  unfold Relay.handleCmdStatus
  split
  · rfl
  · extract_lets r₁
    have h₁ : φ r₁ = φ r := hφ.commandAnswered r s _
    split
    · rw [hφ.sweepStaleLinks, h₁]
    · exact h₁

theorem handleCmdComplete (p : PacketContents) : φ (r.handleCmdComplete s p) = φ r := by
  unfold Relay.handleCmdComplete
  split
  · rfl
  · extract_lets r₁ result
    have h₁ : φ r₁ = φ r := hφ.commandAnswered r s _
    split
    · split
      · exact h₁
      · rw [hφ.onAcl, h₁]
    · split
      · split
        · exact h₁
        · rw [hφ.onRadio, h₁]
      · split
        · split
          · exact h₁
          · rw [hφ.onRadio, h₁]
        · split
          · split
            · exact h₁
            · rw [hφ.onRadio, h₁]
          · exact h₁

end events

/-! ## Signalling -/

section signalling

theorem handleConnResponse (p : PacketContents) : φ (r.handleConnResponse s p) = φ r := by
  unfold Relay.handleConnResponse
  split
  · rfl
  · split
    · split
      · rfl
      · rw [hφ.l2capSendConfigureMtuRequest, hφ.setDcid]
    · rfl

theorem confRequestChain (c : Channel) : φ (r.confRequestChain s c) = φ r := by
  unfold Relay.confRequestChain
  split
  · rfl
  · split
    · split
      · exact hφ.spawn r _ rfl
      · rfl
    · rfl
    · exact hφ.l2capSendConnRequest r _ _
    · exact hφ.l2capSendConnRequest r _ _
    · rfl

theorem handleConfRequest (p : PacketContents) : φ (r.handleConfRequest s p) = φ r := by
  unfold Relay.handleConfRequest
  split
  · rfl
  · split
    · rfl
    · rw [hφ.confRequestChain, hφ.l2capSendCmdResponse]

theorem handleConnRequestL2cap (ident : UInt8) (p : PacketContents) :
    φ (r.handleConnRequestL2cap s ident p) = φ r := by
  unfold Relay.handleConnRequestL2cap
  split
  · rfl
  · split
    · exact hφ.l2capSendCmdResponse r s _ _ _
    · rw [hφ.l2capSendConfigureMtuRequest, hφ.l2capSendCmdResponse, hφ.setDcid]

theorem handleDisconnRequest (ident : UInt8) (p : PacketContents) :
    φ (r.handleDisconnRequest s ident p) = φ r := by
  unfold Relay.handleDisconnRequest
  split
  · rfl
  · exact hφ.l2capSendCmdResponse r s _ _ _

/-- A signalling command is bookkeeping, but for the answer to a configuration of our own. -/
theorem handleL2capCmd (p : PacketContents) :
    φ (r.handleL2capCmd s p) = φ r
      ∨ ∃ ident q, r.handleL2capCmd s p
          = (r.onChannels s fun c ↦ { c with currentCmdIdent := ident }).handleConfResponse s q := by
  unfold Relay.handleL2capCmd
  split
  · exact .inl rfl
  · extract_lets r₁
    have h₁ : φ r₁ = φ r := hφ.onChannels r s _
    split
    · exact .inl ((hφ.handleConnResponse r₁ s _).trans h₁)
    · split
      · exact .inr ⟨_, _, rfl⟩
      · refine .inl ?_
        split
        · exact (hφ.handleConfRequest r₁ s _).trans h₁
        · split
          · exact (hφ.handleConnRequestL2cap r₁ s _ _).trans h₁
          · split
            · exact (hφ.handleDisconnRequest r₁ s _ _).trans h₁
            · exact h₁

theorem fireInterruptFallback (link : UInt16) : φ (r.fireInterruptFallback s link) = φ r := by
  unfold Relay.fireInterruptFallback
  split
  · exact hφ.l2capSendConnRequest r s _
  · rfl

end signalling

/-! ## The gadget -/

section gadget

theorem quietTheRadio : φ (r.quietTheRadio s) = φ r := by
  unfold Relay.quietTheRadio
  split
  · exact hφ.writePageScanActivity r s _ _
  · rfl

theorem afterRoom : φ (r.afterRoom s) = φ r := by rw [Relay.afterRoom, hφ.advance, hφ.onAcl]

theorem ep0Stall (requestType : UInt8) : φ (r.ep0Stall requestType) = φ r :=
  hφ.emit r _ ⟨fun _ ↦ rfl, fun _ ↦ rfl, rfl, rfl⟩

theorem ep0StageFailed (result : Ep0Result) (direction : UInt8) : φ (r.ep0StageFailed result direction) = φ r := by
  unfold Relay.ep0StageFailed
  split
  · exact hφ.ep0Stall r _
  · rfl

theorem ep0Reply (data : List UInt8) : φ (r.ep0Reply data) = φ r := by
  unfold Relay.ep0Reply
  extract_lets result r₁
  have h₁ : φ r₁ = φ r := (hφ.emit _ _ ⟨fun _ ↦ rfl, fun _ ↦ rfl, rfl, rfl⟩).trans (hφ.advance r 1)
  split
  · exact h₁
  · rw [hφ.ep0StageFailed, h₁]

theorem ep0Ack : φ r.ep0Ack = φ r := by
  unfold Relay.ep0Ack
  extract_lets result r₁
  have h₁ : φ r₁ = φ r := (hφ.emit _ _ ⟨fun _ ↦ rfl, fun _ ↦ rfl, rfl, rfl⟩).trans (hφ.advance r 1)
  split
  · exact h₁
  · rw [hφ.ep0StageFailed, h₁]

theorem finishGetReport (report : List UInt8) : φ (r.finishGetReport report) = φ r := by
  unfold Relay.finishGetReport
  split
  · rfl
  · rw [hφ.ep0Reply]
    refine hφ.onUsb r _ ?_
    exact fun _ ↦ ⟨rfl, rfl, rfl, rfl⟩

theorem onFeatureReport (report : List UInt8) : φ (r.onFeatureReport report) = φ r := by
  unfold Relay.onFeatureReport
  extract_lets reportId slot r₁
  have h₁ : φ r₁ = φ r := hφ.onUsb r _ fun _ ↦ ⟨rfl, rfl, rfl, rfl⟩
  split
  · rfl
  · split
    · rw [hφ.finishGetReport, h₁]
    · exact h₁

theorem getReportTimeout : φ r.getReportTimeout = φ r := by
  unfold Relay.getReportTimeout
  split
  · rfl
  · exact hφ.finishGetReport r _

theorem submitOutputRead : φ r.submitOutputRead = φ r := by
  unfold Relay.submitOutputRead
  extract_lets ok r₁
  have h₁ : φ r₁ = φ r := (hφ.emit _ _ ⟨fun _ ↦ rfl, fun _ ↦ rfl, rfl, rfl⟩).trans (hφ.advance r 1)
  split
  · rfl
  · split
    · refine Eq.trans (hφ.onUsb r₁ _ ?_) h₁
      exact fun _ ↦ ⟨rfl, rfl, rfl, rfl⟩
    · exact h₁

/-- A pairing that is written down, and one that is not. -/
theorem takePairingSet (report : List UInt8) : φ (r.takePairingSet s report) = φ r := by
  unfold Relay.takePairingSet
  split
  · extract_lets key host r₁
    have h₁ : φ r₁ = φ r := hφ.emit r _ ⟨fun _ ↦ rfl, fun _ ↦ rfl, rfl, rfl⟩
    split
    · split
      · rw [hφ.onPairing, h₁]
      · exact h₁
    · rw [hφ.emit _ _ ⟨fun _ ↦ rfl, fun _ ↦ rfl, rfl, rfl⟩, hφ.onPairing, h₁]
  · rfl

theorem connectToConsole (addr : BdAddr) (key : LinkKey) : φ (r.connectToConsole s addr key) = φ r := by
  unfold Relay.connectToConsole
  extract_lets idle r₁ r₂ r₃ r₄ r₅
  have h₁ : φ r₁ = φ r := hφ.emit r _ ⟨fun _ ↦ rfl, fun _ ↦ rfl, rfl, rfl⟩
  split
  · simp only [r₅, r₄, r₃, r₂, hφ.sendConnectionRequest, hφ.writePageTimeout, hφ.onPaging, hφ.advance,
      hφ.writeScanEnable, hφ.onPairing, h₁]
  · exact h₁

end gadget

/-! ## Packets -/

/-- An event is bookkeeping, unless it says that buffers have come free. -/
theorem handleEvent (p : PacketContents) :
    φ (r.handleEvent s p) = φ r ∨ ∃ plen q, r.handleEvent s p = r.handleNumCompletedPackets s plen q := by
  have hite : ∀ {c : Prop} [Decidable c] {a b : Relay},
      (φ a = φ r ∨ ∃ plen q, a = r.handleNumCompletedPackets s plen q) →
      (φ b = φ r ∨ ∃ plen q, b = r.handleNumCompletedPackets s plen q) →
      (φ (if c then a else b) = φ r
        ∨ ∃ plen q, (if c then a else b) = r.handleNumCompletedPackets s plen q) := by
    intro c _ a b ha hb
    split
    · exact ha
    · exact hb
  unfold Relay.handleEvent
  cases PacketContents.get 2 p with
  | none => exact .inl rfl
  | some q =>
    refine hite (.inl (hφ.handleConnectionComplete r s _)) ?_
    refine hite (.inl (hφ.handleLinkKeyRequest r s _)) ?_
    refine hite (.inl (hφ.handleIoCapabilityRequest r s _)) ?_
    refine hite (.inl (hφ.handleUserConfirmRequest r s _)) ?_
    refine hite (.inl (hφ.handleAuthComplete r s _)) ?_
    refine hite (.inl (hφ.handleEncryptChange r s _)) ?_
    refine hite (.inr ⟨_, _, rfl⟩) ?_
    refine hite (.inl (hφ.handleModeChange r s _)) ?_
    refine hite (.inl (hφ.handleCmdComplete r s _)) ?_
    refine hite (.inl (hφ.handleCmdStatus r s _)) ?_
    refine hite (.inl (hφ.handleLinkKeyNotify r s _)) ?_
    refine hite (.inl (hφ.handleConnRequest r s _)) ?_
    exact hite (.inl (hφ.handleDisconnectComplete r s _)) (.inl rfl)

theorem handleGhost (handle : UInt16) : φ (r.handleGhost s handle) = φ r := by
  unfold Relay.handleGhost
  split
  · rfl
  · rw [hφ.disconnect, hφ.onLinks]

theorem arriving (p : PacketContents) (re : Option AclReasm) (pdu : List UInt8) :
    φ (r.arriving s p re pdu) = φ r :=
  (hφ.emit _ _ ⟨fun _ ↦ rfl, fun _ ↦ rfl, rfl, rfl⟩).trans (hφ.onLinks r s _)

omit hφ in
/-- What an ACL packet comes to, by its contents. -/
inductive AclOutcome (φ : Relay → α) (r : Relay) (s : ConnectionSide) (p : PacketContents) :
    PduContents → α → Prop
  | nothing : AclOutcome φ r s p .nothing (φ r)
  | command {re pdu q} :
      AclOutcome φ r s p (.command q) (φ ((r.arriving s p re pdu).handleL2capCmd s q))
  | payload {re pdu cid data} :
      AclOutcome φ r s p (.payload cid data) (φ ((r.arriving s p re pdu).routePayload s cid data))

/-- Around its contents an ACL packet is bookkeeping. -/
theorem handleAcl (p : PacketContents) : AclOutcome φ r s p (r.contentsOf s p) (φ (r.handleAcl s p)) := by
  have hrouted : ∀ re pdu,
      AclOutcome φ r s p (.decode pdu) (φ ((r.arriving s p re pdu).routeL2capPdu s pdu)) := by
    intro re pdu
    have hm := pdu_move (r.arriving s p re pdu) s pdu
    revert hm
    generalize (r.arriving s p re pdu).routeL2capPdu s pdu = r'
    generalize PduContents.decode pdu = contents
    intro hm
    cases hm with
    | nothing =>
      rw [hφ.arriving]
      exact .nothing
    | command => exact .command
    | payload => exact .payload
  have hm := acl_move r s p
  rw [contentsOf]
  revert hm
  generalize r.handleAcl s p = r'
  intro hm
  cases hm with
  | dropped hc =>
    rw [hc]
    exact .nothing
  | ghost h =>
    have hc : r.completedPdu s p = none := if_pos (.inl h)
    rw [hc, hφ.handleGhost]
    exact .nothing
  | buffered hc =>
    rw [hc, setReasm, hφ.onLinks]
    exact .nothing
  | routed ho hc =>
    rw [hc]
    exact hrouted _ _
  | routedLast ho hc =>
    rw [hc, setReasm, hφ.onLinks]
    exact hrouted _ _

end Blind

end DualSenseMitm
