import DualSenseMitm.Bluetooth.HciEvents
import DualSenseMitm.Bluetooth.Operations
import DualSenseMitm.Bluetooth.Sdp
import DualSenseMitm.Usb.UsbEvents

/-!
# What most of the relay leaves alone

`Op.Quiet` permits what nearly every function of the relay does: frames on channels that are open,
commands that close, call for and authenticate no link, counters and flags.  It permits nothing that touches a
link, a key, the remote end of a channel, what the console has shown of itself, the held report or the time
between reports, nothing that pages or listens, and nothing the host sees on the cable but input.

Each function that stays inside it has a lemma `quiet_…` saying so.  The ones that do not are few,
and every invariant of a run is a matter of those.
-/

set_option autoImplicit false

namespace DualSenseMitm

open Bytes Machine AclFlowControl

/-- The command closes a link. -/
def closesLink (ogf ocf : UInt16) : Bool := ogf == OGF_LINK_CTL && ocf == OCF_DISCONNECT

/-- The command answers a Link Key Request. -/
def answersKey (ogf ocf : UInt16) : Bool :=
  ogf == OGF_LINK_CTL && (ocf == OCF_LINK_KEY_REPLY || ocf == OCF_LINK_KEY_NEG_REPLY)

/-- The command makes an adapter listen for calls, or stop. -/
def writesScan (ogf ocf : UInt16) : Bool := ogf == OGF_HOST_CTL && ocf == OCF_WRITE_SCAN_ENABLE

/-- The command pages a peer. -/
def callsPeer (ogf ocf : UInt16) : Bool := ogf == OGF_LINK_CTL && ocf == OCF_CREATE_CONN

/-- The command authenticates a link. -/
def authenticates (ogf ocf : UInt16) : Bool := ogf == OGF_LINK_CTL && ocf == OCF_AUTH_REQUESTED

/-- The command says how often an adapter listens for calls, and for how long. -/
def writesPageScan (ogf ocf : UInt16) : Bool := ogf == OGF_HOST_CTL && ocf == OCF_WRITE_PAGE_ACTIVITY

/-- Any other command. -/
def plainCommand (ogf ocf : UInt16) : Bool :=
  !(closesLink ogf ocf || answersKey ogf ocf || writesScan ogf ocf || callsPeer ogf ocf
    || authenticates ogf ocf || writesPageScan ogf ocf)

theorem plainCommand_iff {ogf ocf : UInt16} :
    plainCommand ogf ocf = true ↔ closesLink ogf ocf = false ∧ answersKey ogf ocf = false
      ∧ writesScan ogf ocf = false ∧ callsPeer ogf ocf = false ∧ authenticates ogf ocf = false
      ∧ writesPageScan ogf ocf = false := by
  simp [plainCommand, and_assoc]

/-- An output of the feed, or input to the host. -/
def Output.isPlain : Output → Bool
  | .published .. | .publishedLink .. | .usbInput .. => true
  | _ => false

/-- A coroutine that hands no key over, writes to no link it remembers and pages nobody. -/
def Task.isPlain : Task → Bool
  | .handover _ | .interruptFallback .. | .reconnect .. => false
  | _ => true

/-- The flags of `Paging` that say what is going on. -/
def Paging.flags (p : Paging) : Bool × Bool × Bool :=
  (p.staleLinkReset, p.reconnectPending, p.scanSuppressed)

/-- The remote ends of the channels, and what the console has shown of itself. -/
def Channels.standing (c : Channels) : (Channel → UInt16) × Bool × Bool :=
  (c.dcid, c.consoleFullReports, c.consoleOutputSeen)

/-- How many output reports were built for the pad, what is kept of its service record, and whether it was
told to leave the cable. -/
def Streams.marks (st : Streams) : UInt8 × List UInt8 × Bool :=
  (st.outputSeq, st.sdpAnswerCache, st.pairCommandSeen)

/-- Which endpoints the gadget serves. -/
def UsbHandler.endpoints (u : UsbHandler) : Bool × Bool × Bool × Bool × Bool :=
  (u.ep0Open, u.epOutOpen, u.serving, u.endpointsEnabled, u.outBusy)

/-- What the gadget knows of feature reports. -/
def UsbHandler.reports (u : UsbHandler) : Option PendingGet × (UInt8 → Option (List UInt8)) :=
  (u.pendingGet, u.answers)

/-- The operations that touch no link, no key, no remote end of a channel, nothing the console has shown,
not the number of the next request and not the held report, and neither page nor listen.  The pad may be
sent anything, the console only a read, and no buffer of the console's adapter is counted as free. -/
def Op.Quiet (r : Relay) : Op → Prop
  | .paging _ f => ∀ p, (f p).flags = p.flags
  | .channels _ f => ∀ c, (f c).standing = c.standing ∧ (f c).cmdRequestIdent = c.cmdRequestIdent
  | .acl s f => s = .toDualsense ∧ Shrinks f
  | .queue _ f => ∀ q, (f q).queue = q.queue
  | .cmd _ ogf ocf _ _ => plainCommand ogf ocf = true
  | .frame s cid pre _ => cid ≠ 0 ∧
      ∃ c, r.dcid s c = cid ∧ (s = .toPlaystation → c = .hidControl ∧ pre = [HIDP_GET_FEATURE])
  | .emit o => o.isPlain = true
  | .spawn t => t.isPlain = true
  | .usb f => ∀ u, (f u).endpoints = u.endpoints ∧ (f u).reports = u.reports
      ∧ (f u).inputFlowingSince = u.inputFlowingSince
  | .streams _ f => ∀ st, (f st).marks = st.marks
  | .unpark k => ∀ s delay, r.tasks[k]? ≠ some (.reconnect s delay)
  | .radio .. | .pump .. | .advance .. => True
  | .links .. | .pairing .. | .held .. | .gaps .. | .phase .. => False

namespace Relay

variable (r : Relay) (s : ConnectionSide)

/-! ## Single operations -/

theorem quiet_onPaging {f : Paging → Paging} (h : ∀ p, (f p).flags = p.flags) :
    Performs Op.Quiet r (r.onPaging s f) := Performs.single (.paging s f) h

theorem quiet_onChannels {f : Channels → Channels}
    (h : ∀ c, (f c).standing = c.standing ∧ (f c).cmdRequestIdent = c.cmdRequestIdent) :
    Performs Op.Quiet r (r.onChannels s f) := Performs.single (.channels s f) h

theorem quiet_onAcl {f : AclFlowControl → AclFlowControl} (h : Shrinks f) :
    Performs Op.Quiet r (r.onAcl .toDualsense f) := Performs.single (.acl .toDualsense f) ⟨rfl, h⟩

theorem quiet_onCmdQueue {f : HciCommandQueue → HciCommandQueue}
    (h : ∀ q, (f q).queue = q.queue) : Performs Op.Quiet r (r.onCmdQueue s f) :=
  Performs.single (.queue s f) h

theorem quiet_onStreams {f : Streams → Streams} (h : ∀ st, (f st).marks = st.marks) :
    Performs Op.Quiet r (r.onStreams s f) := Performs.single (.streams s f) h

theorem quiet_onRadio (f : Radio → Radio) : Performs Op.Quiet r (r.onRadio s f) :=
  Performs.single (.radio s f) trivial

theorem quiet_onUsb {f : UsbHandler → UsbHandler}
    (h : ∀ u, (f u).endpoints = u.endpoints ∧ (f u).reports = u.reports
      ∧ (f u).inputFlowingSince = u.inputFlowingSince) :
    Performs Op.Quiet r (r.onUsb f) := Performs.single (.usb f) h

theorem quiet_unpark {k : ℕ} {t : Task} (hk : r.tasks[k]? = some t)
    (ht : ∀ s delay, t ≠ .reconnect s delay) : Performs Op.Quiet r (r.unpark k) :=
  Performs.single (.unpark k) fun s delay h ↦ ht s delay (Option.some.inj (hk.symm.trans h))

theorem quiet_advance (n : ℕ) : Performs Op.Quiet r (r.advance n) :=
  Performs.single (.advance n) trivial

theorem quiet_emit {o : Output} (h : o.isPlain = true) : Performs Op.Quiet r (r.emit o) :=
  Performs.single (.emit o) h

theorem quiet_spawn {t : Task} (h : t.isPlain = true) : Performs Op.Quiet r (r.spawn t) :=
  Performs.single (.spawn t) h

/-! ## Commands -/

theorem quiet_sendCmd {ogf ocf : UInt16} (h : plainCommand ogf ocf = true) (param : List UInt8)
    (what : String) : Performs Op.Quiet r (r.sendCmd s ogf ocf param what) :=
  Performs.single (.cmd s ogf ocf param what) h

theorem quiet_pumpCommands : Performs Op.Quiet r (r.pumpCommands s) := Performs.single (.pump s) trivial

theorem quiet_watchCommands : Performs Op.Quiet r (r.watchCommands s) := by
  have h₁ : Performs Op.Quiet r (r.advance 1) := quiet_advance r 1
  refine .ite (fun _ ↦ ?_) fun _ ↦ h₁
  exact h₁.trans (.trans (quiet_onCmdQueue _ s fun _ ↦ by rfl) (quiet_pumpCommands _ s))

theorem quiet_suppressCmdErrors (b : Bool) : Performs Op.Quiet r (r.suppressCmdErrors s b) :=
  quiet_onPaging r s fun _ ↦ rfl

theorem quiet_writePageTimeout (slots : UInt16) : Performs Op.Quiet r (r.writePageTimeout s slots) :=
  quiet_sendCmd r s rfl _ _

theorem quiet_spoofBdAddr (addr : BdAddr) : Performs Op.Quiet r (r.spoofBdAddr s addr) :=
  ((quiet_suppressCmdErrors r s true).trans (quiet_sendCmd _ s rfl _ _)).trans
    (quiet_suppressCmdErrors _ s false)

theorem quiet_readRadioQuality : Performs Op.Quiet r (r.readRadioQuality s) := by
  unfold readRadioQuality
  extract_lets handle r₁ r₂ r₃ r₄
  refine .ite (fun _ ↦ .refl r) fun _ ↦ ?_
  have h₁ : Performs Op.Quiet r r₁ := quiet_suppressCmdErrors r s true
  have h₂ : Performs Op.Quiet r r₂ := h₁.trans (quiet_sendCmd r₁ s rfl _ _)
  have h₃ : Performs Op.Quiet r r₃ := h₂.trans (quiet_sendCmd r₂ s rfl _ _)
  have h₄ : Performs Op.Quiet r r₄ := h₃.trans (quiet_sendCmd r₃ s rfl _ _)
  exact h₄.trans (quiet_suppressCmdErrors r₄ s false)

/-! ## Frames on open channels -/

theorem quiet_l2capSendFramed {c : Channel} {pre : List UInt8}
    (h : s = .toPlaystation → c = .hidControl ∧ pre = [HIDP_GET_FEATURE]) (data : List UInt8) :
    Performs Op.Quiet r (r.l2capSendFramed s c pre data) :=
  .ite (fun _ ↦ .refl r) fun hne ↦ Performs.single (.frame s (r.dcid s c) pre data) ⟨hne, c, rfl, h⟩

theorem quiet_l2capSendData (c : Channel) (data : List UInt8) :
    Performs Op.Quiet r (r.l2capSendData .toDualsense c data) :=
  quiet_l2capSendFramed r .toDualsense (fun h ↦ by cases h) data

theorem quiet_l2capSendHid (c : Channel) (hidpHeader : UInt8) (data : List UInt8) :
    Performs Op.Quiet r (r.l2capSendHid .toDualsense c hidpHeader data) :=
  quiet_l2capSendFramed r .toDualsense (fun h ↦ by cases h) data

theorem quiet_l2capGetReport (reportId : UInt8) : Performs Op.Quiet r (r.l2capGetReport s reportId) :=
  quiet_l2capSendFramed r s (fun _ ↦ ⟨rfl, rfl⟩) [reportId]

/-! ## The gadget -/

theorem quiet_sendInput (report : List UInt8) : Performs Op.Quiet r (r.sendInput report) := by
  unfold sendInput
  extract_lets ok r₁
  have h₁ : Performs Op.Quiet r r₁ :=
    (quiet_advance r 1).trans (quiet_emit _ rfl)
  exact .ite (fun _ ↦ .ite (fun _ ↦ h₁.trans (quiet_onUsb r₁ fun _ ↦ ⟨rfl, rfl, rfl⟩)) fun _ ↦ h₁)
    fun _ ↦ .refl r

theorem quiet_enableGadget : Performs Op.Quiet r r.enableGadget.2 := by
  unfold enableGadget
  split
  · have h₁ : Performs Op.Quiet r (r.advance 1) := quiet_advance r 1
    exact .ite (fun _ ↦ h₁.trans (quiet_onUsb _ fun _ ↦ ⟨rfl, rfl, rfl⟩)) fun _ ↦ h₁
  · exact .refl r

/-! ## Reports -/

theorem quiet_l2capSendHidFeatureSet (report : List UInt8) :
    Performs Op.Quiet r (r.l2capSendHidFeatureSet .toDualsense report) := by
  unfold l2capSendHidFeatureSet
  exact .ite (fun _ ↦ .refl r) fun _ ↦ quiet_l2capSendHid r _ _ _

theorem quiet_afterRoom : Performs Op.Quiet r (r.afterRoom .toDualsense) :=
  (quiet_onAcl r (shrinks_hasRoom _ _)).trans (quiet_advance _ 2)

theorem quiet_publishInput (report : List UInt8) :
    Performs Op.Quiet r (r.publishInput s report) :=
  .ite (fun _ ↦ quiet_emit r rfl) fun _ ↦ .refl r

theorem quiet_publishStage : Performs Op.Quiet r (r.publishStage s) :=
  quiet_emit r rfl

theorem quiet_relayPadInputToUsb (report : List UInt8) :
    Performs Op.Quiet r (r.relayPadInputToUsb s report) := by
  unfold relayPadInputToUsb
  extract_lets usb since r₁ attempt
  have h₁ : Performs Op.Quiet r r₁ := quiet_advance r 1
  refine .ite (fun _ ↦ .ite (fun _ ↦ .ite (fun _ ↦ ?_) fun _ ↦ ?_) fun _ ↦ ?_) fun _ ↦ .refl r
  · exact (h₁.trans (quiet_onStreams r₁ s fun _ ↦ by rfl)).trans (quiet_sendInput _ _)
  · exact h₁.trans (quiet_sendInput r₁ _)
  · exact quiet_sendInput r _

theorem quiet_startUsbGadget : Performs Op.Quiet r (r.startUsbGadget s) :=
  (((quiet_l2capGetReport r s _).trans (quiet_l2capGetReport _ s _)).trans
    (quiet_l2capGetReport _ s _)).trans (quiet_spawn _ rfl)

/-! ## Events -/

theorem quiet_endHandoverPaging : Performs Op.Quiet r (r.endHandoverPaging s) :=
  .ite (fun _ ↦ .refl r) fun _ ↦
    .trans (quiet_onPaging r s fun _ ↦ by rfl) (quiet_writePageTimeout _ s _)

theorem quiet_commandAnswered (ncmd : UInt8) : Performs Op.Quiet r (r.commandAnswered s ncmd) :=
  .trans (quiet_onCmdQueue r s fun _ ↦ by rfl) (quiet_pumpCommands _ s)

theorem quiet_handleIoCapabilityRequest (p : PacketContents) :
    Performs Op.Quiet r (r.handleIoCapabilityRequest s p) := by
  unfold handleIoCapabilityRequest
  split
  · exact .refl r
  · exact quiet_sendCmd r s rfl _ _

theorem quiet_handleUserConfirmRequest (p : PacketContents) :
    Performs Op.Quiet r (r.handleUserConfirmRequest s p) := by
  unfold handleUserConfirmRequest
  split
  · exact .refl r
  · exact quiet_sendCmd r s rfl _ _

/-- The number of buffers a Command Complete tells. -/
def bufferCount? (p : PacketContents) : Option UInt16 :=
  (EvtCmdComplete.get? p).bind fun e ↦
    if e.1.opcode = cmdOpcodePack OGF_INFO_PARAM OCF_READ_BUFFER_SIZE then
      (e.2.get 7).bind fun q ↦ if byteAt q.1 0 = HCI_SUCCESS then some (le16 q.1 4) else none
    else none

/-- A Command Complete that tells a number of buffers sets it, and no other does anything but read. -/
theorem handleCmdComplete_cases (p : PacketContents) :
    (∃ n r₁, bufferCount? p = some n ∧ Performs Op.Quiet r r₁
        ∧ r.handleCmdComplete s p = r₁.onAcl s fun a ↦ a.setMaxPackets n)
      ∨ bufferCount? p = none ∧ Performs Op.Quiet r (r.handleCmdComplete s p) := by
  unfold handleCmdComplete bufferCount?
  cases EvtCmdComplete.get? p with
  | none => exact .inr ⟨rfl, .refl r⟩
  | some e =>
    obtain ⟨e, q⟩ := e
    dsimp only [Option.bind_some]
    have h₁ : Performs Op.Quiet r (r.commandAnswered s e.ncmd) := quiet_commandAnswered r s _
    by_cases hop : e.opcode = cmdOpcodePack OGF_INFO_PARAM OCF_READ_BUFFER_SIZE
    · rw [if_pos hop, if_pos hop]
      cases q.get 7 with
      | none => exact .inr ⟨rfl, h₁⟩
      | some b =>
        dsimp only [Option.bind_some]
        by_cases hs : byteAt b.1 0 = HCI_SUCCESS
        · rw [if_pos hs, if_pos hs]
          exact .inl ⟨_, _, rfl, h₁, rfl⟩
        · rw [if_neg hs, if_neg hs]
          exact .inr ⟨rfl, h₁⟩
    · rw [if_neg hop, if_neg hop]
      refine .inr ⟨rfl, .ite (fun _ ↦ ?_) fun _ ↦ .ite (fun _ ↦ ?_) fun _ ↦ .ite (fun _ ↦ ?_) fun _ ↦ h₁⟩
      all_goals
        split
        · exact h₁
        · exact h₁.trans (quiet_onRadio _ s _)

end Relay

end DualSenseMitm
