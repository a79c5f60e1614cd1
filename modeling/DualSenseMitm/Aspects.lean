import DualSenseMitm.Bluetooth.Quiet
import DualSenseMitm.Relay

/-!
# What the rest of the relay touches

The functions that are not quiet go beyond it in a few well-separated ways: they touch the links, the
keys, the held report, the signalling of one side, and so on.  An `Aspect` is one such way, and
`Op.Within A` permits the quiet operations and those of the aspects in `A`.

Each function has one lemma `within_…` with the aspects it needs.  A property that has nothing to do
with an aspect is then kept by every function inside it, and only the functions that go through the
aspect itself are left to look at.
-/

set_option autoImplicit false

namespace DualSenseMitm

open Machine AclFlowControl

/-- A way of not being quiet. -/
inductive Aspect
  /-- Which links there are, which of them is the current one, and whether the peer moved to it; the
  channels and the buffers of a link that is gone. -/
  | links
  /-- Whatever else is noted of the links. -/
  | linkNotes
  /-- Addresses and keys, and everything said about them; not the address of the pad. -/
  | keys
  /-- Answers to Link Key Requests. -/
  | answering
  /-- The deferred half of the pair command. -/
  | handover
  /-- The held report of one side, the reports sent on from it, and the buffers it waits for. -/
  | relaying (s : ConnectionSide)
  /-- The buffers of one side's adapter: how many there are, and how many are out. -/
  | credits (s : ConnectionSide)
  /-- Whatever else is sent on to the console. -/
  | forwarding
  /-- The signalling channel of one side. -/
  | signalling (s : ConnectionSide)
  /-- Signalling that opens a channel of one side. -/
  | binding (s : ConnectionSide)
  /-- PDUs handed on. -/
  | routing
  /-- Links closed on purpose. -/
  | closing
  /-- Calls to the peer of one side. -/
  | calling (s : ConnectionSide)
  /-- The timer of the next call. -/
  | timing (s : ConnectionSide)
  /-- Whether the adapter of one side listens for calls. -/
  | scanning (s : ConnectionSide)
  /-- How often the adapter of one side listens, and for how long. -/
  | pacing (s : ConnectionSide)
  /-- What the console has shown of itself on one side: that it reads full reports, and that it sends. -/
  | console (s : ConnectionSide)
  /-- Links of one side that the relay authenticates. -/
  | authenticating (s : ConnectionSide)
  /-- The endpoints of the gadget. -/
  | endpoints
  /-- Output reports built for the pad. -/
  | outputs
  /-- The host takes input. -/
  | taking
  /-- The time between reports to the console. -/
  | measuring
  /-- Feature reports asked for over the cable, and the stages of ep0 until the gadget is detached. -/
  | reports
  /-- A handler coming up. -/
  | comingUp
deriving DecidableEq

/-- The aspects of a command. -/
structure CommandWithin (A : Set Aspect) (s : ConnectionSide) (ogf ocf : UInt16) : Prop where
  closing : closesLink ogf ocf = true → .closing ∈ A
  answering : answersKey ogf ocf = true → .answering ∈ A
  scanning : writesScan ogf ocf = true → .scanning s ∈ A
  calling : callsPeer ogf ocf = true → .calling s ∈ A
  authenticating : authenticates ogf ocf = true → .authenticating s ∈ A
  pacing : writesPageScan ogf ocf = true → .pacing s ∈ A

theorem CommandWithin.of_plain {A : Set Aspect} {s : ConnectionSide} {ogf ocf : UInt16}
    (h : plainCommand ogf ocf = true) : CommandWithin A s ogf ocf := by
  obtain ⟨hc, ha, hs, hp, hl, hw⟩ := plainCommand_iff.mp h
  constructor <;> intro hk
  · rw [hc] at hk; cases hk
  · rw [ha] at hk; cases hk
  · rw [hs] at hk; cases hk
  · rw [hp] at hk; cases hk
  · rw [hl] at hk; cases hk
  · rw [hw] at hk; cases hk

/-- What an aspect lets leave the process. -/
def Output.Within (A : Set Aspect) : Output → Prop
  | .routed .. => .routing ∈ A
  | .padInput .. | .relayed .. => ∃ s, .relaying s ∈ A
  | .cmdIssued s c => CommandWithin A s c.ogf c.ocf
  | .cmdWritten _ c | .cmdDropped _ c => .comingUp ∈ A ∧ plainCommand c.ogf c.ocf = true
  | .usbOutputRead .. => .endpoints ∈ A
  | .ep0Reply .. | .ep0Ack .. | .ep0Stall .. | .gadgetDetached => .reports ∈ A
  | .linkKeySaved .. | .linkKeyRejected | .consolePairing .. | .pairingWritten .. | .consoleCalled ..
  | .keyNotified .. | .keyFailed .. => .keys ∈ A
  | _ => False

/-- The operations of the aspects in `A`, and the quiet ones. -/
def Op.Within (A : Set Aspect) (r : Relay) (op : Op) : Prop :=
  op.Quiet r ∨
    match op with
    | .links _ f => .links ∈ A ∨ .linkNotes ∈ A ∧
        ∀ l, (f l).connectionHandle = l.connectionHandle ∧ (f l).openHandles = l.openHandles
          ∧ (f l).onPlayLink = l.onPlayLink
    | .pairing s f => .keys ∈ A ∧ (s = .toDualsense → ∀ p, (f p).btAddr = p.btAddr)
    | .held s f => .relaying s ∈ A ∨ .links ∈ A ∧ f = HeldFrame.clear
    | .acl s f => Shrinks f ∧ (.credits s ∈ A ∨ .relaying s ∈ A ∨ .links ∈ A)
    | .phase .. => .comingUp ∈ A
    | .paging s f =>
      ((∀ p, (f p).staleLinkReset = p.staleLinkReset) ∨ .closing ∈ A)
        ∧ ((∀ p, (f p).reconnectPending = p.reconnectPending) ∨ .timing s ∈ A)
        ∧ ((∀ p, (f p).scanSuppressed = p.scanSuppressed) ∨ .scanning s ∈ A)
    | .channels s f =>
      (.signalling s ∈ A ∧ .binding s ∈ A ∧ ∀ c, (f c).standing.2 = c.standing.2)
        ∨ (.links ∈ A ∧ ∀ c, (f c).standing = (fun _ ↦ 0, false, false)
            ∧ (f c).cmdRequestIdent = c.cmdRequestIdent)
        ∨ (.console s ∈ A ∧ ∀ c, (f c).dcid = c.dcid ∧ (f c).cmdRequestIdent = c.cmdRequestIdent)
        ∨ .signalling s ∈ A ∧ ∀ c, (f c).standing = c.standing
    | .cmd s ogf ocf _ _ => CommandWithin A s ogf ocf
    | .usb f =>
      ((∀ u, (f u).endpoints = u.endpoints) ∨ .endpoints ∈ A)
        ∧ ((∀ u, (f u).reports = u.reports) ∨ .reports ∈ A)
        ∧ ((∀ u, (f u).inputFlowingSince = u.inputFlowingSince) ∨ .taking ∈ A)
    | .streams _ f =>
      ((∀ st, (f st).outputSeq = st.outputSeq) ∨ .outputs ∈ A)
        ∧ ((∀ st, (f st).sdpAnswerCache = st.sdpAnswerCache) ∨ .forwarding ∈ A)
        ∧ ((∀ st, (f st).pairCommandSeen = st.pairCommandSeen) ∨ .handover ∈ A)
    | .gaps s _ => .relaying s ∈ A ∨ .measuring ∈ A
    | .frame s cid _ _ =>
      .signalling s ∈ A ∧ cid = L2CAP_CID_SIGNALLING
        ∨ cid ≠ 0 ∧ ∃ c, r.dcid s c = cid ∧ (.relaying s ∈ A ∧ c = .hidInterrupt ∨ .forwarding ∈ A)
    | .emit o => o.Within A
    | .spawn (.handover _) => .handover ∈ A
    | .spawn (.interruptFallback s _) => .signalling s ∈ A
    | .spawn (.reconnect s _) => .timing s ∈ A
    | .unpark k => ∃ s delay, r.tasks[k]? = some (.reconnect s delay) ∧ .timing s ∈ A
    | _ => False

theorem CommandWithin.mono {A B : Set Aspect} (hAB : A ⊆ B) {s : ConnectionSide} {ogf ocf : UInt16}
    (h : CommandWithin A s ogf ocf) : CommandWithin B s ogf ocf :=
  ⟨fun hk ↦ hAB (h.closing hk), fun hk ↦ hAB (h.answering hk), fun hk ↦ hAB (h.scanning hk),
    fun hk ↦ hAB (h.calling hk), fun hk ↦ hAB (h.authenticating hk), fun hk ↦ hAB (h.pacing hk)⟩

theorem Output.Within.mono {A B : Set Aspect} (hAB : A ⊆ B) {o : Output} (h : o.Within A) :
    o.Within B := by
  cases o with
  | padInput | relayed => exact h.imp fun _ hs ↦ hAB hs
  | cmdIssued => exact CommandWithin.mono hAB h
  | cmdWritten | cmdDropped => exact ⟨hAB h.1, h.2⟩
  | usbOutputRead | gadgetDetached | ep0Reply | ep0Ack | ep0Stall | routed | linkKeySaved | linkKeyRejected
  | consolePairing | pairingWritten | consoleCalled | keyNotified | keyFailed => exact hAB h
  | _ => exact h

theorem Op.Within.mono {A B : Set Aspect} (hAB : A ⊆ B) {r : Relay} {op : Op}
    (h : op.Within A r) : op.Within B r := by
  refine h.imp id fun h ↦ ?_
  cases op with
  | phase => exact hAB h
  | frame =>
    exact h.imp (And.imp_left (hAB ·)) (And.imp_right (Exists.imp fun _ ↦
      And.imp_right (Or.imp (And.imp_left (hAB ·)) (hAB ·))))
  | pairing => exact h.imp_left (hAB ·)
  | paging => exact h.imp (Or.imp_right (hAB ·)) (And.imp (Or.imp_right (hAB ·)) (Or.imp_right (hAB ·)))
  | usb => exact h.imp (Or.imp_right (hAB ·)) (And.imp (Or.imp_right (hAB ·)) (Or.imp_right (hAB ·)))
  | streams => exact h.imp (Or.imp_right (hAB ·)) (And.imp (Or.imp_right (hAB ·)) (Or.imp_right (hAB ·)))
  | gaps => exact h.imp (hAB ·) (hAB ·)
  | unpark => exact h.imp fun _ ↦ Exists.imp fun _ ↦ And.imp_right (hAB ·)
  | links => exact h.imp (hAB ·) (And.imp_left (hAB ·))
  | held => exact h.imp (hAB ·) (And.imp_left (hAB ·))
  | acl => exact h.imp_right (Or.imp (hAB ·) (Or.imp (hAB ·) (hAB ·)))
  | channels =>
    exact h.imp (And.imp (hAB ·) (And.imp_left (hAB ·)))
      (Or.imp (And.imp_left (hAB ·)) (Or.imp (And.imp_left (hAB ·)) (And.imp_left (hAB ·))))
  | cmd => exact CommandWithin.mono hAB h
  | emit o => exact Output.Within.mono hAB h
  | spawn t =>
    cases t with
    | handover | interruptFallback | reconnect => exact hAB h
    | _ => exact h
  | _ => exact h

namespace Relay

theorem Performs.within {A : Set Aspect} {r r' : Relay} (h : Performs Op.Quiet r r') :
    Performs (Op.Within A) r r' := h.mono fun _ _ ↦ .inl

theorem Performs.widen {A B : Set Aspect} {r r' : Relay} (h : Performs (Op.Within A) r r')
    (hAB : A ⊆ B) : Performs (Op.Within B) r r' := h.mono fun _ _ ↦ Op.Within.mono hAB

variable {A : Set Aspect} (r : Relay) (s : ConnectionSide)

/-! ## Single operations -/

theorem within_onLinks (hA : .links ∈ A) (f : Links → Links) :
    Performs (Op.Within A) r (r.onLinks s f) := Performs.single (.links s f) (.inr (.inl hA))

theorem within_noteLinks (hA : .linkNotes ∈ A) {f : Links → Links}
    (hf : ∀ l, (f l).connectionHandle = l.connectionHandle ∧ (f l).openHandles = l.openHandles
      ∧ (f l).onPlayLink = l.onPlayLink) :
    Performs (Op.Within A) r (r.onLinks s f) :=
  Performs.single (.links s f) (.inr (.inr ⟨hA, hf⟩))

theorem within_onPairing (hA : .keys ∈ A) {f : Pairing → Pairing}
    (hf : s = .toDualsense → ∀ p, (f p).btAddr = p.btAddr) :
    Performs (Op.Within A) r (r.onPairing s f) := Performs.single (.pairing s f) (.inr ⟨hA, hf⟩)

theorem within_setDcid (hA : .signalling s ∈ A) (hB : .binding s ∈ A) (c : Channel) (dcid : UInt16) :
    Performs (Op.Within A) r (r.setDcid s c dcid) :=
  Performs.single (.channels s _) (.inr (.inl ⟨hA, hB, fun _ ↦ rfl⟩))

theorem within_clearHeld (hA : .links ∈ A) :
    Performs (Op.Within A) r (r.onHeld s fun h ↦ h.clear) :=
  Performs.single (.held s HeldFrame.clear) (.inr (.inr ⟨hA, rfl⟩))

theorem within_onHeld (hA : .relaying s ∈ A) (f : HeldFrame → HeldFrame) :
    Performs (Op.Within A) r (r.onHeld s f) := Performs.single (.held s f) (.inr (.inl hA))

theorem within_onAcl (hA : .credits s ∈ A ∨ .relaying s ∈ A ∨ .links ∈ A)
    {f : AclFlowControl → AclFlowControl} (hf : Shrinks f) : Performs (Op.Within A) r (r.onAcl s f) :=
  Performs.single (.acl s f) (.inr ⟨hf, hA⟩)

theorem within_afterRoom (hA : .credits s ∈ A ∨ .relaying s ∈ A ∨ .links ∈ A) :
    Performs (Op.Within A) r (r.afterRoom s) :=
  (within_onAcl r s hA (shrinks_hasRoom _ _)).trans (quiet_advance _ 2).within

theorem within_onPaging {f : Paging → Paging}
    (hreset : (∀ p, (f p).staleLinkReset = p.staleLinkReset) ∨ .closing ∈ A)
    (hpending : (∀ p, (f p).reconnectPending = p.reconnectPending) ∨ .timing s ∈ A)
    (hscan : (∀ p, (f p).scanSuppressed = p.scanSuppressed) ∨ .scanning s ∈ A) :
    Performs (Op.Within A) r (r.onPaging s f) :=
  Performs.single (.paging s f) (.inr ⟨hreset, hpending, hscan⟩)

theorem within_onUsb {f : UsbHandler → UsbHandler}
    (hE : (∀ u, (f u).endpoints = u.endpoints) ∨ .endpoints ∈ A)
    (hR : (∀ u, (f u).reports = u.reports) ∨ .reports ∈ A)
    (hT : ∀ u, (f u).inputFlowingSince = u.inputFlowingSince) :
    Performs (Op.Within A) r (r.onUsb f) := Performs.single (.usb f) (.inr ⟨hE, hR, .inl hT⟩)

theorem within_onStreams {f : Streams → Streams}
    (hO : (∀ st, (f st).outputSeq = st.outputSeq) ∨ .outputs ∈ A)
    (hF : (∀ st, (f st).sdpAnswerCache = st.sdpAnswerCache) ∨ .forwarding ∈ A)
    (hH : (∀ st, (f st).pairCommandSeen = st.pairCommandSeen) ∨ .handover ∈ A) :
    Performs (Op.Within A) r (r.onStreams s f) := Performs.single (.streams s f) (.inr ⟨hO, hF, hH⟩)

theorem within_noteInputSent (hA : .relaying s ∈ A ∨ .measuring ∈ A) :
    Performs (Op.Within A) r (r.noteInputSent s) :=
  .trans (.trans (quiet_onStreams r s fun _ ↦ by rfl).within (Performs.single (.gaps s _) (.inr hA)))
    (quiet_advance _ 1).within

theorem within_emit {o : Output} (hA : o.Within A) : Performs (Op.Within A) r (r.emit o) :=
  Performs.single (.emit o) (.inr hA)

theorem within_l2capSendCmd (hA : .signalling s ∈ A) (ident code : UInt8) (data : List UInt8) :
    Performs (Op.Within A) r (r.l2capSendCmd s ident code data) :=
  Performs.single (.frame s L2CAP_CID_SIGNALLING _ data) (.inr (.inl ⟨hA, rfl⟩))

theorem within_l2capSendFramed {c : Channel} (hA : .relaying s ∈ A ∧ c = .hidInterrupt ∨ .forwarding ∈ A)
    (pre data : List UInt8) : Performs (Op.Within A) r (r.l2capSendFramed s c pre data) :=
  .ite (fun _ ↦ .refl r) fun hne ↦
    Performs.single (.frame s (r.dcid s c) pre data) (.inr (.inr ⟨hne, c, rfl, hA⟩))

theorem within_sendCmd {ogf ocf : UInt16} (h : CommandWithin A s ogf ocf) (param : List UInt8)
    (what : String) : Performs (Op.Within A) r (r.sendCmd s ogf ocf param what) :=
  Performs.single (.cmd s ogf ocf param what) (.inr h)

theorem within_disconnect (hA : .closing ∈ A) (handle : UInt16) :
    Performs (Op.Within A) r (r.disconnect s handle) :=
  within_sendCmd r s ⟨fun _ ↦ hA, (absurd · (by decide)), (absurd · (by decide)),
    (absurd · (by decide)), (absurd · (by decide)), (absurd · (by decide))⟩ _ _

theorem within_requestAuthentication (hA : .authenticating s ∈ A) (handle : UInt16) :
    Performs (Op.Within A) r (r.requestAuthentication s handle) :=
  within_sendCmd r s ⟨(absurd · (by decide)), (absurd · (by decide)), (absurd · (by decide)),
    (absurd · (by decide)), fun _ ↦ hA, (absurd · (by decide))⟩ _ _

/-! ## Calls, and listening for them -/

section calls

theorem within_onReconnectPending (hA : .timing s ∈ A) (b : Bool) :
    Performs (Op.Within A) r (r.onPaging s fun p ↦ { p with reconnectPending := b }) :=
  within_onPaging r s (.inl fun _ ↦ rfl) (.inr hA) (.inl fun _ ↦ rfl)

theorem within_onScanSuppressed (hA : .scanning s ∈ A) (b : Bool) :
    Performs (Op.Within A) r (r.onPaging s fun p ↦ { p with scanSuppressed := b }) :=
  within_onPaging r s (.inl fun _ ↦ rfl) (.inl fun _ ↦ rfl) (.inr hA)

theorem within_writeScanEnable (hA : .scanning s ∈ A) (mode : UInt8) :
    Performs (Op.Within A) r (r.writeScanEnable s mode) :=
  within_sendCmd r s ⟨(absurd · (by decide)), (absurd · (by decide)), fun _ ↦ hA,
    (absurd · (by decide)), (absurd · (by decide)), (absurd · (by decide))⟩ _ _

theorem within_writePageScanActivity (hA : .pacing s ∈ A) (interval window : UInt16) :
    Performs (Op.Within A) r (r.writePageScanActivity s interval window) :=
  within_sendCmd r s ⟨(absurd · (by decide)), (absurd · (by decide)), (absurd · (by decide)),
    (absurd · (by decide)), (absurd · (by decide)), fun _ ↦ hA⟩ _ _

theorem within_applyConsoleSideIdentity (hA : .scanning s ∈ A) :
    Performs (Op.Within A) r (r.applyConsoleSideIdentity s) := by
  unfold applyConsoleSideIdentity
  extract_lets r₁ r₂ r₃
  have h₁ : Performs Op.Quiet r r₁ :=
    .ite (fun _ ↦ (quiet_spoofBdAddr r s _).trans (quiet_sendCmd _ s rfl _ _)) fun _ ↦ .refl r
  have h₂ : Performs Op.Quiet r r₂ := h₁.trans (quiet_sendCmd r₁ s rfl _ _)
  have h₃ : Performs Op.Quiet r r₃ := h₂.trans (quiet_sendCmd r₂ s rfl _ _)
  exact .ite (fun _ ↦ h₃.within) fun _ ↦ h₃.within.trans (within_writeScanEnable r₃ s hA _)

theorem within_applySideSettings (hA : .scanning s ∈ A) :
    Performs (Op.Within A) r (r.applySideSettings s) := by
  have h₁ : Performs (Op.Within A) r
      (r.writeDefaultLinkPolicy s (LINK_POLICY_ROLE_SWITCH ||| LINK_POLICY_SNIFF)) :=
    (quiet_sendCmd r s rfl _ _).within
  cases s with
  | toDualsense => exact h₁.trans (within_writeScanEnable _ _ hA _)
  | toPlaystation => exact h₁.trans (within_applyConsoleSideIdentity _ _ hA)

/-- A call of the pad's side silences the adapter of the other. -/
theorem within_sendConnectionRequest (hC : .calling s ∈ A) (hS : s = .toDualsense → .scanning s.other ∈ A)
    (addr : BdAddr) : Performs (Op.Within A) r (r.sendConnectionRequest s addr) := by
  unfold sendConnectionRequest
  extract_lets r₁
  have h₁ : Performs (Op.Within A) r r₁ := by
    refine .ite (fun h ↦ ?_) fun _ ↦ .refl r
    exact (within_writeScanEnable r s.other (hS h.1) SCAN_NONE).trans
      (within_onScanSuppressed _ s.other (hS h.1) true)
  refine .ite (fun _ ↦ h₁.trans (within_sendCmd r₁ s ?_ _ _)) fun _ ↦ .refl r
  exact ⟨(absurd · (by decide)), (absurd · (by decide)), (absurd · (by decide)), fun _ ↦ hC,
    (absurd · (by decide)), (absurd · (by decide))⟩

section timing

variable (hT : .timing s ∈ A)
include hT

theorem within_scheduleReconnect (delay : Time) :
    Performs (Op.Within A) r (r.scheduleReconnect s delay) :=
  .ite (fun _ ↦ .refl r) fun _ ↦
    (within_onReconnectPending r s hT true).trans (Performs.single (.spawn (.reconnect s delay)) (.inr hT))

theorem within_fireReconnect (hC : .calling s ∈ A) (hS : s = .toDualsense → .scanning s.other ∈ A) :
    Performs (Op.Within A) r (r.fireReconnect s) := by
  unfold fireReconnect
  extract_lets r₁
  have h₁ : Performs (Op.Within A) r r₁ := within_onReconnectPending r s hT false
  exact .ite (fun _ ↦ h₁) fun _ ↦ h₁.trans (within_sendConnectionRequest r₁ s hC hS _)

theorem within_handleConnectionFailure (e : EvtConnComplete) :
    Performs (Op.Within A) r (r.handleConnectionFailure s e) := by
  unfold handleConnectionFailure
  extract_lets btAddr r₁ since r₂
  refine .ite (fun _ ↦ ?_) fun _ ↦ .refl r
  cases s with
  | toDualsense => exact .ite (fun _ ↦ within_scheduleReconnect r _ hT _) fun _ ↦ .refl r
  | toPlaystation =>
    have h₁ : Performs Op.Quiet r r₁ := quiet_onPaging r _ fun _ ↦ rfl
    have h₁' : Performs Op.Quiet r (r₁.advance 1) := h₁.trans (quiet_advance r₁ 1)
    have h₂ : Performs Op.Quiet r r₂ := h₁'.trans (quiet_endHandoverPaging _ _)
    refine .ite (fun _ ↦ ?_) fun _ ↦ .ite (fun _ ↦ ?_) fun _ ↦ .ite (fun _ ↦ ?_) fun _ ↦ ?_
    · exact h₁.within.trans (within_scheduleReconnect r₁ _ hT _)
    · exact h₂.within.trans (within_scheduleReconnect r₂ _ hT _)
    · exact h₁'.within.trans (within_scheduleReconnect _ _ hT _)
    · exact h₁'.within.trans (within_scheduleReconnect _ _ hT _)

/-- The timer of a call fires. -/
theorem within_unparkReconnect {k : ℕ} {delay : Time} (hk : r.tasks[k]? = some (.reconnect s delay)) :
    Performs (Op.Within A) r (r.unpark k) :=
  Performs.single (.unpark k) (.inr ⟨s, delay, hk, hT⟩)

end timing

end calls

/-! ## The gadget's endpoints -/

section endpoints

variable (hA : .endpoints ∈ A)
include hA

theorem within_onEndpoints {f : UsbHandler → UsbHandler}
    (hf : ∀ u, (f u).reports = u.reports ∧ (f u).inputFlowingSince = u.inputFlowingSince) :
    Performs (Op.Within A) r (r.onUsb f) := within_onUsb r (.inr hA) (.inl fun u ↦ (hf u).1) fun u ↦ (hf u).2

theorem within_submitOutputRead : Performs (Op.Within A) r r.submitOutputRead := by
  unfold submitOutputRead
  extract_lets ok r₁
  have h₁ : Performs (Op.Within A) r r₁ :=
    .trans (quiet_advance r 1).within (within_emit _ (by exact hA))
  exact .ite (fun _ ↦ .refl r) fun _ ↦
    .ite (fun _ ↦ h₁.trans (within_onEndpoints r₁ hA fun _ ↦ ⟨rfl, rfl⟩)) fun _ ↦ h₁

theorem within_onEndpointsEnabled : Performs (Op.Within A) r r.onEndpointsEnabled :=
  .ite (fun _ ↦ .refl r) fun _ ↦
    .trans (within_onEndpoints r hA fun _ ↦ ⟨by rfl, by rfl⟩) (within_submitOutputRead _ hA)

theorem within_onEndpointsDisabled : Performs (Op.Within A) r r.onEndpointsDisabled :=
  within_onEndpoints r hA fun _ ↦ ⟨rfl, rfl⟩

theorem within_enableUsbGadget : Performs (Op.Within A) r (r.enableUsbGadget s) := by
  unfold enableUsbGadget
  have h₁ := Performs.within (A := A) (Reaches.trans
    (quiet_onStreams r s (f := fun st ↦ { st with usbStarted := true }) fun _ ↦ rfl) (quiet_enableGadget _))
  exact .ite (fun _ ↦ .refl r) fun _ ↦
    .ite (fun _ ↦ h₁.trans (within_onEndpoints _ hA fun _ ↦ ⟨by rfl, by rfl⟩)) fun _ ↦ h₁

omit hA in
theorem within_l2capSendOutputReport (hO : .outputs ∈ A) (usbReport : List UInt8) :
    Performs (Op.Within A) r (r.l2capSendOutputReport .toDualsense usbReport) := by
  unfold l2capSendOutputReport
  refine .ite (fun _ ↦ .refl r) fun _ ↦ ?_
  exact (within_onStreams r _ (.inr hO) (.inl fun _ ↦ by rfl) (.inl fun _ ↦ by rfl)).trans
    (quiet_l2capSendHid _ _ _ _).within

theorem within_outputCompletion (hO : .outputs ∈ A) (result : Option (List UInt8)) :
    Performs (Op.Within A) r (r.outputCompletion result) := by
  refine .ite (fun _ ↦ ?_) fun _ ↦ .refl r
  unfold onOutputDone
  extract_lets r₁
  have h₁ : Performs (Op.Within A) r r₁ := within_onEndpoints r hA fun _ ↦ ⟨rfl, rfl⟩
  cases result with
  | none => exact h₁
  | some data =>
    dsimp only
    refine Reaches.trans ?_ (within_submitOutputRead _ hA)
    exact .ite (fun _ ↦ h₁) fun _ ↦ h₁.trans (within_l2capSendOutputReport r₁ hO _)

theorem within_disableGadget (hR : .reports ∈ A) : Performs (Op.Within A) r r.disableGadget :=
  .trans (within_onUsb r (.inr hA) (.inr hR) fun _ ↦ by rfl) (within_emit _ (by exact hR))

end endpoints

/-- The host has taken a report. -/
theorem within_inputCompletion (hA : .taking ∈ A) (result : Int) :
    Performs (Op.Within A) r (r.inputCompletion result) := by
  refine .ite (fun _ ↦ ?_) fun _ ↦ .refl r
  unfold onInputDone
  extract_lets r₁
  have h₁ : Performs (Op.Within A) r r₁ := (quiet_onUsb r fun _ ↦ ⟨by rfl, by rfl, by rfl⟩).within
  refine .ite (fun _ ↦ ?_) fun _ ↦ h₁
  have h₂ := h₁.trans (quiet_advance r₁ 1).within
  exact h₂.trans (Performs.single (.usb fun u ↦ { u with inputFlowingSince := r₁.now })
    (.inr ⟨.inl fun _ ↦ rfl, .inl fun _ ↦ rfl, .inr hA⟩))

/-! ## Feature reports, and ep0 -/

section reports

variable (hA : .reports ∈ A)
include hA

theorem within_onReports {f : UsbHandler → UsbHandler}
    (hf : ∀ u, (f u).endpoints = u.endpoints ∧ (f u).inputFlowingSince = u.inputFlowingSince) :
    Performs (Op.Within A) r (r.onUsb f) := within_onUsb r (.inl fun u ↦ (hf u).1) (.inr hA) fun u ↦ (hf u).2

theorem within_ep0StageFailed (result : Ep0Result) (direction : UInt8) :
    Performs (Op.Within A) r (r.ep0StageFailed result direction) :=
  .ite (fun _ ↦ within_emit r (by exact hA)) fun _ ↦ .refl r

theorem within_ep0Reply (data : List UInt8) : Performs (Op.Within A) r (r.ep0Reply data) := by
  unfold ep0Reply
  extract_lets result r₁
  have h₁ : Performs (Op.Within A) r r₁ :=
    .trans (quiet_advance r 1).within (within_emit _ (by exact hA))
  exact .ite (fun _ ↦ h₁) fun _ ↦ h₁.trans (within_ep0StageFailed r₁ hA _ _)

theorem within_ep0Ack : Performs (Op.Within A) r r.ep0Ack := by
  unfold ep0Ack
  extract_lets result r₁
  have h₁ : Performs (Op.Within A) r r₁ :=
    .trans (quiet_advance r 1).within (within_emit _ (by exact hA))
  exact .ite (fun _ ↦ h₁) fun _ ↦ h₁.trans (within_ep0StageFailed r₁ hA _ _)

theorem within_finishGetReport (report : List UInt8) :
    Performs (Op.Within A) r (r.finishGetReport report) := by
  unfold finishGetReport
  cases r.usb.pendingGet with
  | none => exact .refl r
  | some get => exact (within_onReports r hA fun _ ↦ ⟨by rfl, by rfl⟩).trans (within_ep0Reply _ hA _)

theorem within_onFeatureReport (report : List UInt8) :
    Performs (Op.Within A) r (r.onFeatureReport report) := by
  unfold onFeatureReport
  extract_lets reportId slot r₁
  have h₁ : Performs (Op.Within A) r r₁ := within_onReports r hA fun _ ↦ ⟨rfl, rfl⟩
  exact .ite (fun _ ↦ .refl r) fun _ ↦
    .ite (fun _ ↦ h₁.trans (within_finishGetReport r₁ hA slot)) fun _ ↦ h₁

theorem within_handleFeatureAnswerFromPad (hF : .forwarding ∈ A) (report : List UInt8) :
    Performs (Op.Within A) r (r.handleFeatureAnswerFromPad s report) := by
  unfold handleFeatureAnswerFromPad
  extract_lets feature addr report' r₁
  have h₁ : Performs (Op.Within A) r r₁ :=
    .ite (fun _ ↦ within_l2capSendFramed r s.other (.inr hF) _ _) fun _ ↦ .refl r
  exact .ite (fun _ ↦ h₁.trans (within_onFeatureReport r₁ hA _)) fun _ ↦ h₁

theorem within_beginGetReport (reportId : UInt8) (length : UInt16) :
    Performs (Op.Within A) r (r.beginGetReport reportId length) := by
  unfold beginGetReport
  split
  · exact within_ep0Reply r hA _
  · exact (within_onReports r hA fun _ ↦ ⟨by rfl, by rfl⟩).trans (quiet_l2capGetReport _ _ _).within

theorem within_getReportTimeout : Performs (Op.Within A) r r.getReportTimeout := by
  unfold getReportTimeout
  split
  · exact .refl r
  · exact within_finishGetReport r hA _

end reports

/-! ## Signalling -/

theorem quiet_handleConfResponse (p : PacketContents) :
    Performs Op.Quiet r (r.handleConfResponse s p) := by
  unfold handleConfResponse
  split
  · exact .refl r
  · extract_lets r₁
    have h₁ : Performs Op.Quiet r r₁ :=
      .ite (fun h ↦ quiet_l2capSendFramed r s (fun hs ↦ by rw [h.2] at hs; cases hs) _) fun _ ↦ .refl r
    exact .ite (fun _ ↦ h₁.trans (quiet_spawn r₁ rfl)) fun _ ↦ h₁

section signalling

variable (hA : .signalling s ∈ A)
include hA

/-- The next request gets the next number. -/
theorem within_countRequest : Performs (Op.Within A) r
    (r.onChannels s fun c ↦ { c with cmdRequestIdent := (r.h s).channels.cmdRequestIdent + 1 }) :=
  Performs.single (.channels s fun c ↦ { c with cmdRequestIdent := (r.h s).channels.cmdRequestIdent + 1 })
    (.inr (.inr (.inr (.inr ⟨hA, fun _ ↦ rfl⟩))))

theorem within_l2capSendCmdRequest (code : UInt8) (data : List UInt8) :
    Performs (Op.Within A) r (r.l2capSendCmdRequest s code data) :=
  (within_countRequest r s hA).trans (within_l2capSendCmd _ s hA _ _ _)

theorem within_l2capSendCmdResponse (ident code : UInt8) (data : List UInt8) :
    Performs (Op.Within A) r (r.l2capSendCmdResponse s ident code data) :=
  within_l2capSendCmd r s hA _ _ _

theorem within_handleConnResponse (hB : .binding s ∈ A) (p : PacketContents) :
    Performs (Op.Within A) r (r.handleConnResponse s p) := by
  unfold handleConnResponse
  split
  · exact .refl r
  · refine .ite (fun _ ↦ ?_) fun _ ↦ .refl r
    split
    · exact .refl r
    · exact (within_setDcid r s hA hB _ _).trans (within_l2capSendCmdRequest _ s hA _ _)

theorem within_confRequestChain (c : Channel) :
    Performs (Op.Within A) r (r.confRequestChain s c) := by
  unfold confRequestChain
  refine .ite (fun _ ↦ .refl r) fun _ ↦ ?_
  split
  · exact .ite (fun _ ↦ Performs.single (.spawn (.interruptFallback _ _)) (.inr hA)) fun _ ↦ .refl r
  · exact .refl r
  · exact within_l2capSendCmdRequest r _ hA _ _
  · exact within_l2capSendCmdRequest r _ hA _ _
  · exact .refl r

theorem within_handleConfRequest (p : PacketContents) :
    Performs (Op.Within A) r (r.handleConfRequest s p) := by
  unfold handleConfRequest
  split
  · exact .refl r
  · split
    · exact .refl r
    · exact (within_l2capSendCmdResponse r s hA _ _ _).trans (within_confRequestChain _ s hA _)

theorem within_handleConnRequestL2cap (hB : .binding s ∈ A) (ident : UInt8) (p : PacketContents) :
    Performs (Op.Within A) r (r.handleConnRequestL2cap s ident p) := by
  unfold handleConnRequestL2cap
  split
  · exact .refl r
  · split
    · exact within_l2capSendCmdResponse r s hA _ _ _
    · exact ((within_setDcid r s hA hB _ _).trans (within_l2capSendCmdResponse _ s hA _ _ _)).trans
        (within_l2capSendCmdRequest _ s hA _ _)

theorem within_handleDisconnRequest (ident : UInt8) (p : PacketContents) :
    Performs (Op.Within A) r (r.handleDisconnRequest s ident p) := by
  unfold handleDisconnRequest
  split
  · exact .refl r
  · exact within_l2capSendCmdResponse r s hA _ _ _

theorem within_handleL2capCmd (hB : .binding s ∈ A) (p : PacketContents) :
    Performs (Op.Within A) r (r.handleL2capCmd s p) := by
  unfold handleL2capCmd
  split
  · exact .refl r
  · extract_lets r₁
    have h₁ : Performs (Op.Within A) r r₁ := Performs.within (quiet_onChannels r s fun _ ↦ ⟨rfl, rfl⟩)
    refine .ite (fun _ ↦ ?_) fun _ ↦ .ite (fun _ ↦ ?_) fun _ ↦ .ite (fun _ ↦ ?_) fun _ ↦
      .ite (fun _ ↦ ?_) fun _ ↦ .ite (fun _ ↦ ?_) fun _ ↦ h₁
    · exact h₁.trans (within_handleConnResponse r₁ s hA hB _)
    · exact h₁.trans (quiet_handleConfResponse r₁ s _).within
    · exact h₁.trans (within_handleConfRequest r₁ s hA _)
    · exact h₁.trans (within_handleConnRequestL2cap r₁ s hA hB _ _)
    · exact h₁.trans (within_handleDisconnRequest r₁ s hA _ _)

end signalling

theorem within_fireInterruptFallback {link : UInt16}
    (hA : (r.h s).links.connectionHandle = link → r.dcid s .hidInterrupt = 0 → .signalling s ∈ A) :
    Performs (Op.Within A) r (r.fireInterruptFallback s link) :=
  .ite (fun h ↦ within_l2capSendCmdRequest r s (hA h.1 h.2) _ _) fun _ ↦ .refl r

theorem within_handleEncryptChange {p q : PacketContents} {e : EvtEncryptChange}
    (hp : EvtEncryptChange.get? p = some (e, q))
    (hA : s = .toDualsense → e.status = HCI_SUCCESS → e.encrypt ≠ 0 → .signalling s ∈ A) :
    Performs (Op.Within A) r (r.handleEncryptChange s p) := by
  unfold handleEncryptChange
  rw [hp]
  dsimp -zeta only
  extract_lets r₁
  refine .ite (fun h ↦ ?_) fun _ ↦ .refl r
  have h₁ : Performs (Op.Within A) r r₁ :=
    .ite (fun _ ↦ within_l2capSendCmdRequest r s (hA h.2.1 h.1 h.2.2) _ _) fun _ ↦ .refl r
  exact .ite (fun _ ↦ h₁.trans (quiet_sendCmd r₁ s rfl _ _).within) fun _ ↦ h₁

/-! ## What the console shows of itself -/

section console

variable (hK : .console s ∈ A)
include hK

theorem within_onConsole {f : Channels → Channels}
    (hf : ∀ c, (f c).dcid = c.dcid ∧ (f c).cmdRequestIdent = c.cmdRequestIdent) :
    Performs (Op.Within A) r (r.onChannels s f) :=
  Performs.single (.channels s f) (.inr (.inr (.inr (.inl ⟨hK, hf⟩))))

theorem within_handleFeatureRequestFromConsole (hs : s = .toPlaystation) (report : List UInt8) :
    Performs (Op.Within A) r (r.handleFeatureRequestFromConsole s report) := by
  subst hs
  unfold handleFeatureRequestFromConsole
  extract_lets r₁
  have h₁ : Performs (Op.Within A) r r₁ :=
    .ite (fun _ ↦ within_onConsole r _ hK fun _ ↦ ⟨rfl, rfl⟩) fun _ ↦ .refl r
  exact .ite (fun _ ↦ h₁.trans (quiet_l2capSendHid r₁ _ _ _).within) fun _ ↦ h₁

omit hK in
theorem within_quietTheRadio (hP : .pacing s ∈ A) : Performs (Op.Within A) r (r.quietTheRadio s) :=
  .ite (fun _ ↦ within_writePageScanActivity r s hP _ _) fun _ ↦ .refl r

/-- The console sends for the first time, or again. -/
def noteConsoleOutput (r : Relay) (s : ConnectionSide) : Relay :=
  if (r.h s).channels.consoleOutputSeen then r
  else (r.onChannels s fun c ↦ { c with consoleOutputSeen := true }).quietTheRadio s

omit hK in
/-- What is done with the console's output once it is noted. -/
theorem quiet_behindNoteConsoleOutput (report : List UInt8) :
    Performs Op.Quiet (r.noteConsoleOutput .toPlaystation)
      (r.relayConsoleOutputToPad .toPlaystation report) := by
  unfold relayConsoleOutputToPad
  extract_lets r₁ target r₂ r₃
  have h₂ : Performs Op.Quiet r₁ r₂ := .ite (fun _ ↦ quiet_onStreams r₁ _ fun _ ↦ rfl) fun _ ↦ .refl r₁
  have h₃ : Performs Op.Quiet r₁ r₃ := h₂.trans (quiet_onStreams r₂ _ fun _ ↦ rfl)
  have hroom := h₃.trans (quiet_afterRoom r₃)
  refine .ite (fun _ ↦ .ite (fun _ ↦ ?_) fun _ ↦ ?_) fun _ ↦ h₂
  · exact (hroom.trans (quiet_onStreams _ _ fun _ ↦ by rfl)).trans (quiet_l2capSendData _ _ _)
  · exact hroom.trans (quiet_onStreams _ _ fun _ ↦ rfl)

theorem within_relayConsoleOutputToPad (hP : .pacing s ∈ A) (hs : s = .toPlaystation)
    (report : List UInt8) : Performs (Op.Within A) r (r.relayConsoleOutputToPad s report) := by
  subst hs
  have h₁ : Performs (Op.Within A) r (r.noteConsoleOutput .toPlaystation) :=
    .ite (fun _ ↦ .refl r) fun _ ↦
      .trans (within_onConsole r _ hK fun _ ↦ ⟨by rfl, by rfl⟩) (within_quietTheRadio _ _ hP)
  exact h₁.trans (quiet_behindNoteConsoleOutput r report).within

end console

/-! ## Reports towards the console -/

section forwarding

variable (hF : .forwarding ∈ A)
include hF

theorem within_handleSdpAnswerFromPad (payload : List UInt8) :
    Performs (Op.Within A) r (r.handleSdpAnswerFromPad s payload) := by
  unfold handleSdpAnswerFromPad
  extract_lets r₁
  have h₁ : Performs (Op.Within A) r r₁ :=
    within_onStreams r s.other (.inl fun _ ↦ rfl) (.inr hF) (.inl fun _ ↦ rfl)
  exact .ite (fun _ ↦ .ite (fun _ ↦ h₁.trans (within_l2capSendFramed r₁ s.other (.inr hF) _ _))
    fun _ ↦ h₁) fun _ ↦ .refl r

theorem within_handleSdpQuery (request : List UInt8) :
    Performs (Op.Within A) r (r.handleSdpQuery s request) := by
  unfold handleSdpQuery handleSdpRequest
  refine .ite (fun _ ↦ within_l2capSendFramed r s.other (.inr hF) _ _) fun _ ↦ .ite (fun _ ↦ ?_) fun _ ↦ ?_
  · exact within_l2capSendFramed r s (.inr hF) _ _
  · exact .ite (fun _ ↦ .refl r) fun _ ↦ within_l2capSendFramed r s (.inr hF) _ _

/-- Every payload but the pad's input and its feature answers is at most sent on. -/
theorem within_routePayload_of_others {cid : UInt16}
    (hC : ¬ (s = .toDualsense ∧ cid = Channel.hidControl.scid))
    (hI : ¬ (s = .toDualsense ∧ cid = Channel.hidInterrupt.scid)) (hK : .console s ∈ A) (hP : .pacing s ∈ A)
    (payload : List UInt8) : Performs (Op.Within A) r (r.routePayload s cid payload) := by
  unfold routePayload
  refine .ite (fun hcid ↦ ?_) fun _ ↦ .ite (fun hcid ↦ ?_) fun _ ↦ .ite (fun _ ↦ ?_) fun _ ↦
    .ite (fun _ ↦ ?_) fun _ ↦ .refl r
  · cases s with
    | toDualsense => exact absurd ⟨rfl, hcid⟩ hC
    | toPlaystation => exact within_handleFeatureRequestFromConsole r _ hK rfl _
  · cases s with
    | toDualsense => exact absurd ⟨rfl, hcid⟩ hI
    | toPlaystation => exact within_relayConsoleOutputToPad r _ hK hP rfl _
  · exact within_handleSdpAnswerFromPad r s hF _
  · exact within_handleSdpQuery r s hF _

theorem within_routePayload_of_ne {cid : UInt16} (hG : .reports ∈ A) (hK : .console s ∈ A)
    (hP : .pacing s ∈ A) (h : ¬ (s = .toDualsense ∧ cid = Channel.hidInterrupt.scid)) (payload : List UInt8) :
    Performs (Op.Within A) r (r.routePayload s cid payload) := by
  by_cases hC : s = .toDualsense ∧ cid = Channel.hidControl.scid
  · obtain ⟨rfl, rfl⟩ := hC
    exact within_handleFeatureAnswerFromPad r _ hG hF payload
  · exact within_routePayload_of_others r s hF hC h hK hP payload

end forwarding

theorem within_sendReportToConsole (hA : .relaying s ∈ A) (report : List UInt8) (flushed : Bool) :
    Performs (Op.Within A) r (r.sendReportToConsole s report flushed) := by
  unfold sendReportToConsole
  extract_lets r₁
  have h₁ : Performs (Op.Within A) r r₁ := within_emit r ⟨_, hA⟩
  exact .ite (fun _ ↦ h₁.trans (within_l2capSendFramed r₁ s (.inl ⟨hA, rfl⟩) _ _)) fun _ ↦
    h₁.trans (within_l2capSendFramed r₁ s (.inl ⟨hA, rfl⟩) _ _)

/-- Behind its mark, a report for the console is a frame on a channel like any other. -/
theorem forwards_sendReportToConsole (report : List UInt8) (flushed : Bool) :
    Performs (Op.Within {.forwarding}) (r.emit (.relayed report flushed r.lastReading))
      (r.sendReportToConsole s report flushed) :=
  .ite (fun _ ↦ within_l2capSendFramed _ s (.inr (Set.mem_singleton _)) _ _) fun _ ↦
    within_l2capSendFramed _ s (.inr (Set.mem_singleton _)) _ _

theorem within_relayPadInputToConsole (hA : .relaying s.other ∈ A) (report : List UInt8) :
    Performs (Op.Within A) r (r.relayPadInputToConsole s report) := by
  unfold relayPadInputToConsole
  extract_lets r₁
  have h₁ : Performs (Op.Within A) r r₁ := .within (quiet_onChannels r s.other fun _ ↦ ⟨rfl, rfl⟩)
  have hroom := h₁.trans (within_afterRoom r₁ s.other (.inr (.inl hA)))
  refine .ite (fun _ ↦ .ite (fun _ ↦ ?_) fun _ ↦ .ite (fun _ ↦ ?_) fun _ ↦ ?_) fun _ ↦ .refl r
  · exact h₁.trans (quiet_onStreams r₁ s.other fun _ ↦ by rfl).within
  · exact ((hroom.trans (within_onHeld _ s.other hA _)).trans
      (within_noteInputSent _ s.other (.inl hA))).trans (within_sendReportToConsole _ s.other hA _ _)
  · exact (hroom.trans (quiet_onStreams _ s.other fun _ ↦ by rfl).within).trans (within_onHeld _ s.other hA _)

theorem within_relayPadInput (hA : .relaying s.other ∈ A) (report : List UInt8) :
    Performs (Op.Within A) r (r.relayPadInput s report) := by
  unfold relayPadInput
  extract_lets r₁
  have h₁ : Performs (Op.Within A) r r₁ := within_emit r ⟨_, hA⟩
  have h₂ := (h₁.trans (quiet_publishInput r₁ s report).within).trans
    (quiet_relayPadInputToUsb _ s report).within
  exact h₂.trans (within_relayPadInputToConsole _ s hA report)

theorem within_flushHeldReport (hA : .relaying s ∈ A) : Performs (Op.Within A) r (r.flushHeldReport s) := by
  unfold flushHeldReport
  extract_lets r₁
  have h₁ : Performs (Op.Within A) r r₁ := within_afterRoom r s (.inr (.inl hA))
  refine .ite (fun _ ↦ .ite (fun _ ↦ .ite (fun _ ↦ ?_) fun _ ↦ .ite (fun _ ↦ ?_) fun _ ↦ h₁)
    fun _ ↦ h₁) fun _ ↦ .refl r
  · exact h₁.trans (within_onHeld r₁ s hA _)
  · exact (((h₁.trans (within_onHeld r₁ s hA _)).trans (within_noteInputSent _ s (.inl hA))).trans
      (quiet_onStreams _ s fun _ ↦ by rfl).within).trans (within_sendReportToConsole _ s hA _ _)

theorem within_handleNumCompletedPackets (hA : .relaying s ∈ A) (plen : UInt8) (p : PacketContents) :
    Performs (Op.Within A) r (r.handleNumCompletedPackets s plen p) := by
  refine .ite (fun _ ↦ .refl r) fun _ ↦ ?_
  split
  · exact .refl r
  · exact ((within_onAcl r s (.inr (.inl hA)) (shrinks_onNumCompleted _ _)).trans
      (quiet_advance _ _).within).trans (within_flushHeldReport _ s hA)

theorem within_handleCmdComplete (hA : .credits s ∈ A) (p : PacketContents) :
    Performs (Op.Within A) r (r.handleCmdComplete s p) := by
  rcases handleCmdComplete_cases r s p with ⟨n, r₁, -, h₁, heq⟩ | ⟨-, h⟩
  · rw [heq]
    exact h₁.within.trans (within_onAcl r₁ s (.inl hA) (shrinks_setMaxPackets n))
  · exact h.within

theorem within_routePayload (hA : .relaying s.other ∈ A) (hG : .reports ∈ A) (hF : .forwarding ∈ A)
    (hK : .console s ∈ A) (hP : .pacing s ∈ A) (cid : UInt16) (payload : List UInt8) :
    Performs (Op.Within A) r (r.routePayload s cid payload) := by
  by_cases h : s = .toDualsense ∧ cid = Channel.hidInterrupt.scid
  · obtain ⟨rfl, rfl⟩ := h
    exact within_relayPadInput r _ hA payload
  · exact within_routePayload_of_ne r s hF hG hK hP h payload

theorem within_routeL2capPdu (hA : .relaying s.other ∈ A) (hS : .signalling s ∈ A)
    (hB : .binding s ∈ A) (hG : .reports ∈ A) (hF : .forwarding ∈ A) (hK : .console s ∈ A)
    (hP : .pacing s ∈ A) (pdu : List UInt8) : Performs (Op.Within A) r (r.routeL2capPdu s pdu) := by
  unfold routeL2capPdu
  split
  · exact .refl r
  · refine .ite (fun _ ↦ within_handleL2capCmd r s hS hB _) fun _ ↦ ?_
    split
    · exact .refl r
    · exact .ite (fun _ ↦ .refl r) fun _ ↦ within_routePayload r s hA hG hF hK hP _ _

/-! ## Links -/

theorem within_pageOver (hN : .linkNotes ∈ A) (hS : s = .toDualsense → .scanning s.other ∈ A)
    (status : UInt8) : Performs (Op.Within A) r (r.pageOver s status) := by
  unfold pageOver
  extract_lets failedIncoming
  refine .ite (fun _ ↦ within_noteLinks r s hN fun _ ↦ ⟨rfl, rfl, rfl⟩) fun _ ↦
    .ite (fun h ↦ ?_) fun _ ↦ .refl r
  exact (within_onScanSuppressed r s.other (hS h.1) false).trans
    (within_writeScanEnable _ s.other (hS h.1) _)

/-- A connection that is up: `handle_connection_complete` behind the end of a page, up to the
authentication. -/
def connected (e : EvtConnComplete) : Relay :=
  let r := r.leaveOldLink s e.handle
  let r := r.onLinks s fun l ↦
    { l with
      connectionHandle := e.handle
      linkPeerAddr := e.bdaddr
      openHandles := insert e.handle l.openHandles }
  let r := r.onPaging s fun p ↦ { p with pageFailures := 0 }
  let r := r.endHandoverPaging s
  let r :=
    if s = .toDualsense then
      r.writePageScanActivity s PAGE_SCAN_INTERVAL_NORMAL PAGE_SCAN_WINDOW_NORMAL
    else r
  r.onLinks s fun l ↦ { l with incomingLink := l.acceptedIncoming, acceptedIncoming := false }

theorem handleConnectionComplete_eq {p : PacketContents} {e : EvtConnComplete × PacketContents}
    (hp : EvtConnComplete.get? p = some e) :
    r.handleConnectionComplete s p
      = if e.1.status ≠ HCI_SUCCESS then (r.pageOver s e.1.status).handleConnectionFailure s e.1
        else if (((r.pageOver s e.1.status).connected s e.1).h s).links.incomingLink then
          (r.pageOver s e.1.status).connected s e.1
        else ((r.pageOver s e.1.status).connected s e.1).requestAuthentication s e.1.handle := by
  rw [handleConnectionComplete, hp]
  rfl

/-- A link that is gone takes its partial PDU and its buffers with it. -/
def linkGone (handle : UInt16) : Relay :=
  let r := r.onLinks s fun l ↦
    { l with
      openHandles := l.openHandles.erase handle
      ghostHandles := l.ghostHandles.erase handle
      aclReasm := Function.update l.aclReasm handle none }
  r.onAcl s fun a ↦ a.onDisconnect handle

/-- The current link is gone, up to the timer for the next call. -/
def currentGone : Relay :=
  let r := r.onLinks s fun l ↦ { l with linkSniffing := false }
  let r := r.onHeld s fun h ↦ h.clear
  let r :=
    match s with
    | .toDualsense => r.writePageScanActivity s PAGE_SCAN_INTERVAL_EAGER PAGE_SCAN_WINDOW_EAGER
    | .toPlaystation =>
      ((r.onLinks s fun l ↦ { l with onPlayLink := false }).writePageScanActivity s
        PAGE_SCAN_INTERVAL_EAGER PAGE_SCAN_WINDOW_EAGER).writeScanEnable s SCAN_PAGE_ONLY
  let r := r.onLinks s fun l ↦ { l with connectionHandle := 0, incomingLink := false }
  r.resetChannels s

/-- How long the peer is left alone behind a link that is gone. -/
def reconnectDelay (e : EvtDisconnComplete) : Time :=
  if s = .toPlaystation ∧ e.reason = DISCONNECT_REMOTE_USER then seconds 20 else seconds 3

theorem handleDisconnectComplete_eq {p : PacketContents} {e : EvtDisconnComplete × PacketContents}
    (hp : EvtDisconnComplete.get? p = some e) :
    r.handleDisconnectComplete s p
      = if e.1.handle ≠ (r.h s).links.connectionHandle then r.linkGone s e.1.handle
        else ((r.linkGone s e.1.handle).currentGone s).scheduleReconnect s (reconnectDelay s e.1) := by
  have hcurrent : ((r.linkGone s e.1.handle).h s).links.connectionHandle
      = (r.h s).links.connectionHandle := by simp [linkGone]
  rw [handleDisconnectComplete, hp, ← hcurrent, reconnectDelay, apply_ite (scheduleReconnect _ s)]
  rfl

section links

variable (hA : .links ∈ A)
include hA

theorem within_resetChannels : Performs (Op.Within A) r (r.resetChannels s) :=
  Performs.single (.channels s _) (.inr (.inr (.inl ⟨hA, fun _ ↦ ⟨rfl, rfl⟩⟩)))

theorem within_leaveOldLink (handle : UInt16) :
    Performs (Op.Within A) r (r.leaveOldLink s handle) :=
  .ite (fun _ ↦ (within_resetChannels r s hA).trans (within_onLinks _ s hA _)) fun _ ↦ .refl r

theorem within_connected (hP : s = .toDualsense → .pacing s ∈ A) (e : EvtConnComplete) :
    Performs (Op.Within A) r (r.connected s e) := by
  unfold connected
  extract_lets r₂ r₃ r₄ r₅ r₆
  have h₂ : Performs (Op.Within A) r r₂ := within_leaveOldLink r s hA _
  have h₃ : Performs (Op.Within A) r r₃ := h₂.trans (within_onLinks r₂ s hA _)
  have h₄ : Performs (Op.Within A) r r₄ := h₃.trans (Performs.within (quiet_onPaging r₃ s fun _ ↦ rfl))
  have h₅ : Performs (Op.Within A) r r₅ := h₄.trans (quiet_endHandoverPaging r₄ s).within
  have h₆ : Performs (Op.Within A) r r₆ :=
    .ite (fun hs ↦ h₅.trans (within_writePageScanActivity r₅ s (hP hs) _ _)) fun _ ↦ h₅
  exact h₆.trans (within_onLinks r₆ s hA _)

theorem within_handleConnectionComplete (hN : .linkNotes ∈ A) (hT : .timing s ∈ A)
    (hS : s = .toDualsense → .scanning s.other ∈ A) (hU : .authenticating s ∈ A)
    (hP : s = .toDualsense → .pacing s ∈ A) (p : PacketContents) :
    Performs (Op.Within A) r (r.handleConnectionComplete s p) := by
  cases hp : EvtConnComplete.get? p with
  | none =>
    rw [handleConnectionComplete, hp]
  | some e =>
    rw [handleConnectionComplete_eq r s hp]
    have h₁ : Performs (Op.Within A) r (r.pageOver s e.1.status) := within_pageOver r s hN hS _
    have h₂ := h₁.trans (within_connected _ s hA hP e.1)
    refine .ite (fun _ ↦ h₁.trans (within_handleConnectionFailure _ s hT _)) fun _ ↦ ?_
    exact .ite (fun _ ↦ h₂) fun _ ↦ h₂.trans (within_requestAuthentication _ s hU _)

theorem within_linkGone (handle : UInt16) : Performs (Op.Within A) r (r.linkGone s handle) :=
  (within_onLinks r s hA _).trans (within_onAcl _ s (.inr (.inr hA)) (shrinks_onDisconnect _))

theorem within_currentGone (hS : s = .toPlaystation → .scanning s ∈ A) (hP : .pacing s ∈ A) :
    Performs (Op.Within A) r (r.currentGone s) := by
  unfold currentGone
  extract_lets r₃ r₄ r₅ r₆
  have h₃ : Performs (Op.Within A) r r₃ := within_onLinks r s hA _
  have h₄ : Performs (Op.Within A) r r₄ := h₃.trans (within_clearHeld r₃ s hA)
  have h₅ : Performs (Op.Within A) r r₅ := by
    cases s with
    | toDualsense => exact h₄.trans (within_writePageScanActivity r₄ _ hP _ _)
    | toPlaystation =>
      exact ((h₄.trans (within_onLinks r₄ _ hA _)).trans
        (within_writePageScanActivity _ _ hP _ _)).trans (within_writeScanEnable _ _ (hS rfl) _)
  have h₆ : Performs (Op.Within A) r r₆ := h₅.trans (within_onLinks r₅ s hA _)
  exact h₆.trans (within_resetChannels r₆ s hA)

theorem within_handleDisconnectComplete (hT : .timing s ∈ A)
    (hS : s = .toPlaystation → .scanning s ∈ A) (hP : .pacing s ∈ A) (p : PacketContents) :
    Performs (Op.Within A) r (r.handleDisconnectComplete s p) := by
  cases hp : EvtDisconnComplete.get? p with
  | none => rw [handleDisconnectComplete, hp]
  | some e =>
    rw [handleDisconnectComplete_eq r s hp]
    have h₁ : Performs (Op.Within A) r (r.linkGone s e.1.handle) := within_linkGone r s hA _
    have h₂ := h₁.trans (within_currentGone _ s hA hS hP)
    exact .ite (fun _ ↦ h₁) fun _ ↦ h₂.trans (within_scheduleReconnect _ s hT _)

end links

section linkNotes

variable (hA : .linkNotes ∈ A)
include hA

theorem within_handleConnRequest (p : PacketContents) :
    Performs (Op.Within A) r (r.handleConnRequest s p) := by
  unfold handleConnRequest
  split
  · exact .refl r
  · refine .ite (fun _ ↦ ?_) fun _ ↦ (quiet_sendCmd r s rfl _ _).within
    exact (within_noteLinks r s hA fun _ ↦ ⟨by rfl, by rfl, by rfl⟩).trans (quiet_sendCmd _ s rfl _ _).within

theorem within_handleModeChange (p : PacketContents) :
    Performs (Op.Within A) r (r.handleModeChange s p) := by
  unfold handleModeChange
  split
  · exact .refl r
  · exact .ite (fun _ ↦ within_noteLinks r s hA fun _ ↦ ⟨rfl, rfl, rfl⟩) fun _ ↦ .refl r

theorem within_setReasm (handle : UInt16) (re : Option AclReasm) :
    Performs (Op.Within A) r (r.setReasm s handle re) :=
  within_noteLinks r s hA fun _ ↦ ⟨rfl, rfl, rfl⟩

theorem within_handleGhost (hC : .closing ∈ A) (handle : UInt16) :
    Performs (Op.Within A) r (r.handleGhost s handle) :=
  .ite (fun _ ↦ .refl r) fun _ ↦
    (within_noteLinks r s hA fun _ ↦ ⟨by rfl, by rfl, by rfl⟩).trans
      (within_disconnect _ s hC handle)

end linkNotes

/-! ## Links closed on purpose -/

section closing

variable (hA : .closing ∈ A)
include hA

theorem within_sweepStaleLinks (hT : .timing s ∈ A) :
    Performs (Op.Within A) r (r.sweepStaleLinks s) := by
  unfold sweepStaleLinks
  extract_lets r₁ r₂
  have h₁ : Performs (Op.Within A) r r₁ :=
    within_onPaging r s (.inr hA) (.inl fun _ ↦ rfl) (.inl fun _ ↦ rfl)
  have h₂ : Performs (Op.Within A) r r₂ :=
    h₁.trans (.foldl _ sweepHandles (fun r handle _ ↦ within_disconnect r s hA handle) r₁)
  exact .ite (fun _ ↦ .refl r) fun _ ↦
    (h₂.trans (quiet_spawn r₂ rfl).within).trans (within_scheduleReconnect _ s hT _)

theorem within_handleCmdStatus (hT : .timing s ∈ A) (p : PacketContents) :
    Performs (Op.Within A) r (r.handleCmdStatus s p) := by
  unfold handleCmdStatus
  split
  · exact .refl r
  · extract_lets r₁
    have h₁ : Performs (Op.Within A) r r₁ := (quiet_commandAnswered r s _).within
    exact .ite (fun _ ↦ h₁.trans (within_sweepStaleLinks r₁ s hA hT)) fun _ ↦ h₁

theorem within_disconnectLink : Performs (Op.Within A) r (r.disconnectLink s) :=
  .foldl _ _ (fun r handle _ ↦ within_disconnect r s hA handle) r

theorem within_shutdown : Performs (Op.Within A) r r.shutdown := by
  unfold shutdown
  extract_lets r₁
  have h₁ : Performs (Op.Within A) r r₁ := within_disconnectLink r _ hA
  exact .ite (fun _ ↦ h₁.trans (within_disconnectLink r₁ _ hA)) fun _ ↦ h₁

end closing

/-! ## ACL packets -/

theorem within_routePdu (hA : .routing ∈ A) (hR : .relaying s.other ∈ A) (hS : .signalling s ∈ A)
    (hB : .binding s ∈ A) (hG : .reports ∈ A) (hF : .forwarding ∈ A) (hK : .console s ∈ A)
    (hP : .pacing s ∈ A) (handle : UInt16) (pdu : List UInt8) :
    Performs (Op.Within A) r (r.routePdu s handle pdu) :=
  .trans (within_emit r (by exact hA)) (within_routeL2capPdu _ s hR hS hB hG hF hK hP pdu)

/-! ## Keys -/

theorem within_handleLinkKeyRequest (hA : .answering ∈ A) (p : PacketContents) :
    Performs (Op.Within A) r (r.handleLinkKeyRequest s p) := by
  unfold handleLinkKeyRequest
  split
  · exact .refl r
  · split
    · exact within_sendCmd r s ⟨(absurd · (by decide)), fun _ ↦ hA, (absurd · (by decide)),
        (absurd · (by decide)), (absurd · (by decide)), (absurd · (by decide))⟩ _ _
    · exact within_sendCmd r s ⟨(absurd · (by decide)), fun _ ↦ hA, (absurd · (by decide)),
        (absurd · (by decide)), (absurd · (by decide)), (absurd · (by decide))⟩ _ _

section keys

variable (hA : .keys ∈ A)
include hA

theorem within_handleLinkKeyNotify (p : PacketContents) :
    Performs (Op.Within A) r (r.handleLinkKeyNotify s p) := by
  unfold handleLinkKeyNotify
  split
  · exact .refl r
  · extract_lets r₁
    have h₁ : Performs (Op.Within A) r r₁ :=
      .trans (within_emit r (by exact hA)) (within_onPairing _ s hA fun _ _ ↦ by rfl)
    cases s with
    | toPlaystation => exact (h₁.trans (within_onPairing r₁ _ hA fun h ↦ by cases h)).trans (within_emit _ hA)
    | toDualsense => exact h₁.trans (within_emit r₁ hA)

theorem within_handleAuthComplete {p q : PacketContents} {e : EvtAuthComplete}
    (hp : EvtAuthComplete.get? p = some (e, q))
    (hS : s = .toDualsense → e.status = HCI_SUCCESS → .signalling s ∈ A) :
    Performs (Op.Within A) r (r.handleAuthComplete s p) := by
  unfold handleAuthComplete
  rw [hp]
  dsimp -zeta only
  extract_lets r₁ r₂
  have h₁ : Performs (Op.Within A) r r₁ := within_emit r hA
  have h₂ : Performs (Op.Within A) r r₂ := h₁.trans (within_onPairing r₁ s hA fun _ _ ↦ by rfl)
  refine .ite (fun _ ↦ .ite (fun _ ↦ .ite (fun _ ↦ ?_) fun _ ↦ h₁) fun _ ↦ .refl r) fun hs ↦ ?_
  · exact .ite (fun _ ↦ h₂.trans (within_emit r₂ hA)) fun _ ↦ h₂
  · cases s with
    | toPlaystation => exact (quiet_sendCmd r _ rfl _ _).within
    | toDualsense => exact within_l2capSendCmdRequest r _ (hS rfl (not_not.mp hs)) _ _

theorem within_takePairingSet (report : List UInt8) :
    Performs (Op.Within A) r (r.takePairingSet s report) := by
  unfold takePairingSet
  extract_lets key host r₁
  have h₁ : Performs (Op.Within A) r r₁ := within_emit r hA
  refine .ite (fun _ ↦ .ite (fun _ ↦ .ite (fun _ ↦ ?_) fun _ ↦ h₁) fun _ ↦ ?_) fun _ ↦ .refl r
  · exact h₁.trans (within_onPairing r₁ s hA fun _ _ ↦ by rfl)
  · exact (h₁.trans (within_onPairing r₁ s hA fun _ _ ↦ by rfl)).trans (within_emit _ hA)

omit hA in
/-- A call that is taken: the pair is written down, and the rest listens and pages. -/
theorem connectToConsole_of_idle (hC : .calling .toPlaystation ∈ A)
    (hS : .scanning .toPlaystation ∈ A) (h : (r.h .toPlaystation).links.connectionHandle = 0)
    (addr : BdAddr) (key : LinkKey) :
    Performs (Op.Within A)
      ((r.emit (.consoleCalled .toPlaystation addr key true)).onPairing .toPlaystation
        fun p ↦ { p with linkKey := some key, consoleAddr := addr, btAddr := addr })
      (r.connectToConsole .toPlaystation addr key) := by
  have hidle : ((r.h .toPlaystation).links.connectionHandle == 0) = true := beq_iff_eq.mpr h
  unfold connectToConsole
  rw [hidle]
  extract_lets idle r₁ r₂ r₃ r₄ r₅
  have h₃ : Performs (Op.Within A) r₂ r₃ := within_writeScanEnable r₂ _ hS _
  have h₄ : Performs (Op.Within A) r₂ r₄ :=
    (h₃.trans (quiet_advance r₃ 1).within).trans (Performs.within (quiet_onPaging _ _ fun _ ↦ rfl))
  have h₅ : Performs (Op.Within A) r₂ r₅ := h₄.trans (quiet_writePageTimeout r₄ _ _).within
  exact .ite (fun _ ↦ h₅.trans (within_sendConnectionRequest r₅ _ hC (fun h ↦ nomatch h) _)) fun hn ↦
    absurd ⟨rfl, rfl⟩ hn

omit hA in
/-- A call that is not: on the wrong side, or with a link up. -/
theorem connectToConsole_of_busy
    (h : ¬ (s = .toPlaystation ∧ (r.h s).links.connectionHandle = 0)) (addr : BdAddr)
    (key : LinkKey) :
    r.connectToConsole s addr key
      = r.emit (.consoleCalled s addr key ((r.h s).links.connectionHandle == 0)) :=
  if_neg fun hn ↦ h ⟨hn.1, beq_iff_eq.mp hn.2⟩

theorem within_connectToConsole (hC : .calling s ∈ A) (hS : .scanning s ∈ A) (addr : BdAddr)
    (key : LinkKey) : Performs (Op.Within A) r (r.connectToConsole s addr key) := by
  have hmark : ∀ idle, Performs (Op.Within A) r (r.emit (.consoleCalled s addr key idle)) :=
    fun idle ↦ within_emit r hA
  by_cases h : s = .toPlaystation ∧ (r.h s).links.connectionHandle = 0
  · obtain ⟨rfl, h⟩ := h
    exact ((hmark true).trans (within_onPairing _ _ hA fun h ↦ by cases h)).trans
      (connectToConsole_of_idle r hC hS h addr key)
  · rw [connectToConsole_of_busy r s h addr key]
    exact hmark _

theorem within_fireHandover (hE : .endpoints ∈ A) (hR : .reports ∈ A) (hC : .calling s.other ∈ A)
    (hS : .scanning s.other ∈ A) : Performs (Op.Within A) r (r.fireHandover s) :=
  (within_disableGadget r hE hR).trans (within_connectToConsole _ s.other hA hC hS _ _)

end keys

/-! ## A handler coming up -/

section comingUp

variable (hA : .comingUp ∈ A)
include hA

theorem within_setPhase (p : Phase) : Performs (Op.Within A) r (r.setPhase s p) :=
  Performs.single (.phase s p) (.inr hA)

variable (hC : .calling s ∈ A) (hS : .scanning s ∈ A)
  (hO : s = .toDualsense → .scanning s.other ∈ A) (hP : .pacing s ∈ A)
include hC hS hO hP

theorem within_setUp : Performs (Op.Within A) r (r.setUp s) := by
  unfold setUp
  extract_lets r₁ r₂ r₃ r₄ r₅ r₆ r₇ r₈
  have h₁ : Performs (Op.Within A) r r₁ := within_setPhase r s hA _
  have h₂ : Performs (Op.Within A) r r₂ := h₁.trans (quiet_sendCmd r₁ s rfl _ _).within
  have h₃ : Performs (Op.Within A) r r₃ := h₂.trans (quiet_sendCmd r₂ s rfl _ _).within
  have h₄ : Performs (Op.Within A) r r₄ := h₃.trans (quiet_sendCmd r₃ s rfl _ _).within
  have h₅ : Performs (Op.Within A) r r₅ := h₄.trans (within_writePageScanActivity r₄ s hP _ _)
  have h₆ : Performs (Op.Within A) r r₆ := h₅.trans (quiet_sendCmd r₅ s rfl _ _).within
  have h₇ : Performs (Op.Within A) r r₇ := h₆.trans (quiet_sendCmd r₆ s rfl _ _).within
  have h₈ : Performs (Op.Within A) r r₈ := h₇.trans (within_applySideSettings r₇ s hS)
  cases s with
  | toDualsense => exact h₈.trans (within_sendConnectionRequest r₈ _ hC hO _)
  | toPlaystation => exact h₈

theorem within_afterReset : Performs (Op.Within A) r (r.afterReset s) :=
  (Performs.within (.trans (quiet_onCmdQueue r s fun _ ↦ by rfl) (quiet_pumpCommands _ s))).trans
    (within_setUp _ s hA hC hS hO hP)

theorem within_startHandler : Performs (Op.Within A) r (r.startHandler s) := by
  unfold startHandler
  extract_lets r₁ ok r₂
  have h₁ : Performs (Op.Within A) r r₁ := Performs.within (quiet_onCmdQueue r s fun _ ↦ rfl)
  have h₂ : Performs (Op.Within A) r r₂ := by
    refine (h₁.trans (quiet_advance r₁ 1).within).trans (within_emit _ ?_)
    cases ok with
    | true => exact ⟨hA, rfl⟩
    | false => exact ⟨hA, rfl⟩
  exact .ite (fun _ ↦ h₂.trans (within_setPhase r₂ s hA _)) fun _ ↦
    h₂.trans (within_afterReset r₂ s hA hC hS hO hP)

theorem within_packetDuringReset (packet : List UInt8) :
    Performs (Op.Within A) r (r.packetDuringReset s packet) :=
  .ite (fun _ ↦ .trans (Performs.within (quiet_onCmdQueue r s fun _ ↦ by rfl))
    (within_afterReset _ s hA hC hS hO hP)) fun _ ↦ .refl r

end comingUp

end Relay

end DualSenseMitm
