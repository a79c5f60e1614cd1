import DualSenseMitm.AclPackets
import DualSenseMitm.Frames
import DualSenseMitm.Requests

/-!
# What one input can do

`Relay.cause` reads an input in the state it meets: an event of a controller with its parameters, an
ACL packet, a timer, and so on.  Conditions on the steps of a run are stated over it.

`step_move` says once what a step can do: each cause leads to one function, and every step stays
within the aspects of its cause (`Move.within`).
-/

set_option autoImplicit false

namespace DualSenseMitm

open Bytes Machine

/-! ## Causes -/

/-- An event of the controller with the parameters its handler reads. -/
inductive Event
  | connectionComplete (e : EvtConnComplete)
  | disconnectComplete (e : EvtDisconnComplete)
  | connRequest (e : EvtConnRequest)
  | modeChange (e : EvtModeChange)
  | linkKeyRequest (addr : BdAddr)
  | linkKeyNotify (e : EvtLinkKeyNotify)
  | authComplete (e : EvtAuthComplete)
  | encryptChange (e : EvtEncryptChange)
  | cmdStatus (e : EvtCmdStatus)
  | numCompletedPackets
  /-- The answer to Read Buffer Size. -/
  | bufferSize (count : UInt16)
  /-- Any other, or one that is too short. -/
  | other

/-- The event of a packet, behind the indicator. -/
def Event.decode (p : PacketContents) : Event :=
  match PacketContents.get 2 p with
  | none => .other
  | some (hdr, p) =>
    let evt := byteAt hdr 0
    if evt = EVT_CONN_COMPLETE then
      (EvtConnComplete.get? p).elim .other fun e ↦ .connectionComplete e.1
    else if evt = EVT_LINK_KEY_REQ then (evtBdAddr? 6 p).elim .other fun e ↦ .linkKeyRequest e.1
    else if evt = EVT_IO_CAPABILITY_REQUEST then .other
    else if evt = EVT_USER_CONFIRM_REQUEST then .other
    else if evt = EVT_AUTH_COMPLETE then
      (EvtAuthComplete.get? p).elim .other fun e ↦ .authComplete e.1
    else if evt = EVT_ENCRYPT_CHANGE then
      (EvtEncryptChange.get? p).elim .other fun e ↦ .encryptChange e.1
    else if evt = EVT_NUM_COMP_PKTS then .numCompletedPackets
    else if evt = EVT_MODE_CHANGE then (EvtModeChange.get? p).elim .other fun e ↦ .modeChange e.1
    else if evt = EVT_CMD_COMPLETE then (Relay.bufferCount? p).elim .other .bufferSize
    else if evt = EVT_CMD_STATUS then (EvtCmdStatus.get? p).elim .other fun e ↦ .cmdStatus e.1
    else if evt = EVT_LINK_KEY_NOTIFY then
      (EvtLinkKeyNotify.get? p).elim .other fun e ↦ .linkKeyNotify e.1
    else if evt = EVT_CONN_REQUEST then
      (EvtConnRequest.get? p).elim .other fun e ↦ .connRequest e.1
    else if evt = EVT_DISCONN_COMPLETE then
      (EvtDisconnComplete.get? p).elim .other fun e ↦ .disconnectComplete e.1
    else .other

/-- What an input amounts to. -/
inductive Cause
  | event (s : ConnectionSide) (e : Event)
  /-- An ACL packet, behind the indicator. -/
  | acl (s : ConnectionSide) (p : PacketContents)
  /-- The deferred half of the pair command. -/
  | handover (s : ConnectionSide)
  | interruptFallback (s : ConnectionSide) (link : UInt16)
  /-- The timer of a call. -/
  | reconnect (s : ConnectionSide)
  /-- The gadget is attached. -/
  | enableGadget (s : ConnectionSide)
  | ep0 (events : List UsbEvent)
  | getReportTimeout
  /-- A completion on the interrupt OUT endpoint. -/
  | outputDone (result : Option (List UInt8))
  /-- A completion on the interrupt IN endpoint. -/
  | inputDone (result : Int)
  | shutdown
  /-- A handler starts, or its reset ends. -/
  | comingUp (s : ConnectionSide)
  | other

namespace Relay

/-- What a packet amounts to for a handler in its read loop. -/
def causeOfPacket (s : ConnectionSide) (packet : List UInt8) : Cause :=
  match PacketContents.get 1 packet with
  | none => .other
  | some (indicator, p) =>
    if byteAt indicator 0 = HCI_EVENT_PKT then .event s (.decode p)
    else if byteAt indicator 0 = HCI_ACLDATA_PKT then .acl s p
    else .other

/-- The peer of a side: the one `handle_conn_request` accepts a call from. -/
def peer (r : Relay) : ConnectionSide → BdAddr
  | .toDualsense => (r.h .toDualsense).pairing.btAddr
  | .toPlaystation => (r.h .toPlaystation).pairing.consoleAddr

/-- An address of that peer. -/
def fromPeer (r : Relay) (s : ConnectionSide) (addr : BdAddr) : Prop :=
  (r.peer s).isSet = true ∧ addr.sameRadio (r.peer s) = true

instance (r : Relay) (s : ConnectionSide) (addr : BdAddr) : Decidable (r.fromPeer s addr) :=
  inferInstanceAs (Decidable (_ ∧ _))

/-- What an input amounts to in this state. -/
def cause (r : Relay) : Input → Cause
  | .packet s bytes =>
    match (r.h s).phase with
    | .down => .other
    | .resetting => .comingUp s
    | .running => causeOfPacket s bytes
  | .fire k =>
    match r.tasks[k]? with
    | some (.handover s) => .handover s
    | some (.interruptFallback s link) => .interruptFallback s link
    | some (.reconnect s _) => .reconnect s
    | some (.enableUsbGadget s) => .enableGadget s
    | _ => .other
  | .ep0 events => .ep0 events
  | .getReportTimeout => .getReportTimeout
  | .outputDone result => .outputDone result
  | .inputDone result => .inputDone result
  | .shutdown => .shutdown
  | .start s | .resetTimeout s => .comingUp s
  | _ => .other

end Relay

/-- A Connection Complete, and the side it is for. -/
def Cause.completed? : Cause → Option (ConnectionSide × EvtConnComplete)
  | .event s (.connectionComplete e) => some (s, e)
  | _ => none

/-- The one input a cause of the gadget comes from. -/
def Cause.gadgetInput? : Cause → Option Input
  | .ep0 events => some (.ep0 events)
  | .getReportTimeout => some .getReportTimeout
  | .outputDone result => some (.outputDone result)
  | .inputDone result => some (.inputDone result)
  | _ => none

/-- The aspects a cause goes through. -/
def Cause.aspects : Cause → Set Aspect
  | .event s e =>
    match e with
    | .connectionComplete _ => {.links, .linkNotes, .timing s, .scanning s.other, .authenticating s, .pacing s}
    | .disconnectComplete _ => {.links, .timing s, .scanning s, .pacing s}
    | .connRequest _ | .modeChange _ => {.linkNotes}
    | .linkKeyRequest _ => {.answering}
    | .linkKeyNotify _ => {.keys}
    | .authComplete _ => {.keys, .signalling s}
    | .encryptChange _ => {.signalling s}
    | .cmdStatus _ => {.closing, .timing s}
    | .numCompletedPackets => {.relaying s}
    | .bufferSize _ => {.credits s}
    | .other => ∅
  | .acl s _ => Relay.aclAspects s
  | .handover s => {.keys, .endpoints, .reports, .calling s.other, .scanning s.other}
  | .interruptFallback s _ => {.signalling s}
  | .reconnect s => {.timing s, .calling s, .scanning s.other}
  | .enableGadget _ => {.endpoints}
  | .ep0 _ => {.keys, .handover, .endpoints, .reports, .outputs}
  | .getReportTimeout => {.reports}
  | .outputDone _ => {.endpoints, .outputs}
  | .inputDone _ => {.taking}
  | .shutdown => {.closing}
  | .comingUp s => {.comingUp, .calling s, .scanning s, .scanning s.other, .pacing s}
  | .other => ∅

/-! ## Moves -/

/-- The function a cause leads to. -/
inductive Move (r : Relay) : Cause → Relay → Prop
  | quiet {c r'} (h : Relay.Performs Op.Quiet r r') (hc : c.aspects = ∅ := by rfl) : Move r c r'
  | comingUp {s r'} (h : Relay.Performs (Op.Within (Cause.comingUp s).aspects) r r') :
      Move r (.comingUp s) r'
  | connectionComplete {s p e q} (hp : EvtConnComplete.get? p = some (e, q)) :
      Move r (.event s (.connectionComplete e)) (r.handleConnectionComplete s p)
  | disconnectComplete {s p e q} (hp : EvtDisconnComplete.get? p = some (e, q)) :
      Move r (.event s (.disconnectComplete e)) (r.handleDisconnectComplete s p)
  | connRequest {s p e q} (hp : EvtConnRequest.get? p = some (e, q)) :
      Move r (.event s (.connRequest e)) (r.handleConnRequest s p)
  | modeChange {s p e q} (hp : EvtModeChange.get? p = some (e, q)) :
      Move r (.event s (.modeChange e)) (r.handleModeChange s p)
  | linkKeyRequest {s p addr q} (hp : evtBdAddr? 6 p = some (addr, q)) :
      Move r (.event s (.linkKeyRequest addr)) (r.handleLinkKeyRequest s p)
  | linkKeyNotify {s p e q} (hp : EvtLinkKeyNotify.get? p = some (e, q)) :
      Move r (.event s (.linkKeyNotify e)) (r.handleLinkKeyNotify s p)
  | authComplete {s p e q} (hp : EvtAuthComplete.get? p = some (e, q)) :
      Move r (.event s (.authComplete e)) (r.handleAuthComplete s p)
  | encryptChange {s p e q} (hp : EvtEncryptChange.get? p = some (e, q)) :
      Move r (.event s (.encryptChange e)) (r.handleEncryptChange s p)
  | cmdStatus {s p e q} (hp : EvtCmdStatus.get? p = some (e, q)) :
      Move r (.event s (.cmdStatus e)) (r.handleCmdStatus s p)
  | numCompletedPackets {s plen p} :
      Move r (.event s .numCompletedPackets) (r.handleNumCompletedPackets s plen p)
  | bufferSize {s p n} (hp : Relay.bufferCount? p = some n) :
      Move r (.event s (.bufferSize n)) (r.handleCmdComplete s p)
  | acl {s p} : Move r (.acl s p) (r.handleAcl s p)
  | handover {s k} (hk : r.tasks[k]? = some (.handover s)) :
      Move r (.handover s) ((r.unpark k).fireHandover s)
  | interruptFallback {s link k} (hk : r.tasks[k]? = some (.interruptFallback s link)) :
      Move r (.interruptFallback s link) ((r.unpark k).fireInterruptFallback s link)
  | reconnect {s delay k} (hk : r.tasks[k]? = some (.reconnect s delay)) :
      Move r (.reconnect s) ((r.unpark k).fireReconnect s)
  | enableGadget {s k} (hk : r.tasks[k]? = some (.enableUsbGadget s)) :
      Move r (.enableGadget s) ((r.unpark k).enableUsbGadget s)
  | ep0 {events} : Move r (.ep0 events) (r.readEp0 events)
  | getReportTimeout : Move r .getReportTimeout r.getReportTimeout
  | outputDone {result} : Move r (.outputDone result) (r.outputCompletion result)
  | inputDone {result} : Move r (.inputDone result) (r.inputCompletion result)
  | shutdown : Move r .shutdown r.shutdown

namespace Move

variable {r : Relay} {s : ConnectionSide}

theorem ite {c : Prop} [Decidable c] {e e' : Event} {t u : Relay}
    (ht : c → Move r (.event s e) t) (hu : ¬ c → Move r (.event s e') u) :
    Move r (.event s (if c then e else e')) (if c then t else u) := by
  by_cases hc : c
  · rw [if_pos hc, if_pos hc]; exact ht hc
  · rw [if_neg hc, if_neg hc]; exact hu hc

/-- An event whose parameters are read first, and which does nothing when they are not there. -/
theorem elim {α : Type} {params : Option (α × PacketContents)} {f : α → Event} {t : Relay}
    (hnone : params = none → t = r)
    (hsome : ∀ e q, params = some (e, q) → Move r (.event s (f e)) t) :
    Move r (.event s (params.elim .other fun e ↦ f e.1)) t := by
  cases params with
  | none => rw [hnone rfl]; exact .quiet (.refl r)
  | some e => exact hsome e.1 e.2 rfl

/-- Every step stays within the aspects of its cause. -/
theorem within {c : Cause} {t : Relay} (h : Move r c t) :
    Relay.Performs (Op.Within c.aspects) r t := by
  cases h with
  | quiet h => exact h.within
  | comingUp h => exact h
  | connectionComplete hp =>
    exact Relay.within_handleConnectionComplete r _ (by simp [Cause.aspects])
      (by simp [Cause.aspects]) (by simp [Cause.aspects]) (by simp [Cause.aspects])
      (by simp [Cause.aspects]) (by simp [Cause.aspects]) _
  | disconnectComplete hp =>
    exact Relay.within_handleDisconnectComplete r _ (by simp [Cause.aspects])
      (by simp [Cause.aspects]) (by simp [Cause.aspects]) (by simp [Cause.aspects]) _
  | connRequest hp => exact Relay.within_handleConnRequest r _ (by rfl) _
  | modeChange hp => exact Relay.within_handleModeChange r _ (by rfl) _
  | linkKeyRequest hp => exact Relay.within_handleLinkKeyRequest r _ (by rfl) _
  | linkKeyNotify hp => exact Relay.within_handleLinkKeyNotify r _ (by rfl) _
  | authComplete hp => exact Relay.within_handleAuthComplete r _ (.inl (by rfl)) hp fun _ _ ↦ .inr (by rfl)
  | encryptChange hp => exact Relay.within_handleEncryptChange r _ hp fun _ _ _ ↦ by rfl
  | cmdStatus hp =>
    exact Relay.within_handleCmdStatus r _ (by simp [Cause.aspects]) (by simp [Cause.aspects]) _
  | numCompletedPackets => exact Relay.within_handleNumCompletedPackets r _ (by rfl) _ _
  | bufferSize => exact Relay.within_handleCmdComplete r _ (by rfl) _
  | acl => exact Relay.within_handleAcl r _ _
  | handover hk =>
    exact (Relay.quiet_unpark r hk nofun).within.trans (Relay.within_fireHandover _ _ (by simp [Cause.aspects])
      (by simp [Cause.aspects]) (by simp [Cause.aspects]) (by simp [Cause.aspects])
      (by simp [Cause.aspects]))
  | interruptFallback hk =>
    exact (Relay.quiet_unpark r hk nofun).within.trans
      (Relay.within_fireInterruptFallback _ _ fun _ _ ↦ by rfl)
  | reconnect hk =>
    exact (Relay.within_unparkReconnect r _ (by simp [Cause.aspects]) hk).trans
      (Relay.within_fireReconnect _ _ (by simp [Cause.aspects]) (by simp [Cause.aspects])
        (by simp [Cause.aspects]))
  | enableGadget hk =>
    exact (Relay.quiet_unpark r hk nofun).within.trans (Relay.within_enableUsbGadget _ _ (by rfl))
  | ep0 =>
    exact Relay.within_readEp0 r (by simp [Cause.aspects]) (by simp [Cause.aspects])
      (by simp [Cause.aspects]) (by simp [Cause.aspects]) (by simp [Cause.aspects]) _
  | getReportTimeout => exact Relay.within_getReportTimeout r (by rfl)
  | outputDone => exact Relay.within_outputCompletion r (by simp [Cause.aspects]) (by simp [Cause.aspects]) _
  | inputDone => exact Relay.within_inputCompletion r (by rfl) _
  | shutdown => exact Relay.within_shutdown r (by rfl)

end Move

namespace Relay

variable (r : Relay) (s : ConnectionSide)

theorem event_move (p : PacketContents) : Move r (.event s (.decode p)) (r.handleEvent s p) := by
  unfold Event.decode handleEvent
  cases PacketContents.get 2 p with
  | none => exact .quiet (.refl r)
  | some q =>
    obtain ⟨hdr, p⟩ := q
    refine .ite (fun _ ↦ ?_) fun _ ↦ .ite (fun _ ↦ ?_) fun _ ↦ .ite (fun _ ↦ ?_) fun _ ↦
      .ite (fun _ ↦ ?_) fun _ ↦ .ite (fun _ ↦ ?_) fun _ ↦ .ite (fun _ ↦ ?_) fun _ ↦
      .ite (fun _ ↦ ?_) fun _ ↦ .ite (fun _ ↦ ?_) fun _ ↦ .ite (fun _ ↦ ?_) fun _ ↦
      .ite (fun _ ↦ ?_) fun _ ↦ .ite (fun _ ↦ ?_) fun _ ↦ .ite (fun _ ↦ ?_) fun _ ↦
      .ite (fun _ ↦ ?_) fun _ ↦ .quiet (.refl r)
    · exact .elim (fun h ↦ by simp only [handleConnectionComplete, h]) fun _ _ ↦ .connectionComplete
    · exact .elim (fun h ↦ by simp only [handleLinkKeyRequest, h]) fun _ _ ↦ .linkKeyRequest
    · exact .quiet (quiet_handleIoCapabilityRequest r s p)
    · exact .quiet (quiet_handleUserConfirmRequest r s p)
    · exact .elim (fun h ↦ by simp only [handleAuthComplete, h]) fun _ _ ↦ .authComplete
    · exact .elim (fun h ↦ by simp only [handleEncryptChange, h]) fun _ _ ↦ .encryptChange
    · exact .numCompletedPackets
    · exact .elim (fun h ↦ by simp only [handleModeChange, h]) fun _ _ ↦ .modeChange
    · rcases handleCmdComplete_cases r s p with ⟨n, -, hn, -, -⟩ | ⟨hn, h⟩
      · rw [hn]
        exact .bufferSize hn
      · rw [hn]
        exact .quiet h
    · exact .elim (fun h ↦ by simp only [handleCmdStatus, h]) fun _ _ ↦ .cmdStatus
    · exact .elim (fun h ↦ by simp only [handleLinkKeyNotify, h]) fun _ _ ↦ .linkKeyNotify
    · exact .elim (fun h ↦ by simp only [handleConnRequest, h]) fun _ _ ↦ .connRequest
    · exact .elim (fun h ↦ by simp only [handleDisconnectComplete, h]) fun _ _ ↦ .disconnectComplete

theorem packet_move (packet : List UInt8) :
    Move r (causeOfPacket s packet) (r.handleBluetoothData s packet) := by
  unfold causeOfPacket handleBluetoothData
  cases PacketContents.get 1 packet with
  | none => exact .quiet (.refl r)
  | some q =>
    dsimp only
    split
    · exact event_move r s q.2
    · split
      · exact .acl
      · exact .quiet (.refl r)

theorem fire_move (k : ℕ) : Move r (r.cause (.fire k)) (r.fire k) := by
  unfold cause fire
  dsimp only
  cases hk : r.tasks[k]? with
  | none => exact .quiet (.refl r)
  | some t =>
    cases t with
    | reconnect s delay => exact .reconnect hk
    | sweepDone s => exact .quiet ((quiet_unpark r hk nofun).trans (quiet_suppressCmdErrors _ s false))
    | interruptFallback s link => exact .interruptFallback hk
    | startUsbGadget s => exact .quiet ((quiet_unpark r hk nofun).trans (quiet_startUsbGadget _ s))
    | enableUsbGadget s => exact .enableGadget hk
    | handover s => exact .handover hk

/-- **What one input can do.** -/
theorem step_move (i : Input) : Move r (r.cause i) (r.step i) := by
  cases i with
  | start s =>
    refine .comingUp (.ite (fun _ ↦ ?_) fun _ ↦ .refl r)
    exact within_startHandler r s (by simp [Cause.aspects]) (by simp [Cause.aspects])
      (by simp [Cause.aspects]) (by simp [Cause.aspects]) (by simp [Cause.aspects])
  | resetTimeout s =>
    refine .comingUp (.ite (fun _ ↦ ?_) fun _ ↦ .refl r)
    exact within_afterReset r s (by simp [Cause.aspects]) (by simp [Cause.aspects])
      (by simp [Cause.aspects]) (by simp [Cause.aspects]) (by simp [Cause.aspects])
  | packet s bytes =>
    unfold cause step takePacket
    dsimp only
    cases (r.h s).phase with
    | down => exact .quiet (.refl r)
    | resetting =>
      exact .comingUp (within_packetDuringReset r s (by simp [Cause.aspects]) (by simp [Cause.aspects])
        (by simp [Cause.aspects]) (by simp [Cause.aspects]) (by simp [Cause.aspects]) bytes)
    | running => exact packet_move r s bytes
  | fire k => exact fire_move r k
  | watch s => exact .quiet (.ite (fun _ ↦ quiet_watchCommands r s) fun _ ↦ .refl r)
  | pollRadio s => exact .quiet (.ite (fun _ ↦ quiet_readRadioQuality r s) fun _ ↦ .refl r)
  | publishStage => exact .quiet (.ite (fun _ ↦ quiet_publishStage r _) fun _ ↦ .refl r)
  | ep0 events => exact .ep0
  | getReportTimeout => exact .getReportTimeout
  | inputDone result => exact .inputDone
  | outputDone result => exact .outputDone
  | shutdown => exact .shutdown

/-- An ACL packet leads to one function. -/
theorem step_of_acl {i : Input} {p : PacketContents} (h : r.cause i = .acl s p) : r.step i = r.handleAcl s p := by
  have hm := step_move r i
  rw [h] at hm
  generalize r.step i = r' at hm
  cases hm with
  | quiet _ hc => exact absurd hc (Set.insert_nonempty _ _).ne_empty
  | acl => rfl

/-! ## Which links there are -/

/-- The current link of a side and the links it has, behind a cause. -/
def linksAfter (r : Relay) (s : ConnectionSide) : Cause → UInt16 × Finset UInt16
  | .event t (.connectionComplete e) =>
    if t = s ∧ e.status = HCI_SUCCESS then
      (e.handle, insert e.handle (r.openLinks s).2)
    else r.openLinks s
  | .event t (.disconnectComplete e) =>
    if t = s then
      (if e.handle = (r.openLinks s).1 then 0 else (r.openLinks s).1, (r.openLinks s).2.erase e.handle)
    else r.openLinks s
  | _ => r.openLinks s

theorem openLinks_connected (r : Relay) (s t : ConnectionSide) (e : EvtConnComplete) :
    (r.connected t e).openLinks s
      = if t = s then (e.handle, insert e.handle (r.openLinks s).2) else r.openLinks s := by
  unfold connected
  extract_lets r₂ r₃ r₄ r₅ r₆
  have h₂ : (r₂.h s).links.openHandles = (r.h s).links.openHandles
      ∧ (r₂.h s).links.connectionHandle = (r.h s).links.connectionHandle := by
    simp only [r₂, leaveOldLink]
    split
    · by_cases ht : s = t <;> simp [resetChannels, ht]
    · exact ⟨rfl, rfl⟩
  have h₆ : Performs (Op.Within {.pacing t}) r₃ r₆ :=
    have h₅ : Performs Op.Quiet r₃ r₅ :=
      (quiet_onPaging r₃ t fun _ ↦ by rfl).trans (quiet_endHandoverPaging r₄ t)
    .ite (fun _ ↦ h₅.within.trans (within_writePageScanActivity r₅ t (by rfl) _ _)) fun _ ↦ h₅.within
  have hlinks := links_eq h₆ s (by simp) (by simp)
  by_cases ht : s = t
  · subst ht
    simp [openLinks, hlinks, r₃, h₂.1]
  · simp [openLinks, hlinks, r₃, h₂, ht, Ne.symm ht]

theorem openLinks_handleConnectionComplete (r : Relay) (s t : ConnectionSide) {p : PacketContents}
    {e : EvtConnComplete × PacketContents} (hp : EvtConnComplete.get? p = some e) :
    (r.handleConnectionComplete t p).openLinks s = r.linksAfter s (.event t (.connectionComplete e.1)) := by
  have h₁ : (r.pageOver t e.1.status).openLinks s = r.openLinks s :=
    openLinks_eq (within_pageOver (A := {.linkNotes, .scanning t.other}) r t (by simp) (by simp) _) s
      (by simp)
  rw [handleConnectionComplete_eq r t hp, linksAfter]
  by_cases hs : e.1.status = HCI_SUCCESS
  · have h₂ := openLinks_connected (r.pageOver t e.1.status) s t e.1
    rw [h₁] at h₂
    rw [if_neg (not_not_intro hs)]
    have hauth := openLinks_eq (within_requestAuthentication (A := {.authenticating t})
      ((r.pageOver t e.1.status).connected t e.1) t (by rfl) e.1.handle) s (by simp)
    have hup : (if t = s ∧ e.1.status = HCI_SUCCESS then (e.1.handle, insert e.1.handle (r.openLinks s).2)
        else r.openLinks s) = if t = s then (e.1.handle, insert e.1.handle (r.openLinks s).2)
          else r.openLinks s := if_congr (and_iff_left hs) rfl rfl
    rw [hup, apply_ite (openLinks · s), hauth, ite_self, h₂]
  · rw [if_pos hs, if_neg fun h ↦ hs h.2]
    exact (openLinks_eq (within_handleConnectionFailure (A := {.timing t}) _ t (by rfl) _) s (by simp)).trans h₁

theorem openLinks_linkGone (r : Relay) (s t : ConnectionSide) (handle : UInt16) :
    (r.linkGone t handle).openLinks s
      = if t = s then ((r.openLinks s).1, (r.openLinks s).2.erase handle)
        else r.openLinks s := by
  by_cases ht : s = t
  · subst ht
    simp [openLinks, linkGone]
  · simp [openLinks, linkGone, ht, Ne.symm ht]

theorem openLinks_currentGone (r : Relay) (s t : ConnectionSide) :
    (r.currentGone t).openLinks s
      = if t = s then (0, (r.openLinks s).2) else r.openLinks s := by
  by_cases ht : s = t
  · subst ht
    cases s <;> simp [openLinks, currentGone, resetChannels, writePageScanActivity, writeScanEnable]
  · cases t <;>
      simp [openLinks, currentGone, resetChannels, writePageScanActivity, writeScanEnable, ht, Ne.symm ht]

theorem openLinks_handleDisconnectComplete (r : Relay) (s t : ConnectionSide) {p : PacketContents}
    {e : EvtDisconnComplete × PacketContents} (hp : EvtDisconnComplete.get? p = some e) :
    (r.handleDisconnectComplete t p).openLinks s = r.linksAfter s (.event t (.disconnectComplete e.1)) := by
  rw [handleDisconnectComplete_eq r t hp, linksAfter]
  have h₁ := openLinks_linkGone r s t e.1.handle
  by_cases hcur : e.1.handle = (r.h t).links.connectionHandle
  · rw [if_neg (not_not_intro hcur), openLinks_eq (within_scheduleReconnect (A := {.timing t}) _ t (by rfl) _)
      s (by simp), openLinks_currentGone, h₁]
    by_cases ht : t = s
    · subst ht
      simp only [if_true, if_pos (show e.1.handle = (r.openLinks t).1 from hcur)]
    · simp only [if_neg ht]
  · rw [if_pos hcur, h₁]
    by_cases ht : t = s
    · subst ht
      simp only [if_true, if_neg (show e.1.handle ≠ (r.openLinks t).1 from hcur)]
    · simp only [if_neg ht]

/-- **Which links there are behind a step.** -/
theorem openLinks_step (r : Relay) (i : Input) (s : ConnectionSide) :
    (r.step i).openLinks s = r.linksAfter s (r.cause i) := by
  have hm := step_move r i
  have hw := hm.within
  revert hm hw
  generalize r.cause i = cause
  generalize r.step i = r'
  intro hm hw
  cases hm with
  | connectionComplete hp => exact openLinks_handleConnectionComplete r s _ hp
  | disconnectComplete hp => exact openLinks_handleDisconnectComplete r s _ hp
  | quiet h hc =>
    have hkept : r'.openLinks s = r.openLinks s := openLinks_eq hw s (by simp [hc])
    rw [hkept]
    cases cause with
    | event t e =>
      cases e with
      | connectionComplete => exact absurd hc (Set.insert_nonempty _ _).ne_empty
      | disconnectComplete => exact absurd hc (Set.insert_nonempty _ _).ne_empty
      | _ => rfl
    | _ => rfl
  | acl => exact openLinks_eq hw s (by simp [Cause.aspects, aclAspects])
  | _ => exact openLinks_eq hw s (by simp [Cause.aspects])

/-- What comes from the gadget is told by its input alone. -/
theorem eq_of_gadgetInput? {i j : Input} (h : (r.cause i).gadgetInput? = some j) : i = j := by
  cases i with
  | ep0 | getReportTimeout | outputDone | inputDone => exact Option.some.inj h
  | packet s bytes =>
    unfold cause causeOfPacket at h
    dsimp only at h
    repeat' split at h
    all_goals cases h
  | fire k =>
    unfold cause at h
    dsimp only at h
    repeat' split at h
    all_goals cases h
  | _ => cases h

/-- What has left the process stays in the trace. -/
theorem out_step (r : Relay) (i : Input) : r.out <+: (r.step i).out :=
  have ⟨new, hout, _⟩ := (step_move r i).within.out
  ⟨new, hout.symm⟩

end Relay

end DualSenseMitm
