import DualSenseMitm.Bluetooth.Layouts
import DualSenseMitm.Bluetooth.Operations
import DualSenseMitm.Relay

/-!
# Whether events and signalling are parsed inside their packets

The handlers of a packet once more, on structures whose reads are checked: a function whose name ends in
`?` does what the one without does, comes to nothing where it would read outside, and says besides whether
it met a packet that is too short.

* `Relay.handleBluetoothData?` — a packet, down to the payload of an L2CAP channel.
* `Relay.StaysInside` — no read is outside, and a short packet leaves links, channels and accounting alone.
* `packet_reads_inside` — so it is for every packet.
-/

set_option autoImplicit false

namespace DualSenseMitm

open Bytes Machine Relay

def EVT_SIMPLE_PAIRING_COMPLETE : UInt8 := 0x36

namespace Relay

/-! ## Short packets -/

/-- The links, the channels and the accounting are what they were, but for the PDUs being put
together. -/
structure KeepsState (r r' : Relay) : Prop where
  links : ∀ t, { (r'.h t).links with aclReasm := (r.h t).links.aclReasm } = (r.h t).links
  dcid : ∀ t, r'.dcid t = r.dcid t
  full : ∀ t, (r'.h t).channels.consoleFullReports = (r.h t).channels.consoleFullReports
  acl : ∀ t, (r'.h t).acl = (r.h t).acl

@[refl] theorem KeepsState.refl (r : Relay) : r.KeepsState r :=
  ⟨fun _ ↦ rfl, fun _ ↦ rfl, fun _ ↦ rfl, fun _ ↦ rfl⟩

theorem KeepsState.trans {r r' r'' : Relay} (h : r.KeepsState r') (h' : r'.KeepsState r'') : r.KeepsState r'' where
  links t := by
    have h₁ := h.links t
    have h₂ := h'.links t
    rw [← h₁]
    rw [← h₂]
  dcid t := (h'.dcid t).trans (h.dcid t)
  full t := (h'.full t).trans (h.full t)
  acl t := (h'.acl t).trans (h.acl t)

/-- No read is outside: the checked handler comes to the result of the other one, and where it met a short
packet it has kept the state. -/
def StaysInside (r : Relay) (x : Option (Relay × Bool)) (r' : Relay) : Prop :=
  ∃ short, x = some (r', short) ∧ (short = true → r.KeepsState r')

/-- What a handler does with a structure of the packet, which may be too short for it. -/
def reading {α : Type} (r : Relay) (x : Option (Option (α × PacketContents)))
    (act : α → PacketContents → Option (Relay × Bool)) : Option (Relay × Bool) := do
  match ← x with
  | none => return (r, true)
  | some (a, p) => act a p

/-- What a handler does with the parameters of a completed command, if they are there and it succeeded. -/
def answered? {α : Type} (r : Relay) (L : Layout α) (hsize : 0 < L.size) (q : PacketContents) (act : α → Relay) :
    Option (Relay × Bool) :=
  r.reading ((L.onSuccess hsize).get? q) fun x _ ↦ some (x.elim r act, false)

namespace StaysInside

variable {r r' : Relay}

theorem done (r r' : Relay) : r.StaysInside (some (r', false)) r' := ⟨false, rfl, by intro h; cases h⟩

theorem short (h : r.KeepsState r') : r.StaysInside (some (r', true)) r' := ⟨true, rfl, fun _ ↦ h⟩

theorem reading {α : Type} {L : Layout α} {p : PacketContents} {r₁ : Relay}
    {act : α → PacketContents → Option (Relay × Bool)} (hkept : r.KeepsState r₁) (hnone : L.get p = none → r' = r₁)
    (hsome : ∀ a q, L.get p = some (a, q) → r.StaysInside (act a q) r') :
    r.StaysInside (r₁.reading (L.get? p) act) r' := by
  rw [Relay.reading, L.get?_eq]
  cases h : L.get p with
  | none =>
    have hr' := hnone h
    subst hr'
    exact short hkept
  | some q => exact hsome q.1 q.2 h

/-- A handler that reads one structure and does nothing without it. -/
theorem once {α : Type} {L : Layout α} {p : PacketContents} (hnone : L.get p = none → r' = r) :
    r.StaysInside (r.reading (L.get? p) fun _ _ ↦ some (r', false)) r' :=
  reading (.refl r) hnone fun _ _ _ ↦ done r r'

theorem answered {α : Type} {L : Layout α} {hsize : 0 < L.size} {q : PacketContents} {r₁ : Relay} {act : α → Relay}
    {n : ℕ} (hn : n = L.size) (hkept : r.KeepsState r₁)
    (h : r' = ((PacketContents.get n q).bind fun p ↦ if byteAt p.1 0 = HCI_SUCCESS then some p.1 else none).elim
      r₁ fun b ↦ act (L.read b)) :
    r.StaysInside (r₁.answered? L hsize q act) r' := by
  subst hn h
  refine .reading hkept (fun hnone ↦ ?_) fun x rest hx ↦ ?_
  · rw [show PacketContents.get L.size q = none from Option.map_eq_none_iff.mp hnone]
    rfl
  · obtain ⟨⟨b, rest'⟩, hget, hread⟩ := Option.map_eq_some_iff.mp hx
    obtain ⟨rfl, rfl⟩ := Prod.mk.inj hread
    rw [show PacketContents.get L.size q = some (b, rest') from hget, Option.bind_some]
    dsimp only [Layout.onSuccess]
    split
    · exact done _ _
    · exact done _ _

theorem ite {c : Prop} [Decidable c] {x y : Option (Relay × Bool)} {a b : Relay}
    (ht : c → r.StaysInside x a) (hf : ¬ c → r.StaysInside y b) :
    r.StaysInside (if c then x else y) (if c then a else b) := by
  by_cases h : c
  · rw [if_pos h, if_pos h]
    exact ht h
  · rw [if_neg h, if_neg h]
    exact hf h

theorem of_keeps {x : Option (Relay × Bool)} {r₁ : Relay} (hkept : r.KeepsState r₁) (h : r₁.StaysInside x r') :
    r.StaysInside x r' := by
  obtain ⟨b, hx, hshort⟩ := h
  exact ⟨b, hx, fun hb ↦ hkept.trans (hshort hb)⟩

end StaysInside

/-! ## Events -/

section events

variable (r : Relay) (s : ConnectionSide) (p : PacketContents)

/-- `handle_cmd_complete`; the address is only compared and logged. -/
def handleCmdComplete? : Option (Relay × Bool) :=
  r.reading (Layout.evtCmdComplete.get? p) fun e q ↦
    let r := r.commandAnswered s e.ncmd
    if e.opcode = cmdOpcodePack OGF_INFO_PARAM OCF_READ_BUFFER_SIZE then
      r.answered? Layout.bufferSize (by decide) q fun packets ↦ r.onAcl s fun a ↦ a.setMaxPackets packets
    else if e.opcode = cmdOpcodePack OGF_STATUS_PARAM OCF_READ_LINK_QUALITY then
      r.answered? Layout.linkReading (by decide) q fun quality ↦
        r.onRadio s fun d ↦ { d with linkQuality := quality, radioRead := true }
    else if e.opcode = cmdOpcodePack OGF_STATUS_PARAM OCF_READ_RSSI then
      r.answered? Layout.linkReading (by decide) q fun rssi ↦
        r.onRadio s fun d ↦ { d with linkRssi := rssi.toInt8, radioRead := true }
    else if e.opcode = cmdOpcodePack OGF_STATUS_PARAM OCF_READ_AFH_MAP then
      r.answered? Layout.afhMap (by decide) q fun map ↦
        r.onRadio s fun d ↦
          { d with
            afhEnabled := map.1 != 0
            afhChannels := UInt8.ofNat (map.2.foldl (fun n x ↦ n + popcount x) 0)
            radioRead := true }
    else if e.opcode = cmdOpcodePack OGF_INFO_PARAM OCF_READ_BD_ADDR then
      r.answered? Layout.localAddress (by decide) q fun _ ↦ r
    else some (r, false)

theorem toNat_pos_of_not_lt {plen : UInt8} (h : ¬ plen < 1) : 0 < plen.toNat :=
  Nat.pos_of_ne_zero fun h0 ↦ h (UInt8.lt_iff_toNat_lt.mpr (by rw [h0]; decide))

/-- The loop over the handles and their counts. -/
def numCompletedLoop? (clock : ℕ → Time) (body : List UInt8) : (n i : ℕ) → AclFlowControl → Option AclFlowControl
  | 0, _, a => some a
  | n + 1, i, a => do
    let off := 1 + i * 4
    if off + 4 > body.length then return a
    else
      let handle ← le16? body off
      let done ← le16? body (off + 2)
      numCompletedLoop? clock body n (i + 1) (a.onCompleted handle done.toNat (clock i))

theorem numCompletedLoop?_eq (clock : ℕ → Time) (body : List UInt8) (n i : ℕ) (a : AclFlowControl) :
    numCompletedLoop? clock body n i a = some (AclFlowControl.numCompletedLoop clock body n i a) := by
  induction n generalizing i a with
  | zero => rfl
  | succ n ih =>
    rw [numCompletedLoop?, AclFlowControl.numCompletedLoop]
    split
    · rfl
    · rw [le16?_of_lt (by omega), le16?_of_lt (by omega)]
      exact ih _ _

/-- The report held back that is sent then is not the packet's. -/
def handleNumCompletedPackets? (plen : UInt8) : Option (Relay × Bool) :=
  if plen < 1 then some (r, false)
  else
    r.reading ((Layout.bytes plen.toNat).get? p) fun body _ ↦ do
      let n ← byte? body 0
      let acl ← numCompletedLoop? (fun k ↦ r.env.clock (r.tick + k)) body n.toNat 0 (r.h s).acl
      return (((r.onAcl s fun _ ↦ acl).advance n.toNat).flushHeldReport s, false)

/-- `handle_event`; role changes and completed pairings are only logged. -/
def handleEvent? : Option (Relay × Bool) :=
  r.reading (Layout.hciEventHdr.get? p) fun hdr p ↦
    let evt := hdr.1
    if evt = EVT_CONN_COMPLETE then
      r.reading (Layout.evtConnComplete.get? p) fun _ _ ↦ some (r.handleConnectionComplete s p, false)
    else if evt = EVT_LINK_KEY_REQ then
      r.reading ((Layout.evtBdAddr 6 (by decide)).get? p) fun _ _ ↦ some (r.handleLinkKeyRequest s p, false)
    else if evt = EVT_IO_CAPABILITY_REQUEST then
      r.reading ((Layout.evtBdAddr 6 (by decide)).get? p) fun _ _ ↦ some (r.handleIoCapabilityRequest s p, false)
    else if evt = EVT_USER_CONFIRM_REQUEST then
      r.reading ((Layout.evtBdAddr 10 (by decide)).get? p) fun _ _ ↦ some (r.handleUserConfirmRequest s p, false)
    else if evt = EVT_AUTH_COMPLETE then
      r.reading (Layout.evtAuthComplete.get? p) fun _ _ ↦ some (r.handleAuthComplete s p, false)
    else if evt = EVT_ENCRYPT_CHANGE then
      r.reading (Layout.evtEncryptChange.get? p) fun _ _ ↦ some (r.handleEncryptChange s p, false)
    else if evt = EVT_NUM_COMP_PKTS then r.handleNumCompletedPackets? s p hdr.2
    else if evt = EVT_MODE_CHANGE then
      r.reading (Layout.evtModeChange.get? p) fun _ _ ↦ some (r.handleModeChange s p, false)
    else if evt = EVT_CMD_COMPLETE then r.handleCmdComplete? s p
    else if evt = EVT_CMD_STATUS then
      r.reading (Layout.evtCmdStatus.get? p) fun _ _ ↦ some (r.handleCmdStatus s p, false)
    else if evt = EVT_LINK_KEY_NOTIFY then
      r.reading (Layout.evtLinkKeyNotify.get? p) fun _ _ ↦ some (r.handleLinkKeyNotify s p, false)
    else if evt = EVT_CONN_REQUEST then
      r.reading (Layout.evtConnRequest.get? p) fun _ _ ↦ some (r.handleConnRequest s p, false)
    else if evt = EVT_DISCONN_COMPLETE then
      r.reading (Layout.evtDisconnComplete.get? p) fun _ _ ↦ some (r.handleDisconnectComplete s p, false)
    else if evt = EVT_SIMPLE_PAIRING_COMPLETE then
      r.reading (Layout.evtSimplePairingComplete.get? p) fun _ _ ↦ some (r, false)
    else if evt = EVT_ROLE_CHANGE then
      r.reading (Layout.evtRoleChange.get? p) fun _ _ ↦ some (r, false)
    else some (r, false)

theorem keepsState_commandAnswered (ncmd : UInt8) : r.KeepsState (r.commandAnswered s ncmd) :=
  ⟨fun t ↦ by simp [commandAnswered], fun t ↦ by funext c; simp [commandAnswered, dcid],
    fun t ↦ by simp [commandAnswered], fun t ↦ by simp [commandAnswered]⟩

theorem handleCmdComplete_inside : r.StaysInside (r.handleCmdComplete? s p) (r.handleCmdComplete s p) := by
  refine .reading (.refl r) (fun h ↦ ?_) fun e q h ↦ ?_
  · rw [handleCmdComplete, show EvtCmdComplete.get? p = none from h]
  · have hkept := r.keepsState_commandAnswered s e.ncmd
    have hget : EvtCmdComplete.get? p = some (e, q) := h
    rw [handleCmdComplete, hget]
    dsimp only
    refine .ite (fun _ ↦ .answered (n := 7) rfl hkept ?_) fun _ ↦ ?_
    · split <;> (rename_i hq; rw [hq]; rfl)
    refine .ite (fun _ ↦ .answered (n := 4) rfl hkept ?_) fun _ ↦ ?_
    · split <;> (rename_i hq; rw [hq]; rfl)
    refine .ite (fun _ ↦ .answered (n := 4) rfl hkept ?_) fun _ ↦ ?_
    · split <;> (rename_i hq; rw [hq]; rfl)
    refine .ite (fun _ ↦ .answered (n := 14) rfl hkept ?_) fun _ ↦ ?_
    · split <;> (rename_i hq; rw [hq]; rfl)
    split
    · refine .answered rfl hkept ?_
      cases Option.bind (PacketContents.get Layout.localAddress.size q) _ <;> rfl
    · exact .done _ _

theorem handleNumCompletedPackets_inside (plen : UInt8) :
    r.StaysInside (r.handleNumCompletedPackets? s p plen) (r.handleNumCompletedPackets s plen p) := by
  rw [handleNumCompletedPackets?, handleNumCompletedPackets]
  split
  · exact .done r r
  · rename_i hplen
    refine .reading (.refl r) (fun hnone ↦ ?_) fun body rest hbody ↦ ?_
    · rw [show PacketContents.get plen.toNat p = none from Option.map_eq_none_iff.mp hnone]
    · obtain ⟨⟨b, rest'⟩, hget, hread⟩ := Option.map_eq_some_iff.mp hbody
      obtain ⟨rfl, rfl⟩ := Prod.mk.inj hread
      have hget : PacketContents.get plen.toNat p = some (b, rest') := hget
      obtain ⟨hle, hb, -⟩ := PacketContents.get_eq_some hget
      have hpos : 0 < b.length := by
        rw [hb, List.length_take, Nat.min_eq_left hle]
        exact toNat_pos_of_not_lt hplen
      rw [hget, show (Layout.bytes plen.toNat).read b = b from rfl, byte?_of_lt hpos]
      dsimp only [bind, Option.bind_some]
      rw [numCompletedLoop?_eq]
      exact .done _ _

theorem handleEvent_inside : r.StaysInside (r.handleEvent? s p) (r.handleEvent s p) := by
  refine .reading (.refl r) (fun h ↦ ?_) fun hdr q h ↦ ?_
  · have hget : PacketContents.get 2 p = none := Option.map_eq_none_iff.mp h
    rw [handleEvent, hget]
  obtain ⟨⟨b, q'⟩, hget, hread⟩ := Option.map_eq_some_iff.mp h
  obtain ⟨rfl, rfl⟩ := Prod.mk.inj hread
  rw [handleEvent, show PacketContents.get 2 p = some (b, q') from hget]
  dsimp only [Layout.hciEventHdr]
  refine .ite (fun _ ↦ .once fun h ↦ ?_) fun _ ↦ ?_
  · rw [handleConnectionComplete, show EvtConnComplete.get? q' = none from h]
  refine .ite (fun _ ↦ .once fun h ↦ ?_) fun _ ↦ ?_
  · rw [handleLinkKeyRequest, show evtBdAddr? 6 q' = none from h]
  refine .ite (fun _ ↦ .once fun h ↦ ?_) fun _ ↦ ?_
  · rw [handleIoCapabilityRequest, show evtBdAddr? 6 q' = none from h]
  refine .ite (fun _ ↦ .once fun h ↦ ?_) fun _ ↦ ?_
  · rw [handleUserConfirmRequest, show evtBdAddr? 10 q' = none from h]
  refine .ite (fun _ ↦ .once fun h ↦ ?_) fun _ ↦ ?_
  · rw [handleAuthComplete.eq_def, show EvtAuthComplete.get? q' = none from h]
  refine .ite (fun _ ↦ .once fun h ↦ ?_) fun _ ↦ ?_
  · rw [handleEncryptChange, show EvtEncryptChange.get? q' = none from h]
  refine .ite (fun _ ↦ handleNumCompletedPackets_inside r s q' _) fun _ ↦ ?_
  refine .ite (fun _ ↦ .once fun h ↦ ?_) fun _ ↦ ?_
  · rw [handleModeChange, show EvtModeChange.get? q' = none from h]
  refine .ite (fun _ ↦ handleCmdComplete_inside r s q') fun _ ↦ ?_
  refine .ite (fun _ ↦ .once fun h ↦ ?_) fun _ ↦ ?_
  · rw [handleCmdStatus, show EvtCmdStatus.get? q' = none from h]
  refine .ite (fun _ ↦ .once fun h ↦ ?_) fun _ ↦ ?_
  · rw [handleLinkKeyNotify, show EvtLinkKeyNotify.get? q' = none from h]
  refine .ite (fun _ ↦ .once fun h ↦ ?_) fun _ ↦ ?_
  · rw [handleConnRequest.eq_def, show EvtConnRequest.get? q' = none from h]
  refine .ite (fun _ ↦ .once fun h ↦ ?_) fun _ ↦ ?_
  · rw [handleDisconnectComplete, show EvtDisconnComplete.get? q' = none from h]
  split
  · exact .once fun _ ↦ rfl
  · split
    · exact .once fun _ ↦ rfl
    · exact .done r r

end events

/-! ## Signalling -/

section signalling

variable (r : Relay) (s : ConnectionSide) (p : PacketContents)

/-- `handle_conf_request`: the option to echo is there or not. -/
def handleConfRequest? : Option (Relay × Bool) :=
  r.reading (Layout.l2capConfReq.get? p) fun req q ↦
    match Channel.byScid req.dcid with
    | none => some (r, false)
    | some c => do
      let option ← match ← (Layout.bytes 4).get? q with
        | none => pure []
        | some (option, _) => slice? option 0 4
      let rsp := put16 (r.dcid s c) ++ put16 0 ++ put16 0 ++ option
      return ((r.l2capSendCmdResponse s (r.h s).channels.currentCmdIdent L2CAP_CONF_RSP rsp).confRequestChain s c,
        false)

/-- `handle_l2cap_cmd`. -/
def handleL2capCmd? : Option (Relay × Bool) :=
  r.reading (Layout.l2capCmdHdr.get? p) fun hdr q ↦
    let r := r.onChannels s fun c ↦ { c with currentCmdIdent := hdr.ident }
    if hdr.code = L2CAP_CONN_RSP then
      r.reading (Layout.l2capConnRsp.get? q) fun _ _ ↦ some (r.handleConnResponse s q, false)
    else if hdr.code = L2CAP_CONF_RSP then
      r.reading (Layout.l2capConfRsp.get? q) fun _ _ ↦ some (r.handleConfResponse s q, false)
    else if hdr.code = L2CAP_CONF_REQ then r.handleConfRequest? s q
    else if hdr.code = L2CAP_CONN_REQ then
      r.reading (Layout.l2capConnReq.get? q) fun _ _ ↦ some (r.handleConnRequestL2cap s hdr.ident q, false)
    else if hdr.code = L2CAP_DISCONN_REQ then
      r.reading (Layout.l2capDisconnReq.get? q) fun _ _ ↦ some (r.handleDisconnRequest s hdr.ident q, false)
    else some (r, false)

/-- `route_l2cap_pdu`, down to the payload. -/
def routeL2capPdu? : Option (Relay × Bool) :=
  r.reading (Layout.l2capHdr.get? p) fun hdr q ↦
    if hdr.2 = L2CAP_CID_SIGNALLING then r.handleL2capCmd? s q
    else
      r.reading ((Layout.bytes hdr.1.toNat).get? q) fun payload _ ↦
        some (if payload.isEmpty then r else r.routePayload s hdr.2 payload, false)

theorem keepsState_ident (ident : UInt8) :
    r.KeepsState (r.onChannels s fun c ↦ { c with currentCmdIdent := ident }) := by
  refine ⟨fun t ↦ ?_, fun t ↦ ?_, fun t ↦ ?_, fun t ↦ ?_⟩ <;> cases s <;> cases t <;> rfl

theorem handleConfRequest_inside : r.StaysInside (r.handleConfRequest? s p) (r.handleConfRequest s p) := by
  refine .reading (.refl r) (fun h ↦ ?_) fun req q h ↦ ?_
  · rw [handleConfRequest, show L2capConfReq.get? p = none from h]
  · rw [handleConfRequest, show L2capConfReq.get? p = some (req, q) from h]
    dsimp only
    cases Channel.byScid req.dcid with
    | none => exact .done _ _
    | some c =>
      dsimp only
      rw [(Layout.bytes 4).get?_eq]
      cases hget : PacketContents.get 4 q with
      | none =>
        rw [show (Layout.bytes 4).get q = none from Option.map_eq_none_iff.mpr hget]
        exact .done _ _
      | some o =>
        obtain ⟨b, rest⟩ := o
        obtain ⟨hlen, hb, -⟩ := PacketContents.get_eq_some hget
        have hfour : b.length = 4 := by rw [hb, List.length_take, Nat.min_eq_left hlen]
        rw [show (Layout.bytes 4).get q = some (b, rest) from Option.map_eq_some_iff.mpr ⟨_, hget, rfl⟩]
        dsimp only [bind, Option.bind_some, Option.map_some, Option.getD_some]
        rw [← hfour, slice?_all]
        exact .done _ _

theorem handleL2capCmd_inside : r.StaysInside (r.handleL2capCmd? s p) (r.handleL2capCmd s p) := by
  refine .reading (.refl r) (fun h ↦ ?_) fun hdr q h ↦ ?_
  · rw [handleL2capCmd, show L2capCmdHdr.get? p = none from h]
  · rw [handleL2capCmd, show L2capCmdHdr.get? p = some (hdr, q) from h]
    refine .of_keeps (r.keepsState_ident s hdr.ident) ?_
    dsimp only
    refine .ite (fun _ ↦ .once fun h ↦ ?_) fun _ ↦ ?_
    · rw [handleConnResponse, show L2capConnRsp.get? q = none from h]
    refine .ite (fun _ ↦ .once fun h ↦ ?_) fun _ ↦ ?_
    · rw [handleConfResponse, show L2capConfRsp.get? q = none from h]
    refine .ite (fun _ ↦ handleConfRequest_inside _ s q) fun _ ↦ ?_
    refine .ite (fun _ ↦ .once fun h ↦ ?_) fun _ ↦ ?_
    · rw [handleConnRequestL2cap, show L2capConnReq.get? q = none from h]
    refine .ite (fun _ ↦ .once fun h ↦ ?_) fun _ ↦ .done _ _
    rw [handleDisconnRequest, show L2capDisconnReq.get? q = none from h]

theorem routeL2capPdu_inside : r.StaysInside (r.routeL2capPdu? s p) (r.routeL2capPdu s p) := by
  refine .reading (.refl r) (fun h ↦ ?_) fun hdr q h ↦ ?_
  · rw [routeL2capPdu, show PacketContents.get 4 p = none from Option.map_eq_none_iff.mp h]
  · obtain ⟨⟨b, q'⟩, hget, hread⟩ := Option.map_eq_some_iff.mp h
    obtain ⟨rfl, rfl⟩ := Prod.mk.inj hread
    rw [routeL2capPdu, show PacketContents.get 4 p = some (b, q') from hget]
    dsimp only [Layout.l2capHdr]
    refine .ite (fun _ ↦ handleL2capCmd_inside r s q') fun _ ↦ ?_
    refine .reading (.refl r) (fun h ↦ ?_) fun payload rest h ↦ ?_
    · rw [show PacketContents.get (le16 b 0).toNat q' = none from Option.map_eq_none_iff.mp h]
    · obtain ⟨⟨b', rest'⟩, hget', hread'⟩ := Option.map_eq_some_iff.mp h
      obtain ⟨rfl, rfl⟩ := Prod.mk.inj hread'
      rw [show PacketContents.get (le16 b 0).toNat q' = some (b', rest') from hget']
      exact .done _ _

end signalling

/-! ## ACL packets -/

section acl

variable (r : Relay) (s : ConnectionSide)

/-- A continuation: what was put together is routed from its buffer. -/
def handleAclCont? (handle : UInt16) (payload : List UInt8) : Option (Relay × Bool) :=
  match (r.h s).links.aclReasm handle with
  | none => some (r, false)
  | some re =>
    let buf := re.buf ++ payload
    let r := r.setReasm s handle (some ⟨buf, re.expected⟩)
    if buf.length < re.expected then some (r, false)
    else do
      let (r, short) ← (r.emit (.routed s handle (buf.take re.expected))).routeL2capPdu? s (buf.take re.expected)
      return (r.setReasm s handle none, short)

/-- A start: its length field is read if it is there. -/
def handleAclStart? (handle : UInt16) (payload : List UInt8) : Option (Relay × Bool) :=
  let r := r.setReasm s handle none
  if payload.length < 4 then some (r, true)
  else do
    let len ← le16? payload 0
    let expected := 4 + len.toNat
    if expected ≤ payload.length then
      (r.emit (.routed s handle (payload.take expected))).routeL2capPdu? s (payload.take expected)
    else if L2CAP_MAX_PDU < expected then return (r, false)
    else return (r.setReasm s handle (some ⟨payload, expected⟩), false)

def handleAcl? (p : PacketContents) : Option (Relay × Bool) :=
  r.reading (Layout.hciAclHdr.get? p) fun handleField payload ↦
    let handle := handleField &&& 0x0fff
    let pb := (handleField >>> 12) &&& 0x3
    if handle ∉ (r.h s).links.openHandles then some (r.handleGhost s handle, false)
    else if payload.isEmpty then some (r, true)
    else if pb = ACL_PB_CONT then r.handleAclCont? s handle payload
    else r.handleAclStart? s handle payload

def handleBluetoothData? (packet : List UInt8) : Option (Relay × Bool) :=
  r.reading ((Layout.bytes 1).get? packet) fun indicator p ↦ do
    let indicator ← byte? indicator 0
    if indicator = HCI_EVENT_PKT then r.handleEvent? s p
    else if indicator = HCI_ACLDATA_PKT then r.handleAcl? s p
    else return (r, false)

theorem keepsState_setReasm (handle : UInt16) (re : Option AclReasm) :
    r.KeepsState (r.setReasm s handle re) := by
  refine ⟨fun t ↦ ?_, fun t ↦ ?_, fun t ↦ ?_, fun t ↦ ?_⟩ <;> cases s <;> cases t <;> rfl

theorem routePdu_inside (handle : UInt16) (pdu : List UInt8) :
    r.StaysInside ((r.emit (.routed s handle pdu)).routeL2capPdu? s pdu) (r.routePdu s handle pdu) := by
  have hkept : r.KeepsState (r.emit (.routed s handle pdu)) :=
    ⟨fun _ ↦ rfl, fun _ ↦ rfl, fun _ ↦ rfl, fun _ ↦ rfl⟩
  exact .of_keeps hkept (routeL2capPdu_inside _ s pdu)

theorem handleAclCont_inside (handle : UInt16) (payload : List UInt8) :
    r.StaysInside (r.handleAclCont? s handle payload) (r.handleAclCont s handle payload) := by
  rw [handleAclCont?, handleAclCont]
  cases (r.h s).links.aclReasm handle with
  | none => exact .done r r
  | some re =>
    dsimp only
    set r₁ := r.setReasm s handle (some ⟨re.buf ++ payload, re.expected⟩) with hr₁
    refine .ite (fun _ ↦ .done _ _) fun _ ↦ ?_
    obtain ⟨short, hroute, hkept⟩ := routePdu_inside r₁ s handle ((re.buf ++ payload).take re.expected)
    refine ⟨short, ?_, fun hshort ↦ ?_⟩
    · rw [hroute]
      rfl
    · exact ((keepsState_setReasm r s handle _).trans (hkept hshort)).trans (keepsState_setReasm _ s handle none)

theorem handleAclStart_inside (handle : UInt16) (payload : List UInt8) :
    r.StaysInside (r.handleAclStart? s handle payload) (r.handleAclStart s handle payload) := by
  rw [handleAclStart?, handleAclStart]
  have hkept := keepsState_setReasm r s handle none
  refine .ite (fun _ ↦ .short hkept) fun hlen ↦ ?_
  rw [le16?_of_lt (by omega)]
  refine .of_keeps hkept ?_
  dsimp only [bind, Option.bind_some]
  exact .ite (fun _ ↦ routePdu_inside _ s handle _) fun _ ↦ .ite (fun _ ↦ .done _ _) fun _ ↦ .done _ _

theorem handleAcl_inside (p : PacketContents) : r.StaysInside (r.handleAcl? s p) (r.handleAcl s p) := by
  refine .reading (.refl r) (fun h ↦ ?_) fun field payload h ↦ ?_
  · rw [handleAcl, show PacketContents.get 4 p = none from Option.map_eq_none_iff.mp h]
  · obtain ⟨⟨b, q⟩, hget, hread⟩ := Option.map_eq_some_iff.mp h
    obtain ⟨rfl, rfl⟩ := Prod.mk.inj hread
    rw [handleAcl, show PacketContents.get 4 p = some (b, q) from hget]
    dsimp only [Layout.hciAclHdr]
    refine .ite (fun _ ↦ .done _ _) fun _ ↦ ?_
    refine .ite (fun _ ↦ .short (.refl r)) fun _ ↦ ?_
    exact .ite (fun _ ↦ handleAclCont_inside r s _ q) fun _ ↦ handleAclStart_inside r s _ q

end acl

end Relay

/-- **Every packet is parsed inside its bounds.**  Whatever the bytes of a packet are, and however many,
every read of `handle_bluetooth_data` and of the handlers behind it is inside the packet or inside the
PDU put together, and a handler that meets a short one leaves links, channels and accounting alone. -/
theorem packet_reads_inside (r : Relay) (s : ConnectionSide) (packet : List UInt8) :
    r.StaysInside (r.handleBluetoothData? s packet) (r.handleBluetoothData s packet) := by
  refine .reading (.refl r) (fun h ↦ ?_) fun indicator p h ↦ ?_
  · rw [handleBluetoothData, show PacketContents.get 1 packet = none from Option.map_eq_none_iff.mp h]
  · obtain ⟨⟨b, q⟩, hget, hread⟩ := Option.map_eq_some_iff.mp h
    obtain ⟨rfl, rfl⟩ := Prod.mk.inj hread
    obtain ⟨hlen, hb, -⟩ := PacketContents.get_eq_some hget
    have hone : 0 < b.length := by
      rw [hb, List.length_take]
      exact Nat.lt_min.mpr ⟨Nat.one_pos, hlen⟩
    rw [handleBluetoothData, show PacketContents.get 1 packet = some (b, q) from hget]
    dsimp only [Layout.bytes, bind, Option.bind_some]
    rw [byte?_of_lt hone]
    dsimp only [Option.bind_some]
    exact .ite (fun _ ↦ handleEvent_inside r s q) fun _ ↦
      .ite (fun _ ↦ handleAcl_inside r s q) fun _ ↦ .done r r

end DualSenseMitm
