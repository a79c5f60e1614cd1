import DualSenseMitm.Bluetooth.Handover

/-!
# Events from the controller

Connections made, refused and lost, pairing and authentication, command status and completion, and
the buffer counts the flow control runs on.  Each handler parses its event and does nothing on a
short one.
-/

set_option autoImplicit false

namespace DualSenseMitm

open Bytes

namespace Relay

/-! ## Paging again -/

/-- `schedule_reconnect`: at most one timer at a time. -/
def scheduleReconnect (r : Relay) (s : ConnectionSide) (delay : Time) : Relay :=
  if (r.h s).paging.reconnectPending then r
  else (r.onPaging s fun p ↦ { p with reconnectPending := true }).spawn (.reconnect s delay)

/-- The end of the coroutine of `schedule_reconnect`. -/
def fireReconnect (r : Relay) (s : ConnectionSide) : Relay :=
  let r := r.onPaging s fun p ↦ { p with reconnectPending := false }
  if (r.h s).links.connectionHandle ≠ 0 then r
  else r.sendConnectionRequest s (r.h s).pairing.btAddr

/-- How long to wait before the next call to a console that did not answer. -/
def backoff (pageFailures : Int) : Time :=
  seconds (if pageFailures < 3 then 3 else if pageFailures < 6 then 10 else 20)

/-- `handle_connection_failure`. -/
def handleConnectionFailure (r : Relay) (s : ConnectionSide) (e : EvtConnComplete) : Relay :=
  let btAddr := (r.h s).pairing.btAddr
  if btAddr.isSet ∧ e.bdaddr = btAddr then
    match s with
    | .toDualsense =>
      if e.status = HCI_PAGE_TIMEOUT ∨ e.status = HCI_REJECTED_PERSONAL then
        r.scheduleReconnect s (seconds 3)
      else r
    | .toPlaystation =>
      let r := r.onPaging s fun p ↦ { p with pageFailures := p.pageFailures + 1 }
      let since := (r.h s).paging.handoverPagingSince
      if since = noTime then r.scheduleReconnect s (backoff (r.h s).paging.pageFailures)
      else if HANDOVER_PAGE_WINDOW ≤ r.now - since then
        let r := (r.advance 1).endHandoverPaging s
        r.scheduleReconnect s (backoff (r.h s).paging.pageFailures)
      else if e.status = HCI_PAGE_TIMEOUT then (r.advance 1).scheduleReconnect s (milliseconds 0)
      else (r.advance 1).scheduleReconnect s (backoff (r.h s).paging.pageFailures)
  else r

/-! ## Connections -/

/-- `reset_channels`. -/
def resetChannels (r : Relay) (s : ConnectionSide) : Relay :=
  r.onChannels s fun c ↦
    { c with
      dcid := fun _ ↦ 0
      consoleFullReports := false
      consoleInputSeen := false
      consoleOutputSeen := false }

/-- The start of `handle_connection_complete`: a page of ours that is over lets the console-facing
adapter listen again, and a failed call we had accepted is consumed. -/
def pageOver (r : Relay) (s : ConnectionSide) (status : UInt8) : Relay :=
  let failedIncoming := status ≠ HCI_SUCCESS ∧ (r.h s).links.acceptedIncoming
  if failedIncoming then r.onLinks s fun l ↦ { l with acceptedIncoming := false }
  else if s = .toDualsense ∧ r.linked ∧ (r.h s.other).paging.scanSuppressed then
    (r.onPaging s.other fun p ↦ { p with scanSuppressed := false }).writeScanEnable s.other
      SCAN_PAGE_ONLY
  else r

/-- The peer moved to another link: its channels start over. -/
def leaveOldLink (r : Relay) (s : ConnectionSide) (handle : UInt16) : Relay :=
  let current := (r.h s).links.connectionHandle
  if current ≠ 0 ∧ current ≠ handle then
    (r.resetChannels s).onLinks s fun l ↦ { l with linkSniffing := false, onPlayLink := true }
  else r

/-- `handle_connection_complete`. -/
def handleConnectionComplete (r : Relay) (s : ConnectionSide) (p : PacketContents) : Relay :=
  match EvtConnComplete.get? p with
  | none => r
  | some (e, _) =>
    let r := r.pageOver s e.status
    if e.status ≠ HCI_SUCCESS then r.handleConnectionFailure s e
    else
      let r := r.leaveOldLink s e.handle
      let r := r.onLinks s fun l ↦
        { l with
          connectionHandle := e.handle
          linkPeerAddr := e.bdaddr
          openHandles := insert e.handle l.openHandles }
      let r := r.onPaging s fun p ↦ { p with pageFailures := 0 }
      let r := r.endHandoverPaging s
      let r :=
        if s = .toDualsense then
          r.writePageScanActivity s PAGE_SCAN_INTERVAL_NORMAL PAGE_SCAN_WINDOW_NORMAL
        else r
      let r := r.onLinks s fun l ↦
        { l with incomingLink := l.acceptedIncoming, acceptedIncoming := false }
      -- on a link the peer opened, the peer drives authentication
      if (r.h s).links.incomingLink then r else r.requestAuthentication s e.handle

/-- `handle_disconnect_complete`. -/
def handleDisconnectComplete (r : Relay) (s : ConnectionSide) (p : PacketContents) : Relay :=
  match EvtDisconnComplete.get? p with
  | none => r
  | some (e, _) =>
    let r := r.onLinks s fun l ↦
      { l with
        openHandles := l.openHandles.erase e.handle
        ghostHandles := l.ghostHandles.erase e.handle
        aclReasm := Function.update l.aclReasm e.handle none }
    let r := r.onAcl s fun a ↦ a.onDisconnect e.handle
    -- the other link, or a stale handle of an earlier run
    if e.handle ≠ (r.h s).links.connectionHandle then r
    else
      let r := r.onLinks s fun l ↦ { l with linkSniffing := false }
      let r := r.onHeld s fun h ↦ h.clear
      let r :=
        match s with
        | .toDualsense => r.writePageScanActivity s PAGE_SCAN_INTERVAL_EAGER PAGE_SCAN_WINDOW_EAGER
        | .toPlaystation =>
          ((r.onLinks s fun l ↦ { l with onPlayLink := false }).writePageScanActivity s
            PAGE_SCAN_INTERVAL_EAGER PAGE_SCAN_WINDOW_EAGER).writeScanEnable s SCAN_PAGE_ONLY
      let r := r.onLinks s fun l ↦ { l with connectionHandle := 0, incomingLink := false }
      let r := r.resetChannels s
      if s = .toPlaystation ∧ e.reason = DISCONNECT_REMOTE_USER then
        r.scheduleReconnect s (seconds 20)
      else r.scheduleReconnect s (seconds 3)

/-- `handle_conn_request`. -/
def handleConnRequest (r : Relay) (s : ConnectionSide) (p : PacketContents) : Relay :=
  match EvtConnRequest.get? p with
  | none => r
  | some (e, _) =>
    let expected :=
      match s with
      | .toDualsense => (r.h s).pairing.btAddr
      | .toPlaystation => (r.h s).pairing.consoleAddr
    if expected.isSet ∧ e.bdaddr.sameRadio expected then
      (r.onLinks s fun l ↦ { l with acceptedIncoming := true }).sendCmd s OGF_LINK_CTL
        OCF_ACCEPT_CONN_REQ (e.bdaddr.bytes ++ [0x01]) "accept connection"
    else
      r.sendCmd s OGF_LINK_CTL OCF_REJECT_CONN_REQ (e.bdaddr.bytes ++ [0x0f]) "reject connection"

/-- `handle_mode_change`. -/
def handleModeChange (r : Relay) (s : ConnectionSide) (p : PacketContents) : Relay :=
  match EvtModeChange.get? p with
  | none => r
  | some (e, _) =>
    if e.status = HCI_SUCCESS ∧ e.handle = (r.h s).links.connectionHandle then
      r.onLinks s fun l ↦ { l with linkSniffing := e.mode == LINK_MODE_SNIFF }
    else r

/-! ## Pairing and authentication -/

/-- `handle_link_key_request`. -/
def handleLinkKeyRequest (r : Relay) (s : ConnectionSide) (p : PacketContents) : Relay :=
  match evtBdAddr? 6 p with
  | none => r
  | some (addr, _) =>
    match (r.h s).pairing.linkKey with
    | some key =>
      r.sendCmd s OGF_LINK_CTL OCF_LINK_KEY_REPLY (addr.bytes ++ key.val) "link key reply"
    | none => r.sendCmd s OGF_LINK_CTL OCF_LINK_KEY_NEG_REPLY addr.bytes "link key negative reply"

/-- `handle_io_capability_request`. -/
def handleIoCapabilityRequest (r : Relay) (s : ConnectionSide) (p : PacketContents) : Relay :=
  match evtBdAddr? 6 p with
  | none => r
  | some (addr, _) =>
    r.sendCmd s OGF_LINK_CTL OCF_IO_CAPABILITY_REPLY
      (addr.bytes ++ [0x03, 0x00, AUTH_GENERAL_BONDING]) "io capability reply"

/-- `handle_user_confirm_request`. -/
def handleUserConfirmRequest (r : Relay) (s : ConnectionSide) (p : PacketContents) : Relay :=
  match evtBdAddr? 10 p with
  | none => r
  | some (addr, _) =>
    r.sendCmd s OGF_LINK_CTL OCF_USER_CONFIRM_REPLY addr.bytes "user confirm reply"

/-- `handle_auth_complete`. -/
def handleAuthComplete (r : Relay) (s : ConnectionSide) (p : PacketContents) : Relay :=
  match EvtAuthComplete.get? p with
  | none => r
  | some (e, _) =>
    if e.status ≠ HCI_SUCCESS then
      if e.status = HCI_AUTHENTICATION_FAILURE ∨ e.status = HCI_PIN_OR_KEY_MISSING then
        let r := r.emit (.keyFailed s)
        if (r.h s).pairing.linkKey.isSome then
          let r := r.onPairing s fun p ↦ { p with linkKey := none }
          -- `on_link_key_rejected_` is set on the pad-facing handler alone
          if s = .toDualsense then r.emit .linkKeyRejected else r
        else r
      else r
    else
      match s with
      | .toPlaystation => r.requestEncryption s (r.h s).links.connectionHandle
      | .toDualsense => r.l2capSendConnRequest s .sdpClient

/-- `handle_encrypt_change`. -/
def handleEncryptChange (r : Relay) (s : ConnectionSide) (p : PacketContents) : Relay :=
  match EvtEncryptChange.get? p with
  | none => r
  | some (e, _) =>
    if e.status = HCI_SUCCESS ∧ s = .toDualsense ∧ e.encrypt ≠ 0 then
      let r := if r.dcid s .sdpClient = 0 then r.l2capSendConnRequest s .sdpClient else r
      if (r.h s).links.incomingLink then r.requestCentralRole s (r.h s).links.linkPeerAddr else r
    else r

/-- `handle_link_key_notify`. -/
def handleLinkKeyNotify (r : Relay) (s : ConnectionSide) (p : PacketContents) : Relay :=
  match EvtLinkKeyNotify.get? p with
  | none => r
  | some (e, _) =>
    let r := (r.emit (.keyNotified s e.bdaddr e.linkKey)).onPairing s fun p ↦
      { p with negotiatedLinkKey := e.linkKey }
    match s with
    | .toPlaystation =>
      (r.onPairing s fun p ↦
        { p with consoleLinkKey := e.linkKey, consolePairingSeen := true }).emit
          (.consolePairing (r.h s).pairing.btAddr e.linkKey)
    | .toDualsense => r.emit (.linkKeySaved e.linkKey)

/-! ## Commands answered -/

/-- An answer to any command: the controller has room again. -/
def commandAnswered (r : Relay) (s : ConnectionSide) (ncmd : UInt8) : Relay :=
  (r.onCmdQueue s fun q ↦ q.answered ncmd).pumpCommands s

/-- The handles the sweep of `handle_cmd_status` goes over. -/
def sweepHandles : List UInt16 := [1, 2, 3, 4, 5, 6, 7, 8, 9, 10, 11, 12]

/-- The sweep of `handle_cmd_status`: links left by an earlier run are dropped, once. -/
def sweepStaleLinks (r : Relay) (s : ConnectionSide) : Relay :=
  if (r.h s).paging.staleLinkReset then r
  else
    let r := r.onPaging s fun p ↦ { p with staleLinkReset := true, suppressCmdErrors := true }
    let r := sweepHandles.foldl (fun r handle ↦ r.disconnect s handle) r
    (r.spawn (.sweepDone s)).scheduleReconnect s (seconds 3)

/-- `handle_cmd_status`. -/
def handleCmdStatus (r : Relay) (s : ConnectionSide) (p : PacketContents) : Relay :=
  match EvtCmdStatus.get? p with
  | none => r
  | some (e, _) =>
    let r := r.commandAnswered s e.ncmd
    if e.status = HCI_ACL_CONNECTION_EXISTS ∧ e.opcode = cmdOpcodePack OGF_LINK_CTL OCF_CREATE_CONN
        ∧ (r.h s).links.connectionHandle = 0 then
      r.sweepStaleLinks s
    else r

/-- How many bits of a byte are set. -/
def popcount (b : UInt8) : ℕ := ((List.range 8).filter fun i ↦ b.toNat.testBit i).length

/-- `handle_cmd_complete`. -/
def handleCmdComplete (r : Relay) (s : ConnectionSide) (p : PacketContents) : Relay :=
  match EvtCmdComplete.get? p with
  | none => r
  | some (e, p) =>
    let r := r.commandAnswered s e.ncmd
    -- the answer's parameters, when `n` bytes of them are there and the status says success
    let result := fun n ↦ (p.get n).bind fun q ↦ if byteAt q.1 0 = HCI_SUCCESS then some q.1 else none
    if e.opcode = cmdOpcodePack OGF_INFO_PARAM OCF_READ_BUFFER_SIZE then
      match result 7 with
      | none => r
      | some b => r.onAcl s fun a ↦ a.setMaxPackets (le16 b 4)
    else if e.opcode = cmdOpcodePack OGF_STATUS_PARAM OCF_READ_LINK_QUALITY then
      match result 4 with
      | none => r
      | some b => r.onRadio s fun d ↦ { d with linkQuality := byteAt b 3, radioRead := true }
    else if e.opcode = cmdOpcodePack OGF_STATUS_PARAM OCF_READ_RSSI then
      match result 4 with
      | none => r
      | some b => r.onRadio s fun d ↦ { d with linkRssi := (byteAt b 3).toInt8, radioRead := true }
    else if e.opcode = cmdOpcodePack OGF_STATUS_PARAM OCF_READ_AFH_MAP then
      match result 14 with
      | none => r
      | some b =>
        r.onRadio s fun d ↦
          { d with
            afhEnabled := byteAt b 3 != 0
            afhChannels := UInt8.ofNat ((slice b 4 10).foldl (fun n x ↦ n + popcount x) 0)
            radioRead := true }
    else r

/-- `handle_num_completed_packets`. -/
def handleNumCompletedPackets (r : Relay) (s : ConnectionSide) (plen : UInt8) (p : PacketContents) :
    Relay :=
  if plen < 1 then r
  else
    match PacketContents.get plen.toNat p with
    | none => r
    | some (body, _) =>
      ((r.onAcl s fun a ↦ a.onNumCompleted (fun k ↦ r.env.clock (r.tick + k)) body).advance
        (byteAt body 0).toNat).flushHeldReport s

/-! ## Dispatch -/

/-- `handle_event`. -/
def handleEvent (r : Relay) (s : ConnectionSide) (p : PacketContents) : Relay :=
  match PacketContents.get 2 p with
  | none => r
  | some (hdr, p) =>
    let evt := byteAt hdr 0
    if evt = EVT_CONN_COMPLETE then r.handleConnectionComplete s p
    else if evt = EVT_LINK_KEY_REQ then r.handleLinkKeyRequest s p
    else if evt = EVT_IO_CAPABILITY_REQUEST then r.handleIoCapabilityRequest s p
    else if evt = EVT_USER_CONFIRM_REQUEST then r.handleUserConfirmRequest s p
    else if evt = EVT_AUTH_COMPLETE then r.handleAuthComplete s p
    else if evt = EVT_ENCRYPT_CHANGE then r.handleEncryptChange s p
    else if evt = EVT_NUM_COMP_PKTS then r.handleNumCompletedPackets s (byteAt hdr 1) p
    else if evt = EVT_MODE_CHANGE then r.handleModeChange s p
    else if evt = EVT_CMD_COMPLETE then r.handleCmdComplete s p
    else if evt = EVT_CMD_STATUS then r.handleCmdStatus s p
    else if evt = EVT_LINK_KEY_NOTIFY then r.handleLinkKeyNotify s p
    else if evt = EVT_CONN_REQUEST then r.handleConnRequest s p
    else if evt = EVT_DISCONN_COMPLETE then r.handleDisconnectComplete s p
    else r

end Relay

end DualSenseMitm
