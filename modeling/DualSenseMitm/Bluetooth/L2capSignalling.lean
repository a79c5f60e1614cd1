import DualSenseMitm.Bluetooth.HciCommands
import DualSenseMitm.Dualsense.Transforms

/-!
# L2CAP: building frames, and the signalling channel

`l2capSendFrame` is the one place an outgoing frame is built, always on the link the handler relays
on.  `handleL2capCmd` handles a signalling command: the peer's requests to open, configure and close
channels, and its answers to ours.
-/

set_option autoImplicit false

namespace DualSenseMitm

open Bytes

/-- The ACL frame of a payload, with its L2CAP header. -/
def aclFrame (handle cid : UInt16) (payload : List UInt8) : List UInt8 :=
  HCI_ACLDATA_PKT :: put16 (aclHeaderHandle handle ACL_START_FLUSHABLE)
    ++ put16 (UInt16.ofNat (4 + payload.length)) ++ put16 (UInt16.ofNat payload.length) ++ put16 cid
    ++ payload

/-- A payload whose frame, with the packet indicator and both headers, does not fit
`write_buffer_`. -/
def tooLarge (payload : List UInt8) : Bool := decide (4096 < 1 + 4 + 4 + payload.length)

/-- The handle a frame carries. -/
def frameHandle (frame : List UInt8) : UInt16 := le16 frame 1 &&& 0x0fff

theorem frameHandle_aclFrame (handle cid : UInt16) (payload : List UInt8) :
    frameHandle (aclFrame handle cid payload) = handle &&& 0x0fff := by
  have hfield : le16 (aclFrame handle cid payload) 1
      = aclHeaderHandle handle ACL_START_FLUSHABLE := by
    simp only [aclFrame, List.cons_append, List.append_assoc]
    exact (le16_append_right [HCI_ACLDATA_PKT] _ 0).trans (le16_put16_append _ _)
  have hdistrib : ∀ a b c : UInt16, (a ||| b) &&& c = (a &&& c) ||| (b &&& c) := fun _ _ _ ↦
    UInt16.toBitVec_inj.mp BitVec.and_or_distrib_right
  rw [frameHandle, hfield, aclHeaderHandle, hdistrib, UInt16.and_assoc]
  exact UInt16.or_zero

/-- The channel a frame is for. -/
theorem le16_aclFrame_cid (handle cid : UInt16) (payload : List UInt8) :
    le16 (aclFrame handle cid payload) 7 = cid := le16_put16_append cid payload

/-- A handle of twelve bits is carried as it is. -/
theorem and_0fff_of_lt {handle : UInt16} (h : handle < 0x1000) : handle &&& 0x0fff = handle := by
  rw [← UInt16.toNat_inj, UInt16.toNat_and]
  exact (Nat.and_two_pow_sub_one_eq_mod _ 12).trans (Nat.mod_eq_of_lt (UInt16.lt_iff_toNat_lt.mp h))

namespace Relay

/-! ## Sending -/

/-- `l2cap_send_frame`: the prefix rides in front of the data. -/
def l2capSendFrame (r : Relay) (s : ConnectionSide) (cid : UInt16) (pre data : List UInt8) : Relay :=
  let payload := pre ++ data
  if tooLarge payload then r
  else
    let links := (r.h s).links
    let ok := r.env.aclWrite r.tick
    let r := (r.advance 1).emit
      (.acl s (aclFrame links.connectionHandle cid payload) ok links.openHandles)
    if ok then r.onAcl s fun a ↦ a.onSent links.connectionHandle else r

/-- `l2cap_send_framed`: a channel that is not open takes nothing. -/
def l2capSendFramed (r : Relay) (s : ConnectionSide) (c : Channel) (pre data : List UInt8) :
    Relay :=
  if r.dcid s c = 0 then r else r.l2capSendFrame s (r.dcid s c) pre data

/-- `l2cap_send_data`. -/
def l2capSendData (r : Relay) (s : ConnectionSide) (c : Channel) (data : List UInt8) : Relay :=
  r.l2capSendFramed s c [] data

/-- `l2cap_send_hid`. -/
def l2capSendHid (r : Relay) (s : ConnectionSide) (c : Channel) (hidpHeader : UInt8)
    (data : List UInt8) : Relay :=
  r.l2capSendFramed s c [hidpHeader] data

/-- `l2cap_send_cmd`. -/
def l2capSendCmd (r : Relay) (s : ConnectionSide) (ident code : UInt8) (data : List UInt8) : Relay :=
  r.l2capSendFrame s L2CAP_CID_SIGNALLING
    ([code, ident] ++ put16 (UInt16.ofNat data.length)) data

/-- `l2cap_send_cmd_request`. -/
def l2capSendCmdRequest (r : Relay) (s : ConnectionSide) (code : UInt8) (data : List UInt8) :
    Relay :=
  let ident := (r.h s).channels.cmdRequestIdent
  (r.onChannels s fun c ↦ { c with cmdRequestIdent := ident + 1 }).l2capSendCmd s ident code data

/-- `l2cap_send_cmd_response`. -/
def l2capSendCmdResponse (r : Relay) (s : ConnectionSide) (ident code : UInt8)
    (data : List UInt8) : Relay :=
  r.l2capSendCmd s ident code data

/-- `l2cap_send_conn_request`. -/
def l2capSendConnRequest (r : Relay) (s : ConnectionSide) (c : Channel) : Relay :=
  r.l2capSendCmdRequest s L2CAP_CONN_REQ (put16 c.psm ++ put16 c.scid)

/-- `l2cap_send_configure_mtu_request`. -/
def l2capSendConfigureMtuRequest (r : Relay) (s : ConnectionSide) (dcid mtuSize : UInt16) : Relay :=
  r.l2capSendCmdRequest s L2CAP_CONF_REQ
    (put16 dcid ++ put16 0x00 ++ [L2CAP_CONF_MTU, 0x02] ++ put16 mtuSize)

/-! ## The peer's signalling commands -/

/-- `handle_conn_response`. -/
def handleConnResponse (r : Relay) (s : ConnectionSide) (p : PacketContents) : Relay :=
  match L2capConnRsp.get? p with
  | none => r
  | some (rsp, _) =>
    if rsp.result = L2CAP_CR_SUCCESS then
      match Channel.byScid rsp.scid with
      | none => r
      | some c => (r.setDcid s c rsp.dcid).l2capSendConfigureMtuRequest s rsp.dcid c.mtu
    else r

/-- The ServiceSearchAttribute request the pad is asked with. -/
def browse : List UInt8 := [
  0x06, 0x00, 0x01, 0x00, 0x0f, 0x35, 0x03, 0x19, 0x01, 0x00, 0x08, 0x00, 0x35, 0x05, 0x0a, 0x00,
  0x00, 0xff, 0xff, 0x00]

/-- `handle_conf_response`. -/
def handleConfResponse (r : Relay) (s : ConnectionSide) (p : PacketContents) : Relay :=
  match L2capConfRsp.get? p with
  | none => r
  | some (rsp, _) =>
    let r :=
      if rsp.scid = Channel.sdpClient.scid ∧ s = .toDualsense then
        r.l2capSendData s .sdpClient browse
      else r
    if rsp.scid = Channel.hidInterrupt.scid ∧ s = .toDualsense then r.spawn (.startUsbGadget s)
    else r

/-- The end of `handle_conf_request`: one configured channel leads to the next, when we are the
caller. -/
def confRequestChain (r : Relay) (s : ConnectionSide) (c : Channel) : Relay :=
  if (r.h s).links.incomingLink then r
  else
    match s, c with
    | .toPlaystation, .hidControl =>
      if r.dcid s .hidInterrupt = 0 then
        r.spawn (.interruptFallback s (r.h s).links.connectionHandle)
      else r
    | .toPlaystation, _ => r
    | .toDualsense, .sdpClient => r.l2capSendConnRequest s .hidControl
    | .toDualsense, .hidControl => r.l2capSendConnRequest s .hidInterrupt
    | .toDualsense, _ => r

/-- `handle_conf_request`. -/
def handleConfRequest (r : Relay) (s : ConnectionSide) (p : PacketContents) : Relay :=
  match L2capConfReq.get? p with
  | none => r
  | some (req, p) =>
    match Channel.byScid req.dcid with
    | none => r
    | some c =>
      -- the first four bytes of the options are echoed, when they are there
      let option := ((p.get 4).map Prod.fst).getD []
      let rsp := put16 (r.dcid s c) ++ put16 0 ++ put16 0 ++ option
      (r.l2capSendCmdResponse s (r.h s).channels.currentCmdIdent L2CAP_CONF_RSP rsp).confRequestChain
        s c

/-- The answer to a peer that opens a channel. -/
def handleConnRequestL2cap (r : Relay) (s : ConnectionSide) (ident : UInt8) (p : PacketContents) :
    Relay :=
  match L2capConnReq.get? p with
  | none => r
  | some (req, _) =>
    match Channel.byPsm req.psm with
    | none =>
      r.l2capSendCmdResponse s ident L2CAP_CONN_RSP
        (put16 0 ++ put16 req.scid ++ put16 0x0002 ++ put16 0)
    | some c =>
      ((r.setDcid s c req.scid).l2capSendCmdResponse s ident L2CAP_CONN_RSP
        (put16 c.scid ++ put16 req.scid ++ put16 0 ++ put16 0)).l2capSendConfigureMtuRequest
        s req.scid c.mtu

/-- The answer to a peer that closes a channel. -/
def handleDisconnRequest (r : Relay) (s : ConnectionSide) (ident : UInt8) (p : PacketContents) :
    Relay :=
  match L2capDisconnReq.get? p with
  | none => r
  | some (req, _) =>
    r.l2capSendCmdResponse s ident L2CAP_DISCONN_RSP (put16 req.dcid ++ put16 req.scid)

/-- `handle_l2cap_cmd`. -/
def handleL2capCmd (r : Relay) (s : ConnectionSide) (p : PacketContents) : Relay :=
  match L2capCmdHdr.get? p with
  | none => r
  | some (hdr, p) =>
    let r := r.onChannels s fun c ↦ { c with currentCmdIdent := hdr.ident }
    if hdr.code = L2CAP_CONN_RSP then r.handleConnResponse s p
    else if hdr.code = L2CAP_CONF_RSP then r.handleConfResponse s p
    else if hdr.code = L2CAP_CONF_REQ then r.handleConfRequest s p
    else if hdr.code = L2CAP_CONN_REQ then r.handleConnRequestL2cap s hdr.ident p
    else if hdr.code = L2CAP_DISCONN_REQ then r.handleDisconnRequest s hdr.ident p
    else r

/-- The end of the fallback coroutine of `handle_conf_request`. -/
def fireInterruptFallback (r : Relay) (s : ConnectionSide) (link : UInt16) : Relay :=
  if (r.h s).links.connectionHandle = link ∧ r.dcid s .hidInterrupt = 0 then
    r.l2capSendConnRequest s .hidInterrupt
  else r

end Relay

end DualSenseMitm
