import DualSenseMitm.Bluetooth.HidRelay
import DualSenseMitm.Bluetooth.Sdp

/-!
# ACL in: reassembly and routing

`handleAcl` takes one ACL packet.  A start opens a PDU and a continuation adds to it, link by link,
and a PDU that is complete goes to `routeL2capPdu`, which decides by channel and by the peer this
handler faces who handles it.
-/

set_option autoImplicit false

namespace DualSenseMitm

open Bytes

namespace Relay

/-- The handler of a payload that arrived on the channel `cid`. -/
def routePayload (r : Relay) (s : ConnectionSide) (cid : UInt16) (payload : List UInt8) : Relay :=
  if cid = Channel.hidControl.scid then
    match s with
    | .toDualsense => r.handleFeatureAnswerFromPad s payload
    | .toPlaystation => r.handleFeatureRequestFromConsole s payload
  else if cid = Channel.hidInterrupt.scid then
    match s with
    | .toDualsense => r.relayPadInput s payload
    | .toPlaystation => r.relayConsoleOutputToPad s payload
  else if cid = Channel.sdpClient.scid then r.handleSdpAnswerFromPad s payload
  else if cid = Channel.hidSdp.scid then r.handleSdpQuery s payload
  else r

/-- `route_l2cap_pdu`. -/
def routeL2capPdu (r : Relay) (s : ConnectionSide) (pdu : List UInt8) : Relay :=
  match PacketContents.get 4 pdu with
  | none => r
  | some (hdr, p) =>
    let len := le16 hdr 0
    let cid := le16 hdr 2
    if cid = L2CAP_CID_SIGNALLING then r.handleL2capCmd s p
    else
      match PacketContents.get len.toNat p with
      | none => r
      | some (payload, _) => if payload.isEmpty then r else r.routePayload s cid payload

/-- A complete PDU of the link `handle` is routed. -/
def routePdu (r : Relay) (s : ConnectionSide) (handle : UInt16) (pdu : List UInt8) : Relay :=
  (r.emit (.routed s handle pdu)).routeL2capPdu s pdu

def setReasm (r : Relay) (s : ConnectionSide) (handle : UInt16) (re : Option AclReasm) : Relay :=
  r.onLinks s fun l ↦ { l with aclReasm := Function.update l.aclReasm handle re }

/-- The first packet on a link this run never opened asks the controller to drop it. -/
def handleGhost (r : Relay) (s : ConnectionSide) (handle : UInt16) : Relay :=
  if handle ∈ (r.h s).links.ghostHandles then r
  else
    (r.onLinks s fun l ↦ { l with ghostHandles := insert handle l.ghostHandles }).disconnect s
      handle

/-- A continuation: the payload is added to the open PDU, and routed once that is complete. -/
def handleAclCont (r : Relay) (s : ConnectionSide) (handle : UInt16) (payload : List UInt8) :
    Relay :=
  match (r.h s).links.aclReasm handle with
  | none => r
  | some re =>
    let buf := re.buf ++ payload
    let r := r.setReasm s handle (some ⟨buf, re.expected⟩)
    if buf.length < re.expected then r
    else (r.routePdu s handle (buf.take re.expected)).setReasm s handle none

/-- A start: whatever was open is dropped, and a PDU that is not whole waits for the rest. -/
def handleAclStart (r : Relay) (s : ConnectionSide) (handle : UInt16) (payload : List UInt8) :
    Relay :=
  let r := r.setReasm s handle none
  if payload.length < 4 then r
  else
    let expected := 4 + (le16 payload 0).toNat
    if expected ≤ payload.length then r.routePdu s handle (payload.take expected)
    else if L2CAP_MAX_PDU < expected then r
    else r.setReasm s handle (some ⟨payload, expected⟩)

/-- `handle_acl`. -/
def handleAcl (r : Relay) (s : ConnectionSide) (p : PacketContents) : Relay :=
  match PacketContents.get 4 p with
  | none => r
  | some (hdr, payload) =>
    let handleField := le16 hdr 0
    let handle := handleField &&& 0x0fff
    let pb := (handleField >>> 12) &&& 0x3
    if handle ∉ (r.h s).links.openHandles then r.handleGhost s handle
    else if payload.isEmpty then r
    else if pb = ACL_PB_CONT then r.handleAclCont s handle payload
    else r.handleAclStart s handle payload

end Relay

end DualSenseMitm
