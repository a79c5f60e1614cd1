import DualSenseMitm.Bluetooth.L2capSignalling

/-!
# Service discovery

The console asks the controller for its service record and only the pad can answer it, so the
question is forwarded and the answer kept.
-/

set_option autoImplicit false

namespace DualSenseMitm

open Bytes

def SDP_ERROR_RESPONSE : UInt8 := 0x01
def SDP_SERVICE_SEARCH_REQUEST : UInt8 := 0x02
def SDP_SERVICE_SEARCH_RESPONSE : UInt8 := 0x03
def SDP_SERVICE_ATTRIBUTE_REQUEST : UInt8 := 0x04
def SDP_SERVICE_SEARCH_ATTR_REQUEST : UInt8 := 0x06
def SDP_INVALID_REQUEST_SYNTAX : UInt8 := 0x03

/-- The empty answer to a request of at least five bytes. -/
def emptySdpAnswer (request : List UInt8) : List UInt8 :=
  let pdu := byteAt request 0
  let txn := [byteAt request 1, byteAt request 2]
  if pdu = SDP_SERVICE_SEARCH_REQUEST then
    SDP_SERVICE_SEARCH_RESPONSE :: txn ++ [0x00, 0x05, 0x00, 0x00, 0x00, 0x00, 0x00]
  else if pdu = SDP_SERVICE_ATTRIBUTE_REQUEST ∨ pdu = SDP_SERVICE_SEARCH_ATTR_REQUEST then
    (pdu + 1) :: txn ++ [0x00, 0x05, 0x00, 0x02, 0x35, 0x00, 0x00]
  else SDP_ERROR_RESPONSE :: txn ++ [0x00, 0x02, 0x00, SDP_INVALID_REQUEST_SYNTAX]

namespace Relay

/-- `handle_sdp_answer_from_pad`. -/
def handleSdpAnswerFromPad (r : Relay) (s : ConnectionSide) (payload : List UInt8) : Relay :=
  if r.linked then
    let r := r.onStreams s.other fun st ↦ { st with sdpAnswerCache := payload }
    if r.dcid s.other .hidSdp ≠ 0 then r.l2capSendData s.other .hidSdp payload else r
  else r

/-- `handle_sdp_request`. -/
def handleSdpRequest (r : Relay) (s : ConnectionSide) (request : List UInt8) : Relay :=
  if request.length < 5 then r else r.l2capSendData s .hidSdp (emptySdpAnswer request)

/-- `handle_sdp_query`. -/
def handleSdpQuery (r : Relay) (s : ConnectionSide) (request : List UInt8) : Relay :=
  let cache := (r.h s).streams.sdpAnswerCache
  if s = .toPlaystation ∧ r.linked ∧ r.dcid s.other .sdpClient ≠ 0 then
    r.l2capSendData s.other .sdpClient request
  else if s = .toPlaystation ∧ 3 ≤ cache.length
      ∧ byteAt request 0 = SDP_SERVICE_SEARCH_ATTR_REQUEST then
    -- the record does not change, but the transaction id has to be the one the console used
    r.l2capSendData s .hidSdp ((cache.set 1 (byteAt request 1)).set 2 (byteAt request 2))
  else r.handleSdpRequest s request

end Relay

end DualSenseMitm
