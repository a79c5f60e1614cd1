import DualSenseMitm.Common.BdAddr

/-!
# A cursor over one packet

`PacketContents` is what is left of a packet behind the cursor.  Every accessor checks that the
bytes are there, and a short read leaves the caller with nothing to act on.

Behind it stand the structures the controller's events and the L2CAP signalling commands are made
of, with the fields the handlers read.
-/

set_option autoImplicit false

namespace DualSenseMitm

open Bytes

/-- The bytes behind the cursor. -/
abbrev PacketContents := List UInt8

namespace PacketContents

/-- The next `n` bytes and the cursor behind them, if they are all there. -/
def get (n : ℕ) (p : PacketContents) : Option (List UInt8 × PacketContents) :=
  if p.length < n then none else some (p.take n, p.drop n)

/-- A structure of `n` bytes at the cursor. -/
def getAs {α : Type} (n : ℕ) (read : List UInt8 → α) (p : PacketContents) :
    Option (α × PacketContents) :=
  (p.get n).map fun q ↦ (read q.1, q.2)

theorem get_eq_some {n : ℕ} {p a b : List UInt8} (h : get n p = some (a, b)) :
    n ≤ p.length ∧ a = p.take n ∧ b = p.drop n := by
  unfold get at h
  split at h
  · cases h
  · rename_i hlen
    cases h
    exact ⟨Nat.not_lt.mp hlen, rfl, rfl⟩

theorem get_append {a : List UInt8} {n : ℕ} (hn : a.length = n) (b : PacketContents) :
    get n (a ++ b) = some (a, b) := by
  subst hn
  simp [get]

end PacketContents

/-! ## Events -/

/-- `evt_conn_complete`. -/
structure EvtConnComplete where
  status : UInt8
  handle : UInt16
  bdaddr : BdAddr

def EvtConnComplete.get? : PacketContents → Option (EvtConnComplete × PacketContents) :=
  PacketContents.getAs 11 fun b ↦ ⟨byteAt b 0, le16 b 1, BdAddr.read b 3⟩

/-- `evt_conn_request`. -/
structure EvtConnRequest where
  bdaddr : BdAddr

def EvtConnRequest.get? : PacketContents → Option (EvtConnRequest × PacketContents) :=
  PacketContents.getAs 10 fun b ↦ ⟨BdAddr.read b 0⟩

/-- `evt_disconn_complete`. -/
structure EvtDisconnComplete where
  status : UInt8
  handle : UInt16
  reason : UInt8

def EvtDisconnComplete.get? : PacketContents → Option (EvtDisconnComplete × PacketContents) :=
  PacketContents.getAs 4 fun b ↦ ⟨byteAt b 0, le16 b 1, byteAt b 3⟩

/-- `evt_auth_complete`. -/
structure EvtAuthComplete where
  status : UInt8
  handle : UInt16

def EvtAuthComplete.get? : PacketContents → Option (EvtAuthComplete × PacketContents) :=
  PacketContents.getAs 3 fun b ↦ ⟨byteAt b 0, le16 b 1⟩

/-- `evt_encrypt_change`. -/
structure EvtEncryptChange where
  status : UInt8
  handle : UInt16
  encrypt : UInt8

def EvtEncryptChange.get? : PacketContents → Option (EvtEncryptChange × PacketContents) :=
  PacketContents.getAs 4 fun b ↦ ⟨byteAt b 0, le16 b 1, byteAt b 3⟩

/-- `evt_cmd_complete`. -/
structure EvtCmdComplete where
  ncmd : UInt8
  opcode : UInt16

def EvtCmdComplete.get? : PacketContents → Option (EvtCmdComplete × PacketContents) :=
  PacketContents.getAs 3 fun b ↦ ⟨byteAt b 0, le16 b 1⟩

/-- `evt_cmd_status`. -/
structure EvtCmdStatus where
  status : UInt8
  ncmd : UInt8
  opcode : UInt16

def EvtCmdStatus.get? : PacketContents → Option (EvtCmdStatus × PacketContents) :=
  PacketContents.getAs 4 fun b ↦ ⟨byteAt b 0, byteAt b 1, le16 b 2⟩

/-- `evt_mode_change`. -/
structure EvtModeChange where
  status : UInt8
  handle : UInt16
  mode : UInt8

def EvtModeChange.get? : PacketContents → Option (EvtModeChange × PacketContents) :=
  PacketContents.getAs 6 fun b ↦ ⟨byteAt b 0, le16 b 1, byteAt b 3⟩

/-- The address an event starts with: all that is read of a link key, an IO capability and a user
confirmation request. -/
def evtBdAddr? (size : ℕ) : PacketContents → Option (BdAddr × PacketContents) :=
  PacketContents.getAs size fun b ↦ BdAddr.read b 0

/-- `evt_link_key_notify`. -/
structure EvtLinkKeyNotify where
  bdaddr : BdAddr
  linkKey : LinkKey

def EvtLinkKeyNotify.get? : PacketContents → Option (EvtLinkKeyNotify × PacketContents) :=
  PacketContents.getAs 23 fun b ↦ ⟨BdAddr.read b 0, LinkKey.read b 6⟩

/-! ## L2CAP signalling -/

/-- `l2cap_cmd_hdr`, less its length field, which nothing reads. -/
structure L2capCmdHdr where
  code : UInt8
  ident : UInt8

def L2capCmdHdr.get? : PacketContents → Option (L2capCmdHdr × PacketContents) :=
  PacketContents.getAs 4 fun b ↦ ⟨byteAt b 0, byteAt b 1⟩

/-- `l2cap_conn_req`. -/
structure L2capConnReq where
  psm : UInt16
  scid : UInt16

def L2capConnReq.get? : PacketContents → Option (L2capConnReq × PacketContents) :=
  PacketContents.getAs 4 fun b ↦ ⟨le16 b 0, le16 b 2⟩

/-- `l2cap_conn_rsp`. -/
structure L2capConnRsp where
  dcid : UInt16
  scid : UInt16
  result : UInt16

def L2capConnRsp.get? : PacketContents → Option (L2capConnRsp × PacketContents) :=
  PacketContents.getAs 8 fun b ↦ ⟨le16 b 0, le16 b 2, le16 b 4⟩

/-- `l2cap_conf_req`, less its flags. -/
structure L2capConfReq where
  dcid : UInt16

def L2capConfReq.get? : PacketContents → Option (L2capConfReq × PacketContents) :=
  PacketContents.getAs 4 fun b ↦ ⟨le16 b 0⟩

/-- `l2cap_conf_rsp`, less its flags and result. -/
structure L2capConfRsp where
  scid : UInt16

def L2capConfRsp.get? : PacketContents → Option (L2capConfRsp × PacketContents) :=
  PacketContents.getAs 6 fun b ↦ ⟨le16 b 0⟩

/-- `l2cap_disconn_req`. -/
structure L2capDisconnReq where
  dcid : UInt16
  scid : UInt16

def L2capDisconnReq.get? : PacketContents → Option (L2capDisconnReq × PacketContents) :=
  PacketContents.getAs 4 fun b ↦ ⟨le16 b 0, le16 b 2⟩

end DualSenseMitm
