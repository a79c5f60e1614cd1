import DualSenseMitm.Bluetooth.Hci
import DualSenseMitm.Bluetooth.PacketContents
import DualSenseMitm.Lib.CheckedReads

/-!
# The layouts of the structures on the wire

`PacketContents.get` hands out a pointer to a structure, and its fields are read where it lies.  A `Layout`
is a structure's size with its reader, once as the handlers use it and once with every field's read
checked, and carries the proof that the fields lie inside the size.

* `Layout.get?_eq` — so a structure that was handed out is read inside the packet.
* `evtConnComplete` and its companions — the structures, with all the fields that are read of them.
-/

set_option autoImplicit false

namespace DualSenseMitm

open Bytes

/-- How a structure is read. -/
structure Layout (α : Type) where
  size : ℕ
  read : List UInt8 → α
  /-- The same with every read checked. -/
  read? : List UInt8 → Option α
  /-- No field reaches behind the size. -/
  inside : ∀ b, b.length = size → read? b = some (read b)

namespace Layout

variable {α : Type} (L : Layout α)

/-- The structure at the cursor, if the packet holds all of it. -/
def get : PacketContents → Option (α × PacketContents) := PacketContents.getAs L.size L.read

/-- The same with every read checked: nothing if a read lies outside. -/
def get? (p : PacketContents) : Option (Option (α × PacketContents)) :=
  match p.get L.size with
  | none => some none
  | some (b, rest) => (L.read? b).map fun a ↦ some (a, rest)

theorem get?_eq (p : PacketContents) : L.get? p = some (L.get p) := by
  rw [get?, get, PacketContents.getAs]
  cases h : p.get L.size with
  | none => rfl
  | some q =>
    obtain ⟨hlen, hb, -⟩ := PacketContents.get_eq_some (b := q.2) h
    have hsize : q.1.length = L.size := by rw [hb, List.length_take, Nat.min_eq_left hlen]
    dsimp only
    rw [L.inside q.1 hsize]
    rfl

end Layout

def BdAddr.read? (b : List UInt8) (off : ℕ) : Option BdAddr :=
  return ⟨← byte? b off, ← byte? b (off + 1), ← byte? b (off + 2), ← byte? b (off + 3), ← byte? b (off + 4),
    ← byte? b (off + 5)⟩

def LinkKey.read? (b : List UInt8) (off : ℕ) : Option LinkKey :=
  (slice? b off 16).map fun _ ↦ LinkKey.read b off

theorem BdAddr.read?_eq {b : List UInt8} {off : ℕ} (h : off + 5 < b.length) :
    BdAddr.read? b off = some (BdAddr.read b off) := by
  rw [read?, byte?_of_lt (by omega), byte?_of_lt (by omega), byte?_of_lt (by omega), byte?_of_lt (by omega),
    byte?_of_lt (by omega), byte?_of_lt h]
  rfl

theorem LinkKey.read?_eq {b : List UInt8} {off : ℕ} (h : off + 16 ≤ b.length) :
    LinkKey.read? b off = some (LinkKey.read b off) := by
  rw [read?, slice?_of_le h]
  rfl

namespace Layout

/-! ## Events -/

/-- `hci_event_hdr`: the code and the length. -/
def hciEventHdr : Layout (UInt8 × UInt8) where
  size := 2
  read b := (byteAt b 0, byteAt b 1)
  read? b := return (← byte? b 0, ← byte? b 1)
  inside b h := by
    rw [byte?_of_lt (by omega), byte?_of_lt (by omega)]
    rfl

def evtConnComplete : Layout EvtConnComplete where
  size := 11
  read b := ⟨byteAt b 0, le16 b 1, BdAddr.read b 3⟩
  read? b := return ⟨← byte? b 0, ← le16? b 1, ← BdAddr.read? b 3⟩
  inside b h := by
    rw [byte?_of_lt (by omega), le16?_of_lt (by omega), BdAddr.read?_eq (by omega)]
    rfl

def evtConnRequest : Layout EvtConnRequest where
  size := 10
  read b := ⟨BdAddr.read b 0⟩
  read? b := return ⟨← BdAddr.read? b 0⟩
  inside b h := by
    rw [BdAddr.read?_eq (by omega)]
    rfl

def evtDisconnComplete : Layout EvtDisconnComplete where
  size := 4
  read b := ⟨byteAt b 0, le16 b 1, byteAt b 3⟩
  read? b := return ⟨← byte? b 0, ← le16? b 1, ← byte? b 3⟩
  inside b h := by
    rw [byte?_of_lt (by omega), le16?_of_lt (by omega), byte?_of_lt (by omega)]
    rfl

def evtAuthComplete : Layout EvtAuthComplete where
  size := 3
  read b := ⟨byteAt b 0, le16 b 1⟩
  read? b := return ⟨← byte? b 0, ← le16? b 1⟩
  inside b h := by
    rw [byte?_of_lt (by omega), le16?_of_lt (by omega)]
    rfl

def evtEncryptChange : Layout EvtEncryptChange where
  size := 4
  read b := ⟨byteAt b 0, le16 b 1, byteAt b 3⟩
  read? b := return ⟨← byte? b 0, ← le16? b 1, ← byte? b 3⟩
  inside b h := by
    rw [byte?_of_lt (by omega), le16?_of_lt (by omega), byte?_of_lt (by omega)]
    rfl

def evtCmdComplete : Layout EvtCmdComplete where
  size := 3
  read b := ⟨byteAt b 0, le16 b 1⟩
  read? b := return ⟨← byte? b 0, ← le16? b 1⟩
  inside b h := by
    rw [byte?_of_lt (by omega), le16?_of_lt (by omega)]
    rfl

def evtCmdStatus : Layout EvtCmdStatus where
  size := 4
  read b := ⟨byteAt b 0, byteAt b 1, le16 b 2⟩
  read? b := return ⟨← byte? b 0, ← byte? b 1, ← le16? b 2⟩
  inside b h := by
    rw [byte?_of_lt (by omega), byte?_of_lt (by omega), le16?_of_lt (by omega)]
    rfl

/-- `evt_mode_change`; the interval is read for the log. -/
def evtModeChange : Layout EvtModeChange where
  size := 6
  read b := ⟨byteAt b 0, le16 b 1, byteAt b 3⟩
  read? b := do
    let _ ← le16? b 4
    return ⟨← byte? b 0, ← le16? b 1, ← byte? b 3⟩
  inside b h := by
    rw [le16?_of_lt (by omega), byte?_of_lt (by omega), le16?_of_lt (by omega), byte?_of_lt (by omega)]
    rfl

def evtBdAddr (size : ℕ) (hsize : 6 ≤ size) : Layout BdAddr where
  size := size
  read b := BdAddr.read b 0
  read? b := BdAddr.read? b 0
  inside b h := BdAddr.read?_eq (by omega)

def evtLinkKeyNotify : Layout EvtLinkKeyNotify where
  size := 23
  read b := ⟨BdAddr.read b 0, LinkKey.read b 6⟩
  read? b := return ⟨← BdAddr.read? b 0, ← LinkKey.read? b 6⟩
  inside b h := by
    rw [BdAddr.read?_eq (by omega), LinkKey.read?_eq (by omega)]
    rfl

/-- `evt_simple_pairing_complete`: only its status is read. -/
def evtSimplePairingComplete : Layout UInt8 where
  size := 7
  read b := byteAt b 0
  read? b := byte? b 0
  inside b h := byte?_of_lt (by omega)

/-- `evt_role_change`: the status and the role. -/
def evtRoleChange : Layout (UInt8 × UInt8) where
  size := 8
  read b := (byteAt b 0, byteAt b 7)
  read? b := return (← byte? b 0, ← byte? b 7)
  inside b h := by
    rw [byte?_of_lt (by omega), byte?_of_lt (by omega)]
    rfl

/-! ## The parameters of a completed command -/

/-- A status first, and the rest only on success. -/
def onSuccess {α : Type} (L : Layout α) (hsize : 0 < L.size) : Layout (Option α) where
  size := L.size
  read b := if byteAt b 0 = HCI_SUCCESS then some (L.read b) else none
  read? b := do
    if (← byte? b 0) = HCI_SUCCESS then return some (← L.read? b) else return none
  inside b h := by
    rw [byte?_of_lt (by omega), L.inside b h]
    dsimp only [bind, Option.bind_some]
    split <;> rfl

/-- Read Buffer Size: how many packets there are; how long one may be is read for the log. -/
def bufferSize : Layout UInt16 where
  size := 7
  read b := le16 b 4
  read? b := do
    let _ ← le16? b 1
    le16? b 4
  inside b h := by
    rw [le16?_of_lt (by omega), le16?_of_lt (by omega)]
    rfl

/-- Read Link Quality and Read RSSI: the value behind the handle. -/
def linkReading : Layout UInt8 where
  size := 4
  read b := byteAt b 3
  read? b := byte? b 3
  inside b h := byte?_of_lt (by omega)

/-- Read AFH Channel Map: the mode and the map. -/
def afhMap : Layout (UInt8 × List UInt8) where
  size := 14
  read b := (byteAt b 3, slice b 4 10)
  read? b := return (← byte? b 3, ← slice? b 4 10)
  inside b h := by
    rw [byte?_of_lt (by omega), slice?_of_le (by omega)]
    rfl

/-- Read BD_ADDR. -/
def localAddress : Layout BdAddr where
  size := 7
  read b := BdAddr.read b 1
  read? b := BdAddr.read? b 1
  inside b h := BdAddr.read?_eq (by omega)

/-! ## L2CAP -/

/-- `hci_acl_hdr`: the handle with its flags; the length is the peer's claim and not read. -/
def hciAclHdr : Layout UInt16 where
  size := 4
  read b := le16 b 0
  read? b := le16? b 0
  inside b h := le16?_of_lt (by omega)

/-- `l2cap_hdr`: the length and the channel. -/
def l2capHdr : Layout (UInt16 × UInt16) where
  size := 4
  read b := (le16 b 0, le16 b 2)
  read? b := return (← le16? b 0, ← le16? b 2)
  inside b h := by
    rw [le16?_of_lt (by omega), le16?_of_lt (by omega)]
    rfl

/-- Bytes that are handed on and not read here. -/
def bytes (n : ℕ) : Layout (List UInt8) where
  size := n
  read b := b
  read? b := some b
  inside _ _ := rfl

def l2capCmdHdr : Layout L2capCmdHdr where
  size := 4
  read b := ⟨byteAt b 0, byteAt b 1⟩
  read? b := return ⟨← byte? b 0, ← byte? b 1⟩
  inside b h := by
    rw [byte?_of_lt (by omega), byte?_of_lt (by omega)]
    rfl

def l2capConnReq : Layout L2capConnReq where
  size := 4
  read b := ⟨le16 b 0, le16 b 2⟩
  read? b := return ⟨← le16? b 0, ← le16? b 2⟩
  inside b h := by
    rw [le16?_of_lt (by omega), le16?_of_lt (by omega)]
    rfl

/-- `l2cap_conn_rsp`; the status is read for the log. -/
def l2capConnRsp : Layout L2capConnRsp where
  size := 8
  read b := ⟨le16 b 0, le16 b 2, le16 b 4⟩
  read? b := do
    let _ ← le16? b 6
    return ⟨← le16? b 0, ← le16? b 2, ← le16? b 4⟩
  inside b h := by
    rw [le16?_of_lt (by omega), le16?_of_lt (by omega), le16?_of_lt (by omega), le16?_of_lt (by omega)]
    rfl

def l2capConfReq : Layout L2capConfReq where
  size := 4
  read b := ⟨le16 b 0⟩
  read? b := return ⟨← le16? b 0⟩
  inside b h := by
    rw [le16?_of_lt (by omega)]
    rfl

def l2capConfRsp : Layout L2capConfRsp where
  size := 6
  read b := ⟨le16 b 0⟩
  read? b := return ⟨← le16? b 0⟩
  inside b h := by
    rw [le16?_of_lt (by omega)]
    rfl

def l2capDisconnReq : Layout L2capDisconnReq where
  size := 4
  read b := ⟨le16 b 0, le16 b 2⟩
  read? b := return ⟨← le16? b 0, ← le16? b 2⟩
  inside b h := by
    rw [le16?_of_lt (by omega), le16?_of_lt (by omega)]
    rfl

end Layout

end DualSenseMitm
