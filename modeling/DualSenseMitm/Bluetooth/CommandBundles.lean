import DualSenseMitm.Bluetooth.ConfOptions

/-!
# Several commands in one PDU

A signalling PDU may carry several commands.  `handle_l2cap_cmd` takes the first one, and leaves its length
aside: a handler reads what it needs from whatever is there.

* `Signal.Covers` — a command that is as long as its handler reads.
* `first_command_handled` — such a command is handled as if it were alone, whatever follows it.
* `bundle_not_handled` — the commands behind the first are lost, and one that is too short takes bytes of
  the next.
-/

set_option autoImplicit false

namespace DualSenseMitm

open Bytes Tlv

/-- A signalling command whose length fits its field. -/
structure Signal where
  code : UInt8
  ident : UInt8
  data : List UInt8
  size : data.length < 65536

namespace Signal

def bytes (c : Signal) : List UInt8 := [c.code, c.ident] ++ put16 (UInt16.ofNat c.data.length) ++ c.data

/-- The commands of a PDU, one after the other. -/
def bundle (cs : List Signal) : List UInt8 := cs.flatMap bytes

/-- How many bytes the handler of a command reads, if they are there. -/
def reads (code : UInt8) : ℕ :=
  if code = L2CAP_CONN_RSP then 8
  else if code = L2CAP_CONF_RSP then 6
  else if code = L2CAP_CONF_REQ then 8
  else if code = L2CAP_CONN_REQ then 4
  else if code = L2CAP_DISCONN_REQ then 4
  else 0

/-- The command is as long as its handler reads. -/
def Covers (c : Signal) : Prop := reads c.code ≤ c.data.length

instance (c : Signal) : Decidable c.Covers := inferInstanceAs (Decidable (_ ≤ _))

end Signal

theorem get_append_of_le {n : ℕ} {a : List UInt8} (h : n ≤ a.length) (b : PacketContents) :
    PacketContents.get n (a ++ b) = some (a.take n, a.drop n ++ b) := by
  have hlen : ¬ (a ++ b).length < n := by
    rw [List.length_append]
    omega
  rw [PacketContents.get, if_neg hlen, List.take_append_of_le_length h, List.drop_append_of_le_length h]

theorem getAs_append {α : Type} {n : ℕ} {f : List UInt8 → α} {a : List UInt8} (h : n ≤ a.length)
    (b : PacketContents) : PacketContents.getAs n f (a ++ b) = some (f (a.take n), a.drop n ++ b) := by
  rw [PacketContents.getAs, get_append_of_le h]
  rfl

namespace Relay

variable (r : Relay) (s : ConnectionSide)

/-- What `handle_l2cap_cmd` does behind the header. -/
def handleSignal (code ident : UInt8) (p : PacketContents) : Relay :=
  let r := r.onChannels s fun c ↦ { c with currentCmdIdent := ident }
  if code = L2CAP_CONN_RSP then r.handleConnResponse s p
  else if code = L2CAP_CONF_RSP then r.handleConfResponse s p
  else if code = L2CAP_CONF_REQ then r.handleConfRequest s p
  else if code = L2CAP_CONN_REQ then r.handleConnRequestL2cap s ident p
  else if code = L2CAP_DISCONN_REQ then r.handleDisconnRequest s ident p
  else r

theorem handleL2capCmd_bytes (c : Signal) (behind : List UInt8) :
    r.handleL2capCmd s (c.bytes ++ behind) = r.handleSignal s c.code c.ident (c.data ++ behind) := by
  have hhdr : L2capCmdHdr.get? (c.bytes ++ behind) = some (⟨c.code, c.ident⟩, c.data ++ behind) := by
    rw [L2capCmdHdr.get?, PacketContents.getAs, Signal.bytes, List.append_assoc,
      PacketContents.get_append (n := 4) rfl]
    rfl
  unfold handleL2capCmd handleSignal
  rw [hhdr]

theorem handleConnResponse_append {data : List UInt8} (h : 8 ≤ data.length) (behind : List UInt8) :
    r.handleConnResponse s (data ++ behind) = r.handleConnResponse s data := by
  have halone := getAs_append (f := fun b ↦ (⟨le16 b 0, le16 b 2, le16 b 4⟩ : L2capConnRsp)) h []
  rw [List.append_nil] at halone
  unfold handleConnResponse
  rw [L2capConnRsp.get?, getAs_append h, halone]

theorem handleConfResponse_append {data : List UInt8} (h : 6 ≤ data.length) (behind : List UInt8) :
    r.handleConfResponse s (data ++ behind) = r.handleConfResponse s data := by
  have halone := getAs_append (f := fun b ↦ (⟨le16 b 0⟩ : L2capConfRsp)) h []
  rw [List.append_nil] at halone
  unfold handleConfResponse
  rw [L2capConfRsp.get?, getAs_append h, halone]

theorem handleConnRequestL2cap_append {data : List UInt8} (h : 4 ≤ data.length) (ident : UInt8)
    (behind : List UInt8) :
    r.handleConnRequestL2cap s ident (data ++ behind) = r.handleConnRequestL2cap s ident data := by
  have halone := getAs_append (f := fun b ↦ (⟨le16 b 0, le16 b 2⟩ : L2capConnReq)) h []
  rw [List.append_nil] at halone
  unfold handleConnRequestL2cap
  rw [L2capConnReq.get?, getAs_append h, halone]

theorem handleDisconnRequest_append {data : List UInt8} (h : 4 ≤ data.length) (ident : UInt8)
    (behind : List UInt8) :
    r.handleDisconnRequest s ident (data ++ behind) = r.handleDisconnRequest s ident data := by
  have halone := getAs_append (f := fun b ↦ (⟨le16 b 0, le16 b 2⟩ : L2capDisconnReq)) h []
  rw [List.append_nil] at halone
  unfold handleDisconnRequest
  rw [L2capDisconnReq.get?, getAs_append h, halone]

/-- Behind its fixed fields this one reads four bytes more. -/
theorem handleConfRequest_append {data : List UInt8} (h : 8 ≤ data.length) (behind : List UInt8) :
    r.handleConfRequest s (data ++ behind) = r.handleConfRequest s data := by
  have hreq := fun b ↦ getAs_append (n := 4) (f := fun b ↦ (⟨le16 b 0⟩ : L2capConfReq)) (a := data)
    (by omega) b
  have hoption := fun b ↦ get_append_of_le (n := 4) (a := data.drop 4)
    (by rw [List.length_drop]; omega) b
  have hreq' := hreq []
  have hoption' := hoption []
  rw [List.append_nil] at hreq' hoption'
  unfold handleConfRequest
  rw [L2capConfReq.get?, hreq, hreq', List.append_nil]
  dsimp only
  rw [hoption, hoption']
  rfl

theorem handleSignal_append {code : UInt8} {data : List UInt8} (h : Signal.reads code ≤ data.length)
    (ident : UInt8) (behind : List UInt8) :
    r.handleSignal s code ident (data ++ behind) = r.handleSignal s code ident data := by
  rw [handleSignal, handleSignal]
  rw [Signal.reads] at h
  by_cases h₁ : code = L2CAP_CONN_RSP
  · rw [if_pos h₁] at h
    rw [if_pos h₁, if_pos h₁, handleConnResponse_append _ _ h]
  rw [if_neg h₁] at h
  rw [if_neg h₁, if_neg h₁]
  by_cases h₂ : code = L2CAP_CONF_RSP
  · rw [if_pos h₂] at h
    rw [if_pos h₂, if_pos h₂, handleConfResponse_append _ _ h]
  rw [if_neg h₂] at h
  rw [if_neg h₂, if_neg h₂]
  by_cases h₃ : code = L2CAP_CONF_REQ
  · rw [if_pos h₃] at h
    rw [if_pos h₃, if_pos h₃, handleConfRequest_append _ _ h]
  rw [if_neg h₃] at h
  rw [if_neg h₃, if_neg h₃]
  by_cases h₄ : code = L2CAP_CONN_REQ
  · rw [if_pos h₄] at h
    rw [if_pos h₄, if_pos h₄, handleConnRequestL2cap_append _ _ h]
  rw [if_neg h₄] at h
  rw [if_neg h₄, if_neg h₄]
  by_cases h₅ : code = L2CAP_DISCONN_REQ
  · rw [if_pos h₅] at h
    rw [if_pos h₅, if_pos h₅, handleDisconnRequest_append _ _ h]
  rw [if_neg h₅, if_neg h₅]

/-- The first command of a PDU is handled as if it were alone, and the commands behind it are not handled.
    None of their bytes is read. -/
theorem first_command_handled (c : Signal) (h : c.Covers) (rest : List Signal) :
    r.handleL2capCmd s (Signal.bundle (c :: rest)) = r.handleL2capCmd s c.bytes ∧
      ∀ behind, r.handleL2capCmd s (c.bytes ++ behind) = r.handleL2capCmd s c.bytes := by
  have halone : ∀ behind, r.handleL2capCmd s (c.bytes ++ behind) = r.handleL2capCmd s c.bytes := by
    intro behind
    have hbytes := r.handleL2capCmd_bytes s c []
    rw [List.append_nil, List.append_nil] at hbytes
    rw [handleL2capCmd_bytes, handleSignal_append _ _ h, hbytes]
  exact ⟨halone (Signal.bundle rest), halone⟩

end Relay

namespace Signal

/-- The peer asks for the channel to a service. -/
def connRequest (ident : UInt8) (psm scid : UInt16) : Signal where
  code := L2CAP_CONN_REQ
  ident := ident
  data := put16 psm ++ put16 scid
  size := by simp [length_put16]

/-- The peer configures a channel of ours, without an option. -/
def confRequest (ident : UInt8) (dcid : UInt16) : Signal where
  code := L2CAP_CONF_REQ
  ident := ident
  data := put16 dcid ++ put16 0
  size := by simp [length_put16]

end Signal

theorem first_command_handled_alone :
    (Signal.connRequest 1 0x11 0x40).Covers ∧
      (Relay.init .session).handleL2capCmd .toDualsense
          (Signal.bundle [Signal.connRequest 1 0x11 0x40, Signal.connRequest 2 0x13 0x41]) =
        (Relay.init .session).handleL2capCmd .toDualsense (Signal.connRequest 1 0x11 0x40).bytes :=
  ⟨by decide,
    (Relay.first_command_handled _ _ _ (by decide) [Signal.connRequest 2 0x13 0x41]).1⟩

/-- Of two requests for a channel in one PDU, the second gets no answer.  A `CONF_REQ` that ends behind its
    fixed fields is answered with the first bytes of the command behind it. -/
theorem bundle_not_handled :
    ((Relay.init .session).handleL2capCmd .toDualsense
        (Signal.bundle [Signal.connRequest 1 0x11 0x40, Signal.connRequest 2 0x13 0x41])).frames ≠
      (((Relay.init .session).handleL2capCmd .toDualsense (Signal.connRequest 1 0x11 0x40).bytes).handleL2capCmd
        .toDualsense (Signal.connRequest 2 0x13 0x41).bytes).frames ∧
    (((Relay.init .session).handleL2capCmd .toDualsense
        (Signal.bundle [Signal.confRequest 1 Channel.hidControl.scid,
          Signal.connRequest 2 0x13 0x41])).frames.map Sent.payload).head? ≠
      (((Relay.init .session).handleL2capCmd .toDualsense
        (Signal.confRequest 1 Channel.hidControl.scid).bytes).frames.map Sent.payload).head? := by
  decide +kernel

end DualSenseMitm
