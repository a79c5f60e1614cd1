import DualSenseMitm.Aspects

/-!
# What one ACL packet can do

Reassembly comes down to one question: which PDU, if any, a packet completes.  `completedPdu` answers
it from the state before the packet, and `acl_move` says what the packet does in each case.  The
partial PDUs aside, everything an ACL packet does is done by `routeL2capPdu` with the completed PDU.
-/

set_option autoImplicit false

namespace DualSenseMitm

open Bytes Machine

namespace Relay

variable (r : Relay) (s : ConnectionSide)

/-- The link an ACL packet arrived on. -/
def aclHandle (p : PacketContents) : UInt16 := le16 p 0 &&& 0x0fff

/-- The packet continues a PDU. -/
abbrev isContinuation (p : PacketContents) : Prop := (le16 p 0 >>> 12) &&& 0x3 = ACL_PB_CONT

/-- The data of an ACL packet. -/
def aclPayload (p : PacketContents) : List UInt8 := p.drop 4

/-- The PDU an ACL packet completes. -/
def completedPdu (r : Relay) (s : ConnectionSide) (p : PacketContents) : Option (List UInt8) :=
  let handle := aclHandle p
  let payload := aclPayload p
  if handle ∉ (r.h s).links.openHandles ∨ payload.isEmpty then none
  else if isContinuation p then
    match (r.h s).links.aclReasm handle with
    | none => none
    | some re =>
      let buf := re.buf ++ payload
      if buf.length < re.expected then none else some (buf.take re.expected)
  else if payload.length < 4 then none
  else
    let expected := 4 + (le16 payload 0).toNat
    if expected ≤ payload.length then some (payload.take expected) else none

/-- What an ACL packet can do, by the PDU it completes. -/
inductive AclMove (r : Relay) (s : ConnectionSide) (p : PacketContents) : Relay → Prop
  | dropped (hc : r.completedPdu s p = none) : AclMove r s p r
  | ghost (h : aclHandle p ∉ (r.h s).links.openHandles) :
      AclMove r s p (r.handleGhost s (aclHandle p))
  | buffered {re} (hc : r.completedPdu s p = none) :
      AclMove r s p (r.setReasm s (aclHandle p) re)
  | routed {re pdu} (ho : aclHandle p ∈ (r.h s).links.openHandles)
      (hc : r.completedPdu s p = some pdu) :
      AclMove r s p ((r.setReasm s (aclHandle p) re).routePdu s (aclHandle p) pdu)
  | routedLast {re pdu} (ho : aclHandle p ∈ (r.h s).links.openHandles)
      (hc : r.completedPdu s p = some pdu) :
      AclMove r s p (((r.setReasm s (aclHandle p) re).routePdu s (aclHandle p) pdu).setReasm s
        (aclHandle p) none)

theorem setReasm_setReasm (handle : UInt16) (re re' : Option AclReasm) :
    (r.setReasm s handle re).setReasm s handle re' = r.setReasm s handle re' := by
  simp [setReasm, onLinks, onHandler]

section

variable (p : PacketContents) (ho : aclHandle p ∈ (r.h s).links.openHandles)
  (hempty : ¬ (aclPayload p).isEmpty = true)
include ho hempty

theorem aclCont_move (hpb : isContinuation p) :
    AclMove r s p (r.handleAclCont s (aclHandle p) (aclPayload p)) := by
  have hc : r.completedPdu s p
      = match (r.h s).links.aclReasm (aclHandle p) with
        | none => none
        | some re =>
          if (re.buf ++ aclPayload p).length < re.expected then none
          else some ((re.buf ++ aclPayload p).take re.expected) := by
    simp [completedPdu, ho, hempty, hpb]
  unfold handleAclCont
  cases hre : (r.h s).links.aclReasm (aclHandle p) with
  | none =>
    rw [hre] at hc
    exact .dropped hc
  | some re =>
    rw [hre] at hc
    dsimp only at hc ⊢
    split at hc
    · rw [if_pos ‹_›]; exact .buffered hc
    · rw [if_neg ‹_›]; exact .routedLast ho hc

theorem aclStart_move (hpb : ¬ isContinuation p) :
    AclMove r s p (r.handleAclStart s (aclHandle p) (aclPayload p)) := by
  have hc : r.completedPdu s p
      = if (aclPayload p).length < 4 then none
        else if 4 + (le16 (aclPayload p) 0).toNat ≤ (aclPayload p).length then
          some ((aclPayload p).take (4 + (le16 (aclPayload p) 0).toNat))
        else none := by
    simp only [completedPdu, ho, not_true, hempty, false_or, if_false, hpb, Bool.false_eq_true]
  unfold handleAclStart
  dsimp only
  by_cases hshort : (aclPayload p).length < 4
  · rw [if_pos hshort] at hc ⊢
    exact .buffered hc
  · rw [if_neg hshort] at hc ⊢
    by_cases hwhole : 4 + (le16 (aclPayload p) 0).toNat ≤ (aclPayload p).length
    · rw [if_pos hwhole] at hc ⊢
      exact .routed ho hc
    · rw [if_neg hwhole] at hc ⊢
      split
      · exact .buffered hc
      · rw [setReasm_setReasm]; exact .buffered hc

end

theorem handleAcl_eq {p : PacketContents} (h : 4 ≤ p.length) :
    r.handleAcl s p
      = if aclHandle p ∉ (r.h s).links.openHandles then r.handleGhost s (aclHandle p)
        else if (aclPayload p).isEmpty then r
        else if isContinuation p then r.handleAclCont s (aclHandle p) (aclPayload p)
        else r.handleAclStart s (aclHandle p) (aclPayload p) := by
  have hget : PacketContents.get 4 p = some (p.take 4, p.drop 4) := if_neg (Nat.not_lt.mpr h)
  have hfield : le16 (p.take 4) 0 = le16 p 0 := le16_take (by decide)
  unfold handleAcl
  rw [hget]
  dsimp only
  rw [hfield]
  rfl

theorem acl_move (p : PacketContents) : AclMove r s p (r.handleAcl s p) := by
  by_cases hlen : 4 ≤ p.length
  · rw [handleAcl_eq r s hlen]
    by_cases ho : aclHandle p ∈ (r.h s).links.openHandles
    · rw [if_neg (not_not_intro ho)]
      by_cases hempty : (aclPayload p).isEmpty = true
      · rw [if_pos hempty]; exact .dropped (if_pos (.inr hempty))
      · rw [if_neg hempty]
        by_cases hpb : isContinuation p
        · rw [if_pos hpb]; exact aclCont_move r s p ho hempty hpb
        · rw [if_neg hpb]; exact aclStart_move r s p ho hempty hpb
    · rw [if_pos ho]; exact .ghost ho
  · have hget : PacketContents.get 4 p = none := if_pos (Nat.not_le.mp hlen)
    have hempty : (aclPayload p).isEmpty = true :=
      List.isEmpty_iff.mpr (List.drop_eq_nil_iff.mpr (Nat.le_of_not_le hlen))
    rw [handleAcl, hget]
    exact .dropped (if_pos (.inr hempty))

/-! ## What a PDU carries -/

/-- What `route_l2cap_pdu` makes of a PDU. -/
inductive PduContents
  /-- It is too short, or empty. -/
  | nothing
  | command (p : PacketContents)
  | payload (cid : UInt16) (data : List UInt8)

def PduContents.decode (pdu : List UInt8) : PduContents :=
  match PacketContents.get 4 pdu with
  | none => .nothing
  | some (hdr, p) =>
    if le16 hdr 2 = L2CAP_CID_SIGNALLING then .command p
    else
      match PacketContents.get (le16 hdr 0).toNat p with
      | none => .nothing
      | some (data, _) => if data.isEmpty then .nothing else .payload (le16 hdr 2) data

/-- A payload is not empty. -/
theorem ne_nil_of_decode {pdu data : List UInt8} {cid : UInt16} (h : PduContents.decode pdu = .payload cid data) :
    data ≠ [] := by
  rintro rfl
  unfold PduContents.decode at h
  split at h
  · cases h
  · split at h
    · cases h
    · split at h
      · cases h
      · split at h
        · cases h
        · rename_i hempty
          cases h
          exact hempty rfl

/-- What a PDU can do, by what it carries. -/
inductive PduMove (r : Relay) (s : ConnectionSide) : PduContents → Relay → Prop
  | nothing : PduMove r s .nothing r
  | command {p} : PduMove r s (.command p) (r.handleL2capCmd s p)
  | payload {cid data} : PduMove r s (.payload cid data) (r.routePayload s cid data)

theorem pdu_move (pdu : List UInt8) : PduMove r s (.decode pdu) (r.routeL2capPdu s pdu) := by
  unfold PduContents.decode routeL2capPdu
  cases PacketContents.get 4 pdu with
  | none => exact .nothing
  | some q =>
    obtain ⟨hdr, p⟩ := q
    dsimp only
    by_cases hsig : le16 hdr 2 = L2CAP_CID_SIGNALLING
    · rw [if_pos hsig, if_pos hsig]
      exact .command
    · rw [if_neg hsig, if_neg hsig]
      cases PacketContents.get (le16 hdr 0).toNat p with
      | none => exact .nothing
      | some q =>
        obtain ⟨data, p⟩ := q
        dsimp only
        by_cases hempty : data.isEmpty = true
        · rw [if_pos hempty, if_pos hempty]
          exact .nothing
        · rw [if_neg hempty, if_neg hempty]
          exact .payload

/-! ## What a signalling command carries -/

/-- A signalling command with the fields its handler reads. -/
inductive L2capCommand
  | connResponse (rsp : L2capConnRsp)
  | confResponse (rsp : L2capConfRsp)
  | confRequest (req : L2capConfReq)
  | connRequest (req : L2capConnReq)
  | disconnRequest (req : L2capDisconnReq)
  /-- Any other, or one that is too short. -/
  | other

def L2capCommand.decode (p : PacketContents) : L2capCommand :=
  match L2capCmdHdr.get? p with
  | none => .other
  | some (hdr, p) =>
    if hdr.code = L2CAP_CONN_RSP then (L2capConnRsp.get? p).elim .other fun q ↦ .connResponse q.1
    else if hdr.code = L2CAP_CONF_RSP then (L2capConfRsp.get? p).elim .other fun q ↦ .confResponse q.1
    else if hdr.code = L2CAP_CONF_REQ then (L2capConfReq.get? p).elim .other fun q ↦ .confRequest q.1
    else if hdr.code = L2CAP_CONN_REQ then (L2capConnReq.get? p).elim .other fun q ↦ .connRequest q.1
    else if hdr.code = L2CAP_DISCONN_REQ then
      (L2capDisconnReq.get? p).elim .other fun q ↦ .disconnRequest q.1
    else .other

/-- The identifier of a command is kept for its answer. -/
def noteIdent (r : Relay) (s : ConnectionSide) (ident : UInt8) : Relay :=
  r.onChannels s fun c ↦ { c with currentCmdIdent := ident }

/-- What a signalling command leads to. -/
inductive CommandMove (r : Relay) (s : ConnectionSide) : L2capCommand → Relay → Prop
  | connResponse {ident p rsp q} (hp : L2capConnRsp.get? p = some (rsp, q)) :
      CommandMove r s (.connResponse rsp) ((r.noteIdent s ident).handleConnResponse s p)
  | confResponse {ident p rsp q} (hp : L2capConfRsp.get? p = some (rsp, q)) :
      CommandMove r s (.confResponse rsp) ((r.noteIdent s ident).handleConfResponse s p)
  | confRequest {ident p req q} (hp : L2capConfReq.get? p = some (req, q)) :
      CommandMove r s (.confRequest req) ((r.noteIdent s ident).handleConfRequest s p)
  | connRequest {ident p req q} (hp : L2capConnReq.get? p = some (req, q)) :
      CommandMove r s (.connRequest req) ((r.noteIdent s ident).handleConnRequestL2cap s ident p)
  | disconnRequest {ident p req q} (hp : L2capDisconnReq.get? p = some (req, q)) :
      CommandMove r s (.disconnRequest req) ((r.noteIdent s ident).handleDisconnRequest s ident p)
  | other {t} (h : Performs Op.Quiet r t) : CommandMove r s .other t

namespace CommandMove

variable {r s}

theorem ite {c : Prop} [Decidable c] {e e' : L2capCommand} {t u : Relay}
    (ht : c → CommandMove r s e t) (hu : ¬ c → CommandMove r s e' u) :
    CommandMove r s (if c then e else e') (if c then t else u) := by
  by_cases hc : c
  · rw [if_pos hc, if_pos hc]; exact ht hc
  · rw [if_neg hc, if_neg hc]; exact hu hc

theorem elim {α : Type} {ident : UInt8} {params : Option (α × PacketContents)} {f : α → L2capCommand}
    {t : Relay} (hnone : params = none → t = r.noteIdent s ident)
    (hsome : ∀ e q, params = some (e, q) → CommandMove r s (f e) t) :
    CommandMove r s (params.elim .other fun e ↦ f e.1) t := by
  cases params with
  | none =>
    rw [hnone rfl]
    exact .other (quiet_onChannels r s fun _ ↦ ⟨rfl, rfl⟩)
  | some e => exact hsome e.1 e.2 rfl

end CommandMove

theorem command_move (p : PacketContents) : CommandMove r s (.decode p) (r.handleL2capCmd s p) := by
  unfold L2capCommand.decode handleL2capCmd
  cases L2capCmdHdr.get? p with
  | none => exact .other (.refl r)
  | some cmd =>
    obtain ⟨hdr, p⟩ := cmd
    dsimp only
    refine .ite (fun _ ↦ ?_) fun _ ↦ .ite (fun _ ↦ ?_) fun _ ↦ .ite (fun _ ↦ ?_) fun _ ↦
      .ite (fun _ ↦ ?_) fun _ ↦ .ite (fun _ ↦ ?_) fun _ ↦ .other (quiet_onChannels r s fun _ ↦ ⟨rfl, rfl⟩)
    · exact .elim (fun h ↦ by rw [handleConnResponse, h]; rfl) fun _ _ ↦ .connResponse
    · exact .elim (fun h ↦ by rw [handleConfResponse, h]; rfl) fun _ _ ↦ .confResponse
    · exact .elim (fun h ↦ by rw [handleConfRequest, h]; rfl) fun _ _ ↦ .confRequest
    · exact .elim (fun h ↦ by rw [handleConnRequestL2cap, h]; rfl) fun _ _ ↦ .connRequest
    · exact .elim (fun h ↦ by rw [handleDisconnRequest, h]; rfl) fun _ _ ↦ .disconnRequest

/-! ## Signalling commands that are taken up -/

/-- A signalling command that is answered, or that opens a channel. -/
def takenUp (code : UInt8) (p : PacketContents) : Bool :=
  if code = L2CAP_CONN_RSP then
    (L2capConnRsp.get? p).any fun rsp ↦
      rsp.1.result == L2CAP_CR_SUCCESS && (Channel.byScid rsp.1.scid).isSome
  else if code = L2CAP_CONF_REQ then
    (L2capConfReq.get? p).any fun req ↦ (Channel.byScid req.1.dcid).isSome
  else if code = L2CAP_CONN_REQ then (L2capConnReq.get? p).isSome
  else if code = L2CAP_DISCONN_REQ then (L2capDisconnReq.get? p).isSome
  else false

/-- The PDU carries such a command. -/
def pduTakenUp (pdu : List UInt8) : Bool :=
  (PacketContents.get 4 pdu).any fun q ↦
    le16 q.1 2 == L2CAP_CID_SIGNALLING
      && (L2capCmdHdr.get? q.2).any fun cmd ↦ takenUp cmd.1.code cmd.2

/-- Any other command leaves the links and the channels alone. -/
theorem quiet_handleL2capCmd {p : PacketContents}
    (h : ((L2capCmdHdr.get? p).any fun cmd ↦ takenUp cmd.1.code cmd.2) = false) :
    Performs Op.Quiet r (r.handleL2capCmd s p) := by
  unfold handleL2capCmd
  cases hcmd : L2capCmdHdr.get? p with
  | none => exact .refl r
  | some cmd =>
    obtain ⟨hdr, p⟩ := cmd
    rw [hcmd, Option.any_some, takenUp] at h
    dsimp -zeta only at h ⊢
    extract_lets r₁
    have h₁ : Performs Op.Quiet r r₁ := quiet_onChannels r s fun _ ↦ ⟨rfl, rfl⟩
    refine .ite (fun hc ↦ ?_) fun hc₁ ↦ .ite (fun _ ↦ ?_) fun _ ↦ .ite (fun hc ↦ ?_) fun hc₂ ↦
      .ite (fun hc ↦ ?_) fun hc₃ ↦ .ite (fun hc ↦ ?_) fun _ ↦ h₁
    · rw [if_pos hc] at h
      unfold handleConnResponse
      split
      · exact h₁
      · rename_i rsp _ hrsp
        simp only [hrsp, Option.any_some, Bool.and_eq_false_iff, beq_eq_false_iff_ne] at h
        refine .ite (fun hs ↦ ?_) fun _ ↦ h₁
        have hnone := Option.not_isSome_iff_eq_none.mp
          (Bool.eq_false_iff.mp (h.resolve_left (not_not_intro hs)))
        rw [hnone]
        exact h₁
    · exact h₁.trans (quiet_handleConfResponse r₁ s p)
    · rw [if_neg hc₁, if_pos hc] at h
      unfold handleConfRequest
      split
      · exact h₁
      · rename_i req _ hreq
        simp only [hreq, Option.any_some] at h
        rw [Option.not_isSome_iff_eq_none.mp (Bool.eq_false_iff.mp h)]
        exact h₁
    · rw [if_neg hc₁, if_neg hc₂, if_pos hc] at h
      rw [handleConnRequestL2cap, Option.not_isSome_iff_eq_none.mp (Bool.eq_false_iff.mp h)]
      exact h₁
    · rw [if_neg hc₁, if_neg hc₂, if_neg hc₃, if_pos hc] at h
      rw [handleDisconnRequest, Option.not_isSome_iff_eq_none.mp (Bool.eq_false_iff.mp h)]
      exact h₁

/-- A PDU that is not taken up is data, or nothing. -/
theorem within_routePdu_of_data {A : Set Aspect} (hA : .routing ∈ A) (hR : .relaying s.other ∈ A)
    (hG : .reports ∈ A) (hF : .forwarding ∈ A) (hK : .console s ∈ A) (hP : .pacing s ∈ A)
    (handle : UInt16) {pdu : List UInt8} (h : pduTakenUp pdu = false) :
    Performs (Op.Within A) r (r.routePdu s handle pdu) := by
  have hmark : Performs (Op.Within A) r (r.emit (.routed s handle pdu)) := within_emit r hA
  refine hmark.trans ?_
  unfold routePdu routeL2capPdu
  cases hget : PacketContents.get 4 pdu with
  | none => exact .refl _
  | some q =>
    obtain ⟨hdr, p⟩ := q
    rw [pduTakenUp, hget, Option.any_some, Bool.and_eq_false_iff, beq_eq_false_iff_ne] at h
    dsimp only
    refine .ite (fun hc ↦ ?_) fun _ ↦ ?_
    · exact (quiet_handleL2capCmd _ s (h.resolve_left (not_not_intro hc))).within
    · split
      · exact .refl _
      · exact .ite (fun _ ↦ .refl _) fun _ ↦ within_routePayload _ s hR hG hF hK hP _ _

/-! ## Its aspects -/

/-- The aspects of an ACL packet. -/
def aclAspects (s : ConnectionSide) : Set Aspect :=
  {.linkNotes, .closing, .routing, .relaying s.other, .forwarding, .signalling s, .binding s, .reports,
    .console s, .pacing s}

variable {r s} in
/-- Only a packet on a link this run never opened closes anything. -/
theorem AclMove.within {A : Set Aspect} {p : PacketContents} {t : Relay} (h : AclMove r s p t)
    (hN : .linkNotes ∈ A) (hR : .routing ∈ A) (hO : .relaying s.other ∈ A) (hS : .signalling s ∈ A)
    (hB : .binding s ∈ A) (hG : .reports ∈ A) (hF : .forwarding ∈ A) (hK : .console s ∈ A)
    (hP : .pacing s ∈ A) (hC : aclHandle p ∉ (r.h s).links.openHandles → .closing ∈ A) :
    Performs (Op.Within A) r t := by
  have hroute : ∀ (r : Relay) (handle : UInt16) (pdu : List UInt8),
      Performs (Op.Within A) r (r.routePdu s handle pdu) := fun r handle pdu ↦
    within_routePdu r s hR hO hS hB hG hF hK hP handle pdu
  cases h with
  | dropped => exact .refl r
  | ghost h => exact within_handleGhost r s hN (hC h) _
  | buffered hc => exact within_setReasm r s hN _ _
  | routed ho hc => exact (within_setReasm r s hN _ _).trans (hroute _ _ _)
  | routedLast ho hc =>
    exact ((within_setReasm r s hN _ _).trans (hroute _ _ _)).trans (within_setReasm _ s hN _ _)

theorem within_handleAcl (p : PacketContents) :
    Performs (Op.Within (aclAspects s)) r (r.handleAcl s p) :=
  (acl_move r s p).within (by simp [aclAspects]) (by simp [aclAspects]) (by simp [aclAspects])
    (by simp [aclAspects]) (by simp [aclAspects]) (by simp [aclAspects]) (by simp [aclAspects])
    (by simp [aclAspects]) (by simp [aclAspects]) fun _ ↦ by simp [aclAspects]

/-! ## Around the PDU -/

/-- The state in which a completed PDU is routed. -/
def arriving (r : Relay) (s : ConnectionSide) (p : PacketContents) (re : Option AclReasm)
    (pdu : List UInt8) : Relay :=
  (r.setReasm s (aclHandle p) re).emit (.routed s (aclHandle p) pdu)

/-- What an ACL packet does, by the PDU it completes: around the PDU it is a matter of reassembly. -/
inductive AclStep (r : Relay) (s : ConnectionSide) (p : PacketContents) : Option (List UInt8) → Relay → Prop
  | kept {t} (h : Performs (Op.Within {.linkNotes, .closing}) r t) : AclStep r s p none t
  | routed {re pdu t}
      (h : Performs (Op.Within {.linkNotes}) ((r.arriving s p re pdu).routeL2capPdu s pdu) t) :
      AclStep r s p (some pdu) t

theorem acl_step (p : PacketContents) : AclStep r s p (r.completedPdu s p) (r.handleAcl s p) := by
  have hm := acl_move r s p
  revert hm
  generalize r.handleAcl s p = t
  intro hm
  cases hm with
  | dropped hc =>
    rw [hc]
    exact .kept (.refl r)
  | ghost h =>
    have hc : r.completedPdu s p = none := if_pos (.inl h)
    rw [hc]
    exact .kept (within_handleGhost r s (by simp) (by simp) _)
  | buffered hc =>
    rw [hc]
    exact .kept (within_setReasm r s (by simp) _ _)
  | routed ho hc =>
    rw [hc]
    exact .routed (.refl _)
  | routedLast ho hc =>
    rw [hc]
    exact .routed (within_setReasm _ s (by simp) _ _)

theorem within_arriving {A : Set Aspect} (hN : .linkNotes ∈ A) (hR : .routing ∈ A) (p : PacketContents)
    (re : Option AclReasm) (pdu : List UInt8) : Performs (Op.Within A) r (r.arriving s p re pdu) :=
  (within_setReasm r s hN _ re).trans (within_emit _ (by exact hR))

/-! ## What the completed PDU carries -/

/-- What the PDU a packet completes carries; nothing, if it completes none. -/
def contentsOf (r : Relay) (s : ConnectionSide) (p : PacketContents) : PduContents :=
  (r.completedPdu s p).elim .nothing .decode

theorem ne_nil_of_contentsOf {p : PacketContents} {cid : UInt16} {data : List UInt8}
    (h : r.contentsOf s p = .payload cid data) : data ≠ [] := by
  rw [contentsOf] at h
  cases hpdu : r.completedPdu s p with
  | none =>
    rw [hpdu] at h
    cases h
  | some pdu =>
    rw [hpdu] at h
    exact ne_nil_of_decode h

/-- The same state, but for the partial PDU of a link. -/
def UpToReasm (s : ConnectionSide) (handle : UInt16) (r r' : Relay) : Prop :=
  ∃ re, r' = r.setReasm s handle re

/-- What an ACL packet does, by what the PDU it completes carries. -/
inductive AclPart (r : Relay) (s : ConnectionSide) (p : PacketContents) : PduContents → Relay → Prop
  | nothing {t} (h : Performs (Op.Within {.linkNotes, .closing, .routing}) r t) : AclPart r s p .nothing t
  | command {re pdu q t}
      (h : UpToReasm s (aclHandle p) ((r.arriving s p re pdu).handleL2capCmd s q) t) :
      AclPart r s p (.command q) t
  | payload {re pdu cid data t}
      (h : UpToReasm s (aclHandle p) ((r.arriving s p re pdu).routePayload s cid data) t) :
      AclPart r s p (.payload cid data) t

theorem upToReasm_refl (handle : UInt16) : UpToReasm s handle r r :=
  ⟨(r.h s).links.aclReasm handle, by simp [setReasm, onLinks, onHandler]⟩

theorem arriving_part (p : PacketContents) (re : Option AclReasm) (pdu : List UInt8) {t : Relay}
    (h : UpToReasm s (aclHandle p) ((r.arriving s p re pdu).routeL2capPdu s pdu) t) :
    AclPart r s p (.decode pdu) t := by
  have hpdu := pdu_move (r.arriving s p re pdu) s pdu
  revert hpdu h
  generalize hroute : (r.arriving s p re pdu).routeL2capPdu s pdu = mid
  generalize PduContents.decode pdu = contents
  intro h hpdu
  cases hpdu with
  | nothing =>
    obtain ⟨re', rfl⟩ := h
    refine .nothing ((within_arriving r s (by simp) (by simp) p re pdu).trans ?_)
    exact within_setReasm _ s (by simp) _ _
  | command => exact .command h
  | payload => exact .payload h

theorem acl_part (p : PacketContents) : AclPart r s p (r.contentsOf s p) (r.handleAcl s p) := by
  have hm := acl_move r s p
  rw [contentsOf]
  revert hm
  generalize r.handleAcl s p = t
  intro hm
  cases hm with
  | dropped hc =>
    rw [hc]
    exact .nothing (.refl r)
  | ghost h =>
    have hc : r.completedPdu s p = none := if_pos (.inl h)
    rw [hc]
    exact .nothing (within_handleGhost r s (by simp) (by simp) _)
  | buffered hc =>
    rw [hc]
    exact .nothing (within_setReasm r s (by simp) _ _)
  | routed ho hc =>
    rw [hc]
    exact arriving_part r s p _ _ (upToReasm_refl _ s _)
  | routedLast ho hc =>
    rw [hc]
    exact arriving_part r s p _ _ ⟨none, rfl⟩

end Relay

end DualSenseMitm
