import DualSenseMitm.Runs.RequestIdents

/-!
# The answers to signalling requests

The peers ask for channels, configure and close them, each request with an identifier of its own, and the
relay answers at once.

* `Relay.responses` — the responses sent to the peer of one side, each with the identifier it carries.
* `responseTo` — the one that a signalling PDU asks for.
* `requests_answered` — over a run the former are the latter, one after the other.
-/

set_option autoImplicit false

namespace DualSenseMitm

open Bytes Machine

/-! ## Responses -/

/-- The codes of the responses. -/
def isResponse (code : UInt8) : Bool :=
  code == L2CAP_CONN_RSP || code == L2CAP_CONF_RSP || code == L2CAP_DISCONN_RSP

/-- The response a frame carries to the peer of a side, with its identifier. -/
def Sent.response? (s : ConnectionSide) (f : Sent) : Option (UInt8 × UInt8) :=
  if f.side = s ∧ f.cid = L2CAP_CID_SIGNALLING ∧ isResponse (byteAt f.payload 0) then
    some (byteAt f.payload 0, byteAt f.payload 1)
  else none

/-- Of what is for the peer of one side, what the peer of a side gets. -/
def towards {α : Type} (t s : ConnectionSide) (o : Option α) : List α := if t = s then o.toList else []

theorem towards_none {α : Type} (t s : ConnectionSide) : towards t s (none : Option α) = [] := ite_self _

namespace Relay

/-- What kind of response a command asks for.  A channel that is not there is not configured, and the relay
knows no other requests. -/
def responseCode : L2capCommand → Option UInt8
  | .connRequest _ => some L2CAP_CONN_RSP
  | .confRequest req => (Channel.byScid req.dcid).map fun _ ↦ L2CAP_CONF_RSP
  | .disconnRequest _ => some L2CAP_DISCONN_RSP
  | _ => none

/-- The response a signalling PDU asks for. -/
def responseTo (p : PacketContents) : Option (UInt8 × UInt8) :=
  (L2capCmdHdr.get? p).bind fun cmd ↦ (responseCode (.decode p)).map (·, cmd.1.ident)

variable {r r' r'' : Relay} {s : ConnectionSide}

/-- The responses sent to the peer of a side, in order. -/
def responses (r : Relay) (s : ConnectionSide) : List (UInt8 × UInt8) := r.frames.filterMap (Sent.response? s)

/-- The responses the peer of a side asks for in a step. -/
def asked (r : Relay) (s : ConnectionSide) (i : Input) : List (UInt8 × UInt8) :=
  match r.cause i with
  | .acl t p =>
    match r.contentsOf t p with
    | .command q => towards t s (responseTo q)
    | _ => []
  | _ => []

/-- From one state to another the peer of a side is sent these responses. -/
def Responds (s : ConnectionSide) (r r' : Relay) (new : List (UInt8 × UInt8)) : Prop :=
  r'.responses s = r.responses s ++ new

namespace Responds

variable {new more : List (UInt8 × UInt8)}

theorem of_frames (h : r'.frames = r.frames) : Responds s r r' [] := by
  rw [Responds, responses, h, List.append_nil, responses]

theorem trans (h : Responds s r r' new) (h' : Responds s r' r'' more) : Responds s r r'' (new ++ more) := by
  rw [Responds, h', h, List.append_assoc]

/-- What is said around it is none. -/
theorem around {a b : Relay} (h : Responds s r a []) (hab : Responds s a b new) (h' : Responds s b r' []) :
    Responds s r r' new := by
  have hall := (h.trans hab).trans h'
  rwa [List.nil_append, List.append_nil] at hall

theorem frame {t : ConnectionSide} {cid : UInt16} {pre data : List UInt8}
    (h : t = s → cid = L2CAP_CID_SIGNALLING → isResponse (byteAt (pre ++ data) 0) = false) :
    Responds s r (r.l2capSendFrame t cid pre data) [] := by
  rw [Responds, responses, frames_l2capSendFrame, List.filterMap_append, ← responses]
  refine congrArg _ (List.filterMap_eq_nil_iff.mpr fun f hf ↦ if_neg ?_)
  rw [(mem_frameOf.mp hf).2]
  rintro ⟨ht, hcid, hcode⟩
  exact Bool.false_ne_true ((h ht hcid).symm.trans hcode)

/-- Whatever does without the signalling channel answers nothing. -/
theorem perform {A : Set Aspect} (he : EndsApart s r) {op : Op} (hop : op.Within A r)
    (hs : .signalling s ∉ A) : Responds s r (r.perform op) [] := by
  cases op with
  | frame t cid pre data =>
    refine frame ?_
    rintro rfl rfl
    rcases hop with ⟨-, c, hc, -⟩ | hA | ⟨-, c, hc, -⟩
    · exact absurd hc (he c)
    · exact absurd hA.1 hs
    · exact absurd hc (he c)
  | emit o =>
    cases o with
    | acl => exact absurd hop (by rintro (h | h) <;> cases h)
    | _ => exact of_frames ((frames_emit r _).trans (List.append_nil _))
  | pump t => exact of_frames (frames_pumpCommands r t)
  | cmd t ogf ocf param what => exact of_frames (frames_sendCmd r t ogf ocf param what)
  | _ => exact of_frames rfl

theorem of_within {A : Set Aspect} (he : EndsApart s r) (h : Performs (Op.Within A) r r')
    (hs : .signalling s ∉ A) : Responds s r r' [] := by
  refine (h.invariant (fun a ↦ EndsApart s a ∧ Responds s r a []) ⟨he, of_frames rfl⟩ ?_).2
  rintro a op ⟨ha, hnone⟩ hop
  exact ⟨EndsApart.perform ha hop fun hA ↦ hs hA.1, hnone.trans (perform ha hop hs)⟩

theorem ite {c : Prop} [Decidable c] {e e' : L2capCommand} {u u' : Relay} {t : ConnectionSide}
    {ident : UInt8} (h : c → Responds s r u (towards t s ((responseCode e).map (·, ident))))
    (h' : ¬ c → Responds s r u' (towards t s ((responseCode e').map (·, ident)))) :
    Responds s r (if c then u else u') (towards t s ((responseCode (if c then e else e')).map (·, ident))) := by
  by_cases hc : c
  · rw [if_pos hc, if_pos hc]; exact h hc
  · rw [if_neg hc, if_neg hc]; exact h' hc

/-- A command that is too short is none. -/
theorem elim {α : Type} {params : Option (α × PacketContents)} {f : α → L2capCommand} {u : Relay}
    {t : ConnectionSide} {ident : UInt8} (hnone : params = none → Responds s r u [])
    (hsome : ∀ e q, params = some (e, q) → Responds s r u (towards t s ((responseCode (f e)).map (·, ident)))) :
    Responds s r u (towards t s ((responseCode (params.elim .other fun e ↦ f e.1)).map (·, ident))) := by
  cases params with
  | none =>
    rw [show responseCode _ = none from rfl, Option.map_none, towards_none]
    exact hnone rfl
  | some e => exact hsome e.1 e.2 rfl

end Responds

/-! ## Signalling -/

section signalling

variable (r : Relay) (t : ConnectionSide)

/-- A request is no response. -/
theorem responds_request {code : UInt8} (hcode : isResponse code = false) (data : List UInt8) :
    Responds s r (r.l2capSendCmdRequest t code data) [] := by
  rw [l2capSendCmdRequest, l2capSendCmd]
  refine Responds.around (.of_frames (frames_onChannels r t _)) (Responds.frame ?_) (.of_frames rfl)
  exact fun _ _ ↦ hcode

theorem responds_l2capSendConnRequest (c : Channel) : Responds s r (r.l2capSendConnRequest t c) [] :=
  responds_request r t (by decide) _

theorem responds_l2capSendConfigureMtuRequest (dcid mtuSize : UInt16) :
    Responds s r (r.l2capSendConfigureMtuRequest t dcid mtuSize) [] :=
  responds_request r t (by decide) _

/-- A response carries its identifier. -/
theorem responds_response {code : UInt8} (hcode : isResponse code = true) (ident : UInt8) {data : List UInt8}
    (hfits : data.length ≤ 10) :
    Responds s r (r.l2capSendCmdResponse t ident code data) (towards t s (some (code, ident))) := by
  have hsmall : tooLarge ([code, ident] ++ put16 (UInt16.ofNat data.length) ++ data) = false := by
    refine decide_eq_false ?_
    simp only [List.length_append, List.length_cons, List.length_nil, length_put16]
    omega
  rw [Responds, responses, l2capSendCmdResponse, l2capSendCmd, frames_l2capSendFrame, List.filterMap_append,
    ← responses, frameOf, hsmall, if_neg Bool.false_ne_true, List.filterMap_cons, List.filterMap_nil,
    Sent.response?, towards]
  by_cases ht : t = s
  · rw [if_pos ⟨ht, rfl, hcode⟩, if_pos ht]
    rfl
  · rw [if_neg fun h ↦ ht h.1, if_neg ht]

theorem responds_confRequestChain (c : Channel) : Responds s r (r.confRequestChain t c) [] := by
  unfold confRequestChain
  split
  · exact .of_frames rfl
  · split
    · split <;> exact .of_frames rfl
    · exact .of_frames rfl
    · exact responds_l2capSendConnRequest r _ _
    · exact responds_l2capSendConnRequest r _ _
    · exact .of_frames rfl

theorem responds_handleConnResponse (p : PacketContents) : Responds s r (r.handleConnResponse t p) [] := by
  unfold handleConnResponse
  split
  · exact .of_frames rfl
  · split
    · split
      · exact .of_frames rfl
      · exact Responds.around (.of_frames (frames_onChannels r t _))
          (responds_l2capSendConfigureMtuRequest _ t _ _) (.of_frames rfl)
    · exact .of_frames rfl

theorem responds_handleConfRequest {p q : PacketContents} {req : L2capConfReq}
    (hp : L2capConfReq.get? p = some (req, q)) :
    Responds s r (r.handleConfRequest t p)
      (towards t s ((responseCode (.confRequest req)).map (·, (r.h t).channels.currentCmdIdent))) := by
  unfold handleConfRequest
  rw [hp, responseCode]
  dsimp only
  cases Channel.byScid req.dcid with
  | none =>
    rw [Option.map_none, Option.map_none, towards_none]
    exact .of_frames rfl
  | some c =>
    have hoption : (((q.get 4).map Prod.fst).getD []).length ≤ 4 := by
      rw [PacketContents.get]
      split
      · exact Nat.zero_le _
      · exact List.length_take_le _ _
    refine Responds.around (.of_frames rfl) (responds_response r t rfl _ ?_) (responds_confRequestChain _ t c)
    simp only [List.length_append, length_put16]
    omega

theorem responds_handleConnRequest {p q : PacketContents} {req : L2capConnReq} (ident : UInt8)
    (hp : L2capConnReq.get? p = some (req, q)) :
    Responds s r (r.handleConnRequestL2cap t ident p) (towards t s (some (L2CAP_CONN_RSP, ident))) := by
  unfold handleConnRequestL2cap
  rw [hp]
  dsimp only
  split
  · exact responds_response r t (by decide) ident (by simp [length_put16])
  · refine Responds.around (.of_frames (frames_onChannels r t _))
      (responds_response _ t (by decide) ident ?_) (responds_l2capSendConfigureMtuRequest _ t _ _)
    simp [length_put16]

theorem responds_handleDisconnRequest {p q : PacketContents} {req : L2capDisconnReq} (ident : UInt8)
    (hp : L2capDisconnReq.get? p = some (req, q)) :
    Responds s r (r.handleDisconnRequest t ident p) (towards t s (some (L2CAP_DISCONN_RSP, ident))) := by
  unfold handleDisconnRequest
  rw [hp]
  exact responds_response r t (by decide) ident (by simp [length_put16])

theorem responds_noteIdent (ident : UInt8) : Responds s r (r.noteIdent t ident) [] :=
  .of_frames (frames_onChannels r t _)

theorem currentCmdIdent_noteIdent (ident : UInt8) :
    ((r.noteIdent t ident).h t).channels.currentCmdIdent = ident := by
  simp [noteIdent]

/-- **A signalling PDU gets the response it asks for.** -/
theorem responds_handleL2capCmd (he : EndsApart s r) (p : PacketContents) :
    Responds s r (r.handleL2capCmd t p) (towards t s (responseTo p)) := by
  unfold handleL2capCmd responseTo L2capCommand.decode
  cases L2capCmdHdr.get? p with
  | none =>
    rw [Option.bind_none, towards_none]
    exact .of_frames rfl
  | some cmd =>
    obtain ⟨hdr, q⟩ := cmd
    have hnote : Responds s r (r.noteIdent t hdr.ident) [] := responds_noteIdent r t hdr.ident
    have hbefore : ∀ {u new}, Responds s (r.noteIdent t hdr.ident) u new → Responds s r u new :=
      fun h ↦ Responds.around hnote h (.of_frames rfl)
    have hnone : Responds s r (r.noteIdent t hdr.ident) (towards t s ((responseCode .other).map (·, hdr.ident))) := by
      rw [show responseCode .other = none from rfl, Option.map_none, towards_none]
      exact hnote
    rw [Option.bind_some]
    dsimp only
    refine .ite (fun _ ↦ ?_) fun _ ↦ .ite (fun _ ↦ ?_) fun _ ↦ .ite (fun _ ↦ ?_) fun _ ↦
      .ite (fun _ ↦ ?_) fun _ ↦ .ite (fun _ ↦ ?_) fun _ ↦ hnone
    · refine .elim (fun h ↦ hbefore (responds_handleConnResponse _ t q)) fun rsp q' hp ↦ ?_
      rw [show responseCode (.connResponse rsp) = none from rfl, Option.map_none, towards_none]
      exact hbefore (responds_handleConnResponse _ t q)
    · have hq := Performs.within (A := ∅) (quiet_handleConfResponse (r.noteIdent t hdr.ident) t q)
      have hrest := Responds.of_within (noteIdent_endsApart he t hdr.ident) hq (Set.notMem_empty _)
      refine .elim (fun h ↦ hbefore hrest) fun rsp q' hp ↦ ?_
      rw [show responseCode (.confResponse rsp) = none from rfl, Option.map_none, towards_none]
      exact hbefore hrest
    · refine .elim (fun h ↦ ?_) fun req q' hp ↦ ?_
      · rw [handleConfRequest, h]
        exact hnote
      · have hanswer := responds_handleConfRequest (s := s) (r.noteIdent t hdr.ident) t hp
        rw [currentCmdIdent_noteIdent] at hanswer
        exact hbefore hanswer
    · refine .elim (fun h ↦ ?_) fun req q' hp ↦ ?_
      · rw [handleConnRequestL2cap, h]
        exact hnote
      · exact hbefore (responds_handleConnRequest _ t hdr.ident hp)
    · refine .elim (fun h ↦ ?_) fun req q' hp ↦ ?_
      · rw [handleDisconnRequest, h]
        exact hnote
      · exact hbefore (responds_handleDisconnRequest _ t hdr.ident hp)

end signalling

/-! ## One step -/

theorem responds_acl (he : EndsApart s r) (t : ConnectionSide) (p : PacketContents) :
    Responds s r (r.handleAcl t p)
      (match r.contentsOf t p with
        | .command q => towards t s (responseTo q)
        | _ => []) := by
  have hpart := acl_part r t p
  revert hpart
  generalize r.handleAcl t p = r'
  generalize r.contentsOf t p = contents
  intro hpart
  cases hpart with
  | nothing h => exact .of_within he h (by simp)
  | @command re pdu q _ h =>
    obtain ⟨re', rfl⟩ := h
    have hbefore := within_arriving (A := {.linkNotes, .routing}) r t (by simp) (by simp) p re pdu
    have harrived : EndsApart s (r.arriving t p re pdu) := he.of_within hbefore (by simp)
    exact .around (.of_within he hbefore (by simp)) (responds_handleL2capCmd _ t harrived q) (.of_frames rfl)
  | @payload re pdu cid data _ h =>
    obtain ⟨re', rfl⟩ := h
    have hbefore := within_arriving
      (A := {.linkNotes, .routing, .relaying t.other, .reports, .forwarding, .console t, .pacing t})
      r t (by simp) (by simp) p re pdu
    have hroute := within_routePayload
      (A := {.linkNotes, .routing, .relaying t.other, .reports, .forwarding, .console t, .pacing t})
      (r.arriving t p re pdu) t (by simp) (by simp) (by simp) (by simp) (by simp) cid data
    exact (Responds.of_within he (hbefore.trans hroute) (by simp)).trans (.of_frames rfl)

theorem responds_handleAuthComplete (he : EndsApart s r) {t : ConnectionSide} {p q : PacketContents}
    {e : EvtAuthComplete} (hp : EvtAuthComplete.get? p = some (e, q)) :
    Responds s r (r.handleAuthComplete t p) [] := by
  by_cases hc : t = .toDualsense ∧ e.status = HCI_SUCCESS
  · obtain ⟨rfl, hs⟩ := hc
    have hask : r.handleAuthComplete .toDualsense p = r.l2capSendConnRequest .toDualsense .sdpClient := by
      rw [handleAuthComplete, hp]
      exact if_neg (not_not_intro hs)
    rw [hask]
    exact responds_l2capSendConnRequest r _ _
  · have hq := within_handleAuthComplete (A := {.keys}) r t rfl hp fun ht hs ↦ absurd ⟨ht, hs⟩ hc
    exact .of_within he hq (by simp)

theorem responds_handleEncryptChange {t : ConnectionSide} {p q : PacketContents}
    {e : EvtEncryptChange} (hp : EvtEncryptChange.get? p = some (e, q)) :
    Responds s r (r.handleEncryptChange t p) [] := by
  unfold handleEncryptChange
  rw [hp]
  dsimp -zeta only
  extract_lets r₁
  have h₁ : Responds s r r₁ [] := by
    show Responds s r (ite _ _ _) []
    split
    · exact responds_l2capSendConnRequest r _ _
    · exact .of_frames rfl
  split
  · split
    · exact h₁.trans (.of_frames (frames_sendCmd r₁ t _ _ _ _))
    · exact h₁
  · exact .of_frames rfl

theorem responds_fireInterruptFallback (r : Relay) (t : ConnectionSide) (link : UInt16) :
    Responds s r (r.fireInterruptFallback t link) [] := by
  rw [fireInterruptFallback]
  split
  · exact responds_l2capSendConnRequest r t _
  · exact .of_frames rfl

/-- **What a step answers.** -/
theorem responds_step (he : EndsApart s r) (i : Input) : Responds s r (r.step i) (r.asked s i) := by
  have hm := step_move r i
  have hw := hm.within
  rw [asked]
  revert hm hw
  generalize r.cause i = cause
  generalize r.step i = r'
  intro hm hw
  cases hm with
  | acl => exact responds_acl he _ _
  | authComplete hp => exact responds_handleAuthComplete he hp
  | encryptChange hp => exact responds_handleEncryptChange hp
  | @interruptFallback t link k hk =>
    exact Responds.trans (.of_frames rfl) (responds_fireInterruptFallback (r.unpark k) t link)
  | quiet h hc =>
    have hnone := Responds.of_within (A := ∅) he h.within (Set.notMem_empty _)
    cases cause with
    | acl => exact absurd hc (Set.insert_nonempty _ _).ne_empty
    | _ => exact hnone
  | _ => exact .of_within he hw (by simp [Cause.aspects])

end Relay

open Relay

/-- **Each request is answered once.**  In every run in which no peer names the signalling channel as the end
of another one, a side sends its peer a response for each of the peer's requests to open a channel, to
configure one that is there, or to close one, in the order in which they come, of the request's kind and with
its identifier, and no other responses. -/
theorem requests_answered (cfg : Config) (is : List Input) (s : ConnectionSide)
    (h : Along Relay.step NamesApart (.init cfg) is) :
    (run Relay.step (.init cfg) is).responses s = trace Relay.step (fun r i ↦ r.asked s i) (.init cfg) is := by
  have hall : ∀ r : Relay, EndsApart s r → Along Relay.step NamesApart r is →
      (run Relay.step r is).responses s = r.responses s ++ trace Relay.step (fun r i ↦ r.asked s i) r is := by
    clear h
    induction is with
    | nil => exact fun r _ _ ↦ (List.append_nil _).symm
    | cons i is ih =>
      rintro r he ⟨hi, his⟩
      have hapart : EndsApart s (r.step i) := by
        refine (asks_step he i fun cmd hcmd hn ↦ hi ?_).2
        rw [hcmd, Option.bind_some, hn]
      have hstep : (r.step i).responses s = r.responses s ++ r.asked s i := responds_step he i
      rw [run_cons, ih _ hapart his, hstep, List.append_assoc, trace]
  exact hall (.init cfg) (fun c ↦ (by decide : (0 : UInt16) ≠ L2CAP_CID_SIGNALLING)) h

/-- The console opens its interrupt channel and closes it again. -/
theorem requests_answered_console :
    (run Relay.step (.init .session) (Input.bothLinked
      ++ [.signal .toPlaystation 2 L2CAP_CONN_REQ 7 (put16 Channel.hidInterrupt.psm ++ put16 0x40),
        .signal .toPlaystation 2 L2CAP_DISCONN_REQ 9 (put16 Channel.hidInterrupt.scid ++ put16 0x40)])).responses
      .toPlaystation = [(L2CAP_CONN_RSP, 7), (L2CAP_DISCONN_RSP, 9)] := by
  rw [requests_answered .session _ .toPlaystation (by decide +kernel)]
  decide +kernel

end DualSenseMitm
