import DualSenseMitm.Runs.Ends
import DualSenseMitm.Runs.FeatureAnswers
import DualSenseMitm.Runs.Pages
import DualSenseMitm.Runs.ServiceRecord

/-!
# Two links of one side

The console keeps its first link open behind the one it plays on, and both end in the same channels.  A
PDU loses its link before a handler sees it: what it is answered with goes out on the current link, and
what it says is taken for what the current link says.

* `KeepsApart` — what a PDU on a link may do.
* `OnOwnLink` — a PDU on the current link, or one there is nothing to mix up about.
* `links_kept_apart` — while all are such PDUs, the links do not mix.
-/

set_option autoImplicit false

namespace DualSenseMitm

open Bytes Machine

/-! ## What may happen because of a PDU -/

/-- The code of an answer on the signalling channel. -/
def answerCode (code : UInt8) : Bool := [L2CAP_CONN_RSP, L2CAP_CONF_RSP, L2CAP_DISCONN_RSP].contains code

/-- An answer on the signalling channel, as it is written. -/
def isAnswer (frame : List UInt8) : Bool := le16 frame 7 == L2CAP_CID_SIGNALLING && answerCode (byteAt frame 9)

namespace Relay

/-- What a side has been given by the other one: the frames sent to it, the report held for it and the
record kept for it. -/
def given (r : Relay) (s : ConnectionSide) : List Sent × HeldFrame × List UInt8 :=
  (r.frames.filter fun f ↦ f.side == s, (r.h s).held, (r.h s).streams.sdpAnswerCache)

/-- A PDU on the link `handle` is answered on it, and leaves what belongs to another link alone. -/
structure KeepsApart (r : Relay) (s : ConnectionSide) (handle : UInt16) (r' : Relay) (new : List Output) :
    Prop where
  answers : ∀ {frame ok links}, .acl s frame ok links ∈ new → isAnswer frame = true → frameHandle frame = handle
  ends : handle ≠ (r.h s).links.connectionHandle → ∀ c, r'.dcid s c = r.dcid s c
  full : handle ≠ (r.h s).links.connectionHandle →
    (r'.h s).channels.consoleFullReports = (r.h s).channels.consoleFullReports
  given : handle ≠ (r.h s).links.connectionHandle → r'.given s.other = r.given s.other

/-- Whatever PDU the step completes, it keeps the links apart. -/
def LinksApart (r : Relay) (i : Input) : Prop :=
  match r.cause i with
  | .acl s p => r.completedPdu s p ≠ none → r.KeepsApart s (aclHandle p) (r.step i) (r.added i)
  | _ => True

/-! ## PDUs with nothing to mix up -/

/-- A command the relay answers. -/
def L2capCommand.isAnswered : L2capCommand → Bool
  | .confRequest req => (Channel.byScid req.dcid).isSome
  | .connRequest _ | .disconnRequest _ => true
  | _ => false

/-- A request of the console's that turns full reports on. -/
def TurnsFull (r : Relay) (s : ConnectionSide) (cid : UInt16) (data : List UInt8) : Prop :=
  s = .toPlaystation ∧ cid = Channel.hidControl.scid ∧ 1 < data.length
    ∧ (r.h s).channels.consoleFullReports = false
    ∧ (byteAt data 1 = REPORT_CALIBRATION ∨ byteAt data 1 = REPORT_FIRMWARE)

/-- A payload that is handed on to the other side, or kept for it. -/
def HandsAcross (r : Relay) (s : ConnectionSide) (cid : UInt16) (data : List UInt8) : Prop :=
  r.linked = true
    ∧ (cid = Channel.hidControl.scid ∧ r.dcid s.other .hidControl ≠ 0 ∧ tooLarge data = false
      ∨ cid = Channel.hidInterrupt.scid ∧ r.dcid s.other .hidInterrupt ≠ 0
          ∧ (s = .toDualsense → opaqueFrame data = false) ∧ (s = .toPlaystation → tooLarge data = false)
      ∨ cid = Channel.sdpClient.scid
      ∨ cid = Channel.hidSdp.scid ∧ s = .toPlaystation ∧ r.dcid s.other .sdpClient ≠ 0
          ∧ tooLarge data = false)

/-- What a PDU carries has nothing to do with the current link.  (No end is on the signalling channel of
a peer that keeps to the rules; on that of one that does not, data may look like an answer.) -/
def Neutral (r : Relay) (s : ConnectionSide) (handle : UInt16) : PduContents → Prop
  | .nothing => True
  | .command q =>
    let cmd := L2capCommand.decode q
    (cmd.isAnswered = true → (r.h s).links.connectionHandle &&& 0x0fff = handle)
      ∧ ∀ c, ∀ d ∈ boundEnd c cmd, r.dcid s c = d
  | .payload cid data =>
    ¬ r.TurnsFull s cid data ∧ ¬ r.HandsAcross s cid data
      ∧ (cid = Channel.hidSdp.scid → r.dcid s .hidSdp ≠ L2CAP_CID_SIGNALLING)

/-- A PDU that a step completes is of the current link, or neutral. -/
def OnOwnLink (r : Relay) (i : Input) : Prop :=
  match r.cause i with
  | .acl s p =>
    aclHandle p = (r.h s).links.connectionHandle ∨ r.Neutral s (aclHandle p) (r.contentsOf s p)
  | _ => True

variable {r r' r'' : Relay} {s t : ConnectionSide}

/-! ## The link of a frame -/

/-- The link a frame of a side is written to. -/
def OnLink (s : ConnectionSide) (handle : UInt16) : Output → Prop
  | .acl t frame _ _ => t = s → frameHandle frame = handle
  | _ => True

theorem onLink_pumped (handle : UInt16) (ps : List (Command × Bool)) :
    ∀ o ∈ ps.map (pumpOutput t), OnLink s handle o := by
  intro o ho
  obtain ⟨p, -, rfl⟩ := List.mem_map.mp ho
  rw [pumpOutput]
  split <;> trivial

theorem onLink_perform {A : Set Aspect} {op : Op} (hop : op.Within A r) :
    ∃ new, (r.perform op).out = r.out ++ new
      ∧ ∀ o ∈ new, OnLink s ((r.h s).links.connectionHandle &&& 0x0fff) o := by
  cases op with
  | frame t cid pre data =>
    refine ⟨_, out_l2capSendFrame r t cid pre data, ?_⟩
    intro o ho
    split at ho
    · cases ho
    · rw [List.mem_singleton] at ho
      subst ho
      rintro rfl
      exact frameHandle_aclFrame _ _ _
  | emit o =>
    refine ⟨[o], out_emit r o, fun o' ho ↦ ?_⟩
    rw [List.mem_singleton.mp ho]
    cases o with
    | acl => exact absurd hop (by rintro (h | h) <;> cases h)
    | _ => trivial
  | pump t => exact ⟨_, out_pumpCommands r t, onLink_pumped _ _⟩
  | cmd t ogf ocf param what =>
    refine ⟨_, out_sendCmd r t ogf ocf param what, fun o ho ↦ ?_⟩
    rcases List.mem_cons.mp ho with rfl | ho
    · trivial
    · exact onLink_pumped _ _ o ho
  | _ => exact ⟨[], (List.append_nil _).symm, fun o ho ↦ by cases ho⟩

/-- **Frames go out on the current link.** -/
theorem onLink_of_within {A : Set Aspect} (h : Performs (Op.Within A) r r') (hA : .links ∉ A) :
    ∃ new, r'.out = r.out ++ new ∧ ∀ o ∈ new, OnLink s ((r.h s).links.connectionHandle &&& 0x0fff) o := by
  let Inv (a : Relay) : Prop := (a.h s).links.connectionHandle = (r.h s).links.connectionHandle
    ∧ ∃ new, a.out = r.out ++ new ∧ ∀ o ∈ new, OnLink s ((r.h s).links.connectionHandle &&& 0x0fff) o
  refine (h.invariant Inv ⟨rfl, [], (List.append_nil _).symm, fun o ho ↦ by cases ho⟩ ?_).2
  rintro a op ⟨hlink, new, hout, hnew⟩ hop
  obtain ⟨more, hmore, hon⟩ := onLink_perform (s := s) hop
  refine ⟨(congrArg Prod.fst (openLinks_perform hop s hA)).trans hlink, new ++ more, ?_, fun o ho ↦ ?_⟩
  · rw [hmore, hout, List.append_assoc]
  · rw [hlink] at hon
    exact (List.mem_append.mp ho).elim (hnew o) (hon o)

/-! ## Answers -/

/-- An answer among the frames that are sent. -/
abbrev Answers (f : Sent) : Prop := f.cid = L2CAP_CID_SIGNALLING ∧ answerCode (byteAt f.payload 0) = true

/-- What is sent is sent to the side, and answers nothing. -/
abbrev Plain (s : ConnectionSide) (f : Sent) : Prop := f.side = s ∧ ¬ Answers f

theorem sends_request (r : Relay) {code : UInt8} (hcode : answerCode code = false) (data : List UInt8) :
    Sends (Plain s) r (r.l2capSendCmdRequest s code data) := by
  refine ⟨_, frames_l2capSendFrame _ s L2CAP_CID_SIGNALLING _ data, fun f hf ↦ ?_⟩
  rw [(mem_frameOf.mp hf).2]
  exact ⟨rfl, fun h ↦ absurd (hcode.symm.trans h.2) (by decide)⟩

theorem sends_response (r : Relay) (ident code : UInt8) (data : List UInt8) :
    Sends (·.side = s) r (r.l2capSendCmdResponse s ident code data) := by
  refine ⟨_, frames_l2capSendFrame r s L2CAP_CID_SIGNALLING _ data, fun f hf ↦ ?_⟩
  rw [(mem_frameOf.mp hf).2]

theorem sends_handleConnResponse (r : Relay) (p : PacketContents) :
    Sends (Plain s) r (r.handleConnResponse s p) := by
  unfold handleConnResponse
  split
  · exact .of_eq rfl
  · split
    · split
      · exact .of_eq rfl
      · exact (Sends.of_eq (frames_onChannels r s _)).trans (sends_request _ (by decide) _)
    · exact .of_eq rfl

/-- The pad's record is asked for on a channel of its own. -/
theorem sends_handleConfResponse (r : Relay) (p : PacketContents) :
    Sends (Plain s) r (r.handleConfResponse s p) := by
  unfold handleConfResponse
  split
  · exact .of_eq rfl
  · extract_lets r₁
    have h₁ : Sends (Plain s) r r₁ := by
      show Sends (Plain s) r (ite _ _ _)
      split
      · refine ⟨_, frames_l2capSendData r s .sdpClient browse, fun f hf ↦ ?_⟩
        rw [(mem_sentOn r s).mp hf |>.2.2]
        exact ⟨rfl, fun h ↦ absurd h.2 (show ¬ answerCode (byteAt browse 0) = true by decide)⟩
      · exact .of_eq rfl
    split
    · exact h₁.trans (.of_eq rfl)
    · exact h₁

theorem sends_confRequestChain (r : Relay) (c : Channel) : Sends (Plain s) r (r.confRequestChain s c) := by
  unfold confRequestChain
  split
  · exact .of_eq rfl
  · split
    · split
      · exact .of_eq rfl
      · exact .of_eq rfl
    · exact .of_eq rfl
    · exact sends_request r (by decide) _
    · exact sends_request r (by decide) _
    · exact .of_eq rfl

theorem sends_handleConfRequest (r : Relay) (p : PacketContents) :
    Sends (fun f ↦ f.side = s ∧ (((L2capConfReq.get? p).elim L2capCommand.other fun q ↦
      .confRequest q.1).isAnswered = false → ¬ Answers f)) r (r.handleConfRequest s p) := by
  unfold handleConfRequest
  cases L2capConfReq.get? p with
  | none => exact .of_eq rfl
  | some q =>
    obtain ⟨req, p⟩ := q
    cases hc : Channel.byScid req.dcid with
    | none =>
      simp only [hc]
      exact .of_eq rfl
    | some c =>
      simp only [hc]
      have hanswered : (L2capCommand.confRequest req).isAnswered = true := by
        rw [L2capCommand.isAnswered, hc, Option.isSome_some]
      refine Sends.mono ((sends_response r _ _ _).trans ((sends_confRequestChain _ c).mono fun _ h ↦ h.1))
        fun f hf ↦ ⟨hf, fun hno ↦ absurd (hanswered.symm.trans hno) (by decide)⟩

theorem sends_handleConnRequestL2cap (r : Relay) (ident : UInt8) (p : PacketContents) :
    Sends (·.side = s) r (r.handleConnRequestL2cap s ident p) := by
  unfold handleConnRequestL2cap
  split
  · exact .of_eq rfl
  · split
    · exact sends_response r _ _ _
    · exact ((Sends.of_eq (frames_onChannels r s _)).trans (sends_response _ _ _ _)).trans
        ((sends_request _ (by decide) _).mono fun _ h ↦ h.1)

theorem sends_handleDisconnRequest (r : Relay) (ident : UInt8) (p : PacketContents) :
    Sends (·.side = s) r (r.handleDisconnRequest s ident p) := by
  unfold handleDisconnRequest
  split
  · exact .of_eq rfl
  · exact sends_response r _ _ _

/-- **What a command leads to** is sent on its own side, and answers only what asks for an answer. -/
theorem sends_handleL2capCmd (r : Relay) (q : PacketContents) :
    Sends (fun f ↦ f.side = s ∧ ((L2capCommand.decode q).isAnswered = false → ¬ Answers f)) r
      (r.handleL2capCmd s q) := by
  unfold L2capCommand.decode handleL2capCmd
  cases L2capCmdHdr.get? q with
  | none => exact .of_eq rfl
  | some cmd =>
    obtain ⟨hdr, p⟩ := cmd
    dsimp only
    have hnote : (r.onChannels s fun c ↦ { c with currentCmdIdent := hdr.ident }).frames = r.frames :=
      frames_onChannels r s _
    refine (Sends.of_eq hnote).trans ?_
    generalize (r.onChannels s fun c ↦ { c with currentCmdIdent := hdr.ident }) = r
    by_cases h₁ : hdr.code = L2CAP_CONN_RSP
    · rw [if_pos h₁, if_pos h₁]
      exact (sends_handleConnResponse r p).mono fun _ h ↦ ⟨h.1, fun _ ↦ h.2⟩
    rw [if_neg h₁, if_neg h₁]
    by_cases h₂ : hdr.code = L2CAP_CONF_RSP
    · rw [if_pos h₂, if_pos h₂]
      exact (sends_handleConfResponse r p).mono fun _ h ↦ ⟨h.1, fun _ ↦ h.2⟩
    rw [if_neg h₂, if_neg h₂]
    by_cases h₃ : hdr.code = L2CAP_CONF_REQ
    · rw [if_pos h₃, if_pos h₃]
      exact sends_handleConfRequest r p
    rw [if_neg h₃, if_neg h₃]
    by_cases h₄ : hdr.code = L2CAP_CONN_REQ
    · rw [if_pos h₄, if_pos h₄]
      cases hp : L2capConnReq.get? p with
      | none =>
        rw [handleConnRequestL2cap, hp]
        exact .of_eq rfl
      | some req =>
        exact (sends_handleConnRequestL2cap r _ p).mono fun f hf ↦ ⟨hf, fun hno ↦ by cases hno⟩
    rw [if_neg h₄, if_neg h₄]
    by_cases h₅ : hdr.code = L2CAP_DISCONN_REQ
    · rw [if_pos h₅, if_pos h₅]
      cases hp : L2capDisconnReq.get? p with
      | none =>
        rw [handleDisconnRequest, hp]
        exact .of_eq rfl
      | some req =>
        exact (sends_handleDisconnRequest r _ p).mono fun f hf ↦ ⟨hf, fun hno ↦ by cases hno⟩
    rw [if_neg h₅, if_neg h₅]
    exact .of_eq rfl

/-! ## What belongs to another link -/

/-- The ends of a side, the console's way of reading and what the other side is given are as they were, and
what is sent is such a frame to the side itself. -/
structure Untouched (s : ConnectionSide) (P : Sent → Prop) (r r' : Relay) : Prop where
  ends : ∀ c, r'.dcid s c = r.dcid s c
  full : (r'.h s).channels.consoleFullReports = (r.h s).channels.consoleFullReports
  held : (r'.h s.other).held = (r.h s.other).held
  cache : (r'.h s.other).streams.sdpAnswerCache = (r.h s.other).streams.sdpAnswerCache
  sends : Sends (fun f ↦ f.side = s ∧ P f) r r'

namespace Untouched

variable {P : Sent → Prop}

@[refl] theorem refl (r : Relay) : Untouched s P r r := ⟨fun _ ↦ rfl, rfl, rfl, rfl, .of_eq rfl⟩

theorem trans (h : Untouched s P r r') (h' : Untouched s P r' r'') : Untouched s P r r'' :=
  ⟨fun c ↦ (h'.ends c).trans (h.ends c), h'.full.trans h.full, h'.held.trans h.held, h'.cache.trans h.cache,
    h.sends.trans h'.sends⟩

/-- What is sent on one side is nothing to the other. -/
theorem given (h : Untouched s P r r') : r'.given s.other = r.given s.other := by
  obtain ⟨new, hframes, hnew⟩ := h.sends
  have hnone : (new.filter fun f ↦ f.side == s.other) = [] := by
    refine List.filter_eq_nil_iff.mpr fun f hf ↦ ?_
    rw [(hnew f hf).1]
    cases s <;> decide
  rw [Relay.given, Relay.given, hframes, List.filter_append, hnone, List.append_nil, h.held, h.cache]

/-- Work that has nothing to do with them. -/
theorem of_within {A : Set Aspect} (h : Performs (Op.Within A) r r')
    (hA : ∀ a ∈ [Aspect.links, .console s, .relaying s.other], a ∉ A)
    (hends : ∀ c, r'.dcid s c = r.dcid s c)
    (hcache : (r'.h s.other).streams.sdpAnswerCache = (r.h s.other).streams.sdpAnswerCache)
    (hsends : Sends (fun f ↦ f.side = s ∧ P f) r r') : Untouched s P r r' :=
  ⟨hends, congrArg Prod.fst (console_eq h s (hA _ (by simp)) (hA _ (by simp))),
    held_eq h s.other (hA _ (by simp)) (hA _ (by simp)), hcache, hsends⟩

/-- And that sends nothing. -/
theorem of_frames {A : Set Aspect} (h : Performs (Op.Within A) r r')
    (hA : ∀ a ∈ [Aspect.links, .console s, .relaying s.other], a ∉ A) (hB : .binding s ∉ A)
    (hF : .forwarding ∉ A) (hframes : r'.frames = r.frames) : Untouched s P r r' :=
  of_within h hA (fun c ↦ by rw [dcid_eq h s (hA _ (by simp)) hB]) (sdpAnswerCache_eq h s.other hF)
    (.of_eq hframes)

theorem of_quiet (h : Performs Op.Quiet r r') (hframes : r'.frames = r.frames) : Untouched s P r r' :=
  of_frames (A := ∅) h.within (by simp) (by simp) (by simp) hframes

end Untouched

/-- A channel that is closed takes nothing, and a frame that is too large is not sent. -/
theorem l2capSendFramed_of_not {c : Channel} {pre data : List UInt8}
    (h : ¬ (r.dcid s c ≠ 0 ∧ tooLarge (pre ++ data) = false)) : r.l2capSendFramed s c pre data = r := by
  rw [l2capSendFramed]
  split
  · rfl
  · rename_i hne
    rw [l2capSendFrame]
    exact if_pos (Bool.not_eq_false _ ▸ not_and.mp h hne)

/-- The header of a payload and the rest are as long as the payload. -/
theorem tooLarge_header {header : UInt8} {data data' : List UInt8} (hne : data ≠ [])
    (hlen : data'.length = data.length) : tooLarge ([header] ++ data'.drop 1) = tooLarge data := by
  have hpos := List.length_pos_iff.mpr hne
  rw [tooLarge, tooLarge, List.length_append, List.length_drop, List.length_singleton, hlen]
  congr 2
  omega

/-! ## Payloads that are not handed on -/

section payloads

variable {P : Sent → Prop}

theorem untouched_handleFeatureAnswerFromPad {report : List UInt8} (hne : report ≠ [])
    (h : ¬ r.ForwardsAnswer report) :
    Untouched .toDualsense P r (r.handleFeatureAnswerFromPad .toDualsense report) := by
  unfold handleFeatureAnswerFromPad
  extract_lets feature addr report' r₁
  have h₁ : r₁ = r := by
    show (ite _ _ _ : Relay) = r
    split
    · rename_i hopen
      refine l2capSendFramed_of_not fun hsent ↦ h ⟨hopen.1, hopen.2, ?_⟩
      rw [← tooLarge_header hne (r.length_relayedAnswer)]
      exact hsent.2
    · rfl
  rw [h₁]
  have hfeature : Performs (Op.Within {.reports}) r (r.onFeatureReport (report'.drop 1)) :=
    within_onFeatureReport r (by simp) _
  split
  · exact .of_frames hfeature (by simp) (by simp) (by simp) (frames_onFeatureReport r _)
  · exact .refl r

theorem handleFeatureRequestFromConsole_of_not {report : List UInt8} (hne : report ≠ [])
    (hfull : ¬ r.TurnsFull .toPlaystation Channel.hidControl.scid report)
    (h : ¬ (r.linked = true ∧ r.dcid .toDualsense .hidControl ≠ 0 ∧ tooLarge report = false)) :
    r.handleFeatureRequestFromConsole .toPlaystation report = r := by
  unfold handleFeatureRequestFromConsole
  extract_lets r₁
  have h₁ : r₁ = r := by
    refine if_neg fun hturns ↦ hfull ⟨rfl, rfl, hturns.1, ?_, hturns.2.2⟩
    exact Bool.not_eq_true _ ▸ hturns.2.1
  rw [h₁]
  split
  · rename_i hopen
    refine l2capSendFramed_of_not fun hsent ↦ h ⟨hopen.1, hopen.2, ?_⟩
    rw [← tooLarge_header hne rfl]
    exact hsent.2
  · rfl

/-- A frame of the opaque stream is counted, and with no channel to the console nothing happens at all. -/
theorem untouched_relayPadInputToConsole {report : List UInt8}
    (h : ¬ (r.linked = true ∧ r.dcid .toPlaystation .hidInterrupt ≠ 0 ∧ opaqueFrame report = false)) :
    Untouched .toDualsense P r (r.relayPadInputToConsole .toDualsense report) := by
  unfold relayPadInputToConsole
  split
  · rename_i hopen
    rw [if_pos (Bool.not_eq_false _ ▸ fun hno ↦ h ⟨hopen.1, hopen.2, hno⟩)]
    have hseen : Performs Op.Quiet r (r.onChannels .toPlaystation fun c ↦ { c with consoleInputSeen := true }) :=
      quiet_onChannels r _ fun _ ↦ ⟨rfl, rfl⟩
    exact .of_quiet (hseen.trans (quiet_onStreams _ _ fun _ ↦ by rfl)) rfl
  · exact .refl r

theorem untouched_relayPadInput {report : List UInt8}
    (h : ¬ (r.linked = true ∧ r.dcid .toPlaystation .hidInterrupt ≠ 0 ∧ opaqueFrame report = false)) :
    Untouched .toDualsense P r (r.relayPadInput .toDualsense report) := by
  unfold relayPadInput
  extract_lets r₁
  have hmark : Performs (Op.Within {.relaying .toDualsense}) r r₁ := within_emit r ⟨_, rfl⟩
  have h₁ : Untouched .toDualsense P r r₁ := .of_frames hmark (by simp) (by simp) (by simp) (by simp [r₁])
  have hpublish := quiet_publishInput r₁ .toDualsense report
  have husb := quiet_relayPadInputToUsb (r₁.publishInput .toDualsense report) .toDualsense report
  have h₂ := (h₁.trans (.of_quiet hpublish (by simp))).trans (.of_quiet husb (by simp))
  have hends : Performs (Op.Within ∅) r₁
      ((r₁.publishInput .toDualsense report).relayPadInputToUsb .toDualsense report) :=
    Performs.within (hpublish.trans husb)
  refine h₂.trans (untouched_relayPadInputToConsole ?_)
  rw [hends.linked, dcid_eq hends .toPlaystation (by simp) (by simp)]
  exact h

theorem untouched_noteConsoleOutput (r : Relay) :
    Untouched .toPlaystation P r (r.noteConsoleOutput .toPlaystation) := by
  unfold noteConsoleOutput
  split
  · exact .refl r
  · have hseen : Untouched .toPlaystation P r
        (r.onChannels .toPlaystation fun c ↦ { c with consoleOutputSeen := true }) :=
      ⟨fun c ↦ by simp [dcid], by simp, rfl, rfl, .of_eq rfl⟩
    generalize (r.onChannels .toPlaystation fun c ↦ { c with consoleOutputSeen := true }) = r₁ at hseen
    have hquiet : Performs (Op.Within {.pacing .toPlaystation}) r₁ (r₁.quietTheRadio .toPlaystation) :=
      within_quietTheRadio r₁ _ (by rfl)
    refine hseen.trans (.of_frames hquiet (by simp) (by simp) (by simp) ?_)
    rw [quietTheRadio]
    split
    · exact frames_sendCmd r₁ _ _ _ _ _
    · rfl

theorem untouched_relayConsoleOutputToPad {report : List UInt8}
    (h : ¬ (r.linked = true ∧ r.dcid .toDualsense .hidInterrupt ≠ 0 ∧ tooLarge report = false)) :
    Untouched .toPlaystation P r (r.relayConsoleOutputToPad .toPlaystation report) := by
  have hnote : Performs (Op.Within {.console .toPlaystation, .pacing .toPlaystation}) r
      (r.noteConsoleOutput .toPlaystation) :=
    .ite (fun _ ↦ .refl r) fun _ ↦
      .trans (within_onConsole r _ (by simp) fun _ ↦ ⟨by rfl, by rfl⟩) (within_quietTheRadio _ _ (by simp))
  refine (untouched_noteConsoleOutput r).trans (.of_quiet (quiet_behindNoteConsoleOutput r report) ?_)
  unfold relayConsoleOutputToPad
  extract_lets r₁ target r₂ r₃
  show _ = r₁.frames
  have h₂ : r₂.frames = r₁.frames ∧ r₂.dcid = r₁.dcid ∧ r₂.linked = r₁.linked := by
    show Relay.frames (ite _ _ _) = _ ∧ Relay.dcid (ite _ _ _) = _ ∧ Relay.linked (ite _ _ _) = _
    split
    · exact ⟨rfl, by funext t c; simp [dcid], rfl⟩
    · exact ⟨rfl, rfl, rfl⟩
  have hends : r₁.dcid .toDualsense .hidInterrupt = r.dcid .toDualsense .hidInterrupt := by
    show (r.noteConsoleOutput .toPlaystation).dcid _ _ = _
    rw [dcid_eq hnote _ (by simp) (by simp)]
  have hlinked : r₁.linked = r.linked := hnote.linked
  split
  · rename_i hopen
    have hlarge : ∀ a : Relay, a.dcid = r₂.dcid → a.l2capSendData .toDualsense .hidInterrupt report = a := by
      intro a ha
      refine l2capSendFramed_of_not fun hsent ↦ h ⟨?_, ?_, hsent.2⟩
      · rw [← hlinked, ← h₂.2.2]
        exact hopen.1
      · rw [← hends, ← h₂.2.1]
        exact hopen.2
    split
    · show (l2capSendData _ _ _ _).frames = _
      rw [ConnectionSide.other, hlarge]
      · simp [r₃, afterRoom, h₂.1]
      · funext t c
        simp [r₃, afterRoom, dcid]
    · simp [r₃, afterRoom, h₂.1]
  · exact h₂.1

/-- A query that is not handed on is answered on its own side, if at all. -/
theorem untouched_handleSdpQuery {request : List UInt8} (s : ConnectionSide)
    (h : ¬ (r.linked = true ∧ s = .toPlaystation ∧ r.dcid s.other .sdpClient ≠ 0 ∧ tooLarge request = false))
    (hP : ∀ data, r.dcid s .hidSdp ≠ 0 → P ⟨s, r.dcid s .hidSdp, data⟩) :
    Untouched s P r (r.handleSdpQuery s request) := by
  have hsend : ∀ data, Untouched s P r (r.l2capSendData s .hidSdp data) := by
    intro data
    have hw : Performs (Op.Within {.forwarding}) r (r.l2capSendData s .hidSdp data) :=
      within_l2capSendFramed r s (.inr (by simp)) [] data
    refine .of_within hw (by simp) (fun c ↦ ?_) ?_ ⟨_, frames_l2capSendData r s .hidSdp data, fun f hf ↦ ?_⟩
    · rw [dcid_eq hw s (by simp) (by simp)]
    · exact congrArg Streams.sdpAnswerCache (streams_l2capSendFramed r s _ .hidSdp [] data)
    · obtain ⟨hopen, -, rfl⟩ := (mem_sentOn r s).mp hf
      exact ⟨rfl, hP data hopen⟩
  unfold handleSdpQuery handleSdpRequest
  extract_lets cache
  split
  · rename_i hopen
    have hlarge : ¬ (r.dcid s.other .sdpClient ≠ 0 ∧ tooLarge ([] ++ request) = false) := fun hsent ↦
      h ⟨hopen.2.1, hopen.1, hopen.2.2, hsent.2⟩
    rw [l2capSendData, l2capSendFramed_of_not hlarge]
  · split
    · exact hsend _
    · split
      · exact .refl r
      · exact hsend _

/-- **A payload that is not handed on.** -/
theorem untouched_routePayload {cid : UInt16} {data : List UInt8} (s : ConnectionSide) (hne : data ≠ [])
    (hfull : ¬ r.TurnsFull s cid data) (h : ¬ r.HandsAcross s cid data)
    (hP : cid = Channel.hidSdp.scid → ∀ data, r.dcid s .hidSdp ≠ 0 → P ⟨s, r.dcid s .hidSdp, data⟩) :
    Untouched s P r (r.routePayload s cid data) := by
  unfold routePayload
  split
  · rename_i hcid
    subst hcid
    cases s with
    | toDualsense =>
      exact untouched_handleFeatureAnswerFromPad hne fun hsent ↦ h ⟨hsent.1, .inl ⟨rfl, hsent.2⟩⟩
    | toPlaystation =>
      show Untouched _ P r (r.handleFeatureRequestFromConsole .toPlaystation data)
      rw [handleFeatureRequestFromConsole_of_not hne hfull fun hsent ↦ h ⟨hsent.1, .inl ⟨rfl, hsent.2⟩⟩]
  · split
    · rename_i hcid
      subst hcid
      cases s with
      | toDualsense =>
        refine untouched_relayPadInput fun hsent ↦ h ⟨hsent.1, .inr (.inl ⟨rfl, hsent.2.1, fun _ ↦ hsent.2.2, ?_⟩)⟩
        exact fun hs ↦ by cases hs
      | toPlaystation =>
        refine untouched_relayConsoleOutputToPad fun hsent ↦
          h ⟨hsent.1, .inr (.inl ⟨rfl, hsent.2.1, ?_, fun _ ↦ hsent.2.2⟩)⟩
        exact fun hs ↦ by cases hs
    · split
      · rename_i hcid
        have hlinked : ¬ r.linked = true := fun hlinked ↦ h ⟨hlinked, .inr (.inr (.inl hcid))⟩
        rw [handleSdpAnswerFromPad, if_neg hlinked]
      · split
        · rename_i hcid
          exact untouched_handleSdpQuery s
            (fun hsent ↦ h ⟨hsent.1, .inr (.inr (.inr ⟨hcid, hsent.2⟩))⟩) (hP hcid)
        · exact .refl r

end payloads

/-! ## Any PDU -/

theorem untouched_handleL2capCmd {q : PacketContents} (s : ConnectionSide)
    (h : ∀ c, ∀ d ∈ boundEnd c (.decode q), r.dcid s c = d) :
    Untouched s (fun f ↦ (L2capCommand.decode q).isAnswered = false → ¬ Answers f) r (r.handleL2capCmd s q) := by
  have hw : Performs (Op.Within {.signalling s, .binding s}) r (r.handleL2capCmd s q) :=
    within_handleL2capCmd r s (by simp) (by simp) q
  refine .of_within hw (by simp) (fun c ↦ ?_) (sdpAnswerCache_eq hw _ (by simp)) (sends_handleL2capCmd r q)
  rw [dcid_command s s c (command_move r s q), endAfter, if_pos rfl]
  cases hbound : boundEnd c (.decode q) with
  | none => rfl
  | some d => exact (h c d hbound).symm

theorem untouched_arriving {P : Sent → Prop} (p : PacketContents) (re : Option AclReasm) (pdu : List UInt8) :
    Untouched s P r (r.arriving s p re pdu) :=
  .of_frames (within_arriving (A := {.linkNotes, .routing}) r s (by simp) (by simp) p re pdu) (by simp) (by simp)
    (by simp) (by simp [arriving, setReasm])

theorem untouched_setReasm {P : Sent → Prop} (r : Relay) (handle : UInt16) (re : Option AclReasm) :
    Untouched s P r (r.setReasm s handle re) :=
  .of_frames (within_setReasm (A := {.linkNotes}) r s (by simp) handle re) (by simp) (by simp) (by simp) rfl

/-- What is sent because of a neutral PDU is no answer, unless the current link is the PDU's. -/
def MayAnswer (r : Relay) (s : ConnectionSide) (handle : UInt16) (f : Sent) : Prop :=
  (r.h s).links.connectionHandle &&& 0x0fff = handle ∨ ¬ Answers f

theorem untouched_routeL2capPdu {pdu : List UInt8} {handle : UInt16} (h : r.Neutral s handle (.decode pdu))
    {a : Relay} (ha : Untouched s (r.MayAnswer s handle) r a) (hlinked : a.linked = r.linked)
    (hother : a.dcid s.other = r.dcid s.other) :
    Untouched s (r.MayAnswer s handle) r (a.routeL2capPdu s pdu) := by
  have hpdu := pdu_move a s pdu
  have hdata : ∀ cid data, PduContents.decode pdu = .payload cid data → data ≠ [] := fun _ _ ↦ ne_nil_of_decode
  revert hpdu h hdata
  generalize a.routeL2capPdu s pdu = t
  generalize PduContents.decode pdu = contents
  intro h hpdu hdata
  cases hpdu with
  | nothing => exact ha
  | @command q =>
    have hbound : ∀ c, ∀ d ∈ boundEnd c (.decode q), a.dcid s c = d := fun c d hd ↦ (ha.ends c).trans (h.2 c d hd)
    have hcommand := untouched_handleL2capCmd s hbound
    refine ha.trans ⟨hcommand.ends, hcommand.full, hcommand.held, hcommand.cache, hcommand.sends.mono ?_⟩
    rintro f ⟨hside, hno⟩
    refine ⟨hside, ?_⟩
    by_cases hanswered : (L2capCommand.decode q).isAnswered = true
    · exact .inl (h.1 hanswered)
    · exact .inr (hno (Bool.eq_false_iff.mpr hanswered))
  | @payload cid data =>
    have hfull : ¬ a.TurnsFull s cid data := by
      rw [TurnsFull, ha.full]
      exact h.1
    have hhands : ¬ a.HandsAcross s cid data := by
      unfold HandsAcross
      rw [hlinked, hother]
      exact h.2.1
    refine ha.trans (untouched_routePayload s (hdata cid data rfl) hfull hhands fun hcid data _ ↦ .inr fun hans ↦ ?_)
    exact h.2.2 hcid ((ha.ends .hidSdp).symm.trans hans.1)

/-- **A neutral PDU.** -/
theorem untouched_of_neutral {p : PacketContents} (h : r.Neutral s (aclHandle p) (r.contentsOf s p))
    (hpdu : r.completedPdu s p ≠ none) :
    Untouched s (r.MayAnswer s (aclHandle p)) r (r.handleAcl s p) := by
  obtain ⟨pdu, hc⟩ := Option.ne_none_iff_exists'.mp hpdu
  have hcontents : r.contentsOf s p = .decode pdu := by
    rw [contentsOf, hc]
    rfl
  rw [hcontents] at h
  have hroute : ∀ re, Untouched s (r.MayAnswer s (aclHandle p)) r
      ((r.setReasm s (aclHandle p) re).routePdu s (aclHandle p) pdu) := by
    intro re
    have harrive := within_arriving (A := {.linkNotes, .routing}) r s (by simp) (by simp) p re pdu
    exact untouched_routeL2capPdu h (untouched_arriving p re pdu) harrive.linked
      (dcid_eq harrive s.other (by simp) (by simp))
  have hm := acl_move r s p
  revert hm
  generalize r.handleAcl s p = t
  intro hm
  cases hm with
  | dropped hnone => exact absurd (hnone.symm.trans hc) (by simp)
  | ghost ho =>
    have hnone : r.completedPdu s p = none := if_pos (.inl ho)
    exact absurd (hnone.symm.trans hc) (by simp)
  | buffered hnone => exact absurd (hnone.symm.trans hc) (by simp)
  | routed ho hc' =>
    obtain rfl := Option.some.inj (hc.symm.trans hc')
    exact hroute _
  | routedLast ho hc' =>
    obtain rfl := Option.some.inj (hc.symm.trans hc')
    exact (hroute _).trans (untouched_setReasm _ _ _)

/-- What arrives on the current link goes out on it. -/
theorem frameHandle_of_added {i : Input} {p : PacketContents} (h : r.cause i = .acl s p) {frame : List UInt8}
    {ok : Bool} {links : Finset UInt16} (hmem : .acl s frame ok links ∈ r.added i) :
    frameHandle frame = (r.h s).links.connectionHandle &&& 0x0fff := by
  have hw := (step_move r i).within
  rw [h] at hw
  obtain ⟨new, hout, hon⟩ := onLink_of_within (s := s) hw (by simp [Cause.aspects, aclAspects])
  rw [added_eq hout] at hmem
  exact hon _ hmem rfl

theorem keepsApart_of_onOwnLink (r : Relay) (i : Input) (h : OnOwnLink r i) : LinksApart r i := by
  unfold LinksApart
  unfold OnOwnLink at h
  split
  · rename_i s p hcause
    rw [hcause] at h
    intro hpdu
    have hstep := step_of_acl r s hcause
    have hmask : aclHandle p &&& 0x0fff = aclHandle p := by
      rw [aclHandle, UInt16.and_assoc]
      rfl
    by_cases hown : aclHandle p = (r.h s).links.connectionHandle
    · refine ⟨fun hmem _ ↦ ?_, fun hne ↦ absurd hown hne, fun hne ↦ absurd hown hne, fun hne ↦ absurd hown hne⟩
      rw [frameHandle_of_added hcause hmem, ← hown, hmask]
    · have hkept := untouched_of_neutral (h.resolve_left hown) hpdu
      rw [← hstep] at hkept
      refine ⟨fun {frame ok links} hmem hanswer ↦ ?_, fun _ ↦ hkept.ends, fun _ ↦ hkept.full, fun _ ↦ hkept.given⟩
      rw [frameHandle_of_added hcause hmem]
      obtain ⟨new, hframes, hnew⟩ := hkept.sends
      obtain ⟨sent, hout, -⟩ := (step_move r i).within.out
      rw [added_eq hout] at hmem
      rw [frames, hout, List.filterMap_append] at hframes
      have hnew' : new = sent.filterMap Output.sent? := (List.append_cancel_left hframes).symm
      have hf : (⟨s, le16 frame 7, frame.drop 9⟩ : Sent) ∈ new := by
        rw [hnew']
        exact List.mem_filterMap.mpr ⟨_, hmem, rfl⟩
      refine (hnew _ hf).2.resolve_right (not_not_intro ?_)
      rw [isAnswer, Bool.and_eq_true, beq_iff_eq] at hanswer
      have hbyte : byteAt (frame.drop 9) 0 = byteAt frame 9 := by simp [byteAt, List.getD_eq_getElem?_getD]
      exact ⟨hanswer.1, hbyte ▸ hanswer.2⟩
  · trivial

/-- A PDU that arrives in a packet of its own. -/
theorem cause_acl (h : (r.h s).phase = .running) (handle : UInt16) (pdu : List UInt8) :
    r.cause (.acl s handle pdu)
      = .acl s (put16 (aclHeaderHandle handle ACL_START_FLUSHABLE) ++ put16 (UInt16.ofNat pdu.length) ++ pdu) := by
  unfold Input.acl cause
  dsimp only
  rw [h]
  rfl

instance {P : Channel → Prop} [DecidablePred P] : Decidable (∀ c, P c) :=
  decidable_of_iff (∀ c ∈ [Channel.hidSdp, .sdpClient, .hidControl, .hidInterrupt], P c)
    ⟨fun h c ↦ h c (by cases c <;> simp), fun h c _ ↦ h c⟩

instance (s : ConnectionSide) (cid : UInt16) (data : List UInt8) : Decidable (r.TurnsFull s cid data) :=
  inferInstanceAs (Decidable (_ ∧ _))

instance (s : ConnectionSide) (cid : UInt16) (data : List UInt8) : Decidable (r.HandsAcross s cid data) :=
  inferInstanceAs (Decidable (_ ∧ _))

instance (s : ConnectionSide) (handle : UInt16) (contents : PduContents) :
    Decidable (r.Neutral s handle contents) :=
  match contents with
  | .nothing => .isTrue trivial
  | .command q =>
    have : ∀ c, Decidable (∀ d ∈ boundEnd c (.decode q), r.dcid s c = d) := fun _ ↦ Option.decidableForallMem _
    inferInstanceAs (Decidable (_ ∧ ∀ _, _))
  | .payload _ _ => inferInstanceAs (Decidable (_ ∧ _ ∧ _))

/-- The ACL packet a cause brings. -/
def aclPacket? : Cause → Option (ConnectionSide × PacketContents)
  | .acl s p => some (s, p)
  | _ => none

instance (r : Relay) (i : Input) : Decidable (r.OnOwnLink i) :=
  have (a : ConnectionSide × PacketContents) : Decidable (aclHandle a.2 = (r.h a.1).links.connectionHandle
      ∨ r.Neutral a.1 (aclHandle a.2) (r.contentsOf a.1 a.2)) := instDecidableOr
  decidable_of_iff (∀ a ∈ aclPacket? (r.cause i), aclHandle a.2 = (r.h a.1).links.connectionHandle
      ∨ r.Neutral a.1 (aclHandle a.2) (r.contentsOf a.1 a.2)) (by
    unfold OnOwnLink
    cases r.cause i with
    | acl => simp [aclPacket?]
    | _ => exact iff_of_true (by simp [aclPacket?]) trivial)

end Relay

/-- **Two links do not mix** while every PDU is of the current link, or neutral. -/
theorem links_kept_apart (c : Config) (is : List Input) (h : Along Relay.step Relay.OnOwnLink (.init c) is) :
    Along Relay.step Relay.LinksApart (.init c) is :=
  h.mono fun r i ↦ r.keepsApart_of_onOwnLink i

/-- The console has opened its control channel, and moves to another link. -/
def Input.movedOn : List Input :=
  Input.bothLinked ++ [.openChannel .toPlaystation 2 Channel.hidControl.psm 0x40]
    ++ Input.incomingCall .toPlaystation ⟨7, 7, 7, 7, 7, 7⟩ 3

/-- It opens the channel on its new link, and sends on the old one what nobody is there to be handed. -/
theorem links_kept_apart_moved :
    Along Relay.step Relay.LinksApart (.init .session) (Input.movedOn ++
      [.openChannel .toPlaystation 3 Channel.hidControl.psm 0x41,
        .data .toPlaystation 2 Channel.hidInterrupt.scid [HIDP_DATA_OUTPUT, REPORT_BT]]) :=
  links_kept_apart _ _ (by decide +kernel)

/-- The state behind that. -/
def onSecondLink : Relay := run Relay.step (.init .session) Input.movedOn

/-- It opens a channel on the old link: the answer goes out on the new one, and so does what follows. -/
theorem links_mix : ¬ ∀ (c : Config) (is : List Input), Along Relay.step Relay.LinksApart (.init c) is := by
  intro h
  let late : Input := .openChannel .toPlaystation 2 Channel.hidInterrupt.psm 0x42
  have hlate : onSecondLink.LinksApart late := (along_append.mp (h .session (Input.movedOn ++ [late]))).2.1
  have hcause := Relay.cause_acl (r := onSecondLink) (s := .toPlaystation) (by decide +kernel) 2
    (put16 8 ++ put16 L2CAP_CID_SIGNALLING ++ [L2CAP_CONN_REQ, 1] ++ put16 4
      ++ (put16 Channel.hidInterrupt.psm ++ put16 0x42))
  unfold Relay.LinksApart at hlate
  rw [show onSecondLink.cause late = _ from hcause] at hlate
  have hkept := (hlate (by decide +kernel)).ends (by decide +kernel) .hidInterrupt
  exact absurd hkept (by decide +kernel)

end DualSenseMitm
