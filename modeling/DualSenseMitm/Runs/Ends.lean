import DualSenseMitm.Runs.ChannelOpening
import DualSenseMitm.Sending

/-!
# Where the channels end, and what is sent to them

A channel gets its remote end from two signalling commands, the peer's CONN_REQ and its CONN_RSP
(`dcid_of_command`), and loses it with the link (`dcid_of_no_command`).  Frames go to the signalling channel
or to a remote end that was there before the step, and nowhere else (`sends_step`).
-/

set_option autoImplicit false

namespace DualSenseMitm

open Bytes Machine

namespace Relay

/-! ## Remote ends -/

/-- The remote end a command gives a channel. -/
def boundEnd (c : Channel) (cmd : L2capCommand) : Option UInt16 :=
  if openedBy cmd = some c ∨ accepted cmd = some c then namedEnd cmd else none

/-- The remote end of a channel behind a command. -/
def endAfter (r : Relay) (s : ConnectionSide) (c : Channel) (cmd : ConnectionSide × L2capCommand) : UInt16 :=
  if cmd.1 = s then (boundEnd c cmd.2).getD (r.dcid s c) else r.dcid s c

variable {r r' r'' : Relay} (s t : ConnectionSide) (c : Channel)

theorem dcid_setDcid (r : Relay) (b : Channel) (d : UInt16) :
    (r.setDcid t b d).dcid s c = if t = s ∧ b = c then d else r.dcid s c := by
  by_cases hs : s = t
  · subst hs
    by_cases hc : c = b
    · simp [setDcid, dcid, hc]
    · simp [setDcid, dcid, hc, Ne.symm hc]
  · simp [setDcid, dcid, hs, Ne.symm hs]

theorem endAfter_of_unbound {cmd : ConnectionSide × L2capCommand} (h : boundEnd c cmd.2 = none) :
    r.endAfter s c cmd = r.dcid s c := by
  rw [endAfter, h, Option.getD_none, ite_self]

/-- A command gives one channel at the most an end, and takes none away. -/
theorem dcid_command {cmd : L2capCommand} (h : CommandMove r t cmd r') :
    r'.dcid s c = r.endAfter s c (t, cmd) := by
  have hnote : ∀ ident, (r.noteIdent t ident).dcid s c = r.dcid s c := by
    intro ident
    by_cases hs : s = t <;> simp [noteIdent, dcid, hs]
  have hask : ∀ (a : Relay) code data, (a.l2capSendCmdRequest t code data).dcid s c = a.dcid s c := by
    intro a code data
    rw [dcid_eq (within_l2capSendCmdRequest (A := {.signalling t}) a t rfl code data) s (by simp) (by simp)]
  have hsend : ∀ (a : Relay) ident code data,
      (a.l2capSendCmdResponse t ident code data).dcid s c = a.dcid s c := by
    intro a ident code data
    rw [dcid_eq (within_l2capSendCmdResponse (A := {.signalling t}) a t rfl ident code data) s (by simp)
      (by simp)]
  cases h with
  | connResponse hp =>
    rename_i ident p rsp q
    unfold handleConnResponse
    rw [hp]
    dsimp only
    by_cases hs : rsp.result = L2CAP_CR_SUCCESS
    · rw [if_pos hs]
      cases hb : Channel.byScid rsp.scid with
      | none =>
        dsimp only
        rw [hnote, endAfter_of_unbound]
        simp [boundEnd, openedBy, accepted, hs, hb]
      | some b =>
        dsimp only
        rw [l2capSendConfigureMtuRequest, hask, dcid_setDcid, hnote, endAfter]
        by_cases ht : t = s
        · by_cases hc : b = c
          · simp [boundEnd, openedBy, accepted, namedEnd, hs, hb, ht, hc]
          · simp [boundEnd, openedBy, accepted, hs, hb, ht, hc]
        · simp [ht]
    · rw [if_neg hs, hnote, endAfter_of_unbound]
      simp [boundEnd, openedBy, accepted, hs]
  | confResponse hp =>
    rw [dcid_eq (quiet_handleConfResponse _ t _).within (A := ∅) s (by simp) (by simp), hnote,
      endAfter_of_unbound]
    rfl
  | confRequest hp =>
    rw [dcid_eq (within_handleConfRequest (A := {.signalling t}) _ t rfl _) s (by simp) (by simp), hnote,
      endAfter_of_unbound]
    rfl
  | connRequest hp =>
    rename_i ident p req q
    unfold handleConnRequestL2cap
    rw [hp]
    dsimp only
    cases hb : Channel.byPsm req.psm with
    | none =>
      dsimp only
      rw [hsend, hnote, endAfter_of_unbound]
      simp [boundEnd, openedBy, accepted, hb]
    | some b =>
      dsimp only
      rw [l2capSendConfigureMtuRequest, hask, hsend, dcid_setDcid, hnote, endAfter]
      by_cases ht : t = s
      · by_cases hc : b = c
        · simp [boundEnd, openedBy, accepted, namedEnd, hb, ht, hc]
        · simp [boundEnd, openedBy, accepted, hb, ht, hc]
      · simp [ht]
  | disconnRequest hp =>
    rw [dcid_eq (within_handleDisconnRequest (A := {.signalling t}) _ t rfl _ _) s (by simp) (by simp), hnote,
      endAfter_of_unbound]
    rfl
  | other h =>
    rw [dcid_eq (A := ∅) h.within s (by simp) (by simp), endAfter_of_unbound]
    rfl

/-! ## The command a packet completes -/

/-- What an ACL packet does around the command it completes, if it completes one. -/
inductive AclCommand (r : Relay) (s : ConnectionSide) : Option L2capCommand → Relay → Prop
  | aside {u}
      (h : Performs (Op.Within {.linkNotes, .closing, .routing, .relaying s.other, .reports, .forwarding,
        .console s, .pacing s}) r u) :
      AclCommand r s none u
  | command {u₁ u₂ u cmd} (h₁ : Performs (Op.Within {.linkNotes, .routing}) r u₁)
      (h : CommandMove u₁ s cmd u₂) (h₂ : Performs (Op.Within {.linkNotes}) u₂ u) (hout : u.out = u₂.out) :
      AclCommand r s (some cmd) u

theorem commandOf_eq (r : Relay) (s : ConnectionSide) (p : PacketContents) :
    (r.commandOf (.acl s p)).map Prod.snd
      = match r.contentsOf s p with
        | .command q => some (.decode q)
        | _ => none := by
  rw [commandOf, contentsOf]
  cases r.completedPdu s p with
  | none => rfl
  | some pdu =>
    rw [Option.map_some, Option.elim_some]
    cases PduContents.decode pdu <;> rfl

theorem acl_command (r : Relay) (s : ConnectionSide) (p : PacketContents) :
    AclCommand r s ((r.commandOf (.acl s p)).map Prod.snd) (r.handleAcl s p) := by
  have hpart := acl_part r s p
  rw [commandOf_eq]
  revert hpart
  generalize r.handleAcl s p = r'
  generalize r.contentsOf s p = contents
  intro hpart
  cases hpart with
  | nothing h => exact .aside (h.widen (by simp [Set.insert_subset_iff]))
  | @command re pdu q _ h =>
    obtain ⟨re', rfl⟩ := h
    exact .command (within_arriving r s (by simp) (by simp) p re pdu) (command_move _ s q)
      (within_setReasm _ s (by simp) _ _) rfl
  | @payload re pdu cid data _ h =>
    obtain ⟨re', rfl⟩ := h
    have hbefore := within_arriving
      (A := {.linkNotes, .closing, .routing, .relaying s.other, .reports, .forwarding, .console s, .pacing s})
      r s (by simp) (by simp) p re pdu
    have hroute := within_routePayload
      (A := {.linkNotes, .closing, .routing, .relaying s.other, .reports, .forwarding, .console s, .pacing s})
      (r.arriving s p re pdu) s (by simp) (by simp) (by simp) (by simp) (by simp) cid data
    exact .aside ((hbefore.trans hroute).trans (within_setReasm _ s (by simp) _ _))

/-- Only commands are about the side they arrive on. -/
theorem commandOf_acl {p : PacketContents} {cmd : ConnectionSide × L2capCommand}
    (h : r.commandOf (.acl s p) = some cmd) : cmd.1 = s := by
  rw [commandOf] at h
  split at h
  · exact (congrArg Prod.fst (Option.some.inj h)).symm
  · cases h

/-! ## The remote ends behind a step -/

/-- What gives no channel an end leaves it, or takes it off. -/
theorem dcid_or_zero {A : Set Aspect} (h : Performs (Op.Within A) r r') (hb : .binding s ∉ A) :
    r'.dcid s c = r.dcid s c ∨ r'.dcid s c = 0 := by
  refine h.invariant (fun a ↦ a.dcid s c = r.dcid s c ∨ a.dcid s c = 0) (.inl rfl) fun a op ha hop ↦ ?_
  cases op with
  | channels t f =>
    by_cases ht : s = t
    · subst ht
      have hdcid : (a.perform (.channels s f)).dcid s c = (f (a.h s).channels).dcid c := by
        simp [Relay.perform, dcid]
      rw [hdcid]
      have hkept : (f (a.h s).channels).standing = (a.h s).channels.standing →
          (f (a.h s).channels).dcid c = (a.h s).channels.dcid c := fun hf ↦
        congrFun (congrArg Prod.fst hf) c
      rcases hop with hf | hA | ⟨-, hf⟩ | ⟨-, hf⟩ | ⟨-, hf⟩
      · rw [hkept (hf _).1]
        exact ha
      · exact absurd hA.2.1 hb
      · rw [show (f (a.h s).channels).dcid = fun _ ↦ 0 from congrArg Prod.fst (hf _).1]
        exact .inr rfl
      · rw [(hf _).1]
        exact ha
      · rw [hkept (hf _)]
        exact ha
    · simpa [Relay.perform, dcid, ht] using ha
  | _ => simpa [Relay.perform, dcid] using ha

theorem acl_of_commandOf {cause : Cause} {cmd : ConnectionSide × L2capCommand}
    (h : r.commandOf cause = some cmd) : ∃ p, cause = .acl cmd.1 p := by
  cases cause with
  | acl s p => exact ⟨p, by rw [commandOf_acl s h]⟩
  | _ => cases h

/-- **The remote ends behind a command.** -/
theorem dcid_of_command {i : Input} {cmd : ConnectionSide × L2capCommand}
    (h : r.commandOf (r.cause i) = some cmd) : (r.step i).dcid s c = r.endAfter s c cmd := by
  obtain ⟨p, hp⟩ := acl_of_commandOf h
  have hm := step_move r i
  rw [hp] at h hm
  generalize r.step i = r' at hm
  cases hm with
  | quiet _ hc => exact absurd hc (Set.insert_nonempty _ _).ne_empty
  | acl =>
    have hacl := acl_command r cmd.1 p
    rw [h, Option.map_some] at hacl
    revert hacl
    generalize r.handleAcl cmd.1 p = r'
    intro hacl
    cases hacl with
    | @command r₁ _ _ _ h₁ h h₂ =>
      have hbefore : ∀ c, r₁.dcid s c = r.dcid s c := fun c ↦ by
        rw [dcid_eq h₁ s (by simp) (by simp)]
      rw [dcid_eq h₂ s (by simp) (by simp), dcid_command s cmd.1 c h, endAfter, endAfter, hbefore]

/-- Anything else opens no channel. -/
theorem dcid_of_no_command {i : Input} (h : r.commandOf (r.cause i) = none) :
    (r.step i).dcid s c = r.dcid s c ∨ (r.step i).dcid s c = 0 := by
  have hm := step_move r i
  have hw := hm.within
  revert hm hw h
  generalize r.cause i = cause
  generalize r.step i = r'
  intro h hm hw
  cases hm with
  | @acl t p =>
    have hacl := acl_command r t p
    rw [h, Option.map_none] at hacl
    revert hacl
    generalize r.handleAcl t p = r'
    intro hacl
    cases hacl with
    | aside h => exact dcid_or_zero s c h (by simp)
  | quiet h => exact dcid_or_zero (A := ∅) s c h.within (by simp)
  | _ => exact dcid_or_zero s c hw (by simp [Cause.aspects])

/-! ## Channels that start over -/

/-- The channels of a side start over: the peer moves to another link, or its current link is gone. -/
def startsOver (r : Relay) (s : ConnectionSide) : Cause → Bool
  | .event t (.connectionComplete e) =>
    t == s && e.status == HCI_SUCCESS && (r.h s).links.connectionHandle != 0
      && (r.h s).links.connectionHandle != e.handle
  | .event t (.disconnectComplete e) => t == s && e.handle == (r.h s).links.connectionHandle
  | _ => false

/-- The channels of a side, and what the console has shown of itself on them. -/
abbrev standing (r : Relay) (s : ConnectionSide) : (Channel → UInt16) × Bool × Bool := (r.h s).channels.standing

/-- Channels that start over. -/
def closedAll : (Channel → UInt16) × Bool × Bool := (fun _ ↦ 0, false, false)

omit c in
theorem standing_eq {A : Set Aspect} (h : Performs (Op.Within A) r r') (hl : .links ∉ A) (hb : .binding s ∉ A)
    (hK : .console s ∉ A) : r'.standing s = r.standing s :=
  Prod.ext (dcid_eq h s hl hb) (console_eq h s hl hK)

omit c in
theorem standing_leaveOldLink (r : Relay) (handle : UInt16) :
    (r.leaveOldLink t handle).standing s
      = if t = s ∧ (r.h s).links.connectionHandle ≠ 0 ∧ (r.h s).links.connectionHandle ≠ handle then closedAll
        else r.standing s := by
  unfold leaveOldLink
  dsimp only
  by_cases ht : t = s
  · subst ht
    by_cases hmoved : (r.h t).links.connectionHandle ≠ 0 ∧ (r.h t).links.connectionHandle ≠ handle
    · rw [if_pos hmoved, if_pos ⟨rfl, hmoved⟩]
      simp [standing, resetChannels, Channels.standing, closedAll]
    · rw [if_neg hmoved, if_neg fun h ↦ hmoved h.2]
  · have hno : ¬ (t = s ∧ (r.h s).links.connectionHandle ≠ 0 ∧ (r.h s).links.connectionHandle ≠ handle) :=
      fun h ↦ ht h.1
    rw [if_neg hno]
    split
    · simp [standing, resetChannels, Ne.symm ht]
    · rfl

omit c in
theorem standing_connected (r : Relay) (e : EvtConnComplete) :
    (r.connected t e).standing s = (r.leaveOldLink t e.handle).standing s := by
  unfold connected
  extract_lets r₂ r₃ r₄ r₅ r₆
  have h₃ : r₃.standing s = r₂.standing s := by
    by_cases hs : s = t <;> simp [standing, r₃, hs]
  have h₆ : Performs (Op.Within {.pacing t}) r₃ r₆ := by
    have h₅ : Performs Op.Quiet r₃ r₅ :=
      (quiet_onPaging r₃ t fun _ ↦ by rfl).trans (quiet_endHandoverPaging r₄ t)
    exact .ite (fun _ ↦ h₅.within.trans (within_writePageScanActivity r₅ t (by rfl) _ _)) fun _ ↦ h₅.within
  have hrest := (standing_eq s h₆ (by simp) (by simp) (by simp)).trans h₃
  rw [← hrest]
  by_cases hs : s = t <;> simp [standing, hs]

omit c in
theorem standing_handleConnectionComplete (r : Relay) {p : PacketContents}
    {e : EvtConnComplete × PacketContents} (hp : EvtConnComplete.get? p = some e) :
    (r.handleConnectionComplete t p).standing s
      = if r.startsOver s (.event t (.connectionComplete e.1)) = true then closedAll else r.standing s := by
  have hover := within_pageOver (A := {.linkNotes, .scanning t.other}) r t (by simp) (by simp) e.1.status
  have hkept := standing_eq s hover (by simp) (by simp) (by simp)
  have hlink := congrArg Prod.fst (openLinks_eq hover s (by simp))
  rw [handleConnectionComplete_eq r t hp]
  by_cases hs : e.1.status = HCI_SUCCESS
  · have hauth := standing_eq s (within_requestAuthentication (A := {.authenticating t})
      ((r.pageOver t e.1.status).connected t e.1) t (by rfl) e.1.handle) (by simp) (by simp) (by simp)
    have hlink' : ((r.pageOver t e.1.status).h s).links.connectionHandle = (r.h s).links.connectionHandle := hlink
    rw [if_neg (not_not_intro hs), apply_ite (standing · s), hauth, ite_self, standing_connected,
      standing_leaveOldLink, hlink', hkept]
    refine if_congr ?_ rfl rfl
    simp [startsOver, hs, and_assoc]
  · have hno : r.startsOver s (.event t (.connectionComplete e.1)) = false := by simp [startsOver, hs]
    rw [if_pos hs, if_neg (by rw [hno]; decide), ← hkept]
    exact standing_eq s (within_handleConnectionFailure (A := {.timing t}) _ t (by rfl) e.1) (by simp) (by simp)
      (by simp)

omit c in
theorem standing_currentGone (r : Relay) :
    (r.currentGone t).standing s = if t = s then closedAll else r.standing s := by
  by_cases ht : t = s
  · subst ht
    rw [if_pos rfl]
    simp [standing, currentGone, resetChannels, Channels.standing, closedAll]
  · rw [if_neg ht]
    cases t <;> simp [standing, currentGone, resetChannels, writePageScanActivity, writeScanEnable, Ne.symm ht]

omit c in
theorem standing_handleDisconnectComplete (r : Relay) {p : PacketContents}
    {e : EvtDisconnComplete × PacketContents} (hp : EvtDisconnComplete.get? p = some e) :
    (r.handleDisconnectComplete t p).standing s
      = if r.startsOver s (.event t (.disconnectComplete e.1)) = true then closedAll else r.standing s := by
  have hgone : (r.linkGone t e.1.handle).standing s = r.standing s := by
    by_cases hs : s = t <;> simp [standing, linkGone, hs]
  rw [handleDisconnectComplete_eq r t hp]
  by_cases hcur : e.1.handle = (r.h t).links.connectionHandle
  · have hlast := standing_eq s (within_scheduleReconnect (A := {.timing t})
      ((r.linkGone t e.1.handle).currentGone t) t (by rfl) (reconnectDelay t e.1)) (by simp) (by simp) (by simp)
    rw [if_neg (not_not_intro hcur), hlast, standing_currentGone, hgone]
    refine if_congr ⟨fun ht ↦ ?_, fun h ↦ ?_⟩ rfl rfl
    · subst ht
      simp [startsOver, hcur]
    · simpa using (Bool.and_eq_true_iff.mp h).1
  · rw [if_pos hcur, hgone, if_neg]
    intro h
    obtain ⟨ht, hhandle⟩ := Bool.and_eq_true_iff.mp h
    rw [beq_iff_eq] at ht hhandle
    rw [ht] at hcur
    exact hcur hhandle

omit c in
/-- **When the channels start over.** -/
theorem standing_startsOver {i : Input} (h : r.startsOver s (r.cause i) = true) :
    (r.step i).standing s = closedAll := by
  have hm := step_move r i
  revert hm h
  generalize r.cause i = cause
  generalize r.step i = r'
  intro h hm
  cases hm with
  | connectionComplete hp =>
    rw [standing_handleConnectionComplete s _ r hp]
    exact if_pos h
  | disconnectComplete hp =>
    rw [standing_handleDisconnectComplete s _ r hp]
    exact if_pos h
  | quiet _ hc =>
    cases cause with
    | event t e =>
      cases e with
      | connectionComplete => exact absurd hc (Set.insert_nonempty _ _).ne_empty
      | disconnectComplete => exact absurd hc (Set.insert_nonempty _ _).ne_empty
      | _ => cases h
    | _ => cases h
  | _ => cases h

omit c in
/-- Otherwise only a packet of the side changes them. -/
theorem standing_kept {i : Input} (h : r.startsOver s (r.cause i) = false) (hacl : ∀ p, r.cause i ≠ .acl s p) :
    (r.step i).standing s = r.standing s := by
  have hm := step_move r i
  have hw := hm.within
  revert hm hw h hacl
  generalize r.cause i = cause
  generalize r.step i = r'
  intro h hacl hm hw
  cases hm with
  | connectionComplete hp =>
    rw [standing_handleConnectionComplete s _ r hp]
    exact if_neg (by rw [h]; decide)
  | disconnectComplete hp =>
    rw [standing_handleDisconnectComplete s _ r hp]
    exact if_neg (by rw [h]; decide)
  | quiet h => exact standing_eq (A := ∅) s h.within (by simp) (by simp) (by simp)
  | @acl t p =>
    have ht : s ≠ t := fun ht ↦ hacl p (by rw [ht])
    exact standing_eq s hw (by simp [Cause.aspects, aclAspects]) (by simp [Cause.aspects, aclAspects, ht])
      (by simp [Cause.aspects, aclAspects, ht])
  | _ => exact standing_eq s hw (by simp [Cause.aspects]) (by simp [Cause.aspects]) (by simp [Cause.aspects])

/-! ## What is sent -/

/-- A CID the peer of a side can be sent something on. -/
def IsEnd (r : Relay) (s : ConnectionSide) (cid : UInt16) : Prop :=
  cid = L2CAP_CID_SIGNALLING ∨ cid ≠ 0 ∧ ∃ c, r.dcid s c = cid

/-- What the aspects let be sent, and where: the pad may be sent anything, the console a read. -/
def MaySend (A : Set Aspect) (r : Relay) (f : Sent) : Prop :=
  f.cid = L2CAP_CID_SIGNALLING ∨ f.cid ≠ 0 ∧ ∃ c, r.dcid f.side c = f.cid
    ∧ (f.side = .toDualsense ∨ c = .hidControl ∧ byteAt f.payload 0 = HIDP_GET_FEATURE
      ∨ .relaying f.side ∈ A ∧ c = .hidInterrupt ∨ .forwarding ∈ A)

theorem MaySend.isEnd {A : Set Aspect} {f : Sent} (h : r.MaySend A f) : r.IsEnd f.side f.cid :=
  h.imp_right (And.imp_right (Exists.imp fun _ hc ↦ hc.1))

/-- From one state to another only such frames are sent. -/
def Sends (P : Sent → Prop) (r r' : Relay) : Prop := ∃ new, r'.frames = r.frames ++ new ∧ ∀ f ∈ new, P f

namespace Sends

variable {P : Sent → Prop}

theorem of_eq (h : r'.frames = r.frames) : Sends P r r' := ⟨[], by rw [h, List.append_nil], by simp⟩

theorem trans (h : Sends P r r') (h' : Sends P r' r'') : Sends P r r'' := by
  obtain ⟨new, hr, hnew⟩ := h
  obtain ⟨more, hr', hmore⟩ := h'
  refine ⟨new ++ more, by rw [hr', hr, List.append_assoc], fun f hf ↦ ?_⟩
  exact (List.mem_append.mp hf).elim (hnew f) (hmore f)

theorem mono {P' : Sent → Prop} (h : Sends P r r') (hP : ∀ f, P f → P' f) : Sends P' r r' := by
  obtain ⟨new, hr, hnew⟩ := h
  exact ⟨new, hr, fun f hf ↦ hP f (hnew f hf)⟩

theorem perform {A : Set Aspect} {op : Op} (hop : op.Within A r) :
    Sends (r.MaySend A) r (r.perform op) := by
  cases op with
  | frame t cid pre data =>
    refine ⟨_, frames_l2capSendFrame r t cid pre data, fun f hf ↦ ?_⟩
    rw [(mem_frameOf.mp hf).2]
    rcases hop with ⟨hne, c, hc, hread⟩ | ⟨-, hcid⟩ | ⟨hne, c, hc, hA⟩
    · refine .inr ⟨hne, c, hc, ?_⟩
      cases t with
      | toDualsense => exact .inl rfl
      | toPlaystation =>
        obtain ⟨rfl, rfl⟩ := hread rfl
        exact .inr (.inl ⟨rfl, rfl⟩)
    · exact .inl hcid
    · exact .inr ⟨hne, c, hc, .inr (.inr hA)⟩
  | emit o =>
    refine ⟨_, frames_emit r o, ?_⟩
    cases o with
    | acl => exact absurd hop (by rintro (h | h) <;> cases h)
    | _ => simp
  | pump t => exact of_eq (frames_pumpCommands r t)
  | cmd t ogf ocf param what => exact of_eq (frames_sendCmd r t ogf ocf param what)
  | _ => exact of_eq rfl

/-- What gives no channel an end sends to the ends there are. -/
theorem of_within {A : Set Aspect} (h : Performs (Op.Within A) r r') (hb : ∀ s, .binding s ∉ A) :
    Sends (r.MaySend A) r r' := by
  refine (h.invariant (fun a ↦ (∀ s c, a.dcid s c = r.dcid s c ∨ a.dcid s c = 0) ∧ Sends (r.MaySend A) r a)
    ⟨fun _ _ ↦ .inl rfl, of_eq rfl⟩ fun a op ha hop ↦ ⟨fun s c ↦ ?_, ha.2.trans ?_⟩).2
  · have hone : Performs (Op.Within A) a (a.perform op) := Performs.single op hop
    rcases dcid_or_zero s c hone (hb s) with he | he
    · rw [he]
      exact ha.1 s c
    · exact .inr he
  · refine (perform hop).mono fun f hf ↦ hf.imp_right ?_
    rintro ⟨hne, c, hc, hA⟩
    rcases ha.1 f.side c with he | he
    · exact ⟨hne, c, he.symm.trans hc, hA⟩
    · exact absurd (hc.symm.trans he) hne

/-- A command is answered on the signalling channel; beside that only the pad is sent something. -/
theorem command {t : ConnectionSide} {cmd : L2capCommand} (h : CommandMove r t cmd r') :
    Sends (r.MaySend {.signalling t}) r r' := by
  have hnote : ∀ ident, (r.noteIdent t ident).frames = r.frames := fun ident ↦ frames_onChannels r t _
  have hends : ∀ ident f, (r.noteIdent t ident).MaySend {.signalling t} f → r.MaySend {.signalling t} f := by
    intro ident f
    refine Or.imp_right (And.imp_right ?_)
    rintro ⟨c, hc, hA⟩
    refine ⟨c, ?_, hA⟩
    by_cases hs : f.side = t <;> simpa [noteIdent, dcid, hs] using hc
  have hask : ∀ (a : Relay) code data, Sends (r.MaySend {.signalling t}) a (a.l2capSendCmdRequest t code data) := by
    intro a code data
    refine ⟨_, frames_l2capSendFrame _ t L2CAP_CID_SIGNALLING _ data, fun f hf ↦ ?_⟩
    rw [(mem_frameOf.mp hf).2]
    exact .inl rfl
  have hsend : ∀ (a : Relay) ident code data,
      Sends (r.MaySend {.signalling t}) a (a.l2capSendCmdResponse t ident code data) := by
    intro a ident code data
    refine ⟨_, frames_l2capSendFrame a t L2CAP_CID_SIGNALLING _ data, fun f hf ↦ ?_⟩
    rw [(mem_frameOf.mp hf).2]
    exact .inl rfl
  cases h with
  | connResponse hp =>
    unfold handleConnResponse
    rw [hp]
    dsimp only
    split
    · split
      · exact of_eq (hnote _)
      · exact (of_eq ((frames_onChannels _ t _).trans (hnote _))).trans (hask _ _ _)
    · exact of_eq (hnote _)
  | @confResponse ident _ _ _ hp =>
    refine (of_eq (hnote ident)).trans ?_
    exact (of_within (quiet_handleConfResponse _ t _).within (by simp)).mono (hends _)
  | @confRequest ident _ _ _ hp =>
    refine (of_eq (hnote ident)).trans ?_
    exact (of_within (within_handleConfRequest _ t (Set.mem_singleton _) _) (by simp)).mono (hends _)
  | connRequest hp =>
    unfold handleConnRequestL2cap
    rw [hp]
    dsimp only
    split
    · exact (of_eq (hnote _)).trans (hsend _ _ _ _)
    · exact ((of_eq ((frames_onChannels _ t _).trans (hnote _))).trans (hsend _ _ _ _)).trans (hask _ _ _)
  | @disconnRequest ident _ _ _ hp =>
    refine (of_eq (hnote ident)).trans ?_
    exact (of_within (within_handleDisconnRequest _ t (Set.mem_singleton _) _ _) (by simp)).mono (hends _)
  | other h => exact of_within h.within (by simp)

end Sends

/-- **Where a step sends.**  To the signalling channel, or to a channel that was open before. -/
theorem sends_step (r : Relay) (i : Input) : Sends (fun f ↦ r.IsEnd f.side f.cid) r (r.step i) := by
  have hm := step_move r i
  have hw := hm.within
  revert hm hw
  generalize r.cause i = cause
  generalize r.step i = r'
  intro hm hw
  cases hm with
  | @acl t p =>
    have hacl := acl_command r t p
    revert hacl
    generalize r.handleAcl t p = r'
    intro hacl
    generalize (r.commandOf (.acl t p)).map Prod.snd = completed at hacl
    cases hacl with
    | aside h => exact (Sends.of_within h (by simp)).mono fun _ hf ↦ hf.isEnd
    | @command r₁ r₂ _ _ h₁ h _ hout =>
      have hends : ∀ s cid, r₁.IsEnd s cid → r.IsEnd s cid := by
        rintro s cid (hcid | ⟨hne, c, hc⟩)
        · exact .inl hcid
        · exact .inr ⟨hne, c, by rw [← hc, dcid_eq h₁ s (by simp) (by simp)]⟩
      have h₃ : Sends (fun f ↦ r.IsEnd f.side f.cid) r₂ r' :=
        .of_eq (congrArg (·.filterMap Output.sent?) hout)
      have hbefore := (Sends.of_within h₁ (by simp)).mono fun _ hf ↦ hf.isEnd
      have hcommand := (Sends.command h).mono fun f hf ↦ hends f.side f.cid hf.isEnd
      exact (hbefore.trans hcommand).trans h₃
  | quiet h => exact (Sends.of_within (A := ∅) h.within (by simp)).mono fun _ hf ↦ hf.isEnd
  | _ => exact (Sends.of_within hw (by simp [Cause.aspects])).mono fun _ hf ↦ hf.isEnd

end Relay

end DualSenseMitm
