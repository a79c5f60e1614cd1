import DualSenseMitm.Moves

/-!
# Who called

A link is up because the relay paged its peer, or because the peer called and was accepted.  The
Connection Complete does not say which, and `accepted_incoming_` is one mark for every connection in
flight.  Here each Connection Complete comes with the answer, which the relay does not see.

* `Dialling` — the pages and calls in flight on each side.
* `Known` — who opened a link is known: only the ones we dialled are authenticated, and a page of ours
  that fails leaves the mark alone.
* `caller_known` — that is so exactly when no call is accepted between a page of ours and its end, and
  no call loses its mark to another Connection Complete.
-/

set_option autoImplicit false

namespace DualSenseMitm

open Bytes Machine Relay

/-- An input, and for a Connection Complete whether it is the end of our own page. -/
structure DialInput where
  input : Input
  ours : Bool := false

/-- What is in flight on each side. -/
structure Dialling where
  /-- Pages of ours that were written and have not ended. -/
  pages : ConnectionSide → ℕ := fun _ ↦ 0
  /-- Calls of the peer that were accepted and are not through. -/
  calls : ConnectionSide → ℕ := fun _ ↦ 0
  /-- A call was accepted since the last Connection Complete. -/
  called : ConnectionSide → Bool := fun _ ↦ false

/-- The link a command asks to authenticate. -/
def Output.authentication? : Output → Option (ConnectionSide × UInt16)
  | .cmdIssued s c => if authenticates c.ogf c.ocf then some (s, le16 c.param 0) else none
  | _ => none

namespace Relay

/-- The links a step asks to authenticate. -/
def authenticated (r : Relay) (i : Input) : List (ConnectionSide × UInt16) :=
  ((r.step i).out.drop r.out.length).filterMap Output.authentication?

/-- How many pages a step writes on one side. -/
def pagesWritten (r : Relay) (s : ConnectionSide) (i : Input) : ℕ :=
  ((r.step i).out.drop r.out.length).countP fun
    | .cmdWritten t c => t == s && callsPeer c.ogf c.ocf
    | _ => false

/-- Whether a call was accepted since the last Connection Complete, behind one more event. -/
def marked (r : Relay) (s : ConnectionSide) (b : Bool) : Cause → Bool
  | .event t (.connectionComplete _) => if t = s then false else b
  | .event t (.connRequest e) => if t = s ∧ r.fromPeer t e.bdaddr then true else b
  | _ => b

end Relay

namespace Dialling

/-- A page or a call is over, or a call is accepted. -/
def noteCause (x : Dialling) (r : Relay) (ours : Bool) (c : Cause) : Dialling :=
  let x := { x with called := fun s ↦ r.marked s (x.called s) c }
  match c with
  | .event s (.connectionComplete _) =>
    if ours then { x with pages := Function.update x.pages s (x.pages s - 1) }
    else { x with calls := Function.update x.calls s (x.calls s - 1) }
  | .event s (.connRequest e) =>
    if r.fromPeer s e.bdaddr then { x with calls := Function.update x.calls s (x.calls s + 1) } else x
  | .event s (.cmdStatus e) =>
    -- a page that is refused has no Connection Complete
    if e.status ≠ HCI_SUCCESS ∧ e.opcode = cmdOpcodePack OGF_LINK_CTL OCF_CREATE_CONN then
      { x with pages := Function.update x.pages s (x.pages s - 1) }
    else x
  | _ => x

def note (x : Dialling) (r : Relay) (i : DialInput) : Dialling :=
  let x := x.noteCause r i.ours (r.cause i.input)
  { x with pages := fun s ↦ x.pages s + r.pagesWritten s i.input }

/-- A Connection Complete ends a page or a call that is in flight, and no side has two pages of ours in
flight. -/
def Plausible (x : Dialling) (r : Relay) (i : DialInput) : Prop :=
  (∀ k ∈ (r.cause i.input).completed?, 0 < if i.ours then x.pages k.1 else x.calls k.1)
    ∧ ∀ s, (x.note r i).pages s ≤ 1

instance (x : Dialling) (r : Relay) (i : DialInput) : Decidable (x.Plausible r i) :=
  inferInstanceAs (Decidable (_ ∧ _))

/-- A link that comes up is the peer's call if one was accepted since the last Connection Complete, and
our page otherwise; and none was when a page of ours fails. -/
def TellsApart (x : Dialling) (r : Relay) (i : DialInput) : Prop :=
  ∀ k ∈ (r.cause i.input).completed?,
    if k.2.status = HCI_SUCCESS then x.called k.1 = !i.ours
    else i.ours = true → x.called k.1 = false

end Dialling

/-- Who opened the link is known behind this step. -/
structure Known (r : Relay) (i : DialInput) : Prop where
  incoming : ∀ s e, (r.cause i.input).completed? = some (s, e) → e.status = HCI_SUCCESS →
    (((r.step i.input).h s).links.incomingLink = true ↔ i.ours = false)
  authenticated : ∀ s handle, (s, handle) ∈ r.authenticated i.input ↔
    i.ours = true ∧ ∃ e, (r.cause i.input).completed? = some (s, e) ∧ e.status = HCI_SUCCESS
      ∧ e.handle = handle
  kept : ∀ s e, (r.cause i.input).completed? = some (s, e) → e.status ≠ HCI_SUCCESS →
    i.ours = true →
      ((r.step i.input).h s).links.acceptedIncoming = (r.h s).links.acceptedIncoming

/-- The relay and what is in flight. -/
abbrev diallingStep : Relay × Dialling → DialInput → Relay × Dialling :=
  withHistory (fun r i ↦ r.step i.input) Dialling.note

/-! ## The mark -/

namespace Relay

variable {r r' : Relay} {s : ConnectionSide}

theorem acceptedIncoming_pageOver (r : Relay) (s t : ConnectionSide) (status : UInt8) :
    ((r.pageOver s status).h t).links.acceptedIncoming
      = if s = t ∧ status ≠ HCI_SUCCESS then false else (r.h t).links.acceptedIncoming := by
  unfold pageOver
  by_cases hfailed : status ≠ HCI_SUCCESS ∧ (r.h s).links.acceptedIncoming = true
  · rw [if_pos hfailed]
    by_cases ht : s = t
    · simp [ht, hfailed.1]
    · simp [ht, Ne.symm ht]
  · rw [if_neg hfailed]
    have hkept : ∀ b : Bool, ((if s = .toDualsense ∧ r.linked ∧ (r.h s.other).paging.scanSuppressed = b then
        (r.onPaging s.other fun p ↦ { p with scanSuppressed := false }).writeScanEnable s.other
          SCAN_PAGE_ONLY
      else r).h t).links = (r.h t).links := fun b ↦ by
      split
      · simp [writeScanEnable]
      · rfl
    rw [hkept true]
    by_cases ht : s = t ∧ status ≠ HCI_SUCCESS
    · obtain ⟨rfl, hs⟩ := ht
      rw [if_pos ⟨rfl, hs⟩]
      exact Bool.eq_false_iff.mpr fun hacc ↦ hfailed ⟨hs, hacc⟩
    · rw [if_neg ht]

theorem acceptedIncoming_leaveOldLink (r : Relay) (s t : ConnectionSide) (handle : UInt16) :
    ((r.leaveOldLink s handle).h t).links.acceptedIncoming = (r.h t).links.acceptedIncoming := by
  unfold leaveOldLink
  dsimp only
  split
  · by_cases ht : t = s <;> simp [resetChannels, ht]
  · rfl

/-- A connection that is up takes its mark from the call that was accepted, and uses it up. -/
theorem links_connected (r : Relay) (s t : ConnectionSide) (e : EvtConnComplete) :
    ((r.connected s e).h s).links.incomingLink = (r.h s).links.acceptedIncoming
      ∧ ((r.connected s e).h t).links.acceptedIncoming
        = if s = t then false else (r.h t).links.acceptedIncoming := by
  unfold connected
  extract_lets r₂ r₃ r₄ r₅ r₆
  have h₃ : ∀ u, (r₃.h u).links.acceptedIncoming = (r.h u).links.acceptedIncoming := fun u ↦ by
    rw [← acceptedIncoming_leaveOldLink r s u e.handle]
    by_cases hu : u = s <;> simp [r₃, r₂, hu]
  have h₆ : Performs (Op.Within {.pacing s}) r₃ r₆ := by
    have h₅ : Performs (Op.Within {.pacing s}) r₃ r₅ :=
      (quiet_onPaging r₃ s fun _ ↦ by rfl).within.trans (quiet_endHandoverPaging r₄ s).within
    exact .ite (fun _ ↦ h₅.trans (within_writePageScanActivity r₅ s (by rfl) _ _)) fun _ ↦ h₅
  have hlinks : ∀ u, (r₆.h u).links = (r₃.h u).links := fun u ↦ links_eq h₆ u (by simp) (by simp)
  constructor
  · simp [hlinks, h₃]
  · by_cases ht : s = t
    · simp [ht]
    · simp [ht, Ne.symm ht, hlinks, h₃]

theorem acceptedIncoming_handleConnectionComplete (r : Relay) (s t : ConnectionSide)
    {p : PacketContents} {e : EvtConnComplete × PacketContents} (hp : EvtConnComplete.get? p = some e) :
    ((r.handleConnectionComplete s p).h t).links.acceptedIncoming
      = if s = t then false else (r.h t).links.acceptedIncoming := by
  rw [handleConnectionComplete_eq r s hp]
  have hover := acceptedIncoming_pageOver r s t e.1.status
  by_cases hs : e.1.status = HCI_SUCCESS
  · have hmid : (((r.pageOver s e.1.status).connected s e.1).h t).links.acceptedIncoming
        = if s = t then false else (r.h t).links.acceptedIncoming := by
      rw [(links_connected _ s t e.1).2, hover]
      simp [hs]
    rw [if_neg (not_not_intro hs)]
    split
    · exact hmid
    · rw [← hmid]
      simp [requestAuthentication]
  · rw [if_pos hs, links_eq (within_handleConnectionFailure (A := {.timing s}) _ s rfl e.1) t (by simp)
      (by simp), hover]
    by_cases ht : s = t
    · rw [if_pos ⟨ht, hs⟩, if_pos ht]
    · rw [if_neg fun h ↦ ht h.1, if_neg ht]

theorem acceptedIncoming_handleDisconnectComplete (r : Relay) (s t : ConnectionSide)
    (p : PacketContents) :
    ((r.handleDisconnectComplete s p).h t).links.acceptedIncoming = (r.h t).links.acceptedIncoming := by
  cases hp : EvtDisconnComplete.get? p with
  | none => rw [handleDisconnectComplete, hp]
  | some e =>
    rw [handleDisconnectComplete_eq r s hp]
    have hgone : ((r.linkGone s e.1.handle).h t).links.acceptedIncoming
        = (r.h t).links.acceptedIncoming := by
      by_cases ht : t = s <;> simp [linkGone, ht]
    split
    · exact hgone
    · rw [links_eq (within_scheduleReconnect (A := {.timing s}) _ s rfl _) t (by simp) (by simp), ← hgone]
      cases s with
      | toDualsense =>
        cases t <;> simp [currentGone, resetChannels, writePageScanActivity]
      | toPlaystation =>
        cases t <;> simp [currentGone, resetChannels, writePageScanActivity, writeScanEnable]

theorem handleConnRequest_eq (r : Relay) (s : ConnectionSide) {p q : PacketContents}
    {e : EvtConnRequest} (hp : EvtConnRequest.get? p = some (e, q)) :
    r.handleConnRequest s p
      = if r.fromPeer s e.bdaddr then
          (r.onLinks s fun l ↦ { l with acceptedIncoming := true }).sendCmd s OGF_LINK_CTL
            OCF_ACCEPT_CONN_REQ (e.bdaddr.bytes ++ [0x01]) "accept connection"
        else
          r.sendCmd s OGF_LINK_CTL OCF_REJECT_CONN_REQ (e.bdaddr.bytes ++ [0x0f])
            "reject connection" := by
  unfold handleConnRequest
  rw [hp]
  cases s <;> rfl

theorem acceptedIncoming_handleConnRequest (r : Relay) (s t : ConnectionSide) {p q : PacketContents}
    {e : EvtConnRequest} (hp : EvtConnRequest.get? p = some (e, q)) :
    ((r.handleConnRequest s p).h t).links.acceptedIncoming
      = if s = t ∧ r.fromPeer s e.bdaddr then true else (r.h t).links.acceptedIncoming := by
  rw [handleConnRequest_eq r s hp]
  by_cases hfrom : r.fromPeer s e.bdaddr
  · rw [if_pos hfrom]
    by_cases ht : s = t
    · rw [if_pos ⟨ht, hfrom⟩]
      simp [ht]
    · rw [if_neg fun h ↦ ht h.1]
      simp [Ne.symm ht]
  · rw [if_neg hfrom, if_neg fun h ↦ hfrom h.2]
    simp

theorem acceptedIncoming_handleAcl (r : Relay) (s t : ConnectionSide) (p : PacketContents) :
    ((r.handleAcl s p).h t).links.acceptedIncoming = (r.h t).links.acceptedIncoming := by
  have hre : ∀ (a : Relay) handle re,
      ((a.setReasm s handle re).h t).links.acceptedIncoming = (a.h t).links.acceptedIncoming := by
    intro a handle re
    by_cases ht : t = s <;> simp [setReasm, ht]
  have hroute : ∀ (a : Relay) handle pdu,
      ((a.routePdu s handle pdu).h t).links = (a.h t).links := fun a handle pdu ↦
    links_eq (within_routePdu
      (A := {.routing, .relaying s.other, .signalling s, .binding s, .reports, .forwarding, .console s, .pacing s})
      a s (by simp) (by simp) (by simp) (by simp) (by simp) (by simp) (by simp) (by simp) handle pdu) t
      (by simp) (by simp)
  have hm := acl_move r s p
  revert hm
  generalize r.handleAcl s p = r'
  intro hm
  cases hm with
  | dropped => rfl
  | ghost =>
    unfold handleGhost
    split
    · rfl
    · by_cases ht : t = s <;> simp [disconnect, ht]
  | buffered => exact hre r _ _
  | routed => rw [hroute, hre]
  | routedLast => rw [hre, hroute, hre]

/-- **One step.**  The mark says whether a call was accepted since the last Connection Complete. -/
theorem acceptedIncoming_step (r : Relay) (i : Input) (t : ConnectionSide) :
    ((r.step i).h t).links.acceptedIncoming
      = r.marked t (r.h t).links.acceptedIncoming (r.cause i) := by
  have hm := step_move r i
  have hw := hm.within
  revert hm hw
  generalize r.cause i = cause
  generalize r.step i = r'
  intro hm hw
  cases hm with
  | quiet h hc =>
    rw [links_eq (A := ∅) h.within t (Set.notMem_empty _) (Set.notMem_empty _)]
    cases cause with
    | event s e =>
      cases e with
      | connectionComplete => exact absurd hc (Set.insert_nonempty _ _).ne_empty
      | connRequest => exact absurd hc (Set.singleton_ne_empty _)
      | _ => rfl
    | _ => rfl
  | connectionComplete hp => exact acceptedIncoming_handleConnectionComplete r _ t hp
  | disconnectComplete => exact acceptedIncoming_handleDisconnectComplete r _ t _
  | connRequest hp => exact acceptedIncoming_handleConnRequest r _ t hp
  | modeChange hp =>
    rename_i s p e q
    unfold handleModeChange
    rw [hp]
    dsimp only
    split
    · by_cases ht : t = s <;> simp [marked, ht]
    · rfl
  | acl => exact acceptedIncoming_handleAcl r _ t _
  | _ => rw [links_eq hw t (by simp [Cause.aspects]) (by simp [Cause.aspects])]; rfl

/-! ## Authentication -/

/-- From one state to another these links are asked to be authenticated. -/
def Authenticates (r r' : Relay) (l : List (ConnectionSide × UInt16)) : Prop :=
  ∃ new, r'.out = r.out ++ new ∧ new.filterMap Output.authentication? = l

theorem Authenticates.trans {r'' : Relay} {l l' : List (ConnectionSide × UInt16)}
    (h : Authenticates r r' l) (h' : Authenticates r' r'' l') : Authenticates r r'' (l ++ l') := by
  obtain ⟨new, hout, rfl⟩ := h
  obtain ⟨more, hout', rfl⟩ := h'
  exact ⟨new ++ more, by rw [hout', hout, List.append_assoc], List.filterMap_append⟩

/-- Whatever does without the aspect asks for none. -/
theorem authenticates_nothing {A : Set Aspect} (h : Performs (Op.Within A) r r')
    (hA : ∀ s, .authenticating s ∉ A) : Authenticates r r' [] := by
  obtain ⟨new, hout, hnew⟩ := h.out
  refine ⟨new, hout, List.filterMap_eq_nil_iff.mpr fun o ho ↦ ?_⟩
  cases o with
  | cmdIssued s c => exact if_neg fun hc ↦ hA s (((hnew _ ho).within rfl rfl).authenticating hc)
  | _ => rfl

theorem authenticates_requestAuthentication (r : Relay) (s : ConnectionSide) (handle : UInt16) :
    Authenticates r (r.requestAuthentication s handle) [(s, handle)] := by
  refine ⟨_, out_sendCmd r s _ _ _ _, ?_⟩
  have hissued : Output.authentication? (.cmdIssued s (r.command s OGF_LINK_CTL OCF_AUTH_REQUESTED
      (put16 handle) "authentication requested")) = some (s, le16 (put16 handle) 0) := rfl
  rw [List.filterMap_cons_some hissued, le16_put16, List.filterMap_eq_nil_iff.mpr fun o ho ↦ ?_]
  obtain ⟨q, -, rfl⟩ := List.mem_map.mp ho
  rw [pumpOutput]
  split <;> rfl

theorem authenticates_handleConnectionComplete (r : Relay) (s : ConnectionSide) {p : PacketContents}
    {e : EvtConnComplete × PacketContents} (hp : EvtConnComplete.get? p = some e) :
    Authenticates r (r.handleConnectionComplete s p)
      (if e.1.status = HCI_SUCCESS ∧ (r.h s).links.acceptedIncoming = false then [(s, e.1.handle)]
      else []) := by
  have hover := within_pageOver (A := {.linkNotes, .scanning s.other}) r s (by simp) (by simp) e.1.status
  rw [handleConnectionComplete_eq r s hp]
  by_cases hs : e.1.status = HCI_SUCCESS
  · have hmid := authenticates_nothing
      ((hover.widen (B := {.links, .linkNotes, .scanning s.other, .pacing s}) (by simp [Set.insert_subset_iff])).trans
        (within_connected _ s (by simp) (by simp) e.1)) (by simp)
    have hincoming := (links_connected (r.pageOver s e.1.status) s s e.1).1
    rw [acceptedIncoming_pageOver, if_neg fun h ↦ h.2 hs] at hincoming
    rw [if_neg (not_not_intro hs), hincoming]
    by_cases hacc : (r.h s).links.acceptedIncoming = true
    · rw [if_pos hacc, if_neg (by simp [hacc])]
      exact hmid
    · rw [if_neg hacc, if_pos ⟨hs, Bool.eq_false_iff.mpr hacc⟩]
      exact hmid.trans (authenticates_requestAuthentication _ s _)
  · rw [if_pos hs, if_neg fun h ↦ hs h.1]
    have hfail := within_handleConnectionFailure (A := {.timing s}) (r.pageOver s e.1.status) s rfl e.1
    exact (authenticates_nothing hover (by simp)).trans (authenticates_nothing hfail (by simp))

/-- **What a step asks to authenticate.**  The link that has come up, unless it is a call. -/
theorem authenticated_step (r : Relay) (i : Input) :
    r.authenticated i
      = match (r.cause i).completed? with
        | some (s, e) =>
          if e.status = HCI_SUCCESS ∧ (r.h s).links.acceptedIncoming = false then [(s, e.handle)] else []
        | none => [] := by
  have hm := step_move r i
  have hw := hm.within
  suffices h : Authenticates r (r.step i) (match (r.cause i).completed? with
      | some (s, e) =>
        if e.status = HCI_SUCCESS ∧ (r.h s).links.acceptedIncoming = false then [(s, e.handle)] else []
      | none => []) by
    obtain ⟨new, hout, hnew⟩ := h
    rw [authenticated, hout, List.drop_left, hnew]
  revert hm hw
  generalize r.cause i = cause
  generalize r.step i = r'
  intro hm hw
  cases hm with
  | quiet h hc =>
    have hnone := authenticates_nothing (A := ∅) h.within fun _ ↦ Set.notMem_empty _
    cases cause with
    | event s e =>
      cases e with
      | connectionComplete => exact absurd hc (Set.insert_nonempty _ _).ne_empty
      | _ => exact hnone
    | _ => exact hnone
  | connectionComplete hp => exact authenticates_handleConnectionComplete r _ hp
  | acl => exact authenticates_nothing hw (by simp [Cause.aspects, aclAspects])
  | _ => exact authenticates_nothing hw (by simp [Cause.aspects])

/-- A link that comes up is taken for a call if the mark says so. -/
theorem incomingLink_step {i : Input} {e : EvtConnComplete}
    (hc : (r.cause i).completed? = some (s, e)) (hs : e.status = HCI_SUCCESS) :
    ((r.step i).h s).links.incomingLink = (r.h s).links.acceptedIncoming := by
  have hm := step_move r i
  revert hm hc
  generalize r.cause i = cause
  generalize r.step i = r'
  intro hc hm
  cases hm with
  | connectionComplete hp =>
    cases hc
    have hincoming := (links_connected (r.pageOver s e.status) s s e).1
    rw [acceptedIncoming_pageOver, if_neg fun h ↦ h.2 hs] at hincoming
    rw [handleConnectionComplete_eq r s hp, if_neg (not_not_intro hs), ← hincoming]
    split
    · rfl
    · simp [requestAuthentication]
  | quiet h hq =>
    cases cause with
    | event t e =>
      cases e with
      | connectionComplete => exact absurd hq (Set.insert_nonempty _ _).ne_empty
      | _ => cases hc
    | _ => cases hc
  | _ => cases hc

end Relay

/-! ## Who called -/

namespace Dialling

variable {x : Dialling} {r : Relay} {i : DialInput}

theorem called_note (s : ConnectionSide) :
    (x.note r i).called s = r.marked s (x.called s) (r.cause i.input) := by
  unfold note noteCause
  dsimp only
  split <;> (try split) <;> rfl

theorem marked_of_completed {e : EvtConnComplete} {s : ConnectionSide} {c : Cause} (b : Bool)
    (hc : c.completed? = some (s, e)) : r.marked s b c = false := by
  cases c with
  | event t e' =>
    cases e' with
    | connectionComplete => cases hc; exact if_pos rfl
    | _ => cases hc
  | _ => cases hc

theorem called_of_iff {a b : Bool} (h : a = true ↔ b = false) : a = !b := by
  cases b with
  | true => exact Bool.eq_false_iff.mpr fun ha ↦ absurd (h.mp ha) (by decide)
  | false => exact h.mpr rfl

/-- Who opened a link is known where the mark says so. -/
theorem known_iff (hcalled : ∀ s, (r.h s).links.acceptedIncoming = x.called s) :
    Known r i ↔ x.TellsApart r i := by
  have hauth := authenticated_step r i.input
  cases hc : (r.cause i.input).completed? with
  | none =>
    rw [hc] at hauth
    refine ⟨fun _ k hk ↦ absurd (hk.symm.trans hc).symm nofun, fun _ ↦ ⟨?_, ?_, ?_⟩⟩
    · exact fun s e he ↦ absurd (he.symm.trans hc) nofun
    · intro s handle
      rw [hauth, hc]
      exact ⟨nofun, fun h ↦ nomatch h.2.choose_spec.1⟩
    · exact fun s e he ↦ absurd (he.symm.trans hc) nofun
  | some k =>
    obtain ⟨s, e⟩ := k
    rw [hc] at hauth
    dsimp only at hauth
    rw [hcalled s] at hauth
    have hover : ((r.step i.input).h s).links.acceptedIncoming = false := by
      rw [acceptedIncoming_step, marked_of_completed _ hc]
    have hincoming : e.status = HCI_SUCCESS →
        ((r.step i.input).h s).links.incomingLink = x.called s := fun hs ↦ by
      rw [incomingLink_step hc hs, hcalled s]
    constructor
    · intro h k hk
      obtain rfl : (s, e) = k := Option.some.inj (hc.symm.trans hk)
      dsimp only
      split
      · rename_i hs
        have hknown := h.incoming s e hc hs
        rw [hincoming hs] at hknown
        exact called_of_iff hknown
      · rename_i hs
        intro hours
        have hkept := h.kept s e hc hs hours
        rw [hover, hcalled s] at hkept
        exact hkept.symm
    · intro h
      have htold : if e.status = HCI_SUCCESS then x.called s = !i.ours
          else i.ours = true → x.called s = false := h (s, e) hc
      refine ⟨?_, ?_, ?_⟩
      · rintro s' e' hc' hs
        obtain ⟨rfl, rfl⟩ := Prod.mk.inj (Option.some.inj (hc.symm.trans hc'))
        rw [if_pos hs] at htold
        rw [hincoming hs, htold, Bool.not_eq_true']
      · intro s' handle
        rw [hauth, hc]
        by_cases hs : e.status = HCI_SUCCESS
        · rw [if_pos hs] at htold
          rw [htold]
          cases i.ours with
          | true => simp [hs, eq_comm]
          | false => simp
        · simp [hs]
      · rintro s' e' hc' hs hours
        obtain ⟨rfl, rfl⟩ := Prod.mk.inj (Option.some.inj (hc.symm.trans hc'))
        rw [if_neg hs] at htold
        rw [hover, hcalled s, htold hours]

end Dialling

open Dialling

/-- **Who called.**  Who opened a link is known along a run exactly when every link that comes up is a
call if one was accepted since the last Connection Complete and our page otherwise, and when no page
of ours fails behind a call that was accepted. -/
theorem caller_known (c : Config) (is : List DialInput) :
    Along diallingStep (fun p i ↦ Known p.1 i) (.init c, {}) is
      ↔ Along diallingStep (fun p i ↦ p.2.TellsApart p.1 i) (.init c, {}) is := by
  let Inv (p : Relay × Dialling) : Prop := ∀ s, (p.1.h s).links.acceptedIncoming = p.2.called s
  have hinit : Inv (.init c, {}) := fun _ ↦ rfl
  have hstep : ∀ p i, Inv p → Inv (diallingStep p i) := fun p i hp s ↦ by
    rw [diallingStep, withHistory, acceptedIncoming_step, called_note, hp s]
  constructor
  · exact fun h ↦ h.of_invariant hinit fun p i hp hok ↦ ⟨hstep p i hp, (known_iff hp).mp hok⟩
  · exact fun h ↦ h.of_invariant hinit fun p i hp hok ↦ ⟨hstep p i hp, (known_iff hp).mpr hok⟩

/-- Our page of the pad is out when the pad's call is accepted, and the page times out. -/
def pageAndCall (pad : BdAddr) : List DialInput :=
  (Input.bringUp .toDualsense ++ [Input.commandRoom .toDualsense, Input.call .toDualsense pad]).map ({ input := · })
    ++ [⟨.connComplete .toDualsense HCI_PAGE_TIMEOUT 0 pad, true⟩]

/-- The pad's call comes through. -/
def callThrough (pad : BdAddr) : DialInput := { input := .connComplete .toDualsense HCI_SUCCESS 1 pad }

def beforeCall : Relay × Dialling :=
  run diallingStep (.init { dsAddr := ⟨1, 2, 3, 4, 5, 6⟩ }, {}) (pageAndCall ⟨1, 2, 3, 4, 5, 6⟩)

/-- The page has used up the mark of the call, which is then taken for a link we dialled. -/
theorem caller_known_crossing :
    Along diallingStep (fun p i ↦ p.2.Plausible p.1 i) (.init { dsAddr := ⟨1, 2, 3, 4, 5, 6⟩ }, {})
        (pageAndCall ⟨1, 2, 3, 4, 5, 6⟩ ++ [callThrough ⟨1, 2, 3, 4, 5, 6⟩])
      ∧ ¬ Along diallingStep (fun p i ↦ Known p.1 i) (.init { dsAddr := ⟨1, 2, 3, 4, 5, 6⟩ }, {})
        (pageAndCall ⟨1, 2, 3, 4, 5, 6⟩ ++ [callThrough ⟨1, 2, 3, 4, 5, 6⟩]) := by
  refine ⟨by decide +kernel, fun h ↦ ?_⟩
  have hknown : Known beforeCall.1 (callThrough ⟨1, 2, 3, 4, 5, 6⟩) := (along_append.mp h).2.1
  have hasked : (.toDualsense, 1) ∈ beforeCall.1.authenticated (callThrough ⟨1, 2, 3, 4, 5, 6⟩).input := by
    decide +kernel
  exact absurd ((hknown.authenticated _ _).mp hasked).1 (by decide)

end DualSenseMitm
