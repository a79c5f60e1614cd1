import DualSenseMitm.Aspects

/-!
# What stays as it was

Operations that do without an aspect leave its part of the state alone.  Each lemma here says so for
one part, over any number of operations: `links_eq`, `pairing_eq`, `held_eq` and so on, and
`Performs.out` for what leaves the process.
-/

set_option autoImplicit false

namespace DualSenseMitm

open Machine AclFlowControl

/-- A frame, or a command that leaves the queue. -/
def Output.isTraffic : Output → Bool
  | .acl .. | .cmdWritten .. | .cmdDropped .. => true
  | _ => false

/-- What may leave the process while the operations stay within `A`. -/
def Output.Allowed (A : Set Aspect) (o : Output) : Prop :=
  o.isPlain = true ∨ o.isTraffic = true ∨ o.Within A

/-- An output that is of an aspect, if it may leave the process at all. -/
theorem Output.Allowed.within {A : Set Aspect} {o : Output} (h : o.Allowed A)
    (hp : o.isPlain = false) (ht : o.isTraffic = false) : o.Within A := by
  rcases h with h | h | h
  · rw [hp] at h; cases h
  · rw [ht] at h; cases h
  · exact h

namespace Relay

/-- A timer of the next call is parked. -/
def parked (r : Relay) (s : ConnectionSide) : Prop := ∃ delay, .reconnect s delay ∈ r.tasks

/-- The current link, and the links there are. -/
def openLinks (r : Relay) (s : ConnectionSide) : UInt16 × Finset UInt16 :=
  ((r.h s).links.connectionHandle, (r.h s).links.openHandles)

variable {A : Set Aspect} {r r' : Relay}

/-! ## One operation -/

section perform

variable {op : Op} (h : op.Within A r) (s : ConnectionSide)
include h

theorem links_perform (hA : .links ∉ A) (hN : .linkNotes ∉ A) :
    ((r.perform op).h s).links = (r.h s).links := by
  cases op with
  | links t f => exact absurd (h.resolve_left id) (not_or.mpr ⟨hA, fun hn ↦ hN hn.1⟩)
  | _ => simp [perform]

theorem openLinks_perform (hA : .links ∉ A) :
    (r.perform op).openLinks s = r.openLinks s := by
  cases op with
  | links t f =>
    have hf := ((h.resolve_left id).resolve_left hA).2
    by_cases ht : s = t
    · simp [perform, openLinks, ht, (hf _).1, (hf _).2.1]
    · simp [perform, openLinks, ht]
  | _ => simp [perform, openLinks]

theorem onPlayLink_perform (hA : .links ∉ A) :
    ((r.perform op).h s).links.onPlayLink = (r.h s).links.onPlayLink := by
  cases op with
  | links t f =>
    have hf := ((h.resolve_left id).resolve_left hA).2
    by_cases ht : s = t
    · simp [perform, ht, (hf _).2.2]
    · simp [perform, ht]
  | _ => simp [perform]

theorem pairing_perform (hA : .keys ∉ A) : ((r.perform op).h s).pairing = (r.h s).pairing := by
  cases op with
  | pairing t f => exact absurd (h.resolve_left id).1 hA
  | _ => simp [perform]

omit s in
/-- The pad keeps its address. -/
theorem padAddr_perform :
    ((r.perform op).h .toDualsense).pairing.btAddr = (r.h .toDualsense).pairing.btAddr := by
  cases op with
  | pairing t f =>
    cases t with
    | toDualsense => simp [perform, (h.resolve_left id).2 rfl _]
    | toPlaystation => simp [perform]
  | _ => simp [perform]

/-- A timer of the next call stays parked, and none is parked. -/
theorem parked_perform (hA : .timing s ∉ A) : (r.perform op).parked s ↔ r.parked s := by
  cases op with
  | spawn t =>
    have ht : ∀ delay, t ≠ .reconnect s delay := by
      rintro delay rfl
      exact hA (h.resolve_left (by simp [Op.Quiet, Task.isPlain]))
    refine exists_congr fun delay ↦ ?_
    rw [perform, spawn, List.mem_append, List.mem_singleton]
    exact or_iff_left (Ne.symm (ht delay))
  | unpark k =>
    have hk : ∀ delay, r.tasks[k]? ≠ some (.reconnect s delay) := by
      rintro delay hk
      rcases h with h | ⟨t, delay', ht, htA⟩
      · exact h s delay hk
      · rw [hk] at ht
        cases ht
        exact hA htA
    have hmem : ∀ delay, .reconnect s delay ∈ r.tasks.eraseIdx k ↔ .reconnect s delay ∈ r.tasks := by
      intro delay
      rw [List.mem_eraseIdx_iff_getElem?, List.mem_iff_getElem?]
      constructor
      · rintro ⟨i, -, hi⟩
        exact ⟨i, hi⟩
      · rintro ⟨i, hi⟩
        refine ⟨i, ?_, hi⟩
        rintro rfl
        exact hk delay hi
    exact exists_congr hmem
  | frame t cid pre data => rw [parked, parked, perform, tasks_l2capSendFrame]
  | _ => exact .rfl

theorem phase_perform (hA : .comingUp ∉ A) : ((r.perform op).h s).phase = (r.h s).phase := by
  cases op with
  | phase t p => exact absurd (h.resolve_left id) hA
  | _ => simp [perform]

theorem held_perform (hA : .relaying s ∉ A) :
    ((r.perform op).h s).held = (r.h s).held
      ∨ .links ∈ A ∧ ((r.perform op).h s).held = HeldFrame.empty := by
  cases op with
  | held t f =>
    by_cases ht : s = t
    · subst ht
      obtain ⟨hl, rfl⟩ := (h.resolve_left id).resolve_left hA
      exact .inr ⟨hl, by simp [perform, HeldFrame.clear]⟩
    · simp [perform, ht]
  | _ => simp [perform]

theorem staleLinkReset_perform (hA : .closing ∉ A) :
    ((r.perform op).h s).paging.staleLinkReset = (r.h s).paging.staleLinkReset := by
  cases op with
  | paging t f =>
    have hf : ∀ p, (f p).staleLinkReset = p.staleLinkReset := by
      rcases h with h | ⟨h, -, -⟩
      · exact fun p ↦ congrArg Prod.fst (h p)
      · exact h.resolve_right hA
    by_cases ht : s = t
    · simp [perform, ht, hf _]
    · simp [perform, ht]
  | _ => simp [perform]

theorem reconnectPending_perform (hA : .timing s ∉ A) :
    ((r.perform op).h s).paging.reconnectPending = (r.h s).paging.reconnectPending := by
  cases op with
  | paging t f =>
    by_cases ht : s = t
    · subst ht
      have hf : ∀ p, (f p).reconnectPending = p.reconnectPending := by
        rcases h with h | ⟨-, h, -⟩
        · exact fun p ↦ congrArg (fun q ↦ q.2.1) (h p)
        · exact h.resolve_right hA
      simp [perform, hf _]
    · simp [perform, ht]
  | _ => simp [perform]

theorem scanSuppressed_perform (hA : .scanning s ∉ A) :
    ((r.perform op).h s).paging.scanSuppressed = (r.h s).paging.scanSuppressed := by
  cases op with
  | paging t f =>
    by_cases ht : s = t
    · subst ht
      have hf : ∀ p, (f p).scanSuppressed = p.scanSuppressed := by
        rcases h with h | ⟨-, -, h⟩
        · exact fun p ↦ congrArg (fun q ↦ q.2.2) (h p)
        · exact h.resolve_right hA
      simp [perform, hf _]
    · simp [perform, ht]
  | _ => simp [perform]

omit s in
theorem endpoints_perform (hA : .endpoints ∉ A) :
    (r.perform op).usb.endpoints = r.usb.endpoints := by
  cases op with
  | usb f =>
    rcases h with h | ⟨h, -⟩
    · exact (h r.usb).1
    · exact h.resolve_right hA r.usb
  | frame t cid pre data => rw [perform, usb_l2capSendFrame]
  | _ => rfl

omit s in
theorem reports_perform (hA : .reports ∉ A) : (r.perform op).usb.reports = r.usb.reports := by
  cases op with
  | usb f =>
    rcases h with h | ⟨-, h⟩
    · exact (h r.usb).2.1
    · exact h.1.resolve_right hA r.usb
  | frame t cid pre data => rw [perform, usb_l2capSendFrame]
  | _ => rfl

theorem dcid_perform (hl : .links ∉ A) (hs : .binding s ∉ A) :
    (r.perform op).dcid s = r.dcid s := by
  funext c
  cases op with
  | channels t f =>
    by_cases ht : s = t
    · subst ht
      rcases h with hf | ⟨-, hA, -⟩ | ⟨hA, -⟩ | ⟨-, hf⟩ | ⟨-, hf⟩
      · have hdcid : ∀ c, (f c).dcid = c.dcid := fun c ↦ congrArg Prod.fst (hf c).1
        simp [perform, dcid, hdcid _]
      · exact absurd hA hs
      · exact absurd hA hl
      · simp [perform, dcid, (hf _).1]
      · have hdcid : ∀ c, (f c).dcid = c.dcid := fun c ↦ congrArg Prod.fst (hf c)
        simp [perform, dcid, hdcid _]
    · simp [perform, dcid, ht]
  | _ => simp [perform, dcid]

/-- What the console has shown of itself. -/
theorem console_perform (hl : .links ∉ A) (hK : .console s ∉ A) :
    ((r.perform op).h s).channels.standing.2 = (r.h s).channels.standing.2 := by
  cases op with
  | channels t f =>
    by_cases ht : s = t
    · subst ht
      have hf : (f (r.h s).channels).standing.2 = (r.h s).channels.standing.2 := by
        rcases h with hf | ⟨-, -, hf⟩ | ⟨hA, -⟩ | ⟨hA, -⟩ | ⟨-, hf⟩
        · exact congrArg Prod.snd (hf _).1
        · exact hf _
        · exact absurd hA hl
        · exact absurd hA hK
        · exact congrArg Prod.snd (hf _)
      simp [perform, hf]
    · simp [perform, ht]
  | _ => simp [perform]

omit s in
/-- Since when the host takes input. -/
theorem inputFlowingSince_perform (hA : .taking ∉ A) :
    (r.perform op).usb.inputFlowingSince = r.usb.inputFlowingSince := by
  cases op with
  | usb f =>
    rcases h with h | ⟨-, -, h⟩
    · exact (h r.usb).2.2
    · exact h.resolve_right hA r.usb
  | frame t cid pre data => rw [perform, usb_l2capSendFrame]
  | _ => rfl

/-- The number of the next output report. -/
theorem outputSeq_perform (hA : .outputs ∉ A) :
    ((r.perform op).h s).streams.outputSeq = (r.h s).streams.outputSeq := by
  cases op with
  | streams t f =>
    have hf : ∀ st, (f st).outputSeq = st.outputSeq := by
      rcases h with h | ⟨h, -, -⟩
      · exact fun st ↦ congrArg Prod.fst (h st)
      · exact h.resolve_right hA
    by_cases ht : s = t
    · simp [perform, ht, hf _]
    · simp [perform, ht]
  | _ => simp [perform]

/-- The service record that is kept. -/
theorem sdpAnswerCache_perform (hA : .forwarding ∉ A) :
    ((r.perform op).h s).streams.sdpAnswerCache = (r.h s).streams.sdpAnswerCache := by
  cases op with
  | streams t f =>
    have hf : ∀ st, (f st).sdpAnswerCache = st.sdpAnswerCache := by
      rcases h with h | ⟨-, h, -⟩
      · exact fun st ↦ congrArg (fun q ↦ q.2.1) (h st)
      · exact h.resolve_right hA
    by_cases ht : s = t
    · simp [perform, ht, hf _]
    · simp [perform, ht]
  | _ => simp [perform]

/-- Whether the pad was told to leave the cable. -/
theorem pairCommandSeen_perform (hA : .handover ∉ A) :
    ((r.perform op).h s).streams.pairCommandSeen = (r.h s).streams.pairCommandSeen := by
  cases op with
  | streams t f =>
    have hf : ∀ st, (f st).pairCommandSeen = st.pairCommandSeen := by
      rcases h with h | ⟨-, -, h⟩
      · exact fun st ↦ congrArg (fun q ↦ q.2.2) (h st)
      · exact h.resolve_right hA
    by_cases ht : s = t
    · simp [perform, ht, hf _]
    · simp [perform, ht]
  | _ => simp [perform]

/-- The time between reports. -/
theorem gaps_perform (hA : .relaying s ∉ A) (hM : .measuring ∉ A) :
    ((r.perform op).h s).gaps = (r.h s).gaps := by
  cases op with
  | gaps t f =>
    have ht : s ≠ t := by
      rintro rfl
      exact (h.resolve_left id).elim hA hM
    simp [perform, ht]
  | _ => simp [perform]

/-- The number of the next request. -/
theorem cmdRequestIdent_perform (hs : .signalling s ∉ A) :
    ((r.perform op).h s).channels.cmdRequestIdent = (r.h s).channels.cmdRequestIdent := by
  cases op with
  | channels t f =>
    by_cases ht : s = t
    · subst ht
      have hf : (f (r.h s).channels).cmdRequestIdent = (r.h s).channels.cmdRequestIdent := by
        rcases h with hf | ⟨hA, -⟩ | ⟨-, hf⟩ | ⟨-, hf⟩ | ⟨hA, -⟩
        · exact (hf _).2
        · exact absurd hA hs
        · exact (hf _).2
        · exact (hf _).2
        · exact absurd hA hs
      simp [perform, hf]
    · simp [perform, ht]
  | _ => simp [perform]

theorem out_perform :
    ∃ new, (r.perform op).out = r.out ++ new ∧ ∀ o ∈ new, o.Allowed A := by
  cases op with
  | pump t =>
    refine ⟨_, out_pumpCommands r t, fun o ho ↦ ?_⟩
    obtain ⟨p, -, rfl⟩ := List.mem_map.mp ho
    cases hp : p.2 <;> simp [Output.Allowed, Output.isTraffic, pumpOutput, hp]
  | cmd t ogf ocf param what =>
    refine ⟨_, out_sendCmd r t ogf ocf param what, fun o ho ↦ ?_⟩
    rcases List.mem_cons.mp ho with rfl | ho
    · exact .inr (.inr (h.elim .of_plain id))
    · obtain ⟨p, -, rfl⟩ := List.mem_map.mp ho
      cases hp : p.2 <;> simp [Output.Allowed, Output.isTraffic, pumpOutput, hp]
  | frame t cid pre data =>
    refine ⟨_, out_l2capSendFrame r t cid pre data, fun o ho ↦ ?_⟩
    split at ho
    · simp at ho
    · rw [List.mem_singleton.mp ho]; exact .inr (.inl rfl)
  | emit o =>
    refine ⟨[o], rfl, fun o' ho' ↦ ?_⟩
    rw [List.mem_singleton.mp ho']
    exact h.imp id .inr
  | _ => exact ⟨[], by simp [perform], by simp⟩

end perform

/-! ## Any number of them -/

section performs

variable (h : Performs (Op.Within A) r r') (s : ConnectionSide)
include h

theorem links_eq (hA : .links ∉ A) (hN : .linkNotes ∉ A) : (r'.h s).links = (r.h s).links :=
  h.invariant (fun a ↦ (a.h s).links = (r.h s).links) rfl fun _ _ ha hop ↦
    (links_perform hop s hA hN).trans ha

theorem openLinks_eq (hA : .links ∉ A) : r'.openLinks s = r.openLinks s :=
  h.invariant (fun a ↦ a.openLinks s = r.openLinks s) rfl fun _ _ ha hop ↦
    (openLinks_perform hop s hA).trans ha

theorem onPlayLink_eq (hA : .links ∉ A) : (r'.h s).links.onPlayLink = (r.h s).links.onPlayLink :=
  h.invariant (fun a ↦ (a.h s).links.onPlayLink = (r.h s).links.onPlayLink) rfl fun _ _ ha hop ↦
    (onPlayLink_perform hop s hA).trans ha

theorem pairing_eq (hA : .keys ∉ A) : (r'.h s).pairing = (r.h s).pairing :=
  h.invariant (fun a ↦ (a.h s).pairing = (r.h s).pairing) rfl fun _ _ ha hop ↦
    (pairing_perform hop s hA).trans ha

omit s in
theorem padAddr_eq : (r'.h .toDualsense).pairing.btAddr = (r.h .toDualsense).pairing.btAddr :=
  h.invariant (fun a ↦ (a.h .toDualsense).pairing.btAddr = (r.h .toDualsense).pairing.btAddr) rfl
    fun _ _ ha hop ↦ (padAddr_perform hop).trans ha

theorem parked_eq (hA : .timing s ∉ A) : r'.parked s ↔ r.parked s :=
  h.invariant (fun a ↦ a.parked s ↔ r.parked s) .rfl fun _ _ ha hop ↦ (parked_perform hop s hA).trans ha

theorem phase_eq (hA : .comingUp ∉ A) : (r'.h s).phase = (r.h s).phase :=
  h.invariant (fun a ↦ (a.h s).phase = (r.h s).phase) rfl fun _ _ ha hop ↦
    (phase_perform hop s hA).trans ha

theorem held_eq_or_empty (hA : .relaying s ∉ A) :
    (r'.h s).held = (r.h s).held ∨ (r'.h s).held = HeldFrame.empty :=
  h.invariant (fun a ↦ (a.h s).held = (r.h s).held ∨ (a.h s).held = HeldFrame.empty) (.inl rfl)
    fun _ _ ha hop ↦ (held_perform hop s hA).elim (fun he ↦ ha.imp he.trans he.trans) (.inr ·.2)

theorem held_eq (hA : .relaying s ∉ A) (hl : .links ∉ A) : (r'.h s).held = (r.h s).held :=
  h.invariant (fun a ↦ (a.h s).held = (r.h s).held) rfl fun _ _ ha hop ↦
    ((held_perform hop s hA).resolve_right fun hc ↦ hl hc.1).trans ha

theorem staleLinkReset_eq (hA : .closing ∉ A) :
    (r'.h s).paging.staleLinkReset = (r.h s).paging.staleLinkReset :=
  h.invariant (fun a ↦ (a.h s).paging.staleLinkReset = (r.h s).paging.staleLinkReset) rfl
    fun _ _ ha hop ↦ (staleLinkReset_perform hop s hA).trans ha

theorem reconnectPending_eq (hA : .timing s ∉ A) :
    (r'.h s).paging.reconnectPending = (r.h s).paging.reconnectPending :=
  h.invariant (fun a ↦ (a.h s).paging.reconnectPending = (r.h s).paging.reconnectPending) rfl
    fun _ _ ha hop ↦ (reconnectPending_perform hop s hA).trans ha

theorem scanSuppressed_eq (hA : .scanning s ∉ A) :
    (r'.h s).paging.scanSuppressed = (r.h s).paging.scanSuppressed :=
  h.invariant (fun a ↦ (a.h s).paging.scanSuppressed = (r.h s).paging.scanSuppressed) rfl
    fun _ _ ha hop ↦ (scanSuppressed_perform hop s hA).trans ha

omit s in
theorem endpoints_eq (hA : .endpoints ∉ A) : r'.usb.endpoints = r.usb.endpoints :=
  h.invariant (fun a ↦ a.usb.endpoints = r.usb.endpoints) rfl fun _ _ ha hop ↦
    (endpoints_perform hop hA).trans ha

omit s in
theorem reports_eq (hA : .reports ∉ A) : r'.usb.reports = r.usb.reports :=
  h.invariant (fun a ↦ a.usb.reports = r.usb.reports) rfl fun _ _ ha hop ↦
    (reports_perform hop hA).trans ha

theorem dcid_eq (hl : .links ∉ A) (hs : .binding s ∉ A) : r'.dcid s = r.dcid s :=
  h.invariant (fun a ↦ a.dcid s = r.dcid s) rfl fun _ _ ha hop ↦
    (dcid_perform hop s hl hs).trans ha

theorem console_eq (hl : .links ∉ A) (hK : .console s ∉ A) :
    (r'.h s).channels.standing.2 = (r.h s).channels.standing.2 :=
  h.invariant (fun a ↦ (a.h s).channels.standing.2 = (r.h s).channels.standing.2) rfl
    fun _ _ ha hop ↦ (console_perform hop s hl hK).trans ha

theorem cmdRequestIdent_eq (hs : .signalling s ∉ A) :
    (r'.h s).channels.cmdRequestIdent = (r.h s).channels.cmdRequestIdent :=
  h.invariant (fun a ↦ (a.h s).channels.cmdRequestIdent = (r.h s).channels.cmdRequestIdent) rfl
    fun _ _ ha hop ↦ (cmdRequestIdent_perform hop s hs).trans ha

omit s in
theorem inputFlowingSince_eq (hA : .taking ∉ A) : r'.usb.inputFlowingSince = r.usb.inputFlowingSince :=
  h.invariant (fun a ↦ a.usb.inputFlowingSince = r.usb.inputFlowingSince) rfl fun _ _ ha hop ↦
    (inputFlowingSince_perform hop hA).trans ha

theorem outputSeq_eq (hA : .outputs ∉ A) : (r'.h s).streams.outputSeq = (r.h s).streams.outputSeq :=
  h.invariant (fun a ↦ (a.h s).streams.outputSeq = (r.h s).streams.outputSeq) rfl fun _ _ ha hop ↦
    (outputSeq_perform hop s hA).trans ha

theorem sdpAnswerCache_eq (hA : .forwarding ∉ A) :
    (r'.h s).streams.sdpAnswerCache = (r.h s).streams.sdpAnswerCache :=
  h.invariant (fun a ↦ (a.h s).streams.sdpAnswerCache = (r.h s).streams.sdpAnswerCache) rfl
    fun _ _ ha hop ↦ (sdpAnswerCache_perform hop s hA).trans ha

theorem pairCommandSeen_eq (hA : .handover ∉ A) :
    (r'.h s).streams.pairCommandSeen = (r.h s).streams.pairCommandSeen :=
  h.invariant (fun a ↦ (a.h s).streams.pairCommandSeen = (r.h s).streams.pairCommandSeen) rfl
    fun _ _ ha hop ↦ (pairCommandSeen_perform hop s hA).trans ha

theorem gaps_eq (hA : .relaying s ∉ A) (hM : .measuring ∉ A) : (r'.h s).gaps = (r.h s).gaps :=
  h.invariant (fun a ↦ (a.h s).gaps = (r.h s).gaps) rfl fun _ _ ha hop ↦
    (gaps_perform hop s hA hM).trans ha

/-- Nothing that has left the process is taken back, and only what the aspects let leave it is
added. -/
theorem Performs.out : ∃ new, r'.out = r.out ++ new ∧ ∀ o ∈ new, o.Allowed A := by
  refine h.invariant (fun a ↦ ∃ new, a.out = r.out ++ new ∧ ∀ o ∈ new, o.Allowed A)
    ⟨[], by simp, by simp⟩ ?_
  rintro a op ⟨new, ha, hnew⟩ hop
  obtain ⟨more, hmore, hmem⟩ := out_perform hop
  refine ⟨new ++ more, by rw [hmore, ha, List.append_assoc], fun o ho ↦ ?_⟩
  exact (List.mem_append.mp ho).elim (hnew o) (hmem o)

end performs

end Relay

end DualSenseMitm
