import DualSenseMitm.Frames
import DualSenseMitm.Moves

/-!
# Links the relay closes

A handler closes links in three places: on the first packet of a link it does not know, in the sweep
over the low handles, and at shutdown.  `closings_step` says which links a step closes.

Whether a link belongs to this run is a matter of the controller: it exists before its Connection
Complete has been read.  `LinkState` carries the links of this run along, and `own_links_spared` says
when none of them is closed: at the moment the command is issued, and at the moment it leaves the
queue.
-/

set_option autoImplicit false

namespace DualSenseMitm

open Bytes Machine Relay

/-! ## Which links a step closes -/

/-- The links closed by the commands that were issued. -/
def closings (out : List Output) : List (ConnectionSide × UInt16) :=
  out.filterMap fun
    | .cmdIssued s c => if closesLink c.ogf c.ocf then some (s, le16 c.param 0) else none
    | _ => none

theorem closings_append (out new : List Output) :
    closings (out ++ new) = closings out ++ closings new := List.filterMap_append

namespace Relay

/-- The Command Status starts the sweep over the low handles. -/
def sweeps (r : Relay) (s : ConnectionSide) (e : EvtCmdStatus) : Prop :=
  e.status = HCI_ACL_CONNECTION_EXISTS ∧ e.opcode = cmdOpcodePack OGF_LINK_CTL OCF_CREATE_CONN
    ∧ (r.h s).links.connectionHandle = 0 ∧ (r.h s).paging.staleLinkReset = false

/-- The packet is the first on a link this run never opened. -/
def startsGhost (r : Relay) (s : ConnectionSide) (p : PacketContents) : Prop :=
  4 ≤ p.length ∧ aclHandle p ∉ (r.h s).links.openHandles ∧ aclHandle p ∉ (r.h s).links.ghostHandles

instance (r : Relay) (s : ConnectionSide) (e : EvtCmdStatus) : Decidable (r.sweeps s e) := by
  unfold sweeps; infer_instance

instance (r : Relay) (s : ConnectionSide) (p : PacketContents) : Decidable (r.startsGhost s p) := by
  unfold startsGhost; infer_instance

/-- The links a step closes, shutdown apart. -/
def closedBy (r : Relay) (i : Input) : List (ConnectionSide × UInt16) :=
  match r.cause i with
  | .acl s p => if r.startsGhost s p then [(s, aclHandle p)] else []
  | .event s (.cmdStatus e) => if r.sweeps s e then sweepHandles.map fun handle ↦ (s, handle) else []
  | _ => []

theorem closings_eq {A : Set Aspect} {r r' : Relay} (h : Performs (Op.Within A) r r')
    (hA : .closing ∉ A) : closings r'.out = closings r.out := by
  obtain ⟨new, hout, hnew⟩ := h.out
  have hnil : closings new = [] := by
    refine List.filterMap_eq_nil_iff.mpr fun o ho ↦ ?_
    cases o with
    | cmdIssued s c => exact if_neg fun hc ↦ hA (((hnew _ ho).within rfl rfl).closing hc)
    | _ => rfl
  rw [hout, closings_append, hnil, List.append_nil]

theorem closings_disconnect (r : Relay) (s : ConnectionSide) (handle : UInt16) :
    closings (r.disconnect s handle).out = closings r.out ++ [(s, handle)] := by
  have hpumped : ∀ l : List (Command × Bool), closings (l.map (pumpOutput s)) = [] := fun l ↦ by
    refine List.filterMap_eq_nil_iff.mpr fun o ho ↦ ?_
    obtain ⟨p, -, rfl⟩ := List.mem_map.mp ho
    cases hb : p.2 <;> simp [pumpOutput, hb]
  have hcons : ∀ c l, closings (.cmdIssued s c :: l)
      = (if closesLink c.ogf c.ocf then [(s, le16 c.param 0)] else []) ++ closings l := fun c l ↦ by
    rw [closings, List.filterMap_cons]
    dsimp only
    split <;> simp_all [closings]
  rw [disconnect, out_sendCmd, closings_append, hcons, hpumped, List.append_nil]
  simp [command, closesLink]

theorem closings_foldl_disconnect (s : ConnectionSide) (handles : List UInt16) (r : Relay) :
    closings (handles.foldl (fun r handle ↦ r.disconnect s handle) r).out
      = closings r.out ++ handles.map fun handle ↦ (s, handle) := by
  induction handles generalizing r with
  | nil => simp
  | cons handle handles ih =>
    rw [List.foldl_cons, ih, closings_disconnect, List.map_cons, List.append_assoc]
    rfl

/-- Nothing else a sweep does closes a link. -/
theorem closings_sweepStaleLinks (r : Relay) (s : ConnectionSide) :
    closings (r.sweepStaleLinks s).out
      = closings r.out ++ if (r.h s).paging.staleLinkReset = true then []
          else sweepHandles.map fun handle ↦ (s, handle) := by
  unfold sweepStaleLinks
  by_cases hreset : (r.h s).paging.staleLinkReset = true
  · rw [if_pos hreset, if_pos hreset, List.append_nil]
  · rw [if_neg hreset, if_neg hreset]
    extract_lets r₁ r₂
    have htail : Performs (Op.Within {.timing s}) r₂
        ((r₂.spawn (.sweepDone s)).scheduleReconnect s (seconds 3)) :=
      (quiet_spawn r₂ rfl).within.trans (within_scheduleReconnect _ s (by simp) _)
    rw [closings_eq htail (by simp)]
    exact closings_foldl_disconnect s sweepHandles r₁

theorem closings_handleCmdStatus (r : Relay) (s : ConnectionSide) {p q : PacketContents}
    {e : EvtCmdStatus} (hp : EvtCmdStatus.get? p = some (e, q)) :
    closings (r.handleCmdStatus s p).out
      = closings r.out ++ if r.sweeps s e then sweepHandles.map fun handle ↦ (s, handle) else [] := by
  unfold handleCmdStatus
  rw [hp]
  dsimp -zeta only
  extract_lets r₁
  have h₁ : Performs (Op.Within ∅) r r₁ := (quiet_commandAnswered r s e.ncmd).within
  have hout : closings r₁.out = closings r.out := closings_eq h₁ (by simp)
  have hlinks : (r₁.h s).links = (r.h s).links := links_eq h₁ s (by simp) (by simp)
  have hreset : (r₁.h s).paging.staleLinkReset = (r.h s).paging.staleLinkReset :=
    staleLinkReset_eq h₁ s (by simp)
  by_cases hsweep : e.status = HCI_ACL_CONNECTION_EXISTS
      ∧ e.opcode = cmdOpcodePack OGF_LINK_CTL OCF_CREATE_CONN
      ∧ (r₁.h s).links.connectionHandle = 0
  · rw [if_pos hsweep, closings_sweepStaleLinks, hout, hreset]
    rw [hlinks] at hsweep
    by_cases hdone : (r.h s).paging.staleLinkReset = true
    · rw [if_pos hdone, if_neg fun h ↦ absurd (h.2.2.2.symm.trans hdone) (by decide)]
    · rw [if_neg hdone, if_pos ⟨hsweep.1, hsweep.2.1, hsweep.2.2, Bool.eq_false_iff.mpr hdone⟩]
  · rw [if_neg hsweep, hout, if_neg, List.append_nil]
    rw [hlinks] at hsweep
    exact fun h ↦ hsweep ⟨h.1, h.2.1, h.2.2.1⟩

theorem closings_handleAcl (r : Relay) (s : ConnectionSide) (p : PacketContents) :
    closings (r.handleAcl s p).out
      = closings r.out ++ if r.startsGhost s p then [(s, aclHandle p)] else [] := by
  by_cases hlen : 4 ≤ p.length
  · by_cases ho : aclHandle p ∈ (r.h s).links.openHandles
    · have hw : Performs (Op.Within {.linkNotes, .routing, .relaying s.other, .forwarding, .signalling s, .binding s,
          .reports, .console s, .pacing s})
          r (r.handleAcl s p) := (acl_move r s p).within (by simp) (by simp) (by simp) (by simp) (by simp)
            (by simp) (by simp) (by simp) (by simp) fun hn ↦ absurd ho hn
      rw [closings_eq hw (by simp), if_neg fun h ↦ h.2.1 ho, List.append_nil]
    · rw [handleAcl_eq r s hlen, if_pos ho, handleGhost]
      by_cases hg : aclHandle p ∈ (r.h s).links.ghostHandles
      · rw [if_pos hg, if_neg fun h ↦ h.2.2 hg, List.append_nil]
      · rw [if_neg hg, closings_disconnect, if_pos ⟨hlen, ho, hg⟩]
        rfl
  · have hget : PacketContents.get 4 p = none := if_pos (Nat.not_le.mp hlen)
    rw [handleAcl, hget, if_neg fun h ↦ hlen h.1, List.append_nil]

theorem cause_ne_shutdown {r : Relay} {i : Input} (hi : i ≠ .shutdown) :
    r.cause i ≠ .shutdown := by
  intro h
  cases i with
  | shutdown => exact hi rfl
  | packet s bytes =>
    unfold cause causeOfPacket at h
    dsimp only at h
    repeat' split at h
    all_goals cases h
  | fire k =>
    unfold cause at h
    dsimp only at h
    repeat' split at h
    all_goals cases h
  | _ => cases h

/-- **Which links a step closes.** -/
theorem closings_step (r : Relay) {i : Input} (hi : r.cause i ≠ .shutdown) :
    closings (r.step i).out = closings r.out ++ r.closedBy i := by
  have hm := step_move r i
  have hw := hm.within
  unfold closedBy
  revert hm hw hi
  generalize r.cause i = cause
  generalize r.step i = t
  intro hi hm hw
  cases hm with
  | acl => exact closings_handleAcl r _ _
  | cmdStatus hp => exact closings_handleCmdStatus r _ hp
  | shutdown => exact absurd rfl hi
  | quiet h hc =>
    have hout := (closings_eq (A := ∅) h.within (by simp)).trans (List.append_nil _).symm
    cases cause with
    | event s e =>
      cases e with
      | cmdStatus => exact absurd hc (Set.insert_nonempty _ _).ne_empty
      | _ => exact hout
    | acl => exact absurd hc (Set.insert_nonempty _ _).ne_empty
    | _ => exact hout
  | _ => exact (closings_eq hw (by simp [Cause.aspects])).trans (List.append_nil _).symm

/-! ## What leaves the queue was put there -/

/-- Commands that close a link come out of the queue of their side, and nothing else is put there
but what is issued. -/
def QueuedBy (r r' : Relay) (new : List Output) : Prop :=
  r'.out = r.out ++ new ∧ ∀ s,
    (∀ c ∈ (r'.h s).cmdQueue.queue, c ∈ (r.h s).cmdQueue.queue ∨ .cmdIssued s c ∈ new)
      ∧ ∀ c, .cmdWritten s c ∈ new → closesLink c.ogf c.ocf = true →
        c ∈ (r.h s).cmdQueue.queue ∨ .cmdIssued s c ∈ new

theorem QueuedBy.refl (r : Relay) : QueuedBy r r [] :=
  ⟨by simp, fun _ ↦ ⟨fun _ hc ↦ .inl hc, fun _ hc ↦ absurd hc List.not_mem_nil⟩⟩

theorem QueuedBy.trans {r r' r'' : Relay} {new more : List Output} (h : QueuedBy r r' new)
    (h' : QueuedBy r' r'' more) : QueuedBy r r'' (new ++ more) := by
  refine ⟨by rw [h'.1, h.1, List.append_assoc], fun s ↦ ?_⟩
  have hback : ∀ c, c ∈ (r'.h s).cmdQueue.queue ∨ .cmdIssued s c ∈ more →
      c ∈ (r.h s).cmdQueue.queue ∨ .cmdIssued s c ∈ new ++ more := fun c hc ↦ by
    rcases hc with hc | hc
    · exact ((h.2 s).1 c hc).imp id (List.mem_append_left _)
    · exact .inr (List.mem_append_right _ hc)
  refine ⟨fun c hc ↦ hback c ((h'.2 s).1 c hc), fun c hc hcl ↦ ?_⟩
  rcases List.mem_append.mp hc with hc | hc
  · exact ((h.2 s).2 c hc hcl).imp id (List.mem_append_left _)
  · exact hback c ((h'.2 s).2 c hc hcl)

/-- What the loop of `pump_commands` writes, and what it leaves, was in the queue. -/
theorem mem_pumped (r : Relay) (q : HciCommandQueue) {c : Command} :
    (c ∈ (r.pumped q).2.queue → c ∈ q.queue)
      ∧ ∀ s t, .cmdWritten s c ∈ (r.pumped q).1.map (pumpOutput t) → s = t ∧ c ∈ q.queue := by
  have hq := q.queue_pump (fun k ↦ r.env.cmdWrite (r.tick + k)) fun k ↦ r.env.clock (r.tick + k)
  refine ⟨fun hc ↦ ?_, fun s t hc ↦ ?_⟩
  · rw [hq]
    exact List.mem_append_right _ hc
  · obtain ⟨p, hp, hpc⟩ := List.mem_map.mp hc
    rw [hq]
    cases hb : p.2 with
    | false => simp [pumpOutput, hb] at hpc
    | true =>
      simp only [pumpOutput, hb, if_true, Output.cmdWritten.injEq] at hpc
      obtain ⟨rfl, rfl⟩ := hpc
      exact ⟨rfl, List.mem_append_left _ (List.mem_map.mpr ⟨p, hp, rfl⟩)⟩

theorem queuedBy_perform {A : Set Aspect} {r : Relay} {op : Op} (hop : op.Within A r) :
    ∃ new, QueuedBy r (r.perform op) new := by
  cases op with
  | pump t =>
    refine ⟨_, out_pumpCommands r t, fun s ↦ ⟨fun c hc ↦ ?_, fun c hc _ ↦ ?_⟩⟩
    · by_cases hs : s = t
      · subst hs
        simp only [perform, h_pumpCommands, if_true] at hc
        exact .inl ((mem_pumped r _).1 hc)
      · simp only [perform, h_pumpCommands, if_neg hs] at hc
        exact .inl hc
    · obtain ⟨rfl, hq⟩ := (mem_pumped r _).2 s t hc
      exact .inl hq
  | cmd t ogf ocf param what =>
    refine ⟨_, out_sendCmd r t ogf ocf param what, fun s ↦ ?_⟩
    have hpushed : ∀ c, c ∈ ((r.h s).cmdQueue.push (r.command s ogf ocf param what)).queue → s = t →
        c ∈ (r.h s).cmdQueue.queue ∨ .cmdIssued s c ∈ .cmdIssued t (r.command t ogf ocf param what)
          :: (r.pumped ((r.h t).cmdQueue.push (r.command t ogf ocf param what))).1.map
            (pumpOutput t) := by
      rintro c hc rfl
      rw [HciCommandQueue.queue_push, List.mem_append, List.mem_singleton] at hc
      exact hc.imp id fun hc ↦ by rw [hc]; exact List.mem_cons_self
    refine ⟨fun c hc ↦ ?_, fun c hc _ ↦ ?_⟩
    · by_cases hs : s = t
      · subst hs
        simp only [perform, h_sendCmd, if_true] at hc
        exact hpushed c ((mem_pumped r _).1 hc) rfl
      · simp only [perform, h_sendCmd, if_neg hs] at hc
        exact .inl hc
    · rcases List.mem_cons.mp hc with hc | hc
      · cases hc
      · obtain ⟨rfl, hq⟩ := (mem_pumped r _).2 s t hc
        exact hpushed c hq rfl
  | queue t f =>
    have hf := hop.resolve_right id
    refine ⟨[], by simp [perform], fun s ↦ ⟨fun c hc ↦ .inl ?_, fun c hc ↦ ?_⟩⟩
    · by_cases hs : s = t
      · subst hs
        simpa [perform, hf _] using hc
      · simpa [perform, hs] using hc
    · exact absurd hc List.not_mem_nil
  | emit o =>
    refine ⟨[o], rfl, fun s ↦ ⟨fun c hc ↦ .inl hc, fun c hc hcl ↦ ?_⟩⟩
    obtain rfl := List.mem_singleton.mp hc
    rcases hop with ho | ho
    · cases ho
    · rw [(plainCommand_iff.mp ho.2).1] at hcl
      cases hcl
  | frame t cid pre data =>
    refine ⟨_, out_l2capSendFrame r t cid pre data, fun s ↦ ⟨fun c hc ↦ .inl ?_, fun c hc ↦ ?_⟩⟩
    · simpa [perform] using hc
    · split at hc
      · exact absurd hc List.not_mem_nil
      · cases List.mem_singleton.mp hc
  | _ =>
    refine ⟨[], by simp [perform], fun s ↦ ⟨fun c hc ↦ .inl ?_, fun c hc ↦ ?_⟩⟩
    · simpa [perform] using hc
    · exact absurd hc List.not_mem_nil

/-- The same over any number of operations. -/
theorem queuedBy_performs {A : Set Aspect} {r r' : Relay} (h : Performs (Op.Within A) r r') :
    ∃ new, QueuedBy r r' new :=
  h.invariant (fun a ↦ ∃ new, QueuedBy r a new) ⟨[], .refl r⟩ fun _ _ ⟨_, ha⟩ hop ↦
    (queuedBy_perform hop).imp' _ fun _ h ↦ ha.trans h

end Relay

/-! ## The links of this run -/

/-- What the controller and the relay do, in the order they do it. -/
inductive LinkInput
  | input (i : Input)
  /-- The controller makes a link of a call this run accepted or dialled.  Its Connection Complete,
  and the data the peer sends over it, have yet to be read. -/
  | linkMade (s : ConnectionSide) (handle : UInt16)

/-- The relay, and the links of this run that have not been reported disconnected. -/
structure LinkState where
  relay : Relay
  own : ConnectionSide → Finset UInt16 := fun _ ↦ ∅

namespace LinkState

/-- What an event reports about the links of this run. -/
def reported (own : ConnectionSide → Finset UInt16) : Cause → ConnectionSide → Finset UInt16
  | .event s (.connectionComplete e) =>
    if e.status = HCI_SUCCESS then Function.update own s (insert e.handle (own s)) else own
  | .event s (.disconnectComplete e) =>
    if e.status = HCI_SUCCESS then Function.update own s ((own s).erase e.handle) else own
  | _ => own

def step (st : LinkState) : LinkInput → LinkState
  | .input i => { relay := st.relay.step i, own := reported st.own (st.relay.cause i) }
  | .linkMade s handle =>
    { st with own := Function.update st.own s (insert handle (st.own s)) }

/-- No command the step issues closes a link of this run. -/
def IssuesSpare (st : LinkState) (x : LinkInput) : Prop :=
  ∀ new, (st.step x).relay.out = st.relay.out ++ new → ∀ p ∈ closings new, p.2 ∉ (st.step x).own p.1

/-- No command the step writes closes a link of this run. -/
def WritesSpare (st : LinkState) (x : LinkInput) : Prop :=
  ∀ new, (st.step x).relay.out = st.relay.out ++ new → ∀ s c, .cmdWritten s c ∈ new →
    closesLink c.ogf c.ocf = true → le16 c.param 0 ∉ (st.step x).own s

/-- A link of this run that the relay does not know yet sends nothing, and none of the links it
sweeps over is of this run. -/
def OwnStep (st : LinkState) : LinkInput → Prop
  | .linkMade .. => True
  | .input i =>
    match st.relay.cause i with
    | .acl s p => st.relay.startsGhost s p → aclHandle p ∉ st.own s
    | .event s (.cmdStatus e) => st.relay.sweeps s e → ∀ handle ∈ sweepHandles, handle ∉ st.own s
    | _ => True

/-- No link comes up on a handle that a command in the queue is about to close. -/
def QueueStep (st : LinkState) (x : LinkInput) : Prop :=
  ∀ s, ∀ handle ∈ (st.step x).own s, handle ∉ st.own s →
    ∀ c ∈ (st.relay.h s).cmdQueue.queue, closesLink c.ogf c.ocf = true → le16 c.param 0 ≠ handle

instance (st : LinkState) (x : LinkInput) : Decidable (st.OwnStep x) :=
  have hall : ∀ s, Decidable (∀ handle ∈ sweepHandles, handle ∉ st.own s) := fun _ ↦
    List.decidableBAll _ _
  match x with
  | .linkMade .. => isTrue trivial
  | .input i => by unfold OwnStep; dsimp only; split <;> infer_instance

instance (st : LinkState) (x : LinkInput) : Decidable (st.QueueStep x) :=
  have : ∀ s, Decidable (∀ handle ∈ (st.step x).own s, handle ∉ st.own s →
      ∀ c ∈ (st.relay.h s).cmdQueue.queue, closesLink c.ogf c.ocf = true →
        le16 c.param 0 ≠ handle) := fun _ ↦ Finset.decidableDforallFinset
  inferInstanceAs (Decidable (∀ _, _))

/-- What the commands spare is a matter of what the step closes. -/
theorem issuesSpare_input (st : LinkState) {i : Input} (hi : i ≠ .shutdown) :
    st.IssuesSpare (.input i)
      ↔ ∀ p ∈ st.relay.closedBy i, p.2 ∉ reported st.own (st.relay.cause i) p.1 := by
  have hclosed := closings_step st.relay (cause_ne_shutdown hi)
  obtain ⟨new, hout, -⟩ := (step_move st.relay i).within.out
  have hnew : closings new = st.relay.closedBy i := by
    rw [hout, closings_append] at hclosed
    exact List.append_cancel_left hclosed
  rw [← hnew]
  refine ⟨fun h ↦ h new hout, fun h new' hout' ↦ ?_⟩
  rwa [← List.append_cancel_left (hout.symm.trans hout')]

/-- The commands that are issued spare the links of this run exactly when the step is one that
`OwnStep` permits. -/
theorem issuesSpare_iff (st : LinkState) {x : LinkInput} (hx : x ≠ .input .shutdown) :
    st.IssuesSpare x ↔ st.OwnStep x := by
  cases x with
  | linkMade s handle =>
    refine iff_of_true (fun new hnew p hp ↦ ?_) trivial
    have hnil : new = [] := List.append_cancel_left (hnew.symm.trans (List.append_nil _).symm)
    rw [hnil] at hp
    cases hp
  | input i =>
    rw [issuesSpare_input st fun h ↦ hx (congrArg _ h)]
    unfold OwnStep closedBy
    dsimp only
    cases st.relay.cause i with
    | event s e =>
      cases e with
      | cmdStatus e =>
        simp only [reported]
        by_cases hs : st.relay.sweeps s e
        · rw [if_pos hs, forall_prop_of_true hs]
          exact List.forall_mem_map
        · rw [if_neg hs]
          exact iff_of_true (by simp) fun h ↦ absurd h hs
      | _ => exact iff_of_true (by simp) trivial
    | acl s p =>
      simp only [reported]
      by_cases hg : st.relay.startsGhost s p
      · rw [if_pos hg, forall_prop_of_true hg]
        exact List.forall_mem_singleton
      · rw [if_neg hg]
        exact iff_of_true (by simp) fun h ↦ absurd h hg
    | _ => exact iff_of_true (by simp) trivial

/-- No command in a queue closes a link of this run. -/
def QueuesSpare (st : LinkState) : Prop :=
  ∀ s, ∀ c ∈ (st.relay.h s).cmdQueue.queue, closesLink c.ogf c.ocf = true →
    le16 c.param 0 ∉ st.own s

/-- While what is issued spares the links of this run, and none comes up on a handle about to be
closed, what is written spares them too. -/
theorem QueuesSpare.step {st : LinkState} (hq : st.QueuesSpare) {x : LinkInput}
    (hissue : st.IssuesSpare x) (hqueue : st.QueueStep x) :
    (st.step x).QueuesSpare ∧ st.WritesSpare x := by
  have hold : ∀ s, ∀ c ∈ (st.relay.h s).cmdQueue.queue, closesLink c.ogf c.ocf = true →
      le16 c.param 0 ∉ (st.step x).own s := fun s c hc hcl hm ↦
    hqueue s _ hm (hq s c hc hcl) c hc hcl rfl
  cases x with
  | linkMade t handle =>
    refine ⟨hold, fun new hnew s c hc ↦ ?_⟩
    have hnil : new = [] := List.append_cancel_left (hnew.symm.trans (List.append_nil _).symm)
    rw [hnil] at hc
    cases hc
  | input i =>
    obtain ⟨new, hout, hnew⟩ := queuedBy_performs (step_move st.relay i).within
    have hspare : ∀ s c, c ∈ (st.relay.h s).cmdQueue.queue ∨ .cmdIssued s c ∈ new →
        closesLink c.ogf c.ocf = true → le16 c.param 0 ∉ (st.step (.input i)).own s := by
      rintro s c (hc | hc) hcl
      · exact hold s c hc hcl
      · exact hissue new hout (s, le16 c.param 0)
          (List.mem_filterMap.mpr ⟨_, hc, if_pos hcl⟩)
    refine ⟨fun s c hc hcl ↦ hspare s c ((hnew s).1 c hc) hcl, fun new' hnew' s c hc hcl ↦ ?_⟩
    rw [← List.append_cancel_left (hout.symm.trans hnew')] at hc
    exact hspare s c ((hnew s).2 c hc hcl) hcl

end LinkState

/-- **The relay spares its own links.**  In a run without shutdown, no command that is issued closes
a link of this run exactly when every step meets `OwnStep`.  If moreover no link comes up on a handle
that a command in the queue is about to close, no command that is written closes one either. -/
theorem own_links_spared (c : Config) (xs : List LinkInput) (h : .input .shutdown ∉ xs) :
    let start : LinkState := { relay := .init c }
    (Along LinkState.step LinkState.IssuesSpare start xs
        ↔ Along LinkState.step LinkState.OwnStep start xs)
      ∧ (Along LinkState.step LinkState.OwnStep start xs →
          Along LinkState.step LinkState.QueueStep start xs →
          Along LinkState.step LinkState.WritesSpare start xs) := by
  intro start
  have hissue : ∀ {st xs}, .input .shutdown ∉ xs →
      (Along LinkState.step LinkState.IssuesSpare st xs
        ↔ Along LinkState.step LinkState.OwnStep st xs) := fun {_ xs} h ↦
    along_congr fun st x hx ↦ st.issuesSpare_iff fun he ↦ h (he ▸ hx)
  refine ⟨hissue h, fun hown hqueue ↦ ?_⟩
  have hqueues : start.QueuesSpare := fun s c hc ↦ absurd hc List.not_mem_nil
  have hspare := (hissue h).mpr hown
  clear hown hissue h
  generalize start = st at *
  induction xs generalizing st with
  | nil => trivial
  | cons x xs ih =>
    obtain ⟨hnext, hwrites⟩ := hqueues.step hspare.1 hqueue.1
    exact ⟨hwrites, ih _ hqueue.2 hnext hspare.2⟩

/-- The console calls, and its link is used at once. -/
def calledAndUsed (console : BdAddr) : List LinkInput :=
  (Input.bringUp .toPlaystation).map .input
    ++ [.linkMade .toPlaystation 5]
    ++ (Input.incomingCall .toPlaystation console 5).map .input
    ++ [.input (.acl .toPlaystation 5 (put16 0 ++ put16 L2CAP_CID_SIGNALLING))]

theorem own_links_spared_call :
    Along LinkState.step LinkState.WritesSpare
      { relay := .init { dsAddr := {}, consolePairing := some (⟨1, 2, 3, 4, 5, 6⟩, default) } }
      (calledAndUsed ⟨1, 2, 3, 4, 5, 6⟩) :=
  (own_links_spared { dsAddr := {}, consolePairing := some (⟨1, 2, 3, 4, 5, 6⟩, default) }
    (calledAndUsed ⟨1, 2, 3, 4, 5, 6⟩) (by simp [calledAndUsed, Input.bringUp, Input.incomingCall,
      Input.call, Input.connComplete, Input.event, Input.acl])).2 (by decide +kernel) (by decide +kernel)

/-- Our page and the pad's cross: its call has become link 1, and the status of our own Create
Connection is read before its Connection Complete. -/
def crossedPages (pad : BdAddr) : List LinkInput :=
  (Input.bringUp .toDualsense).map .input
    ++ [.input (.event .toDualsense EVT_CONN_REQUEST (pad.bytes ++ [0x00, 0x00, 0x00, 0x01])),
      .linkMade .toDualsense 1]

/-- The sweep closes the link that has just come up. -/
theorem own_links_spared_crossed_pages :
    ¬ Along LinkState.step LinkState.IssuesSpare
      { relay := .init { dsAddr := ⟨1, 2, 3, 4, 5, 6⟩ } }
      (crossedPages ⟨1, 2, 3, 4, 5, 6⟩
        ++ [.input (.event .toDualsense EVT_CMD_STATUS
          [HCI_ACL_CONNECTION_EXISTS, 0x01, 0x05, 0x04])]) := by
  refine mt along_append.mp (mt And.right (mt And.left ?_))
  rw [LinkState.issuesSpare_input _ (by simp [Input.event])]
  decide +kernel

end DualSenseMitm
