import DualSenseMitm.Frames
import DualSenseMitm.Moves

/-!
# Frames on links that are gone

A handler writes every frame on its current link, and once that link has dropped the current handle
is zero.  Nothing stops it from writing then, except that all its channels are closed: what keeps
the frames on open links is `Wired`, that a handler whose current link is gone has no open channel.

* `Op.Live` — the operations that keep `Wired` and `Accounted`: frames go out while the current link
  is open, and the links that are open stay open.
* `LiveStep` — the condition on a step: while the current link is gone the handler is not asked to
  signal.
* `frames_on_open_links` — where every step meets it, every frame of the run went to an open link,
  and only open links owe buffers.
-/

set_option autoImplicit false

namespace DualSenseMitm

open Bytes Machine Relay AclFlowControl

namespace Relay

/-- The current link is open. -/
def Live (r : Relay) (s : ConnectionSide) : Prop :=
  (r.h s).links.connectionHandle ∈ (r.h s).links.openHandles

/-- The current link is open, or no channel is. -/
def Wired (r : Relay) (s : ConnectionSide) : Prop := r.Live s ∨ ∀ c, r.dcid s c = 0

/-- Every frame of a side was written on an open link, and only open links owe buffers. -/
structure Accounted (r : Relay) (s : ConnectionSide) : Prop where
  /-- A handle has twelve bits. -/
  bits : ∀ handle ∈ (r.h s).links.openHandles, handle < 0x1000
  sent : ∀ frame ok openHandles, .acl s frame ok openHandles ∈ r.out →
    frameHandle frame ∈ openHandles
  owed : ∀ handle, (r.h s).acl.inFlightOf handle ≠ 0 → handle ∈ (r.h s).links.openHandles

end Relay

/-! ## Operations on live links -/

/-- The operations that write no frame of the side `s` on a dead link, and close none of its
links. -/
def Op.Accounts (s : ConnectionSide) (r : Relay) : Op → Prop
  | .links t f => t = s →
    ∀ l, l.openHandles ⊆ (f l).openHandles
      ∧ ∀ handle ∈ (f l).openHandles, handle ∈ l.openHandles ∨ handle < 0x1000
  | .acl _ f => Shrinks f
  | .frame t _ _ _ => t = s → r.Live s
  | .emit o => ∀ t frame ok openHandles, o ≠ .acl t frame ok openHandles
  | _ => True

/-- The operations that open no channel of the side `s` on a dead link, and keep its current link
open. -/
def Op.Wires (s : ConnectionSide) (r : Relay) : Op → Prop
  | .links t f => t = s →
    ∀ l, l.openHandles ⊆ (f l).openHandles
      ∧ ((f l).connectionHandle = l.connectionHandle
        ∨ (f l).connectionHandle ∈ (f l).openHandles)
  | .channels t f => t = s →
    (∀ c, (f c).dcid = c.dcid) ∨ (∀ c, (f c).dcid = fun _ ↦ 0) ∨ r.Live s
  | _ => True

namespace Relay

variable {r : Relay} {s : ConnectionSide}

theorem Live.frameHandle_mem (hl : r.Live s) (hk : r.Accounted s) (cid : UInt16)
    (payload : List UInt8) :
    frameHandle (aclFrame (r.h s).links.connectionHandle cid payload) ∈ (r.h s).links.openHandles := by
  rw [frameHandle_aclFrame, and_0fff_of_lt (hk.bits _ hl)]
  exact hl

theorem wired_perform {op : Op} (hw : r.Wired s) (hop : op.Wires s r) : (r.perform op).Wired s := by
  cases op with
  | links t f =>
    by_cases ht : s = t
    · subst ht
      obtain ⟨hsub, hcur⟩ := hop rfl (r.h s).links
      refine hw.imp (fun hl ↦ ?_) fun hc ↦ ?_
      · simp only [perform, Live, h_onLinks, if_true]
        rcases hcur with hcur | hcur
        · rw [hcur]; exact hsub hl
        · exact hcur
      · simpa [perform, dcid] using hc
    · simpa [perform, Wired, Live, dcid, ht] using hw
  | channels t f =>
    by_cases ht : s = t
    · subst ht
      rcases hop rfl with hf | hf | hl
      · simpa [perform, Wired, Live, dcid, hf] using hw
      · exact .inr fun c ↦ by simp [perform, dcid, hf]
      · exact .inl (by simpa [perform, Live] using hl)
    · simpa [perform, Wired, Live, dcid, ht] using hw
  | _ => simpa [perform, Wired, Live, dcid] using hw

section accounted

variable (hk : r.Accounted s) {op : Op} (hop : op.Accounts s r)
include hk hop

theorem bits_perform :
    ∀ handle ∈ ((r.perform op).h s).links.openHandles, handle < 0x1000 := by
  cases op with
  | links t f =>
    by_cases ht : s = t
    · subst ht
      intro handle hm
      simp only [perform, h_onLinks, if_true] at hm
      exact ((hop rfl _).2 handle hm).elim (hk.bits handle) id
    · simpa [perform, ht] using hk.bits
  | _ => simpa [perform] using hk.bits

theorem sent_perform : ∀ frame ok openHandles, .acl s frame ok openHandles ∈ (r.perform op).out →
    frameHandle frame ∈ openHandles := by
  have hpumped : ∀ (t : ConnectionSide) (l : List (Command × Bool)) frame ok openHandles,
      Output.acl s frame ok openHandles ∉ l.map (pumpOutput t) := by
    intro t l frame ok openHandles hm
    obtain ⟨p, -, hp⟩ := List.mem_map.mp hm
    cases hb : p.2 <;> simp [pumpOutput, hb] at hp
  intro frame ok openHandles hm
  cases op with
  | frame t cid pre data =>
    rw [perform, out_l2capSendFrame, List.mem_append] at hm
    rcases hm with hm | hm
    · exact hk.sent _ _ _ hm
    · split at hm
      · exact absurd hm List.not_mem_nil
      · obtain ⟨rfl, rfl, -, rfl⟩ := Output.acl.inj (List.mem_singleton.mp hm)
        exact (hop rfl).frameHandle_mem hk _ _
  | cmd t ogf ocf param what =>
    rw [perform, out_sendCmd, List.mem_append, List.mem_cons] at hm
    rcases hm with hm | hm | hm
    · exact hk.sent _ _ _ hm
    · cases hm
    · exact absurd hm (hpumped _ _ _ _ _)
  | pump t =>
    rw [perform, out_pumpCommands, List.mem_append] at hm
    exact hm.elim (hk.sent _ _ _) fun hm ↦ absurd hm (hpumped _ _ _ _ _)
  | emit o =>
    rw [perform, out_emit, List.mem_append, List.mem_singleton] at hm
    rcases hm with hm | rfl
    · exact hk.sent _ _ _ hm
    · exact absurd rfl (hop _ _ _ _)
  | _ => exact hk.sent _ _ _ hm

theorem owed_perform : ∀ handle, ((r.perform op).h s).acl.inFlightOf handle ≠ 0 →
    handle ∈ ((r.perform op).h s).links.openHandles := by
  intro handle hne
  cases op with
  | links t f =>
    by_cases ht : s = t
    · subst ht
      have hold : (r.h s).acl.inFlightOf handle ≠ 0 := by simpa [perform] using hne
      simpa [perform] using (hop rfl _).1 (hk.owed handle hold)
    · simp only [perform, h_onLinks, if_neg ht] at hne ⊢
      exact hk.owed handle hne
  | acl t f =>
    by_cases ht : s = t
    · subst ht
      simp only [perform, h_onAcl, if_true] at hne ⊢
      exact hk.owed handle (hop _ _ hne)
    · simp only [perform, h_onAcl, if_neg ht] at hne ⊢
      exact hk.owed handle hne
  | frame t cid pre data =>
    by_cases ht : s = t
    · subst ht
      simp only [perform, h_l2capSendFrame, if_true, aclAfterFrame] at hne ⊢
      split at hne
      · exact hk.owed handle hne
      · split at hne
        · rw [inFlightOf_onSent] at hne
          by_cases hh : handle = (r.h s).links.connectionHandle
          · rw [hh]; exact hop rfl
          · rw [if_neg hh, add_zero] at hne
            exact hk.owed handle hne
        · exact hk.owed handle hne
    · simp only [perform, h_l2capSendFrame, if_neg ht] at hne ⊢
      exact hk.owed handle hne
  | _ =>
    simp only [perform, h_onPairing, h_onPaging, h_onChannels, h_onStreams, h_onHeld, h_onGaps,
      h_onRadio, h_setPhase, h_onUsb, h_onCmdQueue, h_pumpCommands, h_sendCmd, h_emit, h_spawn,
      h_unpark, h_advance] at hne ⊢
    exact hk.owed handle hne

theorem accounted_perform : (r.perform op).Accounted s :=
  ⟨bits_perform hk hop, sent_perform hk hop, owed_perform hk hop⟩

end accounted

/-! ## Functions on live links -/

section within

variable {A : Set Aspect} {op : Op} (hop : op.Within A r) (hl : .links ∉ A)
  (hs : .signalling s ∈ A → r.Live s)
include hop hl hs

/-- Operations that stay within aspects write on dead links only where they signal. -/
theorem accounts_of_within (hw : r.Wired s) : op.Accounts s r := by
  cases op with
  | links t f =>
    rintro rfl l
    rw [(((hop.resolve_left id).resolve_left hl).2 l).2.1]
    exact ⟨Finset.Subset.refl _, fun _ h ↦ .inl h⟩
  | acl t f => exact hop.elim And.right And.left
  | frame t cid pre data =>
    rintro rfl
    have hopen : (∃ c, r.dcid t c = cid) → cid ≠ 0 → r.Live t := fun ⟨c, hc⟩ hcid ↦
      hw.resolve_right fun hclosed ↦ hcid (hc.symm.trans (hclosed c))
    rcases hop with ⟨hcid, c, hc, -⟩ | hA | ⟨hcid, c, hc, -⟩
    · exact hopen ⟨c, hc⟩ hcid
    · exact hs hA.1
    · exact hopen ⟨c, hc⟩ hcid
  | emit o =>
    rintro t frame ok openHandles rfl
    exact hop.elim (fun ho ↦ nomatch ho) id
  | _ => trivial

theorem wires_of_within : op.Wires s r := by
  cases op with
  | links t f =>
    rintro rfl l
    obtain ⟨hcur, hopen, -⟩ := ((hop.resolve_left id).resolve_left hl).2 l
    rw [hopen]
    exact ⟨Finset.Subset.refl _, .inl hcur⟩
  | channels t f =>
    rintro rfl
    rcases hop with hf | ⟨hA, -⟩ | ⟨hA, -⟩ | ⟨-, hf⟩ | ⟨-, hf⟩
    · exact .inl fun c ↦ congrArg Prod.fst (hf c).1
    · exact .inr (.inr (hs hA))
    · exact absurd hA hl
    · exact .inl fun c ↦ (hf c).1
    · exact .inl fun c ↦ congrArg Prod.fst (hf c)
  | _ => trivial

end within

/-- The handler writes on open links, and owes buffers on open links. -/
structure KeepsToLinks (r : Relay) (s : ConnectionSide) : Prop where
  wired : r.Wired s
  accounted : r.Accounted s

theorem live_congr {r' : Relay} (h : r'.openLinks s = r.openLinks s) : r'.Live s ↔ r.Live s := by
  obtain ⟨hcur, hopen⟩ := Prod.mk.inj h
  rw [Live, hcur, hopen]
  rfl

theorem Wired.of_performs {r' : Relay} (hw : r.Wired s) (h : Performs (Op.Wires s) r r') :
    r'.Wired s := h.invariant (fun a ↦ a.Wired s) hw fun _ _ ha hop ↦ wired_perform ha hop

theorem Accounted.of_performs {r' : Relay} (hk : r.Accounted s)
    (h : Performs (Op.Accounts s) r r') : r'.Accounted s :=
  h.invariant (fun a ↦ a.Accounted s) hk fun _ _ ha hop ↦ accounted_perform ha hop

/-- The buffers of a link that is gone are written off along with it. -/
theorem Accounted.dropLink (hk : r.Accounted s) (t : ConnectionSide) {handle : UInt16}
    {f : Links → Links} (hf : ∀ l, (f l).openHandles = l.openHandles.erase handle) :
    ((r.onLinks t f).onAcl t fun a ↦ a.onDisconnect handle).Accounted s := by
  by_cases ht : s = t
  · subst ht
    refine ⟨fun h hm ↦ ?_, hk.sent, fun h hne ↦ ?_⟩
    · simp only [h_onAcl, h_onLinks, if_true, hf] at hm
      exact hk.bits h (Finset.mem_of_mem_erase hm)
    · simp only [h_onAcl, h_onLinks, if_true, hf, inFlightOf_onDisconnect] at hne ⊢
      by_cases hh : h = handle
      · rw [if_pos hh] at hne
        exact absurd rfl hne
      · rw [if_neg hh] at hne
        exact Finset.mem_erase.mpr ⟨hh, hk.owed h hne⟩
  · refine ⟨?_, hk.sent, ?_⟩
    · simpa [ht] using hk.bits
    · simpa [ht] using hk.owed

/-- Every aspect but the links, and signalling only while the link is live. -/
def withinLive (r : Relay) (s : ConnectionSide) : Set Aspect :=
  {a | a ≠ .links ∧ (a = .signalling s → r.Live s)}

namespace KeepsToLinks

variable (hk : r.KeepsToLinks s)
include hk

theorem perform (op : Op) (ha : op.Accounts s r) (hw : op.Wires s r) :
    (r.perform op).KeepsToLinks s :=
  ⟨wired_perform hk.wired hw, accounted_perform hk.accounted ha⟩

/-- Whatever leaves the links as they are, and signals only on a live one. -/
theorem of_within {A : Set Aspect} {r' : Relay} (h : Performs (Op.Within A) r r')
    (hl : .links ∉ A) (hs : .signalling s ∈ A → r.Live s) : r'.KeepsToLinks s := by
  refine (h.invariant (fun a ↦ a.openLinks s = r.openLinks s ∧ a.KeepsToLinks s) ⟨rfl, hk⟩ ?_).2
  rintro a op ⟨hlinks, ha⟩ hop
  have hlive : .signalling s ∈ A → a.Live s := fun hA ↦ (live_congr hlinks).mpr (hs hA)
  exact ⟨(openLinks_perform hop s hl).trans hlinks,
    ha.perform op (accounts_of_within hop hl hlive ha.wired) (wires_of_within hop hl hlive)⟩

/-- The same, where what is signalled depends on the link. -/
theorem of_withinLive {r' : Relay} (h : Performs (Op.Within (r.withinLive s)) r r') :
    r'.KeepsToLinks s := hk.of_within h (fun hA ↦ hA.1 rfl) fun hA ↦ hA.2 rfl

theorem of_quiet {r' : Relay} (h : Performs Op.Quiet r r') : r'.KeepsToLinks s :=
  hk.of_within (A := ∅) h.within (by simp) (by simp)

/-! ## Links that come and go -/

/-- A new link is open from the start, and takes the place of the current one. -/
theorem handleConnectionComplete (t : ConnectionSide)
    {p q : PacketContents} {e : EvtConnComplete} (hp : EvtConnComplete.get? p = some (e, q))
    (hbits : t = s → e.status = HCI_SUCCESS → e.handle < 0x1000) :
    (r.handleConnectionComplete t p).KeepsToLinks s := by
  have hnote : ∀ {r : Relay} {f : Links → Links}, r.KeepsToLinks s →
      (∀ l, (f l).connectionHandle = l.connectionHandle ∧ (f l).openHandles = l.openHandles) →
      (r.onLinks t f).KeepsToLinks s := fun {_ f} hk hf ↦ by
    refine hk.perform (.links t f) (fun ht l ↦ ⟨?_, fun handle hm ↦ .inl ?_⟩) fun ht l ↦ ⟨?_, .inl (hf l).1⟩
    · rw [(hf l).2]
    · rwa [(hf l).2] at hm
    · rw [(hf l).2]
  unfold Relay.handleConnectionComplete
  rw [hp]
  dsimp -zeta only
  extract_lets r₁ r₂ r₃ r₄ r₅ r₆ r₇
  have h₁ : r₁.KeepsToLinks s :=
    hk.of_within (A := {.linkNotes, .scanning t.other})
      (within_pageOver r t (by simp) (by simp) _) (by simp) (by simp)
  by_cases hfail : e.status ≠ HCI_SUCCESS
  · rw [if_pos hfail]
    exact h₁.of_within (A := {.timing t})
      (within_handleConnectionFailure r₁ t (by simp) e) (by simp) (by simp)
  rw [if_neg hfail]
  have h₂ : r₂.KeepsToLinks s := by
    simp only [r₂, leaveOldLink]
    split
    · have hreset : (r₁.resetChannels t).KeepsToLinks s :=
        h₁.perform (.channels t _) trivial fun _ ↦ .inr (.inl fun _ ↦ rfl)
      exact hnote hreset fun _ ↦ ⟨rfl, rfl⟩
    · exact h₁
  have h₃ : r₃.KeepsToLinks s := by
    let opened (l : Links) : Links :=
      { l with
        connectionHandle := e.handle
        linkPeerAddr := e.bdaddr
        openHandles := insert e.handle l.openHandles }
    refine h₂.perform (.links t opened) (fun ht l ↦ ⟨?_, fun handle hm ↦ ?_⟩)
      fun ht l ↦ ⟨?_, .inr ?_⟩
    · exact Finset.subset_insert _ _
    · rcases Finset.mem_insert.mp hm with rfl | hm
      · exact .inr (hbits ht (not_not.mp hfail))
      · exact .inl hm
    · exact Finset.subset_insert _ _
    · exact Finset.mem_insert_self _ _
  have h₄ : r₄.KeepsToLinks s := h₃.of_quiet (quiet_onPaging r₃ t fun _ ↦ rfl)
  have h₅ : r₅.KeepsToLinks s := h₄.of_quiet (quiet_endHandoverPaging r₄ t)
  have h₆ : r₆.KeepsToLinks s := by
    simp only [r₆]
    split
    · exact h₅.of_within (A := {.pacing t}) (within_writePageScanActivity r₅ t (by simp) _ _) (by simp) (by simp)
    · exact h₅
  have h₇ : r₇.KeepsToLinks s := hnote h₆ fun _ ↦ ⟨rfl, rfl⟩
  split
  · exact h₇
  · exact h₇.of_within (A := {.authenticating t}) (within_requestAuthentication r₇ t (by simp) _)
      (by simp) (by simp)

/-- A link that is gone takes its buffers with it, and the current one all channels. -/
theorem handleDisconnectComplete (t : ConnectionSide)
    (p : PacketContents) : (r.handleDisconnectComplete t p).KeepsToLinks s := by
  unfold Relay.handleDisconnectComplete
  split
  · exact hk
  · rename_i e _ _
    extract_lets r₁ r₂ r₃ r₄ r₅ r₆ r₇
    have h₂ : r₂.Accounted s := hk.accounted.dropLink t fun _ ↦ rfl
    have hother : t ≠ s → r₂.Wired s := fun ht ↦ by
      simpa [r₂, r₁, Wired, Live, dcid, Ne.symm ht] using hk.wired
    split
    · rename_i hcur
      refine ⟨?_, h₂⟩
      by_cases ht : t = s
      · subst ht
        have hne : (r₂.h t).links.connectionHandle ≠ e.handle := fun h ↦ hcur h.symm
        refine hk.wired.imp (fun hl ↦ ?_) fun hc ↦ ?_
        · simp only [r₂, r₁, h_onAcl, h_onLinks, if_true] at hne
          simp only [r₂, r₁, Live, h_onAcl, h_onLinks, if_true]
          exact Finset.mem_erase.mpr ⟨hne, hl⟩
        · simpa [r₂, r₁, dcid] using hc
      · exact hother ht
    · -- between the link and its channels going, the handler only queues commands
      let ok (r : Relay) (op : Op) : Prop := op.Accounts s r ∧ (t ≠ s → op.Wires s r)
      have hlinks : ∀ (r : Relay) {f : Links → Links}, (∀ l, (f l).openHandles = l.openHandles) →
          Performs ok r (r.onLinks t f) := fun r f hf ↦ by
        refine Performs.single (.links t f) ⟨fun _ l ↦ ?_, fun ht h ↦ absurd h ht⟩
        rw [hf]
        exact ⟨Finset.Subset.refl _, fun _ h ↦ .inl h⟩
      have hcmd : ∀ (r : Relay) ogf ocf param what, Performs ok r (r.sendCmd t ogf ocf param what) :=
        fun r ogf ocf param what ↦
          Performs.single (.cmd t ogf ocf param what) ⟨trivial, fun _ ↦ trivial⟩
      have h₃ : Performs ok r₂ r₃ := hlinks r₂ fun _ ↦ rfl
      have h₄ : Performs ok r₂ r₄ := h₃.tail (.held t HeldFrame.clear) ⟨trivial, fun _ ↦ trivial⟩
      have h₅ : Performs ok r₂ r₅ := by
        cases t with
        | toDualsense => exact h₄.trans (hcmd r₄ _ _ _ _)
        | toPlaystation =>
          exact ((h₄.trans (hlinks r₄ fun _ ↦ by rfl)).trans (hcmd _ _ _ _ _)).trans
            (hcmd _ _ _ _ _)
      have h₆ : Performs ok r₂ r₆ := h₅.trans (hlinks r₅ fun _ ↦ rfl)
      let closed (c : Channels) : Channels :=
        { c with
          dcid := fun _ ↦ 0
          consoleFullReports := false
          consoleInputSeen := false
          consoleOutputSeen := false }
      have h₇ : Performs ok r₂ r₇ := h₆.tail (.channels t closed) ⟨trivial, fun ht h ↦ absurd h ht⟩
      have hk₇ : r₇.KeepsToLinks s := by
        refine ⟨?_, h₂.of_performs (h₇.mono fun _ _ ↦ And.left)⟩
        by_cases ht : t = s
        · subst ht
          exact .inr fun c ↦ by simp [r₇, resetChannels, dcid]
        · exact (hother ht).of_performs (h₇.mono fun _ _ hop ↦ hop.2 ht)
      have hagain : ∀ delay, (r₇.scheduleReconnect t delay).KeepsToLinks s := fun delay ↦
        hk₇.of_within (A := {.timing t}) (within_scheduleReconnect r₇ t (by simp) delay) (by simp)
          (by simp)
      split
      · exact hagain _
      · exact hagain _

end KeepsToLinks

end Relay

/-! ## Any step -/

/-- While the current link of the side is gone, the step does not make it signal. -/
def LiveStep (s : ConnectionSide) (r : Relay) (i : Input) : Prop :=
  match r.cause i with
  | .event t (.connectionComplete e) => t = s → e.status = HCI_SUCCESS → e.handle < 0x1000
  | .event t (.authComplete e) => t = s → s = .toDualsense → e.status = HCI_SUCCESS → r.Live s
  | .event t (.encryptChange e) =>
    t = s → s = .toDualsense → e.status = HCI_SUCCESS → e.encrypt ≠ 0 → r.Live s
  | .acl t p => t = s → (r.completedPdu s p).any pduTakenUp = true → r.Live s
  | .interruptFallback t link =>
    t = s → (r.h s).links.connectionHandle = link → r.dcid s .hidInterrupt = 0 → r.Live s
  | _ => True

instance (r : Relay) (s : ConnectionSide) : Decidable (r.Live s) := by unfold Live; infer_instance

instance (s : ConnectionSide) (r : Relay) (i : Input) : Decidable (LiveStep s r i) := by
  unfold LiveStep; split <;> infer_instance

namespace Relay

variable {r : Relay} {s : ConnectionSide}

theorem KeepsToLinks.acl (hk : r.KeepsToLinks s) {t : ConnectionSide} {p : PacketContents}
    {r' : Relay} (h : AclMove r t p r')
    (hlive : t = s → (r.completedPdu s p).any pduTakenUp = true → r.Live s) :
    r'.KeepsToLinks s := by
  have hreasm : ∀ {r : Relay} re, r.KeepsToLinks s →
      (r.setReasm t (aclHandle p) re).KeepsToLinks s := fun {r} re hk ↦
    hk.of_within (within_setReasm r t (Set.mem_singleton _) _ re) (by simp) (by simp)
  have hroute : ∀ re pdu, r.completedPdu t p = some pdu →
      ((r.setReasm t (aclHandle p) re).routePdu t (aclHandle p) pdu).KeepsToLinks s := by
    intro re pdu hc
    have hk' := hreasm re hk
    by_cases htaken : pduTakenUp pdu = true
    · refine hk'.of_within
        (A := {.routing, .relaying t.other, .signalling t, .binding t, .reports, .forwarding, .console t, .pacing t})
        (within_routePdu _ t (by simp) (by simp) (by simp) (by simp) (by simp) (by simp) (by simp) (by simp) _ pdu)
        (by simp) fun hs ↦ ?_
      have ht : t = s := by simpa using Eq.symm (by simpa using hs)
      subst ht
      have hlinks := openLinks_eq (within_setReasm r t (Set.mem_singleton _) (aclHandle p) re) t
        (by simp)
      exact (live_congr hlinks).mpr (hlive rfl (by rwa [hc]))
    · exact hk'.of_within (A := {.routing, .relaying t.other, .reports, .forwarding, .console t, .pacing t})
        (within_routePdu_of_data _ t (by simp) (by simp) (by simp) (by simp) (by simp) (by simp) _
          (Bool.eq_false_iff.mpr htaken)) (by simp) (by simp)
  cases h with
  | dropped => exact hk
  | ghost ho =>
    exact hk.of_within (A := {.linkNotes, .closing})
      (within_handleGhost r t (by simp) (by simp) _) (by simp) (by simp)
  | buffered hc => exact hreasm _ hk
  | routed ho hc => exact hroute _ _ hc
  | routedLast ho hc => exact hreasm none (hroute _ _ hc)

theorem KeepsToLinks.step (hk : r.KeepsToLinks s) (i : Input) (hi : LiveStep s r i) :
    (r.step i).KeepsToLinks s := by
  have hm := step_move r i
  have hw := hm.within
  unfold LiveStep at hi
  revert hm hw hi
  generalize r.cause i = cause
  generalize r.step i = t
  intro hi hm hw
  cases hm with
  | connectionComplete hp => exact hk.handleConnectionComplete _ hp hi
  | disconnectComplete hp => exact hk.handleDisconnectComplete _ _
  | authComplete hp =>
    rename_i u p e q
    refine hk.of_withinLive (within_handleAuthComplete r u (by simp [withinLive]) hp
      fun hu hstatus ↦ ⟨by simp, fun hsig ↦ ?_⟩)
    obtain rfl := Aspect.signalling.inj hsig
    exact hi rfl hu hstatus
  | encryptChange hp =>
    rename_i u p e q
    refine hk.of_withinLive (within_handleEncryptChange r u hp
      fun hu hstatus hon ↦ ⟨by simp, fun hsig ↦ ?_⟩)
    obtain rfl := Aspect.signalling.inj hsig
    exact hi rfl hu hstatus hon
  | acl => exact hk.acl (acl_move r _ _) hi
  | interruptFallback hp =>
    rename_i u link k
    refine hk.of_withinLive ((quiet_unpark r hp nofun).within.trans (within_fireInterruptFallback _ u
      fun hcur hclosed ↦ ⟨by simp, fun hsig ↦ ?_⟩))
    obtain rfl := Aspect.signalling.inj hsig
    exact hi rfl hcur hclosed
  | quiet h => exact hk.of_within (A := ∅) h.within (by simp) (by simp)
  | _ => exact hk.of_within hw (by simp [Cause.aspects]) (by simp [Cause.aspects])

end Relay

/-- **Frames go to open links.**  In a run in which a handler whose current link is gone is never
made to signal, every frame it wrote carried the handle of a link that was open at that moment, and
every handle that owes a buffer is that of an open link. -/
theorem frames_on_open_links (c : Config) (s : ConnectionSide) (is : List Input)
    (h : Along step (LiveStep s) (.init c) is) :
    let r := run step (.init c) is
    (∀ frame ok openHandles, .acl s frame ok openHandles ∈ r.out → frameHandle frame ∈ openHandles)
      ∧ ∀ handle, (r.h s).acl.inFlightOf handle ≠ 0 → handle ∈ (r.h s).links.openHandles := by
  have hinit : (Relay.init c).KeepsToLinks s :=
    ⟨.inr fun _ ↦ rfl, by simp [Relay.init, Config.handler], by simp [Relay.init],
      fun _ hne ↦ absurd rfl hne⟩
  have hstep : ∀ r i, KeepsToLinks r s → LiveStep s r i → KeepsToLinks (r.step i) s :=
    fun _ i hk hi ↦ hk.step i hi
  have hrun : (run step (.init c) is).KeepsToLinks s := by
    refine run_invariant_of_along ?_ hstep h
    exact hinit
  exact ⟨hrun.accounted.sent, hrun.accounted.owed⟩

/-- The pad connects and is authenticated, and its link is asked for a channel. -/
theorem frames_on_open_links_pad :
    let pad : BdAddr := ⟨1, 2, 3, 4, 5, 6⟩
    let is := Input.bringUp .toDualsense ++ Input.incomingCall .toDualsense pad 7
      ++ [.event .toDualsense EVT_AUTH_COMPLETE [0, 7, 0]]
    ∀ handle, ((run step (.init { dsAddr := pad }) is).h .toDualsense).acl.inFlightOf handle ≠ 0 →
      handle ∈ ((run step (.init { dsAddr := pad }) is).h .toDualsense).links.openHandles := by
  intro pad is
  exact (frames_on_open_links _ .toDualsense is (by decide +kernel)).2

/-- The console moves to a second link, which drops, and then opens a channel on its first. -/
def channelOnFirstLink (console : BdAddr) : List Input :=
  Input.bringUp .toPlaystation ++ Input.incomingCall .toPlaystation console 1
    ++ Input.incomingCall .toPlaystation console 2
    ++ [.hangUp .toPlaystation 2 0x08,
      .acl .toPlaystation 1 (put16 8 ++ put16 L2CAP_CID_SIGNALLING ++ [L2CAP_CONN_REQ, 1] ++ put16 4
        ++ put16 Channel.hidControl.psm ++ put16 0x40)]

/-- The state behind it. -/
def onFirstLink : Relay :=
  let console : BdAddr := ⟨1, 2, 3, 4, 5, 6⟩
  run step (.init { dsAddr := {}, consolePairing := some (console, default) })
    (channelOnFirstLink console)

/-- The answers went to handle zero, and so did their credits. -/
theorem frames_on_open_links_two_links :
    (¬ ∀ frame ok openHandles, .acl .toPlaystation frame ok openHandles ∈ onFirstLink.out →
        frameHandle frame ∈ openHandles)
      ∧ ¬ ∀ handle, (onFirstLink.h .toPlaystation).acl.inFlightOf handle ≠ 0 →
        handle ∈ (onFirstLink.h .toPlaystation).links.openHandles := by
  have howed : (onFirstLink.h .toPlaystation).acl.inFlightOf 0 ≠ 0 := by decide +kernel
  have hclosed : 0 ∉ (onFirstLink.h .toPlaystation).links.openHandles := by decide +kernel
  have hwritten : .acl .toPlaystation
      [2, 0, 32, 16, 0, 12, 0, 1, 0, 3, 1, 8, 0, 8, 113, 64, 0, 0, 0, 0, 0] true {1}
        ∈ onFirstLink.out := by decide +kernel
  exact ⟨fun h ↦ absurd (h _ _ _ hwritten) (by decide), fun h ↦ absurd (h 0 howed) hclosed⟩

end DualSenseMitm
