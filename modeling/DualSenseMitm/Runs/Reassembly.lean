import DualSenseMitm.Frames
import DualSenseMitm.Moves

/-!
# Reassembly of L2CAP PDUs

A `Cut` is one PDU and the ACL packets that carry it on a link.  Any number of PDUs may be under way
on any number of links, interleaved packet by packet: `Interleaves cuts ps` says that the packets of
each link, taken on their own, are those of its PDUs, as far as they have been delivered.  Every
packet is paired with the PDU it is the last packet of.

`Expects` is the invariant of one link, the rest of its packets seen from the partial PDU the handler
keeps.  `deliver_acl` is one packet, `deliver_run` any number of them, and `reassembly` the whole run.
-/

set_option autoImplicit false

namespace DualSenseMitm

open Bytes Machine Relay

/-! ## PDUs in pieces -/

/-- A PDU whose header gives its length. -/
def WholePdu (pdu : List UInt8) : Prop := pdu.length = 4 + (le16 pdu 0).toNat

/-- A continuation on this link that carries something. -/
def Continues (handle : UInt16) (p : PacketContents) : Prop :=
  aclHandle p = handle ∧ isContinuation p ∧ aclPayload p ≠ []

/-- A start on this link of at least four bytes. -/
def Starts (handle : UInt16) (p : PacketContents) : Prop :=
  aclHandle p = handle ∧ ¬ isContinuation p ∧ 4 ≤ (aclPayload p).length

/-- A PDU and the packets that carry it on a link. -/
structure Cut (handle : UInt16) where
  pdu : List UInt8
  start : PacketContents
  conts : List PacketContents
  whole : WholePdu pdu
  starts : Starts handle start
  continues : ∀ p ∈ conts, Continues handle p
  joined : aclPayload start ++ conts.flatMap aclPayload = pdu

/-- Packets, the last one of them with the PDU it completes. -/
def markLast (pdu : List UInt8) : List PacketContents → List (PacketContents × Option (List UInt8))
  | [] => []
  | [p] => [(p, some pdu)]
  | p :: q :: ps => (p, none) :: markLast pdu (q :: ps)

/-- The packets of a PDU, each with the PDU it completes. -/
def Cut.packets {handle : UInt16} (c : Cut handle) : List (PacketContents × Option (List UInt8)) :=
  markLast c.pdu (c.start :: c.conts)

/-- The packets among `ps` that arrive on this link. -/
def onLink (handle : UInt16) (ps : List (PacketContents × Option (List UInt8))) :
    List (PacketContents × Option (List UInt8)) :=
  ps.filter fun p ↦ aclHandle p.1 = handle

/-- Every link's packets are delivered in order, as far as they are. -/
def Interleaves (cuts : ∀ handle, List (Cut handle))
    (ps : List (PacketContents × Option (List UInt8))) : Prop :=
  ∀ handle, onLink handle ps <+: (cuts handle).flatMap Cut.packets

/-- The PDUs handed to `route_l2cap_pdu`, each with its side and link. -/
def routedPdus (out : List Output) : List (ConnectionSide × UInt16 × List UInt8) :=
  out.filterMap fun | .routed s handle pdu => some (s, handle, pdu) | _ => none

/-! ## What a link expects -/

/-- `l` is the rest of a sequence of PDUs on a link, of which the handler keeps `re`. -/
inductive Expects (handle : UInt16) :
    Option AclReasm → List (PacketContents × Option (List UInt8)) → Prop
  | done {re} : Expects handle re []
  | whole {re p l} (hp : Starts handle p) (hw : WholePdu (aclPayload p))
      (hl : Expects handle none l) : Expects handle re ((p, some (aclPayload p)) :: l)
  | first {re p l pdu} (hp : Starts handle p) (hw : WholePdu pdu) (hpre : aclPayload p <+: pdu)
      (hlt : (aclPayload p).length < pdu.length)
      (hl : Expects handle (some ⟨aclPayload p, pdu.length⟩) l) : Expects handle re ((p, none) :: l)
  | middle {buf n p l} (hp : Continues handle p) (hlt : (buf ++ aclPayload p).length < n)
      (hl : Expects handle (some ⟨buf ++ aclPayload p, n⟩) l) :
      Expects handle (some ⟨buf, n⟩) ((p, none) :: l)
  | last {buf p l} (hp : Continues handle p) (hl : Expects handle none l) :
      Expects handle (some ⟨buf, (buf ++ aclPayload p).length⟩)
        ((p, some (buf ++ aclPayload p)) :: l)

namespace Expects

variable {handle : UInt16}

theorem of_append {re : Option AclReasm} {l l' : List (PacketContents × Option (List UInt8))}
    (h : Expects handle re (l ++ l')) : Expects handle re l := by
  induction l generalizing re with
  | nil => exact .done
  | cons x l ih =>
    cases h with
    | whole hp hw hl => exact .whole hp hw (ih hl)
    | first hp hw hpre hlt hl => exact .first hp hw hpre hlt (ih hl)
    | middle hp hlt hl => exact .middle hp hlt (ih hl)
    | last hp hl => exact .last hp (ih hl)

/-- The continuations of a PDU that has been started. -/
theorem continuations {buf pdu : List UInt8} {conts : List PacketContents} (hne : conts ≠ [])
    (hc : ∀ p ∈ conts, Continues handle p) (hjoin : buf ++ conts.flatMap aclPayload = pdu)
    {l : List (PacketContents × Option (List UInt8))} (hl : Expects handle none l) :
    Expects handle (some ⟨buf, pdu.length⟩) (markLast pdu conts ++ l) := by
  induction conts generalizing buf with
  | nil => exact absurd rfl hne
  | cons p ps ih =>
    have hp := hc p (by simp)
    cases ps with
    | nil =>
      obtain rfl : buf ++ aclPayload p = pdu := by simpa using hjoin
      exact .last hp hl
    | cons q ps =>
      have hq := hc q (by simp)
      have hjoin' : buf ++ aclPayload p ++ (q :: ps).flatMap aclPayload = pdu := by
        rw [← hjoin]; simp
      refine .middle hp ?_ (ih (by simp) (fun x hx ↦ hc x (by simp [hx])) hjoin')
      have hlen := List.length_pos_iff.mpr hq.2.2
      rw [← hjoin']
      simp only [List.length_append, List.flatMap_cons]
      omega

/-- A whole PDU, whatever was kept before it. -/
theorem packets (c : Cut handle) {re : Option AclReasm}
    {l : List (PacketContents × Option (List UInt8))} (hl : Expects handle none l) :
    Expects handle re (c.packets ++ l) := by
  obtain ⟨pdu, start, conts, hw, hs, hc, hjoin⟩ := c
  cases conts with
  | nil =>
    obtain rfl : aclPayload start = pdu := by simpa using hjoin
    exact .whole hs hw hl
  | cons q ps =>
    have hlt : (aclPayload start).length < pdu.length := by
      have hlen := List.length_pos_iff.mpr (hc q (by simp)).2.2
      rw [← hjoin]
      simp only [List.length_append, List.flatMap_cons]
      omega
    exact .first hs hw ⟨_, hjoin⟩ hlt (continuations (by simp) hc hjoin hl)

theorem cuts (cs : List (Cut handle)) (re : Option AclReasm) :
    Expects handle re (cs.flatMap Cut.packets) := by
  induction cs generalizing re with
  | nil => exact .done
  | cons c cs ih => exact packets c (ih none)

end Expects

/-! ## One packet -/

/-- What is left after a packet: the partial PDU of its link, and the PDU it completed. -/
structure Delivered (r : Relay) (s : ConnectionSide) (handle : UInt16) (re : Option AclReasm)
    (pdu : Option (List UInt8)) (r' : Relay) : Prop where
  phase : (r'.h s).phase = (r.h s).phase
  links : (r'.h s).links
    = { (r.h s).links with aclReasm := Function.update (r.h s).links.aclReasm handle re }
  routed : routedPdus r'.out = routedPdus r.out ++ (pdu.map fun pdu ↦ (s, handle, pdu)).toList

theorem Delivered.trans {r r' r'' : Relay} {s : ConnectionSide} {handle : UInt16}
    {re re' : Option AclReasm} {pdu pdu' : Option (List UInt8)}
    (h : Delivered r s handle re pdu r') (h' : Delivered r' s handle re' pdu' r'')
    (hp : pdu = none ∨ pdu' = none) : Delivered r s handle re' (pdu.or pdu') r'' := by
  refine ⟨h'.phase.trans h.phase, ?_, ?_⟩
  · rw [h'.links, h.links]; simp
  · rw [h'.routed, h.routed]
    rcases hp with rfl | rfl
    · simp
    · simp

namespace Relay

variable (r : Relay) (s : ConnectionSide)

theorem delivered_setReasm (handle : UInt16) (re : Option AclReasm) :
    Delivered r s handle re none (r.setReasm s handle re) :=
  ⟨by simp [setReasm], by simp [setReasm], by simp [setReasm]⟩

/-- Routing a PDU touches no link and routes no other PDU. -/
theorem delivered_routePdu (handle : UInt16) (pdu : List UInt8) (re : Option AclReasm)
    (hre : (r.h s).links.aclReasm handle = re) :
    Delivered r s handle re (some pdu) (r.routePdu s handle pdu) := by
  have h : Performs (Op.Within
      {.relaying s.other, .signalling s, .binding s, .reports, .forwarding, .console s, .pacing s})
      (r.emit (.routed s handle pdu)) (r.routePdu s handle pdu) :=
    within_routeL2capPdu _ s (by simp) (by simp) (by simp) (by simp) (by simp) (by simp) (by simp) pdu
  refine ⟨phase_eq h s (by simp), ?_, ?_⟩
  · rw [links_eq h s (by simp) (by simp), ← hre, Function.update_eq_self]
    rfl
  · obtain ⟨new, hout, hnew⟩ := h.out
    have hnil : routedPdus new = [] := by
      refine List.filterMap_eq_nil_iff.mpr fun o ho ↦ ?_
      cases o with
      | routed t k q =>
        have hrouting : Aspect.routing ∈ ({.relaying s.other, .signalling s, .binding s, .reports, .forwarding,
          .console s, .pacing s} : Set Aspect) :=
          (hnew _ ho).within rfl rfl
        simp at hrouting
      | _ => rfl
    rw [hout, routedPdus, List.filterMap_append]
    change _ ++ routedPdus new = _
    rw [hnil]
    simp [routedPdus]

variable {r s} {handle : UInt16} {p : PacketContents} (ho : handle ∈ (r.h s).links.openHandles)
include ho

theorem handleAcl_of_starts (hp : Starts handle p) :
    r.handleAcl s p = r.handleAclStart s handle (aclPayload p) := by
  obtain ⟨rfl, hpb, hlen⟩ := hp
  have hlen' : 4 ≤ p.length := by rw [aclPayload, List.length_drop] at hlen; omega
  have hempty : ¬ (aclPayload p).isEmpty = true := by
    rw [List.isEmpty_iff]
    rintro he
    simp [he] at hlen
  rw [handleAcl_eq r s hlen', if_neg (not_not_intro ho), if_neg hempty, if_neg hpb]

theorem handleAcl_of_continues (hp : Continues handle p) :
    r.handleAcl s p = r.handleAclCont s handle (aclPayload p) := by
  obtain ⟨rfl, hpb, hne⟩ := hp
  have hlen := List.length_pos_iff.mpr hne
  have hlen' : 4 ≤ p.length := by rw [aclPayload, List.length_drop] at hlen; omega
  rw [handleAcl_eq r s hlen', if_neg (not_not_intro ho), if_neg (by simpa using hne), if_pos hpb]

/-- A start that is the whole PDU. -/
theorem deliver_whole (hp : Starts handle p) (hw : WholePdu (aclPayload p)) :
    Delivered r s handle none (some (aclPayload p)) (r.handleAcl s p) := by
  rw [handleAcl_of_starts ho hp, handleAclStart]
  dsimp only
  rw [if_neg (Nat.not_lt.mpr hp.2.2), ← hw, if_pos le_rfl, List.take_length]
  refine (delivered_setReasm r s handle none).trans ?_ (.inl rfl)
  exact delivered_routePdu _ s handle _ none (by simp [setReasm])

/-- A start that is not. -/
theorem deliver_first {pdu : List UInt8} (hp : Starts handle p) (hw : WholePdu pdu)
    (hpre : aclPayload p <+: pdu) (hlt : (aclPayload p).length < pdu.length) :
    Delivered r s handle (some ⟨aclPayload p, pdu.length⟩) none (r.handleAcl s p) := by
  have hlen := hp.2.2
  have hexp : 4 + (le16 (aclPayload p) 0).toNat = pdu.length := by
    rw [le16_congr hpre (by omega), hw]
  have hmax : ¬ L2CAP_MAX_PDU < pdu.length := by
    have := (le16 pdu 0).toNat_lt
    rw [hw, L2CAP_MAX_PDU]
    omega
  rw [handleAcl_of_starts ho hp, handleAclStart]
  dsimp only
  rw [if_neg (Nat.not_lt.mpr hlen), hexp, if_neg (Nat.not_le.mpr hlt), if_neg hmax,
    setReasm_setReasm]
  exact delivered_setReasm r s handle _

/-- A continuation, in the middle of a PDU or at its end. -/
theorem deliver_middle {buf : List UInt8} {n : ℕ} (hp : Continues handle p)
    (hre : (r.h s).links.aclReasm handle = some ⟨buf, n⟩) (hlt : (buf ++ aclPayload p).length < n) :
    Delivered r s handle (some ⟨buf ++ aclPayload p, n⟩) none (r.handleAcl s p) := by
  rw [handleAcl_of_continues ho hp, handleAclCont, hre]
  dsimp only
  rw [if_pos hlt]
  exact delivered_setReasm r s handle _

theorem deliver_last {buf : List UInt8} (hp : Continues handle p)
    (hre : (r.h s).links.aclReasm handle = some ⟨buf, (buf ++ aclPayload p).length⟩) :
    Delivered r s handle none (some (buf ++ aclPayload p)) (r.handleAcl s p) := by
  rw [handleAcl_of_continues ho hp, handleAclCont, hre]
  dsimp only
  rw [if_neg (Nat.lt_irrefl _), List.take_length]
  have h₁ := delivered_setReasm r s handle
    (some ⟨buf ++ aclPayload p, (buf ++ aclPayload p).length⟩)
  have h₂ := delivered_routePdu (r.setReasm s handle
    (some ⟨buf ++ aclPayload p, (buf ++ aclPayload p).length⟩)) s handle (buf ++ aclPayload p) _ rfl
  exact (h₁.trans h₂ (.inl rfl)).trans (delivered_setReasm _ s handle none) (.inr rfl)

/-- One packet: what the link expects next, and the PDU it completed. -/
theorem deliver_acl {pdu : Option (List UInt8)}
    {l : List (PacketContents × Option (List UInt8))}
    (h : Expects handle ((r.h s).links.aclReasm handle) ((p, pdu) :: l)) :
    ∃ re, Expects handle re l ∧ Delivered r s handle re pdu (r.handleAcl s p)
      ∧ (pdu.isSome = true → re = none) := by
  generalize hre : (r.h s).links.aclReasm handle = re at h
  cases h with
  | whole hp hw hl => exact ⟨none, hl, deliver_whole ho hp hw, fun _ ↦ rfl⟩
  | first hp hw hpre hlt hl => exact ⟨_, hl, deliver_first ho hp hw hpre hlt, nofun⟩
  | middle hp hlt hl => exact ⟨_, hl, deliver_middle ho hp hre hlt, nofun⟩
  | last hp hl => exact ⟨none, hl, deliver_last ho hp hre, fun _ ↦ rfl⟩

end Relay

/-! ## The whole run -/

/-- The packets as they arrive on a side. -/
def aclInputs (s : ConnectionSide) (ps : List (PacketContents × Option (List UInt8))) : List Input :=
  ps.map fun p ↦ .packet s (HCI_ACLDATA_PKT :: p.1)

/-- The PDUs completed by these packets, each at its last packet. -/
def completed (s : ConnectionSide) (ps : List (PacketContents × Option (List UInt8))) :
    List (ConnectionSide × UInt16 × List UInt8) :=
  ps.flatMap fun p ↦ (p.2.map fun pdu ↦ (s, aclHandle p.1, pdu)).toList

theorem step_acl {r : Relay} {s : ConnectionSide} (hrun : (r.h s).phase = .running)
    (p : PacketContents) : r.step (.packet s (HCI_ACLDATA_PKT :: p)) = r.handleAcl s p := by
  simp only [step, takePacket, hrun]
  rfl

/-- What these packets of a link leave of its partial PDU. -/
def Leaves (before after : Option AclReasm)
    (l : List (PacketContents × Option (List UInt8))) : Prop :=
  match l.getLast? with
  | none => after = before
  | some (_, some _) => after = none
  | some (_, none) => True

theorem Leaves.cons {before mid after : Option AclReasm}
    {l : List (PacketContents × Option (List UInt8))} (h : Leaves mid after l)
    {p : PacketContents} {pdu : Option (List UInt8)} (hp : pdu.isSome = true → mid = none) :
    Leaves before after ((p, pdu) :: l) := by
  unfold Leaves at h ⊢
  rw [List.getLast?_cons]
  cases hl : l.getLast? with
  | none =>
    rw [hl] at h
    cases pdu with
    | none => trivial
    | some pdu => exact h.trans (hp rfl)
  | some y =>
    obtain ⟨q, pdu'⟩ := y
    rw [hl] at h
    cases pdu' with
    | none => trivial
    | some pdu' => exact h

theorem onLink_cons (handle : UInt16) (x : PacketContents × Option (List UInt8))
    (ps : List (PacketContents × Option (List UInt8))) :
    onLink handle (x :: ps)
      = if aclHandle x.1 = handle then x :: onLink handle ps else onLink handle ps := by
  simp [onLink, List.filter_cons]

/-- The run of `reassembly`: the induction over the packets, with what every link expects. -/
theorem deliver_run (s : ConnectionSide) (ps : List (PacketContents × Option (List UInt8)))
    (r : Relay) (hrun : (r.h s).phase = .running)
    (hopen : ∀ p ∈ ps, aclHandle p.1 ∈ (r.h s).links.openHandles)
    (hexp : ∀ handle, Expects handle ((r.h s).links.aclReasm handle) (onLink handle ps)) :
    routedPdus (run Relay.step r (aclInputs s ps)).out = routedPdus r.out ++ completed s ps
      ∧ ∀ handle, Leaves ((r.h s).links.aclReasm handle)
          (((run Relay.step r (aclInputs s ps)).h s).links.aclReasm handle) (onLink handle ps) := by
  induction ps generalizing r with
  | nil => exact ⟨by simp [aclInputs, completed], fun handle ↦ rfl⟩
  | cons x ps ih =>
    obtain ⟨p, pdu⟩ := x
    have hp := hexp (aclHandle p)
    rw [onLink_cons, if_pos rfl] at hp
    obtain ⟨re, hre, hd, hnone⟩ := deliver_acl (hopen (p, pdu) (by simp)) hp
    have hreasm : ∀ handle, ((r.handleAcl s p).h s).links.aclReasm handle
        = Function.update (r.h s).links.aclReasm (aclHandle p) re handle := fun handle ↦ by
      rw [hd.links]
    have hexp' : ∀ handle, Expects handle (((r.handleAcl s p).h s).links.aclReasm handle)
        (onLink handle ps) := by
      intro handle
      rw [hreasm]
      by_cases hh : handle = aclHandle p
      · subst hh; rwa [Function.update_self]
      · have hother := hexp handle
        rw [onLink_cons, if_neg (Ne.symm hh)] at hother
        rwa [Function.update_of_ne hh]
    have hopen' : ∀ q ∈ ps, aclHandle q.1 ∈ ((r.handleAcl s p).h s).links.openHandles :=
      fun q hq ↦ by rw [hd.links]; exact hopen q (by simp [hq])
    obtain ⟨hrouted, hleaves⟩ := ih _ (hd.phase.trans hrun) hopen' hexp'
    have hrunEq : run Relay.step r (aclInputs s ((p, pdu) :: ps))
        = run Relay.step (r.handleAcl s p) (aclInputs s ps) := by
      rw [aclInputs, List.map_cons, run_cons, step_acl hrun]
      rfl
    rw [hrunEq]
    refine ⟨?_, fun handle ↦ ?_⟩
    · rw [hrouted, hd.routed, List.append_assoc]; rfl
    · have hl := hleaves handle
      rw [hreasm] at hl
      rw [onLink_cons]
      by_cases hh : handle = aclHandle p
      · subst hh
        rw [Function.update_self] at hl
        rw [if_pos rfl]
        exact hl.cons hnone
      · rw [Function.update_of_ne hh] at hl
        rwa [if_neg (Ne.symm hh)]

theorem completed_filter (s : ConnectionSide) (handle : UInt16)
    (ps : List (PacketContents × Option (List UInt8))) :
    (completed s ps).filter (fun q ↦ q.2.1 = handle) = completed s (onLink handle ps) := by
  induction ps with
  | nil => rfl
  | cons x ps ih =>
    obtain ⟨p, pdu⟩ := x
    have hcons : ∀ l, completed s ((p, pdu) :: l)
        = (pdu.map fun pdu ↦ (s, aclHandle p, pdu)).toList ++ completed s l := fun l ↦ rfl
    rw [hcons, List.filter_append, ih, onLink_cons]
    by_cases hh : aclHandle p = handle
    · rw [if_pos hh, hcons]
      cases pdu <;> simp [hh]
    · rw [if_neg hh]
      cases pdu <;> simp [hh]

theorem completed_markLast (s : ConnectionSide) {handle : UInt16} (pdu : List UInt8)
    {ps : List PacketContents} (hne : ps ≠ []) (hh : ∀ p ∈ ps, aclHandle p = handle) :
    completed s (markLast pdu ps) = [(s, handle, pdu)] := by
  induction ps with
  | nil => exact absurd rfl hne
  | cons p ps ih =>
    cases ps with
    | nil => simp [completed, markLast, hh p (by simp)]
    | cons q ps => exact ih (by simp) fun x hx ↦ hh x (by simp [hx])

theorem completed_cuts (s : ConnectionSide) {handle : UInt16} (cs : List (Cut handle)) :
    completed s (cs.flatMap Cut.packets) = cs.map fun c ↦ (s, handle, c.pdu) := by
  induction cs with
  | nil => rfl
  | cons c cs ih =>
    have hc : completed s c.packets = [(s, handle, c.pdu)] := by
      refine completed_markLast s c.pdu (by simp) fun p hp ↦ ?_
      rcases List.mem_cons.mp hp with rfl | hp
      · exact c.starts.1
      · exact (c.continues p hp).1
    rw [List.flatMap_cons, completed, List.flatMap_append]
    change completed s c.packets ++ completed s (cs.flatMap Cut.packets) = _
    rw [hc, ih]
    rfl

/-- **Reassembly does not depend on fragmentation or on other links.**  Take PDUs on any links the
adapter holds, cut in any way into the packets that carry them, and deliver the packets in any
interleaving that keeps each link's order, as far as one likes.  Then each PDU is handed to
`route_l2cap_pdu` once, with exactly its bytes, at its last packet and in the order of its link; a
link whose packets have all arrived has had all its PDUs routed; and a link whose last PDU is
complete keeps no partial PDU. -/
theorem reassembly (r : Relay) (s : ConnectionSide) (hrun : (r.h s).phase = .running)
    (cuts : ∀ handle, List (Cut handle))
    (hopen : ∀ handle, cuts handle ≠ [] → handle ∈ (r.h s).links.openHandles)
    (ps : List (PacketContents × Option (List UInt8))) (hps : Interleaves cuts ps) :
    routedPdus (run Relay.step r (aclInputs s ps)).out = routedPdus r.out ++ completed s ps
      ∧ (∀ handle, onLink handle ps = (cuts handle).flatMap Cut.packets →
          (completed s ps).filter (fun q ↦ q.2.1 = handle)
            = (cuts handle).map fun c ↦ (s, handle, c.pdu))
      ∧ ∀ handle, (∃ p pdu, (onLink handle ps).getLast? = some (p, some pdu)) →
          ((run Relay.step r (aclInputs s ps)).h s).links.aclReasm handle = none := by
  have hmem : ∀ p ∈ ps, aclHandle p.1 ∈ (r.h s).links.openHandles := by
    intro p hp
    refine hopen _ fun hnil ↦ ?_
    have hl := hps (aclHandle p.1)
    rw [hnil, List.flatMap_nil, List.prefix_nil] at hl
    have hin : p ∈ onLink (aclHandle p.1) ps := List.mem_filter.mpr ⟨hp, by simp⟩
    rw [hl] at hin
    cases hin
  have hexp : ∀ handle, Expects handle ((r.h s).links.aclReasm handle) (onLink handle ps) := by
    intro handle
    obtain ⟨rest, hrest⟩ := hps handle
    have hall := Expects.cuts (cuts handle) ((r.h s).links.aclReasm handle)
    rw [← hrest] at hall
    exact hall.of_append
  obtain ⟨hrouted, hleaves⟩ := deliver_run s ps r hrun hmem hexp
  refine ⟨hrouted, fun handle hall ↦ ?_, fun handle hlast ↦ ?_⟩
  · rw [completed_filter, hall, completed_cuts]
  · obtain ⟨p, pdu, hp⟩ := hlast
    have hl := hleaves handle
    rwa [Leaves, hp] at hl

/-- Two PDUs on two links, one of them in two packets with the other one in between. -/
theorem reassembly_two_links :
    let r := ((Relay.init { dsAddr := {} }).setPhase .toPlaystation .running).onLinks .toPlaystation
      fun l ↦ { l with openHandles := {5, 6} }
    routedPdus (run Relay.step r (aclInputs .toPlaystation
        [([0x05, 0x20, 4, 0, 1, 0, 0x40, 0], none),
          ([0x06, 0x20, 4, 0, 0, 0, 0x41, 0], some [0, 0, 0x41, 0]),
          ([0x05, 0x10, 1, 0, 7], some [1, 0, 0x40, 0, 7])])).out
      = [(.toPlaystation, 6, [0, 0, 0x41, 0]), (.toPlaystation, 5, [1, 0, 0x40, 0, 7])] := by
  intro r
  let c₅ : Cut 5 :=
    { pdu := [1, 0, 0x40, 0, 7]
      start := [0x05, 0x20, 4, 0, 1, 0, 0x40, 0]
      conts := [[0x05, 0x10, 1, 0, 7]]
      whole := by unfold WholePdu; decide
      starts := by unfold Starts; decide
      continues := by unfold Continues; decide
      joined := by decide }
  let c₆ : Cut 6 :=
    { pdu := [0, 0, 0x41, 0]
      start := [0x06, 0x20, 4, 0, 0, 0, 0x41, 0]
      conts := []
      whole := by unfold WholePdu; decide
      starts := by unfold Starts; decide
      continues := by simp
      joined := by decide }
  let cuts : ∀ handle, List (Cut handle) :=
    Function.update (Function.update (fun _ ↦ []) 5 [c₅]) 6 [c₆]
  refine (reassembly r .toPlaystation (by simp [r]) cuts ?_ _ ?_).1.trans (by decide)
  · intro handle hne
    by_cases h₆ : handle = 6
    · subst h₆; simp [r]
    · by_cases h₅ : handle = 5
      · subst h₅; simp [r]
      · simp [cuts, h₅, h₆] at hne
  · intro handle
    by_cases h₆ : handle = 6
    · subst h₆
      have hc : cuts 6 = [c₆] := by simp [cuts]
      rw [hc]
      decide
    · by_cases h₅ : handle = 5
      · subst h₅
        have hc : cuts 5 = [c₅] := by simp [cuts]
        rw [hc]
        decide
      · have hnil : cuts handle = [] := by simp [cuts, h₅, h₆]
        have h₅' : aclHandle [0x05, 0x20, 4, 0, 1, 0, 0x40, 0] = 5 := by decide
        have h₅'' : aclHandle [0x05, 0x10, 1, 0, 7] = 5 := by decide
        have h₆' : aclHandle [0x06, 0x20, 4, 0, 0, 0, 0x41, 0] = 6 := by decide
        rw [hnil]
        simp [onLink, h₅', h₅'', h₆', Ne.symm h₅, Ne.symm h₆]

end DualSenseMitm
