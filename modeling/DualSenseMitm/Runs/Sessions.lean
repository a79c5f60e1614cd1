import DualSenseMitm.Lib.PeerSession
import DualSenseMitm.Runs.Ends
import Mathlib.Data.UInt

/-!
# Each side keeps the session with its peer

What an adapter and its peer say about links and channels drives the session of `PeerSession.step`, and the
current link, the open handles and the remote CIDs of a handler are that session, whatever else happens.

* `Relay.tells` — what a step has the session of a side told.
* `session_step` — the handler goes along with it.
* `sessions_kept` and `frames_to_named_ends` — so it does over a run, and a frame goes to an end that the
  peer has named for a channel since its channels started over.
-/

set_option autoImplicit false

namespace DualSenseMitm

open Machine

/-- The session with the peer of one side. -/
abbrev SideSession := PeerSession UInt16 Channel UInt16

/-- What such a session is told. -/
abbrev Told := PeerEvent UInt16 Channel UInt16

namespace Relay

/-- The channel a command gives a remote end, and the end. -/
def bindingOf : L2capCommand → Option (Channel × UInt16)
  | .connResponse rsp =>
    if rsp.result = L2CAP_CR_SUCCESS then (Channel.byScid rsp.scid).map (·, rsp.dcid) else none
  | .connRequest req => (Channel.byPsm req.psm).map (·, req.scid)
  | _ => none

/-- What a command has the session of a side told.  The peer closes a channel with a `DISCONN_REQ`, but that
leaves the channel its end. -/
def toldOf (s : ConnectionSide) (cmd : Option (ConnectionSide × L2capCommand)) : List Told :=
  match cmd with
  | some (t, cmd) => if t = s then (bindingOf cmd).toList.map fun b ↦ .name b.1 b.2 else []
  | none => []

/-- What a cause has it told. -/
def toldBy (r : Relay) (s : ConnectionSide) : Cause → List Told
  | .event t (.connectionComplete e) => if t = s ∧ e.status = HCI_SUCCESS then [.up e.handle] else []
  | .event t (.disconnectComplete e) => if t = s then [.down e.handle] else []
  | .acl t p => toldOf s (r.commandOf (.acl t p))
  | _ => []

/-- What a step has it told. -/
def tells (r : Relay) (s : ConnectionSide) (i : Input) : List Told := r.toldBy s (r.cause i)

/-- The session as the handler of a side has it. -/
def session (r : Relay) (s : ConnectionSide) : SideSession := ⟨(r.openLinks s).1, (r.openLinks s).2, r.dcid s⟩

variable {r r' : Relay} (s : ConnectionSide)

theorem boundEnd_eq (c : Channel) (cmd : L2capCommand) :
    boundEnd c cmd = (bindingOf cmd).bind fun b ↦ if b.1 = c then some b.2 else none := by
  cases cmd with
  | connResponse rsp =>
    by_cases hs : rsp.result = L2CAP_CR_SUCCESS
    · cases hb : Channel.byScid rsp.scid <;> simp [boundEnd, bindingOf, openedBy, accepted, namedEnd, hs, hb]
    · simp [boundEnd, bindingOf, openedBy, accepted, hs]
  | connRequest req =>
    cases hb : Channel.byPsm req.psm <;> simp [boundEnd, bindingOf, openedBy, accepted, namedEnd, hb]
  | _ => rfl

/-- A packet without a command leaves the ends of its own side too. -/
theorem dcid_of_aside {i : Input} {p : PacketContents} {t : ConnectionSide} (hcause : r.cause i = .acl t p)
    (h : r.commandOf (.acl t p) = none) : (r.step i).dcid s = r.dcid s := by
  have hacl := acl_command r t p
  rw [step_of_acl r t hcause]
  rw [h, Option.map_none] at hacl
  revert hacl
  generalize r.handleAcl t p = r'
  intro hacl
  cases hacl with
  | aside h => exact dcid_eq h s (by simp) (by simp)

/-- What the peer sends apart, the channels are kept or start over. -/
theorem dcid_of_event {i : Input} (hacl : ∀ p, r.cause i ≠ .acl s p) :
    (r.step i).dcid s = if r.startsOver s (r.cause i) = true then fun _ ↦ 0 else r.dcid s := by
  by_cases hover : r.startsOver s (r.cause i) = true
  · rw [if_pos hover]
    exact congrArg Prod.fst (standing_startsOver s hover)
  · rw [if_neg hover]
    exact congrArg Prod.fst (standing_kept s (Bool.eq_false_iff.mpr hover) hacl)

/-- **What a command makes of the remote ends.** -/
theorem dcid_of_binding {i : Input} {t : ConnectionSide} {cmd : L2capCommand}
    (h : r.commandOf (r.cause i) = some (t, cmd)) (ht : t = s) :
    (r.step i).dcid s = match bindingOf cmd with
      | some b => Function.update (r.dcid s) b.1 b.2
      | none => r.dcid s := by
  funext c
  rw [dcid_of_command s c h, endAfter, if_pos ht, boundEnd_eq]
  cases bindingOf cmd with
  | none => rfl
  | some b =>
    by_cases hc : b.1 = c
    · subst hc
      simp
    · simp [hc, Ne.symm hc]

/-- A command brings no link up or down. -/
theorem links_toldOf (x : SideSession) (cmd : Option (ConnectionSide × L2capCommand)) :
    run PeerSession.step x (toldOf s cmd)
      = ⟨x.current, x.links, (run PeerSession.step x (toldOf s cmd)).ends⟩ := by
  cases cmd with
  | none => rfl
  | some cmd =>
    obtain ⟨t, cmd⟩ := cmd
    by_cases ht : t = s
    · rw [toldOf, if_pos ht]
      cases bindingOf cmd <;> rfl
    · rw [toldOf, if_neg ht]
      rfl

/-- A command that arrives on a side is told its session. -/
theorem session_acl {i : Input} {t : ConnectionSide} {p : PacketContents} (hcause : r.cause i = .acl t p) :
    (r.step i).dcid s = (run PeerSession.step (r.session s) (toldOf s (r.commandOf (.acl t p)))).ends := by
  cases hcmd : r.commandOf (.acl t p) with
  | none =>
    rw [dcid_of_aside s hcause hcmd]
    rfl
  | some cmd =>
    obtain ⟨t', cmd⟩ := cmd
    have ht : t' = t := commandOf_acl t hcmd
    rw [← hcause] at hcmd
    by_cases hs : t' = s
    · rw [dcid_of_binding s hcmd hs, toldOf, if_pos hs]
      cases bindingOf cmd <;> rfl
    · rw [dcid_of_event s fun q hq ↦ hs (ht.trans (by rw [hcause] at hq; exact (Cause.acl.inj hq).1)), hcause,
        toldOf, if_neg hs]
      rfl

/-- **The handler goes along with the session.** -/
theorem session_step (r : Relay) (i : Input) :
    (r.step i).session s = run PeerSession.step (r.session s) (r.tells s i) := by
  have hlinks := openLinks_step r i s
  have hdcid := @dcid_of_event r s i
  have hacl := @session_acl r s i
  rw [session, hlinks, tells]
  revert hdcid hacl
  generalize (r.step i).dcid s = ends
  generalize r.cause i = cause
  intro hdcid hacl
  cases cause with
  | acl t p =>
    rw [hacl rfl]
    exact (links_toldOf s (r.session s) _).symm
  | event t e =>
    rw [hdcid fun _ h ↦ by cases h]
    cases e with
    | connectionComplete e =>
      by_cases hup : t = s ∧ e.status = HCI_SUCCESS
      · rw [linksAfter, toldBy, if_pos hup, if_pos hup]
        refine congrArg (PeerSession.mk _ _) (if_congr ?_ rfl rfl)
        simp [startsOver, PeerSession.StartsOver, hup.1, hup.2, session, openLinks]
      · have hno : r.startsOver s (.event t (.connectionComplete e)) = false := by
          refine Bool.eq_false_iff.mpr fun h ↦ hup ?_
          simp only [startsOver, Bool.and_eq_true, beq_iff_eq] at h
          exact h.1.1
        rw [linksAfter, toldBy, if_neg hup, if_neg hup, hno]
        rfl
    | disconnectComplete e =>
      by_cases ht : t = s
      · rw [linksAfter, toldBy, if_pos ht, if_pos ht]
        refine congrArg (PeerSession.mk _ _) (if_congr ?_ rfl rfl)
        simp [startsOver, PeerSession.StartsOver, ht, session, openLinks]
      · have hno : r.startsOver s (.event t (.disconnectComplete e)) = false := by simp [startsOver, ht]
        rw [linksAfter, toldBy, if_neg ht, if_neg ht, hno]
        rfl
    | _ => rfl
  | _ =>
    rw [hdcid fun _ h ↦ by cases h]
    rfl

/-- What the session with the peer of a side has been told over a run. -/
def told (r : Relay) (s : ConnectionSide) (is : List Input) : List Told :=
  trace Relay.step (fun r i ↦ r.tells s i) r is

theorem session_run (cfg : Config) (is : List Input) :
    (run Relay.step (.init cfg) is).session s = run PeerSession.step .none ((init cfg).told s is) :=
  @run_trace _ _ _ _ _ _ (fun r ↦ r.session s) (fun r i ↦ r.tells s i) (fun r i ↦ session_step s r i)
    (.init cfg) is

end Relay

open Relay

/-- **Each side keeps its session.**  In every run the current link of an adapter, its open handles and the
remote CIDs of its channels are those of the session that was told, in order, of the links that came up and
went and of the ends that its peer named; and a current link is an open one. -/
theorem sessions_kept (cfg : Config) (is : List Input) (s : ConnectionSide) :
    let r := run Relay.step (.init cfg) is
    (⟨(r.h s).links.connectionHandle, (r.h s).links.openHandles, r.dcid s⟩ : SideSession)
        = run PeerSession.step .none ((init cfg).told s is)
      ∧ ((r.h s).links.connectionHandle = 0 ∨ (r.h s).links.connectionHandle ∈ (r.h s).links.openHandles) := by
  intro r
  have hsession : r.session s = _ := session_run s cfg is
  refine ⟨hsession, ?_⟩
  have hcurrent := PeerSession.current_run ((init cfg).told s is)
  rw [← hsession] at hcurrent
  exact hcurrent

/-- **Frames go where the peer has said.**  Behind every run, whatever comes next makes a side send only on the
signalling channel, or to an end that its peer has named for a channel, which it has named no other end for
since, and whose link has been the current one all the time. -/
theorem frames_to_named_ends (cfg : Config) (is : List Input) (i : Input) :
    let r := run Relay.step (.init cfg) is
    ∀ f ∈ (r.step i).frames.drop r.frames.length, f.cid = L2CAP_CID_SIGNALLING
      ∨ ∃ c before after, (init cfg).told f.side is = before ++ .name c f.cid :: after
        ∧ Along PeerSession.step (PeerSession.Stands c)
          (run PeerSession.step .none (before ++ [.name c f.cid])) after := by
  intro r f hf
  obtain ⟨new, hnew, hsent⟩ := sends_step r i
  rw [show (r.step i).frames = _ from hnew, List.drop_left] at hf
  refine (hsent f hf).imp_right ?_
  rintro ⟨hne, c, hc⟩
  have hend : (run PeerSession.step .none ((init cfg).told f.side is)).ends c = f.cid := by
    rw [← session_run f.side cfg is]
    exact hc
  obtain ⟨before, after, htold, hstands⟩ := PeerSession.named (hend.trans_ne hne)
  rw [hend] at htold hstands
  exact ⟨c, before, after, htold, hstands⟩

end DualSenseMitm
