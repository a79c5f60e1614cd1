import DualSenseMitm.Runs.Ends

/-!
# Channels the peer has closed

A DISCONN_REQ is answered, and its channel keeps the remote end it had.  `Closed` follows which channels
the peer has closed and not opened since, each with the remote end it had then.  Such a channel is seen
as closed, and nothing is sent on it, exactly as long as a DISCONN_REQ only names channels that are not
open.
-/

set_option autoImplicit false

namespace DualSenseMitm

open Bytes Machine Relay

/-- A DISCONN_REQ that names a channel which is open. -/
def Relay.ClosesOpen (r : Relay) (i : Input) : Prop :=
  ∃ s req c, r.commandOf (r.cause i) = some (s, .disconnRequest req) ∧ Channel.byScid req.dcid = some c
    ∧ r.dcid s c ≠ 0

/-- The channels of each side that the peer has closed, with the remote ends they had. -/
abbrev Closed := ConnectionSide → Channel → Option UInt16

namespace Closed

/-- What a command says of one channel of the side it arrives on. -/
def noteCommand (cmd : L2capCommand) (c : Channel) (cid : UInt16) (closed : Option UInt16) : Option UInt16 :=
  match cmd with
  | .disconnRequest req => if Channel.byScid req.dcid = some c then some cid else closed
  | cmd => if (boundEnd c cmd).isSome then none else closed

/-- The peer closes channels, and opens them again. -/
def note (k : Closed) (r : Relay) (i : Input) : Closed := fun s c ↦
  match r.commandOf (r.cause i) with
  | some (t, cmd) => if t = s then noteCommand cmd c (r.dcid s c) (k s c) else k s c
  | none => k s c

/-- What the peer has closed is seen as closed. -/
def SeenBy (k : Closed) (r : Relay) : Prop := ∀ s c cid, k s c = some cid → r.dcid s c = 0

/-- Behind the step what the peer has closed is seen as closed, and nothing was sent on it. -/
def Unheard (q : Relay × Closed) (i : Input) : Prop :=
  (q.2.note q.1 i).SeenBy (q.1.step i)
    ∧ ∀ f ∈ (q.1.step i).frames.drop q.1.frames.length, f.cid = L2CAP_CID_SIGNALLING
      ∨ f.cid ≠ 0 ∧ ∃ c, q.1.dcid f.side c = f.cid ∧ q.2 f.side c = none

variable {k : Closed} {r : Relay} {i : Input}

theorem boundEnd_disconnRequest (c : Channel) (req : L2capDisconnReq) :
    boundEnd c (.disconnRequest req) = none := ite_self _

/-- A channel that stays closed keeps the end it has. -/
theorem noteCommand_eq_some {cmd : L2capCommand} {c : Channel} {cid d : UInt16} {closed : Option UInt16}
    (h : noteCommand cmd c cid closed = some d) :
    boundEnd c cmd = none
      ∧ ((∃ req, cmd = .disconnRequest req ∧ Channel.byScid req.dcid = some c) ∨ closed = some d) := by
  unfold noteCommand at h
  split at h
  · rename_i req
    refine ⟨boundEnd_disconnRequest c req, ?_⟩
    split at h
    · exact .inl ⟨req, rfl, ‹_›⟩
    · exact .inr h
  · split at h
    · cases h
    · rename_i hb
      exact ⟨Option.not_isSome_iff_eq_none.mp hb, .inr h⟩

theorem SeenBy.step (h : k.SeenBy r) (hi : ¬ r.ClosesOpen i) : (k.note r i).SeenBy (r.step i) := by
  intro s c cid hk
  rw [note] at hk
  cases hcmd : r.commandOf (r.cause i) with
  | none =>
    rw [hcmd] at hk
    rcases dcid_of_no_command s c hcmd with hd | hd
    · exact hd.trans (h s c cid hk)
    · exact hd
  | some cmd =>
    obtain ⟨t, cmd⟩ := cmd
    rw [hcmd] at hk
    rw [dcid_of_command s c hcmd]
    dsimp only at hk
    split at hk
    · rename_i ht
      subst ht
      obtain ⟨hb, hclosed⟩ := noteCommand_eq_some hk
      rw [endAfter_of_unbound t c hb]
      rcases hclosed with ⟨req, rfl, hc⟩ | hclosed
      · by_contra hne
        exact hi ⟨t, req, c, hcmd, hc, hne⟩
      · exact h t c cid hclosed
    · rename_i ht
      rw [endAfter, if_neg ht]
      exact h s c cid hk

theorem unheard (h : k.SeenBy r) (hi : ¬ r.ClosesOpen i) : Unheard (r, k) i := by
  refine ⟨h.step hi, fun f hf ↦ ?_⟩
  obtain ⟨new, hnew, hsent⟩ := sends_step r i
  rw [show (r.step i).frames = _ from hnew, List.drop_left] at hf
  rcases hsent f hf with hsig | ⟨hne, c, hc⟩
  · exact .inl hsig
  · refine .inr ⟨hne, c, hc, ?_⟩
    cases hk : k f.side c with
    | none => exact hk
    | some cid => exact absurd (hc.symm.trans (h _ c cid hk)) hne

/-- A channel that is closed while it is open is still seen as open. -/
theorem not_closesOpen_of_unheard {q : Relay × Closed} (h : Unheard q i) : ¬ q.1.ClosesOpen i := by
  rintro ⟨s, req, c, hcmd, hc, hne⟩
  have hclosed : q.2.note q.1 i s c = some (q.1.dcid s c) := by
    simp [note, hcmd, noteCommand, hc]
  have hkept : (q.1.step i).dcid s c = q.1.dcid s c := by
    rw [dcid_of_command s c hcmd, endAfter_of_unbound s c (boundEnd_disconnRequest c req)]
  exact hne (hkept.symm.trans (h.1 s c _ hclosed))

end Closed

/-- **When a peer that closes a channel hears nothing more on it.**  In a run, what the peer has closed
is seen as closed and not sent to until it is opened again, exactly if every DISCONN_REQ names a channel
that is not open when it arrives. -/
theorem closed_channels_unheard (cfg : Config) (is : List Input) :
    Along (withHistory Relay.step Closed.note) Closed.Unheard (.init cfg, fun _ _ ↦ none) is
      ↔ Along Relay.step (fun r i ↦ ¬ r.ClosesOpen i) (.init cfg) is := by
  rw [← along_withHistory Relay.step Closed.note (p := (.init cfg, fun _ _ ↦ none))]
  constructor
  · exact Along.mono fun _ _ ↦ Closed.not_closesOpen_of_unheard
  · intro h
    let Inv (q : Relay × Closed) := q.2.SeenBy q.1
    have hinit : Inv (.init cfg, fun _ _ ↦ none) := by
      intro s c cid hk
      cases hk
    refine h.of_invariant hinit fun q i hq hi ↦ ?_
    exact ⟨Closed.SeenBy.step hq hi, Closed.unheard hq hi⟩

/-- The console closes its interrupt channel. -/
def Input.consoleCloses : Input :=
  .signal .toPlaystation 2 L2CAP_DISCONN_REQ 9 (put16 Channel.hidInterrupt.scid ++ put16 0x40)

/-- The console's adapter has sent the three frames of the signalling. -/
def Input.framesSent : Input := .event .toPlaystation EVT_NUM_COMP_PKTS ([0x01] ++ put16 2 ++ put16 3)

/-- The console closes its interrupt channel, and is sent the pad's next report on it. -/
theorem closed_channel_heard :
    ¬ ∀ cfg is, Along (withHistory Relay.step Closed.note) Closed.Unheard (.init cfg, fun _ _ ↦ none) is := by
  intro h
  let closing := Input.bothLinked
    ++ [.openChannel .toPlaystation 2 Channel.hidInterrupt.psm 0x40, .consoleCloses, .framesSent]
  have hlast := (along_iff_prefixes.mp (h .session (closing ++ [.stateReport])) closing .stateReport
    List.prefix_rfl).2
  have hsent := hlast ⟨.toPlaystation, 0x40, [HIDP_DATA_INPUT, 0x01] ++ List.replicate 9 0⟩ (by decide +kernel)
  rcases hsent with hsig | ⟨-, c, hc, hopen⟩
  · exact absurd hsig (by decide)
  · revert hc hopen
    cases c <;> decide +kernel

end DualSenseMitm
