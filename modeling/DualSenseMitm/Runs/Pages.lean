import DualSenseMitm.Runs.WhoCalled

/-!
# The pages of the pad's side

A page is a Create Connection.  It is queued, written, answered by a Command Status, and over with a
Connection Complete of its own; it can also be dropped at the write, refused by the Command Status, or
given up on.  `Pages` counts the pages of the pad-facing handler by how far they have come, from the
trace and from the events that end them.

* `Pages.note` — the count behind one step.
* `Pages.run_observe_le`, `Pages.outstanding_run_observe` — only a Create Connection that is issued adds
  to them, and only one that is dropped at the write takes from them.
* `comingUp_move` — what a handler that comes up does: it waits, or sets its adapter up and pages.
-/

set_option autoImplicit false

namespace DualSenseMitm

open Bytes Machine Relay

/-- The Create Connections of the pad-facing handler that are not over. -/
structure Pages where
  queued : ℕ := 0
  /-- Written, and without an answer. -/
  written : ℕ := 0
  /-- Taken by the controller. -/
  paging : ℕ := 0
  /-- Written, and given up on without an answer. -/
  givenUp : ℕ := 0

namespace Pages

/-- Those that were not given up on. -/
def outstanding (x : Pages) : ℕ := x.queued + x.written + x.paging

def total (x : Pages) : ℕ := x.outstanding + x.givenUp

/-- A Create Connection to one of these addresses. -/
def counts (dest : BdAddr → Bool) (c : Command) : Bool :=
  callsPeer c.ogf c.ocf && dest (BdAddr.read c.param 0)

/-- What leaves the process moves them on. -/
def observe (dest : BdAddr → Bool) (x : Pages) : Output → Pages
  | .cmdIssued .toDualsense c => if counts dest c then { x with queued := x.queued + 1 } else x
  | .cmdWritten .toDualsense c =>
    if counts dest c ∧ 0 < x.queued then { x with queued := x.queued - 1, written := x.written + 1 } else x
  | .cmdDropped .toDualsense c => if counts dest c then { x with queued := x.queued - 1 } else x
  | _ => x

/-- A Command Status: the page is under way, or refused. -/
def answer (x : Pages) (status : UInt8) : Pages :=
  let x' := if status = HCI_SUCCESS then { x with paging := x.paging + 1 } else x
  if 0 < x.written then { x' with written := x.written - 1 }
  else if 0 < x.givenUp then { x' with givenUp := x.givenUp - 1 }
  else x

/-- A Connection Complete of a page. -/
def complete (x : Pages) : Pages :=
  if 0 < x.paging then { x with paging := x.paging - 1 }
  else if 0 < x.written then { x with written := x.written - 1 }
  else { x with givenUp := x.givenUp - 1 }

/-- `watch_commands` waits no longer. -/
def giveUp (x : Pages) : Pages := { x with written := 0, givenUp := x.givenUp + x.written }

end Pages

/-- A page to one of these addresses. -/
def Output.issuesPage (dest : BdAddr → Bool) : Output → Bool
  | .cmdIssued .toDualsense c => Pages.counts dest c
  | _ => false

/-- A page to one of these addresses that could not be written. -/
def Output.dropsPage (dest : BdAddr → Bool) : Output → Bool
  | .cmdDropped .toDualsense c => Pages.counts dest c
  | _ => false

namespace Relay

/-- A round of `watch_commands` gives up on the pad-facing handler's command. -/
def givesUp (r : Relay) : Input → Bool
  | .watch .toDualsense =>
    (r.h .toDualsense).phase != .down && (r.h .toDualsense).cmdQueue.overdue r.now
  | _ => false

/-- What one step adds to the trace. -/
def added (r : Relay) (i : Input) : List Output := (r.step i).out.drop r.out.length

theorem added_eq {r : Relay} {i : Input} {new : List Output} (h : (r.step i).out = r.out ++ new) :
    r.added i = new := by
  rw [added, h, List.drop_left]

end Relay

namespace Pages

/-- What an input says of them. -/
def noteInput (x : Pages) (r : Relay) (i : DialInput) : Pages :=
  match r.cause i.input with
  | .event .toDualsense (.connectionComplete _) => if i.ours then x.complete else x
  | .event .toDualsense (.cmdStatus e) =>
    if e.opcode = cmdOpcodePack OGF_LINK_CTL OCF_CREATE_CONN then x.answer e.status else x
  | _ => if r.givesUp i.input then x.giveUp else x

def note (dest : Relay → BdAddr → Bool) (x : Pages) (r : Relay) (i : DialInput) : Pages :=
  run (observe (dest r)) (x.noteInput r i) (r.added i.input)

/-! ## Only a page that is issued adds to them -/

variable {dest : BdAddr → Bool} {x : Pages}

theorem observe_le {o : Output} (ho : ∀ c, o = .cmdIssued .toDualsense c → counts dest c = false) :
    (x.observe dest o).outstanding ≤ x.outstanding ∧ (x.observe dest o).givenUp = x.givenUp := by
  unfold observe outstanding
  split
  · rw [ho _ rfl]
    exact ⟨le_rfl, rfl⟩
  · split
    · exact ⟨by dsimp only; omega, rfl⟩
    · exact ⟨le_rfl, rfl⟩
  · split
    · exact ⟨by dsimp only; omega, rfl⟩
    · exact ⟨le_rfl, rfl⟩
  · exact ⟨le_rfl, rfl⟩

theorem run_observe_le {new : List Output}
    (hnew : ∀ c, .cmdIssued .toDualsense c ∈ new → counts dest c = false) :
    (run (observe dest) x new).outstanding ≤ x.outstanding
      ∧ (run (observe dest) x new).givenUp = x.givenUp := by
  induction new generalizing x with
  | nil => exact ⟨le_rfl, rfl⟩
  | cons o new ih =>
    have ho := observe_le (x := x) (o := o) fun c hc ↦ hnew c (by simp [hc])
    have hrest := ih (x := x.observe dest o) fun c hc ↦ hnew c (by simp [hc])
    exact ⟨hrest.1.trans ho.1, hrest.2.trans ho.2⟩

/-- What is issued adds to them, and only what is dropped is over at once. -/
theorem outstanding_observe (dest : BdAddr → Bool) (x : Pages) (o : Output) :
    x.outstanding + (o.issuesPage dest).toNat ≤ (x.observe dest o).outstanding + (o.dropsPage dest).toNat := by
  cases o with
  | cmdIssued s c =>
    cases s with
    | toPlaystation => exact le_rfl
    | toDualsense =>
      unfold observe Output.issuesPage Output.dropsPage
      dsimp only
      cases counts dest c with
      | false => exact le_rfl
      | true =>
        simp only [if_true, outstanding, Bool.toNat_true, Bool.toNat_false]
        omega
  | cmdWritten s c =>
    cases s with
    | toPlaystation => exact le_rfl
    | toDualsense =>
      unfold observe outstanding Output.issuesPage Output.dropsPage
      dsimp only
      split
      · dsimp only
        omega
      · exact le_rfl
  | cmdDropped s c =>
    cases s with
    | toPlaystation => exact le_rfl
    | toDualsense =>
      unfold observe Output.issuesPage Output.dropsPage
      dsimp only
      cases counts dest c with
      | false => exact le_rfl
      | true =>
        simp only [if_true, outstanding, Bool.toNat_true, Bool.toNat_false]
        omega
  | _ => exact le_rfl

theorem outstanding_run_observe (dest : BdAddr → Bool) (x : Pages) (new : List Output) :
    x.outstanding + new.countP (Output.issuesPage dest)
      ≤ (run (observe dest) x new).outstanding + new.countP (Output.dropsPage dest) := by
  induction new generalizing x with
  | nil => exact le_rfl
  | cons o new ih =>
    have ho := outstanding_observe dest x o
    have hrest := ih (x := x.observe dest o)
    have hcount : ∀ f : Output → Bool, (o :: new).countP f = new.countP f + (f o).toNat := by
      intro f
      rw [List.countP_cons]
      cases f o <;> rfl
    rw [hcount, hcount, run_cons]
    omega

theorem givenUp_run_observe (dest : BdAddr → Bool) (x : Pages) (new : List Output) :
    (run (observe dest) x new).givenUp = x.givenUp := by
  induction new generalizing x with
  | nil => rfl
  | cons o new ih =>
    rw [run_cons, ih]
    unfold observe
    split
    · split <;> rfl
    · split <;> rfl
    · split <;> rfl
    · rfl

theorem total_answer_le (x : Pages) (status : UInt8) : (x.answer status).total ≤ x.total := by
  unfold answer total outstanding
  by_cases hs : status = HCI_SUCCESS <;> simp only [hs, if_true, if_false]
  all_goals
    split
    · dsimp only; omega
    · split
      · dsimp only; omega
      · exact le_rfl

theorem total_complete_le (x : Pages) : x.complete.total ≤ x.total := by
  unfold complete total outstanding
  split
  · dsimp only; omega
  · split <;> (dsimp only; omega)

theorem total_giveUp (x : Pages) : x.giveUp.total = x.total := by
  unfold giveUp total outstanding
  dsimp only
  omega

/-- No event adds to them. -/
theorem total_noteInput_le (x : Pages) (r : Relay) (i : DialInput) : (x.noteInput r i).total ≤ x.total := by
  unfold noteInput
  split
  · split
    · exact total_complete_le x
    · exact le_rfl
  · split
    · exact total_answer_le x _
    · exact le_rfl
  · split
    · exact (total_giveUp x).le
    · exact le_rfl

theorem total_note_le {dest : Relay → BdAddr → Bool} {r : Relay} {i : DialInput}
    (h : ∀ c, .cmdIssued .toDualsense c ∈ r.added i.input → counts (dest r) c = false) :
    (x.note dest r i).total ≤ (x.noteInput r i).total := by
  have hle := run_observe_le (x := x.noteInput r i) h
  unfold note total
  rw [hle.2]
  exact Nat.add_le_add_right hle.1 _

end Pages

/-! ## A handler coming up -/

/-- What is left of coming up once the adapter is set up. -/
def Relay.startPaging (r : Relay) : ConnectionSide → Relay
  | .toDualsense =>
    (r.applySideSettings .toDualsense).sendConnectionRequest .toDualsense
      ((r.applySideSettings .toDualsense).h .toDualsense).pairing.btAddr
  | .toPlaystation => r.applySideSettings .toPlaystation

/-- What a handler that comes up does. -/
inductive ComingUpMove (r : Relay) (s : ConnectionSide) : Relay → Prop
  | waiting {r'} (h : Performs (Op.Within {.comingUp}) r r')
      (hp : ∀ t, (r'.h t).phase = .running ↔ (r.h t).phase = .running) : ComingUpMove r s r'
  | up {mid} (h : Performs (Op.Within {.comingUp, .pacing s}) r mid) (hp : (r.h s).phase ≠ .running)
      (hp' : ∀ t, (mid.h t).phase = if t = s then .running else (r.h t).phase) :
      ComingUpMove r s (mid.startPaging s)

namespace Relay

variable {r : Relay} {s : ConnectionSide}

theorem within_startPaging {A : Set Aspect} (r : Relay) (s : ConnectionSide) (hC : .calling s ∈ A)
    (hS : .scanning s ∈ A) (hO : s = .toDualsense → .scanning s.other ∈ A) :
    Performs (Op.Within A) r (r.startPaging s) := by
  have hset := within_applySideSettings r s hS
  cases s with
  | toDualsense => exact hset.trans (within_sendConnectionRequest _ _ hC hO _)
  | toPlaystation => exact hset

theorem comingUp_afterReset {a : Relay} (h : Performs (Op.Within {.comingUp, .pacing s}) r a)
    (hp : (r.h s).phase ≠ .running) (hpa : ∀ t, t ≠ s → (a.h t).phase = (r.h t).phase) :
    ComingUpMove r s (a.afterReset s) := by
  have hrest : ∀ {b : Relay}, Performs (Op.Within {.comingUp, .pacing s}) r b →
      (∀ t, t ≠ s → (b.h t).phase = (r.h t).phase) → ComingUpMove r s (b.setUp s) := by
    intro b hb hpb
    have h₁ : Performs (Op.Within {.comingUp, .pacing s}) r (b.setPhase s .running) :=
      hb.trans (within_setPhase b s (by simp) _)
    have hp₁ : ∀ t, ((b.setPhase s .running).h t).phase
        = if t = s then .running else (r.h t).phase := fun t ↦ by
      by_cases ht : t = s
      · simp [ht]
      · simp [ht, hpb t ht]
    have hset : Performs (Op.Within {.pacing s}) (b.setPhase s .running)
        ((((((b.setPhase s .running).writeSimplePairingEnabled s).writeEventMask s).writeAuthEnabled
          s).writePageScanActivity s PAGE_SCAN_INTERVAL_EAGER PAGE_SCAN_WINDOW_EAGER).writePageTimeout s
            PAGE_TIMEOUT_SLOTS |>.readBufferSize s) :=
      (((((quiet_sendCmd _ s rfl _ _).within.trans (quiet_sendCmd _ s rfl _ _).within).trans
        (quiet_sendCmd _ s rfl _ _).within).trans (within_writePageScanActivity _ s (by rfl) _ _)).trans
          (quiet_sendCmd _ s rfl _ _).within).trans (quiet_sendCmd _ s rfl _ _).within
    have hup := ComingUpMove.up (h₁.trans (hset.widen (by simp))) hp fun t ↦ by
      rw [phase_eq hset t (by simp), hp₁]
    cases s with
    | toDualsense => exact hup
    | toPlaystation => exact hup
  refine hrest (h.trans ?_) fun t ht ↦ ?_
  · exact Performs.within (.trans (quiet_onCmdQueue a s fun _ ↦ by rfl) (quiet_pumpCommands _ s))
  · simp [hpa t ht]

theorem comingUp_startHandler (hp : (r.h s).phase = .down) : ComingUpMove r s (r.startHandler s) := by
  unfold startHandler
  extract_lets r₁ ok r₂
  have h₁ : Performs (Op.Within {.comingUp}) r r₁ := Performs.within (quiet_onCmdQueue r s fun _ ↦ rfl)
  have h₂ : Performs (Op.Within {.comingUp}) r r₂ := by
    refine (h₁.trans (quiet_advance r₁ 1).within).trans (within_emit _ ?_)
    cases ok with
    | true => exact ⟨rfl, rfl⟩
    | false => exact ⟨rfl, rfl⟩
  have hphase : ∀ t, (r₂.h t).phase = (r.h t).phase := fun t ↦ by simp [r₂, r₁]
  split
  · refine .waiting (h₂.trans (within_setPhase r₂ s (by rfl) _)) fun t ↦ ?_
    by_cases ht : t = s
    · simp [ht, hp]
    · simp [ht, hphase]
  · exact comingUp_afterReset (h₂.widen (by simp)) (by rw [hp]; decide) fun t _ ↦ hphase t

theorem causeOfPacket_ne_comingUp (s t : ConnectionSide) (packet : List UInt8) :
    causeOfPacket s packet ≠ .comingUp t := by
  unfold causeOfPacket
  repeat' split
  all_goals exact nofun

theorem comingUp_move {i : Input} (hc : r.cause i = .comingUp s) : ComingUpMove r s (r.step i) := by
  have hstay : ComingUpMove r s r := .waiting (.refl r) fun _ ↦ .rfl
  cases i with
  | start t =>
    cases hc
    unfold step
    dsimp only
    split
    · rename_i h
      exact comingUp_startHandler h.2
    · exact hstay
  | resetTimeout t =>
    cases hc
    unfold step
    dsimp only
    split
    · rename_i h
      exact comingUp_afterReset (.refl r) (by rw [h]; decide) fun _ _ ↦ rfl
    · exact hstay
  | packet t bytes =>
    unfold step takePacket
    unfold cause at hc
    dsimp only at hc ⊢
    cases hp : (r.h t).phase with
    | down => rw [hp] at hc; cases hc
    | resetting =>
      rw [hp] at hc
      cases hc
      dsimp only
      unfold packetDuringReset
      split
      · refine comingUp_afterReset (Performs.within (quiet_onCmdQueue r s fun _ ↦ by rfl))
          (by rw [hp]; decide) fun t _ ↦ by simp
      · exact hstay
    | running =>
      rw [hp] at hc
      exact absurd hc (causeOfPacket_ne_comingUp t s bytes)
  | fire k =>
    unfold cause at hc
    dsimp only at hc
    split at hc <;> cases hc
  | _ => cases hc

end Relay

end DualSenseMitm
