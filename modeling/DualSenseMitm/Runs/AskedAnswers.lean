import DualSenseMitm.Runs.Ends
import DualSenseMitm.Runs.FeatureAnswers
import DualSenseMitm.Runs.ServiceRecord

/-!
# Whose question an answer to the console answers

Two channels of the pad are asked things: its control channel and its SDP channel.  The console's
questions are passed on there, and the relay asks the pad itself, for reports 0x05, 0x09 and 0x20 and the
service record, and in the name of the USB host.  An answer goes to the console whenever its channel is
open, whoever asked.

* `Inquiry` — one such pair of channels.
* `Asked.note` — who asked what the pad still owes an answer to, in the order it was asked.
* `answers_asked_for` — while the console's channel is open and only the console asks, the console gets
  no answer to anybody else's question.
-/

set_option autoImplicit false

namespace DualSenseMitm

open Bytes Machine

/-- A channel on which the pad is asked, and the console's that leads to it. -/
inductive Inquiry
  | feature
  | service
deriving DecidableEq

namespace Inquiry

def padChannel : Inquiry → Channel
  | .feature => .hidControl
  | .service => .sdpClient

def consoleChannel : Inquiry → Channel
  | .feature => .hidControl
  | .service => .hidSdp

/-- The pad answers this: over SDP anything, and each HIDP transaction but the ones that carry answers,
control or data themselves. -/
def asks : Inquiry → List UInt8 → Bool
  | .feature, payload => !([0x00, 0x10, 0xa0, 0xb0].contains (byteAt payload 0 &&& (0xf0 : UInt8)))
  | .service, _ => true

/-- An answer: a handshake or feature data, and anything over SDP. -/
def answers : Inquiry → List UInt8 → Bool
  | .feature, payload => [0x00, 0xa0].contains (byteAt payload 0 &&& (0xf0 : UInt8))
  | .service, _ => true

end Inquiry

/-- Who asked: the console on the channel it has, or anybody else. -/
inductive Asker
  | console
  | other
deriving DecidableEq

namespace Relay

variable (r : Relay) (k : Inquiry)

/-- The cause brings an answer of the pad. -/
def bringsAnswer (cause : Cause) : Bool :=
  match r.payloadOf cause with
  | some (.toDualsense, cid, data) => cid == k.padChannel.scid && k.answers data
  | _ => false

/-- The cause brings what the console sends on its channel. -/
def fromConsole (cause : Cause) : Bool :=
  match r.payloadOf cause with
  | some (.toPlaystation, cid, _) => cid == k.consoleChannel.scid
  | _ => false

/-- What the step asks the pad, and who asks. -/
def questions (i : Input) : List Asker :=
  (((r.step i).frames.drop r.frames.length).filter fun f ↦
      f.side == .toDualsense && f.cid == r.dcid .toDualsense k.padChannel && k.asks f.payload).map fun _ ↦
    if r.fromConsole k (r.cause i) = true then .console else .other

/-- The cause is a command that gives the channel an end. -/
def givesEnd (s : ConnectionSide) (c : Channel) (cause : Cause) : Bool :=
  (r.commandOf cause).any fun cmd ↦ cmd.1 == s && (boundEnd c cmd.2).isSome

/-- The console's channel is open, or opens. -/
def awaits (cause : Cause) : Bool :=
  r.dcid .toPlaystation k.consoleChannel != 0 || r.givesEnd .toPlaystation k.consoleChannel cause

end Relay

/-- Who asked what the pad has not answered yet, in the order it was asked. -/
abbrev Asked := List Asker

namespace Asked

variable (k : Inquiry)

/-- What is still to be answered when the channels have changed: nothing on a new channel of the pad, and
nothing that concerns a new channel of the console. -/
def standing (x : Asked) (r : Relay) (cause : Cause) : Asked :=
  if (r.startsOver .toDualsense cause || r.givesEnd .toDualsense k.padChannel cause) = true then []
  else if (r.startsOver .toPlaystation cause || r.givesEnd .toPlaystation k.consoleChannel cause) = true then
    x.map fun _ ↦ .other
  else x

def note (x : Asked) (r : Relay) (i : Input) : Asked :=
  let left := x.standing k r (r.cause i)
  (if r.bringsAnswer k (r.cause i) = true then left.tail else left) ++ r.questions k i

/-- An answer of the pad goes to the console only if it answers the console. -/
def AnswersConsole (q : Relay × Asked) (i : Input) : Prop :=
  q.1.bringsAnswer k (q.1.cause i) = true →
    (∃ f ∈ (q.1.step i).frames.drop q.1.frames.length, f.side = .toPlaystation) → q.2.head? = some .console

/-- Nobody but the console asks while its channel is open, its channel opens when nothing is to be
answered, and the pad sends nothing unasked. -/
structure Orderly (q : Relay × Asked) (i : Input) : Prop where
  own : q.1.awaits k (q.1.cause i) = true → ∀ a ∈ q.1.questions k i, a = .console
  fresh : q.1.givesEnd .toPlaystation k.consoleChannel (q.1.cause i) = true → q.2 = []
  asked : q.1.bringsAnswer k (q.1.cause i) = true → q.2 ≠ []

instance (q : Relay × Asked) (i : Input) : Decidable (Orderly k q i) :=
  decidable_of_iff (_ ∧ _ ∧ _) ⟨fun h ↦ ⟨h.1, h.2.1, h.2.2⟩, fun h ↦ ⟨h.own, h.fresh, h.asked⟩⟩

end Asked

namespace Relay

variable {r : Relay} {k : Inquiry}

/-! ## Where an answer goes -/

/-- To the console only on the channel that leads there, and only if that is open. -/
def Leads (r : Relay) (k : Inquiry) (f : Sent) : Prop :=
  f.side = .toPlaystation → r.dcid .toPlaystation k.consoleChannel ≠ 0

theorem leads_sentOn {r' : Relay} {payload : List UInt8}
    (h : r'.frames = r.frames ++ r.sentOn .toPlaystation k.consoleChannel payload) : Sends (r.Leads k) r r' :=
  ⟨_, h, fun _ hf _ ↦ ((mem_sentOn r .toPlaystation).mp hf).1⟩

theorem leads_answer {data : List UInt8} (hne : data ≠ []) :
    Sends (r.Leads k) r (r.routePayload .toDualsense k.padChannel.scid data) := by
  cases k with
  | feature =>
    have hframes := r.frames_handleFeatureAnswerFromPad hne
    by_cases hlinked : r.linked = true
    · rw [if_pos hlinked] at hframes
      exact leads_sentOn hframes
    · rw [if_neg hlinked] at hframes
      exact .of_eq (hframes.trans (List.append_nil _))
  | service =>
    show Sends _ r (r.handleSdpAnswerFromPad .toDualsense data)
    unfold handleSdpAnswerFromPad
    extract_lets r₁
    split
    · split
      · have hend : r₁.dcid .toPlaystation .hidSdp = r.dcid .toPlaystation .hidSdp := by simp [r₁, dcid]
        have hends : r₁.sentOn .toPlaystation .hidSdp data = r.sentOn .toPlaystation .hidSdp data := by
          rw [sentOn, sentOn, hend]
        have hframes : (r₁.l2capSendData .toPlaystation .hidSdp data).frames
            = r.frames ++ r.sentOn .toPlaystation .hidSdp data := by
          rw [frames_l2capSendData, hends]
          rfl
        exact leads_sentOn hframes
      · exact .of_eq rfl
    · exact .of_eq rfl

/-- **Where the pad's answer goes.** -/
theorem leads_step {i : Input} (h : r.bringsAnswer k (r.cause i) = true) : Sends (r.Leads k) r (r.step i) := by
  have hm := step_move r i
  revert hm h
  generalize r.cause i = cause
  generalize r.step i = r'
  intro h hm
  cases cause with
  | acl s p =>
    obtain rfl : r' = r.handleAcl s p := by
      cases hm with
      | quiet _ hc => exact absurd hc (Set.insert_nonempty _ _).ne_empty
      | acl => rfl
    have hpart := acl_part r s p
    have hpayload : ∀ cid data, r.contentsOf s p = .payload cid data → data ≠ []
        ∧ r.payloadOf (.acl s p) = some (s, cid, data) := by
      intro cid data hc
      refine ⟨ne_nil_of_contentsOf r s hc, ?_⟩
      rw [payloadOf, hc]
    have hnone : (∀ cid data, r.contentsOf s p ≠ .payload cid data) → r.payloadOf (.acl s p) = none := by
      intro hno
      rw [payloadOf]
      split
      · rename_i cid data hc
        exact absurd hc (hno cid data)
      · rfl
    revert hpart hpayload hnone
    generalize r.handleAcl s p = r'
    generalize r.contentsOf s p = contents
    intro hpart hpayload hnone
    unfold bringsAnswer at h
    cases hpart with
    | nothing =>
      rw [hnone (fun _ _ hc ↦ by cases hc)] at h
      cases h
    | command =>
      rw [hnone (fun _ _ hc ↦ by cases hc)] at h
      cases h
    | @payload re pdu cid data _ hrouted =>
      obtain ⟨re', rfl⟩ := hrouted
      obtain ⟨hne, hbrought⟩ := hpayload cid data rfl
      rw [hbrought] at h
      cases s with
      | toPlaystation => cases h
      | toDualsense =>
        obtain rfl : cid = k.padChannel.scid := beq_iff_eq.mp (Bool.and_eq_true_iff.mp h).1
        have hbefore := within_arriving (A := {.linkNotes, .routing}) r .toDualsense (by simp) (by simp) p re pdu
        have hends := dcid_eq hbefore .toPlaystation (by simp) (by simp)
        have hframes : (r.arriving .toDualsense p re pdu).frames = r.frames := by simp [arriving, setReasm]
        generalize r.arriving .toDualsense p re pdu = a at hends hframes
        have hanswer : Sends (r.Leads k) a (a.routePayload .toDualsense k.padChannel.scid data) :=
          (leads_answer hne).mono fun f hf hside ↦ by
            rw [← hends]
            exact hf hside
        exact ((Sends.of_eq hframes).trans hanswer).trans (.of_eq rfl)
  | _ => cases h

/-! ## The console's channel -/

/-- A channel that no command gives an end is open behind a step only if it was before. -/
theorem dcid_before {s : ConnectionSide} {c : Channel} {i : Input} (hend : r.givesEnd s c (r.cause i) = false)
    (h : (r.step i).dcid s c ≠ 0) : r.dcid s c ≠ 0 := by
  intro hzero
  cases hcmd : r.commandOf (r.cause i) with
  | none =>
    rcases dcid_of_no_command s c hcmd with he | he
    · exact h (he.trans hzero)
    · exact h he
  | some cmd =>
    refine h ?_
    rw [dcid_of_command s c hcmd, endAfter]
    unfold givesEnd at hend
    rw [hcmd] at hend
    split
    · rename_i hs
      have hbound : boundEnd c cmd.2 = none := by simpa [hs] using hend
      rw [hbound, Option.getD_none, hzero]
    · exact hzero

end Relay

namespace Asked

open Relay

variable {k : Inquiry} {x : Asked} {r : Relay} {i : Input}

/-- While the console's channel is open, only the console waits for answers. -/
def Own (k : Inquiry) (x : Asked) (r : Relay) : Prop :=
  r.dcid .toPlaystation k.consoleChannel ≠ 0 → ∀ a ∈ x, a = .console

/-- What is left has been asked before, when the console's channel stays. -/
theorem mem_standing {cause : Cause} {a : Asker} (hover : r.startsOver .toPlaystation cause = false)
    (hend : r.givesEnd .toPlaystation k.consoleChannel cause = false) (h : a ∈ x.standing k r cause) : a ∈ x := by
  unfold standing at h
  rw [hover, hend, Bool.or_false, if_neg (c := false = true) (by decide)] at h
  split at h
  · cases h
  · exact h

theorem mem_note {a : Asker} (h : a ∈ x.note k r i) :
    a ∈ x.standing k r (r.cause i) ∨ a ∈ r.questions k i := by
  refine (List.mem_append.mp h).imp_left fun hleft ↦ ?_
  split at hleft
  · exact List.mem_of_mem_tail hleft
  · exact hleft

theorem Own.step (h : x.Own k r) (hi : Orderly k (r, x) i) : (x.note k r i).Own k (r.step i) := by
  intro hopen a ha
  have hover : r.startsOver .toPlaystation (r.cause i) = false := by
    refine Bool.eq_false_iff.mpr fun hover ↦ hopen ?_
    exact congrFun (congrArg Prod.fst (standing_startsOver .toPlaystation hover)) _
  cases hend : r.givesEnd .toPlaystation k.consoleChannel (r.cause i) with
  | true =>
    have hawaits : r.awaits k (r.cause i) = true := by rw [awaits, hend, Bool.or_true]
    rcases mem_note ha with hleft | hnew
    · obtain rfl : x = [] := hi.fresh hend
      unfold standing at hleft
      split at hleft
      · cases hleft
      · split at hleft <;> cases hleft
    · exact hi.own hawaits a hnew
  | false =>
    have hbefore := dcid_before hend hopen
    have hawaits : r.awaits k (r.cause i) = true := by
      rw [awaits, bne_iff_ne.mpr hbefore, Bool.true_or]
    rcases mem_note ha with hleft | hnew
    · exact h hbefore a (mem_standing hover hend hleft)
    · exact hi.own hawaits a hnew

theorem Own.answersConsole (h : x.Own k r) (hi : Orderly k (r, x) i) : AnswersConsole k (r, x) i := by
  rintro hanswer ⟨f, hf, hside⟩
  obtain ⟨new, hnew, hleads⟩ := leads_step hanswer
  rw [show (r.step i).frames = _ from hnew, List.drop_left] at hf
  have hopen := hleads f hf hside
  obtain ⟨a, rest, hx⟩ := List.exists_cons_of_ne_nil (hi.asked hanswer)
  show x.head? = _
  rw [show x = a :: rest from hx, List.head?_cons, h hopen a (by rw [show x = a :: rest from hx]; simp)]

end Asked

/-- **Answers that were asked for.**  In a run in which nobody but the console asks while its channel is open,
the channel opens when the pad owes no answer, and the pad sends nothing unasked, an answer that goes to the
console answers the console. -/
theorem answers_asked_for (k : Inquiry) (c : Config) (is : List Input)
    (h : Along (withHistory Relay.step (Asked.note k)) (Asked.Orderly k) (.init c, []) is) :
    Along (withHistory Relay.step (Asked.note k)) (Asked.AnswersConsole k) (.init c, []) is := by
  let Inv (q : Relay × Asked) : Prop := q.2.Own k q.1
  have hinit : Inv (.init c, []) := fun _ a ha ↦ by cases ha
  exact h.of_invariant hinit fun q i hq hi ↦ ⟨hq.step hi, hq.answersConsole hi⟩

/-- The pad's answer to a read of the calibration, on a link of its own. -/
def Input.calibration (link : UInt16) : Input :=
  .data .toDualsense link Channel.hidControl.scid
    (HIDP_DATA_FEATURE :: REPORT_CALIBRATION :: List.replicate 40 0)

/-- The console asks for the calibration and gets it. -/
theorem answers_asked_for_calibration :
    Along (withHistory Relay.step (Asked.note .feature)) (Asked.AnswersConsole .feature) (.init .session, [])
      (Input.bothLinked ++ [.openChannel .toDualsense 1 Channel.hidControl.psm 0x50,
        .openChannel .toPlaystation 2 Channel.hidControl.psm 0x40,
        .data .toPlaystation 2 Channel.hidControl.scid [HIDP_GET_FEATURE, REPORT_CALIBRATION],
        .calibration 1]) :=
  answers_asked_for .feature _ _ (by decide +kernel)

/-- The pad goes and comes back behind a console that has opened its control channel, and is asked for the
reports the gadget starts with. -/
def Input.padBack : List Input :=
  Input.bothLinked
    ++ [.openChannel .toPlaystation 2 Channel.hidControl.psm 0x40, .hangUp .toDualsense 1 0x08]
    ++ Input.incomingCall .toDualsense ⟨1, 2, 3, 4, 5, 6⟩ 3
    ++ [.openChannel .toDualsense 3 Channel.hidControl.psm 0x51,
      .signal .toDualsense 3 L2CAP_CONF_RSP 1 (put16 Channel.hidInterrupt.scid ++ put16 0 ++ put16 0), .fire 1]

def padCameBack : Relay × Asked :=
  run (withHistory Relay.step (Asked.note .feature)) (.init .session, []) Input.padBack

/-- The console is handed what the relay has asked for. -/
theorem calibration_unasked : ¬ ∀ (k : Inquiry) (c : Config) (is : List Input),
    Along (withHistory Relay.step (Asked.note k)) (Asked.AnswersConsole k) (.init c, []) is := by
  intro h
  have hlast : Asked.AnswersConsole .feature padCameBack (Input.calibration 3) :=
    (along_append.mp (h .feature .session (Input.padBack ++ [Input.calibration 3]))).2.1
  exact absurd (hlast (by decide +kernel) (by decide +kernel)) (by decide +kernel)

end DualSenseMitm
