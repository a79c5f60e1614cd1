import DualSenseMitm.Sending

/-!
# The service record that is kept

What the pad answers on its SDP channel is kept for the console, and while that channel is closed the
console is answered from it.  Nothing asks whether it was the whole record.

* `Relay.payloadOf` — the payload an input brings, and `payload_step` — that it is routed, and what else
  can happen.
* `Whole` — an answer that is a record and leaves nothing to ask for.
* `record_served_whole_iff` — when only such an answer is served.
-/

set_option autoImplicit false

namespace DualSenseMitm

open Bytes Machine

/-! ## The payload of an input -/

namespace Relay

/-- The payload an input brings on a channel: the side, the local end and the bytes. -/
def payloadOf (r : Relay) : Cause → Option (ConnectionSide × UInt16 × List UInt8)
  | .acl s p =>
    match r.contentsOf s p with
    | .payload cid data => some (s, cid, data)
    | _ => none
  | _ => none

/-- What a step does with the payload it brings, or without one. -/
inductive PayloadStep (r : Relay) : Option (ConnectionSide × UInt16 × List UInt8) → Relay → Prop
  | aside {A r'} (h : Performs (Op.Within A) r r') (hF : .forwarding ∉ A) : PayloadStep r none r'
  | routed {s p re pdu cid data r'}
      (h : UpToReasm s (aclHandle p) ((r.arriving s p re pdu).routePayload s cid data) r') :
      PayloadStep r (some (s, cid, data)) r'

theorem payload_step (r : Relay) (i : Input) : PayloadStep r (r.payloadOf (r.cause i)) (r.step i) := by
  have hm := step_move r i
  have hw := hm.within
  revert hm hw
  generalize r.cause i = cause
  generalize r.step i = r'
  intro hm hw
  cases hm with
  | @acl s p =>
    have hpart := acl_part r s p
    rw [payloadOf]
    revert hpart
    generalize r.handleAcl s p = r'
    generalize r.contentsOf s p = contents
    intro hpart
    cases hpart with
    | nothing h => exact .aside h (by simp)
    | @command re pdu q _ h =>
      obtain ⟨re', rfl⟩ := h
      have hbefore := within_arriving (A := {.linkNotes, .routing, .signalling s, .binding s}) r s (by simp)
        (by simp) p re pdu
      have hcommand := hbefore.trans (within_handleL2capCmd _ s (by simp) (by simp) q)
      exact .aside (hcommand.trans (within_setReasm _ s (by simp) _ _)) (by simp)
    | payload h => exact .routed h
  | quiet h hc =>
    have hnone : r.payloadOf cause = none := by
      cases cause with
      | acl s p => exact absurd hc (Set.insert_nonempty _ _).ne_empty
      | _ => rfl
    rw [hnone]
    exact .aside (A := ∅) h.within (by simp)
  | _ => exact .aside hw (by simp [Cause.aspects])

end Relay

/-! ## Answers -/

/-- A ServiceSearchAttribute response behind which there is nothing to ask for: the parameters are a count,
the list and the one byte that says so. -/
structure Whole (answer : List UInt8) : Prop where
  id : byteAt answer 0 = 0x07
  size : 7 ≤ answer.length
  complete : 256 * (byteAt answer 3).toNat + (byteAt answer 4).toNat
    = 2 + (256 * (byteAt answer 5).toNat + (byteAt answer 6).toNat) + 1

/-- An answer with the transaction id of a request. -/
def withTransaction (answer request : List UInt8) : List UInt8 :=
  (answer.set 1 (byteAt request 1)).set 2 (byteAt request 2)

theorem length_withTransaction (answer request : List UInt8) :
    (withTransaction answer request).length = answer.length := by
  rw [withTransaction, List.length_set, List.length_set]

theorem byteAt_withTransaction {answer request : List UInt8} {i : ℕ} (h₁ : 1 ≠ i) (h₂ : 2 ≠ i) :
    byteAt (withTransaction answer request) i = byteAt answer i := by
  rw [byteAt, byteAt, List.getD_eq_getElem?_getD, List.getD_eq_getElem?_getD, withTransaction,
    List.getElem?_set_ne h₂, List.getElem?_set_ne h₁]

/-- The transaction id does not make an answer whole. -/
theorem whole_withTransaction {answer request : List UInt8} :
    Whole (withTransaction answer request) ↔ Whole answer := by
  have hbyte : ∀ i, 1 ≠ i → 2 ≠ i → byteAt (withTransaction answer request) i = byteAt answer i :=
    fun i ↦ byteAt_withTransaction
  have hlen := length_withTransaction answer request
  constructor
  · rintro ⟨hid, hsize, hcomplete⟩
    rw [hbyte _ (by decide) (by decide)] at hid
    rw [hlen] at hsize
    rw [hbyte _ (by decide) (by decide), hbyte _ (by decide) (by decide), hbyte _ (by decide) (by decide),
      hbyte _ (by decide) (by decide)] at hcomplete
    exact ⟨hid, hsize, hcomplete⟩
  · rintro ⟨hid, hsize, hcomplete⟩
    refine ⟨?_, hlen.symm ▸ hsize, ?_⟩
    · rw [hbyte _ (by decide) (by decide), hid]
    · rw [hbyte _ (by decide) (by decide), hbyte _ (by decide) (by decide), hbyte _ (by decide) (by decide),
        hbyte _ (by decide) (by decide), hcomplete]

namespace Relay

/-- What is kept of the pad's service record. -/
abbrev sdpCache (r : Relay) : List UInt8 := (r.h .toPlaystation).streams.sdpAnswerCache

/-- The answer an input brings from the pad. -/
def sdpAnswerOf (r : Relay) (i : Input) : Option (List UInt8) :=
  (r.payloadOf (r.cause i)).bind fun p ↦
    if p.1 = .toDualsense ∧ p.2.1 = Channel.sdpClient.scid then some p.2.2 else none

/-- The query an input brings from the console. -/
def sdpQueryOf (r : Relay) (i : Input) : Option (List UInt8) :=
  (r.payloadOf (r.cause i)).bind fun p ↦
    if p.1 = .toPlaystation ∧ p.2.1 = Channel.hidSdp.scid then some p.2.2 else none

/-- A query that is answered with what is kept: the pad's channel is closed, and the console's takes it. -/
def ServesCached (r : Relay) (request : List UInt8) : Prop :=
  ¬ (r.linked = true ∧ r.dcid .toDualsense .sdpClient ≠ 0) ∧ 3 ≤ r.sdpCache.length
    ∧ byteAt request 0 = SDP_SERVICE_SEARCH_ATTR_REQUEST
    ∧ r.dcid .toPlaystation .hidSdp ≠ 0 ∧ tooLarge r.sdpCache = false

instance (r : Relay) (request : List UInt8) : Decidable (r.ServesCached request) :=
  inferInstanceAs (Decidable (_ ∧ _))

end Relay

/-- The answers the pad has given. -/
def noteAnswer (answers : List (List UInt8)) (r : Relay) (i : Input) : List (List UInt8) :=
  answers ++ (r.sdpAnswerOf i).toList

/-- Whatever a query is served is a whole answer of the pad, with the console's transaction id. -/
def ServesWhole (q : Relay × List (List UInt8)) (i : Input) : Prop :=
  ∀ request ∈ q.1.sdpQueryOf i, q.1.ServesCached request → ∀ f ∈ (q.1.step i).frames.drop q.1.frames.length,
    ∃ answer ∈ q.2, Whole answer
      ∧ f = ⟨.toPlaystation, q.1.dcid .toPlaystation .hidSdp, withTransaction answer request⟩

/-- When a query is served, the last answer of the pad was whole. -/
def LastWhole (q : Relay × List (List UInt8)) (i : Input) : Prop :=
  ∀ request ∈ q.1.sdpQueryOf i, q.1.ServesCached request → ∀ answer ∈ q.2.getLast?, Whole answer

/-! ## What is kept -/

namespace Relay

variable {r : Relay} {answers : List (List UInt8)}

@[simp] theorem streams_l2capSendFramed (r : Relay) (s t : ConnectionSide) (c : Channel) (pre data : List UInt8) :
    ((r.l2capSendFramed s c pre data).h t).streams = (r.h t).streams := by
  rw [l2capSendFramed]
  split
  · rfl
  · simp

theorem sdpCache_l2capSendData (r : Relay) (s : ConnectionSide) (c : Channel) (data : List UInt8) :
    (r.l2capSendData s c data).sdpCache = r.sdpCache :=
  congrArg Streams.sdpAnswerCache (streams_l2capSendFramed r s .toPlaystation c [] data)

theorem sdpCache_handleSdpAnswerFromPad (r : Relay) (s : ConnectionSide) (data : List UInt8) :
    (r.handleSdpAnswerFromPad s data).sdpCache
      = if r.linked = true ∧ s = .toDualsense then data else r.sdpCache := by
  unfold handleSdpAnswerFromPad
  extract_lets r₁
  have hsent : (if r₁.dcid s.other .hidSdp ≠ 0 then r₁.l2capSendData s.other .hidSdp data else r₁).sdpCache
      = r₁.sdpCache := by
    split
    · exact sdpCache_l2capSendData r₁ _ _ _
    · rfl
  by_cases hlinked : r.linked = true
  · rw [if_pos hlinked, hsent]
    cases s with
    | toDualsense => simp [r₁, sdpCache, hlinked]
    | toPlaystation => simp [r₁, sdpCache]
  · rw [if_neg hlinked, if_neg fun h ↦ hlinked h.1]

theorem sdpCache_handleSdpQuery (r : Relay) (s : ConnectionSide) (request : List UInt8) :
    (r.handleSdpQuery s request).sdpCache = r.sdpCache := by
  unfold handleSdpQuery handleSdpRequest
  extract_lets cache
  by_cases hforward : s = .toPlaystation ∧ r.linked = true ∧ r.dcid s.other .sdpClient ≠ 0
  · rw [if_pos hforward]
    exact sdpCache_l2capSendData r _ _ _
  · rw [if_neg hforward]
    split
    · exact sdpCache_l2capSendData r _ _ _
    · split
      · rfl
      · exact sdpCache_l2capSendData r _ _ _

/-- What the pad answers on its SDP channel is kept, and nothing else is. -/
theorem sdpCache_routePayload (r : Relay) (s : ConnectionSide) (cid : UInt16) (data : List UInt8) :
    (r.routePayload s cid data).sdpCache
      = if r.linked = true ∧ s = .toDualsense ∧ cid = Channel.sdpClient.scid then data else r.sdpCache := by
  have hkept : ∀ {A : Set Aspect} {r' : Relay}, Performs (Op.Within A) r r' → .forwarding ∉ A →
      r'.sdpCache = r.sdpCache := fun hw hA ↦ sdpAnswerCache_eq hw _ hA
  unfold routePayload
  by_cases hcontrol : cid = Channel.hidControl.scid
  · have hne : ¬ (r.linked = true ∧ s = .toDualsense ∧ cid = Channel.sdpClient.scid) := by
      rintro ⟨-, -, hc⟩
      exact absurd (hcontrol.symm.trans hc) (by decide)
    rw [if_pos hcontrol, if_neg hne]
    cases s with
    | toDualsense =>
      show (r.handleFeatureAnswerFromPad .toDualsense data).sdpCache = _
      unfold handleFeatureAnswerFromPad
      extract_lets feature addr report r₁
      have h₁ : r₁.sdpCache = r.sdpCache := by
        show Relay.sdpCache (ite _ _ _) = _
        split
        · exact congrArg Streams.sdpAnswerCache (streams_l2capSendFramed r _ _ _ _ _)
        · rfl
      split
      · have hw : Performs (Op.Within {.reports}) r₁ (r₁.onFeatureReport (report.drop 1)) :=
          within_onFeatureReport r₁ (by simp) _
        exact (sdpAnswerCache_eq hw _ (by simp)).trans h₁
      · exact h₁
    | toPlaystation =>
      exact hkept (A := {.console .toPlaystation}) (within_handleFeatureRequestFromConsole r _ (by simp) rfl data)
        (by simp)
  rw [if_neg hcontrol]
  by_cases hinterrupt : cid = Channel.hidInterrupt.scid
  · have hne : ¬ (r.linked = true ∧ s = .toDualsense ∧ cid = Channel.sdpClient.scid) := by
      rintro ⟨-, -, hc⟩
      exact absurd (hinterrupt.symm.trans hc) (by decide)
    rw [if_pos hinterrupt, if_neg hne]
    cases s with
    | toDualsense =>
      exact hkept (A := {.relaying .toPlaystation}) (within_relayPadInput r .toDualsense (by simp) data) (by simp)
    | toPlaystation =>
      exact hkept (A := {.console .toPlaystation, .pacing .toPlaystation})
        (within_relayConsoleOutputToPad r _ (by simp) (by simp) rfl data) (by simp)
  rw [if_neg hinterrupt]
  by_cases hclient : cid = Channel.sdpClient.scid
  · rw [if_pos hclient, sdpCache_handleSdpAnswerFromPad]
    simp only [hclient, and_true]
  have hne : ¬ (r.linked = true ∧ s = .toDualsense ∧ cid = Channel.sdpClient.scid) := fun h ↦ hclient h.2.2
  rw [if_neg hclient, if_neg hne]
  split
  · exact sdpCache_handleSdpQuery r s data
  · rfl

/-- What is kept is the last answer of the pad. -/
def KeepsRecord (r : Relay) (answers : List (List UInt8)) : Prop :=
  r.sdpCache = if r.linked = true then answers.getLast?.getD [] else []

instance (r : Relay) (answers : List (List UInt8)) : Decidable (r.KeepsRecord answers) :=
  inferInstanceAs (Decidable (_ = _))

theorem KeepsRecord.step (h : r.KeepsRecord answers) (i : Input) : (r.step i).KeepsRecord (noteAnswer answers r i) := by
  have hlinked : (r.step i).linked = r.linked := (step_move r i).within.linked
  have hstep := payload_step r i
  rw [KeepsRecord, noteAnswer, sdpAnswerOf, hlinked]
  revert hstep
  generalize r.payloadOf (r.cause i) = payload
  generalize r.step i = r'
  intro hstep
  cases hstep with
  | aside hw hF =>
    have hcache : r'.sdpCache = r.sdpCache := sdpAnswerCache_eq hw _ hF
    rw [hcache, h, Option.bind_none, Option.toList_none, List.append_nil]
  | @routed s p re pdu cid data _ hr =>
    obtain ⟨re', rfl⟩ := hr
    have harrive := within_arriving (A := {.linkNotes, .routing}) r s (by simp) (by simp) p re pdu
    have hbefore : (r.arriving s p re pdu).sdpCache = r.sdpCache := sdpAnswerCache_eq harrive _ (by simp)
    have hafter : ∀ a : Relay, (a.setReasm s (aclHandle p) re').sdpCache = a.sdpCache := fun a ↦
      sdpAnswerCache_eq (within_setReasm (A := {.linkNotes}) a s (by simp) _ _) _ (by simp)
    rw [hafter, sdpCache_routePayload, hbefore, harrive.linked, h, Option.bind_some]
    by_cases hanswer : s = .toDualsense ∧ cid = Channel.sdpClient.scid
    · rw [if_pos hanswer, Option.toList_some, List.getLast?_concat, Option.getD_some]
      by_cases hl : r.linked = true
      · rw [if_pos ⟨hl, hanswer⟩, if_pos hl]
      · rw [if_neg fun hn ↦ hl hn.1, if_neg hl, if_neg hl]
    · rw [if_neg fun hn ↦ hanswer hn.2, if_neg hanswer, Option.toList_none, List.append_nil]

/-! ## A query -/

/-- A query that is served sends just what is kept. -/
theorem frames_served {i : Input} {request : List UInt8} (hq : r.sdpQueryOf i = some request)
    (hserves : r.ServesCached request) :
    (r.step i).frames = r.frames ++ [⟨.toPlaystation, r.dcid .toPlaystation .hidSdp,
      withTransaction r.sdpCache request⟩] := by
  have hstep := payload_step r i
  rw [sdpQueryOf] at hq
  revert hstep hq
  generalize r.payloadOf (r.cause i) = payload
  generalize r.step i = r'
  intro hq hstep
  cases hstep with
  | aside => cases hq
  | @routed s p re pdu cid data _ hr =>
    obtain ⟨re', rfl⟩ := hr
    rw [Option.bind_some] at hq
    split at hq
    · rename_i hc
      obtain ⟨rfl, rfl⟩ : s = .toPlaystation ∧ cid = Channel.hidSdp.scid := hc
      cases hq
      have harrive := within_arriving (A := {.linkNotes, .routing}) r .toPlaystation (by simp) (by simp) p re pdu
      have hdcid : ∀ t, (r.arriving .toPlaystation p re pdu).dcid t = r.dcid t := fun t ↦
        dcid_eq harrive t (by simp) (by simp)
      have hcache : (r.arriving .toPlaystation p re pdu).sdpCache = r.sdpCache :=
        sdpAnswerCache_eq harrive _ (by simp)
      have hframes : (r.arriving .toPlaystation p re pdu).frames = r.frames := by simp [arriving, setReasm]
      obtain ⟨hclosed, hsize, hid, hopen, hfits⟩ := hserves
      show (Relay.setReasm (handleSdpQuery _ _ _) _ _ _).frames = _
      have hlarge : tooLarge (withTransaction r.sdpCache data) = false := by
        rw [tooLarge, length_withTransaction]
        exact hfits
      rw [setReasm, frames_onLinks, handleSdpQuery, if_neg, if_pos, frames_l2capSendData, sentOn, hdcid, if_neg hopen,
        hframes]
      · show _ ++ frameOf _ _ (withTransaction (Relay.sdpCache _) data) = _
        rw [hcache, frameOf, hlarge]
        rfl
      · exact ⟨rfl, by rw [show Streams.sdpAnswerCache _ = _ from hcache]; exact hsize, hid⟩
      · rintro ⟨-, hl, ho⟩
        rw [harrive.linked] at hl
        rw [hdcid] at ho
        exact hclosed ⟨hl, ho⟩
    · cases hq

end Relay

/-- One step serves a whole answer exactly if the last one was. -/
theorem servesWhole_iff {q : Relay × List (List UInt8)} (hkeeps : q.1.KeepsRecord q.2) (i : Input) :
    ServesWhole q i ↔ LastWhole q i := by
  obtain ⟨r, answers⟩ := q
  refine forall_congr' fun request ↦ forall_congr' fun hq ↦ forall_congr' fun hserves ↦ ?_
  have hframes := Relay.frames_served hq hserves
  have hlast : answers.getLast? = some r.sdpCache := by
    have hcache : r.sdpCache = if r.linked = true then answers.getLast?.getD [] else [] := hkeeps
    have hsize : 3 ≤ r.sdpCache.length := hserves.2.1
    split at hcache
    · cases hgiven : answers.getLast? with
      | none =>
        rw [hcache, hgiven] at hsize
        exact absurd hsize (by decide)
      | some answer => rw [hcache, hgiven, Option.getD_some]
    · rw [hcache] at hsize
      exact absurd hsize (by decide)
  show (∀ f ∈ (r.step i).frames.drop r.frames.length, _) ↔ ∀ answer ∈ answers.getLast?, _
  rw [hframes, List.drop_left, hlast]
  constructor
  · intro h answer hanswer
    obtain rfl : r.sdpCache = answer := Option.some.inj hanswer
    obtain ⟨given, -, hwhole, heq⟩ := h _ (List.mem_singleton_self _)
    have hsame : withTransaction r.sdpCache request = withTransaction given request := congrArg Sent.payload heq
    refine whole_withTransaction.mp (hsame ▸ ?_ : Whole (withTransaction r.sdpCache request))
    exact whole_withTransaction.mpr hwhole
  · intro h f hf
    rw [List.mem_singleton.mp hf]
    exact ⟨r.sdpCache, List.mem_of_getLast? hlast, h _ rfl, rfl⟩

/-- **When the cache serves the whole record.**  Whatever the console is served from the cache in a run is a
whole answer of the pad, exactly if each time the last answer that the pad has given is one. -/
theorem record_served_whole_iff (c : Config) (is : List Input) :
    Along (withHistory Relay.step noteAnswer) ServesWhole (.init c, []) is
      ↔ Along (withHistory Relay.step noteAnswer) LastWhole (.init c, []) is := by
  have hall : Along (withHistory Relay.step noteAnswer) (fun _ _ ↦ True) (.init c, []) is :=
    along_iff_prefixes.mpr fun _ _ _ ↦ trivial
  let Inv (q : Relay × List (List UInt8)) : Prop := q.1.KeepsRecord q.2
  have hempty : (Relay.init c).KeepsRecord [] := by
    rw [Relay.KeepsRecord]
    split <;> rfl
  have hinit : Inv (.init c, []) := hempty
  refine Along.congr (hall.of_invariant hinit ?_)
  exact fun q i hq _ ↦ ⟨Relay.KeepsRecord.step hq i, servesWhole_iff hq i⟩

/-- The first part of a record, with two bytes of the list and three of continuation state. -/
def firstPart : List UInt8 := [0x07, 0x00, 0x01, 0x00, 0x08, 0x00, 0x02, 0x35, 0x00, 0x03, 0x01, 0x02, 0x03]

/-- The pad answers with the first part of its record, and is gone; the console opens its SDP channel. -/
def Input.recordCutOff : List Input :=
  Input.bothLinked ++ [
    .event .toDualsense EVT_AUTH_COMPLETE (HCI_SUCCESS :: put16 1),
    .signal .toDualsense 1 L2CAP_CONN_RSP 1 (put16 0x41 ++ put16 Channel.sdpClient.scid ++ put16 0 ++ put16 0),
    .data .toDualsense 1 Channel.sdpClient.scid firstPart,
    .hangUp .toDualsense 1 0x08,
    .openChannel .toPlaystation 2 Channel.hidSdp.psm 0x40]

/-- The console asks for the record. -/
def Input.sdpQuery : Input :=
  .data .toPlaystation 2 Channel.hidSdp.scid [SDP_SERVICE_SEARCH_ATTR_REQUEST, 0x12, 0x34, 0x00, 0x00]

/-- It is served the first part, as if it were all of it. -/
theorem first_part_served :
    ¬ ∀ c is, Along (withHistory Relay.step noteAnswer) ServesWhole (.init c, []) is := by
  intro h
  have hserves := along_iff_prefixes.mp (h .session (Input.recordCutOff ++ [Input.sdpQuery])) Input.recordCutOff
    Input.sdpQuery List.prefix_rfl
  have hkeeps : (run (withHistory Relay.step noteAnswer) (.init .session, []) Input.recordCutOff).1.KeepsRecord
      (run (withHistory Relay.step noteAnswer) (.init .session, []) Input.recordCutOff).2 := by decide +kernel
  have hlast := (servesWhole_iff hkeeps _).mp hserves [SDP_SERVICE_SEARCH_ATTR_REQUEST, 0x12, 0x34, 0x00, 0x00]
    (by decide +kernel) (by decide +kernel) firstPart (by decide +kernel)
  exact absurd hlast.complete (by decide)

end DualSenseMitm
