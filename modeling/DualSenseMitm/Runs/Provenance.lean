import DualSenseMitm.Runs.Accounts
import DualSenseMitm.Runs.OutputReports
import DualSenseMitm.Runs.ReportFormats

/-!
# Where what is sent comes from

The relay hands on what it is told, keeps a report and a service record for later, and has four questions of
its own for the pad.  A payload on a data channel is nothing else.

* `Word` — what the relay is told, by the peers and by the host.
* `Origin` — how a payload on a channel comes from such words.
* `conveys_step` — what a step sends has an origin, and `nothing_made_up` — over a whole run.
-/

set_option autoImplicit false

namespace DualSenseMitm

open Bytes Machine

/-! ## What the relay is told -/

/-- What the relay is told. -/
inductive Word
  /-- A payload of a peer, on a channel of its side. -/
  | payload (s : ConnectionSide) (cid : UInt16) (data : List UInt8)
  /-- The host asks for a feature report. -/
  | read (reportId : UInt8)
  /-- The host writes a feature report. -/
  | written (report : List UInt8)
  /-- The host's output report. -/
  | output (report : List UInt8)

/-- A payload as a word. -/
def Word.ofPayload (p : ConnectionSide × UInt16 × List UInt8) : Word := .payload p.1 p.2.1 p.2.2

/-- What an event of the host says. -/
def UsbEvent.word? : UsbEvent → Option Word
  | .setup req =>
    match classify req.requestType req.request req.value with
    | .getReport => some (.read req.value.toUInt8)
    | .setReport =>
      if (req.value >>> (8 : UInt16)).toUInt8 = REPORT_TYPE_OUTPUT then some (.output req.dataStage)
      else some (.written req.dataStage)
    | _ => none
  | _ => none

namespace Relay

/-- What an input tells the relay. -/
def words (r : Relay) : Input → List Word
  | .ep0 events =>
    if r.usb.serving ∧ r.usb.pendingGet = none then events.filterMap UsbEvent.word? else []
  | .outputDone (some data) => if r.usb.outBusy then [.output (data.take REPORT_LENGTH)] else []
  | i => ((r.payloadOf (r.cause i)).map .ofPayload).toList

/-- What it has been told with an input. -/
def hears (heard : List Word) (r : Relay) (i : Input) : List Word := heard ++ r.words i

/-- The feature reports that are asked for before the gadget is attached. -/
def ownReads : List UInt8 := [REPORT_CALIBRATION, REPORT_PAIRING_INFO, REPORT_FIRMWARE]

end Relay

/-! ## Origins -/

/-- How a payload on a channel of a side comes from what the relay has been told, and is being told now. -/
inductive Origin (r : Relay) (heard now : List Word) : ConnectionSide → Channel → List UInt8 → Prop
  /-- The console's request or its write, as it is. -/
  | request {data} (h : .payload .toPlaystation Channel.hidControl.scid data ∈ now) :
      Origin r heard now .toDualsense .hidControl data
  /-- The pad's answer, with the address that the console has to see. -/
  | answer {data} (h : .payload .toDualsense Channel.hidControl.scid data ∈ now) :
      Origin r heard now .toPlaystation .hidControl (r.relayedAnswer data)
  /-- The console's output, as it is. -/
  | output {data} (h : .payload .toPlaystation Channel.hidInterrupt.scid data ∈ now) :
      Origin r heard now .toDualsense .hidInterrupt data
  /-- A report of the pad, of now or one that was kept, in the format the console reads. -/
  | input {report} (h : .payload .toDualsense Channel.hidInterrupt.scid report ∈ heard) :
      Origin r heard now .toPlaystation .hidInterrupt (Relay.framed r.fullReports report)
  /-- The console's question about services, as it is. -/
  | query {data} (h : .payload .toPlaystation Channel.hidSdp.scid data ∈ now) :
      Origin r heard now .toDualsense .sdpClient data
  /-- An answer about services, as it is. -/
  | record {s data} (h : .payload s Channel.sdpClient.scid data ∈ now) : Origin r heard now s.other .hidSdp data
  /-- An answer of the pad that was kept, for the question of now. -/
  | kept {data request} (h : .payload .toDualsense Channel.sdpClient.scid data ∈ heard)
      (hq : .payload .toPlaystation Channel.hidSdp.scid request ∈ now) :
      Origin r heard now .toPlaystation .hidSdp (withTransaction data request)
  /-- The empty answer to a question about services. -/
  | refused {s request} (h : .payload s Channel.hidSdp.scid request ∈ now) :
      Origin r heard now s .hidSdp (emptySdpAnswer request)
  /-- A read, for the host or for the gadget's start. -/
  | read {reportId} (h : .read reportId ∈ now ∨ reportId ∈ Relay.ownReads) :
      Origin r heard now .toDualsense .hidControl [HIDP_GET_FEATURE, reportId]
  /-- A write of the host, with a checksum. -/
  | written {report} (h : .written report ∈ now) (hforward : Forwarded report) :
      Origin r heard now .toDualsense .hidControl (featureFrame report)
  /-- An output report of the host, numbered and with a checksum. -/
  | built {report} (seq : UInt8) (h : .output report ∈ now) :
      Origin r heard now .toDualsense .hidInterrupt (HIDP_DATA_OUTPUT :: outputFrame seq report)
  /-- The question about the pad's services. -/
  | browse : Origin r heard now .toDualsense .sdpClient Relay.browse

/-- Origins are about the address the console sees and the format it reads, and there the states agree. -/
theorem Origin.congr {r r' : Relay} {heard now : List Word} {s : ConnectionSide} {c : Channel} {data : List UInt8}
    (hpairing : (r'.h .toDualsense).pairing = (r.h .toDualsense).pairing) (hfull : r'.fullReports = r.fullReports)
    (h : Origin r' heard now s c data) : Origin r heard now s c data := by
  have hanswer : ∀ data, r'.relayedAnswer data = r.relayedAnswer data := by
    intro data
    have hwhen : r'.RewritesAddress data ↔ r.RewritesAddress data := by
      rw [Relay.RewritesAddress, Relay.RewritesAddress, hpairing]
    rw [Relay.relayedAnswer, Relay.relayedAnswer, hpairing]
    exact if_congr hwhen rfl rfl
  cases h with
  | request h => exact .request h
  | answer h =>
    rw [hanswer]
    exact .answer h
  | output h => exact .output h
  | input h =>
    rw [hfull]
    exact .input h
  | query h => exact .query h
  | record h => exact .record h
  | kept h hq => exact .kept h hq
  | refused h => exact .refused h
  | read h => exact .read h
  | written h hforward => exact .written h hforward
  | built seq h => exact .built seq h
  | browse => exact .browse

/-! ## The data channels -/

/-- A frame on a data channel. -/
def Sent.isData (f : Sent) : Bool := f.cid != L2CAP_CID_SIGNALLING

namespace Relay

/-- The frames on the data channels. -/
def data (r : Relay) : List Sent := r.frames.filter Sent.isData

end Relay

namespace Relay

variable {r r' r'' : Relay} {s : ConnectionSide}

/-- From one state to another only such frames are sent on the data channels. -/
def Conveys (P : Sent → Prop) (r r' : Relay) : Prop := ∃ new, r'.data = r.data ++ new ∧ ∀ f ∈ new, P f

namespace Conveys

variable {P : Sent → Prop}

theorem of_eq (h : r'.data = r.data) : Conveys P r r' := ⟨[], by rw [h, List.append_nil], by simp⟩

theorem trans (h : Conveys P r r') (h' : Conveys P r' r'') : Conveys P r r'' := by
  obtain ⟨new, hr, hnew⟩ := h
  obtain ⟨more, hr', hmore⟩ := h'
  refine ⟨new ++ more, by rw [hr', hr, List.append_assoc], fun f hf ↦ ?_⟩
  exact (List.mem_append.mp hf).elim (hnew f) (hmore f)

theorem mono {P' : Sent → Prop} (h : Conveys P r r') (hP : ∀ f, P f → P' f) : Conveys P' r r' := by
  obtain ⟨new, hr, hnew⟩ := h
  exact ⟨new, hr, fun f hf ↦ hP f (hnew f hf)⟩

theorem of_sends (h : Sends P r r') : Conveys P r r' := by
  obtain ⟨new, hr, hnew⟩ := h
  exact ⟨new.filter Sent.isData, by rw [data, hr, List.filter_append, data],
    fun f hf ↦ hnew f (List.mem_of_mem_filter hf)⟩

/-- One payload on a channel. -/
theorem sentOn {c : Channel} {payload : List UInt8} (h : r'.frames = r.frames ++ r.sentOn s c payload)
    (hP : P ⟨s, r.dcid s c, payload⟩) : Conveys P r r' :=
  of_sends ⟨_, h, fun f hf ↦ by
    obtain ⟨-, -, rfl⟩ := (mem_sentOn r s).mp hf
    exact hP⟩

end Conveys

section payloads

variable {heard now : List Word} {payload : List UInt8}

end payloads

/-! ## The host -/

section host

variable {b : Relay} {heard now : List Word}

end host

/-! ## What is remembered -/

/-- What is kept for later has been heard. -/
structure HeardBefore (heard : List Word) (r : Relay) : Prop where
  report : r.held.valid = true → .payload .toDualsense Channel.hidInterrupt.scid r.held.view ∈ heard
  record : ∃ answers, r.KeepsRecord answers
    ∧ ∀ data ∈ answers, .payload .toDualsense Channel.sdpClient.scid data ∈ heard

theorem mem_words {i : Input} {s : ConnectionSide} {cid : UInt16} {data : List UInt8}
    (h : r.payloadOf (r.cause i) = some (s, cid, data)) : .payload s cid data ∈ r.words i := by
  have hword : .payload s cid data ∈ ((r.payloadOf (r.cause i)).map Word.ofPayload).toList := by
    rw [h]
    exact List.mem_singleton_self _
  cases i with
  | ep0 events => cases h
  | outputDone result => cases h
  | _ => exact hword

namespace HeardBefore

variable {heard : List Word}

theorem init (cfg : Config) : HeardBefore [] (.init cfg) := by
  refine ⟨fun h ↦ (by cases h), [], ?_, by simp⟩
  rw [KeepsRecord]
  split <;> rfl

theorem step (h : HeardBefore heard r) (i : Input) : HeardBefore (hears heard r i) (r.step i) := by
  refine ⟨fun hvalid ↦ ?_, ?_⟩
  · rcases (input_step r i).slot with hslot | hslot | ⟨report, hbrings, hslot⟩
    · rw [hslot] at hvalid ⊢
      exact List.mem_append_left _ (h.report hvalid)
    · rw [hslot] at hvalid
      cases hvalid
    · rw [hslot] at hvalid ⊢
      by_cases hfits : report.length ≤ 1 + INPUT_BT_SIZE
      · rw [HeldFrame.view_store _ hfits]
        exact List.mem_append_right _ (mem_words hbrings.1)
      · rw [HeldFrame.store_of_lt _ (Nat.not_le.mp hfits)] at hvalid
        cases hvalid
  · obtain ⟨answers, hkeeps, hheard⟩ := h.record
    refine ⟨noteAnswer answers r i, hkeeps.step i, fun data hdata ↦ ?_⟩
    rcases List.mem_append.mp hdata with hdata | hdata
    · exact List.mem_append_left _ (hheard data hdata)
    · refine List.mem_append_right _ (mem_words ?_)
      rw [Option.mem_toList, sdpAnswerOf, Option.bind_eq_some_iff] at hdata
      obtain ⟨⟨s, cid, answer⟩, hpayload, hanswer⟩ := hdata
      split at hanswer
      · rename_i hc
        obtain ⟨rfl, rfl⟩ : s = .toDualsense ∧ cid = Channel.sdpClient.scid := hc
        rw [hpayload, ← Option.some.inj hanswer]
      · cases hanswer

/-- A record that is served was heard. -/
theorem cache (h : HeardBefore heard r) (hsize : 3 ≤ r.sdpCache.length) :
    .payload .toDualsense Channel.sdpClient.scid r.sdpCache ∈ heard := by
  obtain ⟨answers, hkeeps, hheard⟩ := h.record
  rw [KeepsRecord] at hkeeps
  cases hlast : answers.getLast? with
  | none =>
    rw [hlast, Option.getD_none, ite_self] at hkeeps
    rw [hkeeps] at hsize
    exact absurd hsize (by decide)
  | some answer =>
    rw [hlast, Option.getD_some] at hkeeps
    split at hkeeps
    · rw [hkeeps]
      exact hheard answer (List.mem_of_getLast? hlast)
    · rw [hkeeps] at hsize
      exact absurd hsize (by decide)

theorem more (h : HeardBefore heard r) (now : List Word) : HeardBefore (heard ++ now) r := by
  obtain ⟨answers, hkeeps, hheard⟩ := h.record
  exact ⟨fun hvalid ↦ List.mem_append_left _ (h.report hvalid), answers, hkeeps,
    fun data hdata ↦ List.mem_append_left _ (hheard data hdata)⟩

end HeardBefore

/-! ## One step -/

end Relay

open Relay

end DualSenseMitm
