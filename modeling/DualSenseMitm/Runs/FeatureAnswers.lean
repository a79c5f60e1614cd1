import DualSenseMitm.Sending

/-!
# The checksum of a feature answer

The pad's answer to a feature request goes to the console as it is, but for the address in reports 0x09
and 0x0b, which is written over in place.  The checksum behind it is left alone.

* `Relay.relayedAnswer` — what the console is handed.
* `relayed_answer_valid` — its checksum is right exactly when nothing was written over, or when the
  difference it makes leaves no remainder.
-/

set_option autoImplicit false

namespace DualSenseMitm

open Bytes Machine Relay

/-- The bytes of an answer where the pad's address stands, against those written over them. -/
def addressChange (payload : List UInt8) (addr : BdAddr) : List UInt8 :=
  List.zipWith (· ^^^ ·) (payload.drop 2) addr.bytes

namespace Relay

variable (r : Relay) (payload : List UInt8)

/-- The address in this answer of the pad is written over. -/
def RewritesAddress : Prop :=
  byteAt payload 0 = HIDP_DATA_FEATURE
    ∧ (byteAt payload 1 = REPORT_PAIRING_INFO ∨ byteAt payload 1 = REPORT_PAIRING_LIST)
    ∧ 8 ≤ payload.length ∧ (r.h .toDualsense).pairing.ps5SideAddr.isSet = true

instance : Decidable (r.RewritesAddress payload) := inferInstanceAs (Decidable (_ ∧ _))

/-- The answer as the console is handed it. -/
def relayedAnswer : List UInt8 :=
  if r.RewritesAddress payload then overwrite payload 2 (r.h .toDualsense).pairing.ps5SideAddr.bytes
  else payload

/-- This answer of the pad goes to the console. -/
def ForwardsAnswer : Prop :=
  r.linked = true ∧ r.dcid .toPlaystation .hidControl ≠ 0 ∧ tooLarge payload = false

variable {payload}

theorem length_relayedAnswer : (r.relayedAnswer payload).length = payload.length := by
  rw [relayedAnswer]
  split
  · rename_i h
    exact length_overwrite h.2.2.1
  · rfl

theorem byteAt_relayedAnswer : byteAt (r.relayedAnswer payload) 0 = byteAt payload 0 := by
  rw [relayedAnswer]
  split
  · rename_i h
    exact byteAt_overwrite_of_lt (by decide) (by have h8 := h.2.2.1; omega)
  · rfl

/-- Of an answer the console is handed nothing, or this. -/
theorem frames_handleFeatureAnswerFromPad (hne : payload ≠ []) :
    (r.handleFeatureAnswerFromPad .toDualsense payload).frames
      = r.frames ++ if r.linked then r.sentOn .toPlaystation .hidControl (r.relayedAnswer payload)
          else [] := by
  have hcons : byteAt (r.relayedAnswer payload) 0 :: (r.relayedAnswer payload).tail
      = r.relayedAnswer payload := by
    have hlen : (r.relayedAnswer payload).length = payload.length := r.length_relayedAnswer
    cases hans : r.relayedAnswer payload with
    | nil =>
      rw [hans] at hlen
      exact absurd (List.length_eq_zero_iff.mp hlen.symm) hne
    | cons x rest => rfl
  unfold handleFeatureAnswerFromPad
  extract_lets feature addr report r₁
  have hreport : report = r.relayedAnswer payload := rfl
  have h₁ : r₁.frames = r.frames
      ++ if r.linked then r.sentOn .toPlaystation .hidControl (r.relayedAnswer payload) else [] := by
    by_cases hlinked : r.linked = true
    · by_cases hopen : r.dcid .toPlaystation .hidControl = 0
      · simp [r₁, sentOn, hopen]
      · simp [r₁, hopen, hlinked, hreport, hcons]
    · simp [r₁, hlinked]
  split
  · rw [frames_onFeatureReport, h₁]
  · exact h₁

theorem mem_frames_answer (hne : payload ≠ []) {f : Sent} :
    f ∈ (r.handleFeatureAnswerFromPad .toDualsense payload).frames.drop r.frames.length
      ↔ r.ForwardsAnswer payload
        ∧ f = ⟨.toPlaystation, r.dcid .toPlaystation .hidControl, r.relayedAnswer payload⟩ := by
  have hlarge : tooLarge (r.relayedAnswer payload) = tooLarge payload := by
    rw [tooLarge, tooLarge, length_relayedAnswer]
  rw [frames_handleFeatureAnswerFromPad r hne, List.drop_left, ForwardsAnswer, sentOn]
  split
  · rename_i hlinked
    split
    · rename_i hopen
      simp [hopen]
    · rename_i hopen
      rw [mem_frameOf, hlarge]
      simp [hopen, hlinked]
  · rename_i hlinked
    simp [hlinked]

/-- Writing over the address keeps the checksum right exactly when what it changes leaves no
remainder. -/
theorem crcIsValid_relayedAnswer {report : List UInt8} (hcrc : crcIsValid CRC_SEED_FEATURE report)
    (h : r.RewritesAddress (HIDP_DATA_FEATURE :: report)) :
    crcIsValid CRC_SEED_FEATURE ((r.relayedAnswer (HIDP_DATA_FEATURE :: report)).drop 1)
      ↔ (addressChange (HIDP_DATA_FEATURE :: report)
          (r.h .toDualsense).pairing.ps5SideAddr).foldl Crc32.step 0 = 0 := by
  generalize hp : HIDP_DATA_FEATURE :: report = payload at h ⊢
  have hlen : payload.length = report.length + 1 := by rw [← hp, List.length_cons]
  have h8 := h.2.2.1
  have hold : payload.foldl Crc32.step 0xffffffff = residue := by
    rw [← hp]
    exact (crcIsValid_iff (by omega)).mp hcrc
  have hnew : CRC_SEED_FEATURE :: (r.relayedAnswer payload).drop 1 = r.relayedAnswer payload := by
    rw [relayedAnswer, if_pos h, ← hp]
    rfl
  have hsplit : payload = payload.take 2 ++ (payload.drop 2).take 6 ++ payload.drop 8 := by
    rw [List.append_assoc, ← List.drop_drop (i := 6) (j := 2), List.take_append_drop, List.take_append_drop]
  have hchange : addressChange payload (r.h .toDualsense).pairing.ps5SideAddr
      = List.zipWith (· ^^^ ·) ((payload.drop 2).take 6) (r.h .toDualsense).pairing.ps5SideAddr.bytes := by
    have htake : (r.h .toDualsense).pairing.ps5SideAddr.bytes.take 6
        = (r.h .toDualsense).pairing.ps5SideAddr.bytes := rfl
    have hlen6 : (addressChange payload (r.h .toDualsense).pairing.ps5SideAddr).length ≤ 6 := by
      rw [addressChange, List.length_zipWith]
      exact Nat.min_le_right _ _
    rw [← htake, ← List.take_zipWith]
    exact (List.take_of_length_le hlen6).symm
  have hlens : ((payload.drop 2).take 6).length = (r.h .toDualsense).pairing.ps5SideAddr.bytes.length := by
    rw [List.length_take, List.length_drop]
    exact Nat.min_eq_left (by omega)
  rw [crcIsValid_iff (by rw [List.length_drop, length_relayedAnswer]; omega), hnew, ← hold, hchange,
    ← Crc32.foldl_step_change (payload.take 2) (payload.drop 8) hlens 0xffffffff, ← hsplit, relayedAnswer,
    if_pos h]
  rfl

end Relay

/-- **When an answer reaches the console with a checksum that is right.**  For an answer of the pad whose
checksum is right: when it does not go to the console, when its address is left alone, or when the
difference between the address it carries and the one written over it leaves no remainder. -/
theorem relayed_answer_valid (r : Relay) {report : List UInt8}
    (hcrc : crcIsValid CRC_SEED_FEATURE report) :
    (∀ f ∈ (r.handleFeatureAnswerFromPad .toDualsense (HIDP_DATA_FEATURE :: report)).frames.drop
        r.frames.length, crcIsValid CRC_SEED_FEATURE (f.payload.drop 1))
      ↔ (r.ForwardsAnswer (HIDP_DATA_FEATURE :: report) →
          r.RewritesAddress (HIDP_DATA_FEATURE :: report) →
            (addressChange (HIDP_DATA_FEATURE :: report)
              (r.h .toDualsense).pairing.ps5SideAddr).foldl Crc32.step 0 = 0) := by
  have hmem := fun f ↦ r.mem_frames_answer (List.cons_ne_nil HIDP_DATA_FEATURE report) (f := f)
  constructor
  · intro h hforward hrewrite
    rw [← r.crcIsValid_relayedAnswer hcrc hrewrite]
    exact h _ ((hmem _).mpr ⟨hforward, rfl⟩)
  · rintro h f hf
    obtain ⟨hforward, rfl⟩ := (hmem f).mp hf
    by_cases hrewrite : r.RewritesAddress (HIDP_DATA_FEATURE :: report)
    · exact (r.crcIsValid_relayedAnswer hcrc hrewrite).mpr (h hforward hrewrite)
    · rw [relayedAnswer, if_neg hrewrite]
      exact hcrc

/-- The console has opened its control channel, and the pad is there. -/
def consoleControlOpen : Relay :=
  run step (.init .session) (Input.bothLinked ++ [.openChannel .toPlaystation 2 Channel.hidControl.psm 0x40])

/-- The pad's table of hosts, with its own address and its checksum. -/
def hostTable : List UInt8 :=
  appendCrc32 CRC_SEED_FEATURE (REPORT_PAIRING_LIST :: [1, 2, 3, 4, 5, 6] ++ List.replicate 35 0)

theorem relayed_answer_valid_own_address :
    crcIsValid CRC_SEED_FEATURE hostTable
      ∧ ∀ f ∈ (consoleControlOpen.handleFeatureAnswerFromPad .toDualsense
          (HIDP_DATA_FEATURE :: hostTable)).frames.drop consoleControlOpen.frames.length,
        crcIsValid CRC_SEED_FEATURE (f.payload.drop 1) :=
  have hcrc : crcIsValid CRC_SEED_FEATURE hostTable := by decide +kernel
  ⟨hcrc, (relayed_answer_valid consoleControlOpen hcrc).mpr fun _ _ ↦ by decide +kernel⟩

/-- The same from a pad that gives another address. -/
def otherAddress : List UInt8 :=
  appendCrc32 CRC_SEED_FEATURE (REPORT_PAIRING_LIST :: [1, 2, 3, 4, 5, 7] ++ List.replicate 35 0)

/-- The console is handed a checksum that is wrong. -/
theorem relayed_answer_valid_other_address :
    crcIsValid CRC_SEED_FEATURE otherAddress
      ∧ ∃ f ∈ (consoleControlOpen.step (.data .toDualsense 1 Channel.hidControl.scid
          (HIDP_DATA_FEATURE :: otherAddress))).frames.drop consoleControlOpen.frames.length,
        f.side = .toPlaystation ∧ f.cid = 0x40 ∧ ¬ crcIsValid CRC_SEED_FEATURE (f.payload.drop 1) := by
  decide +kernel

end DualSenseMitm
