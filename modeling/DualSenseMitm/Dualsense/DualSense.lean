import DualSenseMitm.Lib.Bytes
import DualSenseMitm.Lib.Crc32

/-!
# The DualSense wire protocol

Report identifiers, sizes and checksum seeds shared by the USB and the Bluetooth side.
-/

set_option autoImplicit false

namespace DualSenseMitm

open Bytes

/-! ## HIDP transaction headers -/

def HIDP_DATA_INPUT : UInt8 := 0xa1
def HIDP_DATA_OUTPUT : UInt8 := 0xa2
def HIDP_DATA_FEATURE : UInt8 := 0xa3
def HIDP_GET_FEATURE : UInt8 := 0x43
def HIDP_SET_FEATURE : UInt8 := 0x53

/-! ## Checksum seeds -/

def CRC_SEED_FEATURE : UInt8 := 0xa3
def CRC_SEED_OUTPUT : UInt8 := 0xa2
def CRC_SEED_SET_FEATURE : UInt8 := 0x53

/-! ## Report identifiers -/

def REPORT_INPUT_USB : UInt8 := 0x01
def REPORT_BT : UInt8 := 0x31
def REPORT_INPUT_BT_BASIC : UInt8 := 0x01
def REPORT_CALIBRATION : UInt8 := 0x05
def REPORT_PAIRING_INFO : UInt8 := 0x09
def REPORT_PAIRING_LIST : UInt8 := 0x0b
def REPORT_PAIRING_SET : UInt8 := 0x0a
def REPORT_TRANSPORT : UInt8 := 0x08
def REPORT_FIRMWARE : UInt8 := 0x20
def TRANSPORT_UNPAIR : UInt8 := 0x02

/-! ## Sizes -/

def INPUT_USB_SIZE : ℕ := 64
def INPUT_BT_SIZE : ℕ := 78
def OUTPUT_BT_SIZE : ℕ := 78
def OUTPUT_COMMON_SIZE : ℕ := 47
def OUTPUT_TAG : UInt8 := 0x10
def INPUT_BODY_LEN : ℕ := 63
def INPUT_BODY_OFF_USB : ℕ := 1
def INPUT_BODY_OFF_BT : ℕ := 2
def STATUS_OFF : ℕ := 52
def STATUS_CHARGING_CHARGING : UInt8 := 0x1
def STATUS_CHARGING_FULL : UInt8 := 0x2

/-- `feature_report_size`: the declared size of a feature report with its identifier, zero for a
report that is not known. -/
def featureReportSize (reportId : UInt8) : ℕ :=
  match reportId with
  | 0x05 => 41
  | 0x08 => 48
  | 0x09 => 20
  | 0x0a => 27
  | 0x0b => 42
  | 0x0c => 42
  | 0x20 => 64
  | 0x21 => 5
  | 0x22 => 64
  | 0x80 => 64
  | 0x81 => 64
  | 0x82 => 10
  | 0x83 => 64
  | 0x84 => 64
  | 0x85 => 3
  | 0xa0 => 2
  | 0xe0 => 64
  | 0xf0 => 64
  | 0xf1 => 64
  | 0xf2 => 16
  | 0xf4 => 64
  | 0xf5 => 4
  | _ => 0

/-- `crc32_seeded`: the sum of the seed and then the data. -/
def crc32Seeded (seed : UInt8) (data : List UInt8) : UInt32 :=
  Crc32.update (Crc32.update (Crc32.update 0 []) [seed]) data

/-- A 32-bit field, low byte first. -/
def put32 (x : UInt32) : List UInt8 :=
  [x.toUInt8, (x >>> 8).toUInt8, (x >>> 16).toUInt8, (x >>> 24).toUInt8]

/-- `append_crc32`: the last four bytes of a complete report become its checksum. -/
def appendCrc32 (seed : UInt8) (report : List UInt8) : List UInt8 :=
  overwrite report (report.length - 4)
    (put32 (crc32Seeded seed (report.take (report.length - 4))))

/-- The last four bytes of a complete report are its checksum. -/
def crcIsValid (seed : UInt8) (report : List UInt8) : Prop :=
  4 ≤ report.length ∧
    report.drop (report.length - 4) = put32 (crc32Seeded seed (report.take (report.length - 4)))

instance (seed : UInt8) (report : List UInt8) : Decidable (crcIsValid seed report) :=
  inferInstanceAs (Decidable (_ ∧ _))

/-- `is_cacheable_feature`. -/
def isCacheableFeature (reportId : UInt8) : Bool :=
  reportId == REPORT_CALIBRATION || reportId == REPORT_PAIRING_INFO || reportId == REPORT_FIRMWARE

/-! ## Checksums that are right -/

section checksums

open Crc32

/-- A seeded sum is that of the seed and the data as one string. -/
theorem crc32Seeded_eq (seed : UInt8) (data : List UInt8) :
    crc32Seeded seed data = update 0 (seed :: data) := (update_append 0 [seed] data).symm

theorem step_toUInt8 (c x : UInt32) : step c x.toUInt8 = shift^[8] (c ^^^ x) ^^^ (x >>> 8) := by
  rw [step, shifts_xor, shifts_xor, shifts_eight x, UInt32.xor_assoc, UInt32.xor_assoc, UInt32.xor_self,
    UInt32.xor_zero]

theorem foldl_step_put32 (c x : UInt32) : (put32 x).foldl step c = shift^[32] (c ^^^ x) := by
  have hnext : ∀ y z : UInt32, step (y ^^^ z) z.toUInt8 = shift^[8] y ^^^ (z >>> 8) := by
    intro y z
    rw [step_toUInt8, UInt32.xor_assoc, UInt32.xor_self, UInt32.xor_zero]
  have h16 : x >>> 8 >>> 8 = x >>> 16 := UInt32.toBitVec_inj.mp (BitVec.shiftRight_add _ 8 8).symm
  have h24 : x >>> 16 >>> 8 = x >>> 24 := UInt32.toBitVec_inj.mp (BitVec.shiftRight_add _ 16 8).symm
  have h32 : x >>> 24 >>> 8 = 0 := by
    refine UInt32.toBitVec_inj.mp ((BitVec.shiftRight_add _ 24 8).symm.trans ?_)
    exact BitVec.ushiftRight_eq_zero (by decide)
  show step (step (step (step c x.toUInt8) (x >>> 8).toUInt8) (x >>> 16).toUInt8) (x >>> 24).toUInt8 = _
  rw [step_toUInt8 c x, hnext, h16, hnext, h24, hnext, h32, UInt32.xor_zero, ← Function.iterate_add_apply,
    ← Function.iterate_add_apply, ← Function.iterate_add_apply]

theorem put32_surjective (b₀ b₁ b₂ b₃ : UInt8) : ∃ x, put32 x = [b₀, b₁, b₂, b₃] := by
  have h₀ := b₀.toNat_lt
  have h₁ := b₁.toNat_lt
  have h₂ := b₂.toNat_lt
  have h₃ := b₃.toNat_lt
  refine ⟨UInt32.ofNat (b₀.toNat + 2 ^ 8 * b₁.toNat + 2 ^ 16 * b₂.toNat + 2 ^ 24 * b₃.toNat), ?_⟩
  simp only [put32, List.cons.injEq, and_true, ← UInt8.toNat_inj, UInt32.toNat_toUInt8, UInt32.toNat_shiftRight,
    UInt32.toNat_ofNat', Nat.shiftRight_eq_div_pow, UInt32.reduceToNat, Nat.reduceMod]
  omega

theorem put32_injective {x y : UInt32} (h : put32 x = put32 y) : x = y := by
  have hfold := foldl_step_put32 0 x
  rw [h, foldl_step_put32, UInt32.zero_xor, UInt32.zero_xor] at hfold
  exact (shifts_inj hfold).symm

/-- What is left of a string that ends in its own checksum. -/
def residue : UInt32 := shift^[32] 0xffffffff

/-- **A report with its checksum is one that leaves the residue.** -/
theorem crcIsValid_iff {seed : UInt8} {report : List UInt8} (h : 4 ≤ report.length) :
    crcIsValid seed report ↔ (seed :: report).foldl step 0xffffffff = residue := by
  obtain ⟨b₀, b₁, b₂, b₃, htail⟩ : ∃ b₀ b₁ b₂ b₃, report.drop (report.length - 4) = [b₀, b₁, b₂, b₃] :=
    List.length_eq_four.mp (by rw [List.length_drop]; omega)
  obtain ⟨x, hx⟩ := put32_surjective b₀ b₁ b₂ b₃
  have hreport : report = report.take (report.length - 4) ++ put32 x := by
    rw [hx, ← htail, List.take_append_drop]
  rw [crcIsValid, and_iff_right h, crc32Seeded_eq, htail, ← hx]
  generalize report.take (report.length - 4) = body at hreport
  have hsum : update 0 (seed :: body) = ~~~ (seed :: body).foldl step 0xffffffff := rfl
  rw [hreport, hsum, ← List.cons_append, List.foldl_append, foldl_step_put32, residue]
  generalize (seed :: body).foldl step 0xffffffff = c
  have hall : c ^^^ ~~~ c = 0xffffffff := UInt32.xor_not.trans (congrArg _ UInt32.xor_self)
  constructor
  · intro hput
    rw [put32_injective hput, hall]
  · intro hres
    rw [(UInt32.xor_right_inj c).mp ((shifts_inj hres).trans hall.symm)]

end checksums

end DualSenseMitm
