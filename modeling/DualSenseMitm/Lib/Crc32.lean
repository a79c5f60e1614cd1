import Mathlib.Algebra.Ring.Nat
import Mathlib.Data.List.Basic
import Mathlib.Logic.Function.Iterate

/-!
# CRC-32

The checksum zlib's `crc32` computes: reflected, polynomial `0xEDB88320`, complemented before and
after.  A checksum is taken of a string in pieces by passing the sum so far back in, which is what
`update_append` says.

Without the complements the remainder is linear in exclusive or (`foldl_step_xor`), and a remainder that
is not zero stays so (`shifts_eq_zero`).  What a change of a string does to its checksum is the
remainder of the difference.
-/

set_option autoImplicit false

namespace Crc32

/-- One bit of the division. -/
def shift (c : UInt32) : UInt32 := if c &&& 1 = 1 then (c >>> 1) ^^^ 0xEDB88320 else c >>> 1

/-- One byte of the division. -/
def step (c : UInt32) (b : UInt8) : UInt32 := shift^[8] (c ^^^ b.toUInt32)

/-- `crc32(crc, data, len)`: carries on from the sum `crc`. -/
def update (crc : UInt32) (data : List UInt8) : UInt32 := ~~~ (data.foldl step (~~~ crc))

theorem update_append (crc : UInt32) (a b : List UInt8) :
    update crc (a ++ b) = update (update crc a) b := by
  simp [update, List.foldl_append]

/-- The check value every description of the code gives: the sum of the digits one to nine. -/
example : update 0 [0x31, 0x32, 0x33, 0x34, 0x35, 0x36, 0x37, 0x38, 0x39] = 0xCBF43926 := by
  decide +kernel

/-! ## Linearity -/

theorem shift_of_even {c : UInt32} (h : c &&& 1 = 0) : shift c = c >>> 1 := by
  rw [shift, if_neg (by rw [h]; decide)]

theorem shift_of_odd {c : UInt32} (h : c &&& 1 = 1) : shift c = (c >>> 1) ^^^ 0xEDB88320 := if_pos h

theorem even_or_odd (c : UInt32) : c &&& 1 = 0 ∨ c &&& 1 = 1 := by
  have h : (c &&& 1).toNat = c.toNat % 2 := (UInt32.toNat_and c 1).trans (Nat.and_one_is_mod _)
  rcases Nat.mod_two_eq_zero_or_one c.toNat with h2 | h2
  · exact .inl (UInt32.toNat_inj.mp (h.trans h2))
  · exact .inr (UInt32.toNat_inj.mp (h.trans h2))

/-- **One bit of the division is linear.** -/
theorem shift_xor (a b : UInt32) : shift (a ^^^ b) = shift a ^^^ shift b := by
  have hbit : (a ^^^ b) &&& 1 = (a &&& 1) ^^^ (b &&& 1) := by
    rw [← UInt32.toNat_inj]
    simp only [UInt32.toNat_and, UInt32.toNat_xor, Nat.and_xor_distrib_right]
  have hdown : (a ^^^ b) >>> 1 = (a >>> 1) ^^^ (b >>> 1) := UInt32.shiftRight_xor
  rcases even_or_odd a with ha | ha <;> rcases even_or_odd b with hb | hb
  · rw [shift_of_even ha, shift_of_even hb, ← hdown]
    exact shift_of_even (by rw [hbit, ha, hb]; rfl)
  · rw [shift_of_even ha, shift_of_odd hb, ← UInt32.xor_assoc, ← hdown]
    exact shift_of_odd (by rw [hbit, ha, hb]; rfl)
  · rw [shift_of_odd ha, shift_of_even hb, UInt32.xor_assoc, UInt32.xor_comm 0xEDB88320,
      ← UInt32.xor_assoc, ← hdown]
    exact shift_of_odd (by rw [hbit, ha, hb]; rfl)
  · have hcancel : ∀ x y p : UInt32, x ^^^ p ^^^ (y ^^^ p) = x ^^^ y := by
      intro x y p
      calc x ^^^ p ^^^ (y ^^^ p) = x ^^^ y ^^^ (p ^^^ p) := by ac_rfl
        _ = x ^^^ y := by rw [UInt32.xor_self, UInt32.xor_zero]
    rw [shift_of_odd ha, shift_of_odd hb, hcancel, ← hdown]
    exact shift_of_even (by rw [hbit, ha, hb]; rfl)

/-- A remainder that is even only moves down. -/
theorem toNat_shift_of_even {c : UInt32} (h : c.toNat % 2 = 0) : (shift c).toNat = c.toNat / 2 := by
  have hbit : c &&& 1 = 0 := by
    rw [← UInt32.toNat_inj, UInt32.toNat_and]
    exact (Nat.and_one_is_mod _).trans h
  rw [shift_of_even hbit, UInt32.toNat_shiftRight]
  exact Nat.shiftRight_eq_div_pow _ 1

/-- Nothing but zero is divided away. -/
theorem shift_eq_zero {c : UInt32} (h : shift c = 0) : c = 0 := by
  rcases even_or_odd c with hc | hc
  · have heven : c.toNat % 2 = 0 := by
      rw [← Nat.and_one_is_mod]
      exact (UInt32.toNat_and c 1).symm.trans (congrArg UInt32.toNat hc)
    have hhalf := toNat_shift_of_even heven
    rw [h, UInt32.toNat_zero] at hhalf
    rw [← UInt32.toNat_inj, UInt32.toNat_zero]
    omega
  · rw [shift_of_odd hc, UInt32.xor_eq_zero_iff] at h
    have htop : (c >>> 1).toNat < 2 ^ 31 := by
      have hc := c.toNat_lt
      rw [UInt32.toNat_shiftRight, show ((1 : UInt32).toNat % 32) = 1 from rfl, Nat.shiftRight_eq_div_pow]
      omega
    rw [h] at htop
    exact absurd htop (by decide)

/-! ## Many bits -/

theorem shifts_xor (n : ℕ) (a b : UInt32) : shift^[n] (a ^^^ b) = shift^[n] a ^^^ shift^[n] b := by
  induction n generalizing a b with
  | zero => rfl
  | succ n ih => rw [Function.iterate_succ_apply, Function.iterate_succ_apply, Function.iterate_succ_apply,
      shift_xor, ih]

theorem shifts_eq_zero {n : ℕ} {c : UInt32} (h : shift^[n] c = 0) : c = 0 := by
  induction n generalizing c with
  | zero => exact h
  | succ n ih => exact shift_eq_zero (ih h)

theorem shifts_inj {n : ℕ} {a b : UInt32} (h : shift^[n] a = shift^[n] b) : a = b := by
  rw [← UInt32.xor_eq_zero_iff] at h ⊢
  exact shifts_eq_zero ((shifts_xor n a b).trans h)

/-- A remainder whose low bits are clear only moves down. -/
theorem toNat_shifts_of_clear {n m : ℕ} {c : UInt32} (h : c.toNat = m * 2 ^ n) :
    (shift^[n] c).toNat = m := by
  induction n generalizing c with
  | zero => simpa using h
  | succ n ih =>
    rw [Nat.pow_succ, ← Nat.mul_assoc] at h
    have heven : c.toNat % 2 = 0 := by rw [h]; exact Nat.mul_mod_left _ _
    rw [Function.iterate_succ_apply]
    refine ih ?_
    rw [toNat_shift_of_even heven, h]
    exact Nat.mul_div_cancel _ (by decide)

theorem xor_mod_two_pow (x n : ℕ) : x ^^^ (x % 2 ^ n) = x / 2 ^ n * 2 ^ n := by
  apply Nat.eq_of_testBit_eq
  intro i
  rw [Nat.testBit_xor, Nat.testBit_mod_two_pow, Nat.testBit_mul_two_pow, Nat.testBit_div_two_pow]
  by_cases hi : n ≤ i
  · simp [hi, Nat.not_lt.mpr hi]
  · simp [hi, Nat.not_le.mp hi]

/-- Eight bits of a remainder: those of its low byte, and the rest of it moved down. -/
theorem shifts_eight (x : UInt32) : shift^[8] x = shift^[8] x.toUInt8.toUInt32 ^^^ (x >>> 8) := by
  have hhigh : (x ^^^ x.toUInt8.toUInt32).toNat = x.toNat / 2 ^ 8 * 2 ^ 8 :=
    (UInt32.toNat_xor _ _).trans (xor_mod_two_pow x.toNat 8)
  have hdown : shift^[8] (x ^^^ x.toUInt8.toUInt32) = x >>> 8 := by
    rw [← UInt32.toNat_inj, toNat_shifts_of_clear hhigh, UInt32.toNat_shiftRight]
    exact (Nat.shiftRight_eq_div_pow _ 8).symm
  rw [← hdown, ← shifts_xor, UInt32.xor_comm x, ← UInt32.xor_assoc, UInt32.xor_self, UInt32.zero_xor]

/-! ## Strings -/

theorem foldl_step_xor {a b : List UInt8} (h : a.length = b.length) (c d : UInt32) :
    (List.zipWith (· ^^^ ·) a b).foldl step (c ^^^ d) = a.foldl step c ^^^ b.foldl step d := by
  induction a generalizing b c d with
  | nil =>
    rw [List.length_nil, eq_comm, List.length_eq_zero_iff] at h
    rw [h]
    rfl
  | cons x a ih =>
    cases b with
    | nil => cases h
    | cons y b =>
      have hstep : step (c ^^^ d) (x ^^^ y) = step c x ^^^ step d y := by
        rw [step, step, step, ← shifts_xor, UInt8.toUInt32_xor]
        congr 1
        ac_rfl
      rw [List.zipWith_cons_cons, List.foldl_cons, List.foldl_cons, List.foldl_cons, hstep]
      exact ih (Nat.succ.inj h) _ _

theorem foldl_step_replicate (n : ℕ) (c : UInt32) :
    (List.replicate n 0).foldl step c = shift^[8 * n] c := by
  induction n generalizing c with
  | zero => rfl
  | succ n ih =>
    have hzero : c ^^^ (0 : UInt8).toUInt32 = c := UInt32.xor_zero
    have hstep : step c 0 = shift^[8] c := by rw [step, hzero]
    rw [List.replicate_succ, List.foldl_cons, ih, hstep, Nat.mul_succ, Function.iterate_add_apply]

/-- Whatever comes behind two remainders that differ, they still differ. -/
theorem foldl_step_inj (a : List UInt8) {c d : UInt32} : a.foldl step c = a.foldl step d ↔ c = d := by
  have hzeros : List.zipWith (· ^^^ ·) a a = List.replicate a.length 0 := by
    rw [List.zipWith_self, List.map_congr_left fun x _ ↦ UInt8.xor_self, List.map_const']
  constructor
  · intro h
    have hfold := foldl_step_xor (a := a) rfl c d
    rw [h, UInt32.xor_self, hzeros, foldl_step_replicate] at hfold
    exact UInt32.xor_eq_zero_iff.mp (shifts_eq_zero hfold)
  · rintro rfl
    rfl

/-- **What a change of a string does to its checksum.**  Nothing, exactly when the difference leaves
no remainder. -/
theorem foldl_step_change (pre post : List UInt8) {a b : List UInt8} (h : a.length = b.length)
    (c : UInt32) :
    (pre ++ b ++ post).foldl step c = (pre ++ a ++ post).foldl step c
      ↔ (List.zipWith (· ^^^ ·) a b).foldl step 0 = 0 := by
  have hdiff := foldl_step_xor h (pre.foldl step c) (pre.foldl step c)
  rw [UInt32.xor_self] at hdiff
  rw [List.foldl_append, List.foldl_append, List.foldl_append, List.foldl_append, foldl_step_inj, hdiff,
    UInt32.xor_eq_zero_iff]
  exact eq_comm

end Crc32
