import Mathlib.Data.List.Basic
import Mathlib.Data.Nat.Init

/-!
# Little-endian fields of a byte string

Structures on a wire are read at fixed offsets of a byte string.  `byteAt` and `le16` read a byte
and a 16-bit field, `put16` writes one; reading back what was written at the front is
`le16_put16_append`, and `le16_append_right` steps past a field.  `slice` copies bytes out and
`overwrite` copies them in.

A read past the end gives zero bytes.  Nothing that checks its lengths depends on it.
-/

set_option autoImplicit false

namespace Bytes

/-- The byte at offset `i`. -/
def byteAt (b : List UInt8) (i : ℕ) : UInt8 := b.getD i 0

/-- The little-endian 16-bit field at offset `i`. -/
def le16 (b : List UInt8) (i : ℕ) : UInt16 :=
  UInt16.ofNat ((byteAt b i).toNat + 256 * (byteAt b (i + 1)).toNat)

/-- A 16-bit field, low byte first. -/
def put16 (x : UInt16) : List UInt8 := [UInt8.ofNat x.toNat, UInt8.ofNat (x.toNat / 256)]

/-- The `n` bytes from offset `off` on. -/
def slice (b : List UInt8) (off n : ℕ) : List UInt8 := (List.range n).map fun i ↦ byteAt b (off + i)

/-- The bytes of `src` copied over those of `b` from offset `off` on. -/
def overwrite (b : List UInt8) (off : ℕ) (src : List UInt8) : List UInt8 :=
  b.take off ++ src ++ b.drop (off + src.length)

@[simp] theorem length_slice (b : List UInt8) (off n : ℕ) : (slice b off n).length = n := by
  simp [slice]

theorem length_overwrite {b src : List UInt8} {off : ℕ} (h : off + src.length ≤ b.length) :
    (overwrite b off src).length = b.length := by
  simp only [overwrite, List.length_append, List.length_take, List.length_drop]
  omega

theorem byteAt_overwrite_of_lt {b src : List UInt8} {off i : ℕ} (hi : i < off) (hoff : off ≤ b.length) :
    byteAt (overwrite b off src) i = byteAt b i := by
  rw [byteAt, byteAt, List.getD_eq_getElem?_getD, List.getD_eq_getElem?_getD, overwrite, List.append_assoc,
    List.getElem?_append_left (by rw [List.length_take]; omega), List.getElem?_take_of_lt hi]

@[simp] theorem length_put16 (x : UInt16) : (put16 x).length = 2 := rfl

@[simp] theorem byteAt_cons_zero (x : UInt8) (b : List UInt8) : byteAt (x :: b) 0 = x := rfl

@[simp] theorem byteAt_cons_succ (x : UInt8) (b : List UInt8) (i : ℕ) :
    byteAt (x :: b) (i + 1) = byteAt b i := rfl

theorem byteAt_append_right (a b : List UInt8) (i : ℕ) :
    byteAt (a ++ b) (a.length + i) = byteAt b i := by
  simp [byteAt, List.getD_eq_getElem?_getD, List.getElem?_append_right]

theorem byteAt_take {b : List UInt8} {n i : ℕ} (h : i < n) : byteAt (b.take n) i = byteAt b i := by
  simp [byteAt, List.getD_eq_getElem?_getD, h]

theorem le16_take {b : List UInt8} {n i : ℕ} (h : i + 1 < n) : le16 (b.take n) i = le16 b i := by
  rw [le16, le16, byteAt_take (Nat.lt_of_succ_lt h), byteAt_take h]

theorem le16_congr {a b : List UInt8} {i : ℕ} (h : a <+: b) (hi : i + 1 < a.length) :
    le16 a i = le16 b i := by
  rw [List.prefix_iff_eq_take.mp h]
  exact le16_take hi

theorem le16_append_right (a b : List UInt8) (i : ℕ) :
    le16 (a ++ b) (a.length + i) = le16 b i := by
  rw [le16, le16, Nat.add_assoc, byteAt_append_right, byteAt_append_right]

@[simp] theorem le16_put16_append (x : UInt16) (b : List UInt8) : le16 (put16 x ++ b) 0 = x := by
  have hx := x.toNat_lt
  rw [← UInt16.toNat_inj]
  simp only [le16, put16, List.cons_append, List.nil_append, byteAt_cons_zero, byteAt_cons_succ,
    UInt16.toNat_ofNat', UInt8.toNat_ofNat']
  omega

@[simp] theorem le16_put16 (x : UInt16) : le16 (put16 x) 0 = x := by
  simpa using le16_put16_append x []

end Bytes
