import DualSenseMitm.Lib.Bytes

/-!
# Reads that are checked

The readers of `Bytes` give zero behind the end of a string.  The readers here give nothing, so that a
computation made of them comes to a result only if every one of its reads is inside: `byte?`, `le16?` and
`slice?`, each with the two facts about where it reads.
-/

set_option autoImplicit false

namespace Bytes

/-- The byte at offset `i`, if it is inside. -/
def byte? (b : List UInt8) (i : ℕ) : Option UInt8 := b[i]?

/-- The little-endian field at offset `i`, if it is inside. -/
def le16? (b : List UInt8) (i : ℕ) : Option UInt16 := do
  let low ← byte? b i
  let high ← byte? b (i + 1)
  return UInt16.ofNat (low.toNat + 256 * high.toNat)

/-- The `n` bytes from offset `off` on, if they are all inside. -/
def slice? (b : List UInt8) : (off n : ℕ) → Option (List UInt8)
  | _, 0 => some []
  | off, n + 1 => do
    let x ← byte? b off
    let rest ← slice? b (off + 1) n
    return x :: rest

variable {b : List UInt8} {i off n : ℕ}

theorem byte?_of_lt (h : i < b.length) : byte? b i = some (byteAt b i) := by
  rw [byte?, byteAt, List.getD_eq_getElem?_getD, List.getElem?_eq_getElem h, Option.getD_some]

theorem byte?_of_le (h : b.length ≤ i) : byte? b i = none := List.getElem?_eq_none h

theorem le16?_of_lt (h : i + 1 < b.length) : le16? b i = some (le16 b i) := by
  rw [le16?, byte?_of_lt (Nat.lt_of_succ_lt h), byte?_of_lt h]
  rfl

theorem slice_succ (b : List UInt8) (off n : ℕ) :
    slice b off (n + 1) = byteAt b off :: slice b (off + 1) n := by
  rw [slice, slice, List.range_succ_eq_map, List.map_cons, List.map_map, Nat.add_zero]
  refine congrArg _ (List.map_congr_left fun i _ ↦ ?_)
  rw [Function.comp_apply, Nat.succ_eq_add_one, Nat.add_assoc, Nat.add_comm 1]

theorem slice?_of_le (h : off + n ≤ b.length) : slice? b off n = some (slice b off n) := by
  induction n generalizing off with
  | zero => rfl
  | succ n ih =>
    rw [slice?, byte?_of_lt (by omega), ih (by omega), slice_succ]
    rfl

/-- A slice that is inside is a piece of the string. -/
theorem slice_eq_take_drop (h : off + n ≤ b.length) : slice b off n = (b.drop off).take n := by
  refine List.ext_getElem (by simp; omega) fun i hi hi' ↦ ?_
  have hbyte : (slice b off n)[i] = byteAt b (off + i) := by simp [slice]
  rw [length_slice] at hi
  rw [hbyte, List.getElem_take, List.getElem_drop, byteAt, List.getD_eq_getElem?_getD,
    List.getElem?_eq_getElem (by omega), Option.getD_some]

/-- All the bytes. -/
theorem slice?_all : slice? b 0 b.length = some b := by
  rw [slice?_of_le (by omega), slice_eq_take_drop (by omega), List.drop_zero, List.take_length]

/-- All but the first. -/
theorem slice?_tail (h : b ≠ []) : slice? b 1 (b.length - 1) = some (b.drop 1) := by
  have hpos : 0 < b.length := List.length_pos_iff.mpr h
  rw [slice?_of_le (by omega), slice_eq_take_drop (by omega), ← List.length_drop, List.take_length]

/-- A loop over a list whose every round is inside. -/
theorem forM_eq_some {α : Type*} {l : List α} {f : α → Option Unit} (h : ∀ x ∈ l, f x = some ()) :
    l.forM f = some () := by
  induction l with
  | nil => rfl
  | cons x l ih =>
    have hrest : l.forM f = some () := ih fun y hy ↦ h y (List.mem_cons_of_mem x hy)
    rw [List.forM, h x List.mem_cons_self]
    exact hrest

end Bytes
