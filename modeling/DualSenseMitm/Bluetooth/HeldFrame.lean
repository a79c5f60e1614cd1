import DualSenseMitm.Dualsense.DualSense

/-!
# The one report held back

`HeldFrame` is the single slot for the input report that found no buffer free.  A newer report
overwrites the held one; a report that does not fit empties the slot.
-/

set_option autoImplicit false

namespace DualSenseMitm

/-- The slot: the bytes held, never more than a report and its HIDP header, and none when nothing
is held. -/
structure HeldFrame where
  /-- The bytes held. -/
  view : List UInt8 := []
  /-- They fit the buffer. -/
  fits : view.length ≤ 1 + INPUT_BT_SIZE := by decide

namespace HeldFrame

/-- The slot after `clear`. -/
def empty : HeldFrame := {}

/-- `store`: refuses rather than truncates. -/
def store (r : List UInt8) (_ : HeldFrame) : HeldFrame :=
  if h : r.length ≤ 1 + INPUT_BT_SIZE then ⟨r, h⟩ else empty

/-- `clear`. -/
def clear (_ : HeldFrame) : HeldFrame := empty

/-- `valid`. -/
def valid (h : HeldFrame) : Bool := h.view.length != 0

@[simp] theorem valid_empty : empty.valid = false := rfl
@[simp] theorem valid_clear (h : HeldFrame) : h.clear.valid = false := rfl

theorem view_store {r : List UInt8} (h : HeldFrame) (hr : r.length ≤ 1 + INPUT_BT_SIZE) :
    (h.store r).view = r := by
  rw [store, dif_pos hr]

theorem store_of_lt {r : List UInt8} (h : HeldFrame) (hr : 1 + INPUT_BT_SIZE < r.length) :
    h.store r = empty := by
  rw [store, dif_neg (Nat.not_le.mpr hr)]

end HeldFrame

end DualSenseMitm
