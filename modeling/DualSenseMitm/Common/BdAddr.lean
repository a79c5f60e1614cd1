import DualSenseMitm.Lib.Bytes

/-!
# Addresses and link keys as values

`bdaddr_t` is six bytes compared with `==`; all zeros is how "not known yet" is written throughout.
A link key is sixteen bytes, and its length is part of its type, so that a reply can never carry a
short one.
-/

set_option autoImplicit false

namespace DualSenseMitm

open Bytes

/-- `bdaddr_t`, least significant byte first. -/
structure BdAddr where
  b0 : UInt8 := 0
  b1 : UInt8 := 0
  b2 : UInt8 := 0
  b3 : UInt8 := 0
  b4 : UInt8 := 0
  b5 : UInt8 := 0
deriving DecidableEq, Repr

namespace BdAddr

/-- `addr_is_set`. -/
def isSet (a : BdAddr) : Bool := a != {}

/-- The six bytes from `off` on. -/
def read (bs : List UInt8) (off : ℕ) : BdAddr :=
  ⟨byteAt bs off, byteAt bs (off + 1), byteAt bs (off + 2), byteAt bs (off + 3),
    byteAt bs (off + 4), byteAt bs (off + 5)⟩

/-- The address as it stands in a packet. -/
def bytes (a : BdAddr) : List UInt8 := [a.b0, a.b1, a.b2, a.b3, a.b4, a.b5]

/-- Equal but for the first byte: the `memcmp` of the other five. -/
def sameRadio (a b : BdAddr) : Bool :=
  a.b1 == b.b1 && a.b2 == b.b2 && a.b3 == b.b3 && a.b4 == b.b4 && a.b5 == b.b5

theorem read_bytes_append (a : BdAddr) (rest : List UInt8) : read (a.bytes ++ rest) 0 = a := rfl

end BdAddr

/-- A link key: sixteen bytes. -/
def LinkKey : Type := { k : List UInt8 // k.length = 16 }
deriving DecidableEq

namespace LinkKey

/-- The sixteen bytes from `off` on. -/
def read (bs : List UInt8) (off : ℕ) : LinkKey := ⟨slice bs off 16, length_slice bs off 16⟩

/-- All zeros: what the console writes when it has no new key to give. -/
def zero : LinkKey := ⟨List.replicate 16 0, rfl⟩

/-- The loop over the key that looks for a byte that is set. -/
def allZero (k : LinkKey) : Bool := k.val.all (· == 0)

instance : Inhabited LinkKey := ⟨zero⟩

end LinkKey

end DualSenseMitm
