import Mathlib.Data.List.Basic

/-!
# Items with a type and a length

A list of options on a wire: each is its type, the number of its value bytes, and these.  What is written
reads back in one way only (`Item.bytes_append_inj`), so bytes that are a sequence of whole items and begin
another sequence are its first items.
-/

set_option autoImplicit false

namespace Tlv

/-- An item whose length fits its field. -/
structure Item where
  kind : UInt8
  value : List UInt8
  size : value.length < 256

/-- The bytes of an item. -/
def Item.bytes (o : Item) : List UInt8 := o.kind :: UInt8.ofNat o.value.length :: o.value

/-- The bytes of a list of items. -/
def encode (os : List Item) : List UInt8 := os.flatMap Item.bytes

/-- These bytes are a sequence of whole items, each of them one of these. -/
def WholeOf (b : List UInt8) (os : List Item) : Prop :=
  ∃ items, b = encode items ∧ ∀ o ∈ items, o ∈ os

@[simp] theorem encode_nil : encode [] = [] := rfl

@[simp] theorem encode_cons (o : Item) (os : List Item) : encode (o :: os) = o.bytes ++ encode os := rfl

@[simp] theorem length_bytes (o : Item) : o.bytes.length = 2 + o.value.length := by
  rw [Item.bytes, List.length_cons, List.length_cons]
  omega

/-- An item and what follows it are told apart by its length. -/
theorem bytes_append_inj {o p : Item} {a b : List UInt8} (h : o.bytes ++ a = p.bytes ++ b) :
    o = p ∧ a = b := by
  obtain ⟨k, v, hv⟩ := o
  obtain ⟨k', v', hv'⟩ := p
  simp only [Item.bytes, List.cons_append, List.cons.injEq] at h
  obtain ⟨rfl, hlen, hrest⟩ := h
  have hsame : v.length = v'.length := by
    have hnat := congrArg UInt8.toNat hlen
    rwa [UInt8.toNat_ofNat', UInt8.toNat_ofNat', Nat.mod_eq_of_lt hv, Nat.mod_eq_of_lt hv'] at hnat
  obtain ⟨rfl, rfl⟩ := List.append_inj hrest hsame
  exact ⟨rfl, rfl⟩

theorem length_encode_cons (o : Item) (os : List Item) :
    (encode (o :: os)).length = 2 + o.value.length + (encode os).length := by
  rw [encode_cons, List.length_append, length_bytes]

end Tlv
