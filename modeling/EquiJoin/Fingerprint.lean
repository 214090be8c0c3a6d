import EquiJoin.Utf8

/-!
# Fingerprints

The bytes that tell two values of a type apart.  Every part of a value is written so that its end
can be told from the bytes alone: a text ends in a byte that UTF-8 never uses, a list begins with
its length, and the other parts have a fixed width. -/

set_option autoImplicit false

namespace EquiJoin

def littleEndian : (width : Nat) → Nat → List UInt8
  | 0, _ => []
  | width + 1, number => UInt8.ofNat (number % 256) :: littleEndian width (number / 256)

def word (number : Nat) : List UInt8 := littleEndian 8 number

class Fingerprint (α : Type) where
  fingerprint : α → List UInt8

export Fingerprint (fingerprint)

/-- A text is followed by a byte that occurs in no text. -/
instance : Fingerprint String := ⟨fun text => Utf8.encode text ++ [0xFF]⟩

instance {α : Type} [Fingerprint α] : Fingerprint (List α) :=
  ⟨fun items => word items.length ++ items.flatMap fingerprint⟩

instance : Fingerprint UInt32 := ⟨fun number => littleEndian 4 number.toNat⟩

end EquiJoin
