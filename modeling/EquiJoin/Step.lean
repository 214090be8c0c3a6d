import EquiJoin.Descriptor.Payload

/-!
# Transformations

The ways in which a descriptor is turned into another one: it is rearranged, or it is sent and read
back.  A step that yields no descriptor leaves the current one in place. -/

set_option autoImplicit false

namespace EquiJoin

inductive Delivery where
  | json
  | prettyJson
  | jsonBytes
  /-- As the bytes of the compact text, of which only so many arrive. -/
  | truncated (length : Nat)

inductive Step where
  | commute
  | withBuildSide (side : BuildSide)
  | deliver (delivery : Delivery)

inductive Outcome (T C : Type) where
  | descriptor (result : Descriptor T C)
  | absent
  | malformed (report : Json.Malformed)

namespace Outcome

variable {T C : Type}

def ofOption : Option (Descriptor T C) → Outcome T C
  | some result => .descriptor result
  | none => .absent

def ofDecoded : Except Json.Malformed (Descriptor T C) → Outcome T C
  | .ok result => .descriptor result
  | .error report => .malformed report

def after (current : Descriptor T C) : Outcome T C → Descriptor T C
  | .descriptor result => result
  | .absent | .malformed _ => current

end Outcome

variable {T C : Type} [Reference T] [Reference C]

def Delivery.payload (descriptor : Descriptor T C) : Delivery → List UInt8
  | .json => Utf8.encode descriptor.toJson
  | .prettyJson => Utf8.encode descriptor.toPrettyJson
  | .jsonBytes => descriptor.toJsonBytes
  | .truncated length => descriptor.toJsonBytes.take length

namespace Step

def apply (descriptor : Descriptor T C) : Step → Outcome T C
  | .commute => .ofOption descriptor.commute
  | .withBuildSide side => .descriptor (descriptor.withBuildSide side)
  | .deliver delivery => .ofDecoded (Descriptor.ofJsonBytes (delivery.payload descriptor))

def run (descriptor : Descriptor T C) (steps : List Step) : Descriptor T C :=
  steps.foldl (fun current step => (step.apply current).after current) descriptor

end Step

end EquiJoin
