import EquiJoin.Descriptor.Payload
import EquiJoin.Proofs.Json.Layout

/-!
# The two layouts of a descriptor

The compact text of a descriptor is a single line, and the other one is the same text with spaces
and line feeds between its tokens.  Both hold for every descriptor, whatever its references are and
whatever they hold (`layouts_agree`).
-/

set_option autoImplicit false

namespace EquiJoin.Descriptor

open Json

variable {T C : Type} [Reference T] [Reference C]

theorem bare_toPrettyJson (descriptor : Descriptor T C) :
    Zone.outside.bare (Utf8.encode descriptor.toPrettyJson) = Utf8.encode descriptor.toJson := by
  rw [toPrettyJson, toJson, bytes_encode, bytes_encode]
  exact ((Wire.document descriptor).denser_write airy_pretty 0 0).bare

theorem toJson_one_line (descriptor : Descriptor T C) :
    ∀ byte ∈ Utf8.encode descriptor.toJson, ¬ byte < 0x20 := by
  rw [toJson, bytes_encode]
  exact not_control_compact (Wire.document descriptor) 0

/-- A control is not left in the compact text, so it was layout of the other one. -/
theorem lineFeed_of_control {descriptor : Descriptor T C} {front rest : List UInt8} {byte : UInt8}
    (shape : Utf8.encode descriptor.toPrettyJson = front ++ byte :: rest)
    (control : byte < 0x20) : Zone.outside.after front = .outside ∧ byte = 0x0A := by
  have gone : byte ∉ Zone.outside.bare (front ++ byte :: rest) := by
    rw [← shape, bare_toPrettyJson]
    exact fun member => toJson_one_line descriptor byte member control
  obtain ⟨outside, rfl | feed⟩ := Zone.layout_of_not_mem_bare gone
  · exact absurd control (by decide)
  · exact ⟨outside, feed⟩

/-- The two texts of a descriptor hold one document, and what breaks the lines of the second is
its layout alone. -/
structure OneDocument (descriptor : Descriptor T C) : Prop where
  bare_toPrettyJson :
    Zone.outside.bare (Utf8.encode descriptor.toPrettyJson) = Utf8.encode descriptor.toJson
  toJsonBytes : descriptor.toJsonBytes = descriptor.toJson.toUTF8.data.toList
  toJson_one_line : ∀ byte ∈ Utf8.encode descriptor.toJson, ¬ byte < 0x20
  toPrettyJson_controls (front : List UInt8) (byte : UInt8) (rest : List UInt8) :
    Utf8.encode descriptor.toPrettyJson = front ++ byte :: rest → byte < 0x20 →
      Zone.outside.after front = .outside ∧ byte = 0x0A

theorem layouts_agree (descriptor : Descriptor T C) : OneDocument descriptor where
  bare_toPrettyJson := bare_toPrettyJson descriptor
  toJsonBytes := Utf8.encode_eq_toUTF8 descriptor.toJson
  toJson_one_line := toJson_one_line descriptor
  toPrettyJson_controls _ _ _ shape control := lineFeed_of_control shape control

end EquiJoin.Descriptor
