import EquiJoin.Proofs.Descriptor.Payload
import EquiJoin.Proofs.Json.Document
import EquiJoin.Proofs.Json.RecordTruncation

/-!
# Descriptors that are cut off

Wherever the text of a descriptor is cut, in the middle of a character as well as between two
tokens, decoding what is left of it reports the end of the payload and nothing else, at the place
behind the last byte that arrived (`truncation_detected`).
-/

set_option autoImplicit false

namespace EquiJoin

open Json

theorem TableHandle.truncates : (inferInstance : Wire TableHandle).Truncates :=
  format.record_truncates (fun _ => text_lawful) fun _ => text_truncates

theorem ColumnHandle.member_truncates (member : Member) : (format.wire member).Truncates := by
  cases member with
  | connectorId | tableName | columnName => exact text_truncates
  | columnType => exact named_truncates
  | logicalOrdinal => exact ordinal_truncates

theorem ColumnHandle.truncates : (inferInstance : Wire ColumnHandle).Truncates :=
  format.record_truncates member_lawful member_truncates

namespace Descriptor

variable {T C : Type} [table : Reference T] [column : Reference C]
  {TableText : List UInt8 → T → Prop} {ColumnText : List UInt8 → C → Prop}

theorem member_truncates (columnLawful : column.toWire.Lawful ColumnText)
    (tableTruncates : table.toWire.Truncates) (columnTruncates : column.toWire.Truncates)
    (member : Member) : ((format T C).wire member).Truncates := by
  cases member with
  | leftTable | rightTable => exact tableTruncates
  | leftKeyColumn | rightKeyColumn => exact columnTruncates
  | leftJoinedColumns | rightJoinedColumns => exact list_truncates columnLawful columnTruncates
  | includeKeyColumns => exact flag_truncates
  | buildSide | joinType => exact named_truncates

/-- The payload is refused for want of more, and behind its last byte. -/
def EndsEarly (T C : Type) [Reference T] [Reference C] (payload : List UInt8) : Prop :=
  ∃ report, (ofJsonBytes payload : Except Malformed (Descriptor T C)) = .error report ∧
    (∃ rest, report.message = "EOF while parsing" ++ rest) ∧
      report.place = Place.behind payload

theorem endsEarly_of_starves {payload : List UInt8}
    (starves : Starves ((format T C).read payload)) : EndsEarly T C payload := by
  obtain ⟨cause, wants, refused⟩ := @decode_of_starves (Descriptor T C) _ payload starves
  obtain ⟨kind, message⟩ := Cause.message_of_wanting wants
  refine ⟨_, refused, ?_, rfl⟩
  rw [Malformed.message, message]
  simp only [toString, String.append_assoc]
  exact ⟨_, rfl⟩

theorem endsEarly_take (tableLawful : table.toWire.Lawful TableText)
    (columnLawful : column.toWire.Lawful ColumnText) (tableTruncates : table.toWire.Truncates)
    (columnTruncates : column.toWire.Truncates) {layout : Layout} (blank : layout.Blank)
    (descriptor : Descriptor T C) {length : Nat}
    (short : length < (Utf8.encode (encode layout descriptor)).length) :
    EndsEarly T C ((Utf8.encode (encode layout descriptor)).take length) := by
  have written : (format T C).toWire.Writes (Utf8.encode (encode layout descriptor)) descriptor :=
    ⟨layout, 0, blank, bytes_encode layout descriptor⟩
  have starves := (format T C).starves_read (member_lawful tableLawful columnLawful)
    (member_truncates columnLawful tableTruncates columnTruncates) blanks_nil written
    (cut_take short)
  exact endsEarly_of_starves starves

/-- The compact text is a single line, of which a front part is as many columns as it has bytes. -/
theorem place_behind_take (descriptor : Descriptor T C) {length : Nat}
    (short : length < descriptor.toJsonBytes.length) :
    Place.behind (descriptor.toJsonBytes.take length) = ⟨1, length⟩ := by
  have oneLine : 0x0A ∉ descriptor.toJsonBytes.take length := by
    intro member
    have listed := List.mem_of_mem_take member
    rw [toJsonBytes, toJson, bytes_encode] at listed
    exact not_control_compact _ 0 _ listed (by decide)
  rw [place_behind_of_one_line oneLine, List.length_take_of_le (Nat.le_of_lt short)]

/-- Over these references, whatever arrives of what is sent is refused for want of the rest. -/
structure DetectsTruncation (T C : Type) [Reference T] [Reference C] : Prop where
  toJsonBytes (descriptor : Descriptor T C) (length : Nat) :
    length < descriptor.toJsonBytes.length →
      EndsEarly T C (descriptor.toJsonBytes.take length) ∧
        Place.behind (descriptor.toJsonBytes.take length) = ⟨1, length⟩
  toPrettyJson (descriptor : Descriptor T C) (length : Nat) :
    length < (Utf8.encode descriptor.toPrettyJson).length →
      EndsEarly T C ((Utf8.encode descriptor.toPrettyJson).take length)

theorem detectsTruncation_of_lawful (tableLawful : table.toWire.Lawful TableText)
    (columnLawful : column.toWire.Lawful ColumnText) (tableTruncates : table.toWire.Truncates)
    (columnTruncates : column.toWire.Truncates) : DetectsTruncation T C where
  toJsonBytes descriptor _ short :=
    ⟨endsEarly_take tableLawful columnLawful tableTruncates columnTruncates blank_compact
      descriptor short, place_behind_take descriptor short⟩
  toPrettyJson descriptor _ short :=
    endsEarly_take tableLawful columnLawful tableTruncates columnTruncates blank_pretty
      descriptor short

/-- Of a descriptor that is sent in either layout, over bare names as over handles, every front
part is refused with the end of the payload as the cause and as the place. -/
theorem truncation_detected :
    DetectsTruncation String String ∧ DetectsTruncation TableHandle ColumnHandle := by
  constructor
  · exact detectsTruncation_of_lawful text_lawful text_lawful text_truncates text_truncates
  · exact detectsTruncation_of_lawful TableHandle.lawful ColumnHandle.lawful
      TableHandle.truncates ColumnHandle.truncates

end Descriptor

end EquiJoin
