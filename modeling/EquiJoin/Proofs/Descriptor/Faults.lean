import EquiJoin.Descriptor.Payload
import EquiJoin.Proofs.Descriptor.Form
import EquiJoin.Proofs.Json.RecordFaults

/-!
# Which fault is reported

A payload whose parts are well formed may still lack a member of a descriptor, or have one twice.
The first such fault in the payload decides how it is refused, whatever stands behind it, and so
does the first one in a table handle or in a column handle, wherever the descriptor has it
(`structure_decides`).
-/

set_option autoImplicit false

namespace EquiJoin

open Json
open Utf8 (ofChars)

abbrev TableHandle.MemberText (_ : Member) : List UInt8 → String → Prop := TextLiteral

namespace Descriptor

/-- What stands in a record of handles in front of the value of a member. -/
def Reaches : List UInt8 → Member → Prop :=
  (format TableHandle ColumnHandle).LeadsTo (MemberText TableHandle.Text ColumnHandle.Text)

inductive AheadOfTable : List UInt8 → Prop where
  | table {blanks front : List UInt8} {member : Member} :
      Blanks blanks → Reaches front member → member = .leftTable ∨ member = .rightTable →
        AheadOfTable (blanks ++ front)

/-- What stands in a payload in front of a column handle: it may be a key column, or a joined column
behind any number of others. -/
inductive AheadOfColumn : List UInt8 → Prop where
  | key {blanks front : List UInt8} {member : Member} :
      Blanks blanks → Reaches front member →
        member = .leftKeyColumn ∨ member = .rightKeyColumn → AheadOfColumn (blanks ++ front)
  | joined {blanks front others : List UInt8} {member : Member} {columns : List ColumnHandle} :
      Blanks blanks → Reaches front member →
        member = .leftJoinedColumns ∨ member = .rightJoinedColumns →
          Onward ColumnHandle.Text true others columns →
            AheadOfColumn (blanks ++ (front ++ 0x5B :: others))

theorem defers_of_reaches {front : List UInt8} {member : Member} (reaches : Reaches front member) :
    (format TableHandle ColumnHandle).toWire.reader.Defers front
      ((format TableHandle ColumnHandle).wire member).reader :=
  RecordFormat.defers_record (fun member =>
    (member_lawful TableHandle.lawful ColumnHandle.lawful member).toExact) reaches

theorem AheadOfTable.defers {ahead : List UInt8} (table : AheadOfTable ahead) :
    ∃ blanks front, Blanks blanks ∧ ahead = blanks ++ front ∧
      (format TableHandle ColumnHandle).toWire.reader.Defers front
        TableHandle.format.toWire.reader := by
  cases table with
  | table blank reaches place =>
      rcases place with rfl | rfl
      · exact ⟨_, _, blank, rfl, defers_of_reaches reaches⟩
      · exact ⟨_, _, blank, rfl, defers_of_reaches reaches⟩

theorem AheadOfColumn.defers {ahead : List UInt8} (column : AheadOfColumn ahead) :
    ∃ blanks front, Blanks blanks ∧ ahead = blanks ++ front ∧
      (format TableHandle ColumnHandle).toWire.reader.Defers front
        ColumnHandle.format.toWire.reader := by
  cases column with
  | key blank reaches place =>
      rcases place with rfl | rfl
      · exact ⟨_, _, blank, rfl, defers_of_reaches reaches⟩
      · exact ⟨_, _, blank, rfl, defers_of_reaches reaches⟩
  | joined blank reaches place onward =>
      have item : (Reader.list ColumnHandle.format.toWire.reader).Defers (0x5B :: _)
          ColumnHandle.format.toWire.reader := defers_list ColumnHandle.lawful.toExact onward
      rcases place with rfl | rfl
      · exact ⟨_, _, blank, rfl, (defers_of_reaches reaches).trans item⟩
      · exact ⟨_, _, blank, rfl, (defers_of_reaches reaches).trans item⟩

/-- The structure of a payload decides how it is refused: that of the descriptor itself, and over
handles that of every handle in it. -/
structure StructureDecides : Prop where
  names {blanks : List UInt8} : Blanks blanks →
    (format String String).Decides (MemberText TextLiteral TextLiteral) blanks
      (ofJsonBytes : List UInt8 → Except Malformed (Descriptor String String))
  handles {blanks : List UInt8} : Blanks blanks →
    (format TableHandle ColumnHandle).Decides (MemberText TableHandle.Text ColumnHandle.Text)
      blanks (ofJsonBytes : List UInt8 → Except Malformed (Descriptor TableHandle ColumnHandle))
  table {ahead : List UInt8} : AheadOfTable ahead →
    TableHandle.format.Decides TableHandle.MemberText ahead
      (ofJsonBytes : List UInt8 → Except Malformed (Descriptor TableHandle ColumnHandle))
  column {ahead : List UInt8} : AheadOfColumn ahead →
    ColumnHandle.format.Decides ColumnHandle.MemberText ahead
      (ofJsonBytes : List UInt8 → Except Malformed (Descriptor TableHandle ColumnHandle))

theorem decides {T C : Type} [table : Reference T] [column : Reference C]
    {TableText : List UInt8 → T → Prop} {ColumnText : List UInt8 → C → Prop}
    (tableLawful : table.toWire.Lawful TableText)
    (columnLawful : column.toWire.Lawful ColumnText) {blanks : List UInt8}
    (blank : Blanks blanks) : (format T C).Decides (MemberText TableText ColumnText) blanks
      (ofJsonBytes : List UInt8 → Except Malformed (Descriptor T C)) := by
  have whole : (format T C).Decides (MemberText TableText ColumnText) (blanks ++ [])
      (ofJsonBytes : List UInt8 → Except Malformed (Descriptor T C)) :=
    RecordFormat.decides_of_defers (fun member =>
      (member_lawful tableLawful columnLawful member).toExact) blank (Reader.Defers.refl _)
  rwa [List.append_nil] at whole

/-- Of all that may be wrong with the structure of a payload, the first fault is reported. -/
theorem structure_decides : StructureDecides where
  names blank := decides text_lawful text_lawful blank
  handles blank := decides TableHandle.lawful ColumnHandle.lawful blank
  table := by
    rintro ahead inFront
    obtain ⟨blanks, front, blank, rfl, defers⟩ := inFront.defers
    exact RecordFormat.decides_of_defers (fun _ => text_lawful.toExact) blank defers
  column := by
    rintro ahead inFront
    obtain ⟨blanks, front, blank, rfl, defers⟩ := inFront.defers
    exact RecordFormat.decides_of_defers (fun member =>
      (ColumnHandle.member_lawful member).toExact) blank defers

/-- A left table that comes twice, one without members, and one that is all a list has: each is
reported at the end of these payloads, two of which are cut off there. -/
theorem structure_decides_leftTable :
    Refuses (ofJsonBytes (0x7B :: (ofChars (literal "leftTable") ++ (0x3A :: 0x22 :: 0x22 ::
          0x2C :: ofChars (literal "leftTable")))) : Except Malformed (Descriptor String String))
        "duplicate field `leftTable`" ⟨1, 27⟩ ∧
      Refuses (ofJsonBytes (0x7B :: (ofChars (literal "leftTable") ++ [0x3A, 0x7B, 0x7D])) :
          Except Malformed (Descriptor TableHandle ColumnHandle))
        "missing field `connectorId`" ⟨1, 15⟩ ∧
      Refuses (ofJsonBytes [0x5B, 0x22, 0x22, 0x5D] : Except Malformed (Descriptor String String))
        "invalid length 1, expected struct JoinPlanDescriptor with 9 elements" ⟨1, 4⟩ := by
  have key := textLiteral_literal "leftTable"
  have empty := textLiteral_literal ""
  refine ⟨?_, ?_, ?_⟩
  · have entry : (format String String).PartText (MemberText TextLiteral TextLiteral) _
        (some ⟨.leftTable, ""⟩) := .known key blanks_nil blanks_nil empty
    have onward := Onward.entry (.first blanks_nil) entry (.last (.next blanks_nil blanks_nil))
    have again : Member.leftTable ∈ [Member.leftTable] := List.mem_singleton_self _
    obtain ⟨passed, shape, refused⟩ := (structure_decides.names blanks_nil).repeated [] onward
      (List.nodup_singleton _) again key
    obtain ⟨rfl, -⟩ := List.append_eq_nil_iff.mp shape.symm
    exact refused
  · have reaches : Reaches _ .leftTable := .object (.last (.first blanks_nil)) List.nodup_nil
      List.not_mem_nil key blanks_nil blanks_nil
    have order : TableHandle.format.members = [] ++ .connectorId :: [.schemaName, .tableName] := rfl
    exact (structure_decides.table (.table blanks_nil reaches (.inl rfl))).missing []
      (.close blanks_nil) List.nodup_nil order (List.forall_mem_nil _) List.not_mem_nil
  · have entry : RecordFormat.PlacedText (MemberText TextLiteral TextLiteral) _
        ⟨.leftTable, ""⟩ := empty
    have order : [Member.leftTable] <+: Member.all := ⟨Member.all.tail, rfl⟩
    exact (structure_decides.names blanks_nil).short []
      (.entry (.first blanks_nil) entry (.close blanks_nil)) order (by decide)

end Descriptor

end EquiJoin
