import EquiJoin.Catalog.ColumnHandle
import EquiJoin.Catalog.TableHandle
import EquiJoin.Descriptor.Member
import EquiJoin.Proofs.Json.Record

/-!
# The form of descriptors

What a payload has to look like to hold a table handle, a column handle or a descriptor, with all
keys and names spelled out.  Each of the types travels lawfully in its form.
-/

set_option autoImplicit false

namespace EquiJoin

open Json

def BuildSide.Text : List UInt8 → BuildSide → Prop :=
  NameText [("LEFT", .left), ("SMALL_LEFT", .left), ("LARGE_LEFT", .right), ("RIGHT", .right)]

theorem BuildSide.lawful : (inferInstance : Wire BuildSide).Lawful BuildSide.Text :=
  named_lawful (by decide)

def JoinType.Text : List UInt8 → JoinType → Prop :=
  NameText
    [("EQUI_INNER", .inner), ("INNER", .inner), ("EQUI_LEFT", .leftOuter),
      ("LEFT_OUTER", .leftOuter), ("EQUI_RIGHT", .rightOuter), ("RIGHT_OUTER", .rightOuter),
      ("EQUI_FULL", .fullOuter), ("FULL_OUTER", .fullOuter), ("SEMI", .semi),
      ("ANTI_SEMI", .antiSemi)]

theorem JoinType.lawful : (inferInstance : Wire JoinType).Lawful JoinType.Text :=
  named_lawful (by decide)

def ColumnType.Text : List UInt8 → ColumnType → Prop :=
  NameText
    [("BOOL", .bool), ("INT", .int), ("LONG", .long), ("DOUBLE", .double), ("DECIMAL", .decimal),
      ("UTF8_STRING", .utf8String), ("DATE", .date), ("TIMESTAMP", .timestamp)]

theorem ColumnType.lawful : (inferInstance : Wire ColumnType).Lawful ColumnType.Text :=
  named_lawful (by decide)

def TableHandle.Text : List UInt8 → TableHandle → Prop :=
  RecordText
    [⟨"connectorId", fun text table => TextLiteral text table.connectorId⟩,
      ⟨"schemaName", fun text table => TextLiteral text table.schemaName⟩,
      ⟨"tableName", fun text table => TextLiteral text table.tableName⟩]

theorem TableHandle.lawful : (inferInstance : Wire TableHandle).Lawful TableHandle.Text :=
  TableHandle.format.record_lawful fun _ => text_lawful

def ColumnHandle.Text : List UInt8 → ColumnHandle → Prop :=
  RecordText
    [⟨"connectorId", fun text column => TextLiteral text column.connectorId⟩,
      ⟨"tableName", fun text column => TextLiteral text column.tableName⟩,
      ⟨"columnName", fun text column => TextLiteral text column.columnName⟩,
      ⟨"columnType", fun text column => column.columnType.Text text⟩,
      ⟨"logicalOrdinal", fun text column => OrdinalText text column.logicalOrdinal⟩]

def ColumnHandle.MemberText : (member : Member) → List UInt8 → Value member → Prop
  | .connectorId | .tableName | .columnName => TextLiteral
  | .columnType => ColumnType.Text
  | .logicalOrdinal => OrdinalText

theorem ColumnHandle.member_lawful (member : Member) :
    (format.wire member).Lawful (MemberText member) := by
  cases member with
  | connectorId | tableName | columnName => exact text_lawful
  | columnType => exact ColumnType.lawful
  | logicalOrdinal => exact ordinal_lawful

theorem ColumnHandle.lawful : (inferInstance : Wire ColumnHandle).Lawful ColumnHandle.Text :=
  format.record_lawful member_lawful

namespace Descriptor

variable {T C : Type} (TableText : List UInt8 → T → Prop) (ColumnText : List UInt8 → C → Prop)

def Text : List UInt8 → Descriptor T C → Prop :=
  RecordText
    [⟨"leftTable", fun text descriptor => TableText text descriptor.left.table⟩,
      ⟨"leftKeyColumn", fun text descriptor => ColumnText text descriptor.left.keyColumn⟩,
      ⟨"leftJoinedColumns", fun text descriptor =>
        ListText ColumnText text descriptor.left.joinedColumns⟩,
      ⟨"rightTable", fun text descriptor => TableText text descriptor.right.table⟩,
      ⟨"rightKeyColumn", fun text descriptor => ColumnText text descriptor.right.keyColumn⟩,
      ⟨"rightJoinedColumns", fun text descriptor =>
        ListText ColumnText text descriptor.right.joinedColumns⟩,
      ⟨"includeKeyColumns", fun text descriptor => FlagText text descriptor.includeKeyColumns⟩,
      ⟨"joinEndian", fun text descriptor => descriptor.buildSide.Text text⟩,
      ⟨"joinType", fun text descriptor => descriptor.joinType.Text text⟩]

def MemberText : (member : Member) → List UInt8 → member.Value T C → Prop
  | .leftTable | .rightTable => TableText
  | .leftKeyColumn | .rightKeyColumn => ColumnText
  | .leftJoinedColumns | .rightJoinedColumns => ListText ColumnText
  | .includeKeyColumns => FlagText
  | .buildSide => BuildSide.Text
  | .joinType => JoinType.Text

variable {TableText ColumnText} [table : Reference T] [column : Reference C]

theorem member_lawful (tableLawful : table.toWire.Lawful TableText)
    (columnLawful : column.toWire.Lawful ColumnText) (member : Member) :
    ((format T C).wire member).Lawful (MemberText TableText ColumnText member) := by
  cases member with
  | leftTable | rightTable => exact tableLawful
  | leftKeyColumn | rightKeyColumn => exact columnLawful
  | leftJoinedColumns | rightJoinedColumns => exact list_lawful columnLawful
  | includeKeyColumns => exact flag_lawful
  | buildSide => exact BuildSide.lawful
  | joinType => exact JoinType.lawful

theorem lawful (tableLawful : table.toWire.Lawful TableText)
    (columnLawful : column.toWire.Lawful ColumnText) :
    (inferInstance : Wire (Descriptor T C)).Lawful (Text TableText ColumnText) :=
  (format T C).record_lawful (member_lawful tableLawful columnLawful)

/-- A descriptor is read whatever stands behind it. -/
theorem read_of_text (tableLawful : table.toWire.Lawful TableText)
    (columnLawful : column.toWire.Lawful ColumnText) {blanks text : List UInt8}
    {descriptor : Descriptor T C} (blank : Blanks blanks)
    (form : Text TableText ColumnText text descriptor) (rest : List UInt8) :
    (inferInstance : Wire (Descriptor T C)).reader.read (blanks ++ (text ++ rest)) =
      .ok (descriptor, rest) :=
  (format T C).read_of_recordText
    (fun member => (member_lawful tableLawful columnLawful member).toExact) blank form rest

end Descriptor

end EquiJoin
