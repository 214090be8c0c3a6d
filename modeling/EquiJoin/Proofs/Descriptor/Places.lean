import EquiJoin.Proofs.Descriptor.Form
import EquiJoin.Proofs.Json.Passage

/-!
# Places of references in a payload

A payload names two tables, two key columns and any number of joined columns.  Wherever one of them
stands, what is read there becomes that reference of the descriptor and nothing else.
-/

set_option autoImplicit false

namespace EquiJoin.Descriptor

open Json

variable {T C : Type} [table : Reference T] [column : Reference C]
  (TableText : List UInt8 → T → Prop) (ColumnText : List UInt8 → C → Prop)

inductive TablePlace : List UInt8 → ((T → T) → Descriptor T C → Descriptor T C) → Prop where
  | left {front : List UInt8} :
      (format T C).LeadsTo (MemberText TableText ColumnText) front .leftTable →
        TablePlace front fun change descriptor =>
          { descriptor with left.table := change descriptor.left.table }
  | right {front : List UInt8} :
      (format T C).LeadsTo (MemberText TableText ColumnText) front .rightTable →
        TablePlace front fun change descriptor =>
          { descriptor with right.table := change descriptor.right.table }

/-- What stands in a payload in front of a column, and how the descriptor changes with it.  The
column may be a key column, or a joined column behind a number of others. -/
inductive ColumnPlace : List UInt8 → ((C → C) → Descriptor T C → Descriptor T C) → Prop where
  | leftKey {front : List UInt8} :
      (format T C).LeadsTo (MemberText TableText ColumnText) front .leftKeyColumn →
        ColumnPlace front fun change descriptor =>
          { descriptor with left.keyColumn := change descriptor.left.keyColumn }
  | rightKey {front : List UInt8} :
      (format T C).LeadsTo (MemberText TableText ColumnText) front .rightKeyColumn →
        ColumnPlace front fun change descriptor =>
          { descriptor with right.keyColumn := change descriptor.right.keyColumn }
  | leftJoined {front others : List UInt8} {columns : List C} :
      (format T C).LeadsTo (MemberText TableText ColumnText) front .leftJoinedColumns →
        Onward ColumnText true others columns →
          ColumnPlace (front ++ 0x5B :: others) fun change descriptor =>
            { descriptor with
              left.joinedColumns := descriptor.left.joinedColumns.modify columns.length change }
  | rightJoined {front others : List UInt8} {columns : List C} :
      (format T C).LeadsTo (MemberText TableText ColumnText) front .rightJoinedColumns →
        Onward ColumnText true others columns →
          ColumnPlace (front ++ 0x5B :: others) fun change descriptor =>
            { descriptor with
              right.joinedColumns := descriptor.right.joinedColumns.modify columns.length change }

variable {TableText ColumnText} {front : List UInt8}

theorem TablePlace.embeds (tableLawful : table.toWire.Lawful TableText)
    (columnLawful : column.toWire.Lawful ColumnText)
    {carry : (T → T) → Descriptor T C → Descriptor T C}
    (place : TablePlace TableText ColumnText front carry) :
    (format T C).toWire.reader.Embeds front table.reader carry := by
  have exact member := (member_lawful tableLawful columnLawful member).toExact
  cases place with
  | left leads | right leads => exact RecordFormat.embeds_record exact leads

theorem ColumnPlace.embeds (tableLawful : table.toWire.Lawful TableText)
    (columnLawful : column.toWire.Lawful ColumnText)
    {carry : (C → C) → Descriptor T C → Descriptor T C}
    (place : ColumnPlace TableText ColumnText front carry) :
    (format T C).toWire.reader.Embeds front column.reader carry := by
  have exact member := (member_lawful tableLawful columnLawful member).toExact
  cases place with
  | leftKey leads | rightKey leads => exact RecordFormat.embeds_record exact leads
  | leftJoined leads onward | rightJoined leads onward =>
      exact (RecordFormat.embeds_record exact leads).trans (embeds_list columnLawful.toExact onward)

end EquiJoin.Descriptor
