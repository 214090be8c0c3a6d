import EquiJoin.Catalog.ColumnHandle
import EquiJoin.Catalog.TableHandle
import EquiJoin.Descriptor.Inspect
import EquiJoin.Proofs.Descriptor.Payload
import EquiJoin.Proofs.Inspection

/-!
# Inspections of descriptors

The texts for developers, on one line or with one part on each line, differ wherever two descriptors
do, in their hints too, and wherever two inputs do (`inspections_distinguish`).  What the names of
tables and columns hold does not matter, not even text that looks like an inspection.
-/

set_option autoImplicit false

namespace EquiJoin

open Inspect (Lawful)
open Inspection (Legible Word inWord)

instance : Lawful BuildSide := by
  refine .of_words display (fun _ => rfl) (fun side => ?_) (fun first second same => ?_)
  · cases side <;> simp [display, Word, inWord]
  · cases first <;> cases second <;> simp_all [display]

instance : Lawful JoinType := by
  refine .of_words display (fun _ => rfl) (fun joinType => ?_) (fun first second same => ?_)
  · cases joinType <;> simp [display, Word, inWord]
  · cases first <;> cases second <;> simp_all [display]

instance : Lawful ColumnType := by
  refine .of_words ColumnType.shown (fun _ => rfl) (fun columnType => ?_)
    (fun first second same => ?_)
  · cases columnType <;> simp [ColumnType.shown, Word, inWord]
  · cases first <;> cases second <;> simp_all [ColumnType.shown]

instance : Lawful TableHandle where
  legible table := by
    have labels : ∀ label ∈ ["connector_id", "schema_name", "table_name"], Word label.toList := by
      simp [Word, inWord]
    refine .record (by simp [Word, inWord]) labels ?_
    simp [Lawful.legible]
  injective := by
    rintro ⟨connectorId, schemaName, tableName⟩ ⟨otherConnector, otherSchema, otherTable⟩ same
    have parts := (Inspection.record.inj same).2
    simp only [List.cons.injEq, Prod.mk.injEq, true_and, and_true] at parts
    obtain ⟨connectors, schemas, tables⟩ := parts
    rw [Lawful.injective connectors, Lawful.injective schemas, Lawful.injective tables]

instance : Lawful ColumnHandle where
  legible column := by
    have labels : ∀ label ∈ ["connector_id", "table_name", "column_name", "column_type",
        "logical_ordinal"], Word label.toList := by simp [Word, inWord]
    refine .record (by simp [Word, inWord]) labels ?_
    simp [Lawful.legible]
  injective := by
    rintro ⟨connectorId, tableName, columnName, columnType, logicalOrdinal⟩
      ⟨otherConnector, otherTable, otherName, otherType, otherOrdinal⟩ same
    have parts := (Inspection.record.inj same).2
    simp only [List.cons.injEq, Prod.mk.injEq, true_and, and_true] at parts
    obtain ⟨connectors, tables, names, types, ordinals⟩ := parts
    rw [Lawful.injective connectors, Lawful.injective tables, Lawful.injective names,
      Lawful.injective types, Lawful.injective ordinals]

section Lawful

variable {T C : Type} [Reference T] [Reference C] [Lawful T] [Lawful C]

instance : Lawful (JoinInput T C) where
  legible input := by
    have labels : ∀ label ∈ ["table", "key_column", "joined_columns"], Word label.toList := by
      simp [Word, inWord]
    refine .record (by simp [Word, inWord]) labels ?_
    simp [Lawful.legible]
  injective := by
    rintro ⟨table, keyColumn, joinedColumns⟩ ⟨otherTable, otherKey, otherColumns⟩ same
    have parts := (Inspection.record.inj same).2
    simp only [List.cons.injEq, Prod.mk.injEq, true_and, and_true] at parts
    obtain ⟨tables, keys, columns⟩ := parts
    rw [Lawful.injective tables, Lawful.injective keys, Lawful.injective columns]

namespace Descriptor

theorem Member.legible_inspectValue (member : Member) (value : member.Value T C) :
    (member.inspectValue value).Legible := by
  cases member <;> exact Lawful.legible _

theorem Member.inspectValue_inj (member : Member) {first second : member.Value T C}
    (same : member.inspectValue first = member.inspectValue second) : first = second := by
  cases member <;> exact Lawful.injective same

instance : Lawful (Descriptor T C) where
  legible descriptor := by
    have labels : ∀ label ∈ Member.all.map Member.fieldName, Word label.toList := by
      simp [Member.all, Member.fieldName, Word, inWord]
    refine .record (by simp [Word, inWord]) labels ?_
    simp [Member.legible_inspectValue]
  injective := by
    intro first second same
    have parts := List.map_inj_left.mp (Inspection.record.inj same).2
    have values (member : Member) : first.part member = second.part member :=
      member.inspectValue_inj (Prod.mk.inj (parts member member.mem_all)).2
    rw [← (format T C).assemble_part first, ← (format T C).assemble_part second]
    exact congrArg _ (funext values)

end Descriptor

end Lawful

/-- Over these references, two descriptors have the same text exactly if they are the same with their
hints, and two inputs if they are the same.  The text may be on one line or spread over many. -/
structure InspectionsDistinguish (T C : Type) [DecidableEq T] [DecidableEq C] [Reference T]
    [Reference C] : Prop where
  descriptor_eq_iff (spread : Bool) (first second : Descriptor T C) :
    (inspect first).render spread = (inspect second).render spread ↔
      first.identical second = true
  input_eq_iff (spread : Bool) (first second : JoinInput T C) :
    (inspect first).render spread = (inspect second).render spread ↔ first = second

theorem inspectionsDistinguish_of_lawful (T C : Type) [DecidableEq T] [DecidableEq C] [Reference T]
    [Reference C] [Lawful T] [Lawful C] : InspectionsDistinguish T C where
  descriptor_eq_iff spread first second := by
    rw [Descriptor.identical_iff]
    exact Inspect.render_eq_iff
  input_eq_iff spread first second := Inspect.render_eq_iff

theorem inspections_distinguish :
    InspectionsDistinguish String String ∧ InspectionsDistinguish TableHandle ColumnHandle := by
  constructor
  · exact inspectionsDistinguish_of_lawful String String
  · exact inspectionsDistinguish_of_lawful TableHandle ColumnHandle

end EquiJoin
