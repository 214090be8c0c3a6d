import EquiJoin.Catalog.ColumnHandle
import EquiJoin.Catalog.TableHandle
import EquiJoin.Descriptor.Basic
import EquiJoin.Proofs.Fingerprint

/-!
# Fingerprints of descriptors

Two descriptors have the same fingerprint exactly if they describe the same plan.  No bytes can move
from one part of a plan to the next, whatever the parts contain, as long as the length of every
list of joined columns fits a word.
-/

set_option autoImplicit false

namespace EquiJoin

open Fingerprint (Delimited)

theorem position_split {α : Type} {position : α → Nat}
    (fits : ∀ value, position value < UInt64.size)
    (distinct : ∀ first second, position first = position second → first = second)
    {first second : α} {front back : List UInt8}
    (same : word (position first) ++ front = word (position second) ++ back) :
    first = second ∧ front = back := by
  obtain ⟨positions, rest⟩ := word_split (fits first) (fits second) same
  exact ⟨distinct first second positions, rest⟩

instance : Delimited JoinType where
  split same := by
    refine position_split (fun joinType => ?_) (fun first second => ?_) same
    · cases joinType <;> decide
    · cases first <;> cases second <;> decide

instance : Delimited ColumnType where
  split same := by
    refine position_split (fun columnType => ?_) (fun first second => ?_) same
    · cases columnType <;> decide
    · cases first <;> cases second <;> decide

theorem TableHandle.fingerprint_append (table : TableHandle) (rest : List UInt8) :
    fingerprint table ++ rest = fingerprint table.connectorId ++
      (fingerprint table.schemaName ++ (fingerprint table.tableName ++ rest)) := by
  change _ ++ _ ++ _ ++ rest = _
  simp only [List.append_assoc]

instance : Delimited TableHandle where
  split := by
    rintro ⟨connectorId, schemaName, tableName⟩ ⟨otherConnector, otherSchema, otherTable⟩ front
      back same
    simp only [TableHandle.fingerprint_append] at same
    obtain ⟨rfl, afterConnector⟩ := Delimited.split same
    obtain ⟨rfl, afterSchema⟩ := Delimited.split afterConnector
    obtain ⟨rfl, rest⟩ := Delimited.split afterSchema
    exact ⟨rfl, rest⟩

theorem ColumnHandle.fingerprint_append (column : ColumnHandle) (rest : List UInt8) :
    fingerprint column ++ rest = fingerprint column.connectorId ++
      (fingerprint column.tableName ++ (fingerprint column.columnName ++
        (fingerprint column.columnType ++ (fingerprint column.logicalOrdinal ++ rest)))) := by
  change _ ++ _ ++ _ ++ _ ++ _ ++ rest = _
  simp only [List.append_assoc]

instance : Delimited ColumnHandle where
  split := by
    rintro ⟨connectorId, tableName, columnName, columnType, logicalOrdinal⟩
      ⟨otherConnector, otherTable, otherName, otherType, otherOrdinal⟩ front back same
    simp only [ColumnHandle.fingerprint_append] at same
    obtain ⟨rfl, afterConnector⟩ := Delimited.split same
    obtain ⟨rfl, afterTable⟩ := Delimited.split afterConnector
    obtain ⟨rfl, afterName⟩ := Delimited.split afterTable
    obtain ⟨rfl, afterType⟩ := Delimited.split afterName
    obtain ⟨rfl, rest⟩ := Delimited.split afterType
    exact ⟨rfl, rest⟩

variable {T C : Type}

/-- The number of joined columns fits a word. -/
def JoinInput.Fits (input : JoinInput T C) : Prop := input.joinedColumns.length < UInt64.size

def Descriptor.Fits (descriptor : Descriptor T C) : Prop :=
  descriptor.left.Fits ∧ descriptor.right.Fits

section Delimited

variable [Fingerprint T] [Fingerprint C]

theorem JoinInput.fingerprint_append (input : JoinInput T C) (rest : List UInt8) :
    fingerprint input ++ rest = fingerprint input.table ++
      (fingerprint input.keyColumn ++ (fingerprint input.joinedColumns ++ rest)) := by
  change _ ++ _ ++ _ ++ rest = _
  simp only [List.append_assoc]

theorem Descriptor.fingerprint_append (descriptor : Descriptor T C) (rest : List UInt8) :
    fingerprint descriptor ++ rest = fingerprint descriptor.left ++
      (fingerprint descriptor.right ++ (fingerprint descriptor.joinType ++ rest)) := by
  change _ ++ _ ++ _ ++ rest = _
  simp only [List.append_assoc]

variable [Delimited T] [Delimited C]

theorem JoinInput.split {first second : JoinInput T C} (firstFits : first.Fits)
    (secondFits : second.Fits) {front back : List UInt8}
    (same : fingerprint first ++ front = fingerprint second ++ back) :
    first = second ∧ front = back := by
  rcases first with ⟨table, keyColumn, joinedColumns⟩
  rcases second with ⟨otherTable, otherKey, otherColumns⟩
  simp only [fingerprint_append] at same
  obtain ⟨rfl, afterTable⟩ := Delimited.split same
  obtain ⟨rfl, afterKey⟩ := Delimited.split afterTable
  obtain ⟨rfl, rest⟩ := list_split firstFits secondFits afterKey
  exact ⟨rfl, rest⟩

theorem Descriptor.split {first second : Descriptor T C} (firstFits : first.Fits)
    (secondFits : second.Fits) {front back : List UInt8}
    (same : fingerprint first ++ front = fingerprint second ++ back) :
    first.left = second.left ∧ first.right = second.right ∧ first.joinType = second.joinType ∧
      front = back := by
  rw [fingerprint_append, fingerprint_append] at same
  obtain ⟨left, afterLeft⟩ := JoinInput.split firstFits.1 secondFits.1 same
  obtain ⟨right, afterRight⟩ := JoinInput.split firstFits.2 secondFits.2 afterLeft
  obtain ⟨joinType, rest⟩ := Delimited.split afterRight
  exact ⟨left, right, joinType, rest⟩

end Delimited

theorem fingerprint_eq_iff {α : Type} [Fingerprint α] [Delimited α] {first second : α} :
    fingerprint first = fingerprint second ↔ first = second := by
  constructor
  · intro same
    exact (Delimited.split (congrArg (· ++ []) same)).1
  · intro same
    rw [same]

/-- Over these references, fingerprints and equality agree on inputs and on plans, and equal plans
may differ in their hints only. -/
structure PlanFingerprints (T C : Type) [DecidableEq T] [DecidableEq C] [Fingerprint T]
    [Fingerprint C] : Prop where
  input_eq_iff {first second : JoinInput T C} : first.Fits → second.Fits →
    (fingerprint first = fingerprint second ↔ first = second)
  descriptor_eq_iff {first second : Descriptor T C} : first.Fits → second.Fits →
    (fingerprint first = fingerprint second ↔ (first == second) = true)
  beq_iff {first second : Descriptor T C} : (first == second) = true ↔
    first.left = second.left ∧ first.right = second.right ∧ first.joinType = second.joinType

theorem planFingerprints_of_delimited [DecidableEq T] [DecidableEq C] [Fingerprint T]
    [Fingerprint C] [Delimited T] [Delimited C] : PlanFingerprints T C where
  input_eq_iff firstFits secondFits := by
    constructor
    · intro same
      exact (JoinInput.split firstFits secondFits (congrArg (· ++ []) same)).1
    · intro same
      rw [same]
  descriptor_eq_iff {first second} firstFits secondFits := by
    rw [Descriptor.beq_iff]
    constructor
    · intro same
      obtain ⟨left, right, joinType, _⟩ :=
        Descriptor.split firstFits secondFits (congrArg (· ++ []) same)
      exact ⟨left, right, joinType⟩
    · rintro ⟨left, right, joinType⟩
      change fingerprint first.left ++ fingerprint first.right ++ fingerprint first.joinType = _
      rw [left, right, joinType]
      rfl
  beq_iff := Descriptor.beq_iff

/-- Fingerprints and equality agree over bare names and over handles, and on handles. -/
theorem planFingerprints :
    PlanFingerprints String String ∧ PlanFingerprints TableHandle ColumnHandle ∧
    (∀ first second : TableHandle, fingerprint first = fingerprint second ↔ first = second) ∧
    (∀ first second : ColumnHandle, fingerprint first = fingerprint second ↔ first = second) := by
  refine ⟨planFingerprints_of_delimited, planFingerprints_of_delimited, ?_, ?_⟩
  · intro first second
    exact fingerprint_eq_iff
  · intro first second
    exact fingerprint_eq_iff

/-- A letter that moves from a name to the next one changes the fingerprint. -/
theorem fingerprint_moved_letter :
    let input (table keyColumn : String) : JoinInput String String := ⟨table, keyColumn, []⟩
    (input "ab" "c").Fits ∧ (input "a" "bc").Fits ∧
      fingerprint (input "ab" "c") ≠ fingerprint (input "a" "bc") := by
  intro input
  have fits : ∀ table keyColumn, (input table keyColumn).Fits := fun _ _ => by
    simp [input, JoinInput.Fits]
  refine ⟨fits "ab" "c", fits "a" "bc", fun same => ?_⟩
  have equal := (planFingerprints.1.input_eq_iff (fits "ab" "c") (fits "a" "bc")).mp same
  exact absurd equal (by decide)

end EquiJoin
