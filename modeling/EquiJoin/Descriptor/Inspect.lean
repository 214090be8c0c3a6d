import EquiJoin.Descriptor.Member

/-!
# Descriptors for developers

The inspection of descriptors, of their inputs and of drafts. -/

set_option autoImplicit false

namespace EquiJoin

variable {T C : Type} [Reference T] [Reference C]

def JoinInput.inspectAs (name : String) (input : JoinInput T C) : Inspection :=
  .record name
    [("table", inspect input.table), ("key_column", inspect input.keyColumn),
      ("joined_columns", inspect input.joinedColumns)]

instance : Inspect (JoinInput T C) := ⟨JoinInput.inspectAs "JoinInput"⟩

namespace Descriptor

def Member.inspectValue : (member : Member) → member.Value T C → Inspection
  | .leftTable, value | .rightTable, value => inspect value
  | .leftKeyColumn, value | .rightKeyColumn, value => inspect value
  | .leftJoinedColumns, value | .rightJoinedColumns, value => inspect value
  | .includeKeyColumns, value => inspect value
  | .buildSide, value => inspect value
  | .joinType, value => inspect value

instance : Inspect (Descriptor T C) where
  inspect descriptor := .record "JoinPlanDescriptor"
    (Member.all.map fun member => (member.fieldName, member.inspectValue (descriptor.part member)))

def inspectInput (descriptor : Descriptor T C) (side : BuildSide) : Inspection :=
  (descriptor.input side).inspectAs "JoinInputRef"

/-- A member of a draft: one that something stands in for has a value at any time, and a required
one has a value or none. -/
def inspectDraftMember (draft : Draft (Member.Value T C)) (member : Member) : Inspection :=
  match (defaults (T := T) (C := C)).value? member with
  | some standIn => member.inspectValue ((draft.value? member).getD standIn)
  | none =>
      match draft.value? member with
      | some value => .wrapped "Some" (member.inspectValue value)
      | none => .atom "None"

def inspectDraft (draft : Draft (Member.Value T C)) : Inspection :=
  .record "JoinPlanDescriptorBuilder"
    (Member.all.map fun member => (member.fieldName, inspectDraftMember draft member))

end Descriptor

end EquiJoin
