import EquiJoin.Descriptor.Basic
import EquiJoin.Outline.Drawing

/-!
# Explaining descriptors

A descriptor as an outline: the join with its hints, and its two inputs below it. -/

set_option autoImplicit false

namespace EquiJoin.Descriptor

variable {T C : Type} [Reference T] [Reference C]

def textField (label value : String) : List Char × Outline :=
  (label.toList, .text value.toList)

def inputName : BuildSide → String
  | .left => "LeftInput"
  | .right => "RightInput"

def role (descriptor : Descriptor T C) (side : BuildSide) : String :=
  if side = descriptor.buildSide then "build" else "probe"

def outlineInput (descriptor : Descriptor T C) (side : BuildSide) : Outline :=
  let input := descriptor.input side
  .record false (inputName side).toList
    [textField "role" (descriptor.role side), textField "table" (display input.table),
      textField "key" (display input.keyColumn),
      ("columns".toList, .list (input.joinedColumns.map fun column =>
        .text (display column).toList))] []

def outline (descriptor : Descriptor T C) : Outline :=
  .record false "JoinPlanDescriptor".toList
    [textField "join_type" (display descriptor.joinType),
      textField "build_side" (display descriptor.buildSide),
      textField "include_key_columns" (if descriptor.includeKeyColumns then "true" else "false")]
    [descriptor.outlineInput .left, descriptor.outlineInput .right]

def explain (descriptor : Descriptor T C) : String :=
  descriptor.outline.render

instance : Display (Descriptor T C) := ⟨explain⟩

end EquiJoin.Descriptor
