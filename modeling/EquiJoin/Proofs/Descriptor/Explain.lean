import EquiJoin.Descriptor.Explain
import EquiJoin.Proofs.Outline
import Mathlib.Logic.ExistsUnique

/-!
# What the explanation of a descriptor shows

The explanation is laid out anew for every width, and what its texts hold is up to the catalog.
Nevertheless it shows the join with its hints, and then each input with its role, its table, its key
and all of its joined columns, each of them whole and in this order (`explained`).
-/

set_option autoImplicit false

namespace EquiJoin.Descriptor

variable {T C : Type} [Reference T] [Reference C]

def inputParts (name role : String) (input : JoinInput T C) : List String :=
  [name, role, display input.table, display input.keyColumn] ++ input.joinedColumns.map display

/-- What is to be seen of a descriptor, in this order. -/
def parts (descriptor : Descriptor T C) : List String :=
  ["JoinPlanDescriptor", display descriptor.joinType, display descriptor.buildSide,
    if descriptor.includeKeyColumns then "true" else "false"] ++
  inputParts "LeftInput" (descriptor.role .left) descriptor.left ++
  inputParts "RightInput" (descriptor.role .right) descriptor.right

theorem itemTexts_columns (columns : List C) :
    Outline.itemTexts (columns.map fun column => .text (display column).toList) =
      columns.map (String.toList ∘ display) := by
  induction columns with
  | nil => rfl
  | cons column others ih =>
      simp only [List.map_cons, Outline.itemTexts, Outline.texts, ih, List.singleton_append,
        Function.comp_apply]

theorem allWhole_columns (columns : List C) :
    Outline.AllWhole (columns.map fun column => .text (display column).toList) := by
  induction columns with
  | nil => simp [Outline.AllWhole]
  | cons column others ih => simpa [Outline.AllWhole, Outline.Whole] using ih

theorem inputParts_sublist (descriptor : Descriptor T C) (side : BuildSide) :
    ((inputParts (inputName side) (descriptor.role side) (descriptor.input side)).map
      String.toList).Sublist (descriptor.outlineInput side).texts := by
  simp only [outlineInput, Outline.texts, Outline.itemTexts, List.append_nil]
  refine List.Sublist.trans ?_ ((Outline.values_sublist _).cons_cons _)
  simp [inputParts, textField, Outline.texts, itemTexts_columns]

theorem parts_sublist (descriptor : Descriptor T C) :
    (descriptor.parts.map String.toList).Sublist descriptor.outline.texts := by
  have left := descriptor.inputParts_sublist .left
  have right := descriptor.inputParts_sublist .right
  simp only [outline, Outline.texts, Outline.itemTexts, List.append_nil]
  refine List.Sublist.trans ?_
    (((Outline.values_sublist _).append (left.append right)).cons_cons _)
  simp [parts, textField, Outline.texts, inputName, input]

theorem whole_outline (descriptor : Descriptor T C) : descriptor.outline.Whole := by
  simp [outline, outlineInput, textField, Outline.Whole, Outline.AllWhole,
    Outline.AllFieldsWhole, allWhole_columns]

omit [Reference T] [Reference C] in
theorem role_eq_build_iff (descriptor : Descriptor T C) (side : BuildSide) :
    descriptor.role side = "build" ↔ side = descriptor.buildSide := by
  by_cases same : side = descriptor.buildSide
  · simp [role, same]
  · simp [role, same]

/-- The explanation of a descriptor loses none of its parts, and exactly one of the two roles in it
says that the executor holds the input, which is so. -/
structure Explained (descriptor : Descriptor T C) : Prop where
  shows : Shows (descriptor.parts.map String.toList) descriptor.explain.toList
  existsUnique_build : ∃! side, descriptor.role side = "build"
  build_iff (side : BuildSide) : descriptor.role side = "build" ↔ side = descriptor.buildSide
  buildInput_of_build {side : BuildSide} :
    descriptor.role side = "build" → descriptor.buildInput = descriptor.input side

theorem explained (descriptor : Descriptor T C) : Explained descriptor where
  shows := by
    have shown := Outline.shows_render descriptor.whole_outline
    exact shown.sublist descriptor.parts_sublist
  existsUnique_build := by
    refine ⟨descriptor.buildSide, ?_, fun side build => ?_⟩
    · exact (descriptor.role_eq_build_iff _).mpr rfl
    · exact (descriptor.role_eq_build_iff side).mp build
  build_iff := descriptor.role_eq_build_iff
  buildInput_of_build {side} build := by
    rw [(descriptor.role_eq_build_iff side).mp build]
    rfl

end EquiJoin.Descriptor
