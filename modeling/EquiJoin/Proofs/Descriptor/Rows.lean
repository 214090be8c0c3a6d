import EquiJoin.Proofs.Descriptor.Commute
import Mathlib.Data.List.Rotate
import Mathlib.Data.Multiset.Bind

/-!
# The rows of a join

What a join of both inputs emits, as nested loops over their rows: every pair of rows that matches
on the key columns, and alone every row without a match on a side that the join type preserves.
Commuting a descriptor keeps these rows as a bag; only the columns of the left input move behind
those of the right one (`outputRows_commute`).
-/

set_option autoImplicit false

namespace EquiJoin

open List (Perm)

variable {T C V : Type}

def JoinInput.project (input : JoinInput T C) (row : C → V) : List (Option V) :=
  input.joinedColumns.map fun column => some (row column)

def JoinInput.padding (V : Type) (input : JoinInput T C) : List (Option V) :=
  input.joinedColumns.map fun _ => none

theorem JoinInput.length_project (input : JoinInput T C) (row : C → V) :
    (input.project row).length = input.joinedColumns.length :=
  List.length_map _

theorem JoinInput.length_padding (input : JoinInput T C) :
    (input.padding V).length = input.joinedColumns.length :=
  List.length_map _

namespace Descriptor

section Rows

variable (descriptor : Descriptor T C) (matching : V → V → Prop) [DecidableRel matching]
  (leftRows rightRows : List (C → V))

def Matches (leftRow rightRow : C → V) : Prop :=
  matching (leftRow descriptor.left.keyColumn) (rightRow descriptor.right.keyColumn)

instance (leftRow rightRow : C → V) : Decidable (descriptor.Matches matching leftRow rightRow) :=
  inferInstanceAs (Decidable (matching _ _))

def pairedRows : List (List (Option V)) :=
  leftRows.flatMap fun leftRow => rightRows.flatMap fun rightRow =>
    if descriptor.Matches matching leftRow rightRow then
      [descriptor.left.project leftRow ++ descriptor.right.project rightRow]
    else []

def loneLeftRows : List (List (Option V)) :=
  (leftRows.filter fun leftRow =>
    ∀ rightRow ∈ rightRows, ¬ descriptor.Matches matching leftRow rightRow).map
      fun leftRow => descriptor.left.project leftRow ++ descriptor.right.padding V

def loneRightRows : List (List (Option V)) :=
  (rightRows.filter fun rightRow =>
    ∀ leftRow ∈ leftRows, ¬ descriptor.Matches matching leftRow rightRow).map
      fun rightRow => descriptor.left.padding V ++ descriptor.right.project rightRow

/-- The rows that a join emits which is neither a semi nor an anti-semi join. -/
def outputRows : List (List (Option V)) :=
  descriptor.pairedRows matching leftRows rightRows ++
    (if descriptor.joinType.preservesLeft then
      descriptor.loneLeftRows matching leftRows rightRows else []) ++
    (if descriptor.joinType.preservesRight then
      descriptor.loneRightRows matching leftRows rightRows else [])

end Rows

/-! ## Swapping the inputs -/

theorem rotate_of_width {input : JoinInput T C} {front : List (Option V)}
    (width : front.length = input.joinedColumns.length) (back : List (Option V)) :
    (front ++ back).rotate input.joinedColumns.length = back ++ front := by
  rw [← width, List.rotate_append_length_eq]

section Swap

variable {descriptor commuted : Descriptor T C} {matching : V → V → Prop}
  (found : descriptor.commute = some commuted)
  (symmetric : ∀ first second, matching first second → matching second first)

include found symmetric

theorem matches_commute (leftRow rightRow : C → V) :
    commuted.Matches matching rightRow leftRow ↔
      descriptor.Matches matching leftRow rightRow := by
  obtain ⟨_, left, right, _⟩ := commute_eq_some_iff.mp found
  rw [Matches, Matches, left, right]
  exact ⟨symmetric _ _, symmetric _ _⟩

variable [DecidableRel matching] (leftRows rightRows : List (C → V))

theorem pairedRows_commute :
    Perm (commuted.pairedRows matching rightRows leftRows)
      ((descriptor.pairedRows matching leftRows rightRows).map
        (·.rotate descriptor.left.joinedColumns.length)) := by
  obtain ⟨_, left, right, _⟩ := commute_eq_some_iff.mp found
  have moved : ∀ leftRow rightRow,
      (if descriptor.Matches matching leftRow rightRow then
        [descriptor.left.project leftRow ++ descriptor.right.project rightRow] else []).map
          (·.rotate descriptor.left.joinedColumns.length) =
      if commuted.Matches matching rightRow leftRow then
        [commuted.left.project rightRow ++ commuted.right.project leftRow] else [] := by
    intro leftRow rightRow
    have swapped := matches_commute found symmetric leftRow rightRow
    by_cases paired : descriptor.Matches matching leftRow rightRow
    · rw [if_pos paired, if_pos (swapped.mpr paired), left, right, List.map_singleton,
        rotate_of_width (descriptor.left.length_project leftRow)]
    · rw [if_neg paired, if_neg (mt swapped.mp paired), List.map_nil]
  simp only [pairedRows, List.map_flatMap, moved]
  -- Two nested loops emit the same bag whichever of them is the outer one.
  rw [← Multiset.coe_eq_coe]
  simp only [← Multiset.coe_bind]
  exact Multiset.bind_bind _ _

theorem loneLeftRows_commute :
    commuted.loneLeftRows matching rightRows leftRows =
      (descriptor.loneRightRows matching leftRows rightRows).map
        (·.rotate descriptor.left.joinedColumns.length) := by
  obtain ⟨_, left, right, _⟩ := commute_eq_some_iff.mp found
  simp only [loneLeftRows, loneRightRows, matches_commute found symmetric, List.map_map,
    Function.comp_def, left, right, rotate_of_width descriptor.left.length_padding]

theorem loneRightRows_commute :
    commuted.loneRightRows matching rightRows leftRows =
      (descriptor.loneLeftRows matching leftRows rightRows).map
        (·.rotate descriptor.left.joinedColumns.length) := by
  obtain ⟨_, left, right, _⟩ := commute_eq_some_iff.mp found
  simp only [loneLeftRows, loneRightRows, matches_commute found symmetric, List.map_map,
    Function.comp_def, left, right, rotate_of_width (descriptor.left.length_project _)]

end Swap

/-- The commuted descriptor emits the same bag of rows from the swapped inputs, with the columns of
the former left input moved behind those of the former right one. -/
theorem outputRows_commute {descriptor commuted : Descriptor T C}
    (found : descriptor.commute = some commuted) (matching : V → V → Prop) [DecidableRel matching]
    (symmetric : ∀ first second, matching first second → matching second first)
    (leftRows rightRows : List (C → V)) :
    Perm (commuted.outputRows matching rightRows leftRows)
      ((descriptor.outputRows matching leftRows rightRows).map
        (·.rotate descriptor.left.joinedColumns.length)) := by
  obtain ⟨joinType, _⟩ := commute_eq_some_iff.mp found
  simp only [outputRows, List.map_append, List.append_assoc, apply_ite (List.map _), List.map_nil,
    JoinType.preservesLeft_of_commute joinType, JoinType.preservesRight_of_commute joinType,
    loneLeftRows_commute found symmetric, loneRightRows_commute found symmetric]
  -- The lone rows of the two sides come in the other order.
  exact (pairedRows_commute found symmetric leftRows rightRows).append List.perm_append_comm

/-- Two orders of one customer, an order of nobody and a customer without orders: the right outer
join of customers with orders keeps the order of nobody, as the left outer join did. -/
theorem outputRows_commute_leftOuter :
    let orders : JoinInput String Nat := ⟨"orders", 0, [0, 1]⟩
    let customers : JoinInput String Nat := ⟨"customers", 0, [1]⟩
    let row (key value : Nat) : Nat → Nat := fun column => if column = 0 then key else value
    let orderRows := [row 1 10, row 1 10, row 2 30]
    let customerRows := [row 3 50, row 1 40]
    let commuted : Descriptor String Nat := ⟨customers, orders, .rightOuter, .left, false⟩
    (⟨orders, customers, .leftOuter, .right, false⟩ : Descriptor String Nat).commute =
        some commuted ∧
      Perm (commuted.outputRows Eq customerRows orderRows)
        [[some 40, some 1, some 10], [some 40, some 1, some 10], [none, some 2, some 30]] := by
  intro orders customers row orderRows customerRows commuted
  have found : (⟨orders, customers, .leftOuter, .right, false⟩ : Descriptor String Nat).commute =
      some commuted := rfl
  exact ⟨found, outputRows_commute found Eq (fun _ _ => Eq.symm) orderRows customerRows⟩

end Descriptor

end EquiJoin
