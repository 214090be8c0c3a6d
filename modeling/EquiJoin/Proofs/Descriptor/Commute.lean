import EquiJoin.Descriptor.Basic

/-!
# Commuting a descriptor

Commuting a descriptor a second time gives it back with all of its hints, and equal plans commute
to equal plans.
-/

set_option autoImplicit false

namespace EquiJoin

namespace JoinType

variable {joinType commuted : JoinType}

def commutable : List JoinType := [.inner, .leftOuter, .rightOuter, .fullOuter]

theorem commute_isSome_iff : joinType.commute.isSome = true ↔ joinType ∈ commutable := by
  cases joinType <;> decide

theorem commute_eq_self_iff :
    joinType.commute = some joinType ↔ joinType = .inner ∨ joinType = .fullOuter := by
  cases joinType <;> decide

theorem preservesLeft_of_commute (found : joinType.commute = some commuted) :
    commuted.preservesLeft = joinType.preservesRight := by
  cases joinType <;> cases found <;> rfl

theorem preservesRight_of_commute (found : joinType.commute = some commuted) :
    commuted.preservesRight = joinType.preservesLeft := by
  cases joinType <;> cases found <;> rfl

end JoinType

namespace Descriptor

variable {T C : Type} {descriptor commuted other : Descriptor T C}

theorem commute_eq_some_iff : descriptor.commute = some commuted ↔
    descriptor.joinType.commute = some commuted.joinType ∧ commuted.left = descriptor.right ∧
      commuted.right = descriptor.left ∧ commuted.buildSide = descriptor.buildSide.other ∧
        commuted.includeKeyColumns = descriptor.includeKeyColumns := by
  rw [commute, Option.map_eq_some_iff]
  constructor
  · rintro ⟨joinType, found, rfl⟩
    exact ⟨found, rfl, rfl, rfl, rfl⟩
  · rintro ⟨found, left, right, buildSide, includeKeyColumns⟩
    refine ⟨commuted.joinType, found, ?_⟩
    rw [← left, ← right, ← buildSide, ← includeKeyColumns]
    rfl

theorem commute_isSome_iff :
    descriptor.commute.isSome = true ↔ descriptor.joinType ∈ JoinType.commutable := by
  rw [commute, Option.isSome_map, JoinType.commute_isSome_iff]

theorem commute_eq_none_iff :
    descriptor.commute = none ↔ descriptor.joinType ∉ JoinType.commutable := by
  rw [← commute_isSome_iff, Bool.not_eq_true, Option.isSome_eq_false_iff,
    Option.isNone_iff_eq_none]

theorem commute_commute (found : descriptor.commute = some commuted) :
    commuted.commute = some descriptor := by
  obtain ⟨joinType, left, right, buildSide, includeKeyColumns⟩ := commute_eq_some_iff.mp found
  refine commute_eq_some_iff.mpr ⟨JoinType.commute_commute joinType, right.symm, left.symm, ?_,
    includeKeyColumns.symm⟩
  rw [buildSide, BuildSide.other_other]

variable [DecidableEq T] [DecidableEq C]

theorem commute_of_beq (same : (descriptor == other) = true)
    (found : descriptor.commute = some commuted) :
    ∃ otherCommuted, other.commute = some otherCommuted ∧
      (commuted == otherCommuted) = true := by
  obtain ⟨left, right, joinType⟩ := beq_iff.mp same
  obtain ⟨foundType, leftOf, rightOf, _⟩ := commute_eq_some_iff.mp found
  refine ⟨⟨other.right, other.left, commuted.joinType, other.buildSide.other,
    other.includeKeyColumns⟩, ?_, ?_⟩
  · rw [joinType] at foundType
    exact commute_eq_some_iff.mpr ⟨foundType, rfl, rfl, rfl, rfl⟩
  · exact beq_iff.mpr ⟨leftOf.trans right, rightOf.trans left, rfl⟩

/-- A descriptor is the same plan as its commuted form exactly if its inputs are interchangeable
and its join type treats them alike. -/
theorem beq_commute_iff (found : descriptor.commute = some commuted) :
    (descriptor == commuted) = true ↔ descriptor.left = descriptor.right ∧
      (descriptor.joinType = .inner ∨ descriptor.joinType = .fullOuter) := by
  obtain ⟨joinType, left, right, _⟩ := commute_eq_some_iff.mp found
  rw [beq_iff, left, right, ← JoinType.commute_eq_self_iff, joinType, Option.some.injEq]
  constructor
  · rintro ⟨inputs, _, types⟩
    exact ⟨inputs, types.symm⟩
  · rintro ⟨inputs, types⟩
    exact ⟨inputs, inputs.symm, types.symm⟩

end Descriptor

end EquiJoin
