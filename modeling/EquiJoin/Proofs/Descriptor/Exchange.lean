import EquiJoin.Proofs.Descriptor.Commute
import EquiJoin.Proofs.Descriptor.Payload

/-!
# What commuting exchanges

Commuting exchanges everything about a descriptor that belongs to a side, and nothing that belongs
to a relation: the inputs, the output columns and the preserved rows change sides, while the build
input and the probe input stay what they are.  `Exchanged` lists all of it, and a descriptor stands
in this relation to its commuted form whenever there is one (`commute_exchanges`).
-/

set_option autoImplicit false

namespace EquiJoin

theorem JoinType.not_mem_commutable_iff {joinType : JoinType} :
    joinType ∉ commutable ↔ joinType = .semi ∨ joinType = .antiSemi := by
  cases joinType <;> decide

namespace Descriptor

variable {T C : Type} {descriptor commuted : Descriptor T C}

theorem input_of_commute (found : descriptor.commute = some commuted) (side : BuildSide) :
    commuted.input side = descriptor.input side.other := by
  obtain ⟨_, left, right, _⟩ := commute_eq_some_iff.mp found
  cases side with
  | left => exact left
  | right => exact right

theorem buildInput_of_commute (found : descriptor.commute = some commuted) :
    commuted.buildInput = descriptor.buildInput := by
  obtain ⟨_, _, _, buildSide, _⟩ := commute_eq_some_iff.mp found
  rw [buildInput, input_of_commute found, buildSide, BuildSide.other_other, ← buildInput]

theorem probeInput_of_commute (found : descriptor.commute = some commuted) :
    commuted.probeInput = descriptor.probeInput := by
  obtain ⟨_, _, _, buildSide, _⟩ := commute_eq_some_iff.mp found
  rw [probeInput, input_of_commute found, buildSide, BuildSide.other_other, ← probeInput]

theorem outputColumns_of_commute (found : descriptor.commute = some commuted) :
    commuted.outputColumns =
      descriptor.right.joinedColumns ++ descriptor.left.joinedColumns := by
  obtain ⟨_, left, right, _⟩ := commute_eq_some_iff.mp found
  rw [outputColumns, left, right]

theorem outputWidth_of_commute (found : descriptor.commute = some commuted) :
    commuted.outputWidth = descriptor.outputWidth := by
  obtain ⟨_, left, right, _⟩ := commute_eq_some_iff.mp found
  rw [outputWidth, left, right, Nat.add_comm, ← outputWidth]

theorem commute_withBuildSide (found : descriptor.commute = some commuted) (side : BuildSide) :
    (descriptor.withBuildSide side).commute = some (commuted.withBuildSide side.other) := by
  obtain ⟨joinType, left, right, _, includeKeyColumns⟩ := commute_eq_some_iff.mp found
  exact commute_eq_some_iff.mpr ⟨joinType, left, right, rfl, includeKeyColumns⟩

variable [DecidableEq T] [DecidableEq C]

/-- What a descriptor and its commuted form have to do with each other. -/
structure Exchanged (descriptor commuted : Descriptor T C) : Prop where
  input (side : BuildSide) : commuted.input side = descriptor.input side.other
  buildInput : commuted.buildInput = descriptor.buildInput
  probeInput : commuted.probeInput = descriptor.probeInput
  outputColumns : commuted.outputColumns =
    descriptor.right.joinedColumns ++ descriptor.left.joinedColumns
  outputWidth : commuted.outputWidth = descriptor.outputWidth
  includeKeyColumns : commuted.includeKeyColumns = descriptor.includeKeyColumns
  preservesLeft : commuted.joinType.preservesLeft = descriptor.joinType.preservesRight
  preservesRight : commuted.joinType.preservesRight = descriptor.joinType.preservesLeft
  back : ∃ again, commuted.commute = some again ∧ again.identical descriptor = true
  /-- Only between like inputs that are treated alike is the plan the same. -/
  beq_iff : (commuted == descriptor) = true ↔ descriptor.left = descriptor.right ∧
    (descriptor.joinType = .inner ∨ descriptor.joinType = .fullOuter)
  withBuildSide (side : BuildSide) :
    (descriptor.withBuildSide side).commute = some (commuted.withBuildSide side.other)
  beq_congr (other : Descriptor T C) : (other == descriptor) = true →
    ∃ otherCommuted, other.commute = some otherCommuted ∧ (otherCommuted == commuted) = true

theorem exchanged_of_commute (found : descriptor.commute = some commuted) :
    Exchanged descriptor commuted := by
  obtain ⟨joinType, _, _, _, includeKeyColumns⟩ := commute_eq_some_iff.mp found
  refine
    { input := input_of_commute found
      buildInput := buildInput_of_commute found
      probeInput := probeInput_of_commute found
      outputColumns := outputColumns_of_commute found
      outputWidth := outputWidth_of_commute found
      includeKeyColumns := includeKeyColumns
      preservesLeft := JoinType.preservesLeft_of_commute joinType
      preservesRight := JoinType.preservesRight_of_commute joinType
      back := ⟨descriptor, commute_commute found, identical_iff.mpr rfl⟩
      beq_iff := ?_
      withBuildSide := commute_withBuildSide found
      beq_congr := ?_ }
  · rw [BEq.comm]
    exact beq_commute_iff found
  · intro other same
    rw [BEq.comm] at same
    obtain ⟨otherCommuted, otherFound, commutedSame⟩ := commute_of_beq same found
    rw [BEq.comm] at commutedSame
    exact ⟨otherCommuted, otherFound, commutedSame⟩

/-- Just the semi joins and the anti-semi joins do not commute, and every other descriptor has its
sides exchanged. -/
theorem commute_exchanges (descriptor : Descriptor T C) :
    (descriptor.commute = none ↔
      descriptor.joinType = .semi ∨ descriptor.joinType = .antiSemi) ∧
    ∀ commuted, descriptor.commute = some commuted → Exchanged descriptor commuted := by
  constructor
  · rw [commute_eq_none_iff, JoinType.not_mem_commutable_iff]
  · intro commuted found
    exact exchanged_of_commute found

/-- A left outer join that holds its right input becomes a right outer join that holds its left
input, which is the same table; it is another plan. -/
theorem commute_exchanges_leftOuter :
    let orders : JoinInput String String := ⟨"orders", "customer", ["id"]⟩
    let customers : JoinInput String String := ⟨"customers", "id", ["name", "city"]⟩
    let descriptor : Descriptor String String := ⟨orders, customers, .leftOuter, .right, true⟩
    let commuted : Descriptor String String := ⟨customers, orders, .rightOuter, .left, true⟩
    descriptor.commute = some commuted ∧ commuted.buildInput = customers ∧
      commuted.outputColumns = ["name", "city", "id"] ∧ ¬ (commuted == descriptor) = true := by
  intro orders customers descriptor commuted
  have found : descriptor.commute = some commuted := rfl
  have exchanged := (commute_exchanges descriptor).2 commuted found
  refine ⟨found, exchanged.buildInput, exchanged.outputColumns, ?_⟩
  rw [exchanged.beq_iff]
  decide

end Descriptor

end EquiJoin
