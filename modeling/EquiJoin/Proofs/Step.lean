import EquiJoin.Proofs.Descriptor.Commute
import EquiJoin.Proofs.Descriptor.Delivery
import Mathlib.Algebra.Ring.Parity

/-!
# Runs of transformations

A run of steps amounts to very little: the inputs are swapped if the number of swaps is odd, the
build side is the one that was set last, turned over by every swap since, and nothing else changes
(`runs_normalForm`).  Swapping is an involution and a delivery changes nothing, so between two
changes of the build side only the number of swaps counts.
-/

set_option autoImplicit false

namespace EquiJoin

variable {T C : Type}

namespace Descriptor

/-- The commuted descriptor, or the descriptor itself if it does not commute. -/
def turn (descriptor : Descriptor T C) : Descriptor T C :=
  descriptor.commute.getD descriptor

variable {descriptor other : Descriptor T C}

theorem commute_eq_turn (commutes : descriptor.joinType ∈ JoinType.commutable) :
    descriptor.commute = some descriptor.turn := by
  obtain ⟨commuted, found⟩ := Option.isSome_iff_exists.mp (commute_isSome_iff.mpr commutes)
  rw [turn, found, Option.getD_some]

theorem turn_eq_self (stays : descriptor.joinType ∉ JoinType.commutable) :
    descriptor.turn = descriptor := by
  rw [turn, commute_eq_none_iff.mpr stays, Option.getD_none]

theorem mem_commutable_turn : descriptor.turn.joinType ∈ JoinType.commutable ↔
    descriptor.joinType ∈ JoinType.commutable := by
  by_cases commutes : descriptor.joinType ∈ JoinType.commutable
  · have back := commute_commute (commute_eq_turn commutes)
    rw [← commute_isSome_iff, back]
    exact iff_of_true rfl commutes
  · rw [turn_eq_self commutes]

theorem turn_involutive : Function.Involutive (turn : Descriptor T C → Descriptor T C) := by
  intro descriptor
  by_cases commutes : descriptor.joinType ∈ JoinType.commutable
  · have back := commute_commute (commute_eq_turn commutes)
    exact Option.some.inj ((commute_eq_turn (mem_commutable_turn.mpr commutes)).symm.trans back)
  · rw [turn_eq_self commutes, turn_eq_self commutes]

theorem includeKeyColumns_turn :
    descriptor.turn.includeKeyColumns = descriptor.includeKeyColumns := by
  by_cases commutes : descriptor.joinType ∈ JoinType.commutable
  · exact (commute_eq_some_iff.mp (commute_eq_turn commutes)).2.2.2.2
  · rw [turn_eq_self commutes]

theorem buildSide_iterate_turn (commutes : descriptor.joinType ∈ JoinType.commutable)
    (count : Nat) : (turn^[count] descriptor).buildSide =
      BuildSide.other^[count] descriptor.buildSide := by
  rcases Nat.even_or_odd count with even | odd
  · rw [turn_involutive.iterate_even even,
      Function.Involutive.iterate_even BuildSide.other_other even]
    rfl
  · rw [turn_involutive.iterate_odd odd,
      Function.Involutive.iterate_odd BuildSide.other_other odd]
    exact (commute_eq_some_iff.mp (commute_eq_turn commutes)).2.2.2.1

variable [DecidableEq T] [DecidableEq C]

theorem turn_beq (same : (descriptor == other) = true) :
    (descriptor.turn == other.turn) = true := by
  obtain ⟨_, _, joinType⟩ := beq_iff.mp same
  by_cases commutes : descriptor.joinType ∈ JoinType.commutable
  · obtain ⟨commuted, found, equal⟩ := commute_of_beq same (commute_eq_turn commutes)
    rw [joinType] at commutes
    rwa [← Option.some.inj ((commute_eq_turn commutes).symm.trans found)] at equal
  · rw [turn_eq_self commutes]
    rw [joinType] at commutes
    rwa [turn_eq_self commutes]

theorem iterate_turn_beq (same : (descriptor == other) = true) (count : Nat) :
    (turn^[count] descriptor == turn^[count] other) = true := by
  induction count generalizing descriptor other with
  | zero => exact same
  | succ count ih => exact ih (turn_beq same)

end Descriptor

namespace Step

open Descriptor (turn)

def isCommute : Step → Bool
  | .commute => true
  | _ => false

/-- The number of swaps among the steps from a join type on, if it commutes at all. -/
def swaps (joinType : JoinType) (steps : List Step) : Nat :=
  if joinType ∈ JoinType.commutable then steps.countP isCommute else 0

theorem iterate_turn_countP (descriptor : Descriptor T C) (steps : List Step) :
    turn^[steps.countP isCommute] descriptor =
      turn^[swaps descriptor.joinType steps] descriptor := by
  rw [swaps]
  split
  · rfl
  · next stays =>
      rw [Function.iterate_fixed (Descriptor.turn_eq_self stays), Function.iterate_zero_apply]

variable [Reference T] [Reference C] {descriptor : Descriptor T C}

theorem after_commute :
    (Step.commute.apply descriptor).after descriptor = descriptor.turn := by
  rw [apply, turn]
  cases descriptor.commute <;> rfl

theorem after_deliver (faithful : Faithful T C) (delivery : Delivery) :
    ((Step.deliver delivery).apply descriptor).after descriptor = descriptor := by
  by_cases arrives : delivery.Arrives descriptor
  · rw [faithful.arrived arrives]
    rfl
  · obtain ⟨report, refused⟩ := faithful.cut arrives
    rw [refused]
    rfl

theorem run_keeps (Kept : Descriptor T C → Prop)
    (keep : ∀ (current : Descriptor T C) (step : Step), Kept current →
      Kept ((step.apply current).after current))
    (steps : List Step) (start : Kept descriptor) : Kept (run descriptor steps) := by
  induction steps generalizing descriptor with
  | nil => exact start
  | cons step steps ih => exact ih (keep descriptor step start)

theorem includeKeyColumns_run (faithful : Faithful T C) (steps : List Step) :
    (run descriptor steps).includeKeyColumns = descriptor.includeKeyColumns := by
  refine run_keeps (fun current => current.includeKeyColumns = _) ?_ steps rfl
  intro current step kept
  cases step with
  | commute => rw [after_commute, Descriptor.includeKeyColumns_turn, kept]
  | withBuildSide side => exact kept
  | deliver delivery => rw [after_deliver faithful, kept]

theorem mem_commutable_run (faithful : Faithful T C) (steps : List Step) :
    (run descriptor steps).joinType ∈ JoinType.commutable ↔
      descriptor.joinType ∈ JoinType.commutable := by
  refine run_keeps (fun current => current.joinType ∈ _ ↔ _) ?_ steps Iff.rfl
  intro current step kept
  cases step with
  | commute => rw [after_commute, Descriptor.mem_commutable_turn, kept]
  | withBuildSide side => exact kept
  | deliver delivery => rw [after_deliver faithful, kept]

/-! ## Runs -/

/-- Only the swaps among the steps tell in the plan. -/
theorem run_beq [DecidableEq T] [DecidableEq C] (faithful : Faithful T C) (steps : List Step) :
    (run descriptor steps == turn^[steps.countP isCommute] descriptor) = true := by
  induction steps generalizing descriptor with
  | nil => exact BEq.refl descriptor
  | cons step steps ih =>
      change (run ((step.apply descriptor).after descriptor) steps == _) = true
      cases step with
      | commute =>
          rw [after_commute, List.countP_cons_of_pos rfl]
          exact ih
      | withBuildSide side =>
          rw [List.countP_cons_of_neg Bool.false_ne_true]
          -- What was set is a hint, and the swaps that follow keep equal plans equal.
          exact BEq.trans ih
            (Descriptor.iterate_turn_beq (descriptor.withBuildSide_beq side) _)
      | deliver delivery =>
          rw [after_deliver faithful, List.countP_cons_of_neg Bool.false_ne_true]
          exact ih

theorem run_beq_swaps [DecidableEq T] [DecidableEq C] (faithful : Faithful T C)
    (descriptor : Descriptor T C) (steps : List Step) :
    (run descriptor steps == turn^[swaps descriptor.joinType steps] descriptor) = true := by
  rw [← iterate_turn_countP]
  exact run_beq faithful steps

theorem run_of_unset (faithful : Faithful T C) {steps : List Step}
    (unset : ∀ side, .withBuildSide side ∉ steps) :
    run descriptor steps = turn^[steps.countP isCommute] descriptor := by
  induction steps generalizing descriptor with
  | nil => rfl
  | cons step steps ih =>
      change run ((step.apply descriptor).after descriptor) steps = _
      have later : ∀ side, .withBuildSide side ∉ steps :=
        fun side listed => unset side (List.mem_cons_of_mem step listed)
      rw [ih later]
      cases step with
      | commute => rw [after_commute, List.countP_cons_of_pos rfl, Function.iterate_succ_apply]
      | withBuildSide side => exact absurd List.mem_cons_self (unset side)
      | deliver delivery =>
          rw [after_deliver faithful, List.countP_cons_of_neg Bool.false_ne_true]

theorem run_append (front back : List Step) :
    run descriptor (front ++ back) = run (run descriptor front) back :=
  List.foldl_append

theorem buildSide_run_of_unset (faithful : Faithful T C) {steps : List Step}
    (unset : ∀ side, .withBuildSide side ∉ steps) : (run descriptor steps).buildSide =
      BuildSide.other^[swaps descriptor.joinType steps] descriptor.buildSide := by
  rw [run_of_unset faithful unset, iterate_turn_countP]
  by_cases commutes : descriptor.joinType ∈ JoinType.commutable
  · exact Descriptor.buildSide_iterate_turn commutes _
  · rw [swaps, if_neg commutes]
    rfl

theorem buildSide_run_of_set (faithful : Faithful T C) (before : List Step) (side : BuildSide)
    {behind : List Step} (unset : ∀ other, .withBuildSide other ∉ behind) :
    (run descriptor (before ++ .withBuildSide side :: behind)).buildSide =
      BuildSide.other^[swaps descriptor.joinType behind] side := by
  have same : swaps ((run descriptor before).withBuildSide side).joinType behind =
      swaps descriptor.joinType behind := by
    simp only [swaps, Descriptor.withBuildSide, mem_commutable_run faithful]
  rw [run_append, ← same]
  exact buildSide_run_of_unset faithful unset

/-- What a run of steps comes to: its swaps alone decide on the plan, and the build side is the
last one that was set, or the first one, turned over by every swap since. -/
structure NormalForm [DecidableEq T] [DecidableEq C] (descriptor : Descriptor T C)
    (steps : List Step) (final : Descriptor T C) : Prop where
  of_even : Even (swaps descriptor.joinType steps) → final.left = descriptor.left ∧
    final.right = descriptor.right ∧ final.joinType = descriptor.joinType ∧
      (final == descriptor) = true
  of_odd : Odd (swaps descriptor.joinType steps) → final.left = descriptor.right ∧
    final.right = descriptor.left ∧ descriptor.joinType.commute = some final.joinType
  includeKeyColumns : final.includeKeyColumns = descriptor.includeKeyColumns
  buildSide_unset : (∀ side, .withBuildSide side ∉ steps) → final.buildSide =
    BuildSide.other^[swaps descriptor.joinType steps] descriptor.buildSide
  buildSide_set (before behind : List Step) (side : BuildSide) :
    steps = before ++ .withBuildSide side :: behind →
      (∀ other, .withBuildSide other ∉ behind) →
        final.buildSide = BuildSide.other^[swaps descriptor.joinType behind] side
  commute_isSome : final.commute.isSome = true ↔ descriptor.joinType ∈ JoinType.commutable

theorem normalForm_of_faithful [DecidableEq T] [DecidableEq C] (faithful : Faithful T C)
    (descriptor : Descriptor T C) (steps : List Step) :
    NormalForm descriptor steps (run descriptor steps) where
  of_even even := by
    have plan := run_beq_swaps faithful descriptor steps
    rw [Descriptor.turn_involutive.iterate_even even, id] at plan
    obtain ⟨left, right, joinType⟩ := Descriptor.beq_iff.mp plan
    exact ⟨left, right, joinType, plan⟩
  of_odd odd := by
    have plan := run_beq_swaps faithful descriptor steps
    rw [Descriptor.turn_involutive.iterate_odd odd] at plan
    obtain ⟨left, right, joinType⟩ := Descriptor.beq_iff.mp plan
    -- Nothing is counted unless the join type commutes, and nothing is even.
    have commutes : descriptor.joinType ∈ JoinType.commutable := by
      by_contra stays
      rw [swaps, if_neg stays] at odd
      exact absurd odd (by decide)
    obtain ⟨turned, turnedLeft, turnedRight, _⟩ :=
      Descriptor.commute_eq_some_iff.mp (Descriptor.commute_eq_turn commutes)
    rw [left, right, joinType]
    exact ⟨turnedLeft, turnedRight, turned⟩
  includeKeyColumns := includeKeyColumns_run faithful steps
  buildSide_unset := buildSide_run_of_unset faithful
  buildSide_set before behind side shape unset := by
    rw [shape]
    exact buildSide_run_of_set faithful before side unset
  commute_isSome := by
    rw [Descriptor.commute_isSome_iff]
    exact mem_commutable_run faithful steps

/-- Over bare names as over handles, a run of any length comes to its normal form. -/
theorem runs_normalForm :
    (∀ (descriptor : Descriptor String String) (steps : List Step),
      NormalForm descriptor steps (run descriptor steps)) ∧
    (∀ (descriptor : Descriptor TableHandle ColumnHandle) (steps : List Step),
      NormalForm descriptor steps (run descriptor steps)) := by
  constructor
  · exact normalForm_of_faithful faithful_names
  · exact normalForm_of_faithful faithful_handles

end Step

end EquiJoin
