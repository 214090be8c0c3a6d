import EquiJoin.Proofs.Descriptor.Commute
import EquiJoin.Proofs.Descriptor.Delivery
import EquiJoin.Proofs.Distinct
import EquiJoin.Proofs.Memo.History
import Mathlib.Data.List.Perm.Subperm

/-!
# Deriving plans from plans

A step on an entry of a memo yields the same plan or the commuted one.  Every entry therefore stems
from a descriptor that was added as such, directly or by one swap, and however many derivations
follow one another the memo has at most two entries for every plan that was added
(`derivations_deduplicate`).
-/

set_option autoImplicit false

namespace EquiJoin

variable {T C : Type} [DecidableEq T] [DecidableEq C]

namespace Descriptor

def plan (descriptor : Descriptor T C) : JoinInput T C × JoinInput T C × JoinType :=
  (descriptor.left, descriptor.right, descriptor.joinType)

theorem plan_eq_iff {first second : Descriptor T C} :
    first.plan = second.plan ↔ (first == second) = true := by
  rw [beq_iff, plan, plan, Prod.mk.injEq, Prod.mk.injEq]

/-- Entries that differ from one another and each equal a member of a cover are no more than it. -/
theorem length_le_of_covered {entries cover : List (Descriptor T C)}
    (distinct : entries.Pairwise fun earlier later => (earlier == later) = false)
    (covered : ∀ entry ∈ entries, ∃ member ∈ cover, (entry == member) = true) :
    entries.length ≤ cover.length := by
  have nodup : (entries.map plan).Nodup := by
    rw [List.Nodup, List.pairwise_map]
    refine distinct.imp ?_
    intro earlier later different same
    rw [plan_eq_iff.mp same] at different
    cases different
  have subset : entries.map plan ⊆ cover.map plan := by
    intro plan listed
    obtain ⟨entry, entryListed, rfl⟩ := List.mem_map.mp listed
    obtain ⟨member, memberListed, same⟩ := covered entry entryListed
    exact List.mem_map.mpr ⟨member, memberListed, (plan_eq_iff.mpr same).symm⟩
  have bound := (List.subperm_of_subset nodup subset).length_le
  rwa [List.length_map, List.length_map] at bound

/-- The descriptor describes one of the plans, or a plan that one of them commutes to. -/
def StemsFrom (descriptor : Descriptor T C) (plans : List (Descriptor T C)) : Prop :=
  ∃ plan ∈ plans, (descriptor == plan) = true ∨
    ∃ commuted, plan.commute = some commuted ∧ (descriptor == commuted) = true

variable {descriptor other : Descriptor T C} {plans : List (Descriptor T C)}

theorem stemsFrom_of_mem (listed : descriptor ∈ plans) : descriptor.StemsFrom plans :=
  ⟨descriptor, listed, .inl (BEq.refl descriptor)⟩

theorem StemsFrom.of_beq (stems : descriptor.StemsFrom plans)
    (same : (other == descriptor) = true) : other.StemsFrom plans := by
  obtain ⟨plan, listed, direct | ⟨commuted, found, turned⟩⟩ := stems
  · exact ⟨plan, listed, .inl (BEq.trans same direct)⟩
  · exact ⟨plan, listed, .inr ⟨commuted, found, BEq.trans same turned⟩⟩

theorem StemsFrom.commute (stems : descriptor.StemsFrom plans)
    (swapped : descriptor.commute = some other) : other.StemsFrom plans := by
  obtain ⟨plan, listed, direct | ⟨commuted, found, turned⟩⟩ := stems
  · obtain ⟨planCommuted, planFound, equal⟩ := commute_of_beq direct swapped
    exact ⟨plan, listed, .inr ⟨planCommuted, planFound, equal⟩⟩
  · -- The second swap takes back the first.
    obtain ⟨back, backFound, equal⟩ := commute_of_beq turned swapped
    rw [commute_commute found] at backFound
    cases backFound
    exact ⟨plan, listed, .inl equal⟩

end Descriptor

open Descriptor (StemsFrom)

def Memo.directlyAdded (operations : List (Memo.Operation T C)) : List (Descriptor T C) :=
  operations.filterMap fun
    | .add descriptor => some descriptor
    | _ => none

variable [Reference T] [Reference C]

theorem Step.stemsFrom (faithful : Faithful T C) {entry result : Descriptor T C} {step : Step}
    {plans : List (Descriptor T C)} (stems : entry.StemsFrom plans)
    (yielded : step.apply entry = .descriptor result) : result.StemsFrom plans := by
  obtain swapped | ⟨side, rfl⟩ | rfl := faithful.yielded_cases yielded
  · exact stems.commute swapped
  · exact stems.of_beq (entry.withBuildSide_beq side)
  · exact stems

namespace Memo

variable {memo : Memo T C} {id : PlanId} {entry : Descriptor T C}

theorem stemsFrom_perform (faithful : Faithful T C) {plans : List (Descriptor T C)}
    {operation : Operation T C}
    (added : ∀ descriptor, operation = .add descriptor → descriptor ∈ plans)
    (stems : ∀ entry ∈ memo.entries, entry.StemsFrom plans) :
    ∀ entry ∈ (memo.perform operation).value.2.entries, entry.StemsFrom plans := by
  cases asked : memo.requested? operation with
  | none =>
      rw [(perform_of_unrequested asked).1]
      exact stems
  | some descriptor =>
      have requested : descriptor.StemsFrom plans := by
        cases operation with
        | add other =>
            cases asked
            exact Descriptor.stemsFrom_of_mem (added _ rfl)
        | lookup | get | dump | size => cases asked
        | derive id step =>
            obtain ⟨entry, found, yielded⟩ := requested?_derive_eq_some_iff.mp asked
            exact Step.stemsFrom faithful (stems entry (List.mem_of_getElem? found)) yielded
      rw [perform_of_requested asked]
      intro entry listed
      rcases mem_entries_add listed with earlier | rfl
      · exact stems entry earlier
      · exact requested

theorem stemsFrom_run (faithful : Faithful T C) {plans : List (Descriptor T C)}
    (operations : List (Operation T C))
    (added : ∀ descriptor, .add descriptor ∈ operations → descriptor ∈ plans)
    (stems : ∀ entry ∈ memo.entries, entry.StemsFrom plans) :
    ∀ entry ∈ (memo.run operations).value.2.entries, entry.StemsFrom plans := by
  induction operations generalizing memo with
  | nil => exact stems
  | cons operation operations ih =>
      apply ih
      · intro descriptor listed
        exact added descriptor (List.mem_cons_of_mem operation listed)
      · apply stemsFrom_perform faithful ?_ stems
        rintro descriptor rfl
        exact added descriptor List.mem_cons_self

theorem Coherent.size_le_of_stemsFrom (coherent : memo.Coherent) {plans : List (Descriptor T C)}
    (stems : ∀ entry ∈ memo.entries, entry.StemsFrom plans) :
    memo.size ≤ 2 * plans.eraseDups.length := by
  have covered : ∀ entry ∈ memo.entries,
      ∃ member ∈ plans.eraseDups ++ plans.eraseDups.filterMap Descriptor.commute,
        (entry == member) = true := by
    intro entry listed
    obtain ⟨plan, planListed, stem⟩ := stems entry listed
    obtain ⟨kept, keptListed, same⟩ := List.exists_mem_eraseDups_beq planListed
    rcases stem with direct | ⟨commuted, found, turned⟩
    · exact ⟨kept, List.mem_append_left _ keptListed, BEq.trans direct (BEq.symm same)⟩
    · obtain ⟨keptCommuted, keptFound, equal⟩ := Descriptor.commute_of_beq (BEq.symm same) found
      exact ⟨keptCommuted,
        List.mem_append_right _ (List.mem_filterMap.mpr ⟨kept, keptListed, keptFound⟩),
        BEq.trans turned equal⟩
  have bound := Descriptor.length_le_of_covered coherent.distinct covered
  have swaps := List.length_filterMap_le Descriptor.commute plans.eraseDups
  rw [List.length_append] at bound
  rw [size]
  omega

/-! ## Derivations that find their plan -/

theorem Coherent.derive_of_beq (coherent : memo.Coherent) (found : memo.get? id = some entry)
    {step : Step} {result : Descriptor T C} (yielded : step.apply entry = .descriptor result)
    (same : (entry == result) = true) :
    (memo.perform (.derive id step)).value = (.registered ⟨id, false⟩, memo) := by
  rw [perform_derive found, yielded]
  dsimp only
  rw [add_of_known (coherent.lookup_eq_some_iff.mpr ⟨entry, found, same⟩)]

theorem Coherent.derive_withBuildSide (coherent : memo.Coherent)
    (found : memo.get? id = some entry) (side : BuildSide) :
    (memo.perform (.derive id (.withBuildSide side))).value =
      (.registered ⟨id, false⟩, memo) :=
  coherent.derive_of_beq found rfl (BEq.symm (entry.withBuildSide_beq side))

theorem Coherent.derive_deliver (coherent : memo.Coherent) (faithful : Faithful T C)
    (found : memo.get? id = some entry) {delivery : Delivery}
    (arrives : delivery.Arrives entry) :
    (memo.perform (.derive id (.deliver delivery))).value = (.registered ⟨id, false⟩, memo) :=
  coherent.derive_of_beq found (faithful.arrived arrives) (BEq.refl entry)

theorem derive_commute_of_none (found : memo.get? id = some entry)
    (absent : entry.commute = none) :
    (memo.perform (.derive id .commute)).value = (.underived .absent, memo) := by
  rw [perform_derive found, Step.apply, absent]
  rfl

theorem perform_derive_commute (found : memo.get? id = some entry)
    {commuted : Descriptor T C} (swapped : entry.commute = some commuted) :
    (memo.perform (.derive id .commute)).value =
      (.registered (memo.add commuted).1, (memo.add commuted).2) := by
  rw [perform_derive found, Step.apply, swapped]
  rfl

theorem Coherent.derive_commute_back (coherent : memo.Coherent)
    (found : memo.get? id = some entry) {commuted : Descriptor T C}
    (swapped : entry.commute = some commuted) {otherId : PlanId}
    (known : memo.lookup commuted = some otherId) :
    (memo.perform (.derive otherId .commute)).value = (.registered ⟨id, false⟩, memo) := by
  obtain ⟨other, otherFound, same⟩ := coherent.lookup_eq_some_iff.mp known
  obtain ⟨back, backFound, equal⟩ :=
    Descriptor.commute_of_beq (BEq.symm same) (Descriptor.commute_commute swapped)
  have backKnown : memo.lookup back = some id :=
    coherent.lookup_eq_some_iff.mpr ⟨entry, found, equal⟩
  rw [perform_derive_commute otherFound backFound, add_of_known backKnown]

/-- A commuted plan has the id of the entry that it comes from exactly if it is the same plan. -/
theorem Coherent.add_commuted_id_eq_iff (coherent : memo.Coherent)
    (found : memo.get? id = some entry) {commuted : Descriptor T C}
    (swapped : entry.commute = some commuted) :
    (memo.add commuted).1.id = id ↔ entry.left = entry.right ∧
      (entry.joinType = .inner ∨ entry.joinType = .fullOuter) := by
  rw [← Descriptor.beq_commute_iff swapped]
  constructor
  · intro sameId
    have known := lookup_add_self memo commuted
    rw [sameId] at known
    obtain ⟨other, otherFound, same⟩ := (coherent.add commuted).lookup_eq_some_iff.mp known
    rw [get?_of_grown (prefix_add memo commuted) found] at otherFound
    cases otherFound
    exact same
  · intro same
    rw [add_of_known (coherent.lookup_eq_some_iff.mpr ⟨entry, found, same⟩)]

/-! ## Any session -/

/-- What derivations from the entries of a memo lead to, if some plans were added to it. -/
structure ClosedUnderDerivation (memo : Memo T C) (plans : List (Descriptor T C)) : Prop where
  derive_withBuildSide {id : PlanId} {entry : Descriptor T C} (side : BuildSide) :
    memo.get? id = some entry →
      (memo.perform (.derive id (.withBuildSide side))).value = (.registered ⟨id, false⟩, memo)
  derive_deliver {id : PlanId} {entry : Descriptor T C} {delivery : Delivery} :
    memo.get? id = some entry → delivery.Arrives entry →
      (memo.perform (.derive id (.deliver delivery))).value = (.registered ⟨id, false⟩, memo)
  /-- The swap back finds the entry again, at once or after any further operations. -/
  derive_commute {id : PlanId} {entry : Descriptor T C} :
    memo.get? id = some entry → entry.joinType ∈ JoinType.commutable →
      ∃ registration next,
        (memo.perform (.derive id .commute)).value = (.registered registration, next) ∧
        (∀ operations, let later := (next.run operations).value.2
          (later.perform (.derive registration.id .commute)).value =
            (.registered ⟨id, false⟩, later)) ∧
        (registration.id = id ↔ entry.left = entry.right ∧
          (entry.joinType = .inner ∨ entry.joinType = .fullOuter))
  derive_commute_none {id : PlanId} {entry : Descriptor T C} :
    memo.get? id = some entry → entry.joinType ∉ JoinType.commutable →
      (memo.perform (.derive id .commute)).value = (.underived .absent, memo)
  stemsFrom : ∀ entry ∈ memo.entries, entry.StemsFrom plans
  size_le : memo.size ≤ 2 * plans.eraseDups.length

theorem closed_run (faithful : Faithful T C) (operations : List (Operation T C)) :
    (run empty operations).value.2.ClosedUnderDerivation (directlyAdded operations) := by
  have coherent := coherent_empty.run operations
  have stems : ∀ entry ∈ (run empty operations).value.2.entries,
      entry.StemsFrom (directlyAdded operations) := by
    apply stemsFrom_run faithful operations
    · intro descriptor listed
      exact List.mem_filterMap.mpr ⟨_, listed, rfl⟩
    · intro entry listed
      cases listed
  refine ⟨fun side found => coherent.derive_withBuildSide found side,
    fun found arrives => coherent.derive_deliver faithful found arrives, ?_, ?_, stems,
    coherent.size_le_of_stemsFrom stems⟩
  · intro id entry found commutes
    obtain ⟨commuted, swapped⟩ :=
      Option.isSome_iff_exists.mp (Descriptor.commute_isSome_iff.mpr commutes)
    refine ⟨_, _, perform_derive_commute found swapped, ?_,
      coherent.add_commuted_id_eq_iff found swapped⟩
    intro more
    have kept := get?_of_grown (prefix_add (run empty operations).value.2 commuted) found
    exact ((coherent.add commuted).run more).derive_commute_back (get?_run kept more) swapped
      (lookup_run (lookup_add_self _ commuted) more)
  · intro id entry found stays
    exact derive_commute_of_none found (Descriptor.commute_eq_none_iff.mpr stays)

/-- In every session, over bare names as over handles, derivations lead back to their plans, and
the memo holds at most two entries for every plan that was added as such. -/
theorem derivations_deduplicate :
    (∀ operations : List (Operation String String),
      (run empty operations).value.2.ClosedUnderDerivation (directlyAdded operations)) ∧
    (∀ operations : List (Operation TableHandle ColumnHandle),
      (run empty operations).value.2.ClosedUnderDerivation (directlyAdded operations)) := by
  constructor
  · exact closed_run faithful_names
  · exact closed_run faithful_handles

/-- A left outer join that was added and its commuted form lead to each other, and they are all that
there is. -/
theorem derivations_deduplicate_leftOuter :
    let plan : Descriptor String String :=
      ⟨⟨"orders", "customer", ["id"]⟩, ⟨"customers", "id", []⟩, .leftOuter, .right, false⟩
    let memo := (run empty [.add plan]).value.2
    ∃ registration next,
      (memo.perform (.derive ⟨0⟩ .commute)).value = (.registered registration, next) ∧
      registration.id ≠ ⟨0⟩ ∧
      (next.perform (.derive registration.id .commute)).value = (.registered ⟨⟨0⟩, false⟩, next) ∧
      next.size ≤ 2 := by
  intro plan memo
  have found : memo.get? ⟨0⟩ = some plan := get?_run_add_empty plan
  obtain ⟨registration, next, answer, back, sameId⟩ :=
    (derivations_deduplicate.1 [.add plan]).derive_commute found (by decide)
  have size := (derivations_deduplicate.1 [.add plan, .derive ⟨0⟩ .commute]).size_le
  have last : (run empty [.add plan, .derive ⟨0⟩ .commute]).value.2 = next :=
    congrArg Prod.snd answer
  rw [last] at size
  exact ⟨registration, next, answer, fun same => absurd (sameId.mp same).1 (by decide), back [],
    size⟩

/-- Nothing is derived from the entry of a semi join by a swap, so no id is answered. -/
theorem semi_join_derives_no_id :
    let semi : Descriptor String String :=
      ⟨⟨"orders", "customer", ["id"]⟩, ⟨"customers", "id", []⟩, .semi, .right, false⟩
    let memo := (run empty [.add semi]).value.2
    memo.get? ⟨0⟩ = some semi ∧
      ¬ ∃ registration,
        (memo.perform (.derive ⟨0⟩ .commute)).value.1 = .registered registration := by
  intro semi memo
  have found : memo.get? ⟨0⟩ = some semi := get?_run_add_empty semi
  refine ⟨found, ?_⟩
  rintro ⟨registration, answer⟩
  rw [derive_commute_of_none found rfl] at answer
  cases answer

end Memo

end EquiJoin
