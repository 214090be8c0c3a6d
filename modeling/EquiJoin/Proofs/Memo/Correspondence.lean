import EquiJoin.Proofs.Memo.Derivation
import Mathlib.Data.Set.Function

/-!
# Memos of the same plans

Memos that know the same plans have as many entries, and the id of a plan in one of them
corresponds to its id in the other: they differ by a bijection (`Coherent.bijOn_rename`).
-/

set_option autoImplicit false

namespace EquiJoin.Memo

variable {T C : Type} [DecidableEq T] [DecidableEq C] [Fingerprint T] [Fingerprint C]
  {memo later : Memo T C} {descriptor other : Descriptor T C} {id otherId : PlanId}

theorem lookup_congr (memo : Memo T C) (same : (descriptor == other) = true) :
    memo.lookup descriptor = memo.lookup other :=
  Std.HashMap.getElem?_congr same

theorem Coherent.countP_entries (coherent : memo.Coherent)
    (known : memo.lookup descriptor = some id) :
    memo.entries.countP (· == descriptor) = 1 := by
  have most : memo.entries.countP (· == descriptor) ≤ 1 := by
    have covered : ∀ entry ∈ memo.entries.filter (· == descriptor),
        ∃ member ∈ [descriptor], (entry == member) = true := fun entry listed =>
      ⟨descriptor, List.mem_singleton_self _, (List.mem_filter.mp listed).2⟩
    rw [List.countP_eq_length_filter]
    exact Descriptor.length_le_of_covered (coherent.distinct.filter _) covered
  have least : 0 < memo.entries.countP (· == descriptor) := by
    obtain ⟨entry, found, same⟩ := coherent.lookup_eq_some_iff.mp known
    exact List.countP_pos_iff.mpr ⟨entry, List.mem_of_getElem? found, same⟩
  omega

theorem Coherent.exists_lookup_iff (coherent : memo.Coherent) :
    (∃ descriptor, memo.lookup descriptor = some id) ↔ id.index < memo.size := by
  rw [← get?_isSome_iff, Option.isSome_iff_exists]
  constructor
  · rintro ⟨descriptor, known⟩
    obtain ⟨entry, found, _⟩ := coherent.lookup_eq_some_iff.mp known
    exact ⟨entry, found⟩
  · rintro ⟨entry, found⟩
    exact ⟨entry, coherent.lookup_eq_some_iff.mpr ⟨entry, found, BEq.refl entry⟩⟩

theorem Coherent.id_eq_iff (coherent : memo.Coherent) (known : memo.lookup descriptor = some id)
    (otherKnown : memo.lookup other = some otherId) :
    id = otherId ↔ (descriptor == other) = true := by
  constructor
  · rintro rfl
    obtain ⟨entry, found, same⟩ := coherent.lookup_eq_some_iff.mp known
    obtain ⟨otherEntry, otherFound, otherSame⟩ := coherent.lookup_eq_some_iff.mp otherKnown
    rw [found] at otherFound
    cases otherFound
    exact BEq.trans (BEq.symm same) otherSame
  · intro same
    rw [lookup_congr memo same, otherKnown] at known
    exact (Option.some.inj known).symm

def Covers (later memo : Memo T C) : Prop :=
  ∀ descriptor id, memo.lookup descriptor = some id →
    ∃ laterId, later.lookup descriptor = some laterId

/-- The id under which the later memo knows the plan of an id. -/
def rename (memo later : Memo T C) (id : PlanId) : PlanId :=
  ((memo.get? id).bind later.lookup).getD id

theorem Coherent.rename_eq (coherent : memo.Coherent) (known : memo.lookup descriptor = some id)
    (laterKnown : later.lookup descriptor = some otherId) : memo.rename later id = otherId := by
  obtain ⟨entry, found, same⟩ := coherent.lookup_eq_some_iff.mp known
  rw [rename, found, Option.bind_some, lookup_congr later same, laterKnown, Option.getD_some]

theorem Coherent.bijOn_rename (coherent : memo.Coherent) (laterCoherent : later.Coherent)
    (covers : later.Covers memo) (covered : memo.Covers later) :
    Set.BijOn (memo.rename later) {id | id.index < memo.size} {id | id.index < later.size} := by
  refine ⟨?_, ?_, ?_⟩
  · intro id inside
    obtain ⟨plan, known⟩ := coherent.exists_lookup_iff.mpr inside
    obtain ⟨laterId, laterKnown⟩ := covers plan id known
    rw [coherent.rename_eq known laterKnown]
    exact laterCoherent.exists_lookup_iff.mp ⟨plan, laterKnown⟩
  · intro id inside other otherInside same
    obtain ⟨plan, known⟩ := coherent.exists_lookup_iff.mpr inside
    obtain ⟨otherPlan, otherKnown⟩ := coherent.exists_lookup_iff.mpr otherInside
    obtain ⟨laterId, laterKnown⟩ := covers plan id known
    obtain ⟨laterOther, laterOtherKnown⟩ := covers otherPlan other otherKnown
    rw [coherent.rename_eq known laterKnown, coherent.rename_eq otherKnown laterOtherKnown] at same
    exact (coherent.id_eq_iff known otherKnown).mpr
      ((laterCoherent.id_eq_iff laterKnown laterOtherKnown).mp same)
  · intro laterId inside
    obtain ⟨plan, laterKnown⟩ := laterCoherent.exists_lookup_iff.mpr inside
    obtain ⟨id, known⟩ := covered plan laterId laterKnown
    exact ⟨id, coherent.exists_lookup_iff.mp ⟨plan, known⟩, coherent.rename_eq known laterKnown⟩

/-- A memo that knows the plans of a list and no others has one entry for each of them. -/
theorem Coherent.size_eq_of_known (coherent : memo.Coherent) {plans : List (Descriptor T C)}
    (listed : ∀ entry ∈ memo.entries, entry ∈ plans)
    (known : ∀ plan ∈ plans, ∃ id, memo.lookup plan = some id) :
    memo.size = plans.eraseDups.length := by
  apply Nat.le_antisymm
  · refine Descriptor.length_le_of_covered coherent.distinct ?_
    intro entry member
    obtain ⟨kept, keptListed, same⟩ := List.exists_mem_eraseDups_beq (listed entry member)
    exact ⟨kept, keptListed, BEq.symm same⟩
  · refine Descriptor.length_le_of_covered plans.pairwise_eraseDups_beq ?_
    intro kept member
    obtain ⟨id, found⟩ := known kept (plans.eraseDups_sublist.subset member)
    obtain ⟨entry, entryFound, same⟩ := coherent.lookup_eq_some_iff.mp found
    exact ⟨entry, List.mem_of_getElem? entryFound, BEq.symm same⟩

end EquiJoin.Memo
