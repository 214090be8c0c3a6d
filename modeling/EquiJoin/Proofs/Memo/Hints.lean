import EquiJoin.Proofs.Descriptor.Commute
import EquiJoin.Proofs.Memo.Session
import Mathlib.Data.List.Forall2

/-!
# Hints and plan ids

Two sessions are alike if they ask for the same in the same order, except that their descriptors
and their build sides may differ in hints.  The memos of such sessions keep different descriptors,
but entry by entry they keep equal plans (`Alike`).  Every operation keeps them so and is answered
alike, so that the ids do not tell the hints (`hints_unobservable`).
-/

set_option autoImplicit false

namespace EquiJoin

section Relations

variable {T C : Type} [DecidableEq T] [DecidableEq C]

theorem Descriptor.beq_congr {first other second otherSecond : Descriptor T C}
    (same : (first == other) = true) (sameSecond : (second == otherSecond) = true) :
    (first == second) = (other == otherSecond) := by
  rw [BEq.congr_left same, BEq.congr_right sameSecond]

/-- Both commute, or both choose a build side, which need not be the same. -/
inductive Step.Alike : Step → Step → Prop where
  | commute : Alike .commute .commute
  | withBuildSide (side otherSide : BuildSide) :
      Alike (.withBuildSide side) (.withBuildSide otherSide)

inductive Outcome.Alike : Outcome T C → Outcome T C → Prop where
  | descriptor {result other : Descriptor T C} :
      (result == other) = true → Alike (.descriptor result) (.descriptor other)
  | absent : Alike .absent .absent

inductive Memo.Operation.Alike : Memo.Operation T C → Memo.Operation T C → Prop where
  | add {descriptor other : Descriptor T C} :
      (descriptor == other) = true → Alike (.add descriptor) (.add other)
  | lookup {descriptor other : Descriptor T C} :
      (descriptor == other) = true → Alike (.lookup descriptor) (.lookup other)
  | get (id : PlanId) : Alike (.get id) (.get id)
  | derive (id : PlanId) {step otherStep : Step} :
      Step.Alike step otherStep → Alike (.derive id step) (.derive id otherStep)
  | dump : Alike .dump .dump
  | size : Alike .size .size

inductive Memo.Answer.Alike : Memo.Answer T C → Memo.Answer T C → Prop where
  | registered (registration : Registration) :
      Alike (.registered registration) (.registered registration)
  | found (id : Option PlanId) : Alike (.found id) (.found id)
  | entry {descriptor other : Option (Descriptor T C)} :
      Option.Rel (fun first second => (first == second) = true) descriptor other →
        Alike (.entry descriptor) (.entry other)
  | underived {outcome other : Outcome T C} :
      Outcome.Alike outcome other → Alike (.underived outcome) (.underived other)
  | done (size : Option Nat) : Alike (@Answer.done T C size) (@Answer.done T C size)

theorem Step.Alike.apply [Reference T] [Reference C] {step otherStep : Step}
    {entry other : Descriptor T C} (alike : Step.Alike step otherStep)
    (same : (entry == other) = true) :
    Outcome.Alike (step.apply entry) (otherStep.apply other) := by
  cases alike with
  | withBuildSide side otherSide =>
      refine .descriptor (BEq.trans (entry.withBuildSide_beq side) (BEq.trans same ?_))
      exact BEq.symm (other.withBuildSide_beq otherSide)
  | commute =>
      rw [Step.apply, Step.apply]
      cases found : entry.commute with
      | some commuted =>
          obtain ⟨otherCommuted, otherFound, equal⟩ := Descriptor.commute_of_beq same found
          rw [otherFound]
          exact .descriptor equal
      | none =>
          have stays := Descriptor.commute_eq_none_iff.mp found
          rw [(Descriptor.beq_iff.mp same).2.2] at stays
          rw [Descriptor.commute_eq_none_iff.mpr stays]
          exact .absent

end Relations

namespace Memo

section Memos

variable {T C : Type} [DecidableEq T] [DecidableEq C] [Fingerprint T] [Fingerprint C]

/-- The memos keep equal plans under the same ids. -/
structure Alike (memo other : Memo T C) : Prop where
  coherent : memo.Coherent
  otherCoherent : other.Coherent
  entries : List.Forall₂ (fun entry otherEntry => (entry == otherEntry) = true)
    memo.entries other.entries

namespace Alike

variable {memo other : Memo T C} {descriptor otherDescriptor : Descriptor T C}

theorem empty : Alike (.empty : Memo T C) .empty where
  coherent := coherent_empty
  otherCoherent := coherent_empty
  entries := .nil

theorem size_eq (alike : memo.Alike other) : memo.size = other.size :=
  alike.entries.length_eq

theorem get? (alike : memo.Alike other) (id : PlanId) :
    Option.Rel (fun entry otherEntry => (entry == otherEntry) = true)
      (memo.get? id) (other.get? id) := by
  have entries := alike.entries
  rw [Memo.get?, Memo.get?]
  generalize memo.entries = kept, other.entries = otherKept, id.index = index at entries ⊢
  induction entries generalizing index with
  | nil => exact .none
  | cons same _ ih =>
      cases index with
      | zero => exact .some same
      | succ index => exact ih index

theorem lookup_eq (alike : memo.Alike other) (same : (descriptor == otherDescriptor) = true) :
    memo.lookup descriptor = other.lookup otherDescriptor := by
  have entries := alike.entries
  rw [alike.coherent.lookup_eq_scan, alike.otherCoherent.lookup_eq_scan]
  congr 1
  generalize memo.entries = kept, other.entries = otherKept at entries ⊢
  induction entries with
  | nil => rfl
  | cons sameEntry _ ih =>
      rw [List.findIdx?_cons, List.findIdx?_cons, ih, Descriptor.beq_congr sameEntry same]

theorem add (alike : memo.Alike other) (same : (descriptor == otherDescriptor) = true) :
    (memo.add descriptor).1 = (other.add otherDescriptor).1 ∧
      (memo.add descriptor).2.Alike (other.add otherDescriptor).2 := by
  have sameId := alike.lookup_eq same
  cases found : memo.lookup descriptor with
  | some id =>
      rw [add_of_known found, add_of_known (sameId.symm.trans found)]
      exact ⟨rfl, alike⟩
  | none =>
      have added := alike.coherent.add descriptor
      have otherAdded := alike.otherCoherent.add otherDescriptor
      rw [add_of_new found] at added ⊢
      rw [add_of_new (sameId.symm.trans found)] at otherAdded ⊢
      refine ⟨by rw [alike.size_eq], added, otherAdded, ?_⟩
      exact List.rel_append alike.entries (.cons same .nil)

end Alike

end Memos

/-! ## Sessions up to hints -/

variable {T C : Type} [DecidableEq T] [DecidableEq C] [Reference T] [Reference C]
  {memo other : Memo T C}

theorem Alike.register (alike : memo.Alike other) {descriptor otherDescriptor : Descriptor T C}
    (same : (descriptor == otherDescriptor) = true) :
    Answer.Alike (.registered (memo.add descriptor).1 : Answer T C)
        (.registered (other.add otherDescriptor).1) ∧
      (memo.add descriptor).2.Alike (other.add otherDescriptor).2 := by
  obtain ⟨registration, next⟩ := alike.add same
  rw [registration]
  exact ⟨.registered _, next⟩

/-- What is answered to a derivation depends on the hints of neither the entry nor the result. -/
theorem Alike.derive (alike : memo.Alike other) (id : PlanId) {step otherStep : Step}
    (steps : Step.Alike step otherStep) :
    Answer.Alike (memo.perform (.derive id step)).value.1
        (other.perform (.derive id otherStep)).value.1 ∧
      (memo.perform (.derive id step)).value.2.Alike
        (other.perform (.derive id otherStep)).value.2 := by
  have related := alike.get? id
  generalize found : memo.get? id = kept, otherFound : other.get? id = otherKept at related
  cases related with
  | none =>
      rw [perform, perform, found, otherFound]
      exact ⟨.entry .none, alike⟩
  | @some entry otherEntry same =>
      have outcomes := steps.apply same
      rw [perform_derive found, perform_derive otherFound]
      generalize step.apply entry = outcome, otherStep.apply otherEntry = otherOutcome
        at outcomes ⊢
      cases outcomes with
      | descriptor equal => exact alike.register equal
      | absent => exact ⟨.underived .absent, alike⟩

theorem Alike.perform (alike : memo.Alike other) {operation otherOperation : Operation T C}
    (same : Operation.Alike operation otherOperation) :
    Answer.Alike (memo.perform operation).value.1 (other.perform otherOperation).value.1 ∧
      (memo.perform operation).value.2.Alike (other.perform otherOperation).value.2 := by
  cases same with
  | add equal => exact alike.register equal
  | @lookup descriptor otherDescriptor equal =>
      change Answer.Alike (.found (memo.lookup descriptor)) (.found _) ∧ memo.Alike other
      rw [alike.lookup_eq equal]
      exact ⟨.found _, alike⟩
  | get id => exact ⟨.entry (alike.get? id), alike⟩
  | derive id steps => exact alike.derive id steps
  | dump => exact ⟨.done none, alike⟩
  | size =>
      change Answer.Alike (@Answer.done T C (some memo.size)) _ ∧ memo.Alike other
      rw [alike.size_eq]
      exact ⟨.done _, alike⟩

theorem Alike.run (alike : memo.Alike other) {operations others : List (Operation T C)}
    (same : List.Forall₂ Operation.Alike operations others) :
    List.Forall₂ Answer.Alike (memo.run operations).value.1 (other.run others).value.1 ∧
      (memo.run operations).value.2.Alike (other.run others).value.2 := by
  induction same generalizing memo other with
  | nil => exact ⟨.nil, alike⟩
  | cons first _ ih =>
      obtain ⟨answer, next⟩ := alike.perform first
      obtain ⟨answers, final⟩ := ih next
      exact ⟨.cons answer answers, final⟩

/-- Sessions that differ in hints only give the same ids, flags and numbers of plans all along, and
keep equal plans under equal ids. -/
theorem hints_unobservable {operations others : List (Operation T C)}
    (same : List.Forall₂ Operation.Alike operations others) :
    List.Forall₂ Answer.Alike (run empty operations).value.1 (run empty others).value.1 ∧
      ∀ count,
        let memo := (run empty (operations.take count)).value.2
        let other := (run empty (others.take count)).value.2
        memo.size = other.size ∧
          (∀ id, Option.Rel (fun entry otherEntry => (entry == otherEntry) = true)
            (memo.get? id) (other.get? id)) ∧
          ∀ descriptor otherDescriptor, (descriptor == otherDescriptor) = true →
            memo.lookup descriptor = other.lookup otherDescriptor := by
  refine ⟨(Alike.empty.run same).1, fun count => ?_⟩
  have alike := (Alike.empty.run (List.forall₂_take count same)).2
  exact ⟨alike.size_eq, alike.get?, fun _ _ equal => alike.lookup_eq equal⟩

/-- A build side that was chosen in one session and not in the other does not show. -/
theorem hints_unobservable_build_side :
    let plan (side : BuildSide) (keys : Bool) : Descriptor String String :=
      ⟨⟨"orders", "id", []⟩, ⟨"items", "order", []⟩, .leftOuter, side, keys⟩
    let session (side : BuildSide) (keys : Bool) : List (Operation String String) :=
      [.add (plan side keys), .derive ⟨0⟩ (.withBuildSide side), .derive ⟨0⟩ .commute,
        .derive ⟨1⟩ .commute, .get ⟨0⟩]
    List.Forall₂ Answer.Alike (run empty (session .left false)).value.1
        (run empty (session .right true)).value.1 ∧
      (run empty (session .left false)).value.2.size =
        (run empty (session .right true)).value.2.size := by
  intro plan session
  have same : List.Forall₂ Operation.Alike (session .left false) (session .right true) :=
    .cons (.add (by decide)) (.cons (.derive _ (.withBuildSide _ _)) (.cons (.derive _ .commute)
      (.cons (.derive _ .commute) (.cons (.get _) .nil))))
  obtain ⟨answers, memos⟩ := hints_unobservable same
  exact ⟨answers, (memos 5).1⟩

end Memo

end EquiJoin
