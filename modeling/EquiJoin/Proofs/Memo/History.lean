import EquiJoin.Proofs.Memo.Session

/-!
# The history of a memo

A memo only ever grows at its end.  Whatever comes later, an entry stays under its id with the
hints that it was registered with first, and its plan keeps that id; a memo has as many entries as
registrations were answered as new (`first_registration_lasts`).
-/

set_option autoImplicit false

namespace EquiJoin.Memo

variable {T C : Type} [DecidableEq T] [DecidableEq C]

def Answer.added : Answer T C → Bool
  | .registered registration => registration.added
  | _ => false

section Growth

variable [Fingerprint T] [Fingerprint C] {memo later : Memo T C} {id : PlanId}
  {entry : Descriptor T C}

theorem entries_add (memo : Memo T C) (descriptor : Descriptor T C) :
    (memo.add descriptor).2.entries =
      memo.entries ++ if (memo.add descriptor).1.added then [descriptor] else [] := by
  cases found : memo.lookup descriptor with
  | some id => simp [add_of_known found]
  | none => simp [add_of_new found]

theorem prefix_add (memo : Memo T C) (descriptor : Descriptor T C) :
    memo.entries <+: (memo.add descriptor).2.entries :=
  ⟨_, (entries_add memo descriptor).symm⟩

theorem mem_entries_add {descriptor : Descriptor T C}
    (listed : entry ∈ (memo.add descriptor).2.entries) :
    entry ∈ memo.entries ∨ entry = descriptor := by
  rw [entries_add, List.mem_append] at listed
  refine listed.imp_right fun last => ?_
  split at last
  · exact List.mem_singleton.mp last
  · cases last

theorem get?_of_grown (grown : memo.entries <+: later.entries)
    (found : memo.get? id = some entry) : later.get? id = some entry := by
  obtain ⟨inside, rfl⟩ := List.getElem?_eq_some_iff.mp found
  exact List.prefix_iff_getElem?.mp grown id.index inside

theorem size_add (memo : Memo T C) (descriptor : Descriptor T C) :
    (memo.add descriptor).2.size =
      memo.size + if (memo.add descriptor).1.added then 1 else 0 := by
  rw [size, entries_add, List.length_append, size]
  split <;> rfl

end Growth

variable [Reference T] [Reference C] {memo : Memo T C}

theorem prefix_run (memo : Memo T C) (operations : List (Operation T C)) :
    memo.entries <+: (memo.run operations).value.2.entries :=
  run_keeps (fun current => memo.entries <+: current.entries)
    (fun current descriptor grown => grown.trans (prefix_add current descriptor)) operations
    (List.prefix_refl _)

theorem get?_run {id : PlanId} {entry : Descriptor T C} (found : memo.get? id = some entry)
    (operations : List (Operation T C)) :
    (memo.run operations).value.2.get? id = some entry :=
  get?_of_grown (prefix_run memo operations) found

theorem size_perform (memo : Memo T C) (operation : Operation T C) :
    (memo.perform operation).value.2.size =
      memo.size + if (memo.perform operation).value.1.added then 1 else 0 := by
  cases asked : memo.requested? operation with
  | some descriptor =>
      rw [perform_of_requested asked]
      exact size_add memo descriptor
  | none =>
      obtain ⟨same, unregistered⟩ := perform_of_unrequested asked
      rw [same]
      cases answer : (memo.perform operation).value.1 with
      | registered registration => exact absurd answer (unregistered registration)
      | found | entry | underived | done => rfl

theorem size_run (memo : Memo T C) (operations : List (Operation T C)) :
    (memo.run operations).value.2.size =
      memo.size + (memo.run operations).value.1.countP Answer.added := by
  induction operations generalizing memo with
  | nil => rfl
  | cons operation operations ih =>
      change ((memo.perform operation).value.2.run operations).value.2.size = memo.size +
        ((memo.perform operation).value.1 ::
          ((memo.perform operation).value.2.run operations).value.1).countP Answer.added
      rw [ih, size_perform, List.countP_cons]
      omega

/-- What a later memo owes to an earlier one. -/
structure Continues (memo later : Memo T C) : Prop where
  get? {id : PlanId} {entry : Descriptor T C} :
    memo.get? id = some entry → later.get? id = some entry
  lookup {id : PlanId} {entry plan : Descriptor T C} :
    memo.get? id = some entry → (plan == entry) = true → later.lookup plan = some id
  add {id : PlanId} {entry plan : Descriptor T C} :
    memo.get? id = some entry → (plan == entry) = true → later.add plan = (⟨id, false⟩, later)
  size_le : memo.size ≤ later.size

theorem Coherent.continues_run (coherent : memo.Coherent) (operations : List (Operation T C)) :
    memo.Continues (memo.run operations).value.2 := by
  have known {id : PlanId} {entry plan : Descriptor T C} (found : memo.get? id = some entry)
      (same : (plan == entry) = true) :
      (memo.run operations).value.2.lookup plan = some id :=
    (coherent.run operations).lookup_eq_some_iff.mpr
      ⟨entry, get?_run found operations, BEq.symm same⟩
  exact ⟨fun found => get?_run found operations, known,
    fun found same => add_of_known (known found same), (prefix_run memo operations).length_le⟩

/-- However a session goes on, every entry stays as it was registered first, its plan keeps its id,
and the memo grows by one exactly where a registration is answered as new. -/
theorem first_registration_lasts (before after : List (Operation T C)) :
    let memo := (run empty before).value.2
    let later := (memo.run after).value.2
    memo.Continues later ∧
      (∀ operation : Operation T C, (later.perform operation).value.2.size =
        later.size + if (later.perform operation).value.1.added then 1 else 0) ∧
      later.size = memo.size + (memo.run after).value.1.countP Answer.added := by
  intro memo later
  refine ⟨(coherent_empty.run before).continues_run after, ?_, size_run memo after⟩
  intro operation
  exact size_perform later operation

/-- A plan keeps its id and its build side when it comes again with the other one, even after its
commuted form has been registered. -/
theorem first_registration_lasts_buildSide :
    let plan (side : BuildSide) : Descriptor String String :=
      ⟨⟨"orders", "customer", ["id"]⟩, ⟨"customers", "id", []⟩, .leftOuter, side, false⟩
    let memo := (run empty [.add (plan .left)]).value.2
    let later := (memo.run [.derive ⟨0⟩ .commute, .add (plan .right), .dump]).value.2
    later.get? ⟨0⟩ = some (plan .left) ∧ later.lookup (plan .right) = some ⟨0⟩ ∧
      later.add (plan .right) = (⟨⟨0⟩, false⟩, later) := by
  intro plan memo later
  have found : memo.get? ⟨0⟩ = some (plan .left) := get?_run_add_empty (plan .left)
  have same : (plan .right == plan .left) = true := by decide
  obtain ⟨continues, -, -⟩ := first_registration_lasts [.add (plan .left)]
    [.derive ⟨0⟩ .commute, .add (plan .right), .dump]
  exact ⟨continues.get? found, continues.lookup found same, continues.add found same⟩

end EquiJoin.Memo
