import EquiJoin.Proofs.Memo.Operation

/-!
# Memos over a session

No operation takes anything away from a memo: either it leaves the memo as it is, or it registers a
plan.  A memo therefore stays coherent over a run of any length and keeps every id that it has
given out.  Registering one plan after another leaves the plans without repetitions.
-/

set_option autoImplicit false

namespace EquiJoin.Memo

variable {T C : Type} [DecidableEq T] [DecidableEq C] [Reference T] [Reference C] {memo : Memo T C}

theorem Coherent.run (coherent : memo.Coherent) (operations : List (Operation T C)) :
    (memo.run operations).value.2.Coherent :=
  run_keeps Coherent (fun _ descriptor coherent => coherent.add descriptor) operations coherent

theorem lookup_run {descriptor : Descriptor T C} {id : PlanId}
    (known : memo.lookup descriptor = some id) (operations : List (Operation T C)) :
    (memo.run operations).value.2.lookup descriptor = some id :=
  run_keeps (fun current => current.lookup descriptor = some id)
    (fun _ other known => lookup_add known other) operations known

/-- A coherent memo takes up what is new among the plans, once each and in order. -/
theorem Coherent.entries_run_add (coherent : memo.Coherent) (plans : List (Descriptor T C)) :
    (memo.run (plans.map .add)).value.2.entries = memo.entries ++
      (plans.filter fun plan => (memo.lookup plan).isNone).eraseDups := by
  induction plans generalizing memo with
  | nil => exact (List.append_nil _).symm
  | cons plan plans ih =>
      change ((memo.add plan).2.run (plans.map .add)).value.2.entries = _
      rw [ih (coherent.add plan)]
      cases found : memo.lookup plan with
      | some id =>
          rw [add_of_known found, List.filter_cons_of_neg (by simp [found])]
      | none =>
          have unknown : ∀ other, ((memo.add plan).2.lookup other).isNone =
              ((memo.lookup other).isNone && !other == plan) := by
            intro other
            rw [add_of_new found, lookup, lookup, Std.HashMap.getElem?_insert, BEq.comm]
            cases other == plan <;> simp
          rw [List.filter_cons_of_pos (by simp [found]), List.eraseDups_cons, List.filter_filter]
          simp only [unknown, Bool.and_comm]
          rw [add_of_new found, List.append_assoc]
          rfl

theorem entries_run_add_empty (plans : List (Descriptor T C)) :
    (run empty (plans.map .add)).value.2.entries = plans.eraseDups := by
  rw [coherent_empty.entries_run_add, List.filter_eq_self.mpr]
  · rfl
  · intro plan _
    rw [lookup, empty, Std.HashMap.getElem?_empty]
    rfl

theorem get?_run_add_empty (plan : Descriptor T C) :
    (run empty [.add plan]).value.2.get? ⟨0⟩ = some plan := by
  have entries : (run empty [.add plan]).value.2.entries = [plan] := entries_run_add_empty [plan]
  rw [get?, entries]
  rfl

theorem answers_run_add (plans : List (Descriptor T C)) (position : Nat)
    (plan : Descriptor T C) (listed : plans[position]? = some plan) :
    ∃ registration, (memo.run (plans.map .add)).value.1[position]? =
        some (.registered registration) ∧
      (memo.run (plans.map .add)).value.2.lookup plan = some registration.id := by
  induction plans generalizing memo position with
  | nil => cases listed
  | cons first plans ih =>
      cases position with
      | zero =>
          cases listed
          exact ⟨(memo.add plan).1, rfl, lookup_run (lookup_add_self memo plan) _⟩
      | succ position => exact ih position listed

/-- What can be said of a memo at any time: it answers as its list of distinct plans would. -/
structure Deduplicates (memo : Memo T C) : Prop where
  distinct : memo.entries.Pairwise fun earlier later => (earlier == later) = false
  ids_size : memo.ids.size = memo.size
  ids_entry : ∀ (index : Nat) (entry : Descriptor T C), memo.entries[index]? = some entry →
    memo.ids[entry]? = some ⟨index⟩
  get?_isSome_iff : ∀ id, (memo.get? id).isSome = true ↔ id.index < memo.size
  lookup_eq_some_iff : ∀ descriptor id, memo.lookup descriptor = some id ↔
    ∃ entry, memo.get? id = some entry ∧ (entry == descriptor) = true
  lookup_eq_scan : ∀ descriptor,
    memo.lookup descriptor = (memo.entries.findIdx? (· == descriptor)).map PlanId.mk
  add_known : ∀ descriptor id entry, memo.get? id = some entry → (entry == descriptor) = true →
    memo.add descriptor = (⟨id, false⟩, memo)
  add_new : ∀ descriptor, (∀ entry ∈ memo.entries, (entry == descriptor) = false) →
    (memo.add descriptor).1 = ⟨⟨memo.size⟩, true⟩ ∧
      (memo.add descriptor).2.entries = memo.entries ++ [descriptor]

theorem Coherent.deduplicates (coherent : memo.Coherent) : memo.Deduplicates where
  distinct := coherent.distinct
  ids_size := coherent.ids_size
  ids_entry index entry found :=
    coherent.lookup_eq_some_iff.mpr ⟨entry, found, BEq.refl entry⟩
  get?_isSome_iff _ := get?_isSome_iff
  lookup_eq_some_iff _ _ := coherent.lookup_eq_some_iff
  lookup_eq_scan := coherent.lookup_eq_scan
  add_known _ _ entry found same :=
    add_of_known (coherent.lookup_eq_some_iff.mpr ⟨entry, found, same⟩)
  add_new descriptor absent := by
    rw [add_of_new (coherent.lookup_eq_none_iff.mpr absent)]
    exact ⟨rfl, rfl⟩

/-- Every session leaves a memo that answers as its list of distinct plans would.  Registering
plans one after another leaves them without those that equal an earlier one, and every answer has
the position of its plan among them. -/
theorem session_deduplicates :
    (∀ operations : List (Operation T C), (run empty operations).value.2.Deduplicates) ∧
    (∀ plans : List (Descriptor T C),
      (run empty (plans.map .add)).value.2.entries = plans.eraseDups ∧
      ∀ (position : Nat) (plan : Descriptor T C), plans[position]? = some plan →
        ∃ registration,
          (run empty (plans.map .add)).value.1[position]? = some (.registered registration) ∧
          plans.eraseDups.findIdx? (· == plan) = some registration.id.index) := by
  refine ⟨fun operations => (coherent_empty.run operations).deduplicates, fun plans => ?_⟩
  refine ⟨entries_run_add_empty plans, fun position plan listed => ?_⟩
  obtain ⟨registration, answered, found⟩ := answers_run_add plans position plan listed
  refine ⟨registration, answered, ?_⟩
  rw [(coherent_empty.run _).lookup_eq_scan, entries_run_add_empty,
    Option.map_eq_some_iff] at found
  obtain ⟨index, scanned, same⟩ := found
  rw [scanned, ← same]

/-- A plan that comes again with another hint is answered with its first id. -/
theorem session_repeated_plan :
    let plan (side : BuildSide) : Descriptor String String :=
      ⟨⟨"orders", "id", []⟩, ⟨"items", "order", []⟩, .inner, side, false⟩
    ∃ registration, (run empty ([plan .left, plan .right].map .add)).value.1[1]? =
      some (.registered registration) ∧ registration.id.index = 0 := by
  intro plan
  obtain ⟨registration, answered, found⟩ :=
    (session_deduplicates.2 [plan .left, plan .right]).2 1 (plan .right) rfl
  have scanned : [plan .left, plan .right].eraseDups.findIdx? (· == plan .right) = some 0 := by
    decide
  rw [scanned] at found
  exact ⟨registration, answered, (Option.some.inj found).symm⟩

end EquiJoin.Memo
