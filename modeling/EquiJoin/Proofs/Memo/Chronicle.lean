import EquiJoin.Proofs.Memo.History
import Mathlib.Data.List.Induction

/-!
# What the journal tells of a memo

The journal of a session with a memo tells its history.  Every registration is reported once, with
the id that it is answered with; the ids that are reported as new count up from zero; and whatever
is listed under an id later is the descriptor that the id was given out for
(`session_chronicled`).  An operation without a registration reports nothing of this kind.
-/

set_option autoImplicit false

namespace EquiJoin

def Event.registration? : Event → Option Registration
  | .memoInsert id => some ⟨id, true⟩
  | .memoHit id => some ⟨id, false⟩
  | _ => none

def Registration.event (registration : Registration) : Event :=
  if registration.added then .memoInsert registration.id else .memoHit registration.id

theorem Event.registration?_eq_some_iff {event : Event} {registration : Registration} :
    event.registration? = some registration ↔ event = registration.event := by
  obtain ⟨id, added⟩ := registration
  cases added <;> cases event <;> simp [registration?, Registration.event]

def Registration.inserted? (registration : Registration) : Option PlanId :=
  if registration.added then some registration.id else none

def Event.inserted? (event : Event) : Option PlanId :=
  event.registration?.bind Registration.inserted?

theorem Event.inserted?_eq_some_iff {event : Event} {id : PlanId} :
    event.inserted? = some id ↔ event = .memoInsert id := by
  cases event <;> simp [inserted?, registration?, Registration.inserted?]

variable {T C : Type} [Reference T] [Reference C]

theorem Journal.registration?_of_mem_step {descriptor : Descriptor T C} {step : Step}
    {event : Event} (reported : event ∈ (Journal.step descriptor step).events) :
    event.registration? = none := by
  cases step with
  | commute =>
      change event ∈ (Journal.commute descriptor).events ++ [] at reported
      rw [List.append_nil, Journal.commute] at reported
      obtain ⟨commuted, -, rfl⟩ := List.mem_map.mp reported
      rfl
  | withBuildSide => cases reported
  | deliver delivery =>
      change event ∈ (Journal.decode (delivery.payload descriptor) :
        Logged (Except Json.Malformed (Descriptor T C))).events ++ [] at reported
      rw [List.append_nil, Journal.decode] at reported
      split at reported
      · rw [List.mem_singleton.mp reported]
        rfl
      · simp only [List.mem_cons, List.not_mem_nil, or_false] at reported
        rcases reported with rfl | rfl <;> rfl

namespace Memo

variable [DecidableEq T] [DecidableEq C] {memo : Memo T C} {operation : Operation T C}
  {descriptor : Descriptor T C} {id : PlanId}

def Answer.registration? : Answer T C → Option Registration
  | .registered registration => some registration
  | _ => none

theorem events_register (memo : Memo T C) (descriptor : Descriptor T C) :
    (memo.register descriptor).events = [(memo.add descriptor).1.event] := by
  change [(if (memo.add descriptor).1.added then Event.memoInsert else Event.memoHit)
    (memo.add descriptor).1.id] ++ [] = _
  rw [List.append_nil, Registration.event]
  split <;> rfl

/-- The registration that an operation asks for is reported once, behind the reports of the step
that leads to it. -/
theorem events_of_requested (asked : memo.requested? operation = some descriptor) :
    ∃ reports, (memo.perform operation).events = reports ++ [(memo.add descriptor).1.event] ∧
      ∀ event ∈ reports, event.registration? = none := by
  cases operation with
  | add other =>
      cases asked
      exact ⟨[], events_register memo descriptor, List.forall_mem_nil _⟩
  | lookup | get | dump | size => cases asked
  | derive id step =>
      obtain ⟨entry, found, yielded⟩ := requested?_derive_eq_some_iff.mp asked
      refine ⟨(Journal.step entry step).events, ?_,
        fun event => Journal.registration?_of_mem_step⟩
      rw [perform, found]
      simp only [bind, Logged.andThen, Journal.value_step, yielded, events_register]

theorem registration?_of_unrequested (asked : memo.requested? operation = none) {event : Event}
    (reported : event ∈ (memo.perform operation).events) : event.registration? = none := by
  cases operation with
  | add => cases asked
  | lookup | get | size => cases reported
  | dump =>
      change event ∈ (Journal.dump memo).events ++ [] at reported
      rw [List.append_nil, Journal.dump] at reported
      obtain ⟨listed, -, rfl⟩ := List.mem_map.mp reported
      rfl
  | derive id step =>
      cases found : memo.get? id with
      | none =>
          rw [perform, found] at reported
          cases reported
      | some entry =>
          rw [requested?, found, Option.bind_some] at asked
          rw [perform, found] at reported
          simp only [bind, Logged.andThen, Journal.value_step] at reported
          cases outcome : step.apply entry with
          | descriptor result =>
              rw [outcome] at asked
              cases asked
          | absent | malformed =>
              rw [outcome] at reported
              simp only [pure, Logged.silent, List.append_nil] at reported
              exact Journal.registration?_of_mem_step reported

/-- The operation gives the descriptor an id, and the journal says so. -/
structure Introduces (memo : Memo T C) (operation : Operation T C) (id : PlanId)
    (descriptor : Descriptor T C) : Prop where
  requested : memo.requested? operation = some descriptor
  reported : .memoInsert id ∈ (memo.perform operation).events

theorem registrations_perform (memo : Memo T C) (operation : Operation T C) :
    (memo.perform operation).events.filterMap Event.registration? =
      (memo.perform operation).value.1.registration?.toList := by
  cases asked : memo.requested? operation with
  | some descriptor =>
      obtain ⟨reports, shape, others⟩ := events_of_requested asked
      have reported : (memo.add descriptor).1.event.registration? =
          some (memo.add descriptor).1 := Event.registration?_eq_some_iff.mpr rfl
      rw [shape, List.filterMap_append, List.filterMap_eq_nil_iff.mpr others,
        perform_of_requested asked]
      simp [reported, Answer.registration?]
  | none =>
      obtain ⟨-, unregistered⟩ := perform_of_unrequested asked
      rw [List.filterMap_eq_nil_iff.mpr fun event => registration?_of_unrequested asked]
      cases answer : (memo.perform operation).value.1 with
      | registered registration => exact absurd answer (unregistered registration)
      | found | entry | underived | done => rfl

theorem add_of_reported (registration : Registration)
    (reported : registration.event ∈ (memo.perform operation).events) :
    ∃ descriptor, memo.requested? operation = some descriptor ∧
      (memo.add descriptor).1 = registration := by
  have told : registration ∈
      (memo.perform operation).events.filterMap Event.registration? :=
    List.mem_filterMap.mpr ⟨_, reported, Event.registration?_eq_some_iff.mpr rfl⟩
  rw [registrations_perform] at told
  cases asked : memo.requested? operation with
  | none =>
      obtain ⟨-, unregistered⟩ := perform_of_unrequested asked
      cases answer : (memo.perform operation).value.1 with
      | registered other => exact absurd answer (unregistered other)
      | found | entry | underived | done =>
          rw [answer] at told
          cases told
  | some descriptor =>
      rw [perform_of_requested asked] at told
      exact ⟨descriptor, rfl, (List.mem_singleton.mp told).symm⟩

theorem run_append (memo : Memo T C) (first second : List (Operation T C)) :
    let middle := memo.run first
    let last := middle.value.2.run second
    memo.run (first ++ second) =
      ⟨(middle.value.1 ++ last.value.1, last.value.2), middle.events ++ last.events⟩ := by
  induction first generalizing memo with
  | nil => rfl
  | cons operation first ih =>
      have later := ih (memo.perform operation).value.2
      simp only [List.cons_append, run, bind, pure, Logged.andThen, Logged.silent, later,
        List.append_nil, List.append_assoc]

theorem run_singleton (memo : Memo T C) (operation : Operation T C) :
    memo.run [operation] =
      ⟨([(memo.perform operation).value.1], (memo.perform operation).value.2),
        (memo.perform operation).events⟩ := by
  simp only [run, bind, pure, Logged.andThen, Logged.silent, List.append_nil]

theorem run_concat (memo : Memo T C) (operations : List (Operation T C))
    (operation : Operation T C) :
    let next := (memo.run operations).value.2.perform operation
    memo.run (operations ++ [operation]) =
      ⟨((memo.run operations).value.1 ++ [next.value.1], next.value.2),
        (memo.run operations).events ++ next.events⟩ := by
  intro next
  rw [run_append, run_singleton]

theorem registrations_run (memo : Memo T C) (operations : List (Operation T C)) :
    (memo.run operations).events.filterMap Event.registration? =
      (memo.run operations).value.1.filterMap Answer.registration? := by
  induction operations using List.reverseRecOn with
  | nil => rfl
  | append_singleton operations operation ih =>
      rw [run_concat, List.filterMap_append, List.filterMap_append, ih, registrations_perform]
      cases answer : ((memo.run operations).value.2.perform operation).value.1.registration? <;>
        simp [answer]

/-- The ids that are reported as new count on from the size of the memo. -/
theorem inserted_perform (memo : Memo T C) (operation : Operation T C) :
    (List.range (memo.perform operation).value.2.size).map PlanId.mk =
      (List.range memo.size).map PlanId.mk ++
        (memo.perform operation).events.filterMap Event.inserted? := by
  have told : (memo.perform operation).events.filterMap Event.inserted? =
      (memo.perform operation).value.1.registration?.toList.filterMap
        Registration.inserted? := by
    rw [← registrations_perform, List.filterMap_filterMap]
    rfl
  rw [told]
  cases asked : memo.requested? operation with
  | none =>
      obtain ⟨same, unregistered⟩ := perform_of_unrequested asked
      rw [same]
      cases answer : (memo.perform operation).value.1 with
      | registered registration => exact absurd answer (unregistered registration)
      | found | entry | underived | done => exact (List.append_nil _).symm
  | some descriptor =>
      rw [perform_of_requested asked, size_add]
      cases found : memo.lookup descriptor with
      | some id => simp [add_of_known found, Answer.registration?, Registration.inserted?]
      | none =>
          simp [add_of_new found, Answer.registration?, Registration.inserted?, List.range_succ]

theorem inserted_run (operations : List (Operation T C)) :
    (run empty operations).events.filterMap Event.inserted? =
      (List.range (run empty operations).value.2.size).map PlanId.mk := by
  induction operations using List.reverseRecOn with
  | nil => rfl
  | append_singleton operations operation ih =>
      rw [run_concat, List.filterMap_append, ih, ← inserted_perform]

/-- The ids that were reported as new are those of the entries. -/
theorem memoInsert_mem_events_run_iff {operations : List (Operation T C)} :
    .memoInsert id ∈ (run empty operations).events ↔
      id.index < (run empty operations).value.2.size := by
  have told : .memoInsert id ∈ (run empty operations).events ↔
      id ∈ (run empty operations).events.filterMap Event.inserted? := by
    simp only [List.mem_filterMap, Event.inserted?_eq_some_iff, exists_eq_right]
  rw [told, inserted_run, List.mem_map]
  constructor
  · rintro ⟨index, listed, rfl⟩
    exact List.mem_range.mp listed
  · exact fun inside => ⟨id.index, List.mem_range.mpr inside, rfl⟩

theorem Coherent.lt_size_of_memoHit (coherent : memo.Coherent)
    (reported : .memoHit id ∈ (memo.perform operation).events) : id.index < memo.size := by
  obtain ⟨descriptor, -, answered⟩ := add_of_reported ⟨id, false⟩ reported
  cases found : memo.lookup descriptor with
  | none =>
      rw [add_of_new found] at answered
      cases answered
  | some known =>
      rw [add_of_known found] at answered
      cases answered
      obtain ⟨entry, listed, -⟩ := coherent.lookup_eq_some_iff.mp found
      exact get?_isSome_iff.mp (Option.isSome_of_mem listed)

theorem memoInsert_before_memoHit (operations : List (Operation T C)) (front back : List Event)
    (told : (run empty operations).events = front ++ .memoHit id :: back) :
    .memoInsert id ∈ front := by
  induction operations using List.reverseRecOn generalizing back with
  | nil => exact absurd told (by simp [run, pure, Logged.silent])
  | append_singleton operations operation ih =>
      have known (reported : .memoHit id ∈
          ((run empty operations).value.2.perform operation).events) :
          .memoInsert id ∈ (run empty operations).events :=
        memoInsert_mem_events_run_iff.mpr
          ((coherent_empty.run operations).lt_size_of_memoHit reported)
      rw [run_concat, List.append_eq_append_iff] at told
      rcases told with ⟨reports, rfl, here⟩ | ⟨rest, earlier, here⟩
      · exact List.mem_append_left _ (known (here ▸ List.mem_append_right _ List.mem_cons_self))
      · cases rest with
        | nil =>
            rw [List.append_nil] at earlier
            rw [← earlier]
            rw [List.nil_append] at here
            exact known (here ▸ List.mem_cons_self)
        | cons event rest =>
            obtain ⟨rfl, -⟩ := List.cons_eq_cons.mp here
            exact ih _ earlier

theorem events_perform_dump (memo : Memo T C) :
    (memo.perform .dump).events =
      memo.entries.zipIdx.map fun (descriptor, index) => Journal.entry ⟨index⟩ descriptor := by
  change (Journal.dump memo).events ++ [] = _
  rw [List.append_nil, Journal.dump, toList, List.map_map]
  rfl

theorem getElem?_events_perform_dump (memo : Memo T C) (index : Nat) :
    (memo.perform .dump).events[index]? =
      (memo.get? ⟨index⟩).map (Journal.entry ⟨index⟩) := by
  rw [events_perform_dump, List.getElem?_map, List.getElem?_zipIdx, Nat.zero_add, get?]
  simp only [Option.map_map]
  rfl

theorem Introduces.get? (introduced : memo.Introduces operation id descriptor) :
    (memo.perform operation).value.2.get? id = some descriptor := by
  obtain ⟨other, asked, answered⟩ :=
    add_of_reported ⟨id, true⟩ introduced.reported
  obtain rfl := Option.some.inj (introduced.requested.symm.trans asked)
  rw [perform_of_requested asked]
  cases found : memo.lookup descriptor with
  | some known =>
      rw [add_of_known found] at answered
      cases answered
  | none =>
      rw [add_of_new found] at answered ⊢
      cases answered
      simp [get?, size]

/-- Whatever has an id in the end, some operation of the run has given it out. -/
theorem exists_introduces (operations : List (Operation T C))
    (inside : id.index < (run empty operations).value.2.size) :
    ∃ before operation after descriptor, operations = before ++ operation :: after ∧
      (run empty before).value.2.Introduces operation id descriptor := by
  induction operations using List.reverseRecOn with
  | nil => cases inside
  | append_singleton operations operation ih =>
      by_cases earlier : id.index < (run empty operations).value.2.size
      · obtain ⟨before, first, after, descriptor, rfl, introduced⟩ := ih earlier
        exact ⟨before, first, after ++ [operation], descriptor,
          by rw [List.append_assoc, List.cons_append], introduced⟩
      · -- The memo reaches the id with the last operation.
        have told := memoInsert_mem_events_run_iff.mpr inside
        rw [run_concat, List.mem_append, memoInsert_mem_events_run_iff] at told
        have reported := told.resolve_left earlier
        obtain ⟨descriptor, asked, -⟩ := add_of_reported ⟨id, true⟩ reported
        exact ⟨operations, operation, [], descriptor, rfl, asked, reported⟩

/-! ## Any session -/

/-- What the log of a session tells of it. -/
structure Chronicled (operations : List (Operation T C)) : Prop where
  run_concat : ∀ operation : Operation T C,
    let next := (run empty operations).value.2.perform operation
    run empty (operations ++ [operation]) =
      ⟨((run empty operations).value.1 ++ [next.value.1], next.value.2),
        (run empty operations).events ++ next.events⟩
  add : ∀ descriptor : Descriptor T C, ∃ id added,
    let answered := (run empty operations).value.2.perform (.add descriptor)
    answered.value.1 = .registered ⟨id, added⟩ ∧
      answered.events = [if added then .memoInsert id else .memoHit id]
  lookup : ∀ descriptor : Descriptor T C,
    ((run empty operations).value.2.perform (.lookup descriptor)).events = []
  get : ∀ id, ((run empty operations).value.2.perform (.get id)).events = []
  size : (run empty operations).value.2.perform .size =
    ⟨(@Answer.done T C (some (run empty operations).value.2.size),
      (run empty operations).value.2), []⟩
  registrations : (run empty operations).events.filterMap Event.registration? =
    (run empty operations).value.1.filterMap Answer.registration?
  inserted : (run empty operations).events.filterMap Event.inserted? =
    (List.range (run empty operations).value.2.size).map PlanId.mk
  hit : ∀ front id back, (run empty operations).events = front ++ .memoHit id :: back →
    .memoInsert id ∈ front
  dump : ((run empty operations).value.2.perform .dump).value =
    (@Answer.done T C none, (run empty operations).value.2)
  dump_length : ((run empty operations).value.2.perform .dump).events.length =
    (run empty operations).value.2.size
  /-- An id is listed with the descriptor that it was given out for. -/
  dump_introduced : ∀ before operation after id (descriptor : Descriptor T C),
    operations = before ++ operation :: after →
      (run empty before).value.2.Introduces operation id descriptor →
        ((run empty operations).value.2.perform .dump).events[id.index]? =
          some (.memoEntry id descriptor.joinType (display descriptor.left.table)
            (display descriptor.right.table) descriptor.buildSide)
  introduced : ∀ id : PlanId, id.index < (run empty operations).value.2.size →
    ∃ before operation after descriptor, operations = before ++ operation :: after ∧
      (run empty before).value.2.Introduces operation id descriptor

/-- The log of every session is its history. -/
theorem session_chronicled (operations : List (Operation T C)) : Chronicled operations where
  run_concat := run_concat empty operations
  add descriptor := by
    refine ⟨_, _, rfl, ?_⟩
    exact events_register (run empty operations).value.2 descriptor
  lookup _ := rfl
  get _ := rfl
  size := rfl
  registrations := registrations_run empty operations
  inserted := inserted_run operations
  hit := fun front _ back => memoInsert_before_memoHit operations front back
  dump := rfl
  dump_length := by
    rw [events_perform_dump, List.length_map, List.length_zipIdx]
    rfl
  dump_introduced := by
    rintro before operation after id descriptor rfl introduced
    have found : (run empty (before ++ operation :: after)).value.2.get? id = some descriptor := by
      rw [run_append]
      exact get?_run introduced.get? after
    rw [getElem?_events_perform_dump, found]
    rfl
  introduced _ := exists_introduces operations

end Memo

end EquiJoin
