import EquiJoin.Memo.Planners
import EquiJoin.Proofs.Memo.Correspondence

/-!
# Planners agree

Planners that share a memo may register their plans in any order.  Whatever the order is, equal
plans get equal ids and other plans get other ids, every plan is new to exactly one registration,
and there are as many ids as plans.  What depends on the order is only which id a plan has: the
ids of two orders differ by a bijection (`planners_agree`).
-/

set_option autoImplicit false

namespace EquiJoin.Memo

variable {T C : Type} [DecidableEq T] [DecidableEq C] [Fingerprint T] [Fingerprint C]

namespace Planners

variable {queues : List (List (Descriptor T C))} {state next final : Planners T C}
  {call : Call T C} {calls : List (Call T C)}

/-- All that a registration does. -/
theorem Step.effect (step : Step queues state call next) :
    plan? queues call.planner (state.progress call.planner) = some call.descriptor ∧
      call.turn = state.progress call.planner ∧
      next.progress = Function.update state.progress call.planner (call.turn + 1) ∧
      state.memo.add call.descriptor = (call.answer, next.memo) := by
  cases step with
  | turn planner found => exact ⟨found, rfl, rfl, rfl⟩

theorem Run.keeps (Kept : Memo T C → Prop)
    (keep : ∀ memo descriptor, Kept memo → Kept (memo.add descriptor).2)
    (run : Run queues state calls final) (kept : Kept state.memo) : Kept final.memo := by
  induction run with
  | nil => exact kept
  | @cons state next final call calls step _ ih =>
      obtain ⟨_, _, _, added⟩ := step.effect
      have later := keep _ call.descriptor kept
      rw [added] at later
      exact ih later

theorem Run.coherent (run : Run queues state calls final) (coherent : state.memo.Coherent) :
    final.memo.Coherent :=
  run.keeps Coherent (fun _ descriptor coherent => coherent.add descriptor) coherent

/-- Every answer is the id under which the plan is known in the end. -/
theorem Run.lookup (run : Run queues state calls final) :
    ∀ call ∈ calls, final.memo.lookup call.descriptor = some call.answer.id := by
  induction run with
  | nil => intro call listed; cases listed
  | @cons state _ _ first _ step behind ih =>
      intro call listed
      rcases List.mem_cons.mp listed with rfl | later
      · obtain ⟨_, _, _, added⟩ := step.effect
        have known := lookup_add_self state.memo call.descriptor
        rw [added] at known
        exact behind.keeps (fun memo => memo.lookup _ = some _)
          (fun _ other known => lookup_add known other) known
      · exact ih call later

theorem Run.entries (run : Run queues state calls final) :
    final.memo.entries =
      state.memo.entries ++ (calls.filter (·.answer.added)).map Call.descriptor := by
  induction run with
  | nil => exact (List.append_nil _).symm
  | @cons state _ _ call _ step _ ih =>
      obtain ⟨_, _, _, added⟩ := step.effect
      have grown := entries_add state.memo call.descriptor
      rw [added] at grown
      rw [ih, grown, List.append_assoc, List.filter_cons]
      split <;> rfl

/-! ## Whose turn it was -/

theorem Step.progress_le (step : Step queues state call next) (planner : Nat) :
    state.progress planner ≤ next.progress planner := by
  obtain ⟨_, turn, progress, _⟩ := step.effect
  rw [progress, turn, Function.update_apply]
  split
  · next same =>
      rw [same]
      exact Nat.le_succ _
  · exact Nat.le_refl _

theorem Run.turn_of_mem (run : Run queues state calls final) :
    ∀ call ∈ calls, state.progress call.planner ≤ call.turn ∧
      plan? queues call.planner call.turn = some call.descriptor := by
  induction run with
  | nil => intro call listed; cases listed
  | cons step _ ih =>
      intro call listed
      rcases List.mem_cons.mp listed with rfl | later
      · obtain ⟨found, turn, _, _⟩ := step.effect
        rw [turn]
        exact ⟨Nat.le_refl _, found⟩
      · obtain ⟨behind, found⟩ := ih call later
        exact ⟨Nat.le_trans (step.progress_le call.planner) behind, found⟩

theorem Run.tickets_nodup (run : Run queues state calls final) :
    (calls.map Call.ticket).Nodup := by
  induction run with
  | nil => exact List.nodup_nil
  | cons step behind ih =>
      rw [List.map_cons, List.nodup_cons]
      refine ⟨?_, ih⟩
      intro listed
      obtain ⟨later, member, same⟩ := List.mem_map.mp listed
      obtain ⟨samePlanner, sameTurn⟩ := Prod.mk.inj same
      -- The planner is past that turn already.
      obtain ⟨past, _⟩ := behind.turn_of_mem later member
      obtain ⟨_, _, progress, _⟩ := step.effect
      rw [progress, samePlanner, sameTurn, Function.update_self] at past
      exact absurd past (Nat.not_succ_le_self _)

theorem Run.exists_call (run : Run queues state calls final) {planner turn : Nat}
    (begun : state.progress planner ≤ turn) (ended : turn < final.progress planner) :
    ∃ call ∈ calls, call.ticket = (planner, turn) := by
  induction run with
  | nil => exact absurd ended (Nat.not_lt.mpr begun)
  | @cons state next final call calls step _ ih =>
      by_cases same : call.ticket = (planner, turn)
      · exact ⟨call, List.mem_cons_self, same⟩
      · have later : next.progress planner ≤ turn := by
          obtain ⟨_, turnEq, progress, _⟩ := step.effect
          rw [progress, Function.update_apply]
          split
          · next samePlanner =>
              have otherTurn : call.turn ≠ turn := by
                intro sameTurn
                exact same (Prod.ext samePlanner.symm sameTurn)
              rw [samePlanner] at begun
              omega
          · exact begun
        obtain ⟨call, listed, ticket⟩ := ih later ended
        exact ⟨call, List.mem_cons_of_mem _ listed, ticket⟩

theorem mem_flatten_iff {α : Type} {queues : List (List α)} {plan : α} :
    plan ∈ queues.flatten ↔ ∃ planner turn, plan? queues planner turn = some plan := by
  rw [List.mem_flatten]
  constructor
  · rintro ⟨queue, queued, listed⟩
    obtain ⟨planner, found⟩ := List.mem_iff_getElem?.mp queued
    obtain ⟨turn, planFound⟩ := List.mem_iff_getElem?.mp listed
    exact ⟨planner, turn, Option.bind_eq_some_iff.mpr ⟨queue, found, planFound⟩⟩
  · rintro ⟨planner, turn, found⟩
    obtain ⟨queue, queued, listed⟩ := Option.bind_eq_some_iff.mp found
    exact ⟨queue, List.mem_of_getElem? queued, List.mem_of_getElem? listed⟩

theorem Done.lt_progress (done : final.Done queues) {planner turn : Nat}
    {plan : Descriptor T C} (found : plan? queues planner turn = some plan) :
    turn < final.progress planner := by
  by_contra past
  obtain ⟨queue, queued, listed⟩ := Option.bind_eq_some_iff.mp found
  have nothing := done planner
  rw [plan?, queued, Option.bind_some, List.getElem?_eq_none_iff] at nothing
  obtain ⟨inside, _⟩ := List.getElem?_eq_some_iff.mp listed
  omega

/-! ## When all plans are registered -/

/-- What the planners have been told, and what the memo holds, once all plans are registered. -/
structure Settled (queues : List (List (Descriptor T C))) (calls : List (Call T C))
    (memo : Memo T C) : Prop where
  registered : ∀ planner turn plan, plan? queues planner turn = some plan ↔
    ∃ call ∈ calls, call.ticket = (planner, turn) ∧ call.descriptor = plan
  tickets_nodup : (calls.map Call.ticket).Nodup
  id_eq_iff : ∀ first ∈ calls, ∀ second ∈ calls,
    first.answer.id = second.answer.id ↔ (first.descriptor == second.descriptor) = true
  new_once : ∀ plan ∈ queues.flatten,
    calls.countP (fun call => call.answer.added && call.descriptor == plan) = 1
  kept : ∀ call ∈ calls, call.answer.added = true →
    memo.get? call.answer.id = some call.descriptor
  id_iff : ∀ id : PlanId, (∃ call ∈ calls, call.answer.id = id) ↔ id.index < memo.size
  size_eq : memo.size = queues.flatten.eraseDups.length

section Completed

variable (run : Run queues start calls final) (done : final.Done queues)

include run

theorem Run.entries_start :
    final.memo.entries = (calls.filter (·.answer.added)).map Call.descriptor :=
  run.entries

theorem Run.mem_flatten_of_known {plan : Descriptor T C} {id : PlanId}
    (known : final.memo.lookup plan = some id) :
    ∃ call ∈ calls, call.descriptor ∈ queues.flatten ∧ (call.descriptor == plan) = true := by
  obtain ⟨entry, found, same⟩ := (run.coherent coherent_empty).lookup_eq_some_iff.mp known
  have listed := List.mem_of_getElem? found
  rw [run.entries_start] at listed
  obtain ⟨call, member, rfl⟩ := List.mem_map.mp listed
  have called := (List.mem_filter.mp member).1
  exact ⟨call, called, mem_flatten_iff.mpr ⟨_, _, (run.turn_of_mem call called).2⟩, same⟩

theorem Run.id_iff (id : PlanId) :
    (∃ call ∈ calls, call.answer.id = id) ↔ id.index < final.memo.size := by
  rw [← (run.coherent coherent_empty).exists_lookup_iff]
  constructor
  · rintro ⟨call, listed, rfl⟩
    exact ⟨call.descriptor, run.lookup call listed⟩
  · rintro ⟨plan, known⟩
    obtain ⟨call, listed, _, same⟩ := run.mem_flatten_of_known known
    have called := run.lookup call listed
    rw [lookup_congr final.memo same, known] at called
    exact ⟨call, listed, (Option.some.inj called).symm⟩

theorem Run.kept (call : Call T C) (listed : call ∈ calls) (new : call.answer.added = true) :
    final.memo.get? call.answer.id = some call.descriptor := by
  have entry : call.descriptor ∈ final.memo.entries := by
    rw [run.entries_start]
    exact List.mem_map.mpr ⟨call, List.mem_filter.mpr ⟨listed, new⟩, rfl⟩
  obtain ⟨index, found⟩ := List.mem_iff_getElem?.mp entry
  have known : final.memo.lookup call.descriptor = some ⟨index⟩ :=
    (run.coherent coherent_empty).lookup_eq_some_iff.mpr ⟨_, found, BEq.refl _⟩
  rw [run.lookup call listed] at known
  rw [Option.some.inj known]
  exact found

theorem Run.countP_new {plan : Descriptor T C} {id : PlanId}
    (known : final.memo.lookup plan = some id) :
    calls.countP (fun call => call.answer.added && call.descriptor == plan) = 1 := by
  have once := (run.coherent coherent_empty).countP_entries known
  rw [run.entries_start, List.countP_map, List.countP_filter] at once
  rw [← once]
  refine List.countP_congr fun call _ => ?_
  rw [Bool.and_comm]
  rfl

include done

theorem Run.plan?_eq_some_iff {planner turn : Nat} {plan : Descriptor T C} :
    plan? queues planner turn = some plan ↔
      ∃ call ∈ calls, call.ticket = (planner, turn) ∧ call.descriptor = plan := by
  constructor
  · intro found
    obtain ⟨call, listed, ticket⟩ := run.exists_call (Nat.zero_le turn) (done.lt_progress found)
    have planned := (run.turn_of_mem call listed).2
    obtain ⟨rfl, rfl⟩ := Prod.mk.inj ticket
    rw [found] at planned
    exact ⟨call, listed, rfl, (Option.some.inj planned).symm⟩
  · rintro ⟨call, listed, ticket, rfl⟩
    obtain ⟨rfl, rfl⟩ := Prod.mk.inj ticket
    exact (run.turn_of_mem call listed).2

theorem Run.lookup_of_mem_flatten {plan : Descriptor T C} (listed : plan ∈ queues.flatten) :
    ∃ call ∈ calls, call.descriptor = plan ∧ final.memo.lookup plan = some call.answer.id := by
  obtain ⟨planner, turn, found⟩ := mem_flatten_iff.mp listed
  obtain ⟨call, called, _, rfl⟩ := (run.plan?_eq_some_iff done).mp found
  exact ⟨call, called, rfl, run.lookup call called⟩

theorem Run.covers {others : List (Call T C)} {otherFinal : Planners T C}
    (otherRun : Run queues start others otherFinal) : final.memo.Covers otherFinal.memo := by
  intro plan id known
  obtain ⟨call, _, listed, same⟩ := otherRun.mem_flatten_of_known known
  obtain ⟨registered, _, _, found⟩ := run.lookup_of_mem_flatten done listed
  exact ⟨registered.answer.id, by rw [← lookup_congr final.memo same, found]⟩

end Completed

section Agreement

variable {T C : Type} [DecidableEq T] [DecidableEq C] [Reference T] [Reference C]
  {queues : List (List (Descriptor T C))} {calls others : List (Call T C)}
  {final otherFinal : Planners T C}

theorem Run.settled (run : Run queues start calls final) (done : final.Done queues) :
    Settled queues calls final.memo where
  registered _ _ _ := run.plan?_eq_some_iff done
  tickets_nodup := run.tickets_nodup
  id_eq_iff first listed second secondListed :=
    (run.coherent coherent_empty).id_eq_iff (run.lookup first listed)
      (run.lookup second secondListed)
  new_once plan listed := by
    obtain ⟨_, _, _, known⟩ := run.lookup_of_mem_flatten done listed
    exact run.countP_new known
  kept := run.kept
  id_iff := run.id_iff
  size_eq := by
    refine (run.coherent coherent_empty).size_eq_of_known ?_ ?_
    · intro entry listed
      rw [run.entries_start] at listed
      obtain ⟨call, member, rfl⟩ := List.mem_map.mp listed
      exact mem_flatten_iff.mpr
        ⟨_, _, (run.turn_of_mem call (List.mem_filter.mp member).1).2⟩
    · intro plan listed
      obtain ⟨call, _, _, known⟩ := run.lookup_of_mem_flatten done listed
      exact ⟨_, known⟩

theorem Run.descriptor_eq (run : Run queues start calls final)
    (otherRun : Run queues start others otherFinal) {call other : Call T C}
    (listed : call ∈ calls) (otherListed : other ∈ others) (same : call.ticket = other.ticket) :
    call.descriptor = other.descriptor := by
  have planned := (run.turn_of_mem call listed).2
  have otherPlanned := (otherRun.turn_of_mem other otherListed).2
  obtain ⟨samePlanner, sameTurn⟩ := Prod.mk.inj same
  rw [samePlanner, sameTurn, otherPlanned] at planned
  exact (Option.some.inj planned).symm

/-- In whatever order the planners take their turns, the ids tell equal plans from others, every
plan is new once, and the ids are the numbers below the number of plans.  Two orders put the same
registrations together under an id, and their ids differ by a bijection. -/
theorem planners_agree (run : Run queues start calls final) (done : final.Done queues)
    (otherRun : Run queues start others otherFinal) (otherDone : otherFinal.Done queues) :
    Settled queues calls final.memo ∧ otherFinal.memo.size = final.memo.size ∧
      (∀ first ∈ calls, ∀ second ∈ calls, ∀ otherFirst ∈ others, ∀ otherSecond ∈ others,
        first.ticket = otherFirst.ticket → second.ticket = otherSecond.ticket →
          (first.answer.id = second.answer.id ↔
            otherFirst.answer.id = otherSecond.answer.id)) ∧
      ∃ rename : PlanId → PlanId,
        Set.BijOn rename {id | id.index < final.memo.size} {id | id.index < final.memo.size} ∧
          ∀ call ∈ calls, ∀ other ∈ others, call.ticket = other.ticket →
            other.answer.id = rename call.answer.id := by
  have settled := run.settled done
  have otherSettled := otherRun.settled otherDone
  have sameSize : otherFinal.memo.size = final.memo.size := by
    rw [settled.size_eq, otherSettled.size_eq]
  have coherent := run.coherent coherent_empty
  refine ⟨settled, sameSize, ?_, final.memo.rename otherFinal.memo, ?_, ?_⟩
  · intro first firstListed second secondListed otherFirst otherFirstListed otherSecond
      otherSecondListed sameFirst sameSecond
    rw [settled.id_eq_iff first firstListed second secondListed,
      otherSettled.id_eq_iff otherFirst otherFirstListed otherSecond otherSecondListed,
      run.descriptor_eq otherRun firstListed otherFirstListed sameFirst,
      run.descriptor_eq otherRun secondListed otherSecondListed sameSecond]
  · have bijection := coherent.bijOn_rename (otherRun.coherent coherent_empty)
      (otherRun.covers otherDone run) (run.covers done otherRun)
    rwa [sameSize] at bijection
  · intro call listed other otherListed same
    have otherKnown := otherRun.lookup other otherListed
    rw [← run.descriptor_eq otherRun listed otherListed same] at otherKnown
    exact (coherent.rename_eq (run.lookup call listed) otherKnown).symm

/-- Two planners have a plan in common, with different hints, and either of them may come first. -/
theorem planners_agree_common_plan :
    let plan (table : String) (side : BuildSide) : Descriptor String String :=
      ⟨⟨table, "id", []⟩, ⟨"items", "order", []⟩, .inner, side, false⟩
    let queues := [[plan "orders" .left, plan "returns" .left], [plan "orders" .right]]
    ∃ calls final others otherFinal,
      (Run queues start calls final ∧ final.Done queues ∧
        calls.map Call.ticket = [(0, 0), (1, 0), (0, 1)]) ∧
      (Run queues start others otherFinal ∧ otherFinal.Done queues ∧
        others.map Call.ticket = [(1, 0), (0, 0), (0, 1)]) ∧
      final.memo.size = 2 ∧ otherFinal.memo.size = 2 := by
  intro plan queues
  obtain ⟨calls, final, run, done, tickets⟩ : ∃ calls final, Run queues start calls final ∧
      final.Done queues ∧ calls.map Call.ticket = [(0, 0), (1, 0), (0, 1)] := by
    refine ⟨_, _, .cons (.turn 0 rfl) (.cons (.turn 1 rfl) (.cons (.turn 0 rfl) .nil)), ?_, rfl⟩
    intro planner
    match planner with
    | 0 | 1 | _ + 2 => rfl
  obtain ⟨others, otherFinal, otherRun, otherDone, otherTickets⟩ : ∃ calls final,
      Run queues start calls final ∧ final.Done queues ∧
        calls.map Call.ticket = [(1, 0), (0, 0), (0, 1)] := by
    refine ⟨_, _, .cons (.turn 1 rfl) (.cons (.turn 0 rfl) (.cons (.turn 0 rfl) .nil)), ?_, rfl⟩
    intro planner
    match planner with
    | 0 | 1 | _ + 2 => rfl
  obtain ⟨settled, sameSize, _⟩ := planners_agree run done otherRun otherDone
  have plans : queues.flatten.eraseDups.length = 2 := by decide
  have size : final.memo.size = 2 := settled.size_eq.trans plans
  exact ⟨calls, final, others, otherFinal, ⟨run, done, tickets⟩,
    ⟨otherRun, otherDone, otherTickets⟩, size, sameSize.trans size⟩

end Agreement

end Planners

end EquiJoin.Memo
