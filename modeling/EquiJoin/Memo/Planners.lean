import EquiJoin.Memo.Basic
import Mathlib.Logic.Function.Basic

/-!
# Planners that share a memo

Several planners register plans with one memo.  Each of them has a list of plans and registers them
in order, one at a time.  A registration is not divided, but nothing is said about whose turn it
is: a run is any sequence of registrations that can come about. -/

set_option autoImplicit false

namespace EquiJoin.Memo

/-- A registration by one of several planners, and what it was answered. -/
structure Call (T C : Type) where
  planner : Nat
  /-- How many plans the planner had registered before. -/
  turn : Nat
  descriptor : Descriptor T C
  answer : Registration

def Call.ticket {T C : Type} (call : Call T C) : Nat × Nat := (call.planner, call.turn)

variable {T C : Type} [DecidableEq T] [DecidableEq C] [Fingerprint T] [Fingerprint C]

structure Planners (T C : Type) [DecidableEq T] [DecidableEq C] [Fingerprint T] [Fingerprint C]
    where
  progress : Nat → Nat
  memo : Memo T C

namespace Planners

def start : Planners T C := ⟨fun _ => 0, .empty⟩

def plan? {α : Type} (queues : List (List α)) (planner turn : Nat) : Option α :=
  queues[planner]?.bind fun queue => queue[turn]?

def register (state : Planners T C) (planner : Nat) (descriptor : Descriptor T C) :
    Call T C × Planners T C :=
  let (answer, memo) := state.memo.add descriptor
  let turn := state.progress planner
  (⟨planner, turn, descriptor, answer⟩,
    ⟨Function.update state.progress planner (turn + 1), memo⟩)

/-- Some planner that has plans left registers the next one. -/
inductive Step (queues : List (List (Descriptor T C))) :
    Planners T C → Call T C → Planners T C → Prop where
  | turn {state : Planners T C} (planner : Nat) {descriptor : Descriptor T C} :
      plan? queues planner (state.progress planner) = some descriptor →
        Step queues state (state.register planner descriptor).1
          (state.register planner descriptor).2

inductive Run (queues : List (List (Descriptor T C))) :
    Planners T C → List (Call T C) → Planners T C → Prop where
  | nil {state : Planners T C} : Run queues state [] state
  | cons {state next final : Planners T C} {call : Call T C} {calls : List (Call T C)} :
      Step queues state call next → Run queues next calls final →
        Run queues state (call :: calls) final

def Done (queues : List (List (Descriptor T C))) (state : Planners T C) : Prop :=
  ∀ planner, plan? queues planner (state.progress planner) = none

end Planners

end EquiJoin.Memo
