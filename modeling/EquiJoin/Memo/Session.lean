import EquiJoin.Log.Journal

/-!
# Sessions with a memo

The operations on a memo as data, what each of them answers, and what a run of them amounts to. -/

set_option autoImplicit false

namespace EquiJoin.Memo

inductive Operation (T C : Type) where
  | add (descriptor : Descriptor T C)
  | lookup (descriptor : Descriptor T C)
  | get (id : PlanId)
  /-- Applies a step to an entry and registers what comes of it. -/
  | derive (id : PlanId) (step : Step)
  | dump
  | size

inductive Answer (T C : Type) where
  | registered (registration : Registration)
  | found (id : Option PlanId)
  | entry (descriptor : Option (Descriptor T C))
  | underived (outcome : Outcome T C)
  /-- Nothing about a plan, but the number of plans if that was asked for. -/
  | done {size : Option Nat}

variable {T C : Type} [DecidableEq T] [DecidableEq C] [Reference T] [Reference C]

def register (memo : Memo T C) (descriptor : Descriptor T C) : Logged (Answer T C × Memo T C) := do
  let (registration, memo) ← Journal.add memo descriptor
  return (.registered registration, memo)

def perform (memo : Memo T C) : Operation T C → Logged (Answer T C × Memo T C)
  | .add descriptor => memo.register descriptor
  | .lookup descriptor => return (.found (memo.lookup descriptor), memo)
  | .get id => return (.entry (memo.get? id), memo)
  | .derive id step =>
      match memo.get? id with
      | none => return (.entry none, memo)
      | some entry => do
          match ← Journal.step entry step with
          | .descriptor descriptor => memo.register descriptor
          | outcome => return (.underived outcome, memo)
  | .dump => do
      Journal.dump memo
      return (@Answer.done T C none, memo)
  | .size => return (@Answer.done T C (some memo.size), memo)

def run (memo : Memo T C) : List (Operation T C) → Logged (List (Answer T C) × Memo T C)
  | [] => return ([], memo)
  | operation :: operations => do
      let (answer, memo) ← memo.perform operation
      let (answers, memo) ← memo.run operations
      return (answer :: answers, memo)

end EquiJoin.Memo
