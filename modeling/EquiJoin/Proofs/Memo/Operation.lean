import EquiJoin.Memo.Session
import EquiJoin.Proofs.Memo.Basic

/-!
# What an operation registers

An operation asks for the registration of at most one descriptor (`requested?`).  If it asks for
one, its answer and its effect are those of registering it; otherwise it has no effect.  What every
registration keeps is therefore kept over a run of any length (`run_keeps`).
-/

set_option autoImplicit false

namespace EquiJoin

variable {T C : Type}

def Outcome.descriptor? : Outcome T C → Option (Descriptor T C)
  | .descriptor result => some result
  | .absent | .malformed _ => none

theorem Outcome.descriptor?_eq_some_iff {outcome : Outcome T C} {result : Descriptor T C} :
    outcome.descriptor? = some result ↔ outcome = .descriptor result := by
  cases outcome <;> simp [descriptor?]

variable [Reference T] [Reference C]

theorem Journal.value_step (descriptor : Descriptor T C) (step : Step) :
    (Journal.step descriptor step).value = step.apply descriptor := by
  cases step with
  | commute | withBuildSide => rfl
  | deliver delivery =>
      change Outcome.ofDecoded (Journal.decode (delivery.payload descriptor)).value = _
      rw [Step.apply, Journal.decode]
      split
      · next received => rw [received]
      · next refused => rw [refused]

namespace Memo

variable [DecidableEq T] [DecidableEq C]

def requested? (memo : Memo T C) : Operation T C → Option (Descriptor T C)
  | .add descriptor => some descriptor
  | .derive id step => (memo.get? id).bind fun entry => (step.apply entry).descriptor?
  | .lookup _ | .get _ | .dump | .size => none

variable {memo : Memo T C} {id : PlanId} {entry : Descriptor T C} {operation : Operation T C}

theorem requested?_derive_eq_some_iff {step : Step} {result : Descriptor T C} :
    memo.requested? (.derive id step) = some result ↔
      ∃ entry, memo.get? id = some entry ∧ step.apply entry = .descriptor result := by
  simp only [requested?, Option.bind_eq_some_iff, Outcome.descriptor?_eq_some_iff]

theorem perform_derive (found : memo.get? id = some entry) (step : Step) :
    (memo.perform (.derive id step)).value =
      match step.apply entry with
      | .descriptor result => (.registered (memo.add result).1, (memo.add result).2)
      | outcome => (.underived outcome, memo) := by
  rw [perform, found, ← Journal.value_step]
  simp only [bind, Logged.andThen]
  cases (Journal.step entry step).value <;> rfl

theorem perform_of_requested {descriptor : Descriptor T C}
    (asked : memo.requested? operation = some descriptor) :
    (memo.perform operation).value =
      (.registered (memo.add descriptor).1, (memo.add descriptor).2) := by
  cases operation with
  | add other =>
      cases asked
      rfl
  | lookup | get | dump | size => cases asked
  | derive id step =>
      obtain ⟨entry, found, yielded⟩ := requested?_derive_eq_some_iff.mp asked
      rw [perform_derive found, yielded]

theorem perform_of_unrequested (asked : memo.requested? operation = none) :
    (memo.perform operation).value.2 = memo ∧
      ∀ registration, (memo.perform operation).value.1 ≠ .registered registration := by
  cases operation with
  | add => cases asked
  | lookup | get | dump | size => exact ⟨rfl, fun _ same => by cases same⟩
  | derive id step =>
      cases found : memo.get? id with
      | none =>
          rw [perform, found]
          exact ⟨rfl, fun _ same => by cases same⟩
      | some entry =>
          rw [requested?, found, Option.bind_some] at asked
          rw [perform_derive found]
          cases outcome : step.apply entry with
          | descriptor =>
              rw [outcome] at asked
              cases asked
          | absent | malformed => exact ⟨rfl, fun _ same => by cases same⟩

theorem perform_keeps (Kept : Memo T C → Prop)
    (keep : ∀ current descriptor, Kept current → Kept (current.add descriptor).2)
    (operation : Operation T C) (start : Kept memo) :
    Kept (memo.perform operation).value.2 := by
  cases asked : memo.requested? operation with
  | none =>
      rw [(perform_of_unrequested asked).1]
      exact start
  | some descriptor =>
      rw [perform_of_requested asked]
      exact keep memo descriptor start

theorem run_keeps (Kept : Memo T C → Prop)
    (keep : ∀ current descriptor, Kept current → Kept (current.add descriptor).2)
    (operations : List (Operation T C)) (start : Kept memo) :
    Kept (memo.run operations).value.2 := by
  induction operations generalizing memo with
  | nil => exact start
  | cons operation operations ih => exact ih (perform_keeps Kept keep operation start)

end Memo

end EquiJoin
