/-!
# Drafts

The members of a record while it is being put together: each member has a value already or has
none yet.  A draft becomes the values of all members once nothing is missing; otherwise it names
the first member, in a given order, that is. -/

set_option autoImplicit false

namespace EquiJoin

structure Draft {Member : Type} (Value : Member → Type) where
  value? : (member : Member) → Option (Value member)

namespace Draft

variable {Member : Type} {Value : Member → Type}

def empty : Draft Value := ⟨fun _ => none⟩

def set [DecidableEq Member] (draft : Draft Value) (member : Member) (value : Value member) :
    Draft Value :=
  ⟨fun other => if same : member = other then some (same ▸ value) else draft.value? other⟩

theorem value?_empty (member : Member) : (empty : Draft Value).value? member = none := rfl

theorem value?_set_self [DecidableEq Member] (draft : Draft Value) (member : Member)
    (value : Value member) : (draft.set member value).value? member = some value := by
  simp [set]

theorem value?_set_of_ne [DecidableEq Member] (draft : Draft Value) {member other : Member}
    (value : Value member) (different : member ≠ other) :
    (draft.set member value).value? other = draft.value? other := by
  simp [set, different]

def orElse (draft defaults : Draft Value) : Draft Value :=
  ⟨fun member => (draft.value? member).or (defaults.value? member)⟩

def missing? (draft : Draft Value) (members : List Member) : Option Member :=
  members.find? fun member => (draft.value? member).isNone

def complete (draft : Draft Value) (members : List Member) (all : ∀ member, member ∈ members) :
    Except Member ((member : Member) → Value member) :=
  match nothingMissing : draft.missing? members with
  | some member => .error member
  | none => .ok fun member =>
      (draft.value? member).get (by
        have found := List.find?_eq_none.mp nothingMissing member (all member)
        simpa [Option.isSome_iff_ne_none] using found)

end Draft

end EquiJoin
