import EquiJoin.Descriptor.Basic
import EquiJoin.Memo.PlanId
import Std.Data.HashMap

/-!
# Memos

A memo gives every distinct plan an id.  The plans are kept in the order in which they came, each
with the hints that it came with first, and an index finds the id of a plan. -/

set_option autoImplicit false

namespace EquiJoin

variable {T C : Type} [DecidableEq T] [DecidableEq C] [Fingerprint T] [Fingerprint C]

structure Memo (T C : Type) [DecidableEq T] [DecidableEq C] [Fingerprint T] [Fingerprint C] where
  entries : List (Descriptor T C)
  ids : Std.HashMap (Descriptor T C) PlanId

structure Registration where
  id : PlanId
  added : Bool
  deriving DecidableEq

namespace Memo

def empty : Memo T C := ⟨[], ∅⟩

def size (memo : Memo T C) : Nat := memo.entries.length

def isEmpty (memo : Memo T C) : Bool := memo.size == 0

def lookup (memo : Memo T C) (descriptor : Descriptor T C) : Option PlanId :=
  memo.ids[descriptor]?

def get? (memo : Memo T C) (id : PlanId) : Option (Descriptor T C) :=
  memo.entries[id.index]?

/-- Registers a plan.  A plan that is there already keeps its id and its descriptor. -/
def add (memo : Memo T C) (descriptor : Descriptor T C) : Registration × Memo T C :=
  match memo.lookup descriptor with
  | some id => (⟨id, false⟩, memo)
  | none =>
      let id : PlanId := ⟨memo.size⟩
      (⟨id, true⟩, ⟨memo.entries ++ [descriptor], memo.ids.insert descriptor id⟩)

def toList (memo : Memo T C) : List (PlanId × Descriptor T C) :=
  memo.entries.zipIdx.map fun (descriptor, index) => (⟨index⟩, descriptor)

end Memo

end EquiJoin
