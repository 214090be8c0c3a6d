import EquiJoin.Log.Event

/-!
# Logged results

The result of an operation together with the events that it has reported, in order. -/

set_option autoImplicit false

namespace EquiJoin

structure Logged (α : Type) where
  value : α
  events : List Event

namespace Logged

def silent {α : Type} (value : α) : Logged α := ⟨value, []⟩

def andThen {α β : Type} (first : Logged α) (next : α → Logged β) : Logged β :=
  ⟨(next first.value).value, first.events ++ (next first.value).events⟩

instance : Monad Logged where
  pure := silent
  bind := andThen

end Logged

end EquiJoin
