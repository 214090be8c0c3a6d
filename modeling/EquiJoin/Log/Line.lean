import EquiJoin.Log.Event

/-!
# Log lines

An event as a line of text: its level and its fields.  A log is kept at a level and leaves out the
more detailed events. -/

set_option autoImplicit false

namespace EquiJoin

def Level.shows (level : Level) (event : Event) : Bool :=
  event.level.rank ≤ level.rank

def FieldValue.written : FieldValue → String
  | .quoted text => Text.quoted text
  | .plain text => text
  | .count number => toString number
  | .flag value => if value then "true" else "false"

def Event.line (event : Event) : String :=
  " ".intercalate (event.level.name ::
    event.fields.map fun (name, value) => name ++ "=" ++ value.written)

end EquiJoin
