import EquiJoin.Fingerprint
import EquiJoin.Inspection
import EquiJoin.Json.Names
import EquiJoin.Display

/-!
# The build side

The input that is held in a table indexed by its key, while the other one is streamed against it. -/

set_option autoImplicit false

namespace EquiJoin

inductive BuildSide where
  | left
  | right
  deriving DecidableEq

namespace BuildSide

/-- The right input is held unless something else is said. -/
instance : Inhabited BuildSide := ⟨.right⟩

def other : BuildSide → BuildSide
  | .left => .right
  | .right => .left

theorem other_other (side : BuildSide) : side.other.other = side := by
  cases side <;> rfl

instance : Display BuildSide where
  display
    | .left => "Left"
    | .right => "Right"

instance : Inspect BuildSide := ⟨fun side => .atom (display side)⟩

def position : BuildSide → Nat
  | .left => 0
  | .right => 1

instance : Fingerprint BuildSide := ⟨fun side => word side.position⟩

/-- Each side once had a name that told the size of the left input, which is still read. -/
instance : Json.Named BuildSide where
  names := [("LEFT", .left), ("SMALL_LEFT", .left), ("LARGE_LEFT", .right), ("RIGHT", .right)]
  name
    | .left => "LEFT"
    | .right => "RIGHT"
  lookup_name := by intro value; cases value <;> rfl

instance : Json.Wire BuildSide := Json.Named.wire BuildSide

end BuildSide

end EquiJoin
