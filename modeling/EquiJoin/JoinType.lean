import EquiJoin.Fingerprint
import EquiJoin.Inspection
import EquiJoin.Json.Names
import EquiJoin.Display

/-!
# Join types

What becomes of the rows of two inputs that are matched on a key. -/

set_option autoImplicit false

namespace EquiJoin

inductive JoinType where
  | inner
  | leftOuter
  | rightOuter
  | fullOuter
  | semi
  | antiSemi
  deriving DecidableEq

namespace JoinType

instance : Inhabited JoinType := ⟨.inner⟩

/-- The join type to use once the inputs have changed places.  Semi and anti-semi joins only emit
rows of their left input, so they have none. -/
def commute : JoinType → Option JoinType
  | .inner => some .inner
  | .leftOuter => some .rightOuter
  | .rightOuter => some .leftOuter
  | .fullOuter => some .fullOuter
  | .semi | .antiSemi => none

theorem commute_commute {joinType commuted : JoinType} (found : joinType.commute = some commuted) :
    commuted.commute = some joinType := by
  cases joinType <;> cases found <;> rfl

/-- Whether left rows without a match are emitted, with nothing for the right columns. -/
def preservesLeft : JoinType → Bool
  | .leftOuter | .fullOuter => true
  | _ => false

def preservesRight : JoinType → Bool
  | .rightOuter | .fullOuter => true
  | _ => false

instance : Display JoinType where
  display
    | .inner => "Inner"
    | .leftOuter => "LeftOuter"
    | .rightOuter => "RightOuter"
    | .fullOuter => "FullOuter"
    | .semi => "Semi"
    | .antiSemi => "AntiSemi"

instance : Inspect JoinType := ⟨fun joinType => .atom (display joinType)⟩

def position : JoinType → Nat
  | .inner => 0
  | .leftOuter => 1
  | .rightOuter => 2
  | .fullOuter => 3
  | .semi => 4
  | .antiSemi => 5

instance : Fingerprint JoinType := ⟨fun joinType => word joinType.position⟩

/-- The first four join types had other names before, which are still read. -/
instance : Json.Named JoinType where
  names :=
    [("EQUI_INNER", .inner), ("INNER", .inner), ("EQUI_LEFT", .leftOuter),
      ("LEFT_OUTER", .leftOuter), ("EQUI_RIGHT", .rightOuter), ("RIGHT_OUTER", .rightOuter),
      ("EQUI_FULL", .fullOuter), ("FULL_OUTER", .fullOuter), ("SEMI", .semi),
      ("ANTI_SEMI", .antiSemi)]
  name
    | .inner => "INNER"
    | .leftOuter => "LEFT_OUTER"
    | .rightOuter => "RIGHT_OUTER"
    | .fullOuter => "FULL_OUTER"
    | .semi => "SEMI"
    | .antiSemi => "ANTI_SEMI"
  lookup_name := by intro value; cases value <;> rfl

instance : Json.Wire JoinType := Json.Named.wire JoinType

end JoinType

end EquiJoin
