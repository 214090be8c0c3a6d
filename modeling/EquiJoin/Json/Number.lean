import EquiJoin.Decimal.FloatText

/-!
# Numbers in a document

A number is an integer when it is written without fraction and exponent and fits sixty-four bits;
every other number is a floating-point number. -/

set_option autoImplicit false

namespace EquiJoin.Json

inductive Number where
  | integer (value : Int)
  | floating (value : Float)
  deriving DecidableEq

def Number.described : Number → String
  | .integer value => s!"integer `{value}`"
  | .floating value => s!"floating point `{Decimal.floatText value}`"

end EquiJoin.Json
