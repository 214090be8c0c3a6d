/-!
# Text for readers

The short text under which a value appears in explanations and in the log. -/

set_option autoImplicit false

namespace EquiJoin

class Display (α : Type) where
  display : α → String

export Display (display)

instance : Display String := ⟨id⟩

end EquiJoin
