import EquiJoin.Fingerprint
import EquiJoin.Inspection
import EquiJoin.Json.Wire
import EquiJoin.Display

/-!
# References

A join names its tables and columns by references that only the catalog can resolve.  All that is
asked of a reference is that it can be compared, shown, told apart by its bytes and sent. -/

set_option autoImplicit false

namespace EquiJoin

class Reference (α : Type) extends Display α, Inspect α, Fingerprint α, Json.Wire α

instance : Reference String where

end EquiJoin
