import EquiJoin.Inspection
import EquiJoin.Display

/-!
# Plan ids -/

set_option autoImplicit false

namespace EquiJoin

structure PlanId where
  index : Nat
  deriving DecidableEq

namespace PlanId

instance : Inhabited PlanId := ⟨⟨0⟩⟩

instance : Ord PlanId := ⟨fun first second => compare first.index second.index⟩

instance : Display PlanId := ⟨fun id => "!" ++ toString id.index⟩

instance : Inspect PlanId := ⟨fun id => .wrapped "PlanId" (.atom (toString id.index))⟩

end PlanId

end EquiJoin
