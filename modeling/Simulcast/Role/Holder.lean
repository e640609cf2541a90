import Simulcast.Role.Basic
import Simulcast.Lineup.Basic

/-!
# The layers that have the roles

Roles hold handles, and a lineup says which layers the handles name.
-/

namespace Simulcast.Roles

/-- The number of the layer that has a role, as long as it is there. -/
def holder? (r : Roles) (role : Role) (t : Lineup) : Option Nat :=
  (r.handle? role).bind t.resolve

/-- The order of the layer that has a role. -/
def order? (r : Roles) (role : Role) (t : Lineup) : Option Layer.Order :=
  (r.holder? role t).map t.order

end Simulcast.Roles
