import RayShader.Run
import RayShader.Template.Stock

/-!
# Contributions from templates
-/

namespace RayShader.Stock

/-- A number given by its decimal. -/
def decimal (digits : Nat) (exponent : Int) : Single :=
  (Decimal.mk digits exponent).toBinary .single false

/-- The text of a stock template. -/
def fill (nodes : List Template.Node) (scope : Template.Scope) : Except Error String :=
  (Template.fill nodes scope).mapError .template

/-- A computation on scene data, as one that a caller may also be at fault for. -/
def orFault {α : Type} (r : Except Error α) : Except Failure α := r.mapError .error

/-- The position of a name among modes; case does not matter. -/
def modeIndex? (modes : List String) (mode : String) : Option Nat :=
  modes.findIdx? (Text.eqIgnoringCase · mode)

end RayShader.Stock
