import RayShader.Json.Decoder
import RayShader.Json.Reader
import RayShader.Error

/-!
# Values of a whole text
-/

namespace RayShader.Json

/-- What a decoder finds in the value that a text holds. A text without a value and a
value that the decoder refuses are malformed alike. -/
def parse {α : Type} (decode? : Json → Option α) (s : String) : Except Error α :=
  match (read? s).bind decode? with
  | some a => .ok a
  | none => .error .malformed

end RayShader.Json
