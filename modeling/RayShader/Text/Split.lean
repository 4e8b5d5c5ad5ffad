/-!
# Splitting texts
-/

namespace RayShader.Text

/-- The texts between the separators; always at least one. -/
def splitAt (separator : Char) : List Char → List (List Char)
  | [] => [[]]
  | c :: rest =>
    if c = separator then [] :: splitAt separator rest
    else match splitAt separator rest with
      | [] => [[c]]
      | s :: more => (c :: s) :: more

/-- The texts with a separator between them. -/
def joinWith (separator : Char) : List (List Char) → List Char
  | [] => []
  | [s] => s
  | s :: more => s ++ separator :: joinWith separator more

end RayShader.Text
