import RayShader.Program.Expr

/-!
# Generated programs

A program is a preamble, one exported function and the call that this function ends
with. Its body is a list of fragments: lines of the generator and the parts that
collaborators contribute, which are already indented.
-/

namespace RayShader.Program

/-- A part of the body of a function. -/
inductive Fragment where
  /-- The contribution of a collaborator. -/
  | source (text : String)
  /-- A line of the generator, as a text. -/
  | inline (text : String)
  /-- A call for its effect. -/
  | statement (call : Call)
  /-- A name for a value, with the type of the value where it is not clear. -/
  | binding (name : String) (value : Expr) (type : Option String)
  /-- An empty line. -/
  | blank

/-- The indentation of the lines of a body. -/
def indent : String := "  "

/-- The text of a fragment, with the ends of its lines. -/
def Fragment.text : Fragment → String
  | source text => text ++ "\n"
  | inline text => indent ++ text ++ "\n"
  | statement call => indent ++ call.text ++ ";\n"
  | binding name value (some type) =>
    indent ++ "let " ++ name ++ " = " ++ value.text ++ " : " ++ type ++ ";\n"
  | binding name value none => indent ++ "let " ++ name ++ " = " ++ value.text ++ ";\n"
  | blank => "\n"

/-- The signature of an exported function. -/
structure EntryPoint where
  /-- Its name. -/
  name : String
  /-- The names and types of its parameters. -/
  params : List (String × String)
  /-- The type of its result. -/
  returns : String
  deriving DecidableEq

/-- The line that opens the function. -/
def EntryPoint.text (e : EntryPoint) : String :=
  let params := e.params.map fun (name, type) => name ++ ": " ++ type
  "#[export] fn " ++ e.name ++ "(" ++ String.intercalate ", " params ++ ") -> "
    ++ e.returns ++ " \x7b"

end RayShader.Program

namespace RayShader

/-- A generated program. -/
structure Program where
  /-- What stands before the function. -/
  preamble : String
  /-- The signature of the function. -/
  entry : Program.EntryPoint
  /-- The body of the function. -/
  body : List Program.Fragment
  /-- The call that the function ends with. -/
  result : Program.Call

/-- The text of a program. -/
def Program.text (p : Program) : String :=
  p.preamble ++ "\n" ++ p.entry.text ++ "\n" ++ String.join (p.body.map Fragment.text)
    ++ indent ++ p.result.text ++ "\n\x7d\n"

end RayShader
