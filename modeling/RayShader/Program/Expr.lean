/-!
# Expressions of generated programs
-/

namespace RayShader.Program

/-- An expression. -/
inductive Expr where
  /-- A whole number. -/
  | int (n : Int)
  /-- A truth value. -/
  | bool (b : Bool)
  /-- A name. -/
  | ident (name : String)
  /-- A call of a function, or of a method of a named receiver. -/
  | call (receiver : Option String) (function : String) (args : List Expr)

/-- A call on its own, where no other expression may stand. -/
structure Call where
  /-- The name before the dot. -/
  receiver : Option String
  /-- The name of the function. -/
  function : String
  /-- The arguments. -/
  args : List Expr

namespace Call

/-- The call of a function. -/
def free (function : String) (args : List Expr) : Call := ⟨none, function, args⟩

/-- The call of a method. -/
def method (receiver function : String) (args : List Expr) : Call := ⟨some receiver, function, args⟩

/-- The call of a method with names for arguments. -/
def forward (receiver function : String) (names : List String) : Call :=
  method receiver function (names.map .ident)

/-- The call as an expression. -/
def toExpr (c : Call) : Expr := .call c.receiver c.function c.args

end Call

/-- What stands before the arguments of a call. -/
def calleeText (receiver : Option String) (function : String) : String :=
  receiver.elim "" (· ++ ".") ++ function

namespace Expr

mutual

/-- The text of an expression. -/
def text : Expr → String
  | .int n => toString n
  | .bool b => if b then "true" else "false"
  | .ident name => name
  | .call receiver function [] => calleeText receiver function ++ "()"
  | .call receiver function (arg :: args) =>
    calleeText receiver function ++ "(" ++ text arg ++ moreText args

/-- The text of the arguments behind the first, and the end of the call. -/
def moreText : List Expr → String
  | [] => ")"
  | arg :: args => ", " ++ text arg ++ moreText args

end

end Expr

/-- The text of a call. -/
def Call.text (c : Call) : String := c.toExpr.text

end RayShader.Program
