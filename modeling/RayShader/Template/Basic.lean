import RayShader.Template.Value
import RayShader.Text.Blank

/-!
# Templates

A template is a list of nodes: text, places for values, conditions and iterations. The
values that fill it are never read as parts of a template again, so a text that looks
like a node comes out as it is.
-/

namespace RayShader.Template

/-- How a template names a value. -/
inductive Term where
  /-- A value of the scope. -/
  | name (name : String)
  /-- A field of a value. -/
  | field (term : Term) (name : String)
  /-- The length of a value. -/
  | length (term : Term)
  deriving DecidableEq

/-- What a condition asks. -/
inductive Test where
  /-- The value holds. -/
  | holds (term : Term)
  /-- The value is a given whole number. -/
  | isInt (term : Term) (n : Int)
  deriving DecidableEq

/-- A part of a template. -/
inductive Node where
  /-- A text. -/
  | text (s : String)
  /-- The place of a value. -/
  | value (term : Term)
  /-- One of two templates. -/
  | cond (test : Test) (yes no : List Node)
  /-- A template for each item of a value. The item has a name, and its number is the
  field `index0` of the value named `loop`. -/
  | each (name : String) (term : Term) (body : List Node)

/-- The values that have names. -/
abbrev Scope : Type := List (String × Value)

/-- The value of a term. -/
def Term.eval (scope : Scope) : Term → Except Error Value
  | name n => .ok ((scope.lookup n).getD .undefined)
  | field t n => do (← t.eval scope).field n
  | length t => do (← t.eval scope).length

/-- The answer to a test. -/
def Test.eval (scope : Scope) : Test → Except Error Bool
  | holds t => do pure (← t.eval scope).isTrue
  | isInt t n => do (← t.eval scope).isInt n

/-- The scope inside an iteration. -/
def Scope.item (scope : Scope) (name : String) (item : Value) (index : Nat) : Scope :=
  (name, item) :: ("loop", .record [("index0", .nat index)]) :: scope

/-- The texts of items, numbered from `index` on, one behind the other. -/
def renderItems (render : Value → Nat → Except Error String) (index : Nat) :
    List Value → Except Error String
  | [] => .ok ""
  | v :: rest => do
    let s ← render v index
    let more ← renderItems render (index + 1) rest
    pure (s ++ more)

mutual

/-- The text of a node. -/
def Node.render : Node → Scope → Except Error String
  | .text s, _ => .ok s
  | .value t, scope => do (← t.eval scope).text
  | .cond test yes no, scope => do
    if ← test.eval scope then Node.renderAll yes scope else Node.renderAll no scope
  | .each name t body, scope => do
    let items ← (← t.eval scope).items
    renderItems (fun v index => Node.renderAll body (scope.item name v index)) 0 items

/-- The texts of nodes, one behind the other. -/
def Node.renderAll : List Node → Scope → Except Error String
  | [], _ => .ok ""
  | n :: rest, scope => do
    let s ← n.render scope
    let more ← Node.renderAll rest scope
    pure (s ++ more)

end

end RayShader.Template
