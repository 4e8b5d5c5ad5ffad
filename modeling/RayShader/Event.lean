import RayShader.Technique.Info

/-!
# Events

What a computation does beside giving a result: it writes diagnostics, and it asks
collaborators for their parts of a program. Events stand in the order in which they
happen.
-/

namespace RayShader

/-- How important a diagnostic is. -/
inductive Event.Level where
  /-- For the search of defects. -/
  | debug
  /-- For everybody. -/
  | info
  /-- Something may be wrong. -/
  | warn
  /-- Something is wrong. -/
  | error
  deriving DecidableEq

/-- A question to a collaborator. -/
inductive Event.Request where
  /-- The description of a kind of technique. -/
  | info (kind : String)
  /-- The preamble of a program. -/
  | header (rayGeneration : Bool)
  /-- The technique of the selected variant. -/
  | technique
  /-- The callback of a moment. -/
  | callback (m : Technique.Moment)
  /-- The table of lights, restricted or not. -/
  | lights (restricted : Bool)
  /-- The camera. -/
  | camera
  /-- The material of a hit group. -/
  | material (group : Nat)
  /-- The statement that constructs the device. -/
  | device
  /-- The statements that bind the scene database. -/
  | database
  deriving DecidableEq

/-- Something that a computation does beside giving a result. -/
inductive Event where
  /-- It writes a diagnostic. -/
  | log (level : Event.Level) (message : String)
  /-- It asks a collaborator. -/
  | ask (request : Event.Request)
  deriving DecidableEq

namespace Event

/-- The text that stands in diagnostics for the fingerprint of a program. -/
def fingerprint : String := "#"

/-- The request, if the event is one. -/
def request? : Event → Option Request
  | ask r => some r
  | log .. => none

end Event

end RayShader
