import RayShader.Event
import RayShader.Error

/-!
# Computations with events

A `Run` is a finished computation: its events, and a value or a failure. A `Stage`
is a computation on a state. A failure ends a computation, and what it has done up to
then stays done: its events are kept, and so is the state that it has reached.
-/

namespace RayShader

/-- A finished computation. -/
structure Run (α : Type) where
  /-- What it did, in order. -/
  events : List Event
  /-- What came of it. -/
  result : Except Failure α

namespace Run

variable {α β : Type}

/-- Goes on with the value, if there is one. -/
def bind (x : Run α) (f : α → Run β) : Run β :=
  match x.result with
  | .ok a => ⟨x.events ++ (f a).events, (f a).result⟩
  | .error e => ⟨x.events, .error e⟩

instance : Monad Run where
  pure a := ⟨[], .ok a⟩
  bind := bind

/-- A result without events. -/
def ofExcept (r : Except Failure α) : Run α := ⟨[], r⟩

/-- Ends with an error. -/
def error (e : Error) : Run α := ⟨[], .error (.error e)⟩

/-- Writes a diagnostic. -/
def log (level : Event.Level) (message : String) : Run Unit := ⟨[.log level message], .ok ()⟩

/-- Asks a collaborator. -/
def ask (request : Event.Request) : Run Unit := ⟨[.ask request], .ok ()⟩

end Run

/-- A computation on a state. -/
def Stage (σ α : Type) : Type := σ → σ × Run α

namespace Stage

variable {σ α β : Type}

/-- Goes on with the value and the state, if there is a value. -/
def bind (x : Stage σ α) (f : α → Stage σ β) : Stage σ β := fun s =>
  match x s with
  | (s, ⟨events, .error e⟩) => (s, ⟨events, .error e⟩)
  | (s, ⟨events, .ok a⟩) =>
    let (s, r) := f a s
    (s, ⟨events ++ r.events, r.result⟩)

instance : Monad (Stage σ) where
  pure a := fun s => (s, ⟨[], .ok a⟩)
  bind := bind

/-- The state. -/
def get : Stage σ σ := fun s => (s, ⟨[], .ok s⟩)

/-- Changes the state. -/
def modify (f : σ → σ) : Stage σ Unit := fun s => (f s, ⟨[], .ok ()⟩)

/-- A computation without events. -/
def ofStep (step : σ → σ × Except Failure α) : Stage σ α := fun s => ((step s).1, ⟨[], (step s).2⟩)

/-- The state and the result, without the events. -/
def step (x : Stage σ α) (s : σ) : σ × Except Failure α := ((x s).1, (x s).2.result)

/-- A computation that leaves the state alone. -/
def ofRun (r : Run α) : Stage σ α := fun s => (s, r)

/-- A result without events. -/
def ofExcept (r : Except Failure α) : Stage σ α := ofRun (.ofExcept r)

/-- A value of scene data, or the error in them. -/
def read (r : Except Error α) : Stage σ α := ofExcept (r.mapError .error)

/-- Ends with an error. -/
def error (e : Error) : Stage σ α := ofRun (.error e)

/-- Writes a diagnostic. -/
def log (level : Event.Level) (message : String) : Stage σ Unit := ofRun (.log level message)

/-- Asks a collaborator. -/
def ask (request : Event.Request) : Stage σ Unit := ofRun (.ask request)

/-- The finished computation on a given state, without the state that it reaches. -/
def runOn (x : Stage σ α) (s : σ) : Run α := (x s).2

end Stage

end RayShader
