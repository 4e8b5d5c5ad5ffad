import RayShader.Target
import RayShader.Json.Parse
import RayShader.Json.Writer

/-!
# Serialised targets

A target is a record; a missing field is that of the default target.
-/

namespace RayShader

/-- An architecture is written by its key. -/
def Architecture.toJson (a : Architecture) : Json := .text a.key

/-- The architecture with the key that is written. -/
def Architecture.ofJson? (j : Json) : Option Architecture := j.choice?.bind Architecture.ofKey?

namespace Target

/-- The names of the fields, in order. -/
def fieldNames : List String := ["architecture", "vector_width", "device", "thread_count"]

/-- The target as a record. -/
def toJson (t : Target) : Json :=
  .record [("architecture", t.architecture.toJson), ("vector_width", .count t.vectorWidth),
    ("device", .count t.device), ("thread_count", .count t.threadCount)]

/-- The target that a record holds. -/
def ofJson? (j : Json) : Option Target := do
  let fields ← j.fields? fieldNames
  let base : Target := default
  pure {
    architecture := ← Json.field? fields "architecture" Architecture.ofJson? base.architecture
    vectorWidth := ← Json.field? fields "vector_width" Json.count? base.vectorWidth
    device := ← Json.field? fields "device" Json.count? base.device
    threadCount := ← Json.field? fields "thread_count" Json.count? base.threadCount }

/-- The text of a target. -/
def serialise (t : Target) : String := t.toJson.write

/-- The target that a text holds. -/
def parse (s : String) : Except Error Target := Json.parse ofJson? s

end Target

end RayShader
