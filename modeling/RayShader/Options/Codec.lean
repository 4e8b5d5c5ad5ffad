import RayShader.Options.Basic
import RayShader.Target.Codec

/-!
# Serialised options

Options are a record; a missing field is that of the standard options.
-/

namespace RayShader.Options

/-- The names of the fields, in order. -/
def fieldNames : List String :=
  ["file_path", "target", "enable_padding", "samples_per_iteration", "is_tracer", "camera_type",
    "technique_type", "film_width", "film_height"]

/-- The options as a record. -/
def toJson (o : Options) : Json :=
  .record [("file_path", .text o.filePath), ("target", o.target.toJson), ("enable_padding", .bool o.padding),
    ("samples_per_iteration", .count o.samples), ("is_tracer", .bool o.isTracer),
    ("camera_type", .optional o.cameraKind), ("technique_type", .optional o.techniqueKind),
    ("film_width", .count o.filmWidth), ("film_height", .count o.filmHeight)]

/-- The options that a record holds. -/
def ofJson? (j : Json) : Option Options := do
  let fields ← j.fields? fieldNames
  let base := standard
  pure {
    filePath := ← Json.field? fields "file_path" Json.text? base.filePath
    target := ← Json.field? fields "target" Target.ofJson? base.target
    padding := ← Json.field? fields "enable_padding" Json.bool? base.padding
    samples := ← Json.field? fields "samples_per_iteration" Json.count? base.samples
    isTracer := ← Json.field? fields "is_tracer" Json.bool? base.isTracer
    cameraKind := ← Json.field? fields "camera_type" Json.optional? base.cameraKind
    techniqueKind := ← Json.field? fields "technique_type" Json.optional? base.techniqueKind
    filmWidth := ← Json.field? fields "film_width" Json.count? base.filmWidth
    filmHeight := ← Json.field? fields "film_height" Json.count? base.filmHeight }

/-- The text of options. -/
def serialise (o : Options) : String := o.toJson.write

/-- The options that a text holds. -/
def parse (s : String) : Except Error Options := Json.parse ofJson? s

end RayShader.Options
