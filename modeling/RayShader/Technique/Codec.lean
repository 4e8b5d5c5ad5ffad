import RayShader.Technique.Info
import RayShader.Json.Parse
import RayShader.Json.Writer

/-!
# Serialised descriptions of techniques

Descriptions are records; a missing field is empty. Features are written as a text.
-/

namespace RayShader.Technique

/-- The set of features that a text names. -/
def Features.ofJson? (j : Json) : Option Features := j.text?.bind ofText?

/-- The mode with the key that is written. -/
def ShadowMode.ofJson? (j : Json) : Option ShadowMode := j.choice?.bind ofKey?

namespace VariantInfo

/-- The names of the fields, in order. -/
def fieldNames : List String :=
  ["features", "shadow_handling_mode", "emitter_payload_initializer", "primary_payload_count",
    "secondary_payload_count"]

/-- The description of a variant as a record. -/
def toJson (v : VariantInfo) : Json :=
  .record [("features", .text v.features.text), ("shadow_handling_mode", .text v.shadowMode.key),
    ("emitter_payload_initializer", .optional v.payloadInitializer),
    ("primary_payload_count", .count v.primaryPayload),
    ("secondary_payload_count", .count v.secondaryPayload)]

/-- The description of a variant that a record holds. -/
def ofJson? (j : Json) : Option VariantInfo := do
  let fields ← j.fields? fieldNames
  let base : VariantInfo := default
  pure {
    features := ← Json.field? fields "features" Features.ofJson? base.features
    shadowMode := ← Json.field? fields "shadow_handling_mode" ShadowMode.ofJson? base.shadowMode
    payloadInitializer :=
      ← Json.field? fields "emitter_payload_initializer" Json.optional? base.payloadInitializer
    primaryPayload := ← Json.field? fields "primary_payload_count" Json.count? base.primaryPayload
    secondaryPayload :=
      ← Json.field? fields "secondary_payload_count" Json.count? base.secondaryPayload }

end VariantInfo

namespace Info

/-- The names of the fields, in order. -/
def fieldNames : List String := ["variants", "enabled_aovs"]

/-- The description of a technique as a record. -/
def toJson (i : Info) : Json :=
  .record [("variants", .array (i.variants.map VariantInfo.toJson)),
    ("enabled_aovs", .array (i.aovs.map .text))]

/-- The description of a technique that a record holds. -/
def ofJson? (j : Json) : Option Info := do
  let fields ← j.fields? fieldNames
  pure {
    variants := ← Json.field? fields "variants" (Json.list? VariantInfo.ofJson?) []
    aovs := ← Json.field? fields "enabled_aovs" (Json.list? Json.text?) [] }

/-- The text of a description. -/
def serialise (i : Info) : String := i.toJson.write

/-- The description that a text holds. -/
def parse (s : String) : Except Error Info := Json.parse ofJson? s

end Info

end RayShader.Technique
