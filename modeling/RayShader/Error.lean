import RayShader.Vec3

/-!
# What can go wrong

An *error* is a defect of the data that a program is generated from, or a refusal of
a tool, and names its cause. A *fault* is a request that a caller must not make. Each
has its message, and the messages stand only here.
-/

namespace RayShader

/-- Why an image was not saved. -/
inductive Image.SaveError where
  /-- There are not as many names as layers. -/
  | layerMismatch (names layers : Nat)
  /-- A layer does not hold one sample for each pixel. -/
  | layerSize (name : String) (expected actual : Nat)
  /-- A name has a character that a header cannot hold. -/
  | invalidLayerName (name : String)
  /-- Two layers have the same name. -/
  | duplicateLayerName (name : String)
  /-- The image has no pixels. -/
  | emptyImage (width height : Nat)
  /-- The file was not written. -/
  | write (path : String)
  deriving DecidableEq

/-- The message of an image error. -/
def Image.SaveError.message : Image.SaveError → String
  | layerMismatch names layers =>
    s!"Expected as many layer names as layers, got {names} names for {layers} layers"
  | layerSize name expected actual => s!"Layer '{name}' has {actual} samples, expected {expected}"
  | invalidLayerName name => s!"Layer name '{name}' cannot be stored in an EXR header"
  | duplicateLayerName name => s!"Layer name '{name}' is used more than once"
  | emptyImage width height => s!"Image size {width}x{height} has no pixels"
  | write path => s!"Could not save image {path}"

/-- Why a template was not rendered. -/
inductive Template.Error where
  /-- No template has the name. -/
  | unknown (name : String)
  /-- A value that is used is not defined. -/
  | undefined
  /-- A value without items is iterated over. -/
  | notIterable
  /-- A value without length is measured. -/
  | noLength
  deriving DecidableEq

/-- The message of a template error. -/
def Template.Error.message : Template.Error → String
  | unknown name => s!"template \"{name}\" does not exist"
  | undefined => "undefined value"
  | notIterable => "value is not iterable"
  | noLength => "value has no length"

/-- A defect of the data, or a refusal of a tool. -/
inductive Error where
  /-- A property holds a value of another kind than expected. -/
  | propertyMismatch (object property expected : String)
  /-- A property without a default is absent. -/
  | missingProperty (object property : String)
  /-- A name is not one of a known dielectric. -/
  | unknownIor (object name : String)
  /-- A property names a texture that is not registered. -/
  | unknownTexture (object property texture : String)
  /-- A property names an entity that the scene does not have. -/
  | unknownEntity (object entity : String)
  /-- No emitter handles the kind of the object. -/
  | unsupportedKind (category kind object : String)
  /-- There is no material of the given number. -/
  | unknownHitGroup (index count : Nat)
  /-- There is no technique of the given kind. -/
  | unknownTechnique (kind : String)
  /-- The count of samples is zero or no 32-bit integer. -/
  | invalidSamples (samples : Nat)
  /-- Programs were asked for before the scene database was there. -/
  | databaseMissing
  /-- A template was not rendered. -/
  | template (cause : Template.Error)
  /-- The compiler refused a program. -/
  | toolchain (entryPoint message : String)
  /-- An image was not saved. -/
  | image (cause : Image.SaveError)
  /-- A text is no serialised value of the kind asked for. -/
  | malformed
  deriving DecidableEq

/-- The message of an error. -/
def Error.message : Error → String
  | propertyMismatch object property expected =>
    s!"Property '{property}' of object '{object}' has the wrong type, expected {expected}"
  | missingProperty object property => s!"Object '{object}' is missing required property '{property}'"
  | unknownIor object name => s!"Unknown index of refraction '{name}' in object '{object}'"
  | unknownTexture object property texture =>
    s!"Object '{object}' references unknown texture '{texture}' in property '{property}'"
  | unknownEntity object entity => s!"Object '{object}' references unknown entity '{entity}'"
  | unsupportedKind category kind object => s!"Unsupported {category} type '{kind}' for object '{object}'"
  | unknownHitGroup index count => s!"Hit group {index} is out of range ({count} materials)"
  | unknownTechnique kind => s!"Unknown technique type '{kind}'"
  | invalidSamples samples => s!"Samples per iteration must be between 1 and 2147483647, got {samples}"
  | databaseMissing => "Scene database is not available, generation cannot start"
  | template cause => s!"Template error: {cause.message}"
  | toolchain entryPoint message => s!"Toolchain failed to compile {entryPoint}: {message}"
  | image cause => cause.message
  | malformed => "JSON parse error"

/-- A request that a caller must not make. -/
inductive Fault where
  /-- A variant is selected that the technique does not have. -/
  | variantOutOfRange (index count : Nat)
  /-- The selected variant is asked for and the technique has none. -/
  | noVariant
  /-- A color is asked for its texture. -/
  | notATexture (color : Vec3)
  /-- A texture is asked for its color. -/
  | notAColor (buffer : Nat)
  deriving DecidableEq

/-- The message of a fault. -/
def Fault.message : Fault → String
  | variantOutOfRange index count => s!"technique variant {index} out of range ({count} variants)"
  | noVariant => "no technique variant is selected"
  | notATexture color => s!"expected a texture reference, found color {color.message}"
  | notAColor buffer => s!"expected a color, found texture buffer {buffer}"

/-- The end of a computation without a value. -/
inductive Failure where
  /-- The data are defective, or a tool refused. -/
  | error (e : Error)
  /-- The caller is at fault. -/
  | fault (f : Fault)
  deriving DecidableEq

/-- The message of a failure. -/
def Failure.message : Failure → String
  | error e => e.message
  | fault f => f.message

end RayShader
