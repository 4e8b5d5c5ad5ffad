import RayShader.Technique.Features

/-!
# Descriptions of techniques

A technique is described by its variants, in order, and the additional images that it
writes. A variant says which entry points it needs and how its shaders treat lights
and pixels.
-/

namespace RayShader.Technique

/-- The moments of an iteration at which a callback may run. -/
inductive Moment where
  /-- Before the iteration. -/
  | before
  /-- After the iteration. -/
  | after
  deriving DecidableEq

namespace Moment

/-- Both moments, in order. -/
def all : List Moment := [before, after]

/-- The number of the moment. -/
def index : Moment → Nat
  | before => 0
  | after => 1

/-- The feature of a variant that has a callback at this moment. -/
def feature : Moment → Feature
  | before => .beforeIterationCallback
  | after => .afterIterationCallback

end Moment

/-- How shadow rays are resolved. -/
inductive ShadowMode where
  /-- By the traversal alone. -/
  | simple
  /-- By shaders for hit and miss. -/
  | advanced
  deriving DecidableEq

namespace ShadowMode

/-- The name in a text. -/
def key : ShadowMode → String
  | simple => "simple"
  | advanced => "advanced"

/-- The mode with the given key. -/
def ofKey? (key : String) : Option ShadowMode := [simple, advanced].find? (·.key = key)

end ShadowMode

/-- The description of a variant. -/
structure VariantInfo where
  /-- Its features. -/
  features : Features
  /-- How its shadow rays are resolved. -/
  shadowMode : ShadowMode
  /-- The expression that makes the data of a new ray, in place of empty data. -/
  payloadInitializer : Option String
  /-- The number of components that a primary ray carries. -/
  primaryPayload : UInt64
  /-- The number of components that a secondary ray carries. -/
  secondaryPayload : UInt64
  deriving DecidableEq

namespace VariantInfo

/-- A variant with the given features and nothing else. -/
def ofFeatures (fs : List Feature) : VariantInfo := ⟨.ofList fs, .simple, none, 0, 0⟩

instance : Inhabited VariantInfo := ⟨ofFeatures []⟩

/-- The variant has the feature. -/
def has (v : VariantInfo) (f : Feature) : Bool := v.features.contains f

/-- Shaders read the table of lights. -/
def usesLights (v : VariantInfo) : Bool := v.has .usesLights

/-- The miss shader reaches every light. -/
def usesAllLightsInMiss (v : VariantInfo) : Bool := v.has .usesAllLightsInMiss

/-- Shaders do not write pixels. -/
def locksFramebuffer (v : VariantInfo) : Bool := v.has .lockFramebuffer

/-- Shadow rays have shaders of their own. -/
def needsShadowShaders (v : VariantInfo) : Bool := v.shadowMode = .advanced

/-- A callback runs at the moment. -/
def hasCallback (v : VariantInfo) (m : Moment) : Bool := v.has m.feature

end VariantInfo

/-- The description of a technique. -/
structure Info where
  /-- The variants, in order. -/
  variants : List VariantInfo
  /-- The names of the images that are written beside the main one. -/
  aovs : List String
  deriving DecidableEq

namespace Info

/-- The technique with a single variant. -/
def single (v : VariantInfo) : Info := ⟨[v], []⟩

instance : Inhabited Info := ⟨⟨[], []⟩⟩

/-- The number of variants. -/
def count (i : Info) : Nat := i.variants.length

end Info

end RayShader.Technique
