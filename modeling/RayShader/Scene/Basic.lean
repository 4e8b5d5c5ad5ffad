import RayShader.Scene.Object

/-!
# Scenes

A scene has at most one camera and one technique, and its other objects by category
and name. Every operation gives the object it stores the name it is stored under; the
camera is named `camera` and the technique `technique`.
-/

namespace RayShader

/-- The objects of a scene. -/
structure Scene where
  /-- The camera. -/
  camera : Option Object
  /-- The technique and its parameters. -/
  technique : Option Object
  /-- The textures. -/
  textures : NameMap Object
  /-- The materials; the number of a material is its hit group. -/
  bsdfs : NameMap Object
  /-- The lights. -/
  lights : NameMap Object
  /-- The shapes. -/
  shapes : NameMap Object
  /-- The entities. -/
  entities : NameMap Object
  deriving DecidableEq

namespace Scene

/-- The scene without objects. -/
def empty : Scene := ⟨none, none, .empty, .empty, .empty, .empty, .empty⟩

instance : Inhabited Scene := ⟨empty⟩

/-- Every object of a scene. -/
def objects (s : Scene) : List Object :=
  s.camera.toList ++ s.technique.toList ++ s.textures.values ++ s.bsdfs.values ++ s.lights.values
    ++ s.shapes.values ++ s.entities.values

/-- Names every object after the place where it stands. -/
def named (s : Scene) : Scene where
  camera := s.camera.map (·.named "camera")
  technique := s.technique.map (·.named "technique")
  textures := s.textures.mapValues fun name o => o.named name
  bsdfs := s.bsdfs.mapValues fun name o => o.named name
  lights := s.lights.mapValues fun name o => o.named name
  shapes := s.shapes.mapValues fun name o => o.named name
  entities := s.entities.mapValues fun name o => o.named name

/-- The scene with the camera. -/
def setCamera (s : Scene) (o : Object) : Scene := { s with camera := some (o.named "camera") }

/-- The scene with the technique. -/
def setTechnique (s : Scene) (o : Object) : Scene :=
  { s with technique := some (o.named "technique") }

/-- The scene with the texture. -/
def addTexture (s : Scene) (name : String) (o : Object) : Scene :=
  { s with textures := s.textures.insert name (o.named name) }

/-- The scene with the material. -/
def addBsdf (s : Scene) (name : String) (o : Object) : Scene :=
  { s with bsdfs := s.bsdfs.insert name (o.named name) }

/-- The scene with the light. -/
def addLight (s : Scene) (name : String) (o : Object) : Scene :=
  { s with lights := s.lights.insert name (o.named name) }

/-- The scene with the shape. -/
def addShape (s : Scene) (name : String) (o : Object) : Scene :=
  { s with shapes := s.shapes.insert name (o.named name) }

/-- The scene with the entity. -/
def addEntity (s : Scene) (name : String) (o : Object) : Scene :=
  { s with entities := s.entities.insert name (o.named name) }

/-- The number of an entity, which is its number at run time as well. -/
def entityIndex? (s : Scene) (name : String) : Option Nat := s.entities.index? name

/-- The technique object, if it is of the given kind. -/
def techniqueOfKind? (s : Scene) (kind : String) : Option Object :=
  s.technique.filter (·.kind = kind)

/-- The camera object, if it is of the given kind. -/
def cameraOfKind? (s : Scene) (kind : String) : Option Object := s.camera.filter (·.kind = kind)

end Scene

/-- What a generated program needs to know of the scene database: that it is there. -/
structure Scene.Database where
  /-- The number of entities. -/
  entityCount : Nat
  /-- The number of shapes. -/
  shapeCount : Nat
  deriving DecidableEq

end RayShader
