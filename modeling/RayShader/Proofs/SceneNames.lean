import RayShader.Proofs.SceneText

/-!
# Names of objects in a scene

An object is told its name by the place where it stands: the camera and the technique are
named `camera` and `technique`, and the objects of the five categories are named as their
keys. What name an object brought along is forgotten. This holds of the scenes that texts
hold and of the empty scene, and each operation keeps it.

An operation is seen through the places of a scene, of which it changes one. No part of a
scene is out of sight of its places (`Scene.eq_of_at?`), so nothing else is changed.
-/

namespace RayShader

namespace Scene

variable {s s' : Scene}

/-! ### Places -/

/-- A place of a scene, where an object may stand. -/
inductive Place where
  /-- The place of the camera. -/
  | camera
  /-- The place of the technique. -/
  | technique
  /-- A place among the textures. -/
  | texture (name : String)
  /-- A place among the materials. -/
  | bsdf (name : String)
  /-- A place among the lights. -/
  | light (name : String)
  /-- A place among the shapes. -/
  | shape (name : String)
  /-- A place among the entities. -/
  | entity (name : String)
  deriving DecidableEq

/-- The name of an object that stands at the place. -/
def Place.name : Place → String
  | camera => "camera"
  | technique => "technique"
  | texture name | bsdf name | light name | shape name | entity name => name

/-- The object at the place. -/
def at? (s : Scene) : Place → Option Object
  | .camera => s.camera
  | .technique => s.technique
  | .texture name => s.textures.get? name
  | .bsdf name => s.bsdfs.get? name
  | .light name => s.lights.get? name
  | .shape name => s.shapes.get? name
  | .entity name => s.entities.get? name

/-- The operation that puts an object at the place. -/
def put (s : Scene) (o : Object) : Place → Scene
  | .camera => s.setCamera o
  | .technique => s.setTechnique o
  | .texture name => s.addTexture name o
  | .bsdf name => s.addBsdf name o
  | .light name => s.addLight name o
  | .shape name => s.addShape name o
  | .entity name => s.addEntity name o

/-- The scene after operations, one after the other. -/
def edit (s : Scene) (edits : List (Place × Object)) : Scene :=
  edits.foldl (fun s e => s.put e.2 e.1) s

/-- A scene is what stands at its places. -/
theorem eq_of_at? (h : ∀ p, s.at? p = s'.at? p) : s = s' := by
  obtain ⟨camera, technique, textures, bsdfs, lights, shapes, entities⟩ := s
  obtain ⟨camera', technique', textures', bsdfs', lights', shapes', entities'⟩ := s'
  rw [Scene.mk.injEq]
  exact ⟨h .camera, h .technique, NameMap.eq_of_get? fun k => h (.texture k),
    NameMap.eq_of_get? fun k => h (.bsdf k), NameMap.eq_of_get? fun k => h (.light k),
    NameMap.eq_of_get? fun k => h (.shape k), NameMap.eq_of_get? fun k => h (.entity k)⟩

/-- An operation changes one place, and the object that stands there afterwards is the one
that was given, under the name of the place. -/
theorem at?_put (s : Scene) (o : Object) (p q : Place) :
    (s.put o p).at? q = if q = p then some (o.named p.name) else s.at? q := by
  cases p <;> cases q <;>
    simp [put, at?, Place.name, setCamera, setTechnique, addTexture, addBsdf, addLight, addShape,
      addEntity, NameMap.get?_insert]

/-- A scene comes of an operation exactly if it differs from the one before in that place, and
the object that was given stands there under the name of the place. -/
theorem put_eq_iff {o : Object} {p : Place} : s.put o p = s' ↔
    s'.at? p = some (o.named p.name) ∧ ∀ q, q ≠ p → s'.at? q = s.at? q := by
  constructor
  · rintro rfl
    exact ⟨by rw [at?_put, if_pos rfl], fun q other => by rw [at?_put, if_neg other]⟩
  · rintro ⟨here, others⟩
    apply eq_of_at?
    intro q
    rw [at?_put]
    split
    · rename_i same
      rw [same, here]
    · rename_i other
      exact (others q other).symm

/-- After any number of operations the last one at a place has put there what it was given. -/
theorem at?_edit (edits : List (Place × Object)) (s : Scene) (p : Place) :
    (s.edit edits).at? p
      = ((edits.reverse.find? (·.1 = p)).map fun e => e.2.named p.name).or (s.at? p) := by
  induction edits generalizing s with
  | nil => rfl
  | cons e edits ih =>
    have step : s.edit (e :: edits) = (s.put e.2 e.1).edit edits := rfl
    rw [step, ih, at?_put, List.reverse_cons, List.find?_append]
    cases edits.reverse.find? (·.1 = p) with
    | some last => rfl
    | none =>
      by_cases here : e.1 = p
      · simp [here]
      · simp [here, Ne.symm here]

/-! ### Names -/

/-- Every object of the scene is named after the place where it stands. -/
structure IsNamed (s : Scene) : Prop where
  /-- The camera is named `camera`. -/
  camera : ∀ o ∈ s.camera, o.name = "camera"
  /-- The technique is named `technique`. -/
  technique : ∀ o ∈ s.technique, o.name = "technique"
  /-- Textures are named as their keys. -/
  textures : ∀ e ∈ s.textures.entries, e.2.name = e.1
  /-- Materials are named as their keys. -/
  bsdfs : ∀ e ∈ s.bsdfs.entries, e.2.name = e.1
  /-- Lights are named as their keys. -/
  lights : ∀ e ∈ s.lights.entries, e.2.name = e.1
  /-- Shapes are named as their keys. -/
  shapes : ∀ e ∈ s.shapes.entries, e.2.name = e.1
  /-- Entities are named as their keys. -/
  entities : ∀ e ∈ s.entities.entries, e.2.name = e.1

/-- The names of a category are right where look-ups find right ones. -/
theorem names_eq_iff {m : NameMap Object} :
    (∀ e ∈ m.entries, e.2.name = e.1) ↔ ∀ k o, m.get? k = some o → o.name = k := by
  constructor
  · intro right k o found
    exact right (k, o) (NameMap.get?_eq_some_iff.mp found)
  · intro right e mem
    exact right e.1 e.2 (NameMap.get?_eq_some_iff.mpr mem)

theorem isNamed_iff : s.IsNamed ↔ ∀ p o, s.at? p = some o → o.name = p.name := by
  constructor
  · rintro ⟨camera, technique, textures, bsdfs, lights, shapes, entities⟩ p o found
    cases p with
    | camera => exact camera o found
    | technique => exact technique o found
    | texture name => exact names_eq_iff.mp textures name o found
    | bsdf name => exact names_eq_iff.mp bsdfs name o found
    | light name => exact names_eq_iff.mp lights name o found
    | shape name => exact names_eq_iff.mp shapes name o found
    | entity name => exact names_eq_iff.mp entities name o found
  · intro right
    exact {
      camera := right .camera
      technique := right .technique
      textures := names_eq_iff.mpr fun k => right (.texture k)
      bsdfs := names_eq_iff.mpr fun k => right (.bsdf k)
      lights := names_eq_iff.mpr fun k => right (.light k)
      shapes := names_eq_iff.mpr fun k => right (.shape k)
      entities := names_eq_iff.mpr fun k => right (.entity k) }

theorem isNamed_empty : empty.IsNamed := by
  constructor <;> simp [empty, NameMap.empty]

/-- Naming the objects of a scene names all of them. -/
theorem isNamed_named (s : Scene) : s.named.IsNamed := by
  have single (key : String) (o? : Option Object) : ∀ o ∈ o?.map (·.named key), o.name = key := by
    intro o ho
    obtain ⟨a, -, rfl⟩ := Option.map_eq_some_iff.mp ho
    rfl
  have category (m : NameMap Object) :
      ∀ e ∈ (m.mapValues fun name o => o.named name).entries, e.2.name = e.1 :=
    List.forall_mem_map.mpr fun _ _ => rfl
  exact ⟨single _ s.camera, single _ s.technique, category s.textures, category s.bsdfs,
    category s.lights, category s.shapes, category s.entities⟩

/-- What a text holds has been named. -/
theorem isNamed_of_parse {text : String} (h : parse text = .ok s) : s.IsNamed := by
  obtain ⟨j, -, h⟩ := Json.parse_eq_ok.mp h
  simp only [ofJson?, Option.bind_eq_bind, Option.bind_eq_some_iff, Option.pure_def,
    Option.some.injEq] at h
  obtain ⟨-, -, -, -, -, -, -, -, -, -, -, -, -, -, -, -, rfl⟩ := h
  exact isNamed_named _

theorem IsNamed.put (h : s.IsNamed) (o : Object) (p : Place) : (s.put o p).IsNamed := by
  rw [isNamed_iff] at h ⊢
  intro q o' found
  rw [at?_put] at found
  split at found
  · rename_i same
    obtain rfl := Option.some.inj found
    exact congrArg Place.name same.symm
  · exact h q o' found

theorem IsNamed.edit (h : s.IsNamed) (edits : List (Place × Object)) : (s.edit edits).IsNamed := by
  induction edits generalizing s with
  | nil => exact h
  | cons e edits ih => exact ih (h.put e.2 e.1)

/-- **Objects are named after their places.** In every scene that a text holds or that starts
empty, whatever operations follow with whatever objects, the camera is named `camera`, the
technique `technique`, and the objects of the categories as their keys. One more operation
gives the one scene in which its place holds the kind, the directory and the properties that
were given, under the name of the place, and every other place is as it was. -/
theorem objects_named {start : Scene} (given : start = empty ∨ ∃ text, parse text = .ok start)
    (edits : List (Place × Object)) : (start.edit edits).IsNamed ∧
      ∀ o p s', (start.edit edits).put o p = s' ↔
        s'.at? p = some ⟨p.name, o.kind, o.baseDir, o.properties⟩ ∧
          ∀ q, q ≠ p → s'.at? q = (start.edit edits).at? q := by
  refine ⟨?_, fun o p s' => put_eq_iff⟩
  obtain rfl | ⟨text, read⟩ := given
  · exact isNamed_empty.edit edits
  · exact (isNamed_of_parse read).edit edits

/-- An object that brings a name along. -/
def borrowed : Object := (((Object.ofKind "point").withBaseDir "lamps").withProperty "scale"
  (.bool true)).named "eye"

theorem gallery_renames :
    (hall.edit [(.camera, borrowed), (.light "lamp", borrowed)]).IsNamed ∧
      ∀ s', (hall.edit [(.camera, borrowed), (.light "lamp", borrowed)]).put borrowed .technique
        = s' → s'.at? .technique = some ⟨"technique", "point", some "lamps", borrowed.properties⟩ ∧
          s'.at? (.light "lamp") = some (borrowed.named "lamp") := by
  have read : parse galleryText = .ok hall :=
    eq_ok_of_isOk (x := parse galleryText) (by decide +kernel) .empty
  obtain ⟨named, puts⟩ := objects_named (.inr ⟨galleryText, read⟩)
    [(.camera, borrowed), (.light "lamp", borrowed)]
  refine ⟨named, fun s' made => ?_⟩
  obtain ⟨here, others⟩ := (puts borrowed .technique s').mp made
  have last : [(Place.camera, borrowed), (.light "lamp", borrowed)].reverse.find?
      (·.1 = .light "lamp") = some (.light "lamp", borrowed) := by simp
  refine ⟨here, ?_⟩
  rw [others (.light "lamp") nofun, at?_edit, last, Option.map_some, Option.some_or]
  rfl

end Scene

end RayShader
