import RayShader.Scene.Codec
import RayShader.Proofs.NameMaps
import RayShader.Proofs.NumberText

/-!
# Serialised scenes are read back

A scene that comes of a text and of further objects is written and read back with its names:
a name is not written, but it is the key under which an object stands. What this rests on is
kept by everything that makes a scene (`Scene.Storable`): objects are named after their places,
and no property has the key of the kind or of the directory.

A text does not tell an array of three numbers from a vector, and what is read is a vector
(`Property.reread`). No text gives a property that is such an array, but a scene may be given
one. So a scene is read back as it was exactly if none of its properties is an array of three
numbers (`Scene.IsPlain`), and otherwise those arrays alone are read as vectors.
-/

namespace RayShader

/-! ### Properties -/

namespace Property

/-- The numbers in a property. -/
def numbers : Property → List Single
  | number x => [x]
  | vector3 v => [v.x, v.y, v.z]
  | array xs => xs
  | _ => []

/-- The property that is read from what is written of it: three numbers are a vector. -/
def reread : Property → Property
  | array xs => ofNumbers xs
  | p => p

/-- The property is no array of three numbers. -/
def IsPlain (p : Property) : Prop := ∀ x y z, p ≠ array [x, y, z]

theorem reread_eq_self_iff {p : Property} : p.reread = p ↔ p.IsPlain := by
  cases p with
  | array xs =>
    rw [reread, IsPlain]
    unfold ofNumbers
    split
    · simp
    · rename_i other
      simpa using other
  | _ => simp [reread, IsPlain]

/-- The number is finite, and it is read back from what is written of it. -/
def Survives (x : Single) : Prop :=
  x.isFinite = true ∧ Json.parse Json.single? (Json.single x).write = .ok x

theorem writable_toJson (p : Property) : p.toJson.Writable := by
  cases p with
  | bool b => exact .bool b
  | integer n => exact Json.writable_int _
  | number x => exact Json.writable_single x
  | vector3 v =>
    apply Json.Writable.array
    simp [Json.writable_single]
  | array xs =>
    apply Json.Writable.array
    simp [Json.writable_single]
  | string s => exact .text s

theorem single?_single {x : Single} (h : Survives x) : (Json.single x).single? = some x := by
  obtain ⟨n, r, number, real, same⟩ := Json.single_isReal h.1 h.2
  rw [number, Json.single?, Json.number?, real, ← same]
  rfl

theorem mapM_single? {xs : List Single} (h : ∀ x ∈ xs, Survives x) :
    (xs.map Json.single).mapM Json.single? = some xs := by
  induction xs with
  | nil => rfl
  | cons x xs ih =>
    obtain ⟨first, others⟩ := List.forall_mem_cons.mp h
    rw [List.map_cons, List.mapM_cons, single?_single first, ih others]
    rfl

/-- A property is read back with the same kind of value, but for three numbers in an array. -/
theorem ofJson?_toJson {p : Property} (h : ∀ x ∈ p.numbers, Survives x) :
    ofJson? p.toJson = some p.reread := by
  cases p with
  | bool b => rfl
  | integer n =>
    have least := n.le_toInt
    have greatest := n.toInt_lt
    have value : (Numeral.ofInt n.toInt).value? = some (.integer n.toInt) :=
      Numeral.value?_ofInt (by omega) (by simp only [Numeral.maxSignificand]; omega)
    have fits : int64? n.toInt = some n := by
      rw [int64?, if_pos ⟨Int64.minValue_le_toInt n, Int64.toInt_le n⟩, Int64.ofInt_toInt]
    rw [toJson, Json.int, ofJson?, value, Option.map_some, ofNumber, fits]
    rfl
  | number x =>
    obtain ⟨finite, back⟩ := h x (by simp [numbers])
    obtain ⟨n, r, number, real, same⟩ := Json.single_isReal finite back
    rw [toJson, number, ofJson?, real, ← same]
    rfl
  | vector3 v =>
    have read : [Json.single v.x, Json.single v.y, Json.single v.z].mapM Json.single?
        = some [v.x, v.y, v.z] := mapM_single? h
    rw [toJson, ofJson?, read]
    rfl
  | array xs =>
    have read : (xs.map Json.single).mapM Json.single? = some xs := mapM_single? h
    rw [toJson, ofJson?, read]
    rfl
  | string s => rfl

end Property

/-! ### Objects -/

namespace Object

/-- The numbers in the properties of an object. -/
def numbers (o : Object) : List Single := o.properties.entries.flatMap fun e => e.2.numbers

/-- The key is neither that of the kind nor that of the directory. -/
def IsFree (key : String) : Prop := key ≠ "type" ∧ key ≠ "base_dir"

/-- Every property may stand in a text beside the kind and the directory. -/
def Storable (o : Object) : Prop := ∀ e ∈ o.properties.entries, IsFree e.1

/-- The object that is read from what is written of it, but with its name. -/
def reread (o : Object) : Object :=
  { o with properties := o.properties.mapValues fun _ p => p.reread }

/-- No property is an array of three numbers. -/
def IsPlain (o : Object) : Prop := ∀ e ∈ o.properties.entries, e.2.IsPlain

theorem reread_eq_self_iff {o : Object} : o.reread = o ↔ o.IsPlain := by
  have properties : o.reread = o ↔ (o.properties.mapValues fun _ p => p.reread) = o.properties := by
    cases o
    simp [reread]
  rw [properties, NameMap.mapValues_eq_self_iff]
  simp only [Property.reread_eq_self_iff, IsPlain]

theorem writable_toJson (o : Object) : o.toJson.Writable := by
  apply Json.Writable.record
  intro e he
  simp only [entries, List.mem_append, List.mem_cons, List.mem_map] at he
  rcases he with (rfl | dir) | ⟨p, -, rfl⟩
  · exact .text _
  · cases hd : o.baseDir with
    | none => simp [hd] at dir
    | some d =>
      obtain rfl : e = ("base_dir", .text d) := by simpa [hd] using dir
      exact .text d
  · exact p.2.writable_toJson

/-- The properties of an object are read one after the other. -/
theorem entries?_properties (d : Draft) {es : List (String × Property)}
    (free : ∀ e ∈ es, IsFree e.1) (numbers : ∀ e ∈ es, ∀ x ∈ e.2.numbers, Property.Survives x) :
    d.entries? (Json.fieldsOf (es.map fun (k, v) => (k, v.toJson))) = some { d with
      properties := (es.map fun (k, v) => (k, v.reread)).foldl
        (fun m (name, value) => m.insert name value) d.properties } := by
  induction es generalizing d with
  | nil => rfl
  | cons e es ih =>
    obtain ⟨first, others⟩ := List.forall_mem_cons.mp free
    obtain ⟨number, rest⟩ := List.forall_mem_cons.mp numbers
    have entry : d.entry? e.1 e.2.toJson
        = some { d with properties := d.properties.insert e.1 e.2.reread } := by
      rw [Draft.entry?, if_neg first.1, if_neg first.2, Property.ofJson?_toJson number]
      rfl
    have next := ih { d with properties := d.properties.insert e.1 e.2.reread } others rest
    rw [Json.fieldsOf] at next
    rw [Json.fieldsOf, List.map_cons, List.map_cons, Draft.entries?, entry, Option.bind_some, next]
    rfl

/-- An object is read back without its name. -/
theorem ofJson?_toJson {o : Object} (storable : o.Storable)
    (numbers : ∀ x ∈ o.numbers, Property.Survives x) :
    ofJson? o.toJson = some (o.reread.named "") := by
  have properties (d : Draft) (empty : d.properties = .empty) :
      d.entries? (Json.fieldsOf (o.properties.entries.map fun (k, v) => (k, v.toJson)))
        = some { d with properties := o.reread.properties } := by
    have read := entries?_properties d storable fun e he x hx =>
      numbers x (List.mem_flatMap.mpr ⟨e, he, hx⟩)
    rw [empty] at read
    have whole : (o.properties.entries.map fun (k, v) => (k, v.reread)).foldl
        (fun m (name, value) => m.insert name value) .empty = o.reread.properties :=
      NameMap.ofList_entries o.reread.properties
    rw [whole] at read
    exact read
  have draft : Draft.entries? ⟨none, none, .empty⟩ (Json.fieldsOf o.entries)
      = some ⟨some o.kind, o.baseDir.map some, o.reread.properties⟩ := by
    unfold entries
    cases o.baseDir with
    | none => exact properties ⟨some o.kind, none, .empty⟩ rfl
    | some dir => exact properties ⟨some o.kind, some (some dir), .empty⟩ rfl
  have read : ofJson? o.toJson = (Draft.entries? ⟨none, none, .empty⟩ (Json.fieldsOf o.entries)).bind
      fun d => d.kind.bind fun kind => some ⟨"", kind, d.baseDir.join, d.properties⟩ := rfl
  rw [read, draft, Option.bind_some, Option.bind_some]
  obtain ⟨name, kind, baseDir, props⟩ := o
  cases baseDir <;> rfl

/-- What is read keeps to the keys that properties may have. -/
theorem entries?_free {d d' : Draft} {es : List (Option String × Json)}
    (h : d.entries? es = some d') (free : ∀ e ∈ d.properties.entries, IsFree e.1) :
    ∀ e ∈ d'.properties.entries, IsFree e.1 := by
  induction es generalizing d with
  | nil =>
    obtain rfl := Option.some.inj h
    exact free
  | cons e es ih =>
    obtain ⟨name, j⟩ := e
    cases name with
    | none => cases h
    | some name =>
      obtain ⟨next, entry, h⟩ := Option.bind_eq_some_iff.mp h
      apply ih h
      unfold Draft.entry? at entry
      split at entry
      · split at entry
        · cases entry
        · obtain ⟨_, -, rfl⟩ := Option.map_eq_some_iff.mp entry
          exact free
      · split at entry
        · split at entry
          · cases entry
          · obtain ⟨_, -, rfl⟩ := Option.map_eq_some_iff.mp entry
            exact free
        · rename_i kind dir
          obtain ⟨_, -, rfl⟩ := Option.map_eq_some_iff.mp entry
          intro e he
          rcases NameMap.mem_insertEntry he with rfl | he
          · exact ⟨kind, dir⟩
          · exact free e he

theorem storable_of_ofJson? {j : Json} {o : Object} (h : ofJson? j = some o) : o.Storable := by
  unfold ofJson? at h
  split at h
  · obtain ⟨d, read, h⟩ := Option.bind_eq_some_iff.mp h
    obtain ⟨kind, -, h⟩ := Option.bind_eq_some_iff.mp h
    obtain rfl := Option.some.inj h
    exact entries?_free read (by simp [NameMap.empty])
  · cases h

/-- The objects that come of texts, properties and directories. -/
inductive Built : Object → Prop where
  /-- An object that a text holds. -/
  | parsed {text : String} {o : Object} (h : parse text = .ok o) : Built o
  /-- An object with one more property. -/
  | withProperty {o : Object} (h : Built o) {key : String} (hk : key ≠ "type" ∧ key ≠ "base_dir")
      (value : Property) : Built (o.withProperty key value)
  /-- An object with a directory. -/
  | withBaseDir {o : Object} (h : Built o) (dir : String) : Built (o.withBaseDir dir)

theorem Built.storable {o : Object} (h : o.Built) : o.Storable := by
  induction h with
  | parsed h =>
    obtain ⟨j, -, decoded⟩ := Json.parse_eq_ok.mp h
    exact storable_of_ofJson? decoded
  | withProperty _ hk _ ih =>
    intro e he
    rcases NameMap.mem_insertEntry he with rfl | he
    · exact hk
    · exact ih e he
  | withBaseDir _ _ ih => exact ih

end Object

/-! ### Categories -/

/-- The objects stand under their names, and each may be stored. -/
def Placed (m : NameMap Object) : Prop := ∀ e ∈ m.entries, e.2.name = e.1 ∧ e.2.Storable

namespace Placed

variable {m : NameMap Object}

theorem insert (h : Placed m) (name : String) {o : Object} (ho : o.Storable) :
    Placed (m.insert name (o.named name)) := by
  intro e he
  rcases NameMap.mem_insertEntry he with rfl | he
  · exact ⟨rfl, ho⟩
  · exact h e he

/-- Naming objects after their places puts them there. -/
theorem named (h : ∀ e ∈ m.entries, e.2.Storable) : Placed (m.mapValues fun name o => o.named name) := by
  intro e he
  obtain ⟨p, hp, rfl⟩ := List.mem_map.mp he
  exact ⟨rfl, h p hp⟩

/-- Objects that are read without their names have them again once they are named. -/
theorem named_reread (h : Placed m) :
    (m.mapValues fun _ o => o.reread.named "").mapValues (fun name o => o.named name)
      = m.mapValues fun _ o => o.reread := by
  apply NameMap.eq_of_entries
  simp only [NameMap.mapValues, List.map_map]
  refine List.map_congr_left fun e he => ?_
  obtain ⟨name, o⟩ := e
  have same : o.name = name := (h _ he).1
  simp [Object.named, Object.reread, ← same]

end Placed

namespace Scene

theorem writable_category (m : NameMap Object) : (categoryToJson m).Writable := by
  apply Json.Writable.record
  intro e he
  obtain ⟨p, -, rfl⟩ := List.mem_map.mp he
  exact p.2.writable_toJson

/-- A category is read back without the names of its objects. -/
theorem category?_toJson {m : NameMap Object} (placed : Placed m)
    (numbers : ∀ e ∈ m.entries, ∀ x ∈ e.2.numbers, Property.Survives x) :
    category? (categoryToJson m) = some (m.mapValues fun _ o => o.reread.named "") := by
  have read (es : List (String × Object)) (sub : ∀ e ∈ es, e ∈ m.entries) :
      categoryEntries? (Json.fieldsOf (es.map fun e => (e.1, e.2.toJson)))
        = some (es.map fun e => (e.1, e.2.reread.named "")) := by
    induction es with
    | nil => rfl
    | cons e es ih =>
      obtain ⟨first, others⟩ := List.forall_mem_cons.mp sub
      have object : Object.ofJson? e.2.toJson = some (e.2.reread.named "") :=
        Object.ofJson?_toJson (placed e first).2 (numbers e first)
      have rest := ih others
      rw [Json.fieldsOf] at rest
      rw [Json.fieldsOf, List.map_cons, List.map_cons, categoryEntries?, object, rest]
      rfl
  have whole : NameMap.ofList (m.entries.map fun e => (e.1, e.2.reread.named ""))
      = m.mapValues fun _ o => o.reread.named "" :=
    NameMap.ofList_entries (m.mapValues fun _ o => o.reread.named "")
  have taken : category? (categoryToJson m) = (categoryEntries? (Json.fieldsOf (m.entries.map
      fun e => (e.1, e.2.toJson)))).map .ofList := rfl
  rw [taken, read m.entries fun e he => he, Option.map_some, whole]

theorem storable_of_categoryEntries? {es : List (Option String × Json)} {os : List (String × Object)}
    (h : categoryEntries? es = some os) : ∀ e ∈ os, e.2.Storable := by
  induction es generalizing os with
  | nil =>
    obtain rfl := Option.some.inj h
    simp
  | cons e es ih =>
    obtain ⟨name, j⟩ := e
    cases name with
    | none => cases h
    | some name =>
      obtain ⟨o, object, h⟩ := Option.bind_eq_some_iff.mp h
      obtain ⟨more, rest, h⟩ := Option.bind_eq_some_iff.mp h
      obtain rfl := Option.some.inj h
      exact List.forall_mem_cons.mpr ⟨Object.storable_of_ofJson? object, ih rest⟩

theorem storable_of_category? {j : Json} {m : NameMap Object} (h : category? j = some m) :
    ∀ e ∈ m.entries, e.2.Storable := by
  unfold category? at h
  split at h
  · obtain ⟨os, read, rfl⟩ := Option.map_eq_some_iff.mp h
    intro e he
    rcases NameMap.mem_foldl_insert he with he | he
    · simp [NameMap.empty] at he
    · exact storable_of_categoryEntries? read e he
  · cases h

/-! ### Scenes -/

/-- The numbers in the objects of a scene. -/
def numbers (s : Scene) : List Single := s.objects.flatMap Object.numbers

/-- What holds of the objects of a scene holds of each place. -/
theorem forall_objects {s : Scene} {P : Object → Prop} :
    (∀ o ∈ s.objects, P o) ↔ (∀ o ∈ s.camera, P o) ∧ (∀ o ∈ s.technique, P o) ∧
      (∀ e ∈ s.textures.entries, P e.2) ∧ (∀ e ∈ s.bsdfs.entries, P e.2) ∧
      (∀ e ∈ s.lights.entries, P e.2) ∧ (∀ e ∈ s.shapes.entries, P e.2) ∧
      ∀ e ∈ s.entities.entries, P e.2 := by
  simp only [objects, NameMap.values, List.forall_mem_append, List.forall_mem_map,
    Option.mem_toList, Option.mem_def, and_assoc]

/-- The scene that is read from what is written of it. -/
def reread (s : Scene) : Scene where
  camera := s.camera.map (·.reread)
  technique := s.technique.map (·.reread)
  textures := s.textures.mapValues fun _ o => o.reread
  bsdfs := s.bsdfs.mapValues fun _ o => o.reread
  lights := s.lights.mapValues fun _ o => o.reread
  shapes := s.shapes.mapValues fun _ o => o.reread
  entities := s.entities.mapValues fun _ o => o.reread

/-- No property of an object of the scene is an array of three numbers. -/
def IsPlain (s : Scene) : Prop := ∀ o ∈ s.objects, o.IsPlain

theorem map_reread_eq_self_iff {o : Option Object} :
    o.map (·.reread) = o ↔ ∀ a ∈ o, a.IsPlain := by
  cases o with
  | none => simp
  | some o => simp [Object.reread_eq_self_iff]

theorem reread_eq_self_iff {s : Scene} : s.reread = s ↔ s.IsPlain := by
  rw [IsPlain, forall_objects]
  cases s
  simp only [reread, mk.injEq, map_reread_eq_self_iff, NameMap.mapValues_eq_self_iff,
    Object.reread_eq_self_iff]

/-- Every object stands under its name, and may be stored. -/
structure Storable (s : Scene) : Prop where
  /-- The camera is named `camera`. -/
  camera : ∀ o ∈ s.camera, o.name = "camera" ∧ o.Storable
  /-- The technique is named `technique`. -/
  technique : ∀ o ∈ s.technique, o.name = "technique" ∧ o.Storable
  /-- The textures stand under their names. -/
  textures : Placed s.textures
  /-- The materials stand under their names. -/
  bsdfs : Placed s.bsdfs
  /-- The lights stand under their names. -/
  lights : Placed s.lights
  /-- The shapes stand under their names. -/
  shapes : Placed s.shapes
  /-- The entities stand under their names. -/
  entities : Placed s.entities

theorem writable_optional (o : Option Object) : (o.elim Json.null Object.toJson).Writable := by
  cases o with
  | none => exact .null
  | some o => exact o.writable_toJson

theorem optional?_toJson {o : Option Object} {name : String}
    (storable : ∀ a ∈ o, a.name = name ∧ a.Storable)
    (numbers : ∀ a ∈ o, ∀ x ∈ a.numbers, Property.Survives x) :
    optional? (o.elim .null Object.toJson) = some (o.map (·.reread.named "")) := by
  cases o with
  | none => rfl
  | some o =>
    have read : optional? o.toJson = (Object.ofJson? o.toJson).map some := rfl
    rw [Option.elim_some, read, Object.ofJson?_toJson (storable o rfl).2 (numbers o rfl)]
    rfl

theorem map_named_reread {o : Option Object} {name : String}
    (storable : ∀ a ∈ o, a.name = name ∧ a.Storable) :
    (o.map (·.reread.named "")).map (·.named name) = o.map (·.reread) := by
  cases o with
  | none => rfl
  | some o =>
    obtain ⟨rfl, -⟩ := storable o rfl
    rfl

theorem writable_toJson (s : Scene) : s.toJson.Writable := by
  apply Json.Writable.record
  simp [writable_optional, writable_category]

/-- Decoding goes on with the value of a field. -/
theorem bind_of_some {α β : Type} {x : Option α} {v : α} {k : α → Option β} {r : Option β}
    (h : x = some v) (hk : k v = r) : x >>= k = r := by
  rw [h]
  exact hk

/-- A scene whose objects stand under their names is read back with the names. -/
theorem ofJson?_toJson {s : Scene} (storable : s.Storable)
    (survive : ∀ x ∈ s.numbers, Property.Survives x) : ofJson? s.toJson = some s.reread := by
  simp only [numbers, List.forall_mem_flatMap, forall_objects] at survive
  obtain ⟨camera, technique, textures, bsdfs, lights, shapes, entities⟩ := survive
  have fields : s.toJson.fields? fieldNames = some _ := Json.fields?_record rfl (by decide)
  have named : ofJson? s.toJson = some (named {
      camera := s.camera.map (·.reread.named "")
      technique := s.technique.map (·.reread.named "")
      textures := s.textures.mapValues fun _ o => o.reread.named ""
      bsdfs := s.bsdfs.mapValues fun _ o => o.reread.named ""
      lights := s.lights.mapValues fun _ o => o.reread.named ""
      shapes := s.shapes.mapValues fun _ o => o.reread.named ""
      entities := s.entities.mapValues fun _ o => o.reread.named "" }) := by
    exact bind_of_some fields <| bind_of_some (optional?_toJson storable.camera camera) <|
      bind_of_some (optional?_toJson storable.technique technique) <|
      bind_of_some (category?_toJson storable.textures textures) <|
      bind_of_some (category?_toJson storable.bsdfs bsdfs) <|
      bind_of_some (category?_toJson storable.lights lights) <|
      bind_of_some (category?_toJson storable.shapes shapes) <|
      bind_of_some (category?_toJson storable.entities entities) rfl
  rw [named]
  simp only [Scene.named, map_named_reread storable.camera, map_named_reread storable.technique,
    storable.textures.named_reread, storable.bsdfs.named_reread, storable.lights.named_reread,
    storable.shapes.named_reread, storable.entities.named_reread]
  rfl

/-- The scenes that come of texts and of further objects. -/
inductive Built : Scene → Prop where
  /-- A scene that a text holds. -/
  | parsed {text : String} {s : Scene} (h : parse text = .ok s) : Built s
  /-- A scene with a camera. -/
  | setCamera {s : Scene} {o : Object} (h : Built s) (ho : o.Built) : Built (s.setCamera o)
  /-- A scene with a technique. -/
  | setTechnique {s : Scene} {o : Object} (h : Built s) (ho : o.Built) : Built (s.setTechnique o)
  /-- A scene with one more texture. -/
  | addTexture {s : Scene} {o : Object} (h : Built s) (name : String) (ho : o.Built) :
      Built (s.addTexture name o)
  /-- A scene with one more material. -/
  | addBsdf {s : Scene} {o : Object} (h : Built s) (name : String) (ho : o.Built) :
      Built (s.addBsdf name o)
  /-- A scene with one more light. -/
  | addLight {s : Scene} {o : Object} (h : Built s) (name : String) (ho : o.Built) :
      Built (s.addLight name o)
  /-- A scene with one more shape. -/
  | addShape {s : Scene} {o : Object} (h : Built s) (name : String) (ho : o.Built) :
      Built (s.addShape name o)
  /-- A scene with one more entity. -/
  | addEntity {s : Scene} {o : Object} (h : Built s) (name : String) (ho : o.Built) :
      Built (s.addEntity name o)

theorem storable_of_optional? {j : Json} {o? : Option Object} (h : optional? j = some o?) :
    ∀ o ∈ o?, o.Storable := by
  unfold optional? at h
  split at h
  · obtain rfl := Option.some.inj h
    simp
  · obtain ⟨o, object, rfl⟩ := Option.map_eq_some_iff.mp h
    rintro _ ⟨⟩
    exact Object.storable_of_ofJson? object

/-- What a field holds is its default, or it has been decoded. -/
theorem field?_eq_some {α : Type} {fields : List (String × Json)} {name : String}
    {decode? : Json → Option α} {default v : α}
    (h : Json.field? fields name decode? default = some v) :
    v = default ∨ ∃ j, decode? j = some v := by
  unfold Json.field? at h
  split at h
  · exact .inl (Option.some.inj h).symm
  · exact .inr ⟨_, h⟩

theorem storable_of_ofJson? {j : Json} {s : Scene} (h : ofJson? j = some s) : s.Storable := by
  obtain ⟨fields, -, h⟩ := Option.bind_eq_some_iff.mp h
  obtain ⟨camera, hCamera, h⟩ := Option.bind_eq_some_iff.mp h
  obtain ⟨technique, hTechnique, h⟩ := Option.bind_eq_some_iff.mp h
  obtain ⟨textures, hTextures, h⟩ := Option.bind_eq_some_iff.mp h
  obtain ⟨bsdfs, hBsdfs, h⟩ := Option.bind_eq_some_iff.mp h
  obtain ⟨lights, hLights, h⟩ := Option.bind_eq_some_iff.mp h
  obtain ⟨shapes, hShapes, h⟩ := Option.bind_eq_some_iff.mp h
  obtain ⟨entities, hEntities, h⟩ := Option.bind_eq_some_iff.mp h
  obtain rfl := Option.some.inj h
  have single {name key : String} {o? : Option Object}
      (h : Json.field? fields key optional? none = some o?) :
      ∀ o ∈ o?.map (·.named name), o.name = name ∧ o.Storable := by
    intro o ho
    obtain ⟨a, ha, rfl⟩ := Option.map_eq_some_iff.mp ho
    rcases field?_eq_some h with rfl | ⟨j, read⟩
    · cases ha
    · exact ⟨rfl, storable_of_optional? read a ha⟩
  have category {key : String} {m : NameMap Object}
      (h : Json.field? fields key category? .empty = some m) :
      Placed (m.mapValues fun name o => o.named name) := by
    apply Placed.named
    rcases field?_eq_some h with rfl | ⟨j, read⟩
    · simp [NameMap.empty]
    · exact storable_of_category? read
  exact ⟨single hCamera, single hTechnique, category hTextures, category hBsdfs, category hLights,
    category hShapes, category hEntities⟩

/-- Everything that makes a scene leaves its objects under their names. -/
theorem Built.storable {s : Scene} (h : s.Built) : s.Storable := by
  induction h with
  | parsed h =>
    obtain ⟨j, -, decoded⟩ := Json.parse_eq_ok.mp h
    exact storable_of_ofJson? decoded
  | setCamera _ ho ih =>
    refine { ih with camera := ?_ }
    rintro _ ⟨⟩
    exact ⟨rfl, ho.storable⟩
  | setTechnique _ ho ih =>
    refine { ih with technique := ?_ }
    rintro _ ⟨⟩
    exact ⟨rfl, ho.storable⟩
  | addTexture _ name ho ih => exact { ih with textures := ih.textures.insert name ho.storable }
  | addBsdf _ name ho ih => exact { ih with bsdfs := ih.bsdfs.insert name ho.storable }
  | addLight _ name ho ih => exact { ih with lights := ih.lights.insert name ho.storable }
  | addShape _ name ho ih => exact { ih with shapes := ih.shapes.insert name ho.storable }
  | addEntity _ name ho ih => exact { ih with entities := ih.entities.insert name ho.storable }

/-- What is written of a scene is read with every array of three numbers as a vector. -/
theorem parse_serialise {s : Scene} (built : s.Built)
    (survive : ∀ x ∈ s.numbers, Property.Survives x) : parse s.serialise = .ok s.reread :=
  Json.parse_write s.writable_toJson (ofJson?_toJson built.storable survive)

/-- **A scene is read back from what is written of it**, names included, if it comes of
texts and of objects that come of texts, properties and directories. All of its numbers
are finite, and of the text of a number nothing is asked but that it is read back as that
number. Every property comes back as it was, so with the same kind of value, but for an array
of three numbers, which comes back as the vector of the three. So what is read is the scene
itself exactly if it has no such array. -/
theorem scene_read_back {s : Scene} (built : s.Built) (finite : ∀ x ∈ s.numbers, x.isFinite = true)
    (printed : ∀ x ∈ s.numbers, x.isFinite = true →
      Json.parse Json.single? (Json.single x).write = .ok x) :
    parse s.serialise = .ok s.reread ∧ (parse s.serialise = .ok s ↔ s.IsPlain) := by
  have read := parse_serialise built fun x hx => ⟨finite x hx, printed x hx (finite x hx)⟩
  refine ⟨read, ?_⟩
  rw [read, Except.ok.injEq, reread_eq_self_iff]

/-- A text with a scene: a number that is whole, three numbers, a name with a quote, and a
property that is called `name`. -/
def galleryText : String :=
  "\x7b\"lights\":\x7b\"a\\\"b\":\x7b\"type\":\"point\",\"name\":\"x\",\"scale\":5.0,"
    ++ "\"position\":[1,2.5,-3]\x7d\x7d\x7d"

/-- The scene of the text. -/
def hall : Scene := (parse galleryText).toOption.getD .empty

/-- A text with an object. -/
def wallText : String := "\x7b\"type\":\"default\",\"visible\":true\x7d"

/-- The object of the text, with a directory and a property that has line breaks. -/
def wall : Object :=
  (((Object.parse wallText).toOption.getD (.ofKind "")).withProperty "note"
    (.string "first\tline\n\x01\\")).withBaseDir ""

theorem eq_ok_of_isOk {α : Type} {x : Except Error α} (h : x.isOk = true) (a : α) :
    x = .ok (x.toOption.getD a) := by
  cases x with
  | ok b => rfl
  | error e => cases h

theorem wall_built : wall.Built := by
  have parsed := Object.Built.parsed (eq_ok_of_isOk (x := Object.parse wallText) (by decide +kernel)
    (.ofKind ""))
  exact (parsed.withProperty (by decide) _).withBaseDir ""

theorem gallery_built : (hall.addEntity "wall" wall).Built := by
  have parsed := Built.parsed (eq_ok_of_isOk (x := parse galleryText) (by decide +kernel) .empty)
  exact parsed.addEntity "wall" wall_built

theorem gallery_read_back :
    (hall.addEntity "wall" wall).numbers.length = 4 ∧
      parse (hall.addEntity "wall" wall).serialise = .ok (hall.addEntity "wall" wall) := by
  refine ⟨by decide +kernel, ?_⟩
  refine (scene_read_back gallery_built (by decide +kernel) (by decide +kernel)).2.mpr ?_
  exact reread_eq_self_iff.mp (by decide +kernel)

/-- The wall with an array of three numbers. -/
def stripedWall : Object := wall.withProperty "stripes" (.array [.ofInt 1, .ofInt 2, .ofInt 3])

/-- The gallery with the striped wall. -/
def stripedGallery : Scene := hall.addEntity "wall" stripedWall

/-- A scene with an array of three numbers is not read back: they come back as a vector. -/
theorem stripes_not_read_back :
    stripedGallery.Built ∧ (∀ x ∈ stripedGallery.numbers, Property.Survives x) ∧
      parse stripedGallery.serialise ≠ .ok stripedGallery := by
  have built : stripedGallery.Built := by
    have parsed := Built.parsed (eq_ok_of_isOk (x := parse galleryText) (by decide +kernel) .empty)
    exact parsed.addEntity "wall" (wall_built.withProperty (by decide) _)
  have survive : ∀ x ∈ stripedGallery.numbers, Property.Survives x := by
    unfold Property.Survives
    decide +kernel
  have changed : stripedGallery.reread ≠ stripedGallery := by decide +kernel
  refine ⟨built, survive, ?_⟩
  rw [parse_serialise built survive]
  exact fun same => changed (Except.ok.inj same)

end Scene

end RayShader
