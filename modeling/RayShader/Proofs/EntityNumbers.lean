import RayShader.Proofs.NameOrder
import RayShader.Proofs.Operations
import RayShader.Proofs.Template

/-!
# Numbers of entities

The number of an entity is its rank: the number of entities whose names are smaller in the
order of bytes. So it depends on the set of names alone, and not on the order in which the
entities were put into the scene. A new entity moves those behind it up by one, and nothing
else moves any.

Programs hold these numbers: an area light is emitted with the number of the entity that it
names, and in every context this is a number below the count of entities of the context.
-/

namespace RayShader

/-! ### Numbers in a scene -/

namespace Scene

variable {s : Scene} {name : String} {o : Object}

/-- The names of the entities. -/
def entityNames (s : Scene) : Finset String := s.entities.nameSet

/-- The scene with more entities, put in one after the other. -/
def addEntities (s : Scene) (added : List (String × Object)) : Scene :=
  added.foldl (fun s p => s.addEntity p.1 p.2) s

theorem entityNames_addEntity (s : Scene) (name : String) (o : Object) :
    (s.addEntity name o).entityNames = insert name s.entityNames :=
  NameMap.nameSet_insert ..

theorem entityNames_addEntities (added : List (String × Object)) (s : Scene) :
    (s.addEntities added).entityNames = s.entityNames ∪ (added.map (·.1)).toFinset := by
  induction added generalizing s with
  | nil => exact (Finset.union_empty _).symm
  | cons p added ih =>
    have step : s.addEntities (p :: added) = (s.addEntity p.1 p.2).addEntities added := rfl
    rw [step, ih, entityNames_addEntity, List.map_cons, List.toFinset_cons, Finset.insert_union,
      Finset.union_insert]

theorem entityIndex?_eq (s : Scene) (name : String) : s.entityIndex? name
    = if name ∈ s.entityNames then some (Text.rank s.entityNames name) else none :=
  s.entities.index?_eq name

theorem entityIndex?_eq_some {i : Nat} :
    s.entityIndex? name = some i ↔ name ∈ s.entityNames ∧ Text.rank s.entityNames name = i := by
  rw [entityIndex?_eq]
  split <;> simp_all

theorem entityIndex?_eq_none : s.entityIndex? name = none ↔ name ∉ s.entityNames := by
  rw [entityIndex?_eq]
  split <;> simp_all

theorem entityIndex?_lt {i : Nat} (h : s.entityIndex? name = some i) : i < s.entities.size := by
  obtain ⟨mem, rfl⟩ := entityIndex?_eq_some.mp h
  rw [← NameMap.card_nameSet]
  exact Text.rank_lt_card mem

/-- A new entity moves those behind it up by one. -/
theorem entityIndex?_addEntity (new : name ∉ s.entityNames) {k : String} (other : k ≠ name) :
    (s.addEntity name o).entityIndex? k = (s.entityIndex? k).map fun i =>
      if Text.bytes name < Text.bytes k then i + 1 else i := by
  have known : k ∈ (s.addEntity name o).entityNames ↔ k ∈ s.entityNames := by
    rw [entityNames_addEntity, Finset.mem_insert]
    exact or_iff_right other
  rw [entityIndex?_eq, entityIndex?_eq, entityNames_addEntity, Text.rank_insert new]
  rw [entityNames_addEntity] at known
  by_cases mem : k ∈ s.entityNames
  · rw [if_pos (known.mpr mem), if_pos mem, Option.map_some]
    split <;> rfl
  · rw [if_neg (mem ∘ known.mp), if_neg mem, Option.map_none]

/-- An entity that is there already moves none. -/
theorem entityIndex?_addEntity_of_mem (old : name ∈ s.entityNames) (k : String) :
    (s.addEntity name o).entityIndex? k = s.entityIndex? k := by
  rw [entityIndex?_eq, entityIndex?_eq, entityNames_addEntity, Finset.insert_eq_of_mem old]

/-- The entities of a scene are numbered in the order of the bytes of their names. -/
structure NumberedInOrder (s : Scene) : Prop where
  /-- The number of an entity is the number of smaller names. -/
  index : ∀ name i, s.entityIndex? name = some i ↔
    name ∈ s.entityNames ∧ (s.entityNames.filter fun k => Text.bytes k < Text.bytes name).card = i
  /-- Nothing else has a number. -/
  none : ∀ name, s.entityIndex? name = none ↔ name ∉ s.entityNames
  /-- Numbers are in the order of names. -/
  order : ∀ name i k j, s.entityIndex? name = some i → s.entityIndex? k = some j →
    (i < j ↔ Text.bytes name < Text.bytes k)
  /-- The numbers are those below the number of entities, and each is of one entity. -/
  bijective : ∀ i, i < s.entities.size ↔ ∃! name, s.entityIndex? name = some i
  /-- A new entity moves those behind it up by one, and no others. -/
  new : ∀ name o, name ∉ s.entityNames → ∀ k, k ≠ name → (s.addEntity name o).entityIndex? k
    = (s.entityIndex? k).map fun i => if Text.bytes name < Text.bytes k then i + 1 else i
  /-- An entity that is there already moves none. -/
  old : ∀ name o, name ∈ s.entityNames → (s.addEntity name o).entityIndex? = s.entityIndex?
  /-- Objects of other categories move none. -/
  others : ∀ name o, ∀ s' ∈ [s.setCamera o, s.setTechnique o, s.addTexture name o,
    s.addBsdf name o, s.addLight name o, s.addShape name o], s'.entityIndex? = s.entityIndex?

theorem exists_unique_entity (s : Scene) (i : Nat) :
    i < s.entities.size ↔ ∃! name, s.entityIndex? name = some i := by
  constructor
  · intro lt
    obtain ⟨-, inj, surj⟩ := Text.bijOn_rank s.entityNames
    have counted : i < s.entityNames.card := lt.trans_eq (NameMap.card_nameSet _).symm
    obtain ⟨name, mem, rank⟩ := surj counted
    refine ⟨name, entityIndex?_eq_some.mpr ⟨mem, rank⟩, fun k found => ?_⟩
    obtain ⟨mem', rank'⟩ := entityIndex?_eq_some.mp found
    exact inj mem' mem (rank'.trans rank.symm)
  · rintro ⟨name, found, -⟩
    exact entityIndex?_lt found

theorem numberedInOrder (s : Scene) : NumberedInOrder s where
  index _ _ := entityIndex?_eq_some
  none _ := entityIndex?_eq_none
  order name i k j hi hj := by
    obtain ⟨mem, rfl⟩ := entityIndex?_eq_some.mp hi
    obtain ⟨mem', rfl⟩ := entityIndex?_eq_some.mp hj
    exact Text.rank_lt_rank_iff mem mem'
  bijective := s.exists_unique_entity
  new _ _ new _ other := entityIndex?_addEntity new other
  old _ _ old := funext (entityIndex?_addEntity_of_mem old)
  others name o s' hs' := by
    simp only [List.mem_cons, List.not_mem_nil, or_false] at hs'
    obtain rfl | rfl | rfl | rfl | rfl | rfl := hs' <;> rfl

end Scene

/-! ### Numbers in programs -/

namespace Stock.Light

variable {c : Context} {o : Object}

/-- The expression makes a light on the entity that the object names, told by the number of
the entity, and this is below the number of entities. -/
def IsOnEntity (c : Context) (o : Object) (expr : String) : Prop :=
  ∃ (name : String) (index : Nat) (radiance : String), o.property? "entity" = some (.string name) ∧
    c.scene.entityIndex? name = some index ∧ index < c.entityCount ∧
    expr = s!"make_area_light(dtb, {index}, {radiance})"

theorem entity_eq_ok {scene : Scene} {index : Nat} (h : entity scene o = .ok index) :
    ∃ name, o.property? "entity" = some (.string name) ∧ scene.entityIndex? name = some index := by
  obtain ⟨name?, read, h⟩ := except_bind_eq_ok.mp h
  rw [Object.string?_eq_ok] at read
  cases name? with
  | none => cases h
  | some name =>
    cases found : scene.entityIndex? name with
    | none =>
      simp only [found] at h
      cases h
    | some i =>
      simp only [found] at h
      obtain rfl : i = index := Except.ok.inj h
      exact ⟨name, read, found⟩

/-- What the lights of a whole table are. -/
theorem area_gives (counted : c.entityCount = c.scene.entities.size) (kind : o.kind = area.kind) :
    (ofObject c o false).Gives (IsOnEntity c o) := by
  have found : ofKind? o.kind = some area := by
    rw [kind]
    decide +kernel
  intro t u expr gave
  simp only [ofObject, found, Light.expr, Bool.false_eq_true, if_false, Stage.bind_eq,
    Stage.step_bind_eq_ok, Stage.step_pure_eq_ok, Stage.step_read_eq_ok] at gave
  obtain ⟨_, index, ⟨-, asked⟩, _, radiance, -, -, rfl⟩ := gave
  obtain ⟨name, named, numbered⟩ := entity_eq_ok asked
  exact ⟨name, index, radiance, named, numbered, counted ▸ Scene.entityIndex?_lt numbered, rfl⟩

/-- Every area light of a whole table is on the entity that it names. -/
theorem entries_give (counted : c.entityCount = c.scene.entities.size)
    (lights : List (String × Object)) :
    (entries c false lights).Gives (List.Forall₂ (fun p entry =>
      entry.1 = p.1 ∧ (p.2.kind = area.kind → IsOnEntity c p.2 entry.2)) lights) := by
  induction lights with
  | nil => exact .pure .nil
  | cons p rest ih =>
    have first : (ofObject c p.2 false).Gives fun expr =>
        p.2.kind = area.kind → IsOnEntity c p.2 expr :=
      fun t u expr gave kind => area_gives counted kind t u expr gave
    exact .bind first fun expr onEntity => .bind ih fun more each =>
      .pure (.cons ⟨rfl, onEntity⟩ each)

end Stock.Light

namespace Context

variable {technique : Technique.Info} {options : Options} {c c₀ : Context}

/-- The whole tables of lights of a context hold the numbers of entities: each is made of
one entry for each light, and an area light is on the entity that it names. -/
def LightsOnEntities (c : Context) : Prop :=
  ∀ t u text, (Stock.lights c false).step t = (u, .ok text) →
    ∃ buffers entries, text = Stock.lightTable buffers entries ∧
      List.Forall₂ (fun light entry => entry.1 = light.1 ∧
        (light.2.kind = "area" → Stock.Light.IsOnEntity c light.2 entry.2))
        c.scene.lights.entries entries

theorem lightsOnEntities (counted : c.entityCount = c.scene.entities.size) :
    LightsOnEntities c := by
  intro t u text made
  obtain ⟨v, entries, buffers, listed, -, rfl⟩ := Stock.lights_step_eq_ok.mp made
  exact ⟨buffers, entries, rfl, Stock.Light.entries_give counted _ _ _ _ listed⟩

/-- **Entities are numbered in the order of their names.** Whatever entities are put into
whatever scene, and in whatever order: the number of an entity is the number of names that
are smaller in the order of bytes, so that a new entity moves those behind it up by one and
nothing else moves any. In every context of the scene, whatever was done with it, area
lights are emitted with the number of the entity that they name, and it is below the count
of entities of the context. -/
theorem entities_numbered (scene : Scene) (added : List (String × Object)) :
    (scene.addEntities added).entityNames = scene.entityNames ∪ (added.map (·.1)).toFinset ∧
      (scene.addEntities added).NumberedInOrder ∧
      ∀ technique options c₀ ops c, Constructed (scene.addEntities added) technique options c₀ →
        c₀.after ops = c → c.scene = scene.addEntities added ∧
          c.entityCount = (scene.addEntities added).entityNames.card ∧ LightsOnEntities c := by
  refine ⟨Scene.entityNames_addEntities .., Scene.numberedInOrder _, ?_⟩
  intro technique options c₀ ops c constructed reached
  obtain ⟨agrees, inRange⟩ := agrees_after ops constructed.sound.inRange
  rw [reached] at agrees inRange
  have sound := constructed.sound.of_agrees agrees inRange
  refine ⟨sound.scene_eq, ?_, lightsOnEntities sound.entityCount_eq⟩
  rw [sound.entityCount_eq, sound.scene_eq]
  exact (NameMap.card_nameSet _).symm

/-- A scene with a light on an entity to which others are added. -/
def panelScene : Scene :=
  Scene.empty.addLight "lamp" ((Object.ofKind "area").withProperty "entity" (.string "panel"))

/-- The entities, the first of them the one with the light. -/
def panelEntities : List (String × Object) :=
  [("panel", .ofKind "default"), ("wall", .ofKind "default"), ("Zaun", .ofKind "default"),
    ("panel", .ofKind "other")]

theorem panelScene_made :
    ∃ c t text, Constructed (panelScene.addEntities panelEntities) ⟨[default], []⟩ .standard c ∧
      (Stock.lights c false).step .empty = (t, .ok text) := by
  have made : ((ofScene (panelScene.addEntities panelEntities) ⟨[default], []⟩ .standard).bind
      fun c => (Stock.lights c false).runOn .empty).result.isOk = true := by decide +kernel
  obtain ⟨text, h⟩ := exists_of_isOk made
  obtain ⟨c, constructed, table⟩ := Run.bind_eq_ok.mp h
  exact ⟨c, _, text, .given constructed, Prod.ext rfl table⟩

theorem panel_moves_behind_beam :
    ∃ c t buffers radiance, Constructed (panelScene.addEntities panelEntities) ⟨[default], []⟩
        .standard c ∧
      c.entityCount = 3 ∧ c.scene.entityIndex? "panel" = some 1 ∧
      (c.scene.addEntity "beam" (.ofKind "default")).entityIndex? "panel" = some 2 ∧
      (Stock.lights c false).step .empty = (t, .ok (Stock.lightTable buffers
        [("lamp", "make_area_light(dtb, 1, " ++ radiance ++ ")")])) := by
  obtain ⟨c, t, text, constructed, made⟩ := panelScene_made
  obtain ⟨names, numbered, contexts⟩ := entities_numbered panelScene panelEntities
  obtain ⟨scene, count, lights⟩ := contexts _ _ c [] c constructed rfl
  have panel : c.scene.entityIndex? "panel" = some 1 := by
    rw [scene]
    decide +kernel
  have beam : "beam" ∉ (panelScene.addEntities panelEntities).entityNames := by
    rw [names]
    decide +kernel
  have before : Text.bytes "beam" < Text.bytes "panel" := Text.bytes_lt (by decide)
  have lamp : c.scene.lights.entries = [("lamp",
      ((Object.ofKind "area").withProperty "entity" (.string "panel")).named "lamp")] := by
    rw [scene]
    rfl
  obtain ⟨buffers, entries, rfl, each⟩ := lights _ t text made
  rw [lamp] at each
  cases each with
  | @cons _ entry _ more first rest =>
    cases rest
    obtain ⟨name, index, radiance, named, numbered', -, shown⟩ := first.2 rfl
    obtain rfl : "panel" = name := Property.string.inj (Option.some.inj named)
    obtain rfl : 1 = index := Option.some.inj (panel.symm.trans numbered')
    refine ⟨c, t, buffers, radiance, constructed, ?_, panel, ?_, ?_⟩
    · rw [count, names]
      decide +kernel
    · rw [scene] at panel ⊢
      rw [numbered.new "beam" _ beam "panel" (by decide), panel, Option.map_some, if_pos before]
    · have same : entry = ("lamp", s!"make_area_light(dtb, {1}, {radiance})") :=
        Prod.ext first.1 shown
      rw [made, same]
      rfl

end Context

end RayShader
