import RayShader.Stock.Emitters
import RayShader.Proofs.Diagnostics
import RayShader.Proofs.Images
import RayShader.Proofs.Outlines
import RayShader.Proofs.TableLines
import RayShader.Proofs.Template

/-!
# Whole and restricted tables of lights

A restricted table is the whole table with the light without effect in the places of
area lights. What a light reads is scene data and never the tree (`Blind`), so the two
tables compare light by light, whatever trees they are made on.

Programs ask for the whole table where they have asked for the scene database before, and
nowhere else. Only area lights read the database, so no light reads what its program does
not bind.
-/

namespace RayShader

open Event (Request)
open Program (Fragment)
open Stock (declare lightTable)
open Technique (VariantInfo)
open Text (Mentions)

/-! ### Stages that do not read the tree -/

/-- What comes of the stage does not depend on the tree. -/
def Blind {α : Type} (x : Stage ShadingTree α) : Prop := ∀ t t', (x.step t).2 = (x.step t').2

namespace Blind

variable {α β : Type} {x : Stage ShadingTree α} {c : Context} {o : Object} {property : String}

theorem ofRun (r : Run α) : Blind (Stage.ofRun r) := fun _ _ => rfl

theorem bind {f : α → Stage ShadingTree β} (hx : Blind x) (hf : ∀ a, Blind (f a)) :
    Blind (x.bind f) := by
  intro t t'
  have same := hx t t'
  rcases ran : x t with ⟨u, events, r⟩
  rcases ran' : x t' with ⟨u', events', r'⟩
  obtain rfl : r = r' := by simpa [Stage.step, ran, ran'] using same
  cases r with
  | error e => simp only [Stage.step, Stage.bind_of_error ran, Stage.bind_of_error ran']
  | ok a =>
    simp only [Stage.step, Stage.bind_of_ok ran, Stage.bind_of_ok ran']
    exact hf a u u'

theorem ok (hx : Blind x) {t u : ShadingTree} {a : α} (h : x.step t = (u, .ok a))
    (t' : ShadingTree) : ∃ u', x.step t' = (u', .ok a) :=
  ⟨(x.step t').1, Prod.ext rfl ((hx t' t).trans (by rw [h]))⟩

theorem texture (buffer : Nat) : Blind (ShadingTree.texture buffer) := fun _ _ => rfl

theorem color (default : Vec3) : Blind (ShadingTree.color c o property default) := by
  refine (ofRun _).bind fun value => ?_
  cases value with
  | texture buffer => exact (texture buffer).bind fun _ => .ofRun _
  | color v => exact .ofRun _

end Blind

/-! ### Light by light -/

namespace Stock.Light

variable {c : Context} {o : Object} {t u : ShadingTree}

theorem blind_expr (light : Light) (restricted : Bool) : Blind (light.expr c o restricted) := by
  cases light with
  | point => exact (Blind.ofRun _).bind fun _ => (Blind.color _).bind fun _ => .ofRun _
  | spot =>
    exact (Blind.ofRun _).bind fun _ => (Blind.ofRun _).bind fun _ => (Blind.ofRun _).bind fun _ =>
      (Blind.ofRun _).bind fun _ => (Blind.color _).bind fun _ => .ofRun _
  | directional => exact (Blind.ofRun _).bind fun _ => (Blind.color _).bind fun _ => .ofRun _
  | area =>
    cases restricted with
    | true => exact .ofRun _
    | false => exact (Blind.ofRun _).bind fun _ => (Blind.color _).bind fun _ => .ofRun _
  | env =>
    refine (Blind.ofRun _).bind fun _ => (Blind.ofRun _).bind fun value => ?_
    cases value with
    | texture buffer => exact (Blind.texture buffer).bind fun _ => .ofRun _
    | color v => exact .ofRun _
  | constant => exact (Blind.ofRun _).bind fun _ => .ofRun _

/-- What a light is in a restricted table, given what it is in the whole one. -/
def restrictedEntry (p : String × Object) (entry : String × String) : String × String :=
  (p.1, if p.2.kind = area.kind then nullExpr else entry.2)

/-- A light that is in the whole table is in the restricted one, whatever the trees. -/
theorem ofObject_restricted {s : String} (h : (ofObject c o false).step t = (u, .ok s))
    (t' : ShadingTree) :
    ∃ u', (ofObject c o true).step t' = (u', .ok (if o.kind = area.kind then nullExpr else s)) := by
  unfold ofObject at h ⊢
  cases found : ofKind? o.kind with
  | none =>
    rw [found] at h
    cases (Prod.mk.inj h).2
  | some light =>
    simp only [found] at h ⊢
    have kind : light.kind = o.kind := find?_kind_eq_some found
    by_cases isArea : light = area
    · subst isArea
      rw [if_pos kind.symm]
      exact ⟨t', rfl⟩
    · have other : o.kind ≠ area.kind := by
        rw [← kind]
        revert isArea
        cases light <;> decide
      have same : light.expr c o true = light.expr c o false := by
        cases light with
        | area => exact absurd rfl isArea
        | point | spot | directional | env | constant => rfl
      rw [if_neg other, same]
      exact (blind_expr light false).ok h t'

/-- Where all lights give entries of the whole table, they give those of the restricted
one. -/
theorem entries_restricted {lights : List (String × Object)} {full : List (String × String)}
    (h : (entries c false lights).step t = (u, .ok full)) (t' : ShadingTree) :
    ∃ u', (entries c true lights).step t'
      = (u', .ok (List.zipWith restrictedEntry lights full)) := by
  -- the trees of the two runs go apart, so both are arbitrary in the induction
  induction lights generalizing t u t' full with
  | nil =>
    obtain ⟨-, rfl⟩ := Stage.step_pure_eq_ok.mp h
    exact ⟨t', rfl⟩
  | cons p rest ih =>
    simp only [entries, Stage.bind_eq, Stage.step_bind_eq_ok, Stage.step_pure_eq_ok] at h
    obtain ⟨_, s, one, _, more, all, -, rfl⟩ := h
    obtain ⟨v, one'⟩ := ofObject_restricted one t'
    obtain ⟨w, all'⟩ := ih all v
    refine ⟨w, ?_⟩
    simp only [entries, Stage.bind_eq, Stage.step_bind_eq_ok, Stage.step_pure_eq_ok]
    exact ⟨v, _, one', w, _, all', rfl, rfl⟩

/-- In a restricted table no other textures are named than in the whole one. -/
theorem mem_propertiesOf_true {property : String} (h : property ∈ propertiesOf true o) :
    property ∈ propertiesOf false o := by
  unfold propertiesOf at h ⊢
  cases found : ofKind? o.kind with
  | none => simp [found] at h
  | some light =>
    rw [found] at h
    cases light with
    | area => cases h
    | point | spot | directional | env | constant => exact h

end Stock.Light

/-! ### Tables -/

/-- A table of lights. -/
structure LightTable where
  /-- The buffers of the images that it declares. -/
  declared : List Nat
  /-- The names of the lights and their expressions, in order. -/
  entries : List (String × String)

namespace LightTable

/-- The text of the table. -/
def text (T : LightTable) : String := lightTable T.declared T.entries

/-- The table is what the stock lights are made into on the first tree. The second is the
tree of afterwards. -/
def IsMade (c : Context) (restricted : Bool) (t : ShadingTree) (T : LightTable)
    (t' : ShadingTree) : Prop :=
  ∃ u, (Stock.Light.entries c restricted c.scene.lights.entries).step t = (u, .ok T.entries) ∧
    declare.step u = (t', .ok T.declared)

/-- The table is the whole one with the light without effect in the places of area
lights. -/
structure Restricts (c : Context) (full T : LightTable) : Prop where
  /-- The whole table has all lights of the scene. -/
  full_names : full.entries.map (·.1) = c.scene.lights.names
  /-- The table has all lights of the scene. -/
  names : T.entries.map (·.1) = c.scene.lights.names
  /-- The expressions are those of the whole table, but for area lights. -/
  expr : ∀ (i : Nat) p entry, c.scene.lights.entries[i]? = some p → full.entries[i]? = some entry →
    T.entries[i]? = some (p.1, if p.2.kind = "area" then "make_null_light()" else entry.2)
  /-- The table declares no other images than the whole one. -/
  declared : ∀ b ∈ T.declared, b ∈ full.declared

end LightTable

namespace Stock

variable {c : Context} {t : ShadingTree} {text : String}

theorem Light.names_of_entries {restricted : Bool} {lights : List (String × Object)}
    {entries : List (String × String)} (h : List.Forall₂ (IsEntry c restricted) lights entries) :
    entries.map (·.1) = lights.map (·.1) := by
  induction h with
  | nil => rfl
  | cons first _ ih => rw [List.map_cons, List.map_cons, first.name_eq, ih]

/-- On a new tree a table declares the images of the textures that its lights name. -/
theorem mem_declared_of_entries {restricted : Bool} {u : ShadingTree}
    {entries : List (String × String)} {buffers : List Nat}
    (made : (Light.entries c restricted c.scene.lights.entries).step .empty = (u, .ok entries))
    (declares : declare.step u = (t, .ok buffers)) (b : Nat) :
    b ∈ buffers ↔
      ∃ p ∈ c.scene.lights.entries, NamedBy c p.2 (Light.propertiesOf restricted p.2) b := by
  obtain ⟨gains, -⟩ := Light.adds_entries restricted _ _ _ _ made
  have pending : u.pending = buffers := Except.ok.inj (Prod.mk.inj declares).2
  rw [← pending, ShadingTree.mem_pending, gains.declared_eq, gains.mem_used]
  simp [ShadingTree.empty]

/-- Where the whole table is made, the restricted one is. -/
theorem lights_restricts (h : (lights c false).step .empty = (t, .ok text)) :
    ∃ full T t', full.text = text ∧ LightTable.IsMade c false .empty full t ∧
      (lights c true).step .empty = (t', .ok T.text) ∧ LightTable.IsMade c true .empty T t' ∧
        LightTable.Restricts c full T := by
  obtain ⟨u, full, buffers, made, declares, rfl⟩ := lights_step_eq_ok.mp h
  obtain ⟨u', made'⟩ := Light.entries_restricted made .empty
  have declares' : declare.step u' = (_, .ok u'.pending) := rfl
  obtain ⟨-, each⟩ := Light.adds_entries false _ _ _ _ made
  obtain ⟨-, each'⟩ := Light.adds_entries true _ _ _ _ made'
  refine ⟨⟨buffers, full⟩, ⟨u'.pending, _⟩, _, rfl, ⟨u, made, declares⟩,
    lights_step_eq_ok.mpr ⟨u', _, _, made', declares', rfl⟩, ⟨u', made', declares'⟩,
    Light.names_of_entries each, Light.names_of_entries each', fun i p entry hp he => ?_,
    fun b hb => ?_⟩
  · have listed : full[i]? = some entry := he
    rw [List.getElem?_zipWith, hp, listed]
    rfl
  · obtain ⟨p, hp, property, mem, named⟩ := (mem_declared_of_entries made' declares' b).mp hb
    exact (mem_declared_of_entries made declares b).mpr
      ⟨p, hp, property, Light.mem_propertiesOf_true mem, named⟩

end Stock

/-! ### Requests for tables -/

namespace Generation

variable {e : Emitters} {c : Context} {v : VariantInfo} {kind : ShaderKind} {t : ShadingTree}

/-- Every table of lights is asked for whole behind a request for the scene database, and
restricted elsewhere. `bound` says whether the database was asked for before the list. -/
def tablesAgree : Bool → List Request → Bool
  | _, [] => true
  | _, .database :: rest => tablesAgree true rest
  | bound, .lights restricted :: rest => restricted == !bound && tablesAgree bound rest
  | bound, _ :: rest => tablesAgree bound rest

theorem whole_iff_of_tablesAgree {bound restricted : Bool} {before after : List Request}
    (h : tablesAgree bound (before ++ .lights restricted :: after) = true) :
    restricted = false ↔ bound = true ∨ .database ∈ before := by
  induction before generalizing bound with
  | nil =>
    have same : restricted = !bound := by
      simp only [List.nil_append, tablesAgree, Bool.and_eq_true, beq_iff_eq] at h
      exact h.1
    cases bound <;> simp [same]
  | cons r before ih =>
    cases r with
    | database =>
      have whole : restricted = false ↔ true = true ∨ .database ∈ before := ih h
      simpa using whole
    | lights other =>
      simp only [List.cons_append, tablesAgree, Bool.and_eq_true] at h
      simpa using ih h.2
    | info | header | technique | callback | camera | material | device => simpa using ih h

theorem tablesAgree_of_prefix {bound : Bool} {rs rs' : List Request}
    (h : tablesAgree bound rs' = true) (hp : rs <+: rs') : tablesAgree bound rs = true := by
  obtain ⟨more, rfl⟩ := hp
  induction rs generalizing bound with
  | nil => rfl
  | cons r rs ih =>
    cases r with
    | lights restricted =>
      simp only [List.cons_append, tablesAgree, Bool.and_eq_true] at h ⊢
      exact ⟨h.1, ih h.2⟩
    | database | info | header | technique | callback | camera | material | device => exact ih h

theorem tablesAgree_requests (c : Context) (v : VariantInfo) (kind : ShaderKind) :
    tablesAgree false (requests c v kind) = true := by
  cases kind with
  | rayGeneration =>
    unfold requests
    cases c.isTracer <;> rfl
  | miss | shadowMiss =>
    unfold requests lightRequests
    cases v.usesLights <;> cases v.usesAllLightsInMiss <;> rfl
  | hit | shadowHit =>
    unfold requests
    try unfold lightRequests
    cases v.usesLights <;> rfl
  | callback => rfl

theorem asked_prefix (rs : List Request) (t : ShadingTree) : (e.inquire c rs t).2.asked <+: rs := by
  rcases Emitters.inquire_cases (e := e) (c := c) rs t with
    ⟨u, all⟩ | ⟨asked, r, later, _, f, rfl, -, -, stopped⟩
  · exact ⟨[], by rw [all, List.append_nil]⟩
  · exact ⟨later, by rw [stopped, List.append_assoc, List.singleton_append]⟩

theorem tablesAgree_of_asks {α : Type} {x : Stage ShadingTree α} {rs : List Request}
    (hx : e.Asks c x rs) (h : tablesAgree false rs = true) (t : ShadingTree) :
    tablesAgree false (x t).2.requests = true := by
  have asked : (x t).2.inquiry = (e.inquire c rs t).2 := congrArg Prod.snd (hx t)
  refine tablesAgree_of_prefix h ?_
  have first := asked_prefix (e := e) (c := c) rs t
  rw [← asked] at first
  exact first

theorem requests_bind_ofExcept {σ α β : Type} (x : Stage σ α) (r : Except Failure β) (s : σ) :
    (x.bind (fun _ => Stage.ofExcept r) s).2.requests = (x s).2.requests := by
  rcases ran : x s with ⟨u, events, f | a⟩
  · rw [Stage.bind_of_error ran]
    rfl
  · rw [Stage.bind_of_ok ran]
    simp [Run.requests, Stage.ofExcept, Stage.ofRun, Run.ofExcept]

/-- Without a selected variant the program of a hit group stops before its lights. -/
theorem tablesAgree_hit_of_error {d : Scene.Database} (hd : c.requireDatabase = .ok d) {f : Failure}
    (hv : c.variant = .error f) (group : Nat) (t : ShadingTree) :
    tablesAgree false (hit e c group t).2.requests = true := by
  have opening : e.Asks c ((e.askHeader c false).bind fun _ => (prologue e c).bind fun _ =>
      e.askDatabase) ([.header false] ++ ([.device] ++ [.database])) :=
    (Emitters.Asks.header false).bind fun _ => asks_prologue.bind fun _ => .database
  have stops : hit e c group = ((e.askHeader c false).bind fun _ => (prologue e c).bind fun _ =>
      e.askDatabase).bind fun _ => Stage.ofExcept (.error f) := by
    simp only [hit, hd, hv, Stage.bind_eq, Stage.ofExcept_ok_bind, Stage.bind_assoc]
    rfl
  rw [stops, requests_bind_ofExcept]
  exact tablesAgree_of_asks opening rfl t

/-- Whatever becomes of a program, the tables that it asks for agree with its database. -/
theorem tablesAgree_build (e : Emitters) (c : Context) (kind : ShaderKind) (t : ShadingTree) :
    tablesAgree false ((build e c kind).runOn t).requests = true := by
  cases hd : c.requireDatabase with
  | error f =>
    have nothing : (build e c kind).runOn t = ⟨[], .error f⟩ := by
      cases kind <;> simp only [build, rayGeneration, miss, hit, shadow, callback, hd] <;> rfl
    rw [nothing]
    rfl
  | ok d =>
    cases hv : c.variant with
    | ok v => exact tablesAgree_of_asks (asks_build hd hv kind) (tablesAgree_requests c v kind) t
    | error f =>
      cases kind with
      | rayGeneration =>
        exact tablesAgree_of_asks (asks_rayGeneration hd) (tablesAgree_requests c default _) t
      | callback m =>
        exact tablesAgree_of_asks (asks_callback hd m) (tablesAgree_requests c default _) t
      | hit group =>
        -- the only program that asks before it looks at the variant
        exact tablesAgree_hit_of_error hd hv group t
      | miss | shadowHit | shadowMiss =>
        simp only [build, miss, shadow, hd, hv]
        rfl

/-! ### The database of area lights -/

/-- Only the expressions of area lights in whole tables have the name of the database. -/
theorem whole_of_mentions {restricted : Bool} {p : String × Object} {entry : String × String}
    (h : Stock.Light.IsEntry c restricted p entry) (mentioned : Mentions entry.2 "dtb") :
    restricted = false := by
  obtain ⟨light, -, expresses⟩ := h.expresses
  by_contra whole
  exact Text.not_mentions_of_not_mem (c := 'b') (by decide)
    (fun mem => whole (expresses.no_b mem).2) mentioned

/-- The line that binds the scene database. -/
def databaseLine : String := "  let dtb = device.load_scene_database();"

/-- The table of the program is made of the stock lights, and where a light reads the scene
database, a line of the program before that of the light binds the database. -/
def ReadsBound (c : Context) (restricted : Bool) (t u : ShadingTree) (o : Outline) (p : Program) :
    Prop :=
  ∀ text, o.lights = some text → ∃ T : LightTable, T.text = text ∧ T.IsMade c restricted t u ∧
    T.entries.map (·.1) = c.scene.lights.names ∧
    ∀ (i : Nat) (name expr : String), T.entries[i]? = some (name, expr) → Mentions expr "dtb" →
      Text.Precedes databaseLine (Stock.lightCode i expr) (Text.lines p.text)

/-- A light stands in its table on a line of its own. -/
theorem lightCode_mem {T : LightTable} {i : Nat} {name expr : String}
    (stands : T.entries[i]? = some (name, expr)) (line : Text.IsLine expr) :
    ∃ comment, Stock.lightCode i expr ++ comment ∈ Text.lines T.text := by
  obtain ⟨comment, first⟩ := Stock.lines_lightContent i line name
  refine ⟨comment, ?_⟩
  rw [LightTable.text, Stock.lines_lightTable_eq]
  refine List.mem_append_right _ (List.mem_append_left _ (List.mem_flatMap.mpr
    ⟨((name, expr), i), List.mem_zipIdx_iff_getElem?.mpr stands, ?_⟩))
  rw [first]
  exact List.mem_cons_self ..

/-- A program of lights that read the database binds it. -/
theorem bindsDatabase_of_whole (uses : v.usesLights = true) (whole : hasDatabase v kind = true) :
    bindsDatabase v kind = true := by
  cases kind with
  | hit => rfl
  | rayGeneration | miss | shadowHit | shadowMiss | callback => simp [bindsDatabase, uses, whole]

theorem readsBound_of_outlined (lights : e.lights = Emitters.stock.lights)
    (database : e.database = Emitters.stock.database) {t' u : ShadingTree} {o : Outline} {p : Program}
    (h : Outlined e c v kind t u t' o p) : ReadsBound c (!hasDatabase v kind) t u o p := by
  intro text present
  have fromLights := h.lights
  unfold Outline.LightsFrom at fromLights
  split at fromLights
  · rename_i uses
    obtain ⟨table, answered, table_eq⟩ := fromLights
    obtain rfl : table = text := Option.some.inj (table_eq.symm.trans present)
    rw [lights] at answered
    obtain ⟨w, entries, buffers, made, declares, rfl⟩ := Stock.lights_step_eq_ok.mp answered
    obtain ⟨-, each⟩ := Stock.Light.adds_entries _ _ _ _ _ made
    refine ⟨⟨buffers, entries⟩, rfl, ⟨w, made, declares⟩, Stock.Light.names_of_entries each,
      fun i name expr stands mentioned => ?_⟩
    obtain ⟨lt, found⟩ := List.getElem?_eq_some_iff.mp stands
    have isEntry := each.get (i := i) (each.length_eq ▸ lt) lt
    simp only [List.get_eq_getElem, found] at isEntry
    have whole : hasDatabase v kind = true := by simpa using whole_of_mentions isEntry mentioned
    have line := Stock.Light.gives_entries _ _ _ _ _ made (name, expr) (List.mem_of_getElem? stands)
    obtain ⟨comment, light⟩ := lightCode_mem (T := ⟨buffers, entries⟩) stands line
    have bound : databaseLine ∈ Text.lines e.database := by rw [database]; decide
    -- the database and the table stand behind each other in the body
    have body : Text.Precedes databaseLine (Stock.lightCode i expr)
        (Text.lines e.database ++ Text.lines (lightTable buffers entries)) := .of_mem bound light
    apply Program.precedes_text
    have lines : (o.lightLines e v kind).flatMap Fragment.lines
        = Text.lines e.database ++ Text.lines (lightTable buffers entries) := by
      rw [Outline.lightLines, if_pos (bindsDatabase_of_whole uses whole), table_eq]
      simp [Fragment.lines, Fragment.content]
    rw [h.body_eq, Outline.body, List.flatMap_append, List.flatMap_append, List.flatMap_append, lines]
    exact ((body.append_right _).append_left _).append_right _
  · rw [fromLights.1] at present
    cases present

/-- **Whole and restricted tables.** Where the whole table of lights of a context is made
on a new tree, the restricted one is, and it differs by the light without effect in the
places of area lights only. Whatever the collaborators, a program asks for a whole table
exactly if it has asked for the scene database before, and gets the table behind it. So
with the stock lights no light of a program reads the database where it is not bound. -/
theorem light_tables_agree :
    (∀ (c : Context) t text, (Stock.lights c false).step .empty = (t, .ok text) →
      ∃ full T t', full.text = text ∧ LightTable.IsMade c false .empty full t ∧
        (Stock.lights c true).step .empty = (t', .ok T.text) ∧
        LightTable.IsMade c true .empty T t' ∧ LightTable.Restricts c full T) ∧
    (∀ (e : Emitters) (c : Context) kind t before restricted after,
      ((build e c kind).runOn t).requests = before ++ .lights restricted :: after →
        (restricted = false ↔ .database ∈ before)) ∧
    ∀ (e : Emitters) (c : Context) kind t t' p, shades kind = true →
      (build e c kind).step t = (t', .ok p) →
        ∃ v o u, c.variant = .ok v ∧ Outlined e c v kind t u t' o p ∧
          (e.lights = Emitters.stock.lights → e.database = Emitters.stock.database →
            ReadsBound c (!hasDatabase v kind) t u o p) := by
  refine ⟨fun c t text => Stock.lights_restricts,
    fun e c kind t before restricted after asked => ?_, fun e c kind t t' p hk built => ?_⟩
  · have agree := tablesAgree_build e c kind t
    rw [asked] at agree
    simpa using whole_iff_of_tablesAgree agree
  · obtain ⟨v, o, u, selected, outlined⟩ := outlined_build hk built
    exact ⟨v, o, u, selected, outlined,
      fun lights database => readsBound_of_outlined lights database outlined⟩

/-- A scene with a lamp whose texture no other light names. -/
def lampScene : Scene :=
  let image := (Object.ofKind "image").withProperty "filename" (.string "glow.png")
  let lamp := ((Object.ofKind "area").withProperty "entity" (.string "panel")).withProperty
    "radiance" (.string "glow")
  (((Scene.empty.addTexture "glow" image).addLight "lamp" lamp).addLight "sun"
    (Object.ofKind "directional")).addEntity "panel" (Object.ofKind "default")

theorem lampScene_made :
    ∃ c t text t' p, (Context.load Stock.describe lampScene .standard).result = .ok c ∧
      (Stock.lights c false).step .empty = (t, .ok text) ∧
      (build .stock (c.prepare ⟨1, 1⟩ 0) .shadowHit).step .empty = (t', .ok p) := by
  have made : ((Context.load Stock.describe lampScene .standard).bind fun c =>
      ((Stock.lights c false).runOn .empty).bind fun _ =>
        (build .stock (c.prepare ⟨1, 1⟩ 0) .shadowHit).runOn .empty).result.isOk = true := by
    decide +kernel
  obtain ⟨p, h⟩ := exists_of_isOk made
  obtain ⟨c, loaded, h⟩ := Run.bind_eq_ok.mp h
  obtain ⟨text, table, built⟩ := Run.bind_eq_ok.mp h
  exact ⟨c, _, text, _, p, loaded, Prod.ext rfl table, Prod.ext rfl built⟩

theorem lamp_restricted_and_bound :
    ∃ c t text full T p v o u, (Context.load Stock.describe lampScene .standard).result = .ok c ∧
      (Stock.lights c false).step .empty = (t, .ok text) ∧ full.text = text ∧
      LightTable.Restricts c full T ∧ T.entries[0]? = some ("lamp", "make_null_light()") ∧
      ((build .stock (c.prepare ⟨1, 1⟩ 0) .shadowHit).step .empty).2 = .ok p ∧
      p.body = o.body .stock (c.prepare ⟨1, 1⟩ 0) v .shadowHit ∧
      ReadsBound (c.prepare ⟨1, 1⟩ 0) (!hasDatabase v .shadowHit) .empty u o p := by
  obtain ⟨c, t, text, t', p, loaded, made, built⟩ := lampScene_made
  obtain ⟨full, T, _, whole, -, -, -, restricts⟩ := light_tables_agree.1 c t text made
  obtain ⟨v, o, u, -, outlined, bound⟩ :=
    light_tables_agree.2.2 .stock (c.prepare ⟨1, 1⟩ 0) .shadowHit _ _ p rfl built
  have scene : c.scene = lampScene := (Context.load_ok loaded).scene_eq
  have first : ∃ entry, full.entries[0]? = some entry := by
    have names := restricts.full_names
    rw [scene] at names
    cases entries : full.entries with
    | nil =>
      rw [entries] at names
      exact absurd names (by decide +kernel)
    | cons entry rest => exact ⟨entry, rfl⟩
  obtain ⟨entry, listed⟩ := first
  have lamp : ∃ lamp, lamp.1 = "lamp" ∧ lamp.2.kind = "area" ∧
      c.scene.lights.entries[0]? = some lamp := by
    rw [scene]
    exact ⟨_, rfl, rfl, rfl⟩
  obtain ⟨lamp, name, kind, stands⟩ := lamp
  have null := restricts.expr 0 lamp entry stands listed
  rw [name, if_pos kind] at null
  exact ⟨c, t, text, full, T, p, v, o, u, loaded, made, whole, restricts, null,
    congrArg Prod.snd built, outlined.body_eq, bound rfl rfl⟩

end Generation

end RayShader
