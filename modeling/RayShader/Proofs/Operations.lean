import RayShader.Proofs.Registration
import RayShader.Proofs.Requests
import RayShader.Stock.Emitters

/-!
# Contexts under operations

A context is constructed from a scene, the description of a technique and options, and
then operations act on it. What an operation may change is said once (`perform_eq`): the
numbers of images and textures, the database, and the selection, which stays one of the
technique. All that is so of a context at its construction and does not speak of these
three is so after any sequence of operations.

Generating goes through the variants by selecting them, and its last act is to select the
variant of before. As the selection is in range, this puts the whole context back,
wherever the generation stopped; and as the first act is to select the first variant, the
selection of before has no part in what comes of it.
-/

namespace RayShader

open Technique (VariantInfo)

/-! ### Construction -/

namespace Context

variable {scene : Scene} {technique : Technique.Info} {options : Options} {c c' : Context}

/-- The context is constructed from the scene, the description of the technique and the
options: the description is given, or comes from a collaborator while the scene is loaded. -/
inductive Constructed (scene : Scene) (technique : Technique.Info) (options : Options)
    (c : Context) : Prop where
  /-- The description is given. -/
  | given (made : (ofScene scene technique options).result = .ok c)
  /-- A collaborator describes the technique. -/
  | loaded {describe : String → Scene → Run Technique.Info}
    (described : (describe (resolveTechnique scene options) scene).result = .ok technique)
    (made : (load describe scene options).result = .ok c)

/-- The selected variant is one of the technique; where there is none, the selection is
the first place. -/
def InRange (c : Context) : Prop :=
  c.selected < c.technique.count ∨ c.selected = 0 ∧ c.technique.count = 0

/-- The contexts agree in all but the registry, the selection and the database. -/
def Agrees (c c' : Context) : Prop :=
  c' = { c with registry := c'.registry, selected := c'.selected, database := c'.database }

theorem Agrees.refl (c : Context) : c.Agrees c := rfl

theorem Agrees.trans {c'' : Context} (h : c.Agrees c') (h' : c'.Agrees c'') : c.Agrees c'' := by
  rw [Agrees] at h h' ⊢
  rw [h', h]

/-- What is so of a context of the scene, the technique and the options at any time. -/
structure Sound (scene : Scene) (technique : Technique.Info) (options : Options) (c : Context) :
    Prop where
  /-- The scene is that of the construction. -/
  scene_eq : c.scene = scene
  /-- The target is that of the options. -/
  target_eq : c.target = options.target
  /-- The technique is described as at the construction. -/
  technique_eq : c.technique = technique
  /-- The film is as wide as the options say. -/
  filmWidth_eq : c.filmWidth = options.filmWidth
  /-- The film is as high as the options say. -/
  filmHeight_eq : c.filmHeight = options.filmHeight
  /-- The entities are counted. -/
  entityCount_eq : c.entityCount = c.scene.entities.size
  /-- There is a sample. -/
  one_le_samples : 1 ≤ c.samples
  /-- The samples are a 32-bit integer. -/
  samples_le : c.samples ≤ 0x7FFFFFFF
  /-- The selection is in range. -/
  inRange : c.InRange

theorem ofScene_sound (h : (ofScene scene technique options).result = .ok c) :
    Sound scene technique options c := by
  unfold ofScene at h
  by_cases bad : options.samples.toNat = 0 ∨ maxSamples < options.samples.toNat
  · simp only [if_pos bad] at h
    cases h
  · have samples : 1 ≤ options.samples.toNat ∧ options.samples.toNat ≤ 0x7FFFFFFF := by
      rw [maxSamples] at bad
      omega
    have selection : 0 < technique.count ∨ 0 = 0 ∧ technique.count = 0 := by omega
    simp only [if_neg bad] at h
    cases empty : technique.variants.isEmpty with
    | true =>
      rw [empty, if_pos rfl] at h
      obtain rfl := Except.ok.inj h
      exact ⟨rfl, rfl, rfl, rfl, rfl, rfl, samples.1, samples.2, selection⟩
    | false =>
      rw [empty, if_neg (by decide)] at h
      obtain rfl := Except.ok.inj h
      exact ⟨rfl, rfl, rfl, rfl, rfl, rfl, samples.1, samples.2, selection⟩

/-- A context that agrees with a sound one is sound if its selection is in range. -/
theorem Sound.of_agrees (h : Sound scene technique options c) (agrees : c.Agrees c')
    (inRange : c'.InRange) : Sound scene technique options c' := by
  rw [Agrees] at agrees
  refine ⟨?_, ?_, ?_, ?_, ?_, ?_, ?_, ?_, inRange⟩ <;> rw [agrees]
  · exact h.scene_eq
  · exact h.target_eq
  · exact h.technique_eq
  · exact h.filmWidth_eq
  · exact h.filmHeight_eq
  · exact h.entityCount_eq
  · exact h.one_le_samples
  · exact h.samples_le

/-! ### Registering textures -/

/-- The stage changes nothing but the registry, whatever comes of it. -/
def OnlyRegisters {α : Type} (x : Stage Context α) : Prop :=
  ∀ c, ∃ r, (x c).1 = { c with registry := r }

namespace OnlyRegisters

variable {α β : Type}

theorem of_keeps {x : Stage Context α} (h : x.Keeps) : OnlyRegisters x :=
  fun c => ⟨c.registry, h c⟩

theorem bind {x : Stage Context α} {f : α → Stage Context β} (hx : OnlyRegisters x)
    (hf : ∀ a, OnlyRegisters (f a)) : OnlyRegisters (x.bind f) := by
  intro c
  obtain ⟨r, reached⟩ := hx c
  rcases ran : x c with ⟨d, events, e | a⟩
  · rw [ran] at reached
    rw [Stage.bind_of_error ran]
    exact ⟨r, reached⟩
  · rw [ran] at reached
    rw [Stage.bind_of_ok ran]
    obtain ⟨r', reached'⟩ := hf a d
    exact ⟨r', by rw [reached', show d = _ from reached]⟩

theorem registerTexture (name : String) (o : Object) :
    OnlyRegisters (Context.registerTexture name o) := by
  unfold Context.registerTexture
  by_cases kind : o.kind = "image"
  · rw [if_neg (by simpa using kind)]
    refine .bind (.of_keeps fun _ => rfl) fun c => .bind (.of_keeps (.ofRun _)) fun _ =>
      .bind (fun d => ⟨_, rfl⟩) fun _ => .of_keeps (.ofRun _)
  · rw [if_pos kind]
    exact .of_keeps (.ofRun _)

theorem registerAll (textures : List (String × Object)) :
    OnlyRegisters (Context.registerAll textures) := by
  induction textures with
  | nil => exact .of_keeps fun _ => rfl
  | cons p rest ih => exact .bind (registerTexture p.1 p.2) fun _ => ih

theorem registerTextures : OnlyRegisters Context.registerTextures :=
  fun c => registerAll c.scene.textures.entries c

end OnlyRegisters

theorem load_sound {describe : String → Scene → Run Technique.Info}
    (described : (describe (resolveTechnique scene options) scene).result = .ok technique)
    (h : (load describe scene options).result = .ok c) : Sound scene technique options c := by
  obtain ⟨_, -, h⟩ := Run.bind_eq_ok.mp h
  obtain ⟨technique', described', h⟩ := Run.bind_eq_ok.mp h
  obtain rfl : technique = technique' := Except.ok.inj (described.symm.trans described')
  obtain ⟨d, made, h⟩ := Run.bind_eq_ok.mp h
  obtain ⟨⟨⟩, -, h⟩ := Run.bind_eq_ok.mp h
  have reached : (registerTextures d).1 = c := Except.ok.inj h
  obtain ⟨r, registered⟩ := OnlyRegisters.registerTextures d
  rw [reached] at registered
  subst registered
  exact (ofScene_sound made).of_agrees rfl (ofScene_sound made).inRange

theorem Constructed.sound (h : Constructed scene technique options c) :
    Sound scene technique options c := by
  cases h with
  | given made => exact ofScene_sound made
  | loaded described made => exact load_sound described made

end Context

/-! ### Generating puts the selection back -/

namespace Generation

variable {e : Emitters} {c : Context}

/-- Going through variants changes nothing but the selection, and selects variants that are
there. -/
theorem state_variantsFrom (n index : Nat) :
    ∃ i, (variantsFrom e index n c).1 = { c with selected := i } ∧
      (i = c.selected ∨ i < c.technique.count) := by
  induction n generalizing index c with
  | zero => exact ⟨c.selected, rfl, .inl rfl⟩
  | succ n ih =>
    by_cases in_range : index < c.technique.count
    · obtain ⟨i, later, known⟩ := ih (c := { c with selected := index }) (index + 1)
      rw [variantsFrom_succ in_range]
      rcases variant e { c with selected := index } with ⟨events, f | programs⟩
      · exact ⟨index, rfl, .inr in_range⟩
      · refine ⟨i, (Stage.state_bind_pure _ (programs :: ·) _).trans later, .inr ?_⟩
        rcases known with rfl | lt
        · exact in_range
        · exact lt
    · refine ⟨c.selected, ?_, .inl rfl⟩
      show ((Stage.ofExcept (c.select index)).bind _ c).1 = c
      rw [Context.select, if_neg in_range]
      rfl

theorem state_all_eq (e : Emitters) (c : Context) : (all e c).1
    = restore c.selected (all e c).2.result (variantsFrom e 0 c.technique.count c).1 := by
  have restored : (all e c).1 = restore c.selected
      (report _ (variantsFrom e 0 c.technique.count c).2).result
      (variantsFrom e 0 c.technique.count c).1 := rfl
  rw [restored, result_report, result_all_eq]

/-- Generating all variants changes nothing but the selection, and selects variants that are
there. -/
theorem state_all (e : Emitters) (c : Context) :
    ∃ i, (all e c).1 = { c with selected := i } ∧ (i = c.selected ∨ i < c.technique.count) := by
  obtain ⟨i, reached, known⟩ := state_variantsFrom (e := e) (c := c) c.technique.count 0
  rw [state_all_eq, reached]
  unfold restore
  split
  · exact ⟨i, rfl, known⟩
  · split
    · exact ⟨c.selected, rfl, .inl rfl⟩
    · exact ⟨i, rfl, known⟩
  · split
    · exact ⟨c.selected, rfl, .inl rfl⟩
    · exact ⟨i, rfl, known⟩

/-- Generating all variants, with or without success, leaves a context whose selection is in
range as it was. -/
theorem state_all_of_not_fault (h : c.InRange)
    (ends : ∀ f, (all e c).2.result ≠ .error (.fault f)) : (all e c).1 = c := by
  obtain ⟨i, reached, -⟩ := state_variantsFrom (e := e) (c := c) c.technique.count 0
  have restored : (all e c).1 = if c.selected < c.technique.count then c
      else (variantsFrom e 0 c.technique.count c).1 := by
    rw [state_all_eq, reached]
    unfold restore
    split
    · rename_i f failed
      exact absurd failed (ends f)
    · rfl
    · rfl
  rw [restored]
  rcases h with lt | ⟨first, none⟩
  · exact if_pos lt
  · rw [if_neg (by omega), none]
    rfl

/-- The selection of before has no part in the generation of all variants. -/
theorem all_select (i : Nat) : (all e { c with selected := i }).2 = (all e c).2 := by
  cases count : c.technique.count with
  | zero =>
    simp only [all, count]
    rfl
  | succ n =>
    have same : variantsFrom e 0 (n + 1) { c with selected := i } = variantsFrom e 0 (n + 1) c := by
      have first : 0 < c.technique.count := by omega
      rw [variantsFrom_succ first, variantsFrom_succ (c := { c with selected := i }) first]
    simp only [all, count, same]

/-! ### Faults -/

/-- The fault is the answer of a collaborator that was asked for a part of a program in the
context with one of its variants selected. -/
def Answers (e : Emitters) (c : Context) (f : Fault) : Prop :=
  ∃ index v asked r, c.technique.variants[index]? = some v ∧
    e.Refuses { c with selected := index } asked r (.fault f)

theorem refuses_of_failure {programs : List (Context × List Event.Request)} {f : Failure}
    (h : (e.inquireAll programs).failure = some f) :
    ∃ p ∈ programs, ∃ asked r, e.Refuses p.1 asked r f := by
  rcases Emitters.follows_inquireAll (e := e) programs with
    all | ⟨before, c', asked, r, later, after, f', rfl, -, refuses, stopped⟩
  · rw [all] at h
    cases h
  · rw [stopped] at h
    obtain rfl := Option.some.inj h
    exact ⟨(c', asked ++ r :: later), by simp, asked, r, refuses⟩

/-- Generating a variant that is there ends with a fault only if a collaborator answers
with it: the generator itself never looks for a variant that is not there. -/
theorem answers_of_variant {v : VariantInfo} {f : Fault}
    (hv : c.technique.variants[c.selected]? = some v)
    (h : (variant e c).result = .error (.fault f)) : Answers e c f := by
  have selected : c.variant = .ok v := by rw [Context.variant, hv]
  have failed : (variant e c).inquiry.failure = some (.fault f) := by
    rw [Run.inquiry, h]
    rfl
  cases hd : c.database with
  | none =>
    have missing : (variant e c).result = .error (.error .databaseMissing) := by
      rw [variant, Context.requireDatabase, hd]
      rfl
    rw [missing] at h
    cases h
  | some d =>
    rw [inquiry_variant (d := d) (by rw [Context.requireDatabase, hd]) selected] at failed
    obtain ⟨p, hp, asked, r, refuses⟩ := refuses_of_failure failed
    obtain ⟨kind, -, rfl⟩ := List.mem_map.mp hp
    exact ⟨c.selected, v, asked, r, hv, refuses⟩

theorem answers_of_task {index : Nat} {f : Fault} (lt : index < c.technique.count)
    (h : (task e c index).result = .error (.fault f)) : Answers e c f := by
  rw [task_eq lt] at h
  exact answers_of_variant (c := { c with selected := index }) (List.getElem?_eq_getElem lt) h

/-- Generating in either way ends with a fault only if a collaborator answers with it. -/
theorem answers_of_all {f : Fault} (h : (all e c).2.result = .error (.fault f)) :
    Answers e c f := by
  rw [result_all] at h
  obtain ⟨index, mem, failed⟩ := FailsOnly.mapM
    (P := fun f => ∃ index ∈ List.range c.technique.count, (task e c index).result = .error f)
    (fun index mem _ failed => ⟨index, mem, failed⟩) _ h
  exact answers_of_task (List.mem_range.mp mem) failed

theorem answers_of_byTasks {order : List Nat} {f : Fault}
    (ho : ∀ index ∈ order, index < c.technique.count)
    (h : (byTasks e c order).result = .error (.fault f)) : Answers e c f := by
  rw [result_byTasks] at h
  obtain ⟨index, lt, failed⟩ := failsOnly_collect ho _ h
  exact answers_of_task lt failed

end Generation

/-! ### Operations -/

namespace Context

variable {scene : Scene} {technique : Technique.Info} {options : Options} {c c₀ : Context}

/-- What a caller may do with a context. -/
inductive Operation where
  /-- Selects a variant. -/
  | select (index : Nat)
  /-- Gives the scene database. -/
  | setDatabase (d : Scene.Database)
  /-- Registers an image. -/
  | registerImage (path : String)
  /-- Registers a texture on the buffer of its image. -/
  | registerTexture (name : String) (buffer : Nat) (average : Vec3)
  /-- Registers the image textures of the scene. -/
  | registerTextures
  /-- Generates the selected variant. -/
  | generateVariant (e : Emitters)
  /-- Generates every variant, one after the other. -/
  | generate (e : Emitters)
  /-- Generates every variant by a task of its own. -/
  | generateByTasks (e : Emitters) (order : List Nat)

/-- Does it. What an operation gives beside the context is left out. -/
def Operation.perform : Operation → Stage Context Unit
  | select index => do
    let c ← Stage.get
    let c ← Stage.ofExcept (c.select index)
    Stage.modify fun _ => c
  | setDatabase d => Stage.modify ({ · with database := some d })
  | registerImage path =>
    Stage.modify fun c => { c with registry := (c.registry.registerImage path).1 }
  | registerTexture name buffer average =>
    Stage.modify fun c => { c with registry := (c.registry.registerTexture name buffer average).1 }
  | registerTextures => Context.registerTextures
  | generateVariant e => do
    let c ← Stage.get
    let _ ← Stage.ofRun (Generation.variant e c)
  | generate e => do
    let _ ← Generation.all e
  | generateByTasks e order => do
    let c ← Stage.get
    let _ ← Stage.ofRun (Generation.byTasks e c order)

/-- The context after operations, of which some may have failed. -/
def after (c : Context) (ops : List Operation) : Context :=
  ops.foldl (fun c op => (op.perform c).1) c

/-- A variant that is not there is not selected, and nothing changes. -/
theorem perform_select_of_not_lt {index : Nat} (h : ¬ index < c.technique.count) :
    (Operation.select index).perform c
      = (c, ⟨[], .error (.fault (.variantOutOfRange index c.technique.count))⟩) := by
  simp only [Operation.perform, Stage.bind_eq, Stage.get_bind, select, if_neg h]
  rfl

/-- What an operation does to a context: it may change the registry and the database, and select
a variant of the technique. -/
theorem perform_eq (op : Operation) :
    ∃ r i d, (op.perform c).1 = { c with registry := r, selected := i, database := d } ∧
      (i = c.selected ∨ i < c.technique.count) := by
  cases op with
  | select index =>
    by_cases lt : index < c.technique.count
    · have selected : (Operation.select index).perform c
          = ({ c with selected := index }, ⟨[], .ok ()⟩) := by
        simp only [Operation.perform, Stage.bind_eq, Stage.get_bind, select, if_pos lt]
        rfl
      exact ⟨c.registry, index, c.database, by rw [selected], .inr lt⟩
    · exact ⟨c.registry, c.selected, c.database, by rw [perform_select_of_not_lt lt], .inl rfl⟩
  | setDatabase d => exact ⟨c.registry, c.selected, some d, rfl, .inl rfl⟩
  | registerImage path => exact ⟨_, c.selected, c.database, rfl, .inl rfl⟩
  | registerTexture name buffer average => exact ⟨_, c.selected, c.database, rfl, .inl rfl⟩
  | registerTextures =>
    obtain ⟨r, reached⟩ := OnlyRegisters.registerTextures c
    exact ⟨r, c.selected, c.database, reached, .inl rfl⟩
  | generateVariant e =>
    refine ⟨c.registry, c.selected, c.database, ?_, .inl rfl⟩
    exact Stage.state_bind_pure (Stage.ofRun (Generation.variant e c)) (fun _ => ()) c
  | generate e =>
    obtain ⟨i, reached, known⟩ := Generation.state_all e c
    refine ⟨c.registry, i, c.database, ?_, known⟩
    exact (Stage.state_bind_pure (Generation.all e) (fun _ => ()) c).trans reached
  | generateByTasks e order =>
    refine ⟨c.registry, c.selected, c.database, ?_, .inl rfl⟩
    exact Stage.state_bind_pure (Stage.ofRun (Generation.byTasks e c order)) (fun _ => ()) c

/-- An operation keeps the selection in range and leaves the rest of the context alone. -/
theorem agrees_perform (op : Operation) (h : c.InRange) :
    c.Agrees (op.perform c).1 ∧ (op.perform c).1.InRange := by
  obtain ⟨r, i, d, reached, same | lt⟩ := perform_eq op
  · rw [reached, same]
    exact ⟨rfl, h⟩
  · rw [reached]
    exact ⟨rfl, .inl lt⟩

/-- Operations keep the selection in range and leave the rest of the context alone. -/
theorem agrees_after (ops : List Operation) (h : c.InRange) :
    c.Agrees (c.after ops) ∧ (c.after ops).InRange := by
  induction ops generalizing c with
  | nil => exact ⟨.refl c, h⟩
  | cons op ops ih =>
    obtain ⟨first, inRange⟩ := agrees_perform op h
    obtain ⟨rest, inRange⟩ := ih inRange
    exact ⟨first.trans rest, inRange⟩

theorem variant_of_inRange (h : c.InRange) (hv : c.technique.variants ≠ []) :
    ∃ v, c.technique.variants[c.selected]? = some v := by
  have some_variant : 0 < c.technique.count := List.length_pos_iff.mpr hv
  rcases h with lt | ⟨-, none⟩
  · exact ⟨_, List.getElem?_eq_getElem lt⟩
  · omega

/-- **Contexts stay sound under operations.** Whatever was done with a context since its
construction, and whatever failed: the selection is in range, the samples are a positive
32-bit integer, the entities are counted, and all but the registry, the selection and the
database is as it was constructed. So the selected variant is there if the technique has
any, and no generation looks for one that is not: it ends with a fault only if a
collaborator answers with it. And generating all variants leaves the context as it was,
whether it succeeds or ends with an error, and wherever it stops; after a fault it is as it
was but for the selection. What comes of it does not depend on the selection of before. -/
theorem sound_after_operations (constructed : Constructed scene technique options c₀)
    (ops : List Operation) (reached : c₀.after ops = c) :
    Sound scene technique options c ∧ c₀.Agrees c ∧
      (∀ index, ¬ index < c.technique.count → (Operation.select index).perform c
        = (c, ⟨[], .error (.fault (.variantOutOfRange index c.technique.count))⟩)) ∧
      (c.technique.variants ≠ [] → (∃ v, c.variant = .ok v) ∧ ∀ e f,
        (Generation.variant e c).result = .error (.fault f) ∨
          (Generation.all e c).2.result = .error (.fault f) ∨
          (∃ order, (∀ index ∈ order, index < c.technique.count) ∧
            (Generation.byTasks e c order).result = .error (.fault f)) →
        Generation.Answers e c f) ∧
      ∀ e, ((∀ f, (Generation.all e c).2.result ≠ .error (.fault f)) → (Generation.all e c).1 = c) ∧
        (∃ i, (Generation.all e c).1 = { c with selected := i }) ∧
        ∀ i, (Generation.all e { c with selected := i }).2 = (Generation.all e c).2 := by
  have sound₀ := constructed.sound
  obtain ⟨agrees, inRange⟩ := agrees_after ops sound₀.inRange
  rw [reached] at agrees inRange
  have kept (e : Emitters) : ∃ i, (Generation.all e c).1 = { c with selected := i } :=
    (Generation.state_all e c).imp fun _ => And.left
  refine ⟨sound₀.of_agrees agrees inRange, agrees, fun _ => perform_select_of_not_lt,
    fun some_variant => ?_,
    fun e => ⟨Generation.state_all_of_not_fault inRange, kept e, Generation.all_select⟩⟩
  obtain ⟨v, hv⟩ := variant_of_inRange inRange some_variant
  refine ⟨⟨v, by rw [variant, hv]⟩, ?_⟩
  rintro e f (failed | failed | ⟨order, ho, failed⟩)
  · exact Generation.answers_of_variant hv failed
  · exact Generation.answers_of_all failed
  · exact Generation.answers_of_byTasks ho failed

/-- A technique whose second variant has a callback. -/
def callbackTechnique : Technique.Info :=
  ⟨[default, .ofFeatures [.beforeIterationCallback]], []⟩

/-- A selection, one that fails, and generations that fail before and after the database is
there, as the technique has no callback that the stock technique knows. -/
def eventful : List Operation :=
  [.select 1, .generate .stock, .select 9, .setDatabase ⟨0, 0⟩, .registerImage "wood.png",
    .generate .stock, .generateVariant .stock]

theorem eventful_keeps_selection :
    ∃ c₀ c, Constructed .empty callbackTechnique .standard c₀ ∧ c₀.after eventful = c ∧
      Sound .empty callbackTechnique .standard c ∧ c.selected = 1 ∧
      (∃ x, (Generation.all .stock c).2.result = .error (.error x)) ∧
      (Generation.all .stock c).1 = c := by
  have made : ((ofScene .empty callbackTechnique .standard).bind fun c₀ =>
      pure ((c₀.after eventful).selected,
        failure? (Generation.all .stock (c₀.after eventful)).2.result)).result
      = .ok (1, some (.error (.unsupportedKind "callback" "path" "technique"))) := by
    decide +kernel
  obtain ⟨c₀, constructed, found⟩ := Run.bind_eq_ok.mp made
  obtain ⟨selected, failed⟩ := Prod.mk.inj (Except.ok.inj found)
  have ended := failure?_eq_some.mp failed
  obtain ⟨sound, -, -, -, generates⟩ := sound_after_operations (.given constructed) eventful rfl
  exact ⟨c₀, _, .given constructed, rfl, sound, selected, ⟨_, ended⟩,
    (generates .stock).1 (by simp [ended])⟩

end Context

end RayShader
