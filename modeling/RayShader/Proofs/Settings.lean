import RayShader.Options.Codec
import RayShader.Technique.Codec
import RayShader.Proofs.FeatureText
import RayShader.Proofs.JsonText

/-!
# Serialised settings are read back

Options, targets and the descriptions of techniques and variants are written as records
and read back as they were. A record may lack fields: what is read then is the value with
exactly these fields at their defaults, and so it is for the records inside a record.
-/

namespace RayShader

/-! ### Records with missing fields -/

namespace Json

/-- The object without the entries of some names. -/
def without (gone : String → Bool) : Json → Json
  | .object es => .object (es.filter fun e => !e.1.any gone)
  | j => j

/-- The object with a change to the value under a name. -/
def change (name : String) (f : Json → Json) : Json → Json
  | .object es => .object (es.map fun e => (e.1, if e.1 = some name then f e.2 else e.2))
  | j => j

/-- The list with a change to every item, which may depend on the position. -/
def changeItems (f : Nat → Json → Json) : Json → Json
  | .array xs => .array (xs.mapIdx f)
  | j => j

/-- The entries that stay. -/
def remaining (gone : String → Bool) (es : List (String × Json)) : List (String × Json) :=
  es.filter fun e => !gone e.1

variable {gone : String → Bool} {es : List (String × Json)} {names : List String}

theorem without_record (gone : String → Bool) (es : List (String × Json)) :
    (record es).without gone = record (remaining gone es) := by
  simp [record, without, remaining, List.filter_map, Function.comp_def]

theorem change_record (name : String) (f : Json → Json) (es : List (String × Json)) :
    (record es).change name f = record (es.map fun e => (e.1, if e.1 = name then f e.2 else e.2)) := by
  simp [record, change]

theorem without_nothing (j : Json) : j.without (fun _ => false) = j := by
  cases j <;> simp [without]

theorem change_nothing (name : String) (j : Json) : j.change name (fun j => j) = j := by
  cases j <;> simp [change]

theorem mapIdx_nothing {α : Type} (as : List α) : as.mapIdx (fun _ a => a) = as :=
  List.ext_getElem (by simp) (by simp)

theorem changeItems_nothing (j : Json) : j.changeItems (fun _ j => j) = j := by
  cases j <;> simp [changeItems, mapIdx_nothing]

theorem writable_without (h : ∀ e ∈ es, e.2.Writable) : ((record es).without gone).Writable := by
  rw [without_record]
  exact .record fun e he => h e (List.mem_filter.mp he).1

/-- The fields of a record are found whichever of them are missing. -/
theorem fields?_without (known : es.map (·.1) = names) (distinct : names.Nodup) :
    ((record es).without gone).fields? names = some (remaining gone es) := by
  rw [without_record]
  refine known?_fieldsOf ?_ fun e he => ?_
  · exact (known ▸ distinct).sublist (List.filter_sublist.map _)
  · rw [← known]
    exact List.mem_map_of_mem (List.mem_filter.mp he).1

theorem lookup_remaining (gone : String → Bool) (es : List (String × Json)) (name : String) :
    (remaining gone es).lookup name = if gone name then none else es.lookup name := by
  induction es with
  | nil => simp [remaining]
  | cons e es ih =>
    obtain ⟨k, x⟩ := e
    rw [remaining] at ih
    by_cases missing : gone k
    · rw [remaining, List.filter_cons_of_neg (by simp [missing]), ih, List.lookup_cons]
      by_cases same : name = k
      · rw [same, if_pos missing, if_pos missing]
      · rw [beq_eq_false_iff_ne.mpr same]
    · rw [remaining, List.filter_cons_of_pos (by simp [missing]), List.lookup_cons, ih, List.lookup_cons]
      by_cases same : name = k
      · simp [same, missing]
      · rw [beq_eq_false_iff_ne.mpr same]

/-- A missing field has its default, and every other one the value that it has. -/
theorem field?_remaining {α : Type} {name : String} {decode? : Json → Option α} {default v : α}
    (gone : String → Bool) (h : field? es name decode? default = some v) :
    field? (remaining gone es) name decode? default = some (if gone name then default else v) := by
  rw [field?, lookup_remaining]
  by_cases missing : gone name
  · rw [if_pos missing, if_pos missing]
  · rw [if_neg missing, if_neg missing]
    exact h

/-- Decoding goes on with the default of a missing field, and with the value of another. -/
theorem bind_field? {α β : Type} {name : String} {decode? : Json → Option α} {default v : α}
    {k : α → Option β} {r : Option β} (h : field? es name decode? default = some v)
    (hk : k (if gone name then default else v) = r) :
    field? (remaining gone es) name decode? default >>= k = r := by
  rw [field?_remaining gone h]
  exact hk

end Json

/-! ### Targets -/

/-- The target with the fields of some names at their defaults. -/
def Target.reset (gone : String → Bool) (t : Target) : Target :=
  let base : Target := default
  { architecture := if gone "architecture" then base.architecture else t.architecture
    vectorWidth := if gone "vector_width" then base.vectorWidth else t.vectorWidth
    device := if gone "device" then base.device else t.device
    threadCount := if gone "thread_count" then base.threadCount else t.threadCount }

theorem Architecture.ofJson?_toJson (a : Architecture) : ofJson? a.toJson = some a := by
  cases a <;> rfl

theorem Target.ofJson?_without (t : Target) (gone : String → Bool) :
    ofJson? (t.toJson.without gone) = some (t.reset gone) := by
  have fields : (t.toJson.without gone).fields? fieldNames = some (Json.remaining gone _) :=
    Json.fields?_without rfl (by decide)
  simp only [ofJson?, fields]
  exact Json.bind_field? t.architecture.ofJson?_toJson <| Json.bind_field? (Json.count?_count _) <|
    Json.bind_field? (Json.count?_count _) <| Json.bind_field? (Json.count?_count _) rfl

theorem Target.writable_without (t : Target) (gone : String → Bool) :
    (t.toJson.without gone).Writable := by
  refine Json.writable_without ?_
  simp [Architecture.toJson, Json.Writable.text, Json.writable_count]

/-! ### Options -/

/-- The options with the fields of some names at their defaults. -/
def Options.reset (gone : String → Bool) (o : Options) : Options :=
  let base := Options.standard
  { filePath := if gone "file_path" then base.filePath else o.filePath
    target := if gone "target" then base.target else o.target
    padding := if gone "enable_padding" then base.padding else o.padding
    samples := if gone "samples_per_iteration" then base.samples else o.samples
    isTracer := if gone "is_tracer" then base.isTracer else o.isTracer
    cameraKind := if gone "camera_type" then base.cameraKind else o.cameraKind
    techniqueKind := if gone "technique_type" then base.techniqueKind else o.techniqueKind
    filmWidth := if gone "film_width" then base.filmWidth else o.filmWidth
    filmHeight := if gone "film_height" then base.filmHeight else o.filmHeight }

/-- The entries of options, with what is written of the target. -/
def Options.entries (o : Options) (target : Json) : List (String × Json) :=
  [("file_path", .text o.filePath), ("target", target), ("enable_padding", .bool o.padding),
    ("samples_per_iteration", .count o.samples), ("is_tracer", .bool o.isTracer),
    ("camera_type", .optional o.cameraKind), ("technique_type", .optional o.techniqueKind),
    ("film_width", .count o.filmWidth), ("film_height", .count o.filmHeight)]

theorem Options.change_target (o : Options) (f : Json → Json) :
    o.toJson.change "target" f = .record (o.entries (f o.target.toJson)) := by
  simp [toJson, entries, Json.change_record]

theorem Options.ofJson?_without (o : Options) (gone inner : String → Bool) :
    ofJson? ((o.toJson.change "target" (·.without inner)).without gone)
      = some (reset gone { o with target := o.target.reset inner }) := by
  rw [change_target]
  have fields : ((Json.record (o.entries (o.target.toJson.without inner))).without gone).fields? fieldNames
      = some (Json.remaining gone _) := Json.fields?_without rfl (by decide)
  simp only [ofJson?, fields]
  exact Json.bind_field? rfl <| Json.bind_field? (o.target.ofJson?_without inner) <|
    Json.bind_field? rfl <| Json.bind_field? (Json.count?_count _) <| Json.bind_field? rfl <|
    Json.bind_field? (Json.optional?_optional _) <| Json.bind_field? (Json.optional?_optional _) <|
    Json.bind_field? (Json.count?_count _) <| Json.bind_field? (Json.count?_count _) rfl

theorem Options.writable_without (o : Options) (gone inner : String → Bool) :
    ((o.toJson.change "target" (·.without inner)).without gone).Writable := by
  rw [change_target]
  refine Json.writable_without ?_
  simp [entries, Json.Writable.text, Json.Writable.bool, Json.writable_count, Json.writable_optional,
    o.target.writable_without]

namespace Technique

/-! ### Descriptions of variants -/

/-- The variant with the fields of some names at their defaults. -/
def VariantInfo.reset (gone : String → Bool) (v : VariantInfo) : VariantInfo :=
  let base : VariantInfo := default
  { features := if gone "features" then base.features else v.features
    shadowMode := if gone "shadow_handling_mode" then base.shadowMode else v.shadowMode
    payloadInitializer :=
      if gone "emitter_payload_initializer" then base.payloadInitializer else v.payloadInitializer
    primaryPayload := if gone "primary_payload_count" then base.primaryPayload else v.primaryPayload
    secondaryPayload :=
      if gone "secondary_payload_count" then base.secondaryPayload else v.secondaryPayload }

theorem ShadowMode.ofJson?_key (m : ShadowMode) : ofJson? (.text m.key) = some m := by
  cases m <;> rfl

theorem VariantInfo.ofJson?_without (v : VariantInfo) (gone : String → Bool) :
    ofJson? (v.toJson.without gone) = some (v.reset gone) := by
  have fields : (v.toJson.without gone).fields? fieldNames = some (Json.remaining gone _) :=
    Json.fields?_without rfl (by decide)
  simp only [ofJson?, fields]
  exact Json.bind_field? v.features.ofText?_text <| Json.bind_field? v.shadowMode.ofJson?_key <|
    Json.bind_field? (Json.optional?_optional _) <| Json.bind_field? (Json.count?_count _) <|
    Json.bind_field? (Json.count?_count _) rfl

theorem VariantInfo.writable_without (v : VariantInfo) (gone : String → Bool) :
    (v.toJson.without gone).Writable := by
  refine Json.writable_without ?_
  simp [Json.Writable.text, Json.writable_count, Json.writable_optional]

/-! ### Descriptions of techniques -/

/-- The description with the fields of some names empty. -/
def Info.reset (gone : String → Bool) (i : Info) : Info :=
  { variants := if gone "variants" then [] else i.variants
    aovs := if gone "enabled_aovs" then [] else i.aovs }

/-- The entries of a description, with what is written of the variants. -/
def Info.entries (i : Info) (variants : Json) : List (String × Json) :=
  [("variants", variants), ("enabled_aovs", .array (i.aovs.map .text))]

theorem Info.change_variants (i : Info) (f : Json → Json) :
    i.toJson.change "variants" f
      = .record (i.entries (f (.array (i.variants.map VariantInfo.toJson)))) := by
  simp [toJson, entries, Json.change_record]

theorem list?_changeItems {α : Type} {item? : Json → Option α} {write : α → Json}
    {f : Nat → Json → Json} {g : Nat → α → α} (h : ∀ k a, item? (f k (write a)) = some (g k a))
    (as : List α) :
    Json.list? item? ((Json.array (as.map write)).changeItems f) = some (as.mapIdx g) := by
  simp only [Json.changeItems, Json.list?]
  induction as generalizing f g with
  | nil => rfl
  | cons a as ih =>
    have rest := ih (f := fun k => f (k + 1)) (g := fun k => g (k + 1)) fun k a => h (k + 1) a
    rw [List.map_cons, List.mapIdx_cons, List.mapIdx_cons, List.mapM_cons, h 0 a, rest]
    rfl

theorem list?_text (ss : List String) : Json.list? Json.text? (.array (ss.map .text)) = some ss := by
  simp only [Json.list?]
  induction ss with
  | nil => rfl
  | cons s ss ih =>
    rw [List.map_cons, List.mapM_cons, ih]
    rfl

theorem Info.ofJson?_without (i : Info) (gone : String → Bool) (inner : Nat → String → Bool) :
    ofJson? ((i.toJson.change "variants" (·.changeItems fun k => (·.without (inner k)))).without gone)
      = some (reset gone { i with variants := i.variants.mapIdx fun k v => v.reset (inner k) }) := by
  rw [change_variants]
  have fields : ((Json.record (i.entries ((Json.array (i.variants.map VariantInfo.toJson)).changeItems
      fun k => (·.without (inner k))))).without gone).fields? fieldNames
        = some (Json.remaining gone _) := Json.fields?_without rfl (by decide)
  simp only [ofJson?, fields]
  exact Json.bind_field? (list?_changeItems (fun k v => v.ofJson?_without (inner k)) i.variants) <|
    Json.bind_field? (list?_text i.aovs) rfl

theorem Info.writable_without (i : Info) (gone : String → Bool) (inner : Nat → String → Bool) :
    ((i.toJson.change "variants" (·.changeItems fun k => (·.without (inner k)))).without gone).Writable := by
  rw [change_variants]
  refine Json.writable_without ?_
  have variants : ((Json.array (i.variants.map VariantInfo.toJson)).changeItems
      fun k => (·.without (inner k))).Writable := by
    refine .array fun x hx => ?_
    obtain ⟨k, hk, rfl⟩ := List.mem_mapIdx.mp hx
    rw [List.getElem_map]
    exact VariantInfo.writable_without _ _
  have aovs : (Json.array (i.aovs.map .text)).Writable := by
    refine .array fun x hx => ?_
    obtain ⟨s, -, rfl⟩ := List.mem_map.mp hx
    exact .text s
  simp [entries, variants, aovs]

end Technique

/-! ### Everything together -/

open Technique (Info VariantInfo)

/-- **Settings are read back, with defaults for what is missing.** The text of options, of
the description of a technique, of a target and of the description of a variant is read as
that value. If entries are taken out of the record, whichever these are, then what is read
is the value with exactly those fields at their defaults, and the same holds of the target
inside options and of each variant inside a technique. -/
theorem settings_read_back :
    (∀ o : Options, Options.parse o.serialise = .ok o) ∧
    (∀ i : Info, Info.parse i.serialise = .ok i) ∧
    (∀ t : Target, Target.parse t.serialise = .ok t) ∧
    (∀ v : VariantInfo, Json.parse VariantInfo.ofJson? v.toJson.write = .ok v) ∧
    (∀ (o : Options) (gone inner : String → Bool),
      Options.parse ((o.toJson.change "target" (·.without inner)).without gone).write
        = .ok (Options.reset gone { o with target := o.target.reset inner })) ∧
    (∀ (i : Info) (gone : String → Bool) (inner : Nat → String → Bool),
      Info.parse
          ((i.toJson.change "variants" (·.changeItems fun k => (·.without (inner k)))).without gone).write
        = .ok (Info.reset gone { i with variants := i.variants.mapIdx fun k v => v.reset (inner k) })) ∧
    (∀ (t : Target) (gone : String → Bool),
      Target.parse (t.toJson.without gone).write = .ok (t.reset gone)) ∧
    ∀ (v : VariantInfo) (gone : String → Bool),
      Json.parse VariantInfo.ofJson? (v.toJson.without gone).write = .ok (v.reset gone) := by
  have options (o : Options) (gone inner : String → Bool) :=
    Json.parse_write (o.writable_without gone inner) (o.ofJson?_without gone inner)
  have info (i : Info) (gone : String → Bool) (inner : Nat → String → Bool) :=
    Json.parse_write (i.writable_without gone inner) (i.ofJson?_without gone inner)
  have target (t : Target) (gone : String → Bool) :=
    Json.parse_write (t.writable_without gone) (t.ofJson?_without gone)
  have variant (v : VariantInfo) (gone : String → Bool) :=
    Json.parse_write (v.writable_without gone) (v.ofJson?_without gone)
  -- a whole text is one that nothing is taken out of
  refine ⟨fun o => ?_, fun i => ?_, fun t => ?_, fun v => ?_, options, info, target, variant⟩
  · have whole := options o (fun _ => false) fun _ => false
    simp only [Json.without_nothing, Json.change_nothing] at whole
    exact whole
  · have whole := info i (fun _ => false) fun _ _ => false
    simp only [Json.without_nothing, Json.changeItems_nothing, Json.change_nothing] at whole
    have variants : i.variants.mapIdx (fun _ v => v.reset fun _ => false) = i.variants :=
      Json.mapIdx_nothing i.variants
    rw [variants] at whole
    exact whole
  · have whole := target t fun _ => false
    rw [Json.without_nothing] at whole
    exact whole
  · have whole := variant v fun _ => false
    rw [Json.without_nothing] at whole
    exact whole

end RayShader
