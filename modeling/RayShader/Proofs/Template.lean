import RayShader.Stock.Light
import RayShader.Stock.Material
import RayShader.Proofs.Run
import Mathlib.Data.List.Forall2

/-!
# Filling templates

A template whose names all have values is filled: a value that is not there is the only
thing that the stock templates can fail on. Which names a template uses is a matter of
its text, and is decided by looking at it (`Node.isCovered`).

The table of lights and the block of a material have their texts given exactly, as the
declarations of images followed by fixed lines around the names and expressions.
-/

/-! ### Blanks at the end -/

namespace RayShader.Text

theorem dropBlankEnd_append {a b : List Char} (h : dropBlankEnd b ≠ []) :
    dropBlankEnd (a ++ b) = a ++ dropBlankEnd b := by
  have nonempty : b.reverse.dropWhile isBlank ≠ [] := by simpa [dropBlankEnd] using h
  simp [dropBlankEnd, List.dropWhile_append, nonempty]

theorem trimEnd_append {s t : String} (h : trimEnd t ≠ "") : trimEnd (s ++ t) = s ++ trimEnd t := by
  have nonempty : dropBlankEnd t.toList ≠ [] := fun e => h (by rw [trimEnd, e])
  rw [trimEnd, String.toList_append, dropBlankEnd_append nonempty, String.ofList_append,
    String.ofList_toList]
  rfl

theorem join_concat (texts : List String) (last : String) :
    String.join (texts ++ [last]) = String.join texts ++ last := by
  simp [String.join_append, String.join_cons]

/-- A text that ends with a part without blanks at its end has none either. -/
theorem trimEnd_join (texts : List String) {last : String} (trimmed : trimEnd last = last)
    (nonempty : last ≠ "") : trimEnd (.join (texts ++ [last])) = .join (texts ++ [last]) := by
  rw [join_concat, trimEnd_append (by rwa [trimmed]), trimmed]

end RayShader.Text

namespace RayShader.Template

variable {scope : Scope} {names : List String}

/-! ### Templates that cannot fail -/

/-- The test asks for one of the names. -/
def Test.isCovered (names : List String) : Test → Bool
  | .holds (.name n) | .isInt (.name n) _ => names.contains n
  | _ => false

mutual

/-- The node uses no other values than those of the given names, and iterates over none. -/
def Node.isCovered (names : List String) : Node → Bool
  | .text _ => true
  | .value (.name n) => names.contains n
  | .value _ | .each .. => false
  | .cond test yes no =>
    test.isCovered names && Node.areCovered names yes && Node.areCovered names no

/-- All nodes use no other values than those of the given names. -/
def Node.areCovered (names : List String) : List Node → Bool
  | [] => true
  | n :: rest => n.isCovered names && Node.areCovered names rest

end

/-- The scope has a value for each of the names. -/
def Scope.Defines (scope : Scope) (names : List String) : Prop :=
  ∀ n ∈ names, ∃ v, scope.lookup n = some v ∧ v ≠ .undefined

theorem Scope.defines_names (hn : scope.map (·.1) = names) (hd : ∀ p ∈ scope, p.2 ≠ .undefined) :
    scope.Defines names := by
  subst hn
  intro n hn
  rcases hl : scope.lookup n with _ | v
  · rw [List.lookup_eq_none_iff] at hl
    obtain ⟨p, hp, rfl⟩ := List.mem_map.mp hn
    simpa using hl p hp
  · obtain ⟨l, r, rfl, -⟩ := List.lookup_eq_some_iff.mp hl
    exact ⟨v, rfl, hd (n, v) (by simp)⟩

theorem Value.text_ok {v : Value} (h : v ≠ .undefined) : ∃ s, v.text = .ok s := by
  cases v with
  | undefined => exact absurd rfl h
  | _ => exact ⟨_, rfl⟩

theorem Value.isInt_ok {v : Value} (h : v ≠ .undefined) (n : Int) : ∃ b, v.isInt n = .ok b := by
  cases v with
  | undefined => exact absurd rfl h
  | _ => exact ⟨_, rfl⟩

theorem Test.eval_ok (hs : scope.Defines names) {test : Test} (h : test.isCovered names = true) :
    ∃ b, test.eval scope = .ok b := by
  unfold Test.isCovered at h
  split at h
  · rename_i n
    exact ⟨_, rfl⟩
  · rename_i n k
    obtain ⟨v, hv, defined⟩ := hs n (by simpa using h)
    obtain ⟨b, hb⟩ := Value.isInt_ok defined k
    exact ⟨b, by simp [Test.eval, Term.eval, hv, hb, bind, Except.bind]⟩
  · cases h

mutual

theorem Node.render_ok (hs : scope.Defines names) :
    ∀ n : Node, n.isCovered names = true → ∃ s, n.render scope = .ok s
  | .text s, _ => ⟨s, rfl⟩
  | .value (.name n), h => by
    obtain ⟨v, hv, defined⟩ := hs n (by simpa [Node.isCovered] using h)
    obtain ⟨s, hs⟩ := Value.text_ok defined
    exact ⟨s, by simp [Node.render, Term.eval, hv, hs, bind, Except.bind]⟩
  | .cond test yes no, h => by
    simp only [Node.isCovered, Bool.and_eq_true] at h
    obtain ⟨b, hb⟩ := Test.eval_ok hs h.1.1
    cases b with
    | true =>
      obtain ⟨s, hs⟩ := Node.renderAll_ok hs yes h.1.2
      exact ⟨s, by simp [Node.render, hb, hs, bind, Except.bind]⟩
    | false =>
      obtain ⟨s, hs⟩ := Node.renderAll_ok hs no h.2
      exact ⟨s, by simp [Node.render, hb, hs, bind, Except.bind]⟩

theorem Node.renderAll_ok (hs : scope.Defines names) :
    ∀ ns : List Node, Node.areCovered names ns = true → ∃ s, Node.renderAll ns scope = .ok s
  | [], _ => ⟨"", rfl⟩
  | n :: rest, h => by
    simp only [Node.areCovered, Bool.and_eq_true] at h
    obtain ⟨s, hs'⟩ := Node.render_ok hs n h.1
    obtain ⟨more, hm⟩ := Node.renderAll_ok hs rest h.2
    exact ⟨s ++ more, by simp [Node.renderAll, hs', hm, bind, Except.bind, pure, Except.pure]⟩

end

/-- A template is filled if all names that it uses have values. -/
theorem fill_ok (names : List String) {nodes : List Node} (hn : scope.map (·.1) = names)
    (hd : ∀ p ∈ scope, p.2 ≠ .undefined) (hc : Node.areCovered names nodes = true) :
    ∃ s, Stock.fill nodes scope = .ok s := by
  obtain ⟨s, hs⟩ := Node.renderAll_ok (Scope.defines_names hn hd) nodes hc
  exact ⟨Text.trimEnd s, by rw [Stock.fill, Template.fill, hs]; rfl⟩

/-! ### Exact texts -/

/-- The node has the text. -/
def Renders (scope : Scope) (n : Node) (s : String) : Prop := n.render scope = .ok s

theorem renderAll_eq {nodes : List Node} {texts : List String}
    (h : List.Forall₂ (Renders scope) nodes texts) :
    Node.renderAll nodes scope = .ok (.join texts) := by
  induction h with
  | nil => rw [Node.renderAll, String.join_nil]
  | cons h _ ih =>
    rw [Node.renderAll, h, ih, String.join_cons]
    rfl

/-- The blanks at the end of a template are those of the last part of its text. -/
theorem fill_of_split {nodes : List Node} {texts : List String}
    (h : List.Forall₂ (Renders scope) nodes texts) {front last trimmed : String}
    (split : String.join texts = front ++ last) (ht : Text.trimEnd last = trimmed)
    (hn : trimmed ≠ "") : Stock.fill nodes scope = .ok (front ++ trimmed) := by
  rw [Stock.fill, Template.fill, renderAll_eq h, split, ← ht]
  exact congrArg Except.ok (Text.trimEnd_append (by rwa [ht]))

/-- The blanks at the end of a template are those of its last node. -/
theorem fill_eq {nodes : List Node} (texts : List String) {last trimmed : String}
    (h : List.Forall₂ (Renders scope) nodes (texts ++ [last])) (ht : Text.trimEnd last = trimmed)
    (hn : trimmed ≠ "") : Stock.fill nodes scope = .ok (.join (texts ++ [trimmed])) := by
  rw [fill_of_split h (Text.join_concat texts last) ht hn, Text.join_concat]

/-- The blanks at the end of a template are those of the last text in its last node. -/
theorem fill_nested {nodes : List Node} (texts more : List String) {last trimmed : String}
    (h : List.Forall₂ (Renders scope) nodes (texts ++ [.join (more ++ [last])]))
    (ht : Text.trimEnd last = trimmed) (hn : trimmed ≠ "") :
    Stock.fill nodes scope = .ok (.join (texts ++ more ++ [trimmed])) := by
  have split : String.join (texts ++ [.join (more ++ [last])]) = .join (texts ++ more) ++ last := by
    simp [String.join_append, String.join_cons, String.append_assoc]
  rw [fill_of_split h split ht hn, Text.join_concat]

theorem renders_cond {test : Test} {yes no : List Node} {b : Bool} {s : String}
    (answer : test.eval scope = .ok b)
    (chosen : Node.renderAll (if b then yes else no) scope = .ok s) :
    Renders scope (.cond test yes no) s := by
  rw [Renders, Node.render, answer]
  cases b <;> exact chosen

theorem renders_nat {name : String} {n : Nat} (h : scope.lookup name = some (.nat n)) :
    Renders scope (hole name) (toString n) := by
  simp only [Renders, hole, Node.render, Term.eval, h, Option.getD_some, Value.nat, bind,
    Except.bind, Value.text, Value.repr]
  rfl

theorem renders_index {item : String} {v : Value} {index : Nat} (h : item ≠ "loop") :
    Renders (scope.item item v index) (.value (.field (.name "loop") "index0"))
      (toString index) := by
  have found : (scope.item item v index).lookup "loop"
      = some (.record [("index0", .nat index)]) := by
    rw [Scope.item, List.lookup_cons, beq_false_of_ne h.symm]
    rfl
  simp only [Renders, Node.render, Term.eval, found]
  rfl

theorem renders_length {name : String} {items : List Value}
    (h : scope.lookup name = some (.list items)) :
    Renders scope (.value (.length (.name name))) (toString items.length) := by
  simp only [Renders, Node.render, Term.eval, h]
  rfl

theorem renderItems_eq {α : Type} {render : Value → Nat → Except Error String} {value : α → Value}
    {text : α × Nat → String} (h : ∀ a i, render (value a) i = .ok (text (a, i))) (as : List α)
    (index : Nat) :
    renderItems render index (as.map value) = .ok (.join ((as.zipIdx index).map text)) := by
  induction as generalizing index with
  | nil => rw [List.map_nil, renderItems, List.zipIdx_nil, List.map_nil, String.join_nil]
  | cons a as ih =>
    rw [List.map_cons, renderItems, h, ih, List.zipIdx_cons, List.map_cons, String.join_cons]
    rfl

theorem renders_each {α : Type} {value : α → Value} {as : List α} {text : α × Nat → String}
    {items item : String} {body : List Node} (h : scope.lookup items = some (.list (as.map value)))
    (hb : ∀ a i, Node.renderAll body (scope.item item (value a) i) = .ok (text (a, i))) :
    Renders scope (.each item (.name items) body) (.join (as.zipIdx.map text)) := by
  simp only [Renders, Node.render, Term.eval, h, Option.getD_some, Value.items, bind, Except.bind]
  exact renderItems_eq hb as 0

end RayShader.Template

/-! ### Lights and materials -/

namespace RayShader.Stock

open Template

/-- The declarations of images, one behind the other. -/
def declarationText (buffers : List Nat) : String := .join (buffers.map ShadingTree.declaration)

/-- Only the last end of line of declarations is a blank at the end. -/
theorem trimEnd_declarationText {buffers : List Nat} (h : buffers ≠ []) :
    Text.trimEnd (declarationText buffers) ≠ "" ∧
      Text.trimEnd (declarationText buffers) ++ "\n" = declarationText buffers := by
  obtain ⟨before, b, rfl⟩ := (List.eq_nil_or_concat buffers).resolve_left h
  obtain ⟨head, last⟩ : ∃ head, ShadingTree.declaration b = head ++ ", 4), false);\n" :=
    ⟨_, by simp only [ShadingTree.declaration, toString, ← String.append_assoc]; rfl⟩
  have trimmed : Text.trimEnd ", 4), false);\n" = ", 4), false);" := by decide +kernel
  have ending : declarationText (before.concat b)
      = declarationText before ++ head ++ ", 4), false);\n" := by
    simp [declarationText, String.join_append, String.join_cons, last, String.append_assoc]
  rw [ending, Text.trimEnd_append (by rw [trimmed]; decide), trimmed]
  refine ⟨by simp, ?_⟩
  rw [String.append_assoc]
  rfl

/-- Declarations that are trimmed and get their end of line back are as before. -/
theorem renders_declarations {scope : Scope} {buffers : List Nat}
    (h : scope.lookup "textures" = some (.string (Text.trimEnd (declarationText buffers)))) :
    Renders scope (.cond (.holds (.name "textures")) [hole "textures", .text "\n"] [])
      (declarationText buffers) := by
  simp only [Renders, Node.render, Test.eval, Term.eval, h, Option.getD_some, Value.isTrue, bind,
    Except.bind, pure, Except.pure]
  by_cases empty : buffers = []
  · have trimmed : Text.trimEnd (declarationText []) = "" := by decide +kernel
    rw [empty, trimmed, if_neg (by simp), Node.renderAll, declarationText, List.map_nil,
      String.join_nil]
  · obtain ⟨nonempty, whole⟩ := trimEnd_declarationText empty
    rw [if_pos (by simpa using nonempty)]
    have text : Node.renderAll [hole "textures", .text "\n"] scope
        = .ok (.join [Text.trimEnd (declarationText buffers), "\n"]) := by
      refine renderAll_eq (.cons ?_ (.cons rfl .nil))
      simp only [Renders, hole, Node.render, Term.eval, h]
      rfl
    rw [text, String.join_cons, String.join_cons, String.join_nil, String.append_empty, whole]

/-- The line of a light. -/
def lightLine (p : (String × String) × Nat) : String :=
  .join ["  let light_", toString p.2, " = ", p.1.2, "; // ", p.1.1, "\n"]

/-- The line that finds a light by its number. -/
def lightArm (p : (String × String) × Nat) : String :=
  .join ["      ", toString p.2, " => light_", toString p.2, ",\n"]

/-- The table of lights, given their names and expressions, behind declarations. -/
def lightTable (buffers : List Nat) (entries : List (String × String)) : String :=
  .join [declarationText buffers, .join (entries.zipIdx.map lightLine), "  let num_lights = ",
    toString entries.length,
    " : i32;\n  let lights = @|id: i32| -> Light \x7b\n    match id \x7b\n",
    .join (entries.zipIdx.map lightArm), "      _ => make_null_light()\n    \x7d\n  \x7d;\n",
    "  let light_selector = make_uniform_light_selector(lights, num_lights);"]

/-- The block of a material, given its number, name and expression, behind declarations. -/
def materialBlock (buffers : List Nat) (group : Nat) (name bsdf : String) : String :=
  .join [declarationText buffers, "  let bsdf_", toString group,
    " = @|ctx: ShadingContext| -> Bsdf \x7b ", bsdf, " \x7d; // ", name,
    "\n  let shader = @|ctx: ShadingContext| make_material(bsdf_", toString group, "(ctx));"]

theorem fill_lights (buffers : List Nat) (entries : List (String × String)) :
    fill Template.Stock.lights
      [("lights", .list (entries.map Light.value)),
        ("textures", .string (Text.trimEnd (declarationText buffers)))]
      = .ok (lightTable buffers entries) := by
  have line (scope : Scope) (entry : String × String) (i : Nat) :
      Node.renderAll [.text "  let light_", .value (.field (.name "loop") "index0"), .text " = ",
        .value (.field (.name "light") "expr"), .text "; // ",
        .value (.field (.name "light") "name"), .text "\n"]
        (scope.item "light" (Light.value entry) i) = .ok (lightLine (entry, i)) :=
    renderAll_eq (.cons rfl <| .cons (renders_index (by decide)) <| .cons rfl <| .cons rfl <|
      .cons rfl <| .cons rfl <| .cons rfl .nil)
  have arm (scope : Scope) (entry : String × String) (i : Nat) :
      Node.renderAll [.text "      ", .value (.field (.name "loop") "index0"), .text " => light_",
        .value (.field (.name "loop") "index0"), .text ",\n"]
        (scope.item "light" (Light.value entry) i) = .ok (lightArm (entry, i)) :=
    renderAll_eq (.cons rfl <| .cons (renders_index (by decide)) <| .cons rfl <|
      .cons (renders_index (by decide)) <| .cons rfl .nil)
  have count (scope : Scope) (h : scope.lookup "lights" = some (.list (entries.map Light.value))) :
      Renders scope (.value (.length (.name "lights"))) (toString entries.length) := by
    simpa using renders_length h
  refine fill_eq [_, _, _, _, _, _, _]
    (.cons (renders_declarations rfl) <| .cons (renders_each rfl (line _)) <| .cons rfl <|
      .cons (count _ rfl) <| .cons rfl <| .cons (renders_each rfl (arm _)) <| .cons rfl <|
      .cons rfl .nil) ?_ (by decide)
  decide +kernel

theorem fill_material (buffers : List Nat) (group : Nat) (name bsdf : String) :
    fill Template.Stock.material
      [("name", .string name), ("hit_group", .nat group), ("bsdf", .string bsdf),
        ("textures", .string (Text.trimEnd (declarationText buffers)))]
      = .ok (materialBlock buffers group name bsdf) := by
  refine fill_eq [_, _, _, _, _, _, _, _, _]
    (.cons (renders_declarations rfl) <| .cons rfl <| .cons (renders_nat rfl) <| .cons rfl <|
      .cons rfl <| .cons rfl <| .cons rfl <| .cons rfl <| .cons (renders_nat rfl) <|
      .cons rfl .nil) ?_ (by decide)
  decide +kernel

/-- Takes the images that are used and not declared yet, which are declared from now on. -/
def declare : Stage ShadingTree (List Nat) := fun t =>
  ({ t with declared := t.pending.foldl (fun ds b => ShadingTree.insertBuffer b ds) t.declared },
    ⟨[], .ok t.pending⟩)

theorem lights_eq (c : Context) (restricted : Bool) :
    lights c restricted = (Light.entries c restricted c.scene.lights.entries).bind fun entries =>
      declare.bind fun buffers => pure (lightTable buffers entries) := by
  have filled (entries : List (String × String)) :
      (ShadingTree.declarations.bind fun textures => Stage.read (fill Template.Stock.lights
        [("lights", .list (entries.map Light.value)),
          ("textures", .string (Text.trimEnd textures))]))
      = declare.bind fun buffers => pure (lightTable buffers entries) := by
    funext t
    exact congrArg (fun r => (declare.bind fun _ => Stage.read r) t) (fill_lights t.pending entries)
  exact congrArg (Stage.bind (Light.entries c restricted c.scene.lights.entries)) (funext filled)

/-- The table of lights is made of the entries, and then of the images to declare. -/
theorem lights_step_eq_ok {c : Context} {restricted : Bool} {t t' : ShadingTree} {text : String} :
    (lights c restricted).step t = (t', .ok text) ↔ ∃ u entries buffers,
      (Light.entries c restricted c.scene.lights.entries).step t = (u, .ok entries) ∧
        declare.step u = (t', .ok buffers) ∧ text = lightTable buffers entries := by
  rw [lights_eq, Stage.step_bind_eq_ok]
  simp only [Stage.step_bind_eq_ok, Stage.step_pure_eq_ok]
  constructor
  · rintro ⟨u, entries, made, _, buffers, declares, rfl, rfl⟩
    exact ⟨u, entries, buffers, made, declares, rfl⟩
  · rintro ⟨u, entries, buffers, made, declares, rfl⟩
    exact ⟨u, entries, made, t', buffers, declares, rfl, rfl⟩

theorem material_eq {c : Context} {group : Nat} {name : String} {o : Object}
    (h : c.scene.bsdfs.entries[group]? = some (name, o)) :
    material c group = (Material.ofObject c o).bind fun bsdf =>
      declare.bind fun buffers => pure (materialBlock buffers group name bsdf) := by
  have filled (bsdf : String) :
      (ShadingTree.declarations.bind fun textures => Stage.read (fill Template.Stock.material
        [("name", .string name), ("hit_group", .nat group), ("bsdf", .string bsdf),
          ("textures", .string (Text.trimEnd textures))]))
      = declare.bind fun buffers => pure (materialBlock buffers group name bsdf) := by
    funext t
    exact congrArg (fun r => (declare.bind fun _ => Stage.read r) t)
      (fill_material t.pending group name bsdf)
  unfold material
  rw [h]
  exact congrArg (Stage.bind (Material.ofObject c o)) (funext filled)

end RayShader.Stock
