import RayShader.Proofs.Bindings
import Mathlib.Data.List.Count
import Mathlib.Data.List.Induction

/-!
# Calls on a tree

The emitters of a program share its tree and call it in any order: for names of images, for
colors, and for the declarations that are due. What was referenced is read off the calls
(`references`), and what was declared off the texts that they returned (`timesDeclared`). The
tree keeps up with both: it uses the images that were referenced, and those that it takes for
declared have been declared once (`Tracks`). One call keeps it so, and then any calls do.
-/

namespace RayShader.ShadingTree

open Stock (declarationContent declarationText)

/-! ### Calls -/

/-- A call on a tree. -/
inductive Call where
  /-- For the name of an image. -/
  | texture (buffer : Nat)
  /-- For the expression of a color. -/
  | color (o : Object) (property : String) (default : Vec3)
  /-- For the declarations that are due. -/
  | declarations

namespace Call

/-- Makes the call. -/
def perform (c : Context) : Call → Stage ShadingTree String
  | texture buffer => ShadingTree.texture buffer
  | color o property default => ShadingTree.color c o property default
  | declarations => ShadingTree.declarations

/-- The image that a call references: the one it is for, or that of the texture which the
property names. -/
def reference? (c : Context) : Call → Option Nat
  | texture buffer => some buffer
  | color o property _ =>
    match o.property? property with
    | some (.string name) => c.registry.textureBuffer? name
    | _ => none
  | declarations => none

end Call

/-- An answer to a call. -/
abbrev Answer := Call × Except Failure String

/-- The tree that calls leave of a new one, and the answers to them in order. -/
def run (c : Context) (calls : List Call) : ShadingTree × List Answer :=
  calls.foldl (fun (t, answers) call =>
    let (t, answer) := (call.perform c).step t
    (t, answers ++ [(call, answer)])) (.empty, [])

/-- The images that calls reference, in order. -/
def references (c : Context) (calls : List Call) : List Nat := calls.filterMap (·.reference? c)

/-- The text of an answer, if the call was for declarations. -/
def returned? : Answer → Option String
  | (.declarations, .ok text) => some text
  | _ => none

/-- The declarations that calls on a new tree return, in order. -/
def returned (c : Context) (calls : List Call) : List String :=
  (run c calls).2.filterMap returned?

/-- How many lines of texts declare the image. -/
def timesDeclared (texts : List String) (buffer : Nat) : Nat :=
  (texts.flatMap Text.lines).count (declarationContent buffer)

variable {c : Context} {o : Object} {property : String} {default : Vec3} {t : ShadingTree}
  {call : Call} {calls later : List Call} {texts : List String} {b : Nat}

/-! ### What one call does -/

/-- A color references an image if the property is its texture. -/
theorem reference?_color : (Call.color o property default).reference? c = some b ↔
    c.textureColor o property default = .ok (.texture b) := by
  cases found : o.property? property with
  | none => simp [Call.reference?, Context.textureColor, found]
  | some value =>
    cases value with
    | string name =>
      cases registered : c.registry.textureBuffer? name <;>
        simp [Call.reference?, Context.textureColor, found, registered]
    | _ => simp [Call.reference?, Context.textureColor, found]

/-- What becomes of a call for a color: it uses a texture, or leaves the tree alone. -/
theorem step_color : (color c o property default).step t
    = match c.textureColor o property default with
      | .ok (.texture buffer) =>
        ({ t with used := insertBuffer buffer t.used }, .ok (imageName buffer ++ "(ctx.uvw)"))
      | .ok (.color v) => (t, .ok (Program.colorLiteral v))
      | .error e => (t, .error (.error e)) := by
  cases read : c.textureColor o property default with
  | error e => simp only [color, read]; rfl
  | ok value =>
    cases value with
    | texture buffer => simp only [color, read]; rfl
    | color v => simp only [color, read]; rfl

/-- A call references the images that its answer samples. -/
theorem reference?_iff_samples (other : call ≠ .declarations) :
    call.reference? c = some b ↔ ∃ s, ((call.perform c).step t).2 = .ok s ∧ Samples s b := by
  cases call with
  | texture buffer =>
    have answer : (((Call.texture buffer).perform c).step t).2 = .ok (imageName buffer) := rfl
    rw [Call.reference?, Option.some.injEq, answer]
    simp [Samples.imageName_iff, eq_comm]
  | color o property default =>
    rw [reference?_color, Call.perform, step_color]
    cases c.textureColor o property default with
    | error e => simp
    | ok value =>
      cases value with
      | texture buffer => simp [(sampling_color buffer).samples, eq_comm]
      | color v => simp [(plain_colorLiteral v).samples]
  | declarations => exact absurd rfl other

/-- A call for a color that fails or gives a constant references nothing, and leaves the tree
alone. -/
theorem color_references_nothing {t' : ShadingTree} {answer : Except Failure String}
    (made : ((Call.color o property default).perform c).step t = (t', answer))
    (h : (∃ f, answer = .error f) ∨ ∃ v, answer = .ok (Program.colorLiteral v)) :
    (Call.color o property default).reference? c = none ∧ t' = t := by
  have nothing : ∀ b, (Call.color o property default).reference? c ≠ some b := by
    intro b references
    obtain ⟨s, gave, sampled⟩ := (reference?_iff_samples (t := t) (by simp)).mp references
    rw [made] at gave
    rcases h with ⟨f, rfl⟩ | ⟨v, rfl⟩
    · cases gave
    · obtain rfl := Except.ok.inj gave
      exact (plain_colorLiteral v).samples b |>.mp sampled
  refine ⟨Option.eq_none_iff_forall_ne_some.mpr nothing, ?_⟩
  rw [Call.perform, step_color] at made
  split at made
  · rename_i buffer read
    exact absurd (reference?_color.mpr read) (nothing buffer)
  · exact (Prod.mk.inj made).1.symm
  · exact (Prod.mk.inj made).1.symm

theorem mem_used_perform :
    b ∈ ((call.perform c).step t).1.used ↔ b ∈ t.used ∨ call.reference? c = some b := by
  cases call with
  | texture buffer =>
    have step : ((Call.texture buffer).perform c).step t
        = ({ t with used := insertBuffer buffer t.used }, .ok (imageName buffer)) := rfl
    rw [step, mem_insertBuffer, or_comm, Call.reference?, Option.some.injEq, eq_comm]
  | color o property default =>
    rw [reference?_color, Call.perform, step_color]
    split <;> rename_i read <;> simp [read, mem_insertBuffer, or_comm, eq_comm]
  | declarations =>
    simp [Call.reference?]
    rfl

theorem ascends_perform (h : t.Ascends) : ((call.perform c).step t).1.Ascends := by
  cases call with
  | texture buffer => exact pairwise_insertBuffer h
  | color o property default =>
    rw [Call.perform, step_color]
    split
    · exact pairwise_insertBuffer h
    · exact h
    · exact h
  | declarations => exact h

theorem mem_declared_perform : b ∈ ((call.perform c).step t).1.declared ↔
    b ∈ t.declared ∨ call = .declarations ∧ b ∈ t.pending := by
  cases call with
  | texture buffer =>
    simp
    rfl
  | color o property default =>
    rw [Call.perform, step_color]
    split <;> simp
  | declarations =>
    have step : ((Call.declarations.perform c).step t).1.declared
        = t.pending.foldl (fun ds b => insertBuffer b ds) t.declared := rfl
    rw [step, mem_foldl_insertBuffer]
    simp [or_comm]

/-! ### Declarations in texts -/

theorem declarationContent_injective : Function.Injective declarationContent := by
  intro a b same
  have bound (b : Nat) : Program.boundName? (declarationContent b) = some (imageName b) :=
    Program.boundName?_let (Stock.isWord_numbered (by decide) b) _
  have named := bound a
  rw [same, bound b] at named
  exact (Samples.imageName_inj (Option.some.inj named)).symm

theorem timesDeclared_append (texts texts' : List String) (b : Nat) :
    timesDeclared (texts ++ texts') b = timesDeclared texts b + timesDeclared texts' b := by
  rw [timesDeclared, List.flatMap_append, List.count_append]
  rfl

/-- A text of declarations declares the images that it is made for. -/
theorem timesDeclared_declarationText (bs : List Nat) (b : Nat) :
    timesDeclared [declarationText bs] b = bs.count b := by
  have lines : Text.lines (declarationText bs) = bs.map declarationContent ++ [""] := by
    have joined := Text.lines_join (fun b (_ : b ∈ bs) => Stock.declaration_eq b) ""
    rwa [String.append_empty] at joined
  have blank : [""].count (declarationContent b) = 0 := by
    refine List.count_eq_zero.mpr fun mem => ?_
    have head := congrArg (·.toList.head?) (List.mem_singleton.mp mem)
    simp [declarationContent] at head
  rw [timesDeclared, List.flatMap_singleton, lines, List.count_append, blank, Nat.add_zero,
    List.count_map_of_injective _ _ declarationContent_injective]

/-! ### What the calls of a run do -/

theorem references_append (calls later : List Call) :
    references c (calls ++ later) = references c calls ++ references c later :=
  List.filterMap_append

theorem mem_references_concat :
    b ∈ references c (calls ++ [call]) ↔ b ∈ references c calls ∨ call.reference? c = some b := by
  rw [references_append, List.mem_append, references, references, List.mem_filterMap]
  simp

theorem run_concat (c : Context) (calls : List Call) (call : Call) :
    run c (calls ++ [call]) = (((call.perform c).step (run c calls).1).1,
      (run c calls).2 ++ [(call, ((call.perform c).step (run c calls).1).2)]) := by
  rw [run, List.foldl_append]
  rfl

theorem returned_concat (c : Context) (calls : List Call) (call : Call) :
    returned c (calls ++ [call]) = returned c calls
      ++ (returned? (call, ((call.perform c).step (run c calls).1).2)).toList := by
  rw [returned, run_concat, List.filterMap_append, returned]
  cases found : returned? (call, ((call.perform c).step (run c calls).1).2) <;> simp [found]

/-- The answer to a call declares what the tree takes for declared from then on, once. -/
theorem timesDeclared_answer (h : t.Ascends) (call : Call) (b : Nat) :
    timesDeclared (returned? (call, ((call.perform c).step t).2)).toList b
      = if b ∈ ((call.perform c).step t).1.declared ∧ b ∉ t.declared then 1 else 0 := by
  have silent {call : Call} (other : call ≠ .declarations) :
      ¬ (b ∈ ((call.perform c).step t).1.declared ∧ b ∉ t.declared) := by
    rw [mem_declared_perform]
    rintro ⟨before | ⟨same, -⟩, fresh⟩
    · exact fresh before
    · exact other same
  cases call with
  | texture buffer => rw [if_neg (silent (by simp))]; rfl
  | color o property default => rw [if_neg (silent (by simp))]; rfl
  | declarations =>
    have text : (returned? (.declarations, ((Call.declarations.perform c).step t).2)).toList
        = [declarationText t.pending] := rfl
    have due : b ∈ ((Call.declarations.perform c).step t).1.declared ∧ b ∉ t.declared
        ↔ b ∈ t.pending := by
      rw [mem_declared_perform, mem_pending]
      tauto
    rw [text, timesDeclared_declarationText, (nodup_pending h).count, if_congr due rfl rfl]

/-! ### Runs -/

/-- The tree keeps up with the calls: it uses what they referenced, and takes for declared what
the texts have declared once. -/
structure Tracks (c : Context) (calls : List Call) (t : ShadingTree) : Prop where
  /-- The used images ascend. -/
  ascends : t.Ascends
  /-- They are those that were referenced. -/
  mem_used : ∀ b, b ∈ t.used ↔ b ∈ references c calls
  /-- Declared images are used. -/
  used_of_declared : ∀ b ∈ t.declared, b ∈ t.used
  /-- The texts declare each declared image once, and no other. -/
  timesDeclared_eq : ∀ b, timesDeclared (returned c calls) b = if b ∈ t.declared then 1 else 0

theorem tracks_nil (c : Context) : Tracks c [] (run c []).1 :=
  ⟨ascends_empty, fun b => by simp [references, run, empty], by simp [run, empty],
    fun b => by simp [returned, timesDeclared, run, empty]⟩

/-- A call keeps the tree up. -/
theorem Tracks.concat (h : Tracks c calls (run c calls).1) (call : Call) :
    Tracks c (calls ++ [call]) (run c (calls ++ [call])).1 := by
  rw [run_concat]
  refine ⟨ascends_perform h.ascends, fun b => ?_, fun b declared => ?_, fun b => ?_⟩
  · rw [mem_used_perform, h.mem_used, mem_references_concat]
  · rw [mem_used_perform]
    rcases mem_declared_perform.mp declared with before | ⟨-, due⟩
    · exact .inl (h.used_of_declared b before)
    · exact .inl (mem_pending.mp due).1
  · rw [returned_concat, timesDeclared_append, h.timesDeclared_eq, timesDeclared_answer h.ascends]
    by_cases before : b ∈ (run c calls).1.declared
    · rw [if_pos before, if_neg (by simp [before]), if_pos (mem_declared_perform.mpr (.inl before))]
    · simp only [before, not_false_eq_true, and_true, if_false, Nat.zero_add]

theorem tracks_run (c : Context) (calls : List Call) : Tracks c calls (run c calls).1 := by
  induction calls using List.reverseRecOn with
  | nil => exact tracks_nil c
  | append_singleton calls call ih => exact ih.concat call

/-- With a call for declarations, the referenced images are declared once, and no others. -/
theorem timesDeclared_concat_declarations (c : Context) (calls : List Call) (b : Nat) :
    timesDeclared (returned c (calls ++ [.declarations])) b
      = if b ∈ references c calls then 1 else 0 := by
  have before := tracks_run c calls
  have reached : b ∈ (run c (calls ++ [.declarations])).1.declared ↔ b ∈ references c calls := by
    rw [run_concat, mem_declared_perform, mem_pending, ← before.mem_used]
    have used := before.used_of_declared b
    tauto
  rw [(tracks_run c _).timesDeclared_eq, if_congr reached rfl rfl]

/-- Texts that were returned stay returned. -/
theorem returned_prefix (c : Context) (calls later : List Call) :
    returned c calls <+: returned c (calls ++ later) := by
  induction later using List.reverseRecOn with
  | nil => simp
  | append_singleton later call ih =>
    rw [← List.append_assoc, returned_concat]
    exact ih.trans (List.prefix_append _ _)

/-- What was referenced before a call for declarations is declared from then on. -/
theorem timesDeclared_pos (between : List Call) (h : b ∈ references c calls) :
    0 < timesDeclared (returned c (calls ++ .declarations :: between)) b := by
  have once := timesDeclared_concat_declarations c calls b
  rw [if_pos h] at once
  obtain ⟨more, whole⟩ := returned_prefix c (calls ++ [.declarations]) between
  rw [List.append_assoc, List.singleton_append] at whole
  rw [← whole, timesDeclared_append, once]
  omega

/-- **Referenced images are declared exactly once.** Take any calls on a new tree, and then a
call for declarations. It succeeds, and its text declares the images that were referenced and not
declared by an earlier text, in strictly ascending order. With it, every image that was referenced
is declared once in all the texts together, and no other image is. The text is empty if nothing
new was referenced since some earlier call for declarations. Other calls reference the images that
their answers sample. So one for a color that fails or gives a constant references nothing, and
it leaves the tree as it was. -/
theorem declared_exactly_once (c : Context) (calls : List Call) :
    (∃ bs, ((Call.declarations.perform c).step (run c calls).1).2 = .ok (declarationText bs) ∧
      bs.Pairwise (· < ·) ∧
      (∀ b, b ∈ bs ↔ b ∈ references c calls ∧ timesDeclared (returned c calls) b = 0) ∧
      ∀ earlier between, calls = earlier ++ .declarations :: between →
        (∀ b ∈ references c between, b ∈ references c earlier) → declarationText bs = "") ∧
    (∀ b, timesDeclared (returned c (calls ++ [.declarations])) b
      = if b ∈ references c calls then 1 else 0) ∧
    (∀ call : Call, call ≠ .declarations → ∀ b, call.reference? c = some b ↔
      ∃ s, ((call.perform c).step (run c calls).1).2 = .ok s ∧ Samples s b) ∧
    ∀ o property default t answer,
      ((Call.color o property default).perform c).step (run c calls).1 = (t, answer) →
      ((∃ f, answer = .error f) ∨ ∃ v, answer = .ok (Program.colorLiteral v)) →
      (Call.color o property default).reference? c = none ∧ t = (run c calls).1 := by
  have tracks := tracks_run c calls
  have mem (b : Nat) : b ∈ (run c calls).1.pending
      ↔ b ∈ references c calls ∧ timesDeclared (returned c calls) b = 0 := by
    rw [mem_pending, tracks.mem_used, tracks.timesDeclared_eq]
    simp
  refine ⟨⟨(run c calls).1.pending, rfl, tracks.ascends.filter _, mem, ?_⟩,
    timesDeclared_concat_declarations c calls, fun call other b => reference?_iff_samples other,
    fun o property default t answer => color_references_nothing⟩
  rintro earlier between rfl nothingNew
  have settled : (run c (earlier ++ .declarations :: between)).1.pending = [] := by
    refine List.eq_nil_iff_forall_not_mem.mpr fun b due => ?_
    obtain ⟨referenced, undeclared⟩ := (mem b).mp due
    have before : b ∈ references c earlier := by
      rw [references_append, List.mem_append] at referenced
      exact referenced.elim id (nothingNew b)
    exact absurd undeclared (Nat.ne_of_gt (timesDeclared_pos between before))
  rw [settled]
  rfl

/-- An image that two colors sample is declared behind the first of them only. -/
example :
    let scene := Scene.empty.addTexture "wood"
      ((Object.ofKind "image").withProperty "filename" (.string "wood.png"))
    let floor := (Object.ofKind "diffuse").withProperty "reflectance" (.string "wood")
    ((Context.load Stock.describe scene .standard).result.toOption.map fun c =>
        returned c [.declarations, .color floor "reflectance" .one, .color floor "missing" .one,
          .declarations, .color floor "reflectance" .one, .declarations])
      = some ["", declaration 0, ""] := by
  decide +kernel

end RayShader.ShadingTree
