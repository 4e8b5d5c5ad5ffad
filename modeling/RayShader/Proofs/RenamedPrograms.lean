import RayShader.Proofs.Layouts
import RayShader.Proofs.Renaming
import RayShader.Proofs.Slots
import RayShader.Proofs.TableLines

/-!
# Programs of renamed scenes

The name of a light or a bsdf stands at the end of the line that defines it, behind `//`, and
nowhere else in a program. It stands there as it is. So the programs of a scene and those of
the scene with other names are made of the same pieces, but for names at the ends of such
lines (`Program.Piece`). Names without breaks leave all else as it is, line by line. A name with a break
goes on in lines of its own, which are lines of the program like any other: there the comment
ends before the name does.
-/

namespace RayShader

open Generation (build compile)
open Program (Fragment)
open Stock (lightContent bsdfContent lightTable materialBlock)
open Text (lines IsLine)

/-! ### Pieces of programs -/

/-- A piece of the programs of two scenes: the same text, or the line of a light or a bsdf that
ends with the name that it has in either scene. -/
inductive Program.Piece (s s' : Scene) : String → String → Prop where
  /-- A text that is the same. -/
  | same (text : String) : Piece s s' text text
  /-- The line of a light. -/
  | light {i : Nat} {expr name name' : String} (line : IsLine expr)
    (named : s.lights.names[i]? = some name) (named' : s'.lights.names[i]? = some name') :
    Piece s s' (lightContent ((name, expr), i)) (lightContent ((name', expr), i))
  /-- The line of a bsdf. -/
  | bsdf {group : Nat} {bsdf name name' : String} (line : IsLine bsdf)
    (named : s.bsdfs.names[group]? = some name) (named' : s'.bsdfs.names[group]? = some name') :
    Piece s s' (bsdfContent group name bsdf) (bsdfContent group name' bsdf)

open Program (Piece)

/-- The lines are those of the same pieces, one list for either scene. -/
def Program.Matches (s s' : Scene) (ls ls' : List String) : Prop :=
  ∃ pieces : List (String × String), (∀ p ∈ pieces, Piece s s' p.1 p.2) ∧
    ls = pieces.flatMap (fun p => lines p.1) ∧ ls' = pieces.flatMap (fun p => lines p.2)

open Program (Matches)

variable {s s' : Scene}

namespace Program.Matches

variable {ls ls' ms ms' : List String}

theorem piece {text text' : String} (h : Piece s s' text text') :
    Matches s s' (lines text) (lines text') :=
  ⟨[(text, text')], by simpa using h, by simp, by simp⟩

theorem same (text : String) : Matches s s' (lines text) (lines text) := piece (.same text)

theorem nil : Matches s s' [] [] := ⟨[], by simp, rfl, rfl⟩

theorem append (h : Matches s s' ls ls') (h' : Matches s s' ms ms') :
    Matches s s' (ls ++ ms) (ls' ++ ms') := by
  obtain ⟨pieces, each, rfl, rfl⟩ := h
  obtain ⟨more, others, rfl, rfl⟩ := h'
  refine ⟨pieces ++ more, ?_, by rw [List.flatMap_append], by rw [List.flatMap_append]⟩
  simpa only [List.forall_mem_append] using ⟨each, others⟩

/-- Pieces one by one. -/
theorem flatMap {α β : Type} {as : List α} {bs : List β} {f : α → String} {g : β → String}
    (h : List.Forall₂ (fun a b => Piece s s' (f a) (g b)) as bs) :
    Matches s s' (as.flatMap fun a => lines (f a)) (bs.flatMap fun b => lines (g b)) := by
  induction h with
  | nil => exact nil
  | cons first _ ih => exact (piece first).append ih

/-- Fragments that are the same in both. -/
theorem fragments (fs : List Fragment) :
    Matches s s' (fs.flatMap Fragment.lines) (fs.flatMap Fragment.lines) :=
  flatMap (List.forall₂_same.mpr fun f _ => .same f.content)

end Program.Matches

/-! ### Tables and blocks -/

namespace Stock

/-- The lines of the lights of two tables with the same expressions. -/
theorem pieces_lights {es es' : List (String × String)}
    (same : Light.SameExprs s.lights.entries s'.lights.entries es es')
    (exprs : ∀ entry ∈ es, IsLine entry.2) :
    List.Forall₂ (fun p q => Piece s s' (lightContent p) (lightContent q)) es.zipIdx es'.zipIdx := by
  have count : es'.length = es.length := by simpa using congrArg List.length same.exprs
  refine List.forall₂_iff_get.mpr ⟨by simp [count], fun i hi hi' => ?_⟩
  rw [List.length_zipIdx] at hi hi'
  have named : s.lights.names[i]? = some es[i].1 := by
    rw [NameMap.names, ← same.names, List.getElem?_map, List.getElem?_eq_getElem hi, Option.map_some]
  have named' : s'.lights.names[i]? = some es'[i].1 := by
    rw [NameMap.names, ← same.names', List.getElem?_map, List.getElem?_eq_getElem hi', Option.map_some]
  have expr : es'[i].2 = es[i].2 := by
    have both := congrArg (·[i]?) same.exprs
    simpa [hi, hi'] using both
  simp only [List.get_eq_getElem, List.getElem_zipIdx, Nat.zero_add]
  have piece := Piece.light (exprs _ (List.getElem_mem hi)) named named'
  rwa [← Prod.eta es'[i], expr]

theorem matches_lightTable (buffers : List Nat) {es es' : List (String × String)}
    (same : Light.SameExprs s.lights.entries s'.lights.entries es es')
    (exprs : ∀ entry ∈ es, IsLine entry.2) :
    Matches s s' (lines (lightTable buffers es)) (lines (lightTable buffers es')) := by
  have count : es'.length = es.length := by simpa using congrArg List.length same.exprs
  rw [lines_lightTable_eq, lines_lightTable_eq, count]
  exact (Matches.flatMap (List.forall₂_same.mpr fun b _ => .same _)).append
    ((Matches.flatMap (pieces_lights same exprs)).append (.same _))

theorem matches_materialBlock (buffers : List Nat) {group : Nat} {bsdf name name' : String}
    (line : IsLine bsdf) (named : s.bsdfs.names[group]? = some name)
    (named' : s'.bsdfs.names[group]? = some name') :
    Matches s s' (lines (materialBlock buffers group name bsdf))
      (lines (materialBlock buffers group name' bsdf)) := by
  rw [lines_materialBlock_eq, lines_materialBlock_eq]
  exact (Matches.flatMap (List.forall₂_same.mpr fun b _ => .same _)).append
    ((Matches.piece (.bsdf line named named')).append (.same _))

end Stock

/-! ### Programs -/

namespace Generation

variable {c : Context} {lights bsdfs : NameMap Object}

/-- Programs with matching bodies match. -/
theorem matches_program {p p' : Program} (preamble : p'.preamble = p.preamble)
    (entry : p'.entry = p.entry) (result : p'.result = p.result)
    (body : Matches s s' (p.body.flatMap Fragment.lines) (p'.body.flatMap Fragment.lines)) :
    Matches s s' (lines p.text) (lines p'.text) := by
  have closing : lines "\x7d\n" = ["\x7d", ""] := by decide
  rw [Program.lines_text, Program.lines_text, preamble, entry, result, ← closing]
  exact (Matches.same _).append ((Matches.same _).append (body.append
    ((Matches.same _).append (.same _))))

variable (hl : List.Forall₂ Relabels c.scene.lights.entries lights.entries)
  (hb : List.Forall₂ Relabels c.scene.bsdfs.entries bsdfs.entries)

include hl in
theorem follows_askLights (restricted : Bool) :
    Stage.Follows (fun text text' =>
        Matches c.scene (c.withNames lights bsdfs).scene (lines text) (lines text'))
      (Emitters.stock.askLights c restricted)
      (Emitters.stock.askLights (c.withNames lights bsdfs) restricted) := by
  refine (Stage.Follows.refl _).thenSame fun _ => ?_
  intro t u text answered
  obtain ⟨_, answered', buffers, es, es', line, same, rfl, rfl⟩ :=
    Stock.follows_lights restricted hl t u text answered
  exact ⟨_, answered', Stock.matches_lightTable buffers same line⟩

include hb in
theorem follows_askMaterial (group : Nat) :
    Stage.Follows (fun text text' =>
        Matches c.scene (c.withNames lights bsdfs).scene (lines text) (lines text'))
      (Emitters.stock.askMaterial c group)
      (Emitters.stock.askMaterial (c.withNames lights bsdfs) group) := by
  refine (Stage.Follows.refl _).thenSame fun _ => ?_
  intro t u text answered
  obtain ⟨_, answered', buffers, name, name', bsdf, line, named, named', rfl, rfl⟩ :=
    Stock.follows_material group hb t u text answered
  exact ⟨_, answered', Stock.matches_materialBlock buffers line named named'⟩

/-- The lines of fragments match. -/
abbrev MatchFragments (s s' : Scene) (fs fs' : List Fragment) : Prop :=
  Matches s s' (fs.flatMap Fragment.lines) (fs'.flatMap Fragment.lines)

theorem MatchFragments.append {fs fs' gs gs' : List Fragment} (h : MatchFragments s s' fs fs')
    (h' : MatchFragments s s' gs gs') : MatchFragments s s' (fs ++ gs) (fs' ++ gs') := by
  rw [MatchFragments, List.flatMap_append, List.flatMap_append]
  exact Matches.append h h'

theorem MatchFragments.source {text text' : String} (h : Matches s s' (lines text) (lines text')) :
    MatchFragments s s' [.source text] [.source text'] := by
  simpa [MatchFragments, Fragment.lines, Fragment.content] using h

include hl in
theorem follows_lightLines (v : Technique.VariantInfo) (withDatabase : Bool) :
    Stage.Follows (MatchFragments c.scene (c.withNames lights bsdfs).scene)
      (lightLines .stock c v withDatabase)
      (lightLines .stock (c.withNames lights bsdfs) v withDatabase) := by
  have table (database : List Fragment) (restricted : Bool) :
      Stage.Follows (MatchFragments c.scene (c.withNames lights bsdfs).scene)
        ((Emitters.stock.askLights c restricted).bind fun text => pure (database ++ [.source text]))
        ((Emitters.stock.askLights (c.withNames lights bsdfs) restricted).bind fun text =>
          pure (database ++ [.source text])) :=
    (follows_askLights hl restricted).bind fun _ _ same =>
      .pure (MatchFragments.append (Matches.fragments database) (.source same))
  unfold lightLines
  cases v.usesLights with
  | false => exact .pure (Matches.fragments [])
  | true =>
    cases withDatabase with
    | true =>
      simp only [if_true, Stage.bind_eq, Bool.not_true]
      exact (Stage.Follows.refl _).thenSame fun _ => (Stage.Follows.refl _).thenSame fun database =>
        table database false
    | false =>
      simp only [if_true, Bool.false_eq_true, if_false, Stage.bind_eq, Bool.not_false]
      exact (Stage.Follows.refl _).thenSame fun database => table database true

/-- The lines of programs match. -/
abbrev MatchPrograms (s s' : Scene) (p p' : Program) : Prop :=
  Matches s s' (lines p.text) (lines p'.text)

include hl in
/-- What programs for misses and for shadow rays have from the lights on. -/
theorem follows_lit (v : Technique.VariantInfo) (withDatabase : Bool) (preamble : String)
    (entry : Program.EntryPoint) (result : Program.Call) (opening closing : List Fragment) :
    Stage.Follows (MatchPrograms c.scene (c.withNames lights bsdfs).scene)
      ((lightLines .stock c v withDatabase).bind fun table =>
        (techniqueLines .stock c).bind fun technique =>
        pure ⟨preamble, entry, opening ++ table ++ [samplesBinding c] ++ technique ++ closing, result⟩)
      ((lightLines .stock (c.withNames lights bsdfs) v withDatabase).bind fun table =>
        (techniqueLines .stock (c.withNames lights bsdfs)).bind fun technique =>
        pure ⟨preamble, entry, opening ++ table ++ [samplesBinding c] ++ technique ++ closing, result⟩) := by
  refine (follows_lightLines hl v withDatabase).bind fun _ _ table =>
    (Stage.Follows.refl _).thenSame fun technique => .pure (matches_program rfl rfl rfl ?_)
  have front := MatchFragments.append (Matches.fragments opening) table
  exact ((front.append (Matches.fragments [samplesBinding c])).append
    (Matches.fragments technique)).append (Matches.fragments closing)

include hl in
theorem follows_miss : Stage.Follows (MatchPrograms c.scene (c.withNames lights bsdfs).scene)
    (miss .stock c) (miss .stock (c.withNames lights bsdfs)) := by
  simp only [miss, Stage.bind_eq]
  exact (Stage.Follows.refl _).thenSame fun _ => (Stage.Follows.refl _).thenSame fun v =>
    (Stage.Follows.refl _).thenSame fun _ => (Stage.Follows.refl _).thenSame fun opening =>
    follows_lit hl v _ _ _ _ opening _

include hl in
theorem follows_shadow (isHit : Bool) :
    Stage.Follows (MatchPrograms c.scene (c.withNames lights bsdfs).scene)
      (shadow .stock c isHit) (shadow .stock (c.withNames lights bsdfs) isHit) := by
  simp only [shadow, Stage.bind_eq]
  exact (Stage.Follows.refl _).thenSame fun _ => (Stage.Follows.refl _).thenSame fun v =>
    (Stage.Follows.refl _).thenSame fun _ => (Stage.Follows.refl _).thenSame fun opening =>
    follows_lit hl v _ _ _ _ opening _

include hl hb in
theorem follows_hit {d : Scene.Database} {v : Technique.VariantInfo}
    (hd : c.requireDatabase = .ok d) (hv : c.variant = .ok v) (group : Nat) :
    Stage.Follows (MatchPrograms c.scene (c.withNames lights bsdfs).scene)
      (hit .stock c group) (hit .stock (c.withNames lights bsdfs) group) := by
  have all : Stage.Follows (MatchFragments c.scene (c.withNames lights bsdfs).scene)
      (hitLights .stock c v) (hitLights .stock (c.withNames lights bsdfs) v) := by
    unfold hitLights
    cases v.usesLights with
    | false => exact .pure (Matches.fragments [])
    | true => exact (follows_askLights hl false).bind fun _ _ table => .pure (.source table)
  rw [hit_eq hd hv, hit_eq (c := c.withNames lights bsdfs) hd hv]
  refine (Stage.Follows.refl _).thenSame fun _ => (Stage.Follows.refl _).thenSame fun opening =>
    (Stage.Follows.refl _).thenSame fun database => all.bind fun _ _ table =>
    (follows_askMaterial hb group).bind fun _ _ block => (Stage.Follows.refl _).thenSame fun technique =>
    .pure (matches_program rfl rfl rfl ?_)
  have front := MatchFragments.append (Matches.fragments (opening ++ [.source database])) table
  have own := MatchFragments.append (Matches.fragments [samplesBinding c, materialBinding group])
    (.source block)
  exact ((front.append own).append (Matches.fragments technique)).append (Matches.fragments _)

include hl hb in
/-- The programs of a context follow those of the context with other names. -/
theorem follows_build (kind : ShaderKind) :
    Stage.Follows (MatchPrograms c.scene (c.withNames lights bsdfs).scene)
      (build .stock c kind) (build .stock (c.withNames lights bsdfs) kind) := by
  cases kind with
  | rayGeneration | callback => exact fun _ _ p gave => ⟨p, gave, .same _⟩
  | miss => exact follows_miss hl
  | shadowHit | shadowMiss => exact follows_shadow hl _
  | hit group =>
    intro t u p built
    obtain ⟨d, hd⟩ := requireDatabase_ok rfl built
    obtain ⟨v, hv⟩ := variant_ok hd rfl built
    exact follows_hit hl hb hd hv group t u p built

end Generation

end RayShader
