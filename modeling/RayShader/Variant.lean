import RayShader.Shader

/-!
# Variants

A variant has a slot for each shader: one for ray generation and one for misses, one
for each hit group, and slots for shadow rays and callbacks that may be empty. What
fills the slots is a parameter: a program, or the handle of a compiled one.
-/

namespace RayShader

open Technique (Moment)

/-- The shaders of a variant. -/
structure Variant (α : Type) where
  /-- The shader that makes rays. -/
  rayGeneration : α
  /-- The shader of rays that left the scene. -/
  miss : α
  /-- The shaders of the hit groups, in order. -/
  hits : List α
  /-- The shader of shadow rays that hit something. -/
  shadowHit : Option α
  /-- The shader of shadow rays that left the scene. -/
  shadowMiss : Option α
  /-- The callback before an iteration. -/
  before : Option α
  /-- The callback after an iteration. -/
  after : Option α
  deriving DecidableEq

namespace Variant

variable {α β : Type}

/-- The callback of a moment. -/
def callback (v : Variant α) : Moment → Option α
  | .before => v.before
  | .after => v.after

/-- The hit groups from `group` on, with their kinds. -/
def hitSlots (group : Nat) : List α → List (ShaderKind × α)
  | [] => []
  | a :: rest => (.hit group, a) :: hitSlots (group + 1) rest

/-- A slot that may be empty, with its kind. -/
def optionalSlot (kind : ShaderKind) (a : Option α) : List (ShaderKind × α) :=
  (a.map (kind, ·)).toList

/-- The filled slots, in order. -/
def slots (v : Variant α) : List (ShaderKind × α) :=
  (.rayGeneration, v.rayGeneration) :: (.miss, v.miss) :: hitSlots 0 v.hits
    ++ optionalSlot .shadowHit v.shadowHit ++ optionalSlot .shadowMiss v.shadowMiss
    ++ optionalSlot (.callback .before) v.before ++ optionalSlot (.callback .after) v.after

/-- The number of filled slots. -/
def count (v : Variant α) : Nat := v.slots.length

section Map

variable {m : Type → Type} [Monad m]

/-- Computes the contents of the hit groups from `group` on. -/
def mapHitsM (f : ShaderKind → α → m β) (group : Nat) : List α → m (List β)
  | [] => pure []
  | a :: rest => do
    let b ← f (.hit group) a
    let more ← mapHitsM f (group + 1) rest
    pure (b :: more)

/-- Computes the contents of a slot that may be empty. -/
def mapSlotM (f : ShaderKind → α → m β) (kind : ShaderKind) : Option α → m (Option β)
  | none => pure none
  | some a => do
    let b ← f kind a
    pure (some b)

/-- Computes new contents for every filled slot, in order. -/
def mapM (f : ShaderKind → α → m β) (v : Variant α) : m (Variant β) := do
  let rayGeneration ← f .rayGeneration v.rayGeneration
  let miss ← f .miss v.miss
  let hits ← mapHitsM f 0 v.hits
  let shadowHit ← mapSlotM f .shadowHit v.shadowHit
  let shadowMiss ← mapSlotM f .shadowMiss v.shadowMiss
  let before ← mapSlotM f (.callback .before) v.before
  let after ← mapSlotM f (.callback .after) v.after
  pure ⟨rayGeneration, miss, hits, shadowHit, shadowMiss, before, after⟩

end Map

/-- New contents for every filled slot. -/
def map (f : ShaderKind → α → β) (v : Variant α) : Variant β :=
  Id.run (v.mapM fun kind a => pure (f kind a))

/-- The same slots are filled. -/
def isCongruent (v : Variant α) (w : Variant β) : Bool :=
  v.hits.length == w.hits.length && v.shadowHit.isSome == w.shadowHit.isSome
    && v.shadowMiss.isSome == w.shadowMiss.isSome
    && Moment.all.all fun m => (v.callback m).isSome == (w.callback m).isSome

/-- The bytes of all programs of a variant. -/
def sourceLength (v : Variant String) : Nat := 
  v.slots.foldr (fun (_, source) total => source.utf8ByteSize + total) 0

/-- The slots that a variant of a technique fills: shadow shaders where they are needed,
and the callbacks that it has. -/
def layout (info : Technique.VariantInfo) (hitGroups : Nat) : Variant Unit where
  rayGeneration := ()
  miss := ()
  hits := List.replicate hitGroups ()
  shadowHit := if info.needsShadowShaders then some () else none
  shadowMiss := if info.needsShadowShaders then some () else none
  before := if info.hasCallback .before then some () else none
  after := if info.hasCallback .after then some () else none

end Variant

end RayShader
