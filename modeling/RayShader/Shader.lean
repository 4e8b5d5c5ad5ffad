import RayShader.Technique.Info

/-!
# Kinds of shaders

A variant of a technique is a set of shaders, each an exported function of a program of
its own. The function of a shader has a fixed name; shaders of the same name are told
apart by their programs.
-/

namespace RayShader

open Technique (Moment)

/-- The kind of a shader. -/
inductive ShaderKind where
  /-- Makes the rays of an iteration. -/
  | rayGeneration
  /-- Handles rays that left the scene. -/
  | miss
  /-- Handles rays that hit a material. -/
  | hit (group : Nat)
  /-- Handles shadow rays that hit something. -/
  | shadowHit
  /-- Handles shadow rays that left the scene. -/
  | shadowMiss
  /-- Runs once in an iteration. -/
  | callback (m : Moment)
  deriving DecidableEq

namespace ShaderKind

/-- The shader of shadow rays that hit something, or of those that did not. -/
def shadow (isHit : Bool) : ShaderKind := if isHit then shadowHit else shadowMiss

/-- The name of the exported function. -/
def entryPoint : ShaderKind → String
  | rayGeneration => "ig_ray_generation_shader"
  | miss => "ig_miss_shader"
  | hit _ => "ig_hit_shader"
  | shadowHit | shadowMiss => "ig_advanced_shadow_shader"
  | callback _ => "ig_callback_shader"

/-- The kind in a diagnostic. -/
def title : ShaderKind → String
  | rayGeneration => "ray generation"
  | miss => "miss"
  | hit group => s!"hit[{group}]"
  | shadowHit => "advanced shadow hit"
  | shadowMiss => "advanced shadow miss"
  | callback .before => "before-iteration callback"
  | callback .after => "after-iteration callback"

end ShaderKind

end RayShader
