import RayShader.Generation.EntryPoint
import RayShader.Variant

/-!
# Generating variants

A variant is generated by filling every slot of its layout, in order. A technique is
generated variant by variant, either one after the other in the context itself, or by
tasks that each have a copy of it. The first failure ends the generation: there are no
incomplete variants and no incomplete techniques.
-/

namespace RayShader.Generation

/-- The programs of the selected variant. -/
def variant (e : Emitters) (c : Context) : Run (Variant String) := do
  let _ ← Run.ofExcept c.requireDatabase
  let info ← Run.ofExcept c.variant
  let programs ← (Variant.layout info c.hitGroups).mapM fun kind _ => source e c kind
  Run.log .info (s!"Technique variant {c.selected}: {programs.count} entry points, "
    ++ s!"{programs.sourceLength} bytes")
  pure programs

/-- Adds the diagnostic of an error. A fault of the caller has none. -/
def report (message : Error → String) (r : Run (List (Variant String))) :
    Run (List (Variant String)) :=
  match r.result with
  | .error (.error e) => ⟨r.events ++ [.log .error (message e)], r.result⟩
  | _ => r

/-- Selects and generates the variants from `index` on, so many of them. -/
def variantsFrom (e : Emitters) (index : Nat) : Nat → Stage Context (List (Variant String))
  | 0 => pure []
  | count + 1 => do
    let c ← Stage.get
    let c ← Stage.ofExcept (c.select index)
    Stage.modify fun _ => c
    let programs ← Stage.ofRun (variant e c)
    let more ← variantsFrom e (index + 1) count
    pure (programs :: more)

/-- Selects a variant again after a generation, if the technique has it. A fault of the caller
ends the generation at once, and leaves the selection that was reached. -/
def restore (previous : Nat) (result : Except Failure (List (Variant String))) (c : Context) :
    Context :=
  match result with
  | .error (.fault _) => c
  | .ok _ | .error (.error _) =>
    if previous < c.technique.count then { c with selected := previous } else c

/-- Generates every variant, one after the other. The selection is that of before
afterwards, whether the generation succeeds or ends with an error. -/
def all (e : Emitters) : Stage Context (List (Variant String)) := fun c =>
  let count := c.technique.count
  let opening := Run.log .info (s!"Generating {count} variant(s) of technique "
    ++ s!"'{c.techniqueKind}' for {c.target.architecture.title}")
  let (after, programs) := variantsFrom e 0 count c
  let programs :=
    report (fun e => s!"Technique variant {after.selected} failed, aborting compile: {e.message}") programs
  (restore c.selected programs.result after, do opening; programs)

/-- The task of one variant, on a copy of the context. -/
def task (e : Emitters) (c : Context) (index : Nat) : Run (Variant String) := do
  let c ← Run.ofExcept (c.select index)
  variant e c

/-- The results of tasks in the order of the variants, or the failure of the task that
comes first in `order`. -/
def collect (run : Nat → Run (Variant String)) (order : List Nat) (count : Nat) :
    Except Failure (List (Variant String)) := do
  order.forM fun index => discard (run index).result
  (List.range count).mapM fun index => (run index).result

/-- Generates every variant by a task of its own. The tasks run in the given order; the
variants come in theirs. -/
def byTasks (e : Emitters) (c : Context) (order : List Nat) : Run (List (Variant String)) := do
  let count := c.technique.count
  Run.log .info s!"Generating {count} variant(s) of technique '{c.techniqueKind}' in parallel"
  report (fun e => s!"Parallel generation aborted: {e.message}")
    ⟨order.flatMap fun index => (task e c index).events, collect (task e c) order count⟩

end RayShader.Generation
