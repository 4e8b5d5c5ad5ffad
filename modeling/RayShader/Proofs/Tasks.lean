import RayShader.Proofs.Operations

/-!
# Variants by tasks

The tasks of a technique run in any order, each on a copy of the context. Of a collection
of their results only this is assumed (`Collects`): it gives all values in order, or the
failure of some task. Every order of the tasks gives such a collection, and every such
collection comes of an order (`collects_iff`), so the order stands for whatever a schedule
may do.

As a variant depends on the context and its own index only, the results of the tasks are
what generating the variants one after the other gives.
-/

namespace RayShader.Generation

open Context (Operation)

variable {α : Type} {e : Emitters} {c : Context} {order : List Nat}

/-- What may come of collecting results: all values in order where every result has one,
and otherwise a failure among them. -/
def Collects (results : List (Except Failure α)) : Except Failure (List α) → Prop
  | .ok values => results = values.map .ok
  | .error f => .error f ∈ results

/-- The results of the tasks, variant by variant. -/
def taskResults (e : Emitters) (c : Context) : List (Except Failure (Variant String)) :=
  (List.range c.technique.count).map fun index => (task e c index).result

/-- Going through the variants in turn succeeds just where all tasks do. -/
theorem taskResults_eq_map_ok {variants : List (Variant String)} :
    taskResults e c = variants.map .ok
      ↔ ((List.range c.technique.count).mapM fun index => (task e c index).result)
        = .ok variants := by
  rw [except_mapM_eq_ok, taskResults, ← List.forall₂_eq_eq_eq, List.forall₂_map_left_iff,
    List.forall₂_map_right_iff]

theorem error_mem_taskResults {f : Failure} :
    .error f ∈ taskResults e c
      ↔ ∃ index < c.technique.count, (task e c index).result = .error f := by
  simp [taskResults]

/-- Tasks in any order are collected. -/
theorem collects_byTasks (ho : ∀ index ∈ order, index < c.technique.count) :
    Collects (taskResults e c) (byTasks e c order).result := by
  rw [result_byTasks]
  cases h : collect (task e c) order c.technique.count with
  | ok variants =>
    show taskResults e c = variants.map .ok
    exact taskResults_eq_map_ok.mpr ((collect_eq_ok ho).mp h)
  | error f =>
    show .error f ∈ taskResults e c
    exact error_mem_taskResults.mpr (failsOnly_collect ho f h)

/-- What may come of collecting the results of the tasks is what comes of running them in
some order. A failure comes of running its own task first. -/
theorem collects_iff {r : Except Failure (List (Variant String))} :
    Collects (taskResults e c) r
      ↔ ∃ order, order.Perm (List.range c.technique.count) ∧ (byTasks e c order).result = r := by
  constructor
  · intro h
    cases r with
    | ok variants =>
      refine ⟨List.range c.technique.count, .refl _, ?_⟩
      rw [result_byTasks, collect_eq_ok fun index mem => List.mem_range.mp mem]
      exact taskResults_eq_map_ok.mp h
    | error f =>
      obtain ⟨index, lt, failed⟩ := error_mem_taskResults.mp h
      have mem : index ∈ List.range c.technique.count := List.mem_range.mpr lt
      refine ⟨index :: (List.range c.technique.count).erase index,
        (List.perm_cons_erase mem).symm, ?_⟩
      rw [result_byTasks]
      exact collect_of_first failed _ _
  · rintro ⟨order, perm, rfl⟩
    apply collects_byTasks
    intro index mem
    exact List.mem_range.mp (perm.mem_iff.mp mem)

/-- **Tasks give what generating in turn gives.** Whatever the order of the tasks, they
succeed just where the generation of the variants in turn does, and with the same
variants. A failure of theirs is that of generating some variant after selecting it in a
copy of the context, and the context itself is as before. The orders give all that a
collection of the results may give. -/
theorem tasks_agree (ho : order.Perm (List.range c.technique.count)) :
    (∀ variants, (byTasks e c order).result = .ok variants
      ↔ (all e c).2.result = .ok variants) ∧
    (∀ f, (byTasks e c order).result = .error f →
      ∃ index copy, c.select index = .ok copy ∧ (variant e copy).result = .error f) ∧
    ((Operation.generateByTasks e order).perform c).1 = c ∧
    ∀ r, Collects (taskResults e c) r
      ↔ ∃ order, order.Perm (List.range c.technique.count) ∧ (byTasks e c order).result = r := by
  have in_range : ∀ index ∈ order, index < c.technique.count :=
    fun index mem => List.mem_range.mp (ho.mem_iff.mp mem)
  refine ⟨fun variants => ?_, fun f failed => ?_, ?_, fun r => collects_iff⟩
  · rw [result_byTasks, collect_eq_ok in_range, result_all]
  · rw [result_byTasks] at failed
    obtain ⟨index, lt, failed⟩ := failsOnly_collect in_range f failed
    refine ⟨index, { c with selected := index }, ?_, ?_⟩
    · rw [Context.select, if_pos lt]
    · rw [← task_eq lt, failed]
  · exact Stage.state_bind_pure (Stage.ofRun (byTasks e c order)) (fun _ => ()) c

/-- Collaborators that know the technique of no variant. -/
def withoutTechniques : Emitters :=
  { Emitters.stock with technique := fun c => .error (.error (.unknownHitGroup c.selected 0)) }

theorem second_task_fails_first :
    ∃ c, (Context.ofScene .empty ⟨[default, default], []⟩ .standard).result = .ok c ∧
      (byTasks withoutTechniques (c.prepare ⟨0, 0⟩ 0) [1, 0]).result
        = .error (.error (.unknownHitGroup 1 0)) ∧
      (all withoutTechniques (c.prepare ⟨0, 0⟩ 0)).2.result
        = .error (.error (.unknownHitGroup 0 0)) ∧
      ∃ index copy, (c.prepare ⟨0, 0⟩ 0).select index = .ok copy ∧
        (variant withoutTechniques copy).result = .error (.error (.unknownHitGroup 1 0)) := by
  obtain ⟨c, made, two, tasks, turns⟩ :
      ∃ c, (Context.ofScene .empty ⟨[default, default], []⟩ .standard).result = .ok c ∧
        (c.prepare ⟨0, 0⟩ 0).technique.count = 2 ∧
        (byTasks withoutTechniques (c.prepare ⟨0, 0⟩ 0) [1, 0]).result
          = .error (.error (.unknownHitGroup 1 0)) ∧
        (all withoutTechniques (c.prepare ⟨0, 0⟩ 0)).2.result
          = .error (.error (.unknownHitGroup 0 0)) := ⟨_, rfl, rfl, rfl, rfl⟩
  have ho : [1, 0].Perm (List.range (c.prepare ⟨0, 0⟩ 0).technique.count) := by
    rw [two]
    exact List.Perm.swap 0 1 []
  exact ⟨c, made, tasks, turns, (tasks_agree ho).2.1 _ tasks⟩

end RayShader.Generation
