import RayShader.Generation.Variants
import RayShader.Proofs.Run
import Mathlib.Data.List.Basic

/-!
# Variants as lists of programs

A variant has one program for each of its shaders (`kinds`), and a technique has its
variants in order. So what holds of every program holds of a generation: the slots of a
variant are filled one after the other, and generating the variants in turn gives what
the tasks of the variants give, each on its own.
-/

namespace RayShader.Generation

open Technique (VariantInfo)

variable {α β ε : Type}

/-! ### The shaders of a variant -/

/-- The shaders of a variant, in order. -/
def kinds (v : VariantInfo) (hitGroups : Nat) : List ShaderKind :=
  [.rayGeneration, .miss] ++ (List.range hitGroups).map .hit
    ++ (if v.shadowMode = .advanced then [.shadowHit, .shadowMiss] else [])
    ++ (if v.hasCallback .before then [.callback .before] else [])
    ++ (if v.hasCallback .after then [.callback .after] else [])

/-- The slots of a layout are those of the shaders of the variant. -/
theorem slots_layout (v : VariantInfo) (hitGroups : Nat) :
    (Variant.layout v hitGroups).slots = (kinds v hitGroups).map (·, ()) := by
  have hits (n group : Nat) : Variant.hitSlots group (List.replicate n ())
      = (List.range' group n).map fun g => (.hit g, ()) := by
    induction n generalizing group with
    | zero => rfl
    | succ n ih => simp [List.replicate_succ, Variant.hitSlots, List.range'_succ, ih]
  simp only [Variant.layout, Variant.slots, kinds, hits, List.range_eq_range',
    VariantInfo.needsShadowShaders]
  by_cases hs : v.shadowMode = .advanced <;> cases v.hasCallback .before <;>
    cases v.hasCallback .after <;> simp [hs, Variant.optionalSlot]

theorem mem_kinds_hit {v : VariantInfo} {hitGroups group : Nat}
    (h : .hit group ∈ kinds v hitGroups) : group < hitGroups := by
  by_cases hs : v.shadowMode = .advanced <;> cases v.hasCallback .before <;>
    cases v.hasCallback .after <;> simpa [kinds, hs] using h

theorem mem_kinds_callback {v : VariantInfo} {hitGroups : Nat} {m : Technique.Moment}
    (h : .callback m ∈ kinds v hitGroups) : v.hasCallback m = true := by
  cases hm : v.hasCallback m with
  | true => rfl
  | false =>
    cases m <;> by_cases hs : v.shadowMode = .advanced <;> cases v.hasCallback .before <;>
      cases v.hasCallback .after <;> simp_all [kinds]

/-! ### Failures of filling slots -/

section FailsOnly

variable {P : Failure → Prop} {f : ShaderKind → α → Run β}

theorem failsOnly_bind {x : Run α} {g : α → Run β} (hx : FailsOnly P x.result)
    (hg : ∀ a, x.result = .ok a → FailsOnly P (g a).result) : FailsOnly P (x.bind g).result := by
  rw [Run.result_bind]
  exact hx.bind hg

theorem failsOnly_mapHitsM {hits : List α} {group : Nat}
    (h : ∀ s ∈ Variant.hitSlots group hits, FailsOnly P (f s.1 s.2).result) :
    FailsOnly P (Variant.mapHitsM f group hits).result := by
  induction hits generalizing group with
  | nil => exact .ok _
  | cons a rest ih =>
    obtain ⟨first, others⟩ := List.forall_mem_cons.mp h
    exact failsOnly_bind first fun _ _ => failsOnly_bind (ih others) fun _ _ => .ok _

theorem failsOnly_mapSlotM {kind : ShaderKind} {slot : Option α}
    (h : ∀ s ∈ Variant.optionalSlot kind slot, FailsOnly P (f s.1 s.2).result) :
    FailsOnly P (Variant.mapSlotM f kind slot).result := by
  cases slot with
  | none => exact .ok _
  | some a => exact failsOnly_bind (h _ (List.mem_singleton_self _)) fun _ _ => .ok _

/-- Filling the slots of a variant fails only as filling one of them does. -/
theorem failsOnly_mapM {v : Variant α} (h : ∀ s ∈ v.slots, FailsOnly P (f s.1 s.2).result) :
    FailsOnly P (v.mapM f).result := by
  simp only [Variant.slots, List.forall_mem_append, List.forall_mem_cons] at h
  obtain ⟨⟨⟨⟨⟨rayGeneration, miss, hits⟩, shadowHit⟩, shadowMiss⟩, before⟩, after⟩ := h
  exact failsOnly_bind rayGeneration fun _ _ => failsOnly_bind miss fun _ _ =>
    failsOnly_bind (failsOnly_mapHitsM hits) fun _ _ =>
    failsOnly_bind (failsOnly_mapSlotM shadowHit) fun _ _ =>
    failsOnly_bind (failsOnly_mapSlotM shadowMiss) fun _ _ =>
    failsOnly_bind (failsOnly_mapSlotM before) fun _ _ =>
    failsOnly_bind (failsOnly_mapSlotM after) fun _ _ => .ok _

end FailsOnly

/-! ### The variants of a technique -/

variable {e : Emitters} {c : Context}

/-- Generating from a variant on selects it, and generates it and those behind it. -/
theorem variantsFrom_succ {index : Nat} (h : index < c.technique.count) (n : Nat) :
    variantsFrom e index (n + 1) c =
      ((Stage.ofRun (variant e { c with selected := index })).bind fun programs =>
        (variantsFrom e (index + 1) n).bind fun more => pure (programs :: more))
        { c with selected := index } := by
  show (Stage.ofExcept (c.select index)).bind _ c = _
  rw [Context.select, if_pos h]
  rfl

theorem task_eq {index : Nat} (h : index < c.technique.count) :
    (task e c index).result = (variant e { c with selected := index }).result := by
  rw [task, Context.select, if_pos h, Run.bind_eq, Run.result_bind]
  rfl

/-- Generating variants in turn gives what their tasks give, whatever is selected before. -/
theorem result_variantsFrom (n : Nat) {index : Nat} (h : index + n ≤ c.technique.count) :
    (variantsFrom e index n c).2.result
      = (List.range' index n).mapM fun index => (task e c index).result := by
  induction n generalizing index c with
  | zero => rfl
  | succ n ih =>
    have in_range : index < c.technique.count := by omega
    set selected : Context := { c with selected := index } with hs
    have rest : (variantsFrom e (index + 1) n selected).2.result
        = (List.range' (index + 1) n).mapM fun index => (task e c index).result :=
      ih (show index + 1 + n ≤ c.technique.count by omega)
    rw [variantsFrom_succ in_range, List.range'_succ, List.mapM_cons, task_eq in_range, ← rest,
      Stage.result_ofRun_bind]
    simp only [Stage.result_bind_pure]
    rfl

theorem result_report (message : Error → String) (r : Run (List (Variant String))) :
    (report message r).result = r.result := by
  rcases r with ⟨events, (e | f) | vs⟩ <;> rfl

/-- Diagnostics have no part in the result of a generation. -/
theorem result_all_eq (e : Emitters) (c : Context) :
    (all e c).2.result = (variantsFrom e 0 c.technique.count c).2.result :=
  (Run.result_bind _ _).trans (result_report _ _)

/-- Generating all variants in turn gives what their tasks give. -/
theorem result_all : (all e c).2.result
    = (List.range c.technique.count).mapM fun index => (task e c index).result := by
  rw [List.range_eq_range', ← result_variantsFrom _ (by omega), result_all_eq]

/-! ### The tasks of a technique -/

theorem result_byTasks (order : List Nat) :
    (byTasks e c order).result = collect (task e c) order c.technique.count :=
  (Run.result_bind _ _).trans (result_report _ _)

/-- Tasks that all succeed are collected in the order of the variants. -/
theorem collect_eq_ok {run : Nat → Run (Variant String)} {order : List Nat} {count : Nat}
    (h : ∀ index ∈ order, index < count) {variants : List (Variant String)} :
    collect run order count = .ok variants
      ↔ ((List.range count).mapM fun index => (run index).result) = .ok variants := by
  constructor
  · intro collected
    obtain ⟨_, -, collected⟩ := except_bind_eq_ok.mp collected
    exact collected
  · intro all
    refine except_bind_eq_ok.mpr ⟨(), except_forM_ok fun index mem => ?_, all⟩
    have each := except_mapM_eq_ok.mp all
    obtain ⟨i, hi, rfl⟩ := List.getElem_of_mem (List.mem_range.mpr (h index mem))
    have succeeded := each.get (i := i) hi (each.length_eq ▸ hi)
    rw [List.get_eq_getElem] at succeeded
    rw [succeeded]
    rfl

/-- The failure of a collection is that of a task. -/
theorem failsOnly_collect {run : Nat → Run (Variant String)} {order : List Nat} {count : Nat}
    (h : ∀ index ∈ order, index < count) :
    FailsOnly (fun f => ∃ index < count, (run index).result = .error f)
      (collect run order count) := by
  refine .bind (.forM fun index mem f failed => ?_) fun _ _ => .mapM fun index mem f failed =>
    ⟨index, List.mem_range.mp mem, failed⟩
  refine ⟨index, h index mem, ?_⟩
  cases ran : (run index).result with
  | error f' =>
    rw [ran] at failed
    exact congrArg Except.error (Except.error.inj failed)
  | ok v =>
    rw [ran] at failed
    cases failed

/-- A task that fails first gives its failure to the collection. -/
theorem collect_of_first {run : Nat → Run (Variant String)} {index : Nat} {f : Failure}
    (h : (run index).result = .error f) (rest : List Nat) (count : Nat) :
    collect run (index :: rest) count = .error f := by
  have stopped : (index :: rest).forM (fun index => discard (run index).result) = .error f := by
    rw [List.forM, h]
    rfl
  rw [collect, stopped]
  rfl

end RayShader.Generation
