import RayShader.Proofs.Variants

/-!
# The order of requests

Generation asks its collaborators for the parts of programs. Which requests it makes,
and in which order, is fixed by the context alone: the *schedule* lists them, program
by program. What the collaborators answer decides only how far generation gets. It goes
through the schedule up to the first request that is refused, and ends with the failure
that the refusal is.

The schedule is followed step by step. `Asks` says of a piece of a generator that it
makes given requests; it composes over going on (`Asks.bind`), so that each generator is
a short calculation, and the variants of a technique follow by induction.
-/

namespace RayShader

open Event (Request)
open Technique (Moment VariantInfo)

variable {α β : Type}

/-! ### Inquiries -/

/-- What came of asking. -/
structure Inquiry where
  /-- The requests that were made, in order. -/
  asked : List Request
  /-- The failure that ended the asking, if one did. -/
  failure : Option Failure
  deriving DecidableEq

namespace Inquiry

/-- Nothing was asked. -/
def nothing : Inquiry := ⟨[], none⟩

/-- Goes on asking, unless the first inquiry failed. -/
def andThen (x y : Inquiry) : Inquiry :=
  match x.failure with
  | none => ⟨x.asked ++ y.asked, y.failure⟩
  | some f => ⟨x.asked, some f⟩

/-- Inquiries one after the other, up to the first that fails. -/
def all : List Inquiry → Inquiry
  | [] => nothing
  | x :: rest => x.andThen (all rest)

@[simp] theorem andThen_nothing (x : Inquiry) : x.andThen nothing = x := by
  rcases x with ⟨asked, _ | f⟩ <;> simp [andThen, nothing]

theorem andThen_assoc (x y z : Inquiry) : (x.andThen y).andThen z = x.andThen (y.andThen z) := by
  rcases x with ⟨asked, _ | f⟩
  · rcases y with ⟨more, _ | f⟩ <;> simp [andThen]
  · rfl

theorem all_append (xs ys : List Inquiry) : all (xs ++ ys) = (all xs).andThen (all ys) := by
  induction xs with
  | nil => rfl
  | cons x xs ih => simp only [List.cons_append, all, ih, andThen_assoc]

end Inquiry

/-- The failure that a result is. -/
def failure? : Except Failure α → Option Failure
  | .ok _ => none
  | .error f => some f

theorem failure?_eq_some {r : Except Failure α} {f : Failure} :
    failure? r = some f ↔ r = .error f := by
  cases r <;> simp [failure?]

namespace Run

/-- The requests that a run makes. -/
def requests (r : Run α) : List Request := r.events.filterMap Event.request?

/-- The requests of a run and its failure. -/
def inquiry (r : Run α) : Inquiry := ⟨r.requests, failure? r.result⟩

theorem inquiry_bind {x : Run α} {f : α → Run β} {i : Inquiry}
    (h : ∀ a, x.result = .ok a → (f a).inquiry = i) : (x.bind f).inquiry = x.inquiry.andThen i := by
  cases hx : x.result with
  | ok a =>
    rw [bind_of_ok hx, ← h a hx]
    simp [inquiry, requests, failure?, hx, Inquiry.andThen]
  | error e =>
    rw [bind_of_error hx]
    simp [inquiry, requests, failure?, hx, Inquiry.andThen]

/-- Diagnostics are no requests. -/
theorem inquiry_bind_log (x : Run α) (level : Event.Level) (message : α → String) (f : α → β) :
    (x.bind fun a => (log level (message a)).bind fun _ => pure (f a)).inquiry = x.inquiry := by
  refine (inquiry_bind (i := .nothing) fun _ _ => ?_).trans (Inquiry.andThen_nothing _)
  exact inquiry_bind fun _ _ => rfl

end Run

theorem Stage.inquiry_bind {σ : Type} {x : Stage σ α} {f : α → Stage σ β} {s : σ} {i : Inquiry}
    (h : ∀ t events a, x s = (t, ⟨events, .ok a⟩) → (f a t).2.inquiry = i) :
    (x.bind f s).2.inquiry = (x s).2.inquiry.andThen i := by
  rcases hx : x s with ⟨t, events, e | a⟩
  · rw [bind_of_error hx]
    simp [Run.inquiry, Run.requests, failure?, Inquiry.andThen]
  · rw [bind_of_ok hx, ← h t events a hx]
    simp [Run.inquiry, Run.requests, failure?, Inquiry.andThen]

/-! ### Asking emitters -/

namespace Emitters

/-- What an emitter makes of a request on the tree of a program: the tree afterwards, and
the failure if it refuses. -/
def refusal (e : Emitters) (c : Context) (t : ShadingTree) :
    Request → ShadingTree × Option Failure
  | .info kind => (t, failure? (e.describe kind c.scene).result)
  | .header rayGeneration => (t, failure? (e.header c rayGeneration))
  | .technique => (t, failure? (e.technique c))
  | .callback m => (t, failure? (e.callback c m))
  | .lights restricted => ((e.lights c restricted t).1, failure? (e.lights c restricted t).2)
  | .camera => (t, failure? (e.camera c))
  | .material group => ((e.material c group t).1, failure? (e.material c group t).2)
  | .device | .database => (t, none)

/-- Makes the requests of one program in order, up to the first refused. -/
def inquire (e : Emitters) (c : Context) : List Request → ShadingTree → ShadingTree × Inquiry
  | [], t => (t, .nothing)
  | r :: rest, t =>
    match e.refusal c t r with
    | (t, some f) => (t, ⟨[r], some f⟩)
    | (t, none) => ((e.inquire c rest t).1, .andThen ⟨[r], none⟩ (e.inquire c rest t).2)

/-- Makes the requests of programs in order, each on a tree of its own, up to the first
refused. -/
def inquireAll (e : Emitters) (programs : List (Context × List Request)) : Inquiry :=
  .all (programs.map fun (c, rs) => (e.inquire c rs .empty).2)

variable {e : Emitters} {c : Context}

theorem inquireAll_append (xs ys : List (Context × List Request)) :
    e.inquireAll (xs ++ ys) = (e.inquireAll xs).andThen (e.inquireAll ys) := by
  rw [inquireAll, List.map_append, Inquiry.all_append]
  rfl

theorem inquire_append (rs rs' : List Request) (t : ShadingTree) :
    e.inquire c (rs ++ rs') t =
      match e.inquire c rs t with
      | (t, ⟨asked, some f⟩) => (t, ⟨asked, some f⟩)
      | (t, ⟨asked, none⟩) =>
        ((e.inquire c rs' t).1, .andThen ⟨asked, none⟩ (e.inquire c rs' t).2) := by
  induction rs generalizing t with
  | nil => rfl
  | cons r rs ih =>
    simp only [List.cons_append, inquire]
    rcases e.refusal c t r with ⟨t', _ | f⟩
    · simp only [ih]
      rcases e.inquire c rs t' with ⟨t'', asked, _ | f⟩ <;> simp [Inquiry.andThen]
    · rfl

/-- Asked in the order of `asked` on a new tree, the emitters answer all of it, and then
refuse `r` with the failure `f`. -/
def Refuses (e : Emitters) (c : Context) (asked : List Request) (r : Request) (f : Failure) :
    Prop :=
  ∃ t, e.inquire c asked .empty = (t, ⟨asked, none⟩) ∧ (e.refusal c t r).2 = some f

/-- The inquiry goes through all requests of all programs and every one is answered, or
it ends with the first request that is refused, and with that failure. -/
def Follows (e : Emitters) (programs : List (Context × List Request)) (i : Inquiry) : Prop :=
  i = ⟨programs.flatMap (·.2), none⟩ ∨
    ∃ before c asked r later after f, programs = before ++ (c, asked ++ r :: later) :: after ∧
      e.inquireAll before = ⟨before.flatMap (·.2), none⟩ ∧ e.Refuses c asked r f ∧
      i = ⟨before.flatMap (·.2) ++ asked ++ [r], some f⟩

theorem inquire_cases (rs : List Request) (t : ShadingTree) :
    (∃ u, e.inquire c rs t = (u, ⟨rs, none⟩)) ∨
      ∃ asked r later u f, rs = asked ++ r :: later ∧ e.inquire c asked t = (u, ⟨asked, none⟩) ∧
        (e.refusal c u r).2 = some f ∧ (e.inquire c rs t).2 = ⟨asked ++ [r], some f⟩ := by
  induction rs generalizing t with
  | nil => exact .inl ⟨t, rfl⟩
  | cons r rs ih =>
    rcases hr : e.refusal c t r with ⟨u, _ | f⟩
    · rcases ih u with ⟨v, hv⟩ | ⟨asked, r', later, v, f, rfl, answered, refused, stopped⟩
      · exact .inl ⟨v, by simp [inquire, hr, hv, Inquiry.andThen]⟩
      · exact .inr ⟨r :: asked, r', later, v, f, rfl,
          by simp [inquire, hr, answered, Inquiry.andThen], refused,
          by simp [inquire, hr, stopped, Inquiry.andThen]⟩
    · exact .inr ⟨[], r, rs, t, f, rfl, rfl, by rw [hr], by simp [inquire, hr]⟩

/-- An inquiry into programs stops only where a request is refused. -/
theorem follows_inquireAll (programs : List (Context × List Request)) :
    e.Follows programs (e.inquireAll programs) := by
  induction programs with
  | nil => exact .inl rfl
  | cons p programs ih =>
    obtain ⟨c, rs⟩ := p
    have split : e.inquireAll ((c, rs) :: programs) =
        (e.inquire c rs .empty).2.andThen (e.inquireAll programs) := rfl
    rcases inquire_cases (e := e) (c := c) rs .empty with
      ⟨u, hu⟩ | ⟨asked, r, later, u, f, rfl, answered, refused, stopped⟩
    · rw [hu] at split
      rcases ih with all | ⟨before, c', asked, r, later, after, f, rfl, earlier, refuses, stopped⟩
      · exact .inl (by rw [split, all]; rfl)
      · refine .inr ⟨(c, rs) :: before, c', asked, r, later, after, f, rfl, ?_, refuses, ?_⟩
        · rw [show e.inquireAll ((c, rs) :: before) =
            (e.inquire c rs .empty).2.andThen (e.inquireAll before) from rfl, hu, earlier]
          rfl
        · rw [split, stopped]
          simp [Inquiry.andThen]
    · refine .inr ⟨[], c, asked, r, later, programs, f, rfl, rfl, ⟨u, answered, refused⟩, ?_⟩
      rw [split, stopped]
      rfl

/-- The stage makes the requests, and no others, up to the first refused. -/
def Asks (e : Emitters) (c : Context) (x : Stage ShadingTree α) (rs : List Request) : Prop :=
  ∀ t, ((x t).1, (x t).2.inquiry) = e.inquire c rs t

namespace Asks

theorem pure (a : α) : e.Asks c (pure a) [] := fun _ => rfl

theorem bind {x : Stage ShadingTree α} {f : α → Stage ShadingTree β} {rs rs' : List Request}
    (hx : e.Asks c x rs) (hf : ∀ a, e.Asks c (f a) rs') : e.Asks c (x.bind f) (rs ++ rs') := by
  intro t
  have h := hx t
  rw [inquire_append, ← h]
  rcases ht : x t with ⟨u, events, err | a⟩
  · rw [Stage.bind_of_error ht]
    rfl
  · rw [Stage.bind_of_ok ht]
    have h' := hf a u
    simp only [Run.inquiry, failure?] at h' ⊢
    rw [← h']
    simp [Run.requests, Inquiry.andThen]

theorem of_eq {x : Stage ShadingTree α} {rs rs' : List Request} (hx : e.Asks c x rs)
    (h : rs = rs') : e.Asks c x rs' := h ▸ hx

/-- One request, whose answer is the rest of the stage. -/
theorem ask {r : Request} {x : Stage ShadingTree α}
    (h : ∀ t, ((x t).1, (x t).2.inquiry) = ((e.refusal c t r).1, ⟨[], (e.refusal c t r).2⟩)) :
    e.Asks c ((Stage.ask r).bind fun _ => x) [r] := by
  intro t
  have h' := h t
  rw [Prod.mk.injEq, Run.inquiry, Inquiry.mk.injEq] at h'
  obtain ⟨state, asked, failure⟩ := h'
  have asked_first : Stage.ask r t = (t, ⟨[.ask r], .ok ()⟩) := rfl
  rw [Stage.bind_of_ok asked_first]
  simp only [inquire]
  rcases hr : e.refusal c t r with ⟨u, _ | f⟩
  · simp_all [Run.inquiry, Run.requests, Event.request?, Inquiry.andThen, Inquiry.nothing]
  · simp_all [Run.inquiry, Run.requests, Event.request?]

theorem header (rayGeneration : Bool) :
    e.Asks c (e.askHeader c rayGeneration) [.header rayGeneration] := ask fun _ => rfl

theorem technique : e.Asks c (e.askTechnique c) [.technique] := ask fun _ => rfl

theorem callback (m : Moment) : e.Asks c (e.askCallback c m) [.callback m] := ask fun _ => rfl

theorem camera : e.Asks c (e.askCamera c) [.camera] := ask fun _ => rfl

theorem lights (restricted : Bool) : e.Asks c (e.askLights c restricted) [.lights restricted] :=
  ask fun _ => rfl

theorem material (group : Nat) : e.Asks c (e.askMaterial c group) [.material group] :=
  ask fun _ => rfl

theorem device (target : Target) : e.Asks c (e.askDevice target) [.device] := ask fun _ => rfl

theorem database : e.Asks c e.askDatabase [.database] := ask fun _ => rfl

end Asks

end Emitters

/-! ### The schedule -/

namespace Generation

/-- The requests for the table of lights: none for a variant that does not use lights,
and otherwise the scene database, if the program has it, and the table, which is whole
only in a program with the database. -/
def lightRequests (v : VariantInfo) (withDatabase : Bool) : List Request :=
  if v.usesLights then (if withDatabase then [.database] else []) ++ [.lights !withDatabase]
  else []

/-- The requests of the program of a shader. -/
def requests (c : Context) (v : VariantInfo) : ShaderKind → List Request
  | .rayGeneration =>
    [.header true, .device] ++ (if c.isTracer then [] else [.camera]) ++ [.technique]
  | .miss =>
    [.header false, .device] ++ lightRequests v v.usesAllLightsInMiss ++ [.technique]
  | .hit group =>
    [.header false, .device, .database] ++ (if v.usesLights then [.lights false] else [])
      ++ [.material group, .technique]
  | .shadowHit => [.header false, .device] ++ lightRequests v true ++ [.technique]
  | .shadowMiss =>
    [.header false, .device] ++ lightRequests v v.usesAllLightsInMiss ++ [.technique]
  | .callback m => [.header false, .device, .callback m]

/-- The requests of the programs of a variant, program by program, in the context that
has the variant selected. -/
def variantSchedule (c : Context) (v : VariantInfo) : List (Context × List Request) :=
  (kinds v c.hitGroups).map fun kind => (c, requests c v kind)

/-- The requests of the programs of variants that are numbered from `index` on. -/
def scheduleFrom (c : Context) (index : Nat) : List VariantInfo → List (Context × List Request)
  | [] => []
  | v :: rest =>
    variantSchedule { c with selected := index } v ++ scheduleFrom c (index + 1) rest

/-- **The schedule** of a context: the requests of all programs, variant by variant. -/
def schedule (c : Context) : List (Context × List Request) := scheduleFrom c 0 c.technique.variants

/-! ### Programs follow the schedule -/

section Programs

variable {e : Emitters} {c : Context} {v : VariantInfo} {d : Scene.Database}

theorem asks_prologue : e.Asks c (prologue e c) [.device] :=
  (Emitters.Asks.device c.target).bind fun _ => .pure _

theorem asks_techniqueLines : e.Asks c (techniqueLines e c) [.technique] :=
  Emitters.Asks.technique.bind fun _ => .pure _

theorem asks_lightLines (withDatabase : Bool) :
    e.Asks c (lightLines e c v withDatabase) (lightRequests v withDatabase) := by
  unfold lightLines lightRequests
  cases v.usesLights with
  | false => exact .pure _
  | true =>
    cases withDatabase with
    | false => exact (Emitters.Asks.lights true).bind fun _ => .pure _
    | true =>
      simp only [if_true, Stage.bind_eq]
      exact Emitters.Asks.database.bind fun _ =>
        (Emitters.Asks.pure _).bind fun _ => (Emitters.Asks.lights false).bind fun _ => .pure _

theorem asks_rayGeneration (hd : c.requireDatabase = .ok d) :
    e.Asks c (rayGeneration e c) (requests c v .rayGeneration) := by
  have emitter : e.Asks c (emitterLines e c) (if c.isTracer then [] else [.camera]) := by
    unfold emitterLines
    cases c.isTracer with
    | false => exact Emitters.Asks.camera.bind fun _ => .pure _
    | true => exact .pure _
  simp only [rayGeneration, hd, Stage.bind_eq, Stage.ofExcept_ok_bind]
  refine ((Emitters.Asks.header true).bind fun _ => asks_prologue.bind fun _ =>
    emitter.bind fun _ => asks_techniqueLines.bind fun _ => .pure _).of_eq ?_
  simp [requests]

theorem asks_miss (hd : c.requireDatabase = .ok d) (hv : c.variant = .ok v) :
    e.Asks c (miss e c) (requests c v .miss) := by
  simp only [miss, hd, hv, Stage.bind_eq, Stage.ofExcept_ok_bind]
  refine ((Emitters.Asks.header false).bind fun _ => asks_prologue.bind fun _ =>
    (asks_lightLines v.usesAllLightsInMiss).bind fun _ =>
      asks_techniqueLines.bind fun _ => .pure _).of_eq ?_
  simp [requests]

/-- The table of lights of a hit group, as a stage of its own. -/
def hitLights (e : Emitters) (c : Context) (v : VariantInfo) :
    Stage ShadingTree (List Program.Fragment) :=
  if v.usesLights then (e.askLights c false).bind fun lights => pure [.source lights] else pure []

theorem hit_eq (hd : c.requireDatabase = .ok d) (hv : c.variant = .ok v) (group : Nat) :
    hit e c group =
      (e.askHeader c false).bind fun preamble => (prologue e c).bind fun opening =>
      e.askDatabase.bind fun database => (hitLights e c v).bind fun lights =>
      (e.askMaterial c group).bind fun material => (techniqueLines e c).bind fun technique =>
      pure {
        preamble := preamble
        entry := hitEntry group
        body := opening ++ [.source database] ++ lights
          ++ [samplesBinding c, materialBinding group, .source material]
          ++ technique ++ [framebufferBinding v]
        result := .forward "device" "handle_hit_shader"
          ["entity_id", "material_id", "shader", "technique", "first", "last", "spp",
            "use_framebuffer"] } := by
  simp only [hit, hd, hv, Stage.bind_eq, Stage.ofExcept_ok_bind, hitLights]
  cases v.usesLights with
  | false => rfl
  | true => simp only [if_true, Stage.bind_assoc]

theorem asks_hitLights :
    e.Asks c (hitLights e c v) (if v.usesLights then [.lights false] else []) := by
  unfold hitLights
  cases v.usesLights with
  | false => exact .pure _
  | true => exact (Emitters.Asks.lights false).bind fun _ => .pure _

theorem asks_hit (hd : c.requireDatabase = .ok d) (hv : c.variant = .ok v) (group : Nat) :
    e.Asks c (hit e c group) (requests c v (.hit group)) := by
  rw [hit_eq hd hv]
  refine ((Emitters.Asks.header false).bind fun _ => asks_prologue.bind fun _ =>
    Emitters.Asks.database.bind fun _ => asks_hitLights.bind fun _ =>
      (Emitters.Asks.material group).bind fun _ => asks_techniqueLines.bind fun _ =>
        .pure _).of_eq ?_
  simp [requests]

theorem asks_shadow (hd : c.requireDatabase = .ok d) (hv : c.variant = .ok v) (isHit : Bool) :
    e.Asks c (shadow e c isHit) (requests c v (.shadow isHit)) := by
  simp only [shadow, hd, hv, Stage.bind_eq, Stage.ofExcept_ok_bind]
  refine ((Emitters.Asks.header false).bind fun _ => asks_prologue.bind fun _ =>
    (asks_lightLines (isHit || v.usesAllLightsInMiss)).bind fun _ =>
      asks_techniqueLines.bind fun _ => .pure _).of_eq ?_
  cases isHit <;> simp [requests, ShaderKind.shadow]

theorem asks_callback (hd : c.requireDatabase = .ok d) (m : Moment) :
    e.Asks c (callback e c m) (requests c v (.callback m)) := by
  simp only [callback, hd, Stage.bind_eq, Stage.ofExcept_ok_bind]
  refine ((Emitters.Asks.header false).bind fun _ => asks_prologue.bind fun _ =>
    (Emitters.Asks.callback m).bind fun _ => .pure _).of_eq ?_
  simp [requests]

/-- The program of every shader follows its part of the schedule. -/
theorem asks_build (hd : c.requireDatabase = .ok d) (hv : c.variant = .ok v) (kind : ShaderKind) :
    e.Asks c (build e c kind) (requests c v kind) := by
  cases kind with
  | rayGeneration => exact asks_rayGeneration hd
  | miss => exact asks_miss hd hv
  | hit group => exact asks_hit hd hv group
  | shadowHit => exact asks_shadow hd hv true
  | shadowMiss => exact asks_shadow hd hv false
  | callback m => exact asks_callback hd m

theorem inquiry_source (hd : c.requireDatabase = .ok d) (hv : c.variant = .ok v)
    (kind : ShaderKind) :
    (source e c kind).inquiry = (e.inquire c (requests c v kind) .empty).2 := by
  have built := congrArg Prod.snd (asks_build (e := e) hd hv kind .empty)
  rw [← built]
  exact Run.inquiry_bind_log _ _ _ _

end Programs

/-! ### Variants follow the schedule -/

theorem inquiry_mapHitsM (f : ShaderKind → α → Run β) (group : Nat) (hits : List α) :
    (Variant.mapHitsM f group hits).inquiry
      = .all ((Variant.hitSlots group hits).map fun s => (f s.1 s.2).inquiry) := by
  induction hits generalizing group with
  | nil => rfl
  | cons a rest ih =>
    refine Run.inquiry_bind fun b _ => ?_
    rw [Run.bind_eq, Run.inquiry_bind (i := .nothing) fun _ _ => rfl, ih, Inquiry.andThen_nothing]

theorem inquiry_mapSlotM (f : ShaderKind → α → Run β) (kind : ShaderKind) (slot : Option α) :
    (Variant.mapSlotM f kind slot).inquiry
      = .all ((Variant.optionalSlot kind slot).map fun s => (f s.1 s.2).inquiry) := by
  cases slot with
  | none => rfl
  | some a => exact Run.inquiry_bind fun _ _ => rfl

/-- Filling the slots of a variant makes the requests of one slot after the other. -/
theorem inquiry_mapM (f : ShaderKind → α → Run β) (v : Variant α) :
    (v.mapM f).inquiry = .all (v.slots.map fun s => (f s.1 s.2).inquiry) := by
  have chain : (v.mapM f).inquiry =
      (f .rayGeneration v.rayGeneration).inquiry.andThen ((f .miss v.miss).inquiry.andThen
        ((Variant.mapHitsM f 0 v.hits).inquiry.andThen
        ((Variant.mapSlotM f .shadowHit v.shadowHit).inquiry.andThen
        ((Variant.mapSlotM f .shadowMiss v.shadowMiss).inquiry.andThen
        ((Variant.mapSlotM f (.callback .before) v.before).inquiry.andThen
        ((Variant.mapSlotM f (.callback .after) v.after).inquiry.andThen .nothing)))))) :=
    Run.inquiry_bind fun _ _ => Run.inquiry_bind fun _ _ => Run.inquiry_bind fun _ _ =>
      Run.inquiry_bind fun _ _ => Run.inquiry_bind fun _ _ => Run.inquiry_bind fun _ _ =>
        Run.inquiry_bind fun _ _ => rfl
  rw [chain]
  simp only [inquiry_mapHitsM, inquiry_mapSlotM, Variant.slots, List.map_append, List.map_cons,
    List.cons_append, Inquiry.all_append, Inquiry.all, Inquiry.andThen_assoc,
    Inquiry.andThen_nothing]

variable {e : Emitters} {c : Context}

theorem inquiry_variant {d : Scene.Database} {v : VariantInfo} (hd : c.requireDatabase = .ok d)
    (hv : c.variant = .ok v) :
    (variant e c).inquiry = e.inquireAll (variantSchedule c v) := by
  have opened : (variant e c).inquiry = ((Variant.layout v c.hitGroups).mapM
      fun kind _ => source e c kind).inquiry := by
    simp only [variant, hd, hv]
    exact Run.inquiry_bind_log _ _ _ _
  rw [opened, inquiry_mapM, slots_layout]
  simp only [Emitters.inquireAll, variantSchedule, List.map_map, Function.comp_def,
    inquiry_source hd hv]

/-- The schedule does not depend on the selection. -/
theorem scheduleFrom_select (i index : Nat) (vs : List VariantInfo) :
    scheduleFrom { c with selected := i } index vs = scheduleFrom c index vs := by
  induction vs generalizing index with
  | nil => rfl
  | cons v vs ih => rw [scheduleFrom, scheduleFrom, ih]

/-- Going through the variants from `index` on, whatever variant is selected before. -/
theorem inquiry_variantsFrom {d : Scene.Database} (hd : c.requireDatabase = .ok d)
    (vs : List VariantInfo) (index : Nat) (h : c.technique.variants.drop index = vs) :
    (variantsFrom e index vs.length c).2.inquiry = e.inquireAll (scheduleFrom c index vs) := by
  -- every step goes on in a context with another selection, so the context is arbitrary
  induction vs generalizing index c with
  | nil => rfl
  | cons v vs ih =>
    have at_index : c.technique.variants[index]? = some v := by
      rw [← List.head?_drop, h, List.head?_cons]
    have tail : c.technique.variants.drop (index + 1) = vs := by
      rw [← List.tail_drop, h, List.tail_cons]
    have in_range : index < c.technique.count :=
      (List.getElem?_eq_some_iff.mp at_index).1
    set selected : Context := { c with selected := index } with hs
    have hv : selected.variant = .ok v := by simp [hs, Context.variant, at_index]
    have rest : ∀ programs : Variant String,
        ((variantsFrom e (index + 1) vs.length).bind fun more => pure (programs :: more))
          selected |>.2.inquiry = e.inquireAll (scheduleFrom c (index + 1) vs) := fun programs =>
      (Stage.inquiry_bind (i := .nothing) fun _ _ _ _ => rfl).trans
        ((Inquiry.andThen_nothing _).trans
          ((ih (c := selected) hd (index + 1) tail).trans
            (congrArg _ (scheduleFrom_select index (index + 1) vs))))
    calc (variantsFrom e index (v :: vs).length c).2.inquiry
        = (variant e selected).inquiry.andThen (e.inquireAll (scheduleFrom c (index + 1) vs)) := by
          rw [List.length_cons, variantsFrom_succ in_range]
          refine Stage.inquiry_bind ?_
          intro t _ programs ran
          obtain rfl : selected = t := (Prod.mk.inj ran).1
          exact rest programs
      _ = e.inquireAll (scheduleFrom c index (v :: vs)) := by
          rw [inquiry_variant (c := selected) hd hv, scheduleFrom, Emitters.inquireAll_append]

theorem inquiry_report (message : Error → String) (r : Run (List (Variant String))) :
    (report message r).inquiry = r.inquiry := by
  rcases r with ⟨events, (e | f) | vs⟩ <;>
    simp [report, Run.inquiry, Run.requests, Event.request?]

theorem inquiry_all : (all e c).2.inquiry = (variantsFrom e 0 c.technique.count c).2.inquiry :=
  (Run.inquiry_bind fun _ _ => rfl).trans (inquiry_report _ _)

/-- Without a scene database nothing is asked. -/
theorem inquiry_variantsFrom_of_none (hd : c.database = none) (hv : c.technique.variants ≠ []) :
    (variantsFrom e 0 c.technique.count c).2.inquiry = ⟨[], some (.error .databaseMissing)⟩ := by
  obtain ⟨v, vs, variants⟩ := List.exists_cons_of_ne_nil hv
  have count : c.technique.count = vs.length + 1 := by rw [Technique.Info.count, variants]; rfl
  have refused : variant e { c with selected := 0 } = ⟨[], .error (.error .databaseMissing)⟩ := by
    simp only [variant, Context.requireDatabase, hd]
    rfl
  rw [count, variantsFrom_succ (by omega), refused]
  rfl

/-- **Generation follows the schedule.** Whatever the collaborators answer, the requests
of a generation are those of the schedule, in its order and up to the first that is
refused; the failure of the generation is that refusal, and without one there is none.
Only without a scene database a technique with variants asks for nothing and fails. -/
theorem generation_follows_schedule (e : Emitters) (c : Context) :
    (all e c).2.inquiry =
        (if c.database = none ∧ c.technique.variants ≠ []
          then ⟨[], some (.error .databaseMissing)⟩ else e.inquireAll (schedule c)) ∧
      e.Follows (schedule c) (e.inquireAll (schedule c)) := by
  refine ⟨?_, Emitters.follows_inquireAll _⟩
  rw [inquiry_all]
  by_cases missing : c.database = none ∧ c.technique.variants ≠ []
  · rw [if_pos missing]
    exact inquiry_variantsFrom_of_none missing.1 missing.2
  · rw [if_neg missing]
    rcases hd : c.database with _ | d
    · have empty : c.technique.variants = [] := by simpa [hd] using missing
      rw [schedule, Technique.Info.count, empty]
      rfl
    · exact inquiry_variantsFrom (d := d) (by rw [Context.requireDatabase, hd]) _ 0 rfl

end Generation

end RayShader
