import RayShader.Compile.Cache
import RayShader.Proofs.Slots
import Mathlib.Data.Finset.Card
import Mathlib.Data.Set.Function

/-!
# Every text is compiled once

A compiler is a stranger: it has a state, and its answers may be anything. So what is
asked of it is kept in a record (`Compiler.recording`), which changes nothing else. The
invariant is that the modules of the cache are the successful calls of the record, in
order, and that no call is for a text that was compiled before (`Recorded`). Every request
goes through a list of slots, so one slot is the step, and the rest is induction.

The cache tells texts apart by fingerprints. That the handle of a text is that of its own
compilation, and not of another with the same fingerprint, is where the fingerprints must
differ; that no text is compiled twice is so in any case.
-/

namespace RayShader

/-! ### Calls of the compiler -/

namespace Compiler

variable {σ : Type}

/-- A call of the compiler and its answer. -/
structure Call where
  /-- The kind of shader. -/
  kind : ShaderKind
  /-- The text. -/
  source : String
  /-- The answer. -/
  answer : Except Error Nat

/-- The slot that the call is for. -/
def Call.slot (call : Call) : ShaderKind × String := (call.kind, call.source)

/-- The text and its handle, if the call succeeds. -/
def Call.entry? (call : Call) : Option (String × Nat) := call.answer.toOption.map (call.source, ·)

/-- The texts that calls have compiled and their handles, in order. -/
def entries (calls : List Call) : List (String × Nat) := calls.filterMap Call.entry?

/-- The texts that calls have compiled, in order. -/
def compiled (calls : List Call) : List String := (entries calls).map Prod.fst

/-- The compiler with a record of its calls. -/
def recording (compiler : Compiler σ) : Compiler (σ × List Call) where
  compile kind source s :=
    let (state, answer) := compiler.compile kind source s.1
    ((state, s.2 ++ [⟨kind, source, answer⟩]), answer)
  fingerprint := compiler.fingerprint

/-- The calls, one after the other, take the compiler from a state to another, and the
answers are those of the compiler. -/
inductive Calls (compiler : Compiler σ) (s : σ) : List Call → σ → Prop where
  /-- There is no call. -/
  | nil : Calls compiler s [] s
  /-- There is a last call. -/
  | snoc {calls : List Call} {kind : ShaderKind} {source : String} {answer : Except Error Nat}
    {t u : σ} (before : Calls compiler s calls t)
    (last : compiler.compile kind source t = (u, answer)) :
    Calls compiler s (calls ++ [⟨kind, source, answer⟩]) u

variable {calls later : List Call} {call : Call} {source : String}

/-- The answer to a call is one of the compiler. -/
theorem Calls.answered {compiler : Compiler σ} {s t : σ} (h : Calls compiler s calls t) :
    ∀ call ∈ calls, ∃ u, (compiler.compile call.kind call.source u).2 = call.answer := by
  induction h with
  | nil => simp
  | snoc _ last ih =>
    simp only [List.mem_append, List.mem_singleton]
    rintro call (mem | rfl)
    · exact ih call mem
    · exact ⟨_, congrArg Prod.snd last⟩

@[simp] theorem entries_append : entries (calls ++ later) = entries calls ++ entries later :=
  List.filterMap_append

@[simp] theorem compiled_append : compiled (calls ++ later) = compiled calls ++ compiled later := by
  simp [compiled]

@[simp] theorem entries_error (kind : ShaderKind) (e : Error) :
    entries [⟨kind, source, .error e⟩] = [] := rfl

@[simp] theorem compiled_ok (kind : ShaderKind) (handle : Nat) :
    compiled [⟨kind, source, .ok handle⟩] = [source] := rfl

theorem lookup_entries_eq_none :
    (entries calls).lookup source = none ↔ source ∉ compiled calls := by
  simp only [List.lookup_eq_none_iff, bne_iff_ne, compiled, List.mem_map, not_exists, not_and]
  exact ⟨fun h p mem same => h p mem same.symm, fun h p mem same => h p mem same.symm⟩

theorem mem_compiled_of_lookup {handle : Nat} (h : (entries calls).lookup source = some handle) :
    source ∈ compiled calls := by
  by_contra fresh
  rw [lookup_entries_eq_none.mpr fresh] at h
  cases h

theorem exists_of_mem_compiled (h : source ∈ compiled calls) :
    ∃ call ∈ calls, call.source = source := by
  obtain ⟨⟨_, handle⟩, mem, rfl⟩ := List.mem_map.mp h
  obtain ⟨call, mem, made⟩ := List.mem_filterMap.mp mem
  obtain ⟨_, -, same⟩ := Option.map_eq_some_iff.mp made
  exact ⟨call, mem, congrArg Prod.fst same⟩

theorem exists_call_of_lookup {handle : Nat} (h : (entries calls).lookup source = some handle) :
    ∃ kind, ⟨kind, source, .ok handle⟩ ∈ calls := by
  obtain ⟨before, later, split, -⟩ := List.lookup_eq_some_iff.mp h
  have listed : (source, handle) ∈ entries calls := by simp [split]
  obtain ⟨⟨kind, source', answer⟩, mem, made⟩ := List.mem_filterMap.mp listed
  cases answer with
  | error e => cases made
  | ok handle' =>
    obtain ⟨rfl, rfl⟩ := Prod.mk.inj (Option.some.inj made)
    exact ⟨kind, mem⟩

/-- No call is for a text that a call before it has compiled. -/
def Once (calls : List Call) : Prop :=
  ∀ before call later, calls = before ++ call :: later → call.source ∉ compiled before

theorem Once.snoc (h : Once calls) (fresh : call.source ∉ compiled calls) :
    Once (calls ++ [call]) := by
  intro before last later split
  rcases List.eq_nil_or_concat later with rfl | ⟨later', end', rfl⟩
  · obtain ⟨rfl, same⟩ := List.append_inj' split rfl
    obtain rfl := (List.cons.inj same).1
    exact fresh
  · rw [List.concat_eq_append, ← List.cons_append, ← List.append_assoc] at split
    exact h before last later' (List.append_inj' split rfl).1

/-- A text is compiled at most once. -/
theorem Once.nodup (h : Once calls) : (compiled calls).Nodup := by
  induction calls using List.reverseRecOn with
  | nil => exact List.nodup_nil
  | append_singleton calls call ih =>
    have before : Once calls := fun before last later split =>
      h before last (later ++ [call]) (by simp [split])
    have fresh : call.source ∉ compiled calls := h calls call [] rfl
    obtain ⟨kind, source, e | handle⟩ := call
    · simpa [compiled] using ih before
    · rw [compiled_append, compiled_ok]
      exact List.nodup_append_comm.mp (List.nodup_cons.mpr ⟨fresh, ih before⟩)

end Compiler

open Compiler (Call Calls entries compiled Once recording)

/-! ### Requests -/

namespace Cache

variable {σ : Type}

/-- A request to the cache. -/
inductive Request where
  /-- One program. -/
  | compile (kind : ShaderKind) (source : String)
  /-- The programs of a variant. -/
  | compileVariant (v : Variant String)
  /-- The programs of several variants. -/
  | compileAll (variants : List (Variant String))

namespace Request

/-- The slots of a request, in order. -/
def slots : Request → List (ShaderKind × String)
  | compile kind source => [(kind, source)]
  | compileVariant v => v.slots
  | compileAll variants => variants.flatMap Variant.slots

/-- Does what is requested, and gives the handles slot by slot. -/
def perform (compiler : Compiler σ) : Request → Stage (Cache σ) (List (ShaderKind × Nat))
  | compile kind source => do
    let handle ← Cache.compile compiler kind source
    pure [(kind, handle)]
  | compileVariant v => do
    let set ← Cache.compileVariant compiler v
    pure set.slots
  | compileAll variants => do
    let sets ← Cache.compileAll compiler variants
    pure (sets.flatMap Variant.slots)

end Request

/-- Goes through slots and gives each its handle. -/
def visit (compiler : Compiler σ) (slots : List (ShaderKind × String)) :
    Stage (Cache σ) (List (ShaderKind × Nat)) :=
  slots.mapM (Variant.fillSlot (compile compiler))

theorem compileAll_eq_visit (compiler : Compiler σ) (variants : List (Variant String)) :
    (·.flatMap Variant.slots) <$> compileAll compiler variants
      = visit compiler (variants.flatMap Variant.slots) := by
  induction variants with
  | nil => simp [compileAll, visit]
  | cons v rest ih =>
    have first : Variant.slots <$> compileVariant compiler v = visit compiler v.slots :=
      Variant.slots_mapM _ v
    rw [visit, List.flatMap_cons, List.mapM_append, ← visit, ← visit, ← first, ← ih]
    simp [compileAll, -Stage.bind_eq]

/-- Every request goes through its slots. -/
theorem perform_eq_visit (compiler : Compiler σ) (r : Request) :
    r.perform compiler = visit compiler r.slots := by
  cases r with
  | compile kind source =>
    simp [Request.perform, Request.slots, visit, Variant.fillSlot, -Stage.bind_eq]
  | compileVariant v => exact (bind_pure_comp ..).trans (Variant.slots_mapM _ v)
  | compileAll variants => exact (bind_pure_comp ..).trans (compileAll_eq_visit compiler variants)

/-! ### What a request does -/

/-- The slots whose texts are neither known nor those of slots before them. -/
def uncached (known : List String) : List (ShaderKind × String) → List (ShaderKind × String)
  | [] => []
  | (kind, source) :: rest =>
    if source ∈ known then uncached known rest
    else (kind, source) :: uncached (known ++ [source]) rest

/-- The slots have got these handles, each that of the first call that compiled its text. -/
def HandlesFrom (calls : List Call) (slots : List (ShaderKind × String))
    (handles : List (ShaderKind × Nat)) : Prop :=
  List.Forall₂ (fun slot handle => slot.1 = handle.1 ∧
    (entries calls).lookup slot.2 = some handle.2) slots handles

/-- What a request for slots does, after given calls: the calls that it adds, and what
comes of it. -/
inductive Attempt (calls : List Call) (slots : List (ShaderKind × String)) :
    List Call → Except Failure (List (ShaderKind × Nat)) → Prop where
  /-- The compiler is asked for all slots that are not cached, and succeeds. -/
  | done {new : List Call} {handles : List (ShaderKind × Nat)}
    (asked : new.map Call.slot = uncached (compiled calls) slots)
    (succeeded : ∀ call ∈ new, call.entry?.isSome)
    (given : HandlesFrom (calls ++ new) slots handles) : Attempt calls slots new (.ok handles)
  /-- The compiler is asked for the slots that are not cached up to one for which it fails. -/
  | failed {new : List Call} {before later : List (ShaderKind × String)} {kind : ShaderKind}
    {source : String} {e : Error} (split : slots = before ++ (kind, source) :: later)
    (asked : new.map Call.slot = uncached (compiled calls) before)
    (succeeded : ∀ call ∈ new, call.entry?.isSome)
    (fresh : source ∉ compiled (calls ++ new)) :
    Attempt calls slots (new ++ [⟨kind, source, .error e⟩]) (.error (.error e))

namespace Attempt

variable {calls new : List Call} {slots : List (ShaderKind × String)} {kind : ShaderKind}
  {source : String} {handle : Nat} {r : Except Failure (List (ShaderKind × Nat))}

theorem nil : Attempt calls [] [] (.ok []) := .done rfl (by simp) List.Forall₂.nil

/-- A slot whose text is compiled is given the handle of the text. -/
theorem hit (known : (entries calls).lookup source = some handle)
    (rest : Attempt calls slots new r) :
    Attempt calls ((kind, source) :: slots) new (r.map ((kind, handle) :: ·)) := by
  have mem : source ∈ compiled calls := Compiler.mem_compiled_of_lookup known
  cases rest with
  | done asked succeeded given =>
    refine .done (by rw [asked, uncached, if_pos mem]) succeeded (.cons ⟨rfl, ?_⟩ given)
    rw [Compiler.entries_append, List.lookup_append, known]
    rfl
  | @failed _ before later kind' source' _ split asked succeeded fresh =>
    have whole : (kind, source) :: slots
        = ((kind, source) :: before) ++ (kind', source') :: later := by rw [split]; rfl
    exact failed whole (asked.trans (if_pos mem).symm) succeeded fresh

/-- A slot whose text is not compiled is one for the compiler. -/
theorem miss (fresh : source ∉ compiled calls)
    (rest : Attempt (calls ++ [⟨kind, source, .ok handle⟩]) slots new r) :
    Attempt calls ((kind, source) :: slots) (⟨kind, source, .ok handle⟩ :: new)
      (r.map ((kind, handle) :: ·)) := by
  have step (new : List Call) : calls ++ [⟨kind, source, .ok handle⟩] ++ new
      = calls ++ ⟨kind, source, .ok handle⟩ :: new := by simp
  have known : compiled (calls ++ [⟨kind, source, .ok handle⟩]) = compiled calls ++ [source] := by
    simp
  cases rest with
  | done asked succeeded given =>
    rw [known] at asked
    rw [step] at given
    refine .done ?_ (List.forall_mem_cons.mpr ⟨rfl, succeeded⟩) (.cons ⟨rfl, ?_⟩ given)
    · rw [uncached, if_neg fresh, List.map_cons, asked]
      rfl
    · rw [Compiler.entries_append, List.lookup_append,
        Compiler.lookup_entries_eq_none.mpr fresh, Option.none_or]
      exact List.lookup_cons_self
  | @failed _ before later kind' source' _ split asked succeeded unknown =>
    rw [known] at asked
    rw [step] at unknown
    have whole : (kind, source) :: slots
        = ((kind, source) :: before) ++ (kind', source') :: later := by rw [split]; rfl
    refine failed whole ?_ (List.forall_mem_cons.mpr ⟨rfl, succeeded⟩) unknown
    exact (congrArg ((kind, source) :: ·) asked).trans (if_neg fresh).symm

/-- A slot for which the compiler fails is the last. -/
theorem stop {e : Error} (fresh : source ∉ compiled calls) :
    Attempt calls ((kind, source) :: slots) [⟨kind, source, .error e⟩] (.error (.error e)) :=
  @failed calls _ [] [] slots kind source e rfl rfl (by simp) (by simpa using fresh)

/-- A single slot whose text is not compiled is tried. -/
theorem tried (h : Attempt calls [(kind, source)] new r) (fresh : source ∉ compiled calls) :
    ∃ answer, new = [⟨kind, source, answer⟩] := by
  cases h with
  | done asked =>
    rw [uncached, if_neg fresh] at asked
    obtain ⟨⟨_, _, answer⟩, rfl, same⟩ := List.map_eq_singleton_iff.mp asked
    obtain ⟨rfl, rfl⟩ := Prod.mk.inj same
    exact ⟨answer, rfl⟩
  | @failed new before _ _ _ _ split asked =>
    cases before with
    | nil =>
      obtain ⟨rfl, rfl⟩ := Prod.mk.inj (List.cons.inj split).1
      obtain rfl := List.map_eq_nil_iff.mp asked
      exact ⟨_, rfl⟩
    | cons _ before => simp at split

end Attempt

/-! ### The record of a cache -/

/-- The modules under the fingerprints of their texts. -/
def byFingerprint (compiler : Compiler σ) (entries : List (String × Nat)) : List (String × Nat) :=
  entries.map fun entry => (compiler.fingerprint entry.1, entry.2)

@[simp] theorem byFingerprint_append (compiler : Compiler σ) (l l' : List (String × Nat)) :
    byFingerprint compiler (l ++ l') = byFingerprint compiler l ++ byFingerprint compiler l' :=
  List.map_append

/-- The record of a cache tells how it came about: the compiler was called as it says,
never for a text that was compiled before, and the modules are the calls that succeeded. -/
structure Recorded (compiler : Compiler σ) (s : σ) (seen : Set String)
    (c : Cache (σ × List Call)) : Prop where
  /-- The calls are those of the compiler. -/
  calls : Calls compiler s c.state.2 c.state.1
  /-- The calls are for texts that were seen. -/
  mem_seen : ∀ call ∈ c.state.2, call.source ∈ seen
  /-- No call is for a text that is compiled. -/
  once : Once c.state.2
  /-- The successful calls are kept, and only these. -/
  modules_eq : c.modules = byFingerprint compiler (entries c.state.2)

section Record

variable {compiler : Compiler σ} {s u : σ} {c : Cache (σ × List Call)} {seen : Set String}
  {kind : ShaderKind} {source : String} {answer : Except Error Nat} {handle : Nat}

theorem recorded_ofState : Recorded compiler s seen (ofState (s, [])) where
  calls := .nil
  mem_seen := by simp [ofState]
  once := by rintro _ _ _ split; simp [ofState] at split
  modules_eq := rfl

/-- Modules under fingerprints that differ are found as they are under their texts. -/
theorem lookup_byFingerprint (distinct : Set.InjOn compiler.fingerprint seen)
    (hs : source ∈ seen) {l : List (String × Nat)} (hl : ∀ entry ∈ l, entry.1 ∈ seen) :
    (byFingerprint compiler l).lookup (compiler.fingerprint source) = l.lookup source := by
  induction l with
  | nil => rfl
  | cons entry rest ih =>
    obtain ⟨first, others⟩ := List.forall_mem_cons.mp hl
    have same : (compiler.fingerprint source == compiler.fingerprint entry.1)
        = (source == entry.1) := by
      rw [Bool.eq_iff_iff, beq_iff_eq, beq_iff_eq]
      exact ⟨fun h => distinct hs first h, fun h => by rw [h]⟩
    rw [byFingerprint, List.map_cons, List.lookup_cons, List.lookup_cons, same]
    cases source == entry.1 with
    | true => rfl
    | false => exact ih others

/-- The module of a text that was seen is the one of its first successful call. -/
theorem Recorded.lookup (h : Recorded compiler s seen c)
    (distinct : Set.InjOn compiler.fingerprint seen) (hs : source ∈ seen) :
    c.modules.lookup (compiler.fingerprint source) = (entries c.state.2).lookup source := by
  rw [h.modules_eq]
  refine lookup_byFingerprint distinct hs fun entry mem => ?_
  obtain ⟨call, mem, same⟩ :=
    Compiler.exists_of_mem_compiled (List.mem_map_of_mem (f := Prod.fst) mem)
  exact same ▸ h.mem_seen call mem

/-- A text whose fingerprint is not there is not compiled. -/
theorem Recorded.fresh (h : Recorded compiler s seen c)
    (absent : c.modules.lookup (compiler.fingerprint source) = none) :
    source ∉ compiled c.state.2 := by
  intro known
  obtain ⟨entry, mem, rfl⟩ := List.mem_map.mp known
  have kept : (compiler.fingerprint entry.1, entry.2) ∈ c.modules := by
    rw [h.modules_eq]
    exact List.mem_map.mpr ⟨entry, mem, rfl⟩
  exact absurd (List.lookup_eq_none_iff.mp absent _ kept) (by simp)

/-- A program whose text is kept gets the handle of the text, and nothing happens. -/
theorem step_compile_of_some (known : c.modules.lookup (compiler.fingerprint source) = some handle) :
    (compile compiler.recording kind source).step c = (c, .ok handle) := by
  have found : c.modules.lookup (compiler.recording.fingerprint source) = some handle := known
  simp only [compile, Stage.bind_eq, Stage.step, Stage.get_bind, found]
  rfl

/-- A program whose text is not kept is compiled, and kept if it is. -/
theorem step_compile_of_none (absent : c.modules.lookup (compiler.fingerprint source) = none)
    (answered : compiler.compile kind source c.state.1 = (u, answer)) :
    (compile compiler.recording kind source).step c =
      (⟨(u, c.state.2 ++ [⟨kind, source, answer⟩]),
        c.modules ++ byFingerprint compiler (entries [⟨kind, source, answer⟩])⟩,
        answer.mapError .error) := by
  have missing : c.modules.lookup (compiler.recording.fingerprint source) = none := absent
  have asked : callCompiler compiler.recording kind source c
      = (⟨(u, c.state.2 ++ [⟨kind, source, answer⟩]), c.modules⟩,
        ⟨[], answer.mapError .error⟩) := by
    simp only [callCompiler, Stage.ofStep, recording, answered]
  simp only [compile, Stage.bind_eq, Stage.step, Stage.get_bind, missing]
  cases answer with
  | ok handle =>
    rw [Stage.bind_of_ok asked]
    rfl
  | error e =>
    rw [Stage.bind_of_error asked]
    simp [byFingerprint, Except.mapError]

/-- A call for a text that is not kept is recorded. -/
theorem Recorded.call (h : Recorded compiler s seen c) (hs : source ∈ seen)
    (absent : c.modules.lookup (compiler.fingerprint source) = none)
    (answered : compiler.compile kind source c.state.1 = (u, answer)) :
    Recorded compiler s seen ⟨(u, c.state.2 ++ [⟨kind, source, answer⟩]),
      c.modules ++ byFingerprint compiler (entries [⟨kind, source, answer⟩])⟩ where
  calls := h.calls.snoc answered
  mem_seen := by
    simp only [List.mem_append, List.mem_singleton]
    rintro call (mem | rfl)
    · exact h.mem_seen call mem
    · exact hs
  once := h.once.snoc (h.fresh absent)
  modules_eq := by simp [h.modules_eq]

theorem visit_cons (compiler : Compiler σ) (rest : List (ShaderKind × String)) :
    visit compiler ((kind, source) :: rest) = (compile compiler kind source).bind fun handle =>
      ((kind, handle) :: ·) <$> visit compiler rest := by
  simp only [visit, List.mapM_cons, Variant.fillSlot, ← Stage.bind_eq, bind_map_left,
    bind_pure_comp]

/-- Going through slots is an attempt at them, and is recorded. -/
theorem attempt_visit (distinct : Set.InjOn compiler.fingerprint seen)
    {slots : List (ShaderKind × String)} (hs : ∀ slot ∈ slots, slot.2 ∈ seen)
    (h : Recorded compiler s seen c) :
    ∃ c' r new, (visit compiler.recording slots).step c = (c', r) ∧ Recorded compiler s seen c' ∧
      c'.state.2 = c.state.2 ++ new ∧ Attempt c.state.2 slots new r := by
  induction slots generalizing c with
  | nil => exact ⟨c, .ok [], [], rfl, h, by simp, .nil⟩
  | cons slot rest ih =>
    obtain ⟨kind, source⟩ := slot
    obtain ⟨first, others⟩ := List.forall_mem_cons.mp hs
    rw [visit_cons]
    cases found : c.modules.lookup (compiler.fingerprint source) with
    | some handle =>
      obtain ⟨c', r, new, went, recorded, log, attempt⟩ := ih others h
      refine ⟨c', _, new, ?_, recorded, log, attempt.hit ((h.lookup distinct first).symm.trans found)⟩
      rw [Stage.step_bind_of_ok (step_compile_of_some found)]
      exact Stage.step_map _ went
    | none =>
      rcases answered : compiler.compile kind source c.state.1 with ⟨u, e | handle⟩
      · refine ⟨_, _, _, ?_, h.call first found answered, rfl, .stop (h.fresh found)⟩
        exact Stage.step_bind_of_error (step_compile_of_none found answered) _
      · obtain ⟨c', r, new, went, recorded, log, attempt⟩ := ih others (h.call first found answered)
        refine ⟨c', _, _, ?_, recorded, ?_, attempt.miss (h.fresh found)⟩
        · rw [Stage.step_bind_of_ok (step_compile_of_none found answered)]
          exact Stage.step_map _ went
        · rw [log, List.append_assoc]
          rfl

end Record

/-! ### The record changes nothing -/

/-- The cache without the record. -/
def forget (c : Cache (σ × List Call)) : Cache σ := ⟨c.state.1, c.modules⟩

/-- The stages do the same, but for the record. -/
def Alike {α : Type} (x : Stage (Cache (σ × List Call)) α) (y : Stage (Cache σ) α) : Prop :=
  ∀ c, y c.forget = ((x c).1.forget, (x c).2)

namespace Alike

variable {α β : Type} {compiler : Compiler σ}

theorem pure (a : α) : Alike (pure a : Stage (Cache (σ × List Call)) α) (pure a) := fun _ => rfl

theorem bind {x : Stage (Cache (σ × List Call)) α} {y : Stage (Cache σ) α}
    {f : α → Stage (Cache (σ × List Call)) β} {g : α → Stage (Cache σ) β} (hx : Alike x y)
    (hf : ∀ a, Alike (f a) (g a)) : Alike (x.bind f) (y.bind g) := by
  intro c
  have first := hx c
  rcases ran : x c with ⟨d, events, e | a⟩
  · rw [ran] at first
    rw [Stage.bind_of_error ran, Stage.bind_of_error first]
  · rw [ran] at first
    rw [Stage.bind_of_ok ran, Stage.bind_of_ok first, hf a d]

theorem step {x : Stage (Cache (σ × List Call)) α} {y : Stage (Cache σ) α} (h : Alike x y)
    {c d : Cache (σ × List Call)} {r : Except Failure α} (ran : x.step c = (d, r)) :
    y.step c.forget = (d.forget, r) := by
  obtain ⟨rfl, rfl⟩ := Prod.mk.inj ran
  rw [Stage.step, h c]

theorem compile (kind : ShaderKind) (source : String) :
    Alike (Cache.compile compiler.recording kind source) (Cache.compile compiler kind source) := by
  intro c
  have same : compiler.recording.fingerprint source = compiler.fingerprint source := rfl
  have kept : c.forget.modules = c.modules := rfl
  simp only [Cache.compile, Stage.bind_eq, Stage.get_bind, same, kept]
  cases c.modules.lookup (compiler.fingerprint source) with
  | some handle => rfl
  | none =>
    have asked : Alike (callCompiler compiler.recording kind source)
        (callCompiler compiler kind source) := fun c => rfl
    exact asked.bind (fun handle => .bind (fun _ => rfl) fun _ => .bind (fun c => rfl) fun _ =>
      .pure handle) c

section Variants

variable {γ : Type} {f : ShaderKind → γ → Stage (Cache (σ × List Call)) β}
  {g : ShaderKind → γ → Stage (Cache σ) β} (h : ∀ kind a, Alike (f kind a) (g kind a))
include h

theorem mapHitsM (group : Nat) (hits : List γ) :
    Alike (Variant.mapHitsM f group hits) (Variant.mapHitsM g group hits) := by
  induction hits generalizing group with
  | nil => exact .pure []
  | cons a rest ih => exact (h _ a).bind fun _ => (ih (group + 1)).bind fun _ => .pure _

theorem mapSlotM (kind : ShaderKind) (slot : Option γ) :
    Alike (Variant.mapSlotM f kind slot) (Variant.mapSlotM g kind slot) := by
  cases slot with
  | none => exact .pure none
  | some a => exact (h kind a).bind fun _ => .pure _

theorem mapM (v : Variant γ) : Alike (v.mapM f) (v.mapM g) :=
  (h _ _).bind fun _ => (h _ _).bind fun _ => (mapHitsM h 0 v.hits).bind fun _ =>
    (mapSlotM h _ _).bind fun _ => (mapSlotM h _ _).bind fun _ => (mapSlotM h _ _).bind fun _ =>
      (mapSlotM h _ _).bind fun _ => .pure _

end Variants

theorem compileVariant (v : Variant String) :
    Alike (Cache.compileVariant compiler.recording v) (Cache.compileVariant compiler v) :=
  mapM compile v

theorem compileAll (variants : List (Variant String)) :
    Alike (Cache.compileAll compiler.recording variants) (Cache.compileAll compiler variants) := by
  induction variants with
  | nil => exact .pure []
  | cons v rest ih => exact (compileVariant v).bind fun _ => ih.bind fun _ => .pure _

theorem perform (r : Request) : Alike (r.perform compiler.recording) (r.perform compiler) := by
  cases r with
  | compile kind source => exact (compile kind source).bind fun _ => .pure _
  | compileVariant v => exact (compileVariant v).bind fun _ => .pure _
  | compileAll variants => exact (compileAll variants).bind fun _ => .pure _

end Alike

/-! ### Texts that differ -/

theorem uncached_eq_self {slots : List (ShaderKind × String)} {known : List String}
    (hk : ∀ slot ∈ slots, slot.2 ∉ known) (h : (slots.map Prod.snd).Nodup) :
    uncached known slots = slots := by
  induction slots generalizing known with
  | nil => rfl
  | cons slot rest ih =>
    obtain ⟨fresh, others⟩ := List.forall_mem_cons.mp hk
    obtain ⟨absent, nodup⟩ := List.nodup_cons.mp h
    have later : ∀ slot' ∈ rest, slot'.2 ∉ known ++ [slot.2] := by
      intro slot' mem
      simp only [List.mem_append, List.mem_singleton, not_or]
      refine ⟨others slot' mem, fun same => absent ?_⟩
      rw [← same]
      exact List.mem_map_of_mem mem
    rw [uncached, if_neg fresh, ih later nodup]

/-- Slots that get handles keep their kinds. -/
theorem gives_visit (compiler : Compiler σ) (slots : List (ShaderKind × String)) :
    (visit compiler slots).Gives fun handles => handles.map Prod.fst = slots.map Prod.fst := by
  induction slots with
  | nil => exact .pure rfl
  | cons slot rest ih =>
    rw [visit_cons]
    refine .bind (.any _) fun handle _ => ?_
    rw [← bind_pure_comp]
    exact ih.bind fun handles same => .pure (by rw [List.map_cons, same, List.map_cons])

theorem gives_compileVariant (compiler : Compiler σ) (v : Variant String) :
    (compileVariant compiler v).Gives fun set =>
      set.slots.map Prod.fst = v.slots.map Prod.fst := by
  intro c c' set gave
  have visited : (visit compiler v.slots).step c = (c', .ok set.slots) := by
    rw [visit, ← Variant.slots_mapM]
    exact Stage.step_map _ gave
  exact gives_visit compiler v.slots _ _ _ visited

theorem gives_compileAll (compiler : Compiler σ) (variants : List (Variant String)) :
    (compileAll compiler variants).Gives fun sets => List.Forall₂ (fun v set =>
      v.slots.length = set.slots.length) variants sets := by
  induction variants with
  | nil => exact .pure .nil
  | cons v rest ih =>
    refine .bind (gives_compileVariant compiler v) fun set kinds => ih.bind fun sets others =>
      .pure (.cons ?_ others)
    simpa using (congrArg List.length kinds).symm

/-- Slots in a row belong to their variants. -/
theorem forall₂_of_flatMap {α β γ δ : Type} {R : γ → δ → Prop}
    {f : α → List γ} {g : β → List δ} {as : List α} {bs : List β}
    (h : List.Forall₂ (fun a b => (f a).length = (g b).length) as bs)
    (all : List.Forall₂ R (as.flatMap f) (bs.flatMap g)) :
    List.Forall₂ (fun a b => List.Forall₂ R (f a) (g b)) as bs := by
  induction h with
  | nil => exact .nil
  | @cons a b as bs same _ ih =>
    rw [List.flatMap_cons, List.flatMap_cons] at all
    have first := List.forall₂_take_append _ _ _ all
    have others := List.forall₂_drop_append _ _ _ all
    rw [← same, List.take_left] at first
    rw [← same, List.drop_left] at others
    exact .cons first (ih others)

/-- A compiler that always succeeds is called once for each slot if all texts differ, and
every slot gets the handle that was given for it. -/
theorem compileAll_of_nodup (compiler : Compiler σ) (s : σ)
    (succeeds : ∀ kind source u, ∃ t handle, compiler.compile kind source u = (t, .ok handle))
    {variants : List (Variant String)}
    (distinct : Set.InjOn compiler.fingerprint
      {source | ∃ slot ∈ variants.flatMap Variant.slots, slot.2 = source})
    (texts : ((variants.flatMap Variant.slots).map Prod.snd).Nodup) :
    ∃ c sets, (compileAll compiler.recording variants).step (ofState (s, [])) = (c, .ok sets) ∧
      (compileAll compiler variants).step (ofState s) = (c.forget, .ok sets) ∧
      Calls compiler s c.state.2 c.state.1 ∧
      c.state.2.map Call.slot = variants.flatMap Variant.slots ∧
      List.Forall₂ (fun v set => List.Forall₂ (fun slot handle => slot.1 = handle.1 ∧
        ⟨slot.1, slot.2, .ok handle.2⟩ ∈ c.state.2) v.slots set.slots) variants sets := by
  obtain ⟨c, r, new, went, recorded, log, attempt⟩ := attempt_visit (s := s) distinct
    (fun slot mem => ⟨slot, mem, rfl⟩) recorded_ofState
  have log : c.state.2 = new := log
  rcases compiled : (compileAll compiler.recording variants).step (ofState (s, [])) with ⟨c', r'⟩
  have flat := Stage.step_map (·.flatMap Variant.slots) compiled
  rw [compileAll_eq_visit, went] at flat
  obtain ⟨rfl, rfl⟩ := Prod.mk.inj flat
  have answered := recorded.calls.answered
  rw [log] at answered
  cases r' with
  | error f =>
    -- the failure would be an answer of the compiler
    have attempt : Attempt [] (variants.flatMap Variant.slots) new (.error f) := attempt
    cases attempt with
    | @failed _ _ _ kind source e =>
      obtain ⟨u, answer⟩ := answered ⟨kind, source, .error e⟩ (by simp)
      obtain ⟨t, handle, gave⟩ := succeeds kind source u
      have answer : (compiler.compile kind source u).2 = .error e := answer
      rw [gave] at answer
      cases answer
  | ok sets =>
    have attempt : Attempt [] (variants.flatMap Variant.slots) new
        (.ok (sets.flatMap Variant.slots)) := attempt
    cases attempt with
    | done asked succeeded given =>
      have slots : new.map Call.slot = variants.flatMap Variant.slots := by
        rw [asked]
        exact uncached_eq_self (by simp [Compiler.compiled, entries]) texts
      refine ⟨c, sets, rfl, (Alike.compileAll variants).step compiled, recorded.calls,
        by rw [log, slots], forall₂_of_flatMap (gives_compileAll _ variants _ _ _ compiled) ?_⟩
      have each := (List.forall₂_and_left ..).mpr ⟨fun slot mem => mem, given⟩
      refine each.imp fun slot handle ⟨mem, kind, found⟩ => ⟨kind, ?_⟩
      rw [log]
      -- the call that gave the handle is for the text, and so for the slot
      obtain ⟨kind', call⟩ := Compiler.exists_call_of_lookup found
      have called : (kind', slot.2) ∈ variants.flatMap Variant.slots :=
        slots ▸ List.mem_map_of_mem (f := Call.slot) call
      have same : slot = (kind', slot.2) := List.inj_on_of_nodup_map texts mem called rfl
      rw [congrArg Prod.fst same]
      exact call

/-! ### Requests in a row -/

/-- The cache after requests, of which some may have failed. -/
def after (compiler : Compiler σ) (c : Cache σ) (requests : List Request) : Cache σ :=
  requests.foldl (fun c r => (r.perform compiler c).1) c

/-- The texts of requests. -/
def sources (requests : List Request) : Set String :=
  {source | ∃ r ∈ requests, ∃ slot ∈ r.slots, slot.2 = source}

section Record

variable {compiler : Compiler σ} {s : σ} {c : Cache (σ × List Call)} {seen : Set String}

/-- Requests are recorded. -/
theorem recorded_after (distinct : Set.InjOn compiler.fingerprint seen) {requests : List Request}
    (hs : sources requests ⊆ seen) (h : Recorded compiler s seen c) :
    Recorded compiler s seen (after compiler.recording c requests) := by
  induction requests generalizing c with
  | nil => exact h
  | cons r rest ih =>
    have first (slot) (mem : slot ∈ r.slots) : slot.2 ∈ seen :=
      hs ⟨r, List.mem_cons_self, slot, mem, rfl⟩
    have others : sources rest ⊆ seen := by
      rintro source ⟨r', mem, found⟩
      exact hs ⟨r', List.mem_cons_of_mem r mem, found⟩
    obtain ⟨c', _, _, went, recorded, -⟩ := attempt_visit distinct first h
    rw [← perform_eq_visit] at went
    have reached : (r.perform compiler.recording c).1 = c' := congrArg Prod.fst went
    rw [after, List.foldl_cons, reached]
    exact ih others recorded

theorem forget_after (c : Cache (σ × List Call)) (requests : List Request) :
    (after compiler.recording c requests).forget = after compiler c.forget requests := by
  induction requests generalizing c with
  | nil => rfl
  | cons r rest ih =>
    rw [after, List.foldl_cons, ← after, ih, after, after, List.foldl_cons, Alike.perform r c]

end Record

/-- **Every text is compiled once.** Let the fingerprints of the texts differ. Whatever the
compiler answers, and whatever requests were made of the cache, successful or not, the
compiler was never asked for a text that it had compiled before. The cache holds a module
for every text that was compiled and for no other, with the handle of its first successful
call. The next request asks for just the slots that are not cached, in order and up to the
first one that fails, gives the handles of the texts or that failure, and keeps what was
compiled on the way. A text that has only failed is tried again. Keeping a record changes
nothing of this. -/
theorem compiled_once (compiler : Compiler σ) (s : σ) (requests : List Request) (next : Request)
    (distinct : Set.InjOn compiler.fingerprint (sources (requests ++ [next])))
    {c : Cache (σ × List Call)}
    (reached : after compiler.recording (ofState (s, [])) requests = c) :
    (Calls compiler s c.state.2 c.state.1 ∧ c.forget = after compiler (ofState s) requests ∧
      (next.perform compiler c.forget).2 = (next.perform compiler.recording c).2) ∧
    Once c.state.2 ∧ (compiled c.state.2).Nodup ∧
    c.moduleCount = (compiled c.state.2).toFinset.card ∧
    (∀ source ∈ sources (requests ++ [next]),
      c.modules.lookup (compiler.fingerprint source) = (entries c.state.2).lookup source) ∧
    ∃ c' r new, (next.perform compiler.recording).step c = (c', r) ∧
      Attempt c.state.2 next.slots new r ∧ c'.state.2 = c.state.2 ++ new ∧
      c'.modules = c.modules ++ byFingerprint compiler (entries new) ∧
      ∀ kind source, next = .compile kind source → source ∉ compiled c.state.2 →
        ∃ answer, new = [⟨kind, source, answer⟩] := by
  have seen : sources requests ⊆ sources (requests ++ [next]) := by
    rintro source ⟨r, mem, found⟩
    exact ⟨r, List.mem_append_left _ mem, found⟩
  have recorded := recorded_after (s := s) distinct seen recorded_ofState
  rw [reached] at recorded
  refine ⟨⟨recorded.calls, ?_, ?_⟩, recorded.once, recorded.once.nodup, ?_,
    fun source mem => recorded.lookup distinct mem, ?_⟩
  · rw [← reached, forget_after]
    rfl
  · rw [Alike.perform next c]
  · rw [List.toFinset_card_of_nodup recorded.once.nodup, moduleCount, recorded.modules_eq]
    simp [byFingerprint, compiled]
  · have mem (slot) (mem : slot ∈ next.slots) : slot.2 ∈ sources (requests ++ [next]) :=
      ⟨next, by simp, slot, mem, rfl⟩
    obtain ⟨c', r, new, went, recorded', log, attempt⟩ := attempt_visit distinct mem recorded
    refine ⟨c', r, new, ?_, attempt, log, ?_, ?_⟩
    · rw [perform_eq_visit, went]
    · rw [recorded'.modules_eq, recorded.modules_eq, log, Compiler.entries_append,
        byFingerprint_append]
    · rintro kind source rfl fresh
      exact attempt.tried fresh

/-- A compiler that counts the programs that it compiles, and refuses one text. -/
def counting : Compiler Nat where
  compile kind source count :=
    if source = "broken" then (count, .error (.toolchain kind.entryPoint "syntax error"))
    else (count + 1, .ok (count + 1))

/-- A variant with a text that is cached, a new one, the one that is refused, and one more. -/
def halfBroken : Variant String := ⟨"plain", "new", ["plain", "broken", "late"], none, none, none, none⟩

theorem halfBroken_stops :
    ∃ c c' r new, after counting.recording (ofState (0, []))
        [.compile .miss "broken", .compile .shadowHit "plain"] = c ∧
      compiled c.state.2 = ["plain"] ∧ c.moduleCount = (compiled c.state.2).toFinset.card ∧
      ((Request.compileVariant halfBroken).perform counting.recording).step c = (c', r) ∧
      Attempt c.state.2 halfBroken.slots new r ∧
      r = .error (.error (.toolchain "ig_hit_shader" "syntax error")) ∧
      c'.modules = [("plain", 1), ("new", 2)] := by
  obtain ⟨-, -, -, count, -, c', r, new, went, attempt, -⟩ :=
    compiled_once counting 0 [.compile .miss "broken", .compile .shadowHit "plain"]
      (.compileVariant halfBroken) (Set.injOn_id _) rfl
  refine ⟨_, c', r, new, rfl, ?_, count, went, attempt, ?_, ?_⟩
  · decide
  · exact (congrArg Prod.snd went).symm.trans rfl
  · exact (congrArg (·.1.modules) went).symm.trans rfl

end Cache

end RayShader
