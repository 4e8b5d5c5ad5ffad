import RayShader.Proofs.Slots
import Mathlib.Algebra.Ring.Nat
import Mathlib.Data.List.Basic

/-!
# Visiting slots

The slots of a variant are enumerated in three ways: by the list of them, by the traversal
that fills them anew, and by the comparison of two variants, which looks at one field after
the other. The three agree.

What fills the slots may keep a state and may fail (`Filler`). So the traversal is described
by its calls: they are for the slots of the list, in order, each from the state that the one
before has left, and a call that fails is the last one (`Visit`). That the calls are just
these is seen from a record that is kept of them (`Filler.recording`).
-/

namespace RayShader

open Technique (Moment)

namespace Variant

variable {α β γ σ ε : Type}

/-! ### Kinds of slots -/

/-- The kinds of the filled slots, in order. -/
def kinds (v : Variant α) : List ShaderKind := v.slots.map Prod.fst

/-- The slot of the kind is filled. -/
def Fills (v : Variant α) : ShaderKind → Prop
  | .rayGeneration | .miss => True
  | .hit group => group < v.hits.length
  | .shadowHit => v.shadowHit.isSome
  | .shadowMiss => v.shadowMiss.isSome
  | .callback m => (v.callback m).isSome

theorem map_fst_hitSlots (group : Nat) (hits : List α) :
    (hitSlots group hits).map Prod.fst = (List.range' group hits.length).map .hit := by
  induction hits generalizing group with
  | nil => rfl
  | cons a rest ih => simp [hitSlots, List.range'_succ, ih]

theorem map_fst_optionalSlot (kind : ShaderKind) (slot : Option α) :
    (optionalSlot kind slot).map Prod.fst = if slot.isSome then [kind] else [] := by
  cases slot <;> rfl

/-- The kinds are determined by the number of hit groups and by what else is filled. -/
theorem kinds_eq (v : Variant α) :
    v.kinds = [.rayGeneration, .miss] ++ (List.range v.hits.length).map .hit
      ++ (if v.shadowHit.isSome then [.shadowHit] else [])
      ++ (if v.shadowMiss.isSome then [.shadowMiss] else [])
      ++ (if v.before.isSome then [.callback .before] else [])
      ++ (if v.after.isSome then [.callback .after] else []) := by
  simp only [kinds, slots, List.map_append, List.map_cons, map_fst_hitSlots,
    map_fst_optionalSlot, List.range_eq_range']
  rfl

theorem mem_kinds {v : Variant α} {kind : ShaderKind} : kind ∈ v.kinds ↔ v.Fills kind := by
  rw [kinds_eq]
  cases kind with
  | rayGeneration | miss => simp [Fills]
  | hit group => simp [Fills]
  | shadowHit | shadowMiss => simp [Fills]
  | callback m => cases m <;> simp [Fills, callback]

theorem isCongruent_fields {v : Variant α} {w : Variant β} :
    v.isCongruent w = true ↔ v.hits.length = w.hits.length ∧
      v.shadowHit.isSome = w.shadowHit.isSome ∧ v.shadowMiss.isSome = w.shadowMiss.isSome ∧
      v.before.isSome = w.before.isSome ∧ v.after.isSome = w.after.isSome := by
  simp [isCongruent, Moment.all, callback, and_assoc]

/-- Variants are congruent if their slots are of the same kinds. -/
theorem isCongruent_iff {v : Variant α} {w : Variant β} :
    v.isCongruent w = true ↔ v.kinds = w.kinds := by
  rw [isCongruent_fields]
  constructor
  · rintro ⟨hits, shadowHit, shadowMiss, before, after⟩
    rw [kinds_eq, kinds_eq, hits, shadowHit, shadowMiss, before, after]
  · intro same
    have fills (kind : ShaderKind) : v.Fills kind ↔ w.Fills kind := by
      rw [← mem_kinds, ← mem_kinds, same]
    have hits : v.hits.length = w.hits.length := by
      refine Nat.le_antisymm ?_ ?_
      · exact Nat.le_of_not_lt fun lt => Nat.lt_irrefl _ ((fills (.hit w.hits.length)).mp lt)
      · exact Nat.le_of_not_lt fun lt => Nat.lt_irrefl _ ((fills (.hit v.hits.length)).mpr lt)
    exact ⟨hits, Bool.eq_iff_iff.mpr (fills .shadowHit), Bool.eq_iff_iff.mpr (fills .shadowMiss),
      Bool.eq_iff_iff.mpr (fills (.callback .before)),
      Bool.eq_iff_iff.mpr (fills (.callback .after))⟩

theorem hitSlots_injective {group : Nat} {hits hits' : List α}
    (h : hitSlots group hits = hitSlots group hits') : hits = hits' := by
  have map_snd (hits : List α) (group : Nat) : (hitSlots group hits).map Prod.snd = hits := by
    induction hits generalizing group with
    | nil => rfl
    | cons a rest ih => rw [hitSlots, List.map_cons, ih]
  rw [← map_snd hits group, h, map_snd]

theorem optionalSlot_injective {kind : ShaderKind} {slot slot' : Option α}
    (h : optionalSlot kind slot = optionalSlot kind slot') : slot = slot' := by
  cases slot <;> cases slot' <;> simp_all [optionalSlot]

/-- A variant is determined by the list of its slots. -/
theorem slots_injective : Function.Injective (slots : Variant α → List (ShaderKind × α)) := by
  intro v w h
  have length_eq {kind : ShaderKind} {slot slot' : Option α} (hs : slot.isSome = slot'.isSome) :
      (optionalSlot kind slot).length = (optionalSlot kind slot').length := by
    cases slot <;> cases slot' <;> simp_all [optionalSlot]
  obtain ⟨-, shadowHit, shadowMiss, before, after⟩ :=
    isCongruent_fields.mp (isCongruent_iff.mpr (congrArg (List.map Prod.fst) h))
  -- the lists are taken apart from their ends, where the parts have the same lengths
  obtain ⟨h, afters⟩ := List.append_inj' h (length_eq after)
  obtain ⟨h, befores⟩ := List.append_inj' h (length_eq before)
  obtain ⟨h, shadowMisses⟩ := List.append_inj' h (length_eq shadowMiss)
  obtain ⟨h, shadowHits⟩ := List.append_inj' h (length_eq shadowHit)
  simp only [List.cons.injEq, Prod.mk.injEq, true_and] at h
  obtain ⟨rayGeneration, miss, hits⟩ := h
  cases v
  cases w
  simp only [mk.injEq]
  exact ⟨rayGeneration, miss, hitSlots_injective hits, optionalSlot_injective shadowHits,
    optionalSlot_injective shadowMisses, optionalSlot_injective befores,
    optionalSlot_injective afters⟩

/-! ### Calls -/

/-- What fills slots, keeping a state, and may fail. -/
abbrev Filler (σ ε α β : Type) : Type := ShaderKind → α → ExceptT ε (StateM σ) β

namespace Filler

/-- What the call for a slot gives from a state on, and the state that it leaves. -/
def call (f : Filler σ ε α β) (slot : ShaderKind × α) (s : σ) : Except ε β × σ :=
  (f slot.1 slot.2).run.run s

/-- The filler with a record of the slots that it is called for, which changes nothing else. -/
def recording (f : Filler σ ε α β) : Filler (σ × List (ShaderKind × α)) ε α β :=
  fun kind a => ExceptT.mk fun s =>
    let (r, t) := f.call (kind, a) s.1
    (r, t, s.2 ++ [(kind, a)])

theorem call_recording (f : Filler σ ε α β) (slot : ShaderKind × α) (s : σ)
    (calls : List (ShaderKind × α)) : f.recording.call slot (s, calls)
      = ((f.call slot s).1, (f.call slot s).2, calls ++ [slot]) := rfl

/-- The calls for the slots, one after the other, all succeed, give new contents, and take
one state to another. -/
inductive Calls (f : Filler σ ε α β) :
    σ → List (ShaderKind × α) → List (ShaderKind × β) → σ → Prop where
  /-- There is no slot. -/
  | nil (s : σ) : Calls f s [] [] s
  /-- There is a first slot. -/
  | cons {s t u : σ} {slot : ShaderKind × α} {b : β} {slots : List (ShaderKind × α)}
    {filled : List (ShaderKind × β)} (first : f.call slot s = (.ok b, t))
    (others : Calls f t slots filled u) : Calls f s (slot :: slots) ((slot.1, b) :: filled) u

/-- What comes of visiting slots: the slots that are called for, new contents or an error,
and the state that is left. -/
inductive Visit (f : Filler σ ε α β) (s : σ) (slots : List (ShaderKind × α)) :
    List (ShaderKind × α) → Except ε (List (ShaderKind × β)) → σ → Prop where
  /-- All calls succeed. -/
  | done {filled : List (ShaderKind × β)} {t : σ} (all : Calls f s slots filled t) :
    Visit f s slots slots (.ok filled) t
  /-- A call fails, and is the last one. -/
  | stopped {before later : List (ShaderKind × α)} {slot : ShaderKind × α}
    {filled : List (ShaderKind × β)} {t u : σ} {e : ε} (split : slots = before ++ slot :: later)
    (earlier : Calls f s before filled t) (last : f.call slot t = (.error e, u)) :
    Visit f s slots (before ++ [slot]) (.error e) u

theorem Calls.map_fst {f : Filler σ ε α β} {s t : σ} {slots : List (ShaderKind × α)}
    {filled : List (ShaderKind × β)} (h : Calls f s slots filled t) :
    filled.map Prod.fst = slots.map Prod.fst := by
  induction h with
  | nil => rfl
  | cons _ _ ih => rw [List.map_cons, List.map_cons, ih]

section Bind

variable {x : ExceptT ε (StateM σ) α} {g : α → ExceptT ε (StateM σ) β} {s t : σ}

theorem run_bind_of_ok {a : α} (h : x.run.run s = (.ok a, t)) :
    (x >>= g).run.run s = (g a).run.run t := by
  rw [ExceptT.run_bind, StateT.run_bind, h]
  rfl

theorem run_bind_of_error {e : ε} (h : x.run.run s = (.error e, t)) :
    (x >>= g).run.run s = (.error e, t) := by
  rw [ExceptT.run_bind, StateT.run_bind, h]
  rfl

theorem run_map (g : α → β) (x : ExceptT ε (StateM σ) α) (s : σ) :
    (g <$> x).run.run s = ((x.run.run s).1.map g, (x.run.run s).2) := by
  rw [ExceptT.run_map, StateT.run_map]
  rfl

end Bind

/-- Visits slots from a state on. -/
def visit (f : Filler σ ε α β) (slots : List (ShaderKind × α)) (s : σ) :
    Except ε (List (ShaderKind × β)) × σ :=
  (slots.mapM (fillSlot f)).run.run s

variable {f : Filler σ ε α β} {slot : ShaderKind × α} {slots : List (ShaderKind × α)} {s t : σ}

theorem visit_cons_of_error {e : ε} (h : f.call slot s = (.error e, t)) :
    f.visit (slot :: slots) s = (.error e, t) := by
  have first : (fillSlot f slot).run.run s = (.error e, t) := by
    rw [fillSlot, run_map, ← call, h]
    rfl
  rw [visit, List.mapM_cons, run_bind_of_error first]

theorem visit_cons_of_ok {b : β} (h : f.call slot s = (.ok b, t)) :
    f.visit (slot :: slots) s
      = ((f.visit slots t).1.map ((slot.1, b) :: ·), (f.visit slots t).2) := by
  have first : (fillSlot f slot).run.run s = (.ok (slot.1, b), t) := by
    rw [fillSlot, run_map, ← call, h]
    rfl
  rw [visit, List.mapM_cons, run_bind_of_ok first, bind_pure_comp, run_map]
  rfl

/-- What comes of filling a variant is what comes of visiting its slots. -/
theorem run_mapM (f : Filler σ ε α β) (v : Variant α) (s : σ) :
    (((v.mapM f).run.run s).1.map Variant.slots, ((v.mapM f).run.run s).2) = f.visit v.slots s := by
  rw [visit, ← slots_mapM, run_map]

/-- The slots that are called for are those of the list, up to the first failure. -/
theorem visit_visit (f : Filler σ ε α β) (slots : List (ShaderKind × α)) (s : σ)
    (calls : List (ShaderKind × α)) :
    ∃ new r t, f.visit slots s = (r, t) ∧
      f.recording.visit slots (s, calls) = (r, t, calls ++ new) ∧ Visit f s slots new r t := by
  induction slots generalizing s calls with
  | nil => exact ⟨[], .ok [], s, rfl, by rw [List.append_nil]; rfl, .done (.nil s)⟩
  | cons slot rest ih =>
    rcases first : f.call slot s with ⟨e | b, t⟩
    · have recorded : f.recording.call slot (s, calls) = (.error e, t, calls ++ [slot]) := by
        rw [call_recording, first]
      exact ⟨[slot], .error e, t, visit_cons_of_error first, visit_cons_of_error recorded,
        .stopped (List.nil_append _).symm (.nil s) first⟩
    · have recorded : f.recording.call slot (s, calls) = (.ok b, t, calls ++ [slot]) := by
        rw [call_recording, first]
      obtain ⟨new, r, u, plain, kept, visited⟩ := ih t (calls ++ [slot])
      refine ⟨slot :: new, r.map ((slot.1, b) :: ·), u, ?_, ?_, ?_⟩
      · rw [visit_cons_of_ok first, plain]
      · rw [visit_cons_of_ok recorded, kept, List.append_assoc, List.singleton_append]
      · cases visited with
        | done all => exact .done (.cons first all)
        | stopped split earlier last =>
          exact .stopped (by rw [split]; rfl) (.cons first earlier) last

theorem Visit.map_fst {f : Filler σ ε α β} {s t : σ} {slots calls : List (ShaderKind × α)}
    {filled : List (ShaderKind × β)} (h : Visit f s slots calls (.ok filled) t) :
    filled.map Prod.fst = slots.map Prod.fst := by
  cases h with
  | done all => exact all.map_fst

/-- A filler that never fails. -/
def ofState (g : ShaderKind → α → StateM σ β) : Filler σ ε α β :=
  fun kind a => liftM (g kind a)

/-- Filling without failure is a traversal all of whose calls succeed. -/
theorem calls_ofState (g : ShaderKind → α → StateM σ β) (slots : List (ShaderKind × α)) (s : σ) :
    Calls (ofState g : Filler σ ε α β) s slots ((slots.mapM (fillSlot g)).run s).1
      ((slots.mapM (fillSlot g)).run s).2 := by
  induction slots generalizing s with
  | nil => exact .nil s
  | cons slot rest ih =>
    rw [List.mapM_cons]
    exact .cons rfl (ih _)

end Filler

/-! ### Agreement -/

section Lift

variable {m n : Type → Type} [Monad m] [LawfulMonad m] [Monad n] [LawfulMonad n]
  [MonadLiftT m n] [LawfulMonadLiftT m n]

theorem mapHitsM_lift (f : ShaderKind → α → m β) (group : Nat) (hits : List α) :
    mapHitsM (fun kind a => (liftM (f kind a) : n β)) group hits
      = liftM (mapHitsM f group hits) := by
  induction hits generalizing group with
  | nil => simp [mapHitsM]
  | cons a rest ih => simp [mapHitsM, ih]

theorem mapSlotM_lift (f : ShaderKind → α → m β) (kind : ShaderKind) (slot : Option α) :
    mapSlotM (fun kind a => (liftM (f kind a) : n β)) kind slot
      = liftM (mapSlotM f kind slot) := by
  cases slot <;> simp [mapSlotM]

/-- A computation that is lifted fills a variant as before. -/
theorem mapM_lift (f : ShaderKind → α → m β) (v : Variant α) :
    v.mapM (fun kind a => (liftM (f kind a) : n β)) = liftM (v.mapM f) := by
  simp [mapM, mapHitsM_lift, mapSlotM_lift]

end Lift

theorem slots_map (f : ShaderKind → α → β) (v : Variant α) :
    (v.map f).slots = v.slots.map fun slot => (slot.1, f slot.1 slot.2) :=
  (slots_mapM (m := Id) (fun kind a => pure (f kind a)) v).trans List.mapM_pure

theorem kinds_map (f : ShaderKind → α → β) (v : Variant α) : (v.map f).kinds = v.kinds := by
  rw [kinds, slots_map, List.map_map]
  rfl

theorem sourceLength_eq (v : Variant String) :
    v.sourceLength = (v.slots.map fun slot => slot.2.utf8ByteSize).sum := by
  rw [sourceLength, List.sum_eq_foldr, List.foldr_map]

/-- Filling a variant calls the filler for its slots, up to the first failure. -/
theorem visit_slots (f : Filler σ ε α β) (v : Variant α) (s : σ) :
    ∃ calls r t, (v.mapM f).run.run s = (r, t) ∧
      (v.mapM f.recording).run.run (s, []) = (r, t, calls) ∧
      Filler.Visit f s v.slots calls (r.map slots) t := by
  obtain ⟨calls, r, t, plain, kept, visited⟩ := Filler.visit_visit f v.slots s []
  rw [← Filler.run_mapM] at plain kept
  rcases ran : (v.mapM f).run.run s with ⟨made, t'⟩
  rcases recorded : (v.mapM f.recording).run.run (s, []) with ⟨made', t'', calls'⟩
  rw [ran] at plain
  rw [recorded] at kept
  obtain ⟨rfl, rfl⟩ := Prod.mk.inj plain
  obtain ⟨same, rest⟩ := Prod.mk.inj kept
  obtain ⟨rfl, rfl⟩ := Prod.mk.inj rest
  -- the record comes to the same slots, and these determine the variant
  have same : made' = made := by
    cases made <;> cases made' <;> simp_all [Except.map, slots_injective.eq_iff]
  exact ⟨_, made, _, rfl, by rw [same], visited⟩

/-- Filling a variant without failure calls for all slots, and is what a filler does that
never fails. -/
theorem calls_slots (g : ShaderKind → α → StateM σ β) (v : Variant α) (s : σ) :
    ∃ w t, (v.mapM g).run s = (w, t) ∧
      (v.mapM (Filler.ofState g : Filler σ ε α β)).run.run s = (.ok w, t) ∧
      Filler.Calls (Filler.ofState g : Filler σ ε α β) s v.slots w.slots t := by
  refine ⟨((v.mapM g).run s).1, ((v.mapM g).run s).2, rfl, ?_, ?_⟩
  · have lifted : v.mapM (Filler.ofState g : Filler σ ε α β) = liftM (v.mapM g) := mapM_lift g v
    rw [lifted]
    rfl
  · have all := Filler.calls_ofState (ε := ε) g v.slots s
    rw [← slots_mapM] at all
    exact all

/-- **The traversal, the list and the comparison of slots agree.** Whatever is called on
the slots of a variant, with whatever state: it is called on the slots of its list, in order
and up to the first failure, which is what comes of it; and if there is none, the new
variant lists the same kinds with what the calls gave. Without failures all slots are called for.
Two variants are congruent if their lists have the same kinds, so congruence is an
equivalence, and a new variant is congruent to the one that it was made from. -/
theorem slots_agree (v : Variant α) (w : Variant β) (x : Variant γ) (program : Variant String) :
    (∀ (σ ε : Type) (f : Filler σ ε α β) (s : σ), ∃ calls r t,
      (v.mapM f).run.run s = (r, t) ∧ (v.mapM f.recording).run.run (s, []) = (r, t, calls) ∧
        Filler.Visit f s v.slots calls (r.map slots) t ∧
        ∀ u, r = .ok u → v.isCongruent u ∧ u.isCongruent v) ∧
    (∀ (σ ε : Type) (g : ShaderKind → α → StateM σ β) (s : σ), ∃ u t, (v.mapM g).run s = (u, t) ∧
      (v.mapM (Filler.ofState g : Filler σ ε α β)).run.run s = (.ok u, t) ∧
        Filler.Calls (Filler.ofState g : Filler σ ε α β) s v.slots u.slots t ∧
        v.isCongruent u ∧ u.isCongruent v) ∧
    (∀ g : ShaderKind → α → β,
      (v.map g).slots = (v.slots.map fun slot => (slot.1, g slot.1 slot.2)) ∧
        v.isCongruent (v.map g) ∧ (v.map g).isCongruent v) ∧
    (v.isCongruent w ↔ v.slots.map Prod.fst = w.slots.map Prod.fst) ∧
    (v.isCongruent v ∧ (v.isCongruent w → w.isCongruent v) ∧
      (v.isCongruent w → w.isCongruent x → v.isCongruent x)) ∧
    v.count = (v.slots.map Prod.fst).length ∧
    program.sourceLength = (program.slots.map fun slot => slot.2.utf8ByteSize).sum := by
  have congruent {u : Variant β} (same : u.kinds = v.kinds) : v.isCongruent u ∧ u.isCongruent v :=
    ⟨isCongruent_iff.mpr same.symm, isCongruent_iff.mpr same⟩
  refine ⟨fun σ ε f s => ?_, fun σ ε g s => ?_,
    fun g => ⟨slots_map g v, congruent (kinds_map g v)⟩, isCongruent_iff,
    ⟨isCongruent_iff.mpr rfl, fun h => ?_, fun h h' => ?_⟩, ?_, sourceLength_eq program⟩
  · obtain ⟨calls, r, t, ran, recorded, visited⟩ := visit_slots f v s
    refine ⟨calls, r, t, ran, recorded, visited, ?_⟩
    rintro u rfl
    exact congruent visited.map_fst
  · obtain ⟨u, t, ran, same, all⟩ := calls_slots (ε := ε) g v s
    exact ⟨u, t, ran, same, all, congruent all.map_fst⟩
  · exact isCongruent_iff.mpr (isCongruent_iff.mp h).symm
  · exact isCongruent_iff.mpr ((isCongruent_iff.mp h).trans (isCongruent_iff.mp h'))
  · rw [count, List.length_map]

/-- A function that numbers the programs and refuses that of the second hit group. -/
def numbering : Filler Nat String String Nat := fun kind _ => ExceptT.mk fun next =>
  if kind = .hit 1 then (.error "refused", next) else (.ok next, next + 1)

/-- A variant of two hit groups and one callback. -/
def partlyFilled : Variant String :=
  ⟨"rays", "sky", ["floor", "wall"], none, none, none, some "sum"⟩

theorem partlyFilled_refused :
    ∃ calls r t, (partlyFilled.mapM numbering).run.run 3 = (r, t) ∧
      Filler.Visit numbering 3 partlyFilled.slots calls (r.map slots) t ∧
      calls.map Prod.fst = [.rayGeneration, .miss, .hit 0, .hit 1] ∧ r = .error "refused" ∧ t = 6 ∧
      partlyFilled.isCongruent (partlyFilled.map fun _ source => source.length) := by
  obtain ⟨visits, -, maps, -⟩ :=
    slots_agree partlyFilled (partlyFilled.map fun _ source => source.length) partlyFilled
      partlyFilled
  obtain ⟨calls, r, t, ran, recorded, visited, -⟩ := visits Nat String numbering 3
  refine ⟨calls, r, t, ran, visited, ?_, ?_, ?_, (maps _).2.1⟩
  · exact congrArg (fun answer => answer.2.2.map Prod.fst) recorded.symm
  · exact congrArg Prod.fst ran.symm
  · exact congrArg Prod.snd ran.symm

end Variant

end RayShader
