import RayShader.Variant
import RayShader.Proofs.Run
import Mathlib.Data.List.Basic

/-!
# Slots, one after the other

Filling a variant is going through the list of its slots: `slots_mapM` says so of every
lawful monad, and so of runs and stages alike. The contents of slots are then contents of
a list, and what holds of going through lists holds of variants and of lists of them.
-/

namespace RayShader

variable {α β σ : Type}

/-! ### The monads of computations -/

instance : LawfulMonad Run := .mk' Run
  (fun x => by
    rcases x with ⟨events, e | a⟩
    · rfl
    · exact congrArg (Run.mk · _) (List.append_nil events))
  (fun _ _ => rfl)
  (fun x f g => by
    rcases x with ⟨events, e | a⟩
    · rfl
    · rcases h : f a with ⟨more, e | b⟩ <;> simp [Run.bind, h, List.append_assoc])

instance : LawfulMonad (Stage σ) := .mk' (Stage σ)
  (fun x => by
    funext s
    rcases h : x s with ⟨t, events, e | a⟩
    · exact Stage.bind_of_error h _
    · exact (Stage.bind_of_ok h _).trans (congrArg (t, Run.mk · _) (List.append_nil events)))
  (fun _ _ => rfl)
  Stage.bind_assoc

theorem Run.result_map (f : α → β) (x : Run α) : (f <$> x).result = x.result.map f := by
  rcases x with ⟨events, e | a⟩ <;> rfl

theorem Run.result_mapM (f : α → Run β) (as : List α) :
    (as.mapM f).result = as.mapM fun a => (f a).result := by
  induction as with
  | nil => rfl
  | cons a as ih =>
    rw [List.mapM_cons, List.mapM_cons, ← ih, Run.bind_eq, Run.result_bind]
    rcases (f a).result with e | b
    · rfl
    · exact Run.result_bind _ _

theorem Stage.map_apply (f : α → β) (x : Stage σ α) (s : σ) :
    (f <$> x) s = ((x s).1, ⟨(x s).2.events, (x s).2.result.map f⟩) := by
  rcases h : x s with ⟨t, events, e | a⟩
  · exact bind_of_error h _
  · exact (bind_of_ok h _).trans (congrArg (t, Run.mk · _) (List.append_nil events))

theorem Stage.step_map (f : α → β) {x : Stage σ α} {s t : σ} {r : Except Failure α}
    (h : x.step s = (t, r)) : (f <$> x).step s = (t, r.map f) := by
  obtain ⟨rfl, rfl⟩ := Prod.mk.inj h
  rw [step, map_apply]

/-! ### Slots -/

namespace Variant

variable {m : Type → Type} [Monad m] [LawfulMonad m]

/-- Fills a slot and keeps its kind. -/
def fillSlot (f : ShaderKind → α → m β) (slot : ShaderKind × α) : m (ShaderKind × β) :=
  (slot.1, ·) <$> f slot.1 slot.2

theorem hitSlots_mapHitsM (f : ShaderKind → α → m β) (group : Nat) (hits : List α) :
    hitSlots group <$> mapHitsM f group hits = (hitSlots group hits).mapM (fillSlot f) := by
  induction hits generalizing group with
  | nil => simp [mapHitsM, hitSlots]
  | cons a rest ih => simp [mapHitsM, hitSlots, fillSlot, ← ih]

theorem optionalSlot_mapSlotM (f : ShaderKind → α → m β) (kind : ShaderKind) (slot : Option α) :
    optionalSlot kind <$> mapSlotM f kind slot = (optionalSlot kind slot).mapM (fillSlot f) := by
  cases slot with
  | none => simp [mapSlotM, optionalSlot]
  | some a => simp [mapSlotM, optionalSlot, fillSlot]

/-- Filling a variant fills the slots of its list, in order. -/
theorem slots_mapM (f : ShaderKind → α → m β) (v : Variant α) :
    slots <$> v.mapM f = v.slots.mapM (fillSlot f) := by
  simp [mapM, slots, ← hitSlots_mapHitsM, ← optionalSlot_mapSlotM, fillSlot]

end Variant

end RayShader
