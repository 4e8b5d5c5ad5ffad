import RayShader.Run
import Mathlib.Data.List.Forall2

/-!
# Laws of computations

A computation that is known to give a value goes on with that value, so a proof steps
through a `do` block by rewriting. Two views of a computation leave the rest of it out:
the state and the result that it has (`Stage.step`), and the failures that it may end
with (`FailsOnly`). Both are closed under going on.
-/

namespace RayShader

variable {α β σ ε ε' : Type}

/-! ### Results -/

theorem except_bind_eq_ok {x : Except ε α} {f : α → Except ε β} {b : β} :
    x >>= f = .ok b ↔ ∃ a, x = .ok a ∧ f a = .ok b := by
  cases x <;> simp [bind, Except.bind]

theorem exists_of_isOk {x : Except ε α} (h : x.isOk = true) : ∃ a, x = .ok a := by
  cases x with
  | ok a => exact ⟨a, rfl⟩
  | error e => cases h

theorem except_mapM_eq_ok {f : α → Except ε β} {as : List α} {bs : List β} :
    as.mapM f = .ok bs ↔ List.Forall₂ (fun a b => f a = .ok b) as bs := by
  induction as generalizing bs with
  | nil => cases bs <;> simp [pure, Except.pure]
  | cons a as ih =>
    rw [List.mapM_cons, except_bind_eq_ok]
    constructor
    · rintro ⟨b, first, h⟩
      obtain ⟨more, others, h⟩ := except_bind_eq_ok.mp h
      obtain rfl := Except.ok.inj h
      exact .cons first (ih.mp others)
    · rintro (_ | ⟨first, others⟩)
      exact ⟨_, first, except_bind_eq_ok.mpr ⟨_, ih.mpr others, rfl⟩⟩

theorem except_forM_ok {f : α → Except ε Unit} {as : List α} (h : ∀ a ∈ as, f a = .ok ()) :
    as.forM f = .ok () := by
  induction as with
  | nil => rfl
  | cons a as ih =>
    obtain ⟨first, others⟩ := List.forall_mem_cons.mp h
    exact except_bind_eq_ok.mpr ⟨(), first, ih others⟩

/-- The result is a failure only of the given kind. -/
def FailsOnly (P : ε → Prop) (r : Except ε α) : Prop := ∀ e, r = .error e → P e

namespace FailsOnly

variable {P : ε → Prop}

theorem ok (a : α) : FailsOnly P (.ok a : Except ε α) := fun _ h => nomatch h

theorem error {e : ε} (h : P e) : FailsOnly P (.error e : Except ε α) := by
  rintro _ ⟨⟩
  exact h

theorem of_ok {x : Except ε α} (h : ∃ a, x = .ok a) : FailsOnly P x := by
  obtain ⟨a, rfl⟩ := h
  exact ok a

theorem bind {x : Except ε α} {f : α → Except ε β} (hx : FailsOnly P x)
    (hf : ∀ a, x = .ok a → FailsOnly P (f a)) : FailsOnly P (x >>= f) := by
  cases x with
  | ok a => exact hf a rfl
  | error e => exact error (hx e rfl)

theorem map {x : Except ε α} (hx : FailsOnly P x) (f : α → β) : FailsOnly P (x.map f) := by
  cases x with
  | ok a => exact ok (f a)
  | error e => exact error (hx e rfl)

theorem mapError {x : Except ε α} {P : ε' → Prop} {f : ε → ε'}
    (hx : FailsOnly (fun e => P (f e)) x) : FailsOnly P (x.mapError f) := by
  cases x with
  | ok a => exact ok a
  | error e => exact error (hx e rfl)

theorem mapM {f : α → Except ε β} {as : List α} (h : ∀ a ∈ as, FailsOnly P (f a)) :
    FailsOnly P (as.mapM f) := by
  induction as with
  | nil => exact ok []
  | cons a as ih =>
    rw [List.mapM_cons]
    obtain ⟨first, others⟩ := List.forall_mem_cons.mp h
    exact first.bind fun _ _ => (ih others).bind fun _ _ => ok _

theorem forM {f : α → Except ε Unit} {as : List α} (h : ∀ a ∈ as, FailsOnly P (f a)) :
    FailsOnly P (as.forM f) := by
  induction as with
  | nil => exact ok ()
  | cons a as ih =>
    obtain ⟨first, others⟩ := List.forall_mem_cons.mp h
    exact first.bind fun _ _ => ih others

end FailsOnly

/-! ### Runs -/

namespace Run

@[simp] theorem bind_eq (x : Run α) (f : α → Run β) : x >>= f = x.bind f := rfl

theorem bind_of_ok {x : Run α} {a : α} (h : x.result = .ok a) (f : α → Run β) :
    x.bind f = ⟨x.events ++ (f a).events, (f a).result⟩ := by
  simp [bind, h]

theorem bind_of_error {x : Run α} {e : Failure} (h : x.result = .error e) (f : α → Run β) :
    x.bind f = ⟨x.events, .error e⟩ := by
  simp [bind, h]

/-- The result of going on is that of the results. -/
theorem result_bind (x : Run α) (f : α → Run β) :
    (x.bind f).result = x.result >>= fun a => (f a).result := by
  cases h : x.result with
  | ok a => simp only [bind_of_ok h]; rfl
  | error e => simp only [bind_of_error h]; rfl

theorem bind_eq_ok {x : Run α} {f : α → Run β} {b : β} :
    (x.bind f).result = .ok b ↔ ∃ a, x.result = .ok a ∧ (f a).result = .ok b := by
  rw [result_bind, except_bind_eq_ok]

end Run

/-! ### Stages -/

namespace Stage

@[simp] theorem bind_eq (x : Stage σ α) (f : α → Stage σ β) : x >>= f = x.bind f := rfl

@[simp] theorem pure_apply (a : α) (s : σ) : (pure a : Stage σ α) s = (s, ⟨[], .ok a⟩) := rfl

@[simp] theorem ofExcept_ok_bind (a : α) (f : α → Stage σ β) :
    (ofExcept (.ok a) : Stage σ α).bind f = f a := rfl

theorem get_bind (f : σ → Stage σ α) (s : σ) : get.bind f s = f s s := rfl

theorem bind_of_ok {x : Stage σ α} {s t : σ} {events : List Event} {a : α}
    (h : x s = (t, ⟨events, .ok a⟩)) (f : α → Stage σ β) :
    x.bind f s = ((f a t).1, ⟨events ++ (f a t).2.events, (f a t).2.result⟩) := by
  simp [bind, h]

theorem bind_of_error {x : Stage σ α} {s t : σ} {events : List Event} {e : Failure}
    (h : x s = (t, ⟨events, .error e⟩)) (f : α → Stage σ β) :
    x.bind f s = (t, ⟨events, .error e⟩) := by
  simp [bind, h]

theorem bind_assoc {γ : Type} (x : Stage σ α) (f : α → Stage σ β) (g : β → Stage σ γ) :
    (x.bind f).bind g = x.bind fun a => (f a).bind g := by
  funext s
  rcases h : x s with ⟨t, events, e | a⟩
  · simp [bind, h]
  · rcases h' : f a t with ⟨u, more, e | b⟩ <;> simp [bind, h, h', List.append_assoc]

theorem result_ofRun_bind (r : Run α) (f : α → Stage σ β) (s : σ) :
    ((ofRun r).bind f s).2.result = r.result >>= fun a => (f a s).2.result := by
  rcases r with ⟨events, e | a⟩ <;> rfl

theorem state_bind_pure (x : Stage σ α) (f : α → β) (s : σ) :
    ((x.bind fun a => pure (f a)) s).1 = (x s).1 := by
  rcases h : x s with ⟨t, events, e | a⟩
  · rw [bind_of_error h]
  · rw [bind_of_ok h]
    rfl

theorem result_bind_pure (x : Stage σ α) (f : α → β) (s : σ) :
    ((x.bind fun a => pure (f a)) s).2.result = (x s).2.result >>= fun a => pure (f a) := by
  rcases h : x s with ⟨t, events, e | a⟩
  · rw [bind_of_error h]
    rfl
  · rw [bind_of_ok h]
    rfl

/-! The state and the result of a stage. -/

theorem step_bind_of_ok {x : Stage σ α} {s t : σ} {a : α} (h : x.step s = (t, .ok a))
    (f : α → Stage σ β) : (x.bind f).step s = (f a).step t := by
  rcases ran : x s with ⟨u, events, r⟩
  rw [step, ran] at h
  obtain ⟨rfl, rfl⟩ := Prod.mk.inj h
  rw [step, bind_of_ok ran]
  rfl

theorem step_bind_of_error {x : Stage σ α} {s t : σ} {e : Failure}
    (h : x.step s = (t, .error e)) (f : α → Stage σ β) :
    (x.bind f).step s = (t, .error e) := by
  rcases ran : x s with ⟨u, events, r⟩
  rw [step, ran] at h
  obtain ⟨rfl, rfl⟩ := Prod.mk.inj h
  rw [step, bind_of_error ran]

theorem step_bind_eq_ok {x : Stage σ α} {f : α → Stage σ β} {s u : σ} {b : β} :
    (x.bind f).step s = (u, .ok b) ↔
      ∃ t a, x.step s = (t, .ok a) ∧ (f a).step t = (u, .ok b) := by
  rcases h : x s with ⟨t, events, e | a⟩
  · simp [step, bind_of_error h, h]
  · simp only [step, bind_of_ok h, h, Prod.mk.injEq, Except.ok.injEq]
    constructor
    · rintro ⟨rfl, hb⟩
      exact ⟨t, a, ⟨rfl, rfl⟩, rfl, hb⟩
    · rintro ⟨_, _, ⟨rfl, rfl⟩, rfl, hb⟩
      exact ⟨rfl, hb⟩

theorem step_pure_eq_ok {a b : α} {s t : σ} :
    (pure a : Stage σ α).step s = (t, .ok b) ↔ t = s ∧ b = a := by
  simp [step, eq_comm]

theorem step_ofExcept_eq_ok {r : Except Failure α} {s t : σ} {a : α} :
    (ofExcept r : Stage σ α).step s = (t, .ok a) ↔ t = s ∧ r = .ok a := by
  simp [step, ofExcept, ofRun, Run.ofExcept, eq_comm]

theorem step_read_eq_ok {r : Except Error α} {s t : σ} {a : α} :
    (read r : Stage σ α).step s = (t, .ok a) ↔ t = s ∧ r = .ok a := by
  cases r with
  | ok b =>
    have answered : (read (.ok b) : Stage σ α).step s = (s, .ok b) := rfl
    simp [answered, eq_comm]
  | error e =>
    have refused : (read (.error e) : Stage σ α).step s = (s, .error (.error e)) := rfl
    simp [refused]

/-- The stage leaves the state alone. -/
def Keeps (x : Stage σ α) : Prop := ∀ s, (x s).1 = s

namespace Keeps

theorem ofRun (r : Run α) : Keeps (ofRun r : Stage σ α) := fun _ => rfl

theorem bind {x : Stage σ α} {f : α → Stage σ β} (hx : Keeps x) (hf : ∀ a, Keeps (f a)) :
    Keeps (x.bind f) := by
  intro s
  have same := hx s
  rcases h : x s with ⟨t, events, e | a⟩
  · rw [h] at same
    rw [bind_of_error h]
    exact same
  · rw [h] at same
    rw [bind_of_ok h]
    exact (hf a t).trans same

theorem step {x : Stage σ α} (hx : Keeps x) {s t : σ} {r : Except Failure α}
    (h : x.step s = (t, r)) : t = s :=
  (Prod.mk.inj h).1.symm.trans (hx s)

end Keeps

/-! The values of a stage. -/

/-- The stage gives only values of the given kind, whatever the state. -/
def Gives (P : α → Prop) (x : Stage σ α) : Prop := ∀ s t a, x.step s = (t, .ok a) → P a

namespace Gives

variable {P : α → Prop} {Q : β → Prop}

theorem any (x : Stage σ α) : Gives (fun _ => True) x := fun _ _ _ _ => trivial

theorem pure {a : α} (h : P a) : Gives P (pure a : Stage σ α) := by
  intro s t b gave
  obtain ⟨-, rfl⟩ := step_pure_eq_ok.mp gave
  exact h

theorem mono {P' : α → Prop} {x : Stage σ α} (hx : Gives P x) (h : ∀ a, P a → P' a) : Gives P' x :=
  fun s t a gave => h a (hx s t a gave)

theorem ofExcept (r : Except Failure α) : Gives (fun a => r = .ok a) (ofExcept r : Stage σ α) :=
  fun _ _ _ gave => (step_ofExcept_eq_ok.mp gave).2

theorem bind {x : Stage σ α} {f : α → Stage σ β} (hx : Gives P x)
    (hf : ∀ a, P a → Gives Q (f a)) : Gives Q (x.bind f) := by
  intro s u b gave
  obtain ⟨t, a, first, second⟩ := step_bind_eq_ok.mp gave
  exact hf a (hx s t a first) t u b second

end Gives

/-! The failures of a stage. -/

/-- The stage ends with a failure only of the given kind, whatever the state. -/
def FailsOnly (P : Failure → Prop) (x : Stage σ α) : Prop :=
  ∀ s, RayShader.FailsOnly P (x s).2.result

namespace FailsOnly

variable {P : Failure → Prop}

theorem pure (a : α) : FailsOnly P (pure a : Stage σ α) := fun _ => .ok a

theorem bind {x : Stage σ α} {f : α → Stage σ β} (hx : FailsOnly P x)
    (hf : ∀ a, FailsOnly P (f a)) : FailsOnly P (x.bind f) := by
  intro s
  rcases h : x s with ⟨t, events, e | a⟩
  · rw [bind_of_error h]
    exact .error (hx s e (by rw [h]))
  · rw [bind_of_ok h]
    exact hf a t

theorem read {r : Except Error α} (h : RayShader.FailsOnly (fun e => P (.error e)) r) :
    FailsOnly P (read r : Stage σ α) :=
  fun _ => h.mapError

theorem error {e : Error} (h : P (.error e)) : FailsOnly P (error e : Stage σ α) :=
  fun _ => .error h

end FailsOnly

end Stage

end RayShader
