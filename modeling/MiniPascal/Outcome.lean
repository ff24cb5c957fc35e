import MiniPascal.Error

/-!
# Outcomes

A reading of some input ends with a value or with an error, and in both cases somewhere in the
input: `Outcome σ α` keeps that place, so that a later reading can go on from it. A `Run σ α` is an
action that starts at a place and has such an outcome; runs follow one another from place to place.

`Run.many` repeats a run and `Run.fix` ties one to itself. Both end because they go on only at
places that are smaller than the ones before; `Run.fix_induct` is induction along a run of `fix`.
-/

namespace MiniPascal

/-- A value or an error, and the place `σ` that was reached. -/
inductive Outcome (σ α : Type) where
  | done (a : α) (s : σ)
  | stop (e : Error) (s : σ)
  deriving DecidableEq

namespace Outcome

variable {σ α β : Type}

/-- The place that was reached. -/
def place : Outcome σ α → σ
  | .done _ s => s
  | .stop _ s => s

/-- The value changed by `f`, if there is one. -/
def map (f : α → β) : Outcome σ α → Outcome σ β
  | .done a s => .done (f a) s
  | .stop e s => .stop e s

/-- The outcome without its place. -/
def toExcept : Outcome σ α → Except Error α
  | .done a _ => .ok a
  | .stop e _ => .error e

@[simp] theorem map_done (f : α → β) (a : α) (s : σ) : (done a s).map f = .done (f a) s := rfl

@[simp] theorem map_stop (f : α → β) (e : Error) (s : σ) :
    (stop e s : Outcome σ α).map f = .stop e s := rfl

@[simp] theorem place_done (a : α) (s : σ) : (done a s).place = s := rfl

@[simp] theorem place_stop (e : Error) (s : σ) : (stop e s : Outcome σ α).place = s := rfl

/-- Changing the value does not change the place. -/
@[simp] theorem place_map (f : α → β) (o : Outcome σ α) : (o.map f).place = o.place := by
  cases o <;> rfl

@[simp] theorem toExcept_done (a : α) (s : σ) : (done a s).toExcept = .ok a := rfl

@[simp] theorem toExcept_stop (e : Error) (s : σ) :
    (stop e s : Outcome σ α).toExcept = .error e := rfl

/-- An outcome has a value if it is done somewhere. -/
theorem toExcept_eq_ok_iff {o : Outcome σ α} {a : α} :
    o.toExcept = .ok a ↔ ∃ s, o = .done a s := by
  cases o <;> simp

/-- An outcome has an error if it stopped somewhere. -/
theorem toExcept_eq_error_iff {o : Outcome σ α} {e : Error} :
    o.toExcept = .error e ↔ ∃ s, o = .stop e s := by
  cases o <;> simp

/-- A changed value is that of the outcome, at the same place. -/
theorem map_eq_done_iff {f : α → β} {o : Outcome σ α} {b : β} {s : σ} :
    o.map f = .done b s ↔ ∃ a, o = .done a s ∧ f a = b := by
  cases o with
  | done a t => exact ⟨fun h => by cases h; exact ⟨a, rfl, rfl⟩, fun ⟨_, h, hb⟩ => by
      cases h; rw [map_done, hb]⟩
  | stop e t => simp

/-- A changed outcome stops where the outcome does. -/
theorem map_eq_stop_iff {f : α → β} {o : Outcome σ α} {e : Error} {s : σ} :
    o.map f = .stop e s ↔ o = .stop e s := by
  cases o <;> simp

end Outcome

/-- An action that starts at a place and ends with an outcome. -/
def Run (σ α : Type) : Type := σ → Outcome σ α

namespace Run

variable {σ α β : Type}

instance : Monad (Run σ) where
  pure a := fun c => .done a c
  bind p f := fun c =>
    match p c with
    | .done a d => f a d
    | .stop e d => .stop e d

/-- Gives up with an error. -/
def fail (e : Error) : Run σ α := fun c => .stop e c

/-- Gives the value, or gives up with the error. -/
def ofExcept : Except Error α → Run σ α
  | .ok a => pure a
  | .error e => fail e

/-- A value is given where the run starts. -/
theorem pure_apply (a : α) (c : σ) : (pure a : Run σ α) c = .done a c := rfl

/-- The second run starts where the first one is done, and not at all where it stops. -/
theorem bind_apply (p : Run σ α) (f : α → Run σ β) (c : σ) :
    (p >>= f) c = match p c with
      | .done a d => f a d
      | .stop e d => .stop e d := rfl

/-- A changed run has the changed outcome. -/
theorem map_apply (f : α → β) (p : Run σ α) (c : σ) : (f <$> p) c = (p c).map f := by
  show (p >>= fun a => pure (f a)) c = _
  rw [bind_apply]
  cases p c <;> rfl

instance : LawfulMonad (Run σ) := LawfulMonad.mk' (Run σ)
  (fun p => funext fun c => by rw [map_apply]; cases p c <;> rfl)
  (fun _ _ => rfl)
  (fun p f g => funext fun c => by simp only [bind_apply]; cases p c <;> rfl)

/-- A sequence succeeds if its parts do, one after the other. -/
theorem bind_eq_done_iff {p : Run σ α} {f : α → Run σ β} {c d : σ} {b : β} :
    (p >>= f) c = .done b d ↔ ∃ a m, p c = .done a m ∧ f a m = .done b d := by
  rw [bind_apply]
  cases p c with
  | done a m => exact ⟨fun h => ⟨a, m, rfl, h⟩, fun ⟨_, _, he, h⟩ => by cases he; exact h⟩
  | stop e m => simp

/-- A sequence fails if its first part does, or its second part after the first. -/
theorem bind_eq_stop_iff {p : Run σ α} {f : α → Run σ β} {c d : σ} {e : Error} :
    (p >>= f) c = .stop e d ↔
      p c = .stop e d ∨ ∃ a m, p c = .done a m ∧ f a m = .stop e d := by
  rw [bind_apply]
  cases p c with
  | done a m =>
    refine ⟨fun h => .inr ⟨a, m, rfl, h⟩, fun h => ?_⟩
    obtain h | ⟨_, _, he, h⟩ := h
    · cases h
    · cases he
      exact h
  | stop e' m => simp

/-- Repeats `next` until it has no value. Ends also where `next` left the place no smaller. -/
def many (size : σ → Nat) (next : Run σ (Option α)) (c : σ) : Outcome σ (List α) :=
  match next c with
  | .stop e d => .stop e d
  | .done none d => .done [] d
  | .done (some a) d =>
    if _ : size d < size c then (many size next d).map (a :: ·) else .done [a] d
termination_by size c

/-- One round of a repetition, and the rounds after it. -/
theorem many_eq (size : σ → Nat) (next : Run σ (Option α)) (c : σ) :
    many size next c = match next c with
      | .stop e d => .stop e d
      | .done none d => .done [] d
      | .done (some a) d =>
        if size d < size c then (many size next d).map (a :: ·) else .done [a] d := by
  rw [many]
  split <;> simp_all

/-- The action that `body` makes from itself. It may call itself only at smaller places; `stuck`
happens where it does not. -/
def fix (size : σ → Nat) (stuck : Run σ α) (body : Run σ α → Run σ α) (c : σ) : Outcome σ α :=
  body (fun d => if _ : size d < size c then fix size stuck body d else stuck d) c
termination_by size c

/-- What holds of `body` wherever it holds of the action that `body` calls at smaller places, holds
of the action that `body` makes from itself. -/
theorem fix_induct {size : σ → Nat} {stuck : Run σ α} {body : Run σ α → Run σ α}
    {P : σ → Outcome σ α → Prop}
    (step : ∀ c f, (∀ d, size d < size c → P d (f d)) →
      (∀ d, ¬size d < size c → f d = stuck d) → P c (body f c)) (c : σ) :
    P c (fix size stuck body c) := by
  rw [fix]
  refine step c _ (fun d h => ?_) (fun d h => ?_)
  · simp only [h, dif_pos]
    exact fix_induct step d
  · simp [h]
termination_by size c

end Run

end MiniPascal
