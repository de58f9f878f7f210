import RuntimeStubs.Fault

/-! Computations over a state that may fail.

An action answers with a value or a fault and, in both cases, with the state it has reached: what
was done before a failure stays done. `bind_eq_ok_iff` and `bind_eq_error_iff` take a sequence of
two actions apart, and `focus` runs an action on a part of a larger state. -/

set_option autoImplicit false

namespace RuntimeStubs

def Action (σ α : Type) : Type := σ → Except Fault α × σ

namespace Action

variable {σ τ α β : Type}

instance : Monad (Action σ) where
  pure a := fun s => (.ok a, s)
  bind a f := fun s =>
    match a s with
    | (.ok value, s) => f value s
    | (.error fault, s) => (.error fault, s)

def fail (fault : Fault) : Action σ α := fun s => (.error fault, s)

def get : Action σ σ := fun s => (.ok s, s)

def modify (f : σ → σ) : Action σ Unit := fun s => (.ok (), f s)

def ofExcept (result : Except Fault α) : Action σ α := fun s => (result, s)

def aborting (step : σ → Except Abort α × σ) : Action σ α := fun s =>
  match step s with
  | (result, s) => (Fault.ofAborting result, s)

def focus (part : σ → τ) (update : τ → σ → σ) (action : Action τ α) : Action σ α := fun s =>
  match action (part s) with
  | (result, t) => (result, update t s)

@[simp] theorem pure_apply (a : α) (s : σ) : (pure a : Action σ α) s = (.ok a, s) := rfl

@[simp] theorem fail_apply (fault : Fault) (s : σ) :
    (fail fault : Action σ α) s = (.error fault, s) := rfl

@[simp] theorem get_apply (s : σ) : (get : Action σ σ) s = (.ok s, s) := rfl

@[simp] theorem modify_apply (f : σ → σ) (s : σ) : modify f s = (.ok (), f s) := rfl

@[simp] theorem ofExcept_apply (result : Except Fault α) (s : σ) :
    (ofExcept result : Action σ α) s = (result, s) := rfl

@[simp] theorem aborting_apply (step : σ → Except Abort α × σ) (s : σ) :
    aborting step s = (Fault.ofAborting (step s).1, (step s).2) := rfl

@[simp] theorem focus_apply (part : σ → τ) (update : τ → σ → σ) (action : Action τ α) (s : σ) :
    focus part update action s = ((action (part s)).1, update (action (part s)).2 s) := rfl

theorem bind_apply (action : Action σ α) (next : α → Action σ β) (s : σ) :
    (action >>= next) s =
      match action s with
      | (.ok value, s) => next value s
      | (.error fault, s) => (.error fault, s) := rfl

theorem bind_of_ok {action : Action σ α} {next : α → Action σ β} {s t : σ} {value : α}
    (h : action s = (.ok value, t)) : (action >>= next) s = next value t := by
  rw [bind_apply, h]

theorem bind_of_error {action : Action σ α} {next : α → Action σ β} {s t : σ} {fault : Fault}
    (h : action s = (.error fault, t)) : (action >>= next) s = (.error fault, t) := by
  rw [bind_apply, h]

theorem bind_eq_ok_iff {action : Action σ α} {next : α → Action σ β} {s t : σ} {result : β} :
    (action >>= next) s = (.ok result, t) ↔
      ∃ value middle, action s = (.ok value, middle) ∧ next value middle = (.ok result, t) := by
  constructor
  · intro h
    rcases first : action s with ⟨fault | value, middle⟩
    · simp [bind_of_error first] at h
    · exact ⟨value, middle, rfl, (bind_of_ok first).symm.trans h⟩
  · rintro ⟨value, middle, first, second⟩
    rw [bind_of_ok first, second]

theorem bind_eq_error_iff {action : Action σ α} {next : α → Action σ β} {s t : σ}
    {fault : Fault} :
    (action >>= next) s = (.error fault, t) ↔
      action s = (.error fault, t) ∨
        ∃ value middle, action s = (.ok value, middle) ∧
          next value middle = (.error fault, t) := by
  constructor
  · intro h
    rcases first : action s with ⟨other | value, middle⟩
    · rw [bind_of_error first] at h
      exact Or.inl (by simpa using h)
    · exact Or.inr ⟨value, middle, rfl, (bind_of_ok first).symm.trans h⟩
  · rintro (first | ⟨value, middle, first, second⟩)
    · exact bind_of_error first
    · rw [bind_of_ok first, second]

instance : LawfulMonad (Action σ) := by
  refine LawfulMonad.mk' (Action σ) ?_ (fun _ _ => rfl) ?_
  · intro α action
    funext s
    change (action >>= pure) s = action s
    rw [bind_apply]
    rcases action s with ⟨_ | _, _⟩ <;> rfl
  · intro α β γ action first second
    funext s
    simp only [bind_apply]
    rcases action s with ⟨_ | _, _⟩ <;> rfl

end Action

end RuntimeStubs
