namespace Switchboard

/-!
# Attempts

An attempt runs over a state and succeeds, or fails and keeps whatever it had changed, or does not
come back: its fuel runs out, or it is stopped by a panic.  Running out of fuel is no error of the
program: it says nothing about how a longer run would end.
-/

/-- A computation over `σ` that fails with `ε` or yields `α`; `none` when it does not come back. -/
def Attempt (σ ε α : Type) : Type :=
  σ → Option (Except ε α × σ)

namespace Attempt

variable {σ τ ε φ α β : Type}

/-- Succeed without touching the state. -/
def succeed (value : α) : Attempt σ ε α :=
  fun state => some (.ok value, state)

/-- Fail without touching the state. -/
def fail (error : ε) : Attempt σ ε α :=
  fun state => some (.error error, state)

/-- The attempt whose fuel has run out. -/
def exhausted : Attempt σ ε α :=
  fun _ => none

/-- The attempt that panics. -/
def stopped : Attempt σ ε α :=
  fun _ => none

/-- Go on with the value of a successful attempt. -/
def andThen (attempt : Attempt σ ε α) (next : α → Attempt σ ε β) : Attempt σ ε β :=
  fun state =>
    match attempt state with
    | none => none
    | some (.error error, after) => some (.error error, after)
    | some (.ok value, after) => next value after

instance : Monad (Attempt σ ε) where
  pure := succeed
  bind := andThen

/-- Read something off the state. -/
def reading (view : σ → α) : Attempt σ ε α :=
  fun state => some (.ok (view state), state)

/-- Replace the state by one computed from it, with a value computed beside it. -/
def changing (change : σ → α × σ) : Attempt σ ε α :=
  fun state =>
    let (value, after) := change state
    some (.ok value, after)

/-- Give a failure another form. -/
def mapError (wrap : ε → φ) (attempt : Attempt σ ε α) : Attempt σ φ α :=
  fun state =>
    match attempt state with
    | none => none
    | some (.error error, after) => some (.error (wrap error), after)
    | some (.ok value, after) => some (.ok value, after)

/-- Turn a failure into a value. -/
def settle (attempt : Attempt σ ε α) : Attempt σ φ (Except ε α) :=
  fun state =>
    match attempt state with
    | none => none
    | some (outcome, after) => some (.ok outcome, after)

/-- Use a finished outcome. -/
def ofExcept : Except ε α → Attempt σ ε α
  | .ok value => succeed value
  | .error error => fail error

/-- Run an attempt for every element in order, up to the first failure. -/
def each (elements : List β) (attempt : β → Attempt σ ε Unit) : Attempt σ ε Unit :=
  match elements with
  | [] => succeed ()
  | element :: rest => andThen (attempt element) fun _ => each rest attempt

/-- Run an attempt on one part of a larger state. -/
def focus
    (view : τ → σ)
    (update : σ → τ → τ)
    (attempt : Attempt σ ε α) :
    Attempt τ ε α :=
  fun whole =>
    match attempt (view whole) with
    | none => none
    | some (outcome, part) => some (outcome, update part whole)

/-- Run an attempt on the first part of a pair. -/
def onFirst (attempt : Attempt σ ε α) : Attempt (σ × τ) ε α :=
  focus Prod.fst (fun part whole => (part, whole.2)) attempt

/-- Run an attempt on the second part of a pair. -/
def onSecond (attempt : Attempt τ ε α) : Attempt (σ × τ) ε α :=
  focus Prod.snd (fun part whole => (whole.1, part)) attempt

/-- Run an attempt with a value beside the state, and give back what became of the value. -/
def carrying (start : τ) (attempt : Attempt (τ × σ) ε α) : Attempt σ ε (α × τ) :=
  fun state =>
    match attempt (start, state) with
    | none => none
    | some (.error error, (_, after)) => some (.error error, after)
    | some (.ok value, (carried, after)) => some (.ok (value, carried), after)

@[simp] theorem run_pure (value : α) (state : σ) :
    (pure value : Attempt σ ε α) state = some (.ok value, state) := rfl

/-- What binding does, case by case. -/
theorem bind_apply
    (attempt : Attempt σ ε α)
    (next : α → Attempt σ ε β)
    (state : σ) :
    (attempt >>= next) state =
      match attempt state with
      | none => none
      | some (.error error, after) => some (.error error, after)
      | some (.ok value, after) => next value after := rfl

/-- Continuing a successful attempt with its own value changes nothing. -/
theorem andThen_succeed (attempt : Attempt σ ε α) :
    andThen attempt succeed = attempt := by
  funext state
  simp only [andThen]
  cases attempt state with
  | none => rfl
  | some ending =>
      obtain ⟨outcome, after⟩ := ending
      cases outcome <;> rfl

/-- Three attempts in a row can be grouped either way. -/
theorem andThen_assoc {γ : Type}
    (attempt : Attempt σ ε α)
    (next : α → Attempt σ ε β)
    (further : β → Attempt σ ε γ) :
    andThen (andThen attempt next) further =
      andThen attempt fun value => andThen (next value) further := by
  funext state
  simp only [andThen]
  cases attempt state with
  | none => rfl
  | some ending =>
      obtain ⟨outcome, after⟩ := ending
      cases outcome <;> rfl

instance : LawfulMonad (Attempt σ ε) :=
  LawfulMonad.mk' (Attempt σ ε) andThen_succeed (fun _ _ => rfl) andThen_assoc

end Attempt

end Switchboard
