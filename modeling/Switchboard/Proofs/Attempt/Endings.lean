import Switchboard.Attempt

namespace Switchboard.Attempt

/-!
# How attempts end

What an attempt comes to is read off its parts: a chain succeeds when both links do, and fails
with the first link that fails.
-/

variable {σ τ ε φ α β : Type}

@[simp] theorem reading_bind
    (view : σ → α)
    (next : α → Attempt σ ε β)
    (state : σ) :
    (reading view >>= next) state = next (view state) state := rfl

@[simp] theorem changing_bind
    (change : σ → α × σ)
    (next : α → Attempt σ ε β)
    (state : σ) :
    (changing change >>= next) state = next (change state).1 (change state).2 := rfl

@[simp] theorem changing_apply
    (change : σ → α × σ)
    (state : σ) :
    (changing change : Attempt σ ε α) state = some (.ok (change state).1, (change state).2) := rfl

/-- A chain ends with the failure of its first link or as its second one does. -/
theorem bind_eq_some
    {attempt : Attempt σ ε α}
    {next : α → Attempt σ ε β}
    {state after : σ}
    {outcome : Except ε β} :
    (attempt >>= next) state = some (outcome, after) ↔
      (∃ error, attempt state = some (.error error, after) ∧ outcome = .error error) ∨
        ∃ value between,
          attempt state = some (.ok value, between) ∧
            next value between = some (outcome, after) := by
  rw [bind_apply]
  cases first : attempt state with
  | none =>
      simp
  | some ending =>
      obtain ⟨outcomeOfFirst, between⟩ := ending
      cases outcomeOfFirst with
      | error error =>
          constructor
          · intro ended
            cases ended
            exact Or.inl ⟨error, rfl, rfl⟩
          · rintro (⟨other, ended, rfl⟩ | ⟨value, state, ended, _⟩)
            · cases ended
              rfl
            · cases ended
      | ok value =>
          constructor
          · intro ended
            exact Or.inr ⟨value, between, rfl, ended⟩
          · rintro (⟨error, ended, _⟩ | ⟨other, state, ended, later⟩)
            · cases ended
            · cases ended
              exact later

theorem bind_eq_ok
    {attempt : Attempt σ ε α}
    {next : α → Attempt σ ε β}
    {state after : σ}
    {value : β} :
    (attempt >>= next) state = some (.ok value, after) ↔
      ∃ middle between,
        attempt state = some (.ok middle, between) ∧
          next middle between = some (.ok value, after) := by
  rw [bind_eq_some]
  simp

/-- An attempt whose value is only looked at ends as it did before that. -/
theorem bind_pure_eq_some
    {attempt : Attempt σ ε α}
    {view : α → β}
    {state after : σ}
    {outcome : Except ε β} :
    (attempt >>= fun value => pure (view value)) state = some (outcome, after) ↔
      ∃ first, attempt state = some (first, after) ∧ outcome = first.map view := by
  rw [bind_eq_some]
  constructor
  · rintro (⟨error, ended, rfl⟩ | ⟨value, between, ended, looked⟩)
    · exact ⟨.error error, ended, rfl⟩
    · cases looked
      exact ⟨.ok value, ended, rfl⟩
  · rintro ⟨first, ended, rfl⟩
    cases first with
    | error error => exact Or.inl ⟨error, ended, rfl⟩
    | ok value => exact Or.inr ⟨value, after, ended, rfl⟩

theorem mapError_eq_some
    {wrap : ε → φ}
    {attempt : Attempt σ ε α}
    {state after : σ}
    {outcome : Except φ α} :
    attempt.mapError wrap state = some (outcome, after) ↔
      ∃ first, attempt state = some (first, after) ∧ outcome = first.mapError wrap := by
  unfold mapError
  cases attempt state with
  | none =>
      simp
  | some ending =>
      obtain ⟨first, between⟩ := ending
      cases first with
      | error error =>
          simp only [Option.some.injEq, Prod.mk.injEq]
          constructor
          · rintro ⟨rfl, rfl⟩
            exact ⟨_, ⟨rfl, rfl⟩, rfl⟩
          · rintro ⟨first, ⟨rfl, rfl⟩, rfl⟩
            exact ⟨rfl, rfl⟩
      | ok value =>
          simp only [Option.some.injEq, Prod.mk.injEq]
          constructor
          · rintro ⟨rfl, rfl⟩
            exact ⟨_, ⟨rfl, rfl⟩, rfl⟩
          · rintro ⟨first, ⟨rfl, rfl⟩, rfl⟩
            exact ⟨rfl, rfl⟩

theorem mapError_eq_ok
    {wrap : ε → φ}
    {attempt : Attempt σ ε α}
    {state after : σ}
    {value : α} :
    attempt.mapError wrap state = some (.ok value, after) ↔
      attempt state = some (.ok value, after) := by
  rw [mapError_eq_some]
  constructor
  · rintro ⟨first, ended, same⟩
    cases first with
    | error error => cases same
    | ok other =>
        cases same
        exact ended
  · intro ended
    exact ⟨.ok value, ended, rfl⟩

theorem mapError_eq_error
    {wrap : ε → φ}
    {attempt : Attempt σ ε α}
    {state after : σ}
    {error : φ} :
    attempt.mapError wrap state = some (.error error, after) ↔
      ∃ cause, attempt state = some (.error cause, after) ∧ error = wrap cause := by
  rw [mapError_eq_some]
  constructor
  · rintro ⟨first, ended, same⟩
    cases first with
    | error cause =>
        cases same
        exact ⟨cause, ended, rfl⟩
    | ok value => cases same
  · rintro ⟨cause, ended, rfl⟩
    exact ⟨.error cause, ended, rfl⟩

/-- A settled attempt succeeds with how it would have ended. -/
theorem settle_eq_some
    {attempt : Attempt σ ε α}
    {state after : σ}
    {outcome : Except φ (Except ε α)} :
    attempt.settle state = some (outcome, after) ↔
      ∃ first, attempt state = some (first, after) ∧ outcome = .ok first := by
  unfold settle
  cases attempt state with
  | none =>
      simp
  | some ending =>
      obtain ⟨first, between⟩ := ending
      simp only [Option.some.injEq, Prod.mk.injEq]
      constructor
      · rintro ⟨rfl, rfl⟩
        exact ⟨_, ⟨rfl, rfl⟩, rfl⟩
      · rintro ⟨first, ⟨rfl, rfl⟩, rfl⟩
        exact ⟨rfl, rfl⟩

/-- An attempt on a part of a state ends as it does on the part alone. -/
theorem focus_eq_some
    {view : τ → σ}
    {update : σ → τ → τ}
    {attempt : Attempt σ ε α}
    {whole after : τ}
    {outcome : Except ε α} :
    attempt.focus view update whole = some (outcome, after) ↔
      ∃ part, attempt (view whole) = some (outcome, part) ∧ after = update part whole := by
  unfold focus
  cases attempt (view whole) with
  | none =>
      simp
  | some ending =>
      obtain ⟨first, part⟩ := ending
      simp only [Option.some.injEq, Prod.mk.injEq]
      constructor
      · rintro ⟨rfl, rfl⟩
        exact ⟨part, ⟨rfl, rfl⟩, rfl⟩
      · rintro ⟨other, ⟨rfl, rfl⟩, rfl⟩
        exact ⟨rfl, rfl⟩

/-- An attempt with a value beside the state ends as it does on the pair of both. -/
theorem carrying_eq_some
    {beside : τ}
    {attempt : Attempt (τ × σ) ε α}
    {state after : σ}
    {outcome : Except ε (α × τ)} :
    attempt.carrying beside state = some (outcome, after) ↔
      ∃ first carried,
        attempt (beside, state) = some (first, (carried, after)) ∧
          outcome = first.map fun value => (value, carried) := by
  unfold carrying
  cases attempt (beside, state) with
  | none =>
      simp
  | some ending =>
      obtain ⟨first, carried, between⟩ := ending
      cases first with
      | error error =>
          simp only [Option.some.injEq, Prod.mk.injEq]
          constructor
          · rintro ⟨rfl, rfl⟩
            exact ⟨_, _, ⟨rfl, rfl, rfl⟩, rfl⟩
          · rintro ⟨first, other, ⟨rfl, rfl, rfl⟩, rfl⟩
            exact ⟨rfl, rfl⟩
      | ok value =>
          simp only [Option.some.injEq, Prod.mk.injEq]
          constructor
          · rintro ⟨rfl, rfl⟩
            exact ⟨_, _, ⟨rfl, rfl, rfl⟩, rfl⟩
          · rintro ⟨first, other, ⟨rfl, rfl, rfl⟩, rfl⟩
            exact ⟨rfl, rfl⟩

/-- Whether an attempt ended at all, and passes a test of how it did. -/
def endsSo (test : Except ε α → σ → Bool) : Option (Except ε α × σ) → Bool
  | none => false
  | some (outcome, after) => test outcome after

theorem exists_of_endsSo
    {test : Except ε α → σ → Bool}
    {ending : Option (Except ε α × σ)}
    (passes : endsSo test ending = true) :
    ∃ outcome after, ending = some (outcome, after) ∧ test outcome after = true := by
  cases ending with
  | none => cases passes
  | some pair => exact ⟨pair.1, pair.2, rfl, passes⟩

end Switchboard.Attempt
