import Switchboard.Proofs.Attempt.Endings

namespace Switchboard

/-!
# Attempts that finish

An attempt finishes if it succeeds or fails from every state, so that its fuel never runs out.
What is put together from such attempts finishes as well.
-/

variable {σ τ ε φ α β : Type}

/-- Every state leads to an end. -/
def Attempt.Finishes (attempt : Attempt σ ε α) : Prop :=
  ∀ state, ∃ outcome after, attempt state = some (outcome, after)

namespace Attempt.Finishes

theorem pure (value : α) : (Pure.pure value : Attempt σ ε α).Finishes :=
  fun state => ⟨.ok value, state, rfl⟩

theorem fail (error : ε) : (Attempt.fail error : Attempt σ ε α).Finishes :=
  fun state => ⟨.error error, state, rfl⟩

theorem reading (view : σ → α) : (Attempt.reading view : Attempt σ ε α).Finishes :=
  fun state => ⟨.ok (view state), state, rfl⟩

theorem ofExcept (outcome : Except ε α) :
    (Attempt.ofExcept outcome : Attempt σ ε α).Finishes := by
  cases outcome with
  | error error => exact fail error
  | ok value => exact pure value

/-- A chain finishes if its first link does, and its second one after every value that the first
one can come to. -/
theorem bindOn
    {attempt : Attempt σ ε α}
    {next : α → Attempt σ ε β}
    (first : attempt.Finishes)
    (second : ∀ value state between,
      attempt state = some (.ok value, between) → (next value).Finishes) :
    (attempt >>= next).Finishes := by
  intro state
  obtain ⟨outcome, between, ended⟩ := first state
  cases outcome with
  | error error => exact ⟨.error error, between, Attempt.bind_eq_some.mpr (.inl ⟨error, ended, rfl⟩)⟩
  | ok value =>
      obtain ⟨last, after, endedToo⟩ := second value state between ended between
      exact ⟨last, after, Attempt.bind_eq_some.mpr (.inr ⟨value, between, ended, endedToo⟩)⟩

theorem bind
    {attempt : Attempt σ ε α}
    {next : α → Attempt σ ε β}
    (first : attempt.Finishes)
    (second : ∀ value, (next value).Finishes) :
    (attempt >>= next).Finishes :=
  bindOn first fun value _ _ _ => second value

theorem mapError
    {attempt : Attempt σ ε α}
    (finishes : attempt.Finishes)
    (wrap : ε → φ) :
    (attempt.mapError wrap).Finishes := by
  intro state
  obtain ⟨outcome, after, ended⟩ := finishes state
  exact ⟨_, after, Attempt.mapError_eq_some.mpr ⟨outcome, ended, rfl⟩⟩

theorem focus
    {attempt : Attempt σ ε α}
    (finishes : attempt.Finishes)
    (view : τ → σ)
    (update : σ → τ → τ) :
    (attempt.focus view update).Finishes := by
  intro whole
  obtain ⟨outcome, part, ended⟩ := finishes (view whole)
  exact ⟨outcome, _, Attempt.focus_eq_some.mpr ⟨part, ended, rfl⟩⟩

theorem carrying
    {attempt : Attempt (τ × σ) ε α}
    (finishes : attempt.Finishes)
    (beside : τ) :
    (attempt.carrying beside).Finishes := by
  intro state
  obtain ⟨outcome, ⟨carried, after⟩, ended⟩ := finishes (beside, state)
  exact ⟨_, after, Attempt.carrying_eq_some.mpr ⟨outcome, carried, ended, rfl⟩⟩

end Attempt.Finishes

end Switchboard
