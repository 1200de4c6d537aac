import Switchboard.Proofs.Attempt.Endings

namespace Switchboard

/-!
# Where attempts lead

An attempt moves within a relation if it leads from each state only to states in that relation to
it, whether it succeeds or fails.  What is put together from such attempts moves within the
relation as well, as long as it can be chained.
-/

variable {σ τ ε φ α β : Type} {relates : σ → σ → Prop}

/-- Every end of the attempt is in relation to its start. -/
def Attempt.Moves (relates : σ → σ → Prop) (attempt : Attempt σ ε α) : Prop :=
  ∀ state outcome after, attempt state = some (outcome, after) → relates state after

/-- The relation between pairs whose second parts are related, whatever the first ones are. -/
def Beside (relates : σ → σ → Prop) (before after : τ × σ) : Prop :=
  relates before.2 after.2

theorem Beside.refl
    (refl : ∀ state, relates state state)
    (pair : τ × σ) :
    Beside relates pair pair :=
  refl pair.2

theorem Beside.trans
    (trans : ∀ first second third,
      relates first second → relates second third → relates first third)
    (first second third : τ × σ)
    (earlier : Beside relates first second)
    (later : Beside relates second third) :
    Beside relates first third :=
  trans first.2 second.2 third.2 earlier later

namespace Attempt.Moves

theorem pure
    (refl : ∀ state, relates state state)
    (value : α) :
    Moves relates (Pure.pure value : Attempt σ ε α) := by
  intro state outcome after ended
  cases ended
  exact refl state

theorem fail
    (refl : ∀ state, relates state state)
    (error : ε) :
    Moves relates (Attempt.fail error : Attempt σ ε α) := by
  intro state outcome after ended
  cases ended
  exact refl state

theorem reading
    (refl : ∀ state, relates state state)
    (view : σ → α) :
    Moves relates (Attempt.reading view : Attempt σ ε α) := by
  intro state outcome after ended
  cases ended
  exact refl state

theorem changing
    {change : σ → α × σ}
    (changes : ∀ state, relates state (change state).2) :
    Moves relates (Attempt.changing change : Attempt σ ε α) := by
  intro state outcome after ended
  cases ended
  exact changes state

theorem ofExcept
    (refl : ∀ state, relates state state)
    (outcome : Except ε α) :
    Moves relates (Attempt.ofExcept outcome) := by
  cases outcome with
  | error error => exact fail refl error
  | ok value => exact pure refl value

/-- A chain moves within the relation if its first link does, and its second one after every
value that the first one can come to. -/
theorem bindOn
    (trans : ∀ first second third,
      relates first second → relates second third → relates first third)
    {attempt : Attempt σ ε α}
    {next : α → Attempt σ ε β}
    (first : attempt.Moves relates)
    (second : ∀ value state between,
      attempt state = some (.ok value, between) → (next value).Moves relates) :
    (attempt >>= next).Moves relates := by
  intro state outcome after ended
  rcases Attempt.bind_eq_some.mp ended with ⟨error, refused, _⟩ | ⟨value, between, went, rest⟩
  · exact first _ _ _ refused
  · exact trans _ _ _ (first _ _ _ went) (second value _ _ went _ _ _ rest)

theorem bind
    (trans : ∀ first second third,
      relates first second → relates second third → relates first third)
    {attempt : Attempt σ ε α}
    {next : α → Attempt σ ε β}
    (first : attempt.Moves relates)
    (second : ∀ value, (next value).Moves relates) :
    (attempt >>= next).Moves relates :=
  bindOn trans first fun value _ _ _ => second value

theorem mapError
    {attempt : Attempt σ ε α}
    (moves : attempt.Moves relates)
    (wrap : ε → φ) :
    (attempt.mapError wrap).Moves relates := by
  intro state outcome after ended
  obtain ⟨first, went, _⟩ := Attempt.mapError_eq_some.mp ended
  exact moves _ _ _ went

theorem settle
    {attempt : Attempt σ ε α}
    (moves : attempt.Moves relates) :
    (attempt.settle : Attempt σ φ (Except ε α)).Moves relates := by
  intro state outcome after ended
  unfold Attempt.settle at ended
  cases went : attempt state with
  | none =>
      rw [went] at ended
      cases ended
  | some ending =>
      rw [went] at ended
      cases ended
      exact moves _ _ _ went

theorem focus
    {view : τ → σ}
    {update : σ → τ → τ}
    {attempt : Attempt σ ε α}
    (lens : ∀ part whole, view (update part whole) = part)
    (moves : attempt.Moves relates) :
    (attempt.focus view update).Moves fun before after =>
      relates (view before) (view after) := by
  intro whole outcome after ended
  obtain ⟨part, went, rfl⟩ := Attempt.focus_eq_some.mp ended
  simp only [lens]
  exact moves _ _ _ went

theorem onSecond
    {attempt : Attempt σ ε α}
    (moves : attempt.Moves relates) :
    (attempt.onSecond : Attempt (τ × σ) ε α).Moves (Beside relates) :=
  moves.focus fun _ _ => rfl

theorem carrying
    {beside : τ}
    {attempt : Attempt (τ × σ) ε α}
    (moves : attempt.Moves (Beside relates)) :
    (attempt.carrying beside).Moves relates := by
  intro state outcome after ended
  obtain ⟨first, carried, went, _⟩ := Attempt.carrying_eq_some.mp ended
  exact moves _ _ _ went

end Attempt.Moves

end Switchboard
