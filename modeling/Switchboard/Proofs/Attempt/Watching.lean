import Switchboard.Proofs.Attempt.Endings

namespace Switchboard

/-!
# Attempts that are watched

To tell what an attempt does on its way, parts of it are made to note how they ended in a log
beside the state.  `Follows` says that this changes nothing else: whatever is put together alike
from watched and from plain parts ends alike.
-/

variable {σ τ ω ε φ α β : Type}

namespace Attempt

/-- Note how an attempt ends at the end of a log beside its state. -/
def noting (note : Except ε α → ω) (attempt : Attempt σ ε α) : Attempt (σ × List ω) ε α :=
  fun state =>
    match attempt state.1 with
    | none => none
    | some (outcome, after) => some (outcome, (after, state.2 ++ [note outcome]))

theorem noting_eq_some
    {note : Except ε α → ω}
    {attempt : Attempt σ ε α}
    {state after : σ × List ω}
    {outcome : Except ε α} :
    attempt.noting note state = some (outcome, after) ↔
      attempt state.1 = some (outcome, after.1) ∧ after.2 = state.2 ++ [note outcome] := by
  obtain ⟨left, log⟩ := after
  unfold noting
  cases attempt state.1 with
  | none => simp
  | some ending =>
      obtain ⟨first, between⟩ := ending
      simp only [Option.some.injEq, Prod.mk.injEq]
      constructor
      · rintro ⟨rfl, rfl, rfl⟩
        exact ⟨⟨rfl, rfl⟩, rfl⟩
      · rintro ⟨⟨rfl, rfl⟩, rfl⟩
        exact ⟨rfl, rfl, rfl⟩

/-- An attempt over a state with something beside it does to the state what a plain one does. -/
def Follows (watched : Attempt (σ × τ) ε α) (attempt : Attempt σ ε α) : Prop :=
  ∀ state beside,
    attempt state = (watched (state, beside)).map fun ending => (ending.1, ending.2.1)

namespace Follows

theorem pure (value : α) :
    (Pure.pure value : Attempt (σ × τ) ε α).Follows (Pure.pure value) :=
  fun _ _ => rfl

theorem fail (error : ε) :
    (Attempt.fail error : Attempt (σ × τ) ε α).Follows (Attempt.fail error) :=
  fun _ _ => rfl

theorem reading (view : σ → α) :
    (Attempt.reading fun state : σ × τ => view state.1 : Attempt (σ × τ) ε α).Follows
      (Attempt.reading view) :=
  fun _ _ => rfl

theorem ofExcept (outcome : Except ε α) :
    (Attempt.ofExcept outcome : Attempt (σ × τ) ε α).Follows (Attempt.ofExcept outcome) := by
  cases outcome with
  | error error => exact fail error
  | ok value => exact pure value

theorem bind
    {watched : Attempt (σ × τ) ε α}
    {attempt : Attempt σ ε α}
    {watchedNext : α → Attempt (σ × τ) ε β}
    {next : α → Attempt σ ε β}
    (first : watched.Follows attempt)
    (second : ∀ value, (watchedNext value).Follows (next value)) :
    (watched >>= watchedNext).Follows (attempt >>= next) := by
  intro state beside
  rw [bind_apply, bind_apply, first state beside]
  cases watched (state, beside) with
  | none => rfl
  | some ending =>
      obtain ⟨outcome, between, log⟩ := ending
      cases outcome with
      | error error => rfl
      | ok value => exact second value between log

theorem mapError
    {watched : Attempt (σ × τ) ε α}
    {attempt : Attempt σ ε α}
    (follows : watched.Follows attempt)
    (wrap : ε → φ) :
    (watched.mapError wrap).Follows (attempt.mapError wrap) := by
  intro state beside
  unfold Attempt.mapError
  rw [follows state beside]
  cases watched (state, beside) with
  | none => rfl
  | some ending =>
      obtain ⟨outcome, between⟩ := ending
      cases outcome <;> rfl

/-- Noting how an attempt ends does not change how it ends. -/
theorem noting
    (note : Except ε α → ω)
    (attempt : Attempt σ ε α) :
    (attempt.noting note).Follows attempt := by
  intro state beside
  unfold Attempt.noting
  cases attempt state <;> rfl

theorem onFirst (attempt : Attempt σ ε α) :
    (attempt.onFirst : Attempt (σ × τ) ε α).Follows attempt := by
  intro state beside
  unfold Attempt.onFirst Attempt.focus
  cases attempt state <;> rfl

end Follows

/-- An attempt over states of which only a part is looked at does to that part what another one
does. -/
def Mirrors (view : τ → σ) (watched : Attempt τ ε α) (attempt : Attempt σ ε α) : Prop :=
  ∀ state, attempt (view state) = (watched state).map fun ending => (ending.1, view ending.2)

namespace Mirrors

variable {view : τ → σ}

theorem eq_some_iff
    {watched : Attempt τ ε α}
    {attempt : Attempt σ ε α}
    (mirrors : watched.Mirrors view attempt)
    (state : τ)
    {outcome : Except ε α}
    {after : σ} :
    attempt (view state) = some (outcome, after) ↔
      ∃ watchedAfter, watched state = some (outcome, watchedAfter) ∧ view watchedAfter = after := by
  rw [mirrors state, Option.map_eq_some_iff]
  constructor
  · rintro ⟨⟨first, left⟩, ended, same⟩
    cases same
    exact ⟨left, ended, rfl⟩
  · rintro ⟨left, ended, rfl⟩
    exact ⟨_, ended, rfl⟩

theorem pure (value : α) :
    (Pure.pure value : Attempt τ ε α).Mirrors view (Pure.pure value) :=
  fun _ => rfl

theorem fail (error : ε) :
    (Attempt.fail error : Attempt τ ε α).Mirrors view (Attempt.fail error) :=
  fun _ => rfl

theorem reading
    {look : σ → α}
    {watchedLook : τ → α}
    (same : ∀ state, watchedLook state = look (view state)) :
    (Attempt.reading watchedLook : Attempt τ ε α).Mirrors view (Attempt.reading look) := by
  intro state
  simp only [Attempt.reading, same, Option.map_some]

theorem changing
    {change : σ → α × σ}
    {watchedChange : τ → α × τ}
    (same : ∀ state, change (view state) = Prod.map id view (watchedChange state)) :
    (Attempt.changing watchedChange : Attempt τ ε α).Mirrors view (Attempt.changing change) := by
  intro state
  simp only [Attempt.changing, same, Option.map_some, Prod.map_fst, Prod.map_snd, id]

theorem bind
    {watched : Attempt τ ε α}
    {attempt : Attempt σ ε α}
    {watchedNext : α → Attempt τ ε β}
    {next : α → Attempt σ ε β}
    (first : watched.Mirrors view attempt)
    (second : ∀ value, (watchedNext value).Mirrors view (next value)) :
    (watched >>= watchedNext).Mirrors view (attempt >>= next) := by
  intro state
  rw [bind_apply, bind_apply, first state]
  cases watched state with
  | none => rfl
  | some ending =>
      obtain ⟨outcome, between⟩ := ending
      cases outcome with
      | error error => rfl
      | ok value => exact second value between

theorem mapError
    {watched : Attempt τ ε α}
    {attempt : Attempt σ ε α}
    (mirrors : watched.Mirrors view attempt)
    (wrap : ε → φ) :
    (watched.mapError wrap).Mirrors view (attempt.mapError wrap) := by
  intro state
  unfold Attempt.mapError
  rw [mirrors state]
  cases watched state with
  | none => rfl
  | some ending =>
      obtain ⟨outcome, between⟩ := ending
      cases outcome <;> rfl

theorem settle
    {watched : Attempt τ ε α}
    {attempt : Attempt σ ε α}
    (mirrors : watched.Mirrors view attempt) :
    (watched.settle : Attempt τ φ (Except ε α)).Mirrors view attempt.settle := by
  intro state
  unfold Attempt.settle
  rw [mirrors state]
  cases watched state <;> rfl

theorem carrying
    {γ : Type}
    {watched : Attempt (γ × τ) ε α}
    {attempt : Attempt (γ × σ) ε α}
    (mirrors : watched.Mirrors (Prod.map id view) attempt)
    (beside : γ) :
    (watched.carrying beside).Mirrors view (attempt.carrying beside) := by
  intro state
  unfold Attempt.carrying
  have same := mirrors (beside, state)
  rw [Prod.map_apply, id] at same
  rw [same]
  cases watched (beside, state) with
  | none => rfl
  | some ending =>
      obtain ⟨outcome, carried, between⟩ := ending
      cases outcome <;> rfl

theorem onSecond
    {γ : Type}
    {watched : Attempt τ ε α}
    {attempt : Attempt σ ε α}
    (mirrors : watched.Mirrors view attempt) :
    (watched.onSecond : Attempt (γ × τ) ε α).Mirrors (Prod.map id view) attempt.onSecond := by
  rintro ⟨beside, state⟩
  unfold Attempt.onSecond Attempt.focus
  simp only [Prod.map_apply, id, mirrors state]
  cases watched state <;> rfl

end Mirrors

end Attempt

end Switchboard
