import Switchboard.Proofs.Attempt.Endings

namespace Switchboard

/-!
# Attempts that respect a relation

An attempt respects a relation between states if it does not tell related states apart: where it
comes to an end from the one, it comes to the same end from the other, and leaves them related.
What is put together from such attempts respects the relation as well.
-/

variable {σ ε φ α β : Type} {related : σ → σ → Prop}

/-- The attempt ends alike from related states, wherever it ends. -/
def Attempt.Respects (related : σ → σ → Prop) (attempt : Attempt σ ε α) : Prop :=
  ∀ left right outcome leftAfter,
    related left right → attempt left = some (outcome, leftAfter) →
      ∃ rightAfter, attempt right = some (outcome, rightAfter) ∧ related leftAfter rightAfter

namespace Attempt.Respects

theorem pure (value : α) :
    Respects related (Pure.pure value : Attempt σ ε α) := by
  intro left right outcome leftAfter isRelated ended
  cases ended
  exact ⟨right, rfl, isRelated⟩

theorem fail (error : ε) :
    Respects related (Attempt.fail error : Attempt σ ε α) := by
  intro left right outcome leftAfter isRelated ended
  cases ended
  exact ⟨right, rfl, isRelated⟩

theorem exhausted : Respects related (Attempt.exhausted : Attempt σ ε α) := by
  intro left right outcome leftAfter isRelated ended
  cases ended

theorem stopped : Respects related (Attempt.stopped : Attempt σ ε α) := by
  intro left right outcome leftAfter isRelated ended
  cases ended

theorem changing
    {change : σ → α × σ}
    (alike : ∀ left right, related left right →
      (change left).1 = (change right).1 ∧ related (change left).2 (change right).2) :
    Respects related (Attempt.changing change : Attempt σ ε α) := by
  intro left right outcome leftAfter isRelated ended
  cases ended
  obtain ⟨sameValue, relatedAfter⟩ := alike left right isRelated
  refine ⟨(change right).2, ?_, relatedAfter⟩
  rw [sameValue]
  rfl

theorem reading
    {view : σ → α}
    (same : ∀ left right, related left right → view left = view right) :
    Respects related (Attempt.reading view : Attempt σ ε α) := by
  intro left right outcome leftAfter isRelated ended
  cases ended
  refine ⟨right, ?_, isRelated⟩
  rw [same left right isRelated]
  rfl

theorem bind
    {attempt : Attempt σ ε α}
    {next : α → Attempt σ ε β}
    (first : Respects related attempt)
    (second : ∀ value, Respects related (next value)) :
    Respects related (attempt >>= next) := by
  intro left right outcome leftAfter isRelated ended
  rcases bind_eq_some.mp ended with ⟨error, refused, rfl⟩ | ⟨value, between, went, rest⟩
  · obtain ⟨rightAfter, refusedToo, relatedAfter⟩ := first _ _ _ _ isRelated refused
    exact ⟨rightAfter, bind_eq_some.mpr (.inl ⟨error, refusedToo, rfl⟩), relatedAfter⟩
  · obtain ⟨rightBetween, wentToo, relatedBetween⟩ := first _ _ _ _ isRelated went
    obtain ⟨rightAfter, restToo, relatedAfter⟩ := second value _ _ _ _ relatedBetween rest
    exact ⟨rightAfter, bind_eq_some.mpr (.inr ⟨value, rightBetween, wentToo, restToo⟩),
      relatedAfter⟩

theorem mapError
    {attempt : Attempt σ ε α}
    (respects : Respects related attempt)
    (wrap : ε → φ) :
    Respects related (attempt.mapError wrap) := by
  intro left right outcome leftAfter isRelated ended
  obtain ⟨first, went, rfl⟩ := mapError_eq_some.mp ended
  obtain ⟨rightAfter, wentToo, relatedAfter⟩ := respects _ _ _ _ isRelated went
  exact ⟨rightAfter, mapError_eq_some.mpr ⟨first, wentToo, rfl⟩, relatedAfter⟩

end Attempt.Respects

end Switchboard
