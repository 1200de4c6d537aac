import Switchboard.Proofs.Attempt.Endings

namespace Switchboard

/-!
# Attempts that agree

Two attempts over different states agree if, from related states, both come to an end, with the
same outcome and in related states, or the first one does not come back, which there has to be a
reason for.  What is put together alike from attempts that agree agrees as well.
-/

variable {σ τ υ ω ε φ α β : Type} {reason : Prop} {related : σ → τ → Prop}

/-- Both attempts end alike from related states, unless there is a reason for the first one not to
come back. -/
def Attempt.Agrees
    (reason : Prop)
    (related : σ → τ → Prop)
    (first : Attempt σ ε α)
    (second : Attempt τ ε α) :
    Prop :=
  ∀ left right, related left right →
    (first left = none ∧ reason) ∨
      ∃ outcome leftAfter rightAfter,
        first left = some (outcome, leftAfter) ∧ second right = some (outcome, rightAfter) ∧
          related leftAfter rightAfter

namespace Attempt.Agrees

theorem pure (value : α) :
    Agrees reason related (Pure.pure value : Attempt σ ε α) (Pure.pure value) :=
  fun left right isRelated => .inr ⟨.ok value, left, right, rfl, rfl, isRelated⟩

theorem fail (error : ε) :
    Agrees reason related (Attempt.fail error : Attempt σ ε α) (Attempt.fail error) :=
  fun left right isRelated => .inr ⟨.error error, left, right, rfl, rfl, isRelated⟩

theorem ofExcept (outcome : Except ε α) :
    Agrees reason related (Attempt.ofExcept outcome) (Attempt.ofExcept outcome) := by
  cases outcome with
  | error error => exact fail error
  | ok value => exact pure value

theorem changing
    {change : σ → α × σ}
    {changeToo : τ → α × τ}
    (alike : ∀ left right, related left right →
      (change left).1 = (changeToo right).1 ∧ related (change left).2 (changeToo right).2) :
    Agrees reason related (Attempt.changing change : Attempt σ ε α)
      (Attempt.changing changeToo) := by
  intro left right isRelated
  obtain ⟨sameValue, relatedAfter⟩ := alike left right isRelated
  refine .inr ⟨.ok (change left).1, (change left).2, (changeToo right).2, rfl, ?_, relatedAfter⟩
  rw [sameValue]
  rfl

theorem bind
    {first : Attempt σ ε α}
    {second : Attempt τ ε α}
    {next : α → Attempt σ ε β}
    {nextToo : α → Attempt τ ε β}
    (agrees : Agrees reason related first second)
    (agreesNext : ∀ value, Agrees reason related (next value) (nextToo value)) :
    Agrees reason related (first >>= next) (second >>= nextToo) := by
  intro left right isRelated
  rcases agrees left right isRelated with
    ⟨stopped, why⟩ | ⟨outcome, leftBetween, rightBetween, ended, endedToo, relatedBetween⟩
  · exact .inl ⟨by rw [bind_apply, stopped], why⟩
  · simp only [bind_apply, ended, endedToo]
    cases outcome with
    | error error => exact .inr ⟨.error error, leftBetween, rightBetween, rfl, rfl, relatedBetween⟩
    | ok value => exact agreesNext value leftBetween rightBetween relatedBetween

/-- What agrees for every element agrees for all of them, in order. -/
theorem each
    {elements : List β}
    {first : β → Attempt σ ε Unit}
    {second : β → Attempt τ ε Unit}
    (agrees : ∀ element ∈ elements, Agrees reason related (first element) (second element)) :
    Agrees reason related (Attempt.each elements first) (Attempt.each elements second) := by
  induction elements with
  | nil => exact pure ()
  | cons element elements inductionHypothesis =>
      exact bind (agrees element List.mem_cons_self) fun _ =>
        inductionHypothesis fun other member => agrees other (List.mem_cons_of_mem _ member)

theorem settle
    {first : Attempt σ ε α}
    {second : Attempt τ ε α}
    (agrees : Agrees reason related first second) :
    Agrees reason related (first.settle : Attempt σ φ (Except ε α)) second.settle := by
  intro left right isRelated
  rcases agrees left right isRelated with
    ⟨stopped, why⟩ | ⟨outcome, leftAfter, rightAfter, ended, endedToo, relatedAfter⟩
  · exact .inl ⟨by rw [Attempt.settle, stopped], why⟩
  · exact .inr ⟨.ok outcome, leftAfter, rightAfter, settle_eq_some.mpr ⟨outcome, ended, rfl⟩,
      settle_eq_some.mpr ⟨outcome, endedToo, rfl⟩, relatedAfter⟩

/-- Attempts on parts agree on the wholes, if what relates these relates the parts. -/
theorem focus
    {relatedWholes : υ → ω → Prop}
    {view : υ → σ}
    {viewToo : ω → τ}
    {update : σ → υ → υ}
    {updateToo : τ → ω → ω}
    {first : Attempt σ ε α}
    {second : Attempt τ ε α}
    (agrees : Agrees reason related first second)
    (parts : ∀ left right, relatedWholes left right → related (view left) (viewToo right))
    (wholes : ∀ left right part partToo, relatedWholes left right → related part partToo →
      relatedWholes (update part left) (updateToo partToo right)) :
    Agrees reason relatedWholes (first.focus view update) (second.focus viewToo updateToo) := by
  intro left right isRelated
  rcases agrees _ _ (parts left right isRelated) with
    ⟨stopped, why⟩ | ⟨outcome, leftPart, rightPart, ended, endedToo, relatedParts⟩
  · exact .inl ⟨by rw [Attempt.focus, stopped], why⟩
  · exact .inr ⟨outcome, _, _, focus_eq_some.mpr ⟨leftPart, ended, rfl⟩,
      focus_eq_some.mpr ⟨rightPart, endedToo, rfl⟩, wholes _ _ _ _ isRelated relatedParts⟩

end Attempt.Agrees

end Switchboard
