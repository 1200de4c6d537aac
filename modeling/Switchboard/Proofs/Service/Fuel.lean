import Switchboard.Proofs.Service.Endings

namespace Switchboard

/-!
# More fuel

An attempt that ends with some fuel ends the same way with more of it.  What is put together
alike from attempts that go further goes further as well, and so `Container.get` with more fuel
goes at least as far: how an id is resolved, `Resolves`, does not depend on the fuel at hand.
-/

variable {σ ε φ α β κ χ : Type}

/-- Wherever the one attempt ends, the other one ends the same way. -/
def Attempt.Extends (longer shorter : Attempt σ ε α) : Prop :=
  ∀ state ending, shorter state = some ending → longer state = some ending

namespace Attempt.Extends

theorem refl (attempt : Attempt σ ε α) : attempt.Extends attempt :=
  fun _ _ ended => ended

theorem trans
    {first second third : Attempt σ ε α}
    (later : third.Extends second)
    (earlier : second.Extends first) :
    third.Extends first :=
  fun state ending ended => later state ending (earlier state ending ended)

theorem bind
    {longer shorter : Attempt σ ε α}
    {next following : α → Attempt σ ε β}
    (first : longer.Extends shorter)
    (second : ∀ value, (next value).Extends (following value)) :
    (longer >>= next).Extends (shorter >>= following) := by
  rintro state ⟨outcome, after⟩ ended
  rcases Attempt.bind_eq_some.mp ended with ⟨error, refused, rfl⟩ | ⟨value, between, went, rest⟩
  · exact Attempt.bind_eq_some.mpr (.inl ⟨error, first _ _ refused, rfl⟩)
  · exact Attempt.bind_eq_some.mpr (.inr ⟨value, between, first _ _ went, second _ _ _ rest⟩)

theorem mapError
    {longer shorter : Attempt σ ε α}
    (further : longer.Extends shorter)
    (wrap : ε → φ) :
    (longer.mapError wrap).Extends (shorter.mapError wrap) := by
  rintro state ⟨outcome, after⟩ ended
  obtain ⟨first, went, rfl⟩ := Attempt.mapError_eq_some.mp ended
  exact Attempt.mapError_eq_some.mpr ⟨first, further _ _ went, rfl⟩

end Attempt.Extends

variable [CacheStore χ (Instance κ)]

/-- Every id is resolved at least as far. -/
def Builder.Resolver.Extends (longer shorter : Resolver κ χ) : Prop :=
  ∀ id, (longer id).Extends (shorter id)

section

variable {longer shorter : Builder.Resolver κ χ}

namespace Builder

theorem supply_extends
    (further : Resolver.Extends longer shorter)
    (toolkit : Toolkit κ)
    (className : String)
    (parameter : Parameter)
    (argument : Option Argument) :
    (supply toolkit longer className parameter argument).Extends
      (supply toolkit shorter className parameter argument) := by
  have served (id : String) :
      ((service longer id) >>= fun object => pure (Resolved.service object)).Extends
        ((service shorter id) >>= fun object => pure (Resolved.service object)) :=
    ((further id).mapError (BuildError.service id)).bind fun _ => .refl _
  cases argument with
  | some argument =>
      cases argument with
      | literal value => exact .refl _
      | env name => exact .refl _
      | service id => exact served id
  | none =>
      apply Attempt.Extends.bind (.refl _)
      intro choice
      cases choice with
      | byService id => exact served id
      | byFallback value => exact .refl _
      | byNothing => exact .refl _

theorem supplyAll_extends
    (further : Resolver.Extends longer shorter)
    (toolkit : Toolkit κ)
    (className : String)
    (parameters : List Parameter)
    (arguments : List Argument) :
    (supplyAll toolkit longer className parameters arguments).Extends
      (supplyAll toolkit shorter className parameters arguments) := by
  induction parameters generalizing arguments with
  | nil => exact .refl _
  | cons parameter parameters inductionHypothesis =>
      apply (supply_extends further toolkit className parameter arguments.head?).bind
      intro resolved
      exact (inductionHypothesis arguments.tail).bind fun _ => .refl _

theorem assemble_extends
    (further : Resolver.Extends longer shorter)
    (toolkit : Toolkit κ)
    (order : Order) :
    (assemble toolkit longer order).Extends (assemble toolkit shorter order) := by
  rw [assemble_eq, assemble_eq]
  cases order.recipe toolkit.registry with
  | error refusal => exact .refl _
  | ok recipe =>
      exact (supplyAll_extends further toolkit order.className recipe.parameters
        order.arguments).bind fun _ => .refl _

theorem build_extends
    (further : Resolver.Extends longer shorter)
    (toolkit : Toolkit κ)
    (order : Order) :
    (build toolkit longer order).Extends (build toolkit shorter order) := by
  apply Attempt.Extends.bind (.refl _)
  intro entry
  cases entry with
  | some held => exact .refl _
  | none => exact (assemble_extends further toolkit order).bind fun _ => .refl _

end Builder

namespace Container

theorem resolveDefinition_extends
    (further : Builder.Resolver.Extends longer shorter)
    (toolkit : Toolkit κ)
    (id : String)
    (definition : Option (Definition κ)) :
    (resolveDefinition toolkit longer id definition).Extends
      (resolveDefinition toolkit shorter id definition) := by
  have built (order : Order) :
      ((Builder.build toolkit longer order).mapError AnyError.build).Extends
        ((Builder.build toolkit shorter order).mapError AnyError.build) :=
    (Builder.build_extends further toolkit order).mapError _
  cases definition with
  | none => exact built _
  | some definition =>
      cases definition with
      | ofClass className arguments => exact built _
      | ofFactory className method arguments => exact built _
      | prebuilt object => exact .refl _
      | itself => exact .refl _
      | aliasOf target =>
          apply Attempt.Extends.bind (.refl _)
          intro cycle
          cases cycle with
          | some chain => exact .refl _
          | none => exact (further target).mapError _

end Container

end

namespace Container

/-- One more unit of fuel lets resolutions go at least as far. -/
theorem get_succ_extends
    (toolkit : Toolkit κ)
    (fuel : Nat) :
    Builder.Resolver.Extends (get toolkit (fuel + 1) : Builder.Resolver κ χ)
      (get toolkit fuel) := by
  induction fuel with
  | zero =>
      intro id state ending ended
      cases ended
  | succ fuel inductionHypothesis =>
      intro id state ending ended
      by_cases itself : state.definitions.find? id = some .itself
      · rw [get_own itself] at ended ⊢
        exact ended
      · rw [get_other itself] at ended ⊢
        cases hit : state.found? (Key.service toolkit.digest id) with
        | some object =>
            rw [hit] at ended
            exact ended
        | none =>
            rw [hit] at ended
            exact ((resolveDefinition_extends inductionHypothesis toolkit id _).mapError _).bind
              (fun _ => .refl _) _ _ ended

/-- More fuel lets resolutions go at least as far. -/
theorem get_extends
    (toolkit : Toolkit κ)
    {fuel more : Nat}
    (enough : fuel ≤ more) :
    Builder.Resolver.Extends (get toolkit more : Builder.Resolver κ χ) (get toolkit fuel) := by
  induction enough with
  | refl => exact fun _ => .refl _
  | step _ inductionHypothesis =>
      exact fun id => (get_succ_extends toolkit _ id).trans (inductionHypothesis id)

/-- With enough fuel, resolving the id ends in this way. -/
def Resolves
    (toolkit : Toolkit κ)
    (before : Container κ χ)
    (id : String)
    (outcome : Except ServiceError (Instance κ))
    (after : Container κ χ) :
    Prop :=
  ∃ enough, ∀ fuel, enough ≤ fuel → get toolkit fuel id before = some (outcome, after)

theorem resolves_of_get
    {toolkit : Toolkit κ}
    {fuel : Nat}
    {id : String}
    {before after : Container κ χ}
    {outcome : Except ServiceError (Instance κ)}
    (ended : get toolkit fuel id before = some (outcome, after)) :
    Resolves toolkit before id outcome after :=
  ⟨fuel, fun _ enough => get_extends toolkit enough id _ _ ended⟩

/-- Whatever fuel two resolutions had, they ended in the same way. -/
theorem Resolves.unique
    {toolkit : Toolkit κ}
    {id : String}
    {before first second : Container κ χ}
    {outcome other : Except ServiceError (Instance κ)}
    (resolves : Resolves toolkit before id outcome first)
    (resolvesToo : Resolves toolkit before id other second) :
    outcome = other ∧ first = second := by
  obtain ⟨enough, ends⟩ := resolves
  obtain ⟨enoughToo, endsToo⟩ := resolvesToo
  have same := (ends _ (Nat.le_max_left enough enoughToo)).symm.trans
    (endsToo _ (Nat.le_max_right enough enoughToo))
  cases same
  exact ⟨rfl, rfl⟩

end Container

end Switchboard
