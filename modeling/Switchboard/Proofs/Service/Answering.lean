import Switchboard.Proofs.Attempt.Respects
import Switchboard.Proofs.Cache.Alike
import Switchboard.Proofs.Service.Fuel

namespace Switchboard

/-!
# Containers that answer alike

Containers answer alike if they differ in their caches only, and these cannot be told apart from
the present time on.  Resolving respects this: it ends alike in both, and leaves them answering
alike.  Looking an id up in a quiet cache leaves a container that answers as before.
-/

variable {κ χ : Type} [CacheStore χ (Instance κ)]

namespace Container

/-- The containers are the same but for caches that cannot be told apart. -/
def AnswersAs (left right : Container κ χ) : Prop :=
  ∃ cache, right = { left with cache := cache } ∧
    CacheStore.Alike left.now left.cache cache

theorem AnswersAs.symm
    {left right : Container κ χ}
    (answersAs : AnswersAs left right) :
    AnswersAs right left := by
  obtain ⟨cache, rfl, alike⟩ := answersAs
  exact ⟨left.cache, rfl, alike.symm⟩

theorem AnswersAs.has
    {left right : Container κ χ}
    (answersAs : AnswersAs left right)
    (toolkit : Toolkit κ)
    (id : String) :
    left.has toolkit id = right.has toolkit id := by
  obtain ⟨cache, rfl, alike⟩ := answersAs
  simp only [Container.has, alike.has (Nat.le_refl _)]

theorem stops_of_answersAs
    (left right : Container κ χ)
    (answersAs : AnswersAs left right) :
    left.stops = right.stops := by
  obtain ⟨cache, rfl, alike⟩ := answersAs
  exact alike.stops (Nat.le_refl left.now) left.ttl

theorem asInstance_respects {ε : Type} :
    (Attempt.changing asInstance : Attempt (Container κ χ) ε (Instance κ)).Respects AnswersAs := by
  apply Attempt.Respects.changing
  rintro left _ ⟨cache, rfl, alike⟩
  exact ⟨rfl, cache, rfl, alike⟩

/-- Asking a quiet cache makes no difference to a container. -/
theorem answersAs_lookedUp
    [QuietStore χ (Instance κ)]
    (container : Container κ χ)
    (key : String) :
    AnswersAs container (container.lookedUp key) :=
  ⟨_, rfl, QuietStore.alike_get _ _ _⟩

end Container

open Container

section

variable {resolve : Builder.Resolver κ χ}

namespace Builder

theorem choose_of_answersAs
    (toolkit : Toolkit κ)
    (parameter : Parameter)
    (left right : Container κ χ)
    (answersAs : AnswersAs left right) :
    Supply.choose toolkit left parameter = Supply.choose toolkit right parameter := by
  simp only [Supply.choose, typeService?, answersAs.has toolkit]

theorem supply_respects
    (respects : ∀ id, (resolve id).Respects AnswersAs)
    (toolkit : Toolkit κ)
    (className : String)
    (parameter : Parameter)
    (argument : Option Argument) :
    (supply toolkit resolve className parameter argument).Respects AnswersAs := by
  have served (id : String) :
      ((service resolve id) >>= fun object => pure (Resolved.service object)).Respects AnswersAs :=
    ((respects id).mapError (BuildError.service id)).bind fun _ => .pure _
  cases argument with
  | some argument =>
      cases argument with
      | literal value => exact .pure _
      | env name =>
          simp only [supply, resolveArgument]
          split
          · exact .pure _
          · exact .fail _
      | service id => exact served id
  | none =>
      apply Attempt.Respects.bind (.reading (choose_of_answersAs toolkit parameter))
      intro choice
      cases choice with
      | byService id => exact served id
      | byFallback value => exact .pure _
      | byNothing => exact .fail _

theorem supplyAll_respects
    (respects : ∀ id, (resolve id).Respects AnswersAs)
    (toolkit : Toolkit κ)
    (className : String)
    (parameters : List Parameter)
    (arguments : List Argument) :
    (supplyAll toolkit resolve className parameters arguments).Respects AnswersAs := by
  induction parameters generalizing arguments with
  | nil => exact .pure _
  | cons parameter parameters inductionHypothesis =>
      apply (supply_respects respects toolkit className parameter arguments.head?).bind
      intro resolved
      exact (inductionHypothesis arguments.tail).bind fun _ => .pure _

/-- Running a maker has nothing to do with the cache. -/
theorem make_respects
    (origin : Origin)
    (label : String)
    (maker : Maker κ)
    (arguments : Arguments κ) :
    (make origin label maker arguments : Attempt (Container κ χ) _ _).Respects AnswersAs := by
  rintro left _ outcome leftAfter ⟨cache, rfl, alike⟩ ended
  unfold make at ended ⊢
  cases made : maker arguments with
  | error failure =>
      rw [made] at ended
      cases ended
      exact ⟨_, rfl, cache, rfl, alike⟩
  | ok product =>
      rw [made] at ended
      cases ended
      exact ⟨_, rfl, cache, rfl, alike⟩

theorem assemble_respects
    (respects : ∀ id, (resolve id).Respects AnswersAs)
    (toolkit : Toolkit κ)
    (order : Order) :
    (assemble toolkit resolve order).Respects AnswersAs := by
  rw [assemble_eq]
  cases order.recipe toolkit.registry with
  | error refusal => exact .fail _
  | ok recipe =>
      exact (supplyAll_respects respects toolkit order.className recipe.parameters
        order.arguments).bind fun _ => make_respects _ _ _ _

theorem build_respects
    (respects : ∀ id, (resolve id).Respects AnswersAs)
    (toolkit : Toolkit κ)
    (order : Order) :
    (build toolkit resolve order).Respects AnswersAs := by
  have sameMemo (left right : Container κ χ) (answersAs : AnswersAs left right) :
      left.memo = right.memo := by
    obtain ⟨cache, rfl, alike⟩ := answersAs
    rfl
  apply Attempt.Respects.bind (.reading fun left right answersAs => by
    rw [sameMemo left right answersAs])
  intro entry
  cases entry with
  | some held => exact .pure _
  | none =>
      apply (assemble_respects respects toolkit order).bind
      intro object
      apply Attempt.Respects.changing
      rintro left _ ⟨cache, rfl, alike⟩
      exact ⟨rfl, cache, rfl, alike⟩

end Builder

namespace Container

theorem resolveDefinition_respects
    (respects : ∀ id, (resolve id).Respects AnswersAs)
    (toolkit : Toolkit κ)
    (id : String)
    (definition : Option (Definition κ)) :
    (resolveDefinition toolkit resolve id definition).Respects AnswersAs := by
  have built (order : Order) :
      ((Builder.build toolkit resolve order).mapError AnyError.build).Respects AnswersAs :=
    (Builder.build_respects respects toolkit order).mapError _
  cases definition with
  | none => exact built _
  | some definition =>
      cases definition with
      | ofClass className arguments => exact built _
      | ofFactory className method arguments => exact built _
      | prebuilt object => exact .pure _
      | itself => exact asInstance_respects
      | aliasOf target =>
          apply Attempt.Respects.bind (.reading _)
          · intro cycle
            cases cycle with
            | some chain => exact .fail _
            | none => exact (respects target).mapError _
          · rintro left _ ⟨cache, rfl, alike⟩
            rfl

end Container

end

namespace Container

/-- Containers that answer alike resolve an id alike, and answer alike afterwards. -/
theorem get_respects
    (toolkit : Toolkit κ)
    (fuel : Nat)
    (id : String) :
    (get toolkit fuel id : Attempt (Container κ χ) _ _).Respects AnswersAs := by
  induction fuel generalizing id with
  | zero => exact .exhausted
  | succ fuel inductionHypothesis =>
      have asked (key : String) :
          (lookUp key : Attempt (Container κ χ) _ _).Respects AnswersAs := by
        apply Attempt.Respects.changing
        rintro left _ ⟨cache, rfl, alike⟩
        obtain ⟨same, alikeAfter⟩ := alike.get (Nat.le_refl left.now) key
        exact ⟨same, _, rfl, alikeAfter⟩
      have kept (key : String) (object : Instance κ) :
          (keep key object : Attempt (Container κ χ) _ _).Respects AnswersAs := by
        apply Attempt.Respects.bind (.reading stops_of_answersAs)
        intro stops
        split
        · exact .stopped
        · apply Attempt.Respects.changing
          rintro left _ ⟨cache, rfl, alike⟩
          exact ⟨rfl, _, rfl, alike.set (Nat.le_refl left.now) key object left.ttl⟩
      unfold get
      apply Attempt.Respects.bind (.reading _)
      · intro definition
        split
        · exact asInstance_respects
        · apply (asked _).bind
          intro answer
          cases answer with
          | some found => exact .pure _
          | none =>
              exact ((resolveDefinition_respects inductionHypothesis toolkit id _).mapError
                _).bind (kept _)
      · rintro left _ ⟨cache, rfl, alike⟩
        rfl

/-- Containers that answer alike resolve an id alike. -/
theorem Resolves.of_answersAs
    {toolkit : Toolkit κ}
    {left right leftAfter : Container κ χ}
    {id : String}
    {outcome : Except ServiceError (Instance κ)}
    (answersAs : AnswersAs left right)
    (resolves : Resolves toolkit left id outcome leftAfter) :
    ∃ rightAfter,
      Resolves toolkit right id outcome rightAfter ∧ AnswersAs leftAfter rightAfter := by
  obtain ⟨enough, ends⟩ := resolves
  obtain ⟨rightAfter, endsToo, answersAsAfter⟩ :=
    get_respects toolkit enough id _ _ _ _ answersAs (ends enough (Nat.le_refl enough))
  exact ⟨rightAfter, resolves_of_get endsToo, answersAsAfter⟩

/-- An id is resolved alike after something was looked up. -/
theorem Resolves.after_lookUp
    [QuietStore χ (Instance κ)]
    {toolkit : Toolkit κ}
    {container after : Container κ χ}
    {id : String}
    {outcome : Except ServiceError (Instance κ)}
    (resolves : Resolves toolkit container id outcome after)
    (key : String) :
    ∃ between,
      Resolves toolkit (container.lookedUp key) id outcome between ∧ AnswersAs after between :=
  resolves.of_answersAs (answersAs_lookedUp container key)

end Container

end Switchboard
