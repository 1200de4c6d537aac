import Switchboard.Proofs.Service.AliasChain
import Switchboard.Proofs.Service.Answering
import Switchboard.Proofs.Service.Fulfilment

namespace Switchboard.Container

/-!
# How aliases are resolved

An alias that is not cached is looked up, checked for a circle, and then resolved by resolving its
target, which is an alias itself or not.  The check reads the definitions only, and resolving goes
through the cache at every hop; `aliasLaws` says that the two agree.  An object of the target is
cached once more, so where that panics the alias is not resolved, not even if its target is.
-/

variable {κ χ : Type} [CacheStore χ (Instance κ)]

section

variable
  {toolkit : Toolkit κ}
  {container after between : Container κ χ}
  {id target : String}

/-- An alias in a circle is refused, and nothing is done but to look it up. -/
theorem resolves_of_circle
    {chain : List String}
    (targets : Alias.Targets container.definitions id target)
    (missed : container.found? (Key.service toolkit.digest id) = none)
    (cyclic :
      aliasCycle? container.definitions (container.definitions.size + 1) [id] target =
        some chain) :
    Resolves toolkit container id
      (.error (.notFound id (.container (.invalidDefinition id (cycleReason chain)))))
      (container.lookedUp (Key.service toolkit.digest id)) := by
  have refused :
      get toolkit 1 id container =
        some (.error (.notFound id (.container (.invalidDefinition id (cycleReason chain)))),
          container.lookedUp (Key.service toolkit.digest id)) := by
    rw [get_other targets.ne_itself, missed, targets]
    refine Attempt.bind_eq_some.mpr (.inl ⟨_, Attempt.mapError_eq_error.mpr ⟨_, ?_, rfl⟩, rfl⟩)
    exact resolveDefinition_of_cycle cyclic
  exact resolves_of_get refused

/-- An alias in no circle leads to what its target is resolved to. -/
theorem resolveDefinition_of_target
    {fuel : Nat}
    {outcome : Except ServiceError (Instance κ)}
    (targets : Alias.Targets container.definitions id target)
    (straight : ¬Alias.ComesRound container.definitions id)
    (resolved :
      get toolkit fuel target (container.lookedUp (Key.service toolkit.digest id)) =
        some (outcome, between)) :
    resolveDefinition toolkit (get toolkit fuel) id (container.definitions.find? id)
        (container.lookedUp (Key.service toolkit.digest id)) =
      some (outcome.mapError .container, between) := by
  let looked := container.lookedUp (Key.service toolkit.digest id)
  have acyclic :
      aliasCycle? looked.definitions (looked.definitions.size + 1) [id] target = none :=
    Alias.aliasCycle?_eq_none targets straight
  rw [targets, resolveDefinition_of_alias acyclic]
  exact Attempt.mapError_eq_some.mpr ⟨outcome, resolved, rfl⟩

/-- An alias in no circle is resolved after its target: an object is cached once more. -/
theorem resolves_of_target
    {object : Instance κ}
    (targets : Alias.Targets container.definitions id target)
    (missed : container.found? (Key.service toolkit.digest id) = none)
    (straight : ¬Alias.ComesRound container.definitions id)
    (resolves :
      Resolves toolkit (container.lookedUp (Key.service toolkit.digest id)) target (.ok object)
        between)
    (goes : between.stops = false) :
    Resolves toolkit container id (.ok object)
      (between.keeping (Key.service toolkit.digest id) object) := by
  obtain ⟨enough, ends⟩ := resolves
  have followed := resolveDefinition_of_target targets straight (ends enough (Nat.le_refl enough))
  refine resolves_of_get ((get_of_resolved targets.ne_itself missed followed).trans ?_)
  rw [if_neg (by simp [goes])]

/-- An alias in no circle fails after its target: the failure is wrapped once more. -/
theorem resolves_of_target_error
    {error : ServiceError}
    (targets : Alias.Targets container.definitions id target)
    (missed : container.found? (Key.service toolkit.digest id) = none)
    (straight : ¬Alias.ComesRound container.definitions id)
    (resolves :
      Resolves toolkit (container.lookedUp (Key.service toolkit.digest id)) target (.error error)
        between) :
    Resolves toolkit container id (.error (.notFound id (.container error))) between := by
  obtain ⟨enough, ends⟩ := resolves
  have followed := resolveDefinition_of_target targets straight (ends enough (Nat.le_refl enough))
  have refused :
      get toolkit (enough + 1) id container =
        some (.error (.notFound id (.container error)), between) := by
    rw [get_other targets.ne_itself, missed]
    exact Attempt.bind_eq_some.mpr
      (.inl ⟨_, Attempt.mapError_eq_error.mpr ⟨_, followed, rfl⟩, rfl⟩)
  exact resolves_of_get refused

/-- An alias in no circle panics after its target, where keeping the object does. -/
theorem get_eq_none_of_target
    {object : Instance κ}
    (targets : Alias.Targets container.definitions id target)
    (missed : container.found? (Key.service toolkit.digest id) = none)
    (straight : ¬Alias.ComesRound container.definitions id)
    (resolves :
      Resolves toolkit (container.lookedUp (Key.service toolkit.digest id)) target (.ok object)
        between)
    (stops : between.stops = true)
    (fuel : Nat) :
    get toolkit fuel id container = none := by
  obtain ⟨enough, ends⟩ := resolves
  refine Option.eq_none_iff_forall_ne_some.mpr fun ending ended => ?_
  -- An end would be the same with more fuel, and with enough of it the target is resolved.
  have longer :=
    get_extends toolkit (Nat.le_succ_of_le (Nat.le_max_right enough fuel)) id _ _ ended
  have followed :=
    resolveDefinition_of_target targets straight (ends _ (Nat.le_max_left enough fuel))
  rw [get_of_resolved targets.ne_itself missed followed, if_pos stops] at longer
  cases longer

/-- An alias in no circle is not resolved unless its target is. -/
theorem exists_resolves_of_alias
    {outcome : Except ServiceError (Instance κ)}
    (targets : Alias.Targets container.definitions id target)
    (missed : container.found? (Key.service toolkit.digest id) = none)
    (straight : ¬Alias.ComesRound container.definitions id)
    (resolves : Resolves toolkit container id outcome after) :
    ∃ outcomeOfTarget afterTarget,
      Resolves toolkit (container.lookedUp (Key.service toolkit.digest id)) target
        outcomeOfTarget afterTarget := by
  have followed
      {fuel : Nat}
      {outcome : Except AnyError (Instance κ)}
      {after : Container κ χ}
      (ends :
        DefinitionEnds toolkit (get toolkit fuel) id
          (container.lookedUp (Key.service toolkit.digest id))
          (some (.aliasOf target)) outcome after) :
      ∃ outcomeOfTarget afterTarget,
        Resolves toolkit (container.lookedUp (Key.service toolkit.digest id)) target
          outcomeOfTarget afterTarget := by
    cases ends with
    | circle cyclic =>
        cases (Alias.aliasCycle?_eq_none targets straight).symm.trans cyclic
    | followed _ resolved => exact ⟨_, _, resolves_of_get resolved⟩
    | ordered asked _ => cases asked
  obtain ⟨enough, ends⟩ := resolves
  cases get_ends (ends (enough + 1) (Nat.le_succ enough)) with
  | own itself => cases targets.symm.trans itself
  | cached _ hit => cases missed.symm.trans hit
  | failed _ _ resolution => exact followed (targets ▸ resolution)
  | resolved _ _ resolution => exact followed (targets ▸ resolution)

end

/-- How an id that is defined as an alias, and is not cached, is resolved. -/
structure AliasLaws
    (toolkit : Toolkit κ)
    (container : Container κ χ)
    (id target : String) :
    Prop where
  /-- Looking the id up makes no difference to what the container will answer. -/
  looked : AnswersAs container (container.lookedUp (Key.service toolkit.digest id))
  /-- If following aliases from the id on comes round, resolving it fails with what was visited, up
  to and including the first id that was visited before, and does nothing else. -/
  circle :
    Alias.ComesRound container.definitions id →
      ∃ seen repeated,
        Alias.Visits container.definitions id (seen ++ [repeated]) ∧ seen.Nodup ∧
          repeated ∈ seen ∧
          Resolves toolkit container id
            (.error (.notFound id (.container
              (.invalidDefinition id (cycleReason (seen ++ [repeated]))))))
            (container.lookedUp (Key.service toolkit.digest id))
  /-- Otherwise an object of the target is the object of the alias, and is cached under it. -/
  found :
    ¬Alias.ComesRound container.definitions id →
      container.stops = false →
        ∀ object after, Resolves toolkit container target (.ok object) after →
          ∃ between,
            AnswersAs after between ∧
              Resolves toolkit container id (.ok object)
                (between.keeping (Key.service toolkit.digest id) object)
  /-- Where caching it panics, the alias is not resolved although the target is. -/
  stopped :
    ¬Alias.ComesRound container.definitions id →
      container.stops = true →
        ∀ object after, Resolves toolkit container target (.ok object) after →
          ∀ fuel, get toolkit fuel id container = none
  /-- A failure of the target is wrapped once, with the name of the alias. -/
  refused :
    ¬Alias.ComesRound container.definitions id →
      ∀ error after, Resolves toolkit container target (.error error) after →
        ∃ between,
          AnswersAs after between ∧
            Resolves toolkit container id (.error (.notFound id (.container error))) between
  /-- There is no other way to resolve the alias. -/
  only :
    ¬Alias.ComesRound container.definitions id →
      ∀ outcome after, Resolves toolkit container id outcome after →
        ∃ outcomeOfTarget afterTarget,
          Resolves toolkit container target outcomeOfTarget afterTarget
  /-- Following aliases leads to an id that is none, and resolving the alias ends if resolving
  that id does. -/
  ends :
    ¬Alias.ComesRound container.definitions id →
      ∃ final,
        Alias.LeadsTo container.definitions id final ∧
          (container.stops = false →
            ∀ outcome after, Resolves toolkit container final outcome after →
              ∃ outcomeOfAlias afterAlias, Resolves toolkit container id outcomeOfAlias afterAlias)

section

variable
  [QuietStore χ (Instance κ)]
  {toolkit : Toolkit κ}
  {container : Container κ χ}
  {id target : String}

theorem stops_of_resolves
    {outcome : Except ServiceError (Instance κ)}
    {key : String}
    {after : Container κ χ}
    (resolves : Resolves toolkit (container.lookedUp key) target outcome after) :
    after.stops = container.stops := by
  obtain ⟨enough, ends⟩ := resolves
  have steady := (stride_stops toolkit).walk.gets enough target _ _ _ trivial
    (ends enough (Nat.le_refl enough))
  exact steady.trans (SteadyStore.stops_get container.cache _ _ _ container.ttl)

/-- An alias is resolved, from the cache or by its target, wherever its target is. -/
theorem exists_resolves_of_target
    (targets : Alias.Targets container.definitions id target)
    (straight : ¬Alias.ComesRound container.definitions id)
    (goes : container.stops = false)
    (resolved : ∃ outcome after, Resolves toolkit container target outcome after) :
    ∃ outcome after, Resolves toolkit container id outcome after := by
  cases hit : container.found? (Key.service toolkit.digest id) with
  | some object =>
      have cached :
          get toolkit 1 id container =
            some (.ok object, container.lookedUp (Key.service toolkit.digest id)) := by
        rw [get_other targets.ne_itself, hit]
      exact ⟨_, _, resolves_of_get cached⟩
  | none =>
      obtain ⟨outcome, after, resolves⟩ := resolved
      obtain ⟨between, resolvesToo, _⟩ := resolves.after_lookUp _
      cases outcome with
      | error error =>
          exact ⟨_, _, resolves_of_target_error targets hit straight resolvesToo⟩
      | ok object =>
          exact ⟨_, _, resolves_of_target targets hit straight resolvesToo
            ((stops_of_resolves resolvesToo).trans goes)⟩

/-- Hop by hop, an alias is resolved wherever the id that it leads to is. -/
theorem exists_resolves_of_leadsTo
    {final : String}
    (leads : Alias.LeadsTo container.definitions id final)
    (straight : ¬Alias.ComesRound container.definitions id)
    (goes : container.stops = false)
    (resolved : ∃ outcome after, Resolves toolkit container final outcome after) :
    ∃ outcome after, Resolves toolkit container id outcome after := by
  induction leads with
  | here _ => exact resolved
  | further targets _ inductionHypothesis =>
      have straightOn := fun comesRound => straight (Alias.ComesRound.of_target targets comesRound)
      exact exists_resolves_of_target targets straight goes
        (inductionHypothesis straightOn resolved)

/--
Resolving an alias that is not cached fails at once if following aliases from it on comes round,
and ends as resolving its target would otherwise, whatever aliases there are and whatever is cached
on the way.
-/
theorem aliasLaws
    (targets : Alias.Targets container.definitions id target)
    (missed : container.found? (Key.service toolkit.digest id) = none) :
    AliasLaws toolkit container id target where
  looked := answersAs_lookedUp container _
  circle := by
    intro comesRound
    obtain ⟨seen, repeated, cyclic, visits, nodup, again⟩ :=
      Alias.aliasCycle?_eq_some targets comesRound
    exact ⟨seen, repeated, visits, nodup, again, resolves_of_circle targets missed cyclic⟩
  found := by
    intro straight goes object after resolves
    obtain ⟨between, resolvesToo, answersAs⟩ := resolves.after_lookUp _
    exact ⟨between, answersAs, resolves_of_target targets missed straight resolvesToo
      ((stops_of_resolves resolvesToo).trans goes)⟩
  stopped := by
    intro straight stops object after resolves
    obtain ⟨between, resolvesToo, _⟩ := resolves.after_lookUp _
    exact get_eq_none_of_target targets missed straight resolvesToo
      ((stops_of_resolves resolvesToo).trans stops)
  refused := by
    intro straight error after resolves
    obtain ⟨between, resolvesToo, answersAs⟩ := resolves.after_lookUp _
    exact ⟨between, answersAs, resolves_of_target_error targets missed straight resolvesToo⟩
  only := by
    intro straight outcome after resolves
    obtain ⟨outcomeOfTarget, between, resolvesTarget⟩ :=
      exists_resolves_of_alias targets missed straight resolves
    obtain ⟨afterTarget, resolvesToo, _⟩ :=
      resolvesTarget.of_answersAs (answersAs_lookedUp container _).symm
    exact ⟨outcomeOfTarget, afterTarget, resolvesToo⟩
  ends := by
    intro straight
    obtain ⟨final, leads⟩ := Alias.exists_leadsTo targets straight
    exact ⟨final, leads, fun goes outcome after resolves =>
      exists_resolves_of_leadsTo leads straight goes ⟨outcome, after, resolves⟩⟩

end

namespace Rho

/-- A circle of two aliases and one that leads into it, and two that lead to a class. -/
def container : Container Unit (MemoryCache (Instance Unit)) :=
  (empty () (.empty none) none).withServices
    [("x", .aliasOf "y"), ("y", .aliasOf "z"), ("z", .aliasOf "y"), ("w", .aliasOf "v"),
      ("v", .aliasOf "q")]

/-- An alias of the container, where objects are to stay for longer than any clock can tell. -/
def lasting : Container Unit (MemoryCache (Instance Unit)) :=
  (empty () (.empty none) (some (.seconds (2 ^ 64 - 1)))).withServices [("me", .aliasOf ownId)]

end Rho

/-- An alias that leads into a circle without being part of it, one that leads to a class, and one
whose object cannot be cached. -/
theorem aliasLaws_of_rho :
    Alias.Targets Rho.container.definitions "x" "y" ∧
      Rho.container.found? (Key.service Reentry.toolkit.digest "x") = none ∧
      Alias.ComesRound Rho.container.definitions "x" ∧
      AliasLaws Reentry.toolkit Rho.container "x" "y" ∧
      Alias.Targets Rho.container.definitions "w" "v" ∧
      Rho.container.found? (Key.service Reentry.toolkit.digest "w") = none ∧
      ¬Alias.ComesRound Rho.container.definitions "w" ∧
      Rho.container.stops = false ∧
      AliasLaws Reentry.toolkit Rho.container "w" "v" ∧
      Alias.Targets Rho.lasting.definitions "me" ownId ∧
      Rho.lasting.found? (Key.service Reentry.toolkit.digest "me") = none ∧
      Rho.lasting.stops = true ∧
      AliasLaws Reentry.toolkit Rho.lasting "me" ownId := by
  have targets : Alias.Targets Rho.container.definitions "x" "y" := by rfl
  have targetsToo : Alias.Targets Rho.container.definitions "w" "v" := by rfl
  have missed (id : String) :
      Rho.container.found? (Key.service Reentry.toolkit.digest id) = none := rfl
  have comesRound : Alias.ComesRound Rho.container.definitions "x" :=
    ⟨["x", "y", "z", "y"], ⟨rfl, by
      simp only [List.isChain_cons_cons, List.isChain_singleton, and_true]
      exact ⟨rfl, rfl, rfl⟩⟩, by decide⟩
  have straight : ¬Alias.ComesRound Rho.container.definitions "w" := by
    intro comesRoundToo
    obtain ⟨seen, repeated, cyclic, _⟩ := Alias.aliasCycle?_eq_some targetsToo comesRoundToo
    have acyclic : aliasCycle? Rho.container.definitions 8 ["w"] "v" = none := by rfl
    cases acyclic.symm.trans cyclic
  have targetsItself : Alias.Targets Rho.lasting.definitions "me" ownId := by rfl
  have missedItself : Rho.lasting.found? (Key.service Reentry.toolkit.digest "me") = none := rfl
  have stops : Rho.lasting.stops = true := by decide +kernel
  exact ⟨targets, missed "x", comesRound, aliasLaws targets (missed "x"), targetsToo, missed "w",
    straight, rfl, aliasLaws targetsToo (missed "w"), targetsItself, missedItself, stops,
    aliasLaws targetsItself missedItself⟩

/-- The container is resolved although caching panics, and its alias is not. -/
example :
    (get Reentry.toolkit 1 ownId Rho.lasting).isSome = true ∧
      (get Reentry.toolkit 9 "me" Rho.lasting).isNone = true := by
  decide +kernel

/-- The whole way into the circle is told. -/
example :
    (get Reentry.toolkit 1 "x" Rho.container).map Prod.fst =
      some (.error (.notFound "x" (.container
        (.invalidDefinition "x" "alias cycle x -> y -> z -> y")))) := by
  rfl

end Switchboard.Container
