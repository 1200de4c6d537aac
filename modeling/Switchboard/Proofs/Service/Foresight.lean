import Switchboard.Proofs.Service.Fulfilment

namespace Switchboard

/-!
# What has a forecast

A resolution that ends, in a container that is coherent with its start, has a forecast, as long as
its parameters are supplied with what the vantage says.
-/

variable {κ χ τ : Type} [CacheStore χ (Instance κ)] [LastingStore χ (Instance κ)]

namespace Builder

section

variable
  {toolkit : Toolkit κ}
  {resolve : Resolver κ χ}
  {className : String}
  {parameter : Parameter}
  {parameters : List Parameter}
  {arguments : List Argument}
  {container after : Container κ χ}
  {outcome : Except BuildError (Arguments κ)}

omit [LastingStore χ (Instance κ)] in
/-- To supply parameters is to supply the first one. -/
theorem exists_supply_of_supplyAll
    (ended :
      supplyAll toolkit resolve className (parameter :: parameters) arguments container =
        some (outcome, after)) :
    ∃ first between,
      supply toolkit resolve className parameter arguments.head? container =
        some (first, between) := by
  rcases supplyAll_cons_eq_some_iff.mp ended with ⟨_, refused, _⟩ | ⟨_, _, _, found, _⟩
  · exact ⟨_, _, refused⟩
  · exact ⟨_, _, found⟩

omit [LastingStore χ (Instance κ)] in
/-- After the first parameter was supplied, the other ones are. -/
theorem exists_supplyAll_of_supplyAll
    (ended :
      supplyAll toolkit resolve className (parameter :: parameters) arguments container =
        some (outcome, after))
    {resolved : Resolved κ}
    {between : Container κ χ}
    (supplied :
      supply toolkit resolve className parameter arguments.head? container =
        some (.ok resolved, between)) :
    ∃ others,
      supplyAll toolkit resolve className parameters arguments.tail between =
        some (others, after) := by
  rcases supplyAll_cons_eq_some_iff.mp ended with
    ⟨_, refused, _⟩ | ⟨_, _, others, found, endedToo, _⟩
  · cases refused.symm.trans supplied
  · cases found.symm.trans supplied
    exact ⟨others, endedToo⟩

omit [CacheStore χ (Instance κ)] [LastingStore χ (Instance κ)] in
/-- To inject a service is to resolve it. -/
theorem exists_resolve_of_service
    {id : String}
    {first : Except BuildError (Resolved κ)}
    (ended :
      (service resolve id >>= fun object => pure (Resolved.service object)) container =
        some (first, after)) :
    ∃ answer, resolve id container = some (answer, after) := by
  obtain ⟨_, served, _⟩ := Attempt.bind_pure_eq_some.mp ended
  obtain ⟨answer, resolved, _⟩ := Attempt.mapError_eq_some.mp served
  exact ⟨answer, resolved⟩

end

end Builder

omit [LastingStore χ (Instance κ)] in
/-- With this much fuel, every resolution that ends has a forecast. -/
def Vantage.Foresees (vantage : Vantage κ χ τ) (fuel : Nat) : Prop :=
  ∀ id container outcome after,
    vantage.Coherent container →
      vantage.Steady (.get id) container →
      Container.get vantage.toolkit fuel id container = some (outcome, after) →
      ∃ answer traces, Forecast vantage (.get id) answer traces

section

variable
  {vantage : Vantage κ χ τ}
  {fuel : Nat}
  {container after : Container κ χ}

/-- What supplies parameters has a forecast if the services among it do. -/
theorem exists_forecast_of_supplyAll
    (fair : vantage.Fair)
    (foresees : vantage.Foresees fuel)
    (coherent : vantage.Coherent container)
    {order : Order}
    {parameters : List Parameter}
    {arguments : List Argument}
    (steady : vantage.Steady (.supply order parameters arguments) container)
    {outcome : Except BuildError (Arguments κ)}
    (ended :
      Builder.supplyAll vantage.toolkit (Container.get vantage.toolkit fuel) order.className
        parameters arguments container = some (outcome, after)) :
    ∃ answer traces, Forecast vantage (.supply order parameters arguments) answer traces := by
  induction parameters generalizing arguments container outcome with
  | nil => exact ⟨_, _, .done⟩
  | cons parameter parameters inductionHypothesis =>
      have rest
          {resolved : Resolved κ}
          {between : Container κ χ}
          (coherentToo : vantage.Coherent between)
          (supplied :
            Builder.supply vantage.toolkit (Container.get vantage.toolkit fuel) order.className
              parameter arguments.head? container = some (.ok resolved, between)) :
          ∃ answer traces,
            Forecast vantage (.supply order parameters arguments.tail) answer traces := by
        obtain ⟨_, endedToo⟩ := Builder.exists_supplyAll_of_supplyAll ended supplied
        exact inductionHypothesis coherentToo
          (fun _ _ supplies => steady _ _ (.later supplied supplies)) endedToo
      obtain ⟨_, between, supplied⟩ := Builder.exists_supply_of_supplyAll ended
      have supplying :=
        steady.supply_eq (Container.get vantage.toolkit fuel : Builder.Resolver κ χ)
      cases provided : vantage.provides ⟨order, parameter, parameters, arguments⟩ with
      | nothing => exact ⟨_, _, .nothing provided⟩
      | value document =>
          rw [provided] at supplying
          obtain ⟨_, _, forecast⟩ := rest coherent supplying
          exact ⟨_, _, .value provided forecast⟩
      | service id =>
          rw [provided] at supplying
          have provisioned := (steady _ _ .first).trans provided
          have steadyToo : vantage.Steady (.get id) container :=
            fun _ _ supplies => steady _ _ (.service provisioned supplies)
          obtain ⟨outcome, resolved⟩ :=
            Builder.exists_resolve_of_service (supplying.symm.trans supplied)
          obtain ⟨answer, _, forecast⟩ := foresees id container _ _ coherent steadyToo resolved
          -- the forecast comes true, so it is known how the service was resolved
          obtain ⟨_, _, _, ends, progress, shown⟩ :=
            forecast.comes_true fair _ coherent trivial steadyToo
          obtain ⟨rfl, rfl⟩ := ends.unique ⟨outcome, resolved, rfl⟩
          cases answer with
          | none => exact ⟨_, _, .unserved provided forecast⟩
          | some sketch =>
              cases outcome with
              | error error => cases shown
              | ok object =>
                  obtain ⟨_, _, forecastToo⟩ := rest progress.coherent
                    (supplying.trans (Attempt.bind_eq_ok.mpr
                      ⟨object, _, Attempt.mapError_eq_ok.mpr resolved, rfl⟩))
                  exact ⟨_, _, .service provided forecast forecastToo⟩

/-- What is assembled for an order has a forecast if the services that it needs do. -/
theorem exists_forecast_of_assemble
    (fair : vantage.Fair)
    (foresees : vantage.Foresees fuel)
    (coherent : vantage.Coherent container)
    {order : Order}
    (steady : vantage.Steady (.build order) container)
    (miss : container.memo.find? (order.key vantage.toolkit.digest) = none)
    {outcome : Except BuildError (Instance κ)}
    (assembled :
      Builder.assemble vantage.toolkit (Container.get vantage.toolkit fuel) order container =
        some (outcome, after)) :
    ∃ answer traces, Forecast vantage (.build order) answer traces := by
  have missed := coherent.memo_start miss
  cases known : order.recipe vantage.toolkit.registry with
  | error refusal => exact ⟨_, _, .settled (Vantage.plan_of_refused missed known)⟩
  | ok recipe =>
      have plan := Vantage.plan_of_known missed known
      have steadyToo :
          vantage.Steady (.supply order recipe.parameters order.arguments) container :=
        fun _ _ supplies => steady _ _ (.recipe known miss supplies)
      rw [Builder.assemble_eq, known] at assembled
      have supplied : ∃ outcome between,
          Builder.supplyAll vantage.toolkit (Container.get vantage.toolkit fuel)
              order.className recipe.parameters order.arguments container =
            some (outcome, between) := by
        rcases Attempt.bind_eq_some.mp assembled with ⟨_, refused, _⟩ | ⟨_, _, found, _⟩
        · exact ⟨_, _, refused⟩
        · exact ⟨_, _, found⟩
      obtain ⟨_, _, endedToo⟩ := supplied
      obtain ⟨answer, traces, forecast⟩ :=
        exists_forecast_of_supplyAll fair foresees coherent steadyToo endedToo
      cases answer with
      | none => exact ⟨_, _, .unsupplied plan forecast⟩
      | some outline =>
          obtain ⟨_, _, _, _, _, shown⟩ :=
            forecast.comes_true fair _ coherent trivial steadyToo
          cases shown with
          | some shown => exact ⟨_, _, .ran plan forecast (Outline.Shows.seen shown) rfl⟩

/-- The object of an order has a forecast if the services that it needs do. -/
theorem exists_forecast_of_build
    (fair : vantage.Fair)
    (foresees : vantage.Foresees fuel)
    (coherent : vantage.Coherent container)
    {order : Order}
    (gives : vantage.Gives order)
    (steady : vantage.Steady (.build order) container)
    {outcome : Except BuildError (Instance κ)}
    (ended :
      Builder.build vantage.toolkit (Container.get vantage.toolkit fuel) order container =
        some (outcome, after)) :
    ∃ answer traces, Forecast vantage (.build order) answer traces := by
  cases Builder.build_ends ended with
  | remembered hit =>
      rcases coherent.remembered order _ gives hit with atStart | ⟨_, _, forecast, _⟩
      · exact ⟨_, _, .settled (Vantage.plan_of_remembered atStart)⟩
      · exact ⟨_, _, forecast⟩
  | failed miss assembling =>
      exact exists_forecast_of_assemble fair foresees coherent steady miss assembling
  | built miss assembling =>
      exact exists_forecast_of_assemble fair foresees coherent steady miss assembling

/-- An id that is not cached has a forecast if what its definition leads to does. -/
theorem exists_forecast_of_definition
    (fair : vantage.Fair)
    (foresees : vantage.Foresees fuel)
    (coherent : vantage.Coherent container)
    {id : String}
    (steady : vantage.Steady (.get id) container)
    (defined : container.definitions.find? id ≠ some .itself)
    (miss : container.found? (Key.service vantage.toolkit.digest id) = none)
    {outcome : Except AnyError (Instance κ)}
    (resolution :
      Container.DefinitionEnds vantage.toolkit (Container.get vantage.toolkit fuel) id
        (container.lookedUp (Key.service vantage.toolkit.digest id))
        (container.definitions.find? id) outcome after) :
    ∃ answer traces, Forecast vantage (.get id) answer traces := by
  have lookedUp := (coherent.lookedUp (Key.service vantage.toolkit.digest id)).coherent
  have course :=
    Vantage.course_of_miss (coherent.definitions ▸ defined) (coherent.found?_start miss)
  rw [← coherent.definitions] at course
  generalize isDefined : container.definitions.find? id = definition at resolution course
  cases resolution with
  | circle cyclic =>
      exact ⟨_, _, .answered (course.trans (Vantage.courseOf_of_cycle
        (coherent.definitions ▸ cyclic)))⟩
  | followed acyclic resolved =>
      obtain ⟨_, _, forecast⟩ :=
        foresees _ _ _ _ lookedUp
          (fun _ _ supplies => steady _ _ (.followed isDefined miss acyclic supplies)) resolved
      exact ⟨_, _, .followed (course.trans (Vantage.courseOf_of_follows
        (coherent.definitions ▸ acyclic))) forecast⟩
  | given object => exact ⟨_, _, .answered course⟩
  | own => exact absurd isDefined defined
  | ordered asked built =>
      have asks : Container.orderOf? id (container.definitions.find? id) = some _ :=
        isDefined ▸ asked
      obtain ⟨_, _, forecast⟩ :=
        exists_forecast_of_build fair foresees lookedUp ⟨id, coherent.definitions ▸ asks⟩
          (fun _ _ supplies => steady _ _ (.ordered asks miss supplies)) built
      exact ⟨_, _, .ordered (course.trans (Vantage.courseOf_of_builds asked)) forecast⟩

/-- A resolution that ends has a forecast. -/
theorem exists_forecast_of_get
    (fair : vantage.Fair)
    (fuel : Nat) :
    vantage.Foresees fuel := by
  induction fuel with
  | zero =>
      intro id container outcome after _ _ ended
      cases ended
  | succ fuel inductionHypothesis =>
      intro id container outcome after coherent steady ended
      cases Container.get_ends ended with
      | own itself =>
          exact ⟨_, _, .answered (Vantage.course_of_itself (coherent.definitions ▸ itself))⟩
      | cached defined hit =>
          rcases coherent.cached id _ hit with atStart | ⟨_, _, forecast, _⟩
          · exact ⟨_, _, .answered
              (Vantage.course_of_found (coherent.definitions ▸ defined) atStart)⟩
          · exact ⟨_, _, forecast⟩
      | failed defined miss resolution =>
          exact exists_forecast_of_definition fair inductionHypothesis coherent steady defined miss
            resolution
      | resolved defined miss resolution =>
          exact exists_forecast_of_definition fair inductionHypothesis coherent steady defined miss
            resolution

end

end Switchboard
