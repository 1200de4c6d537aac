import Switchboard.Proofs.Service.Coherence

namespace Switchboard

/-!
# Forecasts that come true

In a container that is coherent with its start, an inquiry comes to what a forecast says, as long
as its parameters are supplied with what the vantage says.  This is shown once for each rule by
which a forecast is made; `Forecast.comes_true` puts the rules together.
-/

variable {κ χ τ : Type} [CacheStore χ (Instance κ)]

namespace Container

/-- An alias that leads round in no circle is resolved by its target. -/
theorem resolveDefinition_of_alias
    {toolkit : Toolkit κ}
    {resolve : Builder.Resolver κ χ}
    {id target : String}
    {container : Container κ χ}
    (acyclic :
      aliasCycle? container.definitions (container.definitions.size + 1) [id] target = none) :
    resolveDefinition toolkit resolve id (some (.aliasOf target)) container =
      (resolve target).mapError .container container := by
  simp only [resolveDefinition, resolveAlias, Attempt.reading_bind, acyclic]

/-- An alias that leads round in a circle is refused. -/
theorem resolveDefinition_of_cycle
    {toolkit : Toolkit κ}
    {resolve : Builder.Resolver κ χ}
    {id target : String}
    {container : Container κ χ}
    {chain : List String}
    (cyclic :
      aliasCycle? container.definitions (container.definitions.size + 1) [id] target =
        some chain) :
    resolveDefinition toolkit resolve id (some (.aliasOf target)) container =
      some (.error (.container (.invalidDefinition id (cycleReason chain))), container) := by
  simp only [resolveDefinition, resolveAlias, Attempt.reading_bind, cyclic]
  rfl

end Container

namespace Builder

theorem supplyAll_of_supplied
    {toolkit : Toolkit κ}
    {resolve : Resolver κ χ}
    {className : String}
    {parameter : Parameter}
    {parameters : List Parameter}
    {arguments : List Argument}
    {container between after : Container κ χ}
    {resolved : Resolved κ}
    {outcome : Except BuildError (Arguments κ)}
    (supplied :
      supply toolkit resolve className parameter arguments.head? container =
        some (.ok resolved, between))
    (rest :
      supplyAll toolkit resolve className parameters arguments.tail between =
        some (outcome, after)) :
    supplyAll toolkit resolve className (parameter :: parameters) arguments container =
      some (outcome.map (List.cons (parameter.name, resolved)), after) := by
  exact supplyAll_cons_eq_some_iff.mpr
    (.inr ⟨resolved, between, outcome, supplied, rest, rfl⟩)

theorem supplyAll_of_refused
    {toolkit : Toolkit κ}
    {resolve : Resolver κ χ}
    {className : String}
    {parameter : Parameter}
    {parameters : List Parameter}
    {arguments : List Argument}
    {container after : Container κ χ}
    {error : BuildError}
    (refused :
      supply toolkit resolve className parameter arguments.head? container =
        some (.error error, after)) :
    supplyAll toolkit resolve className (parameter :: parameters) arguments container =
      some (.error error, after) :=
  supplyAll_cons_eq_some_iff.mpr (.inl ⟨error, refused, rfl⟩)

end Builder

namespace Vantage

/-- The inquiry comes to what is said, whatever fuel that takes. -/
def Foretold
    (vantage : Vantage κ χ τ)
    (inquiry : Inquiry)
    (container : Container κ χ)
    (answer : Option (inquiry.Answer κ τ))
    (traces : List (Trace κ τ)) :
    Prop :=
  ∃ fuel result after,
    inquiry.Ends vantage.toolkit fuel container after result ∧
      vantage.Progress container after traces ∧
      Option.Rel (inquiry.Shows vantage after) answer result

/-- The orders that are asked for are ones that some id leads to. -/
def IsGiven (vantage : Vantage κ χ τ) : Inquiry → Prop
  | .build order => vantage.Gives order
  | _ => True

section

variable
  {vantage : Vantage κ χ τ}
  {container : Container κ χ}

/-- What is remembered for an order is what a forecast says. -/
theorem foretold_remembered
    (fair : vantage.Fair)
    (coherent : vantage.Coherent container)
    {order : Order}
    (gives : vantage.Gives order)
    {answer : Option (Sketch κ τ)}
    {traces : List (Trace κ τ)}
    (forecast : Forecast vantage (.build order) answer traces)
    {object : Instance κ}
    (entry : container.memo.find? (order.key vantage.toolkit.digest) = some object) :
    vantage.Foretold (.build order) container answer traces := by
  have ended :
      Builder.build vantage.toolkit (Container.get vantage.toolkit 0) order container =
        some (.ok object, container) :=
    Builder.build_remembered entry
  rcases coherent.remembered order object gives entry with atStart | foreseen
  · obtain ⟨rfl, rfl⟩ := forecast.unique fair.blind (.settled (plan_of_remembered atStart))
    exact ⟨0, some object, container, ⟨_, ended, rfl⟩, .refl coherent,
      .some ⟨rfl, Container.Holds.remembered atStart, rfl⟩⟩
  · obtain ⟨sketch, others, forecastToo, shown, covered⟩ := foreseen
    obtain ⟨rfl, rfl⟩ := forecast.unique fair.blind forecastToo
    exact ⟨0, some object, container, ⟨_, ended, rfl⟩,
      (Progress.refl coherent).covering covered, .some shown⟩

/-- Carrying out an order comes to what a forecast says if, on a miss of the memo, assembling its
object does. -/
theorem foretold_build
    (fair : vantage.Fair)
    (coherent : vantage.Coherent container)
    {order : Order}
    (gives : vantage.Gives order)
    (made : Option (Product τ))
    {traces : List (Trace κ τ)}
    (forecast : Forecast vantage (.build order) (made.map (Sketch.mk (.built order))) traces)
    (assembling :
      container.memo.find? (order.key vantage.toolkit.digest) = none →
      ∃ fuel outcome between,
        Builder.assemble vantage.toolkit (Container.get vantage.toolkit fuel) order container =
          some (outcome, between) ∧
        vantage.Progress container between traces ∧
        outcome.toOption.map (Instance.seen vantage.view) = made) :
    vantage.Foretold (.build order) container (made.map (Sketch.mk (.built order))) traces := by
  cases entry : container.memo.find? (order.key vantage.toolkit.digest) with
  | some object =>
      exact foretold_remembered fair coherent gives forecast entry
  | none =>
      obtain ⟨fuel, outcome, between, assembled, progress, rfl⟩ := assembling entry
      cases outcome with
      | error error =>
          refine ⟨fuel, none, between, ⟨.error error, ?_, rfl⟩, progress, .none⟩
          rw [Builder.build_missing entry]
          exact Attempt.bind_eq_some.mpr (.inl ⟨error, assembled, rfl⟩)
      | ok object =>
          have kept := progress.coherent.remembering fair gives fun absent =>
            progress.foreseen_remembering forecast absent
          refine ⟨fuel, some (between.memo.remember (order.key vantage.toolkit.digest) object).1,
            between.remembering (order.key vantage.toolkit.digest) object, ⟨.ok _, ?_, rfl⟩, ?_,
            .some ?_⟩
          · rw [Builder.build_missing entry]
            exact Attempt.bind_eq_some.mpr (.inr ⟨object, between, assembled, rfl⟩)
          · exact progress.then_step kept
          · -- whether the object is new or was built on the way, the container is coherent
            rcases kept.coherent.remembered order _ gives (find?_remembering_self _ _ _) with
              atStart | ⟨sketch, others, forecastToo, shown, _⟩
            · cases (coherent.memo_start entry).symm.trans atStart
            · obtain ⟨same, _⟩ := forecast.unique fair.blind forecastToo
              cases same
              exact shown

/-- What an id leads to at once is found at once. -/
theorem resolveDefinition_of_ends
    (coherent : vantage.Coherent container)
    {id : String}
    {answer : Option (Sketch κ τ)}
    (itself : container.definitions.find? id ≠ some .itself)
    (course : vantage.courseOf id (container.definitions.find? id) = .ends answer)
    (resolve : Builder.Resolver κ χ) :
    ∃ outcome,
      Container.resolveDefinition vantage.toolkit resolve id (container.definitions.find? id)
          container =
        some (outcome, container) ∧
      Option.Rel (Sketch.Shows vantage container) answer outcome.toOption := by
  cases defined : container.definitions.find? id with
  | none =>
      rw [defined] at course
      cases course
  | some definition =>
      rw [defined] at course itself
      cases definition with
      | ofClass className arguments => cases course
      | ofFactory className method arguments => cases course
      | itself => exact absurd rfl itself
      | prebuilt object =>
          cases course
          rw [coherent.definitions] at defined
          exact ⟨.ok object, rfl, .some ⟨rfl, Container.Holds.given defined, rfl⟩⟩
      | aliasOf target =>
          simp only [courseOf, ← coherent.definitions] at course
          cases cycle : Container.aliasCycle? container.definitions
              (container.definitions.size + 1) [id] target with
          | none =>
              rw [cycle] at course
              cases course
          | some chain =>
              rw [cycle] at course
              cases course
              exact ⟨_, Container.resolveDefinition_of_cycle cycle, .none⟩

/-- With its first part, an outline shows the first argument as well. -/
theorem rel_cons
    {part : String × (Json.Value ⊕ Sketch κ τ)}
    {argument : String × Resolved κ}
    {outline : Option (Outline κ τ)}
    {rest : Except BuildError (Arguments κ)}
    (first : Outline.ShowsPart vantage container part argument)
    (others : Option.Rel (Outline.Shows vantage container) outline rest.toOption) :
    Option.Rel (Outline.Shows vantage container) (outline.map (List.cons part))
      (rest.map (List.cons argument)).toOption := by
  cases rest with
  | error error =>
      cases others
      exact .none
  | ok arguments =>
      cases others with
      | some shown => exact .some (.cons first shown)

/-- While parameters are supplied with what the vantage says, the first one is. -/
theorem Steady.supply_eq
    {order : Order}
    {parameter : Parameter}
    {parameters : List Parameter}
    {arguments : List Argument}
    (steady : vantage.Steady (.supply order (parameter :: parameters) arguments) container)
    (resolve : Builder.Resolver κ χ) :
    Builder.supply vantage.toolkit resolve order.className parameter arguments.head? container =
      match vantage.provides ⟨order, parameter, parameters, arguments⟩ with
      | .service id =>
          (Builder.service resolve id >>= fun object => pure (Resolved.service object)) container
      | .value document => some (.ok (.value document), container)
      | .nothing =>
          some (.error (Builder.refusal order.className parameter arguments.head?), container) := by
  have supplied := Builder.supply_eq vantage.toolkit resolve order.className parameter
    arguments.head? container
  rw [steady _ _ .first] at supplied
  exact supplied

variable [LastingStore χ (Instance κ)]

omit [LastingStore χ (Instance κ)] in
/-- The container itself is what a forecast says. -/
theorem foretold_itself
    (fair : vantage.Fair)
    (coherent : vantage.Coherent container)
    {id : String}
    {answer : Option (Sketch κ τ)}
    {traces : List (Trace κ τ)}
    (forecast : Forecast vantage (.get id) answer traces)
    (itself : container.definitions.find? id = some .itself) :
    vantage.Foretold (.get id) container answer traces := by
  have course : vantage.course id = .ends (some vantage.itself) :=
    course_of_itself (coherent.definitions ▸ itself)
  obtain ⟨rfl, rfl⟩ := forecast.unique fair.blind (.answered course)
  refine ⟨1, some container.asInstance.1, container.asInstance.2,
    ⟨_, Container.get_own itself, rfl⟩, coherent.asInstance, .some ⟨?_, ?_⟩⟩
  · rw [Vantage.itself, ← coherent.grows.self]
    rfl
  · exact ⟨container.nextId, rfl⟩

/-- What is cached for an id is what a forecast says. -/
theorem foretold_cached
    (fair : vantage.Fair)
    (coherent : vantage.Coherent container)
    {id : String}
    {answer : Option (Sketch κ τ)}
    {traces : List (Trace κ τ)}
    (forecast : Forecast vantage (.get id) answer traces)
    (itself : container.definitions.find? id ≠ some .itself)
    {object : Instance κ}
    (found : container.found? (Key.service vantage.toolkit.digest id) = some object) :
    vantage.Foretold (.get id) container answer traces := by
  have lookedUp := coherent.lookedUp (Key.service vantage.toolkit.digest id)
  have ended :
      Container.get vantage.toolkit 1 id container =
        some (.ok object, container.lookedUp (Key.service vantage.toolkit.digest id)) := by
    rw [Container.get_other itself, found]
  rcases coherent.cached id object found with atStart | foreseen
  · have course := course_of_found (coherent.definitions ▸ itself) atStart
    obtain ⟨rfl, rfl⟩ := forecast.unique fair.blind (.answered course)
    exact ⟨1, some object, _, ⟨_, ended, rfl⟩, lookedUp,
      .some ⟨rfl, Container.Holds.cached atStart, rfl⟩⟩
  · obtain ⟨sketch, others, forecastToo, shown, covered⟩ := foreseen
    obtain ⟨rfl, rfl⟩ := forecast.unique fair.blind forecastToo
    exact ⟨1, some object, _, ⟨_, ended, rfl⟩,
      ((Progress.refl coherent).covering covered).then_step lookedUp,
      .some (shown.mono lookedUp.grows)⟩

/-- Resolving an id comes to what a forecast says if, on a miss of the cache, its definition
does. -/
theorem foretold_get
    (fair : vantage.Fair)
    (coherent : vantage.Coherent container)
    {id : String}
    {answer : Option (Sketch κ τ)}
    {traces : List (Trace κ τ)}
    (forecast : Forecast vantage (.get id) answer traces)
    (resolution :
      container.definitions.find? id ≠ some .itself →
      container.found? (Key.service vantage.toolkit.digest id) = none →
      vantage.course id = vantage.courseOf id (container.definitions.find? id) →
      ∃ fuel outcome between,
        Container.resolveDefinition vantage.toolkit (Container.get vantage.toolkit fuel) id
            (container.definitions.find? id)
            (container.lookedUp (Key.service vantage.toolkit.digest id)) =
          some (outcome, between) ∧
        vantage.Progress (container.lookedUp (Key.service vantage.toolkit.digest id)) between
          traces ∧
        Option.Rel (Sketch.Shows vantage between) answer outcome.toOption) :
    vantage.Foretold (.get id) container answer traces := by
  by_cases itself : container.definitions.find? id = some .itself
  · exact foretold_itself fair coherent forecast itself
  · cases found : container.found? (Key.service vantage.toolkit.digest id) with
    | some object => exact foretold_cached fair coherent forecast itself found
    | none =>
        have missed := coherent.found?_start found
        have course := course_of_miss (coherent.definitions ▸ itself) missed
        rw [← coherent.definitions] at course
        obtain ⟨fuel, outcome, between, resolved, progress, shown⟩ :=
          resolution itself found course
        have advanced :=
          (coherent.lookedUp (Key.service vantage.toolkit.digest id)).trans progress
        cases outcome with
        | error cause =>
            cases shown
            refine ⟨fuel + 1, none, between, ⟨.error (.notFound id cause), ?_, rfl⟩, advanced,
              .none⟩
            rw [Container.get_other itself, found]
            exact Attempt.bind_eq_some.mpr
              (.inl ⟨_, Attempt.mapError_eq_error.mpr ⟨cause, resolved, rfl⟩, rfl⟩)
        | ok object =>
            cases shown with
            | @some sketch _ shown =>
                have goes := progress.coherent.stops.trans fair.goes
                have kept := progress.coherent.keeping fair missed
                  ⟨sketch, traces, forecast, shown, progress.covered⟩
                refine ⟨fuel + 1, some object,
                  between.keeping (Key.service vantage.toolkit.digest id) object,
                  ⟨.ok object, ?_, rfl⟩, ?_, .some (shown.mono kept.grows)⟩
                · rw [Container.get_of_resolved itself found resolved, if_neg (by simp [goes])]
                · exact advanced.then_step kept

/-- What is said of the inquiry comes true in every container that is coherent with the start, as
long as parameters are supplied with what the vantage says. -/
def Fulfils
    (vantage : Vantage κ χ τ)
    (inquiry : Inquiry)
    (answer : Option (inquiry.Answer κ τ))
    (traces : List (Trace κ τ)) :
    Prop :=
  ∀ container,
    vantage.Coherent container →
      vantage.IsGiven inquiry →
      vantage.Steady inquiry container →
      vantage.Foretold inquiry container answer traces

namespace Fulfils

theorem answered
    (fair : vantage.Fair)
    {id : String}
    {answer : Option (Sketch κ τ)}
    (course : vantage.course id = .ends answer) :
    vantage.Fulfils (.get id) answer [] := by
  intro container coherent _ _
  refine foretold_get fair coherent (.answered course) ?_
  intro itself miss leads
  rw [leads] at course
  have lookedUp := (coherent.lookedUp (Key.service vantage.toolkit.digest id)).coherent
  obtain ⟨outcome, resolved, shown⟩ :=
    resolveDefinition_of_ends lookedUp itself course (Container.get vantage.toolkit 0)
  exact ⟨0, outcome, _, resolved, .refl lookedUp, shown⟩

theorem followed
    (fair : vantage.Fair)
    {id target : String}
    {answer : Option (Sketch κ τ)}
    {traces : List (Trace κ τ)}
    (course : vantage.course id = .follows target)
    (forecast : Forecast vantage (.get target) answer traces)
    (fulfils : vantage.Fulfils (.get target) answer traces) :
    vantage.Fulfils (.get id) answer traces := by
  intro container coherent _ steady
  refine foretold_get fair coherent (.followed course forecast) ?_
  intro itself miss leads
  rw [leads] at course
  obtain ⟨defined, acyclic⟩ := courseOf_eq_follows course
  rw [← coherent.definitions] at acyclic
  obtain ⟨fuel, result, after, ⟨outcome, ended, rfl⟩, progress, shown⟩ :=
    fulfils _ (coherent.lookedUp (Key.service vantage.toolkit.digest id)).coherent trivial
      fun _ _ supplies => steady _ _ (.followed defined miss acyclic supplies)
  refine ⟨fuel, outcome.mapError .container, after, ?_, progress, ?_⟩
  · rw [defined]
    exact (Container.resolveDefinition_of_alias (by exact acyclic)).trans
      (Attempt.mapError_eq_some.mpr ⟨outcome, ended, rfl⟩)
  · cases outcome <;> exact shown

theorem ordered
    (fair : vantage.Fair)
    {id : String}
    {order : Order}
    {answer : Option (Sketch κ τ)}
    {traces : List (Trace κ τ)}
    (course : vantage.course id = .builds order)
    (forecast : Forecast vantage (.build order) answer traces)
    (fulfils : vantage.Fulfils (.build order) answer traces) :
    vantage.Fulfils (.get id) answer traces := by
  intro container coherent _ steady
  refine foretold_get fair coherent (.ordered course forecast) ?_
  intro itself miss leads
  rw [leads] at course
  have asked := courseOf_eq_builds course
  obtain ⟨fuel, result, after, ⟨outcome, ended, rfl⟩, progress, shown⟩ :=
    fulfils _ (coherent.lookedUp (Key.service vantage.toolkit.digest id)).coherent
      ⟨id, coherent.definitions ▸ asked⟩
      fun _ _ supplies => steady _ _ (.ordered asked miss supplies)
  refine ⟨fuel, outcome.mapError .build, after, ?_, progress, ?_⟩
  · rw [Container.resolveDefinition_of_order asked]
    exact Attempt.mapError_eq_some.mpr ⟨outcome, ended, rfl⟩
  · cases outcome <;> exact shown

omit [LastingStore χ (Instance κ)] in
theorem settled
    (fair : vantage.Fair)
    {order : Order}
    {answer : Option (Sketch κ τ)}
    (plan : vantage.plan order = .ends answer) :
    vantage.Fulfils (.build order) answer [] := by
  intro container coherent gives _
  rcases plan_eq_ends plan with ⟨object, atStart, _⟩ | ⟨refusal, refused, rfl⟩
  · exact foretold_remembered fair coherent gives (.settled plan)
      (coherent.grows.memo _ _ atStart)
  · refine foretold_build fair coherent gives none (.settled plan) ?_
    intro miss
    refine ⟨0, .error refusal, container, ?_, .refl coherent, rfl⟩
    rw [Builder.assemble_eq, refused]
    rfl

omit [LastingStore χ (Instance κ)] in
theorem unsupplied
    (fair : vantage.Fair)
    {order : Order}
    {recipe : Recipe κ}
    {traces : List (Trace κ τ)}
    (plan : vantage.plan order = .recipe recipe)
    (forecast : Forecast vantage (.supply order recipe.parameters order.arguments) none traces)
    (fulfils : vantage.Fulfils (.supply order recipe.parameters order.arguments) none traces) :
    vantage.Fulfils (.build order) none traces := by
  intro container coherent gives steady
  refine foretold_build fair coherent gives none (.unsupplied plan forecast) ?_
  intro miss
  have known := (plan_eq_recipe plan).2
  obtain ⟨fuel, result, after, ⟨outcome, ended, rfl⟩, progress, shown⟩ :=
    fulfils _ coherent trivial fun _ _ supplies => steady _ _ (.recipe known miss supplies)
  cases outcome with
  | ok arguments => cases shown
  | error error =>
      refine ⟨fuel, .error error, after, ?_, progress, rfl⟩
      rw [Builder.assemble_eq, known]
      exact Attempt.bind_eq_some.mpr (.inl ⟨error, ended, rfl⟩)

omit [LastingStore χ (Instance κ)] in
theorem ran
    (fair : vantage.Fair)
    {order : Order}
    {recipe : Recipe κ}
    {outline : Outline κ τ}
    {traces : List (Trace κ τ)}
    {arguments : Arguments κ}
    {made : Option (Product τ)}
    (plan : vantage.plan order = .recipe recipe)
    (forecast :
      Forecast vantage (.supply order recipe.parameters order.arguments) (some outline) traces)
    (seen : arguments.seen vantage.view = outline.seen)
    (makes : (recipe.maker arguments).toOption.map (Product.seen vantage.view) = made)
    (fulfils :
      vantage.Fulfils (.supply order recipe.parameters order.arguments) (some outline) traces) :
    vantage.Fulfils (.build order) (made.map (Sketch.mk (.built order)))
      (traces ++ [{ origin := order.origin, arguments := outline, made := made }]) := by
  intro container coherent gives steady
  refine foretold_build fair coherent gives made (.ran plan forecast seen makes) ?_
  intro miss
  have known := (plan_eq_recipe plan).2
  obtain ⟨fuel, result, between, ⟨outcome, ended, rfl⟩, progress, shown⟩ :=
    fulfils _ coherent trivial fun _ _ supplies => steady _ _ (.recipe known miss supplies)
  cases outcome with
  | error error => cases shown
  | ok resolved =>
      cases shown with
      | some shown =>
          obtain ⟨outcome, after, ran, same, step⟩ :=
            progress.coherent.make shown order.origin order.title recipe.maker
          -- the maker is blind, so it does not matter which arguments the forecast had
          have sameMade := fair.blind order recipe known _ _ (shown.seen.trans seen.symm)
          rw [sameMade, makes] at same step
          refine ⟨fuel, outcome, after, ?_, progress.trans step, same⟩
          rw [Builder.assemble_eq, known]
          exact Attempt.bind_eq_some.mpr (.inr ⟨resolved, between, ended, ran⟩)

omit [LastingStore χ (Instance κ)] in
theorem done
    (order : Order)
    (arguments : List Argument) :
    vantage.Fulfils (.supply order [] arguments) (some []) [] :=
  fun container coherent _ _ =>
    ⟨0, some [], container, ⟨.ok [], rfl, rfl⟩, .refl coherent, .some .nil⟩

section

variable
  {order : Order}
  {parameter : Parameter}
  {parameters : List Parameter}
  {arguments : List Argument}
  {traces : List (Trace κ τ)}

omit [LastingStore χ (Instance κ)] in
theorem value
    {document : Json.Value}
    {outline : Option (Outline κ τ)}
    (provided : vantage.provides ⟨order, parameter, parameters, arguments⟩ = .value document)
    (fulfils : vantage.Fulfils (.supply order parameters arguments.tail) outline traces) :
    vantage.Fulfils (.supply order (parameter :: parameters) arguments)
      (outline.map (List.cons (parameter.name, .inl document))) traces := by
  intro container coherent _ steady
  have supplied (fuel : Nat) :
      Builder.supply vantage.toolkit (Container.get vantage.toolkit fuel) order.className
          parameter arguments.head? container =
        some (.ok (.value document), container) := by
    rw [steady.supply_eq, provided]
  obtain ⟨fuel, result, after, ⟨outcome, ended, rfl⟩, progress, shown⟩ :=
    fulfils _ coherent trivial fun _ _ supplies => steady _ _ (.later (supplied 0) supplies)
  exact ⟨fuel, _, after, ⟨_, Builder.supplyAll_of_supplied (supplied fuel) ended, rfl⟩,
    progress, rel_cons (.value parameter.name document) shown⟩

omit [LastingStore χ (Instance κ)] in
theorem service
    {id : String}
    {sketch : Sketch κ τ}
    {outline : Option (Outline κ τ)}
    {others : List (Trace κ τ)}
    (provided : vantage.provides ⟨order, parameter, parameters, arguments⟩ = .service id)
    (served : vantage.Fulfils (.get id) (some sketch) traces)
    (fulfils : vantage.Fulfils (.supply order parameters arguments.tail) outline others) :
    vantage.Fulfils (.supply order (parameter :: parameters) arguments)
      (outline.map (List.cons (parameter.name, .inr sketch))) (traces ++ others) := by
  intro container coherent _ steady
  have provisioned := (steady _ _ .first).trans provided
  obtain ⟨fuel, result, between, ⟨outcome, ended, rfl⟩, progress, shown⟩ :=
    served _ coherent trivial fun _ _ supplies => steady _ _ (.service provisioned supplies)
  cases outcome with
  | error error => cases shown
  | ok object =>
      have supplied
          {more : Nat}
          (enough : fuel ≤ more) :
          Builder.supply vantage.toolkit (Container.get vantage.toolkit more) order.className
              parameter arguments.head? container =
            some (.ok (.service object), between) := by
        rw [steady.supply_eq, provided]
        exact Attempt.bind_eq_ok.mpr ⟨object, between,
          Attempt.mapError_eq_ok.mpr (Container.get_extends _ enough id _ _ ended), rfl⟩
      obtain ⟨fuelToo, resultToo, after, ends, progressToo, shownToo⟩ :=
        fulfils _ progress.coherent trivial
          fun _ _ supplies => steady _ _ (.later (supplied (Nat.le_refl fuel)) supplies)
      obtain ⟨outcome, endedToo, rfl⟩ := ends.mono (Nat.le_max_right fuel fuelToo)
      cases shown with
      | some shown =>
          exact ⟨max fuel fuelToo, _, after,
            ⟨_, Builder.supplyAll_of_supplied (supplied (Nat.le_max_left fuel fuelToo)) endedToo,
              rfl⟩,
            progress.trans progressToo,
            rel_cons (.service parameter.name (shown.mono progressToo.grows)) shownToo⟩

omit [LastingStore χ (Instance κ)] in
theorem unserved
    {id : String}
    (provided : vantage.provides ⟨order, parameter, parameters, arguments⟩ = .service id)
    (served : vantage.Fulfils (.get id) none traces) :
    vantage.Fulfils (.supply order (parameter :: parameters) arguments) none traces := by
  intro container coherent _ steady
  have provisioned := (steady _ _ .first).trans provided
  obtain ⟨fuel, result, after, ⟨outcome, ended, rfl⟩, progress, shown⟩ :=
    served _ coherent trivial fun _ _ supplies => steady _ _ (.service provisioned supplies)
  cases outcome with
  | ok object => cases shown
  | error error =>
      have refused :
          Builder.supply vantage.toolkit (Container.get vantage.toolkit fuel) order.className
              parameter arguments.head? container =
            some (.error (.service id error), after) := by
        rw [steady.supply_eq, provided]
        exact Attempt.bind_eq_some.mpr
          (.inl ⟨_, Attempt.mapError_eq_error.mpr ⟨error, ended, rfl⟩, rfl⟩)
      exact ⟨fuel, none, after, ⟨_, Builder.supplyAll_of_refused refused, rfl⟩, progress, .none⟩

omit [LastingStore χ (Instance κ)] in
theorem nothing
    (provided : vantage.provides ⟨order, parameter, parameters, arguments⟩ = .nothing) :
    vantage.Fulfils (.supply order (parameter :: parameters) arguments) none [] := by
  intro container coherent _ steady
  have refused :
      Builder.supply vantage.toolkit (Container.get vantage.toolkit 0) order.className parameter
          arguments.head? container =
        some (.error (Builder.refusal order.className parameter arguments.head?), container) := by
    rw [steady.supply_eq, provided]
  exact ⟨0, none, container, ⟨_, Builder.supplyAll_of_refused refused, rfl⟩, .refl coherent, .none⟩

end

end Fulfils

end

end Vantage

/-- Every forecast comes true. -/
theorem Forecast.comes_true
    [LastingStore χ (Instance κ)]
    {vantage : Vantage κ χ τ}
    (fair : vantage.Fair)
    {inquiry : Inquiry}
    {answer : Option (inquiry.Answer κ τ)}
    {traces : List (Trace κ τ)}
    (forecast : Forecast vantage inquiry answer traces) :
    vantage.Fulfils inquiry answer traces := by
  induction forecast with
  | answered course => exact .answered fair course
  | followed course resolved inductionHypothesis =>
      exact .followed fair course resolved inductionHypothesis
  | ordered course built inductionHypothesis =>
      exact .ordered fair course built inductionHypothesis
  | settled plan => exact .settled fair plan
  | unsupplied plan supplied inductionHypothesis =>
      exact .unsupplied fair plan supplied inductionHypothesis
  | ran plan supplied seen makes inductionHypothesis =>
      exact .ran fair plan supplied seen makes inductionHypothesis
  | done => exact .done _ _
  | value provided _ inductionHypothesis => exact .value provided inductionHypothesis
  | service provided _ _ served inductionHypothesis =>
      exact .service provided served inductionHypothesis
  | unserved provided _ inductionHypothesis => exact .unserved provided inductionHypothesis
  | nothing provided => exact .nothing provided

end Switchboard
