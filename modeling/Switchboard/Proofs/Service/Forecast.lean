import Switchboard.Proofs.Service.Fuel
import Switchboard.Proofs.Service.Likeness

namespace Switchboard

/-!
# Forecasts

What resolving an id comes to can be told from the container at the start and from what the
parameters of orders are supplied with.  A forecast tells it, down to the runs of constructors and
factories, without ever storing anything on the way.  `Forecast.unique` says that there is at most
one.
-/

variable {κ χ τ : Type} [CacheStore χ (Instance κ)]

namespace Builder

/-- What a parameter with or without an argument is supplied with, as the container stands. -/
def provision
    (toolkit : Toolkit κ)
    (container : Container κ χ)
    (parameter : Parameter) :
    Option Argument → Provision
  | some (.literal document) => .value document
  | some (.env name) =>
      match toolkit.environment name with
      | some text => .value (.string text)
      | none => .nothing
  | some (.service id) => .service id
  | none =>
      match Supply.choose toolkit container parameter with
      | .byService id => .service id
      | .byFallback document => .value document
      | .byNothing => .nothing

/-- Why a parameter is not supplied with anything. -/
def refusal (className : String) (parameter : Parameter) : Option Argument → BuildError
  | some (.env name) => .missingVariable name
  | _ => .unresolvedDependency className parameter.name

/-- To supply a parameter is to give it what it is provided with. -/
theorem supply_eq
    (toolkit : Toolkit κ)
    (resolve : Resolver κ χ)
    (className : String)
    (parameter : Parameter)
    (argument : Option Argument)
    (container : Container κ χ) :
    supply toolkit resolve className parameter argument container =
      match provision toolkit container parameter argument with
      | .service id =>
          (service resolve id >>= fun object => pure (Resolved.service object)) container
      | .value document => some (.ok (.value document), container)
      | .nothing => some (.error (refusal className parameter argument), container) := by
  cases argument with
  | some argument =>
      cases argument with
      | literal value => rfl
      | env name =>
          simp only [supply, resolveArgument, provision]
          cases toolkit.environment name with
          | some text => rfl
          | none => rfl
      | service id => rfl
  | none =>
      simp only [supply, Attempt.reading_bind, provision]
      cases Supply.choose toolkit container parameter with
      | byService id => rfl
      | byFallback value => rfl
      | byNothing => rfl

end Builder

/-- What can be asked of a container: for the service of an id, for the object of an order, or
for whatever supplies some parameters of an order. -/
inductive Inquiry where
  | get (id : String)
  | build (order : Order)
  | supply (order : Order) (parameters : List Parameter) (arguments : List Argument)

namespace Inquiry

/-- What answers an inquiry. -/
abbrev Result (κ : Type) : Inquiry → Type
  | .get _ => Instance κ
  | .build _ => Instance κ
  | .supply _ _ _ => Arguments κ

/-- What a forecast says of the answer. -/
abbrev Answer (κ τ : Type) : Inquiry → Type
  | .get _ => Sketch κ τ
  | .build _ => Sketch κ τ
  | .supply _ _ _ => Outline κ τ

/-- With this much fuel, the inquiry is answered or fails, and leaves a container. -/
def Ends
    (toolkit : Toolkit κ)
    (fuel : Nat)
    (before after : Container κ χ) :
    (inquiry : Inquiry) → Option (inquiry.Result κ) → Prop
  | .get id, result =>
      ∃ outcome, Container.get toolkit fuel id before = some (outcome, after) ∧
        outcome.toOption = result
  | .build order, result =>
      ∃ outcome, Builder.build toolkit (Container.get toolkit fuel) order before =
          some (outcome, after) ∧
        outcome.toOption = result
  | .supply order parameters arguments, result =>
      ∃ outcome, Builder.supplyAll toolkit (Container.get toolkit fuel) order.className parameters
          arguments before = some (outcome, after) ∧
        outcome.toOption = result

/-- In the container, the answer is as the forecast says. -/
def Shows
    (vantage : Vantage κ χ τ)
    (container : Container κ χ) :
    (inquiry : Inquiry) → inquiry.Answer κ τ → inquiry.Result κ → Prop
  | .get _ => Sketch.Shows vantage container
  | .build _ => Sketch.Shows vantage container
  | .supply _ _ _ => Outline.Shows vantage container

theorem Shows.mono
    {vantage : Vantage κ χ τ}
    {before after : Container κ χ}
    {inquiry : Inquiry}
    {answer : inquiry.Answer κ τ}
    {result : inquiry.Result κ}
    (shown : inquiry.Shows vantage before answer result)
    (grows : before.Grows after) :
    inquiry.Shows vantage after answer result := by
  cases inquiry with
  | get id => exact Sketch.Shows.mono shown grows
  | build order => exact Sketch.Shows.mono shown grows
  | supply order parameters arguments => exact Outline.Shows.mono shown grows

theorem Ends.mono
    {toolkit : Toolkit κ}
    {fuel more : Nat}
    {before after : Container κ χ}
    {inquiry : Inquiry}
    {result : Option (inquiry.Result κ)}
    (ends : inquiry.Ends toolkit fuel before after result)
    (enough : fuel ≤ more) :
    inquiry.Ends toolkit more before after result := by
  have further := Container.get_extends (χ := χ) toolkit enough
  cases inquiry with
  | get id =>
      obtain ⟨outcome, ended, same⟩ := ends
      exact ⟨outcome, further id _ _ ended, same⟩
  | build order =>
      obtain ⟨outcome, ended, same⟩ := ends
      exact ⟨outcome, Builder.build_extends further toolkit order _ _ ended, same⟩
  | supply order parameters arguments =>
      obtain ⟨outcome, ended, same⟩ := ends
      exact ⟨outcome,
        Builder.supplyAll_extends further toolkit order.className parameters arguments _ _ ended,
          same⟩

/-- Whatever fuel it had, an inquiry ends in one way only. -/
theorem Ends.unique
    {toolkit : Toolkit κ}
    {fuel other : Nat}
    {before first second : Container κ χ}
    {inquiry : Inquiry}
    {result resultToo : Option (inquiry.Result κ)}
    (ends : inquiry.Ends toolkit fuel before first result)
    (endsToo : inquiry.Ends toolkit other before second resultToo) :
    result = resultToo ∧ first = second := by
  have longer := ends.mono (Nat.le_max_left fuel other)
  have longerToo := endsToo.mono (Nat.le_max_right fuel other)
  cases inquiry <;>
    · obtain ⟨outcome, ended, rfl⟩ := longer
      obtain ⟨outcomeToo, endedToo, rfl⟩ := longerToo
      cases ended.symm.trans endedToo
      exact ⟨rfl, rfl⟩

/-- In the course of an inquiry, a parameter is to be supplied in the container as it stands by
then. -/
inductive Supplies (toolkit : Toolkit κ) :
    Inquiry → Container κ χ → Slot → Container κ χ → Prop
  /-- An alias leads to its target. -/
  | followed
      {id target : String}
      {container moment : Container κ χ}
      {slot : Slot}
      (defined : container.definitions.find? id = some (.aliasOf target))
      (miss : container.found? (Key.service toolkit.digest id) = none)
      (acyclic :
        Container.aliasCycle? container.definitions (container.definitions.size + 1)
          [id] target = none)
      (supplies :
        Supplies toolkit (.get target) (container.lookedUp (Key.service toolkit.digest id))
          slot moment) :
      Supplies toolkit (.get id) container slot moment
  /-- An id leads to an order. -/
  | ordered
      {id : String}
      {order : Order}
      {container moment : Container κ χ}
      {slot : Slot}
      (asked : Container.orderOf? id (container.definitions.find? id) = some order)
      (miss : container.found? (Key.service toolkit.digest id) = none)
      (supplies :
        Supplies toolkit (.build order) (container.lookedUp (Key.service toolkit.digest id))
          slot moment) :
      Supplies toolkit (.get id) container slot moment
  /-- An order leads to the parameters of what it runs. -/
  | recipe
      {order : Order}
      {recipe : Recipe κ}
      {container moment : Container κ χ}
      {slot : Slot}
      (known : order.recipe toolkit.registry = .ok recipe)
      (miss : container.memo.find? (order.key toolkit.digest) = none)
      (supplies :
        Supplies toolkit (.supply order recipe.parameters order.arguments) container slot
          moment) :
      Supplies toolkit (.build order) container slot moment
  /-- The first parameter is to be supplied. -/
  | first
      {order : Order}
      {parameter : Parameter}
      {parameters : List Parameter}
      {arguments : List Argument}
      {container : Container κ χ} :
      Supplies toolkit (.supply order (parameter :: parameters) arguments) container
        ⟨order, parameter, parameters, arguments⟩ container
  /-- The first parameter leads to a service. -/
  | service
      {order : Order}
      {id : String}
      {parameter : Parameter}
      {parameters : List Parameter}
      {arguments : List Argument}
      {container moment : Container κ χ}
      {slot : Slot}
      (provided :
        Builder.provision toolkit container parameter arguments.head? = .service id)
      (supplies : Supplies toolkit (.get id) container slot moment) :
      Supplies toolkit (.supply order (parameter :: parameters) arguments) container slot moment
  /-- After the first parameter, the other ones are supplied. -/
  | later
      {order : Order}
      {parameter : Parameter}
      {parameters : List Parameter}
      {arguments : List Argument}
      {container between moment : Container κ χ}
      {slot : Slot}
      {fuel : Nat}
      {resolved : Resolved κ}
      (supplied :
        Builder.supply toolkit (Container.get toolkit fuel) order.className parameter
          arguments.head? container = some (.ok resolved, between))
      (supplies :
        Supplies toolkit (.supply order parameters arguments.tail) between slot moment) :
      Supplies toolkit (.supply order (parameter :: parameters) arguments) container slot moment

end Inquiry

/-- Where an inquiry for an id leads. -/
inductive Course (κ τ : Type) where
  /-- To an answer, or to a failure. -/
  | ends (answer : Option (Sketch κ τ))
  /-- To the target of an alias. -/
  | follows (target : String)
  /-- To an order. -/
  | builds (order : Order)

/-- Where an inquiry for the object of an order leads. -/
inductive Plan (κ τ : Type) where
  /-- To an answer, or to a failure. -/
  | ends (answer : Option (Sketch κ τ))
  /-- To what the order runs. -/
  | recipe (recipe : Recipe κ)

namespace Vantage

variable (vantage : Vantage κ χ τ)

omit [CacheStore χ (Instance κ)] in
/-- What can be said of an object that the container had at the start. -/
def held (object : Instance κ) : Sketch κ τ :=
  { source := .held object, product := object.seen vantage.view }

omit [CacheStore χ (Instance κ)] in
/-- What can be said of the container itself. -/
def itself : Sketch κ τ :=
  { source := .itself
    product := (Product.plain Container.ownType vantage.start.self).seen vantage.view }

omit [CacheStore χ (Instance κ)] in
/-- Where the definition of an id leads, or its absence. -/
def courseOf (id : String) : Option (Definition κ) → Course κ τ
  | some (.aliasOf target) =>
      match Container.aliasCycle? vantage.start.definitions
          (vantage.start.definitions.size + 1) [id] target with
      | some _ => .ends none
      | none => .follows target
  | some (.prebuilt object) => .ends (some (vantage.held object))
  | some .itself => .ends (some vantage.itself)
  | some (.ofClass className arguments) => .builds (.ofClass className arguments)
  | some (.ofFactory className method arguments) => .builds (.ofFactory className method arguments)
  | none => .builds (.ofClass id [])

/-- Where an id leads at the start. -/
def course (id : String) : Course κ τ :=
  match vantage.start.definitions.find? id with
  | some .itself => .ends (some vantage.itself)
  | definition =>
      match vantage.start.found? (Key.service vantage.toolkit.digest id) with
      | some object => .ends (some (vantage.held object))
      | none => vantage.courseOf id definition

omit [CacheStore χ (Instance κ)] in
/-- Where an order leads at the start. -/
def plan (order : Order) : Plan κ τ :=
  match vantage.start.memo.find? (order.key vantage.toolkit.digest) with
  | some object => .ends (some (vantage.held object))
  | none =>
      match order.recipe vantage.toolkit.registry with
      | .error _ => .ends none
      | .ok recipe => .recipe recipe

/-- In the course of the inquiry, every parameter is supplied with what the vantage says. -/
def Steady (inquiry : Inquiry) (container : Container κ χ) : Prop :=
  ∀ slot moment,
    inquiry.Supplies vantage.toolkit container slot moment →
      Builder.provision vantage.toolkit moment slot.parameter slot.arguments.head? =
        vantage.provides slot

end Vantage

/-- What an inquiry comes to, and the runs of constructors and factories that it takes, as far as
the vantage tells. -/
inductive Forecast (vantage : Vantage κ χ τ) :
    (inquiry : Inquiry) → Option (inquiry.Answer κ τ) → List (Trace κ τ) → Prop
  /-- The id leads to an answer or to a failure. -/
  | answered
      {id : String}
      {answer : Option (Sketch κ τ)}
      (course : vantage.course id = .ends answer) :
      Forecast vantage (.get id) answer []
  /-- The id leads to another one. -/
  | followed
      {id target : String}
      {answer : Option (Sketch κ τ)}
      {traces : List (Trace κ τ)}
      (course : vantage.course id = .follows target)
      (resolved : Forecast vantage (.get target) answer traces) :
      Forecast vantage (.get id) answer traces
  /-- The id leads to an order. -/
  | ordered
      {id : String}
      {order : Order}
      {answer : Option (Sketch κ τ)}
      {traces : List (Trace κ τ)}
      (course : vantage.course id = .builds order)
      (built : Forecast vantage (.build order) answer traces) :
      Forecast vantage (.get id) answer traces
  /-- The object of the order is remembered, or the order is refused. -/
  | settled
      {order : Order}
      {answer : Option (Sketch κ τ)}
      (plan : vantage.plan order = .ends answer) :
      Forecast vantage (.build order) answer []
  /-- The parameters of the recipe cannot be supplied. -/
  | unsupplied
      {order : Order}
      {recipe : Recipe κ}
      {traces : List (Trace κ τ)}
      (plan : vantage.plan order = .recipe recipe)
      (supplied :
        Forecast vantage (.supply order recipe.parameters order.arguments) none
          traces) :
      Forecast vantage (.build order) none traces
  /-- The constructor or factory runs, and succeeds or fails. -/
  | ran
      {order : Order}
      {recipe : Recipe κ}
      {outline : Outline κ τ}
      {traces : List (Trace κ τ)}
      {arguments : Arguments κ}
      {made : Option (Product τ)}
      (plan : vantage.plan order = .recipe recipe)
      (supplied :
        Forecast vantage (.supply order recipe.parameters order.arguments)
          (some outline) traces)
      (seen : arguments.seen vantage.view = outline.seen)
      (makes : (recipe.maker arguments).toOption.map (Product.seen vantage.view) = made) :
      Forecast vantage (.build order) (made.map (Sketch.mk (.built order)))
        (traces ++ [{ origin := order.origin, arguments := outline, made := made }])
  /-- There are no parameters. -/
  | done
      {order : Order}
      {arguments : List Argument} :
      Forecast vantage (.supply order [] arguments) (some []) []
  /-- The first parameter is supplied with a value. -/
  | value
      {order : Order}
      {parameter : Parameter}
      {parameters : List Parameter}
      {arguments : List Argument}
      {document : Json.Value}
      {outline : Option (Outline κ τ)}
      {traces : List (Trace κ τ)}
      (provided : vantage.provides ⟨order, parameter, parameters, arguments⟩ = .value document)
      (rest : Forecast vantage (.supply order parameters arguments.tail) outline traces) :
      Forecast vantage (.supply order (parameter :: parameters) arguments)
        (outline.map (List.cons (parameter.name, .inl document))) traces
  /-- The first parameter is supplied with a service. -/
  | service
      {order : Order}
      {id : String}
      {parameter : Parameter}
      {parameters : List Parameter}
      {arguments : List Argument}
      {sketch : Sketch κ τ}
      {outline : Option (Outline κ τ)}
      {traces others : List (Trace κ τ)}
      (provided : vantage.provides ⟨order, parameter, parameters, arguments⟩ = .service id)
      (resolved : Forecast vantage (.get id) (some sketch) traces)
      (rest : Forecast vantage (.supply order parameters arguments.tail) outline others) :
      Forecast vantage (.supply order (parameter :: parameters) arguments)
        (outline.map (List.cons (parameter.name, .inr sketch))) (traces ++ others)
  /-- The service of the first parameter cannot be resolved. -/
  | unserved
      {order : Order}
      {id : String}
      {parameter : Parameter}
      {parameters : List Parameter}
      {arguments : List Argument}
      {traces : List (Trace κ τ)}
      (provided : vantage.provides ⟨order, parameter, parameters, arguments⟩ = .service id)
      (resolved : Forecast vantage (.get id) none traces) :
      Forecast vantage (.supply order (parameter :: parameters) arguments) none traces
  /-- Nothing supplies the first parameter. -/
  | nothing
      {order : Order}
      {parameter : Parameter}
      {parameters : List Parameter}
      {arguments : List Argument}
      (provided : vantage.provides ⟨order, parameter, parameters, arguments⟩ = .nothing) :
      Forecast vantage (.supply order (parameter :: parameters) arguments) none []

/-- The constructors and factories that orders can run are blind to what the view does not show. -/
def Vantage.Blind (vantage : Vantage κ χ τ) : Prop :=
  ∀ order recipe,
    Order.recipe vantage.toolkit.registry order = .ok recipe → recipe.maker.Blind vantage.view

namespace Vantage

variable {vantage : Vantage κ χ τ}

theorem course_of_itself
    {id : String}
    (itself : vantage.start.definitions.find? id = some .itself) :
    vantage.course id = .ends (some vantage.itself) := by
  unfold course
  rw [itself]

/-- Any other id leads to what is cached for it, or to where its definition leads. -/
theorem course_of_other
    {id : String}
    (defined : vantage.start.definitions.find? id ≠ some .itself) :
    vantage.course id =
      match vantage.start.found? (Key.service vantage.toolkit.digest id) with
      | some object => .ends (some (vantage.held object))
      | none => vantage.courseOf id (vantage.start.definitions.find? id) := by
  unfold course
  generalize vantage.start.definitions.find? id = definition at defined
  cases definition with
  | none => rfl
  | some definition =>
      cases definition with
      | itself => exact absurd rfl defined
      | _ => rfl

theorem course_of_found
    {id : String}
    {object : Instance κ}
    (defined : vantage.start.definitions.find? id ≠ some .itself)
    (hit : vantage.start.found? (Key.service vantage.toolkit.digest id) = some object) :
    vantage.course id = .ends (some (vantage.held object)) := by
  rw [course_of_other defined, hit]

theorem course_of_miss
    {id : String}
    (defined : vantage.start.definitions.find? id ≠ some .itself)
    (miss : vantage.start.found? (Key.service vantage.toolkit.digest id) = none) :
    vantage.course id = vantage.courseOf id (vantage.start.definitions.find? id) := by
  rw [course_of_other defined, miss]

omit [CacheStore χ (Instance κ)] in
/-- A definition that leads to an order is the one that asks for it. -/
theorem courseOf_of_builds
    {id : String}
    {definition : Option (Definition κ)}
    {order : Order}
    (asked : Container.orderOf? id definition = some order) :
    vantage.courseOf id definition = .builds order := by
  cases definition with
  | none =>
      cases asked
      rfl
  | some definition => cases definition <;> cases asked <;> rfl

omit [CacheStore χ (Instance κ)] in
theorem courseOf_of_follows
    {id target : String}
    (acyclic :
      Container.aliasCycle? vantage.start.definitions
        (vantage.start.definitions.size + 1) [id] target = none) :
    vantage.courseOf id (some (.aliasOf target)) = .follows target := by
  simp only [courseOf, acyclic]

omit [CacheStore χ (Instance κ)] in
theorem courseOf_of_cycle
    {id target : String}
    {chain : List String}
    (cyclic :
      Container.aliasCycle? vantage.start.definitions
        (vantage.start.definitions.size + 1) [id] target = some chain) :
    vantage.courseOf id (some (.aliasOf target)) = .ends none := by
  simp only [courseOf, cyclic]

omit [CacheStore χ (Instance κ)] in
theorem courseOf_eq_follows
    {id target : String}
    {definition : Option (Definition κ)}
    (course : vantage.courseOf id definition = .follows target) :
    definition = some (.aliasOf target) ∧
      Container.aliasCycle? vantage.start.definitions
        (vantage.start.definitions.size + 1) [id] target = none := by
  unfold courseOf at course
  split at course
  · split at course
    · cases course
    · cases course
      exact ⟨rfl, ‹_›⟩
  all_goals cases course

omit [CacheStore χ (Instance κ)] in
theorem courseOf_eq_builds
    {id : String}
    {order : Order}
    {definition : Option (Definition κ)}
    (course : vantage.courseOf id definition = .builds order) :
    Container.orderOf? id definition = some order := by
  unfold courseOf at course
  split at course
  · split at course <;> cases course
  all_goals
    cases course
    try rfl

omit [CacheStore χ (Instance κ)] in
theorem plan_of_remembered
    {order : Order}
    {object : Instance κ}
    (hit : vantage.start.memo.find? (order.key vantage.toolkit.digest) = some object) :
    vantage.plan order = .ends (some (vantage.held object)) := by
  unfold plan
  rw [hit]

omit [CacheStore χ (Instance κ)] in
theorem plan_of_refused
    {order : Order}
    {refusal : BuildError}
    (miss : vantage.start.memo.find? (order.key vantage.toolkit.digest) = none)
    (refused : order.recipe vantage.toolkit.registry = .error refusal) :
    vantage.plan order = .ends none := by
  unfold plan
  rw [miss, refused]

omit [CacheStore χ (Instance κ)] in
theorem plan_of_known
    {order : Order}
    {recipe : Recipe κ}
    (miss : vantage.start.memo.find? (order.key vantage.toolkit.digest) = none)
    (known : order.recipe vantage.toolkit.registry = .ok recipe) :
    vantage.plan order = .recipe recipe := by
  unfold plan
  rw [miss, known]

omit [CacheStore χ (Instance κ)] in
/-- An order that leads to a recipe has it, and nothing is remembered for it at the start. -/
theorem plan_eq_recipe
    {order : Order}
    {recipe : Recipe κ}
    (planned : vantage.plan order = .recipe recipe) :
    vantage.start.memo.find? (order.key vantage.toolkit.digest) = none ∧
      order.recipe vantage.toolkit.registry = .ok recipe := by
  unfold plan at planned
  cases entry : vantage.start.memo.find? (order.key vantage.toolkit.digest) with
  | some object =>
      rw [entry] at planned
      cases planned
  | none =>
      rw [entry] at planned
      cases known : order.recipe vantage.toolkit.registry with
      | error refusal =>
          rw [known] at planned
          cases planned
      | ok other =>
          rw [known] at planned
          cases planned
          exact ⟨rfl, rfl⟩

omit [CacheStore χ (Instance κ)] in
/-- An order that leads to no recipe is remembered at the start, or is refused. -/
theorem plan_eq_ends
    {order : Order}
    {answer : Option (Sketch κ τ)}
    (planned : vantage.plan order = .ends answer) :
    (∃ object,
      vantage.start.memo.find? (order.key vantage.toolkit.digest) = some object ∧
        answer = some (vantage.held object)) ∨
      ∃ refusal, order.recipe vantage.toolkit.registry = .error refusal ∧ answer = none := by
  unfold plan at planned
  cases entry : vantage.start.memo.find? (order.key vantage.toolkit.digest) with
  | some object =>
      rw [entry] at planned
      cases planned
      exact Or.inl ⟨object, rfl, rfl⟩
  | none =>
      rw [entry] at planned
      cases known : order.recipe vantage.toolkit.registry with
      | error refusal =>
          rw [known] at planned
          cases planned
          exact Or.inr ⟨refusal, rfl, rfl⟩
      | ok recipe =>
          rw [known] at planned
          cases planned

end Vantage

/-- An inquiry has at most one forecast. -/
theorem Forecast.unique
    {vantage : Vantage κ χ τ}
    (blind : vantage.Blind)
    {inquiry : Inquiry}
    {answer other : Option (inquiry.Answer κ τ)}
    {traces others : List (Trace κ τ)}
    (forecast : Forecast vantage inquiry answer traces)
    (second : Forecast vantage inquiry other others) :
    answer = other ∧ traces = others := by
  induction forecast generalizing others with
  | answered course =>
      cases second with
      | answered courseToo =>
          cases course.symm.trans courseToo
          exact ⟨rfl, rfl⟩
      | followed courseToo => cases course.symm.trans courseToo
      | ordered courseToo => cases course.symm.trans courseToo
  | followed course _ inductionHypothesis =>
      cases second with
      | answered courseToo => cases course.symm.trans courseToo
      | followed courseToo resolved =>
          cases course.symm.trans courseToo
          exact inductionHypothesis resolved
      | ordered courseToo => cases course.symm.trans courseToo
  | ordered course _ inductionHypothesis =>
      cases second with
      | answered courseToo => cases course.symm.trans courseToo
      | followed courseToo => cases course.symm.trans courseToo
      | ordered courseToo built =>
          cases course.symm.trans courseToo
          exact inductionHypothesis built
  | settled plan =>
      cases second with
      | settled planToo =>
          cases plan.symm.trans planToo
          exact ⟨rfl, rfl⟩
      | unsupplied planToo => cases plan.symm.trans planToo
      | ran planToo => cases plan.symm.trans planToo
  | unsupplied plan _ inductionHypothesis =>
      cases second with
      | settled planToo => cases plan.symm.trans planToo
      | unsupplied planToo supplied =>
          cases plan.symm.trans planToo
          exact ⟨rfl, (inductionHypothesis supplied).2⟩
      | ran planToo supplied =>
          cases plan.symm.trans planToo
          cases (inductionHypothesis supplied).1
  | @ran order recipe outline traces arguments made plan _ seen makes inductionHypothesis =>
      cases second with
      | settled planToo => cases plan.symm.trans planToo
      | unsupplied planToo supplied =>
          cases plan.symm.trans planToo
          cases (inductionHypothesis supplied).1
      | ran planToo supplied seenToo makesToo =>
          cases plan.symm.trans planToo
          obtain ⟨sameOutline, rfl⟩ := inductionHypothesis supplied
          cases sameOutline
          have sameMade :=
            blind order recipe (Vantage.plan_eq_recipe plan).2 _ _ (seen.trans seenToo.symm)
          rw [makes, makesToo] at sameMade
          subst sameMade
          exact ⟨rfl, rfl⟩
  | done =>
      cases second with
      | done => exact ⟨rfl, rfl⟩
  | value provided _ inductionHypothesis =>
      cases second with
      | value providedToo rest =>
          cases provided.symm.trans providedToo
          obtain ⟨rfl, rfl⟩ := inductionHypothesis rest
          exact ⟨rfl, rfl⟩
      | service providedToo => cases provided.symm.trans providedToo
      | unserved providedToo => cases provided.symm.trans providedToo
      | nothing providedToo => cases provided.symm.trans providedToo
  | service provided _ _ served inductionHypothesis =>
      cases second with
      | value providedToo => cases provided.symm.trans providedToo
      | service providedToo resolved rest =>
          cases provided.symm.trans providedToo
          obtain ⟨sameSketch, rfl⟩ := served resolved
          cases sameSketch
          obtain ⟨rfl, rfl⟩ := inductionHypothesis rest
          exact ⟨rfl, rfl⟩
      | unserved providedToo resolved =>
          cases provided.symm.trans providedToo
          cases (served resolved).1
      | nothing providedToo => cases provided.symm.trans providedToo
  | unserved provided _ inductionHypothesis =>
      cases second with
      | value providedToo => cases provided.symm.trans providedToo
      | service providedToo resolved =>
          cases provided.symm.trans providedToo
          cases (inductionHypothesis resolved).1
      | unserved providedToo resolved =>
          cases provided.symm.trans providedToo
          exact ⟨rfl, (inductionHypothesis resolved).2⟩
      | nothing providedToo => cases provided.symm.trans providedToo
  | nothing provided =>
      cases second with
      | value providedToo => cases provided.symm.trans providedToo
      | service providedToo => cases provided.symm.trans providedToo
      | unserved providedToo => cases provided.symm.trans providedToo
      | nothing providedToo => exact ⟨rfl, rfl⟩

end Switchboard
