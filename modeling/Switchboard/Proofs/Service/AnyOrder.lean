import Switchboard.Proofs.Service.Foresight

namespace Switchboard

/-!
# Two ids in either order

What is resolved first is cached, and whatever is cached counts as a service that parameters can be
supplied with.  So the order in which ids are resolved matters, `Container.get_order_can_matter`,
but only so far: as long as every parameter is supplied with the same thing whenever it is supplied,
either order succeeds for the same ids and runs the same constructors and factories on alike
arguments, `Container.get_in_any_order`.  This is so where the names of all parameters are defined,
`Vantage.settled_of_defined`.
-/

variable {κ χ τ : Type} [CacheStore χ (Instance κ)]

namespace Vantage

/-- When the one id is resolved and then the other one, every parameter on the way is supplied with
what the vantage says. -/
def Settled (vantage : Vantage κ χ τ) (first second : String) : Prop :=
  vantage.Steady (.get first) vantage.start ∧
    ∀ outcome between,
      vantage.start.Resolves vantage.toolkit first outcome between →
        vantage.Steady (.get second) between

/-- The constructors and factories that ran since the start ran on alike arguments, in the one
container as in the other one. -/
structure SameRuns (vantage : Vantage κ χ τ) (left right : Container κ χ) : Prop where
  there : ∀ run ∈ vantage.runs left,
    ∃ other ∈ vantage.runs right, vantage.AlikeRuns left right run other
  back : ∀ other ∈ vantage.runs right,
    ∃ run ∈ vantage.runs left, vantage.AlikeRuns left right run other

section

variable
  {vantage : Vantage κ χ τ}
  {left right container after : Container κ χ}

/-- Answers that one forecast gives are alike. -/
theorem alikeEnds_of_rel
    {answer : Option (Sketch κ τ)}
    {outcome other : Except ServiceError (Instance κ)}
    (first : Option.Rel (Sketch.Shows vantage left) answer outcome.toOption)
    (second : Option.Rel (Sketch.Shows vantage right) answer other.toOption) :
    vantage.AlikeEnds left right outcome other := by
  cases outcome with
  | error error =>
      cases first
      cases other with
      | error another => exact .failed error another
      | ok object => cases second
  | ok object =>
      cases first with
      | some shown =>
          cases other with
          | error error => cases second
          | ok another =>
              cases second with
              | some shownToo => exact .found ⟨_, shown, shownToo⟩

/-- Every run of the one progress has a counterpart where its traces are covered. -/
theorem exists_alikeRun
    {traces others : List (Trace κ τ)}
    (first : vantage.Progress vantage.start left traces)
    (second : vantage.Progress vantage.start right others)
    (covered : ∀ trace ∈ traces, trace ∈ others)
    {run : Run κ}
    (member : run ∈ vantage.runs left) :
    ∃ other ∈ vantage.runs right, vantage.AlikeRuns left right run other := by
  obtain ⟨added, same, shown⟩ := first.added
  rw [runs, same, List.drop_left] at member
  obtain ⟨trace, among, isShown⟩ := shown run member
  obtain ⟨other, isLater, shownToo⟩ := second.covered trace (covered trace among)
  exact ⟨other, isLater, trace, isShown, shownToo⟩

/-- Two ways that have the same traces have the same runs. -/
theorem sameRuns_of_progress
    {traces others : List (Trace κ τ)}
    (first : vantage.Progress vantage.start left traces)
    (second : vantage.Progress vantage.start right others)
    (same : ∀ trace, trace ∈ traces ↔ trace ∈ others) :
    vantage.SameRuns left right where
  there _ member := exists_alikeRun first second (fun trace => (same trace).mp) member
  back other member := by
    obtain ⟨run, isLater, trace, shown, shownToo⟩ :=
      exists_alikeRun second first (fun trace => (same trace).mpr) member
    exact ⟨run, isLater, trace, shownToo, shown⟩

/-- What is shown now is shown later as well. -/
theorem Progress.rel_mono
    {traces : List (Trace κ τ)}
    (progress : vantage.Progress container after traces)
    {answer : Option (Sketch κ τ)}
    {result : Option (Instance κ)}
    (shown : Option.Rel (Sketch.Shows vantage container) answer result) :
    Option.Rel (Sketch.Shows vantage after) answer result := by
  cases shown with
  | none => exact .none
  | some shown => exact .some (shown.mono progress.grows)

variable [LastingStore χ (Instance κ)]

/-- What is resolved in a coherent container has a forecast, and is as it says. -/
theorem exists_forecast_of_resolves
    (fair : vantage.Fair)
    (coherent : vantage.Coherent container)
    {id : String}
    (steady : vantage.Steady (.get id) container)
    {outcome : Except ServiceError (Instance κ)}
    (resolves : container.Resolves vantage.toolkit id outcome after) :
    ∃ answer traces,
      Forecast vantage (.get id) answer traces ∧ vantage.Progress container after traces ∧
        Option.Rel (Sketch.Shows vantage after) answer outcome.toOption := by
  obtain ⟨enough, ended⟩ := resolves
  have ended := ended enough (Nat.le_refl enough)
  obtain ⟨answer, traces, forecast⟩ :=
    exists_forecast_of_get fair enough id container outcome after coherent steady ended
  obtain ⟨_, _, _, ends, progress, shown⟩ := forecast.comes_true fair _ coherent trivial steady
  obtain ⟨rfl, rfl⟩ := ends.unique ⟨outcome, ended, rfl⟩
  exact ⟨answer, traces, forecast, progress, shown⟩

/-- What has a forecast is resolved in every coherent container, as the forecast says. -/
theorem exists_resolves_of_forecast
    (fair : vantage.Fair)
    (coherent : vantage.Coherent container)
    {id : String}
    (steady : vantage.Steady (.get id) container)
    {answer : Option (Sketch κ τ)}
    {traces : List (Trace κ τ)}
    (forecast : Forecast vantage (.get id) answer traces) :
    ∃ outcome after,
      container.Resolves vantage.toolkit id outcome after ∧
        vantage.Progress container after traces ∧
        Option.Rel (Sketch.Shows vantage after) answer outcome.toOption := by
  obtain ⟨fuel, _, after, ⟨outcome, ended, rfl⟩, progress, shown⟩ :=
    forecast.comes_true fair _ coherent trivial steady
  exact ⟨outcome, after, Container.resolves_of_get ended, progress, shown⟩

end

section

/-! ## When all names are defined -/

variable {vantage : Vantage κ χ τ}

/-- No definition changes on the way to a parameter. -/
theorem definitions_of_supplies
    {toolkit : Toolkit κ}
    {inquiry : Inquiry}
    {container moment : Container κ χ}
    {slot : Slot}
    (supplies : inquiry.Supplies toolkit container slot moment) :
    moment.definitions = container.definitions := by
  induction supplies with
  | followed _ _ _ _ inductionHypothesis => exact inductionHypothesis
  | ordered _ _ _ inductionHypothesis => exact inductionHypothesis
  | recipe _ _ _ inductionHypothesis => exact inductionHypothesis
  | first => rfl
  | service _ _ inductionHypothesis => exact inductionHypothesis
  | later supplied _ inductionHypothesis =>
      refine inductionHypothesis.trans ?_
      rcases Builder.supply_cases supplied with ⟨id, answer, _, resolved, _⟩ | ⟨_, rfl⟩
      · exact (stride_definitions toolkit).walk.gets _ id _ _ _ trivial resolved
      · rfl

/-- The parameter is one of a constructor or factory that some order can run. -/
def Declares (vantage : Vantage κ χ τ) (parameter : Parameter) : Prop :=
  ∃ order recipe,
    Order.recipe vantage.toolkit.registry order = .ok recipe ∧ parameter ∈ recipe.parameters

/-- The parameters that are still to be supplied are declared. -/
def IsDeclared (vantage : Vantage κ χ τ) : Inquiry → Prop
  | .supply _ parameters _ => ∀ parameter ∈ parameters, vantage.Declares parameter
  | _ => True

theorem declares_of_supplies
    {inquiry : Inquiry}
    {container moment : Container κ χ}
    {slot : Slot}
    (supplies : inquiry.Supplies vantage.toolkit container slot moment)
    (declared : vantage.IsDeclared inquiry) :
    vantage.Declares slot.parameter := by
  induction supplies with
  | followed _ _ _ _ inductionHypothesis => exact inductionHypothesis trivial
  | ordered _ _ _ inductionHypothesis => exact inductionHypothesis trivial
  | recipe known _ _ inductionHypothesis =>
      exact inductionHypothesis fun _ member => ⟨_, _, known, member⟩
  | first => exact declared _ List.mem_cons_self
  | service _ _ inductionHypothesis => exact inductionHypothesis trivial
  | later _ _ inductionHypothesis =>
      exact inductionHypothesis fun _ member => declared _ (List.mem_cons_of_mem _ member)

/-- The names of all declared parameters are defined at the start, and the vantage goes by the
start. -/
structure Defines (vantage : Vantage κ χ τ) : Prop where
  defined : ∀ parameter, vantage.Declares parameter →
    vantage.start.definitions.contains parameter.name = true
  provides : ∀ slot, vantage.provides slot =
    Builder.provision vantage.toolkit vantage.start slot.parameter slot.arguments.head?

/-- A parameter whose name is defined is supplied with its argument, else with the service of its
name, whatever is cached. -/
theorem provision_of_defined
    {moment other : Container κ χ}
    {parameter : Parameter}
    (defined : other.definitions.contains parameter.name = true)
    (same : moment.definitions = other.definitions)
    (argument : Option Argument) :
    Builder.provision vantage.toolkit moment parameter argument =
      Builder.provision vantage.toolkit other parameter argument := by
  cases argument with
  | some argument => cases argument <;> rfl
  | none =>
      have chosen
          {container : Container κ χ}
          (definedThere : container.definitions.contains parameter.name = true) :
          Builder.Supply.choose vantage.toolkit container parameter =
            .byService parameter.name := by
        simp [Builder.Supply.choose, Container.has, definedThere]
      simp only [Builder.provision, chosen defined, chosen (same ▸ defined)]

theorem Defines.steady
    (defines : vantage.Defines)
    {container : Container κ χ}
    (same : container.definitions = vantage.start.definitions)
    (id : String) :
    vantage.Steady (.get id) container := by
  intro slot moment supplies
  rw [defines.provides]
  exact provision_of_defined (defines.defined _ (declares_of_supplies supplies trivial))
    ((definitions_of_supplies supplies).trans same) _

/-- Where the names of all parameters are defined, nothing that is cached makes a difference. -/
theorem settled_of_defined
    (defines : vantage.Defines)
    (first second : String) :
    vantage.Settled first second := by
  refine ⟨defines.steady rfl first, ?_⟩
  rintro outcome between ⟨enough, ended⟩
  have same := (stride_definitions vantage.toolkit).walk.gets enough first _ _ _ trivial
    (ended enough (Nat.le_refl enough))
  exact defines.steady same second

end

end Vantage

/--
Two ids that are resolved one after the other can be resolved the other way round from the same
container: the same ids succeed, with objects that are alike, and the same constructors and
factories run on alike arguments.  It takes that every parameter is supplied with the same thing
whenever it is supplied, either way.
-/
theorem Container.get_in_any_order
    [LastingStore χ (Instance κ)]
    {vantage : Vantage κ χ τ}
    (fair : vantage.Fair)
    {first second : String}
    (settled : vantage.Settled first second)
    (settledToo : vantage.Settled second first)
    {outcomeFirst outcomeSecond : Except ServiceError (Instance κ)}
    {between after : Container κ χ}
    (resolvesFirst : vantage.start.Resolves vantage.toolkit first outcomeFirst between)
    (resolvesSecond : between.Resolves vantage.toolkit second outcomeSecond after) :
    ∃ otherSecond middle otherFirst last,
      vantage.start.Resolves vantage.toolkit second otherSecond middle ∧
        middle.Resolves vantage.toolkit first otherFirst last ∧
        vantage.AlikeEnds after last outcomeFirst otherFirst ∧
        vantage.AlikeEnds after last outcomeSecond otherSecond ∧
        vantage.SameRuns after last := by
  obtain ⟨answerFirst, tracesFirst, forecastFirst, progressFirst, shownFirst⟩ :=
    Vantage.exists_forecast_of_resolves fair Vantage.coherent_start settled.1 resolvesFirst
  obtain ⟨answerSecond, tracesSecond, forecastSecond, progressSecond, shownSecond⟩ :=
    Vantage.exists_forecast_of_resolves fair progressFirst.coherent
      (settled.2 _ _ resolvesFirst) resolvesSecond
  obtain ⟨otherSecond, middle, resolvesMiddle, progressMiddle, shownMiddle⟩ :=
    Vantage.exists_resolves_of_forecast fair Vantage.coherent_start settledToo.1 forecastSecond
  obtain ⟨otherFirst, last, resolvesLast, progressLast, shownLast⟩ :=
    Vantage.exists_resolves_of_forecast fair progressMiddle.coherent
      (settledToo.2 _ _ resolvesMiddle) forecastFirst
  refine ⟨otherSecond, middle, otherFirst, last, resolvesMiddle, resolvesLast,
    Vantage.alikeEnds_of_rel (progressSecond.rel_mono shownFirst) shownLast,
    Vantage.alikeEnds_of_rel shownSecond (progressLast.rel_mono shownMiddle), ?_⟩
  apply Vantage.sameRuns_of_progress (progressFirst.trans progressSecond)
    (progressMiddle.trans progressLast)
  intro trace
  rw [List.mem_append, List.mem_append, or_comm]

namespace Pairing

/-!
## A class that needs another one

The class `A` needs `b`, which is a class as well.  At first nothing is defined, and then `b` is.
-/

def registry : Registry Unit :=
  { blueprints := [Reentry.plain "A" [Reentry.needed "b" none], Reentry.plain "b" []]
    factories := Dict.empty }

def toolkit (digest : Key.Digest) : Toolkit Unit :=
  { registry := registry, environment := fun _ => none, digest := digest }

def start : Container Unit (MemoryCache (Instance Unit)) := .empty () (.empty none) none

/-- The texts that are digested when `A` and `b` are resolved. -/
def digested : List String := ["A", "b", "A::__construct|[]", "b::__construct|[]"]

/-- The container after `b` was defined. -/
def defined : Container Unit (MemoryCache (Instance Unit)) :=
  start.withServices [("b", .ofClass "b" [])]

/-- What there is to see where `b` is defined. -/
def vantage : Vantage Unit (MemoryCache (Instance Unit)) Unit :=
  { toolkit := toolkit (Key.sampled digested)
    start := defined
    view := id
    provides := fun slot =>
      Builder.provision (toolkit (Key.sampled digested)) defined slot.parameter
        slot.arguments.head? }

private theorem digest_injective : Function.Injective (Key.sampled digested) := by
  have apart : (digested.map Digest.sha256Hex).Nodup := by
    decide +kernel
  exact Key.sampled_injective_of_nodup apart

/-- The recipes of the two classes, and no others. -/
private theorem recipe_eq
    {order : Order}
    {recipe : Recipe Unit}
    (known : order.recipe registry = .ok recipe) :
    ∃ name parameters,
      recipe = { parameters := parameters, maker := fun _ => .ok (.plain name ()) } ∧
        ∀ parameter ∈ parameters, parameter.name = "b" := by
  cases order with
  | ofClass className arguments =>
      simp only [Order.recipe, Registry.blueprint?, registry, Dict.find?, Reentry.plain] at known
      by_cases isA : "A" = className
      · simp only [if_pos isA] at known
        cases known
        exact ⟨"A", _, rfl, by simp [Reentry.needed]⟩
      · by_cases isB : "b" = className
        · simp only [if_neg isA, if_pos isB] at known
          cases known
          exact ⟨"b", _, rfl, by simp⟩
        · simp only [if_neg isA, if_neg isB] at known
          cases known
  | ofFactory className method arguments =>
      simp [Order.recipe, Registry.factory?, registry] at known

private theorem isPlain
    (order : Order)
    (gives : vantage.Gives order) :
    order.IsPlain := by
  obtain ⟨id, asked⟩ := gives
  have concrete : ∀ definition, vantage.start.definitions.find? id = some definition →
      definition = .ofClass "b" [] ∨ definition = .itself := by
    intro definition defined
    have listed : vantage.start.definitions =
        [("b", .ofClass "b" []), (Container.ownType, .itself), (Container.ownId, .itself)] := by
      rfl
    simp only [listed, Dict.find?] at defined
    split at defined
    · exact Or.inl (Option.some.inj defined).symm
    · split at defined
      · exact Or.inr (Option.some.inj defined).symm
      · split at defined
        · exact Or.inr (Option.some.inj defined).symm
        · cases defined
  cases defined : vantage.start.definitions.find? id with
  | none =>
      rw [defined] at asked
      cases asked
      trivial
  | some definition =>
      rw [defined] at asked
      rcases concrete definition defined with rfl | rfl
      · cases asked
        trivial
      · cases asked

private theorem fair : vantage.Fair where
  goes := Container.stops_of_no_lifetime rfl rfl
  injective := digest_injective
  apart order other gives givesToo same :=
    Order.eq_of_sameText (isPlain order gives) (isPlain other givesToo) same
  blind := by
    intro order recipe known first second _
    obtain ⟨name, parameters, rfl, _⟩ := recipe_eq known
    rfl

private theorem defines : vantage.Defines where
  defined := by
    rintro parameter ⟨order, recipe, known, member⟩
    obtain ⟨name, parameters, rfl, isB⟩ := recipe_eq known
    rw [isB parameter member]
    rfl
  provides _ := rfl

/-- Whether the first id is resolved, and the second one is after it, can be tested. -/
private theorem exists_gets
    (toolkit : Toolkit Unit)
    (container : Container Unit (MemoryCache (Instance Unit)))
    (fuel : Nat)
    (first second : String)
    (succeeds : Bool)
    (passes :
      Attempt.endsSo
        (fun outcome between =>
          outcome.toOption.isSome == succeeds &&
            Attempt.endsSo (fun other _ => other.toOption.isSome)
              (Container.get toolkit fuel second between))
        (Container.get toolkit fuel first container) = true) :
    ∃ outcome between object after,
      Container.get toolkit fuel first container = some (outcome, between) ∧
        outcome.toOption.isSome = succeeds ∧
        Container.get toolkit fuel second between = some (.ok object, after) := by
  obtain ⟨outcome, between, gotFirst, tested⟩ := Attempt.exists_of_endsSo passes
  obtain ⟨asExpected, rest⟩ := Bool.and_eq_true_iff.mp tested
  obtain ⟨other, after, gotSecond, succeeded⟩ := Attempt.exists_of_endsSo rest
  cases other with
  | error error => cases succeeded
  | ok object =>
      exact ⟨outcome, between, object, after, gotFirst, beq_iff_eq.mp asExpected, gotSecond⟩

end Pairing

open Pairing in
/-- Where `b` is defined, `A` and `b` can be resolved in either order. -/
theorem Container.get_in_any_order_of_defined :
    ∃ object between other after,
      vantage.start.Resolves vantage.toolkit "A" (.ok object) between ∧
        between.Resolves vantage.toolkit "b" (.ok other) after ∧
        ∃ otherSecond middle otherFirst last,
          vantage.start.Resolves vantage.toolkit "b" otherSecond middle ∧
            middle.Resolves vantage.toolkit "A" otherFirst last ∧
            vantage.AlikeEnds after last (.ok object) otherFirst ∧
            vantage.AlikeEnds after last (.ok other) otherSecond ∧
            vantage.SameRuns after last := by
  obtain ⟨outcome, between, other, after, gotFirst, succeeded, gotSecond⟩ :=
    exists_gets vantage.toolkit vantage.start 3 "A" "b" true (by decide +kernel)
  cases outcome with
  | error error => cases succeeded
  | ok object =>
      have resolvesFirst := resolves_of_get gotFirst
      have resolvesSecond := resolves_of_get gotSecond
      exact ⟨object, between, other, after, resolvesFirst, resolvesSecond,
        get_in_any_order fair (Vantage.settled_of_defined defines "A" "b")
          (Vantage.settled_of_defined defines "b" "A") resolvesFirst resolvesSecond⟩

open Pairing in
/--
Where nothing is defined, `A` fails before `b` is resolved, for want of a `b`, and succeeds
afterwards, when one is cached.
-/
theorem Container.get_order_can_matter :
    start.ttl = none ∧
      (∃ error between object after,
        get (toolkit Digest.sha256Hex) 3 "A" start = some (.error error, between) ∧
          get (toolkit Digest.sha256Hex) 3 "b" between = some (.ok object, after)) ∧
      ∃ object between other after,
        get (toolkit Digest.sha256Hex) 3 "b" start = some (.ok object, between) ∧
          get (toolkit Digest.sha256Hex) 3 "A" between = some (.ok other, after) := by
  refine ⟨rfl, ?_, ?_⟩
  · obtain ⟨outcome, between, object, after, gotFirst, failed, gotSecond⟩ :=
      exists_gets (toolkit Digest.sha256Hex) start 3 "A" "b" false (by decide +kernel)
    cases outcome with
    | ok object => cases failed
    | error error => exact ⟨error, between, object, after, gotFirst, gotSecond⟩
  · obtain ⟨outcome, between, object, after, gotFirst, succeeded, gotSecond⟩ :=
      exists_gets (toolkit Digest.sha256Hex) start 3 "b" "A" true (by decide +kernel)
    cases outcome with
    | error error => cases succeeded
    | ok other => exact ⟨other, between, object, after, gotFirst, gotSecond⟩

end Switchboard
