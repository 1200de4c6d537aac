import Mathlib.Data.List.Forall2
import Switchboard.Proofs.Service.Growth

namespace Switchboard

/-!
# Alike objects

Calls that are made in another order give other numbers to what they make, and nothing else need
differ.  A sketch says of an object what can be said without its number: what is seen of it, and
where it comes from.  Two objects of two containers are alike if one sketch shows both; this goes
for arguments and for the runs of constructors and factories as well.

How much is seen of what objects hold is up to a view.  It has to be enough for the constructors
and factories: they must be blind to everything else.
-/

variable {κ χ τ : Type}

/-- What is seen of a product. -/
def Product.seen (view : κ → τ) (product : Product κ) : Product τ :=
  { typeName := product.typeName, content := view product.content
    isHandler := product.isHandler, isListener := product.isListener }

/-- What is seen of an object; its number is not. -/
def Instance.seen (view : κ → τ) (object : Instance κ) : Product τ :=
  { typeName := object.typeName, content := view object.content
    isHandler := object.isHandler, isListener := object.isListener }

/-- What is seen of a resolved argument. -/
def Resolved.seen (view : κ → τ) : Resolved κ → Json.Value ⊕ Product τ
  | .value document => .inl document
  | .service object => .inr (object.seen view)

/-- What is seen of resolved arguments. -/
def Arguments.seen
    (view : κ → τ)
    (arguments : Arguments κ) :
    List (String × (Json.Value ⊕ Product τ)) :=
  arguments.map fun argument => (argument.1, argument.2.seen view)

/-- Of arguments that look the same, the maker makes products that look the same, or none. -/
def Maker.Blind (view : κ → τ) (maker : Maker κ) : Prop :=
  ∀ first second : Arguments κ,
    first.seen view = second.seen view →
      (maker first).toOption.map (Product.seen view) =
        (maker second).toOption.map (Product.seen view)

/-- Where a service comes from. -/
inductive Source (κ : Type) where
  /-- The container had it at the start. -/
  | held (object : Instance κ)
  /-- It is the container itself. -/
  | itself
  /-- It was built for an order. -/
  | built (order : Order)

/-- What can be said of an object without its number. -/
structure Sketch (κ τ : Type) where
  source : Source κ
  product : Product τ

/-- What can be said of resolved arguments without the numbers of objects. -/
abbrev Outline (κ τ : Type) := List (String × (Json.Value ⊕ Sketch κ τ))

/-- What is seen of arguments that have the outline. -/
def Outline.seen (outline : Outline κ τ) : List (String × (Json.Value ⊕ Product τ)) :=
  outline.map fun part => (part.1, part.2.map id Sketch.product)

/-- What can be said of a run without the numbers of objects. -/
structure Trace (κ τ : Type) where
  origin : Origin
  arguments : Outline κ τ
  made : Option (Product τ)

/-- What a parameter is supplied with. -/
inductive Provision where
  | service (id : String)
  | value (document : Json.Value)
  | nothing

/-- A parameter at its place among the parameters of an order. -/
structure Slot where
  order : Order
  parameter : Parameter
  /-- The parameters after it. -/
  parameters : List Parameter
  /-- The arguments from its place on. -/
  arguments : List Argument

/-- Where resolutions are looked at from: what builders work with, the container at the start,
how much is seen of what objects hold, and what the parameters of orders are supplied with. -/
structure Vantage (κ χ τ : Type) where
  toolkit : Toolkit κ
  start : Container κ χ
  view : κ → τ
  provides : Slot → Provision

variable [CacheStore χ (Instance κ)]

/-- A container has an object in one of its three places. -/
inductive Container.Holds (container : Container κ χ) (object : Instance κ) : Prop
  /-- A definition gives it. -/
  | given
      {id : String}
      (defined : container.definitions.find? id = some (.prebuilt object))
  /-- The cache answers with it. -/
  | cached
      {key : String}
      (hit : container.found? key = some object)
  /-- The builder remembers it. -/
  | remembered
      {key : String}
      (hit : container.memo.find? key = some object)

/-- In the container, the object is the one that comes from there. -/
def Source.Gives
    (vantage : Vantage κ χ τ)
    (container : Container κ χ)
    (object : Instance κ) :
    Source κ → Prop
  | .held known => vantage.start.Holds known ∧ object = known
  | .itself => ∃ id, object = (Product.plain Container.ownType container.self).toInstance id
  | .built order => container.memo.find? (order.key vantage.toolkit.digest) = some object

/-- In the container, the object is as the sketch says. -/
structure Sketch.Shows
    (vantage : Vantage κ χ τ)
    (container : Container κ χ)
    (sketch : Sketch κ τ)
    (object : Instance κ) :
    Prop where
  seen : object.seen vantage.view = sketch.product
  source : sketch.source.Gives vantage container object

/-- In the container, the resolved argument is as the outline says. -/
inductive Outline.ShowsPart
    (vantage : Vantage κ χ τ)
    (container : Container κ χ) :
    String × (Json.Value ⊕ Sketch κ τ) → String × Resolved κ → Prop
  | value
      (name : String)
      (document : Json.Value) :
      ShowsPart vantage container (name, .inl document) (name, .value document)
  | service
      (name : String)
      {sketch : Sketch κ τ}
      {object : Instance κ}
      (shown : sketch.Shows vantage container object) :
      ShowsPart vantage container (name, .inr sketch) (name, .service object)

/-- In the container, the resolved arguments are as the outline says. -/
def Outline.Shows
    (vantage : Vantage κ χ τ)
    (container : Container κ χ)
    (outline : Outline κ τ)
    (arguments : Arguments κ) :
    Prop :=
  List.Forall₂ (ShowsPart vantage container) outline arguments

/-- In the container, the run is as the trace says. -/
structure Trace.Shows
    (vantage : Vantage κ χ τ)
    (container : Container κ χ)
    (trace : Trace κ τ)
    (run : Run κ) :
    Prop where
  origin : run.origin = trace.origin
  arguments : trace.arguments.Shows vantage container run.arguments
  made : run.made.map (Instance.seen vantage.view) = trace.made

/-- Nothing is forgotten of what was built, and the container is still the same one. -/
structure Container.Grows (before after : Container κ χ) : Prop where
  memo : MemoKept before after
  self : after.self = before.self

namespace Container.Grows

omit [CacheStore χ (Instance κ)] in
theorem refl (container : Container κ χ) : Grows container container :=
  ⟨fun _ _ held => held, rfl⟩

omit [CacheStore χ (Instance κ)] in
theorem trans
    {first second third : Container κ χ}
    (earlier : Grows first second)
    (later : Grows second third) :
    Grows first third :=
  ⟨fun key object held => later.memo key object (earlier.memo key object held),
    later.self.trans earlier.self⟩

end Container.Grows

section

variable
  {vantage : Vantage κ χ τ}
  {before after : Container κ χ}

theorem Sketch.Shows.mono
    {sketch : Sketch κ τ}
    {object : Instance κ}
    (shown : sketch.Shows vantage before object)
    (grows : before.Grows after) :
    sketch.Shows vantage after object := by
  refine ⟨shown.seen, ?_⟩
  have source := shown.source
  cases origin : sketch.source with
  | held known =>
      rw [origin] at source
      exact source
  | itself =>
      rw [origin] at source
      obtain ⟨id, rfl⟩ := source
      exact ⟨id, by rw [grows.self]⟩
  | built order =>
      rw [origin] at source
      exact grows.memo _ _ source

theorem Outline.Shows.mono
    {outline : Outline κ τ}
    {arguments : Arguments κ}
    (shown : outline.Shows vantage before arguments)
    (grows : before.Grows after) :
    outline.Shows vantage after arguments := by
  refine List.Forall₂.imp ?_ shown
  intro part argument showsPart
  cases showsPart with
  | value name document => exact .value name document
  | service name showsObject => exact .service name (showsObject.mono grows)

theorem Trace.Shows.mono
    {trace : Trace κ τ}
    {run : Run κ}
    (shown : trace.Shows vantage before run)
    (grows : before.Grows after) :
    trace.Shows vantage after run :=
  ⟨shown.origin, shown.arguments.mono grows, shown.made⟩

/-- What is seen of arguments is in their outline. -/
theorem Outline.Shows.seen
    {outline : Outline κ τ}
    {arguments : Arguments κ}
    (shown : outline.Shows vantage before arguments) :
    arguments.seen vantage.view = outline.seen := by
  induction shown with
  | nil => rfl
  | cons showsPart _ inductionHypothesis =>
      simp only [Arguments.seen, Outline.seen, List.map_cons] at inductionHypothesis ⊢
      rw [inductionHypothesis]
      cases showsPart with
      | value name document => rfl
      | service name showsObject => simp [Resolved.seen, showsObject.seen]

end

namespace Vantage

variable (vantage : Vantage κ χ τ)

/-- The objects look alike, and come from the same place in their containers. -/
def Alike (left right : Container κ χ) (object other : Instance κ) : Prop :=
  ∃ sketch : Sketch κ τ,
    sketch.Shows vantage left object ∧ sketch.Shows vantage right other

/-- Both resolutions failed, or both came to objects that are alike. -/
inductive AlikeEnds (left right : Container κ χ) :
    Except ServiceError (Instance κ) → Except ServiceError (Instance κ) → Prop
  | failed
      (error other : ServiceError) :
      AlikeEnds left right (.error error) (.error other)
  | found
      {object other : Instance κ}
      (alike : vantage.Alike left right object other) :
      AlikeEnds left right (.ok object) (.ok other)

/-- The runs of constructors and factories since the start. -/
def runs (container : Container κ χ) : List (Run κ) :=
  container.runs.drop vantage.start.runs.length

/-- The same constructor or factory ran on alike arguments, and made objects that look alike or
failed both times. -/
def AlikeRuns (left right : Container κ χ) (run other : Run κ) : Prop :=
  ∃ trace : Trace κ τ,
    trace.Shows vantage left run ∧ trace.Shows vantage right other

end Vantage

end Switchboard
