import Switchboard.Proofs.Cache.Faithful
import Switchboard.Proofs.Service.Calls

namespace Switchboard

/-!
# What calls add

A call takes nothing out of the memo and nothing live out of a cache in memory, and whatever it
adds is the object of a call of its own that succeeded: `Built` for the memo and `Got` for the
cache.  What does not depend on who takes a step is a `Stride`; it also holds between the end of
a call and the end of the call that made it.
-/

variable {κ χ : Type}

/-- Everything that is remembered stays remembered, as the same object. -/
def MemoKept (before after : Container κ χ) : Prop :=
  ∀ key object, before.memo.find? key = some object → after.memo.find? key = some object

theorem memoKept_remembering
    (container : Container κ χ)
    (key : String)
    (object : Instance κ) :
    MemoKept container (container.remembering key object) := by
  intro other held isHeld
  unfold Container.remembering Memo.remember
  cases entry : container.memo.find? key with
  | some present => exact isHeld
  | none =>
      have apart : key ≠ other := by
        intro same
        subst same
        cases entry.symm.trans isHeld
      simpa [Dict.find?_insert, apart] using isHeld

/-- What is remembered under a key right after an object was: the answer of remembering it. -/
theorem find?_remembering_self
    (container : Container κ χ)
    (key : String)
    (object : Instance κ) :
    (container.remembering key object).memo.find? key =
      some (container.memo.remember key object).1 := by
  unfold Container.remembering Memo.remember
  cases entry : container.memo.find? key with
  | some present => exact entry
  | none => simp

theorem find?_of_find?_remembering
    {container : Container κ χ}
    {key other : String}
    {object held : Instance κ}
    (isHeld : (container.remembering key object).memo.find? other = some held) :
    container.memo.find? other = some held ∨
      key = other ∧ (container.memo.remember key object).1 = held := by
  by_cases same : key = other
  · subst same
    rw [find?_remembering_self] at isHeld
    exact Or.inr ⟨rfl, Option.some.inj isHeld⟩
  · left
    unfold Container.remembering Memo.remember at isHeld
    cases entry : container.memo.find? key with
    | some present => simpa only [entry] using isHeld
    | none => simpa only [entry, Dict.find?_insert, if_neg same] using isHeld

/-- Running a maker touches the count of objects and the record of runs, and nothing else. -/
theorem Builder.make_touches
    {origin : Origin}
    {title : String}
    {maker : Maker κ}
    {arguments : Arguments κ}
    {container after : Container κ χ}
    {outcome : Except BuildError (Instance κ)}
    (made : make origin title maker arguments container = some (outcome, after)) :
    after = { container with nextId := after.nextId, runs := after.runs } := by
  unfold make at made
  split at made <;> cases made <;> rfl

/-- What is not touched by running a maker. -/
theorem Builder.make_frame
    {origin : Origin}
    {title : String}
    {maker : Maker κ}
    {arguments : Arguments κ}
    {container after : Container κ χ}
    {outcome : Except BuildError (Instance κ)}
    (made : make origin title maker arguments container = some (outcome, after)) :
    after.definitions = container.definitions ∧ after.cache = container.cache ∧
      after.memo = container.memo ∧ after.now = container.now := by
  rw [make_touches made]
  exact ⟨rfl, rfl, rfl, rfl⟩

variable [CacheStore χ (Instance κ)]

/-- A relation between containers that every single step keeps, in whatever call it is taken. -/
structure Stride
    (toolkit : Toolkit κ)
    (relates : Container κ χ → Container κ χ → Prop) :
    Prop where
  refl : ∀ container, relates container container
  trans : ∀ first second third,
    relates first second → relates second third → relates first third
  lookUp : ∀ id container,
    relates container (container.lookedUp (Key.service toolkit.digest id))
  own : ∀ container, relates container container.asInstance.2
  make : ∀ origin title maker arguments container outcome after,
    Builder.make origin title maker arguments container = some (outcome, after) →
      relates container after
  remember : ∀ key object container, relates container (container.remembering key object)
  keep : ∀ key object container, relates container (container.keeping key object)

namespace Stride

variable
  {toolkit : Toolkit κ}
  {relates : Container κ χ → Container κ χ → Prop}

/-- What every step keeps is kept by every call. -/
theorem walk (stride : Stride toolkit relates) :
    Walk toolkit (fun _ => True) relates where
  closed _ _ _ _ := trivial
  refl := stride.refl
  trans := stride.trans
  lookUp := stride.lookUp
  own := stride.own
  make := stride.make
  remember _ _ _ _ _ _ _ _ _ related :=
    stride.trans _ _ _ related (stride.remember _ _ _)
  keep _ _ _ _ _ _ _ _ _ _ _ related :=
    stride.trans _ _ _ related (stride.keep _ _ _)

/-- A service that is asked for while parameters are supplied is resolved, and what comes after
it keeps the relation. -/
theorem asked_ends
    (stride : Stride toolkit relates)
    {fuel : Nat}
    {className id : String}
    {parameters : List Parameter}
    {arguments : List Argument}
    {container later after : Container κ χ}
    {outcome : Except BuildError (Arguments κ)}
    (asks :
      Builder.Asks toolkit (Container.get toolkit fuel) className parameters arguments
        container id later)
    (supplied :
      Builder.supplyAll toolkit (Container.get toolkit fuel) className parameters arguments
        container = some (outcome, after)) :
    ∃ answer afterwards,
      Container.get toolkit fuel id later = some (answer, afterwards) ∧
        relates afterwards after := by
  induction asks generalizing outcome with
  | @first parameter parameters arguments container id asked =>
      have restRelates
          {between : Container κ χ}
          {rest : Except BuildError (Arguments κ)}
          (ended :
            Builder.supplyAll toolkit (Container.get toolkit fuel) className parameters
              arguments.tail between = some (rest, after)) :
          relates between after :=
        Builder.supplyAll_relates stride.refl stride.trans
          (fun id moment answer afterwards _ resolved =>
            stride.walk.gets fuel id moment answer afterwards trivial resolved)
          ended
      have firstEnds
          {between : Container κ χ}
          {resolved : Except BuildError (Resolved κ)}
          (ended :
            Builder.supply toolkit (Container.get toolkit fuel) className parameter
              arguments.head? container = some (resolved, between)) :
          ∃ answer,
            Container.get toolkit fuel id container = some (answer, between) := by
        rcases Builder.supply_cases ended with
          ⟨other, answer, askedToo, resolved, _⟩ | ⟨notAsked, _⟩
        · cases asked.symm.trans askedToo
          exact ⟨answer, resolved⟩
        · cases asked.symm.trans notAsked
      rcases Builder.supplyAll_cons_eq_some_iff.mp supplied with
        ⟨error, refused, _⟩ | ⟨resolved, between, others, found, rest, _⟩
      · obtain ⟨answer, resolved⟩ := firstEnds refused
        exact ⟨answer, after, resolved, stride.refl after⟩
      · obtain ⟨answer, resolved⟩ := firstEnds found
        exact ⟨answer, between, resolved, restRelates rest⟩
  | later supplied' asks inductionHypothesis =>
      rcases Builder.supplyAll_cons_eq_some_iff.mp supplied with
        ⟨error, refused, _⟩ | ⟨resolved, between, others, found, rest, _⟩
      · cases refused.symm.trans supplied'
      · cases found.symm.trans supplied'
        exact inductionHypothesis rest

/-- A service that is asked for while an order is carried out is resolved, and what comes after
it keeps the relation. -/
theorem injected_ends
    (stride : Stride toolkit relates)
    {fuel : Nat}
    {order : Order}
    {recipe : Recipe κ}
    {id : String}
    {container later after : Container κ χ}
    {outcome : Except BuildError (Instance κ)}
    (known : order.recipe toolkit.registry = .ok recipe)
    (asks :
      Builder.Asks toolkit (Container.get toolkit fuel) order.className recipe.parameters
        order.arguments container id later)
    (assembled :
      Builder.assemble toolkit (Container.get toolkit fuel) order container =
        some (outcome, after)) :
    ∃ answer afterwards,
      Container.get toolkit fuel id later = some (answer, afterwards) ∧
        relates afterwards after := by
  rw [Builder.assemble_eq, known] at assembled
  rcases Attempt.bind_eq_some.mp assembled with
    ⟨error, refused, _⟩ | ⟨resolved, supplied, found, made⟩
  · exact stride.asked_ends asks refused
  · obtain ⟨answer, afterwards, resolved, related⟩ := stride.asked_ends asks found
    exact ⟨answer, afterwards, resolved,
      stride.trans _ _ _ related (stride.make _ _ _ _ _ _ _ made)⟩

/-- A call that another one makes ends if the other one does, and what comes after it keeps the
relation. -/
theorem ends_of_makes
    (stride : Stride toolkit relates)
    {outer inner : Moment κ χ}
    {result : Option (Instance κ)}
    {after : Container κ χ}
    (makes : Moment.Makes toolkit outer inner)
    (ends : outer.Ends toolkit result after) :
    ∃ innerResult innerAfter,
      inner.Ends toolkit innerResult innerAfter ∧ relates innerAfter after := by
  cases makes with
  | @follow fuel id target container defined miss acyclic =>
      have resolvedBy
          {outcome : Except AnyError (Instance κ)}
          {between : Container κ χ}
          (resolution :
            Container.DefinitionEnds toolkit (Container.get toolkit fuel) id
              (container.lookedUp (Key.service toolkit.digest id))
              (some (.aliasOf target)) outcome between) :
          ∃ answer, Container.get toolkit fuel target
              (container.lookedUp (Key.service toolkit.digest id)) =
            some (answer, between) := by
        cases resolution with
        | circle cyclic =>
            cases acyclic.symm.trans cyclic
        | followed acyclic resolved =>
            exact ⟨_, resolved⟩
        | ordered asked built =>
            cases asked
      obtain ⟨outcome, ended, rfl⟩ := ends
      cases Container.get_ends ended with
      | own itself =>
          cases defined.symm.trans itself
      | cached _ hit =>
          cases miss.symm.trans hit
      | failed _ _ resolution =>
          rw [defined] at resolution
          obtain ⟨answer, resolved⟩ := resolvedBy resolution
          exact ⟨_, after, ⟨answer, resolved, rfl⟩, stride.refl after⟩
      | resolved _ _ resolution =>
          rw [defined] at resolution
          obtain ⟨answer, resolved⟩ := resolvedBy resolution
          exact ⟨_, _, ⟨answer, resolved, rfl⟩, stride.keep _ _ _⟩
  | @order fuel id order container asked miss =>
      have builtBy
          {outcome : Except AnyError (Instance κ)}
          {between : Container κ χ}
          (resolution :
            Container.DefinitionEnds toolkit (Container.get toolkit fuel) id
              (container.lookedUp (Key.service toolkit.digest id))
              (container.definitions.find? id) outcome between) :
          ∃ answer, Builder.build toolkit (Container.get toolkit fuel) order
              (container.lookedUp (Key.service toolkit.digest id)) =
            some (answer, between) := by
        generalize container.definitions.find? id = definition at asked resolution
        cases resolution with
        | circle cyclic => cases asked
        | followed acyclic resolved => cases asked
        | given object => cases asked
        | own => cases asked
        | ordered askedToo built =>
            cases asked.symm.trans askedToo
            exact ⟨_, built⟩
      obtain ⟨outcome, ended, rfl⟩ := ends
      cases Container.get_ends ended with
      | own itself =>
          rw [itself] at asked
          cases asked
      | cached _ hit =>
          cases miss.symm.trans hit
      | failed _ _ resolution =>
          obtain ⟨answer, built⟩ := builtBy resolution
          exact ⟨_, after, ⟨answer, built, rfl⟩, stride.refl after⟩
      | resolved _ _ resolution =>
          obtain ⟨answer, built⟩ := builtBy resolution
          exact ⟨_, _, ⟨answer, built, rfl⟩, stride.keep _ _ _⟩
  | @inject fuel order recipe id container later miss known asks =>
      obtain ⟨outcome, ended, rfl⟩ := ends
      cases Builder.build_ends ended with
      | remembered hit =>
          cases miss.symm.trans hit
      | failed _ assembling =>
          obtain ⟨answer, afterwards, resolved, related⟩ :=
            stride.injected_ends known asks assembling
          exact ⟨_, afterwards, ⟨answer, resolved, rfl⟩, related⟩
      | built _ assembling =>
          obtain ⟨answer, afterwards, resolved, related⟩ :=
            stride.injected_ends known asks assembling
          exact ⟨_, afterwards, ⟨answer, resolved, rfl⟩,
            stride.trans _ _ _ related (stride.remember _ _ _)⟩

/-- A call in the course of one that ends does end, and what comes after it keeps the relation. -/
theorem ends_of_within
    (stride : Stride toolkit relates)
    {root moment : Moment κ χ}
    {result : Option (Instance κ)}
    {after : Container κ χ}
    (within : root.Within toolkit moment)
    (ends : root.Ends toolkit result after) :
    ∃ innerResult innerAfter,
      moment.Ends toolkit innerResult innerAfter ∧ relates innerAfter after := by
  induction within with
  | refl =>
      exact ⟨result, after, ends, stride.refl after⟩
  | tail earlier makes inductionHypothesis =>
      obtain ⟨outerResult, outerAfter, outerEnds, outerRelates⟩ := inductionHypothesis
      obtain ⟨innerResult, innerAfter, innerEnds, innerRelates⟩ :=
        stride.ends_of_makes makes outerEnds
      exact ⟨innerResult, innerAfter, innerEnds,
        stride.trans _ _ _ innerRelates outerRelates⟩

end Stride

theorem stride_definitions (toolkit : Toolkit κ) :
    Stride toolkit
      (fun before after : Container κ χ => after.definitions = before.definitions) where
  refl _ := rfl
  trans _ _ _ first second := second.trans first
  lookUp _ _ := rfl
  own _ := rfl
  make _ _ _ _ _ _ _ made := (Builder.make_frame made).1
  remember _ _ _ := rfl
  keep _ _ _ := rfl

/-- Whether keeping an object in the cache stops does not change in the course of a call. -/
theorem stride_stops [SteadyStore χ (Instance κ)] (toolkit : Toolkit κ) :
    Stride toolkit (fun before after : Container κ χ => after.stops = before.stops) where
  refl _ := rfl
  trans _ _ _ first second := second.trans first
  lookUp _ container := SteadyStore.stops_get container.cache _ _ _ container.ttl
  own _ := rfl
  make _ _ _ _ _ _ _ made := by
    rw [Builder.make_touches made]
    rfl
  remember _ _ _ := rfl
  keep _ _ container := SteadyStore.stops_set container.cache _ _ _ _ _ container.ttl

/-- No call forgets a built object or takes another one in its stead. -/
theorem stride_memoKept (toolkit : Toolkit κ) :
    Stride toolkit (MemoKept (κ := κ) (χ := χ)) where
  refl _ _ _ held := held
  trans _ _ _ first second key object held := second key object (first key object held)
  lookUp _ _ _ _ held := held
  own _ _ _ held := held
  make _ _ _ _ container _ after made key object held := by
    rw [(Builder.make_frame made).2.2.1]
    exact held
  remember key object container := memoKept_remembering container key object
  keep _ _ _ _ _ held := held

/-- The object of a build is remembered under the key of its order. -/
theorem Builder.find?_of_build
    {toolkit : Toolkit κ}
    {resolve : Resolver κ χ}
    {order : Order}
    {container after : Container κ χ}
    {object : Instance κ}
    (built : build toolkit resolve order container = some (.ok object, after)) :
    after.memo.find? (order.key toolkit.digest) = some object := by
  cases build_ends built with
  | remembered hit => exact hit
  | built miss assembling => exact find?_remembering_self _ _ _

/-- A builder forgets nothing of its own memo either. -/
theorem Builder.find?_of_buildDefinitionApart
    {toolkit : Toolkit κ}
    {resolve : Resolver κ χ}
    {definition : Definition κ}
    {memo memoAfter : Memo κ}
    {container after : Container κ χ}
    {outcome : Except BuildError (Instance κ)}
    (ended :
      buildDefinitionApart toolkit resolve definition (memo, container) =
        some (outcome, (memoAfter, after)))
    {key : String}
    {object : Instance κ}
    (held : memo.find? key = some object) :
    memoAfter.find? key = some object := by
  cases asked : definition.order? with
  | none =>
      rw [buildDefinitionApart_of_no_order asked] at ended
      obtain ⟨part, _, same⟩ := Attempt.focus_eq_some.mp ended
      cases same
      exact held
  | some order =>
      rw [buildDefinitionApart_of_order asked] at ended
      cases buildApart_ends ended with
      | remembered hit => exact held
      | failed miss assembling => exact held
      | built miss assembling =>
          have apart : order.key toolkit.digest ≠ key := by
            intro same
            subst same
            cases miss.symm.trans held
          simpa [Dict.find?_insert, apart] using held

namespace Moment

/-- A covered build of an order with this key succeeded with the object. -/
def Built
    (toolkit : Toolkit κ)
    (covers : Moment κ χ → Prop)
    (key : String)
    (object : Instance κ) :
    Prop :=
  ∃ moment order after,
    covers moment ∧ moment.call = .build order ∧ order.key toolkit.digest = key ∧
      moment.Ends toolkit (some object) after

/-- A covered resolution of an id with this key succeeded with the object. -/
def Got
    (toolkit : Toolkit κ)
    (covers : Moment κ χ → Prop)
    (key : String)
    (object : Instance κ) :
    Prop :=
  ∃ moment id after,
    covers moment ∧ moment.call = .get id ∧ Key.service toolkit.digest id = key ∧
      moment.Ends toolkit (some object) after

/-- What was built in the course of a call that failed was built by another call. -/
theorem Built.inside
    {toolkit : Toolkit κ}
    {root : Moment κ χ}
    {key : String}
    {object : Instance κ}
    {after : Container κ χ}
    (built : Built toolkit (root.Within toolkit) key object)
    (fails : root.Ends toolkit none after) :
    Built toolkit (root.Inside toolkit) key object := by
  obtain ⟨moment, order, afterwards, within, called, sameKey, succeeds⟩ := built
  exact ⟨moment, order, afterwards, within.inside succeeds fails, called, sameKey, succeeds⟩

/-- What was resolved in the course of a call that failed was resolved by another call. -/
theorem Got.inside
    {toolkit : Toolkit κ}
    {root : Moment κ χ}
    {key : String}
    {object : Instance κ}
    {after : Container κ χ}
    (got : Got toolkit (root.Within toolkit) key object)
    (fails : root.Ends toolkit none after) :
    Got toolkit (root.Inside toolkit) key object := by
  obtain ⟨moment, id, afterwards, within, called, sameKey, succeeds⟩ := got
  exact ⟨moment, id, afterwards, within.inside succeeds fails, called, sameKey, succeeds⟩

end Moment

/-- What calls add to a memo is what was assembled for it. -/
theorem walk_memoAddedBy
    (toolkit : Toolkit κ)
    {covers : Moment κ χ → Prop}
    (closed : ∀ outer inner,
      covers outer → Moment.Makes toolkit outer inner → covers inner)
    {adds : String → Instance κ → Prop}
    (assembled : ∀ fuel order container object between after,
      covers { fuel := fuel, call := .build order, container := container } →
        container.memo.find? (order.key toolkit.digest) = none →
        Builder.assemble toolkit (Container.get toolkit fuel) order container =
          some (.ok object, between) →
        Moment.Ends toolkit { fuel := fuel, call := .build order, container := container }
          (some object) after →
        adds (order.key toolkit.digest) object) :
    Walk toolkit covers fun before after =>
      ∀ key object, after.memo.find? key = some object →
        before.memo.find? key = some object ∨ adds key object where
  closed := closed
  refl _ _ _ held := Or.inl held
  trans _ _ _ first second key object held := by
    rcases second key object held with before | added
    · exact first key object before
    · exact Or.inr added
  lookUp _ _ _ _ held := Or.inl held
  own _ _ _ held := Or.inl held
  make _ _ _ _ container _ after made key object held := by
    rw [(Builder.make_frame made).2.2.1] at held
    exact Or.inl held
  remember fuel order container object between covered miss assembling ends related key held
      isHeld := by
    cases present : between.memo.find? (order.key toolkit.digest) with
    | some earlier =>
        unfold Container.remembering Memo.remember at isHeld
        rw [present] at isHeld
        exact related key held isHeld
    | none =>
        have isNew : (between.memo.remember (order.key toolkit.digest) object).1 = object := by
          simp only [Memo.remember, present]
        rw [isNew] at ends
        rcases find?_of_find?_remembering isHeld with before | ⟨rfl, isObject⟩
        · exact related key held before
        · rw [isNew] at isObject
          subst isObject
          exact Or.inr
            (assembled fuel order container object between _ covered miss assembling ends)
  keep _ _ _ _ _ _ _ _ _ _ _ related key object held := related key object held

/-- What calls add to a memo was built by one of them. -/
theorem walk_memoAdded
    (toolkit : Toolkit κ)
    {covers : Moment κ χ → Prop}
    (closed : ∀ outer inner,
      covers outer → Moment.Makes toolkit outer inner → covers inner) :
    Walk toolkit covers fun before after =>
      ∀ key object, after.memo.find? key = some object →
        before.memo.find? key = some object ∨ Moment.Built toolkit covers key object :=
  walk_memoAddedBy toolkit closed fun _ order _ _ _ _ covered _ _ ends =>
    ⟨_, order, _, covered, rfl, rfl, ends⟩

namespace Reentry

/-!
## A call that comes back to itself

The class `A` takes null for `x` as long as there is no service of that name, and then needs `q`,
which its type `t` supplies.  Building `t` makes both of them services and then needs `A`: this
inner `A` has all it needs, while the outer one goes on with null and fails.
-/

/-- A class whose constructor takes anything. -/
def plain (name : String) (parameters : List Parameter) : String × Blueprint Unit :=
  (name, { name := name, parameters := parameters, make := some fun _ => .ok (.plain name ()) })

/-- A parameter without a fallback. -/
def needed (name : String) (typeName : Option String) : Parameter :=
  { name := name, typeName := typeName, fallback := none }

/-- The constructor of `A`, which wants `x` to be a service. -/
def construct : Maker Unit :=
  fun arguments => do
    let _ ← arguments.service "x"
    .ok (.plain "A" ())

/-- The classes `A`, `T`, `q`, `t` and `x`. -/
def registry : Registry Unit :=
  { blueprints :=
      [("A",
        { name := "A"
          parameters :=
            [{ name := "x", typeName := none, fallback := some .null }, needed "q" (some "t")]
          make := some construct }),
      plain "T" [needed "a" none, needed "b" none, needed "c" none],
      plain "q" [], plain "t" [], plain "x" []]
    factories := Dict.empty }

def toolkit : Toolkit Unit :=
  { registry := registry, environment := fun _ => none
    digest := Digest.sha256Hex }

/-- The type `t` is supplied by building `T` with services that are classes. -/
def services : List (String × Definition Unit) :=
  [("t", .ofClass "T" [.service "x", .service "q", .service "A"])]

def start : Container Unit (MemoryCache (Instance Unit)) :=
  (Container.empty () (.empty none) none).withServices services

end Reentry

end Switchboard
