import Switchboard.Proofs.Service.History
import Switchboard.Proofs.Service.KeyText

namespace Switchboard

/-!
# The first definition decides

From the registration of an id on, resolving it comes to the object that its definition denotes,
in whatever order ids are defined, resolved and injected.  There is one exception: an object that
was cached under the id before it was registered, which is answered as long as the cache has it.
-/

variable {κ χ ω : Type}

/-- A definition that is neither an alias nor the container itself. -/
def Definition.isConcrete : Definition κ → Bool
  | .ofClass _ _ | .ofFactory _ _ _ | .prebuilt _ => true
  | .aliasOf _ | .itself => false

/-- A definition that leads to an order is concrete. -/
theorem isConcrete_of_order
    {definition : Definition κ}
    {order : Order}
    (asked : definition.order? = some order) :
    definition.isConcrete = true := by
  cases definition <;> first | rfl | cases asked

/-- The object that a concrete definition stands for: the given one, or the remembered one. -/
def Container.Denotes
    (toolkit : Toolkit κ)
    (container : Container κ χ)
    (definition : Definition κ)
    (object : Instance κ) :
    Prop :=
  definition = .prebuilt object ∨
    ∃ order,
      definition.order? = some order ∧
        container.memo.find? (order.key toolkit.digest) = some object

/-- What a definition denotes it denotes as long as nothing is forgotten. -/
theorem Container.Denotes.mono
    {toolkit : Toolkit κ}
    {before after : Container κ χ}
    {definition : Definition κ}
    {object : Instance κ}
    (denotes : before.Denotes toolkit definition object)
    (kept : MemoKept before after) :
    after.Denotes toolkit definition object := by
  rcases denotes with given | ⟨order, asked, held⟩
  · exact Or.inl given
  · exact Or.inr ⟨order, asked, kept _ _ held⟩

variable [CacheStore χ (Instance κ)]

/-- Building what a concrete definition denotes comes to that object and changes nothing. -/
theorem Container.Denotes.build
    {toolkit : Toolkit κ}
    {container : Container κ χ}
    {definition : Definition κ}
    {object : Instance κ}
    (denotes : container.Denotes toolkit definition object)
    (resolve : Builder.Resolver κ χ) :
    Builder.buildDefinition toolkit resolve definition container =
      some (.ok object, container) := by
  rcases denotes with given | ⟨order, asked, held⟩
  · subst given
    rfl
  · rw [Builder.buildDefinition_of_order asked]
    exact Builder.build_remembered held

/-- A concrete definition is resolved to what it denotes. -/
theorem Container.denotes_of_definitionEnds
    {toolkit : Toolkit κ}
    {resolve : Builder.Resolver κ χ}
    {id : String}
    {definition : Definition κ}
    {container after : Container κ χ}
    {object : Instance κ}
    (concrete : definition.isConcrete = true)
    (resolution :
      DefinitionEnds toolkit resolve id container (some definition) (.ok object) after) :
    after.Denotes toolkit definition object := by
  generalize ended : Except.ok object = outcome at resolution
  cases resolution with
  | circle cyclic => cases concrete
  | followed acyclic resolved => cases concrete
  | own => cases concrete
  | given prebuilt =>
      cases ended
      exact Or.inl rfl
  | @ordered _ order outcome _ asked built =>
      cases outcome with
      | error error => cases ended
      | ok built' =>
          cases ended
          exact Or.inr ⟨order, asked, Builder.find?_of_build built⟩

/--
The id has this definition, and whatever the cache has for it, now or later, is what the
definition denotes or one stale object.
-/
structure Loyal
    (toolkit : Toolkit κ)
    (id : String)
    (definition : Definition κ)
    (stale : Option (Instance κ))
    (container : Container κ χ) :
    Prop where
  defined : container.definitions.find? id = some definition
  cached : ∀ later object,
    container.now ≤ later →
      (CacheStore.get container.cache later (Key.service toolkit.digest id)).1 = some object →
      stale = some object ∨ container.Denotes toolkit definition object

namespace Loyal

variable
  {toolkit : Toolkit κ}
  {id : String}
  {definition : Definition κ}
  {stale : Option (Instance κ)}

/-- Loyalty outlasts changes that keep the definition, the cache, the memo and the time. -/
private theorem of_kept
    {before after : Container κ χ}
    (loyal : Loyal toolkit id definition stale before)
    (defined : after.definitions.find? id = some definition)
    (sameCache : after.cache = before.cache)
    (memoKept : MemoKept before after)
    (time : before.now ≤ after.now) :
    Loyal toolkit id definition stale after where
  defined := defined
  cached later object reached found := by
    rw [sameCache] at found
    exact (loyal.cached later object (Nat.le_trans time reached) found).imp_right
      fun denotes => denotes.mono memoKept

/-- A loyal id is not that of the container itself. -/
theorem ne_itself
    {container : Container κ χ}
    (concrete : definition.isConcrete = true)
    (loyal : Loyal toolkit id definition stale container) :
    container.definitions.find? id ≠ some .itself := by
  rw [loyal.defined]
  rintro ⟨⟩
  cases concrete

/-- An object that a loyal id was resolved to is what its definition denotes, or stale and still in
the cache. -/
theorem get
    {container after : Container κ χ}
    {fuel : Nat}
    {object : Instance κ}
    (concrete : definition.isConcrete = true)
    (loyal : Loyal toolkit id definition stale container)
    (got : Container.get toolkit fuel id container = some (.ok object, after)) :
    stale = some object ∧ container.found? (Key.service toolkit.digest id) = some object ∨
      after.Denotes toolkit definition object := by
  cases fuel with
  | zero => cases got
  | succ fuel =>
      cases Container.get_ends got with
      | own itself => exact absurd itself (loyal.ne_itself concrete)
      | cached defined hit =>
          exact (loyal.cached container.now object (Nat.le_refl _) hit).imp_left
            fun isStale => ⟨isStale, hit⟩
      | resolved defined miss resolution =>
          rw [loyal.defined] at resolution
          have denotes := Container.denotes_of_definitionEnds concrete resolution
          exact Or.inr (denotes.mono fun _ _ held => held)

end Loyal

variable [FaithfulStore χ (Instance κ)]

/-- Whatever is done without forgetting, an id stays loyal to its first definition. -/
theorem routine_loyal
    {toolkit : Toolkit κ}
    {id : String}
    {definition : Definition κ}
    {stale : Option (Instance κ)}
    (concrete : definition.isConcrete = true)
    (distinct : ∀ other, toolkit.digest other = toolkit.digest id → other = id) :
    Routine (ω := ω) toolkit
      (fun deed => deed.operation.clears = false ∧ deed.operation.isForeign = false)
      (fun _ => True)
      (fun before after : Container κ χ =>
        Loyal toolkit id definition stale before →
          Loyal toolkit id definition stale after) where
  closed _ _ _ _ := trivial
  starts _ _ _ _ := trivial
  refl _ loyal := loyal
  trans _ _ _ first second loyal := second (first loyal)
  lookUp asked container loyal :=
    { defined := loyal.defined
      cached := fun later object reached found =>
        loyal.cached later object reached (FaithfulStore.found_of_get _ _ _ _ _ _ found) }
  own _ loyal := loyal.of_kept loyal.defined rfl (fun _ _ held => held) (Nat.le_refl _)
  make := by
    intro origin title maker arguments container outcome after made loyal
    obtain ⟨sameDefinitions, sameCache, sameMemo, sameTime⟩ := Builder.make_frame made
    apply loyal.of_kept _ sameCache _ (Nat.le_of_eq sameTime.symm)
    · rw [sameDefinitions]
      exact loyal.defined
    · intro key object held
      rw [sameMemo]
      exact held
  remember _ _ _ _ between _ _ _ _ related loyal :=
    (related loyal).of_kept (related loyal).defined rfl
      (memoKept_remembering between _ _) (Nat.le_refl _)
  keep := by
    intro fuel asked container object between _ _ _ resolution _ _ related loyal
    refine ⟨(related loyal).defined, ?_⟩
    intro later found reached isFound
    rcases FaithfulStore.found_of_set _ _ _ _ _ _ _ _ isFound with ⟨sameKey, rfl⟩ | before
    · have same : asked = id :=
        distinct asked ((String.append_right_inj _).mp sameKey)
      subst same
      rw [loyal.defined] at resolution
      have denotes := Container.denotes_of_definitionEnds concrete resolution
      exact Or.inr (denotes.mono fun _ _ held => held)
    · exact (related loyal).cached later found reached before
  define := by
    intro name given container after defined loyal
    obtain ⟨definitionsKept, sameCache, sameMemo, sameTime⟩ := Container.define_frame defined
    apply loyal.of_kept (definitionsKept id definition loyal.defined) sameCache _
      (Nat.le_of_eq sameTime.symm)
    intro key object held
    rw [sameMemo]
    exact held
  lend := by
    intro fuel others other given container outcome memo otherAfter _ lent loyal
    exact loyal.of_kept loyal.defined rfl (fun _ _ => Builder.find?_of_buildDefinitionApart lent)
      (Nat.le_refl _)
  wait _ _ _ _ loyal :=
    loyal.of_kept loyal.defined rfl (fun _ _ held => held) (Nat.le_add_right _ _)
  recache _ _ _ permitted _ := nomatch permitted.2
  clearCache _ _ permitted _ := nomatch permitted.1
  clearMemo _ _ permitted _ := nomatch permitted.1

namespace FirstDefinition

/-- The texts that are digested when `x` is resolved as a class. -/
def digested : List String := ["x", "x::__construct|[]"]

def toolkit : Toolkit Unit :=
  { Reentry.toolkit with digest := Key.sampled digested }

/-- An object that was built elsewhere. -/
def foreign : Instance Unit := (Product.plain "u64" ()).toInstance 7

def empty : Container Unit (MemoryCache (Instance Unit)) := .empty () (.empty none) none

/-- The container after `x` was defined as the class `x`. -/
def defined : Container Unit (MemoryCache (Instance Unit)) :=
  { empty with definitions := empty.definitions.insert "x" (.ofClass "x" []) }

theorem digest_injective : Function.Injective toolkit.digest := by
  have apart : Digest.sha256Hex "x" ≠ Digest.sha256Hex "x::__construct|[]" := by
    decide +kernel
  apply Key.sampled_injective
  simp [digested, apart, apart.symm]

end FirstDefinition

/-- What an id is resolved to in a container, after it was registered in an earlier one. -/
structure FirstDefinitionLaws
    (ω : Type)
    [CacheStore ω Json.Value]
    (toolkit : Toolkit κ)
    (id : String)
    (definition : Definition κ)
    (registering container : Container κ χ) :
    Prop where
  /-- What the cache has for the id is the answer. -/
  cached : ∀ object fuel,
    container.found? (Key.service toolkit.digest id) = some object →
      Container.get toolkit (fuel + 1) id container =
        some (.ok object, container.lookedUp (Key.service toolkit.digest id))
  /-- An answer that the cache had for the id before the registration is one that it still has, and
  every other one is the given object or what building the definition comes to ever after. -/
  answered : ∀ object fuel after,
    Container.get toolkit fuel id container = some (.ok object, after) →
      registering.found? (Key.service toolkit.digest id) = some object ∧
          container.found? (Key.service toolkit.digest id) = some object ∨
        (∀ given, definition = .prebuilt given → object = given) ∧
          ∀ (deeds : List (Deed κ χ ω)) last buildFuel,
            History toolkit after deeds last →
              (∀ deed ∈ deeds,
                deed.operation.clears = false ∧ deed.operation.isForeign = false) →
              Builder.buildDefinition toolkit (Container.get toolkit buildFuel) definition last =
                some (.ok object, last)

variable [CacheStore ω Json.Value]

/--
Every object that an id is resolved to after its registration is what its definition denotes: the
given object, or the one that building the definition comes to, then and ever after.  Only an
object that was cached under the id when it was registered can come in between, and it does as long
as the cache has it.
-/
theorem Container.get_first_definition
    {toolkit : Toolkit κ}
    {id : String}
    {definition : Definition κ}
    (concrete : definition.isConcrete = true)
    (distinct : ∀ other, toolkit.digest other = toolkit.digest id → other = id)
    {registration : Deed κ χ ω}
    {outcome : Except AnyError (Option (Instance κ))}
    {start : Container κ χ}
    (registers : registration.operation.registers = true)
    (registered : registration.Ends toolkit outcome start)
    (defined : start.definitions.find? id = some definition)
    {deeds : List (Deed κ χ ω)}
    {before : Container κ χ}
    (history : History toolkit start deeds before)
    (permitted : ∀ deed ∈ deeds,
      deed.operation.clears = false ∧ deed.operation.isForeign = false) :
    FirstDefinitionLaws ω toolkit id definition registration.container before := by
  have untouched :
      start.cache = registration.container.cache ∧
        start.now = registration.container.now := by
    apply Routine.relates_of_registration
      (fun before after => after.cache = before.cache ∧ after.now = before.now)
      _ _ _ registers registered
    · exact fun _ => ⟨rfl, rfl⟩
    · exact fun _ _ _ first second =>
        ⟨second.1.trans first.1, second.2.trans first.2⟩
    · intro name given container after defined
      obtain ⟨_, sameCache, _, sameTime⟩ := define_frame defined
      exact ⟨sameCache, sameTime⟩
  have loyal :
      Loyal toolkit id definition
        (registration.container.found? (Key.service toolkit.digest id)) start := by
    refine ⟨defined, ?_⟩
    intro later found reached isFound
    rw [untouched.1] at isFound
    rw [untouched.2] at reached
    exact Or.inl (FaithfulStore.found_earlier _ _ _ _ _ reached isFound)
  have stillLoyal :=
    (routine_loyal concrete distinct).relates_of_history permitted history loyal
  constructor
  · intro object fuel cached
    rw [get_other (stillLoyal.ne_itself concrete), cached]
  · intro object fuel after got
    rcases stillLoyal.get concrete got with stale | denotes
    · exact Or.inl stale
    · right
      constructor
      · rintro given rfl
        rcases denotes with same | ⟨order, asked, _⟩
        · exact ((Definition.prebuilt.injEq _ _).mp same).symm
        · cases asked
      · intro more last buildFuel later permittedLater
        have kept := (routine_memoKept toolkit).relates_of_history
          (fun deed member => (permittedLater deed member).1) later
        exact (denotes.mono kept).build _

/-- The class `x` is resolved although another definition of `x` came later. -/
theorem Container.get_first_definition_of_class :
    ∃ object after,
      get FirstDefinition.toolkit 3 "x" FirstDefinition.defined = some (.ok object, after) ∧
        Builder.buildDefinition FirstDefinition.toolkit (get FirstDefinition.toolkit 3)
            (.ofClass "x" []) after =
          some (.ok object, after) := by
  have passes :
      Attempt.endsSo (fun outcome _ => outcome.toOption.isSome)
        (get FirstDefinition.toolkit 3 "x" FirstDefinition.defined) = true := by
    decide +kernel
  obtain ⟨outcome, after, got, succeeded⟩ := Attempt.exists_of_endsSo passes
  cases outcome with
  | error error => cases succeeded
  | ok object =>
      let registration : Deed Unit (MemoryCache (Instance Unit)) (BlankCache Json.Value) :=
        { fuel := 0, operation := .define "x" (.ofClass "x" [])
          container := FirstDefinition.empty }
      let second : Deed Unit (MemoryCache (Instance Unit)) (BlankCache Json.Value) :=
        { fuel := 0, operation := .define "x" (.prebuilt FirstDefinition.foreign)
          container := FirstDefinition.defined }
      have registered :
          registration.Ends FirstDefinition.toolkit (.ok none) FirstDefinition.defined :=
        rfl
      have passedOver :
          second.Ends FirstDefinition.toolkit (.ok none) FirstDefinition.defined :=
        rfl
      have history :
          History FirstDefinition.toolkit FirstDefinition.defined [second]
            FirstDefinition.defined :=
        History.step History.start passedOver
      have uncached :
          FirstDefinition.empty.found? (Key.service FirstDefinition.toolkit.digest "x") =
            none :=
        rfl
      have permitted : ∀ deed ∈ [second],
          deed.operation.clears = false ∧ deed.operation.isForeign = false := by
        simp [second, Operation.clears, Operation.isForeign]
      have isDefined :
          FirstDefinition.defined.definitions.find? "x" = some (.ofClass "x" []) :=
        rfl
      have laws := get_first_definition rfl
        (fun _ same => FirstDefinition.digest_injective same) rfl registered isDefined history
        permitted
      rcases laws.answered object 3 after got with ⟨cached, _⟩ | ⟨_, denoted⟩
      · cases uncached.symm.trans cached
      · exact ⟨object, after, got, denoted [] after 3 .start (by simp)⟩

/--
An object that is cached before its id is registered goes before the definition: `x` is built as a
class, then registered as a given object, and resolved to something else.
-/
theorem Container.get_can_precede_first_definition :
    ∃ built between registered object after,
      get Reentry.toolkit 3 "x" Reentry.start = some (.ok built, between) ∧
        between.definitions.find? "x" = none ∧
        between.define "x" (.prebuilt FirstDefinition.foreign) = .ok registered ∧
        get Reentry.toolkit 3 "x" registered = some (.ok object, after) ∧
        object ≠ FirstDefinition.foreign := by
  have passes :
      Attempt.endsSo
        (fun first between =>
          first.toOption.isSome && (between.definitions.find? "x").isNone &&
            match between.define "x" (.prebuilt FirstDefinition.foreign) with
            | .error _ => false
            | .ok registered =>
                Attempt.endsSo
                  (fun last _ =>
                    match last with
                    | .error _ => false
                    | .ok object => decide (object ≠ FirstDefinition.foreign))
                  (get Reentry.toolkit 3 "x" registered))
        (get Reentry.toolkit 3 "x" Reentry.start) = true := by
    decide +kernel
  obtain ⟨first, between, gotFirst, tested⟩ := Attempt.exists_of_endsSo passes
  simp only [Bool.and_eq_true, Option.isNone_iff_eq_none] at tested
  obtain ⟨⟨succeeded, undefined⟩, rest⟩ := tested
  cases defined : between.define "x" (.prebuilt FirstDefinition.foreign) with
  | error error =>
      rw [defined] at rest
      cases rest
  | ok registered =>
      rw [defined] at rest
      obtain ⟨last, after, gotLast, differs⟩ := Attempt.exists_of_endsSo rest
      cases first with
      | error error => cases succeeded
      | ok built =>
          cases last with
          | error error => cases differs
          | ok object =>
              exact ⟨built, between, registered, object, after, gotFirst, undefined, defined,
                gotLast, of_decide_eq_true differs⟩

end Switchboard
