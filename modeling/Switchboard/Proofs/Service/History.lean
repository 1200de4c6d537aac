import Switchboard.Manifest.Load
import Switchboard.Proofs.Service.Growth

namespace Switchboard

/-!
# Histories of a container

A container is used one operation at a time.  `Operation` lists what can be done with it and with
its builder, `Deed` is an operation at the moment when it is done, and `History` says that deeds
led from one container to another, each beginning where the one before it ended.  A relation that
the steps of `Routine` keep holds between the ends of every history.
-/

variable {κ χ ω : Type}

/-- What can be done with a container and its builder. -/
inductive Operation (κ χ ω : Type) where
  /-- Define an id. -/
  | define (id : String) (definition : Definition κ)
  /-- Define an id by a document. -/
  | defineJson (id : String) (value : Json.Value)
  /-- Define the services of a manifest, with some documents already read. -/
  | load (reader : Manifest.Reader) (documents : ω) (path : Path)
  /-- Ask whether an id is defined or cached. -/
  | has (id : String)
  /-- Resolve an id. -/
  | get (id : String)
  /-- Build what a definition says, which may be a class or a factory call with arguments. -/
  | build (definition : Definition κ)
  /-- The same with another builder, whose memo is given. -/
  | buildApart (memo : Memo κ) (definition : Definition κ)
  /-- Let the builder of this container work for another container. -/
  | buildFor (others : Toolkit κ) (other : Container κ χ) (definition : Definition κ)
  /-- Let time pass. -/
  | wait (duration : Nat)
  /-- Let others who share the cache do something with it. -/
  | recache (cache : χ)
  /-- Forget every resolved service and every built object. -/
  | clearCache
  /-- Forget every built object. -/
  | clearMemo

theorem Container.define_of_defineJson
    {container after : Container κ χ}
    {id : String}
    {value : Json.Value}
    (defined : container.defineJson id value = .ok after) :
    ∃ definition, container.define id definition = .ok after := by
  unfold Container.defineJson at defined
  cases read : (Definition.ofJson id value : Except ServiceError (Definition κ)) with
  | error error =>
      rw [read] at defined
      cases defined
  | ok definition =>
      rw [read] at defined
      exact ⟨definition, defined⟩

namespace Operation

/-- Change the container, or fail and leave it as it is. -/
def changed (change : Container κ χ → Except ServiceError (Container κ χ)) :
    Attempt (Container κ χ) AnyError (Option (Instance κ)) :=
  fun container =>
    match change container with
    | .error error => some (.error (.container error), container)
    | .ok after => some (.ok none, after)

end Operation

/-- Defining an id touches the definitions and nothing else. -/
theorem Container.define_touches
    {container after : Container κ χ}
    {id : String}
    {definition : Definition κ}
    (defined : container.define id definition = .ok after) :
    after = { container with definitions := after.definitions } := by
  unfold define at defined
  split at defined
  · cases defined
  · split at defined <;> cases defined <;> rfl

/-- Defining an id keeps the definitions that are there, and everything else. -/
theorem Container.define_frame
    {container after : Container κ χ}
    {name : String}
    {given : Definition κ}
    (defined : container.define name given = .ok after) :
    (∀ id definition,
      container.definitions.find? id = some definition →
        after.definitions.find? id = some definition) ∧
      after.cache = container.cache ∧ after.memo = container.memo ∧
        after.now = container.now := by
  unfold define at defined
  split at defined
  · cases defined
  · split at defined
    · cases defined
    · cases defined
      exact ⟨fun _ _ held => held, rfl, rfl, rfl⟩
    · rename_i undefined
      cases defined
      refine ⟨?_, rfl, rfl, rfl⟩
      intro id definition held
      have apart : name ≠ id := by
        intro same
        subst same
        cases undefined.symm.trans held
      simpa [Dict.find?_insert, apart] using held

private theorem relates_of_changed
    {relates : Container κ χ → Container κ χ → Prop}
    (refl : ∀ container, relates container container)
    (define : ∀ id definition container after,
      container.define id definition = .ok after → relates container after)
    {change : Container κ χ → Except ServiceError (Container κ χ)}
    {container after : Container κ χ}
    {outcome : Except AnyError (Option (Instance κ))}
    (defines : ∀ changed, change container = .ok changed →
      ∃ id definition, container.define id definition = .ok changed)
    (ended : Operation.changed change container = some (outcome, after)) :
    relates container after := by
  unfold Operation.changed at ended
  cases attempted : change container with
  | error error =>
      rw [attempted] at ended
      cases ended
      exact refl _
  | ok changed =>
      rw [attempted] at ended
      cases ended
      obtain ⟨id, definition, defined⟩ := defines _ attempted
      exact define id definition _ _ defined

private theorem relates_of_defineServices
    {relates : Container κ χ → Container κ χ → Prop}
    (refl : ∀ container, relates container container)
    (trans : ∀ first second third,
      relates first second → relates second third → relates first third)
    (define : ∀ id definition container after,
      container.define id definition = .ok after → relates container after)
    {items : List Manifest.ServiceItem}
    {container after : Container κ χ}
    {outcome : Except ManifestError Unit}
    (ended : Manifest.Reader.defineServices items container = some (outcome, after)) :
    relates container after := by
  induction items generalizing container with
  | nil =>
      cases ended
      exact refl _
  | cons item items inductionHypothesis =>
      unfold Manifest.Reader.defineServices at ended
      cases defined : container.defineJson item.id (.object item.definition) with
      | error error =>
          rw [defined] at ended
          cases ended
          exact refl _
      | ok between =>
          rw [defined] at ended
          obtain ⟨definition, defined⟩ := Container.define_of_defineJson defined
          exact trans _ _ _ (define _ _ _ _ defined) (inductionHypothesis ended)

private theorem relates_of_load
    [CacheStore ω Json.Value]
    {relates : Container κ χ → Container κ χ → Prop}
    (refl : ∀ container, relates container container)
    (trans : ∀ first second third,
      relates first second → relates second third → relates first third)
    (define : ∀ id definition container after,
      container.define id definition = .ok after → relates container after)
    {reader : Manifest.Reader}
    {path : Path}
    {documents documentsAfter : ω}
    {container after : Container κ χ}
    {outcome : Except ManifestError Nat}
    (ended :
      reader.loadServices path (documents, container) =
        some (outcome, (documentsAfter, after))) :
    relates container after := by
  unfold Manifest.Reader.loadServices at ended
  rcases Attempt.bind_eq_some.mp ended with ⟨error, refused, _⟩ | ⟨items, between, read, rest⟩
  · obtain ⟨part, _, same⟩ := Attempt.focus_eq_some.mp refused
    cases same
    exact refl _
  · obtain ⟨part, _, rfl⟩ := Attempt.focus_eq_some.mp read
    obtain ⟨_, rest, _⟩ := Attempt.bind_pure_eq_some.mp rest
    obtain ⟨part, defined, same⟩ := Attempt.focus_eq_some.mp rest
    cases same
    exact relates_of_defineServices refl trans define defined

variable [CacheStore χ (Instance κ)]

namespace Operation

/-- Carry out an operation; the answer is an object if the operation is for one. -/
def run [CacheStore ω Json.Value] (toolkit : Toolkit κ) (fuel : Nat) :
    Operation κ χ ω → Attempt (Container κ χ) AnyError (Option (Instance κ))
  | .define id definition => changed fun container => container.define id definition
  | .defineJson id value => changed fun container => container.defineJson id value
  | .load reader documents path => do
      let _ ← ((reader.loadServices path).mapError .manifest).carrying documents
      pure none
  | .has _ => pure none
  | .get id => do
      let object ← (Container.get toolkit fuel id).mapError .container
      pure (some object)
  | .build definition => do
      let object ←
        (Builder.buildDefinition toolkit (Container.get toolkit fuel) definition).mapError
          .build
      pure (some object)
  | .buildApart memo definition => do
      let built ←
        ((Builder.buildDefinitionApart toolkit (Container.get toolkit fuel)
          definition).mapError .build).carrying memo
      pure (some built.1)
  | .buildFor others other definition => fun container =>
      match Builder.buildDefinitionApart toolkit (Container.get others fuel) definition
          (container.memo, other) with
      | none => none
      | some (outcome, (memo, _)) =>
          some ((outcome.map some).mapError .build, { container with memo := memo })
  | .wait duration =>
      .changing fun container => (none, { container with now := container.now + duration })
  | .recache cache => .changing fun container => (none, { container with cache := cache })
  | .clearCache => .changing fun container => (none, container.clearCache)
  | .clearMemo => .changing fun container => (none, container.clearMemo)

/-- Whether an operation is there to define services. -/
def registers : Operation κ χ ω → Bool
  | .define _ _ | .defineJson _ _ | .load _ _ _ => true
  | _ => false

/-- Whether an operation forgets what was built. -/
def clears : Operation κ χ ω → Bool
  | .clearCache | .clearMemo => true
  | _ => false

/-- Whether an operation is none of this container, but of others who share its cache. -/
def isForeign : Operation κ χ ω → Bool
  | .recache _ => true
  | _ => false

end Operation

/-- An operation, and the container at the moment when it is done. -/
structure Deed (κ χ ω : Type) where
  fuel : Nat
  operation : Operation κ χ ω
  container : Container κ χ

namespace Deed

/-- The calls that a deed makes of the container. -/
inductive Starts (toolkit : Toolkit κ) : Deed κ χ ω → Moment κ χ → Prop
  | get {fuel : Nat} {id : String} {container : Container κ χ} :
      Starts toolkit
        { fuel := fuel, operation := .get id, container := container }
        { fuel := fuel, call := .get id, container := container }
  | build
      {fuel : Nat}
      {definition : Definition κ}
      {order : Order}
      {container : Container κ χ}
      (asked : definition.order? = some order) :
      Starts toolkit
        { fuel := fuel, operation := .build definition, container := container }
        { fuel := fuel, call := .build order, container := container }
  | follow {fuel : Nat} {target : String} {container : Container κ χ} :
      Starts toolkit
        { fuel := fuel, operation := .build (.aliasOf target), container := container }
        { fuel := fuel, call := .get target, container := container }
  | followApart
      {fuel : Nat}
      {memo : Memo κ}
      {target : String}
      {container : Container κ χ} :
      Starts toolkit
        { fuel := fuel, operation := .buildApart memo (.aliasOf target)
          container := container }
        { fuel := fuel, call := .get target, container := container }
  /-- Another builder needs a service of the container. -/
  | injectApart
      {fuel : Nat}
      {memo : Memo κ}
      {definition : Definition κ}
      {order : Order}
      {recipe : Recipe κ}
      {id : String}
      {container later : Container κ χ}
      (asked : definition.order? = some order)
      (miss : memo.find? (order.key toolkit.digest) = none)
      (known : order.recipe toolkit.registry = .ok recipe)
      (asks :
        Builder.Asks toolkit (Container.get toolkit fuel) order.className recipe.parameters
          order.arguments container id later) :
      Starts toolkit
        { fuel := fuel, operation := .buildApart memo definition, container := container }
        { fuel := fuel, call := .get id, container := later }

end Deed

/-- A relation between containers that the calls of permitted deeds keep, and everything else that
these deeds do. -/
structure Routine
    (toolkit : Toolkit κ)
    (permits : Deed κ χ ω → Prop)
    (covers : Moment κ χ → Prop)
    (relates : Container κ χ → Container κ χ → Prop) :
    Prop extends Walk toolkit covers relates where
  starts : ∀ deed root, permits deed → deed.Starts toolkit root → covers root
  define : ∀ id definition container after,
    container.define id definition = .ok after → relates container after
  /-- The builder works for another container. -/
  lend : ∀ fuel others other definition container outcome memo otherAfter,
    permits { fuel := fuel, operation := .buildFor others other definition
              container := container } →
      Builder.buildDefinitionApart toolkit (Container.get others fuel) definition
          (container.memo, other) =
        some (outcome, (memo, otherAfter)) →
      relates container { container with memo := memo }
  wait : ∀ fuel duration container,
    permits { fuel := fuel, operation := .wait duration, container := container } →
      relates container { container with now := container.now + duration }
  recache : ∀ fuel cache container,
    permits { fuel := fuel, operation := .recache cache, container := container } →
      relates container { container with cache := cache }
  clearCache : ∀ fuel container,
    permits { fuel := fuel, operation := .clearCache, container := container } →
      relates container container.clearCache
  clearMemo : ∀ fuel container,
    permits { fuel := fuel, operation := .clearMemo, container := container } →
      relates container container.clearMemo

namespace Routine

variable
  {toolkit : Toolkit κ}
  {permits : Deed κ χ ω → Prop}
  {covers : Moment κ χ → Prop}
  {relates : Container κ χ → Container κ χ → Prop}

/-- A call that a permitted deed starts keeps the relation. -/
private theorem relates_of_starts
    (routine : Routine toolkit permits covers relates)
    {deed : Deed κ χ ω}
    {root : Moment κ χ}
    {result : Option (Instance κ)}
    {after : Container κ χ}
    (permitted : permits deed)
    (starts : deed.Starts toolkit root)
    (ends : root.Ends toolkit result after) :
    relates root.container after :=
  routine.relates_of_ends (routine.starts deed root permitted starts) ends

private theorem relates_of_buildDefinition
    (routine : Routine toolkit permits covers relates)
    {fuel : Nat}
    {definition : Definition κ}
    {container after : Container κ χ}
    {outcome : Except BuildError (Instance κ)}
    (permitted :
      permits { fuel := fuel, operation := .build definition, container := container })
    (ended :
      Builder.buildDefinition toolkit (Container.get toolkit fuel) definition container =
        some (outcome, after)) :
    relates container after := by
  cases asked : definition.order? with
  | some order =>
      rw [Builder.buildDefinition_of_order asked] at ended
      exact routine.relates_of_starts permitted (.build asked) ⟨outcome, ended, rfl⟩
  | none =>
      cases definition with
      | ofClass className arguments => cases asked
      | ofFactory className method arguments => cases asked
      | prebuilt object =>
          cases ended
          exact routine.refl _
      | itself =>
          cases ended
          exact routine.own _
      | aliasOf target =>
          obtain ⟨answer, resolved, _⟩ := Attempt.mapError_eq_some.mp ended
          exact routine.relates_of_starts permitted .follow ⟨answer, resolved, rfl⟩

private theorem relates_of_buildDefinitionApart
    (routine : Routine toolkit permits covers relates)
    {fuel : Nat}
    {definition : Definition κ}
    {memo memoAfter : Memo κ}
    {container after : Container κ χ}
    {outcome : Except BuildError (Instance κ)}
    (permitted :
      permits { fuel := fuel, operation := .buildApart memo definition
                container := container })
    (ended :
      Builder.buildDefinitionApart toolkit (Container.get toolkit fuel) definition
          (memo, container) =
        some (outcome, (memoAfter, after))) :
    relates container after := by
  cases asked : definition.order? with
  | some order =>
      have assembles
          {result : Except BuildError (Instance κ)}
          {between : Container κ χ}
          (miss : memo.find? (order.key toolkit.digest) = none)
          (assembling :
            Builder.assemble toolkit (Container.get toolkit fuel) order container =
              some (result, between)) :
          relates container between :=
        routine.assembles (routine.gets fuel)
          (fun _ _ _ known asks =>
            routine.starts _ _ permitted (.injectApart asked miss known asks))
          assembling
      rw [Builder.buildDefinitionApart_of_order asked] at ended
      cases Builder.buildApart_ends ended with
      | remembered hit => exact routine.refl _
      | failed miss assembling => exact assembles miss assembling
      | built miss assembling => exact assembles miss assembling
  | none =>
      rw [Builder.buildDefinitionApart_of_no_order asked] at ended
      obtain ⟨part, ended, same⟩ := Attempt.focus_eq_some.mp ended
      cases same
      cases definition with
      | ofClass className arguments => cases asked
      | ofFactory className method arguments => cases asked
      | prebuilt object =>
          cases ended
          exact routine.refl _
      | itself =>
          cases ended
          exact routine.own _
      | aliasOf target =>
          obtain ⟨answer, resolved, _⟩ := Attempt.mapError_eq_some.mp ended
          exact routine.relates_of_starts permitted .followApart ⟨answer, resolved, rfl⟩

end Routine

/-- Whatever is done without clearing, the memo keeps what it has. -/
theorem routine_memoKept (toolkit : Toolkit κ) :
    Routine (ω := ω) toolkit (fun deed => deed.operation.clears = false) (fun _ => True)
      (MemoKept (κ := κ) (χ := χ)) where
  toWalk := (stride_memoKept toolkit).walk
  starts _ _ _ _ := trivial
  define := by
    intro id definition container after defined key object held
    obtain ⟨_, _, sameMemo, _⟩ := Container.define_frame defined
    rw [sameMemo]
    exact held
  lend _ _ _ _ _ _ _ _ _ lent _ _ held := Builder.find?_of_buildDefinitionApart lent held
  wait _ _ _ _ _ _ held := held
  recache _ _ _ _ _ _ held := held
  clearCache _ _ permitted := nomatch permitted
  clearMemo _ _ permitted := nomatch permitted

variable [CacheStore ω Json.Value]

/-- A deed ends with an answer and leaves a container. -/
def Deed.Ends
    (toolkit : Toolkit κ)
    (deed : Deed κ χ ω)
    (outcome : Except AnyError (Option (Instance κ)))
    (after : Container κ χ) :
    Prop :=
  deed.operation.run toolkit deed.fuel deed.container = some (outcome, after)

/-- Deeds that led from one container to another, the first one first. -/
inductive History (toolkit : Toolkit κ) (start : Container κ χ) :
    List (Deed κ χ ω) → Container κ χ → Prop
  | start : History toolkit start [] start
  | step
      {deeds : List (Deed κ χ ω)}
      {deed : Deed κ χ ω}
      {outcome : Except AnyError (Option (Instance κ))}
      {after : Container κ χ}
      (earlier : History toolkit start deeds deed.container)
      (ends : deed.Ends toolkit outcome after) :
      History toolkit start (deeds ++ [deed]) after

theorem History.append
    {toolkit : Toolkit κ}
    {start between after : Container κ χ}
    {first second : List (Deed κ χ ω)}
    (earlier : History toolkit start first between)
    (later : History toolkit between second after) :
    History toolkit start (first ++ second) after := by
  induction later with
  | start =>
      simpa using earlier
  | step _ ends inductionHypothesis =>
      rw [← List.append_assoc]
      exact .step inductionHypothesis ends

namespace Routine

variable
  {toolkit : Toolkit κ}
  {permits : Deed κ χ ω → Prop}
  {covers : Moment κ χ → Prop}
  {relates : Container κ χ → Container κ χ → Prop}

theorem relates_of_registration
    (relates : Container κ χ → Container κ χ → Prop)
    (refl : ∀ container, relates container container)
    (trans : ∀ first second third,
      relates first second → relates second third → relates first third)
    (define : ∀ id definition container after,
      container.define id definition = .ok after → relates container after)
    {deed : Deed κ χ ω}
    {outcome : Except AnyError (Option (Instance κ))}
    {after : Container κ χ}
    (registers : deed.operation.registers = true)
    (ends : deed.Ends toolkit outcome after) :
    relates deed.container after := by
  obtain ⟨fuel, operation, container⟩ := deed
  cases operation with
  | define id definition =>
      simp only [Deed.Ends, Operation.run] at ends
      exact relates_of_changed refl define (fun _ defined => ⟨id, definition, defined⟩) ends
  | defineJson id value =>
      simp only [Deed.Ends, Operation.run] at ends
      exact relates_of_changed refl define
        (fun _ defined => ⟨id, Container.define_of_defineJson defined⟩) ends
  | load reader documents path =>
      obtain ⟨_, ended, _⟩ := Attempt.bind_pure_eq_some.mp ends
      obtain ⟨_, carried, ended, _⟩ := Attempt.carrying_eq_some.mp ended
      obtain ⟨_, ended, _⟩ := Attempt.mapError_eq_some.mp ended
      exact relates_of_load refl trans define ended
  | _ => cases registers

/-- A permitted deed keeps the relation. -/
theorem relates_of_deed
    (routine : Routine toolkit permits covers relates)
    {deed : Deed κ χ ω}
    {outcome : Except AnyError (Option (Instance κ))}
    {after : Container κ χ}
    (permitted : permits deed)
    (ends : deed.Ends toolkit outcome after) :
    relates deed.container after := by
  by_cases registers : deed.operation.registers = true
  · exact relates_of_registration relates routine.refl routine.trans routine.define registers ends
  obtain ⟨fuel, operation, container⟩ := deed
  cases operation with
  | define id definition => exact absurd rfl registers
  | defineJson id value => exact absurd rfl registers
  | load reader documents path => exact absurd rfl registers
  | has id =>
      cases ends
      exact routine.refl _
  | get id =>
      obtain ⟨_, ended, _⟩ := Attempt.bind_pure_eq_some.mp ends
      obtain ⟨answer, ended, _⟩ := Attempt.mapError_eq_some.mp ended
      exact routine.relates_of_starts permitted .get ⟨answer, ended, rfl⟩
  | build definition =>
      obtain ⟨_, ended, _⟩ := Attempt.bind_pure_eq_some.mp ends
      obtain ⟨answer, ended, _⟩ := Attempt.mapError_eq_some.mp ended
      exact routine.relates_of_buildDefinition permitted ended
  | buildApart memo definition =>
      obtain ⟨_, ended, _⟩ := Attempt.bind_pure_eq_some.mp ends
      obtain ⟨_, carried, ended, _⟩ := Attempt.carrying_eq_some.mp ended
      obtain ⟨answer, ended, _⟩ := Attempt.mapError_eq_some.mp ended
      exact routine.relates_of_buildDefinitionApart permitted ended
  | buildFor others other definition =>
      simp only [Deed.Ends, Operation.run] at ends
      cases lent : Builder.buildDefinitionApart toolkit (Container.get others fuel) definition
          (container.memo, other) with
      | none =>
          rw [lent] at ends
          cases ends
      | some ending =>
          obtain ⟨result, memo, otherAfter⟩ := ending
          rw [lent] at ends
          cases ends
          exact routine.lend _ _ _ _ _ _ _ _ permitted lent
  | wait duration =>
      cases ends
      exact routine.wait _ _ _ permitted
  | recache cache =>
      cases ends
      exact routine.recache _ _ _ permitted
  | clearCache =>
      cases ends
      exact routine.clearCache _ _ permitted
  | clearMemo =>
      cases ends
      exact routine.clearMemo _ _ permitted

/-- Permitted deeds, however many, keep the relation. -/
theorem relates_of_history
    (routine : Routine toolkit permits covers relates)
    {start after : Container κ χ}
    {deeds : List (Deed κ χ ω)}
    (permitted : ∀ deed ∈ deeds, permits deed)
    (history : History toolkit start deeds after) :
    relates start after := by
  induction history with
  | start =>
      exact routine.refl _
  | step earlier ends inductionHypothesis =>
      exact routine.trans _ _ _
        (inductionHypothesis fun deed member =>
          permitted deed (List.mem_append_left _ member))
        (routine.relates_of_deed (permitted _ (by simp)) ends)

end Routine

end Switchboard
