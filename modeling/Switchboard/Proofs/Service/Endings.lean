import Switchboard.Proofs.Service.Recipe
import Switchboard.Service.Resolve

namespace Switchboard

/-!
# How resolving and building end

Each way in which a run of `get` or `build` can end is one case of `Container.GetEnds` or
`Builder.BuildEnds`, with all that is known in it: what was looked up, what ran, and what became
of the container.  Later proofs go through these cases and do not unfold the two functions.
-/

variable {κ χ : Type} [CacheStore χ (Instance κ)]

/-- The order that a definition gives a builder, if it needs something built. -/
def Definition.order? : Definition κ → Option Order
  | .ofClass className arguments => some (.ofClass className arguments)
  | .ofFactory className method arguments => some (.ofFactory className method arguments)
  | _ => none

namespace Container

/-- What the cache answers under a key at the present time. -/
def found? (container : Container κ χ) (key : String) : Option (Instance κ) :=
  (CacheStore.get container.cache container.now key).1

/-- The container after its cache was asked for a key. -/
def lookedUp (container : Container κ χ) (key : String) : Container κ χ :=
  { container with cache := (CacheStore.get container.cache container.now key).2 }

/-- The container with an object put into its cache. -/
def keeping (container : Container κ χ) (key : String) (object : Instance κ) :
    Container κ χ :=
  { container with
    cache := (CacheStore.set container.cache container.now key object container.ttl).2 }

/-- An object goes into the cache, or the attempt panics. -/
theorem keep_apply
    (key : String)
    (object : Instance κ)
    (container : Container κ χ) :
    keep key object container =
      if container.stops then none else some (.ok object, container.keeping key object) := by
  rw [keep, Attempt.reading_bind]
  split <;> rfl

theorem keep_eq_some
    {key : String}
    {object : Instance κ}
    {container after : Container κ χ}
    {outcome : Except ServiceError (Instance κ)} :
    keep key object container = some (outcome, after) ↔
      container.stops = false ∧ outcome = .ok object ∧ after = container.keeping key object := by
  rw [keep_apply]
  cases container.stops <;> simp [eq_comm]

/-- The container with an object in its memo, unless one is there already. -/
def remembering (container : Container κ χ) (key : String) (object : Instance κ) :
    Container κ χ :=
  { container with memo := (container.memo.remember key object).2 }

/-- The order that resolving an id carries out, if its definition needs something built. -/
def orderOf? (id : String) : Option (Definition κ) → Option Order
  | none => some (.ofClass id [])
  | some definition => definition.order?

/-- The object or the failure that resolving a definition comes to. -/
inductive DefinitionEnds
    (toolkit : Toolkit κ)
    (resolve : Builder.Resolver κ χ)
    (id : String)
    (container : Container κ χ) :
    Option (Definition κ) → Except AnyError (Instance κ) → Container κ χ → Prop
  /-- Following aliases would come round in a circle. -/
  | circle
      {target : String}
      {chain : List String}
      (cyclic :
        aliasCycle? container.definitions (container.definitions.size + 1) [id] target =
          some chain) :
      DefinitionEnds toolkit resolve id container (some (.aliasOf target))
        (.error (.container (.invalidDefinition id (cycleReason chain)))) container
  /-- The target of the alias was resolved, or failed to be. -/
  | followed
      {target : String}
      {outcome : Except ServiceError (Instance κ)}
      {after : Container κ χ}
      (acyclic :
        aliasCycle? container.definitions (container.definitions.size + 1) [id] target = none)
      (resolved : resolve target container = some (outcome, after)) :
      DefinitionEnds toolkit resolve id container (some (.aliasOf target))
        (outcome.mapError .container) after
  /-- The object was there before. -/
  | given (object : Instance κ) :
      DefinitionEnds toolkit resolve id container (some (.prebuilt object)) (.ok object) container
  /-- The container answers with itself. -/
  | own :
      DefinitionEnds toolkit resolve id container (some .itself)
        (.ok container.asInstance.1) container.asInstance.2
  /-- An order was carried out, or failed to be. -/
  | ordered
      {definition : Option (Definition κ)}
      {order : Order}
      {outcome : Except BuildError (Instance κ)}
      {after : Container κ χ}
      (asked : orderOf? id definition = some order)
      (built : Builder.build toolkit resolve order container = some (outcome, after)) :
      DefinitionEnds toolkit resolve id container definition (outcome.mapError .build) after

/-- Resolving a definition ends in one of the listed ways. -/
theorem resolveDefinition_ends
    {toolkit : Toolkit κ}
    {resolve : Builder.Resolver κ χ}
    {id : String}
    {definition : Option (Definition κ)}
    {container after : Container κ χ}
    {outcome : Except AnyError (Instance κ)}
    (ended :
      resolveDefinition toolkit resolve id definition container = some (outcome, after)) :
    DefinitionEnds toolkit resolve id container definition outcome after := by
  have ofOrder
      {order : Order}
      (asked : orderOf? id definition = some order)
      (built :
        (Builder.build toolkit resolve order).mapError .build container =
          some (outcome, after)) :
      DefinitionEnds toolkit resolve id container definition outcome after := by
    obtain ⟨first, carriedOut, rfl⟩ := Attempt.mapError_eq_some.mp built
    exact .ordered asked carriedOut
  cases definition with
  | none =>
      exact ofOrder rfl ended
  | some definition =>
      cases definition with
      | ofClass className arguments =>
          exact ofOrder rfl ended
      | ofFactory className method arguments =>
          exact ofOrder rfl ended
      | prebuilt object =>
          cases ended
          exact .given object
      | itself =>
          cases ended
          exact .own
      | aliasOf target =>
          simp only [resolveDefinition, resolveAlias, Attempt.reading_bind] at ended
          cases cycle : aliasCycle? container.definitions
              (container.definitions.size + 1) [id] target with
          | some chain =>
              rw [cycle] at ended
              cases ended
              exact .circle cycle
          | none =>
              rw [cycle] at ended
              obtain ⟨first, resolved, rfl⟩ := Attempt.mapError_eq_some.mp ended
              exact .followed cycle resolved

/-- A definition that leads to an order is resolved by carrying it out. -/
theorem resolveDefinition_of_order
    {toolkit : Toolkit κ}
    {resolve : Builder.Resolver κ χ}
    {id : String}
    {definition : Option (Definition κ)}
    {order : Order}
    (asked : orderOf? id definition = some order) :
    resolveDefinition toolkit resolve id definition =
      (Builder.build toolkit resolve order).mapError .build := by
  cases definition with
  | none =>
      cases asked
      rfl
  | some definition => cases definition <;> cases asked <;> rfl

/-- The ways in which resolving an id can end. -/
inductive GetEnds
    (toolkit : Toolkit κ)
    (fuel : Nat)
    (id : String)
    (container : Container κ χ) :
    Except ServiceError (Instance κ) → Container κ χ → Prop
  /-- The id means the container itself. -/
  | own (itself : container.definitions.find? id = some .itself) :
      GetEnds toolkit fuel id container (.ok container.asInstance.1) container.asInstance.2
  /-- The cache had an object. -/
  | cached
      {object : Instance κ}
      (defined : container.definitions.find? id ≠ some .itself)
      (hit : container.found? (Key.service toolkit.digest id) = some object) :
      GetEnds toolkit fuel id container (.ok object)
        (container.lookedUp (Key.service toolkit.digest id))
  /-- What the definition leads to could not be had. -/
  | failed
      {cause : AnyError}
      {after : Container κ χ}
      (defined : container.definitions.find? id ≠ some .itself)
      (miss : container.found? (Key.service toolkit.digest id) = none)
      (resolution :
        DefinitionEnds toolkit (get toolkit fuel) id
          (container.lookedUp (Key.service toolkit.digest id))
          (container.definitions.find? id) (.error cause) after) :
      GetEnds toolkit fuel id container (.error (.notFound id cause)) after
  /-- What the definition leads to was put into the cache. -/
  | resolved
      {object : Instance κ}
      {between : Container κ χ}
      (defined : container.definitions.find? id ≠ some .itself)
      (miss : container.found? (Key.service toolkit.digest id) = none)
      (resolution :
        DefinitionEnds toolkit (get toolkit fuel) id
          (container.lookedUp (Key.service toolkit.digest id))
          (container.definitions.find? id) (.ok object) between)
      (goes : between.stops = false) :
      GetEnds toolkit fuel id container (.ok object)
        (between.keeping (Key.service toolkit.digest id) object)

/-- An id of the container itself is answered with the container. -/
theorem get_own
    {toolkit : Toolkit κ}
    {fuel : Nat}
    {id : String}
    {container : Container κ χ}
    (itself : container.definitions.find? id = some .itself) :
    get toolkit (fuel + 1) id container =
      some (.ok container.asInstance.1, container.asInstance.2) := by
  simp only [get, Attempt.reading_bind, itself]
  rfl

/-- Any other id goes through the cache first, and to its definition on a miss. -/
theorem get_other
    {toolkit : Toolkit κ}
    {fuel : Nat}
    {id : String}
    {container : Container κ χ}
    (defined : container.definitions.find? id ≠ some .itself) :
    get toolkit (fuel + 1) id container =
      match container.found? (Key.service toolkit.digest id) with
      | some object =>
          some (.ok object, container.lookedUp (Key.service toolkit.digest id))
      | none =>
          ((resolveDefinition toolkit (get toolkit fuel) id
              (container.definitions.find? id)).mapError (.notFound id) >>=
            keep (Key.service toolkit.digest id))
            (container.lookedUp (Key.service toolkit.digest id)) := by
  have skip :
      get toolkit (fuel + 1) id container =
        (lookUp (Key.service toolkit.digest id) >>= fun answer =>
          match answer with
          | some found => pure found
          | none =>
              (resolveDefinition toolkit (get toolkit fuel) id
                  (container.definitions.find? id)).mapError (.notFound id) >>=
                keep (Key.service toolkit.digest id)) container := by
    rw [get, Attempt.reading_bind]
    generalize container.definitions.find? id = definition at defined
    cases definition with
    | none => rfl
    | some definition =>
        cases definition with
        | itself => exact absurd rfl defined
        | _ => rfl
  rw [skip, lookUp, Attempt.changing_bind]
  unfold found? lookedUp
  cases (CacheStore.get container.cache container.now
      (Key.service toolkit.digest id)).1 with
  | none => rfl
  | some object => rfl

/-- An object that the definition of an id leads to is kept, and is the answer unless that stops. -/
theorem get_of_resolved
    {toolkit : Toolkit κ}
    {fuel : Nat}
    {id : String}
    {container between : Container κ χ}
    {object : Instance κ}
    (defined : container.definitions.find? id ≠ some .itself)
    (missed : container.found? (Key.service toolkit.digest id) = none)
    (resolved :
      resolveDefinition toolkit (get toolkit fuel) id (container.definitions.find? id)
          (container.lookedUp (Key.service toolkit.digest id)) =
        some (.ok object, between)) :
    get toolkit (fuel + 1) id container =
      if between.stops then
        none
      else
        some (.ok object, between.keeping (Key.service toolkit.digest id) object) := by
  simp only [get_other defined, missed, Attempt.bind_apply,
    Attempt.mapError_eq_ok.mpr resolved, keep_apply]

/-- Resolving an id ends in one of the listed ways. -/
theorem get_ends
    {toolkit : Toolkit κ}
    {fuel : Nat}
    {id : String}
    {container after : Container κ χ}
    {outcome : Except ServiceError (Instance κ)}
    (ended : get toolkit (fuel + 1) id container = some (outcome, after)) :
    GetEnds toolkit fuel id container outcome after := by
  by_cases itself : container.definitions.find? id = some .itself
  · rw [get_own itself] at ended
    cases ended
    exact .own itself
  · rw [get_other itself] at ended
    cases answer : container.found? (Key.service toolkit.digest id) with
    | some object =>
        rw [answer] at ended
        cases ended
        exact .cached itself answer
    | none =>
        rw [answer] at ended
        rcases Attempt.bind_eq_some.mp ended with ⟨error, refused, rfl⟩ | ⟨object, between, found, kept⟩
        · obtain ⟨cause, unresolved, rfl⟩ := Attempt.mapError_eq_error.mp refused
          exact .failed itself answer (resolveDefinition_ends unresolved)
        · obtain ⟨goes, rfl, rfl⟩ := keep_eq_some.mp kept
          exact .resolved itself answer
            (resolveDefinition_ends (Attempt.mapError_eq_ok.mp found)) goes

end Container

namespace Builder

/-- The ways in which carrying out an order with the memo can end. -/
inductive BuildEnds
    (toolkit : Toolkit κ)
    (resolve : Resolver κ χ)
    (order : Order)
    (container : Container κ χ) :
    Except BuildError (Instance κ) → Container κ χ → Prop
  /-- The memo had an object. -/
  | remembered
      {object : Instance κ}
      (hit : container.memo.find? (order.key toolkit.digest) = some object) :
      BuildEnds toolkit resolve order container (.ok object) container
  /-- The order could not be carried out. -/
  | failed
      {error : BuildError}
      {after : Container κ χ}
      (miss : container.memo.find? (order.key toolkit.digest) = none)
      (assembling : assemble toolkit resolve order container = some (.error error, after)) :
      BuildEnds toolkit resolve order container (.error error) after
  /-- An object was made, and the memo has it or had another one by then. -/
  | built
      {object : Instance κ}
      {between : Container κ χ}
      (miss : container.memo.find? (order.key toolkit.digest) = none)
      (assembling : assemble toolkit resolve order container = some (.ok object, between)) :
      BuildEnds toolkit resolve order container
        (.ok (between.memo.remember (order.key toolkit.digest) object).1)
        (between.remembering (order.key toolkit.digest) object)

/-- What is in the memo is the answer. -/
theorem build_remembered
    {toolkit : Toolkit κ}
    {resolve : Resolver κ χ}
    {order : Order}
    {container : Container κ χ}
    {object : Instance κ}
    (hit : container.memo.find? (order.key toolkit.digest) = some object) :
    build toolkit resolve order container = some (.ok object, container) := by
  simp only [build, Attempt.reading_bind, hit]
  rfl

/-- Without an entry in the memo, the order is carried out and its object remembered. -/
theorem build_missing
    {toolkit : Toolkit κ}
    {resolve : Resolver κ χ}
    {order : Order}
    {container : Container κ χ}
    (miss : container.memo.find? (order.key toolkit.digest) = none) :
    build toolkit resolve order container =
      (assemble toolkit resolve order >>= remember (order.key toolkit.digest)) container := by
  simp only [build, Attempt.reading_bind, miss]

/-- Carrying out an order with the memo ends in one of the listed ways. -/
theorem build_ends
    {toolkit : Toolkit κ}
    {resolve : Resolver κ χ}
    {order : Order}
    {container after : Container κ χ}
    {outcome : Except BuildError (Instance κ)}
    (ended : build toolkit resolve order container = some (outcome, after)) :
    BuildEnds toolkit resolve order container outcome after := by
  cases entry : container.memo.find? (order.key toolkit.digest) with
  | some object =>
      rw [build_remembered entry] at ended
      cases ended
      exact .remembered entry
  | none =>
      rw [build_missing entry] at ended
      rcases Attempt.bind_eq_some.mp ended with ⟨error, refused, rfl⟩ | ⟨object, between, made, kept⟩
      · exact .failed entry refused
      · cases kept
        exact .built entry made

/-- Building a definition that gives an order is carrying out the order. -/
theorem buildDefinition_of_order
    {toolkit : Toolkit κ}
    {resolve : Resolver κ χ}
    {definition : Definition κ}
    {order : Order}
    (asked : definition.order? = some order) :
    buildDefinition toolkit resolve definition = build toolkit resolve order := by
  cases definition <;> cases asked <;> rfl

/-- The same for a builder of its own memo. -/
theorem buildDefinitionApart_of_order
    {toolkit : Toolkit κ}
    {resolve : Resolver κ χ}
    {definition : Definition κ}
    {order : Order}
    (asked : definition.order? = some order) :
    buildDefinitionApart toolkit resolve definition = buildApart toolkit resolve order := by
  cases definition <;> cases asked <;> rfl

/-- A definition that gives no order leaves the memo of a builder of its own alone. -/
theorem buildDefinitionApart_of_no_order
    {toolkit : Toolkit κ}
    {resolve : Resolver κ χ}
    {definition : Definition κ}
    (noOrder : definition.order? = none) :
    buildDefinitionApart toolkit resolve definition =
      (buildDefinition toolkit resolve definition).onSecond := by
  cases definition with
  | ofClass className arguments => cases noOrder
  | ofFactory className method arguments => cases noOrder
  | aliasOf target => rfl
  | prebuilt object => rfl
  | itself => rfl

/-- The ways in which carrying out an order with a memo beside the container can end. -/
inductive ApartEnds
    (toolkit : Toolkit κ)
    (resolve : Resolver κ χ)
    (order : Order)
    (memo : Memo κ)
    (container : Container κ χ) :
    Except BuildError (Instance κ) → Memo κ → Container κ χ → Prop
  /-- The memo had an object. -/
  | remembered
      {object : Instance κ}
      (hit : memo.find? (order.key toolkit.digest) = some object) :
      ApartEnds toolkit resolve order memo container (.ok object) memo container
  /-- The order could not be carried out. -/
  | failed
      {error : BuildError}
      {after : Container κ χ}
      (miss : memo.find? (order.key toolkit.digest) = none)
      (assembling : assemble toolkit resolve order container = some (.error error, after)) :
      ApartEnds toolkit resolve order memo container (.error error) memo after
  /-- An object was made, and the memo has it now. -/
  | built
      {object : Instance κ}
      {after : Container κ χ}
      (miss : memo.find? (order.key toolkit.digest) = none)
      (assembling : assemble toolkit resolve order container = some (.ok object, after)) :
      ApartEnds toolkit resolve order memo container (.ok object)
        (memo.insert (order.key toolkit.digest) object) after

/-- Carrying out an order with a memo beside the container ends in one of the listed ways. -/
theorem buildApart_ends
    {toolkit : Toolkit κ}
    {resolve : Resolver κ χ}
    {order : Order}
    {memo memoAfter : Memo κ}
    {container after : Container κ χ}
    {outcome : Except BuildError (Instance κ)}
    (ended :
      buildApart toolkit resolve order (memo, container) = some (outcome, (memoAfter, after))) :
    ApartEnds toolkit resolve order memo container outcome memoAfter after := by
  simp only [buildApart, Attempt.reading_bind] at ended
  cases entry : memo.find? (order.key toolkit.digest) with
  | some object =>
      rw [entry] at ended
      cases ended
      exact .remembered entry
  | none =>
      rw [entry] at ended
      rcases Attempt.bind_eq_some.mp ended with
        ⟨error, refused, rfl⟩ | ⟨object, between, made, kept⟩
      · obtain ⟨part, assembled, same⟩ := Attempt.focus_eq_some.mp refused
        cases same
        exact .failed entry assembled
      · obtain ⟨part, assembled, rfl⟩ := Attempt.focus_eq_some.mp made
        simp only [Attempt.changing_apply, Memo.remember, entry] at kept
        cases kept
        exact .built entry assembled

end Builder

end Switchboard
