import Switchboard.Proofs.Attempt.Moves
import Switchboard.Proofs.Manifest.Loading

namespace Switchboard

/-!
# Own ids

Two ids mean the container itself from the start, and no definition ever changes that: the guard
of `Container.define` looks at what an id is defined as and not at the id, so it protects these two
because nothing else is ever defined as the container and because no definition is ever lost.
`Enduring` says both of one step, and `DefinitionLaws` what follows for every container that can be
reached.
-/

variable {κ χ ω : Type}

/-- Whether a definition is the container itself. -/
def Definition.isItself : Definition κ → Bool
  | .itself => true
  | _ => false

theorem Definition.isItself_iff {definition : Definition κ} :
    definition.isItself = true ↔ definition = .itself := by
  cases definition <;> simp [isItself]

namespace Container

/-- One of the two ids that mean the container itself. -/
def IsOwnId (id : String) : Prop :=
  id = ownId ∨ id = ownType

instance (id : String) : Decidable (IsOwnId id) :=
  inferInstanceAs (Decidable (id = ownId ∨ id = ownType))

/-- Definitions stay, and no id comes to mean the container that did not before. -/
structure Enduring (before after : Container κ χ) : Prop where
  self : after.self = before.self
  kept : ∀ id definition,
    before.definitions.find? id = some definition →
      after.definitions.find? id = some definition
  own : ∀ id,
    after.definitions.find? id = some .itself → before.definitions.find? id = some .itself

namespace Enduring

theorem of_same
    {before after : Container κ χ}
    (sameSelf : after.self = before.self)
    (sameDefinitions : after.definitions = before.definitions) :
    Enduring before after where
  self := sameSelf
  kept _ _ held := by rwa [sameDefinitions]
  own _ held := by rwa [sameDefinitions] at held

theorem refl (container : Container κ χ) : Enduring container container :=
  of_same rfl rfl

theorem trans
    (first second third : Container κ χ)
    (earlier : Enduring first second)
    (later : Enduring second third) :
    Enduring first third where
  self := later.self.trans earlier.self
  kept id definition held := later.kept id definition (earlier.kept id definition held)
  own id held := earlier.own id (later.own id held)

end Enduring

/-- Defining comes to nothing, or to one more definition, which is not the container itself. -/
theorem define_eq_ok_iff
    {container after : Container κ χ}
    {id : String}
    {definition : Definition κ} :
    container.define id definition = .ok after ↔
      definition.isItself = false ∧ container.definitions.find? id ≠ some .itself ∧
        after =
          if container.definitions.contains id then
            container
          else
            { container with definitions := container.definitions.insert id definition } := by
  constructor
  · intro defined
    refine ⟨?_, ?_, define_eq_ok defined⟩
    · cases definition with
      | itself => cases defined
      | _ => rfl
    · intro itself
      cases definition <;> simp [define, itself] at defined
  · rintro ⟨notItself, notOwn, rfl⟩
    unfold Dict.contains
    cases held : container.definitions.find? id with
    | none => cases definition <;> simp_all [define, Definition.isItself]
    | some present =>
        cases definition <;> cases present <;> simp_all [define, Definition.isItself]

theorem enduring_of_define
    {container after : Container κ χ}
    {id : String}
    {definition : Definition κ}
    (defined : container.define id definition = .ok after) :
    Enduring container after := by
  obtain ⟨kept, _⟩ := define_frame defined
  obtain ⟨notItself, _, rfl⟩ := define_eq_ok_iff.mp defined
  by_cases isDefined : container.definitions.contains id = true
  · rw [if_pos isDefined]
    exact .refl container
  · rw [if_neg isDefined] at kept ⊢
    refine ⟨rfl, kept, fun other itself => ?_⟩
    rw [Dict.find?_insert] at itself
    split at itself
    · cases itself
      cases notItself
    · exact itself

theorem moves_defining (id : String) (definition : Definition κ) :
    (defining id definition).Moves (Enduring (κ := κ) (χ := χ)) := by
  intro container outcome after ended
  unfold defining at ended
  cases attempted : container.define id definition with
  | error error =>
      rw [attempted] at ended
      cases ended
      exact .refl container
  | ok changed =>
      rw [attempted] at ended
      cases ended
      exact enduring_of_define attempted

/-- The first of the services that is for an id and not the container itself. -/
def firstFor? (services : List (String × Definition κ)) (id : String) :
    Option (Definition κ) :=
  (services.find? fun service => service.1 = id && !service.2.isItself).map Prod.snd

theorem withServices_cons_of_error
    {container : Container κ χ}
    {service : String × Definition κ}
    {error : ServiceError}
    (refused : container.define service.1 service.2 = .error error)
    (services : List (String × Definition κ)) :
    container.withServices (service :: services) = container.withServices services := by
  simp only [withServices, List.foldl_cons, refused]

theorem withServices_cons_of_ok
    {container between : Container κ χ}
    {service : String × Definition κ}
    (defined : container.define service.1 service.2 = .ok between)
    (services : List (String × Definition κ)) :
    container.withServices (service :: services) = between.withServices services := by
  simp only [withServices, List.foldl_cons, defined]

theorem enduring_withServices
    (container : Container κ χ)
    (services : List (String × Definition κ)) :
    Enduring container (container.withServices services) := by
  induction services generalizing container with
  | nil =>
      exact .refl container
  | cons service services inductionHypothesis =>
      cases attempted : container.define service.1 service.2 with
      | error error =>
          rw [withServices_cons_of_error attempted]
          exact inductionHypothesis container
      | ok between =>
          rw [withServices_cons_of_ok attempted]
          exact .trans _ _ _ (enduring_of_define attempted) (inductionHypothesis between)

/-- An id that does not mean the container is defined by the first service that is for it, unless
it was defined before. -/
theorem find?_withServices
    {container : Container κ χ}
    {id : String}
    (notOwn : container.definitions.find? id ≠ some .itself)
    (services : List (String × Definition κ)) :
    (container.withServices services).definitions.find? id =
      (container.definitions.find? id <|> firstFor? services id) := by
  induction services generalizing container with
  | nil =>
      simp [withServices, firstFor?]
  | cons service services inductionHypothesis =>
      cases attempted : container.define service.1 service.2 with
      | error error =>
          have passed : (service.1 = id && !service.2.isItself) = false := by
            refine Bool.eq_false_iff.mpr fun accepted => ?_
            simp only [Bool.and_eq_true, decide_eq_true_eq, Bool.not_eq_true'] at accepted
            obtain ⟨rfl, notItself⟩ := accepted
            have defined := define_eq_ok_iff.mpr ⟨notItself, notOwn, rfl⟩
            cases attempted.symm.trans defined
          rw [withServices_cons_of_error attempted, inductionHypothesis notOwn]
          simp only [firstFor?, List.find?_cons, passed]
      | ok between =>
          have stillNotOwn : between.definitions.find? id ≠ some .itself :=
            fun itself => notOwn ((enduring_of_define attempted).own id itself)
          obtain ⟨notItself, _, rfl⟩ := define_eq_ok_iff.mp attempted
          rw [withServices_cons_of_ok attempted, inductionHypothesis stillNotOwn]
          by_cases same : service.1 = id
          · subst same
            cases held : container.definitions.find? service.1 with
            | some present => simp [Dict.contains, held]
            | none => simp [Dict.contains, held, firstFor?, notItself]
          · have unchanged :
                (if container.definitions.contains service.1 then container
                  else { container with
                    definitions := container.definitions.insert service.1 service.2
                  }).definitions.find? id = container.definitions.find? id := by
              split
              · rfl
              · simp [Dict.find?_insert, same]
            simp only [unchanged, firstFor?, List.find?_cons, same, decide_false, Bool.false_and]

theorem find?_empty_itself (self : κ) (cache : χ) (ttl : Option Ttl) (id : String) :
    (empty self cache ttl).definitions.find? id =
      if IsOwnId id then some .itself else none := by
  simp only [empty, Dict.find?_insert, Dict.find?_empty, IsOwnId, eq_comm (a := id)]
  grind

theorem define_of_own
    {container : Container κ χ}
    {id : String}
    (own : container.definitions.find? id = some .itself)
    (definition : Definition κ) :
    ∃ reason, container.define id definition = .error (.invalidDefinition id reason) := by
  cases definition with
  | itself => exact ⟨selfRefused, rfl⟩
  | _ => exact ⟨ownIdRefused, by simp only [define, own]⟩

theorem defineJson_of_own
    {container : Container κ χ}
    {id : String}
    (own : container.definitions.find? id = some .itself)
    (value : Json.Value) :
    ∃ reason, container.defineJson id value = .error (.invalidDefinition id reason) := by
  unfold defineJson Definition.ofJson
  cases Definition.read value with
  | error reason => exact ⟨reason, rfl⟩
  | ok definition => exact define_of_own own definition

/-- Items with an own id among them are defined up to one that is refused, and the own ids are
not among those before it. -/
theorem defineServices_of_own
    {items : List Manifest.ServiceItem}
    {container : Container κ χ}
    (owns : ∀ id, IsOwnId id → container.definitions.find? id = some .itself)
    (hasOwn : ∃ item ∈ items, IsOwnId item.id) :
    ∃ accepted item rest cause between,
      items = accepted ++ item :: rest ∧
        (∀ other ∈ accepted, ¬ IsOwnId other.id) ∧
        Manifest.Reader.defineServices accepted container = some (.ok (), between) ∧
        between.defineJson item.id (.object item.definition) = .error cause ∧
        Manifest.Reader.defineServices items container =
          some (.error (.definition cause), between) := by
  induction items generalizing container with
  | nil =>
      obtain ⟨item, member, _⟩ := hasOwn
      cases member
  | cons first items inductionHypothesis =>
      cases attempted : container.defineJson first.id (.object first.definition) with
      | error cause =>
          exact ⟨[], first, items, cause, container, rfl, by simp, rfl, attempted,
            Manifest.Reader.defineServices_cons_of_error attempted items⟩
      | ok changed =>
          have notOwn : ¬ IsOwnId first.id := by
            intro isOwn
            obtain ⟨reason, refusal⟩ :=
              defineJson_of_own (owns _ isOwn) (.object first.definition)
            cases attempted.symm.trans refusal
          obtain ⟨definition, defined⟩ := define_of_defineJson attempted
          have stillOwns : ∀ id, IsOwnId id →
              changed.definitions.find? id = some .itself :=
            fun id isOwn => (enduring_of_define defined).kept _ _ (owns id isOwn)
          obtain ⟨item, member, isOwn⟩ := hasOwn
          have laterOwn : ∃ item ∈ items, IsOwnId item.id := by
            rcases List.mem_cons.mp member with rfl | inRest
            · exact absurd isOwn notOwn
            · exact ⟨item, inRest, isOwn⟩
          obtain ⟨accepted, refused, rest, cause, between, rfl, acceptedNotOwn, defines,
            refusal, ended⟩ := inductionHypothesis stillOwns laterOwn
          refine ⟨first :: accepted, refused, rest, cause, between, rfl, ?_, ?_, refusal, ?_⟩
          · intro other otherMember
            rcases List.mem_cons.mp otherMember with rfl | inAccepted
            · exact notOwn
            · exact acceptedNotOwn other inAccepted
          · rw [Manifest.Reader.defineServices_cons_of_ok attempted]
            exact defines
          · rw [Manifest.Reader.defineServices_cons_of_ok attempted]
            exact ended

variable [CacheStore χ (Instance κ)]

theorem stride_enduring (toolkit : Toolkit κ) :
    Stride toolkit (Enduring (κ := κ) (χ := χ)) where
  refl := .refl
  trans := .trans
  lookUp _ _ := .of_same rfl rfl
  own _ := .of_same rfl rfl
  make := by
    intro origin title maker arguments container outcome after made
    rw [Builder.make_touches made]
    exact .of_same rfl rfl
  remember _ _ _ := .of_same rfl rfl
  keep _ _ _ := .of_same rfl rfl

/-- Everything that can be done with a container is endured by its definitions. -/
theorem routine_enduring (toolkit : Toolkit κ) :
    Routine (ω := ω) toolkit (fun _ => True) (fun _ => True)
      (Enduring (κ := κ) (χ := χ)) where
  toWalk := (stride_enduring toolkit).walk
  starts _ _ _ _ := trivial
  define _ _ _ _ defined := enduring_of_define defined
  lend _ _ _ _ _ _ _ _ _ _ := .of_same rfl rfl
  wait _ _ _ _ := .of_same rfl rfl
  recache _ _ _ _ := .of_same rfl rfl
  clearCache _ _ _ := .of_same rfl rfl
  clearMemo _ _ _ := .of_same rfl rfl

theorem moves_install
    {ε : Type}
    (toolkit : Toolkit κ)
    (fuel : Nat)
    (id expected : String)
    (product : Product κ)
    (view : Instance κ → Option (Instance κ)) :
    (install toolkit fuel id product expected view :
      Attempt (Container κ χ) ε (Instance κ)).Moves Enduring := by
  have gets : (get toolkit fuel id).Moves (Enduring (κ := κ) (χ := χ)) :=
    fun _ _ _ ended => (stride_enduring toolkit).walk.gets fuel _ _ _ _ trivial ended
  have looks : (getAs toolkit fuel id expected view).Moves (Enduring (κ := κ) (χ := χ)) := by
    refine .bind .trans gets fun object => ?_
    cases view object with
    | none => exact .fail .refl _
    | some found => exact .pure .refl found
  refine .bind .trans (.changing fun _ => .of_same rfl rfl) fun made => ?_
  refine .bind .trans (moves_defining id _).settle fun _ => ?_
  refine .bind .trans looks.settle fun outcome => ?_
  cases outcome with
  | ok installed => exact .pure .refl installed
  | error _ => exact .pure .refl made

variable [CacheStore ω Json.Value]

variable (ω) in
/-- What one use makes of a container: a deed with it, or the installation of an object. -/
inductive Step (toolkit : Toolkit κ) : Container κ χ → Container κ χ → Prop
  | deed
      {deed : Deed κ χ ω}
      {outcome : Except AnyError (Option (Instance κ))}
      {after : Container κ χ}
      (ends : deed.Ends toolkit outcome after) :
      Step toolkit deed.container after
  | install
      {fuel : Nat}
      {id expected : String}
      {product : Product κ}
      {view : Instance κ → Option (Instance κ)}
      {container after : Container κ χ}
      {object : Instance κ}
      (ended :
        (Container.install toolkit fuel id product expected view :
            Attempt (Container κ χ) Empty (Instance κ)) container =
          some (.ok object, after)) :
      Step toolkit container after

variable (ω) in
/-- What any number of uses make of a container. -/
def Reaches (toolkit : Toolkit κ) : Container κ χ → Container κ χ → Prop :=
  Relation.ReflTransGen (Step ω toolkit)

theorem Step.enduring
    {toolkit : Toolkit κ}
    {before after : Container κ χ}
    (step : Step ω toolkit before after) :
    Enduring before after := by
  cases step with
  | deed ends => exact (routine_enduring toolkit).relates_of_deed trivial ends
  | install ended => exact moves_install toolkit _ _ _ _ _ _ _ _ ended

theorem Reaches.enduring
    {toolkit : Toolkit κ}
    {before after : Container κ χ}
    (reaches : Reaches ω toolkit before after) :
    Enduring before after := by
  induction reaches with
  | refl =>
      exact .refl before
  | tail _ step inductionHypothesis =>
      exact .trans _ _ _ inductionHypothesis step.enduring

/-- An attempt to define an own id, or to define any id as the container itself. -/
inductive Trespasses : String → Operation κ χ ω → Prop
  | own {id : String} {definition : Definition κ} (isOwn : IsOwnId id) :
      Trespasses id (.define id definition)
  | ownJson {id : String} {value : Json.Value} (isOwn : IsOwnId id) :
      Trespasses id (.defineJson id value)
  | itself {id : String} : Trespasses id (.define id .itself)

/-- What holds of the definitions of a container that can be reached from one with services, and
of a container that can be reached from it. -/
structure DefinitionLaws
    (ω : Type)
    [CacheStore ω Json.Value]
    (toolkit : Toolkit κ)
    (self : κ)
    (services : List (String × Definition κ))
    (before after : Container κ χ) :
    Prop where
  /-- Exactly two ids mean the container itself. -/
  own : ∀ id, before.definitions.find? id = some .itself ↔ IsOwnId id
  /-- The services given at the start define the other ids, the first one for each. -/
  upFront : ∀ id definition, ¬ IsOwnId id → firstFor? services id = some definition →
    before.definitions.find? id = some definition
  /-- An id that has a definition keeps it. -/
  kept : ∀ id definition, before.definitions.find? id = some definition →
    after.definitions.find? id = some definition
  /-- Every other id can be defined as anything but the container, and the first one counts. -/
  define : ∀ id definition changed, before.define id definition = .ok changed ↔
    ¬ IsOwnId id ∧ definition ≠ .itself ∧
      changed = { before with
        definitions :=
          if before.definitions.contains id then before.definitions
          else before.definitions.insert id definition }
  /-- Whoever tries to define an own id, or any id as the container, fails without a trace. -/
  refused : ∀ id (operation : Operation κ χ ω) fuel, Trespasses id operation →
    ∃ reason,
      operation.run toolkit fuel before =
        some (.error (.container (.invalidDefinition id reason)), before)
  /-- A load that comes to an item for an own id fails there at the latest. -/
  loaded : ∀ (reader : Manifest.Reader) path (documents documentsAfter : ω) items,
    reader.entries Manifest.Reader.servicesSection Manifest.ServiceItem.read? path documents =
        some (.ok items, documentsAfter) →
      (∃ item ∈ items, IsOwnId item.id) →
      ∃ accepted item rest cause between,
        items = accepted ++ item :: rest ∧
          (∀ other ∈ accepted, ¬ IsOwnId other.id) ∧
          Manifest.Reader.defineServices accepted before = some (.ok (), between) ∧
          between.defineJson item.id (.object item.definition) = .error cause ∧
          reader.loadServices path (documents, before) =
            some (.error (.definition cause), (documentsAfter, between))
  /-- An own id is resolved to this container, whatever the cache has. -/
  get : ∀ id fuel (cache : χ), IsOwnId id →
    ∃ object,
      Container.get toolkit (fuel + 1) id { before with cache := cache } =
          some (.ok object, { before with cache := cache, nextId := before.nextId + 1 }) ∧
        object.content = self ∧ object.typeName = ownType

/-- An attempt to define what is reserved fails and leaves the container as it is. -/
theorem Trespasses.refused
    {toolkit : Toolkit κ}
    {container : Container κ χ}
    (owns : ∀ id, IsOwnId id → container.definitions.find? id = some .itself)
    {id : String}
    {operation : Operation κ χ ω}
    (trespasses : Trespasses id operation)
    (fuel : Nat) :
    ∃ reason,
      operation.run toolkit fuel container =
        some (.error (.container (.invalidDefinition id reason)), container) := by
  cases trespasses with
  | @own definition isOwn =>
      obtain ⟨reason, refusal⟩ := define_of_own (owns id isOwn) definition
      exact ⟨reason, by simp only [Operation.run, Operation.changed, refusal]⟩
  | @ownJson value isOwn =>
      obtain ⟨reason, refusal⟩ := defineJson_of_own (owns id isOwn) value
      exact ⟨reason, by simp only [Operation.run, Operation.changed, refusal]⟩
  | itself => exact ⟨selfRefused, rfl⟩

/-- Whatever a container was given and used for, its own ids and no others mean the container. -/
theorem Reaches.own_iff
    {toolkit : Toolkit κ}
    {self : κ}
    {cache : χ}
    {ttl : Option Ttl}
    {services : List (String × Definition κ)}
    {container : Container κ χ}
    (reached : Reaches ω toolkit ((empty self cache ttl).withServices services) container)
    (id : String) :
    container.definitions.find? id = some .itself ↔ IsOwnId id := by
  have enduring : Enduring (empty self cache ttl) container :=
    .trans _ _ _ (enduring_withServices _ services) reached.enduring
  constructor
  · intro itself
    simpa [find?_empty_itself] using enduring.own id itself
  · intro isOwn
    apply enduring.kept
    rw [find?_empty_itself, if_pos isOwn]

/--
Whatever services a container starts with, and whatever is done with it from then on: its own ids
and no others mean the container itself, every other id keeps the first definition that it gets,
and nobody can define what is reserved or get anything but the container for it.
-/
theorem definitionLaws_of_reaches
    {toolkit : Toolkit κ}
    {self : κ}
    {cache : χ}
    {ttl : Option Ttl}
    {services : List (String × Definition κ)}
    {before after : Container κ χ}
    (reached : Reaches ω toolkit ((empty self cache ttl).withServices services) before)
    (later : Reaches ω toolkit before after) :
    DefinitionLaws ω toolkit self services before after := by
  have owns : ∀ id, IsOwnId id → before.definitions.find? id = some .itself :=
    fun id isOwn => (reached.own_iff id).mpr isOwn
  refine
    { own := reached.own_iff
      upFront := ?_
      kept := later.enduring.kept
      define := ?_
      refused := fun id operation fuel trespasses => trespasses.refused owns fuel
      loaded := ?_
      get := ?_ }
  · intro id definition notOwn isFirst
    have undefined : (empty self cache ttl).definitions.find? id = none := by
      rw [find?_empty_itself, if_neg notOwn]
    apply reached.enduring.kept
    rw [find?_withServices (by simp [undefined]), undefined, isFirst]
    rfl
  · intro id definition changed
    rw [define_eq_ok_iff, Ne, reached.own_iff, ← Bool.not_eq_true, Definition.isItself_iff]
    constructor
    · rintro ⟨notItself, notOwn, rfl⟩
      refine ⟨notOwn, notItself, ?_⟩
      split <;> rfl
    · rintro ⟨notOwn, notItself, rfl⟩
      refine ⟨notItself, notOwn, ?_⟩
      split <;> rfl
  · intro reader path documents documentsAfter items collected hasOwn
    obtain ⟨accepted, item, rest, cause, between, split, notOwn, defines, refusal, ended⟩ :=
      defineServices_of_own owns hasOwn
    have readFirst :
        (reader.entries Manifest.Reader.servicesSection Manifest.ServiceItem.read? path).onFirst
            (documents, before) =
          some (.ok items, (documentsAfter, before)) :=
      Attempt.focus_eq_some.mpr ⟨documentsAfter, collected, rfl⟩
    have thenRefused :
        (Manifest.Reader.defineServices items).onSecond (documentsAfter, before) =
          some (.error (.definition cause), (documentsAfter, between)) :=
      Attempt.focus_eq_some.mpr ⟨between, ended, rfl⟩
    exact ⟨accepted, item, rest, cause, between, split, notOwn, defines, refusal,
      Attempt.bind_eq_some.mpr (Or.inr ⟨items, _, readFirst,
        Attempt.bind_pure_eq_some.mpr ⟨_, thenRefused, rfl⟩⟩)⟩
  · intro id fuel cache isOwn
    refine ⟨_, get_own (owns id isOwn), ?_, rfl⟩
    exact reached.enduring.self.trans (enduring_withServices _ services).self

namespace OwnIds

/-- Services of which only `x` can be defined. -/
def services : List (String × Definition Unit) :=
  [("container", .aliasOf "x"), ("x", .ofClass "x" []), ("y", .itself)]

def start : Container Unit (MemoryCache (Instance Unit)) :=
  (empty () (.empty none) none).withServices services

end OwnIds

/-- A container that refuses a definition of `container` and is given a log after that. -/
theorem definitionLaws_of_reaches_of_log :
    ∃ before after,
      Reaches (BlankCache Json.Value) Reentry.toolkit OwnIds.start before ∧
        Reaches (BlankCache Json.Value) Reentry.toolkit before after ∧
        before.definitions.contains "log" = false ∧
        after.definitions.contains "log" = true ∧
        DefinitionLaws (BlankCache Json.Value) Reentry.toolkit () OwnIds.services before after := by
  have passes :
      Attempt.endsSo (fun _ after => after.definitions.contains "log")
        (install Reentry.toolkit 1 "log" (.plain "Log" ()) "Log" some OwnIds.start :
          Option (Except Empty (Instance Unit) × Container Unit _)) = true := by
    decide +kernel
  obtain ⟨outcome, after, ended, installed⟩ := Attempt.exists_of_endsSo passes
  cases outcome with
  | error error => cases error
  | ok log =>
      let intrusion : Deed Unit (MemoryCache (Instance Unit)) (BlankCache Json.Value) :=
        { fuel := 0, operation := .define "container" (.aliasOf "x")
          container := OwnIds.start }
      have refused : ∃ error, intrusion.Ends Reentry.toolkit (.error error) OwnIds.start :=
        ⟨_, rfl⟩
      obtain ⟨error, refusal⟩ := refused
      have reached : Reaches (BlankCache Json.Value) Reentry.toolkit OwnIds.start OwnIds.start :=
        Relation.ReflTransGen.single (.deed refusal)
      have later : Reaches (BlankCache Json.Value) Reentry.toolkit OwnIds.start after :=
        Relation.ReflTransGen.single (.install ended)
      exact ⟨OwnIds.start, after, reached, later, by decide +kernel, installed,
        definitionLaws_of_reaches reached later⟩

end Container

end Switchboard
