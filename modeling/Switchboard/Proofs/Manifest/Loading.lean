import Switchboard.Proofs.Service.History

namespace Switchboard

/-!
# Loads that fail

Everything that a manifest and the ones it leads to have to say is collected before the first item
is used, so a load that fails on the way registers nothing.  Handlers and listeners are never
refused after that; services can be, one by one, and `failed_load_leaves` says which of them are
defined by then.
-/

variable {κ χ : Type}

namespace Container

/-- An id that has a definition keeps it, and an id that has none gets the one that is given. -/
theorem define_eq_ok
    {container after : Container κ χ}
    {id : String}
    {definition : Definition κ}
    (defined : container.define id definition = .ok after) :
    after =
      if container.definitions.contains id then
        container
      else
        { container with definitions := container.definitions.insert id definition } := by
  unfold define at defined
  unfold Dict.contains
  split at defined
  · cases defined
  · split at defined
    · cases defined
    · rename_i held
      cases defined
      simp [held]
    · rename_i undefined
      cases defined
      simp [undefined]

end Container

namespace Manifest.Reader

variable {ω σ ε α β : Type}

/-- What collects on one part of a state and then uses what it found without ever failing leaves
the other part alone when it fails. -/
theorem collecting_of_error
    {collect : Attempt ω ε (List α)}
    {use : List α → Attempt (ω × σ) ε β}
    (uses : ∀ items state, ∃ value after, use items state = some (.ok value, after))
    {before after : ω × σ}
    {error : ε}
    (failed : (collect.onFirst >>= use) before = some (.error error, after)) :
    collect before.1 = some (.error error, after.1) ∧ after.2 = before.2 := by
  rcases Attempt.bind_eq_some.mp failed with ⟨cause, refused, same⟩ | ⟨items, between, _, used⟩
  · cases same
    obtain ⟨part, collected, rfl⟩ := Attempt.focus_eq_some.mp refused
    exact ⟨collected, rfl⟩
  · obtain ⟨value, last, ended⟩ := uses items between
    cases ended.symm.trans used

theorem defineServices_cons_of_error
    {item : ServiceItem}
    {container : Container κ χ}
    {cause : ServiceError}
    (refusal : container.defineJson item.id (.object item.definition) = .error cause)
    (items : List ServiceItem) :
    defineServices (item :: items) container = some (.error (.definition cause), container) := by
  simp only [defineServices, refusal]

theorem defineServices_cons_of_ok
    {item : ServiceItem}
    {container between : Container κ χ}
    (defined : container.defineJson item.id (.object item.definition) = .ok between)
    (items : List ServiceItem) :
    defineServices (item :: items) container = defineServices items between := by
  simp only [defineServices, defined]

/-- Defining fails at the first item that is refused, and those before it stay defined. -/
theorem defineServices_eq_error
    {items : List ServiceItem}
    {container after : Container κ χ}
    {error : ManifestError} :
    defineServices items container = some (.error error, after) ↔
      ∃ accepted refused rest cause,
        items = accepted ++ refused :: rest ∧
          defineServices accepted container = some (.ok (), after) ∧
          after.defineJson refused.id (.object refused.definition) = .error cause ∧
          error = .definition cause := by
  induction items generalizing container with
  | nil =>
      constructor
      · intro ended
        cases ended
      · rintro ⟨accepted, refused, rest, _, split, _⟩
        simp at split
  | cons item items inductionHypothesis =>
      cases first : container.defineJson item.id (.object item.definition) with
      | error cause =>
          rw [defineServices_cons_of_error first]
          constructor
          · intro ended
            cases ended
            exact ⟨[], item, items, cause, rfl, rfl, first, rfl⟩
          · rintro ⟨accepted, refused, rest, other, split, before, refusal, rfl⟩
            cases accepted with
            | nil =>
                obtain ⟨rfl, rfl⟩ := List.cons.inj split
                cases before
                cases first.symm.trans refusal
                rfl
            | cons head accepted =>
                obtain ⟨rfl, rfl⟩ := List.cons.inj split
                rw [defineServices_cons_of_error first] at before
                cases before
      | ok between =>
          rw [defineServices_cons_of_ok first, inductionHypothesis]
          constructor
          · rintro ⟨accepted, refused, rest, cause, rfl, before, refusal, rfl⟩
            exact ⟨item :: accepted, refused, rest, cause, rfl,
              (defineServices_cons_of_ok first accepted).trans before, refusal, rfl⟩
          · rintro ⟨accepted, refused, rest, cause, split, before, refusal, rfl⟩
            cases accepted with
            | nil =>
                obtain ⟨rfl, rfl⟩ := List.cons.inj split
                cases before
                cases first.symm.trans refusal
            | cons head accepted =>
                obtain ⟨rfl, rfl⟩ := List.cons.inj split
                rw [defineServices_cons_of_ok first] at before
                exact ⟨accepted, refused, rest, cause, rfl, before, refusal, rfl⟩

/-- What is left of a container in which services were defined one by one. -/
structure Defines
    (items : List ServiceItem)
    (before after : Container κ χ) :
    Prop where
  /-- Nothing but definitions changes. -/
  frame : after = { before with definitions := after.definitions }
  /-- An id keeps the definition that it has. -/
  kept : ∀ id definition, before.definitions.find? id = some definition →
    after.definitions.find? id = some definition
  /-- Every item is for an id that is defined now. -/
  named : ∀ item ∈ items, after.definitions.contains item.id = true
  /-- If all of them were for ids that were defined before, nothing has changed. -/
  settled : (∀ item ∈ items, before.definitions.contains item.id = true) → after = before

theorem defines_of_defineJson
    {item : ServiceItem}
    {container after : Container κ χ}
    (defined : container.defineJson item.id (.object item.definition) = .ok after) :
    Defines [item] container after := by
  obtain ⟨definition, given⟩ := Container.define_of_defineJson defined
  obtain rfl := Container.define_eq_ok given
  by_cases isDefined : container.definitions.contains item.id = true
  · rw [if_pos isDefined]
    exact ⟨rfl, fun _ _ held => held, by simpa using isDefined, fun _ => rfl⟩
  · rw [if_neg isDefined]
    refine ⟨rfl, fun id other held => ?_, by simp [Dict.contains], fun all => ?_⟩
    · have apart : item.id ≠ id := by
        rintro rfl
        exact isDefined (by simp [Dict.contains, held])
      simpa [Dict.find?_insert, apart] using held
    · exact absurd (all item List.mem_cons_self) isDefined

theorem Defines.append
    {first second : List ServiceItem}
    {before between after : Container κ χ}
    (earlier : Defines first before between)
    (later : Defines second between after) :
    Defines (first ++ second) before after := by
  have stays (id : String) (held : between.definitions.contains id = true) :
      after.definitions.contains id = true := by
    obtain ⟨definition, found⟩ := Option.isSome_iff_exists.mp held
    exact Option.isSome_iff_exists.mpr ⟨definition, later.kept id definition found⟩
  refine ⟨?_, fun id definition held => ?_, fun item member => ?_, fun all => ?_⟩
  · rw [later.frame, earlier.frame]
  · exact later.kept id definition (earlier.kept id definition held)
  · rcases List.mem_append.mp member with isFirst | isSecond
    · exact stays _ (earlier.named item isFirst)
    · exact later.named item isSecond
  · have untouched := earlier.settled fun item member => all item (List.mem_append_left _ member)
    subst untouched
    exact later.settled fun item member => all item (List.mem_append_right _ member)

theorem defines_of_defineServices
    {items : List ServiceItem}
    {container after : Container κ χ}
    (ended : defineServices items container = some (.ok (), after)) :
    Defines items container after := by
  induction items generalizing container with
  | nil =>
      cases ended
      exact ⟨rfl, fun _ _ held => held, by simp, fun _ => rfl⟩
  | cons item items inductionHypothesis =>
      cases first : container.defineJson item.id (.object item.definition) with
      | error cause =>
          rw [defineServices_cons_of_error first] at ended
          cases ended
      | ok between =>
          rw [defineServices_cons_of_ok first] at ended
          exact (defines_of_defineJson first).append (inductionHypothesis ended)

variable [CacheStore ω Json.Value]

/-- How loading services fails: nothing can be collected, or one of the items that were collected
is refused, after those before it were defined. -/
inductive ServicesFail
    (reader : Reader)
    (path : Path)
    (documents : ω)
    (before : Container κ χ) :
    ManifestError → ω → Container κ χ → Prop
  | uncollected
      {error : ManifestError}
      {documentsAfter : ω}
      (failed :
        reader.entries servicesSection ServiceItem.read? path documents =
          some (.error error, documentsAfter)) :
      ServicesFail reader path documents before error documentsAfter before
  | refused
      {accepted rest : List ServiceItem}
      {item : ServiceItem}
      {cause : ServiceError}
      {documentsAfter : ω}
      {after : Container κ χ}
      (collected :
        reader.entries servicesSection ServiceItem.read? path documents =
          some (.ok (accepted ++ item :: rest), documentsAfter))
      (defined : defineServices accepted before = some (.ok (), after))
      (leaves : Defines accepted before after)
      (refusal : after.defineJson item.id (.object item.definition) = .error cause)
      (all :
        after = before ↔ ∀ item ∈ accepted, before.definitions.contains item.id = true) :
      ServicesFail reader path documents before (.definition cause) documentsAfter after

theorem servicesFail_of_loadServices
    {reader : Reader}
    {path : Path}
    {before after : ω × Container κ χ}
    {error : ManifestError}
    (failed : reader.loadServices path before = some (.error error, after)) :
    ServicesFail reader path before.1 before.2 error after.1 after.2 := by
  unfold loadServices at failed
  rcases Attempt.bind_eq_some.mp failed with ⟨cause, refused, same⟩ | ⟨items, between, read, used⟩
  · cases same
    obtain ⟨part, collecting, rfl⟩ := Attempt.focus_eq_some.mp refused
    exact .uncollected collecting
  · obtain ⟨documents, collected, rfl⟩ := Attempt.focus_eq_some.mp read
    obtain ⟨outcome, used, same⟩ := Attempt.bind_pure_eq_some.mp used
    obtain ⟨container, defining, rfl⟩ := Attempt.focus_eq_some.mp used
    cases outcome with
    | ok value => cases same
    | error cause =>
        cases same
        obtain ⟨accepted, item, rest, cause, rfl, defined, refusal, rfl⟩ :=
          defineServices_eq_error.mp defining
        have leaves := defines_of_defineServices defined
        refine .refused collected defined leaves refusal ⟨?_, leaves.settled⟩
        rintro same item member
        exact same ▸ leaves.named item member

/--
A load that fails is all or nothing for handlers and listeners: their buses are as they were.

For services it is so unless one of the collected definitions is refused.  Then those before it
stay defined, so that nothing has changed only if each of them is for an id that was defined
before.
-/
theorem failed_load_leaves (reader : Reader) (path : Path) :
    (∀ (before after : ω × MessageBus) error,
      reader.loadHandlers path before = some (.error error, after) → after.2 = before.2) ∧
      (∀ (before after : ω × EventBus) error,
        reader.loadListeners path before = some (.error error, after) → after.2 = before.2) ∧
      ∀ (before after : ω × Container κ χ) error,
        reader.loadServices path before = some (.error error, after) →
          ServicesFail reader path before.1 before.2 error after.1 after.2 := by
  refine ⟨fun before after error failed => ?_, fun before after error failed => ?_,
    fun before after error failed => servicesFail_of_loadServices failed⟩
  · exact (collecting_of_error (fun items state => ⟨_, _, rfl⟩) failed).2
  · exact (collecting_of_error (fun items state => ⟨_, _, rfl⟩) failed).2

namespace HalfLoaded

/-- A manifest of two services, the second of which does not say what it is. -/
def reader : Reader where
  tree :=
    { nodes :=
        [(["w"], .directory),
          (["w", "s.json"], .file
            "\x7b\"services\":[\x7b\"name\":\"good\",\"class\":\"Mailer\"\x7d,\x7b\"name\":\"bad\"\x7d]\x7d".toUTF8)] }
  digest := id
  now := 0
  ttl := none
  modules := .all

def before : BlankCache Json.Value × Container Unit (BlankCache (Instance Unit)) :=
  (.blank, .empty () .blank none)

end HalfLoaded

/-- The first service of the manifest stays defined although the load fails. -/
theorem failed_load_leaves_of_refused :
    ∃ error after,
      HalfLoaded.reader.loadServices (.ofText "/w/s.json") HalfLoaded.before =
          some (.error error, after) ∧
        HalfLoaded.before.2.definitions.contains "good" = false ∧
        after.2.definitions.contains "good" = true ∧
        ServicesFail HalfLoaded.reader (.ofText "/w/s.json") HalfLoaded.before.1
          HalfLoaded.before.2 error after.1 after.2 := by
  have passes :
      Attempt.endsSo
        (fun outcome after =>
          outcome.toOption.isNone && after.2.definitions.contains "good")
        (HalfLoaded.reader.loadServices (.ofText "/w/s.json") HalfLoaded.before) = true := by
    decide +kernel
  obtain ⟨outcome, after, ended, tested⟩ := Attempt.exists_of_endsSo passes
  rw [Bool.and_eq_true] at tested
  cases outcome with
  | ok count => simp [Except.toOption] at tested
  | error error =>
      exact ⟨error, after, ended, by decide +kernel, tested.2,
        (failed_load_leaves HalfLoaded.reader _).2.2 _ _ _ ended⟩

end Manifest.Reader

end Switchboard
