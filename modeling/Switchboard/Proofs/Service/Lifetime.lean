import Switchboard.Proofs.Service.Failure
import Switchboard.Proofs.Service.FirstDefinition
import Switchboard.Proofs.Service.OwnIds
import Switchboard.Proofs.Service.Runs

namespace Switchboard

/-!
# The lifetime of services

The lifetime that a container is given is that of the entries in its cache.  The memo of its
builder knows no lifetime, so an id that is defined as a class or a factory call goes on leading to
the same object after its entry has expired: on a miss the builder answers with what it remembers,
and the cache has the object for another lifetime, unless that goes beyond the last instant: then
keeping the object panics.  Only where the memo was cleared as well does the constructor or factory
run again.
-/

variable {κ ω : Type}

/-- No time passes, and every new entry of the cache is for one lifetime from now on. -/
structure Dated
    (lifetime : Nat)
    (before after : Container κ (MemoryCache (Instance κ))) :
    Prop where
  now : after.now = before.now
  ttl : after.ttl = before.ttl
  entries : before.ttl.bind Ttl.lifetime? = some lifetime →
    ∀ key entry, after.cache.entries.find? key = some entry →
      before.cache.entries.find? key = some entry ∨
        entry.expiresAt = some (before.now + lifetime)

namespace Dated

variable {lifetime : Nat} {before after : Container κ (MemoryCache (Instance κ))}

theorem of_lost
    (sameTime : after.now = before.now)
    (sameTtl : after.ttl = before.ttl)
    (lost : ∀ key entry, after.cache.entries.find? key = some entry →
      before.cache.entries.find? key = some entry) :
    Dated lifetime before after where
  now := sameTime
  ttl := sameTtl
  entries _ key entry held := Or.inl (lost key entry held)

theorem refl (container : Container κ (MemoryCache (Instance κ))) :
    Dated lifetime container container :=
  of_lost rfl rfl fun _ _ held => held

theorem trans
    (first second third : Container κ (MemoryCache (Instance κ)))
    (earlier : Dated lifetime first second)
    (later : Dated lifetime second third) :
    Dated lifetime first third where
  now := later.now.trans earlier.now
  ttl := later.ttl.trans earlier.ttl
  entries lives key entry held := by
    rcases later.entries (by rwa [earlier.ttl]) key entry held with before | dated
    · exact earlier.entries lives key entry before
    · rw [earlier.now] at dated
      exact Or.inr dated

theorem keeping
    (container : Container κ (MemoryCache (Instance κ)))
    (key : String)
    (object : Instance κ) :
    Dated lifetime container (container.keeping key object) where
  now := rfl
  ttl := rfl
  entries lives other entry held := by
    rcases MemoryCache.find?_of_find?_set held with ⟨_, rfl⟩ | before
    · obtain ⟨ttl, isTtl, lives⟩ := Option.bind_eq_some_iff.mp lives
      right
      simp only [MemoryCache.expiry, isTtl, Option.orElse_eq_orElse, Option.orElse_some,
        Option.bind_some, lives, Option.map_some]
    · exact Or.inl before

end Dated

theorem stride_dated (toolkit : Toolkit κ) (lifetime : Nat) :
    Stride toolkit (Dated (κ := κ) lifetime) where
  refl := .refl
  trans := .trans
  lookUp _ _ := .of_lost rfl rfl fun _ _ held => MemoryCache.find?_of_find?_get held
  own _ := .of_lost rfl rfl fun _ _ held => held
  make := by
    intro origin title maker arguments container outcome after made
    rw [Builder.make_touches made]
    exact .of_lost rfl rfl fun _ _ held => held
  remember _ _ _ := .of_lost rfl rfl fun _ _ held => held
  keep key object container := .keeping container key object

/-- Whatever is done without letting time pass, new entries of the cache are dated. -/
theorem routine_dated (toolkit : Toolkit κ) (lifetime : Nat) :
    Routine (ω := ω) toolkit
      (fun deed =>
        deed.operation.isForeign = false ∧ ∀ duration, deed.operation ≠ .wait duration)
      (fun _ => True)
      (Dated (κ := κ) lifetime) where
  toWalk := (stride_dated toolkit lifetime).walk
  starts _ _ _ _ := trivial
  define := by
    intro id definition container after defined
    rw [Container.define_touches defined]
    exact .of_lost rfl rfl fun _ _ held => held
  lend _ _ _ _ _ _ _ _ _ _ := .of_lost rfl rfl fun _ _ held => held
  wait _ duration _ permitted := absurd rfl (permitted.2 duration)
  recache _ _ _ permitted := nomatch permitted.1
  clearCache _ _ _ := .of_lost rfl rfl fun _ _ held => nomatch held
  clearMemo _ _ _ := .of_lost rfl rfl fun _ _ held => held

/-- Entries of the cache stay as long as they live, however much time passes. -/
structure LivesOn (before after : Container κ (MemoryCache (Instance κ))) : Prop where
  now : before.now ≤ after.now
  entries : ∀ key entry, before.cache.entries.find? key = some entry →
    entry.isLive after.now = true →
    after.cache.entries.find? key = some entry

namespace LivesOn

variable {before after : Container κ (MemoryCache (Instance κ))}

theorem of_same
    (time : before.now ≤ after.now)
    (sameCache : after.cache = before.cache) :
    LivesOn before after where
  now := time
  entries key entry held _ := by rwa [sameCache]

theorem trans
    (first second third : Container κ (MemoryCache (Instance κ)))
    (earlier : LivesOn first second)
    (later : LivesOn second third) :
    LivesOn first third where
  now := Nat.le_trans earlier.now later.now
  entries key entry held live :=
    later.entries key entry
      (earlier.entries key entry held (MemoryCache.isLive_earlier later.now live)) live

end LivesOn

/-- Whatever is done without clearing the cache, its entries live as long as they are meant to. -/
theorem routine_livesOn (toolkit : Toolkit κ) :
    Routine (ω := ω) toolkit
      (fun deed => deed.operation.isForeign = false ∧ deed.operation ≠ .clearCache)
      (fun _ => True)
      (LivesOn (κ := κ)) where
  closed _ _ _ _ := trivial
  starts _ _ _ _ := trivial
  refl container := .of_same (Nat.le_refl _) rfl
  trans := .trans
  lookUp _ _ :=
    { now := Nat.le_refl _
      entries := fun _ _ held live => MemoryCache.find?_get_of_live held live }
  own _ := .of_same (Nat.le_refl _) rfl
  make := by
    intro origin title maker arguments container outcome after made
    rw [Builder.make_touches made]
    exact .of_same (Nat.le_refl _) rfl
  remember _ _ _ _ _ _ _ _ _ related := ⟨related.now, related.entries⟩
  keep := by
    intro fuel id container object between _ _ miss _ _ _ related
    refine ⟨related.now, fun key entry held live => ?_⟩
    -- Under the key itself there was no live entry, or the cache would have answered.
    have apart : Key.service toolkit.digest id ≠ key := by
      rintro rfl
      have liveBefore := MemoryCache.isLive_earlier related.now live
      cases liveBefore.symm.trans (MemoryCache.not_live_of_get_eq_none miss held)
    exact (MemoryCache.find?_set_of_ne apart between.cache between.now object between.ttl).trans
      (related.entries key entry held live)
  define := by
    intro id definition container after defined
    rw [Container.define_touches defined]
    exact .of_same (Nat.le_refl _) rfl
  lend _ _ _ _ _ _ _ _ _ _ := .of_same (Nat.le_refl _) rfl
  wait _ _ _ _ := .of_same (Nat.le_add_right _ _) rfl
  recache _ _ _ permitted := nomatch permitted.1
  clearCache _ _ permitted := absurd rfl permitted.2
  clearMemo _ _ _ := .of_same (Nat.le_refl _) rfl

variable [CacheStore ω Json.Value]

/-- An object that the cache has after a deed and did not have before it is there for one lifetime
from that deed on. -/
theorem Deed.entry_of_cached
    {toolkit : Toolkit κ}
    {deed : Deed κ (MemoryCache (Instance κ)) ω}
    {outcome : Except AnyError (Option (Instance κ))}
    {after : Container κ (MemoryCache (Instance κ))}
    {lifetime : Nat}
    {key : String}
    {object : Instance κ}
    (own : deed.operation.isForeign = false)
    (lives : deed.container.ttl.bind Ttl.lifetime? = some lifetime)
    (ends : deed.Ends toolkit outcome after)
    (uncached : deed.container.found? key = none)
    (cached : after.found? key = some object) :
    after.now = deed.container.now ∧
      after.cache.entries.find? key =
        some { value := object, expiresAt := some (deed.container.now + lifetime) } := by
  have noWait : ∀ duration, deed.operation ≠ .wait duration := by
    intro duration waits
    obtain ⟨fuel, operation, container⟩ := deed
    subst waits
    cases ends
    have before := FaithfulStore.found_earlier _ container.now _ _ _
      (Nat.le_add_right _ duration) cached
    cases uncached.symm.trans before
  have dated := (routine_dated toolkit lifetime).relates_of_deed ⟨own, noWait⟩ ends
  obtain ⟨entry, held, live, rfl⟩ := MemoryCache.get_eq_some.mp cached
  rcases dated.entries lives key entry held with before | isDated
  · rw [dated.now] at live
    cases live.symm.trans (MemoryCache.not_live_of_get_eq_none uncached before)
  · refine ⟨dated.now, held.trans ?_⟩
    rw [← isDated]

/-- What a container does with an id whose object expires at a time. -/
structure LifetimeLaws
    (ω : Type)
    [CacheStore ω Json.Value]
    (toolkit : Toolkit κ)
    (id : String)
    (order : Order)
    (object : Instance κ)
    (expiry : Instant)
    (cached : Container κ (MemoryCache (Instance κ))) :
    Prop where
  /-- Before that time, the id is resolved to what the cache has, and nothing changes. -/
  fresh : ∀ (deeds : List (Deed κ (MemoryCache (Instance κ)) ω)) later fuel,
    History toolkit cached deeds later →
      (∀ deed ∈ deeds, deed.operation.isForeign = false ∧ deed.operation ≠ .clearCache) →
      later.now < expiry →
      Container.get toolkit (fuel + 1) id later = some (.ok object, later)
  /-- From that time on, the cache does not have it any more. -/
  expired : ∀ later, expiry ≤ later →
    (CacheStore.get cached.cache later (Key.service toolkit.digest id)).1 = none
  /-- However late it is, the id is resolved to the same object, nothing is run for it, and it is
  in the cache again, if a clock can tell when it will expire. -/
  same : ∀ (deeds : List (Deed κ (MemoryCache (Instance κ)) ω)) later fuel,
    History toolkit cached deeds later →
      (∀ deed ∈ deeds, deed.operation.clears = false ∧ deed.operation.isForeign = false) →
      (later.found? (Key.service toolkit.digest id) = none → later.stops = false) →
      ∃ last,
        Container.get toolkit (fuel + 1) id later = some (.ok object, last) ∧
          last.found? (Key.service toolkit.digest id) = some object ∧
          last = { later with cache := last.cache }
  /-- If no clock can tell, keeping the same object panics. -/
  stopped : ∀ (deeds : List (Deed κ (MemoryCache (Instance κ)) ω)) later fuel,
    History toolkit cached deeds later →
      (∀ deed ∈ deeds, deed.operation.clears = false ∧ deed.operation.isForeign = false) →
      later.found? (Key.service toolkit.digest id) = none →
      later.stops = true →
      Container.get toolkit fuel id later = none
  /-- Only where the memo has been cleared, too, is it made anew. -/
  renewed : ∀ (deeds : List (Deed κ (MemoryCache (Instance κ)) ω)) later fuel other last,
    History toolkit cached deeds later →
      later.found? (Key.service toolkit.digest id) = none →
      later.memo.find? (order.key toolkit.digest) = none →
      Container.get toolkit fuel id later = some (.ok other, last) →
      NewlyMade toolkit later last (order.key toolkit.digest) other

/-- What is in the cache and live is the answer, and nothing changes. -/
theorem Container.get_of_live
    {toolkit : Toolkit κ}
    {id : String}
    {container : Container κ (MemoryCache (Instance κ))}
    {entry : CacheEntry (Instance κ)}
    (notItself : container.definitions.find? id ≠ some .itself)
    (held :
      container.cache.entries.find? (Key.service toolkit.digest id) = some entry)
    (live : entry.isLive container.now = true)
    (fuel : Nat) :
    get toolkit (fuel + 1) id container = some (.ok entry.value, container) := by
  have answer :
      container.cache.get container.now (Key.service toolkit.digest id) =
        (some entry.value, container.cache) := by
    simp only [MemoryCache.get, held, live, if_true]
  have found : container.found? (Key.service toolkit.digest id) = some entry.value :=
    congrArg Prod.fst answer
  have untouched : container.lookedUp (Key.service toolkit.digest id) = container := by
    unfold lookedUp
    rw [show CacheStore.get container.cache container.now (Key.service toolkit.digest id) = _
      from answer]
  rw [get_other notItself, found, untouched]

/-- What is in the cache for a class or a factory call is in the memo, too. -/
theorem Loyal.remembered
    {toolkit : Toolkit κ}
    {id : String}
    {definition : Definition κ}
    {order : Order}
    {object : Instance κ}
    {container : Container κ (MemoryCache (Instance κ))}
    (loyal : Loyal toolkit id definition none container)
    (asked : definition.order? = some order)
    (cached : container.found? (Key.service toolkit.digest id) = some object) :
    container.memo.find? (order.key toolkit.digest) = some object := by
  rcases loyal.cached container.now object (Nat.le_refl _) cached with stale | given | made
  · cases stale
  · subst given
    cases asked
  · obtain ⟨_, askedToo, inMemo⟩ := made
    cases asked.symm.trans askedToo
    exact inMemo

/-- What an order comes to is in the memo, and on a miss it is kept, if that does not stop. -/
theorem Loyal.get_missing
    {toolkit : Toolkit κ}
    {id : String}
    {definition : Definition κ}
    {order : Order}
    {object : Instance κ}
    {container : Container κ (MemoryCache (Instance κ))}
    (loyal : Loyal toolkit id definition none container)
    (asked : definition.order? = some order)
    (remembered : container.memo.find? (order.key toolkit.digest) = some object)
    (missed : container.found? (Key.service toolkit.digest id) = none)
    (fuel : Nat) :
    Container.get toolkit (fuel + 1) id container =
      if container.stops then
        none
      else
        some (.ok object,
          (container.lookedUp (Key.service toolkit.digest id)).keeping
            (Key.service toolkit.digest id) object) := by
  let looked := container.lookedUp (Key.service toolkit.digest id)
  have leads : Container.orderOf? id (some definition) = some order := asked
  have resolved :
      Container.resolveDefinition toolkit (Container.get toolkit fuel) id
          (container.definitions.find? id) looked =
        some (.ok object, looked) := by
    rw [loyal.defined, Container.resolveDefinition_of_order leads]
    exact Attempt.mapError_eq_ok.mpr (Builder.build_remembered remembered)
  have steady : looked.stops = container.stops := (stride_stops toolkit).lookUp id container
  rw [Container.get_of_resolved (loyal.ne_itself (isConcrete_of_order asked)) missed resolved,
    steady]

/-- Where the definition of an id denotes what its cache has, that is the answer, with nothing run
for it. -/
theorem Loyal.get_same
    {toolkit : Toolkit κ}
    {id : String}
    {definition : Definition κ}
    {order : Order}
    {object : Instance κ}
    {container : Container κ (MemoryCache (Instance κ))}
    (loyal : Loyal toolkit id definition none container)
    (asked : definition.order? = some order)
    (remembered : container.memo.find? (order.key toolkit.digest) = some object)
    (goes : container.found? (Key.service toolkit.digest id) = none → container.stops = false)
    (fuel : Nat) :
    ∃ last,
      Container.get toolkit (fuel + 1) id container = some (.ok object, last) ∧
        last.found? (Key.service toolkit.digest id) = some object ∧
        last = { container with cache := last.cache } := by
  cases answer : container.found? (Key.service toolkit.digest id) with
  | some found =>
      obtain ⟨entry, held, live, rfl⟩ := MemoryCache.get_eq_some.mp answer
      have isObject : entry.value = object :=
        Option.some.inj ((loyal.remembered asked answer).symm.trans remembered)
      subst isObject
      have notItself := loyal.ne_itself (isConcrete_of_order asked)
      exact ⟨container, Container.get_of_live notItself held live fuel, answer, rfl⟩
  | none =>
      let key := Key.service toolkit.digest id
      have steady := (stride_stops toolkit).lookUp id container
      refine ⟨(container.lookedUp key).keeping key object, ?_,
        MemoryCache.get_set_self (steady.trans (goes answer)) _ _, rfl⟩
      rw [loyal.get_missing asked remembered answer, if_neg (by simp [goes answer])]

/-- A deed that clears leaves nothing in the cache that was not there before. -/
theorem Deed.clears_eq_false_of_cached
    {toolkit : Toolkit κ}
    {key : String}
    {deed : Deed κ (MemoryCache (Instance κ)) ω}
    {outcome : Except AnyError (Option (Instance κ))}
    {after : Container κ (MemoryCache (Instance κ))}
    {object : Instance κ}
    (ends : deed.Ends toolkit outcome after)
    (uncached : deed.container.found? key = none)
    (cached : after.found? key = some object) :
    deed.operation.clears = false := by
  obtain ⟨fuel, operation, container⟩ := deed
  cases operation with
  | clearCache =>
      cases ends
      cases cached
  | clearMemo =>
      cases ends
      cases uncached.symm.trans cached
  | _ => rfl

/-- An object that is resolved while neither the cache nor the memo has one is newly made. -/
theorem Container.newlyMade_of_get
    {χ : Type}
    [CacheStore χ (Instance κ)]
    {toolkit : Toolkit κ}
    {fuel : Nat}
    {id : String}
    {definition : Definition κ}
    {order : Order}
    {object : Instance κ}
    {container after : Container κ χ}
    (defined : container.definitions.find? id = some definition)
    (asked : definition.order? = some order)
    (uncached : container.found? (Key.service toolkit.digest id) = none)
    (forgotten : container.memo.find? (order.key toolkit.digest) = none)
    (got : get toolkit fuel id container = some (.ok object, after)) :
    NewlyMade toolkit container after (order.key toolkit.digest) object := by
  cases fuel with
  | zero => cases got
  | succ fuel =>
      cases get_ends got with
      | own itself =>
          cases defined.symm.trans itself
          cases asked
      | cached _ hit => cases uncached.symm.trans hit
      | @resolved _ between _ _ resolution =>
          rw [defined] at resolution
          generalize ended : Except.ok object = outcome at resolution
          cases resolution with
          | circle cyclic => cases ended
          | followed acyclic resolved => cases asked
          | given prebuilt => cases asked
          | own => cases asked
          | @ordered _ other answer _ askedToo built =>
              cases asked.symm.trans askedToo
              cases answer with
              | error error => cases ended
              | ok made =>
                  cases ended
                  have walk := walk_newlyMade (κ := κ) (χ := χ) toolkit
                  obtain ⟨_, added⟩ :=
                    walk.builds_of_gets (walk.gets fuel) _ _ _ _ trivial built
                  rcases added _ _ (Builder.find?_of_build built) with before | isNew
                  · cases forgotten.symm.trans before
                  · exact isNew.mono (.of_same rfl rfl) (.of_same rfl rfl)

/--
An id that is defined as a class or a factory call, and whose object a deed put into the cache, is
resolved to this object from the cache for one lifetime.  After that it is resolved to the same
object from the memo, and only where the memo was cleared is it made anew.
-/
theorem Container.lifetimeLaws_of_cached
    {toolkit : Toolkit κ}
    {id : String}
    {definition : Definition κ}
    {order : Order}
    (asked : definition.order? = some order)
    (distinct : ∀ other, toolkit.digest other = toolkit.digest id → other = id)
    {deed : Deed κ (MemoryCache (Instance κ)) ω}
    {outcome : Except AnyError (Option (Instance κ))}
    {after : Container κ (MemoryCache (Instance κ))}
    {lifetime : Nat}
    {object : Instance κ}
    (defined : deed.container.definitions.find? id = some definition)
    (lives : deed.container.ttl.bind Ttl.lifetime? = some lifetime)
    (own : deed.operation.isForeign = false)
    (ends : deed.Ends toolkit outcome after)
    (uncached : deed.container.found? (Key.service toolkit.digest id) = none)
    (cached : after.found? (Key.service toolkit.digest id) = some object) :
    LifetimeLaws ω toolkit id order object (deed.container.now + lifetime) after := by
  have concrete := isConcrete_of_order asked
  obtain ⟨sameTime, held⟩ := deed.entry_of_cached own lives ends uncached cached
  have stillDefined
      {deeds : List (Deed κ (MemoryCache (Instance κ)) ω)}
      {later : Container κ (MemoryCache (Instance κ))}
      (history : History toolkit after deeds later) :
      later.definitions.find? id = some definition := by
    have routine := Container.routine_enduring (χ := MemoryCache (Instance κ)) (ω := ω) toolkit
    have first := (routine.relates_of_deed trivial ends).kept _ _ defined
    exact (routine.relates_of_history (fun _ _ => trivial) history).kept _ _ first
  have noClear := deed.clears_eq_false_of_cached ends uncached cached
  have loyal : Loyal toolkit id definition none after := by
    refine (routine_loyal concrete distinct).relates_of_deed ⟨noClear, own⟩ ends
      ⟨defined, fun later found reached isFound => ?_⟩
    have before := FaithfulStore.found_earlier _ _ _ _ _ reached isFound
    cases uncached.symm.trans before
  have stillLoyal
      {deeds : List (Deed κ (MemoryCache (Instance κ)) ω)}
      {later : Container κ (MemoryCache (Instance κ))}
      (history : History toolkit after deeds later)
      (permitted : ∀ deed ∈ deeds,
        deed.operation.clears = false ∧ deed.operation.isForeign = false) :
      Loyal toolkit id definition none later :=
    (routine_loyal concrete distinct).relates_of_history permitted history loyal
  have stillRemembered
      {deeds : List (Deed κ (MemoryCache (Instance κ)) ω)}
      {later : Container κ (MemoryCache (Instance κ))}
      (history : History toolkit after deeds later)
      (permitted : ∀ deed ∈ deeds,
        deed.operation.clears = false ∧ deed.operation.isForeign = false) :
      later.memo.find? (order.key toolkit.digest) = some object := by
    have kept := (routine_memoKept toolkit).relates_of_history
      (fun deed member => (permitted deed member).1) history
    exact kept _ _ (loyal.remembered asked cached)
  refine
    { fresh := ?_
      expired := ?_
      same := ?_
      stopped := ?_
      renewed := ?_ }
  · intro deeds later fuel history permitted young
    have livesOn := (routine_livesOn toolkit).relates_of_history permitted history
    have live : CacheEntry.isLive
        { value := object, expiresAt := some (deed.container.now + lifetime) }
        later.now = true := decide_eq_true young
    have notItself : later.definitions.find? id ≠ some .itself := by
      rw [stillDefined history]
      rintro ⟨⟩
      cases asked
    exact get_of_live notItself (livesOn.entries _ _ held live) live fuel
  · intro later late
    refine Option.eq_none_iff_forall_ne_some.mpr fun found isFound => ?_
    obtain ⟨entry, heldToo, live, _⟩ := MemoryCache.get_eq_some.mp isFound
    cases held.symm.trans heldToo
    exact absurd (of_decide_eq_true live) (Nat.not_lt.mpr late)
  · intro deeds later fuel history permitted goes
    exact (stillLoyal history permitted).get_same asked (stillRemembered history permitted) goes
      fuel
  · intro deeds later fuel history permitted uncachedThen stops
    cases fuel with
    | zero => rfl
    | succ fuel =>
        rw [(stillLoyal history permitted).get_missing asked (stillRemembered history permitted)
          uncachedThen, if_pos stops]
  · intro deeds later fuel other last history uncachedThen forgotten got
    exact newlyMade_of_get (stillDefined history) asked uncachedThen forgotten got

namespace Lifetime

/-- A container with a class `x`, whose services live for ten nanoseconds. -/
def start : Container Unit (MemoryCache (Instance Unit)) :=
  { FirstDefinition.defined with ttl := some (.duration 10) }

/-- Resolving `x` there. -/
def asking : Deed Unit (MemoryCache (Instance Unit)) (BlankCache Json.Value) :=
  { fuel := 3, operation := .get "x", container := start }

/-- The container some time later. -/
def later (container : Container Unit (MemoryCache (Instance Unit))) (duration : Nat) :
    Container Unit (MemoryCache (Instance Unit)) :=
  { container with now := container.now + duration }

/-- Letting this time pass. -/
def waiting (container : Container Unit (MemoryCache (Instance Unit))) (duration : Nat) :
    Deed Unit (MemoryCache (Instance Unit)) (BlankCache Json.Value) :=
  { fuel := 0, operation := .wait duration, container := container }

theorem history_waiting
    (container : Container Unit (MemoryCache (Instance Unit)))
    (duration : Nat) :
    History FirstDefinition.toolkit container [waiting container duration]
      (later container duration) := by
  have waited : (waiting container duration).Ends FirstDefinition.toolkit (.ok none)
      (later container duration) :=
    rfl
  exact .step .start waited

theorem permitted_waiting
    (container : Container Unit (MemoryCache (Instance Unit)))
    (duration : Nat) :
    ∀ deed ∈ [waiting container duration],
      deed.operation.clears = false ∧ deed.operation.isForeign = false := by
  simp [waiting, Operation.clears, Operation.isForeign]

end Lifetime

/-- The object of the class `x` is resolved again after twice its lifetime, but at the last instant
of all it is not. -/
theorem Container.lifetimeLaws_of_cached_of_x :
    ∃ object after last,
      Lifetime.asking.Ends FirstDefinition.toolkit (.ok (some object)) after ∧
        LifetimeLaws (BlankCache Json.Value) FirstDefinition.toolkit "x" (.ofClass "x" []) object
          10 after ∧
        get FirstDefinition.toolkit 3 "x" (Lifetime.later after 20) = some (.ok object, last) ∧
        get FirstDefinition.toolkit 3 "x" (Lifetime.later after lastInstant) = none := by
  let key := Key.service FirstDefinition.toolkit.digest "x"
  have passes :
      Attempt.endsSo
        (fun outcome after =>
          (outcome.toOption.join.any fun object => decide (after.found? key = some object)) &&
            (!(Lifetime.later after 20).stops && (Lifetime.later after lastInstant).stops))
        (Lifetime.asking.operation.run FirstDefinition.toolkit 3 Lifetime.start) = true := by
    decide +kernel
  obtain ⟨outcome, after, ends, tested⟩ := Attempt.exists_of_endsSo passes
  simp only [Bool.and_eq_true, Bool.not_eq_true'] at tested
  obtain ⟨cached, goes, stops⟩ := tested
  cases outcome with
  | error error => simp [Except.toOption] at cached
  | ok found =>
      cases found with
      | none => simp [Except.toOption] at cached
      | some object =>
          have isCached : after.found? key = some object := by
            simpa [Except.toOption] using cached
          have ends : Lifetime.asking.Ends FirstDefinition.toolkit (.ok (some object)) after := ends
          have uncached : Lifetime.start.found? key = none := rfl
          have defined :
              Lifetime.asking.container.definitions.find? "x" = some (.ofClass "x" []) :=
            rfl
          have laws :
              LifetimeLaws (BlankCache Json.Value) FirstDefinition.toolkit "x" (.ofClass "x" [])
                object 10 after :=
            lifetimeLaws_of_cached rfl (fun _ same => FirstDefinition.digest_injective same) defined
              rfl rfl ends uncached isCached
          have expired : (Lifetime.later after lastInstant).found? key = none :=
            laws.expired _ (Nat.le_trans (by decide) (Nat.le_add_left lastInstant after.now))
          obtain ⟨last, got, _⟩ := laws.same _ _ 2 (Lifetime.history_waiting after 20)
            (Lifetime.permitted_waiting after 20) fun _ => goes
          exact ⟨object, after, last, ends, laws, got,
            laws.stopped _ _ 3 (Lifetime.history_waiting after lastInstant)
              (Lifetime.permitted_waiting after lastInstant) expired stops⟩

end Switchboard
