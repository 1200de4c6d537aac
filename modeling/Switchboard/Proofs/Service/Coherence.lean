import Switchboard.Proofs.Service.Forecast
import Switchboard.Proofs.Service.Provenance

namespace Switchboard

/-!
# Coherent containers

A container is coherent with its start if everything that was cached and remembered since is what
a forecast says, and the runs that the forecast says it takes have happened.  Every single step of
a resolution keeps a container coherent, and `Progress` keeps account of the runs on the way.
-/

variable {κ χ τ : Type} [CacheStore χ (Instance κ)]

/-- Where neither the container nor its cache in memory has a lifetime, keeping never panics. -/
theorem Container.stops_of_no_lifetime
    {container : Container κ (MemoryCache (Instance κ))}
    (noTtl : container.ttl = none)
    (noDefault : container.cache.defaultTtl = none) :
    container.stops = false := by
  unfold stops
  rw [noTtl]
  exact MemoryCache.stops_of_no_lifetime noDefault container.now

namespace Vantage

/-- Some id leads to the order. -/
def Gives (vantage : Vantage κ χ τ) (order : Order) : Prop :=
  ∃ id, Container.orderOf? id (vantage.start.definitions.find? id) = some order

/-- Keys tell ids and orders apart, constructors and factories see no more than the view, and
keeping objects in the cache does not panic, which it never does without lifetimes. -/
structure Fair (vantage : Vantage κ χ τ) : Prop where
  goes : vantage.start.stops = false
  injective : Function.Injective vantage.toolkit.digest
  /-- Different orders write different texts. -/
  apart : ∀ order other,
    vantage.Gives order → vantage.Gives other → order.SameText other → order = other
  blind : vantage.Blind

theorem Fair.eq_of_key_eq
    {vantage : Vantage κ χ τ}
    (fair : vantage.Fair)
    {order other : Order}
    (gives : vantage.Gives order)
    (givesToo : vantage.Gives other)
    (sameKey : order.key vantage.toolkit.digest = other.key vantage.toolkit.digest) :
    order = other :=
  fair.apart order other gives givesToo (Order.sameText_of_key_eq fair.injective sameKey)

/-- A run since the start is as the trace says. -/
def Covers (vantage : Vantage κ χ τ) (container : Container κ χ) (trace : Trace κ τ) : Prop :=
  ∃ run ∈ vantage.runs container, trace.Shows vantage container run

/-- A forecast of the inquiry says what the object is, and the runs that it takes happened. -/
def Foreseen
    (vantage : Vantage κ χ τ)
    (container : Container κ χ)
    (inquiry : Inquiry)
    (result : inquiry.Result κ) :
    Prop :=
  ∃ answer traces,
    Forecast vantage inquiry (some answer) traces ∧
      inquiry.Shows vantage container answer result ∧
      ∀ trace ∈ traces, vantage.Covers container trace

/-- What was cached and remembered since the start is what forecasts say. -/
structure Coherent (vantage : Vantage κ χ τ) (container : Container κ χ) : Prop where
  definitions : container.definitions = vantage.start.definitions
  now : container.now = vantage.start.now
  stops : container.stops = vantage.start.stops
  grows : vantage.start.Grows container
  runs : ∃ added, container.runs = vantage.start.runs ++ added
  found : ∀ key object,
    vantage.start.found? key = some object → container.found? key = some object
  cached : ∀ id object,
    container.found? (Key.service vantage.toolkit.digest id) = some object →
      vantage.start.found? (Key.service vantage.toolkit.digest id) = some object ∨
        vantage.Foreseen container (.get id) object
  remembered : ∀ order object,
    vantage.Gives order →
      container.memo.find? (order.key vantage.toolkit.digest) = some object →
      vantage.start.memo.find? (order.key vantage.toolkit.digest) = some object ∨
        vantage.Foreseen container (.build order) object

/-- From one container to another, runs of these traces happened. -/
structure Progress
    (vantage : Vantage κ χ τ)
    (before after : Container κ χ)
    (traces : List (Trace κ τ)) :
    Prop where
  coherent : vantage.Coherent after
  grows : before.Grows after
  /-- Every run on the way is as one of the traces says. -/
  added : ∃ added,
    after.runs = before.runs ++ added ∧
      ∀ run ∈ added, ∃ trace ∈ traces, trace.Shows vantage after run
  /-- By now every trace has a run, which may have happened before. -/
  covered : ∀ trace ∈ traces, vantage.Covers after trace

section

variable
  {vantage : Vantage κ χ τ}
  {before after : Container κ χ}

theorem Covers.mono
    {trace : Trace κ τ}
    (covers : vantage.Covers before trace)
    (grows : before.Grows after)
    (runs : ∃ added, after.runs = before.runs ++ added) :
    vantage.Covers after trace := by
  obtain ⟨run, member, shown⟩ := covers
  obtain ⟨added, extended⟩ := runs
  refine ⟨run, ?_, shown.mono grows⟩
  unfold Vantage.runs at member ⊢
  rw [extended, List.drop_append]
  exact List.mem_append_left _ member

theorem Foreseen.mono
    {inquiry : Inquiry}
    {result : inquiry.Result κ}
    (foreseen : vantage.Foreseen before inquiry result)
    (grows : before.Grows after)
    (runs : ∃ added, after.runs = before.runs ++ added) :
    vantage.Foreseen after inquiry result := by
  obtain ⟨answer, traces, forecast, shown, covered⟩ := foreseen
  exact ⟨answer, traces, forecast, shown.mono grows,
    fun trace member => (covered trace member).mono grows runs⟩

theorem coherent_start : vantage.Coherent vantage.start where
  definitions := rfl
  now := rfl
  stops := rfl
  grows := .refl _
  runs := ⟨[], (List.append_nil _).symm⟩
  found _ _ hit := hit
  cached _ _ hit := Or.inl hit
  remembered _ _ _ hit := Or.inl hit

/-- A step keeps a container coherent if what it caches and remembers is foreseen. -/
theorem Coherent.step
    (coherent : vantage.Coherent before)
    (definitions : after.definitions = before.definitions)
    (now : after.now = before.now)
    (stops : after.stops = before.stops)
    (grows : before.Grows after)
    (runs : ∃ added, after.runs = before.runs ++ added)
    (found : ∀ key object,
      vantage.start.found? key = some object →
        before.found? key = some object → after.found? key = some object)
    (cached : ∀ id object,
      after.found? (Key.service vantage.toolkit.digest id) = some object →
        before.found? (Key.service vantage.toolkit.digest id) = some object ∨
          vantage.Foreseen after (.get id) object)
    (remembered : ∀ order object,
      vantage.Gives order →
        after.memo.find? (order.key vantage.toolkit.digest) = some object →
        before.memo.find? (order.key vantage.toolkit.digest) = some object ∨
          vantage.Foreseen after (.build order) object) :
    vantage.Coherent after where
  definitions := definitions.trans coherent.definitions
  now := now.trans coherent.now
  stops := stops.trans coherent.stops
  grows := coherent.grows.trans grows
  runs := by
    obtain ⟨earlier, same⟩ := coherent.runs
    obtain ⟨added, sameToo⟩ := runs
    exact ⟨earlier ++ added, by rw [sameToo, same, List.append_assoc]⟩
  found key object hit := found key object hit (coherent.found key object hit)
  cached := by
    intro id object hit
    rcases cached id object hit with isOld | foreseen
    · exact (coherent.cached id object isOld).imp_right fun foreseen =>
        foreseen.mono grows runs
    · exact Or.inr foreseen
  remembered := by
    intro order object gives hit
    rcases remembered order object gives hit with isOld | foreseen
    · exact (coherent.remembered order object gives isOld).imp_right fun foreseen =>
        foreseen.mono grows runs
    · exact Or.inr foreseen

namespace Progress

theorem refl (coherent : vantage.Coherent before) : vantage.Progress before before [] where
  coherent := coherent
  grows := .refl _
  added := ⟨[], (List.append_nil _).symm, fun _ member => nomatch member⟩
  covered _ member := nomatch member

theorem trans
    {between : Container κ χ}
    {traces others : List (Trace κ τ)}
    (first : vantage.Progress before between traces)
    (second : vantage.Progress between after others) :
    vantage.Progress before after (traces ++ others) where
  coherent := second.coherent
  grows := first.grows.trans second.grows
  added := by
    obtain ⟨earlier, same, shown⟩ := first.added
    obtain ⟨later, sameToo, shownToo⟩ := second.added
    refine ⟨earlier ++ later, by rw [sameToo, same, List.append_assoc], ?_⟩
    intro run member
    rcases List.mem_append.mp member with isEarlier | isLater
    · obtain ⟨trace, among, isShown⟩ := shown run isEarlier
      exact ⟨trace, List.mem_append_left _ among, isShown.mono second.grows⟩
    · obtain ⟨trace, among, isShown⟩ := shownToo run isLater
      exact ⟨trace, List.mem_append_right _ among, isShown⟩
  covered := by
    intro trace member
    rcases List.mem_append.mp member with isEarlier | isLater
    · obtain ⟨later, same, _⟩ := second.added
      exact (first.covered trace isEarlier).mono second.grows ⟨later, same⟩
    · exact second.covered trace isLater

/-- Traces that have a run already can be said to be covered on the way. -/
theorem covering
    {traces : List (Trace κ τ)}
    (progress : vantage.Progress before after [])
    (covered : ∀ trace ∈ traces, vantage.Covers after trace) :
    vantage.Progress before after traces where
  coherent := progress.coherent
  grows := progress.grows
  added := by
    obtain ⟨added, same, shown⟩ := progress.added
    refine ⟨added, same, ?_⟩
    intro run member
    obtain ⟨trace, impossible, _⟩ := shown run member
    cases impossible
  covered := covered

/-- A step without a trace at the end adds none. -/
theorem then_step
    {between : Container κ χ}
    {traces : List (Trace κ τ)}
    (first : vantage.Progress before between traces)
    (second : vantage.Progress between after []) :
    vantage.Progress before after traces := by
  have both := first.trans second
  rwa [List.append_nil] at both

end Progress

/-- A step without a run leads on if what it caches and remembers is foreseen. -/
theorem Coherent.quietly
    (coherent : vantage.Coherent before)
    (definitions : after.definitions = before.definitions)
    (now : after.now = before.now)
    (stops : after.stops = before.stops)
    (grows : before.Grows after)
    (runs : after.runs = before.runs)
    (found : ∀ key object,
      vantage.start.found? key = some object →
        before.found? key = some object → after.found? key = some object)
    (cached : ∀ id object,
      after.found? (Key.service vantage.toolkit.digest id) = some object →
        before.found? (Key.service vantage.toolkit.digest id) = some object ∨
          vantage.Foreseen after (.get id) object)
    (remembered : ∀ order object,
      vantage.Gives order →
        after.memo.find? (order.key vantage.toolkit.digest) = some object →
        before.memo.find? (order.key vantage.toolkit.digest) = some object ∨
          vantage.Foreseen after (.build order) object) :
    vantage.Progress before after [] where
  coherent :=
    coherent.step definitions now stops grows ⟨[], by rw [runs, List.append_nil]⟩ found cached
      remembered
  grows := grows
  added := ⟨[], by rw [runs, List.append_nil], fun _ member => nomatch member⟩
  covered _ member := nomatch member

/-- The container answers with itself. -/
theorem Coherent.asInstance
    (coherent : vantage.Coherent before) :
    vantage.Progress before before.asInstance.2 [] :=
  coherent.quietly rfl rfl rfl ⟨fun _ _ held => held, rfl⟩ rfl (fun _ _ _ hit => hit)
    (fun _ _ hit => Or.inl hit) (fun _ _ _ hit => Or.inl hit)

/-- What is missed now was not there at the start. -/
theorem Coherent.found?_start
    (coherent : vantage.Coherent before)
    {key : String}
    (miss : before.found? key = none) :
    vantage.start.found? key = none := by
  cases hit : vantage.start.found? key with
  | none => rfl
  | some object => cases miss.symm.trans (coherent.found key object hit)

theorem Coherent.memo_start
    (coherent : vantage.Coherent before)
    {key : String}
    (miss : before.memo.find? key = none) :
    vantage.start.memo.find? key = none := by
  cases hit : vantage.start.memo.find? key with
  | none => rfl
  | some object => cases miss.symm.trans (coherent.grows.memo key object hit)

/-- A step with one run leads on from a coherent container to the next. -/
theorem Progress.of_run
    (coherent : vantage.Coherent before)
    {origin : Origin}
    {title : String}
    {maker : Maker κ}
    {arguments : Arguments κ}
    {outcome : Except BuildError (Instance κ)}
    (made : Builder.make origin title maker arguments before = some (outcome, after))
    (self : after.self = before.self)
    {run : Run κ}
    (runs : after.runs = before.runs ++ [run])
    {trace : Trace κ τ}
    (shown : trace.Shows vantage before run) :
    vantage.Progress before after [trace] := by
  obtain ⟨sameDefinitions, sameCache, sameMemo, sameTime⟩ := Builder.make_frame made
  have grows : before.Grows after := ⟨fun key object held => by rw [sameMemo]; exact held, self⟩
  have sameFound (key : String) : after.found? key = before.found? key := by
    unfold Container.found?
    rw [sameCache, sameTime]
  have sameStops : after.stops = before.stops := by
    rw [Builder.make_touches made]
    rfl
  have coherentAfter : vantage.Coherent after := by
    refine coherent.step sameDefinitions sameTime sameStops grows ⟨[run], runs⟩ ?_ ?_ ?_
    · intro key object _ hit
      exact (sameFound key).trans hit
    · intro id object hit
      exact Or.inl ((sameFound _).symm.trans hit)
    · intro order object _ hit
      rw [sameMemo] at hit
      exact Or.inl hit
  have isLater : run ∈ vantage.runs after := by
    obtain ⟨earlier, same⟩ := coherent.runs
    unfold Vantage.runs
    rw [runs, same, List.append_assoc, List.drop_left]
    exact List.mem_append_right _ (List.mem_singleton_self run)
  refine
    { coherent := coherentAfter
      grows := grows
      added := ⟨[run], runs, ?_⟩
      covered := ?_ }
  · intro other member
    cases List.mem_singleton.mp member
    exact ⟨trace, List.mem_singleton_self _, shown.mono grows⟩
  · intro other member
    cases List.mem_singleton.mp member
    exact ⟨run, isLater, shown.mono grows⟩

/-- A constructor or factory runs. -/
theorem Coherent.make
    (coherent : vantage.Coherent before)
    {outline : Outline κ τ}
    {arguments : Arguments κ}
    (shown : outline.Shows vantage before arguments)
    (origin : Origin)
    (title : String)
    (maker : Maker κ) :
    ∃ outcome after,
      Builder.make origin title maker arguments before = some (outcome, after) ∧
        outcome.toOption.map (Instance.seen vantage.view) =
          (maker arguments).toOption.map (Product.seen vantage.view) ∧
        vantage.Progress before after
          [{ origin := origin, arguments := outline
             made := (maker arguments).toOption.map (Product.seen vantage.view) }] := by
  cases ran : maker arguments with
  | error failure =>
      have made :
          Builder.make origin title maker arguments before =
            some (.error (.construct title failure),
              { before with
                runs := before.runs ++
                  [{ origin := origin, arguments := arguments, made := none }] }) := by
        simp only [Builder.make, ran]
      exact ⟨_, _, made, rfl, .of_run coherent made rfl rfl ⟨rfl, shown, rfl⟩⟩
  | ok product =>
      have made :
          Builder.make origin title maker arguments before =
            some (.ok (product.toInstance before.nextId),
              { before with
                nextId := before.nextId + 1
                runs := before.runs ++
                  [{ origin := origin, arguments := arguments
                     made := some (product.toInstance before.nextId) }] }) := by
        simp only [Builder.make, ran]
      exact ⟨_, _, made, rfl, .of_run coherent made rfl rfl ⟨rfl, shown, rfl⟩⟩

/-- The object of an order is remembered, which a forecast says. -/
theorem Coherent.remembering
    (fair : vantage.Fair)
    (coherent : vantage.Coherent before)
    {order : Order}
    {object : Instance κ}
    (gives : vantage.Gives order)
    (foreseen :
      before.memo.find? (order.key vantage.toolkit.digest) = none →
        vantage.Foreseen
          (before.remembering (order.key vantage.toolkit.digest) object) (.build order) object) :
    vantage.Progress before
      (before.remembering (order.key vantage.toolkit.digest) object) [] := by
  refine coherent.quietly rfl rfl rfl ⟨memoKept_remembering before _ object, rfl⟩ rfl
    (fun _ _ _ hit => hit) (fun _ _ hit => Or.inl hit) ?_
  intro other held givesToo hit
  rcases find?_of_find?_remembering hit with isOld | ⟨sameKey, isHeld⟩
  · exact Or.inl isOld
  · cases fair.eq_of_key_eq gives givesToo sameKey
    unfold Memo.remember at isHeld
    cases entry : before.memo.find? (order.key vantage.toolkit.digest) with
    | some earlier =>
        rw [entry] at isHeld
        exact Or.inl (congrArg some isHeld)
    | none =>
        rw [entry] at isHeld
        cases isHeld
        exact Or.inr (foreseen entry)

/-- An object that is new in the memo is what the forecast says. -/
theorem Progress.foreseen_remembering
    {traces : List (Trace κ τ)}
    (progress : vantage.Progress before after traces)
    {order : Order}
    {object : Instance κ}
    (forecast :
      Forecast vantage (.build order)
        (some { source := .built order, product := object.seen vantage.view }) traces)
    (absent : after.memo.find? (order.key vantage.toolkit.digest) = none) :
    vantage.Foreseen (after.remembering (order.key vantage.toolkit.digest) object)
      (.build order) object := by
  have grows :
      after.Grows (after.remembering (order.key vantage.toolkit.digest) object) :=
    ⟨memoKept_remembering after _ object, rfl⟩
  have held := find?_remembering_self after (order.key vantage.toolkit.digest) object
  simp only [Memo.remember, absent] at held
  exact ⟨_, traces, forecast, ⟨rfl, held⟩, fun trace member =>
    (progress.covered trace member).mono grows ⟨[], (List.append_nil _).symm⟩⟩

variable [LastingStore χ (Instance κ)]

/-- The cache is asked. -/
theorem Coherent.lookedUp
    (coherent : vantage.Coherent before)
    (key : String) :
    vantage.Progress before (before.lookedUp key) [] :=
  coherent.quietly rfl rfl (SteadyStore.stops_get _ _ _ _ _) ⟨fun _ _ held => held, rfl⟩ rfl
    (fun other object _ hit => LastingStore.found_after_get _ _ key other object hit)
    (fun _ _ hit => Or.inl (FaithfulStore.found_of_get _ _ _ _ _ _ hit))
    (fun _ _ _ hit => Or.inl hit)

/-- The object of an id that had none is put into the cache, which a forecast says. -/
theorem Coherent.keeping
    (fair : vantage.Fair)
    (coherent : vantage.Coherent before)
    {id : String}
    {object : Instance κ}
    (miss : vantage.start.found? (Key.service vantage.toolkit.digest id) = none)
    (foreseen : vantage.Foreseen before (.get id) object) :
    vantage.Progress before
      (before.keeping (Key.service vantage.toolkit.digest id) object) [] := by
  have grows :
      before.Grows (before.keeping (Key.service vantage.toolkit.digest id) object) :=
    ⟨fun _ _ held => held, rfl⟩
  refine coherent.quietly rfl rfl (SteadyStore.stops_set _ _ _ _ _ _ _) grows rfl ?_ ?_
    (fun _ _ _ hit => Or.inl hit)
  · intro key found atStart hit
    have apart : Key.service vantage.toolkit.digest id ≠ key := by
      intro same
      rw [same, atStart] at miss
      cases miss
    exact LastingStore.found_after_set _ _ _ _ _ _ _ apart hit
  · intro other found hit
    rcases FaithfulStore.found_of_set _ _ _ _ _ _ _ _ hit with ⟨sameKey, rfl⟩ | isOld
    · cases Key.service_injective fair.injective sameKey
      exact Or.inr (foreseen.mono grows ⟨[], (List.append_nil _).symm⟩)
    · exact Or.inl isOld

end

end Vantage

end Switchboard
