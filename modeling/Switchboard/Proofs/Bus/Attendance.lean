import Mathlib.Data.List.Sigma
import Switchboard.Proofs.Bus.Dispatch

namespace Switchboard.EventBus

open Manifest (ListenerItem)
open Manifest.Reader (registerListeners)

/-!
# How often a registration is called

The round of a dispatch goes through the registrations in line for the event, so it calls each of
them as often as it stands there at most.  That is once, unless the event is itself named like all
events: then the registrations for all events stand in line twice, as those for its name and as
those for all.
-/

variable {σ ι μ ε : Type}

/-- Lining up keeps what can be told of a registration by a part of it. -/
theorem map_lineUp
    {α β : Type}
    (view : α → β)
    (eventOf : β → String)
    (items : List α)
    (identifier : String) :
    (lineUp (fun item => eventOf (view item)) items identifier).map view =
      lineUp eventOf (items.map view) identifier := by
  simp [lineUp, List.filter_map, Function.comp_def]

/-- Names of events apart from the one for all events put every registration in line once. -/
theorem nodup_lineUp
    {α : Type}
    {eventOf : α → String}
    {items : List α}
    {identifier : String}
    (apart : identifier ≠ everyEvent)
    (nodup : items.Nodup) :
    (lineUp eventOf items identifier).Nodup := by
  refine (nodup.filter _).append (nodup.filter _) ?_
  intro item forName forAll
  have isName := (List.mem_filter.mp forName).2
  have isAll := (List.mem_filter.mp forAll).2
  exact apart ((of_decide_eq_true isName).symm.trans (of_decide_eq_true isAll))

theorem countP_lineUp
    {α : Type}
    {eventOf : α → String}
    {identifier : String}
    (apart : identifier ≠ everyEvent)
    (test : α → Bool)
    (items : List α) :
    (lineUp eventOf items identifier).countP test =
      items.countP fun item =>
        (eventOf item = identifier ∨ eventOf item = everyEvent) ∧ test item = true := by
  induction items with
  | nil => rfl
  | cons item items inductionHypothesis =>
      simp only [lineUp, List.countP_append, List.countP_filter, List.countP_cons]
        at inductionHypothesis ⊢
      by_cases isName : eventOf item = identifier
      · have notAll : eventOf item ≠ everyEvent := fun isAll => apart (isName.symm.trans isAll)
        grind
      · grind

/-- The registrations with these numbers are called for an event, in this order, by a round that
ends with `result` and `final`. -/
def Calls
    (host : Host σ ι μ)
    (items : List ListenerItem)
    (event : Event)
    (before : σ)
    (calls : List (ListenerItem × Nat))
    (result : Except BusError Unit)
    (final : Event × σ) :
    Prop :=
  ∃ rest,
    lineUp (fun entry => entry.1.event) items.zipIdx event.identifier = calls ++ rest ∧
      host.Round event.identifier (event, before)
        (calls.map fun entry => entry.1.listener) (rest.map fun entry => entry.1.listener)
        result final

/-- How often a round calls single registrations and classes. -/
structure CallsLaw
    (items : List ListenerItem)
    (identifier : String)
    (calls : List (ListenerItem × Nat))
    (result : Except BusError Unit)
    (final : Event × σ) :
    Prop where
  /-- Unless the event is named like all events, no registration is called twice. -/
  nodup : identifier ≠ everyEvent → calls.Nodup
  /-- Then no class is called more often than it is registered for the event. -/
  count_class_le : identifier ≠ everyEvent → ∀ className,
    (calls.map fun entry => entry.1.listener).count className ≤
      items.countP fun item =>
        (item.event = identifier ∨ item.event = everyEvent) ∧ item.listener = className
  /-- No registration is ever called more than twice. -/
  count_le_two : ∀ entry, calls.count entry ≤ 2
  /-- An event named like all events calls each registration for them twice, unless a listener
  fails or stops it. -/
  count_eq_two : identifier = everyEvent → result = .ok () → final.1.isStopped = false →
    ∀ entry ∈ items.zipIdx, entry.1.event = everyEvent → calls.count entry = 2

/-- A round through the listeners of an event is one through numbered registrations. -/
theorem exists_calls
    {host : Host σ ι μ}
    {config : Config}
    {items : List ListenerItem}
    {event : Event}
    {before : σ}
    {called rest : List String}
    {result : Except BusError Unit}
    {final : Event × σ}
    (split :
      (registerListeners (.empty config) items).listenersFor event.identifier = called ++ rest)
    (round : host.Round event.identifier (event, before) called rest result final) :
    ∃ calls, Calls host items event before calls result final := by
  have numbered :
      (lineUp (fun entry => entry.1.event) items.zipIdx event.identifier).map
          (fun entry => entry.1.listener) = called ++ rest := by
    rw [← split, listenersFor_registerListeners, ← List.zipIdx_map_fst 0 items, ← map_lineUp,
      List.map_map]
    simp [Function.comp_def]
  obtain ⟨calls, others, isLine, rfl, rfl⟩ := List.map_eq_append_iff.mp numbered
  exact ⟨calls, others, isLine, round⟩

theorem nodup_numbered (items : List ListenerItem) : items.zipIdx.Nodup :=
  (List.nodup_zipIdx_map_snd items).of_map

theorem Calls.law
    {host : Host σ ι μ}
    {items : List ListenerItem}
    {event : Event}
    {before : σ}
    {calls : List (ListenerItem × Nat)}
    {result : Except BusError Unit}
    {final : Event × σ}
    (made : Calls host items event before calls result final) :
    CallsLaw items event.identifier calls result final := by
  obtain ⟨rest, isLine, round⟩ := made
  have inLine :
      calls.Sublist (lineUp (fun entry => entry.1.event) items.zipIdx event.identifier) :=
    isLine ▸ List.sublist_append_left calls rest
  have atMostOnce (name : String) (entry : ListenerItem × Nat) :
      (items.zipIdx.filter fun entry => entry.1.event = name).count entry ≤ 1 :=
    List.nodup_iff_count_le_one.mp ((nodup_numbered items).filter _) entry
  refine ⟨fun apart => (nodup_lineUp apart (nodup_numbered items)).sublist inLine, ?_, ?_, ?_⟩
  · intro apart className
    have classes :
        ((lineUp (fun entry => entry.1.event) items.zipIdx event.identifier).map
            fun entry => entry.1.listener) =
          (lineUp ListenerItem.event items event.identifier).map ListenerItem.listener := by
      rw [← List.zipIdx_map_fst 0 items, ← map_lineUp, List.map_map]
      simp [Function.comp_def]
    calc (calls.map fun entry => entry.1.listener).count className
        ≤ ((lineUp (fun entry => entry.1.event) items.zipIdx event.identifier).map
            fun entry => entry.1.listener).count className :=
          (inLine.map _).count_le className
      _ = (lineUp ListenerItem.event items event.identifier).countP
            fun item => item.listener == className := by
          rw [classes, List.count, List.countP_map]
          rfl
      _ = _ := countP_lineUp apart _ items
      _ ≤ _ := by simp only [beq_iff_eq, le_refl]
  · intro entry
    have atMost := inLine.count_le entry
    rw [lineUp, List.count_append] at atMost
    have forName := atMostOnce event.identifier entry
    have forAll := atMostOnce everyEvent entry
    omega
  · intro isAll succeeded going entry member isFor
    subst succeeded
    obtain rfl := List.map_eq_nil_iff.mp (round.rest_eq_nil going)
    rw [List.append_nil] at isLine
    -- both parts of the line are the same registrations, and all of them are called
    have once : (items.zipIdx.filter fun entry => entry.1.event = everyEvent).count entry = 1 :=
      List.count_eq_one_of_mem ((nodup_numbered items).filter _)
        (List.mem_filter.mpr ⟨member, decide_eq_true isFor⟩)
    rw [← isLine, isAll, lineUp, List.count_append, once]

/-- In the background mode a dispatch builds and calls nobody itself. -/
theorem dispatch_of_isAsync
    {host : Host σ ι μ}
    {bus : EventBus}
    {event : Event}
    {before : σ}
    {outcome : Except BusError Event}
    {after : EventBus × σ}
    (isAsync : bus.isAsync = true)
    (ended : dispatch host event (bus, before) = some (outcome, after)) :
    after.2 = before := by
  simp only [dispatch, Attempt.reading_bind, isAsync, if_true] at ended
  split at ended
  · cases ended
    rfl
  · obtain ⟨first, queued, rfl⟩ := Attempt.bind_pure_eq_some.mp ended
    unfold enqueue at queued
    split at queued <;> cases queued <;> rfl

/--
How often one dispatch calls the registrations for its event, in either mode.

On a synchronous bus the calls are those of the dispatch itself; in the background mode it makes
none, and the calls are those of the work on the job that it queues.
-/
theorem calls_of_dispatch
    (host : Host σ ι μ)
    (config : Config)
    (items : List ListenerItem)
    (event : Event)
    (before : σ) :
    let bus := registerListeners (.empty config) items
    (∀ outcome after,
      dispatch host event (bus, before) = some (outcome, after) →
        (config.isAsync = true → after.2 = before) ∧
          (config.isAsync = false →
            ∃ calls result final,
              Calls host items event before calls result final ∧
                CallsLaw items event.identifier calls result final ∧
                outcome = result.map (fun _ => final.1) ∧ after = (bus, final.2))) ∧
      ∀ (outcome : Except ε (List Warning)) after,
        work host { event := event, listeners := bus.listenersFor event.identifier } before =
            some (outcome, after) →
          ∃ calls result final,
            Calls host items event before calls result final ∧
              CallsLaw items event.identifier calls result final ∧
              after = final.2 := by
  intro bus
  have mode : bus.isAsync = config.isAsync := by
    rw [isAsync, config_registerListeners]
    rfl
  constructor
  · intro outcome after ended
    refine ⟨fun isAsync => dispatch_of_isAsync (mode.trans isAsync) ended, fun isSync => ?_⟩
    obtain ⟨called, rest, result, final, split, round, isOutcome, isAfter⟩ :=
      (dispatch_eq_some_iff_round (mode.trans isSync)).mp ended
    obtain ⟨calls, made⟩ := exists_calls split round
    exact ⟨calls, result, final, made, made.law, isOutcome, isAfter⟩
  · intro outcome after ended
    obtain ⟨called, rest, result, final, split, round, isAfter⟩ := round_of_work ended
    obtain ⟨calls, made⟩ := exists_calls split round
    exact ⟨calls, result, final, made, made.law, isAfter⟩

/-- One registration for all events is called twice for an event that is itself named `*`. -/
theorem calls_of_dispatch_of_star :
    ∃ calls final,
      Calls Example.host [{ event := "*", listener := "Spy", priority := none }]
          (.named "*" "") [] calls (.ok ()) final ∧
        final = (.named "*" "", ["Spy", "Spy"]) ∧
        calls.count ({ event := "*", listener := "Spy", priority := none }, 0) = 2 := by
  obtain ⟨comes, _⟩ :=
    calls_of_dispatch (ε := Failure) Example.host .initial
      [{ event := "*", listener := "Spy", priority := none }] (.named "*" "") []
  obtain ⟨calls, result, final, made, law, isOutcome, isAfter⟩ :=
    (comes (.ok (.named "*" ""))
      (registerListeners (.empty .initial) [{ event := "*", listener := "Spy", priority := none }],
        ["Spy", "Spy"]) (by rfl)).2 rfl
  obtain ⟨last, log⟩ := final
  obtain rfl : ["Spy", "Spy"] = log := congrArg Prod.snd isAfter
  cases result with
  | error error => cases isOutcome
  | ok value =>
      obtain rfl : Event.named "*" "" = last := Except.ok.inj isOutcome
      exact ⟨calls, _, made, rfl, law.count_eq_two rfl rfl rfl _ (.head _) rfl⟩

end Switchboard.EventBus
