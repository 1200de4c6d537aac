import Mathlib.Data.List.Nodup
import Switchboard.Manifest.Load
import Switchboard.Proofs.Bus.Round

namespace Switchboard.EventBus

open Manifest (ListenerItem)
open Manifest.Reader (registerListeners)

/-!
# Dispatching events

A bus after any registrations lines up those for the name of an event before those for all
events.  `dispatch_in_registration_order` says that a dispatch on a synchronous bus is a round
through this line.
-/

variable {σ ι μ ε : Type}

/-- Registrations in the order in which an event of a name goes to them. -/
def lineUp {α : Type} (eventOf : α → String) (items : List α) (identifier : String) : List α :=
  items.filter (fun item => eventOf item = identifier) ++
    items.filter fun item => eventOf item = everyEvent

/-- Registering adds to the listeners of one name, behind those that it has. -/
theorem listenersOf_register
    (bus : EventBus)
    (event className name : String)
    (priority : Option Int) :
    (bus.register event className priority).listenersOf name =
      bus.listenersOf name ++ if event = name then [className] else [] := by
  simp only [listenersOf, registrationsFor, register, Dict.alter, Dict.find?_insert]
  by_cases same : event = name
  · subst same
    simp
  · simp [same]

theorem listenersOf_registerListeners
    (bus : EventBus)
    (items : List ListenerItem)
    (name : String) :
    (registerListeners bus items).listenersOf name =
      bus.listenersOf name ++
        (items.filter fun item => item.event = name).map ListenerItem.listener := by
  induction items generalizing bus with
  | nil => simp [registerListeners]
  | cons item items inductionHypothesis =>
      have later := inductionHypothesis (bus.register item.event item.listener item.priority)
      simp only [registerListeners, List.foldl_cons] at later ⊢
      rw [later, listenersOf_register]
      by_cases same : item.event = name <;> simp [same]

/-- An event goes to the registrations in line for it, whatever their priorities are. -/
theorem listenersFor_registerListeners
    (config : Config)
    (items : List ListenerItem)
    (identifier : String) :
    (registerListeners (.empty config) items).listenersFor identifier =
      (lineUp ListenerItem.event items identifier).map ListenerItem.listener := by
  have nothing (name : String) : (EventBus.empty config).listenersOf name = [] := rfl
  simp [listenersFor, listenersOf_registerListeners, nothing, lineUp]

theorem config_registerListeners
    (bus : EventBus)
    (items : List ListenerItem) :
    (registerListeners bus items).config = bus.config := by
  induction items generalizing bus with
  | nil => rfl
  | cons item items inductionHypothesis =>
      exact inductionHypothesis (bus.register item.event item.listener item.priority)

/-- A dispatch that does not go to the background notifies the listeners of the event, which is
left to its round; the bus stays as it is. -/
theorem dispatch_eq_some
    {host : Host σ ι μ}
    {bus : EventBus}
    {event : Event}
    {before : σ}
    {outcome : Except BusError Event}
    {after : EventBus × σ}
    (isSync : bus.isAsync = false) :
    dispatch host event (bus, before) = some (outcome, after) ↔
      ∃ result final,
        host.notify (bus.listenersFor event.identifier) (event, before) = some (result, final) ∧
          outcome = result.map (fun _ => final.1) ∧ after = (bus, final.2) := by
  simp only [dispatch, Attempt.reading_bind, isSync, Bool.false_eq_true, if_false]
  cases listeners : bus.listenersFor event.identifier with
  | nil =>
      simp only [List.isEmpty_nil, if_true, Attempt.run_pure]
      constructor
      · intro ended
        cases ended
        exact ⟨.ok (), (event, before), rfl, rfl, rfl⟩
      · rintro ⟨result, final, ended, rfl, rfl⟩
        cases ended
        rfl
  | cons className classNames =>
      simp only [List.isEmpty_cons, Bool.false_eq_true, if_false]
      rw [Attempt.bind_pure_eq_some]
      constructor
      · rintro ⟨first, ended, rfl⟩
        obtain ⟨part, went, rfl⟩ := Attempt.focus_eq_some.mp ended
        obtain ⟨result, carried, notified, rfl⟩ := Attempt.carrying_eq_some.mp went
        exact ⟨result, (carried, part), notified, by cases result <;> rfl, rfl⟩
      · rintro ⟨result, ⟨carried, part⟩, ended, rfl, rfl⟩
        refine ⟨result.map fun value => (value, carried), ?_, by cases result <;> rfl⟩
        exact Attempt.focus_eq_some.mpr
          ⟨part, Attempt.carrying_eq_some.mpr ⟨result, carried, ended, rfl⟩, rfl⟩

/-- A dispatch on a synchronous bus is a round through the listeners of the event. -/
theorem dispatch_eq_some_iff_round
    {host : Host σ ι μ}
    {bus : EventBus}
    {event : Event}
    {before : σ}
    {outcome : Except BusError Event}
    {after : EventBus × σ}
    (isSync : bus.isAsync = false) :
    dispatch host event (bus, before) = some (outcome, after) ↔
      ∃ called rest result final,
        bus.listenersFor event.identifier = called ++ rest ∧
          host.Round event.identifier (event, before) called rest result final ∧
          outcome = result.map (fun _ => final.1) ∧ after = (bus, final.2) := by
  rw [dispatch_eq_some isSync]
  constructor
  · rintro ⟨result, final, ended, rfl, rfl⟩
    obtain ⟨called, rest, split, round⟩ := Host.notify_eq_some.mp ended
    exact ⟨called, rest, result, final, split, round, rfl, rfl⟩
  · rintro ⟨called, rest, result, final, split, round, rfl, rfl⟩
    exact ⟨result, final, Host.notify_eq_some.mpr ⟨called, rest, split, round⟩, rfl, rfl⟩

/-- A dispatch finishes if listeners do, in either mode. -/
theorem dispatch_finishes
    {host : Host σ ι μ}
    (finishes : host.Finishes)
    (event : Event) :
    (dispatch host event).Finishes := by
  have enqueues (job : Job) : (enqueue host job).Finishes := by
    intro state
    unfold enqueue
    cases state.1.submit host.hasBackground job with
    | error error => exact ⟨_, _, rfl⟩
    | ok bus => exact ⟨_, _, rfl⟩
  refine .bind (.reading _) fun bus => ?_
  by_cases silent : (bus.listenersFor event.identifier).isEmpty = true
  · simp only [silent, if_true]
    exact .pure event
  · by_cases isAsync : bus.isAsync = true
    · simp only [silent, isAsync, if_true, if_false, Bool.false_eq_true]
      exact .bind (enqueues _) fun _ => .pure event
    · simp only [silent, isAsync, if_false, Bool.false_eq_true]
      exact .bind (((finishes.notify _).carrying event).focus _ _) fun _ => .pure _

/-- Working on a job in the background is a round through the listeners of the job. -/
theorem round_of_work
    {host : Host σ ι μ}
    {job : Job}
    {before after : σ}
    {outcome : Except ε (List Warning)}
    (ended : work host job before = some (outcome, after)) :
    ∃ called rest result final,
      job.listeners = called ++ rest ∧
        host.Round job.event.identifier (job.event, before) called rest result final ∧
        after = final.2 := by
  have worked :
      ∃ result final,
        host.notify job.listeners (job.event, before) = some (result, final) ∧
          after = final.2 := by
    rcases Attempt.bind_eq_some.mp ended with ⟨_, refused, _⟩ | ⟨settled, between, went, rest⟩
    · obtain ⟨_, _, isOk⟩ := Attempt.settle_eq_some.mp refused
      cases isOk
    · obtain ⟨first, carried, _⟩ := Attempt.settle_eq_some.mp went
      obtain ⟨result, left, notified, _⟩ := Attempt.carrying_eq_some.mp carried
      refine ⟨result, (left, between), notified, ?_⟩
      cases settled <;> cases rest <;> rfl
  obtain ⟨result, final, notified, rfl⟩ := worked
  obtain ⟨called, rest, split, round⟩ := Host.notify_eq_some.mp notified
  exact ⟨called, rest, result, final, split, round, rfl⟩

namespace Example

/-- A host of listeners that write their class into a log; `Last` stops the event as well, and
`Mute` is no listener. -/
def host : Host (List String) String Unit where
  build className := pure className
  handling? _ := none
  listening? className :=
    if className = "Mute" then
      none
    else
      some <| .changing fun state =>
        ((), (if className = "Last" then state.1.stop else state.1, state.2 ++ [className]))
  timestamp _ := ""
  hasBackground := false

/-- Registrations for `ping` and for all events, with priorities that say otherwise. -/
def items : List ListenerItem :=
  [{ event := "*", listener := "Spy", priority := some 9 },
    { event := "ping", listener := "First", priority := some 1 },
    { event := "*", listener := "Last", priority := none },
    { event := "*", listener := "Mute", priority := none },
    { event := "ping", listener := "Second", priority := some 5 }]

end Example

/--
A dispatch on a synchronous bus is a round through the registrations for the name of the event
and then those for all events, both in registration order.

The first part says what comes of a dispatch, the second that there is such a dispatch for every
round, whatever later classes are.  A stopped event is given back at once, the dispatch finishes
if listeners do, and priorities change nothing.
-/
theorem dispatch_in_registration_order
    (host : Host σ ι μ)
    {config : Config}
    (isSync : config.isAsync = false)
    (items : List ListenerItem)
    (event : Event)
    (before : σ) :
    let bus := registerListeners (.empty config) items
    let classNames :=
      (lineUp ListenerItem.event items event.identifier).map ListenerItem.listener
    (∀ outcome after,
      dispatch host event (bus, before) = some (outcome, after) →
        ∃ called rest result final,
          classNames = called ++ rest ∧
            host.Round event.identifier (event, before) called rest result final ∧
            outcome = result.map (fun _ => final.1) ∧ after = (bus, final.2)) ∧
      (∀ called rest result final,
        classNames = called ++ rest →
          host.Round event.identifier (event, before) called rest result final →
            ∀ other : Host σ ι μ,
              other.listening? = host.listening? →
                (∀ className ∈ called, other.build className = host.build className) →
                  dispatch other event (bus, before) =
                    some (result.map fun _ => final.1, (bus, final.2))) ∧
      (event.isStopped = true →
        dispatch host event (bus, before) = some (.ok event, (bus, before))) ∧
      (host.Finishes →
        ∃ outcome after, dispatch host event (bus, before) = some (outcome, after)) ∧
      ∀ others : List ListenerItem,
        others.map (fun item => (item.event, item.listener)) =
            items.map (fun item => (item.event, item.listener)) →
          ∀ outcome final,
            dispatch host event (bus, before) = some (outcome, (bus, final)) ↔
              dispatch host event (registerListeners (.empty config) others, before) =
                some (outcome, (registerListeners (.empty config) others, final)) := by
  intro bus classNames
  have isSyncWith (items : List ListenerItem) :
      (registerListeners (.empty config) items).isAsync = false := by
    rw [isAsync, config_registerListeners]
    exact isSync
  have listeners : bus.listenersFor event.identifier = classNames :=
    listenersFor_registerListeners config items event.identifier
  have goesOn :
      ∀ called rest result final,
        classNames = called ++ rest →
          host.Round event.identifier (event, before) called rest result final →
            ∀ other : Host σ ι μ,
              other.listening? = host.listening? →
                (∀ className ∈ called, other.build className = host.build className) →
                  dispatch other event (bus, before) =
                    some (result.map fun _ => final.1, (bus, final.2)) := by
    intro called rest result final split round other listens builds
    exact (dispatch_eq_some_iff_round (isSyncWith items)).mpr
      ⟨called, rest, result, final, listeners.trans split,
        round.of_agreeing listens builds, rfl, rfl⟩
  refine ⟨?_, goesOn, ?_,
    fun finishes => dispatch_finishes finishes event (bus, before), ?_⟩
  · intro outcome after ended
    obtain ⟨called, rest, result, final, split, round, isOutcome, isAfter⟩ :=
      (dispatch_eq_some_iff_round (isSyncWith items)).mp ended
    exact ⟨called, rest, result, final, listeners.symm.trans split, round, isOutcome, isAfter⟩
  · intro isStopped
    exact goesOn [] classNames (.ok ()) (event, before) rfl (.through .nil (.inr isStopped)) host rfl
      fun _ _ => rfl
  · intro others alike outcome final
    have withoutPriority (all : List ListenerItem) :
        (lineUp ListenerItem.event all event.identifier).map ListenerItem.listener =
          (lineUp Prod.fst (all.map fun item => (item.event, item.listener))
            event.identifier).map Prod.snd := by
      simp [lineUp, List.filter_map, Function.comp_def]
    have sameLine :
        (registerListeners (.empty config) others).listenersFor event.identifier = classNames := by
      rw [listenersFor_registerListeners, withoutPriority others, alike, ← withoutPriority items]
    rw [dispatch_eq_some (isSyncWith items), dispatch_eq_some (isSyncWith others), listeners,
      sameLine]
    simp only [Prod.mk.injEq, true_and, bus]

/-- `ping` reaches `First`, `Second` and `Spy`, then `Last`, which stops it before `Mute`. -/
theorem dispatch_in_registration_order_of_ping :
    Config.initial.isAsync = false ∧
      ∃ called rest result final,
        ["First", "Second", "Spy", "Last", "Mute"] = called ++ rest ∧
          Example.host.Round "ping" (.named "ping" "", []) called rest result final ∧
          Except.ok ((Event.named "ping" "").stop) = result.map (fun _ => final.1) ∧
          final.2 = ["First", "Second", "Spy", "Last"] := by
  obtain ⟨comes, _⟩ :=
    dispatch_in_registration_order Example.host (show Config.initial.isAsync = false from rfl)
      Example.items
      (.named "ping" "") []
  obtain ⟨called, rest, result, final, split, round, isOutcome, isAfter⟩ :=
    comes (.ok (Event.named "ping" "").stop)
      (registerListeners (.empty .initial) Example.items, ["First", "Second", "Spy", "Last"])
      (by rfl)
  exact ⟨rfl, called, rest, result, final, split, round, isOutcome,
    (congrArg Prod.snd isAfter).symm⟩

end Switchboard.EventBus
