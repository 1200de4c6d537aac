import Switchboard.Bench.Sample
import Switchboard.Bus.Exchange
import Switchboard.Bus.Handler
import Switchboard.Proofs.Attempt.Watching
import Switchboard.Proofs.Bus.Dispatch

namespace Switchboard

/-!
# Running messages

A message bus is watched by having every event that it reports and every call of a handler noted
with how it ended.  `Course` says which notes a run can leave, and what it comes to with them.
-/

variable {σ τ ι μ : Type}

/-- Something that a message bus did for others to see, and how it ended. -/
inductive Observation (ι μ : Type) where
  /-- An event was dispatched. -/
  | dispatched (event : Event) (outcome : Except BusError Event)
  /-- A handler was called. -/
  | called (object : ι) (message : μ) (outcome : Except Failure μ)

/-- Something that a message bus can do for others to see. -/
inductive Act (ι μ : Type) where
  | dispatch (event : Event)
  | call (object : ι) (message : μ)

namespace Observation

/-- What was done, however it ended. -/
def act : Observation ι μ → Act ι μ
  | .dispatched event _ => .dispatch event
  | .called object message _ => .call object message

/-- Whether a handler was called. -/
def isCall : Observation ι μ → Bool
  | .dispatched _ _ => false
  | .called _ _ _ => true

/-- The error of what was done, as a message bus gives it. -/
def error? [Message μ] : Observation ι μ → Option BusError
  | .dispatched _ (.error error) => some error
  | .called _ message (.error failure) => some (.handler (Message.name message) failure)
  | _ => none

end Observation

/-- A host that notes every call of a handler. -/
def Host.watched (host : Host σ ι μ) : Host (σ × List (Observation ι μ)) ι μ :=
  { host.within Prod.fst (fun part state => (part, state.2)) with
    handling? := fun object =>
      (host.handling? object).map fun handle message =>
        (handle message).noting (.called object message) }

@[simp] theorem Host.watched_build
    (host : Host σ ι μ)
    (className : String) :
    host.watched.build className = (host.build className).onFirst := rfl

@[simp] theorem Host.watched_handling?
    (host : Host σ ι μ)
    (object : ι) :
    host.watched.handling? object =
      (host.handling? object).map fun handle message =>
        (handle message).noting (.called object message) := rfl

namespace Exchange

/-- A dispatch on a synchronous event bus of an exchange is a round through its listeners. -/
theorem round_of_dispatch
    {host : Host σ ι μ}
    {id : EventBusId}
    {event : Event}
    {exchange : Exchange}
    {before : σ}
    {outcome : Except BusError Event}
    {after : Exchange × σ}
    (isSync : (exchange.getEventBus id).isAsync = false)
    (ended : dispatch host id event (exchange, before) = some (outcome, after)) :
    ∃ called rest result final,
      (exchange.getEventBus id).listenersFor event.identifier = called ++ rest ∧
        host.Round event.identifier (event, before) called rest result final ∧
        outcome = result.map (fun _ => final.1) ∧ after.2 = final.2 := by
  unfold dispatch onEventBus at ended
  obtain ⟨part, went, rfl⟩ := Attempt.focus_eq_some.mp ended
  obtain ⟨called, rest, result, final, split, round, isOutcome, rfl⟩ :=
    (EventBus.dispatch_eq_some_iff_round isSync).mp went
  exact ⟨called, rest, result, final, split, round, isOutcome, rfl⟩

theorem dispatch_finishes
    {host : Host σ ι μ}
    (finishes : host.Finishes)
    (id : EventBusId)
    (event : Event) :
    (dispatch host id event).Finishes :=
  (EventBus.dispatch_finishes finishes event).focus _ _

end Exchange

namespace MessageBus

variable [Message μ]

/-- Run a message and note what is done for others to see. -/
def watch
    (host : Host σ ι μ)
    (report : Event → Attempt σ BusError Event)
    (bus : MessageBus)
    (message : μ) :
    Attempt (σ × List (Observation ι μ)) BusError μ :=
  bus.execute host.watched (fun event => (report event).noting (.dispatched event)) message

/-- What is left of running a message once its handler is built. -/
def serve
    (host : Host σ ι μ)
    (report : Event → Attempt σ BusError Event)
    (bus : MessageBus)
    (handle : μ → Attempt σ Failure μ)
    (message : μ) :
    Attempt σ BusError μ := do
  let _ ← bus.reportStep host report beforeExecute (Message.name message)
  let reply ← (handle message).mapError (.handler (Message.name message))
  let _ ← bus.reportStep host report afterExecute (Message.name message)
  pure reply

theorem execute_eq
    (host : Host σ ι μ)
    (report : Event → Attempt σ BusError Event)
    (bus : MessageBus)
    (message : μ) :
    bus.execute host report message = (do
      let className ← .ofExcept (bus.getHandler (Message.name message))
      let object ← (host.build className).mapError (.build className)
      match host.handling? object with
      | none => .fail (.notAHandler className)
      | some handle => bus.serve host report handle message) := by
  simp only [execute, buildHandler, bind_assoc]
  congr 1
  funext className
  congr 1
  funext object
  cases host.handling? object <;> rfl

theorem serve_follows
    {host : Host σ ι μ}
    {watchedHost : Host (σ × τ) ι μ}
    {report : Event → Attempt σ BusError Event}
    {watchedReport : Event → Attempt (σ × τ) BusError Event}
    {handle : μ → Attempt σ Failure μ}
    {watchedHandle : μ → Attempt (σ × τ) Failure μ}
    {message : μ}
    (sameTime : watchedHost.timestamp = fun state => host.timestamp state.1)
    (reports : ∀ event, (watchedReport event).Follows (report event))
    (handles : (watchedHandle message).Follows (handle message))
    (bus : MessageBus) :
    (bus.serve watchedHost watchedReport watchedHandle message).Follows
      (bus.serve host report handle message) := by
  have reportsStep (step identifier : String) :
      (bus.reportStep watchedHost watchedReport step identifier).Follows
        (bus.reportStep host report step identifier) := by
    unfold reportStep
    rw [sameTime]
    exact .bind (.reading host.timestamp) fun time => reports _
  exact .bind (reportsStep _ _) fun _ =>
    .bind (handles.mapError _) fun reply => .bind (reportsStep _ _) fun _ => .pure reply

/-- Watching a run does not change it. -/
theorem watch_follows
    (host : Host σ ι μ)
    (report : Event → Attempt σ BusError Event)
    (bus : MessageBus)
    (message : μ) :
    (bus.watch host report message).Follows (bus.execute host report message) := by
  rw [watch, execute_eq, execute_eq]
  refine .bind (.ofExcept _) fun className => ?_
  refine .bind ((Attempt.Follows.onFirst (host.build className)).mapError _) fun object => ?_
  rw [Host.watched_handling?]
  cases host.handling? object with
  | none => exact .fail _
  | some handle =>
      exact serve_follows rfl (fun event => .noting _ _) (.noting _ _) bus

/-- What an event says that reports a step of running a message. -/
structure Reports (bus : MessageBus) (step : String) (message : μ) (event : Event) : Prop where
  name : event.name = step
  source : event.source = some bus.kind.name
  identifier : event.get? "identifier" = some (.string (Message.name message))
  going : event.isStopped = false

theorem reports_lifecycle
    (bus : MessageBus)
    (step occurredAt : String)
    (message : μ) :
    bus.Reports step message (bus.lifecycle step (Message.name message) occurredAt) where
  name := rfl
  source := rfl
  identifier := by simp [lifecycle, Event.get?, Event.set]
  going := rfl

/-- What serving a message with a handler can leave in the log, and come to. -/
inductive Served (bus : MessageBus) (object : ι) (message : μ) :
    List (Observation ι μ) → Except BusError μ → Prop
  | refused
      {first : Event}
      {error : BusError}
      (isFirst : bus.Reports beforeExecute message first) :
      Served bus object message [.dispatched first (.error error)] (.error error)
  | failed
      {first left : Event}
      {failure : Failure}
      (isFirst : bus.Reports beforeExecute message first) :
      Served bus object message
        [.dispatched first (.ok left), .called object message (.error failure)]
        (.error (.handler (Message.name message) failure))
  | unreported
      {first left last : Event}
      {reply : μ}
      {error : BusError}
      (isFirst : bus.Reports beforeExecute message first)
      (isLast : bus.Reports afterExecute message last) :
      Served bus object message
        [.dispatched first (.ok left), .called object message (.ok reply),
          .dispatched last (.error error)]
        (.error error)
  | replied
      {first left last leftAtLast : Event}
      {reply : μ}
      (isFirst : bus.Reports beforeExecute message first)
      (isLast : bus.Reports afterExecute message last) :
      Served bus object message
        [.dispatched first (.ok left), .called object message (.ok reply),
          .dispatched last (.ok leftAtLast)]
        (.ok reply)

/-- What running a message from a state can leave in the log, and come to in which state. -/
inductive Course (host : Host σ ι μ) (bus : MessageBus) (message : μ) (before : σ) :
    List (Observation ι μ) → Except BusError μ → σ → Prop
  | unknown
      (missing : bus.handler? (Message.name message) = none) :
      Course host bus message before [] (.error (.handlerNotFound (Message.name message))) before
  | unbuilt
      {className : String}
      {error : BuildError}
      {after : σ}
      (known : bus.handler? (Message.name message) = some className)
      (built : host.build className before = some (.error error, after)) :
      Course host bus message before [] (.error (.build className error)) after
  | deaf
      {className : String}
      {object : ι}
      {after : σ}
      (known : bus.handler? (Message.name message) = some className)
      (built : host.build className before = some (.ok object, after))
      (handles : host.handling? object = none) :
      Course host bus message before [] (.error (.notAHandler className)) after
  | served
      {className : String}
      {object : ι}
      {between after : σ}
      {handle : μ → Attempt σ Failure μ}
      {trace : List (Observation ι μ)}
      {outcome : Except BusError μ}
      (known : bus.handler? (Message.name message) = some className)
      (built : host.build className before = some (.ok object, between))
      (handles : host.handling? object = some handle)
      (served : bus.Served object message trace outcome) :
      Course host bus message before trace outcome after

/-- Reporting a step is noted with an event that says so. -/
theorem reportStep_noting
    {host : Host σ ι μ}
    {report : Event → Attempt σ BusError Event}
    {bus : MessageBus}
    {step : String}
    {message : μ}
    {start final : σ × List (Observation ι μ)}
    {outcome : Except BusError Event}
    (ended :
      bus.reportStep host.watched (fun event => (report event).noting (.dispatched event)) step
        (Message.name message) start = some (outcome, final)) :
    ∃ event, bus.Reports step message event ∧
      final.2 = start.2 ++ [.dispatched event outcome] := by
  simp only [reportStep, Attempt.reading_bind] at ended
  exact ⟨_, reports_lifecycle bus step _ message, (Attempt.noting_eq_some.mp ended).2⟩

theorem served_of_serve
    {host : Host σ ι μ}
    {report : Event → Attempt σ BusError Event}
    {bus : MessageBus}
    {object : ι}
    {handle : μ → Attempt σ Failure μ}
    {message : μ}
    {before : σ}
    {final : σ × List (Observation ι μ)}
    {outcome : Except BusError μ}
    (ended :
      bus.serve host.watched (fun event => (report event).noting (.dispatched event))
        (fun message => (handle message).noting (.called object message)) message (before, []) =
          some (outcome, final)) :
    bus.Served object message final.2 outcome := by
  -- one case for each of the three things that can fail, and one in which none does
  rcases Attempt.bind_eq_some.mp ended with ⟨error, refused, rfl⟩ | ⟨left, second, first, ended⟩
  · obtain ⟨event, isFirst, log⟩ := reportStep_noting refused
    rw [log]
    exact .refused isFirst
  obtain ⟨event, isFirst, log⟩ := reportStep_noting first
  rcases Attempt.bind_eq_some.mp ended with ⟨error, failed, rfl⟩ | ⟨reply, third, went, ended⟩
  · obtain ⟨failure, called, rfl⟩ := Attempt.mapError_eq_error.mp failed
    rw [(Attempt.noting_eq_some.mp called).2, log]
    exact .failed isFirst
  have logOfCall := (Attempt.noting_eq_some.mp (Attempt.mapError_eq_ok.mp went)).2
  rcases Attempt.bind_eq_some.mp ended with ⟨error, failed, rfl⟩ | ⟨leftAtLast, _, last, ended⟩
  · obtain ⟨lastEvent, isLast, logOfLast⟩ := reportStep_noting failed
    rw [logOfLast, logOfCall, log]
    exact .unreported isFirst isLast
  · obtain ⟨lastEvent, isLast, logOfLast⟩ := reportStep_noting last
    cases ended
    rw [logOfLast, logOfCall, log]
    exact .replied isFirst isLast

theorem course_of_watch
    {host : Host σ ι μ}
    {report : Event → Attempt σ BusError Event}
    {bus : MessageBus}
    {message : μ}
    {before : σ}
    {final : σ × List (Observation ι μ)}
    {outcome : Except BusError μ}
    (ended : bus.watch host report message (before, []) = some (outcome, final)) :
    bus.Course host message before final.2 outcome final.1 := by
  rw [watch, execute_eq] at ended
  cases known : bus.handler? (Message.name message) with
  | none =>
      have looked : bus.getHandler (Message.name message) =
          .error (.handlerNotFound (Message.name message)) := by
        simp only [getHandler, known]
      rw [looked] at ended
      cases ended
      exact .unknown known
  | some className =>
      have looked : bus.getHandler (Message.name message) = .ok className := by
        simp only [getHandler, known]
      rw [looked] at ended
      rcases Attempt.bind_eq_some.mp ended with ⟨error, refused, rfl⟩ | ⟨_, _, isClass, ended⟩
      · cases refused
      cases isClass
      simp only [Host.watched_build, Host.watched_handling?] at ended
      rcases Attempt.bind_eq_some.mp ended with ⟨error, refused, rfl⟩ | ⟨object, second, went, ended⟩
      · obtain ⟨cause, unbuilt, rfl⟩ := Attempt.mapError_eq_error.mp refused
        obtain ⟨after, built, rfl⟩ := Attempt.focus_eq_some.mp unbuilt
        exact .unbuilt known built
      obtain ⟨between, built, rfl⟩ := Attempt.focus_eq_some.mp (Attempt.mapError_eq_ok.mp went)
      cases handles : host.handling? object with
      | none =>
          rw [handles] at ended
          cases ended
          exact .deaf known built handles
      | some handle =>
          rw [handles] at ended
          exact .served known built handles (served_of_serve ended)

/-- What can be told of a run by its log and what it came to. -/
structure CourseLaw
    (bus : MessageBus)
    (message : μ)
    (trace : List (Observation ι μ))
    (outcome : Except BusError μ) :
    Prop where
  /-- At most these three things are done, in this order. -/
  inOrder : trace ≠ [] → ∃ first object last,
    bus.Reports beforeExecute message first ∧ bus.Reports afterExecute message last ∧
      trace.map Observation.act <+: [.dispatch first, .call object message, .dispatch last]
  /-- The handler is called once if the first event was dispatched, even if it was stopped. -/
  called : (∃ first left rest, trace = .dispatched first (.ok left) :: rest) →
    trace.countP Observation.isCall = 1
  /-- It is not called otherwise. -/
  uncalled : (¬ ∃ first left rest, trace = .dispatched first (.ok left) :: rest) →
    trace.countP Observation.isCall = 0
  /-- The second event is dispatched if the handler succeeded, and only then. -/
  reported : (∃ event result, .dispatched event result ∈ trace ∧ event.name = afterExecute) ↔
    ∃ object reply, .called object message (.ok reply) ∈ trace
  /-- The error is the first one that is met. -/
  failed : trace ≠ [] → ∀ error,
    outcome = .error error ↔ trace.findSome? Observation.error? = some error
  /-- The reply is what the handler gave, if all three are done. -/
  replied : ∀ reply, outcome = .ok reply ↔
    ∃ first left object last leftAtLast,
      trace =
        [.dispatched first (.ok left), .called object message (.ok reply),
          .dispatched last (.ok leftAtLast)]

theorem Served.law
    {bus : MessageBus}
    {object : ι}
    {message : μ}
    {trace : List (Observation ι μ)}
    {outcome : Except BusError μ}
    (served : bus.Served object message trace outcome) :
    bus.CourseLaw message trace outcome := by
  have someLast := reports_lifecycle bus afterExecute "" message
  have notLast {event : Event} (isFirst : bus.Reports beforeExecute message event) :
      event.name ≠ afterExecute := by
    rw [isFirst.name]
    decide
  cases served with
  | refused isFirst =>
      refine ⟨fun _ => ⟨_, object, _, isFirst, someLast, ?_⟩, ?_, ?_, ?_, ?_, ?_⟩
      · simp [Observation.act]
      · simp
      · simp [Observation.isCall]
      · simp [notLast isFirst]
      · simp [Observation.error?]
      · simp
  | failed isFirst =>
      refine ⟨fun _ => ⟨_, object, _, isFirst, someLast, ?_⟩, ?_, ?_, ?_, ?_, ?_⟩
      · simp [Observation.act]
      · simp [Observation.isCall, List.countP_cons]
      · simp
      · simp [notLast isFirst]
      · simp [Observation.error?, List.findSome?_cons]
      · simp
  | unreported isFirst isLast =>
      refine ⟨fun _ => ⟨_, object, _, isFirst, isLast, ?_⟩, ?_, ?_, ?_, ?_, ?_⟩
      · simp [Observation.act]
      · simp [Observation.isCall, List.countP_cons]
      · simp
      · exact ⟨fun _ => ⟨_, _, .tail _ (.head _)⟩,
          fun _ => ⟨_, _, .tail _ (.tail _ (.head _)), isLast.name⟩⟩
      · simp [Observation.error?, List.findSome?_cons]
      · simp
  | replied isFirst isLast =>
      refine ⟨fun _ => ⟨_, object, _, isFirst, isLast, ?_⟩, ?_, ?_, ?_, ?_, ?_⟩
      · simp [Observation.act]
      · simp [Observation.isCall, List.countP_cons]
      · simp
      · exact ⟨fun _ => ⟨_, _, .tail _ (.head _)⟩,
          fun _ => ⟨_, _, .tail _ (.tail _ (.head _)), isLast.name⟩⟩
      · simp [Observation.error?, List.findSome?_cons]
      · simp

theorem Course.law
    {host : Host σ ι μ}
    {bus : MessageBus}
    {message : μ}
    {before after : σ}
    {trace : List (Observation ι μ)}
    {outcome : Except BusError μ}
    (course : bus.Course host message before trace outcome after) :
    bus.CourseLaw message trace outcome := by
  have silent (error : BusError) :
      bus.CourseLaw message ([] : List (Observation ι μ)) (.error error) := {
    inOrder := fun some => absurd rfl some
    called := by simp
    uncalled := by simp
    reported := by simp
    failed := fun some => absurd rfl some
    replied := by simp }
  cases course with
  | unknown _ => exact silent _
  | unbuilt _ _ => exact silent _
  | deaf _ _ _ => exact silent _
  | served _ _ _ served => exact served.law

theorem execute_finishes
    {host : Host σ ι μ}
    {report : Event → Attempt σ BusError Event}
    (finishes : host.Finishes)
    (reports : ∀ event, (report event).Finishes)
    (bus : MessageBus)
    (message : μ) :
    (bus.execute host report message).Finishes := by
  have reportsStep (step : String) :
      (bus.reportStep host report step (Message.name message)).Finishes :=
    .bind (.reading _) fun _ => reports _
  rw [execute_eq]
  refine .bind (.ofExcept _) fun className => ?_
  refine .bind ((finishes.build className).mapError _) fun object => ?_
  cases handles : host.handling? object with
  | none => exact .fail _
  | some handle =>
      exact .bind (reportsStep _) fun _ =>
        .bind ((finishes.handling object handle message handles).mapError _) fun _ =>
          .bind (reportsStep _) fun _ => .pure _

/-- A handler refuses a message of another type, so nothing happens after the first event. -/
theorem execute_of_mismatch
    {ν : Type}
    {host : Host σ ι μ}
    {report : Event → Attempt σ BusError Event}
    {bus : MessageBus}
    {message : μ}
    {className : String}
    {object : ι}
    {handler : Handler σ μ ν}
    {before between after : σ}
    {left : Event}
    (known : bus.handler? (Message.name message) = some className)
    (built : host.build className before = some (.ok object, between))
    (handles : host.handling? object = some handler.handle)
    (isOther : handler.view message = none)
    (dispatched :
      report (bus.lifecycle beforeExecute (Message.name message) (host.timestamp between))
        between = some (.ok left, after)) :
    bus.execute host report message before =
      some (.error (.handler (Message.name message)
        (.bus (.messageMismatch handler.expected (Message.name message)))), after) := by
  have looked : bus.getHandler (Message.name message) = .ok className := by
    simp only [getHandler, known]
  have refuses :
      handler.handle message =
        .fail (.bus (.messageMismatch handler.expected (Message.name message))) := by
    simp only [Handler.handle, isOther]
  rw [execute_eq, looked]
  refine Attempt.bind_eq_some.mpr (.inr ⟨className, before, rfl, ?_⟩)
  refine Attempt.bind_eq_some.mpr (.inr ⟨object, between, Attempt.mapError_eq_ok.mpr built, ?_⟩)
  rw [handles]
  refine Attempt.bind_eq_some.mpr (.inr ⟨left, after, dispatched, ?_⟩)
  refine Attempt.bind_eq_some.mpr (.inl ⟨_, ?_, rfl⟩)
  rw [refuses]
  rfl

/--
Running a message does at most three things for others to see: it reports `before_execute`, calls
the handler and reports `after_execute`, up to the first one that fails.

The first two parts are about every bus and every way to report events, whatever is reached
through the state; the third is about handlers of one type of messages.  The last two say that a
run finishes if its parts do, and what all of this means for the buses of an exchange.
-/
theorem execute_in_order
    (host : Host σ ι μ)
    (report : Event → Attempt σ BusError Event)
    (bus : MessageBus)
    (message : μ)
    (before : σ) :
    (∀ outcome after,
      bus.execute host report message before = some (outcome, after) ↔
        ∃ trace, bus.watch host report message (before, []) = some (outcome, (after, trace))) ∧
      (∀ outcome after trace,
        bus.watch host report message (before, []) = some (outcome, (after, trace)) →
          bus.Course host message before trace outcome after ∧
            bus.CourseLaw message trace outcome) ∧
      (∀ (ν : Type) (handler : Handler σ μ ν) className object between left after,
        bus.handler? (Message.name message) = some className →
          host.build className before = some (.ok object, between) →
            host.handling? object = some handler.handle →
              handler.view message = none →
                report
                    (bus.lifecycle beforeExecute (Message.name message) (host.timestamp between))
                    between = some (.ok left, after) →
                  bus.execute host report message before =
                    some (.error (.handler (Message.name message)
                      (.bus (.messageMismatch handler.expected (Message.name message)))),
                        after)) ∧
      (host.Finishes → (∀ event, (report event).Finishes) →
        ∃ outcome after, bus.execute host report message before = some (outcome, after)) ∧
      ∀ (id : MessageBusId) (exchange : Exchange),
        let line := exchange.getLine id
        Exchange.execute host id message (exchange, before) =
            line.bus.execute (host.within Prod.snd fun part state => (state.1, part))
              (Exchange.dispatch host line.events) message (exchange, before) ∧
          (host.Finishes →
            ∃ outcome after,
              Exchange.execute host id message (exchange, before) = some (outcome, after)) ∧
          ((exchange.getEventBus line.events).isAsync = false →
            ∀ event outcome after,
              Exchange.dispatch host line.events event (exchange, before) =
                  some (outcome, after) →
                ∃ called rest result final,
                  (exchange.getEventBus line.events).listenersFor event.identifier =
                      called ++ rest ∧
                    host.Round event.identifier (event, before) called rest result final ∧
                    outcome = result.map (fun _ => final.1) ∧ after.2 = final.2) := by
  refine ⟨?_, ?_, ?_, fun finishes reports => execute_finishes finishes reports bus message before,
    ?_⟩
  · intro outcome after
    rw [watch_follows host report bus message before [], Option.map_eq_some_iff]
    constructor
    · rintro ⟨⟨_, _, trace⟩, ended, same⟩
      cases same
      exact ⟨trace, ended⟩
    · rintro ⟨trace, ended⟩
      exact ⟨_, ended, rfl⟩
  · intro outcome after trace ended
    exact ⟨course_of_watch ended, (course_of_watch ended).law⟩
  · intro ν handler className object between left after known built handles isOther dispatched
    exact execute_of_mismatch known built handles isOther dispatched
  · intro id exchange line
    refine ⟨rfl, fun finishes => ?_, fun isSync event outcome after =>
      Exchange.round_of_dispatch isSync⟩
    exact execute_finishes (finishes.within _ _)
      (fun event => Exchange.dispatch_finishes finishes line.events event) line.bus message
      (exchange, before)

namespace Example

/-- A host with one class of handlers, which count the classes in a log, and the listeners of
`EventBus.Example.host`. -/
def host : Host (List String) String Bench.Sample where
  build className := pure className
  handling? className :=
    if className = "Counter" then
      some <| Handler.handle
        { expected := "CountOrders"
          view := fun
            | .countOrders => some ()
            | _ => none
          body := fun _ => .changing fun log => (.orderCount log.length, log ++ [className]) }
    else
      none
  listening? := EventBus.Example.host.listening?
  timestamp _ := ""
  hasBackground := false

/-- A query bus with that handler, and a listener that stops `before_execute`. -/
def exchange : Exchange :=
  let (id, exchange) := (Exchange.empty .initial).messageBus .query
  let line := exchange.getLine id
  (exchange.setMessageBus id (line.bus.register "CountOrders" "Counter" none)).setEventBus
    line.events ((exchange.getEventBus line.events).register beforeExecute "Last" none)

/-- Run a message on that bus and note what is done. -/
def watch (message : Bench.Sample) :
    Attempt ((Exchange × List String) × List (Observation String Bench.Sample)) BusError
      Bench.Sample :=
  (exchange.getLine 0).bus.watch (host.within Prod.snd fun part state => (state.1, part))
    (Exchange.dispatch host 0) message

end Example

/-- The handler is called once although a listener stops the event before it. -/
theorem execute_in_order_of_stopped :
    ∃ after trace first left rest,
      Example.watch .countOrders ((Example.exchange, []), []) =
          some (.ok (.orderCount 1), ((after, ["Last", "Counter"]), trace)) ∧
        trace = .dispatched first (.ok left) :: rest ∧ left.isStopped = true ∧
        trace.countP Observation.isCall = 1 := by
  obtain ⟨_, courses, _⟩ :=
    execute_in_order (Example.host.within Prod.snd fun part state => (state.1, part))
      (Exchange.dispatch Example.host 0) (Example.exchange.getLine 0).bus .countOrders
      (Example.exchange, [])
  refine ⟨_, _, _, _, _, rfl, rfl, rfl, ?_⟩
  exact (courses _ _ _ rfl).2.called ⟨_, _, _, rfl⟩

end MessageBus

end Switchboard
