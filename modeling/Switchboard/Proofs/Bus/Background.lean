import Mathlib.Data.Prod.Lex
import Mathlib.Logic.Relation
import Switchboard.Proofs.Bus.Sequence

namespace Switchboard

/-!
# Working in the background

Somebody calls an event bus while its worker goes through the jobs that are queued, and nobody
says who moves next.  What the worker has in hand and what is queued is always just what is left
of the jobs that the calls so far make: `Tracks` says so, `Tracks.step` keeps it, and after a
shutdown nothing is left.
-/

variable {σ ι μ ε : Type}

namespace Host

/-- Let an object that was built for a listener class react to the event. -/
def callObject (host : Host σ ι μ) (identifier className : String) (object : ι) :
    Attempt (Event × σ) BusError Unit :=
  match host.listening? object with
  | none => .fail (.notAListener className)
  | some react => react.mapError (.listener identifier className)

theorem callListener_eq (host : Host σ ι μ) (identifier className : String) :
    host.callListener identifier className = (do
      let object ← ((host.build className).mapError (.build className)).onSecond
      host.callObject identifier className object) := rfl

/-- Go on with an event of its own until the job is done; a failure becomes a warning. -/
def conclude
    (identifier : String)
    (event : Event)
    (attempt : Attempt (Event × σ) BusError Unit) :
    Attempt σ ε (List Warning) := do
  match ← (attempt.carrying event).settle with
  | .ok _ => pure []
  | .error error => pure [.listenerFailed identifier error]

theorem conclude_apply
    (identifier : String)
    (event : Event)
    (attempt : Attempt (Event × σ) BusError Unit)
    (state : σ) :
    (conclude identifier event attempt : Attempt σ ε (List Warning)) state =
      match attempt (event, state) with
      | none => none
      | some (.error error, after) => some (.ok [.listenerFailed identifier error], after.2)
      | some (.ok _, after) => some (.ok [], after.2) := by
  simp only [conclude, Attempt.bind_apply, Attempt.settle, Attempt.carrying]
  cases attempt (event, state) with
  | none => rfl
  | some ending =>
      obtain ⟨outcome, left, after⟩ := ending
      cases outcome <;> rfl

/-- The first of some listeners is built and called, if the event is not stopped. -/
theorem callListeners_cons_of_going
    (host : Host σ ι μ)
    (identifier className : String)
    (classNames : List String)
    {event : Event}
    (going : event.isStopped = false)
    (state : σ) :
    host.callListeners identifier (className :: classNames) (event, state) =
      match host.build className state with
      | none => none
      | some (.error error, after) => some (.error (.build className error), (event, after))
      | some (.ok object, after) =>
          (do
            host.callObject identifier className object
            host.callListeners identifier classNames : Attempt (Event × σ) BusError Unit)
              (event, after) := by
  rw [callListeners, Attempt.reading_bind, going, if_neg Bool.false_ne_true, Attempt.bind_apply,
    callListener_eq, Attempt.bind_apply]
  simp only [Attempt.onSecond, Attempt.focus, Attempt.mapError]
  cases host.build className state with
  | none => rfl
  | some ending =>
      obtain ⟨outcome, after⟩ := ending
      cases outcome <;> rfl

end Host

/-- What a worker has in hand. -/
inductive Hand (ι : Type) where
  /-- It waits for a job. -/
  | idle
  /-- It is about to look at the next listener class of a job. -/
  | notifying (identifier : String) (event : Event) (classNames : List String)
  /-- It has built a listener, which is about to be called before those after it. -/
  | calling
      (identifier : String)
      (event : Event)
      (className : String)
      (object : ι)
      (classNames : List String)

namespace Hand

/-- A job that was just taken, with an event of its own. -/
def taking (job : Job) : Hand ι :=
  .notifying job.event.identifier job.event job.listeners

/-- What is left to do of the job in hand. -/
def rest (host : Host σ ι μ) : Hand ι → Attempt σ ε (List Warning)
  | .idle => pure []
  | .notifying identifier event classNames =>
      Host.conclude identifier event (host.callListeners identifier classNames)
  | .calling identifier event className object classNames =>
      Host.conclude identifier event do
        host.callObject identifier className object
        host.callListeners identifier classNames

/-- How many steps a worker has left with the job in hand at most. -/
def size : Hand ι → Nat
  | .idle => 0
  | .notifying _ _ classNames => 2 * classNames.length + 1
  | .calling _ _ _ _ classNames => 2 * classNames.length + 2

/-- One step of a worker with the job in hand, and the warnings that it leaves. -/
inductive Works (host : Host σ ι μ) : Hand ι × σ → List Warning → Hand ι × σ → Prop
  | done
      {identifier : String}
      {event : Event}
      {classNames : List String}
      {state : σ}
      (ends : event.isStopped = true ∨ classNames = []) :
      Works host (.notifying identifier event classNames, state) [] (.idle, state)
  | unbuilt
      {identifier className : String}
      {event : Event}
      {classNames : List String}
      {before after : σ}
      {error : BuildError}
      (going : event.isStopped = false)
      (built : host.build className before = some (.error error, after)) :
      Works host (.notifying identifier event (className :: classNames), before)
        [.listenerFailed identifier (.build className error)] (.idle, after)
  | built
      {identifier className : String}
      {event : Event}
      {classNames : List String}
      {before after : σ}
      {object : ι}
      (going : event.isStopped = false)
      (built : host.build className before = some (.ok object, after)) :
      Works host (.notifying identifier event (className :: classNames), before)
        [] (.calling identifier event className object classNames, after)
  | heard
      {identifier className : String}
      {event left : Event}
      {classNames : List String}
      {before after : σ}
      {object : ι}
      (called :
        host.callObject identifier className object (event, before) =
          some (.ok (), (left, after))) :
      Works host (.calling identifier event className object classNames, before)
        [] (.notifying identifier left classNames, after)
  | failed
      {identifier className : String}
      {event left : Event}
      {classNames : List String}
      {before after : σ}
      {object : ι}
      {error : BusError}
      (called :
        host.callObject identifier className object (event, before) =
          some (.error error, (left, after))) :
      Works host (.calling identifier event className object classNames, before)
        [.listenerFailed identifier error] (.idle, after)

variable {host : Host σ ι μ}

theorem rest_idle : (rest host .idle : Attempt σ ε (List Warning)) = pure [] := rfl

/-- Working on a job is what is left when it was just taken. -/
theorem rest_taking (job : Job) :
    (rest host (taking job) : Attempt σ ε (List Warning)) = EventBus.work host job := rfl

/-- A step does a part of what is left to do. -/
theorem Works.rest_eq
    {hand handAfter : Hand ι}
    {before after : σ}
    {warnings : List Warning}
    (works : Works host (hand, before) warnings (handAfter, after)) :
    (rest host hand : Attempt σ ε (List Warning)) before =
      (do
        let others ← rest host handAfter
        pure (warnings ++ others) : Attempt σ ε (List Warning)) after := by
  cases works with
  | @done _ event classNames _ ends =>
      cases classNames with
      | nil => rfl
      | cons className classNames =>
          have isStopped := ends.resolve_right (List.cons_ne_nil _ _)
          simp only [rest, Host.conclude_apply]
          rw [Host.callListeners, Attempt.reading_bind, isStopped]
          rfl
  | unbuilt going built =>
      simp only [rest, Host.conclude_apply, Host.callListeners_cons_of_going _ _ _ _ going, built]
      rfl
  | built going built =>
      simp only [rest, Host.conclude_apply, Host.callListeners_cons_of_going _ _ _ _ going, built,
        List.nil_append, bind_pure]
  | heard called =>
      simp only [List.nil_append, bind_pure]
      simp only [rest, Host.conclude_apply, Attempt.bind_apply, called]
  | failed called =>
      simp only [rest, Host.conclude_apply, Attempt.bind_apply, called]
      rfl

/-- If the rest of a job comes to an end, there is a step to take. -/
theorem exists_works
    {hand : Hand ι}
    {state : σ}
    (isBusy : hand ≠ .idle)
    (ends : (rest host hand : Attempt σ ε (List Warning)) state ≠ none) :
    ∃ warnings handAfter after, Works host (hand, state) warnings (handAfter, after) := by
  cases hand with
  | idle => exact absurd rfl isBusy
  | notifying identifier event classNames =>
      cases isStopped : event.isStopped with
      | true => exact ⟨_, _, _, .done (.inl isStopped)⟩
      | false =>
          cases classNames with
          | nil => exact ⟨_, _, _, .done (.inr rfl)⟩
          | cons className classNames =>
              simp only [rest, Host.conclude_apply,
                Host.callListeners_cons_of_going _ _ _ _ isStopped] at ends
              cases built : host.build className state with
              | none =>
                  rw [built] at ends
                  exact absurd rfl ends
              | some ending =>
                  obtain ⟨outcome, after⟩ := ending
                  cases outcome with
                  | error error => exact ⟨_, _, _, .unbuilt isStopped built⟩
                  | ok object => exact ⟨_, _, _, .built isStopped built⟩
  | calling identifier event className object classNames =>
      cases called : host.callObject identifier className object (event, state) with
      | none =>
          simp only [rest, Host.conclude_apply, Attempt.bind_apply, called] at ends
          exact absurd rfl ends
      | some ending =>
          obtain ⟨outcome, left, after⟩ := ending
          cases outcome with
          | error error => exact ⟨_, _, _, .failed called⟩
          | ok value => exact ⟨_, _, _, .heard called⟩

theorem Works.isBusy
    {hand handAfter : Hand ι}
    {before after : σ}
    {warnings : List Warning}
    (works : Works host (hand, before) warnings (handAfter, after)) :
    hand ≠ .idle := by
  rintro rfl
  cases works

/-- Every step is one less to take. -/
theorem Works.size_lt
    {hand handAfter : Hand ι}
    {before after : σ}
    {warnings : List Warning}
    (works : Works host (hand, before) warnings (handAfter, after)) :
    handAfter.size < hand.size := by
  cases works <;> simp only [size, List.length_cons] <;> omega

end Hand

namespace EventBus

/-- The jobs that wait for the worker, oldest first. -/
def queue (bus : EventBus) : List Job :=
  match bus.worker with
  | some (.running queue) => queue
  | _ => []

/-- The bus once a dispatch of an event has queued its job. -/
def queueing (bus : EventBus) (event : Event) : EventBus :=
  match bus.jobFor event with
  | [] => bus
  | jobs => { bus with worker := some (.running (bus.queue ++ jobs)) }

@[simp] theorem registrations_queueing (bus : EventBus) (event : Event) :
    (bus.queueing event).registrations = bus.registrations := by
  unfold queueing
  split <;> rfl

@[simp] theorem isAsync_queueing (bus : EventBus) (event : Event) :
    (bus.queueing event).isAsync = bus.isAsync := by
  unfold queueing
  split <;> rfl

@[simp] theorem queue_queueing (bus : EventBus) (event : Event) :
    (bus.queueing event).queue = bus.queue ++ bus.jobFor event := by
  unfold queueing
  split
  · rename_i noJob
    rw [noJob, List.append_nil]
  · rfl

theorem worker_queueing (bus : EventBus) (event : Event) :
    (bus.queueing event).worker = bus.worker ∨
      ∃ queue, (bus.queueing event).worker = some (.running queue) := by
  unfold queueing
  split
  · exact .inl rfl
  · exact .inr ⟨_, rfl⟩

/-- In the background mode a dispatch does no more than queue a job of its own. -/
theorem dispatch_eq_queueing
    {host : Host σ ι μ}
    (hasBackground : host.hasBackground = true)
    {bus : EventBus}
    (isAsync : bus.isAsync = true)
    (alive : bus.worker ≠ some .ended)
    (event : Event)
    (state : σ) :
    dispatch host event (bus, state) = some (.ok event, (bus.queueing event, state)) := by
  rw [dispatch, Attempt.reading_bind, queueing, jobFor]
  cases silent : (bus.listenersFor event.identifier).isEmpty with
  | true =>
      simp only [if_true, Attempt.run_pure]
  | false =>
      simp only [isAsync, Bool.false_eq_true, if_false, if_true, Attempt.bind_apply,
        enqueue, submit, queue]
      cases isWorker : bus.worker with
      | none => simp only [hasBackground, if_true, Attempt.run_pure, List.nil_append]
      | some worker =>
          cases worker with
          | running queue => rfl
          | ended => exact absurd isWorker alive

/-- Stopping a worker that runs is doing what is queued for it. -/
theorem shutdown_of_running
    {host : Host σ ι μ}
    {bus after : EventBus}
    {jobs : List Job}
    {state final : σ}
    {warnings : List Warning}
    (running : bus.worker = some (.running jobs))
    (ended :
      (shutdown host : Attempt (EventBus × σ) ε (List Warning)) (bus, state) =
        some (.ok warnings, (after, final))) :
    after = bus.dismiss ∧
      (workAll host jobs : Attempt σ ε (List Warning)) state = some (.ok warnings, final) := by
  obtain ⟨registrations, config, worker⟩ := bus
  cases running
  simp only [shutdown, drain, workTurn, pending, Attempt.bind_apply, Attempt.reading,
    List.take_length, List.drop_length, Attempt.onSecond, Attempt.focus] at ended
  cases worked : (workAll host jobs : Attempt σ ε (List Warning)) state with
  | none =>
      rw [worked] at ended
      cases ended
  | some ending =>
      obtain ⟨outcome, left⟩ := ending
      rw [worked] at ended
      cases outcome with
      | error error => cases ended
      | ok drained =>
          cases ended
          exact ⟨rfl, rfl⟩

end EventBus

/-- How far somebody who calls an event bus and the worker of the bus have come. -/
structure Scene (σ ι : Type) where
  bus : EventBus
  /-- What is queued for a worker that was told to stop, while the caller waits for it. -/
  closing : Option (List Job)
  hand : Hand ι
  state : σ
  /-- The warnings so far. -/
  warnings : List Warning
  /-- What the calls so far gave back. -/
  answers : List BusAnswer
  /-- The calls that are to be made. -/
  calls : List BusCall

namespace Scene

/-- Before the first call. -/
def opening (bus : EventBus) (state : σ) (calls : List BusCall) : Scene σ ι :=
  { bus := bus, closing := none, hand := .idle, state := state, warnings := [], answers := [],
    calls := calls }

/-- The jobs that are queued, oldest first. -/
def queue (scene : Scene σ ι) : List Job :=
  scene.closing.getD scene.bus.queue

/-- What is left to do for the worker, with the warnings so far. -/
def rest (host : Host σ ι μ) (scene : Scene σ ι) : Attempt σ Empty (List Warning) := do
  let current ← scene.hand.rest host
  let others ← EventBus.workAll host scene.queue
  pure (scene.warnings ++ (current ++ others))

/-- The answer that the caller waits for. -/
def owed (scene : Scene σ ι) : List BusAnswer :=
  if scene.closing.isSome then [.done] else []

/-- One step, of the caller or of the worker.  The caller does not call while it waits for a
worker to stop. -/
inductive Step (host : Host σ ι μ) : Scene σ ι → Scene σ ι → Prop
  /-- The caller registers a listener class. -/
  | registered
      {scene : Scene σ ι}
      {event className : String}
      {priority : Option Int}
      {calls : List BusCall}
      (free : scene.closing = none)
      (next : scene.calls = .register event className priority :: calls) :
      Step host scene
        { scene with
          bus := scene.bus.register event className priority
          answers := scene.answers ++ [.done]
          calls := calls }
  /-- The caller dispatches an event. -/
  | dispatched
      {scene : Scene σ ι}
      {event : Event}
      {calls : List BusCall}
      {outcome : Except BusError Event}
      {bus : EventBus}
      {state : σ}
      (free : scene.closing = none)
      (next : scene.calls = .dispatch event :: calls)
      (ended :
        EventBus.dispatch host event (scene.bus, scene.state) = some (outcome, (bus, state))) :
      Step host scene
        { scene with
          bus := bus
          state := state
          answers := scene.answers ++ [.dispatched event outcome]
          calls := calls }
  /-- The caller takes the worker from the bus and lets it know that no job comes any more. -/
  | closed
      {scene : Scene σ ι}
      {calls : List BusCall}
      {queue : List Job}
      (free : scene.closing = none)
      (next : scene.calls = .shutdown :: calls)
      (running : scene.bus.worker = some (.running queue)) :
      Step host scene
        { scene with bus := scene.bus.dismiss, closing := some queue, calls := calls }
  /-- The caller stops a worker that does not run. -/
  | passed
      {scene : Scene σ ι}
      {calls : List BusCall}
      {warnings : List Warning}
      {bus : EventBus}
      {state : σ}
      (free : scene.closing = none)
      (next : scene.calls = .shutdown :: calls)
      (still : ∀ queue, scene.bus.worker ≠ some (.running queue))
      (ended :
        (EventBus.shutdown host : Attempt (EventBus × σ) Empty (List Warning))
          (scene.bus, scene.state) = some (.ok warnings, (bus, state))) :
      Step host scene
        { scene with
          bus := bus
          state := state
          warnings := scene.warnings ++ warnings
          answers := scene.answers ++ [.done]
          calls := calls }
  /-- The worker that the caller waits for has nothing left to do and stops. -/
  | returned
      {scene : Scene σ ι}
      (waits : scene.closing = some [])
      (idle : scene.hand = .idle) :
      Step host scene { scene with closing := none, answers := scene.answers ++ [.done] }
  /-- The worker takes a job of the bus. -/
  | took
      {scene : Scene σ ι}
      {job : Job}
      {queue : List Job}
      (idle : scene.hand = .idle)
      (running : scene.bus.worker = some (.running (job :: queue))) :
      Step host scene
        { scene with
          bus := { scene.bus with worker := some (.running queue) }
          hand := .taking job }
  /-- The worker that the caller waits for takes a job. -/
  | tookLate
      {scene : Scene σ ι}
      {job : Job}
      {queue : List Job}
      (idle : scene.hand = .idle)
      (waits : scene.closing = some (job :: queue)) :
      Step host scene { scene with closing := some queue, hand := .taking job }
  /-- The worker goes on with the job in hand. -/
  | worked
      {scene : Scene σ ι}
      {warnings : List Warning}
      {hand : Hand ι}
      {state : σ}
      (works : Hand.Works host (scene.hand, scene.state) warnings (hand, state)) :
      Step host scene
        { scene with hand := hand, state := state, warnings := scene.warnings ++ warnings }

/-- The scenes that can follow one, in any order of steps. -/
abbrev Reaches (host : Host σ ι μ) : Scene σ ι → Scene σ ι → Prop :=
  Relation.ReflTransGen (Step host)

/-- A scene after some calls on a bus, with a worker that has done its part of their jobs. -/
structure Tracks
    (host : Host σ ι μ)
    (bus : EventBus)
    (start : σ)
    (made : List BusCall)
    (scene : Scene σ ι) :
    Prop where
  registrations : scene.bus.registrations = (bus.registering made).registrations
  isAsync : scene.bus.isAsync = true
  alive : scene.bus.worker ≠ some .ended
  /-- While the caller waits for a worker, there is no other one. -/
  alone : scene.closing ≠ none → scene.bus.worker = none
  /-- Without a worker nobody has anything in hand. -/
  quiet : scene.closing = none → scene.bus.worker = none → scene.hand = .idle
  /-- A shutdown leaves no worker behind. -/
  stopped : made.getLast? = some .shutdown → scene.bus.worker = none
  answers : scene.answers ++ scene.owed = made.map BusCall.unchanged
  /-- What is left to do is what is left of the jobs that the calls make. -/
  rest :
    scene.rest host scene.state =
      (EventBus.workAll host (bus.jobsOf made) : Attempt σ Empty (List Warning)) start

variable {host : Host σ ι μ} {bus : EventBus} {start : σ} {made : List BusCall}

theorem tracks_opening
    (isAsync : bus.isAsync = true)
    (fresh : bus.worker = none)
    (calls : List BusCall) :
    Tracks host bus start [] (opening bus start calls) where
  registrations := rfl
  isAsync := isAsync
  alive := by
    intro ended
    cases fresh.symm.trans ended
  alone := fun waits => absurd rfl waits
  quiet := fun _ _ => rfl
  stopped := fun _ => fresh
  answers := rfl
  rest := by
    simp only [rest, opening, queue, EventBus.queue, fresh, Option.getD_none]
    rfl

section Rest

variable (scene after : Scene σ ι)

/-- What is left to do is what is in hand and what is queued, wherever that is. -/
theorem rest_congr
    (held : after.hand = scene.hand)
    (queued : after.queue = scene.queue)
    (quiet : after.warnings = scene.warnings) :
    after.rest host = scene.rest host := by
  simp only [rest, held, queued, quiet]

/-- Taking a job moves it from the queue to the hand. -/
theorem rest_of_taking
    {job : Job}
    (idle : scene.hand = .idle)
    (queued : scene.queue = job :: after.queue)
    (takes : after.hand = .taking job)
    (quiet : after.warnings = scene.warnings) :
    after.rest host = scene.rest host := by
  simp only [rest, idle, queued, takes, quiet, Hand.rest_taking, Hand.rest_idle,
    EventBus.workAll, bind_assoc, pure_bind, List.nil_append]

/-- A step with the job in hand does a part of what is left to do. -/
theorem rest_of_works
    {warnings : List Warning}
    (works :
      Hand.Works host (scene.hand, scene.state) warnings (after.hand, after.state))
    (queued : after.queue = scene.queue)
    (warned : after.warnings = scene.warnings ++ warnings) :
    after.rest host after.state = scene.rest host scene.state := by
  have split :
      scene.rest host scene.state =
        (do
          let current ← (do
            let others ← after.hand.rest host
            pure (warnings ++ others))
          let others ← EventBus.workAll host scene.queue
          pure (scene.warnings ++ (current ++ others)) :
            Attempt σ Empty (List Warning)) after.state := by
    rw [rest, Attempt.bind_apply, works.rest_eq]
    rfl
  rw [split, rest, queued, warned]
  simp only [bind_assoc, pure_bind, List.append_assoc]

/-- More jobs come after what is left to do. -/
theorem rest_of_queueing
    {jobs : List Job}
    (held : after.hand = scene.hand)
    (queued : after.queue = scene.queue ++ jobs)
    (quiet : after.warnings = scene.warnings) :
    after.rest host = (do
      let warnings ← scene.rest host
      let others ← EventBus.workAll host jobs
      pure (warnings ++ others)) := by
  simp only [rest, held, queued, quiet, EventBus.workAll_append, bind_assoc, pure_bind,
    List.append_assoc]

end Rest

namespace Tracks

variable {scene : Scene σ ι}

theorem answers_of_free
    (tracks : Tracks host bus start made scene)
    (free : scene.closing = none) :
    scene.answers = made.map BusCall.unchanged := by
  simpa [owed, free] using tracks.answers

theorem registered
    (tracks : Tracks host bus start made scene)
    (free : scene.closing = none)
    (event className : String)
    (priority : Option Int)
    (calls : List BusCall) :
    Tracks host bus start (made ++ [.register event className priority])
      { scene with
        bus := scene.bus.register event className priority
        answers := scene.answers ++ [.done]
        calls := calls } :=
  { tracks with
    registrations := by
      rw [EventBus.registering_append]
      exact EventBus.registrations_register_congr tracks.registrations _ _ _
    stopped := by simp
    answers := by simp [owed, free, tracks.answers_of_free free, BusCall.unchanged]
    rest := by
      rw [EventBus.jobsOf_append_register]
      exact tracks.rest }

theorem dispatched
    (tracks : Tracks host bus start made scene)
    (free : scene.closing = none)
    (event : Event)
    (calls : List BusCall) :
    Tracks host bus start (made ++ [.dispatch event])
      { scene with
        bus := scene.bus.queueing event
        answers := scene.answers ++ [.dispatched event (.ok event)]
        calls := calls } :=
  { registrations := by
      rw [EventBus.registering_append]
      exact (EventBus.registrations_queueing _ _).trans tracks.registrations
    isAsync := (EventBus.isAsync_queueing _ _).trans tracks.isAsync
    alive := by
      intro ended
      rcases EventBus.worker_queueing scene.bus event with same | ⟨queue, running⟩
      · exact tracks.alive (same.symm.trans ended)
      · cases running.symm.trans ended
    alone := fun waits => absurd free waits
    quiet := by
      intro _ noWorker
      rcases EventBus.worker_queueing scene.bus event with same | ⟨queue, running⟩
      · exact tracks.quiet free (same.symm.trans noWorker)
      · cases running.symm.trans noWorker
    stopped := by simp
    answers := by simp [owed, free, tracks.answers_of_free free, BusCall.unchanged]
    rest := by
      have jobs : (bus.registering made).jobFor event = scene.bus.jobFor event :=
        EventBus.jobFor_congr tracks.registrations.symm event
      rw [EventBus.jobsOf_append_dispatch, jobs, EventBus.workAll_append, Attempt.bind_apply,
        ← tracks.rest, ← Attempt.bind_apply]
      refine congrFun (rest_of_queueing scene _ (by rfl) ?_ (by rfl)) _
      simp only [queue, free, Option.getD_none, EventBus.queue_queueing] }

theorem closed
    (tracks : Tracks host bus start made scene)
    (free : scene.closing = none)
    {jobs : List Job}
    (running : scene.bus.worker = some (.running jobs))
    (calls : List BusCall) :
    Tracks host bus start (made ++ [.shutdown])
      { scene with bus := scene.bus.dismiss, closing := some jobs, calls := calls } :=
  { tracks with
    registrations := by
      rw [EventBus.registering_append]
      exact tracks.registrations
    alive := nofun
    alone := fun _ => rfl
    quiet := nofun
    stopped := fun _ => rfl
    answers := by simp [owed, tracks.answers_of_free free, BusCall.unchanged]
    rest := by
      rw [EventBus.jobsOf_append_shutdown, ← tracks.rest]
      refine congrFun (rest_congr scene _ (by rfl) ?_ (by rfl)) _
      simp only [queue, free, Option.getD_some, Option.getD_none, EventBus.queue, running] }

theorem passed
    (tracks : Tracks host bus start made scene)
    (free : scene.closing = none)
    (idle : scene.bus.worker = none)
    (calls : List BusCall) :
    Tracks host bus start (made ++ [.shutdown])
      { scene with answers := scene.answers ++ [.done], calls := calls } :=
  { tracks with
    registrations := by
      rw [EventBus.registering_append]
      exact tracks.registrations
    stopped := fun _ => idle
    answers := by simp [owed, free, tracks.answers_of_free free, BusCall.unchanged]
    rest := by
      rw [EventBus.jobsOf_append_shutdown, ← tracks.rest]
      rfl }

theorem returned
    (tracks : Tracks host bus start made scene)
    (waits : scene.closing = some [])
    (idle : scene.hand = .idle) :
    Tracks host bus start made
      { scene with closing := none, answers := scene.answers ++ [.done] } :=
  { tracks with
    alone := fun waits => absurd rfl waits
    quiet := fun _ _ => idle
    answers := by simpa [owed, waits] using tracks.answers
    rest := by
      have noWorker : scene.bus.worker = none := tracks.alone (by simp [waits])
      rw [← tracks.rest]
      refine congrFun (rest_congr scene _ (by rfl) ?_ (by rfl)) _
      simp only [queue, waits, EventBus.queue, noWorker, Option.getD_some, Option.getD_none] }

theorem took
    (tracks : Tracks host bus start made scene)
    {job : Job}
    {jobs : List Job}
    (idle : scene.hand = .idle)
    (running : scene.bus.worker = some (.running (job :: jobs))) :
    Tracks host bus start made
      { scene with
        bus := { scene.bus with worker := some (.running jobs) }
        hand := .taking job } :=
  have free : scene.closing = none := by
    by_contra waits
    cases running.symm.trans (tracks.alone waits)
  { tracks with
    alive := nofun
    alone := fun waits => absurd free waits
    quiet := nofun
    stopped := fun isLast => by cases running.symm.trans (tracks.stopped isLast)
    rest := by
      rw [← tracks.rest]
      refine congrFun (rest_of_taking scene _ idle ?_ (by rfl) (by rfl)) _
      simp only [queue, free, EventBus.queue, running, Option.getD_none] }

theorem tookLate
    (tracks : Tracks host bus start made scene)
    {job : Job}
    {jobs : List Job}
    (idle : scene.hand = .idle)
    (waits : scene.closing = some (job :: jobs)) :
    Tracks host bus start made { scene with closing := some jobs, hand := .taking job } :=
  { tracks with
    alone := fun _ => tracks.alone (by simp [waits])
    quiet := nofun
    answers := by simpa [owed, waits] using tracks.answers
    rest := by
      rw [← tracks.rest]
      refine congrFun (rest_of_taking scene _ idle ?_ (by rfl) (by rfl)) _
      simp only [queue, waits, Option.getD_some] }

theorem worked
    (tracks : Tracks host bus start made scene)
    {warnings : List Warning}
    {hand : Hand ι}
    {state : σ}
    (works : Hand.Works host (scene.hand, scene.state) warnings (hand, state)) :
    Tracks host bus start made
      { scene with hand := hand, state := state, warnings := scene.warnings ++ warnings } :=
  { tracks with
    quiet := fun free noWorker => absurd (tracks.quiet free noWorker) works.isBusy
    rest := by
      rw [← tracks.rest]
      exact rest_of_works scene _ works (by rfl) (by rfl) }

/-- A step of the worker does a part of what is left, and one of the caller makes a call. -/
theorem step
    {after : Scene σ ι}
    (hasBackground : host.hasBackground = true)
    (tracks : Tracks host bus start made scene)
    (step : Step host scene after) :
    ∃ more, scene.calls = more ++ after.calls ∧ Tracks host bus start (made ++ more) after := by
  have unmoved {scene : Scene σ ι} (tracks : Tracks host bus start made scene) :
      Tracks host bus start (made ++ []) scene := by
    rwa [List.append_nil]
  cases step with
  | registered free next => exact ⟨[_], next, tracks.registered free _ _ _ _⟩
  | dispatched free next ended =>
      rw [EventBus.dispatch_eq_queueing hasBackground tracks.isAsync tracks.alive] at ended
      cases ended
      exact ⟨[_], next, tracks.dispatched free _ _⟩
  | closed free next running => exact ⟨[_], next, tracks.closed free running _⟩
  | passed free next still ended =>
      have idle : scene.bus.worker = none := by
        match isWorker : scene.bus.worker with
        | none => rfl
        | some (.running queue) => exact absurd isWorker (still queue)
        | some .ended => exact absurd isWorker tracks.alive
      rw [EventBus.shutdown_of_idle host idle] at ended
      cases ended
      have tracksToo := tracks.passed free idle
      exact ⟨[_], next, by simpa only [List.append_nil] using tracksToo _⟩
  | returned waits idle => exact ⟨[], rfl, unmoved (tracks.returned waits idle)⟩
  | took idle running => exact ⟨[], rfl, unmoved (tracks.took idle running)⟩
  | tookLate idle waits => exact ⟨[], rfl, unmoved (tracks.tookLate idle waits)⟩
  | worked works => exact ⟨[], rfl, unmoved (tracks.worked works)⟩

end Tracks

/-- Whatever the order of the steps, the worker has done its part of the jobs of the calls that
were made. -/
theorem tracks_of_reaches
    (hasBackground : host.hasBackground = true)
    (isAsync : bus.isAsync = true)
    (fresh : bus.worker = none)
    {calls : List BusCall}
    {scene : Scene σ ι}
    (reaches : Reaches host (opening bus start calls) scene) :
    ∃ made, calls = made ++ scene.calls ∧ Tracks host bus start made scene := by
  induction reaches with
  | refl => exact ⟨[], rfl, tracks_opening isAsync fresh calls⟩
  | tail _ step inductionHypothesis =>
      obtain ⟨made, rfl, tracks⟩ := inductionHypothesis
      obtain ⟨more, split, tracksToo⟩ := tracks.step hasBackground step
      exact ⟨made ++ more, by rw [split, List.append_assoc], tracksToo⟩

/-- Once a shutdown has returned, everything is done. -/
theorem Tracks.settled
    {scene : Scene σ ι}
    (tracks : Tracks host bus start made scene)
    (isLast : made.getLast? = some .shutdown)
    (free : scene.closing = none) :
    scene.hand = .idle ∧ scene.bus.worker = none ∧
      (EventBus.workAll host (bus.jobsOf made) : Attempt σ Empty (List Warning)) start =
        some (.ok scene.warnings, scene.state) := by
  have noWorker := tracks.stopped isLast
  have idle := tracks.quiet free noWorker
  refine ⟨idle, noWorker, ?_⟩
  rw [← tracks.rest]
  simp only [Scene.rest, queue, free, EventBus.queue, noWorker, idle, Option.getD_none,
    Hand.rest_idle, EventBus.workAll, pure_bind, List.append_nil, Attempt.run_pure]

/-- Some jobs come to an end if they do with others after them. -/
theorem workAll_ends_of_append
    {earlier later : List Job}
    {state : σ}
    (ends :
      (EventBus.workAll host (earlier ++ later) : Attempt σ ε (List Warning)) state ≠ none) :
    (EventBus.workAll host earlier : Attempt σ ε (List Warning)) state ≠ none := by
  intro stuck
  rw [EventBus.workAll_append, Attempt.bind_apply, stuck] at ends
  exact ends rfl

/-- As long as the jobs of the calls come to an end and the caller has not made all of its calls,
there is a step to take. -/
theorem Tracks.exists_step
    {scene : Scene σ ι}
    (hasBackground : host.hasBackground = true)
    (tracks : Tracks host bus start made scene)
    (ends :
      (EventBus.workAll host (bus.jobsOf made) : Attempt σ Empty (List Warning)) start ≠ none)
    (unfinished : scene.calls ≠ [] ∨ scene.closing ≠ none) :
    ∃ after, Step host scene after := by
  cases closing : scene.closing with
  | some jobs =>
      by_cases idle : scene.hand = .idle
      · cases jobs with
        | nil => exact ⟨_, .returned closing idle⟩
        | cons job jobs => exact ⟨_, .tookLate idle closing⟩
      · have endsToo :
            (scene.hand.rest host : Attempt σ Empty (List Warning)) scene.state ≠ none := by
          intro none
          rw [← tracks.rest, Scene.rest, Attempt.bind_apply, none] at ends
          exact ends rfl
        obtain ⟨warnings, hand, state, works⟩ := Hand.exists_works idle endsToo
        exact ⟨_, .worked works⟩
  | none =>
      have more : scene.calls ≠ [] := unfinished.resolve_right fun waits => waits closing
      obtain ⟨call, calls, next⟩ := List.exists_cons_of_ne_nil more
      cases call with
      | register event className priority => exact ⟨_, .registered closing next⟩
      | dispatch event =>
          exact ⟨_, .dispatched closing next
            (EventBus.dispatch_eq_queueing hasBackground tracks.isAsync tracks.alive _ _)⟩
      | shutdown =>
          match isWorker : scene.bus.worker with
          | none =>
              exact ⟨_, .passed closing next (by simp [isWorker])
                (EventBus.shutdown_of_idle host isWorker _)⟩
          | some (.running queue) => exact ⟨_, .closed closing next isWorker⟩
          | some .ended => exact absurd isWorker tracks.alive

/-- How many steps a worker has left with some jobs at most. -/
def steps : List Job → Nat
  | [] => 0
  | job :: jobs => 2 * job.listeners.length + 2 + steps jobs

/-- How many steps there are at most until the caller makes a call. -/
def size (scene : Scene σ ι) : Nat :=
  scene.hand.size + steps scene.bus.queue + steps (scene.closing.getD []) + scene.owed.length

/-- A step makes a call or is one less until the next call. -/
theorem Step.decreases
    {scene after : Scene σ ι}
    (step : Step host scene after) :
    after.calls.length < scene.calls.length ∨
      after.calls.length = scene.calls.length ∧ after.size < scene.size := by
  cases step with
  | registered free next => exact .inl (by simp [next])
  | dispatched free next ended => exact .inl (by simp [next])
  | closed free next running => exact .inl (by simp [next])
  | passed free next still ended => exact .inl (by simp [next])
  | returned waits idle =>
      refine .inr ⟨rfl, ?_⟩
      simp [size, owed, waits, steps]
  | took idle running =>
      refine .inr ⟨rfl, ?_⟩
      simp only [size, EventBus.queue, running, idle, Hand.size, Hand.taking, steps, owed]
      omega
  | tookLate idle waits =>
      refine .inr ⟨rfl, ?_⟩
      simp only [size, waits, idle, Hand.size, Hand.taking, steps, Option.getD_some, owed,
        Option.isSome_some]
      omega
  | worked works =>
      have smaller := works.size_lt
      refine .inr ⟨rfl, ?_⟩
      simp only [size, owed]
      omega

/-- Steps cannot be taken forever. -/
theorem wellFounded_step (host : Host σ ι μ) :
    WellFounded fun after before : Scene σ ι => Step host before after := by
  have ordered : WellFounded (Prod.Lex (· < ·) (· < ·) : Nat × Nat → Nat × Nat → Prop) :=
    WellFounded.prod_lex Nat.lt_wfRel.wf Nat.lt_wfRel.wf
  refine Subrelation.wf (fun {after before} step => ?_)
    (InvImage.wf (fun scene : Scene σ ι => (scene.calls.length, scene.size)) ordered)
  rcases step.decreases with fewer | ⟨same, smaller⟩
  · exact Prod.Lex.left _ _ fewer
  · change Prod.Lex _ _ (after.calls.length, after.size) (before.calls.length, before.size)
    rw [same]
    exact Prod.Lex.right _ smaller

section Sequential

variable {warnings : List Warning} {state : σ}

/-- A worker that is left alone does the rest of the job in hand. -/
theorem reaches_of_rest
    (scene : Scene σ ι)
    (ended :
      (scene.hand.rest host : Attempt σ Empty (List Warning)) scene.state =
        some (.ok warnings, state)) :
    Reaches host scene
      { scene with hand := .idle, state := state, warnings := scene.warnings ++ warnings } := by
  induction size : scene.hand.size using Nat.strongRecOn generalizing scene warnings with
  | ind size' inductionHypothesis =>
      subst size
      by_cases idle : scene.hand = .idle
      · rw [idle] at ended
        cases ended
        rw [List.append_nil, ← idle]
      · have goesOn :
            (scene.hand.rest host : Attempt σ Empty (List Warning)) scene.state ≠ none := by
          rw [ended]
          exact Option.some_ne_none _
        obtain ⟨first, hand, between, works⟩ := Hand.exists_works idle goesOn
        rw [works.rest_eq] at ended
        obtain ⟨outcome, later, same⟩ := Attempt.bind_pure_eq_some.mp ended
        cases outcome with
        | error error => exact error.elim
        | ok others =>
            cases same
            let next : Scene σ ι :=
              { scene with hand := hand, state := between, warnings := scene.warnings ++ first }
            have reaches := inductionHypothesis hand.size works.size_lt next later rfl
            rw [List.append_assoc] at reaches
            exact .head (.worked works) reaches

/-- A worker that is left alone does all jobs that are queued for it. -/
theorem reaches_of_workAll
    {jobs : List Job}
    (scene : Scene σ ι)
    (waits : scene.closing = some jobs)
    (idle : scene.hand = .idle)
    (ended :
      (EventBus.workAll host jobs : Attempt σ Empty (List Warning)) scene.state =
        some (.ok warnings, state)) :
    Reaches host scene
      { scene with
        closing := some []
        hand := .idle
        state := state
        warnings := scene.warnings ++ warnings } := by
  induction jobs generalizing scene warnings with
  | nil =>
      cases ended
      rw [List.append_nil, ← waits, ← idle]
  | cons job jobs inductionHypothesis =>
      obtain ⟨first, between, went, rest⟩ := Attempt.bind_eq_ok.mp ended
      obtain ⟨outcome, later, same⟩ := Attempt.bind_pure_eq_some.mp rest
      cases outcome with
      | error error => exact error.elim
      | ok others =>
          cases same
          let taking : Scene σ ι := { scene with closing := some jobs, hand := .taking job }
          let next : Scene σ ι :=
            { taking with hand := .idle, state := between, warnings := scene.warnings ++ first }
          have worked : Reaches host taking next := reaches_of_rest taking went
          have reaches := inductionHypothesis next rfl rfl later
          rw [List.append_assoc] at reaches
          exact .head (.tookLate idle waits) (worked.trans reaches)

/-- What the bus does with a call when nothing else is going on is a way to go on. -/
theorem reaches_of_perform
    (scene : Scene σ ι)
    {call : BusCall}
    {calls : List BusCall}
    {answer : BusAnswer}
    {busAfter : EventBus}
    (free : scene.closing = none)
    (idle : scene.hand = .idle)
    (next : scene.calls = call :: calls)
    (ended :
      EventBus.perform host call (scene.bus, scene.state) =
        some (.ok (answer, warnings), (busAfter, state))) :
    Reaches host scene
      { scene with
        bus := busAfter
        state := state
        warnings := scene.warnings ++ warnings
        answers := scene.answers ++ [answer]
        calls := calls } := by
  cases call with
  | register event className priority =>
      cases ended
      rw [List.append_nil]
      exact .single (.registered free next)
  | dispatch event =>
      obtain ⟨settled, went, same⟩ := Attempt.bind_pure_eq_some.mp ended
      obtain ⟨outcome, dispatched, rfl⟩ := Attempt.settle_eq_some.mp went
      cases same
      rw [List.append_nil]
      exact .single (.dispatched free next dispatched)
  | shutdown =>
      obtain ⟨outcome, went, same⟩ := Attempt.bind_pure_eq_some.mp ended
      cases outcome with
      | error error => exact error.elim
      | ok warnings =>
          cases same
          match isWorker : scene.bus.worker with
          | some (.running jobs) =>
              obtain ⟨rfl, worked⟩ := EventBus.shutdown_of_running isWorker went
              let closing : Scene σ ι :=
                { scene with bus := scene.bus.dismiss, closing := some jobs, calls := calls }
              have reaches := reaches_of_workAll closing rfl idle worked
              have closes : Step host scene closing := .closed free next isWorker
              refine .head closes (reaches.tail ?_)
              rw [free, idle]
              exact .returned rfl rfl
          | none => exact .single (.passed free next (by simp [isWorker]) went)
          | some .ended => exact .single (.passed free next (by simp [isWorker]) went)

/-- So is what it does with all calls. -/
theorem reaches_of_performAll
    (scene : Scene σ ι)
    {answers : List BusAnswer}
    {busAfter : EventBus}
    (free : scene.closing = none)
    (idle : scene.hand = .idle)
    (ended :
      EventBus.performAll host scene.calls (scene.bus, scene.state) =
        some (.ok (answers, warnings), (busAfter, state))) :
    Reaches host scene
      { scene with
        bus := busAfter
        state := state
        warnings := scene.warnings ++ warnings
        answers := scene.answers ++ answers
        calls := [] } := by
  induction calls : scene.calls generalizing scene answers warnings with
  | nil =>
      rw [calls] at ended
      cases ended
      rw [List.append_nil, List.append_nil, ← calls]
  | cons call later inductionHypothesis =>
      rw [calls] at ended
      obtain ⟨⟨answer, first⟩, ⟨busBetween, between⟩, went, rest⟩ := Attempt.bind_eq_ok.mp ended
      obtain ⟨outcome, others, same⟩ := Attempt.bind_pure_eq_some.mp rest
      cases outcome with
      | error error => exact error.elim
      | ok given =>
          cases same
          let next : Scene σ ι :=
            { scene with
              bus := busBetween
              state := between
              warnings := scene.warnings ++ first
              answers := scene.answers ++ [answer]
              calls := later }
          have performed : Reaches host scene next :=
            reaches_of_perform scene free idle calls went
          have reaches := inductionHypothesis next free idle others rfl
          rw [List.append_assoc, List.append_assoc] at reaches
          exact performed.trans reaches

end Sequential

end Scene

end Switchboard
