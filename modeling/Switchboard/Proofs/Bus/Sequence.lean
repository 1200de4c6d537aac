import Switchboard.Proofs.Bus.Dispatch

namespace Switchboard

/-!
# Calls in a row

Somebody calls an event bus again and again, whatever the calls before came to.  On a synchronous
bus that is the same as working on the jobs that the dispatches make, in order:
`performAll_of_workAll` and `workAll_of_performAll` say so, errors of the one being warnings of
the other.
-/

variable {σ ι μ ε : Type}

/-- What can be asked of an event bus. -/
inductive BusCall where
  | register (event className : String) (priority : Option Int)
  | dispatch (event : Event)
  | shutdown
  deriving Repr

/-- What an event bus gives back. -/
inductive BusAnswer where
  | done
  | dispatched (event : Event) (outcome : Except BusError Event)

/-- The warning that says in the background what the error of a dispatch says. -/
def BusAnswer.failure? : BusAnswer → Option Warning
  | .dispatched event (.error error) => some (.listenerFailed event.identifier error)
  | _ => none

/-- The answer to a call whose event comes back as it was. -/
def BusCall.unchanged : BusCall → BusAnswer
  | .dispatch event => .dispatched event (.ok event)
  | _ => .done

namespace EventBus

/-- Do what is asked of a bus; the warnings are those of a worker that was waited for. -/
def perform (host : Host σ ι μ) :
    BusCall → Attempt (EventBus × σ) Empty (BusAnswer × List Warning)
  | .register event className priority =>
      .changing fun state =>
        ((.done, []), (state.1.register event className priority, state.2))
  | .dispatch event => do
      let outcome ← (dispatch host event).settle
      pure (.dispatched event outcome, [])
  | .shutdown => do
      let warnings ← shutdown host
      pure (.done, warnings)

/-- Do everything that is asked of a bus, in order. -/
def performAll (host : Host σ ι μ) :
    List BusCall → Attempt (EventBus × σ) Empty (List BusAnswer × List Warning)
  | [] => pure ([], [])
  | call :: calls => do
      let first ← perform host call
      let others ← performAll host calls
      pure (first.1 :: others.1, first.2 ++ others.2)

/-- The bus once the registrations among some calls are made. -/
def registering (bus : EventBus) : List BusCall → EventBus
  | [] => bus
  | .register event className priority :: calls =>
      (bus.register event className priority).registering calls
  | _ :: calls => bus.registering calls

/-- The job that a dispatch makes, if the event has listeners. -/
def jobFor (bus : EventBus) (event : Event) : List Job :=
  if (bus.listenersFor event.identifier).isEmpty then
    []
  else
    [{ event := event, listeners := bus.listenersFor event.identifier }]

/-- The jobs that calls make, each with the listeners that are registered at its dispatch. -/
def jobsOf (bus : EventBus) : List BusCall → List Job
  | [] => []
  | .register event className priority :: calls =>
      (bus.register event className priority).jobsOf calls
  | .dispatch event :: calls => bus.jobFor event ++ bus.jobsOf calls
  | .shutdown :: calls => bus.jobsOf calls

theorem registrations_register_congr
    {bus other : EventBus}
    (alike : bus.registrations = other.registrations)
    (event className : String)
    (priority : Option Int) :
    (bus.register event className priority).registrations =
      (other.register event className priority).registrations := by
  simp only [register, alike]

theorem listenersFor_congr
    {bus other : EventBus}
    (alike : bus.registrations = other.registrations)
    (identifier : String) :
    bus.listenersFor identifier = other.listenersFor identifier := by
  simp only [listenersFor, listenersOf, registrationsFor, alike]

theorem jobFor_congr
    {bus other : EventBus}
    (alike : bus.registrations = other.registrations)
    (event : Event) :
    bus.jobFor event = other.jobFor event := by
  simp only [jobFor, listenersFor_congr alike]

/-- Which jobs are made is a matter of the registrations alone. -/
theorem jobsOf_congr
    {bus other : EventBus}
    (alike : bus.registrations = other.registrations)
    (calls : List BusCall) :
    bus.jobsOf calls = other.jobsOf calls := by
  induction calls generalizing bus other with
  | nil => rfl
  | cons call calls inductionHypothesis =>
      cases call with
      | register event className priority =>
          exact inductionHypothesis (registrations_register_congr alike event className priority)
      | dispatch event =>
          simp only [jobsOf, jobFor_congr alike, inductionHypothesis alike]
      | shutdown => exact inductionHypothesis alike

theorem registering_append
    (bus : EventBus)
    (earlier later : List BusCall) :
    bus.registering (earlier ++ later) = (bus.registering earlier).registering later := by
  induction earlier generalizing bus with
  | nil => rfl
  | cons call earlier inductionHypothesis =>
      cases call <;> exact inductionHypothesis _

theorem jobsOf_append
    (bus : EventBus)
    (earlier later : List BusCall) :
    bus.jobsOf (earlier ++ later) =
      bus.jobsOf earlier ++ (bus.registering earlier).jobsOf later := by
  induction earlier generalizing bus with
  | nil => rfl
  | cons call earlier inductionHypothesis =>
      cases call with
      | register event className priority => exact inductionHypothesis _
      | dispatch event =>
          simp only [List.cons_append, jobsOf, registering, inductionHypothesis, List.append_assoc]
      | shutdown => exact inductionHypothesis _

@[simp] theorem jobsOf_append_register
    (bus : EventBus)
    (calls : List BusCall)
    (event className : String)
    (priority : Option Int) :
    bus.jobsOf (calls ++ [.register event className priority]) = bus.jobsOf calls := by
  rw [jobsOf_append, jobsOf, jobsOf, List.append_nil]

@[simp] theorem jobsOf_append_dispatch
    (bus : EventBus)
    (calls : List BusCall)
    (event : Event) :
    bus.jobsOf (calls ++ [.dispatch event]) =
      bus.jobsOf calls ++ (bus.registering calls).jobFor event := by
  rw [jobsOf_append, jobsOf, jobsOf, List.append_nil]

@[simp] theorem jobsOf_append_shutdown
    (bus : EventBus)
    (calls : List BusCall) :
    bus.jobsOf (calls ++ [.shutdown]) = bus.jobsOf calls := by
  rw [jobsOf_append, jobsOf, jobsOf, List.append_nil]

/-- What comes of a job: its listeners are notified, and a failure becomes a warning. -/
theorem work_eq_some
    {host : Host σ ι μ}
    {job : Job}
    {before after : σ}
    {outcome : Except ε (List Warning)} :
    work host job before = some (outcome, after) ↔
      ∃ result final,
        host.notify job.listeners (job.event, before) = some (result, final) ∧
          outcome = .ok
            (match result with
              | .ok _ => []
              | .error error => [.listenerFailed job.event.identifier error]) ∧
          after = final.2 := by
  unfold work
  rw [Attempt.bind_eq_some]
  constructor
  · rintro (⟨error, refused, _⟩ | ⟨settled, between, went, ended⟩)
    · obtain ⟨_, _, isOk⟩ := Attempt.settle_eq_some.mp refused
      cases isOk
    · obtain ⟨first, carried, isFirst⟩ := Attempt.settle_eq_some.mp went
      obtain ⟨result, left, notified, rfl⟩ := Attempt.carrying_eq_some.mp carried
      cases isFirst
      refine ⟨result, (left, between), notified, ?_⟩
      cases result <;> cases ended <;> exact ⟨rfl, rfl⟩
  · rintro ⟨result, final, notified, rfl, rfl⟩
    refine .inr ⟨result.map fun value => (value, final.1), final.2, ?_, by cases result <;> rfl⟩
    exact Attempt.settle_eq_some.mpr
      ⟨_, Attempt.carrying_eq_some.mpr ⟨result, final.1, notified, rfl⟩, rfl⟩

theorem workAll_append
    (host : Host σ ι μ)
    (earlier later : List Job) :
    (workAll host (earlier ++ later) : Attempt σ ε (List Warning)) = (do
      let warnings ← workAll host earlier
      let others ← workAll host later
      pure (warnings ++ others)) := by
  induction earlier with
  | nil => simp [workAll]
  | cons job earlier inductionHypothesis =>
      simp only [List.cons_append, workAll, inductionHypothesis, bind_assoc, pure_bind,
        List.append_assoc]

/-- A dispatch on a synchronous bus is the job that it makes, done at once. -/
theorem workAll_jobFor_eq_some
    {host : Host σ ι μ}
    {bus : EventBus}
    {event : Event}
    {before after : σ}
    {outcome : Except ε (List Warning)} :
    workAll host (bus.jobFor event) before = some (outcome, after) ↔
      ∃ result final,
        host.notify (bus.listenersFor event.identifier) (event, before) = some (result, final) ∧
          outcome = .ok
            (BusAnswer.failure? (.dispatched event (result.map fun _ => final.1))).toList ∧
          after = final.2 := by
  unfold jobFor
  cases listeners : bus.listenersFor event.identifier with
  | nil =>
      constructor
      · intro ended
        cases ended
        exact ⟨.ok (), (event, before), rfl, rfl, rfl⟩
      · rintro ⟨result, final, ended, rfl, rfl⟩
        cases ended
        rfl
  | cons className classNames =>
      have alone (job : Job) :
          (workAll host [job] : Attempt σ ε (List Warning)) = work host job := by
        simp [workAll]
      simp only [List.isEmpty_cons, Bool.false_eq_true, if_false, alone, work_eq_some]
      constructor
      · rintro ⟨result, final, notified, rfl, rfl⟩
        exact ⟨result, final, notified, by cases result <;> rfl, rfl⟩
      · rintro ⟨result, final, notified, rfl, rfl⟩
        exact ⟨result, final, notified, by cases result <;> rfl, rfl⟩

/-- Without a worker there is nothing to wait for. -/
theorem shutdown_of_idle
    (host : Host σ ι μ)
    {bus : EventBus}
    (idle : bus.worker = none)
    (state : σ) :
    (shutdown host : Attempt (EventBus × σ) ε (List Warning)) (bus, state) =
      some (.ok [], (bus, state)) := by
  obtain ⟨registrations, config, worker⟩ := bus
  cases idle
  rfl

/-- What calls come to on a synchronous bus is what the jobs that they make come to. -/
theorem workAll_of_performAll
    {host : Host σ ι μ}
    {bus : EventBus}
    (isSync : bus.isAsync = false)
    (idle : bus.worker = none)
    {calls : List BusCall}
    {before : σ}
    {outcome : Except Empty (List BusAnswer × List Warning)}
    {after : EventBus × σ}
    (ended : performAll host calls (bus, before) = some (outcome, after)) :
    ∃ answers,
      outcome = .ok (answers, []) ∧
        workAll host (bus.jobsOf calls) before =
          some ((.ok (answers.filterMap BusAnswer.failure?) : Except Empty (List Warning)),
            after.2) := by
  induction calls generalizing bus before outcome with
  | nil =>
      cases ended
      exact ⟨[], rfl, rfl⟩
  | cons call calls inductionHypothesis =>
      rcases Attempt.bind_eq_some.mp ended with ⟨error, _, _⟩ | ⟨first, between, went, rest⟩
      · exact error.elim
      rcases Attempt.bind_eq_some.mp rest with ⟨error, _, _⟩ | ⟨others, final, later, same⟩
      · exact error.elim
      cases same
      cases call with
      | register event className priority =>
          cases went
          have isSyncToo : (bus.register event className priority).isAsync = false := isSync
          obtain ⟨answers, isOthers, worked⟩ := inductionHypothesis isSyncToo idle later
          cases isOthers
          exact ⟨_, rfl, worked⟩
      | dispatch event =>
          obtain ⟨settled, went, isFirst⟩ := Attempt.bind_pure_eq_some.mp went
          obtain ⟨outcome, dispatched, rfl⟩ := Attempt.settle_eq_some.mp went
          cases isFirst
          obtain ⟨result, left, notified, rfl, rfl⟩ := (dispatch_eq_some isSync).mp dispatched
          obtain ⟨answers, isOthers, worked⟩ := inductionHypothesis isSync idle later
          cases isOthers
          refine ⟨_, rfl, ?_⟩
          rw [jobsOf, workAll_append, Attempt.bind_apply,
            workAll_jobFor_eq_some.mpr ⟨result, left, notified, rfl, rfl⟩]
          simp only [Attempt.bind_apply, worked, Attempt.run_pure]
          cases result <;> rfl
      | shutdown =>
          obtain ⟨warnings, stopped, isFirst⟩ := Attempt.bind_pure_eq_some.mp went
          rw [shutdown_of_idle host idle] at stopped
          cases stopped
          cases isFirst
          obtain ⟨answers, isOthers, worked⟩ := inductionHypothesis isSync idle later
          cases isOthers
          exact ⟨_, rfl, worked⟩

/-- If the jobs that calls make come to an end, so do the calls on a synchronous bus. -/
theorem performAll_of_workAll
    {host : Host σ ι μ}
    {bus : EventBus}
    (isSync : bus.isAsync = false)
    (idle : bus.worker = none)
    {calls : List BusCall}
    {before after : σ}
    {outcome : Except Empty (List Warning)}
    (ended : workAll host (bus.jobsOf calls) before = some (outcome, after)) :
    ∃ answers,
      performAll host calls (bus, before) =
          some (.ok (answers, []), (bus.registering calls, after)) ∧
        outcome = .ok (answers.filterMap BusAnswer.failure?) := by
  induction calls generalizing bus before outcome with
  | nil =>
      cases ended
      exact ⟨[], rfl, rfl⟩
  | cons call calls inductionHypothesis =>
      cases call with
      | register event className priority =>
          have isSyncToo : (bus.register event className priority).isAsync = false := isSync
          obtain ⟨answers, performed, rfl⟩ := inductionHypothesis isSyncToo idle ended
          refine ⟨.done :: answers, ?_, rfl⟩
          rw [performAll, perform, Attempt.changing_bind]
          simp only [Attempt.bind_apply, performed, Attempt.run_pure]
          rfl
      | dispatch event =>
          rw [jobsOf, workAll_append] at ended
          rcases Attempt.bind_eq_some.mp ended with ⟨error, _, _⟩ | ⟨first, between, went, rest⟩
          · exact error.elim
          obtain ⟨settled, later, rfl⟩ := Attempt.bind_pure_eq_some.mp rest
          obtain ⟨result, left, notified, isFirst, rfl⟩ := workAll_jobFor_eq_some.mp went
          obtain ⟨answers, performed, rfl⟩ := inductionHypothesis isSync idle later
          have dispatched :
              dispatch host event (bus, before) =
                some (result.map fun _ => left.1, (bus, left.2)) :=
            (dispatch_eq_some isSync).mpr ⟨result, left, notified, rfl, rfl⟩
          refine ⟨.dispatched event (result.map fun _ => left.1) :: answers, ?_, ?_⟩
          · simp only [performAll, perform, Attempt.bind_apply, Attempt.settle, dispatched,
              Attempt.run_pure, performed]
            rfl
          · cases isFirst
            cases result <;> rfl
      | shutdown =>
          obtain ⟨answers, performed, rfl⟩ := inductionHypothesis isSync idle ended
          refine ⟨.done :: answers, ?_, rfl⟩
          simp only [performAll, perform, Attempt.bind_apply, shutdown_of_idle host idle,
            Attempt.run_pure, performed]
          rfl

end EventBus

end Switchboard
