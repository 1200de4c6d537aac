import Switchboard.Proofs.Attempt.Watching
import Switchboard.Proofs.Bus.Background

namespace Switchboard

/-!
# Recording the calls of listeners

A host can be made to write every call of a listener into a log beside its state.  Nothing else
changes with that: what is done on the recorded host mirrors what is done on the host itself.
-/

variable {σ ι μ ε : Type}

/-- A call of a listener. -/
structure ListenerCall where
  className : String
  /-- The event as it came to the listener. -/
  event : Event
  deriving Repr

namespace Host

/-- Write a call of a listener class into the log, however it ends. -/
def recordCall
    (className : String)
    (react : Attempt (Event × σ) Failure Unit) :
    Attempt (Event × (σ × List ListenerCall)) Failure Unit :=
  fun state =>
    match react (state.1, state.2.1) with
    | none => none
    | some (outcome, after) =>
        some (outcome,
          (after.1,
            (after.2, state.2.2 ++ [{ className := className, event := state.1 }])))

/-- The host with a log of all calls of listeners. -/
def recorded (host : Host σ ι μ) : Host (σ × List ListenerCall) (String × ι) μ where
  build className := do
    let object ← (host.build className).onFirst
    pure (className, object)
  handling? object :=
    (host.handling? object.2).map fun handle message => (handle message).onFirst
  listening? object := (host.listening? object.2).map (recordCall object.1)
  timestamp state := host.timestamp state.1
  hasBackground := host.hasBackground

/-- The part of an event and a recorded state that the host itself knows. -/
abbrev unrecorded : Event × (σ × List ListenerCall) → Event × σ :=
  Prod.map id Prod.fst

theorem recordCall_mirrors
    (className : String)
    (react : Attempt (Event × σ) Failure Unit) :
    (recordCall className react).Mirrors unrecorded react := by
  rintro ⟨event, state, log⟩
  simp only [recordCall, Prod.map_apply, id]
  cases react (event, state) <;> rfl

theorem callObject_mirrors
    (host : Host σ ι μ)
    (identifier className : String)
    (object : String × ι) :
    (host.recorded.callObject identifier className object).Mirrors unrecorded
      (host.callObject identifier className object.2) := by
  simp only [callObject, recorded]
  cases host.listening? object.2 with
  | none => exact .fail _
  | some react => exact (recordCall_mirrors object.1 react).mapError _

/-- Building is the same but that the object knows its class. -/
theorem build_recorded
    (host : Host σ ι μ)
    (className : String)
    (state : σ)
    (log : List ListenerCall) :
    host.recorded.build className (state, log) =
      (host.build className state).map fun ending =>
        (ending.1.map fun object => (className, object), (ending.2, log)) := by
  simp only [recorded, Attempt.bind_apply, Attempt.onFirst, Attempt.focus]
  cases host.build className state with
  | none => rfl
  | some ending =>
      obtain ⟨outcome, after⟩ := ending
      cases outcome <;> rfl

theorem build_of_recorded
    {host : Host σ ι μ}
    {className : String}
    {before after : σ × List ListenerCall}
    {outcome : Except BuildError (String × ι)}
    (built : host.recorded.build className before = some (outcome, after)) :
    host.build className before.1 = some (outcome.map Prod.snd, after.1) := by
  obtain ⟨state, log⟩ := before
  rw [build_recorded, Option.map_eq_some_iff] at built
  obtain ⟨⟨first, between⟩, built, same⟩ := built
  cases same
  rw [built]
  cases first <;> rfl

theorem recorded_of_build
    {host : Host σ ι μ}
    {className : String}
    {before : σ × List ListenerCall}
    {after : σ}
    {outcome : Except BuildError ι}
    (built : host.build className before.1 = some (outcome, after)) :
    host.recorded.build className before =
      some (outcome.map fun object => (className, object), (after, before.2)) := by
  rw [show before = (before.1, before.2) from rfl, build_recorded, built]
  rfl

theorem callListener_mirrors
    (host : Host σ ι μ)
    (identifier className : String) :
    (host.recorded.callListener identifier className).Mirrors unrecorded
      (host.callListener identifier className) := by
  rintro ⟨event, state, log⟩
  simp only [callListener_eq, Attempt.bind_apply, Attempt.onSecond, Attempt.focus,
    Attempt.mapError, build_recorded, Prod.map_apply, id]
  cases host.build className state with
  | none => rfl
  | some ending =>
      obtain ⟨outcome, after⟩ := ending
      cases outcome with
      | error error => rfl
      | ok object =>
          exact callObject_mirrors host identifier className (className, object)
            (event, (after, log))

theorem callListeners_mirrors
    (host : Host σ ι μ)
    (identifier : String)
    (classNames : List String) :
    (host.recorded.callListeners identifier classNames).Mirrors unrecorded
      (host.callListeners identifier classNames) := by
  induction classNames with
  | nil => exact .pure ()
  | cons className classNames inductionHypothesis =>
      refine .bind (.reading fun _ => rfl) fun isStopped => ?_
      cases isStopped with
      | true => exact .pure ()
      | false =>
          exact .bind (callListener_mirrors host identifier className) fun _ => inductionHypothesis

theorem notify_mirrors
    (host : Host σ ι μ)
    (classNames : List String) :
    (host.recorded.notify classNames).Mirrors unrecorded (host.notify classNames) :=
  .bind (.reading fun _ => rfl) fun identifier => callListeners_mirrors host identifier classNames

end Host

namespace EventBus

/-- The part of a bus and a recorded state that goes on without the log. -/
abbrev unrecorded : EventBus × (σ × List ListenerCall) → EventBus × σ :=
  Prod.map id Prod.fst

theorem enqueue_mirrors (host : Host σ ι μ) (job : Job) :
    (enqueue host.recorded job).Mirrors unrecorded (enqueue host job) := by
  rintro ⟨bus, state, log⟩
  have same : host.recorded.hasBackground = host.hasBackground := rfl
  simp only [enqueue, Prod.map_apply, id, same]
  cases bus.submit host.hasBackground job <;> rfl

theorem dispatch_mirrors (host : Host σ ι μ) (event : Event) :
    (dispatch host.recorded event).Mirrors unrecorded (dispatch host event) := by
  refine .bind (.reading fun _ => rfl) fun bus => ?_
  by_cases silent : (bus.listenersFor event.identifier).isEmpty = true
  · simp only [silent, if_true]
    exact .pure event
  · by_cases isAsync : bus.isAsync = true
    · simp only [silent, isAsync, if_true, if_false, Bool.false_eq_true]
      exact .bind (enqueue_mirrors host _) fun _ => .pure event
    · simp only [silent, isAsync, if_false, Bool.false_eq_true]
      exact .bind (((Host.notify_mirrors host _).carrying event).onSecond) fun _ => .pure _

theorem work_mirrors (host : Host σ ι μ) (job : Job) :
    (work host.recorded job : Attempt _ ε _).Mirrors Prod.fst (work host job) := by
  refine
    .bind (((Host.notify_mirrors host job.listeners).carrying job.event).settle) fun settled => ?_
  cases settled <;> exact .pure _

theorem workAll_mirrors (host : Host σ ι μ) (jobs : List Job) :
    (workAll host.recorded jobs : Attempt _ ε _).Mirrors Prod.fst (workAll host jobs) := by
  induction jobs with
  | nil => exact .pure []
  | cons job jobs inductionHypothesis =>
      exact .bind (work_mirrors host job) fun _ => .bind inductionHypothesis fun _ => .pure _

theorem shutdown_mirrors (host : Host σ ι μ) :
    (shutdown host.recorded : Attempt _ ε _).Mirrors unrecorded (shutdown host) := by
  have works (count : Nat) :
      (workTurn host.recorded count : Attempt _ ε _).Mirrors unrecorded (workTurn host count) := by
    refine .bind (.reading fun _ => rfl) fun worker => ?_
    match worker with
    | none => exact .pure _
    | some .ended => exact .pure _
    | some (.running queue) =>
        refine .bind (workAll_mirrors host _).onSecond fun warnings => .changing ?_
        exact fun _ => rfl
  refine .bind (.bind (.reading fun _ => rfl) works) fun warnings => ?_
  exact .bind (.reading fun _ => rfl) fun worker => .changing fun _ => rfl

theorem perform_mirrors (host : Host σ ι μ) (call : BusCall) :
    (perform host.recorded call).Mirrors unrecorded (perform host call) := by
  cases call with
  | register event className priority =>
      intro state
      rfl
  | dispatch event => exact .bind (dispatch_mirrors host event).settle fun _ => .pure _
  | shutdown => exact .bind (shutdown_mirrors host) fun _ => .pure _

/-- Whatever is asked of a bus comes to the same with the calls of its listeners recorded. -/
theorem performAll_mirrors (host : Host σ ι μ) (calls : List BusCall) :
    (performAll host.recorded calls).Mirrors unrecorded (performAll host calls) := by
  induction calls with
  | nil => exact .pure _
  | cons call calls inductionHypothesis =>
      exact .bind (perform_mirrors host call) fun _ => .bind inductionHypothesis fun _ => .pure _

end EventBus

namespace Hand

/-- What is in hand, without what is only there for the log. -/
def unrecorded : Hand (String × ι) → Hand ι
  | .idle => .idle
  | .notifying identifier event classNames => .notifying identifier event classNames
  | .calling identifier event className object classNames =>
      .calling identifier event className object.2 classNames

variable {host : Host σ ι μ} {hand : Hand (String × ι)} {warnings : List Warning}

/-- A step with the job in hand is a step without the log. -/
theorem Works.unrecorded
    {handAfter : Hand (String × ι)}
    {before after : σ × List ListenerCall}
    (works : Works host.recorded (hand, before) warnings (handAfter, after)) :
    Works host (hand.unrecorded, before.1) warnings (handAfter.unrecorded, after.1) := by
  cases works with
  | done ends => exact .done ends
  | unbuilt going built => exact .unbuilt going (Host.build_of_recorded built)
  | built going built => exact .built going (Host.build_of_recorded built)
  | heard called =>
      exact .heard (((Host.callObject_mirrors host _ _ _).eq_some_iff (_, _)).mpr ⟨_, called, rfl⟩)
  | failed called =>
      exact .failed
        (((Host.callObject_mirrors host _ _ _).eq_some_iff (_, _)).mpr ⟨_, called, rfl⟩)

/-- A step without the log can be recorded. -/
theorem Works.recorded
    {handAfter : Hand ι}
    {before : σ × List ListenerCall}
    {after : σ}
    (works : Works host (hand.unrecorded, before.1) warnings (handAfter, after)) :
    ∃ recorded log, Works host.recorded (hand, before) warnings (recorded, (after, log)) ∧
      recorded.unrecorded = handAfter := by
  cases hand with
  | idle => cases works
  | notifying identifier event classNames =>
      cases works with
      | done ends => exact ⟨_, _, .done ends, rfl⟩
      | unbuilt going built => exact ⟨_, _, .unbuilt going (Host.recorded_of_build built), rfl⟩
      | built going built => exact ⟨_, _, .built going (Host.recorded_of_build built), rfl⟩
  | calling identifier event className object classNames =>
      have mirrors := Host.callObject_mirrors host identifier className object
      cases works with
      | heard called =>
          obtain ⟨⟨left, state, log⟩, calledToo, same⟩ :=
            (mirrors.eq_some_iff (event, before)).mp called
          cases same
          exact ⟨_, _, .heard calledToo, rfl⟩
      | failed called =>
          obtain ⟨⟨left, state, log⟩, calledToo, same⟩ :=
            (mirrors.eq_some_iff (event, before)).mp called
          cases same
          exact ⟨_, _, .failed calledToo, rfl⟩

end Hand

namespace Scene

/-- A scene without the log. -/
def unrecorded (scene : Scene (σ × List ListenerCall) (String × ι)) : Scene σ ι where
  bus := scene.bus
  closing := scene.closing
  hand := scene.hand.unrecorded
  state := scene.state.1
  warnings := scene.warnings
  answers := scene.answers
  calls := scene.calls

theorem idle_of_unrecorded
    {scene : Scene (σ × List ListenerCall) (String × ι)}
    (idle : scene.unrecorded.hand = .idle) :
    scene.hand = .idle := by
  unfold unrecorded Hand.unrecorded at idle
  cases held : scene.hand <;> rw [held] at idle <;> first | rfl | cases idle

variable {host : Host σ ι μ} {before : Scene (σ × List ListenerCall) (String × ι)}

/-- A step is a step without the log. -/
theorem Step.unrecorded
    {after : Scene (σ × List ListenerCall) (String × ι)}
    (step : Step host.recorded before after) :
    Step host before.unrecorded after.unrecorded := by
  cases step with
  | registered free next => exact .registered free next
  | dispatched free next ended =>
      exact .dispatched free next
        (((EventBus.dispatch_mirrors host _).eq_some_iff (_, _)).mpr ⟨_, ended, rfl⟩)
  | closed free next running => exact .closed free next running
  | passed free next still ended =>
      exact .passed free next still
        (((EventBus.shutdown_mirrors host).eq_some_iff (_, _)).mpr ⟨_, ended, rfl⟩)
  | returned waits idle => exact .returned waits (congrArg Hand.unrecorded idle)
  | took idle running => exact .took (congrArg Hand.unrecorded idle) running
  | tookLate idle waits => exact .tookLate (congrArg Hand.unrecorded idle) waits
  | worked works => exact .worked works.unrecorded

/-- A step without the log can be recorded. -/
theorem Step.recorded
    {after : Scene σ ι}
    (step : Step host before.unrecorded after) :
    ∃ recorded, Step host.recorded before recorded ∧ recorded.unrecorded = after := by
  cases step with
  | registered free next => exact ⟨_, .registered free next, rfl⟩
  | dispatched free next ended =>
      obtain ⟨⟨bus, state, log⟩, endedToo, same⟩ :=
        ((EventBus.dispatch_mirrors host _).eq_some_iff (before.bus, before.state)).mp ended
      cases same
      exact ⟨_, .dispatched free next endedToo, rfl⟩
  | closed free next running => exact ⟨_, .closed free next running, rfl⟩
  | passed free next still ended =>
      obtain ⟨⟨bus, state, log⟩, endedToo, same⟩ :=
        ((EventBus.shutdown_mirrors host).eq_some_iff (before.bus, before.state)).mp ended
      cases same
      exact ⟨_, .passed free next still endedToo, rfl⟩
  | returned waits idle => exact ⟨_, .returned waits (idle_of_unrecorded idle), rfl⟩
  | took idle running => exact ⟨_, .took (idle_of_unrecorded idle) running, rfl⟩
  | tookLate idle waits => exact ⟨_, .tookLate (idle_of_unrecorded idle) waits, rfl⟩
  | worked works =>
      obtain ⟨hand, log, worksToo, rfl⟩ := works.recorded
      exact ⟨_, .worked worksToo, rfl⟩

/-- The schedules of a host are those of the recorded one, without the log. -/
theorem reaches_iff_recorded
    (before : Scene (σ × List ListenerCall) (String × ι))
    {scene : Scene σ ι} :
    Reaches host before.unrecorded scene ↔
      ∃ recorded, Reaches host.recorded before recorded ∧ recorded.unrecorded = scene := by
  constructor
  · intro reaches
    induction reaches with
    | refl => exact ⟨before, .refl, rfl⟩
    | tail _ step inductionHypothesis =>
        obtain ⟨between, reachesToo, rfl⟩ := inductionHypothesis
        obtain ⟨recorded, stepToo, rfl⟩ := step.recorded
        exact ⟨recorded, reachesToo.tail stepToo, rfl⟩
  · rintro ⟨recorded, reaches, rfl⟩
    exact reaches.lift unrecorded fun _ _ step => step.unrecorded

end Scene

namespace EventBus

/-- What a scene shows of a bus whose caller has made some calls, compared with the same calls on
a synchronous bus. -/
structure Agrees
    (host : Host σ ι μ)
    (bus sync : EventBus)
    (start : σ)
    (made : List BusCall)
    (scene : Scene σ ι) :
    Prop where
  /-- The answers so far give every event back as it was. -/
  unchanged : scene.answers ++ scene.owed = made.map BusCall.unchanged
  /-- What is in hand and what is queued is what is left of the jobs of the calls. -/
  rest :
    scene.rest host scene.state =
      (workAll host (bus.jobsOf made) : Attempt σ Empty (List Warning)) start
  /-- When a shutdown has returned nothing is left, and everything has happened that happens on
  the synchronous bus, with a warning for each dispatch that fails there. -/
  settled : made.getLast? = some .shutdown → scene.closing = none →
    scene.hand = .idle ∧ scene.bus.worker = none ∧
      ∃ answers,
        performAll host made (sync, start) =
            some (.ok (answers, []), (sync.registering made, scene.state)) ∧
          scene.warnings = answers.filterMap BusAnswer.failure?

variable {host : Host σ ι μ} {bus sync : EventBus} {start : σ} {made : List BusCall}

theorem agrees_of_tracks
    (isSync : sync.isAsync = false)
    (noWorker : sync.worker = none)
    (alike : sync.registrations = bus.registrations)
    {scene : Scene σ ι}
    (tracks : scene.Tracks host bus start made) :
    Agrees host bus sync start made scene where
  unchanged := tracks.answers
  rest := tracks.rest
  settled := by
    intro isLast free
    obtain ⟨idle, dismissed, worked⟩ := tracks.settled isLast free
    rw [← jobsOf_congr alike] at worked
    obtain ⟨answers, performed, same⟩ := performAll_of_workAll isSync noWorker worked
    exact ⟨idle, dismissed, answers, performed, Except.ok.inj same⟩

namespace Example

/-- The host of listeners that write their class into a log, where work can be done in the
background. -/
def backgroundHost : Host (List String) String Unit :=
  { Example.host with hasBackground := true }

/-- The configuration of a process that dispatches in the background. -/
def backgroundConfig : Config :=
  { Config.initial with context := .commandLine, asyncEvents := true }

/-- Two dispatches, the second of which fails at a class that is no listener, and one after a
shutdown. -/
def calls : List BusCall :=
  [.register "ping" "First" none, .dispatch (.named "ping" ""), .register "*" "Mute" none,
    .dispatch (.named "ping" ""), .shutdown, .register "*" "Late" none,
    .dispatch (.named "pong" ""), .shutdown]

end Example

end EventBus

end Switchboard
