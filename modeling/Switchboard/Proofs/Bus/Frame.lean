import Switchboard.Bus.Exchange
import Switchboard.Proofs.Attempt.Moves

namespace Switchboard

/-!
# What buses do to the state of their host

Buses touch the state of their host only through the host: by building handlers and listeners and
by running them.  If all of that stays within a relation between states, so does everything that
buses do, on whichever bus, in the foreground or in the background.
-/

variable {σ ι μ ε : Type}

/-- Everything that a host does stays within a relation between its states. -/
structure Host.Keeps (host : Host σ ι μ) (relates : σ → σ → Prop) : Prop where
  refl : ∀ state, relates state state
  trans : ∀ first second third,
    relates first second → relates second third → relates first third
  build : ∀ className, (host.build className).Moves relates
  handling : ∀ object handle message,
    host.handling? object = some handle → (handle message).Moves relates
  listening : ∀ object react,
    host.listening? object = some react → react.Moves (Beside relates)

namespace Host.Keeps

variable {host : Host σ ι μ} {relates : σ → σ → Prop}

theorem reflBeside
    {τ : Type}
    (keeps : host.Keeps relates)
    (pair : τ × σ) :
    Beside relates pair pair :=
  Beside.refl keeps.refl pair

theorem transBeside
    {τ : Type}
    (keeps : host.Keeps relates)
    (first second third : τ × σ)
    (earlier : Beside relates first second)
    (later : Beside relates second third) :
    Beside relates first third :=
  Beside.trans keeps.trans first second third earlier later

/-- A host over a part of a larger state keeps the relation between the parts. -/
theorem within
    {τ : Type}
    {view : τ → σ}
    {update : σ → τ → τ}
    (keeps : host.Keeps relates)
    (lens : ∀ part whole, view (update part whole) = part) :
    (host.within view update).Keeps fun before after => relates (view before) (view after) where
  refl _ := keeps.refl _
  trans _ _ _ := keeps.trans _ _ _
  build className := (keeps.build className).focus lens
  handling := by
    intro object handle message found
    obtain ⟨inner, foundInner, rfl⟩ := Option.map_eq_some_iff.mp found
    exact (keeps.handling object inner message foundInner).focus lens
  listening := by
    intro object react found
    obtain ⟨inner, foundInner, rfl⟩ := Option.map_eq_some_iff.mp found
    intro state outcome after ended
    obtain ⟨part, went, rfl⟩ := Attempt.focus_eq_some.mp ended
    have related := keeps.listening object inner foundInner _ _ _ went
    simpa only [Beside, lens] using related

theorem callListeners
    (keeps : host.Keeps relates)
    (identifier : String)
    (classNames : List String) :
    (host.callListeners identifier classNames).Moves (Beside relates) := by
  have calls (className : String) :
      (host.callListener identifier className).Moves (Beside relates) := by
    refine .bind keeps.transBeside ((keeps.build className).mapError _).onSecond fun object => ?_
    cases found : host.listening? object with
    | none => exact .fail keeps.reflBeside _
    | some react => exact (keeps.listening object react found).mapError _
  induction classNames with
  | nil => exact .pure keeps.reflBeside ()
  | cons className classNames inductionHypothesis =>
      refine .bind keeps.transBeside (.reading keeps.reflBeside _) fun isStopped => ?_
      cases isStopped with
      | true => exact .pure keeps.reflBeside ()
      | false => exact .bind keeps.transBeside (calls className) fun _ => inductionHypothesis

/-- Notifying listeners stays within the relation. -/
theorem notify
    (keeps : host.Keeps relates)
    (classNames : List String) :
    (host.notify classNames).Moves (Beside relates) :=
  .bind keeps.transBeside (.reading keeps.reflBeside _) fun identifier =>
    keeps.callListeners identifier classNames

theorem dispatchEvent
    (keeps : host.Keeps relates)
    (event : Event) :
    (EventBus.dispatch host event).Moves (Beside relates) := by
  have enqueues (job : Job) : (EventBus.enqueue host job).Moves (Beside relates) := by
    intro state outcome after ended
    unfold EventBus.enqueue at ended
    split at ended <;> cases ended <;> exact keeps.refl _
  refine .bind keeps.transBeside (.reading keeps.reflBeside _) fun bus => ?_
  by_cases silent : (bus.listenersFor event.identifier).isEmpty = true
  · simp only [silent, if_true]
    exact .pure keeps.reflBeside event
  · by_cases isAsync : bus.isAsync = true
    · simp only [silent, isAsync, if_true, if_false, Bool.false_eq_true]
      exact .bind keeps.transBeside (enqueues _) fun _ => .pure keeps.reflBeside event
    · simp only [silent, isAsync, if_false, Bool.false_eq_true]
      exact .bind keeps.transBeside (keeps.notify _).carrying.onSecond fun _ => .pure keeps.reflBeside _

theorem executeEvent
    [Message μ]
    (keeps : host.Keeps relates)
    (message : μ) :
    (EventBus.execute host message).Moves (Beside relates) := by
  unfold EventBus.execute
  cases Message.event? message with
  | none => exact Attempt.Moves.pure keeps.reflBeside none
  | some event =>
      exact Attempt.Moves.bind keeps.transBeside (keeps.dispatchEvent event) fun _ =>
        .pure keeps.reflBeside _

theorem workTurn
    (keeps : host.Keeps relates)
    (count : Nat) :
    (EventBus.workTurn host count : Attempt (EventBus × σ) ε (List Warning)).Moves
      (Beside relates) := by
  have works (job : Job) :
      (EventBus.work host job : Attempt σ ε (List Warning)).Moves relates := by
    refine .bind keeps.trans (keeps.notify _).carrying.settle fun outcome => ?_
    cases outcome <;> exact .pure keeps.refl _
  have worksAll (jobs : List Job) :
      (EventBus.workAll host jobs : Attempt σ ε (List Warning)).Moves relates := by
    induction jobs with
    | nil => exact .pure keeps.refl []
    | cons job jobs inductionHypothesis =>
        exact .bind keeps.trans (works job) fun _ =>
          .bind keeps.trans inductionHypothesis fun _ => .pure keeps.refl _
  refine .bind keeps.transBeside (.reading keeps.reflBeside _) fun worker => ?_
  split
  · exact .bind keeps.transBeside (worksAll _).onSecond fun _ => .changing fun _ => keeps.refl _
  · exact .pure keeps.reflBeside []

theorem shutdownWorker (keeps : host.Keeps relates) :
    (EventBus.shutdown host : Attempt (EventBus × σ) ε (List Warning)).Moves
      (Beside relates) := by
  have drains :
      (EventBus.drain host : Attempt (EventBus × σ) ε (List Warning)).Moves
        (Beside relates) :=
    .bind keeps.transBeside (.reading keeps.reflBeside _) fun _ => keeps.workTurn _
  exact .bind keeps.transBeside drains fun _ =>
    .bind keeps.transBeside (.reading keeps.reflBeside _) fun _ => .changing fun _ => keeps.refl _

/-- Work on one event bus of an exchange stays within the relation if it does so by itself. -/
theorem onEventBus
    {α : Type}
    {id : EventBusId}
    {attempt : Attempt (EventBus × σ) ε α}
    (moves : attempt.Moves (Beside relates)) :
    (Exchange.onEventBus id attempt).Moves (Beside relates) := by
  intro state outcome after ended
  obtain ⟨part, went, rfl⟩ := Attempt.focus_eq_some.mp ended
  exact moves _ _ _ went

theorem dispatch
    (keeps : host.Keeps relates)
    (id : EventBusId)
    (event : Event) :
    (Exchange.dispatch host id event).Moves (Beside relates) :=
  onEventBus (keeps.dispatchEvent event)

/-- What a built handler does is what a host says of some object. -/
theorem handling_of_buildHandler
    [Message μ]
    {className : String}
    {state after : σ}
    {handle : μ → Attempt σ Failure μ}
    (built : MessageBus.buildHandler host className state = some (.ok handle, after)) :
    ∃ object, host.handling? object = some handle := by
  obtain ⟨object, between, _, rest⟩ := Attempt.bind_eq_ok.mp built
  cases found : host.handling? object with
  | none =>
      rw [found] at rest
      cases rest
  | some other =>
      rw [found] at rest
      cases rest
      exact ⟨object, found⟩

/-- Running a message stays within the relation if reporting events does. -/
theorem executeMessage
    [Message μ]
    (keeps : host.Keeps relates)
    {report : Event → Attempt σ BusError Event}
    (reports : ∀ event, (report event).Moves relates)
    (bus : MessageBus)
    (message : μ) :
    (bus.execute host report message).Moves relates := by
  have steps (step identifier : String) :
      (bus.reportStep host report step identifier).Moves relates :=
    .bind keeps.trans (.reading keeps.refl _) fun _ => reports _
  have builds (className : String) :
      (MessageBus.buildHandler host className).Moves relates := by
    refine .bind keeps.trans ((keeps.build className).mapError _) fun object => ?_
    cases host.handling? object with
    | none => exact .fail keeps.refl _
    | some handle => exact .pure keeps.refl handle
  refine .bind keeps.trans (.ofExcept keeps.refl _) fun className => ?_
  refine .bindOn keeps.trans (builds className) fun handle state between built => ?_
  obtain ⟨object, found⟩ := handling_of_buildHandler built
  exact .bind keeps.trans (steps _ _) fun _ =>
    .bind keeps.trans ((keeps.handling object handle message found).mapError _) fun _ =>
      .bind keeps.trans (steps _ _) fun _ => .pure keeps.refl _

theorem execute
    [Message μ]
    (keeps : host.Keeps relates)
    (id : MessageBusId)
    (message : μ) :
    (Exchange.execute host id message).Moves (Beside relates) := by
  refine .bind keeps.transBeside (.reading keeps.reflBeside _) fun line => ?_
  exact (keeps.within (fun _ _ => rfl)).executeMessage
    (fun event => keeps.dispatch line.events event) line.bus message

theorem takeTurns
    (keeps : host.Keeps relates)
    (turns : List (Share EventBusId)) :
    (Exchange.takeTurns host turns : Attempt (Exchange × σ) ε (List Warning)).Moves
      (Beside relates) := by
  induction turns with
  | nil => exact .pure keeps.reflBeside []
  | cons turn turns inductionHypothesis =>
      exact .bind keeps.transBeside (onEventBus (keeps.workTurn _)) fun _ =>
        .bind keeps.transBeside inductionHypothesis fun _ => .pure keeps.reflBeside _

theorem shutdownEventBus
    (keeps : host.Keeps relates)
    (id : EventBusId) :
    (Exchange.shutdownEventBus host id : Attempt (Exchange × σ) ε (List Warning)).Moves
      (Beside relates) := by
  refine .bind keeps.transBeside (.reading keeps.reflBeside _) fun worker => ?_
  split
  · exact .pure keeps.reflBeside []
  · exact onEventBus keeps.shutdownWorker
  · refine .bind keeps.transBeside (.reading keeps.reflBeside _) fun line => ?_
    exact .bind keeps.transBeside (keeps.takeTurns _) fun _ =>
      .bind keeps.transBeside (onEventBus keeps.shutdownWorker) fun _ =>
        .changing fun _ => keeps.refl _

theorem shutdown (keeps : host.Keeps relates) :
    (Exchange.shutdown host : Attempt (Exchange × σ) ε (List Warning)).Moves
      (Beside relates) := by
  refine .bind keeps.transBeside (.reading keeps.reflBeside _) fun events => ?_
  refine .bind keeps.transBeside (.changing fun _ => keeps.refl _) fun _ => ?_
  cases events with
  | none => exact .pure keeps.reflBeside []
  | some id => exact keeps.shutdownEventBus id

end Host.Keeps

end Switchboard
