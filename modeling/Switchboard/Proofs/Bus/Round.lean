import Switchboard.Bus.EventBus
import Switchboard.Proofs.Attempt.Finishes

namespace Switchboard

/-!
# Rounds of listeners

A round takes an event through a list of listener classes.  Each class has one turn, in which it
is built and called, and the next one gets the event as this one left it.  `notify_eq_some` says
that notifying listeners is such a round: a first part of the classes has turns, and the round is
over with the classes, with a stopped event or with a turn that fails.
-/

variable {σ ι μ : Type}

namespace Host

/-- How the turn of a listener class goes, from an event and a state to others. -/
inductive Turn (host : Host σ ι μ) (identifier className : String) :
    Event × σ → Except BusError Unit → Event × σ → Prop
  | unbuilt
      {event : Event}
      {before after : σ}
      {error : BuildError}
      (built : host.build className before = some (.error error, after)) :
      Turn host identifier className (event, before)
        (.error (.build className error)) (event, after)
  | deaf
      {event : Event}
      {before after : σ}
      {object : ι}
      (built : host.build className before = some (.ok object, after))
      (listens : host.listening? object = none) :
      Turn host identifier className (event, before)
        (.error (.notAListener className)) (event, after)
  | failed
      {event : Event}
      {before between : σ}
      {object : ι}
      {react : Attempt (Event × σ) Failure Unit}
      {failure : Failure}
      {final : Event × σ}
      (built : host.build className before = some (.ok object, between))
      (listens : host.listening? object = some react)
      (reacted : react (event, between) = some (.error failure, final)) :
      Turn host identifier className (event, before)
        (.error (.listener identifier className failure)) final
  | heard
      {event : Event}
      {before between : σ}
      {object : ι}
      {react : Attempt (Event × σ) Failure Unit}
      {final : Event × σ}
      (built : host.build className before = some (.ok object, between))
      (listens : host.listening? object = some react)
      (reacted : react (event, between) = some (.ok (), final)) :
      Turn host identifier className (event, before) (.ok ()) final

/-- Turns one after another that all succeed, none of which begins with a stopped event. -/
inductive Turns (host : Host σ ι μ) (identifier : String) :
    List String → Event × σ → Event × σ → Prop
  | nil {start : Event × σ} : Turns host identifier [] start start
  | cons
      {className : String}
      {classNames : List String}
      {start between final : Event × σ}
      (going : start.1.isStopped = false)
      (turn : host.Turn identifier className start (.ok ()) between)
      (rest : Turns host identifier classNames between final) :
      Turns host identifier (className :: classNames) start final

/-- A round in which the classes `called` have turns and the classes `rest` after them do not. -/
inductive Round (host : Host σ ι μ) (identifier : String) (start : Event × σ) :
    List String → List String → Except BusError Unit → Event × σ → Prop
  | through
      {called rest : List String}
      {final : Event × σ}
      (turns : host.Turns identifier called start final)
      (ends : rest = [] ∨ final.1.isStopped = true) :
      Round host identifier start called rest (.ok ()) final
  | broken
      {called rest : List String}
      {className : String}
      {between final : Event × σ}
      {error : BusError}
      (turns : host.Turns identifier called start between)
      (going : between.1.isStopped = false)
      (turn : host.Turn identifier className between (.error error) final) :
      Round host identifier start (called ++ [className]) rest (.error error) final

variable {host : Host σ ι μ} {identifier : String}

theorem callListener_eq_some
    {className : String}
    {start final : Event × σ}
    {outcome : Except BusError Unit} :
    host.callListener identifier className start = some (outcome, final) ↔
      host.Turn identifier className start outcome final := by
  obtain ⟨event, before⟩ := start
  unfold callListener
  rw [Attempt.bind_eq_some]
  constructor
  · rintro (⟨error, refused, rfl⟩ | ⟨object, between, went, rest⟩)
    · obtain ⟨after, ended, rfl⟩ := Attempt.focus_eq_some.mp refused
      obtain ⟨cause, built, rfl⟩ := Attempt.mapError_eq_error.mp ended
      exact .unbuilt built
    · obtain ⟨after, ended, rfl⟩ := Attempt.focus_eq_some.mp went
      have built := Attempt.mapError_eq_ok.mp ended
      cases listens : host.listening? object with
      | none =>
          rw [listens] at rest
          cases rest
          exact .deaf built listens
      | some react =>
          rw [listens] at rest
          obtain ⟨first, reacted, rfl⟩ := Attempt.mapError_eq_some.mp rest
          cases first with
          | error failure => exact .failed built listens reacted
          | ok value => exact .heard built listens reacted
  · intro turn
    cases turn with
    | unbuilt built =>
        refine .inl ⟨_, ?_, rfl⟩
        exact Attempt.focus_eq_some.mpr ⟨_, Attempt.mapError_eq_error.mpr ⟨_, built, rfl⟩, rfl⟩
    | deaf built listens =>
        refine .inr ⟨_, _, Attempt.focus_eq_some.mpr ⟨_, Attempt.mapError_eq_ok.mpr built, rfl⟩, ?_⟩
        rw [listens]
        rfl
    | failed built listens reacted =>
        refine .inr ⟨_, _, Attempt.focus_eq_some.mpr ⟨_, Attempt.mapError_eq_ok.mpr built, rfl⟩, ?_⟩
        rw [listens]
        exact Attempt.mapError_eq_error.mpr ⟨_, reacted, rfl⟩
    | heard built listens reacted =>
        refine .inr ⟨_, _, Attempt.focus_eq_some.mpr ⟨_, Attempt.mapError_eq_ok.mpr built, rfl⟩, ?_⟩
        rw [listens]
        exact Attempt.mapError_eq_ok.mpr reacted

/-- A turn in front of a round makes a longer round. -/
theorem Round.cons
    {className : String}
    {called rest : List String}
    {start between final : Event × σ}
    {outcome : Except BusError Unit}
    (going : start.1.isStopped = false)
    (turn : host.Turn identifier className start (.ok ()) between)
    (round : host.Round identifier between called rest outcome final) :
    host.Round identifier start (className :: called) rest outcome final := by
  cases round with
  | through turns ends => exact .through (.cons going turn turns) ends
  | broken turns goingOn turnOfLast => exact .broken (.cons going turn turns) goingOn turnOfLast

/-- A turn depends on how its own class is built only. -/
theorem Turn.of_agreeing
    {other : Host σ ι μ}
    {className : String}
    {start final : Event × σ}
    {outcome : Except BusError Unit}
    (listens : other.listening? = host.listening?)
    (builds : other.build className = host.build className)
    (turn : host.Turn identifier className start outcome final) :
    other.Turn identifier className start outcome final := by
  cases turn with
  | unbuilt built => exact .unbuilt (builds ▸ built)
  | deaf built deaf => exact .deaf (builds ▸ built) (listens ▸ deaf)
  | failed built hears reacted => exact .failed (builds ▸ built) (listens ▸ hears) reacted
  | heard built hears reacted => exact .heard (builds ▸ built) (listens ▸ hears) reacted

theorem Turns.of_agreeing
    {other : Host σ ι μ}
    {classNames : List String}
    {start final : Event × σ}
    (listens : other.listening? = host.listening?)
    (builds : ∀ className ∈ classNames, other.build className = host.build className)
    (turns : host.Turns identifier classNames start final) :
    other.Turns identifier classNames start final := by
  induction turns with
  | nil => exact .nil
  | cons going turn _ inductionHypothesis =>
      exact .cons going
        (turn.of_agreeing listens (builds _ List.mem_cons_self))
        (inductionHypothesis fun className member =>
          builds className (List.mem_cons_of_mem _ member))

/-- Classes without a turn are neither built nor called: a round goes the same way on every host
that builds those with a turn alike. -/
theorem Round.of_agreeing
    {other : Host σ ι μ}
    {called rest : List String}
    {start final : Event × σ}
    {outcome : Except BusError Unit}
    (listens : other.listening? = host.listening?)
    (builds : ∀ className ∈ called, other.build className = host.build className)
    (round : host.Round identifier start called rest outcome final) :
    other.Round identifier start called rest outcome final := by
  cases round with
  | through turns ends => exact .through (turns.of_agreeing listens builds) ends
  | broken turns going turn =>
      refine .broken (turns.of_agreeing listens fun className member => ?_) going
        (turn.of_agreeing listens (builds _ ?_))
      · exact builds className (List.mem_append_left _ member)
      · exact List.mem_append_right _ List.mem_cons_self

/-- An event that is stopped already reaches nobody. -/
theorem Round.of_stopped
    {called rest : List String}
    {start final : Event × σ}
    {outcome : Except BusError Unit}
    (isStopped : start.1.isStopped = true)
    (round : host.Round identifier start called rest outcome final) :
    called = [] ∧ outcome = .ok () ∧ final = start := by
  have noTurns {classNames : List String} {after : Event × σ} :
      host.Turns identifier classNames start after → classNames = [] ∧ after = start := by
    intro turns
    cases turns with
    | nil => exact ⟨rfl, rfl⟩
    | cons going _ _ => cases isStopped.symm.trans going
  cases round with
  | through turns _ =>
      obtain ⟨rfl, rfl⟩ := noTurns turns
      exact ⟨rfl, rfl, rfl⟩
  | broken turns going _ =>
      obtain ⟨_, rfl⟩ := noTurns turns
      cases isStopped.symm.trans going

/-- A round that neither fails nor stops the event leaves nobody out. -/
theorem Round.rest_eq_nil
    {called rest : List String}
    {start final : Event × σ}
    (going : final.1.isStopped = false)
    (round : host.Round identifier start called rest (.ok ()) final) :
    rest = [] := by
  cases round with
  | through _ ends =>
      rcases ends with isNil | isStopped
      · exact isNil
      · cases going.symm.trans isStopped

theorem callListeners_eq_some
    {classNames : List String}
    {start final : Event × σ}
    {outcome : Except BusError Unit} :
    host.callListeners identifier classNames start = some (outcome, final) ↔
      ∃ called rest,
        classNames = called ++ rest ∧
          host.Round identifier start called rest outcome final := by
  -- the recursion looks at the event first, so a stopped one is apart from the first turn
  induction classNames generalizing start with
  | nil =>
      constructor
      · intro ended
        cases ended
        exact ⟨[], [], rfl, .through .nil (.inl rfl)⟩
      · rintro ⟨called, rest, split, round⟩
        obtain ⟨rfl, rfl⟩ := List.append_eq_nil_iff.mp split.symm
        generalize noCalls : ([] : List String) = called at round
        cases round with
        | through turns _ =>
            subst noCalls
            cases turns
            rfl
        | broken => simp at noCalls
  | cons className classNames inductionHypothesis =>
      simp only [callListeners, Attempt.reading_bind]
      cases isStopped : start.1.isStopped with
      | true =>
          simp only [if_true, Attempt.run_pure]
          constructor
          · intro ended
            cases ended
            exact ⟨[], className :: classNames, rfl, .through .nil (.inr isStopped)⟩
          · rintro ⟨called, rest, _, round⟩
            obtain ⟨_, rfl, rfl⟩ := round.of_stopped isStopped
            rfl
      | false =>
          simp only [Bool.false_eq_true, if_false, Attempt.bind_eq_some, callListener_eq_some]
          constructor
          · rintro (⟨error, turn, rfl⟩ | ⟨_, between, turn, ended⟩)
            · exact ⟨[] ++ [className], classNames, rfl, .broken .nil isStopped turn⟩
            · obtain ⟨called, rest, rfl, round⟩ := inductionHypothesis.mp ended
              exact ⟨className :: called, rest, rfl, round.cons isStopped turn⟩
          · rintro ⟨called, rest, split, round⟩
            cases round with
            | through turns ends =>
                cases turns with
                | nil =>
                    rcases ends with rfl | stops
                    · cases split
                    · cases isStopped.symm.trans stops
                | cons going turn turns =>
                    obtain ⟨rfl, rfl⟩ := List.cons.inj split
                    exact .inr ⟨(), _, turn,
                      inductionHypothesis.mpr ⟨_, _, rfl, .through turns ends⟩⟩
            | broken turns goingOn turnOfLast =>
                cases turns with
                | nil =>
                    obtain ⟨rfl, rfl⟩ := List.cons.inj split
                    exact .inl ⟨_, turnOfLast, rfl⟩
                | cons going turn turns =>
                    obtain ⟨rfl, rfl⟩ := List.cons.inj split
                    exact .inr ⟨(), _, turn,
                      inductionHypothesis.mpr ⟨_, _, rfl, .broken turns goingOn turnOfLast⟩⟩

/-- Notifying listeners is a round, in which errors name the event as it came. -/
theorem notify_eq_some
    {classNames : List String}
    {start final : Event × σ}
    {outcome : Except BusError Unit} :
    host.notify classNames start = some (outcome, final) ↔
      ∃ called rest,
        classNames = called ++ rest ∧
          host.Round start.1.identifier start called rest outcome final :=
  callListeners_eq_some

/-- Everything that a host is asked to do comes to an end. -/
structure Finishes (host : Host σ ι μ) : Prop where
  build : ∀ className, (host.build className).Finishes
  handling : ∀ object handle message,
    host.handling? object = some handle → (handle message).Finishes
  listening : ∀ object react, host.listening? object = some react → react.Finishes

theorem Finishes.within
    {τ : Type}
    (finishes : host.Finishes)
    (view : τ → σ)
    (update : σ → τ → τ) :
    (host.within view update).Finishes where
  build className := (finishes.build className).focus _ _
  handling := by
    intro object handle message found
    obtain ⟨inner, foundInner, rfl⟩ := Option.map_eq_some_iff.mp found
    exact (finishes.handling object inner message foundInner).focus _ _
  listening := by
    intro object react found
    obtain ⟨inner, foundInner, rfl⟩ := Option.map_eq_some_iff.mp found
    exact (finishes.listening object inner foundInner).focus _ _

/-- Notifying listeners finishes if building and calling each of them does. -/
theorem Finishes.notify
    (finishes : host.Finishes)
    (classNames : List String) :
    (host.notify classNames).Finishes := by
  have calls (identifier className : String) :
      (host.callListener identifier className).Finishes := by
    refine .bind (((finishes.build className).mapError _).focus _ _) fun object => ?_
    cases listens : host.listening? object with
    | none => exact .fail _
    | some react => exact (finishes.listening object react listens).mapError _
  have callsAll (identifier : String) :
      (host.callListeners identifier classNames).Finishes := by
    induction classNames with
    | nil => exact .pure ()
    | cons className classNames inductionHypothesis =>
        refine .bind (.reading _) fun isStopped => ?_
        cases isStopped with
        | true => exact .pure ()
        | false => exact .bind (calls identifier className) fun _ => inductionHypothesis
  exact .bind (.reading _) callsAll

end Host

end Switchboard
