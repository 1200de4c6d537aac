import Switchboard.Proofs.Bus.Frame
import Switchboard.Proofs.Bus.Slots

namespace Switchboard

/-!
# Which buses are handed out

Between requests, buses are used in many ways and the exchange is shut down now and then.  No way
of using buses touches the slots of an exchange, which `Used` says, and a shutdown empties them.
`HandingOutLaws` says what this means for every sequence of such dealings.
-/

namespace Exchange

/-- Buses are used: none is made, none is handed out anew, and all stay what they are. -/
structure Used (before after : Exchange) : Prop where
  config : after.config = before.config
  eventBuses : after.eventBuses.length = before.eventBuses.length
  lines : after.lines.map (fun line => (line.bus.kind, line.events)) =
    before.lines.map fun line => (line.bus.kind, line.events)
  events : after.events = before.events
  held : ∀ kind, after.held? kind = before.held? kind

namespace Used

theorem refl (exchange : Exchange) : Used exchange exchange :=
  ⟨rfl, rfl, rfl, rfl, fun _ => rfl⟩

theorem trans
    (first second third : Exchange)
    (earlier : Used first second)
    (later : Used second third) :
    Used first third where
  config := later.config.trans earlier.config
  eventBuses := later.eventBuses.trans earlier.eventBuses
  lines := later.lines.trans earlier.lines
  events := later.events.trans earlier.events
  held kind := (later.held kind).trans (earlier.held kind)

/-- Every message bus is still of its kind, and reports to the same event bus. -/
theorem exists_line
    {before after : Exchange}
    (used : Used before after)
    {id : MessageBusId}
    {line : Line}
    (isLine : before.lines[id]? = some line) :
    ∃ other, after.lines[id]? = some other ∧ other.bus.kind = line.bus.kind ∧
      other.events = line.events := by
  have same := congrArg (fun entries => entries[id]?) used.lines
  simp only [List.getElem?_map, isLine, Option.map_some] at same
  obtain ⟨other, isOther, sameFrame⟩ := Option.map_eq_some_iff.mp same
  exact ⟨other, isOther, congrArg Prod.fst sameFrame, congrArg Prod.snd sameFrame⟩

/-- Whatever becomes of an event bus, no other change is one. -/
theorem setEventBus (exchange : Exchange) (id : EventBusId) (bus : EventBus) :
    Used exchange (exchange.setEventBus id bus) where
  config := rfl
  eventBuses := by simp [Exchange.setEventBus]
  lines := rfl
  events := rfl
  held kind := by cases kind <;> rfl

/-- A message bus may change, too, as long as it stays of its kind. -/
theorem setMessageBus
    (exchange : Exchange)
    (id : MessageBusId)
    (bus : MessageBus)
    (sameKind : bus.kind = (exchange.getLine id).bus.kind) :
    Used exchange (exchange.setMessageBus id bus) where
  config := rfl
  eventBuses := rfl
  lines := by
    by_cases inRange : id < exchange.lines.length
    · apply List.ext_getElem?
      intro place
      have isLine : exchange.getLine id = exchange.lines[id] := by
        simp [getLine, inRange]
      by_cases same : id = place
      · subst same
        simp [Exchange.setMessageBus, inRange, sameKind, isLine]
      · simp [Exchange.setMessageBus, same]
    · have untouched := List.set_eq_of_length_le (a := { exchange.getLine id with bus := bus })
        (Nat.le_of_not_lt inRange)
      simp only [Exchange.setMessageBus, untouched]
  events := rfl
  held kind := by cases kind <;> rfl

theorem noteAwake (exchange : Exchange) (id : EventBusId) :
    Used exchange (exchange.noteAwake id) := by
  unfold Exchange.noteAwake
  split
  · exact ⟨rfl, rfl, rfl, rfl, fun kind => by cases kind <;> rfl⟩
  · exact .refl exchange

theorem loseWorkers (exchange : Exchange) : Used exchange exchange.loseWorkers where
  config := rfl
  eventBuses := by simp [Exchange.loseWorkers]
  lines := rfl
  events := rfl
  held kind := by cases kind <;> rfl

end Used

variable {σ ι μ ε α : Type}

/-- The same for an exchange and the state of a host. -/
def Using (before after : Exchange × σ) : Prop :=
  Used before.1 after.1

theorem Using.refl (state : Exchange × σ) : Using state state :=
  Used.refl state.1

theorem Using.trans
    (first second third : Exchange × σ)
    (earlier : Using first second)
    (later : Using second third) :
    Using first third :=
  Used.trans first.1 second.1 third.1 earlier later

/-- Whatever is done on one event bus uses it. -/
theorem using_onEventBus (id : EventBusId) (attempt : Attempt (EventBus × σ) ε α) :
    (onEventBus id attempt).Moves Using := by
  intro state outcome after ended
  obtain ⟨part, _, rfl⟩ := Attempt.focus_eq_some.mp ended
  exact Used.trans _ _ _ (.setEventBus _ _ _) (.noteAwake _ _)

theorem using_dispatch (host : Host σ ι μ) (id : EventBusId) (event : Event) :
    (dispatch host id event).Moves Using :=
  using_onEventBus id _

/-- Handlers and listeners know nothing of the exchange. -/
theorem keeps_using (host : Host σ ι μ) :
    (host.within Prod.snd fun part (state : Exchange × σ) => (state.1, part)).Keeps Using where
  refl := Using.refl
  trans := Using.trans
  build className := by
    intro state outcome after ended
    simp only [Host.within] at ended
    obtain ⟨part, _, rfl⟩ := Attempt.focus_eq_some.mp ended
    exact Used.refl state.1
  handling := by
    intro object handle message found state outcome after ended
    obtain ⟨inner, _, rfl⟩ := Option.map_eq_some_iff.mp found
    obtain ⟨part, _, rfl⟩ := Attempt.focus_eq_some.mp ended
    exact Used.refl state.1
  listening := by
    intro object react found state outcome after ended
    obtain ⟨inner, _, rfl⟩ := Option.map_eq_some_iff.mp found
    obtain ⟨part, _, rfl⟩ := Attempt.focus_eq_some.mp ended
    exact Used.refl state.2.1

/-- Executing a message uses the buses, whatever handlers and listeners do. -/
theorem using_execute
    [Message μ]
    (host : Host σ ι μ)
    (id : MessageBusId)
    (message : μ) :
    (execute host id message).Moves Using := by
  refine .bind Using.trans (.reading Using.refl _) fun line => ?_
  exact (keeps_using host).executeMessage (fun event => using_dispatch host line.events event)
    line.bus message

theorem using_takeTurns (host : Host σ ι μ) (turns : List (Share EventBusId)) :
    (takeTurns host turns : Attempt (Exchange × σ) ε (List Warning)).Moves Using := by
  induction turns with
  | nil => exact .pure Using.refl []
  | cons turn turns inductionHypothesis =>
      exact .bind Using.trans (using_onEventBus _ _) fun _ =>
        .bind Using.trans inductionHypothesis fun _ => .pure Using.refl _

theorem using_shutdownEventBus (host : Host σ ι μ) (id : EventBusId) :
    (shutdownEventBus host id : Attempt (Exchange × σ) ε (List Warning)).Moves Using := by
  refine .bind Using.trans (.reading Using.refl _) fun worker => ?_
  split
  · exact .pure Using.refl []
  · exact using_onEventBus id _
  · refine .bind Using.trans (.reading Using.refl _) fun line => ?_
    exact .bind Using.trans (using_takeTurns host _) fun _ =>
      .bind Using.trans (using_onEventBus id _) fun _ =>
        .changing fun state => ⟨rfl, rfl, rfl, rfl, fun kind => by cases kind <;> rfl⟩

/-- The exchange with all slots empty. -/
def closed (exchange : Exchange) : Exchange :=
  { exchange with events := none, commands := none, queries := none }

/-- Shutting an exchange down empties its slots, and otherwise uses its buses. -/
theorem used_of_shutdown
    {host : Host σ ι μ}
    {state after : Exchange × σ}
    {outcome : Except ε (List Warning)}
    (ended : shutdown host state = some (outcome, after)) :
    Used state.1.closed after.1 := by
  simp only [shutdown, Attempt.reading_bind, Attempt.changing_bind] at ended
  cases isHeld : state.1.events with
  | none =>
      rw [isHeld] at ended
      cases ended
      exact .refl _
  | some id =>
      rw [isHeld] at ended
      exact using_shutdownEventBus host id _ _ _ ended

variable {host : Host σ ι μ}

/-- What is done with an exchange at one time. -/
inductive Dealing where
  /-- Somebody asked for a bus and got an answer. -/
  | asked (request : Request) (answer : Except BusError AnyBus)
  | shutdown
  /-- Buses were used. -/
  | used

/-- One dealing with an exchange and the state of a host. -/
inductive Step (host : Host σ ι μ) : Exchange × σ → Dealing → Exchange × σ → Prop
  | asked
      {request : Request}
      {answer : Except BusError AnyBus}
      {exchange after : Exchange}
      {state : σ}
      (served : request.serve exchange = some (answer, after)) :
      Step host (exchange, state) (.asked request answer) (after, state)
  | shutdown
      {before after : Exchange × σ}
      {outcome : Except Empty (List Warning)}
      (ended : Exchange.shutdown host before = some (outcome, after)) :
      Step host before .shutdown after
  | used
      {before after : Exchange × σ}
      (uses : Using before after) :
      Step host before .used after

/-- Dealings one after the other. -/
inductive Dealings (host : Host σ ι μ) : Exchange × σ → List Dealing → Exchange × σ → Prop
  | done {state : Exchange × σ} : Dealings host state [] state
  | step
      {before between after : Exchange × σ}
      {dealing : Dealing}
      {dealings : List Dealing}
      (first : Step host before dealing between)
      (rest : Dealings host between dealings after) :
      Dealings host before (dealing :: dealings) after

theorem Dealings.split
    {first second : List Dealing}
    {before after : Exchange × σ}
    (dealings : Dealings host before (first ++ second) after) :
    ∃ between, Dealings host before first between ∧ Dealings host between second after := by
  induction first generalizing before with
  | nil => exact ⟨before, .done, dealings⟩
  | cons dealing first inductionHypothesis =>
      cases dealings with
      | step taken rest =>
          obtain ⟨between, earlier, later⟩ := inductionHypothesis rest
          exact ⟨between, .step taken earlier, later⟩

/-- No dealing takes a number back. -/
structure Later (before after : Exchange) : Prop where
  config : after.config = before.config
  eventBuses : before.eventBuses.length ≤ after.eventBuses.length
  lines : before.lines.length ≤ after.lines.length

theorem Later.trans
    {first second third : Exchange}
    (earlier : Later first second)
    (later : Later second third) :
    Later first third where
  config := later.config.trans earlier.config
  eventBuses := Nat.le_trans earlier.eventBuses later.eventBuses
  lines := Nat.le_trans earlier.lines later.lines

theorem Later.has
    {before after : Exchange}
    {bus : AnyBus}
    (later : Later before after)
    (has : before.Has bus) :
    after.Has bus := by
  cases bus with
  | event id => exact Nat.lt_of_lt_of_le has later.eventBuses
  | message kind id => exact Nat.lt_of_lt_of_le has later.lines

theorem Serving.later {before after : Exchange} (serving : Serving before after) :
    Later before after :=
  ⟨serving.config, serving.eventBuses_le, serving.lines_le⟩

theorem Used.later {before after : Exchange} (used : Used before after) :
    Later before after where
  config := used.config
  eventBuses := Nat.le_of_eq used.eventBuses.symm
  lines := by
    have same := congrArg List.length used.lines
    simp only [List.length_map] at same
    exact Nat.le_of_eq same.symm

theorem Used.holds_iff
    {before after : Exchange}
    (used : Used before after)
    (bus : AnyBus) :
    after.Holds bus ↔ before.Holds bus := by
  cases bus with
  | event id => simp only [Holds, used.events]
  | message kind id => simp only [Holds, used.held]

theorem not_holds_closed (exchange : Exchange) (bus : AnyBus) : ¬ exchange.closed.Holds bus := by
  intro holds
  cases bus with
  | event id => cases holds
  | message kind id => cases kind <;> cases holds

theorem Coupled.closed (exchange : Exchange) : Coupled exchange.closed where
  events _ held := nomatch held
  held kind id held := absurd held (not_holds_closed exchange (.message kind id))

theorem Coupled.used
    {before after : Exchange}
    (coupled : Coupled before)
    (used : Used before after) :
    Coupled after where
  events id held := by
    rw [used.events] at held
    rw [used.eventBuses]
    exact coupled.events id held
  held kind id held := by
    rw [used.held] at held
    obtain ⟨line, isLine, ofKind, reports⟩ := coupled.held kind id held
    obtain ⟨other, isOther, sameKind, sameEvents⟩ := used.exists_line isLine
    refine ⟨other, isOther, sameKind.trans ofKind, ?_⟩
    rw [used.events, sameEvents]
    exact reports

namespace Step

variable {before after : Exchange × σ} {dealing : Dealing}

theorem later (step : Step host before dealing after) : Later before.1 after.1 := by
  cases step with
  | asked served => exact (Request.serves_of_serve served).serving.later
  | shutdown ended => exact ⟨(used_of_shutdown ended).later.config,
      (used_of_shutdown ended).later.eventBuses, (used_of_shutdown ended).later.lines⟩
  | used uses => exact Used.later uses

theorem coupled
    (step : Step host before dealing after)
    (coupled : Coupled before.1) :
    Coupled after.1 := by
  cases step with
  | asked served => exact coupled.serves (Request.serves_of_serve served)
  | shutdown ended => exact (Coupled.closed before.1).used (used_of_shutdown ended)
  | used uses => exact coupled.used uses

/-- What is handed out stays so until the exchange is shut down. -/
theorem holds
    {bus : AnyBus}
    (step : Step host before dealing after)
    (isOpen : dealing ≠ .shutdown)
    (holds : before.1.Holds bus) :
    after.1.Holds bus := by
  cases step with
  | asked served => exact (Request.serves_of_serve served).serving.holds_of_holds holds
  | shutdown ended => exact absurd rfl isOpen
  | used uses => exact (Used.holds_iff uses bus).mpr holds

/-- What is handed out was made after some time, if this is so before the step. -/
theorem renewed
    {mark : Exchange}
    (step : Step host before dealing after)
    (isLater : Later mark before.1)
    (renewed : ∀ bus, before.1.Holds bus → ¬ mark.Has bus)
    (bus : AnyBus)
    (holds : after.1.Holds bus) :
    ¬ mark.Has bus := by
  cases step with
  | asked served =>
      rcases (Request.serves_of_serve served).serving.holds holds with earlier | isNew
      · exact renewed bus earlier
      · exact fun has => isNew (isLater.has has)
  | shutdown ended =>
      have stillClosed := ((used_of_shutdown ended).holds_iff bus).mp holds
      exact absurd stillClosed (not_holds_closed before.1 bus)
  | used uses => exact renewed bus ((Used.holds_iff uses bus).mp holds)

end Step

namespace Dealings

variable {before after : Exchange × σ} {dealings : List Dealing}

theorem later (run : Dealings host before dealings after) : Later before.1 after.1 := by
  induction run with
  | done => exact ⟨rfl, Nat.le_refl _, Nat.le_refl _⟩
  | step first _ inductionHypothesis => exact first.later.trans inductionHypothesis

theorem coupled
    (run : Dealings host before dealings after)
    (coupled : Coupled before.1) :
    Coupled after.1 := by
  induction run with
  | done => exact coupled
  | step first _ inductionHypothesis => exact inductionHypothesis (first.coupled coupled)

theorem holds
    {bus : AnyBus}
    (run : Dealings host before dealings after)
    (isOpen : .shutdown ∉ dealings)
    (holds : before.1.Holds bus) :
    after.1.Holds bus := by
  induction run with
  | done => exact holds
  | step first _ inductionHypothesis =>
      have here := first.holds (fun same => isOpen (by simp [same])) holds
      exact inductionHypothesis (fun member => isOpen (List.mem_cons_of_mem _ member)) here

theorem renewed
    {mark : Exchange}
    (run : Dealings host before dealings after)
    (isLater : Later mark before.1)
    (renewed : ∀ bus, before.1.Holds bus → ¬ mark.Has bus)
    (bus : AnyBus)
    (holds : after.1.Holds bus) :
    ¬ mark.Has bus := by
  induction run with
  | done => exact renewed bus holds
  | step first _ inductionHypothesis =>
      exact inductionHypothesis (isLater.trans first.later) (first.renewed isLater renewed) holds

/-- After a shutdown nothing is handed out that had been made before it. -/
theorem renewed_of_shutdown
    (run : Dealings host before dealings after)
    (shutDown : .shutdown ∈ dealings)
    (bus : AnyBus)
    (holds : after.1.Holds bus) :
    ¬ before.1.Has bus := by
  obtain ⟨earlier, rest, rfl⟩ := List.append_of_mem shutDown
  obtain ⟨between, first, second⟩ := run.split
  cases second with
  | @step _ afterwards _ _ _ step rest =>
      have atOnce : ∀ bus, afterwards.1.Holds bus → ¬ between.1.Has bus := by
        cases step with
        | shutdown ended =>
            intro bus holds
            have stillClosed := ((used_of_shutdown ended).holds_iff bus).mp holds
            exact absurd stillClosed (not_holds_closed between.1 bus)
      exact fun has => rest.renewed step.later atOnce bus holds (first.later.has has)

/-- Two requests in a run, with the exchange as it stood then. -/
theorem exists_requests
    {earlier between later : List Dealing}
    {first second : Request}
    {one other : Except BusError AnyBus}
    (run :
      Dealings host before
        (earlier ++ .asked first one :: (between ++ .asked second other :: later)) after) :
    ∃ atFirst afterFirst atSecond afterSecond,
      Dealings host before earlier atFirst ∧
        first.serve atFirst.1 = some (one, afterFirst.1) ∧
        Dealings host afterFirst between atSecond ∧
        second.serve atSecond.1 = some (other, afterSecond) := by
  obtain ⟨atFirst, toFirst, fromFirst⟩ := run.split
  cases fromFirst with
  | @step _ afterFirst _ _ _ taken rest =>
      obtain ⟨atSecond, toSecond, fromSecond⟩ := rest.split
      cases fromSecond with
      | @step _ afterSecond _ _ _ takenToo _ =>
          cases taken with
          | asked served =>
              cases takenToo with
              | asked servedToo =>
                  exact ⟨_, _, _, _, toFirst, served, toSecond, servedToo⟩

/-- Requests for one kind have one answer as long as nothing is shut down. -/
theorem same_answer
    {earlier between later : List Dealing}
    {first second : Request}
    {one other : Except BusError AnyBus}
    (run :
      Dealings host before
        (earlier ++ .asked first one :: (between ++ .asked second other :: later)) after)
    (coupled : Coupled before.1)
    (isOpen : .shutdown ∉ between)
    (sameKind : first.kindName = second.kindName) :
    other = one := by
  obtain ⟨atFirst, afterFirst, atSecond, afterSecond, toFirst, served, toSecond, servedToo⟩ :=
    run.exists_requests
  have serves := Request.serves_of_serve served
  have coupledFirst := (toFirst.coupled coupled).serves serves
  cases one with
  | ok bus =>
      obtain ⟨holds, ofKind⟩ := serves.holds
      have stillHolds := toSecond.holds isOpen holds
      have again := (toSecond.coupled coupledFirst).serve_of_holds stillHolds
        (sameKind.symm.trans ofKind.symm)
      cases servedToo.symm.trans again
      rfl
  | error error =>
      obtain ⟨noEvent, noMessage, rfl⟩ := serves.refusal
      cases Request.serves_of_serve servedToo with
      | event asks => exact absurd (sameKind.trans asks) noEvent
      | message asks => exact absurd (sameKind.trans asks) (noMessage _)
      | refused _ _ => rw [sameKind]

/-- A bus is not handed out again after a shutdown. -/
theorem other_bus
    {earlier between later : List Dealing}
    {first second : Request}
    {one other : AnyBus}
    (run :
      Dealings host before
        (earlier ++ .asked first (.ok one) :: (between ++ .asked second (.ok other) :: later))
        after)
    (coupled : Coupled before.1)
    (shutDown : .shutdown ∈ between) :
    other ≠ one := by
  obtain ⟨atFirst, afterFirst, atSecond, afterSecond, toFirst, served, toSecond, servedToo⟩ :=
    run.exists_requests
  have serves := Request.serves_of_serve served
  have servesToo := Request.serves_of_serve servedToo
  have made : afterFirst.1.Has one :=
    ((toFirst.coupled coupled).serves serves).has serves.holds.1
  rintro rfl
  rcases servesToo.serving.holds servesToo.holds.1 with held | isNew
  · exact toSecond.renewed_of_shutdown shutDown _ held made
  · exact isNew (toSecond.later.has made)

end Dealings

/-- What is true of the buses that an exchange hands out. -/
structure HandingOutLaws (config : Config) (dealings : List Dealing) (now : Exchange) : Prop where
  /-- A message bus reports to the event bus that is handed out at that time. -/
  reports : ∀ (request : Request) kind id after,
    request.serve now = some (.ok (.message kind id), after) →
      ∃ line, after.lines[id]? = some line ∧ line.bus.kind = kind ∧
        Request.eventBus.serve after = some (.ok (.event line.events), after)
  /-- Without a shutdown in between, requests for one kind have one answer. -/
  same : ∀ earlier first one between second other later,
    dealings = earlier ++ .asked first one :: (between ++ .asked second other :: later) →
      .shutdown ∉ between → first.kindName = second.kindName → other = one
  /-- With a shutdown in between, no two requests have the same bus for an answer. -/
  renewed : ∀ earlier first one between second other later,
    dealings =
        earlier ++ .asked first (.ok one) :: (between ++ .asked second (.ok other) :: later) →
      .shutdown ∈ between → other ≠ one
  /-- A request is answered with what is handed out already, or with a new bus. -/
  made : ∀ (request : Request) bus after, request.serve now = some (.ok bus, after) →
    now.Holds bus ∧ after = now ∨ ¬ now.Has bus ∧ after.Has bus
  /-- All buses that a request makes are blank. -/
  blank : ∀ (request : Request) answer after, request.serve now = some (answer, after) →
    (∃ made, after.eventBuses = now.eventBuses ++ made ∧ ∀ bus ∈ made, bus = .empty config) ∧
      ∃ made, after.lines = now.lines ++ made ∧
        ∀ line ∈ made, line.bus = .empty line.bus.kind
  /-- There is a bus of each of the three kinds. -/
  served : ∀ request : Request, request.kindName ∈ ["command", "query", "event"] →
    ∃ bus after, request.serve now = some (.ok bus, after) ∧ bus.kindName = request.kindName
  /-- There is none of any other kind, and asking for it changes nothing. -/
  refused : ∀ request : Request, request.kindName ∉ ["command", "query", "event"] →
    request.serve now = some (.error (.invalidBusType request.kindName), now)

/--
However buses are asked for and used, and however often the exchange is shut down: message buses
report to the event bus of their time, a bus is handed out until the next shutdown and never after
it, and whatever takes its place is blank.
-/
theorem handingOutLaws_of_dealings
    {config : Config}
    {state : σ}
    {dealings : List Dealing}
    {now : Exchange × σ}
    (run : Dealings host (empty config, state) dealings now) :
    HandingOutLaws config dealings now.1 := by
  have coupled := run.coupled (coupled_empty config)
  refine
    { reports := ?_
      same := ?_
      renewed := ?_
      made := ?_
      blank := ?_
      served := ?_
      refused := ?_ }
  · intro request kind id after served
    have serves := Request.serves_of_serve served
    have coupledAfter := coupled.serves serves
    obtain ⟨line, isLine, ofKind, reports⟩ := coupledAfter.held kind id serves.holds.1
    refine ⟨line, isLine, ofKind, ?_⟩
    have isHeld : after.Holds (.event line.events) := reports
    exact coupledAfter.serve_of_holds isHeld rfl
  · rintro earlier first one between second other later rfl isOpen sameKind
    exact run.same_answer (coupled_empty config) isOpen sameKind
  · rintro earlier first one between second other later rfl shutDown
    exact run.other_bus (coupled_empty config) shutDown
  · intro request bus after served
    have serves := Request.serves_of_serve served
    obtain ⟨holds, ofKind⟩ := serves.holds
    rcases serves.serving.holds holds with before | isNew
    · have again := coupled.serve_of_holds before ofKind.symm
      cases served.symm.trans again
      exact Or.inl ⟨before, rfl⟩
    · exact Or.inr ⟨isNew, (coupled.serves serves).has holds⟩
  · intro request answer after served
    have serving := (Request.serves_of_serve served).serving
    rw [← show now.1.config = config from run.later.config]
    exact ⟨serving.eventBuses, serving.lines⟩
  · intro request known
    obtain ⟨answer, after, served, serves⟩ := request.exists_serves now.1
    cases serves with
    | event asks => exact ⟨_, _, served, asks.symm⟩
    | message asks => exact ⟨_, _, served, asks.symm⟩
    | refused noEvent noMessage =>
        have noCommand := noMessage .command
        have noQuery := noMessage .query
        simp_all [AnyBus.eventKind, BusKind.name]
  · intro request unknown
    obtain ⟨answer, after, served, serves⟩ := request.exists_serves now.1
    cases serves with
    | event asks =>
        rw [asks] at unknown
        exact absurd (by decide) unknown
    | @message kind asks =>
        rw [asks] at unknown
        cases kind <;> exact absurd (by decide) unknown
    | refused _ _ => exact served

namespace HandingOut

/-- A host that can build nothing. -/
def bareHost : Host Unit Unit Unit where
  build className := .fail (.unknownType className)
  handling? _ := none
  listening? _ := none
  timestamp _ := ""
  hasBackground := false

/-- The command bus before and after a shutdown. -/
def dealings : List Dealing :=
  [.asked (.messageBus .command) (.ok (.message .command 0)), .used,
    .asked .eventBus (.ok (.event 0)), .shutdown,
    .asked (.create "command") (.ok (.message .command 1))]

/-- An exchange with a command bus that handles `Ping`. -/
def registered : Exchange :=
  ((empty .initial).messageBus .command).2.setMessageBus 0
    ((MessageBus.empty .command).register "Ping" "PingHandler" none)

end HandingOut

/-- After a shutdown, the command bus is another one, handles nothing and reports to another event
bus. -/
theorem handingOutLaws_of_dealings_of_shutdown :
    ∃ now,
      Dealings HandingOut.bareHost (empty .initial, ()) HandingOut.dealings now ∧
        now.1.lines.map (fun line => (line.bus.hasHandler "Ping", line.events)) =
          [(true, 0), (false, 1)] ∧
        HandingOutLaws .initial HandingOut.dealings now.1 := by
  have uses :
      Using (((empty .initial).messageBus .command).2, ()) (HandingOut.registered, ()) :=
    Used.setMessageBus _ 0 _ rfl
  have run :
      Dealings HandingOut.bareHost (empty .initial, ()) HandingOut.dealings
        ((HandingOut.registered.closed.messageBus .command).2, ()) :=
    .step (.asked rfl) (.step (.used uses) (.step (.asked rfl) (.step (.shutdown rfl)
      (.step (.asked rfl) .done))))
  exact ⟨_, run, by decide, handingOutLaws_of_dealings run⟩

end Exchange

end Switchboard
