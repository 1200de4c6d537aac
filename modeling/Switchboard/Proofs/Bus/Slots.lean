import Switchboard.Proofs.Attempt.Endings
import Switchboard.Bus.Exchange

namespace Switchboard

/-!
# Asking for buses

An exchange has three slots, which are filled when a bus is first asked for.  `Serving` says what a
request can change, and `Coupled` what holds of the slots at all times: a message bus that is
handed out reports to the event bus that is handed out.
-/

namespace Exchange

/-- What an exchange can be asked for. -/
inductive Request where
  | eventBus
  | messageBus (kind : BusKind)
  | create (kind : String)
  deriving Repr, DecidableEq

namespace Request

/-- The name of the kind of bus that is asked for. -/
def kindName : Request → String
  | .eventBus => AnyBus.eventKind
  | .messageBus kind => kind.name
  | .create kind => kind

/-- Ask an exchange for a bus. -/
def serve : Request → Attempt Exchange BusError AnyBus
  | .eventBus =>
      .changing fun exchange => (.event exchange.eventBus.1, exchange.eventBus.2)
  | .messageBus kind =>
      .changing fun exchange =>
        (.message kind (exchange.messageBus kind).1, (exchange.messageBus kind).2)
  | .create kind => fun exchange =>
      match exchange.create kind with
      | .error error => some (.error error, exchange)
      | .ok (bus, after) => some (.ok bus, after)

/-- Asking for a bus and having it created by the name of its kind are the same. -/
theorem serve_eq_create (request : Request) :
    request.serve = (create request.kindName).serve := by
  cases request with
  | eventBus => rfl
  | messageBus kind => cases kind <;> rfl
  | create kind => rfl

theorem serve_congr
    {first second : Request}
    (sameKind : first.kindName = second.kindName) :
    first.serve = second.serve := by
  rw [serve_eq_create first, sameKind, ← serve_eq_create]

/-- The ways in which a request is answered. -/
inductive Serves (exchange : Exchange) (request : Request) :
    Except BusError AnyBus → Exchange → Prop
  | event (asks : request.kindName = AnyBus.eventKind) :
      Serves exchange request (.ok (.event exchange.eventBus.1)) exchange.eventBus.2
  | message {kind : BusKind} (asks : request.kindName = kind.name) :
      Serves exchange request (.ok (.message kind (exchange.messageBus kind).1))
        (exchange.messageBus kind).2
  | refused
      (noEvent : request.kindName ≠ AnyBus.eventKind)
      (noMessage : ∀ kind : BusKind, request.kindName ≠ kind.name) :
      Serves exchange request (.error (.invalidBusType request.kindName)) exchange

theorem exists_serves (request : Request) (exchange : Exchange) :
    ∃ answer after,
      request.serve exchange = some (answer, after) ∧ Serves exchange request answer after := by
  rw [serve_eq_create]
  by_cases asksEvent : request.kindName = AnyBus.eventKind
  · refine ⟨_, _, ?_, .event asksEvent⟩
    rw [asksEvent]
    rfl
  by_cases asksMessage : ∃ kind : BusKind, request.kindName = kind.name
  · obtain ⟨kind, asks⟩ := asksMessage
    refine ⟨_, _, ?_, .message asks⟩
    rw [asks]
    cases kind <;> rfl
  · refine ⟨_, _, ?_, .refused asksEvent fun kind asks => asksMessage ⟨kind, asks⟩⟩
    have unknown :
        ([BusKind.command, .query].find? fun known => known.name = request.kindName) = none := by
      rw [List.find?_eq_none]
      intro kind _ named
      exact asksMessage ⟨kind, (of_decide_eq_true named).symm⟩
    simp only [serve, Exchange.create, if_neg asksEvent, unknown]

theorem Serves.refusal
    {request : Request}
    {exchange after : Exchange}
    {error : BusError}
    (serves : Serves exchange request (.error error) after) :
    request.kindName ≠ AnyBus.eventKind ∧ (∀ kind : BusKind, request.kindName ≠ kind.name) ∧
      error = .invalidBusType request.kindName := by
  cases serves with
  | refused noEvent noMessage => exact ⟨noEvent, noMessage, rfl⟩

theorem serves_of_serve
    {request : Request}
    {exchange after : Exchange}
    {answer : Except BusError AnyBus}
    (served : request.serve exchange = some (answer, after)) :
    Serves exchange request answer after := by
  obtain ⟨other, otherAfter, servedToo, serves⟩ := request.exists_serves exchange
  cases served.symm.trans servedToo
  exact serves

end Request

/-- What a request makes of an exchange: blank buses are added, and empty slots filled. -/
structure Serving (before after : Exchange) : Prop where
  config : after.config = before.config
  eventBuses : ∃ made, after.eventBuses = before.eventBuses ++ made ∧
    ∀ bus ∈ made, bus = .empty before.config
  lines : ∃ made, after.lines = before.lines ++ made ∧
    ∀ line ∈ made, line.bus = .empty line.bus.kind
  events : ∀ id, before.events = some id → after.events = some id
  held : ∀ kind id, before.held? kind = some id → after.held? kind = some id
  newEvents : ∀ id, after.events = some id →
    before.events = some id ∨ before.eventBuses.length ≤ id
  newHeld : ∀ kind id, after.held? kind = some id →
    before.held? kind = some id ∨ before.lines.length ≤ id

namespace Serving

theorem refl (exchange : Exchange) : Serving exchange exchange where
  config := rfl
  eventBuses := ⟨[], by simp, by simp⟩
  lines := ⟨[], by simp, by simp⟩
  events _ held := held
  held _ _ held := held
  newEvents _ held := Or.inl held
  newHeld _ _ held := Or.inl held

theorem eventBuses_le {before after : Exchange} (serving : Serving before after) :
    before.eventBuses.length ≤ after.eventBuses.length := by
  obtain ⟨made, extended, _⟩ := serving.eventBuses
  simp [extended]

theorem lines_le {before after : Exchange} (serving : Serving before after) :
    before.lines.length ≤ after.lines.length := by
  obtain ⟨made, extended, _⟩ := serving.lines
  simp [extended]

theorem trans
    {first second third : Exchange}
    (earlier : Serving first second)
    (later : Serving second third) :
    Serving first third where
  config := later.config.trans earlier.config
  eventBuses := by
    obtain ⟨made, extended, blank⟩ := earlier.eventBuses
    obtain ⟨more, extendedOn, blankToo⟩ := later.eventBuses
    refine ⟨made ++ more, by rw [extendedOn, extended, List.append_assoc], fun bus member => ?_⟩
    rcases List.mem_append.mp member with isFirst | isSecond
    · exact blank bus isFirst
    · rw [← earlier.config]
      exact blankToo bus isSecond
  lines := by
    obtain ⟨made, extended, blank⟩ := earlier.lines
    obtain ⟨more, extendedOn, blankToo⟩ := later.lines
    refine ⟨made ++ more, by rw [extendedOn, extended, List.append_assoc], fun line member => ?_⟩
    rcases List.mem_append.mp member with isFirst | isSecond
    · exact blank line isFirst
    · exact blankToo line isSecond
  events id held := later.events id (earlier.events id held)
  held kind id held := later.held kind id (earlier.held kind id held)
  newEvents id held := by
    rcases later.newEvents id held with before | isNew
    · exact earlier.newEvents id before
    · exact Or.inr (Nat.le_trans earlier.eventBuses_le isNew)
  newHeld kind id held := by
    rcases later.newHeld kind id held with before | isNew
    · exact earlier.newHeld kind id before
    · exact Or.inr (Nat.le_trans earlier.lines_le isNew)

end Serving

theorem eventBus_of_held
    {exchange : Exchange}
    {id : EventBusId}
    (held : exchange.events = some id) :
    exchange.eventBus = (id, exchange) := by
  simp only [eventBus, held]

/-- Asking for the event bus makes one if there is none, and touches nothing else. -/
theorem serving_eventBus (exchange : Exchange) :
    Serving exchange exchange.eventBus.2 ∧
      exchange.eventBus.2.events = some exchange.eventBus.1 := by
  cases held : exchange.events with
  | some id =>
      rw [eventBus_of_held held]
      exact ⟨.refl exchange, held⟩
  | none =>
      simp only [eventBus, held, addEventBus]
      refine ⟨?_, trivial⟩
      exact
        { config := rfl
          eventBuses := ⟨_, rfl, by simp⟩
          lines := ⟨[], by simp, by simp⟩
          events := fun _ isHeld => nomatch held.symm.trans isHeld
          held := fun kind _ isHeld => by cases kind <;> exact isHeld
          newEvents := fun id isHeld => Or.inr (Nat.le_of_eq (Option.some.inj isHeld))
          newHeld := fun kind _ isHeld => Or.inl (by cases kind <;> exact isHeld) }

theorem held?_hold
    (exchange : Exchange)
    (id : MessageBusId)
    (kind other : BusKind) :
    (exchange.hold id kind).held? other =
      if kind = other then some id else exchange.held? other := by
  cases kind <;> cases other <;> rfl

/-- The exchange with a new message bus that is handed out. -/
def withLine (exchange : Exchange) (kind : BusKind) (events : EventBusId) : Exchange :=
  (exchange.addLine kind events).2.hold exchange.lines.length kind

theorem messageBus_of_held
    {exchange : Exchange}
    {kind : BusKind}
    {id : MessageBusId}
    (held : exchange.eventBus.2.held? kind = some id) :
    exchange.messageBus kind = (id, exchange.eventBus.2) := by
  simp only [messageBus, held]

theorem messageBus_of_free
    {exchange : Exchange}
    {kind : BusKind}
    (free : exchange.eventBus.2.held? kind = none) :
    exchange.messageBus kind =
      (exchange.eventBus.2.lines.length,
        exchange.eventBus.2.withLine kind exchange.eventBus.1) := by
  simp only [messageBus, free]
  rfl

@[simp] theorem eventBuses_withLine (exchange : Exchange) (kind : BusKind) (events : EventBusId) :
    (exchange.withLine kind events).eventBuses = exchange.eventBuses := by
  cases kind <;> rfl

@[simp] theorem events_withLine (exchange : Exchange) (kind : BusKind) (events : EventBusId) :
    (exchange.withLine kind events).events = exchange.events := by
  cases kind <;> rfl

@[simp] theorem lines_withLine (exchange : Exchange) (kind : BusKind) (events : EventBusId) :
    (exchange.withLine kind events).lines =
      exchange.lines ++ [{ bus := .empty kind, events := events }] := by
  cases kind <;> rfl

@[simp] theorem held?_withLine
    (exchange : Exchange)
    (kind other : BusKind)
    (events : EventBusId) :
    (exchange.withLine kind events).held? other =
      if kind = other then some exchange.lines.length else exchange.held? other := by
  rw [withLine, held?_hold]
  cases other <;> rfl

theorem serving_withLine
    {exchange : Exchange}
    {kind : BusKind}
    (free : exchange.held? kind = none)
    (events : EventBusId) :
    Serving exchange (exchange.withLine kind events) where
  config := by cases kind <;> rfl
  eventBuses := ⟨[], by simp, by simp⟩
  lines := ⟨_, lines_withLine _ _ _, by simp [MessageBus.empty]⟩
  events id held := by simpa using held
  held other id held := by
    have apart : kind ≠ other := by
      rintro rfl
      cases free.symm.trans held
    simpa [apart] using held
  newEvents id held := Or.inl (by simpa using held)
  newHeld other id held := by
    rw [held?_withLine] at held
    split at held
    · exact Or.inr (Nat.le_of_eq (Option.some.inj held))
    · exact Or.inl held

/-- Asking for a message bus makes what is missing, and touches nothing else. -/
theorem serving_messageBus (exchange : Exchange) (kind : BusKind) :
    Serving exchange (exchange.messageBus kind).2 := by
  have first := (serving_eventBus exchange).1
  cases held : exchange.eventBus.2.held? kind with
  | some id =>
      rw [messageBus_of_held held]
      exact first
  | none =>
      rw [messageBus_of_free held]
      exact first.trans (serving_withLine held _)

theorem Request.Serves.serving
    {exchange after : Exchange}
    {request : Request}
    {answer : Except BusError AnyBus}
    (serves : Serves exchange request answer after) :
    Serving exchange after := by
  cases serves with
  | event asks => exact (serving_eventBus exchange).1
  | message asks => exact serving_messageBus exchange _
  | refused _ _ => exact .refl exchange

/-- A message bus that is handed out is of its kind, and reports to the event bus that is handed
out. -/
structure Coupled (exchange : Exchange) : Prop where
  events : ∀ id, exchange.events = some id → id < exchange.eventBuses.length
  held : ∀ kind id, exchange.held? kind = some id →
    ∃ line, exchange.lines[id]? = some line ∧ line.bus.kind = kind ∧
      exchange.events = some line.events

theorem coupled_empty (config : Config) : Coupled (empty config) where
  events _ held := nomatch held
  held kind _ held := by cases kind <;> cases held

namespace Coupled

variable {exchange : Exchange}

theorem eventBus (coupled : Coupled exchange) : Coupled exchange.eventBus.2 := by
  cases isHeld : exchange.events with
  | some id =>
      rw [eventBus_of_held isHeld]
      exact coupled
  | none =>
      simp only [Exchange.eventBus, isHeld, addEventBus]
      refine ⟨fun id held => ?_, fun kind id held => ?_⟩
      · cases held
        simp
      · obtain ⟨_, _, _, reports⟩ :=
          coupled.held kind id (by cases kind <;> exact held)
        cases isHeld.symm.trans reports

theorem withLine
    {kind : BusKind}
    {events : EventBusId}
    (coupled : Coupled exchange)
    (isHeld : exchange.events = some events) :
    Coupled (exchange.withLine kind events) := by
  refine ⟨fun id held => ?_, fun other id held => ?_⟩
  · rw [events_withLine] at held
    simpa using coupled.events id held
  · rw [held?_withLine] at held
    split at held
    · rename_i same
      cases held
      exact ⟨{ bus := .empty kind, events := events }, by simp, same, by simpa using isHeld⟩
    · obtain ⟨line, isLine, ofKind, reports⟩ := coupled.held other id held
      have inRange := (List.getElem?_eq_some_iff.mp isLine).1
      refine ⟨line, ?_, ofKind, by simpa using reports⟩
      rw [lines_withLine, List.getElem?_append_left inRange]
      exact isLine

theorem messageBus (coupled : Coupled exchange) (kind : BusKind) :
    Coupled (exchange.messageBus kind).2 := by
  cases held : exchange.eventBus.2.held? kind with
  | some id =>
      rw [messageBus_of_held held]
      exact coupled.eventBus
  | none =>
      rw [messageBus_of_free held]
      exact coupled.eventBus.withLine (serving_eventBus exchange).2

theorem serves
    {request : Request}
    {answer : Except BusError AnyBus}
    {after : Exchange}
    (coupled : Coupled exchange)
    (serves : Request.Serves exchange request answer after) :
    Coupled after := by
  cases serves with
  | event asks => exact coupled.eventBus
  | message asks => exact coupled.messageBus _
  | refused _ _ => exact coupled

end Coupled

/-- A bus has been made. -/
def Has (exchange : Exchange) : AnyBus → Prop
  | .message _ id => id < exchange.lines.length
  | .event id => id < exchange.eventBuses.length

/-- A bus is handed out to whoever asks for one of its kind. -/
def Holds (exchange : Exchange) : AnyBus → Prop
  | .message kind id => exchange.held? kind = some id
  | .event id => exchange.events = some id

theorem Coupled.has
    {exchange : Exchange}
    {bus : AnyBus}
    (coupled : Coupled exchange)
    (holds : exchange.Holds bus) :
    exchange.Has bus := by
  cases bus with
  | event id => exact coupled.events id holds
  | message kind id =>
      obtain ⟨line, isLine, _⟩ := coupled.held kind id holds
      exact (List.getElem?_eq_some_iff.mp isLine).1

/-- Whoever gets a bus gets one of the kind that was asked for, and so does everybody after. -/
theorem Request.Serves.holds
    {exchange after : Exchange}
    {request : Request}
    {bus : AnyBus}
    (serves : Serves exchange request (.ok bus) after) :
    after.Holds bus ∧ bus.kindName = request.kindName := by
  cases serves with
  | event asks => exact ⟨(serving_eventBus exchange).2, asks.symm⟩
  | @message kind asks =>
      refine ⟨?_, asks.symm⟩
      show (exchange.messageBus kind).2.held? kind = some _
      cases held : exchange.eventBus.2.held? kind with
      | some id =>
          rw [messageBus_of_held held]
          exact held
      | none =>
          rw [messageBus_of_free held]
          simp

/-- A bus that is handed out is the answer to every request for its kind, and nothing changes. -/
theorem Coupled.serve_of_holds
    {exchange : Exchange}
    {bus : AnyBus}
    {request : Request}
    (coupled : Coupled exchange)
    (holds : exchange.Holds bus)
    (asks : request.kindName = bus.kindName) :
    request.serve exchange = some (.ok bus, exchange) := by
  cases bus with
  | event id =>
      have unchanged : exchange.eventBus = (id, exchange) := eventBus_of_held holds
      rw [Request.serve_congr (show _ = Request.eventBus.kindName from asks), Request.serve,
        Attempt.changing_apply, unchanged]
  | message kind id =>
      obtain ⟨line, _, _, reports⟩ := coupled.held kind id holds
      have unchanged := eventBus_of_held reports
      have isHeld : exchange.eventBus.2.held? kind = some id := by
        rw [unchanged]
        exact holds
      rw [Request.serve_congr (show _ = (Request.messageBus kind).kindName from asks),
        Request.serve, Attempt.changing_apply, messageBus_of_held isHeld, unchanged]

/-- A bus that is handed out after a request was handed out before or is new. -/
theorem Serving.holds
    {before after : Exchange}
    {bus : AnyBus}
    (serving : Serving before after)
    (holds : after.Holds bus) :
    before.Holds bus ∨ ¬ before.Has bus := by
  cases bus with
  | event id => exact (serving.newEvents id holds).imp_right Nat.not_lt.mpr
  | message kind id => exact (serving.newHeld kind id holds).imp_right Nat.not_lt.mpr

theorem Serving.holds_of_holds
    {before after : Exchange}
    {bus : AnyBus}
    (serving : Serving before after)
    (holds : before.Holds bus) :
    after.Holds bus := by
  cases bus with
  | event id => exact serving.events id holds
  | message kind id => exact serving.held kind id holds

end Exchange

end Switchboard
