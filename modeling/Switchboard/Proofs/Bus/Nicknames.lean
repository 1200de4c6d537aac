import Switchboard.Proofs.Bus.Registrations

namespace Switchboard.MessageBus

open Manifest (HandlerItem)

/-!
# Where aliases and message names lead

An alias is registered together with a message name and leads to the handler of that call.  The
message name leads there as well, unless it gets another handler later, or is an alias of another
one itself: aliases go before message names.  `nicknameLaws_of_registering` says so of the call
that an alias was registered with, and of the message name that is found for an alias.
-/

/-- The latest call with an alias, and the calls after it. -/
structure LatestCall
    (calls : List HandlerItem)
    (nickname : String)
    (call : HandlerItem)
    (later : List HandlerItem) :
    Prop where
  made : ∃ earlier, calls = earlier ++ call :: later
  named : call.nickname = some nickname
  latest : ∀ other ∈ later, other.nickname ≠ some nickname

/-- A name is not registered as an alias, or leads to this handler as one. -/
def NoOtherAlias (calls : List HandlerItem) (name handler : String) : Prop :=
  ∀ other, latestAlias? calls name = some other → other = handler

/-- Where an alias leads after registrations, and when message names lead there too. -/
structure NicknameLaws
    (kind : BusKind)
    (calls : List HandlerItem)
    (nickname : String)
    (bus : MessageBus) :
    Prop where
  /-- The alias leads to the handler that it was last registered with. -/
  leads : ∀ call later, LatestCall calls nickname call later →
    bus.getHandler nickname = .ok call.handler
  /-- As long as no other handler takes its place there, the message name of that call leads there
  too, unless it is an alias of another one. -/
  together : ∀ call later, LatestCall calls nickname call later →
    (∀ other ∈ later, other.identifier = call.identifier → other.handler = call.handler) →
    (bus.getHandler call.identifier = bus.getHandler nickname ↔
      NoOtherAlias calls call.identifier call.handler)
  /-- A message name that is found for the alias is registered with the handler of the alias, and
  leads there unless it is an alias of another one. -/
  found : ∀ identifier, bus.messageOf nickname = identifier → identifier ≠ noMessage →
    ∃ handler,
      bus.getHandler nickname = .ok handler ∧
        latestHandler? calls identifier = some handler ∧
        (bus.getHandler identifier = bus.getHandler nickname ↔
          NoOtherAlias calls identifier handler)
  /-- A message of that name is then run as on a bus that knows only the handler of the alias. -/
  executed : ∀ {σ ι μ : Type} [Message μ]
    (host : Host σ ι μ)
    (report : Event → Attempt σ BusError Event)
    (message : μ)
    (handler : String),
    bus.messageOf nickname = Message.name message →
    Message.name message ≠ noMessage →
    bus.getHandler nickname = .ok handler →
    NoOtherAlias calls (Message.name message) handler →
    execute host report bus message =
      execute host report ((empty kind).register (Message.name message) handler none) message

/-- A call decides for its name if the later ones with that name have the same handler. -/
theorem latest?_of_same
    {key : HandlerItem → Option String}
    {call : HandlerItem}
    {name : String}
    (named : key call = some name)
    (earlier : List HandlerItem)
    {later : List HandlerItem}
    (same : ∀ other ∈ later, key other = some name → other.handler = call.handler) :
    latest? key (earlier ++ call :: later) name = some call.handler := by
  induction later using List.reverseRecOn with
  | nil => rw [latest?_append_singleton, if_pos named]
  | append_singleton later last inductionHypothesis =>
      rw [← List.cons_append, ← List.append_assoc, latest?_append_singleton]
      by_cases namedToo : key last = some name
      · rw [if_pos namedToo, same last (by simp) namedToo]
      · rw [if_neg namedToo]
        exact inductionHypothesis fun other member => same other (by simp [member])

section

variable {kind : BusKind} {calls : List HandlerItem}

theorem getHandler_of_alias
    {nickname handler : String}
    (isAlias : latestAlias? calls nickname = some handler) :
    ((empty kind).registering calls).getHandler nickname = .ok handler := by
  rw [getHandler_eq_ok_iff, handler?_registering, isAlias]
  rfl

/-- A message name leads to the handler it is registered with if no alias says otherwise. -/
theorem getHandler_eq_ok_iff_of_registered
    {identifier handler : String}
    (registered : latestHandler? calls identifier = some handler) :
    ((empty kind).registering calls).getHandler identifier = .ok handler ↔
      NoOtherAlias calls identifier handler := by
  rw [getHandler_eq_ok_iff, handler?_registering, registered, NoOtherAlias]
  cases latestAlias? calls identifier with
  | none => simp
  | some other => simp

theorem latestAlias?_of_latestCall
    {nickname : String}
    {call : HandlerItem}
    {later : List HandlerItem}
    (latestCall : LatestCall calls nickname call later) :
    latestAlias? calls nickname = some call.handler := by
  obtain ⟨earlier, rfl⟩ := latestCall.made
  exact latest?_of_same latestCall.named earlier fun other member namedToo =>
    absurd namedToo (latestCall.latest other member)

/-- A found message name is registered with the handler of the alias. -/
theorem isMessageOf_of_messageOf
    {nickname identifier : String}
    (found : ((empty kind).registering calls).messageOf nickname = identifier)
    (proper : identifier ≠ noMessage) :
    IsMessageOf calls nickname identifier := by
  have lists := lists_handlers_registering kind calls
  rw [messageOf_registering lists] at found
  rw [← search_eq_some_iff lists]
  cases search : (latestAlias? calls nickname).bind
      (leastWith? ((empty kind).registering calls).handlers.toList) with
  | none =>
      rw [search] at found
      exact absurd found.symm proper
  | some other =>
      rw [search] at found
      exact congrArg some found

end

/-- Running a message takes from a bus only its kind and the handler of the message's name. -/
theorem execute_congr
    {σ ι μ : Type}
    [Message μ]
    (host : Host σ ι μ)
    (report : Event → Attempt σ BusError Event)
    {bus other : MessageBus}
    {message : μ}
    (sameKind : bus.kind = other.kind)
    (sameHandler :
      bus.getHandler (Message.name message) = other.getHandler (Message.name message)) :
    execute host report bus message = execute host report other message := by
  simp only [execute, reportStep, lifecycle, sameKind, sameHandler]

/-- After any registrations, an alias and the message names behind it lead where the laws say. -/
theorem nicknameLaws_of_registering
    (kind : BusKind)
    (calls : List HandlerItem)
    (nickname : String) :
    NicknameLaws kind calls nickname ((empty kind).registering calls) := by
  refine { leads := ?_, together := ?_, found := ?_, executed := ?_ }
  · intro call later latestCall
    exact getHandler_of_alias (latestAlias?_of_latestCall latestCall)
  · intro call later latestCall kept
    obtain ⟨earlier, split⟩ := latestCall.made
    have registered : latestHandler? calls call.identifier = some call.handler := by
      rw [split]
      exact latest?_of_same rfl earlier fun other member same =>
        kept other member (Option.some.inj same)
    rw [getHandler_of_alias (latestAlias?_of_latestCall latestCall)]
    exact getHandler_eq_ok_iff_of_registered registered
  · intro identifier found proper
    obtain ⟨handler, isAlias, registered, _⟩ := isMessageOf_of_messageOf found proper
    refine ⟨handler, getHandler_of_alias isAlias, registered, ?_⟩
    rw [getHandler_of_alias isAlias]
    exact getHandler_eq_ok_iff_of_registered registered
  · intro σ ι μ _ host report message handler found proper leads noOther
    obtain ⟨other, isAlias, registered, _⟩ := isMessageOf_of_messageOf found proper
    cases leads.symm.trans (getHandler_of_alias isAlias)
    refine execute_congr host report (kind_registering _ _) ?_
    rw [(getHandler_eq_ok_iff_of_registered registered).mpr noOther]
    simp [getHandler, handler?, register, empty]

namespace Nickname

/-- The message name of the first call becomes an alias of another handler. -/
def shadowing : List HandlerItem :=
  [{ identifier := "CreateOrder", handler := "OrderHandler", nickname := some "order:create" },
    { identifier := "Other", handler := "AckHandler", nickname := some "CreateOrder" }]

/-- The message name of the first call gets another handler. -/
def replacing : List HandlerItem :=
  [{ identifier := "CreateOrder", handler := "OrderHandler", nickname := some "order:create" },
    { identifier := "CreateOrder", handler := "AckHandler", nickname := none }]

end Nickname

/-- An alias and the message name that it was registered with can lead to different handlers, also
where the message name is the one that is found for the alias. -/
theorem alias_can_part_from_message :
    ((empty .command).registering Nickname.shadowing).getHandler "order:create" =
        .ok "OrderHandler" ∧
      ((empty .command).registering Nickname.shadowing).messageOf "order:create" =
        "CreateOrder" ∧
      ((empty .command).registering Nickname.shadowing).getHandler "CreateOrder" =
        .ok "AckHandler" ∧
      ((empty .command).registering Nickname.replacing).getHandler "order:create" =
        .ok "OrderHandler" ∧
      ((empty .command).registering Nickname.replacing).getHandler "CreateOrder" =
        .ok "AckHandler" := by
  refine ⟨?_, ?_, ?_, ?_, ?_⟩ <;> rfl

end Switchboard.MessageBus
