import Mathlib.Data.List.Induction
import Mathlib.Data.String.Basic
import Switchboard.Bus.MessageBus
import Switchboard.Manifest.Entry

namespace Switchboard.MessageBus

open Manifest (HandlerItem)

/-!
# What a message bus answers after registrations

A message bus only ever changes by registrations, and a later one under the same name takes the
place of an earlier one.  So all that it answers can be read off the calls that were made, by
looking for the latest one under a name.  `lookupLaws_of_registering` says what each question is
answered with; `find?_entered` carries it, once for both of the dictionaries.

The text that stands for no message is not kept from being the name of one:
`messageOf_can_be_called_noMessage` registers such a message.
-/

attribute [ext] MessageBus

/-- The bus after registrations, one after another. -/
def registering (bus : MessageBus) (calls : List HandlerItem) : MessageBus :=
  calls.foldl (fun bus call => bus.register call.identifier call.handler call.nickname) bus

/-- The handler of the latest call with a name, where `key` is what names a call. -/
def latest?
    (key : HandlerItem → Option String)
    (calls : List HandlerItem)
    (name : String) :
    Option String :=
  (calls.filter fun call => key call = some name).getLast?.map HandlerItem.handler

/-- The handler of the latest call that used a name as an alias. -/
def latestAlias? (calls : List HandlerItem) (name : String) : Option String :=
  latest? HandlerItem.nickname calls name

/-- The handler of the latest call that used a name as the name of a message. -/
def latestHandler? (calls : List HandlerItem) (name : String) : Option String :=
  latest? (fun call => some call.identifier) calls name

/-- Enter the handler of a call under the name that the call has, if it has one. -/
def enter
    (key : HandlerItem → Option String)
    (dict : Dict String)
    (call : HandlerItem) :
    Dict String :=
  match key call with
  | none => dict
  | some name => dict.insert name call.handler

section Entering

variable {key : HandlerItem → Option String}

theorem find?_enter
    (dict : Dict String)
    (call : HandlerItem)
    (name : String) :
    (enter key dict call).find? name =
      if key call = some name then some call.handler else dict.find? name := by
  unfold enter
  cases key call with
  | none => simp
  | some other => simp [Dict.find?_insert]

theorem ordered_enter
    {dict : Dict String}
    (ordered : dict.Ordered)
    (call : HandlerItem) :
    (enter key dict call).Ordered := by
  unfold enter
  cases key call with
  | none => exact ordered
  | some name => exact ordered.insert name call.handler

/-- Entering keeps a dictionary in order. -/
theorem ordered_entered
    {dict : Dict String}
    (ordered : dict.Ordered)
    (calls : List HandlerItem) :
    (calls.foldl (enter key) dict).Ordered := by
  induction calls generalizing dict with
  | nil => exact ordered
  | cons call calls inductionHypothesis => exact inductionHypothesis (ordered_enter ordered call)

/-- One more call is the latest one with its name. -/
theorem latest?_append_singleton
    (calls : List HandlerItem)
    (call : HandlerItem)
    (name : String) :
    latest? key (calls ++ [call]) name =
      if key call = some name then some call.handler else latest? key calls name := by
  unfold latest?
  by_cases named : key call = some name
  · simp [named]
  · simp [named]

/-- After calls were entered one by one, the latest one with a name is found. -/
theorem find?_entered
    (calls : List HandlerItem)
    (name : String) :
    Dict.find? (calls.foldl (enter key) Dict.empty) name = latest? key calls name := by
  -- the call that decides is the last one, so calls are taken off the end
  induction calls using List.reverseRecOn with
  | nil => rfl
  | append_singleton calls call inductionHypothesis =>
      rw [List.foldl_append, latest?_append_singleton, ← inductionHypothesis]
      exact find?_enter _ call name

end Entering

section Registering

theorem kind_registering (bus : MessageBus) (calls : List HandlerItem) :
    (bus.registering calls).kind = bus.kind := by
  induction calls generalizing bus with
  | nil => rfl
  | cons call calls inductionHypothesis => exact inductionHypothesis _

theorem handlers_registering (bus : MessageBus) (calls : List HandlerItem) :
    (bus.registering calls).handlers =
      calls.foldl (enter fun call => some call.identifier) bus.handlers := by
  induction calls generalizing bus with
  | nil => rfl
  | cons call calls inductionHypothesis => exact inductionHypothesis _

theorem aliases_registering (bus : MessageBus) (calls : List HandlerItem) :
    (bus.registering calls).aliases = calls.foldl (enter HandlerItem.nickname) bus.aliases := by
  induction calls generalizing bus with
  | nil => rfl
  | cons call calls inductionHypothesis => exact inductionHypothesis _

variable (kind : BusKind) (calls : List HandlerItem)

theorem find?_handlers_registering (name : String) :
    ((empty kind).registering calls).handlers.find? name = latestHandler? calls name := by
  rw [handlers_registering]
  exact find?_entered calls name

theorem find?_aliases_registering (name : String) :
    ((empty kind).registering calls).aliases.find? name = latestAlias? calls name := by
  rw [aliases_registering]
  exact find?_entered calls name

theorem ordered_handlers_registering :
    ((empty kind).registering calls).handlers.Ordered := by
  rw [handlers_registering]
  exact ordered_entered Dict.ordered_empty calls

theorem ordered_aliases_registering :
    ((empty kind).registering calls).aliases.Ordered := by
  rw [aliases_registering]
  exact ordered_entered Dict.ordered_empty calls

theorem handler?_registering (name : String) :
    ((empty kind).registering calls).handler? name =
      (latestAlias? calls name <|> latestHandler? calls name) := by
  rw [handler?, find?_handlers_registering, find?_aliases_registering]

end Registering

section Listing

/-- The least name with a handler in a listing of names and handlers, in whatever order that is. -/
def leastWith? (listing : List (String × String)) (handler : String) : Option String :=
  ((listing.filter fun entry => entry.2 = handler).map Prod.fst).min?

/-- A listing has the names that have a value, each with that value, in whatever order. -/
def Lists (listing : List (String × String)) (value? : String → Option String) : Prop :=
  ∀ name value, (name, value) ∈ listing ↔ value? name = some value

theorem leastWith?_eq_some_iff
    {listing : List (String × String)}
    {handler name : String} :
    leastWith? listing handler = some name ↔
      (name, handler) ∈ listing ∧ ∀ other, (other, handler) ∈ listing → name ≤ other := by
  rw [leastWith?, List.min?_eq_some_iff]
  simp

/-- The first entry with a handler in a dictionary is the one with the least name. -/
theorem find?_toList_eq_leastWith?
    {dict : Dict String}
    (ordered : dict.Ordered)
    (handler : String) :
    (dict.toList.find? fun entry => entry.2 = handler).map Prod.fst =
      leastWith? dict.toList handler := by
  rw [leastWith?, List.min?_eq_head?, List.head?_map, List.head?_filter]
  refine List.pairwise_map.mpr (.imp ?_ (ordered.pairwise.filter _))
  intro left right before
  exact min_eq_left before.le

/-- Searching the names of a handler comes to the same in every listing of them. -/
theorem leastWith?_congr
    {listing others : List (String × String)}
    {value? : String → Option String}
    (lists : Lists listing value?)
    (listsToo : Lists others value?)
    (handler : String) :
    leastWith? listing handler = leastWith? others handler := by
  ext name
  rw [leastWith?_eq_some_iff, leastWith?_eq_some_iff]
  simp only [lists _ _, listsToo _ _]

/-- The message name of an alias is the least name that a listing has with the alias's handler. -/
theorem messageOf_eq
    {bus : MessageBus}
    (ordered : bus.handlers.Ordered)
    (nickname : String) :
    bus.messageOf nickname =
      ((bus.aliases.find? nickname).bind (leastWith? bus.handlers.toList)).getD noMessage := by
  unfold messageOf
  cases bus.aliases.find? nickname with
  | none => rfl
  | some handler =>
      simp only [Option.bind_some, ← find?_toList_eq_leastWith? ordered handler]
      cases bus.handlers.toList.find? fun entry => entry.2 = handler with
      | none => rfl
      | some entry => rfl

end Listing

/-- The least message name whose handler is the one that an alias was last registered with. -/
def IsMessageOf (calls : List HandlerItem) (nickname identifier : String) : Prop :=
  ∃ handler,
    latestAlias? calls nickname = some handler ∧
      latestHandler? calls identifier = some handler ∧
      ∀ other, latestHandler? calls other = some handler → identifier ≤ other

/-- A name is no alias, or no message name has the handler that it was last registered with. -/
def HasNoMessage (calls : List HandlerItem) (nickname : String) : Prop :=
  latestAlias? calls nickname = none ∨
    ∃ handler,
      latestAlias? calls nickname = some handler ∧
        ∀ identifier, latestHandler? calls identifier ≠ some handler

/-- A listing names everything that has a value, once and in strictly increasing order. -/
structure ListsInOrder
    (listing : List (String × String))
    (value? : String → Option String) :
    Prop where
  lists : Lists listing value?
  increasing : (listing.map Prod.fst).Pairwise (· < ·)
  once : listing.Nodup

/-- What a message bus answers after registrations. -/
structure LookupLaws (kind : BusKind) (calls : List HandlerItem) (bus : MessageBus) : Prop where
  /-- The latest use of a name as an alias decides, else the latest one as a message name. -/
  getHandler : ∀ name,
    bus.getHandler name =
      match latestAlias? calls name, latestHandler? calls name with
      | some handler, _ => .ok handler
      | none, some handler => .ok handler
      | none, none => .error (.handlerNotFound name)
  hasHandler : ∀ name, bus.hasHandler name = true ↔ ∃ handler, bus.getHandler name = .ok handler
  /-- The message name of an alias is the least one with its handler, if there is one. -/
  messageOf : ∀ nickname,
    (∃ identifier,
        IsMessageOf calls nickname identifier ∧ bus.messageOf nickname = identifier) ∨
      HasNoMessage calls nickname ∧ bus.messageOf nickname = noMessage
  /-- The answer that there is none is given then only; a message may be called so itself. -/
  missing : ∀ nickname,
    bus.messageOf nickname = noMessage ↔
      HasNoMessage calls nickname ∨ IsMessageOf calls nickname noMessage
  /-- In whatever order message names are gone through, the search comes to the same. -/
  anyListing : ∀ listing, Lists listing (latestHandler? calls) →
    ∀ nickname,
      bus.messageOf nickname =
        ((latestAlias? calls nickname).bind (leastWith? listing)).getD noMessage
  /-- Only calls that share an alias or a message name need to stay in their order. -/
  anyOrder : ∀ others : List HandlerItem,
    (∀ name,
      (others.filter fun call => call.nickname = some name) =
        calls.filter fun call => call.nickname = some name) →
    (∀ name,
      (others.filter fun call => call.identifier = name) =
        calls.filter fun call => call.identifier = name) →
    (empty kind).registering others = bus
  handlers : ListsInOrder bus.handlers.toList (latestHandler? calls)
  aliases : ListsInOrder bus.aliases.toList (latestAlias? calls)

section Laws

variable {kind : BusKind} {calls : List HandlerItem}

/-- The handler of a name is the one that a lookup finds. -/
theorem getHandler_eq_ok_iff
    {bus : MessageBus}
    {name handler : String} :
    bus.getHandler name = .ok handler ↔ bus.handler? name = some handler := by
  unfold getHandler
  cases bus.handler? name with
  | none => simp
  | some found => simp

theorem hasHandler_eq_isSome (bus : MessageBus) (name : String) :
    bus.hasHandler name = (bus.handler? name).isSome := by
  simp only [hasHandler, handler?, Dict.contains]
  cases bus.aliases.find? name with
  | none => rfl
  | some handler => rfl

/-- Whichever listing is searched, an alias has the least name in it as its message, or none. -/
theorem search_eq_some_iff
    {listing : List (String × String)}
    (lists : Lists listing (latestHandler? calls))
    {nickname identifier : String} :
    (latestAlias? calls nickname).bind (leastWith? listing) = some identifier ↔
      IsMessageOf calls nickname identifier := by
  simp only [Option.bind_eq_some_iff, leastWith?_eq_some_iff, lists _ _, IsMessageOf]

theorem search_eq_none_iff
    {listing : List (String × String)}
    (lists : Lists listing (latestHandler? calls))
    {nickname : String} :
    (latestAlias? calls nickname).bind (leastWith? listing) = none ↔
      HasNoMessage calls nickname := by
  cases isAlias : latestAlias? calls nickname with
  | none => simp [HasNoMessage, isAlias]
  | some handler =>
      have unlisted :
          leastWith? listing handler = none ↔
            ∀ identifier, latestHandler? calls identifier ≠ some handler := by
        rw [leastWith?, List.min?_eq_none_iff, List.map_eq_nil_iff, List.filter_eq_nil_iff]
        constructor
        · intro absent identifier registered
          exact absent (identifier, handler) ((lists _ _).mpr registered) (by simp)
        · intro unregistered entry member same
          have sameHandler : entry.2 = handler := of_decide_eq_true same
          exact unregistered entry.1 ((lists _ _).mp (sameHandler ▸ member))
      simp [HasNoMessage, isAlias, unlisted]

theorem lists_handlers_registering (kind : BusKind) (calls : List HandlerItem) :
    Lists ((empty kind).registering calls).handlers.toList (latestHandler? calls) := by
  intro name handler
  rw [(ordered_handlers_registering kind calls).mem_toList_iff, find?_handlers_registering]

theorem lists_aliases_registering (kind : BusKind) (calls : List HandlerItem) :
    Lists ((empty kind).registering calls).aliases.toList (latestAlias? calls) := by
  intro name handler
  rw [(ordered_aliases_registering kind calls).mem_toList_iff, find?_aliases_registering]

/-- The message name of an alias is found by searching any listing of the current handlers. -/
theorem messageOf_registering
    {listing : List (String × String)}
    (lists : Lists listing (latestHandler? calls))
    (nickname : String) :
    ((empty kind).registering calls).messageOf nickname =
      ((latestAlias? calls nickname).bind (leastWith? listing)).getD noMessage := by
  rw [messageOf_eq (ordered_handlers_registering kind calls), find?_aliases_registering,
    funext (leastWith?_congr (lists_handlers_registering kind calls) lists)]

/-- Calls with the same ones under every name leave the same bus. -/
theorem registering_congr
    {others : List HandlerItem}
    (sameAliases : ∀ name,
      (others.filter fun call => call.nickname = some name) =
        calls.filter fun call => call.nickname = some name)
    (sameHandlers : ∀ name,
      (others.filter fun call => call.identifier = name) =
        calls.filter fun call => call.identifier = name) :
    (empty kind).registering others = (empty kind).registering calls := by
  have aliases :
      ((empty kind).registering others).aliases = ((empty kind).registering calls).aliases := by
    refine (ordered_aliases_registering kind others).eq_of_find?_eq
      (ordered_aliases_registering kind calls) fun name => ?_
    rw [find?_aliases_registering, find?_aliases_registering, latestAlias?, latestAlias?,
      latest?, latest?, sameAliases]
  have handlers :
      ((empty kind).registering others).handlers =
        ((empty kind).registering calls).handlers := by
    refine (ordered_handlers_registering kind others).eq_of_find?_eq
      (ordered_handlers_registering kind calls) fun name => ?_
    rw [find?_handlers_registering, find?_handlers_registering, latestHandler?, latestHandler?,
      latest?, latest?]
    simp only [Option.some.injEq, sameHandlers]
  have kinds :
      ((empty kind).registering others).kind = ((empty kind).registering calls).kind := by
    rw [kind_registering, kind_registering]
  exact MessageBus.ext kinds handlers aliases

end Laws

/-- After any registrations, every question to a message bus is answered as the latest of them
say. -/
theorem lookupLaws_of_registering (kind : BusKind) (calls : List HandlerItem) :
    LookupLaws kind calls ((empty kind).registering calls) := by
  have lists := lists_handlers_registering kind calls
  have search (nickname : String) :
      ((empty kind).registering calls).messageOf nickname =
        ((latestAlias? calls nickname).bind
          (leastWith? ((empty kind).registering calls).handlers.toList)).getD noMessage :=
    messageOf_registering lists nickname
  refine
    { getHandler := ?_
      hasHandler := ?_
      messageOf := ?_
      missing := ?_
      anyListing := fun listing listsToo => messageOf_registering listsToo
      anyOrder := fun others => registering_congr
      handlers :=
        { lists := lists
          increasing := ordered_handlers_registering kind calls
          once := (ordered_handlers_registering kind calls).nodup }
      aliases :=
        { lists := lists_aliases_registering kind calls
          increasing := ordered_aliases_registering kind calls
          once := (ordered_aliases_registering kind calls).nodup } }
  · intro name
    rw [getHandler, handler?_registering]
    cases latestAlias? calls name with
    | some handler => rfl
    | none =>
        cases latestHandler? calls name with
        | some handler => rfl
        | none => rfl
  · intro name
    simp only [hasHandler_eq_isSome, getHandler_eq_ok_iff, Option.isSome_iff_exists]
  · intro nickname
    rw [search]
    cases found : (latestAlias? calls nickname).bind
        (leastWith? ((empty kind).registering calls).handlers.toList) with
    | some identifier => exact Or.inl ⟨identifier, (search_eq_some_iff lists).mp found, rfl⟩
    | none => exact Or.inr ⟨(search_eq_none_iff lists).mp found, rfl⟩
  · intro nickname
    rw [search, ← search_eq_none_iff lists, ← search_eq_some_iff lists]
    cases (latestAlias? calls nickname).bind
        (leastWith? ((empty kind).registering calls).handlers.toList) with
    | some identifier => simp
    | none => simp

/-- A handler with two message names, the lesser of which is the text that stands for none. -/
def callsNamedLikeNone : List HandlerItem :=
  [{ identifier := noMessage, handler := "OrderHandler", nickname := some "order:create" },
    { identifier := "Order", handler := "OrderHandler", nickname := none }]

/-- The answer that there is no message can be given for an alias whose handler has messages: the
least of them may be called so. -/
theorem messageOf_can_be_called_noMessage :
    ((empty .command).registering callsNamedLikeNone).messageOf "order:create" = noMessage ∧
      latestAlias? callsNamedLikeNone "order:create" = some "OrderHandler" ∧
      latestHandler? callsNamedLikeNone "Order" = some "OrderHandler" ∧
      ¬ HasNoMessage callsNamedLikeNone "order:create" := by
  refine ⟨by decide, by decide, by decide, ?_⟩
  rintro (noAlias | ⟨handler, isAlias, unregistered⟩)
  · exact absurd noAlias (by decide)
  · refine unregistered "Order" (Eq.trans ?_ isAlias)
    decide

end Switchboard.MessageBus
