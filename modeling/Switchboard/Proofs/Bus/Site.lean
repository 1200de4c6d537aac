import Switchboard.Bench.Sample
import Switchboard.Proofs.Bus.Frame
import Switchboard.Proofs.Service.OneObject

namespace Switchboard

/-!
# A container behind buses

Buses build their handlers and listeners with the builder of a container, which handlers and
listeners may use in turn.  A site is a state with a container in it and a record of the deeds
that were done with it; whatever is done at a site, by anybody, is a history of its container.
-/

variable {κ χ ω σ μ : Type}

/-- How a state holds a container and a record of what was done with it. -/
structure Site (σ κ χ ω : Type) where
  container : σ → Container κ χ
  deeds : σ → List (Deed κ χ ω)

variable [CacheStore χ (Instance κ)] [CacheStore ω Json.Value]

namespace Site

/-- Recorded deeds without clearing lead from one state to another. -/
def Leads (site : Site σ κ χ ω) (toolkit : Toolkit κ) (before after : σ) : Prop :=
  ∃ deeds,
    site.deeds after = site.deeds before ++ deeds ∧
      (∀ deed ∈ deeds, deed.operation.clears = false) ∧
      History toolkit (site.container before) deeds (site.container after)

theorem Leads.refl
    {site : Site σ κ χ ω}
    {toolkit : Toolkit κ}
    (state : σ) :
    site.Leads toolkit state state :=
  ⟨[], (List.append_nil _).symm, by simp, .start⟩

theorem Leads.trans
    {site : Site σ κ χ ω}
    {toolkit : Toolkit κ}
    {first second third : σ}
    (earlier : site.Leads toolkit first second)
    (later : site.Leads toolkit second third) :
    site.Leads toolkit first third := by
  obtain ⟨deeds, recorded, permitted, history⟩ := earlier
  obtain ⟨more, recordedMore, permittedMore, historyMore⟩ := later
  refine ⟨deeds ++ more, ?_, ?_, history.append historyMore⟩
  · rw [recordedMore, recorded, List.append_assoc]
  · intro deed member
    rcases List.mem_append.mp member with before | after
    · exact permitted deed before
    · exact permittedMore deed after

/--
The site hosts buses: they build with the builder of its container, and handlers and listeners do
nothing to the container but what is recorded.
-/
structure Hosts
    (site : Site σ κ χ ω)
    (toolkit : Toolkit κ)
    (host : Host σ (Instance κ) μ) :
    Prop where
  build : ∀ className state outcome after,
    host.build className state = some (outcome, after) →
      ∃ fuel,
        Builder.build toolkit (Container.get toolkit fuel) (.ofClass className [])
            (site.container state) =
          some (outcome, site.container after) ∧
        site.deeds after =
          site.deeds state ++
            [{ fuel := fuel, operation := .build (.ofClass className [])
               container := site.container state }]
  handling : ∀ object handle message,
    host.handling? object = some handle → (handle message).Moves (site.Leads toolkit)
  listening : ∀ object react,
    host.listening? object = some react → react.Moves (Beside (site.Leads toolkit))

/-- Whatever a host of a site does leads there by recorded deeds. -/
theorem Hosts.keeps
    {site : Site σ κ χ ω}
    {toolkit : Toolkit κ}
    {host : Host σ (Instance κ) μ}
    (hosts : site.Hosts toolkit host) :
    host.Keeps (site.Leads toolkit) where
  refl := Leads.refl
  trans _ _ _ := Leads.trans
  build := by
    intro className state outcome after ended
    obtain ⟨fuel, built, recorded⟩ := hosts.build className state outcome after ended
    refine ⟨_, recorded, ?_, ?_⟩
    · intro deed member
      rw [List.mem_singleton.mp member]
      rfl
    · have ends :
          Deed.Ends (ω := ω) toolkit
            { fuel := fuel, operation := .build (.ofClass className [])
              container := site.container state }
            ((outcome.mapError .build).map some) (site.container after) :=
        Attempt.bind_pure_eq_some.mpr
          ⟨_, Attempt.mapError_eq_some.mpr ⟨outcome, built, rfl⟩, rfl⟩
      exact History.step History.start ends
  handling := hosts.handling
  listening := hosts.listening

/-- What can be done at a site with buses. -/
inductive Acts
    [Message μ]
    (site : Site σ κ χ ω)
    (toolkit : Toolkit κ)
    (host : Host σ (Instance κ) μ) :
    Exchange × σ → Exchange × σ → Prop
  /-- Somebody uses the container. -/
  | use {exchange : Exchange} {before after : σ} (leads : site.Leads toolkit before after) :
      Acts site toolkit host (exchange, before) (exchange, after)
  /-- The buses are set up or changed otherwise. -/
  | arrange {exchange other : Exchange} {state : σ} :
      Acts site toolkit host (exchange, state) (other, state)
  | execute
      {id : MessageBusId}
      {message : μ}
      {before after : Exchange × σ}
      {outcome : Except BusError μ}
      (ended : Exchange.execute host id message before = some (outcome, after)) :
      Acts site toolkit host before after
  | executeEvent
      {id : EventBusId}
      {message : μ}
      {before after : Exchange × σ}
      {outcome : Except BusError (Option Event)}
      (ended :
        Exchange.onEventBus id (EventBus.execute host message) before =
          some (outcome, after)) :
      Acts site toolkit host before after
  | dispatch
      {id : EventBusId}
      {event : Event}
      {before after : Exchange × σ}
      {outcome : Except BusError Event}
      (ended : Exchange.dispatch host id event before = some (outcome, after)) :
      Acts site toolkit host before after
  /-- Workers have their turns. -/
  | takeTurns
      {turns : List (Share EventBusId)}
      {before after : Exchange × σ}
      {outcome : Except BusError (List Warning)}
      (ended : Exchange.takeTurns host turns before = some (outcome, after)) :
      Acts site toolkit host before after
  | shutdownEventBus
      {id : EventBusId}
      {before after : Exchange × σ}
      {outcome : Except BusError (List Warning)}
      (ended : Exchange.shutdownEventBus host id before = some (outcome, after)) :
      Acts site toolkit host before after
  | shutdown
      {before after : Exchange × σ}
      {outcome : Except BusError (List Warning)}
      (ended : Exchange.shutdown host before = some (outcome, after)) :
      Acts site toolkit host before after

theorem leads_of_acts
    [Message μ]
    {site : Site σ κ χ ω}
    {toolkit : Toolkit κ}
    {host : Host σ (Instance κ) μ}
    {before after : Exchange × σ}
    (hosts : site.Hosts toolkit host)
    (acts : site.Acts toolkit host before after) :
    site.Leads toolkit before.2 after.2 := by
  cases acts with
  | use leads => exact leads
  | arrange => exact Leads.refl _
  | execute ended => exact hosts.keeps.execute _ _ _ _ _ ended
  | executeEvent ended =>
      exact Host.Keeps.onEventBus (hosts.keeps.executeEvent _) _ _ _ ended
  | dispatch ended => exact hosts.keeps.dispatch _ _ _ _ _ ended
  | takeTurns ended => exact hosts.keeps.takeTurns _ _ _ _ ended
  | shutdownEventBus ended => exact hosts.keeps.shutdownEventBus _ _ _ _ ended
  | shutdown ended => exact hosts.keeps.shutdown _ _ _ ended

/-- Any acts lead by recorded deeds. -/
theorem leads_of_run
    [Message μ]
    {site : Site σ κ χ ω}
    {toolkit : Toolkit κ}
    {host : Host σ (Instance κ) μ}
    {start now : Exchange × σ}
    (hosts : site.Hosts toolkit host)
    (run : Relation.ReflTransGen (site.Acts toolkit host) start now) :
    site.Leads toolkit start.2 now.2 := by
  induction run with
  | refl => exact Leads.refl _
  | tail _ acts inductionHypothesis => exact inductionHypothesis.trans (leads_of_acts hosts acts)

namespace Example

/-- A container and the deeds that were done with it. -/
abbrev State : Type :=
  Container Unit (MemoryCache (Instance Unit)) ×
    List (Deed Unit (MemoryCache (Instance Unit)) (BlankCache Json.Value))

/-- The site of such states. -/
def site : Site State Unit (MemoryCache (Instance Unit)) (BlankCache Json.Value) :=
  { container := Prod.fst, deeds := Prod.snd }

/-- Build an object of a class, and record it. -/
def build (className : String) : Attempt State BuildError (Instance Unit) := fun state =>
  match Builder.build Reentry.toolkit (Container.get Reentry.toolkit 9) (.ofClass className [])
      state.1 with
  | none => none
  | some (outcome, after) =>
      some (outcome,
        (after, state.2 ++
          [{ fuel := 9, operation := .build (.ofClass className []), container := state.1 }]))

/-- A host whose objects listen to everything and do nothing about it. -/
def host : Host State (Instance Unit) Bench.Sample :=
  { build := build
    handling? := fun _ => none
    listening? := fun _ => some (pure ())
    timestamp := fun _ => ""
    hasBackground := false }

/-- An exchange with one event bus, on which `x` listens to `ping`. -/
def exchange : Exchange :=
  let (id, exchange) := (Exchange.empty .initial).eventBus
  exchange.setEventBus id ((exchange.getEventBus id).register "ping" "x" none)

def ping : Attempt (Exchange × State) BusError Event :=
  Exchange.dispatch host 0 (.named "ping" "")

private theorem hosts : site.Hosts Reentry.toolkit host where
  build := by
    intro className state outcome after ended
    simp only [host, build] at ended
    cases built : Builder.build Reentry.toolkit (Container.get Reentry.toolkit 9)
        (.ofClass className []) state.1 with
    | none =>
        rw [built] at ended
        cases ended
    | some ending =>
        rw [built] at ended
        cases ended
        exact ⟨9, built, rfl⟩
  handling _ _ _ found := nomatch found
  listening := by
    intro object react found
    cases found
    exact .pure (Beside.refl Leads.refl) ()

end Example

/--
However a container and the buses behind it are used, short of clearing the memo, every two
builds of one order come to the same object, no remembered object is replaced, and a build that
fails leaves nothing under its key but what a build inside it came to.
-/
theorem one_object_per_order
    [Message μ]
    {site : Site σ κ χ ω}
    {toolkit : Toolkit κ}
    {host : Host σ (Instance κ) μ}
    {start now : Exchange × σ}
    (hosts : site.Hosts toolkit host)
    (run : Relation.ReflTransGen (site.Acts toolkit host) start now) :
    ∃ deeds,
      site.deeds now.2 = site.deeds start.2 ++ deeds ∧
        History toolkit (site.container start.2) deeds (site.container now.2) ∧
        MemoLaws toolkit (site.container start.2) deeds (site.container now.2) := by
  obtain ⟨deeds, recorded, permitted, history⟩ := leads_of_run hosts run
  exact ⟨deeds, recorded, history, history.memoLaws permitted⟩

/-- The laws hold of `ping` dispatched twice, which asks for the listener twice. -/
theorem one_object_per_order_of_pings :
    ∃ now : Exchange × Example.State, ∃ deeds,
      Relation.ReflTransGen (Example.site.Acts Reentry.toolkit Example.host)
          (Example.exchange, (Reentry.start, [])) now ∧
        now.2.2.length = 2 ∧
        now.2.2 = [] ++ deeds ∧
        MemoLaws Reentry.toolkit Reentry.start deeds now.2.1 := by
  have passes :
      Attempt.endsSo
        (fun _ between =>
          Attempt.endsSo (fun _ now => decide (now.2.2.length = 2)) (Example.ping between))
        (Example.ping (Example.exchange, (Reentry.start, []))) = true := by
    decide +kernel
  obtain ⟨_, between, first, rest⟩ := Attempt.exists_of_endsSo passes
  obtain ⟨_, now, second, twice⟩ := Attempt.exists_of_endsSo rest
  have run :
      Relation.ReflTransGen (Example.site.Acts Reentry.toolkit Example.host)
        (Example.exchange, (Reentry.start, [])) now :=
    (Relation.ReflTransGen.single (.dispatch first)).tail (.dispatch second)
  obtain ⟨deeds, recorded, _, laws⟩ := one_object_per_order Example.hosts run
  exact ⟨now, deeds, run, of_decide_eq_true twice, recorded, laws⟩

/-- A build can fail although its order was carried out on the way, and then it is remembered. -/
theorem failed_build_can_remember_its_order :
    ∃ error after object,
      Builder.build Reentry.toolkit (Container.get Reentry.toolkit 9) (.ofClass "A" [])
          Reentry.start =
        some (.error error, after) ∧
      Reentry.start.memo.find? ((Order.ofClass "A" []).key Reentry.toolkit.digest) = none ∧
      after.memo.find? ((Order.ofClass "A" []).key Reentry.toolkit.digest) = some object := by
  have passes :
      Attempt.endsSo
        (fun outcome after =>
          outcome.toOption.isNone &&
            (after.memo.find? ((Order.ofClass "A" []).key Reentry.toolkit.digest)).isSome)
        (Builder.build Reentry.toolkit (Container.get Reentry.toolkit 9) (.ofClass "A" [])
          Reentry.start) = true := by
    decide +kernel
  obtain ⟨outcome, after, ended, tested⟩ := Attempt.exists_of_endsSo passes
  obtain ⟨isError, held⟩ := Bool.and_eq_true_iff.mp tested
  obtain ⟨object, isObject⟩ := Option.isSome_iff_exists.mp held
  cases outcome with
  | ok object => cases isError
  | error error => exact ⟨error, after, object, ended, rfl, isObject⟩

end Site

end Switchboard
