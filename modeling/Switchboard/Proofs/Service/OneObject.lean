import Switchboard.Proofs.Bus.Frame
import Switchboard.Proofs.Service.History

namespace Switchboard

/-!
# One object for an order

As long as its memo is not cleared, a builder comes to the same object whenever it succeeds with
the same order: when it is asked directly, deep inside the resolution of a service, for another
container, or because a bus needs a handler or a listener.
-/

variable {κ χ ω : Type} [CacheStore χ (Instance κ)]

namespace Deed

/-- The calls that are made in the course of a deed, at any depth. -/
def Covers (toolkit : Toolkit κ) (deed : Deed κ χ ω) (moment : Moment κ χ) : Prop :=
  ∃ root, deed.Starts toolkit root ∧ root.Within toolkit moment

/-- In the course of a deed, the builder of the container came to an object of an order. -/
inductive Builds
    (toolkit : Toolkit κ)
    (deed : Deed κ χ ω)
    (order : Order)
    (object : Instance κ) :
    Prop
  /-- A call of the container was this build. -/
  | called
      {moment : Moment κ χ}
      {after : Container κ χ}
      (covers : deed.Covers toolkit moment)
      (isBuild : moment.call = .build order)
      (ends : moment.Ends toolkit (some object) after)
  /-- The builder worked for another container. -/
  | lent
      {others : Toolkit κ}
      {other otherAfter : Container κ χ}
      {definition : Definition κ}
      {memo : Memo κ}
      (lends : deed.operation = .buildFor others other definition)
      (asked : definition.order? = some order)
      (built :
        Builder.buildDefinitionApart toolkit (Container.get others deed.fuel) definition
            (deed.container.memo, other) =
          some (.ok object, (memo, otherAfter)))

variable [CacheStore ω Json.Value]

/-- A call that a deed makes ends if the deed does, and what comes after it keeps a relation that
every step keeps. -/
theorem ends_of_starts
    {toolkit : Toolkit κ}
    {relates : Container κ χ → Container κ χ → Prop}
    (stride : Stride toolkit relates)
    {deed : Deed κ χ ω}
    {root : Moment κ χ}
    {outcome : Except AnyError (Option (Instance κ))}
    {after : Container κ χ}
    (starts : deed.Starts toolkit root)
    (ends : deed.Ends toolkit outcome after) :
    ∃ result rootAfter, root.Ends toolkit result rootAfter ∧ relates rootAfter after := by
  cases starts with
  | get =>
      obtain ⟨_, ended, _⟩ := Attempt.bind_pure_eq_some.mp ends
      obtain ⟨answer, ended, _⟩ := Attempt.mapError_eq_some.mp ended
      exact ⟨_, after, ⟨answer, ended, rfl⟩, stride.refl after⟩
  | build asked =>
      obtain ⟨_, ended, _⟩ := Attempt.bind_pure_eq_some.mp ends
      obtain ⟨answer, ended, _⟩ := Attempt.mapError_eq_some.mp ended
      rw [Builder.buildDefinition_of_order asked] at ended
      exact ⟨_, after, ⟨answer, ended, rfl⟩, stride.refl after⟩
  | follow =>
      obtain ⟨_, ended, _⟩ := Attempt.bind_pure_eq_some.mp ends
      obtain ⟨_, ended, _⟩ := Attempt.mapError_eq_some.mp ended
      obtain ⟨answer, ended, _⟩ := Attempt.mapError_eq_some.mp ended
      exact ⟨_, after, ⟨answer, ended, rfl⟩, stride.refl after⟩
  | followApart =>
      obtain ⟨_, ended, _⟩ := Attempt.bind_pure_eq_some.mp ends
      obtain ⟨_, carried, ended, _⟩ := Attempt.carrying_eq_some.mp ended
      obtain ⟨_, ended, _⟩ := Attempt.mapError_eq_some.mp ended
      rw [Builder.buildDefinitionApart_of_no_order rfl] at ended
      obtain ⟨part, ended, same⟩ := Attempt.focus_eq_some.mp ended
      obtain ⟨answer, ended, _⟩ := Attempt.mapError_eq_some.mp ended
      cases same
      exact ⟨_, after, ⟨answer, ended, rfl⟩, stride.refl after⟩
  | injectApart asked miss known asks =>
      obtain ⟨_, ended, _⟩ := Attempt.bind_pure_eq_some.mp ends
      obtain ⟨_, carried, ended, _⟩ := Attempt.carrying_eq_some.mp ended
      obtain ⟨_, ended, _⟩ := Attempt.mapError_eq_some.mp ended
      rw [Builder.buildDefinitionApart_of_order asked] at ended
      cases Builder.buildApart_ends ended with
      | remembered hit =>
          cases miss.symm.trans hit
      | failed _ assembling =>
          obtain ⟨answer, afterwards, resolved, related⟩ :=
            stride.injected_ends known asks assembling
          exact ⟨_, afterwards, ⟨answer, resolved, rfl⟩, related⟩
      | built _ assembling =>
          obtain ⟨answer, afterwards, resolved, related⟩ :=
            stride.injected_ends known asks assembling
          exact ⟨_, afterwards, ⟨answer, resolved, rfl⟩, related⟩

/-- What a builder came to in the course of a deed is remembered after the deed. -/
theorem Builds.remembered
    {toolkit : Toolkit κ}
    {deed : Deed κ χ ω}
    {order : Order}
    {object : Instance κ}
    {outcome : Except AnyError (Option (Instance κ))}
    {after : Container κ χ}
    (builds : deed.Builds toolkit order object)
    (ends : deed.Ends toolkit outcome after) :
    after.memo.find? (order.key toolkit.digest) = some object := by
  cases builds with
  | @called moment momentAfter covers isBuild succeeded =>
      obtain ⟨root, starts, within⟩ := covers
      have stride := stride_memoKept (χ := χ) toolkit
      obtain ⟨rootResult, rootAfter, rootEnds, keptToEnd⟩ := ends_of_starts stride starts ends
      obtain ⟨result, innerAfter, innerEnds, keptToRoot⟩ := stride.ends_of_within within rootEnds
      obtain ⟨rfl, rfl⟩ := innerEnds.unique succeeded
      obtain ⟨fuel, call, container⟩ := moment
      subst isBuild
      obtain ⟨answer, built, isObject⟩ := succeeded
      cases answer with
      | error error => cases isObject
      | ok object' =>
          cases isObject
          exact keptToEnd _ _ (keptToRoot _ _ (Builder.find?_of_build built))
  | @lent others other otherAfter definition memo lends asked built =>
      obtain ⟨fuel, operation, container⟩ := deed
      subst lends
      simp only [Ends, Operation.run, built] at ends
      cases ends
      rw [Builder.buildDefinitionApart_of_order asked] at built
      cases Builder.buildApart_ends built with
      | remembered hit => exact hit
      | built miss assembling => exact Dict.find?_insert_self _ _ _

end Deed

variable [CacheStore ω Json.Value]

theorem History.of_mem
    {toolkit : Toolkit κ}
    {start now : Container κ χ}
    {deeds : List (Deed κ χ ω)}
    {deed : Deed κ χ ω}
    (history : History toolkit start deeds now)
    (member : deed ∈ deeds) :
    ∃ outcome after rest,
      deed.Ends toolkit outcome after ∧ (∀ later ∈ rest, later ∈ deeds) ∧
        History toolkit after rest now := by
  induction history with
  | start =>
      cases member
  | @step deeds last outcome now earlier ends inductionHypothesis =>
      rcases List.mem_append.mp member with before | isLast
      · obtain ⟨firstOutcome, after, rest, firstEnds, restMembers, later⟩ :=
          inductionHypothesis before
        refine ⟨firstOutcome, after, rest ++ [last], firstEnds, ?_, .step later ends⟩
        intro other otherMember
        rcases List.mem_append.mp otherMember with inRest | isLast
        · exact List.mem_append_left _ (restMembers other inRest)
        · exact List.mem_append_right _ isLast
      · rw [List.mem_singleton.mp isLast]
        exact ⟨outcome, now, [], ends, by simp, .start⟩

/-- What the memo of a builder has to do with the deeds that led from one container to another. -/
structure MemoLaws
    (toolkit : Toolkit κ)
    (before : Container κ χ)
    (deeds : List (Deed κ χ ω))
    (after : Container κ χ) :
    Prop where
  /-- No entry is lost or replaced. -/
  kept : MemoKept before after
  /-- Two builds of one order come to one object. -/
  agree : ∀ first ∈ deeds, ∀ second ∈ deeds, ∀ order one other,
    first.Builds toolkit order one → second.Builds toolkit order other → one = other
  /-- A build that fails leaves nothing under its key but what a build inside it came to. -/
  failed : ∀ deed ∈ deeds, ∀ moment order afterwards object,
    deed.Covers toolkit moment → moment.call = .build order →
      moment.Ends toolkit none afterwards →
      afterwards.memo.find? (order.key toolkit.digest) = some object →
      Moment.Built toolkit (moment.Inside toolkit) (order.key toolkit.digest) object
  /-- A build for another container that fails leaves the memo as it was. -/
  failedFor : ∀ deed ∈ deeds, ∀ others other definition error memo otherAfter,
    deed.operation = .buildFor others other definition →
      Builder.buildDefinitionApart toolkit (Container.get others deed.fuel) definition
          (deed.container.memo, other) =
        some (.error error, (memo, otherAfter)) →
      memo = deed.container.memo

/-- The memo laws hold of every history without clearing. -/
theorem History.memoLaws
    {toolkit : Toolkit κ}
    {start now : Container κ χ}
    {deeds : List (Deed κ χ ω)}
    (history : History toolkit start deeds now)
    (permitted : ∀ deed ∈ deeds, deed.operation.clears = false) :
    MemoLaws toolkit start deeds now := by
  have routine := routine_memoKept (κ := κ) (χ := χ) (ω := ω) toolkit
  have remembered
      {deed : Deed κ χ ω}
      {order : Order}
      {object : Instance κ}
      (member : deed ∈ deeds)
      (builds : deed.Builds toolkit order object) :
      now.memo.find? (order.key toolkit.digest) = some object := by
    obtain ⟨outcome, after, rest, ends, restMembers, later⟩ := history.of_mem member
    have kept := routine.relates_of_history
      (fun later laterMember => permitted later (restMembers later laterMember)) later
    exact kept _ _ (builds.remembered ends)
  refine
    { kept := routine.relates_of_history permitted history
      agree := ?_
      failed := ?_
      failedFor := ?_ }
  · intro first firstMember second secondMember order one other buildsOne buildsOther
    have heldOne := remembered firstMember buildsOne
    have heldOther := remembered secondMember buildsOther
    exact Option.some.inj (heldOne.symm.trans heldOther)
  · intro deed _ moment order afterwards object _ isBuild fails held
    have added := (walk_memoAdded toolkit fun _ _ => Relation.ReflTransGen.tail).relates_of_ends
      Relation.ReflTransGen.refl fails
    rcases added _ _ held with before | built
    · obtain ⟨fuel, call, container⟩ := moment
      subst isBuild
      obtain ⟨answer, ended, isError⟩ := fails
      rw [Builder.build_remembered before] at ended
      cases ended
      cases isError
    · exact built.inside fails
  · intro deed _ others other definition error memo otherAfter _ ended
    cases asked : definition.order? with
    | none =>
        rw [Builder.buildDefinitionApart_of_no_order asked] at ended
        obtain ⟨part, _, same⟩ := Attempt.focus_eq_some.mp ended
        cases same
        rfl
    | some order =>
        rw [Builder.buildDefinitionApart_of_order asked] at ended
        cases Builder.buildApart_ends ended with
        | failed miss assembling => rfl

end Switchboard
