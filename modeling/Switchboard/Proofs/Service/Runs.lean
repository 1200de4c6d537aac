import Switchboard.Proofs.Service.Growth

namespace Switchboard

/-!
# Runs of constructors and factories

Every run is recorded after the ones before it, and every object that a builder makes gets a
number that was not given out before.  So what the memo has after a call and did not have before
it was made by a run in between.
-/

variable {κ χ : Type}

/-- Numbers are given out and runs recorded one after the other. -/
structure Grown (before after : Container κ χ) : Prop where
  numbers : before.nextId ≤ after.nextId
  runs : ∃ added, after.runs = before.runs ++ added

namespace Grown

theorem of_same
    {before after : Container κ χ}
    (sameNumbers : after.nextId = before.nextId)
    (sameRuns : after.runs = before.runs) :
    Grown before after :=
  ⟨Nat.le_of_eq sameNumbers.symm, [], by rw [sameRuns, List.append_nil]⟩

theorem refl (container : Container κ χ) : Grown container container :=
  of_same rfl rfl

theorem trans
    (first second third : Container κ χ)
    (earlier : Grown first second)
    (later : Grown second third) :
    Grown first third := by
  obtain ⟨added, extended⟩ := earlier.runs
  obtain ⟨more, extendedOn⟩ := later.runs
  refine ⟨Nat.le_trans earlier.numbers later.numbers, added ++ more, ?_⟩
  rw [extendedOn, extended, List.append_assoc]

end Grown

/-- A run between two containers made the object for an order of this key. -/
def NewlyMade
    (toolkit : Toolkit κ)
    (before after : Container κ χ)
    (key : String)
    (object : Instance κ) :
    Prop :=
  before.nextId ≤ object.id ∧
    ∃ (order : Order) (added : List (Run κ)), ∃ run ∈ added,
      order.key toolkit.digest = key ∧ after.runs = before.runs ++ added ∧
        run.origin = order.origin ∧ run.made = some object

/-- What was made in between was made in any longer time around it. -/
theorem NewlyMade.mono
    {toolkit : Toolkit κ}
    {earliest before after latest : Container κ χ}
    {key : String}
    {object : Instance κ}
    (made : NewlyMade toolkit before after key object)
    (earlier : Grown earliest before)
    (later : Grown after latest) :
    NewlyMade toolkit earliest latest key object := by
  obtain ⟨isNew, order, added, run, member, sameKey, extended, ran, isMade⟩ := made
  obtain ⟨first, grown⟩ := earlier.runs
  obtain ⟨last, grownOn⟩ := later.runs
  refine ⟨Nat.le_trans earlier.numbers isNew, order, first ++ added ++ last, run, ?_, sameKey, ?_,
    ran, isMade⟩
  · exact List.mem_append_left _ (List.mem_append_right _ member)
  · rw [grownOn, extended, grown]
    simp only [List.append_assoc]

theorem Builder.grown_of_make
    {origin : Origin}
    {title : String}
    {maker : Maker κ}
    {arguments : Arguments κ}
    {container after : Container κ χ}
    {outcome : Except BuildError (Instance κ)}
    (made : make origin title maker arguments container = some (outcome, after)) :
    Grown container after := by
  unfold make at made
  split at made
  · cases made
    exact ⟨Nat.le_refl _, _, rfl⟩
  · cases made
    exact ⟨Nat.le_succ _, _, rfl⟩

variable [CacheStore χ (Instance κ)]

theorem stride_grown (toolkit : Toolkit κ) :
    Stride toolkit (Grown (κ := κ) (χ := χ)) where
  refl := .refl
  trans := .trans
  lookUp _ _ := .of_same rfl rfl
  own _ := ⟨Nat.le_succ _, [], (List.append_nil _).symm⟩
  make _ _ _ _ _ _ _ made := Builder.grown_of_make made
  remember _ _ _ := .of_same rfl rfl
  keep _ _ _ := .of_same rfl rfl

/-- Carrying out an order ends with a run for it. -/
theorem Builder.newlyMade_of_assemble
    {toolkit : Toolkit κ}
    {fuel : Nat}
    {order : Order}
    {container after : Container κ χ}
    {object : Instance κ}
    (assembled :
      assemble toolkit (Container.get toolkit fuel) order container =
        some (.ok object, after)) :
    NewlyMade toolkit container after (order.key toolkit.digest) object := by
  obtain ⟨recipe, _, followed⟩ := recipe_of_assemble_ok assembled
  rcases Attempt.bind_eq_some.mp followed with ⟨_, _, refused⟩ | ⟨resolved, between, supplied, made⟩
  · cases refused
  · have grown : Grown container between :=
      supplyAll_relates .refl .trans
        (fun _ _ _ _ _ resolved =>
          (stride_grown toolkit).walk.gets fuel _ _ _ _ trivial resolved)
        supplied
    obtain ⟨added, extended⟩ := grown.runs
    unfold make at made
    cases ran : recipe.maker resolved with
    | error failure =>
        rw [ran] at made
        cases made
    | ok product =>
        rw [ran] at made
        cases made
        let run : Run κ :=
          { origin := order.origin, arguments := resolved
            made := some (product.toInstance between.nextId) }
        refine ⟨grown.numbers, order, added ++ [run], run, List.mem_append_right _ (by simp), rfl,
          ?_, rfl, rfl⟩
        rw [← List.append_assoc, ← extended]

/-- What a call adds to the memo it made. -/
theorem walk_newlyMade (toolkit : Toolkit κ) :
    Walk toolkit (fun _ => True) fun before after : Container κ χ =>
      Grown before after ∧
        ∀ key object, after.memo.find? key = some object →
          before.memo.find? key = some object ∨
            NewlyMade toolkit before after key object where
  closed _ _ _ _ := trivial
  refl container := ⟨.refl container, fun _ _ held => Or.inl held⟩
  trans := by
    rintro first second third ⟨grown, earlier⟩ ⟨grownOn, later⟩
    refine ⟨.trans _ _ _ grown grownOn, fun key object held => ?_⟩
    rcases later key object held with before | made
    · exact (earlier key object before).imp_right fun made => made.mono (.refl _) grownOn
    · exact Or.inr (made.mono grown (.refl _))
  lookUp id container := ⟨(stride_grown toolkit).lookUp id container, fun _ _ held => Or.inl held⟩
  own container := ⟨(stride_grown toolkit).own container, fun _ _ held => Or.inl held⟩
  make := by
    intro origin title maker arguments container outcome after made
    refine ⟨Builder.grown_of_make made, fun key object held => ?_⟩
    rw [(Builder.make_frame made).2.2.1] at held
    exact Or.inl held
  remember := by
    rintro fuel order container object between _ _ assembled _ ⟨grown, related⟩
    have untouched := (stride_grown toolkit).remember (order.key toolkit.digest) object between
    refine ⟨.trans _ _ _ grown untouched, fun key held isHeld => ?_⟩
    have ofRelated
        (before : between.memo.find? key = some held) :
        container.memo.find? key = some held ∨
          NewlyMade toolkit container (between.remembering (order.key toolkit.digest) object)
            key held :=
      (related key held before).imp_right fun made => made.mono (.refl _) untouched
    rcases find?_of_find?_remembering isHeld with before | ⟨rfl, isAnswer⟩
    · exact ofRelated before
    · cases present : between.memo.find? (order.key toolkit.digest) with
      | some earlier =>
          rw [Memo.remember, present] at isAnswer
          cases isAnswer
          exact ofRelated present
      | none =>
          rw [Memo.remember, present] at isAnswer
          cases isAnswer
          exact Or.inr ((Builder.newlyMade_of_assemble assembled).mono (.refl _) untouched)
  keep := by
    rintro fuel id container object between _ _ _ _ _ _ ⟨grown, related⟩
    have untouched := (stride_grown toolkit).keep (Key.service toolkit.digest id) object between
    exact ⟨.trans _ _ _ grown untouched, fun key held isHeld =>
      (related key held isHeld).imp_right fun made => made.mono (.refl _) untouched⟩

end Switchboard
