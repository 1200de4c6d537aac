namespace Switchboard.Glob

/-!
# Signs that stand for parts of a list

A pattern is a list of signs, each of which stands for any run of items, also none, or for exactly
one item that passes a test.  A list fits if it can be cut into consecutive parts, one for each
sign.  `fittingEnds` decides this for a list and all its ends at once, one sign after another, so
that no pattern takes more than one step for each sign and item.  The main statements are the
equations of `fitsSigns`, which say what the first sign asks of the list.
-/

/-- What one sign of a pattern stands for. -/
inductive Sign (α : Type) where
  /-- Any run of items, also none. -/
  | run
  /-- Exactly one item, which passes a test. -/
  | one (accepts : α → Bool)

variable {α : Type}

/-- For every place, whether something holds there or at a later one. -/
def hereOrLater : List Bool → List Bool
  | [] => []
  | here :: rest =>
      let later := hereOrLater rest
      (here || later.headD false) :: later

/-- For every end of a list, beginning with the whole list, whether it fits a pattern. -/
def fittingEnds : List (Sign α) → List α → List Bool
  | [], items => items.map (fun _ => false) ++ [true]
  | .run :: signs, items => hereOrLater (fittingEnds signs items)
  | .one accepts :: signs, items =>
      List.zipWith (fun item fits => fits && accepts item) items
        (fittingEnds signs items).tail ++ [false]

/-- Whether a list fits a pattern. -/
def fitsSigns (signs : List (Sign α)) (items : List α) : Bool :=
  (fittingEnds signs items).headD false

/-- Every list has an end: itself. -/
theorem fittingEnds_ne_nil (signs : List (Sign α)) (items : List α) :
    fittingEnds signs items ≠ [] := by
  induction signs with
  | nil => simp [fittingEnds]
  | cons sign signs inductionHypothesis =>
      cases sign with
      | one accepts => simp [fittingEnds]
      | run =>
          cases ends : fittingEnds signs items with
          | nil => exact absurd ends inductionHypothesis
          | cons here rest => simp [fittingEnds, ends, hereOrLater]

/-- The ends of a list but itself are the ends of its tail. -/
theorem tail_fittingEnds_cons (signs : List (Sign α)) (item : α) (items : List α) :
    (fittingEnds signs (item :: items)).tail = fittingEnds signs items := by
  induction signs with
  | nil => simp [fittingEnds]
  | cons sign signs inductionHypothesis =>
      cases sign with
      | run =>
          cases ends : fittingEnds signs (item :: items) with
          | nil => exact absurd ends (fittingEnds_ne_nil signs (item :: items))
          | cons here rest =>
              rw [ends, List.tail_cons] at inductionHypothesis
              simp [fittingEnds, ends, hereOrLater, inductionHypothesis]
      | one accepts =>
          cases ends : fittingEnds signs items with
          | nil => exact absurd ends (fittingEnds_ne_nil signs items)
          | cons here rest => simp [fittingEnds, inductionHypothesis, ends]

/-- The ends of a longer list are that list and the ends of its tail. -/
theorem fittingEnds_cons (signs : List (Sign α)) (item : α) (items : List α) :
    fittingEnds signs (item :: items) =
      fitsSigns signs (item :: items) :: fittingEnds signs items := by
  rw [← tail_fittingEnds_cons signs item items]
  cases ends : fittingEnds signs (item :: items) with
  | nil => exact absurd ends (fittingEnds_ne_nil signs (item :: items))
  | cons here rest => simp [fitsSigns, ends]

/-- A pattern without signs takes the empty list only. -/
@[simp] theorem fitsSigns_nil (items : List α) :
    fitsSigns ([] : List (Sign α)) items = items.isEmpty := by
  cases items <;> simp [fitsSigns, fittingEnds]

/-- Nothing but an empty run can be cut off the empty list. -/
@[simp] theorem fitsSigns_run_nil (signs : List (Sign α)) :
    fitsSigns (.run :: signs) [] = fitsSigns signs [] := by
  have atEnd : ∀ signs : List (Sign α), ∃ fits, fittingEnds signs [] = [fits] := by
    intro signs
    induction signs with
    | nil => exact ⟨true, rfl⟩
    | cons sign signs inductionHypothesis =>
        cases sign with
        | one accepts => exact ⟨false, by simp [fittingEnds]⟩
        | run =>
            obtain ⟨fits, ends⟩ := inductionHypothesis
            exact ⟨fits, by simp [fittingEnds, ends, hereOrLater]⟩
  obtain ⟨fits, ends⟩ := atEnd signs
  simp [fitsSigns, fittingEnds, ends, hereOrLater]

/-- A run is empty, or it takes the first item and goes on. -/
@[simp] theorem fitsSigns_run_cons (signs : List (Sign α)) (item : α) (items : List α) :
    fitsSigns (.run :: signs) (item :: items) =
      (fitsSigns signs (item :: items) || fitsSigns (.run :: signs) items) := by
  simp only [fitsSigns, fittingEnds]
  rw [fittingEnds_cons]
  simp [fitsSigns, hereOrLater]

/-- The empty list has no item to be tested. -/
@[simp] theorem fitsSigns_one_nil (accepts : α → Bool) (signs : List (Sign α)) :
    fitsSigns (.one accepts :: signs) [] = false := by
  simp [fitsSigns, fittingEnds]

/-- The first item has to pass the test, and the rest has to fit the other signs. -/
@[simp] theorem fitsSigns_one_cons
    (accepts : α → Bool)
    (signs : List (Sign α))
    (item : α)
    (items : List α) :
    fitsSigns (.one accepts :: signs) (item :: items) =
      (accepts item && fitsSigns signs items) := by
  cases ends : fittingEnds signs items with
  | nil => exact absurd ends (fittingEnds_ne_nil signs items)
  | cons here rest =>
      simp [fitsSigns, fittingEnds, tail_fittingEnds_cons, ends, Bool.and_comm]

end Switchboard.Glob
