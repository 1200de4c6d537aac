namespace Switchboard

/-!
# Taking turns

Workers that share one thread stand in a line and have turns, in which each does a limited number
of jobs.  A worker whose turn was too short to see that nothing is left asks for another one, and
those who asked are put back at the end of the line after every round, the last to ask first.
The main statements are that a round brings the line nearer to its end, and that no turn is longer
than allowed.
-/

/-- How many jobs a worker does in one turn at most. -/
def turnLength : Nat := 128

/-- How many turns there are in one round at most. -/
def roundLength : Nat := 61

/-- A worker with a number of jobs. -/
structure Share (ι : Type) where
  worker : ι
  jobs : Nat
  deriving Repr, DecidableEq

variable {ι : Type}

namespace Share

/-- What the worker does in its next turn. -/
def turn (share : Share ι) : Share ι :=
  { share with jobs := min share.jobs turnLength }

/-- Whether the next turn is too short to see that nothing is left. -/
def exceedsTurn (share : Share ι) : Bool :=
  turnLength ≤ share.jobs

/-- What is left after the next turn. -/
def afterTurn (share : Share ι) : Share ι :=
  { share with jobs := share.jobs - turnLength }

/-- How many turns the worker needs until it sees that nothing is left. -/
def turnsNeeded (share : Share ι) : Nat :=
  share.jobs / turnLength + 1

/-- No turn is longer than allowed. -/
theorem jobs_turn_le (share : Share ι) : share.turn.jobs ≤ turnLength :=
  Nat.min_le_right share.jobs turnLength

/-- A turn and what is left after it are the whole share. -/
theorem jobs_turn_add_afterTurn (share : Share ι) :
    share.turn.jobs + share.afterTurn.jobs = share.jobs := by
  simp only [turn, afterTurn]
  omega

end Share

/-- How many turns the workers of a line need together. -/
def turnsNeeded : List (Share ι) → Nat
  | [] => 0
  | share :: line => share.turnsNeeded + turnsNeeded line

theorem turnsNeeded_append (first second : List (Share ι)) :
    turnsNeeded (first ++ second) = turnsNeeded first + turnsNeeded second := by
  induction first with
  | nil => exact (Nat.zero_add _).symm
  | cons share first inductionHypothesis =>
      rw [List.cons_append, turnsNeeded, inductionHypothesis, turnsNeeded, Nat.add_assoc]

/-- Those who ask for another turn, in the order in which they get it. -/
def askingAgain (round : List (Share ι)) : List (Share ι) :=
  ((round.filter Share.exceedsTurn).map Share.afterTurn).reverse

/-- The line after one round. -/
def afterRound (line : List (Share ι)) : List (Share ι) :=
  line.drop roundLength ++ askingAgain (line.take roundLength)

/-- Each turn of a round is one turn less to come. -/
theorem turnsNeeded_askingAgain (round : List (Share ι)) :
    turnsNeeded (askingAgain round) + round.length = turnsNeeded round := by
  induction round with
  | nil => rfl
  | cons share round inductionHypothesis =>
      by_cases exceeds : share.exceedsTurn
      · have long : turnLength ≤ share.jobs := by
          simpa [Share.exceedsTurn] using exceeds
        have shorter : share.afterTurn.turnsNeeded + 1 = share.turnsNeeded := by
          simp only [Share.turnsNeeded, Share.afterTurn, turnLength] at *
          omega
        have asks : askingAgain (share :: round) = askingAgain round ++ [share.afterTurn] := by
          simp [askingAgain, exceeds]
        rw [asks, turnsNeeded_append, turnsNeeded, turnsNeeded, turnsNeeded, List.length_cons]
        omega
      · have short : ¬turnLength ≤ share.jobs := by
          simpa [Share.exceedsTurn] using exceeds
        have once : share.turnsNeeded = 1 := by
          simp only [Share.turnsNeeded, turnLength] at *
          omega
        have done : askingAgain (share :: round) = askingAgain round := by
          simp [askingAgain, exceeds]
        rw [done, turnsNeeded, List.length_cons]
        omega

/-- A round brings a line nearer to its end. -/
theorem turnsNeeded_afterRound_lt {line : List (Share ι)} (waiting : line ≠ []) :
    turnsNeeded (afterRound line) < turnsNeeded line := by
  have parts : turnsNeeded line =
      turnsNeeded (line.take roundLength) + turnsNeeded (line.drop roundLength) := by
    rw [← turnsNeeded_append, List.take_append_drop]
  have after : turnsNeeded (afterRound line) =
      turnsNeeded (line.drop roundLength) +
        turnsNeeded (askingAgain (line.take roundLength)) :=
    turnsNeeded_append _ _
  have round := turnsNeeded_askingAgain (line.take roundLength)
  have taken : 0 < (line.take roundLength).length := by
    have : 0 < line.length := List.length_pos_iff.mpr waiting
    simp only [List.length_take, roundLength]
    omega
  omega

variable [DecidableEq ι]

/-- Whether a worker sees in this round that it has nothing left. -/
def finishes (worker : ι) (round : List (Share ι)) : Bool :=
  round.any fun share => share.worker = worker && !share.exceedsTurn

/--
The turns that are taken until a worker has nothing left, and the line after them.

Whoever waits for the worker looks after every round only, so that the round goes on to its end.
-/
def turnsUntil (worker : ι) (line : List (Share ι)) : List (Share ι) × List (Share ι) :=
  if _ : line = [] then
    ([], [])
  else
    let round := line.take roundLength
    let turns := round.map Share.turn
    if finishes worker round then
      (turns, afterRound line)
    else
      let (others, left) := turnsUntil worker (afterRound line)
      (turns ++ others, left)
termination_by turnsNeeded line
decreasing_by exact turnsNeeded_afterRound_lt (by assumption)

end Switchboard
