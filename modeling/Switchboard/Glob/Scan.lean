import Switchboard.Glob.Segment

namespace Switchboard.Glob

/-!
# Scanning a name

A name is scanned from left to right, sign by sign.  A run takes nothing at first; where the scan
gets stuck, it goes back to the last run, which takes one more character.  Runs before the last
one are never gone back to.  A scan knows places only, so it might ask for one beyond an end: it
would go astray.  `InBounds` is what keeps it from that, and from going on without end.
-/

/-- Where a scan stands. -/
structure Scan where
  /-- The place of the next sign. -/
  sign : Nat
  /-- The place of the next character. -/
  char : Nat
  /-- The place of the last run, and of the first character that it has not taken. -/
  lastRun? : Option (Nat × Nat)
  deriving Repr, DecidableEq

/-- What a scan comes to. -/
inductive Move where
  | goOn (scan : Scan)
  | stop (fits : Bool)
  /-- It asked for what is left beyond the end of the pattern. -/
  | astray
  deriving Repr, DecidableEq

namespace Scan

/-- Before the first sign and the first character. -/
def start : Scan := { sign := 0, char := 0, lastRun? := none }

/-- The next sign has taken the next character. -/
def onward (scan : Scan) : Scan :=
  { scan with sign := scan.sign + 1, char := scan.char + 1 }

/-- The next sign is a run, and has taken nothing. -/
def intoRun (scan : Scan) : Scan :=
  { scan with sign := scan.sign + 1, lastRun? := some (scan.sign, scan.char) }

/-- The last run takes one more character, and the scan begins again behind it. -/
def goBack (scan : Scan) : Move :=
  match scan.lastRun? with
  | none => .stop false
  | some (run, taken) =>
      .goOn { sign := run + 1, char := taken + 1, lastRun? := some (run, taken + 1) }

/-- What is left of a pattern at the end of a name must not ask for a character. -/
def finish (pattern : List Piece) (scan : Scan) : Move :=
  if scan.sign ≤ pattern.length then
    .stop ((pattern.drop scan.sign).all (· == .run))
  else
    .astray

/-- One move of a scan. -/
def next (pattern : List Piece) (name : List Char) (scan : Scan) : Move :=
  match name[scan.char]? with
  | none => scan.finish pattern
  | some char =>
      match pattern[scan.sign]? with
      | some .run => .goOn scan.intoRun
      | some .one => .goOn scan.onward
      | some (.exactly wanted) => if wanted = char then .goOn scan.onward else scan.goBack
      | none => scan.goBack

/-- The ways in which a scan goes on. -/
inductive Goes (pattern : List Piece) (name : List Char) (scan : Scan) : Scan → Prop where
  /-- The next sign is a run. -/
  | intoRun
      {char : Char}
      (here : name[scan.char]? = some char)
      (isRun : pattern[scan.sign]? = some .run) :
      Goes pattern name scan scan.intoRun
  /-- The next sign takes the next character. -/
  | onward
      {char : Char}
      {piece : Piece}
      (here : name[scan.char]? = some char)
      (isPiece : pattern[scan.sign]? = some piece)
      (takes : piece.Takes char) :
      Goes pattern name scan scan.onward
  /-- The scan is stuck, and there is a run to go back to. -/
  | back
      {char : Char}
      {run taken : Nat}
      (here : name[scan.char]? = some char)
      (stuck : ∀ piece, pattern[scan.sign]? = some piece → piece ≠ .run ∧ ¬piece.Takes char)
      (last : scan.lastRun? = some (run, taken)) :
      Goes pattern name scan
        { sign := run + 1, char := taken + 1, lastRun? := some (run, taken + 1) }

/-- The ways in which a scan stops. -/
inductive Stops (pattern : List Piece) (name : List Char) (scan : Scan) : Bool → Prop where
  /-- The name is at its end. -/
  | atEnd
      (past : name.length ≤ scan.char) :
      Stops pattern name scan ((pattern.drop scan.sign).all (· == .run))
  /-- The scan is stuck, and there is no run to go back to. -/
  | stuck
      {char : Char}
      (here : name[scan.char]? = some char)
      (stuck : ∀ piece, pattern[scan.sign]? = some piece → piece ≠ .run ∧ ¬piece.Takes char)
      (none : scan.lastRun? = none) :
      Stops pattern name scan false

/-- A move that is neither of these asks for a place beyond the end of the pattern. -/
theorem next_cases (pattern : List Piece) (name : List Char) (scan : Scan) :
    (∃ after, scan.next pattern name = .goOn after ∧ Goes pattern name scan after) ∨
      (∃ fits, scan.next pattern name = .stop fits ∧ Stops pattern name scan fits) ∨
        (scan.next pattern name = .astray ∧ pattern.length < scan.sign) := by
  cases here : name[scan.char]? with
  | none =>
      have past : name.length ≤ scan.char := List.getElem?_eq_none_iff.mp here
      simp only [next, here, finish]
      by_cases within : scan.sign ≤ pattern.length
      · exact .inr (.inl ⟨_, if_pos within, .atEnd past⟩)
      · exact .inr (.inr ⟨if_neg within, Nat.lt_of_not_le within⟩)
  | some char =>
      -- where the next sign does not take the character, it is the same whatever the sign is
      have back
          (isBack : scan.next pattern name = scan.goBack)
          (stuck : ∀ piece,
            pattern[scan.sign]? = some piece → piece ≠ .run ∧ ¬piece.Takes char) :
          (∃ after, scan.next pattern name = .goOn after ∧ Goes pattern name scan after) ∨
            (∃ fits, scan.next pattern name = .stop fits ∧ Stops pattern name scan fits) ∨
              (scan.next pattern name = .astray ∧ pattern.length < scan.sign) := by
        rw [isBack]
        cases last : scan.lastRun? with
        | none => exact .inr (.inl ⟨false, by simp only [goBack, last], .stuck here stuck last⟩)
        | some place => exact .inl ⟨_, by simp only [goBack, last], .back here stuck last⟩
      cases isPiece : pattern[scan.sign]? with
      | none =>
          refine back (by simp only [next, here, isPiece]) fun piece isPieceToo => ?_
          cases isPiece.symm.trans isPieceToo
      | some piece =>
          cases piece with
          | run => exact .inl ⟨_, by simp only [next, here, isPiece], .intoRun here isPiece⟩
          | one =>
              exact .inl ⟨_, by simp only [next, here, isPiece], .onward here isPiece (.one char)⟩
          | exactly wanted =>
              by_cases same : wanted = char
              · subst same
                exact .inl ⟨_, by simp only [next, here, isPiece, if_true],
                  .onward here isPiece (.exactly wanted)⟩
              · refine back (by simp only [next, here, isPiece, if_neg same])
                  fun piece isPieceToo => ?_
                cases isPiece.symm.trans isPieceToo
                exact ⟨nofun, fun takes => by cases takes; exact same rfl⟩

theorem goes_of_next
    {pattern : List Piece}
    {name : List Char}
    {scan after : Scan}
    (moved : scan.next pattern name = .goOn after) :
    Goes pattern name scan after := by
  rcases next_cases pattern name scan with ⟨_, same, goes⟩ | ⟨_, same, _⟩ | ⟨same, _⟩
  · cases moved.symm.trans same
    exact goes
  · cases moved.symm.trans same
  · cases moved.symm.trans same

theorem stops_of_next
    {pattern : List Piece}
    {name : List Char}
    {scan : Scan}
    {fits : Bool}
    (moved : scan.next pattern name = .stop fits) :
    Stops pattern name scan fits := by
  rcases next_cases pattern name scan with ⟨_, same, _⟩ | ⟨_, same, stops⟩ | ⟨same, _⟩
  · cases moved.symm.trans same
  · cases moved.symm.trans same
    exact stops
  · cases moved.symm.trans same

/-- A scan whose places are all in the pattern and the name, or right at their ends. -/
structure InBounds (pattern : List Piece) (name : List Char) (scan : Scan) : Prop where
  sign_le : scan.sign ≤ pattern.length
  char_le : scan.char ≤ name.length
  /-- The last run is a sign of the pattern, and the scan is not before the part it took. -/
  lastRun_lt : ∀ run taken,
    scan.lastRun? = some (run, taken) → run < pattern.length ∧ taken ≤ scan.char

variable {pattern : List Piece} {name : List Char} {scan after : Scan}

theorem inBounds_start (pattern : List Piece) (name : List Char) :
    start.InBounds pattern name where
  sign_le := Nat.zero_le _
  char_le := Nat.zero_le _
  lastRun_lt := nofun

/-- A move leaves a scan in bounds. -/
theorem InBounds.next
    (inBounds : scan.InBounds pattern name)
    (moved : scan.next pattern name = .goOn after) :
    after.InBounds pattern name := by
  cases goes_of_next moved with
  | intoRun here isRun =>
      obtain ⟨below, _⟩ := List.getElem?_eq_some_iff.mp isRun
      refine { sign_le := below, char_le := inBounds.char_le, lastRun_lt := ?_ }
      rintro run taken ⟨rfl, rfl⟩
      exact ⟨below, Nat.le_refl _⟩
  | onward here isPiece takes =>
      obtain ⟨below, _⟩ := List.getElem?_eq_some_iff.mp isPiece
      obtain ⟨inside, _⟩ := List.getElem?_eq_some_iff.mp here
      refine { sign_le := below, char_le := inside, lastRun_lt := ?_ }
      intro run taken last
      have known := inBounds.lastRun_lt run taken last
      exact ⟨known.1, Nat.le_succ_of_le known.2⟩
  | back here stuck last =>
      obtain ⟨inside, _⟩ := List.getElem?_eq_some_iff.mp here
      have known := inBounds.lastRun_lt _ _ last
      refine { sign_le := known.1, char_le := Nat.lt_of_le_of_lt known.2 inside, lastRun_lt := ?_ }
      rintro run taken ⟨rfl, rfl⟩
      exact ⟨known.1, Nat.le_refl _⟩

/-- A scan in bounds does not go astray. -/
theorem InBounds.next_ne_astray
    (inBounds : scan.InBounds pattern name) :
    scan.next pattern name ≠ .astray := by
  intro moved
  rcases next_cases pattern name scan with ⟨_, same, _⟩ | ⟨_, same, _⟩ | ⟨_, beyond⟩
  · cases moved.symm.trans same
  · cases moved.symm.trans same
  · exact Nat.not_lt.mpr inBounds.sign_le beyond

/-- How many characters the runs have taken for good. -/
def taken (scan : Scan) : Nat :=
  match scan.lastRun? with
  | none => 0
  | some (_, taken) => taken

/-- How many moves a scan can make: going back costs a character, going on costs a sign. -/
def movesLeft (pattern : List Piece) (name : List Char) (scan : Scan) : Nat :=
  (name.length - scan.taken) * (pattern.length + 1) + (pattern.length - scan.sign)

theorem InBounds.taken_le
    (inBounds : scan.InBounds pattern name) :
    scan.taken ≤ scan.char := by
  unfold taken
  split
  · exact Nat.zero_le _
  · next last => exact (inBounds.lastRun_lt _ _ last).2

/-- Every move of a scan in bounds leaves it fewer moves. -/
theorem InBounds.movesLeft_lt
    (inBounds : scan.InBounds pattern name)
    (moved : scan.next pattern name = .goOn after) :
    after.movesLeft pattern name < scan.movesLeft pattern name := by
  have notAfter := inBounds.taken_le
  unfold movesLeft
  cases goes_of_next moved with
  | intoRun here isRun =>
      obtain ⟨below, _⟩ := List.getElem?_eq_some_iff.mp isRun
      have notMore :
          (name.length - scan.char) * (pattern.length + 1) ≤
            (name.length - scan.taken) * (pattern.length + 1) :=
        Nat.mul_le_mul_right _ (Nat.sub_le_sub_left notAfter _)
      have fewer : pattern.length - (scan.sign + 1) < pattern.length - scan.sign := by omega
      exact Nat.add_lt_add_of_le_of_lt notMore fewer
  | onward here isPiece takes =>
      obtain ⟨below, _⟩ := List.getElem?_eq_some_iff.mp isPiece
      have fewer : pattern.length - (scan.sign + 1) < pattern.length - scan.sign := by omega
      exact Nat.add_lt_add_of_le_of_lt (Nat.le_refl _) fewer
  | @back char run taken here stuck last =>
      obtain ⟨inside, _⟩ := List.getElem?_eq_some_iff.mp here
      have isTaken : scan.taken = taken := by simp only [Scan.taken, last]
      rw [isTaken] at notAfter ⊢
      have oneLess : name.length - taken = (name.length - (taken + 1)) + 1 := by omega
      rw [oneLess, Nat.succ_mul]
      show (name.length - (taken + 1)) * (pattern.length + 1) + (pattern.length - (run + 1)) < _
      omega

/-- What a scan in bounds finds out in the end. -/
def verdict
    (pattern : List Piece)
    (name : List Char)
    (scan : Scan)
    (inBounds : scan.InBounds pattern name) :
    Bool :=
  match moved : scan.next pattern name with
  | .goOn after => after.verdict pattern name (inBounds.next moved)
  | .stop fits => fits
  | .astray => absurd moved inBounds.next_ne_astray
termination_by scan.movesLeft pattern name
decreasing_by exact inBounds.movesLeft_lt moved

theorem verdict_of_goOn
    (inBounds : scan.InBounds pattern name)
    (moved : scan.next pattern name = .goOn after) :
    scan.verdict pattern name inBounds = after.verdict pattern name (inBounds.next moved) := by
  rw [verdict]
  split
  · next same =>
      cases moved.symm.trans same
      rfl
  · next same => cases moved.symm.trans same
  · next same => cases moved.symm.trans same

theorem verdict_of_stop
    (inBounds : scan.InBounds pattern name)
    {fits : Bool}
    (moved : scan.next pattern name = .stop fits) :
    scan.verdict pattern name inBounds = fits := by
  rw [verdict]
  split
  · next same => cases moved.symm.trans same
  · next same =>
      cases moved.symm.trans same
      rfl
  · next same => cases moved.symm.trans same

/-- What a scan has come to after some moves; it stays where it stopped. -/
def comesTo (pattern : List Piece) (name : List Char) (scan : Scan) : Nat → Move
  | 0 => .goOn scan
  | count + 1 =>
      match scan.next pattern name with
      | .goOn after => after.comesTo pattern name count
      | ended => ended

end Scan

/-- Whether a name fits a pattern. -/
def fits (pattern name : String) : Bool :=
  Scan.start.verdict (pieces pattern) name.toList (Scan.inBounds_start _ _)

end Switchboard.Glob
