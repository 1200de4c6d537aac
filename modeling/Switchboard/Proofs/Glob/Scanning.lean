import Mathlib.Data.List.Forall2
import Switchboard.Glob.Scan

namespace Switchboard.Glob

/-!
# What a scan finds out

A scan comes to a stop after at most as many moves as there are pairs of a sign and a character,
ends included, and it tells whether the name fits the pattern.  That it goes back to the last run
only loses nothing: whatever an earlier run could still take, the last one can take as well.
-/

/-!
## Names that fit
-/

/-- A run takes any characters at the beginning. -/
theorem fits_run_iff
    {rest : List Piece}
    {name : List Char} :
    Fits (.run :: rest) name ↔ ∃ part behind, name = part ++ behind ∧ Fits rest behind := by
  constructor
  · rintro ⟨⟩
    next behind part fits => exact ⟨part, behind, rfl, fits⟩
  · rintro ⟨part, behind, rfl, fits⟩
    exact .run part fits

/-- A run is empty, or it takes the first character. -/
theorem fits_run_cons_iff
    {rest : List Piece}
    {char : Char}
    {name : List Char} :
    Fits (.run :: rest) (char :: name) ↔ Fits rest (char :: name) ∨ Fits (.run :: rest) name := by
  simp only [fits_run_iff]
  constructor
  · rintro ⟨part, behind, same, fits⟩
    cases part with
    | nil =>
        rw [List.nil_append] at same
        exact .inl (same ▸ fits)
    | cons first part => exact .inr ⟨part, behind, (List.cons.inj same).2, fits⟩
  · rintro (fits | ⟨part, behind, rfl, fits⟩)
    · exact ⟨[], _, rfl, fits⟩
    · exact ⟨char :: part, behind, rfl, fits⟩

/-- A sign for one character takes the first one and leaves the rest to the other signs. -/
theorem Piece.Takes.fits_iff
    {piece : Piece}
    {char : Char}
    {rest : List Piece}
    {name : List Char}
    (takes : piece.Takes char) :
    Fits (piece :: rest) (char :: name) ↔ Fits rest name := by
  cases takes with
  | one =>
      constructor
      · rintro ⟨⟩
        assumption
      · exact .one char
  | exactly =>
      constructor
      · rintro ⟨⟩
        assumption
      · exact .exactly char

/-- Where a sign for one character comes first, it has to take the first character. -/
theorem exists_takes_of_fits
    {piece : Piece}
    {rest : List Piece}
    {name : List Char}
    (single : piece ≠ .run)
    (fits : Fits (piece :: rest) name) :
    ∃ char behind, name = char :: behind ∧ piece.Takes char ∧ Fits rest behind := by
  cases fits with
  | run => exact absurd rfl single
  | one char fits => exact ⟨char, _, rfl, .one char, fits⟩
  | exactly char fits => exact ⟨char, _, rfl, .exactly char, fits⟩

/-- Characters that stand for themselves fit themselves only. -/
theorem fits_exactly_iff
    {chars name : List Char} :
    Fits (chars.map Piece.exactly) name ↔ name = chars := by
  induction chars generalizing name with
  | nil =>
      constructor
      · rintro ⟨⟩
        rfl
      · rintro rfl
        exact .nil
  | cons char chars inductionHypothesis =>
      constructor
      · rintro ⟨⟩
        next fits => rw [inductionHypothesis.mp fits]
      · rintro rfl
        exact .exactly char (inductionHypothesis.mpr rfl)

theorem Piece.Takes.ne_run
    {piece : Piece}
    {char : Char}
    (takes : piece.Takes char) :
    piece ≠ .run := by
  rintro rfl
  cases takes

/-- Only runs fit no characters at all. -/
theorem fits_nil_iff {pattern : List Piece} :
    Fits pattern [] ↔ pattern.all (· == .run) = true := by
  induction pattern with
  | nil => exact ⟨fun _ => rfl, fun _ => .nil⟩
  | cons piece pattern inductionHypothesis =>
      by_cases isRun : piece = .run
      · subst isRun
        rw [fits_run_iff, List.all_cons, beq_self_eq_true, Bool.true_and, ← inductionHypothesis]
        constructor
        · rintro ⟨part, behind, same, fits⟩
          obtain ⟨rfl, rfl⟩ := List.append_eq_nil_iff.mp same.symm
          exact fits
        · intro fits
          exact ⟨[], [], rfl, fits⟩
      · have differs : (piece == .run) = false := beq_eq_false_iff_ne.mpr isRun
        rw [List.all_cons, differs, Bool.false_and]
        constructor
        · intro fits
          obtain ⟨char, behind, same, _⟩ := exists_takes_of_fits isRun fits
          cases same
        · nofun

section

variable {lead rest : List Piece} {part name : List Char}

/-- Signs that took their characters leave the rest to the other signs. -/
theorem fits_append_iff
    (takes : List.Forall₂ Piece.Takes lead part) :
    Fits (lead ++ rest) (part ++ name) ↔ Fits rest name := by
  induction takes with
  | nil => rfl
  | cons takesHere _ inductionHypothesis => exact takesHere.fits_iff.trans inductionHypothesis

/--
A run in front of signs that took their characters takes as much as they did.

Wherever else these signs can stand, what is behind them there is behind them here as well.
-/
theorem exists_fits_behind
    (takes : List.Forall₂ Piece.Takes lead part)
    (fits : Fits (.run :: (lead ++ rest)) (part ++ name)) :
    ∃ skipped behind, name = skipped ++ behind ∧ Fits rest behind := by
  induction takes with
  | nil => exact fits_run_iff.mp fits
  | @cons piece char lead part takesHere _ inductionHypothesis =>
      apply inductionHypothesis
      obtain ⟨skipped, behind, same, fitsThere⟩ := fits_run_iff.mp fits
      -- the first sign takes some character, so the run in front of the others may take up to it
      obtain ⟨other, further, rfl, _, fitsFurther⟩ :=
        exists_takes_of_fits takesHere.ne_run fitsThere
      rw [List.cons_append] at same
      cases skipped with
      | nil =>
          rw [show part ++ name = further from (List.cons.inj same).2]
          exact .run [] fitsFurther
      | cons first skipped =>
          rw [show part ++ name = skipped ++ other :: further from (List.cons.inj same).2,
            List.append_cons]
          exact .run (skipped ++ [other]) fitsFurther

end

/-!
## What a scan has left to find out
-/

namespace Scan

/-- What a scan has left to find out decides the whole. -/
inductive Faithful (pattern : List Piece) (name : List Char) (scan : Scan) : Prop
  /-- No run was met yet. -/
  | fresh
      (none : scan.lastRun? = none)
      (same : Fits pattern name ↔ Fits (pattern.drop scan.sign) (name.drop scan.char))
  /-- The signs since the last run took the characters since the part that it took. -/
  | behindRun
      {run taken : Nat}
      {lead : List Piece}
      {part : List Char}
      (last : scan.lastRun? = some (run, taken))
      (signs : pattern.drop (run + 1) = lead ++ pattern.drop scan.sign)
      (chars : name.drop taken = part ++ name.drop scan.char)
      (takes : List.Forall₂ Piece.Takes lead part)
      (same : Fits pattern name ↔ Fits (.run :: pattern.drop (run + 1)) (name.drop taken))

variable {pattern : List Piece} {name : List Char} {scan after : Scan}

theorem faithful_start (pattern : List Piece) (name : List Char) :
    start.Faithful pattern name :=
  .fresh rfl Iff.rfl

/-- A sign and a character at a place are the first ones from there on. -/
theorem drop_eq_cons {α : Type} {items : List α} {place : Nat} {item : α}
    (here : items[place]? = some item) :
    items.drop place = item :: items.drop (place + 1) := by
  obtain ⟨below, rfl⟩ := List.getElem?_eq_some_iff.mp here
  exact List.drop_eq_getElem_cons below

/-- Where some characters lead up to a place in a name, there is a first one. -/
theorem exists_drop_eq_cons
    {part : List Char}
    {taken place : Nat}
    {char : Char}
    (chars : name.drop taken = part ++ name.drop place)
    (here : name[place]? = some char) :
    ∃ first, name.drop taken = first :: name.drop (taken + 1) := by
  cases isFirst : name[taken]? with
  | none =>
      rw [List.drop_eq_nil_of_le (List.getElem?_eq_none_iff.mp isFirst), drop_eq_cons here] at chars
      exact absurd chars.symm (List.append_ne_nil_of_right_ne_nil _ (List.cons_ne_nil _ _))
  | some first => exact ⟨first, drop_eq_cons isFirst⟩

/-- A stuck scan stands where the signs that are left do not fit. -/
theorem not_fits_of_stuck
    {char : Char}
    (here : name[scan.char]? = some char)
    (stuck : ∀ piece, pattern[scan.sign]? = some piece → piece ≠ .run ∧ ¬piece.Takes char) :
    ¬Fits (pattern.drop scan.sign) (name.drop scan.char) := by
  intro fits
  rw [drop_eq_cons here] at fits
  cases isPiece : pattern[scan.sign]? with
  | none =>
      rw [List.drop_eq_nil_of_le (List.getElem?_eq_none_iff.mp isPiece)] at fits
      cases fits
  | some piece =>
      obtain ⟨notRun, notTaken⟩ := stuck piece isPiece
      rw [drop_eq_cons isPiece] at fits
      obtain ⟨other, behind, same, takes, _⟩ := exists_takes_of_fits notRun fits
      obtain ⟨rfl, _⟩ := List.cons.inj same
      exact notTaken takes

/-- Right behind a run nothing was taken since. -/
theorem Faithful.atRun
    {run taken : Nat}
    (last : scan.lastRun? = some (run, taken))
    (isSign : scan.sign = run + 1)
    (isChar : scan.char = taken)
    (same : Fits pattern name ↔ Fits (.run :: pattern.drop (run + 1)) (name.drop taken)) :
    scan.Faithful pattern name := by
  subst isChar
  have signs : pattern.drop (run + 1) = [] ++ pattern.drop scan.sign := by
    rw [isSign, List.nil_append]
  exact .behindRun last signs (List.nil_append _).symm .nil same

/-- A move leaves as much to find out as there was before it. -/
theorem Faithful.next
    (faithful : scan.Faithful pattern name)
    (moved : scan.next pattern name = .goOn after) :
    after.Faithful pattern name := by
  cases goes_of_next moved with
  | intoRun here isRun =>
      have signsHere := drop_eq_cons isRun
      refine .atRun rfl rfl rfl ?_
      cases faithful with
      | fresh none same => rw [same, signsHere]
      | behindRun last signs chars takes same =>
          rw [same, signs, chars, signsHere]
          constructor
          · intro fits
            -- the run before this one is not needed any more
            obtain ⟨skipped, behind, rest, fitsBehind⟩ := exists_fits_behind takes fits
            obtain ⟨part, further, rfl, fitsFurther⟩ := fits_run_iff.mp fitsBehind
            rw [rest, ← List.append_assoc]
            exact .run (skipped ++ part) fitsFurther
          · intro fits
            exact .run [] ((fits_append_iff takes).mpr fits)
  | onward here isPiece takesHere =>
      have signsHere := drop_eq_cons isPiece
      have charsHere := drop_eq_cons here
      cases faithful with
      | fresh none same =>
          refine .fresh none ?_
          rw [same, signsHere, charsHere]
          exact takesHere.fits_iff
      | behindRun last signs chars takes same =>
          have takesOn := List.rel_append takes (.cons takesHere .nil)
          refine .behindRun last ?_ ?_ takesOn same
          · rw [signs, signsHere, List.append_cons]
            rfl
          · rw [chars, charsHere, List.append_cons]
            rfl
  | back here stuck last =>
      cases faithful with
      | fresh none same => cases none.symm.trans last
      | behindRun lastToo signs chars takes same =>
          cases last.symm.trans lastToo
          refine .atRun rfl rfl rfl ?_
          obtain ⟨first, charsTaken⟩ := exists_drop_eq_cons chars here
          have notHere := not_fits_of_stuck here stuck
          rw [same, charsTaken, fits_run_cons_iff, ← charsTaken, signs, chars,
            fits_append_iff takes, ← signs]
          exact or_iff_right notHere

/-- Where a scan stops, it tells whether what is left fits. -/
theorem Faithful.stop
    {fits : Bool}
    (faithful : scan.Faithful pattern name)
    (moved : scan.next pattern name = .stop fits) :
    fits = true ↔ Fits pattern name := by
  cases stops_of_next moved with
  | atEnd past =>
      rw [← fits_nil_iff, ← List.drop_eq_nil_of_le past]
      cases faithful with
      | fresh none same => exact same.symm
      | behindRun last signs chars takes same =>
          rw [same, signs, chars]
          constructor
          · intro fits
            exact .run [] ((fits_append_iff takes).mpr fits)
          · intro fits
            obtain ⟨skipped, behind, rest, fitsBehind⟩ := exists_fits_behind takes fits
            -- nothing is left of the name, so the run can have skipped nothing
            rw [List.drop_eq_nil_of_le past] at rest ⊢
            obtain ⟨rfl, rfl⟩ := List.append_eq_nil_iff.mp rest.symm
            exact fitsBehind
  | stuck here stuck none =>
      cases faithful with
      | fresh _ same => exact iff_of_false nofun fun fits => not_fits_of_stuck here stuck (same.mp fits)
      | behindRun last signs chars takes same => cases none.symm.trans last

/-- What a scan finds out in the end is whether the name fits the pattern. -/
theorem Faithful.verdict_iff
    (faithful : scan.Faithful pattern name)
    (inBounds : scan.InBounds pattern name) :
    scan.verdict pattern name inBounds = true ↔ Fits pattern name := by
  induction scan, inBounds using verdict.induct pattern name with
  | case1 scan inBounds after moved inductionHypothesis =>
      rw [verdict_of_goOn inBounds moved]
      exact inductionHypothesis (faithful.next moved)
  | case2 scan inBounds fits moved =>
      rw [verdict_of_stop inBounds moved]
      exact faithful.stop moved

/-!
## How far a scan goes
-/

/-- A scan that starts in bounds is in bounds after any number of moves. -/
theorem InBounds.of_comesTo
    (inBounds : scan.InBounds pattern name)
    {count : Nat}
    (came : scan.comesTo pattern name count = .goOn after) :
    after.InBounds pattern name := by
  induction count generalizing scan with
  | zero =>
      cases came
      exact inBounds
  | succ count inductionHypothesis =>
      rw [comesTo] at came
      split at came
      · next moved => exact inductionHypothesis (inBounds.next moved) came
      · next notOn => exact absurd came (notOn after)

/-- A scan that starts in bounds never goes astray. -/
theorem InBounds.comesTo_ne_astray
    (inBounds : scan.InBounds pattern name)
    (count : Nat) :
    scan.comesTo pattern name count ≠ .astray := by
  induction count generalizing scan with
  | zero => nofun
  | succ count inductionHypothesis =>
      rw [comesTo]
      split
      · next moved => exact inductionHypothesis (inBounds.next moved)
      · exact inBounds.next_ne_astray

/-- A scan stops with its verdict once it has made the moves that it can make. -/
theorem InBounds.comesTo_verdict
    (inBounds : scan.InBounds pattern name)
    {count : Nat}
    (enough : scan.movesLeft pattern name < count) :
    scan.comesTo pattern name count = .stop (scan.verdict pattern name inBounds) := by
  induction count generalizing scan with
  | zero => exact absurd enough (Nat.not_lt_zero _)
  | succ count inductionHypothesis =>
      rw [comesTo]
      split
      · next moved =>
          rw [verdict_of_goOn inBounds moved]
          have fewer := inBounds.movesLeft_lt moved
          exact inductionHypothesis (inBounds.next moved) (by omega)
      · next ended notOn =>
          cases moved : scan.next pattern name with
          | goOn after => exact absurd moved (notOn after)
          | stop fits => rw [verdict_of_stop inBounds moved]
          | astray => exact absurd moved inBounds.next_ne_astray

end Scan

/-- A name fits a pattern if it can be cut into parts, one for each sign. -/
theorem fits_eq_true_iff {pattern name : String} :
    fits pattern name = true ↔ Fits (pieces pattern) name.toList :=
  (Scan.faithful_start _ _).verdict_iff _

/--
Scanning a name for a pattern makes at most one move for every pair of a sign and a character,
ends included, and then stops; on the way it is in bounds and never goes astray; and it tells
whether the name can be cut into consecutive parts, one for each sign.
-/
theorem scan_decides_fits (pattern name : String) :
    (∀ count, (name.length + 1) * (pattern.length + 1) ≤ count →
      Scan.start.comesTo (pieces pattern) name.toList count = .stop (fits pattern name)) ∧
      (∀ count scan,
        Scan.start.comesTo (pieces pattern) name.toList count = .goOn scan →
          scan.sign ≤ pattern.length ∧ scan.char ≤ name.length) ∧
      (∀ count, Scan.start.comesTo (pieces pattern) name.toList count ≠ .astray) ∧
      (fits pattern name = true ↔ Fits (pieces pattern) name.toList) := by
  have signs : (pieces pattern).length = pattern.length := by
    rw [pieces, List.length_map, String.length_toList]
  have chars : name.toList.length = name.length := String.length_toList
  have inBounds := Scan.inBounds_start (pieces pattern) name.toList
  have enough :
      Scan.start.movesLeft (pieces pattern) name.toList <
        (name.length + 1) * (pattern.length + 1) := by
    show (name.toList.length - 0) * ((pieces pattern).length + 1) + ((pieces pattern).length - 0) < _
    rw [signs, chars, Nat.sub_zero, Nat.sub_zero, Nat.succ_mul]
    exact Nat.add_lt_add_left (Nat.lt_succ_self _) _
  refine ⟨fun count isEnough => ?_, fun count scan came => ?_, ?_, fits_eq_true_iff⟩
  · exact inBounds.comesTo_verdict (Nat.lt_of_lt_of_le enough isEnough)
  · have there := inBounds.of_comesTo came
    exact ⟨signs ▸ there.sign_le, chars ▸ there.char_le⟩
  · exact inBounds.comesTo_ne_astray

example : fits "a*b*c" "aXbYbYc" = true := by cbv

end Switchboard.Glob
