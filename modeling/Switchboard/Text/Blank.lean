namespace Switchboard.Text

/-!
# Blanks, trimming and cutting

Which characters count as blank is the `White_Space` property of Unicode.  Trimming removes
blanks at both ends only; cutting at a character keeps empty pieces.
-/

/-- The code points with the `White_Space` property, as closed ranges. -/
def blankRanges : List (Nat × Nat) :=
  [(0x09, 0x0D), (0x20, 0x20), (0x85, 0x85), (0xA0, 0xA0), (0x1680, 0x1680), (0x2000, 0x200A),
    (0x2028, 0x2029), (0x202F, 0x202F), (0x205F, 0x205F), (0x3000, 0x3000)]

/-- Whether a character is blank. -/
def isBlank (char : Char) : Bool :=
  blankRanges.any fun range => range.1 ≤ char.toNat && char.toNat ≤ range.2

/-- Characters without the blanks at their end. -/
def dropBlankEnd : List Char → List Char
  | [] => []
  | char :: rest =>
      match dropBlankEnd rest with
      | [] => if isBlank char then [] else [char]
      | kept => char :: kept

/-- Characters without the blanks at either end. -/
def trimChars (chars : List Char) : List Char :=
  dropBlankEnd (chars.dropWhile isBlank)

/-- A text without the blanks at either end. -/
def trim (text : String) : String :=
  String.ofList (trimChars text.toList)

/-- Cut characters at every `mark`; `n` marks give `n + 1` pieces. -/
def cutChars (mark : Char) : List Char → List (List Char)
  | [] => [[]]
  | char :: rest =>
      if char = mark then
        [] :: cutChars mark rest
      else
        match cutChars mark rest with
        | [] => [[char]]
        | piece :: pieces => (char :: piece) :: pieces

/-- Cut a text at every `mark`. -/
def cut (mark : Char) (text : String) : List String :=
  (cutChars mark text.toList).map String.ofList

/-- A text with its ASCII capitals in lower case. -/
def lowerAscii (text : String) : String :=
  String.ofList (text.toList.map Char.toLower)

/-- What follows `lead` in `text`, when `text` starts with it. -/
def dropLead? : List Char → List Char → Option (List Char)
  | [], text => some text
  | _ :: _, [] => none
  | char :: lead, other :: text =>
      if char = other then dropLead? lead text else none

/-- What follows `lead` in `text`, when `text` starts with it. -/
def after? (lead text : String) : Option String :=
  (dropLead? lead.toList text.toList).map String.ofList

/-- A text starts with `lead` exactly when it is `lead` followed by what is left. -/
theorem dropLead?_eq_some_iff
    (lead text rest : List Char) :
    dropLead? lead text = some rest ↔ text = lead ++ rest := by
  induction lead generalizing text with
  | nil => simp [dropLead?, eq_comm]
  | cons char lead inductionHypothesis =>
      cases text with
      | nil => simp [dropLead?]
      | cons other text =>
          by_cases same : char = other
          · subst same
            simp [dropLead?, inductionHypothesis]
          · have different : ¬other = char := fun flipped => same flipped.symm
            simp [dropLead?, same, different]

/-- What follows a lead is what the text has behind it. -/
theorem after?_eq_some_iff
    {lead text rest : String} :
    after? lead text = some rest ↔ text = lead ++ rest := by
  rw [after?, Option.map_eq_some_iff]
  constructor
  · rintro ⟨chars, left, rfl⟩
    rw [dropLead?_eq_some_iff] at left
    rw [← String.toList_inj, left]
    simp
  · rintro rfl
    exact ⟨rest.toList, (dropLead?_eq_some_iff _ _ _).mpr (by simp), by simp⟩

/-- Nothing follows a lead just if the text does not start with it. -/
theorem after?_eq_none_iff
    {lead text : String} :
    after? lead text = none ↔ ¬lead.toList <+: text.toList := by
  rw [after?, Option.map_eq_none_iff, Option.eq_none_iff_forall_not_mem]
  constructor
  · rintro none ⟨rest, whole⟩
    exact none rest ((dropLead?_eq_some_iff _ _ _).mpr whole.symm)
  · intro apart rest left
    exact apart ⟨rest, ((dropLead?_eq_some_iff _ _ _).mp left).symm⟩

/-- There is always a piece. -/
theorem cutChars_ne_nil (mark : Char) (chars : List Char) : cutChars mark chars ≠ [] := by
  cases chars with
  | nil => exact List.cons_ne_nil _ _
  | cons char rest =>
      rw [cutChars]
      split
      · exact List.cons_ne_nil _ _
      · split <;> exact List.cons_ne_nil _ _

/-- Joining the pieces with the mark gives the characters back. -/
theorem intercalate_cutChars (mark : Char) (chars : List Char) :
    [mark].intercalate (cutChars mark chars) = chars := by
  induction chars with
  | nil => rfl
  | cons char rest inductionHypothesis =>
      obtain ⟨piece, pieces, cuts⟩ := List.exists_cons_of_ne_nil (cutChars_ne_nil mark rest)
      rw [cuts] at inductionHypothesis
      by_cases same : char = mark
      · rw [cutChars, if_pos same, cuts, ← inductionHypothesis]
        simp [same, List.intercalate, List.intersperse]
      · rw [cutChars, if_neg same, cuts, ← inductionHypothesis]
        cases pieces <;> simp [List.intercalate, List.intersperse]

end Switchboard.Text
