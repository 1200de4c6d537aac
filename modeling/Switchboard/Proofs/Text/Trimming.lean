import Mathlib.Data.List.DropRight
import Switchboard.Text.Blank

namespace Switchboard.Text

/-!
# Trimming

A text is what is left of it when it is trimmed, between blanks.  What is left is `Bare`: no blank
stands at either end of it.  Whatever blanks are put around a bare text, trimming gives it back.
-/

/-- Characters that are all blank. -/
def Blank (chars : List Char) : Prop :=
  ∀ char ∈ chars, isBlank char = true

/-- Characters without a blank at either end. -/
structure Bare (chars : List Char) : Prop where
  first : ∀ char, chars.head? = some char → isBlank char = false
  last : ∀ char, chars.getLast? = some char → isBlank char = false

theorem blank_nil : Blank [] := by
  intro char member
  cases member

theorem dropBlankEnd_eq (chars : List Char) :
    dropBlankEnd chars = chars.rdropWhile isBlank := by
  induction chars with
  | nil => rfl
  | cons char rest inductionHypothesis =>
      rw [dropBlankEnd, inductionHypothesis]
      simp only [List.rdropWhile, List.reverse_cons, List.dropWhile_append]
      cases left : rest.reverse.dropWhile isBlank with
      | nil => cases blank : isBlank char <;> simp [blank]
      | cons last others =>
          cases back : (last :: others).reverse with
          | nil => simp at back
          | cons first more => simp [← back]

theorem trimChars_eq (chars : List Char) :
    trimChars chars = (chars.dropWhile isBlank).rdropWhile isBlank :=
  dropBlankEnd_eq _

theorem Bare.rdropWhile_eq
    {chars : List Char}
    (bare : Bare chars) :
    chars.rdropWhile isBlank = chars := by
  rw [List.rdropWhile_eq_self_iff]
  intro nonempty
  simp [bare.last _ (List.getLast?_eq_some_getLast nonempty)]

theorem rdropWhile_append_blank
    (chars : List Char)
    {blanks : List Char}
    (blank : Blank blanks) :
    (chars ++ blanks).rdropWhile isBlank = chars.rdropWhile isBlank := by
  induction blanks using List.reverseRecOn with
  | nil => rw [List.append_nil]
  | append_singleton blanks last inductionHypothesis =>
      have blankLast : isBlank last = true := blank last (by simp)
      rw [← List.append_assoc, List.rdropWhile_concat_pos _ _ _ blankLast]
      exact inductionHypothesis fun other member => blank other (by simp [member])

/-- Trimming takes off blanks around a bare text, and nothing else. -/
theorem trimChars_padded
    {before chars after : List Char}
    (blankBefore : Blank before)
    (bare : Bare chars)
    (blankAfter : Blank after) :
    trimChars (before ++ (chars ++ after)) = chars := by
  rw [trimChars_eq, List.dropWhile_append_of_pos blankBefore]
  cases chars with
  | nil =>
      rw [List.nil_append, List.dropWhile_eq_nil_iff.mpr blankAfter]
      rfl
  | cons char chars =>
      have notBlank : ¬isBlank char = true := by simp [bare.first char rfl]
      rw [List.cons_append, List.dropWhile_cons_of_neg notBlank, ← List.cons_append,
        rdropWhile_append_blank _ blankAfter, bare.rdropWhile_eq]

theorem trimChars_of_bare
    {chars : List Char}
    (bare : Bare chars) :
    trimChars chars = chars := by
  simpa using trimChars_padded blank_nil bare blank_nil

/-- What is left by trimming is bare. -/
theorem bare_trimChars (chars : List Char) : Bare (trimChars chars) := by
  rw [trimChars_eq]
  refine { first := fun char begins => ?_, last := fun char ends => ?_ }
  · obtain ⟨rest, split⟩ := List.rdropWhile_prefix isBlank (l := chars.dropWhile isBlank)
    have begun : (chars.dropWhile isBlank).head? = some char := by
      rw [← split, List.head?_append, begins]
      rfl
    have nonempty : chars.dropWhile isBlank ≠ [] := by
      intro isNil
      rw [isNil] at begun
      cases begun
    rw [List.head?_eq_some_head nonempty] at begun
    obtain rfl := Option.some.inj begun
    simpa using List.head_dropWhile_not isBlank nonempty
  · have nonempty : (chars.dropWhile isBlank).rdropWhile isBlank ≠ [] := by
      intro isNil
      rw [isNil] at ends
      cases ends
    rw [List.getLast?_eq_some_getLast nonempty] at ends
    obtain rfl := Option.some.inj ends
    simpa using List.rdropWhile_last_not isBlank _ nonempty

/-- A text is what is left by trimming, between blanks. -/
theorem exists_padding (chars : List Char) :
    ∃ before after, Blank before ∧ Blank after ∧ chars = before ++ (trimChars chars ++ after) := by
  refine ⟨chars.takeWhile isBlank, (chars.dropWhile isBlank).rtakeWhile isBlank,
    fun char member => List.mem_takeWhile_imp member,
    fun char member => List.mem_rtakeWhile_imp member, ?_⟩
  rw [trimChars_eq, List.rdropWhile_append_rtakeWhile, List.takeWhile_append_dropWhile]

/-- A text that trimming leaves alone is bare. -/
theorem bare_of_trim_eq
    {text : String}
    (trimmed : trim text = text) :
    Bare text.toList := by
  have same : trimChars text.toList = text.toList := by
    rw [← String.toList_ofList (l := trimChars text.toList)]
    exact congrArg String.toList trimmed
  rw [← same]
  exact bare_trimChars text.toList

end Switchboard.Text
