import Switchboard.Proofs.Json.Text

namespace Switchboard.Json

/-!
# Where a bar can stand

In the text of a document a bar stands inside a quoted text only.  So what comes after a bar is
the rest of a quoted text, and then something that may follow it; the text of another document is
nothing of that kind if it starts like an array of objects.
-/

/-- The rest of a quoted text, its closing quote and what may follow. -/
def Closes (text : List Char) : Prop :=
  ∃ (inner rest : List Char), text = inner.flatMap escapeChar ++ '"' :: rest ∧ Follows rest

/-- After every bar a quoted text is closed. -/
def Guarded (text : List Char) : Prop :=
  ∀ before after, text = before ++ '|' :: after → Closes after

theorem guarded_nil : Guarded [] := by
  intro before after same
  cases before <;> cases same

theorem guarded_cons
    {char : Char}
    {rest : List Char}
    (notBar : char ≠ '|')
    (guarded : Guarded rest) :
    Guarded (char :: rest) := by
  intro before after same
  cases before with
  | nil => exact absurd (List.cons.inj same).1 notBar
  | cons first before => exact guarded before after (List.cons.inj same).2

theorem guarded_append
    {text rest : List Char}
    (noBar : '|' ∉ text)
    (guarded : Guarded rest) :
    Guarded (text ++ rest) := by
  induction text with
  | nil => exact guarded
  | cons char text inductionHypothesis =>
      rw [List.mem_cons, not_or] at noBar
      exact guarded_cons (Ne.symm noBar.1) (inductionHypothesis noBar.2)

/-- Only a bar is written with a bar. -/
theorem escapeChar_bar (char : Char) :
    '|' ∉ escapeChar char ∨ escapeChar char = ['|'] := by
  have noDigit : ∀ code < 32,
      '|' ≠ Nat.digitChar (code / 16) ∧ '|' ≠ Nat.digitChar (code % 16) := by
    decide
  unfold escapeChar
  repeat' split
  all_goals try exact Or.inl (by decide)
  · rename_i isControl
    obtain ⟨notHigh, notLow⟩ := noDigit _ isControl
    left
    simp [escapeControl, notHigh, notLow]
  · by_cases isBar : char = '|'
    · exact Or.inr (by rw [isBar])
    · exact Or.inl (by simpa using Ne.symm isBar)

/-- After a bar inside a quoted text, the text is closed. -/
theorem guarded_escaped
    {rest : List Char}
    (follows : Follows rest)
    (guarded : Guarded rest)
    (inner : List Char) :
    Guarded (inner.flatMap escapeChar ++ '"' :: rest) := by
  induction inner with
  | nil => exact guarded_cons (by decide) guarded
  | cons char inner inductionHypothesis =>
      rw [List.flatMap_cons, List.append_assoc]
      rcases escapeChar_bar char with noBar | isBar
      · exact guarded_append noBar inductionHypothesis
      · rw [isBar]
        intro before after same
        cases before with
        | nil => exact ⟨inner, rest, (List.cons.inj same).2.symm, follows⟩
        | cons first before => exact inductionHypothesis before after (List.cons.inj same).2

theorem guarded_quote
    {rest : List Char}
    (follows : Follows rest)
    (guarded : Guarded rest)
    (text : String) :
    Guarded (quote text ++ rest) := by
  rw [quote_append]
  exact guarded_cons (by decide) (guarded_escaped follows guarded _)

mutual

/-- The bars of a document are guarded, whatever may follow it. -/
theorem Value.guarded_chars
    (value : Value)
    {rest : List Char}
    (follows : Follows rest)
    (guarded : Guarded rest) :
    Guarded (value.chars ++ rest) := by
  cases value with
  | null => exact guarded_append (by decide) guarded
  | bool value => cases value <;> exact guarded_append (by decide) guarded
  | number number =>
      apply guarded_append _ guarded
      intro member
      cases number.chars_numeric _ member
  | string text => exact guarded_quote follows guarded text
  | array items =>
      cases items with
      | nil => exact guarded_append (by decide) guarded
      | cons item items =>
          show Guarded ('[' :: (item.chars ++ itemsChars items ++ rest))
          rw [List.append_assoc]
          exact guarded_cons (by decide) (Value.guarded_chars item (follows_items _ _)
            (guarded_itemsChars items guarded))
  | object members =>
      cases members with
      | nil => exact guarded_append (by decide) guarded
      | cons member members =>
          have goesOn := guarded_membersChars (member :: members) guarded
          intro before after same
          cases before with
          | nil => cases (List.cons.inj same).1
          | cons first before =>
              exact goesOn (',' :: before) after
                (congrArg (List.cons ',') (List.cons.inj same).2)

theorem guarded_itemsChars
    (items : List Value)
    {rest : List Char}
    (guarded : Guarded rest) :
    Guarded (itemsChars items ++ rest) := by
  cases items with
  | nil => exact guarded_append (by decide) guarded
  | cons item items =>
      rw [itemsChars_cons_append]
      exact guarded_cons (by decide) (Value.guarded_chars item (follows_items _ _)
        (guarded_itemsChars items guarded))

theorem guarded_membersChars
    (members : List (String × Value))
    {rest : List Char}
    (guarded : Guarded rest) :
    Guarded (membersChars members ++ rest) := by
  cases members with
  | nil => exact guarded_append (by decide) guarded
  | cons member members =>
      obtain ⟨name, value⟩ := member
      rw [membersChars_cons_append]
      apply guarded_cons (by decide)
      apply guarded_quote (Or.inr ⟨':', _, rfl, by decide⟩)
      exact guarded_cons (by decide) (Value.guarded_chars value (follows_members _ _)
        (guarded_membersChars members guarded))

end

theorem Closes.tail
    {char : Char}
    {text : List Char}
    (notQuote : char ≠ '"')
    (notBackslash : char ≠ '\\')
    (closes : Closes (char :: text)) :
    Closes text := by
  obtain ⟨inner, rest, same, follows⟩ := closes
  cases inner with
  | nil => exact absurd (List.cons.inj same).1 notQuote
  | cons first inner =>
      have read := congrArg readChar same
      rw [readChar_plain notQuote notBackslash, List.flatMap_cons, List.append_assoc,
        readChar_escapeChar] at read
      obtain ⟨_, sameText⟩ := Prod.mk.inj (Option.some.inj read)
      exact ⟨inner, rest, sameText, follows⟩

theorem Closes.follows
    {text : List Char}
    (closes : Closes ('"' :: text)) :
    Follows text := by
  obtain ⟨inner, rest, same, follows⟩ := closes
  cases inner with
  | nil =>
      rw [(List.cons.inj same).2]
      exact follows
  | cons first inner =>
      have read := congrArg readChar same
      rw [List.flatMap_cons, List.append_assoc, readChar_escapeChar] at read
      cases read

theorem not_closes_nil : ¬Closes [] := by
  rintro ⟨inner, rest, same, _⟩
  exact List.append_ne_nil_of_right_ne_nil _ (List.cons_ne_nil _ _) same.symm

end Switchboard.Json
