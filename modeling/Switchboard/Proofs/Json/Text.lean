import Switchboard.Proofs.Json.NumberText

namespace Switchboard.Json

/-!
# Texts of documents

A document can be read back from its text: where the text of a document ends is told by what may
come after it, so two documents with the same text are the same.
-/

/-- What comes after a document: nothing, or one of the characters that end it. -/
def Follows (rest : List Char) : Prop :=
  rest = [] ∨ ∃ stop others, rest = stop :: others ∧ stop ∈ [',', ':', '}', ']']

/-!
## Quoted texts
-/

def hexValue (char : Char) : Nat :=
  if char.isDigit then char.toNat - 48 else char.toNat - 87

/-- Read one character of a quoted text, unless the text ends there. -/
def readChar : List Char → Option (Char × List Char)
  | '\\' :: '"' :: rest => some ('"', rest)
  | '\\' :: '\\' :: rest => some ('\\', rest)
  | '\\' :: 'b' :: rest => some (Char.ofNat 8, rest)
  | '\\' :: 'f' :: rest => some (Char.ofNat 12, rest)
  | '\\' :: 'n' :: rest => some ('\n', rest)
  | '\\' :: 'r' :: rest => some ('\r', rest)
  | '\\' :: 't' :: rest => some ('\t', rest)
  | '\\' :: 'u' :: _ :: _ :: high :: low :: rest =>
      some (Char.ofNat (16 * hexValue high + hexValue low), rest)
  | '"' :: _ => none
  | char :: rest => some (char, rest)
  | [] => none

theorem readChar_plain
    {char : Char}
    (notQuote : char ≠ '"')
    (notBackslash : char ≠ '\\')
    (rest : List Char) :
    readChar (char :: rest) = some (char, rest) := by
  unfold readChar
  split <;> simp_all

theorem readChar_escapeControl
    {char : Char}
    (isControl : char.toNat < 32)
    (rest : List Char) :
    readChar (escapeControl char.toNat ++ rest) = some (char, rest) := by
  have digits : ∀ code < 32,
      16 * hexValue (Nat.digitChar (code / 16)) + hexValue (Nat.digitChar (code % 16)) = code := by
    decide
  show some (Char.ofNat _, rest) = some (char, rest)
  rw [digits _ isControl, Char.ofNat_toNat]

theorem readChar_escapeChar
    (char : Char)
    (rest : List Char) :
    readChar (escapeChar char ++ rest) = some (char, rest) := by
  have byCode {code : Nat} (isCode : char.toNat = code) : char = Char.ofNat code := by
    rw [← isCode, Char.ofNat_toNat]
  unfold escapeChar
  split
  · rename_i isQuote
    rw [isQuote]
    rfl
  split
  · rename_i isBackslash
    rw [isBackslash]
    rfl
  split
  · rename_i isBackspace
    rw [byCode isBackspace]
    rfl
  split
  · rename_i isFormFeed
    rw [byCode isFormFeed]
    rfl
  split
  · rename_i isNewline
    rw [isNewline]
    rfl
  split
  · rename_i isReturn
    rw [isReturn]
    rfl
  split
  · rename_i isTab
    rw [isTab]
    rfl
  split
  · rename_i isControl
    exact readChar_escapeControl isControl rest
  · rename_i notQuote notBackslash _ _ _ _ _ _
    exact readChar_plain notQuote notBackslash rest

/-- Two quoted texts end at the same place and are the same. -/
theorem escaped_injective
    {first second : List Char}
    {restFirst restSecond : List Char}
    (same :
      first.flatMap escapeChar ++ '"' :: restFirst =
        second.flatMap escapeChar ++ '"' :: restSecond) :
    first = second ∧ restFirst = restSecond := by
  induction first generalizing second with
  | nil =>
      cases second with
      | nil => exact ⟨rfl, (List.cons.inj same).2⟩
      | cons char second =>
          have read := congrArg readChar same
          rw [List.flatMap_cons, List.append_assoc, readChar_escapeChar] at read
          cases read
  | cons char first inductionHypothesis =>
      have read := congrArg readChar same
      rw [List.flatMap_cons, List.append_assoc, readChar_escapeChar] at read
      cases second with
      | nil => cases read
      | cons other second =>
          rw [List.flatMap_cons, List.append_assoc, readChar_escapeChar] at read
          obtain ⟨rfl, sameRest⟩ := Prod.mk.inj (Option.some.inj read)
          obtain ⟨rfl, sameEnd⟩ := inductionHypothesis sameRest
          exact ⟨rfl, sameEnd⟩

theorem quote_append (text : String) (rest : List Char) :
    quote text ++ rest = '"' :: (text.toList.flatMap escapeChar ++ '"' :: rest) := by
  simp [quote]

theorem quote_injective
    {first second : String}
    {restFirst restSecond : List Char}
    (same : quote first ++ restFirst = quote second ++ restSecond) :
    first = second ∧ restFirst = restSecond := by
  rw [quote_append, quote_append] at same
  obtain ⟨sameText, sameRest⟩ := escaped_injective (List.cons.inj same).2
  exact ⟨String.toList_inj.mp sameText, sameRest⟩

/-!
## Numbers
-/

theorem Follows.not_numeric
    {rest : List Char}
    (follows : Follows rest) :
    rest.takeWhile Decimal.isNumeric = [] := by
  rcases follows with rfl | ⟨stop, others, rfl, isStop⟩
  · rfl
  · have notNumeric : Decimal.isNumeric stop = false := by
      simp only [List.mem_cons, List.not_mem_nil, or_false] at isStop
      rcases isStop with rfl | rfl | rfl | rfl <;> rfl
    rw [List.takeWhile_cons, notNumeric]
    rfl

theorem Number.chars_append_injective
    {first second : Number}
    {restFirst restSecond : List Char}
    (followsFirst : Follows restFirst)
    (followsSecond : Follows restSecond)
    (same : first.chars ++ restFirst = second.chars ++ restSecond) :
    first = second ∧ restFirst = restSecond := by
  have read := congrArg (List.takeWhile Decimal.isNumeric) same
  rw [List.takeWhile_append_of_pos first.chars_numeric,
    List.takeWhile_append_of_pos second.chars_numeric, followsFirst.not_numeric,
    followsSecond.not_numeric, List.append_nil, List.append_nil] at read
  obtain rfl := Number.chars_injective read
  exact ⟨rfl, List.append_cancel_left same⟩

/-!
## Documents
-/

/-- Which kind of document a text starts. -/
inductive Shape where
  | null
  | yes
  | no
  | number
  | string
  | array
  | object
  deriving DecidableEq

def Value.shape : Value → Shape
  | .null => .null
  | .bool true => .yes
  | .bool false => .no
  | .number _ => .number
  | .string _ => .string
  | .array _ => .array
  | .object _ => .object

/-- The kind of document that a character starts, if any. -/
def Shape.ofChar? (char : Char) : Option Shape :=
  if char = 'n' then some .null
  else if char = 't' then some .yes
  else if char = 'f' then some .no
  else if char = '"' then some .string
  else if char = '[' then some .array
  else if char = '{' then some .object
  else if Decimal.isNumeric char then some .number
  else none

/-- The kind of document that a text starts, if any. -/
def Shape.ofText? (text : List Char) : Option Shape :=
  text.head?.bind Shape.ofChar?

theorem Shape.ofChar?_numeric
    {char : Char}
    (numeric : Decimal.isNumeric char = true) :
    ofChar? char = some .number := by
  have apart {other : Char} (notNumeric : Decimal.isNumeric other = false) : char ≠ other := by
    rintro rfl
    cases numeric.symm.trans notNumeric
  have notNull : char ≠ 'n' := apart rfl
  have notYes : char ≠ 't' := apart rfl
  have notNo : char ≠ 'f' := apart rfl
  have notString : char ≠ '"' := apart rfl
  have notArray : char ≠ '[' := apart rfl
  have notObject : char ≠ '{' := apart rfl
  simp only [ofChar?, notNull, notYes, notNo, notString, notArray, notObject, numeric, if_true,
    if_false]

theorem Value.ofText?_chars
    (value : Value)
    (rest : List Char) :
    Shape.ofText? (value.chars ++ rest) = some value.shape := by
  cases value with
  | null => rfl
  | bool value => cases value <;> rfl
  | number number =>
      obtain ⟨first, others, isText⟩ := List.exists_cons_of_ne_nil number.chars_ne_nil
      have numeric := number.chars_numeric first (by rw [isText]; exact List.mem_cons_self)
      show Shape.ofText? (number.chars ++ rest) = some .number
      rw [isText]
      exact Shape.ofChar?_numeric numeric
  | string text => rfl
  | array items => cases items <;> rfl
  | object members => cases members <;> rfl

theorem follows_items
    (items : List Value)
    (rest : List Char) :
    Follows (itemsChars items ++ rest) := by
  cases items with
  | nil => exact Or.inr ⟨']', _, rfl, by decide⟩
  | cons item items => exact Or.inr ⟨',', _, rfl, by decide⟩

theorem follows_members
    (members : List (String × Value))
    (rest : List Char) :
    Follows (membersChars members ++ rest) := by
  cases members with
  | nil => exact Or.inr ⟨'}', _, rfl, by decide⟩
  | cons member members => exact Or.inr ⟨',', _, rfl, by decide⟩

theorem itemsChars_cons_append
    (item : Value)
    (items : List Value)
    (rest : List Char) :
    itemsChars (item :: items) ++ rest = ',' :: (item.chars ++ (itemsChars items ++ rest)) := by
  simp [itemsChars]

theorem membersChars_cons_append
    (name : String)
    (value : Value)
    (members : List (String × Value))
    (rest : List Char) :
    membersChars ((name, value) :: members) ++ rest =
      ',' :: (quote name ++ ':' :: (value.chars ++ (membersChars members ++ rest))) := by
  simp [membersChars]

/-- An empty array is not the beginning of one with items. -/
theorem items_not_closed
    {item : Value}
    {items : List Value}
    {rest closed : List Char} :
    itemsChars (item :: items) ++ rest ≠ ',' :: ']' :: closed := by
  intro same
  rw [itemsChars_cons_append] at same
  have starts := item.ofText?_chars (itemsChars items ++ rest)
  rw [(List.cons.inj same).2] at starts
  cases starts

mutual

/-- Two documents end at the same place and are the same. -/
theorem Value.chars_append_injective
    (first second : Value)
    {restFirst restSecond : List Char}
    (followsFirst : Follows restFirst)
    (followsSecond : Follows restSecond)
    (same : first.chars ++ restFirst = second.chars ++ restSecond) :
    first = second ∧ restFirst = restSecond := by
  have sameShape : first.shape = second.shape := by
    apply Option.some.inj
    rw [← first.ofText?_chars restFirst, same, second.ofText?_chars restSecond]
  cases first with
  | null =>
      cases second with
      | null => exact ⟨rfl, List.append_cancel_left same⟩
      | bool other => cases other <;> cases sameShape
      | _ => cases sameShape
  | bool value =>
      cases second with
      | bool other =>
          cases value <;> cases other <;> cases sameShape
          · exact ⟨rfl, List.append_cancel_left same⟩
          · exact ⟨rfl, List.append_cancel_left same⟩
      | _ => cases value <;> cases sameShape
  | number number =>
      cases second with
      | number other =>
          obtain ⟨rfl, sameRest⟩ :=
            Number.chars_append_injective followsFirst followsSecond same
          exact ⟨rfl, sameRest⟩
      | bool other => cases other <;> cases sameShape
      | _ => cases sameShape
  | string text =>
      cases second with
      | string other =>
          obtain ⟨rfl, sameRest⟩ := quote_injective same
          exact ⟨rfl, sameRest⟩
      | bool other => cases other <;> cases sameShape
      | _ => cases sameShape
  | array items =>
      cases second with
      | array others =>
          -- Past the bracket, both go on as after an item.
          have goesOn := congrArg (fun text => ',' :: text.tail) same
          cases items with
          | nil =>
              cases others with
              | nil => exact ⟨rfl, List.append_cancel_left same⟩
              | cons other others => exact absurd goesOn.symm items_not_closed
          | cons item items =>
              cases others with
              | nil => exact absurd goesOn items_not_closed
              | cons other others =>
                  obtain ⟨sameItems, sameRest⟩ :=
                    itemsChars_append_injective (item :: items) (other :: others) goesOn
                  exact ⟨congrArg Value.array sameItems, sameRest⟩
      | bool other => cases other <;> cases sameShape
      | _ => cases sameShape
  | object members =>
      cases second with
      | object others =>
          have goesOn := congrArg (fun text => ',' :: text.tail) same
          cases members with
          | nil =>
              cases others with
              | nil => exact ⟨rfl, List.append_cancel_left same⟩
              | cons other others => cases (List.cons.inj same).2
          | cons member members =>
              cases others with
              | nil => cases (List.cons.inj same).2
              | cons other others =>
                  obtain ⟨sameMembers, sameRest⟩ :=
                    membersChars_append_injective (member :: members) (other :: others) goesOn
                  exact ⟨congrArg Value.object sameMembers, sameRest⟩
      | bool other => cases other <;> cases sameShape
      | _ => cases sameShape

/-- Two arrays that go on alike are the same from there on. -/
theorem itemsChars_append_injective
    (first second : List Value)
    {restFirst restSecond : List Char}
    (same : itemsChars first ++ restFirst = itemsChars second ++ restSecond) :
    first = second ∧ restFirst = restSecond := by
  cases first with
  | nil =>
      cases second with
      | nil => exact ⟨rfl, List.append_cancel_left same⟩
      | cons other others => cases (List.cons.inj same).1
  | cons item items =>
      cases second with
      | nil => cases (List.cons.inj same).1
      | cons other others =>
          rw [itemsChars_cons_append, itemsChars_cons_append] at same
          obtain ⟨rfl, sameOthers⟩ := Value.chars_append_injective item other
            (follows_items _ _) (follows_items _ _) (List.cons.inj same).2
          obtain ⟨rfl, sameRest⟩ := itemsChars_append_injective items others sameOthers
          exact ⟨rfl, sameRest⟩

/-- Two objects that go on alike are the same from there on. -/
theorem membersChars_append_injective
    (first second : List (String × Value))
    {restFirst restSecond : List Char}
    (same : membersChars first ++ restFirst = membersChars second ++ restSecond) :
    first = second ∧ restFirst = restSecond := by
  cases first with
  | nil =>
      cases second with
      | nil => exact ⟨rfl, List.append_cancel_left same⟩
      | cons other others => cases (List.cons.inj same).1
  | cons member members =>
      cases second with
      | nil => cases (List.cons.inj same).1
      | cons other others =>
          obtain ⟨name, value⟩ := member
          obtain ⟨otherName, otherValue⟩ := other
          rw [membersChars_cons_append, membersChars_cons_append] at same
          obtain ⟨rfl, sameValues⟩ := quote_injective (List.cons.inj same).2
          obtain ⟨rfl, sameOthers⟩ := Value.chars_append_injective value otherValue
            (follows_members _ _) (follows_members _ _) (List.cons.inj sameValues).2
          obtain ⟨rfl, sameRest⟩ := membersChars_append_injective members others sameOthers
          exact ⟨rfl, sameRest⟩

end

/-- Different documents have different texts. -/
theorem Value.chars_injective : Function.Injective Value.chars := by
  intro first second same
  have same : first.chars ++ [] = second.chars ++ [] := by rw [same]
  exact (first.chars_append_injective second (Or.inl rfl) (Or.inl rfl) same).1

end Switchboard.Json
