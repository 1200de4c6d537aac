import Switchboard.Json.Syntax
import Switchboard.Proofs.Json.Text

namespace Switchboard.Json

/-!
# Reading texts of documents

The compact text of a document is read as the document again if it is `Exact`: the numbers in it are
integers of 64 bits, its members are in order and it is not too deep.  Reading takes just the
characters of the document, so whatever may follow it is left over.
-/

namespace Syntax

/-!
## Quoted texts
-/

/-- One piece stands for a character, and the characters of its text are read as this piece. -/
structure Spells (text : List Char) (char : Char) (piece : Piece) : Prop where
  read : ∀ rest,
    readPieces? (text ++ rest) = (readPieces? rest).map fun read => (piece :: read.1, read.2)
  decoded : ∀ pieces,
    decodePieces? (piece :: pieces) = (decodePieces? pieces).map (char :: ·)

theorem spells_short
    {char letter : Char}
    (notUnit : letter ≠ 'u')
    (isEscape : shortEscape? letter = some char) :
    Spells ['\\', letter] char (.char char) where
  read rest := by
    rw [List.cons_append, List.singleton_append, readPieces?, isEscape]
    · cases readPieces? rest <;> rfl
    · exact fun _ _ _ _ _ isUnit _ => notUnit isUnit
  decoded pieces := by rw [decodePieces?]

theorem spells_control
    {char : Char}
    (isControl : char.toNat < 32) :
    Spells (escapeControl char.toNat) char (.unit char.toNat) where
  read rest := by
    have all : ∀ code < 32,
        hexValues? '0' '0' (Nat.digitChar (code / 16)) (Nat.digitChar (code % 16)) =
          some code := by
      decide
    simp only [escapeControl, List.cons_append, List.nil_append, readPieces?, all _ isControl]
    cases readPieces? rest <;> rfl
  decoded pieces := by
    have notHigh : isHigh char.toNat = false := by
      simp only [isHigh, Bool.and_eq_false_iff, decide_eq_false_iff_not]
      omega
    have notLow : isLow char.toNat = false := by
      simp only [isLow, Bool.and_eq_false_iff, decide_eq_false_iff_not]
      omega
    rw [decodePieces?.eq_def]
    simp only [notHigh, notLow, Bool.false_eq_true, if_false, Char.ofNat_toNat]

theorem spells_plain
    {char : Char}
    (notQuote : char ≠ '"')
    (notBackslash : char ≠ '\\')
    (notControl : ¬char.toNat < 32) :
    Spells [char] char (.char char) where
  read rest := by
    have notEscape : ¬(char.toNat < 32 ∨ char = '\\') := by
      rintro (isControl | isBackslash)
      · exact notControl isControl
      · exact notBackslash isBackslash
    rw [List.singleton_append, readPieces?, if_neg notEscape]
    · cases readPieces? rest <;> rfl
    · exact notQuote
    · exact fun _ _ _ _ _ isBackslash _ => notBackslash isBackslash
    · exact fun _ _ isBackslash _ => notBackslash isBackslash
  decoded pieces := by rw [decodePieces?]

/-- Every character is written so that one piece stands for it. -/
theorem exists_spells (char : Char) : ∃ piece, Spells (escapeChar char) char piece := by
  have byCode {code : Nat} (isCode : char.toNat = code) : char = Char.ofNat code := by
    rw [← isCode, Char.ofNat_toNat]
  unfold escapeChar
  split
  · next isQuote => exact ⟨_, spells_short (by decide) (by rw [isQuote]; rfl)⟩
  split
  · next isBackslash => exact ⟨_, spells_short (by decide) (by rw [isBackslash]; rfl)⟩
  split
  · next isBackspace => exact ⟨_, spells_short (by decide) (by rw [byCode isBackspace]; rfl)⟩
  split
  · next isFormFeed => exact ⟨_, spells_short (by decide) (by rw [byCode isFormFeed]; rfl)⟩
  split
  · next isNewline => exact ⟨_, spells_short (by decide) (by rw [isNewline]; rfl)⟩
  split
  · next isReturn => exact ⟨_, spells_short (by decide) (by rw [isReturn]; rfl)⟩
  split
  · next isTab => exact ⟨_, spells_short (by decide) (by rw [isTab]; rfl)⟩
  split
  · next isControl => exact ⟨_, spells_control isControl⟩
  · next notQuote notBackslash _ _ _ _ _ notControl =>
      exact ⟨_, spells_plain notQuote notBackslash notControl⟩

/-- A text in quotes is read up to its closing quote. -/
theorem readPieces?_escaped
    (text : List Char)
    (rest : List Char) :
    ∃ pieces,
      readPieces? (text.flatMap escapeChar ++ '"' :: rest) = some (pieces, rest) ∧
        decodePieces? pieces = some text := by
  induction text with
  | nil => exact ⟨[], by rw [List.flatMap_nil, List.nil_append, readPieces?], rfl⟩
  | cons char text inductionHypothesis =>
      obtain ⟨pieces, isRead, decoded⟩ := inductionHypothesis
      obtain ⟨piece, spells⟩ := exists_spells char
      refine ⟨piece :: pieces, ?_, ?_⟩
      · rw [List.flatMap_cons, List.append_assoc, spells.read, isRead]
        rfl
      · rw [spells.decoded, decoded]
        rfl

/-- A quoted text is read after its opening quote. -/
theorem readString?_quoted
    (text : String)
    (rest : List Char) :
    readString? (text.toList.flatMap escapeChar ++ '"' :: rest) = some (some text, rest) := by
  obtain ⟨pieces, isRead, decoded⟩ := readPieces?_escaped text.toList rest
  simp only [readString?, isRead, Option.bind_eq_bind, Option.bind_some, decoded, Option.map_some,
    String.ofList_toList]

/-!
## Integers
-/

/-- Only zero is written with a leading zero. -/
theorem head_toDigits
    {number : Nat}
    (positive : 0 < number) :
    (Nat.toDigits 10 number).head? ≠ some '0' := by
  induction number using Nat.strongRecOn with
  | ind number inductionHypothesis =>
      by_cases single : number < 10
      · have all : ∀ digit < 10, 0 < digit → some (Nat.digitChar digit) ≠ some '0' := by decide
        rw [Nat.toDigits_of_lt_base single]
        exact all number single positive
      · have shorter := inductionHypothesis (number / 10) (by omega) (by omega)
        rw [Nat.toDigits_of_base_le (by decide) (Nat.le_of_not_lt single), List.head?_append]
        cases isHead : (Nat.toDigits 10 (number / 10)).head? with
        | none => exact absurd (List.head?_eq_none_iff.mp isHead) Nat.toDigits_ne_nil
        | some digit => rwa [isHead] at shorter

theorem digitsValue_toDigits (number : Nat) :
    digitsValue (Nat.toDigits 10 number) = number := by
  have folds :
      digitsValue (Nat.toDigits 10 number) = Nat.ofDigitChars 10 (Nat.toDigits 10 number) 0 := by
    rw [Nat.ofDigitChars_eq_foldl]
    rfl
  rw [folds, Nat.ofDigitChars_ten_toDigits]

/-- What may follow a document begins with nothing that goes on a number. -/
theorem not_digit_of_follows
    {rest : List Char}
    (follows : Follows rest) :
    ∀ next others, rest = next :: others →
      next.isDigit = false ∧ next ≠ '.' ∧ next ≠ 'e' ∧ next ≠ 'E' := by
  rintro next others rfl
  rcases follows with isNil | ⟨stop, more, same, isStop⟩
  · cases isNil
  · cases same
    simp only [List.mem_cons, List.not_mem_nil, or_false] at isStop
    rcases isStop with rfl | rfl | rfl | rfl <;> decide

theorem takeWhile_digits
    {digits rest : List Char}
    (allDigits : Decimal.AllDigits digits)
    (follows : Follows rest) :
    (digits ++ rest).takeWhile Char.isDigit = digits ∧
      (digits ++ rest).dropWhile Char.isDigit = rest := by
  rw [List.takeWhile_append_of_pos allDigits, List.dropWhile_append_of_pos allDigits]
  cases rest with
  | nil => exact ⟨List.append_nil _, rfl⟩
  | cons next others =>
      have notDigit := (not_digit_of_follows follows next others rfl).1
      rw [List.takeWhile_cons_of_neg (by simp [notDigit]),
        List.dropWhile_cons_of_neg (by simp [notDigit])]
      exact ⟨List.append_nil _, rfl⟩

/-- The digits of a number are read up to what follows them. -/
theorem readWhole?_toDigits
    (number : Nat)
    {rest : List Char}
    (follows : Follows rest) :
    readWhole? (Nat.toDigits 10 number ++ rest) = some (Nat.toDigits 10 number, rest) := by
  obtain ⟨taken, left⟩ := takeWhile_digits (Decimal.allDigits_toDigits number) follows
  rcases Nat.eq_zero_or_pos number with rfl | positive
  · rw [Nat.toDigits_zero]
    cases rest with
    | nil => rfl
    | cons next others =>
        have notDigit := (not_digit_of_follows follows next others rfl).1
        simp only [List.singleton_append, readWhole?, notDigit, Bool.false_eq_true, if_false]
  · obtain ⟨digit, digits, isText, _⟩ := toDigits_digitFirst number
    have notZero := head_toDigits positive
    rw [isText] at notZero taken left ⊢
    have noLeadingZero : ∀ others, digit :: digits ++ rest = '0' :: others → False := by
      intro others same
      exact notZero (congrArg some (List.cons.inj same).1)
    rw [readWhole?, taken, left]
    exact noLeadingZero

theorem readFraction?_of_follows
    {rest : List Char}
    (follows : Follows rest) :
    readFraction? rest = some ([], rest) := by
  cases rest with
  | nil => rfl
  | cons next others =>
      have notPoint := (not_digit_of_follows follows next others rfl).2.1
      rw [readFraction?]
      exact fun _ isPoint => notPoint (List.cons.inj isPoint).1

theorem readPower?_of_follows
    {rest : List Char}
    (follows : Follows rest) :
    readPower? rest = some (none, rest) := by
  cases rest with
  | nil => rfl
  | cons next others =>
      obtain ⟨_, _, notSmall, notLarge⟩ := not_digit_of_follows follows next others rfl
      simp only [readPower?, notSmall, notLarge, or_self, if_false]

/-- How an integer is written. -/
def integerLiteral (value : Int) : Literal :=
  { negative := decide (value < 0), whole := Nat.toDigits 10 value.natAbs, fraction := []
    power := none }

theorem readNumber?_integerChars
    (value : Int)
    {rest : List Char}
    (follows : Follows rest) :
    readNumber? (integerChars value ++ rest) = some (integerLiteral value, rest) := by
  have whole := readWhole?_toDigits value.natAbs follows
  rw [integerChars_eq, integerLiteral]
  by_cases negative : value < 0
  · simp only [negative, decide_true, signed, if_true, List.cons_append]
    simp only [readNumber?, whole, readFraction?_of_follows follows, readPower?_of_follows follows,
      Option.bind_eq_bind, Option.bind_some]
  · have unsigned : ∀ others, Nat.toDigits 10 value.natAbs ++ rest = '-' :: others → False := by
      intro others same
      obtain ⟨digit, digits, isText, isDigit⟩ := toDigits_digitFirst value.natAbs
      rw [isText] at same
      obtain rfl := (List.cons.inj same).1
      cases isDigit
    simp only [negative, decide_false, signed, Bool.false_eq_true, if_false]
    rw [readNumber?]
    · simp only [whole, readFraction?_of_follows follows, readPower?_of_follows follows,
        Option.bind_eq_bind, Option.bind_some]
    · exact unsigned

/-- An integer of 64 bits, signed below zero and unsigned above. -/
def IsStored (value : Int) : Prop :=
  -0x8000000000000000 ≤ value ∧ value ≤ largestInteger

theorem toNumber?_integerLiteral
    {value : Int}
    (isStored : IsStored value) :
    (integerLiteral value).toNumber? = some (.integer value) := by
  obtain ⟨least, largest⟩ := isStored
  simp only [Literal.toNumber?, integerLiteral, digitsValue_toDigits, and_self, if_true,
    decide_eq_true_eq]
  by_cases negative : value < 0
  · have inRange : 0 < value.natAbs ∧ value.natAbs ≤ 0x8000000000000000 := by omega
    rw [if_pos negative, if_pos inRange]
    congr 2
    omega
  · have inRange : value.natAbs ≤ largestInteger := by omega
    rw [if_neg negative, if_pos inRange]
    congr 2
    omega

/-!
## Documents
-/

/-- No space stands before what starts a document. -/
theorem skip_of_shape
    {first : Char}
    {shape : Shape}
    (starts : Shape.ofChar? first = some shape)
    (others : List Char) :
    skip (first :: others) = first :: others := by
  have apart {other : Char} (noShape : Shape.ofChar? other = none) : first ≠ other := by
    rintro rfl
    cases noShape.symm.trans starts
  have notBlank : first ≠ ' ' := apart rfl
  have notNewline : first ≠ '\n' := apart rfl
  have notTab : first ≠ '\t' := apart rfl
  have notReturn : first ≠ '\r' := apart rfl
  have notSpace : ¬isSpace first = true := by
    simp [isSpace, notBlank, notNewline, notTab, notReturn]
  rw [skip, List.dropWhile_cons_of_neg notSpace]

/-- A number is read where a text goes on with it. -/
theorem readValue?_of_numeric
    {first : Char}
    {others : List Char}
    (numeric : Decimal.isNumeric first = true)
    (fuel : Nat) :
    readValue? (fuel + 1) (first :: others) =
      (readNumber? (first :: others)).map fun read => (.number read.1, read.2) := by
  have apart {other : Char} (notNumeric : Decimal.isNumeric other = false) : first ≠ other := by
    rintro rfl
    cases numeric.symm.trans notNumeric
  rw [readValue?, skip_of_shape (Shape.ofChar?_numeric numeric)]
  split
  · next same => exact absurd (List.cons.inj same).1 (apart rfl)
  · next same => exact absurd (List.cons.inj same).1 (apart rfl)
  · next same => exact absurd (List.cons.inj same).1 (apart rfl)
  · next same => exact absurd (List.cons.inj same).1 (apart rfl)
  · next same => exact absurd (List.cons.inj same).1 (apart rfl)
  · next same => exact absurd (List.cons.inj same).1 (apart rfl)
  · cases readNumber? (first :: others) <;> rfl

/-- A document begins with no space, and with nothing that closes an array. -/
theorem begins_chars
    (value : Value)
    (rest : List Char) :
    skip (value.chars ++ rest) = value.chars ++ rest ∧
      ∀ others, value.chars ++ rest ≠ ']' :: others := by
  have starts := value.ofText?_chars rest
  cases begun : value.chars ++ rest with
  | nil =>
      rw [begun] at starts
      cases starts
  | cons first others =>
      rw [begun] at starts
      refine ⟨skip_of_shape starts others, fun more same => ?_⟩
      rw [(List.cons.inj same).1] at starts
      cases starts

/-- An array is read as its items are. -/
theorem readValue?_array
    {fuel : Nat}
    {item : Value}
    {items : List Value}
    {written : List Syntax}
    {rest : List Char}
    (isRead :
      readItems? fuel (item.chars ++ (itemsChars items ++ rest)) = some (written, rest)) :
    readValue? (fuel + 1) ((Value.array (item :: items)).chars ++ rest) =
      some (.array written, rest) := by
  obtain ⟨skips, notClosed⟩ := begins_chars item (itemsChars items ++ rest)
  have opens (text : List Char) : skip ('[' :: text) = '[' :: text := rfl
  rw [Value.chars, List.cons_append, List.append_assoc, readValue?, opens]
  -- `notClosed` tells that the array is not taken for an empty one
  simp only [skips, isRead, Option.bind_eq_bind, Option.bind_some]

/-- An object is read as its members are. -/
theorem readValue?_object
    {fuel : Nat}
    {name : String}
    {value : Value}
    {members : List (String × Value)}
    {written : List (Option String × Syntax)}
    {rest : List Char}
    (isRead :
      readMembers? fuel (quote name ++ ':' :: (value.chars ++ (membersChars members ++ rest))) =
        some (written, rest)) :
    readValue? (fuel + 1) ((Value.object ((name, value) :: members)).chars ++ rest) =
      some (.object written, rest) := by
  have opens (text : List Char) : skip ('{' :: text) = '{' :: text := rfl
  have begins (text : List Char) : skip (quote name ++ text) = quote name ++ text := rfl
  rw [Value.chars, List.cons_append, List.append_assoc, List.cons_append, List.append_assoc,
    readValue?, opens]
  simp only [begins]
  split
  · next closed => cases (List.cons.inj closed).1
  · simp only [isRead, Option.bind_eq_bind, Option.bind_some]

/-- An item that is read is the last one before a bracket, and is not before a comma. -/
theorem readItems?_of_read
    {fuel : Nat}
    {text rest : List Char}
    {item : Syntax}
    (isRead : readValue? fuel text = some (item, rest)) :
    (∀ others, rest = ']' :: others → readItems? (fuel + 1) text = some ([item], others)) ∧
      ∀ others, rest = ',' :: others →
        readItems? (fuel + 1) text =
          (readItems? fuel others).map fun read => (item :: read.1, read.2) := by
  constructor
  · rintro others rfl
    rw [readItems?, isRead]
    rfl
  · rintro others rfl
    rw [readItems?, isRead]
    show (readItems? fuel others).bind _ = _
    cases readItems? fuel others <;> rfl

/-- So is a member before a brace and before a comma. -/
theorem readMembers?_of_read
    {fuel : Nat}
    {text rest : List Char}
    {value : Syntax}
    (name : String)
    (isRead : readValue? fuel text = some (value, rest)) :
    (∀ others, rest = '}' :: others →
      readMembers? (fuel + 1) (quote name ++ ':' :: text) = some ([(some name, value)], others)) ∧
      ∀ others, rest = ',' :: others →
        readMembers? (fuel + 1) (quote name ++ ':' :: text) =
          (readMembers? fuel others).map fun read => ((some name, value) :: read.1, read.2) := by
  have begins (chars : List Char) : skip ('"' :: chars) = '"' :: chars := rfl
  have colon : skip (':' :: text) = ':' :: text := rfl
  rw [quote_append]
  constructor
  · rintro others rfl
    simp only [readMembers?, begins, readString?_quoted, Option.bind_eq_bind, Option.bind_some,
      colon, isRead]
    rfl
  · rintro others rfl
    simp only [readMembers?, begins, readString?_quoted, Option.bind_eq_bind, Option.bind_some,
      colon, isRead]
    show (readMembers? fuel others).bind _ = _
    cases readMembers? fuel others <;> rfl

end Syntax

open Syntax (read? readValue? readItems? readMembers? skip readNumber?_integerChars
  readValue?_of_numeric integerLiteral toNumber?_integerLiteral readString?_quoted readValue?_array
  readValue?_object readItems?_of_read readMembers?_of_read)

mutual

/-- A document that has room in a depth and that its text tells exactly: the numbers in it are
integers that are stored, and the members of objects are in order. -/
def Value.Exact (depth : Nat) : Value → Prop
  | .number (.integer value) => Syntax.IsStored value
  | .number (.float _) => False
  | .array items => 2 ≤ depth ∧ ItemsExact (depth - 1) items
  | .object members => 2 ≤ depth ∧ Dict.Ordered members ∧ MembersExact (depth - 1) members
  | _ => True

def ItemsExact (depth : Nat) : List Value → Prop
  | [] => True
  | item :: items => item.Exact depth ∧ ItemsExact depth items

def MembersExact (depth : Nat) : List (String × Value) → Prop
  | [] => True
  | (_, value) :: members => value.Exact depth ∧ MembersExact depth members

end

theorem length_itemsChars_pos (items : List Value) : 0 < (itemsChars items).length := by
  cases items <;> simp [itemsChars]

theorem length_membersChars_pos (members : List (String × Value)) :
    0 < (membersChars members).length := by
  cases members with
  | nil => simp [membersChars]
  | cons member members => simp [membersChars]

theorem Value.length_chars_pos (value : Value) : 0 < value.chars.length := by
  have starts := value.ofText?_chars []
  rw [List.append_nil] at starts
  cases isText : value.chars with
  | nil =>
      rw [isText] at starts
      cases starts
  | cons first others => simp

mutual

/-- An exact document is read from its text, whatever may follow it.  Each step of the reader takes
at least one character, so there is fuel enough if there is as much of it as text. -/
theorem Value.exists_read
    (value : Value)
    {depth fuel : Nat}
    {rest : List Char}
    (exact : value.Exact depth)
    (follows : Follows rest)
    (enough : value.chars.length ≤ fuel) :
    ∃ written,
      readValue? fuel (value.chars ++ rest) = some (written, rest) ∧
        written.toValue? depth = some value := by
  obtain ⟨fuel, rfl⟩ := Nat.exists_eq_succ_of_ne_zero
    (Nat.ne_of_gt (Nat.lt_of_lt_of_le value.length_chars_pos enough))
  cases value with
  | null => exact ⟨.null, rfl, rfl⟩
  | bool value => cases value <;> exact ⟨.bool _, rfl, rfl⟩
  | number number =>
      cases number with
      | integer value =>
          have isRead := readNumber?_integerChars value follows
          have allNumeric : ∀ char ∈ integerChars value, Decimal.isNumeric char = true :=
            (Number.integer value).chars_numeric
          obtain ⟨first, others, begins⟩ : ∃ first others, integerChars value = first :: others :=
            List.exists_cons_of_ne_nil (Number.integer value).chars_ne_nil
          have numeric := allNumeric first (by rw [begins]; exact List.mem_cons_self)
          refine ⟨.number (integerLiteral value), ?_, ?_⟩
          · show readValue? (fuel + 1) (integerChars value ++ rest) = _
            rw [begins, List.cons_append] at isRead ⊢
            rw [readValue?_of_numeric numeric, isRead, Option.map_some]
          · rw [Syntax.toValue?, toNumber?_integerLiteral exact, Option.map_some]
      | float bits => exact absurd exact (by simp [Value.Exact])
  | string text =>
      refine ⟨.string (some text), ?_, rfl⟩
      have begins (chars : List Char) : skip ('"' :: chars) = '"' :: chars := rfl
      rw [Value.chars, quote_append, readValue?, begins]
      simp only [readString?_quoted, Option.bind_eq_bind, Option.bind_some]
  | array items =>
      cases items with
      | nil =>
          obtain ⟨depth, rfl⟩ := Nat.exists_eq_add_of_le' exact.1
          exact ⟨.array [], rfl, rfl⟩
      | cons item items =>
          obtain ⟨deep, itemsExact⟩ := exact
          obtain ⟨depth, rfl⟩ := Nat.exists_eq_add_of_le' deep
          have enoughItems : (itemsChars (item :: items)).length ≤ fuel + 1 := enough
          obtain ⟨written, isRead, areItems⟩ :=
            exists_readItems (item :: items) itemsExact (itemsChars_cons_append item items rest)
              enoughItems
          exact ⟨.array written, readValue?_array isRead,
            congrArg (Option.map Value.array) areItems⟩
  | object members =>
      cases members with
      | nil =>
          obtain ⟨depth, rfl⟩ := Nat.exists_eq_add_of_le' exact.1
          exact ⟨.object [], rfl, rfl⟩
      | cons member members =>
          obtain ⟨name, value⟩ := member
          obtain ⟨deep, ordered, membersExact⟩ := exact
          obtain ⟨depth, rfl⟩ := Nat.exists_eq_add_of_le' deep
          have enoughMembers : (membersChars ((name, value) :: members)).length ≤ fuel + 1 := enough
          obtain ⟨written, isRead, areMembers⟩ :=
            exists_readMembers ((name, value) :: members) membersExact
              (membersChars_cons_append name value members rest) enoughMembers
          refine ⟨.object written, readValue?_object isRead, ?_⟩
          have stored := congrArg (Option.map Value.ofMembers) areMembers
          rwa [Option.map_some, Value.ofMembers, ordered.ofList_eq] at stored

/-- The items of an array are read up to its closing bracket. -/
theorem exists_readItems
    (items : List Value)
    {depth fuel : Nat}
    {text rest : List Char}
    (exact : ItemsExact depth items)
    (goesOn : itemsChars items ++ rest = ',' :: text)
    (enough : (itemsChars items).length ≤ fuel + 1) :
    ∃ written,
      readItems? fuel text = some (written, rest) ∧ itemValues? depth written = some items := by
  cases items with
  | nil => cases (List.cons.inj goesOn).1
  | cons item items =>
      obtain ⟨itemExact, itemsExact⟩ := exact
      rw [itemsChars_cons_append] at goesOn
      obtain rfl := (List.cons.inj goesOn).2
      simp only [itemsChars, List.length_cons, List.length_append] at enough
      have positive := item.length_chars_pos
      have positiveToo := length_itemsChars_pos items
      obtain ⟨fuel, rfl⟩ := Nat.exists_eq_succ_of_ne_zero (show fuel ≠ 0 by omega)
      have enoughItem : item.chars.length ≤ fuel := by omega
      obtain ⟨written, isRead, isItem⟩ :=
        Value.exists_read item itemExact (follows_items items rest) enoughItem
      obtain ⟨last, more⟩ := readItems?_of_read isRead
      cases items with
      | nil =>
          refine ⟨[written], last rest rfl, ?_⟩
          rw [itemValues?, isItem]
          rfl
      | cons next items =>
          have goesOn := itemsChars_cons_append next items rest
          have enoughItems : (itemsChars (next :: items)).length ≤ fuel + 1 := by omega
          obtain ⟨others, isReadToo, areItems⟩ :=
            exists_readItems (next :: items) itemsExact goesOn enoughItems
          refine ⟨written :: others, ?_, ?_⟩
          · rw [more _ goesOn, isReadToo, Option.map_some]
          · rw [itemValues?, isItem, areItems]
            rfl

theorem exists_readMembers
    (members : List (String × Value))
    {depth fuel : Nat}
    {text rest : List Char}
    (exact : MembersExact depth members)
    (goesOn : membersChars members ++ rest = ',' :: text)
    (enough : (membersChars members).length ≤ fuel + 1) :
    ∃ written,
      readMembers? fuel text = some (written, rest) ∧
        memberValues? depth written = some members := by
  cases members with
  | nil => cases (List.cons.inj goesOn).1
  | cons member members =>
      obtain ⟨name, value⟩ := member
      obtain ⟨valueExact, membersExact⟩ := exact
      rw [membersChars_cons_append] at goesOn
      obtain rfl := (List.cons.inj goesOn).2
      simp only [membersChars, List.length_cons, List.length_append] at enough
      have positive := value.length_chars_pos
      have positiveToo := length_membersChars_pos members
      obtain ⟨fuel, rfl⟩ := Nat.exists_eq_succ_of_ne_zero (show fuel ≠ 0 by omega)
      have enoughValue : value.chars.length ≤ fuel := by omega
      obtain ⟨written, isRead, isValue⟩ :=
        Value.exists_read value valueExact (follows_members members rest) enoughValue
      obtain ⟨last, more⟩ := readMembers?_of_read name isRead
      cases members with
      | nil =>
          refine ⟨[(some name, written)], last rest rfl, ?_⟩
          rw [memberValues?, isValue]
          rfl
      | cons next members =>
          have goesOn := membersChars_cons_append next.1 next.2 members rest
          have enoughMembers : (membersChars (next :: members)).length ≤ fuel + 1 := by omega
          obtain ⟨others, isReadToo, areMembers⟩ :=
            exists_readMembers (next :: members) membersExact goesOn enoughMembers
          refine ⟨(some name, written) :: others, ?_, ?_⟩
          · rw [more _ goesOn, isReadToo, Option.map_some]
          · rw [memberValues?, isValue, areMembers]
            rfl

end

/-- A text that reads as a document from its first to its last character is that document. -/
theorem read?_of_readValue?
    {text : List Char}
    {written : Syntax}
    (isRead : readValue? (text.length + 1) text = some (written, [])) :
    read? (String.ofList text) = some written := by
  simp only [read?, String.toList_ofList, isRead]
  rfl

/-- The text of an object is read member by member, in whatever order they are. -/
theorem Value.exists_read?_object
    {members : List (String × Value)}
    {depth : Nat}
    (exact : MembersExact depth members) :
    ∃ written,
      read? (Value.object members).render = some (.object written) ∧
        memberValues? depth written = some members := by
  cases members with
  | nil => exact ⟨[], rfl, rfl⟩
  | cons member members =>
      obtain ⟨name, value⟩ := member
      have goesOn := membersChars_cons_append name value members []
      obtain ⟨written, isRead, areMembers⟩ :=
        exists_readMembers ((name, value) :: members) exact goesOn (Nat.le_succ _)
      have isReadWhole := readValue?_object isRead
      rw [List.append_nil] at isReadWhole
      exact ⟨written, read?_of_readValue? isReadWhole, areMembers⟩

theorem itemsExact_iff
    {depth : Nat}
    {items : List Value} :
    ItemsExact depth items ↔ ∀ item ∈ items, item.Exact depth := by
  induction items with
  | nil => simp [ItemsExact]
  | cons item items inductionHypothesis => simp [ItemsExact, inductionHypothesis]

theorem membersExact_iff
    {depth : Nat}
    {members : List (String × Value)} :
    MembersExact depth members ↔ ∀ member ∈ members, member.2.Exact depth := by
  induction members with
  | nil => simp [MembersExact]
  | cons member members inductionHypothesis => simp [MembersExact, inductionHypothesis]

/-- An exact document is read back from its text. -/
theorem Value.parse?_render
    {value : Value}
    (exact : value.Exact depthLimit) :
    parse? value.render = some value := by
  obtain ⟨written, isRead, isValue⟩ :=
    value.exists_read exact (Or.inl rfl) (Nat.le_succ value.chars.length)
  rw [List.append_nil] at isRead
  rw [parse?, render, read?_of_readValue? isRead]
  exact isValue

end Switchboard.Json
