import Switchboard.Proofs.Config.Documents
import Switchboard.Proofs.Decimal.Reading
import Switchboard.Proofs.Files.Spelling
import Switchboard.Proofs.Text.Trimming

namespace Switchboard

/-!
# Both sources of a configuration

A configuration can be told by a document or by environment variables.  Whatever liberties the
variables allow, such as blanks, capitals, other words and empty names, reading them gives the same
configuration as reading the document.  The variables can tell every configuration whose module
names survive between commas.
-/

namespace Text

/-!
## Words
-/

/-- A word between blanks, each of its letters small or capital. -/
def Spells (text word : String) : Prop :=
  ∃ before written after,
    text.toList = before ++ (written ++ after) ∧ Blank before ∧ Blank after ∧
      List.Forall₂ (fun char letter => char = letter ∨ char = letter.toUpper) written word.toList

/-- A word of small letters or signs that are not blank. -/
def IsWord (word : String) : Prop :=
  ∀ letter ∈ word.toList,
    letter.toLower = letter ∧ letter.toUpper.toLower = letter ∧ isBlank letter = false ∧
      isBlank letter.toUpper = false

instance (word : String) : Decidable (IsWord word) :=
  List.decidableBAll _ word.toList

/-- A character is its own small letter, or the capital of it. -/
theorem eq_toLower_or (char : Char) : char = char.toLower ∨ char = char.toLower.toUpper := by
  unfold Char.toLower
  split
  · right
    unfold Char.toUpper
    dsimp only
    split
    · apply Char.ext
      grind
    · grind
  · exact .inl rfl

/-- A word has no blanks however it is spelled, and small letters give it back. -/
theorem lower_of_spelled
    {written letters : List Char}
    (spelled :
      List.Forall₂ (fun char letter => char = letter ∨ char = letter.toUpper) written letters)
    (isWord : ∀ letter ∈ letters,
      letter.toLower = letter ∧ letter.toUpper.toLower = letter ∧ isBlank letter = false ∧
        isBlank letter.toUpper = false) :
    (∀ char ∈ written, isBlank char = false) ∧ written.map Char.toLower = letters := by
  induction spelled with
  | nil => simp
  | @cons char letter written letters isChar _ inductionHypothesis =>
      obtain ⟨small, capital, dark, darkCapital⟩ := isWord letter List.mem_cons_self
      obtain ⟨others, back⟩ := inductionHypothesis fun other member =>
        isWord other (List.mem_cons_of_mem _ member)
      rcases isChar with rfl | rfl
      · exact ⟨List.forall_mem_cons.mpr ⟨dark, others⟩, by rw [List.map_cons, small, back]⟩
      · exact ⟨List.forall_mem_cons.mpr ⟨darkCapital, others⟩, by rw [List.map_cons, capital, back]⟩

/-- Just the spellings of a word are turned into it by trimming and small letters. -/
theorem spells_iff
    {text word : String}
    (isWord : IsWord word) :
    Spells text word ↔ lowerAscii (trim text) = word := by
  constructor
  · rintro ⟨before, written, after, isText, blankBefore, blankAfter, letters⟩
    obtain ⟨dark, small⟩ := lower_of_spelled letters isWord
    have bare : Bare written :=
      { first := fun char begins => dark char (List.mem_of_mem_head? begins)
        last := fun char ends => dark char (List.mem_of_getLast? ends) }
    rw [lowerAscii, trim, String.toList_ofList, isText,
      trimChars_padded blankBefore bare blankAfter, small, String.ofList_toList]
  · rintro rfl
    obtain ⟨before, after, blankBefore, blankAfter, isText⟩ := exists_padding text.toList
    refine ⟨before, trimChars text.toList, after, isText, blankBefore, blankAfter, ?_⟩
    rw [lowerAscii, trim, String.toList_ofList, String.toList_ofList, List.forall₂_map_right_iff,
      List.forall₂_same]
    exact fun char _ => eq_toLower_or char

/-- A digit is no blank. -/
theorem isBlank_of_isDigit
    {char : Char}
    (isDigit : char.isDigit = true) :
    isBlank char = false := by
  rw [Char.isDigit, Bool.and_eq_true, decide_eq_true_eq, decide_eq_true_eq] at isDigit
  have least : 48 ≤ char.toNat := isDigit.1
  have largest : char.toNat ≤ 57 := isDigit.2
  simp only [isBlank, blankRanges, List.any_cons, List.any_nil, Bool.or_false,
    Bool.or_eq_false_iff, Bool.and_eq_false_iff, decide_eq_false_iff_not]
  omega

end Text

namespace RunContext

/-- The words that mean a context. -/
def words (context : RunContext) : List String := [context.name, context.nickname]

theorem isWord_of_mem_words
    {context : RunContext}
    {word : String}
    (member : word ∈ context.words) :
    Text.IsWord word := by
  have all : ∀ context ∈ [RunContext.commandLine, .request], ∀ word ∈ context.words,
      Text.IsWord word := by
    decide +kernel
  exact all context (by cases context <;> simp) word member

/-- Any spelling of a word that means a context means it. -/
theorem ofText?_of_spells
    {context : RunContext}
    {text word : String}
    (member : word ∈ context.words)
    (spells : Text.Spells text word) :
    ofText? text = some context := by
  have isWord := (Text.spells_iff (isWord_of_mem_words member)).mp spells
  simp only [ofText?, isWord]
  simp only [words, List.mem_cons, List.not_mem_nil, or_false] at member
  rcases member with rfl | rfl <;> cases context <;> rfl

end RunContext

namespace Config

/-- A text means yes just if it spells a word for it. -/
theorem isYes_iff
    {text : String} :
    isYes text = true ↔ ∃ word ∈ yesWords, Text.Spells text word := by
  have areWords : ∀ word ∈ yesWords, Text.IsWord word := by
    decide +kernel
  simp only [isYes, decide_eq_true_eq]
  constructor
  · exact fun member => ⟨_, member, (Text.spells_iff (areWords _ member)).mpr rfl⟩
  · rintro ⟨word, member, spells⟩
    rwa [(Text.spells_iff (areWords word member)).mp spells]

/-!
## Seconds
-/

/-- A number of seconds in decimal digits, zeros before them and blanks around them. -/
def TellsSeconds (text : String) (seconds : UInt64) : Prop :=
  ∃ before zeros after,
    text.toList =
        before ++ ((List.replicate zeros '0' ++ Nat.toDigits 10 seconds.toNat) ++ after) ∧
      Text.Blank before ∧ Text.Blank after

theorem ofDigits?_eq
    {digits : List Char}
    (nonempty : digits ≠ [])
    (allDigits : Decimal.AllDigits digits) :
    ofDigits? digits = some (Nat.ofDigitChars 10 digits 0) := by
  rw [ofDigits?, if_pos ⟨nonempty, List.all_eq_true.mpr allDigits⟩, Nat.ofDigitChars_eq_foldl]
  rfl

theorem seconds?_of_tells
    {text : String}
    {seconds : UInt64}
    (tells : TellsSeconds text seconds) :
    seconds? text = some seconds := by
  obtain ⟨before, zeros, after, isText, blankBefore, blankAfter⟩ := tells
  have allDigits :=
    (Decimal.allDigits_zeros zeros).append (Decimal.allDigits_toDigits seconds.toNat)
  have value := Decimal.ofDigitChars_zeros_append zeros (Nat.toDigits 10 seconds.toNat)
  rw [Nat.ofDigitChars_ten_toDigits] at value
  have nonempty : List.replicate zeros '0' ++ Nat.toDigits 10 seconds.toNat ≠ [] := by
    simp [Nat.toDigits_ne_nil]
  generalize List.replicate zeros '0' ++ Nat.toDigits 10 seconds.toNat = digits
    at isText allDigits value nonempty
  have bare : Text.Bare digits :=
    { first := fun char begins =>
        Text.isBlank_of_isDigit (allDigits char (List.mem_of_mem_head? begins))
      last := fun char ends =>
        Text.isBlank_of_isDigit (allDigits char (List.mem_of_getLast? ends)) }
  have trimmed : Text.trimChars text.toList = digits := by
    rw [isText, Text.trimChars_padded blankBefore bare blankAfter]
  have inRange : seconds.toNat ≤ Json.largestInteger := by
    have bounded := seconds.toNat_lt
    simp only [Json.largestInteger]
    omega
  have unsigned : ∀ others, digits = '+' :: others → False := by
    rintro others rfl
    cases allDigits '+' List.mem_cons_self
  have isNumber := ofDigits?_eq nonempty allDigits
  rw [value] at isNumber
  have same : seconds.toNat.toUInt64 = seconds := by simp
  simp only [seconds?, trimmed, isNumber, Option.bind_eq_bind, Option.bind_some, if_pos inRange,
    same]

/-!
## Module names
-/

/-- Items that tell names in their order: each name between blanks, and items that are blank. -/
inductive TellsNames : List (List Char) → List String → Prop where
  | nil : TellsNames [] []
  | blank
      {item : List Char}
      {items : List (List Char)}
      {names : List String}
      (isBlank : Text.Blank item)
      (others : TellsNames items names) :
      TellsNames (item :: items) names
  | name
      {before after : List Char}
      {name : String}
      {items : List (List Char)}
      {names : List String}
      (isBlankBefore : Text.Blank before)
      (isBlankAfter : Text.Blank after)
      (others : TellsNames items names) :
      TellsNames ((before ++ (name.toList ++ after)) :: items) (name :: names)

/-- A list of names that commas join. -/
def TellsModules (text : String) (names : List String) : Prop :=
  ∃ items, items ≠ [] ∧ text.toList = [','].intercalate items ∧ TellsNames items names

/-- A name that can be told apart between commas and blanks. -/
structure Nameable (name : String) : Prop where
  nonempty : name ≠ ""
  noComma : ',' ∉ name.toList
  trimmed : Text.trim name = name

theorem not_mem_of_blank
    {item : List Char}
    (blank : Text.Blank item) :
    ',' ∉ item := by
  intro member
  cases blank ',' member

theorem TellsNames.noComma
    {items : List (List Char)}
    {names : List String}
    (tells : TellsNames items names)
    (nameable : ∀ name ∈ names, Nameable name) :
    ∀ item ∈ items, ',' ∉ item := by
  induction tells with
  | nil =>
      intro item member
      cases member
  | blank isBlank _ inductionHypothesis =>
      exact List.forall_mem_cons.mpr ⟨not_mem_of_blank isBlank, inductionHypothesis nameable⟩
  | name isBlankBefore isBlankAfter _ inductionHypothesis =>
      obtain ⟨nameableHere, others⟩ := List.forall_mem_cons.mp nameable
      refine List.forall_mem_cons.mpr ⟨?_, inductionHypothesis others⟩
      simp only [List.mem_append, not_or]
      exact ⟨not_mem_of_blank isBlankBefore, nameableHere.noComma, not_mem_of_blank isBlankAfter⟩

/-- Trimming the items and dropping the empty ones leaves the names. -/
theorem TellsNames.trimmed_eq
    {items : List (List Char)}
    {names : List String}
    (tells : TellsNames items names)
    (nameable : ∀ name ∈ names, Nameable name) :
    ((items.map String.ofList).map Text.trim).filter (· ≠ "") = names := by
  induction tells with
  | nil => rfl
  | @blank item items names isBlank _ inductionHypothesis =>
      have bareNil : Text.Bare [] := { first := nofun, last := nofun }
      have nothingLeft := Text.trimChars_padded isBlank bareNil Text.blank_nil
      rw [List.append_nil, List.append_nil] at nothingLeft
      have isEmpty : Text.trim (String.ofList item) = "" := by
        rw [Text.trim, String.toList_ofList, nothingLeft]
      rw [List.map_cons, List.map_cons, isEmpty, List.filter_cons_of_neg (by simp),
        inductionHypothesis nameable]
  | @name before after name items names isBlankBefore isBlankAfter _ inductionHypothesis =>
      obtain ⟨nameableHere, others⟩ := List.forall_mem_cons.mp nameable
      have isName : Text.trim (String.ofList (before ++ (name.toList ++ after))) = name := by
        rw [Text.trim, String.toList_ofList,
          Text.trimChars_padded isBlankBefore (Text.bare_of_trim_eq nameableHere.trimmed)
            isBlankAfter,
          String.ofList_toList]
      rw [List.map_cons, List.map_cons, isName,
        List.filter_cons_of_pos (by simp [nameableHere.nonempty]), inductionHypothesis others]

theorem moduleNames_of_tells
    {text : String}
    {names : List String}
    (nameable : ∀ name ∈ names, Nameable name)
    (tells : TellsModules text names) :
    moduleNames text = names := by
  obtain ⟨items, nonempty, isText, tellsNames⟩ := tells
  rw [moduleNames, Text.cut, isText,
    Text.cutChars_intercalate nonempty (tellsNames.noComma nameable)]
  exact tellsNames.trimmed_eq nameable

/-!
## The environment
-/

/-- An environment that tells a configuration. -/
structure ToldBy (config : Config) (environment : Environment) : Prop where
  /-- The context is spelled as either of its words. -/
  context : ∃ text, environment contextVariable = some text ∧
    ∃ word ∈ config.context.words, Text.Spells text word
  /-- Events are dispatched in the background just if a word for yes is spelled. -/
  asyncEvents : config.asyncEvents = true ↔
    ∃ text, environment asyncVariable = some text ∧ ∃ word ∈ yesWords, Text.Spells text word
  /-- The lifetime is told in digits; without one the variable is not set. -/
  cacheSeconds : Option.Rel TellsSeconds (environment cacheVariable) config.cacheSeconds
  /-- The modules are joined by commas; if all are active the variable is not set. -/
  activeModules : Option.Rel TellsModules (environment modulesVariable) config.activeModules

/-- An environment that tells a configuration is read as this configuration. -/
theorem ofEnvironment_of_toldBy
    {config : Config}
    {environment : Environment}
    (nameable : ∀ names, config.activeModules = some names → ∀ name ∈ names, Nameable name)
    (told : config.ToldBy environment) :
    ofEnvironment environment = config := by
  obtain ⟨context, asyncEvents, cacheSeconds, activeModules⟩ := config
  have isContext :
      ((environment contextVariable).bind RunContext.ofText?).getD initial.context = context := by
    obtain ⟨text, isSet, word, member, spells⟩ := told.context
    rw [isSet, Option.bind_some, RunContext.ofText?_of_spells member spells, Option.getD_some]
  have isAsync :
      ((environment asyncVariable).map isYes).getD initial.asyncEvents = asyncEvents := by
    have isYesToo :
        ((environment asyncVariable).map isYes).getD initial.asyncEvents = true ↔
          ∃ text, environment asyncVariable = some text ∧ isYes text = true := by
      cases environment asyncVariable with
      | none => simp [initial]
      | some text => simp
    simp only [isYes_iff] at isYesToo
    exact Bool.eq_iff_iff.mpr (isYesToo.trans told.asyncEvents.symm)
  have isSeconds : (environment cacheVariable).bind seconds? = cacheSeconds := by
    have tells := told.cacheSeconds
    generalize environment cacheVariable = text at tells
    cases tells with
    | some tells => exact seconds?_of_tells tells
    | none => rfl
  have areModules : (environment modulesVariable).map moduleNames = activeModules := by
    have tells := told.activeModules
    generalize environment modulesVariable = text at tells
    dsimp only at nameable tells
    cases tells with
    | some tells => exact congrArg some (moduleNames_of_tells (nameable _ rfl) tells)
    | none => rfl
  rw [ofEnvironment, isContext, isAsync, isSeconds, areModules]

/-- The plain way to tell a configuration. -/
def toEnvironment (config : Config) : Environment := fun name =>
  if name = contextVariable then
    some config.context.name
  else if name = asyncVariable then
    some (if config.asyncEvents then "true" else "false")
  else if name = cacheVariable then
    config.cacheSeconds.map fun seconds => String.ofList (Nat.toDigits 10 seconds.toNat)
  else if name = modulesVariable then
    config.activeModules.map fun names =>
      String.ofList ([','].intercalate (names.map String.toList))
  else
    none

/-- Joining the names as they are tells them. -/
theorem tellsModules_intercalate (names : List String) :
    TellsModules (String.ofList ([','].intercalate (names.map String.toList))) names := by
  have tells : TellsNames (names.map String.toList) names := by
    induction names with
    | nil => exact .nil
    | cons name names inductionHypothesis =>
        have padded : TellsNames (([] ++ (name.toList ++ [])) :: names.map String.toList)
            (name :: names) :=
          .name Text.blank_nil Text.blank_nil inductionHypothesis
        simpa using padded
  cases names with
  | nil => exact ⟨[[]], by simp, by simp [List.intercalate], .blank Text.blank_nil .nil⟩
  | cons name names => exact ⟨_, by simp, String.toList_ofList, tells⟩

/-- Every configuration is told by an environment. -/
theorem toldBy_toEnvironment (config : Config) : config.ToldBy config.toEnvironment := by
  have context : config.toEnvironment contextVariable = some config.context.name := by
    simp [toEnvironment, contextVariable]
  have asyncEvents :
      config.toEnvironment asyncVariable =
        some (if config.asyncEvents then "true" else "false") := by
    simp [toEnvironment, contextVariable, asyncVariable]
  have cacheSeconds :
      config.toEnvironment cacheVariable =
        config.cacheSeconds.map fun seconds => String.ofList (Nat.toDigits 10 seconds.toNat) := by
    simp [toEnvironment, contextVariable, asyncVariable, cacheVariable]
  have activeModules :
      config.toEnvironment modulesVariable =
        config.activeModules.map fun names =>
          String.ofList ([','].intercalate (names.map String.toList)) := by
    simp [toEnvironment, contextVariable, asyncVariable, cacheVariable, modulesVariable]
  refine { context := ?_, asyncEvents := ?_, cacheSeconds := ?_, activeModules := ?_ }
  · refine ⟨_, context, _, List.mem_cons_self, ?_⟩
    rw [Text.spells_iff (RunContext.isWord_of_mem_words List.mem_cons_self)]
    cases config.context <;> decide +kernel
  · simp only [asyncEvents, Option.some.injEq, exists_eq_left', ← isYes_iff]
    cases config.asyncEvents <;> decide +kernel
  · rw [cacheSeconds]
    cases config.cacheSeconds with
    | none => exact .none
    | some seconds =>
        exact .some ⟨[], 0, [], by simp, Text.blank_nil, Text.blank_nil⟩
  · rw [activeModules]
    cases config.activeModules with
    | none => exact .none
    | some names => exact .some (tellsModules_intercalate names)

/-- What can be told of a configuration, and how it is read back. -/
structure SourceLaws (config : Config) : Prop where
  /-- The document of the configuration is read as it. -/
  document : decode config.toJson = .ok config
  /-- So is the text of the document. -/
  text : parse? config.toJson.render = some config
  /-- In a text the members may be in any order. -/
  anyOrder : ∀ written, written.Perm config.members →
    parse? (Json.Value.object written).render = some config
  /-- A file with such a text is read as the configuration. -/
  file : ∀ (tree : FileTree) (path : Path) (written : List (String × Json.Value)),
    written.Perm config.members →
      tree.readText path = .ok (Json.Value.object written).render →
        ofFile tree path = .ok config
  /-- So is an environment that tells it, if the names of its modules can be told apart. -/
  environment : (∀ names, config.activeModules = some names → ∀ name ∈ names, Nameable name) →
    ∀ environment, config.ToldBy environment → ofEnvironment environment = config
  /-- There is such an environment. -/
  reached : ∃ environment, config.ToldBy environment

/--
Documents and environments reach every configuration: it is read back from whatever tells it, so
both sources agree.
-/
theorem sourceLaws (config : Config) : SourceLaws config where
  document := config.decode_toJson
  text := parse?_of_perm (Dict.ofList_perm config.members config.distinct_members)
  anyOrder written same := parse?_of_perm same
  file tree path written same isText := by
    rw [ofFile, isText]
    simp only [parse?_of_perm same]
  environment nameable environment told := ofEnvironment_of_toldBy nameable told
  reached := ⟨config.toEnvironment, config.toldBy_toEnvironment⟩

namespace Shop

def config : Config :=
  { context := .commandLine, asyncEvents := true, cacheSeconds := some 60
    activeModules := some ["billing", "shipping"] }

/-- Another word, capitals, a zero too many, blanks and empty names. -/
def environment : Environment := fun name =>
  if name = contextVariable then some " CLI"
  else if name = asyncVariable then some "True"
  else if name = cacheVariable then some "060"
  else if name = modulesVariable then some " billing,, shipping ,"
  else none

private theorem nameable :
    ∀ names, config.activeModules = some names → ∀ name ∈ names, Nameable name := by
  intro names areActive name member
  obtain rfl := Option.some.inj areActive
  simp only [List.mem_cons, List.not_mem_nil, or_false] at member
  rcases member with rfl | rfl
  · exact { nonempty := by decide, noComma := by decide, trimmed := by decide +kernel }
  · exact { nonempty := by decide, noComma := by decide, trimmed := by decide +kernel }

private theorem told : config.ToldBy environment := by
  have isWord : Text.IsWord "cli" := by decide +kernel
  have isBlank : Text.Blank [' '] := by simp [Text.Blank, Text.isBlank, Text.blankRanges]
  refine { context := ?_, asyncEvents := ?_, cacheSeconds := ?_, activeModules := ?_ }
  · exact ⟨" CLI", rfl, "cli", by decide, (Text.spells_iff isWord).mpr (by decide +kernel)⟩
  · exact iff_of_true rfl ⟨"True", rfl, isYes_iff.mp (by decide +kernel)⟩
  · exact .some ⟨[], 1, [], by decide +kernel, Text.blank_nil, Text.blank_nil⟩
  · have tells :
        TellsNames
          [[' '] ++ ("billing".toList ++ []), [], [' '] ++ ("shipping".toList ++ [' ']), []]
          ["billing", "shipping"] :=
      .name isBlank Text.blank_nil (.blank Text.blank_nil (.name isBlank isBlank
        (.blank Text.blank_nil .nil)))
    exact .some ⟨_, List.cons_ne_nil _ _, by decide +kernel, tells⟩

end Shop

/-- A configuration and an environment that tells it in other words. -/
theorem sourceLaws_of_shop :
    (∀ names, Shop.config.activeModules = some names → ∀ name ∈ names, Nameable name) ∧
      Shop.config.ToldBy Shop.environment ∧
      ofEnvironment Shop.environment = Shop.config ∧
      parse? Shop.config.toJson.render = some Shop.config := by
  have laws := sourceLaws Shop.config
  exact ⟨Shop.nameable, Shop.told, laws.environment Shop.nameable _ Shop.told, laws.text⟩

end Config

end Switchboard
