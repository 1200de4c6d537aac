import Mathlib.Data.List.Basic
import Switchboard.Service.Definition

namespace Switchboard

/-!
# Definitions as documents

Which documents are read as a definition is a small grammar: `Readable` has one rule for each shape,
and the rules exclude one another, since an alias goes before a factory and a factory before a
class.  In the other direction `writings` lists the documents that stand for a definition.  Reading
any of them gives the definition back unless one of its literals is a text that reads as a
reference, and such a definition is never read at all.
-/

namespace Argument

/-- Not a literal text that reads as a reference. -/
def Plain : Argument → Prop
  | .literal (.string text) =>
      ¬envPrefix.toList <+: text.toList ∧ ¬servicePrefix.toList <+: text.toList
  | _ => True

/-- What is written for an argument that was read is what it was read from. -/
theorem unparse_parse (raw : Json.Value) : (parse raw).unparse = raw := by
  cases raw with
  | string text =>
      simp only [parse]
      split
      · next name named =>
          rw [Text.after?_eq_some_iff.mp named]
          rfl
      · split
        · next id named =>
            rw [Text.after?_eq_some_iff.mp named]
            rfl
        · rfl
  | _ => rfl

/-- What is read is plain. -/
theorem plain_parse (raw : Json.Value) : (parse raw).Plain := by
  cases raw with
  | string text =>
      simp only [parse]
      split
      · trivial
      · next notEnv =>
          split
          · trivial
          · next notService =>
              exact ⟨Text.after?_eq_none_iff.mp notEnv, Text.after?_eq_none_iff.mp notService⟩
  | _ => trivial

/-- Just the plain arguments are read as they were written. -/
theorem parse_unparse_iff
    {argument : Argument} :
    parse argument.unparse = argument ↔ argument.Plain := by
  constructor
  · intro back
    rw [← back]
    exact plain_parse _
  · intro plain
    cases argument with
    | literal value =>
        cases value with
        | string text =>
            obtain ⟨notEnv, notService⟩ := plain
            simp only [unparse, parse, Text.after?_eq_none_iff.mpr notEnv,
              Text.after?_eq_none_iff.mpr notService]
        | _ => rfl
    | env name =>
        have named : Text.after? envPrefix (envPrefix ++ name) = some name :=
          Text.after?_eq_some_iff.mpr rfl
        simp only [unparse, parse, named]
    | service id =>
        have notEnv : Text.after? envPrefix (servicePrefix ++ id) = none := by
          rw [Text.after?_eq_none_iff, String.toList_append]
          rintro ⟨rest, whole⟩
          cases (List.cons.inj whole).1
        have named : Text.after? servicePrefix (servicePrefix ++ id) = some id :=
          Text.after?_eq_some_iff.mpr rfl
        simp only [unparse, parse, notEnv, named]

end Argument

namespace Definition

variable {κ : Type}

/-- A text stands under the name. -/
def HasText (members : Json.Object) (name : String) : Prop :=
  ∃ text, members.find? name = some (.string text)

/-- Nothing stands under `arguments`, or null, or a list. -/
def HasArguments (members : Json.Object) : Prop :=
  ∀ value, members.find? "arguments" = some value → value = .null ∨ ∃ items, value = .array items

/-- The documents that are read as a definition. -/
inductive Readable : Json.Value → Prop where
  /-- The id that an alias stands for. -/
  | text (target : String) : Readable (.string target)
  /-- An object with an alias, whatever else is in it. -/
  | ofAlias
      {members : Json.Object}
      (target : HasText members "alias") :
      Readable (.object members)
  /-- An object without an alias, with a factory. -/
  | ofFactory
      {members factory : Json.Object}
      (noAlias : members.find? "alias" = none)
      (isFactory : members.find? "factory" = some (.object factory))
      (className : HasText factory "class")
      (method : HasText factory "method")
      (arguments : HasArguments factory) :
      Readable (.object members)
  /-- An object without either, with the name of a class and the arguments beside it. -/
  | ofClassName
      {members : Json.Object}
      (noAlias : members.find? "alias" = none)
      (noFactory : members.find? "factory" = none)
      (className : HasText members "class")
      (arguments : HasArguments members) :
      Readable (.object members)
  /-- An object without either, with a class that has a name and arguments. -/
  | ofClass
      {members details : Json.Object}
      (noAlias : members.find? "alias" = none)
      (noFactory : members.find? "factory" = none)
      (isClass : members.find? "class" = some (.object details))
      (className : HasText details "name")
      (arguments : HasArguments details) :
      Readable (.object members)

/-- The arguments of a definition. -/
def arguments : Definition κ → List Argument
  | .ofClass _ arguments => arguments
  | .ofFactory _ _ arguments => arguments
  | _ => []

/-- No literal argument is a text that reads as a reference. -/
def Plain (definition : Definition κ) : Prop :=
  ∀ argument ∈ definition.arguments, argument.Plain

/-- The members that arguments can be written as: a list, or if there are none also null or no
member at all. -/
def argumentMembers (arguments : List Argument) : List (List (String × Json.Value)) :=
  [("arguments", .array (arguments.map Argument.unparse))] ::
    match arguments with
    | [] => [[("arguments", .null)], []]
    | _ :: _ => []

/-- The documents that stand for a definition.  What exists only inside a container has none. -/
def writings : Definition κ → List Json.Value
  | .aliasOf target => [.string target, .ofMembers [("alias", .string target)]]
  | .ofClass className arguments =>
      (argumentMembers arguments).flatMap fun rest =>
        [.ofMembers ([("class", .string className)] ++ rest),
          .ofMembers [("class", .ofMembers ([("name", .string className)] ++ rest))]]
  | .ofFactory className method arguments =>
      (argumentMembers arguments).map fun rest =>
        .ofMembers
          [("factory",
            .ofMembers ([("class", .string className), ("method", .string method)] ++ rest))]
  | .prebuilt _ | .itself => []

/-- What reading and writing definitions have to do with each other. -/
structure ReadingLaws (κ : Type) (id : String) : Prop where
  /-- Just the documents of the grammar are read. -/
  accepted : ∀ value, (∃ definition : Definition κ, ofJson id value = .ok definition) ↔
    Readable value
  /-- Whatever else is refused, and the refusal names the id. -/
  refused : ∀ value error, (ofJson id value : Except _ (Definition κ)) = .error error →
    ∃ reason, error = .invalidDefinition id reason
  /-- A definition is read from what is written for it, in order, if and only if it is plain. -/
  back : ∀ (definition : Definition κ), ∀ value ∈ definition.writings,
    (ofJson id value = .ok definition ↔ definition.Plain)
  /-- Whatever is read is plain and can be written. -/
  plain : ∀ value (definition : Definition κ), ofJson id value = .ok definition →
    definition.Plain ∧ definition.writings ≠ []

theorem readText?_eq_some_iff
    {members : Json.Object}
    {name text : String} :
    readText? members name = some text ↔ members.find? name = some (.string text) := by
  rw [readText?, Option.bind_eq_some_iff]
  constructor
  · rintro ⟨value, found, isText⟩
    cases value with
    | string other =>
        cases isText
        exact found
    | _ => cases isText
  · exact fun found => ⟨_, found, rfl⟩

theorem exists_readText?_iff
    {members : Json.Object}
    {name : String} :
    (∃ text, readText? members name = some text) ↔ HasText members name := by
  simp only [readText?_eq_some_iff, HasText]

theorem exists_readArguments?_iff
    {members : Json.Object} :
    (∃ arguments, readArguments? members = some arguments) ↔ HasArguments members := by
  simp only [readArguments?, HasArguments]
  cases members.find? "arguments" with
  | none => simp
  | some value => cases value <;> simp

theorem plain_readArguments?
    {members : Json.Object}
    {arguments : List Argument}
    (isRead : readArguments? members = some arguments) :
    ∀ argument ∈ arguments, argument.Plain := by
  simp only [readArguments?] at isRead
  split at isRead
  · cases isRead
    simp
  · cases isRead
    simp
  · cases isRead
    simp [Argument.plain_parse]
  · cases isRead

/-- Which definition is read from which document. -/
inductive ReadAs : Json.Value → Definition κ → Prop where
  | text (target : String) : ReadAs (.string target) (.aliasOf target)
  | ofAlias
      {members : Json.Object}
      {target : String}
      (isAlias : members.find? "alias" = some (.string target)) :
      ReadAs (.object members) (.aliasOf target)
  | ofFactory
      {members factory : Json.Object}
      {className method : String}
      {arguments : List Argument}
      (noAlias : members.find? "alias" = none)
      (isFactory : members.find? "factory" = some (.object factory))
      (isClass : readText? factory "class" = some className)
      (isMethod : readText? factory "method" = some method)
      (areArguments : readArguments? factory = some arguments) :
      ReadAs (.object members) (.ofFactory className method arguments)
  | ofClassName
      {members : Json.Object}
      {className : String}
      {arguments : List Argument}
      (noAlias : members.find? "alias" = none)
      (noFactory : members.find? "factory" = none)
      (isClass : members.find? "class" = some (.string className))
      (areArguments : readArguments? members = some arguments) :
      ReadAs (.object members) (.ofClass className arguments)
  | ofClass
      {members details : Json.Object}
      {className : String}
      {arguments : List Argument}
      (noAlias : members.find? "alias" = none)
      (noFactory : members.find? "factory" = none)
      (isClass : members.find? "class" = some (.object details))
      (isName : readText? details "name" = some className)
      (areArguments : readArguments? details = some arguments) :
      ReadAs (.object members) (.ofClass className arguments)

theorem ReadAs.of_ofMembers
    {members : Json.Object}
    {definition : Definition κ}
    (isRead : ofMembers members = .ok definition) :
    ReadAs (.object members) definition := by
  simp only [ofMembers] at isRead
  split at isRead
  · next target isAlias =>
      cases isRead
      exact .ofAlias isAlias
  · cases isRead
  · next noAlias =>
      split at isRead
      · next factory isFactory =>
          simp only [ofFactoryMembers] at isRead
          split at isRead
          · cases isRead
          · next className isClass =>
              split at isRead
              · cases isRead
              · next method isMethod =>
                  split at isRead
                  · cases isRead
                  · next arguments areArguments =>
                      cases isRead
                      exact .ofFactory noAlias isFactory isClass isMethod areArguments
      · cases isRead
      · next noFactory =>
          split at isRead
          · next className isClass =>
              split at isRead
              · cases isRead
              · next arguments areArguments =>
                  cases isRead
                  exact .ofClassName noAlias noFactory isClass areArguments
          · next details isClass =>
              split at isRead
              · cases isRead
              · next className isName =>
                  split at isRead
                  · cases isRead
                  · next arguments areArguments =>
                      cases isRead
                      exact .ofClass noAlias noFactory isClass isName areArguments
          · cases isRead
          · cases isRead

theorem read_eq_ok_iff
    {value : Json.Value}
    {definition : Definition κ} :
    read value = .ok definition ↔ ReadAs value definition := by
  constructor
  · intro isRead
    cases value with
    | string target =>
        cases isRead
        exact .text target
    | object members => exact .of_ofMembers isRead
    | _ => cases isRead
  · intro readAs
    cases readAs with
    | text target => rfl
    | ofAlias isAlias => simp only [read, ofMembers, isAlias]
    | ofFactory noAlias isFactory isClass isMethod areArguments =>
        simp only [read, ofMembers, ofFactoryMembers, noAlias, isFactory, isClass, isMethod,
          areArguments]
    | ofClassName noAlias noFactory isClass areArguments =>
        simp only [read, ofMembers, noAlias, noFactory, isClass, areArguments]
    | ofClass noAlias noFactory isClass isName areArguments =>
        simp only [read, ofMembers, noAlias, noFactory, isClass, isName, areArguments]

theorem ofJson_eq_ok_iff
    {id : String}
    {value : Json.Value}
    {definition : Definition κ} :
    ofJson id value = .ok definition ↔ ReadAs value definition := by
  rw [← read_eq_ok_iff, ofJson]
  cases read value with
  | error reason => exact iff_of_false nofun nofun
  | ok other => simp [Except.mapError]

/-- The grammar tells the documents that are read as something. -/
theorem exists_readAs_iff
    {value : Json.Value} :
    (∃ definition : Definition κ, ReadAs value definition) ↔ Readable value := by
  constructor
  · rintro ⟨definition, readAs⟩
    cases readAs with
    | text target => exact .text target
    | ofAlias isAlias => exact .ofAlias ⟨_, isAlias⟩
    | ofFactory noAlias isFactory isClass isMethod areArguments =>
        exact .ofFactory noAlias isFactory (exists_readText?_iff.mp ⟨_, isClass⟩)
          (exists_readText?_iff.mp ⟨_, isMethod⟩) (exists_readArguments?_iff.mp ⟨_, areArguments⟩)
    | ofClassName noAlias noFactory isClass areArguments =>
        exact .ofClassName noAlias noFactory ⟨_, isClass⟩
          (exists_readArguments?_iff.mp ⟨_, areArguments⟩)
    | ofClass noAlias noFactory isClass isName areArguments =>
        exact .ofClass noAlias noFactory isClass (exists_readText?_iff.mp ⟨_, isName⟩)
          (exists_readArguments?_iff.mp ⟨_, areArguments⟩)
  · intro readable
    cases readable with
    | text target => exact ⟨_, .text target⟩
    | ofAlias target =>
        obtain ⟨target, isAlias⟩ := target
        exact ⟨_, .ofAlias isAlias⟩
    | ofFactory noAlias isFactory className method arguments =>
        obtain ⟨className, isClass⟩ := exists_readText?_iff.mpr className
        obtain ⟨method, isMethod⟩ := exists_readText?_iff.mpr method
        obtain ⟨arguments, areArguments⟩ := exists_readArguments?_iff.mpr arguments
        exact ⟨_, .ofFactory noAlias isFactory isClass isMethod areArguments⟩
    | ofClassName noAlias noFactory className arguments =>
        obtain ⟨className, isClass⟩ := className
        obtain ⟨arguments, areArguments⟩ := exists_readArguments?_iff.mpr arguments
        exact ⟨_, .ofClassName noAlias noFactory isClass areArguments⟩
    | ofClass noAlias noFactory isClass className arguments =>
        obtain ⟨className, isName⟩ := exists_readText?_iff.mpr className
        obtain ⟨arguments, areArguments⟩ := exists_readArguments?_iff.mpr arguments
        exact ⟨_, .ofClass noAlias noFactory isClass isName areArguments⟩

/-- Nothing is read whose literals are taken for references. -/
theorem ReadAs.plain
    {value : Json.Value}
    {definition : Definition κ}
    (readAs : ReadAs value definition) :
    definition.Plain := by
  cases readAs with
  | text target => exact fun _ member => absurd member List.not_mem_nil
  | ofAlias isAlias => exact fun _ member => absurd member List.not_mem_nil
  | ofFactory _ _ _ _ areArguments => exact plain_readArguments? areArguments
  | ofClassName _ _ _ areArguments => exact plain_readArguments? areArguments
  | ofClass _ _ _ _ areArguments => exact plain_readArguments? areArguments

theorem ReadAs.writings_ne_nil
    {value : Json.Value}
    {definition : Definition κ}
    (readAs : ReadAs value definition) :
    definition.writings ≠ [] := by
  cases readAs <;> simp [writings, argumentMembers]

/-- Arguments are written under their name, if at all. -/
theorem eq_of_mem_argumentMembers
    {arguments : List Argument}
    {rest : List (String × Json.Value)}
    (isWritten : rest ∈ argumentMembers arguments) :
    rest = [] ∨ ∃ value, rest = [("arguments", value)] := by
  cases arguments with
  | nil =>
      simp only [argumentMembers, List.mem_cons, List.not_mem_nil, or_false] at isWritten
      rcases isWritten with rfl | rfl | rfl
      · exact .inr ⟨_, rfl⟩
      · exact .inr ⟨_, rfl⟩
      · exact .inl rfl
  | cons argument arguments => exact .inr ⟨_, List.mem_singleton.mp isWritten⟩

/-- Members before the arguments and the arguments themselves are found as they were written. -/
theorem find?_written
    {arguments : List Argument}
    {rest : List (String × Json.Value)}
    (leading : List (String × Json.Value))
    (isWritten : rest ∈ argumentMembers arguments)
    (distinct : (leading.map Prod.fst ++ ["arguments"]).Nodup) :
    (∀ name ≠ "arguments",
      (Dict.ofList (leading ++ rest)).find? name = Dict.find? leading name) ∧
      (Dict.ofList (leading ++ rest)).find? "arguments" = Dict.find? rest "arguments" := by
  have form := eq_of_mem_argumentMembers isWritten
  have found (name : String) :
      (Dict.ofList (leading ++ rest)).find? name =
        (Dict.find? leading name).or (Dict.find? rest name) := by
    rw [Dict.find?_ofList, Dict.find?_append]
    rw [List.map_append]
    refine distinct.sublist (List.Sublist.append_left ?_ _)
    rcases form with rfl | ⟨value, rfl⟩ <;> simp
  constructor
  · intro name other
    have notInRest : Dict.find? rest name = none := by
      rcases form with rfl | ⟨value, rfl⟩
      · rfl
      · exact if_neg other.symm
    rw [found, notInRest, Option.or_none]
  · have notBefore : Dict.find? leading "arguments" = none :=
      Dict.find?_eq_none_of_notMem fun before =>
        (List.nodup_append.mp distinct).2.2 _ before _ (List.mem_singleton_self _) rfl
    rw [found, notBefore, Option.none_or]

/-- The arguments that written ones are read as. -/
theorem readArguments?_of_mem
    {arguments : List Argument}
    {rest : List (String × Json.Value)}
    {members : Json.Object}
    (isWritten : rest ∈ argumentMembers arguments)
    (same : members.find? "arguments" = Dict.find? rest "arguments") :
    readArguments? members = some (arguments.map fun argument => .parse argument.unparse) := by
  rw [readArguments?, same]
  cases arguments with
  | nil =>
      simp only [argumentMembers, List.map_nil, List.mem_cons, List.not_mem_nil, or_false]
        at isWritten
      rcases isWritten with rfl | rfl | rfl <;> rfl
  | cons argument arguments =>
      simp only [argumentMembers, List.mem_cons, List.not_mem_nil, or_false] at isWritten
      subst isWritten
      simp [Dict.find?, Function.comp_def]

/-- The definition with other arguments, each in its place. -/
def mapArguments (change : Argument → Argument) : Definition κ → Definition κ
  | .ofClass className arguments => .ofClass className (arguments.map change)
  | .ofFactory className method arguments => .ofFactory className method (arguments.map change)
  | definition => definition

theorem mapArguments_eq_iff
    {change : Argument → Argument}
    {definition : Definition κ} :
    definition.mapArguments change = definition ↔
      ∀ argument ∈ definition.arguments, change argument = argument := by
  have inList (arguments : List Argument) :
      arguments.map change = arguments ↔ ∀ argument ∈ arguments, change argument = argument := by
    conv_lhs => rhs; rw [← List.map_id arguments]
    exact List.map_inj_left
  cases definition with
  | ofClass className arguments => simp [mapArguments, Definition.arguments, inList]
  | ofFactory className method arguments => simp [mapArguments, Definition.arguments, inList]
  | _ => simp [mapArguments, Definition.arguments]

/-- What is written for a definition is read as the definition with each argument read anew. -/
theorem readAs_of_mem_writings
    {definition : Definition κ}
    {value : Json.Value}
    (isWritten : value ∈ definition.writings) :
    ReadAs value (definition.mapArguments fun argument => .parse argument.unparse) := by
  cases definition with
  | aliasOf target =>
      simp only [writings, List.mem_cons, List.not_mem_nil, or_false] at isWritten
      rcases isWritten with rfl | rfl
      · exact .text target
      · exact .ofAlias rfl
  | ofClass className arguments =>
      simp only [writings, List.mem_flatMap, List.mem_cons, List.not_mem_nil, or_false]
        at isWritten
      obtain ⟨rest, isRest, rfl | rfl⟩ := isWritten
      · obtain ⟨other, same⟩ :=
          find?_written [("class", .string className)] isRest (by simp)
        exact .ofClassName (other "alias" (by decide)) (other "factory" (by decide))
          (other "class" (by decide)) (readArguments?_of_mem isRest same)
      · obtain ⟨other, same⟩ :=
          find?_written [("name", .string className)] isRest (by simp)
        exact .ofClass rfl rfl rfl (readText?_eq_some_iff.mpr (other "name" (by decide)))
          (readArguments?_of_mem isRest same)
  | ofFactory className method arguments =>
      obtain ⟨rest, isRest, rfl⟩ := List.mem_map.mp isWritten
      obtain ⟨other, same⟩ :=
        find?_written [("class", .string className), ("method", .string method)] isRest (by simp)
      exact .ofFactory rfl rfl (readText?_eq_some_iff.mpr (other "class" (by decide)))
        (readText?_eq_some_iff.mpr (other "method" (by decide)))
        (readArguments?_of_mem isRest same)
  | prebuilt object => cases isWritten
  | itself => cases isWritten

/-- What is written for a definition is read as this very definition if it is plain. -/
theorem readAs_iff_plain
    {definition : Definition κ}
    {value : Json.Value}
    (isWritten : value ∈ definition.writings) :
    ReadAs value definition ↔ definition.Plain := by
  have anew := readAs_of_mem_writings isWritten
  constructor
  · exact ReadAs.plain
  · intro plain
    have same : (definition.mapArguments fun argument => .parse argument.unparse) = definition :=
      mapArguments_eq_iff.mpr fun argument member =>
        Argument.parse_unparse_iff.mpr (plain argument member)
    rwa [same] at anew

/--
Reading a definition succeeds on the documents of the grammar only, and is the inverse of writing
one for the definitions that can be written and whose literals do not read as references.
-/
theorem readingLaws (κ : Type) (id : String) : ReadingLaws κ id where
  accepted value := by simp only [ofJson_eq_ok_iff, exists_readAs_iff]
  refused value error isRefused := by
    rw [ofJson] at isRefused
    cases isRead : (read value : Except String (Definition κ)) with
    | error reason =>
        rw [isRead] at isRefused
        exact ⟨reason, (Except.error.inj isRefused).symm⟩
    | ok definition =>
        rw [isRead] at isRefused
        cases isRefused
  back definition value isWritten := by rw [ofJson_eq_ok_iff, readAs_iff_plain isWritten]
  plain value definition isRead := by
    rw [ofJson_eq_ok_iff] at isRead
    exact ⟨isRead.plain, isRead.writings_ne_nil⟩

namespace Pool

/-- A factory call with an argument of each kind. -/
def definition : Definition Unit :=
  .ofFactory "Pool" "connect" [.env "DSN", .service "clock", .literal (.ofInt 3)]

def document : Json.Value :=
  .ofMembers
    [("factory",
      .ofMembers
        [("class", .string "Pool"), ("method", .string "connect"),
          ("arguments", .array [.string "ENV.DSN", .string "@clock", .ofInt 3])])]

private theorem isWritten : document ∈ definition.writings := by
  have env : Argument.unparse (.env "DSN") = .string "ENV.DSN" := by
    simp [Argument.unparse, Argument.envPrefix]
  have service : Argument.unparse (.service "clock") = .string "@clock" := by
    simp [Argument.unparse, Argument.servicePrefix]
  have literal : Argument.unparse (.literal (.ofInt 3)) = .ofInt 3 := rfl
  simp [definition, writings, argumentMembers, env, service, literal, document]

end Pool

/-- A factory call is read from its document. -/
theorem readingLaws_of_pool :
    Pool.document ∈ Pool.definition.writings ∧ Pool.definition.Plain ∧
      ofJson "pool" Pool.document = .ok Pool.definition := by
  have plain : Pool.definition.Plain := by
    simp [Plain, Pool.definition, Definition.arguments, Argument.Plain, Json.Value.ofInt]
  exact ⟨Pool.isWritten, plain,
    ((readingLaws Unit "pool").back Pool.definition Pool.document Pool.isWritten).mpr plain⟩

end Definition

end Switchboard
