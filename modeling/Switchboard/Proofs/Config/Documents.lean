import Switchboard.Config
import Switchboard.Proofs.Json.Reading

namespace Switchboard

/-!
# Configurations as documents

The document of a configuration has one member for each field.  A configuration is read back from
the document, and from the text of its members in any order.
-/

namespace Json.Decode

/-- Texts are read item by item. -/
theorem items_string (names : List String) :
    items string (names.map .string) = .ok names := by
  induction names with
  | nil => rfl
  | cons name names inductionHypothesis =>
      rw [List.map_cons, items, inductionHypothesis]
      rfl

/-- Members are checked all right if each one with a reader is. -/
theorem known_eq_ok
    {readers : List (String × Decoder Unit)}
    {members : List (String × Value)}
    (passes : ∀ member ∈ members, ∀ reader,
      readers.lookup member.1 = some reader → reader member.2 = .ok ()) :
    known readers members = .ok () := by
  induction members with
  | nil => rfl
  | cons member members inductionHypothesis =>
      obtain ⟨name, value⟩ := member
      have others := inductionHypothesis fun other isOther =>
        passes other (List.mem_cons_of_mem _ isOther)
      rw [known, others]
      cases isKnown : readers.lookup name with
      | none => rfl
      | some reader =>
          have isRead := passes (name, value) List.mem_cons_self reader isKnown
          simp only [isRead]
          rfl

end Json.Decode

namespace RunContext

theorem decode_name (context : RunContext) :
    decode (.string context.name) = .ok context := by
  cases context <;> rfl

end RunContext

namespace Config

/-- The members of the document of a configuration, in the order of the fields. -/
def members (config : Config) : List (String × Json.Value) :=
  [("context", .string config.context.name),
    ("async_events", .bool config.asyncEvents),
    ("cache_ttl_secs", .ofOption (config.cacheSeconds.map fun count => .ofNat count.toNat)),
    ("active_modules", .ofOption (config.activeModules.map .ofStrings))]

theorem distinct_members (config : Config) : (config.members.map Prod.fst).Nodup := by
  simp [members]

theorem decodeSeconds_ofOption (seconds : Option UInt64) :
    decodeSeconds (.ofOption (seconds.map fun count => .ofNat count.toNat)) = .ok seconds := by
  cases seconds with
  | none => rfl
  | some count =>
      have inRange : (0 : Int) ≤ count.toNat ∧ (count.toNat : Int) ≤ 0xFFFFFFFFFFFFFFFF := by
        have bounded := count.toNat_lt
        omega
      have isRead : Json.Decode.u64 (.ofNat count.toNat) = .ok (count.toNat : Int) :=
        if_pos inRange
      show Except.map _ (Except.map some (Json.Decode.u64 (.ofNat count.toNat))) = _
      rw [isRead]
      simp [Except.map]

theorem decodeModules_ofOption (modules : Option (List String)) :
    decodeModules (.ofOption (modules.map .ofStrings)) = .ok modules := by
  cases modules with
  | none => rfl
  | some names =>
      show (Json.Decode.items Json.Decode.string (names.map .string)).map some = _
      rw [Json.Decode.items_string]
      rfl

/-- A configuration is read from members that are found where its own are. -/
theorem decodeMembers_of_found
    {config : Config}
    {found : Json.Object}
    (ordered : found.Ordered)
    (same : ∀ name, found.find? name = Dict.find? config.members name) :
    decodeMembers found = .ok config := by
  have checked : Json.Decode.known readers found = .ok () := by
    refine Json.Decode.known_eq_ok fun member isMember reader isReader => ?_
    obtain ⟨name, value⟩ := member
    have isFound := ordered.mem_toList_iff.mp isMember
    rw [same, Dict.find?_eq_some_iff_mem config.distinct_members] at isFound
    simp only [Config.members, List.mem_cons, List.not_mem_nil, or_false, Prod.mk.injEq] at isFound
    rcases isFound with ⟨rfl, rfl⟩ | ⟨rfl, rfl⟩ | ⟨rfl, rfl⟩ | ⟨rfl, rfl⟩
    · cases isReader
      rw [Json.Decode.check, RunContext.decode_name]
      rfl
    · cases isReader
      rfl
    · cases isReader
      rw [Json.Decode.check, decodeSeconds_ofOption]
      rfl
    · cases isReader
      rw [Json.Decode.check, decodeModules_ofOption]
      rfl
  have context : Json.Decode.fieldOr found "context" RunContext.decode initial.context =
      .ok config.context := by
    rw [Json.Decode.fieldOr, same]
    exact RunContext.decode_name config.context
  have asyncEvents :
      Json.Decode.fieldOr found "async_events" Json.Decode.bool initial.asyncEvents =
        .ok config.asyncEvents := by
    rw [Json.Decode.fieldOr, same]
    rfl
  have cacheSeconds :
      Json.Decode.fieldOr found "cache_ttl_secs" decodeSeconds initial.cacheSeconds =
        .ok config.cacheSeconds := by
    rw [Json.Decode.fieldOr, same]
    exact decodeSeconds_ofOption config.cacheSeconds
  have activeModules :
      Json.Decode.fieldOr found "active_modules" decodeModules initial.activeModules =
        .ok config.activeModules := by
    rw [Json.Decode.fieldOr, same]
    exact decodeModules_ofOption config.activeModules
  rw [decodeMembers, checked, context, asyncEvents, cacheSeconds, activeModules]
  rfl

/-- A configuration is read back from its document. -/
theorem decode_toJson (config : Config) : decode config.toJson = .ok config :=
  decodeMembers_of_found (Dict.ordered_ofList config.members)
    (Dict.find?_ofList config.members config.distinct_members)

/-- What a text stands for is written as one, so a context is taken as it is. -/
theorem isPlainContext_of_toValue?
    {written : Json.Syntax}
    {depth : Nat}
    {text : String}
    (isText : written.toValue? depth = some (.string text)) :
    isPlainContext written = true := by
  cases written with
  | object members =>
      exfalso
      match depth with
      | 0 => cases isText
      | 1 => cases isText
      | depth + 2 =>
          obtain ⟨values, _, isObject⟩ := Option.map_eq_some_iff.mp isText
          cases isObject
  | _ => rfl

/-- A member of the document is taken from any text that stands for its value. -/
theorem memberValue?_eq
    {config : Config}
    {name : String}
    {value : Json.Value}
    {written : Json.Syntax}
    (isMember : (name, value) ∈ config.members)
    (isValue : written.toValue? Json.depthLimit = some value) :
    name ∈ readers.map Prod.fst ∧ memberValue? name written = some value := by
  simp only [members, List.mem_cons, List.not_mem_nil, or_false, Prod.mk.injEq] at isMember
  rcases isMember with ⟨rfl, rfl⟩ | ⟨rfl, rfl⟩ | ⟨rfl, rfl⟩ | ⟨rfl, rfl⟩
  · refine ⟨by decide, ?_⟩
    rw [memberValue?, isPlainContext_of_toValue? isValue]
    exact isValue
  · exact ⟨by decide, isValue⟩
  · exact ⟨by decide, isValue⟩
  · exact ⟨by decide, isValue⟩

/-- Members of the document that are not repeated are all taken. -/
theorem knownMembers?_eq
    {config : Config}
    {written : List (Option String × Json.Syntax)}
    {values : List (String × Json.Value)}
    {seen : List String}
    (areValues : Json.memberValues? Json.depthLimit written = some values)
    (areMembers : ∀ member ∈ values, member ∈ config.members)
    (distinct : (values.map Prod.fst).Nodup)
    (unseen : ∀ name ∈ values.map Prod.fst, name ∉ seen) :
    knownMembers? seen written = some values := by
  induction written generalizing values seen with
  | nil => exact areValues
  | cons member written inductionHypothesis =>
      obtain ⟨name?, value?⟩ := member
      simp only [Json.memberValues?, Option.bind_eq_bind, Option.bind_eq_some_iff] at areValues
      obtain ⟨name, rfl, value, isValue, others, areOthers, isAll⟩ := areValues
      obtain rfl := Option.some.inj isAll
      obtain ⟨apart, othersDistinct⟩ := List.nodup_cons.mp distinct
      obtain ⟨isKnown, isTaken⟩ :=
        memberValue?_eq (areMembers (name, value) List.mem_cons_self) isValue
      have isUnseen : name ∉ seen := unseen name List.mem_cons_self
      have othersTaken : knownMembers? (name :: seen) written = some others := by
        refine inductionHypothesis areOthers
          (fun other isOther => areMembers other (List.mem_cons_of_mem _ isOther)) othersDistinct
          fun other isOther => ?_
        rw [List.mem_cons, not_or]
        refine ⟨?_, unseen other (List.mem_cons_of_mem _ isOther)⟩
        rintro rfl
        exact apart isOther
      simp only [knownMembers?, Option.bind_eq_bind, Option.bind_some, if_pos isKnown,
        if_neg isUnseen, isTaken, othersTaken]

/-- The document of a configuration tells it exactly. -/
theorem membersExact (config : Config) : Json.MembersExact Json.depthLimit config.members := by
  have seconds :
      (Json.Value.ofOption (config.cacheSeconds.map fun count => .ofNat count.toNat)).Exact
        Json.depthLimit := by
    cases config.cacheSeconds with
    | none => trivial
    | some count =>
        have bounded := count.toNat_lt
        show Json.Syntax.IsStored (count.toNat : Int)
        simp only [Json.Syntax.IsStored, Json.largestInteger]
        omega
  have modules :
      (Json.Value.ofOption (config.activeModules.map .ofStrings)).Exact Json.depthLimit := by
    cases config.activeModules with
    | none => trivial
    | some names =>
        refine ⟨by decide, Json.itemsExact_iff.mpr fun item isItem => ?_⟩
        obtain ⟨name, _, rfl⟩ := List.mem_map.mp isItem
        trivial
  exact ⟨trivial, trivial, seconds, modules, trivial⟩

/-- A configuration is read back from the text of its members, in whatever order they are. -/
theorem parse?_of_perm
    {config : Config}
    {written : List (String × Json.Value)}
    (same : written.Perm config.members) :
    parse? (Json.Value.object written).render = some config := by
  have distinct : (written.map Prod.fst).Nodup :=
    (same.map Prod.fst).nodup_iff.mpr config.distinct_members
  have exact : Json.MembersExact Json.depthLimit written :=
    Json.membersExact_iff.mpr fun member isMember =>
      Json.membersExact_iff.mp config.membersExact member (same.mem_iff.mp isMember)
  obtain ⟨syntaxes, isRead, areValues⟩ := Json.Value.exists_read?_object exact
  have areKnown : knownMembers? [] syntaxes = some written :=
    knownMembers?_eq areValues (fun member isMember => same.mem_iff.mp isMember) distinct
      fun _ _ => List.not_mem_nil
  have decoded : decode (.ofMembers written) = .ok config := by
    refine decodeMembers_of_found (Dict.ordered_ofList written) fun name => ?_
    rw [Dict.find?_ofList written distinct, Dict.find?_eq_of_perm same distinct]
  rw [parse?, isRead]
  show (relevant? (.object syntaxes)).bind _ = _
  rw [relevant?, areKnown]
  show (decode (.ofMembers written)).toOption = _
  rw [decoded]
  rfl

end Config

end Switchboard
