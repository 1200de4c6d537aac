import Switchboard.Proofs.Service.KeyText
import Switchboard.Proofs.Service.OneObject

namespace Switchboard

/-!
# Where remembered objects come from

An object that a builder answers with was made by an order of the history: its constructor or
factory, which is registered, was run on what its arguments supplied.  That order has the label
and the arguments of the one that is answered, and nothing else of it is certain: orders that
write the same label share one entry of the memo, which is read before anything else is checked.
-/

variable {κ χ ω : Type}

namespace Order

/-- The class and the method of an order as its key has them. -/
def label (order : Order) : String :=
  Key.label order.className order.method

/-- Two orders whose keys cannot be told apart. -/
def SameText (first second : Order) : Prop :=
  first.label = second.label ∧ first.arguments = second.arguments

/-- What an order runs is registered, and its arguments are not too few. -/
def IsKnown (registry : Registry κ) (order : Order) : Prop :=
  ∃ recipe, order.recipe registry = .ok recipe

theorem SameText.key_eq
    {first second : Order}
    (sameText : SameText first second)
    (digest : Key.Digest) :
    first.key digest = second.key digest := by
  obtain ⟨sameLabel, sameArguments⟩ := sameText
  have sameLabel :
      first.className ++ "::" ++ first.method = second.className ++ "::" ++ second.method :=
    sameLabel
  rw [Order.key_eq, Order.key_eq, Key.build, Key.build, Key.buildText, Key.buildText, sameLabel,
    sameArguments]

/-- Without collisions of the digest, orders of one key have the same text. -/
theorem sameText_of_key_eq
    {digest : Key.Digest}
    (injective : Function.Injective digest)
    {first second : Order}
    (sameKey : first.key digest = second.key digest) :
    SameText first second := by
  rw [Order.key_eq, Order.key_eq] at sameKey
  exact Key.buildText_injective (injective ((String.append_right_inj _).mp sameKey))

/-- A constructor, or a factory whose method has no colon in its name and is not that of
constructors. -/
def IsPlain : Order → Prop
  | .ofClass _ _ => True
  | .ofFactory _ method _ => ':' ∉ method.toList ∧ method ≠ Key.constructor

theorem IsPlain.no_colon
    {order : Order}
    (plain : order.IsPlain) :
    ':' ∉ order.method.toList := by
  cases order with
  | ofClass className arguments =>
      show ':' ∉ Key.constructor.toList
      decide
  | ofFactory className method arguments => exact plain.1

/-- Where no method has a colon, a label tells the class and the method. -/
theorem label_injective
    {first second : Order}
    (plainFirst : first.IsPlain)
    (plainSecond : second.IsPlain)
    (same : first.label = second.label) :
    first.className = second.className ∧ first.method = second.method := by
  have read
      {order : Order}
      (plain : order.IsPlain) :
      order.label.toList.reverse.takeWhile (· ≠ ':') = order.method.toList.reverse ∧
        order.label.toList.reverse.dropWhile (· ≠ ':') =
          ':' :: ':' :: order.className.toList.reverse := by
    have absent : ':' ∉ order.method.toList.reverse := by
      rw [List.mem_reverse]
      exact plain.no_colon
    have backwards : order.label.toList.reverse =
        order.method.toList.reverse ++ ':' :: ':' :: order.className.toList.reverse := by
      simp [label, Key.label]
    rw [backwards]
    exact Decimal.takeWhile_ne_append absent
  obtain ⟨methodFirst, classFirst⟩ := read plainFirst
  obtain ⟨methodSecond, classSecond⟩ := read plainSecond
  rw [same] at methodFirst classFirst
  have sameMethod := methodFirst.symm.trans methodSecond
  have sameClass := (List.cons.inj (List.cons.inj (classFirst.symm.trans classSecond)).2).2
  exact ⟨String.toList_inj.mp (List.reverse_injective sameClass),
    String.toList_inj.mp (List.reverse_injective sameMethod)⟩

theorem eq_of_sameText
    {first second : Order}
    (plainFirst : first.IsPlain)
    (plainSecond : second.IsPlain)
    (sameText : SameText first second) :
    first = second := by
  obtain ⟨sameLabel, sameArguments⟩ := sameText
  obtain ⟨sameClass, sameMethod⟩ := label_injective plainFirst plainSecond sameLabel
  cases first with
  | ofClass className arguments =>
      cases second with
      | ofClass other others =>
          cases sameClass
          cases sameArguments
          rfl
      | ofFactory other method others => exact absurd sameMethod.symm plainSecond.2
  | ofFactory className method arguments =>
      cases second with
      | ofClass other others => exact absurd sameMethod plainFirst.2
      | ofFactory other otherMethod others =>
          cases sameClass
          cases sameMethod
          cases sameArguments
          rfl

variable [CacheStore χ (Instance κ)]

/--
The constructor or factory that an order names makes an object of what its arguments supply, in
a container where services are resolved in the given way.
-/
def Yields
    (toolkit : Toolkit κ)
    (resolve : Builder.Resolver κ χ)
    (order : Order)
    (container : Container κ χ)
    (object : Instance κ) :
    Prop :=
  ∃ recipe resolved between product,
    order.recipe toolkit.registry = .ok recipe ∧
      Builder.supplyAll toolkit resolve order.className recipe.parameters order.arguments
          container = some (.ok resolved, between) ∧
      recipe.maker resolved = .ok product ∧
      object = product.toInstance between.nextId

/-- An order that was carried out yielded its object. -/
theorem yields_of_assemble
    {toolkit : Toolkit κ}
    {resolve : Builder.Resolver κ χ}
    {order : Order}
    {container after : Container κ χ}
    {object : Instance κ}
    (assembled :
      Builder.assemble toolkit resolve order container = some (.ok object, after)) :
    order.Yields toolkit resolve container object := by
  obtain ⟨recipe, known, followed⟩ := Builder.recipe_of_assemble_ok assembled
  rcases Attempt.bind_eq_some.mp followed with ⟨_, _, refused⟩ | ⟨resolved, between, supplied, made⟩
  · cases refused
  · unfold Builder.make at made
    cases ran : recipe.maker resolved with
    | error failure =>
        rw [ran] at made
        cases made
    | ok product =>
        rw [ran] at made
        cases made
        exact ⟨recipe, resolved, between, product, known, supplied, ran, rfl⟩

theorem Yields.isKnown
    {toolkit : Toolkit κ}
    {resolve : Builder.Resolver κ χ}
    {order : Order}
    {container : Container κ χ}
    {object : Instance κ}
    (yields : order.Yields toolkit resolve container object) :
    order.IsKnown toolkit.registry := by
  obtain ⟨recipe, _, _, _, known, _⟩ := yields
  exact ⟨recipe, known⟩

end Order

variable [CacheStore χ (Instance κ)]

namespace Deed

/-- In the course of a deed, an object of an order was made by the builder of the container. -/
inductive Makes
    (toolkit : Toolkit κ)
    (deed : Deed κ χ ω)
    (order : Order)
    (object : Instance κ) :
    Prop
  /-- A call of the container made it, since nothing was remembered for the order. -/
  | called
      {fuel : Nat}
      {container : Container κ χ}
      (covers :
        deed.Covers toolkit { fuel := fuel, call := .build order, container := container })
      (miss : container.memo.find? (order.key toolkit.digest) = none)
      (yields : order.Yields toolkit (Container.get toolkit fuel) container object)
  /-- The builder made it for another container, since it remembered nothing for the order. -/
  | lent
      {others : Toolkit κ}
      {other : Container κ χ}
      {definition : Definition κ}
      (lends : deed.operation = .buildFor others other definition)
      (asked : definition.order? = some order)
      (miss : deed.container.memo.find? (order.key toolkit.digest) = none)
      (yields : order.Yields toolkit (Container.get others deed.fuel) other object)

theorem Makes.isKnown
    {toolkit : Toolkit κ}
    {deed : Deed κ χ ω}
    {order : Order}
    {object : Instance κ}
    (makes : deed.Makes toolkit order object) :
    order.IsKnown toolkit.registry := by
  cases makes with
  | called _ _ yields => exact yields.isKnown
  | lent _ _ _ yields => exact yields.isKnown

/-- Whatever a memo has was there before, or was made in the course of a deed. -/
def MemoMade
    (toolkit : Toolkit κ)
    (deed : Deed κ χ ω)
    (before after : Container κ χ) :
    Prop :=
  ∀ key object, after.memo.find? key = some object →
    before.memo.find? key = some object ∨
      ∃ order, order.key toolkit.digest = key ∧ deed.Makes toolkit order object

/-- A deed adds to the memo what it makes. -/
theorem routine_memoMade
    (toolkit : Toolkit κ)
    (deed : Deed κ χ ω) :
    Routine toolkit (fun permitted => permitted = deed) (deed.Covers toolkit)
      (deed.MemoMade toolkit) where
  toWalk :=
    walk_memoAddedBy toolkit
      (fun _ _ ⟨root, starts, within⟩ makes => ⟨root, starts, within.tail makes⟩)
      (fun _ order _ _ _ _ covers miss assembled _ =>
        ⟨order, rfl, .called covers miss (Order.yields_of_assemble assembled)⟩)
  starts := by
    rintro _ root rfl starts
    exact ⟨root, starts, .refl⟩
  define := by
    intro id definition container after defined key object held
    rw [(Container.define_frame defined).2.2.1] at held
    exact Or.inl held
  lend := by
    rintro fuel others other definition container outcome memo otherAfter rfl lent key object held
    cases asked : definition.order? with
    | some order =>
        rw [Builder.buildDefinitionApart_of_order asked] at lent
        cases Builder.buildApart_ends lent with
        | remembered hit => exact Or.inl held
        | failed miss assembling => exact Or.inl held
        | @built made _ miss assembling =>
            by_cases same : order.key toolkit.digest = key
            · subst same
              have isObject : made = object := by simpa using held
              subst isObject
              exact Or.inr
                ⟨order, rfl, .lent rfl asked miss (Order.yields_of_assemble assembling)⟩
            · left
              simpa [Dict.find?_insert, same] using held
    | none =>
        rw [Builder.buildDefinitionApart_of_no_order asked] at lent
        obtain ⟨part, _, same⟩ := Attempt.focus_eq_some.mp lent
        cases same
        exact Or.inl held
  wait _ _ _ _ _ _ held := Or.inl held
  recache _ _ _ _ _ _ held := Or.inl held
  clearCache _ _ _ _ _ held := nomatch held
  clearMemo _ _ _ _ _ held := nomatch held

end Deed

/-- Whatever an order was answered with, what it names is registered and made the object. -/
def Order.IsAuthentic
    (toolkit : Toolkit κ)
    (deeds : List (Deed κ χ ω))
    (order : Order) :
    Prop :=
  ∀ deed ∈ deeds, ∀ object,
    deed.Builds toolkit order object →
      order.IsKnown toolkit.registry ∧ ∃ maker ∈ deeds, maker.Makes toolkit order object

/-- Where the objects come from that a builder answers with in the course of a history. -/
structure Origins
    (toolkit : Toolkit κ)
    (deeds : List (Deed κ χ ω))
    (now : Container κ χ) :
    Prop where
  /-- An object was made by an order that cannot be told apart from the one that is answered. -/
  made : ∀ deed ∈ deeds, ∀ order object,
    deed.Builds toolkit order object →
      ∃ maker ∈ deeds, ∃ source : Order,
        source.SameText order ∧ source.IsKnown toolkit.registry ∧
          maker.Makes toolkit source object
  /-- It was made by the order itself if no other order that is known is like it. -/
  own : ∀ order : Order,
    (∀ source : Order,
      source.SameText order → source.IsKnown toolkit.registry → source = order) →
      order.IsAuthentic toolkit deeds
  /-- So it is for every plain order if all orders that are known are plain. -/
  plain :
    (∀ source : Order, source.IsKnown toolkit.registry → source.IsPlain) →
      ∀ order : Order, order.IsPlain → order.IsAuthentic toolkit deeds
  /-- If nothing was forgotten, every order that is like one that was built is answered with the
  object of that one, known or not. -/
  shared :
    (∀ deed ∈ deeds, deed.operation.clears = false) →
      ∀ deed ∈ deeds, ∀ order object,
        deed.Builds toolkit order object →
          ∀ other : Order, other.SameText order →
            ∀ resolve : Builder.Resolver κ χ,
              Builder.build toolkit resolve other now = some (.ok object, now)

variable [CacheStore ω Json.Value]

/-- From an empty memo on, whatever is remembered was made in the course of a deed. -/
theorem History.made_of_remembered
    {toolkit : Toolkit κ}
    {start now : Container κ χ}
    {deeds : List (Deed κ χ ω)}
    (history : History toolkit start deeds now)
    (fresh : start.memo = Dict.empty)
    {key : String}
    {object : Instance κ}
    (held : now.memo.find? key = some object) :
    ∃ maker ∈ deeds, ∃ order,
      order.key toolkit.digest = key ∧ maker.Makes toolkit order object := by
  induction history with
  | start =>
      rw [fresh] at held
      cases held
  | step earlier ends inductionHypothesis =>
      have added := (Deed.routine_memoMade toolkit _).relates_of_deed rfl ends
      rcases added key object held with before | ⟨order, sameKey, makes⟩
      · obtain ⟨maker, member, order, sameKey, makes⟩ := inductionHypothesis before
        exact ⟨maker, List.mem_append_left _ member, order, sameKey, makes⟩
      · exact ⟨_, List.mem_append_right _ (List.mem_singleton_self _), order, sameKey, makes⟩

/-- What a deed came to was made by an order of the same text. -/
theorem History.builds_made
    {toolkit : Toolkit κ}
    {start now : Container κ χ}
    {deeds : List (Deed κ χ ω)}
    (injective : Function.Injective toolkit.digest)
    (history : History toolkit start deeds now)
    (fresh : start.memo = Dict.empty)
    {deed : Deed κ χ ω}
    (member : deed ∈ deeds)
    {order : Order}
    {object : Instance κ}
    (builds : deed.Builds toolkit order object) :
    ∃ maker ∈ deeds, ∃ source,
      source.SameText order ∧ source.IsKnown toolkit.registry ∧
        maker.Makes toolkit source object := by
  induction history with
  | start => cases member
  | step earlier ends inductionHypothesis =>
      rcases List.mem_append.mp member with before | isLast
      · obtain ⟨maker, makerMember, made⟩ := inductionHypothesis before
        exact ⟨maker, List.mem_append_left _ makerMember, made⟩
      · rw [List.mem_singleton.mp isLast] at builds
        obtain ⟨maker, makerMember, source, sameKey, makes⟩ :=
          (History.step earlier ends).made_of_remembered fresh (builds.remembered ends)
        exact ⟨maker, makerMember, source, Order.sameText_of_key_eq injective sameKey,
          makes.isKnown, makes⟩

/--
Starting with an empty memo and without collisions of the digest, every object that a builder
answers with was made by an order of the same label and the same arguments; by the very order
that is answered unless another registered one is written like it, and then by whichever of them
came first.
-/
theorem History.origins
    {toolkit : Toolkit κ}
    (injective : Function.Injective toolkit.digest)
    {start now : Container κ χ}
    (fresh : start.memo = Dict.empty)
    {deeds : List (Deed κ χ ω)}
    (history : History toolkit start deeds now) :
    Origins toolkit deeds now := by
  have own (order : Order)
      (alone : ∀ source : Order,
        source.SameText order → source.IsKnown toolkit.registry → source = order) :
      order.IsAuthentic toolkit deeds := by
    intro deed member object builds
    obtain ⟨maker, makerMember, source, sameText, known, makes⟩ :=
      history.builds_made injective fresh member builds
    obtain rfl := alone source sameText known
    exact ⟨known, maker, makerMember, makes⟩
  refine
    { made := fun _ member _ _ builds => history.builds_made injective fresh member builds
      own := own
      plain := ?_
      shared := ?_ }
  · intro allPlain order plain
    exact own order fun source sameText known =>
      Order.eq_of_sameText (allPlain source known) plain sameText
  · intro permitted deed member order object builds other sameText resolve
    obtain ⟨outcome, after, rest, ends, restMembers, later⟩ := history.of_mem member
    have kept := (routine_memoKept toolkit).relates_of_history
      (fun later laterMember => permitted later (restMembers later laterMember)) later
    have held := kept _ _ (builds.remembered ends)
    rw [← sameText.key_eq toolkit.digest] at held
    exact Builder.build_remembered held

namespace SharedLabel

/-!
## Two factories that share a label

Of `Shop::Order` and its method `make` and of `Shop` and its method `Order::make`, only the first
is registered.
-/

/-- The registered factory. -/
def registry : Registry Unit :=
  Registry.empty.registerFactory "Shop::Order" "make"
    { parameters := [], isStatic := true, make := fun _ => .ok (.plain "Order" ()) }

def toolkit : Toolkit Unit :=
  { registry := registry
    environment := fun _ => none
    digest := Key.sampled ["Shop::Order::make|[]"] }

def start : Container Unit (MemoryCache (Instance Unit)) := .empty () (.empty none) none

/-- Call the registered factory. -/
def making : Deed Unit (MemoryCache (Instance Unit)) (BlankCache Json.Value) :=
  { fuel := 1, operation := .build (.ofFactory "Shop::Order" "make" []), container := start }

/-- What its key cannot be told apart from. -/
def lookalike : Order := .ofFactory "Shop" "Order::make" []

private theorem digest_injective : Function.Injective toolkit.digest :=
  Key.sampled_injective (by simp)

end SharedLabel

/-- After the registered factory was called, the other one is answered with its object. -/
theorem History.origins_of_lookalike :
    ∃ object now,
      SharedLabel.making.Ends SharedLabel.toolkit (.ok (some object)) now ∧
        SharedLabel.lookalike.recipe SharedLabel.registry =
          .error (.unknownFactory "Shop" "Order::make") ∧
        Builder.build SharedLabel.toolkit (Container.get SharedLabel.toolkit 1)
            SharedLabel.lookalike now =
          some (.ok object, now) ∧
        Origins SharedLabel.toolkit [SharedLabel.making] now := by
  obtain ⟨object, now, built⟩ : ∃ object now,
      Builder.build SharedLabel.toolkit (Container.get SharedLabel.toolkit 1)
          (.ofFactory "Shop::Order" "make" []) SharedLabel.start =
        some (.ok object, now) :=
    ⟨_, _, rfl⟩
  have ends : SharedLabel.making.Ends SharedLabel.toolkit (.ok (some object)) now :=
    Attempt.bind_pure_eq_some.mpr ⟨_, Attempt.mapError_eq_some.mpr ⟨_, built, rfl⟩, rfl⟩
  have origins : Origins SharedLabel.toolkit [SharedLabel.making] now :=
    History.origins SharedLabel.digest_injective rfl (.step .start ends)
  have builds :
      SharedLabel.making.Builds SharedLabel.toolkit
        (.ofFactory "Shop::Order" "make" []) object :=
    .called ⟨_, .build rfl, .refl⟩ rfl ⟨_, built, rfl⟩
  have answered := origins.shared (by simp [SharedLabel.making, Operation.clears]) _ (by simp)
    _ _ builds SharedLabel.lookalike ⟨rfl, rfl⟩ (Container.get SharedLabel.toolkit 1)
  exact ⟨object, now, ends, rfl, answered, origins⟩

end Switchboard
