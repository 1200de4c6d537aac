import Mathlib.Data.List.Nodup
import Switchboard.Proofs.Json.Bar
import Switchboard.Service.Key

namespace Switchboard

/-!
# What the text of a key tells

The text of a build tells its arguments, and the class and the method written together.  It does
not tell where the class ends and the method begins unless the class has no colon: `label` is all
that can be read back.
-/

namespace Argument

theorem toJson_injective : Function.Injective toJson := by
  intro first second same
  have sameMembers := Json.Value.object.inj same
  simp only [List.cons.injEq, Prod.mk.injEq, Json.Value.string.injEq, true_and, and_true]
    at sameMembers
  obtain ⟨sameKind, sameContent⟩ := sameMembers
  cases first with
  | literal value =>
      cases second with
      | literal other => exact congrArg literal sameContent
      | env name => simp [kind] at sameKind
      | service id => simp [kind] at sameKind
  | env name =>
      cases second with
      | literal other => simp [kind] at sameKind
      | env other => exact congrArg env (Json.Value.string.inj sameContent)
      | service id => simp [kind] at sameKind
  | service id =>
      cases second with
      | literal other => simp [kind] at sameKind
      | env name => simp [kind] at sameKind
      | service other => exact congrArg service (Json.Value.string.inj sameContent)

def listChars (arguments : List Argument) : List Char :=
  (Json.Value.array (arguments.map toJson)).chars

theorem listChars_injective : Function.Injective listChars := by
  intro first second same
  have sameItems := Json.Value.array.inj (Json.Value.chars_injective same)
  exact List.map_injective_iff.mpr toJson_injective sameItems

/-- The text of a list of arguments is not the rest of a quoted text: it has no quote at all, or
its first quote opens a name. -/
theorem not_closes_listChars (arguments : List Argument) :
    ¬Json.Closes (listChars arguments) := by
  intro closes
  cases arguments with
  | nil =>
      have inBracket := Json.Closes.tail (by decide) (by decide) closes
      exact Json.not_closes_nil (Json.Closes.tail (by decide) (by decide) inBracket)
  | cons argument arguments =>
      have inBracket := Json.Closes.tail (by decide) (by decide) closes
      have inBrace := Json.Closes.tail (by decide) (by decide) inBracket
      rcases Json.Closes.follows inBrace with isEnd | ⟨stop, others, same, isStop⟩
      · cases isEnd
      · rw [← (List.cons.inj same).1] at isStop
        exact absurd isStop (by decide)

/-- No bar of a list of arguments is followed by another list of arguments. -/
theorem listChars_ne_bar
    (first second : List Argument)
    (before : List Char) :
    listChars first ≠ before ++ '|' :: listChars second := by
  intro same
  have guarded := (Json.Value.array (first.map toJson)).guarded_chars (Or.inl rfl)
    Json.guarded_nil
  rw [List.append_nil] at guarded
  exact not_closes_listChars second (guarded before _ same)

end Argument

namespace Key

/-- A class and a method as a key has them. -/
def label (className method : String) : String :=
  className ++ "::" ++ method

theorem toList_buildText
    (className method : String)
    (arguments : List Argument) :
    (buildText className method arguments).toList =
      (label className method).toList ++ '|' :: Argument.listChars arguments := by
  simp [buildText, label, Json.Value.render, Argument.listChars]

/-- The text of arguments begins at one place only. -/
private theorem label_eq_of_le
    {first second : List Char}
    {argumentsFirst argumentsSecond : List Argument}
    (same :
      first ++ '|' :: Argument.listChars argumentsFirst =
        second ++ '|' :: Argument.listChars argumentsSecond)
    (shorter : first.length ≤ second.length) :
    first = second := by
  obtain ⟨more, rfl⟩ : first <+: second :=
    List.prefix_of_prefix_length_le ⟨_, same⟩ (List.prefix_append _ _) shorter
  rw [List.append_assoc] at same
  have rest := List.append_cancel_left same
  cases more with
  | nil => rw [List.append_nil]
  | cons char more =>
      exact absurd (List.cons.inj rest).2 (Argument.listChars_ne_bar _ _ more)

/-- Builds with one key text have one label and the same arguments. -/
theorem buildText_injective
    {classFirst methodFirst classSecond methodSecond : String}
    {argumentsFirst argumentsSecond : List Argument}
    (same :
      buildText classFirst methodFirst argumentsFirst =
        buildText classSecond methodSecond argumentsSecond) :
    label classFirst methodFirst = label classSecond methodSecond ∧
      argumentsFirst = argumentsSecond := by
  have sameChars := congrArg String.toList same
  rw [toList_buildText, toList_buildText] at sameChars
  have sameLabel :
      (label classFirst methodFirst).toList = (label classSecond methodSecond).toList := by
    rcases Nat.le_total (label classFirst methodFirst).toList.length
        (label classSecond methodSecond).toList.length with shorter | longer
    · exact label_eq_of_le sameChars shorter
    · exact (label_eq_of_le sameChars.symm longer).symm
  rw [sameLabel] at sameChars
  exact ⟨String.toList_inj.mp sameLabel,
    Argument.listChars_injective (List.cons.inj (List.append_cancel_left sameChars)).2⟩

/-- A class without a colon is told apart from the method: it ends at the first one. -/
theorem label_injective_of_plain
    {classFirst methodFirst classSecond methodSecond : String}
    (plainFirst : ':' ∉ classFirst.toList)
    (plainSecond : ':' ∉ classSecond.toList)
    (same : label classFirst methodFirst = label classSecond methodSecond) :
    classFirst = classSecond ∧ methodFirst = methodSecond := by
  have read {className : String} (method : String) (plain : ':' ∉ className.toList) :
      (label className method).toList.takeWhile (· ≠ ':') = className.toList ∧
        (label className method).toList.dropWhile (· ≠ ':') = ':' :: ':' :: method.toList := by
    have spelled :
        (label className method).toList = className.toList ++ ':' :: ':' :: method.toList := by
      simp [label]
    rw [spelled]
    exact Decimal.takeWhile_ne_append plain
  obtain ⟨isClass, isMethod⟩ := read methodFirst plainFirst
  obtain ⟨isClassToo, isMethodToo⟩ := read methodSecond plainSecond
  rw [same] at isClass isMethod
  have sameMethod := isMethod.symm.trans isMethodToo
  exact ⟨String.toList_inj.mp (isClass.symm.trans isClassToo),
    String.toList_inj.mp (List.cons.inj (List.cons.inj sameMethod).2).2⟩

/--
Where the digest tells the two texts apart and no class has a colon, builds have one key only if
they are of one class and one method, with the same arguments, whatever bars, quotes and brackets
there are in the methods.
-/
theorem build_eq_iff
    {digest : Digest}
    {classFirst methodFirst classSecond methodSecond : String}
    {argumentsFirst argumentsSecond : List Argument}
    (plainFirst : ':' ∉ classFirst.toList)
    (plainSecond : ':' ∉ classSecond.toList)
    (noCollision :
      digest (buildText classFirst methodFirst argumentsFirst) =
          digest (buildText classSecond methodSecond argumentsSecond) →
        buildText classFirst methodFirst argumentsFirst =
          buildText classSecond methodSecond argumentsSecond) :
    build digest classFirst methodFirst argumentsFirst =
        build digest classSecond methodSecond argumentsSecond ↔
      classFirst = classSecond ∧ methodFirst = methodSecond ∧ argumentsFirst = argumentsSecond := by
  constructor
  · intro sameKey
    have sameDigest := (String.append_right_inj _).mp sameKey
    obtain ⟨sameLabel, sameArguments⟩ := buildText_injective (noCollision sameDigest)
    obtain ⟨sameClass, sameMethod⟩ := label_injective_of_plain plainFirst plainSecond sameLabel
    exact ⟨sameClass, sameMethod, sameArguments⟩
  · rintro ⟨rfl, rfl, rfl⟩
    rfl

/-- A method that ends like the text of a list of arguments does not pass for one with arguments. -/
theorem build_ne_of_lookalike :
    ':' ∉ "Shop".toList ∧
      build Digest.sha256Hex "Shop" "make|[]" [.literal (.string "]|[")] ≠
        build Digest.sha256Hex "Shop" "make" [.literal (.string "]|[")] := by
  have plain : ':' ∉ "Shop".toList := by decide
  have apart :
      Digest.sha256Hex (buildText "Shop" "make|[]" [.literal (.string "]|[")]) ≠
        Digest.sha256Hex (buildText "Shop" "make" [.literal (.string "]|[")]) := by
    decide +kernel
  refine ⟨plain, fun sameKey => ?_⟩
  obtain ⟨_, sameMethod, _⟩ :=
    (build_eq_iff plain plain fun sameDigest => absurd sameDigest apart).mp sameKey
  exact absurd sameMethod (by decide)

/-- SHA-256 on some texts; on others something that cannot collide with it. -/
def sampled (texts : List String) : Digest := fun text =>
  if text ∈ texts then Digest.sha256Hex text else "-" ++ text

theorem dash_not_mem_sha256Hex (text : String) :
    '-' ∉ (Digest.sha256Hex text).toList := by
  have noDigit : ∀ value < 16, '-' ≠ Digest.hexDigit value := by decide
  intro member
  rw [Digest.sha256Hex, Digest.hex, String.toList_ofList, List.mem_flatMap] at member
  obtain ⟨byte, _, isDigit⟩ := member
  have bound := byte.toNat_lt
  simp only [List.mem_cons, List.not_mem_nil, or_false] at isDigit
  rcases isDigit with isHigh | isLow
  · exact noDigit _ (by omega) isHigh
  · exact noDigit _ (by omega) isLow

/-- Such a digest has no collision if SHA-256 has none among the texts. -/
theorem sampled_injective
    {texts : List String}
    (apart : ∀ first ∈ texts, ∀ second ∈ texts,
      Digest.sha256Hex first = Digest.sha256Hex second → first = second) :
    Function.Injective (sampled texts) := by
  have differs (first second : String) : Digest.sha256Hex first ≠ "-" ++ second := by
    intro same
    apply dash_not_mem_sha256Hex first
    rw [same, String.toList_append]
    exact List.mem_append_left _ (by decide)
  intro first second same
  by_cases firstListed : first ∈ texts
  · by_cases secondListed : second ∈ texts
    · rw [sampled, if_pos firstListed, sampled, if_pos secondListed] at same
      exact apart first firstListed second secondListed same
    · rw [sampled, if_pos firstListed, sampled, if_neg secondListed] at same
      exact absurd same (differs first second)
  · by_cases secondListed : second ∈ texts
    · rw [sampled, if_neg firstListed, sampled, if_pos secondListed] at same
      exact absurd same.symm (differs second first)
    · rw [sampled, if_neg firstListed, sampled, if_neg secondListed] at same
      exact (String.append_right_inj _).mp same

theorem sampled_injective_of_nodup
    {texts : List String}
    (nodup : (texts.map Digest.sha256Hex).Nodup) :
    Function.Injective (sampled texts) :=
  sampled_injective fun _ first _ second same =>
    List.inj_on_of_nodup_map nodup first second same

/-- Without collisions of the digest, ids of services have different keys. -/
theorem service_injective
    {digest : Digest}
    (injective : Function.Injective digest) :
    Function.Injective (service digest) :=
  fun _ _ sameKey => injective ((String.append_right_inj _).mp sameKey)

end Key

end Switchboard
