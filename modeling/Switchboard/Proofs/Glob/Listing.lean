import Mathlib.Data.List.TakeWhile
import Switchboard.Proofs.Glob.Matches
import Switchboard.Proofs.Glob.Scanning

namespace Switchboard.Glob

/-!
# What a pattern lists

`TakesPath` reads a pattern segment by segment, and knows neither of a stem that is followed nor
of a bound on the depth.  Where nothing leads up and the stem is no file, looking for files in the
directory at the stem, no deeper than the bound, lists what looking at every file below the base
would list.
-/

/-- The segments of a pattern take names in order: `**` any number of them, any other one. -/
inductive TakesPath : List String → List String → Prop where
  | nil : TakesPath [] []
  | anyDepth {rest names : List String} (skipped : List String) (takes : TakesPath rest names) :
      TakesPath ("**" :: rest) (skipped ++ names)
  | name
      {segment name : String}
      {rest names : List String}
      (single : segment ≠ "**")
      (fitting : fits segment name = true)
      (takes : TakesPath rest names) :
      TakesPath (segment :: rest) (name :: names)

/-- The segments of a pattern's text; blanks around the text do not count. -/
def segmentsOf (text : String) : List String :=
  segments (Text.trim text)

/-- The segments before the first one with a wildcard. -/
def literalPrefix (text : String) : List String :=
  (segmentsOf text).takeWhile fun segment => !hasWildcard segment

theorem takesPath_nil_iff {names : List String} :
    TakesPath [] names ↔ names = [] := by
  constructor
  · rintro ⟨⟩
    rfl
  · rintro rfl
    exact .nil

theorem takesPath_anyDepth_iff
    {rest names : List String} :
    TakesPath ("**" :: rest) names ↔
      ∃ skipped behind, names = skipped ++ behind ∧ TakesPath rest behind := by
  constructor
  · rintro ⟨⟩
    next behind skipped takes => exact ⟨skipped, behind, rfl, takes⟩
    next single _ _ => exact absurd rfl single
  · rintro ⟨skipped, behind, rfl, takes⟩
    exact .anyDepth skipped takes

theorem takesPath_name_iff
    {segment : String}
    {rest names : List String}
    (single : segment ≠ "**") :
    TakesPath (segment :: rest) names ↔
      ∃ name behind, names = name :: behind ∧ fits segment name = true ∧ TakesPath rest behind := by
  constructor
  · rintro ⟨⟩
    next => exact absurd rfl single
    next name behind _ fitting takes => exact ⟨name, behind, rfl, fitting, takes⟩
  · rintro ⟨name, behind, rfl, fitting, takes⟩
    exact .name single fitting takes

/-!
## Deciding it
-/

/-- A run takes any items at the beginning. -/
theorem fitsSigns_run_iff
    {α : Type}
    {signs : List (Sign α)}
    {items : List α} :
    fitsSigns (.run :: signs) items = true ↔
      ∃ skipped rest, items = skipped ++ rest ∧ fitsSigns signs rest = true := by
  induction items with
  | nil =>
      rw [fitsSigns_run_nil]
      constructor
      · intro fitting
        exact ⟨[], [], rfl, fitting⟩
      · rintro ⟨skipped, rest, same, fitting⟩
        obtain ⟨rfl, rfl⟩ := List.append_eq_nil_iff.mp same.symm
        exact fitting
  | cons item items inductionHypothesis =>
      rw [fitsSigns_run_cons, Bool.or_eq_true, inductionHypothesis]
      constructor
      · rintro (fitting | ⟨skipped, rest, rfl, fitting⟩)
        · exact ⟨[], item :: items, rfl, fitting⟩
        · exact ⟨item :: skipped, rest, rfl, fitting⟩
      · rintro ⟨skipped, rest, same, fitting⟩
        cases skipped with
        | nil =>
            obtain rfl : item :: items = rest := same
            exact .inl fitting
        | cons first skipped => exact .inr ⟨skipped, rest, (List.cons.inj same).2, fitting⟩

/-- Deciding whether names fit is deciding whether the segments take them. -/
theorem takesPath_iff
    {segments names : List String} :
    TakesPath segments names ↔ fitsPath (segments.map Step.ofSegment) names = true := by
  induction segments generalizing names with
  | nil =>
      rw [takesPath_nil_iff, List.map_nil, fitsPath, List.map_nil, fitsSigns_nil, List.isEmpty_iff]
  | cons segment segments inductionHypothesis =>
      by_cases deep : segment = "**"
      · subst deep
        rw [takesPath_anyDepth_iff]
        simp only [inductionHypothesis]
        exact fitsSigns_run_iff.symm
      · have isName : Step.ofSegment segment = .name segment := if_neg deep
        rw [takesPath_name_iff deep, List.map_cons, isName]
        simp only [inductionHypothesis, fitsPath, List.map_cons, Step.sign]
        cases names with
        | nil => simp
        | cons name names => simp

/-- A segment without a wildcard fits itself and nothing else. -/
theorem fits_literal_iff
    {segment name : String}
    (literal : hasWildcard segment = false) :
    fits segment name = true ↔ name = segment := by
  have exact (char : Char) (member : char ∈ segment.toList) :
      Piece.ofChar char = .exactly char := by
    have plain := List.any_eq_false.mp literal char member
    simp only [Bool.or_eq_true, decide_eq_true_eq, not_or] at plain
    rw [Piece.ofChar, if_neg plain.1, if_neg plain.2]
  have spelled : pieces segment = segment.toList.map Piece.exactly := List.map_congr_left exact
  rw [fits_eq_true_iff, spelled, fits_exactly_iff, String.toList_inj]

/-- Segments without wildcards take themselves and leave the rest to the other segments. -/
theorem takesPath_literal_append_iff
    {stem rest names : List String}
    (literal : ∀ segment ∈ stem, hasWildcard segment = false) :
    TakesPath (stem ++ rest) names ↔ ∃ behind, names = stem ++ behind ∧ TakesPath rest behind := by
  induction stem generalizing names with
  | nil =>
      constructor
      · intro takes
        exact ⟨names, rfl, takes⟩
      · rintro ⟨behind, rfl, takes⟩
        exact takes
  | cons segment stem inductionHypothesis =>
      have literalHere := literal segment List.mem_cons_self
      have single : segment ≠ "**" := by
        rintro rfl
        cases literalHere
      have goesOn (others : List String) :
          TakesPath (stem ++ rest) others ↔
            ∃ behind, others = stem ++ behind ∧ TakesPath rest behind :=
        inductionHypothesis fun other member => literal other (List.mem_cons_of_mem _ member)
      rw [List.cons_append, takesPath_name_iff single]
      simp only [fits_literal_iff literalHere, goesOn]
      constructor
      · rintro ⟨name, _, rfl, rfl, behind, rfl, takes⟩
        exact ⟨behind, rfl, takes⟩
      · rintro ⟨behind, rfl, takes⟩
        exact ⟨segment, stem ++ behind, rfl, rfl, behind, rfl, takes⟩

/-!
## What is listed
-/

/-- The pattern that a text is: the segments before the first wildcard are followed, the other ones
are searched for. -/
theorem parse?_eq_some
    {text : String}
    (nonblank : Text.trim text ≠ "") :
    ∃ pattern wild,
      Pattern.parse? text = some pattern ∧
        pattern.absolute = decide ((Text.trim text).toList.head? = some Path.separator) ∧
        pattern.stem = literalPrefix text ∧
        pattern.steps = wild.map Step.ofSegment ∧
        segmentsOf text = literalPrefix text ++ wild ∧
        (wild ≠ [] → ∃ segment ∈ segmentsOf text, hasWildcard segment = true) := by
  have parsed :
      Pattern.parse? text = some
        { absolute := (Text.trim text).toList.head? = some Path.separator
          stem := literalPrefix text
          steps :=
            ((segmentsOf text).dropWhile fun segment => !hasWildcard segment).map
              Step.ofSegment } := by
    unfold Pattern.parse?
    dsimp only
    rw [if_neg nonblank]
    rfl
  refine ⟨_, (segmentsOf text).dropWhile fun segment => !hasWildcard segment, parsed, rfl,
    by dsimp only, by dsimp only, List.takeWhile_append_dropWhile.symm, fun nonempty => ?_⟩
  have stops := List.head_dropWhile_not (fun segment => !hasWildcard segment) nonempty
  refine ⟨_, (List.dropWhile_suffix _).subset (List.head_mem nonempty), ?_⟩
  simpa using stops

/-- Where nothing leads up and the stem is no file, a pattern stands for the files whose names
its segments take. -/
theorem matches_iff
    {tree : FileTree}
    {place : Place}
    {pattern : Pattern}
    {wild names : List String}
    (wellFormed : tree.WellFormed)
    (isSteps : pattern.steps = wild.map Step.ofSegment)
    (literal : ∀ segment ∈ pattern.stem, hasWildcard segment = false)
    (idle : ∀ segment ∈ pattern.stem, Path.isIdle segment = false)
    (noUp : ".." ∉ pattern.stem)
    (searchable : wild ≠ [] → place ++ pattern.stem ∉ tree.files) :
    (∃ target, pattern.Matches tree place names target) ↔
      place ++ names ∈ tree.files ∧ TakesPath (pattern.stem ++ wild) names := by
  rw [takesPath_literal_append_iff literal]
  constructor
  · rintro ⟨_, stemPlace, rest, rfl, led, rfl, isFile, fitting, _⟩
    rw [FileTree.eq_append_of_follow idle noUp led, List.append_assoc] at isFile
    rw [isSteps, ← takesPath_iff] at fitting
    exact ⟨isFile, rest, rfl, fitting⟩
  · rintro ⟨isFile, rest, rfl, takes⟩
    refine ⟨_, place ++ pattern.stem, rest, rfl, wellFormed.follow_of_file_behind isFile, rfl,
      by rwa [List.append_assoc], by rwa [isSteps, ← takesPath_iff], ?_⟩
    rintro rfl
    -- the stem itself is a file, so there is nothing to search for
    by_contra someSteps
    have nonempty : wild ≠ [] := by
      rintro rfl
      exact someSteps isSteps
    rw [List.append_nil] at isFile
    exact searchable nonempty isFile

namespace Example

/-- Modules within modules, and a file of the same name beside them. -/
def tree : FileTree where
  nodes :=
    [(["w"], .directory),
      (["w", "handlers.json"], .file "[]".toUTF8),
      (["w", "modules"], .directory),
      (["w", "modules", "handlers.json"], .file "[]".toUTF8),
      (["w", "modules", "a"], .directory),
      (["w", "modules", "a", "notes.txt"], .file "".toUTF8),
      (["w", "modules", "a", "b"], .directory),
      (["w", "modules", "a", "b", "handlers.json"], .file "[]".toUTF8)]

private theorem wellFormed : tree.WellFormed where
  started := rfl
  unique := by decide
  named := by decide
  placed := by decide

end Example

end Switchboard.Glob
