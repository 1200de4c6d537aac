import Mathlib.Data.List.Sort
import Switchboard.Proofs.Glob.Listing
import Switchboard.Proofs.Text.Trimming

namespace Switchboard

/-!
# Any depth behind a pattern

A step for any depth takes no name as well, so a pattern with `/**` behind it should list what the
pattern lists, and more.  A pattern with wildcards is searched for either way, and it does.  A
pattern without them names a file when it stands alone, and a directory to search once `/**` is
behind it, so what it names is listed in one of the two only.
-/

/-- Cutting at a mark between two texts cuts each of them. -/
theorem Text.cutChars_append_mark
    (mark : Char)
    (first rest : List Char) :
    cutChars mark (first ++ mark :: rest) = cutChars mark first ++ cutChars mark rest := by
  induction first with
  | nil => simp [cutChars]
  | cons char first inductionHypothesis =>
      rw [List.cons_append, cutChars, cutChars, inductionHypothesis]
      by_cases same : char = mark
      · rw [if_pos same, if_pos same, List.cons_append]
      · obtain ⟨piece, pieces, cuts⟩ := List.exists_cons_of_ne_nil (cutChars_ne_nil mark first)
        rw [if_neg same, if_neg same, cuts]
        rfl

/-- A path that leads to a file leads to no directory. -/
theorem FileTree.directory?_of_isFile
    {tree : FileTree}
    {path : Path}
    (isFile : tree.isFile path = true) :
    tree.directory? path = none := by
  cases isDirectory : tree.directory? path with
  | none => rfl
  | some place =>
      obtain ⟨resolved, found⟩ := directory?_eq_some.mp isDirectory
      simp [FileTree.isFile, read, resolved, found, bind, Except.bind] at isFile

namespace Glob

/-- The pattern that also stands for everything below what a pattern stands for. -/
def Pattern.andBelow (pattern : Pattern) : Pattern :=
  { pattern with steps := pattern.steps ++ [.anyDepth] }

@[simp] theorem Pattern.root_andBelow (pattern : Pattern) (base : Path) :
    pattern.andBelow.root base = pattern.root base := rfl

@[simp] theorem Pattern.isEmpty_andBelow (pattern : Pattern) :
    pattern.andBelow.steps.isEmpty = false := by
  simp [andBelow]

theorem trim_append_anyDepth
    {text : String}
    (nonblank : text ≠ "")
    (trimmed : Text.trim text = text) :
    Text.trim (text ++ "/**") = text ++ "/**" := by
  have bare := Text.bare_of_trim_eq trimmed
  have bareToo : Text.Bare (text ++ "/**").toList := by
    refine { first := fun char begins => ?_, last := fun char ends => ?_ }
    · have nonempty : text.toList ≠ [] := by simpa using nonblank
      rw [String.toList_append, List.head?_append_of_ne_nil _ nonempty] at begins
      exact bare.first char begins
    · rw [String.toList_append, List.getLast?_append] at ends
      cases ends
      rfl
  rw [Text.trim, Text.trimChars_of_bare bareToo, String.ofList_toList]

theorem segments_append_anyDepth (text : String) :
    segments (text ++ "/**") = segments text ++ ["**"] := by
  have cuts : Text.cut Path.separator (text ++ "/**") = Text.cut Path.separator text ++ ["**"] := by
    have chars : (text ++ "/**").toList = text.toList ++ Path.separator :: ['*', '*'] :=
      String.toList_append
    rw [Text.cut, chars, Text.cutChars_append_mark, List.map_append]
    rfl
  rw [segments, segments, cuts, List.filter_append]
  rfl

/-- `/**` behind a text is a step for any depth behind the steps of its pattern. -/
theorem parse?_append_anyDepth
    {text : String}
    {pattern : Pattern}
    (trimmed : Text.trim text = text)
    (parsed : Pattern.parse? text = some pattern) :
    Pattern.parse? (text ++ "/**") = some pattern.andBelow := by
  have nonblank : text ≠ "" := by
    rintro rfl
    cases parsed
  have longer : text ++ "/**" ≠ "" := by
    intro isEmpty
    have chars := congrArg String.toList isEmpty
    rw [String.toList_append] at chars
    simp at chars
  have sameStart : (text ++ "/**").toList.head? = text.toList.head? := by
    rw [String.toList_append, List.head?_append_of_ne_nil]
    simpa using nonblank
  unfold Pattern.parse? at parsed ⊢
  rw [trimmed] at parsed
  rw [trim_append_anyDepth nonblank trimmed]
  simp only [if_neg nonblank, Option.some.injEq] at parsed
  simp only [if_neg longer, Option.some.injEq]
  obtain rfl := parsed
  have isWild : hasWildcard "**" = true := rfl
  have sameStem :
      (segments text ++ ["**"]).takeWhile (fun segment => !hasWildcard segment) =
        (segments text).takeWhile fun segment => !hasWildcard segment := by
    rw [List.takeWhile_append]
    split
    · next whole =>
        have noWild := (List.takeWhile_prefix _).eq_of_length whole
        simp [noWild, isWild]
    · rfl
  have moreSteps :
      (segments text ++ ["**"]).dropWhile (fun segment => !hasWildcard segment) =
        ((segments text).dropWhile fun segment => !hasWildcard segment) ++ ["**"] := by
    rw [List.dropWhile_append]
    split <;> simp_all
  rw [segments_append_anyDepth, sameStem, moreSteps, sameStart, List.map_append]
  rfl

/-- Names fit a pattern with a step for any depth behind it if some names at their beginning fit
the pattern. -/
theorem fitsPath_append_anyDepth_iff
    {steps : List Step}
    {names : List String} :
    fitsPath (steps ++ [.anyDepth]) names = true ↔
      ∃ before after, names = before ++ after ∧ fitsPath steps before = true := by
  induction steps generalizing names with
  | nil =>
      have takesAll : fitsPath ([] ++ [.anyDepth]) names = true :=
        fitsSigns_run_iff.mpr ⟨names, [], by simp, by simp⟩
      exact ⟨fun _ => ⟨[], names, rfl, rfl⟩, fun _ => takesAll⟩
  | cons step steps inductionHypothesis =>
      cases step with
      | anyDepth =>
          rw [List.cons_append]
          constructor
          · intro fitting
            obtain ⟨skipped, rest, rfl, fittingRest⟩ := fitsSigns_run_iff.mp fitting
            obtain ⟨before, after, rfl, fittingBefore⟩ := inductionHypothesis.mp fittingRest
            exact ⟨skipped ++ before, after, by simp,
              fitsSigns_run_iff.mpr ⟨skipped, before, rfl, fittingBefore⟩⟩
          · rintro ⟨before, after, rfl, fitting⟩
            obtain ⟨skipped, rest, rfl, fittingRest⟩ := fitsSigns_run_iff.mp fitting
            exact fitsSigns_run_iff.mpr ⟨skipped, rest ++ after, by simp,
              inductionHypothesis.mpr ⟨rest, after, rfl, fittingRest⟩⟩
      | name pattern =>
          have onward (first : String) (others : List String) (more : List Step) :
              fitsPath (.name pattern :: more) (first :: others) =
                (fits pattern first && fitsPath more others) :=
            fitsSigns_one_cons _ _ _ _
          have stuck (more : List Step) : fitsPath (.name pattern :: more) [] = false :=
            fitsSigns_one_nil _ _
          rw [List.cons_append]
          cases names with
          | nil => simp [stuck]
          | cons first others =>
              rw [onward, Bool.and_eq_true, inductionHypothesis]
              constructor
              · rintro ⟨fitting, before, after, rfl, fittingBefore⟩
                exact ⟨first :: before, after, rfl, by rw [onward, fitting, fittingBefore]; rfl⟩
              · rintro ⟨before, after, split, fitting⟩
                cases before with
                | nil => cases (stuck steps).symm.trans fitting
                | cons other before =>
                    cases split
                    rw [onward, Bool.and_eq_true] at fitting
                    exact ⟨fitting.1, before, after, rfl, fitting.2⟩

/-- A search for what is below as well finds the other files too, and in the same order. -/
theorem search_sublist_andBelow
    (pattern : Pattern)
    (tree : FileTree)
    (place : Place) :
    (pattern.search tree place).Sublist (pattern.andBelow.search tree place) := by
  have more (names : List String)
      (found :
        (withinBound (depthBound pattern.steps) names && fitsPath pattern.steps names) = true) :
      (withinBound (depthBound pattern.andBelow.steps) names &&
        fitsPath pattern.andBelow.steps names) = true := by
    rw [Bool.and_eq_true] at found ⊢
    have fitting : fitsPath pattern.andBelow.steps names = true :=
      fitsPath_append_anyDepth_iff.mpr ⟨names, [], by simp, found.2⟩
    exact ⟨withinBound_of_fitsPath fitting, fitting⟩
  have contained : (pattern.search tree place).Subperm (pattern.andBelow.search tree place) := by
    refine (List.mergeSort_perm _ _).subperm.trans ?_
    refine (List.monotone_filter_right _ more).subperm.trans ?_
    exact (List.mergeSort_perm _ _).symm.subperm
  have antisymmetric :
      Std.Antisymm fun left right : List String => (compare left right).isLE = true :=
    ⟨fun left right before after =>
      Std.LawfulEqCmp.compare_eq_iff_eq.mp (Std.OrientedCmp.isLE_antisymm before after)⟩
  exact List.sublist_of_subperm_of_pairwise contained (sorted_search _ tree place)
    (sorted_search _ tree place)

section

variable (tree : FileTree) (base : Path)

/-- A pattern that is searched for lists no less with any depth behind it. -/
theorem expand_sublist_andBelow
    {pattern : Pattern}
    (steps : pattern.steps ≠ []) :
    (pattern.expand tree base).Sublist (pattern.andBelow.expand tree base) := by
  have someSteps : pattern.steps.isEmpty = false := by simpa using steps
  simp only [Pattern.expand, Pattern.root_andBelow, Pattern.isEmpty_andBelow, someSteps,
    Bool.false_eq_true, if_false]
  cases tree.directory? (pattern.root base) with
  | none => exact List.Sublist.refl []
  | some place => exact (search_sublist_andBelow pattern tree place).map _

/-- A pattern that names a file lists nothing with any depth behind it. -/
theorem expand_eq_nil_or_andBelow
    {pattern : Pattern}
    (steps : pattern.steps = []) :
    pattern.expand tree base = [] ∨ pattern.andBelow.expand tree base = [] := by
  cases isFile : tree.isFile (pattern.root base) with
  | false => exact .inl (by simp [Pattern.expand, steps, isFile])
  | true =>
      exact .inr (by simp [Pattern.expand, FileTree.directory?_of_isFile isFile])

/--
With `/**` behind it a pattern with wildcards lists what it lists alone, in the same order, and
perhaps more.  A pattern without wildcards lists something either alone or with `/**` behind it,
but not both: a file that it names is lost.
-/
theorem expand_append_anyDepth
    {text : String}
    (nonblank : text ≠ "")
    (trimmed : Text.trim text = text) :
    ∃ files deeper,
      expand? tree base text = some files ∧
        expand? tree base (text ++ "/**") = some deeper ∧
        ((∃ segment ∈ segmentsOf text, hasWildcard segment = true) → files.Sublist deeper) ∧
        ((∀ segment ∈ segmentsOf text, hasWildcard segment = false) → files = [] ∨ deeper = []) ∧
        ((∀ file ∈ files, file ∈ deeper) ↔
          files = [] ∨ ∃ segment ∈ segmentsOf text, hasWildcard segment = true) := by
  obtain ⟨pattern, wild, parsed, _, _, isSteps, whole, isWild⟩ :=
    parse?_eq_some (by rwa [trimmed])
  have searched
      (wildcard : ∃ segment ∈ segmentsOf text, hasWildcard segment = true) :
      pattern.steps ≠ [] := by
    rw [isSteps]
    intro none
    rw [List.map_eq_nil_iff.mp none, List.append_nil] at whole
    obtain ⟨segment, member, has⟩ := wildcard
    rw [whole] at member
    have literal := List.mem_takeWhile_imp member
    rw [has] at literal
    cases literal
  have named
      (literal : ∀ segment ∈ segmentsOf text, hasWildcard segment = false) :
      pattern.steps = [] := by
    rw [isSteps, List.map_eq_nil_iff]
    by_contra nonempty
    obtain ⟨segment, member, has⟩ := isWild nonempty
    cases (literal segment member).symm.trans has
  have more
      (wildcard : ∃ segment ∈ segmentsOf text, hasWildcard segment = true) :
      (pattern.expand tree base).Sublist (pattern.andBelow.expand tree base) :=
    expand_sublist_andBelow tree base (searched wildcard)
  have either
      (literal : ∀ segment ∈ segmentsOf text, hasWildcard segment = false) :
      pattern.expand tree base = [] ∨ pattern.andBelow.expand tree base = [] :=
    expand_eq_nil_or_andBelow tree base (named literal)
  refine ⟨pattern.expand tree base, pattern.andBelow.expand tree base, ?_, ?_, more, either, ?_⟩
  · rw [expand?, parsed, Option.map_some]
  · rw [expand?, parse?_append_anyDepth trimmed parsed, Option.map_some]
  · constructor
    · intro kept
      by_cases wildcard : ∃ segment ∈ segmentsOf text, hasWildcard segment = true
      · exact .inr wildcard
      · have literal : ∀ segment ∈ segmentsOf text, hasWildcard segment = false := by
          simpa using wildcard
        rcases either literal with nothing | nothing
        · exact .inl nothing
        · rw [nothing] at kept
          exact .inl (List.eq_nil_iff_forall_not_mem.mpr fun file member => by
            cases kept file member)
    · rintro (nothing | wildcard) file member
      · rw [nothing] at member
        cases member
      · exact (more wildcard).subset member

end

namespace AnyDepth

/-- One file, and nothing else. -/
def tree : FileTree where
  nodes := [(["m.json"], .file "{}".toUTF8)]

end AnyDepth

/-- The name of a file, which stands for nothing any more once `/**` is behind it. -/
theorem expand_append_anyDepth_of_file :
    "m.json" ≠ "" ∧ Text.trim "m.json" = "m.json" ∧
      ∃ files deeper,
        expand? AnyDepth.tree (.ofText "/") "m.json" = some files ∧
          expand? AnyDepth.tree (.ofText "/") ("m.json" ++ "/**") = some deeper ∧
          ¬∀ file ∈ files, file ∈ deeper := by
  have nonblank : "m.json" ≠ "" := by decide
  have trimmed : Text.trim "m.json" = "m.json" := by decide +kernel
  obtain ⟨files, deeper, listed, listedDeeper, _, _, kept⟩ :=
    expand_append_anyDepth AnyDepth.tree (.ofText "/") nonblank trimmed
  refine ⟨nonblank, trimmed, files, deeper, listed, listedDeeper, ?_⟩
  rw [kept]
  rintro (nothing | ⟨segment, member, has⟩)
  · rw [nothing] at listed
    revert listed
    decide +kernel
  · have literal : ∀ segment ∈ segmentsOf "m.json", hasWildcard segment = false := by
      decide +kernel
    cases (literal segment member).symm.trans has

end Glob

end Switchboard
