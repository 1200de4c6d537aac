import Mathlib.Data.List.Nodup
import Switchboard.Glob.Expansion
import Switchboard.Proofs.Files.Places

namespace Switchboard.Glob

/-!
# What a pattern stands for

`Pattern.Matches` says which files a relative pattern stands for, by the names that lead to them
from a directory; the spelling of the path to that directory has no part in it.  `expand_eq` says
that expanding a pattern lists these names in order, each behind that path.  It lists none of them
where the path is the empty one and the pattern is searched for right there: the empty path is not
one to a directory.
-/

/-- A file that a pattern stands for in a directory, and the names by which it is listed. -/
def Pattern.Matches
    (pattern : Pattern)
    (tree : FileTree)
    (place : Place)
    (names : List String)
    (target : Place) :
    Prop :=
  ∃ stemPlace rest,
    names = pattern.stem ++ rest ∧
      tree.follow place pattern.stem = .ok stemPlace ∧
      target = stemPlace ++ rest ∧ target ∈ tree.files ∧
      fitsPath pattern.steps rest = true ∧ (rest = [] → pattern.steps = [])

/-- Names in component order, none of them twice. -/
def InOrder (found : List (List String)) : Prop :=
  found.Pairwise fun left right => compare left right = .lt

theorem InOrder.nodup
    {found : List (List String)}
    (inOrder : InOrder found) :
    found.Nodup := by
  refine inOrder.imp fun {left right} before same => ?_
  subst same
  have itself : compare left left = .eq := Std.ReflCmp.compare_self
  cases before.symm.trans itself

/-- There is a path for a pattern to be searched or looked up at: the base, or one behind it. -/
def Pattern.Starts (pattern : Pattern) (base : Path) : Prop :=
  base.isEmpty = true → pattern.stem ≠ []

theorem Pattern.Starts.of_nonempty
    {pattern : Pattern}
    {base : Path}
    (nonempty : base.isEmpty = false) :
    pattern.Starts base :=
  fun isEmpty => absurd (nonempty.symm.trans isEmpty) Bool.false_ne_true

/-- All names by which a pattern stands for files behind a base, from which names lead on from a
directory, in order. -/
structure Pattern.Lists
    (pattern : Pattern)
    (tree : FileTree)
    (base : Path)
    (place : Place)
    (found : List (List String)) :
    Prop where
  inOrder : InOrder found
  mem_iff : ∀ names,
    names ∈ found ↔ pattern.Starts base ∧ ∃ target, pattern.Matches tree place names target

/-- There is one way to list the names. -/
theorem Pattern.Lists.unique
    {pattern : Pattern}
    {tree : FileTree}
    {base : Path}
    {place : Place}
    {found others : List (List String)}
    (lists : pattern.Lists tree base place found)
    (listsToo : pattern.Lists tree base place others) :
    found = others := by
  have same : found.Perm others :=
    (List.perm_ext_iff_of_nodup lists.inOrder.nodup listsToo.inOrder.nodup).mpr fun names =>
      (lists.mem_iff names).trans (listsToo.mem_iff names).symm
  refine same.eq_of_pairwise ?_ lists.inOrder listsToo.inOrder
  intro left right _ _ before after
  have swapped := Std.OrientedCmp.gt_iff_lt.mpr after
  rw [before] at swapped
  cases swapped

/-- The stem of a pattern is made of segments of its text. -/
theorem mem_segments_of_parse?
    {text : String}
    {pattern : Pattern}
    (parsed : Pattern.parse? text = some pattern) :
    ∀ segment ∈ pattern.stem, segment ∈ segments (Text.trim text) := by
  simp only [Pattern.parse?] at parsed
  split at parsed
  · cases parsed
  · obtain rfl := Option.some.inj parsed
    intro segment member
    dsimp only at member
    exact (List.takeWhile_sublist _).subset member

theorem isIdle_of_parse?
    {text : String}
    {pattern : Pattern}
    (parsed : Pattern.parse? text = some pattern) :
    ∀ segment ∈ pattern.stem, Path.isIdle segment = false := by
  intro segment member
  simpa [segments] using (List.mem_filter.mp (mem_segments_of_parse? parsed segment member)).2

/-- Steps for single names fit as many names as there are steps. -/
theorem length_eq_of_fitsPath
    {steps : List Step}
    {names : List String}
    (single : .anyDepth ∉ steps)
    (fits : fitsPath steps names = true) :
    names.length = steps.length := by
  induction steps generalizing names with
  | nil => simpa [fitsPath] using fits
  | cons step steps inductionHypothesis =>
      cases step with
      | anyDepth => simp at single
      | name pattern =>
          cases names with
          | nil => simp [fitsPath, Step.sign] at fits
          | cons name names =>
              simp only [fitsPath, List.map_cons, Step.sign, fitsSigns_one_cons,
                Bool.and_eq_true] at fits
              simp only [List.length_cons, Nat.add_right_cancel_iff]
              exact inductionHypothesis (by simpa using single) fits.2

/-- The bound on the depth of a search leaves out nothing that fits. -/
theorem withinBound_of_fitsPath
    {steps : List Step}
    {names : List String}
    (fits : fitsPath steps names = true) :
    withinBound (depthBound steps) names = true := by
  by_cases deep : Step.anyDepth ∈ steps
  · simp [depthBound, deep, withinBound]
  · simp [depthBound, deep, withinBound, length_eq_of_fitsPath deep fits]

/-- A search finds the files below a directory that fit. -/
theorem mem_search
    {pattern : Pattern}
    {tree : FileTree}
    {place : Place}
    {names : List String} :
    names ∈ pattern.search tree place ↔
      place ++ names ∈ tree.files ∧ fitsPath pattern.steps names = true := by
  have below : names ∈ tree.filesBelow place ↔ place ++ names ∈ tree.files := by
    simp only [FileTree.filesBelow, List.mem_filterMap, Path.dropComponents?_eq_some]
    constructor
    · rintro ⟨_, member, rfl⟩
      exact member
    · intro member
      exact ⟨_, member, rfl⟩
  simp only [Pattern.search, List.mem_mergeSort, List.mem_filter, below, Bool.and_eq_true]
  constructor
  · rintro ⟨member, _, fits⟩
    exact ⟨member, fits⟩
  · rintro ⟨member, fits⟩
    exact ⟨member, withinBound_of_fitsPath fits, fits⟩

theorem sorted_search
    (pattern : Pattern)
    (tree : FileTree)
    (place : Place) :
    (pattern.search tree place).Pairwise fun left right => (compare left right).isLE = true := by
  refine List.pairwise_mergeSort (fun _ _ _ => Std.TransCmp.isLE_trans) ?_ _
  intro left right
  have swapped : compare right left = (compare left right).swap := Std.OrientedCmp.eq_swap
  rw [swapped]
  cases compare left right <;> rfl

theorem inOrder_search
    {tree : FileTree}
    (wellFormed : tree.WellFormed)
    (pattern : Pattern)
    (place : Place) :
    InOrder (pattern.search tree place) := by
  -- sorting leaves equal names side by side, so strictness has to come from the tree
  have nodupBelow : (tree.filesBelow place).Nodup := by
    refine List.Nodup.filterMap ?_ wellFormed.nodup_files
    intro file other names isFile isOther
    rw [Path.dropComponents?_eq_some.mp isFile, Path.dropComponents?_eq_some.mp isOther]
  have nodup : (pattern.search tree place).Nodup :=
    (List.mergeSort_perm _ _).nodup_iff.mpr (nodupBelow.filter _)
  refine ((sorted_search pattern tree place).and nodup).imp fun {left right} both => ?_
  rcases Ordering.isLE_iff_eq_lt_or_eq_eq.mp both.1 with before | same
  · exact before
  · exact absurd (Std.LawfulEqCmp.compare_eq_iff_eq.mp same) both.2

theorem compare_append
    (lead left right : List String) :
    compare (lead ++ left) (lead ++ right) = compare left right := by
  induction lead with
  | nil => rfl
  | cons name lead inductionHypothesis =>
      have itself : compare name name = .eq := Std.ReflCmp.compare_self
      rw [List.cons_append, List.cons_append, List.compare_cons_cons, itself, inductionHypothesis]
      rfl

/-- Names behind a base lead on from where it does, if that is a path at all. -/
theorem resolve_joinAll
    {tree : FileTree}
    {base : Path}
    {place : Place}
    {names : List String}
    (led : tree.behind base = .ok place)
    (idle : ∀ name ∈ names, Path.isIdle name = false)
    (spelled : base.isEmpty = true → names ≠ []) :
    tree.resolve (base.joinAll names) = tree.follow place names := by
  cases names with
  | nil =>
      have nonempty : base.isEmpty = false := by simpa using spelled
      exact FileTree.resolve_eq_ok.mpr ⟨nonempty, led⟩
  | cons name names =>
      have named (other : String) (member : other ∈ name :: names) : other ≠ "" :=
        Path.ne_empty_of_isIdle_eq_false (idle other member)
      have nonempty :
          Path.isEmpty { base with segments := base.lead ++ name :: names } = false := by
        simp [Path.isEmpty]
      have started := FileTree.follow_lead led
      rw [← FileTree.origin_of_segments base (base.lead ++ name :: names)] at started
      rw [Path.segments_joinAll (List.cons_ne_nil name names) named, FileTree.resolve, nonempty,
        if_neg Bool.false_ne_true, FileTree.behind, FileTree.follow_append, started]
      rfl

section

variable {tree : FileTree} {pattern : Pattern} {place : Place}

theorem Pattern.Matches.isIdle
    {names : List String}
    {target : Place}
    (wellFormed : tree.WellFormed)
    (idle : ∀ segment ∈ pattern.stem, Path.isIdle segment = false)
    (leads : pattern.Matches tree place names target) :
    ∀ name ∈ names, Path.isIdle name = false := by
  obtain ⟨stemPlace, rest, rfl, _, rfl, isFile, _⟩ := leads
  obtain ⟨content, found⟩ := wellFormed.mem_files.mp isFile
  intro name member
  rcases List.mem_append.mp member with inStem | inRest
  · exact idle name inStem
  · have below : stemPlace ++ rest ≠ [] := by
      intro isTop
      rw [isTop] at found
      cases found
    have listed := (wellFormed.node?_eq_some below).mp found
    exact Path.isIdle_eq_false_of_isName
      (wellFormed.named _ listed name (List.mem_append_right _ inRest))

theorem Pattern.Matches.follow
    {names : List String}
    {target : Place}
    (wellFormed : tree.WellFormed)
    (leads : pattern.Matches tree place names target) :
    tree.follow place names = .ok target := by
  obtain ⟨stemPlace, rest, rfl, led, rfl, isFile, _⟩ := leads
  obtain ⟨content, found⟩ := wellFormed.mem_files.mp isFile
  rw [FileTree.follow_append, led]
  exact wellFormed.follow_names (by rw [found]; rfl)

theorem Pattern.Matches.mem_files
    {names : List String}
    {target : Place}
    (leads : pattern.Matches tree place names target) :
    target ∈ tree.files := by
  obtain ⟨_, _, _, _, _, isFile, _⟩ := leads
  exact isFile

/-- Names lead to a file that is not the directory they start from. -/
theorem Pattern.Matches.ne_nil
    {names : List String}
    {target : Place}
    (wellFormed : tree.WellFormed)
    (isDirectory : tree.node? place = some .directory)
    (leads : pattern.Matches tree place names target) :
    names ≠ [] := by
  rintro rfl
  obtain ⟨content, found⟩ := wellFormed.mem_files.mp leads.mem_files
  have led := leads.follow wellFormed
  cases led
  cases isDirectory.symm.trans found

section

variable {base : Path}

/-- A pattern without steps stands for the file that its stem leads to, if it does. -/
theorem lists_of_no_steps
    (wellFormed : tree.WellFormed)
    {root : Path}
    (starts : pattern.Starts base)
    (steps : pattern.steps = [])
    (leads : tree.resolve root = tree.follow place pattern.stem) :
    pattern.Lists tree base place (if tree.isFile root then [pattern.stem] else []) where
  inOrder := by
    split
    · exact List.pairwise_singleton _ _
    · exact .nil
  mem_iff := by
    intro names
    have listed :
        names ∈ (if tree.isFile root then [pattern.stem] else []) ↔
          tree.isFile root = true ∧ names = pattern.stem := by
      split <;> simp_all
    rw [listed, wellFormed.isFile_iff, leads, and_iff_right starts]
    constructor
    · rintro ⟨⟨target, led, isFile⟩, rfl⟩
      exact ⟨target, target, [], by simp, led, by simp, isFile, by rw [steps]; rfl, fun _ => steps⟩
    · rintro ⟨_, stemPlace, rest, rfl, led, rfl, isFile, fits, _⟩
      rw [steps, fitsPath, List.map_nil, fitsSigns_nil, List.isEmpty_iff] at fits
      subst fits
      exact ⟨⟨stemPlace, led, by simpa using isFile⟩, by simp⟩

/-- A pattern with steps stands for nothing if its stem leads to no directory. -/
theorem lists_of_no_directory
    (wellFormed : tree.WellFormed)
    {root : Path}
    (steps : pattern.steps ≠ [])
    (leads : tree.resolve root = tree.follow place pattern.stem)
    (missing : tree.directory? root = none) :
    pattern.Lists tree base place [] where
  inOrder := .nil
  mem_iff := by
    intro names
    simp only [List.not_mem_nil, false_iff, not_and]
    rintro _ ⟨_, stemPlace, rest, rfl, led, rfl, isFile, _, nonempty⟩
    obtain ⟨content, found⟩ := wellFormed.mem_files.mp isFile
    cases rest with
    | nil => exact steps (nonempty rfl)
    | cons name rest =>
        have above := wellFormed.node?_of_append (by rw [found]; rfl)
        have isSome := FileTree.directory?_eq_some.mpr ⟨leads.trans led, above⟩
        cases missing.symm.trans isSome

/-- A pattern with steps stands for what a search finds in the directory its stem leads to. -/
theorem lists_of_search
    (wellFormed : tree.WellFormed)
    {stemPlace : Place}
    (starts : pattern.Starts base)
    (led : tree.follow place pattern.stem = .ok stemPlace)
    (isDirectory : tree.node? stemPlace = some .directory) :
    pattern.Lists tree base place ((pattern.search tree stemPlace).map (pattern.stem ++ ·)) where
  inOrder := by
    refine (inOrder_search wellFormed pattern stemPlace).map _ fun left right before => ?_
    rwa [compare_append]
  mem_iff := by
    intro names
    rw [and_iff_right starts]
    simp only [List.mem_map, mem_search]
    constructor
    · rintro ⟨rest, ⟨isFile, fits⟩, rfl⟩
      refine ⟨_, stemPlace, rest, rfl, led, rfl, isFile, fits, ?_⟩
      rintro rfl
      obtain ⟨content, found⟩ := wellFormed.mem_files.mp isFile
      rw [List.append_nil, isDirectory] at found
      cases found
    · rintro ⟨_, other, rest, rfl, ledToo, rfl, isFile, fits, _⟩
      cases led.symm.trans ledToo
      exact ⟨rest, ⟨isFile, fits⟩, rfl⟩

/-- Right behind the empty path there is nothing to be found. -/
theorem expand_eq_nil
    (relative : pattern.absolute = false)
    (isEmpty : base.isEmpty = true)
    (noStem : pattern.stem = []) :
    pattern.expand tree base = [] := by
  have isRoot : pattern.root base = base := by
    simp [Pattern.root, relative, noStem, Path.joinAll]
  have nowhere : tree.resolve base = .error .notFound := by
    rw [FileTree.resolve, if_pos isEmpty]
  simp [Pattern.expand, isRoot, FileTree.isFile, FileTree.read, FileTree.directory?, nowhere,
    bind, Except.bind]

/-- Expanding a relative pattern lists the files it stands for, by names behind the base. -/
theorem expand_eq
    (wellFormed : tree.WellFormed)
    (relative : pattern.absolute = false)
    (idle : ∀ segment ∈ pattern.stem, Path.isIdle segment = false)
    (led : tree.behind base = .ok place) :
    ∃ found,
      pattern.expand tree base = found.map base.joinAll ∧
        pattern.Lists tree base place found := by
  by_cases starts : pattern.Starts base
  · have isRoot : pattern.root base = base.joinAll pattern.stem := by
      simp [Pattern.root, relative]
    have leads : tree.resolve (base.joinAll pattern.stem) = tree.follow place pattern.stem :=
      resolve_joinAll led idle starts
    unfold Pattern.expand
    dsimp only
    rw [isRoot]
    cases steps : pattern.steps with
    | nil =>
        refine ⟨_, ?_, lists_of_no_steps wellFormed starts steps leads⟩
        simp only [List.isEmpty_nil, if_true]
        split <;> rfl
    | cons step others =>
        simp only [List.isEmpty_cons, Bool.false_eq_true, if_false]
        cases isDirectory : tree.directory? (base.joinAll pattern.stem) with
        | none =>
            exact ⟨[], rfl, lists_of_no_directory wellFormed (by simp [steps]) leads isDirectory⟩
        | some stemPlace =>
            obtain ⟨led, found⟩ := FileTree.directory?_eq_some.mp isDirectory
            refine ⟨_, ?_, lists_of_search wellFormed starts (leads.symm.trans led) found⟩
            simp only [List.map_map, Function.comp_def, Path.joinAll, List.foldl_append]
            rfl
  · have isEmpty : base.isEmpty = true := by
      by_contra nonempty
      exact starts fun isEmpty => absurd isEmpty nonempty
    have noStem : pattern.stem = [] := by
      by_contra nonempty
      exact starts fun _ => nonempty
    exact ⟨[], expand_eq_nil relative isEmpty noStem,
      { inOrder := .nil
        mem_iff := fun names => by simp [starts] }⟩

end

end

end Switchboard.Glob
