import Switchboard.Cache.Blank
import Switchboard.Proofs.Files.Spelling
import Switchboard.Proofs.Manifest.Traversal

namespace Switchboard

/-!
# Which files active modules let through

A matched file should be loaded just if a directory that its place passes below the manifest's
directory is named after an active module.  Such a directory is always enough.  It is not always
needed: the filter sees names, not directories, so the name of the file itself counts as well, and
where the path of the file does not begin as the directory is spelled, so do all names from the top.
-/

namespace FileTree

variable {tree : FileTree}

/-- Whatever name a walk adds to the place it began at, it was told. -/
theorem mem_of_follow
    {place target above rest : Place}
    {segments : List String}
    {name : String}
    (followed : tree.follow place segments = .ok target)
    (passes : target = above ++ name :: rest)
    (apart : ¬above ++ [name] <+: place) :
    name ∈ segments := by
  induction segments generalizing place with
  | nil =>
      cases followed
      exact absurd ⟨rest, by simp [passes]⟩ apart
  | cons segment segments inductionHypothesis =>
      simp only [follow] at followed
      split at followed
      · cases followed
      · cases followed
      · split at followed
        · exact List.mem_cons_of_mem _ (inductionHypothesis followed apart)
        · split at followed
          · have apartAbove : ¬above ++ [name] <+: place.dropLast := fun before =>
              apart (before.trans (List.dropLast_prefix place))
            exact List.mem_cons_of_mem _ (inductionHypothesis followed apartAbove)
          · split at followed
            · by_cases before : above ++ [name] <+: place ++ [segment]
              · -- the place went no further than to this very name
                rcases List.prefix_concat_iff.mp before with same | inPlace
                · obtain ⟨_, sameName⟩ := List.append_inj' same rfl
                  rw [List.singleton_inj.mp sameName]
                  exact List.mem_cons_self
                · exact absurd inPlace apart
              · exact List.mem_cons_of_mem _ (inductionHypothesis followed before)
            · cases followed

/-- Idle segments make no difference to where a walk leads. -/
theorem follow_filter
    {place target : Place}
    {segments : List String}
    (followed : tree.follow place segments = .ok target) :
    tree.follow place (segments.filter fun segment => !Path.isIdle segment) = .ok target := by
  induction segments generalizing place with
  | nil => exact followed
  | cons segment segments inductionHypothesis =>
      simp only [follow] at followed
      split at followed
      · cases followed
      · cases followed
      · next isDirectory =>
          split at followed
          · next idle =>
              rw [List.filter_cons_of_neg (by simp [idle])]
              exact inductionHypothesis followed
          · next notIdle =>
              rw [List.filter_cons_of_pos (by simpa using notIdle), follow, isDirectory]
              simp only [if_neg notIdle]
              split at followed
              · next isUp => rw [if_pos isUp, inductionHypothesis followed]
              · next notUp =>
                  rw [if_neg notUp]
                  split at followed
                  · next present => rw [if_pos present, inductionHypothesis followed]
                  · cases followed

end FileTree

namespace Path

/-- The path to the top. -/
def top : Path := { absolute := true, segments := [] }

theorem components_top_joinAll
    {names : List String}
    (idle : ∀ name ∈ names, isIdle name = false) :
    (top.joinAll names).components = "/" :: names :=
  components_joinAll idle

/-- A path from the top that never leads up is spelled as the place it leads to. -/
theorem components_of_noUp
    {tree : FileTree}
    {base : Path}
    {home : Place}
    (absolute : base.absolute = true)
    (noUp : ".." ∉ base.segments)
    (led : tree.behind base = .ok home) :
    base.components = "/" :: home := by
  have origin : tree.origin base = [] := if_pos absolute
  have leads := FileTree.eq_append_of_follow
    (fun name member => by simpa using (List.mem_filter.mp member).2)
    (fun member => noUp (List.mem_of_mem_filter member))
    (FileTree.follow_filter led)
  rw [components, front, if_pos absolute, leads, origin]
  rfl

/-- A path from the top that begins as a base is spelled goes through where the base leads, unless
the base says nothing. -/
theorem eq_of_components_append
    {tree : FileTree}
    {base : Path}
    {home : Place}
    {names rest : List String}
    (spelled : base.Spelled)
    (led : tree.behind base = .ok home)
    (begins : "/" :: names = base.components ++ rest) :
    rest = "/" :: names ∨
      ∃ lead,
        base.components = "/" :: lead ∧ names = lead ++ rest ∧ tree.follow [] lead = .ok home := by
  have followed := FileTree.follow_filter led
  cases isAbsolute : base.absolute with
  | true =>
      have isComponents :
          base.components = "/" :: base.segments.filter fun segment => !isIdle segment := by
        simp [components, front, isAbsolute]
      have origin : tree.origin base = [] := if_pos isAbsolute
      rw [isComponents] at begins
      rw [origin] at followed
      exact .inr ⟨_, isComponents, (List.cons.inj begins).2, followed⟩
  | false =>
      cases split : base.components with
      | nil =>
          rw [split] at begins
          exact .inl begins.symm
      | cons first others =>
          -- no component of a relative path is the separator
          rw [split] at begins
          obtain ⟨rfl, _⟩ := List.cons.inj begins
          have member : "/" ∈ base.components := by
            rw [split]
            exact List.mem_cons_self
          rcases List.mem_append.mp member with inFront | inSegments
          · simp only [front, isAbsolute, Bool.false_eq_true, if_false] at inFront
            split at inFront <;> simp at inFront
          · exact absurd (by decide) (spelled.whole "/" (List.mem_of_mem_filter inSegments))

end Path

namespace Glob

/-- What the stem of a pattern is put behind: the top for an absolute pattern, else the base. -/
def Pattern.start (pattern : Pattern) (base : Path) : Path :=
  if pattern.absolute then Path.top else base

/-- Where the start of a pattern leads, if the base leads home. -/
def Pattern.startPlace (pattern : Pattern) (home : Place) : Place :=
  if pattern.absolute then [] else home

theorem behind_start
    {tree : FileTree}
    {base : Path}
    {home : Place}
    (pattern : Pattern)
    (led : tree.behind base = .ok home) :
    tree.behind (pattern.start base) = .ok (pattern.startPlace home) := by
  unfold Pattern.start Pattern.startPlace
  split
  · rfl
  · exact led

/-- Expanding any pattern lists the files it stands for, by names behind its start. -/
theorem expand_eq_start
    {tree : FileTree}
    {pattern : Pattern}
    {base : Path}
    {home : Place}
    (wellFormed : tree.WellFormed)
    (idle : ∀ segment ∈ pattern.stem, Path.isIdle segment = false)
    (led : tree.behind base = .ok home) :
    ∃ found,
      pattern.expand tree base = found.map (pattern.start base).joinAll ∧
        pattern.Lists tree (pattern.start base) (pattern.startPlace home) found := by
  -- behind its start an absolute pattern goes on as a relative one
  let relative : Pattern := { pattern with absolute := false }
  have idleToo : ∀ segment ∈ relative.stem, Path.isIdle segment = false := idle
  have isRelative : relative.absolute = false := rfl
  obtain ⟨found, expanded, lists⟩ :=
    expand_eq wellFormed isRelative idleToo (behind_start pattern led)
  exact ⟨found, expanded, lists.inOrder, lists.mem_iff⟩

/-- Names in a tree do not lead up, so only the stem of a pattern can. -/
theorem Pattern.Matches.noUp
    {tree : FileTree}
    {pattern : Pattern}
    {place target : Place}
    {names : List String}
    (wellFormed : tree.WellFormed)
    (noUp : ".." ∉ pattern.stem)
    (leads : pattern.Matches tree place names target) :
    ".." ∉ names := by
  obtain ⟨stemPlace, rest, rfl, _, rfl, isFile, _⟩ := leads
  obtain ⟨content, found⟩ := wellFormed.mem_files.mp isFile
  have below : stemPlace ++ rest ≠ [] := by
    intro isTop
    rw [isTop] at found
    cases found
  have listed := (wellFormed.node?_eq_some below).mp found
  intro member
  rcases List.mem_append.mp member with inStem | inRest
  · exact noUp inStem
  · exact Path.ne_up_of_isName
      (wellFormed.named _ listed ".." (List.mem_append_right _ inRest)) rfl

end Glob

namespace Manifest

/-- The way to a place passes a directory of this name that is not at or above another place. -/
def PassesBelow (home target : Place) (name : String) : Prop :=
  ∃ above rest, target = above ++ name :: rest ∧ rest ≠ [] ∧ ¬above ++ [name] <+: home

/-- An active module names such a directory, or the file itself. -/
def NamedBelow (active : List String) (home target : Place) : Prop :=
  ∃ name ∈ active, PassesBelow home target name ∨ target.getLast? = some name

/-- Which files a pattern of a manifest at home leads to are loaded. -/
structure LoadingLaws
    (tree : FileTree)
    (active : List String)
    (base : Path)
    (home : Place)
    (pattern : Glob.Pattern)
    (file : Path)
    (target : Place)
    (isLoaded : Prop) :
    Prop where
  /-- A directory below home that is named after an active module is enough. -/
  enough : (∃ name ∈ active, PassesBelow home target name) → isLoaded
  /-- The names decide that a relative pattern leads by from home, whatever they lead to. -/
  relative : pattern.absolute = false →
    ∃ names,
      file = base.joinAll names ∧ tree.follow home names = .ok target ∧
        (isLoaded ↔ ∃ name ∈ active, name ∈ names)
  /-- The names decide that an absolute pattern leads by behind the base as it is spelled; all of
  them do if it does not begin like that. -/
  absolute : pattern.absolute = true →
    ∃ names,
      file = Path.top.joinAll names ∧ tree.follow [] names = .ok target ∧
        (isLoaded ↔
          ∃ name ∈ active, name ∈ (file.relativeTo? base).getD ("/" :: names))
  /-- Where a relative pattern leads down only, the name of the file counts as well. -/
  downward : pattern.absolute = false → ".." ∉ pattern.stem →
    (isLoaded ↔ NamedBelow active home target)
  /-- So it does where an absolute pattern leads to a file below home, and nothing leads up. -/
  inside : pattern.absolute = true → ".." ∉ pattern.stem →
    base.absolute = true → ".." ∉ base.segments → home <+: target →
    (isLoaded ↔ NamedBelow active home target)
  /-- An absolute pattern that leads to any other file counts all names from the top. -/
  outside : pattern.absolute = true → ".." ∉ pattern.stem → ¬home <+: target →
    (isLoaded ↔ ∃ name ∈ active, name = "/" ∨ name ∈ target)

/-- Below home the way passes all names but the last one. -/
theorem passesBelow_append_iff
    {home names : Place}
    {name : String} :
    PassesBelow home (home ++ names) name ↔ name ∈ names.dropLast := by
  constructor
  · rintro ⟨above, rest, passes, nonempty, apart⟩
    have behind (before : Place) : name ∈ (before ++ name :: rest).dropLast := by
      rw [List.dropLast_append_of_ne_nil (List.cons_ne_nil name rest),
        List.dropLast_cons_of_ne_nil nonempty]
      exact List.mem_append_right _ List.mem_cons_self
    rcases List.append_eq_append_iff.mp passes with ⟨more, _, split⟩ | ⟨more, isHome, split⟩
    · rw [split]
      exact behind more
    · cases more with
      | nil =>
          rw [List.nil_append] at split
          rw [← split]
          exact behind []
      | cons first more =>
          obtain ⟨rfl, _⟩ := List.cons.inj split
          exact absurd ⟨more, by simp [isHome]⟩ apart
  · intro member
    obtain ⟨before, after, split⟩ := List.append_of_mem member
    have nonempty : names ≠ [] := by
      rintro rfl
      cases member
    refine ⟨home ++ before, after ++ [names.getLast nonempty], ?_, by simp, fun above => ?_⟩
    · have whole := List.dropLast_append_getLast nonempty
      rw [split] at whole
      conv_lhs => rw [← whole]
      simp
    · have longer := above.length_le
      simp only [List.length_append, List.length_singleton] at longer
      omega

/-- Below home the name of a directory or of the file is any of the names. -/
theorem namedBelow_append_iff
    {active : List String}
    {home names : Place}
    (nonempty : names ≠ []) :
    NamedBelow active home (home ++ names) ↔ ∃ name ∈ active, name ∈ names := by
  have inNames (name : String) :
      name ∈ names ↔ name ∈ names.dropLast ∨ names.getLast? = some name := by
    conv_lhs => rw [← List.dropLast_append_getLast nonempty]
    rw [List.mem_append, List.mem_singleton, List.getLast?_eq_some_getLast nonempty,
      Option.some.injEq, eq_comm]
  simp only [NamedBelow, passesBelow_append_iff, inNames, List.getLast?_append_of_ne_nil _ nonempty]

theorem accepts_active_iff
    {active components : List String} :
    (ModuleFilter.active active).accepts components = true ↔
      ∃ name ∈ active, name ∈ components := by
  simp only [ModuleFilter.accepts, List.any_eq_true, decide_eq_true_eq]
  exact ⟨fun ⟨name, inComponents, isActive⟩ => ⟨name, isActive, inComponents⟩,
    fun ⟨name, isActive, inComponents⟩ => ⟨name, inComponents, isActive⟩⟩

section

variable {tree : FileTree} {active : List String} {base : Path} {home : Place}
  {pattern : Glob.Pattern} {names : List String} {target : Place}

/-- A file is not the directory it is below. -/
theorem ne_nil_of_file
    (wellFormed : tree.WellFormed)
    (isDirectory : tree.node? home = some .directory)
    (isFile : home ++ names ∈ tree.files) :
    names ≠ [] := by
  rintro rfl
  obtain ⟨content, found⟩ := wellFormed.mem_files.mp isFile
  rw [List.append_nil, isDirectory] at found
  cases found

/-- The laws hold of what a relative pattern leads to. -/
theorem loadingLaws_of_relative
    (wellFormed : tree.WellFormed)
    (isDirectory : tree.node? home = some .directory)
    (idle : ∀ segment ∈ pattern.stem, Path.isIdle segment = false)
    (relative : pattern.absolute = false)
    (leads : pattern.Matches tree home names target) :
    LoadingLaws tree active base home pattern (base.joinAll names) target
      ((ModuleFilter.active active).accepts
        (filteredComponents base (base.joinAll names)) = true) := by
  have idleNames := leads.isIdle wellFormed idle
  have followed := leads.follow wellFormed
  rw [filteredComponents, Path.relativeTo?_joinAll idleNames, Option.getD_some,
    accepts_active_iff]
  refine
    { enough := ?_, relative := fun _ => ⟨names, rfl, followed, Iff.rfl⟩, absolute := ?_,
      downward := ?_, inside := ?_, outside := ?_ }
  · rintro ⟨name, isActive, above, rest, passes, _, apart⟩
    exact ⟨name, isActive, FileTree.mem_of_follow followed passes apart⟩
  · intro isAbsolute
    cases relative.symm.trans isAbsolute
  · intro _ noUp
    have isTarget := FileTree.eq_append_of_follow idleNames (leads.noUp wellFormed noUp) followed
    have isFile := leads.mem_files
    subst isTarget
    rw [namedBelow_append_iff (ne_nil_of_file wellFormed isDirectory isFile)]
  · intro isAbsolute
    cases relative.symm.trans isAbsolute
  · intro isAbsolute
    cases relative.symm.trans isAbsolute

/-- The laws hold of what an absolute pattern leads to. -/
theorem loadingLaws_of_absolute
    (wellFormed : tree.WellFormed)
    (spelled : base.Spelled)
    (led : tree.behind base = .ok home)
    (isDirectory : tree.node? home = some .directory)
    (idle : ∀ segment ∈ pattern.stem, Path.isIdle segment = false)
    (absolute : pattern.absolute = true)
    (leads : pattern.Matches tree [] names target) :
    LoadingLaws tree active base home pattern (Path.top.joinAll names) target
      ((ModuleFilter.active active).accepts
        (filteredComponents base (Path.top.joinAll names)) = true) := by
  have idleNames := leads.isIdle wellFormed idle
  have followed := leads.follow wellFormed
  have isComponents := Path.components_top_joinAll idleNames
  rw [filteredComponents, isComponents, accepts_active_iff]
  refine
    { enough := ?_, relative := ?_, absolute := fun _ => ⟨names, rfl, followed, Iff.rfl⟩,
      downward := ?_, inside := ?_, outside := ?_ }
  · rintro ⟨name, isActive, above, rest, passes, _, apart⟩
    refine ⟨name, isActive, ?_⟩
    have fromTop : name ∈ names := FileTree.mem_of_follow followed passes (by simp)
    cases behind : (Path.top.joinAll names).relativeTo? base with
    | none => exact List.mem_cons_of_mem _ fromTop
    | some others =>
        rw [Path.relativeTo?, isComponents, Path.dropComponents?_eq_some] at behind
        rw [Option.getD_some]
        rcases Path.eq_of_components_append spelled led behind with rfl | ⟨lead, _, rfl, led⟩
        · exact List.mem_cons_of_mem _ fromTop
        · rw [FileTree.follow_append, led] at followed
          exact FileTree.mem_of_follow followed passes apart
  · intro relative
    cases relative.symm.trans absolute
  · intro relative
    cases relative.symm.trans absolute
  · rintro _ noUp baseAbsolute baseNoUp ⟨others, isTarget⟩
    have isNames : target = names :=
      FileTree.eq_append_of_follow idleNames (leads.noUp wellFormed noUp) followed
    have isFile := leads.mem_files
    obtain rfl := isNames
    subst isTarget
    have behind : (Path.top.joinAll (home ++ others)).relativeTo? base = some others := by
      rw [Path.relativeTo?, isComponents, Path.components_of_noUp baseAbsolute baseNoUp led,
        ← List.cons_append, Path.dropComponents?_append]
    rw [behind, Option.getD_some,
      namedBelow_append_iff (ne_nil_of_file wellFormed isDirectory isFile)]
  · rintro _ noUp beside
    have noUpNames := leads.noUp wellFormed noUp
    have isNames : target = names := FileTree.eq_append_of_follow idleNames noUpNames followed
    have allNames :
        ((Path.top.joinAll names).relativeTo? base).getD ("/" :: names) = "/" :: names := by
      cases behind : (Path.top.joinAll names).relativeTo? base with
      | none => rfl
      | some others =>
          rw [Path.relativeTo?, isComponents, Path.dropComponents?_eq_some] at behind
          rcases Path.eq_of_components_append spelled led behind with
            rfl | ⟨lead, _, split, led⟩
          · rfl
          · have isHome : home = lead := by
              refine FileTree.eq_append_of_follow (fun name member => ?_) (fun member => ?_) led
              · exact idleNames name (split ▸ List.mem_append_left _ member)
              · exact noUpNames (split ▸ List.mem_append_left _ member)
            exact absurd ⟨others, by rw [isHome, isNames, split]⟩ beside
    rw [allNames, isNames]
    simp only [List.mem_cons]

end

/--
A file that a pattern of a manifest leads to is visited if an active module names a directory on its
way that is not at or above the manifest's directory.  What else makes the filter let it through is
the name of the file itself, and names that are spelled on a way that leads up or from the top.
-/
theorem loadingLaws_of_active
    {reader : Reader}
    {active : List String}
    {path base : Path}
    {origin : Place}
    {text : String}
    {pattern : Glob.Pattern}
    (wellFormed : reader.tree.WellFormed)
    (isActive : reader.modules = .active active)
    (spelled : path.Spelled)
    (resolved : reader.tree.resolve path = .ok origin)
    (isFile : origin ∈ reader.tree.files)
    (isBase : path.parent? = some base)
    (parsed : Glob.Pattern.parse? text = some pattern) :
    ∃ loaded,
      (∀ {χ α : Type} [CacheStore χ Json.Value]
        (heading : String)
        (readItem : Json.Value → Option α)
        (visit : Path → Attempt (Reader.Walk χ α) ManifestError Unit)
        (value : Json.Value),
        globOf? value = some text →
          reader.enter heading readItem visit path value = Attempt.each loaded visit) ∧
      loaded.Sublist (pattern.expand reader.tree base) ∧
      ∀ file ∈ pattern.expand reader.tree base,
        ∃ target,
          reader.tree.resolve file = .ok target ∧ target ∈ reader.tree.files ∧
            LoadingLaws reader.tree active base origin.dropLast pattern file target
              (file ∈ loaded) := by
  obtain ⟨other, isOther, led⟩ := wellFormed.parent_of_file resolved isFile
  cases isBase.symm.trans isOther
  obtain ⟨content, found⟩ := wellFormed.mem_files.mp isFile
  have isDirectory := wellFormed.node?_dropLast (by rw [found]; rfl)
  have idle := Glob.isIdle_of_parse? parsed
  have accepted :
      reader.matched path text =
        .ok ((pattern.expand reader.tree base).filter fun file =>
          (ModuleFilter.active active).accepts (filteredComponents base file)) := by
    simp only [Reader.matched, isBase, Option.getD_some, Glob.expand?, parsed, Option.map_some,
      isActive]
  refine ⟨(pattern.expand reader.tree base).filter fun file =>
    (ModuleFilter.active active).accepts (filteredComponents base file), ?_,
      List.filter_sublist, fun file member => ?_⟩
  · intro χ α _ heading readItem visit value isGlob
    unfold Reader.enter
    rw [read?_eq_glob.mpr isGlob]
    dsimp only
    rw [accepted]
    rfl
  · rw [List.mem_filter, and_iff_right member]
    obtain ⟨found, expanded, lists⟩ := Glob.expand_eq_start wellFormed idle led
    rw [expanded] at member
    obtain ⟨names, isFound, rfl⟩ := List.mem_map.mp member
    obtain ⟨_, target, leads⟩ := (lists.mem_iff names).mp isFound
    refine ⟨target, ?_, leads.mem_files, ?_⟩
    · have atDirectory : reader.tree.node? (pattern.startPlace origin.dropLast) =
          some .directory := by
        unfold Glob.Pattern.startPlace
        split
        · rfl
        · exact isDirectory
      rw [Glob.resolve_joinAll (Glob.behind_start pattern led) (leads.isIdle wellFormed idle)
        fun _ => leads.ne_nil wellFormed atDirectory, leads.follow wellFormed]
    · cases isAbsolute : pattern.absolute with
      | false =>
          simp only [Glob.Pattern.start, Glob.Pattern.startPlace, isAbsolute, Bool.false_eq_true,
            if_false] at leads ⊢
          exact loadingLaws_of_relative wellFormed isDirectory idle isAbsolute leads
      | true =>
          simp only [Glob.Pattern.start, Glob.Pattern.startPlace, isAbsolute, if_true] at leads ⊢
          exact loadingLaws_of_absolute wellFormed (spelled.parent isBase) led isDirectory idle
            isAbsolute leads

namespace ActiveModules

/-- A file that is named as an active module, beside a manifest below a directory of that name. -/
def tree : FileTree where
  nodes :=
    [(["w"], .directory),
      (["w", "billing"], .directory),
      (["w", "billing", "app"], .directory),
      (["w", "billing", "app", "m.json"],
        .file "\x7b\"items\":[\x7b\"glob\":\"*\"\x7d]\x7d".toUTF8),
      (["w", "billing", "app", "billing"], .file "\x7b\"items\":[\"beside\"]\x7d".toUTF8)]

def reader : Reader :=
  { tree := tree, digest := id, now := 0, ttl := none, modules := .active ["billing"] }

private theorem wellFormed : tree.WellFormed where
  started := rfl
  unique := by decide
  named := by decide
  placed := by decide

/-- All files beside the manifest. -/
def pattern : Glob.Pattern := { absolute := false, stem := [], steps := [.name "*"] }

private theorem isListed :
    Path.ofText "/w/billing/app/billing" ∈
      pattern.expand reader.tree (.ofText "/w/billing/app") := by
  have led : tree.behind (.ofText "/w/billing/app") = .ok ["w", "billing", "app"] := by
    decide +kernel
  have idle : ∀ segment ∈ pattern.stem, Path.isIdle segment = false := by decide
  obtain ⟨found, expanded, lists⟩ := Glob.expand_eq_start wellFormed idle led
  have leads :
      pattern.Matches tree ["w", "billing", "app"] ["billing"] ["w", "billing", "app", "billing"] :=
    ⟨["w", "billing", "app"], ["billing"], rfl, by decide +kernel, rfl, by decide +kernel,
      by decide +kernel, by simp⟩
  rw [show reader.tree = tree from rfl, expanded, List.mem_map]
  exact ⟨["billing"], (lists.mem_iff _).mpr ⟨nofun, _, leads⟩, by decide⟩

end ActiveModules

/-- A file is loaded for its own name, though its manifest's directory and it share all others. -/
theorem loadingLaws_of_active_of_own_name :
    ActiveModules.reader.tree.WellFormed ∧
      ∃ loaded,
        (∀ visit :
            Path → Attempt (Reader.Walk (BlankCache Json.Value) Json.Value) ManifestError Unit,
          ActiveModules.reader.enter "items" some visit (.ofText "/w/billing/app/m.json")
              (.object [("glob", .string "*")]) =
            Attempt.each loaded visit) ∧
          Path.ofText "/w/billing/app/billing" ∈ loaded ∧
          ¬∃ name ∈ ["billing"],
            PassesBelow ["w", "billing", "app"] ["w", "billing", "app", "billing"] name := by
  obtain ⟨loaded, visits, _, laws⟩ :=
    @loadingLaws_of_active ActiveModules.reader ["billing"] (.ofText "/w/billing/app/m.json")
      (.ofText "/w/billing/app") ["w", "billing", "app", "m.json"] "*" ActiveModules.pattern
      ActiveModules.wellFormed rfl (Path.spelled_ofText _) (by decide +kernel) (by decide)
      (by decide +kernel) (by decide +kernel)
  refine ⟨ActiveModules.wellFormed, loaded, ?_, ?_, ?_⟩
  · intro visit
    exact visits _ _ visit _ (by decide +kernel)
  · obtain ⟨target, resolved, _, followsLaws⟩ :=
      laws (.ofText "/w/billing/app/billing") ActiveModules.isListed
    have known :
        ActiveModules.reader.tree.resolve (.ofText "/w/billing/app/billing") =
          .ok ["w", "billing", "app", "billing"] := by
      decide +kernel
    have isTarget := Except.ok.inj (resolved.symm.trans known)
    refine (followsLaws.downward rfl (by decide)).mpr ⟨"billing", by simp, .inr ?_⟩
    rw [isTarget]
    rfl
  · rintro ⟨name, _, passes⟩
    have member : name ∈ ["billing"].dropLast :=
      (@passesBelow_append_iff ["w", "billing", "app"] ["billing"] name).mp passes
    cases member

end Manifest

end Switchboard
