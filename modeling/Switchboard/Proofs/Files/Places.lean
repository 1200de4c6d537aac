import Mathlib.Data.List.Induction
import Mathlib.Data.List.Nodup
import Switchboard.Files.Tree

namespace Switchboard

/-!
# Places and the paths that lead to them

In a well-formed tree everything is in a directory and has a name of its own there, so the names of
a place lead to it.  A file can be reached by paths of many spellings, but the parents of all of
them lead to the one directory it is in.
-/

namespace Path

/-- Whether a segment can be the name of something in a directory. -/
def isName (segment : String) : Bool :=
  !isIdle segment && segment != ".."

theorem isIdle_eq_false_of_isName
    {segment : String}
    (named : isName segment = true) :
    isIdle segment = false := by
  simp only [isName, Bool.and_eq_true, Bool.not_eq_true'] at named
  exact named.1

theorem ne_empty_of_isIdle_eq_false
    {segment : String}
    (notIdle : isIdle segment = false) :
    segment ≠ "" := by
  rintro rfl
  cases notIdle

theorem ne_up_of_isName
    {segment : String}
    (named : isName segment = true) :
    segment ≠ ".." := by
  simp only [isName, Bool.and_eq_true, bne_iff_ne] at named
  exact named.2

/-- What is dropped from the end of segments is idle. -/
theorem dropIdleEnd_append
    (segments : List String) :
    ∃ idle, segments = dropIdleEnd segments ++ idle ∧ ∀ segment ∈ idle, isIdle segment = true := by
  induction segments with
  | nil => exact ⟨[], rfl, by simp⟩
  | cons segment rest inductionHypothesis =>
      obtain ⟨idle, split, areIdle⟩ := inductionHypothesis
      simp only [dropIdleEnd]
      cases kept : dropIdleEnd rest with
      | nil =>
          rw [kept, List.nil_append] at split
          cases isLast : isIdle segment with
          | true =>
              refine ⟨segment :: rest, by simp, ?_⟩
              intro other member
              rcases List.mem_cons.mp member with rfl | inRest
              · exact isLast
              · exact areIdle other (split ▸ inRest)
          | false => exact ⟨idle, by simp [split], areIdle⟩
      | cons first others =>
          rw [kept] at split
          exact ⟨idle, by simp [split], areIdle⟩

theorem isIdle_of_dropIdleEnd
    {segments init : List String}
    {last : String}
    (kept : dropIdleEnd segments = init ++ [last]) :
    isIdle last = false := by
  induction segments generalizing init with
  | nil => simp [dropIdleEnd] at kept
  | cons segment rest inductionHypothesis =>
      simp only [dropIdleEnd] at kept
      cases keptOfRest : dropIdleEnd rest with
      | nil =>
          rw [keptOfRest] at kept
          cases isLast : isIdle segment with
          | true => simp [isLast] at kept
          | false =>
              simp only [isLast, Bool.false_eq_true, if_false] at kept
              cases init with
              | nil =>
                  obtain rfl := List.singleton_inj.mp kept
                  exact isLast
              | cons other init => simp at kept
      | cons first others =>
          rw [keptOfRest] at kept
          cases init with
          | nil => simp at kept
          | cons other init =>
              have keptToo : dropIdleEnd rest = init ++ [last] := by
                rw [keptOfRest]
                exact (List.cons.inj kept).2
              exact inductionHypothesis keptToo

/-- The segments that names are put behind: all of them but an empty last one. -/
def lead (path : Path) : List String :=
  if path.segments.getLast? = some "" then path.segments.dropLast else path.segments

theorem segments_eq_lead (path : Path) :
    path.segments = path.lead ∨ path.segments = path.lead ++ [""] := by
  unfold lead
  split
  · next isOpen =>
      obtain ⟨init, split⟩ := List.getLast?_eq_some_iff.mp isOpen
      exact .inr (by rw [split, List.dropLast_concat])
  · exact .inl rfl

/-- Only idle segments come after those that names are put behind. -/
theorem lead_append (path : Path) :
    ∃ idle, path.segments = path.lead ++ idle ∧ ∀ segment ∈ idle, isIdle segment = true := by
  rcases path.segments_eq_lead with whole | isOpen
  · exact ⟨[], by rw [List.append_nil, ← whole], by simp⟩
  · exact ⟨[""], isOpen, by simp [isIdle]⟩

theorem join_eq (path : Path) (name : String) :
    path.join name = { path with segments := path.lead ++ [name] } := by
  unfold join lead
  cases last : path.segments.getLast? with
  | none => simp
  | some segment =>
      by_cases isEmpty : segment = ""
      · simp [isEmpty]
      · simp [isEmpty]

/-- Names go behind the segments of a path, one after another. -/
theorem segments_joinAll
    {base : Path}
    {names : List String}
    (nonempty : names ≠ [])
    (named : ∀ name ∈ names, name ≠ "") :
    base.joinAll names = { base with segments := base.lead ++ names } := by
  induction names generalizing base with
  | nil => exact absurd rfl nonempty
  | cons name names inductionHypothesis =>
      have isLead : (base.join name).lead = base.lead ++ [name] := by
        simp [join_eq, lead, named name List.mem_cons_self]
      cases names with
      | nil => exact join_eq base name
      | cons next names =>
          have rest :
              (base.join name).joinAll (next :: names) =
                { base.join name with segments := (base.join name).lead ++ next :: names } :=
            inductionHypothesis (List.cons_ne_nil next names)
              fun other member => named other (List.mem_cons_of_mem _ member)
          show (base.join name).joinAll (next :: names) = _
          rw [rest, isLead, join_eq, List.append_assoc]
          rfl

/-- A name that is not idle takes no part in how a path begins. -/
theorem front_of_lead
    {base : Path}
    {name : String}
    {names : List String}
    (notIdle : isIdle name = false) :
    front { base with segments := base.lead ++ name :: names } = base.front := by
  have notDot : name ≠ "." := by
    rintro rfl
    cases notIdle
  have sameBeginning :
      (base.lead ++ name :: names).head? = some "." ↔ base.segments.head? = some "." := by
    rcases base.segments_eq_lead with whole | isOpen
    · rw [whole]
      cases base.lead <;> simp [notDot]
    · rw [isOpen]
      cases base.lead <;> simp [notDot]
  simp only [front, sameBeginning]

/-- Behind a base, names that are not idle are components of their own. -/
theorem components_joinAll
    {base : Path}
    {names : List String}
    (idle : ∀ name ∈ names, isIdle name = false) :
    (base.joinAll names).components = base.components ++ names := by
  cases names with
  | nil => exact (List.append_nil _).symm
  | cons name names =>
      have named (other : String) (member : other ∈ name :: names) : other ≠ "" :=
        ne_empty_of_isIdle_eq_false (idle other member)
      have keptAll : (name :: names).filter (fun segment => !isIdle segment) = name :: names :=
        List.filter_eq_self.mpr fun other member => by simp [idle other member]
      obtain ⟨ending, split, areIdle⟩ := base.lead_append
      have noneKept : ending.filter (fun segment => !isIdle segment) = [] :=
        List.filter_eq_nil_iff.mpr fun other member => by simp [areIdle other member]
      rw [segments_joinAll (List.cons_ne_nil name names) named]
      simp only [components, front_of_lead (idle name List.mem_cons_self)]
      rw [split, List.filter_append, List.filter_append, keptAll, noneKept, List.append_nil,
        List.append_assoc]

/-- The parent of a path has a text of its own: it is not the empty path. -/
def Housed (path : Path) : Prop :=
  ∀ base, path.parent? = some base → base.isEmpty = false

theorem kept_of_dropIdleEnd
    {path : Path}
    {init : List String}
    {last : String}
    (left : dropIdleEnd path.segments = init ++ [last]) :
    path.kept = init ++ [last] := by
  unfold kept
  rw [left]
  cases init <;> rfl

/-- What is kept of a path is nothing, the single dot of a relative path, or ends with a segment
that says something. -/
theorem kept_cases (path : Path) :
    path.kept = [] ∨ (path.absolute = false ∧ path.kept = ["."]) ∨
      ∃ init last, path.kept = init ++ [last] ∧ isIdle last = false := by
  rcases List.eq_nil_or_concat' (dropIdleEnd path.segments) with noneLeft | ⟨init, last, left⟩
  · cases isAbsolute : path.absolute with
    | true => exact .inl (by simp [kept, noneLeft, isAbsolute])
    | false =>
        by_cases begins : path.segments.head? = some "."
        · exact .inr (.inl ⟨rfl, by simp [kept, noneLeft, isAbsolute, front, begins]⟩)
        · exact .inl (by simp [kept, noneLeft, isAbsolute, front, begins])
  · refine .inr (.inr ⟨init, last, ?_, isIdle_of_dropIdleEnd left⟩)
    exact kept_of_dropIdleEnd left

theorem isEmpty_trimmed
    {path : Path} :
    path.trimmed.isEmpty = true ↔ path.absolute = false ∧ path.kept = [] := by
  simp [isEmpty, trimmed]

/-- A path whose last segment says something is trimmed already. -/
theorem kept_concat
    (path : Path)
    {init : List String}
    {last : String}
    (notIdle : isIdle last = false) :
    kept { path with segments := init ++ [last] } = init ++ [last] := by
  have whole : dropIdleEnd (init ++ [last]) = init ++ [last] := by
    induction init with
    | nil => simp [dropIdleEnd, notIdle]
    | cons first init inductionHypothesis =>
        rw [List.cons_append, dropIdleEnd, inductionHypothesis]
        cases init <;> rfl
  exact kept_of_dropIdleEnd whole

/-- Trimming keeps what was kept. -/
theorem kept_trimmed (path : Path) : path.trimmed.kept = path.kept := by
  rcases path.kept_cases with none | ⟨relative, dot⟩ | ⟨init, last, ends, notIdle⟩
  · rw [trimmed, none]
    simp [kept, dropIdleEnd, front]
  · rw [trimmed, dot]
    simp [kept, dropIdleEnd, front, isIdle, relative]
  · rw [trimmed, ends]
    exact kept_concat path notIdle

/-- Names are put behind all that is kept. -/
theorem lead_trimmed (path : Path) : path.trimmed.lead = path.kept := by
  have notOpen : path.kept.getLast? ≠ some "" := by
    rcases path.kept_cases with none | ⟨_, dot⟩ | ⟨init, last, ends, notIdle⟩
    · simp [none]
    · simp [dot]
    · rw [ends, List.getLast?_concat]
      exact fun blank => ne_empty_of_isIdle_eq_false notIdle (Option.some.inj blank)
  exact if_neg notOpen

/-- A parent ends with its last component. -/
theorem eq_trimmed_of_parent?
    {path base : Path}
    (isBase : path.parent? = some base) :
    ∃ above, base = trimmed above := by
  unfold parent? at isBase
  split at isBase
  · cases isBase
  · exact ⟨_, (Option.some.inj isBase).symm⟩

/-- Names that are put behind the parent of a path have it, or a path behind it, for a parent. -/
theorem Housed.joinAll
    {path base : Path}
    {names : List String}
    (housed : path.Housed)
    (isBase : path.parent? = some base)
    (nonempty : names ≠ [])
    (idle : ∀ name ∈ names, isIdle name = false) :
    (base.joinAll names).Housed := by
  obtain ⟨above, rfl⟩ := eq_trimmed_of_parent? isBase
  obtain ⟨init, last, rfl⟩ := (List.eq_nil_or_concat' names).resolve_left nonempty
  have named (name : String) (member : name ∈ init ++ [last]) : name ≠ "" :=
    ne_empty_of_isIdle_eq_false (idle name member)
  intro parent isParent
  -- the parent is the base itself, with all names but the last behind it
  have isBehind : parent = trimmed { above.trimmed with segments := above.kept ++ init } := by
    rw [segments_joinAll nonempty named, lead_trimmed, ← List.append_assoc] at isParent
    unfold parent? at isParent
    rw [kept_concat above.trimmed (idle last (by simp))] at isParent
    split at isParent
    · cases isParent
    · rw [List.dropLast_concat] at isParent
      exact (Option.some.inj isParent).symm
  rw [isBehind]
  cases empty : isEmpty (trimmed { above.trimmed with segments := above.kept ++ init }) with
  | false => rfl
  | true =>
      obtain ⟨relative, none⟩ := isEmpty_trimmed.mp empty
      have nothing : above.kept = [] := by
        rcases List.eq_nil_or_concat' init with rfl | ⟨others, name, rfl⟩
        · rw [List.append_nil] at none
          rw [← above.kept_trimmed]
          exact none
        · rw [← List.append_assoc, kept_concat _ (idle name (by simp))] at none
          simp at none
      have emptyToo : above.trimmed.isEmpty = true := isEmpty_trimmed.mpr ⟨relative, nothing⟩
      exact absurd ((housed _ isBase).symm.trans emptyToo) Bool.false_ne_true

theorem dropComponents?_append
    (lead rest : List String) :
    dropComponents? lead (lead ++ rest) = some rest := by
  induction lead with
  | nil => rfl
  | cons first lead inductionHypothesis => simpa [dropComponents?] using inductionHypothesis

theorem dropComponents?_eq_some
    {lead whole rest : List String} :
    dropComponents? lead whole = some rest ↔ whole = lead ++ rest := by
  constructor
  · induction lead generalizing whole with
    | nil =>
        intro dropped
        exact Option.some.inj dropped
    | cons first lead inductionHypothesis =>
        intro dropped
        cases whole with
        | nil => cases dropped
        | cons other whole =>
            simp only [dropComponents?] at dropped
            split at dropped
            · next same =>
                rw [same, inductionHypothesis dropped]
                rfl
            · cases dropped
  · rintro rfl
    exact dropComponents?_append lead rest

/-- The names behind a base are what is filtered by and what comparisons see. -/
theorem relativeTo?_joinAll
    {base : Path}
    {names : List String}
    (idle : ∀ name ∈ names, isIdle name = false) :
    (base.joinAll names).relativeTo? base = some names := by
  rw [relativeTo?, components_joinAll idle, dropComponents?_append]

end Path

namespace FileTree

/-- A tree as file systems have them. -/
structure WellFormed (tree : FileTree) : Prop where
  /-- Relative paths start from a directory. -/
  started : tree.node? tree.current = some .directory
  /-- There is one thing at every place. -/
  unique : (tree.nodes.map Prod.fst).Nodup
  /-- Everything has a name that paths can spell. -/
  named : ∀ entry ∈ tree.nodes, ∀ name ∈ entry.1, Path.isName name = true
  /-- The top is not listed, and everything is in a directory. -/
  placed : ∀ entry ∈ tree.nodes,
    entry.1 ≠ [] ∧ tree.node? entry.1.dropLast matches some .directory

theorem follow_append
    (tree : FileTree)
    (place : Place)
    (first second : List String) :
    tree.follow place (first ++ second) =
      (tree.follow place first).bind fun between => tree.follow between second := by
  induction first generalizing place with
  | nil => rfl
  | cons segment first inductionHypothesis =>
      simp only [List.cons_append, follow]
      split
      · rfl
      · rfl
      · split
        · exact inductionHypothesis place
        · split
          · exact inductionHypothesis place.dropLast
          · split
            · exact inductionHypothesis (place ++ [segment])
            · rfl

theorem eq_of_follow_idle
    {tree : FileTree}
    {place target : Place}
    {segments : List String}
    (idle : ∀ segment ∈ segments, Path.isIdle segment = true)
    (followed : tree.follow place segments = .ok target) :
    target = place := by
  induction segments with
  | nil =>
      cases followed
      rfl
  | cons segment rest inductionHypothesis =>
      simp only [follow, idle segment List.mem_cons_self, if_true] at followed
      split at followed
      · cases followed
      · cases followed
      · exact inductionHypothesis
          (fun other member => idle other (List.mem_cons_of_mem _ member)) followed

/-- Segments that neither are idle nor lead up lead to the place they name. -/
theorem eq_append_of_follow
    {tree : FileTree}
    {place target : Place}
    {names : List String}
    (idle : ∀ name ∈ names, Path.isIdle name = false)
    (noUp : ".." ∉ names)
    (followed : tree.follow place names = .ok target) :
    target = place ++ names := by
  induction names generalizing place with
  | nil =>
      cases followed
      exact (List.append_nil _).symm
  | cons name names inductionHypothesis =>
      have idleHere := idle name List.mem_cons_self
      have notUp : name ≠ ".." := Ne.symm (List.ne_of_not_mem_cons noUp)
      simp only [follow, idleHere, Bool.false_eq_true, if_false, if_neg notUp] at followed
      split at followed
      · cases followed
      · cases followed
      · split at followed
        · have rest := inductionHypothesis
            (fun other member => idle other (List.mem_cons_of_mem _ member))
            (List.not_mem_of_not_mem_cons noUp) followed
          rw [rest, List.append_assoc]
          rfl
        · cases followed

/-- Idle segments at the end lead nowhere else. -/
theorem follow_of_append_idle
    {tree : FileTree}
    {place target : Place}
    {segments idle : List String}
    (areIdle : ∀ segment ∈ idle, Path.isIdle segment = true)
    (followed : tree.follow place (segments ++ idle) = .ok target) :
    tree.follow place segments = .ok target := by
  rw [follow_append] at followed
  cases led : tree.follow place segments with
  | error failure =>
      rw [led] at followed
      cases followed
  | ok between =>
      rw [led] at followed
      rw [eq_of_follow_idle areIdle followed]

theorem follow_dropIdleEnd
    {tree : FileTree}
    {place target : Place}
    {segments : List String}
    (followed : tree.follow place segments = .ok target) :
    tree.follow place (Path.dropIdleEnd segments) = .ok target := by
  obtain ⟨idle, split, areIdle⟩ := Path.dropIdleEnd_append segments
  rw [split] at followed
  exact follow_of_append_idle areIdle followed

/-- The end of a path that is no component makes no difference to where it leads. -/
theorem behind_trimmed
    {tree : FileTree}
    {path : Path}
    {place : Place}
    (led : tree.behind path = .ok place) :
    tree.behind path.trimmed = .ok place := by
  have shorter := follow_dropIdleEnd led
  show tree.follow (tree.origin path) path.kept = .ok place
  unfold Path.kept
  split
  · next isIdle =>
      rw [isIdle] at shorter
      cases shorter
      unfold Path.front
      split
      · rfl
      · split
        · next begins =>
            -- the single dot asks of the place itself that it is a directory
            obtain ⟨rest, segments⟩ := List.head?_eq_some_iff.mp begins
            rw [behind, segments, follow] at led
            rw [follow]
            split at led
            · cases led
            · cases led
            · simp [Path.isIdle, follow]
        · rfl
  · exact shorter

/-- Where a path starts from does not depend on its segments. -/
theorem origin_of_segments
    {tree : FileTree}
    (path : Path)
    (segments : List String) :
    tree.origin { path with segments := segments } = tree.origin path := rfl

/-- What names are put behind leads to the same place. -/
theorem follow_lead
    {tree : FileTree}
    {path : Path}
    {place : Place}
    (led : tree.behind path = .ok place) :
    tree.follow (tree.origin path) path.lead = .ok place := by
  obtain ⟨idle, split, areIdle⟩ := path.lead_append
  rw [behind, split] at led
  exact follow_of_append_idle areIdle led

theorem resolve_eq_ok
    {tree : FileTree}
    {path : Path}
    {place : Place} :
    tree.resolve path = .ok place ↔ path.isEmpty = false ∧ tree.behind path = .ok place := by
  unfold resolve
  cases path.isEmpty <;> simp

variable {tree : FileTree}

/-- In a well-formed tree what is listed for a place is there. -/
theorem WellFormed.node?_eq_some
    (wellFormed : tree.WellFormed)
    {place : Place}
    {node : Node}
    (below : place ≠ []) :
    tree.node? place = some node ↔ (place, node) ∈ tree.nodes := by
  have looked : tree.node? place = tree.nodes.lookup place := by
    cases place with
    | nil => exact absurd rfl below
    | cons name names => rfl
  rw [looked]
  constructor
  · intro found
    obtain ⟨before, after, split, _⟩ := List.lookup_eq_some_iff.mp found
    rw [split]
    exact List.mem_append_right _ List.mem_cons_self
  · intro listed
    obtain ⟨before, after, split⟩ := List.append_of_mem listed
    refine List.lookup_eq_some_iff.mpr ⟨before, after, split, fun entry member => ?_⟩
    have unique := wellFormed.unique
    rw [split, List.map_append, List.map_cons] at unique
    have apart := (List.nodup_middle.mp unique).notMem
    simp only [bne_iff_ne, ne_eq]
    intro same
    exact apart (List.mem_append_left _ (List.mem_map.mpr ⟨entry, member, same.symm⟩))

theorem WellFormed.mem_files
    (wellFormed : tree.WellFormed)
    {place : Place} :
    place ∈ tree.files ↔ ∃ content, tree.node? place = some (.file content) := by
  have listed :
      place ∈ tree.files ↔ ∃ content, (place, Node.file content) ∈ tree.nodes := by
    simp only [files, List.mem_filterMap]
    constructor
    · rintro ⟨⟨other, node⟩, member, same⟩
      cases node with
      | file content =>
          cases same
          exact ⟨content, member⟩
      | directory => cases same
    · rintro ⟨content, member⟩
      exact ⟨(place, .file content), member, rfl⟩
  rw [listed]
  constructor
  · rintro ⟨content, member⟩
    exact ⟨content,
      (wellFormed.node?_eq_some (wellFormed.placed _ member).1).mpr member⟩
  · rintro ⟨content, found⟩
    have below : place ≠ [] := by
      rintro rfl
      cases found
    exact ⟨content, (wellFormed.node?_eq_some below).mp found⟩

theorem WellFormed.isFile_iff
    (wellFormed : tree.WellFormed)
    {path : Path} :
    tree.isFile path = true ↔ ∃ place, tree.resolve path = .ok place ∧ place ∈ tree.files := by
  simp only [isFile, read, wellFormed.mem_files]
  cases tree.resolve path with
  | error failure => simp [bind, Except.bind]
  | ok place =>
      cases found : tree.node? place with
      | none => simp [bind, Except.bind, found]
      | some node => cases node <;> simp [bind, Except.bind, found]

theorem directory?_eq_some
    {path : Path}
    {place : Place} :
    tree.directory? path = some place ↔
      tree.resolve path = .ok place ∧ tree.node? place = some .directory := by
  unfold directory?
  cases tree.resolve path with
  | error failure => simp
  | ok other =>
      simp only [Except.ok.injEq]
      cases found : tree.node? other with
      | none =>
          constructor
          · intro none
            cases none
          · rintro ⟨rfl, isDirectory⟩
            cases found.symm.trans isDirectory
      | some node =>
          cases node with
          | file content =>
              constructor
              · intro none
                cases none
              · rintro ⟨rfl, isDirectory⟩
                cases found.symm.trans isDirectory
          | directory =>
              constructor
              · intro same
                cases same
                exact ⟨rfl, found⟩
              · rintro ⟨rfl, _⟩
                rfl

theorem WellFormed.nodup_files (wellFormed : tree.WellFormed) : tree.files.Nodup := by
  have places :
      tree.files.Sublist (tree.nodes.map Prod.fst) := by
    have asMap : tree.nodes.map Prod.fst = tree.nodes.filterMap fun entry => some entry.1 := by
      simp
    rw [asMap, files]
    induction tree.nodes with
    | nil => exact .slnil
    | cons entry entries inductionHypothesis =>
        obtain ⟨place, node⟩ := entry
        cases node with
        | file content => exact inductionHypothesis.cons_cons place
        | directory => exact inductionHypothesis.cons place
  exact wellFormed.unique.sublist places

/-- Whatever there is, is in a directory. -/
theorem WellFormed.node?_dropLast
    (wellFormed : tree.WellFormed)
    {place : Place}
    (present : (tree.node? place).isSome = true) :
    tree.node? place.dropLast = some .directory := by
  cases place with
  | nil => rfl
  | cons name names =>
      obtain ⟨node, found⟩ := Option.isSome_iff_exists.mp present
      have member := (wellFormed.node?_eq_some (List.cons_ne_nil name names)).mp found
      have placed := (wellFormed.placed _ member).2
      split at placed
      · assumption
      · cases placed

/-- A file is in a directory. -/
theorem WellFormed.node?_dropLast_of_file
    (wellFormed : tree.WellFormed)
    {place : Place}
    (isFile : place ∈ tree.files) :
    tree.node? place.dropLast = some .directory := by
  obtain ⟨content, found⟩ := wellFormed.mem_files.mp isFile
  exact wellFormed.node?_dropLast (by rw [found]; rfl)

/-- Every place on the way to something is a directory. -/
theorem WellFormed.node?_of_append
    (wellFormed : tree.WellFormed)
    {place : Place}
    {name : String}
    {rest : List String}
    (present : (tree.node? (place ++ name :: rest)).isSome = true) :
    tree.node? place = some .directory := by
  induction rest using List.reverseRecOn with
  | nil =>
      have above := wellFormed.node?_dropLast present
      rwa [List.dropLast_concat] at above
  | append_singleton rest last inductionHypothesis =>
      have above := wellFormed.node?_dropLast present
      rw [← List.cons_append, ← List.append_assoc, List.dropLast_concat] at above
      exact inductionHypothesis (by rw [above]; rfl)

/-- The names of a place lead to it. -/
theorem WellFormed.follow_names
    (wellFormed : tree.WellFormed)
    {place : Place}
    {names : List String}
    (present : (tree.node? (place ++ names)).isSome = true) :
    tree.follow place names = .ok (place ++ names) := by
  induction names generalizing place with
  | nil => simp [follow]
  | cons name rest inductionHypothesis =>
      have isDirectory := wellFormed.node?_of_append present
      obtain ⟨node, found⟩ := Option.isSome_iff_exists.mp present
      have member := (wellFormed.node?_eq_some (by simp)).mp found
      have named := wellFormed.named _ member name (by simp)
      have presentHere : (tree.node? (place ++ [name])).isSome = true := by
        cases rest with
        | nil => exact present
        | cons next rest =>
            have presentNext : (tree.node? (place ++ [name] ++ next :: rest)).isSome = true := by
              simpa using present
            rw [wellFormed.node?_of_append presentNext]
            rfl
      have presentOn : (tree.node? (place ++ [name] ++ rest)).isSome = true := by
        simpa using present
      have onward := inductionHypothesis presentOn
      simp only [follow, isDirectory, Path.isIdle_eq_false_of_isName named, Bool.false_eq_true,
        if_false, if_neg (Path.ne_up_of_isName named), if_pos presentHere, onward]
      simp

/-- The names on the way to a file lead to where they say. -/
theorem WellFormed.follow_of_file_behind
    (wellFormed : tree.WellFormed)
    {place : Place}
    {names rest : List String}
    (isFile : place ++ (names ++ rest) ∈ tree.files) :
    tree.follow place names = .ok (place ++ names) := by
  obtain ⟨content, found⟩ := wellFormed.mem_files.mp isFile
  rw [← List.append_assoc] at found
  apply wellFormed.follow_names
  cases rest with
  | nil =>
      rw [List.append_nil] at found
      rw [found]
      rfl
  | cons name rest =>
      rw [wellFormed.node?_of_append (by rw [found]; rfl)]
      rfl

/-- Where a path leads that does not end by staying where it is. -/
theorem WellFormed.follow_concat
    (wellFormed : tree.WellFormed)
    {start place : Place}
    {init : List String}
    {last : String}
    (notIdle : Path.isIdle last = false)
    (followed : tree.follow start (init ++ [last]) = .ok place)
    (isFile : place ∈ tree.files) :
    tree.follow start init = .ok place.dropLast := by
  obtain ⟨content, found⟩ := wellFormed.mem_files.mp isFile
  rw [follow_append] at followed
  cases led : tree.follow start init with
  | error failure =>
      rw [led] at followed
      cases followed
  | ok between =>
      rw [led] at followed
      simp only [Except.bind, follow, notIdle, Bool.false_eq_true, if_false] at followed
      split at followed
      · cases followed
      · cases followed
      · next isDirectory =>
          split at followed
          · -- a path that ends by going up leads to a directory
            cases followed
            have above := wellFormed.node?_dropLast (by rw [isDirectory]; rfl)
            rw [above] at found
            cases found
          · split at followed
            · cases followed
              rw [List.dropLast_concat]
            · cases followed

/-- A path starts from a directory. -/
theorem WellFormed.node?_origin (wellFormed : tree.WellFormed) (path : Path) :
    tree.node? (tree.origin path) = some .directory := by
  unfold origin
  split
  · rfl
  · exact wellFormed.started

/-- Names behind the parent of a path to a file lead on from the directory the file is in. -/
theorem WellFormed.parent_of_file
    (wellFormed : tree.WellFormed)
    {path : Path}
    {place : Place}
    (resolved : tree.resolve path = .ok place)
    (isFile : place ∈ tree.files) :
    ∃ base, path.parent? = some base ∧ tree.behind base = .ok place.dropLast := by
  obtain ⟨content, found⟩ := wellFormed.mem_files.mp isFile
  obtain ⟨_, led⟩ := resolve_eq_ok.mp resolved
  have followed : tree.follow (tree.origin path) (Path.dropIdleEnd path.segments) = .ok place :=
    follow_dropIdleEnd led
  rcases List.eq_nil_or_concat' (Path.dropIdleEnd path.segments) with isIdle | ⟨init, last, split⟩
  · -- a path that only stays where it starts leads to a directory
    rw [isIdle] at followed
    cases followed
    cases (wellFormed.node?_origin path).symm.trans found
  · have isKept : path.kept = init ++ [last] := Path.kept_of_dropIdleEnd split
    rw [split] at followed
    have above := wellFormed.follow_concat (Path.isIdle_of_dropIdleEnd split) followed isFile
    refine ⟨Path.trimmed { path with segments := init }, ?_, behind_trimmed above⟩
    unfold Path.parent?
    rw [isKept]
    cases init with
    | nil => rfl
    | cons first init => simp [List.dropLast_cons_of_ne_nil]

end FileTree

end Switchboard
