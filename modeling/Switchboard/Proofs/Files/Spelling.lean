import Switchboard.Proofs.Glob.Matches

namespace Switchboard

/-!
# Paths that are spelled by their texts

A path is spelled by its text if reading the text gives the path back, so that no other such path
has that text.  Paths that are read from texts are, and so are their parents and the files that a
pattern leads to from them.
-/

namespace Text

variable {mark : Char}

theorem cutChars_of_not_mem
    {piece : List Char}
    (free : mark ∉ piece) :
    cutChars mark piece = [piece] := by
  induction piece with
  | nil => rfl
  | cons char piece inductionHypothesis =>
      have differs : char ≠ mark := Ne.symm (List.ne_of_not_mem_cons free)
      rw [cutChars, if_neg differs, inductionHypothesis (List.not_mem_of_not_mem_cons free)]

theorem cutChars_append_cons
    {piece : List Char}
    (free : mark ∉ piece)
    (rest : List Char) :
    cutChars mark (piece ++ mark :: rest) = piece :: cutChars mark rest := by
  induction piece with
  | nil => simp [cutChars]
  | cons char piece inductionHypothesis =>
      have differs : char ≠ mark := Ne.symm (List.ne_of_not_mem_cons free)
      rw [List.cons_append, cutChars, if_neg differs,
        inductionHypothesis (List.not_mem_of_not_mem_cons free)]

/-- Cutting at the mark gives back pieces that were joined with it, if it is in none of them. -/
theorem cutChars_intercalate
    {pieces : List (List Char)}
    (nonempty : pieces ≠ [])
    (free : ∀ piece ∈ pieces, mark ∉ piece) :
    cutChars mark ([mark].intercalate pieces) = pieces := by
  induction pieces with
  | nil => exact absurd rfl nonempty
  | cons piece pieces inductionHypothesis =>
      have freeHere := free piece List.mem_cons_self
      cases pieces with
      | nil => simpa [List.intercalate] using cutChars_of_not_mem freeHere
      | cons next pieces =>
          have later := inductionHypothesis (List.cons_ne_nil next pieces) fun other member =>
            free other (List.mem_cons_of_mem _ member)
          have joined :
              [mark].intercalate (piece :: next :: pieces) =
                piece ++ mark :: [mark].intercalate (next :: pieces) := by
            simp [List.intercalate, List.intersperse]
          rw [joined, cutChars_append_cons freeHere, later]

theorem not_mem_of_mem_cutChars
    {chars piece : List Char}
    (member : piece ∈ cutChars mark chars) :
    mark ∉ piece := by
  induction chars generalizing piece with
  | nil =>
      obtain rfl := List.mem_singleton.mp member
      exact List.not_mem_nil
  | cons char rest inductionHypothesis =>
      rw [cutChars] at member
      split at member
      · rcases List.mem_cons.mp member with rfl | inRest
        · exact List.not_mem_nil
        · exact inductionHypothesis inRest
      · next differs =>
          split at member
          · next none => exact absurd none (cutChars_ne_nil mark rest)
          · next first others cuts =>
              rcases List.mem_cons.mp member with rfl | inRest
              · have freeFirst : mark ∉ first := inductionHypothesis (cuts ▸ List.mem_cons_self)
                exact List.not_mem_cons_of_ne_of_not_mem (Ne.symm differs) freeFirst
              · exact inductionHypothesis (cuts ▸ List.mem_cons_of_mem _ inRest)

theorem not_mem_of_mem_cut
    {text piece : String}
    (member : piece ∈ cut mark text) :
    mark ∉ piece.toList := by
  obtain ⟨chars, isPiece, rfl⟩ := List.mem_map.mp member
  rw [String.toList_ofList]
  exact not_mem_of_mem_cutChars isPiece

end Text

namespace Path

/-- A name that stands for itself between separators. -/
def IsPlain (name : String) : Prop :=
  name ≠ "" ∧ separator ∉ name.toList

/-- A path that is what its text spells. -/
structure Spelled (path : Path) : Prop where
  /-- No segment could be cut in two. -/
  whole : ∀ segment ∈ path.segments, separator ∉ segment.toList
  /-- A path without any text behind its beginning has no segments. -/
  filled : path.segments ≠ [""]
  /-- A relative path does not look like one from the top. -/
  begun : path.absolute = false → path.segments.head? ≠ some ""

theorem spelled_of_no_segments
    {path : Path}
    (none : path.segments = []) :
    path.Spelled := by
  constructor <;> simp [none]

theorem ofText_of_top
    {text : String}
    {rest : List Char}
    (chars : text.toList = separator :: rest)
    (nonempty : rest ≠ []) :
    ofText text =
      { absolute := true, segments := (Text.cutChars separator rest).map String.ofList } := by
  obtain ⟨first, others, rfl⟩ := List.exists_cons_of_ne_nil nonempty
  simp only [ofText, chars, separator, Text.cut, String.toList_ofList]

theorem ofText_of_relative
    {text : String}
    {first : Char}
    {rest : List Char}
    (chars : text.toList = first :: rest)
    (differs : first ≠ separator) :
    ofText text =
      { absolute := false
        segments := (Text.cutChars separator (first :: rest)).map String.ofList } := by
  unfold ofText
  split
  · next empty => cases empty.symm.trans chars
  · next top =>
      cases top.symm.trans chars
      exact absurd rfl differs
  · next top =>
      cases top.symm.trans chars
      exact absurd rfl differs
  · rw [Text.cut, chars]

/-- Pieces that are left of a text do not all come down to nothing. -/
theorem cutSegments_ne_blank
    {chars : List Char}
    (nonempty : chars ≠ []) :
    (Text.cutChars separator chars).map String.ofList ≠ [""] := by
  intro blank
  obtain ⟨piece, alone, isBlank⟩ := List.map_eq_singleton_iff.mp blank
  have isEmpty : piece = [] := by simpa using congrArg String.toList isBlank
  have joined := Text.intercalate_cutChars separator chars
  rw [alone, isEmpty] at joined
  exact nonempty (by simpa [List.intercalate] using joined.symm)

theorem not_mem_of_mem_cutSegments
    {chars : List Char}
    {segment : String}
    (member : segment ∈ (Text.cutChars separator chars).map String.ofList) :
    separator ∉ segment.toList := by
  obtain ⟨piece, isPiece, rfl⟩ := List.mem_map.mp member
  rw [String.toList_ofList]
  exact Text.not_mem_of_mem_cutChars isPiece

theorem spelled_ofText (text : String) : (ofText text).Spelled := by
  cases chars : text.toList with
  | nil => exact spelled_of_no_segments (by simp [ofText, chars])
  | cons first rest =>
      by_cases isTop : first = separator
      · rw [isTop] at chars
        by_cases alone : rest = []
        · exact spelled_of_no_segments (by simp [ofText, chars, alone, separator])
        · rw [ofText_of_top chars alone]
          exact
            { whole := fun _ member => not_mem_of_mem_cutSegments member
              filled := cutSegments_ne_blank alone
              begun := nofun }
      · rw [ofText_of_relative chars isTop]
        refine
          { whole := fun _ member => not_mem_of_mem_cutSegments member
            filled := cutSegments_ne_blank (List.cons_ne_nil first rest)
            begun := fun _ => ?_ }
        -- the first piece begins with the first character
        rw [Text.cutChars, if_neg isTop]
        split <;> simp

/-- Reading the text of a path that is spelled by it gives the path back. -/
theorem ofText_text
    {path : Path}
    (spelled : path.Spelled) :
    ofText path.text = path := by
  obtain ⟨absolute, segments⟩ := path
  obtain ⟨whole, filled, begun⟩ := spelled
  have chars :
      (Path.text ⟨absolute, segments⟩).toList =
        (if absolute then [separator] else []) ++
          [separator].intercalate (segments.map String.toList) := by
    cases absolute <;> simp [Path.text, separator]
  cases segments with
  | nil => cases absolute <;> rfl
  | cons segment others =>
      have free (piece : List Char) (member : piece ∈ (segment :: others).map String.toList) :
          separator ∉ piece := by
        obtain ⟨name, isSegment, rfl⟩ := List.mem_map.mp member
        exact whole name isSegment
      have cuts := Text.cutChars_intercalate (by simp) free
      generalize joined : [separator].intercalate ((segment :: others).map String.toList) = rest
        at chars cuts
      have back :
          (Text.cutChars separator rest).map String.ofList = segment :: others := by
        rw [cuts, List.map_map]
        simp
      have nonempty : rest ≠ [] := by
        rintro rfl
        exact filled (by simpa [Text.cutChars] using back.symm)
      cases absolute with
      | true =>
          have top : (Path.text ⟨true, segment :: others⟩).toList = separator :: rest := chars
          rw [ofText_of_top top nonempty, back]
      | false =>
          obtain ⟨first, more, rfl⟩ := List.exists_cons_of_ne_nil nonempty
          have differs : first ≠ separator := by
            rintro rfl
            rw [Text.cutChars, if_pos rfl] at back
            exact begun rfl (by rw [← back]; rfl)
          rw [ofText_of_relative chars differs, back]

/-- Two paths that are spelled by one text are the same path. -/
theorem Spelled.eq_of_text
    {path other : Path}
    (spelled : path.Spelled)
    (spelledToo : other.Spelled)
    (same : path.text = other.text) :
    path = other := by
  rw [← ofText_text spelled, same, ofText_text spelledToo]

theorem isPrefix_dropIdleEnd (segments : List String) : dropIdleEnd segments <+: segments := by
  obtain ⟨idle, split, _⟩ := dropIdleEnd_append segments
  exact ⟨idle, split.symm⟩

theorem isPrefix_kept (path : Path) : path.kept <+: path.segments := by
  unfold kept
  split
  · unfold front
    split
    · exact List.nil_prefix
    · split
      · next begins =>
          obtain ⟨rest, segments⟩ := List.head?_eq_some_iff.mp begins
          exact ⟨rest, segments.symm⟩
      · exact List.nil_prefix
  · exact isPrefix_dropIdleEnd path.segments

/-- A path does not end with a blank once it is cut after its last component. -/
theorem kept_ne_blank (path : Path) : path.kept ≠ [""] := by
  unfold kept
  split
  · unfold front
    split
    · simp
    · split <;> simp
  · intro blank
    have notIdle := isIdle_of_dropIdleEnd (show dropIdleEnd path.segments = [] ++ [""] from blank)
    simp [isIdle] at notIdle

theorem Spelled.parent
    {path base : Path}
    (spelled : path.Spelled)
    (isParent : path.parent? = some base) :
    base.Spelled := by
  unfold parent? at isParent
  split at isParent
  · cases isParent
  · cases isParent
    let above : Path := { path with segments := path.kept.dropLast }
    have shorter : above.kept <+: path.segments :=
      above.isPrefix_kept.trans ((List.dropLast_prefix path.kept).trans path.isPrefix_kept)
    refine
      { whole := fun segment member => spelled.whole segment (shorter.subset member)
        filled := above.kept_ne_blank
        begun := fun relative begins => ?_ }
    have begins : above.kept.head? = some "" := begins
    refine spelled.begun relative ?_
    obtain ⟨rest, split⟩ := shorter
    rw [← split, List.head?_append, begins]
    rfl

theorem Spelled.join
    {path : Path}
    {name : String}
    (spelled : path.Spelled)
    (plain : IsPlain name) :
    (path.join name).Spelled := by
  obtain ⟨nonempty, free⟩ := plain
  have behind {segments : List String} (shorter : segments <+: path.segments) :
      Spelled { path with segments := segments ++ [name] } := by
    refine
      { whole := fun segment member => ?_
        filled := fun blank => ?_
        begun := fun relative begins => ?_ }
    · rcases List.mem_append.mp member with before | isName
      · exact spelled.whole segment (shorter.subset before)
      · obtain rfl := List.mem_singleton.mp isName
        exact free
    · cases segments with
      | nil => exact nonempty (List.singleton_inj.mp blank)
      | cons segment segments => simp at blank
    · cases segments with
      | nil => exact nonempty (by simpa using begins)
      | cons segment segments =>
          obtain ⟨rest, split⟩ := shorter
          refine spelled.begun relative ?_
          rw [← split]
          exact begins
  unfold Path.join
  split
  · have shorter : path.segments.dropLast <+: path.segments := List.dropLast_prefix _
    exact behind shorter
  · exact behind List.prefix_rfl

theorem Spelled.joinAll
    {path : Path}
    {names : List String}
    (spelled : path.Spelled)
    (plain : ∀ name ∈ names, IsPlain name) :
    (path.joinAll names).Spelled := by
  induction names generalizing path with
  | nil => exact spelled
  | cons name names inductionHypothesis =>
      exact inductionHypothesis (spelled.join (plain name List.mem_cons_self))
        fun other member => plain other (List.mem_cons_of_mem _ member)

end Path

/-- The names of files stand for themselves between separators, as those in a file system do. -/
def FileTree.Named (tree : FileTree) : Prop :=
  ∀ place ∈ tree.files, ∀ name ∈ place, Path.IsPlain name

namespace Glob

/-- The stem of a pattern is made of names. -/
theorem isPlain_of_parse?
    {text : String}
    {pattern : Pattern}
    (parsed : Pattern.parse? text = some pattern) :
    ∀ segment ∈ pattern.stem, Path.IsPlain segment := by
  intro segment member
  refine ⟨?_, ?_⟩
  · exact Path.ne_empty_of_isIdle_eq_false (isIdle_of_parse? parsed segment member)
  · exact Text.not_mem_of_mem_cut
      (List.mem_filter.mp (mem_segments_of_parse? parsed segment member)).1

/-- The files that a pattern leads to are spelled by their texts. -/
theorem spelled_of_mem_expand
    {tree : FileTree}
    {base file : Path}
    {pattern : Pattern}
    (named : tree.Named)
    (plain : ∀ segment ∈ pattern.stem, Path.IsPlain segment)
    (spelled : base.Spelled)
    (member : file ∈ pattern.expand tree base) :
    file.Spelled := by
  have root : (pattern.root base).Spelled := by
    refine Path.Spelled.joinAll ?_ plain
    split
    · exact Path.spelled_of_no_segments rfl
    · exact spelled
  simp only [Pattern.expand] at member
  split at member
  · split at member
    · obtain rfl := List.mem_singleton.mp member
      exact root
    · cases member
  · split at member
    · cases member
    · next place _ =>
        obtain ⟨names, found, rfl⟩ := List.mem_map.mp member
        have isFile := (mem_search.mp found).1
        exact root.joinAll fun name inNames =>
          named _ isFile name (List.mem_append_right _ inNames)

end Glob

end Switchboard
