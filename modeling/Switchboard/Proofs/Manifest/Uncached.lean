import Switchboard.Proofs.Attempt.Agreement
import Switchboard.Proofs.Cache.Recalls
import Switchboard.Proofs.Files.Spelling
import Switchboard.Proofs.Manifest.Visit
import Switchboard.Proofs.Service.KeyText

namespace Switchboard.Manifest

/-!
# Reading without a cache

A reader with a cache answers every question as one without does, as long as the files stay as
they are.  What carries this is that the cache is given nothing but documents of files, each under
a key that no other spelling of a path has; a walk through manifests tells files apart by their
places instead, and this goes on beside it.

Two things can come in between.  The key is made from the path as it is shown, and names that are
no text may be shown alike although they are names of different files: `Told` rules that out.  And
the cache may panic over a lifetime that goes beyond its clock: then there is no answer at all.
-/

variable {α χ : Type}

/-- What a reader can be asked for: a document, or the items of a section. -/
inductive Question (α : Type) where
  | document (path : String)
  | entries (path heading : String) (readItem : Json.Value → Option α)

/-- What a reader answers, be it a failure. -/
inductive Answer (α : Type) where
  | document (outcome : Except ManifestError Json.Value)
  | entries (outcome : Except ManifestError (List α))

/-- The items of an answer, if it has any. -/
def Answer.items? : Answer α → Option (List α)
  | .document _ => none
  | .entries outcome => outcome.toOption

namespace Reader

/-- The same reader at another time. -/
def asOf (reader : Reader) (now : Instant) : Reader :=
  { reader with now := now }

/-- Answer a question. -/
def ask [CacheStore χ Json.Value] (reader : Reader) : Question α → Attempt χ Empty (Answer α)
  | .document path => do
      let outcome ← (reader.read (.ofText path)).settle
      pure (.document outcome)
  | .entries path heading readItem => do
      let outcome ← (reader.entries heading readItem (.ofText path)).settle
      pure (.entries outcome)

/-- Answer questions one after another, each at its time. -/
def askAll [CacheStore χ Json.Value] (reader : Reader) :
    List (Instant × Question α) → Attempt χ Empty (List (Answer α))
  | [] => pure []
  | (now, question) :: rest => do
      let answer ← (reader.asOf now).ask question
      let answers ← reader.askAll rest
      pure (answer :: answers)

/-- Paths that are shown alike do not lead to different documents. -/
def Told (reader : Reader) : Prop :=
  ∀ path other : Path, path.Spelled → other.Spelled → reader.shown path = reader.shown other →
    ∀ document, reader.readFile path = .ok document → reader.readFile other = .ok document

/-- Storing a document does not panic at the time of a question, whatever a cache was used for. -/
def StoresFor [CacheStore χ Json.Value]
    (reader : Reader)
    (questions : List (Instant × Question α))
    (start : χ) :
    Prop :=
  ∀ deposits cache, Arises start deposits cache → ∀ question ∈ questions,
    CacheStore.stops cache question.1 reader.ttl = false

/-- Without a cache a reader answers all questions.  With one it answers alike, if it comes back,
and it does so if there is no reason for a panic. -/
def AnswersAsUncached [CacheStore χ Json.Value]
    (reader : Reader)
    (questions : List (Instant × Question α))
    (cache : χ)
    (calm : Prop) :
    Prop :=
  ∃ answers,
    reader.askAll questions (BlankCache.blank : BlankCache Json.Value) =
        some (.ok answers, .blank) ∧
      (∀ outcome after,
        reader.askAll questions cache = some (outcome, after) → outcome = .ok answers) ∧
      (calm → ∃ after, reader.askAll questions cache = some (.ok answers, after))

/-- What a cache has been given since it started is what is in the files. -/
def Backs [CacheStore χ Json.Value] (reader : Reader) (start cache : χ) : Prop :=
  ∃ deposits, Arises start deposits cache ∧
    ∀ path document, path.Spelled →
      deposits.lookup (reader.keyOf path) = some document →
        reader.readFile path = .ok document

/-- The places that were visited. -/
def opened (visited : List (List String)) : List Place :=
  visited.filterMap (Path.dropComponents? ["/"])

end Reader

theorem Reader.mem_opened
    {visited : List (List String)}
    {place : Place} :
    place ∈ opened visited ↔ "/" :: place ∈ visited := by
  simp only [opened, List.mem_filterMap, Path.dropComponents?_eq_some]
  constructor
  · rintro ⟨identity, isVisited, rfl⟩
    exact isVisited
  · intro isVisited
    exact ⟨_, isVisited, rfl⟩

/-- Two walks that have come equally far, one of them without a cache, with fewer files than a
bound left to be opened. -/
structure SideBySide [CacheStore χ Json.Value]
    (reader : Reader)
    (start : χ)
    (bound : Nat)
    (left : Reader.Walk χ α)
    (right : Reader.Walk (BlankCache Json.Value) α) :
    Prop where
  visited : left.visited = right.visited
  found : left.found = right.found
  backed : reader.Backs start left.cache
  bounded : reader.unvisited (Reader.opened left.visited) < bound

section

variable
  [CacheStore χ Json.Value]
  {reader : Reader}
  {start : χ}
  {heading : String}
  {readItem : Json.Value → Option α}
  {reason : Prop}

/-- Paths are told apart by their texts, so nothing is mixed up if these are what is shown. -/
theorem Reader.told_of_text
    (texts : reader.shown = Path.text) :
    reader.Told := by
  intro path other spelled spelledToo same document content
  rw [texts] at same
  rwa [← spelled.eq_of_text spelledToo same]

/-- Without collisions of the digest, paths with the same key are shown alike. -/
theorem shown_eq_of_keyOf
    {path other : Path}
    (apart : Function.Injective reader.digest)
    (same : reader.keyOf path = reader.keyOf other) :
    reader.shown path = reader.shown other :=
  apart ((String.append_right_inj _).mp same)

/-- A panic of a cache that has arisen from another one is a reason not to come back. -/
def Excuses (reader : Reader) (start : χ) (reason : Prop) : Prop :=
  ∀ deposits cache, Arises start deposits cache →
    CacheStore.stops cache reader.now reader.ttl = true → reason

/-- A reader reads what is in the files, and gives the cache nothing else. -/
theorem Reader.Backs.read
    {cache : χ}
    {path : Path}
    (recalls : Recalls start)
    (apart : Function.Injective reader.digest)
    (told : reader.Told)
    (excuses : Excuses reader start reason)
    (spelled : path.Spelled)
    (backed : reader.Backs start cache) :
    (reader.read path cache = none ∧ reason) ∨
      ∃ after,
        reader.read path cache = some (reader.readFile path, after) ∧
          reader.Backs start after := by
  obtain ⟨deposits, arises, inFiles⟩ := backed
  have stored (cache : χ) (document : Json.Value)
      (backed : reader.Backs start cache)
      (goes : CacheStore.stops cache reader.now reader.ttl = false)
      (content : reader.readFile path = .ok document) :
      reader.Backs start
        (CacheStore.set cache reader.now (reader.keyOf path) document reader.ttl).2 := by
    obtain ⟨deposits, arises, inFiles⟩ := backed
    refine ⟨_, arises.set _ _ document _ goes, fun file written isSpelled found => ?_⟩
    rw [lookup_cons_deposit] at found
    split at found
    · next sameKey =>
        cases found
        exact told path file spelled isSpelled (shown_eq_of_keyOf apart sameKey) document content
    · exact inFiles file written isSpelled found
  rcases Reader.read_eq_readFile ⟨deposits, arises.get _ _, inFiles⟩
      (fun document answered =>
        inFiles path document spelled (recalls deposits cache arises _ _ _ answered))
      stored with
    ⟨panicked, between, ⟨_, arisesToo, _⟩, stops⟩ | read
  · exact .inl ⟨panicked, excuses _ between arisesToo stops⟩
  · exact .inr read

/-- Without a cache a reader reads the file every time. -/
theorem Reader.read_blank
    (reader : Reader)
    (path : Path)
    (nothing : BlankCache Json.Value) :
    reader.read path nothing = some (reader.readFile path, nothing) := by
  have unanswered :
      CacheStore.get nothing reader.now (reader.keyOf path) = (none, nothing) := rfl
  simp only [Reader.read, Attempt.changing_bind, unanswered]
  cases reader.readFile path <;> rfl

/-- A file that could be read is one of the tree. -/
theorem Reader.mem_files_of_readFile
    {path : Path}
    {document : Json.Value}
    (content : reader.readFile path = .ok document) :
    ∃ place, reader.tree.resolve path = .ok place ∧ place ∈ reader.tree.files := by
  unfold Reader.readFile FileTree.readText FileTree.read at content
  cases resolved : reader.tree.resolve path with
  | error failure => simp [resolved, bind, Except.bind] at content
  | ok place =>
      refine ⟨place, rfl, ?_⟩
      cases found : reader.tree.node? place with
      | none => simp [resolved, found, bind, Except.bind] at content
      | some node =>
          cases node with
          | directory => simp [resolved, found, bind, Except.bind] at content
          | file bytes =>
              cases place with
              | nil => cases found
              | cons name names =>
                  obtain ⟨before, after, split, _⟩ := List.lookup_eq_some_iff.mp found
                  exact List.mem_filterMap.mpr
                    ⟨(name :: names, .file bytes), by simp [split], rfl⟩

/-- The files that a pattern in a manifest leads to are spelled by their texts. -/
theorem Reader.spelled_of_matched
    {path : Path}
    {text : String}
    {files : List Path}
    (named : reader.tree.Named)
    (spelled : path.Spelled)
    (matched : reader.matched path text = .ok files) :
    ∀ file ∈ files, file.Spelled := by
  have isBase : (path.parent?.getD (Path.ofText ".")).Spelled := by
    cases isParent : path.parent? with
    | none => exact Path.spelled_ofText "."
    | some base => exact spelled.parent isParent
  simp only [Reader.matched, Glob.expand?] at matched
  cases parsed : Glob.Pattern.parse? text with
  | none => simp [parsed] at matched
  | some pattern =>
      simp only [parsed, Option.map_some, Except.ok.injEq] at matched
      intro file member
      rw [← matched] at member
      exact Glob.spelled_of_mem_expand named (Glob.isPlain_of_parse? parsed) isBase
        (List.mem_filter.mp member).1

namespace SideBySide

variable
  {bound : Nat}
  {left : Reader.Walk χ α}
  {right : Reader.Walk (BlankCache Json.Value) α}

/-- Visiting leaves no more files to be opened. -/
theorem visiting
    (sideBySide : SideBySide reader start bound left right)
    (identity : List String) :
    SideBySide reader start bound
      { left with visited := identity :: left.visited }
      { right with visited := identity :: right.visited } where
  visited := congrArg (identity :: ·) sideBySide.visited
  found := sideBySide.found
  backed := sideBySide.backed
  bounded :=
    Nat.lt_of_le_of_lt
      (Reader.unvisited_le fun _ isOpened =>
        Reader.mem_opened.mpr (List.mem_cons_of_mem _ (Reader.mem_opened.mp isOpened)))
      sideBySide.bounded

/-- Visiting a file that was not opened before leaves fewer to be opened. -/
theorem opening
    {place : Place}
    (sideBySide : SideBySide reader start (bound + 1) left right)
    (isFile : place ∈ reader.tree.files)
    (isNew : "/" :: place ∉ left.visited) :
    SideBySide reader start bound
      { left with visited := ("/" :: place) :: left.visited }
      { right with visited := ("/" :: place) :: right.visited } := by
  have fewer : reader.unvisited (Reader.opened (("/" :: place) :: left.visited)) ≤
      reader.unvisited (Reader.opened left.visited ++ [place]) := by
    refine Reader.unvisited_le fun other member => Reader.mem_opened.mpr ?_
    rcases List.mem_append.mp member with before | isPlace
    · exact List.mem_cons_of_mem _ (Reader.mem_opened.mp before)
    · obtain rfl := List.mem_singleton.mp isPlace
      exact List.mem_cons_self
  have lessThan := Reader.unvisited_lt isFile (mt Reader.mem_opened.mp isNew)
  have bounded := sideBySide.bounded
  exact
    { sideBySide.visiting ("/" :: place) with
      bounded := Nat.lt_of_le_of_lt fewer (by omega) }

theorem widen
    (sideBySide : SideBySide reader start bound left right) :
    SideBySide reader start (bound + 1) left right :=
  { sideBySide with bounded := Nat.lt_succ_of_lt sideBySide.bounded }

theorem finding
    (sideBySide : SideBySide reader start bound left right)
    (item : α) :
    SideBySide reader start bound
      { left with found := left.found ++ [item] }
      { right with found := right.found ++ [item] } :=
  { sideBySide with found := congrArg (· ++ [item]) sideBySide.found }

theorem reading
    {after : χ}
    (sideBySide : SideBySide reader start bound left right)
    (backed : reader.Backs start after) :
    SideBySide reader start bound { left with cache := after } right :=
  { sideBySide with backed := backed }

end SideBySide

/-- What follows after an entry is the same for both walks. -/
theorem agrees_enter
    {bound : Nat}
    {path : Path}
    {visit : Path → Attempt (Reader.Walk χ α) ManifestError Unit}
    {visitToo : Path → Attempt (Reader.Walk (BlankCache Json.Value) α) ManifestError Unit}
    (named : reader.tree.Named)
    (visits : ∀ file, file.Spelled →
      Attempt.Agrees reason (SideBySide reader start bound) (visit file) (visitToo file))
    (spelled : path.Spelled)
    (value : Json.Value) :
    Attempt.Agrees reason (SideBySide reader start bound)
      (reader.enter heading readItem visit path value)
      (reader.enter heading readItem visitToo path value) := by
  unfold Reader.enter
  cases Entry.read? readItem value with
  | none => exact .fail _
  | some entry =>
      cases entry with
      | item content =>
          exact .changing fun _ _ sideBySide => ⟨rfl, sideBySide.finding content⟩
      | glob text =>
          dsimp only
          cases matched : reader.matched path text with
          | error error => exact .fail error
          | ok files =>
              exact .each fun file member =>
                visits file (Reader.spelled_of_matched named spelled matched file member)

/-- Visiting the same file keeps two walks side by side, and comes to an end. -/
theorem agrees_visit
    (named : reader.tree.Named)
    (recalls : Recalls start)
    (apart : Function.Injective reader.digest)
    (told : reader.Told)
    (excuses : Excuses reader start reason)
    (fuel : Nat)
    {path : Path}
    (spelled : path.Spelled) :
    Attempt.Agrees reason (SideBySide reader start fuel)
      (reader.visit heading readItem fuel path)
      (reader.visit heading readItem fuel path) := by
  induction fuel generalizing path with
  | zero => exact fun _ _ sideBySide => absurd sideBySide.bounded (Nat.not_lt_zero _)
  | succ fuel inductionHypothesis =>
      intro left right sideBySide
      simp only [Reader.visit, Attempt.reading_bind, ← sideBySide.visited]
      by_cases isVisited : reader.identity path ∈ left.visited
      · simp only [isVisited, decide_true, if_true]
        exact .inr ⟨.ok (), left, right, rfl, rfl, sideBySide⟩
      simp only [isVisited, decide_false, Bool.false_eq_true, if_false, Attempt.changing_bind]
      rcases sideBySide.backed.read recalls apart told excuses spelled with
        ⟨panicked, why⟩ | ⟨after, read, backed⟩
      · exact .inl ⟨by rw [Attempt.bind_apply, Attempt.focus, panicked], why⟩
      have noted := (sideBySide.visiting (reader.identity path)).reading backed
      rw [Attempt.bind_apply, Attempt.bind_apply,
        Reader.readOn { left with visited := reader.identity path :: left.visited } read,
        Reader.readOn { right with visited := reader.identity path :: right.visited }
          (reader.read_blank path right.cache)]
      cases content : reader.readFile path with
      | error error => exact .inr ⟨.error error, _, _, rfl, rfl, noted⟩
      | ok document =>
          -- the file is no longer left, so there is fuel for what its entries lead to
          obtain ⟨place, resolved, isFile⟩ := Reader.mem_files_of_readFile content
          have identity : reader.identity path = "/" :: place := by
            simp only [Reader.identity, resolved]
          rw [identity] at isVisited noted ⊢
          have opened := (sideBySide.opening isFile isVisited).reading backed
          have onward :
              Attempt.Agrees reason (SideBySide reader start fuel)
                (Attempt.ofExcept (Reader.sectionItems path heading document) >>= fun items =>
                  Attempt.each items
                    (reader.enter heading readItem (reader.visit heading readItem fuel) path))
                (Attempt.ofExcept (Reader.sectionItems path heading document) >>= fun items =>
                  Attempt.each items
                    (reader.enter heading readItem (reader.visit heading readItem fuel) path)) :=
            .bind (.ofExcept _) fun items => .each fun value _ =>
              agrees_enter named (fun file isSpelled => inductionHypothesis isSpelled) spelled value
          rcases onward _ _ opened with
            stopped | ⟨outcome, leftAfter, rightAfter, ended, endedToo, sideBySideAfter⟩
          · exact .inl stopped
          · exact .inr ⟨outcome, leftAfter, rightAfter, ended, endedToo, sideBySideAfter.widen⟩

/-- Caches beside nothing, as questions find them. -/
def BesideNothing (reader : Reader) (start cache : χ) (_ : BlankCache Json.Value) : Prop :=
  reader.Backs start cache

theorem agrees_read
    {path : Path}
    (recalls : Recalls start)
    (apart : Function.Injective reader.digest)
    (told : reader.Told)
    (excuses : Excuses reader start reason)
    (spelled : path.Spelled) :
    Attempt.Agrees reason (BesideNothing reader start) (reader.read path) (reader.read path) := by
  intro cache nothing backed
  rcases Reader.Backs.read recalls apart told excuses spelled backed with
    panicked | ⟨after, read, backedAfter⟩
  · exact .inl panicked
  · exact .inr ⟨_, after, nothing, read, reader.read_blank path nothing, backedAfter⟩

theorem agrees_entries
    {path : Path}
    (named : reader.tree.Named)
    (recalls : Recalls start)
    (apart : Function.Injective reader.digest)
    (told : reader.Told)
    (excuses : Excuses reader start reason)
    (spelled : path.Spelled) :
    Attempt.Agrees reason (BesideNothing reader start)
      (reader.entries heading readItem path)
      (reader.entries heading readItem path) := by
  intro cache nothing backed
  have sideBySide :
      SideBySide reader start reader.depth
        ({ visited := [], found := [], cache := cache } : Reader.Walk χ α)
        { visited := [], found := [], cache := nothing } :=
    { visited := rfl
      found := rfl
      backed := backed
      bounded := Nat.lt_of_le_of_lt List.countP_le_length (Nat.lt_add_of_pos_right (by decide)) }
  unfold Reader.entries
  rcases agrees_visit named recalls apart told excuses reader.depth spelled _ _ sideBySide with
    ⟨panicked, why⟩ | ⟨outcome, leftAfter, rightAfter, ended, endedToo, after⟩
  · exact .inl ⟨by rw [panicked], why⟩
  · rw [ended, endedToo]
    cases outcome with
    | error error => exact .inr ⟨.error error, _, _, rfl, rfl, after.backed⟩
    | ok value => exact .inr ⟨.ok leftAfter.found, _, _, rfl, by rw [after.found], after.backed⟩

theorem agrees_ask
    (named : reader.tree.Named)
    (recalls : Recalls start)
    (apart : Function.Injective reader.digest)
    (told : reader.Told)
    (excuses : Excuses reader start reason)
    (question : Question α) :
    Attempt.Agrees reason (BesideNothing reader start)
      (reader.ask question) (reader.ask question) := by
  cases question with
  | document path =>
      exact .bind (agrees_read recalls apart told excuses (Path.spelled_ofText path)).settle
        fun _ => .pure _
  | entries path heading readItem =>
      exact .bind
        (agrees_entries named recalls apart told excuses (Path.spelled_ofText path)).settle
        fun _ => .pure _

theorem agrees_askAll
    (named : reader.tree.Named)
    (recalls : Recalls start)
    (apart : Function.Injective reader.digest)
    (told : reader.Told)
    (questions : List (Instant × Question α))
    (excuses : ∀ question ∈ questions, Excuses (reader.asOf question.1) start reason) :
    Attempt.Agrees reason (BesideNothing reader start)
      (reader.askAll questions) (reader.askAll questions) := by
  induction questions with
  | nil => exact .pure []
  | cons first questions inductionHypothesis =>
      obtain ⟨now, question⟩ := first
      have namedNow : (reader.asOf now).tree.Named := named
      have toldNow : (reader.asOf now).Told := told
      -- what is in the files does not depend on the time
      have agrees :
          Attempt.Agrees reason (BesideNothing reader start)
            ((reader.asOf now).ask question) ((reader.asOf now).ask question) :=
        agrees_ask namedNow recalls apart toldNow (excuses _ List.mem_cons_self) question
      have agreesToo :=
        inductionHypothesis fun other member => excuses other (List.mem_cons_of_mem _ member)
      exact .bind agrees fun answer => .bind agreesToo fun answers => .pure _

/-- Questions are answered alike with a cache and without, or a panic of the cache prevents it. -/
theorem askAll_of_recalls
    (named : reader.tree.Named)
    (recalls : Recalls start)
    (apart : Function.Injective reader.digest)
    (told : reader.Told)
    (questions : List (Instant × Question α)) :
    (reader.askAll questions start = none ∧ ¬reader.StoresFor questions start) ∨
      ∃ answers after,
        reader.askAll questions start = some (.ok answers, after) ∧
          reader.askAll questions (BlankCache.blank : BlankCache Json.Value) =
            some (.ok answers, .blank) := by
  have backed : reader.Backs start start := ⟨[], .start, nofun⟩
  have excuses : ∀ question ∈ questions,
      Excuses (reader.asOf question.1) start (¬reader.StoresFor questions start) := by
    intro question member deposits cache arises stops stores
    cases (stores deposits cache arises question member).symm.trans stops
  rcases agrees_askAll named recalls apart told questions excuses start .blank backed with
    panicked | ⟨outcome, after, nothing, ended, endedToo, _⟩
  · exact .inl panicked
  · cases outcome with
    | error error => exact error.elim
    | ok answers => exact .inr ⟨answers, after, ended, endedToo⟩

/-- The cache that keeps nothing recalls, and stores whatever it is given. -/
theorem recalls_blank : Recalls (BlankCache.blank : BlankCache Json.Value) :=
  fun _ _ _ _ _ _ found => nomatch found

theorem Reader.AnswersAsUncached.of_calm
    {questions : List (Instant × Question α)}
    {cache : χ}
    {calm calmToo : Prop}
    (answers : reader.AnswersAsUncached questions cache calm)
    (implies : calmToo → calm) :
    reader.AnswersAsUncached questions cache calmToo := by
  obtain ⟨given, uncached, only, ends⟩ := answers
  exact ⟨given, uncached, only, fun isCalm => ends (implies isCalm)⟩

theorem answersAsUncached_of_recalls
    (named : reader.tree.Named)
    (recalls : Recalls start)
    (apart : Function.Injective reader.digest)
    (told : reader.Told)
    (questions : List (Instant × Question α)) :
    reader.AnswersAsUncached questions start (reader.StoresFor questions start) := by
  obtain ⟨answers, uncached⟩ :
      ∃ answers,
        reader.askAll questions (BlankCache.blank : BlankCache Json.Value) =
          some (.ok answers, .blank) := by
    rcases askAll_of_recalls named recalls_blank apart told questions with
      ⟨_, panics⟩ | ⟨answers, _, _, ended⟩
    · exact absurd (fun _ _ _ _ _ => rfl) panics
    · exact ⟨answers, ended⟩
  refine ⟨answers, uncached, ?_⟩
  rcases askAll_of_recalls named recalls apart told questions with
    ⟨panicked, panics⟩ | ⟨answersToo, after, ended, endedToo⟩
  · refine ⟨fun outcome after ended => ?_, fun stores => absurd stores panics⟩
    cases panicked.symm.trans ended
  · cases uncached.symm.trans endedToo
    refine ⟨fun outcome afterToo endedSo => ?_, fun _ => ⟨after, ended⟩⟩
    cases ended.symm.trans endedSo
    rfl

end

/--
A reader with a cache answers any sequence of questions with the same documents, the same items in
the same order and the same errors as one without a cache, if the files stay as they are, the
digest has no collision, and different documents are not shown under one name.

The cache may be any that answers only with what was stored last under the key, whatever else it
drops and when.  In particular it may be one in memory with any lifetime of its entries, with any
passage of time between the questions, and from one use to the next while one is being answered.
Only where a lifetime goes beyond what the clock can tell does it panic, and answer nothing.
-/
theorem answersAsUncached
    (reader : Reader)
    (named : reader.tree.Named)
    (apart : Function.Injective reader.digest)
    (told : reader.Told)
    (questions : List (Instant × Question α)) :
    (∀ (χ : Type) [CacheStore χ Json.Value] (cache : χ),
      Recalls cache →
        reader.AnswersAsUncached questions cache (reader.StoresFor questions cache)) ∧
      (∀ defaultTtl,
        let cache : MemoryCache Json.Value := .empty defaultTtl
        reader.AnswersAsUncached questions cache
          (∀ question ∈ questions, cache.stops question.1 reader.ttl = false)) ∧
      ∀ clock defaultTtl,
        let cache : ClockedCache Json.Value := .start clock defaultTtl
        reader.AnswersAsUncached questions cache
          (∀ use, cache.cache.stops (clock.reading use) reader.ttl = false) := by
  have answers (χ : Type) [CacheStore χ Json.Value] (cache : χ) (recalls : Recalls cache) :
      reader.AnswersAsUncached questions cache (reader.StoresFor questions cache) :=
    answersAsUncached_of_recalls named recalls apart told questions
  refine ⟨answers, fun defaultTtl => ?_, fun clock defaultTtl => ?_⟩
  · refine (answers _ _ (MemoryCache.recalls_empty defaultTtl)).of_calm ?_
    intro calm deposits cache arises question member
    exact (arises.stops question.1 reader.ttl).trans (calm question member)
  · refine (answers _ _ (ClockedCache.recalls_start clock defaultTtl)).of_calm ?_
    intro calm deposits store arises question _
    exact (ClockedCache.stops_of_arises arises question.1 reader.ttl).trans (calm store.uses)

namespace Lossy

/-- Two manifests with names that are no text. -/
def tree : FileTree where
  nodes :=
    [(["one"], .file "\x7b\"a\":[\"x\"]\x7d".toUTF8),
      (["two"], .file "\x7b\"a\":[\"y\"]\x7d".toUTF8)]

/-- A reader to which both of them are shown as one and the same text. -/
def reader : Reader :=
  { tree := tree, digest := id, shown := fun _ => "/\uFFFD", now := 0, ttl := none
    modules := .all }

/-- The items of the one and then of the other. -/
def itemsWith [CacheStore χ Json.Value] (cache : χ) : Option (List (Option (List String))) :=
  (reader.askAll
      [(0, .entries "/one" "a" Json.Value.asString?), (0, .entries "/two" "a" Json.Value.asString?)]
      cache).bind
    fun ending => ending.1.toOption.map (List.map Answer.items?)

/-- With a cache, the other one is taken for the one. -/
example :
    itemsWith (BlankCache.blank : BlankCache Json.Value) = some [some ["x"], some ["y"]] ∧
      itemsWith (.empty none : MemoryCache Json.Value) = some [some ["x"], some ["x"]] := by
  decide +kernel

/-- With a lifetime that goes beyond the clock there are no items at all. -/
example :
    itemsWith (.empty (some (.seconds (2 ^ 64 - 1))) : MemoryCache Json.Value) = none := by
  decide +kernel

end Lossy

namespace Expiring

/-- Two manifests that lead to each other. -/
def tree : FileTree where
  nodes :=
    [(["w"], .directory),
      (["w", "m.json"],
        .file "\x7b\"a\":[\"x\",\x7b\"glob\":\"sub/*.json\"\x7d,\"y\"]\x7d".toUTF8),
      (["w", "sub"], .directory),
      (["w", "sub", "n.json"],
        .file "\x7b\"a\":[\"z\",\x7b\"glob\":\"../m.json\"\x7d]\x7d".toUTF8)]

/-- The texts that are digested when the first manifest, and then one that is not there, is
read. -/
def digested : List String := ["/w/m.json", "/w/sub/n.json", "/w/sub/../m.json", "/w/gone.json"]

def reader : Reader :=
  { tree := tree, digest := Key.sampled digested, now := 0, ttl := none, modules := .all }

/-- The items of the first manifest are asked for twice, and a missing document in between. -/
def questions : List (Instant × Question String) :=
  [(0, .entries "/w/m.json" "a" Json.Value.asString?), (4, .document "/w/gone.json"),
    (5, .entries "/w/m.json" "a" Json.Value.asString?)]

private theorem named : reader.tree.Named := by
  have checked :
      ∀ place ∈ tree.files, ∀ name ∈ place,
        name ≠ "" ∧ Path.separator ∉ name.toList := by
    decide +kernel
  exact checked

private theorem apart : Function.Injective reader.digest := by
  have nodup : (digested.map Digest.sha256Hex).Nodup := by
    decide +kernel
  exact Key.sampled_injective_of_nodup nodup

end Expiring

/-- A cache that is read at every tick and keeps documents for four of them has lost those of the
first walk by the second one, which finds the same items. -/
theorem answersAsUncached_of_expiring :
    Expiring.reader.tree.Named ∧ Function.Injective Expiring.reader.digest ∧
      Expiring.reader.Told ∧
      ∃ answers after,
        Expiring.reader.askAll Expiring.questions
            (ClockedCache.start (.ticking 99) (some (.duration 4)) : ClockedCache Json.Value) =
          some (.ok answers, after) ∧
          answers.map Answer.items? = [some ["x", "z", "y"], none, some ["x", "z", "y"]] := by
  have told : Expiring.reader.Told := Reader.told_of_text rfl
  obtain ⟨_, _, clocked⟩ :=
    answersAsUncached Expiring.reader Expiring.named Expiring.apart told Expiring.questions
  obtain ⟨answers, uncached, _, ends⟩ := clocked (.ticking 99) (some (.duration 4))
  have calm (use : Nat) :
      (MemoryCache.empty (some (.duration 4)) : MemoryCache Json.Value).stops (min use 99) none =
        false := by
    refine decide_eq_false (Nat.not_lt_of_le ?_)
    have early : min use 99 + 4 ≤ 103 := by omega
    exact Nat.le_trans early (by decide)
  obtain ⟨after, ended⟩ := ends calm
  have passes :
      Attempt.endsSo
        (fun outcome _ => outcome.toOption.map (List.map Answer.items?) =
          some [some ["x", "z", "y"], none, some ["x", "z", "y"]])
        (Expiring.reader.askAll Expiring.questions (BlankCache.blank : BlankCache Json.Value)) =
          true := by
    decide +kernel
  rw [uncached] at passes
  refine ⟨Expiring.named, Expiring.apart, told, answers, after, ended, ?_⟩
  simpa [Attempt.endsSo, Except.toOption] using passes

end Switchboard.Manifest
