import Switchboard.Cache.Blank
import Switchboard.Proofs.Attempt.Endings
import Switchboard.Proofs.Manifest.Traversal

namespace Switchboard.Manifest

/-!
# The reader goes through manifests

`Performs` says of a part of the reader that it does the tasks a traversal has on its agenda, to
the end or up to the first failure.  Every part of the reader does its own; the fuel for going
deeper is never used up, since every step down opens a file that was not opened before.
-/

variable {α χ : Type}

namespace Reader

/-- A trusted cache answers with nothing but what is in the files, takes what is read from them,
and stays a trusted one. -/
structure Trusts [CacheStore χ Json.Value] (reader : Reader) (trusted : χ → Prop) : Prop where
  get : ∀ cache path, trusted cache →
    trusted (CacheStore.get cache reader.now (reader.keyOf path)).2 ∧
      ∀ document,
        (CacheStore.get cache reader.now (reader.keyOf path)).1 = some document →
          reader.readFile path = .ok document
  set : ∀ cache path document, trusted cache → reader.readFile path = .ok document →
    trusted (CacheStore.set cache reader.now (reader.keyOf path) document reader.ttl).2
  goes : ∀ cache, trusted cache → CacheStore.stops cache reader.now reader.ttl = false

/-- The globs of a section are relative patterns. -/
def RelativeGlobs (reader : Reader) (heading : String) : Prop :=
  ∀ place ∈ reader.tree.files, ∀ value ∈ reader.entriesAt heading place, ∀ text pattern,
    globOf? value = some text → Glob.Pattern.parse? text = some pattern →
      pattern.absolute = false

/-- How many files are left to be opened. -/
def unvisited (reader : Reader) (visited : List Place) : Nat :=
  reader.tree.files.countP fun place => !visited.contains place

end Reader

/-- How far a walk has come that opened places, one after another, and found items. -/
def walk (visited : List Place) (found : List α) (cache : χ) : Reader.Walk χ α :=
  { visited := (visited.map fun place => "/" :: place).reverse, found := found, cache := cache }

section

variable
  (reader : Reader)
  (heading : String)
  (readItem : Json.Value → Option α)
  (trusted : χ → Prop)

/-- A part of the reader came to an end as a traversal does from a stage to the rest of its
agenda. -/
inductive Performed (visited : List Place) (stage : Progress α) (rest : List Task) :
    Option (Except ManifestError Unit × Reader.Walk χ α) → Prop
  | done
      {visitedAfter : List Place}
      {found : List α}
      {cache : χ}
      (isTrusted : trusted cache)
      (grows : visited ⊆ visitedAfter)
      (runs : Runs reader heading readItem stage ⟨rest, visitedAfter, found⟩) :
      Performed visited stage rest (some (.ok (), walk visitedAfter found cache))
  | failed
      {error : ManifestError}
      {last : Progress α}
      {after : Reader.Walk χ α}
      (isTrusted : trusted after.cache)
      (runs : Runs reader heading readItem stage last)
      (fails : Fails reader heading readItem last error) :
      Performed visited stage rest (some (.error error, after))

/-- A part of the reader does the tasks that a traversal begins with, if fewer files than a bound
are left to be opened. -/
def Performs
    (bound : Nat)
    (attempt : Attempt (Reader.Walk χ α) ManifestError Unit)
    (tasks : List Task) :
    Prop :=
  ∀ visited found cache rest,
    trusted cache → reader.unvisited visited < bound →
      Performed reader heading readItem trusted visited ⟨tasks ++ rest, visited, found⟩ rest
        (attempt (walk visited found cache))

end

variable
  {reader : Reader}
  {heading : String}
  {readItem : Json.Value → Option α}
  {trusted : χ → Prop}

theorem Performed.after_step
    {visited visitedToo : List Place}
    {before stage : Progress α}
    {rest : List Task}
    {ending : Option (Except ManifestError Unit × Reader.Walk χ α)}
    (step : Step reader heading readItem before stage)
    (grows : visited ⊆ visitedToo)
    (performed : Performed reader heading readItem trusted visitedToo stage rest ending) :
    Performed reader heading readItem trusted visited before rest ending := by
  cases performed with
  | done isTrusted growsToo runs =>
      exact .done isTrusted (fun _ member => growsToo (grows member)) (.head step runs)
  | failed isTrusted runs fails => exact .failed isTrusted (.head step runs) fails

theorem Reader.unvisited_le
    {visited visitedAfter : List Place}
    (grows : visited ⊆ visitedAfter) :
    reader.unvisited visitedAfter ≤ reader.unvisited visited := by
  refine List.countP_mono_left fun place _ isNew => ?_
  simp only [Bool.not_eq_eq_eq_not, Bool.not_true, List.contains_eq_mem, decide_eq_false_iff_not]
    at isNew ⊢
  exact fun isVisited => isNew (grows isVisited)

/-- Opening a file leaves fewer to be opened. -/
theorem Reader.unvisited_lt
    {visited : List Place}
    {place : Place}
    (isFile : place ∈ reader.tree.files)
    (isNew : place ∉ visited) :
    reader.unvisited (visited ++ [place]) < reader.unvisited visited := by
  obtain ⟨before, after, split⟩ := List.append_of_mem isFile
  have fewer (places : List Place) :
      places.countP (fun other => !(visited ++ [place]).contains other) ≤
        places.countP fun other => !visited.contains other := by
    refine List.countP_mono_left fun other _ isNewToo => ?_
    simp_all
  have fewerBefore := fewer before
  have fewerAfter := fewer after
  have counted : (!visited.contains place) = true := by simpa using isNew
  have uncounted : (!(visited ++ [place]).contains place) = false := by simp
  simp only [Reader.unvisited, split, List.countP_append, List.countP_cons, counted, uncounted,
    if_true, Bool.false_eq_true, if_false]
  omega

namespace Performs

theorem nothing (bound : Nat) :
    Performs reader heading readItem trusted bound
      (pure () : Attempt (Reader.Walk χ α) ManifestError Unit) [] :=
  fun _ _ _ _ isTrusted _ => .done isTrusted (fun _ member => member) .refl

theorem andThen
    {bound : Nat}
    {first second : Attempt (Reader.Walk χ α) ManifestError Unit}
    {tasks others : List Task}
    (performs : Performs reader heading readItem trusted bound first tasks)
    (performsToo : Performs reader heading readItem trusted bound second others) :
    Performs reader heading readItem trusted bound (first.andThen fun _ => second)
      (tasks ++ others) := by
  intro visited found cache rest isTrusted bounded
  have performed := performs visited found cache (others ++ rest) isTrusted bounded
  rw [List.append_assoc]
  unfold Attempt.andThen
  generalize first (walk visited found cache) = ending at performed ⊢
  cases performed with
  | @done visitedAfter foundAfter cacheAfter isTrustedToo grows runs =>
      have performedToo := performsToo visitedAfter foundAfter cacheAfter rest isTrustedToo
        (Nat.lt_of_le_of_lt (Reader.unvisited_le grows) bounded)
      dsimp only
      generalize second (walk visitedAfter foundAfter cacheAfter) = ending at performedToo ⊢
      cases performedToo with
      | done isTrusted growsToo runsToo =>
          exact .done isTrusted (fun _ member => growsToo (grows member)) (runs.trans runsToo)
      | failed isTrusted runsToo fails => exact .failed isTrusted (runs.trans runsToo) fails
  | failed isTrusted runs fails => exact .failed isTrusted runs fails

/-- What is done for every element is done for all of them, in order. -/
theorem each
    {β : Type}
    {bound : Nat}
    {elements : List β}
    {attempt : β → Attempt (Reader.Walk χ α) ManifestError Unit}
    {task : β → Task}
    (performs : ∀ element ∈ elements,
      Performs reader heading readItem trusted bound (attempt element) [task element]) :
    Performs reader heading readItem trusted bound (Attempt.each elements attempt)
      (elements.map task) := by
  induction elements with
  | nil => exact nothing bound
  | cons element elements inductionHypothesis =>
      exact (performs element List.mem_cons_self).andThen
        (inductionHypothesis fun other member => performs other (List.mem_cons_of_mem _ member))

end Performs

/-- A pattern in a manifest leads the reader to the files that it stands for. -/
theorem matched_eq_ok
    {path base : Path}
    {place : Place}
    {text : String}
    {pattern : Glob.Pattern}
    (wellFormed : reader.tree.WellFormed)
    (parsed : Glob.Pattern.parse? text = some pattern)
    (relative : pattern.absolute = false)
    (isBase : path.parent? = some base)
    (led : reader.tree.behind base = .ok place) :
    ∃ files : List (List String),
      reader.matched path text =
          .ok ((files.filter reader.modules.accepts).map base.joinAll) ∧
        pattern.Lists reader.tree base place files := by
  have idle := Glob.isIdle_of_parse? parsed
  obtain ⟨files, expanded, lists⟩ := Glob.expand_eq wellFormed relative idle led
  have filtered (names : List String) (member : names ∈ files) :
      filteredComponents base (base.joinAll names) = names := by
    obtain ⟨_, target, leads⟩ := (lists.mem_iff names).mp member
    rw [filteredComponents, Path.relativeTo?_joinAll (leads.isIdle wellFormed idle)]
    rfl
  refine ⟨files, ?_, lists⟩
  simp only [Reader.matched, isBase, Option.getD_some, Glob.expand?, parsed, Option.map_some,
    expanded, List.filter_map]
  congr 2
  refine List.filter_congr fun names member => ?_
  rw [Function.comp_apply, filtered names member]

/-- The reader does with an entry what a traversal does. -/
theorem Performs.enter
    {bound : Nat}
    {visit : Path → Attempt (Reader.Walk χ α) ManifestError Unit}
    {path : Path}
    {place : Place}
    {value : Json.Value}
    (wellFormed : reader.tree.WellFormed)
    (relative : reader.RelativeGlobs heading)
    (visits : ∀ file target, reader.tree.resolve file = .ok target →
      Performs reader heading readItem trusted bound (visit file) [.manifest file])
    (resolved : reader.tree.resolve path = .ok place)
    (isFile : place ∈ reader.tree.files)
    (isEntry : value ∈ reader.entriesAt heading place) :
    Performs reader heading readItem trusted bound
      (reader.enter heading readItem visit path value) [.entry path value] := by
  intro visited found cache rest isTrusted bounded
  unfold Reader.enter
  cases entry : Entry.read? readItem value with
  | none => exact .failed isTrusted .refl (.bad entry)
  | some read =>
      cases read with
      | item content =>
          exact .done isTrusted (fun _ member => member) (.single (.item entry))
      | glob text =>
          obtain ⟨base, isBase, led⟩ := wellFormed.parent_of_file resolved isFile
          cases parsed : Glob.Pattern.parse? text with
          | none =>
              have blank : reader.matched path text = .error (.invalidGlob "") := by
                simp only [Reader.matched, Glob.expand?, parsed, Option.map_none]
              dsimp only
              rw [blank]
              exact .failed isTrusted .refl (.blank entry parsed)
          | some pattern =>
              have isRelative :=
                relative place isFile value isEntry text pattern (read?_eq_glob.mp entry) parsed
              obtain ⟨files, matched, lists⟩ :=
                matched_eq_ok wellFormed parsed isRelative isBase led
              have all :
                  Performs reader heading readItem trusted bound
                    (Attempt.each ((files.filter reader.modules.accepts).map base.joinAll) visit)
                    (((files.filter reader.modules.accepts).map base.joinAll).map .manifest) := by
                refine .each fun file member => ?_
                obtain ⟨names, isListed, rfl⟩ := List.mem_map.mp member
                obtain ⟨isName, accepted⟩ := List.mem_filter.mp isListed
                obtain ⟨_, target, leads⟩ := (lists.mem_iff names).mp isName
                exact visits _ target
                  (resolve_of_matches wellFormed isFile resolved entry parsed isBase led leads
                    accepted).1
              rw [List.map_map] at all
              dsimp only
              rw [matched]
              exact (all visited found cache rest isTrusted bounded).after_step
                (.glob entry parsed isBase led lists) fun _ member => member

/-- The reader opens a manifest as a traversal does, after it has noted the place. -/
theorem performed_opens
    {fuel : Nat}
    {visit : Path → Attempt (Reader.Walk χ α) ManifestError Unit}
    {path : Path}
    {place : Place}
    {visited : List Place}
    {cache : χ}
    (wellFormed : reader.tree.WellFormed)
    (relative : reader.RelativeGlobs heading)
    (visits : ∀ file target, reader.tree.resolve file = .ok target →
      Performs reader heading readItem trusted fuel (visit file) [.manifest file])
    (resolved : reader.tree.resolve path = .ok place)
    (isNew : place ∉ visited)
    (isTrusted : trusted cache)
    (bounded : reader.unvisited visited < fuel + 1)
    (found : List α)
    (rest : List Task) :
    Performed reader heading readItem trusted visited
      ⟨.manifest path :: rest, visited, found⟩ rest
      ((Attempt.ofExcept (reader.listed heading path) >>= fun values =>
          Attempt.each values (reader.enter heading readItem visit path))
        (walk (visited ++ [place]) found cache)) := by
  cases listed : reader.listed heading path with
  | error error =>
      refine .failed (by exact isTrusted) .refl (.unread (fun other resolvedToo => ?_) listed)
      cases resolved.symm.trans resolvedToo
      exact isNew
  | ok values =>
      obtain ⟨other, resolvedToo, isFile, hasValues⟩ := Reader.listed_eq_ok wellFormed listed
      cases resolved.symm.trans resolvedToo
      -- this file is no longer left, so the bound holds for what its entries lead to
      have fewer := Reader.unvisited_lt isFile isNew
      have all :
          Performs reader heading readItem trusted fuel
            (Attempt.each values (reader.enter heading readItem visit path))
            (values.map (.entry path)) :=
        .each fun value isEntry =>
          .enter wellFormed relative visits resolved isFile (hasValues ▸ isEntry)
      exact Performed.after_step (.opens resolved isNew listed)
        (List.subset_append_left visited [place])
        (all (visited ++ [place]) found cache rest isTrusted (by omega))

section

variable [CacheStore χ Json.Value]

/-- Storing a document goes through or panics. -/
theorem Reader.store_apply
    (reader : Reader)
    (key : String)
    (document : Json.Value)
    (cache : χ) :
    reader.store key document cache =
      if CacheStore.stops cache reader.now reader.ttl then
        none
      else
        some (.ok (), (CacheStore.set cache reader.now key document reader.ttl).2) := by
  rw [Reader.store, Attempt.reading_bind]
  split <;> rfl

/-- Reading gives what is in the file if the cache answers with nothing else and may be given
that, or it panics because storing does. -/
theorem Reader.read_eq_readFile
    {cache : χ}
    {path : Path}
    (asked : trusted (CacheStore.get cache reader.now (reader.keyOf path)).2)
    (answers : ∀ document,
      (CacheStore.get cache reader.now (reader.keyOf path)).1 = some document →
        reader.readFile path = .ok document)
    (stored : ∀ cache document,
      trusted cache → CacheStore.stops cache reader.now reader.ttl = false →
        reader.readFile path = .ok document →
        trusted (CacheStore.set cache reader.now (reader.keyOf path) document reader.ttl).2) :
    (reader.read path cache = none ∧
        ∃ between, trusted between ∧ CacheStore.stops between reader.now reader.ttl = true) ∨
      ∃ after, reader.read path cache = some (reader.readFile path, after) ∧ trusted after := by
  simp only [Reader.read, Attempt.changing_bind]
  cases answer : (CacheStore.get cache reader.now (reader.keyOf path)).1 with
  | some document =>
      rw [answers document answer]
      exact .inr ⟨_, rfl, asked⟩
  | none =>
      cases content : reader.readFile path with
      | error error => exact .inr ⟨_, rfl, asked⟩
      | ok document =>
          cases stops : CacheStore.stops
              (CacheStore.get cache reader.now (reader.keyOf path)).2 reader.now reader.ttl with
          | true =>
              refine .inl ⟨?_, _, asked, stops⟩
              simp only [Attempt.bind_apply, Attempt.ofExcept, Attempt.succeed,
                Reader.store_apply, stops, if_true]
          | false =>
              refine .inr ⟨_, ?_, stored _ document asked stops content⟩
              simp only [Attempt.bind_apply, Attempt.ofExcept, Attempt.succeed,
                Reader.store_apply, stops, Bool.false_eq_true, if_false, Attempt.run_pure]

theorem Reader.Trusts.read
    (trusts : reader.Trusts trusted)
    {cache : χ}
    (isTrusted : trusted cache)
    (path : Path) :
    ∃ after, reader.read path cache = some (reader.readFile path, after) ∧ trusted after := by
  obtain ⟨asked, answers⟩ := trusts.get cache path isTrusted
  rcases Reader.read_eq_readFile asked answers
      fun other document isTrustedToo _ => trusts.set other path document isTrustedToo with
    ⟨_, between, isTrustedToo, stops⟩ | read
  · cases (trusts.goes between isTrustedToo).symm.trans stops
  · exact read

/-- A walk goes on with the cache as reading has left it. -/
theorem Reader.readOn
    {path : Path}
    {cache : χ}
    {outcome : Except ManifestError Json.Value}
    (before : Reader.Walk χ α)
    (read : reader.read path before.cache = some (outcome, cache)) :
    (reader.read path).focus Reader.Walk.cache
        (fun cache (before : Reader.Walk χ α) => { before with cache := cache }) before =
      some (outcome, { before with cache := cache }) :=
  Attempt.focus_eq_some.mpr ⟨cache, read, rfl⟩

/-- A walk reads files as they are if its cache is trusted. -/
theorem Reader.Trusts.readOn
    (trusts : reader.Trusts trusted)
    (before : Reader.Walk χ α)
    (isTrusted : trusted before.cache)
    (path : Path) :
    ∃ cache,
      (reader.read path).focus Reader.Walk.cache
          (fun cache (before : Reader.Walk χ α) => { before with cache := cache }) before =
        some (reader.readFile path, { before with cache := cache }) ∧ trusted cache := by
  obtain ⟨cache, went, isTrustedToo⟩ := trusts.read isTrusted path
  exact ⟨cache, Reader.readOn before went, isTrustedToo⟩

/-- The reader does with the path to a manifest what a traversal does. -/
theorem Performs.visit
    (wellFormed : reader.tree.WellFormed)
    (relative : reader.RelativeGlobs heading)
    (trusts : reader.Trusts trusted)
    (fuel : Nat)
    {path : Path}
    {place : Place}
    (resolved : reader.tree.resolve path = .ok place) :
    Performs reader heading readItem trusted fuel
      (reader.visit (χ := χ) heading readItem fuel path) [.manifest path] := by
  induction fuel generalizing path place with
  | zero => exact fun _ _ _ _ _ bounded => absurd bounded (Nat.not_lt_zero _)
  | succ fuel inductionHypothesis =>
      intro visited found cache rest isTrusted bounded
      have identity : reader.identity path = "/" :: place := by
        simp only [Reader.identity, resolved]
      have known :
          "/" :: place ∈ (walk visited found cache).visited ↔ place ∈ visited := by
        simp [walk]
      simp only [Reader.visit, Attempt.reading_bind, identity, known]
      by_cases isVisited : place ∈ visited
      · simp only [isVisited, decide_true, if_true]
        exact .done isTrusted (fun _ member => member) (.single (.again resolved isVisited))
      · simp only [isVisited, decide_false, Bool.false_eq_true, if_false, Attempt.changing_bind]
        have opened :
            { walk visited found cache with
                visited := ("/" :: place) :: (walk visited found cache).visited } =
              walk (visited ++ [place]) found cache := by
          simp [walk]
        obtain ⟨cacheAfter, read, isTrustedToo⟩ :=
          trusts.readOn (walk (visited ++ [place]) found cache) isTrusted path
        have opens :=
          performed_opens wellFormed relative
            (fun _ _ leads => inductionHypothesis leads) resolved isVisited isTrustedToo bounded
            found rest
        rw [opened, Attempt.bind_apply, read]
        unfold Reader.listed at opens
        cases content : reader.readFile path with
        | error error =>
            rw [content] at opens
            exact opens
        | ok document =>
            rw [content] at opens
            exact opens

end

end Switchboard.Manifest
