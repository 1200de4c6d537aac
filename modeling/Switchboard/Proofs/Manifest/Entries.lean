import Switchboard.Proofs.Cache.Faithful
import Switchboard.Proofs.Manifest.Visit

namespace Switchboard.Manifest

/-!
# The entries of a section

Reading the entries of a section is one traversal of the manifests from the root manifest on.  It
ends with the items of all manifests that can be reached, each opened once, or with the first
failure that it meets.
-/

variable {α χ : Type} [CacheStore χ Json.Value]

section

variable
  {reader : Reader}
  {heading : String}
  {readItem : Json.Value → Option α}
  {trusted : χ → Prop}

/-- A faithful cache can be trusted if it takes documents, if what it holds was read from the files
as they are, and if no two manifests share a key. -/
theorem Reader.trusts_of_faithful
    [FaithfulStore χ Json.Value]
    [SteadyStore χ Json.Value]
    (apart : ∀ path other document,
      reader.keyOf path = reader.keyOf other →
        reader.readFile path = .ok document → reader.readFile other = .ok document) :
    reader.Trusts fun cache : χ =>
      CacheStore.stops cache reader.now reader.ttl = false ∧
        ∀ path document,
          (CacheStore.get cache reader.now (reader.keyOf path)).1 = some document →
            reader.readFile path = .ok document where
  get cache path isTrusted := by
    refine ⟨⟨?_, fun other document found => ?_⟩, isTrusted.2 path⟩
    · rw [SteadyStore.stops_get, isTrusted.1]
    · exact isTrusted.2 other document (FaithfulStore.found_of_get _ _ _ _ _ _ found)
  set := by
    intro cache path document isTrusted content
    refine ⟨by rw [SteadyStore.stops_set, isTrusted.1], fun other entry found => ?_⟩
    rcases FaithfulStore.found_of_set _ _ _ _ _ _ _ _ found with ⟨sameKey, rfl⟩ | before
    · exact apart path other document sameKey content
    · exact isTrusted.2 other entry before
  goes _ isTrusted := isTrusted.1

/-- The walk of the reader from a path is a traversal that begins with it. -/
theorem performed_visit
    (wellFormed : reader.tree.WellFormed)
    (relative : reader.RelativeGlobs heading)
    (trusts : reader.Trusts trusted)
    {cache : χ}
    (isTrusted : trusted cache)
    (path : Path) :
    Performed reader heading readItem trusted [] (.start path) []
      (reader.visit heading readItem reader.depth path (walk [] [] cache)) := by
  cases resolved : reader.tree.resolve path with
  | ok root =>
      have bounded : reader.unvisited [] < reader.depth :=
        Nat.lt_of_le_of_lt List.countP_le_length (Nat.lt_add_of_pos_right (by decide))
      exact Performs.visit wellFormed relative trusts reader.depth resolved [] [] cache []
        isTrusted bounded
  | error failure =>
      -- a path that leads nowhere cannot be read
      have content : reader.readFile path = .error (.io path failure) := by
        simp only [Reader.readFile, FileTree.readText, FileTree.read, resolved, bind, Except.bind]
      obtain ⟨cacheAfter, read, isTrustedToo⟩ :=
        trusts.readOn
          ({ visited := [reader.identity path], found := [], cache := cache } : Reader.Walk χ α)
          isTrusted path
      have unlisted : reader.listed heading path = .error (.io path failure) := by
        rw [Reader.listed, content]
        rfl
      simp only [Reader.depth, Reader.visit, walk, List.map_nil, List.reverse_nil,
        Attempt.reading_bind, List.not_mem_nil, decide_false, Bool.false_eq_true, if_false,
        Attempt.changing_bind]
      rw [Attempt.bind_apply, read, content]
      refine .failed (by exact isTrustedToo) .refl (.unread (fun place leads => ?_) unlisted)
      cases resolved.symm.trans leads

end

/--
Reading the entries of a section ends, and it ends as the traversal from the root manifest does.

A traversal that comes to its end has opened manifests that can be reached from the root manifest
by globs and the module filter, each once whatever paths lead to it, and has put out the items of
these, in its order.  These are all such manifests, unless the root manifest was given by its name
alone: its parent is the empty path then, where globs are not searched for.  Otherwise the error is
that of the thing the traversal stops at.
-/
theorem entries_of_traversal
    (reader : Reader)
    (heading : String)
    (readItem : Json.Value → Option α)
    (path : Path)
    (wellFormed : reader.tree.WellFormed)
    (relative : reader.RelativeGlobs heading)
    (trusted : χ → Prop)
    (trusts : reader.Trusts trusted)
    (cache : χ)
    (isTrusted : trusted cache) :
    (∃ outcome after,
      reader.entries heading readItem path cache = some (outcome, after) ∧ trusted after ∧
        (∀ items, outcome = .ok items ↔
          ∃ order, Runs reader heading readItem (.start path) ⟨[], order, items⟩) ∧
        ∀ error, outcome = .error error ↔
          ∃ last, Runs reader heading readItem (.start path) last ∧
            Fails reader heading readItem last error) ∧
      ∀ order items, Runs reader heading readItem (.start path) ⟨[], order, items⟩ →
        ∃ root,
          reader.tree.resolve path = .ok root ∧ order.Nodup ∧
            (∀ place ∈ order, reader.Reaches heading root place) ∧
            (path.Housed → ∀ place, reader.Reaches heading root place → place ∈ order) ∧
            items.Perm (order.flatMap (reader.itemsAt heading readItem)) := by
  have finished {order : List Place} {items : List α} :
      ∀ after, ¬ Step reader heading readItem ⟨[], order, items⟩ after := by
    intro after step
    cases step
  constructor
  · have performed :
        Performed reader heading readItem trusted [] (.start path) []
          (reader.visit heading readItem reader.depth path
            { visited := [], found := [], cache := cache }) :=
      performed_visit wellFormed relative trusts isTrusted path
    unfold Reader.entries
    generalize reader.visit heading readItem reader.depth path
      { visited := [], found := [], cache := cache } = ending at performed ⊢
    cases performed with
    | @done order found cacheAfter isTrustedToo _ runs =>
        refine ⟨.ok found, cacheAfter, rfl, isTrustedToo, fun items => ?_, fun error => ?_⟩
        · constructor
          · intro same
            cases same
            exact ⟨order, runs⟩
          · rintro ⟨other, runsToo⟩
            cases runs.unique runsToo finished finished
            rfl
        · simp only [reduceCtorEq, false_iff]
          rintro ⟨last, runsToo, fails⟩
          obtain rfl := runs.unique runsToo finished fun _ => fails.no_step
          cases fails
    | @failed error last after isTrustedToo runs fails =>
        refine ⟨.error error, after.cache, rfl, isTrustedToo, fun items => ?_, fun other => ?_⟩
        · simp only [reduceCtorEq, false_iff]
          rintro ⟨order, runsToo⟩
          obtain rfl := runsToo.unique runs finished fun _ => fails.no_step
          cases fails
        · constructor
          · intro same
            cases same
            exact ⟨last, runs, fails⟩
          · rintro ⟨lastToo, runsToo, failsToo⟩
            obtain rfl :=
              runs.unique runsToo (fun _ => fails.no_step) fun _ => failsToo.no_step
            rw [fails.unique failsToo]
  · intro order items runs
    unfold Progress.start at runs
    rcases runs.cases_head with same | ⟨next, step, _⟩
    · cases same
    · cases step with
      | again _ isVisited => cases isVisited
      | opens resolved _ _ =>
          exact ⟨_, resolved, Runs.finished wellFormed resolved runs⟩

namespace Example

/-- Two manifests, each of which leads to the other one. -/
def tree : FileTree where
  nodes :=
    [(["w"], .directory),
      (["w", "m.json"], .file "\x7b\"a\":[\"x\",\x7b\"glob\":\"sub/n.json\"\x7d,\"y\"]\x7d".toUTF8),
      (["w", "sub"], .directory),
      (["w", "sub", "n.json"], .file "\x7b\"a\":[\"z\",\x7b\"glob\":\"../sub/../m.json\"\x7d]\x7d".toUTF8)]

def reader : Reader :=
  { tree := tree, digest := id, now := 0, ttl := none, modules := .all }

private theorem wellFormed : tree.WellFormed where
  started := rfl
  unique := by decide
  named := by decide
  placed := by decide

private theorem relative : reader.RelativeGlobs "a" := by
  have checked :
      ∀ place ∈ reader.tree.files, ∀ value ∈ reader.entriesAt "a" place,
        (((globOf? value).bind Glob.Pattern.parse?).all fun pattern => !pattern.absolute) = true := by
    decide +kernel
  intro place isFile value isEntry text pattern isText parsed
  have isRelative := checked place isFile value isEntry
  simpa [isText, parsed] using isRelative

private theorem trusts : reader.Trusts fun _ : BlankCache Json.Value => True where
  get _ _ _ := by
    refine ⟨trivial, fun document found => ?_⟩
    cases found
  set _ _ _ _ _ := trivial
  goes _ _ := rfl

end Example

namespace ByName

/-- A manifest in the current directory with a pattern for the one beside it. -/
def tree : FileTree where
  nodes :=
    [(["w"], .directory),
      (["w", "m.json"], .file "\x7b\"a\":[\x7b\"glob\":\"n*.json\"\x7d]\x7d".toUTF8),
      (["w", "n.json"], .file "\x7b\"a\":[\"z\"]\x7d".toUTF8)]
  current := ["w"]

def reader : Reader :=
  { tree := tree, digest := id, now := 0, ttl := none, modules := .all }

/-- The items that are read from a path. -/
def itemsFrom (path : String) : Option (List String) :=
  (reader.entries "a" Json.Value.asString? (.ofText path) BlankCache.blank).bind
    fun ending => ending.1.toOption

/-- The same file leads to the one beside it, or not, as its directory is spelled or left out. -/
example : itemsFrom "./m.json" = some ["z"] ∧ itemsFrom "m.json" = some [] := by
  decide +kernel

end ByName

/-- Manifests that lead back to one another are read once, the second one in place of its glob. -/
theorem entries_of_traversal_of_cycle :
    Example.reader.tree.WellFormed ∧ Example.reader.RelativeGlobs "a" ∧
      ∃ order,
        Runs Example.reader "a" Json.Value.asString? (.start (.ofText "/w/m.json"))
            ⟨[], order, ["x", "z", "y"]⟩ ∧
          order.Nodup ∧
          ∀ place, place ∈ order ↔ Example.reader.Reaches "a" ["w", "m.json"] place := by
  obtain ⟨⟨outcome, after, ended, _, succeeds, _⟩, opened⟩ :=
    entries_of_traversal Example.reader "a" Json.Value.asString? (.ofText "/w/m.json")
      Example.wellFormed Example.relative (fun _ : BlankCache Json.Value => True)
      Example.trusts BlankCache.blank trivial
  have passes :
      Attempt.endsSo (fun outcome _ => outcome.toOption = some ["x", "z", "y"])
        (Example.reader.entries "a" Json.Value.asString? (.ofText "/w/m.json") BlankCache.blank) =
          true := by
    decide +kernel
  rw [ended] at passes
  have isOk : outcome = .ok ["x", "z", "y"] := by
    cases outcome with
    | error error => simp [Attempt.endsSo, Except.toOption] at passes
    | ok items => simpa [Attempt.endsSo, Except.toOption] using passes
  obtain ⟨order, runs⟩ := (succeeds _).mp isOk
  obtain ⟨root, resolved, nodup, reached, complete, _⟩ := opened order _ runs
  obtain rfl : ["w", "m.json"] = root := by
    have led : Example.reader.tree.resolve (.ofText "/w/m.json") = .ok ["w", "m.json"] := by rfl
    exact Except.ok.inj (led.symm.trans resolved)
  have housed : Path.Housed (.ofText "/w/m.json") := by
    intro base isBase
    have parent : (Path.ofText "/w/m.json").parent? = some (.ofText "/w") := by rfl
    cases parent.symm.trans isBase
    rfl
  exact ⟨Example.wellFormed, Example.relative, order, runs, nodup,
    fun place => ⟨reached place, complete housed place⟩⟩

end Switchboard.Manifest
