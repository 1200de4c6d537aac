import Mathlib.Logic.Relation
import Switchboard.Manifest.Reader
import Switchboard.Proofs.Glob.Matches

namespace Switchboard.Manifest

/-!
# Going through manifests

A traversal keeps an agenda.  A manifest on it is opened if no path to the same place was opened
before, and its entries take its stead; a glob entry gives way to the manifests it stands for, in
order, and an item is put out.  `Grounded`, `Covering` and `Balanced` are what every step keeps: at
the end the places opened are those that can be reached from the first one, and the items are
theirs, once for each place.

A manifest in the current directory may be given by its name alone.  Its parent is the empty path
then, and a glob that is searched for right there stands for nothing: `Housed` leaves such paths
out.
-/

variable {α : Type}

namespace Reader

/-- The entries of a section in the file at a place; none if they cannot be read. -/
def entriesAt (reader : Reader) (heading : String) (place : Place) : List Json.Value :=
  match reader.tree.node? place with
  | some (.file content) =>
      match (String.fromUTF8? content).bind Json.Value.parse? with
      | some document =>
          match document.member? heading with
          | some (.array values) => values
          | _ => []
      | none => []
  | _ => []

/-- An entry of the manifest at one place leads to a file: it is a glob that stands for the file,
by names that the module filter accepts. -/
def LeadsBy (reader : Reader) (value : Json.Value) (origin target : Place) : Prop :=
  ∃ text pattern names,
    globOf? value = some text ∧ Glob.Pattern.parse? text = some pattern ∧
      pattern.Matches reader.tree origin.dropLast names target ∧
      reader.modules.accepts names = true

/-- A manifest leads to a file by one of its entries. -/
def Leads (reader : Reader) (heading : String) (origin target : Place) : Prop :=
  ∃ value ∈ reader.entriesAt heading origin, reader.LeadsBy value origin target

/-- A manifest leads to a file over any number of manifests. -/
def Reaches (reader : Reader) (heading : String) : Place → Place → Prop :=
  Relation.ReflTransGen (reader.Leads heading)

/-- The entries that are read for a path. -/
def listed (reader : Reader) (heading : String) (path : Path) :
    Except ManifestError (List Json.Value) :=
  (reader.readFile path).bind (sectionItems path heading)

/-- The item that an entry is, if it is one. -/
def itemOf? (readItem : Json.Value → Option α) (value : Json.Value) : Option α :=
  match Entry.read? readItem value with
  | some (.item content) => some content
  | _ => none

/-- The items of a section in the file at a place. -/
def itemsAt
    (reader : Reader)
    (heading : String)
    (readItem : Json.Value → Option α)
    (place : Place) :
    List α :=
  (reader.entriesAt heading place).filterMap (itemOf? readItem)

/-- What is read for a path is in the file it leads to. -/
theorem listed_eq_ok
    {reader : Reader}
    {heading : String}
    {path : Path}
    {values : List Json.Value}
    (wellFormed : reader.tree.WellFormed)
    (listed : reader.listed heading path = .ok values) :
    ∃ place,
      reader.tree.resolve path = .ok place ∧ place ∈ reader.tree.files ∧
        reader.entriesAt heading place = values := by
  unfold Reader.listed readFile FileTree.readText FileTree.read at listed
  cases resolved : reader.tree.resolve path with
  | error failure =>
      rw [resolved] at listed
      cases listed
  | ok place =>
      rw [resolved] at listed
      simp only [bind, Except.bind] at listed
      cases found : reader.tree.node? place with
      | none =>
          rw [found] at listed
          cases listed
      | some node =>
          rw [found] at listed
          cases node with
          | directory => cases listed
          | file content =>
              refine ⟨place, rfl, wellFormed.mem_files.mpr ⟨content, found⟩, ?_⟩
              simp only at listed
              unfold entriesAt
              rw [found]
              cases decoded : String.fromUTF8? content with
              | none =>
                  rw [decoded] at listed
                  cases listed
              | some text =>
                  rw [decoded] at listed
                  cases parsed : Json.Value.parse? text with
                  | none =>
                      simp only [parsed] at listed
                      cases listed
                  | some document =>
                      simp only [parsed, sectionItems] at listed ⊢
                      split at listed <;> simp_all

end Reader

/-- Something a traversal has still to do. -/
inductive Task where
  /-- Go through the manifest at a path. -/
  | manifest (path : Path)
  /-- Go on with an entry of the manifest at a path. -/
  | entry (path : Path) (value : Json.Value)

/-- How far a traversal has come. -/
structure Progress (α : Type) where
  /-- What is to be done, first things first. -/
  agenda : List Task
  /-- The places of the manifests opened so far, in that order. -/
  visited : List Place
  /-- The items put out so far. -/
  found : List α

/-- A traversal that has done nothing but to be given the path to its first manifest. -/
def Progress.start (path : Path) : Progress α := ⟨[.manifest path], [], []⟩

section

variable (reader : Reader) (heading : String) (readItem : Json.Value → Option α)

/-- How a traversal does the first thing on its agenda. -/
inductive Step : Progress α → Progress α → Prop
  | again
      {path : Path}
      {place : Place}
      {agenda : List Task}
      {visited : List Place}
      {found : List α}
      (resolved : reader.tree.resolve path = .ok place)
      (isVisited : place ∈ visited) :
      Step ⟨.manifest path :: agenda, visited, found⟩ ⟨agenda, visited, found⟩
  | opens
      {path : Path}
      {place : Place}
      {values : List Json.Value}
      {agenda : List Task}
      {visited : List Place}
      {found : List α}
      (resolved : reader.tree.resolve path = .ok place)
      (isNew : place ∉ visited)
      (listed : reader.listed heading path = .ok values) :
      Step ⟨.manifest path :: agenda, visited, found⟩
        ⟨values.map (.entry path) ++ agenda, visited ++ [place], found⟩
  | item
      {path : Path}
      {value : Json.Value}
      {content : α}
      {agenda : List Task}
      {visited : List Place}
      {found : List α}
      (isItem : Entry.read? readItem value = some (.item content)) :
      Step ⟨.entry path value :: agenda, visited, found⟩ ⟨agenda, visited, found ++ [content]⟩
  | glob
      {path base : Path}
      {place : Place}
      {value : Json.Value}
      {text : String}
      {pattern : Glob.Pattern}
      {files : List (List String)}
      {agenda : List Task}
      {visited : List Place}
      {found : List α}
      (isGlob : Entry.read? readItem value = some (.glob text))
      (parsed : Glob.Pattern.parse? text = some pattern)
      (isBase : path.parent? = some base)
      (led : reader.tree.behind base = .ok place)
      (lists : pattern.Lists reader.tree base place files) :
      Step ⟨.entry path value :: agenda, visited, found⟩
        ⟨((files.filter reader.modules.accepts).map fun names => .manifest (base.joinAll names)) ++
          agenda, visited, found⟩

/-- How the first thing on the agenda of a traversal ends it. -/
inductive Fails : Progress α → ManifestError → Prop
  | unread
      {path : Path}
      {error : ManifestError}
      {agenda : List Task}
      {visited : List Place}
      {found : List α}
      (isNew : ∀ place, reader.tree.resolve path = .ok place → place ∉ visited)
      (failed : reader.listed heading path = .error error) :
      Fails ⟨.manifest path :: agenda, visited, found⟩ error
  | bad
      {path : Path}
      {value : Json.Value}
      {agenda : List Task}
      {visited : List Place}
      {found : List α}
      (isBad : Entry.read? readItem value = none) :
      Fails ⟨.entry path value :: agenda, visited, found⟩
        (.shape path (Reader.badEntry heading))
  | blank
      {path : Path}
      {value : Json.Value}
      {text : String}
      {agenda : List Task}
      {visited : List Place}
      {found : List α}
      (isGlob : Entry.read? readItem value = some (.glob text))
      (isBlank : Glob.Pattern.parse? text = none) :
      Fails ⟨.entry path value :: agenda, visited, found⟩ (.invalidGlob "")

def Runs : Progress α → Progress α → Prop :=
  Relation.ReflTransGen (Step reader heading readItem)

end

variable {reader : Reader} {heading : String} {readItem : Json.Value → Option α}

theorem Step.unique
    {before after other : Progress α}
    (step : Step reader heading readItem before after)
    (otherStep : Step reader heading readItem before other) :
    after = other := by
  cases step with
  | again resolved isVisited =>
      cases otherStep with
      | again => rfl
      | opens resolvedToo isNew =>
          cases resolved.symm.trans resolvedToo
          exact absurd isVisited isNew
  | opens resolved isNew listed =>
      cases otherStep with
      | again resolvedToo isVisited =>
          cases resolved.symm.trans resolvedToo
          exact absurd isVisited isNew
      | opens resolvedToo _ listedToo =>
          cases resolved.symm.trans resolvedToo
          cases listed.symm.trans listedToo
          rfl
  | item isItem =>
      cases otherStep with
      | item isItemToo =>
          cases isItem.symm.trans isItemToo
          rfl
      | glob isGlob => cases isItem.symm.trans isGlob
  | glob isGlob parsed isBase led lists =>
      cases otherStep with
      | item isItem => cases isItem.symm.trans isGlob
      | glob isGlobToo parsedToo isBaseToo ledToo listsToo =>
          cases isGlob.symm.trans isGlobToo
          cases parsed.symm.trans parsedToo
          cases isBase.symm.trans isBaseToo
          cases led.symm.trans ledToo
          cases lists.unique listsToo
          rfl

theorem Fails.no_step
    {before after : Progress α}
    {error : ManifestError}
    (fails : Fails reader heading readItem before error) :
    ¬ Step reader heading readItem before after := by
  intro step
  cases fails with
  | unread isNew failed =>
      cases step with
      | again resolved isVisited => exact isNew _ resolved isVisited
      | opens _ _ listed => cases failed.symm.trans listed
  | bad isBad =>
      cases step with
      | item isItem => cases isBad.symm.trans isItem
      | glob isGlob => cases isBad.symm.trans isGlob
  | blank isGlob isBlank =>
      cases step with
      | item isItem => cases isGlob.symm.trans isItem
      | glob isGlobToo parsed =>
          cases isGlob.symm.trans isGlobToo
          cases isBlank.symm.trans parsed

theorem Fails.unique
    {stage : Progress α}
    {error other : ManifestError}
    (fails : Fails reader heading readItem stage error)
    (failsToo : Fails reader heading readItem stage other) :
    error = other := by
  cases fails with
  | unread _ failed =>
      cases failsToo with
      | unread _ failedToo => exact Except.error.inj (failed.symm.trans failedToo)
  | bad isBad =>
      cases failsToo with
      | bad => rfl
      | blank isGlob => cases isBad.symm.trans isGlob
  | blank isGlob _ =>
      cases failsToo with
      | bad isBad => cases isBad.symm.trans isGlob
      | blank => rfl

theorem read?_eq_glob
    {value : Json.Value}
    {text : String} :
    Entry.read? readItem value = some (.glob text) ↔ globOf? value = some text := by
  unfold Entry.read?
  cases globOf? value with
  | none => simp
  | some other => simp

/-- The items that an agenda is to put out without opening anything. -/
def Task.pending (readItem : Json.Value → Option α) : Task → List α
  | .manifest _ => []
  | .entry _ value => (Reader.itemOf? readItem value).toList

/-- The manifest that a task is about. -/
def Task.path : Task → Path
  | .manifest path => path
  | .entry path _ => path

/-- A place was opened, or a path to it is on the agenda. -/
def Due (reader : Reader) (progress : Progress α) (place : Place) : Prop :=
  place ∈ progress.visited ∨
    ∃ path, .manifest path ∈ progress.agenda ∧ reader.tree.resolve path = .ok place

theorem Due.imp
    {before after : Progress α}
    {place : Place}
    (due : Due reader before place)
    (visited : ∀ place ∈ before.visited, place ∈ after.visited)
    (agenda : ∀ path, .manifest path ∈ before.agenda → reader.tree.resolve path = .ok place →
      Due reader after place) :
    Due reader after place := by
  rcases due with isVisited | ⟨path, member, resolved⟩
  · exact .inl (visited place isVisited)
  · exact agenda path member resolved

/-- A step leaves nothing out that is due. -/
theorem Due.step
    {before after : Progress α}
    {place : Place}
    (due : Due reader before place)
    (step : Step reader heading readItem before after) :
    Due reader after place := by
  cases step with
  | again resolved isVisited =>
      refine due.imp (fun _ member => member) fun path member resolvedToo => ?_
      rcases List.mem_cons.mp member with same | inAgenda
      · cases same
        cases resolved.symm.trans resolvedToo
        exact .inl isVisited
      · exact .inr ⟨path, inAgenda, resolvedToo⟩
  | opens resolved isNew listed =>
      refine due.imp (fun _ member => List.mem_append_left _ member)
        fun path member resolvedToo => ?_
      rcases List.mem_cons.mp member with same | inAgenda
      · cases same
        cases resolved.symm.trans resolvedToo
        exact .inl (List.mem_append_right _ (.head _))
      · exact .inr ⟨path, List.mem_append_right _ inAgenda, resolvedToo⟩
  | item isItem =>
      refine due.imp (fun _ member => member) fun path member resolved => ?_
      rcases List.mem_cons.mp member with same | inAgenda
      · cases same
      · exact .inr ⟨path, inAgenda, resolved⟩
  | glob isGlob parsed isBase led lists =>
      refine due.imp (fun _ member => member) fun path member resolved => ?_
      rcases List.mem_cons.mp member with same | inAgenda
      · cases same
      · exact .inr ⟨path, List.mem_append_right _ inAgenda, resolved⟩

/-- Everything a traversal has done or has still to do comes from the manifest at a place. -/
structure Grounded
    (reader : Reader)
    (heading : String)
    (root : Place)
    (progress : Progress α) :
    Prop where
  nodup : progress.visited.Nodup
  reached : ∀ place ∈ progress.visited, reader.Reaches heading root place
  manifests : ∀ path, .manifest path ∈ progress.agenda →
    ∃ place, reader.tree.resolve path = .ok place ∧ reader.Reaches heading root place
  entries : ∀ path value, .entry path value ∈ progress.agenda →
    ∃ place ∈ progress.visited,
      reader.tree.resolve path = .ok place ∧ place ∈ reader.tree.files ∧
        value ∈ reader.entriesAt heading place

/-- What a glob entry gives way to are paths to the files it leads to. -/
theorem resolve_of_matches
    {path base : Path}
    {origin place target : Place}
    {value : Json.Value}
    {text : String}
    {pattern : Glob.Pattern}
    {names : List String}
    (wellFormed : reader.tree.WellFormed)
    (isFile : origin ∈ reader.tree.files)
    (resolved : reader.tree.resolve path = .ok origin)
    (isGlob : Entry.read? readItem value = some (.glob text))
    (parsed : Glob.Pattern.parse? text = some pattern)
    (isBase : path.parent? = some base)
    (led : reader.tree.behind base = .ok place)
    (leads : pattern.Matches reader.tree place names target)
    (accepted : reader.modules.accepts names = true) :
    reader.tree.resolve (base.joinAll names) = .ok target ∧ reader.LeadsBy value origin target := by
  obtain ⟨parent, isParent, ledParent⟩ := wellFormed.parent_of_file resolved isFile
  cases isBase.symm.trans isParent
  cases led.symm.trans ledParent
  have isDirectory := wellFormed.node?_dropLast_of_file isFile
  constructor
  · rw [Glob.resolve_joinAll led (leads.isIdle wellFormed (Glob.isIdle_of_parse? parsed))
      fun _ => leads.ne_nil wellFormed isDirectory, leads.follow wellFormed]
  · exact ⟨text, pattern, names, read?_eq_glob.mp isGlob, parsed, leads, accepted⟩

theorem Grounded.step
    {root : Place}
    {before after : Progress α}
    (wellFormed : reader.tree.WellFormed)
    (grounded : Grounded reader heading root before)
    (step : Step reader heading readItem before after) :
    Grounded reader heading root after := by
  cases step with
  | again =>
      exact ⟨grounded.nodup, grounded.reached,
        fun path member => grounded.manifests path (.tail _ member),
        fun path value member => grounded.entries path value (.tail _ member)⟩
  | @opens path place values agenda visited found resolved isNew listed =>
      obtain ⟨other, resolvedToo, isFile, hasValues⟩ := Reader.listed_eq_ok wellFormed listed
      cases resolved.symm.trans resolvedToo
      refine ⟨?_, ?_, ?_, ?_⟩
      · exact grounded.nodup.append (List.nodup_singleton place) (by simpa using isNew)
      · intro visitedPlace member
        rcases List.mem_append.mp member with isVisited | isPlace
        · exact grounded.reached visitedPlace isVisited
        · obtain rfl := List.mem_singleton.mp isPlace
          obtain ⟨other, resolvedToo, reaches⟩ := grounded.manifests path (.head _)
          cases resolved.symm.trans resolvedToo
          exact reaches
      · intro other member
        rcases List.mem_append.mp member with isEntry | inAgenda
        · simp at isEntry
        · exact grounded.manifests other (.tail _ inAgenda)
      · intro other value member
        rcases List.mem_append.mp member with isEntry | inAgenda
        · obtain ⟨entry, isValue, same⟩ := List.mem_map.mp isEntry
          cases same
          exact ⟨place, List.mem_append_right _ (.head _), resolved, isFile, hasValues ▸ isValue⟩
        · obtain ⟨origin, isVisited, rest⟩ := grounded.entries other value (.tail _ inAgenda)
          exact ⟨origin, List.mem_append_left _ isVisited, rest⟩
  | item =>
      exact ⟨grounded.nodup, grounded.reached,
        fun path member => grounded.manifests path (.tail _ member),
        fun path value member => grounded.entries path value (.tail _ member)⟩
  | @glob path base place value text pattern files _ _ _ isGlob parsed isBase led lists =>
      obtain ⟨origin, isVisited, leadsTo, isFile, isEntry⟩ :=
        grounded.entries path value (.head _)
      refine ⟨grounded.nodup, grounded.reached, ?_, ?_⟩
      · intro other member
        rcases List.mem_append.mp member with isMatch | inAgenda
        · obtain ⟨names, isListed, same⟩ := List.mem_map.mp isMatch
          cases same
          obtain ⟨isName, accepted⟩ := List.mem_filter.mp isListed
          obtain ⟨_, target, leads⟩ := (lists.mem_iff names).mp isName
          obtain ⟨resolvedToo, leadsBy⟩ :=
            resolve_of_matches wellFormed isFile leadsTo isGlob parsed isBase led leads accepted
          exact ⟨target, resolvedToo,
            (grounded.reached origin isVisited).tail ⟨value, isEntry, leadsBy⟩⟩
        · exact grounded.manifests other (.tail _ inAgenda)
      · intro other entry member
        rcases List.mem_append.mp member with isMatch | inAgenda
        · simp at isMatch
        · exact grounded.entries other entry (.tail _ inAgenda)

/-- What a glob entry gives way to are paths whose parents are spelled, if its own one is. -/
theorem housed_of_matches
    {path base : Path}
    {place target : Place}
    {text : String}
    {pattern : Glob.Pattern}
    {names : List String}
    (wellFormed : reader.tree.WellFormed)
    (isDirectory : reader.tree.node? place = some .directory)
    (parsed : Glob.Pattern.parse? text = some pattern)
    (isBase : path.parent? = some base)
    (housed : path.Housed)
    (leads : pattern.Matches reader.tree place names target) :
    (base.joinAll names).Housed :=
  housed.joinAll isBase (leads.ne_nil wellFormed isDirectory)
    (leads.isIdle wellFormed (Glob.isIdle_of_parse? parsed))

/-- Nothing that can be reached from the manifest at a place gets lost. -/
structure Covering
    (reader : Reader)
    (heading : String)
    (root : Place)
    (progress : Progress α) :
    Prop where
  rooted : Due reader progress root
  housed : ∀ task ∈ progress.agenda, task.path.Housed
  /-- An entry of what was opened is on the agenda, or everything it leads to is due. -/
  closed : ∀ place ∈ progress.visited, ∀ value ∈ reader.entriesAt heading place,
    (∃ path, .entry path value ∈ progress.agenda ∧ reader.tree.resolve path = .ok place) ∨
      ∀ target, reader.LeadsBy value place target → Due reader progress target

/-- A step goes on with manifests whose parents are spelled. -/
theorem Covering.housed_step
    {root : Place}
    {before after : Progress α}
    (wellFormed : reader.tree.WellFormed)
    (grounded : Grounded reader heading root before)
    (covering : Covering reader heading root before)
    (step : Step reader heading readItem before after) :
    ∀ task ∈ after.agenda, task.path.Housed := by
  intro task member
  cases step with
  | again => exact covering.housed task (.tail _ member)
  | @opens path =>
      rcases List.mem_append.mp member with isEntry | inAgenda
      · obtain ⟨entry, _, rfl⟩ := List.mem_map.mp isEntry
        exact covering.housed (.manifest path) (.head _)
      · exact covering.housed task (.tail _ inAgenda)
  | item => exact covering.housed task (.tail _ member)
  | @glob path base place value text pattern files _ _ _ isGlob parsed isBase led lists =>
      rcases List.mem_append.mp member with isMatch | inAgenda
      · obtain ⟨names, isListed, rfl⟩ := List.mem_map.mp isMatch
        obtain ⟨_, target, leads⟩ := (lists.mem_iff names).mp (List.mem_filter.mp isListed).1
        obtain ⟨origin, _, leadsTo, isFile, _⟩ := grounded.entries path value (.head _)
        obtain ⟨parent, isParent, ledParent⟩ := wellFormed.parent_of_file leadsTo isFile
        cases isBase.symm.trans isParent
        cases led.symm.trans ledParent
        exact housed_of_matches wellFormed (wellFormed.node?_dropLast_of_file isFile) parsed isBase
          (covering.housed _ (.head _)) leads
      · exact covering.housed task (.tail _ inAgenda)

theorem Covering.step
    {root : Place}
    {before after : Progress α}
    (wellFormed : reader.tree.WellFormed)
    (grounded : Grounded reader heading root before)
    (covering : Covering reader heading root before)
    (step : Step reader heading readItem before after) :
    Covering reader heading root after := by
  refine ⟨covering.rooted.step step, covering.housed_step wellFormed grounded step, ?_⟩
  have isDue {origin : Place} {value : Json.Value}
      (due : ∀ target, reader.LeadsBy value origin target → Due reader before target) :
      ∀ target, reader.LeadsBy value origin target → Due reader after target :=
    fun target leads => (due target leads).step step
  cases step with
  | again resolved isVisited =>
      intro origin isOrigin entry isEntry
      rcases covering.closed origin isOrigin entry isEntry with ⟨path, member, leads⟩ | due
      · rcases List.mem_cons.mp member with same | inAgenda
        · cases same
        · exact .inl ⟨path, inAgenda, leads⟩
      · exact .inr (isDue due)
  | @opens path place _ _ _ _ resolved isNew listed =>
      obtain ⟨other, resolvedToo, isFile, hasValues⟩ := Reader.listed_eq_ok wellFormed listed
      cases resolved.symm.trans resolvedToo
      intro origin isOrigin entry isEntry
      rcases List.mem_append.mp isOrigin with isVisited | isPlace
      · rcases covering.closed origin isVisited entry isEntry with ⟨path, member, leads⟩ | due
        · rcases List.mem_cons.mp member with same | inAgenda
          · cases same
          · exact .inl ⟨path, List.mem_append_right _ inAgenda, leads⟩
        · exact .inr (isDue due)
      · obtain rfl := List.mem_singleton.mp isPlace
        refine .inl ⟨path, List.mem_append_left _ (List.mem_map.mpr ⟨entry, ?_, rfl⟩), resolved⟩
        exact hasValues ▸ isEntry
  | item isItem =>
      intro origin isOrigin entry isEntry
      rcases covering.closed origin isOrigin entry isEntry with ⟨path, member, leads⟩ | due
      · rcases List.mem_cons.mp member with same | inAgenda
        · -- an item leads nowhere
          cases same
          refine .inr fun target leadsBy => ?_
          obtain ⟨text, _, _, isText, _⟩ := leadsBy
          cases isItem.symm.trans (read?_eq_glob.mpr isText)
        · exact .inl ⟨path, inAgenda, leads⟩
      · exact .inr (isDue due)
  | glob isGlob parsed isBase led lists =>
      intro origin isOrigin entry isEntry
      rcases covering.closed origin isOrigin entry isEntry with ⟨path, member, leads⟩ | due
      · rcases List.mem_cons.mp member with same | inAgenda
        · -- the files that the glob leads to are on the agenda now
          cases same
          obtain ⟨other, _, leadsTo, isFile, _⟩ := grounded.entries _ _ (.head _)
          cases leads.symm.trans leadsTo
          refine .inr fun target leadsBy => .inr ?_
          obtain ⟨text, pattern, names, isText, parsedToo, leadsByNames, accepted⟩ := leadsBy
          cases isGlob.symm.trans (read?_eq_glob.mpr isText)
          cases parsed.symm.trans parsedToo
          obtain ⟨parent, isParent, ledParent⟩ := wellFormed.parent_of_file leads isFile
          cases isBase.symm.trans isParent
          cases led.symm.trans ledParent
          have nonempty := covering.housed _ (.head _) _ isBase
          have listed := List.mem_filter.mpr
            ⟨(lists.mem_iff names).mpr ⟨.of_nonempty nonempty, target, leadsByNames⟩, accepted⟩
          exact ⟨_, List.mem_append_left _ (List.mem_map.mpr ⟨names, listed, rfl⟩),
            (resolve_of_matches wellFormed isFile leads isGlob parsed isBase led leadsByNames
              accepted).1⟩
        · exact .inl ⟨path, List.mem_append_right _ inAgenda, leads⟩
      · exact .inr (isDue due)

/-- The items put out and those on the agenda are those of the manifests opened. -/
def Balanced
    (reader : Reader)
    (heading : String)
    (readItem : Json.Value → Option α)
    (progress : Progress α) :
    Prop :=
  (progress.found ++ progress.agenda.flatMap (Task.pending readItem)).Perm
    (progress.visited.flatMap (reader.itemsAt heading readItem))

theorem Balanced.step
    {before after : Progress α}
    (wellFormed : reader.tree.WellFormed)
    (balanced : Balanced reader heading readItem before)
    (step : Step reader heading readItem before after) :
    Balanced reader heading readItem after := by
  unfold Balanced at balanced ⊢
  cases step with
  | again => simpa [Task.pending] using balanced
  | @opens path place values agenda visited found resolved isNew listed =>
      obtain ⟨other, resolvedToo, _, hasValues⟩ := Reader.listed_eq_ok wellFormed listed
      cases resolved.symm.trans resolvedToo
      have pendingHere :
          (values.map (Task.entry path)).flatMap (Task.pending readItem) =
            reader.itemsAt heading readItem place := by
        rw [Reader.itemsAt, hasValues, List.filterMap_eq_flatMap_toList, List.flatMap_map]
        rfl
      simp only [List.flatMap_cons, Task.pending, List.nil_append] at balanced
      simp only [List.flatMap_append, pendingHere, List.flatMap_singleton]
      calc found ++ (reader.itemsAt heading readItem place ++
              agenda.flatMap (Task.pending readItem))
          |>.Perm ((found ++ agenda.flatMap (Task.pending readItem)) ++
              reader.itemsAt heading readItem place) := by
            rw [List.append_assoc]
            exact List.perm_append_comm.append_left found
        _ |>.Perm _ := balanced.append_right _
  | item isItem => simpa [Task.pending, Reader.itemOf?, isItem] using balanced
  | glob isGlob =>
      have nothing (base : Path) (files : List (List String)) :
          (files.map fun names => Task.manifest (base.joinAll names)).flatMap
            (Task.pending readItem) = [] := by
        simp [Task.pending]
      simpa [Task.pending, Reader.itemOf?, isGlob, nothing] using balanced

/-- A traversal from a path that did everything there was to do opened nothing but what can be
reached from there, each once, and put out the items of that; it left nothing out if the parent of
the path is spelled. -/
theorem Runs.finished
    {path : Path}
    {root : Place}
    {order : List Place}
    {items : List α}
    (wellFormed : reader.tree.WellFormed)
    (resolved : reader.tree.resolve path = .ok root)
    (runs : Runs reader heading readItem (.start path) ⟨[], order, items⟩) :
    order.Nodup ∧ (∀ place ∈ order, reader.Reaches heading root place) ∧
      (path.Housed → ∀ place, reader.Reaches heading root place → place ∈ order) ∧
      items.Perm (order.flatMap (reader.itemsAt heading readItem)) := by
  have onlyStart {task : Task} (member : task ∈ (Progress.start path : Progress α).agenda) :
      task = .manifest path :=
    List.mem_singleton.mp member
  have start : Grounded reader heading root (.start path : Progress α) := by
    refine ⟨.nil, by simp [Progress.start], fun other member => ?_, by simp [Progress.start]⟩
    obtain rfl := Task.manifest.inj (onlyStart member)
    exact ⟨root, resolved, .refl⟩
  have covers (housed : path.Housed) : Covering reader heading root (.start path : Progress α) := by
    refine ⟨.inr ⟨path, .head _, resolved⟩, fun task member => ?_, by simp [Progress.start]⟩
    obtain rfl := onlyStart member
    exact housed
  have kept {now : Progress α}
      (going : Runs reader heading readItem (.start path) now) :
      Grounded reader heading root now ∧ (path.Housed → Covering reader heading root now) ∧
        Balanced reader heading readItem now := by
    induction going with
    | refl =>
        exact ⟨start, covers, by simp [Balanced, Progress.start, Task.pending]⟩
    | tail _ step inductionHypothesis =>
        obtain ⟨grounded, covering, balanced⟩ := inductionHypothesis
        exact ⟨grounded.step wellFormed step,
          fun housed => (covering housed).step wellFormed grounded step,
          balanced.step wellFormed step⟩
  obtain ⟨grounded, covering, balanced⟩ := kept runs
  -- with nothing on the agenda, to be due is to be opened
  have opened {place : Place} (due : Due reader (⟨[], order, items⟩ : Progress α) place) :
      place ∈ order := by
    rcases due with isVisited | ⟨other, member, _⟩
    · exact isVisited
    · cases member
  refine ⟨grounded.nodup, grounded.reached, fun housed place reaches => ?_, ?_⟩
  · induction reaches with
    | refl => exact opened (covering housed).rooted
    | tail _ leads inductionHypothesis =>
        obtain ⟨value, isEntry, leadsBy⟩ := leads
        have closed := (covering housed).closed _ inductionHypothesis value isEntry
        rcases closed with ⟨_, member, _⟩ | due
        · cases member
        · exact opened (due _ leadsBy)
  · simpa [Balanced] using balanced

/-- Two traversals from one start that can go no further end alike. -/
theorem Runs.unique
    {start final other : Progress α}
    (runs : Runs reader heading readItem start final)
    (runsToo : Runs reader heading readItem start other)
    (done : ∀ after, ¬ Step reader heading readItem final after)
    (doneToo : ∀ after, ¬ Step reader heading readItem other after) :
    final = other := by
  have stays {first last : Progress α}
      (isDone : ∀ after, ¬ Step reader heading readItem first after)
      (going : Runs reader heading readItem first last) :
      first = last := by
    rcases going.cases_head with same | ⟨after, step, _⟩
    · exact same
    · exact absurd step (isDone after)
  have oneWay : Relator.RightUnique (Step reader heading readItem) := fun _ _ _ => Step.unique
  rcases Relation.ReflTransGen.total_of_right_unique oneWay runs runsToo with onward | onward
  · exact stays done onward
  · exact (stays doneToo onward).symm

end Switchboard.Manifest
