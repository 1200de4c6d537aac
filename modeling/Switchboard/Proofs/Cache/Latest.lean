import Switchboard.Proofs.Cache.Faithful

namespace Switchboard

/-!
# What a cache in memory answers

A cache in memory is used by one operation after another, each at a time of its own.  Most of what
it does cannot be seen in what it answers: `answers_from_latest_set` says that an answer is the
value that was last stored under the key, unless it was removed since or its lifetime is over.

A value whose lifetime goes beyond what a clock can tell is never stored: `set` panics before it
comes to that, and whoever goes on with the cache afterwards finds what was there before.
-/

variable {α : Type}

namespace CacheStore

variable {χ : Type} [CacheStore χ α]

/-- Storing several entries leaves what storing them one by one leaves. -/
theorem setMultiple_snd
    (store : χ)
    (now : Instant)
    (values : List (String × α))
    (ttl : Option Ttl) :
    (setMultiple store now values ttl).2 =
      values.foldl (fun store entry => (set store now entry.1 entry.2 ttl).2) store := by
  unfold setMultiple
  generalize true = allStored
  induction values generalizing store allStored with
  | nil => rfl
  | cons entry values inductionHypothesis => exact inductionHypothesis _ _

/-- Removing several entries leaves what removing them one by one leaves. -/
theorem deleteMultiple_snd
    (store : χ)
    (keys : List String) :
    (deleteMultiple (α := α) store keys).2 =
      keys.foldl (fun store key => (delete (α := α) store key).2) store := by
  unfold deleteMultiple
  generalize true = allDeleted
  induction keys generalizing store allDeleted with
  | nil => rfl
  | cons key keys inductionHypothesis => exact inductionHypothesis _ _

end CacheStore

/-- What can be done with a cache. -/
inductive CacheOperation (α : Type) where
  | get (key : String)
  | getOr (key : String) (fallback : α)
  | getMultiple (keys : List String)
  | has (key : String)
  | set (key : String) (value : α) (ttl : Option Ttl)
  | setMultiple (values : List (String × α)) (ttl : Option Ttl)
  | delete (key : String)
  | deleteMultiple (keys : List String)
  | clear

/-- A value that was stored, when, and how long it was to stay. -/
structure Deposit (α : Type) where
  time : Instant
  value : α
  ttl : Option Ttl

/-- A change of what a cache has to answer. -/
inductive CacheChange (α : Type) where
  | stored (key : String) (deposit : Deposit α)
  | removed (key : String)
  | emptied

namespace CacheOperation

/-- The cache after an operation at a time. -/
def run (operation : CacheOperation α) (now : Instant) (cache : MemoryCache α) : MemoryCache α :=
  match operation with
  | .get key => (CacheStore.get cache now key).2
  | .getOr key fallback => (CacheStore.getOr cache now key fallback).2
  | .getMultiple keys => (CacheStore.getMultiple cache now keys).2
  | .has _ => cache
  | .set key value ttl => (CacheStore.set cache now key value ttl).2
  | .setMultiple values ttl => (CacheStore.setMultiple cache now values ttl).2
  | .delete key => (CacheStore.delete (α := α) cache key).2
  | .deleteMultiple keys => (CacheStore.deleteMultiple (α := α) cache keys).2
  | .clear => (CacheStore.clear (α := α) cache).2

/-- The changes that an operation at a time stands for, in order; reading changes nothing. -/
def changes (operation : CacheOperation α) (now : Instant) : List (CacheChange α) :=
  match operation with
  | .get _ | .getOr _ _ | .getMultiple _ | .has _ => []
  | .set key value ttl => [.stored key { time := now, value := value, ttl := ttl }]
  | .setMultiple values ttl =>
      values.map fun entry => .stored entry.1 { time := now, value := entry.2, ttl := ttl }
  | .delete key => [.removed key]
  | .deleteMultiple keys => keys.map .removed
  | .clear => [.emptied]

/-- The cache after operations, each with its time. -/
def runAll
    (cache : MemoryCache α)
    (history : List (Instant × CacheOperation α)) :
    MemoryCache α :=
  history.foldl (fun cache deed => deed.2.run deed.1 cache) cache

/-- All changes that operations stand for, in order. -/
def allChanges (history : List (Instant × CacheOperation α)) : List (CacheChange α) :=
  history.flatMap fun deed => deed.2.changes deed.1

end CacheOperation

/-- Whether a clock can tell when the lifetime of a deposit is over, if it is limited. -/
def Deposit.isBounded (deposit : Deposit α) (defaultTtl : Option Ttl) : Bool :=
  match deposit.ttl <|> defaultTtl with
  | none => true
  | some ttl => decide (ttl.nanos = 0 ∨ deposit.time + ttl.nanos ≤ lastInstant)

/-- Storing in a cache in memory panics exactly where the lifetime goes beyond the clock. -/
theorem MemoryCache.stops_eq_not_isBounded
    (cache : MemoryCache α)
    (deposit : Deposit α) :
    cache.stops deposit.time deposit.ttl = !deposit.isBounded cache.defaultTtl := by
  unfold stops expiry Deposit.isBounded
  cases deposit.ttl <|> cache.defaultTtl with
  | none => rfl
  | some ttl =>
      by_cases unlimited : ttl.nanos = 0
      · simp [Ttl.lifetime?, unlimited]
      · by_cases beyond : lastInstant < deposit.time + ttl.nanos
        · simp [Ttl.lifetime?, unlimited, beyond]
        · simp [Ttl.lifetime?, unlimited, beyond, Nat.le_of_not_lt beyond]

namespace CacheChange

/-- Whether a change takes place: storing does not where it panics. -/
def takesPlace (defaultTtl : Option Ttl) : CacheChange α → Bool
  | .stored _ deposit => deposit.isBounded defaultTtl
  | .removed _ | .emptied => true

/-- Whether a change has to do with a key. -/
def Concerns (change : CacheChange α) (key : String) : Prop :=
  match change with
  | .stored other _ => other = key
  | .removed other => other = key
  | .emptied => True

/-- What was stored last under a key, if neither the key was removed since nor all of them. -/
def Latest (changes : List (CacheChange α)) (key : String) (deposit : Deposit α) : Prop :=
  ∃ earlier later,
    changes = earlier ++ .stored key deposit :: later ∧
      ∀ change ∈ later, ¬change.Concerns key

/-- What becomes of a cache with a change. -/
def apply (change : CacheChange α) (cache : MemoryCache α) : MemoryCache α :=
  match change with
  | .stored key deposit => cache.set deposit.time key deposit.value deposit.ttl
  | .removed key => cache.delete key
  | .emptied => cache.clear

/-- What was stored last is what is stored now, or was before and is not concerned now. -/
theorem latest_append_singleton
    {changes : List (CacheChange α)}
    {change : CacheChange α}
    {key : String}
    {deposit : Deposit α} :
    Latest (changes ++ [change]) key deposit ↔
      change = .stored key deposit ∨ Latest changes key deposit ∧ ¬change.Concerns key := by
  constructor
  · rintro ⟨earlier, later, split, untouched⟩
    rcases List.eq_nil_or_concat later with rfl | ⟨before, last, rfl⟩
    · have same := (List.append_inj' split rfl).2
      exact .inl (List.cons.inj same).1
    · rw [List.concat_eq_append, ← List.cons_append, ← List.append_assoc] at split
      obtain ⟨rfl, same⟩ := List.append_inj' split rfl
      obtain rfl := (List.cons.inj same).1
      refine .inr ⟨⟨earlier, before, rfl, fun other member => ?_⟩, ?_⟩
      · exact untouched other (by simp [member])
      · exact untouched change (by simp)
  · rintro (rfl | ⟨⟨earlier, later, rfl, untouched⟩, apart⟩)
    · exact ⟨changes, [], rfl, by simp⟩
    · refine ⟨earlier, later ++ [change], by simp, fun other member => ?_⟩
      rcases List.mem_append.mp member with isLater | isLast
      · exact untouched other isLater
      · obtain rfl := List.mem_singleton.mp isLast
        exact apart

/-- Changes that do not concern a key leave what was stored last under it alone. -/
theorem latest_append_of_apart
    {changes more : List (CacheChange α)}
    {key : String}
    {deposit : Deposit α}
    (apart : ∀ change ∈ more, ¬change.Concerns key) :
    Latest (changes ++ more) key deposit ↔ Latest changes key deposit := by
  induction more generalizing changes with
  | nil => rw [List.append_nil]
  | cons change more inductionHypothesis =>
      have apartFirst := apart change List.mem_cons_self
      have isOther : change ≠ .stored key deposit := by
        rintro rfl
        exact apartFirst rfl
      have later :
          Latest ((changes ++ [change]) ++ more) key deposit ↔
            Latest (changes ++ [change]) key deposit :=
        inductionHypothesis fun other member => apart other (List.mem_cons_of_mem _ member)
      rw [List.append_assoc, List.singleton_append] at later
      rw [later, latest_append_singleton]
      simp [isOther, apartFirst]

end CacheChange

/-- The changes that took place with operations, in order. -/
def CacheOperation.doneChanges
    (defaultTtl : Option Ttl)
    (history : List (Instant × CacheOperation α)) :
    List (CacheChange α) :=
  (allChanges history).filter (CacheChange.takesPlace defaultTtl)

namespace Deposit

/-- The entry that a cache makes of a deposit. -/
def entry (deposit : Deposit α) (defaultTtl : Option Ttl) : CacheEntry α :=
  { value := deposit.value
    expiresAt := ((deposit.ttl <|> defaultTtl).bind Ttl.lifetime?).map (deposit.time + ·) }

/-- Whether the lifetime of a deposit goes on, which is its own or else the default one; without
any, or with one of zero, it never ends. -/
def Lasts (deposit : Deposit α) (defaultTtl : Option Ttl) (now : Instant) : Prop :=
  match deposit.ttl <|> defaultTtl with
  | none => True
  | some ttl => ttl.nanos = 0 ∨ now < deposit.time + ttl.nanos

theorem isLive_entry_iff
    {deposit : Deposit α}
    {defaultTtl : Option Ttl}
    {now : Instant} :
    (deposit.entry defaultTtl).isLive now = true ↔ deposit.Lasts defaultTtl now := by
  unfold entry Lasts CacheEntry.isLive
  cases deposit.ttl <|> defaultTtl with
  | none => simp
  | some ttl =>
      by_cases unlimited : ttl.nanos = 0
      · simp [Ttl.lifetime?, unlimited]
      · simp [Ttl.lifetime?, unlimited]

end Deposit

namespace MemoryCache

open CacheChange (Latest)
open CacheOperation (runAll doneChanges)

/-- A change that does not concern a key leaves its entry in place. -/
theorem find?_apply_of_apart
    {change : CacheChange α}
    {cache : MemoryCache α}
    {key : String}
    (apart : ¬change.Concerns key) :
    (change.apply cache).entries.find? key = cache.entries.find? key := by
  cases change with
  | stored other deposit => exact find?_set_of_ne apart cache _ _ _
  | removed other => exact (Dict.find?_erase _ other key).trans (if_neg apart)
  | emptied => exact absurd trivial apart

/-- A change that does not take place leaves the cache as it is. -/
theorem apply_of_not_takesPlace
    {change : CacheChange α}
    {cache : MemoryCache α}
    (panics : change.takesPlace cache.defaultTtl = false) :
    change.apply cache = cache := by
  cases change with
  | stored key deposit =>
      have stops : cache.stops deposit.time deposit.ttl = true := by
        rw [cache.stops_eq_not_isBounded, show deposit.isBounded _ = false from panics]
        rfl
      exact set_of_stops stops key deposit.value
  | removed key => cases panics
  | emptied => cases panics

/-- A change that concerns a key leaves an entry there only if it stores one. -/
theorem find?_apply_of_concerns
    {change : CacheChange α}
    {cache : MemoryCache α}
    {key : String}
    {entry : CacheEntry α}
    (happens : change.takesPlace cache.defaultTtl = true)
    (concerns : change.Concerns key) :
    (change.apply cache).entries.find? key = some entry ↔
      ∃ deposit, change = .stored key deposit ∧ entry = deposit.entry cache.defaultTtl := by
  cases change with
  | stored other deposit =>
      obtain rfl : other = key := concerns
      have goes : cache.stops deposit.time deposit.ttl = false := by
        rw [cache.stops_eq_not_isBounded, show deposit.isBounded _ = true from happens]
        rfl
      rw [CacheChange.apply, find?_set goes, if_pos rfl, Option.some.injEq]
      constructor
      · rintro rfl
        exact ⟨deposit, rfl, rfl⟩
      · rintro ⟨given, same, rfl⟩
        cases same
        rfl
  | removed other =>
      obtain rfl : other = key := concerns
      simp [CacheChange.apply, delete, Dict.find?_erase]
  | emptied => simp [CacheChange.apply, clear]

/-- What a cache has was stored last under its key, and it has everything that was and still lasts
at a time, up to which it may have been read. -/
structure Reflects
    (cache : MemoryCache α)
    (defaultTtl : Option Ttl)
    (changes : List (CacheChange α))
    (now : Instant) :
    Prop where
  sameDefault : cache.defaultTtl = defaultTtl
  stored : ∀ key entry, cache.entries.find? key = some entry →
    ∃ deposit, Latest changes key deposit ∧ entry = deposit.entry defaultTtl
  kept : ∀ key deposit, Latest changes key deposit → deposit.Lasts defaultTtl now →
    cache.entries.find? key = some (deposit.entry defaultTtl)

theorem reflects_empty (defaultTtl : Option Ttl) (now : Instant) :
    (empty defaultTtl : MemoryCache α).Reflects defaultTtl [] now where
  sameDefault := rfl
  stored _ _ held := nomatch held
  kept := by
    rintro key deposit ⟨earlier, later, split, _⟩
    simp at split

namespace Reflects

variable
  {cache : MemoryCache α}
  {defaultTtl : Option Ttl}
  {changes : List (CacheChange α)}
  {now : Instant}

/-- Reading may remove an entry, but none that lasts. -/
theorem get
    (reflects : cache.Reflects defaultTtl changes now)
    {time : Instant}
    (past : time ≤ now)
    (key : String) :
    (cache.get time key).2.Reflects defaultTtl changes now where
  sameDefault := (defaultTtl_get cache time key).trans reflects.sameDefault
  stored other entry held := reflects.stored other entry (find?_of_find?_get held)
  kept other deposit latest lasts :=
    find?_get_of_live (reflects.kept other deposit latest lasts)
      (isLive_earlier past (Deposit.isLive_entry_iff.mpr lasts))

/-- Changing the cache is changing what was stored last. -/
theorem apply
    (reflects : cache.Reflects defaultTtl changes now)
    {change : CacheChange α}
    (happens : change.takesPlace defaultTtl = true) :
    (change.apply cache).Reflects defaultTtl (changes ++ [change]) now where
  sameDefault := by
    rw [← reflects.sameDefault]
    cases change with
    | stored key deposit => exact defaultTtl_set cache _ _ _ _
    | removed key => rfl
    | emptied => rfl
  stored key entry held := by
    have happensHere := reflects.sameDefault.symm ▸ happens
    by_cases concerns : change.Concerns key
    · obtain ⟨deposit, isStored, isEntry⟩ :=
        (find?_apply_of_concerns happensHere concerns).mp held
      rw [reflects.sameDefault] at isEntry
      exact ⟨deposit, CacheChange.latest_append_singleton.mpr (.inl isStored), isEntry⟩
    · rw [find?_apply_of_apart concerns] at held
      obtain ⟨deposit, latest, isEntry⟩ := reflects.stored key entry held
      exact ⟨deposit, CacheChange.latest_append_singleton.mpr (.inr ⟨latest, concerns⟩), isEntry⟩
  kept key deposit latest lasts := by
    rcases CacheChange.latest_append_singleton.mp latest with isStored | ⟨before, apart⟩
    · have concerns : change.Concerns key := isStored ▸ rfl
      have happensHere := reflects.sameDefault.symm ▸ happens
      rw [← reflects.sameDefault]
      exact (find?_apply_of_concerns happensHere concerns).mpr ⟨deposit, isStored, rfl⟩
    · rw [find?_apply_of_apart apart]
      exact reflects.kept key deposit before lasts

theorem applyAll
    (reflects : cache.Reflects defaultTtl changes now)
    (more : List (CacheChange α)) :
    (more.foldl (fun cache change => change.apply cache) cache).Reflects defaultTtl
      (changes ++ more.filter (CacheChange.takesPlace defaultTtl)) now := by
  induction more generalizing cache changes with
  | nil => simpa using reflects
  | cons change more inductionHypothesis =>
      cases happens : change.takesPlace defaultTtl with
      | false =>
          rw [List.foldl_cons, List.filter_cons_of_neg (by simp [happens]),
            apply_of_not_takesPlace (reflects.sameDefault.symm ▸ happens)]
          exact inductionHypothesis reflects
      | true =>
          have later := inductionHypothesis (reflects.apply happens)
          rwa [List.append_assoc, List.singleton_append, ← List.filter_cons_of_pos happens] at later

theorem getMultiple
    (reflects : cache.Reflects defaultTtl changes now)
    {time : Instant}
    (past : time ≤ now)
    (keys : List String) :
    (CacheStore.getMultiple cache time keys).2.Reflects defaultTtl changes now := by
  induction keys generalizing cache with
  | nil => exact reflects
  | cons key keys inductionHypothesis => exact inductionHypothesis (reflects.get past key)

/-- An operation changes what was stored last as it says, unless it panics. -/
theorem run
    (reflects : cache.Reflects defaultTtl changes now)
    {time : Instant}
    (past : time ≤ now)
    (operation : CacheOperation α) :
    (operation.run time cache).Reflects defaultTtl
      (changes ++ (operation.changes time).filter (CacheChange.takesPlace defaultTtl)) now := by
  cases operation with
  | get key =>
      rw [CacheOperation.changes, List.filter_nil, List.append_nil]
      exact reflects.get past key
  | getOr key fallback =>
      rw [CacheOperation.changes, List.filter_nil, List.append_nil]
      exact reflects.get past key
  | getMultiple keys =>
      rw [CacheOperation.changes, List.filter_nil, List.append_nil]
      exact reflects.getMultiple past keys
  | has key =>
      rw [CacheOperation.changes, List.filter_nil, List.append_nil]
      exact reflects
  | set key value ttl =>
      exact reflects.applyAll [.stored key { time := time, value := value, ttl := ttl }]
  | delete key => exact reflects.applyAll [.removed key]
  | clear => exact reflects.applyAll [.emptied]
  | setMultiple values ttl =>
      have all := reflects.applyAll (CacheOperation.changes (.setMultiple values ttl) time)
      rw [CacheOperation.changes, List.foldl_map] at all
      rw [CacheOperation.run, CacheStore.setMultiple_snd]
      exact all
  | deleteMultiple keys =>
      have all := reflects.applyAll (CacheOperation.changes (.deleteMultiple keys) time)
      rw [CacheOperation.changes, List.foldl_map] at all
      rw [CacheOperation.run, CacheStore.deleteMultiple_snd]
      exact all

theorem runAll
    (reflects : cache.Reflects defaultTtl changes now)
    {history : List (Instant × CacheOperation α)}
    (past : ∀ deed ∈ history, deed.1 ≤ now) :
    (CacheOperation.runAll cache history).Reflects defaultTtl
      (changes ++ doneChanges defaultTtl history) now := by
  induction history generalizing cache changes with
  | nil => simpa [CacheOperation.runAll, doneChanges, CacheOperation.allChanges] using reflects
  | cons deed history inductionHypothesis =>
      have later :=
        inductionHypothesis (reflects.run (past deed List.mem_cons_self) deed.2)
          fun other member => past other (List.mem_cons_of_mem _ member)
      rwa [List.append_assoc, doneChanges, ← List.filter_append] at later

/-- What can be had is what was stored last, while it lasts. -/
theorem get_eq_some_iff
    (reflects : cache.Reflects defaultTtl changes now)
    (key : String)
    (value : α) :
    (cache.get now key).1 = some value ↔
      ∃ deposit, Latest changes key deposit ∧ deposit.Lasts defaultTtl now ∧
        deposit.value = value := by
  rw [get_eq_some]
  constructor
  · rintro ⟨entry, held, live, rfl⟩
    obtain ⟨deposit, latest, rfl⟩ := reflects.stored key entry held
    exact ⟨deposit, latest, Deposit.isLive_entry_iff.mp live, rfl⟩
  · rintro ⟨deposit, latest, lasts, rfl⟩
    exact ⟨_, reflects.kept key deposit latest lasts, Deposit.isLive_entry_iff.mpr lasts, rfl⟩

end Reflects

/-- A cache that started empty reflects what was done with it. -/
theorem reflects_runAll_empty
    (defaultTtl : Option Ttl)
    {history : List (Instant × CacheOperation α)}
    {now : Instant}
    (past : ∀ deed ∈ history, deed.1 ≤ now) :
    (runAll (empty defaultTtl) history).Reflects defaultTtl (doneChanges defaultTtl history) now :=
  (reflects_empty defaultTtl now).runAll past

/-- A value is there exactly if it can be had. -/
theorem has_eq_isSome_get
    (cache : MemoryCache α)
    (now : Instant)
    (key : String) :
    cache.has now key = (cache.get now key).1.isSome := by
  unfold has get
  cases cache.entries.find? key with
  | none => rfl
  | some entry => cases live : entry.isLive now <;> simp [live]

/-- Asking for one key changes no answer about another, nor about the same one. -/
theorem get_after_get
    (cache : MemoryCache α)
    (now : Instant)
    (asked key : String) :
    ((cache.get now asked).2.get now key).1 = (cache.get now key).1 := by
  apply Option.ext
  intro value
  rw [get_eq_some, get_eq_some]
  constructor
  · rintro ⟨entry, held, live, rfl⟩
    exact ⟨entry, find?_of_find?_get held, live, rfl⟩
  · rintro ⟨entry, held, live, rfl⟩
    exact ⟨entry, find?_get_of_live held live, live, rfl⟩

/-- Asking for several keys is asking for each of them. -/
theorem getMultiple_fst
    (cache : MemoryCache α)
    (now : Instant)
    (keys : List String) :
    (CacheStore.getMultiple cache now keys).1 =
      keys.map fun key => (key, (CacheStore.get cache now key).1) := by
  induction keys generalizing cache with
  | nil => rfl
  | cons key keys inductionHypothesis =>
      have others : (CacheStore.getMultiple (cache.get now key).2 now keys).1 =
          keys.map fun other => (other, (cache.get now other).1) := by
        rw [inductionHypothesis]
        exact List.map_congr_left fun other _ =>
          congrArg (Prod.mk other) (get_after_get cache now key other)
      exact congrArg (List.cons (key, (cache.get now key).1)) others

/--
After any operations, none of them later than the question, a cache answers with what was stored
last under the key and neither removed nor emptied out since, as long as its lifetime goes on.
What storing has panicked over was not stored; without that, all changes took place.

So reading a cache changes none of its answers; what cannot be had any more does not come back by
itself; and asking for several keys is asking for each of them.
-/
theorem answers_from_latest_set
    (defaultTtl : Option Ttl)
    (history : List (Instant × CacheOperation α))
    (now : Instant)
    (past : ∀ deed ∈ history, deed.1 ≤ now) :
    let cache : MemoryCache α := runAll (empty defaultTtl) history
    (∀ key value,
      (CacheStore.get cache now key).1 = some value ↔
        ∃ deposit, Latest (doneChanges defaultTtl history) key deposit ∧
          deposit.Lasts defaultTtl now ∧ deposit.value = value) ∧
      (∀ key,
        CacheStore.has cache now key = true ↔
          ∃ deposit, Latest (doneChanges defaultTtl history) key deposit ∧
            deposit.Lasts defaultTtl now) ∧
      (∀ keys,
        (CacheStore.getMultiple cache now keys).1 =
          keys.map fun key => (key, (CacheStore.get cache now key).1)) ∧
      (∀ other : List (Instant × CacheOperation α),
        (∀ deed ∈ other, deed.1 ≤ now) →
          doneChanges defaultTtl other = doneChanges defaultTtl history →
          ∀ key,
            (CacheStore.get (runAll (empty defaultTtl) other) now key).1 =
              (CacheStore.get cache now key).1) ∧
      ∀ (more : List (Instant × CacheOperation α)) (later : Instant),
        now ≤ later → (∀ deed ∈ more, deed.1 ≤ later) →
          ∀ key, (∀ change ∈ doneChanges defaultTtl more, ¬change.Concerns key) →
            ∀ value,
              (CacheStore.get (runAll cache more) later key).1 = some value →
                (CacheStore.get cache now key).1 = some value := by
  intro cache
  have reflects := reflects_runAll_empty defaultTtl past
  have answers := reflects.get_eq_some_iff
  refine ⟨answers, fun key => ?_, getMultiple_fst cache now, ?_, ?_⟩
  · rw [show CacheStore.has cache now key = (cache.get now key).1.isSome from
      has_eq_isSome_get cache now key, Option.isSome_iff_exists]
    constructor
    · rintro ⟨value, found⟩
      obtain ⟨deposit, latest, lasts, _⟩ := (answers key value).mp found
      exact ⟨deposit, latest, lasts⟩
    · rintro ⟨deposit, latest, lasts⟩
      exact ⟨deposit.value, (answers key _).mpr ⟨deposit, latest, lasts, rfl⟩⟩
  · intro other pastToo same key
    apply Option.ext
    intro value
    have answersToo := (reflects_runAll_empty defaultTtl pastToo).get_eq_some_iff key value
    rw [same] at answersToo
    exact answersToo.trans (answers key value).symm
  · intro more later order pastToo key apart value found
    have reflectsLater := (reflects_runAll_empty defaultTtl
      fun deed member => Nat.le_trans (past deed member) order).runAll pastToo
    obtain ⟨deposit, latest, lasts, isValue⟩ := (reflectsLater.get_eq_some_iff key value).mp found
    rw [CacheChange.latest_append_of_apart apart] at latest
    have lastsNow := isLive_earlier order (Deposit.isLive_entry_iff.mpr lasts)
    exact (answers key value).mpr
      ⟨deposit, latest, Deposit.isLive_entry_iff.mp lastsNow, isValue⟩

/-- A value that replaces an expired one is found although the expired one was asked for before. -/
theorem answers_from_latest_set_after_expiry :
    let history : List (Instant × CacheOperation Nat) :=
      [(0, .set "k" 1 (some (.duration 5))), (5, .get "k"), (6, .set "k" 2 (some (.seconds 0)))]
    (∀ deed ∈ history, deed.1 ≤ 9) ∧
      (CacheStore.get (runAll (empty (some (.duration 2))) history) 9 "k").1 = some 2 := by
  intro history
  have past : ∀ deed ∈ history, deed.1 ≤ 9 := by decide
  obtain ⟨answers, _⟩ := answers_from_latest_set (some (.duration 2)) history 9 past
  have changes :
      doneChanges (some (.duration 2)) history =
        [.stored "k" { time := 0, value := 1, ttl := some (.duration 5) },
          .stored "k" { time := 6, value := 2, ttl := some (.seconds 0) }] := by
    rfl
  refine ⟨past, (answers "k" 2).mpr ⟨{ time := 6, value := 2, ttl := some (.seconds 0) }, ?_⟩⟩
  refine ⟨⟨[.stored "k" { time := 0, value := 1, ttl := some (.duration 5) }], [], ?_, nofun⟩,
    .inl rfl, rfl⟩
  exact changes

/-- A value that is to stay for longer than a clock can tell is not stored. -/
example :
    CacheStore.stops (empty none : MemoryCache Nat) 0 (some (.seconds (2 ^ 64 - 1))) = true ∧
      (CacheStore.get
          (runAll (empty none) [(0, .set "k" 1 (some (.seconds (2 ^ 64 - 1))))]) 0 "k").1 =
        (none : Option Nat) := by
  decide

end MemoryCache

end Switchboard
