import Mathlib.Order.Monotone.Basic
import Switchboard.Proofs.Cache.Faithful

namespace Switchboard

/-!
# Caches that recall

A cache recalls if an answer of it is always what was stored last under the key that was asked
for.  It may drop anything at any time, for reasons of its own.  A cache in memory recalls however
long its entries live, and also if time passes between one use and the next.

`ClockedCache` is such a cache in memory: every use of it reads the clock anew, so an entry can
expire in the middle of whatever its user is doing.
-/

variable {χ α : Type}

/-- A cache that has come from another one by asking and storing, and what was stored since, the
latest first. -/
inductive Arises [CacheStore χ α] (start : χ) : List (String × α) → χ → Prop
  | start : Arises start [] start
  | get
      {deposits : List (String × α)}
      {cache : χ}
      (now : Instant)
      (key : String)
      (before : Arises start deposits cache) :
      Arises start deposits (CacheStore.get cache now key).2
  | set
      {deposits : List (String × α)}
      {cache : χ}
      (now : Instant)
      (key : String)
      (value : α)
      (ttl : Option Ttl)
      (goes : CacheStore.stops cache now ttl = false)
      (before : Arises start deposits cache) :
      Arises start ((key, value) :: deposits) (CacheStore.set cache now key value ttl).2

/-- In what has come from a steady cache, storing panics where it did in that one. -/
theorem Arises.stops
    [CacheStore χ α]
    [SteadyStore χ α]
    {start cache : χ}
    {deposits : List (String × α)}
    (arises : Arises start deposits cache)
    (now : Instant)
    (ttl : Option Ttl) :
    CacheStore.stops cache now ttl = CacheStore.stops start now ttl := by
  induction arises with
  | start => rfl
  | get asked key _ inductionHypothesis => rw [SteadyStore.stops_get, inductionHypothesis]
  | set time key value given _ _ inductionHypothesis =>
      rw [SteadyStore.stops_set, inductionHypothesis]

/-- From here on a cache answers with nothing but what was stored last under the key. -/
def Recalls [CacheStore χ α] (start : χ) : Prop :=
  ∀ (deposits : List (String × α)) cache, Arises start deposits cache →
    ∀ now key value,
      (CacheStore.get cache now key).1 = some value → deposits.lookup key = some value

/-- The latest deposit under a key is the first one of the list. -/
theorem lookup_cons_deposit
    (stored key : String)
    (value : α)
    (deposits : List (String × α)) :
    ((stored, value) :: deposits).lookup key =
      if stored = key then some value else deposits.lookup key := by
  by_cases same : stored = key
  · subst same
    simp
  · have differs : (key == stored) = false := beq_eq_false_iff_ne.mpr (Ne.symm same)
    rw [List.lookup_cons, differs, if_neg same]

/-- A cache recalls if its answers are right while something holds of it that using it keeps. -/
theorem recalls_of_kept
    [CacheStore χ α]
    {start : χ}
    (keeps : List (String × α) → χ → Prop)
    (atStart : keeps [] start)
    (get : ∀ deposits cache now key,
      keeps deposits cache → keeps deposits (CacheStore.get cache now key).2)
    (set : ∀ deposits cache now key value ttl,
      CacheStore.stops cache now ttl = false → keeps deposits cache →
        keeps ((key, value) :: deposits) (CacheStore.set cache now key value ttl).2)
    (answers : ∀ deposits cache now key value,
      keeps deposits cache → (CacheStore.get cache now key).1 = some value →
        deposits.lookup key = some value) :
    Recalls start := by
  intro deposits cache arises now key value found
  refine answers deposits cache now key value ?_ found
  clear found
  induction arises with
  | start => exact atStart
  | get now key _ inductionHypothesis => exact get _ _ now key inductionHypothesis
  | set now key value ttl goes _ inductionHypothesis =>
      exact set _ _ now key value ttl goes inductionHypothesis

namespace MemoryCache

/-- Every entry of a cache, live or not, is the latest deposit under its key. -/
def Keeps (deposits : List (String × α)) (cache : MemoryCache α) : Prop :=
  ∀ key entry, cache.entries.find? key = some entry → deposits.lookup key = some entry.value

namespace Keeps

variable {deposits : List (String × α)} {cache : MemoryCache α}

theorem empty (defaultTtl : Option Ttl) : Keeps ([] : List (String × α)) (.empty defaultTtl) :=
  fun _ _ held => nomatch held

theorem get
    (keeps : Keeps deposits cache)
    (now : Instant)
    (key : String) :
    Keeps deposits (cache.get now key).2 :=
  fun other entry held => keeps other entry (find?_of_find?_get held)

theorem set
    {now : Instant}
    {ttl : Option Ttl}
    (keeps : Keeps deposits cache)
    (goes : cache.stops now ttl = false)
    (key : String)
    (value : α) :
    Keeps ((key, value) :: deposits) (cache.set now key value ttl) := by
  intro other entry held
  rw [find?_set goes] at held
  rw [lookup_cons_deposit]
  by_cases same : key = other
  · rw [if_pos same] at held ⊢
    cases held
    rfl
  · rw [if_neg same] at held ⊢
    exact keeps other entry held

/-- What can be had of a cache is an entry of it. -/
theorem answers
    (keeps : Keeps deposits cache)
    {now : Instant}
    {key : String}
    {value : α}
    (found : (cache.get now key).1 = some value) :
    deposits.lookup key = some value := by
  obtain ⟨entry, held, _, rfl⟩ := get_eq_some.mp found
  exact keeps key entry held

end Keeps

theorem recalls_empty (defaultTtl : Option Ttl) :
    Recalls (MemoryCache.empty defaultTtl : MemoryCache α) :=
  recalls_of_kept Keeps (.empty defaultTtl)
    (fun _ _ now key keeps => keeps.get now key)
    (fun _ _ _ key value _ goes keeps => keeps.set goes key value)
    fun _ _ _ _ _ keeps found => keeps.answers found

end MemoryCache

/-- What a clock shows when a cache is used: it never goes back. -/
structure Clock where
  /-- The time of every use that may change something. -/
  reading : Nat → Instant
  /-- The time at which it is asked, ahead of such a use, whether a key is there. -/
  glance : Nat → String → Instant
  glance_le : ∀ use key, glance use key ≤ reading use
  le_glance : ∀ use key, reading use ≤ glance (use + 1) key

namespace Clock

/-- The clock that goes on by one with every use, up to the last instant that it can tell. -/
def ticking (last : Instant) : Clock where
  reading use := min use last
  glance use _ := min use last
  glance_le _ _ := Nat.le_refl _
  le_glance use _ := by
    show min use last ≤ min (use + 1) last
    omega

theorem monotone_reading (clock : Clock) : Monotone clock.reading :=
  monotone_nat_of_le_succ fun use =>
    Nat.le_trans (clock.le_glance use "") (clock.glance_le (use + 1) "")

end Clock

/-- A cache in memory that goes by a clock of its own, whatever time its users think it is. -/
structure ClockedCache (α : Type) where
  cache : MemoryCache α
  clock : Clock
  /-- How often it was used. -/
  uses : Nat

namespace ClockedCache

/-- An empty cache that has not been used. -/
def start (clock : Clock) (defaultTtl : Option Ttl) : ClockedCache α :=
  { cache := .empty defaultTtl, clock := clock, uses := 0 }

/-- The time of the next use. -/
def time (store : ClockedCache α) : Instant :=
  store.clock.reading store.uses

/-- What is left of it when a use has done something to its entries. -/
def used (store : ClockedCache α) (cache : MemoryCache α) : ClockedCache α :=
  { store with cache := cache, uses := store.uses + 1 }

instance : CacheStore (ClockedCache α) α where
  get store _ key :=
    let (found, cache) := store.cache.get store.time key
    (found, store.used cache)
  set store _ key value ttl := (true, store.used (store.cache.set store.time key value ttl))
  has store _ key := store.cache.has (store.clock.glance store.uses key) key
  delete store key := (true, store.used (store.cache.delete key))
  clear store := (true, store.used store.cache.clear)
  stops store _ ttl := store.cache.stops store.time ttl

theorem time_le_used (store : ClockedCache α) (cache : MemoryCache α) :
    store.time ≤ (store.used cache).time :=
  store.clock.monotone_reading (Nat.le_succ store.uses)

instance : FaithfulStore (ClockedCache α) α where
  found_of_get store _ _ asked _ _ found := by
    obtain ⟨entry, held, live, rfl⟩ := MemoryCache.get_eq_some.mp found
    exact MemoryCache.get_eq_some.mpr
      ⟨entry, MemoryCache.find?_of_find?_get held,
        MemoryCache.isLive_earlier (store.time_le_used _) live, rfl⟩
  found_of_set store _ _ _ _ _ _ _ found := by
    obtain ⟨held, isHeld, live, rfl⟩ := MemoryCache.get_eq_some.mp found
    rcases MemoryCache.find?_of_find?_set isHeld with ⟨same, rfl⟩ | before
    · exact .inl ⟨same, rfl⟩
    · exact .inr (MemoryCache.get_eq_some.mpr
        ⟨held, before, MemoryCache.isLive_earlier (store.time_le_used _) live, rfl⟩)
  found_earlier _ _ _ _ _ _ found := found

/-- Using a cache has no part in how it reads the clock, nor in the lifetime of its entries. -/
theorem stops_of_arises
    {clock : Clock}
    {defaultTtl : Option Ttl}
    {deposits : List (String × α)}
    {store : ClockedCache α}
    (arises : Arises (start clock defaultTtl) deposits store)
    (now : Instant)
    (ttl : Option Ttl) :
    CacheStore.stops store now ttl =
      (MemoryCache.empty defaultTtl : MemoryCache α).stops (clock.reading store.uses) ttl := by
  have same : store.clock = clock ∧ store.cache.defaultTtl = defaultTtl := by
    induction arises with
    | start => exact ⟨rfl, rfl⟩
    | @get deposits store _ key _ inductionHypothesis =>
        exact ⟨inductionHypothesis.1,
          (store.cache.defaultTtl_get store.time key).trans inductionHypothesis.2⟩
    | @set deposits store _ key value ttl _ _ inductionHypothesis =>
        exact ⟨inductionHypothesis.1,
          (store.cache.defaultTtl_set store.time key value ttl).trans inductionHypothesis.2⟩
  obtain ⟨rfl, sameDefault⟩ := same
  exact MemoryCache.stops_of_defaultTtl sameDefault store.time ttl

theorem recalls_start
    (clock : Clock)
    (defaultTtl : Option Ttl) :
    Recalls (start clock defaultTtl : ClockedCache α) :=
  recalls_of_kept (fun deposits store => MemoryCache.Keeps deposits store.cache)
    (.empty defaultTtl)
    (fun _ store _ key keeps => keeps.get store.time key)
    (fun _ _ _ key value _ goes keeps => keeps.set goes key value)
    fun _ _ _ _ _ keeps found => keeps.answers found

end ClockedCache

end Switchboard
