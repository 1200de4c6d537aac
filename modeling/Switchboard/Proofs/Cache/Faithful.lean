import Switchboard.Cache.Blank
import Switchboard.Cache.Memory

namespace Switchboard

/-!
# Faithful caches

A cache may forget at any time, but a faithful one makes nothing up: what it answers was stored
under the same key and was not replaced since.  A lasting one forgets by the passing of time only,
and whether storing in a steady one panics does not depend on what was asked or stored before.
Both caches of the library are faithful, lasting and steady.
-/

/-- A cache that answers only with what was stored. -/
class FaithfulStore (χ : Type) (α : outParam Type) [CacheStore χ α] : Prop where
  /-- Asking adds nothing. -/
  found_of_get : ∀ (store : χ) (now later : Instant) (asked key : String) (value : α),
    (CacheStore.get (CacheStore.get store now asked).2 later key).1 = some value →
      (CacheStore.get store later key).1 = some value
  /-- Storing adds nothing but what is stored. -/
  found_of_set :
    ∀ (store : χ) (now later : Instant) (stored key : String) (entry value : α)
      (ttl : Option Ttl),
      (CacheStore.get (CacheStore.set store now stored entry ttl).2 later key).1 =
          some value →
        (stored = key ∧ entry = value) ∨ (CacheStore.get store later key).1 = some value
  /-- What is found later is found now. -/
  found_earlier : ∀ (store : χ) (now later : Instant) (key : String) (value : α),
    now ≤ later →
      (CacheStore.get store later key).1 = some value →
      (CacheStore.get store now key).1 = some value

namespace MemoryCache

variable {α : Type}

/-- A value is found exactly under the key of a live entry. -/
theorem get_eq_some
    {cache : MemoryCache α}
    {now : Instant}
    {key : String}
    {value : α} :
    (cache.get now key).1 = some value ↔
      ∃ entry, cache.entries.find? key = some entry ∧ entry.isLive now = true ∧
        entry.value = value := by
  unfold get
  cases cache.entries.find? key with
  | none => simp
  | some entry =>
      by_cases live : entry.isLive now = true
      · simp [live]
      · simp [live]

/-- Without an answer, the entry under a key is not live. -/
theorem not_live_of_get_eq_none
    {cache : MemoryCache α}
    {now : Instant}
    {key : String}
    {entry : CacheEntry α}
    (miss : (cache.get now key).1 = none)
    (held : cache.entries.find? key = some entry) :
    entry.isLive now = false := by
  cases live : entry.isLive now with
  | false => rfl
  | true =>
      have hit := get_eq_some.mpr ⟨entry, held, live, rfl⟩
      cases miss.symm.trans hit

/-- Asking leaves every live entry in place. -/
theorem find?_get_of_live
    {cache : MemoryCache α}
    {now : Instant}
    {asked key : String}
    {entry : CacheEntry α}
    (found : cache.entries.find? key = some entry)
    (live : entry.isLive now = true) :
    (cache.get now asked).2.entries.find? key = some entry := by
  unfold get
  cases held : cache.entries.find? asked with
  | none => exact found
  | some other =>
      by_cases liveToo : other.isLive now = true
      · simpa [liveToo] using found
      · have apart : asked ≠ key := by
          intro same
          subst same
          cases held.symm.trans found
          exact liveToo live
        simpa [liveToo, Dict.find?_erase, apart] using found

theorem find?_of_find?_get
    {cache : MemoryCache α}
    {now : Instant}
    {asked key : String}
    {entry : CacheEntry α}
    (found : (cache.get now asked).2.entries.find? key = some entry) :
    cache.entries.find? key = some entry := by
  unfold get at found
  cases held : cache.entries.find? asked with
  | none => simpa [held] using found
  | some other =>
      by_cases live : other.isLive now = true
      · simpa [held, live] using found
      · simp only [held, live, Bool.false_eq_true, if_false, Dict.find?_erase] at found
        by_cases same : asked = key
        · simp [same] at found
        · simpa [same] using found

theorem find?_set
    {cache : MemoryCache α}
    {now : Instant}
    {ttl : Option Ttl}
    (goes : cache.stops now ttl = false)
    (stored key : String)
    (value : α) :
    (cache.set now stored value ttl).entries.find? key =
      if stored = key then
        some { value := value, expiresAt := cache.expiry now ttl }
      else
        cache.entries.find? key := by
  rw [set, goes]
  exact Dict.find?_insert cache.entries stored key _

theorem set_of_stops
    {cache : MemoryCache α}
    {now : Instant}
    {ttl : Option Ttl}
    (stops : cache.stops now ttl = true)
    (stored : String)
    (value : α) :
    cache.set now stored value ttl = cache := by
  rw [set, if_pos stops]

/-- Storing leaves what is under other keys, also if it panics. -/
theorem find?_set_of_ne
    {stored key : String}
    (apart : stored ≠ key)
    (cache : MemoryCache α)
    (now : Instant)
    (value : α)
    (ttl : Option Ttl) :
    (cache.set now stored value ttl).entries.find? key = cache.entries.find? key := by
  cases stops : cache.stops now ttl with
  | true => rw [set_of_stops stops]
  | false => rw [find?_set stops, if_neg apart]

/-- What is in a cache after storing was stored just now, or it was there before. -/
theorem find?_of_find?_set
    {cache : MemoryCache α}
    {now : Instant}
    {stored key : String}
    {value : α}
    {ttl : Option Ttl}
    {entry : CacheEntry α}
    (found : (cache.set now stored value ttl).entries.find? key = some entry) :
    (stored = key ∧ entry = { value := value, expiresAt := cache.expiry now ttl }) ∨
      cache.entries.find? key = some entry := by
  cases stops : cache.stops now ttl with
  | true =>
      rw [set_of_stops stops] at found
      exact .inr found
  | false =>
      rw [find?_set stops] at found
      split at found
      · next same => exact .inl ⟨same, (Option.some.inj found).symm⟩
      · exact .inr found

theorem isLive_earlier
    {entry : CacheEntry α}
    {now later : Instant}
    (order : now ≤ later)
    (live : entry.isLive later = true) :
    entry.isLive now = true := by
  unfold CacheEntry.isLive at live ⊢
  cases expiry : entry.expiresAt with
  | none => rfl
  | some time =>
      rw [expiry] at live
      exact decide_eq_true (Nat.lt_of_le_of_lt order (of_decide_eq_true live))

/-- What was just stored is found, since no lifetime is zero. -/
theorem get_set_self
    {cache : MemoryCache α}
    {now : Instant}
    {ttl : Option Ttl}
    (goes : cache.stops now ttl = false)
    (key : String)
    (value : α) :
    ((cache.set now key value ttl).get now key).1 = some value := by
  refine get_eq_some.mpr ⟨_, (find?_set goes key key value).trans (if_pos rfl), ?_, rfl⟩
  unfold CacheEntry.isLive expiry
  cases given : (ttl <|> cache.defaultTtl).bind Ttl.lifetime? with
  | none => rfl
  | some lifetime =>
      obtain ⟨chosen, _, lives⟩ := Option.bind_eq_some_iff.mp given
      unfold Ttl.lifetime? at lives
      split at lives
      · cases lives
      · rename_i nonzero
        cases lives
        exact decide_eq_true (Nat.lt_add_of_pos_right (Nat.pos_of_ne_zero nonzero))

instance : FaithfulStore (MemoryCache α) α where
  found_of_get := by
    intro cache now later asked key value found
    obtain ⟨entry, held, live, rfl⟩ := get_eq_some.mp found
    exact get_eq_some.mpr ⟨entry, find?_of_find?_get held, live, rfl⟩
  found_of_set := by
    intro cache now later stored key entry value ttl found
    obtain ⟨held, isHeld, live, rfl⟩ := get_eq_some.mp found
    rcases find?_of_find?_set isHeld with ⟨same, rfl⟩ | before
    · exact Or.inl ⟨same, rfl⟩
    · exact Or.inr (get_eq_some.mpr ⟨held, before, live, rfl⟩)
  found_earlier := by
    intro cache now later key value order found
    obtain ⟨entry, held, live, rfl⟩ := get_eq_some.mp found
    exact get_eq_some.mpr ⟨entry, held, isLive_earlier order live, rfl⟩

end MemoryCache

instance {α : Type} : FaithfulStore (BlankCache α) α where
  found_of_get _ _ _ _ _ _ found := nomatch found
  found_of_set _ _ _ _ _ _ _ _ found := nomatch found
  found_earlier _ _ _ _ _ _ found := nomatch found

/-- A cache in which asking and storing have no part in whether storing panics. -/
class SteadyStore (χ : Type) (α : outParam Type) [CacheStore χ α] : Prop where
  stops_get : ∀ (store : χ) (now later : Instant) (asked : String) (ttl : Option Ttl),
    CacheStore.stops (CacheStore.get store now asked).2 later ttl =
      CacheStore.stops store later ttl
  stops_set :
    ∀ (store : χ) (now later : Instant) (stored : String) (entry : α) (given ttl : Option Ttl),
      CacheStore.stops (CacheStore.set store now stored entry given).2 later ttl =
        CacheStore.stops store later ttl

namespace MemoryCache

variable {α : Type}

theorem defaultTtl_get
    (cache : MemoryCache α)
    (now : Instant)
    (key : String) :
    (cache.get now key).2.defaultTtl = cache.defaultTtl := by
  unfold get
  split
  · rfl
  · split <;> rfl

theorem defaultTtl_set
    (cache : MemoryCache α)
    (now : Instant)
    (key : String)
    (value : α)
    (ttl : Option Ttl) :
    (cache.set now key value ttl).defaultTtl = cache.defaultTtl := by
  unfold set
  split <;> rfl

/-- Only the lifetime of entries without one of their own has a part in whether storing panics. -/
theorem stops_of_defaultTtl
    {cache other : MemoryCache α}
    (same : cache.defaultTtl = other.defaultTtl)
    (now : Instant)
    (ttl : Option Ttl) :
    cache.stops now ttl = other.stops now ttl := by
  rw [stops, stops, expiry, expiry, same]

instance : SteadyStore (MemoryCache α) α where
  stops_get cache now later asked ttl :=
    stops_of_defaultTtl (cache.defaultTtl_get now asked) later ttl
  stops_set cache now later stored entry given ttl :=
    stops_of_defaultTtl (cache.defaultTtl_set now stored entry given) later ttl

/-- Without lifetimes storing never panics. -/
theorem stops_of_no_lifetime
    {cache : MemoryCache α}
    (noDefault : cache.defaultTtl = none)
    (now : Instant) :
    cache.stops now none = false := by
  rw [stops, expiry, noDefault]
  rfl

end MemoryCache

instance {α : Type} : SteadyStore (BlankCache α) α where
  stops_get _ _ _ _ _ := rfl
  stops_set _ _ _ _ _ _ _ := rfl

/-- A faithful cache that loses nothing it would answer with, as long as no time passes. -/
class LastingStore (χ : Type) (α : outParam Type) [CacheStore χ α] : Prop
    extends FaithfulStore χ α, SteadyStore χ α where
  /-- Asking loses nothing. -/
  found_after_get : ∀ (store : χ) (now : Instant) (asked key : String) (value : α),
    (CacheStore.get store now key).1 = some value →
      (CacheStore.get (CacheStore.get store now asked).2 now key).1 = some value
  /-- Storing loses nothing but what was stored under the same key. -/
  found_after_set :
    ∀ (store : χ) (now : Instant) (stored key : String) (entry value : α) (ttl : Option Ttl),
      stored ≠ key →
        (CacheStore.get store now key).1 = some value →
        (CacheStore.get (CacheStore.set store now stored entry ttl).2 now key).1 = some value

instance {α : Type} : LastingStore (MemoryCache α) α where
  found_after_get := by
    intro cache now asked key value found
    obtain ⟨entry, held, live, rfl⟩ := MemoryCache.get_eq_some.mp found
    exact MemoryCache.get_eq_some.mpr ⟨entry, MemoryCache.find?_get_of_live held live, live, rfl⟩
  found_after_set := by
    intro cache now stored key entry value ttl apart found
    obtain ⟨held, isHeld, live, rfl⟩ := MemoryCache.get_eq_some.mp found
    have lookup := (MemoryCache.find?_set_of_ne apart cache now entry ttl).trans isHeld
    exact MemoryCache.get_eq_some.mpr ⟨held, lookup, live, rfl⟩

instance {α : Type} : LastingStore (BlankCache α) α where
  found_after_get _ _ _ _ _ found := nomatch found
  found_after_set _ _ _ _ _ _ _ _ found := nomatch found

end Switchboard
