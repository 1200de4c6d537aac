import Switchboard.Cache.Store
import Switchboard.Dict

namespace Switchboard

/-!
# The cache in memory

An entry is live until its time of expiry.  An expired entry goes away when somebody asks for its
value; asking only whether it is there leaves it in place.  The time of expiry is computed before
anything is stored, and computing it panics if it is later than a clock can tell.
-/

/-- A stored value and the time from which on it is no longer live. -/
structure CacheEntry (α : Type) where
  value : α
  expiresAt : Option Instant
  deriving Repr, DecidableEq

/-- Whether an entry is live at a time. -/
def CacheEntry.isLive {α : Type} (entry : CacheEntry α) (now : Instant) : Bool :=
  match entry.expiresAt with
  | none => true
  | some time => decide (now < time)

/-- Entries by key, and the lifetime of those stored without one. -/
structure MemoryCache (α : Type) where
  entries : Dict (CacheEntry α)
  defaultTtl : Option Ttl
  deriving Repr, DecidableEq

namespace MemoryCache

variable {α : Type}

/-- The cache without entries. -/
def empty (defaultTtl : Option Ttl) : MemoryCache α :=
  { entries := Dict.empty, defaultTtl := defaultTtl }

/-- How many entries are kept, expired ones that nobody asked for included. -/
def size (cache : MemoryCache α) : Nat := cache.entries.size

/-- When an entry stored now expires. -/
def expiry (cache : MemoryCache α) (now : Instant) (ttl : Option Ttl) : Option Instant :=
  ((ttl <|> cache.defaultTtl).bind Ttl.lifetime?).map (now + ·)

/-- Whether an entry stored now would expire later than a clock can tell. -/
def stops (cache : MemoryCache α) (now : Instant) (ttl : Option Ttl) : Bool :=
  match cache.expiry now ttl with
  | none => false
  | some time => decide (lastInstant < time)

/-- The live value under a key; an expired one is removed. -/
def get (cache : MemoryCache α) (now : Instant) (key : String) : Option α × MemoryCache α :=
  match cache.entries.find? key with
  | none => (none, cache)
  | some entry =>
      if entry.isLive now then
        (some entry.value, cache)
      else
        (none, { cache with entries := cache.entries.erase key })

/-- Store a value under a key; nothing is stored where that stops. -/
def set
    (cache : MemoryCache α)
    (now : Instant)
    (key : String)
    (value : α)
    (ttl : Option Ttl) :
    MemoryCache α :=
  if cache.stops now ttl then
    cache
  else
    let entry := { value := value, expiresAt := cache.expiry now ttl }
    { cache with entries := cache.entries.insert key entry }

/-- Whether a live value is there. -/
def has (cache : MemoryCache α) (now : Instant) (key : String) : Bool :=
  match cache.entries.find? key with
  | none => false
  | some entry => entry.isLive now

/-- Remove what is under a key. -/
def delete (cache : MemoryCache α) (key : String) : MemoryCache α :=
  { cache with entries := cache.entries.erase key }

/-- Remove everything. -/
def clear (cache : MemoryCache α) : MemoryCache α :=
  { cache with entries := Dict.empty }

instance : CacheStore (MemoryCache α) α where
  get := get
  set cache now key value ttl := (true, cache.set now key value ttl)
  has := has
  delete cache key := (true, cache.delete key)
  clear cache := (true, cache.clear)
  stops := stops

end MemoryCache

end Switchboard
