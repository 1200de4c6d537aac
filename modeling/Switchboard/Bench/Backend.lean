import Switchboard.Cache.Blank
import Switchboard.Cache.Memory

namespace Switchboard.Bench

/-!
# Caches to try out

Containers and readers of the bench keep what they made in memory or not at all.  A third cache
has opinions: it refuses some keys, and says of every deletion whether there was something.
-/

/-- A cache in memory, or one that keeps nothing. -/
inductive Backend (α : Type) where
  | memory (cache : MemoryCache α)
  | blank
  deriving Repr

namespace Backend

variable {α : Type}

/-- Let an operation on a cache in memory go through. -/
def lift {β : Type} (result : β × MemoryCache α) : β × Backend α :=
  (result.1, .memory result.2)

instance : CacheStore (Backend α) α where
  get
    | .memory cache, now, key => lift (CacheStore.get cache now key)
    | .blank, _, _ => (none, .blank)
  set
    | .memory cache, now, key, value, ttl => lift (CacheStore.set cache now key value ttl)
    | .blank, _, _, _, _ => (true, .blank)
  has
    | .memory cache, now, key => CacheStore.has cache now key
    | .blank, _, _ => false
  delete
    | .memory cache, key => lift (CacheStore.delete cache key)
    | .blank, _ => (true, .blank)
  clear
    | .memory cache => lift (CacheStore.clear cache)
    | .blank => (true, .blank)
  stops
    | .memory cache, now, ttl => CacheStore.stops cache now ttl
    | .blank, _, _ => false

end Backend

/-- A cache that refuses keys with an exclamation mark in front and knows no lifetimes. -/
structure PickyCache (α : Type) where
  entries : Dict α
  deriving Repr

namespace PickyCache

variable {α : Type}

/-- The cache without entries. -/
def empty : PickyCache α := { entries := Dict.empty }

/-- Whether a key is refused. -/
def isRefused (key : String) : Bool := key.toList.head? = some '!'

instance : CacheStore (PickyCache α) α where
  get cache _ key := (cache.entries.find? key, cache)
  set cache _ key value _ :=
    if isRefused key then
      (false, cache)
    else
      (true, { entries := cache.entries.insert key value })
  has cache _ key := cache.entries.contains key
  delete cache key := (cache.entries.contains key, { entries := cache.entries.erase key })
  clear _ := (true, empty)

end PickyCache

end Switchboard.Bench
