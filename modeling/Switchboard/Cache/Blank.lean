import Switchboard.Cache.Store

namespace Switchboard

/-!
# The cache that keeps nothing

Everything can be stored in it and nothing is ever found, so whoever uses it works as if without
a cache.
-/

/-- A cache without memory. -/
inductive BlankCache (α : Type) where
  | blank
  deriving Repr, DecidableEq

instance {α : Type} : CacheStore (BlankCache α) α where
  get cache _ _ := (none, cache)
  set cache _ _ _ _ := (true, cache)
  has _ _ _ := false
  delete cache _ := (true, cache)
  clear cache := (true, cache)

end Switchboard
