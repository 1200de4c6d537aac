import Switchboard.Cache.Ttl

namespace Switchboard

/-!
# Cache stores

A cache store answers from what was stored under a key, and may refuse to store or to delete.
The batch operations are built from the single ones and reach every element, also after a
refusal.

Refusing is no failure, but a store may also stop: then storing panics, and whoever stores does not
go on.  What `set` has for such a call is the store that the panic leaves behind.
-/

/-- What a cache has to provide: every operation may change the store. -/
class CacheStore (χ : Type) (α : outParam Type) where
  /-- The live entry under a key, at a time. -/
  get : χ → Instant → String → Option α × χ
  /-- Store an entry, and say whether that was done. -/
  set : χ → Instant → String → α → Option Ttl → Bool × χ
  /-- Whether a live entry exists. -/
  has : χ → Instant → String → Bool
  /-- Remove an entry, and report about it. -/
  delete : χ → String → Bool × χ
  /-- Remove every entry. -/
  clear : χ → Bool × χ
  /-- Whether storing with a lifetime, or with none, panics at a time. -/
  stops : χ → Instant → Option Ttl → Bool := fun _ _ _ => false

namespace CacheStore

variable {χ α : Type} [CacheStore χ α]

/-- The live entry under a key, or a value to use instead. -/
def getOr (store : χ) (now : Instant) (key : String) (fallback : α) : α × χ :=
  let (found, store) := get store now key
  (found.getD fallback, store)

/-- The live entries under several keys, in their order. -/
def getMultiple (store : χ) (now : Instant) : List String → List (String × Option α) × χ
  | [] => ([], store)
  | key :: keys =>
      let (found, store) := get store now key
      let (others, store) := getMultiple store now keys
      ((key, found) :: others, store)

/-- Store several entries, and say whether all were stored. -/
def setMultiple (store : χ) (now : Instant) (values : List (String × α)) (ttl : Option Ttl) :
    Bool × χ :=
  values.foldl
    (fun (allStored, store) (key, value) =>
      let (stored, store) := set store now key value ttl
      (stored && allStored, store))
    (true, store)

/-- Remove several entries, and say whether every single removal was reported as done. -/
def deleteMultiple (store : χ) (keys : List String) : Bool × χ :=
  keys.foldl
    (fun (allDeleted, store) key =>
      let (deleted, store) := delete (α := α) store key
      (deleted && allDeleted, store))
    (true, store)

end CacheStore

end Switchboard
