import Switchboard.Proofs.Cache.Faithful

namespace Switchboard

/-!
# Caches that cannot be told apart

A lookup may change a cache: the one in memory drops an entry that it finds expired.  Two caches
are alike from a time on if no operation at that time or later tells them apart, nor any operation
after that one.  A quiet cache is alike before and after a lookup.
-/

namespace CacheStore

variable {χ α : Type} [CacheStore χ α]

/-- A relation between caches that every operation from a time on respects. -/
structure Kept (now : Instant) (related : χ → χ → Prop) : Prop where
  get : ∀ left right later key, related left right → now ≤ later →
    (get left later key).1 = (get right later key).1 ∧
      related (get left later key).2 (get right later key).2
  set : ∀ left right later key entry ttl, related left right → now ≤ later →
    (set left later key entry ttl).1 = (set right later key entry ttl).1 ∧
      related (set left later key entry ttl).2 (set right later key entry ttl).2
  has : ∀ left right later key, related left right → now ≤ later →
    has left later key = has right later key
  delete : ∀ left right key, related left right →
    (delete left key).1 = (delete right key).1 ∧ related (delete left key).2 (delete right key).2
  clear : ∀ left right, related left right →
    (clear left).1 = (clear right).1 ∧ related (clear left).2 (clear right).2
  stops : ∀ left right later ttl, related left right → now ≤ later →
    stops left later ttl = stops right later ttl

/-- No operation from a time on can tell two caches apart. -/
def Alike (now : Instant) (left right : χ) : Prop :=
  ∃ related, Kept now related ∧ related left right

namespace Alike

variable {now later : Instant} {left right : χ}

theorem symm
    (alike : Alike now left right) :
    Alike now right left := by
  obtain ⟨related, kept, isRelated⟩ := alike
  refine ⟨fun first second => related second first, ?_, isRelated⟩
  exact {
    get := fun first second later key isRelated notBefore =>
      (kept.get second first later key isRelated notBefore).imp_left Eq.symm
    set := fun first second later key entry ttl isRelated notBefore =>
      (kept.set second first later key entry ttl isRelated notBefore).imp_left Eq.symm
    has := fun first second later key isRelated notBefore =>
      (kept.has second first later key isRelated notBefore).symm
    delete := fun first second key isRelated =>
      (kept.delete second first key isRelated).imp_left Eq.symm
    clear := fun first second isRelated =>
      (kept.clear second first isRelated).imp_left Eq.symm
    stops := fun first second later ttl isRelated notBefore =>
      (kept.stops second first later ttl isRelated notBefore).symm }

theorem get
    (alike : Alike now left right)
    (notBefore : now ≤ later)
    (key : String) :
    (CacheStore.get left later key).1 = (CacheStore.get right later key).1 ∧
      Alike now (CacheStore.get left later key).2 (CacheStore.get right later key).2 := by
  obtain ⟨related, kept, isRelated⟩ := alike
  obtain ⟨same, relatedAfter⟩ := kept.get left right later key isRelated notBefore
  exact ⟨same, related, kept, relatedAfter⟩

theorem set
    (alike : Alike now left right)
    (notBefore : now ≤ later)
    (key : String)
    (entry : α)
    (ttl : Option Ttl) :
    Alike now (CacheStore.set left later key entry ttl).2
      (CacheStore.set right later key entry ttl).2 := by
  obtain ⟨related, kept, isRelated⟩ := alike
  exact ⟨related, kept, (kept.set left right later key entry ttl isRelated notBefore).2⟩

theorem has
    (alike : Alike now left right)
    (notBefore : now ≤ later)
    (key : String) :
    CacheStore.has left later key = CacheStore.has right later key := by
  obtain ⟨related, kept, isRelated⟩ := alike
  exact kept.has left right later key isRelated notBefore

theorem stops
    (alike : Alike now left right)
    (notBefore : now ≤ later)
    (ttl : Option Ttl) :
    CacheStore.stops left later ttl = CacheStore.stops right later ttl := by
  obtain ⟨related, kept, isRelated⟩ := alike
  exact kept.stops left right later ttl isRelated notBefore

end Alike

end CacheStore

/-- A cache in which a lookup changes nothing that could be told later. -/
class QuietStore (χ : Type) (α : outParam Type) [CacheStore χ α] : Prop
    extends SteadyStore χ α where
  alike_get : ∀ (store : χ) (now : Instant) (key : String),
    CacheStore.Alike now store (CacheStore.get store now key).2

namespace MemoryCache

variable {α : Type}

/-- The entry under a key, unless it has expired at a time. -/
def live? (cache : MemoryCache α) (now : Instant) (key : String) : Option (CacheEntry α) :=
  (cache.entries.find? key).filter (·.isLive now)

/-- What is live later is live now, so the live entries of now are all there is later. -/
theorem filter_live?
    (cache : MemoryCache α)
    {now later : Instant}
    (notBefore : now ≤ later)
    (key : String) :
    (cache.live? now key).filter (·.isLive later) = cache.live? later key := by
  rw [live?, live?, Option.filter_filter]
  congr 1
  funext entry
  by_cases live : entry.isLive later = true
  · rw [live, isLive_earlier notBefore live, Bool.and_self]
  · simp [live]

theorem get_eq_live?
    (cache : MemoryCache α)
    (now : Instant)
    (key : String) :
    (cache.get now key).1 = (cache.live? now key).map CacheEntry.value := by
  unfold get live?
  cases cache.entries.find? key with
  | none => rfl
  | some entry =>
      by_cases live : entry.isLive now = true
      · simp [Option.filter, live]
      · simp [Option.filter, live]

theorem has_eq_live?
    (cache : MemoryCache α)
    (now : Instant)
    (key : String) :
    cache.has now key = (cache.live? now key).isSome := by
  unfold has live?
  cases cache.entries.find? key with
  | none => rfl
  | some entry =>
      by_cases live : entry.isLive now = true
      · simp [Option.filter, live]
      · simp [Option.filter, live]

/-- A lookup drops what it asked for if that has expired, and nothing else. -/
theorem find?_get
    (cache : MemoryCache α)
    (now : Instant)
    (asked key : String) :
    (cache.get now asked).2.entries.find? key =
      if asked = key then cache.live? now key else cache.entries.find? key := by
  by_cases same : asked = key
  · subst same
    rw [if_pos rfl, get, live?]
    cases held : cache.entries.find? asked with
    | none => exact held
    | some entry =>
        by_cases live : entry.isLive now = true
        · simp [Option.filter, live, held]
        · simp [Option.filter, live, Dict.find?_erase]
  · rw [if_neg same, get]
    split
    · rfl
    · split
      · rfl
      · rw [Dict.find?_erase, if_neg same]

theorem live?_get
    (cache : MemoryCache α)
    {now later : Instant}
    (notBefore : now ≤ later)
    (asked key : String) :
    (cache.get later asked).2.live? now key =
      if asked = key then cache.live? later key else cache.live? now key := by
  rw [live?, find?_get]
  split
  · cases found : cache.live? later key with
    | none => rfl
    | some entry =>
        have live := (Option.filter_eq_some_iff.mp found).2
        exact Option.filter_eq_some_iff.mpr ⟨rfl, isLive_earlier notBefore live⟩
  · rfl

theorem live?_set
    {cache : MemoryCache α}
    {later : Instant}
    {ttl : Option Ttl}
    (goes : cache.stops later ttl = false)
    (now : Instant)
    (stored key : String)
    (value : α) :
    (cache.set later stored value ttl).live? now key =
      if stored = key then
        (some { value := value, expiresAt := cache.expiry later ttl }).filter (·.isLive now)
      else
        cache.live? now key := by
  unfold live?
  rw [find?_set goes]
  split <;> rfl

theorem live?_delete
    (cache : MemoryCache α)
    (now : Instant)
    (deleted key : String) :
    (cache.delete deleted).live? now key =
      if deleted = key then none else cache.live? now key := by
  unfold live? delete
  rw [Dict.find?_erase]
  split <;> rfl

/-- Two caches in memory that hold the same entries, as far as these are live at a time. -/
def SameLive (now : Instant) (left right : MemoryCache α) : Prop :=
  left.defaultTtl = right.defaultTtl ∧ ∀ key, left.live? now key = right.live? now key

theorem SameLive.later
    {now later : Instant}
    {left right : MemoryCache α}
    (sameLive : SameLive now left right)
    (notBefore : now ≤ later) :
    SameLive later left right := by
  refine ⟨sameLive.1, fun key => ?_⟩
  rw [← filter_live? left notBefore, ← filter_live? right notBefore, sameLive.2]

theorem kept_sameLive (now : Instant) :
    CacheStore.Kept now (SameLive now : MemoryCache α → MemoryCache α → Prop) where
  get := by
    intro left right later key sameLive notBefore
    have sameLater := (sameLive.later notBefore).2
    refine ⟨?_, ?_, fun other => ?_⟩
    · show (left.get later key).1 = (right.get later key).1
      rw [get_eq_live?, get_eq_live?, sameLater]
    · show (left.get later key).2.defaultTtl = (right.get later key).2.defaultTtl
      rw [defaultTtl_get, defaultTtl_get, sameLive.1]
    · show (left.get later key).2.live? now other = (right.get later key).2.live? now other
      rw [live?_get left notBefore, live?_get right notBefore, sameLater, sameLive.2]
  set := by
    intro left right later key entry ttl sameLive notBefore
    have sameStops := stops_of_defaultTtl sameLive.1 later ttl
    have sameExpiry : left.expiry later ttl = right.expiry later ttl := by
      rw [expiry, expiry, sameLive.1]
    refine ⟨rfl, ?_, fun other => ?_⟩
    · show (left.set later key entry ttl).defaultTtl = (right.set later key entry ttl).defaultTtl
      rw [defaultTtl_set, defaultTtl_set, sameLive.1]
    · show (left.set later key entry ttl).live? now other =
        (right.set later key entry ttl).live? now other
      cases stops : left.stops later ttl with
      | true => rw [set_of_stops stops, set_of_stops (sameStops.symm.trans stops), sameLive.2]
      | false =>
          rw [live?_set stops, live?_set (sameStops.symm.trans stops), sameExpiry, sameLive.2]
  has := by
    intro left right later key sameLive notBefore
    show left.has later key = right.has later key
    rw [has_eq_live?, has_eq_live?, (sameLive.later notBefore).2]
  delete := by
    intro left right key sameLive
    refine ⟨rfl, sameLive.1, fun other => ?_⟩
    show (left.delete key).live? now other = (right.delete key).live? now other
    rw [live?_delete, live?_delete, sameLive.2]
  clear := by
    intro left right sameLive
    exact ⟨rfl, sameLive.1, fun _ => rfl⟩
  stops left right later ttl sameLive _ := stops_of_defaultTtl sameLive.1 later ttl

instance : QuietStore (MemoryCache α) α where
  alike_get := by
    intro cache now key
    refine ⟨SameLive now, kept_sameLive now, (defaultTtl_get cache now key).symm, fun other => ?_⟩
    show cache.live? now other = (cache.get now key).2.live? now other
    rw [live?_get cache (Nat.le_refl now)]
    split
    · rfl
    · rfl

end MemoryCache

instance {α : Type} : QuietStore (BlankCache α) α where
  alike_get _ _ _ :=
    ⟨fun _ _ => True,
      { get := fun _ _ _ _ _ _ => ⟨rfl, trivial⟩
        set := fun _ _ _ _ _ _ _ _ => ⟨rfl, trivial⟩
        has := fun _ _ _ _ _ _ => rfl
        delete := fun _ _ _ _ => ⟨rfl, trivial⟩
        clear := fun _ _ _ => ⟨rfl, trivial⟩
        stops := fun _ _ _ _ _ _ => rfl },
      trivial⟩

end Switchboard
