import Switchboard.Proofs.Cache.Recalls
import Switchboard.Proofs.Service.Growth

namespace Switchboard

/-!
# Failed resolutions

A resolution that fails can strike after other services were resolved and built for it.  Those
stay, and nothing else is left behind: no definition changes, nothing that was cached or
remembered is lost, and every new entry is the object of a call of its own that succeeded.

Time passes meanwhile: the cache reads its clock at every use, and what has expired by then may be
dropped.  So what is said of live entries is said of those that are still live when the call ends.
-/

variable {κ : Type}

/-- No use of a cache so far was later than a time. -/
def ClockedCache.UsedBy {α : Type} (store : ClockedCache α) (time : Instant) : Prop :=
  ∀ use < store.uses, store.clock.reading use ≤ time

/-- Every entry of a cache in memory stays as it is, if it is live still when all is done. -/
structure LiveKept (before after : Container κ (ClockedCache (Instance κ))) : Prop where
  clock : after.cache.clock = before.cache.clock
  uses : before.cache.uses ≤ after.cache.uses
  entries : ∀ time, after.cache.UsedBy time →
    ∀ key entry, before.cache.cache.entries.find? key = some entry →
      entry.isLive time = true →
      after.cache.cache.entries.find? key = some entry

namespace LiveKept

variable {before between after : Container κ (ClockedCache (Instance κ))}

theorem of_same
    (sameCache : after.cache = before.cache) :
    LiveKept before after where
  clock := by rw [sameCache]
  uses := by rw [sameCache]
  entries _ _ _ _ held _ := by rwa [sameCache]

/-- What was done later was done after all that was done before. -/
theorem usedBy
    (later : LiveKept before after)
    {time : Instant}
    (usedBy : after.cache.UsedBy time) :
    before.cache.UsedBy time := by
  intro use isUse
  rw [← later.clock]
  exact usedBy use (Nat.lt_of_lt_of_le isUse later.uses)

theorem trans
    (earlier : LiveKept before between)
    (later : LiveKept between after) :
    LiveKept before after where
  clock := later.clock.trans earlier.clock
  uses := Nat.le_trans earlier.uses later.uses
  entries time usedBy key entry held live :=
    later.entries time usedBy key entry
      (earlier.entries time (later.usedBy usedBy) key entry held live) live

/-- Asking the cache drops nothing but what has expired by then. -/
theorem lookedUp
    (container : Container κ (ClockedCache (Instance κ)))
    (key : String) :
    LiveKept container (container.lookedUp key) where
  clock := rfl
  uses := Nat.le_succ _
  entries _ usedBy _ _ held live :=
    MemoryCache.find?_get_of_live held
      (MemoryCache.isLive_earlier (usedBy _ (Nat.lt_succ_self _)) live)

end LiveKept

/-- Where a call has begun by asking the cache in vain, the entry under the key is not live at its
end. -/
theorem not_live_of_miss
    {container after : Container κ (ClockedCache (Instance κ))}
    {key : String}
    {entry : CacheEntry (Instance κ)}
    {time : Instant}
    (miss : container.found? key = none)
    (sameClock : after.cache.clock = container.cache.clock)
    (used : container.cache.uses < after.cache.uses)
    (usedBy : after.cache.UsedBy time)
    (held : container.cache.cache.entries.find? key = some entry) :
    entry.isLive time = false := by
  cases live : entry.isLive time with
  | false => rfl
  | true =>
      have reached : container.cache.time ≤ time := by
        rw [ClockedCache.time, ← sameClock]
        exact usedBy _ used
      have liveBefore := MemoryCache.isLive_earlier reached live
      cases liveBefore.symm.trans (MemoryCache.not_live_of_get_eq_none miss held)

/-- No call loses a live entry: an object is put under a key only when there is no live one. -/
theorem walk_liveKept (toolkit : Toolkit κ) :
    Walk toolkit (fun _ => True) (LiveKept (κ := κ)) where
  closed _ _ _ _ := trivial
  refl _ := .of_same rfl
  trans _ _ _ earlier later := earlier.trans later
  lookUp _ _ := .lookedUp _ _
  own _ := .of_same rfl
  make _ _ _ _ _ _ _ made := .of_same (Builder.make_frame made).2.1
  remember _ _ _ _ _ _ _ _ _ related := related.trans (.of_same rfl)
  keep := by
    intro fuel id container object between _ _ miss _ _ _ related
    have used : container.cache.uses < between.cache.uses + 1 := Nat.lt_succ_of_le related.uses
    refine ⟨related.clock, Nat.le_of_lt used, fun time usedBy key entry held live => ?_⟩
    have usedByBetween : between.cache.UsedBy time :=
      fun use isUse => usedBy use (Nat.lt_succ_of_lt isUse)
    have apart : Key.service toolkit.digest id ≠ key := by
      rintro rfl
      have sameClock :
          (between.keeping (Key.service toolkit.digest id) object).cache.clock =
            container.cache.clock := related.clock
      cases live.symm.trans (not_live_of_miss miss sameClock used usedBy held)
    exact (MemoryCache.find?_set_of_ne apart _ _ object _).trans
      (related.entries time usedByBetween key entry held live)

/-- What calls add to a cache in memory was resolved by one of them. -/
theorem walk_cacheAdded
    (toolkit : Toolkit κ)
    {covers : Moment κ (ClockedCache (Instance κ)) → Prop}
    (closed : ∀ outer inner,
      covers outer → Moment.Makes toolkit outer inner → covers inner) :
    Walk toolkit covers fun before after =>
      ∀ key entry, after.cache.cache.entries.find? key = some entry →
        before.cache.cache.entries.find? key = some entry ∨
          Moment.Got toolkit covers key entry.value where
  closed := closed
  refl _ _ _ held := Or.inl held
  trans := by
    intro first second third earlier later key entry held
    rcases later key entry held with before | got
    · exact earlier key entry before
    · exact Or.inr got
  lookUp _ _ _ _ held := Or.inl (MemoryCache.find?_of_find?_get held)
  own _ _ _ held := Or.inl held
  make := by
    intro origin title maker arguments container outcome after made key entry held
    rw [(Builder.make_frame made).2.1] at held
    exact Or.inl held
  remember _ _ _ _ _ _ _ _ _ related := related
  keep := by
    intro fuel id container object between covered _ _ _ _ ends related key entry held
    rcases MemoryCache.find?_of_find?_set held with ⟨sameKey, rfl⟩ | before
    · exact Or.inr ⟨_, id, _, covered, rfl, sameKey, ends⟩
    · exact related key entry before

/-- What a failed resolution leaves behind. -/
structure FailureLeaves
    (toolkit : Toolkit κ)
    (fuel : Nat)
    (id : String)
    (before : Container κ (ClockedCache (Instance κ)))
    (error : ServiceError)
    (after : Container κ (ClockedCache (Instance κ))) :
    Prop where
  /-- The error says that exactly this id was not found. -/
  named : ∃ cause, error = .notFound id cause
  definitions : after.definitions = before.definitions
  live : LiveKept before after
  memo : MemoKept before after
  /-- New entries of the cache were resolved on the way. -/
  cached : ∀ key entry, after.cache.cache.entries.find? key = some entry →
    before.cache.cache.entries.find? key = some entry ∨
      Moment.Got toolkit
        (Moment.Inside toolkit { fuel := fuel, call := .get id, container := before })
        key entry.value
  /-- New entries of the memo were built on the way. -/
  built : ∀ key object, after.memo.find? key = some object →
    before.memo.find? key = some object ∨
      Moment.Built toolkit
        (Moment.Inside toolkit { fuel := fuel, call := .get id, container := before })
        key object
  /-- A live entry for the id itself was resolved on the way as well. -/
  own : ∀ time, after.cache.UsedBy time →
    ∀ entry,
      after.cache.cache.entries.find? (Key.service toolkit.digest id) = some entry →
      entry.isLive time = true →
      Moment.Got toolkit
        (Moment.Inside toolkit { fuel := fuel, call := .get id, container := before })
        (Key.service toolkit.digest id) entry.value

namespace Container

/-- A resolution fails with nothing but the error that its id was not found, after the cache was
asked for the id in vain. -/
theorem get_error
    {toolkit : Toolkit κ}
    {fuel : Nat}
    {id : String}
    {container after : Container κ (ClockedCache (Instance κ))}
    {error : ServiceError}
    (failed : get toolkit fuel id container = some (.error error, after)) :
    (∃ cause, error = .notFound id cause) ∧
      container.found? (Key.service toolkit.digest id) = none ∧
      LiveKept (container.lookedUp (Key.service toolkit.digest id)) after := by
  cases fuel with
  | zero => cases failed
  | succ fuel =>
      have walk := walk_liveKept toolkit
      cases get_ends failed with
      | failed defined miss resolution =>
          exact ⟨⟨_, rfl⟩, miss,
            walk.relates_of_resolution (walk.gets fuel) (walk.builds_of_gets (walk.gets fuel))
              trivial miss resolution⟩

/--
A resolution that fails leaves definitions, cache entries that are live still, and remembered
objects as they are, and adds only what calls inside it resolved and built with success.
-/
theorem failed_get_leaves
    {toolkit : Toolkit κ}
    {fuel : Nat}
    {id : String}
    {container after : Container κ (ClockedCache (Instance κ))}
    {error : ServiceError}
    (failed : get toolkit fuel id container = some (.error error, after)) :
    FailureLeaves toolkit fuel id container error after := by
  have fails : Moment.Ends toolkit { fuel := fuel, call := .get id, container := container }
      none after :=
    ⟨.error error, failed, rfl⟩
  obtain ⟨named, miss, liveKept⟩ := get_error failed
  have cacheAdded := (walk_cacheAdded toolkit fun _ _ => Relation.ReflTransGen.tail).relates_of_ends
    Relation.ReflTransGen.refl fails
  have memoAdded := (walk_memoAdded toolkit fun _ _ => Relation.ReflTransGen.tail).relates_of_ends
    Relation.ReflTransGen.refl fails
  have cached : ∀ key entry, after.cache.cache.entries.find? key = some entry →
      container.cache.cache.entries.find? key = some entry ∨
        Moment.Got toolkit
          (Moment.Inside toolkit { fuel := fuel, call := .get id, container := container })
          key entry.value :=
    fun key entry held => (cacheAdded key entry held).imp_right fun got => got.inside fails
  refine
    { named := named
      definitions := (stride_definitions toolkit).walk.relates_of_ends trivial fails
      live := .trans (.lookedUp _ _) liveKept
      memo := (stride_memoKept toolkit).walk.relates_of_ends trivial fails
      cached := cached
      built := fun key object held =>
        (memoAdded key object held).imp_right fun built => built.inside fails
      own := ?_ }
  intro time usedBy entry held live
  rcases cached _ entry held with before | got
  · -- what was there before had expired when the cache was asked for it
    have used : container.cache.uses < after.cache.uses := liveKept.uses
    cases live.symm.trans (not_live_of_miss miss liveKept.clock used usedBy before)
  · exact got

end Container

/-- The container that comes back to itself, with a cache whose clock goes on all the time. -/
def Reentry.clocked : Container Unit (ClockedCache (Instance Unit)) :=
  (Container.empty () (.start (.ticking 99) none) (some (.duration 40))).withServices services

/-- Resolving `A` in the container that comes back to itself fails, and leaves it cached. -/
private theorem Reentry.get_fails :
    Attempt.endsSo
      (fun outcome after =>
        outcome.toOption.isNone &&
          CacheStore.has after.cache after.now (Key.service toolkit.digest "A"))
      (Container.get toolkit 9 "A" clocked) = true := by
  decide +kernel

/-- Resolving `A` in the container that comes back to itself leaves what was said. -/
theorem Container.failed_get_leaves_reentry :
    ∃ error after,
      get Reentry.toolkit 9 "A" Reentry.clocked = some (.error error, after) ∧
        FailureLeaves Reentry.toolkit 9 "A" Reentry.clocked error after := by
  obtain ⟨outcome, after, ended, tested⟩ := Attempt.exists_of_endsSo Reentry.get_fails
  obtain ⟨isError, cached⟩ := Bool.and_eq_true_iff.mp tested
  cases outcome with
  | ok object => cases isError
  | error error => exact ⟨error, after, ended, failed_get_leaves ended⟩

/-- A resolution can fail although its id was resolved on the way, and then the id is cached. -/
theorem Container.failed_get_can_cache_its_id :
    ∃ error after,
      get Reentry.toolkit 9 "A" Reentry.clocked = some (.error error, after) ∧
        CacheStore.has after.cache after.now (Key.service Reentry.toolkit.digest "A") =
          true := by
  obtain ⟨outcome, after, ended, tested⟩ := Attempt.exists_of_endsSo Reentry.get_fails
  obtain ⟨isError, cached⟩ := Bool.and_eq_true_iff.mp tested
  cases outcome with
  | ok object => cases isError
  | error error => exact ⟨error, after, ended, cached⟩

end Switchboard
