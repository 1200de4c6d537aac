import Mathlib.Data.List.Chain
import Mathlib.Data.List.Nodup
import Mathlib.Data.List.Perm.Subperm
import Switchboard.Service.Resolve

namespace Switchboard

/-!
# Following aliases

Each alias has one target, so following aliases from an id on visits one sequence of ids.  It comes
round to an id it has visited before, or leads to one that is no alias; there is nothing else,
since there are only so many ids.  `Container.aliasCycle?` tells which of the two it is, and its
fuel is never used up.
-/

theorem Dict.mem_keys_of_find?
    {α : Type}
    {dict : Dict α}
    {name : String}
    {value : α}
    (found : dict.find? name = some value) :
    name ∈ dict.keys := by
  induction dict with
  | nil => cases found
  | cons entry rest inductionHypothesis =>
      obtain ⟨key, held⟩ := entry
      rw [Dict.find?] at found
      split at found
      · next same => exact List.mem_cons.mpr (.inl same.symm)
      · exact List.mem_cons.mpr (.inr (inductionHypothesis found))

variable {κ : Type}

namespace Alias

/-- An id that is defined as an alias, and the id it is an alias of. -/
def Targets (definitions : Dict (Definition κ)) (id target : String) : Prop :=
  definitions.find? id = some (.aliasOf target)

/-- Ids that following aliases from an id on visits, from this one on and in order. -/
structure Visits (definitions : Dict (Definition κ)) (id : String) (chain : List String) : Prop where
  starts : chain.head? = some id
  follows : chain.IsChain (Targets definitions)

/-- Following aliases from an id on visits some id twice. -/
def ComesRound (definitions : Dict (Definition κ)) (id : String) : Prop :=
  ∃ chain, Visits definitions id chain ∧ ¬chain.Nodup

/-- Following aliases from an id on ends at an id that is none. -/
inductive LeadsTo (definitions : Dict (Definition κ)) : String → String → Prop where
  | here {id : String} (final : ∀ target, ¬Targets definitions id target) :
      LeadsTo definitions id id
  | further
      {id target final : String}
      (targets : Targets definitions id target)
      (leads : LeadsTo definitions target final) :
      LeadsTo definitions id final

section

variable {definitions : Dict (Definition κ)} {id target : String} {chain : List String}

theorem Targets.unique
    {other : String}
    (targets : Targets definitions id target)
    (targetsToo : Targets definitions id other) :
    target = other := by
  cases targets.symm.trans targetsToo
  rfl

theorem Targets.ne_itself
    (targets : Targets definitions id target) :
    definitions.find? id ≠ some .itself := by
  rw [targets]
  nofun

/-- Every id of a sequence that goes on is an alias. -/
theorem targets_of_mem
    {next : String}
    (follows : (chain ++ [next]).IsChain (Targets definitions)) :
    ∀ other ∈ chain, ∃ target, Targets definitions other target := by
  intro other member
  obtain ⟨before, after, rfl⟩ := List.append_of_mem member
  rw [List.append_assoc, List.cons_append] at follows
  have behind := (List.isChain_append.mp follows).2.1
  cases after with
  | nil => exact ⟨next, (List.isChain_cons_cons.mp behind).1⟩
  | cons target after => exact ⟨target, (List.isChain_cons_cons.mp behind).1⟩

/-- There are no more different aliases than definitions. -/
theorem length_le_size
    {next : String}
    (nodup : chain.Nodup)
    (follows : (chain ++ [next]).IsChain (Targets definitions)) :
    chain.length ≤ definitions.size := by
  have areKeys : chain ⊆ definitions.keys := by
    intro other member
    obtain ⟨target, targets⟩ := targets_of_mem follows other member
    exact Dict.mem_keys_of_find? targets
  have fewer := (List.subperm_of_subset nodup areKeys).length_le
  rwa [Dict.keys, List.length_map] at fewer

theorem Visits.append
    {last : String}
    (visits : Visits definitions id (chain ++ [last]))
    (targets : Targets definitions last target) :
    Visits definitions id (chain ++ [last] ++ [target]) where
  starts := by
    rw [List.head?_append, visits.starts]
    rfl
  follows := by
    refine List.isChain_append.mpr ⟨visits.follows, List.isChain_singleton _, ?_⟩
    simpa using targets

/-- Whatever is visited is visited on the way to the id where following ends. -/
theorem isPrefix_of_final
    {whole : List String}
    (follows : whole.IsChain (Targets definitions))
    (followsToo : chain.IsChain (Targets definitions))
    (sameStart : chain.head? = whole.head?)
    (final : ∀ last ∈ whole.getLast?, ∀ target, ¬Targets definitions last target) :
    chain <+: whole := by
  induction whole generalizing chain with
  | nil =>
      obtain rfl := List.head?_eq_none_iff.mp sameStart
      exact List.nil_prefix
  | cons first rest inductionHypothesis =>
      cases chain with
      | nil => exact List.nil_prefix
      | cons other others =>
          obtain rfl : other = first := Option.some.inj sameStart
          refine (List.prefix_cons_inj other).mpr ?_
          cases others with
          | nil => exact List.nil_prefix
          | cons next others =>
              obtain ⟨targets, onward⟩ := List.isChain_cons_cons.mp followsToo
              cases rest with
              | nil => exact absurd targets (final other rfl next)
              | cons second rest =>
                  obtain ⟨targetsToo, onwardToo⟩ := List.isChain_cons_cons.mp follows
                  refine inductionHypothesis onwardToo onward ?_ final
                  rw [targets.unique targetsToo]
                  rfl

theorem leadsTo_of_visits
    {final : String}
    (visits : Visits definitions id (chain ++ [final]))
    (isFinal : ∀ target, ¬Targets definitions final target) :
    LeadsTo definitions id final := by
  induction chain generalizing id with
  | nil =>
      obtain rfl := Option.some.inj visits.starts
      exact .here isFinal
  | cons first chain inductionHypothesis =>
      obtain rfl := Option.some.inj visits.starts
      cases chain with
      | nil =>
          exact .further (List.isChain_cons_cons.mp visits.follows).1 (.here isFinal)
      | cons second chain =>
          obtain ⟨targets, onward⟩ := List.isChain_cons_cons.mp visits.follows
          exact .further targets (inductionHypothesis ⟨rfl, onward⟩)

/-- Where the target of an alias comes round, the alias does. -/
theorem ComesRound.of_target
    (targets : Targets definitions id target)
    (comesRound : ComesRound definitions target) :
    ComesRound definitions id := by
  obtain ⟨chain, visits, twice⟩ := comesRound
  refine ⟨id :: chain, ⟨rfl, ?_⟩, fun nodup => twice nodup.of_cons⟩
  refine List.isChain_cons.mpr ⟨fun next isNext => ?_, visits.follows⟩
  rw [visits.starts] at isNext
  cases isNext
  exact targets

/-- What looking for a circle comes to. -/
inductive Checked (definitions : Dict (Definition κ)) (id : String) : Option (List String) → Prop where
  /-- An id was visited before; it is the first one, since the others are all different. -/
  | circle
      {seen : List String}
      {repeated : String}
      (visits : Visits definitions id (seen ++ [repeated]))
      (nodup : seen.Nodup)
      (again : repeated ∈ seen) :
      Checked definitions id (some (seen ++ [repeated]))
  /-- An id was no alias. -/
  | noCircle
      {final : String}
      (straight : ¬ComesRound definitions id)
      (leads : LeadsTo definitions id final) :
      Checked definitions id none

/-- A check with fuel for all definitions that were not visited yet comes to an answer. -/
theorem checked_aliasCycle?
    {fuel : Nat}
    {next : String}
    (visits : Visits definitions id (chain ++ [next]))
    (nodup : chain.Nodup)
    (enough : definitions.size < fuel + chain.length) :
    Checked definitions id (Container.aliasCycle? definitions fuel chain next) := by
  induction fuel generalizing chain next with
  | zero =>
      have atMost := length_le_size nodup visits.follows
      rw [Nat.zero_add] at enough
      exact absurd enough (Nat.not_lt.mpr atMost)
  | succ fuel inductionHypothesis =>
      rw [Container.aliasCycle?]
      by_cases again : next ∈ chain
      · rw [if_pos again]
        exact .circle visits nodup again
      · rw [if_neg again]
        have nodupWhole : (chain ++ [next]).Nodup :=
          List.nodup_append_comm.mp (List.nodup_cons.mpr ⟨again, nodup⟩)
        split
        · next further targets =>
            refine inductionHypothesis (visits.append targets) nodupWhole ?_
            rw [List.length_append, List.length_singleton]
            omega
        · next notAlias =>
            have isFinal (target : String) : ¬Targets definitions next target :=
              notAlias target
            refine .noCircle ?_ (leadsTo_of_visits visits isFinal)
            rintro ⟨other, visitsToo, twice⟩
            have isPrefix : other <+: chain ++ [next] := by
              refine isPrefix_of_final visits.follows visitsToo.follows ?_ ?_
              · rw [visits.starts, visitsToo.starts]
              · intro last isLast
                rw [List.getLast?_concat] at isLast
                cases isLast
                exact isFinal
            exact twice (nodupWhole.sublist isPrefix.sublist)

/-- Resolving an alias checks all that is visited from it on. -/
theorem checked_of_targets
    (targets : Targets definitions id target) :
    Checked definitions id
      (Container.aliasCycle? definitions (definitions.size + 1) [id] target) := by
  have visits : Visits definitions id ([id] ++ [target]) := ⟨rfl, List.isChain_pair.mpr targets⟩
  refine checked_aliasCycle? visits (List.nodup_singleton id) ?_
  rw [List.length_singleton]
  omega

/-- Where following aliases does not come round, no circle is found. -/
theorem aliasCycle?_eq_none
    (targets : Targets definitions id target)
    (straight : ¬ComesRound definitions id) :
    Container.aliasCycle? definitions (definitions.size + 1) [id] target = none := by
  generalize answer : Container.aliasCycle? definitions (definitions.size + 1) [id] target = found
  have checked := checked_of_targets targets
  rw [answer] at checked
  cases checked with
  | noCircle _ _ => rfl
  | circle visits _ again =>
      refine absurd ⟨_, visits, fun nodup => ?_⟩ straight
      exact (List.nodup_append.mp nodup).2.2 _ again _ (List.mem_singleton_self _) rfl

/-- Where following aliases comes round, it is told what is visited up to the first id that was
visited before. -/
theorem aliasCycle?_eq_some
    (targets : Targets definitions id target)
    (comesRound : ComesRound definitions id) :
    ∃ seen repeated,
      Container.aliasCycle? definitions (definitions.size + 1) [id] target =
          some (seen ++ [repeated]) ∧
        Visits definitions id (seen ++ [repeated]) ∧ seen.Nodup ∧ repeated ∈ seen := by
  generalize answer : Container.aliasCycle? definitions (definitions.size + 1) [id] target = found
  have checked := checked_of_targets targets
  rw [answer] at checked
  cases checked with
  | noCircle straight _ => exact absurd comesRound straight
  | circle visits nodup again => exact ⟨_, _, rfl, visits, nodup, again⟩

/-- Where following aliases does not come round, it leads somewhere. -/
theorem exists_leadsTo
    (targets : Targets definitions id target)
    (straight : ¬ComesRound definitions id) :
    ∃ final, LeadsTo definitions id final := by
  have checked := checked_of_targets targets
  rw [aliasCycle?_eq_none targets straight] at checked
  cases checked with
  | noCircle _ leads => exact ⟨_, leads⟩

end

end Alias

end Switchboard
