namespace Switchboard

/-!
# Dictionaries

A dictionary maps names to values and is kept in increasing name order, so listing it needs no
sorting and two dictionaries with the same lookups are the same list.  `find?_insert` and
`find?_erase` say what each change does to every lookup; `Ordered` is kept by all of them.
-/

/-- A finite map from names, kept as pairs in increasing name order. -/
abbrev Dict (α : Type) : Type := List (String × α)

namespace Dict

variable {α β : Type}

/-- The dictionary without entries. -/
def empty : Dict α := []

/-- The value stored under `name`. -/
def find? (dict : Dict α) (name : String) : Option α :=
  match dict with
  | [] => none
  | (key, value) :: rest =>
      if key = name then some value else find? rest name

/-- Store `value` under `name`, replacing what was there. -/
def insert (dict : Dict α) (name : String) (value : α) : Dict α :=
  match dict with
  | [] => [(name, value)]
  | (key, held) :: rest =>
      if key = name then
        (name, value) :: rest
      else if name < key then
        (name, value) :: (key, held) :: rest
      else
        (key, held) :: insert rest name value

/-- Forget what is stored under `name`. -/
def erase (dict : Dict α) (name : String) : Dict α :=
  List.filter (fun entry => entry.1 ≠ name) dict

/-- Whether something is stored under `name`. -/
def contains (dict : Dict α) (name : String) : Bool :=
  (dict.find? name).isSome

/-- The pairs, in increasing name order. -/
def toList (dict : Dict α) : List (String × α) := dict

/-- The names, in increasing order. -/
def keys (dict : Dict α) : List String :=
  dict.toList.map Prod.fst

/-- How many names have a value. -/
def size (dict : Dict α) : Nat :=
  dict.toList.length

/-- Store pairs one after another, so the last value of a repeated name stays. -/
def ofList (pairs : List (String × α)) : Dict α :=
  pairs.foldl (fun dict pair => dict.insert pair.1 pair.2) empty

/-- The value of `name` becomes what `change` makes of the present one. -/
def alter (dict : Dict α) (name : String) (change : Option α → α) : Dict α :=
  dict.insert name (change (dict.find? name))

/-- The names stand in strictly increasing order. -/
def Ordered (dict : Dict α) : Prop :=
  dict.keys.Pairwise (· < ·)

@[simp] theorem find?_empty (name : String) :
    (empty : Dict α).find? name = none := rfl

/-- A stored value is found; every other lookup is as before. -/
theorem find?_insert
    (dict : Dict α)
    (name other : String)
    (value : α) :
    (dict.insert name value).find? other =
      if name = other then some value else dict.find? other := by
  induction dict with
  | nil => simp [insert, find?]
  | cons entry rest inductionHypothesis =>
      obtain ⟨key, held⟩ := entry
      rw [insert]
      by_cases sameKey : key = name
      · rw [if_pos sameKey]
        simp only [find?]
        grind
      · rw [if_neg sameKey]
        by_cases before : name < key
        · rw [if_pos before]
          simp only [find?]
        · rw [if_neg before]
          simp only [find?, inductionHypothesis]
          grind

/-- What was just stored under a name is found there. -/
@[simp] theorem find?_insert_self
    (dict : Dict α)
    (name : String)
    (value : α) :
    (dict.insert name value).find? name = some value := by
  simp [find?_insert]

/-- An erased name has no value; every other lookup is as before. -/
theorem find?_erase
    (dict : Dict α)
    (name other : String) :
    (dict.erase name).find? other =
      if name = other then none else dict.find? other := by
  induction dict with
  | nil => simp [erase, find?]
  | cons entry rest inductionHypothesis =>
      obtain ⟨key, held⟩ := entry
      simp only [erase, List.filter_cons] at inductionHypothesis ⊢
      by_cases sameKey : key = name
      · simp only [sameKey, ne_eq, not_true_eq_false, decide_false, Bool.false_eq_true,
          if_false, find?]
        grind
      · simp only [sameKey, ne_eq, not_false_eq_true, decide_true, if_true, find?]
        grind

/-- Storing under a name adds at most that name to the names. -/
theorem mem_keys_insert
    (dict : Dict α)
    (name other : String)
    (value : α)
    (member : other ∈ (dict.insert name value).keys) :
    other = name ∨ other ∈ dict.keys := by
  induction dict with
  | nil => simpa [insert, keys, toList] using member
  | cons entry rest inductionHypothesis =>
      obtain ⟨key, held⟩ := entry
      simp only [keys, toList] at inductionHypothesis
      rw [insert] at member
      split at member <;> rename_i sameKey
      · subst sameKey
        simpa [keys, toList] using member
      · split at member
        · simpa [keys, toList] using member
        · simp only [keys, toList, List.map_cons, List.mem_cons] at member ⊢
          rcases member with isKey | inRest
          · exact Or.inr (Or.inl isKey)
          · exact (inductionHypothesis inRest).imp_right Or.inr

@[simp] theorem ordered_empty : Ordered (empty : Dict α) :=
  List.Pairwise.nil

/-- Storing keeps the names in order. -/
theorem Ordered.insert
    {dict : Dict α}
    (ordered : dict.Ordered)
    (name : String)
    (value : α) :
    (dict.insert name value).Ordered := by
  induction dict with
  | nil => simp [Dict.insert, Ordered, keys, toList]
  | cons entry rest inductionHypothesis =>
      obtain ⟨key, held⟩ := entry
      simp only [Ordered, keys, toList, List.map_cons, List.pairwise_cons] at ordered
      obtain ⟨below, restOrdered⟩ := ordered
      rw [Dict.insert]
      by_cases sameKey : key = name
      · rw [if_pos sameKey]
        subst sameKey
        exact List.pairwise_cons.mpr ⟨below, restOrdered⟩
      · rw [if_neg sameKey]
        by_cases before : name < key
        · rw [if_pos before]
          apply List.pairwise_cons.mpr
          constructor
          · intro other member
            rcases List.mem_cons.mp member with isKey | inRest
            · exact isKey ▸ before
            · exact String.lt_trans before (below other inRest)
          · exact List.pairwise_cons.mpr ⟨below, restOrdered⟩
        · rw [if_neg before]
          apply List.pairwise_cons.mpr
          constructor
          · intro other member
            rcases mem_keys_insert rest name other value member with isName | inRest
            · subst isName
              have atMost : key ≤ other := String.not_lt.mp before
              apply Decidable.byContradiction
              intro notBelow
              exact sameKey (String.le_antisymm atMost (String.not_lt.mp notBelow))
            · exact below other inRest
          · exact inductionHypothesis restOrdered

/-- Nothing is found under a name that is not there. -/
theorem find?_eq_none_of_notMem
    {dict : Dict α}
    {name : String}
    (absent : name ∉ dict.keys) :
    dict.find? name = none := by
  induction dict with
  | nil => rfl
  | cons entry rest inductionHypothesis =>
      obtain ⟨apart, notInRest⟩ := not_or.mp (mt List.mem_cons.mpr absent)
      rw [find?, if_neg fun same => apart same.symm]
      exact inductionHypothesis notInRest

theorem find?_append
    (dict other : List (String × α))
    (name : String) :
    find? (dict ++ other) name = (find? dict name).or (find? other name) := by
  induction dict with
  | nil => rfl
  | cons entry rest inductionHypothesis =>
      simp only [List.cons_append, find?, inductionHypothesis]
      split <;> rfl

/-- Erasing keeps the names in order. -/
theorem Ordered.erase
    {dict : Dict α}
    (ordered : dict.Ordered)
    (name : String) :
    (dict.erase name).Ordered := by
  apply List.Pairwise.sublist _ ordered
  exact List.filter_sublist.map Prod.fst

/-- What is stored pair by pair is in order. -/
theorem ordered_ofList (pairs : List (String × α)) :
    (ofList pairs).Ordered := by
  suffices fromAny :
      ∀ dict : Dict α, dict.Ordered →
        Ordered (pairs.foldl (fun dict pair => dict.insert pair.1 pair.2) dict) from
    fromAny empty ordered_empty
  induction pairs with
  | nil => exact fun _ ordered => ordered
  | cons pair rest inductionHypothesis =>
      exact fun dict ordered =>
        inductionHypothesis (dict.insert pair.1 pair.2) (ordered.insert pair.1 pair.2)

/-- Pairs without a repeated name are looked up in what is stored as in the pairs themselves. -/
theorem find?_ofList
    (pairs : List (String × α))
    (distinct : (pairs.map Prod.fst).Nodup)
    (name : String) :
    (ofList pairs).find? name = find? pairs name := by
  suffices fromAny :
      ∀ dict : Dict α,
        find? (pairs.foldl (fun dict pair => dict.insert pair.1 pair.2) dict) name =
          (find? pairs name).or (dict.find? name) by
    rw [ofList, fromAny, find?_empty, Option.or_none]
  induction pairs with
  | nil => exact fun _ => rfl
  | cons pair rest inductionHypothesis =>
      obtain ⟨key, value⟩ := pair
      obtain ⟨apart, restDistinct⟩ := List.nodup_cons.mp distinct
      intro dict
      rw [List.foldl_cons, inductionHypothesis restDistinct, find?_insert, find?]
      by_cases sameKey : key = name
      · have notInRest : find? rest name = none := by
          rw [← sameKey]
          exact find?_eq_none_of_notMem apart
        rw [if_pos sameKey, if_pos sameKey, notInRest]
        rfl
      · rw [if_neg sameKey, if_neg sameKey]

/-- What is found among pairs without a repeated name is what is there. -/
theorem find?_eq_some_iff_mem
    {pairs : List (String × α)}
    (distinct : (pairs.map Prod.fst).Nodup)
    {name : String}
    {value : α} :
    find? pairs name = some value ↔ (name, value) ∈ pairs := by
  induction pairs with
  | nil => simp [find?]
  | cons pair rest inductionHypothesis =>
      obtain ⟨key, held⟩ := pair
      obtain ⟨apart, restDistinct⟩ := List.nodup_cons.mp distinct
      rw [find?, List.mem_cons, Prod.mk.injEq]
      by_cases sameKey : key = name
      · subst sameKey
        have notInRest : (key, value) ∉ rest := fun member =>
          apart (List.mem_map.mpr ⟨_, member, rfl⟩)
        simp [notInRest, eq_comm]
      · simp [sameKey, Ne.symm sameKey, inductionHypothesis restDistinct]

/-- The order of pairs without a repeated name does not matter. -/
theorem find?_eq_of_perm
    {pairs others : List (String × α)}
    (same : pairs.Perm others)
    (distinct : (pairs.map Prod.fst).Nodup)
    (name : String) :
    find? pairs name = find? others name := by
  have distinctToo : (others.map Prod.fst).Nodup := (same.map Prod.fst).nodup_iff.mp distinct
  ext value
  rw [find?_eq_some_iff_mem distinct, find?_eq_some_iff_mem distinctToo, same.mem_iff]

/-- The pairs stand in strictly increasing order of their names. -/
theorem Ordered.pairwise
    {dict : Dict α}
    (ordered : dict.Ordered) :
    dict.toList.Pairwise fun left right => left.1 < right.1 :=
  List.pairwise_map.mp ordered

/-- No pair is listed twice. -/
theorem Ordered.nodup
    {dict : Dict α}
    (ordered : dict.Ordered) :
    dict.toList.Nodup := by
  refine ordered.pairwise.imp fun {left right} before same => ?_
  exact String.lt_irrefl left.1 (same ▸ before)

/-- The listed pairs are the names with the values that are found under them. -/
theorem Ordered.mem_toList_iff
    {dict : Dict α}
    (ordered : dict.Ordered)
    {name : String}
    {value : α} :
    (name, value) ∈ dict.toList ↔ dict.find? name = some value := by
  induction dict with
  | nil => simp [toList, find?]
  | cons entry rest inductionHypothesis =>
      obtain ⟨key, held⟩ := entry
      obtain ⟨below, restOrdered⟩ := List.pairwise_cons.mp ordered
      have inRest := inductionHypothesis restOrdered
      simp only [toList] at inRest
      simp only [toList, find?, List.mem_cons, Prod.mk.injEq]
      by_cases sameKey : key = name
      · subst sameKey
        rw [if_pos rfl]
        constructor
        · rintro (⟨_, rfl⟩ | member)
          · rfl
          · exact absurd (below key (List.mem_map_of_mem member)) (String.lt_irrefl key)
        · intro found
          cases found
          exact Or.inl ⟨rfl, rfl⟩
      · rw [if_neg sameKey, ← inRest]
        exact ⟨fun member => member.resolve_left fun same => sameKey same.1.symm, Or.inr⟩

/-- Dictionaries in order with the same lookups are the same. -/
theorem Ordered.eq_of_find?_eq
    {dict other : Dict α}
    (ordered : dict.Ordered)
    (orderedToo : other.Ordered)
    (same : ∀ name, dict.find? name = other.find? name) :
    dict = other := by
  have permutation : dict.toList.Perm other.toList :=
    (List.perm_ext_iff_of_nodup ordered.nodup orderedToo.nodup).mpr fun entry => by
      rw [ordered.mem_toList_iff, orderedToo.mem_toList_iff, same]
  refine permutation.eq_of_pairwise ?_ ordered.pairwise orderedToo.pairwise
  intro left right _ _ before after
  exact absurd (String.lt_trans before after) (String.lt_irrefl left.1)

/-- What is in order is stored as it is. -/
theorem Ordered.ofList_eq
    {dict : Dict α}
    (ordered : dict.Ordered) :
    ofList dict = dict := by
  refine (ordered_ofList dict).eq_of_find?_eq ordered fun name => ?_
  refine find?_ofList dict ?_ name
  refine ordered.imp fun {left right} before same => ?_
  exact String.lt_irrefl left (same ▸ before)

/-- Storing pairs without a repeated name puts them in order. -/
theorem ofList_perm
    (pairs : List (String × α))
    (distinct : (pairs.map Prod.fst).Nodup) :
    (ofList pairs).Perm pairs := by
  have ordered := ordered_ofList pairs
  have distinctPairs : pairs.Nodup :=
    List.Pairwise.of_map Prod.fst (fun _ _ apart same => apart (congrArg Prod.fst same)) distinct
  refine (List.perm_ext_iff_of_nodup ordered.nodup distinctPairs).mpr fun pair => ?_
  obtain ⟨name, value⟩ := pair
  rw [ordered.mem_toList_iff, find?_ofList pairs distinct, find?_eq_some_iff_mem distinct]

end Dict

end Switchboard
