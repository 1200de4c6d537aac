import Switchboard.Bench.Backend
import Switchboard.Proofs.Cache.Recalls

namespace Switchboard

/-!
# Batches

A batch is single calls in turn: one on each element in the order of the list, as often as the
element is there, and none is left out after a refusal.  `CacheStore.batchLaws` says so of every
store, whatever it is and by whatever rule it finds, refuses and removes.  A store that goes by a
clock of its own has this clock in it, so a key that a batch asks for twice need not be answered
alike.
-/

namespace CacheStore

variable {χ : Type}

/-- Single calls, each on the next element and on the store that the call before it has left:
what they answer and which store is left in the end. -/
inductive InTurn {ε ρ : Type} (call : χ → ε → ρ × χ) : χ → List ε → List ρ → χ → Prop
  | done (store : χ) : InTurn call store [] [] store
  | next
      {store between last : χ}
      {element : ε}
      {elements : List ε}
      {answer : ρ}
      {answers : List ρ}
      (answered : call store element = (answer, between))
      (others : InTurn call between elements answers last) :
      InTurn call store (element :: elements) (answer :: answers) last

/-- Make one more call, and report success if there was nothing but success so far. -/
def reporting {ε : Type} (call : χ → ε → Bool × χ) (progress : Bool × χ) (element : ε) :
    Bool × χ :=
  ((call progress.2 element).1 && progress.1, (call progress.2 element).2)

namespace InTurn

variable {ε ρ : Type} {call : χ → ε → ρ × χ} {store last : χ} {elements : List ε}

/-- A call always comes back, so there is no list that calls cannot be made on. -/
theorem total
    (call : χ → ε → ρ × χ)
    (store : χ)
    (elements : List ε) :
    ∃ answers last, InTurn call store elements answers last := by
  induction elements generalizing store with
  | nil => exact ⟨[], store, .done store⟩
  | cons element elements inductionHypothesis =>
      obtain ⟨answers, last, others⟩ := inductionHypothesis (call store element).2
      exact ⟨(call store element).1 :: answers, last, .next rfl others⟩

theorem length_answers
    {answers : List ρ}
    (turns : InTurn call store elements answers last) :
    answers.length = elements.length := by
  induction turns with
  | done store => rfl
  | next answered others inductionHypothesis =>
      rw [List.length_cons, List.length_cons, inductionHypothesis]

/-- Going through the elements with a store and a report makes every call, also those that no
longer change the report. -/
theorem foldl_eq
    {call : χ → ε → Bool × χ}
    {answers : List Bool}
    (turns : InTurn call store elements answers last)
    (report : Bool) :
    elements.foldl (reporting call) (report, store) = (report && answers.all id, last) := by
  -- The induction is over the calls made; a refusal may already lie behind them, hence any report.
  induction turns generalizing report with
  | done store => simp
  | next answered others inductionHypothesis =>
      rw [List.foldl_cons, reporting, answered, inductionHypothesis, List.all_cons, id,
        ← Bool.and_assoc, Bool.and_comm report]

/-- What the fold comes to is what the calls in turn come to, and nothing else. -/
theorem foldl_eq_iff
    (call : χ → ε → Bool × χ)
    {report : Bool} :
    elements.foldl (reporting call) (true, store) = (report, last) ↔
      ∃ answers, InTurn call store elements answers last ∧
        (report = true ↔ ∀ answer ∈ answers, answer = true) := by
  constructor
  · intro folded
    obtain ⟨answers, reached, turns⟩ := total call store elements
    rw [turns.foldl_eq true, Bool.true_and] at folded
    cases folded
    exact ⟨answers, turns, List.all_eq_true⟩
  · rintro ⟨answers, turns, reported⟩
    have same : answers.all id = report :=
      Bool.eq_iff_iff.mpr (List.all_eq_true.trans reported.symm)
    rw [turns.foldl_eq true, Bool.true_and, same]

end InTurn

variable {α : Type} [CacheStore χ α]

/-- Asking for several keys pairs them with the answers of the single calls. -/
theorem InTurn.getMultiple_eq
    {store last : χ}
    {now : Instant}
    {keys : List String}
    {answers : List (Option α)}
    (turns : InTurn (fun store key => get store now key) store keys answers last) :
    getMultiple store now keys = (keys.zip answers, last) := by
  induction turns with
  | done store => rfl
  | next answered others inductionHypothesis =>
      rw [getMultiple, answered]
      simp only [inductionHypothesis, List.zip_cons_cons]

/-- What the batch operations of a store do and say at a time, in terms of its single ones. -/
structure BatchLaws (store : χ) (now : Instant) : Prop where
  /-- A batch to store is stored entry by entry, and reports success exactly if each entry did. -/
  set : ∀ (values : List (String × α)) (ttl : Option Ttl) (report : Bool) (last : χ),
    setMultiple store now values ttl = (report, last) ↔
      ∃ answers,
        InTurn (fun store entry => CacheStore.set store now entry.1 entry.2 ttl)
          store values answers last ∧
        (report = true ↔ ∀ answer ∈ answers, answer = true)
  /-- A batch to remove is removed key by key, and reports success exactly if each key did. -/
  delete : ∀ (keys : List String) (report : Bool) (last : χ),
    deleteMultiple store keys = (report, last) ↔
      ∃ answers,
        InTurn (fun store key => CacheStore.delete store key) store keys answers last ∧
        (report = true ↔ ∀ answer ∈ answers, answer = true)
  /-- Asking for a batch gives the keys as they are asked for, each with its own answer. -/
  get : ∀ (keys : List String) (found : List (String × Option α)) (last : χ),
    getMultiple store now keys = (found, last) ↔
      found.map Prod.fst = keys ∧
        InTurn (fun store key => CacheStore.get store now key) store keys
          (found.map Prod.snd) last

/-- Every batch on every store does what the single calls in turn do. -/
theorem batchLaws (store : χ) (now : Instant) : BatchLaws store now where
  set values ttl report last :=
    InTurn.foldl_eq_iff fun store (entry : String × α) =>
      CacheStore.set store now entry.1 entry.2 ttl
  delete keys report last :=
    InTurn.foldl_eq_iff fun store key => CacheStore.delete store key
  get keys found last := by
    constructor
    · intro asked
      -- The pairs of the batch are zipped from keys and answers, so they come apart into these.
      obtain ⟨answers, reached, turns⟩ :=
        InTurn.total (fun store key => CacheStore.get store now key) store keys
      rw [turns.getMultiple_eq] at asked
      cases asked
      have sameLength := turns.length_answers
      rw [List.map_fst_zip (Nat.le_of_eq sameLength.symm),
        List.map_snd_zip (Nat.le_of_eq sameLength)]
      exact ⟨rfl, turns⟩
    · rintro ⟨sameKeys, turns⟩
      rw [turns.getMultiple_eq, ← List.zip_of_prod sameKeys rfl]

/-- The refused key costs the batch its success, but not the entries behind it. -/
example :
    let stored := setMultiple (Bench.PickyCache.empty (α := Nat)) 0
      [("a", 1), ("!b", 2), ("c", 3), ("a", 4)] none
    stored.1 = false ∧
      (getMultiple stored.2 0 ["c", "!b", "a", "c"]).1 =
        [("c", some 3), ("!b", none), ("a", some 4), ("c", some 3)] ∧
      (deleteMultiple stored.2 ["a", "a", "c"]).1 = false ∧
      (getMultiple (deleteMultiple stored.2 ["a", "a", "c"]).2 0 ["a", "c"]).1 =
        [("a", none), ("c", none)] := by
  decide

/-- An entry can expire while a batch asks for it. -/
example :
    let start : ClockedCache Nat := .start (.ticking lastInstant) none
    let stored := (set start 0 "a" 1 (some (.duration 2))).2
    (getMultiple stored 0 ["a", "a"]).1 = [("a", some 1), ("a", none)] := by
  decide

end CacheStore

end Switchboard
