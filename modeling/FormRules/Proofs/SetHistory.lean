/-
This file follows a set of clauses through all that can happen to it: clauses are inserted, the set is replaced
or collected anew with more clauses, and definitions are read in its place. However it came about, the set
lists what it was given since it was last replaced, each clause where it first occurred.
-/

import FormRules.Proofs.FirstOccurrences
import FormRules.Proofs.Grammar
import FormRules.StandIn
import Mathlib.Data.Finset.Card

namespace FormRules.ClauseSet

/-- What can happen to a set of clauses. -/
inductive Operation where
  | insert (clause : Clause)
  | replace (clauses : List Clause)
  | recollect (more : List Clause)
  | read (book : Rulebook) (definition : String)

/-- The set after an operation. A definition that cannot be read leaves it as it is. -/
def step (set : ClauseSet) : Operation → ClauseSet
  | .insert clause => (set.tryInsert clause).2
  | .replace clauses => ofList clauses
  | .recollect more => ofList (set.clauses ++ more)
  | .read book definition =>
      match Definition.read book definition with
      | .ok found => found
      | .error _ => set

/-- The set after operations in order. -/
def run (set : ClauseSet) (history : List Operation) : ClauseSet :=
  history.foldl step set

/-- The clauses of all segments of a definition, repetitions included. -/
def Operation.written (book : Rulebook) (definition : String) : Except DefinitionError (List Clause) :=
  (Definition.segments definition).mapM (Definition.readSegment book)

/-- What a set was given since it was last replaced, after one more operation. -/
def Operation.supply (given : List Clause) : Operation → List Clause
  | .insert clause => given ++ [clause]
  | .replace clauses => clauses
  | .recollect more => given ++ more
  | .read book definition =>
      match written book definition with
      | .ok clauses => clauses
      | .error _ => given

/-- What a set that was empty at first was given since it was last replaced. -/
def supplied (history : List Operation) : List Clause :=
  history.foldl Operation.supply []

variable {set : ClauseSet}

theorem fst_tryInsert (set : ClauseSet) (clause : Clause) :
    (set.tryInsert clause).1 = !set.contains clause := by
  unfold tryInsert contains
  split <;> simp_all

theorem snd_tryInsert (set : ClauseSet) (clause : Clause) : (set.tryInsert clause).2 = set.insert clause := by
  unfold tryInsert
  split
  · rename_i present
    exact (insert_of_mem present).symm
  · rfl

/-- Collecting a set anew with more clauses inserts them. -/
theorem ofList_clauses_append (set : ClauseSet) (more : List Clause) :
    ofList (set.clauses ++ more) = set.insertAll more := by
  rw [ofList_append, ofList_clauses]

/-- A set that lists what it was given does so after one more operation. -/
theorem step_ofList (given : List Clause) (operation : Operation) :
    (ofList given).step operation = ofList (operation.supply given) := by
  cases operation with
  | insert clause =>
      show ((ofList given).tryInsert clause).2 = ofList (given ++ [clause])
      rw [snd_tryInsert, ofList_append, insertAll_cons, insertAll_nil]
  | replace clauses => rfl
  | recollect more =>
      show ofList ((ofList given).clauses ++ more) = ofList (given ++ more)
      rw [ofList_clauses_append, ofList_append]
  | read book definition =>
      simp only [step, Operation.supply, Operation.written, Definition.read_eq]
      cases (Definition.segments definition).mapM (Definition.readSegment book) with
      | error error => rfl
      | ok clauses => rfl

/-- Operations keep a set the set of what it was given. -/
theorem run_ofList (given : List Clause) (history : List Operation) :
    (ofList given).run history = ofList (history.foldl Operation.supply given) := by
  induction history generalizing given with
  | nil => rfl
  | cons operation rest inductionHypothesis =>
      show ((ofList given).step operation).run rest = _
      rw [step_ofList, inductionHypothesis]
      rfl

theorem run_empty (history : List Operation) : empty.run history = ofList (supplied history) :=
  run_ofList [] history

theorem size_ofList (clauses : List Clause) : (ofList clauses).size = clauses.toFinset.card := by
  have same : clauses.toFinset = (ofList clauses).clauses.toFinset := by
    ext clause
    rw [List.mem_toFinset, List.mem_toFinset, clauses_ofList, List.mem_eraseDups]
  rw [same, List.toFinset_card_of_nodup (ofList clauses).nodup]
  rfl

/-- No two clauses of a set have both name and expectation in common. -/
theorem pairwise_different (set : ClauseSet) :
    set.clauses.Pairwise fun first second =>
      ¬ (first.name = second.name ∧ first.expectation = second.expectation) := by
  apply set.nodup.imp
  intro first second different same
  apply different
  cases first
  cases second
  cases same.1
  cases same.2
  rfl

theorem contains_ofList (clauses : List Clause) (clause : Clause) :
    (ofList clauses).contains clause = decide (clause ∈ clauses) := by
  simp only [contains, clauses_ofList, List.mem_eraseDups]

theorem contains_insert_of_ne {clause other : Clause} (different : other ≠ clause) :
    (set.insert clause).contains other = set.contains other := by
  simp only [contains, mem_insert, different, or_false]

/-- Whether repetitions are dropped from the first or the second part makes no difference. -/
theorem ofList_ofList_append (early late : List Clause) :
    ofList ((ofList early).clauses ++ late) = ofList (early ++ late) := by
  rw [ofList_clauses_append, ofList_append]

theorem ofList_append_ofList (early late : List Clause) :
    ofList (early ++ (ofList late).clauses) = ofList (early ++ late) := by
  rw [ofList_append, ofList_append, insertAll_ofList]

/-- A set lists what it was given since it was last replaced, in order and without repetitions, whatever else
happened to it. An insertion tells whether the clause is new and puts it last if it is. Clauses that expect
nothing and clauses with an empty expectation are kept apart. Sets that are collected anew do not depend on when
repetitions are dropped. -/
theorem sets_follow_their_history (history : List Operation) :
    (empty.run history).clauses = (supplied history).eraseDups ∧
    ((empty.run history).clauses.Pairwise fun first second =>
      ¬ (first.name = second.name ∧ first.expectation = second.expectation)) ∧
    (empty.run history).size = (supplied history).toFinset.card ∧
    (∀ clause, (empty.run history).contains clause = decide (clause ∈ supplied history)) ∧
    (∀ clause,
      ((empty.run history).tryInsert clause).1 = !(empty.run history).contains clause ∧
      ((empty.run history).tryInsert clause).2.clauses =
        if (empty.run history).contains clause then (empty.run history).clauses
        else (empty.run history).clauses ++ [clause]) ∧
    (∀ name,
      (⟨name, some ""⟩ : Clause) ≠ ⟨name, none⟩ ∧
      ((empty.run history).insert ⟨name, some ""⟩).contains ⟨name, none⟩ =
        (empty.run history).contains ⟨name, none⟩ ∧
      ((empty.run history).insert ⟨name, none⟩).contains ⟨name, some ""⟩ =
        (empty.run history).contains ⟨name, some ""⟩) ∧
    (∀ early late : List Clause,
      ofList ((ofList early).clauses ++ late) = ofList (early ++ late) ∧
      ofList (early ++ (ofList late).clauses) = ofList (early ++ late)) ∧
    ofList (empty.run history).clauses = empty.run history := by
  refine ⟨?_, pairwise_different _, ?_, ?_, ?_, ?_, ?_, ofList_clauses _⟩
  · rw [run_empty, clauses_ofList]
  · rw [run_empty, size_ofList]
  · intro clause
    rw [run_empty, contains_ofList]
  · intro clause
    refine ⟨fst_tryInsert _ clause, ?_⟩
    rw [snd_tryInsert, clauses_insert]
    simp only [contains, decide_eq_true_eq]
  · intro name
    have different : (⟨name, some ""⟩ : Clause) ≠ ⟨name, none⟩ := by simp
    exact ⟨different, contains_insert_of_ne different.symm, contains_insert_of_ne different⟩
  · intro early late
    exact ⟨ofList_ofList_append early late, ofList_append_ofList early late⟩

open scoped StandIn

/-- A repetition across an insertion and a definition that is read in between. -/
example :
    (empty.run [.insert ⟨"max", some "9"⟩, .read .standard "required; min:1; required",
      .insert ⟨"min", some "1"⟩, .read .standard "min", .recollect [⟨"max", some "9"⟩]]).clauses =
      [⟨"required", none⟩, ⟨"min", some "1"⟩, ⟨"max", some "9"⟩] := by
  decide +kernel

end FormRules.ClauseSet
