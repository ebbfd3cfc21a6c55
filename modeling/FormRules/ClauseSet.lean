/-
This file holds sets of clauses that keep the order in which their members came.
-/

import FormRules.Clause

namespace FormRules

/-- Clauses in order, each of them once. -/
structure ClauseSet where
  clauses : List Clause
  nodup : clauses.Nodup
  deriving DecidableEq

namespace ClauseSet

def empty : ClauseSet := ⟨[], .nil⟩

def contains (set : ClauseSet) (clause : Clause) : Bool :=
  decide (clause ∈ set.clauses)

/-- The set with the clause as its last member, unless it has it already. -/
def insert (set : ClauseSet) (clause : Clause) : ClauseSet :=
  if present : clause ∈ set.clauses then set
  else
    { clauses := set.clauses ++ [clause]
      nodup := by
        rw [List.nodup_append]
        refine ⟨set.nodup, by simp, ?_⟩
        intro a member b single
        rw [List.mem_singleton.1 single]
        exact fun equal => present (equal ▸ member) }

/-- Inserts a clause and tells whether the set did not have it before. -/
def tryInsert (set : ClauseSet) (clause : Clause) : Bool × ClauseSet :=
  if clause ∈ set.clauses then (false, set) else (true, set.insert clause)

/-- The set with all the clauses inserted in order. -/
def insertAll (set : ClauseSet) (clauses : List Clause) : ClauseSet :=
  clauses.foldl insert set

/-- The clauses without repetitions, each at its first position. -/
def ofList (clauses : List Clause) : ClauseSet :=
  empty.insertAll clauses

def size (set : ClauseSet) : Nat :=
  set.clauses.length

theorem clauses_insert (set : ClauseSet) (clause : Clause) :
    (set.insert clause).clauses
      = if clause ∈ set.clauses then set.clauses else set.clauses ++ [clause] := by
  unfold insert
  split <;> simp_all

theorem mem_insert {set : ClauseSet} {clause other : Clause} :
    other ∈ (set.insert clause).clauses ↔ other ∈ set.clauses ∨ other = clause := by
  rw [clauses_insert]
  split <;> grind

theorem ext {first second : ClauseSet} (equal : first.clauses = second.clauses) : first = second := by
  cases first
  cases second
  cases equal
  rfl

end ClauseSet

end FormRules
