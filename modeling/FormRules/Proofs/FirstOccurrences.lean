/-
This file shows that a set of clauses is a list from which later repetitions are missing, however the
clauses came into it.
-/

import FormRules.ClauseSet
import Mathlib.Data.List.Induction

namespace FormRules

/-- The last item of a list is a repetition, or it comes last without repetitions too. -/
theorem eraseDups_append_singleton {α : Type} [DecidableEq α] (early : List α) (last : α) :
    (early ++ [last]).eraseDups = if last ∈ early then early.eraseDups else early.eraseDups ++ [last] := by
  rw [List.eraseDups_append]
  by_cases present : last ∈ early
  · have nothing : [last].removeAll early = [] := by
      simp [List.removeAll, present]
    rw [if_pos present, nothing, List.eraseDups_nil, List.append_nil]
  · have same : [last].removeAll early = [last] := by
      simp [List.removeAll, present]
    rw [if_neg present, same]
    rfl

namespace ClauseSet

variable {set : ClauseSet}

theorem insert_of_mem {clause : Clause} (present : clause ∈ set.clauses) : set.insert clause = set := by
  apply ext
  rw [clauses_insert, if_pos present]

@[simp] theorem insertAll_nil (set : ClauseSet) : set.insertAll [] = set := rfl

@[simp] theorem insertAll_cons (set : ClauseSet) (clause : Clause) (clauses : List Clause) :
    set.insertAll (clause :: clauses) = (set.insert clause).insertAll clauses := rfl

theorem insertAll_append (set : ClauseSet) (early late : List Clause) :
    set.insertAll (early ++ late) = (set.insertAll early).insertAll late :=
  List.foldl_append

theorem mem_insertAll {clauses : List Clause} {other : Clause} :
    other ∈ (set.insertAll clauses).clauses ↔ other ∈ set.clauses ∨ other ∈ clauses := by
  induction clauses generalizing set with
  | nil => simp
  | cons clause rest inductionHypothesis =>
      rw [insertAll_cons, inductionHypothesis, mem_insert, List.mem_cons, or_assoc]

theorem insertAll_of_subset {clauses : List Clause} (present : clauses ⊆ set.clauses) :
    set.insertAll clauses = set := by
  induction clauses with
  | nil => rfl
  | cons clause rest inductionHypothesis =>
      obtain ⟨first, others⟩ := List.cons_subset.1 present
      rw [insertAll_cons, insert_of_mem first]
      exact inductionHypothesis others

/-- It makes no difference whether repetitions are dropped before clauses are inserted. -/
theorem insertAll_insertAll (set other : ClauseSet) (clauses : List Clause) :
    set.insertAll (other.insertAll clauses).clauses = (set.insertAll other.clauses).insertAll clauses := by
  -- `other` grows by the clauses that are inserted; a clause it has is also in the set on the right.
  induction clauses generalizing other with
  | nil => rfl
  | cons clause rest inductionHypothesis =>
      rw [insertAll_cons, inductionHypothesis, insertAll_cons, clauses_insert]
      by_cases present : clause ∈ other.clauses
      · have already : clause ∈ (set.insertAll other.clauses).clauses := mem_insertAll.2 (.inr present)
        rw [if_pos present, insert_of_mem already]
      · rw [if_neg present, insertAll_append, insertAll_cons, insertAll_nil]

theorem ofList_append (early late : List Clause) :
    ofList (early ++ late) = (ofList early).insertAll late :=
  insertAll_append empty early late

theorem insertAll_ofList (set : ClauseSet) (clauses : List Clause) :
    set.insertAll (ofList clauses).clauses = set.insertAll clauses :=
  insertAll_insertAll set empty clauses

/-- Clauses that differ from each other and from those in the set follow them as they are. -/
theorem clauses_insertAll_of_nodup {clauses : List Clause} (nodup : (set.clauses ++ clauses).Nodup) :
    (set.insertAll clauses).clauses = set.clauses ++ clauses := by
  induction clauses generalizing set with
  | nil => simp
  | cons clause rest inductionHypothesis =>
      have absent : clause ∉ set.clauses := by
        intro present
        exact (List.nodup_append.1 nodup).2.2 clause present clause List.mem_cons_self rfl
      have inserted : (set.insert clause).clauses = set.clauses ++ [clause] := by
        rw [clauses_insert, if_neg absent]
      rw [insertAll_cons, inductionHypothesis, inserted, List.append_assoc, List.singleton_append]
      rw [inserted, List.append_assoc, List.singleton_append]
      exact nodup

theorem clauses_ofList_of_nodup {clauses : List Clause} (nodup : clauses.Nodup) :
    (ofList clauses).clauses = clauses :=
  clauses_insertAll_of_nodup nodup

@[simp] theorem ofList_clauses (set : ClauseSet) : ofList set.clauses = set :=
  ext (clauses_ofList_of_nodup set.nodup)

/-- The set of some clauses lists them in order, each of them where it first occurs. -/
theorem clauses_ofList (clauses : List Clause) : (ofList clauses).clauses = clauses.eraseDups := by
  induction clauses using List.reverseRecOn with
  | nil => rfl
  | append_singleton early last inductionHypothesis =>
      rw [ofList_append, insertAll_cons, insertAll_nil, clauses_insert, inductionHypothesis,
        eraseDups_append_singleton]
      simp only [List.mem_eraseDups]

theorem eraseDups_clauses (set : ClauseSet) : set.clauses.eraseDups = set.clauses := by
  rw [← clauses_ofList, ofList_clauses]

/-- Of two sets in a row, the second one adds what the first one does not have. -/
theorem clauses_ofList_append_clauses (early late : ClauseSet) :
    (ofList (early.clauses ++ late.clauses)).clauses =
      early.clauses ++ late.clauses.filter fun clause => clause ∉ early.clauses := by
  have remaining : late.clauses.removeAll early.clauses =
      late.clauses.filter fun clause => clause ∉ early.clauses := by
    simp [List.removeAll]
  have distinct : (late.clauses.filter fun clause => clause ∉ early.clauses).Nodup := late.nodup.filter _
  rw [clauses_ofList, List.eraseDups_append, eraseDups_clauses, remaining, ← clauses_ofList,
    clauses_ofList_of_nodup distinct]

end ClauseSet

end FormRules
