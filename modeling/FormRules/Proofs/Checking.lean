/-
This file relates a check against several clauses to the checks against each of them alone.
-/

import FormRules.Evaluation
import FormRules.Proofs.FirstError

namespace FormRules

namespace Verdict

/-- The verdict with each of its clauses replaced. -/
def map (f : Clause → Clause) : Verdict → Verdict
  | .checked clauses => .checked (clauses.map f)
  | .misconfigured clause fault => .misconfigured (f clause) fault

variable {verdict : Verdict} {f : Clause → Clause}

theorem map_id : verdict.map id = verdict := by
  cases verdict with
  | checked clauses => exact congrArg Verdict.checked (List.map_id clauses)
  | misconfigured clause fault => rfl

theorem isValid_map : (verdict.map f).isValid = verdict.isValid := by
  cases verdict with
  | checked clauses => exact List.isEmpty_map
  | misconfigured clause fault => rfl

theorem fault?_map : (verdict.map f).fault? = verdict.fault? := by
  cases verdict <;> rfl

theorem failed_map : (verdict.map f).failed = verdict.failed.map f := by
  cases verdict <;> rfl

end Verdict

namespace Rulebook

variable {book : Rulebook} {value : Option String}

/-- A check depends on nothing but what becomes of each clause, whichever clause, value and book it is that
the same becomes of. -/
theorem checkFrom_map {other : Rulebook} {otherValue : Option String} {f : Clause → Clause}
    {clauses : List Clause}
    (same : ∀ clause ∈ clauses, other.apply otherValue (f clause) = book.apply value clause)
    (failed : List Clause) :
    other.checkFrom otherValue (failed.map f) (clauses.map f) =
      (book.checkFrom value failed clauses).map f := by
  induction clauses generalizing failed with
  | nil =>
      apply congrArg Verdict.checked
      exact List.map_reverse.symm
  | cons clause rest inductionHypothesis =>
      obtain ⟨head, tail⟩ := List.forall_mem_cons.1 same
      rw [List.map_cons, checkFrom, checkFrom, head]
      cases book.apply value clause with
      | error fault => rfl
      | ok passes =>
          cases passes with
          | true => exact inductionHypothesis tail failed
          | false => exact inductionHypothesis tail (clause :: failed)

theorem checkClauses_map {other : Rulebook} {otherValue : Option String} {f : Clause → Clause}
    {clauses : List Clause}
    (same : ∀ clause ∈ clauses, other.apply otherValue (f clause) = book.apply value clause) :
    other.checkClauses otherValue (clauses.map f) = (book.checkClauses value clauses).map f :=
  checkFrom_map same []

theorem checkClauses_congr {other : Rulebook} {clauses : List Clause}
    (same : ∀ clause ∈ clauses, other.apply value clause = book.apply value clause) :
    other.checkClauses value clauses = book.checkClauses value clauses := by
  have mapped := checkClauses_map (f := id) same
  rwa [List.map_id, Verdict.map_id] at mapped

/-- A value is valid if it passes every clause and no clause has failed before. -/
theorem isValid_checkFrom_iff {failed clauses : List Clause} :
    (book.checkFrom value failed clauses).isValid = true ↔
      failed = [] ∧ ∀ clause ∈ clauses, book.apply value clause = .ok true := by
  induction clauses generalizing failed with
  | nil => simp [checkFrom, Verdict.isValid]
  | cons clause rest inductionHypothesis =>
      rw [checkFrom, List.forall_mem_cons]
      cases applied : book.apply value clause with
      | error fault => simp [Verdict.isValid]
      | ok passes => cases passes <;> simp [inductionHypothesis]

theorem isValid_checkClauses_iff_passes {clauses : List Clause} :
    (book.checkClauses value clauses).isValid = true ↔
      ∀ clause ∈ clauses, book.apply value clause = .ok true := by
  simp [checkClauses, isValid_checkFrom_iff]

/-- The clause fails the value when no other clause is checked. -/
def failsAlone (book : Rulebook) (value : Option String) (clause : Clause) : Bool :=
  !(book.checkClauses value [clause]).isValid

theorem failsAlone_of_apply {clause : Clause} {passes : Bool}
    (applied : book.apply value clause = .ok passes) : book.failsAlone value clause = !passes := by
  cases passes <;>
    simp [failsAlone, checkClauses, checkFrom, applied, Verdict.isValid]

/-- Without a fault the clauses that fail alone follow those that have failed before. -/
theorem checkFrom_of_allOk {clauses : List Clause} (fine : AllOk (book.apply value) clauses)
    (failed : List Clause) :
    book.checkFrom value failed clauses =
      .checked (failed.reverse ++ clauses.filter (book.failsAlone value)) := by
  induction clauses generalizing failed with
  | nil => simp [checkFrom]
  | cons clause rest inductionHypothesis =>
      obtain ⟨⟨passes, applied⟩, restFine⟩ := allOk_cons.1 fine
      have alone := failsAlone_of_apply applied
      cases passes with
      | true =>
          rw [List.filter_cons_of_neg (by simp [alone])]
          simp only [checkFrom, applied]
          exact inductionHypothesis restFine failed
      | false =>
          rw [List.filter_cons_of_pos (by simp [alone])]
          simp only [checkFrom, applied]
          rw [inductionHypothesis restFine (clause :: failed)]
          simp

/-- The first fault stands for all that has failed before it. -/
theorem checkFrom_of_firstError {clauses : List Clause} {clause : Clause} {fault : Fault}
    (first : FirstError (book.apply value) clauses clause fault) (failed : List Clause) :
    book.checkFrom value failed clauses = .misconfigured clause fault := by
  induction clauses generalizing failed with
  | nil => simp at first
  | cons head rest inductionHypothesis =>
      rcases first_cons.1 first with ⟨rfl, faulty⟩ | ⟨fine, later⟩
      · simp only [checkFrom, faulty]
      · obtain ⟨passes, applied⟩ := exists_ok_iff.2 fine
        cases passes <;> simp only [checkFrom, applied] <;> exact inductionHypothesis later _

theorem checkClauses_of_allOk {clauses : List Clause} (fine : AllOk (book.apply value) clauses) :
    book.checkClauses value clauses = .checked (clauses.filter (book.failsAlone value)) :=
  checkFrom_of_allOk fine []

theorem checkClauses_of_firstError {clauses : List Clause} {clause : Clause} {fault : Fault}
    (first : FirstError (book.apply value) clauses clause fault) :
    book.checkClauses value clauses = .misconfigured clause fault :=
  checkFrom_of_firstError first []

/-- A verdict carries a fault if and only if it is the first one that the clauses raise. -/
theorem fault?_checkClauses {clauses : List Clause} {fault : Fault} :
    (book.checkClauses value clauses).fault? = some fault ↔
      ∃ clause, FirstError (book.apply value) clauses clause fault := by
  rcases allOk_or_firstError (book.apply value) clauses with fine | ⟨clause, raised, first⟩
  · have none : ¬ ∃ clause, FirstError (book.apply value) clauses clause fault :=
      fun ⟨clause, first⟩ => not_allOk_of_firstError first fine
    simp [checkClauses_of_allOk fine, Verdict.fault?, none]
  · constructor
    · intro carried
      rw [checkClauses_of_firstError first] at carried
      cases carried
      exact ⟨clause, first⟩
    · intro raisedFirst
      obtain ⟨other, otherFirst⟩ := raisedFirst
      rw [checkClauses_of_firstError otherFirst]
      rfl

/-- The clause is misconfigured when no other clause is checked. -/
def faultsAlone (book : Rulebook) (value : Option String) (clause : Clause) : Bool :=
  (book.checkClauses value [clause]).isMisconfigured

theorem faultsAlone_of_ok {clause : Clause} {passes : Bool}
    (applied : book.apply value clause = .ok passes) : book.faultsAlone value clause = false := by
  cases passes <;> simp [faultsAlone, checkClauses, checkFrom, applied, Verdict.isMisconfigured, Verdict.fault?]

theorem faultsAlone_of_error {clause : Clause} {fault : Fault}
    (applied : book.apply value clause = .error fault) : book.faultsAlone value clause = true := by
  simp [faultsAlone, checkClauses, checkFrom, applied, Verdict.isMisconfigured, Verdict.fault?]

/-- The clauses that a check reports are the first one that faults alone or, if there is none, those that
fail alone. -/
theorem failed_checkClauses (book : Rulebook) (value : Option String) (clauses : List Clause) :
    (book.checkClauses value clauses).failed =
      match clauses.find? (book.faultsAlone value) with
      | some clause => [clause]
      | none => clauses.filter (book.failsAlone value) := by
  rcases allOk_or_firstError (book.apply value) clauses with fine | ⟨clause, fault, first⟩
  · have none : clauses.find? (book.faultsAlone value) = none := by
      apply List.find?_eq_none.2
      intro clause member
      obtain ⟨passes, applied⟩ := fine clause member
      simp [faultsAlone_of_ok applied]
    rw [none, checkClauses_of_allOk fine]
    rfl
  · have found : clauses.find? (book.faultsAlone value) = some clause := by
      obtain ⟨before, after, split, early, faulty⟩ := first
      refine List.find?_eq_some_iff_append.2 ⟨faultsAlone_of_error faulty, before, after, split, ?_⟩
      intro other member
      obtain ⟨passes, applied⟩ := exists_ok_iff.2 (early other member)
      simp [faultsAlone_of_ok applied]
    rw [found, checkClauses_of_firstError first]
    rfl

/-- The clauses that a check reports, each with its position. -/
def reported (book : Rulebook) (value : Option String) (clauses : List Clause) : List (Clause × Nat) :=
  match clauses.zipIdx.find? (book.faultsAlone value ∘ Prod.fst) with
  | some entry => [entry]
  | none => clauses.zipIdx.filter (book.failsAlone value ∘ Prod.fst)

theorem map_fst_reported (book : Rulebook) (value : Option String) (clauses : List Clause) :
    (book.reported value clauses).map Prod.fst = (book.checkClauses value clauses).failed := by
  have found : clauses.find? (book.faultsAlone value) =
      (clauses.zipIdx.find? (book.faultsAlone value ∘ Prod.fst)).map Prod.fst := by
    rw [← List.find?_map, List.zipIdx_map_fst]
  have kept : clauses.filter (book.failsAlone value) =
      (clauses.zipIdx.filter (book.failsAlone value ∘ Prod.fst)).map Prod.fst := by
    rw [← List.filter_map, List.zipIdx_map_fst]
  rw [failed_checkClauses, found, kept, reported]
  cases clauses.zipIdx.find? (book.faultsAlone value ∘ Prod.fst) <;> rfl

/-- The same is reported at the same positions if the same becomes of each clause. -/
theorem reported_map {other : Rulebook} {otherValue : Option String} {f : Clause → Clause}
    (same : ∀ clause, other.apply otherValue (f clause) = book.apply value clause)
    (clauses : List Clause) :
    other.reported otherValue (clauses.map f) = (book.reported value clauses).map (Prod.map f id) := by
  have alone : ∀ clause,
      other.checkClauses otherValue [f clause] = (book.checkClauses value [clause]).map f := by
    intro clause
    have single : ∀ member ∈ [clause], other.apply otherValue (f member) = book.apply value member :=
      fun member _ => same member
    exact checkClauses_map single
  have faults : (other.faultsAlone otherValue ∘ Prod.fst) ∘ Prod.map f id =
      book.faultsAlone value ∘ (Prod.fst : Clause × Nat → Clause) := by
    funext entry
    show (other.checkClauses otherValue [f entry.1]).isMisconfigured = _
    rw [alone, Verdict.isMisconfigured, Verdict.fault?_map]
    rfl
  have fails : (other.failsAlone otherValue ∘ Prod.fst) ∘ Prod.map f id =
      book.failsAlone value ∘ (Prod.fst : Clause × Nat → Clause) := by
    funext entry
    show (!(other.checkClauses otherValue [f entry.1]).isValid) = _
    rw [alone, Verdict.isValid_map]
    rfl
  rw [reported, reported, List.zipIdx_map, List.find?_map, List.filter_map, faults, fails]
  cases clauses.zipIdx.find? (book.faultsAlone value ∘ Prod.fst) <;> rfl

/-- A check reports exactly the clauses that fail alone, in order and as often as they stand there. If a
clause cannot be applied, the first such clause and its fault are all that is reported. -/
theorem checkClauses_reports_failures_alone (book : Rulebook) (value : Option String)
    (clauses : List Clause) :
    (AllOk (book.apply value) clauses →
      (book.checkClauses value clauses).fault? = none ∧
      (book.checkClauses value clauses).failed = clauses.filter (book.failsAlone value) ∧
      ((book.checkClauses value clauses).isValid = true ↔
        clauses.filter (book.failsAlone value) = [])) ∧
    (¬ AllOk (book.apply value) clauses →
      ∃ clause fault, FirstError (book.apply value) clauses clause fault ∧
        (book.checkClauses value clauses).isValid = false ∧
        (book.checkClauses value clauses).fault? = some fault ∧
        (book.checkClauses value clauses).failed = [clause]) ∧
    ((book.checkClauses value clauses).isValid = true ↔
      (book.checkClauses value clauses).failed = [] ∧
      (book.checkClauses value clauses).fault? = none) := by
  refine ⟨?_, ?_, ?_⟩
  · intro fine
    rw [checkClauses_of_allOk fine]
    exact ⟨rfl, rfl, Verdict.isValid_iff⟩
  · intro faulty
    obtain ⟨clause, fault, first⟩ :=
      (allOk_or_firstError (book.apply value) clauses).resolve_left faulty
    rw [checkClauses_of_firstError first]
    exact ⟨clause, fault, first, rfl, rfl, rfl⟩
  · rcases allOk_or_firstError (book.apply value) clauses with fine | ⟨clause, fault, first⟩
    · simp [checkClauses_of_allOk fine, Verdict.isValid_iff, Verdict.fault?]
    · simp [checkClauses_of_firstError first, Verdict.isValid, Verdict.failed]

end Rulebook

end FormRules
