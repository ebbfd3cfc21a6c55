/-
This file shows that a definition asks for all that its parts ask for. A check against two definitions with a
semicolon between them gives the verdicts on both of them, one after the other; what the second definition
repeats is reported once.
-/

import FormRules.Proofs.Checking
import FormRules.Proofs.Joining
import FormRules.StandIn

namespace FormRules

namespace Verdict

/-- The verdict of a check that goes on after another one. A misconfigured clause ends it. -/
def andThen : Verdict → Verdict → Verdict
  | .misconfigured clause fault, _ => .misconfigured clause fault
  | .checked _, .misconfigured clause fault => .misconfigured clause fault
  | .checked failed, .checked more => .checked (failed ++ more)

/-- The verdict when some of the clauses that failed are not reported. -/
def restrict (keep : Clause → Bool) : Verdict → Verdict
  | .checked failed => .checked (failed.filter keep)
  | .misconfigured clause fault => .misconfigured clause fault

variable {first second : Verdict}

theorem isMisconfigured_andThen :
    (first.andThen second).isMisconfigured = (first.isMisconfigured || second.isMisconfigured) := by
  cases first <;> cases second <;> rfl

theorem isMisconfigured_restrict (keep : Clause → Bool) :
    (first.restrict keep).isMisconfigured = first.isMisconfigured := by
  cases first <;> rfl

theorem isValid_andThen :
    (first.andThen second).isValid = (first.isValid && second.isValid) := by
  cases first with
  | misconfigured clause fault => rfl
  | checked failed =>
      cases second with
      | misconfigured clause fault => exact (Bool.and_false _).symm
      | checked more => cases failed <;> rfl

theorem andThen_of_isMisconfigured (misconfigured : first.isMisconfigured = true) :
    first.andThen second = first := by
  cases first with
  | misconfigured clause fault => rfl
  | checked failed => cases misconfigured

theorem andThen_of_second_isMisconfigured (fine : first.isMisconfigured = false)
    (misconfigured : second.isMisconfigured = true) : first.andThen second = second := by
  cases first with
  | misconfigured clause fault => cases fine
  | checked failed =>
      cases second with
      | misconfigured clause fault => rfl
      | checked more => cases misconfigured

theorem restrict_of_isMisconfigured (misconfigured : first.isMisconfigured = true)
    (keep : Clause → Bool) : first.restrict keep = first := by
  cases first with
  | misconfigured clause fault => rfl
  | checked failed => cases misconfigured

theorem failed_andThen (firstFine : first.isMisconfigured = false)
    (secondFine : second.isMisconfigured = false) :
    (first.andThen second).failed = first.failed ++ second.failed := by
  cases first with
  | misconfigured clause fault => cases firstFine
  | checked failed =>
      cases second with
      | misconfigured clause fault => cases secondFine
      | checked more => rfl

theorem failed_restrict (fine : first.isMisconfigured = false) (keep : Clause → Bool) :
    (first.restrict keep).failed = first.failed.filter keep := by
  cases first with
  | misconfigured clause fault => cases fine
  | checked failed => rfl

end Verdict

namespace Rulebook

variable {book : Rulebook} {value : Option String} {clauses : List Clause}

/-- No clause is misconfigured exactly if each of them can be applied. -/
theorem isMisconfigured_checkClauses :
    (book.checkClauses value clauses).isMisconfigured = false ↔ AllOk (book.apply value) clauses := by
  rcases allOk_or_firstError (book.apply value) clauses with fine | ⟨clause, fault, first⟩
  · simp [checkClauses_of_allOk fine, fine, Verdict.isMisconfigured, Verdict.fault?]
  · simp [checkClauses_of_firstError first, not_allOk_of_firstError first, Verdict.isMisconfigured,
      Verdict.fault?]

/-- Clauses are checked one after the other. -/
theorem checkClauses_append (early late : List Clause) :
    book.checkClauses value (early ++ late) =
      (book.checkClauses value early).andThen (book.checkClauses value late) := by
  rcases allOk_or_firstError (book.apply value) early with earlyFine | ⟨clause, fault, first⟩
  · rw [checkClauses_of_allOk earlyFine]
    rcases allOk_or_firstError (book.apply value) late with lateFine | ⟨clause, fault, first⟩
    · rw [checkClauses_of_allOk lateFine, checkClauses_of_allOk (allOk_append.2 ⟨earlyFine, lateFine⟩),
        List.filter_append]
      rfl
    · have fine : ∀ other ∈ early, ∀ otherFault, book.apply value other ≠ .error otherFault :=
        fun other member => exists_ok_iff.1 (earlyFine other member)
      rw [checkClauses_of_firstError first,
        checkClauses_of_firstError (first_append.2 (.inr ⟨fine, first⟩))]
      rfl
  · rw [checkClauses_of_firstError first, checkClauses_of_firstError (first.append late)]
    rfl

/-- Clauses that can be applied can be left out, and then they are not reported. -/
theorem checkClauses_filter {keep : Clause → Bool}
    (applicable : ∀ clause ∈ clauses, keep clause = false → ∃ passes, book.apply value clause = .ok passes) :
    book.checkClauses value (clauses.filter keep) = (book.checkClauses value clauses).restrict keep := by
  rcases allOk_or_firstError (book.apply value) clauses with fine | ⟨clause, fault, first⟩
  · rw [checkClauses_of_allOk fine, checkClauses_of_allOk (fine.filter keep), List.filter_comm]
    rfl
  · have kept := first.filter fun other member dropped =>
      exists_ok_iff.1 (applicable other member dropped)
    rw [checkClauses_of_firstError first, checkClauses_of_firstError kept]
    rfl

/-- The clauses that the first set has already are not checked again. -/
theorem checkClauses_ofList_append (early late : ClauseSet) :
    book.checkClauses value (ClauseSet.ofList (early.clauses ++ late.clauses)).clauses =
      (book.checkClauses value early.clauses).andThen
        ((book.checkClauses value late.clauses).restrict fun clause => clause ∉ early.clauses) := by
  rw [ClauseSet.clauses_ofList_append_clauses, checkClauses_append]
  cases misconfigured : (book.checkClauses value early.clauses).isMisconfigured with
  | true =>
      rw [Verdict.andThen_of_isMisconfigured misconfigured,
        Verdict.andThen_of_isMisconfigured misconfigured]
  | false =>
      have fine := isMisconfigured_checkClauses.1 misconfigured
      rw [checkClauses_filter]
      intro clause _ dropped
      exact fine clause (by simpa using dropped)

/-- A value that passes some clauses fails none of them among others, so that nothing goes unreported. -/
theorem restrict_checkClauses_of_isValid {early : List Clause} (late : List Clause)
    (valid : (book.checkClauses value early).isValid = true) :
    ((book.checkClauses value late).restrict fun clause => clause ∉ early) = book.checkClauses value late := by
  have earlyFine : AllOk (book.apply value) early := by
    cases misconfigured : (book.checkClauses value early).isMisconfigured with
    | true => simp [Verdict.isValid_eq_false_of_isMisconfigured misconfigured] at valid
    | false => exact isMisconfigured_checkClauses.1 misconfigured
  rw [checkClauses_of_allOk earlyFine, Verdict.isValid_iff] at valid
  rcases allOk_or_firstError (book.apply value) late with lateFine | ⟨clause, fault, first⟩
  · have new : ∀ clause ∈ late.filter (book.failsAlone value), clause ∉ early := by
      intro clause member present
      exact List.filter_eq_nil_iff.1 valid clause present (List.mem_filter.1 member).2
    rw [checkClauses_of_allOk lateFine, Verdict.restrict,
      List.filter_eq_self.2 fun clause member => decide_eq_true (new clause member)]
  · rw [checkClauses_of_firstError first]
    rfl

theorem check_eq_of_read {definition : String} {set : ClauseSet}
    (read : Definition.read book definition = .ok set) :
    book.check value (some definition) = .ok (book.checkClauses value set.clauses) := by
  simp only [check, read]
  rfl

/-- Two definitions with a semicolon between them ask for what both of them ask for. A value is valid if it is
so for both, and it meets a misconfigured clause if it does so in one of them, the first one counting. Without
such a clause, what fails in the first definition is followed by what fails in the second one only. -/
theorem check_joined_definitions (book : Rulebook) (value : Option String) (first second : String)
    (early late : ClauseSet) (readFirst : Definition.read book first = .ok early)
    (readSecond : Definition.read book second = .ok late) :
    ∃ firstVerdict secondVerdict verdict,
      book.check value (some first) = .ok firstVerdict ∧
      book.check value (some second) = .ok secondVerdict ∧
      book.check value (some (first ++ ";" ++ second)) = .ok verdict ∧
      (verdict.isValid = true ↔ firstVerdict.isValid = true ∧ secondVerdict.isValid = true) ∧
      (verdict.isMisconfigured = true ↔
        firstVerdict.isMisconfigured = true ∨ secondVerdict.isMisconfigured = true) ∧
      (firstVerdict.isMisconfigured = true →
        verdict.fault? = firstVerdict.fault? ∧ verdict.failed = firstVerdict.failed) ∧
      (firstVerdict.isMisconfigured = false → secondVerdict.isMisconfigured = true →
        verdict.fault? = secondVerdict.fault? ∧ verdict.failed = secondVerdict.failed) ∧
      (firstVerdict.isMisconfigured = false → secondVerdict.isMisconfigured = false →
        verdict.failed =
          firstVerdict.failed ++ secondVerdict.failed.filter fun clause => clause ∉ early.clauses) := by
  have readBoth : Definition.read book (first ++ ";" ++ second) =
      .ok (ClauseSet.ofList (early.clauses ++ late.clauses)) := by
    rw [Definition.read_append_semicolon, readFirst, readSecond]
    rfl
  refine ⟨_, _, _, check_eq_of_read readFirst, check_eq_of_read readSecond, check_eq_of_read readBoth, ?_⟩
  rw [checkClauses_ofList_append]
  generalize rest : (book.checkClauses value late.clauses).restrict (fun clause => clause ∉ early.clauses) =
    new
  have sameMisconfigured : new.isMisconfigured = (book.checkClauses value late.clauses).isMisconfigured := by
    rw [← rest, Verdict.isMisconfigured_restrict]
  refine ⟨?_, ?_, ?_, ?_, ?_⟩
  · rw [Verdict.isValid_andThen, Bool.and_eq_true]
    apply and_congr_right
    intro valid
    rw [← rest, restrict_checkClauses_of_isValid late.clauses valid]
  · rw [Verdict.isMisconfigured_andThen, Bool.or_eq_true, sameMisconfigured]
  · intro misconfigured
    rw [Verdict.andThen_of_isMisconfigured misconfigured]
    exact ⟨rfl, rfl⟩
  · intro fine misconfigured
    have same : new = book.checkClauses value late.clauses := by
      rw [← rest, Verdict.restrict_of_isMisconfigured misconfigured]
    rw [same, Verdict.andThen_of_second_isMisconfigured fine misconfigured]
    exact ⟨rfl, rfl⟩
  · intro firstFine secondFine
    rw [Verdict.failed_andThen firstFine (sameMisconfigured.trans secondFine), ← rest,
      Verdict.failed_restrict secondFine]

open scoped StandIn

/-- A bound that both definitions have is reported once, where the first one has it. -/
theorem check_joined_with_common_bound :
    Definition.read .standard "max:5; required" =
      .ok ⟨[⟨"max", some "5"⟩, ⟨"required", none⟩], by decide⟩ ∧
    Definition.read .standard "minLength:2; max: 5" =
      .ok ⟨[⟨"minLength", some "2"⟩, ⟨"max", some "5"⟩], by decide⟩ ∧
    ∃ secondVerdict verdict,
      standard.check (some "7") (some "minLength:2; max: 5") = .ok secondVerdict ∧
      standard.check (some "7") (some ("max:5; required" ++ ";" ++ "minLength:2; max: 5")) = .ok verdict ∧
      secondVerdict.failed = [⟨"minLength", some "2"⟩, ⟨"max", some "5"⟩] ∧
      verdict.failed = [⟨"max", some "5"⟩, ⟨"minLength", some "2"⟩] := by
  have readFirst : Definition.read .standard "max:5; required" =
      .ok ⟨[⟨"max", some "5"⟩, ⟨"required", none⟩], by decide⟩ := by
    decide +kernel
  have readSecond : Definition.read .standard "minLength:2; max: 5" =
      .ok ⟨[⟨"minLength", some "2"⟩, ⟨"max", some "5"⟩], by decide⟩ := by
    decide +kernel
  obtain ⟨firstVerdict, secondVerdict, verdict, checkedFirst, checkedSecond, checked, -, -, -, -, failed⟩ :=
    check_joined_definitions .standard (some "7") _ _ _ _ readFirst readSecond
  have firstKnown : standard.check (some "7") (some "max:5; required") =
      .ok (.checked [⟨"max", some "5"⟩]) := by
    decide +kernel
  have secondKnown : standard.check (some "7") (some "minLength:2; max: 5") =
      .ok (.checked [⟨"minLength", some "2"⟩, ⟨"max", some "5"⟩]) := by
    decide +kernel
  cases Except.ok.inj (checkedFirst.symm.trans firstKnown)
  cases Except.ok.inj (checkedSecond.symm.trans secondKnown)
  refine ⟨readFirst, readSecond, _, verdict, checkedSecond, checked, rfl, ?_⟩
  rw [failed rfl rfl]
  decide

end Rulebook

end FormRules
