/-
This file shows what it changes to drop the repetitions from a list of clauses: nothing but how often a clause is
reported, and which of several patterns is hinted.
-/

import FormRules.Proofs.FirstOccurrences
import FormRules.Proofs.NumberAgreement
import FormRules.StandIn

namespace FormRules

section Lists

variable {α ε : Type} [DecidableEq α] {items : List α} {item : α} {error : ε}

/-- Repetitions can be dropped before or after some items are left out. -/
theorem eraseDups_filter (items : List α) (keep : α → Bool) :
    (items.filter keep).eraseDups = items.eraseDups.filter keep := by
  induction items using List.reverseRecOn with
  | nil => rfl
  | append_singleton early last inductionHypothesis =>
      rw [List.filter_append, List.filter_singleton, eraseDups_append_singleton early last]
      by_cases present : last ∈ early <;> cases kept : keep last <;>
        simp [present, kept, eraseDups_append_singleton, inductionHypothesis, List.filter_append]

/-- A repetition never has the first flaw, since there is one earlier of the same flaw. -/
theorem first_eraseDups {flaw : α → ε → Prop} : First flaw items.eraseDups item error ↔ First flaw items item error := by
  induction items using List.reverseRecOn with
  | nil => rfl
  | append_singleton early last inductionHypothesis =>
      rw [eraseDups_append_singleton, first_append]
      by_cases present : last ∈ early
      · rw [if_pos present, inductionHypothesis]
        refine ⟨.inl, ?_⟩
        rintro (first | ⟨fine, first⟩)
        · exact first
        · exact absurd first.flawed (fine item (List.mem_singleton.1 first.mem ▸ present) error)
      · rw [if_neg present, first_append, inductionHypothesis]
        simp only [List.mem_eraseDups]

end Lists

namespace Verdict

/-- The verdict with each failed clause reported once. -/
def once : Verdict → Verdict
  | .checked failed => .checked failed.eraseDups
  | .misconfigured clause fault => .misconfigured clause fault

variable {verdict : Verdict}

theorem isValid_once : verdict.once.isValid = verdict.isValid := by
  cases verdict with
  | checked failed => cases failed <;> simp [once, isValid, List.eraseDups_cons]
  | misconfigured clause fault => rfl

theorem fault?_once : verdict.once.fault? = verdict.fault? := by
  cases verdict <;> rfl

theorem failed_once : verdict.once.failed = verdict.failed.eraseDups := by
  cases verdict with
  | checked failed => rfl
  | misconfigured clause fault => simp [once, failed, List.eraseDups_cons]

end Verdict

namespace Limit

variable {limit : Limit} {bound : Double} {constraints : List Constraint}

/-- A bound that is taken into account asks for no more than the hint does afterwards. -/
theorem exists_tighten (limit : Limit) (bound : Double) (hint : Option Double) :
    ∃ kept, limit.tighten bound hint = some kept ∧ limit.AsksNoMore bound kept ∧
      ∀ before, hint = some before → limit.AsksNoMore before kept := by
  cases hint with
  | none =>
      have first : limit.tighten bound none = some bound := by cases limit <;> rfl
      exact ⟨bound, first, .refl limit bound, by simp⟩
  | some before =>
      rw [tighten_some]
      refine ⟨_, rfl, ?_⟩
      simp only [Option.some.injEq, forall_eq']
      split
      · rename_i weaker
        exact ⟨weaker, .refl limit before⟩
      · rename_i stricter
        exact ⟨.refl limit bound, (asksNoMore_or limit bound before).resolve_left stricter⟩

/-- None of the bounds in constraints asks for more than the hint. -/
theorem exists_hint_of_mem (member : limit.constraint bound ∈ constraints) :
    ∃ kept, limit.hint (Hints.ofConstraints constraints) = some kept ∧ limit.AsksNoMore bound kept := by
  induction constraints using List.reverseRecOn with
  | nil => cases member
  | append_singleton early last inductionHypothesis =>
      rw [Hints.ofConstraints_append, hint_add]
      rcases List.mem_append.1 member with before | here
      · obtain ⟨kept, hinted, weaker⟩ := inductionHypothesis before
        cases limit.bound? last with
        | none => exact ⟨kept, hinted, weaker⟩
        | some other =>
            obtain ⟨stricter, tightened, -, atLeast⟩ :=
              exists_tighten limit other (limit.hint (Hints.ofConstraints early))
            exact ⟨stricter, tightened, weaker.trans (atLeast kept hinted)⟩
      · rw [← List.mem_singleton.1 here, bound?_eq_some_iff.2 rfl]
        obtain ⟨kept, tightened, weaker, -⟩ :=
          exists_tighten limit bound (limit.hint (Hints.ofConstraints early))
        exact ⟨kept, tightened, weaker⟩

theorem mem_of_hint (hinted : limit.hint (Hints.ofConstraints constraints) = some bound) :
    limit.constraint bound ∈ constraints := by
  have member := (Hints.sumsUp_ofConstraints limit constraints).mem bound hinted
  obtain ⟨constraint, inside, found⟩ := List.mem_filterMap.1 member
  exact bound?_eq_some_iff.1 found ▸ inside

theorem AsksNoMore.value_eq {other : Double} (weaker : limit.AsksNoMore bound other)
    (stronger : limit.AsksNoMore other bound) : bound.value = other.value := by
  rw [Binary.value_eq_value_iff]
  cases limit with
  | min | minLength => exact ⟨weaker, stronger⟩
  | max | maxLength => exact ⟨stronger, weaker⟩

/-- As a number, a hint depends on which constraints there are, and not on their order and number. -/
theorem value_hint_of_same {others : List Constraint}
    (same : ∀ constraint, constraint ∈ constraints ↔ constraint ∈ others) :
    (limit.hint (Hints.ofConstraints constraints)).map Binary.value =
      (limit.hint (Hints.ofConstraints others)).map Binary.value := by
  cases hinted : limit.hint (Hints.ofConstraints constraints) with
  | none =>
      cases otherHinted : limit.hint (Hints.ofConstraints others) with
      | none => rfl
      | some other =>
          obtain ⟨kept, found, -⟩ := exists_hint_of_mem ((same _).2 (mem_of_hint otherHinted))
          rw [hinted] at found
          cases found
  | some bound =>
      obtain ⟨other, otherHinted, weaker⟩ := exists_hint_of_mem ((same _).1 (mem_of_hint hinted))
      obtain ⟨kept, found, stronger⟩ := exists_hint_of_mem ((same _).2 (mem_of_hint otherHinted))
      cases Option.some.inj (hinted.symm.trans found)
      rw [otherHinted, Option.map_some, Option.map_some, weaker.value_eq stronger]

end Limit

namespace Hints

variable {constraints others : List Constraint}

theorem required_of_same (same : ∀ constraint, constraint ∈ constraints ↔ constraint ∈ others) :
    (ofConstraints constraints).required = (ofConstraints others).required := by
  rw [Bool.eq_iff_iff, required_ofConstraints, required_ofConstraints, same]

theorem control_of_same (same : ∀ constraint, constraint ∈ constraints ↔ constraint ∈ others) :
    (ofConstraints constraints).control = (ofConstraints others).control := by
  have number : (ofConstraints constraints).control = .number ↔ (ofConstraints others).control = .number := by
    rw [control_ofConstraints, control_ofConstraints]
    simp only [same]
  cases first : (ofConstraints constraints).control <;> cases second : (ofConstraints others).control <;>
    simp_all

end Hints

namespace Rulebook

variable {book : Rulebook} {clauses : List Clause} {constraints : List Constraint}

/-- Without repetitions the same fault is met, or else each clause that fails is reported once. -/
theorem checkClauses_eraseDups (book : Rulebook) (value : Option String) (clauses : List Clause) :
    book.checkClauses value clauses.eraseDups = (book.checkClauses value clauses).once := by
  rcases allOk_or_firstError (book.apply value) clauses with fine | ⟨clause, fault, first⟩
  · have onceFine : AllOk (book.apply value) clauses.eraseDups :=
      fun clause member => fine clause (List.mem_eraseDups.1 member)
    rw [checkClauses_of_allOk fine, checkClauses_of_allOk onceFine, ← eraseDups_filter]
    rfl
  · rw [checkClauses_of_firstError first, checkClauses_of_firstError (first_eraseDups.2 first)]
    rfl

theorem constraints_eraseDups_eq_error_iff {fault : Fault} :
    book.constraints clauses.eraseDups = .error fault ↔ book.constraints clauses = .error fault := by
  simp only [constraints_eq_error_iff, first_eraseDups]

theorem mem_constraints_iff (described : book.constraints clauses = .ok constraints) (constraint : Constraint) :
    constraint ∈ constraints ↔ ∃ clause ∈ clauses, book.constraint? clause = .ok (some constraint) := by
  induction clauses generalizing constraints with
  | nil =>
      cases described
      simp
  | cons clause rest inductionHypothesis =>
      simp only [Rulebook.constraints, bind_eq_ok_iff, pure_eq_ok_iff] at described
      obtain ⟨first, head, others, tail, rfl⟩ := described
      rw [List.mem_append, inductionHypothesis tail, List.exists_mem_cons_iff, head, Option.mem_toList]
      simp

/-- Without repetitions, a check of a list of clauses has the same outcome and reports each failed clause once, where it
was reported first. The constraints fail with the same fault, and if they do not, the hints are the same but for the
pattern, which is the last one in the list. -/
theorem repetitions_are_reported_once (book : Rulebook) (value : Option String) (clauses : List Clause) :
    (book.checkClauses value (ClauseSet.ofList clauses).clauses).isValid =
      (book.checkClauses value clauses).isValid ∧
    (book.checkClauses value (ClauseSet.ofList clauses).clauses).fault? =
      (book.checkClauses value clauses).fault? ∧
    (book.checkClauses value (ClauseSet.ofList clauses).clauses).isMisconfigured =
      (book.checkClauses value clauses).isMisconfigured ∧
    (book.checkClauses value (ClauseSet.ofList clauses).clauses).failed =
      (book.checkClauses value clauses).failed.eraseDups ∧
    (∀ fault, book.constraints (ClauseSet.ofList clauses).clauses = .error fault ↔
      book.constraints clauses = .error fault) ∧
    (∀ once all, book.constraints (ClauseSet.ofList clauses).clauses = .ok once →
      book.constraints clauses = .ok all →
      (Hints.ofConstraints once).control = (Hints.ofConstraints all).control ∧
      (Hints.ofConstraints once).required = (Hints.ofConstraints all).required ∧
      ∀ limit : Limit, (limit.hint (Hints.ofConstraints once)).map Binary.value =
        (limit.hint (Hints.ofConstraints all)).map Binary.value) := by
  rw [ClauseSet.clauses_ofList, checkClauses_eraseDups]
  refine ⟨Verdict.isValid_once, Verdict.fault?_once, ?_, Verdict.failed_once, ?_, ?_⟩
  · rw [Verdict.isMisconfigured, Verdict.fault?_once]
    rfl
  · intro fault
    exact constraints_eraseDups_eq_error_iff
  · intro once all describedOnce described
    have same : ∀ constraint, constraint ∈ once ↔ constraint ∈ all := by
      intro constraint
      rw [mem_constraints_iff describedOnce, mem_constraints_iff described]
      simp only [List.mem_eraseDups]
    exact ⟨Hints.control_of_same same, Hints.required_of_same same, fun limit => Limit.value_hint_of_same same⟩

/-- Two of these clauses are repeated. -/
def withRepetitions : List Clause :=
  [⟨"regex", some "a"⟩, ⟨"min", some "1"⟩, ⟨"regex", some "b"⟩, ⟨"regex", some "a"⟩, ⟨"min", some "1"⟩]

open scoped StandIn

/-- The last of these patterns is `a`, or `b` without repetitions, and the bound is the same. A value below the bound
that matches neither pattern fails every clause, and each is reported once. -/
theorem last_pattern_differs_without_repetitions :
    (standard.checkClauses (some "0") (ClauseSet.ofList withRepetitions).clauses).failed =
      [⟨"regex", some "a"⟩, ⟨"min", some "1"⟩, ⟨"regex", some "b"⟩] ∧
    ∃ once all, standard.constraints (ClauseSet.ofList withRepetitions).clauses = .ok once ∧
      standard.constraints withRepetitions = .ok all ∧
      (Hints.ofConstraints once).min.map Binary.value = (Hints.ofConstraints all).min.map Binary.value ∧
      (Hints.ofConstraints once).pattern = some "b" ∧ (Hints.ofConstraints all).pattern = some "a" := by
  obtain ⟨-, -, -, failed, -, hints⟩ := repetitions_are_reported_once standard (some "0") withRepetitions
  have allFail : (standard.checkClauses (some "0") withRepetitions).failed = withRepetitions := by decide +kernel
  obtain ⟨one, describedOnce, described⟩ : ∃ one : Double,
      standard.constraints (ClauseSet.ofList withRepetitions).clauses = .ok [.pattern "a", .min one, .pattern "b"] ∧
      standard.constraints withRepetitions = .ok [.pattern "a", .min one, .pattern "b", .pattern "a", .min one] :=
    ⟨⟨false, 4503599627370496, 1022, by decide, by decide, by decide⟩, by decide +kernel, by decide +kernel⟩
  obtain ⟨-, -, bounds⟩ := hints _ _ describedOnce described
  refine ⟨?_, _, _, describedOnce, described, bounds .min, rfl, rfl⟩
  rw [failed, allFail]
  decide

end Rulebook

end FormRules
