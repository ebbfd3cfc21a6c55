/-
This file shows that the hints for an input field say what its clauses say. Of several bounds of one kind the
strictest is kept, which asks for all that the others ask for; so whatever the clauses accept, the hints admit.
-/

import FormRules.Hints
import FormRules.Proofs.Misconfiguration
import FormRules.Proofs.Range
import FormRules.StandIn

namespace FormRules

/-- The four kinds of bounds. -/
inductive Limit where
  | min
  | max
  | minLength
  | maxLength
  deriving DecidableEq, Repr

namespace Limit

def name : Limit → String
  | .min => "min"
  | .max => "max"
  | .minLength => "minLength"
  | .maxLength => "maxLength"

def constraint : Limit → Double → Constraint
  | .min => .min
  | .max => .max
  | .minLength => .minLength
  | .maxLength => .maxLength

/-- The hint for bounds of a kind. -/
def hint (hints : Hints) : Limit → Option Double
  | .min => hints.min
  | .max => hints.max
  | .minLength => hints.minLength
  | .maxLength => hints.maxLength

/-- The bound in a constraint, if it is of this kind. -/
def bound? : Limit → Constraint → Option Double
  | .min, .min bound => some bound
  | .max, .max bound => some bound
  | .minLength, .minLength bound => some bound
  | .maxLength, .maxLength bound => some bound
  | _, _ => none

/-- Takes one more bound into account. -/
def tighten : Limit → Double → Option Double → Option Double
  | .min | .minLength => Hints.raise
  | .max | .maxLength => Hints.lower

/-- When a value passes a bound of a kind. -/
def Passes : Limit → Double → Option String → Prop
  | .min, bound, value => ∃ x, Value.number? value = some x ∧ bound ≤ x
  | .max, bound, value => ∃ x, Value.number? value = some x ∧ x ≤ bound
  | .minLength, bound, value => ∀ x, Value.lengthNumber? value = some x → bound ≤ x
  | .maxLength, bound, value => ∃ x, Value.lengthNumber? value = some x ∧ x ≤ bound

/-- The first bound asks for no more than the second one. -/
def AsksNoMore : Limit → Double → Double → Prop
  | .min, first, second | .minLength, first, second => first ≤ second
  | .max, first, second | .maxLength, first, second => second ≤ first

instance (first second : Double) : (limit : Limit) → Decidable (limit.AsksNoMore first second)
  | .min | .minLength => inferInstanceAs (Decidable (first ≤ second))
  | .max | .maxLength => inferInstanceAs (Decidable (second ≤ first))

instance (bound : Double) (value : Option String) : (limit : Limit) → Decidable (limit.Passes bound value)
  | .min => inferInstanceAs (Decidable (∃ x ∈ Value.number? value, bound ≤ x))
  | .max => inferInstanceAs (Decidable (∃ x ∈ Value.number? value, x ≤ bound))
  | .minLength => inferInstanceAs (Decidable (∀ x ∈ Value.lengthNumber? value, bound ≤ x))
  | .maxLength => inferInstanceAs (Decidable (∃ x ∈ Value.lengthNumber? value, x ≤ bound))

variable {limit : Limit} {constraint : Constraint} {bound first second : Double} {value : Option String}

theorem bound?_eq_some_iff : limit.bound? constraint = some bound ↔ constraint = limit.constraint bound := by
  cases limit <;> cases constraint <;> simp [bound?, Limit.constraint]

theorem holds_constraint_iff [Pattern.Engine] : (limit.constraint bound).Holds value ↔ limit.Passes bound value := by
  cases limit <;> rfl

/-- A hint changes with the constraints of its kind only. -/
theorem hint_add (hints : Hints) (limit : Limit) (constraint : Constraint) :
    limit.hint (hints.add constraint) =
      match limit.bound? constraint with
      | some bound => limit.tighten bound (limit.hint hints)
      | none => limit.hint hints := by
  cases constraint with
  | type kind => cases limit <;> cases numeric : kind.isNumeric <;> simp [Hints.add, numeric, hint, bound?]
  | _ => cases limit <;> rfl

theorem tighten_some (bound before : Double) :
    limit.tighten bound (some before) = some (if limit.AsksNoMore bound before then before else bound) := by
  cases limit <;> rfl

theorem asksNoMore_or (limit : Limit) (first second : Double) :
    limit.AsksNoMore first second ∨ limit.AsksNoMore second first := by
  cases limit <;> exact Int.le_total _ _

theorem AsksNoMore.refl (limit : Limit) (bound : Double) : limit.AsksNoMore bound bound :=
  (limit.asksNoMore_or bound bound).elim id id

theorem AsksNoMore.trans {third : Double} (weaker : limit.AsksNoMore first second)
    (weakest : limit.AsksNoMore second third) : limit.AsksNoMore first third := by
  cases limit with
  | min | minLength => exact Int.le_trans weaker weakest
  | max | maxLength => exact Int.le_trans weakest weaker

/-- What passes a bound passes those that ask for no more. -/
theorem passes_of_asksNoMore (weaker : limit.AsksNoMore first second) (passes : limit.Passes second value) :
    limit.Passes first value := by
  cases limit with
  | min =>
      obtain ⟨x, number, above⟩ := passes
      exact ⟨x, number, Int.le_trans weaker above⟩
  | max =>
      obtain ⟨x, number, below⟩ := passes
      exact ⟨x, number, Int.le_trans below weaker⟩
  | minLength => exact fun x number => Int.le_trans weaker (passes x number)
  | maxLength =>
      obtain ⟨x, number, below⟩ := passes
      exact ⟨x, number, Int.le_trans below weaker⟩

/-- A hint sums up bounds of a kind: it is one of them and asks for what all of them ask for. -/
structure SumsUp (limit : Limit) (bounds : List Double) (hint : Option Double) : Prop where
  none_iff : hint = none ↔ bounds = []
  mem : ∀ bound, hint = some bound → bound ∈ bounds
  passes_iff : ∀ value, (∀ bound, hint = some bound → limit.Passes bound value) ↔
    ∀ bound ∈ bounds, limit.Passes bound value

/-- One more bound is summed up with those before it. -/
theorem SumsUp.tighten {bounds : List Double} {hint : Option Double} (sum : limit.SumsUp bounds hint)
    (bound : Double) : limit.SumsUp (bounds ++ [bound]) (limit.tighten bound hint) := by
  cases hint with
  | none =>
      have empty : bounds = [] := sum.none_iff.1 rfl
      have first : limit.tighten bound none = some bound := by cases limit <;> rfl
      rw [empty, first]
      exact ⟨by simp, by simp, by simp⟩
  | some before =>
      have member := sum.mem before rfl
      have strictest : ∀ value, limit.Passes before value ↔
          ∀ bound ∈ bounds, limit.Passes bound value := by
        intro value
        rw [← sum.passes_iff value]
        simp
      rw [tighten_some]
      refine ⟨by simp, ?_, ?_⟩
      · intro kept same
        cases same
        split
        · exact List.mem_append_left _ member
        · exact List.mem_append_right _ (List.mem_singleton_self _)
      · intro value
        simp only [Option.some.injEq, forall_eq', List.forall_mem_append, List.forall_mem_singleton,
          ← strictest value]
        split
        · rename_i weaker
          exact ⟨fun passes => ⟨passes, passes_of_asksNoMore weaker passes⟩, fun both => both.1⟩
        · rename_i stricter
          have weaker := (asksNoMore_or limit bound before).resolve_left stricter
          exact ⟨fun passes => ⟨passes_of_asksNoMore weaker passes, passes⟩, fun both => both.2⟩

end Limit

namespace Hints

theorem ofConstraints_append (constraints : List Constraint) (last : Constraint) :
    ofConstraints (constraints ++ [last]) = (ofConstraints constraints).add last :=
  List.foldl_append

variable {constraints : List Constraint}

theorem sumsUp_ofConstraints (limit : Limit) (constraints : List Constraint) :
    limit.SumsUp (constraints.filterMap limit.bound?) (limit.hint (ofConstraints constraints)) := by
  induction constraints using List.reverseRecOn with
  | nil =>
      have nothing : limit.hint (ofConstraints []) = none := by cases limit <;> rfl
      rw [nothing]
      exact ⟨by simp, by simp, by simp⟩
  | append_singleton early last inductionHypothesis =>
      rw [ofConstraints_append, Limit.hint_add, List.filterMap_append]
      cases found : limit.bound? last with
      | none => simpa [found] using inductionHypothesis
      | some bound => simpa [found] using inductionHypothesis.tighten bound

theorem required_ofConstraints :
    (ofConstraints constraints).required = true ↔ Constraint.required ∈ constraints := by
  induction constraints using List.reverseRecOn with
  | nil => simp [ofConstraints]
  | append_singleton early last inductionHypothesis =>
      rw [ofConstraints_append, List.mem_append, List.mem_singleton, ← inductionHypothesis]
      cases last with
      | type kind => cases numeric : kind.isNumeric <;> simp [add, numeric]
      | _ => simp [add]

theorem control_ofConstraints :
    (ofConstraints constraints).control = .number ↔
      ∃ kind, Constraint.type kind ∈ constraints ∧ kind.isNumeric = true := by
  induction constraints using List.reverseRecOn with
  | nil => simp [ofConstraints]
  | append_singleton early last inductionHypothesis =>
      simp only [ofConstraints_append, List.mem_append, List.mem_singleton, or_and_right, exists_or,
        ← inductionHypothesis]
      cases last with
      | type kind => cases numeric : kind.isNumeric <;> simp [add, numeric]
      | _ => simp [add]

/-- The pattern in a constraint. -/
def pattern? : Constraint → Option String
  | .pattern text => some text
  | _ => none

theorem pattern_ofConstraints :
    (ofConstraints constraints).pattern = (constraints.filterMap pattern?).getLast? := by
  induction constraints using List.reverseRecOn with
  | nil => rfl
  | append_singleton early last inductionHypothesis =>
      rw [ofConstraints_append, List.filterMap_append]
      cases last with
      | type kind => cases numeric : kind.isNumeric <;> simp [add, numeric, pattern?, inductionHypothesis]
      | pattern text => simp [add, pattern?]
      | _ => simpa [add, pattern?] using inductionHypothesis

end Hints

/-- The clause has the name of a bound, and this number is what it expects. -/
def Clause.Bounds (clause : Clause) (name : String) (bound : Double) : Prop :=
  clause.name = name ∧
    ∃ text, Text.nonBlank? clause.expectation = some text ∧ Value.numberOfText? text = some bound

/-- What a clause asks for, told from its name and its expectation. -/
def Clause.AsksFor (clause : Clause) : Constraint → Prop
  | .required => clause.name = "required"
  | .type kind => clause.name = "type" ∧
      ∃ text, Text.nonBlank? clause.expectation = some text ∧ Kind.ofName? text = some kind
  | .min bound => clause.Bounds "min" bound
  | .max bound => clause.Bounds "max" bound
  | .minLength bound => clause.Bounds "minLength" bound
  | .maxLength bound => clause.Bounds "maxLength" bound
  | .pattern text => clause.name = "regex" ∧ Text.nonBlank? clause.expectation = some text

namespace Rule

theorem expectedNumber_eq_ok_iff {name : String} {expectation : Option String} {bound : Double} :
    expectedNumber name expectation = .ok bound ↔
      ∃ text, Text.nonBlank? expectation = some text ∧ Value.numberOfText? text = some bound := by
  simp only [expectedNumber, bind_eq_ok_iff, expected_eq_ok_iff]
  apply exists_congr
  intro text
  apply and_congr Iff.rfl
  cases Value.numberOfText? text <;> simp

/-- The expectation spells this number, with or without blanks around it. -/
def Expects (expectation : Option String) (bound : Double) : Prop :=
  ∃ text, Text.nonBlank? expectation = some text ∧ Value.numberOfText? text = some bound

/-- A rule with a bound describes the number that it expects. -/
theorem bounding_constraint?_eq_ok_iff {name : String} {describe : Double → Constraint}
    {passes : Double → Option String → Bool} {expectation : Option String} {bound : Double}
    (injective : Function.Injective describe) :
    (bounding name describe passes).constraint? expectation = .ok (some (describe bound)) ↔
      Expects expectation bound := by
  simp only [bounding, bind_eq_ok_iff, pure_eq_ok_iff, expectedNumber_eq_ok_iff, Option.some.injEq,
    injective.eq_iff, exists_eq_right]
  rfl

theorem named_eq_ok_iff {name : String} {kind : Kind} :
    Kind.named name = .ok kind ↔ Kind.ofName? name = some kind := by
  unfold Kind.named
  cases Kind.ofName? name <;> simp

theorem bounds_of_bounding {name : String} {describe : Double → Constraint}
    {passes : Double → Option String → Bool} {expectation : Option String} {constraint : Constraint}
    (described : (bounding name describe passes).constraint? expectation = .ok (some constraint)) :
    ∃ bound, constraint = describe bound ∧ Clause.Bounds ⟨name, expectation⟩ name bound := by
  simp only [bounding, bind_eq_ok_iff, pure_eq_ok_iff, expectedNumber_eq_ok_iff] at described
  obtain ⟨bound, read, same⟩ := described
  cases same
  exact ⟨bound, rfl, rfl, read⟩

/-- The constraint of a standard rule is what a clause of its name asks for. -/
theorem asksFor_of_constraint? [Pattern.Engine] {rule : Rule} (member : rule ∈ standard) {expectation : Option String}
    {constraint : Constraint} (described : rule.constraint? expectation = .ok (some constraint)) :
    Clause.AsksFor ⟨rule.name, expectation⟩ constraint := by
  simp only [standard, List.mem_cons, List.not_mem_nil, or_false] at member
  rcases member with rfl | rfl | rfl | rfl | rfl | rfl | rfl
  · cases described
    rfl
  · simp only [type, bind_eq_ok_iff, pure_eq_ok_iff, expected_eq_ok_iff, named_eq_ok_iff] at described
    obtain ⟨text, written, kind, meant, same⟩ := described
    cases same
    exact ⟨rfl, text, written, meant⟩
  · obtain ⟨bound, rfl, bounds⟩ := bounds_of_bounding described
    exact bounds
  · obtain ⟨bound, rfl, bounds⟩ := bounds_of_bounding described
    exact bounds
  · obtain ⟨bound, rfl, bounds⟩ := bounds_of_bounding described
    exact bounds
  · obtain ⟨bound, rfl, bounds⟩ := bounds_of_bounding described
    exact bounds
  · simp only [regex, bind_eq_ok_iff, pure_eq_ok_iff, expected_eq_ok_iff] at described
    obtain ⟨text, written, pattern, -, same⟩ := described
    cases same
    exact ⟨rfl, written⟩

end Rule

namespace Clause.AsksFor

variable {clause : Clause} {constraint : Constraint}

/-- The name of a clause tells the kind of its constraint. -/
theorem bounds_of_bound? {limit : Limit} {bound : Double} (asks : clause.AsksFor constraint)
    (found : limit.bound? constraint = some bound) : clause.Bounds limit.name bound := by
  rw [Limit.bound?_eq_some_iff.1 found] at asks
  cases limit <;> exact asks

theorem name_eq_limit_iff {limit : Limit} (asks : clause.AsksFor constraint) :
    clause.name = limit.name ↔ ∃ bound, limit.bound? constraint = some bound := by
  cases constraint <;> cases limit <;>
    simp_all [AsksFor, Bounds, Limit.name, Limit.bound?]

theorem name_eq_required_iff (asks : clause.AsksFor constraint) :
    clause.name = "required" ↔ constraint = .required := by
  cases constraint <;> simp_all [AsksFor, Bounds]

theorem name_eq_regex_iff (asks : clause.AsksFor constraint) :
    clause.name = "regex" ↔ ∃ text, constraint = .pattern text := by
  cases constraint <;> simp_all [AsksFor, Bounds]

/-- A clause names a numeric type if its constraint does. -/
theorem numericType_iff (asks : clause.AsksFor constraint) :
    (clause.name = "type" ∧ ∃ text kind, Text.nonBlank? clause.expectation = some text ∧
      Kind.ofName? text = some kind ∧ kind.isNumeric = true) ↔
    ∃ kind, constraint = .type kind ∧ kind.isNumeric = true := by
  cases constraint with
  | type kind =>
      obtain ⟨named, text, written, meant⟩ := asks
      simp [named, written, meant]
  | _ => simp_all [AsksFor, Bounds]

end Clause.AsksFor

/-- A value has what the hints ask for before it is submitted. -/
structure Hints.Admits [Pattern.Engine] (hints : Hints) (value : Option String) : Prop where
  control : hints.control = .number → ∃ x, Value.numberOfText? (Value.text value) = some x
  required : hints.required = true → Value.text value ≠ ""
  limit : ∀ (limit : Limit) bound, limit.hint hints = some bound → (limit.constraint bound).Holds value
  pattern : ∀ text, hints.pattern = some text → (Constraint.pattern text).Holds value

/-- The hints of constraints admit every value that satisfies them. -/
theorem Hints.admits_ofConstraints [Pattern.Engine] {constraints : List Constraint} {value : Option String}
    (holds : ∀ constraint ∈ constraints, constraint.Holds value) : (ofConstraints constraints).Admits value where
  control number := by
    obtain ⟨kind, member, numeric⟩ := control_ofConstraints.1 number
    exact Kind.exists_numberOfText?_of_accepts numeric (holds _ member)
  required asked := holds _ (required_ofConstraints.1 asked)
  limit := by
    intro limit
    simp only [Limit.holds_constraint_iff]
    rw [(sumsUp_ofConstraints limit constraints).passes_iff]
    intro bound member
    obtain ⟨constraint, inside, found⟩ := List.mem_filterMap.1 member
    rw [← Limit.holds_constraint_iff, ← Limit.bound?_eq_some_iff.1 found]
    exact holds constraint inside
  pattern text last := by
    rw [pattern_ofConstraints] at last
    obtain ⟨constraint, inside, found⟩ := List.mem_filterMap.1 (List.mem_of_getLast? last)
    cases constraint with
    | pattern other =>
        cases found
        exact holds _ inside
    | _ => cases found

namespace Rulebook

variable {book : Rulebook} {clauses : List Clause} {constraints : List Constraint}

theorem asksFor_of_constraint? [Pattern.Engine] (standard : book.rules ⊆ Rule.standard) {clause : Clause}
    {constraint : Constraint} (described : book.constraint? clause = .ok (some constraint)) :
    clause.AsksFor constraint := by
  unfold constraint? at described
  split at described
  · cases described
  · rename_i rule found
    have named : rule.name = clause.name := find?_name found
    have asks := Rule.asksFor_of_constraint? (standard (mem_of_find? found)) described
    rwa [named] at asks

/-- Each clause asks for the constraint at its position. -/
theorem forall₂_asksFor [Pattern.Engine] (standard : book.rules ⊆ Rule.standard)
    (described : book.constraints clauses = .ok constraints) :
    List.Forall₂ Clause.AsksFor clauses constraints :=
  (forall₂_of_constraints standard described).imp fun _ _ => asksFor_of_constraint? standard

/-- The patterns in constraints are the expectations of the clauses that have patterns. -/
theorem map_some_filterMap_pattern? (related : List.Forall₂ Clause.AsksFor clauses constraints) :
    (constraints.filterMap Hints.pattern?).map some =
      (clauses.filter fun clause => clause.name = "regex").map fun clause =>
        Text.nonBlank? clause.expectation := by
  induction related with
  | nil => rfl
  | @cons clause constraint _ _ asks _ inductionHypothesis =>
      by_cases named : clause.name = "regex"
      · obtain ⟨text, rfl⟩ := asks.name_eq_regex_iff.1 named
        rw [List.filter_cons_of_pos (by simpa using named), List.map_cons, ← inductionHypothesis, asks.2]
        rfl
      · have absent : Hints.pattern? constraint = none := by
          cases constraint with
          | pattern text => exact absurd asks.1 named
          | _ => rfl
        rw [List.filter_cons_of_neg (by simpa using named), List.filterMap_cons_none absent,
          inductionHypothesis]

section Summaries

variable [Pattern.Engine]

theorem apply_eq_ok_true_iff (standard : book.rules ⊆ Rule.standard) {clause : Clause}
    {constraint : Constraint} (described : book.constraint? clause = .ok (some constraint))
    (value : Option String) : book.apply value clause = .ok true ↔ constraint.Holds value := by
  rw [apply_eq_map_constraint? standard, described]
  simp [Except.map, Rule.allows]

/-- A value passes the clauses of a kind if and only if it satisfies the hint for the kind. -/
theorem passes_limit_iff (standard : book.rules ⊆ Rule.standard)
    (described : book.constraints clauses = .ok constraints) (limit : Limit) (value : Option String) :
    (∀ clause ∈ clauses, clause.name = limit.name → book.apply value clause = .ok true) ↔
      ∀ bound, limit.hint (Hints.ofConstraints constraints) = some bound →
        (limit.constraint bound).Holds value := by
  simp only [Limit.holds_constraint_iff]
  rw [(Hints.sumsUp_ofConstraints limit constraints).passes_iff]
  have each : ∀ clause constraint, book.constraint? clause = .ok (some constraint) →
      ((clause.name = limit.name → book.apply value clause = .ok true) ↔
        ∀ bound, limit.bound? constraint = some bound → limit.Passes bound value) := by
    intro clause constraint describedHere
    rw [(asksFor_of_constraint? standard describedHere).name_eq_limit_iff,
      apply_eq_ok_true_iff standard describedHere, forall_exists_index]
    apply forall_congr'
    intro bound
    apply imp_congr_right
    intro found
    rw [Limit.bound?_eq_some_iff.1 found, Limit.holds_constraint_iff]
  rw [forall_mem_iff_of_forall₂ (forall₂_of_constraints standard described) each]
  simp only [List.mem_filterMap, forall_exists_index, and_imp]
  constructor
  · intro holds bound constraint member found
    exact holds constraint member bound found
  · intro holds constraint member bound found
    exact holds bound constraint member found

/-- The hint for a kind is missing if no clause is of the kind, and otherwise it is the bound of such a
clause. -/
theorem hint_eq_none_iff (standard : book.rules ⊆ Rule.standard)
    (described : book.constraints clauses = .ok constraints) (limit : Limit) :
    limit.hint (Hints.ofConstraints constraints) = none ↔ ∀ clause ∈ clauses, clause.name ≠ limit.name := by
  rw [(Hints.sumsUp_ofConstraints limit constraints).none_iff, List.filterMap_eq_nil_iff,
    forall_mem_iff_of_forall₂ (forall₂_asksFor standard described)]
  intro clause constraint asks
  rw [ne_eq, asks.name_eq_limit_iff, Option.eq_none_iff_forall_ne_some, not_exists]

theorem exists_bounds_of_hint (standard : book.rules ⊆ Rule.standard)
    (described : book.constraints clauses = .ok constraints) {limit : Limit} {bound : Double}
    (hinted : limit.hint (Hints.ofConstraints constraints) = some bound) :
    ∃ clause ∈ clauses, clause.Bounds limit.name bound := by
  have member := (Hints.sumsUp_ofConstraints limit constraints).mem bound hinted
  obtain ⟨constraint, inside, found⟩ := List.mem_filterMap.1 member
  obtain ⟨clause, here, asks⟩ := exists_of_mem_forall₂ (forall₂_asksFor standard described) inside
  exact ⟨clause, here, asks.bounds_of_bound? found⟩

theorem hinted_pattern_eq (standard : book.rules ⊆ Rule.standard)
    (described : book.constraints clauses = .ok constraints) :
    (Hints.ofConstraints constraints).pattern =
      (clauses.filter fun clause => clause.name = "regex").getLast?.bind fun clause =>
        Text.nonBlank? clause.expectation := by
  have patterns := congrArg List.getLast?
    (map_some_filterMap_pattern? (forall₂_asksFor standard described))
  rw [List.getLast?_map, List.getLast?_map] at patterns
  rw [Hints.pattern_ofConstraints]
  cases last : (clauses.filter fun clause => clause.name = "regex").getLast? with
  | none =>
      rw [last, Option.map_none, Option.map_eq_none_iff] at patterns
      exact patterns
  | some clause =>
      rw [last, Option.map_some, Option.map_eq_some_iff] at patterns
      obtain ⟨text, found, written⟩ := patterns
      rw [found, written]
      rfl

/-- The hints for clauses are as strict as the clauses. A value passes all clauses of a kind of bound if and
only if it satisfies the hint for the kind, which is missing if there are none and otherwise the bound of one
of them; lengths of less than 2 ^ 53 characters are compared without being rounded. The other hints are read
off the clauses, the pattern off the last one that has a pattern. So the hints admit what the clauses
accept. -/
theorem hints_are_as_strict_as_clauses (book : Rulebook) (standard : book.rules ⊆ Rule.standard)
    (clauses : List Clause) (constraints : List Constraint)
    (described : book.constraints clauses = .ok constraints) :
    (∀ (limit : Limit) value,
      (∀ clause ∈ clauses, clause.name = limit.name → book.apply value clause = .ok true) ↔
        ∀ bound, limit.hint (Hints.ofConstraints constraints) = some bound →
          (limit.constraint bound).Holds value) ∧
    (∀ value, Value.length value < twoTo binary64.precision → ∀ bound : Double,
      ((Limit.constraint .minLength bound).Holds value ↔
        bound.units ≤ (Value.length value * twoTo binary64.lowest : Nat)) ∧
      ((Limit.constraint .maxLength bound).Holds value ↔
        (Value.length value * twoTo binary64.lowest : Nat) ≤ bound.units)) ∧
    (∀ limit : Limit, limit.hint (Hints.ofConstraints constraints) = none ↔
      ∀ clause ∈ clauses, clause.name ≠ limit.name) ∧
    (∀ (limit : Limit) bound, limit.hint (Hints.ofConstraints constraints) = some bound →
      ∃ clause ∈ clauses, clause.name = limit.name ∧ ∃ text,
        Text.nonBlank? clause.expectation = some text ∧ Value.numberOfText? text = some bound) ∧
    ((Hints.ofConstraints constraints).required = true ↔ ∃ clause ∈ clauses, clause.name = "required") ∧
    ((Hints.ofConstraints constraints).control = .number ↔
      ∃ clause ∈ clauses, clause.name = "type" ∧ ∃ text kind,
        Text.nonBlank? clause.expectation = some text ∧ Kind.ofName? text = some kind ∧
          kind.isNumeric = true) ∧
    (Hints.ofConstraints constraints).pattern =
      ((clauses.filter fun clause => clause.name = "regex").getLast?.bind fun clause =>
        Text.nonBlank? clause.expectation) ∧
    (∀ value, (book.checkClauses value clauses).isValid = true →
      (Hints.ofConstraints constraints).Admits value) := by
  have related := forall₂_asksFor standard described
  refine ⟨passes_limit_iff standard described, ?_, hint_eq_none_iff standard described, ?_, ?_, ?_,
    hinted_pattern_eq standard described, ?_⟩
  · intro value short bound
    exact ⟨Value.forall_lengthNumber?_iff short, Value.exists_lengthNumber?_iff short⟩
  · intro limit bound hinted
    exact exists_bounds_of_hint standard described hinted
  · rw [Hints.required_ofConstraints,
      exists_mem_iff_of_forall₂ related fun _ _ asks => asks.name_eq_required_iff]
    simp
  · rw [Hints.control_ofConstraints,
      exists_mem_iff_of_forall₂ related fun _ _ asks => asks.numericType_iff]
    constructor
    · intro numeric
      obtain ⟨kind, member, isNumeric⟩ := numeric
      exact ⟨_, member, kind, rfl, isNumeric⟩
    · intro numeric
      obtain ⟨_, member, kind, rfl, isNumeric⟩ := numeric
      exact ⟨kind, member, isNumeric⟩
  · intro value valid
    exact Hints.admits_ofConstraints ((isValid_checkClauses_iff standard described value).1 valid)

end Summaries

open scoped StandIn

/-- Of three lower bounds the one in the middle is hinted, which is the strictest; of two patterns it is the
last. -/
theorem hints_of_repeated_clauses :
    Rulebook.standard.rules ⊆ Rule.standard ∧
    ∃ constraints bound,
      standard.constraints [⟨"min", some "1"⟩, ⟨"regex", some "a+"⟩, ⟨"min", some " 30e-1"⟩,
        ⟨"min", some "2"⟩, ⟨"regex", some "[0-9]"⟩] = .ok constraints ∧
      (Hints.ofConstraints constraints).min = some bound ∧ Value.numberOfText? "3" = some bound ∧
      (∀ value, (∀ clause ∈ [⟨"min", some "1"⟩, ⟨"regex", some "a+"⟩, ⟨"min", some " 30e-1"⟩,
          ⟨"min", some "2"⟩, ⟨"regex", some "[0-9]"⟩], clause.name = Limit.min.name →
            standard.apply value clause = .ok true) ↔
        ∀ strictest, Limit.min.hint (Hints.ofConstraints constraints) = some strictest →
          (Limit.min.constraint strictest).Holds value) ∧
      (Hints.ofConstraints constraints).pattern = some "[0-9]" := by
  have known : standard.rules ⊆ Rule.standard := List.Subset.refl _
  have described : standard.constraints [⟨"min", some "1"⟩, ⟨"regex", some "a+"⟩, ⟨"min", some " 30e-1"⟩,
      ⟨"min", some "2"⟩, ⟨"regex", some "[0-9]"⟩] =
      .ok [.min ⟨false, twoTo 52, 1022, by decide, by decide, by decide⟩, .pattern "a+",
        .min ⟨false, 3 * twoTo 51, 1023, by decide, by decide, by decide⟩,
        .min ⟨false, twoTo 52, 1023, by decide, by decide, by decide⟩, .pattern "[0-9]"] := by
    decide +kernel
  obtain ⟨passes, -, -, -, -, -, pattern, -⟩ := hints_are_as_strict_as_clauses standard known _ _ described
  exact ⟨known, _, _, described, rfl, by decide +kernel, passes .min, pattern.trans (by decide)⟩

end Rulebook

end FormRules
