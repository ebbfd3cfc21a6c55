/-
This file says what a book knows after rules were entered into it, some of which it may have turned away. Each
name has the first rule of that name, so books that were given the same rules of different names, in whatever
order, give the same answers.
-/

import FormRules.Proofs.ByteOrder
import FormRules.Proofs.Grammar
import FormRules.Proofs.Growth
import FormRules.Rule.Extra
import FormRules.StandIn
import Mathlib.Data.List.Sort

namespace FormRules

/-- Two books that cannot be told apart: they have the same rules under the same names and read, check and
describe alike. -/
structure Rulebook.Alike (first second : Rulebook) : Prop where
  find? : ∀ name, first.find? name = second.find? name
  names : first.names = second.names
  size : first.size = second.size
  readSegment : ∀ segment, Definition.readSegment first segment = Definition.readSegment second segment
  read : ∀ definition, Definition.read first definition = Definition.read second definition
  check : ∀ value definition, first.check value definition = second.check value definition
  checkClauses : ∀ value clauses, first.checkClauses value clauses = second.checkClauses value clauses
  constraints : ∀ clauses, first.constraints clauses = second.constraints clauses

/-- Reading looks at a book through its names only. -/
theorem Definition.readSegment_eq_of_find?_eq {first second : Rulebook}
    (same : ∀ name, first.find? name = second.find? name) (segment : List Char) :
    readSegment first segment = readSegment second segment := by
  simp only [readSegment, same]

theorem Definition.read_eq_of_find?_eq {first second : Rulebook}
    (same : ∀ name, first.find? name = second.find? name) (definition : String) :
    read first definition = read second definition := by
  have segments : readSegment first = readSegment second := by
    funext segment
    exact readSegment_eq_of_find?_eq same segment
  rw [read_eq, read_eq, segments]

namespace Rulebook

variable {book first second : Rulebook} {name : String} {rule entered : Rule}

theorem find?_eq_some_iff : book.find? name = some rule ↔ rule ∈ book.rules ∧ rule.name = name := by
  constructor
  · intro found
    exact ⟨List.mem_of_find?_eq_some found, find?_name found⟩
  · rintro ⟨member, rfl⟩
    cases found : book.find? rule.name with
    | none => exact absurd (List.mem_map_of_mem member) (find?_eq_none.1 found)
    | some other =>
        have otherMember : other ∈ book.rules := List.mem_of_find?_eq_some found
        have same : other = rule :=
          List.inj_on_of_nodup_map book.distinct otherMember member (find?_name found)
        rw [same]

theorem mem_names : name ∈ book.names ↔ name ∈ book.rules.map Rule.name :=
  List.mem_mergeSort

theorem mem_names_iff_find? : name ∈ book.names ↔ ∃ rule, book.find? name = some rule := by
  simp only [mem_names, List.mem_map, find?_eq_some_iff]

theorem length_names (book : Rulebook) : book.names.length = book.size := by
  rw [names, (List.mergeSort_perm _ _).length_eq, List.length_map]
  rfl

theorem names_increasing (book : Rulebook) : book.names.Pairwise fun before after => before < after := by
  have sorted : book.names.Pairwise fun before after => decide (before ≤ after) = true := by
    apply List.pairwise_mergeSort
    · intro one two three low high
      exact decide_eq_true (String.le_trans (of_decide_eq_true low) (of_decide_eq_true high))
    · intro one two
      simpa using String.le_total one two
  have different : book.names.Nodup := (List.mergeSort_perm _ _).nodup_iff.2 book.distinct
  apply sorted.imp₂ _ different
  intro before after low apart
  exact Std.lt_of_le_of_ne (of_decide_eq_true low) apart

/-- A rule is turned away because its name is taken, and for no other reason. -/
theorem register_eq_error_iff {error : DuplicateRule} :
    book.register rule = .error error ↔ rule.name ∈ book.names ∧ error = ⟨rule.name⟩ := by
  rw [mem_names]
  unfold register
  split
  · rename_i taken
    simp [taken, eq_comm]
  · rename_i free
    simp [free]

theorem register_eq_ok_iff {grown : Rulebook} :
    book.register rule = .ok grown ↔ rule.name ∉ book.names ∧ grown.rules = book.rules ++ [rule] := by
  rw [mem_names]
  unfold register
  split
  · rename_i taken
    simp [taken]
  · rename_i free
    cases grown
    simp [free, eq_comm]

theorem attempt_of_register_eq_error {error : DuplicateRule} (refused : book.register rule = .error error) :
    book.attempt rule = book := by
  rw [attempt, refused]

theorem attempt_of_register_eq_ok {grown : Rulebook} (entered : book.register rule = .ok grown) :
    book.attempt rule = grown := by
  rw [attempt, entered]

/-- Entering a rule adds its name and nothing else. -/
theorem names_and_rules_of_register {grown : Rulebook} (entered : book.register rule = .ok grown) :
    grown.size = book.size + 1 ∧
    (∀ name, name ∈ grown.names ↔ name ∈ book.names ∨ name = rule.name) ∧
    (∀ name, grown.find? name = if name = rule.name then some rule else book.find? name) := by
  obtain ⟨free, rules⟩ := register_eq_ok_iff.1 entered
  refine ⟨?_, ?_, ?_⟩
  · rw [size, rules, List.length_append]
    rfl
  · intro name
    rw [mem_names, mem_names, rules, List.map_append, List.mem_append, List.map_singleton,
      List.mem_singleton]
  · intro name
    have found : grown.find? name = (book.find? name).or ([rule].find? fun rule => rule.name == name) := by
      rw [← attempt_of_register_eq_ok entered, find?_attempt]
    rw [found]
    by_cases same : name = rule.name
    · subst same
      have unknown : book.find? rule.name = none := find?_eq_none.2 (mem_names.not.1 free)
      simp [unknown]
    · simp [same, Ne.symm same]

/-- After any attempts a name has the first rule of that name, if there is one. -/
theorem find?_attemptAll_eq_first (start : Rulebook) (history : List Rule) (name : String) :
    (start.attemptAll history).find? name =
      (start.rules ++ history).find? fun rule => rule.name == name := by
  rw [find?_attemptAll, List.find?_append]
  rfl

theorem apply_eq_of_find?_eq (same : ∀ name, first.find? name = second.find? name) (value : Option String)
    (clause : Clause) : first.apply value clause = second.apply value clause := by
  simp only [apply, same]

theorem checkClauses_eq_of_find?_eq (same : ∀ name, first.find? name = second.find? name)
    (value : Option String) (clauses : List Clause) :
    first.checkClauses value clauses = second.checkClauses value clauses := by
  apply checkClauses_congr
  intro clause member
  exact apply_eq_of_find?_eq same value clause

theorem check_eq_of_find?_eq (same : ∀ name, first.find? name = second.find? name)
    (value definition : Option String) : first.check value definition = second.check value definition := by
  cases definition with
  | none => exact congrArg Except.ok (checkClauses_eq_of_find?_eq same value [])
  | some definition =>
      simp only [check, Definition.read_eq_of_find?_eq same, checkClauses_eq_of_find?_eq same]

theorem constraints_eq_of_find?_eq (same : ∀ name, first.find? name = second.find? name)
    (clauses : List Clause) : first.constraints clauses = second.constraints clauses := by
  induction clauses with
  | nil => rfl
  | cons clause rest inductionHypothesis =>
      have described : first.constraint? clause = second.constraint? clause := by
        simp only [constraint?, same]
      rw [constraints, constraints, described, inductionHypothesis]

theorem names_eq_of_find?_eq (same : ∀ name, first.find? name = second.find? name) :
    first.names = second.names := by
  apply (names_increasing first).eq_of_mem_iff (names_increasing second)
  intro name
  rw [mem_names_iff_find?, mem_names_iff_find?, same]

/-- All that can be seen of a book is which rule has which name. -/
theorem alike_of_find?_eq (same : ∀ name, first.find? name = second.find? name) : first.Alike second where
  find? := same
  names := names_eq_of_find?_eq same
  size := by rw [← length_names, ← length_names, names_eq_of_find?_eq same]
  readSegment := Definition.readSegment_eq_of_find?_eq same
  read := Definition.read_eq_of_find?_eq same
  check := check_eq_of_find?_eq same
  checkClauses := checkClauses_eq_of_find?_eq same
  constraints := constraints_eq_of_find?_eq same

/-- Among rules of different names, the one of a name is found in any order. -/
theorem find?_eq_of_perm {rules others : List Rule} (permuted : rules.Perm others)
    (distinct : (rules.map Rule.name).Nodup) (name : String) :
    (rules.find? fun rule => rule.name == name) = others.find? fun rule => rule.name == name := by
  have otherDistinct : (others.map Rule.name).Nodup := (permuted.map Rule.name).nodup_iff.1 distinct
  ext rule
  -- Either list is a book of its own, since the names are distinct.
  have here := @find?_eq_some_iff ⟨rules, distinct⟩ name rule
  have there := @find?_eq_some_iff ⟨others, otherDistinct⟩ name rule
  exact here.trans ((and_congr_left fun _ => permuted.mem_iff).trans there.symm)

theorem alike_of_perm (start : Rulebook) {history others : List Rule} (permuted : history.Perm others)
    (distinct : (history.map Rule.name).Nodup) :
    (start.attemptAll history).Alike (start.attemptAll others) := by
  apply alike_of_find?_eq
  intro name
  rw [find?_attemptAll, find?_attemptAll, find?_eq_of_perm permuted distinct]

/-- A book gives each name to the first rule that wants it. After any history of attempts, a rule is turned away
if and only if its name is taken, which changes nothing; a rule that is entered adds its name alone. The names
are in the order of their bytes, each of them once, and each is the name of the rule that is found under it,
which is the first one of that name. Rules of different names may come in any order. -/
theorem names_belong_to_first_rules (start : Rulebook) (history : List Rule) :
    (∀ rule error, (start.attemptAll history).register rule = .error error ↔
      rule.name ∈ (start.attemptAll history).names ∧ error = ⟨rule.name⟩) ∧
    (∀ rule error, (start.attemptAll history).register rule = .error error →
      ((start.attemptAll history).attempt rule).size = (start.attemptAll history).size ∧
      ((start.attemptAll history).attempt rule).names = (start.attemptAll history).names ∧
      ∀ name, ((start.attemptAll history).attempt rule).find? name =
        (start.attemptAll history).find? name) ∧
    (∀ rule grown, (start.attemptAll history).register rule = .ok grown →
      (start.attemptAll history).attempt rule = grown ∧
      grown.size = (start.attemptAll history).size + 1 ∧
      (∀ name, name ∈ grown.names ↔ name ∈ (start.attemptAll history).names ∨ name = rule.name) ∧
      ∀ name, grown.find? name =
        if name = rule.name then some rule else (start.attemptAll history).find? name) ∧
    ((start.attemptAll history).names.Pairwise fun before after => Text.bytes before < Text.bytes after) ∧
    (start.attemptAll history).names.length = (start.attemptAll history).size ∧
    (∀ name, name ∈ (start.attemptAll history).names ↔
      ∃ rule, (start.attemptAll history).find? name = some rule) ∧
    (∀ name rule, (start.attemptAll history).find? name = some rule → rule.name = name) ∧
    (∀ name, (start.attemptAll history).find? name =
      (start.rules ++ history).find? fun rule => rule.name == name) ∧
    (∀ others, history.Perm others → (history.map Rule.name).Nodup →
      (start.attemptAll history).Alike (start.attemptAll others)) := by
  refine ⟨?_, ?_, ?_, ?_, length_names _, ?_, ?_, find?_attemptAll_eq_first start history, ?_⟩
  · intro rule error
    exact register_eq_error_iff
  · intro rule error refused
    rw [attempt_of_register_eq_error refused]
    exact ⟨rfl, rfl, fun name => rfl⟩
  · intro rule grown entered
    exact ⟨attempt_of_register_eq_ok entered, names_and_rules_of_register entered⟩
  · exact (names_increasing _).imp Text.bytes_lt_iff.2
  · intro name
    exact mem_names_iff_find?
  · intro name rule found
    exact find?_name found
  · intro others permuted distinct
    exact alike_of_perm start permuted distinct

open scoped StandIn

/-- A second rule named `oneOf` is turned away, a rule of a new name is entered, and it makes no difference which
of two rules is entered first. -/
theorem names_of_extra_rules :
    ((standard.attemptAll [Rule.oneOf]).register { Rule.required with name := "oneOf" } = .error ⟨"oneOf"⟩ ∧
      ((standard.attemptAll [Rule.oneOf]).attempt { Rule.required with name := "oneOf" }).size =
        (standard.attemptAll [Rule.oneOf]).size) ∧
    (∃ grown, (standard.attemptAll [Rule.oneOf]).register Rule.uppercase = .ok grown ∧ grown.size = 9) ∧
    ([Rule.oneOf, Rule.uppercase].Perm [Rule.uppercase, Rule.oneOf] ∧
      ([Rule.oneOf, Rule.uppercase].map Rule.name).Nodup ∧
      (standard.attemptAll [Rule.oneOf, Rule.uppercase]).Alike
        (standard.attemptAll [Rule.uppercase, Rule.oneOf])) := by
  obtain ⟨turnedAway, unchanged, grows, -, -, named, -⟩ :=
    names_belong_to_first_rules standard [Rule.oneOf]
  obtain ⟨-, -, -, -, -, -, -, -, reordered⟩ :=
    names_belong_to_first_rules standard [Rule.oneOf, Rule.uppercase]
  have taken : "oneOf" ∈ (standard.attemptAll [Rule.oneOf]).names := (named "oneOf").2 ⟨_, rfl⟩
  have refused : (standard.attemptAll [Rule.oneOf]).register { Rule.required with name := "oneOf" } =
      .error ⟨"oneOf"⟩ := (turnedAway _ _).2 ⟨taken, rfl⟩
  obtain ⟨grown, entered⟩ :
      ∃ grown, (standard.attemptAll [Rule.oneOf]).register Rule.uppercase = .ok grown := ⟨_, rfl⟩
  have permuted : [Rule.oneOf, Rule.uppercase].Perm [Rule.uppercase, Rule.oneOf] := .swap _ _ _
  have distinct : ([Rule.oneOf, Rule.uppercase].map Rule.name).Nodup := by decide
  refine ⟨⟨refused, (unchanged _ _ refused).1⟩, ⟨grown, entered, ?_⟩, permuted, distinct, ?_⟩
  · exact (grows _ grown entered).2.1
  · exact reordered _ permuted distinct

end Rulebook

end FormRules
