/-
This file shows that the bounds in a printed line of hints can be fed back as rules. A bound is printed without an
exponent and read back as the same number, so that behind the name of its kind it is a definition with that bound.
-/

import FormRules.Command
import FormRules.Proofs.NumberAgreement
import FormRules.Proofs.Registration
import FormRules.Proofs.Repetition
import FormRules.Proofs.WrittenNumber
import FormRules.Proofs.Writing
import FormRules.StandIn

namespace FormRules

namespace Json

variable {negative : Bool} {text : List Char} {digits : List Nat} {amount : Decimal}

theorem spellsSign_minusSign (negative : Bool) : Numeral.SpellsSign (minusSign negative) negative := by
  cases negative with
  | true => exact .minus
  | false => exact .none

theorem SpellsFraction.numeral (spelled : SpellsFraction text digits) : Numeral.SpellsFraction text digits := by
  cases spelled with
  | none => exact .none
  | point spelled _ => exact .point spelled

namespace SpellsPlain

/-- A number without an exponent is a numeral, whatever sizes exponents have. -/
theorem numeral (size : List Nat → Nat) (spelled : SpellsPlain negative text amount) :
    Numeral.SpellsWith size text ⟨negative, amount.digits, amount.exponent⟩ := by
  obtain @⟨wholeText, fractionText, whole, fraction, before, after⟩ := spelled
  have parts : Numeral.SpellsWith size (minusSign negative ++ (wholeText ++ (fractionText ++ [])))
      ⟨negative, Text.numberOfDigits 10 (whole ++ fraction), 0 - fraction.length⟩ :=
    .parts (spellsSign_minusSign negative) before.1 after.numeral (by simp [before.2.1]) .none
  rwa [List.append_nil, zero_sub] at parts

theorem read?_eq {format : Format} (spelled : SpellsPlain negative text amount) :
    Binary.read? format text = Binary.ofNumeral? format ⟨negative, amount.digits, amount.exponent⟩ := by
  rw [Binary.read?, Numeral.read?_eq_some_iff.2 (spelled.numeral Numeral.exponentSize), Option.bind_some]

theorem range_or_mark (spelled : SpellsPlain negative text amount) :
    ∀ c ∈ text, ('0' ≤ c ∧ c ≤ '9') ∨ c = '-' ∨ c = '.' := by
  obtain ⟨before, after⟩ := spelled
  intro c member
  rcases List.mem_append.1 member with sign | member
  · cases negative with
    | true => exact .inr (.inl (List.mem_singleton.1 sign))
    | false => cases sign
  · rcases List.mem_append.1 member with whole | fraction
    · exact .inl (Numeral.range_of_spellsDigits before.1 c whole)
    · cases after with
      | none => cases fraction
      | point spelled _ =>
          rcases List.mem_cons.1 fraction with point | fraction
          · exact .inr (.inr point)
          · exact .inl (Numeral.range_of_spellsDigits spelled c fraction)

theorem solid (spelled : SpellsPlain negative text amount) :
    ∀ c ∈ text, Text.isBlank c = false ∧ c ≠ ';' := by
  intro c member
  rcases spelled.range_or_mark c member with range | rfl | rfl
  · refine ⟨Text.not_isBlank_of_range range, ?_⟩
    rintro rfl
    exact absurd range (by decide)
  · decide
  · decide

end SpellsPlain

end Json

section Reports

/-- A number in a report is its shortest decimal with the zeros of a whole number and without an exponent. -/
theorem spellsPlain_report (x : Double) :
    Json.SpellsPlain x.negative (Number.Style.report.write x).toList (Json.padded 0 (x.shortest .up)) := by
  have text : (Number.Style.report.write x).toList = Json.minusSign x.negative ++
      Number.plain "" (x.shortest .up) := Json.toList_write Number.Style.report x
  rw [text]
  exact Json.spellsPlain_plain (Json.tidy_shortest .up x) .none

/-- A number in a report is read as the number for which it was written. -/
theorem Value.numberOfText?_report (x : Double) : numberOfText? (Number.Style.report.write x) = some x := by
  have spelled := spellsPlain_report x
  rw [numberOfText?, Text.trim_of_solid fun c member => (spelled.solid c member).1, spelled.read?_eq]
  exact Binary.ofNumeral?_of_value_eq .up (by decide) (Json.value_padded 0 _)

theorem Value.ne_empty_of_numberOfText? {text : String} {x : Double} (read : numberOfText? text = some x) :
    text ≠ "" := by
  rintro rfl
  exact Binary.not_read?_nil x read

end Reports

namespace Limit

variable {limit : Limit} {bound : Double}

theorem name_rule (limit : Limit) : limit.rule.name = limit.name := by
  cases limit <;> rfl

theorem rule_mem_standard [Pattern.Engine] (limit : Limit) : limit.rule ∈ Rule.standard := by
  cases limit <;> simp [Rule.standard]

theorem plainName (limit : Limit) : Clause.PlainName limit.name := by
  cases limit <;> decide

/-- Only one standard rule describes constraints of a kind. -/
theorem rule_of_constraint? [Pattern.Engine] {rule : Rule} (member : rule ∈ Rule.standard) {expectation : Option String}
    (described : rule.constraint? expectation = .ok (some (limit.constraint bound))) : rule = limit.rule := by
  have asks := Rule.asksFor_of_constraint? member described
  have named : rule.name = limit.name := (asks.bounds_of_bound? (bound?_eq_some_iff.2 rfl)).1
  exact List.inj_on_of_nodup_map Rulebook.standard.distinct member limit.rule_mem_standard
    (named.trans limit.name_rule.symm)

end Limit

namespace Rulebook

variable {book : Rulebook} {limit : Limit} {bound : Double} {clauses : List Clause} {constraints : List Constraint}
  {text : String}

theorem find?_of_standard_subset [Pattern.Engine] (standard : Rule.standard ⊆ book.rules) (limit : Limit) :
    book.find? limit.name = some limit.rule :=
  find?_eq_some_iff.2 ⟨standard limit.rule_mem_standard, limit.name_rule⟩

/-- A book of known rules in which clauses have a hint for a kind of bound has the standard rule for the kind. -/
theorem find?_of_hint [Pattern.Engine] (known : book.rules ⊆ Rule.standard ++ Rule.extra)
    (described : book.constraints clauses = .ok constraints)
    (hinted : limit.hint (Hints.ofConstraints constraints) = some bound) : book.find? limit.name = some limit.rule := by
  obtain ⟨clause, -, here⟩ := (mem_constraints_iff described _).1 (Limit.mem_of_hint hinted)
  unfold constraint? at here
  split at here
  · cases here
  · rename_i rule found
    rcases List.mem_append.1 (known (mem_of_find? found)) with standard | extra
    · have same := Limit.rule_of_constraint? standard here
      have named : clause.name = limit.name := by rw [← find?_name found, same, limit.name_rule]
      rw [← named, found, same]
    · rw [Rule.constraint?_of_mem_extra extra] at here
      cases here

theorem constraints_singleton (owned : book.find? limit.name = some limit.rule)
    (read : Value.numberOfText? text = some bound) :
    book.constraints [⟨limit.name, some text⟩] = .ok [limit.constraint bound] := by
  have described := limit.constraint?_eq_ok_iff.2 (Rule.expects_of_numberOfText? read)
  simp only [constraints, constraint?, owned, described]
  rfl

/-- The name of a kind of bound and a number behind a colon are a definition with one clause. -/
theorem exists_read_of_solid (owned : book.find? limit.name = some limit.rule) (given : text ≠ "")
    (solid : ∀ c ∈ text.toList, Text.isBlank c = false ∧ c ≠ ';') :
    ∃ set, Definition.read book (limit.name ++ ":" ++ text) = .ok set ∧ set.clauses = [⟨limit.name, some text⟩] := by
  have admitted : book.Admits ⟨limit.name, some text⟩ := ⟨_, owned, by simp [given]⟩
  have wellFormed : ∀ clause ∈ [(⟨limit.name, some text⟩ : Clause)], clause.Spellable ∧ book.Admits clause :=
    List.forall_mem_singleton.2 ⟨Clause.spellable_of_solid limit.plainName solid, admitted⟩
  have read := Definition.read_written "" "" Text.allBlank_nil Text.allBlank_nil wellFormed
  have written : (";" ++ "").intercalate ([(⟨limit.name, some text⟩ : Clause)].map (Clause.written "")) =
      limit.name ++ ":" ++ text := by
    simp [Clause.written]
  rw [written] at read
  exact ⟨_, read, ClauseSet.clauses_ofList_of_nodup (List.nodup_singleton _)⟩

end Rulebook

namespace Command

/-- The items of a line of hints. -/
def hintItems (hints : Hints) : List String :=
  ["input=" ++ hints.control.name, "required=" ++ if hints.required then "true" else "false"]
    ++ [Limit.min, .max, .minLength, .maxLength].map
      (fun limit => limit.name ++ "=" ++ describeBound (limit.hint hints))
    ++ hints.pattern.toList.map ("pattern=" ++ ·)

/-- A line of hints has a space between its items. -/
theorem describeHints_eq (hints : Hints) : describeHints hints = " ".intercalate (hintItems hints) := by
  have required : " required=" = " " ++ "required=" := by decide
  have pattern : " pattern=" = " " ++ "pattern=" := by decide
  have labels : " min=" = " " ++ ("min" ++ "=") ∧ " max=" = " " ++ ("max" ++ "=") ∧
      " minLength=" = " " ++ ("minLength" ++ "=") ∧ " maxLength=" = " " ++ ("maxLength" ++ "=") := by
    decide
  obtain ⟨min, max, minLength, maxLength⟩ := labels
  unfold describeHints
  rw [hintItems, required, min, max, minLength, maxLength]
  cases hints.pattern with
  | none =>
      simp only [Option.toList_none, List.map_cons, List.map_nil, List.cons_append, List.nil_append,
        String.intercalate_cons_cons, String.intercalate_singleton, Limit.name, Limit.hint, String.append_assoc,
        String.append_empty]
  | some text =>
      simp only [Option.toList_some, List.map_cons, List.map_nil, List.cons_append, List.nil_append,
        String.intercalate_cons_cons, String.intercalate_singleton, Limit.name, Limit.hint, String.append_assoc,
        pattern]

/-- A hint for a bound is an item of its own. -/
theorem exists_describeHints_eq (hints : Hints) (limit : Limit) :
    ∃ before after, describeHints hints =
      " ".intercalate (before ++ (limit.name ++ "=" ++ describeBound (limit.hint hints)) :: after) := by
  have item : limit.name ++ "=" ++ describeBound (limit.hint hints) ∈ hintItems hints := by
    cases limit <;> simp [hintItems]
  obtain ⟨before, after, split⟩ := List.append_of_mem item
  exact ⟨before, after, split ▸ describeHints_eq hints⟩

/-- A bound is an item of the line of hints. It is printed as a minus sign if it is negative, digits and perhaps a point
among them, which have the value of its shortest decimal, and it is read back as it was, the sign of zero included. So
what is printed for a hint is, behind the name of its kind, a definition in the same book, and its only constraint is the
bound. The book has all standard rules, whatever its other rules are, or it has known rules only. -/
theorem printed_bounds_are_rules [Pattern.Engine] (x : Double) :
    (∀ (hints : Hints) (limit : Limit), limit.hint hints = some x → ∃ before after, describeHints hints =
      " ".intercalate (before ++ (limit.name ++ "=" ++ describeBound (some x)) :: after)) ∧
    (∃ amount, Json.SpellsPlain x.negative (describeBound (some x)).toList amount ∧
      amount.value = (x.shortest .up).value) ∧
    Value.numberOfText? (describeBound (some x)) = some x ∧
    ∀ book : Rulebook, Rule.standard ⊆ book.rules ∨ book.rules ⊆ Rule.standard ++ Rule.extra →
      ∀ clauses constraints, book.constraints clauses = .ok constraints →
      ∀ limit : Limit, limit.hint (Hints.ofConstraints constraints) = some x →
        ∃ set, Definition.read book (limit.name ++ ":" ++ describeBound (some x)) = .ok set ∧
          set.clauses = [⟨limit.name, some (describeBound (some x))⟩] ∧
          book.constraints [⟨limit.name, some (describeBound (some x))⟩] = .ok [limit.constraint x] := by
  have spelled := spellsPlain_report x
  have read := Value.numberOfText?_report x
  refine ⟨?_, ⟨_, spelled, Json.value_padded 0 _⟩, read, ?_⟩
  · intro hints limit hinted
    rw [← hinted]
    exact exists_describeHints_eq hints limit
  · intro book stocked clauses constraints described limit hinted
    have owned : book.find? limit.name = some limit.rule := by
      rcases stocked with standard | known
      · exact Rulebook.find?_of_standard_subset standard limit
      · exact Rulebook.find?_of_hint known described hinted
    obtain ⟨set, made, only⟩ :=
      Rulebook.exists_read_of_solid owned (Value.ne_empty_of_numberOfText? read) spelled.solid
    exact ⟨set, made, only, Rulebook.constraints_singleton owned read⟩

open scoped StandIn

/-- A bound that would be written with an exponent in JSON is printed with zeros, and minus zero with its sign. -/
theorem printed_bounds_of_small_numbers :
    ∃ bound : Double,
      Rulebook.standard.constraints [⟨"min", some "-1e-400"⟩, ⟨"min", some " 25E-8"⟩, ⟨"max", some "-1e-400"⟩] =
        .ok [.min (Binary.zero true), .min bound, .max (Binary.zero true)] ∧
      describeBound (some bound) = "0.00000025" ∧ describeBound (some (Binary.zero true)) = "-0" ∧
      (∃ set, Definition.read .standard "min:0.00000025" = .ok set ∧
        set.clauses = [⟨"min", some "0.00000025"⟩]) ∧
      Rulebook.standard.constraints [⟨"min", some "0.00000025"⟩] = .ok [.min bound] ∧
      Rulebook.standard.constraints [⟨"max", some "-0"⟩] = .ok [.max (Binary.zero true)] := by
  have standard : Rule.standard ⊆ Rulebook.standard.rules := List.Subset.refl _
  obtain ⟨bound, described, hinted, small, zero⟩ : ∃ bound : Double,
      Rulebook.standard.constraints [⟨"min", some "-1e-400"⟩, ⟨"min", some " 25E-8"⟩, ⟨"max", some "-1e-400"⟩] =
        .ok [.min (Binary.zero true), .min bound, .max (Binary.zero true)] ∧
      Limit.min.hint (Hints.ofConstraints [.min (Binary.zero true), .min bound, .max (Binary.zero true)]) =
        some bound ∧
      describeBound (some bound) = "0.00000025" ∧ describeBound (some (Binary.zero true)) = "-0" :=
    ⟨⟨false, 4722366482869645, 1000, by decide, by decide, by decide⟩, by decide +kernel, by decide +kernel,
      by decide +kernel, by decide +kernel⟩
  obtain ⟨-, -, -, lowest⟩ := printed_bounds_are_rules bound
  obtain ⟨-, -, -, highest⟩ := printed_bounds_are_rules (Binary.zero true)
  obtain ⟨set, read, clauses, least⟩ := lowest _ (.inl standard) _ _ described .min hinted
  obtain ⟨-, -, -, most⟩ := highest _ (.inl standard) _ _ described .max rfl
  rw [small] at read clauses least
  rw [zero] at most
  have text : Limit.min.name ++ ":" ++ "0.00000025" = "min:0.00000025" := by decide
  rw [text] at read
  exact ⟨bound, described, small, zero, ⟨set, read, clauses⟩, least, most⟩

end Command

end FormRules
