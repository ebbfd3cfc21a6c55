/-
This file holds rulebooks, in which rules are found by their names. A name belongs to the rule that took it
first.
-/

import FormRules.Rule.Standard

namespace FormRules

/-- Rules in the order in which they were entered, with different names. -/
structure Rulebook where
  rules : List Rule
  distinct : (rules.map Rule.name).Nodup

/-- A rule was to be entered under a name that is taken. -/
structure DuplicateRule where
  name : String
  deriving DecidableEq, Repr

def DuplicateRule.message (error : DuplicateRule) : String :=
  "Rule '" ++ error.name ++ "' is already registered"

namespace Rulebook

def empty : Rulebook := ⟨[], .nil⟩

def standard [Pattern.Engine] : Rulebook :=
  ⟨Rule.standard, by rw [Rule.standard_names]; decide⟩

/-- The rule of a name. -/
def find? (book : Rulebook) (name : String) : Option Rule :=
  book.rules.find? fun rule => rule.name == name

def contains (book : Rulebook) (name : String) : Bool :=
  (book.find? name).isSome

theorem find?_eq_none {book : Rulebook} {name : String} :
    book.find? name = none ↔ name ∉ book.rules.map Rule.name := by
  simp [find?, List.find?_eq_none]

theorem find?_name {book : Rulebook} {name : String} {rule : Rule}
    (found : book.find? name = some rule) : rule.name = name := by
  simpa using List.find?_some found

/-- Enters a rule, unless there is one of its name. -/
def register (book : Rulebook) (rule : Rule) : Except DuplicateRule Rulebook :=
  if taken : rule.name ∈ book.rules.map Rule.name then .error ⟨rule.name⟩
  else
    .ok
      { rules := book.rules ++ [rule]
        distinct := by
          rw [List.map_append, List.nodup_append]
          refine ⟨book.distinct, by simp, ?_⟩
          intro a member b single equal
          simp only [List.map_cons, List.map_nil, List.mem_singleton] at single
          exact taken (single ▸ equal ▸ member) }

def size (book : Rulebook) : Nat :=
  book.rules.length

/-- The names of the rules in increasing order. -/
def names (book : Rulebook) : List String :=
  (book.rules.map Rule.name).mergeSort fun first second => decide (first ≤ second)

end Rulebook

end FormRules
