/-
This file shows that reading takes the semicolon for concatenation. What two joined definitions give is
decided by what each of them gives; blank parts, and blanks around parts, give nothing.
-/

import FormRules.Proofs.Grammar
import FormRules.StandIn

namespace FormRules.Definition

open Text

variable {book : Rulebook}

/-- Only the segments of a definition count. -/
theorem read_congr {first second : String} (same : segments first = segments second) :
    read book first = read book second := by
  rw [read, read, same]

/-- Clauses that both definitions have stay where the first one puts them. -/
theorem read_append_semicolon (book : Rulebook) (first second : String) :
    read book (first ++ ";" ++ second) = do
      let early ← read book first
      let late ← read book second
      return ClauseSet.ofList (early.clauses ++ late.clauses) := by
  simp only [read_eq, segments_append_semicolon, List.mapM_append]
  cases (segments first).mapM (readSegment book) with
  | error error => rfl
  | ok early =>
      cases (segments second).mapM (readSegment book) with
      | error error => rfl
      | ok late =>
          apply congrArg Except.ok
          rw [ClauseSet.ofList_append, ClauseSet.ofList_append, ClauseSet.ofList_clauses,
            ClauseSet.insertAll_ofList]

/-- Without a semicolon there is one segment to read, or none. -/
theorem read_of_not_mem {text : String} (free : ';' ∉ text.toList) :
    read book text =
      if trim text = "" then .ok ClauseSet.empty
      else (readSegment book text.toList).map fun clause => ClauseSet.ofList [clause] := by
  rw [read_eq, segments_of_not_mem free]
  by_cases blank : AllBlank text.toList
  · rw [if_pos (trimmed_eq_nil_iff.2 blank), if_pos (trim_eq_empty_iff.2 blank)]
    rfl
  · rw [if_neg (mt trimmed_eq_nil_iff.1 blank), if_neg (mt trim_eq_empty_iff.1 blank),
      List.mapM_cons, readSegment_trimmed]
    cases readSegment book text.toList <;> rfl

/-- Parts of a definition that are equal but for blanks give the same, wherever there are blank parts too. -/
theorem read_intercalate_congr {parts others : List String}
    (same : (parts.map trim).filter (· ≠ "") = (others.map trim).filter (· ≠ "")) :
    read book (";".intercalate parts) = read book (";".intercalate others) := by
  have joined : ∀ texts : List String,
      segments (";".intercalate texts) = ((texts.map trim).filter (· ≠ "")).flatMap segments := by
    intro texts
    rw [flatMap_segments_trim, ← segments_intercalate "" allBlank_nil]
    rfl
  apply read_congr
  rw [joined, joined, same]

theorem read_append_semicolon_blank {blanks : String} (definition : String)
    (blank : AllBlank blanks.toList) :
    read book (definition ++ ";" ++ blanks) = read book definition := by
  apply read_congr
  rw [segments_append_semicolon, segments_of_allBlank blank, List.append_nil]

theorem read_blank_append_semicolon {blanks : String} (blank : AllBlank blanks.toList)
    (definition : String) : read book (blanks ++ ";" ++ definition) = read book definition := by
  apply read_congr
  rw [segments_append_semicolon, segments_of_allBlank blank, List.nil_append]

theorem read_append_semicolon_self (book : Rulebook) (definition : String) :
    read book (definition ++ ";" ++ definition) = read book definition := by
  rw [read_append_semicolon]
  cases read book definition with
  | error error => rfl
  | ok set =>
      apply congrArg Except.ok
      rw [ClauseSet.ofList_append, ClauseSet.ofList_clauses,
        ClauseSet.insertAll_of_subset (List.Subset.refl set.clauses)]

/-- The semicolon joins definitions: the first error counts, and without one the clauses of the second
definition follow those of the first, as far as they are new. What has no semicolon is read as one segment,
unless it is blank. Blank parts and blanks around parts change nothing, nor does a semicolon at the end or a
repetition of the whole definition. -/
theorem read_joined_definitions (book : Rulebook) :
    (∀ first second, read book (first ++ ";" ++ second) = do
      let early ← read book first
      let late ← read book second
      return ClauseSet.ofList (early.clauses ++ late.clauses)) ∧
    (∀ text : String, ';' ∉ text.toList →
      read book text =
        if trim text = "" then .ok ClauseSet.empty
        else (readSegment book text.toList).map fun clause => ClauseSet.ofList [clause]) ∧
    (∀ parts others : List String,
      (parts.map trim).filter (· ≠ "") = (others.map trim).filter (· ≠ "") →
      read book (";".intercalate parts) = read book (";".intercalate others)) ∧
    (∀ definition blanks : String, trim blanks = "" →
      read book (blanks ++ definition) = read book definition ∧
      read book (definition ++ blanks) = read book definition ∧
      read book (blanks ++ ";" ++ definition) = read book definition ∧
      read book (definition ++ ";" ++ blanks) = read book definition) ∧
    (∀ definition, read book (definition ++ ";" ++ definition) = read book definition) := by
  refine ⟨read_append_semicolon book, ?_, ?_, ?_, read_append_semicolon_self book⟩
  · intro text free
    exact read_of_not_mem free
  · intro parts others same
    exact read_intercalate_congr same
  · intro definition blanks blank
    have allBlank := trim_eq_empty_iff.1 blank
    refine ⟨?_, ?_, ?_, ?_⟩
    · exact read_congr (segments_blank_append allBlank definition)
    · exact read_congr (segments_append_blank definition allBlank)
    · exact read_blank_append_semicolon allBlank definition
    · exact read_append_semicolon_blank definition allBlank

open scoped StandIn

/-- Parts with other blanks give the same, an ideographic space at the end is no segment, and a text without
a semicolon fails as its one segment does. -/
theorem joined_definitions_with_blanks :
    ((["min:1", "", " required"].map trim).filter (· ≠ "") =
        (["  min:1 ", "required"].map trim).filter (· ≠ "") ∧
      read .standard (";".intercalate ["min:1", "", " required"]) =
        read .standard (";".intercalate ["  min:1 ", "required"])) ∧
    (trim "\u3000" = "" ∧
      read .standard ("required" ++ ";" ++ "\u3000") = read .standard "required") ∧
    (';' ∉ " colour : red ".toList ∧
      read .standard " colour : red " = .error (.unknownRule "colour")) := by
  obtain ⟨-, single, parts, blanks, -⟩ := read_joined_definitions .standard
  have same : (["min:1", "", " required"].map trim).filter (· ≠ "") =
      (["  min:1 ", "required"].map trim).filter (· ≠ "") := by
    decide
  have blank : trim "\u3000" = "" := by decide
  have free : ';' ∉ " colour : red ".toList := by decide
  refine ⟨⟨same, parts _ _ same⟩, ⟨blank, (blanks _ _ blank).2.2.2⟩, free, ?_⟩
  rw [single _ free]
  decide +kernel

end FormRules.Definition
