/-
This file writes clauses down so that reading gives them back. Every list of clauses that can be spelled and
that the book admits is what some definition gives, and nothing else is. The displayed form of a definition
is a definition too; it loses the difference between an empty expectation and an absent one.
-/

import FormRules.Proofs.Grammar
import FormRules.StandIn

namespace FormRules

open Text

/-- The name can stand in a definition, and so can the expectation, which may be empty. -/
structure Clause.Spellable (clause : Clause) : Prop where
  named : clause.name ≠ ""
  trim_name : trim clause.name = clause.name
  semicolon_not_mem_name : ';' ∉ clause.name.toList
  colon_not_mem_name : ':' ∉ clause.name.toList
  trim_expectation : ∀ text, clause.expectation = some text → trim text = text
  semicolon_not_mem_expectation : ∀ text, clause.expectation = some text → ';' ∉ text.toList

/-- The clause as a segment, with a gap behind the colon. An empty expectation still has its colon. -/
def Clause.written (gap : String) (clause : Clause) : String :=
  match clause.expectation with
  | none => clause.name
  | some expectation => clause.name ++ ":" ++ gap ++ expectation

/-- The clause without its expectation if that is empty. -/
def Clause.withoutEmpty (clause : Clause) : Clause :=
  { clause with expectation := clause.expectation.filter (· ≠ "") }

/-- The definition that displays the clauses of a set. -/
def ClauseSet.display (set : ClauseSet) : String :=
  "; ".intercalate (set.clauses.map Clause.display)

namespace Clause

variable {clause : Clause}

theorem withoutEmpty_of_ne (filled : clause.expectation ≠ some "") : clause.withoutEmpty = clause := by
  obtain ⟨name, expectation⟩ := clause
  cases expectation with
  | none => rfl
  | some text =>
      have solid : text ≠ "" := fun empty => filled (congrArg some empty)
      rw [withoutEmpty, Option.filter_some_pos (by simpa using solid)]

theorem Spellable.withoutEmpty (spellable : clause.Spellable) : clause.withoutEmpty.Spellable where
  named := spellable.named
  trim_name := spellable.trim_name
  semicolon_not_mem_name := spellable.semicolon_not_mem_name
  colon_not_mem_name := spellable.colon_not_mem_name
  trim_expectation text kept :=
    spellable.trim_expectation text (Option.eq_some_of_filter_eq_some kept)
  semicolon_not_mem_expectation text kept :=
    spellable.semicolon_not_mem_expectation text (Option.eq_some_of_filter_eq_some kept)

/-- The name can stand in a definition. -/
def PlainName (name : String) : Prop :=
  name ≠ "" ∧ trim name = name ∧ ';' ∉ name.toList ∧ ':' ∉ name.toList

instance : DecidablePred PlainName := fun _ => inferInstanceAs (Decidable (_ ∧ _ ∧ _ ∧ _))

/-- An expectation without blanks and semicolons can stand in a definition. -/
theorem spellable_of_solid {name text : String} (plain : PlainName name)
    (solid : ∀ c ∈ text.toList, isBlank c = false ∧ c ≠ ';') : Spellable ⟨name, some text⟩ := by
  obtain ⟨given, trims, semicolonFree, colonFree⟩ := plain
  refine ⟨given, trims, semicolonFree, colonFree, ?_, ?_⟩
  · intro text same
    cases same
    exact trim_of_solid fun c member => (solid c member).1
  · intro text same member
    cases same
    exact (solid ';' member).2 rfl

/-- A clause is displayed with a space behind the colon, and without a colon if nothing would follow. -/
theorem display_eq_written (spellable : clause.Spellable) :
    clause.display = clause.withoutEmpty.written " " := by
  have kept := nonBlank?_eq_filter spellable.trim_expectation
  rw [display, written, kept, Clause.withoutEmpty]
  cases clause.expectation.filter (· ≠ "") with
  | none => rfl
  | some text =>
      have colon : ": " = ":" ++ " " := by decide
      simp only [colon, String.append_assoc]

end Clause

namespace Definition

variable {book : Rulebook} {clause : Clause} {segment : List Char}

/-- A rule that needs an expectation has one that is not empty, so that it is kept. -/
theorem admits_withoutEmpty (admitted : book.Admits clause) : book.Admits clause.withoutEmpty := by
  obtain ⟨rule, found, provided⟩ := admitted
  refine ⟨rule, found, fun needed => ?_⟩
  rw [Clause.withoutEmpty_of_ne (provided needed).2]
  exact provided needed

/-- The gap behind the colon does not belong to the expectation. -/
theorem spells_written {gap : String} (blank : AllBlank gap.toList) (spellable : clause.Spellable) :
    Spells (clause.written gap).toList clause := by
  have sameName : String.ofList (trimmed clause.name.toList) = clause.name := spellable.trim_name
  cases present : clause.expectation with
  | none =>
      have spelled := Spells.name spellable.colon_not_mem_name
      rw [sameName, ← present] at spelled
      rwa [Clause.written, present]
  | some text =>
      have sameText : String.ofList (trimmed (gap.toList ++ text.toList)) = text := by
        rw [trimmed_blank_append blank]
        exact spellable.trim_expectation text present
      have split : (clause.written gap).toList =
          clause.name.toList ++ ':' :: (gap.toList ++ text.toList) := by
        simp [Clause.written, present]
      have spelled : Spells (clause.name.toList ++ ':' :: (gap.toList ++ text.toList)) _ :=
        .nameAndExpectation spellable.colon_not_mem_name
      rw [sameName, sameText, ← present] at spelled
      rwa [split]

theorem semicolon_not_mem_written {gap : String} (blank : AllBlank gap.toList)
    (spellable : clause.Spellable) : ';' ∉ (clause.written gap).toList := by
  have nameFree := spellable.semicolon_not_mem_name
  have gapFree := not_mem_of_allBlank semicolon_solid blank
  cases present : clause.expectation with
  | none => rwa [Clause.written, present]
  | some text =>
      have textFree := spellable.semicolon_not_mem_expectation text present
      simp [Clause.written, present, nameFree, gapFree, textFree]

/-- What a segment without a semicolon spells can be spelled again. -/
theorem spellable_of_spells (spelled : Spells segment clause) (free : ';' ∉ segment)
    (named : clause.name ≠ "") : clause.Spellable := by
  obtain ⟨trimName, trimExpectation⟩ := trim_of_spells spelled
  cases spelled with
  | name colonFree =>
      refine ⟨named, trimName, ?_, ?_, trimExpectation, by simp⟩
      · exact fun present => free (mem_of_mem_trimmed (by simpa using present))
      · exact fun present => colonFree (mem_of_mem_trimmed (by simpa using present))
  | nameAndExpectation colonFree =>
      simp only [List.mem_append, List.mem_cons, not_or] at free
      refine ⟨named, trimName, ?_, ?_, trimExpectation, ?_⟩
      · exact fun present => free.1 (mem_of_mem_trimmed (by simpa using present))
      · exact fun present => colonFree (mem_of_mem_trimmed (by simpa using present))
      · intro text written present
        cases written
        exact free.2.2 (mem_of_mem_trimmed (by simpa using present))

theorem not_allBlank_of_spells (spelled : Spells segment clause) (named : clause.name ≠ "") :
    ¬ AllBlank segment := by
  intro blank
  cases spelled with
  | name free =>
      apply named
      rw [trimmed_eq_nil_iff.2 blank]
  | nameAndExpectation free => exact colon_not_mem_of_allBlank blank (by simp)

/-- Clauses are read back from a definition in which each of them is a segment, whatever blanks stand behind
the semicolons and the colons. -/
theorem read_written (blanks gap : String) (blank : AllBlank blanks.toList)
    (gapBlank : AllBlank gap.toList) {clauses : List Clause}
    (wellFormed : ∀ clause ∈ clauses, clause.Spellable ∧ book.Admits clause) :
    read book ((";" ++ blanks).intercalate (clauses.map (Clause.written gap))) =
      .ok (ClauseSet.ofList clauses) := by
  have each : ∀ clause ∈ clauses,
      segments (clause.written gap) = [trimmed (clause.written gap).toList] := by
    intro clause member
    obtain ⟨spellable, -⟩ := wellFormed clause member
    have solid := not_allBlank_of_spells (spells_written gapBlank spellable) spellable.named
    rw [segments_of_not_mem (semicolon_not_mem_written gapBlank spellable),
      if_neg (mt trimmed_eq_nil_iff.1 solid)]
  have whole : segments ((";" ++ blanks).intercalate (clauses.map (Clause.written gap))) =
      clauses.map fun clause => trimmed (clause.written gap).toList := by
    rw [segments_intercalate blanks blank, List.flatMap_map, List.flatMap_congr each]
    exact List.flatMap_pure_eq_map _ clauses
  refine read_eq_ok_iff.2 ⟨clauses, ?_, rfl⟩
  rw [whole, List.forall₂_map_left_iff, List.forall₂_same]
  intro clause member
  obtain ⟨spellable, admitted⟩ := wellFormed clause member
  rw [readSegment_trimmed, readSegment_eq_ok_iff]
  exact ⟨spells_written gapBlank spellable, spellable.named, admitted⟩

/-- Whatever is read can be spelled, and the book admits it. -/
theorem wellFormed_of_read {definition : String} {set : ClauseSet}
    (read : Definition.read book definition = .ok set) :
    ∀ clause ∈ set.clauses, clause.Spellable ∧ book.Admits clause := by
  intro clause member
  obtain ⟨segment, inside, spelled, named, admitted⟩ := exists_spells_of_read read member
  exact ⟨spellable_of_spells spelled (semicolon_not_mem_of_mem_segments inside) named, admitted⟩

/-- Reading the displayed clauses of a definition gives these clauses, except that an empty expectation has
become an absent one. If there is none, it gives the same set. -/
theorem read_display (book : Rulebook) (definition : String) (set : ClauseSet)
    (read : Definition.read book definition = .ok set) :
    Definition.read book set.display = .ok (ClauseSet.ofList (set.clauses.map Clause.withoutEmpty)) ∧
    ((∀ clause ∈ set.clauses, clause.expectation ≠ some "") →
      Definition.read book set.display = .ok set) := by
  have wellFormed := wellFormed_of_read read
  have displayed : set.clauses.map Clause.display =
      (set.clauses.map Clause.withoutEmpty).map (Clause.written " ") := by
    rw [List.map_map]
    exact List.map_congr_left fun clause member => Clause.display_eq_written (wellFormed clause member).1
  have keptWellFormed : ∀ clause ∈ set.clauses.map Clause.withoutEmpty,
      clause.Spellable ∧ book.Admits clause := by
    intro clause member
    obtain ⟨whole, inside, rfl⟩ := List.mem_map.1 member
    obtain ⟨spellable, admitted⟩ := wellFormed whole inside
    exact ⟨spellable.withoutEmpty, admits_withoutEmpty admitted⟩
  have again : Definition.read book set.display =
      .ok (ClauseSet.ofList (set.clauses.map Clause.withoutEmpty)) := by
    rw [ClauseSet.display, displayed]
    exact read_written " " " " allBlank_space allBlank_space keptWellFormed
  refine ⟨again, fun filled => ?_⟩
  -- A set has no repetitions to drop, so that nothing else is lost.
  have same : set.clauses.map Clause.withoutEmpty = set.clauses.map id :=
    List.map_congr_left fun clause member => Clause.withoutEmpty_of_ne (filled clause member)
  rw [again, same, List.map_id, ClauseSet.ofList_clauses]

open scoped StandIn

/-- Two clauses that differ by an empty expectation are displayed alike, so that one of them is left when the
display is read. A colon in an expectation survives. -/
theorem display_of_empty_expectation :
    ∃ set, read .standard "required:;required;regex:[A-Z]:[0-9]" = .ok set ∧
      set.display = "required; required; regex: [A-Z]:[0-9]" ∧
      read .standard set.display = .ok (ClauseSet.ofList (set.clauses.map Clause.withoutEmpty)) ∧
      (ClauseSet.ofList (set.clauses.map Clause.withoutEmpty)).clauses =
        [⟨"required", none⟩, ⟨"regex", some "[A-Z]:[0-9]"⟩] := by
  have made : read .standard "required:;required;regex:[A-Z]:[0-9]" =
      .ok ⟨[⟨"required", some ""⟩, ⟨"required", none⟩, ⟨"regex", some "[A-Z]:[0-9]"⟩], by decide⟩ := by
    decide +kernel
  obtain ⟨again, -⟩ := read_display .standard _ _ made
  exact ⟨_, made, by decide +kernel, again, by decide +kernel⟩

/-- Exactly those lists of clauses come from a definition that have no repetition and only clauses that can
be spelled and that the book admits. -/
theorem exists_read_iff_wellFormed (book : Rulebook) (clauses : List Clause) :
    (∃ definition set, read book definition = .ok set ∧ set.clauses = clauses) ↔
      clauses.Nodup ∧ ∀ clause ∈ clauses, clause.Spellable ∧ book.Admits clause := by
  constructor
  · intro readable
    obtain ⟨definition, set, read, rfl⟩ := readable
    exact ⟨set.nodup, wellFormed_of_read read⟩
  · intro wellFormed
    obtain ⟨nodup, fine⟩ := wellFormed
    -- Any gap would do. A clause with an empty expectation ends in its colon.
    have written : read book (";".intercalate (clauses.map (Clause.written ""))) =
        .ok (ClauseSet.ofList clauses) :=
      read_written "" "" allBlank_nil allBlank_nil fine
    exact ⟨_, _, written, ClauseSet.clauses_ofList_of_nodup nodup⟩

end Definition

end FormRules
