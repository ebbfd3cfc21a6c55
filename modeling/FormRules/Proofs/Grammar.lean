/-
This file says what a definition spells, and shows that reading gives just that. A text is read if each of
its segments spells a clause that the book admits; otherwise the leftmost segment that does not is to blame,
whatever comes after it.
-/

import FormRules.Proofs.FirstOccurrences
import FormRules.Proofs.FirstError
import FormRules.Proofs.Segments
import FormRules.StandIn

namespace FormRules

/-- The book has a rule for the clause, and the clause has an expectation if the rule needs one. -/
def Rulebook.Admits (book : Rulebook) (clause : Clause) : Prop :=
  ∃ rule, book.find? clause.name = some rule ∧
    (rule.needsExpectation = true → clause.expectation ≠ none ∧ clause.expectation ≠ some "")

namespace Definition

/-- A segment spells a name, or a name and an expectation with the first colon between them. Blanks around
either do not belong to it. -/
inductive Spells : List Char → Clause → Prop
  | name {text : List Char} (free : ':' ∉ text) : Spells text ⟨.ofList (Text.trimmed text), none⟩
  | nameAndExpectation {name expectation : List Char} (free : ':' ∉ name) :
      Spells (name ++ ':' :: expectation)
        ⟨.ofList (Text.trimmed name), some (.ofList (Text.trimmed expectation))⟩

/-- What is wrong with a segment: it has no name; or it names no rule; or its rule needs an expectation and
there is none. -/
inductive Flaw (book : Rulebook) (segment : List Char) : DefinitionError → Prop
  | malformed {clause : Clause} (spelled : Spells segment clause) (nameless : clause.name = "") :
      Flaw book segment (.malformed (.ofList segment))
  | unknownRule {clause : Clause} (spelled : Spells segment clause) (named : clause.name ≠ "")
      (unknown : book.find? clause.name = none) : Flaw book segment (.unknownRule clause.name)
  | missingExpectation {clause : Clause} {rule : Rule} (spelled : Spells segment clause)
      (named : clause.name ≠ "") (found : book.find? clause.name = some rule)
      (needed : rule.needsExpectation = true)
      (missing : clause.expectation = none ∨ clause.expectation = some "") :
      Flaw book segment (.missingExpectation clause.name)

variable {book : Rulebook} {segment : List Char} {clause : Clause}

theorem clauseOf_eq_iff_spells : clauseOf segment = clause ↔ Spells segment clause := by
  constructor
  · intro cut
    have rebuilt := Text.cutAtFirst_rebuild ':' segment
    have free := Text.not_mem_cutAtFirst ':' segment
    rw [← cut, clauseOf]
    cases whole : Text.cutAtFirst ':' segment with
    | mk before after =>
        rw [whole] at rebuilt free
        cases after with
        | none =>
            rw [Option.elim_none, List.append_nil] at rebuilt
            rw [← rebuilt]
            exact .name free
        | some after =>
            rw [Option.elim_some] at rebuilt
            rw [← rebuilt]
            exact .nameAndExpectation free
  · intro spelled
    cases spelled with
    | name free => rw [clauseOf, Text.cutAtFirst_of_not_mem free]; rfl
    | nameAndExpectation free => rw [clauseOf, Text.cutAtFirst_append free]; rfl

theorem spells_clauseOf (segment : List Char) : Spells segment (clauseOf segment) :=
  clauseOf_eq_iff_spells.1 rfl

theorem colon_not_mem_of_allBlank {text : List Char} (blank : Text.AllBlank text) : ':' ∉ text :=
  Text.not_mem_of_allBlank (by decide) blank

/-- Blanks around a segment are blanks around its name or its expectation. -/
theorem spells_of_blanks_around {before after : List Char} (frontBlank : Text.AllBlank before)
    (backBlank : Text.AllBlank after) (spelled : Spells segment clause) :
    Spells (before ++ segment ++ after) clause := by
  have frontFree := colon_not_mem_of_allBlank frontBlank
  have backFree := colon_not_mem_of_allBlank backBlank
  cases spelled with
  | name free =>
      have same : Text.trimmed (before ++ segment ++ after) = Text.trimmed segment := by
        rw [Text.trimmed_append_blank _ backBlank, Text.trimmed_blank_append frontBlank]
      rw [← same]
      apply Spells.name
      simp [frontFree, free, backFree]
  | @nameAndExpectation name expectation free =>
      have split : before ++ (name ++ ':' :: expectation) ++ after =
          (before ++ name) ++ ':' :: (expectation ++ after) := by
        simp
      rw [split, ← Text.trimmed_blank_append frontBlank name,
        ← Text.trimmed_append_blank expectation backBlank]
      apply Spells.nameAndExpectation
      simp [frontFree, free]

theorem clauseOf_trimmed (segment : List Char) : clauseOf (Text.trimmed segment) = clauseOf segment := by
  obtain ⟨before, after, around, frontBlank, backBlank⟩ := Text.exists_blanks_around segment
  have spelled := spells_of_blanks_around frontBlank backBlank (spells_clauseOf (Text.trimmed segment))
  rw [← around] at spelled
  exact (clauseOf_eq_iff_spells.2 spelled).symm

/-- The name and the expectation of a segment are trimmed. -/
theorem trim_of_spells (spelled : Spells segment clause) :
    Text.trim clause.name = clause.name ∧
      ∀ expectation, clause.expectation = some expectation → Text.trim expectation = expectation := by
  cases spelled with
  | name free => simp [Text.trim]
  | nameAndExpectation free => simp [Text.trim]

theorem readSegment_trimmed (segment : List Char) :
    readSegment book (Text.trimmed segment) = readSegment book segment := by
  rw [readSegment, readSegment, Text.trimmed_trimmed]

/-- What becomes of a segment depends on the clause that it spells. -/
theorem readSegment_of_spells (spelled : Spells segment clause) :
    readSegment book segment =
      if clause.name = "" then .error (.malformed (.ofList (Text.trimmed segment)))
      else
        match book.find? clause.name with
        | none => .error (.unknownRule clause.name)
        | some rule =>
            if rule.needsExpectation = true ∧
                (clause.expectation = none ∨ clause.expectation = some "") then
              .error (.missingExpectation clause.name)
            else .ok clause := by
  have lacking := Text.nonBlank?_eq_none_iff (trim_of_spells spelled).2
  simp only [readSegment, clauseOf_trimmed, clauseOf_eq_iff_spells.2 spelled]
  cases book.find? clause.name with
  | none => rfl
  | some rule => simp only [Bool.and_eq_true, Option.isNone_iff_eq_none, lacking]

/-- A clause is read exactly if it is spelled, has a name and is admitted. -/
theorem readSegment_eq_ok_iff :
    readSegment book segment = .ok clause ↔
      Spells segment clause ∧ clause.name ≠ "" ∧ book.Admits clause := by
  constructor
  · intro read
    rw [readSegment_of_spells (spells_clauseOf segment)] at read
    split at read
    · cases read
    · rename_i named
      split at read
      · cases read
      · rename_i rule found
        split at read
        · cases read
        · rename_i provided
          cases read
          refine ⟨spells_clauseOf segment, named, rule, found, fun needed => ?_⟩
          exact not_or.1 fun missing => provided ⟨needed, missing⟩
  · intro admitted
    obtain ⟨spelled, named, rule, found, provided⟩ := admitted
    have complete : ¬ (rule.needsExpectation = true ∧
        (clause.expectation = none ∨ clause.expectation = some "")) :=
      fun lacking => not_or.2 (provided lacking.1) lacking.2
    rw [readSegment_of_spells spelled, if_neg named, found]
    exact if_neg complete

/-- A trimmed segment is refused for what is wrong with it. -/
theorem readSegment_eq_error_iff (trimmed : Text.trimmed segment = segment) {error : DefinitionError} :
    readSegment book segment = .error error ↔ Flaw book segment error := by
  constructor
  · intro failed
    have spelled := spells_clauseOf segment
    rw [readSegment_of_spells spelled, trimmed] at failed
    split at failed
    · rename_i nameless
      cases failed
      exact .malformed spelled nameless
    · rename_i named
      split at failed
      · rename_i unknown
        cases failed
        exact .unknownRule spelled named unknown
      · rename_i rule found
        split at failed
        · rename_i lacking
          cases failed
          exact .missingExpectation spelled named found lacking.1 lacking.2
        · cases failed
  · intro flaw
    cases flaw with
    | malformed spelled nameless =>
        rw [readSegment_of_spells spelled, if_pos nameless, trimmed]
    | unknownRule spelled named unknown =>
        rw [readSegment_of_spells spelled, if_neg named, unknown]
    | missingExpectation spelled named found needed missing =>
        rw [readSegment_of_spells spelled, if_neg named, found]
        exact if_pos ⟨needed, missing⟩

/-- Segments are read one by one before any of their clauses is inserted. -/
theorem readSegments_eq (set : ClauseSet) (segments : List (List Char)) :
    readSegments book set segments = do
      let clauses ← segments.mapM (readSegment book)
      return set.insertAll clauses := by
  induction segments generalizing set with
  | nil => rfl
  | cons segment rest inductionHypothesis =>
      rw [readSegments, List.mapM_cons]
      cases readSegment book segment with
      | error error => rfl
      | ok clause =>
          show readSegments book (set.insert clause) rest = _
          rw [inductionHypothesis]
          cases rest.mapM (readSegment book) <;> rfl

theorem read_eq (book : Rulebook) (definition : String) :
    read book definition = do
      let clauses ← (segments definition).mapM (readSegment book)
      return ClauseSet.ofList clauses :=
  readSegments_eq ClauseSet.empty (segments definition)

theorem read_eq_ok_iff {definition : String} {set : ClauseSet} :
    read book definition = .ok set ↔
      ∃ clauses, List.Forall₂ (fun segment clause => readSegment book segment = .ok clause)
        (segments definition) clauses ∧ ClauseSet.ofList clauses = set := by
  rw [read_eq, bind_eq_ok_iff]
  simp only [mapM_eq_ok_iff, pure_eq_ok_iff]

/-- Each clause of a definition is spelled by one of the segments. -/
theorem exists_spells_of_read {definition : String} {set : ClauseSet}
    (read : Definition.read book definition = .ok set) (member : clause ∈ set.clauses) :
    ∃ segment ∈ segments definition,
      Spells segment clause ∧ clause.name ≠ "" ∧ book.Admits clause := by
  obtain ⟨clauses, made, rfl⟩ := read_eq_ok_iff.1 read
  rw [ClauseSet.clauses_ofList, List.mem_eraseDups] at member
  obtain ⟨segment, inside, readHere⟩ := exists_of_mem_forall₂ made member
  exact ⟨segment, inside, readSegment_eq_ok_iff.1 readHere⟩

theorem read_eq_error_iff {definition : String} {error : DefinitionError} :
    read book definition = .error error ↔
      ∃ segment, First (Flaw book) (segments definition) segment error := by
  rw [read_eq, bind_eq_error_iff]
  simp only [mapM_eq_error_iff, pure_ne_error, and_false, exists_false, or_false]
  apply exists_congr
  intro segment
  apply first_congr
  intro other member otherError
  exact readSegment_eq_error_iff (trimmed_of_mem_segments member)

theorem exists_read_eq_ok_iff {definition : String} :
    (∃ set, read book definition = .ok set) ↔
      ∀ segment ∈ segments definition, ∃ clause,
        Spells segment clause ∧ clause.name ≠ "" ∧ book.Admits clause := by
  have readable : (∃ set, read book definition = .ok set) ↔
      ∃ clauses, (segments definition).mapM (readSegment book) = .ok clauses := by
    simp only [read_eq, bind_eq_ok_iff, pure_eq_ok_iff]
    rw [exists_comm]
    simp
  rw [readable, exists_mapM_eq_ok_iff]
  simp only [AllOk, readSegment_eq_ok_iff]

/-- A definition is read exactly if each of its segments spells a clause that has a name and that the book
admits. The result has the clauses in order, each where it first occurs. Otherwise the first segment with a
flaw decides the error, and nothing behind it matters. -/
theorem read_follows_grammar (book : Rulebook) (definition : String) :
    segments definition = ((definition.toList.splitOn ';').map Text.trimmed).filter (· ≠ []) ∧
    ((∃ set, read book definition = .ok set) ↔
      ∀ segment ∈ segments definition, ∃ clause,
        Spells segment clause ∧ clause.name ≠ "" ∧ book.Admits clause) ∧
    (∀ set, read book definition = .ok set →
      ∃ clauses, List.Forall₂ Spells (segments definition) clauses ∧
        set.clauses = clauses.eraseDups) ∧
    (∀ error, read book definition = .error error ↔
      ∃ segment, First (Flaw book) (segments definition) segment error) ∧
    (∀ error, read book definition = .error error →
      ∀ rest, read book (definition ++ ";" ++ rest) = .error error) := by
  refine ⟨segments_eq definition, exists_read_eq_ok_iff, ?_, ?_, ?_⟩
  · intro set read
    obtain ⟨clauses, made, rfl⟩ := read_eq_ok_iff.1 read
    refine ⟨clauses, made.imp ?_, ClauseSet.clauses_ofList clauses⟩
    intro segment clause readHere
    exact (readSegment_eq_ok_iff.1 readHere).1
  · intro error
    exact read_eq_error_iff
  · intro error failed rest
    obtain ⟨segment, first⟩ := read_eq_error_iff.1 failed
    have extended := first.append (segments rest)
    rw [← segments_append_semicolon] at extended
    exact read_eq_error_iff.2 ⟨segment, extended⟩

open scoped StandIn

/-- A repeated clause is kept once, at its first position; a segment without a name is to blame for any
definition that goes on behind it. -/
theorem grammar_of_repeated_and_nameless :
    (∃ set, read .standard " min : 1;; required ;min:1" = .ok set ∧
      set.clauses = [⟨"min", some "1"⟩, ⟨"required", none⟩] ∧
      ∃ clauses, List.Forall₂ Spells (segments " min : 1;; required ;min:1") clauses ∧
        set.clauses = clauses.eraseDups) ∧
    (read .standard "required; : 5" = .error (.malformed ": 5") ∧
      ∀ rest, read .standard ("required; : 5" ++ ";" ++ rest) = .error (.malformed ": 5")) := by
  obtain ⟨-, -, made, -, -⟩ := read_follows_grammar .standard " min : 1;; required ;min:1"
  obtain ⟨-, -, -, -, blamed⟩ := read_follows_grammar .standard "required; : 5"
  have accepted : read .standard " min : 1;; required ;min:1" =
      .ok ⟨[⟨"min", some "1"⟩, ⟨"required", none⟩], by decide⟩ := by
    decide +kernel
  have refused : read .standard "required; : 5" = .error (.malformed ": 5") := by
    decide +kernel
  exact ⟨⟨_, accepted, rfl, made _ accepted⟩, refused, blamed _ refused⟩

end Definition

end FormRules
