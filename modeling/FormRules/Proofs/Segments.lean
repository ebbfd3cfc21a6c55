/-
This file says how a definition falls into segments. Joining definitions with semicolons joins their
segments, and blanks around a definition do not count.
-/

import FormRules.Definition
import FormRules.Proofs.Trimming

namespace FormRules

namespace Text

theorem pieces_eq_splitOn (separator : Char) (text : List Char) :
    pieces separator text = text.splitOn separator := by
  induction text with
  | nil => rfl
  | cons c rest inductionHypothesis =>
      rw [List.splitOn_cons_eq_if_modifyHead, pieces, inductionHypothesis]
      by_cases same : c = separator
      · rw [if_pos same, if_pos (beq_iff_eq.2 same)]
      · rw [if_neg same, if_neg (mt beq_iff_eq.1 same)]
        cases split : rest.splitOn separator with
        | nil => exact absurd split (List.splitOn_ne_nil separator rest)
        | cons piece others => rfl

theorem cutAtFirst_of_not_mem {separator : Char} {text : List Char} (free : separator ∉ text) :
    cutAtFirst separator text = (text, none) := by
  induction text with
  | nil => rfl
  | cons c rest inductionHypothesis =>
      obtain ⟨different, restFree⟩ := List.ne_and_not_mem_of_not_mem_cons free
      rw [cutAtFirst, if_neg (Ne.symm different), inductionHypothesis restFree]

theorem cutAtFirst_append {separator : Char} {before : List Char} (free : separator ∉ before)
    (after : List Char) :
    cutAtFirst separator (before ++ separator :: after) = (before, some after) := by
  induction before with
  | nil => simp [cutAtFirst]
  | cons c rest inductionHypothesis =>
      obtain ⟨different, restFree⟩ := List.ne_and_not_mem_of_not_mem_cons free
      rw [List.cons_append, cutAtFirst, if_neg (Ne.symm different), inductionHypothesis restFree]

theorem cutAtFirst_eq_some_iff {separator : Char} {text before after : List Char} :
    cutAtFirst separator text = (before, some after) ↔
      separator ∉ before ∧ text = before ++ separator :: after := by
  constructor
  · intro cut
    have free := not_mem_cutAtFirst separator text
    have rebuilt := cutAtFirst_rebuild separator text
    rw [cut] at free rebuilt
    exact ⟨free, rebuilt.symm⟩
  · intro split
    obtain ⟨free, rfl⟩ := split
    exact cutAtFirst_append free after

theorem not_mem_of_cutAtFirst_eq_none {separator : Char} {text before : List Char}
    (cut : cutAtFirst separator text = (before, none)) : separator ∉ text := by
  have free := not_mem_cutAtFirst separator text
  have rebuilt := cutAtFirst_rebuild separator text
  rw [cut] at free rebuilt
  simpa [← rebuilt] using free

theorem semicolon_solid : isBlank ';' = false := by
  decide

theorem exists_first_semicolon {text : String} (present : ';' ∈ text.toList) :
    ∃ before after : String, text = before ++ ";" ++ after ∧ ';' ∉ before.toList := by
  obtain ⟨before, after, split, free⟩ := List.eq_append_cons_of_mem present
  refine ⟨.ofList before, .ofList after, ?_, by rwa [String.toList_ofList]⟩
  rw [← String.toList_inj, split]
  simp

theorem exists_last_semicolon {text : String} (present : ';' ∈ text.toList) :
    ∃ before after : String, text = before ++ ";" ++ after ∧ ';' ∉ after.toList := by
  obtain ⟨after, before, split, free⟩ := List.eq_append_cons_of_mem (List.mem_reverse.2 present)
  refine ⟨.ofList before.reverse, .ofList after.reverse, ?_, ?_⟩
  · rw [← String.toList_inj, List.reverse_eq_iff.1 split]
    simp
  · rwa [String.toList_ofList, List.mem_reverse]

end Text

namespace Definition

open Text

/-- The segments are what is left of the pieces between semicolons when blanks are removed. -/
theorem segments_eq (definition : String) :
    segments definition = ((definition.toList.splitOn ';').map trimmed).filter (· ≠ []) := by
  rw [segments, pieces_eq_splitOn]
  apply List.filter_congr
  intro segment _
  cases segment <;> rfl

theorem segments_append_semicolon (first second : String) :
    segments (first ++ ";" ++ second) = segments first ++ segments second := by
  have split : (first ++ ";" ++ second).toList = first.toList ++ ';' :: second.toList := by
    simp
  simp only [segments_eq, split, List.splitOn_append_cons_self, List.map_append, List.filter_append]

/-- A text without a semicolon is one segment, or none if it is blank. -/
theorem segments_of_not_mem {text : String} (free : ';' ∉ text.toList) :
    segments text = if trimmed text.toList = [] then [] else [trimmed text.toList] := by
  rw [segments_eq, List.splitOn_eq_singleton free, List.map_singleton, List.filter_singleton]
  by_cases blank : trimmed text.toList = [] <;> simp [blank]

theorem segments_of_allBlank {text : String} (blank : AllBlank text.toList) : segments text = [] := by
  rw [segments_of_not_mem (not_mem_of_allBlank semicolon_solid blank), if_pos (trimmed_eq_nil_iff.2 blank)]

/-- Texts without semicolons have the same segments if they are equal but for blanks around them. -/
theorem segments_congr {first second : String} (firstFree : ';' ∉ first.toList)
    (secondFree : ';' ∉ second.toList) (same : trimmed first.toList = trimmed second.toList) :
    segments first = segments second := by
  rw [segments_of_not_mem firstFree, segments_of_not_mem secondFree, same]

theorem segments_blank_append {blanks : String} (blank : AllBlank blanks.toList) (text : String) :
    segments (blanks ++ text) = segments text := by
  have unbroken : ∀ {segment : String}, ';' ∉ segment.toList →
      segments (blanks ++ segment) = segments segment := by
    intro segment free
    apply segments_congr _ free
    · rw [String.toList_append, trimmed_blank_append blank]
    · simp [free, not_mem_of_allBlank semicolon_solid blank]
  -- With a semicolon only the piece in front of it meets the blanks.
  by_cases present : ';' ∈ text.toList
  · obtain ⟨before, after, rfl, free⟩ := exists_first_semicolon present
    rw [← String.append_assoc, ← String.append_assoc, segments_append_semicolon, unbroken free,
      segments_append_semicolon]
  · exact unbroken present

theorem segments_append_blank {blanks : String} (text : String) (blank : AllBlank blanks.toList) :
    segments (text ++ blanks) = segments text := by
  have unbroken : ∀ {segment : String}, ';' ∉ segment.toList →
      segments (segment ++ blanks) = segments segment := by
    intro segment free
    apply segments_congr _ free
    · rw [String.toList_append, trimmed_append_blank _ blank]
    · simp [free, not_mem_of_allBlank semicolon_solid blank]
  by_cases present : ';' ∈ text.toList
  · obtain ⟨before, after, rfl, free⟩ := exists_last_semicolon present
    rw [String.append_assoc, segments_append_semicolon, unbroken free, segments_append_semicolon]
  · exact unbroken present

theorem segments_trim (text : String) : segments (trim text) = segments text := by
  obtain ⟨before, after, around, frontBlank, backBlank⟩ := exists_blanks_around text.toList
  have padded : text = .ofList before ++ trim text ++ .ofList after := by
    rw [← String.toList_inj, String.toList_append, String.toList_append, toList_trim,
      String.toList_ofList, String.toList_ofList]
    exact around
  rw [← String.toList_ofList (l := before)] at frontBlank
  rw [← String.toList_ofList (l := after)] at backBlank
  conv_rhs => rw [padded]
  rw [segments_append_blank _ backBlank, segments_blank_append frontBlank]

/-- Blanks may follow the semicolons that join definitions. -/
theorem segments_intercalate (blanks : String) (blank : AllBlank blanks.toList) (parts : List String) :
    segments ((";" ++ blanks).intercalate parts) = parts.flatMap segments := by
  induction parts with
  | nil => rfl
  | cons part others inductionHypothesis =>
      cases others with
      | nil => simp
      | cons next others =>
          rw [String.intercalate_cons_cons, ← String.append_assoc, String.append_assoc,
            segments_append_semicolon, segments_blank_append blank, inductionHypothesis]
          rfl

/-- Trimming the parts of a definition and leaving out blank ones keeps the segments. -/
theorem flatMap_segments_trim (parts : List String) :
    ((parts.map trim).filter (· ≠ "")).flatMap segments = parts.flatMap segments := by
  induction parts with
  | nil => rfl
  | cons part others inductionHypothesis =>
      rw [List.map_cons, List.flatMap_cons, ← inductionHypothesis]
      by_cases blank : trim part = ""
      · rw [List.filter_cons_of_neg (by simpa using blank),
          segments_of_allBlank (trim_eq_empty_iff.1 blank), List.nil_append]
      · rw [List.filter_cons_of_pos (by simpa using blank), List.flatMap_cons, segments_trim]

theorem trimmed_of_mem_segments {definition : String} {segment : List Char}
    (member : segment ∈ segments definition) : trimmed segment = segment := by
  rw [segments_eq] at member
  obtain ⟨piece, -, rfl⟩ := List.mem_map.1 (List.mem_filter.1 member).1
  exact trimmed_trimmed piece

theorem semicolon_not_mem_of_mem_segments {definition : String} {segment : List Char}
    (member : segment ∈ segments definition) : ';' ∉ segment := by
  obtain ⟨piece, cut, rfl⟩ := List.mem_map.1 (List.mem_filter.1 member).1
  intro present
  exact not_mem_of_mem_pieces cut (mem_of_mem_trimmed present)

end Definition

end FormRules
