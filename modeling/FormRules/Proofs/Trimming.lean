/-
This file says what trimming removes: the blanks at both ends of a text, however many there are, and
nothing else. A trimmed text stays as it is.
-/

import FormRules.Text.Blank
import Mathlib.Data.List.DropRight

namespace FormRules.Text

theorem trimmed_eq (text : List Char) :
    trimmed text = (text.dropWhile isBlank).rdropWhile isBlank := rfl

/-- No blank stands in front of a trimmed text. -/
theorem dropWhile_trimmed (text : List Char) :
    (trimmed text).dropWhile isBlank = trimmed text := by
  rw [trimmed_eq]
  cases front : text.dropWhile isBlank with
  | nil => rfl
  | cons c rest =>
      have solid : isBlank c ≠ true := by
        have first := List.head_dropWhile_not isBlank (l := text) (by simp [front])
        simpa [front] using first
      obtain ⟨after, whole⟩ := List.rdropWhile_prefix isBlank (c :: rest)
      cases kept : (c :: rest).rdropWhile isBlank with
      | nil => rfl
      | cons d others =>
          rw [kept, List.cons_append] at whole
          obtain ⟨rfl, -⟩ := List.cons.inj whole
          rw [List.dropWhile_cons_of_neg solid]

@[simp] theorem trimmed_trimmed (text : List Char) : trimmed (trimmed text) = trimmed text := by
  rw [trimmed_eq (trimmed text), dropWhile_trimmed, trimmed_eq]
  exact List.rdropWhile_idempotent isBlank _

@[simp] theorem trim_trim (text : String) : trim (trim text) = trim text := by
  simp [trim]

@[simp] theorem toList_trim (text : String) : (trim text).toList = trimmed text.toList :=
  String.toList_ofList

/-- Every character of the text is blank. -/
def AllBlank (text : List Char) : Prop :=
  ∀ c ∈ text, isBlank c = true

theorem allBlank_nil : AllBlank [] := by
  simp [AllBlank]

theorem allBlank_space : AllBlank [' '] := by
  intro c member
  rw [List.mem_singleton.1 member]
  rfl

theorem not_mem_of_allBlank {c : Char} {text : List Char} (solid : isBlank c = false)
    (blank : AllBlank text) : c ∉ text := by
  intro member
  have := blank c member
  rw [solid] at this
  cases this

/-- A text is its trimmed part with blanks on both sides. -/
theorem exists_blanks_around (text : List Char) :
    ∃ before after, text = before ++ trimmed text ++ after ∧ AllBlank before ∧ AllBlank after := by
  have front := List.takeWhile_append_dropWhile (p := isBlank) (l := text)
  have back := List.rdropWhile_append_rtakeWhile (p := isBlank) (l := text.dropWhile isBlank)
  refine ⟨text.takeWhile isBlank, (text.dropWhile isBlank).rtakeWhile isBlank, ?_, ?_, ?_⟩
  · rw [trimmed_eq, List.append_assoc, back, front]
  · intro c member
    exact List.mem_takeWhile_imp member
  · intro c member
    exact List.mem_rtakeWhile_imp member

theorem mem_of_mem_trimmed {c : Char} {text : List Char} (member : c ∈ trimmed text) : c ∈ text := by
  obtain ⟨before, after, around, -, -⟩ := exists_blanks_around text
  rw [around]
  exact List.mem_append_left after (List.mem_append_right before member)

theorem trimmed_blank_append {blanks : List Char} (blank : AllBlank blanks) (text : List Char) :
    trimmed (blanks ++ text) = trimmed text := by
  rw [trimmed_eq, trimmed_eq, List.dropWhile_append_of_pos blank]

theorem trimmed_append_blank (text : List Char) {blanks : List Char} (blank : AllBlank blanks) :
    trimmed (text ++ blanks) = trimmed text := by
  have dropped : blanks.reverse.dropWhile isBlank = [] :=
    List.dropWhile_eq_nil_iff.2 fun c member => blank c (List.mem_reverse.1 member)
  rw [trimmed, trimmed, List.dropWhile_append]
  split
  · rename_i nothing
    rw [List.isEmpty_iff.1 nothing, List.dropWhile_eq_nil_iff.2 blank]
  · rw [List.reverse_append, List.dropWhile_append, dropped]
    rfl

/-- A text without any blank stays as it is. -/
theorem trimmed_of_solid {text : List Char} (solid : ∀ c ∈ text, isBlank c = false) : trimmed text = text := by
  have kept : ∀ {part : List Char}, (∀ c ∈ part, c ∈ text) → part.dropWhile isBlank = part := by
    intro part inside
    cases part with
    | nil => rfl
    | cons c rest =>
        have first := solid c (inside c List.mem_cons_self)
        rw [List.dropWhile_cons_of_neg (by simp [first])]
  rw [trimmed, kept (fun _ => id), kept fun c member => List.mem_reverse.1 member, List.reverse_reverse]

theorem trim_of_solid {text : String} (solid : ∀ c ∈ text.toList, isBlank c = false) : trim text = text := by
  rw [trim, trimmed_of_solid solid, String.ofList_toList]

theorem not_isBlank_of_range {c : Char} (range : '0' ≤ c ∧ c ≤ '9') : isBlank c = false := by
  have least : 48 ≤ c.toNat := range.1
  have most : c.toNat ≤ 57 := range.2
  simp only [isBlank, Bool.or_eq_false_iff, Bool.and_eq_false_iff, beq_eq_false_iff_ne, decide_eq_false_iff_not]
  omega

theorem trimmed_eq_nil_iff {text : List Char} : trimmed text = [] ↔ AllBlank text := by
  constructor
  · intro nothing
    obtain ⟨before, after, around, frontBlank, backBlank⟩ := exists_blanks_around text
    rw [nothing, List.append_nil] at around
    rw [around]
    intro c member
    rcases List.mem_append.1 member with front | back
    · exact frontBlank c front
    · exact backBlank c back
  · intro blank
    exact trimmed_append_blank [] blank

theorem trim_eq_empty_iff {text : String} : trim text = "" ↔ AllBlank text.toList := by
  rw [← trimmed_eq_nil_iff, ← String.toList_inj, toList_trim]
  rfl

@[simp] theorem nonBlank?_nonBlank? (whole : Option String) :
    nonBlank? (nonBlank? whole) = nonBlank? whole := by
  cases whole with
  | none => rfl
  | some text => by_cases blank : trim text = "" <;> simp [nonBlank?, blank]

@[simp] theorem trimOrEmpty_nonBlank? (whole : Option String) :
    trimOrEmpty (nonBlank? whole) = trimOrEmpty whole := by
  cases whole with
  | none => rfl
  | some text => by_cases blank : trim text = "" <;> simp [nonBlank?, trimOrEmpty, blank]

/-- Of a trimmed text all is left unless it is empty. -/
theorem nonBlank?_eq_filter {whole : Option String}
    (trims : ∀ text, whole = some text → trim text = text) :
    nonBlank? whole = whole.filter (· ≠ "") := by
  cases whole with
  | none => rfl
  | some text =>
      rw [nonBlank?, trims text rfl]
      by_cases empty : text = ""
      · rw [if_pos empty, Option.filter_some_neg (by simp [empty])]
      · rw [if_neg empty, Option.filter_some_pos (by simp [empty])]

theorem nonBlank?_eq_none_iff {whole : Option String}
    (trims : ∀ text, whole = some text → trim text = text) :
    nonBlank? whole = none ↔ whole = none ∨ whole = some "" := by
  rw [nonBlank?_eq_filter trims]
  cases whole with
  | none => simp
  | some text => simp [Option.filter_eq_none_iff]

end FormRules.Text
