/-
This file follows a form through the definitions that are written into it. A form keeps the definition that was
written last for each field and lists its fields in the order of their bytes, whether the definitions came one
by one, through a builder or as the members of a JSON object.
-/

import FormRules.Proofs.ByteOrder
import FormRules.Proofs.JsonForms
import Mathlib.Data.Finset.Card

namespace FormRules.Form

/-- The form after definitions have been written into it in order. -/
def writeAll (form : Form) (history : List (String × String)) : Form :=
  history.foldl (fun form entry => (form.exchange entry.1 entry.2).2) form

/-- The form into which nothing but the definitions has been written. -/
def written (history : List (String × String)) : Form :=
  writeAll NameMap.empty history

/-- The definition was written for the field, and none was written for it later. -/
def WrittenLast (history : List (String × String)) (field definition : String) : Prop :=
  ∃ early late, history = early ++ (field, definition) :: late ∧ ∀ entry ∈ late, entry.1 ≠ field

variable {form : Form} {history : List (String × String)} {field definition : String}

theorem not_writtenLast_nil : ¬ WrittenLast [] field definition := by
  rintro ⟨early, late, split, -⟩
  simp at split

/-- A split of a list around one of its members is one around its last member or around an earlier one. -/
theorem append_singleton_eq_append_cons_iff {α : Type} {items early late : List α} {last item : α} :
    items ++ [last] = early ++ item :: late ↔
      (items = early ∧ last = item ∧ late = []) ∨
        ∃ before, late = before ++ [last] ∧ items = early ++ item :: before := by
  rcases List.eq_nil_or_concat' late with rfl | ⟨before, other, rfl⟩
  · simp
  · constructor
    · intro split
      rw [← List.cons_append, ← List.append_assoc] at split
      obtain ⟨begins, ends⟩ := List.append_inj' split rfl
      exact .inr ⟨before, by rw [ends], begins⟩
    · rintro (⟨-, -, empty⟩ | ⟨between, same, rfl⟩)
      · simp at empty
      · simp [same]

/-- Of two definitions for a field, the one that came last counts. -/
theorem writtenLast_append_singleton (history : List (String × String)) (last : String × String) :
    WrittenLast (history ++ [last]) field definition ↔
      if field = last.1 then definition = last.2 else WrittenLast history field definition := by
  simp only [WrittenLast, append_singleton_eq_append_cons_iff]
  split
  · rename_i same
    subst same
    constructor
    · rintro ⟨early, late, ⟨-, ends, -⟩ | ⟨before, rfl, -⟩, others⟩
      · rw [ends]
      · exact absurd rfl (others last (by simp))
    · rintro rfl
      exact ⟨history, [], .inl ⟨rfl, rfl, rfl⟩, by simp⟩
  · rename_i different
    constructor
    · rintro ⟨early, late, ⟨-, rfl, -⟩ | ⟨before, rfl, rfl⟩, others⟩
      · exact absurd rfl different
      · exact ⟨early, before, rfl, fun entry member => others entry (List.mem_append_left _ member)⟩
    · rintro ⟨early, late, split, others⟩
      refine ⟨early, late ++ [last], .inr ⟨late, rfl, split⟩, ?_⟩
      rw [List.forall_mem_append, List.forall_mem_singleton]
      exact ⟨others, Ne.symm different⟩

theorem exists_writtenLast_iff :
    (∃ definition, WrittenLast history field definition) ↔ ∃ entry ∈ history, entry.1 = field := by
  induction history using List.reverseRecOn with
  | nil => simp [not_writtenLast_nil]
  | append_singleton early last inductionHypothesis =>
      simp only [writtenLast_append_singleton, List.mem_append, List.mem_singleton, or_and_right,
        exists_or, exists_eq_left]
      split
      · rename_i same
        simp [same]
      · rename_i different
        rw [inductionHypothesis]
        simp [Ne.symm different]

theorem writeAll_append (form : Form) (early late : List (String × String)) :
    form.writeAll (early ++ late) = (form.writeAll early).writeAll late :=
  List.foldl_append

/-- Writing one definition more puts it under its field and touches no other field. -/
theorem get?_writeAll_append_singleton (form : Form) (history : List (String × String))
    (last : String × String) (field : String) :
    (form.writeAll (history ++ [last])).get? field =
      if field = last.1 then some last.2 else (form.writeAll history).get? field := by
  rw [writeAll_append]
  exact NameMap.get?_insert _ _ _ _

/-- A field has the definition that was written last for it. -/
theorem get?_written_eq_some_iff :
    (written history).get? field = some definition ↔ WrittenLast history field definition := by
  induction history using List.reverseRecOn with
  | nil => simp [written, writeAll, NameMap.empty, NameMap.get?, not_writtenLast_nil]
  | append_singleton early last inductionHypothesis =>
      rw [written, get?_writeAll_append_singleton, writtenLast_append_singleton]
      split
      · rw [Option.some.injEq, eq_comm]
      · exact inductionHypothesis

theorem get?_written_eq_none_iff :
    (written history).get? field = none ↔ ∀ entry ∈ history, entry.1 ≠ field := by
  have found : (written history).get? field ≠ none ↔ ∃ entry ∈ history, entry.1 = field := by
    rw [Option.ne_none_iff_exists', ← exists_writtenLast_iff]
    exact exists_congr fun definition => get?_written_eq_some_iff
  rw [← not_iff_not, ← ne_eq, found]
  push Not
  rfl

theorem mem_names_written : field ∈ (written history).names ↔ field ∈ history.map (·.1) := by
  have named : field ∈ (written history).names ↔ (written history).get? field ≠ none := by
    simp only [NameMap.names, List.mem_map, Prod.exists, exists_and_right, exists_eq_right,
      ← NameMap.get?_eq_some_iff, Option.ne_none_iff_exists']
  rw [named, ne_eq, get?_written_eq_none_iff]
  simp

/-- A form has as many entries as there are different fields in its history. -/
theorem size_written (history : List (String × String)) :
    (written history).size = (history.map (·.1)).toFinset.card := by
  have distinct : (written history).names.Nodup := by
    apply List.pairwise_map.2
    apply (written history).increasing.imp
    intro first second less same
    exact String.lt_irrefl second.1 (same ▸ less)
  have same : (history.map (·.1)).toFinset = (written history).names.toFinset := by
    ext field
    rw [List.mem_toFinset, List.mem_toFinset, mem_names_written]
  rw [same, List.toFinset_card_of_nodup distinct, NameMap.names, List.length_map]
  rfl

theorem entries_increasing (form : Form) :
    form.entries.Pairwise fun first second => Text.bytes first.1 < Text.bytes second.1 :=
  form.increasing.imp Text.bytes_lt_iff.2

theorem built_eq_written (history : List (String × String)) :
    (history.foldl (fun builder entry => builder.field entry.1 entry.2) FormBuilder.empty).build =
      written history := by
  induction history using List.reverseRecOn with
  | nil => rfl
  | append_singleton early last inductionHypothesis =>
      rw [List.foldl_append, written, writeAll_append, ← written, ← inductionHypothesis]
      rfl

theorem read?_of_spelled {text : String} (spelled : Json.read? text = some (.ofTexts history)) :
    Form.read? text = some (written history) :=
  Form.read?_eq_some_iff.2 ⟨history, spelled, rfl⟩

theorem plain_ofTexts (history : List (String × String)) : (Json.ofTexts history).Plain :=
  .object (List.forall_mem_map.2 fun entry _ => .text entry.2)

/-- A form is the map of the definitions that were written last, however it came about. An entry that is
written replaces the one of its field, which is returned, and no other. The fields are listed once each in the
order of their bytes. A builder, definitions one by one and a JSON object with the same members in the same
order make the same form, and nothing but a JSON object of texts is read as a form. -/
theorem forms_keep_last_definitions (history : List (String × String)) :
    (∀ field definition,
      (written history).get? field = some definition ↔ WrittenLast history field definition) ∧
    (∀ field, (written history).get? field = none ↔ ∀ entry ∈ history, entry.1 ≠ field) ∧
    (∀ field definition,
      ((written history).exchange field definition).1 = (written history).get? field ∧
      ((written history).exchange field definition).2 = written (history ++ [(field, definition)]) ∧
      ∀ other, other ≠ field →
        ((written history).exchange field definition).2.get? other = (written history).get? other) ∧
    (written history).size = (history.map (·.1)).toFinset.card ∧
    (∀ field definition,
      (field, definition) ∈ (written history).entries ↔ WrittenLast history field definition) ∧
    ((written history).entries.Pairwise fun first second => Text.bytes first.1 < Text.bytes second.1) ∧
    (∀ later, (written history).writeAll later = written (history ++ later)) ∧
    (history.foldl (fun builder entry => builder.field entry.1 entry.2) FormBuilder.empty).build =
      written history ∧
    (∀ text, Json.read? text = some (.ofTexts history) → Form.read? text = some (written history)) ∧
    Form.read? (Json.ofTexts history).write = some (written history) ∧
    (∀ text, Form.read? text = none ↔ ∀ members, Json.read? text ≠ some (.ofTexts members)) := by
  refine ⟨fun _ _ => get?_written_eq_some_iff, fun _ => get?_written_eq_none_iff, ?_, size_written history,
    ?_, entries_increasing _, ?_, built_eq_written history, fun _ => read?_of_spelled, ?_,
    fun _ => Form.read?_eq_none_iff⟩
  · intro field definition
    have after : ((written history).exchange field definition).2 =
        written (history ++ [(field, definition)]) :=
      (writeAll_append NameMap.empty history [(field, definition)]).symm
    refine ⟨rfl, after, ?_⟩
    intro other different
    rw [after, written, get?_writeAll_append_singleton, if_neg different]
    rfl
  · intro field definition
    rw [← NameMap.get?_eq_some_iff]
    exact get?_written_eq_some_iff
  · intro later
    exact (writeAll_append NameMap.empty history later).symm
  · exact read?_of_spelled (Json.read?_write (plain_ofTexts history))

/-- Names that the order of sixteen-bit units would list the other way round, one of them written twice, as
members of an object with a repeated name. -/
theorem forms_keep_last_of_repeated_name :
    Json.read? "\x7b\"\\ud83d\\ude00\": \"min:1\", \"\uffff\": \"\", \"😀\": \"max:2\"\x7d" =
      some (.ofTexts [("😀", "min:1"), ("\uffff", ""), ("😀", "max:2")]) ∧
    Form.read? "\x7b\"\\ud83d\\ude00\": \"min:1\", \"\uffff\": \"\", \"😀\": \"max:2\"\x7d" =
      some (written [("😀", "min:1"), ("\uffff", ""), ("😀", "max:2")]) ∧
    (written [("😀", "min:1"), ("\uffff", ""), ("😀", "max:2")]).entries =
      [("\uffff", ""), ("😀", "max:2")] ∧
    "😀" ≠ "\uffff" ∧
    ((written [("😀", "min:1"), ("\uffff", ""), ("😀", "max:2")]).exchange "\uffff" "required").2.get? "😀" =
      some "max:2" := by
  obtain ⟨-, -, exchanged, -, -, -, -, -, readBack, -, -⟩ :=
    forms_keep_last_definitions [("😀", "min:1"), ("\uffff", ""), ("😀", "max:2")]
  have spelled : Json.read? "\x7b\"\\ud83d\\ude00\": \"min:1\", \"\uffff\": \"\", \"😀\": \"max:2\"\x7d" =
      some (.ofTexts [("😀", "min:1"), ("\uffff", ""), ("😀", "max:2")]) := by
    rfl
  have different : "😀" ≠ "\uffff" := by decide
  refine ⟨spelled, readBack _ spelled, by decide +kernel, different, ?_⟩
  rw [(exchanged "\uffff" "required").2.2 "😀" different]
  decide +kernel

end FormRules.Form
