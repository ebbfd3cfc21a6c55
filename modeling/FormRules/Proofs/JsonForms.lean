/-
This file shows that clauses, sets of clauses and forms are read back from their JSON texts, and which texts
are read as them. What is written for a text that is read is written again when it is read itself.
-/

import FormRules.Proofs.FirstOccurrences
import FormRules.Proofs.JsonText
import FormRules.Proofs.Loading
import FormRules.Proofs.OrderedMap

namespace FormRules

namespace Json

/-- The value that a text describes. -/
def decode? {α : Type} (ofJson? : Json → Option α) (text : String) : Option α :=
  (read? text).bind ofJson?

/-- The text that is written for the value that a text describes. -/
def rewrite? {α : Type} (ofJson? : Json → Option α) (toJson : α → Json) (text : String) : Option String :=
  (decode? ofJson? text).map fun value => (toJson value).write

/-- How an expectation is spelled. One that is missing or null is absent, an empty text is not. -/
inductive SpellsExpectation : Option Json → Option String → Prop
  | missing : SpellsExpectation none none
  | null : SpellsExpectation (some .null) none
  | text (text : String) : SpellsExpectation (some (.ofText text)) (some text)

/-- How a clause is spelled: as an object with one name and at most one expectation among its members, or as
the array of the name and the expectation, which may be missing. -/
inductive SpellsClause : Json → Clause → Prop
  | object {members : List (String × Json)} {name : String} {given : Option Json}
      {expectation : Option String}
      (named : members.filter (fun member => member.1 == "ruleName") = [("ruleName", .ofText name)])
      (found : members.filter (fun member => member.1 == "expectation") =
        given.toList.map fun value => ("expectation", value))
      (expects : SpellsExpectation given expectation) :
      SpellsClause (.ofMembers members) ⟨name, expectation⟩
  | array {name : String} {given : Option Json} {expectation : Option String}
      (expects : SpellsExpectation given expectation) :
      SpellsClause (.array (.ofText name :: given.toList)) ⟨name, expectation⟩

variable {α : Type} {ofJson? : Json → Option α} {toJson : α → Json}

theorem decode?_eq_some_iff {text : String} {value : α} :
    decode? ofJson? text = some value ↔ ∃ json, read? text = some json ∧ ofJson? json = some value :=
  Option.bind_eq_some_iff

/-- A value is read from the text that is written for it if it is read from its JSON form. -/
theorem decode?_write (plain : ∀ value, Plain (toJson value))
    (undoes : ∀ value, ofJson? (toJson value) = some value) (value : α) :
    decode? ofJson? (toJson value).write = some value := by
  rw [decode?, read?_write (plain value)]
  exact undoes value

/-- What has been written once is written again. -/
theorem rewrite?_of_rewrite? (readBack : ∀ value, decode? ofJson? (toJson value).write = some value)
    {text written : String} (rewritten : rewrite? ofJson? toJson text = some written) :
    rewrite? ofJson? toJson written = some written := by
  obtain ⟨value, -, rfl⟩ := Option.map_eq_some_iff.1 rewritten
  rw [rewrite?, readBack]
  rfl

theorem optional?_text?_eq_some_iff {given : Option Json} {expectation : Option String} :
    optional? text? given = some expectation ↔ SpellsExpectation given expectation := by
  constructor
  · intro read
    cases given with
    | none =>
        cases read
        exact .missing
    | some json =>
        cases json with
        | null =>
            cases read
            exact .null
        | string text =>
            obtain ⟨text, rfl, rfl⟩ := Option.map_eq_some_iff.1 read
            exact .text text
        | _ => cases read
  · intro spelled
    cases spelled with
    | missing => rfl
    | null => rfl
    | text text => rfl

theorem member?_eq_some_iff {members : List (String × Json)} {name : String} {given : Option Json} :
    member? members name = some given ↔
      members.filter (fun member => member.1 == name) = given.toList.map fun value => (name, value) := by
  unfold member?
  split
  · rename_i none
    rw [none]
    cases given <;> simp
  · rename_i member one
    have same : member.1 = name := by
      have kept : member ∈ members.filter fun member => member.1 == name := by
        rw [one]
        exact List.mem_singleton_self member
      simpa using (List.mem_filter.1 kept).2
    rw [one, ← same]
    cases given <;> simp [Prod.ext_iff]
  · rename_i notNone notOne
    constructor
    · intro refused
      cases refused
    · intro alone
      cases given with
      | none => exact absurd alone notNone
      | some value => exact absurd alone (notOne _)

/-- The two members of a record: of an object each of them alone, of an array in their order. -/
theorem record?_pair_eq_some_iff {json first : Json} {given : Option Json} {one other : String} :
    record? [one, other] 1 json = some [some first, given] ↔
      (∃ members, json = .ofMembers members ∧
        members.filter (fun member => member.1 == one) = [(one, first)] ∧
        members.filter (fun member => member.1 == other) = given.toList.map fun value => (other, value)) ∨
      json = .array (first :: given.toList) := by
  constructor
  · intro recorded
    cases json with
    | object members =>
        simp only [record?, List.mapM_cons, List.mapM_nil, Option.bind_eq_bind, Option.bind_eq_some_iff,
          Option.pure_def, Option.some.injEq, exists_eq_left', namedMembers?_eq_some_iff,
          member?_eq_some_iff] at recorded
        obtain ⟨members, rfl, firstGiven, firstFound, rest, ⟨otherGiven, otherFound, rfl⟩, same⟩ := recorded
        cases same
        exact .inl ⟨members, rfl, firstFound, otherFound⟩
    | array items =>
        right
        match items with
        | [] => cases recorded
        | [_] =>
            cases recorded
            rfl
        | [_, _] =>
            cases recorded
            rfl
        | _ :: _ :: _ :: rest =>
            simp [record?] at recorded
    | _ => cases recorded
  · rintro (⟨members, rfl, firstFound, otherFound⟩ | rfl)
    · have named : namedMembers? (members.map fun member => (some member.1, member.2)) = some members :=
        namedMembers?_eq_some_iff.2 rfl
      have firstMember : member? members one = some (some first) := member?_eq_some_iff.2 firstFound
      have otherMember : member? members other = some given := member?_eq_some_iff.2 otherFound
      simp [ofMembers, record?, named, firstMember, otherMember]
    · cases given <;> rfl

end Json

open Json (SpellsClause SpellsExpectation record?)

/-- A clause is read from its spellings, and from nothing else. -/
theorem Clause.ofJson?_eq_some_iff {json : Json} {clause : Clause} :
    Clause.ofJson? json = some clause ↔ SpellsClause json clause := by
  have recorded : Clause.ofJson? json = some clause ↔ ∃ given,
      record? ["ruleName", "expectation"] 1 json = some [some (.ofText clause.name), given] ∧
        SpellsExpectation given clause.expectation := by
    unfold Clause.ofJson?
    constructor
    · intro read
      split at read
      · rename_i name given found
        simp only [Option.bind_eq_bind, Option.bind_eq_some_iff] at read
        obtain ⟨named, nameRead, expectation, expects, made⟩ := read
        cases made
        rw [found, Json.text?_eq_some_iff.1 nameRead]
        exact ⟨given, rfl, Json.optional?_text?_eq_some_iff.1 expects⟩
      · cases read
    · rintro ⟨given, found, expects⟩
      rw [found]
      simp [Json.text?, Json.ofText, Json.optional?_text?_eq_some_iff.2 expects]
  rw [recorded]
  simp only [Json.record?_pair_eq_some_iff]
  constructor
  · rintro ⟨given, ⟨members, rfl, named, found⟩ | rfl, expects⟩
    · exact .object named found expects
    · exact .array expects
  · intro spelled
    cases spelled with
    | object named found expects => exact ⟨_, .inl ⟨_, rfl, named, found⟩, expects⟩
    | array expects => exact ⟨_, .inr rfl, expects⟩

/-- The form that is written for a clause spells it. -/
theorem Clause.spellsClause_toJson (clause : Clause) : SpellsClause clause.toJson clause := by
  cases clause with
  | mk name expectation =>
      cases expectation with
      | none => exact .object rfl rfl .null
      | some text => exact .object rfl rfl (.text text)

theorem Clause.plain_toJson (clause : Clause) : clause.toJson.Plain := by
  apply Json.Plain.object
  simp only [List.forall_mem_cons, List.not_mem_nil, false_implies, implies_true, and_true]
  refine ⟨.text _, ?_⟩
  cases clause.expectation with
  | none => exact .null
  | some text => exact .text text

/-- A set is read from an array of clauses, whose repetitions are dropped. -/
theorem ClauseSet.ofJson?_eq_some_iff {json : Json} {set : ClauseSet} :
    ClauseSet.ofJson? json = some set ↔
      ∃ items clauses, json = .array items ∧ List.Forall₂ SpellsClause items clauses ∧
        ofList clauses = set := by
  cases json with
  | array items =>
      simp only [ofJson?, Option.map_eq_some_iff, mapM_eq_some_iff, Clause.ofJson?_eq_some_iff,
        Json.array.injEq, exists_and_left, exists_eq_left']
  | _ => simp [ofJson?]

theorem ClauseSet.ofJson?_toJson (set : ClauseSet) : ClauseSet.ofJson? set.toJson = some set := by
  refine ofJson?_eq_some_iff.2 ⟨_, set.clauses, rfl, ?_, ofList_clauses set⟩
  apply List.forall₂_map_left_iff.2
  exact List.forall₂_same.2 fun clause _ => clause.spellsClause_toJson

theorem ClauseSet.plain_toJson (set : ClauseSet) : set.toJson.Plain :=
  .array (List.forall_mem_map.2 fun clause _ => clause.plain_toJson)

theorem Form.ofJson?_toJson (form : Form) : NameMap.ofJson? form.toJson = some form :=
  NameMap.ofJson?_eq_some_iff.2 ⟨form.entries, rfl, NameMap.ofList_entries form⟩

theorem Form.plain_toJson (form : Form) : form.toJson.Plain :=
  .object (List.forall_mem_map.2 fun entry _ => .text entry.2)

open Json (decode? rewrite?)

theorem Clause.decode?_write (clause : Clause) : decode? Clause.ofJson? clause.toJson.write = some clause :=
  Json.decode?_write Clause.plain_toJson (fun clause => ofJson?_eq_some_iff.2 clause.spellsClause_toJson)
    clause

theorem ClauseSet.decode?_write (set : ClauseSet) : decode? ClauseSet.ofJson? set.toJson.write = some set :=
  Json.decode?_write ClauseSet.plain_toJson ofJson?_toJson set

theorem Form.read?_write (form : Form) : Form.read? form.toJson.write = some form :=
  Json.decode?_write Form.plain_toJson ofJson?_toJson form

/-- Clauses, sets and forms are read back from what is written for them, whatever characters their texts have.
A clause is read from its spellings alone, and a set from any array of clauses, of which each counts where it
first occurs. What is written for a text that is read stays the same when it is read and written again. -/
theorem written_forms_are_read_back :
    (∀ clause : Clause, decode? Clause.ofJson? clause.toJson.write = some clause) ∧
    (∀ set : ClauseSet, decode? ClauseSet.ofJson? set.toJson.write = some set) ∧
    (∀ form : Form, Form.read? form.toJson.write = some form) ∧
    (∀ text clause, decode? Clause.ofJson? text = some clause ↔
      ∃ json, Json.read? text = some json ∧ SpellsClause json clause) ∧
    (∀ text set, decode? ClauseSet.ofJson? text = some set ↔
      ∃ items clauses, Json.read? text = some (.array items) ∧ List.Forall₂ SpellsClause items clauses ∧
        set = ClauseSet.ofList clauses) ∧
    (∀ clauses, (ClauseSet.ofList clauses).toJson.write =
      (Json.array (clauses.eraseDups.map Clause.toJson)).write) ∧
    (∀ text written, rewrite? Clause.ofJson? Clause.toJson text = some written →
      rewrite? Clause.ofJson? Clause.toJson written = some written) ∧
    (∀ text written, rewrite? ClauseSet.ofJson? ClauseSet.toJson text = some written →
      rewrite? ClauseSet.ofJson? ClauseSet.toJson written = some written) ∧
    (∀ text written, rewrite? NameMap.ofJson? Form.toJson text = some written →
      rewrite? NameMap.ofJson? Form.toJson written = some written) := by
  refine ⟨Clause.decode?_write, ClauseSet.decode?_write, Form.read?_write, ?_, ?_, ?_, ?_, ?_, ?_⟩
  · intro text clause
    simp only [Json.decode?_eq_some_iff, Clause.ofJson?_eq_some_iff]
  · intro text set
    simp only [Json.decode?_eq_some_iff, ClauseSet.ofJson?_eq_some_iff]
    constructor
    · rintro ⟨json, read, items, clauses, rfl, spelled, rfl⟩
      exact ⟨items, clauses, read, spelled, rfl⟩
    · rintro ⟨items, clauses, read, spelled, rfl⟩
      exact ⟨_, read, items, clauses, rfl, spelled, rfl⟩
  · intro clauses
    rw [ClauseSet.toJson, ClauseSet.clauses_ofList]
  · intro text written
    exact Json.rewrite?_of_rewrite? Clause.decode?_write
  · intro text written
    exact Json.rewrite?_of_rewrite? ClauseSet.decode?_write
  · intro text written
    exact Json.rewrite?_of_rewrite? Form.read?_write

/-- A clause with a null character and no expectation, a set with a repetition and an empty expectation, and a
form with a repeated name and names out of order. -/
theorem written_forms_of_other_spellings :
    (rewrite? Clause.ofJson? Clause.toJson "[\"a\\u0000\"]" =
        some "\x7b\"ruleName\":\"a\\u0000\",\"expectation\":null\x7d" ∧
      rewrite? Clause.ofJson? Clause.toJson "\x7b\"ruleName\":\"a\\u0000\",\"expectation\":null\x7d" =
        some "\x7b\"ruleName\":\"a\\u0000\",\"expectation\":null\x7d") ∧
    (rewrite? ClauseSet.ofJson? ClauseSet.toJson
        "[[\"b\"], \x7b\"expectation\":\"\",\"ruleName\":\"b\"\x7d, \x7b\"ruleName\":\"b\",\"more\":[]\x7d]" =
        some ("[\x7b\"ruleName\":\"b\",\"expectation\":null\x7d" ++
          ",\x7b\"ruleName\":\"b\",\"expectation\":\"\"\x7d]") ∧
      rewrite? ClauseSet.ofJson? ClauseSet.toJson ("[\x7b\"ruleName\":\"b\",\"expectation\":null\x7d" ++
          ",\x7b\"ruleName\":\"b\",\"expectation\":\"\"\x7d]") =
        some ("[\x7b\"ruleName\":\"b\",\"expectation\":null\x7d" ++
          ",\x7b\"ruleName\":\"b\",\"expectation\":\"\"\x7d]")) ∧
    (rewrite? NameMap.ofJson? Form.toJson "\x7b\"d\":\"\",\"c\":\"min:1\",\"d\":\"\\ud83d\\ude00\"\x7d" =
        some "\x7b\"c\":\"min:1\",\"d\":\"😀\"\x7d" ∧
      rewrite? NameMap.ofJson? Form.toJson "\x7b\"c\":\"min:1\",\"d\":\"😀\"\x7d" =
        some "\x7b\"c\":\"min:1\",\"d\":\"😀\"\x7d") := by
  obtain ⟨-, -, -, -, -, -, clauses, sets, forms⟩ := written_forms_are_read_back
  have clause : rewrite? Clause.ofJson? Clause.toJson "[\"a\\u0000\"]" =
      some "\x7b\"ruleName\":\"a\\u0000\",\"expectation\":null\x7d" := by
    decide +kernel
  have set : rewrite? ClauseSet.ofJson? ClauseSet.toJson
      "[[\"b\"], \x7b\"expectation\":\"\",\"ruleName\":\"b\"\x7d, \x7b\"ruleName\":\"b\",\"more\":[]\x7d]" =
        some ("[\x7b\"ruleName\":\"b\",\"expectation\":null\x7d" ++
          ",\x7b\"ruleName\":\"b\",\"expectation\":\"\"\x7d]") := by
    decide +kernel
  have form : rewrite? NameMap.ofJson? Form.toJson
      "\x7b\"d\":\"\",\"c\":\"min:1\",\"d\":\"\\ud83d\\ude00\"\x7d" =
        some "\x7b\"c\":\"min:1\",\"d\":\"😀\"\x7d" := by
    decide +kernel
  exact ⟨⟨clause, clauses _ _ clause⟩, ⟨set, sets _ _ set⟩, form, forms _ _ form⟩

end FormRules
