/-
This file shows what is read from the JSON texts of constraints and hints. Each bound is read as a double close to it,
and everything else as it was. Where the label of a constraint stands among the members matters for values that only
say that they are there.
-/

import FormRules.Proofs.JsonForms
import FormRules.Proofs.RereadingRange

namespace FormRules

namespace Json

/-- The double that is read from what is written for a double. -/
def reread (x : Double) : Double :=
  (double? (ofDouble x)).get (Option.isSome_iff_exists.2 (exists_double? x))

theorem double?_ofDouble_eq_reread (x : Double) : double? (ofDouble x) = some (reread x) :=
  (Option.some_get _).symm

theorem negative_reread (x : Double) : (reread x).negative = x.negative :=
  (abs_sub_le_of_double? (double?_ofDouble_eq_reread x)).1

theorem abs_reread_sub_le (x : Double) : |(reread x).value - x.value| ≤ 8 * x.place :=
  (abs_sub_le_of_double? (double?_ofDouble_eq_reread x)).2

theorem reread_of_exactlyWritten {x : Double} (exactly : ExactlyWritten x) : reread x = x := by
  have read := double?_ofDouble_of_exactlyWritten exactly
  rw [double?_ofDouble_eq_reread] at read
  exact Option.some.inj read

theorem plain_ofDouble (x : Double) : Plain (ofDouble x) := by
  apply Plain.number
  exact spellsNumber_write x

theorem plain_ofOption {α : Type} {toJson : α → Json} (plain : ∀ value, Plain (toJson value))
    (value : Option α) : Plain (ofOption toJson value) := by
  cases value with
  | none => exact .null
  | some value => exact plain value

theorem optional?_ofDouble (bound : Option Double) :
    optional? double? (some (ofOption ofDouble bound)) = some (bound.map reread) := by
  cases bound with
  | none => rfl
  | some bound =>
      show (double? (ofDouble bound)).map some = _
      rw [double?_ofDouble_eq_reread]
      rfl

theorem optional?_ofText (text : Option String) : optional? text? (some (ofOption ofText text)) = some text := by
  cases text <;> rfl

section Early

variable {α β : Type} {hollow : Prop} {json : Json}

/-- An object whose only member is an object without members, which can say no more than that it is there. -/
def Hollow (json : Json) : Prop :=
  ∃ name, json = .object [(some name, .object [])]

/-- What is read of a value whose meaning is known is also read before it is known, and the same is read unless the
value is hollow. -/
structure AgreesEarly (hollow : Prop) (read : Bool → Option α) : Prop where
  early : ∀ value, read false = some value → read true = some value
  same : ¬ hollow → read true = read false

theorem AgreesEarly.const (value : Option α) : AgreesEarly hollow fun _ => value :=
  ⟨fun _ read => read, fun _ => rfl⟩

theorem AgreesEarly.map {read : Bool → Option α} (agrees : AgreesEarly hollow read) (f : α → β) :
    AgreesEarly hollow fun early => (read early).map f := by
  constructor
  · intro value late
    obtain ⟨found, foundLate, rfl⟩ := Option.map_eq_some_iff.1 late
    exact Option.map_eq_some_iff.2 ⟨found, agrees.early found foundLate, rfl⟩
  · intro solid
    rw [agrees.same solid]

theorem AgreesEarly.mono {read : Bool → Option α} {other : Prop} (agrees : AgreesEarly other read)
    (imp : other → hollow) : AgreesEarly hollow read :=
  ⟨agrees.early, fun solid => agrees.same (mt imp solid)⟩

theorem isUnit_iff {early : Bool} : isUnit early json = true ↔ json = .null ∨ early = true ∧ json = .object [] := by
  unfold isUnit
  split
  · simp
  · simp
  · rename_i notNull notEmpty
    refine iff_of_false Bool.false_ne_true ?_
    rintro (null | ⟨-, empty⟩)
    · exact notNull null
    · exact notEmpty empty

theorem agreesEarly_unit (value : Option α) :
    AgreesEarly (json = .object []) fun early => if isUnit early json then value else none := by
  constructor
  · intro found late
    by_cases null : json = .null
    · subst null
      exact late
    · rw [if_neg (by simp [isUnit_iff, null])] at late
      cases late
  · intro solid
    have unit : isUnit true json = isUnit false json := by
      rw [Bool.eq_iff_iff, isUnit_iff, isUnit_iff]
      simp [solid]
    rw [unit]

theorem agreesEarly_choice (choices : List (String × α)) :
    AgreesEarly (Hollow json) fun early => choice? early choices json := by
  unfold choice?
  split
  · exact .const _
  · exact (agreesEarly_unit _).mono fun empty => ⟨_, by rw [empty]⟩
  · exact .const _

end Early

end Json

open Json (reread decode? Hollow AgreesEarly ofMembers ofText)

namespace Constraint

/-- The constraint with its bound changed, if it has one. -/
def mapBound (f : Double → Double) : Constraint → Constraint
  | .min bound => .min (f bound)
  | .max bound => .max (f bound)
  | .minLength bound => .minLength (f bound)
  | .maxLength bound => .maxLength (f bound)
  | constraint => constraint

theorem plain_operand (constraint : Constraint) : ∀ operand ∈ constraint.operand, operand.Plain := by
  intro operand given
  cases constraint <;> cases given
  · exact .text _
  · exact Json.plain_ofDouble _
  · exact Json.plain_ofDouble _
  · exact Json.plain_ofDouble _
  · exact Json.plain_ofDouble _
  · exact .text _

theorem plain_toJson (constraint : Constraint) : constraint.toJson.Plain := by
  apply Json.Plain.object
  rw [List.forall_mem_cons]
  refine ⟨.text _, ?_⟩
  simpa using constraint.plain_operand

theorem kind_ofJson?_toJson (early : Bool) (kind : Kind) : Kind.ofJson? early kind.toJson = some kind := by
  cases kind <;> rfl

/-- The operand is read with its bound read anew, whether the label is known or not. -/
theorem ofParts?_operand (early : Bool) (constraint : Constraint) :
    ofParts? early (ofText constraint.label) constraint.operand = some (constraint.mapBound reread) := by
  unfold ofParts? Json.choice? labels ofText
  cases constraint with
  | required => rfl
  | type kind => simp [label, operand, mapBound, kind_ofJson?_toJson]
  | min bound => simp [label, operand, mapBound, Json.double?_ofDouble_eq_reread]
  | max bound => simp [label, operand, mapBound, Json.double?_ofDouble_eq_reread]
  | minLength bound => simp [label, operand, mapBound, Json.double?_ofDouble_eq_reread]
  | maxLength bound => simp [label, operand, mapBound, Json.double?_ofDouble_eq_reread]
  | pattern text => simp [label, operand, mapBound, ofText, Json.text?]

/-- How an operand is read hardly depends on whether the label is known. -/
theorem agreesEarly_labels {name : String} {reader : Bool → Option Json → Option Constraint}
    (listed : (name, reader) ∈ labels) (operand : Json) :
    AgreesEarly (Hollow operand) fun early => reader early (some operand) := by
  simp only [labels, List.mem_cons, List.not_mem_nil, or_false, Prod.mk.injEq] at listed
  obtain ⟨-, rfl⟩ | ⟨-, rfl⟩ | ⟨-, rfl⟩ | ⟨-, rfl⟩ | ⟨-, rfl⟩ | ⟨-, rfl⟩ | ⟨-, rfl⟩ := listed
  · exact .const _
  · exact (Json.agreesEarly_choice _).map _
  · exact .const _
  · exact .const _
  · exact .const _
  · exact .const _
  · exact .const _

theorem mem_of_choice? {α : Type} {early : Bool} {choices : List (String × α)} {json : Json} {value : α}
    (chosen : Json.choice? early choices json = some value) : ∃ name, (name, value) ∈ choices := by
  have named : ∀ name, (choices.find? fun choice => choice.1 == name).map (·.2) = some value →
      ∃ name, (name, value) ∈ choices := by
    intro name found
    obtain ⟨choice, first, rfl⟩ := Option.map_eq_some_iff.1 found
    exact ⟨choice.1, List.mem_of_find?_eq_some first⟩
  unfold Json.choice? at chosen
  split at chosen
  · exact named _ chosen
  · split at chosen
    · exact named _ chosen
    · cases chosen
  · cases chosen

theorem agreesEarly_ofParts? (label operand : Json) :
    AgreesEarly (Hollow operand) fun early => ofParts? early label (some operand) := by
  unfold ofParts?
  cases chosen : Json.choice? false labels label with
  | none => exact .const none
  | some reader =>
      obtain ⟨name, listed⟩ := mem_of_choice? chosen
      exact agreesEarly_labels listed operand

section Orders

variable {members : List (String × Json)} {label operand : Json}

/-- The members of an object that make up a constraint, in their order. -/
def parts (members : List (String × Json)) : List (String × Json) :=
  members.filter fun member => member.1 == "kind" || member.1 == "expectation"

theorem ofJson?_ofMembers (members : List (String × Json)) :
    ofJson? (ofMembers members) = match parts members with
      | [("kind", label)] => ofParts? false label none
      | [("kind", label), ("expectation", operand)] => ofParts? false label (some operand)
      | [("expectation", operand), ("kind", label)] => ofParts? true label (some operand)
      | _ => none := by
  have named : Json.namedMembers? (members.map fun member => (some member.1, member.2)) = some members :=
    Json.namedMembers?_eq_some_iff.2 rfl
  rw [ofMembers, ofJson?, named]
  rfl

/-- A constraint that is read is also read if its operand comes before its label, and nothing else is read there
unless the operand is hollow. -/
theorem ofJson?_swap {first second : List (String × Json)}
    (labelFirst : parts first = [("kind", label), ("expectation", operand)])
    (operandFirst : parts second = [("expectation", operand), ("kind", label)]) :
    (∀ constraint, ofJson? (ofMembers first) = some constraint → ofJson? (ofMembers second) = some constraint) ∧
    (¬ Hollow operand → ofJson? (ofMembers second) = ofJson? (ofMembers first)) := by
  obtain ⟨early, same⟩ := agreesEarly_ofParts? label operand
  rw [ofJson?_ofMembers, ofJson?_ofMembers, labelFirst, operandFirst]
  exact ⟨early, same⟩

end Orders

/-- A constraint is read from its JSON form with its bound read anew. -/
theorem ofJson?_toJson (constraint : Constraint) :
    ofJson? constraint.toJson = some (constraint.mapBound reread) := by
  have read := constraint.ofParts?_operand false
  cases given : constraint.operand with
  | none =>
      rw [given] at read
      rw [toJson, given, ofJson?_ofMembers]
      simpa [parts] using read
  | some operand =>
      rw [given] at read
      rw [toJson, given, ofJson?_ofMembers]
      simpa [parts] using read

/-- The form of a constraint with its operand first, if it has one. -/
def swapped (constraint : Constraint) : Json :=
  ofMembers (constraint.operand.toList.map (fun operand => ("expectation", operand)) ++
    [("kind", ofText constraint.label)])

theorem plain_swapped (constraint : Constraint) : constraint.swapped.Plain := by
  apply Json.Plain.object
  rw [List.forall_mem_append, List.forall_mem_singleton]
  refine ⟨?_, .text _⟩
  simpa using constraint.plain_operand

theorem ofJson?_swapped (constraint : Constraint) :
    ofJson? constraint.swapped = some (constraint.mapBound reread) := by
  have late := constraint.ofParts?_operand false
  have early := constraint.ofParts?_operand true
  cases given : constraint.operand with
  | none =>
      rw [given] at late
      rw [swapped, given, ofJson?_ofMembers]
      simpa [parts] using late
  | some operand =>
      rw [given] at early
      rw [swapped, given, ofJson?_ofMembers]
      simpa [parts] using early

end Constraint

namespace Hints

/-- The hints with their bounds changed. Those that are absent stay so. -/
def mapBounds (f : Double → Double) (hints : Hints) : Hints :=
  { hints with
    min := hints.min.map f
    max := hints.max.map f
    minLength := hints.minLength.map f
    maxLength := hints.maxLength.map f }

theorem plain_toJson (hints : Hints) : hints.toJson.Plain := by
  apply Json.Plain.object
  have bound := Json.plain_ofOption Json.plain_ofDouble
  simp only [List.forall_mem_cons, List.not_mem_nil, false_implies, implies_true, and_true]
  exact ⟨.text _, .bool _, bound _, bound _, bound _, bound _, Json.plain_ofOption .text _⟩

theorem ofJson?_control (control : Control) : Control.ofJson? control.toJson = some control := by
  cases control <;> rfl

/-- Hints are read with their bounds read anew. -/
theorem ofJson?_toJson (hints : Hints) : ofJson? hints.toJson = some (hints.mapBounds reread) := by
  have recorded : Json.record? ["inputType", "required", "min", "max", "minLength", "maxLength", "pattern"] 7
      hints.toJson = some [some hints.control.toJson, some (.bool hints.required),
        some (Json.ofOption Json.ofDouble hints.min), some (Json.ofOption Json.ofDouble hints.max),
        some (Json.ofOption Json.ofDouble hints.minLength), some (Json.ofOption Json.ofDouble hints.maxLength),
        some (Json.ofOption ofText hints.pattern)] := rfl
  rw [ofJson?, recorded]
  simp only [ofJson?_control, Json.bool?, Json.optional?_ofDouble, Json.optional?_ofText, Option.bind_eq_bind,
    Option.bind_some]
  rfl

end Hints

/-- Constraints and hints are read back from what is written for them but for their bounds, each of which is read as a
double of the same sign that is at most eight last places away, and as the bound itself if only the last step of
reading it can round, as for zero. A constraint that is read with its label first is also read with its operand first,
and nothing else is read there unless the operand is hollow. -/
theorem bounds_are_read_closely :
    (∀ constraint : Constraint,
      decode? Constraint.ofJson? constraint.toJson.write = some (constraint.mapBound reread)) ∧
    (∀ constraint : Constraint,
      decode? Constraint.ofJson? constraint.swapped.write = some (constraint.mapBound reread)) ∧
    (∀ hints : Hints, decode? Hints.ofJson? hints.toJson.write = some (hints.mapBounds reread)) ∧
    (∀ x : Double, (reread x).negative = x.negative ∧ |(reread x).value - x.value| ≤ 8 * x.place ∧
      (Json.ExactlyWritten x → reread x = x) ∧ (x.isZero = true → Json.ExactlyWritten x)) ∧
    (∀ text other first second label operand,
      Json.read? text = some (ofMembers first) →
      Json.read? other = some (ofMembers second) →
      Constraint.parts first = [("kind", label), ("expectation", operand)] →
      Constraint.parts second = [("expectation", operand), ("kind", label)] →
      (∀ constraint, decode? Constraint.ofJson? text = some constraint →
        decode? Constraint.ofJson? other = some constraint) ∧
      (¬ Hollow operand → decode? Constraint.ofJson? other = decode? Constraint.ofJson? text)) := by
  refine ⟨?_, ?_, ?_, ?_, ?_⟩
  · intro constraint
    rw [decode?, Json.read?_write constraint.plain_toJson]
    exact constraint.ofJson?_toJson
  · intro constraint
    rw [decode?, Json.read?_write constraint.plain_swapped]
    exact constraint.ofJson?_swapped
  · intro hints
    rw [decode?, Json.read?_write hints.plain_toJson]
    exact hints.ofJson?_toJson
  · intro x
    refine ⟨Json.negative_reread x, Json.abs_reread_sub_le x, Json.reread_of_exactlyWritten, ?_⟩
    intro zero
    exact Json.exactlyWritten_of_zero (by simpa [Binary.isZero] using zero)
  · intro text other first second label operand read otherRead labelFirst operandFirst
    rw [decode?, decode?, read, otherRead]
    exact Constraint.ofJson?_swap labelFirst operandFirst

/-- A bound of a tenth, and a constraint in both orders with another member in one of them. -/
theorem tenth_is_read_exactly :
    (Json.ExactlyWritten ⟨false, 7205759403792794, 1018, by decide, by decide, by decide⟩ ∧
      reread ⟨false, 7205759403792794, 1018, by decide, by decide, by decide⟩ =
        ⟨false, 7205759403792794, 1018, by decide, by decide, by decide⟩) ∧
    decode? Constraint.ofJson? "\x7b\"kind\":\"type\",\"expectation\":\"double\"\x7d" = some (.type .double) ∧
    decode? Constraint.ofJson? "\x7b\"expectation\":\"double\",\"more\":[],\"kind\":\"type\"\x7d" =
      some (.type .double) ∧
    decode? Constraint.ofJson? "\x7b\"expectation\":\"double\",\"more\":[],\"kind\":\"type\"\x7d" =
      decode? Constraint.ofJson? "\x7b\"kind\":\"type\",\"expectation\":\"double\"\x7d" := by
  obtain ⟨-, -, -, numbers, orders⟩ := bounds_are_read_closely
  have exactly : Json.ExactlyWritten ⟨false, 7205759403792794, 1018, by decide, by decide, by decide⟩ :=
    Json.exactlyWritten_of_few (by decide +kernel) (by decide +kernel)
  have read : decode? Constraint.ofJson? "\x7b\"kind\":\"type\",\"expectation\":\"double\"\x7d" =
      some (.type .double) := by decide +kernel
  obtain ⟨early, same⟩ := orders "\x7b\"kind\":\"type\",\"expectation\":\"double\"\x7d"
    "\x7b\"expectation\":\"double\",\"more\":[],\"kind\":\"type\"\x7d"
    [("kind", ofText "type"), ("expectation", ofText "double")]
    [("expectation", ofText "double"), ("more", .array []), ("kind", ofText "type")]
    (ofText "type") (ofText "double") rfl rfl rfl rfl
  refine ⟨⟨exactly, (numbers _).2.2.1 exactly⟩, read, early _ read, same ?_⟩
  rintro ⟨name, one⟩
  cases one

/-- A whole bound with sixteen digits is not read back, because its digits with the zero after them are rounded. A kind
that is the name of an empty object is read only where it comes first. -/
theorem whole_bound_is_not_read_back :
    decode? Constraint.ofJson?
        (Constraint.min ⟨false, 8000000000000001, 1074, by decide, by decide, by decide⟩).toJson.write =
      some (.min ⟨false, 8000000000000002, 1074, by decide, by decide, by decide⟩) ∧
    (¬ ∀ constraint : Constraint, decode? Constraint.ofJson? constraint.toJson.write = some constraint) ∧
    decode? Constraint.ofJson? "\x7b\"expectation\":\x7b\"double\":\x7b\x7d\x7d,\"kind\":\"type\"\x7d" =
      some (.type .double) ∧
    decode? Constraint.ofJson? "\x7b\"kind\":\"type\",\"expectation\":\x7b\"double\":\x7b\x7d\x7d\x7d" = none := by
  have changed : decode? Constraint.ofJson?
      (Constraint.min ⟨false, 8000000000000001, 1074, by decide, by decide, by decide⟩).toJson.write =
        some (.min ⟨false, 8000000000000002, 1074, by decide, by decide, by decide⟩) := by decide +kernel
  refine ⟨changed, ?_, by decide +kernel, by decide +kernel⟩
  intro readBack
  rw [readBack] at changed
  cases changed

end FormRules
