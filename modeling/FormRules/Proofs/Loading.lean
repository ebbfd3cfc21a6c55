/-
This file says which files hold texts by name: those in UTF-8 that spell a JSON object of texts. What keeps
texts from being loaded from a file is that it cannot be read, that it is not in UTF-8 or that it spells
something else.
-/

import FormRules.Command
import FormRules.Proofs.FirstError

namespace FormRules

/-- The JSON object whose members are texts. -/
def Json.ofTexts (pairs : List (String × String)) : Json :=
  .ofMembers (pairs.map fun pair => (pair.1, .ofText pair.2))

/-- A traversal with a function that undoes another one finds what the other one was applied to. -/
theorem mapM_eq_some_iff_eq_map {α β : Type} {f : α → Option β} {g : β → α}
    (undoes : ∀ item result, f item = some result ↔ item = g result) {items : List α} {results : List β} :
    items.mapM f = some results ↔ items = results.map g := by
  simp only [mapM_eq_some_iff, undoes]
  rw [← List.forall₂_map_right_iff, List.forall₂_eq_eq_eq]

theorem Json.namedMembers?_eq_some_iff {members : List (Option String × Json)}
    {named : List (String × Json)} :
    namedMembers? members = some named ↔ members = named.map fun member => (some member.1, member.2) := by
  apply mapM_eq_some_iff_eq_map
  intro member named
  obtain ⟨name, value⟩ := member
  cases name <;> simp [Prod.ext_iff, eq_comm]

theorem Json.text?_eq_some_iff {json : Json} {text : String} : json.text? = some text ↔ json = .ofText text := by
  cases json <;> simp [text?, ofText]

/-- Texts by name are read from objects of texts. Of equal names the last one counts. -/
theorem NameMap.ofJson?_eq_some_iff {json : Json} {map : NameMap String} :
    NameMap.ofJson? json = some map ↔ ∃ pairs, json = .ofTexts pairs ∧ NameMap.ofList pairs = map := by
  have texts : ∀ {named : List (String × Json)} {pairs : List (String × String)},
      named.mapM (fun member => member.2.text?.map fun text => (member.1, text)) = some pairs ↔
        named = pairs.map fun pair => (pair.1, Json.ofText pair.2) := by
    intro named pairs
    apply mapM_eq_some_iff_eq_map
    intro member pair
    simp only [Option.map_eq_some_iff, Json.text?_eq_some_iff, Prod.ext_iff]
    constructor
    · intro found
      obtain ⟨text, value, name, same⟩ := found
      exact ⟨name, same ▸ value⟩
    · intro same
      exact ⟨pair.2, same.2, same.1, rfl⟩
  cases json with
  | object members =>
      simp only [NameMap.ofJson?, Option.bind_eq_bind, Option.bind_eq_some_iff,
        Json.namedMembers?_eq_some_iff, texts, Option.some.injEq]
      constructor
      · intro found
        obtain ⟨named, rfl, pairs, rfl, rfl⟩ := found
        exact ⟨pairs, rfl, rfl⟩
      · intro spelled
        obtain ⟨pairs, same, rfl⟩ := spelled
        exact ⟨_, Json.object.inj same, pairs, rfl, rfl⟩
  | _ => simp [NameMap.ofJson?, Json.ofTexts, Json.ofMembers]

theorem fromUTF8?_eq_some_iff {bytes : ByteArray} {text : String} :
    String.fromUTF8? bytes = some text ↔ text.toUTF8 = bytes := by
  unfold String.fromUTF8?
  constructor
  · intro decoded
    split at decoded
    · cases decoded
      rfl
    · cases decoded
  · rintro rfl
    exact dif_pos text.isValidUTF8

theorem Form.read?_eq_some_iff {text : String} {map : NameMap String} :
    Form.read? text = some map ↔
      ∃ pairs, Json.read? text = some (.ofTexts pairs) ∧ NameMap.ofList pairs = map := by
  rw [Form.read?, Option.bind_eq_some_iff]
  simp only [NameMap.ofJson?_eq_some_iff]
  constructor
  · intro found
    obtain ⟨json, spelled, pairs, rfl, same⟩ := found
    exact ⟨pairs, spelled, same⟩
  · intro found
    obtain ⟨pairs, spelled, same⟩ := found
    exact ⟨_, spelled, pairs, rfl, same⟩

theorem Form.read?_eq_none_iff {text : String} :
    Form.read? text = none ↔ ∀ pairs, Json.read? text ≠ some (.ofTexts pairs) := by
  rw [Option.eq_none_iff_forall_ne_some]
  simp only [ne_eq, Form.read?_eq_some_iff]
  constructor
  · intro none pairs spelled
    exact none _ ⟨pairs, spelled, rfl⟩
  · intro other map found
    obtain ⟨pairs, spelled, _⟩ := found
    exact other pairs spelled

namespace Command

/-- The file is in UTF-8 and spells a JSON object of texts. The map has them by name, the last one of each. -/
def Holds (contents : Contents) (map : NameMap String) : Prop :=
  ∃ (text : String) (pairs : List (String × String)), contents = .ok text.toUTF8 ∧
    Json.read? text = some (.ofTexts pairs) ∧ NameMap.ofList pairs = map

/-- Why no texts can be loaded from a file. -/
inductive Unloadable [Json.Diagnostics] (contents : Contents) : Failure → Prop
  | unreadable {error : ReadError} (refused : contents = .error error) : Unloadable contents (.io error)
  | notUtf8 {bytes : ByteArray} (found : contents = .ok bytes)
      (invalid : ∀ text : String, text.toUTF8 ≠ bytes) : Unloadable contents (.io .notUtf8)
  | notTexts {text : String} (found : contents = .ok text.toUTF8)
      (other : ∀ pairs, Json.read? text ≠ some (.ofTexts pairs)) :
      Unloadable contents (.json (Json.Diagnostics.diagnosis text))

theorem load_of_not_utf8 [Json.Diagnostics] {bytes : ByteArray} (invalid : ∀ text : String, text.toUTF8 ≠ bytes) :
    load (.ok bytes) = .error (.io .notUtf8) := by
  have undecoded : String.fromUTF8? bytes = none := by
    apply Option.eq_none_iff_forall_ne_some.2
    intro text decoded
    exact invalid text (fromUTF8?_eq_some_iff.1 decoded)
  simp only [load, Contents.text, bind, Except.bind, undecoded]
  rfl

theorem load_text [Json.Diagnostics] (text : String) :
    load (.ok text.toUTF8) =
      match Form.read? text with
      | some map => .ok map
      | none => .error (.json (Json.Diagnostics.diagnosis text)) := by
  have decoded : String.fromUTF8? text.toUTF8 = some text := fromUTF8?_eq_some_iff.2 rfl
  simp only [load, Contents.text, bind, Except.bind, decoded]
  rfl

theorem load_of_holds [Json.Diagnostics] {contents : Contents} {map : NameMap String} (holds : Holds contents map) :
    load contents = .ok map := by
  obtain ⟨text, pairs, rfl, spelled, same⟩ := holds
  rw [load_text, Form.read?_eq_some_iff.2 ⟨pairs, spelled, same⟩]

theorem load_of_unloadable [Json.Diagnostics] {contents : Contents} {failure : Failure}
    (unloadable : Unloadable contents failure) : load contents = .error failure := by
  cases unloadable with
  | unreadable refused =>
      rw [refused]
      rfl
  | notUtf8 found invalid => rw [found, load_of_not_utf8 invalid]
  | notTexts found other => rw [found, load_text, Form.read?_eq_none_iff.2 other]

theorem holds_or_unloadable [Json.Diagnostics] (contents : Contents) :
    (∃ map, Holds contents map) ∨ ∃ failure, Unloadable contents failure := by
  cases contents with
  | error error => exact .inr ⟨_, .unreadable rfl⟩
  | ok bytes =>
      by_cases valid : ∃ text : String, text.toUTF8 = bytes
      · obtain ⟨text, rfl⟩ := valid
        cases found : Form.read? text with
        | some map =>
            obtain ⟨pairs, spelled, same⟩ := Form.read?_eq_some_iff.1 found
            exact .inl ⟨map, text, pairs, rfl, spelled, same⟩
        | none => exact .inr ⟨_, .notTexts rfl (Form.read?_eq_none_iff.1 found)⟩
      · exact .inr ⟨_, .notUtf8 rfl (not_exists.1 valid)⟩

end Command

end FormRules
