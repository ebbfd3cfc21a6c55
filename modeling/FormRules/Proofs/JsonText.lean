/-
This file shows that JSON values are read back from the text that is written for them. The text is divided into
tokens piece by piece, and the tokens of a value take the reader past the value, whatever stands around it. A number
ends only where something follows that cannot continue it.
-/

import FormRules.Json.Printer
import FormRules.Json.Reader

namespace FormRules.Json

/-- The end of a text, or of a value in an array or an object. -/
def Closes (text : List Char) : Prop :=
  ∀ c ∈ text.head?, c = ',' ∨ c = ']' ∨ c = '\x7d'

/-- The text is read as one number up to where it closes. -/
def SpellsNumber (text : List Char) : Prop :=
  ∃ c tail, text = c :: tail ∧ isSeparator c = false ∧ ∀ rest, Closes rest →
    readToken c (tail ++ rest) = some (.number (String.ofList text), rest)

/-- A value whose numbers are spelled as numbers and whose strings all have a text. -/
inductive Plain : Json → Prop
  | null : Plain .null
  | bool (value : Bool) : Plain (.bool value)
  | number {spelling : String} (spelled : SpellsNumber spelling.toList) : Plain (.number spelling)
  | text (text : String) : Plain (.ofText text)
  | array {items : List Json} (each : ∀ item ∈ items, Plain item) : Plain (.array items)
  | object {members : List (String × Json)} (each : ∀ member ∈ members, Plain member.2) :
      Plain (.ofMembers members)

section Strings

theorem hexNumber?_digitChars : ∀ code < 0x20,
    Text.hexNumber? ['0', '0', Nat.digitChar (code / 16), Nat.digitChar (code % 16)] = some code := by
  decide

theorem readCodes_simpleEscape {letter c : Char} (meaning : simpleEscape? letter = some c)
    (rest : List Char) :
    readCodes ('\\' :: letter :: rest) =
      (readCodes rest).map fun (codes, after) => (c.toNat :: codes, after) := by
  have notCode : letter ≠ 'u' := by
    rintro rfl
    cases meaning
  rw [readCodes]
  · rw [meaning]
    cases readCodes rest <;> rfl
  · intro a b c d rest same
    exact absurd same notCode

theorem readCodes_codeEscape {c : Char} (control : c.toNat < 0x20) (rest : List Char) :
    readCodes (codeEscape c ++ rest) =
      (readCodes rest).map fun (codes, after) => (c.toNat :: codes, after) := by
  have number := hexNumber?_digitChars c.toNat control
  show readCodes ('\\' :: 'u' :: '0' :: '0' :: _ :: _ :: rest) = _
  rw [readCodes, number]
  cases readCodes rest <;> rfl

theorem readCodes_self {c : Char} (quotation : c ≠ '"') (backslash : c ≠ '\\')
    (visible : ¬ c.toNat < 0x20) (rest : List Char) :
    readCodes (c :: rest) = (readCodes rest).map fun (codes, after) => (c.toNat :: codes, after) := by
  rw [readCodes, if_neg (not_or.2 ⟨backslash, visible⟩)]
  · exact quotation
  · intro a b d e rest same
    exact absurd same backslash
  · intro letter rest same
    exact absurd same backslash

/-- However a character is written in a string, it is read as its code. -/
theorem readCodes_escape (c : Char) (rest : List Char) :
    readCodes (escape c ++ rest) =
      (readCodes rest).map fun (codes, after) => (c.toNat :: codes, after) := by
  unfold escape
  split
  · exact readCodes_simpleEscape rfl rest
  · exact readCodes_simpleEscape rfl rest
  · exact readCodes_simpleEscape rfl rest
  · exact readCodes_simpleEscape rfl rest
  · exact readCodes_simpleEscape rfl rest
  · exact readCodes_simpleEscape rfl rest
  · exact readCodes_simpleEscape rfl rest
  · rename_i quotation backslash _ _ _ _ _
    split
    · rename_i control
      exact readCodes_codeEscape control rest
    · rename_i visible
      exact readCodes_self quotation backslash visible rest

theorem readCodes_flatMap_escape (text rest : List Char) :
    readCodes (text.flatMap escape ++ '"' :: rest) = some (text.map Char.toNat, rest) := by
  induction text with
  | nil => rfl
  | cons c text inductionHypothesis =>
      rw [List.flatMap_cons, List.append_assoc, readCodes_escape, inductionHypothesis]
      rfl

/-- No character is half of a surrogate pair. -/
theorem not_surrogate (c : Char) : isHighSurrogate c.toNat = false ∧ isLowSurrogate c.toNat = false := by
  have valid : c.toNat < 0xd800 ∨ 0xdfff < c.toNat ∧ c.toNat < 0x110000 := c.valid
  constructor
  · simp only [isHighSurrogate, Bool.and_eq_false_imp, decide_eq_true_eq, decide_eq_false_iff_not]
    omega
  · simp only [isLowSurrogate, Bool.and_eq_false_imp, decide_eq_true_eq, decide_eq_false_iff_not]
    omega

theorem charsOfCodes_cons (c : Char) (codes : List Nat) :
    charsOfCodes (c.toNat :: codes) = (charsOfCodes codes).map (c :: ·) := by
  obtain ⟨high, low⟩ := not_surrogate c
  cases codes with
  | nil => simp [charsOfCodes, high, low]
  | cons next rest => simp [charsOfCodes, high, low]

theorem charsOfCodes_map_toNat (text : List Char) : charsOfCodes (text.map Char.toNat) = some text := by
  induction text with
  | nil => rfl
  | cons c text inductionHypothesis =>
      rw [List.map_cons, charsOfCodes_cons, inductionHypothesis]
      rfl

end Strings

section Tokens

/-- The text is divided into the tokens if what follows it is such a text. -/
def LexesBefore (follows : List Char → Prop) (text : List Char) (tokens : List Token) : Prop :=
  ∀ rest steps, follows rest → text.length + rest.length ≤ steps → ∃ left, rest.length ≤ left ∧
    tokensFrom steps (text ++ rest) = (tokensFrom left rest).map (tokens ++ ·)

/-- The text is divided into the tokens, whatever follows it. -/
abbrev Lexes : List Char → List Token → Prop :=
  LexesBefore fun _ => True

variable {follows earlier : List Char → Prop} {first second : List Char} {early late : List Token}

theorem lexes_nil : LexesBefore follows [] [] := by
  intro rest steps _ enough
  refine ⟨steps, by simpa using enough, ?_⟩
  simp

theorem LexesBefore.append (one : LexesBefore earlier first early) (other : LexesBefore follows second late)
    (fits : ∀ rest, follows rest → earlier (second ++ rest)) :
    LexesBefore follows (first ++ second) (early ++ late) := by
  intro rest steps allowed enough
  rw [List.length_append] at enough
  obtain ⟨middle, middleEnough, firstRead⟩ :=
    one (second ++ rest) steps (fits rest allowed) (by rw [List.length_append]; omega)
  rw [List.length_append] at middleEnough
  obtain ⟨left, leftEnough, secondRead⟩ := other rest middle allowed middleEnough
  refine ⟨left, leftEnough, ?_⟩
  rw [List.append_assoc, firstRead, secondRead]
  simp [Function.comp_def]

theorem Lexes.append (one : Lexes first early) (other : LexesBefore follows second late) :
    LexesBefore follows (first ++ second) (early ++ late) :=
  LexesBefore.append one other fun _ _ => trivial

theorem Lexes.before (lexes : Lexes first early) : LexesBefore follows first early :=
  fun rest steps _ enough => lexes rest steps trivial enough

theorem lexesBefore_token {c : Char} {text : List Char} {token : Token} (solid : isSeparator c = false)
    (read : ∀ rest, follows rest → readToken c (text ++ rest) = some (token, rest)) :
    LexesBefore follows (c :: text) [token] := by
  intro rest steps allowed enough
  cases steps with
  | zero => simp at enough
  | succ steps =>
      refine ⟨steps, by simp only [List.length_cons] at enough; omega, ?_⟩
      simp [tokensFrom, solid, read rest allowed]

/-- A text that is read as one token makes no use of what follows it. -/
theorem lexes_token {c : Char} {text : List Char} {token : Token} (solid : isSeparator c = false)
    (read : ∀ rest, readToken c (text ++ rest) = some (token, rest)) : Lexes (c :: text) [token] :=
  lexesBefore_token solid fun rest _ => read rest

theorem lexes_quote (text : String) : Lexes (quote text) [.string (some text)] := by
  apply lexes_token rfl
  intro rest
  have codes := readCodes_flatMap_escape text.toList rest
  simp only [readToken, List.append_assoc, List.singleton_append, codes, Option.map_some,
    charsOfCodes_map_toNat, String.ofList_toList]

theorem closes_nil : Closes [] := by
  simp [Closes]

theorem closes_cons {c : Char} {rest : List Char} (closing : c = ',' ∨ c = ']' ∨ c = '\x7d') :
    Closes (c :: rest) := by
  simpa [Closes] using closing

theorem tokens_of_lexes {text : List Char} {found : List Token} (lexes : LexesBefore Closes text found) :
    tokens text = some found := by
  obtain ⟨left, -, read⟩ := lexes [] text.length closes_nil (by simp)
  rw [List.append_nil] at read
  rw [tokens, read]
  cases left <;> simp [tokensFrom]

end Tokens

section Values

/-- Where a value may come, the tokens take the reader past the given one. -/
def Means (tokens : List Token) (json : Json) : Prop :=
  ∀ stack rest, readTokens .value stack (tokens ++ rest) = readTokens (.after json) stack rest

/-- The text is divided into tokens that take the reader past the value. -/
def Spells (text : List Char) (json : Json) : Prop :=
  ∃ tokens, LexesBefore Closes text tokens ∧ Means tokens json

/-- Tokens of a value do not begin with a closing bracket, so they can come first in an array. -/
theorem Means.readTokens_firstItem {tokens : List Token} {json : Json} (means : Means tokens json)
    (stack : List Frame) (rest : List Token) :
    readTokens .firstItem stack (tokens ++ rest) = readTokens (.after json) (.array [] :: stack) rest := by
  rw [← means]
  -- On an empty stack the reader refuses both no tokens and a closing bracket.
  have alone := means [] []
  cases tokens with
  | nil => cases alone
  | cons token others =>
      have different : token ≠ .closeArray := by
        rintro rfl
        cases alone
      simp only [List.cons_append, readTokens, readStep, if_neg different]

theorem closes_itemChars (items : List Json) {rest : List Char} (closes : Closes rest) :
    Closes (itemChars items ++ rest) := by
  cases items with
  | nil => exact closes
  | cons item items => exact closes_cons (.inl rfl)

theorem closes_memberChars (members : List (Option String × Json)) {rest : List Char} (closes : Closes rest) :
    Closes (memberChars members ++ rest) := by
  cases members with
  | nil => exact closes
  | cons member members => exact closes_cons (.inl rfl)

/-- The items after a first one are read up to the bracket that closes the array. -/
theorem exists_tokens_itemChars {items : List Json} (each : ∀ item ∈ items, Spells item.chars item) :
    ∃ tokens, LexesBefore Closes (itemChars items) tokens ∧ ∀ done value stack rest,
      readTokens (.after value) (.array done :: stack) (tokens ++ .closeArray :: rest) =
        readTokens (.after (.array (done.reverse ++ value :: items))) stack rest := by
  -- `done` holds the items before `value`, the latest one first; it grows as `items` is used up.
  induction items with
  | nil =>
      refine ⟨[], lexes_nil, ?_⟩
      intro done value stack rest
      simp [readTokens, readStep]
  | cons item items inductionHypothesis =>
      obtain ⟨⟨first, firstLexes, firstMeans⟩, others⟩ := List.forall_mem_cons.1 each
      obtain ⟨later, laterLexes, laterRead⟩ := inductionHypothesis others
      have comma : Lexes [','] [.comma] := lexes_token rfl fun rest => rfl
      refine ⟨[.comma] ++ (first ++ later), ?_, ?_⟩
      · rw [itemChars]
        exact comma.append (firstLexes.append laterLexes fun _ => closes_itemChars items)
      · intro done value stack rest
        have read := firstMeans (.array (value :: done) :: stack) (later ++ .closeArray :: rest)
        rw [laterRead] at read
        simpa [readTokens, readStep] using read

/-- The members after a first one are read up to the brace that closes the object. -/
theorem exists_tokens_memberChars {members : List (String × Json)}
    (each : ∀ member ∈ members, Spells member.2.chars member.2) :
    ∃ tokens, LexesBefore Closes (memberChars (members.map fun member => (some member.1, member.2))) tokens ∧
      ∀ done name value stack rest,
        readTokens (.after value) (.object done name :: stack) (tokens ++ .closeObject :: rest) =
          readTokens (.after (.object (done.reverse ++ (name, value) ::
            members.map fun member => (some member.1, member.2)))) stack rest := by
  induction members with
  | nil =>
      refine ⟨[], lexes_nil, ?_⟩
      intro done name value stack rest
      simp [readTokens, readStep]
  | cons member members inductionHypothesis =>
      obtain ⟨⟨first, firstLexes, firstMeans⟩, others⟩ := List.forall_mem_cons.1 each
      obtain ⟨later, laterLexes, laterRead⟩ := inductionHypothesis others
      have comma : Lexes [','] [.comma] := lexes_token rfl fun rest => rfl
      have colon : Lexes [':'] [.colon] := lexes_token rfl fun rest => rfl
      refine ⟨[.comma] ++ ([.string (some member.1)] ++ ([.colon] ++ (first ++ later))), ?_, ?_⟩
      · rw [List.map_cons, memberChars]
        exact comma.append ((lexes_quote member.1).append (colon.append
          (firstLexes.append laterLexes fun _ => closes_memberChars _)))
      · intro done name value stack rest
        have read := firstMeans (.object ((name, value) :: done) (some member.1) :: stack)
          (later ++ .closeObject :: rest)
        rw [laterRead] at read
        simpa [readTokens, readStep] using read

theorem spells_token {c : Char} {text : List Char} {token : Token} {json : Json}
    (lexes : LexesBefore Closes (c :: text) [token]) (value : token.value? = some json) : Spells (c :: text) json := by
  refine ⟨[token], lexes, ?_⟩
  intro stack rest
  cases token <;> cases value <;> rfl

theorem spells_array {items : List Json} (each : ∀ item ∈ items, Spells item.chars item) :
    Spells (chars (.array items)) (.array items) := by
  have opens : Lexes ['['] [.openArray] := lexes_token rfl fun rest => rfl
  have closes : Lexes [']'] [.closeArray] := lexes_token rfl fun rest => rfl
  cases items with
  | nil =>
      refine ⟨[.openArray] ++ [.closeArray], ?_, fun stack rest => rfl⟩
      rw [chars]
      exact opens.append closes.before
  | cons item items =>
      obtain ⟨⟨first, firstLexes, firstMeans⟩, others⟩ := List.forall_mem_cons.1 each
      obtain ⟨later, laterLexes, laterRead⟩ := exists_tokens_itemChars others
      refine ⟨[.openArray] ++ (first ++ later ++ [.closeArray]), ?_, ?_⟩
      · rw [chars]
        exact opens.append ((firstLexes.append laterLexes fun _ => closes_itemChars items).append closes.before
          fun _ _ => closes_cons (.inr (.inl rfl)))
      · intro stack rest
        have read := firstMeans.readTokens_firstItem stack (later ++ .closeArray :: rest)
        rw [laterRead] at read
        simpa [readTokens, readStep, beginValue] using read

theorem spells_object {members : List (String × Json)}
    (each : ∀ member ∈ members, Spells member.2.chars member.2) :
    Spells (chars (.ofMembers members)) (.ofMembers members) := by
  have opens : Lexes ['\x7b'] [.openObject] := lexes_token rfl fun rest => rfl
  have colon : Lexes [':'] [.colon] := lexes_token rfl fun rest => rfl
  have closes : Lexes ['\x7d'] [.closeObject] := lexes_token rfl fun rest => rfl
  cases members with
  | nil =>
      refine ⟨[.openObject] ++ [.closeObject], ?_, fun stack rest => rfl⟩
      rw [ofMembers, List.map_nil, chars]
      exact opens.append closes.before
  | cons member members =>
      obtain ⟨⟨first, firstLexes, firstMeans⟩, others⟩ := List.forall_mem_cons.1 each
      obtain ⟨later, laterLexes, laterRead⟩ := exists_tokens_memberChars others
      refine ⟨[.openObject] ++ ([.string (some member.1)] ++
          ([.colon] ++ (first ++ later ++ [.closeObject]))), ?_, ?_⟩
      · rw [ofMembers, List.map_cons, chars]
        exact opens.append ((lexes_quote member.1).append (colon.append
          ((firstLexes.append laterLexes fun _ => closes_memberChars _).append closes.before
            fun _ _ => closes_cons (.inr (.inr rfl)))))
      · intro stack rest
        have read := firstMeans (.object [] (some member.1) :: stack) (later ++ .closeObject :: rest)
        rw [laterRead] at read
        simpa [readTokens, readStep, beginValue, ofMembers] using read

/-- The text that is written for a value spells it. -/
theorem spells_chars {json : Json} (plain : Plain json) : Spells json.chars json := by
  induction plain with
  | null => exact spells_token (lexesBefore_token rfl fun rest _ => rfl) rfl
  | bool value =>
      cases value with
      | true => exact spells_token (lexesBefore_token rfl fun rest _ => rfl) rfl
      | false => exact spells_token (lexesBefore_token rfl fun rest _ => rfl) rfl
  | @number spelling spelled =>
      obtain ⟨c, tail, text, solid, read⟩ := spelled
      have lexes := lexesBefore_token solid read
      rw [← text, String.ofList_toList] at lexes
      rw [chars]
      rw [text] at lexes ⊢
      exact spells_token lexes rfl
  | text text => exact spells_token (lexes_quote text).before rfl
  | array _ inductionHypothesis => exact spells_array inductionHypothesis
  | object _ inductionHypothesis => exact spells_object inductionHypothesis

/-- What is written is read back. -/
theorem read?_write {json : Json} (plain : Plain json) : read? json.write = some json := by
  obtain ⟨tokens, lexes, means⟩ := spells_chars plain
  have value := means [] []
  rw [List.append_nil] at value
  rw [read?, write, String.toList_ofList, tokens_of_lexes lexes]
  exact value

end Values

end FormRules.Json
