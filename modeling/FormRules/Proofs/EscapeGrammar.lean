/-
This file gives the grammar of space in a pattern and of escapes. The readers of escapes follow it.
-/

import FormRules.Pattern.Spelling
import FormRules.Proofs.FirstError
import FormRules.Proofs.Segments

namespace FormRules.Pattern

open Text (isBlank decimalDigit? hexDigit? hexNumber?)

attribute [local grind =] Option.map_eq_some_iff Option.bind_eq_some_iff

section Space

/-- The front of a text has a meaning of its own. -/
def IsVisible (text : List Char) : Prop :=
  ∀ c ∈ text.head?, isBlank c = false ∧ c ≠ '#'

/-- `Skips verbose text rest` says that `rest` remains of the text after the space at its front. In a verbose
pattern that is blank characters, and comments up to the end of their lines; in others there is none. -/
inductive Skips (verbose : Bool) : List Char → List Char → Prop where
  | nothing {text} : (verbose = true → IsVisible text) → Skips verbose text text
  | blank {c text rest} :
      verbose = true → isBlank c = true → Skips verbose text rest → Skips verbose (c :: text) rest
  | comment {body text rest} :
      verbose = true → '\n' ∉ body → text.head? = none ∨ text.head? = some '\n' →
      Skips verbose text rest → Skips verbose ('#' :: (body ++ text)) rest

variable {verbose : Bool} {text rest : List Char}

theorem dropSpace_of_isVisible (visible : IsVisible text) : dropSpace false text = text := by
  cases text with
  | nil => rfl
  | cons c rest =>
      obtain ⟨solid, unmarked⟩ := visible c rfl
      simp [dropSpace, solid, unmarked]

/-- A comment is dropped with its line. -/
theorem dropSpace_comment {body : List Char} (inLine : '\n' ∉ body)
    (ends : text.head? = none ∨ text.head? = some '\n') :
    dropSpace true (body ++ text) = dropSpace false text := by
  induction body with
  | nil =>
      cases text with
      | nil => rfl
      | cons c rest =>
          obtain rfl : c = '\n' := by simpa using ends
          rfl
  | cons c body inductionHypothesis =>
      obtain ⟨other, bodyInLine⟩ := List.ne_and_not_mem_of_not_mem_cons inLine
      have inComment : (c != '\n') = true := bne_iff_ne.2 (Ne.symm other)
      simpa [dropSpace, inComment] using inductionHypothesis bodyInLine

theorem skip_eq_of_skips (skips : Skips verbose text rest) : skip verbose text = rest := by
  induction skips with
  | nothing visible =>
      cases verbose with
      | false => rfl
      | true => exact dropSpace_of_isVisible (visible rfl)
  | blank isVerbose isBlank _ inductionHypothesis =>
      subst isVerbose
      simpa [skip, dropSpace, isBlank] using inductionHypothesis
  | comment isVerbose inLine ends _ inductionHypothesis =>
      subst isVerbose
      have dropped := dropSpace_comment inLine ends
      simpa [skip, dropSpace, dropped, show isBlank '#' = false by decide] using inductionHypothesis

theorem exists_line_end (text : List Char) :
    ∃ body back, text = body ++ back ∧ '\n' ∉ body ∧ (back.head? = none ∨ back.head? = some '\n') := by
  refine ⟨text.takeWhile (· != '\n'), text.dropWhile (· != '\n'), ?_, ?_, ?_⟩
  · exact List.takeWhile_append_dropWhile.symm
  · exact fun member => by simpa using List.mem_takeWhile_imp member
  · have stopped := List.head?_dropWhile_not (· != '\n') text
    cases found : (text.dropWhile (· != '\n')).head? <;> simp_all

theorem skips_dropSpace (text : List Char) : Skips true text (dropSpace false text) := by
  match text with
  | [] => exact .nothing fun _ => nofun
  | c :: rest =>
      by_cases blank : isBlank c = true
      · simpa [dropSpace, blank] using Skips.blank rfl blank (skips_dropSpace rest)
      by_cases mark : c = '#'
      · obtain ⟨body, back, rfl, inLine, ends⟩ := exists_line_end rest
        have skips := Skips.comment rfl inLine ends (skips_dropSpace back)
        subst mark
        simpa [dropSpace, blank, dropSpace_comment inLine ends] using skips
      · have visible : IsVisible (c :: rest) := by simp [IsVisible, blank, mark]
        rw [dropSpace_of_isVisible visible]
        exact .nothing fun _ => visible
termination_by text.length

theorem skip_eq_iff_skips : skip verbose text = rest ↔ Skips verbose text rest := by
  constructor
  · intro skipped
    subst skipped
    cases verbose with
    | false => exact .nothing nofun
    | true => exact skips_dropSpace text
  · exact skip_eq_of_skips

/-- No space is left at the front. -/
theorem Skips.isVisible (skips : Skips verbose text rest) (isVerbose : verbose = true) : IsVisible rest := by
  induction skips with
  | nothing visible => exact visible isVerbose
  | blank _ _ _ inductionHypothesis => exact inductionHypothesis
  | comment _ _ _ _ inductionHypothesis => exact inductionHypothesis

@[simp] theorem skip_skip (verbose : Bool) (text : List Char) :
    skip verbose (skip verbose text) = skip verbose text := by
  have skips : Skips verbose text (skip verbose text) := skip_eq_iff_skips.1 rfl
  exact skip_eq_iff_skips.2 (.nothing skips.isVisible)

end Space

section Escapes

/-- `Spaced verbose text word after` says that the characters of the word stand at the front of the text, with
space before each of them. -/
inductive Spaced (verbose : Bool) : List Char → List Char → List Char → Prop where
  | nothing {text} : Spaced verbose text [] text
  | character {c text rest word after} :
      Skips verbose text (c :: rest) → Spaced verbose rest word after → Spaced verbose text (c :: word) after

/-- A word and the brace that closes it. -/
def SpellsBraced (verbose : Bool) (text word after : List Char) : Prop :=
  ∃ back, Spaced verbose text word back ∧ '\x7d' ∉ word ∧ Skips verbose back ('\x7d' :: after)

/-- A character by its code: as many hexadecimal digits as there have to be, or any number of them in braces.
Only the former can mean a byte. -/
inductive SpellsCode (verbose : Bool) (count : Nat) (byteEscape : Bool) :
    List Char → Literal → List Char → Prop where
  | fixed {text word char after} :
      Spaced verbose text word after → word.length = count → hexNumber? word = some char.toNat →
      SpellsCode verbose count byteEscape text ⟨char, byteEscape⟩ after
  | braced {text inside word char after} :
      Skips verbose text ('\x7b' :: inside) → SpellsBraced verbose inside word after → word ≠ [] →
      hexNumber? word = some char.toNat → SpellsCode verbose count byteEscape text ⟨char, false⟩ after

/-- A property and its value are told apart by the first `!=`, or else by the first colon, or else by the first
equality sign. All of these mean the same. -/
inductive PropertyName.Spells : List Char → PropertyName → Prop where
  | notEqual {property value} :
      ¬ ['!', '='] <:+: property → Spells (property ++ '!' :: '=' :: value) (.valued property value)
  | colon {property value} :
      ¬ ['!', '='] <:+: property ++ ':' :: value → ':' ∉ property →
      Spells (property ++ ':' :: value) (.valued property value)
  | equal {property value} :
      ¬ ['!', '='] <:+: property ++ '=' :: value → ':' ∉ property ++ '=' :: value → '=' ∉ property →
      Spells (property ++ '=' :: value) (.valued property value)
  | alone {name} : ':' ∉ name → '=' ∉ name → Spells name (.alone name)

/-- The name of a property: one letter, or any text in braces. -/
inductive SpellsProperty (verbose : Bool) : List Char → PropertyName → List Char → Prop where
  | braced {text inside word name after} :
      Skips verbose text ('\x7b' :: inside) → SpellsBraced verbose inside word after → name.Spells word →
      SpellsProperty verbose text name after
  | letter {text c after} :
      Skips verbose text (c :: after) → c ≠ '\x7b' → c ≠ '\\' → SpellsProperty verbose text (.alone [c]) after

/-- The one-sided word boundaries. -/
def boundaryNames : List (String × Assertion) :=
  [("start", .wordStart), ("end", .wordEnd), ("start-half", .wordStartHalf), ("end-half", .wordEndHalf)]

/-- What follows `\b`. A brace that opens on neither a letter nor a hyphen begins a repetition. -/
inductive SpellsBoundary (verbose : Bool) : List Char → Assertion → List Char → Prop where
  | named {inside word kind after} :
      SpellsBraced verbose inside word after → (String.ofList word, kind) ∈ boundaryNames →
      SpellsBoundary verbose ('\x7b' :: inside) kind after
  | counted {inside c rest} :
      Skips verbose inside (c :: rest) → isAsciiLetter c = false → c ≠ '-' →
      SpellsBoundary verbose ('\x7b' :: inside) .wordBoundary ('\x7b' :: inside)
  | plain {text} : text.head? ≠ some '\x7b' → SpellsBoundary verbose text .wordBoundary text

/-- Letters after a backslash that mean a character by its code, with the number of digits and whether the code
is that of a byte. -/
def codeLetters : List (Char × Nat × Bool) :=
  [('x', 2, true), ('u', 4, false), ('U', 8, false)]

/-- Letters after a backslash that mean a class, and whether they negate it. -/
def shorthandLetters : List (Char × Shorthand × Bool) :=
  [('d', .digit, false), ('D', .digit, true), ('s', .space, false), ('S', .space, true),
    ('w', .word, false), ('W', .word, true)]

/-- Letters after a backslash that mean a control character. -/
def controlLetters : List (Char × Char) :=
  [('a', '\x07'), ('f', '\x0c'), ('t', '\t'), ('n', '\n'), ('r', '\r'), ('v', '\x0b')]

/-- Characters after a backslash that mean an assertion. -/
def assertionLetters : List (Char × Assertion) :=
  [('A', .textStart), ('z', .textEnd), ('B', .notWordBoundary), ('<', .wordStart), ('>', .wordEnd)]

/-- What follows a backslash. -/
inductive SpellsEscape (verbose : Bool) : List Char → Escape → List Char → Prop where
  | code {c count byteEscape rest literal after} :
      (c, count, byteEscape) ∈ codeLetters → SpellsCode verbose count byteEscape rest literal after →
      SpellsEscape verbose (c :: rest) (.literal literal) after
  | property {rest name after} :
      SpellsProperty verbose rest name after → SpellsEscape verbose ('p' :: rest) (.property name false) after
  | notProperty {rest name after} :
      SpellsProperty verbose rest name after → SpellsEscape verbose ('P' :: rest) (.property name true) after
  | shorthand {c kind negated rest} :
      (c, kind, negated) ∈ shorthandLetters → SpellsEscape verbose (c :: rest) (.shorthand kind negated) rest
  | control {c char rest} :
      (c, char) ∈ controlLetters → SpellsEscape verbose (c :: rest) (.literal ⟨char, false⟩) rest
  | assertion {c kind rest} :
      (c, kind) ∈ assertionLetters → SpellsEscape verbose (c :: rest) (.assertion kind) rest
  | boundary {rest kind after} :
      SpellsBoundary verbose rest kind after → SpellsEscape verbose ('b' :: rest) (.assertion kind) after
  | punctuation {c rest} :
      -- everything else in the ASCII range
      c.toNat < 0x80 → c.isAlphanum = false → c ≠ '<' → c ≠ '>' →
      SpellsEscape verbose (c :: rest) (.literal ⟨c, false⟩) rest

variable {verbose : Bool} {text word after : List Char}

theorem spaced_nil_iff : Spaced verbose text [] after ↔ text = after := by
  constructor
  · intro spaced
    cases spaced
    rfl
  · intro same
    subst same
    exact .nothing

theorem spaced_cons_iff {c : Char} :
    Spaced verbose text (c :: word) after ↔
      ∃ rest, skip verbose text = c :: rest ∧ Spaced verbose rest word after := by
  constructor
  · intro spaced
    cases spaced with
    | character front spaced => exact ⟨_, skip_eq_iff_skips.2 front, spaced⟩
  · intro spaced
    obtain ⟨rest, front, spaced⟩ := spaced
    exact .character (skip_eq_iff_skips.1 front) spaced

theorem spaced_skip_iff (some : word ≠ []) :
    Spaced verbose (skip verbose text) word after ↔ Spaced verbose text word after := by
  cases word with
  | nil => contradiction
  | cons c word => simp only [spaced_cons_iff, skip_skip]

theorem upToBrace_eq_of_comment (comment : Bool) (text : List Char) :
    upToBrace true comment text = upToBrace true false (dropSpace comment text) := by
  fun_induction dropSpace comment text <;> simp_all [upToBrace]

/-- Space before a character is passed over. -/
theorem upToBrace_skip (text : List Char) :
    upToBrace verbose false text = upToBrace verbose false (skip verbose text) := by
  cases verbose with
  | false => rfl
  | true => exact upToBrace_eq_of_comment false text

theorem upToBrace_eq_match (text : List Char) :
    upToBrace verbose false text =
      match skip verbose text with
      | [] => none
      | c :: rest =>
          if c = '\x7d' then some ([], rest)
          else (upToBrace verbose false rest).map fun (name, after) => (c :: name, after) := by
  rw [upToBrace_skip]
  have skips : Skips verbose text (skip verbose text) := skip_eq_iff_skips.1 rfl
  have visible := skips.isVisible
  generalize skip verbose text = front at visible ⊢
  cases front with
  | nil => rfl
  | cons c rest => cases verbose <;> simp_all [upToBrace, IsVisible]

theorem upToBrace_eq_some_iff :
    upToBrace verbose false text = some (word, after) ↔ SpellsBraced verbose text word after := by
  simp only [SpellsBraced, ← skip_eq_iff_skips]
  induction word generalizing text with
  | nil =>
      simp only [spaced_nil_iff, exists_eq_left', upToBrace_eq_match text]
      cases skip verbose text <;> grind
  | cons c word inductionHypothesis =>
      simp only [spaced_cons_iff, upToBrace_eq_match text]
      cases skip verbose text <;> grind

theorem readHexDigits_eq_some_iff {count : Nat} {digits : List Nat} :
    readHexDigits verbose count text = some (digits, after) ↔
      ∃ word, Spaced verbose text word after ∧ word.length = count ∧ word.mapM hexDigit? = some digits := by
  induction count generalizing text digits with
  | zero => simp [readHexDigits, List.length_eq_zero_iff, spaced_nil_iff, and_comm]
  | succ count inductionHypothesis =>
      constructor
      · intro read
        cases front : skip verbose text with
        | nil => simp [readHexDigits, front] at read
        | cons c rest =>
            simp only [readHexDigits, front, Option.bind_eq_bind, Option.bind_eq_some_iff] at read
            obtain ⟨digit, isDigit, ⟨digits, _⟩, read, shape⟩ := read
            cases shape
            obtain ⟨word, spaced, size, areDigits⟩ := inductionHypothesis.1 read
            refine ⟨c :: word, spaced_cons_iff.2 ⟨rest, front, spaced⟩, by rw [List.length_cons, size], ?_⟩
            simp [isDigit, areDigits]
      · intro spells
        obtain ⟨word, spaced, size, areDigits⟩ := spells
        obtain ⟨c, word, rfl, wordSize⟩ := List.length_eq_succ_iff.1 size
        obtain ⟨rest, front, spaced⟩ := spaced_cons_iff.1 spaced
        obtain ⟨digit, digits, isDigit, othersAreDigits, rfl⟩ := mapM_cons_eq_some_iff.1 areDigits
        have read := inductionHypothesis.2 ⟨word, spaced, wordSize, othersAreDigits⟩
        simp [readHexDigits, front, isDigit, read]

theorem charOfCode?_eq_some_iff {code : Nat} {char : Char} :
    charOfCode? code = some char ↔ code = char.toNat := by
  unfold charOfCode?
  constructor
  · intro found
    split at found
    · rename_i valid
      cases found
      rw [Char.ofNat, dif_pos valid]
      rfl
    · cases found
  · intro same
    subst same
    have valid : char.toNat.isValidChar := char.valid
    rw [if_pos valid, Char.ofNat_toNat]

theorem readCode_eq_some_iff {count : Nat} {byteEscape : Bool} {literal : Literal} (positive : 0 < count) :
    readCode verbose count byteEscape text = some (literal, after) ↔
      SpellsCode verbose count byteEscape text literal after := by
  constructor
  · intro read
    unfold readCode at read
    split at read
    · rename_i inside front
      obtain ⟨⟨word, _⟩, reads, read⟩ := Option.bind_eq_some_iff.1 read
      simp only at read
      split at read
      · cases read
      · rename_i nonempty
        obtain ⟨code, isCode, read⟩ := Option.bind_eq_some_iff.1 read
        obtain ⟨char, isChar, read⟩ := Option.bind_eq_some_iff.1 read
        cases read
        obtain rfl := charOfCode?_eq_some_iff.1 isChar
        exact .braced (skip_eq_iff_skips.1 front) (upToBrace_eq_some_iff.1 reads) (by simpa using nonempty) isCode
    · obtain ⟨⟨digits, _⟩, reads, read⟩ := Option.bind_eq_some_iff.1 read
      obtain ⟨char, isChar, read⟩ := Option.bind_eq_some_iff.1 read
      cases read
      obtain ⟨word, spaced, size, areDigits⟩ := readHexDigits_eq_some_iff.1 reads
      have nonempty : word ≠ [] := List.ne_nil_of_length_pos (size ▸ positive)
      have isCode : hexNumber? word = some char.toNat := by
        simp [hexNumber?, areDigits, charOfCode?_eq_some_iff.1 isChar]
      exact .fixed ((spaced_skip_iff nonempty).1 spaced) size isCode
  · intro spells
    cases spells with
    | @fixed word _ _ spaced size isCode =>
        obtain ⟨digits, areDigits, isNumber⟩ := Option.map_eq_some_iff.1 isCode
        have nonempty : word ≠ [] := List.ne_nil_of_length_pos (size ▸ positive)
        have reads := readHexDigits_eq_some_iff.2 ⟨word, (spaced_skip_iff nonempty).2 spaced, size, areDigits⟩
        have isChar := charOfCode?_eq_some_iff.2 isNumber
        unfold readCode
        split
        · rename_i inside front
          obtain ⟨c, word, rfl⟩ := List.exists_cons_of_ne_nil nonempty
          obtain ⟨rest, frontOfWord, -⟩ := spaced_cons_iff.1 spaced
          obtain rfl : c = '\x7b' := by simp_all
          simp [show hexDigit? '\x7b' = none by decide] at areDigits
        · simp [reads, isChar]
    | braced front spells nonempty isCode =>
        have reads := upToBrace_eq_some_iff.2 spells
        simp [readCode, skip_eq_iff_skips.2 front, reads, nonempty, isCode, charOfCode?_eq_some_iff.2 rfl]

theorem notEqual_infix_cons_iff {c : Char} :
    ['!', '='] <:+: c :: text ↔ (c = '!' ∧ text.head? = some '=') ∨ ['!', '='] <:+: text := by
  rw [List.infix_cons_iff, List.cons_prefix_cons]
  cases text <;> grind

theorem cutAtNotEqual_eq_none_iff : cutAtNotEqual text = none ↔ ¬ ['!', '='] <:+: text := by
  fun_induction cutAtNotEqual text <;> simp_all [notEqual_infix_cons_iff]

theorem cutAtNotEqual_eq_some_iff {property value : List Char} :
    cutAtNotEqual text = some (property, value) ↔
      ¬ ['!', '='] <:+: property ∧ text = property ++ '!' :: '=' :: value := by
  induction property generalizing text with
  | nil =>
      cases text with
      | nil => simp [cutAtNotEqual]
      | cons c rest => cases rest <;> grind [cutAtNotEqual]
  | cons c property inductionHypothesis =>
      cases text with
      | nil => simp [cutAtNotEqual]
      | cons d rest =>
          simp only [cutAtNotEqual, notEqual_infix_cons_iff]
          cases property <;> grind

theorem PropertyName.spells_ofText (text : List Char) : (PropertyName.ofText text).Spells text := by
  unfold PropertyName.ofText
  split
  · rename_i property value cut
    obtain ⟨first, rfl⟩ := cutAtNotEqual_eq_some_iff.1 cut
    exact .notEqual first
  · rename_i uncut
    have none := cutAtNotEqual_eq_none_iff.1 uncut
    split
    · rename_i property value cut
      obtain ⟨first, rfl⟩ := Text.cutAtFirst_eq_some_iff.1 cut
      exact .colon none first
    · rename_i uncut
      have noColon := Text.not_mem_of_cutAtFirst_eq_none uncut
      split
      · rename_i property value cut
        obtain ⟨first, rfl⟩ := Text.cutAtFirst_eq_some_iff.1 cut
        exact .equal none noColon first
      · rename_i uncut
        exact .alone noColon (Text.not_mem_of_cutAtFirst_eq_none uncut)

theorem PropertyName.Spells.eq_ofText {name : PropertyName} (spells : name.Spells text) :
    name = PropertyName.ofText text := by
  unfold PropertyName.ofText
  cases spells with
  | notEqual first => rw [cutAtNotEqual_eq_some_iff.2 ⟨first, rfl⟩]
  | colon none first =>
      simp only [cutAtNotEqual_eq_none_iff.2 none, Text.cutAtFirst_append first]
  | equal none noColon first =>
      simp only [cutAtNotEqual_eq_none_iff.2 none, Text.cutAtFirst_of_not_mem noColon,
        Text.cutAtFirst_append first]
  | alone noColon noEqual =>
      have none : ¬ ['!', '='] <:+: text := fun inside => noEqual (inside.subset (by simp))
      simp only [cutAtNotEqual_eq_none_iff.2 none, Text.cutAtFirst_of_not_mem noColon,
        Text.cutAtFirst_of_not_mem noEqual]

theorem readProperty_eq_some_iff {negated : Bool} {escape : Escape} :
    readProperty verbose negated text = some (escape, after) ↔
      ∃ name, SpellsProperty verbose text name after ∧ escape = .property name negated := by
  constructor
  · intro read
    unfold readProperty at read
    split at read
    · cases read
    · rename_i inside front
      obtain ⟨⟨word, _⟩, reads, read⟩ := Option.bind_eq_some_iff.1 read
      cases read
      exact ⟨_, .braced (skip_eq_iff_skips.1 front) (upToBrace_eq_some_iff.1 reads)
        (PropertyName.spells_ofText word), rfl⟩
    · rename_i c rest open? front
      split at read
      · cases read
      · rename_i solid
        cases read
        exact ⟨_, .letter (skip_eq_iff_skips.1 front) (by grind) solid, rfl⟩
  · intro spells
    obtain ⟨name, spells, rfl⟩ := spells
    cases spells with
    | braced front spells names =>
        have reads := upToBrace_eq_some_iff.2 spells
        simp [readProperty, skip_eq_iff_skips.2 front, reads, names.eq_ofText]
    | letter front other solid =>
        unfold readProperty
        grind [skip_eq_iff_skips]

theorem boundaryNamed?_eq_some_iff {kind : Assertion} :
    boundaryNamed? word = some kind ↔ (String.ofList word, kind) ∈ boundaryNames := by
  unfold boundaryNamed?
  generalize String.ofList word = name
  split <;> simp_all [boundaryNames, eq_comm]

theorem boundaryNames_begin : ∀ entry ∈ boundaryNames, entry.1.toList.head?.any isAsciiLetter = true := by
  decide

theorem readBoundary_eq_some_iff {kind : Assertion} :
    readBoundary verbose text = some (kind, after) ↔ SpellsBoundary verbose text kind after := by
  constructor
  · intro read
    unfold readBoundary at read
    split at read
    · rename_i inside
      split at read
      · cases read
      · rename_i c rest front
        split at read
        · obtain ⟨⟨word, _⟩, reads, read⟩ := Option.bind_eq_some_iff.1 read
          obtain ⟨kind, named, read⟩ := Option.bind_eq_some_iff.1 read
          cases read
          exact .named (upToBrace_eq_some_iff.1 reads) (boundaryNamed?_eq_some_iff.1 named)
        · rename_i solid
          cases read
          simp only [Bool.or_eq_true, beq_iff_eq, not_or, Bool.not_eq_true] at solid
          exact .counted (skip_eq_iff_skips.1 front) solid.1 solid.2
    · rename_i noBrace
      cases read
      refine .plain ?_
      cases text <;> simp_all
  · intro spells
    cases spells with
    | @named inside word _ _ spells named =>
        obtain ⟨c, first, letter⟩ := (Option.any_eq_true _ _).1 (boundaryNames_begin _ named)
        have reads := upToBrace_eq_some_iff.2 spells
        obtain ⟨back, spaced, -⟩ := spells
        cases word with
        | nil => simp at first
        | cons d word =>
            obtain rfl : d = c := by simpa using first
            obtain ⟨rest, front, -⟩ := spaced_cons_iff.1 spaced
            simp [readBoundary, front, letter, reads, boundaryNamed?_eq_some_iff.2 named]
    | counted front solid other => simp [readBoundary, skip_eq_iff_skips.2 front, solid, other]
    | plain noBrace =>
        unfold readBoundary
        split <;> simp_all

theorem isAlphanum_eq (c : Char) : c.isAlphanum = (isAsciiLetter c || (decimalDigit? c).isSome) := by
  have letter : c.isAlphanum = (isAsciiLetter c || c.isDigit) := by
    have upper : c.isUpper = decide ('A' ≤ c ∧ c ≤ 'Z') := rfl
    have lower : c.isLower = (decide ('a' ≤ c) && decide (c ≤ 'z')) := rfl
    have either : c.isAlphanum = (c.isUpper || c.isLower || c.isDigit) := rfl
    rw [either, upper, lower, Bool.or_comm (decide _), isAsciiLetter, Bool.decide_and]
  have digit : c.isDigit = (decimalDigit? c).isSome := by
    have within : c.isDigit = (decide ('0' ≤ c) && decide (c ≤ '9')) := rfl
    rw [within, ← Bool.decide_and, decimalDigit?]
    split <;> simp [*]
  rw [letter, digit]

theorem isEscapable_iff {c : Char} :
    isEscapable c = true ↔ c.toNat < 0x80 ∧ c.isAlphanum = false ∧ c ≠ '<' ∧ c ≠ '>' := by
  simp only [isEscapable, isAlphanum_eq]
  cases isAsciiLetter c <;> cases decimalDigit? c <;> simp [and_assoc]

theorem readEscape_eq_some_iff {escape : Escape} :
    readEscape verbose text = some (escape, after) ↔ SpellsEscape verbose text escape after := by
  constructor
  · intro read
    cases text with
    | nil => cases read
    | cons c rest =>
        simp only [readEscape] at read
        split at read
        iterate 3
          · obtain ⟨⟨literal, _⟩, reads, shape⟩ := Option.map_eq_some_iff.1 read
            cases shape
            exact .code (by decide) ((readCode_eq_some_iff (by decide)).1 reads)
        · obtain ⟨name, spells, rfl⟩ := readProperty_eq_some_iff.1 read
          exact .property spells
        · obtain ⟨name, spells, rfl⟩ := readProperty_eq_some_iff.1 read
          exact .notProperty spells
        iterate 6
          · cases read
            exact .shorthand (by decide)
        iterate 6
          · cases read
            exact .control (by decide)
        iterate 2
          · cases read
            exact .assertion (by decide)
        · obtain ⟨⟨kind, _⟩, reads, shape⟩ := Option.map_eq_some_iff.1 read
          cases shape
          exact .boundary (readBoundary_eq_some_iff.1 reads)
        iterate 3
          · cases read
            exact .assertion (by decide)
        · split at read
          · rename_i escapable
            cases read
            obtain ⟨ascii, other, notLeft, notRight⟩ := isEscapable_iff.1 escapable
            exact .punctuation ascii other notLeft notRight
          · cases read
  · intro spells
    cases spells with
    | code letter spells =>
        simp only [codeLetters, List.mem_cons, Prod.mk.injEq, List.not_mem_nil, or_false] at letter
        rcases letter with ⟨rfl, rfl, rfl⟩ | ⟨rfl, rfl, rfl⟩ | ⟨rfl, rfl, rfl⟩ <;>
          simp [readEscape, (readCode_eq_some_iff (by decide)).2 spells]
    | property spells => exact readProperty_eq_some_iff.2 ⟨_, spells, rfl⟩
    | notProperty spells => exact readProperty_eq_some_iff.2 ⟨_, spells, rfl⟩
    | shorthand letter =>
        simp only [shorthandLetters, List.mem_cons, Prod.mk.injEq, List.not_mem_nil, or_false] at letter
        rcases letter with ⟨rfl, rfl, rfl⟩ | ⟨rfl, rfl, rfl⟩ | ⟨rfl, rfl, rfl⟩ | ⟨rfl, rfl, rfl⟩ |
          ⟨rfl, rfl, rfl⟩ | ⟨rfl, rfl, rfl⟩ <;> rfl
    | control letter =>
        simp only [controlLetters, List.mem_cons, Prod.mk.injEq, List.not_mem_nil, or_false] at letter
        rcases letter with ⟨rfl, rfl⟩ | ⟨rfl, rfl⟩ | ⟨rfl, rfl⟩ | ⟨rfl, rfl⟩ | ⟨rfl, rfl⟩ | ⟨rfl, rfl⟩ <;> rfl
    | assertion letter =>
        simp only [assertionLetters, List.mem_cons, Prod.mk.injEq, List.not_mem_nil, or_false] at letter
        rcases letter with ⟨rfl, rfl⟩ | ⟨rfl, rfl⟩ | ⟨rfl, rfl⟩ | ⟨rfl, rfl⟩ | ⟨rfl, rfl⟩ <;> rfl
    | boundary spells => simp [readEscape, readBoundary_eq_some_iff.2 spells]
    | punctuation ascii other notLeft notRight =>
        have escapable := isEscapable_iff.2 ⟨ascii, other, notLeft, notRight⟩
        simp only [readEscape]
        split <;> simp_all

end Escapes

end FormRules.Pattern
