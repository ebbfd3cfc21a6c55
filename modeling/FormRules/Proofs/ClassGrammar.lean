/-
This file gives the grammar of bracketed classes and shows that the reader of classes, which keeps a stack of
open brackets, follows it: a class is read if and only if its brackets close each other.
-/

import FormRules.Proofs.MarkGrammar
import FormRules.Proofs.PatternProgress

namespace FormRules.Pattern

open Relation (ReflTransGen)
open Text (isBlank)

section Words

/-- The classes that have a name. -/
def asciiClassNames : List (String × AsciiClass) :=
  [("alnum", .alnum), ("alpha", .alpha), ("ascii", .ascii), ("blank", .blank), ("cntrl", .cntrl),
    ("digit", .digit), ("graph", .graph), ("lower", .lower), ("print", .print), ("punct", .punct),
    ("space", .space), ("upper", .upper), ("word", .word), ("xdigit", .xdigit)]

/-- A class by its name, such as `[:alpha:]`, after its first bracket. -/
inductive SpellsAsciiClass : List Char → ClassSet → List Char → Prop where
  | named {name kind after} :
      (String.ofList name, kind) ∈ asciiClassNames →
      SpellsAsciiClass (':' :: (name ++ ':' :: ']' :: after)) (.ascii kind false) after
  | negated {name kind after} :
      (String.ofList name, kind) ∈ asciiClassNames →
      SpellsAsciiClass (':' :: '^' :: (name ++ ':' :: ']' :: after)) (.ascii kind true) after

/-- One item of a class, and the literal it is if it may bound a range. -/
inductive SpellsItem (verbose : Bool) : List Char → ClassSet → Option Literal → List Char → Prop where
  | character {c after} :
      c ≠ '\\' → SpellsItem verbose (c :: after) (.ofChar c) (some ⟨c, false⟩) after
  | literal {rest literal after} :
      SpellsEscape verbose rest (.literal literal) after →
      SpellsItem verbose ('\\' :: rest) (.literal literal) (some literal) after
  | shorthand {rest kind negated after} :
      SpellsEscape verbose rest (.shorthand kind negated) after →
      SpellsItem verbose ('\\' :: rest) (.shorthand kind negated) none after
  | property {rest name negated after} :
      SpellsEscape verbose rest (.property name negated) after →
      SpellsItem verbose ('\\' :: rest) (.property name negated) none after

/-- The character after a hyphen that tells a range from a hyphen that stands for itself. In a verbose pattern
it is the first one that is not blank, or the second one if the first one is a number sign. -/
inductive ComesNext (verbose : Bool) (text : List Char) : Option Char → Prop where
  | front : verbose = false → ComesNext verbose text text.head?
  | visible {c rest} :
      verbose = true → text.filter (!isBlank ·) = c :: rest → c ≠ '#' → ComesNext verbose text (some c)
  | marked {c rest} :
      verbose = true → text.filter (!isBlank ·) = '#' :: c :: rest → ComesNext verbose text (some c)
  | nothing :
      verbose = true → text.filter (!isBlank ·) = [] ∨ text.filter (!isBlank ·) = ['#'] →
      ComesNext verbose text text.head?

/-- An item or a range of a class. -/
inductive SpellsRange (verbose : Bool) : List Char → ClassSet → List Char → Prop where
  | item {text item bound between after} :
      SpellsItem verbose text item bound between → Skips verbose between after → after.head? ≠ some '-' →
      SpellsRange verbose text item after
  | hyphen {text item bound between rest next} :
      SpellsItem verbose text item bound between → Skips verbose between ('-' :: rest) →
      ComesNext verbose rest next → next = some ']' ∨ next = some '-' →
      SpellsRange verbose text item ('-' :: rest)
  | range {text firstItem first between rest next start lastItem last after} :
      SpellsItem verbose text firstItem (some first) between → Skips verbose between ('-' :: rest) →
      ComesNext verbose rest next → ¬ (next = some ']' ∨ next = some '-') → Skips verbose rest start →
      SpellsItem verbose start lastItem (some last) after → first.char ≤ last.char →
      SpellsRange verbose text (.range first last) after

/-- The characters that mean a set operation where they stand twice. -/
def operationMarks : List (Char × SetOperation) :=
  [('&', .intersection), ('-', .difference), ('~', .symmetricDifference)]

inductive SpellsOperation : List Char → SetOperation → List Char → Prop where
  | twice {c kind after} : (c, kind) ∈ operationMarks → SpellsOperation (c :: c :: after) kind after

/-- A caret at the front of a class negates it. -/
inductive SpellsNegation (verbose : Bool) : List Char → Bool → List Char → Prop where
  | caret {text rest after} :
      Skips verbose text ('^' :: rest) → Skips verbose rest after → SpellsNegation verbose text true after
  | nothing {text after} :
      Skips verbose text after → after.head? ≠ some '^' → SpellsNegation verbose text false after

/-- Hyphens at the front of a class stand for themselves. -/
inductive SpellsHyphens (verbose : Bool) : List Char → List ClassSet → List Char → Prop where
  | nothing {text} : text.head? ≠ some '-' → SpellsHyphens verbose text [] text
  | hyphen {rest between items after} :
      Skips verbose rest between → SpellsHyphens verbose between items after →
      SpellsHyphens verbose ('-' :: rest) (.ofChar '-' :: items) after

/-- The front of a class, after its bracket. A closing bracket there stands for itself. -/
inductive OpensClass (verbose : Bool) : List Char → OpenBracket → List Char → Prop where
  | bracket {text negated rest after} :
      SpellsNegation verbose text negated (']' :: rest) → Skips verbose rest after →
      OpensClass verbose text ⟨negated, none, [.ofChar ']']⟩ after
  | hyphens {text negated between items after} :
      SpellsNegation verbose text negated between → between.head? ≠ some ']' →
      SpellsHyphens verbose between items after → OpensClass verbose text ⟨negated, none, items⟩ after

variable {verbose : Bool} {text after : List Char}

theorem asciiClassNamed?_eq_some_iff {name : List Char} {kind : AsciiClass} :
    asciiClassNamed? name = some kind ↔ (String.ofList name, kind) ∈ asciiClassNames := by
  unfold asciiClassNamed?
  generalize String.ofList name = name
  split <;> simp_all [asciiClassNames, eq_comm]

/-- No name of a class holds a colon or begins with a caret. -/
theorem asciiClassNames_solid :
    ∀ entry ∈ asciiClassNames, ':' ∉ entry.1.toList ∧ entry.1.toList.head? ≠ some '^' := by
  decide

theorem cutAtFirst_of_named {name : List Char} {kind : AsciiClass} (after : List Char)
    (named : (String.ofList name, kind) ∈ asciiClassNames) :
    Text.cutAtFirst ':' (name ++ ':' :: ']' :: after) = (name, some (']' :: after)) := by
  have solid := (asciiClassNames_solid _ named).1
  exact Text.cutAtFirst_append (by simpa using solid) _

theorem readAsciiClass_eq_some_iff {item : ClassSet} :
    readAsciiClass text = some (item, after) ↔ SpellsAsciiClass text item after := by
  constructor
  · intro read
    unfold readAsciiClass at read
    split at read
    · rename_i rest
      simp only at read
      split at read
      · rename_i name _ cut
        obtain ⟨kind, named, shape⟩ := Option.map_eq_some_iff.1 read
        cases shape
        have listed := asciiClassNamed?_eq_some_iff.1 named
        split at cut
        · obtain ⟨-, rfl⟩ := Text.cutAtFirst_eq_some_iff.1 cut
          exact .negated listed
        · obtain ⟨-, rfl⟩ := Text.cutAtFirst_eq_some_iff.1 cut
          exact .named listed
      · cases read
    · cases read
  · intro spells
    cases spells with
    | @named name _ after listed =>
        -- With this in the context `simp` decides whether the name is negated.
        have noCaret : ∀ rest, name ++ ':' :: ']' :: after = '^' :: rest → False := by
          have first := (asciiClassNames_solid _ listed).2
          cases name <;> simp_all
        simp [readAsciiClass, cutAtFirst_of_named _ listed, asciiClassNamed?_eq_some_iff.2 listed]
    | negated listed =>
        simp [readAsciiClass, cutAtFirst_of_named _ listed, asciiClassNamed?_eq_some_iff.2 listed]

theorem readItem_eq_some_iff {item : ClassSet} {bound : Option Literal} :
    readItem verbose text = some (item, bound, after) ↔ SpellsItem verbose text item bound after := by
  constructor
  · intro read
    unfold readItem at read
    split at read
    · cases read
    · split at read
      · rename_i reads
        cases read
        exact .literal (readEscape_eq_some_iff.1 reads)
      · rename_i reads
        cases read
        exact .shorthand (readEscape_eq_some_iff.1 reads)
      · rename_i reads
        cases read
        exact .property (readEscape_eq_some_iff.1 reads)
      · cases read
      · cases read
    · rename_i plain
      cases read
      exact .character (by grind)
  · intro spells
    cases spells with
    | character plain =>
        unfold readItem
        split <;> simp_all
    | literal spells => simp [readItem, readEscape_eq_some_iff.2 spells]
    | shorthand spells => simp [readItem, readEscape_eq_some_iff.2 spells]
    | property spells => simp [readItem, readEscape_eq_some_iff.2 spells]

theorem firstVisible_true (text : List Char) : firstVisible true text = (text.filter (!isBlank ·)).head? := by
  induction text with
  | nil => rfl
  | cons c rest inductionHypothesis =>
      cases blank : isBlank c <;> simp [firstVisible, blank, inductionHypothesis]

theorem firstVisible_false (text : List Char) :
    firstVisible false text =
      match text.filter (!isBlank ·) with
      | '#' :: rest => rest.head?
      | visible => visible.head? := by
  induction text with
  | nil => rfl
  | cons c rest inductionHypothesis =>
      by_cases blank : isBlank c = true
      · simp [firstVisible, blank, inductionHypothesis]
      by_cases mark : c = '#'
      · subst mark
        simp [firstVisible, blank, firstVisible_true]
      · simp [firstVisible, blank, mark]

theorem peek_eq_iff {next : Option Char} : peek verbose text = next ↔ ComesNext verbose text next := by
  constructor
  · intro peeks
    subst peeks
    cases verbose with
    | false => exact .front rfl
    | true =>
        simp only [peek, if_true, firstVisible_false]
        split
        · rename_i rest visible
          cases rest with
          | nil => exact .nothing rfl (.inr visible)
          | cons c rest => exact .marked rfl visible
        · rename_i unmarked
          cases visible : text.filter (!isBlank ·) with
          | nil => exact .nothing rfl (.inl visible)
          | cons c rest => exact .visible rfl visible fun mark => unmarked rest (mark ▸ visible)
  · intro comes
    cases comes with
    | front plain => simp [peek, plain]
    | visible isVerbose visible unmarked =>
        simp only [peek, isVerbose, if_true, firstVisible_false, visible]
        split <;> simp_all
    | marked isVerbose visible => simp [peek, isVerbose, firstVisible_false, visible]
    | nothing isVerbose visible =>
        rcases visible with visible | visible <;> simp [peek, isVerbose, firstVisible_false, visible]

theorem readRange_eq_some_iff {item : ClassSet} :
    readRange verbose text = some (item, after) ↔ SpellsRange verbose text item after := by
  constructor
  · intro read
    obtain ⟨⟨first, bound, between⟩, reads, read⟩ := Option.bind_eq_some_iff.1 read
    have spells := readItem_eq_some_iff.1 reads
    simp only at read
    split at read
    · rename_i rest front
      have skips := skip_eq_iff_skips.1 front
      have comes : ComesNext verbose rest (peek verbose rest) := peek_eq_iff.1 rfl
      split at read
      · rename_i closes
        cases read
        exact .hyphen spells skips comes closes
      · rename_i opens
        obtain ⟨⟨lastItem, lastBound, behind⟩, readsLast, read⟩ := Option.bind_eq_some_iff.1 read
        obtain ⟨first, rfl, readsLastBound⟩ := Option.bind_eq_some_iff.1 read
        obtain ⟨last, isLast, shape⟩ := Option.bind_eq_some_iff.1 readsLastBound
        obtain rfl : lastBound = some last := isLast
        by_cases ordered : first.char ≤ last.char
        · rw [if_pos ordered] at shape
          cases shape
          exact .range spells skips comes opens (skip_eq_iff_skips.1 rfl) (readItem_eq_some_iff.1 readsLast) ordered
        · rw [if_neg ordered] at shape
          cases shape
    · rename_i noHyphen
      cases read
      refine .item spells (skip_eq_iff_skips.1 rfl) ?_
      cases front : skip verbose between <;> simp_all
  · intro spells
    cases spells with
    | item spells skips noHyphen =>
        simp only [readRange, readItem_eq_some_iff.2 spells, skip_eq_iff_skips.2 skips, Option.bind_eq_bind,
          Option.bind_some]
        split <;> simp_all
    | hyphen spells skips comes closes =>
        simp [readRange, readItem_eq_some_iff.2 spells, skip_eq_iff_skips.2 skips, peek_eq_iff.2 comes, closes]
    | range spells skips comes opens skipsLast spellsLast ordered =>
        simp [readRange, readItem_eq_some_iff.2 spells, skip_eq_iff_skips.2 skips, peek_eq_iff.2 comes, opens,
          skip_eq_iff_skips.2 skipsLast, readItem_eq_some_iff.2 spellsLast, ordered]

theorem readOperation_eq_some_iff {kind : SetOperation} :
    readOperation text = some (kind, after) ↔ SpellsOperation text kind after := by
  constructor
  · intro read
    unfold readOperation at read
    split at read
    iterate 3
      · cases read
        exact .twice (by decide)
    · cases read
  · intro spells
    cases spells with
    | twice mark =>
        simp only [operationMarks, List.mem_cons, Prod.mk.injEq, List.not_mem_nil, or_false] at mark
        rcases mark with ⟨rfl, rfl⟩ | ⟨rfl, rfl⟩ | ⟨rfl, rfl⟩ <;> rfl

theorem spellsHyphens_leadingHyphens (verbose : Bool) (text : List Char) :
    SpellsHyphens verbose text (leadingHyphens verbose text).1 (leadingHyphens verbose text).2 := by
  fun_induction leadingHyphens verbose text with
  | case1 rest items after read inductionHypothesis =>
      rw [read] at inductionHypothesis
      exact .hyphen (skip_eq_iff_skips.1 rfl) inductionHypothesis
  | case2 text solid => exact .nothing (by cases text <;> simp_all)

theorem leadingHyphens_eq_iff {items : List ClassSet} :
    leadingHyphens verbose text = (items, after) ↔ SpellsHyphens verbose text items after := by
  constructor
  · intro read
    have spells := spellsHyphens_leadingHyphens verbose text
    rwa [read] at spells
  · intro spells
    induction spells with
    | nothing solid =>
        unfold leadingHyphens
        split <;> simp_all
    | hyphen skips _ inductionHypothesis =>
        rw [leadingHyphens, skip_eq_iff_skips.2 skips, inductionHypothesis]

theorem readNegation_eq_iff {negated : Bool} :
    readNegation verbose text = (negated, after) ↔ SpellsNegation verbose text negated after := by
  constructor
  · intro read
    unfold readNegation at read
    split at read
    · rename_i rest caret
      cases read
      exact .caret (skip_eq_iff_skips.1 caret) (skip_eq_iff_skips.1 rfl)
    · rename_i noCaret
      cases read
      refine .nothing (skip_eq_iff_skips.1 rfl) fun front => ?_
      obtain ⟨rest, caret⟩ := List.head?_eq_some_iff.1 front
      exact noCaret rest caret
  · intro spells
    cases spells with
    | caret caret skips => simp [readNegation, skip_eq_iff_skips.2 caret, skip_eq_iff_skips.2 skips]
    | nothing skips noCaret =>
        unfold readNegation
        rw [skip_eq_iff_skips.2 skips]
        split
        · simp at noCaret
        · rfl

theorem readOpening_eq_iff {bracket : OpenBracket} :
    readOpening verbose text = (bracket, after) ↔ OpensClass verbose text bracket after := by
  constructor
  · intro read
    obtain ⟨negated, between, negation⟩ : ∃ negated between, readNegation verbose text = (negated, between) :=
      ⟨_, _, rfl⟩
    have hyphens := spellsHyphens_leadingHyphens verbose between
    simp only [readOpening, negation] at read
    rw [readNegation_eq_iff] at negation
    split at read
    · rename_i rest front
      cases read
      rw [front] at hyphens
      cases hyphens
      exact .bracket negation (skip_eq_iff_skips.1 rfl)
    · rename_i items rest other front
      cases read
      rw [front] at hyphens
      refine .hyphens negation ?_ hyphens
      intro bracket
      obtain ⟨back, shape⟩ := List.head?_eq_some_iff.1 bracket
      cases hyphens with
      | nothing => exact other back rfl shape
      | hyphen => cases shape
  · intro opens
    cases opens with
    | @bracket negated rest _ negation skips =>
        have noHyphen : leadingHyphens verbose (']' :: rest) = ([], ']' :: rest) :=
          leadingHyphens_eq_iff.2 (.nothing (by simp))
        simp [readOpening, readNegation_eq_iff.2 negation, noHyphen, skip_eq_iff_skips.2 skips]
    | hyphens negation noBracket hyphens =>
        simp only [readOpening, readNegation_eq_iff.2 negation, leadingHyphens_eq_iff.2 hyphens]
        split
        · rename_i front
          cases front
          cases hyphens
          simp at noBracket
        · rename_i front
          cases front
          rfl

theorem opensClass_readOpening (verbose : Bool) (text : List Char) :
    OpensClass verbose text (readOpening verbose text).1 (readOpening verbose text).2 :=
  readOpening_eq_iff.1 rfl

end Words

variable {verbose : Bool}

/-- `Fills verbose opened text filled after` says that the front of the text turns the bracket `opened` into
`filled`. It holds items and set operations, and closes every bracket that it opens. -/
inductive Fills (verbose : Bool) : OpenBracket → List Char → OpenBracket → List Char → Prop where
  | nothing {opened text} : Fills verbose opened text opened text
  | ascii {opened filled text between rest item after} :
      Fills verbose opened text filled between → Skips verbose between ('[' :: rest) →
      SpellsAsciiClass rest item after → Fills verbose opened text (filled.push item) after
  | bracket {opened filled enclosed inner text between rest front inside after} :
      Fills verbose opened text filled between → Skips verbose between ('[' :: rest) →
      (∀ item after, ¬ SpellsAsciiClass rest item after) → OpensClass verbose rest enclosed front →
      Fills verbose enclosed front inner inside → Skips verbose inside (']' :: after) →
      Fills verbose opened text (filled.push (.bracket inner.negated inner.content)) after
  | operation {opened filled text between front kind after} :
      Fills verbose opened text filled between → Skips verbose between front →
      SpellsOperation front kind after → Fills verbose opened text (filled.operate kind) after
  | range {opened filled text between c rest item after} :
      Fills verbose opened text filled between → Skips verbose between (c :: rest) → c ≠ '[' → c ≠ ']' →
      (∀ kind after, ¬ SpellsOperation (c :: rest) kind after) →
      SpellsRange verbose (c :: rest) item after → Fills verbose opened text (filled.push item) after

/-- Every open bracket was opened inside of the one around it. -/
inductive ClassState.Nested (verbose : Bool) (start : List Char) : ClassState → Prop where
  | outermost {opened front filled text} :
      OpensClass verbose start opened front → Fills verbose opened front filled text →
      Nested verbose start ⟨filled, [], text⟩
  | inner {enclosing outer between rest opened front filled text} :
      Nested verbose start ⟨enclosing, outer, between⟩ → Skips verbose between ('[' :: rest) →
      (∀ item after, ¬ SpellsAsciiClass rest item after) → OpensClass verbose rest opened front →
      Fills verbose opened front filled text → Nested verbose start ⟨filled, enclosing :: outer, text⟩

theorem readAsciiClass_eq_none_iff {text : List Char} :
    readAsciiClass text = none ↔ ∀ item after, ¬ SpellsAsciiClass text item after := by
  simp only [Option.eq_none_iff_forall_ne_some, Prod.forall, ne_eq, readAsciiClass_eq_some_iff]

theorem readOperation_eq_none_iff {text : List Char} :
    readOperation text = none ↔ ∀ kind after, ¬ SpellsOperation text kind after := by
  simp only [Option.eq_none_iff_forall_ne_some, Prod.forall, ne_eq, readOperation_eq_some_iff]

namespace ClassState.Nested

variable {start text after : List Char} {filled more : OpenBracket} {outer : List OpenBracket}
  {state next : ClassState}

/-- The innermost bracket can be filled further. -/
theorem extend (nested : Nested verbose start ⟨filled, outer, text⟩)
    (further : ∀ {opened front}, Fills verbose opened front filled text →
      Fills verbose opened front more after) : Nested verbose start ⟨more, outer, after⟩ := by
  cases nested with
  | outermost opens fills => exact .outermost opens (further fills)
  | inner around front noAscii opens fills => exact .inner around front noAscii opens (further fills)

theorem step (nested : Nested verbose start state) (step : ClassStep verbose state next) :
    Nested verbose start next := by
  cases step with
  | ascii front read =>
      have spells := readAsciiClass_eq_some_iff.1 read
      exact nested.extend fun fills => fills.ascii (skip_eq_iff_skips.1 front) spells
  | enter front noAscii =>
      exact .inner nested (skip_eq_iff_skips.1 front) (readAsciiClass_eq_none_iff.1 noAscii)
        (opensClass_readOpening _ _) .nothing
  | leave front =>
      cases nested with
      | inner around opening noAscii opens fills =>
          exact around.extend fun outside =>
            outside.bracket opening noAscii opens fills (skip_eq_iff_skips.1 front)
  | operation read =>
      have spells := readOperation_eq_some_iff.1 read
      exact nested.extend fun fills => fills.operation (skip_eq_iff_skips.1 rfl) spells
  | range front notOpening notClosing noKind read =>
      have spells := readRange_eq_some_iff.1 read
      exact nested.extend fun fills => fills.range (skip_eq_iff_skips.1 front) notOpening notClosing
        (readOperation_eq_none_iff.1 noKind) spells

theorem leads (nested : Nested verbose start state) (led : ReflTransGen (ClassStep verbose) state next) :
    Nested verbose start next := by
  induction led with
  | refl => exact nested
  | tail _ last inductionHypothesis => exact inductionHypothesis.step last

end ClassState.Nested

/-- What fills a bracket is read with any brackets around it. -/
theorem Fills.leads {opened filled : OpenBracket} {text after : List Char}
    (fills : Fills verbose opened text filled after) (outer : List OpenBracket) :
    ReflTransGen (ClassStep verbose) ⟨opened, outer, text⟩ ⟨filled, outer, after⟩ := by
  induction fills generalizing outer with
  | nothing => exact .refl
  | ascii _ front spells inductionHypothesis =>
      refine (inductionHypothesis outer).tail (.ascii (skip_eq_iff_skips.2 front) ?_)
      exact readAsciiClass_eq_some_iff.2 spells
  | @bracket _ filled _ _ _ between _ _ _ _ _ opening noAscii opens _ closing outside inside =>
      have entered : ClassStep verbose ⟨filled, outer, between⟩ _ :=
        .enter (skip_eq_iff_skips.2 opening) (readAsciiClass_eq_none_iff.2 noAscii)
      rw [readOpening_eq_iff.2 opens] at entered
      have led := (outside outer).tail entered
      exact led.trans ((inside (filled :: outer)).tail (.leave (skip_eq_iff_skips.2 closing)))
  | operation _ front spells inductionHypothesis =>
      have read := readOperation_eq_some_iff.2 spells
      rw [← skip_eq_iff_skips.2 front] at read
      exact (inductionHypothesis outer).tail (.operation read)
  | range _ front notOpening notClosing noKind spells inductionHypothesis =>
      refine (inductionHypothesis outer).tail (.range (skip_eq_iff_skips.2 front) notOpening notClosing ?_ ?_)
      · exact readOperation_eq_none_iff.2 noKind
      · exact readRange_eq_some_iff.2 spells

/-- The reader of classes follows the grammar. -/
theorem readClass_eq_some_iff_fills {text after : List Char} {node : Node} :
    readClass verbose text = some (node, after) ↔ ∃ opened front filled inside,
      OpensClass verbose text opened front ∧ Fills verbose opened front filled inside ∧
        Skips verbose inside (']' :: after) ∧ node = .bracket filled.negated filled.content := by
  rw [readClass_eq_some_iff]
  constructor
  · intro read
    obtain ⟨last, led, closed, closing, shape⟩ := read
    cases (ClassState.Nested.outermost (opensClass_readOpening verbose text) .nothing).leads led with
    | outermost opens fills => exact ⟨_, _, _, _, opens, fills, skip_eq_iff_skips.1 closing, shape⟩
    | inner => cases closed
  · intro read
    obtain ⟨opened, front, filled, inside, opens, fills, closing, shape⟩ := read
    rw [readOpening_eq_iff.2 opens]
    exact ⟨_, fills.leads [], rfl, skip_eq_iff_skips.2 closing, shape⟩

end FormRules.Pattern
