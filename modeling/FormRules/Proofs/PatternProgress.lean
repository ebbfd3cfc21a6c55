/-
This file shows that the readers of a pattern take its text from the front: what they leave is no longer than
what they were given. So a reader whose steps are bounded by the length of the text is never stopped by the
bound.
-/

import FormRules.Pattern.Reader
import Mathlib.Logic.Relation

namespace FormRules.Pattern

variable {text after : List Char} {verbose : Bool}

attribute [local grind =] Option.map_eq_some_iff Option.bind_eq_some_iff


@[grind →]
theorem length_upToBrace_le {comment : Bool} {name : List Char}
    (read : upToBrace verbose comment text = some (name, after)) : after.length ≤ text.length := by
  fun_induction upToBrace verbose comment text generalizing name <;> grind

@[grind →]
theorem length_readHexDigits_le {count : Nat} {digits : List Nat}
    (read : readHexDigits verbose count text = some (digits, after)) : after.length ≤ text.length := by
  fun_induction readHexDigits verbose count text generalizing digits <;> grind [length_skip_le]

@[grind →]
theorem length_readCode_le {count : Nat} {byteEscape : Bool} {literal : Literal}
    (read : readCode verbose count byteEscape text = some (literal, after)) : after.length ≤ text.length := by
  unfold readCode at read
  grind [length_skip_le]

@[grind →]
theorem length_readProperty_le {negated : Bool} {escape : Escape}
    (read : readProperty verbose negated text = some (escape, after)) : after.length ≤ text.length := by
  unfold readProperty at read
  grind [length_skip_le]

@[grind →]
theorem length_readBoundary_le {kind : Assertion}
    (read : readBoundary verbose text = some (kind, after)) : after.length ≤ text.length := by
  unfold readBoundary at read
  grind

@[grind →]
theorem length_readEscape_lt {escape : Escape}
    (read : readEscape verbose text = some (escape, after)) : after.length < text.length := by
  unfold readEscape at read
  grind

theorem length_readDigits_le : (readDigits verbose text).2.length ≤ text.length := by
  fun_induction readDigits verbose text <;> grind [length_skip_le]

@[grind →]
theorem length_readCount_le {count : Nat} (read : readCount verbose text = some (count, after)) :
    after.length ≤ text.length := by
  unfold readCount at read
  grind [length_readDigits_le, List.dropWhile_sublist, List.Sublist.length_le]

@[grind →]
theorem length_readCounts_le {least : Nat} {most : Option Nat}
    (read : readCounts verbose text = some (least, most, after)) : after.length ≤ text.length := by
  unfold readCounts at read
  obtain ⟨⟨_, rest⟩, readLeast, read⟩ := Option.bind_eq_some_iff.1 read
  have skipped := length_skip_le verbose text
  have shorter := length_readCount_le readLeast
  grind [length_skip_le]

theorem length_readGreed_le (text : List Char) : (readGreed text).2.length ≤ text.length := by
  unfold readGreed
  grind

@[grind →]
theorem length_repeatFrom_le {state next : ReaderState} {least : Nat} {most : Option Nat}
    (read : repeatFrom state least most text = some (next, after)) : after.length ≤ text.length := by
  unfold repeatFrom at read
  grind [length_readGreed_le]

@[grind →]
theorem length_readFlags_le {seen : List Flag} {clearing afterHyphen : Bool} {changes : List FlagChange}
    (read : readFlags seen clearing afterHyphen text = some (changes, after)) : after.length ≤ text.length := by
  fun_induction readFlags seen clearing afterHyphen text generalizing changes <;> grind

@[grind →]
theorem length_of_cutAtFirst {separator : Char} {before : List Char}
    (cut : Text.cutAtFirst separator text = (before, some after)) : after.length < text.length := by
  have rebuilt := Text.cutAtFirst_rebuild separator text
  grind

@[grind →]
theorem length_readName_lt {name : List Char}
    (read : readName text = some (name, after)) : after.length < text.length := by
  unfold readName at read
  grind

theorem length_leadingHyphens_le : (leadingHyphens verbose text).2.length ≤ text.length := by
  fun_induction leadingHyphens verbose text <;> grind [length_skip_le]

theorem length_readOpening_le : (readOpening verbose text).2.length ≤ text.length := by
  unfold readOpening readNegation
  grind [length_skip_le, length_leadingHyphens_le]

@[grind →]
theorem length_readAsciiClass_lt {item : ClassSet}
    (read : readAsciiClass text = some (item, after)) : after.length < text.length := by
  unfold readAsciiClass at read
  grind

@[grind →]
theorem length_readItem_lt {item : ClassSet} {literal : Option Literal}
    (read : readItem verbose text = some (item, literal, after)) : after.length < text.length := by
  unfold readItem at read
  grind

@[grind →]
theorem length_readRange_lt {item : ClassSet}
    (read : readRange verbose text = some (item, after)) : after.length < text.length := by
  unfold readRange at read
  obtain ⟨⟨_, first, rest⟩, readFirst, read⟩ := Option.bind_eq_some_iff.1 read
  have skipped := length_skip_le verbose rest
  have shorter := length_readItem_lt readFirst
  simp only at read
  split at read
  · rename_i beyond found
    rw [found] at skipped
    split at read
    · grind
    · obtain ⟨⟨_, last, _⟩, readLast, read⟩ := Option.bind_eq_some_iff.1 read
      have skippedBeyond := length_skip_le verbose beyond
      have shorterBeyond := length_readItem_lt readLast
      grind
  · grind

@[grind →]
theorem length_readOperation_lt {kind : SetOperation}
    (read : readOperation text = some (kind, after)) : after.length < text.length := by
  unfold readOperation at read
  grind

/-- Runs that are bounded by a number of steps come to the end that the steps lead to, if every step shrinks
what the bound exceeds. -/
theorem run_eq_some_iff {State Result : Type} {step : State → State → Prop} {final : State → Result → Prop}
    (run : Nat → State → Option Result) (size : State → Nat) (stopped : ∀ state, run 0 state = none)
    (runs : ∀ steps state result, run (steps + 1) state = some result ↔
      final state result ∨ ∃ next, step state next ∧ run steps next = some result)
    (shrinks : ∀ state next, step state next → size next < size state) {steps : Nat} {state : State}
    {result : Result} (enough : size state < steps) :
    run steps state = some result ↔ ∃ last, Relation.ReflTransGen step state last ∧ final last result := by
  constructor
  · intro finished
    clear enough
    induction steps generalizing state with
    | zero => simp [stopped] at finished
    | succ steps inductionHypothesis =>
        rcases (runs _ _ _).1 finished with ends | ⟨next, stepped, finished⟩
        · exact ⟨state, .refl, ends⟩
        · obtain ⟨last, led, ends⟩ := inductionHypothesis finished
          exact ⟨last, .head stepped led, ends⟩
  · intro led
    obtain ⟨last, led, ends⟩ := led
    induction led using Relation.ReflTransGen.head_induction_on generalizing steps with
    | refl =>
        cases steps with
        | zero => omega
        | succ steps => exact (runs _ _ _).2 (.inl ends)
    | head stepped _ inductionHypothesis =>
        have shrunk := shrinks _ _ stepped
        cases steps with
        | zero => omega
        | succ steps => exact (runs _ _ _).2 (.inr ⟨_, stepped, inductionHypothesis (by omega)⟩)

/-- What the reader of a class holds between two steps. -/
structure ClassState where
  bracket : OpenBracket
  outer : List OpenBracket
  text : List Char

/-- What one step of the reader of a class can do. -/
inductive ClassStep (verbose : Bool) : ClassState → ClassState → Prop where
  | ascii {bracket outer text rest item after} :
      skip verbose text = '[' :: rest → readAsciiClass rest = some (item, after) →
      ClassStep verbose ⟨bracket, outer, text⟩ ⟨bracket.push item, outer, after⟩
  | enter {bracket outer text rest} :
      skip verbose text = '[' :: rest → readAsciiClass rest = none →
      ClassStep verbose ⟨bracket, outer, text⟩
        ⟨(readOpening verbose rest).1, bracket :: outer, (readOpening verbose rest).2⟩
  | leave {bracket enclosing outer text after} :
      skip verbose text = ']' :: after →
      ClassStep verbose ⟨bracket, enclosing :: outer, text⟩
        ⟨enclosing.push (.bracket bracket.negated bracket.content), outer, after⟩
  | operation {bracket outer text kind after} :
      readOperation (skip verbose text) = some (kind, after) →
      ClassStep verbose ⟨bracket, outer, text⟩ ⟨bracket.operate kind, outer, after⟩
  | range {bracket outer text c rest item after} :
      skip verbose text = c :: rest → c ≠ '[' → c ≠ ']' → readOperation (c :: rest) = none →
      readRange verbose (c :: rest) = some (item, after) →
      ClassStep verbose ⟨bracket, outer, text⟩ ⟨bracket.push item, outer, after⟩

/-- The outermost bracket is closed, and the class with it. -/
def ClassState.Ends (verbose : Bool) (state : ClassState) (found : Node × List Char) : Prop :=
  state.outer = [] ∧ skip verbose state.text = ']' :: found.2 ∧
    found.1 = .bracket state.bracket.negated state.bracket.content

theorem ClassStep.length_lt {state next : ClassState} (step : ClassStep verbose state next) :
    next.text.length < state.text.length := by
  have skipped := length_skip_le verbose state.text
  cases step with
  | ascii front read => grind
  | enter front _ => grind [length_readOpening_le]
  | leave front => grind
  | operation read => grind
  | range front _ _ _ read => grind

theorem readClassFrom_succ_eq_some_iff {steps : Nat} {state : ClassState} {found : Node × List Char} :
    readClassFrom verbose (steps + 1) state.bracket state.outer state.text = some found ↔
      state.Ends verbose found ∨ ∃ next, ClassStep verbose state next ∧
        readClassFrom verbose steps next.bracket next.outer next.text = some found := by
  obtain ⟨bracket, outer, text⟩ := state
  constructor
  · intro read
    unfold readClassFrom at read
    split at read
    · cases read
    · rename_i rest front
      split at read
      · rename_i item after readAscii
        exact .inr ⟨⟨_, _, _⟩, .ascii front readAscii, read⟩
      · rename_i noAscii
        exact .inr ⟨⟨_, _, _⟩, .enter front noAscii, read⟩
    · rename_i rest front
      cases outer with
      | nil =>
          cases read
          exact .inl ⟨rfl, front, rfl⟩
      | cons enclosing outer => exact .inr ⟨⟨_, _, _⟩, .leave front, read⟩
    · rename_i c rest notOpening notClosing front
      split at read
      · rename_i kind after readKind
        exact .inr ⟨⟨_, _, _⟩, .operation (front ▸ readKind), read⟩
      · rename_i noKind
        split at read
        · rename_i item after readItem
          exact .inr ⟨⟨_, _, _⟩, .range front (by grind) (by grind) noKind readItem, read⟩
        · cases read
  · intro continues
    unfold readClassFrom
    rcases continues with ⟨rfl, front, shape⟩ | ⟨next, step, read⟩
    · simp only [front]
      grind
    · cases step with
      | ascii front readAscii => simpa only [front, readAscii] using read
      | enter front noAscii => simpa only [front, noAscii] using read
      | leave front => simpa only [front] using read
      | operation readKind => grind [readOperation]
      | range front notOpening notClosing noKind readItem => grind

theorem ClassStep.length_le_of_leads {state last : ClassState}
    (led : Relation.ReflTransGen (ClassStep verbose) state last) : last.text.length ≤ state.text.length := by
  induction led with
  | refl => exact Nat.le_refl _
  | tail _ step inductionHypothesis => exact Nat.le_trans (Nat.le_of_lt step.length_lt) inductionHypothesis

/-- A class is read if steps lead from its opening to its end. -/
theorem readClass_eq_some_iff {found : Node × List Char} :
    readClass verbose text = some found ↔ ∃ last : ClassState,
      Relation.ReflTransGen (ClassStep verbose)
          ⟨(readOpening verbose text).1, [], (readOpening verbose text).2⟩ last ∧
        last.Ends verbose found := by
  let opened : ClassState := ⟨(readOpening verbose text).1, [], (readOpening verbose text).2⟩
  have enough : opened.text.length < text.length + 1 := Nat.lt_succ_of_le length_readOpening_le
  exact run_eq_some_iff
    (fun steps (state : ClassState) => readClassFrom verbose steps state.bracket state.outer state.text)
    (fun state => state.text.length) (fun _ => by simp [readClassFrom])
    (fun _ _ _ => readClassFrom_succ_eq_some_iff) (fun _ _ step => step.length_lt)
    enough

@[grind →]
theorem length_readClass_lt {node : Node} (read : readClass verbose text = some (node, after)) :
    after.length < text.length := by
  obtain ⟨last, led, -, front, -⟩ := readClass_eq_some_iff.1 read
  have opening : (readOpening verbose text).2.length ≤ text.length := length_readOpening_le
  have shorter := ClassStep.length_le_of_leads led
  have skipped := length_skip_le verbose last.text
  grind

@[grind →]
theorem length_readOpenGroup_le {state next : ReaderState}
    (read : readOpenGroup state text = some (next, after)) : after.length ≤ text.length := by
  unfold readOpenGroup at read
  grind [length_skip_le]

theorem length_readPart_le {state next : ReaderState} {c : Char}
    (read : readPart state c text = some (next, after)) : after.length ≤ text.length := by
  unfold readPart at read
  grind [length_skip_le]

/-- What the reader of a pattern holds between two steps. -/
structure Reading where
  state : ReaderState
  text : List Char

/-- One step of the reader of a pattern reads one part. -/
def Reading.Step (reading next : Reading) : Prop :=
  ∃ c rest, skip reading.state.verbose reading.text = c :: rest ∧
    readPart reading.state c rest = some (next.state, next.text)

/-- The text has ended, and every group was closed. -/
def Reading.Ends (reading : Reading) (node : Node) : Prop :=
  skip reading.state.verbose reading.text = [] ∧ reading.state.groups = [] ∧
    node = reading.state.content

theorem Reading.Step.length_lt {reading next : Reading} (step : reading.Step next) :
    next.text.length < reading.text.length := by
  obtain ⟨c, rest, front, read⟩ := step
  have skipped := length_skip_le reading.state.verbose reading.text
  have shorter := length_readPart_le read
  grind

theorem readFrom_succ_eq_some_iff {steps : Nat} {reading : Reading} {node : Node} :
    readFrom (steps + 1) reading.state reading.text = some node ↔
      reading.Ends node ∨
        ∃ next, reading.Step next ∧ readFrom steps next.state next.text = some node := by
  rw [readFrom]
  unfold Reading.Ends Reading.Step
  cases front : skip reading.state.verbose reading.text with
  | nil => grind
  | cons c rest =>
      cases read : readPart reading.state c rest with
      | none => grind
      | some found =>
          simp only [read]
          constructor
          · intro finished
            exact .inr ⟨⟨found.1, found.2⟩, ⟨c, rest, rfl, read⟩, finished⟩
          · grind

/-- A text spells a written pattern if steps lead from its front to its end. -/
theorem Node.read?_eq_some_iff {node : Node} :
    Node.read? text = some node ↔ node.depth ≤ depthLimit ∧ ∃ last : Reading,
      Relation.ReflTransGen Reading.Step ⟨.initial, text⟩ last ∧ last.Ends node := by
  have runs : readFrom (text.length + 1) .initial text = some node ↔ ∃ last : Reading,
      Relation.ReflTransGen Reading.Step ⟨.initial, text⟩ last ∧ last.Ends node := by
    let start : Reading := ⟨.initial, text⟩
    have enough : start.text.length < text.length + 1 := Nat.lt_succ_self _
    exact run_eq_some_iff (fun steps (reading : Reading) => readFrom steps reading.state reading.text)
      (fun reading => reading.text.length) (fun _ => by simp [readFrom])
      (fun _ _ _ => readFrom_succ_eq_some_iff) (fun _ _ step => step.length_lt) enough
  rw [← runs, Node.read?]
  grind

end FormRules.Pattern
