/-
This file shows that the search finds what an expression spans: `occurs_iff` ties the residuals, which read a
text from one of its positions, to the spans of an expression.
-/

import FormRules.Pattern.Match

namespace FormRules.Pattern

/-- A residual spans a word that its expressions span one after the other. -/
def SpansInTurn (before after : Option Char) : Residual → List Char → Prop
  | [], word => word = []
  | expr :: rest, word =>
      ∃ first second, word = first ++ second ∧ Spans before (second.head?.or after) expr first
        ∧ SpansInTurn (first.getLast?.or before) after rest second

theorem head?_or_append {after : Option Char} (first second : List Char) :
    (first ++ second).head?.or after = first.head?.or (second.head?.or after) := by
  rw [List.head?_append, Option.or_assoc]

theorem getLast?_or_append {before : Option Char} (first second : List Char) :
    (first ++ second).getLast?.or before = second.getLast?.or (first.getLast?.or before) := by
  rw [List.getLast?_append, Option.or_assoc]

theorem spans_nil_rep {before after : Option Char} {greedy : Bool} {least : Nat} {extra : Option Nat}
    {body : Expr} (spans : Spans before after (.rep greedy least extra body) []) :
    least = 0 ∨ Spans before after body [] := by
  generalize shape : Expr.rep greedy least extra body = expr at spans
  generalize nothing : ([] : List Char) = word at spans
  cases spans <;> try contradiction
  case repDone => cases shape; exact .inl rfl
  case repLeast first _ =>
    cases shape
    obtain ⟨rfl, rfl⟩ := List.append_eq_nil_iff.1 nothing.symm
    exact .inr first
  case repExtra => cases shape; exact .inl rfl

/-- Empty iterations can be put in front of a repetition. -/
theorem spans_rep_of_nil {before after : Option Char} {greedy : Bool} {least : Nat} {extra : Option Nat}
    {body : Expr} {word : List Char} (count : Nat) (empty : Spans before (word.head?.or after) body [])
    (spans : Spans before after (.rep greedy least extra body) word) :
    Spans before after (.rep greedy (least + count) extra body) word := by
  induction count with
  | zero => exact spans
  | succ count inductionHypothesis => exact .repLeast empty inductionHypothesis

theorem nullable_iff {expr : Expr} {before after : Option Char} :
    expr.nullable before after = true ↔ Spans before after expr [] := by
  induction expr generalizing before after with
  | empty => exact ⟨fun _ => .empty, fun _ => rfl⟩
  | chars set => exact ⟨nofun, nofun⟩
  | look kind =>
      refine ⟨.look, fun spans => ?_⟩
      cases spans
      assumption
  | cat first second firstHypothesis secondHypothesis =>
      simp only [Expr.nullable, Bool.and_eq_true, firstHypothesis, secondHypothesis]
      constructor
      · rintro ⟨left, right⟩
        exact @Spans.cat _ _ _ _ [] [] left right
      · intro spans
        generalize nothing : ([] : List Char) = word at spans
        cases spans with
        | cat left right =>
            obtain ⟨rfl, rfl⟩ := List.append_eq_nil_iff.1 nothing.symm
            exact ⟨left, right⟩
  | alt left right leftHypothesis rightHypothesis =>
      simp only [Expr.nullable, Bool.or_eq_true, leftHypothesis, rightHypothesis]
      constructor
      · rintro (spans | spans)
        · exact .altLeft spans
        · exact .altRight spans
      · intro spans
        cases spans with
        | altLeft spans => exact .inl spans
        | altRight spans => exact .inr spans
  | rep greedy least extra body bodyHypothesis =>
      simp only [Expr.nullable, Bool.or_eq_true, beq_iff_eq, bodyHypothesis]
      constructor
      · rintro (rfl | empty)
        · exact .repDone
        · have idle : Spans before after (.rep greedy 0 extra body) [] := .repDone
          simpa using spans_rep_of_nil least empty idle
      · exact spans_nil_rep
  | group captures body bodyHypothesis =>
      simp only [Expr.nullable, bodyHypothesis]
      constructor
      · exact .group
      · intro spans
        cases spans
        assumption

/-- Iterations that have to be can also count among those that may be. -/
theorem spans_rep_zero {before after : Option Char} {greedy : Bool} {least : Nat} {extra : Option Nat}
    {body : Expr} {word : List Char} (spans : Spans before after (.rep greedy least extra body) word) :
    Spans before after (.rep greedy 0 (extra.map (least + ·)) body) word := by
  generalize shape : Expr.rep greedy least extra body = expr at spans
  induction spans generalizing least extra with
  | repDone =>
      obtain ⟨rfl, rfl, rfl, rfl⟩ := Expr.rep.inj shape
      exact .repDone
  | repLeast first _ _ inductionHypothesis =>
      obtain ⟨rfl, rfl, rfl, rfl⟩ := Expr.rep.inj shape
      have rest := inductionHypothesis rfl
      cases extra with
      | none => exact .repExtra nofun first rest
      | some extra =>
          refine .repExtra (by simp) first ?_
          simpa [Nat.add_right_comm] using rest
  | repExtra bounded first rest _ =>
      obtain ⟨rfl, rfl, rfl, rfl⟩ := Expr.rep.inj shape
      cases extra with
      | none => exact .repExtra bounded first rest
      | some extra => simpa using Spans.repExtra bounded first rest
  | _ => contradiction

/-- One more iteration may be left out. -/
theorem spans_rep_pred {before after : Option Char} {greedy : Bool} {extra : Option Nat} {body : Expr}
    {word : List Char} (spans : Spans before after (.rep greedy 0 (extra.map (· - 1)) body) word) :
    Spans before after (.rep greedy 0 extra body) word := by
  generalize shape : Expr.rep greedy 0 (extra.map (· - 1)) body = expr at spans
  induction spans generalizing extra with
  | repDone =>
      obtain ⟨rfl, _, rfl, rfl⟩ := Expr.rep.inj shape
      exact .repDone
  | repLeast => simp at shape
  | repExtra bounded first _ _ inductionHypothesis =>
      obtain ⟨rfl, _, rfl, rfl⟩ := Expr.rep.inj shape
      refine .repExtra ?_ first (inductionHypothesis rfl)
      rintro rfl
      exact bounded rfl
  | _ => contradiction

/-- Of the iterations that may be, some can be told apart as those that have to be. -/
theorem exists_spans_rep {before after : Option Char} {greedy : Bool} {least : Nat} {extra : Option Nat}
    {body : Expr} {word : List Char}
    (spans : Spans before after (.rep greedy 0 (extra.map (least + ·)) body) word) :
    ∃ count ≤ least, Spans before after (.rep greedy count extra body) word := by
  generalize shape : Expr.rep greedy 0 (extra.map (least + ·)) body = expr at spans
  induction spans generalizing least with
  | repDone =>
      obtain ⟨rfl, _, rfl, rfl⟩ := Expr.rep.inj shape
      exact ⟨0, Nat.zero_le _, .repDone⟩
  | repLeast => simp at shape
  | repExtra bounded first rest _ inductionHypothesis =>
      obtain ⟨rfl, _, rfl, rfl⟩ := Expr.rep.inj shape
      cases least with
      | zero =>
          have same : extra.map (0 + ·) = extra := by cases extra <;> simp
          rw [same] at bounded rest
          exact ⟨0, Nat.le_refl _, .repExtra bounded first rest⟩
      | succ least =>
          have fewer : (extra.map (least + 1 + ·)).map (· - 1) = extra.map (least + ·) := by
            cases extra <;> simp [Nat.add_right_comm]
          obtain ⟨count, within, spans⟩ := inductionHypothesis (congrArg (Expr.rep greedy 0 · body) fewer.symm)
          exact ⟨count + 1, Nat.succ_le_succ within, .repLeast first spans⟩
  | _ => contradiction

theorem remainder?_zero {greedy bodyIsNullable : Bool} {body : Expr} {extra : Option Nat}
    (more : extra ≠ some 0) :
    body.remainder? greedy bodyIsNullable 0 extra = some (.rep greedy 0 (extra.map (· - 1)) body) := by
  cases extra with
  | none => rfl
  | some extra =>
      cases extra with
      | zero => contradiction
      | succ extra => rfl

/-- What remains if iterations may span nothing spans no more than if none of them has to be. -/
theorem spans_rep_zero_of_remainder {before after : Option Char} {greedy : Bool} {least : Nat}
    {extra : Option Nat} {body remaining : Expr} {word : List Char}
    (remains : body.remainder? greedy true least extra = some remaining)
    (spans : Spans before after remaining word) :
    Spans before after (.rep greedy 0 (extra.map (least + ·)) body) word := by
  cases least with
  | zero =>
      have same : extra.map (0 + ·) = extra := by cases extra <;> simp
      rw [same]
      by_cases more : extra = some 0
      · subst more
        contradiction
      · rw [remainder?_zero more] at remains
        cases remains
        exact spans_rep_pred spans
  | succ least =>
      have fewer : (extra.map (least + 1 + ·)).map (· - 1) = extra.map (least + ·) := by
        cases extra <;> simp [Nat.add_right_comm]
      cases remains
      exact spans_rep_pred (fewer ▸ spans)

/-- A repetition takes a character in the first iteration that spans anything. -/
theorem remainder_of_spans_rep {before after : Option Char} {greedy : Bool} {least : Nat} {extra : Option Nat}
    {body : Expr} {c : Char} {word : List Char}
    (spans : Spans before after (.rep greedy least extra body) (c :: word)) :
    ∃ remaining,
      body.remainder? greedy (body.nullable before (some c)) least extra = some remaining
        ∧ ∃ first second, word = first ++ second
          ∧ Spans before (second.head?.or after) body (c :: first)
          ∧ Spans ((c :: first).getLast?.or before) after remaining second := by
  generalize shape : Expr.rep greedy least extra body = expr at spans
  generalize whole : c :: word = text at spans
  induction spans generalizing least extra with
  | @repLeast before after _ less _ _ taken rest first restSpans _ inductionHypothesis =>
      obtain ⟨rfl, rfl, rfl, rfl⟩ := Expr.rep.inj shape
      cases taken with
      | nil =>
          subst whole
          have empty := nullable_iff.2 first
          obtain ⟨remaining, remains, firstWord, second, split, bodySpans, remainingSpans⟩ :=
            inductionHypothesis rfl rfl
          simp only [List.head?_cons, Option.some_or, List.getLast?_nil, Option.none_or] at *
          rw [empty] at remains ⊢
          exact ⟨_, rfl, firstWord, second, split, bodySpans,
            spans_rep_zero_of_remainder remains remainingSpans⟩
      | cons d taken =>
          obtain ⟨rfl, rfl⟩ := List.cons.inj whole
          cases body.nullable before (some c) with
          | true => exact ⟨_, rfl, taken, rest, rfl, first, spans_rep_zero restSpans⟩
          | false => exact ⟨_, rfl, taken, rest, rfl, first, restSpans⟩
  | @repExtra before after _ _ _ taken rest bounded first restSpans _ inductionHypothesis =>
      obtain ⟨rfl, rfl, rfl, rfl⟩ := Expr.rep.inj shape
      rw [remainder?_zero bounded]
      cases taken with
      | nil =>
          subst whole
          obtain ⟨remaining, remains, firstWord, second, split, bodySpans, remainingSpans⟩ :=
            inductionHypothesis rfl rfl
          simp only [List.getLast?_nil, Option.none_or] at *
          by_cases more : extra.map (· - 1) = some 0
          · rw [more] at remains
            contradiction
          · rw [remainder?_zero more] at remains
            cases remains
            exact ⟨_, rfl, firstWord, second, split, bodySpans, spans_rep_pred remainingSpans⟩
      | cons d taken =>
          obtain ⟨rfl, rfl⟩ := List.cons.inj whole
          exact ⟨_, rfl, taken, rest, rfl, first, restSpans⟩
  | _ => contradiction

theorem spans_rep_of_remainder {before after : Option Char} {greedy : Bool} {least : Nat}
    {extra : Option Nat} {body remaining : Expr} {c : Char} {first second : List Char}
    (remains :
      body.remainder? greedy (body.nullable before (some c)) least extra = some remaining)
    (bodySpans : Spans before (second.head?.or after) body (c :: first))
    (remainingSpans : Spans ((c :: first).getLast?.or before) after remaining second) :
    Spans before after (.rep greedy least extra body) (c :: (first ++ second)) := by
  cases least with
  | zero =>
      by_cases more : extra = some 0
      · subst more
        contradiction
      · rw [remainder?_zero more] at remains
        cases remains
        exact .repExtra more bodySpans remainingSpans
  | succ least =>
      cases empty : body.nullable before (some c) with
      | true =>
          rw [empty] at remains
          cases remains
          obtain ⟨count, within, spans⟩ := exists_spans_rep remainingSpans
          have once : Spans before after (.rep greedy (count + 1) extra body) (c :: (first ++ second)) :=
            .repLeast bodySpans spans
          have counted := spans_rep_of_nil (least - count) (nullable_iff.1 empty) once
          have total : count + 1 + (least - count) = least + 1 := by omega
          rwa [total] at counted
      | false =>
          rw [empty] at remains
          cases remains
          exact .repLeast bodySpans remainingSpans

/-- A concatenation takes a character in its first part, or in its second one if the first spans
nothing. -/
theorem spans_cat_cons {before after : Option Char} {left right : Expr} {c : Char} {word : List Char} :
    Spans before after (.cat left right) (c :: word) ↔
      (∃ first second, word = first ++ second
        ∧ Spans before (second.head?.or after) left (c :: first)
        ∧ Spans ((c :: first).getLast?.or before) after right second)
      ∨ (Spans before (some c) left [] ∧ Spans before after right (c :: word)) := by
  constructor
  · intro spans
    generalize whole : c :: word = text at spans
    cases spans with
    | @cat _ _ _ _ taken rest first second =>
        cases taken with
        | nil =>
            subst whole
            exact .inr ⟨first, second⟩
        | cons d taken =>
            obtain ⟨rfl, rfl⟩ := List.cons.inj whole
            exact .inl ⟨taken, rest, rfl, first, second⟩
  · rintro (⟨first, second, rfl, leftSpans, rightSpans⟩ | ⟨leftSpans, rightSpans⟩)
    · exact @Spans.cat _ _ _ _ (c :: first) second leftSpans rightSpans
    · exact @Spans.cat _ _ _ _ [] (c :: word) leftSpans rightSpans

/-- The residuals after a character span what comes after it. -/
theorem spansInTurn_advance {before after : Option Char} {c : Char} {next : Residual} {expr : Expr}
    {word : List Char} :
    (∃ residual ∈ expr.advance before c next, SpansInTurn (some c) after residual word) ↔
      ∃ first second, word = first ++ second
        ∧ Spans before (second.head?.or after) expr (c :: first)
        ∧ SpansInTurn ((c :: first).getLast?.or before) after next second := by
  induction expr generalizing next with
  | empty =>
      simp only [Expr.advance, List.not_mem_nil, false_and, exists_false, false_iff]
      rintro ⟨_, _, _, spans, _⟩
      cases spans
  | look kind =>
      simp only [Expr.advance, List.not_mem_nil, false_and, exists_false, false_iff]
      rintro ⟨_, _, _, spans, _⟩
      cases spans
  | chars set =>
      constructor
      · rintro ⟨residual, member, spans⟩
        simp only [Expr.advance] at member
        split at member
        · rw [List.mem_singleton.1 member] at spans
          exact ⟨[], word, rfl, .chars (by assumption), spans⟩
        · simp at member
      · rintro ⟨first, second, rfl, spans, nextSpans⟩
        cases spans with
        | chars contained => exact ⟨next, by simp [Expr.advance, contained], nextSpans⟩
  | cat left right leftHypothesis rightHypothesis =>
      have split : (∃ residual ∈ (Expr.cat left right).advance before c next,
            SpansInTurn (some c) after residual word) ↔
          (∃ residual ∈ left.advance before c (right :: next),
            SpansInTurn (some c) after residual word)
          ∨ (left.nullable before (some c) = true ∧
            ∃ residual ∈ right.advance before c next, SpansInTurn (some c) after residual word) := by
        simp only [Expr.advance, List.mem_append]
        split <;> grind
      rw [split, leftHypothesis, rightHypothesis, nullable_iff]
      constructor
      · rintro (⟨first, rest, rfl, leftSpans, middle, second, rfl, rightSpans, nextSpans⟩
          | ⟨leftSpans, first, second, whole, rightSpans, nextSpans⟩)
        · rw [head?_or_append] at leftSpans
          rw [← getLast?_or_append] at nextSpans
          exact ⟨first ++ middle, second, by simp,
            spans_cat_cons.2 (.inl ⟨first, middle, rfl, leftSpans, rightSpans⟩), nextSpans⟩
        · exact ⟨first, second, whole, spans_cat_cons.2 (.inr ⟨leftSpans, rightSpans⟩), nextSpans⟩
      · rintro ⟨first, second, rfl, spans, nextSpans⟩
        rcases spans_cat_cons.1 spans with ⟨start, middle, rfl, leftSpans, rightSpans⟩
          | ⟨leftSpans, rightSpans⟩
        · rw [← head?_or_append] at leftSpans
          rw [← List.cons_append, getLast?_or_append] at nextSpans
          exact .inl ⟨start, middle ++ second, by simp, leftSpans, middle, second, rfl, rightSpans,
            nextSpans⟩
        · exact .inr ⟨leftSpans, first, second, rfl, rightSpans, nextSpans⟩
  | alt left right leftHypothesis rightHypothesis =>
      have split : (∃ residual ∈ (Expr.alt left right).advance before c next,
            SpansInTurn (some c) after residual word) ↔
          (∃ residual ∈ left.advance before c next, SpansInTurn (some c) after residual word)
          ∨ (∃ residual ∈ right.advance before c next, SpansInTurn (some c) after residual word) := by
        simp only [Expr.advance, List.mem_append]
        grind
      rw [split, leftHypothesis, rightHypothesis]
      constructor
      · rintro (⟨first, second, whole, spans, nextSpans⟩ | ⟨first, second, whole, spans, nextSpans⟩)
        · exact ⟨first, second, whole, .altLeft spans, nextSpans⟩
        · exact ⟨first, second, whole, .altRight spans, nextSpans⟩
      · rintro ⟨first, second, whole, spans, nextSpans⟩
        cases spans with
        | altLeft spans => exact .inl ⟨first, second, whole, spans, nextSpans⟩
        | altRight spans => exact .inr ⟨first, second, whole, spans, nextSpans⟩
  | rep greedy least extra body bodyHypothesis =>
      simp only [Expr.advance]
      constructor
      · intro advanced
        split at advanced
        · simp at advanced
        · rename_i remaining remains
          obtain ⟨first, rest, rfl, bodySpans, middle, second, rfl, remainingSpans, nextSpans⟩ :=
            bodyHypothesis.1 advanced
          rw [head?_or_append] at bodySpans
          rw [← getLast?_or_append] at nextSpans
          exact ⟨first ++ middle, second, by simp,
            spans_rep_of_remainder remains bodySpans remainingSpans, nextSpans⟩
      · rintro ⟨first, second, rfl, spans, nextSpans⟩
        obtain ⟨remaining, remains, start, middle, rfl, bodySpans, remainingSpans⟩ :=
          remainder_of_spans_rep spans
        rw [remains]
        rw [← head?_or_append] at bodySpans
        rw [← List.cons_append, getLast?_or_append] at nextSpans
        exact bodyHypothesis.2 ⟨start, middle ++ second, by simp, bodySpans, middle, second, rfl,
          remainingSpans, nextSpans⟩
  | group captures body bodyHypothesis =>
      rw [show (Expr.group captures body).advance before c next = body.advance before c next from rfl,
        bodyHypothesis]
      constructor
      · rintro ⟨first, second, whole, spans, nextSpans⟩
        exact ⟨first, second, whole, .group spans, nextSpans⟩
      · rintro ⟨first, second, whole, spans, nextSpans⟩
        cases spans
        exact ⟨first, second, whole, by assumption, nextSpans⟩

/-- The residuals of a residual after a character span what comes after it. -/
theorem spansInTurn_advanceResidual {before after : Option Char} {c : Char} {residual : Residual}
    {word : List Char} :
    (∃ later ∈ advanceResidual before c residual, SpansInTurn (some c) after later word) ↔
      SpansInTurn before after residual (c :: word) := by
  induction residual with
  | nil => simp [advanceResidual, SpansInTurn]
  | cons expr rest inductionHypothesis =>
      have split : (∃ later ∈ advanceResidual before c (expr :: rest),
            SpansInTurn (some c) after later word) ↔
          (∃ later ∈ expr.advance before c rest, SpansInTurn (some c) after later word)
          ∨ (expr.nullable before (some c) = true ∧
            ∃ later ∈ advanceResidual before c rest, SpansInTurn (some c) after later word) := by
        simp only [advanceResidual, List.mem_append]
        split <;> grind
      rw [split, spansInTurn_advance, inductionHypothesis, nullable_iff]
      constructor
      · rintro (⟨first, second, rfl, spans, restSpans⟩ | ⟨spans, restSpans⟩)
        · exact ⟨c :: first, second, rfl, spans, restSpans⟩
        · exact ⟨[], c :: word, rfl, spans, restSpans⟩
      · rintro ⟨first, second, whole, spans, restSpans⟩
        cases first with
        | nil =>
            subst whole
            exact .inr ⟨spans, restSpans⟩
        | cons d first =>
            obtain ⟨rfl, rfl⟩ := List.cons.inj whole
            exact .inl ⟨first, second, rfl, spans, restSpans⟩

theorem all_nullable_iff {before after : Option Char} {residual : Residual} :
    residual.all (Expr.nullable before after) = true ↔ SpansInTurn before after residual [] := by
  induction residual generalizing before with
  | nil => simp [SpansInTurn]
  | cons expr rest inductionHypothesis =>
      simp only [List.all_cons, Bool.and_eq_true, nullable_iff, inductionHypothesis]
      constructor
      · rintro ⟨spans, restSpans⟩
        exact ⟨[], [], rfl, spans, restSpans⟩
      · rintro ⟨first, second, whole, spans, restSpans⟩
        obtain ⟨rfl, rfl⟩ := List.append_eq_nil_iff.1 whole.symm
        exact ⟨spans, restSpans⟩

/-- Dropping repetitions loses no residual. -/
theorem mem_distinct {residuals : List Residual} {residual : Residual} :
    residual ∈ distinct residuals ↔ residual ∈ residuals := by
  unfold distinct
  split
  · rfl
  · rfl
  · simp

/-- Whether one of the residuals can span a word before `rest` at the front of a text. -/
def FrontSpanned (before : Option Char) (residuals : List Residual) (text : List Char) : Prop :=
  ∃ word rest, text = word ++ rest ∧
    ∃ residual ∈ residuals, SpansInTurn before rest.head? residual word

/-- A word at the front of a text is empty or takes its first character. -/
theorem frontSpanned_cons {before : Option Char} {residuals : List Residual} {c : Char} {text : List Char} :
    FrontSpanned before residuals (c :: text) ↔
      (∃ residual ∈ residuals, SpansInTurn before (some c) residual []) ∨
        FrontSpanned (some c) (residuals.flatMap (advanceResidual before c)) text := by
  constructor
  · intro spanned
    obtain ⟨word, rest, split, residual, member, spans⟩ := spanned
    cases word with
    | nil =>
        subst split
        exact .inl ⟨residual, member, spans⟩
    | cons d word =>
        obtain ⟨rfl, rfl⟩ := List.cons.inj split
        obtain ⟨later, advanced, laterSpans⟩ := spansInTurn_advanceResidual.2 spans
        exact .inr ⟨word, rest, rfl, later, List.mem_flatMap.2 ⟨residual, member, advanced⟩, laterSpans⟩
  · intro spanned
    rcases spanned with ⟨residual, member, spans⟩ | ⟨word, rest, rfl, later, member, laterSpans⟩
    · exact ⟨[], c :: text, rfl, residual, member, spans⟩
    · obtain ⟨residual, inside, advanced⟩ := List.mem_flatMap.1 member
      exact ⟨c :: word, rest, rfl, residual, inside,
        spansInTurn_advanceResidual.1 ⟨later, advanced, laterSpans⟩⟩

theorem frontSpanned_distinct {before : Option Char} {residuals : List Residual} {text : List Char} :
    FrontSpanned before (distinct residuals) text ↔ FrontSpanned before residuals text := by
  simp only [FrontSpanned, mem_distinct]

theorem spansFront_iff {before : Option Char} {residuals : List Residual} {text : List Char} :
    spansFront before residuals text = true ↔ FrontSpanned before residuals text := by
  induction text generalizing before residuals with
  | nil =>
      simp only [spansFront, List.any_eq_true, all_nullable_iff]
      constructor
      · intro spanned
        obtain ⟨residual, member, spans⟩ := spanned
        exact ⟨[], [], rfl, residual, member, spans⟩
      · intro spanned
        obtain ⟨word, rest, nothing, residual, member, spans⟩ := spanned
        obtain ⟨rfl, rfl⟩ := List.append_eq_nil_iff.1 nothing.symm
        exact ⟨residual, member, spans⟩
  | cons c text inductionHypothesis =>
      have some : FrontSpanned before residuals (c :: text) → (!residuals.isEmpty) = true := by
        intro spanned
        obtain ⟨_, _, _, residual, member, _⟩ := spanned
        cases residuals with
        | nil => cases member
        | cons _ _ => rfl
      simp only [spansFront, Bool.and_eq_true, Bool.or_eq_true, List.any_eq_true, all_nullable_iff,
        inductionHypothesis, frontSpanned_distinct, ← frontSpanned_cons]
      exact ⟨And.right, fun spanned => ⟨some spanned, spanned⟩⟩

theorem spansFront_singleton_iff {before : Option Char} {expr : Expr} {text : List Char} :
    spansFront before [[expr]] text = true ↔
      ∃ word rest, text = word ++ rest ∧ Spans before rest.head? expr word := by
  rw [spansFront_iff]
  constructor
  · intro spanned
    obtain ⟨word, rest, split, residual, single, spans⟩ := spanned
    rw [List.mem_singleton.1 single] at spans
    obtain ⟨first, second, rfl, firstSpans, rfl⟩ := spans
    exact ⟨first, rest, by simpa using split, firstSpans⟩
  · intro spanned
    obtain ⟨word, rest, split, spans⟩ := spanned
    exact ⟨word, rest, split, [expr], List.mem_singleton.2 rfl, word, [], by simp, spans, rfl⟩

/-- The search looks at every position of the text. -/
theorem occurs_iff_exists_append {expr : Expr} {before : Option Char} {text : List Char} :
    expr.occurs before text = true ↔ ∃ front word rest, text = front ++ word ++ rest ∧
      Spans (front.getLast?.or before) rest.head? expr word := by
  induction text generalizing before with
  | nil =>
      rw [Expr.occurs, spansFront_singleton_iff]
      constructor
      · intro spanned
        obtain ⟨word, rest, split, spans⟩ := spanned
        exact ⟨[], word, rest, split, spans⟩
      · intro spanned
        obtain ⟨front, word, rest, nothing, spans⟩ := spanned
        obtain ⟨front_word, rfl⟩ := List.append_eq_nil_iff.1 nothing.symm
        obtain ⟨rfl, rfl⟩ := List.append_eq_nil_iff.1 front_word
        exact ⟨[], [], rfl, spans⟩
  | cons c text inductionHypothesis =>
      rw [Expr.occurs, Bool.or_eq_true, spansFront_singleton_iff, inductionHypothesis]
      constructor
      · intro spanned
        rcases spanned with ⟨word, rest, split, spans⟩ | ⟨front, word, rest, rfl, spans⟩
        · exact ⟨[], word, rest, split, spans⟩
        · refine ⟨c :: front, word, rest, rfl, ?_⟩
          rwa [← List.singleton_append, getLast?_or_append]
      · intro spanned
        obtain ⟨front, word, rest, split, spans⟩ := spanned
        cases front with
        | nil => exact .inl ⟨word, rest, split, spans⟩
        | cons d front =>
            obtain ⟨rfl, rfl⟩ := List.cons.inj split
            rw [← List.singleton_append, getLast?_or_append] at spans
            exact .inr ⟨front, word, rest, rfl, spans⟩

theorem occurs_iff {expr : Expr} {text : List Char} :
    expr.occurs none text = true ↔ ∃ span : Span, span.text = text ∧ expr.SpansIn span := by
  simp only [occurs_iff_exists_append, Option.or_none]
  constructor
  · intro spanned
    obtain ⟨front, word, rest, split, spans⟩ := spanned
    exact ⟨⟨front, word, rest⟩, split.symm, spans⟩
  · intro spanned
    obtain ⟨⟨front, word, rest⟩, split, spans⟩ := spanned
    exact ⟨front, word, rest, split.symm, spans⟩

end FormRules.Pattern
