/-
This file says how the numbers of a JSON text are spelled, and which parts of a spelling make up the double that is
read.
-/

import FormRules.Json.Number
import FormRules.Proofs.JsonText
import FormRules.Proofs.NumeralText

namespace FormRules.Json

open Numeral (SpellsDigits SpellsSign Ends)

/-- A point and at least one digit, or nothing. -/
inductive SpellsFraction : List Char → List Nat → Prop
  | none : SpellsFraction [] []
  | point {text : List Char} {digits : List Nat} (spelled : SpellsDigits text digits) (given : digits ≠ []) :
      SpellsFraction ('.' :: text) digits

/-- A mark, perhaps a sign and at least one digit, or nothing. -/
inductive SpellsExponent : List Char → Bool → List Nat → Prop
  | none : SpellsExponent [] false []
  | marked {mark : Char} {sign text : List Char} {negative : Bool} {digits : List Nat}
      (isMark : mark = 'e' ∨ mark = 'E') (signed : SpellsSign sign negative)
      (spelled : SpellsDigits text digits) (given : digits ≠ []) :
      SpellsExponent (mark :: (sign ++ text)) negative digits

/-- A zero, or digits that do not begin with a zero. -/
def SpellsWhole (text : List Char) (digits : List Nat) : Prop :=
  SpellsDigits text digits ∧ digits ≠ [] ∧ (digits = [0] ∨ digits.head? ≠ some 0)

/-- A minus sign or nothing. -/
def minusSign (negative : Bool) : List Char :=
  if negative then ['-'] else []

section Reading

variable {text rest wholeText fractionText exponentText : List Char} {digits whole fraction exponent : List Nat}
  {negative exponentNegative : Bool}

theorem spanDigits_append (spelled : SpellsDigits text digits) (ends : Ends rest) :
    spanDigits (text ++ rest) = (text, rest) := by
  induction spelled with
  | nil =>
      rw [List.nil_append, spanDigits, List.span_eq_takeWhile_dropWhile]
      cases rest with
      | nil => rfl
      | cons c rest => simp [ends c rfl]
  | cons digit _ inductionHypothesis =>
      rw [spanDigits, List.span_eq_takeWhile_dropWhile] at inductionHypothesis ⊢
      simpa [digit] using inductionHypothesis

theorem readWhole_append (spelled : SpellsWhole text digits) (ends : Ends rest) :
    readWhole (text ++ rest) = some (text, rest) := by
  obtain ⟨spelled, given, plain⟩ := spelled
  have spanned := spanDigits_append spelled ends
  cases spelled with
  | nil => exact absurd rfl given
  | @cons c digit tail digits isDigit others =>
      by_cases zero : c = '0'
      · subst zero
        cases isDigit
        have alone : digits = [] := by simpa using plain
        subst alone
        cases others
        rfl
      · unfold readWhole
        split
        · rename_i same
          cases same
          exact absurd rfl zero
        · rw [spanned]

theorem readFraction_append (spelled : SpellsFraction text digits) (ends : Ends rest)
    (pointless : ∀ c ∈ rest.head?, c ≠ '.') : readFraction (text ++ rest) = some (text, rest) := by
  cases spelled with
  | none =>
      unfold readFraction
      split
      · rename_i same
        cases same
        exact absurd rfl (pointless '.' rfl)
      · rfl
  | point spelled given =>
      rw [List.cons_append, readFraction, spanDigits_append spelled ends]
      cases spelled with
      | nil => exact absurd rfl given
      | cons _ _ => rfl

theorem readExponent_append (spelled : SpellsExponent text negative digits) (ends : Ends rest)
    (unmarked : ∀ c ∈ rest.head?, c ≠ 'e' ∧ c ≠ 'E') : readExponent (text ++ rest) = some (text, rest) := by
  cases spelled with
  | none =>
      cases rest with
      | nil => rfl
      | cons c rest =>
          have other := unmarked c rfl
          simp [readExponent, other.1, other.2]
  | marked isMark signed spelled given =>
      have spanned := spanDigits_append spelled ends
      cases spelled with
      | nil => exact absurd rfl given
      | @cons c value tail _ digit _ =>
          have isDigit : (Text.decimalDigit? c).isSome = true := by rw [digit, Option.isSome_some]
          obtain ⟨notMinus, notPlus⟩ := Numeral.ne_sign_of_isSome_decimalDigit? isDigit
          rw [List.cons_append] at spanned
          cases signed with
          | none =>
              rw [List.nil_append, List.cons_append, readExponent, if_pos isMark]
              · simp [spanned]
              · intro rest same
                cases same
                exact notPlus rfl
              · intro rest same
                cases same
                exact notMinus rfl
          | plus => simp [readExponent, isMark, spanned]
          | minus => simp [readExponent, isMark, spanned]

/-- The parts of the spelling of a number. -/
structure NumberParts where
  negative : Bool
  whole : List Nat
  fraction : List Nat
  exponentNegative : Bool
  exponent : List Nat

/-- The text is made of these parts. -/
inductive SpellsParts : List Char → NumberParts → Prop
  | parts {whole fraction exponent : List Char} {parts : NumberParts}
      (before : SpellsWhole whole parts.whole) (after : SpellsFraction fraction parts.fraction)
      (scaled : SpellsExponent exponent parts.exponentNegative parts.exponent) :
      SpellsParts (minusSign parts.negative ++ (whole ++ (fraction ++ exponent))) parts

theorem SpellsFraction.head (spelled : SpellsFraction text digits) : ∀ c ∈ text.head?, c = '.' := by
  cases spelled <;> simp

theorem SpellsExponent.head (spelled : SpellsExponent text negative digits) :
    ∀ c ∈ text.head?, c = 'e' ∨ c = 'E' := by
  cases spelled with
  | none => simp
  | marked isMark _ _ _ => simpa using isMark

theorem SpellsExponent.ends (spelled : SpellsExponent text negative digits) (ends : Ends rest) :
    Ends (text ++ rest) :=
  Numeral.head_append (fun c first => by rcases spelled.head c first with rfl | rfl <;> decide) ends

theorem SpellsFraction.ends (spelled : SpellsFraction text digits) (ends : Ends rest) : Ends (text ++ rest) :=
  Numeral.head_append (fun c first => by rw [spelled.head c first]; decide) ends

theorem Closes.ends (closes : Closes rest) : Ends rest := by
  intro c first
  rcases closes c first with rfl | rfl | rfl <;> decide

theorem SpellsWhole.head (spelled : SpellsWhole text digits) :
    ∃ c tail, text = c :: tail ∧ (Text.decimalDigit? c).isSome = true := by
  obtain ⟨spelled, given, -⟩ := spelled
  cases spelled with
  | nil => exact absurd rfl given
  | cons digit _ => exact ⟨_, _, rfl, by rw [digit, Option.isSome_some]⟩

/-- The text is read as one number. -/
theorem SpellsParts.readNumber_append {parts : NumberParts} (spelled : SpellsParts text parts)
    (closes : Closes rest) : readNumber (text ++ rest) = some (text, rest) := by
  obtain @⟨wholeText, fractionText, exponentText, parts, before, after, scaled⟩ := spelled
  have ends := closes.ends
  have unmarked : ∀ c ∈ rest.head?, c ≠ 'e' ∧ c ≠ 'E' := by
    intro c first
    rcases closes c first with rfl | rfl | rfl <;> decide
  have pointless : ∀ c ∈ (exponentText ++ rest).head?, c ≠ '.' := Numeral.head_append
    (fun c first => by rcases scaled.head c first with rfl | rfl <;> decide)
    (fun c first => by rcases closes c first with rfl | rfl | rfl <;> decide)
  have whole := readWhole_append before (after.ends (scaled.ends ends))
  have fraction := readFraction_append after (scaled.ends ends) pointless
  have exponent := readExponent_append scaled ends unmarked
  obtain ⟨c, tail, rfl, digit⟩ := before.head
  have notMinus := (Numeral.ne_sign_of_isSome_decimalDigit? digit).1
  cases sign : parts.negative with
  | true =>
      simp only [minusSign, if_true, List.append_assoc, List.cons_append, List.nil_append] at whole ⊢
      simp [readNumber, whole, fraction, exponent]
  | false =>
      simp only [minusSign, Bool.false_eq_true, if_false, List.append_assoc, List.cons_append,
        List.nil_append] at whole ⊢
      have unsigned : ∀ others, c :: (tail ++ (fractionText ++ (exponentText ++ rest))) ≠ '-' :: others := by
        intro others same
        cases same
        exact notMinus rfl
      simp [readNumber, whole, fraction, exponent]

theorem readToken_number {c : Char} {tail spelling : List Char}
    (starts : c = '-' ∨ (Text.decimalDigit? c).isSome = true)
    (read : readNumber (c :: tail) = some (spelling, rest)) :
    readToken c tail = some (.number (String.ofList spelling), rest) := by
  unfold readToken
  split
  all_goals try exact absurd starts (by decide)
  rw [if_pos (by simpa using starts), read]
  rfl

theorem not_isSeparator {c : Char} (starts : c = '-' ∨ (Text.decimalDigit? c).isSome = true) :
    isSeparator c = false := by
  rw [Bool.eq_false_iff]
  intro separates
  simp only [isSeparator, Bool.or_eq_true, beq_iff_eq] at separates
  rcases separates with ((rfl | rfl) | rfl) | rfl <;> exact absurd starts (by decide)

theorem SpellsParts.head {parts : NumberParts} (spelled : SpellsParts text parts) :
    ∃ c tail, text = c :: tail ∧ (c = '-' ∨ (Text.decimalDigit? c).isSome = true) := by
  obtain ⟨before, after, scaled⟩ := spelled
  obtain ⟨c, tail, rfl, digit⟩ := before.head
  cases parts.negative with
  | true => exact ⟨_, _, rfl, .inl rfl⟩
  | false => exact ⟨_, _, rfl, .inr digit⟩

/-- What is made of the parts of a number spells a number. -/
theorem SpellsParts.spellsNumber {parts : NumberParts} (spelled : SpellsParts text parts) : SpellsNumber text := by
  obtain ⟨c, tail, rfl, starts⟩ := spelled.head
  refine ⟨c, tail, rfl, not_isSeparator starts, ?_⟩
  intro rest closes
  exact readToken_number starts (spelled.readNumber_append closes)

/-- Takes a minus sign off a spelling. -/
def splitSign : List Char → Bool × List Char
  | '-' :: rest => (true, rest)
  | rest => (false, rest)

/-- The sign and the digits of the exponent that is left of a spelling. -/
def splitExponent : List Char → Bool × List Nat
  | [] => (false, [])
  | _ :: '-' :: rest => (true, (Text.leadingDigits rest).1)
  | _ :: '+' :: rest => (false, (Text.leadingDigits rest).1)
  | _ :: rest => (false, (Text.leadingDigits rest).1)

theorem doubleOfSpelling?_eq_assemble? (spelling : List Char) :
    doubleOfSpelling? spelling =
      assemble? (splitSign spelling).1
        (scale (Text.leadingDigits (splitSign spelling).2).1
          (Numeral.readFraction (Text.leadingDigits (splitSign spelling).2).2).1)
        (splitExponent (Numeral.readFraction (Text.leadingDigits (splitSign spelling).2).2).2).1
        (Text.numberOfDigits 10
          (splitExponent (Numeral.readFraction (Text.leadingDigits (splitSign spelling).2).2).2).2) :=
  rfl

theorem splitSign_minusSign (unsigned : ∀ c ∈ rest.head?, c ≠ '-') (negative : Bool) :
    splitSign (minusSign negative ++ rest) = (negative, rest) := by
  cases negative with
  | true => rfl
  | false =>
      show splitSign rest = _
      unfold splitSign
      split
      · exact absurd rfl (unsigned '-' rfl)
      · rfl

theorem SpellsFraction.readFraction_append (spelled : SpellsFraction text digits) (ends : Ends rest)
    (pointless : ∀ c ∈ rest.head?, c ≠ '.') : Numeral.readFraction (text ++ rest) = (digits, rest) := by
  cases spelled with
  | none => exact Numeral.readFraction_append .none ends pointless
  | point spelled _ => exact Numeral.readFraction_append (.point spelled) ends pointless

theorem SpellsExponent.splitExponent_eq (spelled : SpellsExponent text negative digits) :
    splitExponent text = (negative, digits) := by
  cases spelled with
  | none => rfl
  | marked isMark signed spelled given =>
      have run := Numeral.leadingDigits_append spelled Numeral.ends_nil
      rw [List.append_nil] at run
      cases signed with
      | plus => simp [splitExponent, run]
      | minus => simp [splitExponent, run]
      | none =>
          cases spelled with
          | nil => exact absurd rfl given
          | @cons c value tail _ digit _ =>
              have isDigit : (Text.decimalDigit? c).isSome = true := by rw [digit, Option.isSome_some]
              obtain ⟨notMinus, notPlus⟩ := Numeral.ne_sign_of_isSome_decimalDigit? isDigit
              simp [splitExponent, run, notMinus, notPlus]

/-- The double that is read is made of the parts. -/
theorem SpellsParts.doubleOfSpelling?_eq {parts : NumberParts} (spelled : SpellsParts text parts) :
    doubleOfSpelling? text =
      assemble? parts.negative (scale parts.whole parts.fraction) parts.exponentNegative
        (Text.numberOfDigits 10 parts.exponent) := by
  obtain @⟨wholeText, fractionText, exponentText, parts, before, after, scaled⟩ := spelled
  have pointless : ∀ c ∈ exponentText.head?, c ≠ '.' := fun c first => by
    rcases scaled.head c first with rfl | rfl <;> decide
  have ends : Ends exponentText := fun c first => by
    rcases scaled.head c first with rfl | rfl <;> decide
  have unsigned : ∀ c ∈ (wholeText ++ (fractionText ++ exponentText)).head?, c ≠ '-' :=
    Numeral.head_append (fun c first =>
      (Numeral.ne_sign_of_isSome_decimalDigit? (Numeral.head_of_spellsDigits before.1 c first)).1)
    (Numeral.head_append (fun c first => by rw [after.head c first]; decide)
      (fun c first => by rcases scaled.head c first with rfl | rfl <;> decide))
  rw [doubleOfSpelling?_eq_assemble?, splitSign_minusSign unsigned,
    Numeral.leadingDigits_append before.1 (after.ends ends), after.readFraction_append ends pointless,
    scaled.splitExponent_eq]

end Reading

section Scaling

variable {digits whole fraction : List Nat} {front number : Nat} {exponent place : Int}

theorem numberOfDigits_append (first second : List Nat) :
    Text.numberOfDigits 10 (first ++ second) =
      second.foldl (fun number digit => number * 10 + digit) (Text.numberOfDigits 10 first) :=
  List.foldl_append

/-- The digits are taken as long as their number fits into sixty-four bits. -/
theorem foldl_push (fits : digits.foldl (fun number digit => number * 10 + digit) front < 2 ^ 64) :
    digits.foldl (Scaled.push place) ⟨front, exponent, false⟩ =
      ⟨digits.foldl (fun number digit => number * 10 + digit) front, exponent + digits.length * place, false⟩ := by
  induction digits using List.reverseRecOn with
  | nil => simp
  | append_singleton digits digit inductionHypothesis =>
      rw [List.foldl_append, List.foldl_cons, List.foldl_nil] at fits
      rw [List.foldl_append, inductionHypothesis (by omega), List.foldl_append]
      generalize digits.foldl (fun number digit => number * 10 + digit) front = number at fits
      have room : ¬ number * 10 + digit ≥ 0x10000000000000000 := by omega
      have places : exponent + ((digits ++ [digit]).length : Int) * place =
          exponent + digits.length * place + place := by
        rw [List.length_append, List.length_singleton]
        push_cast
        ring
      rw [places]
      simp [Scaled.push, room]

theorem le_foldl (digits : List Nat) (front : Nat) :
    front ≤ digits.foldl (fun number digit => number * 10 + digit) front := by
  induction digits generalizing front with
  | nil => exact Nat.le_refl _
  | cons digit digits inductionHypothesis =>
      exact Nat.le_trans (by omega) (inductionHypothesis (front * 10 + digit))

/-- Few digits are all taken, and those after the point move it. -/
theorem scale_eq (fits : Text.numberOfDigits 10 (whole ++ fraction) < 2 ^ 64) :
    scale whole fraction = ⟨Text.numberOfDigits 10 (whole ++ fraction), -fraction.length, false⟩ := by
  rw [numberOfDigits_append] at fits ⊢
  have front := (le_foldl fraction _).trans_lt fits
  unfold Text.numberOfDigits at front fits ⊢
  rw [scale, foldl_push front]
  dsimp only
  rw [foldl_push fits]
  simp

/-- The written exponent with its sign. -/
def NumberParts.scaling (parts : NumberParts) : Int :=
  if parts.exponentNegative then -(Text.numberOfDigits 10 parts.exponent : Int)
  else Text.numberOfDigits 10 parts.exponent

/-- The digits without the point, and the exponent that makes up for it. -/
def NumberParts.amount (parts : NumberParts) : Decimal :=
  ⟨Text.numberOfDigits 10 (parts.whole ++ parts.fraction), parts.scaling - parts.fraction.length⟩

/-- The digits of a number are rounded, scaled, and given the sign, unless they are too many or the exponent is too
large. -/
theorem SpellsParts.doubleOfSpelling?_of_few {text : List Char} {parts : NumberParts}
    (spelled : SpellsParts text parts) (few : parts.amount.digits < 2 ^ 64)
    (near : Text.numberOfDigits 10 parts.exponent < exponentLimit) :
    doubleOfSpelling? text =
      (Binary.ofNat? binary64 parts.amount.digits).bind fun y =>
        (scaleBy? y parts.amount.exponent).map (signed parts.negative) := by
  have total : (if parts.exponentNegative then
        -(parts.fraction.length : Int) - Text.numberOfDigits 10 parts.exponent
      else -(parts.fraction.length : Int) + Text.numberOfDigits 10 parts.exponent) = parts.amount.exponent := by
    rw [NumberParts.amount, NumberParts.scaling]
    split <;> ring
  rw [spelled.doubleOfSpelling?_eq, scale_eq few, assemble?, if_neg (Nat.not_le.2 near)]
  simp only [total, Option.map_eq_bind]
  rfl

end Scaling

end FormRules.Json
