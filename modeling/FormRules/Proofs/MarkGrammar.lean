/-
This file gives the grammar of what stands around the items of a pattern: the counts of repetitions, and the flags
and names of groups. The readers of these follow it.
-/

import FormRules.Pattern.Reader
import FormRules.Proofs.EscapeGrammar

namespace FormRules.Pattern

open Text (isBlank decimalDigit? numberOfDigits)

attribute [local grind =] Option.map_eq_some_iff Option.bind_eq_some_iff

section Counts

/-- Space around a count, where blank characters have no meaning even if the pattern is not verbose. -/
def Gap (verbose : Bool) (text rest : List Char) : Prop :=
  ∃ blanks, (∀ c ∈ blanks, isBlank c = true) ∧ Skips verbose text (blanks ++ rest)

/-- A count of a repetition is a decimal number that fits into thirty-two bits. -/
inductive SpellsCount (verbose : Bool) : List Char → Nat → List Char → Prop where
  | digits {text c rest word back digits after} :
      Gap verbose text (c :: rest) → Spaced verbose rest word back →
      (c :: word).mapM decimalDigit? = some digits → numberOfDigits 10 digits < 0x100000000 →
      Gap verbose back after → SpellsCount verbose text (numberOfDigits 10 digits) after

/-- The counts of a repetition, after the brace that opens them and with the one that closes them. -/
inductive SpellsCounts (verbose : Bool) : List Char → Nat → Option Nat → List Char → Prop where
  | exactly {text count after} :
      SpellsCount verbose text count ('\x7d' :: after) → SpellsCounts verbose text count (some count) after
  | atLeast {text least between after} :
      SpellsCount verbose text least (',' :: between) → Skips verbose between ('\x7d' :: after) →
      SpellsCounts verbose text least none after
  | between {text least between most after} :
      SpellsCount verbose text least (',' :: between) →
      SpellsCount verbose between most ('\x7d' :: after) → least ≤ most →
      SpellsCounts verbose text least (some most) after

/-- A question mark after a repetition makes it prefer few iterations. -/
inductive SpellsGreed : List Char → Bool → List Char → Prop where
  | lazy {after} : SpellsGreed ('?' :: after) false after
  | greedy {text} : text.head? ≠ some '?' → SpellsGreed text true text

variable {verbose : Bool} {text rest after : List Char} {c : Char}

theorem gap_cons_iff (solid : isBlank c = false) :
    Gap verbose text (c :: rest) ↔ (skip verbose text).dropWhile isBlank = c :: rest := by
  constructor
  · intro gap
    obtain ⟨blanks, blank, skips⟩ := gap
    rw [skip_eq_iff_skips.2 skips, List.dropWhile_append_of_pos blank,
      List.dropWhile_cons_of_neg (by simp [solid])]
  · intro dropped
    refine ⟨(skip verbose text).takeWhile isBlank, fun _ => List.mem_takeWhile_imp, ?_⟩
    rw [← dropped, List.takeWhile_append_dropWhile]
    exact skip_eq_iff_skips.1 rfl

theorem not_isBlank_of_decimalDigit? {digit : Nat} (isDigit : decimalDigit? c = some digit) :
    isBlank c = false := by
  unfold decimalDigit? at isDigit
  split at isDigit
  · exact Text.not_isBlank_of_range (by assumption)
  · cases isDigit

theorem readDigits_of_ends (ends : ∀ c ∈ text.head?, decimalDigit? c = none) :
    readDigits verbose text = ([], text) := by
  cases text with
  | nil => simp [readDigits]
  | cons c rest => simp [readDigits, ends c rfl]

theorem readDigits_cons {digit : Nat} (isDigit : decimalDigit? c = some digit) :
    readDigits verbose (c :: rest) =
      (digit :: (readDigits verbose (skip verbose rest)).1, (readDigits verbose (skip verbose rest)).2) := by
  simp [readDigits, isDigit]

/-- The digits that are read have space between them, and the space behind them is passed over. -/
theorem exists_spaced_of_readDigits {digits : List Nat}
    (read : readDigits verbose (skip verbose text) = (digits, after)) :
    ∃ word back, Spaced verbose text word back ∧ word.mapM decimalDigit? = some digits ∧
      skip verbose back = after := by
  induction digits generalizing text with
  | nil =>
      refine ⟨[], text, .nothing, rfl, ?_⟩
      cases front : skip verbose text with
      | nil => simp_all [readDigits]
      | cons c rest => cases isDigit : decimalDigit? c <;> simp_all [readDigits]
  | cons digit digits inductionHypothesis =>
      cases front : skip verbose text with
      | nil => simp [front, readDigits] at read
      | cons c rest =>
          cases isDigit : decimalDigit? c with
          | none => simp [front, readDigits, isDigit] at read
          | some found =>
              rw [front, readDigits_cons isDigit, Prod.mk.injEq, List.cons.injEq] at read
              obtain ⟨⟨rfl, readsOthers⟩, readsAfter⟩ := read
              obtain ⟨word, back, spaced, areDigits, skipped⟩ :=
                inductionHypothesis (Prod.ext readsOthers readsAfter)
              refine ⟨c :: word, back, spaced_cons_iff.2 ⟨rest, front, spaced⟩, ?_, skipped⟩
              simp [isDigit, areDigits]

theorem readDigits_of_spaced {word back : List Char} {digits : List Nat} (spaced : Spaced verbose text word back)
    (areDigits : word.mapM decimalDigit? = some digits)
    (ends : ∀ c ∈ (skip verbose back).head?, decimalDigit? c = none) :
    readDigits verbose (skip verbose text) = (digits, skip verbose back) := by
  induction spaced generalizing digits with
  | nothing =>
      cases areDigits
      exact readDigits_of_ends ends
  | character front _ inductionHypothesis =>
      obtain ⟨digit, digits, isDigit, othersAreDigits, rfl⟩ := mapM_cons_eq_some_iff.1 areDigits
      rw [skip_eq_iff_skips.2 front, readDigits_cons isDigit, inductionHypothesis othersAreDigits ends]

/-- Neither blanks nor what stops a count are digits. -/
theorem no_digit_before (other : decimalDigit? c = none) (stops : text.dropWhile isBlank = c :: after) :
    ∀ d ∈ text.head?, decimalDigit? d = none := by
  cases text with
  | nil => exact nofun
  | cons first rest =>
      intro d front
      obtain rfl : first = d := by simpa using front
      cases isDigit : decimalDigit? first with
      | none => rfl
      | some digit =>
          have solid := not_isBlank_of_decimalDigit? isDigit
          obtain ⟨rfl, -⟩ := List.cons.inj ((List.dropWhile_cons_of_neg (by simp [solid])).symm.trans stops)
          rw [isDigit] at other
          cases other

theorem readCount_skip_eq_some_iff {count : Nat} (stop : c = ',' ∨ c = '\x7d') :
    readCount verbose (skip verbose text) = some (count, c :: after) ↔
      SpellsCount verbose text count (c :: after) := by
  have solid : isBlank c = false := by rcases stop with rfl | rfl <;> decide
  have other : decimalDigit? c = none := by rcases stop with rfl | rfl <;> decide
  constructor
  · intro read
    unfold readCount at read
    cases front : (skip verbose text).dropWhile isBlank with
    | nil => simp [front, readDigits] at read
    | cons d rest =>
        cases isDigit : decimalDigit? d with
        | none => simp [front, readDigits, isDigit] at read
        | some digit =>
            cases others : readDigits verbose (skip verbose rest) with
            | mk digits behind =>
                obtain ⟨word, back, spaced, areDigits, rfl⟩ := exists_spaced_of_readDigits others
                simp only [front, readDigits_cons isDigit, others, List.isEmpty_cons, Bool.false_or,
                  decide_eq_true_eq] at read
                split at read
                · cases read
                · rename_i fits
                  obtain ⟨rfl, gap⟩ := Prod.mk.inj (Option.some.inj read)
                  exact .digits ((gap_cons_iff (not_isBlank_of_decimalDigit? isDigit)).2 front) spaced
                    (by simp [isDigit, areDigits]) (by omega) ((gap_cons_iff solid).2 gap)
  · intro spells
    cases spells with
    | digits gap spaced areDigits fits gapAfter =>
        obtain ⟨digit, digits, isDigit, othersAreDigits, rfl⟩ := mapM_cons_eq_some_iff.1 areDigits
        have front := (gap_cons_iff (not_isBlank_of_decimalDigit? isDigit)).1 gap
        have behind := (gap_cons_iff solid).1 gapAfter
        have others := readDigits_of_spaced spaced othersAreDigits (no_digit_before other behind)
        simp only [readCount, front, readDigits_cons isDigit, others, behind, List.isEmpty_cons,
          Bool.false_or, decide_eq_true_eq]
        exact if_neg (by omega)

theorem readCounts_eq_some_iff {least : Nat} {most : Option Nat} :
    readCounts verbose text = some (least, most, after) ↔ SpellsCounts verbose text least most after := by
  constructor
  · intro read
    obtain ⟨⟨count, behind⟩, readsLeast, read⟩ := Option.bind_eq_some_iff.1 read
    simp only at read
    split at read
    · cases read
      exact .exactly ((readCount_skip_eq_some_iff (.inr rfl)).1 readsLeast)
    · rename_i between
      have spellsLeast := (readCount_skip_eq_some_iff (.inl rfl)).1 readsLeast
      split at read
      · rename_i closing
        cases read
        exact .atLeast spellsLeast (skip_eq_iff_skips.1 closing)
      · obtain ⟨⟨bound, behind⟩, readsMost, read⟩ := Option.bind_eq_some_iff.1 read
        simp only at read
        split at read
        · split at read
          · rename_i ordered
            cases read
            exact .between spellsLeast ((readCount_skip_eq_some_iff (.inr rfl)).1 readsMost) ordered
          · cases read
        · cases read
    · cases read
  · intro spells
    cases spells with
    | exactly spells => simp [readCounts, (readCount_skip_eq_some_iff (.inr rfl)).2 spells]
    | atLeast spells closing =>
        simp [readCounts, (readCount_skip_eq_some_iff (.inl rfl)).2 spells, skip_eq_iff_skips.2 closing]
    | between spells spellsMost ordered =>
        have readsMost := (readCount_skip_eq_some_iff (.inr rfl)).2 spellsMost
        simp only [readCounts, (readCount_skip_eq_some_iff (.inl rfl)).2 spells, Option.bind_eq_bind,
          Option.bind_some]
        split
        · rename_i closing
          simp [closing, readCount, readDigits, show isBlank '\x7d' = false by decide,
            show decimalDigit? '\x7d' = none by decide] at readsMost
        · simp [readsMost, ordered]

theorem readGreed_eq_iff {greedy : Bool} : readGreed text = (greedy, after) ↔ SpellsGreed text greedy after := by
  constructor
  · intro read
    unfold readGreed at read
    split at read
    · cases read
      exact .lazy
    · rename_i unmarked
      cases read
      refine .greedy ?_
      cases text <;> simp_all
  · intro spells
    cases spells with
    | lazy => rfl
    | greedy unmarked =>
        unfold readGreed
        split <;> simp_all

end Counts

section Groups

/-- Flags by their letters: those that are set, and after a hyphen those that are cleared. None is named
twice. -/
inductive NamesFlags : List Char → List FlagChange → Prop where
  | set {letters flags} :
      letters.mapM Flag.ofChar? = some flags → flags.Nodup → NamesFlags letters (flags.map (·, true))
  | setAndCleared {letters others flags cleared} :
      letters.mapM Flag.ofChar? = some flags → others.mapM Flag.ofChar? = some cleared → cleared ≠ [] →
      (flags ++ cleared).Nodup →
      NamesFlags (letters ++ '-' :: others) (flags.map (·, true) ++ cleared.map (·, false))

/-- The name of a group and the angle bracket that closes it. -/
inductive SpellsName : List Char → List Char → List Char → Prop where
  | name {c parts after} :
      isNameStart c = true → (∀ d ∈ parts, isNamePart d = true) → '>' ∉ c :: parts →
      SpellsName (c :: (parts ++ '>' :: after)) (c :: parts) after

variable {text after : List Char}

theorem readName_eq_some_iff {name : List Char} :
    readName text = some (name, after) ↔ SpellsName text name after := by
  constructor
  · intro read
    unfold readName at read
    split at read
    · rename_i c parts after cut
      obtain ⟨closed, rfl⟩ := Text.cutAtFirst_eq_some_iff.1 cut
      split at read
      · rename_i allowed
        cases read
        simp only [Bool.and_eq_true, List.all_eq_true] at allowed
        exact .name allowed.1 allowed.2 closed
      · cases read
    · cases read
  · intro spells
    cases spells with
    | name starts continues closed =>
        have cut := Text.cutAtFirst_append closed after
        simp only [List.cons_append] at cut
        simp [readName, cut, starts, List.all_eq_true.2 continues]

variable {c : Char} {seen : List Flag} {changes : List FlagChange} {clearing afterHyphen : Bool}

theorem ne_mark_of_flag {flag : Flag} (isFlag : Flag.ofChar? c = some flag) : c ≠ ':' ∧ c ≠ ')' ∧ c ≠ '-' := by
  refine ⟨?_, ?_, ?_⟩ <;> rintro rfl <;> cases isFlag

/-- Flags go on with one flag more or the hyphen, until they end. -/
theorem readFlags_cons_eq_some_iff {rest : List Char} :
    readFlags seen clearing afterHyphen (c :: rest) = some (changes, after) ↔
      ((c = ':' ∨ c = ')') ∧ afterHyphen = false ∧ changes = [] ∧ after = c :: rest) ∨
      (c = '-' ∧ clearing = false ∧ readFlags seen true true rest = some (changes, after)) ∨
      ∃ flag others, Flag.ofChar? c = some flag ∧ flag ∉ seen ∧ changes = (flag, !clearing) :: others ∧
        readFlags (flag :: seen) clearing false rest = some (others, after) := by
  rw [readFlags]
  by_cases stop : c = ':' ∨ c = ')'
  · have noFlag : Flag.ofChar? c = none := by rcases stop with rfl | rfl <;> rfl
    grind
  by_cases hyphen : c = '-'
  · have noFlag : Flag.ofChar? c = none := by rw [hyphen]; rfl
    grind
  · cases isFlag : Flag.ofChar? c <;> grind

theorem exists_letters (text : List Char) :
    ∃ letters flags rest, text = letters ++ rest ∧ letters.mapM Flag.ofChar? = some flags ∧
      ∀ c ∈ rest.head?, Flag.ofChar? c = none := by
  induction text with
  | nil => exact ⟨[], [], [], rfl, rfl, nofun⟩
  | cons c text inductionHypothesis =>
      cases isFlag : Flag.ofChar? c with
      | none => exact ⟨[], [], c :: text, rfl, rfl, by simpa using isFlag⟩
      | some flag =>
          obtain ⟨letters, flags, rest, rfl, areFlags, ends⟩ := inductionHypothesis
          exact ⟨c :: letters, flag :: flags, rest, rfl, by simp [isFlag, areFlags], ends⟩

/-- Letters of flags are read if they name none twice and none that was named before. -/
theorem readFlags_append_eq_some_iff {letters : List Char} {flags : List Flag}
    (areFlags : letters.mapM Flag.ofChar? = some flags) :
    readFlags seen clearing afterHyphen (letters ++ text) = some (changes, after) ↔
      flags.Nodup ∧ (∀ flag ∈ flags, flag ∉ seen) ∧
        ∃ others, changes = flags.map (·, !clearing) ++ others ∧
          readFlags (flags.reverse ++ seen) clearing (afterHyphen && flags.isEmpty) text =
            some (others, after) := by
  induction letters generalizing flags seen afterHyphen changes with
  | nil =>
      cases areFlags
      simp
  | cons d letters inductionHypothesis =>
      obtain ⟨flag, flags, isFlag, othersAreFlags, rfl⟩ := mapM_cons_eq_some_iff.1 areFlags
      obtain ⟨noColon, noParen, noHyphen⟩ := ne_mark_of_flag isFlag
      rw [List.cons_append, readFlags_cons_eq_some_iff]
      simp only [noColon, noParen, noHyphen, inductionHypothesis othersAreFlags]
      grind

/-- The reader of flags follows the grammar. -/
theorem readFlags_eq_some_iff (stop : c = ':' ∨ c = ')') :
    readFlags [] false false text = some (changes, c :: after) ↔
      ∃ word, text = word ++ c :: after ∧ NamesFlags word changes := by
  constructor
  · intro read
    obtain ⟨letters, flags, rest, rfl, areFlags, ends⟩ := exists_letters text
    obtain ⟨distinct, -, others, rfl, readsRest⟩ := (readFlags_append_eq_some_iff areFlags).1 read
    cases rest with
    | nil => cases readsRest
    | cons d rest =>
        rcases readFlags_cons_eq_some_iff.1 readsRest with
          ⟨-, -, rfl, shape⟩ | ⟨rfl, -, readsCleared⟩ | ⟨flag, _, isFlag, -⟩
        · exact ⟨letters, by rw [shape], by simpa using NamesFlags.set areFlags distinct⟩
        · obtain ⟨otherLetters, cleared, back, rfl, areCleared, endsCleared⟩ := exists_letters rest
          obtain ⟨distinctCleared, unseen, others, rfl, readsBack⟩ :=
            (readFlags_append_eq_some_iff areCleared).1 readsCleared
          cases back with
          | nil => cases readsBack
          | cons e back =>
              rcases readFlags_cons_eq_some_iff.1 readsBack with
                ⟨-, some, rfl, shape⟩ | ⟨-, impossible, -⟩ | ⟨flag, _, isFlag, -⟩
              · refine ⟨letters ++ '-' :: otherLetters, by simp [shape], ?_⟩
                have nonempty : cleared ≠ [] := by simpa using some
                have allDistinct : (flags ++ cleared).Nodup := by
                  refine List.nodup_append.2 ⟨distinct, distinctCleared, ?_⟩
                  grind
                simpa using NamesFlags.setAndCleared areFlags areCleared nonempty allDistinct
              · cases impossible
              · cases isFlag.symm.trans (endsCleared e rfl)
        · cases isFlag.symm.trans (ends d rfl)
  · intro names
    obtain ⟨word, rfl, names⟩ := names
    cases names with
    | set areFlags distinct =>
        refine (readFlags_append_eq_some_iff areFlags).2 ⟨distinct, nofun, [], by simp, ?_⟩
        exact readFlags_cons_eq_some_iff.2 (.inl ⟨stop, rfl, rfl, rfl⟩)
    | setAndCleared areFlags areCleared some allDistinct =>
        obtain ⟨distinct, distinctCleared, apart⟩ := List.nodup_append.1 allDistinct
        rw [List.append_assoc, List.cons_append]
        refine (readFlags_append_eq_some_iff areFlags).2 ⟨distinct, nofun, _, rfl, ?_⟩
        refine readFlags_cons_eq_some_iff.2 (.inr (.inl ⟨rfl, rfl, ?_⟩))
        refine (readFlags_append_eq_some_iff areCleared).2 ⟨distinctCleared, by grind, [], by simp, ?_⟩
        exact readFlags_cons_eq_some_iff.2 (.inl ⟨stop, by simpa using some, rfl, rfl⟩)

theorem NamesFlags.read {word : List Char} (names : NamesFlags word changes) (stop : c = ':' ∨ c = ')')
    (after : List Char) : readFlags [] false false (word ++ c :: after) = some (changes, c :: after) :=
  (readFlags_eq_some_iff stop).2 ⟨word, rfl, names⟩

end Groups

end FormRules.Pattern
