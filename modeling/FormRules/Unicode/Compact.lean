/-
This file reads the compact texts in which the property tables are written. A text has rows of words: `b5`
is one character, `41-5a` the characters between two codes, and `100-12e/2` every second one of them.
-/

import FormRules.CharSet
import FormRules.Text.Digit
import FormRules.Text.Pieces

namespace FormRules.Unicode

/-- The code that a word of hexadecimal digits spells. -/
def codeOf (word : List Char) : Nat :=
  (Text.hexNumber? word).getD 0

/-- The codes from `first` to `last` at steps of two. -/
def everySecond (first last : Nat) : List Nat :=
  (List.range ((last - first) / 2 + 1)).map (first + 2 * ·)

/-- The sets that one word stands for. -/
def setsOfWord (word : List Char) : List CharSet :=
  match Text.cutAtFirst '-' word with
  | (first, none) => [CharSet.range (codeOf first) (codeOf first)]
  | (first, some bound) =>
      match Text.cutAtFirst '/' bound with
      | (last, none) => [CharSet.range (codeOf first) (codeOf last)]
      | (last, some _) =>
          (everySecond (codeOf first) (codeOf last)).map fun code => CharSet.range code code

/-- The words in the rows of a compact text. -/
def wordsOf (rows : List String) : List (List Char) :=
  rows.flatMap fun row => Text.pieces ' ' row.toList

/-- The set that the rows of a compact text stand for. -/
def ofCompact (rows : List String) : CharSet :=
  CharSet.unionAll ((wordsOf rows).flatMap setsOfWord)

/-- The set of the entry that lists the name. -/
def listed? (table : List (List String × List String)) (name : String) : Option CharSet :=
  (table.find? fun entry => entry.1.contains name).map fun entry => ofCompact entry.2

end FormRules.Unicode
