/-
This file closes sets of characters under simple case folding: a character brings all those with it that
fold to the same character.
-/

import FormRules.Unicode.Compact
import FormRules.Unicode.Folding

namespace FormRules.Unicode

/-- The pairs that one word of the table of pairs stands for. -/
def pairsOfWord (word : List Char) : List (List Nat) :=
  match Text.cutAtFirst '=' word with
  | (_, none) => []
  | (sources, some partner) =>
      let pair (first code : Nat) := [code, codeOf partner + (code - first)]
      match Text.cutAtFirst '-' sources with
      | (source, none) => [pair (codeOf source) (codeOf source)]
      | (first, some bound) =>
          match Text.cutAtFirst '/' bound with
          | (last, none) =>
              (List.range (codeOf last - codeOf first + 1)).map fun index =>
                pair (codeOf first) (codeOf first + index)
          | (last, some _) =>
              (everySecond (codeOf first) (codeOf last)).map (pair (codeOf first))

/-- The codes of characters that fold alike, where there is more than one. -/
def foldingClasses : List (List Nat) :=
  (wordsOf foldingPairs).flatMap pairsOfWord
    ++ (wordsOf foldingCycles).map fun word => (Text.pieces '=' word).map codeOf

/-- The letters of the ASCII range in their two cases. -/
def asciiClasses : List (List Nat) :=
  (List.range 26).map fun index => [0x41 + index, 0x61 + index]

/-- The set together with every class that it meets. -/
def closeUnder (classes : List (List Nat)) (set : CharSet) : CharSet :=
  let met := classes.filter fun codes => codes.any (CharSet.covers false set.cuts)
  CharSet.unionAll (set :: met.flatMap fun codes => codes.map fun code => CharSet.range code code)

/-- The set together with all characters that fold to one that a member folds to. -/
def foldCase (set : CharSet) : CharSet :=
  closeUnder foldingClasses set

/-- The set together with the ASCII letters that differ from a member in case. -/
def foldAsciiCase (set : CharSet) : CharSet :=
  closeUnder asciiClasses set

end FormRules.Unicode
