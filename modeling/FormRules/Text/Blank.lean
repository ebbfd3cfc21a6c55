/-
This file fixes which characters are blank and how a text is trimmed. Blank means the White_Space
property, which leaves out the separators U+001C to U+001F, the zero width space and the byte order mark.
-/

namespace FormRules.Text

/-- The twenty-five characters with the White_Space property. -/
def isBlank (c : Char) : Bool :=
  let code := c.toNat
  (9 ≤ code && code ≤ 13) || code == 0x20 || code == 0x85 || code == 0xa0 || code == 0x1680
    || (0x2000 ≤ code && code ≤ 0x200a) || code == 0x2028 || code == 0x2029 || code == 0x202f
    || code == 0x205f || code == 0x3000

/-- The text without the blank characters at both of its ends. -/
def trimmed (text : List Char) : List Char :=
  ((text.dropWhile isBlank).reverse.dropWhile isBlank).reverse

/-- The text without the blank characters at both of its ends. -/
def trim (text : String) : String :=
  String.ofList (trimmed text.toList)

/-- What remains of an optional text after trimming, if anything does. -/
def nonBlank? : Option String → Option String
  | none => none
  | some text => if trim text = "" then none else some (trim text)

/-- An absent text trims to the empty one. -/
def trimOrEmpty : Option String → String
  | none => ""
  | some text => trim text

@[simp] theorem nonBlank?_none : nonBlank? none = none := rfl

theorem nonBlank?_eq_some {text : Option String} {rest : String} (found : nonBlank? text = some rest) :
    rest ≠ "" ∧ ∃ whole, text = some whole ∧ rest = trim whole := by
  cases text with
  | none => simp at found
  | some whole =>
      simp only [nonBlank?] at found
      split at found
      · simp at found
      · cases found
        exact ⟨by assumption, whole, rfl, rfl⟩

end FormRules.Text
