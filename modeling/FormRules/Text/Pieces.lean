/-
This file cuts texts at a separator: at every one of them, or only at the first.
-/

namespace FormRules.Text

/-- The pieces between the separators, the empty ones included. -/
def pieces (separator : Char) : List Char → List (List Char)
  | [] => [[]]
  | c :: rest =>
      if c = separator then [] :: pieces separator rest
      else
        match pieces separator rest with
        | [] => [[c]]
        | piece :: others => (c :: piece) :: others

/-- The text before the first separator and, if there is one, the text after it. -/
def cutAtFirst (separator : Char) : List Char → List Char × Option (List Char)
  | [] => ([], none)
  | c :: rest =>
      if c = separator then ([], some rest)
      else
        let (before, after) := cutAtFirst separator rest
        (c :: before, after)

theorem pieces_ne_nil (separator : Char) (text : List Char) : pieces separator text ≠ [] := by
  cases text with
  | nil => simp [pieces]
  | cons c rest =>
      simp only [pieces]
      split
      · simp
      · split <;> simp

/-- No piece holds a separator. -/
theorem not_mem_of_mem_pieces {separator : Char} {text piece : List Char}
    (member : piece ∈ pieces separator text) : separator ∉ piece := by
  induction text generalizing piece with
  | nil => simp_all [pieces]
  | cons c rest inductionHypothesis =>
      simp only [pieces] at member
      split at member
      · rcases List.mem_cons.1 member with rfl | later
        · simp
        · exact inductionHypothesis later
      · rename_i different
        split at member
        · simp_all [Ne.symm different]
        · rename_i first others split
          rw [split] at inductionHypothesis
          rcases List.mem_cons.1 member with rfl | later
          · have := inductionHypothesis List.mem_cons_self
            simp [this, Ne.symm different]
          · exact inductionHypothesis (List.mem_cons_of_mem _ later)

/-- Cutting loses nothing but the separator. -/
theorem cutAtFirst_rebuild (separator : Char) (text : List Char) :
    (cutAtFirst separator text).1
      ++ ((cutAtFirst separator text).2.elim [] (separator :: ·)) = text := by
  induction text with
  | nil => rfl
  | cons c rest inductionHypothesis =>
      simp only [cutAtFirst]
      split
      · simp_all
      · simpa using inductionHypothesis

theorem not_mem_cutAtFirst (separator : Char) (text : List Char) :
    separator ∉ (cutAtFirst separator text).1 := by
  induction text with
  | nil => simp [cutAtFirst]
  | cons c rest inductionHypothesis =>
      simp only [cutAtFirst]
      split
      · simp
      · rename_i different
        simp [inductionHypothesis, Ne.symm different]

end FormRules.Text
