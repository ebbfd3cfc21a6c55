/-
This file holds sets of characters as increasing lists of cut points: the codes at which membership
changes, starting outside of the set. Set operations walk two lists of cut points together, and
`contains_combine` says that they act on membership as named.
-/

namespace FormRules

/-- A set of characters, given by the codes at which membership changes. -/
structure CharSet where
  cuts : List Nat
  increasing : cuts.Pairwise (· < ·) := by decide
  deriving DecidableEq

namespace CharSet

/-- Whether a code is covered, where `inside` tells it for the codes before the first cut. -/
def covers (inside : Bool) : List Nat → Nat → Bool
  | [], _ => inside
  | cut :: rest, code => if code < cut then inside else covers (!inside) rest code

/-- Whether the set contains the character. -/
def contains (set : CharSet) (c : Char) : Bool :=
  covers false set.cuts c.toNat

/-- Keeps a cut only where membership changes. -/
def keepChange (cut : Nat) (before after : Bool) (rest : List Nat) : List Nat :=
  if before = after then rest else cut :: rest

/-- The cuts of a combination of two sets, from the memberships before the first cuts on. -/
def sweep (combine : Bool → Bool → Bool) (left right : Bool) : List Nat → List Nat → List Nat
  | [], [] => []
  | a :: as, [] =>
      keepChange a (combine left right) (combine (!left) right)
        (sweep combine (!left) right as [])
  | [], b :: bs =>
      keepChange b (combine left right) (combine left (!right))
        (sweep combine left (!right) [] bs)
  | a :: as, b :: bs =>
      if a < b then
        keepChange a (combine left right) (combine (!left) right)
          (sweep combine (!left) right as (b :: bs))
      else if b < a then
        keepChange b (combine left right) (combine left (!right))
          (sweep combine left (!right) (a :: as) bs)
      else
        keepChange a (combine left right) (combine (!left) (!right))
          (sweep combine (!left) (!right) as bs)
termination_by as bs => as.length + bs.length

theorem mem_keepChange {cut : Nat} {before after : Bool} {rest : List Nat} {x : Nat}
    (member : x ∈ keepChange cut before after rest) : x = cut ∨ x ∈ rest := by
  simp only [keepChange] at member
  split at member
  · exact .inr member
  · exact List.mem_cons.1 member

theorem mem_sweep {combine : Bool → Bool → Bool} {left right : Bool} {as bs : List Nat} {x : Nat}
    (member : x ∈ sweep combine left right as bs) : x ∈ as ∨ x ∈ bs := by
  fun_induction sweep combine left right as bs <;>
    first
    | simp at member
    | (rcases mem_keepChange member with rfl | later <;> grind)

theorem pairwise_keepChange {cut : Nat} {before after : Bool} {rest : List Nat}
    (above : ∀ x ∈ rest, cut < x) (increasing : rest.Pairwise (· < ·)) :
    (keepChange cut before after rest).Pairwise (· < ·) := by
  simp only [keepChange]
  split
  · exact increasing
  · exact List.pairwise_cons.2 ⟨above, increasing⟩

theorem pairwise_sweep (combine : Bool → Bool → Bool) (left right : Bool) {as bs : List Nat}
    (asIncreasing : as.Pairwise (· < ·)) (bsIncreasing : bs.Pairwise (· < ·)) :
    (sweep combine left right as bs).Pairwise (· < ·) := by
  fun_induction sweep combine left right as bs <;>
    first
    | exact List.Pairwise.nil
    | (apply pairwise_keepChange
       · intro x member
         have := mem_sweep member
         grind [List.pairwise_cons]
       · grind [List.pairwise_cons])

theorem covers_keepChange {cut code : Nat} {before after : Bool} {rest : List Nat} :
    covers before (keepChange cut before after rest) code
      = if before = after then covers after rest code
        else if code < cut then before else covers after rest code := by
  cases before <;> cases after <;> simp [keepChange, covers]

theorem covers_of_below {inside : Bool} {cuts : List Nat} {code : Nat}
    (below : ∀ cut ∈ cuts, code < cut) : covers inside cuts code = inside := by
  cases cuts with
  | nil => rfl
  | cons cut rest => simp [covers, below cut List.mem_cons_self]

/-- Sweeping combines the memberships of the two sides. -/
theorem covers_sweep (combine : Bool → Bool → Bool) (left right : Bool) {as bs : List Nat} (code : Nat)
    (asIncreasing : as.Pairwise (· < ·)) (bsIncreasing : bs.Pairwise (· < ·)) :
    covers (combine left right) (sweep combine left right as bs) code
      = combine (covers left as code) (covers right bs code) := by
  fun_induction sweep combine left right as bs with
  | case1 => simp [covers]
  | case2 left right a as inductionHypothesis =>
      rw [covers_keepChange]
      by_cases before : code < a
      · have later : covers (combine (!left) right) (sweep combine (!left) right as []) code
            = combine (!left) right :=
          covers_of_below fun cut member => by
            have := mem_sweep member
            grind [List.pairwise_cons]
        simp only [covers, before, later, if_true]
        split <;> simp_all
      · simp only [covers, before, if_false] at *
        split <;> grind [List.pairwise_cons]
  | case3 left right b bs inductionHypothesis =>
      rw [covers_keepChange]
      by_cases before : code < b
      · have later : covers (combine left (!right)) (sweep combine left (!right) [] bs) code
            = combine left (!right) :=
          covers_of_below fun cut member => by
            have := mem_sweep member
            grind [List.pairwise_cons]
        simp only [covers, before, later, if_true]
        split <;> simp_all
      · simp only [covers, before, if_false] at *
        split <;> grind [List.pairwise_cons]
  | case4 left right a as b bs less inductionHypothesis =>
      rw [covers_keepChange]
      by_cases before : code < a
      · have later : covers (combine (!left) right) (sweep combine (!left) right as (b :: bs)) code
            = combine (!left) right :=
          covers_of_below fun cut member => by
            have := mem_sweep member
            grind [List.pairwise_cons]
        have beforeOther : code < b := by omega
        simp only [covers, before, beforeOther, later, if_true]
        split <;> simp_all
      · have inner := inductionHypothesis (by grind [List.pairwise_cons]) bsIncreasing
        rw [inner]
        simp only [covers, before, if_false]
        split <;> simp_all
  | case5 left right a as b bs notLess less inductionHypothesis =>
      rw [covers_keepChange]
      by_cases before : code < b
      · have later : covers (combine left (!right)) (sweep combine left (!right) (a :: as) bs) code
            = combine left (!right) :=
          covers_of_below fun cut member => by
            have := mem_sweep member
            grind [List.pairwise_cons]
        have beforeOther : code < a := by omega
        simp only [covers, before, beforeOther, later, if_true]
        split <;> simp_all
      · have inner := inductionHypothesis asIncreasing (by grind [List.pairwise_cons])
        rw [inner]
        simp only [covers, before, if_false]
        split <;> simp_all
  | case6 left right a as b bs notLess notGreater inductionHypothesis =>
      have same : a = b := by omega
      subst same
      rw [covers_keepChange]
      by_cases before : code < a
      · have later : covers (combine (!left) (!right)) (sweep combine (!left) (!right) as bs) code
            = combine (!left) (!right) :=
          covers_of_below fun cut member => by
            have := mem_sweep member
            grind [List.pairwise_cons]
        simp only [covers, before, later, if_true]
        split <;> simp_all
      · have inner := inductionHypothesis (by grind [List.pairwise_cons]) (by grind [List.pairwise_cons])
        rw [inner]
        simp only [covers, before, if_false]
        split <;> simp_all

/-- The combination of two sets; `combine` has to leave out what both sets leave out. -/
def combine (operation : Bool → Bool → Bool) (left right : CharSet) : CharSet where
  cuts := sweep operation false false left.cuts right.cuts
  increasing := pairwise_sweep operation false false left.increasing right.increasing

theorem contains_combine {operation : Bool → Bool → Bool} (outside : operation false false = false)
    (left right : CharSet) (c : Char) :
    (combine operation left right).contains c = operation (left.contains c) (right.contains c) := by
  have := covers_sweep operation false false c.toNat left.increasing right.increasing
  rw [outside] at this
  exact this

def empty : CharSet := ⟨[], .nil⟩

/-- All characters. -/
def all : CharSet where
  cuts := [0]

/-- The characters whose codes lie between two bounds, both included. -/
def range (first last : Nat) : CharSet :=
  if bounded : first < last + 1 then ⟨[first, last + 1], by simpa using bounded⟩ else empty

def single (c : Char) : CharSet :=
  range c.toNat c.toNat

def union : CharSet → CharSet → CharSet :=
  combine or

def intersection : CharSet → CharSet → CharSet :=
  combine and

/-- The members of the first set that are not in the second. -/
def difference : CharSet → CharSet → CharSet :=
  combine fun left right => left && !right

/-- The members of exactly one of the sets. -/
def symmetricDifference : CharSet → CharSet → CharSet :=
  combine xor

def complement (set : CharSet) : CharSet :=
  all.difference set

theorem contains_union (left right : CharSet) (c : Char) :
    (left.union right).contains c = (left.contains c || right.contains c) :=
  contains_combine rfl left right c

theorem contains_intersection (left right : CharSet) (c : Char) :
    (left.intersection right).contains c = (left.contains c && right.contains c) :=
  contains_combine rfl left right c

theorem contains_difference (left right : CharSet) (c : Char) :
    (left.difference right).contains c = (left.contains c && !right.contains c) :=
  contains_combine rfl left right c

theorem contains_symmetricDifference (left right : CharSet) (c : Char) :
    (left.symmetricDifference right).contains c = xor (left.contains c) (right.contains c) :=
  contains_combine rfl left right c

theorem contains_complement (set : CharSet) (c : Char) :
    set.complement.contains c = !set.contains c := by
  have everything : all.contains c = true := by simp [contains, all, covers]
  simp [complement, contains_difference, everything]

theorem contains_range (first last : Nat) (c : Char) :
    (range first last).contains c = (decide (first ≤ c.toNat) && decide (c.toNat ≤ last)) := by
  unfold range
  split <;> simp [contains, covers, empty] <;> grind

/-- Unions of neighbours. -/
def unionPairs : List CharSet → List CharSet
  | first :: second :: rest => first.union second :: unionPairs rest
  | sets => sets

theorem length_unionPairs (sets : List CharSet) : (unionPairs sets).length ≤ sets.length := by
  fun_induction unionPairs sets <;> grind

/-- The union of all the sets. -/
def unionAll : List CharSet → CharSet
  | [] => empty
  | [set] => set
  | first :: second :: rest => unionAll (first.union second :: unionPairs rest)
termination_by sets => sets.length
decreasing_by
  have := length_unionPairs rest
  simp only [List.length_cons]
  omega

/-- Pairs up cuts into ranges with included bounds, up to the last character. -/
def rangesOfCuts : List Nat → List (Nat × Nat)
  | [] => []
  | [first] => if first ≤ 0x10ffff then [(first, 0x10ffff)] else []
  | first :: next :: rest =>
      if first ≤ 0x10ffff then (first, min (next - 1) 0x10ffff) :: rangesOfCuts rest else []

/-- The ranges of codes that make up the set. -/
def ranges (set : CharSet) : List (Nat × Nat) :=
  rangesOfCuts set.cuts

def isAscii (set : CharSet) : Bool :=
  set.ranges.all fun (_, last) => last < 0x80

end CharSet

end FormRules
