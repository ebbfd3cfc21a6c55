/-
This file holds maps from names that list their entries in increasing order of the names. Names are ordered
by their characters, which is also the order of their UTF-8 bytes.
-/

namespace FormRules

/-- Entries by name, each name once and in increasing order. -/
structure NameMap (α : Type) where
  entries : List (String × α)
  increasing : entries.Pairwise fun first second => first.1 < second.1
  deriving DecidableEq

namespace NameMap

variable {α β ε : Type}

def empty : NameMap α := ⟨[], .nil⟩

/-- Puts an entry in its place, where it replaces an entry of the same name. -/
def insertEntry (name : String) (value : α) : List (String × α) → List (String × α)
  | [] => [(name, value)]
  | entry :: rest =>
      if name < entry.1 then (name, value) :: entry :: rest
      else if name = entry.1 then (name, value) :: rest
      else entry :: insertEntry name value rest

theorem mem_insertEntry {name : String} {value : α} {entries : List (String × α)}
    {entry : String × α} (member : entry ∈ insertEntry name value entries) :
    entry = (name, value) ∨ entry ∈ entries := by
  fun_induction insertEntry name value entries <;> grind

theorem pairwise_insertEntry (name : String) (value : α) {entries : List (String × α)}
    (increasing : entries.Pairwise fun first second => first.1 < second.1) :
    (insertEntry name value entries).Pairwise fun first second => first.1 < second.1 := by
  fun_induction insertEntry name value entries with
  | case1 => simp
  | case2 entry rest before =>
      refine List.pairwise_cons.2 ⟨?_, increasing⟩
      intro other member
      rcases List.mem_cons.1 member with rfl | later
      · exact before
      · exact String.lt_trans before ((List.pairwise_cons.1 increasing).1 other later)
  | case3 entry rest notBefore same =>
      obtain ⟨after, increasing⟩ := List.pairwise_cons.1 increasing
      exact List.pairwise_cons.2 ⟨fun other member => same ▸ after other member, increasing⟩
  | case4 entry rest notBefore different inductionHypothesis =>
      obtain ⟨after, increasing⟩ := List.pairwise_cons.1 increasing
      refine List.pairwise_cons.2 ⟨?_, inductionHypothesis increasing⟩
      intro other member
      rcases mem_insertEntry member with rfl | later
      · rcases String.le_total entry.1 name with below | above
        · exact Std.lt_of_le_of_ne below (Ne.symm different)
        · exact absurd (Std.lt_of_le_of_ne above different) notBefore
      · exact after other later

/-- The map with an entry for the name, the only one. -/
def insert (map : NameMap α) (name : String) (value : α) : NameMap α where
  entries := insertEntry name value map.entries
  increasing := pairwise_insertEntry name value map.increasing

def get? (map : NameMap α) (name : String) : Option α :=
  (map.entries.find? fun entry => entry.1 == name).map (·.2)

/-- Inserts an entry and returns the value that it replaces, if there was one. -/
def exchange (map : NameMap α) (name : String) (value : α) : Option α × NameMap α :=
  (map.get? name, map.insert name value)

/-- The map of pairs, of which the last one counts for each name. -/
def ofList (pairs : List (String × α)) : NameMap α :=
  pairs.foldl (fun map pair => map.insert pair.1 pair.2) empty

def size (map : NameMap α) : Nat :=
  map.entries.length

def names (map : NameMap α) : List String :=
  map.entries.map (·.1)

theorem ext {first second : NameMap α} (equal : first.entries = second.entries) : first = second := by
  cases first
  cases second
  cases equal
  rfl

/-- Applies a function to the entries in order, up to the first on which it fails. -/
def traverseEntries (f : String → α → Except ε β) :
    List (String × α) → Except ε (List (String × β))
  | [] => .ok []
  | entry :: rest => do
      let value ← f entry.1 entry.2
      let others ← traverseEntries f rest
      return (entry.1, value) :: others

theorem names_traverseEntries {f : String → α → Except ε β} {entries : List (String × α)}
    {results : List (String × β)} (finished : traverseEntries f entries = .ok results) :
    results.map (·.1) = entries.map (·.1) := by
  induction entries generalizing results with
  | nil => cases finished; rfl
  | cons entry rest inductionHypothesis =>
      simp only [traverseEntries, bind, Except.bind] at finished
      split at finished
      · cases finished
      · split at finished
        · cases finished
        · rename_i others othersFinished
          cases finished
          simp [inductionHypothesis othersFinished]

/-- Replaces the values in order of the names, up to the first on which the function fails. -/
def traverse (f : String → α → Except ε β) (map : NameMap α) : Except ε (NameMap β) :=
  match finished : traverseEntries f map.entries with
  | .error error => .error error
  | .ok results =>
      .ok
        { entries := results
          increasing := by
            have increasing := List.pairwise_map.2 map.increasing
            rw [← names_traverseEntries finished] at increasing
            exact List.pairwise_map.1 increasing }

end NameMap

end FormRules
