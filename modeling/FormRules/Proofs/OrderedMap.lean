/-
This file shows what can be read from a map, and that going through its entries in order meets the errors of
smaller names first. Without errors each result depends on the entry of its name alone.
-/

import FormRules.NameMap
import FormRules.Proofs.FirstError
import Mathlib.Data.List.Induction
import Mathlib.Data.List.Pairwise
import Mathlib.Data.List.Sort

namespace FormRules.NameMap

variable {α β ε : Type}

theorem get?_eq_some_iff {map : NameMap α} {name : String} {value : α} :
    map.get? name = some value ↔ (name, value) ∈ map.entries := by
  constructor
  · intro found
    obtain ⟨entry, first, rfl⟩ := Option.map_eq_some_iff.1 found
    have named : entry.1 = name := by simpa using List.find?_some first
    rw [← named]
    exact List.mem_of_find?_eq_some first
  · intro member
    obtain ⟨before, after, split⟩ := List.append_of_mem member
    have apart : ∀ entry ∈ before, entry.1 ≠ name := by
      intro entry early same
      have increasing := map.increasing
      rw [split, List.pairwise_append] at increasing
      have less := increasing.2.2 entry early (name, value) List.mem_cons_self
      exact String.lt_irrefl name (same ▸ less)
    have none : before.find? (fun entry => entry.1 == name) = none := by
      simpa [List.find?_eq_none] using apart
    simp [get?, split, List.find?_append, none]

/-- The names of the entries that pass a test are those under which there is a value that passes it. -/
theorem mem_map_filter_entries_iff {map : NameMap α} (keep : α → Bool) {name : String} :
    name ∈ (map.entries.filter fun entry => keep entry.2).map (·.1) ↔
      ∃ value, map.get? name = some value ∧ keep value = true := by
  simp only [List.mem_map, List.mem_filter, Prod.exists, exists_eq_right, exists_and_right,
    get?_eq_some_iff]

theorem increasing_map_filter_entries (map : NameMap α) (keep : String × α → Bool) :
    ((map.entries.filter keep).map (·.1)).Pairwise fun first second => first < second :=
  List.pairwise_map.2 (map.increasing.filter keep)

theorem find?_insertEntry (name other : String) (value : α) (entries : List (String × α)) :
    (insertEntry name value entries).find? (fun entry => entry.1 == other) =
      if other = name then some (name, value) else entries.find? fun entry => entry.1 == other := by
  fun_induction insertEntry name value entries with
  | case1 =>
      by_cases same : other = name
      · simp [same]
      · simp [same, Ne.symm same]
  | case2 entry rest before =>
      by_cases same : other = name
      · simp [same]
      · simp [same, Ne.symm same]
  | case3 entry rest notBefore here =>
      by_cases same : other = name
      · simp [same]
      · have apart : (entry.1 == other) = false := by simpa [← here] using Ne.symm same
        simp [same, Ne.symm same, apart]
  | case4 entry rest notBefore different inductionHypothesis =>
      rw [List.find?_cons, List.find?_cons, inductionHypothesis]
      by_cases same : other = name
      · have apart : (entry.1 == name) = false := by simpa using Ne.symm different
        simp [same, apart]
      · simp [same]

/-- An insertion is seen under its own name only. -/
theorem get?_insert (map : NameMap α) (name other : String) (value : α) :
    (map.insert name value).get? other = if other = name then some value else map.get? other := by
  rw [get?, insert, find?_insertEntry]
  split <;> rfl

theorem get?_insert_self (map : NameMap α) (name : String) (value : α) :
    (map.insert name value).get? name = some value := by
  rw [get?_insert, if_pos rfl]

theorem get?_insert_of_ne {map : NameMap α} {name other : String} {value : α} (different : other ≠ name) :
    (map.insert name value).get? other = map.get? other := by
  rw [get?_insert, if_neg different]

/-- Maps are equal if the same can be read from them. -/
theorem ext_get? {first second : NameMap α} (same : ∀ name, first.get? name = second.get? name) :
    first = second := by
  have irreflexive : Std.Irrefl fun one other : String × α => one.1 < other.1 :=
    ⟨fun entry => String.lt_irrefl entry.1⟩
  have antisymmetric : Std.Antisymm fun one other : String × α => one.1 < other.1 :=
    ⟨fun one other less greater => absurd (String.lt_trans less greater) (String.lt_irrefl one.1)⟩
  apply ext
  apply first.increasing.eq_of_mem_iff second.increasing
  intro entry
  rw [← get?_eq_some_iff, ← get?_eq_some_iff, same]

theorem ofList_append_singleton (pairs : List (String × α)) (last : String × α) :
    ofList (pairs ++ [last]) = (ofList pairs).insert last.1 last.2 := by
  rw [ofList, List.foldl_append]
  rfl

/-- Pairs of different names can all be found. -/
theorem get?_ofList_eq_some_iff {pairs : List (String × α)} (distinct : (pairs.map (·.1)).Nodup)
    {name : String} {value : α} : (ofList pairs).get? name = some value ↔ (name, value) ∈ pairs := by
  induction pairs using List.reverseRecOn with
  | nil => simp [ofList, empty, get?]
  | append_singleton early last inductionHypothesis =>
      rw [List.map_append, List.nodup_append] at distinct
      obtain ⟨earlyDistinct, -, apart⟩ := distinct
      rw [ofList_append_singleton, get?_insert, List.mem_append, List.mem_singleton]
      by_cases same : name = last.1
      · subst same
        have absent : (last.1, value) ∉ early := by
          intro member
          exact apart last.1 (List.mem_map.2 ⟨_, member, rfl⟩) last.1 (by simp) rfl
        rw [if_pos rfl]
        simp [absent, Prod.ext_iff, eq_comm]
      · rw [if_neg same, inductionHypothesis earlyDistinct]
        simp [Prod.ext_iff, same]

theorem ofList_entries (map : NameMap α) : ofList map.entries = map := by
  have distinct : (map.entries.map (·.1)).Nodup := by
    apply List.pairwise_map.2
    apply map.increasing.imp
    intro first second less same
    exact String.lt_irrefl second.1 (same ▸ less)
  apply ext_get?
  intro name
  ext value
  rw [get?_ofList_eq_some_iff distinct, get?_eq_some_iff]

/-- The first flaw in the order of the entries is the one under the smallest name. -/
theorem first_entries_iff {map : NameMap α} {flaw : String × α → ε → Prop} {name : String} {value : α}
    {error : ε} :
    First flaw map.entries (name, value) error ↔
      map.get? name = some value ∧ flaw (name, value) error ∧
        ∀ other found, map.get? other = some found → other < name →
          ∀ otherError, ¬ flaw (other, found) otherError := by
  simp only [get?_eq_some_iff]
  have increasing := map.increasing
  constructor
  · intro first
    refine ⟨first.mem, first.flawed, ?_⟩
    obtain ⟨before, after, split, fine, _⟩ := first
    intro other found member smaller
    rw [split] at member increasing
    rcases List.mem_append.1 member with early | late
    · exact fine (other, found) early
    · exfalso
      have larger := (List.pairwise_cons.1 (List.pairwise_append.1 increasing).2.1).1
      rcases List.mem_cons.1 late with same | later
      · obtain ⟨rfl, -⟩ := Prod.mk.inj same
        exact String.lt_irrefl _ smaller
      · exact String.lt_irrefl _ (String.lt_trans smaller (larger (other, found) later))
  · intro smallest
    obtain ⟨found, flawed, fine⟩ := smallest
    obtain ⟨before, after, split⟩ := List.append_of_mem found
    refine ⟨before, after, split, ?_, flawed⟩
    intro entry early
    have smaller : entry.1 < name := by
      rw [split, List.pairwise_append] at increasing
      exact increasing.2.2 entry early (name, value) List.mem_cons_self
    have inside : entry ∈ map.entries := split ▸ List.mem_append_left _ early
    exact fine entry.1 entry.2 inside smaller

theorem traverseEntries_eq_error_iff {f : String → α → Except ε β} {entries : List (String × α)}
    {error : ε} :
    traverseEntries f entries = .error error ↔
      ∃ entry, FirstError (fun entry => f entry.1 entry.2) entries entry error := by
  induction entries with
  | nil => simp [traverseEntries]
  | cons head rest inductionHypothesis =>
      simp only [traverseEntries, bind_eq_error_iff, inductionHypothesis, pure_ne_error, and_false,
        exists_false, or_false, exists_first_cons, exists_and_right, exists_ok_iff, ne_eq]

theorem mem_traverseEntries {f : String → α → Except ε β} {entries : List (String × α)}
    {results : List (String × β)} (finished : traverseEntries f entries = .ok results)
    {name : String} {result : β} :
    (name, result) ∈ results ↔ ∃ value, (name, value) ∈ entries ∧ f name value = .ok result := by
  induction entries generalizing results with
  | nil =>
      cases finished
      simp
  | cons head rest inductionHypothesis =>
      simp only [traverseEntries, bind_eq_ok_iff, pure_eq_ok_iff] at finished
      obtain ⟨first, passed, others, later, rfl⟩ := finished
      simp only [List.mem_cons, inductionHypothesis later, Prod.mk.injEq]
      constructor
      · intro listed
        rcases listed with ⟨rfl, rfl⟩ | ⟨value, member, made⟩
        · exact ⟨head.2, .inl rfl, passed⟩
        · exact ⟨value, .inr member, made⟩
      · intro listed
        rcases listed with ⟨value, rfl | member, made⟩
        · rw [passed] at made
          exact .inl ⟨rfl, (Except.ok.inj made).symm⟩
        · exact .inr ⟨value, member, made⟩

theorem traverse_eq_error_iff {f : String → α → Except ε β} {map : NameMap α} {error : ε} :
    traverse f map = .error error ↔
      ∃ entry, FirstError (fun entry => f entry.1 entry.2) map.entries entry error := by
  rw [← traverseEntries_eq_error_iff]
  unfold traverse
  split <;> simp_all

theorem traverseEntries_of_traverse {f : String → α → Except ε β} {map : NameMap α} {results : NameMap β}
    (finished : traverse f map = .ok results) : traverseEntries f map.entries = .ok results.entries := by
  unfold traverse at finished
  split at finished
  · cases finished
  · rename_i made entries
    cases finished
    exact entries

theorem names_traverse {f : String → α → Except ε β} {map : NameMap α} {results : NameMap β}
    (finished : traverse f map = .ok results) : results.names = map.names :=
  names_traverseEntries (traverseEntries_of_traverse finished)

/-- The results stand in the order of the entries from which they were made. -/
theorem forall₂_traverseEntries {f : String → α → Except ε β} {entries : List (String × α)}
    {results : List (String × β)} (finished : traverseEntries f entries = .ok results) :
    List.Forall₂ (fun entry result => result.1 = entry.1 ∧ f entry.1 entry.2 = .ok result.2) entries results := by
  induction entries generalizing results with
  | nil =>
      cases finished
      exact .nil
  | cons head rest inductionHypothesis =>
      simp only [traverseEntries, bind_eq_ok_iff, pure_eq_ok_iff] at finished
      obtain ⟨first, passed, others, later, rfl⟩ := finished
      exact .cons ⟨rfl, passed⟩ (inductionHypothesis later)

theorem exists_traverse_eq_ok_iff {f : String → α → Except ε β} {map : NameMap α} :
    (∃ results, traverse f map = .ok results) ↔
      ∀ name value, map.get? name = some value → ∃ result, f name value = .ok result := by
  simp only [exists_ok_iff, ne_eq, traverse_eq_error_iff, get?_eq_some_iff]
  constructor
  · intro fine name value member error failed
    have flawed : ∃ entry ∈ map.entries, ∃ error, f entry.1 entry.2 = .error error :=
      ⟨(name, value), member, error, failed⟩
    obtain ⟨entry, first, earliest⟩ := exists_first_iff.2 flawed
    exact fine first ⟨entry, earliest⟩
  · intro fine error failed
    obtain ⟨entry, first⟩ := failed
    exact fine entry.1 entry.2 first.mem error first.flawed

/-- The results stand under the names of the values from which they were made. -/
theorem get?_traverse {f : String → α → Except ε β} {map : NameMap α} {results : NameMap β}
    (finished : traverse f map = .ok results) {name : String} {result : β} :
    results.get? name = some result ↔
      ∃ value, map.get? name = some value ∧ f name value = .ok result := by
  simp only [get?_eq_some_iff]
  exact mem_traverseEntries (traverseEntries_of_traverse finished)

/-- Functions that agree on the entries of a map give the same results. -/
theorem traverse_eq_ok_of_agree {f g : String → α → Except ε β} {map : NameMap α} {results : NameMap β}
    (finished : traverse f map = .ok results)
    (agree : ∀ name value, map.get? name = some value → g name value = f name value) :
    traverse g map = .ok results := by
  have made := exists_traverse_eq_ok_iff.1 ⟨results, finished⟩
  obtain ⟨others, otherFinished⟩ : ∃ others, traverse g map = .ok others := by
    apply exists_traverse_eq_ok_iff.2
    intro name value found
    rw [agree name value found]
    exact made name value found
  have same : others = results := by
    apply ext_get?
    intro name
    ext result
    rw [get?_traverse otherFinished, get?_traverse finished]
    apply exists_congr
    intro value
    apply and_congr_right
    intro found
    rw [agree name value found]
  rw [otherFinished, same]

/-- What changes under one name leaves the results under all other names as they are, provided that there is
still a result under the one. -/
theorem exists_traverse_of_agree_elsewhere {f g : String → α → Except ε β} {map other : NameMap α}
    {results : NameMap β} {name : String} (finished : traverse f map = .ok results)
    (sameEntries : ∀ elsewhere, elsewhere ≠ name → other.get? elsewhere = map.get? elsewhere)
    (agree : ∀ elsewhere, elsewhere ≠ name → g elsewhere = f elsewhere)
    (fine : ∀ value, other.get? name = some value → ∃ result, g name value = .ok result) :
    ∃ changed, traverse g other = .ok changed ∧
      ∀ elsewhere, elsewhere ≠ name → changed.get? elsewhere = results.get? elsewhere := by
  have made := exists_traverse_eq_ok_iff.1 ⟨results, finished⟩
  obtain ⟨changed, changedFinished⟩ : ∃ changed, traverse g other = .ok changed := by
    apply exists_traverse_eq_ok_iff.2
    intro here value found
    by_cases same : here = name
    · subst same
      exact fine value found
    · rw [agree here same]
      rw [sameEntries here same] at found
      exact made here value found
  refine ⟨changed, changedFinished, ?_⟩
  intro elsewhere different
  ext result
  rw [get?_traverse changedFinished, get?_traverse finished, sameEntries elsewhere different,
    agree elsewhere different]

end FormRules.NameMap
