/-
This file says where errors come from: in steps that follow each other from the first step that fails, and
in a list from the first item with a flaw.
-/

import Mathlib.Data.List.Forall2

namespace FormRules

variable {α β γ ε : Type}

theorem bind_eq_error_iff {x : Except ε α} {f : α → Except ε β} {error : ε} :
    x >>= f = .error error ↔
      x = .error error ∨ ∃ result, x = .ok result ∧ f result = .error error := by
  cases x <;> simp [bind, Except.bind]

theorem bind_eq_ok_iff {x : Except ε α} {f : α → Except ε β} {result : β} :
    x >>= f = .ok result ↔ ∃ first, x = .ok first ∧ f first = .ok result := by
  cases x <;> simp [bind, Except.bind]

@[simp] theorem pure_ne_error {result : α} {error : ε} :
    (pure result : Except ε α) ≠ .error error := by
  simp [pure, Except.pure]

@[simp] theorem pure_eq_ok_iff {first result : α} :
    (pure first : Except ε α) = .ok result ↔ first = result := by
  simp [pure, Except.pure]

theorem map_eq_error_iff {x : Except ε α} {f : α → β} {error : ε} :
    x.map f = .error error ↔ x = .error error := by
  cases x <;> simp [Except.map]

theorem mapError_eq_error_iff {x : Except ε α} {f : ε → γ} {error : γ} :
    x.mapError f = .error error ↔ ∃ cause, x = .error cause ∧ error = f cause := by
  cases x with
  | error cause =>
      show Except.error (f cause) = .error error ↔ _
      simp [eq_comm]
  | ok result =>
      show Except.ok result = .error error ↔ _
      simp

theorem mapError_eq_ok_iff {x : Except ε α} {f : ε → γ} {result : α} :
    x.mapError f = .ok result ↔ x = .ok result := by
  cases x with
  | error cause =>
      show Except.error (f cause) = .ok result ↔ _
      simp
  | ok first =>
      show Except.ok first = .ok result ↔ _
      simp

theorem exists_ok_iff {x : Except ε α} :
    (∃ result, x = .ok result) ↔ ∀ error, x ≠ .error error := by
  cases x <;> simp

/-- The item has a flaw, and no item before it has any. -/
def First (flaw : α → ε → Prop) (items : List α) (item : α) (error : ε) : Prop :=
  ∃ before after, items = before ++ item :: after ∧
    (∀ other ∈ before, ∀ otherError, ¬ flaw other otherError) ∧ flaw item error

section First

variable {flaw : α → ε → Prop} {items : List α} {item : α} {error : ε}

@[simp] theorem not_first_nil : ¬ First flaw [] item error := by
  simp [First]

/-- The first flaw is in the head of the list, or in its tail if the head has none. -/
theorem first_cons {head : α} {rest : List α} :
    First flaw (head :: rest) item error ↔
      (head = item ∧ flaw item error) ∨
        ((∀ headError, ¬ flaw head headError) ∧ First flaw rest item error) := by
  constructor
  · intro first
    obtain ⟨before, after, split, fine, found⟩ := first
    cases before with
    | nil =>
        obtain ⟨same, -⟩ := List.cons.inj split
        exact .inl ⟨same, found⟩
    | cons first before =>
        obtain ⟨rfl, splitRest⟩ := List.cons.inj split
        obtain ⟨headFine, restFine⟩ := List.forall_mem_cons.1 fine
        exact .inr ⟨headFine, before, after, splitRest, restFine, found⟩
  · intro headOrRest
    rcases headOrRest with ⟨rfl, found⟩ | ⟨headFine, before, after, rfl, restFine, found⟩
    · exact ⟨[], rest, rfl, by simp, found⟩
    · exact ⟨head :: before, after, rfl, List.forall_mem_cons.2 ⟨headFine, restFine⟩, found⟩

theorem exists_first_cons {head : α} {rest : List α} :
    (∃ item, First flaw (head :: rest) item error) ↔
      flaw head error ∨
        ((∀ headError, ¬ flaw head headError) ∧ ∃ item, First flaw rest item error) := by
  simp only [first_cons, exists_or, exists_and_left, exists_eq_left']

theorem First.flawed (first : First flaw items item error) : flaw item error := by
  obtain ⟨_, _, _, _, found⟩ := first
  exact found

theorem First.mem (first : First flaw items item error) : item ∈ items := by
  obtain ⟨before, after, rfl, _, _⟩ := first
  simp

/-- More items behind the first flaw change nothing. -/
theorem First.append (first : First flaw items item error) (more : List α) :
    First flaw (items ++ more) item error := by
  obtain ⟨before, after, split, fine, found⟩ := first
  refine ⟨before, after ++ more, ?_, fine, found⟩
  rw [split, List.append_assoc, List.cons_append]

/-- What is first in two lists is first in the one, or in the other if the one has no flaw. -/
theorem first_append {early late : List α} :
    First flaw (early ++ late) item error ↔
      First flaw early item error ∨
        ((∀ other ∈ early, ∀ otherError, ¬ flaw other otherError) ∧ First flaw late item error) := by
  induction early with
  | nil => simp
  | cons head rest inductionHypothesis =>
      rw [List.cons_append, first_cons, first_cons, inductionHypothesis, List.forall_mem_cons]
      tauto

/-- Leaving out items that have no flaw changes nothing. -/
theorem First.filter {keep : α → Bool} (first : First flaw items item error)
    (flawless : ∀ other ∈ items, keep other = false → ∀ otherError, ¬ flaw other otherError) :
    First flaw (items.filter keep) item error := by
  have kept : keep item = true := by
    cases dropped : keep item with
    | true => rfl
    | false => exact absurd first.flawed (flawless item first.mem dropped error)
  obtain ⟨before, after, split, fine, found⟩ := first
  refine ⟨before.filter keep, after.filter keep, ?_, ?_, found⟩
  · rw [split, List.filter_append, List.filter_cons_of_pos kept]
  · intro other member
    exact fine other (List.mem_of_mem_filter member)

theorem none_or_first (flaw : α → ε → Prop) (items : List α) :
    (∀ item ∈ items, ∀ error, ¬ flaw item error) ∨ ∃ item error, First flaw items item error := by
  induction items with
  | nil => exact .inl (by simp)
  | cons head rest inductionHypothesis =>
      by_cases flawed : ∃ error, flaw head error
      · obtain ⟨error, found⟩ := flawed
        exact .inr ⟨head, error, first_cons.2 (.inl ⟨rfl, found⟩)⟩
      · have headFine : ∀ error, ¬ flaw head error := not_exists.1 flawed
        rcases inductionHypothesis with restFine | ⟨item, error, first⟩
        · exact .inl (List.forall_mem_cons.2 ⟨headFine, restFine⟩)
        · exact .inr ⟨item, error, first_cons.2 (.inr ⟨headFine, first⟩)⟩

/-- Where there are flaws there is a first one. -/
theorem exists_first_iff :
    (∃ item error, First flaw items item error) ↔ ∃ item ∈ items, ∃ error, flaw item error := by
  constructor
  · intro earliest
    obtain ⟨item, error, first⟩ := earliest
    exact ⟨item, first.mem, error, first.flawed⟩
  · intro flawed
    obtain ⟨item, member, error, found⟩ := flawed
    exact (none_or_first flaw items).resolve_left fun fine => fine item member error found

/-- What is first depends on the flaws of the items only. -/
theorem first_congr {otherFlaw : α → ε → Prop}
    (same : ∀ item ∈ items, ∀ error, flaw item error ↔ otherFlaw item error) :
    First flaw items item error ↔ First otherFlaw items item error := by
  apply exists_congr
  intro before
  apply exists_congr
  intro after
  apply and_congr_right
  intro split
  have early : ∀ other ∈ before, other ∈ items := by
    intro other member
    rw [split]
    exact List.mem_append_left _ member
  apply and_congr
  · apply forall₂_congr
    intro other member
    apply forall_congr'
    intro otherError
    rw [same other (early other member) otherError]
  · have member : item ∈ items := by simp [split]
    exact same item member error

end First

/-- The function fails on no item. -/
def AllOk (f : α → Except ε β) (items : List α) : Prop :=
  ∀ item ∈ items, ∃ result, f item = .ok result

/-- The function fails on an item with an error, and on no item before it. -/
abbrev FirstError (f : α → Except ε β) : List α → α → ε → Prop :=
  First fun item error => f item = .error error

@[simp] theorem allOk_nil (f : α → Except ε β) : AllOk f [] := by
  simp [AllOk]

@[simp] theorem allOk_cons {f : α → Except ε β} {item : α} {rest : List α} :
    AllOk f (item :: rest) ↔ (∃ result, f item = .ok result) ∧ AllOk f rest := by
  simp [AllOk]

theorem allOk_append {f : α → Except ε β} {early late : List α} :
    AllOk f (early ++ late) ↔ AllOk f early ∧ AllOk f late := by
  simp only [AllOk, List.forall_mem_append]

theorem AllOk.filter {f : α → Except ε β} {items : List α} (fine : AllOk f items) (keep : α → Bool) :
    AllOk f (items.filter keep) := by
  intro item member
  exact fine item (List.mem_of_mem_filter member)

theorem allOk_or_firstError (f : α → Except ε β) (items : List α) :
    AllOk f items ∨ ∃ item error, FirstError f items item error := by
  simp only [AllOk, exists_ok_iff]
  exact none_or_first _ items

theorem not_allOk_of_firstError {f : α → Except ε β} {items : List α} {item : α} {error : ε}
    (first : FirstError f items item error) : ¬ AllOk f items := by
  intro passed
  exact exists_ok_iff.1 (passed item first.mem) error first.flawed

theorem mapM_eq_error_iff {f : α → Except ε β} {items : List α} {error : ε} :
    items.mapM f = .error error ↔ ∃ item, FirstError f items item error := by
  induction items with
  | nil => simp
  | cons head rest inductionHypothesis =>
      simp only [List.mapM_cons, bind_eq_error_iff, inductionHypothesis, pure_ne_error, and_false,
        exists_false, or_false, exists_first_cons, exists_and_right, exists_ok_iff, ne_eq]

theorem exists_mapM_eq_ok_iff {f : α → Except ε β} {items : List α} :
    (∃ results, items.mapM f = .ok results) ↔ AllOk f items := by
  rw [exists_ok_iff]
  constructor
  · intro fine
    rcases allOk_or_firstError f items with allOk | failed
    · exact allOk
    · obtain ⟨item, error, first⟩ := failed
      exact absurd (mapM_eq_error_iff.2 ⟨item, first⟩) (fine error)
  · intro allOk error failed
    obtain ⟨item, first⟩ := mapM_eq_error_iff.1 failed
    exact not_allOk_of_firstError first allOk

theorem mapM_eq_ok_iff {f : α → Except ε β} {items : List α} {results : List β} :
    items.mapM f = .ok results ↔ List.Forall₂ (fun item result => f item = .ok result) items results := by
  induction items generalizing results with
  | nil =>
      rw [List.mapM_nil, pure_eq_ok_iff, List.forall₂_nil_left_iff, eq_comm]
  | cons head rest inductionHypothesis =>
      simp only [List.mapM_cons, bind_eq_ok_iff, pure_eq_ok_iff, inductionHypothesis,
        List.forall₂_cons_left_iff]
      constructor
      · intro made
        obtain ⟨first, headMade, others, restMade, rfl⟩ := made
        exact ⟨first, others, headMade, restMade, rfl⟩
      · intro made
        obtain ⟨first, others, headMade, restMade, rfl⟩ := made
        exact ⟨first, headMade, others, restMade, rfl⟩

theorem mapM_cons_eq_some_iff {f : α → Option β} {item : α} {items : List α} {results : List β} :
    (item :: items).mapM f = some results ↔
      ∃ first others, f item = some first ∧ items.mapM f = some others ∧ results = first :: others := by
  simp only [List.mapM_cons, Option.bind_eq_bind, Option.bind_eq_some_iff, Option.pure_def, Option.some.injEq]
  constructor
  · intro found
    obtain ⟨first, made, others, restMade, rfl⟩ := found
    exact ⟨first, others, made, restMade, rfl⟩
  · intro found
    obtain ⟨first, others, made, restMade, rfl⟩ := found
    exact ⟨first, made, others, restMade, rfl⟩

theorem mapM_eq_some_iff {f : α → Option β} {items : List α} {results : List β} :
    items.mapM f = some results ↔ List.Forall₂ (fun item result => f item = some result) items results := by
  induction items generalizing results with
  | nil => simp [eq_comm]
  | cons item rest inductionHypothesis =>
      simp only [mapM_cons_eq_some_iff, inductionHypothesis, List.forall₂_cons_left_iff]

/-- Each result was made from some item. -/
theorem exists_of_mem_forall₂ {made : α → β → Prop} {items : List α} {results : List β}
    (all : List.Forall₂ made items results) {result : β} (member : result ∈ results) :
    ∃ item ∈ items, made item result := by
  induction all with
  | nil => cases member
  | cons first _ inductionHypothesis =>
      rcases List.mem_cons.1 member with rfl | later
      · exact ⟨_, List.mem_cons_self, first⟩
      · obtain ⟨item, inside, madeHere⟩ := inductionHypothesis later
        exact ⟨item, List.mem_cons_of_mem _ inside, madeHere⟩

/-- What is said of the items of one list in terms of those of the other is true of all of them alike. -/
theorem forall_mem_iff_of_forall₂ {related : α → β → Prop} {p : α → Prop} {q : β → Prop}
    {items : List α} {others : List β} (all : List.Forall₂ related items others)
    (same : ∀ item other, related item other → (p item ↔ q other)) :
    (∀ item ∈ items, p item) ↔ ∀ other ∈ others, q other := by
  induction all with
  | nil => simp
  | cons head _ inductionHypothesis =>
      rw [List.forall_mem_cons, List.forall_mem_cons, same _ _ head, inductionHypothesis]

theorem exists_mem_iff_of_forall₂ {related : α → β → Prop} {p : α → Prop} {q : β → Prop}
    {items : List α} {others : List β} (all : List.Forall₂ related items others)
    (same : ∀ item other, related item other → (p item ↔ q other)) :
    (∃ item ∈ items, p item) ↔ ∃ other ∈ others, q other := by
  induction all with
  | nil => simp
  | cons head _ inductionHypothesis =>
      rw [List.exists_mem_cons_iff, List.exists_mem_cons_iff, same _ _ head, inductionHypothesis]

end FormRules
