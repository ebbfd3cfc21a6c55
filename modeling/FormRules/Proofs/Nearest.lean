/-
This file shows that quotients are rounded to the nearest number of a format. So rounding depends on the value
of a quotient alone and keeps the order of values, and it fails exactly for those that are beyond the largest
number by half of its last place or more.
-/

import FormRules.Proofs.Range
import Mathlib.Algebra.Order.Ring.Abs
import Mathlib.Tactic.Linarith

namespace FormRules.Binary

variable {format : Format} {negative : Bool} {numerator denominator exponent : Nat}

theorem twoTo_mono {first second : Nat} (le : first ≤ second) : twoTo first ≤ twoTo second :=
  Nat.pow_le_pow_right (by decide) le

theorem twoTo_lt_twoTo_iff {first second : Nat} : twoTo first < twoTo second ↔ first < second :=
  Nat.pow_lt_pow_iff_right (by decide)

/-- A natural number bounds a rounded quotient if and only if the quotient is no more than halfway to the
next one, where halfway is allowed if the number is even. -/
theorem roundToEven_le_iff (positive : 0 < denominator) {bound : Nat} :
    roundToEven numerator denominator ≤ bound ↔
      2 * numerator < (2 * bound + 1) * denominator ∨
        (2 * numerator = (2 * bound + 1) * denominator ∧ bound % 2 = 0) := by
  have split := Nat.div_add_mod numerator denominator
  have rest := Nat.mod_lt numerator positive
  simp only [roundToEven]
  generalize numerator / denominator = quotient at *
  generalize numerator % denominator = remainder at *
  subst split
  rcases Nat.lt_trichotomy quotient bound with below | rfl | above
  · obtain ⟨more, rfl⟩ := Nat.exists_eq_add_of_lt below
    have far : 2 * (denominator * quotient + remainder) <
        (2 * (quotient + more + 1) + 1) * denominator := by
      nlinarith [Nat.zero_le (more * denominator)]
    simp only [far, true_or, iff_true]
    split <;> omega
  · have halves : 2 * (denominator * quotient + remainder) =
        2 * quotient * denominator + 2 * remainder := by ring
    rw [halves, Nat.add_mul, Nat.one_mul]
    split <;> omega
  · obtain ⟨more, rfl⟩ := Nat.exists_eq_add_of_lt above
    have far : (2 * bound + 1) * denominator < 2 * (denominator * (bound + more + 1) + remainder) := by
      nlinarith [Nat.zero_le (more * denominator)]
    simp only [Nat.not_lt.2 far.le, far.ne', false_and, or_self, iff_false, Nat.not_le]
    split <;> omega

theorem roundToEven_mono {otherNumerator otherDenominator : Nat} (positive : 0 < denominator)
    (otherPositive : 0 < otherDenominator)
    (le : numerator * otherDenominator ≤ otherNumerator * denominator) :
    roundToEven numerator denominator ≤ roundToEven otherNumerator otherDenominator := by
  have crossed : 2 * numerator * otherDenominator ≤ 2 * otherNumerator * denominator := by
    rw [Nat.mul_assoc, Nat.mul_assoc]
    exact Nat.mul_le_mul_left 2 le
  rw [roundToEven_le_iff positive]
  rcases (roundToEven_le_iff otherPositive).1 (Nat.le_refl _) with inside | ⟨halfway, even⟩
  · left
    apply Nat.lt_of_mul_lt_mul_right (a := otherDenominator)
    rw [Nat.mul_right_comm _ denominator]
    exact crossed.trans_lt (Nat.mul_lt_mul_of_pos_right inside positive)
  · have within : 2 * numerator ≤
        (2 * roundToEven otherNumerator otherDenominator + 1) * denominator := by
      apply Nat.le_of_mul_le_mul_right _ otherPositive
      rw [Nat.mul_right_comm _ denominator, ← halfway]
      exact crossed
    rcases Nat.lt_or_eq_of_le within with inside | halfway
    · exact .inl inside
    · exact .inr ⟨halfway, even⟩

/-- The parts of a number are told from its size. -/
theorem parts_of_size {x : Binary format} {mantissa : Nat} (below : mantissa < twoTo format.precision)
    (normal : exponent = 0 ∨ twoTo (format.precision - 1) ≤ mantissa)
    (sized : x.size = mantissa * twoTo exponent) : x.mantissa = mantissa ∧ x.exponent = exponent := by
  have atMost : x.exponent ≤ exponent := by
    rw [← exponentFor_size, exponentFor_le_iff, sized, twoTo_add]
    exact Nat.mul_lt_mul_of_pos_right below (twoTo_pos _)
  have atLeast : exponent ≤ x.exponent := by
    rcases normal with rfl | normal
    · exact Nat.zero_le _
    · by_contra less
      have bounded : x.exponent ≤ exponent - 1 := by omega
      rw [← exponentFor_size, exponentFor_le_iff, sized, ← Nat.not_le] at bounded
      apply bounded
      have precise : 0 < format.precision := by
        rcases Nat.eq_zero_or_pos format.precision with zero | precise
        · rw [zero] at below normal
          exact absurd (normal.trans_lt below) (Nat.lt_irrefl _)
        · exact precise
      rw [show format.precision + (exponent - 1) = format.precision - 1 + exponent by omega, twoTo_add]
      exact Nat.mul_le_mul_right _ normal
  have same : x.exponent = exponent := Nat.le_antisymm atMost atLeast
  refine ⟨?_, same⟩
  rw [size, same] at sized
  exact Nat.eq_of_mul_eq_mul_right (twoTo_pos _) sized

theorem eq_of_parts {x y : Binary format} (sameSign : x.negative = y.negative)
    (sameMantissa : x.mantissa = y.mantissa) (sameExponent : x.exponent = y.exponent) : x = y := by
  cases x
  cases y
  cases sameSign
  cases sameMantissa
  cases sameExponent
  rfl

/-- A number is told from its sign and its size. -/
theorem eq_of_size {x y : Binary format} (sameSign : x.negative = y.negative)
    (sameSize : x.size = y.size) : x = y := by
  obtain ⟨sameMantissa, sameExponent⟩ := parts_of_size y.mantissa_lt y.normal sameSize
  exact eq_of_parts sameSign sameMantissa sameExponent

/-- What the size of a quotient is rounded to if there is no largest exponent. -/
def roundedSize (format : Format) (numerator denominator : Nat) : Nat :=
  let scaled := numerator * twoTo format.lowest
  let exponent := exponentFor format (scaled / denominator)
  roundToEven scaled (denominator * twoTo exponent) * twoTo exponent

theorem ofParts?_eq_some_iff {mantissa : Nat} {x : Binary format} :
    ofParts? negative mantissa exponent = some x ↔
      x.negative = negative ∧ x.mantissa = mantissa ∧ x.exponent = exponent := by
  constructor
  · intro made
    unfold ofParts? at made
    split at made
    · cases made
      exact ⟨rfl, rfl, rfl⟩
    · cases made
  · rintro ⟨rfl, rfl, rfl⟩
    exact ofParts?_self x

/-- A quotient is rounded to the number of its sign and its rounded size, if the format has that number. -/
theorem ofQuotient?_eq_some_iff (precise : 0 < format.precision) {x : Binary format} :
    ofQuotient? format negative numerator denominator = some x ↔
      x.negative = negative ∧ x.size = roundedSize format numerator denominator := by
  have halved : twoTo (format.precision - 1) < twoTo format.precision :=
    twoTo_lt_twoTo_iff.2 (by omega)
  simp only [ofQuotient?, roundedSize]
  generalize chosen : exponentFor format (numerator * twoTo format.lowest / denominator) = exponent
  have atMost : roundToEven (numerator * twoTo format.lowest) (denominator * twoTo exponent) ≤
      twoTo format.precision := chosen ▸ roundToEven_exponentFor_le
  have normal : exponent = 0 ∨ twoTo (format.precision - 1) ≤
      roundToEven (numerator * twoTo format.lowest) (denominator * twoTo exponent) := by
    by_cases unscaled : exponent = 0
    · exact .inl unscaled
    · right
      subst chosen
      exact le_roundToEven_exponentFor precise unscaled
  generalize roundToEven (numerator * twoTo format.lowest) (denominator * twoTo exponent) = mantissa at *
  split
  · rename_i full
    subst full
    have doubled : twoTo format.precision * twoTo exponent =
        twoTo (format.precision - 1) * twoTo (exponent + 1) := by
      rw [← twoTo_add, ← twoTo_add]
      congr 1
      omega
    rw [ofParts?_eq_some_iff, doubled]
    constructor
    · rintro ⟨sign, mantissa, exponent⟩
      exact ⟨sign, by rw [size, mantissa, exponent]⟩
    · rintro ⟨sign, sized⟩
      exact ⟨sign, parts_of_size halved (.inr (Nat.le_refl _)) sized⟩
  · rename_i notFull
    rw [ofParts?_eq_some_iff]
    constructor
    · rintro ⟨sign, mantissa, exponent⟩
      exact ⟨sign, by rw [size, mantissa, exponent]⟩
    · rintro ⟨sign, sized⟩
      exact ⟨sign, parts_of_size (Nat.lt_of_le_of_ne atMost notFull) normal sized⟩

/-- Larger quotients have no smaller rounded sizes. -/
theorem roundedSize_mono (precise : 0 < format.precision) {otherNumerator otherDenominator : Nat}
    (positive : 0 < denominator) (otherPositive : 0 < otherDenominator)
    (le : numerator * otherDenominator ≤ otherNumerator * denominator) :
    roundedSize format numerator denominator ≤ roundedSize format otherNumerator otherDenominator := by
  have scaledLe : numerator * twoTo format.lowest * otherDenominator ≤
      otherNumerator * twoTo format.lowest * denominator := by
    rw [Nat.mul_right_comm, Nat.mul_right_comm otherNumerator]
    exact Nat.mul_le_mul_right _ le
  have quotientLe : numerator * twoTo format.lowest / denominator ≤
      otherNumerator * twoTo format.lowest / otherDenominator := by
    rw [Nat.le_div_iff_mul_le otherPositive]
    apply Nat.le_of_mul_le_mul_right _ positive
    rw [Nat.mul_right_comm]
    exact (Nat.mul_le_mul_right _ (Nat.div_mul_le_self _ _)).trans scaledLe
  have exponentLe : exponentFor format (numerator * twoTo format.lowest / denominator) ≤
      exponentFor format (otherNumerator * twoTo format.lowest / otherDenominator) :=
    exponentFor_le_iff.2 (quotientLe.trans_lt (exponentFor_le_iff.1 (Nat.le_refl _)))
  simp only [roundedSize]
  rcases Nat.lt_or_eq_of_le exponentLe with less | same
  · -- With a smaller exponent the rounded size ends where the larger exponent begins.
    calc _ ≤ twoTo format.precision *
            twoTo (exponentFor format (numerator * twoTo format.lowest / denominator)) :=
          Nat.mul_le_mul_right _ roundToEven_exponentFor_le
      _ ≤ twoTo (format.precision - 1) *
            twoTo (exponentFor format (otherNumerator * twoTo format.lowest / otherDenominator)) := by
          rw [← twoTo_add, ← twoTo_add]
          exact twoTo_mono (by omega)
      _ ≤ _ := Nat.mul_le_mul_right _ (le_roundToEven_exponentFor precise (by omega))
  · rw [same]
    apply Nat.mul_le_mul_right
    apply roundToEven_mono (Nat.mul_pos positive (twoTo_pos _)) (Nat.mul_pos otherPositive (twoTo_pos _))
    rw [← Nat.mul_assoc, ← Nat.mul_assoc]
    exact Nat.mul_le_mul_right _ scaledLe

/-- Rounding depends on the value of a quotient alone. -/
theorem ofQuotient?_congr (precise : 0 < format.precision) {otherNumerator otherDenominator : Nat}
    (positive : 0 < denominator) (otherPositive : 0 < otherDenominator)
    (same : numerator * otherDenominator = otherNumerator * denominator) :
    ofQuotient? format negative numerator denominator =
      ofQuotient? format negative otherNumerator otherDenominator := by
  have sized : roundedSize format numerator denominator = roundedSize format otherNumerator otherDenominator :=
    Nat.le_antisymm (roundedSize_mono precise positive otherPositive same.le)
      (roundedSize_mono precise otherPositive positive same.ge)
  ext x
  rw [ofQuotient?_eq_some_iff precise, ofQuotient?_eq_some_iff precise, sized]

/-- Rounding fails if it would need a larger exponent than there is. -/
theorem exists_ofQuotient?_iff_exponentFor (precise : 0 < format.precision) :
    (∃ x, ofQuotient? format negative numerator denominator = some x) ↔
      exponentFor format (numerator * twoTo format.lowest / denominator) < format.top ∨
        (exponentFor format (numerator * twoTo format.lowest / denominator) = format.top ∧
          roundToEven (numerator * twoTo format.lowest) (denominator * twoTo format.top) <
            twoTo format.precision) := by
  have halved : twoTo (format.precision - 1) < twoTo format.precision :=
    twoTo_lt_twoTo_iff.2 (by omega)
  simp only [ofQuotient?]
  generalize chosen : exponentFor format (numerator * twoTo format.lowest / denominator) = exponent
  have atMost : roundToEven (numerator * twoTo format.lowest) (denominator * twoTo exponent) ≤
      twoTo format.precision := chosen ▸ roundToEven_exponentFor_le
  split
  · rename_i full
    constructor
    · rintro ⟨x, made⟩
      exact .inl (exponent_le_of_ofParts? made)
    · rintro (less | ⟨rfl, small⟩)
      · exact exists_ofParts? halved less (.inr (Nat.le_refl _))
      · exact absurd full small.ne
  · rename_i notFull
    have small := Nat.lt_of_le_of_ne atMost notFull
    constructor
    · rintro ⟨x, made⟩
      rcases Nat.lt_or_eq_of_le (exponent_le_of_ofParts? made) with less | rfl
      · exact .inl less
      · exact .inr ⟨rfl, small⟩
    · intro within
      have bounded : exponent ≤ format.top := by omega
      apply exists_ofParts? small bounded
      by_cases unscaled : exponent = 0
      · exact .inl unscaled
      · right
        subst chosen
        exact le_roundToEven_exponentFor precise unscaled

/-- A quotient is rounded to some number if and only if it is below the largest one and half of its last place. -/
theorem exists_ofQuotient?_iff (precise : 0 < format.precision) (positive : 0 < denominator) :
    (∃ x, ofQuotient? format negative numerator denominator = some x) ↔
      2 * (numerator * twoTo format.lowest) <
        (2 * twoTo format.precision - 1) * (denominator * twoTo format.top) := by
  have unit : 0 < denominator * twoTo format.top := Nat.mul_pos positive (twoTo_pos _)
  have below : ∀ bound, exponentFor format (numerator * twoTo format.lowest / denominator) ≤ bound ↔
      numerator * twoTo format.lowest < twoTo format.precision * (denominator * twoTo bound) := by
    intro bound
    rw [exponentFor_le_iff, Nat.div_lt_iff_lt_mul positive, twoTo_add, Nat.mul_assoc,
      Nat.mul_comm (twoTo bound)]
  have odd : (twoTo format.precision - 1) % 2 ≠ 0 := by
    have doubled : twoTo format.precision = 2 * twoTo (format.precision - 1) := by
      rw [← twoTo_succ]
      congr 1
      omega
    have := twoTo_pos (format.precision - 1)
    omega
  -- A mantissa that is rounded up to the next power of two does not fit with the largest exponent.
  have fits : roundToEven (numerator * twoTo format.lowest) (denominator * twoTo format.top) <
      twoTo format.precision ↔ 2 * (numerator * twoTo format.lowest) <
        (2 * twoTo format.precision - 1) * (denominator * twoTo format.top) := by
    have full := twoTo_pos format.precision
    rw [Nat.lt_iff_le_pred full, roundToEven_le_iff unit,
      show 2 * (twoTo format.precision - 1) + 1 = 2 * twoTo format.precision - 1 by omega]
    simp only [odd, and_false, or_false]
  have last : (2 * twoTo format.precision - 1) * (denominator * twoTo format.top) <
      2 * (twoTo format.precision * (denominator * twoTo format.top)) := by
    have full := twoTo_pos format.precision
    have less : 2 * twoTo format.precision - 1 < 2 * twoTo format.precision := by omega
    rw [← Nat.mul_assoc 2]
    exact Nat.mul_lt_mul_of_pos_right less unit
  rw [exists_ofQuotient?_iff_exponentFor precise, fits]
  constructor
  · rintro (less | ⟨-, small⟩)
    · have small := (below (format.top - 1)).1 (by omega)
      have doubled : twoTo format.top = 2 * twoTo (format.top - 1) := by
        rw [← twoTo_succ]
        congr 1
        omega
      have atMost : twoTo format.precision ≤ 2 * twoTo format.precision - 1 := by
        have := twoTo_pos format.precision
        omega
      calc _ < 2 * (twoTo format.precision * (denominator * twoTo (format.top - 1))) :=
            Nat.mul_lt_mul_of_pos_left small (by decide)
        _ = twoTo format.precision * (denominator * twoTo format.top) := by
            rw [doubled]
            ring
        _ ≤ _ := Nat.mul_le_mul_right _ atMost
    · exact small
  · intro small
    have bounded := (below format.top).2 (by omega)
    rcases Nat.lt_or_eq_of_le bounded with less | same
    · exact .inl less
    · exact .inr ⟨same, small⟩

section Distance

/-- A rounded quotient is off by half at most, and by exactly half only if it is even. -/
theorem roundToEven_half (numerator : Nat) (positive : 0 < denominator) :
    2 * |(roundToEven numerator denominator * denominator : ℤ) - numerator| ≤ denominator ∧
      (2 * |(roundToEven numerator denominator * denominator : ℤ) - numerator| = denominator →
        roundToEven numerator denominator % 2 = 0) := by
  have above := (roundToEven_le_iff positive).1 (Nat.le_refl (roundToEven numerator denominator))
  generalize rounded : roundToEven numerator denominator = quotient at *
  cases quotient with
  | zero =>
      rw [Nat.cast_zero, zero_mul, zero_sub, abs_neg, abs_of_nonneg (by positivity)]
      constructor
      · omega
      · omega
  | succ smaller =>
      have below : ¬ roundToEven numerator denominator ≤ smaller := by omega
      rw [roundToEven_le_iff positive] at below
      have high : 2 * numerator ≤ (2 * (smaller + 1) + 1) * denominator := by omega
      have low : (2 * smaller + 1) * denominator ≤ 2 * numerator := by omega
      zify at high low
      push_cast
      rcases abs_cases (((smaller : ℤ) + 1) * denominator - numerator) with ⟨size, -⟩ | ⟨size, -⟩
      · rw [size]
        refine ⟨by linarith, ?_⟩
        intro half
        have halfway : 2 * numerator = (2 * smaller + 1) * denominator := by
          zify
          linarith
        by_contra odd
        exact below (.inr ⟨halfway, by omega⟩)
      · rw [size]
        refine ⟨by linarith, ?_⟩
        intro half
        have halfway : 2 * numerator = (2 * (smaller + 1) + 1) * denominator := by
          zify
          linarith
        omega

/-- A rounded quotient is no further away than any other natural number. If another one is as near, the rounded
quotient is even. -/
theorem roundToEven_nearest (numerator : Nat) (positive : 0 < denominator) (other : Nat) :
    |(roundToEven numerator denominator * denominator : ℤ) - numerator| ≤
        |(other * denominator : ℤ) - numerator| ∧
      (|(other * denominator : ℤ) - numerator| =
          |(roundToEven numerator denominator * denominator : ℤ) - numerator| →
        other ≠ roundToEven numerator denominator → roundToEven numerator denominator % 2 = 0) := by
  obtain ⟨near, even⟩ := roundToEven_half numerator positive
  generalize roundToEven numerator denominator = quotient at *
  by_cases same : other = quotient
  · subst same
    exact ⟨le_refl _, fun _ different => absurd rfl different⟩
  · have apart : (denominator : ℤ) ≤ |(other * denominator : ℤ) - quotient * denominator| := by
      rw [← sub_mul, abs_mul, Nat.abs_cast]
      have one : 1 ≤ |(other : ℤ) - quotient| := Int.one_le_abs (by omega)
      nlinarith
    have between := abs_sub_le (other * denominator : ℤ) numerator (quotient * denominator)
    rw [abs_sub_comm (numerator : ℤ)] at between
    constructor
    · linarith
    · intro equal _
      apply even
      linarith

/-- Every number of the format lies on the grid of a size, or below all of the grid that matters for it. -/
theorem exists_multiple_or_lt (precise : 0 < format.precision) (positive : 0 < denominator) (size : Nat)
    (y : Binary format) :
    (∃ count, y.size = count * twoTo (exponentFor format (size / denominator))) ∨
      (y.size < twoTo (format.precision - 1) * twoTo (exponentFor format (size / denominator)) ∧
        twoTo (format.precision - 1) * twoTo (exponentFor format (size / denominator)) * denominator ≤ size) := by
  generalize chosen : exponentFor format (size / denominator) = exponent
  rcases Nat.lt_or_ge y.exponent exponent with less | atLeast
  · right
    have before : twoTo format.precision * twoTo (exponent - 1) =
        twoTo (format.precision - 1) * twoTo exponent := by
      rw [← twoTo_add, ← twoTo_add]
      congr 1
      omega
    constructor
    · rw [← before]
      exact (Nat.mul_lt_mul_of_pos_right y.mantissa_lt (twoTo_pos _)).trans_le
        (Nat.mul_le_mul_left _ (twoTo_mono (by omega)))
    · have large : ¬ exponentFor format (size / denominator) ≤ exponent - 1 := by omega
      rw [exponentFor_le_iff, twoTo_add, before, Nat.not_lt, Nat.le_div_iff_mul_le positive] at large
      exact large
  · left
    refine ⟨y.mantissa * twoTo (y.exponent - exponent), ?_⟩
    rw [Nat.mul_assoc, ← twoTo_add, Nat.sub_add_cancel atLeast]
    rfl

/-- No number is nearer to a quotient than the one to which it is rounded. If another one is as near, the one to
which it is rounded has an even mantissa. -/
theorem size_nearest (precise : 1 < format.precision) (positive : 0 < denominator) {x : Binary format}
    (rounded : ofQuotient? format negative numerator denominator = some x) (y : Binary format) :
    |(x.size * denominator : ℤ) - (numerator * twoTo format.lowest : Nat)| ≤
        |(y.size * denominator : ℤ) - (numerator * twoTo format.lowest : Nat)| ∧
      (|(y.size * denominator : ℤ) - (numerator * twoTo format.lowest : Nat)| =
          |(x.size * denominator : ℤ) - (numerator * twoTo format.lowest : Nat)| →
        y.size ≠ x.size → x.mantissa % 2 = 0) := by
  obtain ⟨-, sized⟩ := (ofQuotient?_eq_some_iff (by omega)).1 rounded
  have grid := exists_multiple_or_lt (by omega) positive (numerator * twoTo format.lowest) y
  have normal : exponentFor format (numerator * twoTo format.lowest / denominator) ≠ 0 → _ :=
    le_roundToEven_exponentFor (by omega)
  have atMost : roundToEven (numerator * twoTo format.lowest)
      (denominator * twoTo (exponentFor format (numerator * twoTo format.lowest / denominator))) ≤ _ :=
    roundToEven_exponentFor_le
  simp only [roundedSize] at sized
  generalize exponentFor format (numerator * twoTo format.lowest / denominator) = exponent at *
  have unit : 0 < denominator * twoTo exponent := Nat.mul_pos positive (twoTo_pos _)
  have near := roundToEven_nearest (numerator * twoTo format.lowest) unit
  generalize roundToEven (numerator * twoTo format.lowest) (denominator * twoTo exponent) = mantissa at *
  generalize numerator * twoTo format.lowest = scaled at *
  have even : mantissa % 2 = 0 → x.mantissa % 2 = 0 := by
    intro even
    rcases Nat.lt_or_eq_of_le atMost with below | full
    · have parts := parts_of_size below (by tauto) sized
      rw [parts.1]
      exact even
    · have doubled : x.size = twoTo (format.precision - 1) * twoTo (exponent + 1) := by
        rw [sized, full, ← twoTo_add, ← twoTo_add]
        congr 1
        omega
      have parts := parts_of_size (twoTo_lt_twoTo_iff.2 (by omega)) (.inr (Nat.le_refl _)) doubled
      rw [parts.1, show format.precision - 1 = format.precision - 2 + 1 by omega, twoTo_succ]
      exact Nat.mul_mod_right 2 _
  have placed : ∀ count : Nat, ((count * twoTo exponent : Nat) * denominator : ℤ) =
      count * (denominator * twoTo exponent : Nat) := by
    intro count
    push_cast
    ring
  rw [sized]
  rcases grid with ⟨count, same⟩ | ⟨less, large⟩
  · rw [same, placed, placed]
    refine ⟨(near count).1, ?_⟩
    intro equal different
    apply even
    apply (near count).2 equal
    rintro rfl
    exact different rfl
  · -- The number lies below the grid, whose first point is nearer.
    have first := (near (twoTo (format.precision - 1))).1
    rw [← placed, ← placed] at first
    have nearer : |((twoTo (format.precision - 1) * twoTo exponent : Nat) * denominator : ℤ) - scaled| <
        |(y.size * denominator : ℤ) - scaled| := by
      have lower : y.size * denominator <
          twoTo (format.precision - 1) * twoTo exponent * denominator :=
        Nat.mul_lt_mul_of_pos_right less positive
      zify at lower large
      push_cast
      rw [abs_of_nonpos (by linarith), abs_of_nonpos (by linarith)]
      linarith
    exact ⟨(first.trans_lt nearer).le, fun equal => absurd equal (first.trans_lt nearer).ne'⟩

end Distance

end FormRules.Binary
