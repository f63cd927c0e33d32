import DataSuite.Proofs.Decimal.Neighbourhood

/-!
# Rounding to the nearest double

The magnitude nearest to a quotient has the quotient in its neighbourhood, so that rounding finds
the double that is nearest, with ties to even.  All doubles nearest to a number denote the same.
Integers with 64 bits are never rounded to infinity, and those up to 2 ^ 53 are doubles.
-/

namespace DataSuite
namespace Decimal

/-! ## Quotients and units -/

/-- A rounded quotient is at most half a unit away, and an odd one less than that. -/
theorem roundedQuotient_bounds
    (numerator : Nat)
    {denominator : Nat}
    (positive : 0 < denominator) :
    let rounded := Binary64.roundedQuotient numerator denominator
    2 * (rounded * denominator) ≤ 2 * numerator + denominator ∧
      2 * numerator ≤ 2 * (rounded * denominator) + denominator ∧
      (rounded % 2 = 1 →
        2 * (rounded * denominator) < 2 * numerator + denominator ∧
          2 * numerator < 2 * (rounded * denominator) + denominator) := by
  have parts := Nat.div_add_mod' numerator denominator
  have rest := Nat.mod_lt numerator positive
  simp only [Binary64.roundedQuotient, Bool.or_eq_true, Bool.and_eq_true, decide_eq_true_eq,
    beq_iff_eq]
  generalize numerator / denominator = quotient at parts
  generalize numerator % denominator = remainder at parts rest
  split
  · rw [Nat.add_mul]
    generalize quotient * denominator = product at parts
    omega
  · generalize quotient * denominator = product at parts
    omega

/-- The magnitude with an exponent and the digits behind it has these digits as its units, moved by
the exponent.  Digits that fill another place are counted in the exponent. -/
theorem units_eq
    {exponent digits : Nat}
    (normal : exponent = 0 ∨ 2 ^ 52 ≤ digits)
    (short : digits ≤ 2 ^ 53) :
    Binary64.units (exponent * 2 ^ 52 + digits) = digits * 2 ^ exponent := by
  simp only [Binary64.units, Nat.pow_eq]
  rcases Nat.lt_or_ge digits (2 ^ 52) with subnormal | filled
  · obtain rfl : exponent = 0 := by omega
    have quotient : (0 * 2 ^ 52 + digits) / 2 ^ 52 = 0 := by omega
    have remainder : (0 * 2 ^ 52 + digits) % 2 ^ 52 = digits := by omega
    rw [quotient, remainder, if_pos rfl, Nat.pow_zero, Nat.mul_one]
  · rcases Nat.lt_or_ge digits (2 ^ 53) with room | full
    · have quotient : (exponent * 2 ^ 52 + digits) / 2 ^ 52 = exponent + 1 := by omega
      have remainder : (exponent * 2 ^ 52 + digits) % 2 ^ 52 = digits - 2 ^ 52 := by omega
      rw [quotient, remainder, if_neg (Nat.succ_ne_zero exponent), Nat.add_sub_cancel,
        Nat.add_sub_cancel' filled]
    · obtain rfl : digits = 2 ^ 53 := by omega
      have quotient : (exponent * 2 ^ 52 + 2 ^ 53) / 2 ^ 52 = exponent + 2 := by omega
      have remainder : (exponent * 2 ^ 52 + 2 ^ 53) % 2 ^ 52 = 0 := by omega
      rw [quotient, remainder, if_neg (Nat.succ_ne_zero _)]
      have power : exponent + 2 - 1 = exponent + 1 := by omega
      rw [power]
      ring

/-! ## The nearest magnitude -/

/-- How many bits of a quotient, in units, are cut away. -/
def excessBits (numerator denominator : Nat) : Nat :=
  Nat.log2 (numerator * Binary64.unitsInOne / denominator) - 52

/-- The digits of a quotient that are left, rounded. -/
def roundedDigits (numerator denominator : Nat) : Nat :=
  Binary64.roundedQuotient (numerator * Binary64.unitsInOne)
    (denominator * 2 ^ excessBits numerator denominator)

theorem nearest_eq (numerator denominator : Nat) :
    Binary64.nearest numerator denominator =
      min Binary64.infinity
        (excessBits numerator denominator * 2 ^ 52 + roundedDigits numerator denominator) := rfl

/-- Where bits are cut away, the digits fill 52 places before they are rounded. -/
theorem le_of_excessBits_pos
    {numerator denominator : Nat}
    (positive : 0 < denominator)
    (cut : excessBits numerator denominator ≠ 0) :
    2 ^ 52 * (denominator * 2 ^ excessBits numerator denominator) ≤
      numerator * Binary64.unitsInOne := by
  unfold excessBits at cut ⊢
  generalize numerator * Binary64.unitsInOne = inUnits at cut ⊢
  have nonzero : inUnits / denominator ≠ 0 := by
    intro zero
    rw [zero] at cut
    exact cut rfl
  have filled := Nat.log2_self_le nonzero
  have split : 2 ^ Nat.log2 (inUnits / denominator) =
      2 ^ 52 * 2 ^ (Nat.log2 (inUnits / denominator) - 52) := by
    rw [← Nat.pow_add]
    congr 1
    omega
  rw [split, Nat.le_div_iff_mul_le positive] at filled
  calc
    _ = 2 ^ 52 * 2 ^ (Nat.log2 (inUnits / denominator) - 52) * denominator := by ring
    _ ≤ inUnits := filled

/-- The digits fill 53 places at most before they are rounded. -/
theorem lt_of_excessBits
    (numerator : Nat)
    {denominator : Nat}
    (positive : 0 < denominator) :
    numerator * Binary64.unitsInOne <
      2 ^ 53 * (denominator * 2 ^ excessBits numerator denominator) := by
  unfold excessBits
  generalize numerator * Binary64.unitsInOne = inUnits
  have short : inUnits / denominator < 2 ^ 53 * 2 ^ (Nat.log2 (inUnits / denominator) - 52) := by
    rw [← Nat.pow_add]
    calc
      inUnits / denominator < 2 ^ (Nat.log2 (inUnits / denominator) + 1) := Nat.lt_log2_self
      _ ≤ _ := Nat.pow_le_pow_right (by decide) (by omega)
  rw [Nat.div_lt_iff_lt_mul positive] at short
  calc
    inUnits < _ := short
    _ = _ := by ring

theorem scaled_pos
    {denominator : Nat}
    (positive : 0 < denominator)
    (bits : Nat) :
    0 < denominator * 2 ^ bits :=
  Nat.mul_pos positive (Nat.two_pow_pos bits)

theorem roundedDigits_le
    (numerator : Nat)
    {denominator : Nat}
    (positive : 0 < denominator) :
    roundedDigits numerator denominator ≤ 2 ^ 53 := by
  have scaled := scaled_pos positive (excessBits numerator denominator)
  have bounds := (roundedQuotient_bounds (numerator * Binary64.unitsInOne) scaled).1
  have short := lt_of_excessBits numerator positive
  change 2 * (roundedDigits numerator denominator * _) ≤ _ at bounds
  by_contra long
  have above := Nat.mul_le_mul_right (denominator * 2 ^ excessBits numerator denominator)
    (Nat.not_le.mp long)
  rw [Nat.succ_mul] at above
  omega

theorem le_roundedDigits
    {numerator denominator : Nat}
    (positive : 0 < denominator)
    (cut : excessBits numerator denominator ≠ 0) :
    2 ^ 52 ≤ roundedDigits numerator denominator := by
  have scaled := scaled_pos positive (excessBits numerator denominator)
  have bounds := (roundedQuotient_bounds (numerator * Binary64.unitsInOne) scaled).2.1
  have filled := le_of_excessBits_pos positive cut
  change _ ≤ 2 * (roundedDigits numerator denominator * _) + _ at bounds
  by_contra short
  have below := Nat.mul_le_mul_right (denominator * 2 ^ excessBits numerator denominator)
    (Nat.not_le.mp short)
  rw [Nat.succ_mul] at below
  omega

/-- The units of the magnitude nearest to a quotient. -/
theorem units_nearest
    {numerator denominator : Nat}
    (positive : 0 < denominator)
    (finite : Binary64.nearest numerator denominator < Binary64.infinity) :
    Binary64.units (Binary64.nearest numerator denominator) =
      roundedDigits numerator denominator * 2 ^ excessBits numerator denominator := by
  rw [nearest_eq] at finite ⊢
  rw [Nat.min_eq_right (by omega)]
  apply units_eq
  · by_cases cut : excessBits numerator denominator = 0
    · exact .inl cut
    · exact .inr (le_roundedDigits positive cut)
  · exact roundedDigits_le numerator positive

/-- The magnitude nearest to a quotient with its digits, unless it is infinite. -/
theorem nearest_eq_of_finite
    {numerator denominator : Nat}
    (finite : Binary64.nearest numerator denominator < Binary64.infinity) :
    Binary64.nearest numerator denominator =
      excessBits numerator denominator * 2 ^ 52 + roundedDigits numerator denominator := by
  rw [nearest_eq] at finite ⊢
  omega

/-- The spacing at a magnitude is not below the weight of its last digit. -/
theorem le_spacing
    {exponent digits : Nat}
    (normal : exponent = 0 ∨ 2 ^ 52 ≤ digits) :
    2 ^ exponent ≤ spacing (exponent * 2 ^ 52 + digits) := by
  apply Nat.pow_le_pow_right (by decide)
  omega

/-- The neighbourhood of the magnitude nearest to a quotient ends half a digit above the rounded
digits, or later. -/
theorem digits_le_greatest
    {numerator denominator : Nat}
    (positive : 0 < denominator)
    (finite : Binary64.nearest numerator denominator < Binary64.infinity) :
    let weight := denominator * 2 ^ excessBits numerator denominator
    4 * (roundedDigits numerator denominator * weight) + 2 * weight ≤
      (neighbourhood (Binary64.nearest numerator denominator)).greatest * denominator := by
  intro weight
  have normal : excessBits numerator denominator = 0 ∨
      2 ^ 52 ≤ roundedDigits numerator denominator :=
    or_iff_not_imp_left.mpr (le_roundedDigits positive)
  have wide := Nat.mul_le_mul_right denominator (le_spacing normal)
  rw [← nearest_eq_of_finite finite] at wide
  rw [neighbourhood_greatest, units_succ, units_nearest positive finite]
  have weighed : 2 ^ excessBits numerator denominator * denominator = weight := Nat.mul_comm _ _
  calc
    4 * (roundedDigits numerator denominator * weight) + 2 * weight
        = 4 * (roundedDigits numerator denominator * weight) +
            2 * (2 ^ excessBits numerator denominator * denominator) := by rw [weighed]
    _ ≤ 4 * (roundedDigits numerator denominator * weight) +
            2 * (spacing (Binary64.nearest numerator denominator) * denominator) :=
      Nat.add_le_add_left (Nat.mul_le_mul_left 2 wide) _
    _ = _ := by
      rw [← weighed]
      ring

/-- The neighbourhood of the magnitude nearest to a quotient begins half a digit below the rounded
digits, or earlier, unless the quotient has been rounded up to the least digits with its
exponent. -/
theorem least_le_digits
    {numerator denominator : Nat}
    (positive : 0 < denominator)
    (finite : Binary64.nearest numerator denominator < Binary64.infinity)
    (nonzero : Binary64.nearest numerator denominator ≠ 0) :
    let weight := denominator * 2 ^ excessBits numerator denominator
    let least := (neighbourhood (Binary64.nearest numerator denominator)).least
    least * denominator + 2 * weight ≤ 4 * (roundedDigits numerator denominator * weight) ∨
      roundedDigits numerator denominator = 2 ^ 52 ∧
        roundedDigits numerator denominator * weight ≤ numerator * Binary64.unitsInOne ∧
          least * denominator ≤ 4 * (roundedDigits numerator denominator * weight) := by
  intro weight least
  have magnitude := nearest_eq_of_finite finite
  obtain ⟨before, next⟩ := Nat.exists_eq_add_one_of_ne_zero nonzero
  have gap : least + 2 * spacing before =
      4 * (roundedDigits numerator denominator * 2 ^ excessBits numerator denominator) := by
    have units := units_nearest positive finite
    have rise := units_succ before
    have meet := neighbourhood_least_succ before
    rw [neighbourhood_greatest] at meet
    rw [next] at units
    have same : least = 2 * (Binary64.units before + Binary64.units (before + 1)) := by
      rw [← meet, ← next]
    rw [← units]
    omega
  have weighed : least * denominator + 2 * (spacing before * denominator) =
      4 * (roundedDigits numerator denominator * weight) := by
    calc
      _ = (least + 2 * spacing before) * denominator := by ring
      _ = 4 * (roundedDigits numerator denominator * 2 ^ excessBits numerator denominator) *
            denominator := by rw [gap]
      _ = _ := by ring
  by_cases inner : excessBits numerator denominator = 0 ∨
      2 ^ 52 < roundedDigits numerator denominator
  · left
    have wide : 2 ^ excessBits numerator denominator ≤ spacing before := by
      have same : before = excessBits numerator denominator * 2 ^ 52 +
          (roundedDigits numerator denominator - 1) := by
        omega
      rw [same]
      exact le_spacing (inner.imp_right Nat.le_sub_one_of_lt)
    have wider : weight ≤ spacing before * denominator := by
      rw [Nat.mul_comm (spacing before)]
      exact Nat.mul_le_mul_left denominator wide
    omega
  · right
    obtain ⟨cut, notAbove⟩ := not_or.mp inner
    have digits : roundedDigits numerator denominator = 2 ^ 52 :=
      Nat.le_antisymm (Nat.not_lt.mp notAbove) (le_roundedDigits positive cut)
    refine ⟨digits, ?_, by omega⟩
    rw [digits]
    exact le_of_excessBits_pos positive cut

/-! ## Numbers around a magnitude -/

/-- The magnitude nearest to a quotient is even if its digits are. -/
theorem nearest_mod_two
    {numerator denominator : Nat}
    (finite : Binary64.nearest numerator denominator < Binary64.infinity) :
    Binary64.nearest numerator denominator % 2 = roundedDigits numerator denominator % 2 := by
  rw [nearest_eq_of_finite finite]
  omega

/-- A quotient is not above the neighbourhood of the magnitude nearest to it, and below its end if
the magnitude is odd. -/
theorem nearest_le_greatest
    {numerator denominator : Nat}
    (positive : 0 < denominator)
    (finite : Binary64.nearest numerator denominator < Binary64.infinity) :
    let greatest := (neighbourhood (Binary64.nearest numerator denominator)).greatest
    4 * (numerator * Binary64.unitsInOne) ≤ greatest * denominator ∧
      (Binary64.nearest numerator denominator % 2 = 1 →
        4 * (numerator * Binary64.unitsInOne) < greatest * denominator) := by
  have bounds := roundedQuotient_bounds (numerator * Binary64.unitsInOne)
    (scaled_pos positive (excessBits numerator denominator))
  have digits := digits_le_greatest positive finite
  rw [nearest_mod_two finite]
  simp only [← roundedDigits.eq_1] at bounds digits ⊢
  constructor
  · omega
  · intro odd
    have strict := bounds.2.2 odd
    omega

/-- A quotient is not below the neighbourhood of the magnitude nearest to it, and above its end if
the magnitude is odd. -/
theorem least_le_nearest
    {numerator denominator : Nat}
    (positive : 0 < denominator)
    (finite : Binary64.nearest numerator denominator < Binary64.infinity) :
    let least := (neighbourhood (Binary64.nearest numerator denominator)).least
    least * denominator ≤ 4 * (numerator * Binary64.unitsInOne) ∧
      (Binary64.nearest numerator denominator % 2 = 1 →
        least * denominator < 4 * (numerator * Binary64.unitsInOne)) := by
  by_cases zero : Binary64.nearest numerator denominator = 0
  · have start : (neighbourhood 0).least = 0 := by decide
    rw [zero, start]
    omega
  · have bounds := roundedQuotient_bounds (numerator * Binary64.unitsInOne)
      (scaled_pos positive (excessBits numerator denominator))
    have digits := least_le_digits positive finite zero
    rw [nearest_mod_two finite]
    simp only [← roundedDigits.eq_1] at bounds digits ⊢
    constructor
    · omega
    · intro odd
      have strict := bounds.2.2 odd
      omega

/-- The magnitude nearest to a quotient has the quotient in its neighbourhood. -/
theorem contains_nearest
    {numerator denominator : Nat}
    (positive : 0 < denominator)
    (finite : Binary64.nearest numerator denominator < Binary64.infinity) :
    (neighbourhood (Binary64.nearest numerator denominator)).contains
      (4 * (numerator * Binary64.unitsInOne)) denominator = true := by
  obtain ⟨below, strictlyBelow⟩ := least_le_nearest positive finite
  obtain ⟨above, strictlyAbove⟩ := nearest_le_greatest positive finite
  unfold Neighbourhood.contains
  rw [neighbourhood_closed]
  split
  · simp [below, above]
  · rename_i isOpen
    have odd : Binary64.nearest numerator denominator % 2 = 1 := by
      simpa using isOpen
    simp [strictlyBelow odd, strictlyAbove odd]

theorem holds_quotient_iff
    (around : Neighbourhood)
    (numerator : Nat)
    {denominator : Nat}
    (positive : 0 < denominator) :
    around.Holds ((numerator : ℚ) / denominator * quartersInOne) ↔
      around.contains (4 * (numerator * Binary64.unitsInOne)) denominator = true := by
  have quarters : (numerator : ℚ) / denominator * quartersInOne =
      (4 * (numerator * Binary64.unitsInOne) : Nat) / denominator := by
    unfold quartersInOne
    generalize Binary64.unitsInOne = unitsInOne
    push_cast
    ring
  rw [around.contains_iff _ positive, quarters]

/-! ## Magnitudes that are numbers -/

theorem unitsInOne_eq
    {zeros : Nat}
    (all : zeros = 1074) :
    Binary64.unitsInOne = 2 ^ zeros := by
  unfold Binary64.unitsInOne
  rw [← all]
  rfl

theorem unitsInOne_pos : 0 < Binary64.unitsInOne := by
  obtain ⟨zeros, all⟩ : ∃ zeros, zeros = 1074 := ⟨_, rfl⟩
  rw [unitsInOne_eq all]
  exact Nat.two_pow_pos zeros

/-- A neighbourhood begins below its centre, except that of zero. -/
theorem least_lt_units
    {magnitude : Nat}
    (nonzero : magnitude ≠ 0) :
    (neighbourhood magnitude).least < 4 * Binary64.units magnitude := by
  obtain ⟨before, rfl⟩ := Nat.exists_eq_add_one_of_ne_zero nonzero
  have spaced := spacing_pos before
  rw [neighbourhood_least_succ, neighbourhood_greatest, units_succ]
  omega

theorem units_lt_greatest (magnitude : Nat) :
    4 * Binary64.units magnitude < (neighbourhood magnitude).greatest := by
  have spaced := spacing_pos magnitude
  rw [neighbourhood_greatest, units_succ]
  omega

/-- Every magnitude lies in its own neighbourhood. -/
theorem holds_units (magnitude : Nat) :
    (neighbourhood magnitude).Holds
      ((Binary64.units magnitude : ℚ) / Binary64.unitsInOne * quartersInOne) := by
  rw [holds_quotient_iff _ _ unitsInOne_pos]
  have above := Nat.mul_lt_mul_of_pos_right (units_lt_greatest magnitude) unitsInOne_pos
  unfold Neighbourhood.contains
  rw [neighbourhood_closed, ← Nat.mul_assoc]
  by_cases zero : magnitude = 0
  · subst zero
    have start : (neighbourhood 0).least = 0 := by decide
    simpa [start] using above.le
  · have below := Nat.mul_lt_mul_of_pos_right (least_lt_units zero) unitsInOne_pos
    split
    · simp [below.le, above.le]
    · simp [below, above]

/-! ## Integers -/

/-- Of an integer not more bits are cut away than it has beyond 52. -/
theorem excessBits_le
    {number bits : Nat}
    (bound : number ≤ 2 ^ bits) :
    excessBits number 1 ≤ bits + 1022 := by
  obtain ⟨zeros, all⟩ : ∃ zeros, zeros = 1074 := ⟨_, rfl⟩
  unfold excessBits
  rw [unitsInOne_eq all, Nat.div_one]
  by_cases zero : number * 2 ^ zeros = 0
  · rw [zero]
    exact Nat.zero_le _
  · have length : Nat.log2 (number * 2 ^ zeros) < bits + zeros + 1 := by
      rw [Nat.log2_lt zero]
      calc
        number * 2 ^ zeros ≤ 2 ^ bits * 2 ^ zeros := Nat.mul_le_mul_right _ bound
        _ = 2 ^ (bits + zeros) := (Nat.pow_add _ _ _).symm
        _ < 2 ^ (bits + zeros + 1) := Nat.pow_lt_pow_right (by decide) (Nat.lt_succ_self _)
    omega

/-- No integer with 64 bits is rounded to infinity. -/
theorem nearest_lt_infinity
    {number : Nat}
    (bound : number ≤ 2 ^ 64) :
    Binary64.nearest number 1 < Binary64.infinity := by
  have cut := excessBits_le bound
  have digits := roundedDigits_le number Nat.one_pos
  rw [nearest_eq]
  simp only [Binary64.infinity, Nat.pow_eq]
  omega

/-- What is cut away of an integer up to 2 ^ 53 is zero. -/
theorem dvd_of_le
    {number : Nat}
    (bound : number ≤ 2 ^ 53) :
    2 ^ excessBits number 1 ∣ number * Binary64.unitsInOne := by
  have cut := excessBits_le bound
  have filled := @le_of_excessBits_pos number 1 Nat.one_pos
  obtain ⟨zeros, all⟩ : ∃ zeros, zeros = 1074 := ⟨_, rfl⟩
  rw [unitsInOne_eq all] at filled ⊢
  by_cases inside : excessBits number 1 ≤ zeros
  · exact Dvd.dvd.mul_left (Nat.pow_dvd_pow 2 inside) number
  · -- Only the greatest of these integers has another bit, and all its bits but one are zero.
    have last : excessBits number 1 = zeros + 1 := by omega
    have double : 2 ^ (zeros + 1) = 2 * 2 ^ zeros := by ring
    have above := filled (by omega)
    rw [last, double, Nat.one_mul, ← Nat.mul_assoc] at above
    have least := Nat.le_of_mul_le_mul_right above (Nat.two_pow_pos zeros)
    have same : number = 2 ^ 52 * 2 := by omega
    rw [last, double, same, Nat.mul_assoc]
    exact Nat.dvd_mul_left _ _

theorem roundedQuotient_mul_of_dvd
    {numerator denominator : Nat}
    (positive : 0 < denominator)
    (divides : denominator ∣ numerator) :
    Binary64.roundedQuotient numerator denominator * denominator = numerator := by
  have notUp : Binary64.roundedQuotient numerator denominator = numerator / denominator := by
    simp [Binary64.roundedQuotient, Nat.mod_eq_zero_of_dvd divides, positive.ne]
  rw [notUp, Nat.div_mul_cancel divides]

/-- The units of an integer up to 2 ^ 53. -/
theorem units_nearest_integer
    {number : Nat}
    (bound : number ≤ 2 ^ 53) :
    Binary64.units (Binary64.nearest number 1) = number * Binary64.unitsInOne := by
  have finite := nearest_lt_infinity (bound.trans (by decide))
  rw [units_nearest Nat.one_pos finite, roundedDigits, Nat.one_mul]
  exact roundedQuotient_mul_of_dvd (Nat.two_pow_pos _) (dvd_of_le bound)

end Decimal

/-! ## Doubles as rational numbers -/

namespace Binary64

open Decimal (neighbourhood quartersInOne)

/-- A number with the sign of a double. -/
def signed (double : Binary64) (size : ℚ) : ℚ :=
  if double.negative then -size else size

theorem signed_signed (double : Binary64) (size : ℚ) :
    double.signed (double.signed size) = size := by
  unfold signed
  split <;> simp

/-- The number that a magnitude denotes. -/
def size (magnitude : Nat) : ℚ :=
  units magnitude / unitsInOne

theorem size_injective : Function.Injective size := by
  intro left right same
  have one : (unitsInOne : ℚ) ≠ 0 := by exact_mod_cast Decimal.unitsInOne_pos.ne'
  rw [size, size, div_left_inj' one] at same
  exact Decimal.units_strictMono.injective (by exact_mod_cast same)

theorem size_zero : size 0 = 0 := by
  have noUnits : units 0 = 0 := by decide
  rw [size, noUnits, Nat.cast_zero, zero_div]

theorem size_nonneg (magnitude : Nat) : 0 ≤ size magnitude := by
  unfold size
  positivity

/-- Two sizes of opposite signs are equal only if both are zero. -/
theorem size_eq_neg_size_iff {left right : Nat} :
    size left = -size right ↔ left = 0 ∧ right = 0 := by
  constructor
  · intro opposite
    have leftSize := size_nonneg left
    have rightSize := size_nonneg right
    constructor
    · apply size_injective
      rw [size_zero]
      linarith
    · apply size_injective
      rw [size_zero]
      linarith
  · rintro ⟨rfl, rfl⟩
    rw [size_zero, neg_zero]

/-- The number that a finite double denotes. -/
def value (double : Binary64) : ℚ :=
  double.signed (size double.magnitude)

/-- Whether a double is the one nearest to a number, and of two that are equally near the even
one. -/
structure IsNearest (double : Binary64) (number : ℚ) : Prop where
  finite : double.isFinite = true
  /-- The number lies in the neighbourhood of the double. -/
  holds : (neighbourhood double.magnitude).Holds (double.signed number * quartersInOne)

/-- A finite double is nearest to the number that it denotes. -/
theorem isNearest_value
    {double : Binary64}
    (finite : double.isFinite = true) :
    double.IsNearest double.value := by
  refine ⟨finite, ?_⟩
  rw [value, signed_signed]
  exact Decimal.holds_units double.magnitude

/-- Finite doubles are equal if and only if they denote the same number. -/
theorem equal_iff_value_eq
    {left right : Binary64}
    (leftFinite : left.isFinite = true)
    (rightFinite : right.isFinite = true) :
    left.equal right = true ↔ left.value = right.value := by
  obtain ⟨leftSign, left, _⟩ := left
  obtain ⟨rightSign, right, _⟩ := right
  simp only [isFinite, decide_eq_true_eq] at leftFinite rightFinite
  simp only [equal, isUndefined, Nat.not_lt.mpr leftFinite.le, Nat.not_lt.mpr rightFinite.le,
    decide_false, Bool.not_false, Bool.true_and, Bool.or_eq_true, Bool.and_eq_true, beq_iff_eq,
    mk.injEq, value, signed]
  cases leftSign <;> cases rightSign <;>
    simp only [if_true, if_false, Bool.false_eq_true, reduceCtorEq, true_and, false_and, false_or,
      neg_inj, size_injective.eq_iff, size_eq_neg_size_iff]
  · omega
  · rw [neg_eq_iff_eq_neg, size_eq_neg_size_iff]
  · omega

/-- A number is not negative, with the sign of the double that is nearest to it. -/
theorem IsNearest.signed_nonneg
    {double : Binary64}
    {number : ℚ}
    (nearest : double.IsNearest number) :
    0 ≤ double.signed number := by
  have quarters : (0 : ℚ) < quartersInOne := by
    exact_mod_cast Nat.mul_pos (by decide) Decimal.unitsInOne_pos
  have least : (0 : ℚ) ≤ (neighbourhood double.magnitude).least := Nat.cast_nonneg _
  exact nonneg_of_mul_nonneg_left (least.trans nearest.holds.bounds.1) quarters

/-- All doubles nearest to a number denote the same. -/
theorem IsNearest.value_eq
    {left right : Binary64}
    {number : ℚ}
    (leftNearest : left.IsNearest number)
    (rightNearest : right.IsNearest number) :
    left.value = right.value := by
  by_cases sameSign : left.negative = right.negative
  · have sameSigned (size : ℚ) : left.signed size = right.signed size := by
      rw [signed, signed, sameSign]
    have sameMagnitude : left.magnitude = right.magnitude :=
      Decimal.holds_unique (sameSigned number ▸ leftNearest.holds) rightNearest.holds
    rw [value, value, sameMagnitude, sameSigned]
  · -- A number that two doubles of opposite signs are nearest to is zero.
    have zero : number = 0 := by
      have leftSize := leftNearest.signed_nonneg
      have rightSize := rightNearest.signed_nonneg
      unfold signed at leftSize rightSize
      cases leftSign : left.negative <;> cases rightSign : right.negative <;>
        simp [leftSign, rightSign] at sameSign leftSize rightSize <;> linarith
    have vanishes {double : Binary64} (nearest : double.IsNearest number) : double.value = 0 := by
      have inside := nearest.holds
      have atZero := Decimal.holds_units 0
      rw [← size, size_zero] at atZero
      have signless : double.signed number = 0 := by simp [signed, zero]
      rw [signless] at inside
      simp [value, signed, Decimal.holds_unique inside atZero, size_zero]
    rw [vanishes leftNearest, vanishes rightNearest]

theorem magnitude_ofInt
    {number : Int}
    (finite : nearest number.natAbs 1 < infinity) :
    (ofInt number).magnitude = nearest number.natAbs 1 := by
  apply Nat.mod_eq_of_lt
  exact finite.trans (by decide)

/-- The sign of an integer is kept. -/
theorem signed_ofInt (number : Int) : (ofInt number).signed number = (number.natAbs : ℚ) := by
  simp only [signed, ofInt, negative_ofMagnitude, decide_eq_true_eq, Nat.cast_natAbs, Int.cast_abs]
  split
  · rename_i negative
    rw [abs_of_neg (by exact_mod_cast negative)]
  · rename_i positive
    rw [abs_of_nonneg (by exact_mod_cast Int.not_lt.mp positive)]

/-- An integer that is not too great is rounded to the double nearest to it. -/
theorem isNearest_ofInt
    {number : Int}
    (finite : nearest number.natAbs 1 < infinity) :
    (ofInt number).IsNearest number := by
  have magnitude := magnitude_ofInt finite
  refine ⟨by simpa [isFinite, magnitude] using finite, ?_⟩
  have size : (number.natAbs : ℚ) = (number.natAbs : ℚ) / (1 : ℕ) := by simp
  rw [signed_ofInt, size, magnitude, Decimal.holds_quotient_iff _ _ Nat.one_pos]
  exact Decimal.contains_nearest Nat.one_pos finite

/-- An integer up to 2 ^ 53 is a double. -/
theorem value_ofInt
    {number : Int}
    (bound : number.natAbs ≤ 2 ^ 53) :
    (ofInt number).value = number := by
  have finite := Decimal.nearest_lt_infinity (bound.trans (by decide))
  have one : (unitsInOne : ℚ) ≠ 0 := by exact_mod_cast Decimal.unitsInOne_pos.ne'
  rw [value, magnitude_ofInt finite, size, Decimal.units_nearest_integer bound, Nat.cast_mul,
    mul_div_cancel_right₀ _ one, ← signed_ofInt, signed_signed]

end Binary64
end DataSuite
