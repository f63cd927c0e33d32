import DataSuite.Decimal.Shortest
import Mathlib.Algebra.Order.Field.Basic
import Mathlib.Order.Monotone.Basic
import Mathlib.Tactic.Linarith
import Mathlib.Tactic.Positivity
import Mathlib.Tactic.Ring

/-!
# The numbers that round to a double

The neighbourhoods of two neighbouring magnitudes meet in one number, which belongs to the
even magnitude, so no number lies in two neighbourhoods.  The last of the grids on which the
shortest decimal number is searched is finer than every neighbourhood, so the search always
succeeds and its result rounds to the magnitude.
-/

namespace DataSuite
namespace Decimal

/-! ## Magnitudes one after the other -/

/-- The distance from a magnitude to the next one, in units. -/
def spacing (magnitude : Nat) : Nat :=
  2 ^ (magnitude / 2 ^ 52 - 1)

theorem spacing_pos (magnitude : Nat) : 0 < spacing magnitude :=
  Nat.two_pow_pos _

theorem units_succ (magnitude : Nat) :
    Binary64.units (magnitude + 1) = Binary64.units magnitude + spacing magnitude := by
  obtain ⟨exponent, fraction, bound, rfl⟩ :
      ∃ exponent fraction, fraction < 2 ^ 52 ∧ magnitude = 2 ^ 52 * exponent + fraction :=
    ⟨magnitude / 2 ^ 52, magnitude % 2 ^ 52, Nat.mod_lt _ (by decide), by omega⟩
  have quotient : (2 ^ 52 * exponent + fraction) / 2 ^ 52 = exponent := by omega
  have remainder : (2 ^ 52 * exponent + fraction) % 2 ^ 52 = fraction := by omega
  simp only [Binary64.units, spacing, Nat.pow_eq, quotient, remainder]
  by_cases full : fraction + 1 = 2 ^ 52
  · have nextQuotient : (2 ^ 52 * exponent + fraction + 1) / 2 ^ 52 = exponent + 1 := by omega
    have nextRemainder : (2 ^ 52 * exponent + fraction + 1) % 2 ^ 52 = 0 := by omega
    rw [nextQuotient, nextRemainder]
    cases exponent with
    | zero => simp; omega
    | succ exponent =>
        simp only [Nat.add_eq_zero_iff, one_ne_zero, and_false, if_false, Nat.add_sub_cancel]
        rw [Nat.pow_succ 2 exponent]
        have split : 2 ^ 52 + 2 ^ 52 = 2 ^ 52 + fraction + 1 := by omega
        calc
          (2 ^ 52 + 0) * (2 ^ exponent * 2) = (2 ^ 52 + 2 ^ 52) * 2 ^ exponent := by ring
          _ = (2 ^ 52 + fraction + 1) * 2 ^ exponent := by rw [split]
          _ = (2 ^ 52 + fraction) * 2 ^ exponent + 2 ^ exponent := by ring
  · have nextQuotient : (2 ^ 52 * exponent + fraction + 1) / 2 ^ 52 = exponent := by omega
    have nextRemainder :
        (2 ^ 52 * exponent + fraction + 1) % 2 ^ 52 = fraction + 1 := by omega
    rw [nextQuotient, nextRemainder]
    cases exponent with
    | zero => simp
    | succ exponent =>
        simp only [Nat.add_eq_zero_iff, one_ne_zero, and_false, if_false, Nat.add_sub_cancel]
        ring

theorem units_strictMono : StrictMono Binary64.units :=
  strictMono_nat_of_lt_succ fun magnitude => by
    rw [units_succ]
    exact Nat.lt_add_of_pos_right (spacing_pos magnitude)

/-- A neighbourhood ends midway to the next magnitude. -/
theorem neighbourhood_greatest (magnitude : Nat) :
    (neighbourhood magnitude).greatest =
      2 * (Binary64.units magnitude + Binary64.units (magnitude + 1)) := by
  rw [units_succ]
  simp only [neighbourhood, spacing, Nat.pow_eq]
  omega

/-- The gap below a magnitude is the spacing of the one before it. -/
theorem gap_below (magnitude : Nat) :
    (if (magnitude + 1) % 2 ^ 52 = 0 ∧ 1 < (magnitude + 1) / 2 ^ 52 then
        2 ^ ((magnitude + 1) / 2 ^ 52 - 1)
      else 2 * 2 ^ ((magnitude + 1) / 2 ^ 52 - 1)) = 2 * spacing magnitude := by
  unfold spacing
  split
  · rename_i boundary
    have exponent : (magnitude + 1) / 2 ^ 52 - 1 = magnitude / 2 ^ 52 - 1 + 1 := by omega
    rw [exponent, Nat.pow_succ, Nat.mul_comm]
  · rename_i inside
    have exponent : (magnitude + 1) / 2 ^ 52 - 1 = magnitude / 2 ^ 52 - 1 := by omega
    rw [exponent]

/-- A neighbourhood begins where the one before it ends. -/
theorem neighbourhood_least_succ (magnitude : Nat) :
    (neighbourhood (magnitude + 1)).least = (neighbourhood magnitude).greatest := by
  rw [neighbourhood_greatest]
  have next := units_succ magnitude
  have gap := gap_below magnitude
  simp only [neighbourhood, Nat.pow_eq, Bool.and_eq_true, decide_eq_true_eq]
  rw [gap]
  omega

theorem neighbourhood_closed (magnitude : Nat) :
    (neighbourhood magnitude).closed = (magnitude % 2 == 0) := rfl

theorem greatest_strictMono : StrictMono fun magnitude => (neighbourhood magnitude).greatest := by
  intro left right less
  have first := units_strictMono less
  have second := units_strictMono (Nat.add_lt_add_right less 1)
  simp only [neighbourhood_greatest]
  omega

/-! ## What a neighbourhood holds -/

/-- Whether a number of quarters of the least magnitude lies in a neighbourhood. -/
def Neighbourhood.Holds (around : Neighbourhood) (quarters : ℚ) : Prop :=
  if around.closed then around.least ≤ quarters ∧ quarters ≤ around.greatest
  else around.least < quarters ∧ quarters < around.greatest

theorem Neighbourhood.Holds.bounds
    {around : Neighbourhood}
    {quarters : ℚ}
    (holds : around.Holds quarters) :
    around.least ≤ quarters ∧ quarters ≤ around.greatest := by
  unfold Neighbourhood.Holds at holds
  split at holds
  · exact holds
  · exact ⟨holds.1.le, holds.2.le⟩

theorem not_holds_of_lt
    {left right : Nat}
    {quarters : ℚ}
    (less : left < right)
    (inLeft : (neighbourhood left).Holds quarters)
    (inRight : (neighbourhood right).Holds quarters) :
    False := by
  obtain ⟨before, rfl⟩ : ∃ before, right = before + 1 := ⟨right - 1, by omega⟩
  have above := inLeft.bounds.2
  have below := inRight.bounds.1
  rw [neighbourhood_least_succ] at below
  have meet : (neighbourhood before).greatest ≤ (neighbourhood left).greatest := by
    exact_mod_cast below.trans above
  have same : left = before := by
    have order := greatest_strictMono.le_iff_le.mp meet
    omega
  subst same
  -- Both neighbourhoods hold their common end, so both magnitudes are even.
  have atEnd : quarters = (neighbourhood left).greatest := le_antisymm above below
  have leftClosed : (neighbourhood left).closed = true := by
    by_contra isOpen
    simp only [Neighbourhood.Holds, isOpen, if_false] at inLeft
    exact absurd atEnd inLeft.2.ne
  have rightClosed : (neighbourhood (left + 1)).closed = true := by
    by_contra isOpen
    simp only [Neighbourhood.Holds, isOpen, if_false, neighbourhood_least_succ] at inRight
    exact absurd atEnd.symm inRight.1.ne
  simp only [neighbourhood_closed, beq_iff_eq] at leftClosed rightClosed
  omega

/-- No number rounds to two magnitudes. -/
theorem holds_unique
    {left right : Nat}
    {quarters : ℚ}
    (inLeft : (neighbourhood left).Holds quarters)
    (inRight : (neighbourhood right).Holds quarters) :
    left = right := by
  rcases Nat.lt_trichotomy left right with less | same | greater
  · exact (not_holds_of_lt less inLeft inRight).elim
  · exact same
  · exact (not_holds_of_lt greater inRight inLeft).elim

theorem Neighbourhood.contains_iff
    (around : Neighbourhood)
    (numerator : Nat)
    {denominator : Nat}
    (positive : 0 < denominator) :
    around.contains numerator denominator = true ↔
      around.Holds ((numerator : ℚ) / denominator) := by
  have positive' : (0 : ℚ) < denominator := by exact_mod_cast positive
  unfold Neighbourhood.contains Neighbourhood.Holds
  split
  · simp only [Bool.and_eq_true, decide_eq_true_eq]
    rw [le_div_iff₀ positive', div_le_iff₀ positive']
    norm_cast
  · simp only [Bool.and_eq_true, decide_eq_true_eq]
    rw [lt_div_iff₀ positive', div_lt_iff₀ positive']
    norm_cast

/-- How many quarters of the least magnitude make one. -/
def quartersInOne : Nat :=
  4 * Binary64.unitsInOne

theorem quartersInOne_eq
    {bits : Nat}
    (all : bits = 2 + 1074) :
    quartersInOne = 2 ^ bits := by
  have rest : 1074 = bits - 2 := by omega
  have power : Binary64.unitsInOne = 2 ^ (bits - 2) := by
    unfold Binary64.unitsInOne
    rw [rest]
    rfl
  have sum : 2 + (bits - 2) = bits := by omega
  rw [quartersInOne, power, show 4 = 2 ^ 2 from rfl, ← Nat.pow_add, sum]

/-! ## Points of a grid -/

/-- The width of a grid with a power of ten, as a numerator. -/
def gridWidth (exponent : Int) : Nat :=
  if 0 ≤ exponent then quartersInOne * 10 ^ exponent.toNat else quartersInOne

/-- The width of a grid with a power of ten, as a denominator. -/
def gridScale (exponent : Int) : Nat :=
  if 0 ≤ exponent then 1 else 10 ^ (-exponent).toNat

theorem gridScale_pos (exponent : Int) : 0 < gridScale exponent := by
  unfold gridScale
  split <;> positivity

theorem gridWidth_div_gridScale (exponent : Int) :
    (gridWidth exponent : ℚ) / gridScale exponent = 10 ^ exponent * quartersInOne := by
  unfold gridWidth gridScale
  split
  · rename_i positive
    obtain ⟨power, rfl⟩ := Int.eq_ofNat_of_zero_le positive
    rw [Int.toNat_natCast, zpow_natCast, Nat.cast_mul, Nat.cast_pow, Nat.cast_one, div_one,
      mul_comm, Nat.cast_ofNat]
  · rename_i negative
    obtain ⟨power, rfl⟩ : ∃ power : Nat, exponent = -(power : Int) :=
      ⟨(-exponent).toNat, by omega⟩
    rw [neg_neg, Int.toNat_natCast, zpow_neg, zpow_natCast, Nat.cast_pow, div_eq_mul_inv,
      mul_comm, Nat.cast_ofNat]

/-- The last grid point that is not above the centre. -/
def Neighbourhood.pointBelow (around : Neighbourhood) (exponent : Int) : Nat :=
  around.centre * gridScale exponent / gridWidth exponent

/-- Whether a grid point lies in a neighbourhood. -/
def Neighbourhood.hasPoint (around : Neighbourhood) (exponent : Int) (point : Nat) : Bool :=
  around.contains (point * gridWidth exponent) (gridScale exponent)

/-- What is found on a grid is one of the two points around the centre. -/
theorem Neighbourhood.gridPoint?_cases (around : Neighbourhood) (exponent : Int) :
    (around.hasPoint exponent (around.pointBelow exponent) = true ∧
        around.gridPoint? exponent = some (around.pointBelow exponent)) ∨
      (around.hasPoint exponent (around.pointBelow exponent + 1) = true ∧
        around.gridPoint? exponent = some (around.pointBelow exponent + 1)) ∨
      (around.hasPoint exponent (around.pointBelow exponent + 1) = false ∧
        around.gridPoint? exponent = none) := by
  have unfolded :
      around.gridPoint? exponent =
        let lowerIn :=
          decide (0 < around.pointBelow exponent) &&
            around.hasPoint exponent (around.pointBelow exponent)
        let rest := 2 * (around.centre * gridScale exponent % gridWidth exponent)
        if lowerIn && around.hasPoint exponent (around.pointBelow exponent + 1) then
          some
            (if rest < gridWidth exponent ||
                (rest == gridWidth exponent && around.pointBelow exponent % 2 == 0) then
              around.pointBelow exponent
            else around.pointBelow exponent + 1)
        else if lowerIn then some (around.pointBelow exponent)
        else if around.hasPoint exponent (around.pointBelow exponent + 1) then
          some (around.pointBelow exponent + 1)
        else none := rfl
  rw [unfolded]
  cases around.hasPoint exponent (around.pointBelow exponent) <;>
    cases around.hasPoint exponent (around.pointBelow exponent + 1) <;>
    grind

theorem Neighbourhood.hasPoint_iff
    (around : Neighbourhood)
    (exponent : Int)
    (point : Nat) :
    around.hasPoint exponent point = true ↔
      around.Holds (point * 10 ^ exponent * quartersInOne) := by
  unfold Neighbourhood.hasPoint
  rw [Neighbourhood.contains_iff _ _ (gridScale_pos exponent)]
  push_cast
  rw [mul_div_assoc, gridWidth_div_gridScale, ← mul_assoc]

/-- A point found on a grid lies in the neighbourhood. -/
theorem Neighbourhood.holds_of_gridPoint?
    {around : Neighbourhood}
    {exponent : Int}
    {point : Nat}
    (found : around.gridPoint? exponent = some point) :
    around.Holds (point * 10 ^ exponent * quartersInOne) := by
  rw [← Neighbourhood.hasPoint_iff]
  rcases around.gridPoint?_cases exponent with ⟨inside, same⟩ | ⟨inside, same⟩ | ⟨_, same⟩ <;>
    rw [same] at found
  · exact Option.some.inj found ▸ inside
  · exact Option.some.inj found ▸ inside
  · cases found

theorem gridWidth_pos (exponent : Int) : 0 < gridWidth exponent := by
  have quarters : 0 < quartersInOne := by
    obtain ⟨bits, all⟩ : ∃ bits, bits = 2 + 1074 := ⟨_, rfl⟩
    rw [quartersInOne_eq all]
    exact Nat.two_pow_pos bits
  unfold gridWidth
  split <;> positivity

/-- A grid finer than the upper half of a neighbourhood has a point above its centre. -/
theorem Neighbourhood.isSome_gridPoint?
    {around : Neighbourhood}
    {exponent : Int}
    (centred : around.least ≤ around.centre)
    (fine : around.centre * gridScale exponent + gridWidth exponent <
      around.greatest * gridScale exponent) :
    (around.gridPoint? exponent).isSome = true := by
  have above :=
    Nat.lt_div_mul_add (a := around.centre * gridScale exponent) (gridWidth_pos exponent)
  have below := Nat.div_mul_le_self (around.centre * gridScale exponent) (gridWidth exponent)
  have least := Nat.mul_le_mul_right (gridScale exponent) centred
  have inside : around.hasPoint exponent (around.pointBelow exponent + 1) = true := by
    unfold Neighbourhood.hasPoint Neighbourhood.pointBelow Neighbourhood.contains
    rw [Nat.add_mul, Nat.one_mul]
    split <;> simp only [Bool.and_eq_true, decide_eq_true_eq] <;> omega
  rcases around.gridPoint?_cases exponent with ⟨_, same⟩ | ⟨_, same⟩ | ⟨outside, _⟩
  · simp [same]
  · simp [same]
  · simp [outside] at inside

/-- The search finds a point where one of the grids that it tries has one. -/
theorem Neighbourhood.search_found
    (around : Neighbourhood)
    (step : Nat)
    {grids : Nat}
    {exponent : Int}
    (within : step < grids)
    (found : (around.gridPoint? (exponent - step)).isSome = true) :
    around.gridPoint? (around.search grids exponent).2 =
      some (around.search grids exponent).1 := by
  induction grids generalizing step exponent with
  | zero => omega
  | succ grids inductionHypothesis =>
      unfold Neighbourhood.search
      cases here : around.gridPoint? exponent with
      | some point => exact here
      | none =>
          cases step with
          | zero => simp [here] at found
          | succ step =>
              apply inductionHypothesis step (Nat.lt_of_succ_lt_succ within)
              have same : exponent - 1 - (step : Int) = exponent - (step + 1 : Nat) := by omega
              rw [same]
              exact found

/-! ## The shortest number -/

theorem ten_pow_le_two_pow
    {tens twos : Nat}
    (bound : 10 * tens ≤ 3 * twos) :
    10 ^ tens ≤ 2 ^ twos := by
  apply le_of_pow_le_pow_left₀ (n := 3) (by decide) (Nat.zero_le _)
  calc
    (10 ^ tens) ^ 3 = (10 ^ 3) ^ tens := by rw [← pow_mul, ← pow_mul, Nat.mul_comm]
    _ ≤ (2 ^ 10) ^ tens := Nat.pow_le_pow_left (by decide) tens
    _ = 2 ^ (10 * tens) := by rw [← pow_mul]
    _ ≤ 2 ^ (3 * twos) := Nat.pow_le_pow_right (by decide) bound
    _ = (2 ^ twos) ^ 3 := by rw [← pow_mul, Nat.mul_comm]

theorem two_pow_le_ten_pow
    {tens twos : Nat}
    (bound : 10 * twos ≤ 33 * tens) :
    2 ^ twos ≤ 10 ^ tens := by
  apply le_of_pow_le_pow_left₀ (n := 10) (by decide) (Nat.zero_le _)
  calc
    (2 ^ twos) ^ 10 = 2 ^ (10 * twos) := by rw [← pow_mul, Nat.mul_comm]
    _ ≤ 2 ^ (33 * tens) := Nat.pow_le_pow_right (by decide) bound
    _ = (2 ^ 33) ^ tens := by rw [← pow_mul]
    _ ≤ (10 ^ 10) ^ tens := Nat.pow_le_pow_left (by decide) tens
    _ = (10 ^ tens) ^ 10 := by rw [← pow_mul, ← pow_mul, Nat.mul_comm]

/-- The units of a magnitude have at most 53 bits more than its spacing has zeros. -/
theorem log2_units_le
    {magnitude : Nat}
    (nonzero : magnitude ≠ 0) :
    Nat.log2 (Binary64.units magnitude) ≤ magnitude / 2 ^ 52 - 1 + 52 := by
  have positive : Binary64.units magnitude ≠ 0 := by
    have above := units_strictMono (Nat.pos_of_ne_zero nonzero)
    omega
  rw [← Nat.lt_succ_iff, Nat.succ_eq_add_one, Nat.log2_lt positive]
  have fraction := Nat.mod_lt magnitude (show 0 < 2 ^ 52 by decide)
  simp only [Binary64.units, Nat.pow_eq]
  split
  · rename_i subnormal
    rw [subnormal]
    omega
  · rw [Nat.add_assoc, Nat.pow_add, Nat.mul_comm]
    apply Nat.mul_lt_mul_of_pos_left _ (Nat.two_pow_pos _)
    omega

/-- The last grid that is searched is finer than the upper half of the neighbourhood. -/
theorem gridWidth_lt
    {magnitude : Nat}
    (nonzero : magnitude ≠ 0)
    (finite : magnitude < Binary64.infinity)
    {exponent : Int}
    (last : exponent =
      ((Nat.log2 (Binary64.units magnitude) : Int) - 1074) * 30103 / 100000 + 2 - 23) :
    gridWidth exponent < 2 * spacing magnitude * gridScale exponent := by
  have lengthBound := log2_units_le nonzero
  have zerosBound : magnitude / 2 ^ 52 - 1 ≤ 2045 := by
    simp only [Binary64.infinity, Nat.pow_eq] at finite
    omega
  unfold spacing
  generalize Nat.log2 (Binary64.units magnitude) = bitLength at lengthBound last
  generalize magnitude / 2 ^ 52 - 1 = zeros at lengthBound zerosBound
  unfold gridWidth gridScale
  obtain ⟨bits, all⟩ : ∃ bits, bits = 2 + 1074 := ⟨_, rfl⟩
  rw [quartersInOne_eq all]
  split
  · rename_i positive
    have powers : 10 ^ exponent.toNat ≤ 2 ^ (zeros - bits) := ten_pow_le_two_pow (by omega)
    calc
      2 ^ bits * 10 ^ exponent.toNat ≤ 2 ^ bits * 2 ^ (zeros - bits) :=
        Nat.mul_le_mul_left _ powers
      _ = 2 ^ (bits + (zeros - bits)) := (Nat.pow_add _ _ _).symm
      _ < 2 ^ (zeros + 1) := Nat.pow_lt_pow_right (by decide) (by omega)
      _ = 2 * 2 ^ zeros * 1 := by rw [Nat.pow_succ, Nat.mul_one, Nat.mul_comm]
  · rename_i negative
    have powers : 2 ^ (bits - zeros) ≤ 10 ^ (-exponent).toNat := two_pow_le_ten_pow (by omega)
    calc
      2 ^ bits < 2 ^ (zeros + 1 + (bits - zeros)) :=
        Nat.pow_lt_pow_right (by decide) (by omega)
      _ = 2 * 2 ^ zeros * 2 ^ (bits - zeros) := by
        rw [Nat.pow_add, Nat.pow_succ, Nat.mul_comm 2]
      _ ≤ 2 * 2 ^ zeros * 10 ^ (-exponent).toNat := Nat.mul_le_mul_left _ powers

/-- The shortest decimal number of a double rounds to it. -/
theorem holds_shortest
    {magnitude : Nat}
    (nonzero : magnitude ≠ 0)
    (finite : magnitude < Binary64.infinity) :
    (neighbourhood magnitude).Holds
      ((shortest magnitude).1 * 10 ^ (shortest magnitude).2 * quartersInOne) := by
  apply Neighbourhood.holds_of_gridPoint?
  unfold shortest
  apply Neighbourhood.search_found _ 23 (by decide)
  apply Neighbourhood.isSome_gridPoint?
  · exact Nat.sub_le _ _
  · have fine := gridWidth_lt nonzero finite rfl
    change _ < ((neighbourhood magnitude).centre + 2 * spacing magnitude) * _
    rw [Nat.add_mul]
    exact Nat.add_lt_add_left fine _

end Decimal
end DataSuite
