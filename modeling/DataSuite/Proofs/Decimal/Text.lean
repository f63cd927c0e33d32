import DataSuite.Decimal.Numeral
import DataSuite.Proofs.Decimal.Neighbourhood
import Mathlib.Tactic.Set

/-!
# The text of a double

Positional notation and notation with an exponent are both read as the number that they
write.  Since the shortest decimal number of a double rounds to no other double, the text
of a finite double determines it.
-/

namespace DataSuite
namespace Decimal

/-- The number that a coefficient and a power of ten denote. -/
def Scientific.value (number : Scientific) : ℚ :=
  number.coefficient * 10 ^ number.exponent

/-- A row of digits. -/
def Digits (characters : List Char) : Prop :=
  ∀ character ∈ characters, character.isDigit = true

theorem digits_toDigits (number : Nat) : Digits (Nat.toDigits 10 number) :=
  fun _ => Nat.isDigit_of_mem_toDigits (by decide) (by decide)

theorem digits_zeros (count : Int) : Digits (zeros count) := by
  intro character member
  rw [List.eq_of_mem_replicate member]
  rfl

theorem Digits.append
    {left right : List Char}
    (leftDigits : Digits left)
    (rightDigits : Digits right) :
    Digits (left ++ right) := by
  intro character member
  rcases List.mem_append.mp member with inLeft | inRight
  · exact leftDigits character inLeft
  · exact rightDigits character inRight

theorem Digits.of_sublist
    {part whole : List Char}
    (digits : Digits whole)
    (sublist : part.Sublist whole) :
    Digits part :=
  fun character member => digits character (sublist.subset member)

theorem ofDigits_eq_ofDigitChars (read : Nat) (digits : List Char) :
    ofDigits read digits = Nat.ofDigitChars 10 digits read :=
  Nat.ofDigitChars_eq_foldl.symm

theorem ofDigits_toDigits (number : Nat) : ofDigits 0 (Nat.toDigits 10 number) = number := by
  rw [ofDigits_eq_ofDigitChars, Nat.ofDigitChars_ten_toDigits]

theorem ofDigits_append (read : Nat) (left right : List Char) :
    ofDigits read (left ++ right) = ofDigits (ofDigits read left) right :=
  List.foldl_append

theorem ofDigits_zeros (read : Nat) (count : Int) :
    ofDigits read (zeros count) = 10 ^ count.toNat * read := by
  rw [ofDigits_eq_ofDigitChars, zeros, Nat.ofDigitChars_replicate_zero]

/-- What does not go on with a character that passes a test. -/
def Stops (test : Char → Bool) (rest : List Char) : Prop :=
  ∀ character ∈ rest.head?, test character = false

theorem stops_nil (test : Char → Bool) : Stops test [] := by
  simp [Stops]

theorem stops_cons
    {test : Char → Bool}
    {first : Char}
    {rest : List Char} :
    Stops test (first :: rest) ↔ test first = false := by
  simp [Stops]

theorem Stops.takeWhile_append
    {test : Char → Bool}
    {run rest : List Char}
    (stops : Stops test rest)
    (all : ∀ character ∈ run, test character = true) :
    (run ++ rest).takeWhile test = run := by
  rw [List.takeWhile_append_of_pos all]
  cases rest with
  | nil => simp
  | cons first _ => simp [stops_cons.mp stops]

theorem Stops.dropWhile_append
    {test : Char → Bool}
    {run rest : List Char}
    (stops : Stops test rest)
    (all : ∀ character ∈ run, test character = true) :
    (run ++ rest).dropWhile test = rest := by
  rw [List.dropWhile_append_of_pos all]
  cases rest with
  | nil => simp
  | cons first _ => simp [stops_cons.mp stops]

/-- A numeral with a point is read digit by digit. -/
theorem unsigned?_point
    (whole fraction : List Char)
    {behind : List Char}
    {shift : Int}
    (wholeDigits : Digits whole)
    (fractionDigits : Digits fraction)
    (ends : Stops Char.isDigit behind)
    (nonempty : whole ≠ [])
    (exponent : exponent? behind = some shift) :
    unsigned? (whole ++ '.' :: (fraction ++ behind)) =
      some ⟨ofDigits 0 (whole ++ fraction), shift - fraction.length⟩ := by
  have point : Stops Char.isDigit ('.' :: (fraction ++ behind)) := stops_cons.mpr rfl
  unfold unsigned?
  rw [point.takeWhile_append wholeDigits, point.dropWhile_append wholeDigits]
  simp [ends.takeWhile_append fractionDigits, ends.dropWhile_append fractionDigits, exponent,
    nonempty]

/-- A numeral without a point is read digit by digit. -/
theorem unsigned?_whole
    {whole behind : List Char}
    {shift : Int}
    (wholeDigits : Digits whole)
    (ends : Stops Char.isDigit behind)
    (noPoint : behind.head? ≠ some '.')
    (nonempty : whole ≠ [])
    (exponent : exponent? behind = some shift) :
    unsigned? (whole ++ behind) = some ⟨ofDigits 0 whole, shift⟩ := by
  unfold unsigned?
  rw [ends.takeWhile_append wholeDigits, ends.dropWhile_append wholeDigits]
  cases behind with
  | nil => simpa [nonempty] using exponent
  | cons character rest =>
      have other : character ≠ '.' := by simpa using noPoint
      simp [nonempty, exponent, other]

/-- A coefficient in positional notation is read as its value. -/
theorem unsigned?_positional (coefficient : Nat) (exponent : Int) :
    ∃ number, unsigned? (positional (Nat.toDigits 10 coefficient) exponent) = some number ∧
      number.value = coefficient * 10 ^ exponent := by
  have all := digits_toDigits coefficient
  have nonempty : Nat.toDigits 10 coefficient ≠ [] := Nat.toDigits_ne_nil
  unfold positional
  split
  · rename_i integral
    refine ⟨_, unsigned?_point _ ['0'] (all.append (digits_zeros exponent))
      (by simp [Digits]) (stops_nil _) (by simp [nonempty]) rfl, ?_⟩
    obtain ⟨power, rfl⟩ := Int.eq_ofNat_of_zero_le integral
    rw [ofDigits_append, ofDigits_append, ofDigits_toDigits, ofDigits_zeros]
    simp [Scientific.value, ofDigits, digitValue]
    ring
  · rename_i fractional
    dsimp only
    split
    · rename_i inside
      set digits := Nat.toDigits 10 coefficient with toDigits
      set point := ((digits.length : Int) + exponent).toNat with pointEq
      have read :=
        unsigned?_point (digits.take point) (digits.drop point)
          (all.of_sublist (List.take_sublist _ _)) (all.of_sublist (List.drop_sublist _ _))
          (stops_nil _) (by simp [List.take_eq_nil_iff, nonempty]; omega) rfl
      rw [List.append_nil, List.take_append_drop, List.length_drop, toDigits,
        ofDigits_toDigits, ← toDigits] at read
      refine ⟨_, read, ?_⟩
      simp only [Scientific.value]
      congr 2
      omega
    · rename_i outside
      set digits := Nat.toDigits 10 coefficient with toDigits
      have read :=
        unsigned?_point ['0'] _ (by simp [Digits])
          ((digits_zeros (-((digits.length : Int) + exponent))).append all)
          (stops_nil _) (by simp) rfl
      rw [List.append_nil, ofDigits_append, ofDigits_append, ofDigits_zeros] at read
      refine ⟨_, read, ?_⟩
      unfold Scientific.value
      have leading : ofDigits 0 ['0'] = 0 := rfl
      rw [leading, Nat.mul_zero, toDigits, ofDigits_toDigits, ← toDigits]
      congr 2
      simp [zeros]
      omega

/-- An exponent is read with its sign. -/
theorem exponent?_toDigits (power : Int) :
    exponent? ('e' :: (if power < 0 then '-' else '+') :: Nat.toDigits 10 power.natAbs) =
      some power := by
  have all : (Nat.toDigits 10 power.natAbs).all Char.isDigit = true :=
    List.all_eq_true.mpr (digits_toDigits power.natAbs)
  have nonempty : Nat.toDigits 10 power.natAbs ≠ [] := Nat.toDigits_ne_nil
  by_cases negative : power < 0
  · have size : -(power.natAbs : Int) = power := by omega
    simpa [exponent?, sign, negative, all, nonempty, ofDigits_toDigits] using size
  · have size : (power.natAbs : Int) = power := by omega
    simpa [exponent?, sign, negative, all, nonempty, ofDigits_toDigits] using size

/-- A coefficient with an exponent is read as its value. -/
theorem unsigned?_withExponent
    (coefficient : Nat)
    (exponent : Int) :
    ∃ number,
      unsigned? (withExponent (Nat.toDigits 10 coefficient)
        ((Nat.toDigits 10 coefficient).length - 1 + exponent)) = some number ∧
      number.value = coefficient * 10 ^ exponent := by
  have all := digits_toDigits coefficient
  have same := ofDigits_toDigits coefficient
  have nonempty : Nat.toDigits 10 coefficient ≠ [] := Nat.toDigits_ne_nil
  unfold withExponent
  generalize Nat.toDigits 10 coefficient = digits at all same nonempty
  generalize power_eq : (digits.length : Int) - 1 + exponent = power
  match digits with
  | [] => exact absurd rfl nonempty
  | [digit] =>
      refine ⟨_, unsigned?_whole all (stops_cons.mpr rfl) (by simp) nonempty
        (exponent?_toDigits power), ?_⟩
      simp only [Scientific.value, same]
      congr 2
      simpa using power_eq.symm
  | first :: second :: rest =>
      refine ⟨_, unsigned?_point [first] _ (all.of_sublist (by simp))
        (all.of_sublist (List.sublist_cons_self _ _)) (stops_cons.mpr rfl) (by simp)
        (exponent?_toDigits power), ?_⟩
      simp only [Scientific.value, List.singleton_append, same]
      congr 2
      simp only [List.length_cons] at power_eq ⊢
      omega

/-- A magnitude is written as a numeral that rounds to it. -/
theorem unsigned?_magnitudeText
    (form : PositionalRange)
    {magnitude : Nat}
    (finite : magnitude < Binary64.infinity) :
    ∃ number, unsigned? (magnitudeText form magnitude) = some number ∧
      (neighbourhood magnitude).Holds (number.value * quartersInOne) := by
  unfold magnitudeText
  split
  · rename_i zero
    refine ⟨⟨0, -1⟩, rfl, ?_⟩
    subst zero
    have ends : (neighbourhood 0).least = 0 := by decide
    have value : Scientific.value ⟨0, -1⟩ = 0 := by simp [Scientific.value]
    rw [value, zero_mul]
    simp [Neighbourhood.Holds, neighbourhood_closed, ends]
  · rename_i nonzero
    dsimp only
    have holds := holds_shortest nonzero finite
    split
    · obtain ⟨number, read, value⟩ :=
        unsigned?_positional (shortest magnitude).1 (shortest magnitude).2
      exact ⟨number, read, value ▸ holds⟩
    · obtain ⟨number, read, value⟩ :=
        unsigned?_withExponent (shortest magnitude).1 (shortest magnitude).2
      exact ⟨number, read, value ▸ holds⟩

/-- Different magnitudes have different texts. -/
theorem magnitudeText_injective
    (form : PositionalRange)
    {left right : Nat}
    (leftFinite : left < Binary64.infinity)
    (rightFinite : right < Binary64.infinity)
    (same : magnitudeText form left = magnitudeText form right) :
    left = right := by
  obtain ⟨leftNumber, leftRead, leftHolds⟩ := unsigned?_magnitudeText form leftFinite
  obtain ⟨rightNumber, rightRead, rightHolds⟩ := unsigned?_magnitudeText form rightFinite
  have sameNumber : leftNumber = rightNumber := by
    rw [same, rightRead] at leftRead
    exact (Option.some.inj leftRead).symm
  rw [sameNumber] at leftHolds
  exact holds_unique leftHolds rightHolds

theorem magnitudeText_ne_minus
    (form : PositionalRange)
    {magnitude : Nat}
    (finite : magnitude < Binary64.infinity)
    (rest : List Char) :
    magnitudeText form magnitude ≠ '-' :: rest := by
  intro same
  obtain ⟨number, read, _⟩ := unsigned?_magnitudeText form finite
  rw [same] at read
  simp [unsigned?] at read

/-- Different finite doubles have different texts. -/
theorem doubleText_injective
    (form : PositionalRange)
    {left right : Binary64}
    (leftFinite : left.isFinite = true)
    (rightFinite : right.isFinite = true)
    (same : doubleText form left = doubleText form right) :
    left = right := by
  obtain ⟨leftSign, leftMagnitude, _⟩ := left
  obtain ⟨rightSign, rightMagnitude, _⟩ := right
  simp only [Binary64.isFinite, decide_eq_true_eq] at leftFinite rightFinite
  simp only [doubleText, String.ofList_inj] at same
  cases leftSign <;> cases rightSign <;> simp only [Bool.false_eq_true, if_true, if_false] at same
  · rw [Binary64.mk.injEq]
    exact ⟨rfl, magnitudeText_injective form leftFinite rightFinite same⟩
  · exact (magnitudeText_ne_minus form leftFinite _ same).elim
  · exact (magnitudeText_ne_minus form rightFinite _ same.symm).elim
  · rw [Binary64.mk.injEq]
    exact ⟨rfl, magnitudeText_injective form leftFinite rightFinite (List.cons.inj same).2⟩

/-- A character that can stand in the text of a number. -/
def isNumeral (character : Char) : Bool :=
  character.isDigit || character == '-' || character == '+' || character == '.' || character == 'e'

/-- Characters that can stand in the text of a number. -/
def Numerals (characters : List Char) : Prop :=
  ∀ character ∈ characters, isNumeral character = true

theorem Digits.numerals
    {digits : List Char}
    (all : Digits digits) :
    Numerals digits := by
  intro character member
  simp [isNumeral, all character member]

theorem numerals_cons
    {first : Char}
    {rest : List Char} :
    Numerals (first :: rest) ↔ isNumeral first = true ∧ Numerals rest :=
  List.forall_mem_cons

theorem numerals_append {left right : List Char} :
    Numerals (left ++ right) ↔ Numerals left ∧ Numerals right :=
  List.forall_mem_append

theorem numerals_nil : Numerals [] := by
  simp [Numerals]

theorem numerals_positional
    {digits : List Char}
    (all : Digits digits)
    (exponent : Int) :
    Numerals (positional digits exponent) := by
  have zero (count : Int) := (digits_zeros count).numerals
  have before (point : Nat) := (all.of_sublist (List.take_sublist point digits)).numerals
  have behind (point : Nat) := (all.of_sublist (List.drop_sublist point digits)).numerals
  unfold positional
  dsimp only
  split
  · simp [numerals_append, numerals_cons, numerals_nil, all.numerals, zero]
    decide
  · split
    · simp [numerals_append, numerals_cons, before, behind]
      decide
    · simp [numerals_append, numerals_cons, zero, all.numerals]
      decide

theorem numerals_withExponent
    {digits : List Char}
    (all : Digits digits)
    (power : Int) :
    Numerals (withExponent digits power) := by
  have marked :
      Numerals ('e' :: (if power < 0 then '-' else '+') :: Nat.toDigits 10 power.natAbs) := by
    have size := (digits_toDigits power.natAbs).numerals
    split <;> simp [numerals_cons, size] <;> decide
  unfold withExponent
  match digits with
  | [] => simpa using marked
  | [digit] => simpa using numerals_append.mpr ⟨all.numerals, marked⟩
  | first :: second :: rest =>
      obtain ⟨firstNumeral, otherNumerals⟩ := numerals_cons.mp all.numerals
      have point : isNumeral '.' = true := by decide
      exact numerals_cons.mpr
        ⟨firstNumeral, numerals_cons.mpr ⟨point, numerals_append.mpr ⟨otherNumerals, marked⟩⟩⟩

theorem numerals_magnitudeText
    (form : PositionalRange)
    (magnitude : Nat) :
    Numerals (magnitudeText form magnitude) := by
  unfold magnitudeText
  split
  · simp [numerals_cons, numerals_nil]
    decide
  · dsimp only
    split
    · exact numerals_positional (digits_toDigits _) _
    · exact numerals_withExponent (digits_toDigits _) _

/-- A magnitude is written with a point or an exponent. -/
theorem exists_mark_magnitudeText
    (form : PositionalRange)
    (magnitude : Nat) :
    '.' ∈ magnitudeText form magnitude ∨ 'e' ∈ magnitudeText form magnitude := by
  unfold magnitudeText
  split
  · simp
  · dsimp only
    split
    · left
      simp only [positional]
      split
      · simp
      · split <;> simp
    · right
      simp [withExponent]

end Decimal
end DataSuite
