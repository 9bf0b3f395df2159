/-!
# Finite doubles

The finite numbers of the IEEE 754 binary64 format as exact fractions, rounding of a fraction to
the nearest of them (a tie goes to the even mantissa), and the arithmetic that reading a decimal
numeral needs. Every result is rounded once, from the exact value.
-/

namespace Criteria

/-- The double `± mantissa · 2 ^ (exponent - 1074)`. The mantissa is as large as its 53 bits allow,
so every magnitude is written in one way only; zero keeps its sign. -/
structure Double where
  negative : Bool
  mantissa : Nat
  exponent : Nat
  canonical : mantissa < Nat.pow 2 53 ∧ exponent ≤ 2045 ∧
    (Nat.pow 2 52 ≤ mantissa ∨ exponent = 0)
  deriving DecidableEq

namespace Double

/-- The denominator of every double. -/
def unit : Nat := Nat.pow 2 1074

/-- The magnitude in units of `2 ^ -1074`. -/
def scaled (x : Double) : Nat := x.mantissa * Nat.pow 2 x.exponent

def isZero (x : Double) : Bool := x.mantissa == 0

/-- Zero of either sign. -/
def zero (negative : Bool) : Double := ⟨negative, 0, 0, by decide⟩

/-- Equality of values: the two zeros are equal. -/
def same (x y : Double) : Bool := x == y || (x.isZero && y.isZero)

/-- The number with the other sign. -/
def neg (x : Double) : Double := { x with negative := !x.negative }

/-- The quotient rounded to the nearest integer, a tie to the even one. -/
def roundDiv (num den : Nat) : Nat :=
  let quotient := num / den
  let twice := 2 * (num % den)
  if den < twice || (twice == den && quotient % 2 == 1) then quotient + 1 else quotient

/-- The double with this mantissa and exponent, if there is one. -/
def ofParts? (negative : Bool) (mantissa exponent : Nat) : Option Double :=
  if h : mantissa < Nat.pow 2 53 ∧ exponent ≤ 2045 ∧ (Nat.pow 2 52 ≤ mantissa ∨ exponent = 0) then
    some ⟨negative, mantissa, exponent, h⟩
  else none

/-- The double nearest to `± num / den`; `none` when that is beyond the largest one. -/
def ofRatio? (negative : Bool) (num den : Nat) : Option Double :=
  let num := num * unit
  let exponent := (num / den).log2 - 52
  let mantissa := roundDiv num (den * Nat.pow 2 exponent)
  if mantissa = Nat.pow 2 53 then ofParts? negative (Nat.pow 2 52) (exponent + 1)
  else ofParts? negative mantissa exponent

/-- The double nearest to a natural number. -/
def ofNat? (n : Nat) : Option Double := ofRatio? false n 1

/-- The rounded product of two magnitudes. -/
def mul? (x y : Double) : Option Double := ofRatio? false (x.scaled * y.scaled) (unit * unit)

/-- The rounded quotient of two magnitudes. -/
def div? (x y : Double) : Option Double := ofRatio? false x.scaled y.scaled

/-- Only a mantissa of zero makes a zero. -/
theorem isZero_iff (x : Double) : x.isZero = true ↔ x.mantissa = 0 := by
  simp [isZero]

@[simp] theorem isZero_zero (negative : Bool) : (zero negative).isZero = true := rfl

@[simp] theorem isZero_neg (x : Double) : x.neg.isZero = x.isZero := rfl

@[simp] theorem neg_neg (x : Double) : x.neg.neg = x := by
  cases x; simp [neg]

@[simp] theorem same_self (x : Double) : x.same x = true := by
  simp [same]

theorem same_comm (x y : Double) : x.same y = y.same x := by
  simp only [same, Bool.beq_comm (a := x), Bool.and_comm]

end Double

end Criteria
