import Criteria.Number.Double

/-!
# Shortest decimals

The decimal with the fewest digits that a double is the nearest one to, and of those the one
closest to the double; and two layouts of such a decimal: in full, without an exponent, and with an
exponent where the number is very large or very small. The two differ also where a double lies
midway between two such decimals: the first takes the greater one, the second the even one.
-/

namespace Criteria

/-- The number `digits · 10 ^ exponent`. -/
structure Decimal where
  digits : Nat
  exponent : Int
  deriving DecidableEq

namespace Decimal

/-- The decimal digits of a natural number. -/
def digitsOf (n : Nat) : List Char := Nat.toDigits 10 n

/-- The digits of a decimal laid out in full: with zeros up to the point, or behind it. -/
def positional (d : Decimal) : List Char × List Char :=
  let ds := digitsOf d.digits
  let point := ds.length + d.exponent
  if 0 ≤ d.exponent then (ds ++ List.replicate d.exponent.toNat '0', [])
  else if 0 < point then ds.splitAt point.toNat
  else (['0'], List.replicate (-point).toNat '0' ++ ds)

/-- The digits in full, with a point only before a fraction. -/
def plain (d : Decimal) : List Char :=
  match d.positional with
  | (whole, []) => whole
  | (whole, fraction) => whole ++ '.' :: fraction

/-- The position of the first digit: `0` for units, `1` for tens, `-1` for tenths. -/
def magnitude (d : Decimal) : Int := (digitsOf d.digits).length + d.exponent - 1

/-- The first digit, a point before the others, and the power of ten with its sign. -/
def scientific (d : Decimal) : List Char :=
  let mantissa :=
    match digitsOf d.digits with
    | first :: second :: rest => first :: '.' :: second :: rest
    | ds => ds
  let sign := if d.magnitude < 0 then '-' else '+'
  mantissa ++ 'e' :: sign :: digitsOf d.magnitude.natAbs

/-- From `10 ^ -5` to below `10 ^ 16` in full, always with a point; beyond that with an exponent. -/
def marked (d : Decimal) : List Char :=
  if -5 ≤ d.magnitude ∧ d.magnitude ≤ 15 then
    match d.positional with
    | (whole, []) => whole ++ ['.', '0']
    | (whole, fraction) => whole ++ '.' :: fraction
  else d.scientific

end Decimal

/-- Which of two equally close decimals is taken. -/
inductive Tie
  | greater
  | even
  deriving DecidableEq

namespace Double

/-- The magnitude in quarters of `2 ^ -1074`, between the ends of the interval whose numbers round
to it. Below a power of two the neighbour is only half as far away. -/
def interval (x : Double) : Nat × Nat × Nat :=
  let step := Nat.pow 2 x.exponent
  let below := if x.mantissa = Nat.pow 2 52 ∧ 0 < x.exponent then step else 2 * step
  (4 * x.scaled - below, 4 * x.scaled, 4 * x.scaled + 2 * step)

/-- The digits of the nearest decimal on the grid of multiples of `10 ^ exponent` that rounds to the
double, if one does. The ends of the interval round to it when the mantissa is even. -/
def onGrid? (x : Double) (tie : Tie) (exponent : Int) : Option Nat :=
  let (low, middle, high) := x.interval
  let up := Nat.pow 10 (-exponent).toNat
  let cell := 4 * unit * Nat.pow 10 exponent.toNat
  let value := middle * up
  let inside (n : Nat) : Bool :=
    if x.mantissa % 2 = 0 then low * up ≤ n * cell && n * cell ≤ high * up
    else low * up < n * cell && n * cell < high * up
  let floor := value / cell
  let toFloor := value - floor * cell
  let toNext := (floor + 1) * cell - value
  match inside floor, inside (floor + 1) with
  | true, true =>
    if toFloor < toNext || (toFloor == toNext && tie == .even && floor % 2 == 0) then some floor
    else some (floor + 1)
  | true, false => some floor
  | false, true => some (floor + 1)
  | false, false => none

/-- The first of the next `tries` grids, each ten times finer than the one before, that has a
decimal for the double. -/
def search (x : Double) (tie : Tie) (exponent : Int) : Nat → Option Decimal
  | 0 => none
  | tries + 1 =>
    match x.onGrid? tie exponent with
    | some digits => some ⟨digits, exponent⟩
    | none => x.search tie (exponent - 1) tries

/-- The number of digits before the point of the magnitude; zero or negative for fractions. -/
def wholeDigits (x : Double) : Int :=
  (Decimal.digitsOf (x.scaled * Nat.pow 10 400 / unit)).length - 400

/-- The shortest decimal that reads back as the magnitude. Seventeen digits always suffice. -/
def shortest (x : Double) (tie : Tie) : Decimal :=
  if x.isZero then ⟨0, 0⟩
  else
    match x.search tie (x.wholeDigits - 1) 17 with
    | some d => if d.digits = 10 then ⟨1, d.exponent + 1⟩ else d
    | none => ⟨0, 0⟩

def sign (x : Double) : List Char := if x.negative then ['-'] else []

/-- The number in full: never an exponent, and no point in a whole number. -/
def plain (x : Double) : String := String.ofList (x.sign ++ (x.shortest .greater).plain)

def json (x : Double) : String := String.ofList (x.sign ++ (x.shortest .even).marked)

end Double

end Criteria
