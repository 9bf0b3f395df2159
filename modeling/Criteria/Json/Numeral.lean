import Criteria.Json.Basic

/-!
# Numerals of JSON

The parts of a numeral as it is written, and the number it stands for. A numeral without fraction
and exponent is a whole number as long as it fits 64 bits (with a sign, the signed 64 bits); `-0`
and all others are doubles. Their first digits, as many as fit 64 bits, are rounded to a double,
which is then multiplied or divided by the power of ten.
-/

namespace Criteria

/-- A numeral: its sign, its digits before and after the point, and its exponent with a sign. -/
structure Numeral where
  negative : Bool
  whole : List Char
  fraction : List Char
  exponent : Option (Bool × List Char)
  deriving DecidableEq

namespace Numeral

/-- The value of decimal digits. -/
def valueOf (digits : List Char) : Nat := Nat.ofDigitChars 10 digits 0

/-- The number of whole values of 64 bits. -/
def wordCount : Nat := Nat.pow 2 64

/-- The leading digits that fit 64 bits, and how many are left. -/
def take (value : Nat) : List Char → Nat × Nat
  | [] => (value, 0)
  | c :: rest =>
    let next := value * 10 + (c.toNat - '0'.toNat)
    if next < wordCount then take next rest else (value, (c :: rest).length)

/-- The value of the exponent. -/
def power (n : Numeral) : Int :=
  match n.exponent with
  | none => 0
  | some (true, digits) => -(valueOf digits : Int)
  | some (false, digits) => valueOf digits

/-- The value scaled by a power of ten. An exponent below `-308` is worked off by that many places
at a time; after two such divisions nothing is left. `none` when the result is no finite double. -/
def scale (value : Double) (exponent : Int) : Nat → Option Double
  | 0 => some (.zero false)
  | steps + 1 =>
    if exponent.natAbs ≤ 308 then do
      let tens ← Double.ofNat? (Nat.pow 10 exponent.natAbs)
      if 0 ≤ exponent then value.mul? tens else value.div? tens
    else if value.isZero then some value
    else if 0 ≤ exponent then none
    else do
      let tens ← Double.ofNat? (Nat.pow 10 308)
      scale (← value.div? tens) (exponent + 308) steps

/-- The magnitude of the numeral as a double. -/
def magnitude? (n : Numeral) : Option Double := do
  let (whole, dropped) := take 0 n.whole
  let (digits, unread) := take whole n.fraction
  let shift : Int := dropped - (n.fraction.length - unread : Nat) + n.power
  scale (← Double.ofNat? digits) shift 4

/-- The numeral as a double with its sign. -/
def real? (n : Numeral) : Option Number :=
  n.magnitude?.map fun x => .real (if n.negative then x.neg else x)

/-- The number that a numeral stands for; `none` when it is too large. -/
def number? (n : Numeral) : Option Number :=
  if n.fraction = [] ∧ n.exponent = none then
    match n.negative, take 0 n.whole with
    | false, (value, 0) => some (.int value)
    | true, (value, 0) => if 0 < value ∧ value ≤ Nat.pow 2 63 then some (.int (-value)) else n.real?
    | _, _ => n.real?
  else n.real?

end Numeral

end Criteria
