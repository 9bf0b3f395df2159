import Criteria.Json.Basic
import Criteria.Text.Blank

/-!
# Significance of arguments

The argument of a gate is affirmative, negative, or says nothing. A text that is a number is judged
as one, whatever blanks stand around it.
-/

namespace Criteria

/-- What an argument says. -/
inductive Significance
  | affirmative
  | negative
  | nonSignificant
  deriving DecidableEq

/-- The digits of a number in a text: the number is `digits · 10 ^ exponent`, or not finite. -/
inductive NumberText
  | finite (digits : List Char) (exponent : Int)
  | special
  deriving DecidableEq

namespace NumberText

/-- The text without a sign in front. -/
def dropSign : List Char → List Char
  | '+' :: rest | '-' :: rest => rest
  | s => s

/-- The value of an exponent: one or more digits, with or without a sign. -/
def exponent? (s : List Char) : Option Int :=
  let digits := dropSign s
  if digits.isEmpty || !digits.all Char.isDigit then none
  else
    let value : Int := Nat.ofDigitChars 10 digits 0
    some (if s.head? = some '-' then -value else value)

/-- Reads what follows the digits: nothing, or an exponent. -/
def readTail? (digits : List Char) (places : Nat) : List Char → Option NumberText
  | [] => if digits.isEmpty then none else some (finite digits (-places))
  | c :: rest =>
    if (c = 'e' ∨ c = 'E') ∧ !digits.isEmpty then
      (exponent? rest).map fun e => finite digits (e - places)
    else none

/-- Reads a number without its sign: digits with or without a point, then perhaps an exponent; or
one of the words for infinity and for no number. -/
def readUnsigned? (s : List Char) : Option NumberText :=
  if ["inf", "infinity", "nan"].contains (String.ofList (s.map Char.toLower)) then some special
  else
    let whole := s.takeWhile Char.isDigit
    match s.dropWhile Char.isDigit with
    | '.' :: rest =>
      let fraction := rest.takeWhile Char.isDigit
      readTail? (whole ++ fraction) fraction.length (rest.dropWhile Char.isDigit)
    | rest => readTail? whole 0 rest

def parse? (s : List Char) : Option NumberText := readUnsigned? (dropSign s)

/-- The nearest double to the number is zero: it is at most half of the least positive double. No
more places are looked at than decide that. -/
def isZero : NumberText → Bool
  | special => false
  | finite digits exponent =>
    let n := Nat.ofDigitChars 10 digits 0
    n == 0 ||
      (exponent < 0 && n * Nat.pow 2 1075 ≤ Nat.pow 10 (min (-exponent).toNat (digits.length + 400)))

end NumberText

namespace Significance

/-- Affirmative or negative. -/
def ofBool (b : Bool) : Significance := if b then affirmative else negative

/-- What a text says. -/
def ofText (s : List Char) : Significance :=
  match Text.trim s with
  | [] => nonSignificant
  | trimmed =>
    match NumberText.parse? trimmed with
    | some n => ofBool !n.isZero
    | none => affirmative

/-- What a value says. Null and blank texts say nothing; false, zero and what is empty are negative.
-/
def ofJson : Json → Significance
  | .null => nonSignificant
  | .bool b => ofBool b
  | .number n => ofBool !n.isZero
  | .text s => ofText s.toList
  | .array items => ofBool !items.isEmpty
  | .object fields => ofBool !fields.isEmpty

/-- What an argument says that may be missing. -/
def ofArgument : Option Json → Significance
  | none => nonSignificant
  | some value => ofJson value

def label : Significance → String
  | affirmative => "Affirmative"
  | negative => "Negative"
  | nonSignificant => "NonSignificant"

end Significance

end Criteria
