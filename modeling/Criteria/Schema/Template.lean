import Criteria.Draft
import Criteria.Text.Split
import Criteria.Text.WordChar

/-!
# Templates

The arguments put into the places of a template, and the list of identifiers that the arguments of
the condition `elems` make.
-/

namespace Criteria

/-- Whole numbers of a place in a template are below this. -/
def placeCount : Nat := Nat.pow 2 64

/-- The whole numbers that an identifier can be are below this. -/
def identifierCount : Nat := Nat.pow 2 63

namespace Template

/-- The number of the argument that a text is the place of: `$` and digits, with or without a plus
sign. -/
def place? (s : List Char) : Option Nat :=
  match s with
  | '$' :: rest =>
    let digits := match rest with
      | '+' :: digits => digits
      | digits => digits
    let n := Nat.ofDigitChars 10 digits 0
    if digits.isEmpty || !digits.all Char.isDigit || placeCount ≤ n then none else some n
  | _ => none

mutual

/-- The template with the arguments in their places; a missing one is null. Keys are left as they
are. -/
def fill (args : List Json) : Json → Json
  | .text s =>
    match place? s.toList with
    | some n => args.getD n .null
    | none => .text s
  | .array items => .array (fillItems args items)
  | .object fields => .object (fillFields args fields)
  | other => other

def fillItems (args : List Json) : List Json → List Json
  | [] => []
  | x :: rest => fill args x :: fillItems args rest

def fillFields (args : List Json) : List (String × Json) → List (String × Json)
  | [] => []
  | (key, value) :: rest => (key, fill args value) :: fillFields args rest

end

end Template

namespace Elements

/-- The identifier that a run of digits is: a number if it is one of 63 bits, else a text. -/
def ofDigits (digits : List Char) : Json :=
  let n := Nat.ofDigitChars 10 digits 0
  if digits.all Char.isDigit && n < identifierCount then .number (.int n)
  else .text (String.ofList digits)

/-- The identifiers that an argument holds: the items of an array, the runs of digits in a text,
nothing in null, and else the argument itself. -/
def ofArgument : Json → List Json
  | .array items => items
  | .text s => (Text.runs Text.isDigit s.toList).map ofDigits
  | .null => []
  | other => [other]

/-- The draft that compares a column with the identifiers in the arguments. -/
def draft (column : String) (args : List Json) : Draft :=
  .map [(column, .list ((args.flatMap ofArgument).map .literal))]

end Elements

end Criteria
