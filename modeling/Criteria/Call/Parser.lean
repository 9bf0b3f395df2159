import Criteria.Call.Basic

/-!
# Reading method names

A method name is an opening, a base of two or more word characters, and an ending. The base begins
with an ASCII capital after an opening and with a small ASCII letter without one. Of all readings
the one with an opening comes first, then the one with a negation, then the one with the shortest
base.
-/

namespace Criteria.Call

/-- The shortest run of one or more word characters at the beginning of a text that is followed by
an ending, and what the ending means. -/
def readTail? : List Char → Option (List Char × Option Gate × Bool)
  | [] => none
  | c :: rest =>
    if Text.isWord c then
      match readEnding? rest with
      | some meaning => some ([c], meaning)
      | none => (readTail? rest).map fun (tail, meaning) => (c :: tail, meaning)
    else none

/-- A base whose first character is of a class, and what the ending behind it means. -/
def readBase? (isFirst : Char → Bool) : List Char → Option (List Char × Option Gate × Bool)
  | [] => none
  | c :: rest =>
    if isFirst c then (readTail? rest).map fun (tail, meaning) => (c :: tail, meaning) else none

/-- The call with what was read before, in and behind its base. -/
def make (connective : Connective) (negate : Bool) (base : List Char) (gate : Option Gate)
    (conditionOnly : Bool) : Call :=
  ⟨connective, negate, String.ofList (Text.lowerFirst base), gate, conditionOnly⟩

/-- Reads a text that begins with one of the openings. -/
def readOpened? (s : List Char) : Option Call :=
  openings.findSome? fun (opening, connective, negate) => do
    let rest ← Text.after? opening s
    let (base, gate, only) ← readBase? Text.isCapital rest
    return make connective negate base gate only

/-- Reads a text that begins with its base. -/
def readPlain? (s : List Char) : Option Call := do
  let (base, gate, only) ← readBase? Text.isSmall s
  return make .and false base gate only

/-- The call that a method name asks for; `none` if it is not the name of a condition call. -/
def parse? (method : String) : Option Call :=
  readOpened? method.toList <|> readPlain? method.toList

end Criteria.Call
