import Criteria.Json.Doc

/-!
# Reading JSON values

The value of a document: it must be whole, its strings must be texts, its numbers must not be too
large, and its containers must not be nested too deeply. A repeated key of an object keeps its first
place and its last value.
-/

namespace Criteria.Json

/-- How deeply the containers of a value may be nested. -/
def maxNesting : Nat := 127

mutual

/-- The value of a document whose containers are nested at most `room` deep. -/
def ofDoc? (room : Nat) : Doc → Option Json
  | .null => some .null
  | .bool b => some (.bool b)
  | .number n => n.number?.map .number
  | .text s => s.map .text
  | .array items whole =>
    match room, whole with
    | room + 1, true => (ofItems? room items).map .array
    | _, _ => none
  | .object fields whole =>
    match room, whole with
    | room + 1, true => (ofFields? room fields).map fun fs => .object (putFields fs)
    | _, _ => none
  | .broken => none

/-- The values of the items. -/
def ofItems? (room : Nat) : List Doc → Option (List Json)
  | [] => some []
  | d :: rest => do
    let x ← ofDoc? room d
    let xs ← ofItems? room rest
    return x :: xs

/-- The keys and values of the fields. -/
def ofFields? (room : Nat) : List (Key × Doc) → Option (List (String × Json))
  | [] => some []
  | (.ok key, d) :: rest => do
    let x ← ofDoc? room d
    let xs ← ofFields? room rest
    return (key, x) :: xs
  | (.error _, _) :: _ => none

end

/-- The values that stand one after another in a text. -/
def readAll? (room : Nat) (s : List Char) : Option (List Json) :=
  match Doc.readAll s with
  | (docs, true) => ofItems? room docs
  | (_, false) => none

/-- The one value that a text holds. -/
def read? (room : Nat) (s : String) : Option Json :=
  match readAll? room s.toList with
  | some [value] => some value
  | _ => none

end Criteria.Json
