import Criteria.Number.Shortest

/-!
# JSON values

Values with two kinds of numbers, whole ones and doubles, and objects that keep the order of their
keys. `Json.same` is equality of values: a whole number is never equal to a double, doubles are
equal by value, and the order of the keys of an object does not count.
-/

namespace Criteria

/-- A JSON number: a whole one, or a double. -/
inductive Number
  | int (value : Int)
  | real (value : Double)
  deriving DecidableEq

/-- A JSON value. -/
inductive Json
  | null
  | bool (value : Bool)
  | number (value : Number)
  | text (value : String)
  | array (items : List Json)
  | object (fields : List (String × Json))

instance : Inhabited Json := ⟨.null⟩

namespace Number

/-- Equality of values within one kind. -/
def same : Number → Number → Bool
  | int m, int n => m == n
  | real x, real y => x.same y
  | _, _ => false

def isZero : Number → Bool
  | int n => n == 0
  | real x => x.isZero

/-- The number in full, without an exponent. -/
def plain : Number → String
  | int n => toString n
  | real x => x.plain

def json : Number → String
  | int n => toString n
  | real x => x.json

@[simp] theorem same_self (n : Number) : n.same n = true := by
  cases n <;> simp [same]

end Number

/-- Sets the value of a key: in the place of the key if it is there, else at the end. -/
def putField {α : Type} (key : String) (value : α) : List (String × α) → List (String × α)
  | [] => [(key, value)]
  | (k, v) :: rest => if k = key then (key, value) :: rest else (k, v) :: putField key value rest

/-- The fields one after another: a repeated key keeps its first place and its last value. -/
def putFields {α : Type} (fields : List (String × α)) : List (String × α) :=
  fields.foldl (fun done field => putField field.1 field.2 done) []

namespace Json

/-- The value of a key of an object. -/
def field? (key : String) : Json → Option Json
  | object fields => fields.lookup key
  | _ => none

def isNull : Json → Bool
  | null => true
  | _ => false

mutual

/-- Equality of values. -/
def same : Json → Json → Bool
  | null, null => true
  | bool a, bool b => a == b
  | number m, number n => m.same n
  | text s, text t => s == t
  | array xs, array ys => sameItems xs ys
  | object fs, object gs => fs.length == gs.length && sameFields fs gs
  | _, _ => false

def sameItems : List Json → List Json → Bool
  | [], [] => true
  | x :: xs, y :: ys => same x y && sameItems xs ys
  | _, _ => false

/-- Every field of the first list has an equal one of the same key in the second. -/
def sameFields : List (String × Json) → List (String × Json) → Bool
  | [], _ => true
  | (key, value) :: rest, others =>
    (match others.lookup key with
      | some other => same value other
      | none => false) && sameFields rest others

end

end Json

end Criteria
