import Criteria.Json.Basic
import Criteria.Text.Split
import Criteria.Text.WordChar

/-!
# References

A name in a draft may refer to a condition: `active`, or with arguments `elems:1,2`. Everything that
is not a word, optionally followed by a colon and arguments, is no reference.
-/

namespace Criteria

/-- A reference to a condition with its arguments. -/
structure Reference where
  name : String
  args : List String
  deriving DecidableEq

namespace Reference

/-- Reads a reference. The arguments stand behind the first colon, with commas between them and no
line break. -/
def parse? (token : String) : Option Reference :=
  let name := token.toList.takeWhile Text.isWord
  if name.isEmpty then none
  else
    match token.toList.dropWhile Text.isWord with
    | [] => some ⟨String.ofList name, []⟩
    | ':' :: args =>
      if args.contains '\n' then none
      else some ⟨String.ofList name, (Text.splitAll (· == ',') args).map String.ofList⟩
    | _ => none

/-- How the arguments of a reference are written behind its name. -/
def argChars : List String → List Char
  | [] => []
  | args => ':' :: [','].intercalate (args.map String.toList)

/-- How a reference is written. -/
def token (r : Reference) : String := String.ofList (r.name.toList ++ argChars r.args)

/-- The arguments as JSON values. -/
def values (r : Reference) : List Json := r.args.map .text

/-- The reference is to a condition on a related table: `with`, a capital, and more. -/
def isRelation (r : Reference) : Bool :=
  match r.name.toList with
  | 'w' :: 'i' :: 't' :: 'h' :: c :: d :: rest => Text.isCapital c && (d :: rest).all Text.isWord
  | _ => false

end Reference

end Criteria
