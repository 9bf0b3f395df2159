import Criteria.Text.Letter
import Criteria.Text.Split
import Criteria.Text.WordChar

/-!
# Condition calls

What the name of a virtual method asks for: `orNotActiveIfCondition` asks for the condition
`active`, negated, combined by `or`, if the first argument is affirmative, and for the condition
alone instead of a query.
-/

namespace Criteria

/-- How a condition is combined with the filter that is there already. -/
inductive Connective
  | and
  | or
  deriving DecidableEq, Inhabited

/-- What the first argument of a call decides. -/
inductive Gate
  /-- The call goes on only if the argument is affirmative. -/
  | ifTrue
  /-- The call goes on if the argument is affirmative, and negated if it is negative. -/
  | basedOn
  deriving DecidableEq

/-- A condition call. The base is the name of the condition with its first letter in lower case. -/
structure Call where
  connective : Connective
  negate : Bool
  base : String
  gate : Option Gate
  conditionOnly : Bool
  deriving DecidableEq

namespace Connective

/-- The connective at the beginning of a method name. -/
def word : Connective → List Char
  | and => ['a', 'n', 'd']
  | or => ['o', 'r']

def label : Connective → String
  | and => "And"
  | or => "Or"

end Connective

namespace Gate

def label : Gate → String
  | ifTrue => "If"
  | basedOn => "BasedOn"

end Gate

/-- The text begins with `with` or `With` and a capital. -/
def startsRelation (s : List Char) : Bool :=
  match s with
  | w :: 'i' :: 't' :: 'h' :: c :: _ => (w == 'w' || w == 'W') && Text.isCapital c
  | _ => false

/-- The name is one of a relation condition: `withAuthor` or `WithAuthor`, but not `without`. -/
def isRelationName (name : String) : Bool := startsRelation name.toList

namespace Call

/-- The call is for a condition on a related table. -/
def isRelation (call : Call) : Bool := isRelationName call.base

/-- What may stand behind the base: a gate, then `Condition`. -/
def ending (gate : Option Gate) (conditionOnly : Bool) : List Char :=
  (match gate with
    | none => []
    | some gate => gate.label.toList) ++
  (if conditionOnly then "Condition".toList else [])

/-- The six endings with what they mean. -/
def endings : List (List Char × Option Gate × Bool) :=
  [none, some .ifTrue, some .basedOn].flatMap fun gate =>
    [false, true].map fun only => (ending gate only, gate, only)

/-- What a whole text means as an ending. -/
def readEnding? (s : List Char) : Option (Option Gate × Bool) := endings.lookup s

/-- What may stand before the base, with the connective and the negation that it means. A negation
is looked for first. -/
def openings : List (List Char × Connective × Bool) :=
  [("andNot".toList, .and, true), ("and".toList, .and, false), ("orNot".toList, .or, true),
    ("or".toList, .or, false), ("not".toList, .and, true)]

/-- The canonical spelling: connective, `Not`, base with a capital, gate, `Condition`. -/
def spelling (call : Call) : String :=
  let base := match call.base.toList with
    | [] => []
    | c :: rest => c.toUpper :: rest
  String.ofList (call.connective.word ++ (if call.negate then "Not".toList else []) ++ base ++
    ending call.gate call.conditionOnly)

end Call

end Criteria
