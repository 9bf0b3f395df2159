import Criteria.Word

/-!
# Relation names and residual words

The words of a relation condition after `with` begin with the name of a relation; the words that are
left name conditions of the related model, one after another. Both are read greedily from the left:
the shortest beginning that is a relation, and the shortest groups of words that are conditions.
-/

namespace Criteria

/-- A relation named by words, and the words after it. -/
structure RelationSplit where
  relation : Option String
  residual : List Word
  deriving DecidableEq

namespace RelationSplit

/-- What follows the first `count` bytes; nothing if they end inside a character. -/
def dropBytes : Nat → List Char → List Char
  | 0, s => s
  | _ + 1, [] => []
  | count + 1, c :: rest =>
    if c.utf8Size ≤ count + 1 then dropBytes (count + 1 - c.utf8Size) rest else []

/-- The shortest beginning of `before ++ words`, longer than `before`, that names a relation. -/
def search (isRelation : String → Bool) (before : List Word) : List Word → RelationSplit
  | [] => ⟨none, []⟩
  | w :: rest =>
    let candidate := Word.name (before ++ [w])
    if isRelation candidate then ⟨some candidate, rest⟩
    else search isRelation (before ++ [w]) rest

/-- The relation that a base name begins with after `with`, and the words behind it. -/
def ofBase (isRelation : String → Bool) (base : String) : RelationSplit :=
  search isRelation [] (Word.splitChars (dropBytes 4 base.toList))

end RelationSplit

/-- Words taken in groups: the condition names of the groups, and the words after the last one. -/
structure Grouping where
  names : List String
  rest : List Word
  deriving DecidableEq

namespace Grouping

/-- Takes words into groups that name conditions. A group ends as soon as it does; `pending` is the
group that is not complete yet. -/
def collect (isCondition : String → Bool) (pending : List Word) : List Word → Grouping
  | [] => ⟨[], pending⟩
  | w :: rest =>
    let group := pending ++ [w]
    if isCondition (Word.name group) then
      let others := collect isCondition [] rest
      ⟨Word.name group :: others.names, others.rest⟩
    else collect isCondition group rest

/-- The conditions that words name. -/
def ofWords (isCondition : String → Bool) (words : List Word) : Grouping :=
  collect isCondition [] words

/-- The conditions, if every word belongs to one. -/
def names? (g : Grouping) : Option (List String) := if g.rest.isEmpty then some g.names else none

end Grouping

end Criteria
