import Criteria.Json.Basic
import Criteria.Sql.Basic

/-!
# Drafts

A condition as its author writes it, before its names are looked up. A name stands for a condition
if it refers to one, and else for itself: an operator, a column, a fragment of SQL. What stands
under a key of a map is data and is never looked up.
-/

namespace Criteria

/-- A condition before its names are looked up. -/
inductive Draft
  | name (token : String)
  | literal (value : Json)
  | list (items : List Draft)
  | map (entries : List (String × Draft))
  | query (select : Sql.Select)

instance : Inhabited Draft := ⟨.map []⟩

namespace Draft

mutual

/-- The draft that a JSON value is: texts are names, arrays are lists, objects are maps. -/
def ofJson : Json → Draft
  | .text s => name s
  | .array items => list (ofItems items)
  | .object fields => map (ofFields fields)
  | other => literal other

def ofItems : List Json → List Draft
  | [] => []
  | x :: rest => ofJson x :: ofItems rest

def ofFields : List (String × Json) → List (String × Draft)
  | [] => []
  | (key, value) :: rest => (key, ofJson value) :: ofFields rest

end

end Draft

end Criteria
