import Criteria.Draft
import Criteria.Dump
import Criteria.Sql.Printer

/-!
# Conditions

A condition whose names are all looked up. A map compares columns with values, a list is headed by
an operator, and an operand that stands where a condition should is a fragment of SQL.

Main statements: a condition taken for a draft is that condition again once its entries are read as
data (`data_toDraft`).
-/

namespace Criteria

/-- A condition whose names are all looked up. -/
inductive Condition
  | operand (text : String)
  | value (json : Json)
  | list (items : List Condition)
  | map (entries : List (String × Condition))
  | query (select : Sql.Select)

instance : Inhabited Condition := ⟨.map []⟩

namespace Condition

def empty : Condition := map []

/-- A map, a list or an operand without content, or null. -/
def isEmpty : Condition → Bool
  | map entries => entries.isEmpty
  | list items => items.isEmpty
  | operand text => text.isEmpty
  | value json => json.isNull
  | query _ => false

/-- The condition under the operator `not`. -/
def negated (c : Condition) : Condition := list [operand "not", c]

/-- The condition that a JSON value is by itself: a text is an operand. -/
def ofJson : Json → Condition
  | .text s => operand s
  | other => value other

mutual

/-- The condition taken for a draft. -/
def toDraft : Condition → Draft
  | operand text => .name text
  | value json => .literal json
  | list items => .list (toDrafts items)
  | map entries => .map (toDraftEntries entries)
  | query select => .query select

def toDrafts : List Condition → List Draft
  | [] => []
  | c :: rest => toDraft c :: toDrafts rest

def toDraftEntries : List (String × Condition) → List (String × Draft)
  | [] => []
  | (key, c) :: rest => (key, toDraft c) :: toDraftEntries rest

end

mutual

/-- Equality of conditions: values by `Json.same`, and queries by their text. -/
def same : Condition → Condition → Bool
  | operand s, operand t => s == t
  | value x, value y => x.same y
  | list xs, list ys => sameItems xs ys
  | map xs, map ys => sameEntries xs ys
  | query p, query q => p.render .postgres == q.render .postgres
  | _, _ => false

def sameItems : List Condition → List Condition → Bool
  | [], [] => true
  | x :: xs, y :: ys => same x y && sameItems xs ys
  | _, _ => false

def sameEntries : List (String × Condition) → List (String × Condition) → Bool
  | [], [] => true
  | (k, x) :: xs, (l, y) :: ys => k == l && same x y && sameEntries xs ys
  | _, _ => false

end

mutual

/-- A query stands somewhere in the condition. -/
def hasQuery : Condition → Bool
  | list items => anyHasQuery items
  | map entries => anyEntryHasQuery entries
  | query _ => true
  | _ => false

def anyHasQuery : List Condition → Bool
  | [] => false
  | c :: rest => hasQuery c || anyHasQuery rest

def anyEntryHasQuery : List (String × Condition) → Bool
  | [] => false
  | (_, c) :: rest => hasQuery c || anyEntryHasQuery rest

end

mutual

/-- The dump of a condition; a query is shown by its text. -/
def dump : Condition → Dump
  | operand text => .tuple "Operand" [.text text]
  | value json => .tuple "Value" [json.dump]
  | list items => .tuple "List" [.list "" (dumpItems items)]
  | map entries => .tuple "Map" [.list "" (dumpEntries entries)]
  | query select => .tuple "SubQuery" [.leaf (select.render .postgres)]

def dumpItems : List Condition → List Dump
  | [] => []
  | c :: rest => dump c :: dumpItems rest

def dumpEntries : List (String × Condition) → List Dump
  | [] => []
  | (key, c) :: rest => .pair (.text key) (dump c) :: dumpEntries rest

end

end Condition

namespace Draft

mutual

/-- The condition that a draft is when none of its names is looked up. -/
def data : Draft → Condition
  | name token => .operand token
  | literal value => .value value
  | list items => .list (dataItems items)
  | map entries => .map (dataEntries entries)
  | query select => .query select

def dataItems : List Draft → List Condition
  | [] => []
  | d :: rest => data d :: dataItems rest

def dataEntries : List (String × Draft) → List (String × Condition)
  | [] => []
  | (key, d) :: rest => (key, data d) :: dataEntries rest

end

end Draft

namespace Condition

mutual

/-- Taking a condition for a draft loses nothing. -/
theorem data_toDraft : ∀ c : Condition, c.toDraft.data = c
  | operand _ | value _ | query _ => rfl
  | list items => by simp [toDraft, Draft.data, dataItems_toDrafts items]
  | map entries => by simp [toDraft, Draft.data, dataEntries_toDraftEntries entries]

theorem dataItems_toDrafts : ∀ items : List Condition, Draft.dataItems (toDrafts items) = items
  | [] => rfl
  | c :: rest => by simp [toDrafts, Draft.dataItems, data_toDraft c, dataItems_toDrafts rest]

theorem dataEntries_toDraftEntries :
    ∀ entries : List (String × Condition), Draft.dataEntries (toDraftEntries entries) = entries
  | [] => rfl
  | (_, c) :: rest => by
    simp [toDraftEntries, Draft.dataEntries, data_toDraft c, dataEntries_toDraftEntries rest]

end

end Condition

end Criteria
