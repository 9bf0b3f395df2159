import Criteria.Call.Basic
import Criteria.Fault
import Criteria.Schema.Basic
import Criteria.Schema.Template

/-!
# Queries

A query over the rows of a model with the filter that they must pass. Every operation gives a new
query. A query also answers for its model: which conditions and relations there are, and, to the
holder of the token, how a condition is defined.
-/

namespace Criteria

/-- A query over the rows of a model. -/
structure Query (κ : Type) where
  schema : Schema κ
  model : Model κ
  filter : Option Sql.Expr

/-- Code that defines conditions: it makes a draft from the arguments for the query that it is asked
of. -/
class Computed (κ : Type) where
  draft : κ → Query κ → List Json → Except Fault Draft

instance : Computed Empty := ⟨fun code => nomatch code⟩

/-- The name of the condition that every model has: its primary key is one of the arguments. -/
def elementsName : String := "elems"

/-- The query over the pivot of a relation, and its links to the model that the relation starts
from. -/
structure PivotQuery (κ : Type) where
  query : Query κ
  links : List Link

/-- A relation as seen from a query: a fresh query over the related model, the links to it, and the
pivot that they start from, if there is one. -/
structure Metadata (κ : Type) where
  target : Query κ
  links : List Link
  pivot : Option (PivotQuery κ)

namespace Schema

variable {κ : Type}

/-- The query over all rows of a model. -/
def query (s : Schema κ) (model : String) : Except Fault (Query κ) :=
  match s.models.get? model with
  | some m => .ok ⟨s, m, none⟩
  | none => .error (.unknownModel model)

/-- The query over all rows of a table that has no model. -/
def tableQuery (s : Schema κ) (table : String) : Query κ := ⟨s, .new table table, none⟩

end Schema

namespace Query

variable {κ : Type}

/-- The token of the model. -/
def token (q : Query κ) : Token := q.model.token

def hasFilter (q : Query κ) : Bool := q.filter.isSome

/-- A column of the table. -/
def column (q : Query κ) (name : String) : String := q.model.table ++ "." ++ name

/-- The SQL query for all columns. -/
def select (q : Query κ) : Sql.Select := .select none q.model.table q.filter

/-- The SQL query for one column, given with or without its table. -/
def selectColumn (q : Query κ) (column : String) : Sql.Select :=
  .select (some (.ofString column)) q.model.table q.filter

def render (q : Query κ) (s : Sql.Select) : String := s.render q.schema.dialect

def toSql (q : Query κ) : String := q.render q.select

/-- The query with an expression added to its filter. Without a filter the connective does not
matter. -/
def addFilter (q : Query κ) (e : Sql.Expr) (connective : Connective) : Query κ :=
  let filter := match q.filter, connective with
    | none, _ => e
    | some current, .and => .and current e
    | some current, .or => .or current e
  { q with filter := some filter }

/-- The query with a condition merged into its filter. -/
def merge (q : Query κ) (c : Condition) (connective : Connective) : Except Fault (Query κ) :=
  match c.compile with
  | .ok (some e) => .ok (q.addFilter e connective)
  | .ok none => .ok q
  | .error cause => .error (.malformed cause)

/-- The query restricted by a fragment of SQL. -/
def restrict (q : Query κ) (fragment : String) : Query κ := q.addFilter (.fragment fragment) .and

/-- There is a condition of this name. -/
def defines (q : Query κ) (name : String) : Bool :=
  q.model.conditions.has name || name == elementsName

/-- The draft that defines a condition, for these arguments. It is given only for the token of the
model. -/
def definition [Computed κ] (q : Query κ) (name : String) (args : List Json) (token : Token) :
    Except Fault Draft :=
  if token = q.token then
    match q.model.conditions.get? name with
    | some (.template draft) => .ok (.ofJson (Template.fill args draft))
    | some (.computed code) => Computed.draft code q args
    | none =>
      if name = elementsName then .ok (Elements.draft (q.column q.model.primaryKey) args)
      else .error (.unresolved name)
  else .error (.wrongToken name)

def hasRelation (q : Query κ) (name : String) : Bool := q.model.relations.has name

/-- What a relation goes through, as a query. -/
def pivotQuery (q : Query κ) (relation : String) : Pivot → Except Fault (PivotQuery κ)
  | .relation via =>
    match q.model.relations.get? via with
    | none => .error (.noPivotLink relation)
    | some r => do
      let query ← q.schema.query r.model
      return ⟨query, r.links⟩
  | .table table links => .ok ⟨q.schema.tableQuery table, links⟩

/-- The relation of this name, if there is one. Its queries start without a filter. -/
def relation? (q : Query κ) (name : String) : Except Fault (Option (Metadata κ)) :=
  match q.model.relations.get? name with
  | none => .ok none
  | some r => do
    let target ← q.schema.query r.model
    match r.pivot with
    | none => return some ⟨target, r.links, none⟩
    | some pivot =>
      let pivot ← q.pivotQuery name pivot
      return some ⟨target, r.links, some pivot⟩

/-- The dump of a query: the name of its model and its text. -/
def dump (q : Query κ) : Dump :=
  .record "ModelQuery" [("model", .text q.model.name), ("sql", .text q.toSql)]

end Query

end Criteria
