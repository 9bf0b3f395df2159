import Criteria.Dict
import Criteria.Dump
import Criteria.Sql.Basic

/-!
# Schemas

Models with their tables, the conditions that they define, and the relations between them. A
condition is defined by a template or by code; what code there is, the type parameter says.
-/

namespace Criteria

/-- The key to the definitions of a model. -/
structure Token where
  holder : String
  deriving DecidableEq

/-- A pair of columns that are equal in related rows: `foreign` belongs to the related table, `own`
to the table that the relation starts from. -/
structure Link where
  foreign : String
  own : String
  deriving DecidableEq

/-- What a relation goes through. -/
inductive Pivot
  /-- The model of another relation of the same model. -/
  | relation (name : String)
  /-- A table without a model of its own; its links name a column of it and one of this model. -/
  | table (table : String) (links : List Link)
  deriving DecidableEq

/-- A relation to another model, directly or through a pivot. -/
structure Relation where
  model : String
  links : List Link
  pivot : Option Pivot
  deriving DecidableEq

/-- The definition of a condition. -/
inductive Definition (κ : Type)
  /-- A JSON draft in which `$0`, `$1`, … stand for the arguments. -/
  | template (draft : Json)
  /-- Code that makes the draft. -/
  | computed (code : κ)

/-- A model: a table with the conditions and the relations of its rows. -/
structure Model (κ : Type) where
  name : String
  table : String
  primaryKey : String
  conditions : Dict (Definition κ)
  relations : Dict Relation
  token : Token

/-- Models, the dialect of their database, and how far references may lead. -/
structure Schema (κ : Type) where
  dialect : Sql.Dialect
  maxDepth : Nat
  models : Dict (Model κ)

/-- How far references may lead unless a schema says otherwise. -/
def defaultMaxDepth : Nat := 32

/-- The primary key unless a model says otherwise. -/
def defaultPrimaryKey : String := "id"

namespace Relation

/-- A direct relation over one pair of columns. -/
def direct (model foreign own : String) : Relation := ⟨model, [⟨foreign, own⟩], none⟩

/-- The relation through the model of another relation. -/
def via (r : Relation) (name : String) : Relation := { r with pivot := some (.relation name) }

/-- The relation through a table, linked by one pair of columns. -/
def viaTable (r : Relation) (table foreign own : String) : Relation :=
  { r with pivot := some (.table table [⟨foreign, own⟩]) }

end Relation

namespace Model

variable {κ : Type}

/-- A model without conditions and relations. It holds a token of its own. -/
def new (name table : String) : Model κ :=
  ⟨name, table, defaultPrimaryKey, .empty, .empty, ⟨name⟩⟩

/-- The model with a condition defined by a template. -/
def template (m : Model κ) (name : String) (draft : Json) : Model κ :=
  { m with conditions := m.conditions.insert name (.template draft) }

/-- The model with a condition defined by code. -/
def computed (m : Model κ) (name : String) (code : κ) : Model κ :=
  { m with conditions := m.conditions.insert name (.computed code) }

/-- The model with a relation. -/
def relation (m : Model κ) (name : String) (r : Relation) : Model κ :=
  { m with relations := m.relations.insert name r }

end Model

namespace Schema

variable {κ : Type}

/-- A schema without models. -/
def new (dialect : Sql.Dialect) (maxDepth : Nat) : Schema κ := ⟨dialect, maxDepth, .empty⟩

/-- The schema with a model. A model of the same name is replaced. -/
def withModel (s : Schema κ) (m : Model κ) : Schema κ :=
  { s with models := s.models.insert m.name m }

def modelNames (s : Schema κ) : List String := s.models.names

end Schema

namespace Link

/-- The dump of a link. -/
def dump (l : Link) : Dump :=
  .record "LinkPair" [("foreign", .text l.foreign), ("local", .text l.own)]

end Link

namespace Relation

def dumpPivot : Option Pivot → Dump
  | none => .leaf "None"
  | some (.relation name) => .tuple "Some" [.tuple "Relation" [.text name]]
  | some (.table table links) =>
    .tuple "Some"
      [.record "Table" [("table", .text table), ("link", .list "" (links.map Link.dump))]]

/-- The dump of a relation. -/
def dump (r : Relation) : Dump :=
  .record "RelationDef" [("model", .text r.model), ("link", .list "" (r.links.map Link.dump)),
    ("pivot", dumpPivot r.pivot)]

end Relation

namespace Model

/-- The dump of a model: its names, the names of its conditions, and its relations. -/
def dump {κ : Type} (m : Model κ) : Dump :=
  .record "ModelDef" [("name", .text m.name), ("table", .text m.table),
    ("primary_key", .text m.primaryKey),
    ("conditions", .list "" (m.conditions.names.map Dump.text)),
    ("relations", .table "" (m.relations.entries.map fun e => (.text e.1, e.2.dump)))]

end Model

end Criteria
