import Criteria.Config.Basic

/-!
# Writing configurations

The JSON value of a configuration: every field is written, in a fixed order, also those that have
their usual value or none. Models, conditions and relations stand in the order of their names.
-/

namespace Criteria

namespace Sql.Dialect

def label : Dialect → String
  | postgres => "postgres"
  | mysql => "mysql"
  | sqlite => "sqlite"

/-- The dialect of a name. -/
def ofLabel? (name : String) : Option Dialect :=
  [("postgres", postgres), ("mysql", mysql), ("sqlite", sqlite)].lookup name

theorem ofLabel?_label (d : Dialect) : ofLabel? d.label = some d := by
  cases d <;> decide

end Sql.Dialect

namespace Json

/-- A text, or null. -/
def ofText? : Option String → Json
  | some s => text s
  | none => null

/-- An object with the values of a dictionary. -/
def ofDict {α : Type} (f : α → Json) (d : Dict α) : Json :=
  object (d.entries.map fun e => (e.1, f e.2))

end Json

namespace PivotTableConfig

def toJson (t : PivotTableConfig) : Json :=
  .object [("table", .text t.table), ("link", .object t.link)]

end PivotTableConfig

namespace RelationConfig

def toJson (r : RelationConfig) : Json :=
  .object [("model", .text r.model), ("link", .object r.link), ("via", .ofText? r.via),
    ("via_table", match r.viaTable with
      | some t => t.toJson
      | none => .null)]

end RelationConfig

namespace ModelConfig

def toJson (m : ModelConfig) : Json :=
  .object [("table", .text m.table), ("primary_key", .text m.primaryKey),
    ("conditions", .ofDict id m.conditions),
    ("relations", .ofDict RelationConfig.toJson m.relations)]

end ModelConfig

namespace Config

def toJson (c : Config) : Json :=
  .object [
    ("compiler", .object [("backend", .text c.dialect.label),
      ("max_expansion_depth", .number (.int c.maxDepth))]),
    ("models", .ofDict ModelConfig.toJson c.models)]

end Config

end Criteria
