import Criteria.Json.Printer
import Criteria.Schema.Basic

/-!
# Configurations

A schema as it is written in a file: all its conditions are templates, and the links of relations
are objects that may still hold anything. `Config.check` finds what keeps a configuration from being
a schema, and `Schema.ofConfig` makes the schema.
-/

namespace Criteria

/-- A link as it is written: foreign columns with the columns they are linked to. -/
abbrev LinkFields := List (String × Json)

/-- A pivot table as it is written. -/
structure PivotTableConfig where
  table : String
  link : LinkFields

/-- A relation as it is written. -/
structure RelationConfig where
  model : String
  link : LinkFields
  via : Option String
  viaTable : Option PivotTableConfig

/-- A model as it is written. -/
structure ModelConfig where
  table : String
  primaryKey : String
  conditions : Dict Json
  relations : Dict RelationConfig

/-- A configuration. -/
structure Config where
  dialect : Sql.Dialect
  maxDepth : Nat
  models : Dict ModelConfig

/-- What keeps a configuration from being a schema. The context names the model and the relation. -/
inductive Flaw
  | unknownModel (context model : String)
  | twoPivots (context : String)
  | unknownPivot (context relation : String)
  | badLink (context column : String) (found : Json)

namespace Flaw

def message : Flaw → String
  | unknownModel context model =>
    context ++ " refers to unknown model \x60" ++ model ++ "\x60"
  | twoPivots context => context ++ " declares both \x60via\x60 and \x60via_table\x60"
  | unknownPivot context relation =>
    context ++ " goes via unknown relation \x60" ++ relation ++ "\x60"
  | badLink context column found =>
    context ++ ": link column for \x60" ++ column ++ "\x60 must be a string, found " ++
      found.compact

end Flaw

/-- The pairs of columns of a link, in the order in which they are written. -/
def linkPairs (context : String) : LinkFields → Except Flaw (List Link)
  | [] => .ok []
  | (foreign, .text own) :: rest => do
    let links ← linkPairs context rest
    return ⟨foreign, own⟩ :: links
  | (foreign, other) :: _ => .error (.badLink context foreign other)

namespace Config

/-- How a relation is named in a message. -/
def context (model relation : String) : String := model ++ "." ++ relation

/-- The first flaw of a relation. -/
def checkRelation (config : Config) (name : String) (model : ModelConfig) (relation : String)
    (r : RelationConfig) : Except Flaw Unit := do
  let context := context name relation
  if !config.models.has r.model then .error (.unknownModel context r.model)
  if r.via.isSome && r.viaTable.isSome then .error (.twoPivots context)
  match r.via with
  | some via => if !model.relations.has via then .error (.unknownPivot context via)
  | none => pure ()
  let _ ← linkPairs context r.link
  match r.viaTable with
  | some table => do
    let _ ← linkPairs context table.link
  | none => pure ()

/-- The first flaw: models and their relations are looked at in the order of their names. -/
def check (config : Config) : Except Flaw Unit :=
  config.models.entries.forM fun (name, model) =>
    model.relations.entries.forM fun (relation, r) => config.checkRelation name model relation r

end Config

namespace Relation

/-- The relation that a configuration describes. -/
def ofConfig (context : String) (r : RelationConfig) : Except Flaw Relation := do
  let pivot ← match r.via, r.viaTable with
    | some via, _ => pure (some (.relation via))
    | none, some table => do
      let links ← linkPairs context table.link
      pure (some (.table table.table links))
    | none, none => pure none
  let links ← linkPairs context r.link
  return ⟨r.model, links, pivot⟩

end Relation

namespace Model

variable {κ : Type}

/-- The model with the relations that a configuration describes. -/
def withRelations (m : Model κ) :
    List (String × RelationConfig) → Except Flaw (Model κ)
  | [] => .ok m
  | (name, r) :: rest => do
    let relation ← Relation.ofConfig (Config.context m.name name) r
    withRelations (m.relation name relation) rest

/-- The model that a configuration describes. -/
def ofConfig (name : String) (c : ModelConfig) : Except Flaw (Model κ) :=
  let bare : Model κ := { Model.new name c.table with primaryKey := c.primaryKey }
  (c.conditions.entries.foldl (fun m e => m.template e.1 e.2) bare).withRelations
    c.relations.entries

end Model

namespace Schema

variable {κ : Type}

/-- The schema with the models that a configuration describes. -/
def withModels (s : Schema κ) : List (String × ModelConfig) → Except Flaw (Schema κ)
  | [] => .ok s
  | (name, c) :: rest => do
    let m ← Model.ofConfig name c
    withModels (s.withModel m) rest

/-- The schema that a configuration describes. -/
def ofConfig (config : Config) : Except Flaw (Schema κ) :=
  (Schema.new config.dialect config.maxDepth).withModels config.models.entries

end Schema

end Criteria
