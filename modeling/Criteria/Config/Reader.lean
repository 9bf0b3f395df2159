import Criteria.Config.Printer
import Criteria.Json.Reader

/-!
# Reading configurations

A configuration is read from a document in the order of its text, so of two faults the earlier one
counts: the text stops being JSON, or it holds something of the wrong shape. Fields with a usual
value may be left out and unknown ones are passed over, but no field may be repeated. The values of
the fields may also stand in an array, in the order of the fields.
-/

namespace Criteria

/-- Why a text is no configuration. -/
inductive ReadFault
  /-- The text is not JSON. -/
  | broken
  /-- The text is JSON of another shape. -/
  | mismatch
  deriving DecidableEq

namespace Json.Token

/-- The fault of a token where something else is expected. A numeral or a string is looked at before
that counts. -/
def misfit : Token → ReadFault
  | .number n => if n.number?.isSome then .mismatch else .broken
  | .null | .bool _ | .text (some _) | .openArray | .openObject => .mismatch
  | .text none | .closeArray | .closeObject | .comma | .colon | .bad => .broken

end Json.Token

namespace Json.Doc

/-- The fault of a document that has the wrong shape: that of its first token. -/
def misfit : Doc → ReadFault
  | .null => Token.null.misfit
  | .bool b => (Token.bool b).misfit
  | .number n => (Token.number n).misfit
  | .text s => (Token.text s).misfit
  | .array _ _ => Token.openArray.misfit
  | .object _ _ => Token.openObject.misfit
  | .broken => Token.bad.misfit

/-- The document may be anything that is JSON. -/
def skip (d : Doc) : Except ReadFault Unit := if d.isWhole then .ok () else .error .broken

def asText : Doc → Except ReadFault String
  | .text (some s) => .ok s
  | d => .error d.misfit

def asNat : Doc → Except ReadFault Nat
  | .number n =>
    match n.number? with
    | some (.int (.ofNat value)) => .ok value
    | some _ => .error .mismatch
    | none => .error .broken
  | d => .error d.misfit

def asJson (room : Nat) (d : Doc) : Except ReadFault Json :=
  match Json.ofDoc? room d with
  | some value => .ok value
  | none => .error .broken

/-- Null, or something of a shape. -/
def asOption {α : Type} (read : Doc → Except ReadFault α) : Doc → Except ReadFault (Option α)
  | .null => .ok none
  | d => do
    let value ← read d
    return some value

/-- The room inside a container. -/
def enter : Nat → Except ReadFault Nat
  | 0 => .error .broken
  | room + 1 => .ok room

/-- The keys and values of fields. -/
def asEntries {α : Type} (read : Doc → Except ReadFault α) :
    List (Key × Doc) → Except ReadFault (List (String × α))
  | [] => .ok []
  | (.error _, _) :: _ => .error .broken
  | (.ok key, d) :: rest => do
    let value ← read d
    let others ← asEntries read rest
    return (key, value) :: others

/-- The keys and values of an object, whose values have the room inside it. -/
def asObject {α : Type} (room : Nat) (read : Nat → Doc → Except ReadFault α) :
    Doc → Except ReadFault (List (String × α))
  | .object fields whole => do
    let room ← enter room
    let entries ← asEntries (read room) fields
    if whole then return entries else .error .broken
  | d => .error d.misfit

/-- An object as a dictionary: of a repeated key the last value counts. -/
def asDict {α : Type} (room : Nat) (read : Nat → Doc → Except ReadFault α) (d : Doc) :
    Except ReadFault (Dict α) := do
  let entries ← d.asObject room read
  return .ofList entries

/-- A field of a record: its name, whether it was read, and how it is read. -/
structure RecordField (σ : Type) where
  name : String
  isSet : σ → Bool
  read : Doc → σ → Except ReadFault σ

/-- The fields of a record by their names. -/
def readFields {σ : Type} (known : List (RecordField σ)) :
    List (Key × Doc) → σ → Except ReadFault σ
  | [], s => .ok s
  | (.error _, _) :: _, _ => .error .broken
  | (.ok key, d) :: rest, s =>
    match known.find? (·.name == key) with
    | some field =>
      if field.isSet s then .error .mismatch
      else do
        let s ← field.read d s
        readFields known rest s
    | none => do
      d.skip
      readFields known rest s

/-- The fields of a record by their positions; nothing may be left. -/
def readItems {σ : Type} : List (RecordField σ) → List Doc → σ → Except ReadFault σ
  | _, [], s => .ok s
  | [], _ :: _, _ => .error .broken
  | field :: known, d :: rest, s => do
    let s ← field.read d s
    readItems known rest s

/-- A record, as an object or as an array; the fields have the room inside it. -/
def asRecord {σ : Type} (room : Nat) (known : Nat → List (RecordField σ)) (s : σ) :
    Doc → Except ReadFault σ
  | .object fields whole => do
    let room ← enter room
    let s ← readFields (known room) fields s
    if whole then return s else .error .broken
  | .array items whole => do
    let room ← enter room
    let s ← readItems (known room) items s
    if whole then return s else .error .broken
  | d => .error d.misfit

/-- The value of a field that must not be left out. -/
def needed {α : Type} : Option α → Except ReadFault α
  | some value => .ok value
  | none => .error .mismatch

end Json.Doc

namespace Sql.Dialect

open Json.Doc (enter)

/-- The dialect of a name, which must be known. -/
def read (name : String) : Except ReadFault Dialect :=
  match ofLabel? name with
  | some d => .ok d
  | none => .error .mismatch

/-- A dialect: its name, or an object with the name as its key and null as the value. No other value
stands where a dialect is expected. -/
def ofDoc (room : Nat) : Json.Doc → Except ReadFault Dialect
  | .text (some name) => read name
  | .object ((.ok name, value) :: rest) whole => do
    let _ ← enter room
    let d ← read name
    match value with
    | .null => if rest.isEmpty && whole then return d else .error .broken
    | value => .error value.misfit
  | .object ((.error token, _) :: _) _ => do
    let _ ← enter room
    .error token.misfit
  | _ => .error .broken

end Sql.Dialect

open Json (Doc)
open Json.Doc

namespace Config

/-- The settings that were read. -/
structure Settings where
  dialect : Option Sql.Dialect := none
  maxDepth : Option Nat := none

def Settings.fields (room : Nat) : List (RecordField Settings) :=
  [{ name := "backend", isSet := (·.dialect.isSome)
     read := fun d s => do
      let dialect ← Sql.Dialect.ofDoc room d
      return { s with dialect := some dialect } },
    { name := "max_expansion_depth", isSet := (·.maxDepth.isSome)
      read := fun d s => do
        let depth ← d.asNat
        return { s with maxDepth := some depth } }]

/-- Settings; those that are left out have their usual values. -/
def Settings.ofDoc (room : Nat) (d : Doc) : Except ReadFault (Sql.Dialect × Nat) := do
  let s ← d.asRecord room Settings.fields {}
  return (s.dialect.getD .postgres, s.maxDepth.getD defaultMaxDepth)

end Config

namespace PivotTableConfig

structure Parts where
  table : Option String := none
  link : Option LinkFields := none

/-- A link: an object with any values. A repeated key keeps its first place and its last value. -/
def linkOfDoc (room : Nat) (d : Doc) : Except ReadFault LinkFields := do
  let entries ← d.asObject room asJson
  return putFields entries

def fields (room : Nat) : List (RecordField Parts) :=
  [{ name := "table", isSet := (·.table.isSome)
     read := fun d s => do
      let table ← d.asText
      return { s with table := some table } },
    { name := "link", isSet := (·.link.isSome)
      read := fun d s => do
        let link ← linkOfDoc room d
        return { s with link := some link } }]

/-- A pivot table. -/
def ofDoc (room : Nat) (d : Doc) : Except ReadFault PivotTableConfig := do
  let s ← d.asRecord room fields {}
  let table ← needed s.table
  let link ← needed s.link
  return ⟨table, link⟩

end PivotTableConfig

namespace RelationConfig

structure Parts where
  model : Option String := none
  link : Option LinkFields := none
  via : Option (Option String) := none
  viaTable : Option (Option PivotTableConfig) := none

def fields (room : Nat) : List (RecordField Parts) :=
  [{ name := "model", isSet := (·.model.isSome)
     read := fun d s => do
      let model ← d.asText
      return { s with model := some model } },
    { name := "link", isSet := (·.link.isSome)
      read := fun d s => do
        let link ← PivotTableConfig.linkOfDoc room d
        return { s with link := some link } },
    { name := "via", isSet := (·.via.isSome)
      read := fun d s => do
        let via ← d.asOption asText
        return { s with via := some via } },
    { name := "via_table", isSet := (·.viaTable.isSome)
      read := fun d s => do
        let table ← d.asOption (PivotTableConfig.ofDoc room)
        return { s with viaTable := some table } }]

/-- A relation. -/
def ofDoc (room : Nat) (d : Doc) : Except ReadFault RelationConfig := do
  let s ← d.asRecord room fields {}
  let model ← needed s.model
  let link ← needed s.link
  return ⟨model, link, s.via.getD none, s.viaTable.getD none⟩

end RelationConfig

namespace ModelConfig

structure Parts where
  table : Option String := none
  primaryKey : Option String := none
  conditions : Option (Dict Json) := none
  relations : Option (Dict RelationConfig) := none

def fields (room : Nat) : List (RecordField Parts) :=
  [{ name := "table", isSet := (·.table.isSome)
     read := fun d s => do
      let table ← d.asText
      return { s with table := some table } },
    { name := "primary_key", isSet := (·.primaryKey.isSome)
      read := fun d s => do
        let key ← d.asText
        return { s with primaryKey := some key } },
    { name := "conditions", isSet := (·.conditions.isSome)
      read := fun d s => do
        let conditions ← d.asDict room asJson
        return { s with conditions := some conditions } },
    { name := "relations", isSet := (·.relations.isSome)
      read := fun d s => do
        let relations ← d.asDict room RelationConfig.ofDoc
        return { s with relations := some relations } }]

/-- A model. -/
def ofDoc (room : Nat) (d : Doc) : Except ReadFault ModelConfig := do
  let s ← d.asRecord room fields {}
  let table ← needed s.table
  return ⟨table, s.primaryKey.getD defaultPrimaryKey, s.conditions.getD .empty,
    s.relations.getD .empty⟩

end ModelConfig

namespace Config

structure Parts where
  settings : Option (Sql.Dialect × Nat) := none
  models : Option (Dict ModelConfig) := none

def fields (room : Nat) : List (RecordField Parts) :=
  [{ name := "compiler", isSet := (·.settings.isSome)
     read := fun d s => do
      let settings ← Settings.ofDoc room d
      return { s with settings := some settings } },
    { name := "models", isSet := (·.models.isSome)
      read := fun d s => do
        let models ← d.asDict room ModelConfig.ofDoc
        return { s with models := some models } }]

/-- A configuration. -/
def ofDoc (room : Nat) (d : Doc) : Except ReadFault Config := do
  let s ← d.asRecord room fields {}
  let models ← needed s.models
  let (dialect, maxDepth) := s.settings.getD (.postgres, defaultMaxDepth)
  return ⟨dialect, maxDepth, models⟩

/-- The configuration that a text holds, and nothing else. -/
def decode (s : String) : Except ReadFault Config :=
  match Doc.readAll s.toList with
  | ([], _) => .error .broken
  | (d :: rest, whole) => do
    let config ← ofDoc Json.maxNesting d
    if rest.isEmpty && whole then return config else .error .broken

end Config

/-- Why a configuration was not loaded. -/
inductive ConfigFault
  /-- There is no such file. -/
  | notFound (path : String)
  /-- The file cannot be read, or is not text. -/
  | unreadable (path : String)
  /-- The text is no configuration. -/
  | unparsed (path : String) (fault : ReadFault)
  /-- The configuration is no schema. -/
  | invalid (flaw : Flaw)

namespace ConfigFault

def message : ConfigFault → String
  | notFound path => "config file not found: " ++ path
  | unreadable path => "cannot read config file " ++ path
  | unparsed path _ => "cannot parse config file " ++ path
  | invalid flaw => "invalid schema: " ++ flaw.message

end ConfigFault

/-- What is found at a path. -/
inductive FileContent
  | nothing
  | directory
  | bytes (content : ByteArray)

namespace Config

/-- Reads a configuration from a text and checks it. The path is the one that faults name. -/
def load (path s : String) : Except ConfigFault Config :=
  match decode s with
  | .error fault => .error (.unparsed path fault)
  | .ok config =>
    match config.check with
    | .error flaw => .error (.invalid flaw)
    | .ok () => .ok config

/-- Reads a configuration from a text that is in no file. -/
def ofString (s : String) : Except ConfigFault Config := load "<inline>" s

/-- Reads a configuration from what is found at a path. -/
def ofFile (path : String) : FileContent → Except ConfigFault Config
  | .nothing => .error (.notFound path)
  | .directory => .error (.unreadable path)
  | .bytes content =>
    match String.fromUTF8? content with
    | some s => load path s
    | none => .error (.unreadable path)

end Config

namespace Schema

/-- The schema of a configuration that was read. -/
def ofLoaded {κ : Type} (config : Except ConfigFault Config) : Except ConfigFault (Schema κ) :=
  match config with
  | .error fault => .error fault
  | .ok config =>
    match Schema.ofConfig config with
    | .error flaw => .error (.invalid flaw)
    | .ok s => .ok s

end Schema

end Criteria
