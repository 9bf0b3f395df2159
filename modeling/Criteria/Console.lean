import Criteria.Expansion
import Criteria.Json.Reader

/-!
# The console

One line asks one question: a model, a method, and JSON values as its arguments. The answer is the
SQL of the query with the condition, or the condition itself.
-/

namespace Criteria

/-- A line in its parts. -/
structure Command where
  model : String
  method : String
  args : List Json

/-- Why a line has no answer. -/
inductive CommandFault
  | noModel
  | noMethod
  | badArguments
  | badWhere
  | failed (fault : Fault)

namespace CommandFault

def message : CommandFault → String
  | noModel => "missing model"
  | noMethod => "missing method"
  | badArguments => "arguments must be JSON values"
  | badWhere => "\x60where\x60 takes one JSON condition"
  | failed fault => fault.message

/-- The words of the fault show a query. -/
def showsQuery : CommandFault → Bool
  | failed fault => fault.showsQuery
  | _ => false

end CommandFault

namespace Command

/-- What stands before the first blank, and what stands after it; nothing without a blank. -/
def splitBlank (s : List Char) : List Char × Option (List Char) :=
  match s.dropWhile fun c => !Text.isBlank c with
  | [] => (s, none)
  | _ :: rest => (s.takeWhile fun c => !Text.isBlank c, some rest)

/-- Reads a line: the model up to the first blank, the method up to the second one, and the rest as
JSON values. -/
def parse (line : String) : Except CommandFault Command :=
  match splitBlank (Text.trim line.toList) with
  | ([], _) => .error .noModel
  | (_, none) => .error .noMethod
  | (model, some rest) =>
    let (method, rest) := splitBlank rest
    match Json.readAll? Json.maxNesting (rest.getD []) with
    | some args => .ok ⟨String.ofList model, String.ofList method, args⟩
    | none => .error .badArguments

/-- The method that takes a draft instead of a condition name. -/
def whereName : String := "where"

variable {κ : Type} [Computed κ]

/-- The answer to a command. -/
def answer (s : Schema κ) (c : Command) : Except CommandFault String := do
  let q ← (s.query c.model).mapError .failed
  if c.method = whereName then
    match c.args with
    | [raw] =>
      let q ← (q.mergeDraft (.ofJson raw) .and).outcome.mapError .failed
      return q.toSql
    | _ => .error .badWhere
  else
    match ← (q.call c.method c.args).outcome.mapError .failed with
    | .query q => return q.toSql
    | .condition condition => return condition.dump.pretty
    | .notApplicable =>
      return "\x60" ++ c.method ++ "\x60 is not a condition of " ++ q.model.name

/-- The answer to a line. -/
def eval (s : Schema κ) (line : String) : Except CommandFault String := do
  let c ← parse line
  c.answer s

end Command

end Criteria
