import Criteria.Call.Admission
import Criteria.Call.Parser
import Criteria.Draft.Resolve
import Criteria.Outcome
import Criteria.Reference
import Criteria.Relation.Binding
import Criteria.Relation.Split

/-!
# Levels

The names of a draft are replaced by what they refer to, again and again, until no reference is
left; calls find their condition and hand it back or merge it into the query.

Definitions may refer to each other in circles. Therefore the operations live on levels: following a
reference, and turning to a related table, goes to the level below, and there are only as many
levels as the schema allows. Below the last one every reference is a fault.
-/

namespace Criteria

/-- The operations of one level. -/
structure Level (κ : Type) where
  /-- The number of levels above. -/
  depth : Nat
  /-- The condition that a draft is for a query. -/
  expand : Query κ → Draft → Traced Condition
  /-- The condition that a query defines under a name, for arguments. -/
  direct : Query κ → String → List Json → Traced (Option Condition)
  /-- The outcome of a call of a method of a query. -/
  call : Query κ → String → List Json → Traced (Outcome κ)

namespace Level

variable {κ : Type} [Computed κ]

/-- The level below, for the sake of a name. -/
def descend (below : Unit → Option (Level κ)) (q : Query κ) (name : String) : Traced (Level κ) :=
  match below () with
  | some level => pure level
  | none => .fail (.tooDeep name q.schema.maxDepth)

/-- What a name in a draft refers to, expanded on the level below. -/
def find (below : Unit → Option (Level κ)) (q : Query κ) (token : String) :
    Traced (Option Condition) :=
  match Reference.parse? token with
  | none => return none
  | some reference =>
    if q.defines reference.name then do
      let level ← descend below q reference.name
      .note (.expandingDirect token level.depth)
      let draft ← Traced.ofExcept (q.definition reference.name reference.values q.token)
      let c ← level.expand q draft
      return some c
    else if reference.isRelation then do
      let level ← descend below q reference.name
      .note (.expandingRelation token level.depth)
      match ← level.call q (reference.name ++ "Condition") reference.values with
      | .condition c => do
        let c ← level.expand q c.toDraft
        return some c
      | .query _ => do
        let c ← level.expand q (.map [])
        return some c
      | .notApplicable => .fail (.unresolved token)
    else return none

/-- A condition of the query itself. -/
def defined (below : Unit → Option (Level κ)) (q : Query κ) (name : String) (args : List Json) :
    Traced (Option Condition) :=
  if q.defines name then do
    let draft ← Traced.ofExcept (q.definition name args q.token)
    let level ← descend below q name
    let c ← level.expand q draft
    return some c
  else return none

/-- Merges the named conditions of a query into it, each with all the arguments. -/
def applyNames (below : Unit → Option (Level κ)) (args : List Json) :
    List String → Query κ → Traced (Query κ)
  | [], q => return q
  | name :: rest, q => do
    let level ← descend below q name
    match ← level.direct q name args with
    | some c => do
      let q ← Traced.ofExcept (q.merge c .and)
      applyNames below args rest q
    | none => applyNames below args rest q

/-- Restricts a related query by the conditions that the residual words name or, without such words,
by the draft that is the first argument. `none` if the words are no conditions. -/
def applyResidual (below : Unit → Option (Level κ)) (q : Query κ) (relation : String)
    (words : List Word) (args : List Json) : Traced (Option (Query κ)) :=
  if words.isEmpty then
    match args with
    | [] => return some q
    | first :: rest => do
      if !rest.isEmpty then .note (.ignoredArguments relation rest.length)
      let level ← descend below q relation
      let c ← level.expand q (.ofJson first)
      let q ← Traced.ofExcept (q.merge c .and)
      return some q
  else
    let grouping := Grouping.ofWords q.defines words
    match grouping.rest with
    | [] => do
      let q ← applyNames below args grouping.names q
      return some q
    | first :: rest => do
      .note (.unmatchedWords (Word.join (first :: rest)) first.start)
      .note (.residualUnknown relation)
      return none

/-- A condition on a related table. -/
def related (below : Unit → Option (Level κ)) (q : Query κ) (base : String) (args : List Json) :
    Traced (Option Condition) :=
  let split := RelationSplit.ofBase q.hasRelation base
  match split.relation with
  | none => do
    .note (.noRelation base)
    return none
  | some relation => do
    match ← Traced.ofExcept (q.relation? relation) with
    | none => return none
    | some metadata => do
      .note (.resolvedRelation relation (split.residual.map (·.text)))
      let binding ← Binding.prepare q relation metadata
      match ← applyResidual below binding.target relation split.residual args with
      | none => return none
      | some target => do
        let c ← Traced.ofExcept { binding with target := target }.condition
        return some c

/-- The condition that the base of a call names. -/
def baseCondition (below : Unit → Option (Level κ)) (q : Query κ) (call : Call) (args : List Json) :
    Traced (Option Condition) :=
  if call.isRelation then related below q call.base args else defined below q call.base args

/-- A call of a method: its gate, its condition, and what is done with it. -/
def dispatch (below : Unit → Option (Level κ)) (q : Query κ) (method : String) (args : List Json) :
    Traced (Outcome κ) :=
  match Call.parse? method with
  | none => do
    .note (.notACall method)
    return .notApplicable
  | some call => do
    .note (.parsedCall method call)
    match Admission.ofGate call.gate args with
    | .declined gate significance => do
      .note (.declined method gate significance)
      return .query q
    | .admitted flip args => do
      match ← baseCondition below q call args with
      | some c => q.finish c ⟨call.connective, call.negate != flip, call.conditionOnly⟩
      | none => do
        .note (.noCondition method call.base)
        return .notApplicable

/-- The level above a level, or above none. -/
def above (below : Unit → Option (Level κ)) (depth : Nat) : Level κ where
  depth := depth
  expand q draft := draft.resolve (find below q)
  direct := defined below
  call := dispatch below

/-- The level with `room` levels below it, of `limit` in all. -/
def ofRoom (limit : Nat) : Nat → Level κ
  | 0 => above (fun _ => none) limit
  | room + 1 => above (fun _ => some (ofRoom limit room)) (limit - (room + 1))

/-- The level at some depth. -/
def atDepth (limit depth : Nat) : Level κ := ofRoom limit (limit - depth)

end Level

end Criteria
