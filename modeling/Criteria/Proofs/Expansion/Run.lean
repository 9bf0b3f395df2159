import Criteria.Proofs.Level

/-!
# Expansion without levels

The operations of a query once more, as functions that call each other as often as they like: each
is handed the depth it is at, a number of 64 bits, and nothing but the check of that number against
the limit of the schema keeps them from going on for ever. They keep a log of the depths they go
through. That they do return, and what, is shown in `Criteria.Proofs.Expansion.Termination`.
-/

namespace Criteria

/-- What a run goes through. -/
inductive Visit
  /-- A draft is expanded at a depth. -/
  | step (depth : Nat)
  /-- An operation of a query begins at a depth. -/
  | handler (depth : Nat)
  /-- A definition that is found at one depth is expanded at another. -/
  | definition (depth deeper : Nat)
  /-- Operations of a related query begin at another depth. -/
  | nested (depth deeper : Nat)

/-- The events of a run and what it goes through. -/
structure Log where
  events : List Event
  visits : List Visit

/-- A computation that writes to a log and gives a result or fails, if it returns at all. -/
abbrev Run (α : Type) := ExceptT Fault (StateT Log Option) α

namespace Run

variable {α κ : Type}

/-- Writes down what the run goes through. -/
def visit (v : Visit) : Run Unit :=
  ExceptT.mk fun log => some (.ok (), { log with visits := log.visits ++ [v] })

/-- Does what cannot but return. -/
def lift (x : Traced α) : Run α :=
  ExceptT.mk fun log => some (x.outcome, { log with events := log.events ++ x.events })

/-- Does not return. -/
def stuck : Run α := ExceptT.mk fun _ => none

/-- Depths are below this. -/
def depthCount : Nat := Nat.pow 2 64

/-- The next depth. The number must not overflow. -/
def descend (q : Query κ) (name : String) (depth : Nat) : Run Nat :=
  if q.schema.maxDepth ≤ depth then lift (.fail (.tooDeep name q.schema.maxDepth))
  else if depth + 1 < depthCount then return depth + 1
  else stuck

end Run

namespace Query

open Run (visit lift descend)

variable {κ : Type} [Computed κ]

-- The functions call each other by `|>.`, which keeps the positions of the calls out of the terms.
mutual

/-- The condition that a draft is. -/
def expandFrom (q : Query κ) (depth : Nat) (d : Draft) : Run Condition := do
  visit (.step depth)
  match d with
  | .list items => do
    let cs ← q |>.expandItemsFrom depth items
    return .list cs
  | .map entries => return .map (Draft.dataEntries entries)
  | .literal value => return .value value
  | .query select => return .query select
  | .name token => do
    match ← q |>.expandNameFrom depth token with
    | some (draft, deeper) => do
      visit (.definition depth deeper)
      q |>.expandFrom deeper draft
    | none => return .operand token
partial_fixpoint

/-- The conditions that the items of a list are. -/
def expandItemsFrom (q : Query κ) (depth : Nat) (items : List Draft) : Run (List Condition) :=
  match items with
  | [] => return []
  | d :: rest => do
    let c ← q |>.expandFrom depth d
    let cs ← q |>.expandItemsFrom depth rest
    return c :: cs
partial_fixpoint

/-- The draft that a name stands for, if it refers to something, and the depth of it. -/
def expandNameFrom (q : Query κ) (depth : Nat) (token : String) : Run (Option (Draft × Nat)) :=
  match Reference.parse? token with
  | none => return none
  | some reference =>
    if q.defines reference.name then do
      let deeper ← descend q reference.name depth
      lift (.note (.expandingDirect token deeper))
      let draft ← lift (.ofExcept (q.definition reference.name reference.values q.token))
      return some (draft, deeper)
    else if reference.isRelation then do
      let deeper ← descend q reference.name depth
      lift (.note (.expandingRelation token deeper))
      let outcome ← q |>.callFrom deeper (reference.name ++ "Condition") reference.values
      let draft ← lift (outcome.draft token)
      return some (draft, deeper)
    else return none
partial_fixpoint

/-- The outcome of a call of a method. -/
def callFrom (q : Query κ) (depth : Nat) (method : String) (args : List Json) :
    Run (Outcome κ) := do
  visit (.handler depth)
  match Call.parse? method with
  | none => do
    lift (.note (.notACall method))
    return .notApplicable
  | some call => do
    lift (.note (.parsedCall method call))
    match Admission.ofGate call.gate args with
    | .declined gate significance => do
      lift (.note (.declined method gate significance))
      return .query q
    | .admitted flip args => do
      match ← q |>.baseConditionFrom depth call args with
      | some c => lift (q.finish c ⟨call.connective, call.negate != flip, call.conditionOnly⟩)
      | none => do
        lift (.note (.noCondition method call.base))
        return .notApplicable
partial_fixpoint

/-- The condition that the base of a call names. -/
def baseConditionFrom (q : Query κ) (depth : Nat) (call : Call) (args : List Json) :
    Run (Option Condition) :=
  if call.isRelation then q |>.relationConditionFrom depth call.base args
  else q |>.directConditionFrom depth call.base args
partial_fixpoint

/-- A condition of the query itself. -/
def directConditionFrom (q : Query κ) (depth : Nat) (name : String) (args : List Json) :
    Run (Option Condition) :=
  if q.defines name then do
    let draft ← lift (.ofExcept (q.definition name args q.token))
    let deeper ← descend q name depth
    visit (.definition depth deeper)
    let c ← q |>.expandFrom deeper draft
    return some c
  else return none
partial_fixpoint

/-- A condition on a related table. -/
def relationConditionFrom (q : Query κ) (depth : Nat) (base : String) (args : List Json) :
    Run (Option Condition) :=
  let split := RelationSplit.ofBase q.hasRelation base
  match split.relation with
  | none => do
    lift (.note (.noRelation base))
    return none
  | some relation => do
    match ← lift (.ofExcept (q.relation? relation)) with
    | none => return none
    | some metadata => do
      lift (.note (.resolvedRelation relation (split.residual.map (·.text))))
      let binding ← lift (Binding.prepare q relation metadata)
      match ← q |>.applyConditionsFrom depth binding.target relation split.residual args with
      | none => return none
      | some target => do
        let c ← lift (.ofExcept { binding with target := target }.condition)
        return some c
partial_fixpoint

/-- The related query restricted by the conditions that the residual words name or, without such
words, by the draft that is the first argument. -/
def applyConditionsFrom (q : Query κ) (depth : Nat) (target : Query κ) (relation : String)
    (words : List Word) (args : List Json) : Run (Option (Query κ)) :=
  if words.isEmpty then
    match args with
    | [] => return some target
    | first :: rest => do
      lift (if !rest.isEmpty then .note (.ignoredArguments relation rest.length) else pure ())
      let deeper ← descend q relation depth
      visit (.nested depth deeper)
      let target ← target |>.mergeDraftFrom deeper (.ofJson first) .and
      return some target
  else
    let grouping := Grouping.ofWords target.defines words
    match grouping.rest with
    | [] => do
      let target ← q |>.applyNamesFrom depth args grouping.names target
      return some target
    | first :: rest => do
      lift (.note (.unmatchedWords (Word.join (first :: rest)) first.start))
      lift (.note (.residualUnknown relation))
      return none
partial_fixpoint

/-- The related query with its named conditions merged into it. -/
def applyNamesFrom (q : Query κ) (depth : Nat) (args : List Json) (names : List String)
    (target : Query κ) : Run (Query κ) :=
  match names with
  | [] => return target
  | name :: rest => do
    let deeper ← descend q name depth
    visit (.nested depth deeper)
    match ← target |>.directConditionFrom deeper name args with
    | some c => do
      let target ← lift (.ofExcept (target.merge c .and))
      q |>.applyNamesFrom depth args rest target
    | none => q |>.applyNamesFrom depth args rest target
partial_fixpoint

/-- The query with a draft merged into its filter. -/
def mergeDraftFrom (q : Query κ) (depth : Nat) (draft : Draft) (connective : Connective) :
    Run (Query κ) := do
  visit (.handler depth)
  let c ← q |>.expandFrom depth draft
  lift (.ofExcept (q.merge c connective))
partial_fixpoint

end

end Query

namespace Run

variable {κ : Type} [Computed κ]

/-- A draft expanded by a handler at some depth. -/
def expand (q : Query κ) (depth : Nat) (d : Draft) : Run Condition := q.expandFrom depth d

/-- A method called by a handler at some depth. -/
def call (q : Query κ) (depth : Nat) (method : String) (args : List Json) : Run (Outcome κ) :=
  q.callFrom depth method args

/-- A draft merged into the filter of the query by a handler at some depth. -/
def mergeDraft (q : Query κ) (depth : Nat) (draft : Draft) (connective : Connective) :
    Run (Query κ) :=
  q.mergeDraftFrom depth draft connective

/-- A draft expanded and handed back, or merged into the query. -/
def filterWith (q : Query κ) (depth : Nat) (draft : Draft) (options : Options) :
    Run (Outcome κ) := do
  visit (.handler depth)
  let c ← expand q depth draft
  lift (q.finish c options)

end Run

end Criteria
