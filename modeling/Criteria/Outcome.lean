import Criteria.Schema.Query
import Criteria.Trace

/-!
# Outcomes

What becomes of a condition that was found: it is handed back, perhaps negated, or merged into the
query.
-/

namespace Criteria

/-- The result of a call. -/
inductive Outcome (κ : Type)
  /-- The query with the condition merged in, or as it was if a gate declined. -/
  | query (q : Query κ)
  /-- The condition alone. -/
  | condition (c : Condition)
  /-- The name is no call of a condition that exists. -/
  | notApplicable

/-- What is to be done with a condition. -/
structure Options where
  connective : Connective := .and
  negate : Bool := false
  conditionOnly : Bool := false
  deriving DecidableEq

namespace Query

variable {κ : Type}

/-- Hands a condition back, or merges it into the query. An empty condition leaves the query as it
is. -/
def finish (q : Query κ) (c : Condition) (options : Options) : Traced (Outcome κ) := do
  let c := if options.negate then c.negated else c
  .note (.rendering options.negate options.connective options.conditionOnly)
  if options.conditionOnly then return .condition c
  else if c.isEmpty then return .query q
  else
    let q ← Traced.ofExcept (q.merge c options.connective)
    return .query q

end Query

end Criteria
