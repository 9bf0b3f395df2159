import Criteria.Level

/-!
# Expansion and calls

What can be asked of a query: the condition that a draft is, the outcome of a call of a virtual
method, and the query with a draft merged into its filter. Every compilation begins on the topmost
level.
-/

namespace Criteria

namespace Query

variable {κ : Type} [Computed κ]

/-- The level on which compilations for the query begin. -/
def level (q : Query κ) : Level κ := .atDepth q.schema.maxDepth 0

/-- The condition that a draft is. -/
def expand (q : Query κ) (draft : Draft) : Traced Condition := q.level.expand q draft

/-- Calls a virtual method. -/
def call (q : Query κ) (method : String) (args : List Json) : Traced (Outcome κ) :=
  q.level.call q method args

/-- Expands a draft and hands its condition back, or merges it into the query. -/
def filterWith (q : Query κ) (draft : Draft) (options : Options) : Traced (Outcome κ) := do
  let c ← q.expand draft
  q.finish c options

/-- Expands a draft and merges its condition into the query. -/
def mergeDraft (q : Query κ) (draft : Draft) (connective : Connective) : Traced (Query κ) := do
  let c ← q.expand draft
  Traced.ofExcept (q.merge c connective)

end Query

end Criteria
