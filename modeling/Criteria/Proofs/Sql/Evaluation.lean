import Criteria.Proofs.Sql.Chain
import Criteria.Proofs.Sql.Truth

/-!
# Evaluation of SQL expressions

The truth value of an expression for one row. What lies outside the expression is a parameter: the
values of the columns, the fragments written by hand, the rows of nested queries, and how the
database compares values.
-/

namespace Criteria.Sql

/-- What an expression is evaluated in. A value that is not there is NULL. -/
structure Environment where
  /-- The value of a column. -/
  column : Column → Option Value
  /-- The truth value of a fragment. -/
  fragment : String → Truth
  /-- The values that a query selects, one for each row. -/
  rows : Select → List (Option Value)
  /-- How the database orders two values, if it can compare them. -/
  order : Value → Value → Option Ordering
  /-- A value matches a pattern. -/
  isLike : Value → String → Truth

namespace Environment

variable (env : Environment)

/-- The order of two values passes a test; unknown for NULL and for values that do not compare. -/
def compare (test : Ordering → Bool) (x y : Option Value) : Truth :=
  match x, y with
  | some a, some b =>
    match env.order a b with
    | some o => .ofBool (test o)
    | none => .unknown
  | _, _ => .unknown

/-- A value equals one of some others. -/
def member (x : Option Value) (ys : List (Option Value)) : Truth :=
  .any (ys.map (env.compare Ordering.isEq x))

/-- A value is not less than the first bound and not greater than the second one. -/
def between (x low high : Option Value) : Truth :=
  (env.compare Ordering.isGE x low).and (env.compare Ordering.isLE x high)

/-- A value matches a pattern; unknown for NULL. -/
def like (x : Option Value) (pattern : String) : Truth :=
  match x with
  | some a => env.isLike a pattern
  | none => .unknown

end Environment

/-- The orders of two values between which a comparison holds. -/
def Comparison.test : Comparison → Ordering → Bool
  | eq => Ordering.isEq
  | ne => Ordering.isNe
  | gt => Ordering.isGT
  | lt => Ordering.isLT
  | ge => Ordering.isGE
  | le => Ordering.isLE

namespace Expr

/-- The truth value of a test or of its negated form. -/
def signed (negated : Bool) (t : Truth) : Truth := if negated then t.not else t

/-- The truth value of an expression. -/
def eval (env : Environment) : Expr → Truth
  | constant value => .ofBool value
  | fragment text => env.fragment text
  | isNull column => .ofBool (env.column column).isNone
  | compare comparison column value =>
    env.compare comparison.test (env.column column) (some value)
  | among negated column values =>
    signed negated (env.member (env.column column) (values.map some))
  | within negated column query => signed negated (env.member (env.column column) (env.rows query))
  | between negated column low high =>
    signed negated (env.between (env.column column) (some low) (some high))
  | like negated column pattern => signed negated (env.like (env.column column) pattern)
  | anyRow query => .ofBool !(env.rows query).isEmpty
  | not e => (eval env e).not
  | and left right => (eval env left).and (eval env right)
  | or left right => (eval env left).or (eval env right)

/-- The truth value of an expression when those of its atoms, which are all that is no connective,
are given. -/
def truth (atom : Expr → Truth) : Expr → Truth
  | not e => (truth atom e).not
  | and left right => (truth atom left).and (truth atom right)
  | or left right => (truth atom left).or (truth atom right)
  | e => atom e

variable {env : Environment}

/-- An expression is evaluated by its atoms. -/
theorem truth_eval (e : Expr) : e.truth (eval env) = e.eval env := by
  cases e with
  | not e => rw [truth, eval, truth_eval e]
  | and left right => rw [truth, eval, truth_eval left, truth_eval right]
  | or left right => rw [truth, eval, truth_eval left, truth_eval right]
  | _ => rfl

theorem eval_foldl_and (e : Expr) (es : List Expr) :
    (es.foldl and e).eval env = (es.map (eval env)).foldl Truth.and (e.eval env) :=
  view_foldl (eval env) (fun _ _ => rfl) es e

theorem eval_foldl_or (e : Expr) (es : List Expr) :
    (es.foldl or e).eval env = (es.map (eval env)).foldl Truth.or (e.eval env) :=
  view_foldl (eval env) (fun _ _ => rfl) es e

/-- The conjunction of expressions is the conjunction of their truth values. -/
theorem map_eval_all? (es : List Expr) :
    (all? es).map (eval env) = Truth.all? (es.map (eval env)) := by
  cases es with
  | nil => rfl
  | cons e es =>
    rw [all?, Option.map_some, eval_foldl_and, Truth.foldl_and]
    rfl

/-- The disjunction of expressions is the disjunction of their truth values. -/
theorem map_eval_any? (es : List Expr) :
    (any? es).map (eval env) = Truth.any? (es.map (eval env)) := by
  cases es with
  | nil => rfl
  | cons e es =>
    rw [any?, Option.map_some, eval_foldl_or, Truth.foldl_or]
    rfl

end Expr

end Criteria.Sql
