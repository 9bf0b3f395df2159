import Criteria.Condition
import Criteria.Json.Printer
import Criteria.Text.Letter

/-!
# Compiling conditions

The SQL expression of a condition. An empty condition has none, and connectives pass over such
operands. Whatever is not of the language of conditions is malformed, and the reason says in what
way.
-/

namespace Criteria

/-- What an operator takes. -/
inductive Shape
  | columnAndList
  | columnAndBounds
  | columnAndPattern
  | oneQuery
  | columnAndValue
  deriving DecidableEq

/-- The reason for which a condition has no SQL. -/
inductive Malformed
  /-- A list begins with something else than an operator. -/
  | headless
  /-- A value that is neither null nor a truth value stands for a condition. -/
  | notACondition (value : Json)
  /-- A query stands for a condition. -/
  | bareQuery
  /-- A map stands under a column. -/
  | nestedMap (column : String)
  /-- The operator `not` has no operand or several. -/
  | notOne
  /-- The operands of the operator are not what it takes. -/
  | operands (operator : String) (shape : Shape)
  /-- There is no such operator. -/
  | unknownOperator (operator : String)
  /-- Something else stands where a name should. -/
  | expectedName (found : Condition)
  /-- Something else stands where a scalar should. -/
  | expectedScalar (found : Condition)
  /-- An array, an object or null stands where a scalar should. -/
  | notAScalar (value : Json)
  /-- A computed condition gives this reason. -/
  | refused (reason : String)

namespace Shape

def describe : Shape → String
  | columnAndList => "a column and a value list"
  | columnAndBounds => "a column and two bounds"
  | columnAndPattern => "a column and a pattern"
  | oneQuery => "a single sub-query"
  | columnAndValue => "a column and a value"

end Shape

namespace Malformed

def message : Malformed → String
  | headless => "operator condition must start with an operator"
  | notACondition value => value.compact ++ " is not a condition"
  | bareQuery => "a sub-query needs a column to compare with"
  | nestedMap column => "nested hash condition under \x60" ++ column ++ "\x60"
  | notOne => "\x60not\x60 takes exactly one operand"
  | operands operator shape => "\x60" ++ operator ++ "\x60 takes " ++ shape.describe
  | unknownOperator operator => "unknown operator \x60" ++ operator ++ "\x60"
  | expectedName found => "expected a name, found " ++ found.dump.inline
  | expectedScalar found => "expected a scalar value, found " ++ found.dump.inline
  | notAScalar value => value.compact ++ " is not a scalar"
  | refused reason => reason

/-- The words of the reason show a query. -/
def showsQuery : Malformed → Bool
  | expectedName found | expectedScalar found => found.hasQuery
  | _ => false

end Malformed

namespace Condition

/-- An operator that can head a list. -/
inductive Operator
  | and
  | or
  | not
  | among (negated : Bool)
  | between (negated : Bool)
  | like (negated : Bool)
  | anyRow (negated : Bool)
  | compare (comparison : Sql.Comparison)
  deriving DecidableEq

def operators : List (String × Operator) :=
  [("and", .and), ("or", .or), ("not", .not),
    ("in", .among false), ("not in", .among true),
    ("between", .between false), ("not between", .between true),
    ("like", .like false), ("not like", .like true),
    ("exists", .anyRow false), ("not exists", .anyRow true),
    ("=", .compare .eq), ("!=", .compare .ne), ("<>", .compare .ne),
    (">", .compare .gt), ("<", .compare .lt), (">=", .compare .ge), ("<=", .compare .le)]

/-- The text in small letters, in which the operators are named. -/
def lowered (text : String) : String := String.ofList (Text.lower text.toList)

/-- A text of ASCII is lowered as such. -/
theorem lowered_of_ascii {text : String} (h : ∀ c ∈ text.toList, c.toNat < 0x80) :
    lowered text = text.toLower := by
  rw [lowered, Text.lower_of_ascii h, ← Text.toList_toLower, String.ofList_toList]

/-- Operators may be written in small letters, in capitals or in both. -/
theorem lookup_lowered {name text : String} {operator : Operator}
    (hoperator : (name, operator) ∈ operators) (hcase : text.toLower = name) :
    lowered text = name ∧ operators.lookup (lowered text) = some operator := by
  have hnames : ∀ entry ∈ operators, operators.lookup entry.1 = some entry.2 ∧
      entry.1.toList.all (fun c => c.toNat < 0x80) = true := by decide
  obtain ⟨hlookup, hascii⟩ := hnames _ hoperator
  have htext : ∀ c ∈ text.toList, c.toNat < 0x80 := by
    intro c hc
    by_cases hsmall : c.toNat ≤ 0x5A
    · omega
    · -- whatever is no capital of ASCII stands in the name itself
      have hself := Text.toLower_eq_self (.inr (Nat.lt_of_not_le hsmall))
      have hmem : c.toLower ∈ name.toList := by
        rw [← hcase, Text.toList_toLower]
        exact List.mem_map_of_mem hc
      rw [hself] at hmem
      exact of_decide_eq_true (List.all_eq_true.1 hascii c hmem)
  have hlowered : lowered text = name := (lowered_of_ascii htext).trans hcase
  rw [hlowered]
  exact ⟨rfl, hlookup⟩

-- beyond ASCII the sign for kelvin has the small letter k
example : lowered "Not LIKE" = "not like" ∧ lowered "LI\u212AE" = "like" := by decide +kernel

/-- The bound value of a JSON scalar. -/
def valueOfJson : Json → Except Malformed Sql.Value
  | .bool b => .ok (.bool b)
  | .text s => .ok (.text s)
  | .number (.int n) => .ok (.int n)
  | .number (.real x) => .ok (.real x)
  | other => .error (.notAScalar other)

/-- The bound value of a scalar: an operand is a text. -/
def scalar : Condition → Except Malformed Sql.Value
  | operand text => .ok (.text text)
  | value json => valueOfJson json
  | other => .error (.expectedScalar other)

def scalars : List Condition → Except Malformed (List Sql.Value)
  | [] => .ok []
  | c :: rest => do
    let v ← c.scalar
    let vs ← scalars rest
    return v :: vs

def nameOf : Condition → Except Malformed String
  | operand text => .ok text
  | other => .error (.expectedName other)

def columnOf (c : Condition) : Except Malformed Sql.Column := do
  let name ← c.nameOf
  return .ofString name

/-- The values of a list, or the one value of a scalar. -/
def valuesOf : Condition → Except Malformed (List Sql.Value)
  | list items => scalars items
  | other => do
    let v ← other.scalar
    return [v]

/-- An entry of a map: null is looked for as such, a list is membership, of which the empty list has
none, a query is membership, and any other scalar is equality. -/
def compileEntry (column : String) : Condition → Except Malformed Sql.Expr
  | value .null => .ok (.isNull (.ofString column))
  | list [] => .ok (.constant false)
  | list items => do
    let values ← scalars items
    return .among false (.ofString column) values
  | query select => .ok (.within false (.ofString column) select)
  | map _ => .error (.nestedMap column)
  | other => do
    let v ← other.scalar
    return .compare .eq (.ofString column) v

/-- The entries of a map, each by itself. -/
def compileEntries : List (String × Condition) → Except Malformed (List Sql.Expr)
  | [] => .ok []
  | (column, c) :: rest => do
    let e ← compileEntry column c
    let es ← compileEntries rest
    return e :: es

/-- A test of a column: every operator but the connectives. The name is the one that a message calls
the operator by. -/
def compileTest (name : String) : Operator → List Condition → Except Malformed Sql.Expr
  | .among negated, [column, values] => do
    let column ← columnOf column
    match values with
    | query select => return .within negated column select
    | values => return .among negated column (← valuesOf values)
  | .among _, _ => .error (.operands name .columnAndList)
  | .between negated, [column, low, high] => do
    let column ← columnOf column
    let low ← low.scalar
    let high ← high.scalar
    return .between negated column low high
  | .between _, _ => .error (.operands name .columnAndBounds)
  | .like negated, [column, pattern] => do
    let column ← columnOf column
    let pattern ← pattern.nameOf
    return .like negated column pattern
  | .like _, _ => .error (.operands name .columnAndPattern)
  | .anyRow false, [query select] => .ok (.anyRow select)
  | .anyRow true, [query select] => .ok (.not (.anyRow select))
  | .anyRow _, _ => .error (.operands name .oneQuery)
  | .compare comparison, [column, other] => do
    let column ← columnOf column
    let v ← other.scalar
    return .compare comparison column v
  | .compare _, _ => .error (.operands name .columnAndValue)
  | .and, _ | .or, _ | .not, _ => .error (.unknownOperator name)

mutual

/-- The expression of a condition; an empty condition has none. -/
def compile : Condition → Except Malformed (Option Sql.Expr)
  | map entries => do
    let es ← compileEntries entries
    return Sql.Expr.all? es
  | list [] => .ok none
  | list (operand op :: operands) =>
    let name := lowered op
    match operators.lookup name with
    | none => .error (.unknownOperator name)
    | some .and => do
      let es ← compileAll operands
      return Sql.Expr.all? es
    | some .or => do
      let es ← compileAll operands
      return Sql.Expr.any? es
    | some .not =>
      match operands with
      | [inner] => do
        let e ← compile inner
        return e.map .not
      | _ => .error .notOne
    | some operator => do
      let e ← compileTest name operator operands
      return some e
  | list _ => .error .headless
  | operand text => .ok (if (Text.trim text.toList).isEmpty then none else some (.fragment text))
  | value .null => .ok none
  | value (.bool b) => .ok (some (.constant b))
  | value other => .error (.notACondition other)
  | query _ => .error .bareQuery

/-- The expressions of those conditions that have one. -/
def compileAll : List Condition → Except Malformed (List Sql.Expr)
  | [] => .ok []
  | c :: rest => do
    let e ← compile c
    let es ← compileAll rest
    return e.toList ++ es

end

end Condition

end Criteria
