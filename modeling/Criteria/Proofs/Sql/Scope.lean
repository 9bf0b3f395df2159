import Criteria.Proofs.Sql.Evaluation
import Mathlib.Data.List.ReduceOption

/-!
# Nested queries

A query inside an expression is run once for each row of the queries around it, whose columns it can
name. A column with a table belongs to the nearest query over that table, so that a query over the
same table hides the ones around it; a column without a table belongs to the nearest query whose
table has it.

Main statements: which query a column belongs to does not depend on queries over other tables that
are nested deeper (`Database.column_cons_of_ne`); a column is among the values of a nested query if
it equals the one of a row that passes its filters (`Database.within_eq_yes_iff`). Evaluation among
rows is evaluation in the environment that they are (`Database.eval_environment`).
-/

namespace Criteria.Sql

/-- The values of the columns of a row. A value that is not there is NULL. -/
abbrev Row := String → Option Value

/-- The rows that are looked at when a nested query is run, each with its table, the innermost
first. -/
abbrev Scope := List (String × Row)

/-- What queries are run on. -/
structure Database where
  /-- The rows of a table. -/
  rows : String → List Row
  /-- A table has a column of this name. -/
  hasColumn : String → String → Bool
  /-- The truth value of a fragment among rows. -/
  fragment : Scope → String → Truth
  /-- The order of two values, if they can be compared. -/
  order : Value → Value → Option Ordering
  /-- A value matches a pattern. -/
  isLike : Value → String → Truth

namespace Database

variable (db : Database)

/-- The column may belong to a query over the table. -/
def owns (column : Column) (table : String) : Bool :=
  match column.table with
  | some name => name == table
  | none => db.hasColumn table column.name

/-- The query that a column belongs to, counted from the innermost one; `tables` are those of the
queries. -/
def owner (tables : List String) (column : Column) : Option Nat := tables.findIdx? (db.owns column)

/-- The value of a column among rows. -/
def column (scope : Scope) (column : Column) : Option Value := do
  let i ← db.owner (scope.map Prod.fst) column
  let frame ← scope[i]?
  frame.2 column.name

/-- The environment that rows are, for expressions without nested queries. -/
def surroundings (scope : Scope) : Environment where
  column := db.column scope
  fragment := db.fragment scope
  rows _ := []
  order := db.order
  isLike := db.isLike

end Database

mutual

/-- The truth value of an expression among rows. -/
def Expr.evalIn (db : Database) (scope : Scope) : Expr → Truth
  | .within negated column query =>
    Expr.signed negated ((db.surroundings scope).member (db.column scope column)
      (query.valuesIn db scope))
  | .anyRow query => .ofBool !(query.valuesIn db scope).isEmpty
  | .not e => (e.evalIn db scope).not
  | .and a b => (a.evalIn db scope).and (b.evalIn db scope)
  | .or a b => (a.evalIn db scope).or (b.evalIn db scope)
  | e => e.eval (db.surroundings scope)

/-- The values that a query selects among rows, one for each row that passes its filter. -/
def Select.valuesIn (db : Database) (scope : Scope) : Select → List (Option Value)
  | .select column table filter =>
    ((db.rows table).filter fun row => passesIn db ((table, row) :: scope) filter).map
      fun row => column.bind (db.column ((table, row) :: scope))

/-- The innermost row passes a filter. -/
def passesIn (db : Database) (scope : Scope) : Option Expr → Bool
  | none => true
  | some e => e.evalIn db scope = .yes

end

mutual

/-- The fragments in an expression, each with the tables of the queries around it; `tables` are
those of the queries around the expression, the innermost first. -/
def Expr.fragmentsIn (tables : List String) : Expr → List (List String × String)
  | .fragment text => [(tables, text)]
  | .within _ _ query | .anyRow query => query.fragmentsIn tables
  | .not e => e.fragmentsIn tables
  | .and a b | .or a b => a.fragmentsIn tables ++ b.fragmentsIn tables
  | _ => []

def Select.fragmentsIn (tables : List String) : Select → List (List String × String)
  | .select _ table filter => filterFragmentsIn (table :: tables) filter

def filterFragmentsIn (tables : List String) : Option Expr → List (List String × String)
  | none => []
  | some e => e.fragmentsIn tables

end

/-- The fragments in a filter are those in its parts. -/
theorem filterFragmentsIn_all? (tables : List String) (es : List Expr) :
    filterFragmentsIn tables (Expr.all? es) = es.flatMap (Expr.fragmentsIn tables) := by
  cases es with
  | nil => rfl
  | cons e rest =>
    exact Expr.view_foldl_append (fun a b => by rw [Expr.fragmentsIn]) rest e

namespace Database

variable (db : Database) (scope : Scope)

/-- The environment that rows are. -/
def environment : Environment :=
  { db.surroundings scope with rows := fun query => query.valuesIn db scope }

theorem eval_environment : ∀ e : Expr, e.eval (db.environment scope) = e.evalIn db scope
  | .not e => by
    rw [Expr.eval, Expr.evalIn, eval_environment e]
  | .and a b => by
    rw [Expr.eval, Expr.evalIn, eval_environment a, eval_environment b]
  | .or a b => by
    rw [Expr.eval, Expr.evalIn, eval_environment a, eval_environment b]
  | .constant _ | .fragment _ | .isNull _ | .compare .. | .among .. | .within .. | .between ..
  | .like .. | .anyRow _ => rfl

/-- Two values are equal; unknown for NULL. -/
def equal (x y : Option Value) : Truth := (db.surroundings []).compare Ordering.isEq x y

/-- All of some expressions, as far as there are any, are true among rows. -/
def Satisfies (es : List (Option Expr)) : Prop :=
  ∀ e, some e ∈ es → e.eval (db.environment scope) = .yes

@[simp] theorem satisfies_nil : db.Satisfies scope [] := nofun

variable {db} {scope} in
@[simp] theorem satisfies_cons_some {e : Expr} {es : List (Option Expr)} :
    db.Satisfies scope (some e :: es) ↔
      e.eval (db.environment scope) = .yes ∧ db.Satisfies scope es := by
  constructor
  · intro h
    exact ⟨h e List.mem_cons_self, fun d hd => h d (List.mem_cons_of_mem _ hd)⟩
  · rintro ⟨he, hes⟩ d hd
    rcases List.mem_cons.1 hd with hd | hd
    · cases hd
      exact he
    · exact hes d hd

variable {db} {scope} in
@[simp] theorem satisfies_cons_none {es : List (Option Expr)} :
    db.Satisfies scope (none :: es) ↔ db.Satisfies scope es := by
  constructor
  · intro h e he
    exact h e (List.mem_cons_of_mem _ he)
  · intro h e he
    rcases List.mem_cons.1 he with he | he
    · cases he
    · exact h e he

/-! ## Columns and the queries around them -/

section Columns

variable {db} {scope} {table : String} {tables : List String} {c : Column}

theorem owner_cons_of_owns (h : db.owns c table = true) :
    db.owner (table :: tables) c = some 0 := by
  unfold owner
  rw [List.findIdx?_cons, if_pos h]

theorem owner_cons_of_not_owns (h : db.owns c table = false) :
    db.owner (table :: tables) c = (db.owner tables c).map (· + 1) := by
  unfold owner
  rw [List.findIdx?_cons, h]
  rfl

theorem owns_iff {name : String} (hc : c.table = some name) :
    db.owns c table = true ↔ name = table := by
  unfold owns
  rw [hc]
  exact beq_iff_eq

/-- A query over another table does not come between a column and the query that it belongs to. -/
theorem column_cons_of_ne {name : String} (hc : c.table = some name) (hne : table ≠ name)
    (row : Row) : db.column ((table, row) :: scope) c = db.column scope c := by
  have howns : db.owns c table = false :=
    Bool.eq_false_iff.2 fun h => hne ((owns_iff hc).1 h).symm
  unfold column
  rw [List.map_cons, owner_cons_of_not_owns howns]
  cases db.owner (scope.map Prod.fst) c <;> rfl

end Columns

/-! ## Values of nested queries -/

/-- A filter passes the rows for which each of its parts is true. -/
theorem passesIn_all?_iff {es : List (Option Expr)} :
    passesIn db scope (Expr.all? es.reduceOption) = true ↔ db.Satisfies scope es := by
  have hmem : db.Satisfies scope es ↔
      ∀ e ∈ es.reduceOption, e.eval (db.environment scope) = .yes := by
    simp only [List.reduceOption_mem_iff]
    rfl
  rw [hmem]
  cases es.reduceOption with
  | nil => simp [passesIn]
  | cons e rest =>
    have htruth : (rest.foldl Expr.and e).eval (db.environment scope) =
        Truth.all ((e :: rest).map (Expr.eval (db.environment scope))) :=
      Option.some.inj (Expr.map_eval_all? (e :: rest))
    have hpasses : passesIn db scope (Expr.all? (e :: rest)) =
        decide ((rest.foldl Expr.and e).eval (db.environment scope) = .yes) := by
      rw [eval_environment]
      rfl
    rw [hpasses, htruth, decide_eq_true_iff, Truth.all_eq_yes_iff, List.forall_mem_map]

/-- A value is among the values that a query selects if it equals the one of a row that passes. -/
theorem within_eq_yes_iff {column c : Column} {table : String} {filter : Option Expr} :
    (Expr.within false column (.select (some c) table filter)).eval (db.environment scope) = .yes ↔
      ∃ row ∈ db.rows table, passesIn db ((table, row) :: scope) filter = true ∧
        db.equal (db.column scope column) (db.column ((table, row) :: scope) c) = .yes := by
  have hmember : (Expr.within false column (.select (some c) table filter)).eval
        (db.environment scope) =
      Truth.any (((Select.select (some c) table filter).valuesIn db scope).map
        (db.equal (db.column scope column))) := rfl
  rw [hmember, Truth.any_eq_yes_iff]
  simp only [Select.valuesIn, List.map_map, List.mem_map, List.mem_filter, Function.comp_apply,
    Option.bind_some]
  constructor
  · rintro ⟨row, ⟨hrow, hpasses⟩, hequal⟩
    exact ⟨row, hrow, hpasses, hequal⟩
  · rintro ⟨row, hrow, hpasses, hequal⟩
    exact ⟨row, ⟨hrow, hpasses⟩, hequal⟩

end Database

end Criteria.Sql
