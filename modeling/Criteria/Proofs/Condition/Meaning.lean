import Criteria.Proofs.Level
import Criteria.Proofs.Sql.Evaluation
import Mathlib.Data.List.Forall2

/-!
# The meaning of conditions

A condition says something about a row by itself, before there is any SQL: `Means` is that reading,
with one rule for each form of a condition. Some conditions ask for nothing; they have a reading
(`none`), but no truth value. What is malformed has no reading. Main statement: a condition compiles
exactly if it has a reading, and its expression has the truth value that the reading gives
(`means_iff`).
-/

namespace Criteria

open Sql

/-! ## Values -/

/-- The value that a condition is where a scalar is wanted. -/
inductive IsScalar : Condition → Sql.Value → Prop
  | operand (text : String) : IsScalar (.operand text) (.text text)
  | bool (b : Bool) : IsScalar (.value (.bool b)) (.bool b)
  | int (n : Int) : IsScalar (.value (.number (.int n))) (.int n)
  | real (x : Double) : IsScalar (.value (.number (.real x))) (.real x)
  | text (s : String) : IsScalar (.value (.text s)) (.text s)

/-- The values of a list of scalars, or the one value of a scalar. -/
inductive HasValues : Condition → List Sql.Value → Prop
  | list {items : List Condition} {vs : List Sql.Value} (h : List.Forall₂ IsScalar items vs) :
    HasValues (.list items) vs
  | scalar {c : Condition} {v : Sql.Value} (h : IsScalar c v) : HasValues c [v]

/-! ## Readings -/

variable (env : Environment)

/-- What an entry of a map says: NULL is looked for as such, a list or a query is membership, and
any other value is equality. -/
inductive EntryMeans : String × Condition → Truth → Prop
  | null (column : String) :
    EntryMeans (column, .value .null) (.ofBool (env.column (.ofString column)).isNone)
  | items {column : String} {items : List Condition} {vs : List Sql.Value}
    (h : List.Forall₂ IsScalar items vs) :
    EntryMeans (column, .list items) (env.member (env.column (.ofString column)) (vs.map some))
  | rows (column : String) (select : Select) :
    EntryMeans (column, .query select)
      (env.member (env.column (.ofString column)) (env.rows select))
  | equal {column : String} {c : Condition} {v : Sql.Value} (h : IsScalar c v) :
    EntryMeans (column, c)
      (env.compare Ordering.isEq (env.column (.ofString column)) (some v))

/-- The comparisons by their names: the orders of the two sides between which they hold. -/
def comparisonTests : List (String × (Ordering → Bool)) :=
  [("=", Ordering.isEq), ("!=", Ordering.isNe), ("<>", Ordering.isNe), (">", Ordering.isGT),
    ("<", Ordering.isLT), (">=", Ordering.isGE), ("<=", Ordering.isLE)]

/-- What an operator other than a connective says about its operands. -/
inductive TestMeans : String → List Condition → Truth → Prop
  | among {column : String} {values : Condition} {vs : List Sql.Value} (h : HasValues values vs) :
    TestMeans "in" [.operand column, values]
      (env.member (env.column (.ofString column)) (vs.map some))
  | notAmong {column : String} {values : Condition} {vs : List Sql.Value}
    (h : HasValues values vs) :
    TestMeans "not in" [.operand column, values]
      (env.member (env.column (.ofString column)) (vs.map some)).not
  | within (column : String) (select : Select) :
    TestMeans "in" [.operand column, .query select]
      (env.member (env.column (.ofString column)) (env.rows select))
  | notWithin (column : String) (select : Select) :
    TestMeans "not in" [.operand column, .query select]
      (env.member (env.column (.ofString column)) (env.rows select)).not
  | between {column : String} {low high : Condition} {v w : Sql.Value} (hlow : IsScalar low v)
    (hhigh : IsScalar high w) :
    TestMeans "between" [.operand column, low, high]
      (env.between (env.column (.ofString column)) (some v) (some w))
  | notBetween {column : String} {low high : Condition} {v w : Sql.Value} (hlow : IsScalar low v)
    (hhigh : IsScalar high w) :
    TestMeans "not between" [.operand column, low, high]
      (env.between (env.column (.ofString column)) (some v) (some w)).not
  | like (column pattern : String) :
    TestMeans "like" [.operand column, .operand pattern]
      (env.like (env.column (.ofString column)) pattern)
  | notLike (column pattern : String) :
    TestMeans "not like" [.operand column, .operand pattern]
      (env.like (env.column (.ofString column)) pattern).not
  | anyRow (select : Select) :
    TestMeans "exists" [.query select] (.ofBool !(env.rows select).isEmpty)
  | noRow (select : Select) :
    TestMeans "not exists" [.query select] (.ofBool (env.rows select).isEmpty)
  | compare {name : String} {test : Ordering → Bool} {column : String} {c : Condition}
    {v : Sql.Value} (hname : (name, test) ∈ comparisonTests) (h : IsScalar c v) :
    TestMeans name [.operand column, c]
      (env.compare test (env.column (.ofString column)) (some v))

mutual

/-- The reading of a condition: its truth value, or `none` if it asks for nothing. The names of
operators may be written in any case. -/
inductive Means : Condition → Option Truth → Prop
  | map {entries : List (String × Condition)} {ts : List Truth}
    (h : List.Forall₂ (EntryMeans env) entries ts) : Means (.map entries) (Truth.all? ts)
  | nothing : Means (.list []) none
  | and {op : String} {operands : List Condition} {ts : List Truth}
    (hop : Condition.lowered op = "and") (h : AllMean operands ts) :
    Means (.list (.operand op :: operands)) (Truth.all? ts)
  | or {op : String} {operands : List Condition} {ts : List Truth}
    (hop : Condition.lowered op = "or") (h : AllMean operands ts) :
    Means (.list (.operand op :: operands)) (Truth.any? ts)
  | not {op : String} {c : Condition} {m : Option Truth} (hop : Condition.lowered op = "not")
    (h : Means c m) : Means (.list [.operand op, c]) (m.map Truth.not)
  | test {op : String} {operands : List Condition} {t : Truth}
    (h : TestMeans env (Condition.lowered op) operands t) :
    Means (.list (.operand op :: operands)) (some t)
  | fragment {text : String} (h : Text.trim text.toList ≠ []) :
    Means (.operand text) (some (env.fragment text))
  | blank {text : String} (h : Text.trim text.toList = []) : Means (.operand text) none
  | null : Means (.value .null) none
  | bool (b : Bool) : Means (.value (.bool b)) (some (.ofBool b))

/-- The truth values of those conditions of a list that have one. -/
inductive AllMean : List Condition → List Truth → Prop
  | nil : AllMean [] []
  | cons {c : Condition} {rest : List Condition} {m : Option Truth} {ts : List Truth}
    (h : Means c m) (hrest : AllMean rest ts) : AllMean (c :: rest) (m.toList ++ ts)

end

namespace Condition

/-! ## Scalars and entries -/

theorem scalar_ok_iff {c : Condition} {v : Sql.Value} : c.scalar = .ok v ↔ IsScalar c v := by
  constructor
  · intro h
    cases c with
    | operand text =>
      cases h
      exact .operand text
    | value json =>
      cases json with
      | bool b =>
        cases h
        exact .bool b
      | number n =>
        cases n with
        | int n =>
          cases h
          exact .int n
        | real x =>
          cases h
          exact .real x
      | text s =>
        cases h
        exact .text s
      | null | array _ | object _ => cases h
    | list _ | map _ | query _ => cases h
  · intro h
    cases h <;> rfl

theorem scalars_ok_iff {cs : List Condition} {vs : List Sql.Value} :
    scalars cs = .ok vs ↔ List.Forall₂ IsScalar cs vs := by
  induction cs generalizing vs with
  | nil =>
    rw [List.forall₂_nil_left_iff]
    constructor
    · intro h
      cases h
      rfl
    · rintro rfl
      rfl
  | cons c rest ih =>
    rw [scalars, List.forall₂_cons_left_iff]
    constructor
    · intro h
      obtain ⟨v, hv, h⟩ := bind_ok_iff.1 h
      obtain ⟨vs, hvs, h⟩ := bind_ok_iff.1 h
      cases h
      exact ⟨v, vs, scalar_ok_iff.1 hv, ih.1 hvs, rfl⟩
    · rintro ⟨v, vs, hv, hvs, rfl⟩
      exact bind_ok_iff.2 ⟨v, scalar_ok_iff.2 hv, bind_ok_iff.2 ⟨vs, ih.2 hvs, rfl⟩⟩

theorem valuesOf_ok_iff {c : Condition} {vs : List Sql.Value} :
    c.valuesOf = .ok vs ↔ HasValues c vs := by
  constructor
  · intro h
    cases c with
    | list items => exact .list (scalars_ok_iff.1 h)
    | operand _ | value _ | map _ | query _ =>
      obtain ⟨v, hv, h⟩ := bind_ok_iff.1 h
      cases h
      exact .scalar (scalar_ok_iff.1 hv)
  · intro h
    cases h with
    | list h => exact scalars_ok_iff.2 h
    | scalar h =>
      have hv := scalar_ok_iff.2 h
      cases h <;> exact bind_ok_iff.2 ⟨_, hv, rfl⟩

theorem nameOf_ok_iff {c : Condition} {text : String} :
    c.nameOf = .ok text ↔ c = .operand text := by
  cases c <;> simp [nameOf]

theorem columnOf_ok_iff {c : Condition} {column : Column} :
    c.columnOf = .ok column ↔ ∃ text, c = .operand text ∧ .ofString text = column := by
  rw [columnOf, bind_ok_iff]
  simp only [nameOf_ok_iff, pure, Except.pure, Except.ok.injEq]

/-- An entry compiles exactly if it says something, and its expression says that. -/
theorem compileEntry_iff {column : String} {c : Condition} {t : Truth} :
    (∃ e, compileEntry column c = .ok e ∧ e.eval env = t) ↔ EntryMeans env (column, c) t := by
  constructor
  · rintro ⟨e, h, rfl⟩
    unfold compileEntry at h
    split at h
    · cases h
      exact .null column
    · cases h
      exact .items .nil
    · obtain ⟨vs, hvs, h⟩ := bind_ok_iff.1 h
      cases h
      exact .items (scalars_ok_iff.1 hvs)
    · cases h
      exact .rows column _
    · cases h
    · obtain ⟨v, hv, h⟩ := bind_ok_iff.1 h
      cases h
      exact .equal (scalar_ok_iff.1 hv)
  · intro h
    cases h with
    | null => exact ⟨_, rfl, rfl⟩
    | @items _ items vs h =>
      cases h with
      | nil => exact ⟨_, rfl, rfl⟩
      | cons hv hvs =>
        have hvalues := scalars_ok_iff.2 (.cons hv hvs)
        exact ⟨_, bind_ok_iff.2 ⟨_, hvalues, rfl⟩, rfl⟩
    | rows _ select => exact ⟨_, rfl, rfl⟩
    | equal h =>
      have hv := scalar_ok_iff.2 h
      cases h <;> exact ⟨_, bind_ok_iff.2 ⟨_, hv, rfl⟩, rfl⟩

theorem compileEntries_iff {entries : List (String × Condition)} {ts : List Truth} :
    (∃ es, compileEntries entries = .ok es ∧ es.map (Expr.eval env) = ts) ↔
      List.Forall₂ (EntryMeans env) entries ts := by
  induction entries generalizing ts with
  | nil =>
    rw [List.forall₂_nil_left_iff]
    constructor
    · rintro ⟨es, h, rfl⟩
      cases h
      rfl
    · rintro rfl
      exact ⟨[], rfl, rfl⟩
  | cons entry rest ih =>
    obtain ⟨column, c⟩ := entry
    rw [compileEntries, List.forall₂_cons_left_iff]
    constructor
    · rintro ⟨es, h, rfl⟩
      obtain ⟨e, he, h⟩ := bind_ok_iff.1 h
      obtain ⟨es, hes, h⟩ := bind_ok_iff.1 h
      cases h
      exact ⟨_, _, (compileEntry_iff env).1 ⟨e, he, rfl⟩, ih.1 ⟨es, hes, rfl⟩, rfl⟩
    · rintro ⟨t, ts, ht, hts, rfl⟩
      obtain ⟨e, he, rfl⟩ := (compileEntry_iff env).2 ht
      obtain ⟨es, hes, rfl⟩ := ih.2 hts
      exact ⟨e :: es, bind_ok_iff.2 ⟨e, he, bind_ok_iff.2 ⟨es, hes, rfl⟩⟩, rfl⟩

/-! ## Tests -/

theorem mem_operators_of_lookup {name : String} {operator : Operator}
    (h : operators.lookup name = some operator) : (name, operator) ∈ operators := by
  obtain ⟨before, after, hsplit, -⟩ := List.lookup_eq_some_iff.1 h
  rw [hsplit]
  exact List.mem_append_right _ List.mem_cons_self

theorem compileTest_among {name column : String} {negated : Bool} {values : Condition}
    {vs : List Sql.Value} (h : HasValues values vs) :
    compileTest name (.among negated) [.operand column, values] =
      .ok (.among negated (.ofString column) vs) := by
  have hvs := valuesOf_ok_iff.2 h
  -- no query has values, so the list of values is what is compiled
  cases h with
  | list h => exact bind_ok_iff.2 ⟨_, rfl, bind_ok_iff.2 ⟨_, hvs, rfl⟩⟩
  | scalar h => cases h <;> exact bind_ok_iff.2 ⟨_, rfl, bind_ok_iff.2 ⟨_, hvs, rfl⟩⟩

section Names

variable {env} {name column : String} {negated : Bool}

theorem testMeans_among {values : Condition} {vs : List Sql.Value}
    (hname : (name, Operator.among negated) ∈ operators) (h : HasValues values vs) :
    TestMeans env name [.operand column, values]
      (Expr.signed negated (env.member (env.column (.ofString column)) (vs.map some))) := by
  cases negated with
  | false =>
    obtain rfl : name = "in" := by simpa [operators] using hname
    exact .among h
  | true =>
    obtain rfl : name = "not in" := by simpa [operators] using hname
    exact .notAmong h

theorem testMeans_within (hname : (name, Operator.among negated) ∈ operators) (select : Select) :
    TestMeans env name [.operand column, .query select]
      (Expr.signed negated (env.member (env.column (.ofString column)) (env.rows select))) := by
  cases negated with
  | false =>
    obtain rfl : name = "in" := by simpa [operators] using hname
    exact .within column select
  | true =>
    obtain rfl : name = "not in" := by simpa [operators] using hname
    exact .notWithin column select

theorem testMeans_between {low high : Condition} {v w : Sql.Value}
    (hname : (name, Operator.between negated) ∈ operators) (hlow : IsScalar low v)
    (hhigh : IsScalar high w) :
    TestMeans env name [.operand column, low, high]
      (Expr.signed negated
        (env.between (env.column (.ofString column)) (some v) (some w))) := by
  cases negated with
  | false =>
    obtain rfl : name = "between" := by simpa [operators] using hname
    exact .between hlow hhigh
  | true =>
    obtain rfl : name = "not between" := by simpa [operators] using hname
    exact .notBetween hlow hhigh

theorem testMeans_like (hname : (name, Operator.like negated) ∈ operators) (pattern : String) :
    TestMeans env name [.operand column, .operand pattern]
      (Expr.signed negated (env.like (env.column (.ofString column)) pattern)) := by
  cases negated with
  | false =>
    obtain rfl : name = "like" := by simpa [operators] using hname
    exact .like column pattern
  | true =>
    obtain rfl : name = "not like" := by simpa [operators] using hname
    exact .notLike column pattern

/-- The two tables of comparisons agree. -/
theorem mem_comparisonTests_iff {test : Ordering → Bool} :
    (name, test) ∈ comparisonTests ↔
      ∃ comparison : Comparison, operators.lookup name = some (.compare comparison) ∧
        comparison.test = test := by
  constructor
  · intro h
    simp only [comparisonTests, List.mem_cons, Prod.mk.injEq, List.not_mem_nil, or_false] at h
    rcases h with ⟨rfl, rfl⟩ | ⟨rfl, rfl⟩ | ⟨rfl, rfl⟩ | ⟨rfl, rfl⟩ | ⟨rfl, rfl⟩ | ⟨rfl, rfl⟩ |
      ⟨rfl, rfl⟩ <;> exact ⟨_, rfl, rfl⟩
  · rintro ⟨comparison, h, rfl⟩
    have hmem := mem_operators_of_lookup h
    cases comparison <;> simp [operators] at hmem
    case ne => rcases hmem with rfl | rfl <;> simp [comparisonTests, Comparison.test]
    all_goals subst hmem; simp [comparisonTests, Comparison.test]

end Names

/-- A test compiles exactly if it says something, and its expression says that. -/
theorem compileTest_iff {name : String} {operands : List Condition} {t : Truth} :
    (∃ operator e, operators.lookup name = some operator ∧
      compileTest name operator operands = .ok e ∧ e.eval env = t) ↔
      TestMeans env name operands t := by
  constructor
  · rintro ⟨operator, e, hname, h, rfl⟩
    have hmem := mem_operators_of_lookup hname
    unfold compileTest at h
    split at h
    · next negated column values =>
      obtain ⟨_, hcolumn, h⟩ := bind_ok_iff.1 h
      obtain ⟨text, rfl, rfl⟩ := columnOf_ok_iff.1 hcolumn
      split at h
      · cases h
        exact testMeans_within hmem _
      · obtain ⟨vs, hvs, h⟩ := bind_ok_iff.1 h
        cases h
        exact testMeans_among hmem (valuesOf_ok_iff.1 hvs)
    · cases h
    · next negated column low high =>
      obtain ⟨_, hcolumn, h⟩ := bind_ok_iff.1 h
      obtain ⟨text, rfl, rfl⟩ := columnOf_ok_iff.1 hcolumn
      obtain ⟨v, hv, h⟩ := bind_ok_iff.1 h
      obtain ⟨w, hw, h⟩ := bind_ok_iff.1 h
      cases h
      exact testMeans_between hmem (scalar_ok_iff.1 hv) (scalar_ok_iff.1 hw)
    · cases h
    · next negated column pattern =>
      obtain ⟨_, hcolumn, h⟩ := bind_ok_iff.1 h
      obtain ⟨text, rfl, rfl⟩ := columnOf_ok_iff.1 hcolumn
      obtain ⟨pattern, hpattern, h⟩ := bind_ok_iff.1 h
      cases h
      obtain rfl := nameOf_ok_iff.1 hpattern
      exact testMeans_like hmem pattern
    · cases h
    · next select =>
      cases h
      obtain rfl : name = "exists" := by simpa [operators] using hmem
      exact .anyRow select
    · next select =>
      cases h
      obtain rfl : name = "not exists" := by simpa [operators] using hmem
      have hnone : (Expr.not (.anyRow select)).eval env = .ofBool (env.rows select).isEmpty := by
        simp [Expr.eval]
      rw [hnone]
      exact .noRow select
    · cases h
    · next comparison column other =>
      obtain ⟨_, hcolumn, h⟩ := bind_ok_iff.1 h
      obtain ⟨text, rfl, rfl⟩ := columnOf_ok_iff.1 hcolumn
      obtain ⟨v, hv, h⟩ := bind_ok_iff.1 h
      cases h
      exact .compare (mem_comparisonTests_iff.2 ⟨comparison, hname, rfl⟩) (scalar_ok_iff.1 hv)
    · cases h
    · cases h
    · cases h
    · cases h
  · intro h
    cases h with
    | among h | notAmong h => exact ⟨_, _, rfl, compileTest_among h, rfl⟩
    | within column select | notWithin column select => exact ⟨_, _, rfl, rfl, rfl⟩
    | between hlow hhigh | notBetween hlow hhigh =>
      have hv := scalar_ok_iff.2 hlow
      have hw := scalar_ok_iff.2 hhigh
      exact ⟨_, _, rfl,
        bind_ok_iff.2 ⟨_, rfl, bind_ok_iff.2 ⟨_, hv, bind_ok_iff.2 ⟨_, hw, rfl⟩⟩⟩, rfl⟩
    | like column pattern | notLike column pattern => exact ⟨_, _, rfl, rfl, rfl⟩
    | anyRow select => exact ⟨_, _, rfl, rfl, rfl⟩
    | noRow select => exact ⟨_, _, rfl, rfl, by simp [Expr.eval]⟩
    | compare htest h =>
      have hv := scalar_ok_iff.2 h
      obtain ⟨comparison, hname, rfl⟩ := mem_comparisonTests_iff.1 htest
      exact ⟨_, _, hname, bind_ok_iff.2 ⟨_, rfl, bind_ok_iff.2 ⟨_, hv, rfl⟩⟩, rfl⟩

/-! ## Conditions -/

section Lists

variable {op : String} {operands : List Condition}

theorem compile_and (hop : lowered op = "and") :
    compile (.list (.operand op :: operands)) = Expr.all? <$> compileAll operands := by
  rw [compile.eq_def]
  simp only [hop]
  rfl

theorem compile_or (hop : lowered op = "or") :
    compile (.list (.operand op :: operands)) = Expr.any? <$> compileAll operands := by
  rw [compile.eq_def]
  simp only [hop]
  rfl

theorem compile_not {c : Condition} (hop : lowered op = "not") :
    compile (.list [.operand op, c]) = Option.map Expr.not <$> c.compile := by
  rw [compile.eq_def]
  simp only [hop]
  rfl

theorem compile_test {operator : Operator} {e : Expr}
    (hop : operators.lookup (lowered op) = some operator)
    (h : compileTest (lowered op) operator operands = .ok e) :
    compile (.list (.operand op :: operands)) = .ok (some e) := by
  rw [compile.eq_def]
  simp only [hop]
  cases operator with
  | and | or | not =>
    rw [compileTest.eq_def] at h
    cases h
  | among _ | between _ | like _ | anyRow _ | compare _ =>
    simp only [h]
    rfl

/-- The ways in which a list headed by an operand compiles. -/
theorem compile_list_ok {x : Option Expr}
    (h : compile (.list (.operand op :: operands)) = .ok x) :
    (lowered op = "and" ∧ ∃ es, compileAll operands = .ok es ∧ Expr.all? es = x) ∨
    (lowered op = "or" ∧ ∃ es, compileAll operands = .ok es ∧ Expr.any? es = x) ∨
    (lowered op = "not" ∧ ∃ c y, operands = [c] ∧ c.compile = .ok y ∧ y.map .not = x) ∨
    ∃ operator e, operators.lookup (lowered op) = some operator ∧
      compileTest (lowered op) operator operands = .ok e ∧ some e = x := by
  rw [compile.eq_def] at h
  simp only at h
  split at h
  · cases h
  · next hop =>
    obtain ⟨es, hes, h⟩ := bind_ok_iff.1 h
    cases h
    have hname : lowered op = "and" := by simpa [operators] using mem_operators_of_lookup hop
    exact .inl ⟨hname, es, hes, rfl⟩
  · next hop =>
    obtain ⟨es, hes, h⟩ := bind_ok_iff.1 h
    cases h
    have hname : lowered op = "or" := by simpa [operators] using mem_operators_of_lookup hop
    exact .inr (.inl ⟨hname, es, hes, rfl⟩)
  · next hop =>
    have hname : lowered op = "not" := by simpa [operators] using mem_operators_of_lookup hop
    split at h
    · next c =>
      obtain ⟨y, hy, h⟩ := bind_ok_iff.1 h
      cases h
      exact .inr (.inr (.inl ⟨hname, c, y, rfl, hy, rfl⟩))
    · cases h
  · next operator _ _ _ hop =>
    obtain ⟨e, he, h⟩ := bind_ok_iff.1 h
    cases h
    exact .inr (.inr (.inr ⟨operator, e, hop, he, rfl⟩))

end Lists

mutual

/-- A condition compiles exactly if it has a reading, and its expression has the truth value that
the reading gives; it has no expression if it asks for nothing. -/
theorem compile_iff : ∀ (c : Condition) (m : Option Truth),
    (∃ x, c.compile = .ok x ∧ x.map (Expr.eval env) = m) ↔ Means env c m
  | map entries, m => by
    rw [compile]
    constructor
    · rintro ⟨x, h, rfl⟩
      obtain ⟨es, hes, h⟩ := bind_ok_iff.1 h
      cases h
      rw [Expr.map_eval_all?]
      exact .map ((compileEntries_iff env).1 ⟨es, hes, rfl⟩)
    · intro h
      cases h with
      | map h =>
        obtain ⟨es, hes, rfl⟩ := (compileEntries_iff env).2 h
        exact ⟨Expr.all? es, bind_ok_iff.2 ⟨es, hes, rfl⟩, Expr.map_eval_all? es⟩
  | operand text, m => by
    rw [compile]
    by_cases hblank : Text.trim text.toList = []
    · rw [hblank]
      constructor
      · rintro ⟨x, h, rfl⟩
        cases h
        exact .blank hblank
      · intro h
        cases h with
        | fragment h => exact absurd hblank h
        | blank _ => exact ⟨none, rfl, rfl⟩
    · rw [if_neg (by simpa using hblank)]
      constructor
      · rintro ⟨x, h, rfl⟩
        cases h
        exact .fragment hblank
      · intro h
        cases h with
        | fragment _ => exact ⟨some (.fragment text), rfl, rfl⟩
        | blank h => exact absurd h hblank
  | value json, m => by
    cases json with
    | null =>
      constructor
      · rintro ⟨x, h, rfl⟩
        cases h
        exact .null
      · intro h
        cases h
        exact ⟨none, rfl, rfl⟩
    | bool b =>
      constructor
      · rintro ⟨x, h, rfl⟩
        cases h
        exact .bool b
      · intro h
        cases h
        exact ⟨some (.constant b), rfl, rfl⟩
    | number _ | text _ | array _ | object _ =>
      constructor
      · rintro ⟨x, h, -⟩
        cases h
      · intro h
        cases h
  | query select, m => by
    constructor
    · rintro ⟨x, h, -⟩
      cases h
    · intro h
      cases h
  | list items, m => by
    constructor
    · rintro ⟨x, h, rfl⟩
      cases items with
      | nil =>
        cases h
        exact .nothing
      | cons head operands =>
        cases head with
        | operand op =>
          obtain ⟨hop, es, hes, rfl⟩ | ⟨hop, es, hes, rfl⟩ | ⟨hop, c, y, rfl, hy, rfl⟩ |
            ⟨operator, e, hop, he, rfl⟩ := compile_list_ok h
          · rw [Expr.map_eval_all?]
            exact .and hop ((compileAll_iff operands _).1 ⟨es, hes, rfl⟩)
          · rw [Expr.map_eval_any?]
            exact .or hop ((compileAll_iff operands _).1 ⟨es, hes, rfl⟩)
          · have hnot : (y.map Expr.not).map (Expr.eval env) =
                (y.map (Expr.eval env)).map Truth.not := by
              cases y <;> rfl
            rw [hnot]
            exact .not hop ((compile_iff c _).1 ⟨y, hy, rfl⟩)
          · exact .test ((compileTest_iff env).1 ⟨operator, e, hop, he, rfl⟩)
        | value _ | list _ | map _ | query _ => cases h
    · intro h
      cases h with
      | nothing => exact ⟨none, rfl, rfl⟩
      | @and op operands ts hop h =>
        obtain ⟨es, hes, rfl⟩ := (compileAll_iff operands ts).2 h
        refine ⟨Expr.all? es, ?_, Expr.map_eval_all? es⟩
        rw [compile_and hop, hes]
        rfl
      | @or op operands ts hop h =>
        obtain ⟨es, hes, rfl⟩ := (compileAll_iff operands ts).2 h
        refine ⟨Expr.any? es, ?_, Expr.map_eval_any? es⟩
        rw [compile_or hop, hes]
        rfl
      | @not op c m hop h =>
        obtain ⟨y, hy, rfl⟩ := (compile_iff c m).2 h
        refine ⟨y.map Expr.not, ?_, ?_⟩
        · rw [compile_not hop, hy]
          rfl
        · cases y <;> rfl
      | test h =>
        obtain ⟨operator, e, hop, he, rfl⟩ := (compileTest_iff env).2 h
        exact ⟨some e, compile_test hop he, rfl⟩

theorem compileAll_iff : ∀ (cs : List Condition) (ts : List Truth),
    (∃ es, compileAll cs = .ok es ∧ es.map (Expr.eval env) = ts) ↔ AllMean env cs ts
  | [], ts => by
    constructor
    · rintro ⟨es, h, rfl⟩
      cases h
      exact .nil
    · intro h
      cases h
      exact ⟨[], rfl, rfl⟩
  | c :: rest, ts => by
    rw [compileAll]
    have happend (x : Option Expr) (es : List Expr) : (x.toList ++ es).map (Expr.eval env) =
        (x.map (Expr.eval env)).toList ++ es.map (Expr.eval env) := by
      cases x <;> rfl
    constructor
    · rintro ⟨es, h, rfl⟩
      obtain ⟨x, hx, h⟩ := bind_ok_iff.1 h
      obtain ⟨es, hes, h⟩ := bind_ok_iff.1 h
      cases h
      rw [happend]
      exact .cons ((compile_iff c _).1 ⟨x, hx, rfl⟩) ((compileAll_iff rest _).1 ⟨es, hes, rfl⟩)
    · intro h
      cases h with
      | @cons _ _ m ts h hrest =>
        obtain ⟨x, hx, rfl⟩ := (compile_iff c m).2 h
        obtain ⟨es, hes, rfl⟩ := (compileAll_iff rest ts).2 hrest
        exact ⟨x.toList ++ es, bind_ok_iff.2 ⟨x, hx, bind_ok_iff.2 ⟨es, hes, rfl⟩⟩, happend x es⟩

end

/-- Compilation keeps the meaning: a condition asks for nothing exactly if it compiles to no
expression, and it has a truth value exactly if it compiles to an expression with that value. -/
theorem means_iff (c : Condition) :
    (Means env c none ↔ c.compile = .ok none) ∧
      ∀ t, Means env c (some t) ↔ ∃ e, c.compile = .ok (some e) ∧ e.eval env = t := by
  constructor
  · rw [← compile_iff]
    simp
  · intro t
    rw [← compile_iff]
    simp only [Option.map_eq_some_iff]
    constructor
    · rintro ⟨_, h, e, rfl, he⟩
      exact ⟨e, h, he⟩
    · rintro ⟨e, h, he⟩
      exact ⟨some e, h, e, rfl, he⟩

end Condition

end Criteria
