import Criteria.Config.Reader
import Criteria.Proofs.Relation.Shape
import Criteria.Proofs.Sql.Scope

/-!
# The equalities embedded in relation conditions

A relation condition asks whether a column of the parent is among those of the related rows. The
related rows are moreover filtered by the equality of these two columns, which is meant to say the
same once more. It does as long as the column of the parent is not taken for one of the related
table, and this happens exactly if the two tables are the same.

Main statements: an embedded equality refers to the query around it exactly if the tables differ,
and if all of them do, they can be left out without a change in the rows that are selected
(`Level.related_correlates`). For a relation of a table to itself the rows change
(`Samples.category_without_parent`).
-/

namespace Criteria

open Sql (Column Database Scope)

/-! ## Embedded equalities -/

/-- An equality that is embedded in a nested query. -/
structure Equality where
  /-- The table of the query around the nested one. -/
  around : String
  own : String
  /-- The table of the nested query. -/
  inside : String
  foreign : String
  /-- The tables of the queries further out, the nearest first. -/
  beyond : List String
  deriving DecidableEq

namespace Equality

variable (eq : Equality)

/-- The column of the query around. -/
def outer : Column := ⟨some eq.around, eq.own⟩

/-- The column of the nested query. -/
def inner : Column := ⟨some eq.inside, eq.foreign⟩

def outerText : String := eq.around ++ "." ++ eq.own

def innerText : String := eq.inside ++ "." ++ eq.foreign

/-- The fragment of SQL. -/
def text : String := Binding.equality eq.outerText eq.innerText

/-- The tables of all queries around the fragment. -/
def tables : List String := eq.inside :: eq.around :: eq.beyond

/-- The column of the query around belongs to that query, the second one from inside. -/
def RefersOut : Prop := ∀ db : Database, db.owner eq.tables eq.outer = some 1

/-- The names are so plain that the texts of the columns are read as these columns. -/
def IsPlain : Prop := .ofString eq.outerText = eq.outer ∧ .ofString eq.innerText = eq.inner

instance : Decidable eq.IsPlain := inferInstanceAs (Decidable (_ ∧ _))

/-- Names without blanks and quotes are plain, if the columns have no points in them. -/
theorem isPlain_of_isBare (houter : Column.IsBare eq.around ∧ Column.IsBare eq.own)
    (hinner : Column.IsBare eq.inside ∧ Column.IsBare eq.foreign) (hown : '.' ∉ eq.own.toList)
    (hforeign : '.' ∉ eq.foreign.toList) : eq.IsPlain :=
  ⟨Column.ofString_append_of_isBare houter.1 houter.2 hown,
    Column.ofString_append_of_isBare hinner.1 hinner.2 hforeign⟩

end Equality

/-- The database reads the fragment as what it is. -/
def Sql.Database.Reads (db : Database) (eq : Equality) : Prop :=
  ∀ scope, db.fragment scope eq.text =
    db.equal (db.column scope eq.outer) (db.column scope eq.inner)

/-- The equalities that are embedded in the condition of a path. -/
def Path.equalities {κ : Type} (parent target : Query κ) : Path κ → List Equality
  | direct link => [⟨parent.model.table, link.own, target.model.table, link.foreign, []⟩]
  | through pivot link remote =>
    [⟨parent.model.table, link.own, pivot.model.table, link.foreign, []⟩,
      ⟨pivot.model.table, remote.own, target.model.table, remote.foreign, [parent.model.table]⟩]

/-- Nothing is embedded. -/
def Join.omitted : Join := fun _ _ => none

/-- The condition holds of the innermost row. -/
def Condition.Selects (c : Condition) (db : Database) (scope : Scope) : Prop :=
  ∃ e, c.compile = .ok (some e) ∧ e.eval (db.environment scope) = .yes

namespace Equality

variable {eq : Equality}

/-- A table hides itself, and no other. -/
theorem refersOut_iff : eq.RefersOut ↔ eq.inside ≠ eq.around := by
  constructor
  · intro h hsame
    have howner := h ⟨fun _ => [], fun _ _ => false, fun _ _ => .unknown, fun _ _ => none,
      fun _ _ => .unknown⟩
    unfold tables at howner
    rw [Database.owner_cons_of_owns ((Database.owns_iff rfl).2 hsame.symm)] at howner
    cases howner
  · intro h db
    have hinside : db.owns eq.outer eq.inside = false :=
      Bool.eq_false_iff.2 fun howns => h ((Database.owns_iff rfl).1 howns).symm
    have haround : db.owns eq.outer eq.around = true := (Database.owns_iff rfl).2 rfl
    unfold tables
    rw [Database.owner_cons_of_not_owns hinside, Database.owner_cons_of_owns haround]
    rfl

end Equality

/-! ## Rows that are selected -/

namespace Path

variable {db : Database} {scope : Scope} {c : Column} {column table : String}
  {es es' : List (Option Sql.Expr)}

theorem within_rows_eq_yes_iff :
    (Sql.Expr.within false c (rows column table es)).eval (db.environment scope) = .yes ↔
      ∃ row ∈ db.rows table, db.Satisfies ((table, row) :: scope) es ∧
        db.equal (db.column scope c) (db.column ((table, row) :: scope) (.ofString column)) =
          .yes := by
  unfold rows
  simp only [Database.within_eq_yes_iff, Database.passesIn_all?_iff]

/-- Only the rows in which the two columns are equal matter for the filters. -/
theorem within_rows_congr
    (h : ∀ row, db.equal (db.column scope c)
      (db.column ((table, row) :: scope) (.ofString column)) = .yes →
      (db.Satisfies ((table, row) :: scope) es ↔ db.Satisfies ((table, row) :: scope) es')) :
    (Sql.Expr.within false c (rows column table es)).eval (db.environment scope) = .yes ↔
      (Sql.Expr.within false c (rows column table es')).eval (db.environment scope) = .yes := by
  rw [within_rows_eq_yes_iff, within_rows_eq_yes_iff]
  constructor
  · rintro ⟨row, hrow, hes, hequal⟩
    exact ⟨row, hrow, (h row hequal).1 hes, hequal⟩
  · rintro ⟨row, hrow, hes, hequal⟩
    exact ⟨row, hrow, (h row hequal).2 hes, hequal⟩

end Path

namespace Equality

variable {eq : Equality} {db : Database} {scope : Scope}

/-- Where the two columns are equal, the embedded equality is true. -/
theorem eval_text (hrefers : eq.RefersOut) (hplain : eq.IsPlain) (hreads : db.Reads eq)
    {row : Sql.Row}
    (h : db.equal (db.column scope (.ofString eq.outerText))
      (db.column ((eq.inside, row) :: scope) (.ofString eq.innerText)) = .yes) :
    (Sql.Expr.fragment eq.text).eval (db.environment ((eq.inside, row) :: scope)) = .yes := by
  -- within the nested query the outer column still has the value that it has outside
  have hcolumn : db.column ((eq.inside, row) :: scope) eq.outer = db.column scope eq.outer :=
    Database.column_cons_of_ne rfl (refersOut_iff.1 hrefers) row
  rw [hplain.1, hplain.2, ← hcolumn, ← hreads] at h
  exact h

theorem within_embedded_iff (hrefers : eq.RefersOut) (hplain : eq.IsPlain) (hreads : db.Reads eq)
    (scope : Scope) (es : List (Option Sql.Expr)) :
    (Sql.Expr.within false (.ofString eq.outerText) (Path.rows eq.innerText eq.inside
        (Join.embedded eq.outerText eq.innerText :: es))).eval (db.environment scope) = .yes ↔
      (Sql.Expr.within false (.ofString eq.outerText) (Path.rows eq.innerText eq.inside
        (Join.omitted eq.outerText eq.innerText :: es))).eval (db.environment scope) = .yes := by
  refine Path.within_rows_congr fun row hequal => ?_
  have htext := eval_text hrefers hplain hreads hequal
  unfold Join.embedded Join.omitted
  rw [Database.satisfies_cons_some, Database.satisfies_cons_none]
  exact and_iff_right htext

end Equality

theorem Condition.selects_map_query_iff {key : String} {query : Sql.Select} {db : Database}
    {scope : Scope} : (Condition.map [(key, .query query)]).Selects db scope ↔
      (Sql.Expr.within false (.ofString key) query).eval (db.environment scope) = .yes := by
  constructor
  · rintro ⟨e, hcompile, he⟩
    cases hcompile
    exact he
  · intro h
    exact ⟨_, rfl, h⟩

namespace Path

variable {κ : Type} {parent target : Query κ} {path : Path κ} {db : Database} {scope : Scope}

theorem selects_condition_iff (hrefers : ∀ eq ∈ path.equalities parent target, eq.RefersOut)
    (hreads : ∀ eq ∈ path.equalities parent target, eq.IsPlain ∧ db.Reads eq)
    (es : List (Option Sql.Expr)) :
    (path.condition Join.embedded parent target es).Selects db scope ↔
      (path.condition Join.omitted parent target es).Selects db scope := by
  cases path with
  | direct link =>
    obtain ⟨hrefers, -⟩ := List.forall_mem_cons.1 hrefers
    obtain ⟨⟨hplain, hreads⟩, -⟩ := List.forall_mem_cons.1 hreads
    unfold condition
    rw [Condition.selects_map_query_iff, Condition.selects_map_query_iff]
    exact Equality.within_embedded_iff hrefers hplain hreads scope es
  | through pivot link remote =>
    obtain ⟨hrefers, hrefers'⟩ := List.forall_mem_cons.1 hrefers
    obtain ⟨hrefers', -⟩ := List.forall_mem_cons.1 hrefers'
    obtain ⟨⟨hplain, hreads⟩, hreads'⟩ := List.forall_mem_cons.1 hreads
    obtain ⟨⟨hplain', hreads'⟩, -⟩ := List.forall_mem_cons.1 hreads'
    unfold condition
    rw [Condition.selects_map_query_iff, Condition.selects_map_query_iff]
    -- for each row of the pivot that is linked to the parent, the related rows are those of the
    -- second equality, one query further in
    refine within_rows_congr fun row hequal => ?_
    have htext := Equality.eval_text hrefers hplain hreads hequal
    have hinner := Equality.within_embedded_iff hrefers' hplain' hreads'
      ((pivot.model.table, row) :: scope) es
    unfold Join.embedded Join.omitted at hinner ⊢
    simp only [Database.satisfies_cons_some, Database.satisfies_cons_none]
    constructor
    · rintro ⟨hrelated, -⟩
      exact ⟨hinner.1 hrelated, by simp⟩
    · rintro ⟨hrelated, -⟩
      exact ⟨hinner.2 hrelated, htext, by simp⟩

/-! ## Where the equalities stand -/

theorem mem_fragmentsIn_rows {column table : String} {tables : List String}
    {es : List (Option Sql.Expr)} {e : Sql.Expr} {x : List String × String} (he : some e ∈ es)
    (hx : x ∈ e.fragmentsIn (table :: tables)) : x ∈ (rows column table es).fragmentsIn tables := by
  have hfilter : (rows column table es).fragmentsIn tables =
    Sql.filterFragmentsIn (table :: tables) (Sql.Expr.all? es.reduceOption) := rfl
  rw [hfilter, Sql.filterFragmentsIn_all?]
  exact List.mem_flatMap.2 ⟨e, List.reduceOption_mem_iff.2 he, hx⟩

/-- What a path stands for compiles, and each of its equalities is found in the query that it is
embedded in. -/
theorem exists_compile_condition (es : List (Option Sql.Expr)) :
    ∃ e, (path.condition Join.embedded parent target es).compile = .ok (some e) ∧
      ∀ eq ∈ path.equalities parent target,
        (eq.tables, eq.text) ∈ e.fragmentsIn [parent.model.table] := by
  have hself : ∀ tables text, (tables, text) ∈ (Sql.Expr.fragment text).fragmentsIn tables :=
    fun tables text => List.mem_singleton_self _
  cases path with
  | direct link =>
    refine ⟨_, rfl, List.forall_mem_singleton.2 ?_⟩
    exact mem_fragmentsIn_rows List.mem_cons_self (hself _ _)
  | through pivot link remote =>
    refine ⟨_, rfl, List.forall_mem_cons.2 ⟨?_, List.forall_mem_singleton.2 ?_⟩⟩
    · exact mem_fragmentsIn_rows (List.mem_cons_of_mem _ List.mem_cons_self) (hself _ _)
    · exact mem_fragmentsIn_rows List.mem_cons_self
        (mem_fragmentsIn_rows List.mem_cons_self (hself _ _))

end Path

/-- In a relation condition that comes about, the column from outside in each embedded equality
belongs to the query around exactly if that is a query over another table. If all of them do, the
condition selects the rows that it would select without the embedded equalities. -/
theorem Level.related_correlates {κ : Type} [Computed κ] {q : Query κ} {base relation : String}
    {words : List Word} {metadata : Metadata κ} {path : Path κ} {c : Condition} (limit room : Nat)
    (args : List Json) (hsplit : RelationSplit.ofBase q.hasRelation base = ⟨some relation, words⟩)
    (hmetadata : q.relation? relation = .ok (some metadata)) (hpath : metadata.path? = some path)
    (h : (related (beneath limit room) q base args).outcome = .ok (some c)) :
    ∃ es e, c = path.condition Join.embedded q metadata.target es ∧ c.compile = .ok (some e) ∧
      (∀ eq ∈ path.equalities q metadata.target,
        (eq.tables, eq.text) ∈ e.fragmentsIn [q.model.table] ∧
          (eq.RefersOut ↔ eq.inside ≠ eq.around)) ∧
      ((∀ eq ∈ path.equalities q metadata.target, eq.RefersOut) →
        ∀ db : Database,
          (∀ eq ∈ path.equalities q metadata.target, eq.IsPlain ∧ db.Reads eq) →
          ∀ scope, c.Selects db scope ↔
            (path.condition Join.omitted q metadata.target es).Selects db scope) := by
  obtain ⟨es, rfl⟩ := exists_condition_of_related limit room hsplit hmetadata hpath h
  obtain ⟨e, hcompile, hfragments⟩ := Path.exists_compile_condition es
  refine ⟨es, e, rfl, hcompile, fun eq heq => ⟨hfragments eq heq, Equality.refersOut_iff⟩, ?_⟩
  intro hrefers db hreads scope
  exact Path.selects_condition_iff hrefers hreads es

namespace Samples

/-- A database with some rows that reads some equalities as such and compares whole numbers. -/
def reading (eqs : List Equality) (rows : String → List Sql.Row) : Database :=
  let order : Sql.Value → Sql.Value → Option Ordering
    | .int m, .int n => some (compare m n)
    | _, _ => none
  let silent : Database :=
    ⟨rows, fun _ _ => false, fun _ _ => .unknown, order, fun _ _ => .unknown⟩
  { silent with
    fragment := fun scope text =>
      match eqs.find? fun eq => eq.text == text with
      | some eq => silent.equal (silent.column scope eq.outer) (silent.column scope eq.inner)
      | none => .unknown }

theorem reads_reading {eqs : List Equality} {rows : String → List Sql.Row} {eq : Equality}
    (h : eqs.find? (fun eq' => eq'.text == eq.text) = some eq) : (reading eqs rows).Reads eq := by
  intro scope
  unfold reading
  dsimp only
  rw [h]
  rfl

/-- The equalities on the way from orders over their items to products. -/
def ordersToProducts : List Equality :=
  [⟨"orders", "id", "order_items", "order_id", []⟩,
    ⟨"order_items", "product_id", "products", "id", ["orders"]⟩]

/-- Every table has one row, of ones. -/
def ones (_ : String) : List Sql.Row := [fun _ => some (.int 1)]

/-- Orders, items and products are in three tables, so that the equalities between them can be left
out. -/
theorem correlates_orders_products : ∃ metadata path es c,
    (orders 2).relation? "products" = .ok (some metadata) ∧ metadata.path? = some path ∧
      path.equalities (orders 2) metadata.target = ordersToProducts ∧
      (Level.related (Level.beneath 2 2) (orders 2) "withProducts" []).outcome = .ok (some c) ∧
      c.Selects (reading ordersToProducts ones) [("orders", fun _ => some (.int 1))] ∧
      ∀ scope, c.Selects (reading ordersToProducts ones) scope ↔
        (path.condition Join.omitted (orders 2) metadata.target es).Selects
          (reading ordersToProducts ones) scope := by
  have hsplit : RelationSplit.ofBase (orders 2).hasRelation "withProducts" =
      ⟨some "products", []⟩ := by
    decide
  obtain ⟨es, e, hc, -, hequalities, hselects⟩ :=
    Level.related_correlates 2 2 [] hsplit rfl rfl rfl
  have hdiffer : ∀ eq ∈ ordersToProducts, eq.inside ≠ eq.around := by decide
  have hplain : ∀ eq ∈ ordersToProducts, eq.IsPlain := by decide
  have hfound : ∀ eq ∈ ordersToProducts,
      ordersToProducts.find? (fun eq' => eq'.text == eq.text) = some eq := by
    decide
  refine ⟨_, _, es, _, rfl, rfl, rfl, rfl, ?_, hselects ?_ _ ?_⟩
  · exact Condition.selects_map_query_iff.2 (by decide)
  · intro eq heq
    exact (hequalities eq heq).2.2 (hdiffer eq heq)
  · intro eq heq
    exact ⟨hplain eq heq, reads_reading (hfound eq heq)⟩

/-- A configuration with its schema, a query of the schema and a relation of the query. -/
structure Opened where
  config : Config
  schema : Schema Empty
  query : Query Empty
  metadata : Metadata Empty

def open? (text model relation : String) : Option Opened := do
  let config ← (Config.ofString text).toOption
  let schema ← (Schema.ofConfig config).toOption
  let query ← (schema.query model).toOption
  let metadata ← (query.relation? relation).toOption.join
  return ⟨config, schema, query, metadata⟩

theorem open?_eq_some {text model relation : String} {o : Opened}
    (h : open? text model relation = some o) :
    Config.ofString text = .ok o.config ∧ Schema.ofConfig o.config = .ok o.schema ∧
      o.schema.query model = .ok o.query ∧
      o.query.relation? relation = .ok (some o.metadata) := by
  obtain ⟨config, hconfig, h⟩ := Option.bind_eq_some_iff.1 h
  obtain ⟨schema, hschema, h⟩ := Option.bind_eq_some_iff.1 h
  obtain ⟨query, hquery, h⟩ := Option.bind_eq_some_iff.1 h
  obtain ⟨metadata, hmetadata, h⟩ := Option.bind_eq_some_iff.1 h
  cases h
  rw [toOption_eq_some_iff] at hconfig hschema hquery
  rw [Option.join_eq_some_iff, toOption_eq_some_iff] at hmetadata
  exact ⟨hconfig, hschema, hquery, hmetadata⟩

/-- Categories, each of which may have a parent. -/
def categoriesText : String :=
  "\x7b\"models\":\x7b\"Category\":\x7b\"table\":\"categories\",\"relations\":\x7b" ++
    "\"parent\":\x7b\"model\":\"Category\",\"link\":\x7b\"id\":\"parent_id\"\x7d" ++
    "\x7d\x7d\x7d\x7d\x7d"

/-- The equality between categories and their parents. -/
def toParent : Equality := ⟨"categories", "parent_id", "categories", "id", []⟩

/-- A category whose parent is the second one. -/
def child : Sql.Row
  | "id" => some (.int 1)
  | "parent_id" => some (.int 2)
  | _ => none

/-- The second category, without a parent. -/
def top : Sql.Row
  | "id" => some (.int 2)
  | _ => none

def categories : String → List Sql.Row
  | "categories" => [child, top]
  | _ => []

/-- A category that has a parent is not found by its parent. In the query over the parents the
column of the category is taken for one of the parent itself, and no category is its own parent. -/
theorem category_without_parent : ∃ config, ∃ s : Schema Empty, ∃ q metadata path c,
    Config.ofString categoriesText = .ok config ∧ Schema.ofConfig config = .ok s ∧
      s.query "Category" = .ok q ∧ q.relation? "parent" = .ok (some metadata) ∧
      metadata.path? = some path ∧ path.equalities q metadata.target = [toParent] ∧
      (Level.related (Level.beneath s.maxDepth s.maxDepth) q "withParent" []).outcome =
        .ok (some c) ∧
      c = path.condition Join.embedded q metadata.target [] ∧ ¬ toParent.RefersOut ∧
      toParent.IsPlain ∧ (reading [toParent] categories).Reads toParent ∧
      ¬ c.Selects (reading [toParent] categories) [("categories", child)] ∧
      (path.condition Join.omitted q metadata.target []).Selects (reading [toParent] categories)
        [("categories", child)] := by
  have hparent : (open? categoriesText "Category" "parent").map (fun o =>
      (RelationSplit.ofBase o.query.hasRelation "withParent", o.metadata.links,
        o.metadata.pivot.isNone, o.query.model.table, o.metadata.target.model.table)) =
      some (⟨some "parent", []⟩, [⟨"id", "parent_id"⟩], true, "categories", "categories") := by
    decide +kernel
  obtain ⟨o, ho, hparent⟩ := Option.map_eq_some_iff.1 hparent
  obtain ⟨hconfig, hs, hq, hmetadata⟩ := open?_eq_some ho
  obtain ⟨config, s, q, metadata⟩ := o
  simp only [Prod.mk.injEq, Option.isNone_iff_eq_none] at hparent
  obtain ⟨hsplit, hlinks, hpivot, htable, htarget⟩ := hparent
  have hpath : metadata.path? = some (.direct ⟨"id", "parent_id"⟩) :=
    Metadata.path?_eq_some_iff.2 (.direct hlinks hpivot)
  have hequalities : (Path.direct ⟨"id", "parent_id"⟩).equalities q metadata.target =
      [toParent] := by
    unfold Path.equalities
    rw [htable, htarget]
    rfl
  have hcondition : ∀ join, (Path.direct ⟨"id", "parent_id"⟩).condition join q metadata.target [] =
      .map [(toParent.outerText, .query (Path.rows toParent.innerText "categories"
        [join toParent.outerText toParent.innerText]))] := by
    intro join
    unfold Path.condition Query.column
    rw [htable, htarget]
    rfl
  have hrelated : (Level.related (Level.beneath s.maxDepth s.maxDepth) q "withParent" []).outcome =
      .ok (some ((Path.direct ⟨"id", "parent_id"⟩).condition Join.embedded q metadata.target
        [])) := by
    rw [Level.outcome_related_of_path hsplit hmetadata hpath]
    exact (Level.relatedBy_ok_iff _ _ (Query.isFresh_of_relation? hmetadata hpath) rfl).2
      ⟨[], .nil, rfl⟩
  refine ⟨config, s, q, metadata, _, _, hconfig, hs, hq, hmetadata, hpath, hequalities, hrelated,
    rfl, ?_, by decide, reads_reading (by decide), ?_, ?_⟩
  · rw [Equality.refersOut_iff]
    decide
  · rw [hcondition, Condition.selects_map_query_iff]
    decide
  · rw [hcondition, Condition.selects_map_query_iff]
    decide

end Samples

end Criteria
