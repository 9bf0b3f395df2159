import Criteria.Condition.Compile
import Criteria.Draft.Resolve
import Criteria.Proofs.Alike
import Criteria.Proofs.Expansion.NormalForm
import Criteria.Proofs.Sql.Hiding

/-!
# Conditions without their data texts

A text under a key of a map is data: no name is looked up there, and it is bound in the SQL. Main
statements: drafts that differ in such texts alone resolve to conditions that do
(`Draft.resolve_hide`), and these compile to expressions that differ in bound texts alone
(`Condition.compile_hide`).
-/

namespace Criteria

namespace Condition

mutual

/-- Data without its texts. -/
def blank : Condition → Condition
  | operand _ => operand ""
  | value json => value json
  | list items => list (blankItems items)
  | map entries => map (blankEntries entries)
  | query select => query select.hide

/-- The items of data without their texts. -/
def blankItems : List Condition → List Condition
  | [] => []
  | c :: rest => blank c :: blankItems rest

/-- The entries without the texts in what stands under their keys. -/
def blankEntries : List (String × Condition) → List (String × Condition)
  | [] => []
  | (key, c) :: rest => (key, blank c) :: blankEntries rest

end

mutual

/-- The condition without the texts under the keys of its maps and without those bound in its
queries. -/
def hide : Condition → Condition
  | operand text => operand text
  | value json => value json
  | list items => list (hideItems items)
  | map entries => map (blankEntries entries)
  | query select => query select.hide

/-- The items without the texts under the keys of their maps. -/
def hideItems : List Condition → List Condition
  | [] => []
  | c :: rest => hide c :: hideItems rest

end

theorem blankItems_eq_map (items : List Condition) : blankItems items = items.map blank := by
  induction items with
  | nil => rfl
  | cons c rest ih => rw [blankItems, List.map_cons, ih]

theorem hideItems_eq_map (items : List Condition) : hideItems items = items.map hide := by
  induction items with
  | nil => rfl
  | cons c rest ih => rw [hideItems, List.map_cons, ih]

theorem hide_negated (c : Condition) : c.negated.hide = c.hide.negated := by
  simp only [negated, hide, hideItems]

theorem isEmpty_hide (c : Condition) : c.hide.isEmpty = c.isEmpty := by
  cases c with
  | operand _ | value _ | query _ => simp only [hide, isEmpty]
  | list items => cases items <;> simp only [hide, hideItems, isEmpty, List.isEmpty]
  | map entries => cases entries <;> simp only [hide, blankEntries, isEmpty, List.isEmpty]

end Condition

/-! ## Drafts -/

namespace Draft

mutual

/-- Data without its texts. -/
def blank : Draft → Draft
  | name _ => name ""
  | literal value => literal value
  | list items => list (blankItems items)
  | map entries => map (blankEntries entries)
  | query select => query select.hide

/-- The items of data without their texts. -/
def blankItems : List Draft → List Draft
  | [] => []
  | d :: rest => blank d :: blankItems rest

/-- The entries without the texts in what stands under their keys. -/
def blankEntries : List (String × Draft) → List (String × Draft)
  | [] => []
  | (key, d) :: rest => (key, blank d) :: blankEntries rest

end

mutual

/-- The draft without the texts under the keys of its maps and without those bound in its
queries. -/
def hide : Draft → Draft
  | name token => name token
  | literal value => literal value
  | list items => list (hideItems items)
  | map entries => map (blankEntries entries)
  | query select => query select.hide

/-- The items without the texts under the keys of their maps. -/
def hideItems : List Draft → List Draft
  | [] => []
  | d :: rest => hide d :: hideItems rest

end

mutual

theorem data_blank : ∀ d : Draft, d.blank.data = d.data.blank
  | name _ | literal _ | query _ => by simp only [blank, data, Condition.blank]
  | list items => by simp only [blank, data, Condition.blank, dataItems_blankItems items]
  | map entries => by simp only [blank, data, Condition.blank, dataEntries_blankEntries entries]

theorem dataItems_blankItems :
    ∀ items : List Draft, dataItems (blankItems items) = Condition.blankItems (dataItems items)
  | [] => rfl
  | d :: rest => by
    simp only [blankItems, dataItems, Condition.blankItems, data_blank d,
      dataItems_blankItems rest]

theorem dataEntries_blankEntries : ∀ entries : List (String × Draft),
    dataEntries (blankEntries entries) = Condition.blankEntries (dataEntries entries)
  | [] => rfl
  | (_, d) :: rest => by
    simp only [blankEntries, dataEntries, Condition.blankEntries, data_blank d,
      dataEntries_blankEntries rest]

end

mutual

/-- No text that is hidden is looked up. -/
@[simp] theorem looseNames_hide : ∀ d : Draft, d.hide.looseNames = d.looseNames
  | name _ | literal _ | map _ | query _ => by simp only [hide, looseNames]
  | list items => by simp only [hide, looseNames, looseNamesOfItems_hideItems items]

theorem looseNamesOfItems_hideItems :
    ∀ items : List Draft, looseNamesOfItems (hideItems items) = looseNamesOfItems items
  | [] => rfl
  | d :: rest => by
    simp only [hideItems, looseNamesOfItems, looseNames_hide d, looseNamesOfItems_hideItems rest]

end

variable (find : String → Traced (Option Condition))

mutual

/-- Resolving a draft does not look at its data texts. -/
theorem resolve_hide : ∀ d : Draft,
    Condition.hide <$> d.resolve find =
      d.hide.resolve fun token => Option.map Condition.hide <$> find token
  | name token => by
    simp only [hide, resolve, map_bind, bind_map_left]
    refine bind_congr fun found => ?_
    cases found <;> simp only [map_pure, Option.map, Condition.hide]
  | literal _ | query _ => by simp only [hide, resolve, map_pure, Condition.hide]
  | map entries => by
    simp only [hide, resolve, map_pure, Condition.hide, dataEntries_blankEntries]
  | list items => by
    simp only [hide, resolve, map_bind, map_pure, Condition.hide]
    rw [← resolveItems_hide items, bind_map_left]

theorem resolveItems_hide : ∀ items : List Draft,
    Condition.hideItems <$> resolveItems find items =
      resolveItems (fun token => Option.map Condition.hide <$> find token) (hideItems items)
  | [] => rfl
  | d :: rest => by
    simp only [hideItems, resolveItems, map_bind, map_pure, Condition.hideItems]
    rw [← resolve_hide d, ← resolveItems_hide rest, bind_map_left]
    simp only [bind_map_left]

end

/-- Drafts that differ in data texts alone resolve to conditions that do. -/
theorem resolve_congr_hide {d d' : Draft} (h : d.hide = d'.hide) :
    Condition.hide <$> d.resolve find = Condition.hide <$> d'.resolve find := by
  rw [resolve_hide, h, ← resolve_hide]

end Draft

/-! ## Compilation -/

namespace Condition

theorem scalar_blank (c : Condition) :
    Alike (SameUnder Sql.Value.hide) c.scalar c.blank.scalar := by
  cases c with
  | operand _ => exact .ok rfl
  | value json => exact .sameUnder_refl _ _
  | list _ | map _ | query _ => exact .error _ _

theorem scalar_hide (c : Condition) :
    Alike (SameUnder Sql.Value.hide) c.scalar c.hide.scalar := by
  cases c with
  | operand _ | value _ => exact .sameUnder_refl _ _
  | list _ | map _ | query _ => exact .error _ _

/-- Scalars are bound alike if each of them is. -/
theorem scalars_map {view : Condition → Condition}
    (hview : ∀ c : Condition, Alike (SameUnder Sql.Value.hide) c.scalar (view c).scalar)
    (items : List Condition) :
    Alike (SameUnder (List.map Sql.Value.hide)) (scalars items) (scalars (items.map view)) := by
  induction items with
  | nil => exact .ok rfl
  | cons c rest ih =>
    rw [List.map_cons, scalars, scalars]
    refine (hview c).bind fun v v' hv => ?_
    refine ih.bind fun vs vs' hvs => .ok ?_
    rw [SameUnder, List.map_cons, List.map_cons, hv, hvs]

theorem scalars_blank (items : List Condition) :
    Alike (SameUnder (List.map Sql.Value.hide)) (scalars items) (scalars (blankItems items)) := by
  rw [blankItems_eq_map]
  exact scalars_map scalar_blank items

theorem scalars_hide (items : List Condition) :
    Alike (SameUnder (List.map Sql.Value.hide)) (scalars items) (scalars (hideItems items)) := by
  rw [hideItems_eq_map]
  exact scalars_map scalar_hide items

/-- An entry of a map is the same comparison whatever the texts in it are. -/
theorem compileEntry_blank (column : String) (c : Condition) :
    Alike (SameUnder Sql.Expr.hide) (compileEntry column c) (compileEntry column c.blank) := by
  cases c with
  | operand _ => exact .ok rfl
  | value json => exact .sameUnder_refl _ _
  | list items =>
    cases items with
    | nil => exact .ok rfl
    | cons c rest =>
      refine (scalars_blank (c :: rest)).bind fun vs vs' hvs => .ok ?_
      rw [SameUnder, Sql.Expr.hide, Sql.Expr.hide, hvs]
  | map _ => exact .error _ _
  | query select => exact .ok (by simp only [SameUnder, Sql.Expr.hide, Sql.Select.hide_hide])

theorem compileEntries_blank (entries : List (String × Condition)) :
    Alike (SameUnder (List.map Sql.Expr.hide)) (compileEntries entries)
      (compileEntries (blankEntries entries)) := by
  induction entries with
  | nil => exact .ok rfl
  | cons entry rest ih =>
    obtain ⟨column, c⟩ := entry
    rw [compileEntries, blankEntries, compileEntries]
    refine (compileEntry_blank column c).bind fun e e' he => ?_
    refine ih.bind fun es es' hes => .ok ?_
    rw [SameUnder, List.map_cons, List.map_cons, he, hes]

theorem nameOf_hide (c : Condition) : Alike Eq c.nameOf c.hide.nameOf := by
  cases c with
  | operand _ => exact .ok rfl
  | value _ | list _ | map _ | query _ => exact .error _ _

theorem columnOf_hide (c : Condition) : Alike Eq c.columnOf c.hide.columnOf := by
  unfold columnOf
  refine (nameOf_hide c).bind fun name name' hname => .ok ?_
  rw [hname]

theorem valuesOf_hide (c : Condition) :
    Alike (SameUnder (List.map Sql.Value.hide)) c.valuesOf c.hide.valuesOf := by
  cases c with
  | list items => exact scalars_hide items
  | operand _ | value _ => exact .sameUnder_refl _ _
  | map _ | query _ => exact .error _ _

/-- A test of a column is the same test whatever the data texts in its operands are. -/
theorem compileTest_hide (name : String) (operator : Operator) (operands : List Condition) :
    Alike (SameUnder Sql.Expr.hide) (compileTest name operator operands)
      (compileTest name operator (hideItems operands)) := by
  cases operator with
  | and | or | not => exact .error _ _
  | among negated =>
    match operands with
    | [] | [_] | _ :: _ :: _ :: _ => exact .error _ _
    | [column, values] =>
      simp only [hideItems, compileTest]
      refine (columnOf_hide column).bind fun col _ hcol => ?_
      cases hcol
      cases values with
      | query select =>
        refine .ok ?_
        simp only [SameUnder, Sql.Expr.hide, Sql.Select.hide_hide]
      | operand _ | value _ | list _ | map _ =>
        refine (valuesOf_hide _).bind fun vs vs' hvs => .ok ?_
        rw [SameUnder, Sql.Expr.hide, Sql.Expr.hide, hvs]
  | between negated =>
    match operands with
    | [] | [_] | [_, _] | _ :: _ :: _ :: _ :: _ => exact .error _ _
    | [column, low, high] =>
      simp only [hideItems, compileTest]
      refine (columnOf_hide column).bind fun col _ hcol => ?_
      cases hcol
      refine (scalar_hide low).bind fun v v' hv => ?_
      refine (scalar_hide high).bind fun w w' hw => .ok ?_
      rw [SameUnder, Sql.Expr.hide, Sql.Expr.hide, hv, hw]
  | like negated =>
    match operands with
    | [] | [_] | _ :: _ :: _ :: _ => exact .error _ _
    | [column, pattern] =>
      simp only [hideItems, compileTest]
      refine (columnOf_hide column).bind fun col _ hcol => ?_
      refine (nameOf_hide pattern).bind fun text _ htext => .ok ?_
      rw [hcol, htext]
  | anyRow negated =>
    match operands with
    | [] | [.operand _] | [.value _] | [.list _] | [.map _] =>
      cases negated <;> exact .error _ _
    | first :: _ :: _ => cases negated <;> cases first <;> exact .error _ _
    | [.query select] =>
      cases negated with
      | false =>
        refine .ok ?_
        simp only [SameUnder, Sql.Expr.hide, Sql.Select.hide_hide]
      | true =>
        refine .ok ?_
        simp only [SameUnder, Sql.Expr.hide, Sql.Select.hide_hide]
  | compare comparison =>
    match operands with
    | [] | [_] | _ :: _ :: _ :: _ => exact .error _ _
    | [column, other] =>
      simp only [hideItems, compileTest]
      refine (columnOf_hide column).bind fun col _ hcol => ?_
      cases hcol
      refine (scalar_hide other).bind fun v v' hv => .ok ?_
      rw [SameUnder, Sql.Expr.hide, Sql.Expr.hide, hv]

mutual

/-- Conditions that differ in data texts alone compile to expressions that differ in bound texts
alone. -/
theorem compile_hide : ∀ c : Condition,
    Alike (SameUnder (Option.map Sql.Expr.hide)) c.compile c.hide.compile
  | operand _ | value _ => .sameUnder_refl _ _
  | query _ => .error _ _
  | map entries => by
    simp only [hide, compile]
    refine (compileEntries_blank entries).bind fun es es' hes => .ok ?_
    rw [SameUnder, Sql.Expr.map_hide_all?, Sql.Expr.map_hide_all?, hes]
  | list [] => .ok rfl
  | list (.operand op :: operands) => by
    simp only [hide, hideItems]
    rw [compile.eq_def, compile.eq_def (list (operand op :: hideItems operands))]
    simp only
    have hall := compileAll_hide operands
    cases hop : operators.lookup (lowered op) with
    | none => exact .error _ _
    | some operator =>
      have htest := compileTest_hide (lowered op) operator operands
      cases operator with
      | and =>
        refine hall.bind fun es es' hes => .ok ?_
        rw [SameUnder, Sql.Expr.map_hide_all?, Sql.Expr.map_hide_all?, hes]
      | or =>
        refine hall.bind fun es es' hes => .ok ?_
        rw [SameUnder, Sql.Expr.map_hide_any?, Sql.Expr.map_hide_any?, hes]
      | not =>
        match operands with
        | [] | _ :: _ :: _ => exact .error _ _
        | [inner] =>
          refine (compile_hide inner).bind fun e e' he => .ok ?_
          rw [SameUnder, Sql.Expr.map_hide_not, Sql.Expr.map_hide_not, he]
      | among _ | between _ | like _ | anyRow _ | compare _ =>
        refine htest.bind fun e e' he => .ok ?_
        exact congrArg some he
  | list (.value _ :: _) | list (.list _ :: _) | list (.map _ :: _) | list (.query _ :: _) =>
    .error _ _

theorem compileAll_hide : ∀ items : List Condition,
    Alike (SameUnder (List.map Sql.Expr.hide)) (compileAll items) (compileAll (hideItems items))
  | [] => .ok rfl
  | c :: rest => by
    rw [compileAll, hideItems, compileAll]
    refine (compile_hide c).bind fun e e' he => ?_
    refine (compileAll_hide rest).bind fun es es' hes => .ok ?_
    rw [SameUnder, List.map_append, List.map_append, hes, ← Option.toList_map, he,
      Option.toList_map]

end

theorem compile_congr_hide {c c' : Condition} (h : c.hide = c'.hide) :
    Alike (SameUnder (Option.map Sql.Expr.hide)) c.compile c'.compile := by
  have hc := compile_hide c
  rw [h] at hc
  exact hc.sameUnder_trans (compile_hide c')

end Condition

end Criteria
