import Criteria.Sql.Basic

/-!
# Chains of expressions

Conjunctions and disjunctions of several expressions are chains that are grouped to the left. Main
statements: a view of expressions that commutes with the connective is the chain of its values at
the links (`Expr.view_foldl`), and what it collects in a chain is what it collects in the links
(`Expr.view_foldl_append`).
-/

namespace Criteria.Sql.Expr

variable {α : Type} {op : Expr → Expr → Expr}

/-- A view of a chain is the chain of the views of its links. -/
theorem view_foldl (view : Expr → α) {op' : α → α → α}
    (hop : ∀ a b, view (op a b) = op' (view a) (view b)) (es : List Expr) (e : Expr) :
    view (es.foldl op e) = (es.map view).foldl op' (view e) := by
  induction es generalizing e with
  | nil => rfl
  | cons a rest ih => rw [List.foldl_cons, ih, hop, List.map_cons, List.foldl_cons]

/-- What is collected in a chain is what is collected in its links. -/
theorem view_foldl_append {view : Expr → List α}
    (hop : ∀ a b, view (op a b) = view a ++ view b) (es : List Expr) (e : Expr) :
    view (es.foldl op e) = (e :: es).flatMap view := by
  rw [view_foldl view hop, List.foldl_append_eq_append, List.flatMap_cons, List.flatMap_def]
  simp only [List.map_id_fun', id]

theorem map_all? {view : Expr → Expr} (hview : ∀ a b, view (and a b) = and (view a) (view b))
    (es : List Expr) : (all? es).map view = all? (es.map view) := by
  cases es with
  | nil => rfl
  | cons e rest => exact congrArg some (view_foldl view hview rest e)

theorem map_any? {view : Expr → Expr} (hview : ∀ a b, view (or a b) = or (view a) (view b))
    (es : List Expr) : (any? es).map view = any? (es.map view) := by
  cases es with
  | nil => rfl
  | cons e rest => exact congrArg some (view_foldl view hview rest e)

theorem flatMap_toList_all? {view : Expr → List α}
    (hview : ∀ a b, view (and a b) = view a ++ view b) (es : List Expr) :
    (all? es).toList.flatMap view = es.flatMap view := by
  cases es with
  | nil => rfl
  | cons e rest => exact (List.append_nil _).trans (view_foldl_append hview rest e)

theorem flatMap_toList_any? {view : Expr → List α}
    (hview : ∀ a b, view (or a b) = view a ++ view b) (es : List Expr) :
    (any? es).toList.flatMap view = es.flatMap view := by
  cases es with
  | nil => rfl
  | cons e rest => exact (List.append_nil _).trans (view_foldl_append hview rest e)

end Criteria.Sql.Expr
