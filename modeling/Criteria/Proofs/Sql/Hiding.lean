import Criteria.Proofs.Sql.Chain

/-!
# Expressions without the texts bound in them

What an expression is apart from the contents of the texts that are bound in it: its columns, its
operators, its fragments of SQL, its patterns and its other values, those of the queries inside it
included. Main statement: nothing is left to hide once the texts are hidden (`Expr.hide_hide`).
-/

namespace Criteria.Sql

namespace Value

/-- The value without its content if it is a text. -/
def hide : Value → Value
  | text _ => text ""
  | other => other

@[simp] theorem hide_hide (v : Value) : v.hide.hide = v.hide := by
  cases v <;> rfl

end Value

mutual

/-- The expression without the contents of the texts bound in it. -/
def Expr.hide : Expr → Expr
  | .constant b => .constant b
  | .fragment s => .fragment s
  | .isNull c => .isNull c
  | .compare comparison c v => .compare comparison c v.hide
  | .among negated c values => .among negated c (values.map Value.hide)
  | .within negated c query => .within negated c query.hide
  | .between negated c low high => .between negated c low.hide high.hide
  | .like negated c pattern => .like negated c pattern
  | .anyRow query => .anyRow query.hide
  | .not e => .not e.hide
  | .and a b => .and a.hide b.hide
  | .or a b => .or a.hide b.hide

/-- The query without the contents of the texts bound in it. -/
def Select.hide : Select → Select
  | .select column table filter => .select column table (hideFilter filter)

/-- The filter without the contents of the texts bound in it. -/
def hideFilter : Option Expr → Option Expr
  | none => none
  | some e => some e.hide

end

theorem map_hide_hide (values : List Value) :
    (values.map Value.hide).map Value.hide = values.map Value.hide := by
  rw [List.map_map]
  exact List.map_congr_left fun v _ => v.hide_hide

mutual

/-- Hiding the texts a second time changes nothing. -/
@[simp] theorem Expr.hide_hide : ∀ e : Expr, e.hide.hide = e.hide
  | .constant _ | .fragment _ | .isNull _ | .like .. => by simp only [Expr.hide]
  | .compare .. | .between .. => by simp only [Expr.hide, Value.hide_hide]
  | .among .. => by simp only [Expr.hide, map_hide_hide]
  | .within _ _ query | .anyRow query => by simp only [Expr.hide, Select.hide_hide query]
  | .not e => by simp only [Expr.hide, Expr.hide_hide e]
  | .and a b | .or a b => by simp only [Expr.hide, Expr.hide_hide a, Expr.hide_hide b]

@[simp] theorem Select.hide_hide : ∀ s : Select, s.hide.hide = s.hide
  | .select _ _ filter => by
    simp only [Select.hide]
    rw [hideFilter_hideFilter filter]

theorem hideFilter_hideFilter :
    ∀ filter : Option Expr, hideFilter (hideFilter filter) = hideFilter filter
  | none => by simp only [hideFilter]
  | some e => by simp only [hideFilter, Expr.hide_hide e]

end

namespace Expr

theorem map_hide_all? (es : List Expr) : (all? es).map hide = all? (es.map hide) :=
  map_all? (fun a b => by rw [hide]) es

theorem map_hide_any? (es : List Expr) : (any? es).map hide = any? (es.map hide) :=
  map_any? (fun a b => by rw [hide]) es

theorem map_hide_not (e : Option Expr) :
    (e.map .not).map hide = (e.map hide).map .not := by
  cases e with
  | none => rfl
  | some e => simp only [Option.map_some, hide]

end Expr

end Criteria.Sql
