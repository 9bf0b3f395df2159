import Criteria.Proofs.Alike
import Criteria.Proofs.Condition.Meaning
import Criteria.Proofs.Sql.Texts

/-!
# The texts that a condition binds

An operand is an operator, a column, a bound text or a fragment of SQL, only by the place where it
stands. The places are written down here by the names of the operators, without the compiler: the
data of a condition are the texts in its value positions, its fragments are the operands that stand
as conditions. Main statements: a test of a column binds the data behind its column and nothing else
(`Condition.compileTest_mapTest`), and so does every condition, in the order in which they are
written; replacing them changes the bound texts and leaves the frame of the expression
(`Condition.compile_mapTexts`).
-/

namespace Criteria

/-- A text in a value position, as an operand or as a text of JSON. -/
structure Datum where
  text : String
  isOperand : Bool

/-- The text in whose place operands have their images. -/
def Datum.image (f : String → String) (d : Datum) : String :=
  if d.isOperand then f d.text else d.text

namespace Condition

/-! ## Places -/

/-- What the operands under an operator are. In front of values there is a column. -/
inductive Place
  /-- Conditions again. -/
  | condition
  /-- Lists of values, or single ones. -/
  | values
  /-- Single values. -/
  | value
  deriving DecidableEq

/-- The operators with conditions or values under them. -/
def places : List (String × Place) :=
  [("and", .condition), ("or", .condition), ("not", .condition),
    ("in", .values), ("not in", .values),
    ("between", .value), ("not between", .value), ("like", .value), ("not like", .value),
    ("=", .value), ("!=", .value), ("<>", .value), (">", .value), ("<", .value), (">=", .value),
    ("<=", .value)]

def placeOf (op : String) : Option Place := places.lookup (lowered op)

def Operator.place : Operator → Option Place
  | and | or | not => some .condition
  | among _ => some .values
  | between _ | like _ | compare _ => some .value
  | anyRow _ => none

theorem placeOf_eq {op : String} {operator : Operator}
    (h : operators.lookup (lowered op) = some operator) : placeOf op = operator.place := by
  have hall : ∀ entry ∈ operators, places.lookup entry.1 = entry.2.place := by decide
  exact hall _ (mem_operators_of_lookup h)

/-! ## Value positions -/

/-- Replaces the text of a scalar if it is an operand. -/
def mapValue (f : String → String) : Condition → Condition
  | operand text => operand (f text)
  | other => other

/-- Replaces the texts of a scalar or of the items of a list. -/
def mapValues (f : String → String) : Condition → Condition
  | list items => list (items.map (mapValue f))
  | other => other.mapValue f

/-- Replaces the texts behind the column of a test. -/
def mapTest (f : String → String) : Option Place → List Condition → List Condition
  | some .values, column :: operands => column :: operands.map (mapValues f)
  | some .value, column :: operands => column :: operands.map (mapValue f)
  | _, operands => operands

def valueData : Condition → List Datum
  | operand text => [⟨text, true⟩]
  | value (.text s) => [⟨s, false⟩]
  | _ => []

def valuesData : Condition → List Datum
  | list items => items.flatMap valueData
  | other => other.valueData

def testData : Option Place → List Condition → List Datum
  | some .values, _ :: operands => operands.flatMap valuesData
  | some .value, _ :: operands => operands.flatMap valueData
  | _, _ => []

mutual

/-- Replaces the operands in the value positions of a condition. -/
def mapTexts (f : String → String) : Condition → Condition
  | map entries => map (entries.map fun entry => (entry.1, entry.2.mapValues f))
  | list (operand op :: operands) =>
    list (operand op :: if placeOf op = some .condition then mapTextsAll f operands
      else mapTest f (placeOf op) operands)
  | other => other

def mapTextsAll (f : String → String) : List Condition → List Condition
  | [] => []
  | c :: rest => mapTexts f c :: mapTextsAll f rest

end

mutual

/-- The texts in the value positions of a condition, in order. -/
def data : Condition → List Datum
  | map entries => entries.flatMap fun entry => entry.2.valuesData
  | list (operand op :: operands) =>
    if placeOf op = some .condition then dataAll operands else testData (placeOf op) operands
  | _ => []

def dataAll : List Condition → List Datum
  | [] => []
  | c :: rest => data c ++ dataAll rest

end

mutual

/-- The operands that stand as conditions and are not blank, in order. -/
def fragments : Condition → List String
  | operand text => if (Text.trim text.toList).isEmpty then [] else [text]
  | list (operand op :: operands) =>
    if placeOf op = some .condition then fragmentsAll operands else []
  | _ => []

def fragmentsAll : List Condition → List String
  | [] => []
  | c :: rest => fragments c ++ fragmentsAll rest

end

end Condition

/-! ## What is bound -/

section Rebound

open Sql

variable {f : String → String} {data data' : List Datum} {raw raw' : List String}

/-- The first values hold the data, and the second ones are the same but for their images. -/
structure ReboundValues (f : String → String) (data : List Datum) (vs vs' : List Value) :
    Prop where
  frame : vs'.map Value.hide = vs.map Value.hide
  texts : vs.flatMap Value.texts = data.map Datum.text
  images : vs'.flatMap Value.texts = data.map (Datum.image f)

/-- The first expressions hold the data and the fragments, and the second ones are the same but for
the images of the data. -/
structure Rebound (f : String → String) (data : List Datum) (raw : List String)
    (es es' : List Expr) : Prop where
  frame : es'.map Expr.frame = es.map Expr.frame
  texts : es.flatMap Expr.texts = data.map Datum.text
  images : es'.flatMap Expr.texts = data.map (Datum.image f)
  fragments : es.flatMap Expr.fragments = raw

theorem ReboundValues.append {vs vs' ws ws' : List Value} (h : ReboundValues f data vs vs')
    (h' : ReboundValues f data' ws ws') :
    ReboundValues f (data ++ data') (vs ++ ws) (vs' ++ ws') where
  frame := by rw [List.map_append, List.map_append, h.frame, h'.frame]
  texts := by rw [List.flatMap_append, List.map_append, h.texts, h'.texts]
  images := by rw [List.flatMap_append, List.map_append, h.images, h'.images]

namespace Rebound

variable {es es' ds ds' : List Expr} {column : Column} {v v' w w' : Value} {vs vs' : List Value}

theorem append (h : Rebound f data raw es es') (h' : Rebound f data' raw' ds ds') :
    Rebound f (data ++ data') (raw ++ raw') (es ++ ds) (es' ++ ds') where
  frame := by rw [List.map_append, List.map_append, h.frame, h'.frame]
  texts := by rw [List.flatMap_append, List.map_append, h.texts, h'.texts]
  images := by rw [List.flatMap_append, List.map_append, h.images, h'.images]
  fragments := by rw [List.flatMap_append, h.fragments, h'.fragments]

theorem compare (h : ReboundValues f data [v] [v']) (comparison : Comparison) :
    Rebound f data [] [.compare comparison column v] [.compare comparison column v'] where
  frame := by
    have hframe : v'.hide = v.hide := List.singleton_inj.1 h.frame
    simp only [List.map_cons, List.map_nil, Expr.frame, hframe]
  texts := h.texts
  images := h.images
  fragments := rfl

theorem among (h : ReboundValues f data vs vs') (negated : Bool) :
    Rebound f data [] [.among negated column vs] [.among negated column vs'] where
  frame := by simp only [List.map_cons, List.map_nil, Expr.frame, h.frame]
  texts := (List.append_nil _).trans h.texts
  images := (List.append_nil _).trans h.images
  fragments := rfl

theorem between (h : ReboundValues f data [v] [v']) (h' : ReboundValues f data' [w] [w'])
    (negated : Bool) :
    Rebound f (data ++ data') [] [.between negated column v w] [.between negated column v' w'] where
  frame := by
    have hlow : v'.hide = v.hide := List.singleton_inj.1 h.frame
    have hhigh : w'.hide = w.hide := List.singleton_inj.1 h'.frame
    simp only [List.map_cons, List.map_nil, Expr.frame, hlow, hhigh]
  texts := by
    rw [List.flatMap_singleton, List.map_append, ← h.texts, ← h'.texts, List.flatMap_singleton,
      List.flatMap_singleton, Expr.texts]
  images := by
    rw [List.flatMap_singleton, List.map_append, ← h.images, ← h'.images, List.flatMap_singleton,
      List.flatMap_singleton, Expr.texts]
  fragments := rfl

theorem all? (h : Rebound f data raw es es') :
    Rebound f data raw (Expr.all? es).toList (Expr.all? es').toList where
  frame := by
    have hand : ∀ a b : Expr, (a.and b).frame = a.frame.and b.frame := fun _ _ => rfl
    rw [← Option.toList_map, ← Option.toList_map, Expr.map_all? hand, Expr.map_all? hand, h.frame]
  texts := by rw [Expr.flatMap_toList_all? fun _ _ => rfl, h.texts]
  images := by rw [Expr.flatMap_toList_all? fun _ _ => rfl, h.images]
  fragments := by rw [Expr.flatMap_toList_all? fun _ _ => rfl, h.fragments]

theorem any? (h : Rebound f data raw es es') :
    Rebound f data raw (Expr.any? es).toList (Expr.any? es').toList where
  frame := by
    have hor : ∀ a b : Expr, (a.or b).frame = a.frame.or b.frame := fun _ _ => rfl
    rw [← Option.toList_map, ← Option.toList_map, Expr.map_any? hor, Expr.map_any? hor, h.frame]
  texts := by rw [Expr.flatMap_toList_any? fun _ _ => rfl, h.texts]
  images := by rw [Expr.flatMap_toList_any? fun _ _ => rfl, h.images]
  fragments := by rw [Expr.flatMap_toList_any? fun _ _ => rfl, h.fragments]

theorem map_not (h : Rebound f data raw es es') :
    Rebound f data raw (es.map .not) (es'.map .not) where
  frame := by
    have hnot : ∀ ds : List Expr, (ds.map .not).map Expr.frame = (ds.map Expr.frame).map .not := by
      intro ds
      simp only [List.map_map]
      rfl
    rw [hnot, hnot, h.frame]
  texts := by rw [List.flatMap_map]; exact h.texts
  images := by rw [List.flatMap_map]; exact h.images
  fragments := by rw [List.flatMap_map]; exact h.fragments

/-- Expressions that hold no texts are the same. -/
theorem of_texts_eq_nil {e : Expr} (htexts : e.texts = []) (hfragments : e.fragments = []) :
    Rebound f [] [] [e] [e] where
  frame := rfl
  texts := by rw [List.flatMap_singleton, htexts, List.map_nil]
  images := by rw [List.flatMap_singleton, htexts, List.map_nil]
  fragments := by rw [List.flatMap_singleton, hfragments]

end Rebound

end Rebound

/-! ## Compilation -/

namespace Condition

open Sql

variable (f : String → String)

theorem scalar_mapValue (c : Condition) :
    Alike (fun v v' => ReboundValues f c.valueData [v] [v']) c.scalar (c.mapValue f).scalar := by
  cases c with
  | operand _ => exact .ok ⟨rfl, rfl, rfl⟩
  | value json =>
    match json with
    | .null | .array _ | .object _ => exact .error _ _
    | .bool _ | .text _ | .number (.int _) | .number (.real _) => exact .ok ⟨rfl, rfl, rfl⟩
  | list _ | map _ | query _ => exact .error _ _

theorem scalars_mapValue (items : List Condition) :
    Alike (ReboundValues f (items.flatMap valueData)) (scalars items)
      (scalars (items.map (mapValue f))) := by
  induction items with
  | nil => exact .ok ⟨rfl, rfl, rfl⟩
  | cons c rest ih =>
    rw [List.map_cons, List.flatMap_cons, scalars, scalars]
    refine (scalar_mapValue f c).bind fun v v' hv => ?_
    exact ih.bind fun vs vs' hvs => .ok (hv.append hvs)

theorem valuesOf_mapValues (c : Condition) :
    Alike (ReboundValues f c.valuesData) c.valuesOf (c.mapValues f).valuesOf := by
  cases c with
  | list items => exact scalars_mapValue f items
  | operand text => exact .ok ⟨rfl, rfl, rfl⟩
  | value json => exact (scalar_mapValue f (value json)).bind fun v v' hv => .ok hv
  | map _ | query _ => exact .error _ _

/-- An entry of a map binds what stands under its column. -/
theorem compileEntry_mapValues (column : String) (c : Condition) :
    Alike (fun e e' => Rebound f c.valuesData [] [e] [e']) (compileEntry column c)
      (compileEntry column (c.mapValues f)) := by
  cases c with
  | operand _ => exact .ok ⟨rfl, rfl, rfl, rfl⟩
  | value json =>
    match json with
    | .null => exact .ok (.of_texts_eq_nil rfl rfl)
    | .array _ | .object _ => exact .error _ _
    | .bool _ | .text _ | .number (.int _) | .number (.real _) => exact .ok ⟨rfl, rfl, rfl, rfl⟩
  | list items =>
    cases items with
    | nil => exact .ok (.of_texts_eq_nil rfl rfl)
    | cons c rest =>
      exact (scalars_mapValue f (c :: rest)).bind fun vs vs' hvs => .ok (.among hvs false)
  | map _ => exact .error _ _
  | query _ => exact .ok (.of_texts_eq_nil rfl rfl)

theorem compileEntries_mapValues (entries : List (String × Condition)) :
    Alike (Rebound f (entries.flatMap fun entry => entry.2.valuesData) []) (compileEntries entries)
      (compileEntries (entries.map fun entry => (entry.1, entry.2.mapValues f))) := by
  induction entries with
  | nil => exact .ok ⟨rfl, rfl, rfl, rfl⟩
  | cons entry rest ih =>
    obtain ⟨column, c⟩ := entry
    rw [List.map_cons, List.flatMap_cons, compileEntries, compileEntries]
    refine (compileEntry_mapValues f column c).bind fun e e' he => ?_
    exact ih.bind fun es es' hes => .ok (he.append hes)

/-- A test binds what stands behind its column. -/
theorem compileTest_mapTest (name : String) (operator : Operator) (operands : List Condition) :
    Alike (fun e e' => Rebound f (testData operator.place operands) [] [e] [e'])
      (compileTest name operator operands)
      (compileTest name operator (mapTest f operator.place operands)) := by
  cases operator with
  | and | or | not => exact .error _ _
  | among negated =>
    match operands with
    | [] | [_] | _ :: _ :: _ :: _ => exact .error _ _
    | [column, values] =>
      refine .bind_right fun col => ?_
      simp only [Operator.place, testData, List.flatMap_singleton]
      cases values with
      | query select => exact .ok (.of_texts_eq_nil rfl rfl)
      | operand _ | value _ | list _ | map _ =>
        exact (valuesOf_mapValues f _).bind fun vs vs' hvs => .ok (.among hvs negated)
  | between negated =>
    match operands with
    | [] | [_] | [_, _] | _ :: _ :: _ :: _ :: _ => exact .error _ _
    | [column, low, high] =>
      refine .bind_right fun col => ?_
      simp only [Operator.place, testData, List.flatMap_cons, List.flatMap_nil, List.append_nil]
      refine (scalar_mapValue f low).bind fun v v' hv => ?_
      exact (scalar_mapValue f high).bind fun w w' hw => .ok (.between hv hw negated)
  | like negated =>
    match operands with
    | [] | [_] | _ :: _ :: _ :: _ => exact .error _ _
    | [column, pattern] =>
      refine .bind_right fun col => ?_
      cases pattern with
      | operand text => exact .ok ⟨rfl, rfl, rfl, rfl⟩
      | value _ | list _ | map _ | query _ => exact .error _ _
  | anyRow negated =>
    match operands with
    | [.query select] => cases negated <;> exact .ok (.of_texts_eq_nil rfl rfl)
    | [] | [.operand _] | [.value _] | [.list _] | [.map _] =>
      cases negated <;> exact .error _ _
    | first :: _ :: _ => cases negated <;> cases first <;> exact .error _ _
  | compare comparison =>
    match operands with
    | [] | [_] | _ :: _ :: _ :: _ => exact .error _ _
    | [column, other] =>
      refine .bind_right fun col => ?_
      simp only [Operator.place, testData, List.flatMap_singleton]
      exact (scalar_mapValue f other).bind fun v v' hv => .ok (.compare hv comparison)

mutual

/-- A condition binds its data, and has its fragments in it. -/
theorem alike_compile_mapTexts : ∀ c : Condition,
    Alike (fun x x' => Rebound f c.data c.fragments x.toList x'.toList) c.compile
      (c.mapTexts f).compile
  | operand text => by
    simp only [mapTexts, data, fragments, compile]
    refine .ok ?_
    split
    · exact ⟨rfl, rfl, rfl, rfl⟩
    · exact ⟨rfl, rfl, rfl, rfl⟩
  | value json => by
    simp only [mapTexts, data, fragments]
    match json with
    | .null | .bool _ => exact .ok ⟨rfl, rfl, rfl, rfl⟩
    | .number _ | .text _ | .array _ | .object _ => exact .error _ _
  | query _ => .error _ _
  | map entries => by
    simp only [mapTexts, data, fragments, compile]
    exact (compileEntries_mapValues f entries).bind fun es es' hes => .ok hes.all?
  | list [] => .ok ⟨rfl, rfl, rfl, rfl⟩
  | list (.operand op :: operands) => by
    have hall := alike_compileAll_mapTexts operands
    simp only [mapTexts, data, fragments]
    rw [compile.eq_def, compile.eq_def (list (operand op :: _))]
    simp only
    cases hop : operators.lookup (lowered op) with
    | none => exact .error _ _
    | some operator =>
      have htest := compileTest_mapTest f (lowered op) operator operands
      rw [placeOf_eq hop]
      cases operator with
      | and => exact hall.bind fun es es' hes => .ok hes.all?
      | or => exact hall.bind fun es es' hes => .ok hes.any?
      | not =>
        match operands with
        | [] | _ :: _ :: _ => exact .error _ _
        | [inner] =>
          have hdata : dataAll [inner] = inner.data := List.append_nil _
          have hfragments : fragmentsAll [inner] = inner.fragments := List.append_nil _
          rw [hdata, hfragments]
          refine (alike_compile_mapTexts inner).bind fun x x' hx => .ok ?_
          rw [Option.toList_map, Option.toList_map]
          exact hx.map_not
      | among _ | between _ | like _ | anyRow _ | compare _ =>
        exact htest.bind fun e e' he => .ok he
  | list (.value _ :: _) | list (.list _ :: _) | list (.map _ :: _) | list (.query _ :: _) =>
    .error _ _

theorem alike_compileAll_mapTexts : ∀ items : List Condition,
    Alike (Rebound f (dataAll items) (fragmentsAll items)) (compileAll items)
      (compileAll (mapTextsAll f items))
  | [] => .ok ⟨rfl, rfl, rfl, rfl⟩
  | c :: rest => by
    rw [mapTextsAll, dataAll, fragmentsAll, compileAll, compileAll]
    refine (alike_compile_mapTexts c).bind fun x x' hx => ?_
    exact (alike_compileAll_mapTexts rest).bind fun es es' hes => .ok (hx.append hes)

end

/-- Texts in value positions are bound, in order, and nothing else: if they are replaced where they
are operands, there is an expression exactly if there was one, and that is the only one with the
frame of the first one and the images of its texts. The fragments of an expression are the operands
that stand as conditions. -/
theorem compile_mapTexts (c : Condition) :
    ((∃ x, (c.mapTexts f).compile = .ok x) ↔ ∃ x, c.compile = .ok x) ∧
    ∀ x, c.compile = .ok x →
      x.toList.flatMap Expr.texts = c.data.map Datum.text ∧
      x.toList.flatMap Expr.fragments = c.fragments ∧
      ∀ x', (c.mapTexts f).compile = .ok x' ↔
        x'.map Expr.frame = x.map Expr.frame ∧
          x'.toList.flatMap Expr.texts = c.data.map (Datum.image f) := by
  have halike := alike_compile_mapTexts f c
  refine ⟨halike.exists_ok_iff, fun x hx => ?_⟩
  obtain ⟨y, hy, hrebound⟩ := halike.exists_of_ok hx
  have hframe : y.map Expr.frame = x.map Expr.frame := by
    have hlists := hrebound.frame
    rw [← Option.toList_map, ← Option.toList_map] at hlists
    rw [← Option.head?_toList (o := y.map _), hlists, Option.head?_toList]
  refine ⟨hrebound.texts, hrebound.fragments, fun x' => ⟨fun hx' => ?_, ?_⟩⟩
  · rw [hy] at hx'
    cases hx'
    exact ⟨hframe, hrebound.images⟩
  · rintro ⟨hframe', htexts'⟩
    have hsame : x' = y :=
      Expr.eq_of_map_frame_of_texts (hframe'.trans hframe.symm)
        (htexts'.trans hrebound.images.symm)
    rw [hsame, hy]

end Condition

namespace Samples

/-- The title is like a pattern. -/
def titleLike (pattern : String) : Condition :=
  .list [.operand "like", .operand "title", .operand pattern]

/-- Data with the name of an operator and a text of JSON among them, and a fragment. -/
def search : Condition :=
  .list [.operand "AND", .map [("id", .list [.operand "or", .value (.text "2")])],
    .operand "votes > 2", titleLike "%a"]

/-- The expression of the same form that binds these texts. -/
def searchExpr (first second pattern : String) : Sql.Expr :=
  ((Sql.Expr.among false ⟨none, "id"⟩ [.text first, .text second]).and
    (.fragment "votes > 2")).and (.like false ⟨none, "title"⟩ pattern)

theorem compile_search :
    search.compile = .ok (some (searchExpr "or" "2" "%a")) := by
  have hlike : (titleLike "%a").compile = .ok (some (.like false ⟨none, "title"⟩ "%a")) :=
    Condition.compile_test rfl rfl
  have hmap : (Condition.map [("id", .list [.operand "or", .value (.text "2")])]).compile =
      .ok (some (.among false ⟨none, "id"⟩ [.text "or", .text "2"])) := rfl
  have hfragment : (Condition.operand "votes > 2").compile =
      .ok (some (.fragment "votes > 2")) := rfl
  rw [search, Condition.compile_and rfl]
  simp only [Condition.compileAll, hmap, hfragment, hlike]
  rfl

/-- A quote in a text stays in the text. -/
theorem compile_mapTexts_search :
    search.compile = .ok (some (searchExpr "or" "2" "%a")) ∧
      (search.mapTexts fun s => s ++ "' OR 1").compile =
        .ok (some (searchExpr "or' OR 1" "2" "%a' OR 1")) := by
  have hand : Condition.placeOf "AND" = some .condition := by decide
  have hlike : Condition.placeOf "like" = some .value := by decide
  have hdata : search.data = [⟨"or", true⟩, ⟨"2", false⟩, ⟨"%a", true⟩] := by
    simp only [search, titleLike, Condition.data, Condition.dataAll, hand, hlike]
    rfl
  obtain ⟨-, -, himages⟩ :=
    (Condition.compile_mapTexts (fun s => s ++ "' OR 1") search).2 _ compile_search
  refine ⟨compile_search, (himages _).2 ⟨rfl, ?_⟩⟩
  rw [hdata]
  rfl

end Samples

end Criteria
