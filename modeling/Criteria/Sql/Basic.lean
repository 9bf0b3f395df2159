import Criteria.Number.Shortest
import Criteria.Text.Blank

/-!
# SQL expressions and queries

The part of SQL that conditions compile to: columns, bound values, boolean expressions over them,
and queries over one table, which may stand inside expressions.

Main statements: a name without blanks, quotes and points is read as a column of that name
(`Column.ofString_of_isBare`), and with a table and a point before it as a column of the table
(`Column.ofString_append_of_isBare`), also where quotes and blanks stand around the names
(`Column.ofString_append_of_isWritten`).
-/

namespace Criteria.Sql

/-- The SQL dialect that a query is written in. -/
inductive Dialect
  | postgres
  | mysql
  | sqlite
  deriving DecidableEq, Inhabited

/-- A column, alone or of a table. -/
structure Column where
  table : Option String
  name : String
  deriving DecidableEq

/-- A bound value. -/
inductive Value
  | bool (value : Bool)
  | int (value : Int)
  | real (value : Double)
  | text (value : String)
  deriving DecidableEq

/-- A comparison of a column with a value. -/
inductive Comparison
  | eq
  | ne
  | gt
  | lt
  | ge
  | le
  deriving DecidableEq

mutual

/-- A boolean expression. The flag of a test tells whether it is the negated form. -/
inductive Expr
  | constant (value : Bool)
  | fragment (text : String)
  | isNull (column : Column)
  | compare (comparison : Comparison) (column : Column) (value : Value)
  | among (negated : Bool) (column : Column) (values : List Value)
  | within (negated : Bool) (column : Column) (query : Select)
  | between (negated : Bool) (column : Column) (low high : Value)
  | like (negated : Bool) (column : Column) (pattern : String)
  | anyRow (query : Select)
  | not (expr : Expr)
  | and (left right : Expr)
  | or (left right : Expr)

/-- A query over one table: the column that it selects (all columns without one), the table, and the
filter on its rows. -/
inductive Select
  | select (column : Option Column) (table : String) (filter : Option Expr)

end

instance : Inhabited Select := ⟨.select none "" none⟩

namespace Column

/-- The character quotes a name in some dialect. -/
def isQuote (c : Char) : Bool := c == '\x60' || c == '"'

/-- A part of a column name without the blanks around it and without its quotes. -/
def unquote (part : List Char) : String :=
  let start := (Text.trim part).dropWhile isQuote
  String.ofList (start.reverse.dropWhile isQuote).reverse

/-- What stands before and after the last point; `none` without one. -/
def splitLast? : List Char → Option (List Char × List Char)
  | [] => none
  | c :: rest =>
    match splitLast? rest with
    | some (before, after) => some (c :: before, after)
    | none => if c = '.' then some ([], rest) else none

/-- Reads `column` or `table.column`, each part with or without quotes. The table is all that stands
before the last point. -/
def ofString (name : String) : Column :=
  match splitLast? name.toList with
  | some (table, column) => ⟨some (unquote table), unquote column⟩
  | none => ⟨none, unquote name.toList⟩

/-! ## How columns are written -/

/-- A name that needs no quotes: it has neither blanks nor quotes. -/
def IsBare (name : String) : Prop :=
  ∀ c ∈ name.toList, Text.isBlank c = false ∧ isQuote c = false

/-- The ways to write a name: with quotes around it, and with blanks around these. -/
inductive IsWritten (name : String) : List Char → Prop
  | mk {before opening closing after : List Char} (hbare : IsBare name)
    (hbefore : ∀ c ∈ before, Text.isBlank c = true) (hopening : ∀ c ∈ opening, isQuote c = true)
    (hclosing : ∀ c ∈ closing, isQuote c = true) (hafter : ∀ c ∈ after, Text.isBlank c = true) :
    IsWritten name (before ++ (opening ++ (name.toList ++ closing)) ++ after)

variable {name : String} {part : List Char}

theorem IsBare.isWritten (h : IsBare name) : IsWritten name name.toList := by
  have hwritten : IsWritten name ([] ++ ([] ++ (name.toList ++ [])) ++ []) :=
    .mk h (List.forall_mem_nil _) (List.forall_mem_nil _) (List.forall_mem_nil _)
      (List.forall_mem_nil _)
  simpa using hwritten

theorem isQuote_iff {c : Char} : isQuote c = true ↔ c = '\x60' ∨ c = '"' := by
  simp [isQuote]

theorem isBlank_of_isQuote {c : Char} (h : isQuote c = true) : Text.isBlank c = false := by
  rcases isQuote_iff.1 h with rfl | rfl <;> rfl

theorem dropWhile_isQuote {quotes s : List Char} (hquotes : ∀ c ∈ quotes, isQuote c = true)
    (hs : ∀ c ∈ s.head?, isQuote c = false) : (quotes ++ s).dropWhile isQuote = s := by
  rw [List.dropWhile_append_of_pos hquotes]
  cases s with
  | nil => rfl
  | cons c s => exact List.dropWhile_cons_of_neg (by simp [hs c rfl])

/-- A name is read as it is meant, in whichever way it is written. -/
theorem IsWritten.unquote_eq (h : IsWritten name part) : unquote part = name := by
  obtain @⟨before, opening, closing, after, hbare, hbefore, hopening, hclosing, hafter⟩ := h
  have hvisible : ∀ c ∈ opening ++ (name.toList ++ closing), Text.isBlank c = false := by
    intro c hc
    rcases List.mem_append.1 hc with hc | hc
    · exact isBlank_of_isQuote (hopening c hc)
    · rcases List.mem_append.1 hc with hc | hc
      · exact (hbare c hc).1
      · exact isBlank_of_isQuote (hclosing c hc)
  have hbehind : ∀ c ∈ closing.reverse, isQuote c = true :=
    fun c hc => hclosing c (List.mem_reverse.1 hc)
  have hlast : ∀ c ∈ name.toList.reverse.head?, isQuote c = false :=
    fun c hc => (hbare c (List.mem_reverse.1 (List.mem_of_mem_head? hc))).2
  rw [unquote, Text.trim_append_of_blank hbefore hafter, Text.trim_eq_self hvisible]
  cases hname : name.toList with
  | nil =>
    -- then the quotes behind the name are taken for quotes in front of it
    have hquotes : ∀ c ∈ opening ++ closing, isQuote c = true :=
      List.forall_mem_append.2 ⟨hopening, hclosing⟩
    have hdrop : (opening ++ closing ++ []).dropWhile isQuote = [] :=
      dropWhile_isQuote hquotes nofun
    rw [List.append_nil] at hdrop
    rw [List.nil_append, hdrop, ← String.toList_inj, hname]
    rfl
  | cons c rest =>
    have hfirst : ∀ d ∈ (name.toList ++ closing).head?, isQuote d = false := by
      rw [hname]
      rintro d ⟨⟩
      exact (hbare c (hname ▸ List.mem_cons_self)).2
    rw [← hname, dropWhile_isQuote hopening hfirst, List.reverse_append,
      dropWhile_isQuote hbehind hlast, List.reverse_reverse, String.ofList_toList]

theorem IsWritten.not_mem (h : IsWritten name part) (hpoint : '.' ∉ name.toList) : '.' ∉ part := by
  obtain @⟨before, opening, closing, after, -, hbefore, hopening, hclosing, hafter⟩ := h
  have hblank : Text.isBlank '.' ≠ true := by decide
  have hquote : isQuote '.' ≠ true := by decide
  simp only [List.mem_append, not_or]
  exact ⟨⟨fun h => hblank (hbefore _ h), fun h => hquote (hopening _ h), hpoint,
    fun h => hquote (hclosing _ h)⟩, fun h => hblank (hafter _ h)⟩

theorem splitLast?_of_not_mem {s : List Char} (h : '.' ∉ s) : splitLast? s = none := by
  induction s with
  | nil => rfl
  | cons c s ih =>
    rw [List.mem_cons, not_or] at h
    obtain ⟨hc, hs⟩ := h
    rw [splitLast?, ih hs]
    exact if_neg (Ne.symm hc)

theorem splitLast?_append (before : List Char) {after : List Char} (h : '.' ∉ after) :
    splitLast? (before ++ '.' :: after) = some (before, after) := by
  induction before with
  | nil =>
    rw [List.nil_append, splitLast?, splitLast?_of_not_mem h]
    rfl
  | cons c before ih => rw [List.cons_append, splitLast?, ih]

/-- A name without points is that of a column. -/
theorem ofString_of_isWritten (h : IsWritten name part) (hpoint : '.' ∉ name.toList) :
    ofString (String.ofList part) = ⟨none, name⟩ := by
  rw [ofString, String.toList_ofList, splitLast?_of_not_mem (h.not_mem hpoint)]
  show Column.mk none (unquote part) = _
  rw [h.unquote_eq]

/-- Behind a point, a name without points is that of a column of the table before the point. -/
theorem ofString_append_of_isWritten {table : String} {tablePart : List Char}
    (htable : IsWritten table tablePart) (h : IsWritten name part) (hpoint : '.' ∉ name.toList) :
    ofString (String.ofList (tablePart ++ '.' :: part)) = ⟨some table, name⟩ := by
  rw [ofString, String.toList_ofList, splitLast?_append tablePart (h.not_mem hpoint)]
  show Column.mk (some (unquote tablePart)) (unquote part) = _
  rw [htable.unquote_eq, h.unquote_eq]

theorem ofString_of_isBare (h : IsBare name) (hpoint : '.' ∉ name.toList) :
    ofString name = ⟨none, name⟩ := by
  have hread := ofString_of_isWritten h.isWritten hpoint
  rwa [String.ofList_toList] at hread

theorem ofString_append_of_isBare {table : String} (htable : IsBare table) (h : IsBare name)
    (hpoint : '.' ∉ name.toList) : ofString (table ++ "." ++ name) = ⟨some table, name⟩ := by
  have htext : (table ++ "." ++ name).toList = table.toList ++ '.' :: name.toList := by
    rw [String.toList_append, String.toList_append, List.append_assoc]
    rfl
  have hread := ofString_append_of_isWritten htable.isWritten h.isWritten hpoint
  rwa [← htext, String.ofList_toList] at hread

example : ofString " \x60shop.orders\x60.\"id\"" = ⟨some "shop.orders", "id"⟩ := by decide

end Column

namespace Expr

/-- The conjunction of expressions, grouped to the left; none of them leave nothing. -/
def all? : List Expr → Option Expr
  | [] => none
  | e :: rest => some (rest.foldl and e)

/-- The disjunction of expressions, grouped to the left; none of them leave nothing. -/
def any? : List Expr → Option Expr
  | [] => none
  | e :: rest => some (rest.foldl or e)

@[simp] theorem all?_nil : all? [] = none := rfl

@[simp] theorem any?_nil : any? [] = none := rfl

end Expr

end Criteria.Sql
