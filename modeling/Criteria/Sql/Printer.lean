import Criteria.Sql.Basic

/-!
# SQL text

The text of expressions and queries in each dialect. An operand of a connective stands in
parentheses unless it is a constant, a test other than `BETWEEN`, or, on the left, an expression of
the same connective.
-/

namespace Criteria.Sql

namespace Dialect

/-- The quote around names. -/
def nameQuote : Dialect → Char
  | mysql => '\x60'
  | postgres | sqlite => '"'

/-- A name between quotes; a quote inside it is doubled. -/
def name (d : Dialect) (s : String) : String :=
  let quote := d.nameQuote
  String.ofList (quote :: s.toList.flatMap (fun c => if c = quote then [c, c] else [c]) ++ [quote])

/-- How a character stands in a literal with backslash escapes. -/
def escapeChar (c : Char) : List Char :=
  if c = '\\' then ['\\', '\\']
  else if c = '"' then ['\\', '"']
  else if c = '\'' then ['\\', '\'']
  else if c = '\x00' then ['\\', '0']
  else if c = '\x08' then ['\\', 'b']
  else if c = '\t' then ['\\', 't']
  else if c = '\x1a' then ['\\', 'z']
  else if c = '\n' then ['\\', 'n']
  else if c = '\r' then ['\\', 'r']
  else [c]

/-- A string literal. SQLite doubles the quote inside it; the others escape with backslashes, which
Postgres announces with an `E`. -/
def literal (d : Dialect) (s : String) : String :=
  match d with
  | sqlite =>
    String.ofList ('\'' :: s.toList.flatMap (fun c => if c = '\'' then [c, c] else [c]) ++ ['\''])
  | mysql => String.ofList ('\'' :: s.toList.flatMap escapeChar ++ ['\''])
  | postgres =>
    let inner := s.toList.flatMap escapeChar
    let quoted := '\'' :: inner ++ ['\'']
    String.ofList (if inner.contains '\\' then 'E' :: quoted else quoted)

end Dialect

def boolText (b : Bool) : String := if b then "TRUE" else "FALSE"

namespace Value

def render (d : Dialect) : Value → String
  | bool b => boolText b
  | int n => toString n
  | real x => x.plain
  | text s => d.literal s

def renderList (d : Dialect) (values : List Value) : String :=
  ", ".intercalate (values.map (Value.render d))

end Value

namespace Column

def render (d : Dialect) (c : Column) : String :=
  match c.table with
  | some table => d.name table ++ "." ++ d.name c.name
  | none => d.name c.name

end Column

namespace Comparison

def sign : Comparison → String
  | eq => "="
  | ne => "<>"
  | gt => ">"
  | lt => "<"
  | ge => ">="
  | le => "<="

end Comparison

namespace Expr

/-- The expression may be an operand of a connective without parentheses. -/
def isClosed : Expr → Bool
  | constant _ | isNull _ | compare .. | among .. | within .. | like .. | anyRow _ => true
  | fragment _ | between .. | not _ | and .. | or .. => false

end Expr

/-- The word that negates a test, where it is the negated form. -/
def notText (negated : Bool) : String := if negated then "NOT " else ""

/-- Parentheses around a text unless it may stand alone. -/
def group (bare : Bool) (s : String) : String := if bare then s else "(" ++ s ++ ")"

mutual

def Expr.render (d : Dialect) : Expr → String
  | .constant b => boolText b
  | .fragment s => s
  | .isNull c => c.render d ++ " IS NULL"
  | .compare comparison c v => c.render d ++ " " ++ comparison.sign ++ " " ++ v.render d
  | .among negated _ [] => if negated then "1 = 1" else "1 = 2"
  | .among negated c values =>
    c.render d ++ " " ++ notText negated ++ "IN (" ++ Value.renderList d values ++ ")"
  | .within negated c query =>
    c.render d ++ " " ++ notText negated ++ "IN (" ++ query.render d ++ ")"
  | .between negated c low high =>
    c.render d ++ " " ++ notText negated ++ "BETWEEN " ++ low.render d ++ " AND " ++ high.render d
  | .like negated c pattern => c.render d ++ " " ++ notText negated ++ "LIKE " ++ d.literal pattern
  | .anyRow query => "EXISTS(" ++ query.render d ++ ")"
  | .not e => "NOT " ++ group e.isClosed (e.render d)
  | .and a b =>
    group (a.isClosed || a matches .and ..) (a.render d) ++ " AND " ++ group b.isClosed (b.render d)
  | .or a b =>
    group (a.isClosed || a matches .or ..) (a.render d) ++ " OR " ++ group b.isClosed (b.render d)

def Select.render (d : Dialect) : Select → String
  | .select column table filter =>
    let what := match column with
      | some c => c.render d
      | none => "*"
    "SELECT " ++ what ++ " FROM " ++ d.name table ++ renderFilter d filter

def renderFilter (d : Dialect) : Option Expr → String
  | none => ""
  | some e => " WHERE " ++ e.render d

end

end Criteria.Sql
