import Criteria.Json.Basic
import Criteria.Text.Quoted

/-!
# Dumps

A value as a tree of names and parts, for a developer to look at, and its two layouts: on one line,
and with every part on a line of its own, indented by four blanks for each level.
-/

namespace Criteria

/-- A value to be shown. -/
inductive Dump
  /-- A text that is shown as it is. -/
  | leaf (text : String)
  /-- A name, and parts in parentheses. -/
  | tuple (name : String) (parts : List Dump)
  /-- A name, and parts in brackets. -/
  | list (name : String) (parts : List Dump)
  /-- A name, and pairs in braces. -/
  | table (name : String) (entries : List (Dump × Dump))
  /-- A name, and named parts in braces. -/
  | record (name : String) (fields : List (String × Dump))

namespace Dump

/-- A text between quotes. -/
def text (s : String) : Dump := leaf (Text.quoted s)

/-- A pair. -/
def pair (a b : Dump) : Dump := tuple "" [a, b]

/-- Blanks before a line at some depth. -/
def indent (depth : Nat) : String := String.ofList (List.replicate (4 * depth) ' ')

mutual

/-- The layout on one line. -/
def inline : Dump → String
  | leaf s => s
  | tuple name parts => name ++ "(" ++ inlineParts parts ++ ")"
  | list name parts => name ++ "[" ++ inlineParts parts ++ "]"
  | table name entries => name ++ "\x7b" ++ inlineEntries entries ++ "\x7d"
  | record name fields => name ++ " \x7b " ++ inlineFields fields ++ " \x7d"

/-- Parts with commas between them. -/
def inlineParts : List Dump → String
  | [] => ""
  | [d] => inline d
  | d :: next :: rest => inline d ++ ", " ++ inlineParts (next :: rest)

/-- Pairs with commas between them. -/
def inlineEntries : List (Dump × Dump) → String
  | [] => ""
  | [(k, v)] => inline k ++ ": " ++ inline v
  | (k, v) :: next :: rest => inline k ++ ": " ++ inline v ++ ", " ++ inlineEntries (next :: rest)

/-- Named parts with commas between them. -/
def inlineFields : List (String × Dump) → String
  | [] => ""
  | [(k, v)] => k ++ ": " ++ inline v
  | (k, v) :: next :: rest => k ++ ": " ++ inline v ++ ", " ++ inlineFields (next :: rest)

end

mutual

/-- The layout over several lines; the lines after the first one are indented for `depth`. -/
def indented (depth : Nat) : Dump → String
  | leaf s => s
  | tuple name parts =>
    name ++ "(\n" ++ indentedParts (depth + 1) parts ++ indent depth ++ ")"
  | list name [] => name ++ "[]"
  | list name parts =>
    name ++ "[\n" ++ indentedParts (depth + 1) parts ++ indent depth ++ "]"
  | table name [] => name ++ "\x7b\x7d"
  | table name entries =>
    name ++ "\x7b\n" ++ indentedEntries (depth + 1) entries ++ indent depth ++ "\x7d"
  | record name fields =>
    name ++ " \x7b\n" ++ indentedFields (depth + 1) fields ++ indent depth ++ "\x7d"

/-- Parts, each on lines of its own with a comma at the end. -/
def indentedParts (depth : Nat) : List Dump → String
  | [] => ""
  | d :: rest => indent depth ++ indented depth d ++ ",\n" ++ indentedParts depth rest

/-- Pairs, each on lines of its own with a comma at the end. -/
def indentedEntries (depth : Nat) : List (Dump × Dump) → String
  | [] => ""
  | (k, v) :: rest =>
    indent depth ++ indented depth k ++ ": " ++ indented depth v ++ ",\n" ++
      indentedEntries depth rest

/-- Named parts, each on lines of its own with a comma at the end. -/
def indentedFields (depth : Nat) : List (String × Dump) → String
  | [] => ""
  | (k, v) :: rest =>
    indent depth ++ k ++ ": " ++ indented depth v ++ ",\n" ++ indentedFields depth rest

end

/-- The layout over several lines. -/
def pretty (d : Dump) : String := indented 0 d

end Dump

namespace Json

mutual

/-- The dump of a JSON value. -/
def dump : Json → Dump
  | null => .leaf "Null"
  | bool b => .leaf (if b then "Bool(true)" else "Bool(false)")
  | number n => .leaf ("Number(" ++ n.json ++ ")")
  | text s => .leaf ("String(" ++ Text.quoted s ++ ")")
  | array items => .list "Array " (dumpItems items)
  | object fields => .table "Object " (dumpFields fields)

def dumpItems : List Json → List Dump
  | [] => []
  | x :: rest => dump x :: dumpItems rest

def dumpFields : List (String × Json) → List (Dump × Dump)
  | [] => []
  | (key, value) :: rest => (.text key, dump value) :: dumpFields rest

end

end Json

end Criteria
