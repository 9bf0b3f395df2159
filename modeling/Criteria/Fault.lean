import Criteria.Condition.Compile

/-!
# Faults

The errors of a compilation and their messages. A method name that is no condition call, or whose
condition does not exist, is no fault.
-/

namespace Criteria

/-- Why a compilation failed. -/
inductive Fault
  /-- A definition was asked for with the token of another model. -/
  | wrongToken (condition : String)
  /-- A relation has no link columns. -/
  | noLink (relation : String)
  /-- The pivot of a relation has no link columns, or does not exist. -/
  | noPivotLink (relation : String)
  /-- There is no such model. -/
  | unknownModel (model : String)
  /-- The condition has no SQL. -/
  | malformed (cause : Malformed)
  /-- References led on from definition to definition beyond the limit. -/
  | tooDeep (name : String) (limit : Nat)
  /-- A reference to a condition that cannot be found. -/
  | unresolved (token : String)

namespace Fault

def message : Fault → String
  | wrongToken condition =>
    "authorization token mismatch while reading condition \x60" ++ condition ++ "\x60"
  | noLink relation => "relation \x60" ++ relation ++ "\x60 has no link columns"
  | noPivotLink relation => "pivot of relation \x60" ++ relation ++ "\x60 has no link columns"
  | unknownModel model => "unknown model: " ++ model
  | malformed cause => "malformed condition: " ++ cause.message
  | tooDeep name limit =>
    "expansion of \x60" ++ name ++ "\x60 exceeded the maximum depth of " ++ toString limit
  | unresolved token => "unresolved condition reference: " ++ token

/-- The words of the error show a query. -/
def showsQuery : Fault → Bool
  | malformed cause => cause.showsQuery
  | _ => false

end Fault

end Criteria
