import Criteria.Trace

/-!
# Resolving drafts

The condition that a draft is, given a look-up of names. Lists are resolved item by item, in order;
what stands under a key of a map is data.
-/

namespace Criteria.Draft

mutual

/-- The condition that a draft is if `find` looks up its names. A name that stands for nothing else
is an operand. -/
def resolve (find : String → Traced (Option Condition)) : Draft → Traced Condition
  | name token => do
    match ← find token with
    | some c => return c
    | none => return .operand token
  | literal value => return .value value
  | list items => do
    let cs ← resolveItems find items
    return .list cs
  | map entries => return .map (dataEntries entries)
  | query select => return .query select

def resolveItems (find : String → Traced (Option Condition)) :
    List Draft → Traced (List Condition)
  | [] => return []
  | d :: rest => do
    let c ← resolve find d
    let cs ← resolveItems find rest
    return c :: cs

end

end Criteria.Draft
