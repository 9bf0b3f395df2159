import Criteria.Schema.Query
import Criteria.Trace

/-!
# Relation bindings

A query over a related table, tied to the rows of the table that the relation starts from, and the
condition that the rows have a related one. Through a pivot the tie has two steps. Of a link with
several pairs of columns only the first pair is used.
-/

namespace Criteria

/-- How the rows of a related table are tied to those of the parent. All columns have their
tables. -/
inductive Correlation (κ : Type)
  | direct (own foreign : String)
  | compound (own pivotForeign remoteOwn remoteForeign : String) (pivot : Query κ)

/-- A query over the related table and how it is tied to the parent. -/
structure Binding (κ : Type) where
  target : Query κ
  correlation : Correlation κ

namespace Binding

variable {κ : Type}

/-- The fragment of SQL that compares two columns. -/
def equality (left right : String) : String := left ++ " = " ++ right

/-- The first pair of a link. -/
def firstLink (links : List Link) (fault : Fault) : Traced Link :=
  match links with
  | [] => .fail fault
  | [link] => pure link
  | link :: _ => do
    .note (.compositeLink link.foreign link.own)
    return link

/-- Ties a relation of the parent to it. -/
def prepare (parent : Query κ) (name : String) (relation : Metadata κ) : Traced (Binding κ) :=
  match relation.pivot with
  | none => do
    let link ← firstLink relation.links (.noLink name)
    let own := parent.column link.own
    let foreign := relation.target.column link.foreign
    return ⟨relation.target.restrict (equality own foreign), .direct own foreign⟩
  | some pivot => do
    let remote ← firstLink relation.links (.noLink name)
    let link ← firstLink pivot.links (.noPivotLink name)
    let own := parent.column link.own
    let pivotForeign := pivot.query.column link.foreign
    let remoteOwn := pivot.query.column remote.own
    let remoteForeign := relation.target.column remote.foreign
    return ⟨relation.target.restrict (equality remoteOwn remoteForeign),
      .compound own pivotForeign remoteOwn remoteForeign pivot.query⟩

/-- The condition on the parent: its column is among those of the related rows. -/
def condition (b : Binding κ) : Except Fault Condition :=
  match b.correlation with
  | .direct own foreign => .ok (.map [(own, .query (b.target.selectColumn foreign))])
  | .compound own pivotForeign remoteOwn remoteForeign pivot => do
    let inner : Condition := .map [(remoteOwn, .query (b.target.selectColumn remoteForeign))]
    let pivot ← pivot.merge inner .and
    let pivot := pivot.restrict (equality own pivotForeign)
    return .map [(own, .query (pivot.selectColumn pivotForeign))]

end Binding

end Criteria
