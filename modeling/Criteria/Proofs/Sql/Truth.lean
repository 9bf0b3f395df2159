/-!
# Truth values of SQL

True, false and unknown with the three-valued connectives. Conjunctions and disjunctions of lists do
not depend on how they are grouped (`foldl_and`, `foldl_or`).
-/

namespace Criteria.Sql

/-- A truth value. -/
inductive Truth
  | yes
  | no
  | unknown
  deriving DecidableEq

namespace Truth

/-- True or false. -/
def ofBool (b : Bool) : Truth := if b then yes else no

/-- Negation: unknown stays unknown. -/
def not : Truth → Truth
  | yes => no
  | no => yes
  | unknown => unknown

/-- Conjunction: false if one side is, true if both are. -/
def and : Truth → Truth → Truth
  | no, _ | _, no => no
  | yes, yes => yes
  | _, _ => unknown

/-- Disjunction: true if one side is, false if both are. -/
def or : Truth → Truth → Truth
  | yes, _ | _, yes => yes
  | no, no => no
  | _, _ => unknown

/-- The conjunction of truth values; of none it is true. -/
def all (ts : List Truth) : Truth := ts.foldr and yes

/-- The disjunction of truth values; of none it is false. -/
def any (ts : List Truth) : Truth := ts.foldr or no

/-- The conjunction of truth values, if there are any. -/
def all? (ts : List Truth) : Option Truth := if ts.isEmpty then none else some (all ts)

/-- The disjunction of truth values, if there are any. -/
def any? (ts : List Truth) : Option Truth := if ts.isEmpty then none else some (any ts)

@[simp] theorem not_ofBool (b : Bool) : (ofBool b).not = ofBool !b := by cases b <;> rfl

@[simp] theorem and_yes (t : Truth) : t.and yes = t := by cases t <;> rfl

@[simp] theorem or_no (t : Truth) : t.or no = t := by cases t <;> rfl

theorem and_comm (s t : Truth) : s.and t = t.and s := by cases s <;> cases t <;> rfl

theorem or_comm (s t : Truth) : s.or t = t.or s := by cases s <;> cases t <;> rfl

theorem and_assoc (s t u : Truth) : (s.and t).and u = s.and (t.and u) := by
  cases s <;> cases t <;> cases u <;> rfl

theorem or_assoc (s t u : Truth) : (s.or t).or u = s.or (t.or u) := by
  cases s <;> cases t <;> cases u <;> rfl

theorem foldl_and (t : Truth) (ts : List Truth) : ts.foldl and t = t.and (all ts) := by
  induction ts generalizing t with
  | nil => exact (and_yes t).symm
  | cons s ts ih =>
    rw [List.foldl_cons, ih, and_assoc]
    rfl

theorem foldl_or (t : Truth) (ts : List Truth) : ts.foldl or t = t.or (any ts) := by
  induction ts generalizing t with
  | nil => exact (or_no t).symm
  | cons s ts ih =>
    rw [List.foldl_cons, ih, or_assoc]
    rfl

theorem and_eq_yes_iff {s t : Truth} : s.and t = yes ↔ s = yes ∧ t = yes := by
  cases s <;> cases t <;> decide

theorem or_eq_yes_iff {s t : Truth} : s.or t = yes ↔ s = yes ∨ t = yes := by
  cases s <;> cases t <;> decide

/-- A conjunction is true if all of it is. -/
theorem all_eq_yes_iff {ts : List Truth} : all ts = yes ↔ ∀ t ∈ ts, t = yes := by
  induction ts with
  | nil => simp [all]
  | cons t ts ih =>
    have hstep : all (t :: ts) = t.and (all ts) := rfl
    rw [hstep, and_eq_yes_iff, ih, List.forall_mem_cons]

/-- A disjunction is true if some of it is. -/
theorem any_eq_yes_iff {ts : List Truth} : any ts = yes ↔ yes ∈ ts := by
  induction ts with
  | nil => simp [any]
  | cons t ts ih =>
    have hstep : any (t :: ts) = t.or (any ts) := rfl
    rw [hstep, or_eq_yes_iff, ih, List.mem_cons, eq_comm]

end Truth

end Criteria.Sql
