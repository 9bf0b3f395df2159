import Criteria.Proofs.Expansion.Filter
import Criteria.Proofs.Sql.Evaluation
import Mathlib.Data.List.Perm.Basic

/-!
# The order of merges

Drafts that are merged into a query one after another. Each of them compiles to the same expression
wherever it stands, so that the filter is the conjunction, or the disjunction, of these expressions.
Main statement: in another order the merges succeed as well, and lead to a filter with the same
truth value (`Query.mergeDrafts_perm`).
-/

namespace Criteria

open Sql

/-- What a connective does to truth values. -/
def Connective.truth : Connective → Truth → Truth → Truth
  | and => Truth.and
  | or => Truth.or

instance (connective : Connective) : Std.Commutative connective.truth where
  comm s t := by
    cases connective with
    | and => exact Truth.and_comm s t
    | or => exact Truth.or_comm s t

instance (connective : Connective) : Std.Associative connective.truth where
  assoc s t u := by
    cases connective with
    | and => exact Truth.and_assoc s t u
    | or => exact Truth.or_assoc s t u

/-- Truth values that may be missing are combined in any order. -/
instance {α : Type} (connective : Connective) (value : α → Option Truth) :
    RightCommutative fun t a => Option.merge connective.truth t (value a) where
  right_comm t a b := by
    have hmerge : RightCommutative (Option.merge connective.truth) := inferInstance
    exact hmerge.right_comm t (value a) (value b)

namespace Query

variable {κ : Type}

/-- The truth value of a filter, if there is one, when those of its atoms are given. -/
def truth? (q : Query κ) (atom : Expr → Truth) : Option Truth := q.filter.map (Expr.truth atom)

theorem truth?_addFilter? (q : Query κ) (e : Option Expr) (connective : Connective)
    (atom : Expr → Truth) :
    (q.addFilter? e connective).truth? atom =
      Option.merge connective.truth (q.truth? atom) (e.map (Expr.truth atom)) := by
  obtain ⟨schema, model, filter⟩ := q
  cases e with
  | none => exact Option.merge_none_right.symm
  | some e =>
    cases filter with
    | none => rfl
    | some current => cases connective <;> rfl

theorem truth?_foldl_addFilter? (connective : Connective) (atom : Expr → Truth)
    (es : List (Option Expr)) (q : Query κ) :
    (es.foldl (fun q e => q.addFilter? e connective) q).truth? atom =
      es.foldl (fun t e => Option.merge connective.truth t (e.map (Expr.truth atom)))
        (q.truth? atom) := by
  induction es generalizing q with
  | nil => rfl
  | cons e es ih => rw [List.foldl_cons, List.foldl_cons, ih, truth?_addFilter?]

theorem exists_withFilter_of_foldl (connective : Connective) (es : List (Option Expr))
    (q : Query κ) :
    ∃ filter, es.foldl (fun q e => q.addFilter? e connective) q = q.withFilter filter := by
  induction es generalizing q with
  | nil => exact ⟨q.filter, rfl⟩
  | cons e es ih =>
    obtain ⟨filter, hfilter⟩ := exists_withFilter_of_addFilter? q e connective
    rw [List.foldl_cons, hfilter]
    exact ih (q.withFilter filter)

variable [Computed κ] {q : Query κ} {d : Draft} {connective : Connective}

/-- Merges drafts into a query, one after another. -/
def mergeDrafts (q : Query κ) (connective : Connective) (ds : List Draft) : Traced (Query κ) :=
  ds.foldlM (fun q d => q.mergeDraft d connective) q

/-- The draft compiles to an expression, or to nothing. -/
def CompilesTo (q : Query κ) (d : Draft) (e : Option Expr) : Prop :=
  ∃ c, (q.expand d).outcome = .ok c ∧ c.compile = .ok e

theorem mergeDraft_ok_iff {r : Query κ} :
    (q.mergeDraft d connective).outcome = .ok r ↔
      ∃ e, q.CompilesTo d e ∧ q.addFilter? e connective = r := by
  unfold mergeDraft
  rw [Traced.bind_ok_iff]
  constructor
  · rintro ⟨c, hc, hmerge⟩
    obtain ⟨e, he, hr⟩ := merge_ok_iff.1 hmerge
    exact ⟨e, ⟨c, hc, he⟩, hr⟩
  · rintro ⟨e, ⟨c, hc, he⟩, hr⟩
    exact ⟨c, hc, merge_ok_iff.2 ⟨e, he, hr⟩⟩

namespace CodeIgnoresFilter

theorem withFilter (hcode : q.CodeIgnoresFilter) (filter : Option Expr) :
    (q.withFilter filter).CodeIgnoresFilter := by
  intro name code args filter' hget
  exact (hcode name code args filter' hget).trans (hcode name code args filter hget).symm

/-- A draft compiles to the same expression after a merge as before. -/
theorem compilesTo_addFilter? (hcode : q.CodeIgnoresFilter) (e : Option Expr)
    (connective : Connective) : (q.addFilter? e connective).CompilesTo = q.CompilesTo := by
  obtain ⟨filter, hfilter⟩ := exists_withFilter_of_addFilter? q e connective
  funext d e'
  unfold CompilesTo
  rw [hfilter, hcode.expand_withFilter]

/-- A run of merges adds the expressions that the drafts compile to for the query that it began
with. -/
theorem mergeDrafts_ok_iff (hcode : q.CodeIgnoresFilter) {ds : List Draft} {r : Query κ} :
    (q.mergeDrafts connective ds).outcome = .ok r ↔
      ∃ es, List.Forall₂ q.CompilesTo ds es ∧
        es.foldl (fun q e => q.addFilter? e connective) q = r := by
  unfold mergeDrafts
  induction ds generalizing q with
  | nil =>
    constructor
    · intro h
      cases h
      exact ⟨[], .nil, rfl⟩
    · rintro ⟨es, hes, hr⟩
      cases hes
      cases hr
      rfl
  | cons d ds ih =>
    have hnext : ∀ e, (q.addFilter? e connective).CodeIgnoresFilter := by
      intro e
      obtain ⟨filter, hfilter⟩ := exists_withFilter_of_addFilter? q e connective
      rw [hfilter]
      exact hcode.withFilter filter
    rw [List.foldlM_cons, Traced.bind_ok_iff]
    constructor
    · rintro ⟨q', hq', h⟩
      obtain ⟨e, he, rfl⟩ := mergeDraft_ok_iff.1 hq'
      obtain ⟨es, hes, hr⟩ := (ih (hnext e)).1 h
      rw [hcode.compilesTo_addFilter?] at hes
      exact ⟨e :: es, .cons he hes, hr⟩
    · rintro ⟨es, hes, hr⟩
      cases hes with
      | @cons _ e _ es he hes =>
        refine ⟨q.addFilter? e connective, mergeDraft_ok_iff.2 ⟨e, he, rfl⟩, ?_⟩
        rw [← hcode.compilesTo_addFilter? e connective] at hes
        exact (ih (hnext e)).2 ⟨es, hes, hr⟩

end CodeIgnoresFilter

/-- What a run of merges leads to, it leads to in any other order, up to the grouping of the
filter. -/
theorem exists_mergeDrafts_of_perm (hcode : q.CodeIgnoresFilter) {ds ds' : List Draft}
    (hperm : ds.Perm ds') {r : Query κ} (h : (q.mergeDrafts connective ds).outcome = .ok r) :
    ∃ r', (q.mergeDrafts connective ds').outcome = .ok r' ∧
      (∃ filter, r' = r.withFilter filter) ∧ ∀ atom, r.truth? atom = r'.truth? atom := by
  obtain ⟨es, hes, rfl⟩ := hcode.mergeDrafts_ok_iff.1 h
  -- the expressions are reordered as the drafts are
  obtain ⟨es', hes', hperm'⟩ := List.perm_comp_forall₂ hperm.symm hes
  refine ⟨_, hcode.mergeDrafts_ok_iff.2 ⟨es', hes', rfl⟩, ?_, fun atom => ?_⟩
  · obtain ⟨filter, hfilter⟩ := exists_withFilter_of_foldl connective es q
    obtain ⟨filter', hfilter'⟩ := exists_withFilter_of_foldl connective es' q
    rw [hfilter, hfilter']
    exact ⟨filter', rfl⟩
  · rw [truth?_foldl_addFilter?, truth?_foldl_addFilter?]
    exact hperm'.symm.foldl_eq _

/-- Merges of one kind can be made in any order: they succeed in one if they do in the other, and
the filters that they lead to, if there are any, have the same truth value whatever those of their
atoms are. -/
theorem mergeDrafts_perm (q : Query κ) (hcode : q.CodeIgnoresFilter) (connective : Connective)
    {ds ds' : List Draft} (hperm : ds.Perm ds') :
    ((∃ r, (q.mergeDrafts connective ds).outcome = .ok r) ↔
      ∃ r', (q.mergeDrafts connective ds').outcome = .ok r') ∧
    ∀ r r', (q.mergeDrafts connective ds).outcome = .ok r →
      (q.mergeDrafts connective ds').outcome = .ok r' →
      (∃ filter, r' = r.withFilter filter) ∧ ∀ atom, r.truth? atom = r'.truth? atom := by
  refine ⟨⟨?_, ?_⟩, ?_⟩
  · rintro ⟨r, hr⟩
    obtain ⟨r', hr', -⟩ := exists_mergeDrafts_of_perm hcode hperm hr
    exact ⟨r', hr'⟩
  · rintro ⟨r', hr'⟩
    obtain ⟨r, hr, -⟩ := exists_mergeDrafts_of_perm hcode hperm.symm hr'
    exact ⟨r, hr⟩
  · intro r r' hr hr'
    obtain ⟨r'', hr'', hsame⟩ := exists_mergeDrafts_of_perm hcode hperm hr
    rw [hr'] at hr''
    cases hr''
    exact hsame

end Query

namespace Samples

/-- The orders that are open or have a cheap product. -/
def openOrCheap : List Draft := [.map [], .name "open", .name "withProductsCheaperThan:5"]

/-- It does not matter which of the two is asked for first. -/
theorem mergeDrafts_orders : ∃ r r',
    ((orders 3).mergeDrafts .or openOrCheap).outcome = .ok r ∧
    ((orders 3).mergeDrafts .or openOrCheap.reverse).outcome = .ok r' ∧
    ∀ atom, r.truth? atom = r'.truth? atom := by
  have hperm : openOrCheap.Perm openOrCheap.reverse := openOrCheap.reverse_perm.symm
  obtain ⟨hok, hsame⟩ :=
    Query.mergeDrafts_perm (orders 3) (codeIgnoresFilter_orders 3) .or hperm
  have hfirst : ((orders 3).mergeDrafts .or openOrCheap).outcome.isOk = true := by decide +kernel
  cases hr : ((orders 3).mergeDrafts .or openOrCheap).outcome with
  | error fault =>
    rw [hr] at hfirst
    cases hfirst
  | ok r =>
    obtain ⟨r', hr'⟩ := hok.1 ⟨r, hr⟩
    exact ⟨r, r', rfl, hr', (hsame r r' hr hr').2⟩

end Samples

end Criteria
