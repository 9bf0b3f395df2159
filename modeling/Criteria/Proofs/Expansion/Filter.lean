import Criteria.Proofs.Expansion.Reach
import Criteria.Samples

/-!
# The filter that a query has already

Nothing that a condition comes to depends on the filter of the query that it is asked of, so that no
part of this filter gets into a query on a related table. Main statement: two queries that differ in
their filters alone give the same answers, and the same expression is added to both filters
(`Query.call_withFilter`).
-/

namespace Criteria

namespace Query

variable {κ : Type} {q : Query κ}

theorem exists_addFilter?_of_finish {c : Condition} {options : Options} {r : Query κ}
    (h : (q.finish c options).outcome = .ok (.query r)) :
    ∃ e, (options.conditionOnly = true → e = none) ∧ ∀ filter,
      ((q.withFilter filter).finish c options).outcome =
        .ok (.query ((q.withFilter filter).addFilter? e options.connective)) := by
  simp only [outcome_finish] at h ⊢
  generalize (if options.negate = true then c.negated else c) = c' at h ⊢
  cases honly : options.conditionOnly with
  | true =>
    -- the condition is handed back alone, so that this is no query
    rw [honly, if_pos rfl] at h
    cases h
  | false =>
    rw [honly, if_neg Bool.false_ne_true] at h
    obtain ⟨merged, hmerge, -⟩ := map_ok_iff.1 h
    obtain ⟨e, he, -⟩ := merge_ok_iff.1 hmerge
    refine ⟨e, fun hfalse => ?_, fun filter => ?_⟩
    · cases hfalse
    · rw [if_neg Bool.false_ne_true, merge_ok_iff.2 ⟨e, he, rfl⟩]
      rfl

variable [Computed κ]

/-- The code of the conditions of the model makes the same draft under every filter of the query. -/
def CodeIgnoresFilter (q : Query κ) : Prop :=
  ∀ name code args filter, q.model.conditions.get? name = some (.computed code) →
    Computed.draft code (q.withFilter filter) args = Computed.draft code q args

namespace CodeIgnoresFilter

theorem isFixed (hcode : q.CodeIgnoresFilter) (name : String) (args : List Json) :
    q.IsFixed name args := by
  by_cases hcomputed : ∃ code, q.model.conditions.get? name = some (.computed code)
  · obtain ⟨code, hget⟩ := hcomputed
    intro filter
    have hget' : (q.withFilter filter).model.conditions.get? name = some (.computed code) := hget
    have htoken : q.token = (q.withFilter filter).token := rfl
    unfold definition
    rw [if_pos htoken, if_pos rfl, hget', hget]
    exact hcode name code args filter hget
  · exact isFixed_of_not_computed args fun code hget => hcomputed ⟨code, hget⟩

theorem steady (hcode : q.CodeIgnoresFilter) (d : Draft) : q.Steady d :=
  fun name args _ => hcode.isFixed name args

theorem steadyAt (hcode : q.CodeIgnoresFilter) (name : String) (args : List Json) :
    q.SteadyAt name args := ⟨hcode.isFixed name args, fun d _ => hcode.steady d⟩

theorem expand_withFilter (hcode : q.CodeIgnoresFilter) (filter : Option Sql.Expr) (d : Draft) :
    (q.withFilter filter).expand d = q.expand d := by
  have hlevel : q.level.FilterFree := Level.filterFree_ofRoom _ _
  exact hlevel.expand filter (hcode.steady d)

end CodeIgnoresFilter

end Query

namespace Level

variable {κ : Type} [Computed κ] {below : Unit → Option (Level κ)} {q : Query κ}

/-- A query that a call hands back has the same expression added to it whatever its filter is, and
none at all if only the condition is asked for. -/
theorem exists_addFilter?_of_dispatch {method : String} {args : List Json} {r : Query κ}
    (hbase : ∀ filter call args, Call.parse? method = some call →
      baseCondition below (q.withFilter filter) call args = baseCondition below q call args)
    (h : (dispatch below q method args).outcome = .ok (.query r)) :
    ∃ e connective,
      (∀ call, Call.parse? method = some call → call.conditionOnly = true → e = none) ∧
      ∀ filter, (dispatch below (q.withFilter filter) method args).outcome =
        .ok (.query ((q.withFilter filter).addFilter? e connective)) := by
  cases dispatch_ok_iff.1 h with
  | declined hparse hgate =>
    exact ⟨none, .and, fun _ _ _ => rfl, fun _ => outcome_dispatch_of_declined hparse hgate⟩
  | @admitted call flip rest found? _ hparse hgate hfound hsettle =>
    cases found? with
    | none => cases hsettle
    | some found =>
      obtain ⟨e, honly, he⟩ := Query.exists_addFilter?_of_finish hsettle
      refine ⟨e, call.connective, fun call' hcall => ?_, fun filter => ?_⟩
      · rw [hparse] at hcall
        cases hcall
        exact honly
      · rw [outcome_dispatch_of_admitted hparse hgate, hbase filter call rest hparse]
        exact bind_ok_iff.2 ⟨some found, hfound, he filter⟩

/-- Under every filter a call finds the same condition. The code of the query does not matter for a
condition on a related table, which starts from fresh queries. -/
theorem baseCondition_withFilter_of_code (limit room : Nat) {call : Call}
    (hcode : call.isRelation = true ∨ q.CodeIgnoresFilter) (filter : Option Sql.Expr)
    (args : List Json) :
    baseCondition (beneath limit room) (q.withFilter filter) call args =
      baseCondition (beneath limit room) q call args := by
  have hbelow : ∀ level : Level κ, beneath limit room () = some level → level.FilterFree :=
    forall_beneath (filterFree_ofRoom limit) room
  refine baseCondition_withFilter hbelow filter fun hrelation => ?_
  rcases hcode with hrelation' | hcode
  · rw [hrelation] at hrelation'
    cases hrelation'
  · exact hcode.steadyAt call.base args

end Level

/-- What a query is asked for does not depend on its filter: it gives the same conditions and the
same faults under every filter. Where a call hands the query back, the same expression is added to
every filter, and none at all by a method that asks for the condition alone. For a condition on a
related table this is so whatever the code of the query does. -/
theorem Query.call_withFilter {κ : Type} [Computed κ] (q : Query κ) (filter : Option Sql.Expr) :
    (q.CodeIgnoresFilter → ∀ d, (q.withFilter filter).expand d = q.expand d) ∧
    ∀ method args,
      (∀ call, Call.parse? method = some call → call.isRelation = true ∨ q.CodeIgnoresFilter) →
      Outcome.unfiltered <$> (q.withFilter filter).call method args =
        Outcome.unfiltered <$> q.call method args ∧
      ∀ r, (q.call method args).outcome = .ok (.query r) → ∃ e connective,
        (∀ call, Call.parse? method = some call → call.conditionOnly = true → e = none) ∧
        ∀ other, ((q.withFilter other).call method args).outcome =
          .ok (.query ((q.withFilter other).addFilter? e connective)) := by
  refine ⟨fun hcode d => hcode.expand_withFilter filter d, fun method args hmethod => ?_⟩
  have hcall : ∀ filter, (q.withFilter filter).call method args =
      Level.dispatch (Level.beneath q.schema.maxDepth q.schema.maxDepth) (q.withFilter filter)
        method args :=
    fun filter => (q.withFilter filter).call_eq_dispatch method args
  have hbase : ∀ filter call args, Call.parse? method = some call →
      Level.baseCondition (Level.beneath q.schema.maxDepth q.schema.maxDepth)
        (q.withFilter filter) call args =
      Level.baseCondition (Level.beneath q.schema.maxDepth q.schema.maxDepth) q call args :=
    fun filter call args hparse =>
      Level.baseCondition_withFilter_of_code _ _ (hmethod call hparse) filter args
  simp only [hcall, q.call_eq_dispatch]
  constructor
  · exact Level.unfiltered_dispatch_of_base filter fun call _ rest hparse _ =>
      hbase filter call rest hparse
  · exact fun r => Level.exists_addFilter?_of_dispatch hbase

namespace Samples

theorem codeIgnoresFilter_orders (limit : Nat) : (orders limit).CodeIgnoresFilter := by
  intro _ code _ _ _
  cases code
  rfl

/-- The orders of cheap products are the same, whichever orders were asked for before. -/
theorem call_orders_withFilter :
    (∀ d, ((orders 2).withFilter (some (.fragment "orders.secret"))).expand d =
      (orders 2).expand d) ∧
    ((orders 2).call "withProductsCheaperThanCondition" [int 5]).outcome.isOk = true ∧
    Outcome.unfiltered <$> ((orders 2).withFilter (some (.fragment "orders.secret"))).call
        "withProductsCheaperThanCondition" [int 5] =
      Outcome.unfiltered <$> (orders 2).call "withProductsCheaperThanCondition" [int 5] := by
  have hcode := codeIgnoresFilter_orders 2
  obtain ⟨hexpand, hcall⟩ := Query.call_withFilter (orders 2) (some (.fragment "orders.secret"))
  have hsame := (hcall "withProductsCheaperThanCondition" [int 5] fun _ _ => .inr hcode).1
  exact ⟨hexpand hcode, by decide +kernel, hsame⟩

end Samples

end Criteria
