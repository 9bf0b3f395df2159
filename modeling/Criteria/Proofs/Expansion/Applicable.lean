import Criteria.Proofs.Relation.Prefix
import Criteria.Proofs.Relation.Shape

/-!
# Names that lead nowhere

A call may come to nothing: its method is no condition call, or the condition that its base names
does not exist. That is no fault, and it must not be mistaken for one, nor a fault for it, nor may
half a name do.

Main statement: a call comes to nothing exactly if its name leads nowhere (`Query.LeadsNowhere`),
and then nothing is looked up on the levels below; every other call that does not fail leaves the
query as it is, at its gate, or finishes a condition in which every part of its name has a share
(`Query.outcome_call_eq_notApplicable_iff`).
-/

namespace Criteria

namespace Query

variable {κ : Type}

/-- The base of a call names no condition of a query. -/
inductive Unresolved (q : Query κ) (base : String) : Prop
  /-- The query has no condition of that name. -/
  | undefined (hrelation : isRelationName base = false) (hdefines : q.defines base = false)
  /-- No beginning of the words names a relation. -/
  | noRelation (hrelation : isRelationName base = true)
    (hnone : ∀ front, front <+: RelationSplit.words base → front ≠ [] →
      q.hasRelation (Word.name front) = false)
  /-- The shortest beginning that names a relation leads to the related query, but the words behind
  it are not all taken up by conditions of that query. -/
  | residue {front rest : List Word} {metadata : Metadata κ} {path : Path κ}
    (hrelation : isRelationName base = true)
    (hfront : ShortestPrefix (fun front => q.hasRelation (Word.name front))
      (RelationSplit.words base) front rest)
    (hmetadata : q.relation? (Word.name front) = .ok (some metadata))
    (hpath : metadata.path? = some path)
    (hrest : (Grouping.ofWords metadata.target.defines rest).names? = none)

/-- A method is no condition call, or its gate lets it pass and its base names no condition. -/
inductive LeadsNowhere (q : Query κ) (method : String) (args : List Json) : Prop
  | notACall (hparse : Call.parse? method = none)
  | unresolved {call : Call} {flip : Bool} {rest : List Json}
    (hparse : Call.parse? method = some call)
    (hgate : Admission.ofGate call.gate args = .admitted flip rest) (h : q.Unresolved call.base)

theorem unresolved_iff_of_not_relation {q : Query κ} {base : String}
    (hrelation : isRelationName base = false) : q.Unresolved base ↔ q.defines base = false := by
  constructor
  · intro h
    cases h with
    | undefined _ hdefines => exact hdefines
    | noRelation h _ | residue h _ _ _ _ =>
      rw [hrelation] at h
      cases h
  · intro hdefines
    exact .undefined hrelation hdefines

theorem settle_eq_notApplicable_iff {q : Query κ} {options : Options} {found : Option Condition} :
    q.settle options found = .ok .notApplicable ↔ found = none := by
  cases found with
  | none => exact ⟨fun _ => rfl, fun _ => rfl⟩
  | some c =>
    constructor
    · intro h
      exact absurd h (q.finish_ne_notApplicable c options)
    · intro h
      cases h

/-- A relation that a query has is found, or the search fails. -/
theorem relation?_ne_none {q : Query κ} {name : String} (h : q.hasRelation name = true) :
    q.relation? name ≠ .ok none := by
  unfold hasRelation Dict.has at h
  unfold relation?
  cases hget : q.model.relations.get? name with
  | none =>
    rw [hget] at h
    cases h
  | some r =>
    intro hnone
    obtain ⟨target, -, hnone⟩ := bind_ok_iff.1 hnone
    split at hnone
    · cases hnone
    · obtain ⟨pivot, -, hnone⟩ := bind_ok_iff.1 hnone
      cases hnone

end Query

namespace Level

variable {κ : Type} {below : Unit → Option (Level κ)} {q : Query κ} {base relation : String}
  {words : List Word} {args : List Json}

/-! ## Conditions that are not found -/

/-- A relation condition is not decided on before its relation and the links of that are there. -/
theorem exists_path_of_related {found : Option Condition}
    (hsplit : RelationSplit.ofBase q.hasRelation base = ⟨some relation, words⟩)
    (hhas : q.hasRelation relation = true)
    (h : (related below q base args).outcome = .ok found) :
    ∃ metadata path, q.relation? relation = .ok (some metadata) ∧
      metadata.path? = some path := by
  unfold related at h
  rw [hsplit] at h
  obtain ⟨metadata?, hmetadata, h⟩ := Traced.bind_ok_iff.1 h
  rw [Traced.outcome_ofExcept] at hmetadata
  cases metadata? with
  | none => exact absurd hmetadata (Query.relation?_ne_none hhas)
  | some metadata =>
    obtain ⟨_, -, h⟩ := Traced.bind_ok_iff.1 h
    obtain ⟨binding, hbinding, -⟩ := Traced.bind_ok_iff.1 h
    obtain ⟨path, hpath⟩ := Binding.exists_path?_of_prepare hbinding
    exact ⟨metadata, path, hmetadata, hpath⟩

theorem related_ok_none_iff (hrelation : isRelationName base = true) :
    (related below q base args).outcome = .ok none ↔ q.Unresolved base := by
  constructor
  · intro h
    rcases RelationSplit.ofBase_cases q.hasRelation base with
      ⟨front, rest, hfront, hsplit⟩ | ⟨hnone, -⟩
    · obtain ⟨metadata, path, hmetadata, hpath⟩ := exists_path_of_related hsplit hfront.holds h
      rw [outcome_related_of_path hsplit hmetadata hpath] at h
      exact .residue hrelation hfront hmetadata hpath (relatedBy_ok_none_iff.1 h)
    · exact .noRelation hrelation hnone
  · intro h
    cases h with
    | undefined hnot _ =>
      rw [hrelation] at hnot
      cases hnot
    | noRelation _ hnone =>
      have hsplit := RelationSplit.relation_ofBase_eq_none_iff.2 hnone
      unfold related
      simp only [hsplit]
      rfl
    | residue _ hfront hmetadata hpath hrest =>
      have hsplit := RelationSplit.ofBase_eq_some_iff.2 ⟨_, hfront, rfl⟩
      rw [outcome_related_of_path hsplit hmetadata hpath]
      exact relatedBy_ok_none_iff.2 hrest

variable [Computed κ]

theorem baseCondition_ok_none_iff {call : Call} :
    (baseCondition below q call args).outcome = .ok none ↔ q.Unresolved call.base := by
  unfold baseCondition
  cases hrelation : call.isRelation with
  | true => exact related_ok_none_iff hrelation
  | false => exact defined_ok_none_iff.trans (Query.unresolved_iff_of_not_relation hrelation).symm

/-- What leads nowhere does so on every level, whatever is below: nothing is asked of it. -/
theorem dispatch_ok_notApplicable_iff {method : String} :
    (dispatch below q method args).outcome = .ok .notApplicable ↔ q.LeadsNowhere method args := by
  rw [dispatch_ok_iff]
  constructor
  · intro h
    cases h with
    | notACall hparse => exact .notACall hparse
    | admitted hparse hgate hfound hsettle =>
      rw [Query.settle_eq_notApplicable_iff.1 hsettle] at hfound
      exact .unresolved hparse hgate (baseCondition_ok_none_iff.1 hfound)
  · intro h
    cases h with
    | notACall hparse => exact .notACall hparse
    | unresolved hparse hgate h =>
      exact .admitted hparse hgate (baseCondition_ok_none_iff.2 h) rfl

/-! ## Conditions that are found -/

/-- A name leads to a condition: to the definition of the query's own one, expanded on the level
below, or to the related rows, in whose filter every condition stands that the words behind the
relation name. -/
inductive Finds (below : Unit → Option (Level κ)) (q : Query κ) (base : String)
    (args : List Json) : Condition → Prop
  | own {draft : Draft} {level : Level κ} {c : Condition} (hrelation : isRelationName base = false)
    (hdefines : q.defines base = true) (hdraft : q.definition base args q.token = .ok draft)
    (hlevel : below () = some level) (hc : (level.expand q draft).outcome = .ok c) :
    Finds below q base args c
  | related {front rest : List Word} {metadata : Metadata κ} {path : Path κ} {names : List String}
    {es : List (Option Sql.Expr)} (hrelation : isRelationName base = true)
    (hfront : ShortestPrefix (fun front => q.hasRelation (Word.name front))
      (RelationSplit.words base) front rest)
    (hmetadata : q.relation? (Word.name front) = .ok (some metadata))
    (hpath : metadata.path? = some path)
    (hnames : (Grouping.ofWords metadata.target.defines rest).names? = some names)
    (hnarrows : Narrows below (path.tied q metadata.target)
      (Demand.ofWords metadata.target.defines rest args) es) :
    Finds below q base args (path.condition Join.embedded q metadata.target es)

/-- A call is not in vain: its gate leaves the query as it is, or lets it pass, and then the
condition that it finds, perhaps under `not`, is handed back or stands in the filter. -/
inductive Completes (below : Unit → Option (Level κ)) (q : Query κ) (method : String)
    (args : List Json) : Outcome κ → Prop
  | unchanged {call : Call} {gate : Gate} {significance : Significance}
    (hparse : Call.parse? method = some call)
    (hgate : Admission.ofGate call.gate args = .declined gate significance) :
    Completes below q method args (.query q)
  | handedBack {call : Call} {flip : Bool} {rest : List Json} {c : Condition}
    (hparse : Call.parse? method = some call)
    (hgate : Admission.ofGate call.gate args = .admitted flip rest)
    (hfinds : Finds below q call.base rest c) (honly : call.conditionOnly = true) :
    Completes below q method args
      (.condition (if (call.negate != flip) = true then c.negated else c))
  | merged {call : Call} {flip : Bool} {rest : List Json} {c : Condition} {e : Option Sql.Expr}
    (hparse : Call.parse? method = some call)
    (hgate : Admission.ofGate call.gate args = .admitted flip rest)
    (hfinds : Finds below q call.base rest c) (honly : call.conditionOnly = false)
    (hcompile : (if (call.negate != flip) = true then c.negated else c).compile = .ok e) :
    Completes below q method args (.query (q.addFilter? e call.connective))

theorem finds_iff_of_not_relation (hrelation : isRelationName base = false) {c : Condition} :
    Finds below q base args c ↔ (defined below q base args).outcome = .ok (some c) := by
  rw [defined_ok_some_iff]
  constructor
  · intro h
    cases h with
    | own _ hdefines hdraft hlevel hc => exact ⟨hdefines, _, _, hdraft, hlevel, hc⟩
    | related h _ _ _ _ _ =>
      rw [hrelation] at h
      cases h
  · rintro ⟨hdefines, draft, level, hdraft, hlevel, hc⟩
    exact .own hrelation hdefines hdraft hlevel hc

/-- A relation condition that is found takes all words behind the relation with it. -/
theorem related_ok_some_iff (limit room : Nat) (hrelation : isRelationName base = true)
    {c : Condition} :
    (related (beneath limit room) q base args).outcome = .ok (some c) ↔
      Finds (beneath limit room) q base args c := by
  constructor
  · intro h
    rcases RelationSplit.ofBase_cases q.hasRelation base with
      ⟨front, rest, hfront, hsplit⟩ | ⟨hnone, -⟩
    · obtain ⟨metadata, path, hmetadata, hpath⟩ := exists_path_of_related hsplit hfront.holds h
      cases hnames : (Grouping.ofWords metadata.target.defines rest).names? with
      | none =>
        rw [related_ok_none_iff hrelation |>.2 (.residue hrelation hfront hmetadata hpath hnames)]
          at h
        cases h
      | some names =>
        rw [outcome_related_of_path hsplit hmetadata hpath] at h
        obtain ⟨es, hnarrows, hc⟩ := (relatedBy_ok_iff limit room
          (Query.isFresh_of_relation? hmetadata hpath) (Grouping.rest_eq_nil_of_names? hnames)).1 h
        cases hc
        exact .related hrelation hfront hmetadata hpath hnames hnarrows
    · rw [(related_ok_none_iff hrelation).2 (.noRelation hrelation hnone)] at h
      cases h
  · intro h
    cases h with
    | own hnot _ _ _ _ =>
      rw [hrelation] at hnot
      cases hnot
    | related _ hfront hmetadata hpath hnames hnarrows =>
      have hsplit := RelationSplit.ofBase_eq_some_iff.2 ⟨_, hfront, rfl⟩
      rw [outcome_related_of_path hsplit hmetadata hpath]
      exact (relatedBy_ok_iff limit room (Query.isFresh_of_relation? hmetadata hpath)
        (Grouping.rest_eq_nil_of_names? hnames)).2 ⟨_, hnarrows, rfl⟩

theorem baseCondition_ok_some_iff (limit room : Nat) {call : Call} {c : Condition} :
    (baseCondition (beneath limit room) q call args).outcome = .ok (some c) ↔
      Finds (beneath limit room) q call.base args c := by
  unfold baseCondition
  cases hrelation : call.isRelation with
  | true => exact related_ok_some_iff limit room hrelation
  | false => exact (finds_iff_of_not_relation hrelation).symm

/-- A call that does not fail comes to nothing or completes. -/
theorem dispatch_ok_iff_completes (limit room : Nat) {method : String} {outcome : Outcome κ} :
    (dispatch (beneath limit room) q method args).outcome = .ok outcome ↔
      outcome = .notApplicable ∧ q.LeadsNowhere method args ∨
        Completes (beneath limit room) q method args outcome := by
  constructor
  · intro h
    cases dispatch_ok_iff.1 h with
    | notACall hparse => exact .inl ⟨rfl, .notACall hparse⟩
    | declined hparse hgate => exact .inr (.unchanged hparse hgate)
    | @admitted _ _ _ found _ hparse hgate hfound hsettle =>
      cases found with
      | none =>
        cases hsettle
        exact .inl ⟨rfl, .unresolved hparse hgate (baseCondition_ok_none_iff.1 hfound)⟩
      | some c =>
        have hfinds := (baseCondition_ok_some_iff limit room).1 hfound
        rcases Query.finish_ok_iff.1 hsettle with ⟨honly, rfl⟩ | ⟨honly, e, hcompile, rfl⟩
        · exact .inr (.handedBack hparse hgate hfinds honly)
        · exact .inr (.merged hparse hgate hfinds honly hcompile)
  · rintro (⟨rfl, hnowhere⟩ | hcompletes)
    · exact dispatch_ok_notApplicable_iff.2 hnowhere
    · cases hcompletes with
      | unchanged hparse hgate => exact outcome_dispatch_of_declined hparse hgate
      | handedBack hparse hgate hfinds honly =>
        have hfound := (baseCondition_ok_some_iff limit room).2 hfinds
        refine dispatch_ok_iff.2 (.admitted hparse hgate hfound ?_)
        exact Query.finish_ok_iff.2 (.inl ⟨honly, rfl⟩)
      | merged hparse hgate hfinds honly hcompile =>
        have hfound := (baseCondition_ok_some_iff limit room).2 hfinds
        refine dispatch_ok_iff.2 (.admitted hparse hgate hfound ?_)
        exact Query.finish_ok_iff.2 (.inr ⟨honly, _, hcompile, rfl⟩)

end Level

namespace Query

variable {κ : Type} [Computed κ]

/-- A call comes to nothing exactly if its name leads nowhere. This does not depend on the levels
below: none of them is asked, so no part of such a name gets into a filter. Every other call fails,
or its gate leaves the query as it is, or the condition that it finds is finished, with everything
in it that the words of the name demand. -/
theorem outcome_call_eq_notApplicable_iff (q : Query κ) (method : String) (args : List Json) :
    ((q.call method args).outcome = .ok .notApplicable ↔ q.LeadsNowhere method args) ∧
    (q.LeadsNowhere method args ↔
      ∀ below, (Level.dispatch below q method args).outcome = .ok .notApplicable) ∧
    ∀ outcome, (q.call method args).outcome = .ok outcome ↔
      outcome = .notApplicable ∧ q.LeadsNowhere method args ∨
        Level.Completes (Level.beneath q.schema.maxDepth q.schema.maxDepth) q method args
          outcome := by
  rw [call_eq_dispatch]
  refine ⟨Level.dispatch_ok_notApplicable_iff, ?_, fun outcome => ?_⟩
  · constructor
    · intro hnowhere below
      exact Level.dispatch_ok_notApplicable_iff.2 hnowhere
    · intro h
      -- even where nothing is below
      exact Level.dispatch_ok_notApplicable_iff.1 (h fun _ => none)
  · exact Level.dispatch_ok_iff_completes q.schema.maxDepth q.schema.maxDepth

end Query

namespace Samples

/-- The last word names no condition of the products, so the words before it do not count either. -/
example : ((orders 2).call "withProductsSkuOut" [.text "A1"]).outcome = .ok .notApplicable := rfl

end Samples

end Criteria
