import Criteria.Proofs.Level

/-!
# Queries and their filters

What an operation on a query leaves as it was. Main statements: merging a condition changes the
filter alone (`Query.exists_withFilter_of_merge`), and so does tying a related query to its parent
(`Binding.exists_withFilter_of_prepare`); a related query is one over the same schema
(`Query.schema_of_relation?`). Finishing a condition is merging it, or handing it back, whether it
has content or not (`Query.outcome_finish`). Merging fails for the SQL of a condition alone
(`Query.merge_error`), and tying for links without columns alone (`Binding.prepare_error`).
-/

namespace Criteria

theorem Schema.exists_model_of_query {κ : Type} (s : Schema κ) {model : String} {q : Query κ}
    (h : s.query model = .ok q) : ∃ m, s.models.get? model = some m ∧ q = ⟨s, m, none⟩ := by
  unfold query at h
  split at h
  · next m hm =>
    cases h
    exact ⟨m, hm, rfl⟩
  · cases h

/-- A condition without content has no expression. -/
theorem Condition.compile_of_isEmpty {c : Condition} (h : c.isEmpty = true) :
    c.compile = .ok none := by
  cases c with
  | map entries =>
    have hnil : entries = [] := List.isEmpty_iff.1 h
    rw [hnil]
    rfl
  | list items =>
    have hnil : items = [] := List.isEmpty_iff.1 h
    rw [hnil]
    rfl
  | operand text =>
    have hnil : text.toList = [] := by
      rw [String.toList_eq_nil_iff]
      exact String.isEmpty_iff.1 h
    rw [compile, hnil]
    rfl
  | value json =>
    cases json with
    | null => rfl
    | bool _ | number _ | text _ | array _ | object _ => cases h
  | query select => cases h

namespace Query

variable {κ : Type} {q q' : Query κ}

/-- The query with another filter. -/
def withFilter (q : Query κ) (filter : Option Sql.Expr) : Query κ := { q with filter := filter }

/-- The query with an expression, if there is one, added to its filter. -/
def addFilter? (q : Query κ) (e : Option Sql.Expr) (connective : Connective) : Query κ :=
  match e with
  | none => q
  | some e => q.addFilter e connective

theorem merge_ok_iff {c : Condition} {connective : Connective} :
    q.merge c connective = .ok q' ↔ ∃ e, c.compile = .ok e ∧ q.addFilter? e connective = q' := by
  unfold merge addFilter?
  cases c.compile with
  | error cause => simp
  | ok e => cases e <;> simp

theorem exists_withFilter_of_addFilter? (q : Query κ) (e : Option Sql.Expr)
    (connective : Connective) : ∃ filter, q.addFilter? e connective = q.withFilter filter := by
  cases e with
  | none => exact ⟨q.filter, rfl⟩
  | some e => exact ⟨_, rfl⟩

theorem exists_withFilter_of_merge {c : Condition} {connective : Connective}
    (h : q.merge c connective = .ok q') : ∃ filter, q' = q.withFilter filter := by
  obtain ⟨e, -, rfl⟩ := merge_ok_iff.1 h
  exact exists_withFilter_of_addFilter? q e connective

theorem merge_error {c : Condition} {connective : Connective} {fault : Fault}
    (h : q.merge c connective = .error fault) : ∃ cause, fault = .malformed cause := by
  unfold merge at h
  cases hcompile : c.compile with
  | error cause =>
    rw [hcompile] at h
    cases h
    exact ⟨cause, rfl⟩
  | ok e =>
    rw [hcompile] at h
    cases e <;> cases h

theorem schema_of_merge {c : Condition} {connective : Connective}
    (h : q.merge c connective = .ok q') : q'.schema = q.schema := by
  obtain ⟨filter, rfl⟩ := exists_withFilter_of_merge h
  rfl

/-- A condition without content is merged without a trace. -/
theorem merge_of_isEmpty (q : Query κ) {c : Condition} (h : c.isEmpty = true)
    (connective : Connective) : q.merge c connective = .ok q := by
  unfold merge
  rw [Condition.compile_of_isEmpty h]

/-- A condition, perhaps under `not`, is handed back or merged. One without content is not even
looked at, but merging would leave the query as it is. -/
theorem outcome_finish (q : Query κ) (c : Condition) (options : Options) :
    (q.finish c options).outcome =
      if options.conditionOnly = true then
        .ok (.condition (if options.negate = true then c.negated else c))
      else
        Outcome.query <$> q.merge (if options.negate = true then c.negated else c)
          options.connective := by
  unfold finish
  simp only [Traced.outcome_bind, Traced.outcome_note, Traced.outcome_ite, Traced.outcome_pure,
    Traced.outcome_ofExcept]
  generalize (if options.negate = true then c.negated else c) = c'
  cases options.conditionOnly with
  | true => rfl
  | false =>
    cases hempty : c'.isEmpty with
    | true =>
      rw [q.merge_of_isEmpty hempty]
      rfl
    | false => cases q.merge c' options.connective <;> rfl

theorem finish_ok_iff {c : Condition} {options : Options} {outcome : Outcome κ} :
    (q.finish c options).outcome = .ok outcome ↔
      options.conditionOnly = true ∧
          outcome = .condition (if options.negate = true then c.negated else c) ∨
        options.conditionOnly = false ∧
          ∃ e, (if options.negate = true then c.negated else c).compile = .ok e ∧
            outcome = .query (q.addFilter? e options.connective) := by
  rw [outcome_finish]
  cases options.conditionOnly with
  | true =>
    constructor
    · intro h
      cases h
      exact .inl ⟨rfl, rfl⟩
    · rintro (⟨-, rfl⟩ | ⟨h, -⟩)
      · rfl
      · cases h
  | false =>
    rw [if_neg Bool.false_ne_true]
    constructor
    · intro h
      obtain ⟨merged, hmerged, rfl⟩ := map_ok_iff.1 h
      obtain ⟨e, hcompile, rfl⟩ := merge_ok_iff.1 hmerged
      exact .inr ⟨rfl, e, hcompile, rfl⟩
    · rintro (⟨h, -⟩ | ⟨-, e, hcompile, rfl⟩)
      · cases h
      · exact map_ok_iff.2 ⟨_, merge_ok_iff.2 ⟨e, hcompile, rfl⟩, rfl⟩

/-- A condition that is handed back is the one that was found, perhaps under `not`. -/
theorem finish_ok_condition {c found : Condition} {options : Options}
    (h : (q.finish found options).outcome = .ok (.condition c)) :
    c = if options.negate = true then found.negated else found := by
  rcases finish_ok_iff.1 h with ⟨-, hc⟩ | ⟨-, _, -, hc⟩
  · cases hc
    rfl
  · cases hc

/-- Only the SQL of a condition can keep it from being handed back or merged. -/
theorem finish_error {c : Condition} {options : Options} {fault : Fault}
    (h : (q.finish c options).outcome = .error fault) : ∃ cause, fault = .malformed cause := by
  rw [outcome_finish] at h
  split at h
  · cases h
  · exact merge_error (map_error_iff.1 h)

/-- A condition that is found does not come to nothing. -/
theorem finish_ne_notApplicable (q : Query κ) (c : Condition) (options : Options) :
    (q.finish c options).outcome ≠ .ok .notApplicable := by
  intro h
  rcases finish_ok_iff.1 h with ⟨-, hc⟩ | ⟨-, _, -, hc⟩ <;> cases hc

/-- A related query is a fresh one over a model of the same schema. -/
theorem exists_model_of_relation? {name : String} {metadata : Metadata κ}
    (h : q.relation? name = .ok (some metadata)) :
    ∃ model m, q.schema.models.get? model = some m ∧ metadata.target = ⟨q.schema, m, none⟩ := by
  unfold relation? at h
  split at h
  · cases h
  · next r _ =>
    obtain ⟨target, htarget, h⟩ := bind_ok_iff.1 h
    obtain ⟨m, hm, rfl⟩ := q.schema.exists_model_of_query htarget
    split at h
    · cases h
      exact ⟨r.model, m, hm, rfl⟩
    · obtain ⟨pivot, -, h⟩ := bind_ok_iff.1 h
      cases h
      exact ⟨r.model, m, hm, rfl⟩

theorem schema_of_relation? {name : String} {metadata : Metadata κ}
    (h : q.relation? name = .ok (some metadata)) : metadata.target.schema = q.schema := by
  obtain ⟨model, m, -, htarget⟩ := exists_model_of_relation? h
  rw [htarget]

end Query

/-- The outcome with its query, if it is one, changed. -/
def Outcome.map {κ : Type} (f : Query κ → Query κ) : Outcome κ → Outcome κ
  | query q => query (f q)
  | condition c => condition c
  | notApplicable => notApplicable

namespace Binding

variable {κ : Type} {parent : Query κ} {name : String} {metadata : Metadata κ} {binding : Binding κ}
  {fault : Fault}

theorem exists_withFilter_of_prepare
    (h : (Binding.prepare parent name metadata).outcome = .ok binding) :
    ∃ filter, binding.target = metadata.target.withFilter filter := by
  unfold Binding.prepare at h
  split at h
  · obtain ⟨_, -, h⟩ := Traced.bind_ok_iff.1 h
    cases h
    exact ⟨_, rfl⟩
  · obtain ⟨_, -, h⟩ := Traced.bind_ok_iff.1 h
    obtain ⟨_, -, h⟩ := Traced.bind_ok_iff.1 h
    cases h
    exact ⟨_, rfl⟩

theorem firstLink_ok {links : List Link} {fault' : Fault} {link : Link}
    (h : (firstLink links fault').outcome = .ok link) : ∃ rest, links = link :: rest := by
  unfold firstLink at h
  split at h
  · cases h
  · cases h
    exact ⟨[], rfl⟩
  · cases h
    exact ⟨_, rfl⟩

theorem firstLink_error {links : List Link} {fault' : Fault}
    (h : (firstLink links fault').outcome = .error fault) : links = [] ∧ fault = fault' := by
  unfold firstLink at h
  split at h
  · cases h
    exact ⟨rfl, rfl⟩
  · cases h
  · obtain h | ⟨_, -, h⟩ := Traced.bind_error_iff.1 h <;> cases h

/-- A relation cannot be tied to its parent if it has no link, or its pivot has none. -/
theorem prepare_error (h : (prepare parent name metadata).outcome = .error fault) :
    fault = .noLink name ∧ metadata.links = [] ∨
      fault = .noPivotLink name ∧ ∃ pivot, metadata.pivot = some pivot ∧ pivot.links = [] := by
  unfold prepare at h
  split at h
  · rcases Traced.bind_error_iff.1 h with h | ⟨_, -, h⟩
    · obtain ⟨hlinks, rfl⟩ := firstLink_error h
      exact .inl ⟨rfl, hlinks⟩
    · cases h
  · next pivot hpivot =>
    rcases Traced.bind_error_iff.1 h with h | ⟨_, -, h⟩
    · obtain ⟨hlinks, rfl⟩ := firstLink_error h
      exact .inl ⟨rfl, hlinks⟩
    · rcases Traced.bind_error_iff.1 h with h | ⟨_, -, h⟩
      · obtain ⟨hlinks, rfl⟩ := firstLink_error h
        exact .inr ⟨rfl, pivot, hpivot, hlinks⟩
      · cases h

theorem condition_error (h : binding.condition = .error fault) :
    ∃ cause, fault = .malformed cause := by
  unfold condition at h
  cases hb : binding.correlation with
  | direct own foreign =>
    rw [hb] at h
    cases h
  | compound own pivotForeign remoteOwn remoteForeign pivot =>
    rw [hb] at h
    rcases bind_error_iff.1 h with h | ⟨_, -, h⟩
    · exact Query.merge_error h
    · cases h

end Binding

end Criteria
