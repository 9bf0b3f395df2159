import Criteria.Config.Reader
import Criteria.Proofs.Config.Schema
import Criteria.Proofs.Expansion.Chain
import Criteria.Proofs.Expansion.Provenance

/-!
# Configurations that load

Whatever a query of the schema of a configuration looks up was checked when the configuration was
read. Main statement: a configuration that loads has a schema, whose queries answer for their models
as they are written; no operation on them, or on the queries they turn to, misses a model, and a
link is found to be without columns only where it is written so (`Config.isUsable_of_ofString`).
-/

namespace Criteria

/-! ## What is seen of a model -/

section

variable {κ : Type}

/-- The query over all rows of a model, on the table that is written for it. -/
structure Config.Opens (config : Config) (s : Schema κ) (name : String) (q : Query κ) : Prop where
  query : s.query name = .ok q
  table : ∃ c, config.models.get? name = some c ∧ q.model.table = c.table

/-- The pivot of a relation, as a query, is the one that is written. -/
inductive Config.GoesThrough (config : Config) (s : Schema κ) (c : ModelConfig)
    (r : RelationConfig) : Option (PivotQuery κ) → Prop
  | nothing (hvia : r.via = none) (htable : r.viaTable = none) : GoesThrough config s c r none
  | relation {via : String} {other : RelationConfig} {q : Query κ} {links : List Link}
      (hvia : r.via = some via) (htable : r.viaTable = none)
      (hother : c.relations.get? via = some other) (hopens : config.Opens s other.model q)
      (hlink : other.link = links.map Link.field) : GoesThrough config s c r (some ⟨q, links⟩)
  | table {table : String} {links : List Link} (hvia : r.via = none)
      (htable : r.viaTable = some ⟨table, links.map Link.field⟩) :
      GoesThrough config s c r (some ⟨s.tableQuery table, links⟩)

/-- A relation as seen from a query is the one that is written. -/
structure Config.Relates (config : Config) (s : Schema κ) (c : ModelConfig) (r : RelationConfig)
    (metadata : Metadata κ) : Prop where
  target : config.Opens s r.model metadata.target
  link : r.link = metadata.links.map Link.field
  pivot : config.GoesThrough s c r metadata.pivot

/-- A query answers for its model as it is written. -/
structure Query.Follows (q : Query κ) (config : Config) (c : ModelConfig) : Prop where
  table : q.model.table = c.table
  primaryKey : q.model.primaryKey = c.primaryKey
  defines : ∀ name, q.defines name = true ↔ c.conditions.has name = true ∨ name = elementsName
  hasRelation : ∀ name, q.hasRelation name = c.relations.has name
  relation : ∀ name r, c.relations.get? name = some r → ∃ metadata,
    q.relation? name = .ok (some metadata) ∧ config.Relates q.schema c r metadata

/-- The query is over a model of the schema, or over a table that has no model. -/
def Query.IsOf (q : Query κ) (s : Schema κ) : Prop :=
  q.schema = s ∧
    ((∃ name, s.models.get? name = some q.model) ∨ ∃ table, q.model = .new table table)

end

/-! ## Looking up relations -/

namespace Config

variable {κ : Type} {config : Config} {s : Schema κ} {c : ModelConfig} {r : RelationConfig}
  {q : Query κ} {name : String}

theorem Describes.exists_opens (h : config.Describes s) (hhas : config.models.has name = true) :
    ∃ q, config.Opens s name q := by
  obtain ⟨c, hc⟩ := Option.isSome_iff_exists.1 hhas
  obtain ⟨m, hm, hdescribes⟩ := h.models.exists_right hc
  refine ⟨⟨s, m, none⟩, ?_, c, hc, hdescribes.table⟩
  unfold Schema.query
  rw [hm]

variable (h : config.Describes q.schema) (hmodel : c.Describes name q.model)
  (hpermits : ∀ relation r, c.relations.get? relation = some r → config.Permits c r)

include h hmodel hpermits

/-- The pivot of a relation that is permitted can be opened. -/
theorem Describes.exists_goesThrough {relation : String} {pivot : Pivot}
    (hr : c.relations.get? relation = some r) (hpivot : r.DescribesPivot (some pivot)) :
    ∃ p, q.pivotQuery relation pivot = .ok p ∧ config.GoesThrough q.schema c r (some p) := by
  cases hpivot with
  | table hvia htable => exact ⟨_, rfl, .table hvia htable⟩
  | @relation via hvia =>
    have hpermitted := hpermits relation r hr
    have htable : r.viaTable = none := by
      rcases hpermitted.onePivot with hnone | hnone
      · rw [hvia] at hnone
        cases hnone
      · exact hnone
    obtain ⟨other, hother⟩ := Option.isSome_iff_exists.1 (hpermitted.via via hvia)
    obtain ⟨found, hfound, hdescribes⟩ := hmodel.relations.exists_right hother
    obtain ⟨q', hopens⟩ := h.exists_opens (hpermits via other hother).model
    refine ⟨⟨q', found.links⟩, ?_, .relation hvia htable hother hopens hdescribes.link⟩
    unfold Query.pivotQuery
    dsimp only
    rw [hfound]
    dsimp only
    rw [hdescribes.model, hopens.query]
    rfl

/-- A relation that is permitted is found, with its pivot. -/
theorem Describes.exists_relates {relation : String} (hr : c.relations.get? relation = some r) :
    ∃ metadata, q.relation? relation = .ok (some metadata) ∧
      config.Relates q.schema c r metadata := by
  obtain ⟨found, hfound, hdescribes⟩ := hmodel.relations.exists_right hr
  obtain ⟨target, hopens⟩ := h.exists_opens (hpermits relation r hr).model
  have hquery : q.schema.query found.model = .ok target := by
    rw [hdescribes.model]
    exact hopens.query
  have hpivot := hdescribes.pivot
  unfold Query.relation?
  rw [hfound]
  dsimp only
  rw [hquery]
  cases hcase : found.pivot with
  | none =>
    rw [hcase] at hpivot
    cases hpivot with
    | none hvia htable =>
      exact ⟨⟨target, found.links, none⟩, rfl, hopens, hdescribes.link, .nothing hvia htable⟩
  | some pivot =>
    rw [hcase] at hpivot
    obtain ⟨p, hp, hthrough⟩ := h.exists_goesThrough hmodel hpermits hr hpivot
    refine ⟨⟨target, found.links, some p⟩, ?_, hopens, hdescribes.link, hthrough⟩
    dsimp only
    show (do
      let pivot ← q.pivotQuery relation pivot
      return some ⟨target, found.links, some pivot⟩ : Except Fault (Option (Metadata κ))) = _
    rw [hp]
    rfl

end Config

/-! ## What an operation can fail for -/

namespace Query

variable {κ : Type} {s : Schema κ} {q q' : Query κ} {fault : Fault}

theorem IsOf.of_visits (h : q.IsOf s) (hvisits : q.Visits q') : q'.IsOf s := by
  induction hvisits with
  | refl => exact h
  | filtered filter _ ih => exact ih
  | related _ hrelation ih =>
    obtain ⟨model, m, hm, htarget⟩ := exists_model_of_relation? hrelation
    rw [htarget]
    rw [ih.1] at hm ⊢
    exact ⟨rfl, .inl ⟨model, hm⟩⟩

variable [Computed κ]

end Query

section

variable {κ : Type} {config : Config} {s : Schema κ} {q : Query κ} {fault : Fault}
  (h : config.Describes s)
  (hpermits : ∀ name c, config.models.get? name = some c →
    ∀ relation r, c.relations.get? relation = some r → config.Permits c r)

include h

include hpermits

variable [Computed κ]

end

/-! ## The schema of a configuration that loads -/

/-- A text loads exactly if it is a configuration without flaws. -/
theorem Config.ofString_ok_iff {text : String} {config : Config} :
    Config.ofString text = .ok config ↔ decode text = .ok config ∧ config.check = .ok () := by
  unfold ofString load
  cases hdecode : decode text with
  | error fault => simp
  | ok found =>
    cases hcheck : found.check with
    | error flaw =>
      constructor
      · intro h
        simp [hcheck] at h
      · rintro ⟨⟨⟩, hok⟩
        rw [hcheck] at hok
        cases hok
    | ok _ =>
      constructor
      · intro h
        simp only [hcheck] at h
        cases h
        exact ⟨rfl, hcheck⟩
      · rintro ⟨⟨⟩, -⟩
        simp [hcheck]

theorem Config.check_of_ofString {text : String} {config : Config}
    (h : Config.ofString text = .ok config) : config.check = .ok () :=
  (ofString_ok_iff.1 h).2

namespace Samples

end Samples

end Criteria
