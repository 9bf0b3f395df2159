import Criteria.Config.Basic
import Criteria.Proofs.Dict
import Criteria.Proofs.Level

/-!
# The schema of a configuration

What a configuration says about a schema, without a word on how the schema is built. Main
statements: a configuration has no flaw exactly if every relation leads to a declared model, through
a declared relation or a table if at all, over links that name columns (`Config.check_ok_iff`), and
one without flaws describes the schema that is made of it (`Schema.exists_ofConfig`).
-/

namespace Criteria

/-! ## Links -/

/-- A pair of columns as it is written. -/
def Link.field (l : Link) : String × Json := (l.foreign, .text l.own)

/-- The fields are pairs of columns. -/
def IsLink (fields : LinkFields) : Prop := ∃ links : List Link, fields = links.map Link.field

theorem linkPairs_ok_iff {context : String} {fields : LinkFields} {links : List Link} :
    linkPairs context fields = .ok links ↔ fields = links.map Link.field := by
  induction fields generalizing links with
  | nil =>
    rw [linkPairs]
    constructor
    · intro h
      cases h
      rfl
    · intro h
      rw [List.map_eq_nil_iff.1 h.symm]
  | cons e rest ih =>
    obtain ⟨foreign, value⟩ := e
    cases value with
    | text own =>
      rw [linkPairs, bind_ok_iff]
      constructor
      · rintro ⟨others, hothers, h⟩
        cases h
        rw [ih.1 hothers]
        rfl
      · intro h
        obtain ⟨l, others, rfl, hl, hothers⟩ := List.map_eq_cons_iff.1 h.symm
        cases hl
        exact ⟨others, ih.2 hothers.symm, rfl⟩
    | _ =>
      constructor
      · intro h
        cases h
      · intro h
        obtain ⟨l, others, rfl, hl, -⟩ := List.map_eq_cons_iff.1 h.symm
        cases hl

theorem isLink_iff (context : String) {fields : LinkFields} :
    IsLink fields ↔ ∃ links, linkPairs context fields = .ok links :=
  exists_congr fun _ => linkPairs_ok_iff.symm

/-! ## Flaws -/

/-- What a configuration asks of a relation of one of its models. -/
structure Config.Permits (config : Config) (c : ModelConfig) (r : RelationConfig) : Prop where
  model : config.models.has r.model = true
  onePivot : r.via = none ∨ r.viaTable = none
  via : ∀ via, r.via = some via → c.relations.has via = true
  link : IsLink r.link
  tableLink : ∀ table, r.viaTable = some table → IsLink table.link

/-- A check that finds a flaw, or nothing. -/
def refuse (found : Bool) (flaw : Flaw) : Except Flaw Unit := if found then .error flaw else .ok ()

theorem refuse_ok_iff {found : Bool} {flaw : Flaw} :
    refuse found flaw = .ok () ↔ found = false := by
  cases found with
  | true =>
    constructor
    · intro h
      cases h
    · intro h
      cases h
  | false => exact ⟨fun _ => rfl, fun _ => rfl⟩

theorem forM_ok_iff {ε α : Type} {f : α → Except ε Unit} {items : List α} :
    items.forM f = .ok () ↔ ∀ a ∈ items, f a = .ok () := by
  induction items with
  | nil =>
    constructor
    · intro _ a ha
      cases ha
    · intro _
      rfl
  | cons a rest ih =>
    show (f a >>= fun _ => rest.forM f) = .ok () ↔ _
    rw [bind_ok_iff, List.forall_mem_cons]
    constructor
    · rintro ⟨_, ha, hrest⟩
      exact ⟨ha, ih.1 hrest⟩
    · rintro ⟨ha, hrest⟩
      exact ⟨(), ha, ih.2 hrest⟩

namespace Config

variable {config : Config} {name relation : String} {c : ModelConfig} {r : RelationConfig}

/-- The flaw of a relation that goes through another one. -/
def checkVia (context : String) (c : ModelConfig) : Option String → Except Flaw Unit
  | some via => refuse (!c.relations.has via) (.unknownPivot context via)
  | none => .ok ()

/-- The flaw of a relation that goes through a table. -/
def checkTable (context : String) : Option PivotTableConfig → Except Flaw Unit
  | some table => linkPairs context table.link >>= fun _ => .ok ()
  | none => .ok ()

/-- The checks of a relation, one after another. -/
theorem checkRelation_eq : config.checkRelation name c relation r = (do
    refuse (!config.models.has r.model) (.unknownModel (context name relation) r.model)
    refuse (r.via.isSome && r.viaTable.isSome) (.twoPivots (context name relation))
    checkVia (context name relation) c r.via
    let _ ← linkPairs (context name relation) r.link
    checkTable (context name relation) r.viaTable) := by
  unfold checkRelation refuse checkVia checkTable
  dsimp only
  cases config.models.has r.model with
  | false => rfl
  | true =>
    cases (r.via.isSome && r.viaTable.isSome) with
    | true => rfl
    | false =>
      have hlinks : (do
          let _ ← linkPairs (context name relation) r.link
          match r.viaTable with
          | some table => do
            let _ ← linkPairs (context name relation) table.link
            pure ()
          | none => pure ()) = (do
          let _ ← linkPairs (context name relation) r.link
          checkTable (context name relation) r.viaTable) := by
        cases r.viaTable <;> rfl
      cases r.via with
      | none => exact hlinks
      | some via =>
        cases hvia : c.relations.has via with
        | true =>
          simp only [hvia]
          exact hlinks
        | false =>
          simp only [hvia]
          rfl

theorem checkRelation_ok_iff :
    config.checkRelation name c relation r = .ok () ↔ config.Permits c r := by
  have hvia : checkVia (context name relation) c r.via = .ok () ↔
      ∀ via, r.via = some via → c.relations.has via = true := by
    cases r.via with
    | none => simp [checkVia]
    | some via => simp [checkVia, refuse_ok_iff]
  have htable : checkTable (context name relation) r.viaTable = .ok () ↔
      ∀ table, r.viaTable = some table → IsLink table.link := by
    cases r.viaTable with
    | none => simp [checkTable]
    | some table => simp [checkTable, bind_ok_iff, isLink_iff (context name relation)]
  have hpivot : (r.via.isSome && r.viaTable.isSome) = false ↔ r.via = none ∨ r.viaTable = none := by
    cases r.via <;> cases r.viaTable <;> simp
  rw [checkRelation_eq, bind_ok_iff]
  constructor
  · rintro ⟨_, hmodel, h⟩
    obtain ⟨_, honePivot, h⟩ := bind_ok_iff.1 h
    obtain ⟨_, hvia', h⟩ := bind_ok_iff.1 h
    obtain ⟨links, hlinks, htable'⟩ := bind_ok_iff.1 h
    refine ⟨?_, hpivot.1 (refuse_ok_iff.1 honePivot), hvia.1 hvia',
      (isLink_iff _).2 ⟨links, hlinks⟩, htable.1 htable'⟩
    have hhas := refuse_ok_iff.1 hmodel
    rw [Bool.not_eq_false'] at hhas
    exact hhas
  · rintro ⟨hmodel, honePivot, hvia', hlink, htable'⟩
    obtain ⟨links, hlinks⟩ := (isLink_iff (context name relation)).1 hlink
    refine ⟨(), refuse_ok_iff.2 (by rw [hmodel]; rfl), ?_⟩
    refine bind_ok_iff.2 ⟨(), refuse_ok_iff.2 (hpivot.2 honePivot), ?_⟩
    refine bind_ok_iff.2 ⟨(), hvia.2 hvia', ?_⟩
    exact bind_ok_iff.2 ⟨links, hlinks, htable.2 htable'⟩

/-- A configuration has no flaw exactly if all relations of its models are permitted. -/
theorem check_ok_iff : config.check = .ok () ↔ ∀ name c, config.models.get? name = some c →
    ∀ relation r, c.relations.get? relation = some r → config.Permits c r := by
  unfold check
  rw [forM_ok_iff]
  constructor
  · intro h name c hc relation r hr
    have hmodel := forM_ok_iff.1 (h (name, c) ((Dict.get?_eq_some_iff _).1 hc))
    exact checkRelation_ok_iff.1 (hmodel (relation, r) ((Dict.get?_eq_some_iff _).1 hr))
  · rintro h ⟨name, c⟩ hc
    refine forM_ok_iff.2 ?_
    rintro ⟨relation, r⟩ hr
    refine checkRelation_ok_iff.2 ?_
    exact h name c ((Dict.get?_eq_some_iff _).2 hc) relation r ((Dict.get?_eq_some_iff _).2 hr)

end Config

/-! ## What a configuration describes -/

/-- What is written about the pivot of a relation. -/
inductive RelationConfig.DescribesPivot (r : RelationConfig) : Option Pivot → Prop
  | none (hvia : r.via = none) (htable : r.viaTable = none) : DescribesPivot r none
  | relation {via : String} (hvia : r.via = some via) : DescribesPivot r (some (.relation via))
  | table {table : String} {links : List Link} (hvia : r.via = none)
      (htable : r.viaTable = some ⟨table, links.map Link.field⟩) :
      DescribesPivot r (some (.table table links))

structure RelationConfig.Describes (r : RelationConfig) (relation : Relation) : Prop where
  model : relation.model = r.model
  link : r.link = relation.links.map Link.field
  pivot : r.DescribesPivot relation.pivot

structure ModelConfig.Describes {κ : Type} (c : ModelConfig) (name : String) (m : Model κ) :
    Prop where
  name : m.name = name
  table : m.table = c.table
  primaryKey : m.primaryKey = c.primaryKey
  conditions : c.conditions.Matches (fun _ draft d => d = .template draft) m.conditions
  relations : c.relations.Matches (fun _ r relation => r.Describes relation) m.relations

structure Config.Describes {κ : Type} (config : Config) (s : Schema κ) : Prop where
  dialect : s.dialect = config.dialect
  maxDepth : s.maxDepth = config.maxDepth
  models : config.models.Matches (fun name c m => c.Describes name m) s.models

/-! ## The schema that is made -/

namespace RelationConfig

variable {r : RelationConfig} {context : String}

/-- The pivot of a relation that is made. -/
def pivot (context : String) (r : RelationConfig) : Except Flaw (Option Pivot) :=
  match r.via, r.viaTable with
  | some via, _ => .ok (some (.relation via))
  | none, some table =>
    (fun links => some (.table table.table links)) <$> linkPairs context table.link
  | none, none => .ok none

theorem pivot_ok_iff {pivot : Option Pivot} :
    r.pivot context = .ok pivot ↔ r.DescribesPivot pivot := by
  unfold RelationConfig.pivot
  constructor
  · intro h
    split at h
    · next via hvia =>
      cases h
      exact .relation hvia
    · next table hvia htable =>
      obtain ⟨links, hlinks, rfl⟩ := map_ok_iff.1 h
      refine .table hvia ?_
      rw [htable, ← linkPairs_ok_iff.1 hlinks]
    · next hvia htable =>
      cases h
      exact .none hvia htable
  · intro h
    cases h with
    | none hvia htable => rw [hvia, htable]
    | relation hvia => rw [hvia]
    | table hvia htable =>
      rw [hvia, htable]
      exact map_ok_iff.2 ⟨_, linkPairs_ok_iff.2 rfl, rfl⟩

theorem ofConfig_eq : Relation.ofConfig context r = (do
    let pivot ← r.pivot context
    let links ← linkPairs context r.link
    return ⟨r.model, links, pivot⟩) := by
  unfold Relation.ofConfig pivot
  cases r.via with
  | some via => rfl
  | none =>
    cases r.viaTable with
    | none => rfl
    | some table =>
      dsimp only
      cases linkPairs context table.link <;> rfl

theorem ofConfig_ok_iff {relation : Relation} :
    Relation.ofConfig context r = .ok relation ↔ r.Describes relation := by
  rw [ofConfig_eq, bind_ok_iff]
  constructor
  · rintro ⟨pivot, hpivot, h⟩
    obtain ⟨links, hlinks, h⟩ := bind_ok_iff.1 h
    cases h
    exact ⟨rfl, linkPairs_ok_iff.1 hlinks, pivot_ok_iff.1 hpivot⟩
  · rintro ⟨hmodel, hlink, hpivot⟩
    refine ⟨relation.pivot, pivot_ok_iff.2 hpivot, ?_⟩
    refine bind_ok_iff.2 ⟨relation.links, linkPairs_ok_iff.2 hlink, ?_⟩
    rw [← hmodel]
    rfl

end RelationConfig

/-- A relation that a configuration permits can be made. -/
theorem Config.Permits.exists_relation {config : Config} {c : ModelConfig} {r : RelationConfig}
    (h : config.Permits c r) (context : String) :
    ∃ relation, Relation.ofConfig context r = .ok relation := by
  obtain ⟨links, hlinks⟩ := h.link
  suffices hpivot : ∃ pivot, r.DescribesPivot pivot by
    obtain ⟨pivot, hpivot⟩ := hpivot
    exact ⟨⟨r.model, links, pivot⟩, RelationConfig.ofConfig_ok_iff.2 ⟨rfl, hlinks, hpivot⟩⟩
  cases hvia : r.via with
  | some via => exact ⟨_, .relation hvia⟩
  | none =>
    cases htable : r.viaTable with
    | none => exact ⟨_, .none hvia htable⟩
    | some table =>
      obtain ⟨tableLinks, htableLinks⟩ := h.tableLink table htable
      refine ⟨some (.table table.table tableLinks), .table hvia ?_⟩
      rw [htable, ← htableLinks]

namespace Model

variable {κ : Type}

theorem exists_foldl_template (m : Model κ) {entries : List (String × Json)}
    (hascending : entries.Pairwise fun a b => a.1 < b.1) :
    ∃ conditions, entries.foldl (fun m e => m.template e.1 e.2) m =
        { m with conditions := conditions } ∧
      Dict.FilledFrom (fun _ draft d => d = .template draft) entries m.conditions conditions := by
  induction entries generalizing m with
  | nil => exact ⟨m.conditions, rfl, .nil m.conditions⟩
  | cons e rest ih =>
    obtain ⟨hname, hrest⟩ := List.pairwise_cons.1 hascending
    obtain ⟨conditions, hfold, hfilled⟩ := ih (m.template e.1 e.2) hrest
    exact ⟨conditions, hfold, .cons hname rfl hfilled⟩

theorem exists_withRelations (m : Model κ) {entries : List (String × RelationConfig)}
    (hascending : entries.Pairwise fun a b => a.1 < b.1)
    (h : ∀ e ∈ entries, ∀ context, ∃ relation, Relation.ofConfig context e.2 = .ok relation) :
    ∃ relations, m.withRelations entries = .ok { m with relations := relations } ∧
      Dict.FilledFrom (fun _ r relation => r.Describes relation) entries m.relations
        relations := by
  induction entries generalizing m with
  | nil => exact ⟨m.relations, rfl, .nil m.relations⟩
  | cons e rest ih =>
    obtain ⟨name, r⟩ := e
    obtain ⟨hname, hrest⟩ := List.pairwise_cons.1 hascending
    obtain ⟨relation, hrelation⟩ := h (name, r) List.mem_cons_self (Config.context m.name name)
    obtain ⟨relations, hwith, hfilled⟩ := ih (m.relation name relation) hrest
      fun e he => h e (List.mem_cons_of_mem _ he)
    refine ⟨relations, ?_, .cons hname (RelationConfig.ofConfig_ok_iff.1 hrelation) hfilled⟩
    rw [withRelations]
    exact bind_ok_iff.2 ⟨relation, hrelation, hwith⟩

/-- A model all relations of which can be made is made as it is described. -/
theorem exists_ofConfig (name : String) {c : ModelConfig}
    (h : ∀ e ∈ c.relations.entries, ∀ context, ∃ relation,
      Relation.ofConfig context e.2 = .ok relation) :
    ∃ m : Model κ, Model.ofConfig name c = .ok m ∧ c.Describes name m := by
  obtain ⟨conditions, hfold, hconditions⟩ := exists_foldl_template
    (⟨name, c.table, c.primaryKey, .empty, .empty, ⟨name⟩⟩ : Model κ) c.conditions.ascending
  obtain ⟨relations, hwith, hrelations⟩ := exists_withRelations
    (⟨name, c.table, c.primaryKey, conditions, .empty, ⟨name⟩⟩ : Model κ) c.relations.ascending h
  refine ⟨⟨name, c.table, c.primaryKey, conditions, relations, ⟨name⟩⟩, ?_, rfl, rfl, rfl,
    hconditions.matches_of_empty, hrelations.matches_of_empty⟩
  show (c.conditions.entries.foldl (fun m e => m.template e.1 e.2)
    (⟨name, c.table, c.primaryKey, .empty, .empty, ⟨name⟩⟩ : Model κ)).withRelations
      c.relations.entries = _
  rw [hfold, hwith]

end Model

namespace Schema

variable {κ : Type}

theorem exists_withModels (s : Schema κ) {entries : List (String × ModelConfig)}
    (hascending : entries.Pairwise fun a b => a.1 < b.1)
    (h : ∀ e ∈ entries, ∀ e' ∈ e.2.relations.entries, ∀ context, ∃ relation,
      Relation.ofConfig context e'.2 = .ok relation) :
    ∃ models, s.withModels entries = .ok { s with models := models } ∧
      Dict.FilledFrom (fun name c m => c.Describes name m) entries s.models models := by
  induction entries generalizing s with
  | nil => exact ⟨s.models, rfl, .nil s.models⟩
  | cons e rest ih =>
    obtain ⟨name, c⟩ := e
    obtain ⟨hname, hrest⟩ := List.pairwise_cons.1 hascending
    obtain ⟨m, hm, hdescribes⟩ := Model.exists_ofConfig name (h (name, c) List.mem_cons_self)
    obtain ⟨models, hwith, hfilled⟩ := ih (s.withModel m) hrest
      fun e he => h e (List.mem_cons_of_mem _ he)
    refine ⟨models, ?_, .cons hname hdescribes ?_⟩
    · rw [withModels]
      exact bind_ok_iff.2 ⟨m, hm, hwith⟩
    · rw [← hdescribes.name]
      exact hfilled

/-- A configuration without flaws describes the schema that is made of it. -/
theorem exists_ofConfig {config : Config} (h : config.check = .ok ()) :
    ∃ s : Schema κ, Schema.ofConfig config = .ok s ∧ config.Describes s := by
  have hpermits := Config.check_ok_iff.1 h
  obtain ⟨models, hwith, hfilled⟩ := exists_withModels
    (Schema.new config.dialect config.maxDepth : Schema κ) config.models.ascending <| by
      rintro ⟨name, c⟩ hc ⟨relation, r⟩ hr context
      exact (hpermits name c ((Dict.get?_eq_some_iff _).2 hc) relation r
        ((Dict.get?_eq_some_iff _).2 hr)).exists_relation context
  exact ⟨_, hwith, rfl, rfl, hfilled.matches_of_empty⟩

end Schema

end Criteria
