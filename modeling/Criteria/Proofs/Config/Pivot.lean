import Criteria.Proofs.Config.Usable
import Criteria.Proofs.Relation.Correlation

/-!
# The columns that links name

A link names columns of two tables: of the table that it leads to, and of the one that it starts
from. A relation through a pivot starts from the pivot, and its pivot is linked to the parent. The
pivot may be the model of another relation; then the link of that relation is taken for the link
between the pivot and the parent, which it is only if that relation is direct.

Main statements: a pivot by a relation is the target of the relation with its links
(`Config.GoesThrough.pivot_eq`); and if a relation goes through a table or a direct relation, the
link of its pivot starts from the parent, and every equality that is embedded for it compares
columns of the tables that they are given with (`Config.pivot_starts_from_parent`). A relation
through one that has a pivot itself takes columns of that pivot for columns of the parent
(`Samples.labels_start_from_elsewhere`).
-/

namespace Criteria

/-! ## Columns that a configuration names -/

/-- The column that a link is written with. -/
def ownColumn? : Json → Option String
  | .text own => some own
  | _ => none

/-- The columns that a link names, with their tables: `far` is the one that it leads to, `near` the
one that it starts from. -/
def linkColumns (far near : Option String) (fields : LinkFields) : List (String × String) :=
  fields.flatMap fun field =>
    (do return (← far, field.1) : Option (String × String)).toList ++
      (do return (← near, ← ownColumn? field.2) : Option (String × String)).toList

namespace ModelConfig

/-- The table that a relation of the model starts from: its pivot, or the table of the model. -/
def source? (config : Config) (c : ModelConfig) (r : RelationConfig) : Option String :=
  match r.via, r.viaTable with
  | some via, _ => do
    let other ← c.relations.get? via
    let m ← config.models.get? other.model
    return m.table
  | none, some table => some table.table
  | none, none => some c.table

/-- The columns that a relation of the model names. -/
def relationColumns (config : Config) (c : ModelConfig) (r : RelationConfig) :
    List (String × String) :=
  linkColumns ((config.models.get? r.model).map (·.table)) (c.source? config r) r.link ++
    r.viaTable.toList.flatMap fun pivot => linkColumns (some pivot.table) (some c.table) pivot.link

end ModelConfig

namespace Config

/-- The columns that a configuration names, with their tables. -/
def columns (config : Config) : List (String × String) :=
  config.models.entries.flatMap fun (_, c) =>
    (c.table, c.primaryKey) :: c.relations.entries.flatMap fun (_, r) => c.relationColumns config r

/-- The configuration names a column of a table. -/
def HasColumn (config : Config) (table column : String) : Prop := (table, column) ∈ config.columns

instance (config : Config) (table column : String) : Decidable (config.HasColumn table column) :=
  inferInstanceAs (Decidable (_ ∈ _))

end Config

/-- A relation as it is written has no pivot. -/
def RelationConfig.IsDirect (r : RelationConfig) : Prop := r.via = none ∧ r.viaTable = none

/-- The query over the rows that a relation starts from. -/
def Metadata.source {κ : Type} (metadata : Metadata κ) (parent : Query κ) : Query κ :=
  match metadata.pivot with
  | none => parent
  | some pivot => pivot.query

theorem Link.field_injective : Function.Injective Link.field := by
  rintro ⟨foreign, own⟩ ⟨foreign', own'⟩ h
  cases h
  rfl

theorem mem_linkColumns (far near : String) {links : List Link} {link : Link} (h : link ∈ links) :
    (far, link.foreign) ∈ linkColumns (some far) (some near) (links.map Link.field) ∧
      (near, link.own) ∈ linkColumns (some far) (some near) (links.map Link.field) := by
  have hfield : link.field ∈ links.map Link.field := List.mem_map_of_mem h
  unfold linkColumns
  constructor
  · exact List.mem_flatMap.2 ⟨_, hfield, List.mem_cons_self⟩
  · exact List.mem_flatMap.2 ⟨_, hfield, List.mem_cons_of_mem _ List.mem_cons_self⟩

theorem Config.mem_columns {config : Config} {name relation : String} {c : ModelConfig}
    {r : RelationConfig} (hc : config.models.get? name = some c)
    (hr : c.relations.get? relation = some r) {x : String × String}
    (h : x ∈ c.relationColumns config r) : x ∈ config.columns := by
  refine List.mem_flatMap.2 ⟨_, (Dict.get?_eq_some_iff _).1 hc, List.mem_cons_of_mem _ ?_⟩
  exact List.mem_flatMap.2 ⟨_, (Dict.get?_eq_some_iff _).1 hr, h⟩

namespace Config

variable {κ : Type} {config : Config} {s : Schema κ} {c : ModelConfig} {r : RelationConfig}

theorem Opens.get_table {name : String} {q : Query κ} (h : config.Opens s name q) :
    (config.models.get? name).map (·.table) = some q.model.table := by
  obtain ⟨c, hc, htable⟩ := h.table
  rw [hc, htable]
  rfl

theorem Opens.eq {name : String} {q q' : Query κ} (h : config.Opens s name q)
    (h' : config.Opens s name q') : q = q' :=
  Except.ok.inj (h.query.symm.trans h'.query)

/-! ## Where links start -/

variable {q : Query κ} {metadata : Metadata κ} {pivot : PivotQuery κ} {name relation via : String}

/-- A relation starts from its pivot, or else from the parent. -/
theorem Relates.source? (h : config.Relates s c r metadata) (htable : q.model.table = c.table) :
    c.source? config r = some (metadata.source q).model.table := by
  have hthrough := h.pivot
  unfold ModelConfig.source? Metadata.source
  cases hpivot : metadata.pivot with
  | none =>
    rw [hpivot] at hthrough
    cases hthrough with
    | nothing hvia htable' =>
      rw [hvia, htable', htable]
  | some pivot =>
    rw [hpivot] at hthrough
    cases hthrough with
    | relation hvia htable' hother hopens hlink =>
      obtain ⟨m, hm, hmtable⟩ := hopens.table
      rw [hvia]
      dsimp only
      rw [hother]
      dsimp only [Option.bind_eq_bind, Option.bind_some]
      rw [hm, hmtable]
      rfl
    | table hvia htable' =>
      rw [hvia, htable']
      rfl

section

variable (hc : config.models.get? name = some c) (hr : c.relations.get? relation = some r)

include hc hr

/-- The link of a relation leads to its target from where it starts. -/
theorem Relates.hasColumn (h : config.Relates s c r metadata) (htable : q.model.table = c.table)
    {link : Link} (hlink : link ∈ metadata.links) :
    config.HasColumn metadata.target.model.table link.foreign ∧
      config.HasColumn (metadata.source q).model.table link.own := by
  obtain ⟨hforeign, hown⟩ :=
    mem_linkColumns metadata.target.model.table (metadata.source q).model.table hlink
  rw [← h.target.get_table, ← h.source? htable, ← h.link] at hforeign hown
  constructor
  · exact mem_columns hc hr (List.mem_append_left _ hforeign)
  · exact mem_columns hc hr (List.mem_append_left _ hown)

/-- The link of a pivot table leads to the table from the model. -/
theorem hasColumn_of_viaTable {table : String} {links : List Link}
    (htable : r.viaTable = some ⟨table, links.map Link.field⟩) {link : Link}
    (hlink : link ∈ links) :
    config.HasColumn table link.foreign ∧ config.HasColumn c.table link.own := by
  obtain ⟨hforeign, hown⟩ := mem_linkColumns table c.table hlink
  have hcolumns : ∀ x ∈ linkColumns (some table) (some c.table) (links.map Link.field),
      x ∈ config.columns := by
    intro x hx
    refine mem_columns hc hr (List.mem_append_right _ ?_)
    rw [htable]
    exact List.mem_flatMap.2 ⟨_, List.mem_singleton_self _, hx⟩
  exact ⟨hcolumns _ hforeign, hcolumns _ hown⟩

end

/-- A pivot by a relation is the target of the relation, with its links. -/
theorem GoesThrough.pivot_eq (h : config.GoesThrough s c r (some pivot)) (hvia : r.via = some via)
    {other : RelationConfig} (hother : c.relations.get? via = some other)
    (hrelates : config.Relates s c other metadata) : pivot = ⟨metadata.target, metadata.links⟩ := by
  cases h with
  | table hnone _ =>
    rw [hvia] at hnone
    cases hnone
  | @relation _ _ _ links hvia' _ hother' hopens hlink =>
    rw [hvia] at hvia'
    cases hvia'
    rw [hother] at hother'
    cases hother'
    have hlinks : links = metadata.links :=
      List.map_injective_iff.2 Link.field_injective (hlink.symm.trans hrelates.link)
    rw [hopens.eq hrelates.target, hlinks]

/-- A direct relation starts from the parent. -/
theorem Relates.source_of_isDirect (h : config.Relates s c r metadata) (hdirect : r.IsDirect) :
    metadata.source q = q := by
  have hthrough := h.pivot
  unfold Metadata.source
  cases hpivot : metadata.pivot with
  | none => rfl
  | some pivot =>
    rw [hpivot] at hthrough
    cases hthrough with
    | relation hvia _ _ _ _ =>
      rw [hdirect.1] at hvia
      cases hvia
    | table _ htable =>
      rw [hdirect.2] at htable
      cases htable

section

variable (h : config.Describes q.schema) (hmodel : c.Describes name q.model)
  (hpermits : ∀ relation r, c.relations.get? relation = some r → config.Permits c r)
  (hc : config.models.get? name = some c) (hr : c.relations.get? relation = some r)

include h hmodel hpermits hr

/-- A relation that another one goes through is found. -/
theorem Describes.exists_relates_via (hvia : r.via = some via) :
    ∃ other other', c.relations.get? via = some other ∧ q.relation? via = .ok (some other') ∧
      config.Relates q.schema c other other' := by
  obtain ⟨other, hother⟩ := Option.isSome_iff_exists.1 ((hpermits relation r hr).via via hvia)
  obtain ⟨other', hfound, hrelates⟩ := h.exists_relates hmodel hpermits hother
  exact ⟨other, other', hother, hfound, hrelates⟩

include hc

/-- The link of a pivot leads to the pivot from the parent, or from where the relation starts that
the pivot is taken from. -/
theorem Describes.hasColumn_pivot (hthrough : config.GoesThrough q.schema c r (some pivot))
    {link : Link} (hlink : link ∈ pivot.links) :
    config.HasColumn pivot.query.model.table link.foreign ∧
      ((∀ via other, r.via = some via → c.relations.get? via = some other → other.IsDirect) →
        config.HasColumn q.model.table link.own) := by
  cases hvia : r.via with
  | none =>
    cases hthrough with
    | relation hvia' _ _ _ _ =>
      rw [hvia] at hvia'
      cases hvia'
    | table _ htable =>
      obtain ⟨hforeign, hown⟩ := hasColumn_of_viaTable hc hr htable hlink
      rw [hmodel.table]
      exact ⟨hforeign, fun _ => hown⟩
  | some via =>
    obtain ⟨other, other', hother, -, hrelates⟩ :=
      h.exists_relates_via hmodel hpermits hr hvia
    obtain rfl := hthrough.pivot_eq hvia hother hrelates
    obtain ⟨hforeign, hown⟩ := hrelates.hasColumn hc hother hmodel.table hlink
    refine ⟨hforeign, fun hdirect => ?_⟩
    rw [hrelates.source_of_isDirect (hdirect via other rfl hother)] at hown
    exact hown

/-- Every equality that is embedded for a relation compares columns of the tables that they are
given with, if its pivot is not taken from a relation that has one itself. -/
theorem Describes.hasColumn_equalities (hrelates : config.Relates q.schema c r metadata)
    (hpivot : metadata.pivot = some pivot)
    (hdirect : ∀ via other, r.via = some via → c.relations.get? via = some other →
      other.IsDirect)
    {path : Path κ} (hpath : metadata.path? = some path) :
    ∀ eq ∈ path.equalities q metadata.target,
      config.HasColumn eq.around eq.own ∧ config.HasColumn eq.inside eq.foreign := by
  have hthrough : config.GoesThrough q.schema c r (some pivot) := hpivot ▸ hrelates.pivot
  have hsource : metadata.source q = pivot.query := by
    unfold Metadata.source
    rw [hpivot]
  cases Metadata.path?_eq_some_iff.1 hpath with
  | direct _ hnone =>
    rw [hpivot] at hnone
    cases hnone
  | @through first link rest others pivot' hfirst hsome hlink =>
    obtain rfl : pivot = pivot' := Option.some.inj (hpivot.symm.trans hsome)
    have hlink' : link ∈ pivot.links := hlink ▸ List.mem_cons_self
    have hfirst' : first ∈ metadata.links := hfirst ▸ List.mem_cons_self
    obtain ⟨hforeign, hown⟩ := h.hasColumn_pivot hmodel hpermits hc hr hthrough hlink'
    obtain ⟨htarget, hremote⟩ := hrelates.hasColumn hc hr hmodel.table hfirst'
    rw [hsource] at hremote
    refine List.forall_mem_cons.2 ⟨⟨hown hdirect, hforeign⟩, ?_⟩
    exact List.forall_mem_singleton.2 ⟨hremote, htarget⟩

end

/-- A query of the schema of a configuration that loads is over a model that is written and that
was checked. -/
theorem describes_of_query {text model : String} (hconfig : ofString text = .ok config)
    (hs : Schema.ofConfig config = .ok s) (hq : s.query model = .ok q)
    (hc : config.models.get? model = some c) :
    config.Describes q.schema ∧ c.Describes model q.model ∧
      ∀ relation r, c.relations.get? relation = some r → config.Permits c r := by
  have hcheck := check_of_ofString hconfig
  obtain ⟨s', hs', hdescribes⟩ : ∃ s' : Schema κ, Schema.ofConfig config = .ok s' ∧
    config.Describes s' := Schema.exists_ofConfig hcheck
  obtain rfl : s' = s := Except.ok.inj (hs'.symm.trans hs)
  obtain ⟨m, hm, rfl⟩ := s'.exists_model_of_query hq
  obtain ⟨c', hc', hmodel⟩ := hdescribes.models.exists_left hm
  obtain rfl : c' = c := Option.some.inj (hc'.symm.trans hc)
  exact ⟨hdescribes, hmodel, check_ok_iff.1 hcheck model c' hc⟩

end Config

/-- The link of a pivot starts from the parent if the relation goes through a table, or through a
relation that is direct itself. Then all columns that are compared are columns of the tables that
they are given with. A pivot by a relation starts where this relation starts. -/
theorem Config.pivot_starts_from_parent {κ : Type} {text model name : String} {config : Config}
    {s : Schema κ} {q : Query κ} {c : ModelConfig} {r : RelationConfig} {metadata : Metadata κ}
    {pivot : PivotQuery κ} (hconfig : Config.ofString text = .ok config)
    (hs : Schema.ofConfig config = .ok s) (hq : s.query model = .ok q)
    (hc : config.models.get? model = some c) (hr : c.relations.get? name = some r)
    (hmetadata : q.relation? name = .ok (some metadata)) (hpivot : metadata.pivot = some pivot) :
    ((∀ via other, r.via = some via → c.relations.get? via = some other → other.IsDirect) →
      (∀ link ∈ pivot.links, config.HasColumn q.model.table link.own) ∧
      ∀ path, metadata.path? = some path → ∀ eq ∈ path.equalities q metadata.target,
        config.HasColumn eq.around eq.own ∧ config.HasColumn eq.inside eq.foreign) ∧
    ∀ via, r.via = some via → ∃ other, q.relation? via = .ok (some other) ∧
      pivot = ⟨other.target, other.links⟩ ∧
      ∀ link ∈ pivot.links, config.HasColumn (other.source q).model.table link.own := by
  obtain ⟨hdescribes, hmodel, hpermits⟩ := describes_of_query hconfig hs hq hc
  obtain ⟨found, hfound, hrelates⟩ := hdescribes.exists_relates hmodel hpermits hr
  rw [hmetadata] at hfound
  cases hfound
  have hthrough : config.GoesThrough q.schema c r (some pivot) := hpivot ▸ hrelates.pivot
  constructor
  · intro hdirect
    constructor
    · intro link hlink
      exact (hdescribes.hasColumn_pivot hmodel hpermits hc hr hthrough hlink).2 hdirect
    · intro path hpath
      exact hdescribes.hasColumn_equalities hmodel hpermits hc hr hrelates hpivot hdirect hpath
  · intro via hvia
    obtain ⟨other, other', hother, hfound, hrelates'⟩ :=
      hdescribes.exists_relates_via hmodel hpermits hr hvia
    obtain rfl := hthrough.pivot_eq hvia hother hrelates'
    refine ⟨other', hfound, rfl, fun link hlink => ?_⟩
    exact (hrelates'.hasColumn hc hother hmodel.table hlink).2

namespace Samples

/-- Orders with items and, through these, products. -/
def ordersText : String :=
  "\x7b\"models\":\x7b\"Order\":\x7b\"table\":\"orders\",\"relations\":\x7b" ++
    "\"items\":\x7b\"model\":\"Item\",\"link\":\x7b\"order_id\":\"id\"\x7d\x7d," ++
    "\"products\":\x7b\"model\":\"Product\",\"link\":\x7b\"id\":\"product_id\"\x7d," ++
    "\"via\":\"items\"\x7d\x7d\x7d," ++
    "\"Item\":\x7b\"table\":\"items\"\x7d,\"Product\":\x7b\"table\":\"products\"\x7d\x7d\x7d"

/-- Items are linked to orders directly, so that products start from orders. -/
theorem products_start_from_orders : ∃ config, ∃ s : Schema Empty, ∃ q c r metadata pivot,
    Config.ofString ordersText = .ok config ∧ Schema.ofConfig config = .ok s ∧
      s.query "Order" = .ok q ∧ config.models.get? "Order" = some c ∧
      c.relations.get? "products" = some r ∧ q.relation? "products" = .ok (some metadata) ∧
      metadata.pivot = some pivot ∧ pivot.links = [⟨"order_id", "id"⟩] ∧
      (∀ via other, r.via = some via → c.relations.get? via = some other → other.IsDirect) ∧
      ∀ link ∈ pivot.links, config.HasColumn q.model.table link.own := by
  have hproducts : ((open? ordersText "Order" "products").bind fun o => do
      let c ← o.config.models.get? "Order"
      let r ← c.relations.get? "products"
      let pivot ← o.metadata.pivot
      let items ← c.relations.get? "items"
      return (r.via, items.via, items.viaTable.isNone, pivot.links)) =
      some (some "items", none, true, [⟨"order_id", "id"⟩]) := by
    decide +kernel
  obtain ⟨⟨config, s, q, metadata⟩, ho, hproducts⟩ := Option.bind_eq_some_iff.1 hproducts
  obtain ⟨hconfig, hs, hq, hmetadata⟩ := open?_eq_some ho
  obtain ⟨c, hc, hproducts⟩ := Option.bind_eq_some_iff.1 hproducts
  obtain ⟨r, hr, hproducts⟩ := Option.bind_eq_some_iff.1 hproducts
  obtain ⟨pivot, hpivot, hproducts⟩ := Option.bind_eq_some_iff.1 hproducts
  obtain ⟨items, hitems, hproducts⟩ := Option.bind_eq_some_iff.1 hproducts
  simp only [Option.pure_def, Option.some.injEq, Prod.mk.injEq, Option.isNone_iff_eq_none]
    at hproducts
  obtain ⟨hvia, hitemsVia, hitemsTable, hlinks⟩ := hproducts
  have hdirect : ∀ via other, r.via = some via → c.relations.get? via = some other →
      other.IsDirect := by
    intro via other hvia' hother
    rw [hvia] at hvia'
    cases hvia'
    rw [hitems] at hother
    cases hother
    exact ⟨hitemsVia, hitemsTable⟩
  obtain ⟨hstarts, -⟩ :=
    Config.pivot_starts_from_parent hconfig hs hq hc hr hmetadata hpivot
  exact ⟨config, s, q, c, r, metadata, pivot, hconfig, hs, hq, hc, hr, hmetadata, hpivot, hlinks,
    hdirect, (hstarts hdirect).1⟩

/-- Posts with tags through a table and, through the tags, labels. -/
def labelsText : String :=
  "\x7b\"models\":\x7b\"Post\":\x7b\"table\":\"posts\",\"relations\":\x7b" ++
    "\"tags\":\x7b\"model\":\"Tag\",\"link\":\x7b\"id\":\"tag_id\"\x7d,\"via_table\":" ++
    "\x7b\"table\":\"post_tags\",\"link\":\x7b\"post_id\":\"id\"\x7d\x7d\x7d," ++
    "\"labels\":\x7b\"model\":\"Label\",\"link\":\x7b\"tag_id\":\"id\"\x7d," ++
    "\"via\":\"tags\"\x7d\x7d\x7d," ++
    "\"Tag\":\x7b\"table\":\"tags\"\x7d,\"Label\":\x7b\"table\":\"labels\"\x7d\x7d\x7d"

/-- Labels go through the tags, which go through a table. The tag of that table is taken for one of
the post, and the posts have no such column. -/
theorem labels_start_from_elsewhere : ∃ config, ∃ s : Schema Empty, ∃ q metadata pivot path,
    Config.ofString labelsText = .ok config ∧ Schema.ofConfig config = .ok s ∧
      s.query "Post" = .ok q ∧ q.relation? "labels" = .ok (some metadata) ∧
      metadata.pivot = some pivot ∧ metadata.path? = some path ∧ q.model.table = "posts" ∧
      pivot.links = [⟨"id", "tag_id"⟩] ∧
      ⟨"posts", "tag_id", "tags", "id", []⟩ ∈ path.equalities q metadata.target ∧
      ¬ config.HasColumn "posts" "tag_id" ∧ config.HasColumn "post_tags" "tag_id" := by
  have hlabels : ((open? labelsText "Post" "labels").bind fun o => do
      let pivot ← o.metadata.pivot
      let path ← o.metadata.path?
      return (o.query.model.table, pivot.links, path.equalities o.query o.metadata.target,
        decide (o.config.HasColumn "posts" "tag_id"),
        decide (o.config.HasColumn "post_tags" "tag_id"))) =
      some ("posts", [⟨"id", "tag_id"⟩], [⟨"posts", "tag_id", "tags", "id", []⟩,
        ⟨"tags", "id", "labels", "tag_id", ["posts"]⟩], false, true) := by
    decide +kernel
  obtain ⟨⟨config, s, q, metadata⟩, ho, hlabels⟩ := Option.bind_eq_some_iff.1 hlabels
  obtain ⟨hconfig, hs, hq, hmetadata⟩ := open?_eq_some ho
  obtain ⟨pivot, hpivot, hlabels⟩ := Option.bind_eq_some_iff.1 hlabels
  obtain ⟨path, hpath, hlabels⟩ := Option.bind_eq_some_iff.1 hlabels
  simp only [Option.pure_def, Option.some.injEq, Prod.mk.injEq, decide_eq_false_iff_not,
    decide_eq_true_iff] at hlabels
  obtain ⟨htable, hlinks, hequalities, hmissing, hthere⟩ := hlabels
  refine ⟨config, s, q, metadata, pivot, path, hconfig, hs, hq, hmetadata, hpivot, hpath, htable,
    hlinks, ?_, hmissing, hthere⟩
  rw [hequalities]
  exact List.mem_cons_self

end Samples

end Criteria
