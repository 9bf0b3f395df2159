import Criteria.Proofs.Config.Canonical
import Criteria.Proofs.Config.Usable

/-!
# Configurations that are read back

Main statement: a configuration that loads is loaded again from its own text, and makes the same
schema (`Config.reload`). Each part is read back from the document that is written for it, with the
room that it has inside a text.
-/

namespace Criteria

open Json (Doc)
open Json.Doc

/-! ## Records -/

theorem Sql.Dialect.read_label (d : Sql.Dialect) : read d.label = .ok d := by
  unfold read
  rw [ofLabel?_label]

/-- A natural number of 64 bits is read back. -/
theorem Json.Doc.asNat_doc {n : Nat} (h : n < Numeral.wordCount) :
    asNat (Json.number (.int n)).doc = .ok n := by
  have hback : (Numeral.ofInt n).number? = some (.int n) := by
    refine Numeral.number?_ofInt ?_ (Int.ofNat_lt.2 h)
    have hlow : (0 : Int) ≤ Nat.pow 2 63 := Int.natCast_nonneg _
    omega
  show asNat (.number (Numeral.ofInt n)) = .ok n
  simp [asNat, hback]

namespace PivotTableConfig

variable {link : LinkFields}

theorem linkOfDoc_doc (hlink : IsLink link) (hkeys : DistinctKeys link) (room : Nat) :
    linkOfDoc (room + 1) (Json.object link).doc = .ok link := by
  have hentries : asEntries (asJson room) (Json.fieldDocs (link.map fun e => (e.1, id e.2))) =
      .ok link := by
    refine asEntries_fieldDocs ?_
    obtain ⟨links, rfl⟩ := hlink
    intro e he
    obtain ⟨l, -, rfl⟩ := List.mem_map.1 he
    rfl
  have hsame : link.map (fun e => (e.1, id e.2)) = link := List.map_id link
  rw [hsame] at hentries
  refine bind_ok_iff.2 ⟨link, ?_, congrArg Except.ok (putFields_of_distinctKeys hkeys)⟩
  refine bind_ok_iff.2 ⟨room, rfl, ?_⟩
  exact bind_ok_iff.2 ⟨link, hentries, rfl⟩

theorem ofDoc_toJson {t : PivotTableConfig} (hlink : IsLink t.link) (hkeys : DistinctKeys t.link)
    (room : Nat) : ofDoc (room + 2) t.toJson.doc = .ok t := by
  have hrecord : asRecord (room + 2) fields {} t.toJson.doc = .ok ⟨some t.table, some t.link⟩ := by
    -- each field is known and comes once, so it fills the part that is still empty
    refine asRecord_object ?_
    refine (readFields_cons ⟨some t.table, none⟩ rfl rfl rfl _).trans ?_
    refine (readFields_cons ⟨some t.table, some t.link⟩ rfl rfl ?_ _).trans rfl
    exact bind_ok_iff.2 ⟨t.link, linkOfDoc_doc hlink hkeys room, rfl⟩
  exact bind_ok_iff.2 ⟨_, hrecord, rfl⟩

end PivotTableConfig

namespace RelationConfig

theorem ofDoc_toJson {r : RelationConfig} (hlink : IsLink r.link)
    (htable : ∀ table, r.viaTable = some table → IsLink table.link) (hr : r.IsCanonical)
    (room : Nat) : ofDoc (room + 3) r.toJson.doc = .ok r := by
  have hrecord : asRecord (room + 3) fields {} r.toJson.doc =
      .ok ⟨some r.model, some r.link, some r.via, some r.viaTable⟩ := by
    refine asRecord_object ?_
    refine (readFields_cons ⟨some r.model, none, none, none⟩ rfl rfl rfl _).trans ?_
    refine (readFields_cons ⟨some r.model, some r.link, none, none⟩ rfl rfl ?_ _).trans ?_
    · refine bind_ok_iff.2 ⟨r.link, ?_, rfl⟩
      exact PivotTableConfig.linkOfDoc_doc hlink hr.link (room + 1)
    refine (readFields_cons ⟨some r.model, some r.link, some r.via, none⟩ rfl rfl ?_ _).trans ?_
    · cases r.via <;> rfl
    refine (readFields_cons ⟨some r.model, some r.link, some r.via, some r.viaTable⟩ rfl rfl ?_
      _).trans rfl
    cases hviaTable : r.viaTable with
    | none => rfl
    | some table =>
      have htable := PivotTableConfig.ofDoc_toJson (htable table hviaTable)
        (hr.tableLink table hviaTable) room
      refine bind_ok_iff.2 ⟨some table, ?_, rfl⟩
      exact bind_ok_iff.2 ⟨table, htable, rfl⟩
  exact bind_ok_iff.2 ⟨_, hrecord, rfl⟩

end RelationConfig

namespace ModelConfig

theorem ofDoc_toJson {c : ModelConfig} {room : Nat} (hc : c.IsCanonical (room + 3))
    (hconditions : ∀ e ∈ c.conditions.entries, ∀ x ∈ e.2.doubles, (Number.real x).ReadsBack)
    (hrelations : ∀ e ∈ c.relations.entries, IsLink e.2.link ∧
      ∀ table, e.2.viaTable = some table → IsLink table.link) :
    ofDoc (room + 5) c.toJson.doc = .ok c := by
  have hrecord : asRecord (room + 5) fields {} c.toJson.doc =
      .ok ⟨some c.table, some c.primaryKey, some c.conditions, some c.relations⟩ := by
    refine asRecord_object ?_
    refine (readFields_cons ⟨some c.table, none, none, none⟩ rfl rfl rfl _).trans ?_
    refine (readFields_cons ⟨some c.table, some c.primaryKey, none, none⟩ rfl rfl rfl _).trans ?_
    refine (readFields_cons ⟨some c.table, some c.primaryKey, some c.conditions, none⟩ rfl rfl ?_
      _).trans ?_
    · refine bind_ok_iff.2 ⟨c.conditions, asDict_ofDict ?_, rfl⟩
      intro e he
      have hfits : Json.ofDoc? (room + 3) e.2.doc = some e.2 :=
        hc.conditions e he (hconditions e he)
      show asJson (room + 3) e.2.doc = .ok e.2
      unfold asJson
      rw [hfits]
    refine (readFields_cons ⟨some c.table, some c.primaryKey, some c.conditions,
      some c.relations⟩ rfl rfl ?_ _).trans rfl
    refine bind_ok_iff.2 ⟨c.relations, asDict_ofDict ?_, rfl⟩
    intro e he
    obtain ⟨hlink, htable⟩ := hrelations e he
    exact RelationConfig.ofDoc_toJson hlink htable (hc.relations e he) room
  exact bind_ok_iff.2 ⟨_, hrecord, rfl⟩

end ModelConfig

namespace Config

variable {config : Config} {room : Nat}

theorem Settings.ofDoc_toJson (h : config.maxDepth < Numeral.wordCount) :
    Settings.ofDoc (room + 1) (Json.object [("backend", .text config.dialect.label),
      ("max_expansion_depth", .number (.int config.maxDepth))]).doc =
        .ok (config.dialect, config.maxDepth) := by
  have hrecord : asRecord (room + 1) Settings.fields {} (Json.object
      [("backend", .text config.dialect.label),
        ("max_expansion_depth", .number (.int config.maxDepth))]).doc =
          .ok ⟨some config.dialect, some config.maxDepth⟩ := by
    refine asRecord_object ?_
    refine (readFields_cons ⟨some config.dialect, none⟩ rfl rfl ?_ _).trans ?_
    · exact bind_ok_iff.2 ⟨config.dialect, config.dialect.read_label, rfl⟩
    refine (readFields_cons ⟨some config.dialect, some config.maxDepth⟩ rfl rfl ?_ _).trans rfl
    exact bind_ok_iff.2 ⟨config.maxDepth, asNat_doc h, rfl⟩
  exact bind_ok_iff.2 ⟨_, hrecord, rfl⟩

/-- The doubles in the templates of a configuration. -/
def doubles (config : Config) : List Double :=
  config.models.entries.flatMap fun m => m.2.conditions.entries.flatMap fun e => e.2.doubles

/-- A canonical configuration without flaws is read back from the document written for it. -/
theorem ofDoc_toJson (hconfig : config.IsCanonical (room + 3)) (hcheck : config.check = .ok ())
    (hdoubles : ∀ x ∈ config.doubles, (Number.real x).ReadsBack) :
    ofDoc (room + 7) config.toJson.doc = .ok config := by
  have hpermits := check_ok_iff.1 hcheck
  have hrecord : asRecord (room + 7) fields {} config.toJson.doc =
      .ok ⟨some (config.dialect, config.maxDepth), some config.models⟩ := by
    refine asRecord_object ?_
    refine (readFields_cons ⟨some (config.dialect, config.maxDepth), none⟩ rfl rfl ?_ _).trans ?_
    · exact bind_ok_iff.2 ⟨_, Settings.ofDoc_toJson hconfig.maxDepth, rfl⟩
    refine (readFields_cons ⟨some (config.dialect, config.maxDepth), some config.models⟩ rfl rfl
      ?_ _).trans rfl
    refine bind_ok_iff.2 ⟨config.models, asDict_ofDict ?_, rfl⟩
    rintro ⟨name, c⟩ hc
    refine ModelConfig.ofDoc_toJson (hconfig.models _ hc) ?_ ?_
    · intro e he x hx
      refine hdoubles x (List.mem_flatMap.2 ⟨(name, c), hc, ?_⟩)
      exact List.mem_flatMap.2 ⟨e, he, hx⟩
    · rintro ⟨relation, r⟩ hr
      have hpermitted := hpermits name c ((Dict.get?_eq_some_iff _).2 hc) relation r
        ((Dict.get?_eq_some_iff _).2 hr)
      exact ⟨hpermitted.link, hpermitted.tableLink⟩
  exact bind_ok_iff.2 ⟨_, hrecord, rfl⟩

/-! ## Texts -/

theorem exists_ofDoc_of_decode {text : String} (h : decode text = .ok config) :
    ∃ d, ofDoc Json.maxNesting d = .ok config := by
  unfold decode at h
  split at h
  · cases h
  · next d rest whole _ =>
    obtain ⟨found, hfound, h⟩ := bind_ok_iff.1 h
    split at h
    · cases h
      exact ⟨d, hfound⟩
    · cases h

theorem decode_compact {v : Json} (h : ofDoc Json.maxNesting v.doc = .ok config) :
    decode v.compact = .ok config := by
  unfold decode
  rw [Json.compact, String.toList_ofList, Json.readAll_chars]
  exact bind_ok_iff.2 ⟨config, h, rfl⟩

/-- A configuration that loads is loaded again from its own text. The schema of both texts is the
same, so every relation and every condition is found alike. -/
theorem reload {κ : Type} {text : String} (h : Config.ofString text = .ok config)
    (hdoubles : ∀ x ∈ config.doubles, (Number.real x).ReadsBack) :
    Config.ofString config.toJson.compact = .ok config ∧
      ∃ s : Schema κ, Schema.ofLoaded (Config.ofString text) = .ok s ∧
        Schema.ofLoaded (Config.ofString config.toJson.compact) = .ok s := by
  obtain ⟨hdecode, hcheck⟩ := ofString_ok_iff.1 h
  obtain ⟨d, hd⟩ := exists_ofDoc_of_decode hdecode
  have hcanonical : config.IsCanonical (121 + 2) := isCanonical_of_ofDoc hd
  have hback : ofDoc (120 + 7) config.toJson.doc = .ok config :=
    ofDoc_toJson hcanonical hcheck hdoubles
  have hreload : Config.ofString config.toJson.compact = .ok config :=
    ofString_ok_iff.2 ⟨decode_compact hback, hcheck⟩
  obtain ⟨s, hs, -⟩ : ∃ s : Schema κ, Schema.ofConfig config = .ok s ∧ config.Describes s :=
    Schema.exists_ofConfig hcheck
  have hschema : Schema.ofLoaded (.ok config) = .ok s := by
    unfold Schema.ofLoaded
    simp [hs]
  exact ⟨hreload, s, by rw [h, hschema], by rw [hreload, hschema]⟩

end Config

namespace Samples

/-- Posts with an author, some of which cost more than one and a half. -/
def pricedText : String :=
  "\x7b\"models\":\x7b\"Post\":\x7b\"table\":\"posts\",\"conditions\":" ++
    "\x7b\"dear\":[\">\",\"posts.price\",1.5]\x7d,\"relations\":\x7b\"author\":" ++
    "\x7b\"model\":\"Post\",\"link\":\x7b\"id\":\"author_id\"\x7d\x7d\x7d\x7d\x7d\x7d"

/-- The double one and a half. -/
def threeHalves : Double := ⟨false, 3 * Nat.pow 2 51, 1022, by decide⟩

theorem readsBack_threeHalves : (Number.real threeHalves).ReadsBack :=
  Number.readsBack_iff.2 (by decide +kernel)

/-- A configuration with a double in a template is loaded again from its own text. -/
theorem reload_pricedText : ∃ config : Config, ∃ s : Schema Empty,
    Config.ofString pricedText = .ok config ∧ config.doubles = [threeHalves] ∧
      Config.ofString config.toJson.compact = .ok config ∧
      Schema.ofLoaded (Config.ofString pricedText) = .ok s ∧
      Schema.ofLoaded (Config.ofString config.toJson.compact) = .ok s := by
  have hload : (Config.ofString pricedText).toOption.map Config.doubles = some [threeHalves] := by
    decide +kernel
  cases hconfig : Config.ofString pricedText with
  | error fault =>
    rw [hconfig] at hload
    cases hload
  | ok config =>
    rw [hconfig] at hload
    have hdoubles : config.doubles = [threeHalves] := Option.some.inj hload
    have hback : ∀ x ∈ config.doubles, (Number.real x).ReadsBack := by
      rw [hdoubles]
      intro x hx
      rw [List.mem_singleton.1 hx]
      exact readsBack_threeHalves
    obtain ⟨hreload, s, hs, hs'⟩ := Config.reload (κ := Empty) hconfig hback
    rw [hconfig] at hs
    exact ⟨config, s, rfl, hdoubles, hreload, hs, hs'⟩

end Samples

end Criteria
