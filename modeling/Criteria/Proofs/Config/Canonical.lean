import Criteria.Proofs.Config.Record

/-!
# What a configuration that was read is like

Main statement: every configuration that is read from a document is canonical
(`Config.isCanonical_of_ofDoc`). The keys of its links are different, its numbers fit 64 bits, and
its templates are read back as far as their doubles are.
-/

namespace Criteria

open Json (Doc)
open Json.Doc

/-- The value is read back with the given room if each of its doubles is read back alone. -/
def Json.Recovers (room : Nat) (v : Json) : Prop :=
  (∀ x ∈ v.doubles, (Number.real x).ReadsBack) → v.Fits room

/-! ## Canonical configurations -/

structure RelationConfig.IsCanonical (r : RelationConfig) : Prop where
  link : DistinctKeys r.link
  tableLink : ∀ table, r.viaTable = some table → DistinctKeys table.link

structure ModelConfig.IsCanonical (room : Nat) (c : ModelConfig) : Prop where
  conditions : ∀ e ∈ c.conditions.entries, e.2.Recovers room
  relations : ∀ e ∈ c.relations.entries, e.2.IsCanonical

structure Config.IsCanonical (room : Nat) (config : Config) : Prop where
  maxDepth : config.maxDepth < Numeral.wordCount
  models : ∀ e ∈ config.models.entries, e.2.IsCanonical room

/-! ## What is read -/

theorem Json.Doc.needed_ok_iff {α : Type} {found : Option α} {value : α} :
    needed found = .ok value ↔ found = some value := by
  cases found <;> simp [needed]

/-- A part that was read, or the usual one, has a property. -/
theorem of_getD {α : Type} {P : α → Prop} {found : Option α} {usual : α}
    (h : ∀ value, found = some value → P value) (husual : P usual) : P (found.getD usual) := by
  cases found with
  | none => exact husual
  | some value => exact h value rfl

theorem Json.Doc.of_asOption {α : Type} {read : Doc → Except ReadFault α} {d : Doc} {value : α}
    (h : d.asOption read = .ok (some value)) : read d = .ok value := by
  unfold asOption at h
  split at h
  · cases h
  · obtain ⟨found, hfound, h⟩ := bind_ok_iff.1 h
    cases h
    exact hfound

theorem Json.Doc.lt_of_asNat {d : Doc} {n : Nat} (h : d.asNat = .ok n) :
    n < Numeral.wordCount := by
  unfold asNat at h
  split at h
  · split at h
    · next hvalue =>
      cases h
      have hbound := (Numeral.bounds_of_number? hvalue).2
      exact Int.ofNat_lt.1 hbound
    · cases h
    · cases h
  · cases h

namespace PivotTableConfig

variable {room : Nat} {d : Doc} {link : LinkFields}

theorem distinctKeys_of_linkOfDoc (h : linkOfDoc room d = .ok link) : DistinctKeys link := by
  obtain ⟨entries, -, h⟩ := bind_ok_iff.1 h
  cases h
  exact distinctKeys_putFields entries

theorem keeps_fields (room : Nat) :
    Keeps (fun s : Parts => ∀ link, s.link = some link → DistinctKeys link) (fields room) := by
  refine .cons ?_ (.cons ?_ .nil)
  · intro d table s hs _
    exact hs
  · intro d link s hs hlink found hfound
    cases hfound
    exact distinctKeys_of_linkOfDoc hlink

theorem distinctKeys_of_ofDoc {t : PivotTableConfig} (h : ofDoc (room + 1) d = .ok t) :
    DistinctKeys t.link := by
  obtain ⟨s, hs, h⟩ := bind_ok_iff.1 h
  obtain ⟨table, -, h⟩ := bind_ok_iff.1 h
  obtain ⟨link, hlink, h⟩ := bind_ok_iff.1 h
  cases h
  exact (keeps_fields room).of_asRecord (by simp) hs link (needed_ok_iff.1 hlink)

end PivotTableConfig

namespace RelationConfig

variable {room : Nat} {d : Doc}

/-- What the parts of a relation hold is canonical. -/
structure Parts.IsCanonical (s : Parts) : Prop where
  link : ∀ link, s.link = some link → DistinctKeys link
  tableLink : ∀ viaTable, s.viaTable = some viaTable →
    ∀ table, viaTable = some table → DistinctKeys table.link

theorem keeps_fields (room : Nat) : Keeps Parts.IsCanonical (fields (room + 1)) := by
  refine .cons ?_ (.cons ?_ (.cons ?_ (.cons ?_ .nil)))
  · intro d model s hs _
    exact ⟨hs.link, hs.tableLink⟩
  · intro d link s hs hlink
    refine ⟨?_, hs.tableLink⟩
    intro found hfound
    cases hfound
    exact PivotTableConfig.distinctKeys_of_linkOfDoc hlink
  · intro d via s hs _
    exact ⟨hs.link, hs.tableLink⟩
  · intro d table s hs htable
    refine ⟨hs.link, ?_⟩
    intro found hfound t ht
    cases hfound
    cases ht
    exact PivotTableConfig.distinctKeys_of_ofDoc (of_asOption htable)

theorem isCanonical_of_ofDoc {r : RelationConfig} (h : ofDoc (room + 2) d = .ok r) :
    r.IsCanonical := by
  obtain ⟨s, hs, h⟩ := bind_ok_iff.1 h
  obtain ⟨model, -, h⟩ := bind_ok_iff.1 h
  obtain ⟨link, hlink, h⟩ := bind_ok_iff.1 h
  cases h
  have hcanonical : s.IsCanonical :=
    (keeps_fields room).of_asRecord ⟨by simp, by simp⟩ hs
  have htable : ∀ table, s.viaTable.getD none = some table → DistinctKeys table.link :=
    of_getD (P := fun viaTable : Option PivotTableConfig =>
      ∀ table, viaTable = some table → DistinctKeys table.link) hcanonical.tableLink (by simp)
  exact ⟨hcanonical.link link (needed_ok_iff.1 hlink), htable⟩

end RelationConfig

namespace ModelConfig

variable {room : Nat} {d : Doc}

structure Parts.IsCanonical (room : Nat) (s : Parts) : Prop where
  conditions : ∀ conditions, s.conditions = some conditions →
    ∀ e ∈ conditions.entries, e.2.Recovers room
  relations : ∀ relations, s.relations = some relations →
    ∀ e ∈ relations.entries, e.2.IsCanonical

theorem recovers_of_asJson {v : Json} (h : asJson room d = .ok v) : v.Recovers room := by
  unfold asJson at h
  split at h
  · next value hvalue =>
    cases h
    exact Json.fits_of_ofDoc? d hvalue
  · cases h

theorem keeps_fields (room : Nat) : Keeps (Parts.IsCanonical (room + 2)) (fields (room + 3)) := by
  refine .cons ?_ (.cons ?_ (.cons ?_ (.cons ?_ .nil)))
  · intro d table s hs _
    exact ⟨hs.conditions, hs.relations⟩
  · intro d key s hs _
    exact ⟨hs.conditions, hs.relations⟩
  · intro d conditions s hs hconditions
    refine ⟨?_, hs.relations⟩
    intro found hfound e he
    cases hfound
    obtain ⟨d', hd'⟩ := exists_of_asDict hconditions he
    exact recovers_of_asJson hd'
  · intro d relations s hs hrelations
    refine ⟨hs.conditions, ?_⟩
    intro found hfound e he
    cases hfound
    obtain ⟨d', hd'⟩ := exists_of_asDict hrelations he
    exact RelationConfig.isCanonical_of_ofDoc hd'

theorem isCanonical_of_ofDoc {c : ModelConfig} (h : ofDoc (room + 4) d = .ok c) :
    c.IsCanonical (room + 2) := by
  obtain ⟨s, hs, h⟩ := bind_ok_iff.1 h
  obtain ⟨table, -, h⟩ := bind_ok_iff.1 h
  cases h
  have hcanonical : s.IsCanonical (room + 2) :=
    (keeps_fields room).of_asRecord ⟨by simp, by simp⟩ hs
  have hempty : ∀ {α : Type} {Q : String × α → Prop}, ∀ e ∈ (Dict.empty : Dict α).entries, Q e :=
    fun e he => by cases he
  constructor
  · exact of_getD (P := fun conditions : Dict Json =>
      ∀ e ∈ conditions.entries, e.2.Recovers (room + 2)) hcanonical.conditions hempty
  · exact of_getD (P := fun relations : Dict RelationConfig =>
      ∀ e ∈ relations.entries, e.2.IsCanonical) hcanonical.relations hempty

end ModelConfig

namespace Config

variable {room : Nat} {d : Doc}

theorem Settings.keeps_fields (room : Nat) :
    Keeps (fun s : Settings => ∀ depth, s.maxDepth = some depth → depth < Numeral.wordCount)
      (Settings.fields room) := by
  refine .cons ?_ (.cons ?_ .nil)
  · intro d dialect s hs _
    exact hs
  · intro d depth s hs hdepth found hfound
    cases hfound
    exact lt_of_asNat hdepth

theorem Settings.maxDepth_lt_of_ofDoc {settings : Sql.Dialect × Nat}
    (h : Settings.ofDoc (room + 1) d = .ok settings) : settings.2 < Numeral.wordCount := by
  obtain ⟨s, hs, h⟩ := bind_ok_iff.1 h
  cases h
  have hdepth := (Settings.keeps_fields room).of_asRecord (by simp) hs
  exact of_getD (P := fun depth => depth < Numeral.wordCount) hdepth (by decide)

structure Parts.IsCanonical (room : Nat) (s : Parts) : Prop where
  maxDepth : ∀ settings, s.settings = some settings → settings.2 < Numeral.wordCount
  models : ∀ models, s.models = some models → ∀ e ∈ models.entries, e.2.IsCanonical room

theorem keeps_fields (room : Nat) : Keeps (Parts.IsCanonical (room + 2)) (fields (room + 5)) := by
  refine .cons ?_ (.cons ?_ .nil)
  · intro d settings s hs hsettings
    refine ⟨?_, hs.models⟩
    intro found hfound
    cases hfound
    exact Settings.maxDepth_lt_of_ofDoc hsettings
  · intro d models s hs hmodels
    refine ⟨hs.maxDepth, ?_⟩
    intro found hfound e he
    cases hfound
    obtain ⟨d', hd'⟩ := exists_of_asDict hmodels he
    exact ModelConfig.isCanonical_of_ofDoc hd'

/-- Every configuration that is read is canonical. -/
theorem isCanonical_of_ofDoc {config : Config} (h : ofDoc (room + 6) d = .ok config) :
    config.IsCanonical (room + 2) := by
  obtain ⟨s, hs, h⟩ := bind_ok_iff.1 h
  obtain ⟨models, hmodels, h⟩ := bind_ok_iff.1 h
  cases h
  have hcanonical : s.IsCanonical (room + 2) :=
    (keeps_fields room).of_asRecord ⟨by simp, by simp⟩ hs
  refine ⟨?_, hcanonical.models models (needed_ok_iff.1 hmodels)⟩
  exact of_getD (P := fun settings : Sql.Dialect × Nat => settings.2 < Numeral.wordCount)
    hcanonical.maxDepth (by decide)

end Config

end Criteria
