import Criteria.Proofs.Query
import Criteria.Samples

/-!
# Raising the limit

What an operation comes to under two limits. The levels under the lower limit are the topmost ones
of those under the higher limit, so that the two runs go side by side until the lower one is at its
last level. Main statement: an operation meets the lower limit, or it comes to the same under both
(`Query.cutOff_withLimit`).
-/

namespace Criteria

/-! ## Runs that are cut off -/

namespace Traced

variable {α β γ δ : Type} {limit : Nat} {view : α → β} {view' : γ → δ}

/-- The first computation meets the limit, or the second one has the same outcome looked at in some
way. -/
def CutOff (limit : Nat) (view : α → β) (x : Traced α) (y : Traced β) : Prop :=
  x.MeetsLimit limit ∨ y.outcome = view <$> x.outcome

namespace CutOff

theorem refl (x : Traced α) : CutOff limit id x x := by
  refine .inr ?_
  rw [id_map]

theorem pure (a : α) : CutOff limit view (pure a) (pure (view a)) := .inr rfl

/-- A computation that has met the limit has met it, whatever was to follow. -/
theorem bind {x : Traced α} {y : Traced β} {f : α → Traced γ} {g : β → Traced δ}
    (h : CutOff limit view x y)
    (hf : ∀ a, x.outcome = .ok a → CutOff limit view' (f a) (g (view a))) :
    CutOff limit view' (x >>= f) (y >>= g) := by
  rcases h with ⟨name, h⟩ | h
  · exact .inl ⟨name, bind_error_iff.2 (.inl h)⟩
  · cases hx : x.outcome with
    | error fault =>
      rw [hx] at h
      refine .inr ?_
      rw [outcome_bind, outcome_bind, hx, h]
      rfl
    | ok a =>
      rw [hx] at h
      rcases hf a hx with ⟨name, hname⟩ | hnext
      · exact .inl ⟨name, bind_error_iff.2 (.inr ⟨a, hx, hname⟩)⟩
      · refine .inr ?_
        rw [outcome_bind, outcome_bind, hx, h]
        exact hnext

theorem map {x y : Traced α} (h : CutOff limit id x y) (f : α → γ) :
    CutOff limit id (f <$> x) (f <$> y) := by
  rw [← bind_pure_comp, ← bind_pure_comp]
  exact h.bind fun a _ => refl _

theorem ofExcept {x : Except Fault α} {y : Except Fault β} (h : y = view <$> x) :
    CutOff limit view (ofExcept x) (ofExcept y) := .inr h

theorem note (event event' : Event) : CutOff limit id (note event) (note event') := .inr rfl

theorem bind_left {x : Traced α} {f : α → Traced γ} {g : α → Traced δ}
    (hf : ∀ a, x.outcome = .ok a → CutOff limit view' (f a) (g a)) :
    CutOff limit view' (x >>= f) (x >>= g) := bind (refl x) hf

end CutOff

end Traced

namespace Draft

variable {limit : Nat} {find find' : String → Traced (Option Condition)}

mutual

theorem cutOff_resolve (h : ∀ token, Traced.CutOff limit id (find token) (find' token)) :
    ∀ d : Draft, Traced.CutOff limit id (d.resolve find) (d.resolve find')
  | name token => by
    rw [resolve, resolve]
    refine (h token).bind fun found _ => ?_
    exact .refl _
  | literal _ | map _ | query _ => by
    rw [resolve, resolve]
    exact .refl _
  | list items => by
    rw [resolve, resolve]
    refine (cutOff_resolveItems h items).bind fun cs _ => ?_
    exact .refl _

theorem cutOff_resolveItems (h : ∀ token, Traced.CutOff limit id (find token) (find' token)) :
    ∀ items : List Draft,
      Traced.CutOff limit id (resolveItems find items) (resolveItems find' items)
  | [] => .refl _
  | d :: rest => by
    rw [resolveItems, resolveItems]
    refine (cutOff_resolve h d).bind fun c _ => ?_
    refine (cutOff_resolveItems h rest).bind fun cs _ => ?_
    exact .refl _

end

end Draft

/-! ## Queries under another limit -/

/-- The schema with another limit. -/
def Schema.withLimit {κ : Type} (s : Schema κ) (limit : Nat) : Schema κ :=
  { s with maxDepth := limit }

/-- The query over the schema with another limit. -/
def Query.withLimit {κ : Type} (limit : Nat) (q : Query κ) : Query κ :=
  { q with schema := q.schema.withLimit limit }

def Metadata.withLimit {κ : Type} (limit : Nat) (m : Metadata κ) : Metadata κ :=
  ⟨m.target.withLimit limit, m.links, m.pivot.map fun p => ⟨p.query.withLimit limit, p.links⟩⟩

def Correlation.withLimit {κ : Type} (limit : Nat) : Correlation κ → Correlation κ
  | direct own foreign => direct own foreign
  | compound own pivotForeign remoteOwn remoteForeign pivot =>
    compound own pivotForeign remoteOwn remoteForeign (pivot.withLimit limit)

def Binding.withLimit {κ : Type} (limit : Nat) (b : Binding κ) : Binding κ :=
  ⟨b.target.withLimit limit, b.correlation.withLimit limit⟩

section Commute

variable {κ : Type} (limit : Nat)

theorem Query.withLimit_merge (q : Query κ) (c : Condition) (connective : Connective) :
    (q.withLimit limit).merge c connective = withLimit limit <$> q.merge c connective := by
  unfold merge
  cases c.compile with
  | error cause => rfl
  | ok e => cases e <;> rfl

theorem Query.withLimit_finish (q : Query κ) (c : Condition) (options : Options) :
    (q.withLimit limit).finish c options =
      Outcome.map (withLimit limit) <$> q.finish c options := by
  unfold finish
  dsimp only
  generalize (if options.negate = true then c.negated else c) = c'
  simp only [map_bind]
  refine bind_congr fun _ => ?_
  split
  · rfl
  · split
    · rfl
    · rw [withLimit_merge]
      cases q.merge c' options.connective <;> rfl

theorem Schema.withLimit_query (s : Schema κ) (model : String) :
    (s.withLimit limit).query model = Query.withLimit limit <$> s.query model := by
  unfold query withLimit
  dsimp only
  cases s.models.get? model <;> rfl

theorem Query.withLimit_pivotQuery (q : Query κ) (name : String) (pivot : Pivot) :
    (q.withLimit limit).pivotQuery name pivot =
      (fun p => ⟨p.query.withLimit limit, p.links⟩) <$> q.pivotQuery name pivot := by
  cases pivot with
  | table table links => rfl
  | relation via =>
    unfold pivotQuery
    have hmodel : (q.withLimit limit).model = q.model := rfl
    have hschema : (q.withLimit limit).schema = q.schema.withLimit limit := rfl
    rw [hmodel, hschema]
    dsimp only
    cases q.model.relations.get? via with
    | none => rfl
    | some r =>
      simp only [Schema.withLimit_query]
      cases q.schema.query r.model <;> rfl

theorem Query.withLimit_relation? (q : Query κ) (name : String) :
    (q.withLimit limit).relation? name =
      Option.map (Metadata.withLimit limit) <$> q.relation? name := by
  unfold relation?
  have hmodel : (q.withLimit limit).model = q.model := rfl
  have hschema : (q.withLimit limit).schema = q.schema.withLimit limit := rfl
  rw [hmodel, hschema]
  cases q.model.relations.get? name with
  | none => rfl
  | some r =>
    simp only [Schema.withLimit_query, bind_map_left, map_bind]
    refine bind_congr fun target => ?_
    cases r.pivot with
    | none => rfl
    | some pivot =>
      simp only [withLimit_pivotQuery, bind_map_left, map_bind]
      refine bind_congr fun pivot => ?_
      rfl

theorem Binding.withLimit_prepare (parent : Query κ) (name : String) (relation : Metadata κ) :
    prepare (parent.withLimit limit) name (relation.withLimit limit) =
      withLimit limit <$> prepare parent name relation := by
  obtain ⟨target, links, pivot⟩ := relation
  unfold prepare
  cases pivot with
  | none =>
    simp only [Metadata.withLimit, Option.map_none, map_bind]
    refine bind_congr fun link => ?_
    rfl
  | some pivot =>
    simp only [Metadata.withLimit, Option.map_some, map_bind]
    refine bind_congr fun remote => ?_
    refine bind_congr fun link => ?_
    rfl

theorem Binding.withLimit_condition (b : Binding κ) (target : Query κ) :
    ({ b.withLimit limit with target := target.withLimit limit } : Binding κ).condition =
      ({ b with target := target } : Binding κ).condition := by
  obtain ⟨_, correlation⟩ := b
  unfold condition
  cases correlation with
  | direct own foreign => rfl
  | compound own pivotForeign remoteOwn remoteForeign pivot =>
    have hselect : ∀ column, (target.withLimit limit).selectColumn column =
      target.selectColumn column := fun _ => rfl
    simp only [withLimit, Correlation.withLimit, hselect, Query.withLimit_merge]
    generalize pivot.merge _ .and = merged
    cases merged <;> rfl

end Commute

/-! ## The queries of a run -/

namespace Query

variable {κ : Type}

/-- A query over the same schema, of the same model or of one that the schema has. -/
structure IsKin (q q₀ : Query κ) : Prop where
  schema : q₀.schema = q.schema
  model : q₀.model = q.model ∨ ∃ name, q.schema.models.get? name = some q₀.model

/-- The code of the conditions of all models makes the same draft under the other limit. -/
def CodeIgnoresLimit [Computed κ] (q : Query κ) (limit : Nat) : Prop :=
  ∀ q₀, q.IsKin q₀ → ∀ name code args,
    q₀.model.conditions.get? name = some (.computed code) →
      Computed.draft code (q₀.withLimit limit) args = Computed.draft code q₀ args

variable {q q₀ : Query κ}

theorem IsKin.refl (q : Query κ) : q.IsKin q := ⟨rfl, .inl rfl⟩

theorem IsKin.withFilter (h : q.IsKin q₀) (filter : Option Sql.Expr) :
    q.IsKin (q₀.withFilter filter) := ⟨h.schema, h.model⟩

theorem IsKin.of_merge {c : Condition} {connective : Connective} {q₁ : Query κ}
    (h : q.IsKin q₀) (hmerge : q₀.merge c connective = .ok q₁) : q.IsKin q₁ := by
  obtain ⟨filter, rfl⟩ := exists_withFilter_of_merge hmerge
  exact h.withFilter filter

theorem IsKin.of_relation? {name : String} {metadata : Metadata κ} (h : q.IsKin q₀)
    (hrelation : q₀.relation? name = .ok (some metadata)) : q.IsKin metadata.target := by
  obtain ⟨name, m, hm, htarget⟩ := exists_model_of_relation? hrelation
  rw [htarget, h.schema]
  rw [h.schema] at hm
  exact ⟨rfl, .inr ⟨name, hm⟩⟩

variable [Computed κ]

theorem CodeIgnoresLimit.definition {limit : Nat} (hcode : q.CodeIgnoresLimit limit)
    (hq : q.IsKin q₀) (name : String) (args : List Json) :
    (q₀.withLimit limit).definition name args (q₀.withLimit limit).token =
      q₀.definition name args q₀.token := by
  have hmodel : (q₀.withLimit limit).model = q₀.model := rfl
  unfold Query.definition Query.token
  rw [hmodel]
  cases hget : q₀.model.conditions.get? name with
  | none => rfl
  | some definition =>
    cases definition with
    | template draft => rfl
    | computed code =>
      have hdraft := hcode q₀ hq name code args hget
      simp only [if_true]
      exact hdraft

end Query

theorem Outcome.draft_map {κ : Type} (f : Query κ → Query κ) (token : String)
    (outcome : Outcome κ) : (outcome.map f).draft token = outcome.draft token := by
  cases outcome <;> rfl

/-! ## Levels side by side -/

namespace Level

variable {κ : Type}

/-- The operations of one level meet the limit of the query, or come to what those of the other
level do under the other limit. -/
structure CutOff (q : Query κ) (limit : Nat) (level level' : Level κ) : Prop where
  expand {q₀ : Query κ} (hq : q.IsKin q₀) (d : Draft) :
    Traced.CutOff q.schema.maxDepth id (level.expand q₀ d) (level'.expand (q₀.withLimit limit) d)
  direct {q₀ : Query κ} (hq : q.IsKin q₀) (name : String) (args : List Json) :
    Traced.CutOff q.schema.maxDepth id (level.direct q₀ name args)
      (level'.direct (q₀.withLimit limit) name args)
  call {q₀ : Query κ} (hq : q.IsKin q₀) (method : String) (args : List Json) :
    Traced.CutOff q.schema.maxDepth (Outcome.map (Query.withLimit limit))
      (level.call q₀ method args) (level'.call (q₀.withLimit limit) method args)

section Above

variable {α β : Type} {q q₀ : Query κ} {limit : Nat} {below below' : Unit → Option (Level κ)}
  (hbelow : ∀ level, below () = some level →
    ∃ level', below' () = some level' ∧ CutOff q limit level level')
  (hq : q.IsKin q₀)

include hbelow hq in
theorem cutOff_descend_bind {view : α → β} (q₁ : Query κ) (name : String)
    {f : Level κ → Traced α} {g : Level κ → Traced β}
    (hf : ∀ level level', CutOff q limit level level' →
      Traced.CutOff q.schema.maxDepth view (f level) (g level')) :
    Traced.CutOff q.schema.maxDepth view (descend below q₀ name >>= f)
      (descend below' q₁ name >>= g) := by
  cases hb : below () with
  | none =>
    -- only here do the runs part: the lower one ends, whatever the other one goes on to do
    refine .inl ⟨name, ?_⟩
    rw [descend_of_none hb, hq.schema]
    rfl
  | some level =>
    obtain ⟨level', hb', hlevel⟩ := hbelow level hb
    rw [descend_of_some hb, descend_of_some hb', pure_bind, pure_bind]
    exact hf level level' hlevel

include hbelow in
theorem cutOff_applyNames (args : List Json) :
    ∀ (names : List String) (q₀ : Query κ), q.IsKin q₀ →
      Traced.CutOff q.schema.maxDepth (Query.withLimit limit) (applyNames below args names q₀)
        (applyNames below' args names (q₀.withLimit limit)) := by
  intro names
  induction names with
  | nil =>
    intro q₀ _
    exact .pure q₀
  | cons name rest ih =>
    intro q₀ hq
    rw [applyNames, applyNames]
    refine cutOff_descend_bind hbelow hq _ _ fun level level' hlevel => ?_
    refine (hlevel.direct hq name args).bind fun found _ => ?_
    cases found with
    | none => exact ih q₀ hq
    | some c =>
      refine (Traced.CutOff.ofExcept (q₀.withLimit_merge limit c .and)).bind
        fun merged hmerged => ?_
      exact ih merged (hq.of_merge hmerged)

include hbelow hq in
theorem cutOff_applyResidual (relation : String) (words : List Word) (args : List Json) :
    Traced.CutOff q.schema.maxDepth (Option.map (Query.withLimit limit))
      (applyResidual below q₀ relation words args)
      (applyResidual below' (q₀.withLimit limit) relation words args) := by
  have hdefines : (q₀.withLimit limit).defines = q₀.defines := rfl
  unfold applyResidual
  split
  · cases args with
    | nil => exact .pure (some q₀)
    | cons first rest =>
      have hmerge : Traced.CutOff q.schema.maxDepth (Option.map (Query.withLimit limit))
          (do
            let level ← descend below q₀ relation
            let c ← level.expand q₀ (.ofJson first)
            let merged ← Traced.ofExcept (q₀.merge c .and)
            return some merged)
          (do
            let level ← descend below' (q₀.withLimit limit) relation
            let c ← level.expand (q₀.withLimit limit) (.ofJson first)
            let merged ← Traced.ofExcept ((q₀.withLimit limit).merge c .and)
            return some merged) := by
        refine cutOff_descend_bind hbelow hq _ _ fun level level' hlevel => ?_
        refine (hlevel.expand hq _).bind fun c _ => ?_
        refine (Traced.CutOff.ofExcept (q₀.withLimit_merge limit c .and)).bind fun merged _ => ?_
        exact .pure (some merged)
      cases rest with
      | nil => exact hmerge
      | cons second rest => exact .bind_left fun _ _ => hmerge
  · rw [hdefines]
    dsimp only
    cases (Grouping.ofWords q₀.defines words).rest with
    | nil =>
      refine (cutOff_applyNames hbelow args _ q₀ hq).bind fun target _ => ?_
      exact .pure (some target)
    | cons first rest =>
      refine .bind_left fun _ _ => .bind_left fun _ _ => ?_
      exact .pure none

include hbelow hq in
theorem cutOff_related (base : String) (args : List Json) :
    Traced.CutOff q.schema.maxDepth id (related below q₀ base args)
      (related below' (q₀.withLimit limit) base args) := by
  have hrelation : (q₀.withLimit limit).hasRelation = q₀.hasRelation := rfl
  unfold related
  rw [hrelation]
  dsimp only
  cases (RelationSplit.ofBase q₀.hasRelation base).relation with
  | none => exact .refl _
  | some relation =>
    dsimp only
    refine (Traced.CutOff.ofExcept (q₀.withLimit_relation? limit relation)).bind
      fun metadata? hmetadata => ?_
    cases metadata? with
    | none => exact .refl _
    | some metadata =>
      refine .bind_left fun _ _ => ?_
      have hprepare : Traced.CutOff q.schema.maxDepth (Binding.withLimit limit)
          (Binding.prepare q₀ relation metadata)
          (Binding.prepare (q₀.withLimit limit) relation (metadata.withLimit limit)) := by
        rw [Binding.withLimit_prepare]
        exact .inr (Traced.outcome_map _ _)
      refine hprepare.bind fun binding hbinding => ?_
      have htarget : q.IsKin binding.target := by
        obtain ⟨filter, hfilter⟩ := Binding.exists_withFilter_of_prepare hbinding
        rw [hfilter]
        exact (hq.of_relation? hmetadata).withFilter filter
      refine (cutOff_applyResidual hbelow htarget relation _ args).bind fun target? _ => ?_
      cases target? with
      | none => exact .refl _
      | some target =>
        have hcondition := binding.withLimit_condition limit target
        dsimp only [Option.map_some]
        rw [hcondition]
        exact .refl _

variable [Computed κ] (hcode : q.CodeIgnoresLimit limit)

include hq hcode in
theorem cutOff_referent {level level' : Level κ} (hlevel : CutOff q limit level level')
    (token : String) (reference : Reference) :
    Traced.CutOff q.schema.maxDepth id (level.referent q₀ token reference)
      (level'.referent (q₀.withLimit limit) token reference) := by
  have hdefines : (q₀.withLimit limit).defines reference.name = q₀.defines reference.name := rfl
  unfold referent
  rw [hdefines]
  split
  · rw [hcode.definition hq]
    exact (Traced.CutOff.note _ _).bind fun _ _ => .refl _
  · refine (Traced.CutOff.note _ _).bind fun _ _ => ?_
    refine (hlevel.call hq _ _).bind fun outcome _ => ?_
    rw [Outcome.draft_map]
    exact .refl _

include hbelow hq hcode

theorem cutOff_find (token : String) :
    Traced.CutOff q.schema.maxDepth id (find below q₀ token)
      (find below' (q₀.withLimit limit) token) := by
  have hsame : (q₀.withLimit limit).refers token = q₀.refers token := rfl
  cases hrefers : q₀.refers token with
  | false =>
    rw [find_of_not_refers hrefers, find_of_not_refers (hsame.trans hrefers)]
    exact .refl _
  | true =>
    obtain ⟨reference, hparse, href⟩ := Query.refers_eq_true_iff.1 hrefers
    rw [find_of_refers hparse href, find_of_refers (q := q₀.withLimit limit) hparse href]
    refine cutOff_descend_bind hbelow hq _ _ fun level level' hlevel => ?_
    refine (cutOff_referent hq hcode hlevel token reference).bind fun draft _ => ?_
    exact (hlevel.expand hq draft).map some

theorem cutOff_defined (name : String) (args : List Json) :
    Traced.CutOff q.schema.maxDepth id (defined below q₀ name args)
      (defined below' (q₀.withLimit limit) name args) := by
  have hdefines : (q₀.withLimit limit).defines name = q₀.defines name := rfl
  unfold defined
  rw [hdefines]
  split
  · rw [hcode.definition hq]
    refine .bind_left fun draft _ => ?_
    refine cutOff_descend_bind hbelow hq _ _ fun level level' hlevel => ?_
    refine (hlevel.expand hq draft).bind fun c _ => ?_
    exact .refl _
  · exact .refl _

theorem cutOff_dispatch (method : String) (args : List Json) :
    Traced.CutOff q.schema.maxDepth (Outcome.map (Query.withLimit limit))
      (dispatch below q₀ method args) (dispatch below' (q₀.withLimit limit) method args) := by
  unfold dispatch
  cases Call.parse? method with
  | none =>
    refine .bind_left fun _ _ => ?_
    exact .pure Outcome.notApplicable
  | some call =>
    refine .bind_left fun _ _ => ?_
    cases Admission.ofGate call.gate args with
    | declined gate significance =>
      refine .bind_left fun _ _ => ?_
      exact .pure (Outcome.query q₀)
    | admitted flip rest =>
      have hbase : Traced.CutOff q.schema.maxDepth id (baseCondition below q₀ call rest)
          (baseCondition below' (q₀.withLimit limit) call rest) := by
        unfold baseCondition
        split
        · exact cutOff_related hbelow hq _ rest
        · exact cutOff_defined hbelow hq hcode _ rest
      refine hbase.bind fun found _ => ?_
      cases found with
      | none =>
        refine .bind_left fun _ _ => ?_
        exact .pure Outcome.notApplicable
      | some c =>
        dsimp only [id_eq]
        rw [Query.withLimit_finish]
        exact .inr (Traced.outcome_map _ _)

end Above

variable [Computed κ]

theorem cutOff_above {q : Query κ} {limit depth depth' : Nat}
    {below below' : Unit → Option (Level κ)} (hcode : q.CodeIgnoresLimit limit)
    (hbelow : ∀ level, below () = some level →
      ∃ level', below' () = some level' ∧ CutOff q limit level level') :
    CutOff q limit (above below depth) (above below' depth') where
  expand hq := Draft.cutOff_resolve fun token => cutOff_find hbelow hq hcode token
  direct hq := cutOff_defined hbelow hq hcode
  call hq := cutOff_dispatch hbelow hq hcode

/-- As many levels more do no harm. -/
theorem cutOff_ofRoom {q : Query κ} {limit : Nat} (hcode : q.CodeIgnoresLimit limit)
    (high high' room more : Nat) :
    CutOff q limit (ofRoom high room) (ofRoom high' (room + more)) := by
  induction room with
  | zero =>
    -- the last level of the lower run need not be the last one of the other
    rw [ofRoom_eq_above high 0, ofRoom_eq_above]
    refine cutOff_above hcode fun level h => ?_
    cases h
  | succ room ih =>
    have hroom : room + 1 + more = (room + more) + 1 := by omega
    rw [hroom, ofRoom_eq_above high, ofRoom_eq_above high']
    refine cutOff_above hcode fun level h => ?_
    cases h
    exact ⟨_, rfl, ih⟩

end Level

/-- The limit only cuts off: under a lower limit an operation meets that limit, or it comes to what
it comes to under the higher one. -/
theorem Query.cutOff_withLimit {κ : Type} [Computed κ] (q : Query κ) {limit : Nat}
    (hle : q.schema.maxDepth ≤ limit) (hcode : q.CodeIgnoresLimit limit) :
    (∀ d, Traced.CutOff q.schema.maxDepth id (q.expand d) ((q.withLimit limit).expand d)) ∧
    (∀ method args, Traced.CutOff q.schema.maxDepth (Outcome.map (withLimit limit))
      (q.call method args) ((q.withLimit limit).call method args)) ∧
    (∀ d options, Traced.CutOff q.schema.maxDepth (Outcome.map (withLimit limit))
      (q.filterWith d options) ((q.withLimit limit).filterWith d options)) ∧
    (∀ d connective, Traced.CutOff q.schema.maxDepth (withLimit limit)
      (q.mergeDraft d connective) ((q.withLimit limit).mergeDraft d connective)) := by
  have hlevel : Level.CutOff q limit q.level (q.withLimit limit).level := by
    obtain ⟨more, rfl⟩ := Nat.exists_eq_add_of_le hle
    exact Level.cutOff_ofRoom hcode q.schema.maxDepth (q.schema.maxDepth + more)
      q.schema.maxDepth more
  have hexpand := hlevel.expand (IsKin.refl q)
  refine ⟨hexpand, hlevel.call (IsKin.refl q), fun d options => ?_, fun d connective => ?_⟩
  · refine (hexpand d).bind fun c _ => ?_
    dsimp only [id_eq]
    rw [withLimit_finish]
    exact .inr (Traced.outcome_map _ _)
  · refine (hexpand d).bind fun c _ => ?_
    exact .ofExcept (q.withLimit_merge limit c connective)

namespace Samples

theorem codeIgnoresLimit_orders (low high : Nat) : (orders low).CodeIgnoresLimit high := by
  intro _ _ _ code _ _
  cases code
  rfl

/-- A price of a product takes two levels: under any higher limit the call comes to the same. -/
theorem call_orders_withLimit :
    ((orders 1).call "withProductsCheaperThanCondition" [int 5]).MeetsLimit 1 ∧
    ((orders 2).call "withProductsCheaperThanCondition" [int 5]).outcome.isOk = true ∧
    (((orders 2).withLimit 100).call "withProductsCheaperThanCondition" [int 5]).outcome =
      Outcome.map (Query.withLimit 100) <$>
        ((orders 2).call "withProductsCheaperThanCondition" [int 5]).outcome := by
  have hok : ((orders 2).call "withProductsCheaperThanCondition" [int 5]).outcome.isOk = true := by
    decide +kernel
  have hle : (orders 2).schema.maxDepth ≤ 100 := by decide
  obtain ⟨-, hcall, -, -⟩ := Query.cutOff_withLimit (orders 2) hle (codeIgnoresLimit_orders 2 100)
  refine ⟨⟨"cheaperThan", rfl⟩, hok, ?_⟩
  rcases hcall "withProductsCheaperThanCondition" [int 5] with ⟨name, hname⟩ | h
  · rw [hname] at hok
    cases hok
  · exact h

end Samples

end Criteria
