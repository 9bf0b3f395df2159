import Criteria.Proofs.Expansion.Reach
import Criteria.Proofs.Schema.Template
import Criteria.Samples

/-!
# Texts as arguments

What the arguments of a call can do to the filter that it makes, if they are texts and the
definitions of the conditions that the call names are safe templates: they are bound in the SQL as
they are, and that is all. Main statement: two calls of one method with as many texts report the
same look-ups, and both fail or give the same outcome up to the contents of bound texts
(`Query.alike_call_texts`).
-/

namespace Criteria

/-! ## Queries without the texts bound in them -/

namespace Query

variable {κ : Type} {q q' : Query κ}

/-- The query without the contents of the texts bound in its filter. -/
def hide (q : Query κ) : Query κ := q.withFilter (Sql.hideFilter q.filter)

/-- Queries that differ in bound texts alone differ in their filters alone. -/
theorem exists_withFilter_of_hide (h : q.hide = q'.hide) : ∃ filter, q' = q.withFilter filter := by
  refine ⟨q'.filter, ?_⟩
  obtain ⟨schema, model, filter⟩ := q
  obtain ⟨schema', model', filter'⟩ := q'
  simp only [hide, withFilter, mk.injEq] at h
  obtain ⟨rfl, rfl, -⟩ := h
  rfl

theorem hide_addFilter (e : Sql.Expr) (connective : Connective) :
    (q.addFilter e connective).hide = q.hide.addFilter e.hide connective := by
  unfold addFilter
  cases hfilter : q.filter with
  | none => simp [hide, withFilter, hfilter, Sql.hideFilter]
  | some current =>
    cases connective <;> simp [hide, withFilter, hfilter, Sql.hideFilter, Sql.Expr.hide]

theorem hide_restrict (fragment : String) :
    (q.restrict fragment).hide = q.hide.restrict fragment := by
  unfold restrict
  rw [hide_addFilter, Sql.Expr.hide]

theorem hide_selectColumn (column : String) :
    (q.selectColumn column).hide = q.hide.selectColumn column := by
  simp only [selectColumn, Sql.Select.hide, hide, withFilter]

/-- Conditions that differ in data texts alone are merged alike. -/
theorem alike_merge {c c' : Condition} (connective : Connective) (hq : q.hide = q'.hide)
    (hc : c.hide = c'.hide) :
    Alike (SameUnder hide) (q.merge c connective) (q'.merge c' connective) := by
  have hcompile := Condition.compile_congr_hide hc
  unfold merge
  generalize c.compile = compiled at hcompile
  generalize c'.compile = compiled' at hcompile
  cases hcompile with
  | error cause cause' => exact .error _ _
  | ok hcompiled =>
    rcases hcompiled.cases_map with ⟨rfl, rfl⟩ | ⟨e, e', rfl, rfl, he⟩
    · exact .ok hq
    · refine .ok ?_
      rw [SameUnder, hide_addFilter, hide_addFilter, hq, he]

end Query

/-- The outcome without the contents of the texts that are, or will be, bound in the SQL. -/
def Outcome.hide {κ : Type} : Outcome κ → Outcome κ
  | query q => query q.hide
  | condition c => condition c.hide
  | notApplicable => notApplicable

namespace Query

variable {κ : Type} {q q' : Query κ}

/-- The same is done with conditions that differ in data texts alone. -/
theorem alike_finish {c c' : Condition} (options : Options) (hq : q.hide = q'.hide)
    (hc : c.hide = c'.hide) :
    Traced.Alike (SameUnder Outcome.hide) (q.finish c options) (q'.finish c' options) := by
  have hnegated : (if options.negate then c.negated else c).hide =
      (if options.negate then c'.negated else c').hide := by
    split
    · rw [Condition.hide_negated, Condition.hide_negated, hc]
    · exact hc
  unfold finish
  dsimp only
  generalize (if options.negate = true then c.negated else c) = found at hnegated
  generalize (if options.negate = true then c'.negated else c') = found' at hnegated
  refine .bind_right fun _ _ => ?_
  have hempty : found.isEmpty = found'.isEmpty := by
    rw [← Condition.isEmpty_hide found, hnegated, Condition.isEmpty_hide]
  rw [hempty]
  split
  · exact .pure (by rw [SameUnder, Outcome.hide, Outcome.hide, hnegated])
  · split
    · exact .pure (by rw [SameUnder, Outcome.hide, Outcome.hide, hq])
    · refine .bind (.ofExcept (alike_merge options.connective hq hnegated)) fun r r' hr => ?_
      exact .pure (by rw [SameUnder, Outcome.hide, Outcome.hide, hr])

end Query

namespace Binding

variable {κ : Type}

/-- Bindings to related queries that differ in bound texts alone make conditions that do. -/
theorem alike_condition (b : Binding κ) {target target' : Query κ}
    (h : target.hide = target'.hide) :
    Alike (SameUnder Condition.hide) { b with target := target }.condition
      { b with target := target' }.condition := by
  have hselect : ∀ column, (target.selectColumn column).hide = (target'.selectColumn column).hide :=
    fun column => by rw [Query.hide_selectColumn, h, Query.hide_selectColumn]
  unfold condition
  cases b.correlation with
  | direct own foreign =>
    refine .ok ?_
    simp only [SameUnder, Condition.hide, Condition.blankEntries, Condition.blank, hselect]
  | compound own pivotForeign remoteOwn remoteForeign pivot =>
    have hinner : (Condition.map [(remoteOwn, .query (target.selectColumn remoteForeign))]).hide =
        (Condition.map [(remoteOwn, .query (target'.selectColumn remoteForeign))]).hide := by
      simp only [Condition.hide, Condition.blankEntries, Condition.blank, hselect]
    refine (Query.alike_merge .and rfl hinner).bind fun r r' hr => .ok ?_
    simp only [SameUnder, Condition.hide, Condition.blankEntries, Condition.blank,
      Query.hide_selectColumn, Query.hide_restrict]
    rw [hr]

end Binding

/-! ## Conditions declared by safe templates -/

namespace Query

variable {κ : Type} [Computed κ] {q q' : Query κ}

/-- The query declares the condition by a safe template. -/
def DeclaresSafe (q : Query κ) (name : String) (template : Json) : Prop :=
  q.model.conditions.get? name = some (.template template) ∧ Template.IsSafe template

theorem DeclaresSafe.definition {name : String} {template : Json} (h : q.DeclaresSafe name template)
    (args : List Json) :
    q.definition name args q.token = .ok (.ofJson (Template.fill args template)) := by
  unfold Query.definition
  rw [if_pos rfl, h.1]

/-- The definitions that a safe template leads to do not depend on the texts put into it. -/
theorem DeclaresSafe.steadyAt {name : String} {template : Json} (h : q.DeclaresSafe name template)
    (hsteady : q.Steady (.ofJson template)) (args : List Json) : q.SteadyAt name args := by
  refine ⟨isFixed_of_not_computed args fun code hcode => ?_, fun d hd => ?_⟩
  · rw [h.1] at hcode
    cases hcode
  · rw [h.definition] at hd
    cases hd
    exact hsteady.congr (Template.looseNames_fill args template h.2)

end Query

namespace Level

variable {κ : Type} [Computed κ]

/-- A level that does not look at data texts. -/
def HidesData (level : Level κ) : Prop :=
  ∀ (q : Query κ) (d d' : Draft), d.hide = d'.hide →
    Condition.hide <$> level.expand q d = Condition.hide <$> level.expand q d'

theorem hidesData_ofRoom (limit room : Nat) : (ofRoom limit room : Level κ).HidesData := by
  rw [ofRoom_eq_above]
  intro q d d' h
  exact Draft.resolve_congr_hide _ h

variable {below : Unit → Option (Level κ)} {q q' : Query κ} {name : String} {template : Json}
  {ss ss' : List String}

/-- A condition that a safe template declares is the same for any texts, up to data texts. -/
theorem alike_defined (hbelow : ∀ level, below () = some level → level.HidesData)
    (hdeclares : q.DeclaresSafe name template) (hlen : ss.length = ss'.length) :
    Traced.Alike (SameUnder (Option.map Condition.hide))
      (defined below q name (Template.texts ss)) (defined below q name (Template.texts ss')) := by
  unfold defined
  rw [hdeclares.definition, hdeclares.definition]
  split
  · have hhide := Template.hide_fill hlen template hdeclares.2
    refine .bind (R := SameUnder Draft.hide) (.ofExcept (.ok hhide)) fun d d' hd => ?_
    refine .bind_right fun level hlevel => ?_
    have hexpand := hbelow level (descend_ok_iff.1 hlevel) q d d' hd
    refine .bind (.of_map_eq hexpand) fun c c' hc => .pure ?_
    exact congrArg some hc
  · exact .pure rfl

/-- It is so, too, for queries whose filters differ in bound texts, if nothing else comes to see
them. -/
theorem alike_defined_of_steady
    (hbelow : ∀ level, below () = some level → level.FilterFree ∧ level.HidesData)
    (hq : q.hide = q'.hide) (hdeclares : q.DeclaresSafe name template)
    (hsteady : q.Steady (.ofJson template)) (hlen : ss.length = ss'.length) :
    Traced.Alike (SameUnder (Option.map Condition.hide))
      (defined below q name (Template.texts ss)) (defined below q' name (Template.texts ss')) := by
  obtain ⟨filter, rfl⟩ := Query.exists_withFilter_of_hide hq
  rw [defined_withFilter (fun level hlevel => (hbelow level hlevel).1) filter
    (hdeclares.steadyAt hsteady (Template.texts ss'))]
  exact alike_defined (fun level hlevel => (hbelow level hlevel).2) hdeclares hlen

theorem alike_direct_ofRoom (limit room : Nat) (hq : q.hide = q'.hide)
    (hdeclares : q.DeclaresSafe name template) (hsteady : q.Steady (.ofJson template))
    (hlen : ss.length = ss'.length) :
    Traced.Alike (SameUnder (Option.map Condition.hide))
      ((ofRoom limit room).direct q name (Template.texts ss))
      ((ofRoom limit room).direct q' name (Template.texts ss')) := by
  rw [ofRoom_eq_above]
  exact alike_defined_of_steady
    (forall_beneath (fun room => ⟨filterFree_ofRoom limit room, hidesData_ofRoom limit room⟩) room)
    hq hdeclares hsteady hlen

/-- Conditions that safe templates declare are merged one after another alike for any texts. -/
theorem alike_applyNames (limit room : Nat) (hlen : ss.length = ss'.length) :
    ∀ (names : List String) (q q' : Query κ), q.hide = q'.hide →
      (∀ name ∈ names, ∃ template, q.DeclaresSafe name template ∧ q.Steady (.ofJson template)) →
        Traced.Alike (SameUnder Query.hide)
          (applyNames (beneath limit room) (Template.texts ss) names q)
          (applyNames (beneath limit room) (Template.texts ss') names q')
  | [], q, q', hq, _ => .pure hq
  | name :: rest, q, q', hq, hnames => by
    obtain ⟨filter, rfl⟩ := Query.exists_withFilter_of_hide hq
    obtain ⟨template, hdeclares, hsteady⟩ := hnames name List.mem_cons_self
    -- what the remaining names stand for does not change with the filter that is merged into
    have hrest : ∀ filter' name, name ∈ rest → ∃ template,
        (q.withFilter filter').DeclaresSafe name template ∧
          (q.withFilter filter').Steady (.ofJson template) := by
      intro filter' name hname
      obtain ⟨template, hdeclares, hsteady⟩ := hnames name (List.mem_cons_of_mem _ hname)
      exact ⟨template, hdeclares, hsteady.withFilter filter'⟩
    rw [applyNames, applyNames]
    refine .bind_right fun level hlevel => ?_
    have hdirect := forall_beneath (P := fun level => Traced.Alike
        (SameUnder (Option.map Condition.hide)) (level.direct q name (Template.texts ss))
        (level.direct (q.withFilter filter) name (Template.texts ss')))
      (fun room => alike_direct_ofRoom limit room hq hdeclares hsteady hlen) room
    refine (hdirect level (descend_ok_iff.1 hlevel)).bind fun found found' hfound => ?_
    rcases hfound.cases_map with ⟨rfl, rfl⟩ | ⟨c, c', rfl, rfl, hc⟩
    · exact alike_applyNames limit room hlen rest q _ hq (hrest q.filter)
    · have hmerge := (Query.alike_merge .and hq hc).imp_ok fun r r' hr hide =>
        And.intro hide (Query.exists_withFilter_of_merge hr)
      refine .bind (.ofExcept hmerge) fun r r' hr => ?_
      obtain ⟨hhide, filter', rfl⟩ := hr
      exact alike_applyNames limit room hlen rest _ r' hhide (hrest filter')

end Level

/-! ## Calls -/

/-- Safe templates declare the conditions that a call names: the one of the query itself, or those
of the related query, of which there is at least one. What is reached from the latter, which are
merged one after another, does not depend on the filter that is there already. -/
inductive Query.NamesSafe {κ : Type} [Computed κ] (q : Query κ) (call : Call) : Prop
  | direct {template : Json} (hrelation : call.isRelation = false)
      (hdeclares : q.DeclaresSafe call.base template) : NamesSafe q call
  | related {relation : String} (hrelation : call.isRelation = true)
      (hsplit : (RelationSplit.ofBase q.hasRelation call.base).relation = some relation)
      (hwords : (RelationSplit.ofBase q.hasRelation call.base).residual ≠ [])
      (hnames : ∀ metadata, q.relation? relation = .ok (some metadata) →
        ∀ name ∈ (Grouping.ofWords metadata.target.defines
            (RelationSplit.ofBase q.hasRelation call.base).residual).names,
          ∃ template, metadata.target.DeclaresSafe name template ∧
            metadata.target.Steady (.ofJson template)) : NamesSafe q call

namespace Level

variable {κ : Type} [Computed κ] {q : Query κ} {call : Call} {ss ss' : List String}

theorem alike_applyResidual (limit room : Nat) (hlen : ss.length = ss'.length) {target : Query κ}
    {words : List Word} (relation : String) (hwords : words ≠ [])
    (hnames : ∀ name ∈ (Grouping.ofWords target.defines words).names,
      ∃ template, target.DeclaresSafe name template ∧ target.Steady (.ofJson template)) :
    Traced.Alike (SameUnder (Option.map Query.hide))
      (applyResidual (beneath limit room) target relation words (Template.texts ss))
      (applyResidual (beneath limit room) target relation words (Template.texts ss')) := by
  have hempty : words.isEmpty = false := by
    cases words with
    | nil => exact absurd rfl hwords
    | cons _ _ => rfl
  unfold applyResidual
  rw [hempty]
  dsimp only
  cases hrest : (Grouping.ofWords target.defines words).rest with
  | nil =>
    simp only [Bool.false_eq_true, if_false]
    have happly := alike_applyNames limit room hlen _ target target rfl hnames
    exact happly.bind fun r r' hr => .pure (congrArg some hr)
  | cons first rest =>
    simp only [Bool.false_eq_true, if_false]
    exact .sameUnder_refl _ _

theorem alike_baseCondition (limit room : Nat) (hsafe : q.NamesSafe call)
    (hlen : ss.length = ss'.length) :
    Traced.Alike (SameUnder (Option.map Condition.hide))
      (baseCondition (beneath limit room) q call (Template.texts ss))
      (baseCondition (beneath limit room) q call (Template.texts ss')) := by
  unfold baseCondition
  cases hsafe with
  | direct hrelation hdeclares =>
    rw [hrelation]
    exact alike_defined (forall_beneath (hidesData_ofRoom limit) room) hdeclares hlen
  | @related relation hrelation hsplit hwords hnames =>
    rw [if_pos hrelation, if_pos hrelation]
    unfold related
    dsimp only
    rw [hsplit]
    refine .bind_right fun metadata? hmetadata => ?_
    cases metadata? with
    | none => exact .pure rfl
    | some metadata =>
      refine .bind_right fun _ _ => .bind_right fun binding hbinding => ?_
      obtain ⟨filter, htarget⟩ := Binding.exists_withFilter_of_prepare hbinding
      have hbound : ∀ name ∈ (Grouping.ofWords binding.target.defines
          (RelationSplit.ofBase q.hasRelation call.base).residual).names,
            ∃ template, binding.target.DeclaresSafe name template ∧
              binding.target.Steady (.ofJson template) := by
        rw [htarget]
        intro name hname
        obtain ⟨template, hdeclares, hsteady⟩ := hnames metadata hmetadata name hname
        exact ⟨template, hdeclares, hsteady.withFilter filter⟩
      refine (alike_applyResidual limit room hlen relation hwords hbound).bind
        fun found found' hfound => ?_
      rcases hfound.cases_map with ⟨rfl, rfl⟩ | ⟨target, target', rfl, rfl, htarget⟩
      · exact .pure rfl
      · refine .bind (.ofExcept (binding.alike_condition htarget)) fun c c' hc => .pure ?_
        exact congrArg some hc

end Level

/-- Texts as arguments of a call that names conditions of safe templates are data. -/
theorem Query.alike_call_texts {κ : Type} [Computed κ] (q : Query κ) {method : String} {call : Call}
    (hparse : Call.parse? method = some call) (hgate : call.gate = none) (hsafe : q.NamesSafe call)
    {ss ss' : List String} (hlen : ss.length = ss'.length) :
    Traced.Alike (SameUnder Outcome.hide) (q.call method (ss.map .text))
      (q.call method (ss'.map .text)) := by
  show Traced.Alike _ (q.level.call q method (Template.texts ss))
    (q.level.call q method (Template.texts ss'))
  rw [Query.level, Level.atDepth, Level.ofRoom_eq_above]
  unfold Level.above Level.dispatch
  dsimp only
  rw [hparse]
  simp only [hgate, Admission.ofGate_none]
  refine .bind_right fun _ _ => ?_
  refine (Level.alike_baseCondition _ _ hsafe hlen).bind fun found found' hfound => ?_
  rcases hfound.cases_map with ⟨rfl, rfl⟩ | ⟨c, c', rfl, rfl, hc⟩
  · exact .sameUnder_refl _ _
  · exact Query.alike_finish _ rfl hc

namespace Samples

/-- The query over all posts of the schema that is built in. -/
def posts : Query Empty := (builtin.query "Post").toOption.get (by decide)

theorem namesSafe_withAuthorName :
    posts.NamesSafe ⟨.and, false, "withAuthorName", none, false⟩ := by
  have hsplit : RelationSplit.ofBase posts.hasRelation "withAuthorName" =
      ⟨some "author", [⟨"Name", 6, 10⟩]⟩ := by decide
  refine .related (by decide) (congrArg RelationSplit.relation hsplit) (by rw [hsplit]; decide) ?_
  intro metadata hmetadata name hname
  cases hmetadata
  rw [hsplit] at hname
  have hnames : name ∈ ["name"] := hname
  cases List.mem_singleton.1 hnames
  exact ⟨equalsArgument "authors.name", ⟨rfl, fun _ h => by cases h⟩, .of_looseNames_eq_nil rfl⟩

/-- A quote in the name of an author stays in the bound text. -/
theorem alike_call_withAuthorName :
    (posts.call "withAuthorName" [.text "Ann"]).outcome.isOk = true ∧
      Traced.Alike (SameUnder Outcome.hide) (posts.call "withAuthorName" [.text "Ann"])
        (posts.call "withAuthorName" [.text "' OR 1 = 1 --"]) := by
  have hparse : Call.parse? "withAuthorName" =
    some ⟨.and, false, "withAuthorName", none, false⟩ := by decide
  have hlen : ["Ann"].length = ["' OR 1 = 1 --"].length := rfl
  have halike := Query.alike_call_texts posts hparse rfl namesSafe_withAuthorName hlen
  exact ⟨by decide, halike⟩

end Samples

end Criteria
