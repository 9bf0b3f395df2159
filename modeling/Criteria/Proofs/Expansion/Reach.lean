import Criteria.Proofs.Expansion.NormalForm
import Criteria.Proofs.Query

/-!
# What an expansion looks up

The definitions that the expansion of a draft asks a query for, directly or through the definitions
that it was given before. Code that defines a condition sees the filter of the query; everything
else of an expansion does not. Main statement: if the code that is reached makes the same draft
under every filter, so does the expansion (`Level.filterFree_ofRoom`).
-/

namespace Criteria

/-- What a call with these arguments looks up in its query: the condition that it names, unless that
is one on a related table, and the word `not` that it puts before a condition to negate it. -/
inductive Call.Asks (call : Call) (args : List Json) : String → List Json → Prop
  | base {flip : Bool} {rest : List Json} (hrelation : call.isRelation = false)
      (hgate : Admission.ofGate call.gate args = .admitted flip rest) :
      Asks call args call.base rest
  | negation {flip : Bool} {rest : List Json}
      (hgate : Admission.ofGate call.gate args = .admitted flip rest)
      (hnegate : (call.negate != flip) = true) : Asks call args "not" []

namespace Query

variable {κ : Type}

/-- What the loose names of a draft look up in a query. A name of a condition on a related table is
a call. -/
inductive Asks (q : Query κ) (d : Draft) : String → List Json → Prop
  | named {token : String} {reference : Reference} (hmem : token ∈ d.looseNames)
      (hparse : Reference.parse? token = some reference)
      (hdefines : q.defines reference.name = true) : Asks q d reference.name reference.values
  | called {token name : String} {args : List Json} {reference : Reference} {call : Call}
      (hmem : token ∈ d.looseNames) (hparse : Reference.parse? token = some reference)
      (hdefines : q.defines reference.name = false) (hrelation : reference.isRelation = true)
      (hcall : Call.parse? (reference.name ++ "Condition") = some call)
      (hasks : call.Asks reference.values name args) : Asks q d name args

variable [Computed κ]

/-- What the expansion of a draft looks up: what its names do, and what the names in the definitions
found for these do. -/
inductive Reaches (q : Query κ) : Draft → String → List Json → Prop
  | asks {d : Draft} {name : String} {args : List Json} (hasks : q.Asks d name args) :
      Reaches q d name args
  | further {d d' : Draft} {name name' : String} {args args' : List Json}
      (hasks : q.Asks d name' args') (hdefinition : q.definition name' args' q.token = .ok d')
      (hreaches : Reaches q d' name args) : Reaches q d name args

/-- The definition is the same under every filter of the query. -/
def IsFixed (q : Query κ) (name : String) (args : List Json) : Prop :=
  ∀ filter, (q.withFilter filter).definition name args q.token = q.definition name args q.token

/-- All definitions that are reached from a draft are the same under every filter. -/
def Steady (q : Query κ) (d : Draft) : Prop :=
  ∀ name args, q.Reaches d name args → q.IsFixed name args

/-- The definition, and all that are reached from it, are the same under every filter. -/
def SteadyAt (q : Query κ) (name : String) (args : List Json) : Prop :=
  q.IsFixed name args ∧ ∀ d, q.definition name args q.token = .ok d → q.Steady d

/-- All definitions that a call leads to are the same under every filter. -/
def SteadyCall (q : Query κ) (method : String) (args : List Json) : Prop :=
  ∀ call name args', Call.parse? method = some call → call.Asks args name args' →
    q.SteadyAt name args'

variable {q : Query κ} {d d' : Draft}

/-- Only code sees the filter of a query. -/
theorem isFixed_of_not_computed {name : String} (args : List Json)
    (h : ∀ code, q.model.conditions.get? name ≠ some (.computed code)) : q.IsFixed name args := by
  intro filter
  unfold definition
  cases hget : q.model.conditions.get? name with
  | none => simp only [withFilter, token, hget, column]
  | some definition =>
    cases definition with
    | template draft => simp only [withFilter, token, hget]
    | computed code => exact absurd hget (h code)

omit [Computed κ] in
theorem Asks.mono {name : String} {args : List Json} (h : q.Asks d name args)
    (hnames : ∀ token ∈ d.looseNames, token ∈ d'.looseNames) : q.Asks d' name args := by
  cases h with
  | named hmem hparse hdefines => exact .named (hnames _ hmem) hparse hdefines
  | called hmem hparse hdefines hrelation hcall hasks =>
    exact .called (hnames _ hmem) hparse hdefines hrelation hcall hasks

theorem Steady.of_looseNames_eq_nil (h : d.looseNames = []) : q.Steady d := by
  intro name args hreaches
  cases hreaches with
  | asks hasks | further hasks _ _ =>
    cases hasks with
    | named hmem _ _ | called hmem _ _ _ _ _ =>
      rw [h] at hmem
      cases hmem

theorem Steady.of_asks (h : ∀ name args, q.Asks d name args → q.SteadyAt name args) :
    q.Steady d := by
  intro name args hreaches
  cases hreaches with
  | asks hasks => exact (h _ _ hasks).1
  | further hasks hdefinition hrest => exact (h _ _ hasks).2 _ hdefinition name args hrest

theorem Steady.steadyAt {name : String} {args : List Json} (h : q.Steady d)
    (hasks : q.Asks d name args) : q.SteadyAt name args := by
  refine ⟨h name args (.asks hasks), fun _ hdefinition _ _ hrest => ?_⟩
  exact h _ _ (.further hasks hdefinition hrest)

theorem Steady.congr (h : q.Steady d) (hnames : d'.looseNames = d.looseNames) : q.Steady d' := by
  refine .of_asks fun name args hasks => h.steadyAt (hasks.mono fun token hmem => ?_)
  rw [← hnames]
  exact hmem

omit [Computed κ] in
theorem Asks.of_withFilter {filter : Option Sql.Expr} {name : String} {args : List Json}
    (h : (q.withFilter filter).Asks d name args) : q.Asks d name args := by
  cases h with
  | named hmem hparse hdefines => exact .named hmem hparse hdefines
  | called hmem hparse hdefines hrelation hcall hasks =>
    exact .called hmem hparse hdefines hrelation hcall hasks

theorem IsFixed.withFilter {name : String} {args : List Json} (h : q.IsFixed name args)
    (filter : Option Sql.Expr) : (q.withFilter filter).IsFixed name args :=
  fun filter' => (h filter').trans (h filter).symm

/-- A steady draft leads to the same definitions under every filter. -/
theorem Steady.withFilter (h : q.Steady d) (filter : Option Sql.Expr) :
    (q.withFilter filter).Steady d := by
  have hreaches : ∀ d name args, (q.withFilter filter).Reaches d name args → q.Steady d →
      q.Reaches d name args := by
    intro d name args hreaches
    induction hreaches with
    | asks hasks => exact fun _ => .asks hasks.of_withFilter
    | further hasks hdefinition _ ih =>
      intro hd
      have hat := hd.steadyAt hasks.of_withFilter
      have hdefinition' := (hat.1 filter).symm.trans hdefinition
      exact .further hasks.of_withFilter hdefinition' (ih (hat.2 _ hdefinition'))
  intro name args hname
  exact (h name args (hreaches d name args hname h)).withFilter filter

end Query

/-! ## Levels and the filter -/

namespace Draft

variable {find find' : String → Traced (Option Condition)}

mutual

/-- The look-up matters for loose names alone. -/
theorem resolve_congr : ∀ d : Draft, (∀ token ∈ d.looseNames, find token = find' token) →
    d.resolve find = d.resolve find'
  | name token, h => by
    rw [resolve, resolve, h token (List.mem_singleton.2 rfl)]
  | literal _, _ | map _, _ | query _, _ => by simp only [resolve]
  | list items, h => by
    rw [resolve, resolve, resolveItems_congr items h]

theorem resolveItems_congr : ∀ items : List Draft,
    (∀ token ∈ looseNamesOfItems items, find token = find' token) →
      resolveItems find items = resolveItems find' items
  | [], _ => rfl
  | d :: rest, h => by
    rw [resolveItems, resolveItems, resolve_congr d fun t ht => h t (List.mem_append_left _ ht),
      resolveItems_congr rest fun t ht => h t (List.mem_append_right _ ht)]

end

end Draft

/-- The outcome without the filter of its query. -/
def Outcome.unfiltered {κ : Type} : Outcome κ → Outcome κ
  | query q => query (q.withFilter none)
  | condition c => condition c
  | notApplicable => notApplicable

/-- The draft that an outcome is does not depend on the filter of its query. -/
theorem Outcome.unfiltered_bind_draft {κ : Type} (x : Traced (Outcome κ)) (token : String) :
    (unfiltered <$> x >>= draft token) = x >>= draft token := by
  rw [bind_map_left]
  refine bind_congr fun outcome => ?_
  cases outcome <;> rfl

namespace Query

variable {κ : Type} {q : Query κ}

theorem unfiltered_finish (filter : Option Sql.Expr) (c : Condition) (options : Options) :
    Outcome.unfiltered <$> (q.withFilter filter).finish c options =
      Outcome.unfiltered <$> q.finish c options := by
  unfold finish merge
  dsimp only
  generalize (if options.negate = true then c.negated else c) = c'
  simp only [map_bind]
  refine bind_congr fun _ => ?_
  split
  · rfl
  · split
    · rfl
    · cases c'.compile with
      | error cause => rfl
      | ok e => cases e <;> rfl

/-- The operands of a condition that is handed back are those of the one that was found, and `not`
if it was negated. -/
theorem looseOperands_finish {c c' : Condition} {options : Options}
    (h : (q.finish c options).outcome = .ok (.condition c')) :
    ∀ token ∈ c'.looseOperands,
      token ∈ c.looseOperands ∨ token = "not" ∧ options.negate = true := by
  intro token hmem
  rw [finish_ok_condition h] at hmem
  split at hmem
  · next hnegate =>
    rcases List.mem_cons.1 hmem with htoken | hmem
    · exact .inr ⟨htoken, hnegate⟩
    · simp only [Condition.looseOperandsOfItems, List.append_nil] at hmem
      exact .inl hmem
  · exact .inl hmem

end Query

/-- The condition that ties a query to a related one is a map, so that no operand is loose in it. -/
theorem Binding.looseOperands_condition {κ : Type} {b : Binding κ} {c : Condition}
    (h : b.condition = .ok c) :
    c.looseOperands = [] := by
  unfold Binding.condition at h
  cases hb : b.correlation with
  | direct own foreign =>
    rw [hb] at h
    cases h
    rfl
  | compound own pivotForeign remoteOwn remoteForeign pivot =>
    rw [hb] at h
    obtain ⟨pivot', -, h⟩ := bind_ok_iff.1 h
    cases h
    rfl

namespace Level

variable {κ : Type} [Computed κ]

/-- A level at which the filter of a query matters to the code of its conditions alone. -/
structure FilterFree (level : Level κ) : Prop where
  normalizes : level.Normalizes
  expand {q : Query κ} {d : Draft} (filter : Option Sql.Expr) (h : q.Steady d) :
    level.expand (q.withFilter filter) d = level.expand q d
  call {q : Query κ} {method : String} {args : List Json} (filter : Option Sql.Expr)
    (h : q.SteadyCall method args) :
    Outcome.unfiltered <$> level.call (q.withFilter filter) method args =
      Outcome.unfiltered <$> level.call q method args
  steady {q : Query κ} {method : String} {args : List Json} {c : Condition}
    (h : q.SteadyCall method args)
    (hcall : (level.call q method args).outcome = .ok (.condition c)) : q.Steady c.toDraft

variable {below : Unit → Option (Level κ)} {q : Query κ}

omit [Computed κ] in
theorem related_withFilter (filter : Option Sql.Expr) (base : String) (args : List Json) :
    related below (q.withFilter filter) base args = related below q base args := rfl

theorem defined_withFilter (hbelow : ∀ level, below () = some level → level.FilterFree)
    (filter : Option Sql.Expr) {name : String} {args : List Json} (h : q.SteadyAt name args) :
    defined below (q.withFilter filter) name args = defined below q name args := by
  unfold defined
  have hdefines : (q.withFilter filter).defines name = q.defines name := rfl
  have hdefinition : (q.withFilter filter).definition name args (q.withFilter filter).token =
    q.definition name args q.token := h.1 filter
  rw [hdefines, hdefinition]
  split
  · refine Traced.bind_congr_ok fun draft hdraft => ?_
    refine Traced.bind_congr_ok fun level hlevel => ?_
    rw [(hbelow level (descend_ok_iff.1 hlevel)).expand filter (h.2 draft hdraft)]
  · rfl

theorem baseCondition_withFilter (hbelow : ∀ level, below () = some level → level.FilterFree)
    (filter : Option Sql.Expr) {call : Call} {args : List Json}
    (h : call.isRelation = false → q.SteadyAt call.base args) :
    baseCondition below (q.withFilter filter) call args = baseCondition below q call args := by
  unfold baseCondition
  cases hrelation : call.isRelation with
  | true => exact related_withFilter filter call.base args
  | false => exact defined_withFilter hbelow filter (h hrelation)

/-- A call that finds the same condition under two filters gives the same answer. -/
theorem unfiltered_dispatch_of_base (filter : Option Sql.Expr) {method : String} {args : List Json}
    (hbase : ∀ call flip rest, Call.parse? method = some call →
      Admission.ofGate call.gate args = .admitted flip rest →
      baseCondition below (q.withFilter filter) call rest = baseCondition below q call rest) :
    Outcome.unfiltered <$> dispatch below (q.withFilter filter) method args =
      Outcome.unfiltered <$> dispatch below q method args := by
  unfold dispatch
  cases hparse : Call.parse? method with
  | none => rfl
  | some call =>
    simp only [map_bind]
    refine bind_congr fun _ => ?_
    cases hgate : Admission.ofGate call.gate args with
    | declined gate significance => rfl
    | admitted flip rest =>
      simp only [map_bind]
      rw [hbase call flip rest hparse hgate]
      refine bind_congr fun found => ?_
      cases found with
      | some c => exact Query.unfiltered_finish filter c _
      | none => rfl

theorem unfiltered_dispatch (hbelow : ∀ level, below () = some level → level.FilterFree)
    (filter : Option Sql.Expr) {method : String} {args : List Json} (h : q.SteadyCall method args) :
    Outcome.unfiltered <$> dispatch below (q.withFilter filter) method args =
      Outcome.unfiltered <$> dispatch below q method args := by
  refine unfiltered_dispatch_of_base filter fun call flip rest hparse hgate => ?_
  refine baseCondition_withFilter hbelow filter fun hrelation => ?_
  exact h call call.base rest hparse (.base hrelation hgate)

omit [Computed κ] in
theorem looseOperands_related {base : String} {args : List Json} {c : Condition}
    (h : (related below q base args).outcome = .ok (some c)) : c.looseOperands = [] := by
  unfold related at h
  cases hsplit : (RelationSplit.ofBase q.hasRelation base).relation with
  | none =>
    simp only [hsplit] at h
    obtain ⟨_, -, h⟩ := Traced.bind_ok_iff.1 h
    cases h
  | some relation =>
    simp only [hsplit] at h
    obtain ⟨metadata?, -, h⟩ := Traced.bind_ok_iff.1 h
    cases metadata? with
    | none => cases h
    | some metadata =>
      obtain ⟨_, -, h⟩ := Traced.bind_ok_iff.1 h
      obtain ⟨binding, -, h⟩ := Traced.bind_ok_iff.1 h
      obtain ⟨target?, -, h⟩ := Traced.bind_ok_iff.1 h
      cases target? with
      | none => cases h
      | some target =>
        obtain ⟨c', hc, h⟩ := Traced.bind_ok_iff.1 h
        cases h
        exact Binding.looseOperands_condition hc

/-- The condition that a call finds has no operand that refers to anything. -/
theorem isNormal_baseCondition (hbelow : ∀ level, below () = some level → level.Normalizes)
    {call : Call} {args : List Json} {c : Condition}
    (h : (baseCondition below q call args).outcome = .ok (some c)) : c.IsNormal q := by
  unfold baseCondition at h
  split at h
  · intro token hmem
    rw [looseOperands_related h] at hmem
    cases hmem
  · obtain ⟨-, draft, level, -, hlevel, hc⟩ := defined_ok_some_iff.1 h
    exact hbelow level hlevel q draft c hc

/-- A call that hands a condition back has found it and finished it. -/
theorem dispatch_ok_condition {method : String} {args : List Json} {c : Condition}
    (h : (dispatch below q method args).outcome = .ok (.condition c)) :
    ∃ call flip rest found, Call.parse? method = some call ∧
      Admission.ofGate call.gate args = .admitted flip rest ∧
      (baseCondition below q call rest).outcome = .ok (some found) ∧
      (q.finish found ⟨call.connective, call.negate != flip, call.conditionOnly⟩).outcome =
        .ok (.condition c) := by
  cases dispatch_ok_iff.1 h with
  | @admitted call flip rest found? _ hparse hgate hfound hsettle =>
    cases found? with
    | none => cases hsettle
    | some found => exact ⟨call, flip, rest, found, hparse, hgate, hfound, hsettle⟩

/-- The condition that a call hands back is steady if all definitions are that the call leads to. -/
theorem steady_dispatch (hbelow : ∀ level, below () = some level → level.Normalizes)
    {method : String} {args : List Json} {c : Condition} (h : q.SteadyCall method args)
    (hcall : (dispatch below q method args).outcome = .ok (.condition c)) : q.Steady c.toDraft := by
  obtain ⟨call, flip, rest, found, hparse, hgate, hfound, hfinish⟩ := dispatch_ok_condition hcall
  have hnormal := isNormal_baseCondition hbelow hfound
  -- whatever is looked up in the result is the word `not`
  have hnot : ∀ token reference, token ∈ c.toDraft.looseNames →
      Reference.parse? token = some reference →
      (q.defines reference.name || reference.isRelation) = true →
      reference = ⟨"not", []⟩ ∧ (call.negate != flip) = true := by
    intro token reference hmem hreference hrefers
    rw [Condition.looseNames_toDraft] at hmem
    rcases Query.looseOperands_finish hfinish token hmem with hmem | ⟨rfl, hnegate⟩
    · have htrue := Query.refers_eq_true_iff.2 ⟨reference, hreference, hrefers⟩
      rw [hnormal token hmem] at htrue
      cases htrue
    · have hparsed : Reference.parse? "not" = some ⟨"not", []⟩ := by decide
      rw [hparsed] at hreference
      cases hreference
      exact ⟨rfl, hnegate⟩
  refine .of_asks fun name given hasks => ?_
  cases hasks with
  | @named token reference hmem hreference hdefines =>
    obtain ⟨rfl, hnegate⟩ := hnot token reference hmem hreference (by rw [hdefines]; rfl)
    exact h call _ _ hparse (.negation hgate hnegate)
  | @called token _ _ reference _ hmem hreference _ hrelation _ _ =>
    obtain ⟨rfl, -⟩ := hnot token reference hmem hreference (by rw [hrelation, Bool.or_true])
    have hplain : Reference.isRelation ⟨"not", []⟩ = false := by decide
    rw [hplain] at hrelation
    cases hrelation

/-- Following a reference of a steady draft does not depend on the filter. -/
theorem referent_withFilter {level : Level κ} (hlevel : level.FilterFree)
    (filter : Option Sql.Expr) {d : Draft} (h : q.Steady d) {token : String}
    {reference : Reference} (hmem : token ∈ d.looseNames)
    (hparse : Reference.parse? token = some reference)
    (hrefers : (q.defines reference.name || reference.isRelation) = true) :
    level.referent (q.withFilter filter) token reference = level.referent q token reference ∧
      ∀ draft, (level.referent q token reference).outcome = .ok draft → q.Steady draft := by
  have hsame : (q.withFilter filter).defines reference.name = q.defines reference.name := rfl
  unfold referent
  rw [hsame]
  cases hdefines : q.defines reference.name with
  | true =>
    have hat := h.steadyAt (.named hmem hparse hdefines)
    have hdefinition := hat.1 filter
    simp only [if_true]
    refine ⟨bind_congr fun _ => congrArg Traced.ofExcept hdefinition, fun draft hdraft => ?_⟩
    obtain ⟨_, -, hdraft⟩ := Traced.bind_ok_iff.1 hdraft
    exact hat.2 draft hdraft
  | false =>
    have hrelation : reference.isRelation = true := by
      rw [hdefines, Bool.false_or] at hrefers
      exact hrefers
    have hcall : q.SteadyCall (reference.name ++ "Condition") reference.values :=
      fun call name args hcall hasks =>
        h.steadyAt (.called hmem hparse hdefines hrelation hcall hasks)
    simp only [Bool.false_eq_true, if_false]
    constructor
    · refine bind_congr fun _ => ?_
      -- a call may hand back the query with its filter, but the draft taken from it is the same
      rw [← Outcome.unfiltered_bind_draft, hlevel.call filter hcall, Outcome.unfiltered_bind_draft]
    · intro draft hdraft
      obtain ⟨_, -, hdraft⟩ := Traced.bind_ok_iff.1 hdraft
      obtain ⟨outcome, houtcome, hdraft⟩ := Traced.bind_ok_iff.1 hdraft
      cases outcome with
      | condition c =>
        cases hdraft
        exact hlevel.steady hcall houtcome
      | query _ =>
        cases hdraft
        exact .of_looseNames_eq_nil rfl
      | notApplicable => cases hdraft

theorem find_withFilter (hbelow : ∀ level, below () = some level → level.FilterFree)
    (filter : Option Sql.Expr) {d : Draft} (h : q.Steady d) {token : String}
    (hmem : token ∈ d.looseNames) :
    find below (q.withFilter filter) token = find below q token := by
  have hsame : (q.withFilter filter).refers token = q.refers token := rfl
  cases hrefers : q.refers token with
  | false =>
    rw [find_of_not_refers hrefers, find_of_not_refers (hsame.trans hrefers)]
  | true =>
    obtain ⟨reference, hparse, href⟩ := Query.refers_eq_true_iff.1 hrefers
    rw [find_of_refers hparse href, find_of_refers (q := q.withFilter filter) hparse href]
    cases hb : below () with
    | none => rw [descend_of_none hb, descend_of_none hb]; rfl
    | some level =>
      have hlevel := hbelow level hb
      obtain ⟨hreferent, hsteady⟩ := referent_withFilter hlevel filter h hmem hparse href
      rw [descend_of_some hb, descend_of_some hb, pure_bind, pure_bind, hreferent]
      refine Traced.bind_congr_ok fun draft hdraft => ?_
      rw [hlevel.expand filter (hsteady draft hdraft)]

theorem filterFree_above {depth : Nat}
    (hbelow : ∀ level, below () = some level → level.FilterFree) :
    (above below depth).FilterFree where
  normalizes := normalizes_above fun level hlevel => (hbelow level hlevel).normalizes
  expand filter h := Draft.resolve_congr _ fun _ hmem => find_withFilter hbelow filter h hmem
  call filter h := unfiltered_dispatch hbelow filter h
  steady h hcall := steady_dispatch (fun level hlevel => (hbelow level hlevel).normalizes) h hcall

/-- On every level the filter of a query matters to the code of its conditions alone. -/
theorem filterFree_ofRoom (limit room : Nat) : (ofRoom limit room : Level κ).FilterFree :=
  induction (fun _ _ => filterFree_above) limit room

end Level

end Criteria
