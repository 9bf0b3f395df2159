import Criteria.Proofs.Call.Base
import Criteria.Proofs.Expansion.Resolve
import Criteria.Proofs.Query
import Criteria.Samples
import Mathlib.Data.List.Chain
import Mathlib.Logic.Relation

/-!
# Chains of references

How far the references in a draft lead on. A name in a draft refers to a condition, the definition
of which may refer to further ones, and so on; every member of such a chain is expanded one level
below the member before it. Main statement: where all conditions are templates and nothing refers to
a related table, a draft expands exactly if none of its chains has more members than the limit
allows, a cycle exceeds every limit, and a call meets the limit exactly if the token for it does
(`Query.expand_ok_iff_chains`).
-/

namespace Criteria

/-! ## References and what they lead to -/

namespace Query

variable {κ : Type}

/-- All conditions that the model declares are templates. -/
def DeclaresTemplates (q : Query κ) : Prop :=
  ∀ name code, q.model.conditions.get? name ≠ some (.computed code)

/-- A name outside the maps of the draft refers to a condition of the query. -/
def Mentions (q : Query κ) (d : Draft) (r : Reference) : Prop :=
  ∃ token ∈ d.looseNames, Reference.parse? token = some r ∧ q.defines r.name = true

/-- No name outside the maps of the draft refers to a condition on a related table. -/
def IsPlain (q : Query κ) (d : Draft) : Prop :=
  ∀ token ∈ d.looseNames, ∀ r, Reference.parse? token = some r → r.isRelation = true →
    q.defines r.name = true

variable [Computed κ]

/-- The definition of the condition that one reference refers to mentions the other one. -/
def LeadsTo (q : Query κ) (r r' : Reference) : Prop :=
  ∃ d, q.definition r.name r.values q.token = .ok d ∧ q.Mentions d r'

/-- The draft mentions the first reference, and each one leads to the next. -/
def IsChain (q : Query κ) (d : Draft) (refs : List Reference) : Prop :=
  (∀ r ∈ refs.head?, q.Mentions d r) ∧ refs.IsChain q.LeadsTo

/-- The draft mentions a reference that leads to the given one in any number of steps. -/
def ComesTo (q : Query κ) (d : Draft) (r : Reference) : Prop :=
  ∃ first, q.Mentions d first ∧ Relation.ReflTransGen q.LeadsTo first r

/-- Neither the draft nor a definition that it comes to refers to a related table. -/
def StaysPlain (q : Query κ) (d : Draft) : Prop :=
  q.IsPlain d ∧ ∀ r, q.ComesTo d r → ∀ d', q.definition r.name r.values q.token = .ok d' →
    q.IsPlain d'

variable {q : Query κ} {d d' : Draft} {r : Reference}

omit [Computed κ] in
theorem Mentions.defines (h : q.Mentions d r) : q.defines r.name = true := by
  obtain ⟨token, -, -, hdefines⟩ := h
  exact hdefines

theorem exists_definition {name : String} (htemplates : q.DeclaresTemplates)
    (hdefines : q.defines name = true) (args : List Json) :
    ∃ d, q.definition name args q.token = .ok d := by
  unfold definition
  rw [if_pos rfl]
  cases hget : q.model.conditions.get? name with
  | none =>
    have hname : name = elementsName := by
      simp only [defines, Dict.has, hget, Option.isSome_none, Bool.false_or, beq_iff_eq] at hdefines
      exact hdefines
    exact ⟨_, if_pos hname⟩
  | some definition =>
    cases definition with
    | template draft => exact ⟨_, rfl⟩
    | computed code => exact absurd hget (htemplates name code)

theorem StaysPlain.step (h : q.StaysPlain d) (hmentions : q.Mentions d r)
    (hdefinition : q.definition r.name r.values q.token = .ok d') : q.StaysPlain d' := by
  refine ⟨h.2 r ⟨r, hmentions, .refl⟩ d' hdefinition, ?_⟩
  rintro r' ⟨first, hfirst, hsteps⟩
  exact h.2 r' ⟨r, hmentions, .head ⟨d', hdefinition, hfirst⟩ hsteps⟩

omit [Computed κ] in
theorem mentions_of_refers {token : String} (h : q.IsPlain d) (hmem : token ∈ d.looseNames)
    (hrefers : q.refers token = true) :
    ∃ r, Reference.parse? token = some r ∧ q.defines r.name = true := by
  obtain ⟨r, hparse, hr⟩ := refers_eq_true_iff.1 hrefers
  rcases Bool.or_eq_true_iff.1 hr with hdefines | hrelation
  · exact ⟨r, hparse, hdefines⟩
  · exact ⟨r, hparse, h token hmem r hparse hrelation⟩

theorem isChain_cons_iff {rest : List Reference}
    (hdefinition : q.definition r.name r.values q.token = .ok d') :
    q.IsChain d (r :: rest) ↔ q.Mentions d r ∧ q.IsChain d' rest := by
  unfold IsChain
  rw [List.isChain_cons]
  have hnext : ∀ r', q.LeadsTo r r' ↔ q.Mentions d' r' := by
    intro r'
    constructor
    · rintro ⟨d'', hd'', hmentions⟩
      rw [hdefinition] at hd''
      cases hd''
      exact hmentions
    · intro hmentions
      exact ⟨d', hdefinition, hmentions⟩
  simp only [hnext, List.head?_cons, Option.mem_some_iff, forall_eq']

theorem chains_le_zero_iff :
    (∀ refs, q.IsChain d refs → refs.length ≤ 0) ↔ ∀ r, ¬ q.Mentions d r := by
  constructor
  · intro h r hr
    have hchain : q.IsChain d [r] := by
      refine ⟨fun r' hr' => ?_, List.isChain_singleton r⟩
      cases hr'
      exact hr
    exact absurd (h [r] hchain) (Nat.not_succ_le_zero 0)
  · intro h refs hchain
    cases refs with
    | nil => exact Nat.le_refl 0
    | cons r rest => exact absurd (hchain.1 r rfl) (h r)

theorem chains_le_succ_iff (htemplates : q.DeclaresTemplates) {n : Nat} :
    (∀ refs, q.IsChain d refs → refs.length ≤ n + 1) ↔
      ∀ r d', q.Mentions d r → q.definition r.name r.values q.token = .ok d' →
        ∀ refs, q.IsChain d' refs → refs.length ≤ n := by
  constructor
  · intro h r d' hr hd' refs hrefs
    have hchain : q.IsChain d (r :: refs) := (isChain_cons_iff hd').2 ⟨hr, hrefs⟩
    exact Nat.le_of_succ_le_succ (h (r :: refs) hchain)
  · intro h refs hchain
    cases refs with
    | nil => exact Nat.zero_le _
    | cons r rest =>
      have hr : q.Mentions d r := hchain.1 r rfl
      obtain ⟨d', hd'⟩ := exists_definition htemplates hr.defines r.values
      have hrest : q.IsChain d' rest := ((isChain_cons_iff hd').1 hchain).2
      exact Nat.succ_le_succ (h r d' hr hd' rest hrest)

/-- From a reference that leads to one on a cycle there are chains of any length. -/
theorem exists_chain_of_cycle {r first : Reference} (hcycle : Relation.TransGen q.LeadsTo r r)
    (hsteps : Relation.TransGen q.LeadsTo first r) (n : Nat) :
    ∃ rest : List Reference, (first :: rest).IsChain q.LeadsTo ∧ rest.length = n := by
  induction n generalizing first with
  | zero => exact ⟨[], List.isChain_singleton first, rfl⟩
  | succ n ih =>
    obtain ⟨next, hnext, hrest⟩ : ∃ next, q.LeadsTo first next ∧
        Relation.TransGen q.LeadsTo next r := by
      obtain ⟨next, hnext, hsteps⟩ := Relation.TransGen.head'_iff.1 hsteps
      rcases Relation.reflTransGen_iff_eq_or_transGen.1 hsteps with rfl | hsteps
      · exact ⟨r, hnext, hcycle⟩
      · exact ⟨next, hnext, hsteps⟩
    obtain ⟨rest, hchain, hlength⟩ := ih hrest
    refine ⟨next :: rest, List.isChain_cons_cons.2 ⟨hnext, hchain⟩, ?_⟩
    rw [List.length_cons, hlength]

theorem exists_chain_of_comesTo {r : Reference} (h : q.ComesTo d r)
    (hcycle : Relation.TransGen q.LeadsTo r r) (n : Nat) :
    ∃ refs, q.IsChain d refs ∧ n < refs.length := by
  obtain ⟨first, hfirst, hsteps⟩ := h
  have hsteps' : Relation.TransGen q.LeadsTo first r := Relation.TransGen.trans_right hsteps hcycle
  obtain ⟨rest, hchain, hlength⟩ := exists_chain_of_cycle hcycle hsteps' n
  refine ⟨first :: rest, ⟨?_, hchain⟩, ?_⟩
  · intro r hr
    cases hr
    exact hfirst
  · rw [List.length_cons, hlength]
    exact Nat.lt_succ_self n

end Query

/-! ## The levels that a chain takes -/

namespace Level

variable {κ : Type} [Computed κ] {below : Unit → Option (Level κ)} {q : Query κ} {d : Draft}
  {r : Reference} {token : String}

/-- A condition of the query, asked for by a name in a draft, is its definition expanded on the
level below. -/
theorem outcome_find_of_defines (hparse : Reference.parse? token = some r)
    (hdefines : q.defines r.name = true)
    (hdefinition : q.definition r.name r.values q.token = .ok d) :
    (find below q token).outcome = (do
      let level ← descend below q r.name
      some <$> level.expand q d : Traced (Option Condition)).outcome := by
  have hrefers : (q.defines r.name || r.isRelation) = true := by
    rw [hdefines, Bool.true_or]
  rw [find_of_refers hparse hrefers]
  unfold referent
  simp only [hdefines, hdefinition, if_true, Traced.outcome_bind, Traced.outcome_note,
    Traced.outcome_ofExcept]
  rfl

theorem outcome_defined_of_defines {name : String} {args : List Json}
    (hdefines : q.defines name = true) (hdefinition : q.definition name args q.token = .ok d) :
    (defined below q name args).outcome = (do
      let level ← descend below q name
      some <$> level.expand q d : Traced (Option Condition)).outcome := by
  unfold defined
  simp only [hdefines, hdefinition, if_true, Traced.outcome_bind, Traced.outcome_ofExcept,
    Traced.outcome_map]
  rfl

/-- A draft expands exactly if the definitions of all conditions that it mentions do, one level
below. -/
theorem resolve_ok_iff_of_isPlain (htemplates : q.DeclaresTemplates) (hplain : q.IsPlain d) :
    (∃ c, (d.resolve (find below q)).outcome = .ok c) ↔
      ∀ r d', q.Mentions d r → q.definition r.name r.values q.token = .ok d' →
        ∃ level, below () = some level ∧ ∃ c, (level.expand q d').outcome = .ok c := by
  rw [Draft.resolve_ok_iff]
  constructor
  · rintro hfind r d' ⟨token, hmem, hparse, hdefines⟩ hd'
    obtain ⟨found, hfound⟩ := hfind token hmem
    rw [outcome_find_of_defines hparse hdefines hd'] at hfound
    obtain ⟨level, hlevel, hfound⟩ := Traced.bind_ok_iff.1 hfound
    obtain ⟨c, hc, -⟩ := Traced.map_ok_iff.1 hfound
    exact ⟨level, descend_ok_iff.1 hlevel, c, hc⟩
  · intro hmentions token hmem
    cases hrefers : q.refers token with
    | false =>
      rw [find_of_not_refers hrefers]
      exact ⟨none, rfl⟩
    | true =>
      obtain ⟨r, hparse, hdefines⟩ := Query.mentions_of_refers hplain hmem hrefers
      obtain ⟨d', hd'⟩ := Query.exists_definition htemplates hdefines r.values
      obtain ⟨level, hlevel, c, hc⟩ := hmentions r d' ⟨token, hmem, hparse, hdefines⟩ hd'
      rw [outcome_find_of_defines hparse hdefines hd', descend_of_some hlevel]
      exact ⟨some c, Traced.map_ok_iff.2 ⟨c, hc, rfl⟩⟩

theorem expand_ofRoom (limit room : Nat) (q : Query κ) (d : Draft) :
    (ofRoom limit room).expand q d = d.resolve (find (beneath limit room) q) := by
  rw [ofRoom_eq_above]
  rfl

/-- With so many levels below, a draft expands exactly if it has no longer chain. -/
theorem expand_ofRoom_ok_iff (htemplates : q.DeclaresTemplates) (limit room : Nat)
    (hplain : q.StaysPlain d) :
    (∃ c, ((ofRoom limit room).expand q d).outcome = .ok c) ↔
      ∀ refs, q.IsChain d refs → refs.length ≤ room := by
  induction room generalizing d with
  | zero =>
    rw [expand_ofRoom, resolve_ok_iff_of_isPlain htemplates hplain.1, Query.chains_le_zero_iff]
    constructor
    · intro h r hr
      obtain ⟨d', hd'⟩ := Query.exists_definition htemplates hr.defines r.values
      obtain ⟨level, hlevel, -⟩ := h r d' hr hd'
      cases hlevel
    · intro h r d' hr _
      exact absurd hr (h r)
  | succ room ih =>
    rw [expand_ofRoom, resolve_ok_iff_of_isPlain htemplates hplain.1,
      Query.chains_le_succ_iff htemplates]
    refine forall_congr' fun r => forall_congr' fun d' => forall_congr' fun hr =>
      forall_congr' fun hd' => ?_
    rw [← ih (hplain.step hr hd')]
    constructor
    · rintro ⟨level, hlevel, hok⟩
      cases hlevel
      exact hok
    · intro hok
      exact ⟨_, rfl, hok⟩

/-- Meeting the limit is the only way in which an expansion fails. -/
theorem exists_tooDeep_of_expand_error (htemplates : q.DeclaresTemplates) (limit room : Nat)
    {fault : Fault} (hplain : q.StaysPlain d)
    (h : ((ofRoom limit room).expand q d).outcome = .error fault) :
    ∃ name, fault = .tooDeep name q.schema.maxDepth := by
  refine induction (P := fun level => ∀ d, q.StaysPlain d →
    (level.expand q d).outcome = .error fault →
      ∃ name, fault = .tooDeep name q.schema.maxDepth) ?_ limit room d hplain h
  intro below depth ih d hplain h
  -- a template always has a definition, so that only the descent to it can fail
  obtain ⟨token, hmem, h⟩ := Draft.exists_of_resolve_error d h
  cases hrefers : q.refers token with
  | false =>
    rw [find_of_not_refers hrefers] at h
    cases h
  | true =>
    obtain ⟨r, hparse, hdefines⟩ := Query.mentions_of_refers hplain.1 hmem hrefers
    obtain ⟨d', hd'⟩ := Query.exists_definition htemplates hdefines r.values
    rw [outcome_find_of_defines hparse hdefines hd'] at h
    cases hb : below () with
    | none =>
      rw [descend_of_none hb] at h
      cases h
      exact ⟨r.name, rfl⟩
    | some level =>
      rw [descend_of_some hb, pure_bind, Traced.map_error_iff] at h
      exact ih level hb d' (hplain.step ⟨token, hmem, hparse, hdefines⟩ hd') h

end Level

/-! ## Calls -/

theorem Query.not_tooDeep_finish {κ : Type} {q : Query κ} {c : Condition} {options : Options}
    {name : String} {limit : Nat} :
    (q.finish c options).outcome ≠ .error (.tooDeep name limit) := by
  intro h
  obtain ⟨cause, h⟩ := finish_error h
  cases h

theorem Reference.isRelationName_of_isRelation {r : Reference} (h : r.isRelation = true) :
    isRelationName r.name = true := by
  unfold isRelation at h
  unfold isRelationName startsRelation
  split at h
  · next c d rest hname =>
    rw [hname]
    simp only [Bool.and_eq_true] at h
    simp [h.1]
  · cases h

namespace Level

variable {κ : Type} [Computed κ] {below : Unit → Option (Level κ)} {q : Query κ}

theorem meetsLimit_dispatch_iff {method : String} {call : Call} {args : List Json} {limit : Nat}
    (hparse : Call.parse? method = some call) (hrelation : call.isRelation = false)
    (hgate : call.gate = none) :
    (dispatch below q method args).MeetsLimit limit ↔
      (defined below q call.base args).MeetsLimit limit := by
  have hadmitted : Admission.ofGate call.gate args = .admitted false args := by
    rw [hgate, Admission.ofGate_none]
  unfold Traced.MeetsLimit
  rw [outcome_dispatch_of_admitted hparse hadmitted, baseCondition_of_not_relation hrelation]
  constructor
  · rintro ⟨name, h⟩
    rcases bind_error_iff.1 h with h | ⟨found, -, h⟩
    · exact ⟨name, h⟩
    · cases found with
      | some c => exact absurd h Query.not_tooDeep_finish
      | none => cases h
  · rintro ⟨name, h⟩
    exact ⟨name, bind_error_iff.2 (.inl h)⟩

theorem meetsLimit_resolve_name_iff {find : String → Traced (Option Condition)} {token : String}
    {limit : Nat} :
    ((Draft.name token).resolve find).MeetsLimit limit ↔ (find token).MeetsLimit limit := by
  rw [Draft.resolve]
  constructor
  · rintro ⟨name, h⟩
    rcases Traced.bind_error_iff.1 h with h | ⟨found, -, h⟩
    · exact ⟨name, h⟩
    · cases found <;> cases h
  · rintro ⟨name, h⟩
    exact ⟨name, Traced.bind_error_iff.2 (.inl h)⟩

/-- A condition that is asked for by a call, and by the token with the same arguments, is found
alike. -/
theorem outcome_find_token (htemplates : q.DeclaresTemplates) {r : Reference}
    (hparse : Reference.parse? r.token = some r) (hrelation : r.isRelation = false) :
    (find below q r.token).outcome = (defined below q r.name r.values).outcome := by
  cases hdefines : q.defines r.name with
  | true =>
    obtain ⟨d, hd⟩ := Query.exists_definition htemplates hdefines r.values
    rw [outcome_find_of_defines hparse hdefines hd, outcome_defined_of_defines hdefines hd]
  | false =>
    have hrefers : q.refers r.token = false := by
      unfold Query.refers
      rw [hparse]
      simp only [hdefines, hrelation, Bool.or_self]
    rw [find_of_not_refers hrefers]
    unfold defined
    rw [hdefines]
    rfl

end Level

namespace Query

variable {κ : Type} [Computed κ] {q : Query κ} {d : Draft}

theorem meetsLimit_expand_iff (htemplates : q.DeclaresTemplates) (hplain : q.StaysPlain d) :
    (q.expand d).MeetsLimit q.schema.maxDepth ↔
      ∃ refs, q.IsChain d refs ∧ q.schema.maxDepth < refs.length := by
  have hok : (∃ c, (q.expand d).outcome = .ok c) ↔
      ∀ refs, q.IsChain d refs → refs.length ≤ q.schema.maxDepth :=
    Level.expand_ofRoom_ok_iff htemplates q.schema.maxDepth q.schema.maxDepth hplain
  constructor
  · rintro ⟨name, h⟩
    by_contra hchains
    simp only [not_exists, not_and, Nat.not_lt] at hchains
    obtain ⟨c, hc⟩ := hok.2 hchains
    rw [hc] at h
    cases h
  · rintro ⟨refs, hrefs, hlength⟩
    cases h : (q.expand d).outcome with
    | ok c =>
      have hle := hok.1 ⟨c, h⟩ refs hrefs
      omega
    | error fault =>
      obtain ⟨name, rfl⟩ := Level.exists_tooDeep_of_expand_error htemplates
        q.schema.maxDepth q.schema.maxDepth hplain h
      exact ⟨name, h⟩

/-- A call reads the definition before it descends, and a token descends before the definition is
read, but only the descent can fail. -/
theorem meetsLimit_call_iff (htemplates : q.DeclaresTemplates) {method : String} {call : Call}
    {args : List String} (hparse : Call.parse? method = some call)
    (hrelation : call.isRelation = false) (hgate : call.gate = none)
    (hargs : ∀ arg ∈ args, Reference.IsInline arg) :
    (q.call method (args.map .text)).MeetsLimit q.schema.maxDepth ↔
      (q.expand (.name (Reference.token ⟨call.base, args⟩))).MeetsLimit q.schema.maxDepth := by
  have hname : Text.IsName call.base.toList := Call.isName_base hparse
  have htoken := Reference.parse?_token (r := ⟨call.base, args⟩) hname hargs
  have hplain : Reference.isRelation ⟨call.base, args⟩ = false := by
    rw [← Bool.not_eq_true]
    intro h
    have hcall : call.isRelation = true := Reference.isRelationName_of_isRelation h
    rw [hrelation] at hcall
    cases hcall
  have hfind : (Level.find (Level.beneath q.schema.maxDepth q.schema.maxDepth) q
        (Reference.token ⟨call.base, args⟩)).outcome =
      (Level.defined (Level.beneath q.schema.maxDepth q.schema.maxDepth) q call.base
        (args.map .text)).outcome :=
    Level.outcome_find_token htemplates htoken hplain
  rw [call_eq_dispatch, expand_eq_resolve, Level.meetsLimit_dispatch_iff hparse hrelation hgate,
    Level.meetsLimit_resolve_name_iff]
  unfold Traced.MeetsLimit
  rw [hfind]

end Query

/-- The limit is exact. Where all conditions are templates, a draft from which no reference leads to
a related table expands exactly if none of its chains of references has more members than the limit;
otherwise it meets the limit, as it does whenever it comes to a reference on a cycle. A call of a
condition by its name meets the limit exactly if the token with the same arguments does. -/
theorem Query.expand_ok_iff_chains {κ : Type} [Computed κ] (q : Query κ)
    (htemplates : q.DeclaresTemplates) :
    (∀ d, q.StaysPlain d →
      ((∃ c, (q.expand d).outcome = .ok c) ↔
        ∀ refs, q.IsChain d refs → refs.length ≤ q.schema.maxDepth) ∧
      ((q.expand d).MeetsLimit q.schema.maxDepth ↔
        ∃ refs, q.IsChain d refs ∧ q.schema.maxDepth < refs.length) ∧
      ∀ r, q.ComesTo d r → Relation.TransGen q.LeadsTo r r →
        (q.expand d).MeetsLimit q.schema.maxDepth) ∧
    ∀ method call args, Call.parse? method = some call → call.isRelation = false →
      call.gate = none → (∀ arg ∈ args, Reference.IsInline arg) →
        ((q.call method (args.map .text)).MeetsLimit q.schema.maxDepth ↔
          (q.expand (.name (Reference.token ⟨call.base, args⟩))).MeetsLimit q.schema.maxDepth) := by
  constructor
  · intro d hplain
    have hok := Level.expand_ofRoom_ok_iff htemplates q.schema.maxDepth q.schema.maxDepth hplain
    have hmeets := meetsLimit_expand_iff htemplates hplain
    refine ⟨hok, hmeets, fun r hr hcycle => ?_⟩
    exact hmeets.2 (exists_chain_of_comesTo hr hcycle q.schema.maxDepth)
  · intro method call args hparse hrelation hgate hargs
    exact meetsLimit_call_iff htemplates hparse hrelation hgate hargs

namespace Samples

/-- A query with a condition that hands on to the one named by its argument, over a schema with the
given limit. -/
def relay (limit : Nat) : Query Empty :=
  ⟨Schema.new .postgres limit,
    ((Model.new "Post" "posts").template "first" (.array [.text "and", .text "$0"])).template
      "second" (equals "posts.id" (int 1)), none⟩

theorem declaresTemplates_relay (limit : Nat) : (relay limit).DeclaresTemplates := by
  intro _ code
  cases code

theorem mentions_relay_token {limit : Nat} {r : Reference} :
    (relay limit).Mentions (.name "first:second") r ↔ r = ⟨"first", ["second"]⟩ := by
  have hparse : Reference.parse? "first:second" = some ⟨"first", ["second"]⟩ := by decide
  constructor
  · rintro ⟨token, hmem, h, -⟩
    cases List.mem_singleton.1 hmem
    rw [hparse] at h
    cases h
    rfl
  · rintro rfl
    exact ⟨_, List.mem_singleton.2 rfl, hparse, rfl⟩

theorem mentions_relay_first {limit : Nat} {r : Reference} :
    (relay limit).Mentions (.list [.name "and", .name "second"]) r ↔ r = ⟨"second", []⟩ := by
  have hand : Reference.parse? "and" = some ⟨"and", []⟩ := by decide
  have hsecond : Reference.parse? "second" = some ⟨"second", []⟩ := by decide
  constructor
  · rintro ⟨token, hmem, h, hdefines⟩
    have htoken : token ∈ ["and", "second"] := hmem
    simp only [List.mem_cons, List.not_mem_nil, or_false] at htoken
    rcases htoken with rfl | rfl
    · rw [hand] at h
      cases h
      have hand : (relay limit).defines "and" = false := rfl
      rw [hand] at hdefines
      cases hdefines
    · rw [hsecond] at h
      cases h
      rfl
  · rintro rfl
    exact ⟨"second", List.mem_cons_of_mem _ List.mem_cons_self, hsecond, rfl⟩

theorem leadsTo_relay_first {limit : Nat} {r : Reference} :
    (relay limit).LeadsTo ⟨"first", ["second"]⟩ r ↔ r = ⟨"second", []⟩ := by
  constructor
  · rintro ⟨d, hd, h⟩
    cases hd
    exact mentions_relay_first.1 h
  · intro h
    exact ⟨_, rfl, mentions_relay_first.2 h⟩

theorem not_leadsTo_relay_second {limit : Nat} {r : Reference} :
    ¬ (relay limit).LeadsTo ⟨"second", []⟩ r := by
  rintro ⟨d, hd, token, hmem, -⟩
  cases hd
  cases hmem

theorem comesTo_relay {limit : Nat} {r : Reference}
    (h : (relay limit).ComesTo (.name "first:second") r) :
    r = ⟨"first", ["second"]⟩ ∨ r = ⟨"second", []⟩ := by
  obtain ⟨first, hfirst, hsteps⟩ := h
  rw [mentions_relay_token] at hfirst
  subst hfirst
  induction hsteps with
  | refl => exact .inl rfl
  | tail _ hstep ih =>
    rcases ih with rfl | rfl
    · exact .inr (leadsTo_relay_first.1 hstep)
    · exact absurd hstep not_leadsTo_relay_second

theorem staysPlain_relay (limit : Nat) : (relay limit).StaysPlain (.name "first:second") := by
  have hplain : ∀ d : Draft, (d.looseNames.all fun token =>
      (Reference.parse? token).all fun r => !r.isRelation) = true → (relay limit).IsPlain d := by
    intro d h token hmem r hparse hrelation
    have hall := List.all_eq_true.1 h token hmem
    rw [hparse, Option.all_some, hrelation] at hall
    cases hall
  refine ⟨hplain _ (by decide), fun r hr d' hd' => ?_⟩
  rcases comesTo_relay hr with rfl | rfl
  · cases hd'
    exact hplain _ (by decide)
  · cases hd'
    exact hplain _ (by decide)

theorem length_le_two_of_isChain_relay {limit : Nat} {refs : List Reference}
    (h : (relay limit).IsChain (.name "first:second") refs) : refs.length ≤ 2 := by
  match refs, h with
  | [], _ | [_], _ | [_, _], _ => simp
  | first :: second :: third :: rest, h =>
    obtain ⟨hfirst, hsecond, hthird⟩ : first = ⟨"first", ["second"]⟩ ∧
        (relay limit).LeadsTo first second ∧ (relay limit).LeadsTo second third := by
      obtain ⟨hhead, hchain⟩ := h
      rw [List.isChain_cons_cons, List.isChain_cons_cons] at hchain
      exact ⟨mentions_relay_token.1 (hhead first rfl), hchain.1, hchain.2.1⟩
    subst hfirst
    rw [leadsTo_relay_first.1 hsecond] at hthird
    exact absurd hthird not_leadsTo_relay_second

/-- An argument that leads to a second condition takes two levels: one is not enough. -/
theorem relay_meets_limit : (relay 1).DeclaresTemplates ∧
    (relay 1).StaysPlain (.name "first:second") ∧
    ((relay 1).expand (.name "first:second")).MeetsLimit 1 ∧
    ((relay 1).call "firstCondition" [.text "second"]).MeetsLimit 1 ∧
    ∃ c, ((relay 2).expand (.name "first:second")).outcome = .ok c := by
  obtain ⟨hexpand, hcall⟩ := Query.expand_ok_iff_chains (relay 1) (declaresTemplates_relay 1)
  have hmeets : ((relay 1).expand (.name "first:second")).MeetsLimit 1 := by
    refine (hexpand _ (staysPlain_relay 1)).2.1.2 ⟨[⟨"first", ["second"]⟩, ⟨"second", []⟩], ?_, ?_⟩
    · refine ⟨fun r hr => ?_, List.isChain_cons_cons.2 ⟨?_, List.isChain_singleton _⟩⟩
      · cases hr
        exact mentions_relay_token.2 rfl
      · exact leadsTo_relay_first.2 rfl
    · decide
  have hparse : Call.parse? "firstCondition" = some ⟨.and, false, "first", none, true⟩ := by decide
  have hargs : ∀ arg ∈ ["second"], Reference.IsInline arg := by
    intro arg harg
    cases List.mem_singleton.1 harg
    exact ⟨by decide, by decide⟩
  have htwo := (Query.expand_ok_iff_chains (relay 2) (declaresTemplates_relay 2)).1 _
    (staysPlain_relay 2)
  exact ⟨declaresTemplates_relay 1, staysPlain_relay 1, hmeets,
    (hcall _ _ ["second"] hparse (by decide) rfl hargs).2 hmeets,
    htwo.1.2 fun refs hrefs => length_le_two_of_isChain_relay hrefs⟩

end Samples

end Criteria
