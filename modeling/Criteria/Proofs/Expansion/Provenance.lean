import Criteria.Proofs.Expansion.Resolve
import Criteria.Proofs.Query

/-!
# Where faults come from

A compilation turns from a query to related ones, and from there to further ones. A fault arises at
one of these queries, and there are few things there that it can arise from: the limit, a condition
without SQL, a definition, a token for a related table, a relation. Main statement: every fault with
which a compilation ends has such an origin at a query that the compilation may turn to
(`Query.raises_of_fails`).
-/

namespace Criteria

namespace Query

variable {κ : Type} [Computed κ]

omit [Computed κ] in
/-- The queries that a compilation may turn to: it adds filters, and follows relations. -/
inductive Visits (q : Query κ) : Query κ → Prop
  | refl : Visits q q
  | filtered {q' : Query κ} (filter : Option Sql.Expr) (h : Visits q q') :
      Visits q (q'.withFilter filter)
  | related {q' : Query κ} {name : String} {metadata : Metadata κ} (h : Visits q q')
      (hrelation : q'.relation? name = .ok (some metadata)) : Visits q metadata.target

/-- What a fault may arise from at a query. -/
inductive Origin (q : Query κ) : Fault → Prop
  | limit (name : String) : Origin q (.tooDeep name q.schema.maxDepth)
  | sql (cause : Malformed) : Origin q (.malformed cause)
  | definition {name : String} {args : List Json} {fault : Fault} (hdefines : q.defines name = true)
      (h : q.definition name args q.token = .error fault) : Origin q fault
  | token {token : String} {reference : Reference}
      (hparse : Reference.parse? token = some reference)
      (hrelation : reference.isRelation = true) (hdefines : q.defines reference.name = false) :
      Origin q (.unresolved token)
  | relation {name : String} {fault : Fault} (h : q.relation? name = .error fault) : Origin q fault
  | link {name : String} {metadata : Metadata κ} {fault : Fault}
      (hrelation : q.relation? name = .ok (some metadata))
      (h : (Binding.prepare q name metadata).outcome = .error fault) : Origin q fault

/-- The fault arises at a query that a compilation may turn to. -/
def Raises (q : Query κ) (fault : Fault) : Prop := ∃ q', q.Visits q' ∧ q'.Origin fault

/-- A compilation for the query ends with the fault. -/
inductive Fails (q : Query κ) (fault : Fault) : Prop
  | expand (d : Draft) (h : (q.expand d).outcome = .error fault)
  | call (method : String) (args : List Json) (h : (q.call method args).outcome = .error fault)
  | filterWith (d : Draft) (options : Options)
      (h : (q.filterWith d options).outcome = .error fault)
  | mergeDraft (d : Draft) (connective : Connective)
      (h : (q.mergeDraft d connective).outcome = .error fault)

variable {q q' q'' : Query κ} {fault : Fault}

omit [Computed κ] in
theorem Visits.trans (h : q.Visits q') (h' : q'.Visits q'') : q.Visits q'' := by
  induction h' with
  | refl => exact h
  | filtered filter _ ih => exact .filtered filter ih
  | related _ hrelation ih => exact .related ih hrelation

theorem Origin.raises (h : q.Origin fault) : q.Raises fault := ⟨q, .refl, h⟩

theorem Raises.of_visits (hvisits : q.Visits q') (h : q'.Raises fault) : q.Raises fault := by
  obtain ⟨q'', hvisits', horigin⟩ := h
  exact ⟨q'', hvisits.trans hvisits', horigin⟩

theorem raises_malformed (q : Query κ) (cause : Malformed) : q.Raises (.malformed cause) :=
  (Origin.sql cause).raises

theorem raises_of_merge {c : Condition} {connective : Connective}
    (h : q'.merge c connective = .error fault) : q.Raises fault := by
  obtain ⟨cause, rfl⟩ := merge_error h
  exact q.raises_malformed cause

omit [Computed κ] in
theorem visits_of_merge {c : Condition} {connective : Connective}
    (h : q.merge c connective = .ok q') : q.Visits q' := by
  obtain ⟨filter, rfl⟩ := exists_withFilter_of_merge h
  exact .filtered filter .refl

end Query

namespace Level

variable {κ : Type} [Computed κ]

/-- The operations of the level end with faults that arise at queries they may turn to. -/
structure Accounts (level : Level κ) : Prop where
  expand {q : Query κ} {d : Draft} {fault : Fault}
    (h : (level.expand q d).outcome = .error fault) : q.Raises fault
  direct {q : Query κ} {name : String} {args : List Json} {fault : Fault}
    (h : (level.direct q name args).outcome = .error fault) : q.Raises fault
  call {q : Query κ} {method : String} {args : List Json} {fault : Fault}
    (h : (level.call q method args).outcome = .error fault) : q.Raises fault

variable {below : Unit → Option (Level κ)} {q : Query κ} {fault : Fault}

theorem raises_of_descend {name : String} (h : (descend below q name).outcome = .error fault) :
    q.Raises fault := by
  unfold descend at h
  split at h
  · cases h
  · cases h
    exact (Query.Origin.limit name).raises

theorem raises_of_referent {level : Level κ} (hlevel : level.Accounts) {token : String}
    {reference : Reference} (hparse : Reference.parse? token = some reference)
    (hrefers : (q.defines reference.name || reference.isRelation) = true)
    (h : (level.referent q token reference).outcome = .error fault) : q.Raises fault := by
  unfold referent at h
  cases hdefines : q.defines reference.name with
  | true =>
    rw [hdefines, if_pos rfl] at h
    rcases Traced.bind_error_iff.1 h with h | ⟨_, -, h⟩
    · cases h
    · exact (Query.Origin.definition hdefines h).raises
  | false =>
    rw [hdefines, Bool.false_or] at hrefers
    rw [hdefines, if_neg Bool.false_ne_true] at h
    rcases Traced.bind_error_iff.1 h with h | ⟨_, -, h⟩
    · cases h
    · rcases Traced.bind_error_iff.1 h with h | ⟨outcome, -, h⟩
      · exact hlevel.call h
      · cases outcome with
        | condition c => cases h
        | query _ => cases h
        | notApplicable =>
          cases h
          exact (Query.Origin.token hparse hrefers hdefines).raises

theorem raises_of_find (hbelow : ∀ level, below () = some level → level.Accounts) {token : String}
    (h : (find below q token).outcome = .error fault) : q.Raises fault := by
  cases hrefers : q.refers token with
  | false =>
    rw [find_of_not_refers hrefers] at h
    cases h
  | true =>
    obtain ⟨reference, hparse, href⟩ := Query.refers_eq_true_iff.1 hrefers
    rw [find_of_refers hparse href] at h
    rcases Traced.bind_error_iff.1 h with h | ⟨level, hlevel, h⟩
    · exact raises_of_descend h
    have haccounts := hbelow level (descend_ok_iff.1 hlevel)
    rcases Traced.bind_error_iff.1 h with h | ⟨draft, -, h⟩
    · exact raises_of_referent haccounts hparse href h
    · exact haccounts.expand (Traced.map_error_iff.1 h)

theorem raises_of_defined (hbelow : ∀ level, below () = some level → level.Accounts)
    {name : String} {args : List Json} (h : (defined below q name args).outcome = .error fault) :
    q.Raises fault := by
  unfold defined at h
  split at h
  · next hdefines =>
    rcases Traced.bind_error_iff.1 h with h | ⟨draft, -, h⟩
    · exact (Query.Origin.definition hdefines h).raises
    rcases Traced.bind_error_iff.1 h with h | ⟨level, hlevel, h⟩
    · exact raises_of_descend h
    rcases Traced.bind_error_iff.1 h with h | ⟨_, -, h⟩
    · exact (hbelow level (descend_ok_iff.1 hlevel)).expand h
    · cases h
  · cases h

theorem raises_of_applyNames (hbelow : ∀ level, below () = some level → level.Accounts)
    {args : List Json} {names : List String}
    (h : (applyNames below args names q).outcome = .error fault) : q.Raises fault := by
  induction names generalizing q with
  | nil => cases h
  | cons name rest ih =>
    rw [applyNames] at h
    rcases Traced.bind_error_iff.1 h with h | ⟨level, hlevel, h⟩
    · exact raises_of_descend h
    rcases Traced.bind_error_iff.1 h with h | ⟨found, -, h⟩
    · exact (hbelow level (descend_ok_iff.1 hlevel)).direct h
    cases found with
    | none => exact ih h
    | some c =>
      rcases Traced.bind_error_iff.1 h with h | ⟨q', hmerge, h⟩
      · exact Query.raises_of_merge h
      · exact (ih h).of_visits (Query.visits_of_merge hmerge)

theorem raises_of_applyResidual (hbelow : ∀ level, below () = some level → level.Accounts)
    {relation : String} {words : List Word} {args : List Json}
    (h : (applyResidual below q relation words args).outcome = .error fault) :
    q.Raises fault := by
  unfold applyResidual at h
  split at h
  · cases args with
    | nil => cases h
    | cons first rest =>
      have hdraft : (do
          let level ← descend below q relation
          let c ← level.expand q (.ofJson first)
          let q' ← Traced.ofExcept (q.merge c .and)
          return some q' : Traced (Option (Query κ))).outcome = .error fault →
            q.Raises fault := by
        intro h
        rcases Traced.bind_error_iff.1 h with h | ⟨level, hlevel, h⟩
        · exact raises_of_descend h
        rcases Traced.bind_error_iff.1 h with h | ⟨c, -, h⟩
        · exact (hbelow level (descend_ok_iff.1 hlevel)).expand h
        rcases Traced.bind_error_iff.1 h with h | ⟨_, -, h⟩
        · exact Query.raises_of_merge h
        · cases h
      cases rest with
      | nil => exact hdraft h
      | cons second rest =>
        rcases Traced.bind_error_iff.1 h with h | ⟨_, -, h⟩
        · cases h
        · exact hdraft h
  · dsimp only at h
    split at h
    · rcases Traced.bind_error_iff.1 h with h | ⟨_, -, h⟩
      · exact raises_of_applyNames hbelow h
      · cases h
    · rcases Traced.bind_error_iff.1 h with h | ⟨_, -, h⟩
      · cases h
      rcases Traced.bind_error_iff.1 h with h | ⟨_, -, h⟩ <;> cases h

theorem raises_of_related (hbelow : ∀ level, below () = some level → level.Accounts)
    {base : String} {args : List Json} (h : (related below q base args).outcome = .error fault) :
    q.Raises fault := by
  unfold related at h
  cases hsplit : (RelationSplit.ofBase q.hasRelation base).relation with
  | none =>
    simp only [hsplit] at h
    rcases Traced.bind_error_iff.1 h with h | ⟨_, -, h⟩ <;> cases h
  | some relation =>
    simp only [hsplit] at h
    rcases Traced.bind_error_iff.1 h with h | ⟨metadata?, hmetadata, h⟩
    · exact (Query.Origin.relation h).raises
    cases metadata? with
    | none => cases h
    | some metadata =>
      rcases Traced.bind_error_iff.1 h with h | ⟨_, -, h⟩
      · cases h
      rcases Traced.bind_error_iff.1 h with h | ⟨binding, hbinding, h⟩
      · exact (Query.Origin.link hmetadata h).raises
      -- what is left happens at the related query
      obtain ⟨filter, htarget⟩ := Binding.exists_withFilter_of_prepare hbinding
      have hvisits : q.Visits binding.target := by
        rw [htarget]
        exact .filtered filter (.related .refl hmetadata)
      rcases Traced.bind_error_iff.1 h with h | ⟨target?, -, h⟩
      · exact (raises_of_applyResidual hbelow h).of_visits hvisits
      cases target? with
      | none => cases h
      | some target =>
        rcases Traced.bind_error_iff.1 h with h | ⟨_, -, h⟩
        · obtain ⟨cause, rfl⟩ := Binding.condition_error h
          exact q.raises_malformed cause
        · cases h

theorem raises_of_dispatch (hbelow : ∀ level, below () = some level → level.Accounts)
    {method : String} {args : List Json}
    (h : (dispatch below q method args).outcome = .error fault) : q.Raises fault := by
  cases hparse : Call.parse? method with
  | none =>
    rw [outcome_dispatch_of_not_call hparse] at h
    cases h
  | some call =>
    cases hgate : Admission.ofGate call.gate args with
    | declined gate significance =>
      rw [outcome_dispatch_of_declined hparse hgate] at h
      cases h
    | admitted flip rest =>
      rw [outcome_dispatch_of_admitted hparse hgate] at h
      rcases bind_error_iff.1 h with h | ⟨found, -, h⟩
      · unfold baseCondition at h
        split at h
        · exact raises_of_related hbelow h
        · exact raises_of_defined hbelow h
      · cases found with
        | some c =>
          obtain ⟨cause, rfl⟩ := Query.finish_error h
          exact q.raises_malformed cause
        | none => cases h

theorem accounts_above {depth : Nat} (hbelow : ∀ level, below () = some level → level.Accounts) :
    (above below depth).Accounts where
  expand h := by
    obtain ⟨token, -, h⟩ := Draft.exists_of_resolve_error _ h
    exact raises_of_find hbelow h
  direct h := raises_of_defined hbelow h
  call h := raises_of_dispatch hbelow h

theorem accounts_ofRoom (limit room : Nat) : (ofRoom limit room : Level κ).Accounts :=
  induction (fun _ _ => accounts_above) limit room

end Level

/-- Every fault with which a compilation ends arises at a query that it may turn to. -/
theorem Query.raises_of_fails {κ : Type} [Computed κ] {q : Query κ} {fault : Fault}
    (h : q.Fails fault) : q.Raises fault := by
  have haccounts : (q.level : Level κ).Accounts := Level.accounts_ofRoom _ _
  cases h with
  | expand d h => exact haccounts.expand h
  | call method args h => exact haccounts.call h
  | filterWith d options h =>
    rcases Traced.bind_error_iff.1 h with h | ⟨c, -, h⟩
    · exact haccounts.expand h
    · obtain ⟨cause, rfl⟩ := finish_error h
      exact q.raises_malformed cause
  | mergeDraft d connective h =>
    rcases Traced.bind_error_iff.1 h with h | ⟨c, -, h⟩
    · exact haccounts.expand h
    · exact raises_of_merge h

end Criteria
