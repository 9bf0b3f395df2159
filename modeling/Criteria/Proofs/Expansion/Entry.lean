import Criteria.Proofs.Expansion.Chain

/-!
# Ways to a condition

A condition of a query can be asked for by a call of a method, or by a token in a draft that is
handed to the query; and a draft can be handed over with options or merged directly. Main statement:
the ways agree (`Query.outcome_call_eq_filterWith`). A call reads the definition before it descends
and a token descends first, so that on a level that has another one below both come to the
definition expanded there.
-/

namespace Criteria

/-- What a call asks to be done with its condition, if no gate changes it. -/
def Call.options (call : Call) : Options := ⟨call.connective, call.negate, call.conditionOnly⟩

namespace Query

variable {κ : Type} {q : Query κ}

/-- Without negation, and if more than the condition is asked for, the condition is merged into the
query. -/
theorem outcome_finish_of_merge (q : Query κ) (c : Condition) (connective : Connective) :
    (q.finish c ⟨connective, false, false⟩).outcome = Outcome.query <$> q.merge c connective := by
  rw [outcome_finish]
  simp

end Query

/-! ## Calls and tokens -/

namespace Level

variable {κ : Type} [Computed κ] {below : Unit → Option (Level κ)} {level : Level κ} {q : Query κ}

/-- The condition that the definition under a name comes to on a level. -/
def outcomeOn (level : Level κ) (q : Query κ) (name : String) (args : List Json) :
    Except Fault Condition := do
  let d ← q.definition name args q.token
  (level.expand q d).outcome

/-- A call reads the definition and then descends. -/
theorem outcome_defined_of_some {name : String} (hlevel : below () = some level)
    (hdefines : q.defines name = true) (args : List Json) :
    (defined below q name args).outcome = some <$> level.outcomeOn q name args := by
  unfold defined outcomeOn
  rw [if_pos hdefines, Traced.outcome_bind, Traced.outcome_ofExcept, map_bind]
  refine bind_congr fun d => ?_
  rw [descend_of_some hlevel, pure_bind, ← Traced.outcome_map]
  rfl

/-- A token descends and then reads the definition. -/
theorem outcome_find_of_some {token : String} {r : Reference} (hlevel : below () = some level)
    (hparse : Reference.parse? token = some r) (hdefines : q.defines r.name = true) :
    (find below q token).outcome = some <$> level.outcomeOn q r.name r.values := by
  have hrefers : (q.defines r.name || r.isRelation) = true := by
    rw [hdefines, Bool.true_or]
  rw [find_of_refers hparse hrefers, descend_of_some hlevel, pure_bind, Traced.outcome_bind]
  unfold referent outcomeOn
  rw [if_pos hdefines, Traced.outcome_bind, Traced.outcome_note, Traced.outcome_ofExcept, map_bind]
  refine bind_congr fun d => ?_
  rw [Traced.outcome_map]

/-- A call without a gate finishes the condition that its base names. -/
theorem outcome_dispatch_of_defines {method : String} {call : Call} {args : List Json}
    (hlevel : below () = some level) (hparse : Call.parse? method = some call)
    (hgate : call.gate = none) (hrelation : call.isRelation = false)
    (hdefines : q.defines call.base = true) :
    (dispatch below q method args).outcome = (do
      let c ← level.outcomeOn q call.base args
      (q.finish c call.options).outcome) := by
  have hadmitted : Admission.ofGate call.gate args = .admitted false args := by
    rw [hgate, Admission.ofGate_none]
  rw [outcome_dispatch_of_admitted hparse hadmitted, baseCondition_of_not_relation hrelation,
    outcome_defined_of_some hlevel hdefines, bind_map_left, Bool.bne_false]
  rfl

end Level

namespace Query

variable {κ : Type} [Computed κ] {q : Query κ}

/-- A draft that is one token is finished as what the token refers to. -/
theorem outcome_filterWith_of_defines {level : Level κ} {token : String} {r : Reference}
    (hlevel : Level.beneath q.schema.maxDepth q.schema.maxDepth () = some level)
    (hparse : Reference.parse? token = some r) (hdefines : q.defines r.name = true)
    (options : Options) :
    (q.filterWith (.name token) options).outcome = (do
      let c ← level.outcomeOn q r.name r.values
      (q.finish c options).outcome) := by
  unfold filterWith
  rw [expand_eq_resolve, Traced.outcome_bind,
    Draft.outcome_resolve_name (Level.outcome_find_of_some hlevel hparse hdefines)]

/-- A condition is the same whichever way leads to it. A call of a condition of the query comes to
what the token with the same arguments comes to under the options of the call, and a draft that is
handed over without negation, not for its condition alone, comes to what it is merged to. -/
theorem outcome_call_eq_filterWith (q : Query κ) :
    (0 < q.schema.maxDepth → ∀ method call args, Call.parse? method = some call →
      call.gate = none → call.isRelation = false → q.defines call.base = true →
      (∀ arg ∈ args, Reference.IsInline arg) →
        (q.call method (args.map .text)).outcome =
          (q.filterWith (.name (Reference.token ⟨call.base, args⟩)) call.options).outcome) ∧
    ∀ d connective, (q.filterWith d ⟨connective, false, false⟩).outcome =
      Outcome.query <$> (q.mergeDraft d connective).outcome := by
  constructor
  · intro hlimit method call args hparse hgate hrelation hdefines hargs
    obtain ⟨level, hlevel⟩ : ∃ level : Level κ,
        Level.beneath q.schema.maxDepth q.schema.maxDepth () = some level := by
      obtain ⟨room, hroom⟩ := Nat.exists_eq_succ_of_ne_zero hlimit.ne'
      rw [hroom]
      exact ⟨_, rfl⟩
    have htoken := Reference.parse?_token (r := ⟨call.base, args⟩) (Call.isName_base hparse) hargs
    rw [call_eq_dispatch, outcome_filterWith_of_defines hlevel htoken hdefines,
      Level.outcome_dispatch_of_defines hlevel hparse hgate hrelation hdefines]
    rfl
  · intro d connective
    unfold filterWith mergeDraft
    rw [Traced.outcome_bind, Traced.outcome_bind, map_bind]
    refine bind_congr fun c => ?_
    rw [outcome_finish_of_merge, Traced.outcome_ofExcept]

end Query

namespace Samples

/-- A negated call that is combined by `or`, and the token with the same argument. -/
theorem call_relay_eq_filterWith :
    (relay 2).defines "first" = true ∧
    ((relay 2).call "orNotFirst" [.text "second"]).outcome.isOk = true ∧
    ((relay 2).call "orNotFirst" [.text "second"]).outcome =
      ((relay 2).filterWith (.name "first:second") ⟨.or, true, false⟩).outcome := by
  have hparse : Call.parse? "orNotFirst" = some ⟨.or, true, "first", none, false⟩ := by decide
  have hargs : ∀ arg ∈ ["second"], Reference.IsInline arg := by
    intro arg harg
    cases List.mem_singleton.1 harg
    exact ⟨by decide, by decide⟩
  have hsame := (Query.outcome_call_eq_filterWith (relay 2)).1 (by decide) _ _ _ hparse rfl
    (by decide) rfl hargs
  exact ⟨rfl, by decide +kernel, hsame⟩

end Samples

end Criteria
