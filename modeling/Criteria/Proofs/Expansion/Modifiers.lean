import Criteria.Proofs.Query
import Criteria.Samples

/-!
# Modifiers of calls

Besides the condition that it means, the name of a method tells what is to be made of it: it may
have a gate, be negated, and ask for the condition alone. Methods that differ in one of these are
compared here, whatever else their names say, and whatever comes of the condition.

Main statements: a gate decides whether a call goes on and under which sign, and nothing else
(`Query.call_of_gate`); and what a call merges into the query is the condition that its twin, which
asks for the condition alone, hands back (`Query.call_eq_merged`).
-/

namespace Criteria

/-- The arguments end a call at its gate: there is none, or the first one says nothing, or it is
negative where an affirmative one is asked for. -/
inductive Gate.Stops : Gate → List Json → Prop
  | missing (gate : Gate) : Stops gate []
  | nonSignificant (gate : Gate) {arg : Json} (rest : List Json)
    (h : Significance.ofJson arg = .nonSignificant) : Stops gate (arg :: rest)
  | negative {arg : Json} (rest : List Json) (h : Significance.ofJson arg = .negative) :
    Stops .ifTrue (arg :: rest)

theorem Gate.Stops.exists_declined {gate : Gate} {args : List Json} (h : gate.Stops args) :
    ∃ significance, Admission.ofGate (some gate) args = .declined gate significance := by
  cases h with
  | missing => exact ⟨_, Admission.ofGate_of_nonSignificant gate rfl⟩
  | nonSignificant _ _ h => exact ⟨_, Admission.ofGate_of_nonSignificant gate h⟩
  | negative _ h => exact ⟨_, Admission.ofGate_ifTrue_of_negative h⟩

/-- The outcome with its condition, if it is one, merged into the query. -/
def Outcome.merged {κ : Type} (q : Query κ) (connective : Connective) :
    Outcome κ → Except Fault (Outcome κ)
  | condition c => query <$> q.merge c connective
  | query r => .ok (query r)
  | notApplicable => .ok notApplicable

namespace Query

variable {κ : Type}

/-- A condition that is found is merged as it would be handed back. -/
theorem settle_eq_merged (q : Query κ) (connective : Connective) (negate : Bool)
    (found : Option Condition) :
    q.settle ⟨connective, negate, false⟩ found =
      q.settle ⟨connective, negate, true⟩ found >>= Outcome.merged q connective := by
  cases found with
  | none => rfl
  | some c =>
    show (q.finish c ⟨connective, negate, false⟩).outcome =
      (q.finish c ⟨connective, negate, true⟩).outcome >>= _
    rw [outcome_finish, outcome_finish, if_neg Bool.false_ne_true, if_pos rfl]
    rfl

end Query

namespace Level

variable {κ : Type} [Computed κ] {below : Unit → Option (Level κ)} {q : Query κ}
  {method : String} {call : Call} {gate : Gate} {arg : Json} {args rest : List Json}

/-! ## Gates -/

theorem outcome_dispatch_of_stops (hparse : Call.parse? method = some call)
    (hgate : call.gate = some gate) (h : gate.Stops args) :
    (dispatch below q method args).outcome = .ok (.query q) := by
  obtain ⟨significance, hdeclined⟩ := h.exists_declined
  rw [← hgate] at hdeclined
  exact outcome_dispatch_of_declined hparse hdeclined

/-- With an affirmative argument a call is the one without its gate. -/
theorem outcome_dispatch_of_affirmative (hparse : Call.parse? method = some call)
    (hgate : call.gate = some gate) (harg : Significance.ofJson arg = .affirmative)
    {plain : String} (hplain : Call.parse? plain = some { call with gate := none }) :
    (dispatch below q method (arg :: rest)).outcome = (dispatch below q plain rest).outcome := by
  have hpass : Admission.ofGate call.gate (arg :: rest) = .admitted false rest := by
    rw [hgate]
    exact Admission.ofGate_of_affirmative gate harg
  rw [outcome_dispatch_of_admitted hparse hpass,
    outcome_dispatch_of_admitted hplain (Admission.ofGate_none rest)]
  rfl

/-- With a negative argument, where that does not end it, a call is the one without its gate and of
the opposite sign. -/
theorem outcome_dispatch_of_negative (hparse : Call.parse? method = some call)
    (hgate : call.gate = some .basedOn) (harg : Significance.ofJson arg = .negative)
    {opposite : String}
    (hopposite : Call.parse? opposite = some { call with gate := none, negate := !call.negate }) :
    (dispatch below q method (arg :: rest)).outcome = (dispatch below q opposite rest).outcome := by
  have hpass : Admission.ofGate call.gate (arg :: rest) = .admitted true rest := by
    rw [hgate]
    exact Admission.ofGate_basedOn_of_negative harg
  have hsign : (call.negate != true) = ((!call.negate) != false) := by
    cases call.negate <;> rfl
  rw [outcome_dispatch_of_admitted hparse hpass,
    outcome_dispatch_of_admitted hopposite (Admission.ofGate_none rest), hsign]
  rfl

/-! ## Conditions alone -/

theorem outcome_dispatch_eq_merged {only : String}
    (hparse : Call.parse? method = some { call with conditionOnly := false })
    (honly : Call.parse? only = some { call with conditionOnly := true }) (args : List Json) :
    (dispatch below q method args).outcome =
      (dispatch below q only args).outcome >>= Outcome.merged q call.connective := by
  -- the gate of both is the same and says the same to the arguments
  cases hgate : Admission.ofGate call.gate args with
  | declined gate significance =>
    rw [outcome_dispatch_of_declined hparse hgate, outcome_dispatch_of_declined honly hgate]
    rfl
  | admitted flip rest =>
    rw [outcome_dispatch_of_admitted hparse hgate, outcome_dispatch_of_admitted honly hgate,
      bind_assoc]
    exact bind_congr fun found => q.settle_eq_merged call.connective _ found

end Level

namespace Query

variable {κ : Type} [Computed κ]

/-- A gate only opens or closes, and turns the sign. What stops at it leaves the query as it is;
what passes comes to what the call without a gate comes to for the arguments after the first one,
under the opposite sign if the first one is negative. -/
theorem call_of_gate (q : Query κ) {method : String} {call : Call} {gate : Gate}
    (hparse : Call.parse? method = some call) (hgate : call.gate = some gate) :
    (∀ args, gate.Stops args → (q.call method args).outcome = .ok (.query q)) ∧
    (∀ plain arg rest, Call.parse? plain = some { call with gate := none } →
      Significance.ofJson arg = .affirmative →
        (q.call method (arg :: rest)).outcome = (q.call plain rest).outcome) ∧
    ∀ opposite arg rest,
      Call.parse? opposite = some { call with gate := none, negate := !call.negate } →
      gate = .basedOn → Significance.ofJson arg = .negative →
        (q.call method (arg :: rest)).outcome = (q.call opposite rest).outcome := by
  simp only [call_eq_dispatch]
  refine ⟨fun args hstops => ?_, fun plain arg rest hplain harg => ?_, ?_⟩
  · exact Level.outcome_dispatch_of_stops hparse hgate hstops
  · exact Level.outcome_dispatch_of_affirmative hparse hgate harg hplain
  · rintro opposite arg rest hopposite rfl harg
    exact Level.outcome_dispatch_of_negative hparse hgate harg hopposite

/-- A call that merges its condition merges just what its twin hands back that asks for the
condition alone, and where the twin has no condition to hand back, it ends as the twin does. What
compiles to nothing leaves the query as it is, and what has no content compiles to nothing, so that
it makes no difference that it is left out. -/
theorem call_eq_merged (q : Query κ) {method only : String} {call : Call}
    (hparse : Call.parse? method = some { call with conditionOnly := false })
    (honly : Call.parse? only = some { call with conditionOnly := true }) :
    (∀ args, (q.call method args).outcome =
      (q.call only args).outcome >>= Outcome.merged q call.connective) ∧
    (∀ c connective, c.compile = .ok none → q.merge c connective = .ok q) ∧
    (∀ c : Condition, c.isEmpty = true → c.compile = .ok none) ∧
    ∀ c connective negate, (q.finish c ⟨connective, negate, false⟩).outcome =
      Outcome.query <$> q.merge (if negate = true then c.negated else c) connective := by
  refine ⟨fun args => ?_, fun c connective hcompile => ?_, fun c hempty => ?_,
    fun c connective negate => ?_⟩
  · rw [call_eq_dispatch, call_eq_dispatch]
    exact Level.outcome_dispatch_eq_merged hparse honly args
  · exact merge_ok_iff.2 ⟨none, hcompile, rfl⟩
  · exact Condition.compile_of_isEmpty hempty
  · rw [outcome_finish, if_neg Bool.false_ne_true]

end Query

namespace Samples

/-- The orders without, or with, a cheap product, by what the first argument says. -/
theorem call_orders_of_gate :
    ((orders 2).call "orNotWithProductsCheaperThanBasedOnCondition" [.text " "]).outcome =
      .ok (.query (orders 2)) ∧
    ((orders 2).call "orNotWithProductsCheaperThanBasedOnCondition" [int 1, int 5]).outcome =
      ((orders 2).call "orNotWithProductsCheaperThanCondition" [int 5]).outcome ∧
    ((orders 2).call "orNotWithProductsCheaperThanBasedOnCondition" [.text "0", int 5]).outcome =
      ((orders 2).call "orWithProductsCheaperThanCondition" [int 5]).outcome := by
  have hparse : Call.parse? "orNotWithProductsCheaperThanBasedOnCondition" =
      some ⟨.or, true, "withProductsCheaperThan", some .basedOn, true⟩ := by decide
  obtain ⟨hstops, haffirmative, hnegative⟩ := Query.call_of_gate (orders 2) hparse rfl
  have hblank : Gate.basedOn.Stops [.text " "] := .nonSignificant _ _ (by decide)
  exact ⟨hstops _ hblank, haffirmative _ _ _ (by decide) (by decide),
    hnegative _ _ _ (by decide) rfl (by decide)⟩

/-- The orders that are already asked for, or those with a cheap product. -/
theorem call_orders_eq_merged :
    ((orders 2).call "orWithProductsCheaperThanCondition" [int 5]).outcome.isOk = true ∧
    ((orders 2).call "orWithProductsCheaperThan" [int 5]).outcome =
      ((orders 2).call "orWithProductsCheaperThanCondition" [int 5]).outcome >>=
        Outcome.merged (orders 2) .or ∧
    (orders 2).merge (.operand " ") .or = .ok (orders 2) := by
  have hparse : Call.parse? "orWithProductsCheaperThan" =
      some ⟨.or, false, "withProductsCheaperThan", none, false⟩ := by decide
  have honly : Call.parse? "orWithProductsCheaperThanCondition" =
      some ⟨.or, false, "withProductsCheaperThan", none, true⟩ := by decide
  have hblank : (Condition.operand " ").compile = .ok none := by rfl
  obtain ⟨hmerged, hnone, -⟩ := @Query.call_eq_merged Code _ (orders 2) _ _
    ⟨.or, false, "withProductsCheaperThan", none, false⟩ hparse honly
  exact ⟨by decide +kernel, hmerged [int 5], hnone _ _ hblank⟩

end Samples

end Criteria
