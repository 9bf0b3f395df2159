import Criteria.Expansion
import Criteria.Proofs.Expansion.Run
import Criteria.Proofs.Query
import Criteria.Samples

/-!
# Expansion returns

Operations that call each other without a bound of their own return all the same, on every schema:
whatever leads on from one definition or query to another counts the depth up, and the limit of the
schema ends that. What carries the proof is an induction on the number of levels that are left and,
inside a level, on the draft. Main statement: begun at depth 0, every operation of a query returns
what the operation of the topmost level comes to, and it goes through no depth beyond the limit
(`Query.returns`).
-/

namespace Criteria

/-- The run stays within the limit, and what it finds in one place it does in a deeper one. -/
def Visit.IsWithin (limit : Nat) : Visit → Prop
  | step depth | handler depth => depth ≤ limit
  | definition depth deeper | nested depth deeper => depth < deeper ∧ deeper ≤ limit

namespace Run

variable {α β κ : Type} {P : Visit → Prop}

/-- The run returns what the computation comes to, reports its events, and goes through nothing that
is not allowed. -/
def Returns (P : Visit → Prop) (x : Run α) (t : Traced α) : Prop :=
  ∀ log : Log, ∃ visits, (∀ v ∈ visits, P v) ∧
    x.run.run log = some (t.outcome, ⟨log.events ++ t.events, log.visits ++ visits⟩)

namespace Returns

theorem lift (t : Traced α) : Returns P (lift t) t := by
  intro log
  refine ⟨[], List.forall_mem_nil P, ?_⟩
  rw [List.append_nil]
  rfl

theorem pure (a : α) : Returns P (pure a) (pure a) := by
  intro log
  refine ⟨[], List.forall_mem_nil P, ?_⟩
  rw [List.append_nil]
  show some _ = some (_, Log.mk (log.events ++ []) log.visits)
  rw [List.append_nil]
  rfl

/-- A run that fails returns. -/
theorem fail_bind {γ : Type} (fault : Fault) (f : α → Run β) (g : γ → Traced β) :
    Returns P (Run.lift (.fail fault) >>= f) (.fail fault >>= g) := by
  intro log
  refine ⟨[], List.forall_mem_nil P, ?_⟩
  rw [List.append_nil, Traced.bind_of_error rfl]
  rfl

/-- Runs return one after another. -/
theorem bind {x : Run α} {t : Traced α} {f : α → Run β} {g : α → Traced β} (hx : Returns P x t)
    (hf : ∀ a, t.outcome = .ok a → Returns P (f a) (g a)) : Returns P (x >>= f) (t >>= g) := by
  intro log
  obtain ⟨visits, hvisits, hrun⟩ := hx log
  cases ht : t.outcome with
  | error fault =>
    refine ⟨visits, hvisits, ?_⟩
    rw [ht] at hrun
    simp only [Traced.bind_of_error ht, ExceptT.run_bind, StateT.run_bind, hrun]
    rfl
  | ok a =>
    obtain ⟨visits', hvisits', hrun'⟩ := hf a ht ⟨log.events ++ t.events, log.visits ++ visits⟩
    refine ⟨visits ++ visits', ?_, ?_⟩
    · intro v hv
      rcases List.mem_append.1 hv with hv | hv
      · exact hvisits v hv
      · exact hvisits' v hv
    · rw [ht] at hrun
      simp only [Traced.bind_of_ok ht, ExceptT.run_bind, StateT.run_bind, hrun]
      rw [← List.append_assoc, ← List.append_assoc]
      exact hrun'

/-- A visit that is allowed leaves no trace but in the log. -/
theorem visit_bind {v : Visit} {f : Unit → Run β} {t : Traced β} (hv : P v)
    (hf : Returns P (f ()) t) : Returns P (visit v >>= f) t := by
  intro log
  obtain ⟨visits, hvisits, hrun⟩ := hf { log with visits := log.visits ++ [v] }
  refine ⟨v :: visits, ?_, ?_⟩
  · intro w hw
    rcases List.mem_cons.1 hw with rfl | hw
    · exact hv
    · exact hvisits w hw
  · rw [← List.append_cons] at hrun
    exact hrun

end Returns

end Run

/-! ## Levels and depths -/

namespace Level

variable {κ : Type} [Computed κ]

/-- The operations of the level are what runs return that begin at its depth. -/
structure IsReturned (limit : Nat) (level : Level κ) : Prop where
  expand {q : Query κ} (hq : q.schema.maxDepth = limit) (d : Draft) :
    Run.Returns (·.IsWithin limit) (Run.expand q level.depth d) (level.expand q d)
  direct {q : Query κ} (hq : q.schema.maxDepth = limit) (name : String) (args : List Json) :
    Run.Returns (·.IsWithin limit) (q.directConditionFrom level.depth name args)
      (level.direct q name args)
  call {q : Query κ} (hq : q.schema.maxDepth = limit) (method : String) (args : List Json) :
    Run.Returns (·.IsWithin limit) (Run.call q level.depth method args) (level.call q method args)

/-- What is below a level at some depth: the level of the next depth, until the limit is reached. -/
structure Continues (limit depth : Nat) (below : Unit → Option (Level κ)) : Prop where
  depth_le : depth ≤ limit
  none (h : below () = none) : depth = limit
  some {level : Level κ} (h : below () = some level) :
    depth < limit ∧ level.depth = depth + 1 ∧ level.IsReturned limit

end Level

namespace Run

variable {κ : Type} [Computed κ]

/-- The draft that a reference stands for, where it is expanded at some depth. -/
def referent (q : Query κ) (depth : Nat) (token : String) (reference : Reference) : Run Draft :=
  if q.defines reference.name then do
    lift (.note (.expandingDirect token depth))
    lift (.ofExcept (q.definition reference.name reference.values q.token))
  else do
    lift (.note (.expandingRelation token depth))
    let outcome ← q.callFrom depth (reference.name ++ "Condition") reference.values
    lift (outcome.draft token)

theorem expandName_of_not_refers {q : Query κ} {token : String} (h : q.refers token = false)
    (depth : Nat) : q.expandNameFrom depth token = pure none := by
  unfold Query.refers at h
  rw [Query.expandNameFrom.eq_def]
  cases hr : Reference.parse? token with
  | none => rfl
  | some reference =>
    simp only [hr, Bool.or_eq_false_iff] at h
    simp [h.1, h.2]

theorem expandName_of_refers {q : Query κ} {token : String} {reference : Reference}
    (hr : Reference.parse? token = some reference)
    (h : (q.defines reference.name || reference.isRelation) = true) (depth : Nat) :
    q.expandNameFrom depth token = (do
      let deeper ← descend q reference.name depth
      let draft ← referent q deeper token reference
      return some (draft, deeper)) := by
  rw [Query.expandNameFrom.eq_def]
  unfold referent
  simp only [hr]
  split
  · simp
  · next hdefines =>
    simp only [hdefines, Bool.false_or] at h
    rw [if_pos h]
    simp

end Run

namespace Level

variable {α κ : Type} [Computed κ] {limit depth : Nat} {below : Unit → Option (Level κ)}
  {q : Query κ}

/-- What a reference stands for is returned if its call is. -/
theorem returns_referent {level : Level κ} (hlevel : level.IsReturned limit)
    (hq : q.schema.maxDepth = limit) (token : String) (reference : Reference) :
    Run.Returns (·.IsWithin limit) (Run.referent q level.depth token reference)
      (level.referent q token reference) := by
  unfold Run.referent referent
  split
  · exact (Run.Returns.lift _).bind fun _ _ => Run.Returns.lift _
  · refine (Run.Returns.lift _).bind fun _ _ => ?_
    exact (hlevel.call hq _ _).bind fun outcome _ => Run.Returns.lift _

section Above

variable (hlimit : limit < Run.depthCount) (hbelow : Continues limit depth below)
  (hq : q.schema.maxDepth = limit)

include hlimit hbelow hq in
/-- The depth is counted up as long as there is a level below. -/
theorem returns_descend_bind {q' : Query κ} (hq' : q'.schema.maxDepth = limit) (name : String)
    {f : Nat → Run α} {g : Level κ → Traced α}
    (hf : ∀ level, depth < limit → level.depth = depth + 1 → level.IsReturned limit →
      Run.Returns (·.IsWithin limit) (f level.depth) (g level)) :
    Run.Returns (·.IsWithin limit) (Run.descend q name depth >>= f)
      (descend below q' name >>= g) := by
  unfold Run.descend
  cases hb : below () with
  | none =>
    have hdepth := hbelow.none hb
    rw [descend_of_none hb, if_pos (by omega), hq, hq']
    exact .fail_bind _ f g
  | some level =>
    obtain ⟨hdepth, hlevel, hreturned⟩ := hbelow.some hb
    rw [descend_of_some hb, if_neg (by omega), if_pos (by omega), pure_bind, pure_bind, ← hlevel]
    exact hf level hdepth hlevel hreturned

mutual

/-- The expansion of a draft returns if it does on the level below. -/
theorem returns_expand (hlimit : limit < Run.depthCount) (hbelow : Continues limit depth below)
    (hq : q.schema.maxDepth = limit) : ∀ d : Draft,
    Run.Returns (·.IsWithin limit) (Run.expand q depth d) (d.resolve (find below q))
  | .name token => by
    rw [Run.expand, Query.expandFrom, Draft.resolve]
    refine .visit_bind hbelow.depth_le ?_
    cases hrefers : q.refers token with
    | false =>
      rw [find_of_not_refers hrefers, Run.expandName_of_not_refers hrefers, pure_bind, pure_bind]
      exact .pure _
    | true =>
      obtain ⟨reference, hr, href⟩ := Query.refers_eq_true_iff.1 hrefers
      rw [find_of_refers hr href, Run.expandName_of_refers hr href]
      simp only [bind_assoc]
      -- the draft that comes in place of the name may be any: it is the level below that returns
      refine returns_descend_bind hlimit hbelow hq hq _ fun level hdepth hnext hlevel => ?_
      refine (returns_referent hlevel hq token reference).bind fun draft _ => ?_
      rw [bind_map_left, pure_bind]
      refine .visit_bind ⟨by omega, by omega⟩ ?_
      show Run.Returns _ _ (level.expand q draft >>= pure)
      rw [bind_pure]
      exact hlevel.expand hq draft
  | .literal value => by
    rw [Run.expand, Query.expandFrom, Draft.resolve]
    exact .visit_bind hbelow.depth_le (.pure _)
  | .map entries => by
    rw [Run.expand, Query.expandFrom, Draft.resolve]
    exact .visit_bind hbelow.depth_le (.pure _)
  | .query select => by
    rw [Run.expand, Query.expandFrom, Draft.resolve]
    exact .visit_bind hbelow.depth_le (.pure _)
  | .list items => by
    rw [Run.expand, Query.expandFrom, Draft.resolve]
    refine .visit_bind hbelow.depth_le ?_
    exact (returns_expandItems hlimit hbelow hq items).bind fun cs _ => .pure _

theorem returns_expandItems (hlimit : limit < Run.depthCount)
    (hbelow : Continues limit depth below) (hq : q.schema.maxDepth = limit) : ∀ items : List Draft,
    Run.Returns (·.IsWithin limit) (q.expandItemsFrom depth items)
      (Draft.resolveItems (find below q) items)
  | [] => by
    rw [Query.expandItemsFrom, Draft.resolveItems]
    exact .pure _
  | d :: rest => by
    rw [Query.expandItemsFrom, Draft.resolveItems]
    refine (returns_expand hlimit hbelow hq d).bind fun c _ => ?_
    exact (returns_expandItems hlimit hbelow hq rest).bind fun cs _ => .pure _

end

include hlimit hbelow hq

theorem returns_directCondition (name : String) (args : List Json) :
    Run.Returns (·.IsWithin limit) (q.directConditionFrom depth name args)
      (defined below q name args) := by
  rw [Query.directConditionFrom]
  unfold defined
  split
  · refine (Run.Returns.lift _).bind fun draft _ => ?_
    refine returns_descend_bind hlimit hbelow hq hq _ fun level hdepth hnext hlevel => ?_
    refine .visit_bind ⟨by omega, by omega⟩ ?_
    exact (hlevel.expand hq draft).bind fun c _ => .pure _
  · exact .pure _

/-- Merging named conditions into a related query returns if looking them up does. -/
theorem returns_applyNames (args : List Json) : ∀ (names : List String) (target : Query κ),
    target.schema.maxDepth = limit → Run.Returns (·.IsWithin limit)
      (q.applyNamesFrom depth args names target) (applyNames below args names target)
  | [], target, _ => by
    rw [Query.applyNamesFrom, applyNames]
    exact .pure _
  | name :: rest, target, htarget => by
    rw [Query.applyNamesFrom, applyNames]
    refine returns_descend_bind hlimit hbelow hq htarget _ fun level hdepth hnext hlevel => ?_
    refine .visit_bind ⟨by omega, by omega⟩ ?_
    refine (hlevel.direct htarget name args).bind fun found _ => ?_
    cases found with
    | none => exact returns_applyNames args rest target htarget
    | some c =>
      refine (Run.Returns.lift _).bind fun merged hmerged => ?_
      have hschema := Query.schema_of_merge hmerged
      exact returns_applyNames args rest merged (by rw [hschema, htarget])

theorem returns_applyConditions {target : Query κ} (htarget : target.schema.maxDepth = limit)
    (relation : String) (words : List Word) (args : List Json) :
    Run.Returns (·.IsWithin limit) (q.applyConditionsFrom depth target relation words args)
      (applyResidual below target relation words args) := by
  rw [Query.applyConditionsFrom.eq_def]
  unfold applyResidual
  split
  · cases args with
    | nil => exact .pure _
    | cons first rest =>
      -- further arguments are reported and otherwise make no difference
      have hmerge : Run.Returns (·.IsWithin limit)
          (do
            let deeper ← Run.descend q relation depth
            Run.visit (.nested depth deeper)
            let merged ← target.mergeDraftFrom deeper (.ofJson first) .and
            return some merged)
          (do
            let level ← descend below target relation
            let c ← level.expand target (.ofJson first)
            let merged ← Traced.ofExcept (target.merge c .and)
            return some merged) := by
        refine returns_descend_bind hlimit hbelow hq htarget _ fun level hdepth hnext hlevel => ?_
        refine .visit_bind ⟨by omega, by omega⟩ ?_
        rw [Query.mergeDraftFrom]
        simp only [bind_assoc]
        refine .visit_bind (show level.depth ≤ limit by omega) ?_
        refine (hlevel.expand htarget _).bind fun c _ => ?_
        exact (Run.Returns.lift _).bind fun _ _ => .pure _
      cases rest with
      | nil => exact (Run.Returns.lift (pure ())).bind fun _ _ => hmerge
      | cons second rest => exact (Run.Returns.lift _).bind fun _ _ => hmerge
  · dsimp only
    cases hrest : (Grouping.ofWords target.defines words).rest with
    | nil =>
      exact (returns_applyNames hlimit hbelow hq args _ target htarget).bind fun _ _ => .pure _
    | cons first rest =>
      exact (Run.Returns.lift _).bind fun _ _ => (Run.Returns.lift _).bind fun _ _ => .pure _

theorem returns_relationCondition (base : String) (args : List Json) :
    Run.Returns (·.IsWithin limit) (q.relationConditionFrom depth base args)
      (related below q base args) := by
  rw [Query.relationConditionFrom]
  unfold related
  dsimp only
  cases (RelationSplit.ofBase q.hasRelation base).relation with
  | none => exact (Run.Returns.lift _).bind fun _ _ => .pure _
  | some relation =>
    refine (Run.Returns.lift _).bind fun metadata? hmetadata => ?_
    cases metadata? with
    | none => exact .pure _
    | some metadata =>
      refine (Run.Returns.lift _).bind fun _ _ => ?_
      refine (Run.Returns.lift _).bind fun binding hbinding => ?_
      have htarget : binding.target.schema.maxDepth = limit := by
        obtain ⟨filter, hfilter⟩ := Binding.exists_withFilter_of_prepare hbinding
        have hschema := Query.schema_of_relation? hmetadata
        rw [hfilter, ← hq, ← hschema]
        rfl
      refine (returns_applyConditions hlimit hbelow hq htarget relation _ args).bind
        fun target? _ => ?_
      cases target? with
      | none => exact .pure _
      | some target => exact (Run.Returns.lift _).bind fun _ _ => .pure _

theorem returns_call (method : String) (args : List Json) :
    Run.Returns (·.IsWithin limit) (Run.call q depth method args)
      (dispatch below q method args) := by
  rw [Run.call, Query.callFrom]
  unfold dispatch
  refine .visit_bind hbelow.depth_le ?_
  cases Call.parse? method with
  | none => exact (Run.Returns.lift _).bind fun _ _ => .pure _
  | some call =>
    refine (Run.Returns.lift _).bind fun _ _ => ?_
    cases Admission.ofGate call.gate args with
    | declined gate significance => exact (Run.Returns.lift _).bind fun _ _ => .pure _
    | admitted flip rest =>
      have hbase : Run.Returns (·.IsWithin limit) (q.baseConditionFrom depth call rest)
          (baseCondition below q call rest) := by
        rw [Query.baseConditionFrom]
        unfold baseCondition
        split
        · exact returns_relationCondition hlimit hbelow hq _ rest
        · exact returns_directCondition hlimit hbelow hq _ rest
      refine hbase.bind fun found _ => ?_
      cases found with
      | some c => exact .lift _
      | none => exact (Run.Returns.lift _).bind fun _ _ => .pure _

end Above

theorem isReturned_above (hlimit : limit < Run.depthCount) (hbelow : Continues limit depth below) :
    (above below depth).IsReturned limit where
  expand hq d := returns_expand hlimit hbelow hq d
  direct hq name args := returns_directCondition hlimit hbelow hq name args
  call hq method args := returns_call hlimit hbelow hq method args

theorem depth_ofRoom (limit room : Nat) : (ofRoom limit room : Level κ).depth = limit - room := by
  rw [ofRoom_eq_above]
  rfl

/-- The operations of every level return. -/
theorem isReturned_ofRoom (hlimit : limit < Run.depthCount) {room : Nat} (hroom : room ≤ limit) :
    (ofRoom limit room : Level κ).IsReturned limit := by
  induction room with
  | zero => exact isReturned_above hlimit ⟨Nat.le_refl limit, fun _ => rfl, fun h => by cases h⟩
  | succ room ih =>
    refine isReturned_above hlimit ⟨by omega, (fun h => by cases h), fun h => ?_⟩
    cases h
    exact ⟨by omega, by rw [depth_ofRoom]; omega, ih (by omega)⟩

end Level

/-- Every operation of a query returns, whatever its conditions and relations refer to. -/
theorem Query.returns {κ : Type} [Computed κ] (q : Query κ)
    (hlimit : q.schema.maxDepth < Run.depthCount) :
    (∀ d, Run.Returns (·.IsWithin q.schema.maxDepth) (Run.expand q 0 d) (q.expand d)) ∧
    (∀ method args, Run.Returns (·.IsWithin q.schema.maxDepth) (Run.call q 0 method args)
      (q.call method args)) ∧
    (∀ d options, Run.Returns (·.IsWithin q.schema.maxDepth) (Run.filterWith q 0 d options)
      (q.filterWith d options)) ∧
    (∀ d connective, Run.Returns (·.IsWithin q.schema.maxDepth) (Run.mergeDraft q 0 d connective)
      (q.mergeDraft d connective)) := by
  have hlevel : q.level.IsReturned q.schema.maxDepth :=
    Level.isReturned_ofRoom hlimit (Nat.sub_le _ _)
  have hdepth : q.level.depth = 0 := by
    rw [Query.level, Level.atDepth, Level.depth_ofRoom]
    omega
  have hexpand : ∀ d, Run.Returns (·.IsWithin q.schema.maxDepth) (Run.expand q 0 d)
      (q.expand d) := by
    intro d
    rw [← hdepth]
    exact hlevel.expand rfl d
  refine ⟨hexpand, fun method args => ?_, fun d options => ?_, fun d connective => ?_⟩
  · rw [← hdepth]
    exact hlevel.call rfl method args
  · refine .visit_bind (Nat.zero_le _) ?_
    exact (hexpand d).bind fun c _ => .lift _
  · rw [Run.mergeDraft, Query.mergeDraftFrom]
    refine .visit_bind (Nat.zero_le _) ?_
    exact (hexpand d).bind fun c _ => .lift _

namespace Samples

/-- A query with a condition that refers to itself, over a schema that lets it do so three times. -/
def loop : Query Empty :=
  ⟨Schema.new .postgres 3, (Model.new "Post" "posts").template "loop" (.text "loop"), none⟩

/-- A condition that refers to itself is found to do so. -/
theorem returns_loop :
    Run.Returns (·.IsWithin 3) (Run.expand loop 0 (.name "loop")) (loop.expand (.name "loop")) ∧
      (loop.expand (.name "loop")).outcome = .error (.tooDeep "loop" 3) := by
  have hlimit : loop.schema.maxDepth < Run.depthCount := by decide
  exact ⟨(Query.returns loop hlimit).1 _, rfl⟩

end Samples

end Criteria
