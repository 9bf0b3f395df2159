import Criteria.Expansion

/-!
# Steps of a level

What one operation of a level comes to, given the operations of the level below. Main statements:
what holds of a level whenever it holds of the level below it holds of every level (`induction`); a
token that refers to nothing stands for itself (`find_of_not_refers`), and any other is replaced by
what it refers to, expanded on the level below (`find_of_refers`); a condition of the query is its
definition, expanded on the level below (`defined_ok_some_iff`); a call that its gate lets pass
finishes the condition that its base names (`outcome_dispatch_of_admitted`).
-/

namespace Criteria

/-! ## Computations in sequence -/

theorem bind_ok_iff {ε α β : Type} {x : Except ε α} {f : α → Except ε β} {b : β} :
    x >>= f = .ok b ↔ ∃ a, x = .ok a ∧ f a = .ok b := by
  cases x with
  | ok a =>
    constructor
    · intro h
      exact ⟨a, rfl, h⟩
    · rintro ⟨_, ha, h⟩
      cases ha
      exact h
  | error e =>
    constructor
    · intro h
      cases h
    · rintro ⟨_, h, _⟩
      cases h

theorem bind_error_iff {ε α β : Type} {x : Except ε α} {f : α → Except ε β} {e : ε} :
    x >>= f = .error e ↔ x = .error e ∨ ∃ a, x = .ok a ∧ f a = .error e := by
  cases x with
  | ok a =>
    constructor
    · intro h
      exact .inr ⟨a, rfl, h⟩
    · rintro (h | ⟨_, ha, h⟩)
      · cases h
      · cases ha
        exact h
  | error e' =>
    constructor
    · intro h
      cases h
      exact .inl rfl
    · rintro (h | ⟨_, h, _⟩)
      · cases h
        rfl
      · cases h

theorem map_ok_iff {ε α β : Type} {x : Except ε α} {f : α → β} {b : β} :
    f <$> x = .ok b ↔ ∃ a, x = .ok a ∧ f a = b := by
  cases x <;> simp [Functor.map, Except.map]

theorem map_error_iff {ε α β : Type} {x : Except ε α} {f : α → β} {e : ε} :
    f <$> x = .error e ↔ x = .error e := by
  cases x <;> simp [Functor.map, Except.map]

theorem toOption_eq_some_iff {ε α : Type} {x : Except ε α} {a : α} :
    x.toOption = some a ↔ x = .ok a := by
  cases x <;> simp [Except.toOption]

namespace Traced

variable {α β : Type}

theorem bind_ok_iff {x : Traced α} {f : α → Traced β} {b : β} :
    (x >>= f).outcome = .ok b ↔ ∃ a, x.outcome = .ok a ∧ (f a).outcome = .ok b := by
  rw [outcome_bind, Criteria.bind_ok_iff]

theorem bind_error_iff {x : Traced α} {f : α → Traced β} {fault : Fault} :
    (x >>= f).outcome = .error fault ↔
      x.outcome = .error fault ∨ ∃ a, x.outcome = .ok a ∧ (f a).outcome = .error fault := by
  rw [outcome_bind, Criteria.bind_error_iff]

theorem map_ok_iff {x : Traced α} {f : α → β} {b : β} :
    (f <$> x).outcome = .ok b ↔ ∃ a, x.outcome = .ok a ∧ f a = b := by
  rw [outcome_map, Criteria.map_ok_iff]

theorem map_error_iff {x : Traced α} {f : α → β} {fault : Fault} :
    (f <$> x).outcome = .error fault ↔ x.outcome = .error fault := by
  rw [outcome_map, Criteria.map_error_iff]

/-- The computation ends because references lead on beyond the limit. -/
def MeetsLimit (limit : Nat) (x : Traced α) : Prop :=
  ∃ name, x.outcome = .error (.tooDeep name limit)

/-- Only the results that a computation has matter to what follows it. -/
theorem bind_congr_ok {x : Traced α} {f g : α → Traced β}
    (h : ∀ a, x.outcome = .ok a → f a = g a) : x >>= f = x >>= g := by
  cases hx : x.outcome with
  | ok a => rw [bind_of_ok hx, bind_of_ok hx, h a hx]
  | error fault => rw [bind_of_error hx, bind_of_error hx]

end Traced

namespace Query

variable {κ : Type}

/-- A token of a draft refers to a condition of the query or to one on a related table. -/
def refers (q : Query κ) (token : String) : Bool :=
  match Reference.parse? token with
  | none => false
  | some reference => q.defines reference.name || reference.isRelation

theorem refers_eq_true_iff {q : Query κ} {token : String} :
    q.refers token = true ↔
      ∃ reference, Reference.parse? token = some reference ∧
        (q.defines reference.name || reference.isRelation) = true := by
  unfold refers
  cases Reference.parse? token <;> simp

/-- What becomes of the condition that a call has looked for: it is finished, if there is one. -/
def settle (q : Query κ) (options : Options) : Option Condition → Except Fault (Outcome κ)
  | some c => (q.finish c options).outcome
  | none => .ok .notApplicable

variable [Computed κ]

/-- The level at some depth for compilations for the query. -/
def levelAt (q : Query κ) (depth : Nat) : Level κ := .atDepth q.schema.maxDepth depth

/-- The condition that a draft is for a handler at some depth. -/
def expandAt (q : Query κ) (depth : Nat) (draft : Draft) : Traced Condition :=
  (q.levelAt depth).expand q draft

end Query

/-- The draft that the outcome of a call is for a token that refers to the call. -/
def Outcome.draft {κ : Type} (token : String) : Outcome κ → Traced Draft
  | condition c => return c.toDraft
  | query _ => return .map []
  | notApplicable => .fail (.unresolved token)

namespace Level

variable {κ : Type} [Computed κ]

/-- Levels are built upwards from the last one, below which there is none. -/
theorem induction {P : Level κ → Prop}
    (step : ∀ below depth, (∀ level, below () = some level → P level) → P (above below depth))
    (limit room : Nat) : P (ofRoom limit room) := by
  induction room with
  | zero =>
    apply step
    intro level h
    cases h
  | succ room ih =>
    apply step
    intro level h
    cases h
    exact ih

/-- What is below the level with `room` levels below it. -/
def beneath (limit : Nat) : Nat → Unit → Option (Level κ)
  | 0, _ => none
  | room + 1, _ => some (ofRoom limit room)

theorem ofRoom_eq_above (limit room : Nat) :
    (ofRoom limit room : Level κ) = above (beneath limit room) (limit - room) := by
  cases room <;> rfl

/-- What holds of every level holds of the one below. -/
theorem forall_beneath {P : Level κ → Prop} {limit : Nat} (h : ∀ room, P (ofRoom limit room))
    (room : Nat) : ∀ level, beneath limit room () = some level → P level := by
  intro level hlevel
  cases room with
  | zero => cases hlevel
  | succ room =>
    cases hlevel
    exact h room

end Level

namespace Query

variable {κ : Type} [Computed κ] (q : Query κ)

theorem level_eq_above :
    q.level = .above (Level.beneath q.schema.maxDepth q.schema.maxDepth)
      (q.schema.maxDepth - q.schema.maxDepth) :=
  Level.ofRoom_eq_above q.schema.maxDepth q.schema.maxDepth

theorem expand_eq_resolve (d : Draft) :
    q.expand d =
      d.resolve (Level.find (Level.beneath q.schema.maxDepth q.schema.maxDepth) q) := by
  rw [expand, level_eq_above]
  rfl

theorem call_eq_dispatch (method : String) (args : List Json) :
    q.call method args =
      Level.dispatch (Level.beneath q.schema.maxDepth q.schema.maxDepth) q method args := by
  rw [call, level_eq_above]
  rfl

end Query

namespace Level

variable {κ : Type} [Computed κ]

/-! ## Looking up a token -/

/-- The draft that a reference stands for, asked of the level on which it will be expanded. -/
def referent (level : Level κ) (q : Query κ) (token : String) (reference : Reference) :
    Traced Draft :=
  if q.defines reference.name then do
    .note (.expandingDirect token level.depth)
    .ofExcept (q.definition reference.name reference.values q.token)
  else do
    .note (.expandingRelation token level.depth)
    let outcome ← level.call q (reference.name ++ "Condition") reference.values
    outcome.draft token

variable {below : Unit → Option (Level κ)} {q : Query κ} {token : String}

omit [Computed κ] in
theorem descend_ok_iff {name : String} {level : Level κ} :
    (descend below q name).outcome = .ok level ↔ below () = some level := by
  unfold descend
  cases below () <;> simp

omit [Computed κ] in
theorem descend_of_some {level : Level κ} (h : below () = some level) (name : String) :
    descend below q name = pure level := by
  unfold descend
  rw [h]

omit [Computed κ] in
theorem descend_of_none (h : below () = none) (name : String) :
    descend below q name = .fail (.tooDeep name q.schema.maxDepth) := by
  unfold descend
  rw [h]

/-- A token that refers to nothing is not looked up. -/
theorem find_of_not_refers (h : q.refers token = false) : find below q token = pure none := by
  unfold Query.refers at h
  unfold find
  cases hr : Reference.parse? token with
  | none => rfl
  | some reference =>
    simp only [hr, Bool.or_eq_false_iff] at h
    simp [h.1, h.2]

/-- Any other token is what its reference stands for, expanded on the level below. -/
theorem find_of_refers {reference : Reference} (hr : Reference.parse? token = some reference)
    (h : (q.defines reference.name || reference.isRelation) = true) :
    find below q token = (do
      let level ← descend below q reference.name
      let draft ← level.referent q token reference
      some <$> level.expand q draft) := by
  unfold find referent
  simp only [hr]
  split
  · simp
  · next hdefines =>
    simp only [hdefines, Bool.false_or] at h
    rw [if_pos h]
    refine bind_congr fun level => ?_
    simp only [bind_assoc]
    refine bind_congr fun _ => bind_congr fun outcome => ?_
    cases outcome with
    | condition c => simp [Outcome.draft]
    | query _ => simp [Outcome.draft]
    | notApplicable => exact (Traced.bind_of_error (Traced.outcome_fail _) _).symm

/-- What a token is found to be comes from an expansion on the level below. -/
theorem find_ok_some {c : Condition} (h : (find below q token).outcome = .ok (some c)) :
    ∃ level draft, below () = some level ∧ (level.expand q draft).outcome = .ok c := by
  cases hrefers : q.refers token with
  | false =>
    rw [find_of_not_refers hrefers] at h
    cases h
  | true =>
    obtain ⟨reference, hr, href⟩ := Query.refers_eq_true_iff.1 hrefers
    rw [find_of_refers hr href] at h
    obtain ⟨level, hlevel, h⟩ := Traced.bind_ok_iff.1 h
    obtain ⟨draft, -, h⟩ := Traced.bind_ok_iff.1 h
    obtain ⟨_, hc, hsome⟩ := Traced.map_ok_iff.1 h
    cases hsome
    exact ⟨level, draft, descend_ok_iff.1 hlevel, hc⟩

/-- Only a token that refers to nothing is found to stand for itself. -/
theorem refers_of_find_ok_none (h : (find below q token).outcome = .ok none) :
    q.refers token = false := by
  cases hrefers : q.refers token with
  | false => rfl
  | true =>
    obtain ⟨reference, hr, href⟩ := Query.refers_eq_true_iff.1 hrefers
    rw [find_of_refers hr href] at h
    obtain ⟨level, -, h⟩ := Traced.bind_ok_iff.1 h
    obtain ⟨draft, -, h⟩ := Traced.bind_ok_iff.1 h
    obtain ⟨_, -, hsome⟩ := Traced.map_ok_iff.1 h
    cases hsome

/-! ## Conditions of the query -/

variable {name : String} {args : List Json}

theorem defined_ok_none_iff :
    (defined below q name args).outcome = .ok none ↔ q.defines name = false := by
  unfold defined
  constructor
  · intro h
    split at h
    · obtain ⟨_, -, h⟩ := Traced.bind_ok_iff.1 h
      obtain ⟨_, -, h⟩ := Traced.bind_ok_iff.1 h
      obtain ⟨_, -, h⟩ := Traced.bind_ok_iff.1 h
      cases h
    · next hdefines => exact Bool.eq_false_iff.2 hdefines
  · intro hdefines
    rw [hdefines]
    rfl

/-- A condition of the query is its definition, expanded on the level below. -/
theorem defined_ok_some_iff {c : Condition} :
    (defined below q name args).outcome = .ok (some c) ↔
      q.defines name = true ∧ ∃ draft level, q.definition name args q.token = .ok draft ∧
        below () = some level ∧ (level.expand q draft).outcome = .ok c := by
  unfold defined
  constructor
  · intro h
    split at h
    · next hdefines =>
      obtain ⟨draft, hdraft, h⟩ := Traced.bind_ok_iff.1 h
      obtain ⟨level, hlevel, h⟩ := Traced.bind_ok_iff.1 h
      obtain ⟨_, hc, h⟩ := Traced.bind_ok_iff.1 h
      cases h
      exact ⟨hdefines, draft, level, hdraft, descend_ok_iff.1 hlevel, hc⟩
    · cases h
  · rintro ⟨hdefines, draft, level, hdraft, hlevel, hc⟩
    rw [if_pos hdefines]
    refine Traced.bind_ok_iff.2 ⟨draft, hdraft, ?_⟩
    refine Traced.bind_ok_iff.2 ⟨level, descend_ok_iff.2 hlevel, ?_⟩
    exact Traced.bind_ok_iff.2 ⟨c, hc, rfl⟩

/-! ## Calls -/

variable {method : String} {call : Call} {rest : List Json}

theorem baseCondition_of_not_relation (h : call.isRelation = false) :
    baseCondition below q call args = defined below q call.base args := by
  unfold baseCondition
  rw [h, if_neg Bool.false_ne_true]

theorem outcome_dispatch_of_not_call (h : Call.parse? method = none) :
    (dispatch below q method args).outcome = .ok .notApplicable := by
  unfold dispatch
  rw [h]
  rfl

/-- A gate that declines leaves the query as it is. -/
theorem outcome_dispatch_of_declined {gate : Gate} {significance : Significance}
    (hparse : Call.parse? method = some call)
    (hgate : Admission.ofGate call.gate args = .declined gate significance) :
    (dispatch below q method args).outcome = .ok (.query q) := by
  unfold dispatch
  simp only [hparse, hgate]
  rfl

/-- A call that its gate lets pass looks for its condition. What it is called by does not matter
any more. -/
theorem outcome_dispatch_of_admitted {flip : Bool} (hparse : Call.parse? method = some call)
    (hgate : Admission.ofGate call.gate args = .admitted flip rest) :
    (dispatch below q method args).outcome =
      (baseCondition below q call rest).outcome >>=
        q.settle ⟨call.connective, call.negate != flip, call.conditionOnly⟩ := by
  unfold dispatch
  simp only [hparse, hgate, Traced.outcome_bind, Traced.outcome_note]
  show (baseCondition below q call rest).outcome >>= _ = _
  refine bind_congr fun found => ?_
  cases found <;> rfl

/-- The ways in which a call ends without a fault. -/
inductive Answers (below : Unit → Option (Level κ)) (q : Query κ) (method : String)
    (args : List Json) : Outcome κ → Prop
  | notACall (hparse : Call.parse? method = none) : Answers below q method args .notApplicable
  | declined {call : Call} {gate : Gate} {significance : Significance}
    (hparse : Call.parse? method = some call)
    (hgate : Admission.ofGate call.gate args = .declined gate significance) :
    Answers below q method args (.query q)
  | admitted {call : Call} {flip : Bool} {rest : List Json} {found : Option Condition}
    {outcome : Outcome κ} (hparse : Call.parse? method = some call)
    (hgate : Admission.ofGate call.gate args = .admitted flip rest)
    (hfound : (baseCondition below q call rest).outcome = .ok found)
    (hsettle : q.settle ⟨call.connective, call.negate != flip, call.conditionOnly⟩ found =
      .ok outcome) :
    Answers below q method args outcome

theorem dispatch_ok_iff {outcome : Outcome κ} :
    (dispatch below q method args).outcome = .ok outcome ↔
      Answers below q method args outcome := by
  constructor
  · intro h
    cases hparse : Call.parse? method with
    | none =>
      rw [outcome_dispatch_of_not_call hparse] at h
      cases h
      exact .notACall hparse
    | some call =>
      cases hgate : Admission.ofGate call.gate args with
      | declined gate significance =>
        rw [outcome_dispatch_of_declined hparse hgate] at h
        cases h
        exact .declined hparse hgate
      | admitted flip rest =>
        rw [outcome_dispatch_of_admitted hparse hgate] at h
        obtain ⟨found, hfound, h⟩ := bind_ok_iff.1 h
        exact .admitted hparse hgate hfound h
  · intro h
    cases h with
    | notACall hparse => exact outcome_dispatch_of_not_call hparse
    | declined hparse hgate => exact outcome_dispatch_of_declined hparse hgate
    | admitted hparse hgate hfound hsettle =>
      rw [outcome_dispatch_of_admitted hparse hgate]
      exact bind_ok_iff.2 ⟨_, hfound, hsettle⟩

end Level

/-- A draft that is one token comes to what the token is found to be. -/
theorem Draft.outcome_resolve_name {find : String → Traced (Option Condition)} {token : String}
    {x : Except Fault Condition} (h : (find token).outcome = some <$> x) :
    ((name token).resolve find).outcome = x := by
  rw [resolve, Traced.outcome_bind, h, bind_map_left]
  exact bind_pure x

end Criteria
