import Criteria.Proofs.Call.Base
import Criteria.Proofs.Expansion.Limit
import Criteria.Proofs.Expansion.Reach

/-!
# References to related tables

A word such as `withAuthorName` in a draft is resolved by the call of `withAuthorNameCondition`, one
level below, and what comes of the call is expanded once more. Main statement: the word is never
left as it is, and if it names no condition of the query itself, the draft comes to what the call
comes to when it is made on its own (`Query.resolvesAsCalled`). A condition of the query takes
precedence over a related one in a draft but not in a call, and a condition named `not` takes the
place of the operator (`Samples.not_resolvesAsCalled`).
-/

namespace Criteria

/-- The condition that a token comes to if the call that it stands for ends in this way. -/
def Outcome.resolved {κ : Type} (token : String) : Outcome κ → Except Fault Condition
  | condition c => .ok c
  | query _ => .ok .empty
  | notApplicable => .error (.unresolved token)

namespace Reference

/-- The name is `with`, a capital, and at least one more word character. -/
theorem isRelation_iff {r : Reference} : r.isRelation = true ↔
    ∃ c tail, r.name.toList = "with".toList ++ c :: tail ∧ Text.isCapital c = true ∧ tail ≠ [] ∧
      ∀ d ∈ tail, Text.isWord d = true := by
  unfold isRelation
  constructor
  · intro h
    split at h
    · next c d rest hname =>
      rw [Bool.and_eq_true, List.all_eq_true] at h
      exact ⟨c, d :: rest, hname, h.1, List.cons_ne_nil d rest, h.2⟩
    · cases h
  · rintro ⟨c, tail, hname, hc, htail, hword⟩
    obtain ⟨d, rest, rfl⟩ := List.exists_cons_of_ne_nil htail
    rw [hname]
    show (Text.isCapital c && (d :: rest).all Text.isWord) = true
    rw [hc, List.all_eq_true.2 hword, Bool.and_self]

theorem isName_of_isRelation {r : Reference} (h : r.isRelation = true) :
    Text.IsName r.name.toList := by
  obtain ⟨c, tail, hname, hc, -, hword⟩ := isRelation_iff.1 h
  rw [hname]
  refine ⟨List.append_ne_nil_of_left_ne_nil (by decide) _, fun d hd => ?_⟩
  rcases List.mem_append.1 hd with hd | hd
  · have hwith : "with".toList.all Text.isWord = true := by decide +kernel
    exact List.all_eq_true.1 hwith d hd
  · rcases List.mem_cons.1 hd with rfl | hd
    · exact Text.isWord_of_isCapital hc
    · exact hword d hd

end Reference

namespace Query

variable {κ : Type} [Computed κ] {q : Query κ}

/-- A reference comes to what the call of its name comes to. -/
def ResolvesAsCalled (q : Query κ) (r : Reference) : Prop :=
  (q.expand (.name r.token)).outcome = (do
    let outcome ← (q.call (r.name ++ "Condition") r.values).outcome
    outcome.resolved r.token)

/-- Nothing is another schema under the limit that it has. -/
theorem codeIgnoresLimit_self (q : Query κ) : q.CodeIgnoresLimit q.schema.maxDepth := by
  intro q₀ hq _ code args _
  have hsame : q₀.withLimit q.schema.maxDepth = q₀ := by
    rw [← hq.schema]
    rfl
  rw [hsame]

end Query

namespace Level

variable {κ : Type} [Computed κ] {q : Query κ} {token : String}

/-- A call that does not meet the limit on one level ends in the same way on the level above. -/
theorem outcome_call_of_lower {room : Nat} (hroom : q.schema.maxDepth = room + 1) (method : String)
    (args : List Json) :
    ((ofRoom (room + 1) room).call q method args).MeetsLimit (room + 1) ∨
      (q.call method args).outcome = Outcome.map (Query.withLimit (room + 1)) <$>
        ((ofRoom (room + 1) room).call q method args).outcome := by
  have hcode : q.CodeIgnoresLimit (room + 1) := by
    rw [← hroom]
    exact q.codeIgnoresLimit_self
  have hcut := (cutOff_ofRoom hcode (room + 1) (room + 1) room 1).call (.refl q) method args
  have hsame : q.withLimit (room + 1) = q := by
    rw [← hroom]
    rfl
  have hlevel : q.level = ofRoom (room + 1) (room + 1) := by
    unfold Query.level atDepth
    rw [hroom, Nat.sub_zero]
  unfold Query.call
  rw [hroom, hsame] at hcut
  rw [hlevel]
  exact hcut

/-- The condition that a call hands back is normal, unless the call negates it and the query has a
condition under the name of the operator. -/
theorem isNormal_of_dispatch {below : Unit → Option (Level κ)} {method : String}
    {args : List Json} {c : Condition}
    (hbelow : ∀ level, below () = some level → level.Normalizes)
    (h : (dispatch below q method args).outcome = .ok (.condition c))
    (hnot : ∀ found, c = Condition.negated found → q.defines "not" = false) : c.IsNormal q := by
  obtain ⟨call, flip, rest, found, -, -, hfound, hfinish⟩ := dispatch_ok_condition h
  intro token hmem
  rcases Query.looseOperands_finish hfinish token hmem with hmem | ⟨rfl, hnegate⟩
  · exact isNormal_baseCondition hbelow hfound token hmem
  · have hc : c = found.negated := by
      rw [Query.finish_ok_condition hfinish, if_pos hnegate]
    have hparse : Reference.parse? "not" = some ⟨"not", []⟩ := by decide
    unfold Query.refers
    rw [hparse]
    simp [hnot found hc, Reference.isRelation]

/-- A reference to a related table is the call of its name on the level below, and what comes of
the call expanded there. -/
theorem outcome_expand_of_isRelation {room : Nat} (hroom : q.schema.maxDepth = room + 1)
    {r : Reference} (hparse : Reference.parse? r.token = some r) (hrelation : r.isRelation = true)
    (hdefines : q.defines r.name = false) :
    (q.expand (.name r.token)).outcome = (do
      let outcome ← ((ofRoom (room + 1) room).call q (r.name ++ "Condition") r.values).outcome
      let draft ← (outcome.draft r.token).outcome
      ((ofRoom (room + 1) room).expand q draft).outcome) := by
  have hrefers : (q.defines r.name || r.isRelation) = true := by
    rw [hrelation, Bool.or_true]
  have hlevel : beneath q.schema.maxDepth q.schema.maxDepth () =
      some (ofRoom (room + 1) room : Level κ) := by
    rw [hroom]
    rfl
  rw [Query.expand_eq_resolve]
  refine Draft.outcome_resolve_name ?_
  rw [find_of_refers hparse hrefers, descend_of_some hlevel, pure_bind]
  unfold referent
  simp only [hdefines, Bool.false_eq_true, if_false, Traced.outcome_bind, Traced.outcome_note,
    Traced.outcome_map, bind_assoc, map_bind]
  rfl

/-- What a call hands back on a level is left as it is when that level expands it once more. -/
theorem outcome_expand_draft {limit room : Nat} {method : String} {args : List Json}
    {outcome : Outcome κ} (h : ((ofRoom limit room).call q method args).outcome = .ok outcome)
    (hnot : ∀ c, outcome = .condition (.negated c) → q.defines "not" = false) (token : String) :
    (do
      let draft ← (outcome.draft token).outcome
      ((ofRoom limit room).expand q draft).outcome) = outcome.resolved token := by
  cases outcome with
  | condition c =>
    have hnormal : c.IsNormal q := by
      rw [ofRoom_eq_above] at h
      refine isNormal_of_dispatch (forall_beneath (normalizes_ofRoom limit) room) h ?_
      rintro found rfl
      exact hnot found rfl
    show ((ofRoom limit room).expand q c.toDraft).outcome = .ok c
    rw [expand_toDraft hnormal limit room]
    rfl
  | query _ =>
    show ((ofRoom limit room).expand q (.map [])).outcome = .ok .empty
    rw [ofRoom_eq_above]
    rfl
  | notApplicable => rfl

/-- A token that refers to something takes a level. -/
theorem exists_room_of_refers (hrefers : q.refers token = true)
    (hlimit : ¬ (q.expand (.name token)).MeetsLimit q.schema.maxDepth) :
    ∃ room, q.schema.maxDepth = room + 1 := by
  refine Nat.exists_eq_succ_of_ne_zero fun hzero => hlimit ?_
  obtain ⟨r, hparse, href⟩ := Query.refers_eq_true_iff.1 hrefers
  have hnone : beneath q.schema.maxDepth q.schema.maxDepth () = (none : Option (Level κ)) := by
    rw [hzero]
    rfl
  refine ⟨r.name, ?_⟩
  rw [Query.expand_eq_resolve, Draft.resolve, find_of_refers hparse href, descend_of_none hnone]
  rfl

end Level

namespace Query

variable {κ : Type} [Computed κ] {q : Query κ} {r : Reference}

omit [Computed κ] in
theorem refers_of_isRelation {token : String} (hparse : Reference.parse? token = some r)
    (hrelation : r.isRelation = true) : q.refers token = true := by
  refine refers_eq_true_iff.2 ⟨r, hparse, ?_⟩
  rw [hrelation, Bool.or_true]

theorem resolvesAsCalled_of_not_meetsLimit (hparse : Reference.parse? r.token = some r)
    (hrelation : r.isRelation = true) (hdefines : q.defines r.name = false)
    (hlimit : ¬ (q.expand (.name r.token)).MeetsLimit q.schema.maxDepth)
    (hnot : ∀ c, (q.call (r.name ++ "Condition") r.values).outcome =
      .ok (.condition (.negated c)) → q.defines "not" = false) : q.ResolvesAsCalled r := by
  obtain ⟨room, hroom⟩ := Level.exists_room_of_refers (refers_of_isRelation hparse hrelation) hlimit
  have hexpand := Level.outcome_expand_of_isRelation hroom hparse hrelation hdefines
  rcases Level.outcome_call_of_lower hroom (r.name ++ "Condition") r.values with
    ⟨name, hname⟩ | hcall
  · -- what the call meets on the level below, the reference meets as well
    have hmeets : (q.expand (.name r.token)).MeetsLimit q.schema.maxDepth := by
      refine ⟨name, ?_⟩
      rw [hexpand, hname, hroom]
      rfl
    exact absurd hmeets hlimit
  · unfold ResolvesAsCalled
    rw [hexpand, hcall]
    rw [hcall] at hnot
    cases hlower : ((Level.ofRoom (room + 1) room).call q (r.name ++ "Condition")
        r.values).outcome with
    | error fault => rfl
    | ok outcome =>
      rw [hlower] at hnot
      have hagain : ∀ c, outcome = .condition (.negated c) → q.defines "not" = false := by
        rintro c rfl
        exact hnot c rfl
      refine (Level.outcome_expand_draft hlower hagain r.token).trans ?_
      cases outcome <;> rfl

theorem expand_ne_operand {token : String} (hrefers : q.refers token = true) :
    (q.expand (.name token)).outcome ≠ .ok (.operand token) := by
  intro hoperand
  have hnormal : (Condition.operand token).IsNormal q :=
    Level.normalizes_ofRoom _ _ q _ _ hoperand
  have hfalse := hnormal token (List.mem_singleton.2 rfl)
  rw [hrefers] at hfalse
  cases hfalse

/-- A reference to a related table is never left as it is. Unless the query has a condition of its
name, it comes to what the call of its name comes to, if it does not meet the limit on its way, and
the call does not negate a condition while the query has one under the name of the operator. -/
theorem resolvesAsCalled (q : Query κ) (r : Reference)
    (hword : ∃ c tail, r.name.toList = "with".toList ++ c :: tail ∧ Text.isCapital c = true ∧
      tail ≠ [] ∧ ∀ d ∈ tail, Text.isWord d = true)
    (hargs : ∀ arg ∈ r.args, Reference.IsInline arg) :
    (q.expand (.name r.token)).outcome ≠ .ok (.operand r.token) ∧
    (q.defines r.name = false →
      ¬ (q.expand (.name r.token)).MeetsLimit q.schema.maxDepth →
      (∀ c, (q.call (r.name ++ "Condition") r.values).outcome =
        .ok (.condition (.negated c)) → q.defines "not" = false) →
      q.ResolvesAsCalled r) := by
  have hrelation : r.isRelation = true := Reference.isRelation_iff.2 hword
  have hparse : Reference.parse? r.token = some r :=
    Reference.parse?_token (Reference.isName_of_isRelation hrelation) hargs
  exact ⟨expand_ne_operand (refers_of_isRelation hparse hrelation),
    resolvesAsCalled_of_not_meetsLimit hparse hrelation⟩

end Query

namespace Samples

/-- Orders by the price of their products, from a draft. -/
theorem resolvesAsCalled_withProductsCheaperThan :
    (orders 3).defines "withProductsCheaperThan" = false ∧
    ((orders 3).call "withProductsCheaperThanCondition" [.text "5"]).outcome.isOk = true ∧
    (orders 3).ResolvesAsCalled ⟨"withProductsCheaperThan", ["5"]⟩ := by
  have hword : ∃ c tail, "withProductsCheaperThan".toList = "with".toList ++ c :: tail ∧
      Text.isCapital c = true ∧ tail ≠ [] ∧ ∀ d ∈ tail, Text.isWord d = true :=
    ⟨'P', "roductsCheaperThan".toList, by decide, by decide, by decide,
      List.all_eq_true.1 (by decide +kernel)⟩
  have hargs : ∀ arg ∈ ["5"], Reference.IsInline arg := by
    intro arg harg
    cases List.mem_singleton.1 harg
    exact ⟨by decide, by decide⟩
  have hresolves := Query.resolvesAsCalled (orders 3) ⟨"withProductsCheaperThan", ["5"]⟩ hword
    hargs
  refine ⟨rfl, by decide +kernel, hresolves.2 rfl ?_ fun _ _ => rfl⟩
  rintro ⟨name, hname⟩
  have hok : ((orders 3).expand (.name
      (Reference.token ⟨"withProductsCheaperThan", ["5"]⟩))).outcome.isOk = true := by
    decide +kernel
  rw [hname] at hok
  cases hok

/-- Posts with a condition that is named like one on a related table, with one that is named like an
operator, and with a relation of one letter. -/
def contrary : Query Empty :=
  let model : Model Empty :=
    (((((Model.new "Post" "posts").template "withEditor" (equals "posts.editor_id" (int 7))
      ).template "not" (equals "posts.hidden" (.bool true))
      ).relation "author" (.direct "Author" "id" "author_id")
      ).relation "editor" (.direct "Author" "id" "editor_id")
      ).relation "a" (.direct "Author" "id" "author_id")
  ⟨schemaOf [model, Model.new "Author" "authors"], model, none⟩

/-- A reference does not always come to what the call of its name comes to, though neither meets
the limit: not if the query has a condition of this name, not if the call negates and there is a
condition `not`, and not if a single letter follows `with`, where the name is left as it is. -/
theorem not_resolvesAsCalled :
    (∀ r ∈ [⟨"withEditor", []⟩, ⟨"withAuthorBasedOn", ["0"]⟩, ⟨"withA", []⟩],
      (contrary.expand (.name (Reference.token r))).outcome.isOk = true ∧
      (contrary.call (r.name ++ "Condition") r.values).outcome.isOk = true) ∧
    ¬ contrary.ResolvesAsCalled ⟨"withEditor", []⟩ ∧
    ¬ contrary.ResolvesAsCalled ⟨"withAuthorBasedOn", ["0"]⟩ ∧
    ¬ contrary.ResolvesAsCalled ⟨"withA", []⟩ := by
  have hview : ∀ {α : Type} (view : Condition → α) (r : Reference), contrary.ResolvesAsCalled r →
      view <$> (contrary.expand (.name r.token)).outcome.toOption =
        view <$> (do
          let outcome ← (contrary.call (r.name ++ "Condition") r.values).outcome
          outcome.resolved r.token : Except Fault Condition).toOption :=
    fun view r h => congrArg (fun x => view <$> Except.toOption x) h
  refine ⟨by decide +kernel, fun h => ?_, fun h => ?_, fun h => ?_⟩
  · exact absurd (hview Condition.hasQuery _ h) (by decide +kernel)
  · exact absurd (hview Condition.looseOperands _ h) (by decide +kernel)
  · exact absurd (hview Condition.hasQuery _ h) (by decide +kernel)

end Samples

end Criteria
