import Criteria.Proofs.Expansion.Provenance
import Criteria.Samples

/-!
# Handlers and their tokens

A model hands out the definition of a condition against its token only. What compiles conditions is
therefore a handler: a query and a token, which it presents whenever it asks for a definition. A
handler is made for a query with the token of this query; it is taken along from level to level, and
for a related query another one is made. The operations are those of a level once more, except that
the token is part of what they work on, and that how definitions are handed out is a parameter.

Main statement: handlers that are made for a query ask for no definition but those that exist, and
for those against the right token, so that none is refused, and the only references that are left
unresolved are such to conditions on related tables (`Handler.perform_new`).
-/

namespace Criteria

/-- What compiles conditions for a query: the token is presented for its definitions. -/
structure Handler (κ : Type) where
  query : Query κ
  token : Token

/-- How definitions are handed out: of a query, by the name of the condition, for arguments, against
a token. -/
abbrev Definitions (κ : Type) := Query κ → String → List Json → Token → Except Fault Draft

/-- The operations of handlers on one level. -/
structure Stage (κ : Type) where
  /-- The number of levels above. -/
  depth : Nat
  /-- The condition that a draft is for the query of a handler. -/
  expand : Handler κ → Draft → Traced Condition
  /-- The condition that the query of a handler defines under a name, for arguments. -/
  direct : Handler κ → String → List Json → Traced (Option Condition)
  /-- The outcome of a call of a method of the query of a handler. -/
  call : Handler κ → String → List Json → Traced (Outcome κ)

namespace Handler

variable {κ : Type}

/-- The handler for a query, with the token that the query gives. -/
def new (q : Query κ) : Handler κ := ⟨q, q.token⟩

/-- The token is that of the query. -/
def IsEntitled (h : Handler κ) : Prop := h.token = h.query.token

theorem isEntitled_new (q : Query κ) : (new q).IsEntitled := rfl

end Handler

/-- Against the right token the definitions that exist are handed out as the model has them. What is
said to anything else is left open. -/
def Definitions.AreProper {κ : Type} [Computed κ] (ask : Definitions κ) : Prop :=
  ∀ q name args, q.defines name = true →
    ask q name args q.token = q.definition name args q.token

/-! ## The operations of handlers -/

namespace Stage

variable {κ : Type} (ask : Definitions κ) (below : Unit → Option (Stage κ))

/-- The level below, for the sake of a name. -/
def descend (q : Query κ) (name : String) : Traced (Stage κ) :=
  match below () with
  | some stage => pure stage
  | none => .fail (.tooDeep name q.schema.maxDepth)

/-- What a name in a draft refers to, expanded by the same handler on the level below. -/
def find (h : Handler κ) (token : String) : Traced (Option Condition) :=
  match Reference.parse? token with
  | none => return none
  | some reference =>
    if h.query.defines reference.name then do
      let stage ← descend below h.query reference.name
      .note (.expandingDirect token stage.depth)
      let draft ← Traced.ofExcept (ask h.query reference.name reference.values h.token)
      let c ← stage.expand h draft
      return some c
    else if reference.isRelation then do
      let stage ← descend below h.query reference.name
      .note (.expandingRelation token stage.depth)
      let outcome ← stage.call h (reference.name ++ "Condition") reference.values
      let draft ← outcome.draft token
      let c ← stage.expand h draft
      return some c
    else return none

/-- A condition of the query itself. -/
def defined (h : Handler κ) (name : String) (args : List Json) : Traced (Option Condition) :=
  if h.query.defines name then do
    let draft ← Traced.ofExcept (ask h.query name args h.token)
    let stage ← descend below h.query name
    let c ← stage.expand h draft
    return some c
  else return none

/-- Merges the named conditions of a related query into it. Each is asked for by a handler of its
own. -/
def applyNames (args : List Json) : List String → Query κ → Traced (Query κ)
  | [], q => return q
  | name :: rest, q => do
    let stage ← descend below q name
    match ← stage.direct (.new q) name args with
    | some c => do
      let q ← Traced.ofExcept (q.merge c .and)
      applyNames args rest q
    | none => applyNames args rest q

/-- Restricts a related query by the conditions that the residual words name or, without such words,
by the draft that is the first argument, which a handler of its own expands. -/
def applyResidual (q : Query κ) (relation : String) (words : List Word) (args : List Json) :
    Traced (Option (Query κ)) :=
  if words.isEmpty then
    match args with
    | [] => return some q
    | first :: rest => do
      if !rest.isEmpty then .note (.ignoredArguments relation rest.length)
      let stage ← descend below q relation
      let c ← stage.expand (.new q) (.ofJson first)
      let q ← Traced.ofExcept (q.merge c .and)
      return some q
  else
    let grouping := Grouping.ofWords q.defines words
    match grouping.rest with
    | [] => do
      let q ← applyNames below args grouping.names q
      return some q
    | first :: rest => do
      .note (.unmatchedWords (Word.join (first :: rest)) first.start)
      .note (.residualUnknown relation)
      return none

/-- A condition on a related table. -/
def related (h : Handler κ) (base : String) (args : List Json) : Traced (Option Condition) :=
  let split := RelationSplit.ofBase h.query.hasRelation base
  match split.relation with
  | none => do
    .note (.noRelation base)
    return none
  | some relation => do
    match ← Traced.ofExcept (h.query.relation? relation) with
    | none => return none
    | some metadata => do
      .note (.resolvedRelation relation (split.residual.map (·.text)))
      let binding ← Binding.prepare h.query relation metadata
      match ← applyResidual below binding.target relation split.residual args with
      | none => return none
      | some target => do
        let c ← Traced.ofExcept { binding with target := target }.condition
        return some c

/-- The condition that the base of a call names. -/
def baseCondition (h : Handler κ) (call : Call) (args : List Json) : Traced (Option Condition) :=
  if call.isRelation then related below h call.base args
  else defined ask below h call.base args

/-- A call of a method: its gate, its condition, and what is done with it. -/
def dispatch (h : Handler κ) (method : String) (args : List Json) : Traced (Outcome κ) :=
  match Call.parse? method with
  | none => do
    .note (.notACall method)
    return .notApplicable
  | some call => do
    .note (.parsedCall method call)
    match Admission.ofGate call.gate args with
    | .declined gate significance => do
      .note (.declined method gate significance)
      return .query h.query
    | .admitted flip args => do
      match ← baseCondition ask below h call args with
      | some c => h.query.finish c ⟨call.connective, call.negate != flip, call.conditionOnly⟩
      | none => do
        .note (.noCondition method call.base)
        return .notApplicable

/-- The level above a level, or above none. -/
def above (depth : Nat) : Stage κ where
  depth := depth
  expand h draft := draft.resolve (find ask below h)
  direct := defined ask below
  call := dispatch ask below

/-- The level with `room` levels below it, of `limit` in all. -/
def ofRoom (limit : Nat) : Nat → Stage κ
  | 0 => above ask (fun _ => none) limit
  | room + 1 => above ask (fun _ => some (ofRoom limit room)) (limit - (room + 1))

end Stage

/-- What can be asked for. -/
inductive Operation
  | expand (d : Draft)
  | call (method : String) (args : List Json)
  | filterWith (d : Draft) (options : Options)
  | mergeDraft (d : Draft) (connective : Connective)

/-- The outcome of an operation of a query. -/
def Query.perform {κ : Type} [Computed κ] (q : Query κ) : Operation → Traced (Outcome κ)
  | .expand d => Outcome.condition <$> q.expand d
  | .call method args => q.call method args
  | .filterWith d options => q.filterWith d options
  | .mergeDraft d connective => Outcome.query <$> q.mergeDraft d connective

/-- The outcome of an operation of a handler on the topmost level. -/
def Handler.perform {κ : Type} (ask : Definitions κ) (h : Handler κ) :
    Operation → Traced (Outcome κ) :=
  let limit := h.query.schema.maxDepth
  let stage := Stage.ofRoom ask limit limit
  fun
  | .expand d => Outcome.condition <$> stage.expand h d
  | .call method args => stage.call h method args
  | .filterWith d options => do
    let c ← stage.expand h d
    h.query.finish c options
  | .mergeDraft d connective => do
    let c ← stage.expand h d
    let q ← Traced.ofExcept (h.query.merge c connective)
    return .query q

/-! ## Handlers with the right token -/

namespace Stage

variable {α κ : Type}

/-- The operations of handlers with the right token are those of a level. -/
structure Agrees (stage : Stage κ) (level : Level κ) : Prop where
  depth : stage.depth = level.depth
  expand {h : Handler κ} (hentitled : h.IsEntitled) (d : Draft) :
    stage.expand h d = level.expand h.query d
  direct {h : Handler κ} (hentitled : h.IsEntitled) (name : String) (args : List Json) :
    stage.direct h name args = level.direct h.query name args
  call {h : Handler κ} (hentitled : h.IsEntitled) (method : String) (args : List Json) :
    stage.call h method args = level.call h.query method args

variable {below : Unit → Option (Stage κ)} {below' : Unit → Option (Level κ)}
  (hbelow : Option.Rel Agrees (below ()) (below' ()))

include hbelow in
theorem descend_bind_eq (q : Query κ) (name : String) {f : Stage κ → Traced α}
    {g : Level κ → Traced α} (hfg : ∀ stage level, stage.Agrees level → f stage = g level) :
    descend below q name >>= f = Level.descend below' q name >>= g := by
  unfold descend Level.descend
  generalize below () = stage? at hbelow ⊢
  generalize below' () = level? at hbelow ⊢
  cases hbelow with
  | some hagrees =>
    rw [pure_bind, pure_bind]
    exact hfg _ _ hagrees
  | none =>
    have hfail : ∀ {β : Type} (fault : Fault) (k : β → Traced α),
        Traced.fail fault >>= k = .fail fault := fun _ k => Traced.bind_of_error rfl k
    exact (hfail _ f).trans (hfail _ g).symm

include hbelow in
/-- The handlers for a related query are made with its token, whatever is merged into it. -/
theorem applyNames_eq (args : List Json) (names : List String) (q : Query κ) :
    applyNames below args names q = Level.applyNames below' args names q := by
  induction names generalizing q with
  | nil => rfl
  | cons name rest ih =>
    rw [applyNames, Level.applyNames]
    apply descend_bind_eq hbelow
    intro stage level hagrees
    rw [hagrees.direct (Handler.isEntitled_new q)]
    refine bind_congr fun found => ?_
    cases found with
    | none => exact ih q
    | some c => exact bind_congr fun merged => ih merged

include hbelow in
theorem applyResidual_eq (q : Query κ) (relation : String) (words : List Word)
    (args : List Json) :
    applyResidual below q relation words args =
      Level.applyResidual below' q relation words args := by
  unfold applyResidual Level.applyResidual
  split
  · cases args with
    | nil => rfl
    | cons first rest =>
      have hdraft : (do
          let stage ← descend below q relation
          let c ← stage.expand (.new q) (.ofJson first)
          let merged ← Traced.ofExcept (q.merge c .and)
          return some merged : Traced (Option (Query κ))) = (do
          let level ← Level.descend below' q relation
          let c ← level.expand q (.ofJson first)
          let merged ← Traced.ofExcept (q.merge c .and)
          return some merged) := by
        apply descend_bind_eq hbelow
        intro stage level hagrees
        rw [hagrees.expand (Handler.isEntitled_new q)]
        rfl
      dsimp only
      rw [hdraft]
  · dsimp only
    rewrite [applyNames_eq hbelow]
    rfl

include hbelow in
theorem related_eq (h : Handler κ) (base : String) (args : List Json) :
    related below h base args = Level.related below' h.query base args := by
  have happly : applyResidual below = Level.applyResidual below' := by
    funext q relation words args
    exact applyResidual_eq hbelow q relation words args
  unfold related Level.related
  rewrite [happly]
  rfl

variable [Computed κ] {ask : Definitions κ} (hask : ask.AreProper)

include hbelow hask in
/-- A handler with the right token reads the definitions that the query itself does. -/
theorem find_eq {h : Handler κ} (hentitled : h.IsEntitled) (token : String) :
    find ask below h token = Level.find below' h.query token := by
  unfold find Level.find
  cases Reference.parse? token with
  | none => rfl
  | some reference =>
    dsimp only
    split
    · next hdefines =>
      apply descend_bind_eq hbelow
      intro stage level hagrees
      have hread := hask h.query reference.name reference.values hdefines
      rw [hagrees.depth, hentitled, hread]
      refine bind_congr fun _ => bind_congr fun draft => ?_
      rw [hagrees.expand hentitled]
    · split
      · apply descend_bind_eq hbelow
        intro stage level hagrees
        rw [hagrees.depth, hagrees.call hentitled]
        refine bind_congr fun _ => bind_congr fun outcome => ?_
        cases outcome with
        | condition c => simp only [Outcome.draft, pure_bind, hagrees.expand hentitled]
        | query _ => simp only [Outcome.draft, pure_bind, hagrees.expand hentitled]
        | notApplicable => exact Traced.bind_of_error rfl _
      · rfl

include hbelow hask in
theorem defined_eq {h : Handler κ} (hentitled : h.IsEntitled) (name : String) (args : List Json) :
    defined ask below h name args = Level.defined below' h.query name args := by
  unfold defined Level.defined
  split
  · next hdefines =>
    rw [hentitled, hask h.query name args hdefines]
    refine bind_congr fun draft => ?_
    apply descend_bind_eq hbelow
    intro stage level hagrees
    rw [hagrees.expand hentitled]
  · rfl

include hbelow hask in
theorem dispatch_eq {h : Handler κ} (hentitled : h.IsEntitled) (method : String)
    (args : List Json) :
    dispatch ask below h method args = Level.dispatch below' h.query method args := by
  have hbase : baseCondition ask below h = Level.baseCondition below' h.query := by
    funext call args
    unfold baseCondition Level.baseCondition
    rw [related_eq hbelow, defined_eq hbelow hask hentitled]
  unfold dispatch Level.dispatch
  rewrite [hbase]
  rfl

include hbelow hask in
theorem agrees_above (depth : Nat) : (above ask below depth).Agrees (.above below' depth) where
  depth := rfl
  expand {h} hentitled d := by
    have hfind : find ask below h = Level.find below' h.query :=
      funext (find_eq hbelow hask hentitled)
    show d.resolve (find ask below h) = d.resolve (Level.find below' h.query)
    rw [hfind]
  direct := defined_eq hbelow hask
  call := dispatch_eq hbelow hask

include hask in
/-- On every level handlers with the right token do what the level does. -/
theorem agrees_ofRoom (limit room : Nat) : (ofRoom ask limit room).Agrees (.ofRoom limit room) := by
  induction room with
  | zero => exact agrees_above .none hask limit
  | succ room ih => exact agrees_above (.some ih) hask (limit - (room + 1))

end Stage

theorem Query.areProper_definition {κ : Type} [Computed κ] :
    Definitions.AreProper (Query.definition : Definitions κ) := fun _ _ _ _ => rfl

/-- A handler that is made for a query does what the query does. -/
theorem Handler.perform_eq {κ : Type} [Computed κ] {ask : Definitions κ} (hask : ask.AreProper)
    (q : Query κ) (op : Operation) : (new q).perform ask op = q.perform op := by
  have hagrees := Stage.agrees_ofRoom hask q.schema.maxDepth q.schema.maxDepth
  have hlevel : Level.ofRoom q.schema.maxDepth q.schema.maxDepth = q.level := rfl
  have hquery : (new q).query = q := rfl
  have hnew := isEntitled_new q
  rw [hlevel] at hagrees
  unfold perform
  simp only [hquery]
  cases op with
  | expand d =>
    dsimp only
    rw [hagrees.expand hnew]
    rfl
  | call method args => exact hagrees.call hnew method args
  | filterWith d options =>
    dsimp only
    rw [hagrees.expand hnew]
    rfl
  | mergeDraft d connective =>
    dsimp only
    rw [hagrees.expand hnew]
    unfold Query.perform Query.mergeDraft
    simp only [map_bind, bind_pure_comp]
    rfl

/-! ## What is refused and what is not found -/

/-- The fault is that a definition is refused, or that something is not found. -/
def Fault.IsLookup : Fault → Prop
  | .wrongToken _ | .unresolved _ => True
  | _ => False

theorem Schema.query_error {κ : Type} {s : Schema κ} {model : String} {fault : Fault}
    (h : s.query model = .error fault) : ¬ fault.IsLookup := by
  unfold query at h
  split at h
  · cases h
  · cases h
    exact id

namespace Query

variable {κ : Type} [Computed κ] {q : Query κ} {fault : Fault}

/-- No code of the conditions of the model fails as a look-up does. -/
def CodeLooksNothingUp (q : Query κ) : Prop :=
  ∀ name code args fault, q.model.conditions.get? name = some (.computed code) →
    Computed.draft code q args = .error fault → ¬ fault.IsLookup

/-- The token refers to a condition on a related table, and to no condition of the query. -/
def LeavesOpen (q : Query κ) (token : String) : Prop :=
  ∃ reference, Reference.parse? token = some reference ∧ reference.isRelation = true ∧
    q.defines reference.name = false

/-- The look-up of a definition that exists, against the right token, fails for its code alone. -/
theorem not_isLookup_of_definition (hcode : q.CodeLooksNothingUp) {name : String}
    {args : List Json} (hdefines : q.defines name = true)
    (h : q.definition name args q.token = .error fault) : ¬ fault.IsLookup := by
  unfold definition at h
  rw [if_pos rfl] at h
  split at h
  · cases h
  · next code hget => exact hcode name code args fault hget h
  · next hget =>
    have helements : name = elementsName := by
      unfold defines Dict.has at hdefines
      rw [hget] at hdefines
      simpa using hdefines
    rw [if_pos helements] at h
    cases h

theorem fails_of_perform {op : Operation} (h : (q.perform op).outcome = .error fault) :
    q.Fails fault := by
  cases op with
  | expand d => exact .expand d (Traced.map_error_iff.1 h)
  | call method args => exact .call method args h
  | filterWith d options => exact .filterWith d options h
  | mergeDraft d connective => exact .mergeDraft d connective (Traced.map_error_iff.1 h)

omit [Computed κ] in
theorem pivotQuery_error {name : String} {pivot : Pivot}
    (h : q.pivotQuery name pivot = .error fault) : ¬ fault.IsLookup := by
  cases pivot with
  | table table links => cases h
  | relation via =>
    unfold pivotQuery at h
    dsimp only at h
    split at h
    · cases h
      exact id
    · rcases bind_error_iff.1 h with h | ⟨_, -, h⟩
      · exact Schema.query_error h
      · cases h

omit [Computed κ] in
theorem relation?_error {name : String} (h : q.relation? name = .error fault) :
    ¬ fault.IsLookup := by
  unfold relation? at h
  split at h
  · cases h
  · next r _ =>
    rcases bind_error_iff.1 h with h | ⟨target, -, h⟩
    · exact Schema.query_error h
    · split at h
      · cases h
      · next pivot _ =>
        rcases bind_error_iff.1 h with h | ⟨_, -, h⟩
        · exact pivotQuery_error h
        · cases h

/-- A look-up fails where a reference to a condition on a related table is left open. -/
theorem Origin.exists_of_isLookup (hcode : q.CodeLooksNothingUp) (h : q.Origin fault)
    (hlookup : fault.IsLookup) : ∃ token, fault = .unresolved token ∧ q.LeavesOpen token := by
  cases h with
  | limit name => cases hlookup
  | sql cause => cases hlookup
  | definition hdefines h => exact absurd hlookup (not_isLookup_of_definition hcode hdefines h)
  | token hparse hrelation hdefines => exact ⟨_, rfl, _, hparse, hrelation, hdefines⟩
  | relation h => exact absurd hlookup (relation?_error h)
  | link hrelation h =>
    rcases Binding.prepare_error h with ⟨rfl, -⟩ | ⟨rfl, -⟩
    · cases hlookup
    · cases hlookup

end Query

/-- Handlers that are made for a query do what the query does, whatever is said to a wrong token or
about a definition that does not exist: nobody asks. No definition is refused, therefore, and what
is left unresolved is a reference to a condition on a related table, at a query without a condition
of that name. -/
theorem Handler.perform_new {κ : Type} [Computed κ] (q : Query κ) (op : Operation) :
    (∀ ask : Definitions κ, ask.AreProper → (new q).perform ask op = q.perform op) ∧
    ((∀ q', q.Visits q' → q'.CodeLooksNothingUp) → ∀ fault,
      ((new q).perform Query.definition op).outcome = .error fault →
      (∀ name, fault ≠ .wrongToken name) ∧
      ∀ token, fault = .unresolved token → ∃ q', q.Visits q' ∧ q'.LeavesOpen token) := by
  refine ⟨fun ask hask => perform_eq hask q op, fun hcode fault h => ?_⟩
  rw [perform_eq Query.areProper_definition] at h
  obtain ⟨q', hvisits, horigin⟩ := Query.raises_of_fails (Query.fails_of_perform h)
  have hopen := horigin.exists_of_isLookup (hcode q' hvisits)
  constructor
  · rintro name rfl
    obtain ⟨token, htoken, -⟩ := hopen trivial
    cases htoken
  · rintro token rfl
    obtain ⟨token', htoken, hleaves⟩ := hopen trivial
    cases htoken
    exact ⟨q', hvisits, hleaves⟩

namespace Samples

/-- Posts and their authors. An author is lost if there is a stranger, which is a condition of posts
but not of authors. -/
def strangers : Query Empty :=
  let posts := ((Model.new "Post" "posts").template "withStranger" (.bool true)).relation "author"
    (.direct "Author" "id" "author_id")
  ⟨schemaOf [posts, (Model.new "Author" "authors").template "lost" (.text "withStranger")], posts,
    none⟩

/-- The posts of lost authors cannot be found. The token of the posts would not have done for the
authors, but what fails is the reference to strangers, and that at the authors. -/
theorem leavesOpen_strangers :
    ((Handler.new strangers).perform Query.definition
      (.call "withAuthorLostCondition" [])).outcome = .error (.unresolved "withStranger") ∧
    ∃ q', strangers.Visits q' ∧ q'.LeavesOpen "withStranger" := by
  have hcode : ∀ q', strangers.Visits q' → q'.CodeLooksNothingUp := by
    intro q' _ name code
    cases code
  have hfault : ((Handler.new strangers).perform Query.definition
      (.call "withAuthorLostCondition" [])).outcome = .error (.unresolved "withStranger") := rfl
  obtain ⟨-, hfaults⟩ := Handler.perform_new strangers (.call "withAuthorLostCondition" [])
  exact ⟨hfault, (hfaults hcode _ hfault).2 _ rfl⟩

/-- A handler of the posts that kept another token would be refused. -/
example : (Handler.perform Query.definition ⟨strangers, ⟨"Author"⟩⟩
    (.expand (.name "withStranger"))).outcome = .error (.wrongToken "withStranger") := rfl

end Samples

end Criteria
