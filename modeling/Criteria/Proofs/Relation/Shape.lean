import Criteria.Proofs.Condition.Meaning
import Criteria.Proofs.Query
import Criteria.Samples
import Mathlib.Data.List.ReduceOption

/-!
# The shape of a relation condition

A relation condition is a map with one entry: a column of the parent is among those of the related
rows. Which columns are compared, on which tables, and what the related rows are filtered by, is
written down here once (`Path.condition`), apart from the steps by which a level gets there.

Main statements: merging conditions one after another conjoins what they compile to, without a trace
of the empty ones (`Query.addAll_eq_withFilter`); and a relation condition succeeds exactly if
everything that is demanded of the related query is found and compiled, in order, and then it has
that shape (`Level.related_ok_iff`).
-/

namespace Criteria

/-! ## Paths -/

/-- The columns over which a relation leads from the parent to the target: the first pair of each
link. -/
inductive Path (κ : Type)
  | direct (link : Link)
  /-- `link` leads from the parent to the pivot, `remote` from there to the target. -/
  | through (pivot : Query κ) (link remote : Link)

/-- The path of a relation, if none of its links is empty. -/
def Metadata.path? {κ : Type} (metadata : Metadata κ) : Option (Path κ) := do
  let first ← metadata.links.head?
  match metadata.pivot with
  | none => return .direct first
  | some pivot => do
    let link ← pivot.links.head?
    return .through pivot.query link first

/-- How a nested query compares a column from outside of it with a column of its own, if it does. -/
abbrev Join := String → String → Option Sql.Expr

/-- The comparison is embedded as a fragment of SQL. -/
def Join.embedded : Join := fun own foreign => some (.fragment (Binding.equality own foreign))

namespace Path

variable {κ : Type}

/-- The query for a column of the rows of a table that pass some filters. -/
def rows (column table : String) (filters : List (Option Sql.Expr)) : Sql.Select :=
  .select (some (.ofString column)) table (Sql.Expr.all? filters.reduceOption)

/-- The condition that the rows of the parent have a related one that passes some filters. -/
def condition (join : Join) (parent target : Query κ) (filters : List (Option Sql.Expr)) :
    Path κ → Condition
  | direct link =>
    let own := parent.column link.own
    let foreign := target.column link.foreign
    .map [(own, .query (rows foreign target.model.table (join own foreign :: filters)))]
  | through pivot link remote =>
    let own := parent.column link.own
    let pivotForeign := pivot.column link.foreign
    let remoteOwn := pivot.column remote.own
    let remoteForeign := target.column remote.foreign
    let related := rows remoteForeign target.model.table (join remoteOwn remoteForeign :: filters)
    .map [(own, .query (rows pivotForeign pivot.model.table
      [some (.within false (.ofString remoteOwn) related), join own pivotForeign]))]

/-- The query over the target, tied to the table that it is reached from. -/
def tied (parent target : Query κ) : Path κ → Query κ
  | direct link =>
    target.restrict (Binding.equality (parent.column link.own) (target.column link.foreign))
  | through pivot _ remote =>
    target.restrict (Binding.equality (pivot.column remote.own) (target.column remote.foreign))

/-- The columns of the path with their tables. -/
def correlation (parent target : Query κ) : Path κ → Correlation κ
  | direct link => .direct (parent.column link.own) (target.column link.foreign)
  | through pivot link remote =>
    .compound (parent.column link.own) (pivot.column link.foreign) (pivot.column remote.own)
      (target.column remote.foreign) pivot

/-- The target of a path is a fresh query, and so is its pivot. -/
def IsFresh (target : Query κ) : Path κ → Prop
  | direct _ => target.filter = none
  | through pivot _ _ => target.filter = none ∧ pivot.filter = none

end Path

namespace Metadata

variable {κ : Type} {metadata : Metadata κ} {path : Path κ}

/-- The link of the relation has a first pair, and that of its pivot, if there is one, too. -/
inductive Follows (metadata : Metadata κ) : Path κ → Prop
  | direct {first : Link} {rest : List Link} (hlinks : metadata.links = first :: rest)
      (hpivot : metadata.pivot = none) : Follows metadata (.direct first)
  | through {first link : Link} {rest others : List Link} {pivot : PivotQuery κ}
      (hlinks : metadata.links = first :: rest) (hpivot : metadata.pivot = some pivot)
      (hothers : pivot.links = link :: others) :
      Follows metadata (.through pivot.query link first)

theorem path?_eq_some_iff : metadata.path? = some path ↔ metadata.Follows path := by
  constructor
  · intro h
    unfold path? at h
    cases hlinks : metadata.links with
    | nil =>
      rw [hlinks] at h
      cases h
    | cons first rest =>
      rw [hlinks] at h
      cases hpivot : metadata.pivot with
      | none =>
        rw [hpivot] at h
        cases h
        exact .direct hlinks hpivot
      | some pivot =>
        rw [hpivot] at h
        cases hothers : pivot.links with
        | nil => simp [hothers] at h
        | cons link others =>
          obtain rfl : Path.through pivot.query link first = path := by simpa [hothers] using h
          exact .through hlinks hpivot hothers
  · intro h
    unfold path?
    cases h with
    | direct hlinks hpivot =>
      rw [hlinks, hpivot]
      rfl
    | through hlinks hpivot hothers =>
      rw [hlinks, hpivot]
      simp [hothers]

end Metadata

namespace Query

variable {κ : Type} {q : Query κ}

theorem filter_of_query {s : Schema κ} {model : String} (h : s.query model = .ok q) :
    q.filter = none := by
  obtain ⟨m, -, rfl⟩ := s.exists_model_of_query h
  rfl

theorem filter_of_pivotQuery {name : String} {pivot : Pivot} {found : PivotQuery κ}
    (h : q.pivotQuery name pivot = .ok found) : found.query.filter = none := by
  cases pivot with
  | table table links =>
    cases h
    rfl
  | relation via =>
    unfold pivotQuery at h
    dsimp only at h
    split at h
    · cases h
    · obtain ⟨query, hquery, h⟩ := bind_ok_iff.1 h
      cases h
      exact filter_of_query hquery

theorem isFresh_of_relation? {name : String} {metadata : Metadata κ} {path : Path κ}
    (h : q.relation? name = .ok (some metadata)) (hpath : metadata.path? = some path) :
    path.IsFresh metadata.target := by
  unfold relation? at h
  split at h
  · cases h
  · obtain ⟨target, htarget, h⟩ := bind_ok_iff.1 h
    split at h
    · cases h
      cases Metadata.path?_eq_some_iff.1 hpath with
      | direct _ _ => exact filter_of_query htarget
      | through _ hpivot _ => cases hpivot
    · obtain ⟨pivot, hfound, h⟩ := bind_ok_iff.1 h
      cases h
      cases Metadata.path?_eq_some_iff.1 hpath with
      | direct _ hpivot => cases hpivot
      | through _ hpivot _ =>
        cases hpivot
        exact ⟨filter_of_query htarget, filter_of_pivotQuery hfound⟩

/-! ## Merging one condition after another -/

/-- The query with expressions, as far as there are any, added to its filter one after another. -/
def addAll (q : Query κ) (es : List (Option Sql.Expr)) : Query κ :=
  es.foldl (fun q e => q.addFilter? e .and) q

theorem addFilter?_and_eq_withFilter (q : Query κ) (e : Option Sql.Expr) :
    q.addFilter? e .and = q.withFilter (Sql.Expr.all? [q.filter, e].reduceOption) := by
  obtain ⟨schema, model, filter⟩ := q
  cases filter <;> cases e <;> rfl

/-- The expressions are conjoined with the filter that is there already. -/
theorem addAll_eq_withFilter (q : Query κ) (es : List (Option Sql.Expr)) :
    q.addAll es = q.withFilter (Sql.Expr.all? (q.filter :: es).reduceOption) := by
  induction es generalizing q with
  | nil =>
    obtain ⟨schema, model, filter⟩ := q
    cases filter <;> rfl
  | cons e es ih =>
    have hstep : q.addAll (e :: es) = (q.addFilter? e .and).addAll es := rfl
    rw [hstep, ih, addFilter?_and_eq_withFilter]
    cases q.filter <;> cases e <;> rfl

end Query

namespace Binding

variable {κ : Type} {parent : Query κ} {name : String} {metadata : Metadata κ} {path : Path κ}

theorem firstLink_cons (link : Link) (rest : List Link) (fault : Fault) :
    (firstLink (link :: rest) fault).outcome = .ok link := by
  cases rest <;> rfl

theorem prepare_of_path? (h : metadata.path? = some path) :
    (prepare parent name metadata).outcome =
      .ok ⟨path.tied parent metadata.target, path.correlation parent metadata.target⟩ := by
  unfold prepare
  cases Metadata.path?_eq_some_iff.1 h with
  | direct hlinks hpivot =>
    rw [hpivot, hlinks, Traced.outcome_bind, firstLink_cons]
    rfl
  | @through first link rest others pivot hlinks hpivot hothers =>
    rw [hpivot, hlinks, Traced.outcome_bind, firstLink_cons]
    dsimp only
    rw [hothers]
    show (firstLink (link :: others) _ >>= _).outcome = _
    rw [Traced.outcome_bind, firstLink_cons]
    rfl

/-- A relation that can be tied to its parent has a first pair in each of its links. -/
theorem exists_path?_of_prepare {binding : Binding κ}
    (h : (prepare parent name metadata).outcome = .ok binding) :
    ∃ path, metadata.path? = some path := by
  unfold prepare at h
  split at h
  · next hpivot =>
    obtain ⟨_, hfirst, -⟩ := Traced.bind_ok_iff.1 h
    obtain ⟨rest, hlinks⟩ := firstLink_ok hfirst
    exact ⟨_, Metadata.path?_eq_some_iff.2 (.direct hlinks hpivot)⟩
  · next pivot hpivot =>
    obtain ⟨_, hremote, h⟩ := Traced.bind_ok_iff.1 h
    obtain ⟨_, hlink, -⟩ := Traced.bind_ok_iff.1 h
    obtain ⟨rest, hlinks⟩ := firstLink_ok hremote
    obtain ⟨others, hothers⟩ := firstLink_ok hlink
    exact ⟨_, Metadata.path?_eq_some_iff.2 (.through hlinks hpivot hothers)⟩

/-- What the steps of a binding come to is the condition that its path stands for. -/
theorem condition_of_path (parent : Query κ) {target : Query κ} (hfresh : path.IsFresh target)
    (es : List (Option Sql.Expr)) :
    condition ⟨(path.tied parent target).addAll es, path.correlation parent target⟩ =
      .ok (path.condition Join.embedded parent target es) := by
  cases path with
  | direct link =>
    have htarget : target.filter = none := hfresh
    rw [Query.addAll_eq_withFilter]
    unfold Path.tied Query.restrict Query.addFilter
    rw [htarget]
    rfl
  | through pivot link remote =>
    obtain ⟨htarget, hpivot⟩ : target.filter = none ∧ pivot.filter = none := hfresh
    rw [Query.addAll_eq_withFilter]
    unfold Path.tied Query.restrict Query.addFilter
    rw [htarget]
    unfold Path.correlation condition
    dsimp only
    unfold Query.merge Query.addFilter
    rw [hpivot]
    rfl

end Binding

/-! ## What is demanded of the related rows -/

namespace Grouping

theorem names?_eq_none_iff {g : Grouping} : g.names? = none ↔ g.rest ≠ [] := by
  unfold names?
  cases g.rest <;> simp

theorem rest_eq_nil_of_names? {g : Grouping} {names : List String} (h : g.names? = some names) :
    g.rest = [] := by
  by_contra hrest
  rw [names?_eq_none_iff.2 hrest] at h
  cases h

theorem forall_mem_names_collect {isCondition : String → Bool} (pending words : List Word) :
    ∀ name ∈ (collect isCondition pending words).names, isCondition name = true := by
  induction words generalizing pending with
  | nil =>
    intro name hname
    cases hname
  | cons w rest ih =>
    intro name hname
    rw [collect] at hname
    dsimp only at hname
    split at hname
    · next hcondition =>
      rcases List.mem_cons.1 hname with rfl | hname
      · exact hcondition
      · exact ih [] name hname
    · exact ih _ name hname

end Grouping

/-- What a call demands of the rows of a related table. -/
inductive Demand
  /-- A condition of the table, for arguments. -/
  | named (name : String) (args : List Json)
  | draft (draft : Draft)

namespace Demand

/-- Residual words demand conditions by their names, each with all arguments. Without words the
first argument, if there is one, is the draft of what is demanded. -/
def ofWords (isCondition : String → Bool) (words : List Word) (args : List Json) : List Demand :=
  if words.isEmpty then args.head?.toList.map fun arg => draft (.ofJson arg)
  else (Grouping.ofWords isCondition words).names.map fun name => named name args

end Demand

namespace Level

variable {κ : Type}

/-- The condition on the rows of a query that is demanded of them. -/
def answer (level : Level κ) (q : Query κ) : Demand → Traced (Option Condition)
  | .named name args => level.direct q name args
  | .draft d => some <$> level.expand q d

/-- Everything that is demanded is found, in order, by the level below, and it compiles to these
expressions, of which an empty condition has none. Each demand is made of the query that the ones
before it have been merged into. -/
inductive Narrows (below : Unit → Option (Level κ)) :
    Query κ → List Demand → List (Option Sql.Expr) → Prop
  | nil {q : Query κ} : Narrows below q [] []
  | cons {q : Query κ} {level : Level κ} {demand : Demand} {demands : List Demand} {c : Condition}
      {e : Option Sql.Expr} {es : List (Option Sql.Expr)} (hlevel : below () = some level)
      (hanswer : (level.answer q demand).outcome = .ok (some c)) (hcompile : c.compile = .ok e)
      (hrest : Narrows below (q.addFilter? e .and) demands es) :
      Narrows below q (demand :: demands) (e :: es)

theorem outcome_applyResidual_cons (below : Unit → Option (Level κ)) (q : Query κ)
    (relation : String) (arg : Json) (rest : List Json) :
    (applyResidual below q relation [] (arg :: rest)).outcome = (do
      let level ← descend below q relation
      let c ← level.expand q (.ofJson arg)
      let merged ← Traced.ofExcept (q.merge c .and)
      return some merged : Traced (Option (Query κ))).outcome := by
  -- that there are further arguments is merely noted
  cases rest <;> rfl

theorem applyResidual_nil_ok_iff {below : Unit → Option (Level κ)} {q : Query κ}
    {relation : String} {args : List Json} {found : Option (Query κ)} :
    (applyResidual below q relation [] args).outcome = .ok found ↔
      ∃ es, Narrows below q (Demand.ofWords q.defines [] args) es ∧ found = some (q.addAll es) := by
  cases args with
  | nil =>
    constructor
    · intro h
      cases h
      exact ⟨[], .nil, rfl⟩
    · rintro ⟨es, hnarrows, rfl⟩
      cases hnarrows
      rfl
  | cons arg rest =>
    rw [outcome_applyResidual_cons]
    constructor
    · intro h
      obtain ⟨level, hlevel, h⟩ := Traced.bind_ok_iff.1 h
      obtain ⟨c, hc, h⟩ := Traced.bind_ok_iff.1 h
      obtain ⟨merged, hmerged, h⟩ := Traced.bind_ok_iff.1 h
      obtain ⟨e, hcompile, rfl⟩ := Query.merge_ok_iff.1 hmerged
      cases h
      have hanswer : (level.answer q (.draft (.ofJson arg))).outcome = .ok (some c) :=
        Traced.map_ok_iff.2 ⟨c, hc, rfl⟩
      exact ⟨[e], .cons (descend_ok_iff.1 hlevel) hanswer hcompile .nil, rfl⟩
    · rintro ⟨_, hnarrows, rfl⟩
      cases hnarrows with
      | @cons _ level _ _ c e es hlevel hanswer hcompile hnarrows =>
        cases hnarrows
        obtain ⟨_, hc, hsome⟩ := Traced.map_ok_iff.1 hanswer
        cases hsome
        refine Traced.bind_ok_iff.2 ⟨level, descend_ok_iff.2 hlevel, ?_⟩
        refine Traced.bind_ok_iff.2 ⟨c, hc, ?_⟩
        exact Traced.bind_ok_iff.2 ⟨_, Query.merge_ok_iff.2 ⟨e, hcompile, rfl⟩, rfl⟩

/-- A related query is given up exactly if the words are not all taken up. -/
theorem applyResidual_ok_none_iff {below : Unit → Option (Level κ)} {q : Query κ}
    {relation : String} {words : List Word} {args : List Json} :
    (applyResidual below q relation words args).outcome = .ok none ↔
      (Grouping.ofWords q.defines words).names? = none := by
  rw [Grouping.names?_eq_none_iff]
  constructor
  · intro h hrest
    cases words with
    | nil =>
      obtain ⟨es, -, hfound⟩ := applyResidual_nil_ok_iff.1 h
      cases hfound
    | cons w words =>
      unfold applyResidual at h
      dsimp only [List.isEmpty_cons] at h
      rw [if_neg Bool.false_ne_true, hrest] at h
      obtain ⟨_, -, h⟩ := Traced.bind_ok_iff.1 h
      cases h
  · intro hrest
    cases words with
    | nil => exact absurd rfl hrest
    | cons w words =>
      obtain ⟨first, rest, hcons⟩ := List.exists_cons_of_ne_nil hrest
      unfold applyResidual
      dsimp only [List.isEmpty_cons]
      rw [if_neg Bool.false_ne_true, hcons]
      rfl

variable [Computed κ]

/-- A condition that a query has is found, or the search fails. -/
theorem direct_ofRoom_ne_none (limit room : Nat) (q : Query κ) (name : String) (args : List Json)
    (hdefines : q.defines name = true) :
    ((ofRoom limit room).direct q name args).outcome ≠ .ok none := by
  rw [ofRoom_eq_above]
  intro h
  rw [defined_ok_none_iff.1 h] at hdefines
  cases hdefines

theorem direct_beneath_ne_none (limit room : Nat) :
    ∀ level, beneath limit room () = some level → ∀ (q : Query κ) (name : String)
      (args : List Json), q.defines name = true → (level.direct q name args).outcome ≠ .ok none :=
  forall_beneath (direct_ofRoom_ne_none limit) room

/-- Merging conditions by their names succeeds exactly if all of them are found and compiled. -/
theorem applyNames_ok_iff (limit room : Nat) (args : List Json) {names : List String}
    {q q' : Query κ} (hdefines : ∀ name ∈ names, q.defines name = true) :
    (applyNames (beneath limit room) args names q).outcome = .ok q' ↔
      ∃ es, Narrows (beneath limit room) q (names.map fun name => .named name args) es ∧
        q' = q.addAll es := by
  -- a condition is asked of the query that the ones before it are merged into already
  induction names generalizing q with
  | nil =>
    constructor
    · intro h
      cases h
      exact ⟨[], .nil, rfl⟩
    · rintro ⟨es, hnarrows, rfl⟩
      cases hnarrows
      rfl
  | cons name names ih =>
    -- what it defines does not change with its filter
    have hrest : ∀ e, ∀ name ∈ names, (q.addFilter? e .and).defines name = true := by
      intro e name hname
      obtain ⟨filter, hfilter⟩ := q.exists_withFilter_of_addFilter? e .and
      rw [hfilter]
      exact hdefines name (List.mem_cons_of_mem _ hname)
    rw [applyNames]
    constructor
    · intro h
      obtain ⟨level, hlevel, h⟩ := Traced.bind_ok_iff.1 h
      obtain ⟨found, hfound, h⟩ := Traced.bind_ok_iff.1 h
      rw [descend_ok_iff] at hlevel
      cases found with
      | none =>
        exact absurd hfound (direct_beneath_ne_none limit room level hlevel q name args
          (hdefines name List.mem_cons_self))
      | some c =>
        obtain ⟨merged, hmerged, h⟩ := Traced.bind_ok_iff.1 h
        obtain ⟨e, hcompile, rfl⟩ := Query.merge_ok_iff.1 hmerged
        obtain ⟨es, hnarrows, rfl⟩ := (ih (hrest e)).1 h
        exact ⟨e :: es, .cons hlevel hfound hcompile hnarrows, rfl⟩
    · rintro ⟨_, hnarrows, rfl⟩
      cases hnarrows with
      | @cons _ level _ _ c e es hlevel hanswer hcompile hnarrows =>
        refine Traced.bind_ok_iff.2 ⟨level, descend_ok_iff.2 hlevel, ?_⟩
        refine Traced.bind_ok_iff.2 ⟨some c, hanswer, ?_⟩
        refine Traced.bind_ok_iff.2 ⟨_, Query.merge_ok_iff.2 ⟨e, hcompile, rfl⟩, ?_⟩
        exact (ih (hrest e)).2 ⟨es, hnarrows, rfl⟩

/-- A related query is restricted by what is demanded of it, if every word is part of that. -/
theorem applyResidual_ok_iff (limit room : Nat) {q : Query κ} (relation : String)
    {words : List Word} {args : List Json} {found : Option (Query κ)}
    (hwords : (Grouping.ofWords q.defines words).rest = []) :
    (applyResidual (beneath limit room) q relation words args).outcome = .ok found ↔
      ∃ es, Narrows (beneath limit room) q (Demand.ofWords q.defines words args) es ∧
        found = some (q.addAll es) := by
  cases words with
  | nil => exact applyResidual_nil_ok_iff
  | cons w words =>
    have hdefines := @Grouping.forall_mem_names_collect q.defines [] (w :: words)
    have hdemands : Demand.ofWords q.defines (w :: words) args =
        (Grouping.ofWords q.defines (w :: words)).names.map fun name => .named name args := rfl
    have hmerge : (applyResidual (beneath limit room) q relation (w :: words) args).outcome = (do
        let q' ← applyNames (beneath limit room) args
          (Grouping.ofWords q.defines (w :: words)).names q
        return some q' : Traced (Option (Query κ))).outcome := by
      unfold applyResidual
      dsimp only [List.isEmpty_cons]
      rw [hwords]
      rfl
    rw [hmerge, hdemands]
    constructor
    · intro h
      obtain ⟨q', hq', h⟩ := Traced.bind_ok_iff.1 h
      cases h
      obtain ⟨es, hnarrows, rfl⟩ := (applyNames_ok_iff limit room args hdefines).1 hq'
      exact ⟨es, hnarrows, rfl⟩
    · rintro ⟨es, hnarrows, rfl⟩
      have hq' := (applyNames_ok_iff limit room args hdefines).2 ⟨es, hnarrows, rfl⟩
      exact Traced.bind_ok_iff.2 ⟨_, hq', rfl⟩

/-- The condition on the parent, once it is known by which path the related rows are reached. -/
def relatedBy (below : Unit → Option (Level κ)) (q : Query κ) (relation : String)
    (words : List Word) (args : List Json) (target : Query κ) (path : Path κ) :
    Traced (Option Condition) := do
  match ← applyResidual below (path.tied q target) relation words args with
  | none => return none
  | some restricted => do
    let c ← Traced.ofExcept (Binding.condition ⟨restricted, path.correlation q target⟩)
    return some c

variable {q : Query κ} {base relation : String} {words : List Word} {args : List Json}
  {metadata : Metadata κ} {path : Path κ}

omit [Computed κ] in
theorem outcome_related_of_path {below : Unit → Option (Level κ)}
    (hsplit : RelationSplit.ofBase q.hasRelation base = ⟨some relation, words⟩)
    (hmetadata : q.relation? relation = .ok (some metadata))
    (hpath : metadata.path? = some path) :
    (related below q base args).outcome =
      (relatedBy below q relation words args metadata.target path).outcome := by
  unfold related
  rw [hsplit]
  dsimp only
  rw [Traced.bind_of_ok hmetadata]
  dsimp only
  rw [Traced.bind_of_ok (Traced.outcome_note _)]
  dsimp only
  rw [Traced.bind_of_ok (Binding.prepare_of_path? hpath)]
  show (applyResidual below (path.tied q metadata.target) relation words args >>= _).outcome = _
  unfold relatedBy
  refine congrArg Traced.outcome (bind_congr fun found => ?_)
  cases found <;> rfl

omit [Computed κ] in
theorem defines_tied (q target : Query κ) (path : Path κ) :
    (path.tied q target).defines = target.defines := by
  cases path <;> rfl

omit [Computed κ] in
theorem relatedBy_ok_none_iff {below : Unit → Option (Level κ)} {target : Query κ} {path : Path κ} :
    (relatedBy below q relation words args target path).outcome = .ok none ↔
      (Grouping.ofWords target.defines words).names? = none := by
  have hresidual : (applyResidual below (path.tied q target) relation words args).outcome =
      .ok none ↔ (Grouping.ofWords target.defines words).names? = none := by
    rw [applyResidual_ok_none_iff, defines_tied]
  rw [← hresidual]
  unfold relatedBy
  constructor
  · intro h
    obtain ⟨found, hfound, h⟩ := Traced.bind_ok_iff.1 h
    cases found with
    | none => exact hfound
    | some restricted =>
      obtain ⟨c, -, h⟩ := Traced.bind_ok_iff.1 h
      cases h
  · intro h
    exact Traced.bind_ok_iff.2 ⟨none, h, rfl⟩

theorem relatedBy_ok_iff (limit room : Nat) {target : Query κ} (hfresh : path.IsFresh target)
    (hwords : (Grouping.ofWords target.defines words).rest = []) {found : Option Condition} :
    (relatedBy (beneath limit room) q relation words args target path).outcome = .ok found ↔
      ∃ es, Narrows (beneath limit room) (path.tied q target)
          (Demand.ofWords target.defines words args) es ∧
        found = some (path.condition Join.embedded q target es) := by
  have hdefines := defines_tied q target path
  rw [← hdefines] at hwords ⊢
  unfold relatedBy
  constructor
  · intro h
    obtain ⟨restricted, hrestricted, h⟩ := Traced.bind_ok_iff.1 h
    obtain ⟨es, hnarrows, rfl⟩ :=
      (applyResidual_ok_iff limit room relation hwords).1 hrestricted
    obtain ⟨c, hc, h⟩ := Traced.bind_ok_iff.1 h
    rw [Traced.outcome_ofExcept, Binding.condition_of_path q hfresh] at hc
    cases hc
    cases h
    exact ⟨es, hnarrows, rfl⟩
  · rintro ⟨es, hnarrows, rfl⟩
    have hrestricted :=
      (applyResidual_ok_iff limit room relation hwords).2 ⟨es, hnarrows, rfl⟩
    have hc := Binding.condition_of_path q hfresh es
    exact Traced.bind_ok_iff.2 ⟨_, hrestricted, Traced.bind_ok_iff.2 ⟨_, hc, rfl⟩⟩

theorem exists_condition_of_related (limit room : Nat) {c : Condition}
    (hsplit : RelationSplit.ofBase q.hasRelation base = ⟨some relation, words⟩)
    (hmetadata : q.relation? relation = .ok (some metadata)) (hpath : metadata.path? = some path)
    (h : (related (beneath limit room) q base args).outcome = .ok (some c)) :
    ∃ es, c = path.condition Join.embedded q metadata.target es := by
  rw [outcome_related_of_path hsplit hmetadata hpath] at h
  -- words that are not all taken up by conditions make no relation condition
  have hwords : (Grouping.ofWords metadata.target.defines words).rest = [] := by
    by_contra hrest
    rw [relatedBy_ok_none_iff.2 (Grouping.names?_eq_none_iff.2 hrest)] at h
    cases h
  obtain ⟨es, -, hc⟩ :=
    (relatedBy_ok_iff limit room (Query.isFresh_of_relation? hmetadata hpath) hwords).1 h
  exact ⟨es, Option.some.inj hc⟩

/-- A relation condition comes about exactly if everything that is demanded of the related query,
which is tied to its parent already, is found and compiled, and then it has the shape that the path
of the relation gives it. -/
theorem related_ok_iff (limit room : Nat) (args : List Json)
    (hsplit : RelationSplit.ofBase q.hasRelation base = ⟨some relation, words⟩)
    (hmetadata : q.relation? relation = .ok (some metadata)) (hpath : metadata.path? = some path)
    (hwords : (Grouping.ofWords metadata.target.defines words).rest = [])
    {found : Option Condition} :
    (related (beneath limit room) q base args).outcome = .ok found ↔
      ∃ es, Narrows (beneath limit room) (path.tied q metadata.target)
          (Demand.ofWords metadata.target.defines words args) es ∧
        found = some (path.condition Join.embedded q metadata.target es) := by
  rw [outcome_related_of_path hsplit hmetadata hpath]
  exact relatedBy_ok_iff limit room (Query.isFresh_of_relation? hmetadata hpath) hwords

end Level

namespace Samples

/-- Orders with a product of a name in the catalogue that is in stock: the items are the pivot, and
the two conditions on products stand in the order of the words. -/
theorem related_orders_products :
    (Level.related (Level.beneath 2 2) (orders 2) "withProductsSkuInStock" [.text "A1"]).outcome =
      .ok (some (.map [("orders.id", .query (.select (some ⟨"order_items", "order_id"⟩)
        "order_items" (some (.and
          (.within false ⟨"order_items", "product_id"⟩ (.select (some ⟨"products", "id"⟩)
            "products" (some (.and (.and (.fragment "order_items.product_id = products.id")
              (.compare .eq ⟨"products", "sku"⟩ (.text "A1")))
              (.compare .gt ⟨"products", "stock"⟩ (.int 0))))))
          (.fragment "orders.id = order_items.order_id")))))])) := by
  have hsplit : RelationSplit.ofBase (orders 2).hasRelation "withProductsSkuInStock" =
      ⟨some "products", [⟨"Sku", 8, 11⟩, ⟨"In", 11, 13⟩, ⟨"Stock", 13, 18⟩]⟩ := by
    decide
  refine (Level.related_ok_iff 2 2 [.text "A1"] hsplit rfl rfl rfl).2
    ⟨[some (.compare .eq ⟨"products", "sku"⟩ (.text "A1")),
      some (.compare .gt ⟨"products", "stock"⟩ (.int 0))], ?_, rfl⟩
  have hstock : Condition.compile (.list [.operand ">", .operand "products.stock",
      .value (int 0)]) = .ok (some (.compare .gt ⟨"products", "stock"⟩ (.int 0))) :=
    Condition.compile_test rfl rfl
  exact .cons rfl rfl rfl (.cons rfl rfl hstock .nil)

end Samples

end Criteria
