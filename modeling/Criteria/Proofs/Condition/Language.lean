import Criteria.Proofs.Condition.Meaning
import Criteria.Schema.Query

/-!
# The language of conditions

Which conditions there is SQL for, written down as a grammar (`Accepted`): one rule for each form of
a condition, and for each place the operands that may stand there. Null may stand under a column but
not in a list, a list may stand under `in` but not under `=`, and a query never stands alone.

Main statements: a condition is accepted exactly if it has a reading (`accepted_iff_exists_means`);
so it compiles exactly if it is accepted, and whatever else a condition is, and however deep in it
the fault lies, merging it is refused as malformed (`compiles_iff_accepted`).
-/

namespace Criteria

open Sql

namespace Condition

/-! ## The grammar -/

/-- The condition is one value: a text, a truth value or a number. -/
def isScalar : Condition → Bool
  | operand _ | value (.bool _) | value (.number _) | value (.text _) => true
  | _ => false

/-- What may stand under a column of a map. -/
inductive UnderColumn : Condition → Prop
  | null : UnderColumn (.value .null)
  | scalar {c : Condition} (h : c.isScalar = true) : UnderColumn c
  | list {items : List Condition} (h : ∀ c ∈ items, c.isScalar = true) : UnderColumn (.list items)
  | query (select : Select) : UnderColumn (.query select)

/-- The operands of an operator that is no connective. An operator and its negated form take the
same ones. -/
inductive Takes : String → List Condition → Prop
  | rows {name : String} (hname : name ∈ ["in", "not in"]) (column : String) (select : Select) :
    Takes name [.operand column, .query select]
  | list {name : String} {items : List Condition} (hname : name ∈ ["in", "not in"])
    (column : String) (h : ∀ c ∈ items, c.isScalar = true) :
    Takes name [.operand column, .list items]
  | single {name : String} {c : Condition} (hname : name ∈ ["in", "not in"]) (column : String)
    (h : c.isScalar = true) : Takes name [.operand column, c]
  | bounds {name : String} {low high : Condition} (hname : name ∈ ["between", "not between"])
    (column : String) (hlow : low.isScalar = true) (hhigh : high.isScalar = true) :
    Takes name [.operand column, low, high]
  | pattern {name : String} (hname : name ∈ ["like", "not like"]) (column pattern : String) :
    Takes name [.operand column, .operand pattern]
  | query {name : String} (hname : name ∈ ["exists", "not exists"]) (select : Select) :
    Takes name [.query select]
  | comparison {name : String} {c : Condition}
    (hname : name ∈ ["=", "!=", "<>", ">", "<", ">=", "<="]) (column : String)
    (h : c.isScalar = true) : Takes name [.operand column, c]

/-- The conditions for which there is SQL. The names of operators may be written in any case. -/
inductive Accepted : Condition → Prop
  | map {entries : List (String × Condition)} (h : ∀ entry ∈ entries, UnderColumn entry.2) :
    Accepted (.map entries)
  | nothing : Accepted (.list [])
  | connective {op : String} {operands : List Condition} (hop : lowered op ∈ ["and", "or"])
    (h : ∀ c ∈ operands, Accepted c) : Accepted (.list (.operand op :: operands))
  | not {op : String} {c : Condition} (hop : lowered op = "not") (h : Accepted c) :
    Accepted (.list [.operand op, c])
  | test {op : String} {operands : List Condition} (h : Takes (lowered op) operands) :
    Accepted (.list (.operand op :: operands))
  | fragment (text : String) : Accepted (.operand text)
  | null : Accepted (.value .null)
  | bool (b : Bool) : Accepted (.value (.bool b))

/-! ## Accepted conditions have readings -/

theorem isScalar_iff {c : Condition} : c.isScalar = true ↔ ∃ v, IsScalar c v := by
  constructor
  · intro h
    cases c with
    | operand text => exact ⟨_, .operand text⟩
    | value json =>
      cases json with
      | bool b => exact ⟨_, .bool b⟩
      | number n =>
        cases n with
        | int n => exact ⟨_, .int n⟩
        | real x => exact ⟨_, .real x⟩
      | text s => exact ⟨_, .text s⟩
      | null | array _ | object _ => cases h
    | list _ | map _ | query _ => cases h
  · rintro ⟨v, h⟩
    cases h <;> rfl

/-- There is a partner for each item of a list exactly if there is a list of partners. -/
theorem exists_forall₂_iff {α β : Type} {R : α → β → Prop} {as : List α} :
    (∃ bs, List.Forall₂ R as bs) ↔ ∀ a ∈ as, ∃ b, R a b := by
  induction as with
  | nil => simp
  | cons a as ih =>
    simp only [List.forall₂_cons_left_iff, List.forall_mem_cons, ← ih]
    constructor
    · rintro ⟨_, b, bs, hb, hbs, -⟩
      exact ⟨⟨b, hb⟩, bs, hbs⟩
    · rintro ⟨⟨b, hb⟩, bs, hbs⟩
      exact ⟨b :: bs, b, bs, hb, hbs, rfl⟩

theorem forall_isScalar_iff {items : List Condition} :
    (∀ c ∈ items, c.isScalar = true) ↔ ∃ vs, List.Forall₂ IsScalar items vs := by
  simp only [isScalar_iff, exists_forall₂_iff]

section Readings

variable (env : Environment)

theorem underColumn_iff {column : String} {c : Condition} :
    UnderColumn c ↔ ∃ t, EntryMeans env (column, c) t := by
  constructor
  · intro h
    cases h with
    | null => exact ⟨_, .null column⟩
    | scalar h =>
      obtain ⟨v, hv⟩ := isScalar_iff.1 h
      exact ⟨_, .equal hv⟩
    | list h =>
      obtain ⟨vs, hvs⟩ := forall_isScalar_iff.1 h
      exact ⟨_, .items hvs⟩
    | query select => exact ⟨_, .rows column select⟩
  · rintro ⟨t, h⟩
    cases h with
    | null => exact .null
    | items h => exact .list (forall_isScalar_iff.2 ⟨_, h⟩)
    | rows _ select => exact .query select
    | equal h => exact .scalar (isScalar_iff.2 ⟨_, h⟩)

theorem mem_comparisons_iff {name : String} :
    name ∈ ["=", "!=", "<>", ">", "<", ">=", "<="] ↔ ∃ test, (name, test) ∈ comparisonTests := by
  simp [comparisonTests, exists_or]

theorem takes_iff {name : String} {operands : List Condition} :
    Takes name operands ↔ ∃ t, TestMeans env name operands t := by
  constructor
  · intro h
    cases h with
    | rows hname column select =>
      rcases List.mem_pair.1 hname with rfl | rfl
      · exact ⟨_, .within column select⟩
      · exact ⟨_, .notWithin column select⟩
    | list hname column h =>
      obtain ⟨vs, hvs⟩ := forall_isScalar_iff.1 h
      rcases List.mem_pair.1 hname with rfl | rfl
      · exact ⟨_, .among (.list hvs)⟩
      · exact ⟨_, .notAmong (.list hvs)⟩
    | single hname column h =>
      obtain ⟨v, hv⟩ := isScalar_iff.1 h
      rcases List.mem_pair.1 hname with rfl | rfl
      · exact ⟨_, .among (.scalar hv)⟩
      · exact ⟨_, .notAmong (.scalar hv)⟩
    | bounds hname column hlow hhigh =>
      obtain ⟨v, hv⟩ := isScalar_iff.1 hlow
      obtain ⟨w, hw⟩ := isScalar_iff.1 hhigh
      rcases List.mem_pair.1 hname with rfl | rfl
      · exact ⟨_, .between hv hw⟩
      · exact ⟨_, .notBetween hv hw⟩
    | pattern hname column pattern =>
      rcases List.mem_pair.1 hname with rfl | rfl
      · exact ⟨_, .like column pattern⟩
      · exact ⟨_, .notLike column pattern⟩
    | query hname select =>
      rcases List.mem_pair.1 hname with rfl | rfl
      · exact ⟨_, .anyRow select⟩
      · exact ⟨_, .noRow select⟩
    | comparison hname column h =>
      obtain ⟨v, hv⟩ := isScalar_iff.1 h
      obtain ⟨test, htest⟩ := mem_comparisons_iff.1 hname
      exact ⟨_, .compare htest hv⟩
  · rintro ⟨t, h⟩
    cases h with
    | @among column values vs h =>
      cases h with
      | list h => exact .list (by simp) column (forall_isScalar_iff.2 ⟨_, h⟩)
      | scalar h => exact .single (by simp) column (isScalar_iff.2 ⟨_, h⟩)
    | @notAmong column values vs h =>
      cases h with
      | list h => exact .list (by simp) column (forall_isScalar_iff.2 ⟨_, h⟩)
      | scalar h => exact .single (by simp) column (isScalar_iff.2 ⟨_, h⟩)
    | within column select | notWithin column select => exact .rows (by simp) column select
    | @between column low high v w hlow hhigh | @notBetween column low high v w hlow hhigh =>
      exact .bounds (by simp) column (isScalar_iff.2 ⟨_, hlow⟩) (isScalar_iff.2 ⟨_, hhigh⟩)
    | like column pattern | notLike column pattern => exact .pattern (by simp) column pattern
    | anyRow select | noRow select => exact .query (by simp) select
    | @compare _ test column c v htest h =>
      exact .comparison (mem_comparisons_iff.2 ⟨test, htest⟩) column (isScalar_iff.2 ⟨_, h⟩)

theorem exists_allMean_iff {cs : List Condition} :
    (∃ ts, AllMean env cs ts) ↔ ∀ c ∈ cs, ∃ m, Means env c m := by
  induction cs with
  | nil =>
    constructor
    · intro _ c hc
      cases hc
    · intro _
      exact ⟨[], .nil⟩
  | cons c cs ih =>
    rw [List.forall_mem_cons, ← ih]
    constructor
    · rintro ⟨_, h⟩
      cases h with
      | cons h hrest => exact ⟨⟨_, h⟩, _, hrest⟩
    · rintro ⟨⟨m, h⟩, ts, hrest⟩
      exact ⟨_, .cons h hrest⟩

theorem Accepted.exists_means {c : Condition} (h : Accepted c) : ∃ m, Means env c m := by
  induction h with
  | @map entries h =>
    have hentries : ∀ entry ∈ entries, ∃ t, EntryMeans env entry t := by
      intro entry hentry
      exact (underColumn_iff env).1 (h entry hentry)
    obtain ⟨ts, hts⟩ := exists_forall₂_iff.2 hentries
    exact ⟨_, .map hts⟩
  | nothing => exact ⟨_, .nothing⟩
  | connective hop _ ih =>
    obtain ⟨ts, hts⟩ := (exists_allMean_iff env).2 ih
    rcases List.mem_pair.1 hop with hop | hop
    · exact ⟨_, .and hop hts⟩
    · exact ⟨_, .or hop hts⟩
  | not hop _ ih =>
    obtain ⟨m, hm⟩ := ih
    exact ⟨_, .not hop hm⟩
  | test h =>
    obtain ⟨t, ht⟩ := (takes_iff env).1 h
    exact ⟨_, .test ht⟩
  | fragment text =>
    by_cases hblank : Text.trim text.toList = []
    · exact ⟨_, .blank hblank⟩
    · exact ⟨_, .fragment hblank⟩
  | null => exact ⟨_, .null⟩
  | bool b => exact ⟨_, .bool b⟩

mutual

theorem accepted_of_means : ∀ {c : Condition} {m : Option Truth}, Means env c m → Accepted c
  | _, _, .map h => by
    refine .map fun entry hentry => ?_
    obtain ⟨t, ht⟩ := exists_forall₂_iff.1 ⟨_, h⟩ entry hentry
    exact (underColumn_iff env).2 ⟨t, ht⟩
  | _, _, .nothing => .nothing
  | _, _, .and hop h => .connective (List.mem_pair.2 (.inl hop)) (forall_accepted_of_allMean h)
  | _, _, .or hop h => .connective (List.mem_pair.2 (.inr hop)) (forall_accepted_of_allMean h)
  | _, _, .not hop h => .not hop (accepted_of_means h)
  | _, _, .test h => .test ((takes_iff env).2 ⟨_, h⟩)
  | _, _, .fragment _ | _, _, .blank _ => .fragment _
  | _, _, .null => .null
  | _, _, .bool b => .bool b

theorem forall_accepted_of_allMean : ∀ {cs : List Condition} {ts : List Truth},
    AllMean env cs ts → ∀ c ∈ cs, Accepted c
  | _, _, .nil => List.forall_mem_nil _
  | _, _, .cons h hrest =>
    List.forall_mem_cons.2 ⟨accepted_of_means h, forall_accepted_of_allMean hrest⟩

end

/-- The grammar and the readings agree on which conditions there are. -/
theorem accepted_iff_exists_means {c : Condition} : Accepted c ↔ ∃ m, Means env c m := by
  constructor
  · exact Accepted.exists_means env
  · rintro ⟨m, h⟩
    exact accepted_of_means env h

end Readings

/-! ## Accepted conditions compile -/

theorem exists_compile_iff_accepted {c : Condition} : (∃ e, c.compile = .ok e) ↔ Accepted c := by
  -- whether there is a reading does not depend on what is true, so any environment will do
  let env : Environment := ⟨fun _ => none, fun _ => .unknown, fun _ => [], fun _ _ => none,
    fun _ _ => .unknown⟩
  rw [accepted_iff_exists_means env]
  constructor
  · rintro ⟨e, he⟩
    exact ⟨_, (compile_iff env c _).1 ⟨e, he, rfl⟩⟩
  · rintro ⟨m, hm⟩
    obtain ⟨e, he, -⟩ := (compile_iff env c m).2 hm
    exact ⟨e, he⟩

instance (c : Condition) : Decidable (Accepted c) :=
  match h : c.compile with
  | .ok e => isTrue (exists_compile_iff_accepted.1 ⟨e, h⟩)
  | .error cause => isFalse fun hc => by
    obtain ⟨e, he⟩ := exists_compile_iff_accepted.2 hc
    rw [h] at he
    cases he

/-- A condition compiles exactly if the grammar accepts it. Any other one is malformed, and no query
takes it into its filter. -/
theorem compiles_iff_accepted {κ : Type} (c : Condition) :
    ((∃ e, c.compile = .ok e) ↔ Accepted c) ∧
      ((∃ cause, c.compile = .error cause ∧ ∀ (q : Query κ) (connective : Connective),
        q.merge c connective = .error (.malformed cause)) ↔ ¬ Accepted c) := by
  refine ⟨exists_compile_iff_accepted, ?_⟩
  rw [← exists_compile_iff_accepted]
  cases hcompile : c.compile with
  | ok e => simp
  | error cause =>
    constructor
    · rintro - ⟨e, he⟩
      cases he
    · intro _
      refine ⟨cause, rfl, fun q connective => ?_⟩
      unfold Query.merge
      rw [hcompile]

/-- Null may stand under a column, but not in a list under one. -/
example : Accepted (.map [("posts.deleted_at", .value .null)]) ∧
    ¬ Accepted (.map [("posts.deleted_at", .list [.value .null])]) := by
  decide

end Condition

end Criteria
