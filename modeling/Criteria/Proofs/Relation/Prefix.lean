import Criteria.Relation.Split
import Mathlib.Data.List.Infix

/-!
# The relation that a name begins with

The words of a name are read from the left until they name a relation. Main statement: the relation
is named by the shortest beginning of the words that names one, and all other words are left
(`RelationSplit.ofBase_eq_some_iff`); none is found exactly if no beginning names one
(`RelationSplit.relation_ofBase_eq_none_iff`).
-/

namespace Criteria

/-- `front` is the shortest beginning of a list that has a property and is not empty, and `rest` is
what stands behind it. -/
structure ShortestPrefix {α : Type} (p : List α → Bool) (whole front rest : List α) : Prop where
  append : front ++ rest = whole
  ne_nil : front ≠ []
  holds : p front = true
  shortest : ∀ before, before <+: front → before ≠ [] → p before = true → before = front

namespace ShortestPrefix

variable {α : Type} {p : List α → Bool} {a : α} {as whole front front' rest rest' : List α}

theorem isPrefix (h : ShortestPrefix p whole front rest) : front <+: whole := ⟨rest, h.append⟩

/-- There is at most one shortest beginning. -/
theorem unique (h : ShortestPrefix p whole front rest) (h' : ShortestPrefix p whole front' rest') :
    front = front' ∧ rest = rest' := by
  have hfront : front = front' := by
    rcases List.prefix_or_prefix_of_prefix h.isPrefix h'.isPrefix with hle | hle
    · exact h'.shortest front hle h.ne_nil h.holds
    · exact (h.shortest front' hle h'.ne_nil h'.holds).symm
  subst hfront
  exact ⟨rfl, List.append_cancel_left (h.append.trans h'.append.symm)⟩

/-- The first entry alone may be the beginning. -/
theorem singleton (h : p [a] = true) : ShortestPrefix p (a :: as) [a] as := by
  refine ⟨rfl, List.cons_ne_nil a [], h, fun before hbefore hne _ => ?_⟩
  rcases List.prefix_cons_iff.1 hbefore with rfl | ⟨tail, rfl, htail⟩
  · exact absurd rfl hne
  · rw [List.prefix_nil.1 htail]

/-- Otherwise the beginning goes on behind the first entry. -/
theorem cons (ha : p [a] = false) (h : ShortestPrefix (fun front => p (a :: front)) as front rest) :
    ShortestPrefix p (a :: as) (a :: front) rest := by
  refine ⟨?_, List.cons_ne_nil a front, h.holds, fun before hbefore hne hp => ?_⟩
  · rw [List.cons_append, h.append]
  · rcases List.prefix_cons_iff.1 hbefore with rfl | ⟨tail, rfl, htail⟩
    · exact absurd rfl hne
    · have htail_ne : tail ≠ [] := by
        rintro rfl
        rw [ha] at hp
        cases hp
      rw [h.shortest tail htail htail_ne hp]

end ShortestPrefix

namespace RelationSplit

variable {isRelation : String → Bool}

/-- The words of a base behind its first four bytes. -/
def words (base : String) : List Word := Word.splitChars (dropBytes 4 base.toList)

/-- The search stops at the shortest beginning that names a relation, or finds nothing because there
is none. -/
theorem search_cases (isRelation : String → Bool) (before words : List Word) :
    (∃ front rest,
      ShortestPrefix (fun front => isRelation (Word.name (before ++ front))) words front rest ∧
      search isRelation before words = ⟨some (Word.name (before ++ front)), rest⟩) ∨
    (∀ front, front <+: words → front ≠ [] → isRelation (Word.name (before ++ front)) = false) ∧
      search isRelation before words = ⟨none, []⟩ := by
  induction words generalizing before with
  | nil =>
    right
    refine ⟨fun front hfront hne => ?_, rfl⟩
    exact absurd (List.prefix_nil.1 hfront) hne
  | cons w rest ih =>
    rw [search]
    have hmove : ∀ front, before ++ [w] ++ front = before ++ w :: front := by
      intro front
      rw [List.append_assoc, List.singleton_append]
    cases hw : isRelation (Word.name (before ++ [w])) with
    | true =>
      left
      exact ⟨[w], rest, .singleton hw, rfl⟩
    | false =>
      rw [if_neg Bool.false_ne_true]
      have hih := ih (before ++ [w])
      simp only [hmove] at hih
      rcases hih with ⟨front, rest', hfront, hsearch⟩ | ⟨hnone, hsearch⟩
      · left
        exact ⟨w :: front, rest', .cons hw hfront, hsearch⟩
      · right
        refine ⟨fun front hfront hne => ?_, hsearch⟩
        rcases List.prefix_cons_iff.1 hfront with rfl | ⟨tail, rfl, htail⟩
        · exact absurd rfl hne
        · by_cases htail_nil : tail = []
          · rw [htail_nil]
            exact hw
          · exact hnone tail htail htail_nil

theorem ofBase_cases (isRelation : String → Bool) (base : String) :
    (∃ front rest,
      ShortestPrefix (fun front => isRelation (Word.name front)) (words base) front rest ∧
      ofBase isRelation base = ⟨some (Word.name front), rest⟩) ∨
    (∀ front, front <+: words base → front ≠ [] → isRelation (Word.name front) = false) ∧
      ofBase isRelation base = ⟨none, []⟩ :=
  search_cases isRelation [] (words base)

/-- The relation that is found is the one that the shortest beginning of the words names, and the
words behind it are left. -/
theorem ofBase_eq_some_iff {base name : String} {rest : List Word} :
    ofBase isRelation base = ⟨some name, rest⟩ ↔ ∃ front,
      ShortestPrefix (fun front => isRelation (Word.name front)) (words base) front rest ∧
      Word.name front = name := by
  constructor
  · intro h
    rcases ofBase_cases isRelation base with ⟨front, rest', hfront, hbase⟩ | ⟨-, hbase⟩
    · rw [h] at hbase
      cases hbase
      exact ⟨front, hfront, rfl⟩
    · rw [h] at hbase
      cases hbase
  · rintro ⟨front, hfront, rfl⟩
    rcases ofBase_cases isRelation base with ⟨front', rest', hfront', hbase⟩ | ⟨hnone, -⟩
    · obtain ⟨rfl, rfl⟩ := hfront.unique hfront'
      exact hbase
    · have hfalse := hnone front hfront.isPrefix hfront.ne_nil
      rw [hfront.holds] at hfalse
      cases hfalse

/-- No relation is found exactly if no beginning of the words names one. -/
theorem relation_ofBase_eq_none_iff {base : String} :
    (ofBase isRelation base).relation = none ↔
      ∀ front, front <+: words base → front ≠ [] → isRelation (Word.name front) = false := by
  rcases ofBase_cases isRelation base with ⟨front, rest, hfront, hbase⟩ | ⟨hnone, hbase⟩
  · rw [hbase]
    constructor
    · intro h
      cases h
    · intro hnone
      have hfalse := hnone front hfront.isPrefix hfront.ne_nil
      rw [hfront.holds] at hfalse
      cases hfalse
  · rw [hbase]
    exact ⟨fun _ => hnone, fun _ => rfl⟩

end RelationSplit

end Criteria
