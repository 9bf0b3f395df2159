import Criteria.Proofs.Call.Spelling
import Criteria.Proofs.Relation.Prefix
import Criteria.Proofs.Word
import Criteria.Samples

/-!
# Bases of relation calls

A base is `with` and what stands behind it: the words that name a relation, and residual words. Main
statements: behind the first bytes of a text stands what they leave, and nothing if they end inside
a character (`RelationSplit.isBehind_dropBytes`); the words of a name in the place of a relation are
its own words (`RelationSplit.exists_prefix_split`). So a base is split behind the shortest words
that name a relation, nothing is lost, and every relation that is called by its name leads to a
relation (`Query.ofBase_hasRelation`).
-/

namespace Criteria

namespace RelationSplit

/-- The text that stands behind the first bytes of another one. If these end inside a character or
behind the text, it is empty. -/
def IsBehind (count : Nat) (whole rest : List Char) : Prop :=
  (∃ front, front ++ rest = whole ∧ Word.byteSize front = count) ∨
    (∀ front, front <+: whole → Word.byteSize front ≠ count) ∧ rest = []

theorem isBehind_dropBytes (count : Nat) (s : List Char) :
    IsBehind count s (dropBytes count s) := by
  fun_induction dropBytes count s with
  | case1 s => exact .inl ⟨[], rfl, rfl⟩
  | case2 count =>
    refine .inr ⟨fun front hfront => ?_, rfl⟩
    rw [List.prefix_nil.1 hfront, Word.byteSize_nil]
    exact (Nat.succ_ne_zero count).symm
  | case3 count c rest hsize ih =>
    rcases ih with ⟨front, hrest, hcount⟩ | ⟨hnone, hnil⟩
    · refine .inl ⟨c :: front, by rw [List.cons_append, hrest], ?_⟩
      rw [Word.byteSize_cons]
      omega
    · refine .inr ⟨fun front hfront => ?_, hnil⟩
      rcases List.prefix_cons_iff.1 hfront with rfl | ⟨tail, rfl, htail⟩
      · exact (Nat.succ_ne_zero count).symm
      · have htailSize := hnone tail htail
        rw [Word.byteSize_cons]
        omega
  | case4 count c rest hsize =>
    refine .inr ⟨fun front hfront => ?_, rfl⟩
    rcases List.prefix_cons_iff.1 hfront with rfl | ⟨tail, rfl, -⟩
    · exact (Nat.succ_ne_zero count).symm
    · rw [Word.byteSize_cons]
      omega

theorem dropBytes_append (front rest : List Char) :
    dropBytes (Word.byteSize front) (front ++ rest) = rest := by
  induction front with
  | nil => exact dropBytes.eq_1 rest
  | cons c front ih =>
    obtain ⟨count, hcount⟩ := Nat.exists_eq_add_of_lt (Nat.add_pos_left c.utf8Size_pos
      (Word.byteSize front))
    rw [Nat.zero_add] at hcount
    rw [Word.byteSize_cons, hcount, List.cons_append, dropBytes, ← hcount,
      if_pos (Nat.le_add_right _ _), Nat.add_sub_cancel_left, ih]

/-! ## Names in the place of relations -/

theorem utf8Size_of_isSmall {c : Char} (h : Text.isSmall c = true) :
    c.utf8Size = 1 ∧ c.toUpper.utf8Size = 1 := by
  obtain ⟨-, hhigh⟩ := Text.isSmall_iff.1 h
  have hupper := Text.toNat_toUpper h
  simp only [Char.utf8Size_eq_one_iff, UInt32.le_iff_toNat_le]
  show c.toNat ≤ 127 ∧ c.toUpper.toNat ≤ 127
  omega

/-- The first words of a name, with a capital in front, name what they are in the name itself. -/
theorem exists_prefix_split {c : Char} {tail : List Char} {front : List Word}
    (hc : Text.isSmall c = true) (hne : front ≠ [])
    (hfront : front <+: Word.splitChars (c.toUpper :: tail)) :
    ∃ own, own <+: Word.splitChars (c :: tail) ∧ own ≠ [] ∧ Word.name front = Word.join own := by
  obtain ⟨piece, others, hpieces⟩ := Word.exists_pieces_cons tail
  obtain ⟨hsize, hupperSize⟩ := utf8Size_of_isSmall hc
  -- the first words differ in their first character alone, which is one byte long in both
  have hupper : Word.splitChars (c.toUpper :: tail) =
      ⟨String.ofList (c.toUpper :: piece), 0, 1 + Word.byteSize piece⟩ ::
        Word.place (1 + Word.byteSize piece) others := by
    rw [Word.splitChars, hpieces, Word.place, Word.byteSize_cons, hupperSize, Nat.zero_add]
  have hown : Word.splitChars (c :: tail) =
      ⟨String.ofList (c :: piece), 0, 1 + Word.byteSize piece⟩ ::
        Word.place (1 + Word.byteSize piece) others := by
    rw [Word.splitChars, hpieces, Word.place, Word.byteSize_cons, hsize, Nat.zero_add]
  rw [hupper] at hfront
  rcases List.prefix_cons_iff.1 hfront with rfl | ⟨behind, rfl, hbehind⟩
  · exact absurd rfl hne
  · refine ⟨⟨String.ofList (c :: piece), 0, 1 + Word.byteSize piece⟩ :: behind, ?_,
      List.cons_ne_nil _ _, ?_⟩
    · rw [hown]
      exact List.prefix_cons_inj _ |>.2 hbehind
    · unfold Word.name Word.join
      rw [Word.joinChars_cons, Word.joinChars_cons, String.toList_ofList, String.toList_ofList,
        List.cons_append, Text.lowerFirst_toUpper hc, List.cons_append]

/-- The words behind `with`. -/
theorem words_with (s : List Char) :
    words (String.ofList ("with".toList ++ s)) = Word.splitChars s := by
  unfold words
  rw [String.toList_ofList]
  exact congrArg Word.splitChars (dropBytes_append "with".toList s)

/-! ## Splitting a base -/

variable {isRelation : String → Bool} {base : String} {front residual : List Word}

/-- Some relation is found exactly if the words begin with the name of one. -/
theorem exists_relation_ofBase_iff :
    (∃ name, (ofBase isRelation base).relation = some name) ↔
      ∃ front, front <+: words base ∧ front ≠ [] ∧ isRelation (Word.name front) = true := by
  rw [← Option.ne_none_iff_exists', Ne, relation_ofBase_eq_none_iff]
  simp only [not_forall, Bool.not_eq_false, exists_prop]

/-- Without a relation no word is left. -/
theorem ofBase_eq_none_iff :
    ofBase isRelation base = ⟨none, []⟩ ↔
      ∀ front, front <+: words base → front ≠ [] → isRelation (Word.name front) = false := by
  rw [← relation_ofBase_eq_none_iff]
  rcases ofBase_cases isRelation base with ⟨front, rest, -, hbase⟩ | ⟨-, hbase⟩
  · rw [hbase]
    constructor <;> intro h <;> cases h
  · rw [hbase]
    exact ⟨fun _ => rfl, fun _ => rfl⟩

/-- The words that are cut apart are what stands behind the first four bytes, and the second ones
go on where the first ones end. -/
theorem runFrom_residual (h : front ++ residual = words base) :
    Word.joinChars front ++ Word.joinChars residual = dropBytes 4 base.toList ∧
      Word.RunFrom (Word.byteSize (Word.joinChars front)) residual := by
  constructor
  · rw [← Word.joinChars_append, h, words, Word.joinChars_splitChars]
  · have hrun : Word.RunFrom 0 (front ++ residual) :=
      h.symm ▸ Word.runFrom_splitChars (dropBytes 4 base.toList)
    have hresidual := hrun.of_append
    rw [Nat.zero_add] at hresidual
    exact hresidual

/-- Where a relation is called by its name, a relation is found: this one, or one that has the first
words of its name. -/
theorem exists_ofBase_with {c : Char} {tail : List Char} (hc : Text.isSmall c = true)
    (hrelation : isRelation (String.ofList (c :: tail)) = true) :
    ∃ front residual,
      ofBase isRelation (String.ofList ("with".toList ++ c.toUpper :: tail)) =
        ⟨some (Word.join front), residual⟩ ∧
      front <+: Word.splitChars (c :: tail) ∧ front ≠ [] := by
  have hwords := words_with (c.toUpper :: tail)
  rcases ofBase_cases isRelation (String.ofList ("with".toList ++ c.toUpper :: tail)) with
    ⟨front, residual, hfront, hbase⟩ | ⟨hnone, -⟩
  · rw [hwords] at hfront
    obtain ⟨own, hown, hne, hjoin⟩ := exists_prefix_split hc hfront.ne_nil hfront.isPrefix
    exact ⟨own, residual, hjoin ▸ hbase, hown, hne⟩
  · -- all words together name the relation itself
    have hname : Word.name (Word.splitChars (c.toUpper :: tail)) = String.ofList (c :: tail) := by
      unfold Word.name
      rw [Word.joinChars_splitChars, Text.lowerFirst_toUpper hc]
    have hne : Word.splitChars (c.toUpper :: tail) ≠ [] := by
      intro hnil
      have hchars := Word.joinChars_splitChars (c.toUpper :: tail)
      rw [hnil] at hchars
      cases hchars
    rw [hwords] at hnone
    have hfalse := hnone _ List.prefix_rfl hne
    rw [hname, hrelation] at hfalse
    cases hfalse

end RelationSplit

open RelationSplit in
/-- A base is split behind the shortest words that name a relation of the query, and all other words
of what stands behind its first four bytes are left, one behind the other. If no words from the
first one on name a relation, there is no name and nothing is left. Where a relation is called by
its name, a relation is found: this one, or one that has the first words of its name. -/
theorem Query.ofBase_hasRelation {κ : Type} (q : Query κ) :
    (∀ base : String, ∃ rest, IsBehind 4 base.toList rest ∧
      ((∃ name, (ofBase q.hasRelation base).relation = some name) ↔
        ∃ front, front <+: Word.splitChars rest ∧ front ≠ [] ∧
          q.hasRelation (Word.name front) = true) ∧
      (∀ name residual, ofBase q.hasRelation base = ⟨some name, residual⟩ ↔
        ∃ front, ShortestPrefix (fun front => q.hasRelation (Word.name front))
            (Word.splitChars rest) front residual ∧
          Word.name front = name ∧ Word.joinChars front ++ Word.joinChars residual = rest ∧
          Word.RunFrom (Word.byteSize (Word.joinChars front)) residual) ∧
      (ofBase q.hasRelation base = ⟨none, []⟩ ↔
        ∀ front, front <+: Word.splitChars rest → front ≠ [] →
          q.hasRelation (Word.name front) = false)) ∧
    ∀ (c : Char) (tail : List Char), Text.isSmall c = true →
      q.hasRelation (String.ofList (c :: tail)) = true →
      ∃ front residual,
        ofBase q.hasRelation (String.ofList ("with".toList ++ c.toUpper :: tail)) =
          ⟨some (Word.join front), residual⟩ ∧
        front <+: Word.splitChars (c :: tail) ∧ front ≠ [] := by
  refine ⟨fun base => ⟨dropBytes 4 base.toList, isBehind_dropBytes 4 base.toList,
    exists_relation_ofBase_iff, fun name residual => ?_, ofBase_eq_none_iff⟩,
    fun c tail => exists_ofBase_with⟩
  rw [ofBase_eq_some_iff]
  constructor
  · rintro ⟨front, hfront, hname⟩
    obtain ⟨htext, hrun⟩ := runFrom_residual hfront.append
    exact ⟨front, hfront, hname, htext, hrun⟩
  · rintro ⟨front, hfront, hname, -, -⟩
    exact ⟨front, hfront, hname⟩

namespace Samples

/-- Where a post has an `author` and an `authorName`, the name of the latter leads to the former. -/
theorem ofBase_withAuthorName :
    (shopPosts 2).hasRelation "authorName" = true ∧
    RelationSplit.ofBase (shopPosts 2).hasRelation "withAuthorName" =
      ⟨some "author", [⟨"Name", 6, 10⟩]⟩ ∧
    ∃ front residual,
      RelationSplit.ofBase (shopPosts 2).hasRelation "withAuthorName" =
        ⟨some (Word.join front), residual⟩ ∧
      front <+: Word.splitChars "authorName".toList ∧ front ≠ [] := by
  have hrelation : (shopPosts 2).hasRelation "authorName" = true := by decide
  exact ⟨hrelation, by decide +kernel,
    (Query.ofBase_hasRelation (shopPosts 2)).2 'a' "uthorName".toList (by decide) hrelation⟩

end Samples

end Criteria
