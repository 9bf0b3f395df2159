import Criteria.Proofs.Call.Reading
import Criteria.Proofs.Reference

/-!
# Bases of calls

Main statement: the base of a call is a word (`Call.isName_base`), so that it can be written as the
name of a reference.
-/

namespace Criteria

namespace Text

theorem lowerChar_of_isCapital {c : Char} (h : isCapital c = true) :
    lowerChar c = [Char.ofNat (c.toNat + 32)] ∧
      (Char.ofNat (c.toNat + 32)).toNat = c.toNat + 32 := by
  obtain ⟨hlow, hhigh⟩ := isCapital_iff.1 h
  have hdot : c ≠ 'İ' := by
    rintro rfl
    exact absurd hhigh (by decide)
  have hvalid : (c.toNat + 32).isValidChar := Or.inl (by omega)
  constructor
  · unfold lowerChar
    rw [if_neg hdot, find?_lowerRuns (by omega), if_pos ⟨hlow, hhigh⟩]
    rfl
  · unfold Char.ofNat
    rw [dif_pos hvalid]
    rfl

theorem exists_lowerChar_of_isCapital {c : Char} (h : isCapital c = true) :
    ∃ d, lowerChar c = [d] ∧ isSmall d = true := by
  obtain ⟨hlow, hhigh⟩ := isCapital_iff.1 h
  obtain ⟨hlower, hnat⟩ := lowerChar_of_isCapital h
  refine ⟨_, hlower, isSmall_iff.2 ?_⟩
  omega

theorem lowerChar_of_isSmall {c : Char} (h : isSmall c = true) : lowerChar c = [c] := by
  obtain ⟨hlow, hhigh⟩ := isSmall_iff.1 h
  rw [lowerChar_of_ascii (by omega), toLower_eq_self (by omega)]

theorem isName_lowerFirst {c : Char} {tail : List Char}
    (hc : isCapital c = true ∨ isSmall c = true) (htail : ∀ d ∈ tail, isWord d = true) :
    IsName (lowerFirst (c :: tail)) := by
  obtain ⟨d, hlower, hd⟩ : ∃ d, lowerChar c = [d] ∧ isSmall d = true := by
    rcases hc with hc | hc
    · exact exists_lowerChar_of_isCapital hc
    · exact ⟨c, lowerChar_of_isSmall hc, hc⟩
  rw [lowerFirst_cons, hlower, List.singleton_append]
  refine ⟨List.cons_ne_nil _ _, fun e he => ?_⟩
  rcases List.mem_cons.1 he with rfl | he
  · exact isWord_of_isSmall hd
  · exact htail e he

end Text

namespace Call

/-- The base of a call is a word. -/
theorem isName_base {method : String} {call : Call} (h : parse? method = some call) :
    Text.IsName call.base.toList := by
  have hmake : ∀ {isFirst : Char → Bool} {s base : List Char} {gate : Option Gate} {only : Bool}
      (connective : Connective) (negate : Bool),
      (∀ c, isFirst c = true → Text.isCapital c = true ∨ Text.isSmall c = true) →
      readBase? isFirst s = some (base, gate, only) →
        Text.IsName (make connective negate base gate only).base.toList := by
    intro isFirst s base gate only connective negate hfirst hbase
    obtain ⟨c, rest, tail, -, rfl, hc, htail⟩ := readBase?_eq_some_iff.1 hbase
    rw [make, String.toList_ofList]
    exact Text.isName_lowerFirst (hfirst c hc) htail.isWord
  unfold parse? at h
  cases hopened : readOpened? method.toList with
  | some call' =>
    rw [hopened] at h
    cases h
    obtain ⟨⟨opening, connective, negate⟩, -, h⟩ := List.exists_of_findSome?_eq_some hopened
    obtain ⟨rest, -, h⟩ := Option.bind_eq_some_iff.1 h
    obtain ⟨⟨base, gate, only⟩, hbase, h⟩ := Option.bind_eq_some_iff.1 h
    cases h
    exact hmake connective negate (fun _ => Or.inl) hbase
  | none =>
    rw [hopened] at h
    obtain ⟨⟨base, gate, only⟩, hbase, h⟩ := Option.bind_eq_some_iff.1 h
    cases h
    exact hmake .and false (fun _ => Or.inr) hbase

end Call

end Criteria
