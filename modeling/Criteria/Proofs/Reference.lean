import Criteria.Reference
import Mathlib.Data.List.TakeWhile

/-!
# Reading references

Main statements: a reference whose name is a word, and whose arguments hold neither a comma nor a
line break, is read back from the token that is written for it (`Reference.parse?_token`); and only
such tokens are references, each to what it is written for (`Reference.parse?_eq_some_iff_token`).
-/

namespace Criteria

/-- One or more word characters. -/
def Text.IsName (s : List Char) : Prop := s ≠ [] ∧ ∀ c ∈ s, isWord c = true

namespace Reference

/-- The argument can stand in a token. -/
def IsInline (arg : String) : Prop := ',' ∉ arg.toList ∧ '\n' ∉ arg.toList

theorem parse?_name {name : List Char} (hname : Text.IsName name) :
    parse? (String.ofList name) = some ⟨String.ofList name, []⟩ := by
  obtain ⟨hne, hword⟩ := hname
  have htake : name.takeWhile Text.isWord = name := List.takeWhile_eq_self_iff.2 hword
  have hdrop : name.dropWhile Text.isWord = [] := List.dropWhile_eq_nil_iff.2 hword
  unfold parse?
  rw [String.toList_ofList]
  simp only [htake, hdrop, List.isEmpty_eq_false_iff.2 hne, Bool.false_eq_true, if_false]

theorem parse?_colon {name args : List Char} (hname : Text.IsName name) (hargs : '\n' ∉ args) :
    parse? (String.ofList (name ++ ':' :: args)) =
      some ⟨String.ofList name, (Text.splitAll (· == ',') args).map String.ofList⟩ := by
  obtain ⟨hne, hword⟩ := hname
  have hcolon : ¬ Text.isWord ':' = true := by decide
  have htake : (name ++ ':' :: args).takeWhile Text.isWord = name := by
    rw [List.takeWhile_append_of_pos hword, List.takeWhile_cons_of_neg hcolon, List.append_nil]
  have hdrop : (name ++ ':' :: args).dropWhile Text.isWord = ':' :: args := by
    rw [List.dropWhile_append_of_pos hword, List.dropWhile_cons_of_neg hcolon]
  have hbreak : args.contains '\n' = false := by
    rw [← Bool.not_eq_true, List.contains_iff_mem]
    exact hargs
  unfold parse?
  rw [String.toList_ofList]
  simp only [htake, hdrop, hbreak, List.isEmpty_eq_false_iff.2 hne, Bool.false_eq_true, if_false]

/-- A reference is read back from its token. -/
theorem parse?_token {r : Reference} (hname : Text.IsName r.name.toList)
    (hargs : ∀ arg ∈ r.args, IsInline arg) : parse? r.token = some r := by
  obtain ⟨name, args⟩ := r
  unfold token
  cases args with
  | nil =>
    rw [argChars, List.append_nil, parse?_name hname, String.ofList_toList]
  | cons arg rest =>
    have hcomma : ∀ piece ∈ (arg :: rest).map String.toList, ',' ∉ piece := by
      intro piece hpiece
      obtain ⟨s, hs, rfl⟩ := List.mem_map.1 hpiece
      exact (hargs s hs).1
    have hbreak : '\n' ∉ [','].intercalate ((arg :: rest).map String.toList) := by
      intro hmem
      rcases Text.mem_intercalate hmem with h | ⟨piece, hpiece, h⟩
      · exact absurd h (by decide)
      · obtain ⟨s, hs, rfl⟩ := List.mem_map.1 hpiece
        exact (hargs s hs).2 h
    have hne : (arg :: rest).map String.toList ≠ [] := List.cons_ne_nil _ _
    have hchars : argChars (arg :: rest) =
        ':' :: [','].intercalate ((arg :: rest).map String.toList) := rfl
    rw [hchars, parse?_colon hname hbreak, Text.splitAll_of_intercalate hne hcomma,
      String.ofList_toList]
    simp

/-! ## Tokens that are references -/

/-- The reference can be written as a token. -/
structure IsWritable (r : Reference) : Prop where
  name : Text.IsName r.name.toList
  args : ∀ arg ∈ r.args, IsInline arg

theorem isName_takeWhile {s : List Char} (h : s.takeWhile Text.isWord ≠ []) :
    Text.IsName (s.takeWhile Text.isWord) := by
  refine ⟨h, ?_⟩
  intro c hc
  exact List.mem_takeWhile_imp hc

/-- The pieces between the commas of what follows a colon are arguments. -/
theorem isInline_of_mem_splitAll {args : List Char} (hbreak : '\n' ∉ args) {arg : String}
    (harg : arg ∈ (Text.splitAll (· == ',') args).map String.ofList) : IsInline arg := by
  obtain ⟨piece, hpiece, rfl⟩ := List.mem_map.1 harg
  unfold IsInline
  rw [String.toList_ofList]
  constructor
  · intro hcomma
    simpa using Text.not_mem_of_mem_splitAll hpiece ',' hcomma
  · intro hmem
    apply hbreak
    rw [← Text.splitAll_intercalate ',' args]
    exact Text.mem_intercalate_of_mem hpiece hmem

/-- The arguments between commas are written as they stood. -/
theorem argChars_splitAll (args : List Char) :
    argChars ((Text.splitAll (· == ',') args).map String.ofList) = ':' :: args := by
  have hpieces : ((Text.splitAll (· == ',') args).map String.ofList).map String.toList =
      Text.splitAll (· == ',') args := by
    simp [Function.comp_def]
  obtain ⟨first, others, hsplit⟩ :=
    List.exists_cons_of_ne_nil (Text.splitAll_ne_nil (· == ',') args)
  have hchars : argChars ((Text.splitAll (· == ',') args).map String.ofList) =
      ':' :: [','].intercalate
        (((Text.splitAll (· == ',') args).map String.ofList).map String.toList) := by
    rw [hsplit]
    rfl
  rw [hchars, hpieces, Text.splitAll_intercalate]

/-- What is read from a token can be written, and is written as the token. -/
theorem isWritable_of_parse? {token : String} {r : Reference} (h : parse? token = some r) :
    r.IsWritable ∧ r.token = token := by
  have hsplit := List.takeWhile_append_dropWhile (p := Text.isWord) (l := token.toList)
  unfold parse? at h
  by_cases hname : token.toList.takeWhile Text.isWord = []
  · simp [hname] at h
  · have hword := isName_takeWhile hname
    simp only [List.isEmpty_eq_false_iff.2 hname, Bool.false_eq_true, if_false] at h
    split at h
    · -- no colon: the whole token is the name
      next hrest =>
      obtain rfl := Option.some.inj h
      rw [hrest, List.append_nil] at hsplit
      refine ⟨⟨by simpa using hword, by simp⟩, ?_⟩
      simp [Reference.token, argChars, hsplit]
    · next args hrest =>
      split at h
      · cases h
      · next hbreak =>
        obtain rfl := Option.some.inj h
        rw [hrest] at hsplit
        rw [List.contains_iff_mem] at hbreak
        refine ⟨⟨by simpa using hword, ?_⟩, ?_⟩
        · intro arg harg
          exact isInline_of_mem_splitAll hbreak harg
        · simp only [Reference.token, String.toList_ofList, argChars_splitAll, hsplit,
            String.ofList_toList]
    · cases h

/-- Tokens that are references and references that can be written correspond: a token is read as a
reference exactly if it is the one that is written for it, and read as none if it is written for
none. -/
theorem parse?_eq_some_iff_token (token : String) :
    (∀ r : Reference, parse? token = some r ↔ r.IsWritable ∧ r.token = token) ∧
      (parse? token = none ↔ ∀ r : Reference, r.IsWritable → r.token ≠ token) := by
  have hiff : ∀ r : Reference, parse? token = some r ↔ r.IsWritable ∧ r.token = token := by
    intro r
    constructor
    · exact isWritable_of_parse?
    · rintro ⟨hwritable, rfl⟩
      exact parse?_token hwritable.name hwritable.args
  refine ⟨hiff, ?_⟩
  rw [Option.eq_none_iff_forall_ne_some]
  apply forall_congr'
  intro r
  rw [Ne, hiff, not_and]

end Reference

end Criteria
