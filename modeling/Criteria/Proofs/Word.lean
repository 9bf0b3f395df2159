import Criteria.Word
import Mathlib.Data.List.Infix

/-!
# The bytes of words

Main statement: the words of a text stand one behind the other from its first byte on
(`Word.runFrom_splitChars`), and so do those that are left when some are taken from its beginning
(`Word.RunFrom.of_append`).
-/

namespace Criteria.Word

variable {start : Nat} {front rest : List Word}

@[simp] theorem byteSize_nil : byteSize [] = 0 := rfl

@[simp] theorem byteSize_cons (c : Char) (s : List Char) :
    byteSize (c :: s) = c.utf8Size + byteSize s := rfl

@[simp] theorem byteSize_append (s t : List Char) :
    byteSize (s ++ t) = byteSize s + byteSize t := by
  induction s with
  | nil => rw [List.nil_append, byteSize_nil, Nat.zero_add]
  | cons c s ih => rw [List.cons_append, byteSize_cons, byteSize_cons, ih, Nat.add_assoc]

@[simp] theorem joinChars_cons (w : Word) (ws : List Word) :
    joinChars (w :: ws) = w.text.toList ++ joinChars ws := rfl

theorem joinChars_append (front rest : List Word) :
    joinChars (front ++ rest) = joinChars front ++ joinChars rest := List.flatMap_append

/-- The words stand one behind the other from a byte on, and each takes the bytes of its text. -/
inductive RunFrom : Nat → List Word → Prop
  | nil (start : Nat) : RunFrom start []
  | cons {start : Nat} {w : Word} {rest : List Word} (hstart : w.start = start)
    (hstop : w.stop = start + byteSize w.text.toList) (hrest : RunFrom w.stop rest) :
    RunFrom start (w :: rest)

theorem runFrom_place (start : Nat) (ps : List (List Char)) : RunFrom start (place start ps) := by
  induction ps generalizing start with
  | nil => exact .nil start
  | cons p ps ih =>
    refine .cons rfl ?_ (ih _)
    show start + byteSize p = start + byteSize (String.ofList p).toList
    rw [String.toList_ofList]

theorem runFrom_splitChars (s : List Char) : RunFrom 0 (splitChars s) := runFrom_place 0 (pieces s)

/-- What is left of the words goes on where those before it end. -/
theorem RunFrom.of_append (h : RunFrom start (front ++ rest)) :
    RunFrom (start + byteSize (joinChars front)) rest := by
  induction front generalizing start with
  | nil => exact h
  | cons w front ih =>
    cases h with
    | cons hstart hstop hrest =>
      have hbehind := ih hrest
      rw [hstop, Nat.add_assoc, ← byteSize_append, ← joinChars_cons] at hbehind
      exact hbehind

/-- Where the first piece ends does not depend on its first character. -/
theorem exists_pieces_cons (s : List Char) :
    ∃ piece others, ∀ c, pieces (c :: s) = (c :: piece) :: others := by
  cases h : pieces s with
  | nil => exact ⟨[], [], fun c => by rw [pieces, h]⟩
  | cons piece others =>
    by_cases hpiece : piece.head?.any Text.isUpper = true
    · exact ⟨[], piece :: others, fun c => by rw [pieces, h]; exact if_pos hpiece⟩
    · exact ⟨piece, others, fun c => by rw [pieces, h]; exact if_neg hpiece⟩

end Criteria.Word
