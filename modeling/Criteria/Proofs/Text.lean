import Criteria.Text.Blank

/-!
# Ends of texts

What the removal of blanks does to a text is seen from its two ends. Main statement: nothing is lost
of a text that neither begins nor ends in a blank (`Text.trim_of_visible`).
-/

namespace Criteria.Text

variable {s t : List Char} {c : Char}

/-- The text does not end in a blank. -/
def EndsVisibly (s : List Char) : Prop := ∀ c ∈ s.getLast?, isBlank c = false

/-- No visible character of ASCII is a blank. -/
theorem isBlank_of_visible (hlow : 0x21 ≤ c.toNat) (hhigh : c.toNat < 0x7F) :
    isBlank c = false := by
  simp only [isBlank, blankRanges, Ranges.has_cons, Ranges.has_nil, Bool.and_eq_false_iff,
    Bool.or_eq_false_iff, decide_eq_false_iff_not]
  omega

theorem isBlank_of_isDigit (h : c.isDigit = true) : isBlank c = false := by
  obtain ⟨hlow, hhigh⟩ := Char.isDigit_iff_toNat.1 h
  have hzero : '0'.toNat = 0x30 := rfl
  have hnine : '9'.toNat = 0x39 := rfl
  apply isBlank_of_visible <;> omega

theorem endsVisibly_of_forall (h : ∀ c ∈ s, isBlank c = false) : EndsVisibly s :=
  fun c hc => h c (List.mem_of_getLast? hc)

theorem EndsVisibly.append (ht : EndsVisibly t) (hne : t ≠ []) (s : List Char) :
    EndsVisibly (s ++ t) := by
  intro c hc
  rw [List.getLast?_append, List.getLast?_eq_some_getLast hne, Option.some_or] at hc
  exact ht c (by rw [List.getLast?_eq_some_getLast hne]; exact hc)

theorem EndsVisibly.trimEnd_eq (h : EndsVisibly s) : trimEnd s = s := by
  unfold trimEnd
  cases hs : s.reverse with
  | nil => simpa using hs
  | cons c rest =>
    have hc : isBlank c = false := by
      refine h c ?_
      rw [← List.head?_reverse, hs]
      rfl
    rw [List.dropWhile_cons_of_neg (by simp [hc]), ← hs, List.reverse_reverse]

theorem trim_of_visible (hc : isBlank c = false) (hend : EndsVisibly (c :: s)) :
    trim (c :: s) = c :: s := by
  have hstart : trimStart (c :: s) = c :: s := List.dropWhile_cons_of_neg (by simp [hc])
  rw [trim, hstart, hend.trimEnd_eq]

end Criteria.Text
