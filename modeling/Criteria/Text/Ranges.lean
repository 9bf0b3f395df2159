/-!
# Ranges of code points

A class of characters is written as the ascending list of its closed ranges of code points. Main
statement: on an ascending list, `Ranges.has` answers whether some range holds the code point
(`Ranges.has_iff`), although it stops reading at the first range that begins later.
-/

namespace Criteria.Text

/-- Closed ranges of code points, in ascending order. -/
abbrev Ranges := List (Nat × Nat)

namespace Ranges

/-- The code point lies in one of the ranges. The search ends at the first range that begins after
it. -/
def has : Ranges → Nat → Bool
  | [], _ => false
  | (first, last) :: rest, n => first ≤ n && (n ≤ last || has rest n)

/-- Every range begins after the ones before it. -/
def Ascending (ranges : Ranges) : Prop := ranges.Pairwise fun r s => r.1 ≤ s.1

@[simp] theorem has_nil (n : Nat) : has [] n = false := rfl

theorem has_cons (first last : Nat) (rest : Ranges) (n : Nat) :
    has ((first, last) :: rest) n = (decide (first ≤ n) && (decide (n ≤ last) || has rest n)) := rfl

/-- What is found lies in a range. -/
theorem mem_of_has {ranges : Ranges} {n : Nat} (h : has ranges n = true) :
    ∃ r ∈ ranges, r.1 ≤ n ∧ n ≤ r.2 := by
  induction ranges with
  | nil => simp at h
  | cons r rest ih =>
    obtain ⟨first, last⟩ := r
    simp only [has_cons, Bool.and_eq_true, Bool.or_eq_true, decide_eq_true_eq] at h
    rcases h with ⟨hf, hl | hr⟩
    · exact ⟨(first, last), List.mem_cons_self, hf, hl⟩
    · obtain ⟨s, hs, hn⟩ := ih hr
      exact ⟨s, List.mem_cons_of_mem _ hs, hn⟩

/-- On an ascending list the early end of the search loses nothing. -/
theorem has_iff {ranges : Ranges} (hasc : ranges.Ascending) {n : Nat} :
    has ranges n = true ↔ ∃ r ∈ ranges, r.1 ≤ n ∧ n ≤ r.2 := by
  refine ⟨mem_of_has, ?_⟩
  induction ranges with
  | nil => rintro ⟨r, hr, _⟩; simp at hr
  | cons r rest ih =>
    obtain ⟨first, last⟩ := r
    rintro ⟨s, hs, hn⟩
    obtain ⟨hle, htail⟩ := List.pairwise_cons.1 hasc
    simp only [has_cons, Bool.and_eq_true, Bool.or_eq_true, decide_eq_true_eq]
    rcases List.mem_cons.1 hs with rfl | hs
    · exact ⟨hn.1, Or.inl hn.2⟩
    · exact ⟨Nat.le_trans (hle s hs) hn.1, Or.inr (ih htail ⟨s, hs, hn⟩)⟩

end Ranges

end Criteria.Text
