import Criteria.Text.Ranges

/-!
# Blanks

The characters with the Unicode property White_Space, and the removal of blanks from both ends of a
text.
-/

namespace Criteria.Text

/-- The code points with the property White_Space. -/
def blankRanges : Ranges :=
  [(0x9, 0xD), (0x20, 0x20), (0x85, 0x85), (0xA0, 0xA0), (0x1680, 0x1680), (0x2000, 0x200A),
   (0x2028, 0x2029), (0x202F, 0x202F), (0x205F, 0x205F), (0x3000, 0x3000)]

/-- The character is white space in the sense of Unicode. -/
def isBlank (c : Char) : Bool := blankRanges.has c.toNat

def trimStart (s : List Char) : List Char := s.dropWhile isBlank

def trimEnd (s : List Char) : List Char := (s.reverse.dropWhile isBlank).reverse

def trim (s : List Char) : List Char := trimEnd (trimStart s)

@[simp] theorem trimStart_nil : trimStart [] = [] := rfl

@[simp] theorem trimEnd_nil : trimEnd [] = [] := rfl

@[simp] theorem trim_nil : trim [] = [] := rfl

theorem trimStart_append_of_blank {b : List Char} (h : ∀ c ∈ b, isBlank c = true) (s : List Char) :
    trimStart (b ++ s) = trimStart s := by
  unfold trimStart
  rw [List.dropWhile_append_of_pos h]

theorem trimEnd_append_of_blank {b : List Char} (h : ∀ c ∈ b, isBlank c = true) (s : List Char) :
    trimEnd (s ++ b) = trimEnd s := by
  unfold trimEnd
  rw [List.reverse_append, List.dropWhile_append_of_pos (by simpa using h)]

/-- Blanks around a text make no difference, whatever it begins and ends with. -/
theorem trim_append_of_blank {before after : List Char} (hbefore : ∀ c ∈ before, isBlank c = true)
    (hafter : ∀ c ∈ after, isBlank c = true) (s : List Char) :
    trim (before ++ s ++ after) = trim s := by
  rw [trim, trim, List.append_assoc, trimStart_append_of_blank hbefore]
  unfold trimStart
  rw [List.dropWhile_append]
  split
  · next hblank =>
    have hnil : after.dropWhile isBlank = [] := by
      have h := trimStart_append_of_blank hafter []
      rwa [List.append_nil] at h
    rw [hnil, List.isEmpty_iff.1 hblank]
  · exact trimEnd_append_of_blank hafter _

theorem trimStart_eq_self {s : List Char} (h : ∀ c ∈ s, isBlank c = false) : trimStart s = s := by
  cases s with
  | nil => rfl
  | cons c s => exact List.dropWhile_cons_of_neg (by simp [h c List.mem_cons_self])

theorem trim_eq_self {s : List Char} (h : ∀ c ∈ s, isBlank c = false) : trim s = s := by
  have hreverse : trimStart s.reverse = s.reverse :=
    trimStart_eq_self fun c hc => h c (List.mem_reverse.1 hc)
  rw [trim, trimStart_eq_self h]
  show (trimStart s.reverse).reverse = s
  rw [hreverse, List.reverse_reverse]

end Criteria.Text
