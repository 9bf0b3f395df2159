/-!
# Cutting texts apart

Pieces between separators, the longest runs of a class of characters, and what follows a given
beginning. Main statements: the pieces between separators hold no separator, and with the separator
between them they are the text again (`splitAll_intercalate`); texts that hold no separator are what
lies between the separators of the text made of them (`splitAll_of_intercalate`).
-/

namespace Criteria.Text

/-- The pieces between the separators: one more than there are separators. -/
def splitAll (isSeparator : Char → Bool) : List Char → List (List Char)
  | [] => [[]]
  | c :: rest =>
    match splitAll isSeparator rest with
    | [] => [[c]]
    | piece :: others => if isSeparator c then [] :: piece :: others else (c :: piece) :: others

def runs (isMember : Char → Bool) (s : List Char) : List (List Char) :=
  (splitAll (fun c => !isMember c) s).filter fun piece => !piece.isEmpty

/-- What follows `start` in a text that begins with it. -/
def after? : List Char → List Char → Option (List Char)
  | [], s => some s
  | _ :: _, [] => none
  | a :: start, c :: rest => if a = c then after? start rest else none

theorem splitAll_ne_nil (isSeparator : Char → Bool) (s : List Char) :
    splitAll isSeparator s ≠ [] := by
  cases s with
  | nil => simp [splitAll]
  | cons c rest =>
    simp only [splitAll]
    split
    · simp
    · split <;> simp

/-- The pieces with the separator between them are the text again. -/
theorem splitAll_intercalate (separator : Char) (s : List Char) :
    [separator].intercalate (splitAll (· == separator) s) = s := by
  induction s with
  | nil => rfl
  | cons c rest ih =>
    simp only [splitAll]
    split
    · next h => exact absurd h (splitAll_ne_nil _ _)
    · next piece others h =>
      rw [h] at ih
      split
      · next hc =>
        rw [beq_iff_eq] at hc
        subst hc
        simp [List.intercalate, ← ih]
      · cases others with
        | nil => simp_all [List.intercalate]
        | cons next more => simp_all [List.intercalate]

theorem splitAll_of_not_mem {isSeparator : Char → Bool} {piece : List Char}
    (h : ∀ c ∈ piece, isSeparator c = false) : splitAll isSeparator piece = [piece] := by
  induction piece with
  | nil => rfl
  | cons c piece ih =>
    obtain ⟨hc, hpiece⟩ := List.forall_mem_cons.1 h
    rw [splitAll, ih hpiece]
    simp [hc]

theorem splitAll_append {isSeparator : Char → Bool} {piece : List Char}
    (h : ∀ c ∈ piece, isSeparator c = false) {separator : Char}
    (hseparator : isSeparator separator = true) (rest : List Char) :
    splitAll isSeparator (piece ++ separator :: rest) = piece :: splitAll isSeparator rest := by
  induction piece with
  | nil =>
    obtain ⟨first, others, hrest⟩ :=
      List.exists_cons_of_ne_nil (splitAll_ne_nil isSeparator rest)
    simp [splitAll, hrest, hseparator]
  | cons c piece ih =>
    obtain ⟨hc, hpiece⟩ := List.forall_mem_cons.1 h
    rw [List.cons_append, splitAll, ih hpiece]
    simp [hc]

/-- A character outside of the class does not matter to the runs of the class. -/
theorem runs_cons_of_not {isMember : Char → Bool} {c : Char} (hc : isMember c = false)
    (s : List Char) : runs isMember (c :: s) = runs isMember s := by
  have hsplit : splitAll (fun c => !isMember c) (c :: s) =
      [] :: splitAll (fun c => !isMember c) s :=
    @splitAll_append _ [] (by simp) c (by simp [hc]) s
  simp [runs, hsplit]

/-- A run ends before a character outside of the class, or with the text. -/
theorem runs_append {isMember : Char → Bool} {run s : List Char} (hne : run ≠ [])
    (hrun : ∀ c ∈ run, isMember c = true) (hend : ∀ c ∈ s.head?, isMember c = false) :
    runs isMember (run ++ s) = run :: runs isMember s := by
  have hinside : ∀ c ∈ run, (!isMember c) = false := by
    intro c hc
    simp [hrun c hc]
  cases s with
  | nil => simp [runs, splitAll, splitAll_of_not_mem hinside, hne]
  | cons c s =>
    have hc : isMember c = false := hend c rfl
    rw [runs_cons_of_not hc, runs, splitAll_append hinside (by simp [hc])]
    simp [runs, hne]

/-- Texts that hold no separator lie between the separators of the text made of them. -/
theorem splitAll_of_intercalate {separator : Char} {pieces : List (List Char)}
    (hne : pieces ≠ []) (h : ∀ piece ∈ pieces, separator ∉ piece) :
    splitAll (· == separator) ([separator].intercalate pieces) = pieces := by
  induction pieces with
  | nil => exact absurd rfl hne
  | cons piece others ih =>
    have hpiece : ∀ c ∈ piece, (c == separator) = false := by
      intro c hc
      rw [beq_eq_false_iff_ne]
      rintro rfl
      exact h piece List.mem_cons_self hc
    cases others with
    | nil =>
      rw [List.intercalate_singleton]
      exact splitAll_of_not_mem hpiece
    | cons next more =>
      have hothers := ih (List.cons_ne_nil _ _) fun p hp => h p (List.mem_cons_of_mem _ hp)
      rw [List.intercalate_cons_cons, List.append_assoc, List.singleton_append,
        splitAll_append hpiece (beq_self_eq_true separator), hothers]

theorem mem_intercalate {separator c : Char} {pieces : List (List Char)}
    (h : c ∈ [separator].intercalate pieces) : c = separator ∨ ∃ piece ∈ pieces, c ∈ piece := by
  induction pieces with
  | nil => cases h
  | cons piece others ih =>
    cases others with
    | nil =>
      rw [List.intercalate_singleton] at h
      exact Or.inr ⟨piece, List.mem_cons_self, h⟩
    | cons next more =>
      rw [List.intercalate_cons_cons, List.append_assoc, List.mem_append, List.mem_append,
        List.mem_singleton] at h
      rcases h with h | h | h
      · exact Or.inr ⟨piece, List.mem_cons_self, h⟩
      · exact Or.inl h
      · rcases ih h with h | ⟨p, hp, h⟩
        · exact Or.inl h
        · exact Or.inr ⟨p, List.mem_cons_of_mem _ hp, h⟩

theorem mem_intercalate_of_mem {separator c : Char} {pieces : List (List Char)}
    {piece : List Char} (hpiece : piece ∈ pieces) (hc : c ∈ piece) :
    c ∈ [separator].intercalate pieces := by
  induction pieces with
  | nil => cases hpiece
  | cons first others ih =>
    cases others with
    | nil =>
      obtain rfl := List.mem_singleton.1 hpiece
      simpa [List.intercalate_singleton] using hc
    | cons next more =>
      rw [List.intercalate_cons_cons, List.append_assoc]
      rcases List.mem_cons.1 hpiece with rfl | hpiece
      · exact List.mem_append_left _ hc
      · exact List.mem_append_right _ (List.mem_cons_of_mem _ (ih hpiece))

/-- No piece holds a separator. -/
theorem not_mem_of_mem_splitAll {isSeparator : Char → Bool} {s piece : List Char}
    (h : piece ∈ splitAll isSeparator s) : ∀ c ∈ piece, isSeparator c = false := by
  induction s generalizing piece with
  | nil => simp only [splitAll, List.mem_singleton] at h; simp [h]
  | cons c rest ih =>
    simp only [splitAll] at h
    split at h
    · next hnil => exact absurd hnil (splitAll_ne_nil _ _)
    · next first others hs =>
      rw [hs] at ih
      split at h
      · rcases List.mem_cons.1 h with rfl | h
        · simp
        · exact ih h
      · next hc =>
        rcases List.mem_cons.1 h with rfl | h
        · intro d hd
          rcases List.mem_cons.1 hd with rfl | hd
          · simpa using hc
          · exact ih List.mem_cons_self d hd
        · exact ih (List.mem_cons_of_mem _ h)

/-- A text begins with `start` exactly if something follows it there. -/
theorem after?_eq_some {start s rest : List Char} :
    after? start s = some rest ↔ s = start ++ rest := by
  induction start generalizing s with
  | nil => simp [after?]
  | cons a start ih =>
    cases s with
    | nil => simp [after?]
    | cons c s =>
      by_cases h : a = c
      · subst h; simp [after?, ih]
      · simp [after?, h, Ne.symm h]

end Criteria.Text
