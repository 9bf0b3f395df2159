import Criteria.Call.Parser
import Mathlib.Data.List.Basic

/-!
# What is read from a method name

A method name can be divided in several ways: its base may begin with what looks like an opening and
end with what looks like an ending. Main statements: the part after the first character of a base is
the shortest run of word characters that an ending follows (`Call.readTail?_eq_some_iff`), and of
the openings that begin with a connective the one with a negation is tried first
(`Call.readOpened?_word`).
-/

namespace Criteria.Call

/-! ## Endings -/

theorem readEnding?_eq_some_iff {s : List Char} {gate : Option Gate} {only : Bool} :
    readEnding? s = some (gate, only) ↔ s = ending gate only := by
  constructor
  · intro h
    have hall : ∀ e ∈ endings, e.1 = ending e.2.1 e.2.2 := by decide
    obtain ⟨before, after, hsplit, -⟩ := List.lookup_eq_some_iff.1 h
    refine hall (s, gate, only) ?_
    rw [hsplit]
    exact List.mem_append_right _ List.mem_cons_self
  · rintro rfl
    cases only <;> rcases gate with _ | _ | _ <;> decide

theorem ending_injective {gate gate' : Option Gate} {only only' : Bool}
    (h : ending gate only = ending gate' only') : gate = gate' ∧ only = only' := by
  have hread := readEnding?_eq_some_iff.2 h.symm
  rw [readEnding?_eq_some_iff.2 rfl] at hread
  cases hread
  exact ⟨rfl, rfl⟩

theorem isWord_of_mem_ending {gate : Option Gate} {only : Bool} :
    ∀ c ∈ ending gate only, Text.isWord c = true := by
  refine List.all_eq_true.1 ?_
  cases only <;> rcases gate with _ | _ | _ <;> decide +kernel

/-! ## Tails -/

/-- The text is this tail and an ending, and no shorter tail leaves an ending behind. -/
structure IsFirstTail (s tail : List Char) (gate : Option Gate) (only : Bool) : Prop where
  eq : s = tail ++ ending gate only
  ne_nil : tail ≠ []
  isWord : ∀ c ∈ tail, Text.isWord c = true
  first : ∀ shorter gate' only', shorter ≠ [] → s = shorter ++ ending gate' only' →
    tail.length ≤ shorter.length

namespace IsFirstTail

variable {c : Char} {s rest tail : List Char} {gate : Option Gate} {only : Bool}

theorem exists_cons (h : IsFirstTail s tail gate only) :
    ∃ c tail', tail = c :: tail' ∧ s = c :: (tail' ++ ending gate only) ∧
      Text.isWord c = true := by
  obtain ⟨c, tail', rfl⟩ := List.exists_cons_of_ne_nil h.ne_nil
  exact ⟨c, tail', rfl, h.eq, h.isWord c List.mem_cons_self⟩

/-- Before an ending, one character is a tail, and there is no shorter one. -/
theorem cons_ending_iff (hc : Text.isWord c = true) {gate' : Option Gate} {only' : Bool} :
    IsFirstTail (c :: ending gate' only') tail gate only ↔
      tail = [c] ∧ gate = gate' ∧ only = only' := by
  constructor
  · intro h
    have hone : tail.length ≤ 1 := h.first [c] gate' only' (List.cons_ne_nil c []) rfl
    obtain ⟨d, tail', rfl, heq, -⟩ := h.exists_cons
    have hnil : tail' = [] := List.eq_nil_of_length_eq_zero (by simpa using hone)
    subst hnil
    obtain ⟨rfl, hrest⟩ := List.cons.inj heq
    obtain ⟨rfl, rfl⟩ := ending_injective hrest
    exact ⟨rfl, rfl, rfl⟩
  · rintro ⟨rfl, rfl, rfl⟩
    refine ⟨rfl, List.cons_ne_nil c [], ?_, ?_⟩
    · intro d hd
      rw [List.mem_singleton.1 hd]
      exact hc
    · intro shorter _ _ hne _
      exact List.length_pos_iff.2 hne

/-- Before anything else, a tail goes on. -/
theorem cons_iff (hc : Text.isWord c = true) (hrest : ∀ gate only, rest ≠ ending gate only) :
    IsFirstTail (c :: rest) tail gate only ↔
      ∃ tail', tail = c :: tail' ∧ IsFirstTail rest tail' gate only := by
  constructor
  · intro h
    obtain ⟨d, tail', rfl, hsplit, -⟩ := h.exists_cons
    obtain ⟨rfl, heq⟩ := List.cons.inj hsplit
    refine ⟨tail', rfl, heq, ?_, fun e he => h.isWord e (List.mem_cons_of_mem _ he), ?_⟩
    · rintro rfl
      exact hrest gate only heq
    · intro shorter gate' only' _ hshorter
      have hle := h.first (c :: shorter) gate' only' (List.cons_ne_nil c shorter) <| by
        rw [hshorter, List.cons_append]
      exact Nat.le_of_succ_le_succ hle
  · rintro ⟨tail', rfl, h⟩
    refine ⟨by rw [h.eq, List.cons_append], List.cons_ne_nil c tail', ?_, ?_⟩
    · intro d hd
      rcases List.mem_cons.1 hd with rfl | hd
      · exact hc
      · exact h.isWord d hd
    · intro shorter gate' only' hne hshorter
      obtain ⟨d, shorter', rfl⟩ := List.exists_cons_of_ne_nil hne
      have hrest' : rest = shorter' ++ ending gate' only' := (List.cons.inj hshorter).2
      have hne' : shorter' ≠ [] := by
        rintro rfl
        exact hrest gate' only' hrest'
      exact Nat.succ_le_succ (h.first shorter' gate' only' hne' hrest')

end IsFirstTail

theorem readTail?_eq_some_iff {s tail : List Char} {gate : Option Gate} {only : Bool} :
    readTail? s = some (tail, gate, only) ↔ IsFirstTail s tail gate only := by
  induction s generalizing tail with
  | nil =>
    constructor
    · intro h
      cases h
    · intro h
      obtain ⟨c, tail', -, heq, -⟩ := h.exists_cons
      cases heq
  | cons c rest ih =>
    rw [readTail?]
    by_cases hc : Text.isWord c = true
    · rw [if_pos hc]
      cases hending : readEnding? rest with
      | some meaning =>
        obtain ⟨gate', only'⟩ := meaning
        rw [readEnding?_eq_some_iff.1 hending, IsFirstTail.cons_ending_iff hc, Option.some.injEq,
          Prod.mk.injEq, Prod.mk.injEq]
        constructor
        · rintro ⟨rfl, rfl, rfl⟩
          exact ⟨rfl, rfl, rfl⟩
        · rintro ⟨rfl, rfl, rfl⟩
          exact ⟨rfl, rfl, rfl⟩
      | none =>
        have hrest : ∀ gate only, rest ≠ ending gate only := by
          intro gate only h
          rw [readEnding?_eq_some_iff.2 h] at hending
          cases hending
        rw [IsFirstTail.cons_iff hc hrest, Option.map_eq_some_iff]
        constructor
        · rintro ⟨⟨tail', gate', only'⟩, htail, heq⟩
          cases heq
          exact ⟨tail', rfl, ih.1 htail⟩
        · rintro ⟨tail', rfl, htail⟩
          exact ⟨_, ih.2 htail, rfl⟩
    · rw [if_neg hc]
      constructor
      · intro h
        cases h
      · intro h
        obtain ⟨d, tail', -, heq, hd⟩ := h.exists_cons
        obtain ⟨rfl, -⟩ := List.cons.inj heq
        exact absurd hd hc

/-- Whatever begins with a word character and ends with an ending has a first tail. -/
theorem exists_isFirstTail {tail : List Char} (hne : tail ≠ [])
    (hword : ∀ c ∈ tail, Text.isWord c = true) (gate : Option Gate) (only : Bool) :
    ∃ tail' gate' only', IsFirstTail (tail ++ ending gate only) tail' gate' only' := by
  have hsome : ∃ found, readTail? (tail ++ ending gate only) = some found := by
    induction tail with
    | nil => exact absurd rfl hne
    | cons c tail ih =>
      rw [List.cons_append, readTail?, if_pos (hword c List.mem_cons_self)]
      cases hending : readEnding? (tail ++ ending gate only) with
      | some meaning => exact ⟨_, rfl⟩
      | none =>
        have hne' : tail ≠ [] := by
          rintro rfl
          rw [List.nil_append, readEnding?_eq_some_iff.2 rfl] at hending
          cases hending
        obtain ⟨found, hfound⟩ := ih hne' fun d hd => hword d (List.mem_cons_of_mem _ hd)
        exact ⟨_, Option.map_eq_some_iff.2 ⟨found, hfound, rfl⟩⟩
  obtain ⟨⟨tail', gate', only'⟩, hfound⟩ := hsome
  exact ⟨tail', gate', only', readTail?_eq_some_iff.1 hfound⟩

/-! ## Bases -/

theorem readBase?_eq_some_iff {isFirst : Char → Bool} {s base : List Char} {gate : Option Gate}
    {only : Bool} :
    readBase? isFirst s = some (base, gate, only) ↔
      ∃ c rest tail, s = c :: rest ∧ base = c :: tail ∧ isFirst c = true ∧
        IsFirstTail rest tail gate only := by
  cases s with
  | nil => simp [readBase?]
  | cons c rest =>
    rw [readBase?]
    constructor
    · intro h
      split at h
      · next hc =>
        obtain ⟨⟨tail, gate', only'⟩, htail, heq⟩ := Option.map_eq_some_iff.1 h
        cases heq
        exact ⟨c, rest, tail, rfl, rfl, hc, readTail?_eq_some_iff.1 htail⟩
      · cases h
    · rintro ⟨d, rest', tail, hs, rfl, hd, htail⟩
      cases hs
      rw [if_pos hd]
      exact Option.map_eq_some_iff.2 ⟨_, readTail?_eq_some_iff.2 htail, rfl⟩

/-- A text of word characters has a base exactly if it begins as one and does not end there. -/
theorem exists_readBase?_iff {isFirst : Char → Bool} {s : List Char}
    (hword : ∀ c ∈ s, Text.isWord c = true) :
    (∃ found, readBase? isFirst s = some found) ↔
      ∃ c rest, s = c :: rest ∧ isFirst c = true ∧ rest ≠ [] := by
  constructor
  · rintro ⟨⟨base, gate, only⟩, h⟩
    obtain ⟨c, rest, tail, rfl, -, hc, htail⟩ := readBase?_eq_some_iff.1 h
    refine ⟨c, rest, rfl, hc, ?_⟩
    rw [htail.eq]
    exact List.append_ne_nil_of_left_ne_nil htail.ne_nil _
  · rintro ⟨c, rest, rfl, hc, hne⟩
    have hrest : rest ++ ending none false = rest := List.append_nil rest
    obtain ⟨tail, gate, only, htail⟩ := exists_isFirstTail hne
      (fun d hd => hword d (List.mem_cons_of_mem _ hd)) none false
    rw [hrest] at htail
    exact ⟨_, readBase?_eq_some_iff.2 ⟨c, rest, tail, rfl, rfl, hc, htail⟩⟩

/-! ## Openings -/

/-- The call that is read behind an opening. -/
def readBehind? (opening : List Char) (connective : Connective) (negate : Bool) (s : List Char) :
    Option Call :=
  ((Text.after? opening s).bind (readBase? Text.isCapital)).map fun found =>
    make connective negate found.1 found.2.1 found.2.2

theorem readBehind?_eq_bind (opening : List Char) (connective : Connective) (negate : Bool)
    (s : List Char) :
    readBehind? opening connective negate s = (do
      let rest ← Text.after? opening s
      let (base, gate, only) ← readBase? Text.isCapital rest
      return make connective negate base gate only) := by
  unfold readBehind?
  cases Text.after? opening s with
  | none => rfl
  | some rest =>
    show (readBase? Text.isCapital rest).map _ = (readBase? Text.isCapital rest).bind _
    cases readBase? Text.isCapital rest <;> rfl

/-- The openings are tried one after another. -/
theorem readOpened?_eq (s : List Char) :
    readOpened? s = (readBehind? "andNot".toList .and true s <|>
      readBehind? "and".toList .and false s <|> readBehind? "orNot".toList .or true s <|>
      readBehind? "or".toList .or false s <|> readBehind? "not".toList .and true s) := by
  have hcons : ∀ (f : List Char × Connective × Bool → Option Call) opening others,
      (opening :: others).findSome? f = (f opening <|> others.findSome? f) := by
    intro f opening others
    rw [List.findSome?_cons]
    cases f opening <;> rfl
  unfold readOpened? openings
  rw [hcons, hcons, hcons, hcons, List.findSome?_singleton]
  simp only [← readBehind?_eq_bind]

/-- What follows a connective is a negated base, if it can be, and else a base. -/
theorem readOpened?_word (connective : Connective) (s : List Char) :
    readOpened? (connective.word ++ s) =
      (readBehind? "Not".toList connective true s <|> readBehind? [] connective false s) := by
  have hnone : ∀ x : Option Call, (x <|> none) = x := by
    intro x
    cases x <;> rfl
  rw [readOpened?_eq]
  cases connective with
  | and =>
    show (readBehind? "Not".toList .and true s <|> readBehind? [] .and false s <|> none) = _
    rw [hnone]
  | or =>
    show (readBehind? "Not".toList .or true s <|> readBehind? [] .or false s <|> none) = _
    rw [hnone]

end Criteria.Call
