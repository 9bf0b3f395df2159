import Criteria.Proofs.Call.Base
import Mathlib.Data.Prod.Lex

/-!
# The priority of readings

A method name may be divided into an opening, a base and an ending in several ways, and one of them
is taken. The ways are written down here without the reader, with the order in which they are
preferred: an opening before none, a negation before none, a shorter base before a longer one. Main
statements: behind each opening the way with the shortest base is read
(`Call.Opening.read?_eq_some_iff`), of two openings that a name may begin with the preferred one is
tried first (`Call.Opening.pairwise_all`), and so the call of a name is that of the way which is
preferred to all others (`Call.parse?_eq_some_iff_isFirst`).
-/

namespace Criteria

namespace Text

theorem lowerChar_eq_toLower {c : Char} (h : isCapital c = true ∨ isSmall c = true) :
    lowerChar c = [c.toLower] := by
  rw [isCapital_iff, isSmall_iff] at h
  exact lowerChar_of_ascii (by omega)

theorem isSmall_toLower {c : Char} (h : isCapital c = true ∨ isSmall c = true) :
    isSmall c.toLower = true := by
  have hlower := lowerChar_eq_toLower h
  rcases h with h | h
  · obtain ⟨d, hd, hsmall⟩ := exists_lowerChar_of_isCapital h
    rw [hlower] at hd
    rw [(List.cons.inj hd).1]
    exact hsmall
  · rw [lowerChar_of_isSmall h] at hlower
    rw [← (List.cons.inj hlower).1]
    exact h

end Text

theorem startsRelation_eq_true_iff {s : List Char} :
    startsRelation s = true ↔ ∃ w c rest, (w = 'w' ∨ w = 'W') ∧ Text.isCapital c = true ∧
      s = w :: 'i' :: 't' :: 'h' :: c :: rest := by
  constructor
  · intro h
    unfold startsRelation at h
    split at h
    · next w c rest =>
      simp only [Bool.and_eq_true, Bool.or_eq_true, beq_iff_eq] at h
      exact ⟨w, c, rest, h.1, h.2, rfl⟩
    · cases h
  · rintro ⟨w, c, rest, hw, hc, rfl⟩
    rcases hw with rfl | rfl
    · simpa [startsRelation] using hc
    · simpa [startsRelation] using hc

namespace Call

/-! ## Ways to divide a name -/

/-- What may stand before the base of a call. -/
inductive Opening
  | nothing
  | not
  | word (connective : Connective) (negated : Bool)
  deriving DecidableEq

/-- An opening, a base and an ending. -/
structure Way where
  opening : Opening
  base : List Char
  gate : Option Gate
  conditionOnly : Bool

namespace Opening

def text : Opening → List Char
  | nothing => []
  | not => "not".toList
  | word .and false => "and".toList
  | word .and true => "andNot".toList
  | word .or false => "or".toList
  | word .or true => "orNot".toList

def connective : Opening → Connective
  | nothing | not => .and
  | word connective _ => connective

def negates : Opening → Bool
  | nothing => false
  | not => true
  | word _ negated => negated

/-- The class of the first letter of a base behind the opening. -/
def begins : Opening → Char → Bool
  | nothing => Text.isSmall
  | not | word _ _ => Text.isCapital

/-- Openings are preferred to none, and those with a negation to those without. -/
def rank (o : Opening) : Bool ×ₗ Bool := toLex (decide (o = nothing), !o.negates)

variable {o : Opening} {c : Char}

theorem isCapital_or_isSmall (h : o.begins c = true) :
    Text.isCapital c = true ∨ Text.isSmall c = true := by
  cases o with
  | nothing => exact .inr h
  | not => exact .inl h
  | word => exact .inl h

theorem isWord_of_begins (h : o.begins c = true) : Text.isWord c = true := by
  rcases isCapital_or_isSmall h with h | h
  · exact Text.isWord_of_isCapital h
  · exact Text.isWord_of_isSmall h

theorem isWord_of_mem_text (o : Opening) : ∀ c ∈ o.text, Text.isWord c = true := by
  refine List.all_eq_true.1 ?_
  rcases o with _ | _ | ⟨_ | _, _ | _⟩ <;> decide +kernel

end Opening

namespace Way

variable {w w' : Way} {s : List Char}

/-- The parts, one after another, are the method name. -/
structure Divides (w : Way) (method : List Char) : Prop where
  eq : method = w.opening.text ++ (w.base ++ ending w.gate w.conditionOnly)
  length_base : 2 ≤ w.base.length
  isWord : ∀ c ∈ w.base, Text.isWord c = true
  begins : ∀ c ∈ w.base.head?, w.opening.begins c = true

/-- The preferred way has the smaller key. -/
def key (w : Way) : (Bool ×ₗ Bool) ×ₗ ℕ := toLex (w.opening.rank, w.base.length)

/-- The way that is preferred to every other one. -/
def IsFirst (w : Way) (method : List Char) : Prop :=
  w.Divides method ∧ ∀ w' : Way, w'.Divides method → w' ≠ w → w.key < w'.key

/-- What is asked for by a name that is divided in this way. -/
def call (w : Way) : Call where
  connective := w.opening.connective
  negate := w.opening.negates
  base := String.ofList (w.base.modifyHead Char.toLower)
  gate := w.gate
  conditionOnly := w.conditionOnly

namespace Divides

theorem exists_cons (h : w.Divides s) :
    ∃ c tail, w.base = c :: tail ∧ tail ≠ [] ∧ w.opening.begins c = true ∧
      ∀ d ∈ tail, Text.isWord d = true := by
  have hlength := h.length_base
  have hword := h.isWord
  have hbegins := h.begins
  cases hbase : w.base with
  | nil =>
    rw [hbase, List.length_nil] at hlength
    omega
  | cons c tail =>
    rw [hbase] at hlength hword hbegins
    refine ⟨c, tail, rfl, ?_, hbegins c rfl, fun d hd => hword d (List.mem_cons_of_mem c hd)⟩
    rintro rfl
    rw [List.length_singleton] at hlength
    omega

theorem of_cons {o : Opening} {c : Char} {tail : List Char} {gate : Option Gate} {only : Bool}
    (hs : s = o.text ++ c :: (tail ++ ending gate only)) (hc : o.begins c = true)
    (hne : tail ≠ []) (hword : ∀ d ∈ tail, Text.isWord d = true) :
    Divides ⟨o, c :: tail, gate, only⟩ s := by
  refine ⟨hs, ?_, ?_, ?_⟩
  · exact Nat.succ_le_succ (List.length_pos_iff.2 hne)
  · exact List.forall_mem_cons.2 ⟨Opening.isWord_of_begins hc, hword⟩
  · rintro d ⟨⟩
    exact hc

/-- A name that can be divided begins with a small letter and consists of word characters. -/
theorem exists_small (h : w.Divides s) :
    ∃ c rest, s = c :: rest ∧ Text.isSmall c = true ∧ rest ≠ [] ∧
      ∀ d ∈ rest, Text.isWord d = true := by
  obtain ⟨c, tail, hbase, htail, hc, -⟩ := h.exists_cons
  have hword : ∀ d ∈ s, Text.isWord d = true := by
    rw [h.eq]
    intro d hd
    rcases List.mem_append.1 hd with hd | hd
    · exact Opening.isWord_of_mem_text _ d hd
    rcases List.mem_append.1 hd with hd | hd
    · exact h.isWord d hd
    · exact isWord_of_mem_ending d hd
  have hlength : 2 ≤ s.length := by
    have hlength := h.length_base
    rw [h.eq, List.length_append, List.length_append]
    omega
  have hsmall : ∀ c ∈ s.head?, Text.isSmall c = true := by
    rw [h.eq, hbase]
    cases hopening : w.opening with
    | nothing =>
      rw [hopening] at hc
      rintro d ⟨⟩
      exact hc
    | not =>
      rintro d ⟨⟩
      decide
    | word connective negated =>
      cases connective <;> cases negated <;> rintro d ⟨⟩ <;> decide
  match s, hlength, hsmall, hword with
  | c :: d :: rest, _, hsmall, hword =>
    exact ⟨c, d :: rest, rfl, hsmall c rfl, List.cons_ne_nil d rest,
      fun e he => hword e (List.mem_cons_of_mem c he)⟩

/-- The base of a call is written with a small letter. -/
theorem call_eq_make (h : w.Divides s) :
    w.call = make w.opening.connective w.opening.negates w.base w.gate w.conditionOnly := by
  obtain ⟨c, tail, hbase, -, hc, -⟩ := h.exists_cons
  unfold call make
  rw [hbase, Text.lowerFirst_cons, Text.lowerChar_eq_toLower (Opening.isCapital_or_isSmall hc),
    List.singleton_append, List.modifyHead_cons]

theorem eq_of_length_eq (h : w.Divides s) (h' : w'.Divides s) (hopening : w'.opening = w.opening)
    (hlength : w'.base.length = w.base.length) : w' = w := by
  have hsame := h'.eq.symm.trans h.eq
  rw [hopening] at hsame
  obtain ⟨hbase, hending⟩ := List.append_inj (List.append_cancel_left hsame) hlength
  obtain ⟨hgate, honly⟩ := ending_injective hending
  obtain ⟨opening, base, gate, only⟩ := w
  obtain ⟨opening', base', gate', only'⟩ := w'
  cases hopening
  cases hbase
  cases hgate
  cases honly
  rfl

end Divides

theorem IsFirst.unique (h : w.IsFirst s) (h' : w'.IsFirst s) : w = w' := by
  by_contra hne
  exact lt_asymm (h.2 w' h'.1 (Ne.symm hne)) (h'.2 w h.1 hne)

/-- Of the ways with the same opening this one has the shortest base. -/
def IsShortest (w : Way) (method : List Char) : Prop :=
  w.Divides method ∧
    ∀ w' : Way, w'.Divides method → w'.opening = w.opening → w.base.length ≤ w'.base.length

/-- The shortest base behind an opening is what its first character and the first tail make. -/
theorem isShortest_iff_isFirstTail {o : Opening} {tail : List Char} {gate : Option Gate}
    {only : Bool} {c : Char} {rest : List Char} (hs : s = o.text ++ c :: rest) :
    IsShortest ⟨o, c :: tail, gate, only⟩ s ↔
      o.begins c = true ∧ IsFirstTail rest tail gate only := by
  constructor
  · rintro ⟨h, hshortest⟩
    obtain ⟨c', tail', hbase, hne, hc, hword⟩ := h.exists_cons
    cases hbase
    have hrest : rest = tail ++ ending gate only := by
      have hsame := hs.symm.trans h.eq
      exact (List.cons.inj (List.append_cancel_left hsame)).2
    refine ⟨hc, hrest, hne, hword, fun shorter gate' only' hne' hshorter => ?_⟩
    have hall : ∀ d ∈ shorter, Text.isWord d = true := by
      intro d hd
      have hmem : d ∈ tail ++ ending gate only := by
        rw [← hrest, hshorter]
        exact List.mem_append_left _ hd
      rcases List.mem_append.1 hmem with hmem | hmem
      · exact hword d hmem
      · exact isWord_of_mem_ending d hmem
    rw [hshorter] at hs
    exact Nat.le_of_succ_le_succ (hshortest _ (.of_cons hs hc hne' hall) rfl)
  · rintro ⟨hc, htail⟩
    refine ⟨.of_cons ?_ hc htail.ne_nil htail.isWord, fun w' h' hopening => ?_⟩
    · rw [hs, htail.eq]
    · obtain ⟨d, shorter, hbase, hne, -⟩ := h'.exists_cons
      have hsame := hs.symm.trans h'.eq
      rw [hopening, hbase] at hsame
      have hshorter := (List.cons.inj (List.append_cancel_left hsame)).2
      rw [hbase]
      exact Nat.succ_le_succ (htail.first shorter _ _ hne hshorter)

/-- Where a name can be divided behind an opening, there is a shortest base. -/
theorem Divides.exists_isShortest (h : w.Divides s) :
    ∃ w', w'.opening = w.opening ∧ IsShortest w' s := by
  obtain ⟨c, tail, hbase, hne, hc, hword⟩ := h.exists_cons
  obtain ⟨tail', gate', only', htail'⟩ := exists_isFirstTail hne hword w.gate w.conditionOnly
  refine ⟨⟨w.opening, c :: tail', gate', only'⟩, rfl, ?_⟩
  refine (isShortest_iff_isFirstTail ?_).2 ⟨hc, htail'⟩
  rw [h.eq, hbase, List.cons_append]

end Way

/-! ## Reading behind one opening -/

namespace Opening

variable {o o' : Opening} {s : List Char} {call : Call}

/-- The call that is read behind the opening. -/
def read? (o : Opening) (s : List Char) : Option Call :=
  ((Text.after? o.text s).bind (readBase? o.begins)).map fun found =>
    make o.connective o.negates found.1 found.2.1 found.2.2

theorem read?_eq_some_iff :
    o.read? s = some call ↔ ∃ w : Way, w.opening = o ∧ w.IsShortest s ∧ w.call = call := by
  unfold read?
  rw [Option.map_eq_some_iff]
  constructor
  · rintro ⟨⟨base, gate, only⟩, hread, rfl⟩
    obtain ⟨behind, hbehind, hread⟩ := Option.bind_eq_some_iff.1 hread
    obtain ⟨c, rest, tail, rfl, rfl, hc, htail⟩ := readBase?_eq_some_iff.1 hread
    have hshortest : Way.IsShortest ⟨o, c :: tail, gate, only⟩ s :=
      (Way.isShortest_iff_isFirstTail (Text.after?_eq_some.1 hbehind)).2 ⟨hc, htail⟩
    exact ⟨_, rfl, hshortest, hshortest.1.call_eq_make⟩
  · rintro ⟨w, rfl, hshortest, rfl⟩
    obtain ⟨opening, base, gate, only⟩ := w
    obtain ⟨c, tail, hbase, -⟩ := hshortest.1.exists_cons
    cases hbase
    have hs := hshortest.1.eq
    obtain ⟨hc, htail⟩ := (Way.isShortest_iff_isFirstTail hs).1 hshortest
    refine ⟨⟨c :: tail, gate, only⟩, Option.bind_eq_some_iff.2 ⟨_, Text.after?_eq_some.2 hs, ?_⟩,
      hshortest.1.call_eq_make.symm⟩
    exact readBase?_eq_some_iff.2 ⟨c, _, tail, rfl, rfl, hc, htail⟩

theorem exists_read?_iff :
    (∃ call, o.read? s = some call) ↔ ∃ w : Way, w.opening = o ∧ w.Divides s := by
  constructor
  · rintro ⟨call, h⟩
    obtain ⟨w, hopening, hshortest, -⟩ := read?_eq_some_iff.1 h
    exact ⟨w, hopening, hshortest.1⟩
  · rintro ⟨w, rfl, hdivides⟩
    obtain ⟨w', hopening, hshortest⟩ := hdivides.exists_isShortest
    exact ⟨w'.call, read?_eq_some_iff.2 ⟨w', hopening, hshortest, rfl⟩⟩

/-! ## One opening after another -/

/-- The openings in the order in which they are tried. -/
def all : List Opening :=
  [.word .and true, .word .and false, .word .or true, .word .or false, .not, .nothing]

theorem mem_all (o : Opening) : o ∈ all := by
  rcases o with _ | _ | ⟨_ | _, _ | _⟩ <;> decide

/-- No text begins with both openings. -/
def Excludes (o o' : Opening) : Prop :=
  o.text ≠ [] ∧ o'.text ≠ [] ∧ o.text.head? ≠ o'.text.head?

theorem not_divides_of_excludes {w w' : Way} (h : Excludes w.opening w'.opening)
    (hdivides : w.Divides s) : ¬ w'.Divides s := by
  intro hdivides'
  obtain ⟨hne, hne', hheads⟩ := h
  have hhead : s.head? = w.opening.text.head? := by
    rw [hdivides.eq, List.head?_append_of_ne_nil _ hne]
  have hhead' : s.head? = w'.opening.text.head? := by
    rw [hdivides'.eq, List.head?_append_of_ne_nil _ hne']
  exact hheads (hhead.symm.trans hhead')

/-- An opening that is tried before another one is preferred to it, or excludes it. -/
theorem pairwise_all : all.Pairwise fun o o' => o.rank < o'.rank ∨ Excludes o o' := by
  unfold Excludes
  decide

theorem parse?_eq (method : String) : parse? method = all.findSome? (read? · method.toList) := by
  have hplain : readPlain? method.toList = read? .nothing method.toList := by
    unfold readPlain? read?
    show (readBase? Text.isSmall method.toList).bind _ =
      (readBase? Text.isSmall method.toList).map _
    cases readBase? Text.isSmall method.toList <;> rfl
  have hcons : ∀ (o : Opening) (others : List Opening),
      (o :: others).findSome? (read? · method.toList) =
        (read? o method.toList <|> others.findSome? (read? · method.toList)) := by
    intro o others
    rw [List.findSome?_cons]
    cases read? o method.toList <;> rfl
  unfold parse? all
  rw [readOpened?_eq, hplain, hcons, hcons, hcons, hcons, hcons, List.findSome?_singleton]
  simp only [Option.orElse_eq_orElse, Option.orElse_eq_or, Option.or_assoc]
  rfl

end Opening

/-! ## The preferred way -/

variable {method : String} {call : Call}

theorem exists_parse?_of_divides {w : Way} (h : w.Divides method.toList) :
    ∃ call, parse? method = some call := by
  obtain ⟨call, hread⟩ := Opening.exists_read?_iff.2 ⟨w, rfl, h⟩
  rw [Opening.parse?_eq, ← Option.isSome_iff_exists, List.findSome?_isSome_iff]
  exact ⟨w.opening, Opening.mem_all _, Option.isSome_iff_exists.2 ⟨call, hread⟩⟩

/-- What is read is read in a way that is preferred to all others. -/
theorem exists_isFirst_of_parse? (h : parse? method = some call) :
    ∃ w : Way, w.IsFirst method.toList ∧ w.call = call := by
  rw [Opening.parse?_eq, List.findSome?_eq_some_iff] at h
  obtain ⟨before, o, after, hall, hread, hbefore⟩ := h
  obtain ⟨w, rfl, ⟨hdivides, hshortest⟩, hcall⟩ := Opening.read?_eq_some_iff.1 hread
  refine ⟨w, ⟨hdivides, fun w' hdivides' hne => ?_⟩, hcall⟩
  have hmem := Opening.mem_all w'.opening
  rw [hall, List.mem_append, List.mem_cons] at hmem
  rcases hmem with hmem | hsame | hmem
  · -- a way with an opening that is tried earlier would have been read
    obtain ⟨call', hread'⟩ := Opening.exists_read?_iff.2 ⟨w', rfl, hdivides'⟩
    rw [hbefore _ hmem] at hread'
    cases hread'
  · have hle := hshortest w' hdivides' hsame
    have hlt : w.base.length < w'.base.length :=
      lt_of_le_of_ne hle fun heq => hne (hdivides.eq_of_length_eq hdivides' hsame heq.symm)
    exact Prod.Lex.toLex_lt_toLex.2 (.inr ⟨congrArg Opening.rank hsame.symm, hlt⟩)
  · have hpairs := Opening.pairwise_all
    rw [hall, List.pairwise_append, List.pairwise_cons] at hpairs
    rcases hpairs.2.1.1 _ hmem with hrank | hexcludes
    · exact Prod.Lex.toLex_lt_toLex.2 (.inl hrank)
    · exact absurd hdivides' (Opening.not_divides_of_excludes hexcludes hdivides)

theorem exists_parse?_iff :
    (∃ call, parse? method = some call) ↔
      ∃ c rest, method.toList = c :: rest ∧ Text.isSmall c = true ∧ rest ≠ [] ∧
        ∀ d ∈ rest, Text.isWord d = true := by
  constructor
  · rintro ⟨call, h⟩
    obtain ⟨w, hfirst, -⟩ := exists_isFirst_of_parse? h
    exact hfirst.1.exists_small
  · rintro ⟨c, rest, hmethod, hc, hne, hword⟩
    have hall : method.toList = Opening.nothing.text ++ c :: (rest ++ ending none false) := by
      rw [hmethod]
      exact congrArg (c :: ·) (List.append_nil rest).symm
    exact exists_parse?_of_divides (.of_cons hall hc hne hword)

/-- A base begins with a small letter, so that it names a relation only with `with`. -/
theorem Way.Divides.isRelation_call_iff {w : Way} {s : List Char} (h : w.Divides s) :
    w.call.isRelation = true ↔
      ∃ c rest, Text.isCapital c = true ∧ w.call.base.toList = "with".toList ++ c :: rest := by
  obtain ⟨first, tail, hbase, -, hfirst, -⟩ := h.exists_cons
  have hsmall := Text.isSmall_toLower (Opening.isCapital_or_isSmall hfirst)
  have hcall : w.call.base.toList = first.toLower :: tail := by
    unfold call
    rw [String.toList_ofList, hbase, List.modifyHead_cons]
  unfold isRelation isRelationName
  rw [startsRelation_eq_true_iff, hcall]
  constructor
  · rintro ⟨letter, c, rest, rfl | rfl, hc, heq⟩
    · exact ⟨c, rest, hc, heq⟩
    · rw [(List.cons.inj heq).1] at hsmall
      exact absurd hsmall (by decide)
  · rintro ⟨c, rest, hc, heq⟩
    exact ⟨'w', c, rest, .inl rfl, hc, heq⟩

/-- The names of calls are a small letter and one or more word characters. Of the ways to divide
such a name the call is that of the one which is preferred: an opening to none, a negation to the
bare connective, a shorter base to a longer one. It is for a relation if its base is `with` and a
capital, whatever follows. -/
theorem parse?_eq_some_iff_isFirst (method : String) :
    ((∃ call, parse? method = some call) ↔
      ∃ c rest, method.toList = c :: rest ∧ Text.isSmall c = true ∧ rest ≠ [] ∧
        ∀ d ∈ rest, Text.isWord d = true) ∧
    (∀ call, parse? method = some call ↔ ∃ w : Way, w.IsFirst method.toList ∧ w.call = call) ∧
    ∀ call, parse? method = some call →
      (call.isRelation = true ↔
        ∃ c rest, Text.isCapital c = true ∧ call.base.toList = "with".toList ++ c :: rest) := by
  refine ⟨exists_parse?_iff, fun call => ⟨exists_isFirst_of_parse?, ?_⟩, fun call h => ?_⟩
  · rintro ⟨w, hfirst, rfl⟩
    obtain ⟨call, h⟩ := exists_parse?_of_divides hfirst.1
    obtain ⟨w', hfirst', rfl⟩ := exists_isFirst_of_parse? h
    rw [hfirst.unique hfirst']
    exact h
  · obtain ⟨w, hfirst, rfl⟩ := exists_isFirst_of_parse? h
    exact hfirst.1.isRelation_call_iff

example : parse? "activeConditionIf" =
    some ⟨.and, false, "activeCondition", some .ifTrue, false⟩ := by
  decide +kernel

end Call

namespace Samples

/-- Everything a name may hold, before, in and behind its base. -/
theorem isFirst_orNotWithAuthor :
    Call.parse? "orNotWithAuthorBasedOnCondition" =
        some ⟨.or, true, "withAuthor", some .basedOn, true⟩ ∧
      (∃ w : Call.Way, w.IsFirst "orNotWithAuthorBasedOnCondition".toList ∧
        w.call = ⟨.or, true, "withAuthor", some .basedOn, true⟩) ∧
      ∃ c rest, Text.isCapital c = true ∧ "withAuthor".toList = "with".toList ++ c :: rest := by
  have hread : Call.parse? "orNotWithAuthorBasedOnCondition" =
      some ⟨.or, true, "withAuthor", some .basedOn, true⟩ := by
    decide +kernel
  obtain ⟨-, hway, hrelation⟩ := Call.parse?_eq_some_iff_isFirst "orNotWithAuthorBasedOnCondition"
  exact ⟨hread, (hway _).1 hread, (hrelation _ hread).1 (by decide)⟩

end Samples

end Criteria
