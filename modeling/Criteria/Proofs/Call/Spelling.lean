import Criteria.Proofs.Call.Base
import Mathlib.Data.Option.Basic

/-!
# Canonical spellings

Every call has one canonical spelling, but not every spelling is read back as the call that it was
made from: a base that begins with `not` may be taken for a negated one, and one that ends like an
ending may be cut short. Main statement: the spelling of a call that was read is read as that call
again, and of all calls with a base of word characters exactly those without these two ambiguities
are read back (`Call.parse?_spelling`).
-/

namespace Criteria

namespace Text

theorem toNat_toUpper {c : Char} (h : isSmall c = true) : c.toUpper.toNat + 32 = c.toNat := by
  obtain ⟨hlow, hhigh⟩ := isSmall_iff.1 h
  have hval : 'a'.val ≤ c.val ∧ c.val ≤ 'z'.val :=
    ⟨UInt32.le_iff_toNat_le.2 hlow, UInt32.le_iff_toNat_le.2 hhigh⟩
  have hoffset : ('A'.val - 'a'.val : UInt32).toNat = 4294967264 := by decide
  have hc : c.toNat = c.val.toNat := rfl
  unfold Char.toUpper
  rw [dif_pos hval]
  show (c.val + ('A'.val - 'a'.val)).toNat + 32 = c.val.toNat
  rw [UInt32.toNat_add, hoffset]
  omega

theorem isCapital_toUpper {c : Char} (h : isSmall c = true) : isCapital c.toUpper = true := by
  obtain ⟨hlow, hhigh⟩ := isSmall_iff.1 h
  have hupper := toNat_toUpper h
  refine isCapital_iff.2 ?_
  omega

/-- A capital is the one of its small letter. -/
theorem eq_toUpper_of_lowerChar {c d : Char} (hd : isCapital d = true) (h : lowerChar d = [c]) :
    d = c.toUpper := by
  obtain ⟨hlower, hnat⟩ := lowerChar_of_isCapital hd
  have hc : c.toNat = d.toNat + 32 := by
    rw [hlower] at h
    rw [← (List.cons.inj h).1, hnat]
  obtain ⟨hlow, hhigh⟩ := isCapital_iff.1 hd
  have hsmall : isSmall c = true := isSmall_iff.2 (by omega)
  have hupper := toNat_toUpper hsmall
  exact Char.toNat_inj.1 (by omega)

theorem lowerFirst_toUpper {c : Char} (h : isSmall c = true) (tail : List Char) :
    lowerFirst (c.toUpper :: tail) = c :: tail := by
  have hcapital := isCapital_toUpper h
  obtain ⟨hlower, hnat⟩ := lowerChar_of_isCapital hcapital
  have hupper := toNat_toUpper h
  have hc : Char.ofNat (c.toUpper.toNat + 32) = c := Char.toNat_inj.1 (by omega)
  rw [lowerFirst_cons, hlower, hc, List.singleton_append]

end Text

namespace Call

/-- A small letter of ASCII and one or more word characters. -/
def IsBase (base : List Char) : Prop :=
  ∃ c tail, base = c :: tail ∧ Text.isSmall c = true ∧ tail ≠ [] ∧
    ∀ d ∈ tail, Text.isWord d = true

/-- The call has neither a gate nor asks for the condition alone. -/
def IsBare (call : Call) : Prop := call.gate = none ∧ call.conditionOnly = false

/-- The text begins with `not` and a capital. -/
def BeginsWithNot (base : String) : Prop :=
  ∃ d rest, Text.isCapital d = true ∧ base.toList = "not".toList ++ d :: rest

/-- The text ends like this, with two or more characters before it. -/
def EndsIn (base last : String) : Prop :=
  ∃ before, 2 ≤ before.length ∧ base.toList = before ++ last.toList

variable {call : Call} {c : Char} {tail : List Char}

theorem toList_spelling (hbase : call.base.toList = c :: tail) :
    call.spelling.toList = call.connective.word ++ ((if call.negate then "Not".toList else []) ++
      c.toUpper :: (tail ++ ending call.gate call.conditionOnly)) := by
  unfold spelling
  rw [hbase, String.toList_ofList, List.append_assoc, List.append_assoc, List.cons_append]

/-! ## Reading a base behind its opening -/

theorem make_toUpper (hc : Text.isSmall c = true) (connective : Connective) (negate : Bool)
    (tail : List Char) (gate : Option Gate) (only : Bool) :
    make connective negate (c.toUpper :: tail) gate only =
      ⟨connective, negate, String.ofList (c :: tail), gate, only⟩ := by
  unfold make
  rw [Text.lowerFirst_toUpper hc]

/-- The base of a call is read back exactly if no shorter one can be. -/
theorem readBehind?_toUpper_iff (hbase : call.base.toList = c :: tail)
    (hc : Text.isSmall c = true) :
    readBehind? [] call.connective call.negate
        (c.toUpper :: (tail ++ ending call.gate call.conditionOnly)) = some call ↔
      IsFirstTail (tail ++ ending call.gate call.conditionOnly) tail call.gate
        call.conditionOnly := by
  have hcall : call = make call.connective call.negate (c.toUpper :: tail) call.gate
      call.conditionOnly := by
    rw [make_toUpper hc, ← hbase, String.ofList_toList]
  unfold readBehind?
  rw [Text.after?, Option.bind_some, Option.map_eq_some_iff]
  constructor
  · rintro ⟨⟨base, gate, only⟩, hread, hmake⟩
    obtain ⟨d, rest, tail', hs, rfl, -, htail⟩ := readBase?_eq_some_iff.1 hread
    obtain ⟨rfl, rfl⟩ := List.cons.inj hs
    have hsame := hmake.trans hcall
    rw [make_toUpper hc, make_toUpper hc] at hsame
    injection hsame with _ _ hchars hgate honly
    have htails : tail' = tail := by
      have hlists := String.ofList_injective hchars
      exact (List.cons.inj hlists).2
    subst hgate honly htails
    exact htail
  · intro htail
    refine ⟨_, readBase?_eq_some_iff.2 ⟨c.toUpper, _, tail, rfl, rfl, ?_, htail⟩, hcall.symm⟩
    exact Text.isCapital_toUpper hc

/-- A text of word characters that begins with a capital and goes on is read as some base. -/
theorem exists_readBehind? {s : List Char} (hc : Text.isCapital c = true) (hne : s ≠ [])
    (hword : ∀ d ∈ s, Text.isWord d = true) (connective : Connective) (negate : Bool) :
    ∃ read, readBehind? [] connective negate (c :: s) = some read := by
  have hall : ∀ d ∈ c :: s, Text.isWord d = true := by
    intro d hd
    rcases List.mem_cons.1 hd with rfl | hd
    · exact Text.isWord_of_isCapital hc
    · exact hword d hd
  obtain ⟨found, hfound⟩ := (exists_readBase?_iff hall).2 ⟨c, s, rfl, hc, hne⟩
  exact ⟨_, Option.map_eq_some_iff.2 ⟨found, hfound, rfl⟩⟩

theorem negate_of_readBehind? {opening s : List Char} {connective : Connective} {negate : Bool}
    (h : readBehind? opening connective negate s = some call) :
    call.connective = connective ∧ call.negate = negate := by
  obtain ⟨found, -, rfl⟩ := Option.map_eq_some_iff.1 h
  exact ⟨rfl, rfl⟩

/-- A base is taken for a negated one if it is `not`, a capital and more. -/
theorem exists_readBehind?_not_iff (hc : Text.isSmall c = true) {s : List Char}
    (hword : ∀ d ∈ s, Text.isWord d = true) (connective : Connective) :
    (∃ read, readBehind? "Not".toList connective true (c.toUpper :: s) = some read) ↔
      ∃ d rest, Text.isCapital d = true ∧ rest ≠ [] ∧ c :: s = "not".toList ++ d :: rest := by
  have hn : c.toUpper = 'N' ↔ c = 'n' := by
    have hupper := Text.toNat_toUpper hc
    have hcapital : 'N'.toNat + 32 = 'n'.toNat := by decide
    constructor
    · intro h
      rw [h] at hupper
      exact Char.toNat_inj.1 (by omega)
    · rintro rfl
      exact Char.toNat_inj.1 (by omega)
  have hafter : ∀ rest, Text.after? "Not".toList (c.toUpper :: s) = some rest ↔
      c :: s = "not".toList ++ rest := by
    intro rest
    rw [Text.after?_eq_some]
    show c.toUpper :: s = 'N' :: 'o' :: 't' :: rest ↔ c :: s = 'n' :: 'o' :: 't' :: rest
    rw [List.cons.injEq, List.cons.injEq, hn]
  constructor
  · rintro ⟨read, h⟩
    obtain ⟨found, hfound, -⟩ := Option.map_eq_some_iff.1 h
    obtain ⟨rest, hrest, hread⟩ := Option.bind_eq_some_iff.1 hfound
    have hs := (hafter rest).1 hrest
    have hrestWord : ∀ d ∈ rest, Text.isWord d = true := by
      intro d hd
      have hs' : s = 'o' :: 't' :: rest := (List.cons.inj hs).2
      refine hword d ?_
      rw [hs']
      exact List.mem_cons_of_mem _ (List.mem_cons_of_mem _ hd)
    obtain ⟨d, rest', rfl, hd, hne⟩ := (exists_readBase?_iff hrestWord).1 ⟨found, hread⟩
    exact ⟨d, rest', hd, hne, hs⟩
  · rintro ⟨d, rest, hd, hne, hs⟩
    have hrestWord : ∀ e ∈ rest, Text.isWord e = true := by
      intro e he
      have hs' : s = 'o' :: 't' :: d :: rest := (List.cons.inj hs).2
      refine hword e ?_
      rw [hs']
      exact List.mem_cons_of_mem _ (List.mem_cons_of_mem _ (List.mem_cons_of_mem _ he))
    obtain ⟨read, hread⟩ := exists_readBehind? hd hne hrestWord connective true
    refine ⟨read, ?_⟩
    rw [← hread]
    unfold readBehind?
    rw [(hafter (d :: rest)).2 hs]
    rfl

/-! ## Reading a spelling -/

theorem parse?_of_readOpened? {method : String} (h : readOpened? method.toList = some call) :
    parse? method = some call := by
  unfold parse?
  rw [h]
  rfl

/-- A spelling without a negation is read with one if it can be. -/
theorem parse?_spelling_eq {read : Call} (hbase : call.base.toList = c :: tail)
    (hread : readBehind? [] call.connective call.negate
      (c.toUpper :: (tail ++ ending call.gate call.conditionOnly)) = some read) :
    parse? call.spelling = some ((if call.negate = true then none
      else readBehind? "Not".toList call.connective true
        (c.toUpper :: (tail ++ ending call.gate call.conditionOnly))).getD read) := by
  refine parse?_of_readOpened? ?_
  have hspelling := toList_spelling hbase
  cases hnegate : call.negate with
  | true =>
    have hnot : ∀ s, readBehind? "Not".toList call.connective true ("Not".toList ++ s) =
        readBehind? [] call.connective true s := fun _ => rfl
    rw [hnegate] at hread
    rw [hspelling, hnegate, if_pos rfl, readOpened?_word, hnot, hread]
    rfl
  | false =>
    rw [hnegate] at hread
    rw [hspelling, hnegate, if_neg Bool.false_ne_true, List.nil_append, readOpened?_word, hread]
    cases readBehind? "Not".toList call.connective true
      (c.toUpper :: (tail ++ ending call.gate call.conditionOnly)) <;> rfl

/-- A spelling is read back unless the base is taken for a negated one or cut short. -/
theorem parse?_spelling_eq_some_iff (hbase : call.base.toList = c :: tail)
    (hc : Text.isSmall c = true) (hne : tail ≠ []) (hword : ∀ d ∈ tail, Text.isWord d = true) :
    parse? call.spelling = some call ↔
      (call.negate = true ∨ ¬ ∃ d rest, Text.isCapital d = true ∧ rest ≠ [] ∧
        c :: (tail ++ ending call.gate call.conditionOnly) = "not".toList ++ d :: rest) ∧
      IsFirstTail (tail ++ ending call.gate call.conditionOnly) tail call.gate
        call.conditionOnly := by
  have hbody : ∀ d ∈ tail ++ ending call.gate call.conditionOnly, Text.isWord d = true := by
    intro d hd
    rcases List.mem_append.1 hd with hd | hd
    · exact hword d hd
    · exact isWord_of_mem_ending d hd
  have hne' : tail ++ ending call.gate call.conditionOnly ≠ [] :=
    List.append_ne_nil_of_left_ne_nil hne _
  obtain ⟨read, hread⟩ := exists_readBehind? (Text.isCapital_toUpper hc) hne' hbody
    call.connective call.negate
  have hnot := exists_readBehind?_not_iff hc hbody call.connective
  rw [parse?_spelling_eq hbase hread, ← readBehind?_toUpper_iff hbase hc, hread]
  cases hnegate : call.negate with
  | true => simp
  | false =>
    rw [if_neg Bool.false_ne_true]
    cases hnegated : readBehind? "Not".toList call.connective true
        (c.toUpper :: (tail ++ ending call.gate call.conditionOnly)) with
    | none =>
      have hno := hnot.not.1 fun ⟨other, hother⟩ => by
        rw [hnegated] at hother
        cases hother
      exact ⟨fun h => ⟨.inr hno, h⟩, fun h => h.2⟩
    | some other =>
      -- the negated reading comes first, and it is another call
      constructor
      · intro h
        have hother : other = call := Option.some.inj h
        rw [← hother, (negate_of_readBehind? hnegated).2] at hnegate
        cases hnegate
      · rintro ⟨h | h, -⟩
        · cases h
        · exact absurd (hnot.1 ⟨other, hnegated⟩) h

/-- What was read behind an opening has the base that stands there with a capital. -/
theorem exists_of_readBehind? {opening s : List Char} {connective : Connective} {negate : Bool}
    (h : readBehind? opening connective negate s = some call) :
    ∃ c tail, call.base.toList = c :: tail ∧ Text.isSmall c = true ∧
      IsFirstTail (tail ++ ending call.gate call.conditionOnly) tail call.gate
        call.conditionOnly ∧
      s = opening ++ c.toUpper :: (tail ++ ending call.gate call.conditionOnly) := by
  obtain ⟨⟨base, gate, only⟩, hfound, rfl⟩ := Option.map_eq_some_iff.1 h
  obtain ⟨rest, hrest, hread⟩ := Option.bind_eq_some_iff.1 hfound
  obtain ⟨d, rest', tail, rfl, rfl, hd, htail⟩ := readBase?_eq_some_iff.1 hread
  obtain ⟨c, hlower, hc⟩ := Text.exists_lowerChar_of_isCapital hd
  have hbase : (make connective negate (d :: tail) gate only).base.toList = c :: tail := by
    rw [make, String.toList_ofList, Text.lowerFirst_cons, hlower, List.singleton_append]
  have hs : s = opening ++ d :: rest' := Text.after?_eq_some.1 hrest
  have hrest' : rest' = tail ++ ending gate only := htail.eq
  rw [hrest'] at htail hs
  rw [Text.eq_toUpper_of_lowerChar hd hlower] at hs
  exact ⟨c, tail, hbase, hc, htail, hs⟩

/-- The spelling of a call that was read behind an opening is read as that call again. -/
theorem parse?_spelling_of_readBehind? {method : String} {connective : Connective} {negate : Bool}
    {opening : List Char} (hread : readBehind? opening connective negate method.toList = some call)
    (hparse : parse? method = some call) (hopening : negate = true ∨ opening = connective.word) :
    parse? call.spelling = some call := by
  obtain ⟨c, tail, hbase, hc, htail, hmethod⟩ := exists_of_readBehind? hread
  obtain ⟨hconnective, hnegate⟩ := negate_of_readBehind? hread
  rcases hopening with hnegated | hopening
  · rw [hnegated] at hnegate
    exact (parse?_spelling_eq_some_iff hbase hc htail.ne_nil htail.isWord).2 ⟨.inl hnegate, htail⟩
  · cases negate with
    | true =>
      exact (parse?_spelling_eq_some_iff hbase hc htail.ne_nil htail.isWord).2
        ⟨.inl hnegate, htail⟩
    | false =>
      -- without a negation the spelling is the method name itself
      have hspelling : call.spelling = method := by
        rw [← String.toList_inj, toList_spelling hbase, hnegate, hconnective, hmethod, hopening]
        rfl
      rw [hspelling, hparse]

/-- What was read without an opening is not taken for a negated base when `and` is put before it,
or it would have been read behind `not`. -/
theorem parse?_spelling_of_readBase? {method : String} {base : List Char} {gate : Option Gate}
    {only : Bool} (hnone : readOpened? method.toList = none)
    (hread : readBase? Text.isSmall method.toList = some (base, gate, only)) :
    parse? (make .and false base gate only).spelling = some (make .and false base gate only) := by
  obtain ⟨c, rest, tail, hmethod, rfl, hc, htail⟩ := readBase?_eq_some_iff.1 hread
  have hbase : (make .and false (c :: tail) gate only).base.toList = c :: tail := by
    rw [make, String.toList_ofList, Text.lowerFirst_cons, Text.lowerChar_of_isSmall hc,
      List.singleton_append]
  have hrest : rest = tail ++ ending gate only := htail.eq
  rw [hrest] at htail hmethod
  refine (parse?_spelling_eq_some_iff hbase hc htail.ne_nil htail.isWord).2 ⟨.inr ?_, htail⟩
  rintro ⟨d, rest', hd, hne, hsplit⟩
  have hnot : c :: (tail ++ ending gate only) = "not".toList ++ d :: rest' := hsplit
  have hword : ∀ e ∈ rest', Text.isWord e = true := by
    intro e he
    have hmem : e ∈ c :: (tail ++ ending gate only) := by
      rw [hnot]
      exact List.mem_append_right _ (List.mem_cons_of_mem _ he)
    rcases List.mem_cons.1 hmem with rfl | hmem
    · exact Text.isWord_of_isSmall hc
    · rcases List.mem_append.1 hmem with hmem | hmem
      · exact htail.isWord e hmem
      · exact isWord_of_mem_ending e hmem
  obtain ⟨other, hother⟩ := exists_readBehind? hd hne hword .and true
  have hbehind : readBehind? "not".toList .and true method.toList = some other := by
    rw [hmethod, hnot]
    exact hother
  rw [readOpened?_eq] at hnone
  simp only [Option.orElse_eq_none, hbehind] at hnone
  cases hnone.2.2.2.2

/-- The spelling of a call that was read is read as that call again. -/
theorem parse?_spelling_of_parse? {method : String} (h : parse? method = some call) :
    parse? call.spelling = some call := by
  have hparse := h
  unfold parse? at h
  rcases (Option.orElse_eq_some _ _ _).1 h with hopened | ⟨hnone, hplain⟩
  · rw [readOpened?_eq] at hopened
    rcases (Option.orElse_eq_some _ _ _).1 hopened with hread | ⟨-, hopened⟩
    · exact parse?_spelling_of_readBehind? hread hparse (.inl rfl)
    rcases (Option.orElse_eq_some _ _ _).1 hopened with hread | ⟨-, hopened⟩
    · exact parse?_spelling_of_readBehind? hread hparse (.inr rfl)
    rcases (Option.orElse_eq_some _ _ _).1 hopened with hread | ⟨-, hopened⟩
    · exact parse?_spelling_of_readBehind? hread hparse (.inl rfl)
    rcases (Option.orElse_eq_some _ _ _).1 hopened with hread | ⟨-, hread⟩
    · exact parse?_spelling_of_readBehind? hread hparse (.inr rfl)
    · exact parse?_spelling_of_readBehind? hread hparse (.inl rfl)
  · obtain ⟨⟨base, gate, only⟩, hread, hcall⟩ := Option.bind_eq_some_iff.1 hplain
    cases hcall
    exact parse?_spelling_of_readBase? hnone hread

/-! ## The two ambiguities -/

theorem isBare_iff : call.IsBare ↔ ending call.gate call.conditionOnly = [] := by
  unfold IsBare
  constructor
  · rintro ⟨hgate, honly⟩
    rw [hgate, honly]
    rfl
  · intro h
    have hnone : ending call.gate call.conditionOnly = ending none false := h
    exact ending_injective hnone

/-- An ending begins like a base. -/
theorem exists_cons_ending {gate : Option Gate} {only : Bool} (h : ending gate only ≠ []) :
    ∃ d rest, ending gate only = d :: rest ∧ Text.isCapital d = true ∧ rest ≠ [] := by
  rcases gate with _ | _ | _ <;> cases only
  · exact absurd rfl h
  all_goals exact ⟨_, _, rfl, by decide, by decide⟩

/-- A base with its ending begins with `not`, a capital and more. -/
theorem exists_not_iff (hbase : call.base.toList = c :: tail) :
    (∃ d rest, Text.isCapital d = true ∧ rest ≠ [] ∧
        c :: (tail ++ ending call.gate call.conditionOnly) = "not".toList ++ d :: rest) ↔
      ¬ ((¬ BeginsWithNot call.base ∧ (call.base = "not" → call.IsBare)) ∨
        (call.IsBare ∧
          ∃ d, Text.isCapital d = true ∧ call.base.toList = "not".toList ++ [d])) := by
  have hisNot : call.base = "not" ↔ c :: tail = "not".toList := by
    rw [← String.toList_inj, hbase]
  unfold BeginsWithNot
  rw [isBare_iff, hisNot, hbase]
  constructor
  · rintro ⟨d, rest, hd, hrest, heq⟩ (⟨hbegins, hbare⟩ | ⟨hbare, e, he, hshort⟩)
    · rw [← List.cons_append, List.append_eq_append_iff] at heq
      rcases heq with ⟨more, hmore, hending⟩ | ⟨more, hmore, hending⟩
      · cases more with
        | nil =>
          rw [List.append_nil] at hmore
          rw [hbare hmore.symm] at hending
          cases hending
        | cons e more =>
          -- an ending begins with a capital, and `not` has none
          have hnone : "not".toList.any Text.isCapital = false := by decide
          have hnil : ending call.gate call.conditionOnly ≠ [] := by
            rw [hending]
            exact List.cons_ne_nil _ _
          obtain ⟨e', rest', hcons, he, -⟩ := exists_cons_ending hnil
          rw [hending] at hcons
          obtain ⟨rfl, -⟩ := List.cons.inj hcons
          have hmem : e ∈ "not".toList := by
            rw [hmore]
            exact List.mem_append_right _ List.mem_cons_self
          exact absurd he (List.any_eq_false.1 hnone e hmem)
      · cases more with
        | nil =>
          rw [List.append_nil] at hmore
          rw [hbare hmore] at hending
          cases hending
        | cons e more =>
          rw [List.cons_append] at hending
          obtain ⟨rfl, -⟩ := List.cons.inj hending
          exact hbegins ⟨d, more, hd, hmore⟩
    · rw [hbare, List.append_nil, hshort] at heq
      exact hrest (List.cons.inj (List.append_cancel_left heq)).2.symm
  · intro h
    rw [not_or, not_and_or, not_not, Classical.not_imp] at h
    obtain ⟨hfirst, hsecond⟩ := h
    rcases hfirst with ⟨d, rest, hd, hmore⟩ | ⟨hnot, hbare⟩
    · refine ⟨d, rest ++ ending call.gate call.conditionOnly, hd, fun hnil => ?_, ?_⟩
      · obtain ⟨rfl, hbare⟩ := List.append_eq_nil_iff.1 hnil
        exact hsecond ⟨hbare, d, hd, hmore⟩
      · rw [← List.cons_append, hmore, List.append_assoc, List.cons_append]
    · obtain ⟨d, rest, hending, hd, hrest⟩ := exists_cons_ending hbare
      refine ⟨d, rest, hd, hrest, ?_⟩
      rw [← List.cons_append, hnot, hending]

/-- Where one ending is longer than another, it is another one in front of that. -/
theorem suffix_of_ending_append {gate gate' : Option Gate} {only only' : Bool}
    {extra : List Char} (h : ending gate' only' = extra ++ ending gate only) (hne : extra ≠ []) :
    gate = none ∧ ("If".toList <:+ extra ∨ "BasedOn".toList <:+ extra ∨
      only = false ∧ "Condition".toList <:+ extra) := by
  have hextra : extra = (ending gate' only').take
      ((ending gate' only').length - (ending gate only).length) := by
    rw [h]
    simp
  subst hextra
  revert h hne
  rcases gate with _ | _ | _ <;> rcases gate' with _ | _ | _ <;> cases only <;> cases only' <;>
    decide

/-- Where the base ends like an ending that another one follows, it is cut short. -/
theorem not_endsIn_of_isFirstTail (hbase : call.base.toList = c :: tail)
    (hfirst : IsFirstTail (tail ++ ending call.gate call.conditionOnly) tail call.gate
      call.conditionOnly) {last : String} (hlast : last ≠ "") (gate : Option Gate) (only : Bool)
    (hending : ending gate only = last.toList ++ ending call.gate call.conditionOnly) :
    ¬ EndsIn call.base last := by
  rintro ⟨before, hlength, heq⟩
  obtain ⟨b, shorter, rfl⟩ := List.exists_cons_of_ne_nil
    (List.ne_nil_of_length_pos (Nat.lt_of_lt_of_le Nat.zero_lt_two hlength))
  rw [hbase, List.cons_append] at heq
  have htail : tail = shorter ++ last.toList := (List.cons.inj heq).2
  have hshorter : shorter ≠ [] := by
    rintro rfl
    rw [List.length_singleton] at hlength
    omega
  have hle := hfirst.first shorter gate only hshorter <| by
    rw [hending, htail, List.append_assoc]
  have hpos : 0 < last.toList.length :=
    List.length_pos_iff.2 fun hnil => hlast (String.toList_eq_nil_iff.1 hnil)
  rw [htail, List.length_append] at hle
  omega

theorem isFirstTail_iff (hbase : call.base.toList = c :: tail) (hne : tail ≠ [])
    (hword : ∀ d ∈ tail, Text.isWord d = true) :
    IsFirstTail (tail ++ ending call.gate call.conditionOnly) tail call.gate call.conditionOnly ↔
      call.gate ≠ none ∨
        (¬ EndsIn call.base "If" ∧ ¬ EndsIn call.base "BasedOn" ∧
          (call.conditionOnly = false → ¬ EndsIn call.base "Condition")) := by
  constructor
  · intro hfirst
    rw [or_iff_not_imp_left, not_not]
    intro hgate
    refine ⟨?_, ?_, fun honly => ?_⟩
    · refine not_endsIn_of_isFirstTail hbase hfirst (by decide) (some .ifTrue) call.conditionOnly ?_
      rw [hgate]
      rfl
    · refine not_endsIn_of_isFirstTail hbase hfirst (by decide) (some .basedOn)
        call.conditionOnly ?_
      rw [hgate]
      rfl
    · refine not_endsIn_of_isFirstTail hbase hfirst (by decide) none true ?_
      rw [hgate, honly]
      rfl
  · intro h
    refine ⟨rfl, hne, hword, fun shorter gate only hshorter heq => ?_⟩
    by_contra hlt
    rcases List.append_eq_append_iff.1 heq with ⟨extra, hextra, -⟩ | ⟨extra, hextra, hending⟩
    · rw [hextra, List.length_append] at hlt
      omega
    have hne' : extra ≠ [] := by
      rintro rfl
      rw [List.append_nil] at hextra
      rw [hextra] at hlt
      exact hlt le_rfl
    -- what is in front of the longer ending has the first character and another
    have hends : ∀ last : String, last.toList <:+ extra → EndsIn call.base last := by
      rintro last ⟨before, hbefore⟩
      refine ⟨c :: (shorter ++ before), ?_, ?_⟩
      · have hpos := List.length_pos_iff.2 hshorter
        rw [List.length_cons, List.length_append]
        omega
      · rw [hbase, hextra, ← hbefore, List.cons_append, List.append_assoc]
    obtain ⟨hgate, hsuffix⟩ := suffix_of_ending_append hending hne'
    obtain ⟨hif, hbasedOn, hcondition⟩ := h.resolve_left (not_not.2 hgate)
    rcases hsuffix with hsuffix | hsuffix | ⟨honly, hsuffix⟩
    · exact hif (hends _ hsuffix)
    · exact hbasedOn (hends _ hsuffix)
    · exact hcondition honly (hends _ hsuffix)

/-! ## The spellings that are read back -/

/-- The spelling of a call that was read is read as that call again. Of all calls with a base of
word characters, those are read back whose base, with what follows it, is not taken for a negated
one, and is not cut short by a longer ending. -/
theorem parse?_spelling :
    (∀ (method : String) (call : Call), parse? method = some call →
      parse? call.spelling = some call) ∧
    ∀ call : Call, IsBase call.base.toList →
      (parse? call.spelling = some call ↔
        (call.negate = true ∨
          (¬ BeginsWithNot call.base ∧ (call.base = "not" → call.IsBare)) ∨
          (call.IsBare ∧
            ∃ d, Text.isCapital d = true ∧ call.base.toList = "not".toList ++ [d])) ∧
        (call.gate ≠ none ∨
          (¬ EndsIn call.base "If" ∧ ¬ EndsIn call.base "BasedOn" ∧
            (call.conditionOnly = false → ¬ EndsIn call.base "Condition")))) := by
  refine ⟨fun _ _ h => parse?_spelling_of_parse? h, ?_⟩
  rintro call ⟨c, tail, hbase, hc, hne, hword⟩
  rw [parse?_spelling_eq_some_iff hbase hc hne hword, exists_not_iff hbase, not_not,
    isFirstTail_iff hbase hne hword]

end Call

namespace Samples

/-- A base that begins with `not`, and one that is read from a name with everything in it. -/
theorem parse?_spelling_notX :
    Call.parse? "orNotActiveBasedOnCondition" = some ⟨.or, true, "active", some .basedOn, true⟩ ∧
      Call.parse? (Call.spelling ⟨.or, true, "active", some .basedOn, true⟩) =
        some ⟨.or, true, "active", some .basedOn, true⟩ ∧
      Call.IsBase "notX".toList ∧
      Call.parse? (Call.spelling ⟨.or, false, "notX", none, false⟩) =
        some ⟨.or, false, "notX", none, false⟩ := by
  have hread : Call.parse? "orNotActiveBasedOnCondition" =
      some ⟨.or, true, "active", some .basedOn, true⟩ := by
    decide +kernel
  have hbase : Call.IsBase "notX".toList :=
    ⟨'n', ['o', 't', 'X'], rfl, by decide, by decide, List.all_eq_true.1 (by decide +kernel)⟩
  have hsuffix : ∀ last ∈ ["If", "BasedOn", "Condition"], ¬ last.toList <:+ "notX".toList := by
    decide
  have hends : ∀ last ∈ ["If", "BasedOn", "Condition"], ¬ Call.EndsIn "notX" last := by
    rintro last hlast ⟨before, -, heq⟩
    exact hsuffix last hlast ⟨before, heq.symm⟩
  refine ⟨hread, Call.parse?_spelling.1 _ _ hread, hbase, ?_⟩
  refine (Call.parse?_spelling.2 ⟨.or, false, "notX", none, false⟩ hbase).2
    ⟨.inr (.inr ?_), .inr ?_⟩
  · exact ⟨⟨rfl, rfl⟩, 'X', by decide, by decide⟩
  · exact ⟨hends _ (by decide), hends _ (by decide), fun _ => hends _ (by decide)⟩

/-- A condition with the name `not` cannot be called with a gate: `andNotIf` is the negated
condition `if`, though `not` neither begins with `not` and a capital nor ends like an ending. -/
theorem not_parse?_spelling_of_not :
    Call.spelling ⟨.and, false, "not", some .ifTrue, false⟩ = "andNotIf" ∧
      Call.parse? "andNotIf" = some ⟨.and, true, "if", none, false⟩ ∧
      ¬ ∀ call : Call, Call.IsBase call.base.toList →
        (Call.parse? call.spelling = some call ↔
          (call.negate = true ∨ ¬ Call.BeginsWithNot call.base ∨
            (call.IsBare ∧
              ∃ d, Text.isCapital d = true ∧ call.base.toList = "not".toList ++ [d])) ∧
          (call.gate ≠ none ∨
            (¬ Call.EndsIn call.base "If" ∧ ¬ Call.EndsIn call.base "BasedOn" ∧
              (call.conditionOnly = false → ¬ Call.EndsIn call.base "Condition")))) := by
  have hspelling : Call.spelling ⟨.and, false, "not", some .ifTrue, false⟩ = "andNotIf" := by decide
  have hread : Call.parse? "andNotIf" = some ⟨.and, true, "if", none, false⟩ := by decide +kernel
  refine ⟨hspelling, hread, fun h => ?_⟩
  have hbase : Call.IsBase "not".toList :=
    ⟨'n', ['o', 't'], rfl, by decide, by decide, List.all_eq_true.1 (by decide +kernel)⟩
  have hbegins : ¬ Call.BeginsWithNot "not" := by
    rintro ⟨d, rest, -, heq⟩
    have hlength := congrArg List.length heq
    rw [List.length_append, List.length_cons] at hlength
    omega
  have hback := (h ⟨.and, false, "not", some .ifTrue, false⟩ hbase).2
    ⟨.inr (.inl hbegins), .inl (by decide)⟩
  rw [hspelling, hread] at hback
  exact absurd hback (by decide)

end Samples

end Criteria
