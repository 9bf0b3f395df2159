import Criteria.Json.Printer
import Criteria.Json.Token
import Criteria.Proofs.Json.Numeral

/-!
# Tokens of a written value

Main statement: the text of a value is cut into the tokens of the value, whatever follows it, as
long as it follows behind a blank or a delimiter (`Json.tokensFrom_chars`).
-/

namespace Criteria.Json

/-- What follows a word or a numeral here ends it. -/
def Closes (rest : List Char) : Prop := ∀ c ∈ rest.head?, isDelimiter c = true

mutual

/-- The tokens of a value as it is written. -/
def lexemes : Json → List Token
  | null => [.null]
  | bool b => [.bool b]
  | number n => [.number n.numeral]
  | text s => [.text (some s)]
  | array items => .openArray :: itemLexemes items ++ [.closeArray]
  | object fields => .openObject :: fieldLexemes fields ++ [.closeObject]

def itemLexemes : List Json → List Token
  | [] => []
  | [x] => lexemes x
  | x :: y :: rest => lexemes x ++ .comma :: itemLexemes (y :: rest)

def fieldLexemes : List (String × Json) → List Token
  | [] => []
  | [(key, value)] => .text (some key) :: .colon :: lexemes value
  | (key, value) :: next :: rest =>
    .text (some key) :: .colon :: lexemes value ++ .comma :: fieldLexemes (next :: rest)

end

/-! ## Single steps -/

theorem tokensFrom_cons (mode : Mode) (c : Char) (rest : List Char) :
    tokensFrom mode (c :: rest) = (step mode c).1 ++ tokensFrom (step mode c).2 rest := rfl

theorem closes_nil : Closes [] := by simp [Closes]

theorem closes_cons {c : Char} (h : isDelimiter c = true) (rest : List Char) :
    Closes (c :: rest) := by
  simpa [Closes] using h

/-- A delimiter is no part of a numeral. -/
theorem ne_of_isDelimiter {c : Char} (h : isDelimiter c = true) :
    c.isDigit = false ∧ c ≠ '.' ∧ c ≠ 'e' ∧ c ≠ 'E' := by
  simp only [isDelimiter, isSpace, List.contains_cons, List.contains_nil, Bool.or_eq_true,
    beq_iff_eq, Bool.or_false] at h
  rcases h with (((rfl | rfl) | rfl) | rfl) | rfl | rfl | rfl | rfl | rfl | rfl | rfl <;> decide

theorem finishBefore_of_isDelimiter {c : Char} (h : isDelimiter c = true) (token : Token)
    (rest : List Char) :
    (finishBefore token c).1 ++ tokensFrom (finishBefore token c).2 rest =
      token :: tokensFrom .between (c :: rest) := by
  unfold finishBefore
  rw [if_pos h]
  rfl

/-- A word ends before a delimiter, or with the text. -/
theorem tokensFrom_word (token : Token) {rest : List Char} (h : Closes rest) :
    tokensFrom (.word [] token) rest = token :: tokensFrom .between rest := by
  cases rest with
  | nil => rfl
  | cons c rest => exact finishBefore_of_isDelimiter (h c rfl) token rest

/-! ## Numerals -/

/-- A numeral that may end ends before a delimiter, or with the text. -/
theorem tokensFrom_numeral_end {stage : NumeralStage} (hstage : stage.mayEnd = true) (n : Numeral)
    {rest : List Char} (h : Closes rest) :
    tokensFrom (.numeral stage n) rest = .number n :: tokensFrom .between rest := by
  cases rest with
  | nil => simp [tokensFrom, finish, hstage]
  | cons c rest =>
    have hc : isDelimiter c = true := h c rfl
    obtain ⟨hdigit, hpoint, he, hE⟩ := ne_of_isDelimiter hc
    have hextend : extend stage n c = none := by
      cases stage <;> simp_all [extend, NumeralStage.mayEnd]
    have hend : stage.mayEndBefore c = true := by
      simp [NumeralStage.mayEndBefore, hstage, hdigit]
    rw [tokensFrom_cons, step, hextend]
    simp only [hend, if_true]
    exact finishBefore_of_isDelimiter hc _ rest

section

variable {stage stage' : NumeralStage} {n n' : Numeral} {c : Char} {rest : List Char}

theorem tokensFrom_extend (h : extend stage n c = some (stage', n')) (rest : List Char) :
    tokensFrom (.numeral stage n) (c :: rest) = tokensFrom (.numeral stage' n') rest := by
  rw [tokensFrom_cons, step, h]
  rfl

/-- Where each digit leads back to the same stage, so do digits in a row. -/
theorem tokensFrom_digits (put : List Char → Numeral)
    (hput : ∀ read c, c.isDigit = true →
      extend stage (put read) c = some (stage, put (read ++ [c])))
    {digits : List Char} (hdigits : ∀ c ∈ digits, c.isDigit = true) (read rest : List Char) :
    tokensFrom (.numeral stage (put read)) (digits ++ rest) =
      tokensFrom (.numeral stage (put (read ++ digits))) rest := by
  induction digits generalizing read with
  | nil => simp
  | cons c digits ih =>
    obtain ⟨hc, hdigits⟩ := List.forall_mem_cons.1 hdigits
    rw [List.cons_append, tokensFrom_extend (hput read c hc)]
    simpa using ih hdigits (read ++ [c])

/-- The exponent of a numeral, and what follows it. -/
theorem tokensFrom_exponent (hstage : stage = .zero ∨ stage = .whole ∨ stage = .fraction)
    (hn : n.IsWritten) (h : Closes rest) :
    tokensFrom (.numeral stage { n with exponent := none })
      (Numeral.exponentChars n.exponent ++ rest) = .number n :: tokensFrom .between rest := by
  cases hexponent : n.exponent with
  | none =>
    have hend : stage.mayEnd = true := by
      rcases hstage with rfl | rfl | rfl <;> rfl
    have hsame : { n with exponent := none } = n := by rw [← hexponent]
    rw [hsame]
    exact tokensFrom_numeral_end hend n h
  | some e =>
    obtain ⟨minus, digits⟩ := e
    obtain ⟨c, digits, rfl⟩ :=
      List.exists_cons_of_ne_nil (hn.exponent_ne_nil minus digits hexponent)
    obtain ⟨hc, hdigits⟩ := List.forall_mem_cons.1 (hn.exponent minus _ hexponent)
    have hmark : extend stage { n with exponent := none } 'e' =
        some (.mark, { n with exponent := some (false, []) }) := by
      rcases hstage with rfl | rfl | rfl <;> rfl
    have hsign : extend .mark { n with exponent := some (false, []) } (if minus then '-' else '+') =
        some (.exponentSign, { n with exponent := some (minus, []) }) := by
      cases minus <;> rfl
    have hfirst : extend .exponentSign { n with exponent := some (minus, []) } c =
        some (.exponent, { n with exponent := some (minus, [c]) }) := by
      simp [extend, hc]
    have hsame : { n with exponent := some (minus, c :: digits) } = n := by rw [← hexponent]
    calc tokensFrom (.numeral stage { n with exponent := none })
          ('e' :: (if minus then '-' else '+') :: c :: (digits ++ rest))
      _ = tokensFrom (.numeral .exponent { n with exponent := some (minus, [c]) })
            (digits ++ rest) := by
        rw [tokensFrom_extend hmark, tokensFrom_extend hsign, tokensFrom_extend hfirst]
      _ = tokensFrom (.numeral .exponent { n with exponent := some (minus, c :: digits) }) rest :=
        tokensFrom_digits (fun read => { n with exponent := some (minus, read) })
          (fun read c hc => by simp [extend, hc]) hdigits [c] rest
      _ = .number n :: tokensFrom .between rest := by
        rw [hsame]
        exact tokensFrom_numeral_end rfl n h

/-- The fraction and the exponent of a numeral, and what follows them. -/
theorem tokensFrom_fraction (hstage : stage = .zero ∨ stage = .whole) (hn : n.IsWritten)
    (h : Closes rest) :
    tokensFrom (.numeral stage { n with fraction := [], exponent := none })
      (Numeral.fractionChars n.fraction ++ (Numeral.exponentChars n.exponent ++ rest)) =
        .number n :: tokensFrom .between rest := by
  cases hfraction : n.fraction with
  | nil =>
    have hsame : ({ n with fraction := [], exponent := none } : Numeral) =
        { n with exponent := none } := by rw [← hfraction]
    rw [hsame]
    refine tokensFrom_exponent ?_ hn h
    rcases hstage with rfl | rfl
    · exact .inl rfl
    · exact .inr (.inl rfl)
  | cons c digits =>
    have hall := hn.fraction
    rw [hfraction] at hall
    obtain ⟨hc, hdigits⟩ := List.forall_mem_cons.1 hall
    have hpoint : extend stage { n with fraction := [], exponent := none } '.' =
        some (.point, { n with fraction := [], exponent := none }) := by
      rcases hstage with rfl | rfl <;> rfl
    have hfirst : extend .point { n with fraction := [], exponent := none } c =
        some (.fraction, { n with fraction := [c], exponent := none }) := by
      simp [extend, hc]
    have hsame : ({ n with fraction := c :: digits, exponent := none } : Numeral) =
        { n with exponent := none } := by rw [← hfraction]
    calc tokensFrom (.numeral stage { n with fraction := [], exponent := none })
          ('.' :: c :: (digits ++ (Numeral.exponentChars n.exponent ++ rest)))
      _ = tokensFrom (.numeral .fraction { n with fraction := [c], exponent := none })
            (digits ++ (Numeral.exponentChars n.exponent ++ rest)) := by
        rw [tokensFrom_extend hpoint, tokensFrom_extend hfirst]
      _ = tokensFrom (.numeral .fraction { n with fraction := c :: digits, exponent := none })
            (Numeral.exponentChars n.exponent ++ rest) :=
        tokensFrom_digits (fun read => { n with fraction := read, exponent := none })
          (fun read c hc => by simp [extend, hc]) hdigits [c] _
      _ = .number n :: tokensFrom .between rest := by
        rw [hsame]
        exact tokensFrom_exponent (.inr (.inr rfl)) hn h

/-- A numeral behind its sign, and what follows it. -/
theorem tokensFrom_whole (hn : n.IsWritten) (h : Closes rest) :
    tokensFrom (.numeral .sign ⟨n.negative, [], [], none⟩) (n.whole ++
      (Numeral.fractionChars n.fraction ++ (Numeral.exponentChars n.exponent ++ rest))) =
        .number n :: tokensFrom .between rest := by
  obtain ⟨c, digits, hwhole⟩ := List.exists_cons_of_ne_nil hn.whole_ne_nil
  have hall := hn.whole
  rw [hwhole] at hall
  obtain ⟨hc, hdigits⟩ := List.forall_mem_cons.1 hall
  have hsame : (⟨n.negative, c :: digits, [], none⟩ : Numeral) =
      { n with fraction := [], exponent := none } := by rw [← hwhole]
  rw [hwhole, List.cons_append]
  by_cases hzero : c = '0'
  · have hdigits : digits = [] := by
      have hhead := hn.whole_zero (by rw [hwhole, hzero]; rfl)
      rw [hwhole] at hhead
      exact (List.cons.inj hhead).2
    subst hzero hdigits
    rw [tokensFrom_extend rfl]
    show tokensFrom (.numeral .zero ⟨n.negative, ['0'], [], none⟩) _ = _
    rw [hsame]
    exact tokensFrom_fraction (.inl rfl) hn h
  · have hfirst : extend .sign ⟨n.negative, [], [], none⟩ c =
        some (.whole, ⟨n.negative, [c], [], none⟩) := by
      simp [extend, hc, hzero]
    rw [tokensFrom_extend hfirst, tokensFrom_digits (fun read => ⟨n.negative, read, [], none⟩)
      (fun read c hc => by simp [extend, hc]) hdigits [c]]
    show tokensFrom (.numeral .whole ⟨n.negative, c :: digits, [], none⟩) _ = _
    rw [hsame]
    exact tokensFrom_fraction (.inr rfl) hn h

/-- A digit begins a numeral without a sign. -/
theorem tokensFrom_digit (hc : c.isDigit = true) (rest : List Char) :
    tokensFrom .between (c :: rest) =
      tokensFrom (.numeral .sign ⟨false, [], [], none⟩) (c :: rest) := by
  have hstart : start c = step (.numeral .sign ⟨false, [], [], none⟩) c := by
    have hspace : ¬isSpace c = true := by
      intro h
      have hdigit := (ne_of_isDelimiter (c := c) (by simp [isDelimiter, h])).1
      rw [hc] at hdigit
      cases hdigit
    obtain ⟨⟨stage, n⟩, hextend⟩ : ∃ next, extend .sign ⟨false, [], [], none⟩ c = some next := by
      by_cases hzero : c = '0' <;> simp [extend, hc, hzero]
    unfold start
    rw [if_neg hspace]
    split
    case h_12 => simp only [step, hextend]
    all_goals exact absurd hc (by decide)
  rw [tokensFrom_cons, tokensFrom_cons, step, hstart]

/-- The tokens of a numeral, and of what follows it. -/
theorem tokensFrom_numeral (hn : n.IsWritten) (h : Closes rest) :
    tokensFrom .between (n.chars ++ rest) = .number n :: tokensFrom .between rest := by
  have hwhole := tokensFrom_whole hn h
  unfold Numeral.chars
  simp only [List.append_assoc]
  cases hnegative : n.negative with
  | true =>
    rw [hnegative] at hwhole
    exact hwhole
  | false =>
    obtain ⟨c, digits, hdigits⟩ := List.exists_cons_of_ne_nil hn.whole_ne_nil
    have hc : c.isDigit = true := hn.whole c (by rw [hdigits]; exact List.mem_cons_self)
    rw [hnegative, hdigits] at hwhole
    rw [hdigits]
    exact (tokensFrom_digit hc _).trans hwhole

end

/-! ## Strings -/

theorem hexValue?_hexDigit {n : Nat} (h : n < 16) : hexValue? (hexDigit n) = some n := by
  have hall : ∀ n < 16, hexValue? (hexDigit n) = some n := by decide
  exact hall n h

/-- A control character by its number. -/
theorem tokensFrom_control {c : Char} (h : c.toNat < 0x20) (units : List Nat) (rest : List Char) :
    tokensFrom (.text units .none)
      ('\\' :: 'u' :: '0' :: '0' :: hexDigit (c.toNat / 16) :: hexDigit (c.toNat % 16) :: rest) =
        tokensFrom (.text (c.toNat :: units) .none) rest := by
  have hhigh := hexValue?_hexDigit (n := c.toNat / 16) (by omega)
  have hlow := hexValue?_hexDigit (n := c.toNat % 16) (by omega)
  have hvalue : c.toNat / 16 * 16 + c.toNat % 16 = c.toNat := by omega
  have hzero : step (.text units (.hex 4 0)) '0' = ([], .text units (.hex 3 0)) := rfl
  have hzero' : step (.text units (.hex 3 0)) '0' = ([], .text units (.hex 2 0)) := rfl
  have hthird : step (.text units (.hex 2 0)) (hexDigit (c.toNat / 16)) =
      ([], .text units (.hex 1 (c.toNat / 16))) := by
    simp [step, hhigh]
  have hlast : step (.text units (.hex 1 (c.toNat / 16))) (hexDigit (c.toNat % 16)) =
      ([], .text (c.toNat :: units) .none) := by
    simp [step, hlow, hvalue]
  calc tokensFrom (.text units .none)
        ('\\' :: 'u' :: '0' :: '0' :: hexDigit (c.toNat / 16) :: hexDigit (c.toNat % 16) :: rest)
    _ = tokensFrom (.text units (.hex 2 0))
          (hexDigit (c.toNat / 16) :: hexDigit (c.toNat % 16) :: rest) := rfl
    _ = tokensFrom (.text (c.toNat :: units) .none) rest := by
      rw [tokensFrom_cons, hthird, List.nil_append, tokensFrom_cons, hlast, List.nil_append]

/-- What is written for a character is read as the character. -/
theorem tokensFrom_escapeChar (c : Char) (units : List Nat) (rest : List Char) :
    tokensFrom (.text units .none) (escapeChar c ++ rest) =
      tokensFrom (.text (c.toNat :: units) .none) rest := by
  by_cases hnamed : c ∈ ['"', '\\', '\x08', '\x0c', '\n', '\r', '\t']
  · simp only [List.mem_cons, List.not_mem_nil, or_false] at hnamed
    rcases hnamed with rfl | rfl | rfl | rfl | rfl | rfl | rfl <;> rfl
  · simp only [List.mem_cons, not_or] at hnamed
    obtain ⟨hquote, hbackslash, hb, hf, hn, hr, ht, -⟩ := hnamed
    by_cases hcontrol : c.toNat < 0x20
    · have hescape : escapeChar c =
          ['\\', 'u', '0', '0', hexDigit (c.toNat / 16), hexDigit (c.toNat % 16)] := by
        simp only [escapeChar, hquote, hbackslash, hb, hf, hn, hr, ht, hcontrol, if_true, if_false]
      rw [hescape]
      exact tokensFrom_control hcontrol units rest
    · have hescape : escapeChar c = [c] := by
        simp only [escapeChar, hquote, hbackslash, hb, hf, hn, hr, ht, hcontrol, if_false]
      have hstep : step (.text units .none) c = ([], .text (c.toNat :: units) .none) := by
        simp only [step, hquote, hbackslash, hcontrol, if_false]
      rw [hescape, List.singleton_append, tokensFrom_cons, hstep]
      rfl

theorem tokensFrom_escaped (s : List Char) (units : List Nat) (rest : List Char) :
    tokensFrom (.text units .none) (s.flatMap escapeChar ++ rest) =
      tokensFrom (.text ((s.map Char.toNat).reverse ++ units) .none) rest := by
  induction s generalizing units with
  | nil => rfl
  | cons c s ih =>
    rw [List.flatMap_cons, List.append_assoc, tokensFrom_escapeChar, ih]
    simp

/-- Characters are no halves of pairs. -/
theorem joinUnits_toNat (s : List Char) : joinUnits (s.map Char.toNat) = some s := by
  induction s with
  | nil => rfl
  | cons c s ih =>
    have hvalid : c.toNat < 0xD800 ∨ 0xDFFF < c.toNat ∧ c.toNat < 0x110000 := c.valid
    have hleading : isLeading c.toNat = false := by
      simp only [isLeading, Bool.and_eq_false_iff, decide_eq_false_iff_not]
      omega
    have htrailing : isTrailing c.toNat = false := by
      simp only [isTrailing, Bool.and_eq_false_iff, decide_eq_false_iff_not]
      omega
    unfold joinUnits
    simp [hleading, htrailing, ih]

/-- The token of a string, and of what follows it. -/
theorem tokensFrom_textChars (s : String) (rest : List Char) :
    tokensFrom .between (textChars s ++ rest) =
      .text (some s) :: tokensFrom .between rest := by
  have hunits : ((s.toList.map Char.toNat).reverse ++ []).reverse = s.toList.map Char.toNat := by
    simp
  calc tokensFrom .between (textChars s ++ rest)
    _ = tokensFrom (.text [] .none) (s.toList.flatMap escapeChar ++ '"' :: rest) := by
      unfold textChars
      rw [List.append_assoc, List.cons_append]
      rfl
    _ = tokensFrom (.text ((s.toList.map Char.toNat).reverse ++ []) .none) ('"' :: rest) :=
      tokensFrom_escaped s.toList [] ('"' :: rest)
    _ = .text (some s) :: tokensFrom .between rest := by
      show .text ((joinUnits _).map String.ofList) :: tokensFrom .between rest = _
      rw [hunits, joinUnits_toNat, Option.map_some, String.ofList_toList]

/-! ## Values -/

mutual

/-- The tokens of a value, and of what follows it. -/
theorem tokensFrom_chars (v : Json) {rest : List Char} (h : Closes rest) :
    tokensFrom .between (v.chars ++ rest) = v.lexemes ++ tokensFrom .between rest := by
  cases v with
  | null => exact tokensFrom_word .null h
  | bool b =>
    cases b with
    | true => exact tokensFrom_word (.bool true) h
    | false => exact tokensFrom_word (.bool false) h
  | number n =>
    rw [chars, Number.json_eq_chars]
    exact tokensFrom_numeral n.isWritten_numeral h
  | text s => exact tokensFrom_textChars s rest
  | array items =>
    simp only [chars, lexemes, List.cons_append, List.append_assoc, List.nil_append]
    exact congrArg (.openArray :: ·) (tokensFrom_itemChars items rest)
  | object fields =>
    simp only [chars, lexemes, List.cons_append, List.append_assoc, List.nil_append]
    exact congrArg (.openObject :: ·) (tokensFrom_fieldChars fields rest)

theorem tokensFrom_itemChars (items : List Json) (rest : List Char) :
    tokensFrom .between (itemChars items ++ ']' :: rest) =
      itemLexemes items ++ .closeArray :: tokensFrom .between rest := by
  cases items with
  | nil => rfl
  | cons x items =>
    cases items with
    | nil => exact tokensFrom_chars x (closes_cons rfl rest)
    | cons y items =>
      rw [itemChars, itemLexemes, List.append_assoc, List.append_assoc, List.cons_append,
        List.cons_append, ← tokensFrom_itemChars (y :: items) rest]
      exact tokensFrom_chars x (closes_cons rfl _)

theorem tokensFrom_fieldChars (fields : List (String × Json)) (rest : List Char) :
    tokensFrom .between (fieldChars fields ++ '\x7d' :: rest) =
      fieldLexemes fields ++ .closeObject :: tokensFrom .between rest := by
  cases fields with
  | nil => rfl
  | cons field fields =>
    obtain ⟨key, value⟩ := field
    cases fields with
    | nil =>
      have hvalue := tokensFrom_chars value (closes_cons (c := '\x7d') rfl rest)
      rw [fieldChars, fieldLexemes, List.append_assoc, tokensFrom_textChars]
      exact congrArg (.text (some key) :: .colon :: ·) hvalue
    | cons next fields =>
      have hvalue := tokensFrom_chars value
        (closes_cons (c := ',') rfl (fieldChars (next :: fields) ++ '\x7d' :: rest))
      have hnext := tokensFrom_fieldChars (next :: fields) rest
      simp only [fieldChars, fieldLexemes, List.cons_append, List.append_assoc]
      rw [tokensFrom_textChars, ← hnext]
      exact congrArg (.text (some key) :: .colon :: ·) hvalue

end

/-- The tokens of a value that stands alone. -/
theorem tokens_chars (v : Json) : tokens v.chars = v.lexemes := by
  have h := tokensFrom_chars v closes_nil
  rw [List.append_nil] at h
  exact h.trans (List.append_nil _)

end Criteria.Json
