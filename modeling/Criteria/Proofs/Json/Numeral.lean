import Criteria.Json.Numeral

/-!
# Written numbers

Every number is written as a numeral of JSON: no zero in front of other digits, and digits behind a
point. Main statements: so are the whole numbers and the doubles (`Number.json_eq_chars`,
`Number.isWritten_numeral`), and a whole number that was read is read back from its numeral
(`Numeral.bounds_of_number?`, `Numeral.number?_ofInt`).
-/

namespace Criteria

namespace Numeral

/-! ## The text of a numeral -/

def fractionChars : List Char → List Char
  | [] => []
  | c :: rest => '.' :: c :: rest

def exponentChars : Option (Bool × List Char) → List Char
  | none => []
  | some (minus, digits) => 'e' :: (if minus then '-' else '+') :: digits

/-- How the numeral is written, with the sign of its exponent. -/
def chars (n : Numeral) : List Char :=
  (if n.negative then ['-'] else []) ++ n.whole ++ fractionChars n.fraction ++
    exponentChars n.exponent

/-- The parts of the numeral make a text that is a numeral. -/
structure IsWritten (n : Numeral) : Prop where
  whole_ne_nil : n.whole ≠ []
  whole : ∀ c ∈ n.whole, c.isDigit = true
  whole_zero : n.whole.head? = some '0' → n.whole = ['0']
  fraction : ∀ c ∈ n.fraction, c.isDigit = true
  exponent_ne_nil : ∀ minus digits, n.exponent = some (minus, digits) → digits ≠ []
  exponent : ∀ minus digits, n.exponent = some (minus, digits) → ∀ c ∈ digits, c.isDigit = true

/-- A numeral consists of digits and of its signs, its point and its mark. -/
theorem IsWritten.mem_chars {n : Numeral} (hn : n.IsWritten) {c : Char} (hc : c ∈ n.chars) :
    c.isDigit = true ∨ c ∈ ['-', '+', '.', 'e'] := by
  simp only [chars, List.mem_append] at hc
  rcases hc with ((hsign | hwhole) | hfraction) | hexponent
  · cases hnegative : n.negative <;> simp_all
  · exact .inl (hn.whole c hwhole)
  · cases hdigits : n.fraction with
    | nil => simp [hdigits, fractionChars] at hfraction
    | cons first rest =>
      rw [hdigits, fractionChars, ← hdigits] at hfraction
      rcases List.mem_cons.1 hfraction with rfl | hmem
      · exact .inr (by decide)
      · exact .inl (hn.fraction c hmem)
  · cases hmark : n.exponent with
    | none => simp [hmark, exponentChars] at hexponent
    | some e =>
      obtain ⟨minus, digits⟩ := e
      rw [hmark, exponentChars] at hexponent
      rcases List.mem_cons.1 hexponent with rfl | hexponent
      · exact .inr (by decide)
      · rcases List.mem_cons.1 hexponent with rfl | hmem
        · exact .inr (by cases minus <;> decide)
        · exact .inl (hn.exponent minus digits hmark c hmem)

end Numeral

namespace Decimal

theorem digitsOf_ne_nil (n : Nat) : digitsOf n ≠ [] := Nat.toDigits_ne_nil

theorem isDigit_of_mem_digitsOf {n : Nat} {c : Char} (h : c ∈ digitsOf n) : c.isDigit = true :=
  Nat.isDigit_of_mem_toDigits (by omega) (by omega) h

/-- Only zero is written with a zero in front. -/
theorem head?_digitsOf {n : Nat} (h : n ≠ 0) : (digitsOf n).head? ≠ some '0' := by
  unfold digitsOf
  induction n using Nat.strongRecOn with
  | _ n ih =>
    by_cases hlt : n < 10
    · rw [Nat.toDigits_of_lt_base hlt]
      have hdigit : ∀ d < 10, d ≠ 0 → d.digitChar ≠ '0' := by decide
      simpa using hdigit n hlt h
    · obtain ⟨first, rest, hfirst⟩ :=
        List.exists_cons_of_ne_nil (Nat.toDigits_ne_nil (n := n / 10) (b := 10))
      have hne := ih (n / 10) (by omega) (by omega)
      rw [Nat.toDigits_of_base_le (by omega) (by omega), hfirst]
      rw [hfirst] at hne
      simpa using hne

theorem digitsOf_zero : digitsOf 0 = ['0'] := Nat.toDigits_zero 10

theorem digitsOf_eq_zero {n : Nat} (h : (digitsOf n).head? = some '0') : digitsOf n = ['0'] := by
  by_cases hn : n = 0
  · rw [hn, digitsOf_zero]
  · exact absurd h (head?_digitsOf hn)

/-- The numeral of a decimal with a sign: in full, or with an exponent. -/
def numeral (negative : Bool) (d : Decimal) : Numeral :=
  if -5 ≤ d.magnitude ∧ d.magnitude ≤ 15 then
    match d.positional with
    | (whole, []) => ⟨negative, whole, ['0'], none⟩
    | (whole, c :: fraction) => ⟨negative, whole, c :: fraction, none⟩
  else
    ⟨negative, (digitsOf d.digits).take 1, (digitsOf d.digits).drop 1,
      some (decide (d.magnitude < 0), digitsOf d.magnitude.natAbs)⟩

theorem chars_numeral (negative : Bool) (d : Decimal) :
    (d.numeral negative).chars = (if negative then ['-'] else []) ++ d.marked := by
  unfold numeral marked Numeral.chars
  split
  · split
    · next whole h => simp [h, Numeral.fractionChars, Numeral.exponentChars]
    · next whole c fraction h => simp [h, Numeral.fractionChars, Numeral.exponentChars]
  · obtain ⟨first, rest, hdigits⟩ := List.exists_cons_of_ne_nil (digitsOf_ne_nil d.digits)
    unfold scientific
    rw [hdigits]
    cases rest with
    | nil => by_cases h : d.magnitude < 0 <;> simp [Numeral.fractionChars, Numeral.exponentChars, h]
    | cons second rest =>
      by_cases h : d.magnitude < 0 <;> simp [Numeral.fractionChars, Numeral.exponentChars, h]

theorem isDigit_of_mem_zeros {n : Nat} {c : Char} (h : c ∈ List.replicate n '0') :
    c.isDigit = true := by
  rw [List.eq_of_mem_replicate h]
  decide

theorem isDigit_of_mem_positional (d : Decimal) :
    (∀ c ∈ d.positional.1, c.isDigit = true) ∧ ∀ c ∈ d.positional.2, c.isDigit = true := by
  unfold positional
  dsimp only
  split
  · simp only [List.mem_append]
    exact ⟨fun c hc => hc.elim isDigit_of_mem_digitsOf isDigit_of_mem_zeros, by simp⟩
  · split
    · rw [List.splitAt_eq]
      exact ⟨fun c hc => isDigit_of_mem_digitsOf (List.mem_of_mem_take hc),
        fun c hc => isDigit_of_mem_digitsOf (List.mem_of_mem_drop hc)⟩
    · simp only [List.mem_append, List.mem_singleton]
      refine ⟨?_, fun c hc => hc.elim isDigit_of_mem_zeros isDigit_of_mem_digitsOf⟩
      rintro c rfl
      decide

/-- Before the point there is a digit, and no zero before other digits. -/
theorem positional_whole {d : Decimal} (hzero : d.digits = 0 → d.exponent = 0) :
    d.positional.1 ≠ [] ∧ (d.positional.1.head? = some '0' → d.positional.1 = ['0']) := by
  obtain ⟨first, rest, hdigits⟩ := List.exists_cons_of_ne_nil (digitsOf_ne_nil d.digits)
  have hfirst : first = '0' → d.digits = 0 ∧ rest = [] := by
    intro h
    have hhead : (digitsOf d.digits).head? = some '0' := by
      rw [hdigits, h]
      rfl
    have hrest := digitsOf_eq_zero hhead
    rw [hdigits] at hrest
    exact ⟨Decidable.byContradiction fun hne => head?_digitsOf hne hhead, (List.cons.inj hrest).2⟩
  unfold positional
  dsimp only
  rw [hdigits]
  split
  · refine ⟨by simp, ?_⟩
    intro h
    obtain ⟨hd, rfl⟩ := hfirst (by simpa using h)
    have hfirst : first = '0' := by simpa using h
    simp [hzero hd, hfirst]
  · split
    · next hpoint =>
      obtain ⟨k, hk⟩ : ∃ k, ((first :: rest).length + d.exponent).toNat = k + 1 :=
        ⟨((first :: rest).length + d.exponent).toNat - 1, by omega⟩
      rw [List.splitAt_eq, hk]
      refine ⟨by simp, ?_⟩
      intro h
      have hfirst' : first = '0' := by simpa using h
      obtain ⟨-, rfl⟩ := hfirst hfirst'
      simp [hfirst']
    · simp

/-- A decimal that is no zero with zeros behind it is written as a numeral. -/
theorem isWritten_numeral (negative : Bool) {d : Decimal}
    (hzero : d.digits = 0 → d.exponent = 0) : (d.numeral negative).IsWritten := by
  obtain ⟨hwhole, hfraction⟩ := d.isDigit_of_mem_positional
  obtain ⟨hne, hhead⟩ := positional_whole hzero
  unfold numeral
  split
  · split
    · next whole h =>
      rw [h] at hwhole hne hhead
      exact ⟨hne, hwhole, hhead, by simp, by simp, by simp⟩
    · next whole c fraction h =>
      rw [h] at hwhole hfraction hne hhead
      exact ⟨hne, hwhole, hhead, hfraction, by simp, by simp⟩
  · obtain ⟨first, rest, hdigits⟩ := List.exists_cons_of_ne_nil (digitsOf_ne_nil d.digits)
    have hall : ∀ c ∈ first :: rest, c.isDigit = true := by
      rw [← hdigits]
      exact fun c hc => isDigit_of_mem_digitsOf hc
    rw [hdigits]
    refine ⟨by simp, ?_, by simp, ?_, ?_, ?_⟩
    · simpa using hall first List.mem_cons_self
    · exact fun c hc => hall c (List.mem_cons_of_mem _ hc)
    · rintro _ _ ⟨⟩
      exact digitsOf_ne_nil _
    · rintro _ _ ⟨⟩ c hc
      exact isDigit_of_mem_digitsOf hc

end Decimal

/-! ## Whole numbers -/

namespace Numeral

/-- The numeral of a whole number. -/
def ofInt (n : Int) : Numeral := ⟨decide (n < 0), Decimal.digitsOf n.natAbs, [], none⟩

theorem isWritten_ofInt (n : Int) : (ofInt n).IsWritten :=
  ⟨Decimal.digitsOf_ne_nil _, fun _ hc => Decimal.isDigit_of_mem_digitsOf hc,
    Decimal.digitsOf_eq_zero, by simp [ofInt], by simp [ofInt], by simp [ofInt]⟩

theorem chars_ofInt (n : Int) : (ofInt n).chars = (toString n).toList := by
  cases n with
  | ofNat n =>
    show [] ++ Nat.toDigits 10 n ++ [] ++ [] = n.repr.toList
    simp [Nat.repr_eq_ofList_toDigits]
  | negSucc n =>
    have hneg : decide (Int.negSucc n < 0) = true := decide_eq_true (Int.negSucc_lt_zero n)
    rw [ofInt, hneg]
    show ['-'] ++ Nat.toDigits 10 n.succ ++ [] ++ [] = ("-" ++ n.succ.repr).toList
    simp [Nat.repr_eq_ofList_toDigits]

theorem le_ofDigitChars (value : Nat) (digits : List Char) :
    value ≤ Nat.ofDigitChars 10 digits value := by
  induction digits generalizing value with
  | nil => exact Nat.le_refl _
  | cons c rest ih =>
    have hrest := ih (10 * value + (c.toNat - '0'.toNat))
    rw [Nat.ofDigitChars_cons]
    omega

/-- Digits whose value fits 64 bits are all taken. -/
theorem take_of_lt {value : Nat} {digits : List Char}
    (h : Nat.ofDigitChars 10 digits value < wordCount) :
    take value digits = (Nat.ofDigitChars 10 digits value, 0) := by
  induction digits generalizing value with
  | nil => rfl
  | cons c rest ih =>
    rw [Nat.ofDigitChars_cons] at h ⊢
    have hle := le_ofDigitChars (10 * value + (c.toNat - '0'.toNat)) rest
    have hnext : value * 10 + (c.toNat - '0'.toNat) < wordCount := by omega
    rw [take, if_pos hnext, Nat.mul_comm value]
    exact ih h

/-- What is taken fits 64 bits. -/
theorem take_lt {value : Nat} (h : value < wordCount) (digits : List Char) :
    (take value digits).1 < wordCount := by
  induction digits generalizing value with
  | nil => exact h
  | cons c rest ih =>
    rw [take]
    by_cases hnext : value * 10 + (c.toNat - '0'.toNat) < wordCount
    · rw [if_pos hnext]
      exact ih hnext
    · rw [if_neg hnext]
      exact h

theorem real?_ne_int (n : Numeral) (k : Int) : n.real? ≠ some (.int k) := by
  unfold real?
  cases n.magnitude? <;> simp

/-- The whole numbers that are read: those of 64 bits, and of 63 bits below zero. -/
theorem bounds_of_number? {n : Numeral} {k : Int} (h : n.number? = some (.int k)) :
    -(Nat.pow 2 63 : Int) ≤ k ∧ k < wordCount := by
  have htake := take_lt (by decide : 0 < wordCount) n.whole
  unfold number? at h
  split at h
  · split at h
    · next hvalue =>
      rw [hvalue] at htake
      cases h
      have hlow : (0 : Int) ≤ Nat.pow 2 63 := Int.natCast_nonneg _
      omega
    · next hvalue =>
      rw [hvalue] at htake
      split at h
      · next hbounds =>
        cases h
        omega
      · exact absurd h (real?_ne_int n k)
    · exact absurd h (real?_ne_int n k)
  · exact absurd h (real?_ne_int n k)

theorem number?_ofInt {k : Int} (hlow : -(Nat.pow 2 63 : Int) ≤ k) (hhigh : k < wordCount) :
    (ofInt k).number? = some (.int k) := by
  have hvalue : Nat.ofDigitChars 10 (Decimal.digitsOf k.natAbs) 0 = k.natAbs :=
    Nat.ofDigitChars_ten_toDigits
  have hpow : Nat.pow 2 63 < wordCount := by decide
  have htake : take 0 (Decimal.digitsOf k.natAbs) = (k.natAbs, 0) := by
    rw [take_of_lt, hvalue]
    rw [hvalue]
    omega
  unfold number? ofInt
  by_cases hneg : k < 0
  · have hbounds : 0 < k.natAbs ∧ k.natAbs ≤ Nat.pow 2 63 := by omega
    have habs : -(k.natAbs : Int) = k := by omega
    simp only [hneg, decide_true, htake, and_self, if_true, hbounds, habs]
  · have habs : (k.natAbs : Int) = k := by omega
    simp only [hneg, decide_false, htake, and_self, if_true, habs]

end Numeral

/-! ## Doubles -/

namespace Double

variable {x : Double}

theorem interval_low_pos (h : x.isZero = false) : 0 < x.interval.1 := by
  have hmantissa : 1 ≤ x.mantissa := by
    have hne : x.mantissa ≠ 0 := by simpa [isZero] using h
    omega
  have hstep : 0 < Nat.pow 2 x.exponent := Nat.pow_pos (by omega)
  have hscaled : Nat.pow 2 x.exponent ≤ x.scaled := Nat.le_mul_of_pos_left _ hmantissa
  unfold interval
  dsimp only
  split <;> omega

/-- A decimal that rounds to a double other than zero is not zero. -/
theorem onGrid?_ne_zero (h : x.isZero = false) (tie : Tie) (exponent : Int) :
    x.onGrid? tie exponent ≠ some 0 := by
  have hlow := interval_low_pos h
  have hup : 0 < Nat.pow 10 (-exponent).toNat := Nat.pow_pos (by omega)
  have hends : 0 < x.interval.1 * Nat.pow 10 (-exponent).toNat := Nat.mul_pos hlow hup
  intro hsome
  unfold onGrid? at hsome
  dsimp only at hsome
  generalize x.interval.1 * Nat.pow 10 (-exponent).toNat = low at hends hsome
  generalize x.interval.2.1 * Nat.pow 10 (-exponent).toNat /
    (4 * unit * Nat.pow 10 exponent.toNat) = floor at hsome
  by_cases hfloor : floor = 0
  · -- the grid point zero lies below the interval
    subst hfloor
    have hne : low ≠ 0 := by omega
    simp only [Nat.zero_mul, Nat.le_zero, Nat.not_lt_zero, hne, decide_false, Bool.false_and,
      ite_self] at hsome
    split at hsome
    · next h _ => cases h
    · next h _ => cases h
    · cases hsome
    · cases hsome
  · split at hsome
    · split at hsome
      · exact hfloor (Option.some.inj hsome)
      · cases hsome
    · exact hfloor (Option.some.inj hsome)
    · cases hsome
    · cases hsome

theorem search_ne_zero (h : x.isZero = false) (tie : Tie) (tries : Nat) {exponent : Int}
    {d : Decimal} (hd : x.search tie exponent tries = some d) : d.digits ≠ 0 := by
  induction tries generalizing exponent with
  | zero => cases hd
  | succ tries ih =>
    unfold search at hd
    split at hd
    · next digits hgrid =>
      cases hd
      rintro rfl
      exact onGrid?_ne_zero h tie exponent hgrid
    · exact ih hd

/-- Zero is written without zeros behind it. -/
theorem shortest_of_zero (x : Double) (tie : Tie) (h : (x.shortest tie).digits = 0) :
    (x.shortest tie).exponent = 0 := by
  unfold shortest at h ⊢
  cases hzero : x.isZero with
  | true => simp
  | false =>
    rw [hzero] at h
    simp only [Bool.false_eq_true, if_false] at h ⊢
    split
    · next d hd =>
      rw [hd] at h
      have hne := search_ne_zero hzero tie 17 hd
      dsimp only at h
      split at h
      · cases h
      · exact absurd h hne
    · rfl

end Double

namespace Number

/-- The numeral that is written for a number. -/
def numeral : Number → Numeral
  | int n => .ofInt n
  | real x => (x.shortest .even).numeral x.negative

theorem json_eq_chars (n : Number) : n.json.toList = n.numeral.chars := by
  cases n with
  | int n => exact (Numeral.chars_ofInt n).symm
  | real x =>
    rw [numeral, Decimal.chars_numeral]
    simp [json, Double.json, Double.sign]

theorem isWritten_numeral (n : Number) : n.numeral.IsWritten := by
  cases n with
  | int n => exact Numeral.isWritten_ofInt n
  | real x =>
    exact Decimal.isWritten_numeral _ (x.shortest_of_zero .even)

end Number

end Criteria
