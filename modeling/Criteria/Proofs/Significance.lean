import Criteria.Proofs.Json.Numeral
import Criteria.Proofs.Level
import Criteria.Proofs.Text
import Criteria.Samples
import Criteria.Text.Letter

/-!
# Numbers and their texts

A whole number can be written in many ways: with or without a sign, with zeros in front, with blanks
around it. Main statements: the number in a text is taken for zero exactly if the double nearest to
it is zero (`NumberText.isZero_of_nearest`); and as the first argument of a call a whole number says
the same however it is written, so that a call with a gate comes to the same for it and for its text
(`Query.call_of_spelling`).
-/

namespace Criteria

/-! ## Doubles that are zero -/

namespace Double

variable {n num den e mantissa exponent : Nat} {negative : Bool} {x : Double}

theorem roundDiv_bounds (num den : Nat) :
    num / den ≤ roundDiv num den ∧ roundDiv num den ≤ num / den + 1 := by
  rw [roundDiv]
  split <;> omega

/-- Below one half nothing is left, and at one half neither. -/
theorem roundDiv_eq_zero_iff (hden : 0 < den) : roundDiv num den = 0 ↔ 2 * num ≤ den := by
  by_cases hlt : num < den
  · have hround : roundDiv num den = if den < 2 * num then 1 else 0 := by
      rw [roundDiv, Nat.div_eq_of_lt hlt, Nat.mod_eq_of_lt hlt]
      simp
    rw [hround]
    split <;> omega
  · have hle := (roundDiv_bounds num den).1
    have hpos := Nat.div_pos (Nat.le_of_not_lt hlt) hden
    omega

/-- Scaled down to 53 bits, a number has all of them, or it is not scaled at all. -/
theorem bits_of_scaled (q : Nat) :
    q / Nat.pow 2 (q.log2 - 52) < Nat.pow 2 53 ∧
      (Nat.pow 2 52 ≤ q / Nat.pow 2 (q.log2 - 52) ∨ q.log2 - 52 = 0) := by
  simp only [Nat.pow_eq]
  constructor
  · apply Nat.div_lt_of_lt_mul
    calc q < 2 ^ (q.log2 + 1) := Nat.lt_log2_self
      _ ≤ 2 ^ (q.log2 - 52 + 53) := Nat.pow_le_pow_right (by omega) (by omega)
      _ = 2 ^ (q.log2 - 52) * 2 ^ 53 := Nat.pow_add 2 _ 53
  · by_cases he : q.log2 - 52 = 0
    · exact .inr he
    · have hq : q ≠ 0 := by
        rintro rfl
        exact he rfl
      refine .inl ((Nat.le_div_iff_mul_le (Nat.two_pow_pos _)).2 ?_)
      calc 2 ^ 52 * 2 ^ (q.log2 - 52) = 2 ^ q.log2 := by
            rw [← Nat.pow_add]
            congr 1
            omega
        _ ≤ q := Nat.log2_self_le hq

/-- The mantissa of a ratio has 53 bits, or the ratio is not scaled. Rounding may carry. -/
theorem roundDiv_scaled (he : (n / den).log2 - 52 = e) :
    roundDiv n (den * Nat.pow 2 e) ≤ Nat.pow 2 53 ∧
      (Nat.pow 2 52 ≤ roundDiv n (den * Nat.pow 2 e) ∨ e = 0) := by
  obtain ⟨hlow, hfull⟩ := bits_of_scaled (n / den)
  obtain ⟨hfloor, hceil⟩ := roundDiv_bounds n (den * Nat.pow 2 e)
  rw [← Nat.div_div_eq_div_mul] at hfloor hceil
  rw [he] at hlow hfull
  omega

theorem roundDiv_scaled_eq_zero_iff (hden : 0 < den) (he : (n / den).log2 - 52 = e) :
    roundDiv n (den * Nat.pow 2 e) = 0 ↔ 2 * n ≤ den := by
  have hround : roundDiv n (den * Nat.pow 2 e) = 0 ↔ 2 * n ≤ den * Nat.pow 2 e :=
    roundDiv_eq_zero_iff (Nat.mul_pos hden (Nat.two_pow_pos e))
  constructor
  · intro h
    -- only what is not scaled can be rounded to zero
    have hfull : ¬ Nat.pow 2 52 ≤ roundDiv n (den * Nat.pow 2 e) := by
      rw [h]
      decide
    have hzero : e = 0 := (roundDiv_scaled he).2.resolve_left hfull
    rwa [hround, hzero, Nat.pow_eq, Nat.pow_zero, Nat.mul_one] at h
  · intro h
    exact hround.2 (Nat.le_trans h (Nat.le_mul_of_pos_right den (Nat.two_pow_pos e)))

theorem mantissa_of_ofParts? (h : ofParts? negative mantissa exponent = some x) :
    x.mantissa = mantissa := by
  unfold ofParts? at h
  split at h
  · cases h
    rfl
  · cases h

/-- The double nearest to a ratio, if there is one, is zero exactly if twice the ratio is no more
than the least positive double. -/
theorem isZero_of_ofRatio? (hden : 0 < den) (h : ofRatio? negative num den = some x) :
    x.isZero = true ↔ 2 * (num * unit) ≤ den := by
  rw [isZero_iff, ← roundDiv_scaled_eq_zero_iff hden rfl]
  simp only [ofRatio?] at h
  split at h
  · next hcarry =>
    rw [hcarry, mantissa_of_ofParts? h]
    decide
  · rw [mantissa_of_ofParts? h]

/-- A ratio that is not too large has a nearest double. -/
theorem exists_ofRatio? (negative : Bool) (hlarge : (num * unit / den).log2 ≤ 2096) :
    ∃ x, ofRatio? negative num den = some x := by
  have hcarried : Nat.pow 2 52 < Nat.pow 2 53 := by decide
  simp only [ofRatio?]
  generalize he : (num * unit / den).log2 - 52 = e
  obtain ⟨hhigh, hfull⟩ := roundDiv_scaled he
  generalize roundDiv (num * unit) (den * Nat.pow 2 e) = mantissa at *
  split
  · have hparts : Nat.pow 2 52 < Nat.pow 2 53 ∧ e + 1 ≤ 2045 ∧
        (Nat.pow 2 52 ≤ Nat.pow 2 52 ∨ e + 1 = 0) := by omega
    exact ⟨⟨negative, Nat.pow 2 52, e + 1, hparts⟩, dif_pos hparts⟩
  · have hparts : mantissa < Nat.pow 2 53 ∧ e ≤ 2045 ∧ (Nat.pow 2 52 ≤ mantissa ∨ e = 0) := by
      omega
    exact ⟨⟨negative, mantissa, e, hparts⟩, dif_pos hparts⟩

/-- The unit is a power of two. It is far too large to be written out. -/
theorem unit_eq : ∃ places, places = 1074 ∧ unit = Nat.pow 2 places := by
  unfold unit
  generalize 1074 = places
  exact ⟨places, rfl, rfl⟩

theorem unit_pos : 0 < unit := by
  obtain ⟨places, -, hunit⟩ := unit_eq
  rw [hunit]
  exact Nat.two_pow_pos places

theorem two_mul_unit : 2 * unit = Nat.pow 2 1075 := by
  obtain ⟨places, hplaces, hunit⟩ := unit_eq
  have hnext : 1075 = places + 1 := by omega
  rw [hunit, hnext]
  exact Nat.pow_succ'.symm

/-- Three binary places are less than a decimal one. -/
theorem two_mul_unit_le {k : Nat} (hk : 400 ≤ k) : 2 * unit ≤ Nat.pow 10 k := by
  obtain ⟨places, hplaces, hunit⟩ := unit_eq
  calc 2 * unit = 2 ^ (places + 1) := by
        rw [hunit]
        exact Nat.pow_succ'.symm
    _ ≤ 2 ^ (3 * k) := Nat.pow_le_pow_right Nat.two_pos (by omega)
    _ = (2 ^ 3) ^ k := Nat.pow_mul 2 3 k
    _ ≤ Nat.pow 10 k := Nat.pow_le_pow_left (by decide) k

theorem log2_mul_unit_le {m : Nat} (h : m < Nat.pow 2 64) : (m * unit).log2 ≤ 2096 := by
  obtain ⟨places, hplaces, hunit⟩ := unit_eq
  by_cases hzero : m * unit = 0
  · rw [hzero]
    exact Nat.zero_le _
  · have hlog : (m * unit).log2 < 64 + places := by
      rw [Nat.log2_lt hzero, hunit, Nat.pow_add]
      exact Nat.mul_lt_mul_of_pos_right h (Nat.two_pow_pos places)
    omega

/-- A whole number of 64 bits has a nearest double, and only for zero it is zero. -/
theorem exists_ofRatio?_int {n : Int} (hlow : -(Nat.pow 2 63 : Int) ≤ n)
    (hhigh : n < Nat.pow 2 64) :
    ∃ x, ofRatio? (decide (n < 0)) n.natAbs 1 = some x ∧ x.isZero = (n == 0) := by
  have hbits : Nat.pow 2 63 < Nat.pow 2 64 := by decide
  have hlarge : (n.natAbs * unit / 1).log2 ≤ 2096 := by
    rw [Nat.div_one]
    exact log2_mul_unit_le (by omega)
  obtain ⟨x, hx⟩ := exists_ofRatio? (decide (n < 0)) hlarge
  refine ⟨x, hx, Bool.eq_iff_iff.2 ?_⟩
  rw [isZero_of_ofRatio? Nat.one_pos hx, beq_iff_eq]
  constructor
  · intro h
    by_cases hn : n = 0
    · exact hn
    · have hpos : 0 < n.natAbs * unit := Nat.mul_pos (Int.natAbs_pos.2 hn) unit_pos
      omega
  · rintro rfl
    rw [Int.natAbs_zero, Nat.zero_mul]
    exact Nat.zero_le 1

end Double

/-! ## Texts that are numbers -/

namespace NumberText

variable {n : Int} {sign digits s : List Char} {exponent : Int} {x : Double}

theorem ofDigitChars_lt (hdigits : ∀ c ∈ digits, c.isDigit = true) :
    Nat.ofDigitChars 10 digits 0 < Nat.pow 10 digits.length := by
  induction digits with
  | nil => exact Nat.one_pos
  | cons c digits ih =>
    obtain ⟨hc, hrest⟩ := List.forall_mem_cons.1 hdigits
    have hdigit : c.toNat - '0'.toNat ≤ 9 := by
      have hnine : '9'.toNat = '0'.toNat + 9 := rfl
      have hle := (Char.isDigit_iff_toNat.1 hc).2
      omega
    have hvalue := ih hrest
    have hscaled := Nat.mul_le_mul_left (10 ^ digits.length) hdigit
    rw [Nat.pow_eq] at hvalue ⊢
    rw [Nat.ofDigitChars_cons, Nat.ofDigitChars_eq_ofDigitChars_zero, Nat.mul_zero, Nat.zero_add,
      List.length_cons, Nat.pow_succ]
    omega

/-- The places that are not looked at make no difference: a number with as many in front is zero
anyway. -/
theorem isZero_finite_iff (hdigits : ∀ c ∈ digits, c.isDigit = true) :
    (finite digits exponent).isZero = true ↔
      2 * (Nat.ofDigitChars 10 digits 0 * Nat.pow 10 exponent.toNat * Double.unit) ≤
        Nat.pow 10 (-exponent).toNat := by
  have hpos := Double.unit_pos
  have hvalue := ofDigitChars_lt hdigits
  rw [isZero, ← Double.two_mul_unit]
  simp only [Bool.or_eq_true, Bool.and_eq_true, beq_iff_eq, decide_eq_true_eq]
  generalize Nat.ofDigitChars 10 digits 0 = value at *
  by_cases hzero : value = 0
  · simp [hzero]
  by_cases hneg : exponent < 0
  · have hwhole : exponent.toNat = 0 := by omega
    have hplaces : ∀ k ≥ 400, value * (2 * Double.unit) ≤ Nat.pow 10 (digits.length + k) := by
      intro k hk
      rw [Nat.pow_eq, Nat.pow_add]
      exact Nat.mul_le_mul (Nat.le_of_lt hvalue) (Double.two_mul_unit_le hk)
    have hcut := hplaces 400 (Nat.le_refl 400)
    have hscale : 2 * (value * Nat.pow 10 exponent.toNat * Double.unit) =
        value * (2 * Double.unit) := by
      rw [hwhole, Nat.pow_eq, Nat.pow_zero, Nat.mul_one, Nat.mul_left_comm]
    rw [hscale]
    rcases Nat.le_total (-exponent).toNat (digits.length + 400) with hle | hle
    · rw [Nat.min_eq_left hle]
      exact ⟨fun h => (h.resolve_left hzero).2, fun h => .inr ⟨hneg, h⟩⟩
    · have hfew := Nat.le_trans hcut (Nat.pow_le_pow_right (by decide : 0 < 10) hle)
      rw [Nat.min_eq_right hle]
      exact ⟨fun _ => hfew, fun _ => .inr ⟨hneg, hcut⟩⟩
  · have hfraction : (-exponent).toNat = 0 := by omega
    have hscaled : 0 < value * Nat.pow 10 exponent.toNat * Double.unit :=
      Nat.mul_pos (Nat.mul_pos (Nat.pos_of_ne_zero hzero) (Nat.pow_pos (by decide))) hpos
    have hone : Nat.pow 10 0 = 1 := rfl
    rw [hfraction, hone]
    omega

/-- The number in a text is taken for zero exactly if the double nearest to it is zero. -/
theorem isZero_of_nearest {negative : Bool} (hdigits : ∀ c ∈ digits, c.isDigit = true)
    (hnearest : Double.ofRatio? negative
      (Nat.ofDigitChars 10 digits 0 * Nat.pow 10 exponent.toNat) (Nat.pow 10 (-exponent).toNat) =
        some x) :
    (finite digits exponent).isZero = x.isZero := by
  have hpos : 0 < Nat.pow 10 (-exponent).toNat := Nat.pow_pos (by decide)
  rw [Bool.eq_iff_iff, isZero_finite_iff hdigits, Double.isZero_of_ofRatio? hpos hnearest]

/-- None of the words that are numbers begins with a digit. -/
theorem readUnsigned?_digits (hne : digits ≠ []) (hdigits : ∀ c ∈ digits, c.isDigit = true) :
    readUnsigned? digits = some (finite digits 0) := by
  have hword : ["inf", "infinity", "nan"].contains (String.ofList (digits.map Char.toLower)) =
      false := by
    have hwords : ∀ w ∈ ["inf", "infinity", "nan"], w.toList.head?.any Char.isDigit = false := by
      decide
    obtain ⟨c, rest, rfl⟩ := List.exists_cons_of_ne_nil hne
    have hc := hdigits c List.mem_cons_self
    have hlower : c.toLower = c := by
      have hnine : '9'.toNat = 0x39 := rfl
      have hdigit := (Char.isDigit_iff_toNat.1 hc).2
      exact Text.toLower_eq_self (by omega)
    rw [List.map_cons, hlower]
    refine Bool.eq_false_iff.2 fun hcontains => ?_
    have hfirst := hwords _ (List.contains_iff_mem.1 hcontains)
    rw [String.toList_ofList, List.head?_cons, Option.any_some, hc] at hfirst
    cases hfirst
  have htake : (digits ++ []).takeWhile Char.isDigit = digits ++ [] :=
    List.takeWhile_append_of_pos hdigits
  have hdrop : (digits ++ []).dropWhile Char.isDigit = [] :=
    List.dropWhile_append_of_pos hdigits
  rw [List.append_nil] at htake hdrop
  rw [readUnsigned?, hword]
  simp only [Bool.false_eq_true, if_false, htake, hdrop, readTail?]
  rw [if_neg (by simpa using hne)]
  rfl

/-! ## Spellings -/

/-- What can stand as the sign of a whole number. -/
inductive IsSign (n : Int) : List Char → Prop
  | none (h : 0 ≤ n) : IsSign n []
  | plus (h : 0 ≤ n) : IsSign n ['+']
  | minus (h : n ≤ 0) : IsSign n ['-']

/-- The ways to write a whole number: its sign, zeros, its decimal digits, and blanks around. -/
inductive IsSpelling (n : Int) : List Char → Prop
  | mk {before sign after : List Char} (zeros : Nat)
    (hbefore : ∀ c ∈ before, Text.isBlank c = true) (hsign : IsSign n sign)
    (hafter : ∀ c ∈ after, Text.isBlank c = true) :
    IsSpelling n
      (before ++ (sign ++ (List.replicate zeros '0' ++ Decimal.digitsOf n.natAbs)) ++ after)

theorem IsSign.isBlank_eq_false (h : IsSign n sign) : ∀ c ∈ sign, Text.isBlank c = false := by
  cases h with
  | none => exact nofun
  | plus => exact List.forall_mem_singleton.2 rfl
  | minus => exact List.forall_mem_singleton.2 rfl

theorem dropSign_append (hsign : IsSign n sign) (hdigits : ∀ c ∈ digits, c.isDigit = true) :
    dropSign (sign ++ digits) = digits := by
  cases hsign with
  | none =>
    cases digits with
    | nil => rfl
    | cons c digits =>
      have hc := hdigits c List.mem_cons_self
      rw [List.nil_append, dropSign]
      · rintro rest ⟨⟩
        cases hc
      · rintro rest ⟨⟩
        cases hc
  | plus => rfl
  | minus => rfl

/-- A spelling of a whole number is read as digits, and their value is its magnitude. -/
theorem IsSpelling.parse? (h : IsSpelling n s) :
    ∃ digits, NumberText.parse? (Text.trim s) = some (finite digits 0) ∧
      (∀ c ∈ digits, c.isDigit = true) ∧ Nat.ofDigitChars 10 digits 0 = n.natAbs := by
  obtain @⟨before, sign, after, zeros, hbefore, hsign, hafter⟩ := h
  have hdigits : ∀ c ∈ List.replicate zeros '0' ++ Decimal.digitsOf n.natAbs,
      c.isDigit = true := by
    intro c hc
    rcases List.mem_append.1 hc with hc | hc
    · exact Decimal.isDigit_of_mem_zeros hc
    · exact Decimal.isDigit_of_mem_digitsOf hc
  have hvalue : Nat.ofDigitChars 10 (List.replicate zeros '0' ++ Decimal.digitsOf n.natAbs) 0 =
      n.natAbs := by
    rw [Nat.ofDigitChars_append, Nat.ofDigitChars_replicate_zero, Nat.mul_zero]
    exact Nat.ofDigitChars_ten_toDigits
  have hne : List.replicate zeros '0' ++ Decimal.digitsOf n.natAbs ≠ [] :=
    List.append_ne_nil_of_right_ne_nil _ (Decimal.digitsOf_ne_nil _)
  generalize List.replicate zeros '0' ++ Decimal.digitsOf n.natAbs = digits at *
  have hvisible : ∀ c ∈ sign ++ digits, Text.isBlank c = false := by
    intro c hc
    rcases List.mem_append.1 hc with hc | hc
    · exact hsign.isBlank_eq_false c hc
    · exact Text.isBlank_of_isDigit (hdigits c hc)
  refine ⟨digits, ?_, hdigits, hvalue⟩
  rw [Text.trim_append_of_blank hbefore hafter, Text.trim_eq_self hvisible, NumberText.parse?,
    dropSign_append hsign hdigits, readUnsigned?_digits hne hdigits]

end NumberText

/-! ## What numbers and texts say -/

namespace Significance

variable {n : Int} {s : List Char} {x : Double}

/-- A text that is a number says whether that is zero. -/
theorem ofText_of_parse? {number : NumberText} (h : NumberText.parse? (Text.trim s) = some number) :
    ofText s = ofBool !number.isZero := by
  unfold ofText
  cases htrim : Text.trim s with
  | nil =>
    rw [htrim] at h
    cases h
  | cons c rest =>
    rw [htrim] at h
    simp only [h]

/-- However a whole number is spelled, what the text says depends on the double nearest to it. -/
theorem ofText_of_spelling {negative : Bool} (h : NumberText.IsSpelling n s)
    (hnearest : Double.ofRatio? negative n.natAbs 1 = some x) : ofText s = ofBool !x.isZero := by
  obtain ⟨digits, hparse, hdigits, hvalue⟩ := h.parse?
  have hratio : Double.ofRatio? negative
      (Nat.ofDigitChars 10 digits 0 * Nat.pow 10 (0 : Int).toNat) (Nat.pow 10 (-0 : Int).toNat) =
        some x := by
    rw [hvalue]
    simpa using hnearest
  rw [ofText_of_parse? hparse, NumberText.isZero_of_nearest hdigits hratio]

theorem ofText_append_of_blank {before after : List Char}
    (hbefore : ∀ c ∈ before, Text.isBlank c = true) (hafter : ∀ c ∈ after, Text.isBlank c = true)
    (s : List Char) : ofText (before ++ s ++ after) = ofText s := by
  rw [ofText, ofText, Text.trim_append_of_blank hbefore hafter]

theorem ofJson_int (n : Int) :
    ofJson (.number (.int n)) = if n = 0 then .negative else .affirmative := by
  by_cases hn : n = 0 <;> simp [ofJson, Number.isZero, ofBool, hn]

end Significance

/-! ## Calls -/

namespace Admission

/-- A gate asks nothing of its argument but what it says. -/
theorem ofGate_congr {a b : Json} (gate : Option Gate) (rest : List Json) (hgate : gate ≠ none)
    (h : Significance.ofJson a = Significance.ofJson b) :
    ofGate gate (a :: rest) = ofGate gate (b :: rest) := by
  cases gate with
  | none => exact absurd rfl hgate
  | some gate => simp only [ofGate, List.head?_cons, List.tail_cons, Significance.ofArgument, h]

end Admission

/-- What a call comes to depends on its arguments through what its gate says to them. -/
theorem Level.dispatch_congr {κ : Type} [Computed κ] {below : Unit → Option (Level κ)}
    {q : Query κ} {method : String} {call : Call} {args args' : List Json}
    (hparse : Call.parse? method = some call)
    (h : Admission.ofGate call.gate args = Admission.ofGate call.gate args') :
    dispatch below q method args = dispatch below q method args' := by
  unfold dispatch
  simp only [hparse, h]

/-- A whole number of 64 bits says the same as any of its spellings, which is whether the double
nearest to it is zero; so a call with a gate takes the number and its text for the same. Blanks
around a text do not change what it says. -/
theorem Query.call_of_spelling {κ : Type} [Computed κ] (q : Query κ) :
    (∀ (n : Int) (text : String), -(Nat.pow 2 63 : Int) ≤ n → n < Nat.pow 2 64 →
      NumberText.IsSpelling n text.toList →
      Significance.ofJson (.text text) = Significance.ofJson (.number (.int n)) ∧
        Significance.ofJson (.number (.int n)) = (if n = 0 then .negative else .affirmative) ∧
        (∃ x, Double.ofRatio? (decide (n < 0)) n.natAbs 1 = some x ∧
          Significance.ofJson (.number (.int n)) = .ofBool !x.isZero) ∧
        ∀ (method : String) (call : Call) (rest : List Json), Call.parse? method = some call →
          call.gate ≠ none →
          Admission.ofGate call.gate (.text text :: rest) =
              Admission.ofGate call.gate (.number (.int n) :: rest) ∧
            q.call method (.text text :: rest) = q.call method (.number (.int n) :: rest)) ∧
    ∀ before text after : String, (∀ c ∈ before.toList, Text.isBlank c = true) →
      (∀ c ∈ after.toList, Text.isBlank c = true) →
      Significance.ofJson (.text (before ++ text ++ after)) =
        Significance.ofJson (.text text) := by
  constructor
  · intro n text hlow hhigh hspelling
    obtain ⟨x, hnearest, hzero⟩ := Double.exists_ofRatio?_int hlow hhigh
    have hnumber : Significance.ofJson (.number (.int n)) = .ofBool !x.isZero := by
      rw [hzero]
      rfl
    have hsame : Significance.ofJson (.text text) = Significance.ofJson (.number (.int n)) :=
      (Significance.ofText_of_spelling hspelling hnearest).trans hnumber.symm
    refine ⟨hsame, Significance.ofJson_int n, ⟨x, hnearest, hnumber⟩, ?_⟩
    intro method call rest hparse hgate
    have hadmission := Admission.ofGate_congr call.gate rest hgate hsame
    refine ⟨hadmission, ?_⟩
    rw [q.call_eq_dispatch, q.call_eq_dispatch, Level.dispatch_congr hparse hadmission]
  · intro before text after hbefore hafter
    rw [Significance.ofJson, Significance.ofJson, String.toList_append, String.toList_append,
      Significance.ofText_append_of_blank hbefore hafter]

namespace Samples

/-- Zero with a sign, and the largest number of 64 bits with zeros in front. -/
theorem call_orders_of_spelling :
    Significance.ofJson (.text "\u3000-000\t") = .negative ∧
      Significance.ofJson (.text " +0018446744073709551615") = .affirmative ∧
      (orders 2).call "orNotWithProductsCheaperThanBasedOnCondition"
          [.text "\u3000-000\t", int 5] =
        (orders 2).call "orNotWithProductsCheaperThanBasedOnCondition" [int 0, int 5] ∧
      Significance.ofJson (.text ("\u3000" ++ "no" ++ "\t")) =
        Significance.ofJson (.text "no") := by
  obtain ⟨hspelling, hblank⟩ := Query.call_of_spelling (orders 2)
  have hparse : Call.parse? "orNotWithProductsCheaperThanBasedOnCondition" =
      some ⟨.or, true, "withProductsCheaperThan", some .basedOn, true⟩ := by decide
  have hzero : NumberText.IsSpelling 0 "\u3000-000\t".toList :=
    @NumberText.IsSpelling.mk 0 ['\u3000'] ['-'] ['\t'] 2 (List.forall_mem_singleton.2 rfl)
      (.minus (by decide)) (List.forall_mem_singleton.2 rfl)
  have hlarge : NumberText.IsSpelling 18446744073709551615 " +0018446744073709551615".toList :=
    @NumberText.IsSpelling.mk 18446744073709551615 [' '] ['+'] [] 2
      (List.forall_mem_singleton.2 rfl) (.plus (by decide)) nofun
  obtain ⟨hsame, hnegative, -, hcall⟩ := hspelling 0 _ (by decide) (by decide) hzero
  obtain ⟨hsame', haffirmative, -, -⟩ := hspelling _ _ (by decide) (by decide) hlarge
  exact ⟨hsame.trans hnegative, hsame'.trans haffirmative, (hcall _ _ _ hparse nofun).2,
    hblank _ _ _ (List.forall_mem_singleton.2 rfl) (List.forall_mem_singleton.2 rfl)⟩

end Samples

end Criteria
