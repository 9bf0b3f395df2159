import Criteria.Json.Numeral

/-!
# Tokens of JSON

A text is cut into tokens by reading it character by character. Where it stops being JSON the last
token is `bad`, and the rest of the text is not looked at. A string is read as a row of 16-bit units
and other code points; it is a text only if its surrogates come in pairs.
-/

namespace Criteria.Json

/-- A token. A string without a text holds an unpaired surrogate. -/
inductive Token
  | openArray
  | closeArray
  | openObject
  | closeObject
  | comma
  | colon
  | null
  | bool (value : Bool)
  | number (value : Numeral)
  | text (value : Option String)
  | bad
  deriving DecidableEq

/-- Where the reading of a numeral is. -/
inductive NumeralStage
  | sign
  | zero
  | whole
  | point
  | fraction
  | mark
  | exponentSign
  | exponent
  deriving DecidableEq

/-- Where the reading of an escape is. -/
inductive EscapeStage
  | none
  | backslash
  | hex (left value : Nat)
  deriving DecidableEq

/-- What the next character belongs to. -/
inductive Mode
  /-- Nothing has begun. -/
  | between
  /-- A word of which these letters are left. -/
  | word (left : List Char) (token : Token)
  /-- A numeral. -/
  | numeral (stage : NumeralStage) (read : Numeral)
  /-- A string whose units were read, the last one first. -/
  | text (units : List Nat) (escape : EscapeStage)
  /-- The text is not JSON. -/
  | failed
  deriving DecidableEq

/-- A blank between tokens. -/
def isSpace (c : Char) : Bool := c == ' ' || c == '\n' || c == '\t' || c == '\r'

/-- A character that may follow a word or a numeral at once. -/
def isDelimiter (c : Char) : Bool :=
  isSpace c || ['"', '[', ']', '\x7b', '\x7d', ',', ':'].contains c

/-- The value of a hexadecimal digit. -/
def hexValue? (c : Char) : Option Nat :=
  if '0' ≤ c && c ≤ '9' then some (c.toNat - 0x30)
  else if 'a' ≤ c && c ≤ 'f' then some (c.toNat - 0x61 + 10)
  else if 'A' ≤ c && c ≤ 'F' then some (c.toNat - 0x41 + 10)
  else none

/-- The unit that the letter after a backslash stands for. -/
def escapedUnit? (c : Char) : Option Nat :=
  match c with
  | '"' => some 0x22
  | '\\' => some 0x5C
  | '/' => some 0x2F
  | 'b' => some 0x08
  | 'f' => some 0x0C
  | 'n' => some 0x0A
  | 'r' => some 0x0D
  | 't' => some 0x09
  | _ => none

/-- The unit is the first half of a pair. -/
def isLeading (unit : Nat) : Bool := 0xD800 ≤ unit && unit < 0xDC00

/-- The unit is the second half of a pair. -/
def isTrailing (unit : Nat) : Bool := 0xDC00 ≤ unit && unit < 0xE000

/-- The characters of a row of units; `none` if a surrogate stands alone. -/
def joinUnits : List Nat → Option (List Char)
  | [] => some []
  | unit :: rest =>
    if isLeading unit then
      match rest with
      | next :: others =>
        if isTrailing next then
          (joinUnits others).map
            (Char.ofNat (0x10000 + (unit - 0xD800) * 0x400 + (next - 0xDC00)) :: ·)
        else none
      | [] => none
    else if isTrailing unit then none
    else (joinUnits rest).map (Char.ofNat unit :: ·)

/-- A numeral may end at this stage. -/
def NumeralStage.mayEnd : NumeralStage → Bool
  | .zero | .whole | .fraction | .exponent => true
  | .sign | .point | .mark | .exponentSign => false

/-- A numeral may end at this stage before the character: no digit follows a zero in front. -/
def NumeralStage.mayEndBefore (stage : NumeralStage) (c : Char) : Bool :=
  stage.mayEnd && !(stage == .zero && c.isDigit)

/-- The numeral with one more character; `none` if it cannot go on with it. -/
def extend (stage : NumeralStage) (n : Numeral) (c : Char) : Option (NumeralStage × Numeral) :=
  let wholeDigit : NumeralStage × Numeral := (.whole, { n with whole := n.whole ++ [c] })
  let fractionDigit : NumeralStage × Numeral :=
    (.fraction, { n with fraction := n.fraction ++ [c] })
  let exponentDigit : NumeralStage × Numeral :=
    let (minus, digits) := n.exponent.getD (false, [])
    (.exponent, { n with exponent := some (minus, digits ++ [c]) })
  let tail : Option (NumeralStage × Numeral) :=
    if c = 'e' ∨ c = 'E' then some (.mark, { n with exponent := some (false, []) }) else none
  match stage with
  | .sign =>
    if c = '0' then some (.zero, { n with whole := ['0'] })
    else if c.isDigit then some wholeDigit
    else none
  | .zero => if c = '.' then some (.point, n) else tail
  | .whole => if c.isDigit then some wholeDigit else if c = '.' then some (.point, n) else tail
  | .point => if c.isDigit then some fractionDigit else none
  | .fraction => if c.isDigit then some fractionDigit else tail
  | .mark =>
    if c = '+' then some (.exponentSign, n)
    else if c = '-' then some (.exponentSign, { n with exponent := some (true, []) })
    else if c.isDigit then some exponentDigit
    else none
  | .exponentSign | .exponent => if c.isDigit then some exponentDigit else none

/-- What a character begins where nothing has begun. -/
def start (c : Char) : List Token × Mode :=
  if isSpace c then ([], .between)
  else
    match c with
    | '[' => ([.openArray], .between)
    | ']' => ([.closeArray], .between)
    | '\x7b' => ([.openObject], .between)
    | '\x7d' => ([.closeObject], .between)
    | ',' => ([.comma], .between)
    | ':' => ([.colon], .between)
    | '"' => ([], .text [] .none)
    | 'n' => ([], .word "ull".toList .null)
    | 't' => ([], .word "rue".toList (.bool true))
    | 'f' => ([], .word "alse".toList (.bool false))
    | '-' => ([], .numeral .sign ⟨true, [], [], none⟩)
    | c =>
      match extend .sign ⟨false, [], [], none⟩ c with
      | some (stage, n) => ([], .numeral stage n)
      | none => ([.bad], .failed)

/-- A finished word or numeral, and what the character after it begins. -/
def finishBefore (token : Token) (c : Char) : List Token × Mode :=
  if isDelimiter c then
    let (tokens, mode) := start c
    (token :: tokens, mode)
  else ([token, .bad], .failed)

/-- The tokens that a character completes, and what the next character belongs to. -/
def step : Mode → Char → List Token × Mode
  | .between, c => start c
  | .word [] token, c => finishBefore token c
  | .word (letter :: left) token, c =>
    if c = letter then ([], .word left token) else ([.bad], .failed)
  | .numeral stage n, c =>
    match extend stage n c with
    | some (stage, n) => ([], .numeral stage n)
    | none =>
      if stage.mayEndBefore c then finishBefore (.number n) c else ([.bad], .failed)
  | .text units .none, c =>
    if c = '"' then ([.text ((joinUnits units.reverse).map String.ofList)], .between)
    else if c = '\\' then ([], .text units .backslash)
    else if c.toNat < 0x20 then ([.bad], .failed)
    else ([], .text (c.toNat :: units) .none)
  | .text units .backslash, c =>
    if c = 'u' then ([], .text units (.hex 4 0))
    else
      match escapedUnit? c with
      | some unit => ([], .text (unit :: units) .none)
      | none => ([.bad], .failed)
  | .text units (.hex left value), c =>
    match hexValue? c with
    | some digit =>
      if left ≤ 1 then ([], .text ((value * 16 + digit) :: units) .none)
      else ([], .text units (.hex (left - 1) (value * 16 + digit)))
    | none => ([.bad], .failed)
  | .failed, _ => ([], .failed)

/-- The tokens that the end of the text completes. -/
def finish : Mode → List Token
  | .between | .failed => []
  | .word [] token => [token]
  | .numeral stage n => if stage.mayEnd then [.number n] else [.bad]
  | .word _ _ | .text _ _ => [.bad]

/-- The tokens of a text read from a mode. -/
def tokensFrom : Mode → List Char → List Token
  | mode, [] => finish mode
  | mode, c :: rest =>
    let (tokens, next) := step mode c
    tokens ++ tokensFrom next rest

/-- The tokens of a text. -/
def tokens (s : List Char) : List Token := tokensFrom .between s

end Criteria.Json
