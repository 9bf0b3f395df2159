import Criteria.Text.Letter

/-!
# Words of a name

A name in camel case is cut into words: a new word begins at every upper-case letter, and what
stands before the first one is a word of its own. Each word knows which bytes of the name it takes.
-/

namespace Criteria

/-- A word and the bytes of the name from `start` up to `stop` that it takes. -/
structure Word where
  text : String
  start : Nat
  stop : Nat
  deriving DecidableEq

namespace Word

/-- The pieces of a text, of which each but the first begins with an upper-case letter and has no
other. -/
def pieces : List Char → List (List Char)
  | [] => []
  | c :: rest =>
    match pieces rest with
    | [] => [[c]]
    | piece :: others =>
      if piece.head?.any Text.isUpper then [c] :: piece :: others else (c :: piece) :: others

/-- The number of bytes of a text. -/
def byteSize (s : List Char) : Nat := s.foldr (fun c size => c.utf8Size + size) 0

/-- Puts pieces one behind the other, the first one at `start`. -/
def place (start : Nat) : List (List Char) → List Word
  | [] => []
  | piece :: others =>
    let stop := start + byteSize piece
    ⟨String.ofList piece, start, stop⟩ :: place stop others

/-- The words of a text. -/
def splitChars (s : List Char) : List Word := place 0 (pieces s)

def split (name : String) : List Word := splitChars name.toList

/-- The characters of words written one behind the other. -/
def joinChars (words : List Word) : List Char := words.flatMap fun w => w.text.toList

def join (words : List Word) : String := String.ofList (joinChars words)

/-- The name that words make: written one behind the other, the first character in lower case. -/
def name (words : List Word) : String := String.ofList (Text.lowerFirst (joinChars words))

@[simp] theorem pieces_nil : pieces [] = [] := rfl

/-- Nothing is lost. -/
@[simp] theorem flatten_pieces (s : List Char) : (pieces s).flatten = s := by
  induction s with
  | nil => rfl
  | cons c rest ih =>
    simp only [pieces]
    split
    · next h => rw [h] at ih; simpa using ih
    · next piece others h =>
      rw [h] at ih
      split <;> simpa using ih

@[simp] theorem joinChars_place (start : Nat) (ps : List (List Char)) :
    joinChars (place start ps) = ps.flatten := by
  induction ps generalizing start with
  | nil => rfl
  | cons p ps ih => simpa [joinChars, place] using ih _

/-- The words of a text make up the text. -/
theorem joinChars_splitChars (s : List Char) : joinChars (splitChars s) = s := by
  simp [splitChars]

/-- The words of a name make up the name. -/
theorem join_split (s : String) : join (split s) = s := by
  simp [join, split, joinChars_splitChars]

end Word

end Criteria
