import Criteria.Json.Token

/-!
# Documents

The structure of a JSON text as far as the text is JSON. Where it stops, the containers that are
still open are kept with what they hold so far, marked as not whole. So a reader of documents meets
the faults of a text in the order in which they stand there.
-/

namespace Criteria.Json

/-- The key of a field, or the token that stands where it should be: a string without a text, or
something else. -/
abbrev Key := Except Token String

/-- A document. Keys may repeat. A string without a text holds an unpaired surrogate, and `broken`
stands where a value should be and none is. -/
inductive Doc
  | null
  | bool (value : Bool)
  | number (value : Numeral)
  | text (value : Option String)
  | array (items : List Doc) (whole : Bool)
  | object (fields : List (Key × Doc)) (whole : Bool)
  | broken

instance : Inhabited Doc := ⟨.null⟩

/-- A container that is not closed yet, its members last one first. An object may have a key that
waits for its value. -/
inductive Frame
  | array (items : List Doc)
  | object (fields : List (Key × Doc)) (key : Option Key)

/-- What may come next. -/
inductive Next
  | item
  | itemOrEnd
  | key
  | keyOrEnd
  | colon
  | separator
  | nothing
  deriving DecidableEq

/-- How far a text was read: the open containers, innermost first, what may come next, and the
finished documents, last one first. -/
structure Progress where
  frames : List Frame
  next : Next
  finished : List Doc

namespace Progress

/-- Nothing was read yet. -/
def start : Progress := ⟨[], .item, []⟩

/-- A value ends here. -/
def put (p : Progress) (d : Doc) : Progress :=
  match p.frames with
  | [] => ⟨[], .item, d :: p.finished⟩
  | .array items :: frames => ⟨.array (d :: items) :: frames, .separator, p.finished⟩
  | .object fields key :: frames =>
    ⟨.object ((key.getD (.error .bad), d) :: fields) none :: frames, .separator, p.finished⟩

/-- The text is not JSON from here on. -/
def stop (p : Progress) : Progress := { p with next := .nothing }

/-- A key, or the token in its place, and what may come after it. -/
def putKey (p : Progress) (key : Key) (next : Next) : Progress :=
  match p.frames with
  | .object fields _ :: frames => ⟨.object fields (some key) :: frames, next, p.finished⟩
  | _ => p.stop

/-- One more token. -/
def step (p : Progress) (token : Token) : Progress :=
  match p.next, token with
  | .item, .null | .itemOrEnd, .null => p.put .null
  | .item, .bool b | .itemOrEnd, .bool b => p.put (.bool b)
  | .item, .number n | .itemOrEnd, .number n => p.put (.number n)
  | .item, .text s | .itemOrEnd, .text s => p.put (.text s)
  | .item, .openArray | .itemOrEnd, .openArray =>
    { p with frames := .array [] :: p.frames, next := .itemOrEnd }
  | .item, .openObject | .itemOrEnd, .openObject =>
    { p with frames := .object [] none :: p.frames, next := .keyOrEnd }
  | .key, .text (some s) | .keyOrEnd, .text (some s) => p.putKey (.ok s) .colon
  | .key, .text none | .keyOrEnd, .text none => p.putKey (.error (.text none)) .colon
  | .colon, .colon => { p with next := .item }
  | .separator, .comma =>
    match p.frames with
    | .array _ :: _ => { p with next := .item }
    | .object _ _ :: _ => { p with next := .key }
    | [] => p.stop
  | .itemOrEnd, .closeArray | .separator, .closeArray =>
    match p.frames with
    | .array items :: frames => put { p with frames := frames } (.array items.reverse true)
    | _ => p.stop
  | .keyOrEnd, .closeObject | .separator, .closeObject =>
    match p.frames with
    | .object fields _ :: frames => put { p with frames := frames } (.object fields.reverse true)
    | _ => p.stop
  | .key, token | .keyOrEnd, token => p.putKey (.error token) .nothing
  | _, _ => p.stop

/-- The document that the open containers make, given what stands in the innermost one. -/
def closeOff : List Frame → Option Doc → Option Doc
  | [], inner => inner
  | .array items :: frames, inner =>
    closeOff frames (some (.array (items.reverse ++ inner.toList) false))
  | .object fields key :: frames, inner =>
    let last := key.toList.map fun k => (k, inner.getD .broken)
    closeOff frames (some (.object (fields.reverse ++ last) false))

/-- The documents read, and whether the text may end here. -/
def finish (p : Progress) : List Doc × Bool :=
  (p.finished.reverse ++ (closeOff p.frames none).toList, p.frames.isEmpty && p.next == .item)

end Progress

/-- The documents that stand one after another in a text, and whether the text holds nothing else.
-/
def Doc.readAll (s : List Char) : List Doc × Bool :=
  ((tokens s).foldl Progress.step .start).finish

mutual

/-- No part of the document is broken. -/
def Doc.isWhole : Doc → Bool
  | .array items whole => whole && allWhole items
  | .object fields whole => whole && allFieldsWhole fields
  | .broken => false
  | _ => true

/-- No item is broken. -/
def allWhole : List Doc → Bool
  | [] => true
  | d :: rest => d.isWhole && allWhole rest

/-- No field is broken. -/
def allFieldsWhole : List (Key × Doc) → Bool
  | [] => true
  | (_, d) :: rest => d.isWhole && allFieldsWhole rest

end

end Criteria.Json
