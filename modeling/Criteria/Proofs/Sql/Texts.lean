import Criteria.Proofs.Sql.Hiding

/-!
# Bound texts and frames

An expression by its parts: the texts that are bound in it, in order, its fragments of SQL, and its
frame, which is all of it but the contents of those texts. The queries inside an expression belong
to its frame: nothing is bound in them anew. Main statement: an expression is its frame and its
texts (`Expr.fill_frame`, `Expr.eq_of_frame_of_texts`).
-/

namespace Criteria.Sql

namespace Value

/-- The text that is bound, if the value is one. -/
def texts : Value → List String
  | text s => [s]
  | _ => []

/-- Puts the first of the texts into a text, and leaves the others. -/
def fill : Value → List String → Value × List String
  | text _, s :: rest => (text s, rest)
  | other, rest => (other, rest)

/-- Puts the first texts into the texts among the values, and leaves the others. -/
def fillAll : List Value → List String → List Value × List String
  | [], rest => ([], rest)
  | v :: vs, texts =>
    let first := v.fill texts
    let others := fillAll vs first.2
    (first.1 :: others.1, others.2)

theorem fill_hide (v : Value) (rest : List String) :
    v.hide.fill (v.texts ++ rest) = (v, rest) := by
  cases v <;> rfl

theorem fillAll_hide (vs : List Value) (rest : List String) :
    fillAll (vs.map hide) (vs.flatMap texts ++ rest) = (vs, rest) := by
  induction vs with
  | nil => rfl
  | cons v vs ih =>
    simp only [List.map_cons, List.flatMap_cons, List.append_assoc, fillAll, fill_hide, ih]

end Value

namespace Expr

/-- The texts that are bound in the expression, in order; those in its queries are not. -/
def texts : Expr → List String
  | compare _ _ v => v.texts
  | among _ _ values => values.flatMap Value.texts
  | between _ _ low high => low.texts ++ high.texts
  | like _ _ pattern => [pattern]
  | not e => e.texts
  | and a b | or a b => a.texts ++ b.texts
  | constant _ | fragment _ | isNull _ | within .. | anyRow _ => []

/-- The fragments of SQL in the expression, in order; those in its queries are not. -/
def fragments : Expr → List String
  | fragment s => [s]
  | not e => e.fragments
  | and a b | or a b => a.fragments ++ b.fragments
  | _ => []

/-- The expression without the contents of its texts. -/
def frame : Expr → Expr
  | compare comparison c v => compare comparison c v.hide
  | among negated c values => among negated c (values.map Value.hide)
  | between negated c low high => between negated c low.hide high.hide
  | like negated c _ => like negated c ""
  | not e => not e.frame
  | and a b => and a.frame b.frame
  | or a b => or a.frame b.frame
  | other => other

/-- Puts the first of the texts into the places of the expression's own, and leaves the others. -/
def fill : Expr → List String → Expr × List String
  | compare comparison c v, texts =>
    let v := v.fill texts
    (compare comparison c v.1, v.2)
  | among negated c values, texts =>
    let values := Value.fillAll values texts
    (among negated c values.1, values.2)
  | between negated c low high, texts =>
    let low := low.fill texts
    let high := high.fill low.2
    (between negated c low.1 high.1, high.2)
  | like negated c _, pattern :: rest => (like negated c pattern, rest)
  | not e, texts =>
    let e := e.fill texts
    (not e.1, e.2)
  | and a b, texts =>
    let a := a.fill texts
    let b := b.fill a.2
    (and a.1 b.1, b.2)
  | or a b, texts =>
    let a := a.fill texts
    let b := b.fill a.2
    (or a.1 b.1, b.2)
  | other, rest => (other, rest)

/-- The frame with the texts in it is the expression. -/
theorem fill_frame : ∀ (e : Expr) (rest : List String),
    e.frame.fill (e.texts ++ rest) = (e, rest)
  | constant _, _ | fragment _, _ | isNull _, _ | within .., _ | anyRow _, _ | like .., _ => rfl
  | compare .., _ => by simp only [frame, texts, fill, Value.fill_hide]
  | among .., _ => by simp only [frame, texts, fill, Value.fillAll_hide]
  | between .., _ => by simp only [frame, texts, fill, Value.fill_hide, List.append_assoc]
  | not e, rest => by simp only [frame, texts, fill, fill_frame e]
  | and a b, rest | or a b, rest => by
    simp only [frame, texts, fill, List.append_assoc, fill_frame a, fill_frame b]

theorem eq_of_frame_of_texts {e e' : Expr} (hframe : e.frame = e'.frame)
    (htexts : e.texts = e'.texts) : e = e' := by
  have h := fill_frame e []
  rw [hframe, htexts, fill_frame e' []] at h
  exact (Prod.mk.inj h).1.symm

theorem eq_of_map_frame_of_texts {x x' : Option Expr} (hframe : x.map frame = x'.map frame)
    (htexts : x.toList.flatMap texts = x'.toList.flatMap texts) : x = x' := by
  cases x with
  | none => exact (Option.map_eq_none_iff.1 hframe.symm).symm
  | some e =>
    obtain ⟨e', rfl, he'⟩ := Option.map_eq_some_iff.1 hframe.symm
    rw [Option.toList_some, Option.toList_some, List.flatMap_singleton,
      List.flatMap_singleton] at htexts
    rw [eq_of_frame_of_texts he'.symm htexts]

end Expr

end Criteria.Sql
