import Criteria.Proofs.Condition.Hiding
import Criteria.Schema.Template

/-!
# Safe templates

Templates in which arguments can stand under keys of objects alone. Main statements: texts that are
put into a safe template are data (`Template.hide_fill`), and they are not among the names that are
looked up (`Template.looseNames_fill`).
-/

namespace Criteria

namespace Template

/-- No place of the template is looked up: each of them stands under a key of an object. -/
def IsSafe (template : Json) : Prop :=
  ∀ token ∈ (Draft.ofJson template).looseNames, place? token.toList = none

/-- Arguments that are texts. -/
def texts (ss : List String) : List Json := ss.map .text

variable {ss ss' : List String}

/-- Texts in the same place of as many texts differ in their contents alone. -/
theorem blank_getD_texts (hlen : ss.length = ss'.length) (n : Nat) :
    (Draft.ofJson ((texts ss).getD n .null)).blank =
      (Draft.ofJson ((texts ss').getD n .null)).blank := by
  unfold texts
  rw [List.getD_eq_getElem?_getD, List.getD_eq_getElem?_getD, List.getElem?_map, List.getElem?_map]
  by_cases h : n < ss.length
  · rw [List.getElem?_eq_getElem h, List.getElem?_eq_getElem (hlen ▸ h)]
    simp only [Option.map_some, Option.getD_some, Draft.ofJson, Draft.blank]
  · rw [List.getElem?_eq_none (by omega), List.getElem?_eq_none (by omega)]

mutual

theorem blank_fill (hlen : ss.length = ss'.length) : ∀ template : Json,
    (Draft.ofJson (fill (texts ss) template)).blank =
      (Draft.ofJson (fill (texts ss') template)).blank
  | .null | .bool _ | .number _ => by simp only [fill]
  | .text s => by
    simp only [fill]
    cases place? s.toList with
    | none => rfl
    | some n => exact blank_getD_texts hlen n
  | .array items => by
    simp only [fill, Draft.ofJson, Draft.blank, blank_fillItems hlen items]
  | .object fields => by
    simp only [fill, Draft.ofJson, Draft.blank, blank_fillFields hlen fields]

theorem blank_fillItems (hlen : ss.length = ss'.length) : ∀ items : List Json,
    Draft.blankItems (Draft.ofItems (fillItems (texts ss) items)) =
      Draft.blankItems (Draft.ofItems (fillItems (texts ss') items))
  | [] => rfl
  | x :: rest => by
    simp only [fillItems, Draft.ofItems, Draft.blankItems, blank_fill hlen x,
      blank_fillItems hlen rest]

theorem blank_fillFields (hlen : ss.length = ss'.length) : ∀ fields : List (String × Json),
    Draft.blankEntries (Draft.ofFields (fillFields (texts ss) fields)) =
      Draft.blankEntries (Draft.ofFields (fillFields (texts ss') fields))
  | [] => rfl
  | (_, value) :: rest => by
    simp only [fillFields, Draft.ofFields, Draft.blankEntries, blank_fill hlen value,
      blank_fillFields hlen rest]

end

mutual

/-- Texts put into a safe template are data. -/
theorem hide_fill (hlen : ss.length = ss'.length) : ∀ template : Json, IsSafe template →
    (Draft.ofJson (fill (texts ss) template)).hide =
      (Draft.ofJson (fill (texts ss') template)).hide
  | .null, _ | .bool _, _ | .number _, _ => by simp only [fill]
  | .text s, h => by
    have hplace : place? s.toList = none := h s (List.mem_singleton.2 rfl)
    simp only [fill, hplace]
  | .array items, h => by
    simp only [fill, Draft.ofJson, Draft.hide, hide_fillItems hlen items h]
  | .object fields, _ => by
    simp only [fill, Draft.ofJson, Draft.hide, blank_fillFields hlen fields]

theorem hide_fillItems (hlen : ss.length = ss'.length) : ∀ items : List Json,
    (∀ token ∈ Draft.looseNamesOfItems (Draft.ofItems items), place? token.toList = none) →
      Draft.hideItems (Draft.ofItems (fillItems (texts ss) items)) =
        Draft.hideItems (Draft.ofItems (fillItems (texts ss') items))
  | [], _ => rfl
  | x :: rest, h => by
    have hx := hide_fill hlen x fun token ht => h token (List.mem_append_left _ ht)
    have hrest := hide_fillItems hlen rest fun token ht => h token (List.mem_append_right _ ht)
    simp only [fillItems, Draft.ofItems, Draft.hideItems, hx, hrest]

end

mutual

/-- The arguments of a safe template leave the names that are looked up as they are. -/
theorem looseNames_fill (args : List Json) : ∀ template : Json, IsSafe template →
    (Draft.ofJson (fill args template)).looseNames = (Draft.ofJson template).looseNames
  | .null, _ | .bool _, _ | .number _, _ => by simp only [fill]
  | .text s, h => by
    have hplace : place? s.toList = none := h s (List.mem_singleton.2 rfl)
    simp only [fill, hplace]
  | .array items, h => by
    simp only [fill, Draft.ofJson, Draft.looseNames, looseNames_fillItems args items h]
  | .object _, _ => by simp only [fill, Draft.ofJson, Draft.looseNames]

theorem looseNames_fillItems (args : List Json) : ∀ items : List Json,
    (∀ token ∈ Draft.looseNamesOfItems (Draft.ofItems items), place? token.toList = none) →
      Draft.looseNamesOfItems (Draft.ofItems (fillItems args items)) =
        Draft.looseNamesOfItems (Draft.ofItems items)
  | [], _ => rfl
  | x :: rest, h => by
    have hx := looseNames_fill args x fun token ht => h token (List.mem_append_left _ ht)
    have hrest := looseNames_fillItems args rest
      fun token ht => h token (List.mem_append_right _ ht)
    simp only [fillItems, Draft.ofItems, Draft.looseNamesOfItems, hx, hrest]

end

end Template

end Criteria
