import Criteria.Proofs.Level
import Mathlib.Tactic.TFAE

/-!
# Normal forms of expansion

A condition is normal for a query if none of its operands refers to anything, where an operand under
a key of a map does not count: it is data. Main statement: the normal conditions are what expansions
give, and they are the conditions that expansion leaves as they are, on one level or on all
(`Condition.tfae_isNormal`).
-/

namespace Criteria

/-! ## Names and operands outside maps -/

namespace Draft

mutual

/-- The names in a draft that are looked up: those that stand under no key of a map. -/
def looseNames : Draft → List String
  | name token => [token]
  | list items => looseNamesOfItems items
  | literal _ | map _ | query _ => []

/-- The names in the items that are looked up. -/
def looseNamesOfItems : List Draft → List String
  | [] => []
  | d :: rest => looseNames d ++ looseNamesOfItems rest

end

end Draft

namespace Condition

mutual

/-- The operands in a condition that stand under no key of a map. -/
def looseOperands : Condition → List String
  | operand text => [text]
  | list items => looseOperandsOfItems items
  | value _ | map _ | query _ => []

/-- The operands in the items that stand under no key of a map. -/
def looseOperandsOfItems : List Condition → List String
  | [] => []
  | c :: rest => looseOperands c ++ looseOperandsOfItems rest

end

mutual

@[simp] theorem looseNames_toDraft : ∀ c : Condition, c.toDraft.looseNames = c.looseOperands
  | operand _ | value _ | map _ | query _ => rfl
  | list items => looseNamesOfItems_toDrafts items

theorem looseNamesOfItems_toDrafts :
    ∀ items : List Condition, Draft.looseNamesOfItems (toDrafts items) = looseOperandsOfItems items
  | [] => rfl
  | c :: rest => by
    simp only [toDrafts, Draft.looseNamesOfItems, looseOperandsOfItems]
    rw [looseNames_toDraft c, looseNamesOfItems_toDrafts rest]

end

/-- No operand of the condition refers to anything, unless it is data. -/
def IsNormal {κ : Type} (q : Query κ) (c : Condition) : Prop :=
  ∀ token ∈ c.looseOperands, q.refers token = false

end Condition

/-! ## What a resolved draft consists of -/

namespace Draft

variable {find : String → Traced (Option Condition)}

mutual

/-- What holds of all operands of whatever a name is found to be, or of the name itself if it is not
found, holds of all operands of the resolved draft. -/
theorem forall_looseOperands_resolve {P : String → Prop}
    (hfind : ∀ token found, (find token).outcome = .ok found →
      ∀ t ∈ (found.getD (.operand token)).looseOperands, P t) :
    ∀ (d : Draft) (c : Condition), (d.resolve find).outcome = .ok c → ∀ t ∈ c.looseOperands, P t
  | name token, c, h => by
    rw [resolve] at h
    obtain ⟨found, hfound, h⟩ := Traced.bind_ok_iff.1 h
    cases found with
    | some _ | none =>
      cases h
      exact hfind token _ hfound
  | literal _, c, h | map _, c, h | query _, c, h => by
    cases h
    intro t ht
    cases ht
  | list items, c, h => by
    rw [resolve] at h
    obtain ⟨cs, hcs, h⟩ := Traced.bind_ok_iff.1 h
    cases h
    exact forall_looseOperands_resolveItems hfind items cs hcs

theorem forall_looseOperands_resolveItems {P : String → Prop}
    (hfind : ∀ token found, (find token).outcome = .ok found →
      ∀ t ∈ (found.getD (.operand token)).looseOperands, P t) :
    ∀ (items : List Draft) (cs : List Condition), (resolveItems find items).outcome = .ok cs →
      ∀ t ∈ Condition.looseOperandsOfItems cs, P t
  | [], cs, h => by
    cases h
    intro t ht
    cases ht
  | d :: rest, cs, h => by
    rw [resolveItems] at h
    obtain ⟨c, hc, h⟩ := Traced.bind_ok_iff.1 h
    obtain ⟨cs', hcs, h⟩ := Traced.bind_ok_iff.1 h
    cases h
    intro t ht
    rcases List.mem_append.1 ht with ht | ht
    · exact forall_looseOperands_resolve hfind d c hc t ht
    · exact forall_looseOperands_resolveItems hfind rest cs' hcs t ht

end

mutual

/-- A condition of whose operands none is found resolves to itself, and nothing is reported. -/
theorem resolve_toDraft : ∀ c : Condition, (∀ t ∈ c.looseOperands, find t = pure none) →
    c.toDraft.resolve find = pure c
  | .operand text, h => by
    rw [Condition.toDraft, resolve, h text (List.mem_singleton.2 rfl)]
    rfl
  | .value _, _ | .query _, _ => rfl
  | .map entries, _ => by
    rw [Condition.toDraft, resolve, Condition.dataEntries_toDraftEntries]
  | .list items, h => by
    rw [Condition.toDraft, resolve, resolveItems_toDrafts items h]
    rfl

theorem resolveItems_toDrafts : ∀ items : List Condition,
    (∀ t ∈ Condition.looseOperandsOfItems items, find t = pure none) →
      resolveItems find (Condition.toDrafts items) = pure items
  | [], _ => rfl
  | c :: rest, h => by
    rw [Condition.toDrafts, resolveItems,
      resolve_toDraft c fun t ht => h t (List.mem_append_left _ ht),
      resolveItems_toDrafts rest fun t ht => h t (List.mem_append_right _ ht)]
    rfl

end

end Draft

/-! ## Normal forms -/

namespace Level

variable {κ : Type} [Computed κ]

/-- Whatever the level expands, the result is normal. -/
def Normalizes (level : Level κ) : Prop :=
  ∀ (q : Query κ) (d : Draft) (c : Condition),
    (level.expand q d).outcome = .ok c → c.IsNormal q

theorem normalizes_above {below : Unit → Option (Level κ)} {depth : Nat}
    (hbelow : ∀ level, below () = some level → level.Normalizes) :
    (above below depth).Normalizes := by
  intro q d c h
  refine Draft.forall_looseOperands_resolve (fun token found hfound => ?_) d c h
  cases found with
  | some c' =>
    obtain ⟨level, draft, hlevel, hexpand⟩ := find_ok_some hfound
    exact hbelow level hlevel q draft c' hexpand
  | none =>
    intro t ht
    rw [List.mem_singleton.1 ht]
    exact refers_of_find_ok_none hfound

theorem normalizes_ofRoom (limit room : Nat) : (ofRoom limit room : Level κ).Normalizes :=
  induction (fun _ _ => normalizes_above) limit room

/-- A normal condition is left as it is by every level. -/
theorem expand_toDraft {q : Query κ} {c : Condition} (h : c.IsNormal q) (limit room : Nat) :
    (ofRoom limit room).expand q c.toDraft = pure c := by
  refine induction (P := fun level => level.expand q c.toDraft = pure c) ?_ limit room
  intro below depth _
  exact Draft.resolve_toDraft c fun token ht => find_of_not_refers (h token ht)

end Level

/-- Normal conditions are the results of expansion, and they are its fixed points. -/
theorem Condition.tfae_isNormal {κ : Type} [Computed κ] (q : Query κ) (c : Condition) :
    [c.IsNormal q,
      ∃ depth draft, (q.expandAt depth draft).outcome = .ok c,
      ∀ depth, (q.expandAt depth c.toDraft).outcome = .ok c,
      ∃ depth, (q.expandAt depth c.toDraft).outcome = .ok c].TFAE := by
  tfae_have 1 → 3 := by
    intro h depth
    rw [Query.expandAt, Query.levelAt, Level.atDepth, Level.expand_toDraft h]
    rfl
  tfae_have 3 → 4 := fun h => ⟨0, h 0⟩
  tfae_have 4 → 2 := fun ⟨depth, h⟩ => ⟨depth, c.toDraft, h⟩
  tfae_have 2 → 1 := by
    rintro ⟨depth, draft, h⟩
    exact Level.normalizes_ofRoom _ _ q draft c h
  tfae_finish

end Criteria
