import Criteria.Proofs.Expansion.NormalForm

/-!
# How resolving ends

Main statements: a draft resolves exactly if each name in it that is looked up does
(`Draft.resolve_ok_iff`), and the fault of one that does not is the fault of such a name
(`Draft.exists_of_resolve_error`).
-/

namespace Criteria.Draft

variable {find : String → Traced (Option Condition)}

mutual

/-- A draft resolves exactly if each of its loose names does. -/
theorem resolve_ok_iff : ∀ d : Draft, (∃ c, (d.resolve find).outcome = .ok c) ↔
    ∀ token ∈ d.looseNames, ∃ found, (find token).outcome = .ok found
  | name token => by
    rw [resolve]
    constructor
    · rintro ⟨c, h⟩ t ht
      obtain ⟨found, hfound, -⟩ := Traced.bind_ok_iff.1 h
      rw [List.mem_singleton.1 ht]
      exact ⟨found, hfound⟩
    · intro h
      obtain ⟨found, hfound⟩ := h token (List.mem_singleton.2 rfl)
      cases found with
      | some c => exact ⟨c, Traced.bind_ok_iff.2 ⟨some c, hfound, rfl⟩⟩
      | none => exact ⟨.operand token, Traced.bind_ok_iff.2 ⟨none, hfound, rfl⟩⟩
  | literal value | map entries | query select => by
    rw [resolve]
    constructor
    · intro _ t ht
      cases ht
    · intro _
      exact ⟨_, rfl⟩
  | list items => by
    rw [resolve, looseNames, ← resolveItems_ok_iff items]
    constructor
    · rintro ⟨c, h⟩
      obtain ⟨cs, hcs, -⟩ := Traced.bind_ok_iff.1 h
      exact ⟨cs, hcs⟩
    · rintro ⟨cs, hcs⟩
      exact ⟨.list cs, Traced.bind_ok_iff.2 ⟨cs, hcs, rfl⟩⟩

theorem resolveItems_ok_iff : ∀ items : List Draft,
    (∃ cs, (resolveItems find items).outcome = .ok cs) ↔
      ∀ token ∈ looseNamesOfItems items, ∃ found, (find token).outcome = .ok found
  | [] => by
    rw [resolveItems]
    constructor
    · intro _ t ht
      cases ht
    · intro _
      exact ⟨[], rfl⟩
  | d :: rest => by
    rw [resolveItems, looseNamesOfItems]
    constructor
    · rintro ⟨cs, h⟩ t ht
      obtain ⟨c, hc, h⟩ := Traced.bind_ok_iff.1 h
      obtain ⟨cs', hcs, -⟩ := Traced.bind_ok_iff.1 h
      rcases List.mem_append.1 ht with ht | ht
      · exact (resolve_ok_iff d).1 ⟨c, hc⟩ t ht
      · exact (resolveItems_ok_iff rest).1 ⟨cs', hcs⟩ t ht
    · intro h
      obtain ⟨c, hc⟩ := (resolve_ok_iff d).2 fun t ht => h t (List.mem_append_left _ ht)
      obtain ⟨cs, hcs⟩ := (resolveItems_ok_iff rest).2 fun t ht => h t (List.mem_append_right _ ht)
      exact ⟨c :: cs, Traced.bind_ok_iff.2 ⟨c, hc, Traced.bind_ok_iff.2 ⟨cs, hcs, rfl⟩⟩⟩

end

mutual

/-- The fault of a draft that does not resolve is the fault of one of its loose names. -/
theorem exists_of_resolve_error {fault : Fault} : ∀ d : Draft,
    (d.resolve find).outcome = .error fault →
      ∃ token ∈ d.looseNames, (find token).outcome = .error fault
  | name token, h => by
    rw [resolve] at h
    rcases Traced.bind_error_iff.1 h with h | ⟨found, -, h⟩
    · exact ⟨token, List.mem_singleton.2 rfl, h⟩
    · cases found <;> cases h
  | literal _, h | map _, h | query _, h => by
    rw [resolve] at h
    cases h
  | list items, h => by
    rw [resolve] at h
    rcases Traced.bind_error_iff.1 h with h | ⟨cs, -, h⟩
    · exact exists_of_resolveItems_error items h
    · cases h

theorem exists_of_resolveItems_error {fault : Fault} : ∀ items : List Draft,
    (resolveItems find items).outcome = .error fault →
      ∃ token ∈ looseNamesOfItems items, (find token).outcome = .error fault
  | [], h => by
    rw [resolveItems] at h
    cases h
  | d :: rest, h => by
    rw [resolveItems] at h
    rcases Traced.bind_error_iff.1 h with h | ⟨c, -, h⟩
    · obtain ⟨t, ht, h⟩ := exists_of_resolve_error d h
      exact ⟨t, List.mem_append_left _ ht, h⟩
    · rcases Traced.bind_error_iff.1 h with h | ⟨cs, -, h⟩
      · obtain ⟨t, ht, h⟩ := exists_of_resolveItems_error rest h
        exact ⟨t, List.mem_append_right _ ht, h⟩
      · cases h

end

end Criteria.Draft
