import Criteria.Dict

/-!
# Dictionaries in correspondence

Two dictionaries match if they have the same names and fitting values under each of them. Main
statement: a dictionary that is filled entry by entry with values that fit those of another one
matches it (`FilledFrom.matches_of_empty`).
-/

namespace Criteria.Dict

variable {α β : Type} {fits : String → α → β → Prop}

/-! ## Entries -/

theorem lookup_eq_none_of_lt {name : String} {entries : List (String × α)}
    (h : ∀ e ∈ entries, name < e.1) : entries.lookup name = none := by
  induction entries with
  | nil => rfl
  | cons e rest ih =>
    have hne : name ≠ e.1 := by
      rintro rfl
      exact String.lt_irrefl _ (h e List.mem_cons_self)
    rw [lookup_cons_of_ne hne]
    exact ih fun e' he' => h e' (List.mem_cons_of_mem _ he')

/-- A value is found under a name exactly if the two are an entry. -/
theorem get?_eq_some_iff (d : Dict α) {name : String} {value : α} :
    d.get? name = some value ↔ (name, value) ∈ d.entries := by
  obtain ⟨entries, hascending⟩ := d
  show entries.lookup name = some value ↔ (name, value) ∈ entries
  induction entries with
  | nil => simp
  | cons e rest ih =>
    obtain ⟨k, v⟩ := e
    obtain ⟨hk, hrest⟩ := List.pairwise_cons.1 hascending
    rw [List.mem_cons, Prod.mk.injEq, ← ih hrest]
    by_cases hname : name = k
    · subst hname
      rw [lookup_cons_self, lookup_eq_none_of_lt hk, Option.some.injEq]
      constructor
      · rintro rfl
        exact .inl ⟨rfl, rfl⟩
      · rintro (⟨-, rfl⟩ | h)
        · rfl
        · cases h
    · rw [lookup_cons_of_ne hname]
      constructor
      · exact .inr
      · rintro (⟨h, -⟩ | h)
        · exact absurd h hname
        · exact h

/-- A greater name comes last. -/
theorem insertEntry_of_lt {name : String} {entries : List (String × α)}
    (h : ∀ e ∈ entries, e.1 < name) (value : α) :
    insertEntry name value entries = entries ++ [(name, value)] := by
  induction entries with
  | nil => rfl
  | cons e rest ih =>
    obtain ⟨k, v⟩ := e
    obtain ⟨hk, hrest⟩ := List.forall_mem_cons.1 h
    have hlt : ¬name < k := fun h => String.lt_irrefl _ (String.lt_trans hk h)
    have hne : name ≠ k := by
      rintro rfl
      exact String.lt_irrefl _ hk
    rw [insertEntry, if_neg hlt, if_neg hne, ih hrest]
    rfl

theorem mem_of_mem_insertEntry {name : String} {value : α} {entries : List (String × α)}
    {e : String × α} (h : e ∈ insertEntry name value entries) :
    e = (name, value) ∨ e ∈ entries := by
  induction entries with
  | nil => exact .inl (List.mem_singleton.1 h)
  | cons first rest ih =>
    obtain ⟨k, v⟩ := first
    rw [insertEntry] at h
    split at h
    · exact List.mem_cons.1 h
    · split at h
      · exact (List.mem_cons.1 h).imp id (List.mem_cons_of_mem _)
      · rcases List.mem_cons.1 h with h | h
        · exact .inr (h ▸ List.mem_cons_self)
        · exact (ih h).imp id (List.mem_cons_of_mem _)

theorem eq_of_entries {d d' : Dict α} (h : d.entries = d'.entries) : d = d' := by
  cases d
  cases d'
  cases h
  rfl

/-- A dictionary is made of its entries. -/
theorem ofList_entries (d : Dict α) : ofList d.entries = d := by
  have hfold : ∀ entries : List (String × α), ∀ d : Dict α,
      (d.entries ++ entries).Pairwise (fun a b => a.1 < b.1) →
        (entries.foldl (fun d e => d.insert e.1 e.2) d).entries = d.entries ++ entries := by
    intro entries
    induction entries with
    | nil => exact fun d _ => (List.append_nil d.entries).symm
    | cons e rest ih =>
      intro d h
      have hlast : ∀ e' ∈ d.entries, e'.1 < e.1 := fun e' he' =>
        (List.pairwise_append.1 h).2.2 e' he' e List.mem_cons_self
      have hinsert : (d.insert e.1 e.2).entries = d.entries ++ [e] :=
        insertEntry_of_lt hlast e.2
      rw [List.foldl_cons, ih _ (by rw [hinsert]; simpa using h), hinsert]
      simp
  exact eq_of_entries (hfold d.entries empty d.ascending)

theorem mem_of_mem_ofList {e : String × α} {entries : List (String × α)}
    (h : e ∈ (ofList entries).entries) : e ∈ entries := by
  have hall : ∀ e ∈ (ofList entries).entries, e ∈ entries := by
    refine List.foldlRecOn (motive := fun d : Dict α => ∀ e ∈ d.entries, e ∈ entries) entries _
      (by simp [empty]) ?_
    intro d hd first hfirst e he
    rcases mem_of_mem_insertEntry he with rfl | he
    · exact hfirst
    · exact hd e he
  exact hall e h

/-! ## Matching -/

/-- The dictionaries have the same names, and fitting values under them. -/
def Matches (fits : String → α → β → Prop) (d : Dict α) (d' : Dict β) : Prop :=
  ∀ name, (∃ a b, d.get? name = some a ∧ d'.get? name = some b ∧ fits name a b) ∨
    d.get? name = none ∧ d'.get? name = none

namespace Matches

variable {d : Dict α} {d' : Dict β} {name : String} {a : α} {b : β}

theorem exists_right (h : Matches fits d d') (ha : d.get? name = some a) :
    ∃ b, d'.get? name = some b ∧ fits name a b := by
  rcases h name with ⟨a', b, ha', hb, hfits⟩ | ⟨hnone, -⟩
  · rw [ha] at ha'
    cases ha'
    exact ⟨b, hb, hfits⟩
  · rw [ha] at hnone
    cases hnone

theorem exists_left (h : Matches fits d d') (hb : d'.get? name = some b) :
    ∃ a, d.get? name = some a ∧ fits name a b := by
  rcases h name with ⟨a, b', ha, hb', hfits⟩ | ⟨-, hnone⟩
  · rw [hb] at hb'
    cases hb'
    exact ⟨a, ha, hfits⟩
  · rw [hb] at hnone
    cases hnone

end Matches

/-! ## Filling -/

/-- The second dictionary is the first one with a fitting value set for each entry. -/
def FilledFrom (fits : String → α → β → Prop) (entries : List (String × α))
    (d d' : Dict β) : Prop :=
  ∀ name, (∃ a b, entries.lookup name = some a ∧ d'.get? name = some b ∧ fits name a b) ∨
    entries.lookup name = none ∧ d'.get? name = d.get? name

namespace FilledFrom

theorem nil (d : Dict β) : FilledFrom fits [] d d := fun _ => .inr ⟨rfl, rfl⟩

/-- Of ascending entries the later ones leave what was set for the first. -/
theorem cons {rest : List (String × α)} {k : String} {v : α} {b : β} {d d' : Dict β}
    (hk : ∀ e ∈ rest, k < e.1) (hfits : fits k v b)
    (h : FilledFrom fits rest (d.insert k b) d') : FilledFrom fits ((k, v) :: rest) d d' := by
  intro name
  by_cases hname : name = k
  · subst hname
    rcases h name with ⟨a, _, ha, -⟩ | ⟨-, hget⟩
    · rw [lookup_eq_none_of_lt hk] at ha
      cases ha
    · rw [get?_insert, if_pos rfl] at hget
      exact .inl ⟨v, b, lookup_cons_self name v rest, hget, hfits⟩
  · rw [lookup_cons_of_ne hname]
    rcases h name with hset | ⟨hnone, hget⟩
    · exact .inl hset
    · rw [get?_insert, if_neg hname] at hget
      exact .inr ⟨hnone, hget⟩

theorem matches_of_empty {d : Dict α} {d' : Dict β}
    (h : FilledFrom fits d.entries empty d') : Matches fits d d' := h

end FilledFrom

end Criteria.Dict
