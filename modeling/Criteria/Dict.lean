/-!
# Dictionaries

Values under names, in the order of the names. A name occurs once; setting its value again replaces
the old one. Main statements: what a look-up finds after a value was set (`get?_insert`), and that
exactly the names have values (`has_iff`).
-/

namespace Criteria

/-- Values under ascending names. -/
structure Dict (α : Type) where
  entries : List (String × α)
  ascending : entries.Pairwise fun a b => a.1 < b.1

namespace Dict

variable {α : Type}

def empty : Dict α := ⟨[], .nil⟩

instance : Inhabited (Dict α) := ⟨empty⟩

/-- The value under a name. -/
def get? (d : Dict α) (name : String) : Option α := d.entries.lookup name

def has (d : Dict α) (name : String) : Bool := (d.get? name).isSome

def names (d : Dict α) : List String := d.entries.map (·.1)

/-- Sets the value of a name among ascending names. -/
def insertEntry (name : String) (value : α) : List (String × α) → List (String × α)
  | [] => [(name, value)]
  | (k, v) :: rest =>
    if name < k then (name, value) :: (k, v) :: rest
    else if name = k then (name, value) :: rest
    else (k, v) :: insertEntry name value rest

theorem fst_of_mem_insertEntry {name : String} {value : α} {entries : List (String × α)}
    {e : String × α} (h : e ∈ insertEntry name value entries) :
    e.1 = name ∨ e ∈ entries := by
  induction entries with
  | nil => simp only [insertEntry, List.mem_singleton] at h; exact Or.inl (by rw [h])
  | cons a rest ih =>
    obtain ⟨k, v⟩ := a
    simp only [insertEntry] at h
    split at h
    · rcases List.mem_cons.1 h with rfl | h
      · exact Or.inl rfl
      · exact Or.inr h
    · split at h
      · rcases List.mem_cons.1 h with rfl | h
        · exact Or.inl rfl
        · exact Or.inr (List.mem_cons_of_mem _ h)
      · rcases List.mem_cons.1 h with rfl | h
        · exact Or.inr List.mem_cons_self
        · rcases ih h with h | h
          · exact Or.inl h
          · exact Or.inr (List.mem_cons_of_mem _ h)

theorem ascending_insertEntry {name : String} {value : α} {entries : List (String × α)}
    (h : entries.Pairwise fun a b => a.1 < b.1) :
    (insertEntry name value entries).Pairwise fun a b => a.1 < b.1 := by
  induction entries with
  | nil => exact List.pairwise_singleton _ _
  | cons a rest ih =>
    obtain ⟨k, v⟩ := a
    obtain ⟨hk, hrest⟩ := List.pairwise_cons.1 h
    simp only [insertEntry]
    split
    · next hlt =>
      refine List.pairwise_cons.2 ⟨fun e he => ?_, h⟩
      rcases List.mem_cons.1 he with rfl | he
      · exact hlt
      · exact String.lt_trans hlt (hk e he)
    · next hlt =>
      split
      · next heq => subst heq; exact List.pairwise_cons.2 ⟨hk, hrest⟩
      · next hne =>
        refine List.pairwise_cons.2 ⟨fun e he => ?_, ih hrest⟩
        rcases fst_of_mem_insertEntry he with he | he
        · show k < e.1
          rw [he]
          rcases String.le_total name k with hle | hle
          · exact absurd (String.le_antisymm hle (String.not_lt.1 hlt)) hne
          · exact String.not_le.1 fun hk' => hne (String.le_antisymm hk' hle)
        · exact hk e he

/-- Sets the value of a name. -/
def insert (d : Dict α) (name : String) (value : α) : Dict α :=
  ⟨insertEntry name value d.entries, ascending_insertEntry d.ascending⟩

/-- The values one after another: of a repeated name the last one counts. -/
def ofList (entries : List (String × α)) : Dict α :=
  entries.foldl (fun d e => d.insert e.1 e.2) empty

theorem lookup_cons_self (key : String) (value : α) (rest : List (String × α)) :
    ((key, value) :: rest).lookup key = some value := by
  simp

theorem lookup_cons_of_ne {key k : String} (h : key ≠ k) (v : α) (rest : List (String × α)) :
    ((k, v) :: rest).lookup key = rest.lookup key := by
  rw [List.lookup_cons, beq_eq_false_iff_ne.2 h]

theorem lookup_insertEntry (name key : String) (value : α) (entries : List (String × α)) :
    (insertEntry name value entries).lookup key =
      if key = name then some value else entries.lookup key := by
  induction entries with
  | nil =>
    by_cases h : key = name
    · subst h; simp [insertEntry]
    · rw [insertEntry, lookup_cons_of_ne h, if_neg h]
  | cons a rest ih =>
    obtain ⟨k, v⟩ := a
    simp only [insertEntry]
    split
    · by_cases h : key = name
      · subst h; rw [lookup_cons_self, if_pos rfl]
      · rw [lookup_cons_of_ne h, if_neg h]
    · split
      · next heq =>
        subst heq
        by_cases h : key = name
        · subst h; rw [lookup_cons_self, if_pos rfl]
        · rw [lookup_cons_of_ne h, lookup_cons_of_ne h, if_neg h]
      · next hne =>
        by_cases hk : key = k
        · subst hk; rw [lookup_cons_self, lookup_cons_self, if_neg (Ne.symm hne)]
        · rw [lookup_cons_of_ne hk, lookup_cons_of_ne hk, ih]

/-- After a value was set, its name finds it, and every other name what it found before. -/
theorem get?_insert (d : Dict α) (name key : String) (value : α) :
    (d.insert name value).get? key = if key = name then some value else d.get? key :=
  lookup_insertEntry name key value d.entries

@[simp] theorem get?_empty (key : String) : (empty : Dict α).get? key = none := rfl

/-- A name has a value exactly if it is one of the names. -/
theorem has_iff (d : Dict α) (name : String) : d.has name = true ↔ name ∈ d.names := by
  simp only [has, get?, names]
  induction d.entries with
  | nil => simp
  | cons a rest ih =>
    obtain ⟨k, v⟩ := a
    by_cases h : name = k
    · subst h; simp
    · rw [lookup_cons_of_ne h, ih]; simp [h]

end Dict

end Criteria
