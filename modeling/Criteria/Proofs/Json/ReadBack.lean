import Criteria.Proofs.Json.Doc

/-!
# Values that are read back

A value that was read is read back from its own text, with its keys in the same order
(`Json.read?_compact_of_read?`). Doubles are the exception: the decimal that is written for one is
not always read as the same double, so each double of the value is asked to be read back alone.
-/

namespace Criteria

/-! ## Keys of objects -/

section

variable {α : Type} {key : String} {value : α} {e : String × α} {fields : List (String × α)}

theorem mem_of_mem_putField (h : e ∈ putField key value fields) :
    e = (key, value) ∨ e ∈ fields := by
  induction fields with
  | nil => exact .inl (List.mem_singleton.1 h)
  | cons field rest ih =>
    obtain ⟨k, v⟩ := field
    rw [putField] at h
    split at h
    · rcases List.mem_cons.1 h with h | h
      · exact .inl h
      · exact .inr (List.mem_cons_of_mem _ h)
    · rcases List.mem_cons.1 h with h | h
      · exact .inr (h ▸ List.mem_cons_self)
      · exact (ih h).imp id (List.mem_cons_of_mem _)

theorem mem_of_mem_putFields (h : e ∈ putFields fields) : e ∈ fields := by
  have hall : ∀ e ∈ putFields fields, e ∈ fields := by
    refine List.foldlRecOn (motive := fun done => ∀ e ∈ done, e ∈ fields) fields _ (by simp) ?_
    intro done hdone field hfield e he
    rcases mem_of_mem_putField he with rfl | he
    · exact hfield
    · exact hdone e he
  exact hall e h

theorem putField_of_not_mem (h : key ∉ fields.map (·.1)) (value : α) :
    putField key value fields = fields ++ [(key, value)] := by
  induction fields with
  | nil => rfl
  | cons field rest ih =>
    obtain ⟨k, v⟩ := field
    rw [List.map_cons, List.mem_cons, not_or] at h
    rw [putField, if_neg (Ne.symm h.1), ih h.2]
    rfl

/-- The keys of the fields are different. -/
def DistinctKeys (fields : List (String × α)) : Prop := (fields.map (·.1)).Nodup

theorem DistinctKeys.putField (h : DistinctKeys fields) (key : String) (value : α) :
    DistinctKeys (putField key value fields) := by
  induction fields with
  | nil => simp [DistinctKeys, Criteria.putField]
  | cons field rest ih =>
    obtain ⟨k, v⟩ := field
    obtain ⟨hk, hrest⟩ := List.nodup_cons.1 h
    rw [Criteria.putField]
    split
    · next heq =>
      subst heq
      exact h
    · next hne =>
      refine List.nodup_cons.2 ⟨?_, ih hrest⟩
      intro hmem
      obtain ⟨e, he, hfst⟩ := List.mem_map.1 hmem
      rcases mem_of_mem_putField he with rfl | he
      · exact hne hfst.symm
      · exact hk (hfst ▸ List.mem_map_of_mem he)

theorem distinctKeys_putFields (fields : List (String × α)) : DistinctKeys (putFields fields) :=
  List.foldlRecOn (motive := DistinctKeys) fields _ List.nodup_nil
    fun _ hdone field _ => hdone.putField field.1 field.2

/-- Fields of different keys stay as they are. -/
theorem putFields_of_distinctKeys (h : DistinctKeys fields) : putFields fields = fields := by
  have hfold : ∀ fields done : List (String × α), DistinctKeys (done ++ fields) →
      fields.foldl (fun done field => putField field.1 field.2 done) done = done ++ fields := by
    intro fields
    induction fields with
    | nil => exact fun done _ => (List.append_nil done).symm
    | cons field rest ih =>
      intro done h
      have hnot : field.1 ∉ done.map (·.1) := by
        intro hmem
        rw [DistinctKeys, List.map_append] at h
        obtain ⟨-, -, hdisjoint⟩ := List.nodup_append.1 h
        exact hdisjoint _ hmem _ List.mem_cons_self rfl
      rw [List.foldl_cons, putField_of_not_mem hnot, ih _ (by simpa using h)]
      simp
  exact hfold fields [] h

end

namespace Json

mutual

/-- The doubles in a value. -/
def doubles : Json → List Double
  | number (.real x) => [x]
  | array items => itemDoubles items
  | object fields => fieldDoubles fields
  | _ => []

def itemDoubles : List Json → List Double
  | [] => []
  | x :: rest => doubles x ++ itemDoubles rest

def fieldDoubles : List (String × Json) → List Double
  | [] => []
  | (_, value) :: rest => doubles value ++ fieldDoubles rest

end

theorem mem_fieldDoubles {e : String × Json} {fields : List (String × Json)} (h : e ∈ fields)
    {x : Double} (hx : x ∈ e.2.doubles) : x ∈ fieldDoubles fields := by
  induction fields with
  | nil => cases h
  | cons first rest ih =>
    rw [fieldDoubles, List.mem_append]
    rcases List.mem_cons.1 h with rfl | h
    · exact .inl hx
    · exact .inr (ih h)

end Json

namespace Json

/-- What is read from the text of a value is the value of its document. -/
theorem read?_compact (room : Nat) (v : Json) : read? room v.compact = ofDoc? room v.doc := by
  have hread : readAll? room v.chars = ofItems? room [v.doc] := by
    unfold readAll?
    rw [readAll_chars]
  unfold read?
  rw [compact, String.toList_ofList, hread]
  cases h : ofDoc? room v.doc <;> simp [ofItems?, h]

/-- The value is read back from its document with the given room. -/
def Fits (room : Nat) (v : Json) : Prop := ofDoc? room v.doc = some v

end Json

namespace Number

/-- The number is read back from its text. -/
def ReadsBack (n : Number) : Prop :=
  Json.read? Json.maxNesting (Json.number n).compact = some (.number n)

theorem readsBack_iff {n : Number} : n.ReadsBack ↔ n.numeral.number? = some n := by
  unfold ReadsBack
  rw [Json.read?_compact, Json.doc, Json.ofDoc?]
  cases n.numeral.number? <;> simp

/-- A whole number that was read is read back, and a double if it is read back alone. -/
theorem number?_numeral {m : Numeral} {n : Number} (h : m.number? = some n)
    (hn : ∀ x, n = .real x → n.ReadsBack) : n.numeral.number? = some n := by
  cases n with
  | int k =>
    obtain ⟨hlow, hhigh⟩ := Numeral.bounds_of_number? h
    exact Numeral.number?_ofInt hlow hhigh
  | real x => exact readsBack_iff.1 (hn x rfl)

end Number

namespace Json

variable {room : Nat}

theorem ofItems?_itemDocs {items : List Json} (h : ∀ v ∈ items, v.Fits room) :
    ofItems? room (itemDocs items) = some items := by
  induction items with
  | nil => rfl
  | cons x rest ih =>
    obtain ⟨hx, hrest⟩ := List.forall_mem_cons.1 h
    have hx : ofDoc? room x.doc = some x := hx
    simp [itemDocs, ofItems?, hx, ih hrest]

theorem ofFields?_fieldDocs {fields : List (String × Json)} (h : ∀ e ∈ fields, e.2.Fits room) :
    ofFields? room (fieldDocs fields) = some fields := by
  induction fields with
  | nil => rfl
  | cons field rest ih =>
    obtain ⟨key, value⟩ := field
    obtain ⟨hvalue, hrest⟩ := List.forall_mem_cons.1 h
    have hvalue : ofDoc? room value.doc = some value := hvalue
    simp [fieldDocs, ofFields?, hvalue, ih hrest]

mutual

/-- The value of a document fits where the document did. -/
theorem fits_of_ofDoc? (d : Doc) {room : Nat} {v : Json} (h : ofDoc? room d = some v)
    (hv : ∀ x ∈ v.doubles, (Number.real x).ReadsBack) : v.Fits room := by
  cases d with
  | null => cases h; rfl
  | bool b => cases h; rfl
  | number m =>
    obtain ⟨n, hn, rfl⟩ := Option.map_eq_some_iff.1 h
    have hback : n.numeral.number? = some n := by
      refine Number.number?_numeral hn ?_
      rintro x rfl
      exact hv x List.mem_cons_self
    unfold Fits
    rw [doc, ofDoc?, hback]
    rfl
  | text s =>
    obtain ⟨s, rfl, rfl⟩ := Option.map_eq_some_iff.1 h
    rfl
  | array items whole =>
    cases room with
    | zero => cases h
    | succ room =>
      cases whole with
      | false => cases h
      | true =>
        obtain ⟨values, hvalues, rfl⟩ := Option.map_eq_some_iff.1 h
        have hall := fits_of_ofItems? items hvalues hv
        unfold Fits
        rw [doc, ofDoc?, ofItems?_itemDocs hall]
        rfl
  | object fields whole =>
    cases room with
    | zero => cases h
    | succ room =>
      cases whole with
      | false => cases h
      | true =>
        obtain ⟨values, hvalues, rfl⟩ := Option.map_eq_some_iff.1 h
        have hall : ∀ e ∈ putFields values, e.2.Fits room := fun e he =>
          fits_of_ofFields? fields hvalues e (mem_of_mem_putFields he)
            fun x hx => hv x (mem_fieldDoubles he hx)
        unfold Fits
        rw [doc, ofDoc?, ofFields?_fieldDocs hall, Option.map_some,
          putFields_of_distinctKeys (distinctKeys_putFields values)]
  | broken => cases h

theorem fits_of_ofItems? (docs : List Doc) {room : Nat} {items : List Json}
    (h : ofItems? room docs = some items)
    (hitems : ∀ x ∈ itemDoubles items, (Number.real x).ReadsBack) :
    ∀ v ∈ items, v.Fits room := by
  cases docs with
  | nil =>
    cases h
    intro v hv
    cases hv
  | cons d docs =>
    obtain ⟨x, hx, hrest⟩ := Option.bind_eq_some_iff.1 h
    obtain ⟨xs, hxs, heq⟩ := Option.bind_eq_some_iff.1 hrest
    cases heq
    rw [itemDoubles] at hitems
    refine List.forall_mem_cons.2 ⟨?_, ?_⟩
    · exact fits_of_ofDoc? d hx fun y hy => hitems y (List.mem_append_left _ hy)
    · exact fits_of_ofItems? docs hxs fun y hy => hitems y (List.mem_append_right _ hy)

theorem fits_of_ofFields? (docs : List (Key × Doc)) {room : Nat} {fields : List (String × Json)}
    (h : ofFields? room docs = some fields) (e : String × Json) (he : e ∈ fields)
    (hdoubles : ∀ x ∈ e.2.doubles, (Number.real x).ReadsBack) : e.2.Fits room := by
  cases docs with
  | nil =>
    cases h
    cases he
  | cons d docs =>
    obtain ⟨key, d⟩ := d
    cases key with
    | error _ => cases h
    | ok key =>
      obtain ⟨x, hx, hrest⟩ := Option.bind_eq_some_iff.1 h
      obtain ⟨xs, hxs, heq⟩ := Option.bind_eq_some_iff.1 hrest
      cases heq
      rcases List.mem_cons.1 he with rfl | he
      · exact fits_of_ofDoc? d hx hdoubles
      · exact fits_of_ofFields? docs hxs e he hdoubles

end

/-- A value that was read is read back from its own text if its doubles are. -/
theorem read?_compact_of_read? {text : String} {v : Json} (h : read? room text = some v)
    (hv : ∀ x ∈ v.doubles, (Number.real x).ReadsBack) : read? room v.compact = some v := by
  obtain ⟨docs, hdocs, hvalues⟩ := readAll?_eq_some_iff.1 (readAll?_of_read? h)
  have hall : ∀ x ∈ itemDoubles [v], (Number.real x).ReadsBack := by
    simpa [itemDoubles] using hv
  rw [read?_compact]
  exact fits_of_ofItems? docs hvalues hall v List.mem_cons_self

/-- What is written for a double that was read may be read as the double below it. -/
example : (read? maxNesting "9.0509402430280213").map compact = some "9.050940243028021" ∧
    (read? maxNesting "9.050940243028021").map compact = some "9.05094024302802" := by
  decide +kernel

end Json

end Criteria
