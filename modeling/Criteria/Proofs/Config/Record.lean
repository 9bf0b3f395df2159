import Criteria.Config.Reader
import Criteria.Proofs.Dict
import Criteria.Proofs.Json.ReadBack
import Criteria.Proofs.Level

/-!
# Records of a configuration

What every reading of a record keeps, and how a record is read that was written field by field. Main
statements: what each field of a record keeps, the record keeps (`Keeps.of_asRecord`), and a
dictionary is read back if its values are (`asDict_ofDict`).
-/

namespace Criteria.Json.Doc

variable {α σ : Type} {room : Nat} {d : Doc}

/-! ## What readers keep -/

/-- Whatever a field reads, a property of the record is kept. -/
def Keeps (P : σ → Prop) (known : List (RecordField σ)) : Prop :=
  ∀ field ∈ known, ∀ d s s', P s → field.read d s = .ok s' → P s'

namespace Keeps

variable {P : σ → Prop} {known : List (RecordField σ)} {s s' : σ}

theorem nil : Keeps P [] := by
  intro field hfield
  cases hfield

/-- A field that puts a value into the record. -/
theorem cons {name : String} {isSet : σ → Bool} {read : Doc → Except ReadFault α}
    {put : σ → α → σ} (h : ∀ d a s, P s → read d = .ok a → P (put s a))
    (hrest : Keeps P known) :
    Keeps P (⟨name, isSet, fun d s => do
      let a ← read d
      return put s a⟩ :: known) := by
  refine List.forall_mem_cons.2 ⟨?_, hrest⟩
  intro d s s' hs hread
  obtain ⟨a, ha, hread⟩ := bind_ok_iff.1 hread
  cases hread
  exact h d a s hs ha

theorem of_readFields (h : Keeps P known) (hs : P s) {fields : List (Key × Doc)}
    (hread : readFields known fields s = .ok s') : P s' := by
  induction fields generalizing s with
  | nil =>
    cases hread
    exact hs
  | cons field rest ih =>
    obtain ⟨key, d⟩ := field
    cases key with
    | error _ => cases hread
    | ok key =>
      rw [readFields] at hread
      split at hread
      · next field hfield =>
        split at hread
        · cases hread
        · obtain ⟨s₁, hs₁, hread⟩ := bind_ok_iff.1 hread
          exact ih (h field (List.mem_of_find?_eq_some hfield) d s s₁ hs hs₁) hread
      · obtain ⟨_, -, hread⟩ := bind_ok_iff.1 hread
        exact ih hs hread

theorem of_readItems (h : Keeps P known) (hs : P s) {items : List Doc}
    (hread : readItems known items s = .ok s') : P s' := by
  induction items generalizing known s with
  | nil =>
    cases known <;> cases hread <;> exact hs
  | cons d rest ih =>
    cases known with
    | nil => cases hread
    | cons field known =>
      obtain ⟨hfield, hknown⟩ := List.forall_mem_cons.1 h
      obtain ⟨s₁, hs₁, hread⟩ := bind_ok_iff.1 hread
      exact ih hknown (hfield d s s₁ hs hs₁) hread

/-- What the fields keep, the record keeps, as an object and as an array. -/
theorem of_asRecord {known : Nat → List (RecordField σ)} (h : Keeps P (known room)) (hs : P s)
    (hread : asRecord (room + 1) known s d = .ok s') : P s' := by
  cases d with
  | object fields whole =>
    obtain ⟨_, henter, hread⟩ := bind_ok_iff.1 hread
    cases henter
    obtain ⟨s₁, hs₁, hread⟩ := bind_ok_iff.1 hread
    cases whole with
    | false => cases hread
    | true =>
      cases hread
      exact h.of_readFields hs hs₁
  | array items whole =>
    obtain ⟨_, henter, hread⟩ := bind_ok_iff.1 hread
    cases henter
    obtain ⟨s₁, hs₁, hread⟩ := bind_ok_iff.1 hread
    cases whole with
    | false => cases hread
    | true =>
      cases hread
      exact h.of_readItems hs hs₁
  | _ => cases hread

end Keeps

/-- Every value of the entries was read. -/
theorem exists_of_asEntries {read : Doc → Except ReadFault α} {fields : List (Key × Doc)}
    {entries : List (String × α)} (h : asEntries read fields = .ok entries) {e : String × α}
    (he : e ∈ entries) : ∃ d, read d = .ok e.2 := by
  induction fields generalizing entries with
  | nil =>
    cases h
    cases he
  | cons field rest ih =>
    obtain ⟨key, d⟩ := field
    cases key with
    | error _ => cases h
    | ok key =>
      obtain ⟨value, hvalue, h⟩ := bind_ok_iff.1 h
      obtain ⟨others, hothers, h⟩ := bind_ok_iff.1 h
      cases h
      rcases List.mem_cons.1 he with rfl | he
      · exact ⟨d, hvalue⟩
      · exact ih hothers he

/-- Every value of a dictionary was read with the room inside it. -/
theorem exists_of_asDict {read : Nat → Doc → Except ReadFault α} {dict : Dict α}
    (h : asDict (room + 1) read d = .ok dict) {e : String × α} (he : e ∈ dict.entries) :
    ∃ d, read room d = .ok e.2 := by
  obtain ⟨entries, hentries, h⟩ := bind_ok_iff.1 h
  cases h
  cases d with
  | object fields whole =>
    obtain ⟨_, henter, hentries⟩ := bind_ok_iff.1 hentries
    cases henter
    obtain ⟨found, hfound, hentries⟩ := bind_ok_iff.1 hentries
    cases whole with
    | false => cases hentries
    | true =>
      cases hentries
      exact exists_of_asEntries hfound (Dict.mem_of_mem_ofList he)
  | _ => cases hentries

/-! ## Reading what was written -/

theorem asEntries_fieldDocs {f : α → Json} {read : Doc → Except ReadFault α}
    {entries : List (String × α)} (h : ∀ e ∈ entries, read (f e.2).doc = .ok e.2) :
    asEntries read (fieldDocs (entries.map fun e => (e.1, f e.2))) = .ok entries := by
  induction entries with
  | nil => rfl
  | cons e rest ih =>
    obtain ⟨key, value⟩ := e
    obtain ⟨hvalue, hrest⟩ := List.forall_mem_cons.1 h
    refine bind_ok_iff.2 ⟨value, hvalue, ?_⟩
    exact bind_ok_iff.2 ⟨rest, ih hrest, rfl⟩

/-- A dictionary is read back if each of its values is. -/
theorem asDict_ofDict {f : α → Json} {read : Nat → Doc → Except ReadFault α} {dict : Dict α}
    (h : ∀ e ∈ dict.entries, read room (f e.2).doc = .ok e.2) :
    asDict (room + 1) read (ofDict f dict).doc = .ok dict := by
  refine bind_ok_iff.2 ⟨dict.entries, ?_, congrArg Except.ok dict.ofList_entries⟩
  refine bind_ok_iff.2 ⟨room, rfl, ?_⟩
  exact bind_ok_iff.2 ⟨dict.entries, asEntries_fieldDocs h, rfl⟩

variable {s s' : σ}

/-- A known field that was not read before is read. -/
theorem readFields_cons (s' : σ) {known : List (RecordField σ)} {key : String}
    {field : RecordField σ} (hfield : known.find? (·.name == key) = some field)
    (hset : field.isSet s = false) (hread : field.read d s = .ok s') (rest : List (Key × Doc)) :
    readFields known ((.ok key, d) :: rest) s = readFields known rest s' := by
  rw [readFields, hfield]
  simp only [hset, Bool.false_eq_true, if_false]
  rw [hread]
  rfl

theorem asRecord_object {known : Nat → List (RecordField σ)} {fields : List (Key × Doc)}
    (h : readFields (known room) fields s = .ok s') :
    asRecord (room + 1) known s (.object fields true) = .ok s' := by
  refine bind_ok_iff.2 ⟨room, rfl, ?_⟩
  exact bind_ok_iff.2 ⟨s', h, rfl⟩

end Criteria.Json.Doc
