import Criteria.Proofs.Expansion.Entry

/-!
# Identifiers of rows

The condition that every model has, that the primary key is one of some identifiers, takes them as
numbers, in arrays, and as digits in texts. Main statement: however they are given, by a call or by
a reference, the condition has them all, in their order (`Query.elements_of_gives`).
-/

namespace Criteria

namespace Elements

/-- The identifier that a run of digits is: its value, or the run as it stands if the value is no
number of 63 bits. -/
def identifier (run : List Char) : Json :=
  if Nat.ofDigitChars 10 run 0 < identifierCount then .number (.int (Nat.ofDigitChars 10 run 0))
  else .text (String.ofList run)

/-- The text is made of these runs of digits and of characters that are no digits. Between two runs
there is such a character, and there may be more of them anywhere. -/
inductive HasRuns : List Char → List (List Char) → Prop
  | nil : HasRuns [] []
  | other {c : Char} {s : List Char} {runs : List (List Char)} (hc : Text.isDigit c = false)
    (hs : HasRuns s runs) : HasRuns (c :: s) runs
  | run {digits s : List Char} {runs : List (List Char)} (hne : digits ≠ [])
    (hdigits : ∀ c ∈ digits, c.isDigit = true) (hend : ∀ c ∈ s.head?, Text.isDigit c = false)
    (hs : HasRuns s runs) : HasRuns (digits ++ s) (digits :: runs)

/-- The arguments give these identifiers: as numbers, in arrays, or as the runs of digits in texts.
Null gives none. -/
inductive Gives : List Json → List Json → Prop
  | nil : Gives [] []
  | null {args ids : List Json} (h : Gives args ids) : Gives (.null :: args) ids
  | number {args ids : List Json} (n : Number) (h : Gives args ids) :
    Gives (.number n :: args) (.number n :: ids)
  | array {args ids : List Json} (items : List Json) (h : Gives args ids) :
    Gives (.array items :: args) (items ++ ids)
  | text {args ids : List Json} {s : String} {runs : List (List Char)}
    (hs : HasRuns s.toList runs) (h : Gives args ids) :
    Gives (.text s :: args) (runs.map identifier ++ ids)

/-! ## Runs of digits -/

theorem text_isDigit_of_isDigit {c : Char} (h : c.isDigit = true) : Text.isDigit c = true := by
  have hbounds : 0x30 ≤ c.toNat ∧ c.toNat ≤ 0x39 := by
    simpa [Char.isDigit, UInt32.le_iff_toNat_le] using h
  obtain ⟨rest, hranges⟩ : ∃ rest, Text.digitRanges = (0x30, 0x39) :: rest := ⟨_, rfl⟩
  simp [Text.isDigit, hranges, Text.Ranges.has_cons, hbounds]

theorem runs_of_hasRuns {s : List Char} {runs : List (List Char)} (h : HasRuns s runs) :
    Text.runs Text.isDigit s = runs := by
  induction h with
  | nil => rfl
  | other hc _ ih => rw [Text.runs_cons_of_not hc, ih]
  | run hne hdigits hend _ ih =>
    rw [Text.runs_append hne (fun c hc => text_isDigit_of_isDigit (hdigits c hc)) hend, ih]

/-- Each run consists of digits. -/
theorem isDigit_of_mem_run {s : List Char} {runs : List (List Char)} (h : HasRuns s runs)
    {run : List Char} (hrun : run ∈ runs) : ∀ c ∈ run, c.isDigit = true := by
  induction h with
  | nil => cases hrun
  | other _ _ ih => exact ih hrun
  | run _ hdigits _ _ ih =>
    rcases List.mem_cons.1 hrun with rfl | hrun
    · exact hdigits
    · exact ih hrun

theorem ofDigits_eq_identifier {run : List Char} (h : ∀ c ∈ run, c.isDigit = true) :
    ofDigits run = identifier run := by
  have hall : run.all Char.isDigit = true := List.all_eq_true.2 h
  simp [ofDigits, identifier, hall]

/-! ## Arguments -/

theorem ofArgument_text {s : String} {runs : List (List Char)} (h : HasRuns s.toList runs) :
    ofArgument (.text s) = runs.map identifier := by
  rw [ofArgument, runs_of_hasRuns h]
  apply List.map_congr_left
  intro run hrun
  exact ofDigits_eq_identifier (isDigit_of_mem_run h hrun)

/-- What the arguments give is what is taken from them. -/
theorem flatMap_ofArgument_of_gives {args ids : List Json} (h : Gives args ids) :
    args.flatMap ofArgument = ids := by
  induction h with
  | nil => rfl
  | null _ ih => simpa [ofArgument] using ih
  | number n _ ih => simp [ofArgument, ih]
  | array items _ ih => simp [ofArgument, ih]
  | text hs _ ih => rw [List.flatMap_cons, ofArgument_text hs, ih]

end Elements

namespace Query

variable {κ : Type}

/-- The condition that the primary key is one of these values. -/
def elements (q : Query κ) (ids : List Json) : Condition :=
  .map [(q.column q.model.primaryKey, .list (ids.map .value))]

/-- What comes of asking for the condition. The limit `0` lets no condition be looked up. -/
def elementsOutcome (q : Query κ) (ids : List Json) : Except Fault Condition :=
  if q.schema.maxDepth = 0 then .error (.tooDeep elementsName 0) else .ok (q.elements ids)

theorem toDraft_elements (q : Query κ) (ids : List Json) :
    (q.elements ids).toDraft =
      .map [(q.column q.model.primaryKey, .list (ids.map .literal))] := by
  have hitems : ∀ values : List Json,
      Condition.toDrafts (values.map .value) = values.map .literal := by
    intro values
    induction values with
    | nil => rfl
    | cons value rest ih => simp [Condition.toDrafts, Condition.toDraft, ih]
  simp [elements, Condition.toDraft, Condition.toDraftEntries, hitems]

variable [Computed κ] {q : Query κ} {args ids : List Json}

/-- Unless the model has such a condition of its own, the definition is the condition with the
identifiers in the arguments. -/
theorem definition_elements (hown : q.model.conditions.has elementsName = false)
    (h : Elements.Gives args ids) :
    q.definition elementsName args q.token = .ok (q.elements ids).toDraft := by
  have hget : q.model.conditions.get? elementsName = none := by
    simpa [Dict.has] using hown
  rw [toDraft_elements, ← Elements.flatMap_ofArgument_of_gives h]
  simp [definition, hget, Elements.draft]

/-- On the levels below, the definition is what it is. -/
theorem outcomeOn_elements (hown : q.model.conditions.has elementsName = false)
    (h : Elements.Gives args ids) (limit room : Nat) :
    (Level.ofRoom limit room).outcomeOn q elementsName args = .ok (q.elements ids) := by
  unfold Level.outcomeOn
  rw [definition_elements hown h]
  show ((Level.ofRoom limit room).expand q (q.elements ids).toDraft).outcome = _
  rw [Level.expand_ofRoom]
  have hdata := (q.elements ids).data_toDraft
  unfold elements Condition.toDraft Draft.data at hdata
  unfold elements Condition.toDraft Draft.resolve
  rw [hdata]
  rfl

omit [Computed κ] in
theorem defines_elements (q : Query κ) : q.defines elementsName = true := by
  simp [defines]

/-- The condition of the query by its name. -/
theorem outcome_defined_elements (hown : q.model.conditions.has elementsName = false)
    (h : Elements.Gives args ids) :
    (Level.defined (Level.beneath q.schema.maxDepth q.schema.maxDepth) q elementsName
      args).outcome = some <$> q.elementsOutcome ids := by
  unfold elementsOutcome
  cases hlimit : q.schema.maxDepth with
  | zero =>
    unfold Level.defined
    rw [if_pos q.defines_elements, definition_elements hown h, Level.descend_of_none rfl, hlimit]
    rfl
  | succ room =>
    rw [Level.outcome_defined_of_some rfl q.defines_elements, outcomeOn_elements hown h]
    rfl

/-- The condition of the query by a token. -/
theorem outcome_find_elements (hown : q.model.conditions.has elementsName = false)
    {texts : List String} (hinline : ∀ text ∈ texts, Reference.IsInline text)
    (h : Elements.Gives (texts.map .text) ids) :
    (Level.find (Level.beneath q.schema.maxDepth q.schema.maxDepth) q
      (Reference.token ⟨elementsName, texts⟩)).outcome = some <$> q.elementsOutcome ids := by
  have hname : Text.IsName elementsName.toList := ⟨by decide, List.all_eq_true.1 (by decide)⟩
  have hparse : Reference.parse? (Reference.token ⟨elementsName, texts⟩) =
      some ⟨elementsName, texts⟩ := Reference.parse?_token hname hinline
  unfold elementsOutcome
  cases hlimit : q.schema.maxDepth with
  | zero =>
    have hrefers : (q.defines elementsName ||
        Reference.isRelation ⟨elementsName, texts⟩) = true := by
      rw [q.defines_elements, Bool.true_or]
    rw [Level.find_of_refers hparse hrefers, Level.descend_of_none rfl, hlimit]
    rfl
  | succ room =>
    rw [Level.outcome_find_of_some rfl hparse q.defines_elements]
    exact congrArg (some <$> ·) (outcomeOn_elements hown h _ _)

/-- However the identifiers are given, the condition has them all, in their order: as numbers, in an
array, in texts with anything but digits between them, or behind the name in a token. A run of
digits that is no number of 63 bits is there as a text, in its place. Without identifiers the
condition lets no row pass. -/
theorem elements_of_gives (q : Query κ) (hown : q.model.conditions.has elementsName = false) :
    (∀ args ids, Elements.Gives args ids →
      q.definition elementsName args q.token = .ok (q.elements ids).toDraft ∧
      (q.call "elemsCondition" args).outcome = .condition <$> q.elementsOutcome ids) ∧
    (∀ texts ids, (∀ text ∈ texts, Reference.IsInline text) →
      Elements.Gives (texts.map .text) ids →
      (q.expand (.name (Reference.token ⟨elementsName, texts⟩))).outcome =
        q.elementsOutcome ids) ∧
    (q.elements []).compile = .ok (some (.constant false)) := by
  refine ⟨?_, ?_, rfl⟩
  · intro args ids h
    refine ⟨definition_elements hown h, ?_⟩
    have hparse : Call.parse? "elemsCondition" = some ⟨.and, false, "elems", none, true⟩ := by
      decide
    have hdefined := outcome_defined_elements hown h
    rw [call_eq_dispatch, Level.outcome_dispatch_of_admitted hparse (Admission.ofGate_none args),
      Level.baseCondition_of_not_relation (by decide)]
    show (Level.defined _ q elementsName args).outcome >>= _ = _
    rw [hdefined]
    cases q.elementsOutcome ids <;> rfl
  · intro texts ids hinline h
    rw [expand_eq_resolve]
    exact Draft.outcome_resolve_name (outcome_find_elements hown hinline h)

end Query

namespace Samples

/-- A text with blanks around a number with leading zeros and one that is too large. -/
theorem hasRuns_mixed : Elements.HasRuns " 07; 9223372036854775808".toList
    ["07".toList, "9223372036854775808".toList] := by
  have hlarge : Elements.HasRuns ("9223372036854775808".toList ++ [])
      ["9223372036854775808".toList] :=
    .run (by decide) (List.all_eq_true.1 (by decide)) (by simp) .nil
  have hsmall : Elements.HasRuns ("07".toList ++ "; 9223372036854775808".toList)
      ["07".toList, "9223372036854775808".toList] :=
    .run (by decide) (List.all_eq_true.1 (by decide)) (by simp; decide)
      (.other (by decide) (.other (by decide) hlarge))
  exact .other (by decide) hsmall

/-- Identifiers in a text, with a number that is too large, before null and an array, and as
arguments in a token. -/
theorem elements_orders :
    (orders 32).model.conditions.has elementsName = false ∧
    ((orders 32).call "elemsCondition"
      [.text " 07; 9223372036854775808", .null, .array [int 3]]).outcome =
      .ok (.condition ((orders 32).elements [int 7, .text "9223372036854775808", int 3])) ∧
    ((orders 32).expand (.name "elems: 07; 9223372036854775808")).outcome =
      .ok ((orders 32).elements [int 7, .text "9223372036854775808"]) := by
  have hown : (orders 32).model.conditions.has elementsName = false := by decide
  obtain ⟨hcall, htoken, -⟩ := Query.elements_of_gives (orders 32) hown
  have hids : ["07".toList, "9223372036854775808".toList].map Elements.identifier =
      [int 7, .text "9223372036854775808"] := by
    rfl
  refine ⟨hown, ?_, ?_⟩
  · have hgives := Elements.Gives.text hasRuns_mixed (.null (.array [int 3] .nil))
    rw [(hcall _ _ hgives).2, hids]
    rfl
  · have hgives : Elements.Gives ([" 07; 9223372036854775808"].map .text) _ :=
      .text hasRuns_mixed .nil
    have hinline : ∀ text ∈ [" 07; 9223372036854775808"], Reference.IsInline text := by
      intro text htext
      cases List.mem_singleton.1 htext
      exact ⟨by decide, by decide⟩
    have houtcome := htoken _ _ hinline hgives
    rw [hids] at houtcome
    exact houtcome

end Samples

end Criteria
