import Criteria.Console
import Criteria.Proofs.Json.Doc
import Criteria.Proofs.Text

/-!
# Lines of the console

A line is written as a model, a method and the texts of values, with blanks between the parts.
Around the line and behind the model any blanks are meant, in front of the values those of JSON: the
space, the tab, the line feed and the carriage return. Main statements: such a line is read as it
was written exactly if one blank stands between the model and the method
(`Command.parse_eq_ok_iff_length`), for every blank there ends a part, so that behind a second one
the method is read as empty, and what follows as values. Any other blank in front of a value is
refused (`Command.parse_of_isBlank`); only the one that ends the method may be any.
-/

namespace Criteria

theorem Text.isBlank_of_isSpace {c : Char} (h : Json.isSpace c = true) : isBlank c = true := by
  simp only [Json.isSpace, Bool.or_eq_true, beq_iff_eq] at h
  rcases h with ((rfl | rfl) | rfl) | rfl <;> decide

/-! ## Texts of values -/

namespace Json

/-- The text holds the value and nothing else, and does not end in a blank. -/
structure IsTextOf (text : List Char) (value : Json) : Prop where
  reads : readAll? maxNesting text = some [value]
  ends : Text.EndsVisibly text

theorem IsTextOf.ne_nil {text : List Char} {value : Json} (h : IsTextOf text value) :
    text ≠ [] := by
  rintro rfl
  cases h.reads

/-- A numeral has no blanks. -/
theorem isBlank_of_mem_numeral {n : Numeral} (hn : n.IsWritten) {c : Char} (hc : c ∈ n.chars) :
    Text.isBlank c = false := by
  rcases hn.mem_chars hc with hdigit | hmark
  · exact Text.isBlank_of_isDigit hdigit
  · simp only [List.mem_cons, List.not_mem_nil, or_false] at hmark
    rcases hmark with rfl | rfl | rfl | rfl <;> decide

/-- The text of a value is one if the value is read back from it. -/
theorem isTextOf_chars {value : Json} (h : read? maxNesting value.compact = some value) :
    IsTextOf value.chars value := by
  have hreads := readAll?_of_read? h
  rw [compact, String.toList_ofList] at hreads
  refine ⟨hreads, ?_⟩
  have hlast : ∀ {s : List Char} {c : Char}, Text.isBlank c = false →
      Text.EndsVisibly (s ++ [c]) := by
    intro s c hc
    refine Text.EndsVisibly.append ?_ (List.cons_ne_nil c []) s
    exact Text.endsVisibly_of_forall (by simpa using hc)
  cases value with
  | null => exact hlast (s := ['n', 'u', 'l']) rfl
  | bool b =>
    cases b with
    | true => exact hlast (s := ['t', 'r', 'u']) rfl
    | false => exact hlast (s := ['f', 'a', 'l', 's']) rfl
  | number n =>
    rw [chars, Number.json_eq_chars]
    exact Text.endsVisibly_of_forall fun c hc => isBlank_of_mem_numeral n.isWritten_numeral hc
  | text s => exact hlast rfl
  | array items => exact hlast rfl
  | object fields => exact hlast rfl

end Json

namespace Command

/-! ## Rows of values -/

/-- Values as they are written behind a method, each of them behind blanks of JSON. -/
inductive IsRow : List Char → List Json → Prop
  | nil : IsRow [] []
  | cons {blanks text row : List Char} {value : Json} {values : List Json} (hne : blanks ≠ [])
      (hblanks : ∀ c ∈ blanks, Json.isSpace c = true) (htext : Json.IsTextOf text value)
      (hrow : IsRow row values) : IsRow (blanks ++ text ++ row) (value :: values)

namespace IsRow

variable {row : List Char} {values : List Json}

/-- A row ends in a value, or with what stands before it. -/
theorem endsVisibly (h : IsRow row values) {s : List Char} (hs : Text.EndsVisibly s) :
    Text.EndsVisibly (s ++ row) := by
  induction h generalizing s with
  | nil => simpa using hs
  | cons hne hblanks htext hrow ih =>
    rw [← List.append_assoc, ← List.append_assoc]
    exact ih (htext.ends.append htext.ne_nil _)

/-- Behind its first blank a row is read as its values. -/
theorem reads (h : IsRow row values) : row = [] ∧ values = [] ∨ ∃ c rest, row = c :: rest ∧
    Json.isSpace c = true ∧ Json.readAll? Json.maxNesting rest = some values := by
  induction h with
  | nil => exact .inl ⟨rfl, rfl⟩
  | @cons blanks text row value values hne hblanks htext hrow ih =>
    have hreads : Json.readAll? Json.maxNesting (text ++ row) = some (value :: values) := by
      rcases ih with ⟨rfl, rfl⟩ | ⟨c, rest, rfl, hc, hrest⟩
      · rw [List.append_nil]
        exact htext.reads
      · exact Json.readAll?_append htext.reads hc hrest
    obtain ⟨c, blanks, rfl⟩ := List.exists_cons_of_ne_nil hne
    obtain ⟨hc, hblanks⟩ := List.forall_mem_cons.1 hblanks
    refine .inr ⟨c, blanks ++ (text ++ row), by simp, hc, ?_⟩
    rw [Json.readAll?_spaces_append hblanks, hreads]

end IsRow

/-! ## Lines -/

/-- A part of a line up to a blank. -/
structure IsWord (s : List Char) : Prop where
  ne_nil : s ≠ []
  visible : ∀ c ∈ s, Text.isBlank c = false

theorem isWord_iff {s : List Char} :
    IsWord s ↔ s ≠ [] ∧ s.all (fun c => !Text.isBlank c) = true := by
  simp only [List.all_eq_true, Bool.not_eq_true']
  exact ⟨fun h => ⟨h.ne_nil, h.visible⟩, fun h => ⟨h.1, h.2⟩⟩

instance (s : List Char) : Decidable (IsWord s) := decidable_of_iff _ isWord_iff.symm

theorem splitBlank_of_visible {s : List Char} (h : ∀ c ∈ s, Text.isBlank c = false) :
    splitBlank s = (s, none) := by
  have hvisible : ∀ c ∈ s, (!Text.isBlank c) = true := fun c hmem => by simp [h c hmem]
  have hdrop : (s.dropWhile fun c => !Text.isBlank c) = [] := by
    simpa using @List.dropWhile_append_of_pos _ _ s [] hvisible
  unfold splitBlank
  rw [hdrop]

theorem splitBlank_append {s : List Char} (h : ∀ c ∈ s, Text.isBlank c = false) {c : Char}
    (hc : Text.isBlank c = true) (rest : List Char) :
    splitBlank (s ++ c :: rest) = (s, some rest) := by
  have hvisible : ∀ c ∈ s, (!Text.isBlank c) = true := fun c hmem => by simp [h c hmem]
  have hdrop : ((s ++ c :: rest).dropWhile fun c => !Text.isBlank c) = c :: rest := by
    rw [List.dropWhile_append_of_pos hvisible]
    simp [hc]
  have htake : ((s ++ c :: rest).takeWhile fun c => !Text.isBlank c) = s := by
    rw [List.takeWhile_append_of_pos hvisible]
    simp [hc]
  unfold splitBlank
  rw [hdrop, htake]

/-- What is read from a line that begins with a model and a blank. -/
theorem parse_eq_ok_iff {line : String} {model rest : List Char} {b : Char}
    (hline : Text.trim line.toList = model ++ b :: rest) (hmodel : IsWord model)
    (hb : Text.isBlank b = true) {c : Command} :
    parse line = .ok c ↔ c.model = String.ofList model ∧
      c.method = String.ofList (splitBlank rest).1 ∧
      Json.readAll? Json.maxNesting ((splitBlank rest).2.getD []) = some c.args := by
  obtain ⟨first, others, rfl⟩ := List.exists_cons_of_ne_nil hmodel.ne_nil
  unfold parse
  rw [hline, splitBlank_append hmodel.visible hb]
  obtain ⟨cmodel, cmethod, cargs⟩ := c
  cases hargs : Json.readAll? Json.maxNesting ((splitBlank rest).2.getD []) with
  | none => simp [hargs]
  | some args =>
    simp only [hargs, Except.ok.injEq, mk.injEq, Option.some.injEq]
    simp only [eq_comm]

/-- Behind the blank that ends the method, a blank that is none of JSON is refused, whatever values
stand before it. -/
theorem parse_of_isBlank {line : String} {model method read rest : List Char} {b b' c : Char}
    {values : List Json}
    (hline : Text.trim line.toList = model ++ b :: (method ++ b' :: (read ++ c :: rest)))
    (hmodel : IsWord model) (hb : Text.isBlank b = true) (hmethod : IsWord method)
    (hb' : Text.isBlank b' = true) (hread : Json.readAll? Json.maxNesting read = some values)
    (hc : Text.isBlank c = true) (hspace : Json.isSpace c = false) :
    parse line = .error .badArguments := by
  have hargs := Json.readAll?_append_of_isBlank hread hc hspace rest
  obtain ⟨first, others, rfl⟩ := List.exists_cons_of_ne_nil hmodel.ne_nil
  unfold parse
  rw [hline, splitBlank_append hmodel.visible hb]
  simp only [splitBlank_append hmethod.visible hb', Option.getD_some, hargs]

-- a no-break space in front of a value
example : parse "Post popularIf \u00A0true" = .error .badArguments := by rfl

section

variable {before model method row after : List Char} {values : List Json}

/-- Blanks before and after a line do not count. -/
theorem trim_line (gap : List Char) (hbefore : ∀ c ∈ before, Text.isBlank c = true)
    (hmodel : IsWord model) (hmethod : IsWord method) (hrow : IsRow row values)
    (hafter : ∀ c ∈ after, Text.isBlank c = true) :
    Text.trim (before ++ (model ++ (gap ++ (method ++ row))) ++ after) =
      model ++ (gap ++ (method ++ row)) := by
  have hend : Text.EndsVisibly (model ++ (gap ++ (method ++ row))) := by
    have hword := (Text.endsVisibly_of_forall hmethod.visible).append hmethod.ne_nil (model ++ gap)
    simpa using hrow.endsVisibly hword
  obtain ⟨c, rest, rfl⟩ := List.exists_cons_of_ne_nil hmodel.ne_nil
  rw [Text.trim_append_of_blank hbefore hafter]
  exact Text.trim_of_visible (hmodel.visible c List.mem_cons_self) hend

/-- Behind one blank a method and a row are read as they were written. -/
theorem reads_method (hmethod : IsWord method) (hrow : IsRow row values) :
    (splitBlank (method ++ row)).1 = method ∧
      Json.readAll? Json.maxNesting ((splitBlank (method ++ row)).2.getD []) = some values := by
  rcases hrow.reads with ⟨rfl, rfl⟩ | ⟨c, rest, rfl, hc, hrest⟩
  · rw [List.append_nil, splitBlank_of_visible hmethod.visible]
    exact ⟨rfl, rfl⟩
  · rw [splitBlank_append hmethod.visible (Text.isBlank_of_isSpace hc)]
    exact ⟨rfl, hrest⟩

/-- A line in its parts, with blanks of JSON in front of the values, is read as it was written
exactly if one blank stands behind the model. -/
theorem parse_eq_ok_iff_length {gap : List Char} (hbefore : ∀ c ∈ before, Text.isBlank c = true)
    (hmodel : IsWord model) (hne : gap ≠ []) (hgap : ∀ c ∈ gap, Text.isBlank c = true)
    (hmethod : IsWord method) (hrow : IsRow row values)
    (hafter : ∀ c ∈ after, Text.isBlank c = true) :
    parse (String.ofList (before ++ (model ++ (gap ++ (method ++ row))) ++ after)) =
      .ok ⟨String.ofList model, String.ofList method, values⟩ ↔ gap.length = 1 := by
  have htrim := trim_line gap hbefore hmodel hmethod hrow hafter
  obtain ⟨b, gap, rfl⟩ := List.exists_cons_of_ne_nil hne
  obtain ⟨hb, hgap⟩ := List.forall_mem_cons.1 hgap
  rw [List.cons_append] at htrim ⊢
  rw [← String.toList_ofList (l := before ++ _ ++ after)] at htrim
  rw [parse_eq_ok_iff htrim hmodel hb]
  cases gap with
  | nil =>
    obtain ⟨hfirst, hrest⟩ := reads_method hmethod hrow
    rw [List.nil_append, hfirst]
    exact ⟨fun _ => rfl, fun _ => ⟨rfl, rfl, hrest⟩⟩
  | cons b' gap =>
    -- the second blank ends the method before it begins
    have hsplit : splitBlank (b' :: (gap ++ (method ++ row))) =
        ([], some (gap ++ (method ++ row))) :=
      splitBlank_append (s := []) (by simp) (hgap b' List.mem_cons_self) _
    rw [List.cons_append, hsplit]
    have hmethodEmpty : String.ofList method ≠ String.ofList [] :=
      fun h => hmethod.ne_nil (String.ofList_injective h)
    simp [hmethodEmpty]

end

end Command

namespace Samples

/-- A line with blanks around it and between its values. -/
theorem parse_popularIf : Command.parse " Post popularIf \ttrue  \"1 0\" " =
    .ok ⟨"Post", "popularIf", [.bool true, .text "1 0"]⟩ := by
  have htrue : Json.IsTextOf (Json.bool true).chars (.bool true) := Json.isTextOf_chars rfl
  have htext : Json.IsTextOf (Json.text "1 0").chars (.text "1 0") := Json.isTextOf_chars rfl
  have hsecond : Command.IsRow ([' ', ' '] ++ (Json.text "1 0").chars ++ []) [.text "1 0"] :=
    .cons (List.cons_ne_nil _ _) (List.all_eq_true.1 (by decide)) htext .nil
  have hrow : Command.IsRow ([' ', '\t'] ++ (Json.bool true).chars ++
      ([' ', ' '] ++ (Json.text "1 0").chars ++ [])) [.bool true, .text "1 0"] :=
    .cons (List.cons_ne_nil _ _) (List.all_eq_true.1 (by decide)) htrue hsecond
  have hmodel : Command.IsWord ['P', 'o', 's', 't'] := by decide
  have hmethod : Command.IsWord ['p', 'o', 'p', 'u', 'l', 'a', 'r', 'I', 'f'] := by decide
  have hblank : ∀ c ∈ [' '], Text.isBlank c = true := List.all_eq_true.1 (by decide)
  exact (Command.parse_eq_ok_iff_length hblank hmodel (List.cons_ne_nil _ _) hblank hmethod hrow
    hblank).2 rfl

/-- Behind two blanks a method is read as an argument. -/
theorem parse_active_behind_two_blanks : Command.parse "Post  active" = .error .badArguments := by
  rfl

end Samples

end Criteria
