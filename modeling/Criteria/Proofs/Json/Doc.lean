import Criteria.Json.Reader
import Criteria.Proofs.Json.Token
import Criteria.Proofs.Text

/-!
# Documents of a text

Main statements: a text that is written for a value holds one document, that of the value
(`Json.readAll_chars`), and a text whose documents are values may be followed by a blank and another
such text (`Json.readAll?_append`), but not by a blank that is none of JSON
(`Json.readAll?_append_of_isBlank`).
-/

namespace Criteria.Json

/-! ## The document of a value -/

mutual

/-- The document of a value as it is written. -/
def doc : Json → Doc
  | null => .null
  | bool b => .bool b
  | number n => .number n.numeral
  | text s => .text (some s)
  | array items => .array (itemDocs items) true
  | object fields => .object (fieldDocs fields) true

def itemDocs : List Json → List Doc
  | [] => []
  | x :: rest => doc x :: itemDocs rest

def fieldDocs : List (String × Json) → List (Key × Doc)
  | [] => []
  | (key, value) :: rest => (.ok key, doc value) :: fieldDocs rest

end

namespace Progress

/-- A value may come next. -/
def AwaitsItem (next : Next) : Prop := next = .item ∨ next = .itemOrEnd

def AwaitsKey (next : Next) : Prop := next = .key ∨ next = .keyOrEnd

/-- What a value leaves does not depend on what was expected. -/
theorem put_eq {frames : List Frame} {finished : List Doc} (next next' : Next) (d : Doc) :
    put ⟨frames, next, finished⟩ d = put ⟨frames, next', finished⟩ d := by
  cases frames with
  | nil => rfl
  | cons frame frames => cases frame <;> rfl

mutual

/-- The tokens of a value are read as its document. -/
theorem foldl_lexemes (v : Json) (frames : List Frame) (finished : List Doc) {next : Next}
    (h : AwaitsItem next) :
    v.lexemes.foldl step ⟨frames, next, finished⟩ = put ⟨frames, next, finished⟩ v.doc := by
  cases v with
  | null => rcases h with rfl | rfl <;> rfl
  | bool b => rcases h with rfl | rfl <;> rfl
  | number n => rcases h with rfl | rfl <;> rfl
  | text s => rcases h with rfl | rfl <;> rfl
  | array items =>
    have hopen : step ⟨frames, next, finished⟩ .openArray =
        ⟨.array [] :: frames, .itemOrEnd, finished⟩ := by
      rcases h with rfl | rfl <;> rfl
    rw [lexemes, List.cons_append, List.foldl_cons, hopen, List.foldl_append, doc]
    by_cases hne : items = []
    · subst hne
      exact put_eq _ _ _
    · rw [foldl_itemLexemes items hne [] frames finished (.inr rfl)]
      simp only [List.foldl_cons, List.foldl_nil, step, List.append_nil, List.reverse_reverse]
      exact put_eq _ _ _
  | object fields =>
    have hopen : step ⟨frames, next, finished⟩ .openObject =
        ⟨.object [] none :: frames, .keyOrEnd, finished⟩ := by
      rcases h with rfl | rfl <;> rfl
    rw [lexemes, List.cons_append, List.foldl_cons, hopen, List.foldl_append, doc]
    by_cases hne : fields = []
    · subst hne
      exact put_eq _ _ _
    · rw [foldl_fieldLexemes fields hne [] none frames finished (.inr rfl)]
      simp only [List.foldl_cons, List.foldl_nil, step, List.append_nil, List.reverse_reverse]
      exact put_eq _ _ _

theorem foldl_itemLexemes (items : List Json) (hne : items ≠ []) (done : List Doc)
    (frames : List Frame) (finished : List Doc) {next : Next} (h : AwaitsItem next) :
    (itemLexemes items).foldl step ⟨.array done :: frames, next, finished⟩ =
      ⟨.array ((itemDocs items).reverse ++ done) :: frames, .separator, finished⟩ := by
  cases items with
  | nil => exact absurd rfl hne
  | cons x rest =>
    cases rest with
    | nil => exact foldl_lexemes x (.array done :: frames) finished h
    | cons y rest =>
      rw [itemLexemes, List.foldl_append, foldl_lexemes x _ finished h, List.foldl_cons]
      have hrest := foldl_itemLexemes (y :: rest) (List.cons_ne_nil y rest) (x.doc :: done) frames
        finished (.inl rfl)
      refine hrest.trans ?_
      simp [itemDocs]

theorem foldl_fieldLexemes (fields : List (String × Json)) (hne : fields ≠ [])
    (done : List (Key × Doc)) (key : Option Key) (frames : List Frame) (finished : List Doc)
    {next : Next} (h : AwaitsKey next) :
    (fieldLexemes fields).foldl step ⟨.object done key :: frames, next, finished⟩ =
      ⟨.object ((fieldDocs fields).reverse ++ done) none :: frames, .separator, finished⟩ := by
  cases fields with
  | nil => exact absurd rfl hne
  | cons field rest =>
    obtain ⟨name, value⟩ := field
    have hkey : step (step ⟨.object done key :: frames, next, finished⟩ (.text (some name)))
        .colon = ⟨.object done (some (.ok name)) :: frames, .item, finished⟩ := by
      rcases h with rfl | rfl <;> rfl
    cases rest with
    | nil =>
      rw [fieldLexemes, List.foldl_cons, List.foldl_cons, hkey,
        foldl_lexemes value _ finished (.inl rfl)]
      rfl
    | cons other rest =>
      rw [fieldLexemes, List.cons_append, List.cons_append, List.foldl_cons, List.foldl_cons,
        hkey, List.foldl_append, foldl_lexemes value _ finished (.inl rfl), List.foldl_cons]
      have hrest := foldl_fieldLexemes (other :: rest) (List.cons_ne_nil other rest)
        ((.ok name, value.doc) :: done) none frames finished (.inl rfl)
      refine hrest.trans ?_
      simp [fieldDocs]

end

end Progress

/-- The text of a value holds the document of the value. -/
theorem readAll_chars (v : Json) : Doc.readAll v.chars = ([v.doc], true) := by
  have hfold : v.lexemes.foldl Progress.step .start = ⟨[], .item, [v.doc]⟩ :=
    Progress.foldl_lexemes v [] [] (.inl rfl)
  rw [Doc.readAll, tokens_chars, hfold]
  rfl

/-! ## Texts one after another -/

section

variable {mode : Mode} {b c : Char}

theorem start_of_isSpace (h : isSpace c = true) : start c = ([], .between) := by
  unfold start
  rw [if_pos h]

theorem isDelimiter_of_isSpace (h : isSpace c = true) : isDelimiter c = true := by
  simp [isDelimiter, h]

/-- Where the text stops being JSON there is a bad token. -/
def BadIfFailed (result : List Token × Mode) : Prop := result.2 = .failed → .bad ∈ result.1

theorem badIfFailed_of_ne {tokens : List Token} (h : mode ≠ .failed) :
    BadIfFailed (tokens, mode) :=
  fun hfailed => absurd hfailed h

theorem badIfFailed_start (c : Char) : BadIfFailed (start c) := by
  unfold start
  split
  · exact badIfFailed_of_ne nofun
  · split
    case h_12 =>
      split
      · exact badIfFailed_of_ne nofun
      · simp [BadIfFailed]
    all_goals exact badIfFailed_of_ne nofun

theorem badIfFailed_finishBefore (token : Token) (c : Char) :
    BadIfFailed (finishBefore token c) := by
  unfold finishBefore
  split
  · intro hfailed
    exact List.mem_cons_of_mem token (badIfFailed_start c hfailed)
  · simp [BadIfFailed]

theorem badIfFailed_step (hmode : mode ≠ .failed) (c : Char) : BadIfFailed (step mode c) := by
  unfold step
  split
  · exact badIfFailed_start _
  · exact badIfFailed_finishBefore _ _
  · split
    · exact badIfFailed_of_ne nofun
    · simp [BadIfFailed]
  · split
    · exact badIfFailed_of_ne nofun
    · split
      · exact badIfFailed_finishBefore _ _
      · simp [BadIfFailed]
  · split
    · exact badIfFailed_of_ne nofun
    · split
      · exact badIfFailed_of_ne nofun
      · split
        · simp [BadIfFailed]
        · exact badIfFailed_of_ne nofun
  · split
    · exact badIfFailed_of_ne nofun
    · split
      · exact badIfFailed_of_ne nofun
      · simp [BadIfFailed]
  · split
    · split
      · exact badIfFailed_of_ne nofun
      · exact badIfFailed_of_ne nofun
    · simp [BadIfFailed]
  · exact absurd rfl hmode

/-- A blank ends what may end there, so behind it the text is read as if it began there. -/
theorem tokensFrom_append_space (hmode : mode ≠ .failed) {s : List Char}
    (hs : .bad ∉ tokensFrom mode s) (hb : isSpace b = true) (rest : List Char) :
    tokensFrom mode (s ++ b :: rest) = tokensFrom mode s ++ tokensFrom .between rest := by
  induction s generalizing mode with
  | nil =>
    rw [List.nil_append]
    cases mode with
    | between =>
      rw [tokensFrom_cons, step, start_of_isSpace hb]
      rfl
    | word left token =>
      cases left with
      | nil =>
        rw [tokensFrom_word token (closes_cons (isDelimiter_of_isSpace hb) rest), tokensFrom_cons,
          step, start_of_isSpace hb]
        rfl
      | cons letter left => exact absurd List.mem_cons_self hs
    | numeral stage n =>
      cases hend : stage.mayEnd with
      | true =>
        rw [tokensFrom_numeral_end hend n (closes_cons (isDelimiter_of_isSpace hb) rest),
          tokensFrom_cons, step, start_of_isSpace hb, tokensFrom, finish, hend]
        rfl
      | false =>
        rw [tokensFrom, finish, hend] at hs
        exact absurd List.mem_cons_self hs
    | text units escape => exact absurd List.mem_cons_self hs
    | failed => exact absurd rfl hmode
  | cons c s ih =>
    rw [tokensFrom_cons, List.mem_append, not_or] at hs
    rw [List.cons_append, tokensFrom_cons, tokensFrom_cons, List.append_assoc]
    rw [ih (fun hfailed => hs.1 (badIfFailed_step hmode c hfailed)) hs.2]

/-! ## Blanks that JSON does not know -/

theorem ne_of_isBlank {d : Char} (hc : Text.isBlank c = true) (hd : Text.isBlank d = false) :
    c ≠ d := by
  rintro rfl
  rw [hc] at hd
  cases hd

theorem isDigit_of_isBlank (hc : Text.isBlank c = true) : c.isDigit = false := by
  refine Bool.eq_false_iff.2 fun hdigit => ?_
  rw [Text.isBlank_of_isDigit hdigit] at hc
  cases hc

/-- No numeral goes on with a blank. -/
theorem extend_of_isBlank (hc : Text.isBlank c = true) (stage : NumeralStage) (n : Numeral) :
    extend stage n c = none := by
  have hdigit := isDigit_of_isBlank hc
  have hzero : c ≠ '0' := ne_of_isBlank hc rfl
  have hpoint : c ≠ '.' := ne_of_isBlank hc rfl
  have hmark : ¬ (c = 'e' ∨ c = 'E') := by
    rintro (h | h)
    · exact ne_of_isBlank hc rfl h
    · exact ne_of_isBlank hc rfl h
  have hplus : c ≠ '+' := ne_of_isBlank hc rfl
  have hminus : c ≠ '-' := ne_of_isBlank hc rfl
  cases stage <;> simp [extend, hdigit, hzero, hpoint, hmark, hplus, hminus]

theorem start_of_isBlank (hc : Text.isBlank c = true) (hspace : isSpace c = false) :
    start c = ([.bad], .failed) := by
  unfold start
  rw [if_neg (by simp [hspace])]
  split
  case h_12 => rw [extend_of_isBlank hc]
  all_goals exact absurd hc (by decide)

theorem isDelimiter_of_isBlank (hc : Text.isBlank c = true) (hspace : isSpace c = false) :
    isDelimiter c = false := by
  rw [isDelimiter, hspace, Bool.false_or]
  refine Bool.eq_false_iff.2 fun hmem => ?_
  have hmarks : ∀ d ∈ ['"', '[', ']', '\x7b', '\x7d', ',', ':'], (!Text.isBlank d) = true :=
    List.all_eq_true.1 (by decide)
  have hvisible := hmarks c (List.contains_iff_mem.1 hmem)
  rw [hc] at hvisible
  cases hvisible

/-- Where a text may end, such a blank cannot stand. -/
theorem bad_mem_step (hmode : mode ≠ .failed) (hend : .bad ∉ finish mode)
    (hc : Text.isBlank c = true) (hspace : isSpace c = false) : .bad ∈ (step mode c).1 := by
  have hfinish : ∀ token, .bad ∈ (finishBefore token c).1 := by
    intro token
    unfold finishBefore
    simp [isDelimiter_of_isBlank hc hspace]
  cases mode with
  | between =>
    rw [step, start_of_isBlank hc hspace]
    exact List.mem_cons_self
  | word left token =>
    cases left with
    | nil => exact hfinish token
    | cons letter left => exact absurd List.mem_cons_self hend
  | numeral stage n =>
    rw [step, extend_of_isBlank hc]
    dsimp only
    split
    · exact hfinish _
    · exact List.mem_cons_self
  | text units escape => exact absurd List.mem_cons_self hend
  | failed => exact absurd rfl hmode

theorem bad_mem_tokensFrom_append (hmode : mode ≠ .failed) {s : List Char}
    (hs : .bad ∉ tokensFrom mode s) (hc : Text.isBlank c = true) (hspace : isSpace c = false)
    (rest : List Char) : .bad ∈ tokensFrom mode (s ++ c :: rest) := by
  induction s generalizing mode with
  | nil =>
    rw [List.nil_append, tokensFrom_cons]
    exact List.mem_append_left _ (bad_mem_step hmode hs hc hspace)
  | cons d s ih =>
    rw [tokensFrom_cons, List.mem_append, not_or] at hs
    rw [List.cons_append, tokensFrom_cons]
    exact List.mem_append_right _
      (ih (fun hfailed => hs.1 (badIfFailed_step hmode d hfailed)) hs.2)

end

namespace Progress

variable {p : Progress}

theorem putKey_nothing (p : Progress) (key : Key) :
    (p.putKey key .nothing).next = .nothing := by
  unfold putKey
  split <;> rfl

/-- Behind a bad token nothing is read. -/
theorem step_bad (p : Progress) : (p.step .bad).next = .nothing := by
  obtain ⟨frames, next, finished⟩ := p
  cases next with
  | key => exact putKey_nothing _ _
  | keyOrEnd => exact putKey_nothing _ _
  | _ => rfl

theorem step_of_nothing (h : p.next = .nothing) (token : Token) :
    (p.step token).next = .nothing := by
  unfold step
  rw [h]
  rfl

theorem foldl_of_nothing (h : p.next = .nothing) (tokens : List Token) :
    (tokens.foldl step p).next = .nothing := by
  induction tokens generalizing p with
  | nil => exact h
  | cons token tokens ih => exact ih (step_of_nothing h token)

theorem foldl_of_bad_mem {tokens : List Token} (h : .bad ∈ tokens) (p : Progress) :
    (tokens.foldl step p).next = .nothing := by
  obtain ⟨before, behind, rfl⟩ := List.append_of_mem h
  rw [List.foldl_append, List.foldl_cons]
  exact foldl_of_nothing (step_bad _) behind

/-- The progress behind documents that were finished before. -/
def behind (docs : List Doc) (p : Progress) : Progress :=
  { p with finished := p.finished ++ docs.reverse }

section

variable (docs : List Doc) (p : Progress)

theorem put_behind (d : Doc) : (p.behind docs).put d = (p.put d).behind docs := by
  obtain ⟨frames, next, finished⟩ := p
  cases frames with
  | nil => rfl
  | cons frame frames => cases frame <;> rfl

theorem putKey_behind (key : Key) (next : Next) :
    (p.behind docs).putKey key next = (p.putKey key next).behind docs := by
  obtain ⟨frames, _, finished⟩ := p
  cases frames with
  | nil => rfl
  | cons frame frames => cases frame <;> rfl

theorem closeArray_behind (h : p.next = .itemOrEnd ∨ p.next = .separator) :
    (p.behind docs).step .closeArray = (p.step .closeArray).behind docs := by
  obtain ⟨frames, next, finished⟩ := p
  cases frames with
  | nil => rcases h with rfl | rfl <;> rfl
  | cons frame frames =>
    cases frame with
    | array items => rcases h with rfl | rfl <;> exact put_behind docs ⟨frames, _, finished⟩ _
    | object fields key => rcases h with rfl | rfl <;> rfl

theorem closeObject_behind (h : p.next = .keyOrEnd ∨ p.next = .separator) :
    (p.behind docs).step .closeObject = (p.step .closeObject).behind docs := by
  obtain ⟨frames, next, finished⟩ := p
  cases frames with
  | nil => rcases h with rfl | rfl <;> rfl
  | cons frame frames =>
    cases frame with
    | array items => rcases h with rfl | rfl <;> rfl
    | object fields key =>
      rcases h with rfl | rfl <;> exact put_behind docs ⟨frames, _, finished⟩ _

theorem step_behind (token : Token) :
    (p.behind docs).step token = (p.step token).behind docs := by
  obtain ⟨frames, next, finished⟩ := p
  cases next with
  | item => cases token <;> first | rfl | exact put_behind docs _ _
  | itemOrEnd =>
    cases token with
    | closeArray => exact closeArray_behind docs _ (.inl rfl)
    | _ => first | rfl | exact put_behind docs _ _
  | key =>
    cases token with
    | text s => cases s <;> exact putKey_behind docs _ _ _
    | _ => exact putKey_behind docs _ _ _
  | keyOrEnd =>
    cases token with
    | text s => cases s <;> exact putKey_behind docs _ _ _
    | closeObject => exact closeObject_behind docs _ (.inl rfl)
    | _ => exact putKey_behind docs _ _ _
  | colon => cases token <;> rfl
  | separator =>
    cases token with
    | comma =>
      cases frames with
      | nil => rfl
      | cons frame frames => cases frame <;> rfl
    | closeArray => exact closeArray_behind docs _ (.inr rfl)
    | closeObject => exact closeObject_behind docs _ (.inr rfl)
    | _ => rfl
  | nothing => rfl

end

theorem foldl_behind (docs : List Doc) (tokens : List Token) (p : Progress) :
    tokens.foldl step (p.behind docs) = (tokens.foldl step p).behind docs := by
  induction tokens generalizing p with
  | nil => rfl
  | cons token tokens ih => rw [List.foldl_cons, List.foldl_cons, step_behind, ih]

theorem finish_eq_iff {docs : List Doc} :
    p.finish = (docs, true) ↔ p = ⟨[], .item, docs.reverse⟩ := by
  obtain ⟨frames, next, finished⟩ := p
  unfold finish
  constructor
  · intro h
    obtain ⟨hdocs, hend⟩ := Prod.mk.inj h
    simp only [Bool.and_eq_true, List.isEmpty_iff, beq_iff_eq] at hend
    obtain ⟨rfl, rfl⟩ := hend
    rw [← hdocs]
    simp [closeOff]
  · intro h
    cases h
    simp [closeOff]

end Progress

theorem bad_not_mem_tokens {s : List Char} {docs : List Doc} (h : Doc.readAll s = (docs, true)) :
    .bad ∉ tokens s := by
  intro hbad
  have hnext := Progress.foldl_of_bad_mem hbad .start
  rw [Progress.finish_eq_iff.1 h] at hnext
  cases hnext

/-- The documents of a text, and behind a blank those of another one. -/
theorem Doc.readAll_append {s rest : List Char} {b : Char} {docs docs' : List Doc}
    (hs : Doc.readAll s = (docs, true)) (hb : isSpace b = true)
    (hrest : Doc.readAll rest = (docs', true)) :
    Doc.readAll (s ++ b :: rest) = (docs ++ docs', true) := by
  have hfold := Progress.finish_eq_iff.1 hs
  have htokens : tokens (s ++ b :: rest) = tokens s ++ tokens rest :=
    tokensFrom_append_space (by decide) (bad_not_mem_tokens hs) hb rest
  refine Progress.finish_eq_iff.2 ?_
  calc (tokens (s ++ b :: rest)).foldl Progress.step .start
    _ = (tokens rest).foldl Progress.step (Progress.start.behind docs) := by
      rw [htokens, List.foldl_append, hfold]
      rfl
    _ = ((tokens rest).foldl Progress.step .start).behind docs := Progress.foldl_behind _ _ _
    _ = ⟨[], .item, (docs ++ docs').reverse⟩ := by
      rw [Progress.finish_eq_iff.1 hrest, List.reverse_append]
      rfl

theorem ofItems?_append {room : Nat} {docs docs' : List Doc} {values values' : List Json}
    (h : ofItems? room docs = some values) (h' : ofItems? room docs' = some values') :
    ofItems? room (docs ++ docs') = some (values ++ values') := by
  induction docs generalizing values with
  | nil =>
    cases h
    exact h'
  | cons d docs ih =>
    obtain ⟨x, hx, hrest⟩ := Option.bind_eq_some_iff.1 h
    obtain ⟨xs, hxs, hvalues⟩ := Option.bind_eq_some_iff.1 hrest
    cases hvalues
    rw [List.cons_append, ofItems?, hx]
    show (ofItems? room (docs ++ docs') >>= fun xs => pure (x :: xs)) = _
    rw [ih hxs]
    rfl

section

variable {room : Nat} {s rest : List Char} {b : Char} {values values' : List Json}

theorem readAll?_eq_some_iff : readAll? room s = some values ↔
    ∃ docs, Doc.readAll s = (docs, true) ∧ ofItems? room docs = some values := by
  unfold readAll?
  constructor
  · intro h
    split at h
    · next docs hdocs => exact ⟨docs, hdocs, h⟩
    · cases h
  · rintro ⟨docs, hdocs, hvalues⟩
    rw [hdocs]
    exact hvalues

/-- The values of a text, and behind a blank those of another one. -/
theorem readAll?_append (hs : readAll? room s = some values) (hb : isSpace b = true)
    (hrest : readAll? room rest = some values') :
    readAll? room (s ++ b :: rest) = some (values ++ values') := by
  obtain ⟨docs, hdocs, hvalues⟩ := readAll?_eq_some_iff.1 hs
  obtain ⟨docs', hdocs', hvalues'⟩ := readAll?_eq_some_iff.1 hrest
  exact readAll?_eq_some_iff.2
    ⟨docs ++ docs', Doc.readAll_append hdocs hb hdocs', ofItems?_append hvalues hvalues'⟩

/-- A blank that is none of JSON can neither stand in front of values nor behind them. -/
theorem readAll?_append_of_isBlank {c : Char} (hs : readAll? room s = some values)
    (hc : Text.isBlank c = true) (hspace : isSpace c = false) (rest : List Char) :
    readAll? room (s ++ c :: rest) = none := by
  obtain ⟨docs, hdocs, -⟩ := readAll?_eq_some_iff.1 hs
  refine Option.eq_none_iff_forall_ne_some.2 fun values' h => ?_
  obtain ⟨docs', hdocs', -⟩ := readAll?_eq_some_iff.1 h
  exact bad_not_mem_tokens hdocs'
    (bad_mem_tokensFrom_append (by decide) (bad_not_mem_tokens hdocs) hc hspace rest)

/-- Blanks in front are passed over. -/
theorem readAll?_spaces_append {blanks : List Char} (h : ∀ c ∈ blanks, isSpace c = true)
    (room : Nat) (s : List Char) : readAll? room (blanks ++ s) = readAll? room s := by
  have htokens : tokens (blanks ++ s) = tokens s := by
    induction blanks with
    | nil => rfl
    | cons c blanks ih =>
      obtain ⟨hc, hblanks⟩ := List.forall_mem_cons.1 h
      rw [List.cons_append, tokens, tokensFrom_cons, step, start_of_isSpace hc]
      exact ih hblanks
  unfold readAll? Doc.readAll
  rw [htokens]

theorem readAll?_of_read? {text : String} {value : Json} (h : read? room text = some value) :
    readAll? room text.toList = some [value] := by
  unfold read? at h
  split at h
  · next found hfound =>
    cases h
    exact hfound
  · cases h

end

end Criteria.Json
