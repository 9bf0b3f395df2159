import Criteria.Proofs.Word

/-!
# Segmentations

A name is cut in front of every upper-case letter, and nowhere else. `Word.IsSegmentation` says so
of any words, by positions of the text: they are consecutive slices of it, from its beginning to its
end, of which each but the first begins with an upper-case letter, and no other upper-case letter
stands in them. `Word.readFrom` goes through the bytes of a text, and would be lost within a
character or behind the end.

Main statement: it never is. What it reads are the words of the text, and these are the only
segmentation that there is (`Word.splits_uniquely`).
-/

namespace Criteria.Word

variable {s : String} {front rest piece : List Char} {ps : List (List Char)}

/-! ## Cut pieces -/

/-- Pieces that are cut in front of every upper-case letter and nowhere else. -/
structure IsCut (ps : List (List Char)) : Prop where
  ne_nil : ∀ piece ∈ ps, piece ≠ []
  inside : ∀ piece ∈ ps, ∀ c ∈ piece.tail, Text.isUpper c = false
  begins : ∀ piece ∈ ps.tail, ∀ c ∈ piece.head?, Text.isUpper c = true

theorem isCut_cons_iff :
    IsCut (piece :: ps) ↔ piece ≠ [] ∧ (∀ c ∈ piece.tail, Text.isUpper c = false) ∧
      (∀ next ∈ ps.head?, ∀ c ∈ next.head?, Text.isUpper c = true) ∧ IsCut ps := by
  constructor
  · intro h
    obtain ⟨hpiece, hps⟩ := List.forall_mem_cons.1 h.ne_nil
    obtain ⟨hinside, hinsides⟩ := List.forall_mem_cons.1 h.inside
    exact ⟨hpiece, hinside, fun next hnext => h.begins next (List.mem_of_mem_head? hnext),
      hps, hinsides, fun p hp => h.begins p (List.mem_of_mem_tail hp)⟩
  · rintro ⟨hpiece, hinside, hnext, h⟩
    refine ⟨List.forall_mem_cons.2 ⟨hpiece, h.ne_nil⟩, List.forall_mem_cons.2 ⟨hinside, h.inside⟩,
      fun p hp => ?_⟩
    cases ps with
    | nil => cases hp
    | cons next ps =>
      rcases List.mem_cons.1 hp with rfl | hp
      · exact hnext p rfl
      · exact h.begins p hp

theorem isCut_nil : IsCut [] :=
  ⟨List.forall_mem_nil _, List.forall_mem_nil _, List.forall_mem_nil _⟩

theorem isCut_pieces (s : List Char) : IsCut (pieces s) := by
  induction s with
  | nil => exact isCut_nil
  | cons c s ih =>
    simp only [pieces]
    split
    · next h =>
      rw [h] at ih
      exact isCut_cons_iff.2 ⟨List.cons_ne_nil c [], List.forall_mem_nil _,
        fun next hnext => absurd hnext (Option.not_mem_none next), ih⟩
    · next piece others h =>
      rw [h] at ih
      obtain ⟨hpiece, hinside, hnext, hothers⟩ := isCut_cons_iff.1 ih
      obtain ⟨d, tail, rfl⟩ := List.exists_cons_of_ne_nil hpiece
      split
      · next hd =>
        refine isCut_cons_iff.2 ⟨List.cons_ne_nil c [], List.forall_mem_nil _, ?_, ih⟩
        rintro next ⟨⟩ e ⟨⟩
        exact hd
      · next hd =>
        have hd : Text.isUpper d = false := by simpa using hd
        exact isCut_cons_iff.2 ⟨List.cons_ne_nil c _, List.forall_mem_cons.2 ⟨hd, hinside⟩, hnext,
          hothers⟩

/-- The first piece ends where the next upper-case letter stands. -/
theorem pieces_append (hne : piece ≠ []) (hinside : ∀ c ∈ piece.tail, Text.isUpper c = false)
    (hbegins : ∀ c ∈ rest.head?, Text.isUpper c = true) :
    pieces (piece ++ rest) = piece :: pieces rest := by
  induction piece with
  | nil => exact absurd rfl hne
  | cons c piece ih =>
    cases piece with
    | nil =>
      cases rest with
      | nil => rfl
      | cons d rest =>
        obtain ⟨first, others, hpieces⟩ := exists_pieces_cons rest
        have hd : Text.isUpper d = true := hbegins d rfl
        rw [List.singleton_append, pieces, hpieces]
        exact if_pos hd
    | cons d piece =>
      have hd : Text.isUpper d = false := hinside d List.mem_cons_self
      have hpieces := ih (List.cons_ne_nil d piece)
        fun e he => hinside e (List.mem_cons_of_mem d he)
      rw [List.cons_append, pieces, hpieces]
      exact if_neg (by simp [hd])

theorem pieces_cons (c : Char) (s : List Char) :
    pieces (c :: s) = (c :: s.takeWhile fun d => !Text.isUpper d) ::
      pieces (s.dropWhile fun d => !Text.isUpper d) := by
  have hinside : ∀ d ∈ s.takeWhile fun d => !Text.isUpper d, Text.isUpper d = false := by
    intro d hd
    simpa using List.all_eq_true.1 List.all_takeWhile d hd
  have hbegins : ∀ d ∈ (s.dropWhile fun d => !Text.isUpper d).head?, Text.isUpper d = true := by
    intro d hd
    have hnot := List.head?_dropWhile_not (fun d => !Text.isUpper d) s
    rw [Option.mem_def.1 hd] at hnot
    simpa using hnot
  have hpieces := pieces_append (List.cons_ne_nil c _) hinside hbegins
  rwa [List.cons_append, List.takeWhile_append_dropWhile] at hpieces

/-- No other pieces of a text are cut so. -/
theorem IsCut.pieces_flatten (h : IsCut ps) : pieces ps.flatten = ps := by
  induction ps with
  | nil => rfl
  | cons piece ps ih =>
    obtain ⟨hpiece, hinside, hnext, hps⟩ := isCut_cons_iff.1 h
    have hbegins : ∀ c ∈ ps.flatten.head?, Text.isUpper c = true := by
      cases ps with
      | nil => nofun
      | cons next ps =>
        obtain ⟨d, tail, rfl⟩ := List.exists_cons_of_ne_nil (hps.ne_nil next List.mem_cons_self)
        exact hnext (d :: tail) rfl
    rw [List.flatten_cons, pieces_append hpiece hinside hbegins, ih hps]

/-! ## Positions -/

theorem utf8ByteSize_ofList (s : List Char) : (String.ofList s).utf8ByteSize = byteSize s := by
  induction s with
  | nil => rfl
  | cons c s ih =>
    rw [String.ofList_cons, String.utf8ByteSize_append, String.utf8ByteSize_singleton, ih,
      byteSize_cons]

theorem byteSize_concat (s : List Char) (c : Char) :
    byteSize (s ++ [c]) = byteSize s + c.utf8Size := by
  rw [byteSize_append, byteSize_cons, byteSize_nil, Nat.add_zero]

theorem offset_of_splits {p : s.Pos} {t : String} (h : p.Splits (String.ofList front) t) :
    p.offset = ⟨byteSize front⟩ := by
  rw [h.offset_eq_rawEndPos]
  exact String.Pos.Raw.ext (utf8ByteSize_ofList front)

/-- Between any two characters there is a position. -/
theorem exists_splits (h : s.toList = front ++ rest) :
    ∃ p : s.Pos, p.Splits (String.ofList front) (String.ofList rest) := by
  have hs : s = String.ofList front ++ String.ofList rest := by
    rw [← String.ofList_append, ← h, String.ofList_toList]
  exact ⟨_, String.Pos.splits_ofEqAppend hs⟩

theorem pos?_of_splits {p : s.Pos} {t : String} (h : p.Splits (String.ofList front) t) :
    s.pos? ⟨byteSize front⟩ = some p := by
  have hvalid : String.Pos.Raw.isValidForSlice s.toSlice p.offset = true :=
    String.Pos.Raw.isValidForSlice_eq_true_iff.2 p.isValid.toSlice
  rw [← offset_of_splits h, String.pos?, String.Slice.pos?, dif_pos hvalid, Option.map_some]
  rfl

/-- The text between two positions is what stands between them. -/
theorem copy_slice_of_splits {p q : s.Pos}
    (hp : p.Splits (String.ofList front) (String.ofList (piece ++ rest)))
    (hq : q.Splits (String.ofList (front ++ piece)) (String.ofList rest)) :
    ∃ hle, (s.slice p q hle).copy = String.ofList piece := by
  rw [String.ofList_append] at hp hq
  exact String.copy_slice_eq_iff_splits.2 ⟨_, _, hp, hq⟩

/-! ## Segmentations -/

/-- Words that are consecutive slices of a text, from a position on to the end. -/
inductive Slices (s : String) : s.Pos → List Word → Prop
  | nil : Slices s s.endPos []
  | cons {start stop : s.Pos} {others : List Word} (hle : start ≤ stop)
    (hothers : Slices s stop others) :
    Slices s start
      (⟨(s.slice start stop hle).copy, start.offset.byteIdx, stop.offset.byteIdx⟩ :: others)

/-- The words are slices that make up the text, cut in front of every upper-case letter and nowhere
else. -/
structure IsSegmentation (s : String) (words : List Word) : Prop where
  slices : Slices s s.startPos words
  isCut : IsCut (words.map fun w => w.text.toList)

theorem slices_place {p : s.Pos} (hp : p.Splits (String.ofList front) (String.ofList ps.flatten)) :
    Slices s p (place (byteSize front) ps) := by
  induction ps generalizing front p with
  | nil =>
    obtain rfl : p = s.endPos := hp.eq_endPos_iff.2 rfl
    exact .nil
  | cons piece ps ih =>
    rw [List.flatten_cons] at hp
    have hs : s.toList = (front ++ piece) ++ ps.flatten := by
      rw [hp.eq_append, String.toList_append, String.toList_ofList, String.toList_ofList,
        List.append_assoc]
    obtain ⟨q, hq⟩ := exists_splits hs
    obtain ⟨hle, hcopy⟩ := copy_slice_of_splits hp hq
    have hslices := Slices.cons hle (ih hq)
    rwa [hcopy, offset_of_splits hp, offset_of_splits hq, byteSize_append] at hslices

@[simp] theorem map_place (start : Nat) (ps : List (List Char)) :
    ((place start ps).map fun w => w.text.toList) = ps := by
  induction ps generalizing start with
  | nil => rfl
  | cons piece ps ih => rw [place, List.map_cons, ih, String.toList_ofList]

/-- Consecutive slices are known by their texts. -/
theorem Slices.eq_place {p : s.Pos} {words : List Word} (h : Slices s p words)
    (hp : p.Splits (String.ofList front) (String.ofList rest)) :
    words = place (byteSize front) (words.map fun w => w.text.toList) ∧
      (words.map fun w => w.text.toList).flatten = rest := by
  induction h generalizing front rest with
  | nil =>
    have hrest := hp.eq_endPos_iff.1 rfl
    exact ⟨rfl, (String.ofList_eq_empty_iff.1 hrest).symm⟩
  | @cons start stop others hle hothers ih =>
    obtain ⟨text, hfront, hrest⟩ := (hp.le_iff_exists_eq_append stop.splits).1 hle
    have hbehind : rest = text.toList ++ (s.sliceFrom stop).copy.toList := by
      rw [← String.toList_append, ← hrest, String.toList_ofList]
    have hstop : stop.Splits (String.ofList (front ++ text.toList))
        (String.ofList (s.sliceFrom stop).copy.toList) := by
      rw [String.ofList_append, String.ofList_toList, String.ofList_toList, ← hfront]
      exact stop.splits
    subst hbehind
    obtain ⟨_, hcopy⟩ := copy_slice_of_splits hp hstop
    obtain ⟨hplace, hflatten⟩ := ih hstop
    rw [List.map_cons, place, List.flatten_cons, hflatten, hcopy, String.toList_ofList,
      String.ofList_toList, ← byteSize_append, ← hplace, offset_of_splits hp,
      offset_of_splits hstop]
    exact ⟨rfl, rfl⟩

theorem isSegmentation_iff {words : List Word} : IsSegmentation s words ↔ words = split s := by
  have hp : s.startPos.Splits (String.ofList []) (String.ofList s.toList) := by
    rw [String.ofList_toList]
    exact String.splits_startPos s
  constructor
  · intro h
    obtain ⟨hplace, hflatten⟩ := h.slices.eq_place hp
    have hpieces := h.isCut.pieces_flatten
    rw [hflatten] at hpieces
    rw [hplace, ← hpieces]
    rfl
  · rintro rfl
    rw [← flatten_pieces s.toList] at hp
    have hcut := isCut_pieces s.toList
    rw [← map_place 0 (pieces s.toList)] at hcut
    exact ⟨slices_place hp, hcut⟩

/-! ## Reading at bytes -/

/-- The character that begins at a byte, or none at the end of the text. Within a character and
behind the end there is no answer. -/
def peek (s : String) (byte : Nat) : Option (Option Char) :=
  (s.pos? ⟨byte⟩).map fun p => p.get?

/-- The text between two bytes. There is no answer if one of them lies within a character or behind
the end, or if they are out of order. -/
def sliceAt (s : String) (start stop : Nat) : Option String := do
  let p ← s.pos? ⟨start⟩
  let q ← s.pos? ⟨stop⟩
  let slice ← s.slice? p q
  return slice.copy

/-- A character stands before the end of the text. -/
theorem lt_of_peek {byte : Nat} {c : Char} (h : peek s byte = some (some c)) :
    byte < s.utf8ByteSize := by
  obtain ⟨p, hp, hget⟩ := Option.map_eq_some_iff.1 h
  have hoffset : p.offset = ⟨byte⟩ := by
    unfold String.pos? String.Slice.pos? at hp
    split at hp
    · cases hp
      rfl
    · cases hp
  have hend : p ≠ s.endPos := by
    intro hp
    rw [String.Pos.get?_eq_none_iff.2 hp] at hget
    cases hget
  have hlt := p.byteIdx_lt_utf8ByteSize hend
  rwa [hoffset] at hlt

/-- The byte of the next upper-case letter, or of the end. Every character takes the search nearer
to the end. -/
def stopFrom (s : String) (byte : Nat) : Option Nat :=
  match _hpeek : peek s byte with
  | none => none
  | some none => some byte
  | some (some c) => if Text.isUpper c then some byte else stopFrom s (byte + c.utf8Size)
termination_by s.utf8ByteSize - byte
decreasing_by
  have hbyte := lt_of_peek _hpeek
  have hsize := c.utf8Size_pos
  omega

theorem le_of_stopFrom {byte stop : Nat} (h : stopFrom s byte = some stop) : byte ≤ stop := by
  fun_induction stopFrom s byte with
  | case1 byte hpeek => cases h
  | case2 byte hpeek => exact Nat.le_of_eq (Option.some.inj h)
  | case3 byte c hpeek hc => exact Nat.le_of_eq (Option.some.inj h)
  | case4 byte c hpeek hc ih => exact Nat.le_trans (Nat.le_add_right byte _) (ih h)

/-- The word that begins at a byte, whatever its first character is; none at the end. -/
def readWord (s : String) (start : Nat) : Option (Option Word) := do
  match ← peek s start with
  | none => return none
  | some c =>
    let stop ← stopFrom s (start + c.utf8Size)
    let text ← sliceAt s start stop
    return some ⟨text, start, stop⟩

/-- A word has its first character at least. -/
theorem lt_of_readWord {start : Nat} {w : Word} (h : readWord s start = some (some w)) :
    start < s.utf8ByteSize ∧ start < w.stop := by
  obtain ⟨next, hpeek, h⟩ := Option.bind_eq_some_iff.1 h
  cases next with
  | none => cases h
  | some c =>
    obtain ⟨stop, hstop, h⟩ := Option.bind_eq_some_iff.1 h
    obtain ⟨text, -, h⟩ := Option.bind_eq_some_iff.1 h
    cases h
    have hle := le_of_stopFrom hstop
    have hsize := c.utf8Size_pos
    refine ⟨lt_of_peek hpeek, ?_⟩
    show start < stop
    omega

/-- The words from a byte on, each beginning where the one before it stops. -/
def readFrom (s : String) (byte : Nat) : Option (List Word) :=
  match _hword : readWord s byte with
  | none => none
  | some none => some []
  | some (some w) => (readFrom s w.stop).map fun others => w :: others
termination_by s.utf8ByteSize - byte
decreasing_by
  have hprogress := lt_of_readWord _hword
  omega

theorem peek_append (h : s.toList = front ++ rest) : peek s (byteSize front) = some rest.head? := by
  obtain ⟨p, hp⟩ := exists_splits h
  rw [peek, pos?_of_splits hp, Option.map_some]
  cases rest with
  | nil =>
    have hend : p = s.endPos := hp.eq_endPos_iff.2 rfl
    rw [String.Pos.get?_eq_none_iff.2 hend, List.head?_nil]
  | cons c rest =>
    rw [String.ofList_cons] at hp
    rw [String.Pos.get?_eq_some_get hp.ne_endPos_of_singleton, hp.next.get_eq_of_singleton,
      List.head?_cons]

theorem sliceAt_append (h : s.toList = front ++ piece ++ rest) :
    sliceAt s (byteSize front) (byteSize (front ++ piece)) = some (String.ofList piece) := by
  obtain ⟨q, hq⟩ := exists_splits h
  rw [List.append_assoc] at h
  obtain ⟨p, hp⟩ := exists_splits h
  obtain ⟨hle, hcopy⟩ := copy_slice_of_splits hp hq
  rw [sliceAt, pos?_of_splits hp, pos?_of_splits hq]
  simp [String.slice?, hle, hcopy]

/-- A word goes on over all that is no upper-case letter. -/
theorem stopFrom_append (h : s.toList = front ++ rest) :
    stopFrom s (byteSize front) =
      some (byteSize (front ++ rest.takeWhile fun c => !Text.isUpper c)) := by
  induction rest generalizing front with
  | nil =>
    rw [stopFrom, peek_append h, List.takeWhile_nil, List.append_nil]
    rfl
  | cons c rest ih =>
    rw [stopFrom, peek_append h]
    by_cases hc : Text.isUpper c = true
    · rw [List.takeWhile_cons_of_neg (by simp [hc]), List.append_nil]
      exact if_pos hc
    · have hstop := ih (h.trans (List.append_cons front c rest))
      rw [byteSize_concat, ← List.append_cons] at hstop
      rw [List.takeWhile_cons_of_pos (by simp [hc]), ← hstop]
      exact if_neg hc

/-- A piece that goes up to the next upper-case letter, and what is behind it. -/
theorem toList_of_piece {c : Char} (h : s.toList = front ++ c :: rest)
    (hpiece : piece = c :: rest.takeWhile fun d => !Text.isUpper d) :
    s.toList = front ++ piece ++ rest.dropWhile fun d => !Text.isUpper d := by
  rw [h, hpiece, List.append_assoc, List.cons_append, List.takeWhile_append_dropWhile]

/-- What is read at a character is such a piece. -/
theorem readWord_append {c : Char} (h : s.toList = front ++ c :: rest)
    (hpiece : piece = c :: rest.takeWhile fun d => !Text.isUpper d) :
    readWord s (byteSize front) =
      some (some ⟨String.ofList piece, byteSize front, byteSize (front ++ piece)⟩) := by
  have hstop := stopFrom_append (h.trans (List.append_cons front c rest))
  rw [byteSize_concat, ← List.append_cons, ← hpiece] at hstop
  have hslice := sliceAt_append (toList_of_piece h hpiece)
  rw [readWord, peek_append h, List.head?_cons]
  simp only [Option.bind_eq_bind, Option.bind_some, hstop, hslice]
  rfl

/-- The words are read piece by piece. Each leaves a shorter text behind it. -/
theorem readFrom_append (h : s.toList = front ++ rest) :
    readFrom s (byteSize front) = some (place (byteSize front) (pieces rest)) := by
  induction hlength : rest.length using Nat.strongRecOn generalizing front rest with
  | _ n ih =>
    cases rest with
    | nil =>
      rw [readFrom, readWord, peek_append h]
      rfl
    | cons c rest =>
      obtain ⟨piece, hpiece⟩ : ∃ piece, piece = c :: rest.takeWhile fun d => !Text.isUpper d :=
        ⟨_, rfl⟩
      have hshorter : (rest.dropWhile fun d => !Text.isUpper d).length < n := by
        have hle := (List.dropWhile_suffix (l := rest) fun d => !Text.isUpper d).length_le
        rw [List.length_cons] at hlength
        omega
      have hothers := ih _ hshorter (toList_of_piece h hpiece) rfl
      rw [readFrom, readWord_append h hpiece, pieces_cons, ← hpiece, place, ← byteSize_append]
      simp only [hothers, Option.map_some]

/-- What is read byte by byte are the words of the text. These are a segmentation of it, and it has
no other. So all of them make up the text, and the first ones a beginning of it. -/
theorem splits_uniquely (s : String) :
    readFrom s 0 = some (split s) ∧ (∀ words, IsSegmentation s words ↔ words = split s) ∧
      join (split s) = s ∧ ∀ k, ∃ behind, join ((split s).take k) ++ behind = s := by
  have hread : readFrom s (byteSize []) = some (place (byteSize []) (pieces s.toList)) :=
    readFrom_append rfl
  refine ⟨hread, fun words => isSegmentation_iff, join_split s,
    fun k => ⟨join ((split s).drop k), ?_⟩⟩
  calc join ((split s).take k) ++ join ((split s).drop k)
      = join ((split s).take k ++ (split s).drop k) := by
        rw [join, join, join, joinChars_append, String.ofList_append]
    _ = join (split s) := by rw [List.take_append_drop]
    _ = s := join_split s

example : split "aÉÉtat" = [⟨"a", 0, 1⟩, ⟨"É", 1, 3⟩, ⟨"État", 3, 8⟩] := by decide

end Criteria.Word
