import Criteria.Proofs.Relation.Prefix
import Criteria.Proofs.Relation.Shape
import Criteria.Samples

/-!
# The conditions that words name

The words behind the name of a relation name conditions of the related model, one after another.
They are read from the left, and a group of words ends as soon as it names a condition.

Main statements: what is read are the words in groups that name conditions, up to a rest in which no
condition begins (`Grouping.exists_isCut_collect`), and there is one way only to cut words like that
(`Grouping.IsCut.unique`). So words are read as conditions exactly if they are groups that name
conditions, none of which has a beginning that names one; these groups are the only ones
(`Query.names?_ofWords_split`).
-/

namespace Criteria

namespace Grouping

variable {isCondition : String → Bool} {w : Word} {words rest rest' pending group : List Word}
  {groups groups' : List (List Word)}

/-- The words name a condition, and no fewer of them from the first one on do. -/
structure NamesCondition (isCondition : String → Bool) (group : List Word) : Prop where
  ne_nil : group ≠ []
  holds : isCondition (Word.name group) = true
  shortest : ∀ before, before <+: group → before ≠ [] → before ≠ group →
    isCondition (Word.name before) = false

/-- The words are groups, one behind the other, that name conditions. -/
structure IsPartition (isCondition : String → Bool) (words : List Word)
    (groups : List (List Word)) : Prop where
  flatten : groups.flatten = words
  namesCondition : ∀ group ∈ groups, NamesCondition isCondition group

/-- No condition begins where the words do. -/
def BeginsNone (isCondition : String → Bool) (words : List Word) : Prop :=
  ∀ before, before <+: words → before ≠ [] → isCondition (Word.name before) = false

/-- The words are groups that name conditions, and a rest in which none begins. -/
structure IsCut (isCondition : String → Bool) (words : List Word) (groups : List (List Word))
    (rest : List Word) : Prop where
  append : groups.flatten ++ rest = words
  namesCondition : ∀ group ∈ groups, NamesCondition isCondition group
  beginsNone : BeginsNone isCondition rest

theorem beginsNone_nil : BeginsNone isCondition [] := by
  intro before hbefore hne
  exact absurd (List.prefix_nil.1 hbefore) hne

/-! ## One word more -/

/-- The word that makes the words the name of a condition completes a group. -/
theorem BeginsNone.namesCondition (hpending : BeginsNone isCondition pending)
    (hname : isCondition (Word.name (pending ++ [w])) = true) :
    NamesCondition isCondition (pending ++ [w]) := by
  refine ⟨List.append_ne_nil_of_right_ne_nil _ (List.cons_ne_nil w []), hname, ?_⟩
  intro before hbefore hne hproper
  rcases List.prefix_concat_iff.1 hbefore with heq | hbefore
  · exact absurd heq hproper
  · exact hpending before hbefore hne

/-- Any other word leaves the group open. -/
theorem BeginsNone.concat (hpending : BeginsNone isCondition pending)
    (hname : isCondition (Word.name (pending ++ [w])) = false) :
    BeginsNone isCondition (pending ++ [w]) := by
  intro before hbefore hne
  rcases List.prefix_concat_iff.1 hbefore with rfl | hbefore
  · exact hname
  · exact hpending before hbefore hne

/-! ## All words -/

/-- Behind a group that is still open, the words are read as groups up to a rest in which no
condition begins. -/
theorem exists_isCut_collect (words : List Word) (hpending : BeginsNone isCondition pending) :
    ∃ groups, IsCut isCondition (pending ++ words) groups (collect isCondition pending words).rest ∧
      groups.map Word.name = (collect isCondition pending words).names := by
  induction words generalizing pending with
  | nil => exact ⟨[], ⟨(List.append_nil pending).symm, List.forall_mem_nil _, hpending⟩, rfl⟩
  | cons w words ih =>
    have hmove : pending ++ w :: words = pending ++ [w] ++ words := List.append_cons pending w words
    rw [hmove, collect]
    dsimp only
    cases hname : isCondition (Word.name (pending ++ [w])) with
    | true =>
      rw [if_pos rfl]
      obtain ⟨groups, hcut, hnames⟩ := ih beginsNone_nil
      refine ⟨(pending ++ [w]) :: groups, ⟨?_, ?_, hcut.beginsNone⟩, ?_⟩
      · rw [List.flatten_cons, List.append_assoc, hcut.append, List.nil_append]
      · exact List.forall_mem_cons.2 ⟨hpending.namesCondition hname, hcut.namesCondition⟩
      · rw [List.map_cons, hnames]
    | false =>
      rw [if_neg Bool.false_ne_true]
      exact ih (hpending.concat hname)

/-- A group that names a condition is the shortest beginning of whatever begins with it. -/
theorem NamesCondition.shortestPrefix (h : NamesCondition isCondition group) (rest : List Word) :
    ShortestPrefix (fun front => isCondition (Word.name front)) (group ++ rest) group rest := by
  refine ⟨rfl, h.ne_nil, h.holds, fun before hbefore hne hbeforeName => ?_⟩
  by_contra hproper
  rw [h.shortest before hbefore hne hproper] at hbeforeName
  cases hbeforeName

/-- Where no condition begins, there is no group. -/
theorem BeginsNone.ne_append (h : BeginsNone isCondition rest)
    (hgroup : NamesCondition isCondition group) : rest ≠ group ++ words := by
  rintro rfl
  have hnone := h group (List.prefix_append group words) hgroup.ne_nil
  rw [hgroup.holds] at hnone
  cases hnone

/-- Words are cut in one way only. -/
theorem IsCut.unique (h : IsCut isCondition words groups rest)
    (h' : IsCut isCondition words groups' rest') : groups = groups' ∧ rest = rest' := by
  induction groups generalizing words groups' with
  | nil =>
    obtain rfl : rest = words := h.append
    cases groups' with
    | nil => exact ⟨rfl, h'.append.symm⟩
    | cons group' groups' =>
      have happend := h'.append
      rw [List.flatten_cons, List.append_assoc] at happend
      exact absurd happend.symm (h.beginsNone.ne_append (h'.namesCondition _ List.mem_cons_self))
  | cons group groups ih =>
    have happend := h.append
    rw [List.flatten_cons, List.append_assoc] at happend
    obtain ⟨hgroup, hgroups⟩ := List.forall_mem_cons.1 h.namesCondition
    cases groups' with
    | nil =>
      obtain rfl : rest' = words := h'.append
      exact absurd happend.symm (h'.beginsNone.ne_append hgroup)
    | cons group' groups' =>
      have happend' := h'.append
      rw [List.flatten_cons, List.append_assoc] at happend'
      obtain ⟨hgroup', hgroups'⟩ := List.forall_mem_cons.1 h'.namesCondition
      -- both first groups are the shortest beginning of the words that names a condition
      have hfront := hgroup.shortestPrefix (groups.flatten ++ rest)
      have hfront' := hgroup'.shortestPrefix (groups'.flatten ++ rest')
      rw [happend] at hfront
      rw [happend'] at hfront'
      obtain ⟨rfl, hbehind⟩ := hfront.unique hfront'
      obtain ⟨rfl, hrest⟩ := ih ⟨rfl, hgroups, h.beginsNone⟩ ⟨hbehind.symm, hgroups', h'.beginsNone⟩
      exact ⟨rfl, hrest⟩

/-- A partition is a cut that leaves nothing. -/
theorem isCut_nil_iff :
    IsCut isCondition words groups [] ↔ IsPartition isCondition words groups := by
  constructor
  · intro h
    exact ⟨by rw [← h.append, List.append_nil], h.namesCondition⟩
  · intro h
    exact ⟨by rw [List.append_nil, h.flatten], h.namesCondition, beginsNone_nil⟩

theorem IsPartition.unique (h : IsPartition isCondition words groups)
    (h' : IsPartition isCondition words groups') : groups = groups' :=
  ((isCut_nil_iff.2 h).unique (isCut_nil_iff.2 h')).1

/-- Words are read as conditions exactly if they are groups that name them. -/
theorem names?_ofWords_eq_some_iff {names : List String} :
    (ofWords isCondition words).names? = some names ↔
      ∃ groups, IsPartition isCondition words groups ∧ groups.map Word.name = names := by
  have hnone : BeginsNone isCondition [] := beginsNone_nil
  obtain ⟨groups, hcut, hnames⟩ := exists_isCut_collect words hnone
  constructor
  · intro h
    have hrest : (collect isCondition [] words).rest = [] := rest_eq_nil_of_names? h
    rw [hrest] at hcut
    refine ⟨groups, isCut_nil_iff.1 hcut, ?_⟩
    unfold ofWords names? at h
    rw [hrest] at h
    exact hnames.trans (Option.some.inj h)
  · rintro ⟨groups', hpartition, rfl⟩
    obtain ⟨rfl, hrest⟩ := hcut.unique (isCut_nil_iff.2 hpartition)
    unfold ofWords names?
    rw [hrest, hnames]
    rfl

end Grouping

open Grouping in
/-- The words of a text are read as conditions of a query exactly if they are groups, one behind the
other, each of which names a condition while no shorter beginning of it does. There is at most one
such division into groups, and the conditions are those that the groups name, in their order. -/
theorem Query.names?_ofWords_split {κ : Type} (q : Query κ) (input : String) :
    (∀ names, (ofWords q.defines (Word.split input)).names? = some names ↔
      ∃ groups, IsPartition q.defines (Word.split input) groups ∧
        groups.map Word.name = names) ∧
    (∀ groups groups', IsPartition q.defines (Word.split input) groups →
      IsPartition q.defines (Word.split input) groups' → groups = groups') ∧
    ((ofWords q.defines (Word.split input)).names? = none ↔
      ¬ ∃ groups, IsPartition q.defines (Word.split input) groups) := by
  refine ⟨fun names => names?_ofWords_eq_some_iff, fun groups groups' h h' => h.unique h', ?_⟩
  rw [Option.eq_none_iff_forall_ne_some]
  constructor
  · rintro hnone ⟨groups, hpartition⟩
    exact hnone _ (names?_ofWords_eq_some_iff.2 ⟨groups, hpartition, rfl⟩)
  · intro hnone names hnames
    obtain ⟨groups, hpartition, -⟩ := names?_ofWords_eq_some_iff.1 hnames
    exact hnone ⟨groups, hpartition⟩

namespace Samples

/-- The words of `InStockElemsInStock` in groups. -/
def inStockGroups : List (List Word) :=
  [[⟨"In", 0, 2⟩, ⟨"Stock", 2, 7⟩], [⟨"Elems", 7, 12⟩], [⟨"In", 12, 14⟩, ⟨"Stock", 14, 19⟩]]

/-- Of the two words of `InStock` the first one names nothing. A condition may be named twice. -/
theorem isPartition_inStockGroups :
    (Grouping.ofWords (products 2).defines (Word.split "InStockElemsInStock")).names? =
      some ["inStock", "elems", "inStock"] ∧
    Grouping.IsPartition (products 2).defines (Word.split "InStockElemsInStock") inStockGroups ∧
    ∀ groups, Grouping.IsPartition (products 2).defines (Word.split "InStockElemsInStock") groups →
      groups = inStockGroups := by
  have hgroups : ∀ group ∈ inStockGroups,
      group ≠ [] ∧ (products 2).defines (Word.name group) = true ∧
        ∀ before ∈ group.inits, before ≠ [] → before ≠ group →
          (products 2).defines (Word.name before) = false := by
    decide +kernel
  have hpartition : Grouping.IsPartition (products 2).defines (Word.split "InStockElemsInStock")
      inStockGroups := by
    refine ⟨by decide +kernel, fun group hgroup => ?_⟩
    obtain ⟨hne, hholds, hbefore⟩ := hgroups group hgroup
    exact ⟨hne, hholds, fun before h => hbefore before ((List.mem_inits _ _).2 h)⟩
  obtain ⟨hsome, hunique, -⟩ := Query.names?_ofWords_split (products 2) "InStockElemsInStock"
  exact ⟨(hsome _).2 ⟨inStockGroups, hpartition, by decide +kernel⟩, hpartition,
    fun groups h => hunique groups inStockGroups h hpartition⟩

end Samples

end Criteria
