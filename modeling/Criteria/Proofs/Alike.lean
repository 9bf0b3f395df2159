import Criteria.Trace

/-!
# Two runs of one computation

When two computations run alike: they report the same events, and both fail or both give a result,
where the results are related in some way. Main statement: computations in sequence run alike if
each of them does for related results of the one before (`Traced.Alike.bind`).
-/

namespace Criteria

variable {ε α β γ δ : Type} {R : α → β → Prop} {S : γ → δ → Prop}

/-- Equal once they are looked at in some way. -/
abbrev SameUnder (view : α → γ) (a b : α) : Prop := view a = view b

/-- Values that may be there are equal under a view if both are missing or both are there. -/
theorem SameUnder.cases_map {view : α → γ} {x y : Option α}
    (h : SameUnder (Option.map view) x y) :
    (x = none ∧ y = none) ∨ ∃ a b, x = some a ∧ y = some b ∧ SameUnder view a b := by
  cases x with
  | none => exact .inl ⟨rfl, Option.map_eq_none_iff.1 h.symm⟩
  | some a =>
    obtain ⟨b, hy, hb⟩ := Option.map_eq_some_iff.1 h.symm
    exact .inr ⟨a, b, rfl, hy, hb.symm⟩

/-- Both fail, or the results are related. -/
inductive Alike (R : α → β → Prop) : Except ε α → Except ε β → Prop
  | ok {a : α} {b : β} (h : R a b) : Alike R (.ok a) (.ok b)
  | error (e e' : ε) : Alike R (.error e) (.error e')

namespace Alike

theorem sameUnder_refl (view : α → γ) (x : Except ε α) : Alike (SameUnder view) x x := by
  cases x with
  | ok a => exact ok rfl
  | error e => exact error e e

theorem bind {x : Except ε α} {y : Except ε β} {f : α → Except ε γ} {g : β → Except ε δ}
    (h : Alike R x y) (hfg : ∀ a b, R a b → Alike S (f a) (g b)) : Alike S (x >>= f) (y >>= g) := by
  cases h with
  | ok hab => exact hfg _ _ hab
  | error e e' => exact error e e'

/-- What follows the same computation runs alike if it does for each result. -/
theorem bind_right {x : Except ε α} {f : α → Except ε γ} {g : α → Except ε δ}
    (hfg : ∀ a, Alike S (f a) (g a)) : Alike S (x >>= f) (x >>= g) := by
  cases x with
  | ok a => exact hfg a
  | error e => exact error e e

theorem exists_of_ok {x : Except ε α} {y : Except ε β} (h : Alike R x y) {a : α}
    (hx : x = .ok a) : ∃ b, y = .ok b ∧ R a b := by
  cases h with
  | ok hab =>
    cases hx
    exact ⟨_, rfl, hab⟩
  | error e e' => cases hx

theorem exists_ok_iff {x : Except ε α} {y : Except ε β} (h : Alike R x y) :
    (∃ b, y = .ok b) ↔ ∃ a, x = .ok a := by
  cases h with
  | ok hab => exact ⟨fun _ => ⟨_, rfl⟩, fun _ => ⟨_, rfl⟩⟩
  | error e e' => exact ⟨nofun, nofun⟩

/-- Results that are there may be known to be related in another way. -/
theorem imp_ok {T : α → β → Prop} {x : Except ε α} {y : Except ε β} (h : Alike R x y)
    (hRT : ∀ a b, x = .ok a → R a b → T a b) : Alike T x y := by
  cases h with
  | ok hab => exact ok (hRT _ _ rfl hab)
  | error e e' => exact error e e'

/-- Outcomes that are like a third one are alike. -/
theorem sameUnder_trans {view : α → γ} {x y z : Except ε α} (hx : Alike (SameUnder view) x z)
    (hy : Alike (SameUnder view) y z) : Alike (SameUnder view) x y := by
  cases hx with
  | ok ha =>
    cases hy with
    | ok hb => exact ok (ha.trans hb.symm)
  | error e _ =>
    cases hy with
    | error e' _ => exact error e e'

/-- Outcomes are alike that are equal once the results are looked at in some way. -/
theorem of_map_eq {view : α → γ} {x y : Except ε α} (h : view <$> x = view <$> y) :
    Alike (SameUnder view) x y := by
  cases x with
  | ok a =>
    cases y with
    | ok b =>
      have hview : view a = view b := Except.ok.inj h
      exact ok hview
    | error e => cases h
  | error e =>
    cases y with
    | ok b => cases h
    | error e' => exact error e e'

end Alike

namespace Traced

theorem events_map (f : α → β) (x : Traced α) : (f <$> x).events = x.events := by
  obtain ⟨xs, p⟩ := x
  cases p with
  | ok a => exact List.append_nil xs
  | error fault => rfl

/-- Both report the same events, and both fail or the results are related. -/
structure Alike (R : α → β → Prop) (x : Traced α) (y : Traced β) : Prop where
  events : x.events = y.events
  outcome : Criteria.Alike R x.outcome y.outcome

namespace Alike

theorem sameUnder_refl (view : α → γ) (x : Traced α) : Traced.Alike (SameUnder view) x x :=
  ⟨rfl, .sameUnder_refl view x.outcome⟩

theorem pure {a : α} {b : β} (h : R a b) : Traced.Alike R (pure a) (pure b) := ⟨rfl, .ok h⟩

theorem ofExcept {x : Except Fault α} {y : Except Fault β} (h : Criteria.Alike R x y) :
    Traced.Alike R (ofExcept x) (ofExcept y) := ⟨rfl, h⟩

/-- Computations in sequence run alike if the first ones do and the second ones do for related
results of the first. -/
theorem bind {x : Traced α} {y : Traced β} {f : α → Traced γ} {g : β → Traced δ}
    (h : Traced.Alike R x y) (hfg : ∀ a b, R a b → Traced.Alike S (f a) (g b)) :
    Traced.Alike S (x >>= f) (y >>= g) := by
  obtain ⟨xs, p⟩ := x
  obtain ⟨ys, r⟩ := y
  obtain ⟨hevents, houtcome⟩ := h
  cases houtcome with
  | @ok a b hab =>
    rw [bind_of_ok rfl f, bind_of_ok rfl g]
    have hrest := hfg a b hab
    exact ⟨congr (congrArg (· ++ ·) hevents) hrest.events, hrest.outcome⟩
  | error e e' =>
    rw [bind_of_error rfl f, bind_of_error rfl g]
    exact ⟨hevents, .error e e'⟩

/-- What follows the same computation runs alike if it does for each result that there can be. -/
theorem bind_right {x : Traced α} {f : α → Traced γ} {g : α → Traced δ}
    (hfg : ∀ a, x.outcome = .ok a → Traced.Alike S (f a) (g a)) :
    Traced.Alike S (x >>= f) (x >>= g) := by
  refine bind (R := fun a b => a = b ∧ x.outcome = .ok a) ⟨rfl, ?_⟩ ?_
  · cases x.outcome with
    | ok a => exact .ok ⟨rfl, rfl⟩
    | error fault => exact .error fault fault
  · rintro a _ ⟨rfl, ha⟩
    exact hfg a ha

/-- Computations that are equal once their results are looked at in some way run alike. -/
theorem of_map_eq {view : α → γ} {x y : Traced α} (h : view <$> x = view <$> y) :
    Traced.Alike (SameUnder view) x y := by
  have hevents : x.events = y.events := by
    rw [← events_map view x, h, events_map]
  have houtcome : view <$> x.outcome = view <$> y.outcome := by
    rw [← outcome_map, h, outcome_map]
  exact ⟨hevents, .of_map_eq houtcome⟩

end Alike

end Traced

end Criteria
