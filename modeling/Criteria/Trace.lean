import Criteria.Call.Basic
import Criteria.Fault
import Criteria.Significance
import Criteria.Text.Quoted

/-!
# Traces

The events that a compilation reports, and computations that keep them beside their outcome. Main
statement: the events of a computation never touch its outcome (`outcome_bind`), so the outcomes can
be reasoned about alone.
-/

namespace Criteria

/-- How much an event matters. -/
inductive Weight
  | trace
  | debug
  | warn
  deriving DecidableEq

/-- What happened in the course of a compilation. -/
inductive Event
  /-- A method name is no condition call. -/
  | notACall (method : String)
  /-- A method name was read as a call. -/
  | parsedCall (method : String) (call : Call)
  /-- A gate ended the call. -/
  | declined (method : String) (gate : Gate) (significance : Significance)
  /-- A call has no condition. -/
  | noCondition (method base : String)
  /-- A condition is handed back or merged. -/
  | rendering (negate : Bool) (connective : Connective) (conditionOnly : Bool)
  /-- A name refers to a condition; its definition is at this depth. -/
  | expandingDirect (token : String) (depth : Nat)
  /-- A name refers to a condition on a related table; its call is at this depth. -/
  | expandingRelation (token : String) (depth : Nat)
  /-- The last words, beginning at this byte, make no condition name. -/
  | unmatchedWords (words : String) (start : Nat)
  /-- A link has further pairs of columns. -/
  | compositeLink (foreign own : String)
  /-- No beginning of the words names a relation. -/
  | noRelation (base : String)
  /-- The words begin with a relation. -/
  | resolvedRelation (relation : String) (residual : List String)
  /-- The words after the relation are no conditions of its target. -/
  | residualUnknown (relation : String)
  /-- A relation condition was given more than one argument. -/
  | ignoredArguments (relation : String) (count : Nat)

namespace Event

def weight : Event → Weight
  | rendering .. | expandingDirect .. | expandingRelation .. => .trace
  | compositeLink .. | ignoredArguments .. => .warn
  | notACall _ | parsedCall .. | declined .. | noCondition .. | unmatchedWords .. | noRelation _
  | resolvedRelation .. | residualUnknown _ => .debug

def message : Event → String
  | notACall _ => "not a condition call"
  | parsedCall .. => "parsed condition call"
  | declined .. => "evaluator short-circuit"
  | noCondition .. => "no condition found"
  | rendering .. => "rendering condition"
  | expandingDirect .. => "expanding direct condition"
  | expandingRelation .. => "expanding relation condition"
  | unmatchedWords .. => "words do not complete a condition name"
  | compositeLink .. => "composite link; only the first column pair is correlated"
  | noRelation _ => "no relation matches"
  | resolvedRelation .. => "resolved relation"
  | residualUnknown _ => "residual words are not relation conditions"
  | ignoredArguments .. => "relation condition takes a single argument"

def boolText (b : Bool) : String := if b then "true" else "false"

def fields : Event → List (String × String)
  | notACall method => [("method", method)]
  | parsedCall method call =>
    [("method", method), ("base", call.base), ("negate", boolText call.negate),
      ("relation", boolText call.isRelation)]
  | declined method gate significance =>
    [("method", method), ("evaluator", gate.label), ("significance", significance.label)]
  | noCondition method base => [("method", method), ("base", base)]
  | rendering negate connective conditionOnly =>
    [("negate", boolText negate), ("combinator", connective.label),
      ("return_condition_only", boolText conditionOnly)]
  | expandingDirect token depth | expandingRelation token depth =>
    [("token", token), ("depth", toString depth)]
  | unmatchedWords words start => [("unmatched", words), ("offset", toString start)]
  | compositeLink foreign own => [("foreign", foreign), ("local", own)]
  | noRelation base => [("base", base)]
  | resolvedRelation relation residual =>
    [("relation", relation), ("residual", (Dump.list "" (residual.map Dump.text)).inline)]
  | residualUnknown relation => [("relation", relation)]
  | ignoredArguments relation count => [("relation", relation), ("ignored", toString count)]

end Event

namespace Weight

def label : Weight → String
  | trace => "TRACE"
  | debug => "DEBUG"
  | warn => "WARN"

end Weight

/-- What a computation reported, in order, and how it ended. -/
structure Traced (α : Type) where
  events : List Event
  outcome : Except Fault α

namespace Traced

variable {α β γ : Type}

/-- An outcome without events. -/
def ofExcept (outcome : Except Fault α) : Traced α := ⟨[], outcome⟩

/-- Reports an event. -/
def note (event : Event) : Traced Unit := ⟨[event], .ok ()⟩

/-- Ends with a fault. -/
def fail (fault : Fault) : Traced α := ⟨[], .error fault⟩

/-- One computation, then another that depends on its result. -/
def bind (x : Traced α) (f : α → Traced β) : Traced β :=
  match x.outcome with
  | .ok a => ⟨x.events ++ (f a).events, (f a).outcome⟩
  | .error fault => ⟨x.events, .error fault⟩

instance : Monad Traced where
  pure a := ⟨[], .ok a⟩
  bind := bind

theorem bind_of_ok {x : Traced α} {a : α} (h : x.outcome = .ok a) (f : α → Traced β) :
    x >>= f = ⟨x.events ++ (f a).events, (f a).outcome⟩ := by
  show Traced.bind x f = _
  unfold Traced.bind
  rw [h]

theorem bind_of_error {x : Traced α} {fault : Fault} (h : x.outcome = .error fault)
    (f : α → Traced β) : x >>= f = ⟨x.events, .error fault⟩ := by
  show Traced.bind x f = _
  unfold Traced.bind
  rw [h]

theorem pure_bind_eq (a : α) (f : α → Traced β) : (pure a : Traced α) >>= f = f a :=
  bind_of_ok rfl f

theorem bind_pure_eq (x : Traced α) : x >>= pure = x := by
  cases h : x.outcome with
  | ok a =>
    rw [bind_of_ok h]
    show Traced.mk (x.events ++ []) (.ok a) = x
    rw [List.append_nil, ← h]
  | error fault => rw [bind_of_error h, ← h]

/-- The order of events does not depend on how computations are grouped. -/
theorem bind_assoc_eq (x : Traced α) (f : α → Traced β) (g : β → Traced γ) :
    x >>= f >>= g = x >>= fun a => f a >>= g := by
  cases h : x.outcome with
  | error fault =>
    rw [bind_of_error h f, bind_of_error h, bind_of_error rfl]
  | ok a =>
    rw [bind_of_ok h f, bind_of_ok h]
    cases hf : (f a).outcome with
    | error fault => rw [bind_of_error rfl, bind_of_error hf]
    | ok b => rw [bind_of_ok rfl, bind_of_ok hf, List.append_assoc]

instance : LawfulMonad Traced :=
  .mk' Traced bind_pure_eq pure_bind_eq bind_assoc_eq

@[simp] theorem outcome_pure (a : α) : (pure a : Traced α).outcome = .ok a := rfl

@[simp] theorem outcome_ofExcept (x : Except Fault α) : (ofExcept x).outcome = x := rfl

@[simp] theorem outcome_note (event : Event) : (note event).outcome = .ok () := rfl

@[simp] theorem outcome_fail (fault : Fault) : (fail fault : Traced α).outcome = .error fault := rfl

/-- The outcome of two computations depends on their outcomes alone. -/
@[simp] theorem outcome_bind (x : Traced α) (f : α → Traced β) :
    (x >>= f).outcome = x.outcome >>= fun a => (f a).outcome := by
  show (Traced.bind x f).outcome = _
  unfold Traced.bind
  cases x.outcome <;> rfl

@[simp] theorem outcome_map (f : α → β) (x : Traced α) :
    (f <$> x).outcome = f <$> x.outcome := by
  show (Traced.bind x _).outcome = _
  unfold Traced.bind
  cases x.outcome <;> rfl

@[simp] theorem outcome_ite (p : Prop) [Decidable p] (x y : Traced α) :
    (if p then x else y).outcome = if p then x.outcome else y.outcome := by
  split <;> rfl

end Traced

end Criteria
