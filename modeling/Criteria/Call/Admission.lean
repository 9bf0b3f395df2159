import Criteria.Call.Basic
import Criteria.Significance

/-!
# Gates

What the gate of a call says to the arguments: the call goes on with the arguments after the first
one, perhaps negated once more, or it ends before its condition is looked for.
-/

namespace Criteria

/-- What a gate says to the arguments of a call. -/
inductive Admission
  /-- The call goes on with these arguments, negated once more or not. -/
  | admitted (flip : Bool) (args : List Json)
  /-- The call ends here. -/
  | declined (gate : Gate) (significance : Significance)

namespace Admission

/-- A gate takes the first argument for itself; without a gate the call goes on as it is. -/
def ofGate (gate : Option Gate) (args : List Json) : Admission :=
  match gate with
  | none => admitted false args
  | some gate =>
    match gate, Significance.ofArgument args.head? with
    | _, .affirmative => admitted false args.tail
    | .basedOn, .negative => admitted true args.tail
    | gate, significance => declined gate significance

@[simp] theorem ofGate_none (args : List Json) : ofGate none args = admitted false args := rfl

/-- An affirmative argument opens every gate. -/
theorem ofGate_of_affirmative (gate : Gate) {args : List Json}
    (h : Significance.ofArgument args.head? = .affirmative) :
    ofGate (some gate) args = admitted false args.tail := by
  simp [ofGate, h]

/-- A missing or non-significant argument opens none. -/
theorem ofGate_of_nonSignificant (gate : Gate) {args : List Json}
    (h : Significance.ofArgument args.head? = .nonSignificant) :
    ofGate (some gate) args = declined gate .nonSignificant := by
  cases gate <;> simp [ofGate, h]

/-- A negative argument closes the gate that asks for an affirmative one. -/
theorem ofGate_ifTrue_of_negative {args : List Json}
    (h : Significance.ofArgument args.head? = .negative) :
    ofGate (some .ifTrue) args = declined .ifTrue .negative := by
  simp [ofGate, h]

/-- A negative argument turns the sign at the other gate. -/
theorem ofGate_basedOn_of_negative {args : List Json}
    (h : Significance.ofArgument args.head? = .negative) :
    ofGate (some .basedOn) args = admitted true args.tail := by
  simp [ofGate, h]

end Admission

end Criteria
