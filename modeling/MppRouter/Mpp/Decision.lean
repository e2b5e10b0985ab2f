/-! # Decisions of an update function

A compare-and-set `update` hands the current value to a pure function and applies what it decides.
Money paths are written as such functions; one `update` that commits is one atomic step, which is
what the loops of `AtomicStoreCas` justify.
-/

namespace MppRouter.Mpp

/-- What an update function decides: leave the value alone, or replace it. -/
inductive Decision (V R : Type) where
  | noop (result : R)
  | set (value : V) (result : R)
  deriving DecidableEq, Repr

namespace Decision

variable {V R : Type}

def result : Decision V R → R
  | .noop result => result
  | .set _ result => result

/-- The stored value after a decision. -/
def after (decision : Decision V R) (current : Option V) : Option V :=
  match decision with
  | .noop _ => current
  | .set value _ => some value

@[simp] theorem after_noop (result : R) (current : Option V) :
    (Decision.noop result : Decision V R).after current = current := rfl

@[simp] theorem after_set (value : V) (result : R) (current : Option V) :
    (Decision.set value result).after current = some value := rfl

end Decision

end MppRouter.Mpp
