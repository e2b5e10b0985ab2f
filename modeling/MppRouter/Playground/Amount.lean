import MppRouter.Core.Decimal

/-! # Playground money amounts

Amounts are 7-decimal atomic integers. They cross the ledger's API as decimal strings and are read
by `parseAtomic`, which rejects anything that is not an optionally signed run of ASCII digits.
-/

namespace MppRouter.Playground

/-- The `RangeError` of a malformed atomic amount, with the string its message quotes. -/
inductive RangeError where
  | invalidAtomicAmount (value : String)
  deriving DecidableEq, Repr

/-- Read an atomic amount: a missing or empty string is zero, a malformed one is an error. -/
def parseAtomic (value : Option String) : Except RangeError ℤ :=
  match value with
  | none => .ok 0
  | some text =>
    if text = "" then .ok 0
    else match Decimal.parseInt text.toList with
      | some amount => .ok amount
      | none => .error (.invalidAtomicAmount text)

example : parseAtomic (some "-0070") = .ok (-70) := by decide

end MppRouter.Playground
