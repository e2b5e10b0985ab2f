import Mathlib.Logic.Basic
import Mathlib.Tactic.SplitIfs

/-! # The watermark of a payment channel

The verifier of a channel keeps the highest cumulative amount that it accepted. After a delivery that failed
the router takes its voucher back, as long as no later voucher won.
-/

namespace MppRouter.Mpp

/-- The highest cumulative amount accepted so far. -/
structure Cumulative (Amount : Type) where
  amount : Amount
  settling : Bool := false
  deriving DecidableEq, Repr

section Rollback

variable {Amount : Type} [OfNat Amount 0]

/-- The amount under the watermark key; an absent key counts as zero. -/
def cumulativeAmount (current : Option (Cumulative Amount)) : Amount := current.elim 0 Cumulative.amount

variable [DecidableEq Amount]

/-- Restore the previous watermark, or refuse when the voucher is not the latest accepted any more. -/
def rollbackCumulative (acceptedAmount previousAmount : Amount) (current : Option (Cumulative Amount)) :
    Option (Option (Cumulative Amount)) :=
  match current with
  | some cumulative =>
    if cumulative.amount ≠ acceptedAmount ∨ cumulative.settling then none
    else if previousAmount = 0 then some none
    else some (some { amount := previousAmount })
  | none => none

variable {acceptedAmount previousAmount : Amount} {current restored : Option (Cumulative Amount)}

theorem rollbackCumulative_some (rolledBack : rollbackCumulative acceptedAmount previousAmount current = some restored) :
    cumulativeAmount current = acceptedAmount ∧ cumulativeAmount restored = previousAmount ∧
      ∀ cumulative, restored = some cumulative → cumulative.settling = false := by
  unfold rollbackCumulative at rolledBack
  split at rolledBack
  next cumulative =>
    split_ifs at rolledBack with foreign zero
    · cases rolledBack
      exact ⟨not_not.mp (not_or.mp foreign).1, zero.symm, fun _ same => nomatch same⟩
    · cases rolledBack
      refine ⟨not_not.mp (not_or.mp foreign).1, rfl, ?_⟩
      rintro _ same
      cases same
      rfl
  next => cases rolledBack

/-- The latest voucher is never refused its rollback, unless the record is settling. -/
theorem rollbackCumulative_latest (positive : acceptedAmount ≠ 0)
    (settling : ∀ cumulative, current = some cumulative → cumulative.settling = false)
    (top : cumulativeAmount current = acceptedAmount) :
    (rollbackCumulative acceptedAmount previousAmount current).isSome = true := by
  cases current with
  | none => exact absurd top.symm positive
  | some cumulative =>
    have same : cumulative.amount = acceptedAmount := top
    simp only [rollbackCumulative, same, settling cumulative rfl]
    split_ifs <;> simp_all

end Rollback

end MppRouter.Mpp
