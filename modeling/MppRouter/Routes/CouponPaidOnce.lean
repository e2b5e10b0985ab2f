import MppRouter.Routes.RouterSpec

/-! # A coupon is paid at most once

The calls sent for a coupon are counted by the attempts that entered `paying`, and these by the coupon's
own releases. A coupon whose refund was authorised is void for good, before any attempt entered.
-/

namespace MppRouter.Routes

open Concurrent Machine

def World.releases (world : World) (code : String) : ℕ :=
  ((world.coupons.records code).map CouponRecord.releases).getD 0

/-- No operator has acted on the coupon. -/
def World.untouched (world : World) (code : String) : Prop :=
  ∀ record ∈ world.coupons.records code, record.untouched = true

/-- A partner has been credited for the coupon: by the refund of its void, or of the debit that paid for it. -/
def World.Refunded (world : World) (code : String) : Prop :=
  ∃ commit ∈ world.partners.commits,
    (∃ refundOpId, commit.key = .refund refundOpId ∧ commit.entry.ref = some code) ∨
    ∃ opId record, commit.key = .issueRefund opId ∧ world.coupons.records code = some record ∧
      record.tombstone = false ∧ record.issueLedgerId = some opId

/-- Over any interleaving of redemptions, voids, issues, reconciles and operator actions, the calls sent for
a coupon are at most one more than its releases; without operator actions it is not both refunded and paid. -/
theorem coupon_paid_at_most_once (caps : DailySpendLedger → Option ℤ) (threads : ℕ → Route Unit)
    (members : ∀ tid, IsRouterThread (threads tid)) {after : routerMachine.Config}
    (run : Run (unrestricted routerMachine) ⟨.initial caps, threads⟩ after) (code : String) :
    after.world.paid code ≤ 1 + after.world.releases code ∧
      (after.world.untouched code → ¬ (after.world.Refunded code ∧ 0 < after.world.paid code)) := by
  obtain ⟨safe, -⟩ := Extension.plain.reachable trivial members run
  cases found : after.world.coupons.records code with
  | none =>
    have unpaid := safe.unpaid_of_absent found
    exact ⟨by omega, fun _ both => absurd both.2 (by omega)⟩
  | some record =>
    refine ⟨?_, ?_⟩
    · simpa only [World.releases, found, Option.map_some, Option.getD_some] using safe.paid_le found
    · rintro untouched ⟨⟨commit, member, ⟨refundOpId, key, ref⟩ | ⟨opId, other, key, present, live, carries⟩⟩, paid⟩
      · obtain ⟨credited, same, refundable⟩ := safe.credited commit member refundOpId key
        obtain rfl := Option.some.inj (ref.symm.trans same)
        have unpaid := safe.unpaid_of_refundable found (untouched record found) refundable
        omega
      · exact safe.live_not_closed present live carries (safe.closed commit member opId key)

/-- The holder claims the coupon, is quoted its face value and pays. -/
private def redeemer : ℕ → Route Unit
  | 0 => (handleRedeemCoupon ⟨"c", "pl", .coinbase⟩).run
  | _ => pure ()

private def redeemSteps : List (ℕ × Choice) :=
  couponIssued ++ [(2, .plain), (2, .plain), (2, { quote := .quoted (some 20) })] ++ List.replicate 6 (2, .plain)

theorem coupon_paid_at_most_once_redeemed : ∃ after,
    Run (unrestricted routerMachine) ⟨.initial fun _ => none, couponThreads redeemer⟩ after ∧ after.world.paid "c" = 1 ∧
      after.world.paid "c" ≤ 1 + after.world.releases "c" ∧
      (after.world.untouched "c" → ¬ (after.world.Refunded "c" ∧ 0 < after.world.paid "c")) := by
  obtain ⟨after, run, paid⟩ := Config.exec_reaches (unrestricted routerMachine)
    ⟨.initial fun _ => none, couponThreads redeemer⟩ redeemSteps (fun world => world.paid "c" = 1) (by rfl)
  have members : ∀ tid, IsRouterThread (redeemer tid)
    | 0 => .redeem _
    | _ + 1 => .idle
  exact ⟨after, run, of_decide_eq_true paid,
    coupon_paid_at_most_once (fun _ => none) (couponThreads redeemer) (couponThreads_members members) run "c"⟩

end MppRouter.Routes
