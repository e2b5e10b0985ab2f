import Mathlib.Data.Int.Notation
import Mathlib.Data.Nat.Notation
import MppRouter.Mpp.Decision

/-! # Coupon records

One durable value per coupon code. A redemption claims the coupon, enters `paying` once it is about to
send the payment, and settles the record afterwards; every step after the claim checks the attempt id
that the claim wrote. Operators and partners move the same record by functions of their own.
-/

namespace MppRouter.Routes

open Mpp

/-- An identifier from `crypto.randomUUID`: no two are ever equal, whoever mints them. -/
structure Uuid where
  /-- The thread that minted it. -/
  owner : ℕ
  serial : ℕ
  deriving DecidableEq, Repr

inductive InvoiceProvider where
  | coinbase | stripeCrypto
  deriving DecidableEq, Repr

inductive CouponStatus where
  | issued | redeeming | paying | redeemed | manualReview | void
  deriving DecidableEq, Repr

inductive CouponEventKind where
  | issued | claim | reclaim | rollback | paying | payInvoiceSucceeded | payInvoiceFailed
  | adminVoid | adminRelease | adminMarkRedeemed | partnerVoid | tombstoned
  deriving DecidableEq, Repr

structure CouponEvent where
  kind : CouponEventKind
  at_ : ℕ
  deriving DecidableEq, Repr

structure CouponRecord where
  code : String
  /-- Face value in atomic USDC units. -/
  amountAtomic : ℤ
  status : CouponStatus
  issuedAt : ℕ
  expiresAt : ℕ
  paymentProof : Option String := none
  redeemingAt : Option ℕ := none
  /-- The claim in flight; every transition after the claim verifies that it is still its own. -/
  attemptId : Option Uuid := none
  plId : Option String := none
  redeemedAt : Option ℕ := none
  failureReason : Option String := none
  events : List CouponEvent := []
  partnerId : Option String := none
  /-- Op id of the debit that paid for this coupon. -/
  issueLedgerId : Option Uuid := none
  refundLedgerId : Option Uuid := none
  /-- Authorisation of the credit that returns the face value, stamped by the void that won. -/
  refundOpId : Option Uuid := none
  refundPending : Bool := false
  tombstone : Bool := false
  tombstoneOpId : Option Uuid := none
  provider : Option InvoiceProvider := none
  invoiceKey : Option String := none
  /-- The invoice amount sent to pay-invoice. -/
  paidAmountAtomic : Option ℤ := none
  merchantAccount : Option String := none
  stripeUrlEncrypted : Option String := none
  deriving DecidableEq, Repr

def CouponRecord.push (record : CouponRecord) (kind : CouponEventKind) (now : ℕ) : CouponRecord :=
  { record with events := record.events ++ [⟨kind, now⟩] }

/-! ## Amounts -/

def stripeToleranceBelowAtomic : ℤ := 1000000

def stripeToleranceAboveAtomic (faceAtomic : ℤ) : ℤ := min (faceAtomic * 27 / 100 + 150000) 3000000

/-- The amount policy: a Coinbase invoice matches the face value exactly, a Stripe invoice lies in a
window around it and names the merchant account the payment is locked to. -/
def couponAmountAccepted (provider : InvoiceProvider) (invoiceAtomic faceAtomic : ℤ)
    (merchantAccount : Option String) : Bool :=
  if invoiceAtomic ≤ 0 then false
  else match provider with
    | .coinbase => invoiceAtomic = faceAtomic
    | .stripeCrypto =>
      if merchantAccount.getD "" = "" then false
      else if invoiceAtomic = faceAtomic then true
      else faceAtomic - stripeToleranceBelowAtomic ≤ invoiceAtomic ∧
        invoiceAtomic ≤ faceAtomic + stripeToleranceAboveAtomic faceAtomic

/-! ## Redemption -/

/-- A claim older than this was abandoned before `paying` and may be taken over. -/
def redeemingStaleMs : ℕ := 10 * 60 * 1000

inductive ClaimResult where
  | claimed (record : CouponRecord)
  | processing
  | alreadyRedeemed (record : CouponRecord)
  | rejected
  deriving DecidableEq, Repr

def claimCoupon (attemptId : Uuid) (plId : String) (now : ℕ) (current : Option CouponRecord) :
    Decision CouponRecord ClaimResult :=
  match current with
  | none => .noop .rejected
  | some record =>
    let claimed := { record with
      status := .redeeming, redeemingAt := some now, attemptId := some attemptId, plId := some plId }
    match record.status with
    | .issued =>
      if record.expiresAt < now then .noop .rejected
      else
        let claimed := claimed.push .claim now
        .set claimed (.claimed claimed)
    | .redeeming =>
      if now - record.redeemingAt.getD 0 > redeemingStaleMs then
        let claimed := claimed.push .reclaim now
        .set claimed (.claimed claimed)
      else if record.plId = some plId then .noop .processing
      else .noop .rejected
    | .paying | .manualReview => if record.plId = some plId then .noop .processing else .noop .rejected
    | .redeemed => if record.plId = some plId then .noop (.alreadyRedeemed record) else .noop .rejected
    | .void => .noop .rejected

/-- Give a claim back. Only before `paying`, and only by the attempt that still owns it. -/
def rollbackToIssued (attemptId : Uuid) (now : ℕ) (current : Option CouponRecord) : Decision CouponRecord Unit :=
  match current with
  | none => .noop ()
  | some record =>
    if record.status ≠ .redeeming ∨ record.attemptId ≠ some attemptId then .noop ()
    else
      let issued := { record with status := .issued, redeemingAt := none, attemptId := none, plId := none }
      .set (issued.push .rollback now) ()

/-- What an attempt is about to pay. -/
structure PaymentPlan where
  provider : InvoiceProvider
  invoiceKey : String
  invoiceAtomic : ℤ
  merchantAccount : Option String
  stripeUrlEncrypted : Option String
  deriving DecidableEq, Repr

/-- The point of no return: true when this attempt still owns the claim and now may pay. -/
def enterPaying (attemptId : Uuid) (plan : PaymentPlan) (now : ℕ) (current : Option CouponRecord) :
    Decision CouponRecord Bool :=
  match current with
  | none => .noop false
  | some record =>
    if record.status ≠ .redeeming ∨ record.attemptId ≠ some attemptId then .noop false
    else
      let stripe := plan.provider = .stripeCrypto
      let paying := { record with
        status := .paying
        provider := some plan.provider
        invoiceKey := some plan.invoiceKey
        paidAmountAtomic := some plan.invoiceAtomic
        merchantAccount := if stripe then plan.merchantAccount else record.merchantAccount
        stripeUrlEncrypted := if stripe then plan.stripeUrlEncrypted else record.stripeUrlEncrypted }
      .set (paying.push .paying now) true

/-- Settle the record of our own payment: redeemed, or parked for review. -/
def finalizeCoupon (attemptId : Uuid) (failureReason : Option String) (now : ℕ) (current : Option CouponRecord) :
    Decision CouponRecord (Option CouponRecord) :=
  match current with
  | none => .noop none
  | some record =>
    if record.status ≠ .paying ∨ record.attemptId ≠ some attemptId then .noop none
    else
      let settled : CouponRecord :=
        match failureReason with
        | none => { record with status := .redeemed, redeemedAt := some now }.push .payInvoiceSucceeded now
        | some reason =>
          { record with status := .manualReview, failureReason := some reason }.push .payInvoiceFailed now
      .set settled (some settled)

/-! ## Operators and partners -/

inductive ResolveAction where
  | void | release | markRedeemed
  deriving DecidableEq, Repr

inductive ResolveOutcome where
  | ok (record : CouponRecord)
  | notFound
  | cannotRelease (status : CouponStatus)
  | cannotMarkRedeemed (status : CouponStatus)
  deriving DecidableEq, Repr

/-- The states an operator may release, or mark as redeemed. -/
def CouponStatus.resolvable : CouponStatus → Bool
  | .manualReview | .redeeming | .paying => true
  | .issued | .redeemed | .void => false

/-- `POST /admin/coupon/resolve`. Voiding has no status check. -/
def resolveCoupon (action : ResolveAction) (now : ℕ) (current : Option CouponRecord) :
    Decision CouponRecord ResolveOutcome :=
  match current with
  | none => .noop .notFound
  | some record =>
    match action with
    | .void =>
      let resolved := { record with status := .void, attemptId := none }.push .adminVoid now
      .set resolved (.ok resolved)
    | .release =>
      if ¬ record.status.resolvable then .noop (.cannotRelease record.status)
      else
        let resolved := { record with
          status := .issued, redeemingAt := none, attemptId := none, plId := none }.push .adminRelease now
        .set resolved (.ok resolved)
    | .markRedeemed =>
      if ¬ record.status.resolvable then .noop (.cannotMarkRedeemed record.status)
      else
        let resolved := { record with
          status := .redeemed, redeemedAt := some now, attemptId := none }.push .adminMarkRedeemed now
        .set resolved (.ok resolved)

inductive VoidRefusal where
  | notFound | tombstoned | notYours
  | status (status : CouponStatus)
  deriving DecidableEq, Repr

inductive VoidOutcome where
  | ok (refundOpId : Uuid)
  /-- Refused, with the credit a previous void has authorised. -/
  | refused (reason : VoidRefusal) (owed : Option Uuid)
  deriving DecidableEq, Repr

/-- The transition of `voidPartnerCoupon`: from `issued` only, stamped with the refund it authorises. -/
def voidIssued (partnerId : String) (refundOpId : Uuid) (now : ℕ) (current : Option CouponRecord) :
    Decision CouponRecord VoidOutcome :=
  match current with
  | none => .noop (.refused .notFound none)
  | some record =>
    if record.tombstone then .noop (.refused .tombstoned none)
    else if record.partnerId ≠ some partnerId then .noop (.refused .notYours none)
    else if record.status ≠ .issued then .noop (.refused (.status record.status) record.refundOpId)
    else
      let voided := { record with
        status := .void, refundOpId := some refundOpId, refundPending := true, attemptId := none }
      .set (voided.push .partnerVoid now) (.ok refundOpId)

/-- Note on the coupon that its refund has been credited. -/
def stampRefund (refundOpId ledgerId : Uuid) (credited : Bool) (current : Option CouponRecord) :
    Decision CouponRecord Unit :=
  match current with
  | none => .noop ()
  | some record =>
    if record.refundOpId ≠ some refundOpId then .noop ()
    else
      let ledger := if credited then ledgerId else record.refundLedgerId.getD ledgerId
      .set { record with refundPending := false, refundLedgerId := some ledger } ()

/-- Create-if-absent on a coupon key. -/
def createCoupon (record : CouponRecord) (current : Option CouponRecord) : Decision CouponRecord Bool :=
  match current with
  | none => .set record true
  | some _ => .noop false

end MppRouter.Routes
