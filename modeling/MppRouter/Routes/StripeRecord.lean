import MppRouter.Mpp.Decision
import Mathlib.Algebra.Group.Int.Defs

/-! # Stripe fulfillment records

One durable record per Stripe payin session carries the settlement of its invoice. Every writer is a
pure function on the record it replaces: the webhook claims the record before it pays and finalizes it
afterwards, the reconciler and the retry move it on what Stripe says, a human resolves what neither can.
A Stripe order id is a fixed text before the invoice key, so the invoice key stands for both.
-/

namespace MppRouter.Routes.Stripe

open Mpp

inductive StripeRouterStatus where
  | rozoPaymentCreated | payinSeen | payoutSeen | providerPaying | providerSubmitted
  | providerSubmittedAmbiguous | providerDisabled | paid | failedInvoiceChanged | failedInvoiceExpired
  | failedInsufficientBalance | failedProvider | manualReview | claimedByOtherChannel
  deriving DecidableEq, Repr

namespace StripeRouterStatus

/-- How far along the lifecycle a status is. -/
def rank : StripeRouterStatus → ℕ
  | rozoPaymentCreated => 0
  | payinSeen => 1
  | payoutSeen => 2
  | providerPaying => 3
  | providerSubmitted | providerSubmittedAmbiguous | providerDisabled => 4
  | paid | failedInvoiceChanged | failedInvoiceExpired | failedInsufficientBalance | failedProvider
  | manualReview | claimedByOtherChannel => 9

/-- No webhook event moves a record on from here. -/
def terminal : StripeRouterStatus → Bool
  | paid | manualReview | failedProvider | claimedByOtherChannel => true
  | _ => false

/-- A settlement is running, or has run and is not known to have failed. -/
def inFlight : StripeRouterStatus → Bool
  | providerPaying | providerSubmitted | providerSubmittedAmbiguous => true
  | _ => false

/-- A webhook event may claim the record from here. -/
def claimable (status : StripeRouterStatus) : Bool := !status.terminal && !status.inFlight

end StripeRouterStatus

/-! ## Events -/

/-- A payin session as Stripe shows it. `reading` numbers the read it comes from; no code looks at it. -/
structure LiveState where
  state : String
  blockchainTxId : Option String
  reading : ℕ
  deriving DecidableEq, Repr

inductive RetrySource where
  | cron
  | admin (evidence retriedBy : String)
  deriving DecidableEq, Repr

inductive EventDetail where
  | absent
  /-- The masked invoice key. -/
  | invoice
  | balance (balance invoice : ℤ)
  | amount (invoice : ℤ)
  /-- The message of what was thrown. -/
  | thrown
  | error (error : String)
  | status (status : ℕ)
  | ambiguous (status : ℕ) (signed : Option Bool)
  | live (live : LiveState)
  | retry (source : RetrySource) (attempt : ℕ) (liveState : String)
  | resolution (resolvedBy : String) (txHash : Option String)
  deriving DecidableEq, Repr

def EventDetail.isLive : EventDetail → Bool
  | .live _ => true
  | _ => false

/-- An entry of the audit trail; the kind of a webhook event is whatever type its sender gave it. -/
structure RecordEvent where
  kind : String
  at_ : ℕ
  eventId : Option String := none
  detail : EventDetail := .absent
  deriving DecidableEq, Repr

/-! ## The record -/

/-- A locked amount text, by what `BigInt` makes of it. -/
inductive LockedAmount where
  | integer (value : ℤ)
  | unparseable
  deriving DecidableEq, Repr

/-- The scalars of a provider answer that may be stored. -/
structure ProviderResult where
  ok : Option Bool := none
  status : Option ℕ := none
  success : Option Bool := none
  state : Option String := none
  provider : Option String := none
  blockchainTxId : Option String := none
  reconciledState : Option String := none
  manualResolution : Option String := none
  deriving DecidableEq, Repr

inductive ManualOutcome where
  | paid | failedProvider
  deriving DecidableEq, Repr

def ManualOutcome.status : ManualOutcome → StripeRouterStatus
  | .paid => .paid
  | .failedProvider => .failedProvider

structure ManualResolution where
  resolution : ManualOutcome
  evidence : String
  txHash : Option String
  resolvedBy : String
  at_ : ℕ
  deriving DecidableEq, Repr

structure StripeFulfillmentRecord where
  invoiceKey : String
  status : StripeRouterStatus := .rozoPaymentCreated
  rozoPaymentId : Option String := none
  merchantAccount : Option String := none
  invoiceAmountAtomic : Option LockedAmount := none
  invoiceCurrency : Option String := none
  lockFingerprint : Option String := none
  stripeUrlEncrypted : Option String := none
  funderBalanceAtomic : Option ℤ := none
  paidAt : Option ℕ := none
  failureReason : Option String := none
  providerResult : Option ProviderResult := none
  lastProviderCheckAt : Option ℕ := none
  providerGoneChecks : ℕ := 0
  sessionIndexed : Bool := false
  manualResolution : Option ManualResolution := none
  ambiguousRetries : ℕ := 0
  webhookEventIds : List String := []
  /-- Newest first. -/
  events : List RecordEvent := []
  deriving DecidableEq, Repr

def emptyStripeRecord (invoiceKey : String) : StripeFulfillmentRecord := { invoiceKey }

/-- A text that is there and not empty. -/
def present (text : Option String) : Bool := text.any (· ≠ "")

namespace StripeFulfillmentRecord

def push (record : StripeFulfillmentRecord) (event : RecordEvent) : StripeFulfillmentRecord :=
  { record with events := event :: record.events }

/-- The locked binding a settlement needs is there. -/
def locked (record : StripeFulfillmentRecord) : Bool :=
  present record.merchantAccount && record.invoiceAmountAtomic.isSome && present record.stripeUrlEncrypted

end StripeFulfillmentRecord

/-- Run a mutation on the stored record, or on an empty one. -/
def updateStripeRecord {R : Type} (invoiceKey : String)
    (mutate : StripeFulfillmentRecord → Decision StripeFulfillmentRecord R)
    (current : Option StripeFulfillmentRecord) : Decision StripeFulfillmentRecord R :=
  mutate (current.getD (emptyStripeRecord invoiceKey))

/-! ## Seeding -/

structure SeedArgs where
  merchantAccount : Option String
  invoiceAmountAtomic : LockedAmount
  invoiceCurrency : String
  lockFingerprint : String
  stripeUrlEncrypted : String
  rozoPaymentId : Option String
  /-- The pay-URL index entry was written. -/
  indexed : Bool
  deriving DecidableEq, Repr

/-- Fill the lock fields that are missing; the status stays. -/
def seedStripeRecord (args : SeedArgs) (now : ℕ) (record : StripeFulfillmentRecord) :
    Decision StripeFulfillmentRecord Unit :=
  let seeded : StripeFulfillmentRecord := { record with
    merchantAccount := record.merchantAccount <|> args.merchantAccount
    invoiceAmountAtomic := record.invoiceAmountAtomic <|> some args.invoiceAmountAtomic
    invoiceCurrency := record.invoiceCurrency <|> some args.invoiceCurrency
    lockFingerprint := record.lockFingerprint <|> some args.lockFingerprint
    stripeUrlEncrypted := record.stripeUrlEncrypted <|> some args.stripeUrlEncrypted
    sessionIndexed := record.sessionIndexed || args.indexed
    rozoPaymentId :=
      if !present record.rozoPaymentId && present args.rozoPaymentId then args.rozoPaymentId
      else record.rozoPaymentId
    status :=
      if record.status.rank < StripeRouterStatus.rozoPaymentCreated.rank ∨ record.status = .rozoPaymentCreated then
        .rozoPaymentCreated
      else record.status }
  .set (seeded.push { kind := "rozo_payment_created", at_ := now, detail := .invoice }) ()

/-! ## Claiming -/

structure StripeWebhookInput where
  eventId : String
  eventType : String
  rozoPaymentId : Option String
  deriving DecidableEq, Repr

def StripeWebhookInput.payinCompleted (input : StripeWebhookInput) : Bool :=
  input.eventType = "payment_payin_completed"

def StripeWebhookInput.payoutCompleted (input : StripeWebhookInput) : Bool :=
  input.eventType = "payment_payout_completed"

inductive Claim where
  | claimed (invoiceAtomic : ℤ)
  | terminal (status : StripeRouterStatus)
  | inFlight
  | ignored (eventType : String)
  | manualReview (reason : String)
  deriving DecidableEq, Repr

/-- Keep the event for audit. -/
def recordWebhookEvent (input : StripeWebhookInput) (now : ℕ) (record : StripeFulfillmentRecord) :
    StripeFulfillmentRecord :=
  { record with
    rozoPaymentId := if present record.rozoPaymentId then record.rozoPaymentId else input.rozoPaymentId
    webhookEventIds :=
      if input.eventId ∈ record.webhookEventIds then record.webhookEventIds
      else record.webhookEventIds ++ [input.eventId]
    events :=
      { kind := input.eventType, at_ := now, eventId := some input.eventId, detail := .invoice } :: record.events }

def sendToReview (record : StripeFulfillmentRecord) (failureReason reason : String) :
    Decision StripeFulfillmentRecord Claim :=
  .set { record with status := .manualReview, failureReason := some failureReason } (.manualReview reason)

/-- Take the single in-flight slot, when the locked binding is there and the amount is positive. -/
def claimLocked (record : StripeFulfillmentRecord) : Decision StripeFulfillmentRecord Claim :=
  if !record.locked then
    sendToReview record "missing locked binding (merchant/amount/url) in record" "missing_lock_binding"
  else match record.invoiceAmountAtomic with
    | some (.integer invoiceAtomic) =>
      if invoiceAtomic ≤ 0 then
        sendToReview record "locked invoiceAmountAtomic non-positive" "invoice_unmeasurable"
      else .set { record with status := .providerPaying } (.claimed invoiceAtomic)
    | _ => sendToReview record "locked invoiceAmountAtomic unparseable" "invoice_unmeasurable"

/-- The status a completion event leads to, before the claim. -/
def advancedBy (input : StripeWebhookInput) (status : StripeRouterStatus) : StripeRouterStatus :=
  if input.payoutCompleted then .payoutSeen
  else if input.payinCompleted ∧ status = .rozoPaymentCreated then .payinSeen
  else status

/-- Phase 1 of a webhook event: dedup, guard, advance and claim in one commit. -/
def claimStripeRecord (input : StripeWebhookInput) (now : ℕ) (stored : StripeFulfillmentRecord) :
    Decision StripeFulfillmentRecord Claim :=
  let record := recordWebhookEvent input now stored
  if record.status.terminal then .set record (.terminal record.status)
  else if record.status.inFlight then .set record .inFlight
  else if !(input.payinCompleted || input.payoutCompleted) then
    let status := if record.status = .rozoPaymentCreated then .payinSeen else record.status
    .set { record with status } (.ignored input.eventType)
  else claimLocked { record with status := advancedBy input record.status }

/-! ## Giving the claim back -/

/-- Step a held claim down to a state a later event can settle from. -/
def releaseClaim (now : ℕ) (releaseTo : StripeRouterStatus) (balance : Option ℤ) (kind : String)
    (detail : EventDetail) (record : StripeFulfillmentRecord) : Decision StripeFulfillmentRecord Unit :=
  let held := decide (record.status = .providerPaying)
  let released : StripeFulfillmentRecord := { record with
    status := if held then releaseTo else record.status
    failureReason :=
      if held && releaseTo = .failedInsufficientBalance then some "funder available < invoice"
      else record.failureReason
    funderBalanceAtomic := balance <|> record.funderBalanceAtomic }
  .set (released.push { kind, at_ := now, detail }) ()

structure FinalizeOpts where
  failureReason : Option String := none
  providerResult : Option ProviderResult := none
  kind : String
  detail : EventDetail := .absent
  deriving DecidableEq, Repr

/-- Move a held claim to its outcome. -/
def finalizeClaim (now : ℕ) (finalStatus : StripeRouterStatus) (opts : FinalizeOpts)
    (record : StripeFulfillmentRecord) : Decision StripeFulfillmentRecord Unit :=
  let finalized : StripeFulfillmentRecord := { record with
    status := if record.status ≠ .paid then finalStatus else record.status
    failureReason :=
      if finalStatus = .providerDisabled then none else opts.failureReason <|> record.failureReason
    providerResult := opts.providerResult <|> record.providerResult }
  .set (finalized.push { kind := opts.kind, at_ := now, detail := opts.detail }) ()

/-! ## Reconciling with Stripe -/

def reconcileMinIntervalMs : ℕ := 15000
def reconcileGoneEscalateAfter : ℕ := 3
def reconcileSweepMax : ℕ := 20

inductive Transition where
  | paid | failedProvider
  deriving DecidableEq, Repr

/-- What a live state decides about a settlement in flight. -/
def transitionOf (state : String) : Option Transition :=
  if state ∈ ["fulfillment_complete"] then some .paid
  else if state ∈ ["failed", "canceled", "error"] then some .failedProvider
  else none

/-- Claim the throttle interval of a check. -/
def stampProviderCheck (now minInterval : ℕ) (record : StripeFulfillmentRecord) :
    Decision StripeFulfillmentRecord Bool :=
  if !record.status.inFlight then .noop false
  else if record.lastProviderCheckAt.any fun last => (now : ℤ) - last < minInterval then .noop false
  else .set { record with lastProviderCheckAt := some now } true

def sessionGone (error : String) : Bool := error = "stripe_expired"

/-- Count the consecutive checks that found the session gone. -/
def noteCheckError (now : ℕ) (error : String) (record : StripeFulfillmentRecord) : StripeFulfillmentRecord :=
  let counted : StripeFulfillmentRecord :=
    { record with providerGoneChecks := if sessionGone error then record.providerGoneChecks + 1 else 0 }
  counted.push { kind := "stripe_reconcile_error", at_ := now, detail := .error error }

/-- A check failed; a session that stays gone while a settlement is in flight goes to a human. -/
def recordCheckError (now : ℕ) (error : String) (record : StripeFulfillmentRecord) :
    Decision StripeFulfillmentRecord Bool :=
  let checked := noteCheckError now error record
  if sessionGone error ∧ checked.status.inFlight ∧ checked.providerGoneChecks ≥ reconcileGoneEscalateAfter then
    let escalated : StripeFulfillmentRecord := { checked with
      status := .manualReview
      failureReason := some "stripe session no longer resumable (410) while settlement was in flight — confirm merchant credit by hand" }
    .set (escalated.push { kind := "stripe_reconcile_manual_review", at_ := now, detail := .error error }) true
  else .set checked false

/-- Note the state Stripe reports on a result. -/
def ProviderResult.reconciled (live : LiveState) (result : Option ProviderResult) : ProviderResult :=
  { result.getD {} with reconciledState := some live.state, blockchainTxId := live.blockchainTxId }

/-- A check succeeded; what Stripe decides moves a settlement in flight. -/
def recordCheck (now : ℕ) (live : LiveState) (record : StripeFulfillmentRecord) :
    Decision StripeFulfillmentRecord Unit :=
  let checked : StripeFulfillmentRecord := { record with providerGoneChecks := 0 }
  match transitionOf live.state, checked.status.inFlight with
  | some .paid, true =>
    let paid : StripeFulfillmentRecord := { checked with
      status := .paid, paidAt := some now, failureReason := none
      providerResult := some (ProviderResult.reconciled live checked.providerResult) }
    .set (paid.push { kind := "stripe_reconciled_paid", at_ := now, detail := .live live }) ()
  | some .failedProvider, true =>
    let failed : StripeFulfillmentRecord := { checked with
      status := .failedProvider
      failureReason := some ("stripe session state \"" ++ live.state ++ "\" after settlement attempt")
      providerResult := some (ProviderResult.reconciled live checked.providerResult) }
    .set (failed.push { kind := "stripe_reconciled_failed_provider", at_ := now, detail := .live live }) ()
  | _, _ => .set (checked.push { kind := "stripe_reconcile_checked", at_ := now, detail := .live live }) ()

/-! ## Retrying an ambiguous outcome -/

def ambiguousRetryGraceMs : ℕ := 3 * 60 * 1000
def ambiguousMaxAutoRetries : ℕ := 2
def ambiguousRetrySafeStates : List String := ["initialized", "checkout"]
def ambiguousEventKinds : List String := ["stripe_confirm_ambiguous", "stripe_settlement_threw"]

/-- Stripe shows the session untouched: no purchase was started and no transaction is there. -/
def LiveState.safe (live : LiveState) : Bool :=
  live.state ∈ ambiguousRetrySafeStates && !present live.blockchainTxId

structure AmbiguousEvent where
  at_ : ℕ
  signed : Option Bool
  deriving DecidableEq, Repr

def EventDetail.signed : EventDetail → Option Bool
  | .ambiguous _ signed => signed
  | _ => none

def lastAmbiguousEvent (record : StripeFulfillmentRecord) : Option AmbiguousEvent :=
  (record.events.find? fun event => event.kind ∈ ambiguousEventKinds).map fun event =>
    ⟨event.at_, event.detail.signed⟩

structure ReconcileCheck where
  at_ : ℕ
  live : LiveState
  deriving DecidableEq, Repr

/-- The check an event records; a detail of another shape records none. -/
def RecordEvent.check (event : RecordEvent) : Option ReconcileCheck :=
  match event.detail with
  | .live live => some ⟨event.at_, live⟩
  | _ => none

def lastReconcileCheck (record : StripeFulfillmentRecord) : Option ReconcileCheck :=
  (record.events.find? fun event => event.kind = "stripe_reconcile_checked").bind RecordEvent.check

/-- The check a cron retry may reuse: it carries the latest stamp and is recent. -/
def freshCheck (now : ℕ) (record : StripeFulfillmentRecord) : Option ReconcileCheck :=
  match lastReconcileCheck record, record.lastProviderCheckAt with
  | some checked, some stamp =>
    if checked.at_ ≥ stamp ∧ (now : ℤ) - checked.at_ ≤ reconcileMinIntervalMs then some checked else none
  | _, _ => none

structure RetryPlan where
  source : RetrySource
  /-- Attempts and the ambiguous answer as they were inspected. -/
  attempts : ℕ
  last : Option AmbiguousEvent
  liveState : String
  deriving DecidableEq, Repr

/-- Re-open an ambiguous record, when it is still as it was inspected. -/
def reopenAmbiguous (now : ℕ) (plan : RetryPlan) (record : StripeFulfillmentRecord) :
    Decision StripeFulfillmentRecord Bool :=
  if record.status ≠ .providerSubmittedAmbiguous then .noop false
  else if record.ambiguousRetries ≠ plan.attempts then .noop false
  else if (lastAmbiguousEvent record).map AmbiguousEvent.at_ ≠ plan.last.map AmbiguousEvent.at_ then .noop false
  else
    let reopened : StripeFulfillmentRecord := { record with
      status := .payoutSeen, failureReason := none, ambiguousRetries := plan.attempts + 1 }
    .set (reopened.push
      { kind := "stripe_ambiguous_retry", at_ := now
        detail := .retry plan.source (plan.attempts + 1) plan.liveState }) true

/-! ## Human resolution -/

inductive ManualResolveOutcome where
  | noRecord
  | notManualReview (status : StripeRouterStatus)
  | resolved (status : StripeRouterStatus) (paidAt : Option ℕ)
  | alreadyResolved (status : StripeRouterStatus) (paidAt : Option ℕ)
  deriving DecidableEq, Repr

/-- Move a record out of manual review on human evidence. -/
def resolveManualReview (args : ManualResolution) (record : StripeFulfillmentRecord) :
    Decision StripeFulfillmentRecord ManualResolveOutcome :=
  if record.status = args.resolution.status ∧ record.manualResolution.isSome then
    .noop (.alreadyResolved record.status record.paidAt)
  else if record.status ≠ .manualReview then .noop (.notManualReview record.status)
  else
    let resolved : StripeFulfillmentRecord := { record with
      status := args.resolution.status, manualResolution := some args }
    match args.resolution with
    | .paid =>
      let paid : StripeFulfillmentRecord := { resolved with
        paidAt := some args.at_, failureReason := none
        providerResult := some { record.providerResult.getD {} with
          manualResolution := some "paid", blockchainTxId := args.txHash } }
      .set (paid.push
        { kind := "manual_review_resolved_paid", at_ := args.at_, detail := .resolution args.resolvedBy args.txHash })
        (.resolved .paid paid.paidAt)
    | .failedProvider =>
      let failed : StripeFulfillmentRecord := { resolved with
        failureReason := some ("manual_review resolved as failed_provider by " ++ args.resolvedBy) }
      .set (failed.push
        { kind := "manual_review_resolved_failed_provider", at_ := args.at_
          detail := .resolution args.resolvedBy args.txHash })
        (.resolved .failedProvider failed.paidAt)

end MppRouter.Routes.Stripe
