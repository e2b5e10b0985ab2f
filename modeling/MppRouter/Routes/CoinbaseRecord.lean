import MppRouter.Routes.PayInvoice

/-! # Coinbase fulfillment records

One record per Coinbase link in a store that is not atomic: a read may be stale and a write replaces
whatever is there. A guarded save merges with what it reads back, so that a status never steps down; it
narrows the races and closes none of them.
-/

namespace MppRouter.Routes.Coinbase

inductive FulfillmentStatus where
  | payinSeen | paying | paid | capturePending | manualReview | failedInsufficientBalance | failedPayInvoice
  | claimedByOtherChannel | testSettled | orderBindingFailed
  deriving DecidableEq, Repr

namespace FulfillmentStatus

/-- How far along a status is. -/
def rank : FulfillmentStatus → ℕ
  | payinSeen | failedInsufficientBalance => 0
  | paying => 1
  | capturePending => 2
  | manualReview | failedPayInvoice | claimedByOtherChannel | orderBindingFailed => 3
  | paid | testSettled => 4

end FulfillmentStatus

/-- An entry of the audit trail. -/
structure RecordEvent where
  kind : String
  at_ : ℕ
  eventId : Option String := none
  /-- What else is noted, as JSON. -/
  detail : Option String := none
  deriving DecidableEq, Repr

structure FulfillmentRecord where
  plId : String
  status : FulfillmentStatus := .payinSeen
  rozoPaymentId : Option String := none
  invoiceAmountAtomic : Option ℤ := none
  funderBalanceAtomic : Option ℤ := none
  paidAt : Option ℕ := none
  payingAt : Option ℕ := none
  failureReason : Option String := none
  webhookEventIds : List String := []
  /-- Oldest first. -/
  events : List RecordEvent := []
  /-- The Rozo order that settles the invoice, and the others that paid for it too. -/
  settlingRozoPaymentId : Option String := none
  duplicateRozoPaymentIds : List String := []
  deliveredReported : Bool := false
  deliveredReportAttempts : ℕ := 0
  /-- Alerts of the sweep that are sent once. -/
  alertedStuck : Bool := false
  alertedManualReview : Bool := false
  alertedDeliveredGiveUp : Bool := false
  alertedQueryFailing : Bool := false
  deriving DecidableEq, Repr

def emptyRecord (plId : String) : FulfillmentRecord := { plId }

/-! ## The settling order -/

/-- A text counts when it is there and not empty. -/
def truthy (text : Option String) : Option String := text.filter (· ≠ "")

inductive SettlingDecision where
  | none | adopted | same | duplicate | duplicateSeen
  deriving DecidableEq, Repr

/-- Follow the Rozo order that pays. `locked` says that the record entered a pay attempt already. -/
def trackSettlingOrder (record : FulfillmentRecord) (incoming : Option String) (settles locked : Bool) :
    SettlingDecision × FulfillmentRecord :=
  match truthy incoming with
  | none => (.none, record)
  | some order =>
    if !settles then
      (.none, if (truthy record.rozoPaymentId).isNone then { record with rozoPaymentId := some order } else record)
    else
      match truthy (record.settlingRozoPaymentId <|> if locked then record.rozoPaymentId else none) with
      | none => (.adopted, { record with settlingRozoPaymentId := some order, rozoPaymentId := some order })
      | some settling =>
        let tracked := if (truthy record.settlingRozoPaymentId).isNone then
          { record with settlingRozoPaymentId := some settling } else record
        if settling = order then (.same, tracked)
        else if order ∈ record.duplicateRozoPaymentIds then (.duplicateSeen, tracked)
        else (.duplicate, { tracked with duplicateRozoPaymentIds := record.duplicateRozoPaymentIds ++ [order] })

/-- Keep the first of equal entries. -/
def unique {α : Type} [DecidableEq α] (entries : List α) : List α := entries.reverse.dedup.reverse

/-- Merge the settling order of two copies of a record; a second one is a duplicate. -/
def mergeSettlingTrack (stored next : FulfillmentRecord) (base : FulfillmentRecord) : FulfillmentRecord :=
  let settling := stored.settlingRozoPaymentId <|> next.settlingRozoPaymentId
  let raced := match truthy stored.settlingRozoPaymentId, truthy next.settlingRozoPaymentId with
    | some mine, some theirs => if mine ≠ theirs then [theirs] else []
    | _, _ => []
  { base with
    rozoPaymentId := settling <|> stored.rozoPaymentId <|> next.rozoPaymentId
    settlingRozoPaymentId := settling
    duplicateRozoPaymentIds :=
      (unique (stored.duplicateRozoPaymentIds ++ next.duplicateRozoPaymentIds ++ raced)).filter fun order =>
        some order ≠ settling }

/-! ## Guarded saves -/

/-- The stored status stays, rather than step down or be replaced by another of its rank. -/
def keepStoredStatus (stored next : FulfillmentStatus) : Bool :=
  next.rank < stored.rank ∨ next.rank = stored.rank ∧ 0 < stored.rank ∧ stored ≠ next

def mergeEvents (stored next : List RecordEvent) : List RecordEvent :=
  (unique (stored ++ next)).insertionSort fun a b => a.at_ ≤ b.at_

/-- What a guarded save writes over the copy it reads back. -/
def mergeRecord (stored : Option FulfillmentRecord) (next : FulfillmentRecord) : FulfillmentRecord :=
  match stored with
  | none => next
  | some stored =>
    let base := if keepStoredStatus stored.status next.status then stored else next
    mergeSettlingTrack stored next { base with
      events := mergeEvents stored.events next.events
      webhookEventIds := unique (stored.webhookEventIds ++ next.webhookEventIds)
      deliveredReported := stored.deliveredReported || next.deliveredReported
      deliveredReportAttempts := max stored.deliveredReportAttempts next.deliveredReportAttempts
      alertedStuck := stored.alertedStuck || next.alertedStuck
      alertedManualReview := stored.alertedManualReview || next.alertedManualReview
      alertedDeliveredGiveUp := stored.alertedDeliveredGiveUp || next.alertedDeliveredGiveUp
      alertedQueryFailing := stored.alertedQueryFailing || next.alertedQueryFailing }

end MppRouter.Routes.Coinbase
