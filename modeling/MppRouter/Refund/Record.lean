import MppRouter.Core.Decimal
import MppRouter.Mpp.Decision

/-! # Refund records

A refund record is one durable value per settled payment. It moves through its states only by the
update functions below, each decided on the value it replaces.
-/

namespace MppRouter.Refund

open Mpp

inductive RefundReason where
  | timeout | upstream5xx | nonFulfillment | emptyResponse
  deriving DecidableEq, Repr

inductive RefundState where
  | pending | leased | submitted | confirmed | manualReview
  deriving DecidableEq, Repr

inductive PaymentMode where
  | charge | channel
  deriving DecidableEq, Repr

structure PaymentProof where
  paymentId : String
  paymentTx : String
  payer : String
  recipient : String
  asset : String
  amountAtomic : String
  mode : PaymentMode
  deriving DecidableEq, Repr

/-- A signed refund transaction, by the content its hash covers. -/
structure Envelope where
  sequence : ℕ
  fee : ℕ
  minTime : ℕ
  maxTime : ℕ
  /-- The envelope carries Soroban resource data. -/
  soroban : Bool
  deriving DecidableEq, Repr

/-- A transaction hash stands for the content it was computed from. -/
structure TxHash where
  content : Envelope
  deriving DecidableEq, Repr

def Envelope.hash (envelope : Envelope) : TxHash := ⟨envelope⟩

theorem Envelope.hash_injective : Function.Injective Envelope.hash :=
  fun _ _ same => congrArg TxHash.content same

/-- The audit trail of operator recoveries. -/
structure RefundAuditEvent where
  kind : String
  at_ : ℕ
  from_ : RefundState
  discardedRefundTx : Option TxHash
  reason : Option String
  deriving DecidableEq, Repr

structure Lease where
  id : String
  until_ : ℕ
  deriving DecidableEq, Repr

structure RefundRecord where
  version : ℕ := 1
  refundId : String
  publicId : String
  state : RefundState
  reason : RefundReason
  payment : PaymentProof
  merchant : String
  routeId : String
  orderId : Option String
  refundAmountAtomic : String
  createdAt : ℕ
  events : List RefundAuditEvent := []
  lease : Option Lease := none
  refundTx : Option TxHash := none
  signedXdr : Option Envelope := none
  confirmedLedger : Option ℕ := none
  confirmedAt : Option ℕ := none
  deriving DecidableEq, Repr

structure EnqueueInput where
  proof : PaymentProof
  reason : RefundReason
  merchant : String
  routeId : String
  orderId : Option String
  deriving DecidableEq, Repr

/-- The amount check of `enqueueRefund`. -/
def positiveAtomic (amount : String) : Bool := (Decimal.parseNat amount.toList).elim false (0 < ·)

/-- Record the refund of a settled payment once; a later enqueue returns the record that exists. -/
def enqueueRefund (refundId publicId : String) (createdAt : ℕ) (input : EnqueueInput)
    (current : Option RefundRecord) : Except String (Decision RefundRecord RefundRecord) :=
  if ¬ positiveAtomic input.proof.amountAtomic then .error "Refund amount must be positive atomic units"
  else match current with
    | some existing => .ok (.noop existing)
    | none =>
      let created : RefundRecord :=
        { refundId, publicId, state := .pending, reason := input.reason, payment := input.proof
          merchant := input.merchant, routeId := input.routeId, orderId := input.orderId
          refundAmountAtomic := input.proof.amountAtomic, createdAt }
      .ok (.set created created)

/-- Take a pending job, or one whose lease has run out, for a minute. -/
def leaseRefund (leaseId : String) (now : ℕ) (current : Option RefundRecord) :
    Decision RefundRecord (Option RefundRecord) :=
  match current with
  | none => .noop none
  | some record =>
    let active := record.state = .leased ∧ record.lease.elim false fun lease => lease.until_ > now
    if record.state ≠ .pending ∧ active then .noop none
    else if record.state ≠ .pending ∧ record.state ≠ .leased then .noop none
    else
      let leased := { record with state := .leased, lease := some ⟨leaseId, now + 60000⟩ }
      .set leased (some leased)

/-- The states a lease holder may complete a job to. -/
inductive Completion where
  | submitted | confirmed | manualReview
  deriving DecidableEq, Repr

def Completion.state : Completion → RefundState
  | .submitted => .submitted
  | .confirmed => .confirmed
  | .manualReview => .manualReview

structure CompleteUpdate where
  state : Completion
  refundTx : TxHash
  signedXdr : Option Envelope := none
  confirmedLedger : Option ℕ := none
  deriving DecidableEq, Repr

/-- Move a leased job on. An answer with a record tells the lease holder to go ahead. -/
def completeRefund (leaseId : String) (update : CompleteUpdate) (now : ℕ) (current : Option RefundRecord) :
    Decision RefundRecord (Option RefundRecord) :=
  match current with
  | none => .noop none
  | some record =>
    if record.state = .confirmed then .noop (some record)
    else if record.lease.map Lease.id ≠ some leaseId then .noop none
    else if record.state = .submitted ∧ update.state ≠ .confirmed then
      let identical := record.refundTx = some update.refundTx ∧
        (update.signedXdr = none ∨ record.signedXdr = update.signedXdr)
      if update.state = .submitted then .noop (if identical then some record else none)
      else if ¬ identical then .noop none
      else
        let reviewed := { record with state := .manualReview }
        .set reviewed (some reviewed)
    else if update.state = .confirmed ∧ record.state ≠ .submitted then .noop none
    else if update.state = .submitted ∧ (update.signedXdr = none ∨ record.state ≠ .leased) then .noop none
    else
      let next :=
        { record with
          state := update.state.state
          refundTx := some update.refundTx
          signedXdr := update.signedXdr.or record.signedXdr
          confirmedLedger := update.confirmedLedger.or record.confirmedLedger
          confirmedAt := if update.state = .confirmed then some now else record.confirmedAt }
      .set next (some next)

inductive UnparkOutcome where
  | ok (changed : Bool) (record : RefundRecord)
  | notFound
  | invalidState (state : RefundState)
  deriving DecidableEq, Repr

/-- Operator recovery: a parked job goes back to pending without its lease and its envelope. -/
def unparkRefund (reason : Option String) (now : ℕ) (current : Option RefundRecord) :
    Decision RefundRecord UnparkOutcome :=
  match current with
  | none => .noop .notFound
  | some record =>
    if record.state = .pending then .noop (.ok false record)
    else if record.state ≠ .manualReview then .noop (.invalidState record.state)
    else
      let unparked :=
        { record with
          refundTx := none, signedXdr := none, lease := none, state := .pending
          events := record.events ++ [⟨"admin_unpark", now, .manualReview, record.refundTx, reason⟩] }
      .set unparked (.ok true unparked)

/-- Return a submitted job whose envelope was proven dead to pending. -/
def requeueMalformedRefund (leaseId : String) (expectedTx : TxHash) (current : Option RefundRecord) :
    Decision RefundRecord (Option RefundRecord) :=
  match current with
  | none => .noop none
  | some record =>
    if record.state ≠ .submitted ∨ record.lease.map Lease.id ≠ some leaseId then .noop none
    else if record.refundTx ≠ some expectedTx ∨ record.signedXdr = none then .noop none
    else
      let pending := { record with refundTx := none, signedXdr := none, lease := none, state := .pending }
      .set pending (some pending)

/-! ## Dead envelopes

An envelope is provably dead only when the answer that did not find it shows a closed ledger past its `maxTime` and
retained history back to its `minTime`. The router and the signer each have a test of their own.
-/

/-- The router's test, over the close times of the answer as integers. -/
def StellarProof.isProvablyDeadEnvelope (envelope : Envelope)
    (latestLedgerCloseTimeSecs oldestLedgerCloseTimeSecs : ℤ) : Bool :=
  let maxTime : ℤ := envelope.maxTime
  let minTime : ℤ := envelope.minTime
  if maxTime ≤ 0 ∨ minTime ≤ 0 then false
  else if latestLedgerCloseTimeSecs ≤ 0 ∨ oldestLedgerCloseTimeSecs ≤ 0 then false
  else if maxTime ≥ latestLedgerCloseTimeSecs then false
  else oldestLedgerCloseTimeSecs ≤ minTime

/-- The trigger of the signer's `confirmSubmitted`, over the close times of its own answer. -/
def ConfirmSubmitted.expired (envelope : Envelope) (latestLedgerCloseTime oldestLedgerCloseTime : ℤ) : Bool :=
  let maxTime : ℤ := envelope.maxTime
  let ledgerClose := latestLedgerCloseTime
  let oldestClose := oldestLedgerCloseTime
  let minTime : ℤ := envelope.minTime
  maxTime > 0 && minTime > 0 && ledgerClose > 0 && maxTime < ledgerClose && oldestClose > 0 && oldestClose ≤ minTime

/-- What both tests ask. -/
def Envelope.Outlived (envelope : Envelope) (latest oldest : ℤ) : Prop :=
  0 < envelope.minTime ∧ 0 < envelope.maxTime ∧ (envelope.maxTime : ℤ) < latest ∧ 0 < oldest ∧ oldest ≤ envelope.minTime

section Copies

variable {envelope : Envelope} {latest oldest : ℤ}

theorem StellarProof.isProvablyDeadEnvelope_iff :
    StellarProof.isProvablyDeadEnvelope envelope latest oldest = true ↔ envelope.Outlived latest oldest := by
  simp only [StellarProof.isProvablyDeadEnvelope, Envelope.Outlived]
  split_ifs with unbounded unread early
  · simp only [false_iff]
    omega
  · simp only [false_iff]
    omega
  · simp only [false_iff]
    omega
  · rw [decide_eq_true_eq]
    omega

theorem ConfirmSubmitted.expired_iff :
    ConfirmSubmitted.expired envelope latest oldest = true ↔ envelope.Outlived latest oldest := by
  unfold ConfirmSubmitted.expired Envelope.Outlived
  simp only [Bool.and_eq_true, decide_eq_true_eq]
  omega

end Copies

end MppRouter.Refund
