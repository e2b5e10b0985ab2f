import MppRouter.Core.Prog
import MppRouter.Refund.Record

/-! # The refund signer against the network

The record of one payment, the ledgers closed so far and the envelopes handed to the network form the
world. Signer runs, operator recoveries and ledger closes interleave over it. A check of the signer
that can only end a run (the policy, the transfer fields, the fee limits) is not a step of its own:
a thread may stop at any point.
-/

namespace MppRouter.Refund

open Concurrent Mpp

/-- A closed ledger, with the refund envelopes it includes and whether each succeeded. -/
structure Ledger where
  closeTime : ℕ
  sequence : ℕ
  transactions : List (Envelope × Bool)
  deriving DecidableEq, Repr

structure World where
  record : Option RefundRecord
  /-- Closed ledgers, newest first. -/
  ledgers : List Ledger
  /-- Every envelope handed to `sendTransaction` so far. -/
  broadcast : List Envelope

/-- Close time of the newest ledger, zero before the first. -/
def latestCloseTime (ledgers : List Ledger) : ℕ := (ledgers.head?.map Ledger.closeTime).getD 0

/-- The refund envelopes on chain. -/
def includedIn (ledgers : List Ledger) : List Envelope :=
  ledgers.flatMap fun ledger => ledger.transactions.map Prod.fst

def World.included (world : World) : List Envelope := includedIn world.ledgers

/-- The network's own rule: a ledger may include an envelope only between its time bounds. -/
def Envelope.validAt (envelope : Envelope) (closeTime : ℕ) : Prop :=
  envelope.minTime ≤ closeTime ∧ (envelope.maxTime = 0 ∨ closeTime ≤ envelope.maxTime)

instance (envelope : Envelope) (closeTime : ℕ) : Decidable (envelope.validAt closeTime) :=
  inferInstanceAs (Decidable (_ ∧ _))

/-- A ledger the network may close next. -/
def Ledger.follows (ledger : Ledger) (world : World) : Prop :=
  latestCloseTime world.ledgers < ledger.closeTime ∧
    (ledger.transactions.map Prod.fst).Nodup ∧
    ∀ envelope ∈ ledger.transactions.map Prod.fst,
      envelope ∈ world.broadcast ∧ envelope.validAt ledger.closeTime ∧ envelope ∉ world.included

instance (ledger : Ledger) (world : World) : Decidable (ledger.follows world) :=
  inferInstanceAs (Decidable (_ ∧ _ ∧ _))

inductive TxStatus where
  | notFound | success | failed
  deriving DecidableEq, Repr

structure GetTransactionResponse where
  status : TxStatus
  latestLedgerCloseTime : ℕ
  oldestLedgerCloseTime : ℕ
  /-- Sequence number of the ledger that includes the transaction. -/
  ledger : ℕ
  deriving DecidableEq, Repr

/-- What a node that retains the ledgers closed between two times answers about a transaction. -/
def answerFor (ledgers : List Ledger) (oldest latest : ℕ) (hash : TxHash) : GetTransactionResponse :=
  let retained := ledgers.filter fun ledger => oldest ≤ ledger.closeTime ∧ ledger.closeTime ≤ latest
  match retained.find? fun ledger => hash.content ∈ ledger.transactions.map Prod.fst with
  | none => ⟨.notFound, latest, oldest, 0⟩
  | some ledger =>
    let succeeded := (ledger.transactions.lookup hash.content).getD false
    ⟨if succeeded then .success else .failed, latest, oldest, ledger.sequence⟩

inductive SendStatus where
  | pending | duplicate | tryAgainLater
  | error (code : Option String)
  deriving DecidableEq, Repr

/-- Rejections that heal by waiting: the job stays submitted for the dead-envelope recovery. -/
def isRetryableSendError (code : Option String) : Bool :=
  code = some "txBadSeq" || code = some "txTooLate" || code = some "txInsufficientFee"

def refundTxMinTimeGraceSeconds : ℕ := 60

def refundTxValiditySeconds : ℕ := 600

def pollAttempts : ℕ := 25

inductive Action where
  | enqueue (refundId publicId : String) (input : EnqueueInput)
  | pendingJob
  | randomUuid
  | lease (leaseId : String)
  | buildSignedRefund
  | readRefund
  | complete (leaseId : String) (update : CompleteUpdate)
  | send (envelope : Envelope)
  | getTransaction (hash : TxHash)
  | requeue (leaseId : String) (expectedTx : TxHash)
  | unpark (reason : Option String)
  | closeLedger
  deriving DecidableEq

@[reducible] def Action.Answer : Action → Type
  | .enqueue _ _ _ => Except String RefundRecord
  | .pendingJob | .readRefund => Option RefundRecord
  | .randomUuid => String
  | .lease _ | .complete _ _ | .requeue _ _ => Option RefundRecord
  | .buildSignedRefund => Envelope
  | .send _ => SendStatus
  | .getTransaction _ => GetTransactionResponse
  | .unpark _ => UnparkOutcome
  | .closeLedger => Unit

/-- What the code does not decide: clocks, random identifiers, the network and its nodes. -/
inductive Choice where
  | plain
  | clock (now : ℕ)
  | uuid (text : String)
  /-- The account sequence and fee of an envelope, and the clock readings of its two time bounds. -/
  | build (sequence fee minClock maxClock : ℕ)
  | sent (status : SendStatus)
  /-- The close times between which the answering node retains ledgers. -/
  | retained (oldest latest : ℕ)
  | close (ledger : Ledger)
  deriving DecidableEq

/-- Apply an update function to the record. -/
def World.update {R : Type} (world : World) (fn : Option RefundRecord → Decision RefundRecord R) : R × World :=
  let decision := fn world.record
  (decision.result, { world with record := decision.after world.record })

def perform : (action : Action) → Choice → World → Option (action.Answer × World)
  | .enqueue refundId publicId input, .clock now, world =>
    match enqueueRefund refundId publicId now input world.record with
    | .error failure => some (.error failure, world)
    | .ok decision => some (.ok decision.result, { world with record := decision.after world.record })
  | .pendingJob, .plain, world =>
    some (world.record.filter fun job => job.state = .pending ∨ job.state = .leased ∨ job.state = .submitted, world)
  | .randomUuid, .uuid text, world => some (text, world)
  | .lease leaseId, .clock now, world => some (world.update (leaseRefund leaseId now))
  | .buildSignedRefund, .build sequence fee minClock maxClock, world =>
    some (⟨sequence, fee, minClock - refundTxMinTimeGraceSeconds, maxClock + refundTxValiditySeconds, true⟩, world)
  | .readRefund, .plain, world => some (world.record, world)
  | .complete leaseId update, .clock now, world => some (world.update (completeRefund leaseId update now))
  | .send envelope, .sent status, world =>
    some (status, { world with broadcast := envelope :: world.broadcast })
  | .getTransaction hash, .retained oldest latest, world =>
    if latest ≤ latestCloseTime world.ledgers then some (answerFor world.ledgers oldest latest hash, world) else none
  | .requeue leaseId expectedTx, .plain, world => some (world.update (requeueMalformedRefund leaseId expectedTx))
  | .unpark reason, .clock now, world => some (world.update (unparkRefund reason now))
  | .closeLedger, .close ledger, world =>
    if ledger.follows world then some ((), { world with ledgers := ledger :: world.ledgers }) else none
  | _, _, _ => none

abbrev refundMachine : Machine where
  Action := Action
  Answer := Action.Answer
  Choice := Choice
  World := World
  perform _ action choice world := perform action choice world

/-! ## The router's refund routes -/

abbrev Signer (α : Type) := Prog Action Action.Answer α

def call (action : Action) : Signer action.Answer := Prog.call action

/-- `POST /admin/refunds/complete`; true when the answer is a success. -/
def completeRoute (leaseId : String) (update : CompleteUpdate) : Signer Bool := do
  match ← call .readRefund with
  | none => pure false
  | some current =>
    if current.lease.map Lease.id ≠ some leaseId then pure false
    else if update.state = .submitted ∧ ¬ update.signedXdr.elim false fun signedXdr =>
        signedXdr.hash = update.refundTx ∧ signedXdr.soroban then pure false
    else
      let job ← call (.complete leaseId update)
      pure job.isSome

/-- `POST /admin/refunds/confirm`: the stored envelope must be on chain and have succeeded. -/
def confirmRoute (leaseId : String) : Signer Bool := do
  match ← call .readRefund with
  | none => pure false
  | some current =>
    if current.lease.map Lease.id ≠ some leaseId then pure false
    else match current.signedXdr, current.refundTx with
      | some signedXdr, some _ => do
        let result ← call (.getTransaction signedXdr.hash)
        if result.status ≠ .success then pure false
        else
          let _ ← call (.complete leaseId
            { state := .confirmed, refundTx := signedXdr.hash, confirmedLedger := some result.ledger })
          pure true
      | _, _ => pure false

/-- `POST /admin/refunds/requeue-malformed`: only an envelope proven dead is discarded. -/
def requeueRoute (leaseId : String) : Signer Bool := do
  match ← call .readRefund with
  | none => pure false
  | some current =>
    if current.state ≠ .submitted ∨ current.lease.map Lease.id ≠ some leaseId then pure false
    else match current.signedXdr, current.refundTx with
      | some signedXdr, some refundTx =>
        if signedXdr.hash ≠ refundTx then pure false
        else do
          let result ← call (.getTransaction refundTx)
          if result.status ≠ .notFound then pure false
          else if signedXdr.soroban ∧ ¬ StellarProof.isProvablyDeadEnvelope signedXdr
              result.latestLedgerCloseTime result.oldestLedgerCloseTime then pure false
          else
            let job ← call (.requeue leaseId refundTx)
            pure job.isSome
      | _, _ => pure false

/-- Poll until the transaction is on chain; false when it failed or never showed up. -/
def waitForTransaction (hash : TxHash) : ℕ → Signer Bool
  | 0 => pure false
  | attempts + 1 => do
    let result ← call (.getTransaction hash)
    match result.status with
    | .success => pure true
    | .failed => pure false
    | .notFound => waitForTransaction hash attempts

def parkRejected (leaseId : String) (refundTx : TxHash) : Signer Bool :=
  completeRoute leaseId { state := .manualReview, refundTx }

/-- The fields of a job that a lease must not change. -/
def proofMatches (job leased : RefundRecord) : Bool :=
  job.refundId = leased.refundId ∧ job.publicId = leased.publicId ∧
    job.refundAmountAtomic = leased.refundAmountAtomic ∧ job.reason = leased.reason ∧
    job.merchant = leased.merchant ∧ job.payment = leased.payment

/-! ## The signer

A run returns the transaction of a refund it has seen confirmed, and nothing where the source throws.
-/

section Signing

-- how the signer reaches the router and the network, what its call of the confirm route comes to, and its mark
variable {A : Type} {B : A → Type} (reach : {α : Type} → Signer α → Prog A B α) (confirm : String → Prog A B Bool)
  (markConfirmed : Prog A B Unit)

/-- Hand an envelope to the network and see it through, or park it on a rejection that cannot heal. -/
def sendAndConfirm (leaseId : String) (envelope : Envelope) : Prog A B (Option TxHash) := do
  match ← reach (call (.send envelope)) with
  | .error code =>
    if isRetryableSendError code then pure none
    else do
      let _ ← reach (parkRejected leaseId envelope.hash)
      pure none
  | _ =>
    if ← reach (waitForTransaction envelope.hash pollAttempts) then do
      let confirmed ← confirm leaseId
      pure (if confirmed then some envelope.hash else none)
    else pure none

def executePending (job : RefundRecord) : Prog A B (Option TxHash) := do
  let leaseId ← reach (call .randomUuid)
  match ← reach (call (.lease leaseId)) with
  | none => pure none
  | some leased =>
    if ¬ proofMatches job leased then pure none
    else
      let prepared ← reach (call .buildSignedRefund)
      let submitted ← reach (completeRoute leaseId
        { state := .submitted, refundTx := prepared.hash, signedXdr := some prepared })
      if submitted then sendAndConfirm reach confirm leaseId prepared else pure none

def confirmSubmitted (job : RefundRecord) : Prog A B (Option TxHash) :=
  match job.signedXdr, job.refundTx, job.lease with
  | some signedXdr, some refundTx, some lease =>
    if signedXdr.hash ≠ refundTx ∨ ¬ signedXdr.soroban then pure none
    else do
      let existing ← reach (call (.getTransaction refundTx))
      if existing.status = .success then do
        let confirmed ← confirm lease.id
        pure (if confirmed then some refundTx else none)
      else
        let expired := ConfirmSubmitted.expired signedXdr
          existing.latestLedgerCloseTime existing.oldestLedgerCloseTime
        if expired ∧ existing.status = .notFound then do
          if ← reach (requeueRoute lease.id) then
            executePending reach confirm { job with state := .pending, refundTx := none, signedXdr := none, lease := none }
          else pure none
        else sendAndConfirm reach confirm lease.id signedXdr
  | _, _, _ => pure none

def execute (job : RefundRecord) : Prog A B (Option TxHash) :=
  if job.state = .submitted then confirmSubmitted reach confirm job else executePending reach confirm job

/-- One signer run, as far as it concerns this payment's job: a job that returns its transaction is marked in the signer's
ledger. -/
def runRefundSigner : Prog A B Unit := do
  match ← reach (call .pendingJob) with
  | none => pure ()
  | some job =>
    match ← execute reach confirm job with
    | none => pure ()
    | some _ => markConfirmed

end Signing

/-- A signer run among the threads of the router. -/
def signerRun : Signer Unit := runRefundSigner (fun program => program) confirmRoute (pure ())

/-- Forget an answer. -/
def Signer.run {α : Type} (signer : Signer α) : Signer Unit := do
  let _ ← signer
  pure ()

/-- Everything that can happen to one payment's refund. -/
inductive IsRefundThread : Signer Unit → Prop
  | idle : IsRefundThread (pure ())
  | enqueue (refundId publicId : String) (input : EnqueueInput) :
      IsRefundThread (call (.enqueue refundId publicId input)).run
  | signer : IsRefundThread signerRun
  | unpark (reason : Option String) : IsRefundThread (call (.unpark reason)).run
  | network : IsRefundThread (call .closeLedger).run

/-! ## A refund that lands -/

/-- The world before the payment's refund exists and before the first ledger that matters to it. -/
def World.initial : World := ⟨none, [], []⟩

/-- The refund of a call that was paid for and timed out. -/
def timedOut : EnqueueInput :=
  { proof := ⟨"pay", "tx", "payer", "router", "usdc", "1000", .charge⟩, reason := .timeout
    merchant := "merchant", routeId := "route", orderId := none }

def firstEnvelope : Envelope := ⟨1, 100, 940, 1600, true⟩

/-- A signer run takes the pending job and hands a fresh envelope to the network. -/
def broadcastSteps (tid : ℕ) (lease : String) (sequence now : ℕ) : List (ℕ × Choice) :=
  [(tid, .plain), (tid, .uuid lease), (tid, .clock (now * 1000)), (tid, .build sequence 100 now now),
    (tid, .plain), (tid, .clock (now * 1000)), (tid, .sent .pending)]

/-- After the enqueue a signer run broadcasts, a ledger closes with the envelope, and the run finds it there. -/
def landing (network : ℕ) : List (ℕ × Choice) :=
  (0, .clock 0) :: broadcastSteps 1 "a" 1 1000 ++
    [(network, .close ⟨1005, 1, [(firstEnvelope, true)]⟩), (1, .retained 1005 1005), (1, .plain), (1, .retained 1005 1005)]

end MppRouter.Refund
