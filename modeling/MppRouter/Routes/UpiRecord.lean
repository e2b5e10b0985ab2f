import MppRouter.Routes.PayInvoice

/-! # UPI fulfillment records

One durable record per UPI order. A first-generation order is moved by `transition`, which leaves a
terminal state alone; a second-generation order is moved by guarded changes, and only one that has not
entered the executor can take the execution right or a refusal.
-/

namespace MppRouter.Routes.Upi

open Mpp

inductive UpiProvider where
  | coinbaseV1 | coinbaseV3 | stripeCrypto
  deriving DecidableEq, Repr

inductive FulfillmentState where
  | queued | processing | paid | failed | unknown
  deriving DecidableEq, Repr

/-- The states that no change leaves. -/
def FulfillmentState.terminal : FulfillmentState → Bool
  | paid | failed => true
  | queued | processing | unknown => false

inductive ExecutionPhase where
  | notStarted | calling | accepted | terminal
  deriving DecidableEq, Repr

inductive FailureClass where
  | preExecutionRefusal | definiteNotPaid | ambiguous
  deriving DecidableEq, Repr

structure V2FrozenBinding where
  fingerprint : String
  amountAtomic : String
  usdCents : String
  approvalId : Option String
  approvalValidUntil : Option String
  deriving DecidableEq, Repr

structure UpiFulfillmentRecord where
  orderId : String
  provider : UpiProvider
  invoiceKey : String
  /-- The digest of the body that created the record. -/
  bodyHash : String
  baseAmountMinor : String
  stablecoinAmountAtomic : String
  state : FulfillmentState := .queued
  providerFinalState : Option String := none
  executionRef : Option String := none
  failureReason : Option String := none
  createdAt : ℕ
  updatedAt : ℕ
  /-- Two, or absent. -/
  schemaVersion : Option ℕ := none
  executionPhase : Option ExecutionPhase := none
  failureClass : Option FailureClass := none
  attemptId : Option Uuid := none
  queuedReason : Option String := none
  binding : Option V2FrozenBinding := none
  deriving DecidableEq, Repr

namespace UpiFulfillmentRecord

def phase (record : UpiFulfillmentRecord) : ExecutionPhase := record.executionPhase.getD .notStarted

/-- A second-generation record that has not entered the executor and carries no outcome. -/
def isV2Open (record : UpiFulfillmentRecord) : Bool :=
  record.schemaVersion = some 2 ∧ record.state = .queued ∧ record.phase = .notStarted ∧ record.failureClass = none

end UpiFulfillmentRecord

/-! ## Creating -/

inductive Created where
  | created (record : UpiFulfillmentRecord)
  | replay (record : UpiFulfillmentRecord)
  | mismatch
  deriving DecidableEq, Repr

/-- Create the record of an order, or find the one that the same body created. -/
def createFulfillment (fresh : UpiFulfillmentRecord) (current : Option UpiFulfillmentRecord) :
    Decision UpiFulfillmentRecord Created :=
  match current with
  | some record => .noop (if record.bodyHash = fresh.bodyHash then .replay record else .mismatch)
  | none => .set fresh (.created fresh)

/-! ## First generation -/

def updateFulfillment (now : ℕ) (mutate : UpiFulfillmentRecord → UpiFulfillmentRecord)
    (current : Option UpiFulfillmentRecord) : Decision UpiFulfillmentRecord (Option UpiFulfillmentRecord) :=
  match current with
  | none => .noop none
  | some record =>
    let next := { mutate record with updatedAt := now }
    .set next (some next)

/-- What a transition writes besides the state; what is absent stays. -/
structure TransitionDetail where
  providerFinalState : Option String := none
  /-- The executor's reference, or that there is none. -/
  executionRef : Option (Option String) := none
  failureReason : Option String := none
  deriving DecidableEq, Repr

/-- A terminal state is sticky; the rest is written all the same. -/
def UpiFulfillmentRecord.transition (state : FulfillmentState) (detail : TransitionDetail)
    (record : UpiFulfillmentRecord) : UpiFulfillmentRecord :=
  { record with
    state := if record.state.terminal then record.state else state
    providerFinalState := detail.providerFinalState <|> record.providerFinalState
    executionRef := detail.executionRef.getD record.executionRef
    failureReason := detail.failureReason <|> record.failureReason }

/-! ## Second generation -/

/-- What an answered call says about the order. -/
inductive CallMark where
  | accepted (executionRef : Option String)
  | ambiguous (failureReason : String)
  | mismatch
  deriving DecidableEq, Repr

def CallMark.write (record : UpiFulfillmentRecord) : CallMark → UpiFulfillmentRecord
  | .accepted executionRef =>
    { record with state := .processing, executionPhase := some .accepted, executionRef }
  | .ambiguous failureReason =>
    { record with state := .unknown, failureClass := some .ambiguous, failureReason := some failureReason }
  | .mismatch =>
    { record with
      state := .failed, executionPhase := some .terminal, failureClass := some .definiteNotPaid
      failureReason := some "pre_sign_binding_mismatch" }

inductive V2Change where
  | refuse (code : String) (providerFinalState : Option String)
  | queue (reason : String)
  | freeze (binding : V2FrozenBinding) (baseAmountMinor stablecoinAmountAtomic : String)
  | acquire (attemptId : Uuid) (binding : V2FrozenBinding)
  | mark (attemptId : Uuid) (outcome : CallMark)
  | providerConfirmed (state : String)
  /-- A provider failure or a stale call, as seen on the record of this time. -/
  | providerFailed (seenAt : ℕ) (failureReason : String) (state : Option String)
  | observe (state : String)
  deriving DecidableEq

/-- The call was sent and no outcome is final. -/
def UpiFulfillmentRecord.awaits (record : UpiFulfillmentRecord) : Bool :=
  !record.state.terminal && record.phase ≠ .notStarted

/-- A guarded change, or nothing when its guard fails. -/
def V2Change.apply (record : UpiFulfillmentRecord) : V2Change → Option UpiFulfillmentRecord
  | .refuse code providerFinalState =>
    if record.isV2Open then
      some { record with
        state := .failed, executionPhase := some .notStarted, failureClass := some .preExecutionRefusal
        failureReason := some code, queuedReason := none
        providerFinalState := providerFinalState <|> record.providerFinalState }
    else none
  | .queue reason => if record.isV2Open then some { record with queuedReason := some reason } else none
  | .freeze binding baseAmountMinor stablecoinAmountAtomic =>
    if record.isV2Open ∧ record.binding.all (·.fingerprint = binding.fingerprint) then
      some { record with
        binding := some binding, baseAmountMinor, stablecoinAmountAtomic, queuedReason := some "claiming" }
    else none
  | .acquire attemptId binding =>
    if record.isV2Open then
      some { record with
        state := .processing, executionPhase := some .calling, attemptId := some attemptId, queuedReason := none
        binding := some binding }
    else none
  | .mark attemptId outcome =>
    if record.attemptId ≠ some attemptId ∨ record.executionPhase ≠ some .calling ∨ record.state.terminal then none
    else some (outcome.write record)
  | .providerConfirmed state =>
    if record.awaits then
      some { record with
        state := .paid, executionPhase := some .terminal, failureClass := none, failureReason := none
        providerFinalState := some state }
    else none
  | .providerFailed seenAt failureReason state =>
    if record.awaits ∧ record.state ≠ .unknown ∧ record.updatedAt = seenAt then
      some { record with
        state := .unknown, failureClass := some .ambiguous, failureReason := some failureReason
        providerFinalState := state <|> record.providerFinalState }
    else none
  | .observe state =>
    if record.providerFinalState = some state then none else some { record with providerFinalState := some state }

/-- Apply a guarded change to the stored record: whether it applied, and the record then. -/
def casV2 (now : ℕ) (change : V2Change) (current : Option UpiFulfillmentRecord) :
    Decision UpiFulfillmentRecord (Bool × Option UpiFulfillmentRecord) :=
  match current.bind change.apply with
  | none => .noop (false, current)
  | some changed =>
    let next := { changed with updatedAt := now }
    .set next (true, some next)

/-! ## What is answered -/

structure V2Fields where
  executionPhase : ExecutionPhase
  failureClass : Option FailureClass
  reason : Option String
  deriving DecidableEq, Repr

namespace UpiFulfillmentRecord

def v2Reason (record : UpiFulfillmentRecord) : Option String :=
  if record.state = .queued then record.queuedReason else record.failureReason

def v2Fields (record : UpiFulfillmentRecord) : V2Fields := ⟨record.phase, record.failureClass, record.v2Reason⟩

end UpiFulfillmentRecord

inductive UpiResponse where
  | error (status : ℕ) (code : String)
  /-- First generation: accepted, with the state so far. -/
  | fulfillment (status : ℕ) (error : Option String) (orderId : String) (state : FulfillmentState)
  | v2 (status : ℕ) (error : Option String) (orderId : String) (state : FulfillmentState) (fields : V2Fields)
  | status (state : FulfillmentState) (providerFinalState executionRef : Option String) (updatedAt : ℕ)
      (fields : Option V2Fields)
  deriving DecidableEq, Repr

def v2Response (record : UpiFulfillmentRecord) : UpiResponse :=
  if record.state = .failed ∧ record.failureClass = some .preExecutionRefusal then
    if record.failureReason = some "already_claimed" then
      .v2 409 (some "already_claimed") record.orderId record.state record.v2Fields
    else .v2 422 (some (record.failureReason.getD "refused")) record.orderId record.state record.v2Fields
  else .v2 202 none record.orderId record.state record.v2Fields

def statusPayload (record : UpiFulfillmentRecord) : UpiResponse :=
  .status record.state record.providerFinalState record.executionRef record.updatedAt
    (if record.schemaVersion = some 2 then some record.v2Fields else none)

end MppRouter.Routes.Upi
