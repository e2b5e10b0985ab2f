import MppRouter.Proxy.HandleProxy

/-! # Jobs and their outcomes

A job ends by a poll of its payer or by a pass of the cron, whichever learns of the end first. The outcome is
claimed once; refund, rollback and release follow the claim, and are repeated until the outcome is done.
-/

namespace MppRouter.Proxy

open Concurrent Refund Routes

def JobAuthRecord.terminalKey (record : JobAuthRecord) (jobId : String) : TerminalKey := ⟨record.serviceId, jobId⟩

/-- The delivery of a voucher, which a failure rolls back. -/
def JobAuthRecord.voucher (record : JobAuthRecord) : Option ChannelDelivery :=
  record.channelDelivery.filter fun delivery => delivery.action = .voucher

inductive Finished where
  | done | conflict | manualReview
  deriving DecidableEq, Repr

def jobRefund (record : JobAuthRecord) (reason : RefundReason) (proof : PaymentProof) : EnqueueInput :=
  { proof, reason, merchant := record.upstreamHost, routeId := record.serviceId, orderId := none }

/-- Give back what a failed job cost; false where a voucher may still count. -/
def compensate (key : TerminalKey) (record : JobAuthRecord) (outcome : Outcome) (reason : Option RefundReason) :
    Handler Bool :=
  match outcome, record.voucher, reason, record.paymentProof with
  | .failed, some delivery, _, _ => rollbackFailedChannelVoucher delivery
  | .failed, none, some reason, some proof => do
    let _ ← enqueueRefund (some key) (jobRefund record reason proof)
    pure true
  | _, _, _, _ => pure true

/-- Release the lock that the job's delivery holds, if any. -/
def releaseJobLock (key : TerminalKey) (record : JobAuthRecord) : Handler Unit :=
  match record.channelDelivery with
  | some delivery => releaseChannelDeliveryLock (some key) delivery
  | none => pure ()

/-- The side effects of a claimed outcome, repeated until the outcome is done. -/
def completeTerminal (key : TerminalKey) (record : JobAuthRecord) (outcome : Outcome) (reason : Option RefundReason) :
    Handler Finished := do
  let compensated ← compensate key record outcome reason
  if compensated then do
    releaseJobLock key record
    OptionT.mk (Prog.call (Action.putTerminal key outcome))
    pure .done
  else pure .manualReview

def finishAsyncDelivery (jobId : String) (record : JobAuthRecord) (outcome : Outcome) (reason : Option RefundReason) :
    Handler Finished := do
  let key := record.terminalKey jobId
  let claim : TerminalClaim ← OptionT.mk (Prog.call (Action.claimTerminal key outcome record))
  match claim with
  | .conflict => pure .conflict
  | .done => pure .done
  | .retry | .claimed => completeTerminal key record outcome reason

/-! ## The cron -/

def getJob (jobId : String) : Handler (Option JobAuthRecord) := OptionT.mk (Prog.call (Action.getJob jobId))

/-- Ask the merchant for the job. -/
def pollMerchant (record : JobAuthRecord) : Handler (MerchantResponse × MerchantBody) := do
  match ← ask (.poll record) with
  | none => failure
  | some response => do
    let body ← readBody response
    pure (response, body)

def jobTimeoutMs : ℕ := 23 * 60 * 60000

/-- Finish a job and remember that it needs no more looking after. -/
def finishChecked (jobId : String) (record : JobAuthRecord) (outcome : Outcome) (reason : Option RefundReason) :
    Handler Unit := do
  let result ← finishAsyncDelivery jobId record outcome reason
  if result = .done then OptionT.mk (Prog.call (Action.putChecked jobId)) else pure ()

def reconcileByPoll (jobId : String) (record : JobAuthRecord) : Handler Unit := do
  let (response, body) ← pollMerchant record
  match classifyAsyncFailure response.status body with
  | some reason => finishChecked jobId record .failed (some reason)
  | none => if saysDelivered response body then finishChecked jobId record .delivered none else pure ()

def reconcileJob (jobId : String) : Handler Unit := do
  let checked : Bool ← OptionT.mk (Prog.call (Action.getChecked jobId))
  if checked then pure ()
  else
    match ← getJob jobId with
    | none => pure ()
    | some record =>
      if record.paymentProof.isSome || record.channelDelivery.isSome then do
        let now : ℕ ← ask .now
        if record.paidAt + jobTimeoutMs ≤ now then finishChecked jobId record .failed (some .timeout)
        else do
          let _ ← Throwing.attempt (reconcileByPoll jobId record)
          pure ()
      else pure ()

def reconcilePage : List String → Handler Unit
  | [] => pure ()
  | jobId :: rest => do
    reconcileJob jobId
    reconcilePage rest

/-- A pass over so many pages at most. -/
def reconcileAsyncRefunds : ℕ → Handler Unit
  | 0 => pure ()
  | pages + 1 => do
    let page : Page ← OptionT.mk (Prog.call Action.listJobs)
    reconcilePage page.keys
    if page.complete then pure () else reconcileAsyncRefunds pages

/-! ## The poll of a payer -/

/-- What the merchant said, with the status that a failed job has. -/
def failedAnswer (response : MerchantResponse) (body : MerchantBody) (refundStatus : RefundStatus) : Response :=
  { status := if response.ok then 502 else response.status, body := .merchant body.text, refundStatus := some refundStatus }

/-- Finish a job that the merchant reports as delivered; whether that works does not change the answer. -/
def noteDelivery (jobId : String) (record : JobAuthRecord) (delivered : Bool) : Handler Unit :=
  if delivered then do
    let _ ← Throwing.attempt (finishAsyncDelivery jobId record .delivered none)
    pure ()
  else pure ()

def finishByPoll (jobId : String) (record : JobAuthRecord) : Handler Response := do
  let (response, body) ← pollMerchant record
  match classifyAsyncFailure response.status body, record.paymentProof, record.voucher with
  | some reason, some proof, _ => do
    let terminal ← finishAsyncDelivery jobId record .failed (some reason)
    if terminal ≠ .done then
      pure ((Response.error 409 "Async terminal outcome requires manual review").marked .manualReview)
    else do
      let _ ← enqueueRefund (some (record.terminalKey jobId)) (jobRefund record reason proof)
      pure (failedAnswer response body .pending)
  | some reason, none, some _ => do
    let result ← finishAsyncDelivery jobId record .failed (some reason)
    pure (failedAnswer response body (if result = .done then .voucherNotConsumed else .manualReview))
  | _, _, _ => do
    noteDelivery jobId record (saysDelivered response body)
    pure { status := response.status, body := .merchant body.text }

def handleJobStatus (jobId : String) : Handler Response := do
  match ← getJob jobId with
  | none => pure (Response.error 404 "Job not found")
  | some record => do
    let rejected : Option Response ← OptionT.mk (Prog.call (Action.proveOwnership jobId record.stellarAddress))
    match rejected with
    | some response => pure response
    | none => do
      let answered ← Throwing.attempt (finishByPoll jobId record)
      pure (answered.getD (Response.error 502 "Failed to poll upstream service"))

/-! ## Everyone at work -/

/-- The thread of a handler, whose answer goes to its caller. -/
def Handler.thread {α : Type} (handler : Handler α) : Prog Action Action.Answer Unit := do
  let _ ← handler.run
  pure ()

inductive Party where
  | x402 (request : X402Request)
  | charge (call : MeteredCall)
  | channel (call : ChannelCall)
  | jobStatus (jobId : String)
  | cron (pages : ℕ)
  /-- The store's own housekeeping. -/
  | expiry (jobId : String)
  | idle

def Party.program (pick : Pick) : Party → Prog Action Action.Answer Unit
  | .x402 request => Handler.thread (request.handle pick)
  | .charge call => Handler.thread (MeteredCall.settledCharge { call with channelDelivery := none } pick)
  | .channel call => Handler.thread (call.handle pick)
  | .jobStatus jobId => Handler.thread (handleJobStatus jobId)
  | .cron pages => Handler.thread (reconcileAsyncRefunds pages)
  | .expiry jobId => Handler.thread (ask (.expireJob jobId))
  | .idle => .pure ()

end MppRouter.Proxy
