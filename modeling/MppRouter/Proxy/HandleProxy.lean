import MppRouter.Proxy.Machine

/-! # Proxied calls

Three kinds of payment lead to one merchant leg. An x402 payload is settled only after the merchant was
paid; a charge has settled before, and a channel voucher is accepted before and rolled back when the
merchant fails. An asynchronous answer becomes a job that its payer polls.
-/

namespace MppRouter.Proxy

open Concurrent Decimal Refund Routes Throwing
open Mpp (Cumulative cumulativeAmount)

structure Route where
  id : String
  upstreamHost : String
  /-- The buyer pays the provider directly. -/
  operator : Bool := false
  hosted : Bool := false
  /-- The router holds the upstream's credential. -/
  upstreamAuth : Bool := false
  /-- The pay-invoice route, with the admin secret configured. -/
  payInvoice : Bool := false
  /-- It has a daily limit. -/
  rateLimit : Bool := false
  deriving DecidableEq, Repr

/-! ## The merchant leg -/

def hostedOriginHeaders : Handler Bool := OptionT.mk (Prog.call Action.hostedOriginHeaders)

def getTempoChannel : Handler (Option TempoChannelState) := OptionT.mk (Prog.call Action.getTempoChannel)

/-- Read the body of a merchant's answer, which may throw. -/
def readBody (response : MerchantResponse) : Handler MerchantBody := OptionT.mk (pure response.body)

def requestFailed (error : String) (response : MerchantResponse) : MerchantPayResult :=
  .error (if 500 ≤ response.status then .upstream5xx else .nonFulfillment) 502 error

/-- Call the upstream with a credential of the router; a success of the branch delivers what it says. -/
def fetchDirect (unreachable failed : String) (accepted : MerchantResponse → Bool) : Handler MerchantPayResult := do
  match ← ask .fetchMerchant with
  | none => pure (.error .timeout 502 unreachable)
  | some response => do
    let body ← readBody response
    pure (if accepted response then .ok body response.status else requestFailed failed response)

/-- A hosted route presents the provider's stored credential; false where it cannot be loaded. -/
def originHeaders (route : Route) : Handler Bool :=
  if route.hosted && !route.upstreamAuth then hostedOriginHeaders else pure true

/-- The buyer has paid the provider: fetch what it serves, without following a redirect. -/
def fetchOperator (route : Route) : Handler MerchantPayResult := do
  let injected ← originHeaders route
  if !injected then pure (.error .timeout 503 "Hosted route misconfigured")
  else
    match ← ask .fetchMerchant with
    | none => pure (.error .timeout 502 "Provider endpoint unreachable")
    | some response =>
      if 300 ≤ response.status ∧ response.status < 400 then
        pure (.error .upstream5xx 502 "Provider request failed")
      else do
        let body ← readBody response
        pure (if response.ok then .ok body response.status else requestFailed "Provider request failed" response)

def fetchPayInvoice : Handler MerchantPayResult := do
  let paused : Bool ← ask .checkoutDeliveryPaused
  if paused then
    pure (.error .nonFulfillment 503 "CHECKOUT_PAUSED")
  else
    fetchDirect "Merchant admin payment failed" "Merchant admin payment failed" fun response =>
      response.ok || response.status = 202

/-- Answer whatever challenge the merchant sets to the call that pays. -/
def answerChallenge (pick : Pick) (payload : Option String) (quote : Challenge) (channel : Option TempoChannelState) :
    Handler (Except LegError MerchantResponse) := do
  let unpaid ← ask .fetchUnpaid
  match unpaid, payLeg pick quote channel unpaid.requote with
  | _, .error failure => pure (.error failure)
  | .answered response, .ok _ => pure (.ok response)
  | _, .ok none => pure (.error .transport)
  | _, .ok (some amount) => do
    let signed : Bool ← ask (.signCredential payload amount)
    if signed then
      match ← ask .receive with
      | none => pure (.error .transport)
      | some response => pure (.ok response)
    else pure (.error .transport)

def payTempoLeg (pick : Pick) (payload : Option String) (quote : Challenge) :
    Handler (Except LegError MerchantResponse) := do
  if quote.isSession then
    match ← attempt getTempoChannel with
    | none => pure (.error .transport)
    | some none => pure (.error .channelNotInstalled)
    | some (some channel) => answerChallenge pick payload quote (some channel)
  else answerChallenge pick payload quote none

def LegError.payResult : LegError → MerchantPayResult
  | .channelNotInstalled => .error .upstream5xx 503 "Router session channel not installed"
  | .channelDepositExhausted => .error .upstream5xx 503 "Router session channel deposit exhausted"
  | .sessionChallengeMismatch =>
    .error .upstream5xx 503 "Router temporarily unable to serve this route"
  | .transport | .noMethod | .manualSession | .unreadableAmount | .budgetExceeded =>
    .error .timeout 502 "Merchant payment failed"

def payTempo (pick : Pick) (payload : Option String) (quote : Challenge) : Handler MerchantPayResult := do
  match ← payTempoLeg pick payload quote with
  | .error failure => pure failure.payResult
  | .ok response => do
    let body ← readBody response
    if !response.ok && response.status ≠ 202 then pure (requestFailed "Merchant payment failed" response)
    else if response.status ≠ 202 ∧ body.blank then
      pure (.error .emptyResponse 502 "Merchant returned an empty response")
    else pure (.ok body response.status)

def payMerchantAndGetBodyInner (pick : Pick) (payload : Option String) (route : Route) (quote : Challenge) :
    Handler MerchantPayResult :=
  if route.operator then fetchOperator route
  else if route.upstreamAuth then fetchDirect "Upstream call failed" "Upstream request failed" MerchantResponse.ok
  else if route.payInvoice then fetchPayInvoice
  else payTempo pick payload quote

/-- A delivered envelope of some routes is shown with its data at the top level. -/
def presentResult (route : Route) : MerchantPayResult → MerchantPayResult
  | .ok body merchantStatus =>
    if merchantStatus = 200 ∧ (isAsyncJobResponse merchantStatus body).1 = false ∧ isEnvelopeLiftedRoute route.id then
      .ok (presentMerchantEnvelope body) merchantStatus
    else .ok body merchantStatus
  | failed => failed

def payMerchantAndGetBody (pick : Pick) (payload : Option String) (route : Route) (quote : Challenge) :
    Handler MerchantPayResult := do
  let result ← payMerchantAndGetBodyInner pick payload route quote
  pure (presentResult route result)

/-! ## Asynchronous answers -/

/-- Record a refund and its public id. -/
def enqueueRefund (cause : Option TerminalKey) (input : EnqueueInput) : Handler RefundRecord := do
  let record : RefundRecord ← OptionT.mk (Prog.call (Action.createRefund cause input))
  OptionT.mk (Prog.call (Action.publishRefund record.publicId record.refundId))
  pure record

def releaseChannelDeliveryLock (cause : Option TerminalKey) (delivery : ChannelDelivery) : Handler Unit :=
  OptionT.mk (Prog.call (Action.releaseLock cause delivery.channelContract delivery.lockId))

/-- Roll back a voucher that is still the latest accepted; an earlier rollback of it counts. -/
def rollbackFailedChannelVoucher (delivery : ChannelDelivery) : Handler Bool := do
  let rolledBack : Bool ← OptionT.mk (Prog.call (Action.rollbackCumulative delivery))
  if rolledBack then do
    OptionT.mk (Prog.call (Action.deleteChallenge delivery.challengeId))
    pure true
  else do
    let current : Option (Cumulative ℕ) ← OptionT.mk (Prog.call (Action.readCumulative delivery.channelContract))
    let challenge : Bool ← OptionT.mk (Prog.call (Action.readChallenge delivery.challengeId))
    pure (cumulativeAmount current = delivery.previousAmount && !challenge)

/-- The part of a call that its answer's handling needs. -/
structure AsyncCall where
  route : Route
  auth : AuthHeader
  paymentProof : Option PaymentProof
  channelDelivery : Option ChannelDelivery
  deriving DecidableEq, Repr

namespace AsyncCall

variable (call : AsyncCall)

/-- The delivery of a voucher, which a failure rolls back. -/
def voucher : Option ChannelDelivery := call.channelDelivery.filter fun delivery => delivery.action = .voucher

def refundInput (proof : PaymentProof) : EnqueueInput :=
  { proof, reason := .emptyResponse, merchant := call.route.upstreamHost, routeId := call.route.id, orderId := none }

/-- Release the lock that the call holds, if any. -/
def releaseLock : Handler Unit :=
  match call.channelDelivery with
  | some delivery => releaseChannelDeliveryLock none delivery
  | none => pure ()

def releaseCloseLock : Handler Unit :=
  if call.channelDelivery.any fun delivery => delivery.action = .close then call.releaseLock else pure ()

/-- Roll back the voucher, if there is one, and release its lock; false where the voucher may still count. -/
def rollbackVoucher : Handler Bool :=
  match call.voucher with
  | none => pure true
  | some delivery => do
    let rolledBack ← rollbackFailedChannelVoucher delivery
    if rolledBack then do
      releaseChannelDeliveryLock none delivery
      pure true
    else pure false

/-- Refund a settled payment for which no job can be polled. -/
def refundWithoutJobId (proof : PaymentProof) : Handler Response := do
  match ← attempt (enqueueRefund none (call.refundInput proof)) with
  | none => pure ((Response.error 503 "Async delivery and refund persistence failed").marked .manualReview)
  | some _ => do
    call.releaseCloseLock
    pure ((Response.error 502 "Async merchant returned no job id").marked .pending)

/-- The merchant accepted the work under no job id: nothing can be polled. -/
def withoutJobId (body : MerchantBody) : Handler Response := do
  let rolledBack ← call.rollbackVoucher
  if !rolledBack then
    pure ((Response.error 503 "Async voucher requires manual review").marked .manualReview)
  else match call.paymentProof with
    | none => pure { status := 202, body := .merchant body.text }
    | some proof => call.refundWithoutJobId proof

/-- The job could not be stored to the handler's knowledge. -/
def unpersisted : Handler Response := do
  let failed := Response.error 503 "Could not persist async delivery ownership"
  match call.voucher, call.paymentProof with
  | some delivery, _ => do
    let rolledBack ← rollbackFailedChannelVoucher delivery
    if rolledBack then do
      releaseChannelDeliveryLock none delivery
      pure (failed.marked .voucherNotConsumed)
    else pure (failed.marked .manualReview)
  | none, some proof => do
    let refunded ← attempt do
      let _ ← enqueueRefund none (call.refundInput proof)
      call.releaseLock
    match refunded with
    | some _ => pure (failed.marked .pending)
    | none => pure (failed.marked .manualReview)
  | none, none => pure (failed.marked .manualReview)

/-- The record that lets the payer poll the job. -/
def jobRecord (jobId stellarAddress : String) (paidAt : ℕ) : JobAuthRecord :=
  { stellarAddress
    serviceId := call.route.id
    upstreamHost := if call.route.upstreamHost = "" then
        String.ofList (call.route.id.toList.takeWhile (· ≠ '_')) ++ ".dev" else call.route.upstreamHost
    upstreamJobPath := "/api/jobs/" ++ jobId
    paidAt
    paymentProof := call.paymentProof
    channelDelivery := call.channelDelivery }

/-- The platform builds no response with a NUL or a line break in a header, which may end in blanks. The poll URL ends
in the job id. -/
def isHeaderValue (jobId : String) : Bool :=
  (jobId.toList.reverse.dropWhile fun c => [' ', '\t', '\n', '\r'].contains c).all fun c => !([0, 10, 13].contains c.toNat)

/-- Turn an asynchronous answer into a job; nothing for an answer that delivers. -/
def handleAsyncJob (body : MerchantBody) (merchantStatus : ℕ) : Handler (Option Response) := do
  match isAsyncJobResponse merchantStatus body with
  | (false, _) => pure none
  | (true, none) => some <$> call.withoutJobId body
  | (true, some jobId) =>
    match call.auth.extractStellarAddress with
    | none => pure (some (Response.error 401 "Async jobs require a Stellar payment credential to bind ownership"))
    | some stellarAddress => do
      let paidAt ← ask .now
      let stored ← attempt (OptionT.mk (Prog.call (Action.putJob jobId (call.jobRecord jobId stellarAddress paidAt))))
      match stored with
      | none => some <$> call.unpersisted
      | some () =>
        if isHeaderValue jobId then pure (some { status := 202, body := .merchant body.text, jobId := some jobId })
        else failure

end AsyncCall

/-! ## Calls paid with an x402 payload -/

def consumeRateLimitSlotOrReject (route : Route) : Handler (Option Response) :=
  if route.rateLimit then do
    let used : Bool ← OptionT.mk (Prog.call Action.bumpDailyLimit)
    pure (if used then some (Response.error 429 "Daily rate limit exceeded for this service") else none)
  else pure none

structure X402Payload where
  payloadHash : String
  /-- In base units of the Stellar token. -/
  signed : ℤ
  /-- The account it pays from, where that can be read. -/
  payer : Option String
  deriving DecidableEq, Repr

structure X402Request where
  route : Route
  auth : AuthHeader
  classified : auth.classifyAuth = .x402
  quote : Challenge
  /-- What decoding the payload gives, or the status it is refused with. -/
  decoded : Except ℕ X402Payload
  deriving DecidableEq, Repr

namespace X402Request

variable (request : X402Request)

/-- The payload's hash, once it pays for the quote. -/
def prepared : Except Response String :=
  if request.quote.request.decimals.getD 6 ≠ 6 then
    .error (Response.error 502 "stellar.x402 branch only supports USDC-6 merchants")
  else match bigInt request.quote.request.amount, request.decoded with
    | none, _ => .error (Response.error 502 "Merchant quote amount is not an integer base-unit string")
    | some _, .error status => .error (Response.error status "stellar.x402 verification failed")
    | some units, .ok payload =>
      match isAmountAcceptable payload.signed (units * 10) with
      | some _ => .error (Response.error 402 "stellar.x402 verification failed")
      | none => .ok payload.payloadHash

/-- An x402 call never has the data that a refund or a rollback needs. -/
def asyncCall : AsyncCall := ⟨request.route, request.auth, none, none⟩

/-- The payload was submitted before: hand back what it bought, if anything. -/
def replayed (payloadHash : String) : Handler Response := do
  match ← OptionT.mk (Prog.call (Action.getReplay payloadHash)) with
  | some response => pure response
  | none => pure (Response.error 402 "stellar.x402 replay detected")

/-- Pay the merchant, and settle the payload when it delivers. -/
def deliver (pick : Pick) (payloadHash : String) : Handler Response := do
  match ← payMerchantAndGetBody pick (some payloadHash) request.route request.quote with
  | .error _ status error => do
    ask (.deleteNonce payloadHash)
    pure (Response.error status error)
  | .ok body merchantStatus => do
    match ← request.asyncCall.handleAsyncJob body merchantStatus with
    | some response => do
      ask (.settleAndRecord payloadHash)
      pure response
    | none => do
      ask (.settleAndRecord payloadHash)
      let response : Response := { status := 200, body := .merchant body.text }
      ask (.putReplay payloadHash response)
      pure response

/-- The reserved payload must verify, and the route's limit must not be used up. -/
def verified (payloadHash : String) : Handler (Option Response) := do
  match ← ask (.verifyWithFacilitator payloadHash) with
  | some status => pure (some (Response.error status "stellar.x402 verification failed"))
  | none => consumeRateLimitSlotOrReject request.route

/-- What happens before the merchant is paid: the payload's hash, or an answer at once. -/
def letIn : Handler (Except Response String) := do
  match request.prepared with
  | .error rejected => pure (.error rejected)
  | .ok payloadHash => do
    let existing : Bool ← OptionT.mk (Prog.call (Action.getNonce payloadHash))
    if existing then do
      let response ← replayed payloadHash
      pure (.error response)
    else do
      OptionT.mk (Prog.call (Action.putNonce payloadHash))
      match ← request.verified payloadHash with
      | some rejected => do
        ask (.deleteNonce payloadHash)
        pure (.error rejected)
      | none => pure (.ok payloadHash)

def handle (pick : Pick) : Handler Response := do
  match ← request.letIn with
  | .error response => pure response
  | .ok payloadHash => request.deliver pick payloadHash

end X402Request

/-! ## Calls paid with a charge or from a channel -/

structure MeteredCall where
  route : Route
  auth : AuthHeader
  quote : Challenge
  merchantHost : String
  /-- Present where the caller sent a request id. -/
  idempotencyKey : Option String
  /-- The proof of a charge or of a closed channel, as the callback or the recovery captured it. -/
  settledPayment : Option PaymentProof
  channelDelivery : Option ChannelDelivery
  deriving DecidableEq, Repr

namespace MeteredCall

variable (call : MeteredCall)

def asyncCall : AsyncCall := ⟨call.route, call.auth, call.settledPayment, call.channelDelivery⟩

/-- Release the lock, where a failure to do so does not matter. -/
def letGo : Handler Unit := do
  let _ ← attempt call.asyncCall.releaseLock
  pure ()

/-- Queue the refund of the settled payment and mark the answer with what came of it. -/
def refund (reason : RefundReason) (proof : PaymentProof) (response : Response) : Handler Response := do
  let orderId : Option String ← ask .recordOrder
  let input : EnqueueInput := { proof, reason, merchant := call.merchantHost, routeId := call.route.id, orderId }
  match ← attempt (enqueueRefund none input) with
  | some _ => pure (response.marked .pending)
  | none => pure (response.marked .manualReview)

/-- Roll back the call's voucher; an exception counts as a failure. -/
def attemptRollback (delivery : ChannelDelivery) : Handler Bool := do
  let rolledBack ← attempt (rollbackFailedChannelVoucher delivery)
  pure (rolledBack.getD false)

def voucherMark (rolledBack : Bool) : RefundStatus := if rolledBack then .voucherNotConsumed else .manualReview

/-- The route's limit was used up after the payment. -/
def limited (rejected : Response) : Handler Response :=
  match call.asyncCall.voucher, call.settledPayment with
  | some delivery, _ => do
    let rolledBack ← attemptRollback delivery
    call.letGo
    pure (rejected.marked (voucherMark rolledBack))
  | none, some proof => do
    let marked ← call.refund .nonFulfillment proof rejected
    call.letGo
    pure marked
  | none, none => do
    call.letGo
    pure (rejected.marked .manualReview)

/-- The merchant was not paid, or did not deliver. -/
def failed (reason : RefundReason) (response : Response) : Handler Response :=
  match call.asyncCall.voucher, call.settledPayment with
  | some delivery, _ => do
    let rolledBack ← attemptRollback delivery
    -- A voucher that may still count keeps its lock.
    if rolledBack then do
      call.letGo
      pure (response.marked .voucherNotConsumed)
    else pure (response.marked .manualReview)
  | none, some proof =>
    if call.route.operator then pure (response.marked .directSettlement)
    else do
      let marked ← call.refund reason proof response
      call.letGo
      pure marked
  | none, none => do
    call.letGo
    pure (response.marked .manualReview)

/-- An earlier answer to the same call, which makes a second one needless. -/
def cachedAnswer : Handler (Option String) := do
  match call.idempotencyKey with
  | none => pure none
  | some key => do
    let cached : Option String ← OptionT.mk (Prog.call (Action.getIdempotent key))
    pure (cached.filter (· ≠ ""))

/-- Keep the answer for a repetition of the call. -/
def remember (text : String) : Handler Unit :=
  match call.idempotencyKey with
  | none => pure ()
  | some key => ask (.putIdempotent key text)

/-- The merchant accepted the call: hand on its job or what it delivers. -/
def accepted (body : MerchantBody) (merchantStatus : ℕ) : Handler Response := do
  match ← call.asyncCall.handleAsyncJob body merchantStatus with
  | some response => pure response
  | none => do
    call.asyncCall.releaseLock
    call.remember body.text
    pure { status := 200, body := .merchant body.text }

/-- Pay the merchant and hand on what it delivers. -/
def deliver (pick : Pick) : Handler Response := do
  let payResult ← attempt (payMerchantAndGetBody pick none call.route call.quote)
  match payResult.getD (.error .timeout 502 "Merchant delivery failed") with
  | .error reason status error => call.failed reason (Response.error status error)
  | .ok body merchantStatus => call.accepted body merchantStatus

/-- What follows once the payment was verified. -/
def afterVerify (pick : Pick) : Handler Response := do
  match ← call.cachedAnswer with
  | some cached => do
    call.asyncCall.releaseLock
    pure { status := 200, body := .merchant cached }
  | none => do
    match ← consumeRateLimitSlotOrReject call.route with
    | some rejected => call.limited rejected
    | none => call.deliver pick

/-- The rest of a call whose charge has settled. -/
def settledCharge (pick : Pick) : Handler Response :=
  match call.settledPayment with
  | none =>
    pure ((Response.error 503 "Payment settled but delivery was stopped for refund safety").marked .manualReview)
  | some _ => call.afterVerify pick

end MeteredCall

/-- A credential that spends from a channel; what it pays is verified by the payment library. -/
structure ChannelCredential where
  channelContract : String
  challengeId : String
  amount : ℕ
  action : ChannelAction
  /-- The proof of a close. -/
  proof : PaymentProof
  deriving DecidableEq, Repr

structure ChannelCall where
  route : Route
  auth : AuthHeader
  quote : Challenge
  merchantHost : String
  idempotencyKey : Option String
  credential : ChannelCredential
  deriving DecidableEq, Repr

namespace ChannelCall

variable (call : ChannelCall)

/-- The metered call, once the credential was accepted under a lock. -/
def metered (lockId : Uuid) (previousAmount : ℕ) : MeteredCall :=
  let credential := call.credential
  { route := call.route, auth := call.auth, quote := call.quote, merchantHost := call.merchantHost
    idempotencyKey := call.idempotencyKey
    settledPayment := if credential.action = .close then some credential.proof else none
    channelDelivery := some
      { channelContract := credential.channelContract, lockId, challengeId := credential.challengeId
        acceptedAmount := credential.amount, previousAmount, action := credential.action } }

/-- Take the channel's lock and let the library verify the credential: the cumulative amount before, and
what it says; nothing where another delivery holds the lock. -/
def verify (lockId : Uuid) : Handler (Option (ℕ × Verified)) := do
  let credential := call.credential
  let acquired : Bool ← OptionT.mk (Prog.call (Action.acquireLock credential.channelContract lockId))
  if !acquired then pure none
  else do
    let previous : Option (Cumulative ℕ) ← OptionT.mk (Prog.call (Action.readCumulative credential.channelContract))
    let verified : Verified ← OptionT.mk (Prog.call
      (Action.verifyVoucher credential.channelContract lockId credential.challengeId credential.amount credential.action))
    pure (some (cumulativeAmount previous, verified))

def release (lockId : Uuid) : Handler Unit :=
  OptionT.mk (Prog.call (Action.releaseLock none call.credential.channelContract lockId))

def answer (pick : Pick) (lockId : Uuid) : Handler Response := do
  match ← attempt (call.verify lockId) with
  | none => do
    let _ ← attempt (call.release lockId)
    pure (Response.error 402 "Payment verification failed")
  | some none => pure (Response.error 409 "Another channel delivery is in progress")
  | some (some (_, .rejected)) => do
    call.release lockId
    pure (Response.error 402 "Payment Required")
  | some (some (_, .accepted false)) =>
    pure ((Response.error 503 "Channel payment verified but delivery stopped for refund safety").marked .manualReview)
  | some (some (previousAmount, .accepted true)) => (call.metered lockId previousAmount).afterVerify pick

def handle (pick : Pick) : Handler Unit := do
  let lockId ← ask .randomUuid
  let response ← call.answer pick lockId
  ask (.respond lockId response)

end ChannelCall

end MppRouter.Proxy
