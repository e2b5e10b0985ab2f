import MppRouter.Core.Decimal
import MppRouter.Routes.StripeFulfillment
import MppRouter.Routes.UpiRecord

/-! # UPI fulfillment as a machine

The UPI platform notifies the router of funded orders and polls their status; both arrive any number of
times. A notification of the second generation resumes an order that has not entered the executor, one of
the first generation runs its order once. A request whose store operation throws stops where it stands.
-/

namespace MppRouter.Routes.Upi

open Concurrent Mpp

/-! ## Provider invoices -/

inductive Terminal where
  | success | failure
  deriving DecidableEq, Repr

/-- What the signer's binding computed from the raw payload is, or why there is none. -/
inductive RewardBindingOutcome where
  | binding (provider : UpiProvider) (invoiceKey usdCents usdcAtomic fingerprint : String)
  | invalid (code : String)
  | threw
  deriving DecidableEq, Repr

structure LiveInvoice where
  invoiceKey : String
  merchantAccount : Option String := none
  fiatAmountMinor : String
  stablecoinAmountAtomic : Reading
  state : String
  payable : Bool
  payableReason : Option String := none
  validBefore : Option Reading := none
  rewardBinding : RewardBindingOutcome := .threw
  terminal : Option Terminal := none
  deriving DecidableEq, Repr

inductive ResolveError where
  | invalidUrl | unsupported | expired | unreachable
  deriving DecidableEq, Repr

inductive LiveReply where
  | live (invoice : LiveInvoice)
  | failed (error : ResolveError)
  deriving DecidableEq, Repr

def LiveReply.invoice : LiveReply → Option LiveInvoice
  | .live invoice => some invoice
  | .failed _ => none

inductive ApprovalVerifyResult where
  | ok (validUntil : Option String)
  | refused (reason : String)
  | unavailable
  deriving DecidableEq, Repr

/-- The environment variables that are read. -/
structure UpiConfig where
  v2Enabled : Bool := true
  maxCreditMicro : Option String := none
  providersEnabled : List UpiProvider := []
  deriving DecidableEq, Repr

/-- What the signer is told to expect. -/
structure PayInvoiceExpectedBinding where
  invoiceKey : String
  amountAtomic : String
  fingerprint : String
  deriving DecidableEq, Repr

/-- An answer of the Stripe executor, with the text fields of its body. -/
structure StripeReply where
  reply : Stripe.PayInvoiceReply := .transportError
  texts : List (String × String) := []
  deriving DecidableEq, Repr

inductive UpiReply where
  | agent (reply : AgentReply)
  | stripe (reply : StripeReply)
  deriving DecidableEq, Repr

/-- A pay call, with its answer once there is one. -/
structure UpiCall where
  tid : ℕ
  orderId : String
  invoiceKey : String
  expected : Option PayInvoiceExpectedBinding
  reply : Option UpiReply := none
  deriving DecidableEq, Repr

/-! ## The machine -/

inductive RecordOp where
  | load
  | create (fresh : UpiFulfillmentRecord)
  | transition (state : FulfillmentState) (detail : TransitionDetail)
  | noteState (state : String)
  | casV2 (change : V2Change)
  deriving DecidableEq

@[reducible] def RecordOp.Answer : RecordOp → Type
  | .load | .transition _ _ | .noteState _ => Option UpiFulfillmentRecord
  | .create _ => Created
  | .casV2 _ => Bool × Option UpiFulfillmentRecord

/-- What an operation decides on the stored record. -/
def RecordOp.decide (now : ℕ) : (op : RecordOp) → Option UpiFulfillmentRecord →
    Decision UpiFulfillmentRecord op.Answer
  | .load, current => .noop current
  | .create fresh, current => createFulfillment fresh current
  | .transition state detail, current => updateFulfillment now (.transition state detail) current
  | .noteState state, current =>
    updateFulfillment now (fun record => { record with providerFinalState := some state }) current
  | .casV2 change, current => Upi.casV2 now change current

inductive Action where
  | record (orderId : String) (op : RecordOp)
  | guard (action : GuardAction)
  | now
  | randomUuid
  | config
  | checkoutDeliveryPaused
  | funderBalance
  | loadQuote (provider : UpiProvider) (invoiceKey : String)
  | decryptCapability (sealed : String)
  | fetchLiveInvoice (provider : UpiProvider) (invoiceKey : String) (payUrl : Option String)
  | computeQuoteId (provider : UpiProvider) (invoiceKey : String) (baseAmountMinor : ℕ) (expiresAt : Option String)
  | verifyInvoiceApproval (approvalId : Option String) (invoiceKey fingerprint : String)
  | send (orderId invoiceKey : String) (expected : Option PayInvoiceExpectedBinding)
  | receiveAgent (orderId : String)
  | receiveStripe (orderId : String)
  deriving DecidableEq

@[reducible] def Action.Answer : Action → Type
  | .record _ op => op.Answer
  | .guard action => action.Answer
  | .now => ℕ
  | .randomUuid => Uuid
  | .config => UpiConfig
  | .checkoutDeliveryPaused => Bool
  | .funderBalance => Option ℤ
  | .loadQuote _ _ | .decryptCapability _ => Option String
  | .fetchLiveInvoice _ _ _ => LiveReply
  | .computeQuoteId _ _ _ _ => String
  | .verifyInvoiceApproval _ _ _ => ApprovalVerifyResult
  | .send _ _ _ => Unit
  | .receiveAgent _ => AgentReply
  | .receiveStripe _ => StripeReply

/-- What the code does not decide. -/
structure Choice where
  now : ℕ := 0
  config : UpiConfig := {}
  paused : Bool := false
  balance : Option ℤ := none
  /-- The sealed pay URL of a stored quote, or what it opens to. -/
  capability : Option String := none
  live : LiveReply := .failed .unreachable
  quoteId : String := ""
  approval : ApprovalVerifyResult := .unavailable
  agent : AgentReply := .threw
  stripe : StripeReply := {}
  deriving DecidableEq, Repr

structure World where
  fulfillments : String → Option UpiFulfillmentRecord
  guards : Guards
  /-- Identifiers minted so far. -/
  minted : ℕ
  /-- The request that created each record. -/
  creators : String → Option ℕ
  /-- Newest first. -/
  calls : List UpiCall

/-- The answer to a thread's call for an order. -/
def UpiCall.answer (tid : ℕ) (orderId : String) (reply : UpiReply) (call : UpiCall) : UpiCall :=
  if call.tid = tid ∧ call.orderId = orderId then { call with reply := some reply } else call

/-- Remember who created a record. -/
def World.remember (tid : ℕ) (orderId : String) (world : World) : (op : RecordOp) → op.Answer → World
  | .create _, .created _ => { world with creators := Function.update world.creators orderId (some tid) }
  | _, _ => world

def perform (tid : ℕ) : (action : Action) → Choice → World → action.Answer × World
  | .record orderId op, choice, world =>
    let decision := op.decide choice.now (world.fulfillments orderId)
    let fulfillment := decision.after (world.fulfillments orderId)
    (decision.result, { world.remember tid orderId op decision.result with
      fulfillments := Function.update world.fulfillments orderId fulfillment })
  | .guard action, choice, world =>
    let (answer, guards) := action.perform choice.now world.guards
    (answer, { world with guards })
  | .now, choice, world => (choice.now, world)
  | .randomUuid, _, world => (⟨tid, world.minted⟩, { world with minted := world.minted + 1 })
  | .config, choice, world => (choice.config, world)
  | .checkoutDeliveryPaused, choice, world => (choice.paused, world)
  | .funderBalance, choice, world => (choice.balance, world)
  | .loadQuote _ _, choice, world => (choice.capability, world)
  | .decryptCapability _, choice, world => (choice.capability, world)
  | .fetchLiveInvoice _ _ _, choice, world => (choice.live, world)
  | .computeQuoteId _ _ _ _, choice, world => (choice.quoteId, world)
  | .verifyInvoiceApproval _ _ _, choice, world => (choice.approval, world)
  | .send orderId invoiceKey expected, _, world =>
    ((), { world with calls := { tid, orderId, invoiceKey, expected } :: world.calls })
  | .receiveAgent orderId, choice, world =>
    (choice.agent, { world with calls := world.calls.map (UpiCall.answer tid orderId (.agent choice.agent)) })
  | .receiveStripe orderId, choice, world =>
    (choice.stripe, { world with calls := world.calls.map (UpiCall.answer tid orderId (.stripe choice.stripe)) })

abbrev upiMachine : Machine where
  Action := Action
  Answer := Action.Answer
  Choice := Choice
  World := World
  perform tid action choice world := some (perform tid action choice world)

/-- Code that may throw. -/
abbrev Handler (α : Type) := Throwing Action Action.Answer α

def ask (action : Action) : Handler action.Answer := OptionT.lift (Prog.call action)

def onRecord (orderId : String) (op : RecordOp) : Handler op.Answer := ask (.record orderId op)

def onGuard (action : GuardAction) : Handler action.Answer := ask (.guard action)

/-- A guarded change of a record that must be there. -/
def changeV2 (orderId : String) (change : V2Change) : Handler (Bool × UpiFulfillmentRecord) := do
  match ← onRecord orderId (.casV2 change) with
  | (applied, some record) => pure (applied, record)
  | (_, none) => failure

def transition (orderId : String) (state : FulfillmentState) (detail : TransitionDetail) :
    Handler (Option UpiFulfillmentRecord) :=
  onRecord orderId (.transition state detail)

/-! ## Confirming with the provider -/

def processingStaleMs : ℕ := 15 * 60 * 1000

/-- A time so long ago that nothing more is expected. -/
def stale (since now : ℕ) : Bool := now > since + processingStaleMs

/-- What a look at the provider says about a second-generation order. -/
def confirmedV2 (record : UpiFulfillmentRecord) (live : Option LiveInvoice) (now : ℕ) : Option V2Change :=
  let succeeded := live.filter (·.terminal = some .success)
  if record.phase = .notStarted then
    -- only somebody else's payment ends an order that was never sent
    if record.state = .queued then
      succeeded.map fun invoice => .refuse "paid_by_other_party" (some invoice.state)
    else none
  else match succeeded with
    | some invoice => some (.providerConfirmed invoice.state)
    | none =>
      let isStale := record.state = .processing ∧ stale record.updatedAt now
      if live.bind LiveInvoice.terminal = some .failure ∨ isStale then
        some (.providerFailed record.updatedAt
          (if isStale then "no provider confirmation after the executor call" else "provider_terminal_failure")
          (live.map LiveInvoice.state))
      else live.map fun invoice => .observe invoice.state

/-- Observe a second-generation order; never pays. -/
def confirmV2WithProvider (record : UpiFulfillmentRecord) (now : ℕ) : Handler UpiFulfillmentRecord := do
  let reply ← ask (.fetchLiveInvoice record.provider record.invoiceKey none)
  match confirmedV2 record reply.invoice now with
  | none => pure record
  | some change => do
    let (_, next) ← changeV2 record.orderId change
    pure next

/-- The pay URL of a Stripe order, from its stored quote; other providers need none. -/
def observedPayUrl (record : UpiFulfillmentRecord) : Handler (Option (Option String)) :=
  match record.provider with
  | .stripeCrypto => do
    match ← ask (.loadQuote record.provider record.invoiceKey) with
    | none => pure none
    | some sealed => do
      let payUrl ← ask (.decryptCapability sealed)
      pure (payUrl.map some)
  | _ => pure (some none)

/-- What a live invoice says about a first-generation order. -/
def confirmedV1 (record : UpiFulfillmentRecord) (live : LiveInvoice) (now : ℕ) :
    Option (FulfillmentState × TransitionDetail) :=
  let detail (failureReason : String) : TransitionDetail :=
    { providerFinalState := some live.state, failureReason := some failureReason }
  if record.state = .queued then
    if live.terminal = some .success then some (.failed, detail "invoice settled before this order executed")
    else if stale record.createdAt now then some (.failed, detail "execution never started")
    else none
  else if live.terminal = some .success then some (.paid, { providerFinalState := some live.state })
  else if live.terminal = some .failure then some (.failed, detail "provider_terminal_failure")
  else if record.state = .processing ∧ stale record.updatedAt now then
    some (.unknown, detail "no provider confirmation after executor accepted")
  else none

/-- Observe a first-generation order; never pays. -/
def confirmV1WithProvider (record : UpiFulfillmentRecord) (now : ℕ) : Handler UpiFulfillmentRecord := do
  match ← observedPayUrl record with
  | none => pure record
  | some payUrl =>
    match ← ask (.fetchLiveInvoice record.provider record.invoiceKey payUrl) with
    | .failed _ => pure record
    | .live live =>
      match confirmedV1 record live now with
      | some (state, detail) => do
        let next ← transition record.orderId state detail
        pure (next.getD record)
      | none =>
        if record.state = .queued then pure record
        else do
          let next ← onRecord record.orderId (.noteState live.state)
          pure (next.getD record)

def confirmWithProvider (orderId : String) : Handler (Option UpiFulfillmentRecord) := do
  let now ← ask .now
  match ← onRecord orderId .load with
  | none => pure none
  | some record =>
    if record.state.terminal then pure (some record)
    else if record.schemaVersion = some 2 then do
      let next ← confirmV2WithProvider record now
      pure (some next)
    else do
      let next ← confirmV1WithProvider record now
      pure (some next)

/-- `GET /api/invoice/fulfillment/:order_id` -/
def handleUpiFulfillmentStatus (orderId : String) : Handler UpiResponse := do
  match ← onRecord orderId .load with
  | none => pure (.error 404 "not_found")
  | some record => do
    let fresh ← confirmWithProvider orderId
    pure (statusPayload (fresh.getD record))

/-! ## Calling the executor -/

def callAgentApiPayInvoice (orderId invoiceKey : String) (expected : Option PayInvoiceExpectedBinding) :
    Handler AgentReply :=
  -- a test order is refused before anything is sent
  if containsTestPaymentId invoiceKey then pure .threw
  else do
    ask (.send orderId invoiceKey expected)
    ask (.receiveAgent orderId)

def callStripePayInvoice (orderId invoiceKey : String) : Handler (Stripe.StripePayInvoiceResult × Option String) := do
  ask (.send orderId invoiceKey none)
  let answer ← ask (.receiveStripe orderId)
  pure (Stripe.payInvoiceResult answer.reply, pickExecutionRef answer.texts)

/-! ## Verified funding, second generation -/

structure VerifiedFundingBody where
  orderId : String
  provider : UpiProvider
  invoiceKey : String
  quoteId : String
  quoteExpiresAt : Option Reading
  baseAmountMinor : ℕ
  creditMicro : ℕ
  merchantApprovalId : Option String
  deriving DecidableEq, Repr

inductive V2Gate where
  | ok (invoice : LiveInvoice) (binding : V2FrozenBinding)
  | refuse (code : String) (providerFinalState : Option String)
  | unavailable (reason : String)
  deriving DecidableEq, Repr

/-- Two expiries name the same time. -/
def sameExpiry (quoted live : Option Reading) : Bool :=
  match quoted, live with
  | none, none => true
  | some quoted, some live => quoted.value.isSome ∧ quoted.value = live.value
  | _, _ => false

inductive Checked where
  | refuse (code : String)
  | threw
  | bound (fingerprint usdcAtomic usdCents : String)
  deriving DecidableEq, Repr

/-- The checks of the live invoice against the body, the quote and the frozen binding. -/
def checkLive (body : VerifiedFundingBody) (frozen : Option V2FrozenBinding) (live : LiveInvoice) (quoteId : String)
    (config : UpiConfig) : Checked :=
  if quoteId ≠ body.quoteId ∨ !sameExpiry body.quoteExpiresAt live.validBefore then .refuse "invalid_quote"
  else if live.fiatAmountMinor ≠ toString body.baseAmountMinor then .refuse "invoice_changed"
  else if live.terminal = some .success then .refuse "already_paid"
  else if !live.payable then .refuse "not_payable"
  else if body.provider ∉ config.providersEnabled then .refuse "provider_disabled"
  else match live.rewardBinding with
    | .threw => .threw
    | .invalid _ => .refuse "binding_invalid"
    | .binding provider invoiceKey usdCents usdcAtomic fingerprint =>
      if provider ≠ body.provider ∨ invoiceKey ≠ body.invoiceKey ∨ usdCents ≠ live.fiatAmountMinor ∨
          usdcAtomic ≠ live.stablecoinAmountAtomic.text then .refuse "binding_invalid"
      else if frozen.any (·.fingerprint ≠ fingerprint) then .refuse "binding_changed"
      else .bound fingerprint usdcAtomic usdCents

/-- Credit is spent only with the merchant's approval. -/
def v2Approve (body : VerifiedFundingBody) (live : LiveInvoice) (fingerprint usdcAtomic usdCents : String) :
    Handler V2Gate := do
  let binding (approvalValidUntil : Option String) : V2FrozenBinding :=
    ⟨fingerprint, usdcAtomic, usdCents, body.merchantApprovalId, approvalValidUntil⟩
  if body.creditMicro > 0 then
    match ← ask (.verifyInvoiceApproval body.merchantApprovalId body.invoiceKey fingerprint) with
    | .unavailable => pure (.unavailable "eligibility_unavailable")
    | .refused reason => pure (.refuse reason (some live.state))
    | .ok validUntil => pure (.ok live (binding validUntil))
  else pure (.ok live (binding none))

/-- Whether the order may proceed, by the live invoice; never executes anything. -/
def v2Gate (body : VerifiedFundingBody) (frozen : Option V2FrozenBinding) : Handler V2Gate := do
  match ← ask (.fetchLiveInvoice body.provider body.invoiceKey none) with
  | .failed .expired => pure (.refuse "invoice_gone" none)
  | .failed .unsupported => pure (.refuse "non_usd" none)
  | .failed _ => pure (.unavailable "provider_unavailable")
  | .live live =>
    if live.invoiceKey ≠ body.invoiceKey then pure (.refuse "invalid_quote" (some live.state))
    else do
      let quoteId ← ask (.computeQuoteId body.provider body.invoiceKey body.baseAmountMinor
        (live.validBefore.map Reading.text))
      let config ← ask .config
      match checkLive body frozen live quoteId config with
      | .refuse code => pure (.refuse code (some live.state))
      | .threw => failure
      | .bound fingerprint usdcAtomic usdCents => v2Approve body live fingerprint usdcAtomic usdCents

inductive CreditLimit where
  | none | invalid
  | limit (micro : ℕ)
  deriving DecidableEq, Repr

/-- Unset or a positive integer of at most 18 digits; anything else fails closed. -/
def v2CreditLimit (config : UpiConfig) : CreditLimit :=
  match config.maxCreditMicro with
  | .none => .none
  | some raw =>
    let digits := raw.toList
    if digits.isEmpty then .none
    else match Decimal.parseNat digits with
      | some micro => if digits.head? ≠ some '0' ∧ digits.length ≤ 18 then .limit micro else .invalid
      | .none => .invalid

/-- The refusal barrier; a claim this request took goes back once the barrier stands. -/
def refuse (body : VerifiedFundingBody) (claimed : Bool) (code : String) (providerFinalState : Option String) :
    Handler UpiResponse := do
  let (applied, record) ← changeV2 body.orderId (.refuse code providerFinalState)
  if applied ∧ claimed then
    let _ ← onGuard (.releaseInvoice body.invoiceKey .upi (.upiOrder body.orderId))
    pure (v2Response record)
  else pure (v2Response record)

/-- Keep an open record queued, with a reason. -/
def v2Queue (body : VerifiedFundingBody) (reason : String) : Handler UpiResponse := do
  let (_, record) ← changeV2 body.orderId (.queue reason)
  pure (v2Response record)

/-- Send the one call and record what is answered. -/
def executeCoinbaseV2 (orderId : String) (attemptId : Uuid) (invoiceKey : String)
    (expected : PayInvoiceExpectedBinding) : Handler Unit := do
  let reply ← callAgentApiPayInvoice orderId invoiceKey (some expected)
  match reply with
  | .threw => do
    let _ ← changeV2 orderId (.mark attemptId (.ambiguous "executor transport error"))
    pure ()
  | .answered status answer =>
    if reply.ok then do
      let _ ← changeV2 orderId (.mark attemptId (.accepted (answer.bind (pickExecutionRef ·.texts))))
      let _ ← confirmWithProvider orderId
      pure ()
    else if isPreSignBindingMismatch reply then do
      let (applied, _) ← changeV2 orderId (.mark attemptId .mismatch)
      if applied then
        let _ ← onGuard (.releaseInvoice invoiceKey .upi (.upiOrder orderId))
        pure ()
      else pure ()
    else do
      let _ ← changeV2 orderId (.mark attemptId (.ambiguous s!"executor status {status}"))
      pure ()

/-- Step 6: take the execution right, and execute. -/
def acquireAndExecute (body : VerifiedFundingBody) (background : Bool) (binding : V2FrozenBinding) :
    Handler UpiResponse := do
  let expected : PayInvoiceExpectedBinding := ⟨body.invoiceKey, binding.amountAtomic, binding.fingerprint⟩
  let attemptId ← ask .randomUuid
  let (applied, record) ← changeV2 body.orderId (.acquire attemptId binding)
  if applied then
    let run := executeCoinbaseV2 body.orderId attemptId body.invoiceKey expected
    if background then do
      let _ ← Throwing.attempt run
      pure (v2Response record)
    else do
      run
      let after ← onRecord body.orderId .load
      pure (v2Response (after.getD record))
  else pure (v2Response record)

/-- Steps 4 and 5, with the claim in hand: check again and look at the balance and the switch. -/
def recheckV2 (body : VerifiedFundingBody) (background : Bool) (frozen : Option V2FrozenBinding) :
    Handler UpiResponse := do
  match ← v2Gate body frozen with
  | .refuse code providerFinalState => refuse body true code providerFinalState
  | .unavailable reason => v2Queue body reason
  | .ok invoice binding =>
    match invoice.stablecoinAmountAtomic.value with
    | none => failure
    | some invoiceAtomic => do
      let balance ← ask .funderBalance
      if balance.any (· < invoiceAtomic) then refuse body true "insufficient_funder_balance" none
      else if ← ask .checkoutDeliveryPaused then refuse body true "checkout_paused" none
      else acquireAndExecute body background binding

/-- Steps 2 and 3: quote, freeze the binding and claim the invoice. -/
def freezeAndClaim (body : VerifiedFundingBody) (background : Bool) (record : UpiFulfillmentRecord) :
    Handler UpiResponse := do
  match ← v2Gate body record.binding with
  | .refuse code providerFinalState => refuse body false code providerFinalState
  | .unavailable reason => v2Queue body reason
  | .ok invoice binding => do
    let (applied, frozen) ← changeV2 body.orderId
      (.freeze binding invoice.fiatAmountMinor invoice.stablecoinAmountAtomic.text)
    if applied then
      match ← onGuard (.claimInvoice body.invoiceKey .upi (.upiOrder body.orderId)) with
      | .refused _ => refuse body false "already_claimed" none
      | .ok _ _ => recheckV2 body background frozen.binding
    else if frozen.isV2Open then refuse body false "binding_changed" none
    else pure (v2Response frozen)

/-- Step 1: switches and limits. -/
def switchRefusal (body : VerifiedFundingBody) (config : UpiConfig) : Option String :=
  if !config.v2Enabled then some "v2_disabled"
  else match v2CreditLimit config with
    | .none => none
    | .invalid => some "limit_misconfigured"
    | .limit micro => if body.creditMicro > micro then some "over_credit_limit" else none

def runV2 (body : VerifiedFundingBody) (background : Bool) (record : UpiFulfillmentRecord) : Handler UpiResponse := do
  if ← ask .checkoutDeliveryPaused then refuse body false "checkout_paused" none
  else do
    let config ← ask .config
    match switchRefusal body config with
    | some code => refuse body false code none
    | none => freezeAndClaim body background record

/-- The record a first notification creates. -/
def freshV2 (body : VerifiedFundingBody) (bodyHash : String) (now : ℕ) : UpiFulfillmentRecord :=
  { orderId := body.orderId, provider := body.provider, invoiceKey := body.invoiceKey, bodyHash
    baseAmountMinor := toString body.baseAmountMinor, stablecoinAmountAtomic := ""
    createdAt := now, updatedAt := now
    schemaVersion := some 2, executionPhase := some .notStarted, queuedReason := some "received" }

/-- `POST /api/invoice/verified-funding`, authenticated and parsed. -/
def handleUpiVerifiedFunding (body : VerifiedFundingBody) (bodyHash : String) (background : Bool) :
    Handler UpiResponse := do
  let now ← ask .now
  match ← onRecord body.orderId (.create (freshV2 body bodyHash now)) with
  | .mismatch => pure (.error 409 "order_body_mismatch")
  | .created record | .replay record =>
    if record.isV2Open then runV2 body background record else pure (v2Response record)

/-! ## Verified pay-in, first generation -/

structure VerifiedPayInBody where
  orderId : String
  provider : UpiProvider
  invoiceKey : String
  quoteId : String
  baseAmountMinor : ℕ
  deriving DecidableEq, Repr

def executeCoinbase (orderId invoiceKey : String) : Handler Unit := do
  let reply ← callAgentApiPayInvoice orderId invoiceKey none
  match reply with
  | .threw => do
    let _ ← transition orderId .unknown { failureReason := some "executor transport error" }
    pure ()
  | .answered status answer =>
    if reply.ok then do
      let _ ← transition orderId .processing { executionRef := some (answer.bind (pickExecutionRef ·.texts)) }
      let _ ← confirmWithProvider orderId
      pure ()
    else do
      let state := if status ≥ 500 ∨ status = 0 then FulfillmentState.unknown else .failed
      let _ ← transition orderId state { failureReason := some s!"executor status {status}" }
      pure ()

/-- Record the outcome of a Stripe call; only a definite refusal returns the headroom. -/
def recordStripeOutcome (orderId : String) (inv : LiveInvoice) (invoiceAtomic : ℤ) (day : ℕ)
    (result : Stripe.StripePayInvoiceResult) (executionRef : Option String) : Handler Unit := do
  if result.ambiguous then
    let _ ← transition orderId .unknown { failureReason := some s!"executor status {result.status}" }
    pure ()
  else if result.disabled then
    onGuard (.releaseSpend .stripe day invoiceAtomic)
    let _ ← transition orderId .failed
      { failureReason := some "stripe_fulfillment_disabled", providerFinalState := some inv.state }
    pure ()
  else if result.ok then
    let _ ← transition orderId .processing { executionRef := some executionRef }
    pure ()
  else
    onGuard (.releaseSpend .stripe day invoiceAtomic)
    let _ ← transition orderId .failed { failureReason := some s!"executor status {result.status}" }
    pure ()

def executeStripe (orderId : String) (inv : LiveInvoice) (payUrl : Option String) (invoiceAtomic : ℤ) (now : ℕ) :
    Handler Unit := do
  let day := now / dayMs
  if payUrl.isNone ∨ !Stripe.present inv.merchantAccount then
    let _ ← transition orderId .failed { failureReason := some "missing pay url or merchant account" }
    pure ()
  else match ← onGuard (.reserveSpend .stripe day invoiceAtomic) with
    | none => do
      let _ ← transition orderId .failed { failureReason := some "daily_cap_reached" }
      pure ()
    | some _ => do
      let (result, executionRef) ← callStripePayInvoice orderId inv.invoiceKey
      recordStripeOutcome orderId inv invoiceAtomic day result executionRef

def executeFulfillment (body : VerifiedPayInBody) (inv : LiveInvoice) (payUrl : Option String) : Handler Unit := do
  match inv.stablecoinAmountAtomic.value with
  | none => failure
  | some invoiceAtomic => do
    let now ← ask .now
    if ← ask .checkoutDeliveryPaused then
      let _ ← transition body.orderId .failed { failureReason := some "checkout_paused" }
      pure ()
    else
      let balance ← ask .funderBalance
      if balance.any (· < invoiceAtomic) then
        let _ ← transition body.orderId .failed { failureReason := some "insufficient_funder_balance" }
        pure ()
      else match body.provider with
        | .stripeCrypto => executeStripe body.orderId inv payUrl invoiceAtomic now
        | _ => executeCoinbase body.orderId body.invoiceKey

/-- Money was captured: from the record on every failure is a persisted outcome. -/
def preFail (body : VerifiedPayInBody) (live : LiveInvoice) (config : UpiConfig) : Option String :=
  if live.fiatAmountMinor ≠ toString body.baseAmountMinor then some "invoice_changed"
  else if live.terminal = some .success then some "already_paid"
  else if !live.payable then some (live.payableReason.getD "not_payable")
  else if body.provider ∉ config.providersEnabled then some "provider_disabled"
  else none

def freshV1 (body : VerifiedPayInBody) (bodyHash : String) (inv : LiveInvoice) (now : ℕ) : UpiFulfillmentRecord :=
  { orderId := body.orderId, provider := body.provider, invoiceKey := body.invoiceKey, bodyHash
    baseAmountMinor := inv.fiatAmountMinor, stablecoinAmountAtomic := inv.stablecoinAmountAtomic.text
    createdAt := now, updatedAt := now }

/-- Steps 6 and 7: claim the invoice and execute. -/
def claimAndExecute (body : VerifiedPayInBody) (inv : LiveInvoice) (payUrl : Option String) (background : Bool) :
    Handler UpiResponse := do
  match ← onGuard (.claimInvoice body.invoiceKey .upi (.upiOrder body.orderId)) with
  | .refused _ => do
    let _ ← transition body.orderId .failed { failureReason := some "claimed_by_other_channel" }
    pure (.fulfillment 409 (some "already_claimed") body.orderId .failed)
  | .ok _ _ => do
    let _ ← transition body.orderId .processing {}
    let run := executeFulfillment body inv payUrl
    if background then do
      let _ ← Throwing.attempt run
      pure (.fulfillment 202 none body.orderId .processing)
    else do
      run
      let after ← onRecord body.orderId .load
      pure (.fulfillment 202 none body.orderId ((after.map UpiFulfillmentRecord.state).getD .processing))

/-- Steps 4 and 5: verify the quote against the live invoice and create the record. -/
def createAndRun (body : VerifiedPayInBody) (bodyHash : String) (payUrl : Option String) (now : ℕ)
    (background : Bool) : Handler UpiResponse := do
  match ← ask (.fetchLiveInvoice body.provider body.invoiceKey payUrl) with
  | .failed .invalidUrl => pure (.error 400 "unsupported_url")
  | .failed .unsupported => pure (.error 422 "non_usd")
  | .failed .expired => pure (.error 410 "expired")
  | .failed .unreachable => pure (.error 502 "upstream_error")
  | .live inv =>
    if inv.invoiceKey ≠ body.invoiceKey then pure (.error 422 "invalid_quote")
    else do
      let quoteId ← ask (.computeQuoteId body.provider body.invoiceKey body.baseAmountMinor
        (inv.validBefore.map Reading.text))
      if quoteId ≠ body.quoteId then pure (.error 422 "invalid_quote")
      else do
        let config ← ask .config
        match ← onRecord body.orderId (.create (freshV1 body bodyHash inv now)) with
        | .mismatch => pure (.error 409 "order_body_mismatch")
        | .replay record => pure (.fulfillment 202 none record.orderId record.state)
        | .created _ =>
          match preFail body inv config with
          | some reason => do
            let _ ← transition body.orderId .failed
              { failureReason := some reason, providerFinalState := some inv.state }
            pure (.fulfillment 202 none body.orderId .failed)
          | none => claimAndExecute body inv payUrl background

/-- `POST /api/invoice/verified-pay-in`, authenticated and parsed. -/
def handleUpiVerifiedPayIn (body : VerifiedPayInBody) (bodyHash : String) (background : Bool) :
    Handler UpiResponse := do
  match ← onRecord body.orderId .load with
  | some existing =>
    if existing.bodyHash ≠ bodyHash then pure (.error 409 "order_body_mismatch")
    else pure (.fulfillment 202 none existing.orderId existing.state)
  | none => do
    if ← ask .checkoutDeliveryPaused then pure (.error 503 "checkout_paused")
    else do
      let now ← ask .now
      let sealed ← ask (.loadQuote body.provider body.invoiceKey)
      match body.provider, sealed with
      | .stripeCrypto, none => pure (.error 422 "quote_unknown")
      | .stripeCrypto, some sealed => do
        match ← ask (.decryptCapability sealed) with
        | none => pure (.error 503 "capability_unavailable")
        | some payUrl => createAndRun body bodyHash (some payUrl) now background
      | _, _ => createAndRun body bodyHash none now background

/-! ## Requests -/

/-- What reaches the router about UPI orders; an execution in the background does not delay its answer. -/
inductive Request where
  | verifiedFunding (body : VerifiedFundingBody) (bodyHash : String) (background : Bool)
  | verifiedPayIn (body : VerifiedPayInBody) (bodyHash : String) (background : Bool)
  | status (orderId : String)
  /-- Another channel uses the guards that the orders share with it. -/
  | otherChannel (actions : List GuardAction)
  deriving DecidableEq

def useGuards : List GuardAction → Handler Unit
  | [] => pure ()
  | action :: rest => do
    let _ ← onGuard action
    useGuards rest

def Request.handler : Request → Handler Unit
  | .verifiedFunding body bodyHash background => do
    let _ ← handleUpiVerifiedFunding body bodyHash background
    pure ()
  | .verifiedPayIn body bodyHash background => do
    let _ ← handleUpiVerifiedPayIn body bodyHash background
    pure ()
  | .status orderId => do
    let _ ← handleUpiFulfillmentStatus orderId
    pure ()
  | .otherChannel actions => useGuards actions

/-- Serve a request; what it throws ends it. -/
def Request.serve (request : Request) : Prog Action Action.Answer Unit := do
  let _ ← request.handler.run
  pure ()

/-- No order yet, under any guards. -/
def World.fresh (guards : Guards) : World := { fulfillments := fun _ => none, guards, minted := 0, creators := fun _ => none, calls := [] }

/-- Any requests at once, each served by a thread of its own. -/
def serving (guards : Guards) (requests : ℕ → Request) : upiMachine.Config :=
  ⟨.fresh guards, fun tid => (requests tid).serve⟩

end MppRouter.Routes.Upi
