import MppRouter.Core.Throwing
import MppRouter.Core.Totals
import MppRouter.Routes.Router
import MppRouter.Routes.StripeRecord

/-! # Stripe fulfillment as a machine

Webhook events, reconciler passes, cron sweeps and human actions of any number of requests interleave
at single store operations. Every operation on a store may throw, with or without effect. A request
captures its clock once, when it arrives.
-/

namespace MppRouter.Routes.Stripe

open Concurrent Mpp Function

/-! ## Pay-invoice -/

/-- The fields of an answer's body that are read. -/
structure PayInvoiceBody where
  code : Option String := none
  error : Option String := none
  signed : Option Bool := none
  success : Option Bool := none
  state : Option String := none
  provider : Option String := none
  blockchainTxId : Option String := none
  deriving DecidableEq, Repr

/-- What comes back from the edge function; a body that does not parse is absent. -/
inductive PayInvoiceReply where
  | transportError
  | bodyLost (status : ℕ)
  | answered (status : ℕ) (body : Option PayInvoiceBody)
  deriving DecidableEq, Repr

structure StripePayInvoiceResult where
  ok : Bool
  status : ℕ
  disabled : Bool
  ambiguous : Bool
  body : Option PayInvoiceBody
  deriving DecidableEq, Repr

/-- The text mentions the fail-closed switch, in any case. -/
def mentionsDisabled (error : String) : Bool :=
  let lower := error.toList.map Char.toLower
  decide ("disabled".toList <:+: lower) || decide ("fail-closed".toList <:+: lower)

/-- Read an answer: disabled, accepted, ambiguous or a definite refusal. -/
def payInvoiceResult : PayInvoiceReply → StripePayInvoiceResult
  | .transportError => ⟨false, 0, false, true, none⟩
  | .bodyLost status => ⟨false, status, false, true, none⟩
  | .answered status body =>
    let ok := decide (200 ≤ status ∧ status < 300)
    let disabled := decide (status = 403) && body.any fun body =>
      body.code = some "stripe_fulfillment_disabled" || body.error.any mentionsDisabled
    ⟨ok, status, disabled, !ok && !disabled && (decide (status ≥ 500) || body.isNone), body⟩

def payResultSignedFlag (result : StripePayInvoiceResult) : Option Bool := result.body.bind PayInvoiceBody.signed

/-- The projection of an answer that may be stored. -/
def safeProviderResult (result : StripePayInvoiceResult) : ProviderResult :=
  { ok := some result.ok, status := some result.status
    success := result.body.bind PayInvoiceBody.success
    state := result.body.bind PayInvoiceBody.state
    provider := result.body.bind PayInvoiceBody.provider
    blockchainTxId := result.body.bind PayInvoiceBody.blockchainTxId }

structure PayInvoiceArgs where
  stripeUrl : String
  expectedMerchantAccount : Option String
  expectedAmountAtomic : Option LockedAmount
  spentTodayAtomic : ℤ
  deriving DecidableEq, Repr

/-! ## What happened -/

inductive CallState where
  | unsent | outstanding | accepted | ambiguous | refused
  /-- A retry took the call for unsigned. -/
  | disproved
  deriving DecidableEq, Repr

/-- How a received answer leaves the call. -/
def CallState.received (result : StripePayInvoiceResult) : CallState :=
  if result.ambiguous then .ambiguous
  else if result.disabled then .refused
  else if result.ok then .accepted
  else .refused

/-- The call went out and is not known to have signed nothing. -/
def CallState.possiblySigned : CallState → Bool
  | .outstanding | .accepted | .ambiguous => true
  | .unsent | .refused | .disproved => false

def CallState.disprove : CallState → CallState
  | .accepted | .ambiguous => .disproved
  | call => call

/-- A claim of a record, with the settlement that follows it. -/
structure Attempt where
  tid : ℕ
  invoiceKey : String
  amount : ℤ
  /-- The UTC day of the handler's clock. -/
  day : ℕ
  /-- Its reservation counts in the daily ledger. -/
  counted : Bool := false
  call : CallState := .unsent
  deriving DecidableEq, Repr

inductive Trace where
  | read (invoiceKey : String) (live : LiveState)
  | ambiguous (invoiceKey : String)
  | sent (invoiceKey : String)
  deriving DecidableEq, Repr

/-- What happened so far. Statements speak about it; the code does not see it. -/
structure History where
  attempts : AList fun _ : ℕ => Attempt
  /-- Attempts are numbered from zero. -/
  started : ℕ
  /-- The attempt a request settles an invoice with. -/
  current : ℕ → String → Option ℕ
  /-- The attempt whose claim on the record is in force. -/
  holder : String → Option ℕ
  /-- The attempt that ended ambiguous last. -/
  ambiguous : String → Option ℕ
  /-- The ambiguous attempt that a request's retry re-opened. -/
  reopened : ℕ → String → Option ℕ
  /-- Newest first. -/
  trace : List Trace

namespace History

def start (history : History) (attempt : Attempt) : History :=
  { history with
    attempts := history.attempts.insert history.started attempt
    started := history.started + 1
    current := update history.current attempt.tid
      (update (history.current attempt.tid) attempt.invoiceKey (some history.started))
    holder := update history.holder attempt.invoiceKey (some history.started) }

def modify (history : History) (id : Option ℕ) (change : Attempt → Attempt) : History :=
  match id with
  | none => history
  | some id =>
    match history.attempts.lookup id with
    | none => history
    | some attempt => { history with attempts := history.attempts.insert id (change attempt) }

/-- A request gives back its own claim, if that is the one in force. -/
def giveBack (history : History) (tid : ℕ) (invoiceKey : String) : History :=
  if history.holder invoiceKey = history.current tid invoiceKey then
    { history with holder := update history.holder invoiceKey none }
  else history

def endAmbiguous (history : History) (tid : ℕ) (invoiceKey : String) : History :=
  { history with
    ambiguous := update history.ambiguous invoiceKey (history.current tid invoiceKey)
    trace := .ambiguous invoiceKey :: history.trace }

/-- A retry takes the attempt that ended ambiguous last for unsigned, and its reservation with it. -/
def reopen (history : History) (tid : ℕ) (invoiceKey : String) : History :=
  { history.modify (history.ambiguous invoiceKey) fun attempt => { attempt with call := attempt.call.disprove } with
    reopened := update history.reopened tid
      (update (history.reopened tid) invoiceKey (history.ambiguous invoiceKey)) }

end History

structure World where
  records : String → Option StripeFulfillmentRecord
  guards : Guards
  history : History

/-! ## Operations on a record -/

inductive RecordOp where
  | load
  /-- The load of a retry. -/
  | inspect (now : ℕ) (source : RetrySource)
  | seed (args : SeedArgs) (now : ℕ)
  | claim (input : StripeWebhookInput) (now : ℕ)
  | release (now : ℕ) (releaseTo : StripeRouterStatus) (balance : Option ℤ) (kind : String) (detail : EventDetail)
  | finalize (now : ℕ) (finalStatus : StripeRouterStatus) (opts : FinalizeOpts)
  | stampCheck (now minInterval : ℕ)
  | recordCheckError (now : ℕ) (error : String)
  | recordCheck (now : ℕ) (live : LiveState)
  | reopen (now : ℕ) (plan : RetryPlan)
  | resolve (args : ManualResolution)
  deriving DecidableEq

@[reducible] def RecordOp.Answer : RecordOp → Type
  | .load | .inspect _ _ => Option StripeFulfillmentRecord
  | .claim _ _ => Claim
  | .seed _ _ | .release _ _ _ _ _ | .finalize _ _ _ | .recordCheck _ _ => Unit
  | .stampCheck _ _ | .recordCheckError _ _ | .reopen _ _ => Bool
  | .resolve _ => ManualResolveOutcome

/-- What an operation decides on the stored record. -/
def RecordOp.decide (invoiceKey : String) : (op : RecordOp) → Option StripeFulfillmentRecord →
    Decision StripeFulfillmentRecord op.Answer
  | .load, current | .inspect _ _, current => .noop current
  | .seed args now, current => updateStripeRecord invoiceKey (seedStripeRecord args now) current
  | .claim input now, current => updateStripeRecord invoiceKey (claimStripeRecord input now) current
  | .release now releaseTo balance kind detail, current =>
    updateStripeRecord invoiceKey (releaseClaim now releaseTo balance kind detail) current
  | .finalize now finalStatus opts, current =>
    updateStripeRecord invoiceKey (finalizeClaim now finalStatus opts) current
  | .stampCheck now minInterval, current => updateStripeRecord invoiceKey (stampProviderCheck now minInterval) current
  | .recordCheckError now error, current => updateStripeRecord invoiceKey (Stripe.recordCheckError now error) current
  | .recordCheck now live, current => updateStripeRecord invoiceKey (Stripe.recordCheck now live) current
  | .reopen now plan, current => updateStripeRecord invoiceKey (reopenAmbiguous now plan) current
  | .resolve args, current => updateStripeRecord invoiceKey (resolveManualReview args) current

/-- What an operation that took effect adds to the history. -/
def History.after (history : History) (tid : ℕ) (invoiceKey : String) : (op : RecordOp) → op.Answer → History
  | .claim _ now, .claimed invoiceAtomic =>
    history.start { tid, invoiceKey, amount := invoiceAtomic, day := now / dayMs }
  | .release _ _ _ _ _, _ => history.giveBack tid invoiceKey
  | .finalize _ finalStatus _, _ =>
    if finalStatus = .providerSubmittedAmbiguous then
      (history.giveBack tid invoiceKey).endAmbiguous tid invoiceKey
    else history.giveBack tid invoiceKey
  | .reopen _ _, true => history.reopen tid invoiceKey
  | _, _ => history

def RecordOp.perform (tid : ℕ) (invoiceKey : String) (op : RecordOp) (world : World) : op.Answer × World :=
  let decision := op.decide invoiceKey (world.records invoiceKey)
  (decision.result,
    { world with
      records := update world.records invoiceKey (decision.after (world.records invoiceKey))
      history := world.history.after tid invoiceKey op decision.result })

/-! ## The daily ledger and the claim across channels -/

/-- Whose reservation a request returns: that of its own attempt, or of the attempt its retry re-opened. -/
inductive Whose where
  | own | reopened
  deriving DecidableEq, Repr

def History.reservation (history : History) (tid : ℕ) (invoiceKey : String) : Whose → Option ℕ
  | .own => history.current tid invoiceKey
  | .reopened => history.reopened tid invoiceKey

inductive GuardOp where
  | claimInvoice (now : ℕ)
  | reserveDailySpend (now : ℕ) (delta : ℤ)
  | releaseDailySpend (whose : Whose) (now : ℕ) (delta : ℤ)
  deriving DecidableEq

@[reducible] def GuardOp.Answer : GuardOp → Type
  | .claimInvoice _ => InvoiceClaimResult
  | .reserveDailySpend _ _ => Option ℤ
  | .releaseDailySpend _ _ _ => Unit

def GuardOp.perform (tid : ℕ) (invoiceKey : String) : (op : GuardOp) → World → op.Answer × World
  | .claimInvoice now, world =>
    let (result, guards) :=
      (GuardAction.claimInvoice invoiceKey .crypto (.stripeOrder invoiceKey)).perform now world.guards
    (result, { world with guards })
  | .reserveDailySpend now delta, world =>
    let (before, guards) := (GuardAction.reserveSpend .stripe (now / dayMs) delta).perform now world.guards
    let history := world.history.modify (world.history.current tid invoiceKey) fun attempt =>
      { attempt with counted := true }
    (before, if before.isSome then { world with guards, history } else { world with guards })
  | .releaseDailySpend whose now delta, world =>
    let (_, guards) := (GuardAction.releaseSpend .stripe (now / dayMs) delta).perform now world.guards
    let history := world.history.modify (world.history.reservation tid invoiceKey whose) fun attempt =>
      { attempt with counted := false }
    ((), { world with guards, history })

/-! ## The machine -/

/-- A read-only look at a payin session. -/
inductive StripeReply where
  | live (state : String) (blockchainTxId : Option String)
  /-- The kind of the failure; the capability may also fail to open. -/
  | failed (error : String)
  deriving DecidableEq, Repr

inductive StripeRead where
  | live (live : LiveState)
  | failed (error : String)
  deriving DecidableEq, Repr

inductive Action where
  | record (invoiceKey : String) (op : RecordOp)
  | guard (invoiceKey : String) (op : GuardOp)
  | scan
  | checkoutDeliveryPaused
  | funderBalance
  | decryptCapability (sealed : String)
  | resolveStripeInvoice (invoiceKey : String)
  | send (invoiceKey : String) (args : PayInvoiceArgs)
  | receive (invoiceKey : String)
  deriving DecidableEq

/-- An operation on a store may throw. -/
@[reducible] def Action.Answer : Action → Type
  | .record _ op => Option op.Answer
  | .guard _ op => Option op.Answer
  | .scan => Option (List StripeFulfillmentRecord)
  | .checkoutDeliveryPaused => Bool
  | .funderBalance => Option ℤ
  | .decryptCapability _ => Option String
  | .resolveStripeInvoice _ => StripeRead
  | .send _ _ => Unit
  | .receive _ => PayInvoiceReply

/-- What the code does not decide. -/
structure Choice where
  fault : Fault := .none
  /-- The order in which the store lists its keys. -/
  keys : List String := []
  paused : Bool := false
  balance : Option ℤ := none
  capability : Option String := none
  reply : StripeReply := .failed "stripe_expired"
  pay : PayInvoiceReply := .transportError
  deriving DecidableEq, Repr

def perform (tid : ℕ) : (action : Action) → Choice → World → action.Answer × World
  | .record invoiceKey op, choice, world => choice.fault.apply (op.perform tid invoiceKey) world
  | .guard invoiceKey op, choice, world => choice.fault.apply (op.perform tid invoiceKey) world
  | .scan, choice, world =>
    (choice.fault.answered (choice.keys.dedup.filterMap world.records), world)
  | .checkoutDeliveryPaused, choice, world => (choice.paused, world)
  | .funderBalance, choice, world => (choice.balance, world)
  | .decryptCapability _, choice, world => (choice.capability, world)
  | .resolveStripeInvoice invoiceKey, choice, world =>
    match choice.reply with
    | .failed error => (.failed error, world)
    | .live state blockchainTxId =>
      let live := ⟨state, blockchainTxId, world.history.trace.length⟩
      (.live live,
        { world with history := { world.history with trace := .read invoiceKey live :: world.history.trace } })
  | .send invoiceKey _, _, world =>
    let sent := world.history.modify (world.history.current tid invoiceKey) fun attempt =>
      { attempt with call := .outstanding }
    ((), { world with history := { sent with trace := .sent invoiceKey :: sent.trace } })
  | .receive invoiceKey, choice, world =>
    let received := world.history.modify (world.history.current tid invoiceKey) fun attempt =>
      { attempt with call := .received (payInvoiceResult choice.pay) }
    (choice.pay, { world with history := received })

abbrev stripeMachine : Machine where
  Action := Action
  Answer := Action.Answer
  Choice := Choice
  World := World
  perform tid action choice world := some (perform tid action choice world)

/-- Code that may throw. -/
abbrev Handler (α : Type) := Throwing Action Action.Answer α

def onRecord (invoiceKey : String) (op : RecordOp) : Handler op.Answer :=
  OptionT.mk (Prog.call (Action.record invoiceKey op))

def onGuard (invoiceKey : String) (op : GuardOp) : Handler op.Answer :=
  OptionT.mk (Prog.call (Action.guard invoiceKey op))

def ask (action : Action) : Handler action.Answer := OptionT.lift (Prog.call action)

/-! ## The webhook branch -/

/-- The answer to a webhook event. -/
inductive Summary where
  | alreadyTerminal (status : StripeRouterStatus)
  | alreadyInFlight
  | ignoredType (eventType : String)
  | deferred (reason : String)
  | settled (status : StripeRouterStatus)
  deriving DecidableEq, Repr

/-- One webhook event being handled: its invoice, itself and the clock it arrived at. -/
structure Handling where
  invoiceKey : String
  input : StripeWebhookInput
  now : ℕ
  deriving DecidableEq, Repr

/-- How far a settlement had come when it threw. -/
structure Progress where
  dailyReserved : Bool := false
  payInvoiceStarted : Bool := false
  deriving DecidableEq, Repr

namespace Handling

variable (handling : Handling)

def release (releaseTo : StripeRouterStatus) (balance : Option ℤ) (kind : String) (detail : EventDetail) : Handler Unit :=
  onRecord handling.invoiceKey (.release handling.now releaseTo balance kind detail)

def finalize (finalStatus : StripeRouterStatus) (opts : FinalizeOpts) : Handler Summary := do
  onRecord handling.invoiceKey (.finalize handling.now finalStatus opts)
  pure (.settled finalStatus)

def releaseSpend (invoiceAtomic : ℤ) : Handler Unit :=
  onGuard handling.invoiceKey (.releaseDailySpend .own handling.now invoiceAtomic)

/-- The catch around a settlement: ambiguous once the call has started, else back for a later event. -/
def settlementThrew (invoiceAtomic : ℤ) (progress : Progress) : Handler Summary :=
  if progress.payInvoiceStarted then
    handling.finalize .providerSubmittedAmbiguous
      { failureReason := some "settlement threw after pay-invoice call started — needs reconciliation"
        kind := "stripe_settlement_threw", detail := .thrown }
  else do
    if progress.dailyReserved then
      let _ ← Throwing.attempt (handling.releaseSpend invoiceAtomic)
    handling.release .payoutSeen none "stripe_claim_released_on_error" .thrown
    pure (.deferred "settlement_error")

/-- Run a part of the settlement under its catch. -/
def caught {α : Type} (invoiceAtomic : ℤ) (progress : Progress) (part : Handler α) (next : α → Handler Summary) :
    Handler Summary := do
  match ← Throwing.attempt part with
  | some value => next value
  | none => handling.settlementThrew invoiceAtomic progress

/-- Step the claim down; the delivery is indexed for `resume`, which never throws. -/
def deferForCheckoutPause : Handler Summary := do
  handling.release .payoutSeen none "checkout_paused" .absent
  pure (.deferred "checkout_paused")

inductive Reserved where
  | done (summary : Summary)
  | reserved (spentBefore : ℤ)
  deriving DecidableEq, Repr

/-- Reserve the day's headroom before anything is signed. -/
def reserve (invoiceAtomic : ℤ) (balance : Option ℤ) : Handler Reserved := do
  match ← onGuard handling.invoiceKey (.reserveDailySpend handling.now invoiceAtomic) with
  | none =>
    handling.release .payoutSeen balance "daily_cap_reached" (.amount invoiceAtomic)
    pure (.done (.deferred "daily_cap_reached"))
  | some spentBefore => pure (.reserved spentBefore)

/-- An unmeasurable balance passes; the pay-invoice side checks it again. -/
def checkBalance (invoiceAtomic : ℤ) : Handler Reserved := do
  let balance ← ask .funderBalance
  match balance.filter (· < invoiceAtomic) with
  | some short =>
    let releaseTo := if handling.input.payoutCompleted then .failedInsufficientBalance else .payoutSeen
    handling.release releaseTo (some short) "balance_check" (.balance short invoiceAtomic)
    pure (.done (.deferred "insufficient_balance"))
  | none => handling.reserve invoiceAtomic balance

def claimedByOtherReason (holder : InvoiceClaim) : String :=
  match holder.channel with
  | .upi => "invoice already claimed by upi channel"
  | .crypto => "invoice already claimed by crypto channel"

def claimedByOther (holder : InvoiceClaim) : Handler Reserved := do
  let summary ← handling.finalize .claimedByOtherChannel
    { failureReason := some (claimedByOtherReason holder), kind := "claimed_by_other_channel" }
  pure (.done summary)

/-- The settlement up to its reservation. -/
def untilReserved (invoiceAtomic : ℤ) : Handler Reserved := do
  if ← ask .checkoutDeliveryPaused then
    let summary ← handling.deferForCheckoutPause
    pure (.done summary)
  else
    match ← onGuard handling.invoiceKey (.claimInvoice handling.now) with
    | .refused holder => handling.claimedByOther holder
    | .ok _ _ => handling.checkBalance invoiceAtomic

inductive Ready where
  | done (summary : Summary)
  | paused
  | ready (args : PayInvoiceArgs)
  deriving DecidableEq, Repr

/-- Return the headroom of a settlement that cannot go on, and leave it to a human. -/
def abandon (invoiceAtomic : ℤ) (opts : FinalizeOpts) : Handler Ready := do
  handling.releaseSpend invoiceAtomic
  let summary ← handling.finalize .manualReview opts
  pure (.done summary)

/-- Look at the switch once more right before signing. -/
def recheckPause (invoiceAtomic : ℤ) (args : PayInvoiceArgs) : Handler Ready := do
  if ← ask .checkoutDeliveryPaused then
    handling.releaseSpend invoiceAtomic
    pure .paused
  else pure (.ready args)

/-- The settlement between its reservation and the call. -/
def untilCall (invoiceAtomic spentBefore : ℤ) : Handler Ready := do
  let record ← onRecord handling.invoiceKey .load
  match record.filter StripeFulfillmentRecord.locked with
  | none =>
    handling.abandon invoiceAtomic
      { failureReason := some "claimed record vanished before call", kind := "stripe_confirm_error" }
  | some claimed =>
    match ← ask (.decryptCapability (claimed.stripeUrlEncrypted.getD "")) with
    | none =>
      handling.abandon invoiceAtomic
        { failureReason := some "capability decrypt failed", kind := "stripe_capability_decrypt_failed" }
    | some stripeUrl =>
      handling.recheckPause invoiceAtomic
        ⟨stripeUrl, claimed.merchantAccount, claimed.invoiceAmountAtomic, spentBefore⟩

def callStripePayInvoice (args : PayInvoiceArgs) : Handler StripePayInvoiceResult := do
  ask (.send handling.invoiceKey args)
  let reply ← ask (.receive handling.invoiceKey)
  pure (payInvoiceResult reply)

/-- Nothing moved: return the headroom, then record the refusal. -/
def recordRefusal (invoiceAtomic : ℤ) (finalStatus : StripeRouterStatus) (opts : FinalizeOpts) : Handler Summary := do
  handling.releaseSpend invoiceAtomic
  handling.finalize finalStatus opts

/-- Record the outcome of the call; only a definite refusal returns the headroom. -/
def recordOutcome (invoiceAtomic : ℤ) (result : StripePayInvoiceResult) : Handler Summary :=
  if result.ambiguous then
    handling.finalize .providerSubmittedAmbiguous
      { failureReason := some s!"pay-invoice ambiguous (status {result.status}) — needs reconciliation"
        kind := "stripe_confirm_ambiguous", detail := .ambiguous result.status (payResultSignedFlag result) }
  else if result.disabled then
    handling.recordRefusal invoiceAtomic .providerDisabled
      { kind := "stripe_fulfillment_disabled", detail := .status result.status }
  else if result.ok then
    handling.finalize .providerSubmitted
      { providerResult := some (safeProviderResult result)
        kind := "stripe_confirm_submitted", detail := .status result.status }
  else
    handling.recordRefusal invoiceAtomic .failedProvider
      { failureReason := some s!"pay-invoice {result.status}"
        kind := "stripe_fulfillment_failed", detail := .status result.status }

/-- Call pay-invoice, which does not throw, and record what it answers. -/
def callAndRecord (invoiceAtomic : ℤ) (args : PayInvoiceArgs) : Handler Summary := do
  let result ← handling.callStripePayInvoice args
  handling.caught invoiceAtomic ⟨true, true⟩ (handling.recordOutcome invoiceAtomic result) pure

/-- The settlement of a claimed invoice, with the catch around each of its parts. -/
def settleClaimedStripeInvoice (invoiceAtomic : ℤ) : Handler Summary :=
  handling.caught invoiceAtomic {} (handling.untilReserved invoiceAtomic) fun
    | .done summary => pure summary
    | .reserved spentBefore =>
      handling.caught invoiceAtomic { dailyReserved := true } (handling.untilCall invoiceAtomic spentBefore) fun
        | .done summary => pure summary
        -- the headroom went back before the claim does
        | .paused => handling.caught invoiceAtomic {} handling.deferForCheckoutPause pure
        | .ready args => handling.callAndRecord invoiceAtomic args

end Handling

def handleStripeWebhookEvent (handling : Handling) : Handler Summary := do
  match ← onRecord handling.invoiceKey (.claim handling.input handling.now) with
  | .terminal status => pure (.alreadyTerminal status)
  | .inFlight => pure .alreadyInFlight
  | .ignored eventType => pure (.ignoredType eventType)
  | .manualReview reason => pure (.deferred reason)
  | .claimed invoiceAtomic => handling.settleClaimedStripeInvoice invoiceAtomic

/-! ## Reconciling and retrying -/

inductive StripeReconcileOutcome where
  | unchecked (reason : String)
  | live (providerState : String) (transition : Option Transition)
  | failed (error : String) (escalated : Bool)
  deriving DecidableEq, Repr

/-- Read Stripe and record what it shows. -/
def checkWithProvider (invoiceKey : String) (now : ℕ) : Handler StripeReconcileOutcome := do
  match ← ask (.resolveStripeInvoice invoiceKey) with
  | .failed error =>
    let escalated ← onRecord invoiceKey (.recordCheckError now error)
    pure (.failed error escalated)
  | .live live =>
    onRecord invoiceKey (.recordCheck now live)
    pure (.live live.state (transitionOf live.state))

def reconcileStripeRecordWithProvider (invoiceKey : String) (now minInterval : ℕ) : Handler StripeReconcileOutcome := do
  match ← onRecord invoiceKey .load with
  | none => pure (.unchecked "no_record")
  | some record =>
    if !record.status.inFlight then pure (.unchecked "not_in_flight")
    else if !present record.stripeUrlEncrypted then pure (.unchecked "no_capability")
    else
      if ← onRecord invoiceKey (.stampCheck now minInterval) then checkWithProvider invoiceKey now
      else pure (.unchecked "throttled")

inductive AmbiguousRetryOutcome where
  | notRetried (reason : String)
  | retried (attempt : ℕ) (summary : Summary)
  deriving DecidableEq, Repr

/-- Ask Stripe for the live state. -/
def readLive (invoiceKey : String) : Handler (Option LiveState) := do
  match ← ask (.resolveStripeInvoice invoiceKey) with
  | .failed _ => pure none
  | .live live => pure (some live)

/-- The live state a retry relies on: the reconciler's fresh check, for the cron, or a read of its own. -/
def liveProof (invoiceKey : String) (now : ℕ) (source : RetrySource) (record : StripeFulfillmentRecord) :
    Handler (Option LiveState) :=
  match source, freshCheck now record with
  | .cron, some checked => pure (some checked.live)
  | _, _ => readLive invoiceKey

/-- The cron's own limits: a cap on attempts and a grace period after the ambiguous answer. -/
def cronRefusal (now : ℕ) (record : StripeFulfillmentRecord) : Option String :=
  if record.ambiguousRetries ≥ ambiguousMaxAutoRetries then some "retries_exhausted"
  else
    let last := lastAmbiguousEvent record
    let grace : ℤ := if last.bind AmbiguousEvent.signed = some false then 0 else ambiguousRetryGraceMs
    if last.any fun last => (now : ℤ) - last.at_ < grace then some "grace" else none

def retryEvent (invoiceKey : String) (attempt : ℕ) (rozoPaymentId : Option String) : StripeWebhookInput :=
  ⟨s!"ambiguous-retry:{invoiceKey}:{attempt}", "payment_payout_completed", rozoPaymentId⟩

/-- Hand back the headroom of the ambiguous attempt, on the day its answer was recorded. -/
def releaseReopened (invoiceKey : String) (now : ℕ) (record : StripeFulfillmentRecord) : Handler Unit :=
  match lastAmbiguousEvent record, record.invoiceAmountAtomic with
  | some last, some (.integer invoiceAtomic) => do
    let at_ := if last.at_ = 0 then now else last.at_
    let _ ← Throwing.attempt (onGuard invoiceKey (.releaseDailySpend .reopened at_ invoiceAtomic))
    pure ()
  | _, _ => pure ()

/-- Re-open the record as it was inspected and settle it again. -/
def reopenAndSettle (invoiceKey : String) (now : ℕ) (source : RetrySource) (record : StripeFulfillmentRecord)
    (live : LiveState) : Handler AmbiguousRetryOutcome := do
  let plan := ⟨source, record.ambiguousRetries, lastAmbiguousEvent record, live.state⟩
  if ← onRecord invoiceKey (.reopen now plan) then
    let attempt := record.ambiguousRetries + 1
    releaseReopened invoiceKey now record
    let summary ← handleStripeWebhookEvent ⟨invoiceKey, retryEvent invoiceKey attempt record.rozoPaymentId, now⟩
    pure (.retried attempt summary)
  else pure (.notRetried "lost_race")

/-- Retry a loaded record, when the live state is safe and the cron's limits allow it. -/
def retryLoaded (invoiceKey : String) (now : ℕ) (source : RetrySource) (record : StripeFulfillmentRecord) :
    Handler AmbiguousRetryOutcome := do
  match ← liveProof invoiceKey now source record with
  | none => pure (.notRetried "provider_check_failed")
  | some live =>
    if !live.safe then pure (.notRetried "live_state_unsafe")
    else match source, cronRefusal now record with
      | .cron, some reason => pure (.notRetried reason)
      | _, _ => reopenAndSettle invoiceKey now source record live

def retryAmbiguousStripeRecord (invoiceKey : String) (now : ℕ) (source : RetrySource) :
    Handler AmbiguousRetryOutcome := do
  match ← onRecord invoiceKey (.inspect now source) with
  | none => pure (.notRetried "no_record")
  | some record =>
    if record.status ≠ .providerSubmittedAmbiguous then pure (.notRetried "not_ambiguous")
    else if !present record.stripeUrlEncrypted then pure (.notRetried "no_capability")
    else retryLoaded invoiceKey now source record

/-- One record of a sweep: reconcile it, and retry it when it was ambiguous and Stripe left it so. -/
def sweepRecord (now : ℕ) (record : StripeFulfillmentRecord) : Handler Unit := do
  match ← reconcileStripeRecordWithProvider record.invoiceKey now reconcileMinIntervalMs with
  | .live _ none =>
    if record.status = .providerSubmittedAmbiguous then
      let _ ← retryAmbiguousStripeRecord record.invoiceKey now .cron
      pure ()
    else pure ()
  | _ => pure ()

/-- Go on with the next record, whatever becomes of this one. -/
def sweepRecords (now : ℕ) : List StripeFulfillmentRecord → Handler Unit
  | [] => pure ()
  | record :: rest => do
    let _ ← Throwing.attempt (sweepRecord now record)
    sweepRecords now rest

/-- Least recently checked first. -/
def sweepOrder (values : List StripeFulfillmentRecord) : List StripeFulfillmentRecord :=
  ((values.filter fun record => record.status.inFlight).insertionSort fun a b =>
    a.lastProviderCheckAt.getD 0 ≤ b.lastProviderCheckAt.getD 0).take reconcileSweepMax

def sweepInFlightStripeRecords (now : ℕ) : Handler Unit := do
  match ← Throwing.attempt (OptionT.mk (Prog.call Action.scan)) with
  | none => pure ()
  | some values => sweepRecords now (sweepOrder values)

def resolveStripeRecord (invoiceKey : String) (args : ManualResolution) : Handler ManualResolveOutcome := do
  match ← onRecord invoiceKey .load with
  | none => pure .noRecord
  | some _ => onRecord invoiceKey (.resolve args)

/-! ## Requests -/

/-- What reaches the router about Stripe invoices. -/
inductive Request where
  | seed (invoiceKey : String) (args : SeedArgs) (now : ℕ)
  | webhook (handling : Handling)
  | reconcile (invoiceKey : String) (now minInterval : ℕ)
  | sweep (now : ℕ)
  | adminRetry (invoiceKey : String) (now : ℕ) (evidence retriedBy : String)
  | resolve (invoiceKey : String) (args : ManualResolution)
  deriving DecidableEq

def Request.handler : Request → Handler Unit
  | .seed invoiceKey args now => onRecord invoiceKey (.seed args now)
  | .webhook handling => do
    let _ ← handleStripeWebhookEvent handling
    pure ()
  | .reconcile invoiceKey now minInterval => do
    let _ ← reconcileStripeRecordWithProvider invoiceKey now minInterval
    pure ()
  | .sweep now => sweepInFlightStripeRecords now
  | .adminRetry invoiceKey now evidence retriedBy => do
    let _ ← retryAmbiguousStripeRecord invoiceKey now (.admin evidence retriedBy)
    pure ()
  | .resolve invoiceKey args => do
    let _ ← resolveStripeRecord invoiceKey args
    pure ()

/-- Serve a request; what it throws ends it. -/
def Request.serve (request : Request) : Prog Action Action.Answer Unit := do
  let _ ← request.handler.run
  pure ()

/-- Nothing happened yet. -/
def History.empty : History :=
  { attempts := ∅, started := 0, current := fun _ _ => none, holder := fun _ => none, ambiguous := fun _ => none
    reopened := fun _ _ => none, trace := [] }

/-- The world before the first request, under the given caps. -/
def World.fresh (caps : DailySpendLedger → Option ℤ) : World :=
  { records := fun _ => none
    guards := { claims := fun _ => none, gates := fun _ => none, spent := fun _ _ => 0, caps, funds := [] }
    history := .empty }

/-- Any requests at once, each served by a thread of its own. -/
def serving (caps : DailySpendLedger → Option ℤ) (requests : ℕ → Request) : stripeMachine.Config :=
  ⟨.fresh caps, fun tid => (requests tid).serve⟩

/-! ## An invoice of one hundred -/

def seedOfHundred : SeedArgs :=
  { merchantAccount := some "acct", invoiceAmountAtomic := .integer 100, invoiceCurrency := "usd"
    lockFingerprint := "lock", stripeUrlEncrypted := "sealed", rozoPaymentId := none, indexed := true }

def capOf (capAtomic : ℤ) : DailySpendLedger → Option ℤ := fun _ => some capAtomic

/-- A claimed record is settled up to its call. -/
def settleSteps (tid : ℕ) : List (ℕ × Choice) :=
  [(tid, {}), (tid, {}), (tid, {}), (tid, {}), (tid, {}), (tid, {}), (tid, { capability := some "url" }), (tid, {}),
    (tid, {})]

end MppRouter.Routes.Stripe
