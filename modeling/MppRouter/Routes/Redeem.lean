import MppRouter.Routes.Router

/-! # `POST /coupon/redeem`

The request claims the coupon, quotes the invoice, passes the guards, enters `paying` and sends one
pay-invoice call. What happens before the claim (rate limits, freezes, the turnstile) can only end the
request. A failure before `paying` gives the coupon back; after it nothing does.
-/

namespace MppRouter.Routes

structure RedeemRequest where
  code : String
  plId : String
  provider : InvoiceProvider
  deriving DecidableEq, Repr

inductive RedeemResponse where
  | invalidCoupon | processing | alreadyRedeemed | quoteUnavailable | linkUsedOrExpired
  | linkNotSupported | amountMismatch | temporarilyUnavailable | linkClaimed | stateChanged
  | redeemed | manualReview
  deriving DecidableEq, Repr

def stripeMinValidityMs : ℕ := 5 * 60 * 1000

/-- `cpis_` followed by letters, digits and underscores. -/
def isStripeSessionId (key : String) : Bool :=
  match key.toList with
  | 'c' :: 'p' :: 'i' :: 's' :: '_' :: rest => ¬ rest.isEmpty ∧ rest.all fun c => c.isAlphanum ∨ c = '_'
  | _ => false

/-- The Stripe session may be paid with a coupon; answers with its amount. -/
def stripePayable (now : ℕ) (invoice : StripeInvoice) : Except RedeemResponse ℤ :=
  if invoice.state ≠ "initialized" ∧ invoice.state ≠ "checkout" then .error .linkUsedOrExpired
  else match invoice.validBefore, invoice.stablecoinAmountAtomic with
    | some validBefore, amount =>
      if validBefore < now + stripeMinValidityMs then .error .linkUsedOrExpired
      else if ¬ invoice.payable ∨ invoice.fiatCurrency ≠ "usd" ∨ invoice.merchantAccount.getD "" = "" ∨
          ¬ isStripeSessionId invoice.invoiceKey then .error .linkNotSupported
      else match amount with
        | some amount => if 0 < amount then .ok amount else .error .linkNotSupported
        | none => .error .linkNotSupported
    | none, _ => .error .linkNotSupported

/-- Step 2 for a Stripe link: resolve it, check it and encrypt its URL. -/
def quoteStripe (request : RedeemRequest) : Route (Except RedeemResponse PaymentPlan) := do
  match ← onEnv (.resolveStripe request.plId) with
  | .expired => pure (.error .linkUsedOrExpired)
  | .failed => pure (.error .quoteUnavailable)
  | .invoice invoice =>
    let now ← onEnv .now
    match stripePayable now invoice with
    | .error response => pure (.error response)
    | .ok invoiceAtomic =>
      match ← onEnv (.encryptCapability request.plId) with
      | none => pure (.error .temporarilyUnavailable)
      | some capability =>
        pure (.ok ⟨.stripeCrypto, invoice.invoiceKey, invoiceAtomic, invoice.merchantAccount, some capability⟩)

/-- Step 2 for a Coinbase link. -/
def quoteCoinbase (request : RedeemRequest) : Route (Except RedeemResponse PaymentPlan) := do
  match ← onEnv (.quoteInvoice request.plId) with
  | .refused status =>
    pure (.error (if status = 409 ∨ status = 410 then .linkUsedOrExpired else .quoteUnavailable))
  | .unreachable | .quoted none => pure (.error .quoteUnavailable)
  | .quoted (some amount) => pure (.ok ⟨.coinbase, request.plId, amount, none, none⟩)

def quoteLink (request : RedeemRequest) : Route (Except RedeemResponse PaymentPlan) :=
  match request.provider with
  | .coinbase => quoteCoinbase request
  | .stripeCrypto => quoteStripe request

/-- Quote the invoice and enforce the amount policy. -/
def quoteForCoupon (request : RedeemRequest) (record : CouponRecord) :
    Route (Except RedeemResponse PaymentPlan) := do
  match ← quoteLink request with
  | .error response => pure (.error response)
  | .ok plan =>
    if couponAmountAccepted plan.provider plan.invoiceAtomic record.amountAtomic plan.merchantAccount then
      pure (.ok plan)
    else pure (.error .amountMismatch)

/-- What an attempt holds while it works towards its payment. -/
structure Reservations where
  funds : Bool
  /-- The day whose Stripe headroom is reserved. -/
  spendDay : Option ℕ
  deriving DecidableEq, Repr

def returnFunds (attemptId : Uuid) (held : Reservations) : Route Unit :=
  if held.funds then onGuard (.releaseFunds attemptId) else pure ()

def returnSpend (plan : PaymentPlan) (held : Reservations) : Route Unit :=
  match held.spendDay with
  | some day => onGuard (.releaseSpend .stripe day plan.invoiceAtomic)
  | none => pure ()

/-- Reserve funder balance; an unreadable balance is no obstacle. -/
def reserveBalance (attemptId : Uuid) (plan : PaymentPlan) (balance : Option ℤ) : Route Bool :=
  match balance with
  | none => pure true
  | some balance => onGuard (.reserveFunds attemptId plan.invoiceAtomic balance)

/-- Steps 2b to 3d: the emergency stop, the funder balance and the day's Stripe headroom. -/
def reserveForCoupon (attemptId : Uuid) (plan : PaymentPlan) : Route (Option Reservations) := do
  if ← onEnv .checkoutDeliveryPaused then pure none
  else
    let balance ← onEnv .funderBalance
    if ← reserveBalance attemptId plan balance then
      let funds := balance.isSome
      match plan.provider with
      | .coinbase => pure (some ⟨funds, none⟩)
      | .stripeCrypto =>
        let now ← onEnv .now
        let day := now / dayMs
        match ← onGuard (.reserveSpend .stripe day plan.invoiceAtomic) with
        | some _ => pure (some ⟨funds, some day⟩)
        | none => do
          returnFunds attemptId ⟨funds, none⟩
          pure none
    else pure none

def payFailureReason (provider : InvoiceProvider) (result : PayResult) : String :=
  match provider with
  | .coinbase => "agentapi pay-invoice " ++ toString result.status
  | .stripeCrypto => "stripe pay-invoice " ++ toString result.status ++
      (if result.disabled then " (disabled)" else if result.ok ∨ result.ambiguous then " (ambiguous)" else "")

/-- A definite Stripe refusal moved no money: the day's headroom goes back. -/
def returnRefusedSpend (plan : PaymentPlan) (held : Reservations) (result : PayResult) : Route Unit :=
  if ¬ result.ok ∧ ¬ result.ambiguous then returnSpend plan held else pure ()

/-- Step 4 after `paying` was entered: send the payment and settle the record. -/
def payForCoupon (code : String) (attemptId : Uuid) (plan : PaymentPlan) (held : Reservations) :
    Route RedeemResponse := do
  let id ← onEnv (.send ⟨plan.invoiceKey, .coupon code attemptId⟩)
  let result ← onEnv (.receive id)
  returnRefusedSpend plan held result
  returnFunds attemptId held
  -- a Stripe 2xx only counts when its body says so
  let paid := result.ok ∧ (plan.provider = .coinbase ∨ result.success)
  if paid then do
    let _ ← onCoupon (.finalize code attemptId none)
    pure .redeemed
  else do
    let _ ← onCoupon (.finalize code attemptId (some (payFailureReason plan.provider result)))
    pure .manualReview

/-- Steps 3b to 4: claim the invoice, take the link's gate, enter `paying` and pay. -/
def executeForCoupon (code : String) (attemptId : Uuid) (plan : PaymentPlan) (held : Reservations) :
    Route RedeemResponse := do
  let claim ← onGuard (.claimInvoice plan.invoiceKey .crypto (.coupon code))
  if claim.isOk then
    match ← onGuard (.acquireGate plan.invoiceKey (.coupon code attemptId) none) with
    | some _ => do
      -- the link was executed by someone: the claim stays
      returnFunds attemptId held
      returnSpend plan held
      onCoupon (.rollback code attemptId)
      pure .linkClaimed
    | none =>
      if ← onCoupon (.enterPaying code attemptId plan) then payForCoupon code attemptId plan held
      else do
        let _ ← onGuard (.releaseInvoice plan.invoiceKey .crypto (.coupon code))
        let _ ← onGuard (.releaseGate plan.invoiceKey (.coupon code attemptId))
        returnSpend plan held
        returnFunds attemptId held
        pure .stateChanged
  else do
    returnFunds attemptId held
    returnSpend plan held
    onCoupon (.rollback code attemptId)
    pure .linkClaimed

def handleRedeemCoupon (request : RedeemRequest) : Route RedeemResponse := do
  let attemptId ← onEnv .randomUuid
  match ← onCoupon (.claim request.code attemptId request.plId) with
  | .rejected => pure .invalidCoupon
  | .processing => pure .processing
  | .alreadyRedeemed _ => pure .alreadyRedeemed
  | .claimed record =>
    match ← quoteForCoupon request record with
    | .error response => do
      onCoupon (.rollback request.code attemptId)
      pure response
    | .ok plan =>
      match ← reserveForCoupon attemptId plan with
      | none => do
        onCoupon (.rollback request.code attemptId)
        pure .temporarilyUnavailable
      | some held => executeForCoupon request.code attemptId plan held

end MppRouter.Routes
