import MppRouter.Core.Prog
import MppRouter.Routes.InvoiceClaim
import MppRouter.Routes.PartnerStore

/-! # The checkout router as a machine

The coupon keys, the partner ledger, the guards in front of a payment and the pay-invoice calls sent so
far form the world. An action is one commit of a durable key, one read, or one exchange with the
outside; requests of any number of clients interleave at actions. A request that throws or dies stops
where it stands, so a check that can only end a request is not an action.
-/

namespace MppRouter.Routes

open Concurrent Mpp

/-! ## Coupon keys -/

structure CouponStore where
  records : String → Option CouponRecord
  /-- The attempts that won the step into `paying`, newest first. -/
  entered : List (String × Uuid)

namespace CouponStore

/-- Apply an update function to one coupon key. -/
def update {R : Type} (store : CouponStore) (code : String)
    (fn : Option CouponRecord → Decision CouponRecord R) : R × CouponStore :=
  let decision := fn (store.records code)
  (decision.result,
    { store with records := Function.update store.records code (decision.after (store.records code)) })

end CouponStore

inductive CouponAction where
  | read (code : String)
  | create (record : CouponRecord)
  | claim (code : String) (attemptId : Uuid) (plId : String)
  | rollback (code : String) (attemptId : Uuid)
  | enterPaying (code : String) (attemptId : Uuid) (plan : PaymentPlan)
  | finalize (code : String) (attemptId : Uuid) (failureReason : Option String)
  | resolve (code : String) (action : ResolveAction)
  | voidIssued (code partnerId : String) (refundOpId : Uuid)
  | stampRefund (code : String) (refundOpId ledgerId : Uuid) (credited : Bool)
  deriving DecidableEq

@[reducible] def CouponAction.Answer : CouponAction → Type
  | .read _ => Option CouponRecord
  | .create _ | .enterPaying _ _ _ => Bool
  | .claim _ _ _ => ClaimResult
  | .rollback _ _ | .stampRefund _ _ _ _ => Unit
  | .finalize _ _ _ => Option CouponRecord
  | .resolve _ _ => ResolveOutcome
  | .voidIssued _ _ _ => VoidOutcome

def CouponAction.perform (now : ℕ) : (action : CouponAction) → CouponStore → action.Answer × CouponStore
  | .read code, store => (store.records code, store)
  | .create record, store => store.update record.code (createCoupon record)
  | .claim code attemptId plId, store => store.update code (claimCoupon attemptId plId now)
  | .rollback code attemptId, store => store.update code (rollbackToIssued attemptId now)
  | .enterPaying code attemptId plan, store =>
    let (entered, next) := store.update code (Routes.enterPaying attemptId plan now)
    (entered, if entered then { next with entered := (code, attemptId) :: next.entered } else next)
  | .finalize code attemptId failureReason, store =>
    store.update code (finalizeCoupon attemptId failureReason now)
  | .resolve code action, store => store.update code (resolveCoupon action now)
  | .voidIssued code partnerId refundOpId, store => store.update code (Routes.voidIssued partnerId refundOpId now)
  | .stampRefund code refundOpId ledgerId credited, store =>
    store.update code (Routes.stampRefund refundOpId ledgerId credited)

/-! ## Partner keys -/

/-- A ledger mutation as it was committed on a partner record, with what it did to the record besides. -/
structure Commit where
  partnerId : String
  key : LedgerKey
  entry : LedgerEntry
  mutate : Mutate
  deriving DecidableEq, Repr

structure PartnerStore where
  partners : String → Option PartnerRecord
  owners : String → Option String
  idem : String → LedgerKey → Option IdemClaim
  bodies : String → Uuid → Option LedgerEntry
  /-- Every committed ledger mutation, newest first. -/
  commits : List Commit
  /-- The requests between the claim of a key and its commit. -/
  claimants : List (ℕ × String × LedgerKey)

namespace PartnerStore

/-- Apply an update function to one partner record. -/
def update {R : Type} (store : PartnerStore) (partnerId : String)
    (fn : Option PartnerRecord → Decision PartnerRecord R) : R × PartnerStore :=
  let decision := fn (store.partners partnerId)
  (decision.result,
    { store with
      partners := Function.update store.partners partnerId (decision.after (store.partners partnerId)) })

/-- Apply an update function that may throw, which leaves the record alone. -/
def tryUpdate {R : Type} (store : PartnerStore) (partnerId : String)
    (fn : Option PartnerRecord → Except PartnerError (Decision PartnerRecord R)) :
    Except PartnerError R × PartnerStore :=
  match fn (store.partners partnerId) with
  | .error failure => (.error failure, store)
  | .ok decision =>
    (.ok decision.result,
      { store with
        partners := Function.update store.partners partnerId (decision.after (store.partners partnerId)) })

/-- Apply an update function to one idempotency claim. -/
def updateIdem {R : Type} (store : PartnerStore) (partnerId : String) (key : LedgerKey)
    (fn : Option IdemClaim → Decision IdemClaim R) : R × PartnerStore :=
  let decision := fn (store.idem partnerId key)
  let claims := Function.update (store.idem partnerId) key (decision.after (store.idem partnerId key))
  (decision.result, { store with idem := Function.update store.idem partnerId claims })

/-- Write a ledger body; a draft does not replace what is there. -/
def writeBody (store : PartnerStore) (entry : LedgerEntry) (draft : Bool) : PartnerStore :=
  if draft ∧ (store.bodies entry.partnerId entry.id).isSome then store
  else
    let bodies := Function.update (store.bodies entry.partnerId) entry.id (some entry)
    { store with bodies := Function.update store.bodies entry.partnerId bodies }

end PartnerStore

inductive PartnerAction where
  | read (partnerId : String)
  | readIdem (partnerId : String) (key : LedgerKey)
  | claimIdem (partnerId : String) (key : LedgerKey)
  | settleIdem (partnerId : String) (key : LedgerKey) (entry : Option Uuid) (couponCode : Option String)
  | releaseIdem (partnerId : String) (key : LedgerKey)
  | removeApplied (partnerId : String) (key : LedgerKey)
  | writeBody (entry : LedgerEntry) (draft : Bool)
  | commit (partnerId : String) (mutation : LedgerMutation) (mutate : Mutate)
  | confirmPendingIssue (partnerId : String) (opId : Uuid) (indexEntry : CouponIndexEntry)
  | recordPendingRefund (partnerId : String) (refundOpId : Uuid) (code : String) (amountAtomic : ℤ)
      (kind : LedgerKind)
  | dropPendingRefund (partnerId code : String)
  | claimEmail (email candidateId : String)
  | createPartner (partnerId email : String)
  | setStatus (partnerId : String) (status : PartnerStatus)
  deriving DecidableEq

@[reducible] def PartnerAction.Answer : PartnerAction → Type
  | .read _ | .confirmPendingIssue _ _ _ | .setStatus _ _ => Option PartnerRecord
  | .readIdem _ _ => Option IdemClaim
  | .claimIdem _ _ => Bool
  | .settleIdem _ _ _ _ | .releaseIdem _ _ | .removeApplied _ _ | .writeBody _ _ | .dropPendingRefund _ _ => Unit
  | .commit _ _ _ => Except PartnerError (PartnerRecord × Option LedgerEntry)
  | .recordPendingRefund _ _ _ _ _ => Except PartnerError Unit
  | .claimEmail _ _ => String
  | .createPartner _ _ => PartnerRecord

def PartnerAction.perform (tid now : ℕ) : (action : PartnerAction) → PartnerStore → action.Answer × PartnerStore
  | .read partnerId, store => (store.partners partnerId, store)
  | .readIdem partnerId key, store => (store.idem partnerId key, store)
  | .claimIdem partnerId key, store =>
    let (mine, next) := store.updateIdem partnerId key (Routes.claimIdem now)
    (mine, if mine then { next with claimants := (tid, partnerId, key) :: next.claimants } else next)
  | .settleIdem partnerId key entry couponCode, store =>
    store.updateIdem partnerId key (Routes.settleIdem now entry couponCode)
  | .releaseIdem partnerId key, store => store.updateIdem partnerId key (Routes.releaseIdem now)
  | .removeApplied partnerId key, store => store.update partnerId (Routes.removeApplied key)
  | .writeBody entry draft, store => ((), store.writeBody entry draft)
  | .commit partnerId mutation mutate, store =>
    let (answer, next) := store.tryUpdate partnerId (commitLedger mutation mutate now)
    let claimants := store.claimants.filter fun claim => claim ≠ (tid, partnerId, mutation.idempotencyKey)
    match answer with
    | .ok (_, some entry) =>
      let commits := ⟨partnerId, mutation.idempotencyKey, entry, mutate⟩ :: next.commits
      (answer, { next with commits, claimants })
    | _ => (answer, { next with claimants })
  | .confirmPendingIssue partnerId opId indexEntry, store =>
    store.update partnerId (Routes.confirmPendingIssue opId indexEntry)
  | .recordPendingRefund partnerId refundOpId code amountAtomic kind, store =>
    store.tryUpdate partnerId (Routes.recordPendingRefund refundOpId code amountAtomic kind now)
  | .dropPendingRefund partnerId code, store => store.update partnerId (Routes.dropPendingRefund code)
  | .claimEmail email candidateId, store =>
    let decision := Routes.claimEmail candidateId (store.owners email)
    (decision.result, { store with owners := Function.update store.owners email (decision.after (store.owners email)) })
  | .createPartner partnerId email, store => store.update partnerId (Routes.createPartner partnerId email now)
  | .setStatus partnerId status, store => store.update partnerId (setPartnerStatus status)

/-! ## Guards -/

structure Guards where
  claims : String → Option InvoiceClaim
  gates : String → Option ExecGate
  /-- Spend counted per ledger and UTC day. -/
  spent : DailySpendLedger → ℕ → ℤ
  /-- The configured caps; without one a ledger only records. -/
  caps : DailySpendLedger → Option ℤ
  funds : List FundReservation

inductive GuardAction where
  | claimInvoice (invoiceKey : String) (channel : ClaimChannel) (ref : ClaimRef)
  | releaseInvoice (invoiceKey : String) (channel : ClaimChannel) (ref : ClaimRef)
  | acquireGate (invoiceKey : String) (holder : GateHolder) (rozoPaymentId : Option String)
  | releaseGate (invoiceKey : String) (holder : GateHolder)
  | reserveSpend (ledger : DailySpendLedger) (day : ℕ) (delta : ℤ)
  | releaseSpend (ledger : DailySpendLedger) (day : ℕ) (delta : ℤ)
  | reserveFunds (attemptId : Uuid) (invoiceAtomic balance : ℤ)
  | releaseFunds (attemptId : Uuid)
  deriving DecidableEq

@[reducible] def GuardAction.Answer : GuardAction → Type
  | .claimInvoice _ _ _ => InvoiceClaimResult
  | .releaseInvoice _ _ _ | .releaseGate _ _ | .reserveFunds _ _ _ => Bool
  | .acquireGate _ _ _ => Option ExecGate
  | .reserveSpend _ _ _ => Option ℤ
  | .releaseSpend _ _ _ | .releaseFunds _ => Unit

/-- Count a day's spend anew. -/
def Guards.setSpent (guards : Guards) (ledger : DailySpendLedger) (day : ℕ) (spent : ℤ) : Guards :=
  { guards with spent := Function.update guards.spent ledger (Function.update (guards.spent ledger) day spent) }

def GuardAction.perform (now : ℕ) : (action : GuardAction) → Guards → action.Answer × Guards
  | .claimInvoice invoiceKey channel ref, guards =>
    let (result, claim) := claimInvoiceKey channel ref now (guards.claims invoiceKey)
    (result, { guards with claims := Function.update guards.claims invoiceKey claim })
  | .releaseInvoice invoiceKey channel ref, guards =>
    let (released, claim) := releaseInvoiceClaim channel ref (guards.claims invoiceKey)
    (released, { guards with claims := Function.update guards.claims invoiceKey claim })
  | .acquireGate invoiceKey holder rozoPaymentId, guards =>
    let (inTheWay, gate) := acquireCoinbaseExecGate holder rozoPaymentId now (guards.gates invoiceKey)
    (inTheWay, { guards with gates := Function.update guards.gates invoiceKey gate })
  | .releaseGate invoiceKey holder, guards =>
    let (released, gate) := releaseCoinbaseExecGate holder (guards.gates invoiceKey)
    (released, { guards with gates := Function.update guards.gates invoiceKey gate })
  | .reserveSpend ledger day delta, guards =>
    let (before, spent) := reserveDailySpend (guards.caps ledger) delta (guards.spent ledger day)
    (before, guards.setSpent ledger day spent)
  | .releaseSpend ledger day delta, guards =>
    ((), guards.setSpent ledger day (releaseDailySpend delta (guards.spent ledger day)))
  | .reserveFunds attemptId invoiceAtomic balance, guards =>
    let (reserved, funds) := tryReserveFunds attemptId invoiceAtomic balance now guards.funds
    (reserved, { guards with funds })
  | .releaseFunds attemptId, guards => ((), { guards with funds := Routes.releaseFunds attemptId guards.funds })

/-! ## The outside -/

/-- A Stripe invoice as resolved read-only, as far as a redemption reads it. -/
structure StripeInvoice where
  invoiceKey : String
  state : String
  /-- The stablecoin amount, when it is an integer. -/
  stablecoinAmountAtomic : Option ℤ
  fiatCurrency : String
  merchantAccount : Option String
  payable : Bool
  /-- Expiry, when it is a date. -/
  validBefore : Option ℕ
  deriving DecidableEq, Repr

inductive StripeResolution where
  | invoice (invoice : StripeInvoice)
  | expired
  | failed
  deriving DecidableEq, Repr

inductive CoinbaseQuote where
  /-- The quoted amount, when it parses. -/
  | quoted (amount : Option ℤ)
  | refused (status : ℕ)
  | unreachable
  deriving DecidableEq, Repr

inductive EnvAction where
  | now
  | randomUuid
  /-- A text the outside picks: a coupon code, a partner id. -/
  | randomText
  | quoteInvoice (plId : String)
  | resolveStripe (plId : String)
  | encryptCapability (plId : String)
  | checkoutDeliveryPaused
  | funderBalance
  | send (call : PayCall)
  | receive (id : ℕ)
  deriving DecidableEq

@[reducible] def EnvAction.Answer : EnvAction → Type
  | .now | .send _ => ℕ
  | .randomUuid => Uuid
  | .randomText => String
  | .quoteInvoice _ => CoinbaseQuote
  | .resolveStripe _ => StripeResolution
  | .encryptCapability _ => Option String
  | .checkoutDeliveryPaused => Bool
  | .funderBalance => Option ℤ
  | .receive _ => PayResult

/-- What the code does not decide: the clock, and what the outside answers. -/
structure Choice where
  now : ℕ := 0
  text : String := ""
  quote : CoinbaseQuote := .unreachable
  resolution : StripeResolution := .failed
  capability : Option String := none
  paused : Bool := false
  balance : Option ℤ := none
  pay : PayResult := ⟨false, 0, false, true, false⟩
  deriving DecidableEq, Repr

/-- Nothing special happens. -/
def Choice.plain : Choice := { now := 0 }

structure World where
  coupons : CouponStore
  partners : PartnerStore
  guards : Guards
  /-- Identifiers minted so far. -/
  minted : ℕ
  /-- Pay-invoice calls sent so far, newest first; a call is known by its position from the end. -/
  calls : List PayCall
  /-- Their answers received so far, newest first. -/
  answers : List (ℕ × PayResult)

def EnvAction.perform (tid : ℕ) (choice : Choice) : (action : EnvAction) → World → action.Answer × World
  | .now, world => (choice.now, world)
  | .randomUuid, world => (⟨tid, world.minted⟩, { world with minted := world.minted + 1 })
  | .randomText, world => (choice.text, world)
  | .quoteInvoice _, world => (choice.quote, world)
  | .resolveStripe _, world => (choice.resolution, world)
  | .encryptCapability _, world => (choice.capability, world)
  | .checkoutDeliveryPaused, world => (choice.paused, world)
  | .funderBalance, world => (choice.balance, world)
  | .send call, world => (world.calls.length, { world with calls := call :: world.calls })
  | .receive id, world => (choice.pay, { world with answers := (id, choice.pay) :: world.answers })

/-! ## The machine -/

inductive Action where
  | coupon (action : CouponAction)
  | partner (action : PartnerAction)
  | guard (action : GuardAction)
  | env (action : EnvAction)
  deriving DecidableEq

@[reducible] def Action.Answer : Action → Type
  | .coupon action => action.Answer
  | .partner action => action.Answer
  | .guard action => action.Answer
  | .env action => action.Answer

def perform (tid : ℕ) : (action : Action) → Choice → World → action.Answer × World
  | .coupon action, choice, world =>
    let (answer, coupons) := action.perform choice.now world.coupons
    (answer, { world with coupons })
  | .partner action, choice, world =>
    let (answer, partners) := action.perform tid choice.now world.partners
    (answer, { world with partners })
  | .guard action, choice, world =>
    let (answer, guards) := action.perform choice.now world.guards
    (answer, { world with guards })
  | .env action, choice, world => action.perform tid choice world

abbrev routerMachine : Machine where
  Action := Action
  Answer := Action.Answer
  Choice := Choice
  World := World
  perform tid action choice world := some (perform tid action choice world)

abbrev Route (α : Type) := Prog Action Action.Answer α

def onCoupon (action : CouponAction) : Route action.Answer := Prog.call (Action.coupon action)

def onPartner (action : PartnerAction) : Route action.Answer := Prog.call (Action.partner action)

def onGuard (action : GuardAction) : Route action.Answer := Prog.call (Action.guard action)

def onEnv (action : EnvAction) : Route action.Answer := Prog.call (Action.env action)

/-- Forget an answer. -/
def Route.run {α : Type} (route : Route α) : Route Unit := do
  let _ ← route
  pure ()

end MppRouter.Routes
