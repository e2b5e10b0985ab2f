import MppRouter.Providers.Register

/-! # Verifying a provider

One real call is paid under a claim for the version of the registration. The claim keeps the outcome, so that a passed
gate is not paid for again, and an uncertain one is settled from the ledger. A record is published when the gate of its
version has passed and the record has not changed since it was read.
-/

namespace MppRouter.Providers.Onboarding

open Concurrent

variable (deployment : Deployment)

/-! ## The ledger -/

def verifyWalletPublicKey : Option String :=
  if deployment.verifySecret = .sound then some deployment.verifyWallet else none

/-- What the transfers of one operation say: a verdict, or nothing. -/
def judgeTransfers (txHash providerAddress : String) : List Transfer → Option GateResult
  | [] => none
  | transfer :: transfers =>
    if (verifyWalletPublicKey deployment).any fun sender => transfer.sender ≠ some sender then
      judgeTransfers txHash providerAddress transfers
    else if deployment.routerAddress.isSome ∧ transfer.receiver = deployment.routerAddress then
      some (.failed .settlementNotDirect (some txHash))
    else if transfer.receiver = some providerAddress then some (.ok txHash)
    else judgeTransfers txHash providerAddress transfers

/-- Whether the operations of a transaction pay the provider from the verification wallet. -/
def judgeOperations (txHash providerAddress : String) : List TransactionOperation → GateResult
  | [] => .failed .settlementNotFound (some txHash)
  | operation :: operations =>
    if operation.successful = false then .failed .settlementNotFound (some txHash)
    else match judgeTransfers deployment txHash providerAddress operation.transfers with
      | some verdict => verdict
      | none => judgeOperations txHash providerAddress operations

/-- Confirm on the ledger that the payment went where it should. -/
def assertSettledToProvider (txHash providerAddress : String) : Routine GateResult := do
  match ← ask (.transaction txHash) with
  | .notFound => pure (.failed .txNotOnLedger (some txHash))
  | .unreadable => pure (.failed .settlementUnverified (some txHash))
  | .operations operations => pure (judgeOperations deployment txHash providerAddress operations)

/-- What a page of the history says: paid, not paid since, or nothing yet. -/
def scanRecords (providerAddress : String) (since : ℕ) : List Operation → Option Bool
  | [] => none
  | operation :: operations =>
    if operation.createdAt.any fun createdAt => createdAt < since then some false
    else if operation.successful = false then scanRecords providerAddress since operations
    else if operation.toAddress = some providerAddress then some true
    else if operation.transfers.contains providerAddress then some true
    else scanRecords providerAddress since operations

/-- Walk the history from the newest operation to one that is older than the attempt, over at most so many pages. -/
def walkHistory (version providerAddress : String) (since : ℕ) : ℕ → Option ℕ → Routine (Option Bool)
  | 0, _ => pure none
  | pages + 1, cursor => do
    match ← ask (.operationsPage version providerAddress cursor) with
    | none => pure none
    | some page =>
      match scanRecords providerAddress since page.records with
      | some paid => pure (some paid)
      | none =>
        if page.records.length < PAGE_LIMIT then pure (some false)
        else match page.next with
          | none => pure none
          | some next => walkHistory version providerAddress since pages (some next)

/-- Whether the verification wallet paid the provider since then; nothing, where that is not known. -/
def verifyWalletPaidProviderSince (version providerAddress : String) (since : ℕ) : Routine (Option Bool) :=
  if (verifyWalletPublicKey deployment).isNone then pure none
  else walkHistory version providerAddress since 10 none

/-! ## The paid call -/

def MAX_VERIFY_PAYMENT : ℕ := 200000

def sameAddress (network first second : String) : Bool :=
  if startsWith network "eip155:" then first.toLower == second.toLower else first == second

/-- The offer pays the registered address no more than the registered price. -/
def challengeWithinRegistration (call : PaidCall) (offer : Offer) : Bool :=
  sameAddress call.network offer.payTo call.payTo && offer.amount.any fun amount => amount ≤ call.maxAmountBaseUnits

inductive Executed where
  | challengeMismatch | threw
  | response (response : Response)
  deriving DecidableEq, Repr

/-- Sign one of these offers and call again with it. -/
def signAndFetch (call : PaidCall) (offers : List Offer) : Routine Executed := do
  if ← ask (.sign call offers) then
    match ← ask (.paidFetch call) with
    | none => pure .threw
    | some response => pure (.response response)
  else pure .threw

def payWithMppx (call : PaidCall) : Routine Executed := do
  match ← ask (.firstFetch call) with
  | .threw | .challenge none | .challenge (some []) => pure .threw
  | .reply response => pure (.response response)
  | .challenge (some (offer :: _)) =>
    if challengeWithinRegistration call offer then signAndFetch call [offer]
    else pure .challengeMismatch

/-- The offers that the client may choose among. -/
def acceptable (call : PaidCall) (offers : List Offer) : List Offer :=
  offers.filter fun offer => offer.exact && offer.network == call.network && challengeWithinRegistration call offer

def payWithX402 (call : PaidCall) : Routine Executed := do
  match ← ask (.firstFetch call) with
  | .threw => pure .threw
  | .reply response => pure (.response response)
  | .challenge none => pure .challengeMismatch
  | .challenge (some offers) =>
    if (acceptable call offers).isEmpty then pure .challengeMismatch
    else signAndFetch call (acceptable call offers)

def executePaidCall (call : PaidCall) : Routine Executed :=
  match call.dialect with
  | .x402 => payWithX402 call
  | .mppx => payWithMppx call

/-- What the answer to the paid call proves. -/
def judgeResponse (call : PaidCall) (response : Response) : Routine GateResult := do
  if response.status ≠ 200 then pure (.failed .paidCallNot200 response.txHash)
  else if response.emptyBody then pure (.failed .emptyBody response.txHash)
  else match response.txHash with
    | none => pure (.failed .noReceipt none)
    | some txHash => assertSettledToProvider deployment txHash call.payTo

/-- What keeps a paid call from being made at all. -/
def refusedPaidCall (record : ProviderRecord) (spec : ProviderRouteSpec) (dialect : ChallengeDialect) : Option GateCode :=
  let price := deployment.baseUnits spec.priceUsd
  if deployment.verifySecret = .missing then some .gateUnavailable
  else if price.all (· = 0) then some .badPrice
  else if price.any (MAX_VERIFY_PAYMENT < ·) then some .tooExpensiveToVerify
  else if (stellarPayout record.payouts).isNone then some .noStellarPayout
  else if dialect = .x402 ∧ deployment.stellarRpcUrl = false then some .gateUnavailable
  else none

/-- Pay one minimal call and assert that the provider served it. Nothing, where it throws. -/
def gateRealMoneyCall (version : String) (record : ProviderRecord) (spec : ProviderRouteSpec) (dialect : ChallengeDialect) :
    Routine (Option GateResult) := do
  match refusedPaidCall deployment record spec dialect, stellarPayout record.payouts, deployment.baseUnits spec.priceUsd with
  | none, some payout, some price =>
    match ← ask (.reserveDailyBudget price) with
    | none => pure none
    | some false => pure (some (.failed .budgetExhausted none))
    | some true =>
      if deployment.verifySecret = .malformed then pure (some (.failed .gateUnavailable none))
      else
        let call : PaidCall := ⟨version, record, spec, dialect, payout.network, payout.payTo, price⟩
        match ← executePaidCall call with
        | .challengeMismatch => pure (some (.failed .challengeMismatch none))
        | .threw => pure (some (.failed .paidCallFailed none))
        | .response response =>
          let result ← judgeResponse deployment call response
          pure (some result)
  | some code, _, _ => pure (some (.failed code none))
  | _, _, _ => pure (some (.failed .badPrice none))

/-! ## The claim on a version -/

def STALE_IN_PROGRESS_MS : ℕ := 5 * 60000
def RELEASE_AFTER_MS : ℕ := 30 * 60000

def stalledResult : GateResult := .failed .paidCallUncertain none

def canSafelyRetry : GateResult → Bool
  | .ok _ => false
  | .failed code _ =>
    code ∈ [.gateUnavailable, .tooExpensiveToVerify, .noStellarPayout, .budgetExhausted, .badPrice, .challengeMismatch]

inductive ClaimedGateResult where
  | ran (result : GateResult)
  | inProgress
  | uncertain
  | completed (result : GateResult)
  deriving DecidableEq, Repr

/-- What a claim that stands says to a call that would pay. -/
def standingClaim (now : ℕ) (state : ClaimState) : ClaimedGateResult :=
  match state.status, state.result with
  | .completed, some result => .completed result
  | .uncertain, _ => .uncertain
  | _, _ => if state.startedAt + STALE_IN_PROGRESS_MS < now then .uncertain else .inProgress

/-- Pay under the claim, and keep the outcome in it. -/
def payUnderClaim (version : String) (startedAt : ℕ) (run : Routine (Option GateResult)) : Routine ClaimedGateResult := do
  let outcome ← run
  let result := outcome.getD (.failed .paidCallUncertain none)
  let claimed ← ask (.readClaim version)
  if canSafelyRetry result then
    let _ ← ask (.commitClaim version claimed.2 none)
    pure (.ran result)
  else
    let now ← ask .clock
    let status := match result with
      | .ok _ => ClaimStatus.completed
      | .failed .. => .uncertain
    let _ ← ask (.commitClaim version claimed.2 (some ⟨status, startedAt, now, some result⟩))
    pure (.ran result)

def runClaimedPaidGate (version : String) (run : Routine (Option GateResult)) : Routine ClaimedGateResult := do
  let current ← ask (.readClaim version)
  let now ← ask .clock
  match current.1 with
  | some state => pure (standingClaim now state)
  | none =>
    if ← ask (.commitClaim version current.2 (some ⟨.inProgress, now, now, none⟩)) then payUnderClaim version now run
    else pure .inProgress

inductive ClaimView where
  | none | inProgress
  | completed (result : GateResult)
  | uncertain (result : Option GateResult)
  deriving DecidableEq, Repr

/-- What a claim looks like to a reader. -/
def viewOf (now : ℕ) : Option ClaimState → ClaimView
  | .none => .none
  | some state =>
    match state.status, state.result with
    | .completed, some result => .completed result
    | .uncertain, result => .uncertain result
    | _, _ => if state.startedAt + STALE_IN_PROGRESS_MS < now then .uncertain (some stalledResult) else .inProgress

def readClaimState (version : String) : Routine ClaimView := do
  if deployment.atomicStore then
    let current ← ask (.readClaim version)
    let now ← ask .clock
    pure (viewOf now current.1)
  else pure .none

inductive ReconcileOutcome where
  | notUncertain | settledAndServed | paidNotServed | released | unresolved
  deriving DecidableEq, Repr

/-- The failure that an uncertain claim keeps, with its transaction. -/
def frozenHash (state : ClaimState) : Option (GateCode × String) :=
  match state.result with
  | some (.failed code (some txHash)) => some (code, txHash)
  | _ => none

/-- A transaction that is not on the ledger long after the attempt: release the claim if the wallet paid nothing. -/
def releaseClaim (version payTo : String) (allowRelease : Bool) (current : Option ClaimState × ℕ) (state : ClaimState) :
    Routine ReconcileOutcome := do
  let now ← ask .clock
  if state.startedAt + RELEASE_AFTER_MS ≤ now ∧ allowRelease = true then
    match ← verifyWalletPaidProviderSince deployment version payTo state.startedAt with
    | some false =>
      let _ ← ask (.commitClaim version current.2 none)
      pure .released
    | _ => pure .unresolved
  else pure .unresolved

/-- Settle an uncertain outcome from the ledger, never by paying again. -/
def settleUncertain (version payTo : String) (allowRelease : Bool) (current : Option ClaimState × ℕ) (state : ClaimState) :
    Routine ReconcileOutcome := do
  match frozenHash state with
  | none => pure .unresolved
  | some (code, txHash) =>
    match ← assertSettledToProvider deployment txHash payTo with
    | .ok settled =>
      -- Served with a receipt, but the ledger was unreadable at the time.
      if code = .settlementUnverified then
        let now ← ask .clock
        let _ ← ask (.commitClaim version current.2 (some ⟨.completed, state.startedAt, now, some (.ok settled)⟩))
        pure .settledAndServed
      else pure .paidNotServed
    | .failed .txNotOnLedger _ => releaseClaim deployment version payTo allowRelease current state
    | .failed .. => pure .unresolved

/-- Reconcile a claim, going round at most so often. -/
def reconcileUncertainClaim (version payTo : String) (allowRelease : Bool) : ℕ → Routine ReconcileOutcome
  | 0 => do
    ask .goOn
    pure .unresolved
  | rounds + 1 => do
    let current ← ask (.readClaim version)
    match current.1 with
    | none => pure .notUncertain
    | some state =>
      let now ← ask .clock
      if state.status = .inProgress ∧ state.startedAt + STALE_IN_PROGRESS_MS < now then
        -- Persist the transition that the gate only ever reported.
        let _ ← ask (.commitClaim version current.2
          (some { state with status := .uncertain, updatedAt := now, result := some stalledResult }))
        reconcileUncertainClaim version payTo allowRelease rounds
      else if state.status = .uncertain then settleUncertain deployment version payTo allowRelease current state
      else pure .notUncertain

/-! ## The handlers -/

/-- The cheapest route, unless one is marked. -/
def chooseVerificationRoute (record : ProviderRecord) : Option ProviderRouteSpec :=
  match record.routes.find? ProviderRouteSpec.verifyWith with
  | some pinned => some pinned
  | none =>
    (record.routes.insertionSort fun first second =>
      (deployment.baseUnits first.priceUsd).getD 0 ≤ (deployment.baseUnits second.priceUsd).getD 0).head?

/-- Write to the record unless it has changed since it was read. -/
def putIfUnchanged (record : ProviderRecord) (change : ProviderRecord → ProviderRecord) : Routine Bool := do
  match ← ask .getRecord with
  | none => pure false
  | some latest =>
    if latest.status = record.status ∧ latest.updatedAt = record.updatedAt then
      ask (.putVerified (change latest))
      pure true
    else pure false

/-- A failed gate is noted on the record. -/
def noteFailure (record : ProviderRecord) (verification : ProviderVerification) (attemptAt status : ℕ) :
    Routine Reply := do
  if ← putIfUnchanged record fun latest => { latest with verification, updatedAt := attemptAt } then
    pure (status, "verification_failed")
  else pure (409, "registration_changed")

/-- Submit a published provider to partner discovery, and note what became of it. -/
def submitAndPersistPartnerDiscovery : Routine Unit := do
  match ← ask .getRecord with
  | none => pure ()
  | some record =>
    let now ← ask .clock
    if record.status ≠ .published ∨ (record.discovery.any fun discovery => discovery.submitted) then pure ()
    else if record.discovery.any fun discovery => discovery.nextAttemptAt.any fun next => now < next then pure ()
    else
      let discovery ← ask .submitPartnerDiscovery
      let later ← ask .clock
      let _ ← putIfUnchanged record fun latest => { latest with discovery := some discovery, updatedAt := later }
      pure ()

/-- The gate has passed: publish the record that it was run for. -/
def publish (record : ProviderRecord) (attemptAt : ℕ) (txHash : String) : Routine Reply := do
  let publishedAt ← ask .clock
  let verification : ProviderVerification :=
    { probe402At := some attemptAt
      ownershipProof := record.verification.ownershipProof
      paidCallAt := some publishedAt
      paidCallTxHash := some txHash
      domainVerifiedAt := record.verification.domainVerifiedAt }
  if ← putIfUnchanged record fun latest => { latest with verification, status := .published, updatedAt := publishedAt } then
    submitAndPersistPartnerDiscovery
    pure (200, "published")
  else pure (409, "registration_changed")

/-- What the ledger says of an earlier attempt that froze, before anything else happens. Something, when that ends the
call. -/
def settleFrozen (rounds : ℕ) (version : String) (record : ProviderRecord) : Routine (Option Reply) := do
  match deployment.atomicStore, stellarPayout record.payouts with
  | true, some payout =>
    match ← readClaimState deployment version with
    | .uncertain _ =>
      match ← reconcileUncertainClaim deployment version payout.payTo true rounds with
      | .paidNotServed => pure (some (409, "payment_outcome_uncertain"))
      | .unresolved => pure (some (409, "payment_outcome_uncertain"))
      | _ => pure none
    | _ => pure none
  | _, _ => pure none

def runGates (version : String) (record : ProviderRecord) (spec : ProviderRouteSpec) (attemptAt : ℕ) : Routine Reply := do
  match ← ask (.gateProbe402 record spec) with
  | .error code =>
    noteFailure record { record.verification with lastError := some code.label, lastAttemptAt := some attemptAt }
      attemptAt 422
  | .ok dialect =>
    -- Without a durable store there is no claim to pay under.
    if deployment.atomicStore = false then pure (500, "internal_error")
    else match ← runClaimedPaidGate version (gateRealMoneyCall deployment version record spec dialect) with
    | .inProgress => pure (202, "verification_in_progress")
    | .uncertain => pure (409, "payment_outcome_uncertain")
    | .ran (.failed code _) | .completed (.failed code _) =>
      noteFailure record
        { record.verification with
          probe402At := some attemptAt, lastError := some code.label, lastAttemptAt := some attemptAt }
        attemptAt (if code = .gateUnavailable then 503 else 422)
    | .ran (.ok txHash) | .completed (.ok txHash) => publish record attemptAt txHash

def handleProviderVerify (rounds : ℕ) : Routine Reply := do
  match ← ask .getRecord with
  | none => pure (404, "not_found")
  | some record =>
    match record.status with
    | .published => pure (200, "published")
    | .suspended => pure (403, "suspended")
    | .pending =>
      if record.verification.domainVerifiedAt.isNone then pure (422, "ownership_required")
      else
        let version := verificationEpoch deployment record
        match chooseVerificationRoute deployment record with
        | none => pure (500, "no_route")
        | some spec =>
          let attemptAt ← ask .clock
          match ← settleFrozen deployment rounds version record with
          | some reply => pure reply
          | none => runGates deployment version record spec attemptAt

/-- The state of the paid gate. A public read may complete a claim, but never release one. -/
def handleProviderVerificationStatus (rounds : ℕ) : Routine Reply := do
  match ← ask .getRecord with
  | none => pure (404, "not_found")
  | some record =>
    let version := verificationEpoch deployment record
    match ← readClaimState deployment version with
    | .uncertain _ =>
      match stellarPayout record.payouts with
      | some payout =>
        if record.status ≠ .published then
          let _ ← reconcileUncertainClaim deployment version payout.payTo false rounds
          let _ ← readClaimState deployment version
          pure (200, "reconciled")
        else pure (200, "status")
      | none => pure (200, "status")
    | _ => pure (200, "status")

/-! ## The parties -/

inductive Party where
  | idle
  | register (request : RegisterRequest)
  | verify (rounds : ℕ)
  | status (rounds : ℕ)
  /-- The provider submits a signed payment. -/
  | land (id : ℕ)
  /-- The verification wallet pays for something else. -/
  | walletPays (address : String)
  | tick (elapsed : ℕ)
  deriving DecidableEq, Repr

def Party.program : Party → Routine Unit
  | .idle => pure ()
  | .register request => do
    let _ ← handleProviderRegister deployment request
    pure ()
  | .verify rounds => do
    let _ ← handleProviderVerify deployment rounds
    pure ()
  | .status rounds => do
    let _ ← handleProviderVerificationStatus deployment rounds
    pure ()
  | .land id => ask (.land id)
  | .walletPays address => ask (.walletPays address)
  | .tick elapsed => ask (.tick elapsed)

/-- Every party is about to begin. -/
def onboarding (world : World) (parties : ℕ → Party) : (onboardingMachine deployment).Config :=
  ⟨world, fun tid => (parties tid).program deployment⟩

end MppRouter.Providers.Onboarding
