import MppRouter.Core.Performs
import MppRouter.Providers.Record
import Mathlib.Data.List.Sort

/-! # The onboarding of one provider

What the calls that register and verify a provider share: its record, the claim on its id, a claim for each version of
the registration, and the wallet that pays for one real call. What the provider's endpoint answers, the ledger reads
that fail and the moment at which a signed payment is submitted are choices of the environment.
-/

namespace MppRouter.Providers.Onboarding

open Concurrent Function

/-! ## Registrations -/

/-- The validated payload of a registration. -/
structure Registration where
  name : String := ""
  email : String := ""
  apiBaseUrl : String
  payouts : List RouteOperatorPayout
  routes : List ProviderRouteSpec
  deriving DecidableEq, Repr

/-- What a signature commits to of one route. -/
structure SignedRoute where
  operation : String
  method : String
  upstreamPath : String
  priceUsd : String
  deriving DecidableEq, Repr

/-- The canonical form that the digest is taken of. -/
structure Canonical where
  id : String
  name : String
  email : String
  apiBaseUrl : String
  payouts : List RouteOperatorPayout
  routes : List SignedRoute
  deriving DecidableEq, Repr

/-- The text that the wallet of a payout address signs. -/
structure SignatureMessage where
  providerId : String
  network : String
  address : String
  digest : String
  issuedAt : Option ℕ
  nonce : String
  deriving DecidableEq, Repr

inductive VerifySecret where
  | missing | malformed | sound
  deriving DecidableEq, Repr

/-- The configuration of a deployment, and what it takes from its libraries. -/
structure Deployment where
  providerId : String
  /-- The durable store for claims is bound. -/
  atomicStore : Bool := true
  hostingAvailable : Bool := false
  verifySecret : VerifySecret := .sound
  verifyWallet : String := ""
  stellarRpcUrl : Bool := true
  routerAddress : Option String := none
  hostedOriginFor : String → String
  /-- The hostname of the address is one that the router hosts. -/
  hostedHost : String → Bool
  /-- The ids that a domain may claim without a signature. -/
  providerIdsForOrigin : String → List String
  payToFromProofToken : String → Option String
  /-- The price in base units of seven decimals. -/
  baseUnits : String → Option ℕ
  sha256 : Canonical → String
  hashToken : String → List ℕ
  /-- The signature of the address over the message verifies. -/
  verifies : SignatureMessage → String → Bool
  /-- One text stands before another, or where it stands. -/
  localeLe : String → String → Bool

variable (deployment : Deployment)

def signedRoute (spec : ProviderRouteSpec) : SignedRoute :=
  ⟨spec.operation, spec.method, spec.upstreamPath, spec.priceUsd⟩

def sortedPayouts (payouts : List RouteOperatorPayout) : List RouteOperatorPayout :=
  payouts.insertionSort fun a b => deployment.localeLe a.network b.network = true

def sortedRoutes (routes : List ProviderRouteSpec) : List SignedRoute :=
  (routes.map signedRoute).insertionSort fun a b => deployment.localeLe a.operation b.operation = true

/-- Field order is fixed here rather than taken from the request. -/
def canonical (registration : Registration) : Canonical where
  id := deployment.providerId
  name := registration.name
  email := registration.email
  apiBaseUrl := registration.apiBaseUrl
  payouts := sortedPayouts deployment registration.payouts
  routes := sortedRoutes deployment registration.routes

def registrationDigest (registration : Registration) : String :=
  deployment.sha256 (canonical deployment registration)

/-- What a stored record says of its registration. -/
def registrationOf (record : ProviderRecord) : Registration where
  name := record.name
  email := record.email
  apiBaseUrl := record.apiBaseUrl
  payouts := record.payouts
  routes := record.routes

/-- Records from before the version was stored derive the same digest. -/
def verificationEpoch (record : ProviderRecord) : String :=
  record.registrationVersion.getD (registrationDigest deployment (registrationOf record))

/-- What a paid call runs against. -/
structure Configuration where
  apiBaseUrl : String
  /-- The origin behind a paywall that the router hosts. -/
  hostingOrigin : Option String
  payouts : List RouteOperatorPayout
  routes : List SignedRoute
  deriving DecidableEq, Repr

def hostingOrigin (record : ProviderRecord) : Option String := record.hosting.map StoredHosting.originUrl

def configurationOf (record : ProviderRecord) : Configuration where
  apiBaseUrl := record.apiBaseUrl
  hostingOrigin := hostingOrigin record
  payouts := sortedPayouts deployment record.payouts
  routes := sortedRoutes deployment record.routes

def startsWith (text head : String) : Bool := head.toList.isPrefixOf text.toList

/-- The payout that verification can pay. -/
def stellarPayout (payouts : List RouteOperatorPayout) : Option RouteOperatorPayout :=
  payouts.find? fun payout => startsWith payout.network "stellar:"

/-! ## The gates -/

inductive GateCode where
  | unreachable | not402 | unparseableChallenge | payoutNotAdvertised | payToAddressMismatch | priceMismatch
  | badAmount | badPrice | gateUnavailable | tooExpensiveToVerify | noStellarPayout | budgetExhausted
  | challengeMismatch | paidCallFailed | paidCallNot200 | emptyBody | noReceipt | settlementUnverified
  | settlementNotFound | settlementNotDirect | txNotOnLedger | paidCallUncertain
  deriving DecidableEq, Repr

def GateCode.label : GateCode → String
  | .unreachable => "unreachable"
  | .not402 => "not_402"
  | .unparseableChallenge => "unparseable_challenge"
  | .payoutNotAdvertised => "payout_not_advertised"
  | .payToAddressMismatch => "paytoaddress_mismatch"
  | .priceMismatch => "price_mismatch"
  | .badAmount => "bad_amount"
  | .badPrice => "bad_price"
  | .gateUnavailable => "gate_unavailable"
  | .tooExpensiveToVerify => "too_expensive_to_verify"
  | .noStellarPayout => "no_stellar_payout"
  | .budgetExhausted => "budget_exhausted"
  | .challengeMismatch => "challenge_mismatch"
  | .paidCallFailed => "paid_call_failed"
  | .paidCallNot200 => "paid_call_not_200"
  | .emptyBody => "empty_body"
  | .noReceipt => "no_receipt"
  | .settlementUnverified => "settlement_unverified"
  | .settlementNotFound => "settlement_not_found"
  | .settlementNotDirect => "settlement_not_direct"
  | .txNotOnLedger => "tx_not_on_ledger"
  | .paidCallUncertain => "paid_call_uncertain"

inductive GateResult where
  | ok (txHash : String)
  | failed (code : GateCode) (txHash : Option String)
  deriving DecidableEq, Repr

inductive ClaimStatus where
  | inProgress | completed | uncertain
  deriving DecidableEq, Repr

/-- The claim on one version of a registration. -/
structure ClaimState where
  status : ClaimStatus
  startedAt : ℕ
  updatedAt : ℕ
  result : Option GateResult := none
  deriving DecidableEq, Repr

/-- What the paid call asked for and where. -/
structure PaidCall where
  version : String
  record : ProviderRecord
  spec : ProviderRouteSpec
  dialect : ChallengeDialect
  network : String
  payTo : String
  maxAmountBaseUnits : ℕ
  deriving DecidableEq, Repr

/-- One settlement option of a challenge. -/
structure Offer where
  exact : Bool := true
  network : String
  payTo : String
  /-- Nothing, where the amount is no integer. -/
  amount : Option ℕ
  /-- For how long the signed payment may be submitted, in milliseconds. -/
  lifetime : ℕ
  deriving DecidableEq, Repr

structure Response where
  status : ℕ := 200
  emptyBody : Bool := false
  /-- The transaction that the receipt names. -/
  txHash : Option String := none
  deriving DecidableEq, Repr

/-- The answer to the paid call before anything is signed. -/
inductive FirstAnswer where
  | threw
  | reply (response : Response)
  /-- A 402, with the offers that can be read in it. -/
  | challenge (offers : Option (List Offer))
  deriving DecidableEq, Repr

/-! ## The ledger -/

/-- A signed payment, in the hands of the provider. -/
structure Authorisation where
  id : ℕ
  version : String
  payTo : String
  signedAt : ℕ
  expiresAt : ℕ
  deriving DecidableEq, Repr

/-- One operation in the history of the verification wallet. -/
structure Operation where
  createdAt : Option ℕ
  successful : Bool := true
  toAddress : Option String := none
  /-- The receivers of the transfers that a contract made. -/
  transfers : List String := []
  /-- The signed payment that it is. -/
  authorisation : Option Authorisation := none
  deriving DecidableEq, Repr

/-- A transfer of a transaction. -/
structure Transfer where
  sender : Option String
  receiver : Option String
  deriving DecidableEq, Repr

structure TransactionOperation where
  successful : Bool := true
  transfers : List Transfer
  deriving DecidableEq, Repr

/-- What the ledger says of a transaction. -/
inductive TransactionAnswer where
  | notFound | unreadable
  | operations (operations : List TransactionOperation)
  deriving DecidableEq, Repr

structure OperationsPage where
  records : List Operation
  next : Option ℕ
  deriving DecidableEq, Repr

def PAGE_LIMIT : ℕ := 200

/-! ## The world -/

inductive Action where
  | clock
  | getRecord
  | readIdClaim
  | commitIdClaim (version now : ℕ)
  /-- A nonce that was seen before is refused. -/
  | consumeNonce (nonce : String)
  | consumeDomainProof (token : String) (claimSecret : Option String)
  /-- The live 402 advertises every payout. -/
  | verifyX402PayToMatch
  | getDomainProofEvidence
  | issueDashboardToken
  | sealHosting
  | putRegistration (record : ProviderRecord)
  | putVerified (record : ProviderRecord)
  | readClaim (version : String)
  /-- Store a claim, or delete it. -/
  | commitClaim (version : String) (expected : ℕ) (state : Option ClaimState)
  | gateProbe402 (record : ProviderRecord) (spec : ProviderRouteSpec)
  | reserveDailyBudget (amount : ℕ)
  | firstFetch (call : PaidCall)
  /-- Sign one of the offers. -/
  | sign (call : PaidCall) (offers : List Offer)
  | paidFetch (call : PaidCall)
  | transaction (hash : String)
  /-- A page of the history of the verification wallet, read to see whether it paid the address. -/
  | operationsPage (version address : String) (cursor : Option ℕ)
  | submitPartnerDiscovery
  /-- A reconciliation that goes round more often than this does not end. -/
  | goOn
  | land (id : ℕ)
  | walletPays (address : String)
  | tick (elapsed : ℕ)
  deriving DecidableEq, Repr

abbrev Action.Answer : Action → Type
  | .clock => ℕ
  | .getRecord => Option ProviderRecord
  | .readIdClaim => Option ℕ × ℕ
  | .commitIdClaim .. | .consumeNonce _ | .consumeDomainProof .. | .verifyX402PayToMatch | .commitClaim .. => Bool
  | .getDomainProofEvidence => Option ℕ
  | .issueDashboardToken => String
  | .sealHosting => String × String
  | .readClaim _ => Option ClaimState × ℕ
  | .gateProbe402 .. => Except GateCode ChallengeDialect
  /- Nothing, where the call throws. -/
  | .reserveDailyBudget _ => Option Bool
  | .firstFetch _ => FirstAnswer
  | .sign .. => Bool
  | .paidFetch _ => Option Response
  | .transaction _ => TransactionAnswer
  | .operationsPage .. => Option OperationsPage
  | .submitPartnerDiscovery => ProviderDiscovery
  | _ => Unit

/-- What the code does not decide. -/
structure Choice where
  /-- A read fails. -/
  fails : Bool := false
  /-- The verdict of a proof, of a nonce and of a probe. -/
  passes : Bool := true
  code : GateCode := .unreachable
  dialect : ChallengeDialect := .x402
  text : String := ""
  sealed : String × String := ("", "")
  evidence : Option ℕ := none
  budget : Option Bool := some true
  first : FirstAnswer := .threw
  /-- The offer that is signed; nothing, where the client throws. -/
  pick : Option ℕ := some 0
  response : Option Response := none
  transaction : TransactionAnswer := .notFound
  /-- A page that is not the one of the ledger. -/
  page : Option OperationsPage := none
  discovery : ProviderDiscovery := ⟨false, none⟩

/-- A registration that was stored: by whom, and over what. -/
structure Accepted where
  tid : ℕ
  record : ProviderRecord
  replaced : Option ProviderRecord
  deriving DecidableEq, Repr

/-- A paid call that the endpoint served with a receipt. -/
structure Served where
  version : String
  configuration : Configuration
  txHash : String
  /-- Something had been signed for it. -/
  signed : Bool
  deriving DecidableEq, Repr

structure World where
  now : ℕ
  record : Option ProviderRecord
  /-- All records ever stored, and those of registrations. -/
  written : List ProviderRecord
  accepted : List Accepted
  /-- The first and the last read of the record by a call. -/
  firstRead : ℕ → Option (Option ProviderRecord)
  lastRead : ℕ → Option (Option ProviderRecord)
  idClaim : Option ℕ × ℕ
  /-- The call that took the claim on the id. -/
  creator : Option ℕ
  claims : String → Option ClaimState × ℕ
  /-- The call whose attempt the claim is for. -/
  holder : String → Option ℕ
  authorisations : List Authorisation
  /-- The history of the verification wallet, newest first. -/
  operations : List Operation
  served : List Served
  /-- The transactions that the ledger showed. -/
  shown : List (String × List TransactionOperation)

/-- Read the record, and note what was read. -/
def World.reading (world : World) (tid : ℕ) (found : Option ProviderRecord) : World :=
  { world with
    firstRead := update world.firstRead tid (some ((world.firstRead tid).getD found))
    lastRead := update world.lastRead tid (some found) }

def World.storing (world : World) (record : ProviderRecord) : World :=
  { world with record := some record, written := record :: world.written }

/-- A claim is set or deleted at the version that was read. An attempt that stores its outcome is over. -/
def World.claiming (world : World) (tid : ℕ) (version : String) (state : Option ClaimState) : World :=
  let begins := state.any fun state => state.status == .inProgress
  { world with
    claims := update world.claims version (state, (world.claims version).2 + 1)
    holder := if begins then update world.holder version (some tid)
      else if world.holder version = some tid then update world.holder version none
      else world.holder }

/-- What a paid call meets: the endpoint of the record, or behind a hosted paywall what is stored at that moment. -/
def World.exercised (world : World) (record : ProviderRecord) : Configuration :=
  if record.hosting.isSome then configurationOf deployment (world.record.getD record)
  else configurationOf deployment record

/-- Note a call that was served with a receipt. -/
def World.serving (world : World) (call : PaidCall) (signed : Bool) (response : Response) : World :=
  match response.txHash with
  | some txHash =>
    if response.status = 200 ∧ response.emptyBody = false then
      { world with served := ⟨call.version, world.exercised deployment call.record, txHash, signed⟩ :: world.served }
    else world
  | none => world

/-- The signed payment that an offer asks for. -/
def World.authorising (world : World) (call : PaidCall) (offer : Offer) : World :=
  let authorisation : Authorisation :=
    { id := world.authorisations.length, version := call.version, payTo := offer.payTo
      signedAt := world.now, expiresAt := world.now + offer.lifetime }
  { world with authorisations := authorisation :: world.authorisations }

/-- The oldest operations, this many, newest first. -/
def World.oldest (world : World) (count : ℕ) : List Operation :=
  world.operations.drop (world.operations.length - count)

/-- The page of the ledger after a cursor: the operations it counts are still to come. -/
def World.page (world : World) (cursor : Option ℕ) : OperationsPage :=
  let left := cursor.getD world.operations.length
  ⟨(world.oldest left).take PAGE_LIMIT, some (left - PAGE_LIMIT)⟩

/-- A signed payment may be submitted once, and before it expires. -/
def World.landable (world : World) (authorisation : Authorisation) : Prop :=
  world.now < authorisation.expiresAt ∧
    ∀ operation ∈ world.operations, operation.authorisation ≠ some authorisation

instance (world : World) (authorisation : Authorisation) : Decidable (world.landable authorisation) :=
  inferInstanceAs (Decidable (_ ∧ _))

def World.landing (world : World) (authorisation : Authorisation) : World :=
  { world with operations :=
      { createdAt := some world.now, transfers := [authorisation.payTo], authorisation := some authorisation } ::
        world.operations }

def perform (tid : ℕ) : (action : Action) → Choice → World → Option (action.Answer × World)
  | .clock, _, world => some (world.now, world)
  | .getRecord, choice, world =>
    let found := if choice.fails then none else world.record
    some (found, world.reading tid found)
  | .readIdClaim, _, world => some (world.idClaim, world)
  | .commitIdClaim version now, _, world =>
    if world.idClaim.2 = version then
      some (true, { world with idClaim := (some now, version + 1), creator := some tid })
    else some (false, world)
  | .consumeNonce _, choice, world => some (choice.passes, world)
  | .consumeDomainProof .., choice, world => some (choice.passes, world)
  | .verifyX402PayToMatch, choice, world => some (choice.passes, world)
  | .getDomainProofEvidence, choice, world => some (choice.evidence, world)
  | .issueDashboardToken, choice, world => some (choice.text, world)
  | .sealHosting, choice, world => some (choice.sealed, world)
  | .putRegistration record, _, world =>
    some ((), { world.storing record with accepted := ⟨tid, record, world.record⟩ :: world.accepted })
  | .putVerified record, _, world => some ((), world.storing record)
  | .readClaim version, _, world => some (world.claims version, world)
  | .commitClaim version expected state, _, world =>
    if (world.claims version).2 = expected then some (true, world.claiming tid version state)
    else some (false, world)
  | .gateProbe402 .., choice, world =>
    some (if choice.passes then .ok choice.dialect else .error choice.code, world)
  | .reserveDailyBudget _, choice, world => some (choice.budget, world)
  | .firstFetch call, choice, world =>
    match choice.first with
    | .reply response => some (.reply response, world.serving deployment call false response)
    | answer => some (answer, world)
  | .sign call offers, choice, world =>
    match choice.pick.bind (offers[·]?) with
    | some offer => some (true, world.authorising call offer)
    | none => some (false, world)
  | .paidFetch call, choice, world =>
    match choice.response with
    | some response => some (some response, world.serving deployment call true response)
    | none => some (none, world)
  | .transaction hash, choice, world =>
    match choice.transaction with
    | .operations operations => some (.operations operations, { world with shown := (hash, operations) :: world.shown })
    | answer => some (answer, world)
  | .operationsPage _ _ cursor, choice, world =>
    some (if choice.fails then none else some (choice.page.getD (world.page cursor)), world)
  | .submitPartnerDiscovery, choice, world => some (choice.discovery, world)
  | .goOn, _, _ => none
  | .land id, _, world =>
    match world.authorisations.find? (·.id = id) with
    | some authorisation => if world.landable authorisation then some ((), world.landing authorisation) else none
    | none => none
  | .walletPays address, _, world =>
    some ((), { world with operations := { createdAt := some world.now, toAddress := some address } :: world.operations })
  | .tick elapsed, _, world => some ((), { world with now := world.now + elapsed })

abbrev onboardingMachine : Machine :=
  ⟨Action, Action.Answer, Choice, World, perform deployment⟩

abbrev Routine (α : Type) := Prog Action Action.Answer α

def ask (action : Action) : Routine action.Answer := Prog.call action

/-- The status of an answer and its error code. -/
abbrev Reply := ℕ × String

/-- Nothing is stored, claimed or signed. -/
def World.start : World where
  now := 0
  record := none
  written := []
  accepted := []
  firstRead _ := none
  lastRead _ := none
  idClaim := (none, 0)
  creator := none
  claims _ := (none, 0)
  holder _ := none
  authorisations := []
  operations := []
  served := []
  shown := []

end MppRouter.Providers.Onboarding
