import MppRouter.Providers.Onboarding

/-! # Registering a provider

A registration is created by whoever claims its id first, and changed by its owner: by wallet signatures over the new
payload, or by a weaker proof together with the dashboard token of the record.
-/

namespace MppRouter.Providers.Onboarding

open Concurrent

/-! ## Requests -/

structure SignatureEntry where
  network : String
  signature : String
  issuedAt : Option ℕ
  nonce : String
  deriving DecidableEq, Repr

/-- The hosting block of a request. -/
structure HostingRequest where
  /-- Keep the stored credential. -/
  keep : Bool := false
  originUrl : Option String
  deriving DecidableEq, Repr

structure RegisterRequest where
  registration : Registration
  hosting : Option HostingRequest := none
  /-- The type of ownership proof that the request names. -/
  declaredType : Option OwnershipProofType := none
  signatures : List SignatureEntry := []
  tokens : List String := []
  claimSecrets : List String := []
  /-- The bearer token of the request. -/
  authorization : Option String := none
  /-- Only the digest is asked for. -/
  dryRun : Bool := false
  deriving DecidableEq, Repr

variable (deployment : Deployment)

/-- The payload that is registered: behind a hosted paywall the router is the API. -/
def validated (request : RegisterRequest) : Registration :=
  match request.hosting with
  | some _ => { request.registration with apiBaseUrl := deployment.hostedOriginFor deployment.providerId }
  | none => request.registration

def isSupportedPayoutNetwork (network : String) : Bool :=
  startsWith network "stellar:" || startsWith network "eip155:" || startsWith network "solana:"

/-! ## Proofs of ownership -/

inductive AuthCode where
  | missingOwnershipProof | unsupportedNetwork | missingSignature | badSignature | badTimestamp | expired | badNonce
  | replay | idNotDerivedFromDomain | missingToken | ambiguousPayout | badToken | tokenPayoutMismatch
  | domainProofFailed | payToMismatch | proofDowngrade
  deriving DecidableEq, Repr

structure OwnershipOutcome where
  proof : OwnershipProofType
  ownerKey : OwnerKey
  domainVerifiedAt : Option ℕ := none
  deriving DecidableEq, Repr

def SIGNATURE_TTL_MS : ℕ := 600000

def assertFreshTimestamp (now : ℕ) (issuedAt : Option ℕ) : Except AuthCode Unit :=
  match issuedAt with
  | none => .error .badTimestamp
  | some issued =>
    if now + 60000 < issued then .error .badTimestamp
    else if issued + SIGNATURE_TTL_MS < now then .error .expired
    else .ok ()

def wellFormedNonce (nonce : String) : Bool :=
  let chars := nonce.toList
  8 ≤ chars.length && chars.length ≤ 64 && chars.all fun c => c.isAlphanum || c == '_' || c == '-'

def buildSignatureMessage (digest : String) (payout : RouteOperatorPayout) (entry : SignatureEntry) : SignatureMessage where
  providerId := deployment.providerId
  network := payout.network
  address := payout.payTo
  digest := digest
  issuedAt := entry.issuedAt
  nonce := entry.nonce

/-- The signature for one payout address. -/
def verifyPayoutSignature (digest : String) (signatures : List SignatureEntry) (payout : RouteOperatorPayout) :
    Routine (Except AuthCode Unit) := do
  if isSupportedPayoutNetwork payout.network then
    match signatures.find? (·.network = payout.network) with
    | none => pure (.error .missingSignature)
    | some entry =>
      let now ← ask .clock
      match assertFreshTimestamp now entry.issuedAt with
      | .error code => pure (.error code)
      | .ok _ =>
        if wellFormedNonce entry.nonce then
          if ← ask (.consumeNonce entry.nonce) then
            if deployment.verifies (buildSignatureMessage deployment digest payout entry) entry.signature then pure (.ok ())
            else pure (.error .badSignature)
          else pure (.error .replay)
        else pure (.error .badNonce)
  else pure (.error .unsupportedNetwork)

/-- One signature for each payout address. -/
def verifyPayoutSignatures (digest : String) (signatures : List SignatureEntry) :
    List RouteOperatorPayout → Routine (Except AuthCode Unit)
  | [] => pure (.ok ())
  | payout :: payouts => do
    match ← verifyPayoutSignature deployment digest signatures payout with
    | .error code => pure (.error code)
    | .ok _ => verifyPayoutSignatures digest signatures payouts

/-- The whole registration: every payout address signs, and the first becomes the owner. -/
def verifyRegistrationSignatures (digest : String) (payouts : List RouteOperatorPayout) (signatures : List SignatureEntry) :
    Routine (Except AuthCode OwnerKey) := do
  if signatures.isEmpty then pure (.error .missingSignature)
  else if (signatures.map SignatureEntry.network).Nodup then
    match ← verifyPayoutSignatures deployment digest signatures payouts with
    | .error code => pure (.error code)
    | .ok _ =>
      match payouts.head? with
      | none => pure (.error .missingSignature)
      | some first => pure (.ok ⟨first.network, first.payTo, some .walletSignature⟩)
  else pure (.error .badSignature)

/-- The addresses that the tokens prove, each published under the domain and claimed with its secret. -/
def consumeDomainProofs (payouts : List RouteOperatorPayout) :
    List String → List String → List String → Routine (Except AuthCode (List String))
  | [], _, proven => pure (.ok proven)
  | token :: tokens, secrets, proven => do
    match deployment.payToFromProofToken token with
    | none => pure (.error .badToken)
    | some payTo =>
      if payouts.any (·.payTo = payTo) then
        if ← ask (.consumeDomainProof token secrets.head?) then consumeDomainProofs payouts tokens secrets.tail (payTo :: proven)
        else pure (.error .domainProofFailed)
      else pure (.error .tokenPayoutMismatch)

/-- The first payout owns a record that a weaker proof establishes. -/
def firstOwner (proof : OwnershipProofType) (payouts : List RouteOperatorPayout) : OwnerKey :=
  match payouts.head? with
  | some first => ⟨first.network, first.payTo, some proof⟩
  | none => ⟨"", "", some proof⟩

def proveWellKnown (payouts : List RouteOperatorPayout) (request : RegisterRequest) :
    Routine (Except AuthCode OwnershipOutcome) := do
  if request.tokens.isEmpty then pure (.error .missingToken)
  else if (payouts.map RouteOperatorPayout.payTo).Nodup then
    match ← consumeDomainProofs deployment payouts request.tokens request.claimSecrets [] with
    | .error code => pure (.error code)
    | .ok proven =>
      if payouts.all fun payout => proven.contains payout.payTo then
        let now ← ask .clock
        pure (.ok ⟨.wellKnown, firstOwner .wellKnown payouts, some now⟩)
      else pure (.error .missingToken)
  else pure (.error .ambiguousPayout)

def proveX402PayTo (payouts : List RouteOperatorPayout) : Routine (Except AuthCode OwnershipOutcome) := do
  if ← ask .verifyX402PayToMatch then
    let now ← ask .clock
    pure (.ok ⟨.x402PayTo, firstOwner .x402PayTo payouts, some now⟩)
  else pure (.error .payToMismatch)

/-- The proof that a request offers: the one it names, or its signatures. -/
def offeredProof (request : RegisterRequest) : Option OwnershipProofType :=
  match request.declaredType with
  | some .walletSignature => some .walletSignature
  | some .wellKnown => some .wellKnown
  | some .x402PayTo => some .x402PayTo
  | _ => if request.signatures.isEmpty then none else some .walletSignature

def proveWallet (registration : Registration) (request : RegisterRequest) : Routine (Except AuthCode OwnershipOutcome) := do
  if registration.payouts.all fun payout => isSupportedPayoutNetwork payout.network then
    match ← verifyRegistrationSignatures deployment (registrationDigest deployment registration) registration.payouts
      request.signatures with
    | .error code => pure (.error code)
    | .ok ownerKey => pure (.ok ⟨.walletSignature, ownerKey, none⟩)
  else pure (.error .unsupportedNetwork)

def resolveOwnershipProof (registration : Registration) (request : RegisterRequest) :
    Routine (Except AuthCode OwnershipOutcome) :=
  match offeredProof request with
  | none => pure (.error .missingOwnershipProof)
  | some .walletSignature => proveWallet deployment registration request
  | some proof =>
    -- From here on the proof is a public fact, so the id must belong to the origin.
    if (deployment.providerIdsForOrigin registration.apiBaseUrl).contains deployment.providerId then
      if proof = .wellKnown then proveWellKnown deployment registration.payouts request
      else proveX402PayTo registration.payouts
    else pure (.error .idNotDerivedFromDomain)

/-- Nothing to prove up front: the paid call is the proof. -/
def resolveHostedOwnership (payouts : List RouteOperatorPayout) : Routine (Except AuthCode OwnershipOutcome) := do
  let now ← ask .clock
  pure (.ok ⟨.hostedOriginAuth, firstOwner .hostedOriginAuth payouts, some now⟩)

/-- Refuse to let a weaker proof take over a record that a signature established. -/
def assertNoProofDowngrade (existing : Option ProviderRecord) (offered : OwnershipProofType) : Bool :=
  match existing with
  | none => true
  | some record => record.ownerKey.proof.getD .walletSignature != .walletSignature || offered == .walletSignature

/-- The proof of a hosted registration, or the one that the request offers. -/
def resolveOwnership (request : RegisterRequest) : Routine (Except AuthCode OwnershipOutcome) :=
  if request.hosting.isSome then resolveHostedOwnership (validated deployment request).payouts
  else resolveOwnershipProof deployment (validated deployment request) request

def resolveProof (existing : Option ProviderRecord) (request : RegisterRequest) :
    Routine (Except AuthCode OwnershipOutcome) := do
  match ← resolveOwnership deployment request with
  | .error code => pure (.error code)
  | .ok auth =>
    if assertNoProofDowngrade existing auth.proof then pure (.ok auth)
    else pure (.error .proofDowngrade)

/-! ## The dashboard token -/

/-- Two hashes differ, compared without regard to where. -/
def hashDifference (supplied expected : List ℕ) : ℕ :=
  (List.range 32).foldl (fun difference index => difference ||| (supplied.getD index 0 ^^^ expected.getD index 0))
    (supplied.length ^^^ expected.length)

def verifyDashboardToken (token : Option String) (expectedHash : Option (List ℕ)) : Bool :=
  match token, expectedHash with
  | some token, some expected => hashDifference (deployment.hashToken token) expected == 0
  | _, _ => false

/-! ## The handler -/

/-- Claim a provider id for a first registration, atomically. -/
def claimProviderIdForCreate : Routine Bool := do
  if deployment.atomicStore then
    let current ← ask .readIdClaim
    if current.1.isSome then pure false
    else
      let now ← ask .clock
      ask (.commitIdClaim current.2 now)
  else
    let found ← ask .getRecord
    pure found.isNone

/-- The address that first registered the record is still declared. -/
def ownerStillDeclared (registration : Registration) (existing : ProviderRecord) : Bool :=
  registration.payouts.any fun payout =>
    payout.network == existing.ownerKey.network && payout.payTo == existing.ownerKey.address

/-- What the request is refused for before anything is read. -/
def refusedRequest (request : RegisterRequest) : Option Reply :=
  let registration := validated deployment request
  if request.hosting.isSome && !deployment.hostingAvailable then some (503, "hosting_unavailable")
  else if request.hosting.isNone && deployment.hostedHost registration.apiBaseUrl then some (400, "invalid_registration")
  else if request.hosting.isSome &&
      !(registration.payouts.length == 1 && registration.payouts.all fun payout => startsWith payout.network "stellar:") then
    some (400, "invalid_registration")
  else if registration.payouts.any fun payout => !isSupportedPayoutNetwork payout.network then
    some (400, "unsupported_network")
  else none

def refusedUpdate (request : RegisterRequest) (existing : ProviderRecord) : Option Reply :=
  if existing.status = .suspended then some (403, "suspended")
  else if !ownerStillDeclared (validated deployment request) existing then some (403, "not_owner")
  else if request.hosting.isNone && existing.hosting.isSome then some (400, "invalid_registration")
  else none

/-- Updating with a proof other than a signature takes the dashboard token of the record. -/
def authorizedUpdate (request : RegisterRequest) (auth : OwnershipOutcome) (existing : Option ProviderRecord) : Bool :=
  match existing with
  | none => true
  | some record =>
    auth.proof == .walletSignature || verifyDashboardToken deployment request.authorization record.dashboardTokenHash

/-- The hosting that the record will have. -/
def resolveHosting (request : RegisterRequest) (existing : Option ProviderRecord) :
    Routine (Except Reply (Option StoredHosting)) := do
  match request.hosting with
  | none => pure (.ok none)
  | some hosting =>
    if hosting.keep then
      match existing.bind ProviderRecord.hosting with
      | none => pure (.error (400, "invalid_registration"))
      | some stored =>
        let nextOrigin := hosting.originUrl.getD stored.originUrl
        if deployment.hostedHost nextOrigin then pure (.error (400, "invalid_registration"))
        else pure (.ok (some { stored with originUrl := nextOrigin }))
    else
      let sealed ← ask .sealHosting
      pure (.ok (some ⟨hosting.originUrl.getD "", sealed.1, sealed.2⟩))

/-- Keep the original owner address, but let a stronger proof upgrade the marker. -/
def nextOwnerKey (existing : Option ProviderRecord) (auth : OwnershipOutcome) : OwnerKey :=
  match existing with
  | none => auth.ownerKey
  | some record =>
    if auth.proof = .walletSignature then { record.ownerKey with proof := some .walletSignature } else record.ownerKey

/-- The record that a registration stores: always pending. -/
def registeredRecord (request : RegisterRequest) (existing : Option ProviderRecord) (auth : OwnershipOutcome)
    (hosting : Option StoredHosting) (now : ℕ) (token : String) (domainVerifiedAt : Option ℕ) : ProviderRecord :=
  let registration := validated deployment request
  { id := deployment.providerId
    name := registration.name
    email := registration.email
    apiBaseUrl := registration.apiBaseUrl
    payouts := registration.payouts
    routes := registration.routes
    status := .pending
    verification := { domainVerifiedAt, ownershipProof := some auth.proof }
    createdAt := (existing.map ProviderRecord.createdAt).getD now
    updatedAt := now
    ownerKey := nextOwnerKey existing auth
    hosting
    registrationVersion := some (registrationDigest deployment registration)
    dashboardTokenHash := some (deployment.hashToken token) }

def storeRegistration (request : RegisterRequest) (existing : Option ProviderRecord) (auth : OwnershipOutcome) :
    Routine Reply := do
  let now ← ask .clock
  let token ← ask .issueDashboardToken
  match ← resolveHosting deployment request existing with
  | .error refused => pure refused
  | .ok hosting =>
    match auth.domainVerifiedAt with
    | some domainVerifiedAt =>
      ask (.putRegistration (registeredRecord deployment request existing auth hosting now token (some domainVerifiedAt)))
    | none =>
      let evidence ← ask .getDomainProofEvidence
      ask (.putRegistration (registeredRecord deployment request existing auth hosting now token evidence))
    pure (201, "registered")

def handleProviderRegister (request : RegisterRequest) : Routine Reply := do
  match refusedRequest deployment request with
  | some refused => pure refused
  | none =>
    -- Nothing is read, claimed or stored for the digest.
    if request.dryRun then pure (200, "dry_run")
    else
      let existing ← ask .getRecord
      match existing.bind (refusedUpdate deployment request) with
      | some refused => pure refused
      | none =>
        match ← resolveProof deployment existing request with
        | .error _ => pure (401, "ownership_proof_rejected")
        | .ok auth =>
          if !authorizedUpdate deployment request auth existing then pure (401, "unauthorized")
          else if existing.isNone then
            if ← claimProviderIdForCreate deployment then storeRegistration deployment request existing auth
            else pure (409, "registration_in_flight")
          else storeRegistration deployment request existing auth

end MppRouter.Providers.Onboarding
