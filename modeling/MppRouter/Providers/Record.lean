import Mathlib.Data.Nat.Notation

/-! # Provider records

The authoritative record of a self-serve provider: what it offers and where it is paid, who owns it and what the
verification found. A record is public and payable only while it is published.
-/

namespace MppRouter.Providers

/-- A settlement address. -/
structure RouteOperatorPayout where
  network : String
  payTo : String
  asset : String
  deriving DecidableEq, Repr

/-- One chargeable endpoint. -/
structure ProviderRouteSpec where
  operation : String
  method : String
  upstreamPath : String
  priceUsd : String
  /-- Verification pays this route rather than the cheapest one. -/
  verifyWith : Bool := false
  /-- The contract that the route declares to fulfil. -/
  capability : Option String := none
  deriving DecidableEq, Repr

/-- Where the router hosts the paywall: the origin it calls, and the sealed credential it presents. -/
structure StoredHosting where
  originUrl : String
  /-- The header, the scheme and the ciphertext. -/
  auth : String
  authDigest : String
  deriving DecidableEq, Repr

inductive ProviderStatus where
  | pending | published | suspended
  deriving DecidableEq, Repr

inductive OwnershipProofType where
  | walletSignature | wellKnown | x402PayTo | hostedOriginAuth
  deriving DecidableEq, Repr

structure OwnerKey where
  network : String
  address : String
  proof : Option OwnershipProofType
  deriving DecidableEq, Repr

inductive ChallengeDialect where
  | x402 | mppx
  deriving DecidableEq, Repr

inductive HealthStatus where
  | pending | healthy | degraded | offline
  deriving DecidableEq, Repr

/-- Verification evidence, and what the probes since found. -/
structure ProviderVerification where
  probe402At : Option ℕ := none
  paidCallAt : Option ℕ := none
  paidCallTxHash : Option String := none
  lastError : Option String := none
  lastAttemptAt : Option ℕ := none
  domainVerifiedAt : Option ℕ := none
  ownershipProof : Option OwnershipProofType := none
  challengeDialect : Option ChallengeDialect := none
  healthStatus : Option HealthStatus := none
  deriving DecidableEq, Repr

/-- What became of the submission to partner discovery. -/
structure ProviderDiscovery where
  submitted : Bool
  nextAttemptAt : Option ℕ
  deriving DecidableEq, Repr

structure ProviderRecord where
  id : String
  name : String := ""
  email : String := ""
  apiBaseUrl : String := ""
  payouts : List RouteOperatorPayout := []
  routes : List ProviderRouteSpec := []
  status : ProviderStatus
  verification : ProviderVerification := {}
  createdAt : ℕ := 0
  updatedAt : ℕ := 0
  ownerKey : OwnerKey := ⟨"", "", none⟩
  hosting : Option StoredHosting := none
  registrationVersion : Option String := none
  /-- The hash of the dashboard token, byte by byte. -/
  dashboardTokenHash : Option (List ℕ) := none
  discovery : Option ProviderDiscovery := none
  deriving DecidableEq, Repr

end MppRouter.Providers
