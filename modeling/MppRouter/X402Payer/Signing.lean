import MppRouter.X402Payer.Requirements

/-! # Signing a requirement

Base authorizations are signed by a remote service, Solana transactions by a local key. What comes back is checked
before it is used: on Base it has to be a signature of the funder under the authorization that was asked for, on
Solana a transaction that the funder signed and the facilitator did not.
-/

namespace MppRouter.X402Payer

open Json TextEncoding

/-- An HTTP refusal. -/
structure Failure where
  status : ℕ
  code : String
  deriving DecidableEq, Repr

/-! ## Base -/

structure EvmAuthorization where
  fromAddress : String
  toAddress : String
  value : String
  validAfter : String
  validBefore : String
  nonce : String
  deriving DecidableEq, Repr

/-- The EIP-712 request for one authorization. -/
structure TypedData where
  name : String
  version : String
  chainId : ℕ
  verifyingContract : String
  message : EvmAuthorization
  deriving DecidableEq, Repr

/-- What the code has from libraries: SHA-256, the checksum case of an address, and who signed typed data. -/
structure Libraries where
  sha256Hex : Units → String
  checksum : List Char → String
  recoverTypedDataAddress : TypedData → String → Option String

def BASE_CHAIN_ID : ℕ := 8453
def SIGN_SERVICE_TIMEOUT_MS : ℕ := 10000

/-- `getAddress`: the checksum case of an address in any case. -/
def Libraries.getAddress (lib : Libraries) (address : String) : String := lib.checksum (lower address)

def buildTransferWithAuthorizationTypedData (lib : Libraries) (req : ValidatedRequirement) (auth : EvmAuthorization) :
    TypedData where
  name := (stringField req.extra "name").getD ""
  version := (stringField req.extra "version").getD ""
  chainId := BASE_CHAIN_ID
  verifyingContract := lib.getAddress req.asset
  message := { auth with fromAddress := lib.getAddress auth.fromAddress, toAddress := lib.getAddress auth.toAddress }

/-- The authorization that a signing service says it signed. -/
structure EchoedAuthorization where
  fromAddress : Option String
  toAddress : Option String
  value : String
  validAfter : String
  validBefore : String
  nonce : Option String
  deriving DecidableEq, Repr

structure RemoteReply where
  ok : Bool
  code : Option String
  funder : String
  authorization : EchoedAuthorization
  signature : Option String
  deriving DecidableEq, Repr

/-- What the signing service answers; the body may be missing. -/
inductive RemoteAnswer where
  | unreachable
  | answered (status : ℕ) (body : Option RemoteReply)
  deriving DecidableEq, Repr

structure RemoteSignRequest where
  nonce : String
  validBeforeUnix : ℕ
  idempotencyKey : String
  paymentReference : String
  deriving DecidableEq, Repr

structure EvmExactResult where
  authorization : EvmAuthorization
  signature : String
  nonce : String
  validBeforeUnix : ℕ
  funder : String
  deriving DecidableEq, Repr

def mapRemoteError (status : ℕ) (code : Option String) : Failure :=
  match status with
  | 401 => ⟨503, "X402_SIGNER_NOT_CONFIGURED"⟩
  | 400 => ⟨400, "X402_SIGN_UNSUPPORTED"⟩
  | 403 => ⟨403, "X402_PAYTO_BLOCKED"⟩
  | 409 => ⟨409, "X402_IDEMPOTENCY_CONFLICT"⟩
  | 429 =>
    if code = some "X402_SIGN_DAILY_CAP" then ⟨429, "X402_SIGNER_DAILY_CAP_REACHED"⟩
    else ⟨429, "X402_SIGNER_CAP_REACHED"⟩
  | 503 => if code = some "X402_SIGN_DISABLED" then ⟨503, "X402_SIGNER_DISABLED"⟩ else ⟨503, "X402_RETRY"⟩
  | _ => ⟨503, "X402_RETRY"⟩

def misconfigured : Failure := ⟨503, "X402_SIGNER_NOT_CONFIGURED"⟩

def isSignature (text : String) : Bool :=
  match text.toList with
  | '0' :: 'x' :: digits => digits.length == 130 && digits.all isHexDigit
  | _ => false

/-- The authorization that is asked for. -/
def requested (lib : Libraries) (funder : String) (req : ValidatedRequirement) (r : RemoteSignRequest) :
    EvmAuthorization where
  fromAddress := lib.getAddress funder
  toAddress := lib.getAddress req.payTo
  value := req.amount
  validAfter := "0"
  validBefore := toString r.validBeforeUnix
  nonce := r.nonce

/-- The service echoes what was asked for, addresses and nonce without case. -/
def echoed (funder : String) (req : ValidatedRequirement) (r : RemoteSignRequest) (a : EchoedAuthorization) : Bool :=
  (a.fromAddress.any fun fromAddress => lower fromAddress == lower funder) && (a.toAddress.any fun toAddress => lower toAddress == lower req.payTo) &&
    a.value == req.amount && a.validAfter == "0" && a.validBefore == toString r.validBeforeUnix &&
    (a.nonce.any fun nonce => lower nonce == lower r.nonce)

/-- What is made of a successful reply. -/
def checkReply (lib : Libraries) (expectedFunder : String) (req : ValidatedRequirement) (r : RemoteSignRequest)
    (reply : RemoteReply) : Except Failure EvmExactResult :=
  if isEvmAddress reply.funder = false ∨ lower reply.funder ≠ lower expectedFunder then .error misconfigured
  else
    let authorization := requested lib reply.funder req r
    if echoed reply.funder req r reply.authorization = false then .error misconfigured
    else
      match reply.signature.filter isSignature with
      | none => .error (mapRemoteError 502 none)
      | some signature =>
        match lib.recoverTypedDataAddress (buildTransferWithAuthorizationTypedData lib req authorization) signature with
        | none => .error misconfigured
        | some recovered =>
          if lower recovered ≠ lower reply.funder then .error misconfigured
          else
            .ok { authorization, signature, nonce := r.nonce, validBeforeUnix := r.validBeforeUnix
                  funder := authorization.fromAddress }

/-- What is made of the answer of the signing service. -/
def remoteSignEvmExact (lib : Libraries) (expectedFunder : String) (req : ValidatedRequirement) (r : RemoteSignRequest)
    (answer : RemoteAnswer) : Except Failure EvmExactResult :=
  match answer with
  | .unreachable => .error (mapRemoteError 599 none)
  | .answered status body =>
    match body with
    | some reply =>
      if status = 200 ∧ reply.ok = true then checkReply lib expectedFunder req r reply
      else .error (mapRemoteError (if status = 200 then 502 else status) reply.code)
    | none => .error (mapRemoteError (if status = 200 then 502 else status) none)

/-- A signed authorization pays the required amount to the required receiver, and the funder signed it. -/
structure Exact (lib : Libraries) (expectedFunder : String) (req : ValidatedRequirement) (auth : EvmAuthorization)
    (signature : String) : Prop where
  toAddress : auth.toAddress = lib.getAddress req.payTo
  value : auth.value = req.amount
  signed : (lib.recoverTypedDataAddress (buildTransferWithAuthorizationTypedData lib req auth) signature).any
    (fun signer => lower signer == lower expectedFunder) = true

variable {expectedFunder : String}

theorem checkReply_exact {lib : Libraries} {req : ValidatedRequirement} {r : RemoteSignRequest}
    {reply : RemoteReply} {signed : EvmExactResult} (checked : checkReply lib expectedFunder req r reply = .ok signed) :
    Exact lib expectedFunder req signed.authorization signed.signature := by
  unfold checkReply at checked
  split at checked
  · cases checked
  next known =>
    simp only at checked
    split at checked
    · cases checked
    split at checked
    · cases checked
    next signature _ =>
      split at checked
      · cases checked
      next recovered found =>
        split at checked
        · cases checked
        next same =>
          obtain rfl := Except.ok.inj checked
          simp only [not_or, not_not] at known same
          constructor
          · rfl
          · rfl
          · rw [found, Option.any_some, same, known.2, beq_self_eq_true]

theorem remoteSign_exact {lib : Libraries} {req : ValidatedRequirement} {r : RemoteSignRequest}
    {answer : RemoteAnswer} {signed : EvmExactResult}
    (accepted : remoteSignEvmExact lib expectedFunder req r answer = .ok signed) :
    Exact lib expectedFunder req signed.authorization signed.signature := by
  unfold remoteSignEvmExact at accepted
  split at accepted
  · cases accepted
  split at accepted
  next reply =>
    split at accepted
    · exact checkReply_exact accepted
    · cases accepted
  next => cases accepted

/-! ## Solana -/

/-- A decoded transaction: its signers in order, with their signatures. -/
structure SvmTransaction where
  transaction : String
  signatures : List (String × Option String)
  deriving DecidableEq, Repr

structure SvmExactResult where
  transaction : String
  nonce : String
  funder : String
  deriving DecidableEq, Repr

/-- The checks before the transaction is built. -/
def svmPayable (funder : String) (req : ValidatedRequirement) : Bool :=
  req.network == .solana && (stringField req.extra "feePayer").any (fun feePayer => feePayer != "" && feePayer != funder) &&
    req.payTo != funder

/-- The checks of what is handed out: the facilitator pays the fees and has not signed, the funder has. -/
def signSolanaExact (funder : String) (req : ValidatedRequirement) (tx : SvmTransaction) : Option SvmExactResult :=
  let feePayer := (stringField req.extra "feePayer").getD ""
  if tx.signatures.head?.map Prod.fst ≠ some feePayer then none
  else if tx.signatures.lookup feePayer ≠ some none then none
  else
    match tx.signatures.lookup funder with
    | some (some funderSig) => some { transaction := tx.transaction, nonce := funderSig, funder }
    | _ => none

/-! ## Credentials -/

inductive Payload where
  | evm (authorization : EvmAuthorization) (signature : String)
  | svm (transaction : String)
  deriving DecidableEq, Repr

/-- The payment payload: the requirement exactly as the server sent it, with what was signed. -/
structure Credential where
  resource : Option Value
  accepted : Value
  payload : Payload

/-- What may be released for a requirement. -/
def Credential.Pays (lib : Libraries) (expectedFunder : String) (req : ValidatedRequirement) (credential : Credential) :
    Prop :=
  req.network = .base → ∃ authorization signature, credential.payload = .evm authorization signature ∧
    Exact lib expectedFunder req authorization signature

/-- What pays a requirement pays every requirement with the same bound fields, up to the case of the receiver. -/
theorem Credential.Pays.bound {lib : Libraries} {req other : ValidatedRequirement}
    {credential : Credential} (pays : credential.Pays lib expectedFunder req)
    (same : canonicalJson (requirementHashInput req) = canonicalJson (requirementHashInput other))
    (base : other.network = .base) : ∃ authorization signature, credential.payload = .evm authorization signature ∧
      authorization.toAddress = lib.getAddress other.payTo ∧ authorization.value = other.amount := by
  obtain ⟨networks, amounts, receivers⟩ := hashInput_binds same
  obtain ⟨authorization, signature, payload, exact⟩ := pays (networks.trans base)
  refine ⟨authorization, signature, payload, ?_, exact.value.trans amounts⟩
  rw [exact.toAddress]
  unfold Libraries.getAddress
  simp only [boundPayTo, networks, base] at receivers
  rw [String.ofList_injective receivers]

end MppRouter.X402Payer
