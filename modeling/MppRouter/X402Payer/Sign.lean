import MppRouter.Core.Performs
import MppRouter.X402Payer.Signing

/-! # The sign handler over the payer ledger

A request signs its own candidate and lets the ledger commit it in one transaction with the debit. What it answers is
the credential that the ledger stores under the idempotency key, its own or that of another request. Everything here is
about one account and one idempotency key.
-/

namespace MppRouter.X402Payer

open Concurrent Json TextEncoding

/-! ## The ledger -/

inductive PayerMode where
  | off | shadow | on
  deriving DecidableEq, Repr

inductive AccountStatus where
  | active | suspended | closed
  deriving DecidableEq, Repr

inductive PaymentStatus where
  | recorded | settled | expired
  deriving DecidableEq, Repr

/-- Amounts are atomic. -/
structure LedgerAccount where
  status : AccountStatus
  balance : ℕ
  perTxLimit : ℕ
  deriving DecidableEq, Repr

/-- What a request asks the ledger to commit; `on` says whether the payer signs, or else shadows. -/
structure CommitArgs where
  acceptsHash : String
  accepts : Value
  network : SupportedNetwork
  amount : String
  payTo : String
  funder : String
  nonce : String
  credential : Option Credential
  validBeforeUnix : Option ℕ
  on : Bool

/-- The row of an idempotency key. -/
structure LedgerPayment extends CommitArgs where
  id : ℕ
  status : PaymentStatus := .recorded
  refundedAt : Option ℕ := none

/-- What the ledger answers where it neither creates nor finds a row. -/
inductive Refusal where
  | disabled | unknownKey | accountInactive | conflict | modeChanged | perTxLimit | insufficientBalance | dailyLimit
  | globalCap | payToNotAllowed | nonceCollision | badRequest | unexpected
  deriving DecidableEq, Repr

/-- What the ledger knows under the idempotency key; it may be a key of another account. -/
inductive KeyRow where
  | absent
  | foreign
  | row (payment : LedgerPayment)

structure AccountRead where
  mode : PayerMode
  account : LedgerAccount
  payment : KeyRow

structure Committed where
  /-- The row was there before. -/
  replay : Bool
  mode : PayerMode
  payment : LedgerPayment
  balance : ℕ

/-! ## Answers -/

inductive Response where
  | fail (failure : Failure) (paymentId : Option ℕ)
  /-- The 200 answer, with what it shows of the row. -/
  | signed (replay : Bool) (payment : LedgerPayment) (credential : Credential) (balance : ℕ)

/-- The credential that a response carries. -/
def Response.credential : Response → Option Credential
  | .fail _ _ => none
  | .signed _ _ credential _ => some credential

def fail (status : ℕ) (code : String) : Response := .fail ⟨status, code⟩ none

def outcomeResponse : Refusal → Response
  | .disabled => fail 503 "X402_PAYER_DISABLED"
  | .unknownKey => fail 401 "X402_KEY_INVALID"
  | .accountInactive => fail 403 "X402_KEY_SUSPENDED"
  | .conflict => fail 409 "X402_IDEMPOTENCY_CONFLICT"
  | .modeChanged => fail 503 "X402_PAYER_MODE_CHANGED"
  | .perTxLimit => fail 402 "X402_PER_TX_LIMIT_EXCEEDED"
  | .insufficientBalance => fail 402 "X402_INSUFFICIENT_BALANCE"
  | .dailyLimit => fail 429 "X402_DAILY_LIMIT_EXCEEDED"
  | .globalCap => fail 429 "X402_GLOBAL_DAILY_CAP_REACHED"
  | .payToNotAllowed => fail 403 "X402_PAYTO_NOT_ALLOWED"
  | .nonceCollision => fail 503 "X402_RETRY"
  | .badRequest => fail 400 "X402_INVALID_REQUEST"
  | .unexpected => fail 503 "X402_LEDGER_UNAVAILABLE"

def shadowResponse (paymentId : ℕ) : Response := .fail ⟨503, "X402_PAYER_SHADOW"⟩ (some paymentId)

/-- An expired credential whose debit went back to the balance is dead. -/
def isRefunded (p : LedgerPayment) : Bool := p.refundedAt.isSome || p.status == .expired

def refundedResponse (p : LedgerPayment) : Response := .fail ⟨410, "X402_CREDENTIAL_REFUNDED"⟩ (some p.id)

def storedPaymentResponse (p : LedgerPayment) (replay : Bool) (balance : ℕ) : Response :=
  if isRefunded p then refundedResponse p
  else
    match p.on, p.credential with
    | true, some credential => .signed replay p credential balance
    | _, _ => shadowResponse p.id

/-! ## The world -/

/-- Signing parameters of a first attempt. -/
structure Attempt where
  nonce : String
  validBefore : ℕ
  hash : String
  deriving DecidableEq, Repr

inductive Action where
  | getAccount
  | now
  /-- The cached attempt; what throws reads as none. -/
  | getAttempt
  | putAttempt (attempt : Attempt)
  | randomNonce
  | fetchSignature (request : RemoteSignRequest)
  | svmSigner
  | svmBuild
  | commitPayment (args : CommitArgs)
  | respond (response : Response)
  /-- The switch is set. -/
  | setMode (mode : PayerMode)
  | setStatus (status : AccountStatus)
  | setLimit (perTxLimit : ℕ)
  | credit (amount : ℕ)
  | settle
  | expire
  /-- The debit goes back to the balance. -/
  | refund (time : ℕ)

/-- Where an operation may throw, nothing stands for that. -/
abbrev Action.Answer : Action → Type
  | .getAccount => Option (Except Refusal AccountRead)
  | .now => ℕ
  | .getAttempt => Option Attempt
  | .putAttempt _ => Option Unit
  | .randomNonce => String
  | .fetchSignature _ => RemoteAnswer
  | .svmSigner => Option String
  | .svmBuild => Option SvmTransaction
  | .commitPayment _ => Option (Except Refusal Committed)
  | _ => Unit

/-- What the code does not decide. -/
structure Choice where
  fault : Fault := .none
  /-- Why the ledger refuses, where it has a reason of its own. -/
  refusal : Option Refusal := none
  foreign : Bool := false
  seconds : ℕ := 0
  attempt : Option Attempt := none
  nonce : String := ""
  remote : RemoteAnswer := .unreachable
  signer : Option String := none
  transaction : Option SvmTransaction := none

/-- A response, with the row as the ledger held it when it last answered that request. -/
structure Answered where
  tid : ℕ
  response : Response
  ledgerHeld : Option LedgerPayment

structure World where
  mode : PayerMode
  account : LedgerAccount
  row : Option LedgerPayment
  /-- Every debit under the idempotency key. -/
  debits : List ℕ
  /-- The row as the ledger held it when it last answered a thread. -/
  held : ℕ → Option LedgerPayment
  answers : List Answered

/-- Nothing is recorded under the key yet. -/
def World.start (mode : PayerMode) (account : LedgerAccount) : World where
  mode := mode
  account := account
  row := none
  debits := []
  held _ := none
  answers := []

/-- What the ledger answers about the account and the key. -/
def accountRead (choice : Choice) (world : World) : Except Refusal AccountRead :=
  match choice.refusal with
  | some refusal => .error refusal
  | none =>
    .ok { mode := world.mode, account := world.account
          payment := match world.row with
            | some payment => .row payment
            | none => if choice.foreign then .foreign else .absent }

/-- The commit transaction: it finds the row of the key, or binds the first requirement hash with the debit. -/
def commit (tid : ℕ) (args : CommitArgs) (choice : Choice) (world : World) : Except Refusal Committed × World :=
  match choice.refusal with
  | some refusal => (.error refusal, world)
  | none =>
    match world.row with
    | some payment =>
      if payment.acceptsHash = args.acceptsHash then
        (.ok { replay := true, mode := world.mode, payment, balance := world.account.balance }, world)
      else (.error .conflict, world)
    | none =>
      if args.on = true ∧ world.mode = .on then
        if Decimal.digitsValue args.amount.toList ≤ world.account.balance then
          let payment : LedgerPayment := { args with id := tid }
          let balance := world.account.balance - Decimal.digitsValue args.amount.toList
          (.ok { replay := false, mode := .on, payment, balance },
            { world with
              row := some payment
              account := { world.account with balance }
              debits := Decimal.digitsValue args.amount.toList :: world.debits })
        else (.error .insufficientBalance, world)
      else if args.on = false ∧ world.mode = .shadow then
        let payment : LedgerPayment := { args with id := tid }
        (.ok { replay := false, mode := .shadow, payment, balance := world.account.balance },
          { world with row := some payment })
      else (.error .modeChanged, world)

/-- The ledger has answered the thread. -/
def World.holding (tid : ℕ) (world : World) : World :=
  { world with held := Function.update world.held tid world.row }

/-- Change the row of the key, where there is one. -/
def World.changeRow (change : LedgerPayment → LedgerPayment) (world : World) : World :=
  { world with row := world.row.map change }

def perform (tid : ℕ) : (action : Action) → Choice → World → Option (action.Answer × World)
  | .getAccount, choice, world =>
    some (choice.fault.apply (fun world => (accountRead choice world, world.holding tid)) world)
  | .now, choice, world => some (choice.seconds, world)
  | .getAttempt, choice, world => some (choice.attempt, world)
  | .putAttempt _, choice, world => some (choice.fault.apply (fun world => ((), world)) world)
  | .randomNonce, choice, world => some (choice.nonce, world)
  | .fetchSignature _, choice, world => some (choice.remote, world)
  | .svmSigner, choice, world => some (choice.signer, world)
  | .svmBuild, choice, world => some (choice.transaction, world)
  | .commitPayment args, choice, world =>
    some (choice.fault.apply (fun world =>
      let (answer, after) := commit tid args choice world
      (answer, after.holding tid)) world)
  | .respond response, _, world =>
    some ((), { world with answers := ⟨tid, response, world.held tid⟩ :: world.answers })
  | .setMode mode, _, world => some ((), { world with mode })
  | .setStatus status, _, world => some ((), { world with account := { world.account with status } })
  | .setLimit perTxLimit, _, world => some ((), { world with account := { world.account with perTxLimit } })
  | .credit amount, _, world =>
    some ((), { world with account := { world.account with balance := world.account.balance + amount } })
  | .settle, _, world => some ((), world.changeRow fun p => { p with status := .settled })
  | .expire, _, world => some ((), world.changeRow fun p => { p with status := .expired })
  | .refund time, _, world =>
    match world.row with
    | some p =>
      if p.on = true ∧ p.refundedAt = none then
        some ((), { (world.changeRow fun p => { p with refundedAt := some time }) with
          account := { world.account with balance := world.account.balance + Decimal.digitsValue p.amount.toList } })
      else none
    | none => none

abbrev payerMachine : Machine :=
  ⟨Action, Action.Answer, Choice, World, perform⟩

abbrev Routine (α : Type) := Prog Action Action.Answer α

def ask (action : Action) : Routine action.Answer := Prog.call action

/-! ## Signing a candidate -/

/-- What the deployment is configured with. -/
structure Deployment where
  lib : Libraries
  /-- `FUNDER_WALLET` -/
  funderWallet : String
  /-- The remote signer is configured. -/
  evmRemote : Bool := true
  /-- The account id and the idempotency key. -/
  remoteKey : String

structure SignRequest where
  /-- What the checks of the agent key, the idempotency key and the version refuse. -/
  refused : Option Failure := none
  accepts : Value
  resource : Option Value := none
  /-- The budget in atomic units, rounded down, where it is well formed. -/
  budget : Except Failure (Option ℕ) := .ok none

/-- A signed credential, or the placeholders of the shadow mode. -/
structure Candidate where
  funder : String
  nonce : String
  credential : Option Credential
  validBeforeUnix : Option ℕ

/-- A signed credential must have at least this long left when it is committed. -/
def FRESHNESS_MARGIN_S : ℕ := 5

def isNonce (text : String) : Bool :=
  match text.toList with
  | '0' :: 'x' :: digits => digits.length == 64 && digits.all fun c => between '0' '9' c || between 'a' 'f' c
  | _ => false

/-- A cached attempt for the same requirement that outlives a full signing timeout. -/
def Attempt.reusable (hash : String) (now : ℕ) (prev : Attempt) : Bool :=
  let minLeft := (SIGN_SERVICE_TIMEOUT_MS + 999) / 1000 + FRESHNESS_MARGIN_S
  prev.hash == hash && decide (now + minLeft < prev.validBefore) && isNonce prev.nonce

/-- The signing parameters of the first attempt, while they are still valid. It throws where the cache cannot be written. -/
def loadOrCreateAttempt (hash : String) (maxTimeoutSeconds : ℕ) : Routine (Option Attempt) := do
  let now ← ask .now
  let cached ← ask .getAttempt
  match cached.filter (Attempt.reusable hash now) with
  | some prev => pure (some prev)
  | none =>
    let nonce ← ask .randomNonce
    let fresh : Attempt := { nonce, validBefore := now + maxTimeoutSeconds, hash }
    match ← ask (.putAttempt fresh) with
    | some () => pure (some fresh)
    | none => pure none

def internalError : Response := fail 500 "X402_INTERNAL"

def ledgerUnavailable : Response := fail 503 "X402_LEDGER_UNAVAILABLE"

def buildPaymentPayload (request : SignRequest) (req : ValidatedRequirement) (payload : Payload) : Credential where
  resource := request.resource
  accepted := req.raw
  payload := payload

def evmCandidate (d : Deployment) (request : SignRequest) (req : ValidatedRequirement) (hash : String) :
    Routine (Except Response Candidate) := do
  if d.evmRemote = false then pure (.error (fail 503 "X402_SIGNER_NOT_CONFIGURED"))
  else
    match ← loadOrCreateAttempt hash req.maxTimeoutSeconds with
    | none => pure (.error internalError)
    | some attempt =>
      -- A fresh attempt has another nonce, so it is another remote request.
      let remoteKey := d.lib.sha256Hex (units (d.remoteKey ++ ":" ++ attempt.nonce).toList)
      let r : RemoteSignRequest :=
        { nonce := attempt.nonce, validBeforeUnix := attempt.validBefore, idempotencyKey := remoteKey
          paymentReference := "x402req_" ++ String.ofList (remoteKey.toList.take 32) }
      let answer ← ask (.fetchSignature r)
      match remoteSignEvmExact d.lib d.funderWallet req r answer with
      | .error failure => pure (.error (.fail failure none))
      | .ok signed =>
        let now ← ask .now
        if signed.validBeforeUnix < now + FRESHNESS_MARGIN_S then pure (.error (fail 503 "X402_RETRY"))
        else
          pure (.ok { funder := signed.funder, nonce := signed.nonce, validBeforeUnix := some signed.validBeforeUnix
                      credential := some (buildPaymentPayload request req (.evm signed.authorization signed.signature)) })

def svmCandidate (request : SignRequest) (req : ValidatedRequirement) : Routine (Except Response Candidate) := do
  match ← ask .svmSigner with
  | none => pure (.error (fail 503 "X402_SIGNER_NOT_CONFIGURED"))
  | some funder =>
    if svmPayable funder req then
      match ← ask .svmBuild with
      | none => pure (.error internalError)
      | some tx =>
        match signSolanaExact funder req tx with
        | none => pure (.error (fail 400 "X402_INVALID_REQUIREMENT"))
        | some r =>
          pure (.ok { funder := r.funder, nonce := r.nonce, validBeforeUnix := none
                      credential := some (buildPaymentPayload request req (.svm r.transaction)) })
    else pure (.error (fail 400 "X402_INVALID_REQUIREMENT"))

/-- No signer is touched. -/
def shadowCandidate (d : Deployment) (req : ValidatedRequirement) : Routine Candidate := do
  match req.network with
  | .base =>
    let nonce ← ask .randomNonce
    let now ← ask .now
    pure { funder := d.funderWallet, nonce, credential := none, validBeforeUnix := some (now + req.maxTimeoutSeconds) }
  | .solana =>
    let signer ← ask .svmSigner
    let nonce ← ask .randomNonce
    pure { funder := signer.getD "unconfigured", nonce, credential := none, validBeforeUnix := none }

def candidate (d : Deployment) (request : SignRequest) (req : ValidatedRequirement) (hash : String) (on : Bool) :
    Routine (Except Response Candidate) := do
  if on then
    match req.network with
    | .base => evmCandidate d request req hash
    | .solana => svmCandidate request req
  else
    let placeholder ← shadowCandidate d req
    pure (.ok placeholder)

/-! ## The handler -/

def commitArgs (req : ValidatedRequirement) (hash : String) (on : Bool) (signed : Candidate) : CommitArgs where
  acceptsHash := hash
  accepts := req.raw
  network := req.network
  amount := req.amount
  payTo := req.payTo
  funder := signed.funder
  nonce := signed.nonce
  credential := signed.credential
  validBeforeUnix := signed.validBeforeUnix
  on := on

/-- One transaction: the row of the key, the credential and the debit. -/
def commitAndAnswer (args : CommitArgs) : Routine Response := do
  match ← ask (.commitPayment args) with
  | none => pure ledgerUnavailable
  | some (.error refusal) => pure (outcomeResponse refusal)
  | some (.ok committed) =>
    -- A replay found at the commit lost a race; the ledger reports the switch as it is now.
    if committed.replay = true ∧ committed.mode ≠ .on then pure (shadowResponse committed.payment.id)
    else pure (storedPaymentResponse committed.payment committed.replay committed.balance)

def signRequirement (d : Deployment) (request : SignRequest) (req : ValidatedRequirement) : Routine Response := do
  let hash := requirementHash d.lib.sha256Hex req
  match ← ask .getAccount with
  | none => pure ledgerUnavailable
  | some (.error refusal) => pure (outcomeResponse refusal)
  | some (.ok acct) =>
    if acct.mode = .off then pure (outcomeResponse .disabled)
    else if acct.account.status ≠ .active then pure (outcomeResponse .accountInactive)
    else
      match acct.payment with
      | .foreign => pure (outcomeResponse .conflict)
      | .row payment =>
        if payment.acceptsHash ≠ hash then pure (outcomeResponse .conflict)
        else if acct.mode ≠ .on then pure (shadowResponse payment.id)
        else pure (storedPaymentResponse payment true acct.account.balance)
      | .absent =>
        let on := acct.mode == .on
        if acct.account.perTxLimit < req.amountAtomic then pure (outcomeResponse .perTxLimit)
        else if on = true ∧ acct.account.balance < req.amountAtomic then pure (outcomeResponse .insufficientBalance)
        else
          match ← candidate d request req hash on with
          | .error response => pure response
          | .ok signed => commitAndAnswer (commitArgs req hash on signed)

/-- The budget check. -/
def SignRequest.overBudget (request : SignRequest) (req : ValidatedRequirement) : Option Failure :=
  match request.budget with
  | .error failure => some failure
  | .ok none => none
  | .ok (some budget) => if budget < req.amountAtomic then some ⟨402, "X402_BUDGET_EXCEEDED"⟩ else none

def sign (d : Deployment) (request : SignRequest) : Routine Response := do
  match request.refused with
  | some failure => pure (.fail failure none)
  | none =>
    match selectRequirement request.accepts with
    | .error error => pure (fail 400 error.code)
    | .ok req =>
      match request.overBudget req with
      | some failure => pure (.fail failure none)
      | none => signRequirement d request req

def handleSign (d : Deployment) (request : SignRequest) : Routine Unit := do
  let response ← sign d request
  ask (.respond response)

/-! ## The parties -/

/-- What happens to the ledger from elsewhere. -/
inductive Event where
  | setMode (mode : PayerMode)
  | setStatus (status : AccountStatus)
  | setLimit (perTxLimit : ℕ)
  | credit (amount : ℕ)
  | settle
  | expire
  | refund (time : ℕ)
  deriving DecidableEq, Repr

def Event.program : Event → Routine Unit
  | .setMode mode => ask (.setMode mode)
  | .setStatus status => ask (.setStatus status)
  | .setLimit perTxLimit => ask (.setLimit perTxLimit)
  | .credit amount => ask (.credit amount)
  | .settle => ask .settle
  | .expire => ask .expire
  | .refund time => ask (.refund time)

inductive Party where
  | idle
  | request (request : SignRequest)
  | event (event : Event)

def Party.program (d : Deployment) : Party → Routine Unit
  | .idle => pure ()
  | .request asked => handleSign d asked
  | .event external => external.program

/-- Nothing is recorded under the key yet, and every party is about to begin. -/
def paying (d : Deployment) (mode : PayerMode) (account : LedgerAccount) (parties : ℕ → Party) : payerMachine.Config :=
  ⟨.start mode account, fun tid => (parties tid).program d⟩

/-- The requirement that a request of this party asks to be signed. -/
def Party.asks (party : Party) (req : ValidatedRequirement) : Prop :=
  ∃ request, party = .request request ∧ selectRequirement request.accepts = .ok req

end MppRouter.X402Payer
