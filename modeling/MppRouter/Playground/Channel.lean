import MppRouter.Core.Throwing
import MppRouter.Playground.ChannelStore

/-! # Metered calls on one payment channel

A call takes the delivery lock, reads the watermark, has its voucher verified, pays the upstream and
keeps the voucher, or takes its charge back. An action is one operation on a durable key or one
exchange with the outside; any number of calls interleave at actions. The verifier is the payment
library's: what it accepts is a parameter.
-/

namespace MppRouter.Playground.Channel

open Concurrent Throwing
open Mpp (Cumulative cumulativeAmount)

/-! ## The world -/

/-- What an unpaid request is told to sign: the quoted watermark, and the challenge to answer. -/
structure Challenge where
  id : String
  cumulative : ℤ
  deriving DecidableEq, Repr

/-- A signed request. -/
structure Credential where
  challengeId : String
  amount : ℤ
  action : CredentialAction
  signature : String
  deriving DecidableEq, Repr

/-- What the verifier accepts, given the watermark and the price. -/
abbrev Verifier := ℤ → ℤ → Credential → Bool

structure CallResponse where
  status : ℕ
  error : Option String
  /-- `charged_usd`; without it nothing is charged. -/
  chargedRaw : ℤ := 0
  challenge : Option Challenge := none
  deriving DecidableEq, Repr

/-- How far the charge of an accepted voucher has come. -/
inductive Phase where
  | accepted | kept | charged
  deriving DecidableEq, Repr

/-- An accepted voucher that was not taken back: who presented it, the price, the watermark before and after. -/
structure Acceptance where
  owner : ℕ
  priceRaw : ℤ
  before : ℤ
  amount : ℤ
  phase : Phase
  deriving DecidableEq, Repr

structure World where
  cumulative : Option (Cumulative ℤ)
  /-- The challenges the verifier has marked as used. -/
  challenges : String → Bool
  lock : Option DeliveryLock
  voucher : Option LatestVoucher
  closed : Bool
  fenced : Bool
  supersededAborts : ℕ
  /-- Lock tokens minted so far. -/
  minted : ℕ
  /-- The accepted vouchers that stand, newest first. -/
  standing : List Acceptance
  /-- The calls between the acceptance of their voucher and their answer. -/
  inFlight : List ℕ
  /-- The answers given, newest first. -/
  answered : List CallResponse

/-- One acceptance after the charge of `owner` has moved on. -/
def Acceptance.advance (owner : ℕ) (phase : Phase) (acceptance : Acceptance) : Acceptance :=
  if acceptance.owner = owner then { acceptance with phase } else acceptance

/-- The charge of a call moves on. -/
def World.advance (world : World) (owner : ℕ) (phase : Phase) : World :=
  { world with standing := world.standing.map (Acceptance.advance owner phase) }

def World.initial : World where
  cumulative := none
  challenges _ := false
  lock := none
  voucher := none
  closed := false
  fenced := false
  supersededAborts := 0
  minted := 0
  standing := []
  inFlight := []
  answered := []

/-! ## Operations on the stores -/

inductive VerifyResult where
  | accepted (voucher : ChannelVoucher)
  | challenged (challenge : Challenge)
  deriving DecidableEq, Repr

inductive StoreOp where
  | acquireLock (lockId : LockId) (now : ℕ)
  | revalidateLock (lockId : LockId) (now : ℕ)
  | releaseLock (lockId : LockId)
  | readClosed
  | readFenced
  | markClosed
  | fence
  | readCumulative
  | readChallenge (challengeId : String)
  | deleteChallenge (challengeId : String)
  | rollback (voucher : ChannelVoucher)
  | readVoucher
  | putVoucher (cumulativeRaw : ℤ) (signature : String)
  | incrSupersededAbort
  /-- The payment library without a credential: a challenge for the current watermark. -/
  | challenge
  /-- The payment library with a credential, and the previous amount its success hook captures. -/
  | verify (priceRaw : ℤ) (credential : Credential) (previousAmount : ℤ)
  deriving DecidableEq

@[reducible] def StoreOp.Answer : StoreOp → Type
  | .acquireLock _ _ | .revalidateLock _ _ | .releaseLock _ | .readClosed | .readFenced | .readChallenge _
  | .rollback _ => Bool
  | .markClosed | .fence | .deleteChallenge _ | .putVoucher _ _ | .incrSupersededAbort => Unit
  | .readCumulative => Option (Cumulative ℤ)
  | .readVoucher => Option LatestVoucher
  | .challenge => Challenge
  | .verify _ _ _ => VerifyResult

/-- What an operation of one call does. `text` is the id of a challenge that is issued. -/
def StoreOp.perform (verifier : Verifier) (tid : ℕ) (text : String) : (op : StoreOp) → World → op.Answer × World
  | .acquireLock lockId now, world =>
    let (acquired, lock) := acquireChannelDeliveryLock lockId now world.lock
    (acquired, { world with lock })
  | .revalidateLock lockId now, world =>
    let (valid, lock) := revalidateChannelDeliveryLock lockId now world.lock
    (valid, { world with lock })
  | .releaseLock lockId, world =>
    let (released, lock) := releaseChannelDeliveryLock lockId world.lock
    (released, { world with lock })
  | .readClosed, world => (world.closed, world)
  | .readFenced, world => (world.fenced, world)
  | .markClosed, world => ((), { world with closed := true })
  | .fence, world => ((), { world with fenced := true })
  | .readCumulative, world => (world.cumulative, world)
  | .readChallenge challengeId, world => (world.challenges challengeId, world)
  | .deleteChallenge challengeId, world =>
    ((), { world with challenges := Function.update world.challenges challengeId false })
  | .rollback voucher, world =>
    match voucher.rollback world.cumulative with
    | none => (false, world)
    | some cumulative =>
      (true, { world with cumulative, standing := world.standing.filter fun acceptance => acceptance.owner ≠ tid })
  | .readVoucher, world => (world.voucher, world)
  | .putVoucher cumulativeRaw signature, world =>
    ((), { world with voucher := some (putLatestVoucher cumulativeRaw signature world.voucher) }.advance tid .kept)
  | .incrSupersededAbort, world => ((), { world with supersededAborts := world.supersededAborts + 1 })
  | .challenge, world => (⟨text, cumulativeAmount world.cumulative⟩, world)
  | .verify priceRaw credential previousAmount, world =>
    let before := cumulativeAmount world.cumulative
    if verifier before priceRaw credential then
      (.accepted ⟨credential.challengeId, credential.amount, previousAmount, credential.action, credential.signature⟩,
        { world with
          cumulative := some { amount := credential.amount }
          challenges := Function.update world.challenges credential.challengeId true
          standing := ⟨tid, priceRaw, before, credential.amount, .accepted⟩ :: world.standing
          inFlight := tid :: world.inFlight })
    else (.challenged ⟨text, before⟩, world)

/-! ## The machine -/

/-- How the paid call ended. Evidence of a payment, and nothing else, makes the charge stand. -/
inductive UpstreamResult where
  | returned (paid usable : Bool)
  | threw (paymentEvidence : Bool) (status : ℕ) (code : String)
  deriving DecidableEq, Repr

inductive Action where
  | store (op : StoreOp)
  | now
  | randomUuid
  | closingForSpend
  | callUpstream
  | respond (response : CallResponse)
  deriving DecidableEq

/-- An operation on a store may throw. -/
@[reducible] def Action.Answer : Action → Type
  | .store op => Option op.Answer
  | .now => ℕ
  | .randomUuid => LockId
  | .closingForSpend => Bool
  | .callUpstream => UpstreamResult
  | .respond _ => Unit

/-- What the code does not decide. -/
structure Choice where
  fault : Fault := .none
  now : ℕ := 0
  text : String := ""
  closing : Bool := false
  upstream : UpstreamResult := .returned true true
  deriving DecidableEq, Repr

def Choice.plain : Choice := { now := 0 }

def perform (verifier : Verifier) (tid : ℕ) : (action : Action) → Choice → World → action.Answer × World
  | .store op, choice, world => choice.fault.apply (op.perform verifier tid choice.text) world
  | .now, choice, world => (choice.now, world)
  | .randomUuid, _, world => (⟨tid, world.minted⟩, { world with minted := world.minted + 1 })
  | .closingForSpend, choice, world => (choice.closing, world)
  | .callUpstream, choice, world => (choice.upstream, world)
  | .respond response, _, world =>
    let answered := { world with
      answered := response :: world.answered, inFlight := world.inFlight.filter fun other => other ≠ tid }
    ((), if response.chargedRaw = 0 then answered else answered.advance tid .charged)

abbrev channelMachine (verifier : Verifier) : Machine where
  Action := Action
  Answer := Action.Answer
  Choice := Choice
  World := World
  perform tid action choice world := some (perform verifier tid action choice world)

/-- Code that may throw. -/
abbrev Call (α : Type) := Throwing Action Action.Answer α

def onStore (op : StoreOp) : Call op.Answer := OptionT.mk (Prog.call (Action.store op))

def ask (action : Action) : Call action.Answer := OptionT.lift (Prog.call action)

/-! ## Verification -/

structure MeteredCall where
  /-- The budget of the upstream call, in atomic units. -/
  maxUpstreamRaw : ℕ
  /-- The deposit recorded when the channel was registered. -/
  depositRaw : ℤ
  deriving DecidableEq, Repr

def MeteredCall.priceRaw (call : MeteredCall) : ℤ := applyMarkup call.maxUpstreamRaw

def fail (status : ℕ) (error : String) : CallResponse := { status, error := some error }

def deliveryInProgress : CallResponse := fail 409 "delivery_in_progress"
def channelClosed : CallResponse := fail 410 "channel_closed"
def channelClosing : CallResponse := fail 410 "channel_closing"
def insufficientChannelBalance : CallResponse := fail 402 "insufficient_channel_balance"
def voucherVerificationFailed : CallResponse := fail 402 "voucher_verification_failed"
def closeNotMetered : CallResponse := fail 400 "close_not_metered"
def lockSuperseded : CallResponse := fail 409 "lock_superseded"
def upstreamUnpaid : CallResponse := fail 502 "upstream_unpaid"
def settlementPersistFailed : CallResponse := fail 502 "settlement_persist_failed"
def lockSupersededAfterPay : CallResponse := fail 409 "lock_superseded_after_pay"
/-- What the worker answers for a request that threw. -/
def internalError : CallResponse := { status := 500, error := none }

def challengeResponse (challenge : Challenge) : CallResponse :=
  { status := 402, error := none, challenge := some challenge }

inductive VerifyOutcome where
  | respond (response : CallResponse)
  | verified (voucher : ChannelVoucher) (lockId : LockId)
  deriving DecidableEq, Repr

def releaseLock (lockId : LockId) : Call Unit := do
  let _ ← onStore (.releaseLock lockId)
  pure ()

/-- Either marker blocks the channel. -/
def isChannelBlocked : Call Bool := do
  let closed ← onStore .readClosed
  let fenced ← onStore .readFenced
  pure (closed || fenced)

def fenceAttempts : ℕ → Call Bool
  | 0 => pure false
  | attempts + 1 => do
    match ← attempt (onStore .fence) with
    | some _ => pure true
    | none => fenceAttempts attempts

def fenceChannelPersistent : Call Bool := fenceAttempts 3

def rollbackFailedChannelVoucher (voucher : ChannelVoucher) : Call Bool := do
  if ← onStore (.rollback voucher) then
    onStore (.deleteChallenge voucher.challengeId)
    pure true
  else
    let current ← onStore .readCumulative
    let challenge ← onStore (.readChallenge voucher.challengeId)
    pure (cumulativeAmount current = voucher.previousAmount ∧ ¬ challenge)

/-- Answer a verified credential: a close voucher is taken back, a voucher goes on to the call. -/
def verifiedVoucher (voucher : ChannelVoucher) (lockId : LockId) : Call VerifyOutcome :=
  match voucher.action with
  | .voucher => pure (.verified voucher lockId)
  | .close => do
    let _ ← attempt (rollbackFailedChannelVoucher voucher)
    releaseLock lockId
    pure (.respond closeNotMetered)

/-- Have the credential verified, under the lock and with the watermark as it was read. -/
def verifyUnderLock (call : MeteredCall) (credential : Credential) (lockId : LockId) : Call VerifyOutcome := do
  let previous ← onStore .readCumulative
  if cumulativeAmount previous + call.priceRaw > call.depositRaw then
    releaseLock lockId
    pure (.respond insufficientChannelBalance)
  else
    match ← attempt (onStore (.verify call.priceRaw credential (cumulativeAmount previous))) with
    | none =>
      releaseLock lockId
      pure (.respond voucherVerificationFailed)
    | some (.challenged challenge) =>
      releaseLock lockId
      pure (.respond (challengeResponse challenge))
    | some (.accepted voucher) => verifiedVoucher voucher lockId

/-- The gates under the lock: the markers, then the channel's state on chain. -/
def verifyLocked (call : MeteredCall) (credential : Credential) (lockId : LockId) : Call VerifyOutcome := do
  if ← isChannelBlocked then
    releaseLock lockId
    pure (.respond channelClosed)
  else if ← ask .closingForSpend then
    let _ ← fenceChannelPersistent
    releaseLock lockId
    pure (.respond channelClosing)
  else verifyUnderLock call credential lockId

def verifyChannelVoucher (call : MeteredCall) (credential : Option Credential) : Call VerifyOutcome :=
  match credential with
  | none => do
    match ← attempt (onStore .challenge) with
    | none => pure (.respond voucherVerificationFailed)
    | some challenge => pure (.respond (challengeResponse challenge))
  | some credential => do
    let lockId ← ask .randomUuid
    let now ← ask .now
    if ← onStore (.acquireLock lockId now) then verifyLocked call credential lockId
    else pure (.respond deliveryInProgress)

/-! ## Settling a call -/

/-- Take back the charge of a call that must not stand; a charge that cannot be taken back stops the channel. -/
def reverseChargeOrFence (voucher : ChannelVoucher) : Call Unit := do
  let rolledBack ← attempt (rollbackFailedChannelVoucher voucher)
  if rolledBack = some true then pure ()
  else
    let _ ← attempt (onStore .markClosed)
    let _ ← fenceChannelPersistent
    pure ()

/-- Is a voucher for this amount stored? A read that throws confirms nothing. -/
def checkCovered (cumulativeRaw : ℤ) : Call Bool := do
  match ← attempt (onStore .readVoucher) with
  | some (some stored) => pure (stored.cumulativeRaw ≥ cumulativeRaw)
  | _ => pure false

/-- The upstream was paid and no voucher is stored: stop the channel first, then take the charge back. -/
def absorbPaidCallAndFence (voucher : ChannelVoucher) : Call Unit := do
  let _ ← attempt (onStore .incrSupersededAbort)
  if ← fenceChannelPersistent then
    let _ ← attempt (rollbackFailedChannelVoucher voucher)
    pure ()
  else pure ()

/-- Store the voucher of a paid call. True when the charge stands. -/
def persistVoucherOrReverse (voucher : ChannelVoucher) : Call Bool := do
  if voucher.signature = "" then
    absorbPaidCallAndFence voucher
    pure false
  else
    match ← attempt (onStore (.putVoucher voucher.acceptedAmount voucher.signature)) with
    | some _ => pure true
    | none =>
      if ← checkCovered voucher.acceptedAmount then pure true
      else
        absorbPaidCallAndFence voucher
        pure false

/-- Store the voucher while the lock is still ours. Answers with a response when the charge does not stand. -/
def commitPaidVoucher (voucher : ChannelVoucher) (lockId : LockId) : Call (Option CallResponse) := do
  let now ← ask .now
  if ← onStore (.revalidateLock lockId now) then
    if ← persistVoucherOrReverse voucher then pure none else pure (some settlementPersistFailed)
  else if ← checkCovered voucher.acceptedAmount then pure none
  else
    absorbPaidCallAndFence voucher
    pure (some lockSupersededAfterPay)

def charged (call : MeteredCall) (status : ℕ) (error : Option String) : CallResponse :=
  { status, error, chargedRaw := call.priceRaw }

/-- Commit a paid call; the answer to a charge that stands is the caller's. -/
def commitThen (voucher : ChannelVoucher) (lockId : LockId) (stands : CallResponse) : Call CallResponse := do
  match ← commitPaidVoucher voucher lockId with
  | some response => pure response
  | none => pure stands

def reverseThen (voucher : ChannelVoucher) (response : CallResponse) : Call CallResponse := do
  reverseChargeOrFence voucher
  pure response

/-- Pay the upstream while the lock is still ours, and settle by what was paid. -/
def settleCall (call : MeteredCall) (voucher : ChannelVoucher) (lockId : LockId) : Call CallResponse := do
  let now ← ask .now
  if ← onStore (.revalidateLock lockId now) then
    match ← ask .callUpstream with
    | .threw true status code => commitThen voucher lockId (charged call status (some code))
    | .threw false status code => reverseThen voucher (fail status code)
    | .returned false _ => reverseThen voucher upstreamUnpaid
    | .returned true true => commitThen voucher lockId (charged call 200 none)
    | .returned true false => commitThen voucher lockId (charged call 502 (some "upstream_empty"))
  else reverseThen voucher lockSuperseded

def executeMeteredChannelCall (call : MeteredCall) (credential : Option Credential) : Call CallResponse := do
  match ← verifyChannelVoucher call credential with
  | .respond response => pure response
  | .verified voucher lockId =>
    -- the lock is released on every path
    ensuring (settleCall call voucher lockId) do
      let _ ← (releaseLock lockId).run
      pure ()

/-! ## Clients -/

/-- Serve one request and answer it. -/
def serve (call : MeteredCall) (credential : Option Credential) : Prog Action Action.Answer CallResponse := do
  let result ← (executeMeteredChannelCall call credential).run
  let response := result.getD internalError
  let _ ← Prog.call (Action.respond response)
  pure response

/-- An honest client signs exactly the quoted watermark plus the price. -/
def honestCredential (call : MeteredCall) (action : CredentialAction) (signature : String) (challenge : Challenge) :
    Credential :=
  ⟨challenge.id, challenge.cumulative + call.priceRaw, action, signature⟩

/-- Answer each challenge with a signed request, so many times. -/
def answerChallenge (call : MeteredCall) (action : CredentialAction) (signature : String) :
    ℕ → CallResponse → Prog Action Action.Answer Unit
  | 0, _ => pure ()
  | tries + 1, response =>
    match response.challenge with
    | none => pure ()
    | some challenge => do
      let next ← serve call (some (honestCredential call action signature challenge))
      answerChallenge call action signature tries next

/-- Ask for a quote, then pay for the call. -/
def honestClient (call : MeteredCall) (action : CredentialAction) (signature : String) (tries : ℕ) :
    Prog Action Action.Answer Unit := do
  let quoted ← serve call none
  answerChallenge call action signature tries quoted

end MppRouter.Playground.Channel
