import MppRouter.Core.Throwing
import MppRouter.Mpp.ChannelWatermark
import MppRouter.Proxy.Merchant

/-! # The world of proxied calls

Proxied calls, polls of their jobs and cron passes work against one world: the merchants, a key-value store
whose reads may be stale, and an atomic store that keeps channels, refunds and the outcomes of jobs. Every
operation on a store may fail or lose its answer.
-/

namespace MppRouter.Proxy

open Concurrent Mpp Refund Routes Function

/-- What the unpaid call of the payment library meets. -/
inductive Unpaid where
  | threw
  | answered (response : MerchantResponse)
  | challenged (offers : List Challenge)
  deriving DecidableEq, Repr

def Unpaid.requote : Unpaid → Requote
  | .threw => .threw
  | .answered _ => .answered
  | .challenged offers => .challenged offers

structure SignedCredential where
  /-- The x402 payload of the call that it was signed for. -/
  payload : Option String
  amount : ℤ
  deriving DecidableEq, Repr

/-- A voucher or a close that the payment library accepted for a call. -/
structure Acceptance where
  lockId : Uuid
  challengeId : String
  amount : ℕ
  /-- The cumulative amount before. -/
  replaced : ℕ
  deriving DecidableEq, Repr

inductive ChannelEvent where
  | accepted (acceptance : Acceptance)
  | rolledBack (lockId : Uuid) (challengeId : String) (before after : ℕ)
  deriving DecidableEq, Repr

structure TerminalKey where
  serviceId : String
  jobId : String
  deriving DecidableEq, Repr

/-- The outcome that a run found or made for a job, and the job it had been claimed for. -/
structure CountedOutcome where
  key : TerminalKey
  record : JobAuthRecord
  outcome : Outcome
  claimedFor : JobAuthRecord
  deriving DecidableEq, Repr

/-- An answer to a metered call. -/
structure Answered where
  lockId : Uuid
  response : Response
  deriving DecidableEq, Repr

inductive Action where
  | getNonce (payloadHash : String)
  | putNonce (payloadHash : String)
  | deleteNonce (payloadHash : String)
  | getReplay (payloadHash : String)
  | putReplay (payloadHash : String) (response : Response)
  | verifyWithFacilitator (payloadHash : String)
  | settleAndRecord (payloadHash : String)
  | hostedOriginHeaders
  | checkoutDeliveryPaused
  | fetchMerchant
  | getTempoChannel
  | fetchUnpaid
  | signCredential (payload : Option String) (amount : ℤ)
  | receive
  | getIdempotent (key : String)
  | putIdempotent (key text : String)
  /-- Answers whether the limit is used up. -/
  | bumpDailyLimit
  /-- Answers with the row's id, once it is written. -/
  | recordOrder
  | randomUuid
  /-- For a job's terminal key, when a finished job causes it. -/
  | createRefund (cause : Option TerminalKey) (input : EnqueueInput)
  | publishRefund (publicId refundId : String)
  | putJob (jobId : String) (record : JobAuthRecord)
  | acquireLock (channelContract : String) (lockId : Uuid)
  | releaseLock (cause : Option TerminalKey) (channelContract : String) (lockId : Uuid)
  | readCumulative (channelContract : String)
  | verifyVoucher (channelContract : String) (lockId : Uuid) (challengeId : String) (amount : ℕ) (action : ChannelAction)
  | rollbackCumulative (delivery : ChannelDelivery)
  | deleteChallenge (challengeId : String)
  | readChallenge (challengeId : String)
  | respond (lockId : Uuid) (response : Response)
  | getJob (jobId : String)
  | listJobs
  | getChecked (jobId : String)
  | putChecked (jobId : String)
  | proveOwnership (jobId stellarAddress : String)
  | poll (record : JobAuthRecord)
  | now
  | claimTerminal (key : TerminalKey) (outcome : Outcome) (record : JobAuthRecord)
  | putTerminal (key : TerminalKey) (outcome : Outcome)
  /-- The store drops a record whose time to live has passed. -/
  | expireJob (jobId : String)
  deriving DecidableEq, Repr

/-- One page of a listing. -/
structure Page where
  keys : List String := []
  complete : Bool := true
  deriving DecidableEq, Repr

/-- What the payment library says of a channel credential. -/
inductive Verified where
  | rejected
  /-- Accepted; the callback or the recovery tells the router of it, or both fail. -/
  | accepted (captured : Bool)
  deriving DecidableEq, Repr

/-- Where an operation may throw, nothing stands for that. -/
def Action.Answer : Action → Type
  | .getNonce _ => Option Bool
  | .putNonce _ | .putJob _ _ | .publishRefund _ _ | .releaseLock _ _ _ | .deleteChallenge _ | .putChecked _
  | .putTerminal _ _ => Option Unit
  | .deleteNonce _ | .putReplay _ _ | .settleAndRecord _ | .putIdempotent _ _ | .respond _ _ | .expireJob _ => Unit
  | .getReplay _ => Option (Option Response)
  | .verifyWithFacilitator _ => Option ℕ
  | .hostedOriginHeaders => Option Bool
  | .checkoutDeliveryPaused => Bool
  | .recordOrder => Option String
  | .fetchMerchant | .receive | .poll _ => Option MerchantResponse
  | .getTempoChannel => Option (Option TempoChannelState)
  | .fetchUnpaid => Unpaid
  | .signCredential _ _ => Bool
  | .getIdempotent _ => Option (Option String)
  | .bumpDailyLimit => Option Bool
  | .randomUuid => Uuid
  | .createRefund _ _ => Option RefundRecord
  | .acquireLock _ _ => Option Bool
  | .readCumulative _ => Option (Option (Cumulative ℕ))
  | .verifyVoucher _ _ _ _ _ => Option Verified
  | .rollbackCumulative _ => Option Bool
  | .readChallenge _ => Option Bool
  | .getJob _ => Option (Option JobAuthRecord)
  | .listJobs => Option Page
  | .getChecked _ => Option Bool
  | .proveOwnership _ _ => Option (Option Response)
  | .now => ℕ
  | .claimTerminal _ _ _ => Option TerminalClaim

/-- What the code does not decide. -/
structure Choice where
  fault : Fault := .none
  now : ℕ := 0
  /-- How many of the latest writes a read misses. -/
  stale : ℕ := 0
  /-- A yes or no of the surroundings. -/
  flag : Bool := false
  /-- The status code of a refusal. -/
  refused : Option ℕ := none
  rejected : Option Response := none
  cached : Option String := none
  replayed : Option Response := none
  channel : Option TempoChannelState := none
  unpaid : Unpaid := .threw
  merchant : Option MerchantResponse := none
  verified : Verified := .rejected
  page : Page := {}
  publicId : String := ""
  deriving DecidableEq, Repr

structure World where
  /-- Whether a payload's nonce was reserved, after every write of it, newest first. -/
  nonces : String → List Bool
  /-- The request that found a payload's nonce free and neither released it nor failed to reserve it. -/
  admitted : String → Option ℕ
  /-- Newest first. -/
  credentials : List SignedCredential
  /-- The payloads that were settled, newest first. -/
  settled : List String
  refunds : String → Option RefundRecord
  /-- Every state of a job's record, newest first. -/
  jobs : String → List (Option JobAuthRecord)
  /-- The jobs whose records were stored to their handler's knowledge, newest first. -/
  acceptedJobs : List (String × JobAuthRecord)
  terminals : TerminalKey → Option AsyncTerminal
  /-- The job a terminal outcome was first claimed for. -/
  claimedFor : TerminalKey → Option JobAuthRecord
  /-- Newest first. -/
  counted : List CountedOutcome
  cumulative : String → Option (Cumulative ℕ)
  challenges : String → Bool
  /-- Newest first. -/
  channelLog : String → List ChannelEvent
  locks : String → Option Uuid
  /-- Newest first. -/
  answers : List Answered
  minted : ℕ

/-- Nothing has happened yet. -/
def World.start : World where
  nonces _ := []
  admitted _ := none
  credentials := []
  settled := []
  refunds _ := none
  jobs _ := []
  acceptedJobs := []
  terminals _ := none
  claimedFor _ := none
  counted := []
  cumulative _ := none
  challenges _ := false
  channelLog _ := []
  locks _ := none
  answers := []
  minted := 0

def refundIdForPaymentTx (paymentTx : String) : String := "refund-v1:" ++ paymentTx ++ ":full"

/-- Undo a voucher that is still the latest accepted cumulative amount. -/
def ChannelDelivery.rollbackCumulative (delivery : ChannelDelivery) (current : Option (Cumulative ℕ)) :
    Option (Option (Cumulative ℕ)) :=
  Mpp.rollbackCumulative delivery.acceptedAmount delivery.previousAmount current

namespace World

variable (world : World)

def createRefund (refundId : String) (decision : Decision RefundRecord RefundRecord) : RefundRecord × World :=
  (decision.result, { world with
    refunds := update world.refunds refundId (decision.after (world.refunds refundId)) })

def putJob (jobId : String) (record : JobAuthRecord) : World :=
  { world with jobs := update world.jobs jobId (some record :: world.jobs jobId) }

def releaseLock (channelContract : String) (lockId : Uuid) : World :=
  if world.locks channelContract = some lockId then
    { world with locks := update world.locks channelContract none }
  else world

/-- The library accepts what raises the cumulative amount under a challenge it has not seen. -/
def acceptable (channelContract challengeId : String) (amount : ℕ) : Bool :=
  cumulativeAmount (world.cumulative channelContract) < amount && !world.challenges challengeId &&
    !(world.cumulative channelContract).any Cumulative.settling

def acceptVoucher (channelContract : String) (lockId : Uuid) (challengeId : String) (amount : ℕ)
    (action : ChannelAction) : World :=
  { world with
    cumulative := update world.cumulative channelContract (some ⟨amount, action = .close⟩)
    challenges := update world.challenges challengeId true
    channelLog := update world.channelLog channelContract
      (.accepted ⟨lockId, challengeId, amount, cumulativeAmount (world.cumulative channelContract)⟩ ::
        world.channelLog channelContract) }

def rollback (delivery : ChannelDelivery) : Bool × World :=
  match delivery.rollbackCumulative (world.cumulative delivery.channelContract) with
  | none => (false, world)
  | some restored => (true, { world with
      cumulative := update world.cumulative delivery.channelContract restored
      channelLog := update world.channelLog delivery.channelContract
        (.rolledBack delivery.lockId delivery.challengeId delivery.acceptedAmount delivery.previousAmount ::
          world.channelLog delivery.channelContract) })

def claimTerminal (key : TerminalKey) (outcome : Outcome) (record : JobAuthRecord) : TerminalClaim × World :=
  let decision := Proxy.claimTerminal outcome (world.terminals key)
  let terminal := decision.after (world.terminals key)
  let claimedFor := (world.claimedFor key).getD record
  (decision.result, { world with
    terminals := update world.terminals key terminal
    claimedFor := update world.claimedFor key (some claimedFor)
    counted := ⟨key, record, terminal.elim outcome AsyncTerminal.outcome, claimedFor⟩ :: world.counted })

end World

def perform (tid : ℕ) : (action : Action) → Choice → World → Option (action.Answer × World)
  | .getNonce payloadHash, choice, world =>
    let found := ((world.nonces payloadHash)[choice.stale]?).getD false
    some (choice.fault.answered found, if choice.fault = .none ∧ found = false then
      { world with admitted := update world.admitted payloadHash (some tid) } else world)
  | .putNonce payloadHash, choice, world =>
    some <| match choice.fault with
      | .failed => (none, { world with admitted := update world.admitted payloadHash none })
      | fault => fault.apply (fun world => ((), { world with
          nonces := update world.nonces payloadHash (true :: world.nonces payloadHash) })) world
  | .deleteNonce payloadHash, choice, world =>
    some ((), if choice.fault = .failed then world else { world with
      nonces := update world.nonces payloadHash (false :: world.nonces payloadHash)
      admitted := update world.admitted payloadHash none })
  | .getReplay _, choice, world => some (choice.fault.answered choice.replayed, world)
  | .putReplay _ _, _, world => some ((), world)
  | .verifyWithFacilitator _, choice, world => some (choice.refused, world)
  | .settleAndRecord payloadHash, _, world => some ((), { world with settled := payloadHash :: world.settled })
  | .hostedOriginHeaders, choice, world => some (choice.fault.answered choice.flag, world)
  | .checkoutDeliveryPaused, choice, world => some (choice.flag, world)
  | .fetchMerchant, choice, world => some (choice.merchant, world)
  | .getTempoChannel, choice, world => some (choice.fault.answered choice.channel, world)
  | .fetchUnpaid, choice, world => some (choice.unpaid, world)
  | .signCredential payload amount, choice, world =>
    some (choice.flag, if choice.flag then { world with credentials := ⟨payload, amount⟩ :: world.credentials } else world)
  | .receive, choice, world => some (choice.merchant, world)
  | .getIdempotent _, choice, world => some (choice.fault.answered choice.cached, world)
  | .putIdempotent _ _, _, world => some ((), world)
  | .bumpDailyLimit, choice, world => some (choice.fault.answered choice.flag, world)
  | .recordOrder, choice, world => some (choice.cached, world)
  | .randomUuid, _, world => some (⟨tid, world.minted⟩, { world with minted := world.minted + 1 })
  | .createRefund _ input, choice, world =>
    let refundId := refundIdForPaymentTx input.proof.paymentTx
    some <| match enqueueRefund refundId choice.publicId choice.now input (world.refunds refundId) with
      | .error _ => (none, world)
      | .ok decision => choice.fault.apply (fun world => world.createRefund refundId decision) world
  | .publishRefund _ _, choice, world => some (choice.fault.answered (), world)
  | .putJob jobId record, choice, world =>
    some <| match choice.fault with
      | .none => (some (), { world.putJob jobId record with acceptedJobs := (jobId, record) :: world.acceptedJobs })
      | fault => fault.apply (fun world => ((), world.putJob jobId record)) world
  | .acquireLock channelContract lockId, choice, world =>
    -- A held lock can be taken over once it has expired.
    some <| choice.fault.apply (fun world =>
      if (world.locks channelContract).isNone ∨ choice.flag then
        (true, { world with locks := update world.locks channelContract (some lockId) })
      else (false, world)) world
  | .releaseLock _ channelContract lockId, choice, world =>
    some (choice.fault.apply (fun world => ((), world.releaseLock channelContract lockId)) world)
  | .readCumulative channelContract, choice, world => some (choice.fault.answered (world.cumulative channelContract), world)
  | .verifyVoucher channelContract lockId challengeId amount action, choice, world =>
    match choice.verified with
    | .rejected => some (choice.fault.answered .rejected, world)
    | .accepted captured =>
      if world.acceptable channelContract challengeId amount then
        some (choice.fault.apply (fun world =>
          (.accepted captured, world.acceptVoucher channelContract lockId challengeId amount action)) world)
      else none
  | .rollbackCumulative delivery, choice, world => some (choice.fault.apply (fun world => world.rollback delivery) world)
  | .deleteChallenge challengeId, choice, world =>
    some (choice.fault.apply (fun world =>
      ((), { world with challenges := update world.challenges challengeId false })) world)
  | .readChallenge challengeId, choice, world => some (choice.fault.answered (world.challenges challengeId), world)
  | .respond lockId response, _, world => some ((), { world with answers := ⟨lockId, response⟩ :: world.answers })
  | .getJob jobId, choice, world => some (choice.fault.answered ((world.jobs jobId)[choice.stale]?).join, world)
  | .listJobs, choice, world => some (choice.fault.answered choice.page, world)
  | .getChecked _, choice, world => some (choice.fault.answered choice.flag, world)
  | .putChecked _, choice, world => some (choice.fault.answered (), world)
  | .proveOwnership _ _, choice, world => some (choice.fault.answered choice.rejected, world)
  | .poll _, choice, world => some (choice.merchant, world)
  | .now, choice, world => some (choice.now, world)
  | .claimTerminal key outcome record, choice, world =>
    some (choice.fault.apply (fun world => world.claimTerminal key outcome record) world)
  | .putTerminal key outcome, choice, world =>
    some (choice.fault.apply (fun world =>
      ((), { world with terminals := update world.terminals key (some ⟨outcome, .done⟩) })) world)
  | .expireJob jobId, _, world =>
    some ((), { world with jobs := update world.jobs jobId (none :: world.jobs jobId) })

abbrev proxyMachine : Machine :=
  ⟨Action, Action.Answer, Choice, World, perform⟩

/-- Code that may throw. -/
abbrev Handler (α : Type) := Throwing Action Action.Answer α

/-- Perform an action that does not throw. -/
def ask (action : Action) : Handler action.Answer := OptionT.lift (Prog.call action)

end MppRouter.Proxy
