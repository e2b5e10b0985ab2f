import MppRouter.Core.Embed

/-! # Settling an x402 payment after the merchant was paid

A settling request writes a ledger row and an open marker, then lets the payment library sign and submit. The
signer notes each envelope in the marker before the library can submit it. The library's attempts race against
a deadline, behind which they run on, and a cron pass later closes what the request left open by reading the chain.
-/

namespace MppRouter.X402

open Concurrent Function

abbrev Hash := String

/-! ## Constants, all in milliseconds -/

def SETTLE_WAIT_MS : ℕ := 28000
def SETTLE_POLL_INTERVAL_MS : ℕ := 2000
def SETTLE_RETRY_DELAY_MS : ℕ := 1500
def SETTLE_RETRY_MIN_REMAINING_MS : ℕ := 10000
/-- How long after its signing an envelope can be included. -/
def TX_TIME_BOUND_MS : ℕ := 300000
def TX_EXPIRED_AFTER_MS : ℕ := TX_TIME_BOUND_MS + SETTLE_WAIT_MS + 60000
def RESOLVER_MIN_AGE_MS : ℕ := 60000
def RESOLVER_GIVE_UP_MS : ℕ := 24 * 60 * 60 * 1000
def RESOLVER_BATCH : ℕ := 20

/-! ## Data -/

inductive SettlementStatus where
  | pending | settled | failed | unknown
  deriving DecidableEq, Repr

structure OrderLedgerEntry where
  orderId : ℕ
  settlementRef : Option Hash := none
  settlementStatus : SettlementStatus := .pending
  settlementAttemptTxs : List Hash := []
  settlementErrorReason : Option String := none
  deriving DecidableEq, Repr

structure OpenSettlement where
  entry : OrderLedgerEntry
  createdAt : ℕ
  deriving DecidableEq, Repr

abbrev OpenSettlement.hashes (marker : OpenSettlement) : List Hash := marker.entry.settlementAttemptTxs

structure SettleAttemptResult where
  success : Bool
  transaction : Option Hash := none
  errorReason : Option String := none
  deriving DecidableEq, Repr

inductive Outcome where
  | settled | failed | unknown
  deriving DecidableEq, Repr

def Outcome.status : Outcome → SettlementStatus
  | .settled => .settled
  | .failed => .failed
  | .unknown => .unknown

structure StellarX402SettleResult where
  success : Bool
  outcome : Outcome
  transaction : Option Hash := none
  errorReason : Option String := none
  attemptedTxs : List Hash
  deriving DecidableEq, Repr

/-- What the hooks of one settlement know. -/
structure SettleTrace where
  /-- Every envelope signed, oldest first. -/
  hashes : List Hash := []
  accepted : Bool := false
  failedOnChain : Bool := false
  /-- Set at the deadline. -/
  abandoned : Bool := false
  deadlineMs : ℕ
  /-- The thread that runs the attempts. -/
  runner : Option ℕ := none
  /-- What the attempts came to. -/
  result : Option SettleAttemptResult := none
  deriving DecidableEq, Repr

/-- Where the settlement of an order stands. -/
inductive Settlement where
  | waiting
  /-- The facilitator could not be set up; nothing is attempted. -/
  | refused
  | traced (trace : SettleTrace)
  deriving DecidableEq, Repr

inductive ChainStatus where
  | success | failed | notFound
  deriving DecidableEq, Repr

/-- A signed transaction. -/
structure Envelope where
  orderId : ℕ
  signedAt : ℕ
  submitted : Bool := false
  status : ChainStatus := .notFound
  deriving DecidableEq, Repr

inductive Signed where
  | threw
  | error
  | signed (hash : Hash)
  deriving DecidableEq, Repr

inductive SendStatus where
  | pending
  | other (status : String)
  deriving DecidableEq, Repr

def applyResult (entry : OrderLedgerEntry) (result : StellarX402SettleResult) : OrderLedgerEntry :=
  { entry with
    settlementRef := if result.outcome = .settled then result.transaction else none
    settlementStatus := result.outcome.status
    settlementAttemptTxs := result.attemptedTxs
    settlementErrorReason := result.errorReason }

/-- What a bounded settlement comes to, from the winner of its race and the trace it leaves. -/
def verdict (result : Option SettleAttemptResult) (trace : SettleTrace) : StellarX402SettleResult :=
  if result.any SettleAttemptResult.success then
    { success := true, outcome := .settled, transaction := result.bind SettleAttemptResult.transaction
      attemptedTxs := trace.hashes }
  else
    -- What was signed and not rejected by the chain may still land; only the resolver may call that failed.
    let definitelyFailed := result.isSome && (trace.hashes.isEmpty || (trace.failedOnChain && trace.hashes.length == 1))
    { success := false
      outcome := if definitelyFailed then .failed else .unknown
      transaction := trace.hashes.getLast?
      errorReason := some ((result.bind SettleAttemptResult.errorReason).getD "settle_wait_exceeded")
      attemptedTxs := trace.hashes }

/-- Failures raised before the chain accepted a transaction. -/
def RETRYABLE_SETTLE_REASONS : List String :=
  ["unexpected_verify_error", "unexpected_settle_error", "settle_exact_stellar_transaction_submission_failed"]

/-! ## The payment library -/

/-- What the payment library asks of its surroundings; the signer, the submission and the wait are hooked. -/
inductive LibraryCall where
  | request (method : String)
  | signTransaction (networkPassphrase : Option String)
  | sendTransaction (hash : Hash)
  | pollForTransaction (hash : Hash)
  deriving DecidableEq, Repr

/-- Where a call may throw, nothing stands for that. -/
abbrev LibraryCall.Answer : LibraryCall → Type
  | .request _ => Option String
  | .signTransaction _ => Signed
  | .sendTransaction _ => Option SendStatus
  | .pollForTransaction _ => Bool

/-- The calls of the library. What they do is a matter of the hooks. -/
abbrev libraryMachine : Machine where
  Action := LibraryCall
  Answer := LibraryCall.Answer
  Choice := Unit
  World := Unit
  perform _ _ _ _ := none

/-- What the library does for one payment; it may throw, with an error reason or without. -/
abbrev Library := Prog LibraryCall LibraryCall.Answer (Except (Option String) SettleAttemptResult)

/-! ## The world -/

inductive Action where
  /-- `Date.now` and `newOrderId`. -/
  | openOrder
  | recordOrder (entry : OrderLedgerEntry)
  /-- Write the open marker of an order, for the first time or again after an exception. -/
  | putMarker (again : Bool) (marker : OpenSettlement)
  | deleteMarker (orderId : ℕ)
  /-- Set the facilitator up and make the trace. -/
  | startSettlement (orderId : ℕ)
  /-- The attempts, or nothing at the deadline. -/
  | race (orderId : ℕ)
  | conclude (orderId : ℕ) (timedOut : Bool)
  | begin (orderId : ℕ)
  | readTrace (orderId : ℕ)
  | getFacilitator
  | request (method : String)
  | sign (orderId : ℕ)
  | pushHash (orderId : ℕ) (hash : Hash)
  | sendTransaction (orderId : ℕ) (hash : Hash)
  | noteAccepted (orderId : ℕ)
  | getTransaction (hash : Hash)
  | noteFailed (orderId : ℕ)
  | now
  | sleepUntil (time : ℕ)
  | finish (orderId : ℕ) (result : SettleAttemptResult)
  | listMarkers
  | getMarker (orderId : ℕ)
  /-- Time passes. -/
  | tick (elapsed : ℕ)
  /-- The ledger applies a transaction, with success or without. -/
  | applyTransaction (hash : Hash) (successful : Bool)
  deriving DecidableEq, Repr

/-- Where an operation may throw, nothing stands for that. -/
abbrev Action.Answer : Action → Type
  | .openOrder => ℕ × ℕ
  | .recordOrder _ | .startSettlement _ | .getFacilitator => Bool
  | .putMarker _ _ | .deleteMarker _ => Option Unit
  | .race _ => Option SettleAttemptResult
  | .conclude _ _ | .readTrace _ => SettleTrace
  | .begin _ | .now => ℕ
  | .request _ => Option String
  | .sign _ => Signed
  | .pushHash _ _ => List Hash
  | .sendTransaction _ _ => Option SendStatus
  | .getTransaction _ => Option ChainStatus
  | .listMarkers => Option (List ℕ)
  | .getMarker _ => Option (Option OpenSettlement)
  | .noteAccepted _ | .noteFailed _ | .sleepUntil _ | .finish _ _ | .tick _ | .applyTransaction _ _ => Unit

/-- What the code does not decide. -/
structure Choice where
  fault : Fault := .none
  /-- A yes or no of the surroundings. -/
  flag : Bool := true
  signed : Signed := .error
  sent : Option SendStatus := none
  text : Option String := none
  listed : List ℕ := []
  deriving DecidableEq, Repr

structure World where
  now : ℕ
  /-- When the request of an order started. -/
  startedAt : ℕ → Option ℕ
  /-- Every ledger row ever written, newest first. -/
  rows : List OrderLedgerEntry
  markers : ℕ → Option OpenSettlement
  settlements : ℕ → Settlement
  envelopes : Hash → Option Envelope

/-- Nothing has happened yet. -/
def World.start : World where
  now := 0
  startedAt _ := none
  rows := []
  markers _ := none
  settlements _ := .waiting
  envelopes _ := none

namespace World

variable (world : World)

/-- The envelope was signed for the order. -/
def SignedFor (orderId : ℕ) (hash : Hash) : Prop :=
  ∃ envelope, world.envelopes hash = some envelope ∧ envelope.orderId = orderId

def Submitted (hash : Hash) : Prop := ∃ envelope, world.envelopes hash = some envelope ∧ envelope.submitted = true

/-- The chain applied the transaction, and it succeeded. -/
def OnChain (hash : Hash) : Prop := ∃ envelope, world.envelopes hash = some envelope ∧ envelope.status = .success

/-- What the chain answers about a transaction. -/
def statusOf (hash : Hash) : ChainStatus := (world.envelopes hash).elim .notFound Envelope.status

def putMarker (marker : OpenSettlement) : World :=
  { world with markers := update world.markers marker.entry.orderId (some marker) }

def setTrace (orderId : ℕ) (trace : SettleTrace) : World :=
  { world with settlements := update world.settlements orderId (.traced trace) }

def setEnvelope (hash : Hash) (envelope : Envelope) : World :=
  { world with envelopes := update world.envelopes hash (some envelope) }

@[simp] theorem setTrace_same (orderId : ℕ) (trace : SettleTrace) :
    (world.setTrace orderId trace).settlements orderId = .traced trace := update_self ..

@[simp] theorem setTrace_other {orderId other : ℕ} (distinct : other ≠ orderId) (trace : SettleTrace) :
    (world.setTrace orderId trace).settlements other = world.settlements other := update_of_ne distinct ..

@[simp] theorem setEnvelope_same (hash : Hash) (envelope : Envelope) :
    (world.setEnvelope hash envelope).envelopes hash = some envelope := update_self ..

@[simp] theorem setEnvelope_other {hash other : Hash} (distinct : other ≠ hash) (envelope : Envelope) :
    (world.setEnvelope hash envelope).envelopes other = world.envelopes other := update_of_ne distinct ..

@[simp] theorem putMarker_same (marker : OpenSettlement) :
    (world.putMarker marker).markers marker.entry.orderId = some marker := update_self ..

@[simp] theorem putMarker_other {marker : OpenSettlement} {other : ℕ} (distinct : other ≠ marker.entry.orderId) :
    (world.putMarker marker).markers other = world.markers other := update_of_ne distinct ..

end World

/-- The envelope that signing makes or makes anew. Different orders sign different envelopes. -/
def signEnvelope (orderId now : ℕ) : Option Envelope → Option Envelope
  | none => some { orderId := orderId, signedAt := now }
  | some envelope => if envelope.orderId = orderId then some { envelope with signedAt := now } else none

/-- The envelope once the ledger applied it, where it may. -/
def Envelope.applied (now : ℕ) (successful : Bool) (envelope : Envelope) : Option Envelope :=
  if envelope.submitted ∧ envelope.status = .notFound ∧ now ≤ envelope.signedAt + TX_TIME_BOUND_MS then
    some { envelope with status := if successful then .success else .failed }
  else none

def perform (tid : ℕ) : (action : Action) → Choice → World → Option (action.Answer × World)
  | .openOrder, _, world =>
    match world.startedAt tid with
    | some _ => none
    | none => some ((tid, world.now), { world with startedAt := update world.startedAt tid (some world.now) })
  | .recordOrder entry, choice, world =>
    let (answer, after) := choice.fault.apply (fun world => ((), { world with rows := entry :: world.rows })) world
    some (answer.isSome, after)
  | .putMarker _ marker, choice, world => some (choice.fault.apply (fun world => ((), world.putMarker marker)) world)
  | .deleteMarker orderId, choice, world =>
    some (choice.fault.apply (fun world =>
      ((), { world with markers := update world.markers orderId none })) world)
  | .startSettlement orderId, choice, world =>
    some (choice.flag, if choice.flag then world.setTrace orderId { deadlineMs := world.now + SETTLE_WAIT_MS }
      else { world with settlements := update world.settlements orderId .refused })
  | .race orderId, choice, world =>
    match world.settlements orderId with
    | .traced trace =>
      if choice.flag then trace.result.map fun result => (some result, world)
      else if trace.deadlineMs ≤ world.now then some (none, world) else none
    | _ => none
  | .conclude orderId timedOut, _, world =>
    match world.settlements orderId with
    | .traced trace =>
      let trace := if timedOut then { trace with abandoned := true } else trace
      some (trace, world.setTrace orderId trace)
    | _ => none
  | .begin orderId, _, world =>
    match world.settlements orderId, world.startedAt orderId with
    | .traced trace, some startedAt =>
      if trace.runner = none then some (startedAt, world.setTrace orderId { trace with runner := some tid }) else none
    | _, _ => none
  | .readTrace orderId, _, world =>
    match world.settlements orderId with
    | .traced trace => some (trace, world)
    | _ => none
  | .getFacilitator, choice, world => some (choice.flag, world)
  | .request _, choice, world => some (choice.text, world)
  | .sign orderId, choice, world =>
    match choice.signed with
    | .signed hash =>
      (signEnvelope orderId world.now (world.envelopes hash)).map fun envelope =>
        (.signed hash, world.setEnvelope hash envelope)
    | signed => some (signed, world)
  | .pushHash orderId hash, _, world =>
    match world.settlements orderId with
    | .traced trace =>
      some (trace.hashes ++ [hash], world.setTrace orderId { trace with hashes := trace.hashes ++ [hash] })
    | _ => none
  | .sendTransaction orderId hash, choice, world =>
    match world.settlements orderId, world.envelopes hash with
    | .traced trace, some envelope =>
      if trace.abandoned then some (none, world)
      else some (choice.sent, world.setEnvelope hash { envelope with submitted := true })
    | _, _ => none
  | .noteAccepted orderId, _, world =>
    match world.settlements orderId with
    | .traced trace => some ((), world.setTrace orderId { trace with accepted := true })
    | _ => none
  | .getTransaction hash, choice, world => some (choice.fault.answered (world.statusOf hash), world)
  | .noteFailed orderId, _, world =>
    match world.settlements orderId with
    | .traced trace => some ((), world.setTrace orderId { trace with failedOnChain := true })
    | _ => none
  | .now, _, world => some (world.now, world)
  | .sleepUntil time, _, world => if time ≤ world.now then some ((), world) else none
  | .finish orderId result, _, world =>
    match world.settlements orderId with
    | .traced trace => some ((), world.setTrace orderId { trace with result := some result })
    | _ => none
  | .listMarkers, choice, world => some (choice.fault.answered (choice.listed.take RESOLVER_BATCH), world)
  | .getMarker orderId, choice, world => some (choice.fault.answered (world.markers orderId), world)
  | .tick elapsed, _, world => some ((), { world with now := world.now + elapsed })
  | .applyTransaction hash successful, _, world =>
    ((world.envelopes hash).bind (Envelope.applied world.now successful)).map fun envelope =>
      ((), world.setEnvelope hash envelope)

abbrev settlementMachine : Machine :=
  ⟨Action, Action.Answer, Choice, World, perform⟩

abbrev Routine (α : Type) := Prog Action Action.Answer α

/-- Perform one action and return its answer. -/
def ask (action : Action) : Routine action.Answer := Prog.call action

/-! ## The settling request -/

/-- Write the marker, and once more when that throws. The spacing of the writes only delays them. -/
def writeOpen (startedAt : ℕ) (entry : OrderLedgerEntry) : Routine Unit := do
  match ← ask (.putMarker false ⟨entry, startedAt⟩) with
  | some () => pure ()
  | none =>
    let _ ← ask (.putMarker true ⟨entry, startedAt⟩)
    pure ()

/-- The request's part of a bounded settlement: the race, and the verdict on what it finds. -/
def runBoundedSettlement (orderId : ℕ) : Routine StellarX402SettleResult := do
  let result ← ask (.race orderId)
  let trace ← ask (.conclude orderId result.isNone)
  pure (verdict result trace)

def settleStellarX402 (orderId : ℕ) : Routine StellarX402SettleResult := do
  if ← ask (.startSettlement orderId) then runBoundedSettlement orderId
  else pure { success := false, outcome := .failed, errorReason := some "facilitator_init_failed", attemptedTxs := [] }

def settleAndRecordX402 : Routine Unit := do
  let (orderId, startedAt) ← ask .openOrder
  let entry : OrderLedgerEntry := { orderId := orderId }
  let _ ← ask (.recordOrder entry)
  writeOpen startedAt entry
  let result ← settleStellarX402 orderId
  let final := applyResult entry result
  let written ← ask (.recordOrder final)
  if written ∧ result.outcome ≠ .unknown then
    let _ ← ask (.deleteMarker orderId)
    pure ()
  else if result.outcome = .unknown then writeOpen startedAt final
  else pure ()

/-! ## The attempts behind it -/

/-- Notes each envelope in the trace and in the marker, before the library can submit it. -/
def signTransaction (orderId startedAt : ℕ) (networkPassphrase : Option String) : Routine Signed := do
  let trace ← ask (.readTrace orderId)
  if trace.abandoned then pure .error
  else
    match ← ask (.sign orderId), networkPassphrase with
    | .signed hash, some _ =>
      let hashes ← ask (.pushHash orderId hash)
      writeOpen startedAt { orderId := orderId, settlementAttemptTxs := hashes }
      pure (.signed hash)
    | signed, _ => pure signed

def sendTransaction (orderId : ℕ) (hash : Hash) : Routine (Option SendStatus) := do
  let sent ← ask (.sendTransaction orderId hash)
  if sent = some .pending then
    ask (.noteAccepted orderId)
    pure sent
  else pure sent

/-- The wait for a transaction. Every round lasts an interval, so the deadline comes before the rounds run out. -/
def pollForTransaction (orderId : ℕ) (hash : Hash) : ℕ → Routine Bool
  | 0 => pure false
  | rounds + 1 => do
    let now ← ask .now
    let trace ← ask (.readTrace orderId)
    if now < trace.deadlineMs ∧ ¬trace.abandoned then
      match ← ask (.getTransaction hash) with
      | some .success => pure true
      | some .failed =>
        ask (.noteFailed orderId)
        pure false
      | _ =>
        let asleep ← ask .now
        ask (.sleepUntil (asleep + SETTLE_POLL_INTERVAL_MS))
        pollForTransaction orderId hash rounds
    else pure false

/-- What stands behind the calls of the library. -/
def hook (orderId startedAt : ℕ) : (call : LibraryCall) → Routine call.Answer
  | .request method => ask (.request method)
  | .signTransaction networkPassphrase => signTransaction orderId startedAt networkPassphrase
  | .sendTransaction hash => sendTransaction orderId hash
  | .pollForTransaction hash => pollForTransaction orderId hash (SETTLE_WAIT_MS / SETTLE_POLL_INTERVAL_MS + 1)

/-- One attempt; what it throws becomes a result. -/
def attempt (settle : Library) (orderId startedAt : ℕ) : Routine SettleAttemptResult := do
  if ← ask .getFacilitator then
    match ← settle.interpret (hook orderId startedAt) with
    | .ok result => pure result
    | .error errorReason => pure { success := false, errorReason := some (errorReason.getD "settle_threw") }
  else pure { success := false, errorReason := some "settle_threw" }

/-- Whether a first attempt may be followed by another. -/
def retryable (orderId : ℕ) (result : SettleAttemptResult) : Routine Bool := do
  let trace ← ask (.readTrace orderId)
  let now ← ask .now
  pure (!result.success && !trace.accepted && result.errorReason.any RETRYABLE_SETTLE_REASONS.contains &&
    decide (now + SETTLE_RETRY_MIN_REMAINING_MS ≤ trace.deadlineMs))

/-- The attempts of a settlement. There is one retry at most. -/
def attempts (settle : Library) (orderId : ℕ) : Routine Unit := do
  let startedAt ← ask (.begin orderId)
  let result ← attempt settle orderId startedAt
  if ← retryable orderId result then
    let now ← ask .now
    ask (.sleepUntil (now + SETTLE_RETRY_DELAY_MS))
    let result ← attempt settle orderId startedAt
    ask (.finish orderId result)
  else ask (.finish orderId result)

/-! ## The resolver -/

/-- What the chain knows of a list of envelopes. -/
inductive Lookup where
  | found (hash : Hash)
  | absent (readAll : Bool)
  deriving DecidableEq, Repr

def lookUp : List Hash → Bool → Routine Lookup
  | [], readAll => pure (.absent readAll)
  | hash :: hashes, readAll => do
    match ← ask (.getTransaction hash) with
    | some .success => pure (.found hash)
    | some _ => lookUp hashes readAll
    | none => lookUp hashes false

/-- The row that closes an open settlement of this age, if one may be written. -/
def conclusion (entry : OrderLedgerEntry) (age : ℕ) : Lookup → Option OrderLedgerEntry
  | .found hash =>
    some { entry with settlementStatus := .settled, settlementRef := some hash, settlementErrorReason := none }
  | .absent readAll =>
    if age < TX_EXPIRED_AFTER_MS then none
    else if entry.settlementAttemptTxs = [] then
      some { entry with
        settlementStatus := .unknown
        settlementErrorReason := some (entry.settlementErrorReason.getD "worker_stopped_before_signing") }
    else if readAll then
      some { entry with
        settlementStatus := .failed
        settlementErrorReason := some (entry.settlementErrorReason.getD "tx_expired_not_on_chain") }
    else if RESOLVER_GIVE_UP_MS ≤ age then
      some { entry with
        settlementStatus := .unknown
        settlementErrorReason := some (entry.settlementErrorReason.getD "chain_unreadable") }
    else none

def resolveOne (entry : OrderLedgerEntry) (age : ℕ) : Routine (Option OrderLedgerEntry) := do
  let lookup ← lookUp entry.settlementAttemptTxs true
  pure (conclusion entry age lookup)

/-- The pass over the listed markers. What throws ends the pass. -/
def resolveEach (now : ℕ) : List ℕ → Throwing Action Action.Answer Unit
  | [] => pure ()
  | name :: names => do
    match ← OptionT.mk (ask (.getMarker name)) with
    | none => resolveEach now names
    | some marker =>
      -- A marker from after the pass began has no age.
      let age := now - marker.createdAt
      if age < RESOLVER_MIN_AGE_MS then resolveEach now names
      else
        match ← OptionT.lift (resolveOne marker.entry age) with
        | none => resolveEach now names
        | some final =>
          if ← OptionT.lift (ask (.recordOrder final)) then
            OptionT.mk (ask (.deleteMarker name))
            resolveEach now names
          else resolveEach now names

def resolveOpenX402Settlements : Routine Unit := do
  let pass : Throwing Action Action.Answer Unit := do
    let listed ← OptionT.mk (ask .listMarkers)
    if listed = [] then pure ()
    else
      let now ← OptionT.lift (ask .now)
      resolveEach now listed
  let _ ← pass.run
  pure ()

/-! ## The parties -/

inductive Event where
  | tick (elapsed : ℕ)
  | applyTransaction (hash : Hash) (successful : Bool)
  deriving DecidableEq, Repr

/-- The clock and the chain. -/
def surroundings : List Event → Routine Unit
  | [] => pure ()
  | .tick elapsed :: events => do
    ask (.tick elapsed)
    surroundings events
  | .applyTransaction hash successful :: events => do
    ask (.applyTransaction hash successful)
    surroundings events

inductive Party where
  | idle
  | request
  | attempts (orderId : ℕ)
  | resolver
  | surroundings (events : List Event)
  deriving DecidableEq, Repr

/-- What a party does, with the library's work on the payment of each order. -/
def Party.program (settle : ℕ → Library) : Party → Routine Unit
  | .idle => pure ()
  | .request => settleAndRecordX402
  | .attempts orderId => X402.attempts (settle orderId) orderId
  | .resolver => resolveOpenX402Settlements
  | .surroundings events => X402.surroundings events

/-- Nothing has happened yet, and every party is about to begin. -/
def settling (settle : ℕ → Library) (parties : ℕ → Party) : settlementMachine.Config :=
  ⟨.start, fun tid => (parties tid).program settle⟩

end MppRouter.X402
