import MppRouter.Core.Performs
import MppRouter.Routes.StripeFulfillment

/-! # Manual reviews closed from the chain

Stripe's relayer pulls the invoice amount from the funder a few blocks after the payout, and the chain keeps that
after Stripe has forgotten the session. A sweep looks for the pull of each record in manual review: a settlement
transaction that pay-invoice reported is verified, otherwise the only pull in the payout's window is taken, once every
other record of the same amount in the sweep's snapshot is accounted for.
-/

namespace MppRouter.Routes.Stripe.Onchain

open Concurrent Mpp Function

/-! ## The chain -/

/-- A transfer of USDC, as its transaction logs it. -/
structure Transfer where
  logIndex : ℕ
  sender : String
  receiver : String
  amount : ℕ
  deriving DecidableEq, Repr

/-- A transaction in a block. Hashes and addresses are in lower case. -/
structure Transaction where
  hash : String
  block : ℕ
  success : Bool
  sender : String
  target : String
  transfers : List Transfer
  deriving DecidableEq, Repr

structure Log where
  hash : String
  block : ℕ
  transfer : Transfer
  deriving DecidableEq, Repr

def Transaction.logs (tx : Transaction) : List Log := tx.transfers.map fun transfer => ⟨tx.hash, tx.block, transfer⟩

def isHexDigit (c : Char) : Bool := ('0' ≤ c && c ≤ '9') || ('a' ≤ c && c ≤ 'f') || ('A' ≤ c && c ≤ 'F')

def isTxHash (text : String) : Bool :=
  match text.toList with
  | '0' :: 'x' :: digits => digits.length == 64 && digits.all isHexDigit
  | _ => false

def toLowerCase (text : String) : String := String.ofList (text.toList.map Char.toLower)

def STRIPE_RELAYER : String := "0x75d22dd531d9bfd3da6293eb5ddac8f351f21240"
def STRIPE_PAYIN_CONTRACT : String := "0x7cf479c72cec073b3759aed9aa00508dea2e480e"
def STRIPE_PULL_WINDOW_BLOCKS : ℕ := 300
def STRIPE_PULL_CHUNK_BLOCKS : ℕ := 50
def SIBLING_PAYOUT_TOLERANCE_BPS : ℕ := 200
def SIBLING_LOOKBACK_BLOCKS : ℕ := 1800

def Transaction.relayed (tx : Transaction) : Bool := tx.sender = STRIPE_RELAYER && tx.target = STRIPE_PAYIN_CONTRACT

/-- What a payout's receipt says of the funder. -/
structure Payout where
  funder : String
  start : ℕ
  index : ℕ
  amount : ℕ
  deriving DecidableEq, Repr

/-- The funder is whoever the payout delivered USDC to, if that is one account. -/
def payoutOf (receipt : Transaction) : Option Payout :=
  if !receipt.success then none
  else match (receipt.transfers.map Transfer.receiver).dedup with
    | [funder] =>
      some { funder, start := receipt.block
             index := (receipt.transfers.map Transfer.logIndex).foldl max 0
             amount := (receipt.transfers.map Transfer.amount).sum }
    | _ => none

/-- The block ranges of a search. -/
def chunks (first last : ℕ) : List (ℕ × ℕ) :=
  (List.range ((last - first) / STRIPE_PULL_CHUNK_BLOCKS + 1)).map fun i =>
    (first + i * STRIPE_PULL_CHUNK_BLOCKS, min (first + i * STRIPE_PULL_CHUNK_BLOCKS + STRIPE_PULL_CHUNK_BLOCKS - 1) last)

/-- A log shows another payout of about the same size. -/
def Payout.resembles (payout : Payout) (payoutTxHash : String) (log : Log) : Bool :=
  log.hash ≠ payoutTxHash &&
    decide (max log.transfer.amount payout.amount - min log.transfer.amount payout.amount ≤
      payout.amount * SIBLING_PAYOUT_TOLERANCE_BPS / 10000)

/-- A log that may show the pull: the exact amount, after the payout. -/
def Payout.shows (payout : Payout) (amount : ℕ) (log : Log) : Bool :=
  decide (log.transfer.amount = amount) && isTxHash log.hash &&
    !(decide (log.block = payout.start) && decide (log.transfer.logIndex ≤ payout.index))

/-! ## The records -/

/-- What the sweeps write into a record. -/
structure Marks where
  onchainCheckAt : Option ℕ := none
  onchainCheckVersion : Option ℕ := none
  onchainVerifiedPull : Option String := none
  deriving DecidableEq, Repr

/-- A record as a sweep read it. -/
structure Scanned where
  record : StripeFulfillmentRecord
  marks : Marks
  deriving DecidableEq, Repr

/-- A locked amount that can be looked for. -/
def parseInvoiceAtomic : Option LockedAmount → Option ℕ
  | some (.integer value) => if 0 < value ∧ value < 10 ^ 30 then some value.toNat else none
  | _ => none

/-- The settlement tx that a provider answer names. -/
def settlementTx (result : Option ProviderResult) : Option String :=
  ((result.bind ProviderResult.blockchainTxId).filter isTxHash).map toLowerCase

/-- The settlement tx pay-invoice reported for this session, if the record stored one. -/
def boundSettlementTx (record : StripeFulfillmentRecord) : Option String := settlementTx record.providerResult

inductive Uncheckable where
  | notManualReview | noRozoPayment | noAmount
  deriving DecidableEq, Repr

def onchainUncheckableReason (record : StripeFulfillmentRecord) : Option Uncheckable :=
  if record.status ≠ .manualReview then some .notManualReview
  else if !present record.rozoPaymentId then some .noRozoPayment
  else if (parseInvoiceAtomic record.invoiceAmountAtomic).isNone then some .noAmount
  else none

/-- No payout reached the funder, or the provider refused the invoice for good. -/
def SIBLING_CANNOT_PULL : List StripeRouterStatus :=
  [.rozoPaymentCreated, .payinSeen, .failedInvoiceChanged, .failedInvoiceExpired, .claimedByOtherChannel]
def SIBLING_CHECK_MAX : ℕ := 8
def ONCHAIN_SWEEP_MAX : ℕ := 5
def ONCHAIN_RECHECK_MS : ℕ := 24 * 60 * 60 * 1000
def ONCHAIN_CHECK_VERSION : ℕ := 2
def ONCHAIN_RESOLVED_BY : String := "cron:stripe-relayer-pull"

/-- The records of the exact same amount that could have produced a pull. -/
def siblings (record : StripeFulfillmentRecord) (amount : ℕ) (all : List Scanned) : List Scanned :=
  all.filter fun other => other.record.invoiceKey ≠ record.invoiceKey &&
    parseInvoiceAtomic other.record.invoiceAmountAtomic = some amount && other.record.status ∉ SIBLING_CANNOT_PULL

/-! ## The world -/

/-- What a record was moved to paid on. -/
inductive Evidence where
  /-- The transaction that pay-invoice reported. -/
  | session
  /-- The only pull in the window, with these records accounted for. -/
  | exclusion (all : List Scanned)
  deriving DecidableEq, Repr

/-- A record that a sweep moved to paid. -/
structure Attribution where
  invoiceKey : String
  txHash : String
  evidence : Evidence
  deriving DecidableEq, Repr

structure World where
  stripe : Stripe.World
  marks : String → Marks
  /-- The keys that the store lists. -/
  keys : List String
  /-- Oldest first. -/
  chain : List Transaction
  /-- The payout transaction of a payment. -/
  payouts : String → Option String
  /-- How many snapshots were taken, and the first one that found a record in manual review. -/
  scans : ℕ
  parked : String → Option ℕ
  attributions : List Attribution

namespace World

variable (world : World)

abbrev records : String → Option StripeFulfillmentRecord := world.stripe.records

def find (hash : String) : Option Transaction := world.chain.find? fun tx => tx.hash = toLowerCase hash

def logsBetween (first last : ℕ) (keep : Transfer → Bool) : List Log :=
  ((world.chain.filter fun tx => first ≤ tx.block && tx.block ≤ last).flatMap Transaction.logs).filter fun log =>
    keep log.transfer

def scanned (invoiceKey : String) : Option Scanned :=
  (world.records invoiceKey).map fun record => ⟨record, world.marks invoiceKey⟩

/-- Write the marks of a record, which is made where it is missing. -/
def mark (invoiceKey : String) (marks : Marks) : World :=
  { world with
    stripe := { world.stripe with
      records := update world.stripe.records invoiceKey
        (some ((world.records invoiceKey).getD (emptyStripeRecord invoiceKey))) }
    marks := update world.marks invoiceKey marks
    keys := world.keys.insert invoiceKey }

/-- Claim the throttle of a check. -/
def stampOnchainCheck (invoiceKey : String) (now : ℕ) : Bool × World :=
  let record := (world.records invoiceKey).getD (emptyStripeRecord invoiceKey)
  let marks := world.marks invoiceKey
  if record.status ≠ .manualReview then (false, world)
  else if marks.onchainCheckVersion = some ONCHAIN_CHECK_VERSION ∧
      (marks.onchainCheckAt.any fun last => decide ((now : ℤ) - last < ONCHAIN_RECHECK_MS)) then (false, world)
  else (true, world.mark invoiceKey
    { marks with onchainCheckAt := some now, onchainCheckVersion := some ONCHAIN_CHECK_VERSION })

/-- The first match stays. -/
def rememberVerifiedPull (invoiceKey txHash : String) : World :=
  let marks := world.marks invoiceKey
  if present marks.onchainVerifiedPull then world
  else world.mark invoiceKey { marks with onchainVerifiedPull := some (toLowerCase txHash) }

end World

inductive Action where
  /-- Whatever else the router does with the records. -/
  | router (action : Stripe.Action)
  | scan
  | load (invoiceKey : String)
  | stampOnchainCheck (invoiceKey : String) (now : ℕ)
  | rememberVerifiedPull (invoiceKey txHash : String)
  | resolve (invoiceKey txHash : String) (evidence : Evidence) (now : ℕ)
  | fetchPayment (rozoId : String)
  | getTransactionReceipt (hash : String)
  | getTransactionByHash (hash : String)
  | getLogs (first last : ℕ) (incoming : Bool) (funder : String)
  /-- The chain grows. -/
  | mine (tx : Transaction)
  /-- A payment is paid out by a transaction. -/
  | payOut (rozoId txHash : String)
  deriving DecidableEq

/-- Where an operation may throw, nothing stands for that. -/
@[reducible] def Action.Answer : Action → Type
  | .router action => action.Answer
  | .scan => Option (List Scanned)
  | .load _ => Option (Option Scanned)
  | .stampOnchainCheck _ _ => Option Bool
  | .rememberVerifiedPull _ _ => Option Unit
  | .resolve _ _ _ _ => Option ManualResolveOutcome
  | .fetchPayment _ => Option String
  | .getTransactionReceipt _ | .getTransactionByHash _ => Option (Option Transaction)
  | .getLogs _ _ _ _ => Option (List Log)
  | .mine _ | .payOut _ _ => Unit

/-- What the record keeps of how it was closed. -/
def resolutionOf (txHash : String) (evidence : Evidence) (now : ℕ) : ManualResolution where
  resolution := .paid
  evidence := match evidence with
    | .session => "pay-invoice reported settlement tx for this session; verified on Base"
    | .exclusion _ => "Stripe relayer pulled the exact invoice amount from the funder on Base after the intents payout"
  txHash := some txHash
  resolvedBy := ONCHAIN_RESOLVED_BY
  at_ := now

/-- Move a record out of manual review on a pull. -/
def World.resolve (world : World) (invoiceKey txHash : String) (evidence : Evidence) (now : ℕ) :
    ManualResolveOutcome × World :=
  let current := (world.records invoiceKey).getD (emptyStripeRecord invoiceKey)
  let decision := resolveManualReview (resolutionOf txHash evidence now) current
  (decision.result,
    { world with
      stripe := { world.stripe with
        records := update world.stripe.records invoiceKey (decision.after (world.records invoiceKey)) }
      keys := world.keys.insert invoiceKey
      attributions := match decision.result with
        | .resolved _ _ => ⟨invoiceKey, txHash, evidence⟩ :: world.attributions
        | _ => world.attributions })

/-- The snapshot of all records, and the note of what it finds parked. -/
def World.scan (world : World) (keys : List String) : List Scanned × World :=
  (keys.dedup.filterMap world.scanned,
    { world with
      scans := world.scans + 1
      parked := fun key => match world.parked key with
        | some number => some number
        | none => if ((world.records key).bind onchainUncheckableReason).isNone ∧ (world.records key).isSome then
            some (world.scans + 1) else none })

/-- The keys of the records an action of the router may make. -/
def touched : Stripe.Action → List String → List String
  | .record invoiceKey _, keys => keys.insert invoiceKey
  | _, keys => keys

def perform (tid : ℕ) : (action : Action) → Choice → World → Option (action.Answer × World)
  | .router action, choice, world =>
    let (answer, stripe) := Stripe.perform tid action choice world.stripe
    some (answer, { world with stripe, keys := touched action world.keys })
  | .scan, choice, world =>
    -- The store lists every record.
    if ∀ key ∈ world.keys, key ∈ choice.keys then some (choice.fault.apply (World.scan · choice.keys) world) else none
  | .load invoiceKey, choice, world =>
    some (choice.fault.answered (world.scanned invoiceKey), world)
  | .stampOnchainCheck invoiceKey now, choice, world =>
    some (choice.fault.apply (World.stampOnchainCheck · invoiceKey now) world)
  | .rememberVerifiedPull invoiceKey txHash, choice, world =>
    some (choice.fault.apply (fun world => ((), world.rememberVerifiedPull invoiceKey txHash)) world)
  | .resolve invoiceKey txHash evidence now, choice, world =>
    some (choice.fault.apply (World.resolve · invoiceKey txHash evidence now) world)
  | .fetchPayment rozoId, choice, world => some (if choice.fault = .none then world.payouts rozoId else none, world)
  | .getTransactionReceipt hash, choice, world | .getTransactionByHash hash, choice, world =>
    some (choice.fault.answered (world.find hash), world)
  | .getLogs first last incoming funder, choice, world =>
    some (choice.fault.answered (world.logsBetween first last fun transfer =>
      decide ((if incoming then transfer.receiver else transfer.sender) = funder)), world)
  | .mine tx, _, world =>
    -- A transaction is mined once, and a failed one moves nothing.
    if toLowerCase tx.hash = tx.hash ∧ (world.find tx.hash).isNone ∧ (tx.success ∨ tx.transfers = []) then
      some ((), { world with chain := world.chain ++ [tx] })
    else none
  | .payOut rozoId txHash, _, world =>
    if (world.payouts rozoId).isNone then
      some ((), { world with payouts := update world.payouts rozoId (some txHash) })
    else none

abbrev onchainMachine : Machine :=
  ⟨Action, Action.Answer, Choice, World, perform⟩

/-- Code that may throw. -/
abbrev Sweep (α : Type) := Throwing Action Action.Answer α

def onStore (invoiceKey : String) : Sweep (Option Scanned) := OptionT.mk (Prog.call (Action.load invoiceKey))

def getTransactionReceipt (hash : String) : Sweep (Option Transaction) :=
  OptionT.mk (Prog.call (Action.getTransactionReceipt hash))

def getTransactionByHash (hash : String) : Sweep (Option Transaction) :=
  OptionT.mk (Prog.call (Action.getTransactionByHash hash))

def getLogs (first last : ℕ) (incoming : Bool) (funder : String) : Sweep (List Log) :=
  OptionT.mk (Prog.call (Action.getLogs first last incoming funder))

/-- The payout transaction of a payment; it never throws. -/
def fetchRozoPaymentForSettle (rozoId : String) : Sweep (Option String) :=
  OptionT.lift (Prog.call (Action.fetchPayment rozoId))

/-! ## Reading the chain -/

/-- Another payout to the funder was about as large, so that the pull could be its own. -/
def crowded (payoutTxHash : String) (payout : Payout) : List (ℕ × ℕ) → Sweep Bool
  | [] => pure false
  | (first, last) :: rest => do
    let logs ← getLogs first last true payout.funder
    if logs.any (payout.resembles (toLowerCase payoutTxHash)) then pure true else crowded payoutTxHash payout rest

/-- Keep the transactions of the relayer among the logs. -/
def collectLogs (payout : Payout) (amount : ℕ) : List Log → List String → Sweep (List String)
  | [], pulls => pure pulls
  | log :: logs, pulls => do
    if log.hash ∈ pulls ∨ ¬payout.shows amount log then collectLogs payout amount logs pulls
    else
      let tx ← getTransactionByHash log.hash
      if tx.any Transaction.relayed then collectLogs payout amount logs (pulls ++ [log.hash])
      else collectLogs payout amount logs pulls

def collectPulls (payout : Payout) (amount : ℕ) : List (ℕ × ℕ) → List String → Sweep (List String)
  | [], pulls => pure pulls
  | (first, last) :: rest, pulls => do
    let logs ← getLogs first last false payout.funder
    let pulls ← collectLogs payout amount logs pulls
    collectPulls payout amount rest pulls

/-- The only pull in the window, if there is one. -/
def theOnly : List String → Option String
  | [pull] => some pull
  | _ => none

def searchPull (payoutTxHash : String) (amount : ℕ) : Sweep (Option String) := do
  if amount = 0 ∨ !isTxHash payoutTxHash then pure none
  else
    let receipt ← getTransactionReceipt payoutTxHash
    match receipt.bind payoutOf with
    | none => pure none
    | some payout =>
      let last := payout.start + STRIPE_PULL_WINDOW_BLOCKS
      if ← crowded payoutTxHash payout (chunks (payout.start - SIBLING_LOOKBACK_BLOCKS) last) then pure none
      else
        let pulls ← collectPulls payout amount (chunks payout.start last) []
        pure (theOnly pulls)

/-- Nothing is found where anything could not be read. -/
def findStripeRelayerPull (payoutTxHash : String) (amount : ℕ) : Sweep (Option String) := do
  let found ← Throwing.attempt (searchPull payoutTxHash amount)
  pure found.join

/-- The receipt moves exactly the amount out of the funder, after the payout. -/
def pullsFrom (payout : Payout) (amount : ℕ) (pull : Transaction) : Bool :=
  match pull.transfers.filter fun transfer => transfer.sender = payout.funder ∧ transfer.amount = amount with
  | [moved] => pull.success && decide (payout.start ≤ pull.block) &&
      !(decide (pull.block = payout.start) && decide (moved.logIndex ≤ payout.index))
  | _ => false

def checkPull (pullTxHash payoutTxHash : String) (amount : ℕ) : Sweep Bool := do
  if amount = 0 ∨ !isTxHash pullTxHash ∨ !isTxHash payoutTxHash then pure false
  else if toLowerCase pullTxHash = toLowerCase payoutTxHash then pure false
  else
    let receipt ← getTransactionReceipt payoutTxHash
    match receipt.bind payoutOf with
    | none => pure false
    | some payout =>
      let tx ← getTransactionByHash pullTxHash
      if !tx.any Transaction.relayed then pure false
      else
        let pull ← getTransactionReceipt pullTxHash
        pure (pull.any (pullsFrom payout amount))

def verifyStripeRelayerPull (pullTxHash payoutTxHash : String) (amount : ℕ) : Sweep Bool := do
  let verified ← Throwing.attempt (checkPull pullTxHash payoutTxHash amount)
  pure (verified.getD false)

/-! ## Attribution -/

/-- Best effort: without the mark the record is simply verified again. -/
def rememberVerifiedPull (invoiceKey txHash : String) : Sweep Unit := do
  let _ ← Throwing.attempt (OptionT.mk (Prog.call (Action.rememberVerifiedPull invoiceKey txHash)) : Sweep Unit)
  pure ()

/-- The pull of another record: its bound transaction where that verifies, or the only one in its window. -/
def pullOf (bound : Option String) (payoutTx : String) (amount : ℕ) : Sweep (Option String) := do
  let verified ← match bound with
    | some tx => verifyStripeRelayerPull tx payoutTx amount
    | none => pure false
  if verified then pure bound else findStripeRelayerPull payoutTx amount

/-- Account for each record in turn, as long as few of them need the chain. -/
def accountFor (pull : String) (pullBlock amount : ℕ) : List Scanned → ℕ → Sweep Bool
  | [], _ => pure true
  | other :: rest, reads =>
    if present other.marks.onchainVerifiedPull then
      if other.marks.onchainVerifiedPull.map toLowerCase = some (toLowerCase pull) then pure false
      else accountFor pull pullBlock amount rest reads
    else if SIBLING_CHECK_MAX < reads + 1 then pure false
    else if boundSettlementTx other.record = some (toLowerCase pull) then pure false
    else if !present other.record.rozoPaymentId then pure false
    else do
      match ← fetchRozoPaymentForSettle (other.record.rozoPaymentId.getD "") with
      | none => pure false
      | some payoutTx =>
        match ← getTransactionReceipt payoutTx with
        | none => pure false
        | some payout =>
          -- Paid out after the pull, it cannot be its owner.
          if pullBlock < payout.block then accountFor pull pullBlock amount rest (reads + 1)
          else
            match ← pullOf (boundSettlementTx other.record) payoutTx amount with
            | none => pure false
            | some theirs =>
              if toLowerCase theirs = toLowerCase pull then pure false
              else
                rememberVerifiedPull other.record.invoiceKey theirs
                accountFor pull pullBlock amount rest (reads + 1)

def siblingsAccountedFor (record : StripeFulfillmentRecord) (pull : String) (all : List Scanned) : Sweep Bool := do
  match parseInvoiceAtomic record.invoiceAmountAtomic with
  | none => pure false
  | some amount =>
    match ← getTransactionReceipt pull with
    | none => pure false
    | some receipt => accountFor pull receipt.block amount (siblings record amount all) 0

/-- What the chain says of a record, and on which evidence. -/
def evidenceFor (record : StripeFulfillmentRecord) (payoutTx : String) (all : List Scanned) :
    Sweep (Option (String × Evidence)) := do
  let amount := (parseInvoiceAtomic record.invoiceAmountAtomic).getD 0
  match boundSettlementTx record with
  | some bound =>
    if ← verifyStripeRelayerPull bound payoutTx amount then pure (some (bound, .session)) else pure none
  | none =>
    match ← findStripeRelayerPull payoutTx amount with
    | none => pure none
    | some pull =>
      if ← siblingsAccountedFor record pull all then pure (some (pull, .exclusion all)) else pure none

/-- Move the record to paid through the path of a human resolution. -/
def resolveFromChain (invoiceKey txHash : String) (evidence : Evidence) (now : ℕ) : Sweep Unit := do
  match ← onStore invoiceKey with
  | none => pure ()
  | some _ =>
    let _ ← (OptionT.mk (Prog.call (Action.resolve invoiceKey txHash evidence now)) : Sweep ManualResolveOutcome)
    pure ()

def settleManualReviewFromChain (invoiceKey : String) (now : ℕ) (all : List Scanned) : Sweep Unit := do
  match ← onStore invoiceKey with
  | none => pure ()
  | some scanned =>
    let record := scanned.record
    if (onchainUncheckableReason record).isSome then pure ()
    else if ← (OptionT.mk (Prog.call (Action.stampOnchainCheck invoiceKey now)) : Sweep Bool) then
      match ← fetchRozoPaymentForSettle (record.rozoPaymentId.getD "") with
      | none => pure ()
      | some payoutTx =>
        match ← evidenceFor record payoutTx all with
        | none => pure ()
        | some (txHash, evidence) =>
          rememberVerifiedPull invoiceKey txHash
          resolveFromChain invoiceKey txHash evidence now
    else pure ()

/-- Least recently checked first, as many as a run may check. -/
def parkedRecords (all : List Scanned) : List Scanned :=
  ((all.filter fun scanned => (onchainUncheckableReason scanned.record).isNone).insertionSort fun a b =>
    a.marks.onchainCheckAt.getD 0 ≤ b.marks.onchainCheckAt.getD 0).take ONCHAIN_SWEEP_MAX

/-- Go on with the next record, whatever becomes of this one. -/
def settleEach (now : ℕ) (all : List Scanned) : List Scanned → Sweep Unit
  | [] => pure ()
  | scanned :: rest => do
    let _ ← Throwing.attempt (settleManualReviewFromChain scanned.record.invoiceKey now all)
    settleEach now all rest

def sweepManualReviewOnchain (now : ℕ) : Sweep Unit := do
  match ← Throwing.attempt (OptionT.mk (Prog.call Action.scan) : Sweep (List Scanned)) with
  | none => pure ()
  | some all => settleEach now all (parkedRecords all)

/-! ## The parties -/

inductive ChainEvent where
  | mine (tx : Transaction)
  | payOut (rozoId txHash : String)
  deriving DecidableEq, Repr

/-- The chain, and the payments it pays out. -/
def history : List ChainEvent → Prog Action Action.Answer Unit
  | [] => pure ()
  | .mine tx :: events => do
    Prog.call (Action.mine tx)
    history events
  | .payOut rozoId txHash :: events => do
    Prog.call (Action.payOut rozoId txHash)
    history events

inductive Party where
  /-- A request to the router, or another of its crons. -/
  | router (request : Request)
  | sweep (now : ℕ)
  | chain (events : List ChainEvent)

def Party.program : Party → Prog Action Action.Answer Unit
  | .router request => request.serve.embed Action.router fun _ => id
  | .sweep now => do
    let _ ← (sweepManualReviewOnchain now).run
    pure ()
  | .chain events => history events

/-- The world before the first request, under the given caps. -/
def World.fresh (caps : DailySpendLedger → Option ℤ) : World where
  stripe := .fresh caps
  marks _ := {}
  keys := []
  chain := []
  payouts _ := none
  scans := 0
  parked _ := none
  attributions := []

def reviewing (caps : DailySpendLedger → Option ℤ) (parties : ℕ → Party) : onchainMachine.Config :=
  ⟨.fresh caps, fun tid => (parties tid).program⟩

/-- No pull is the evidence for two records. -/
def World.OneToOne (world : World) : Prop :=
  ∀ first ∈ world.attributions, ∀ second ∈ world.attributions,
    first.txHash = second.txHash → first.invoiceKey = second.invoiceKey

end MppRouter.Routes.Stripe.Onchain
