import MppRouter.Core.Recording
import MppRouter.Routes.ExistingOrder

/-! # Creating or reusing the order of a payment link

A call scans the slots of the link and hands out the live order, moves on to a free slot, or refuses. Between its
reads the upstream may change any order, other calls may create orders, and each request may fail. An order is
known by its slot: the upstream never frees one.
-/

namespace MppRouter.Routes.Orders

open Concurrent Function

/-! ## What a call asks for -/

structure ResolvedSource where
  chainId : String
  tokenSymbol : String
  shielded : Bool := false
  deriving DecidableEq, Repr

def requestedZecReceive (source : ResolvedSource) : ZecReceive := if source.shielded then .shielded else .transparent

/-- The coins whose payer gives a refund address. -/
def nativeRequiresRefundAddress (chainId tokenSymbol : String) : Bool :=
  chainId = "9133" && tokenSymbol.toUpper = "ZEC"

/-- Same coin, other pay-in mode. -/
def zecReceiveDiffers (rowSource : RowSource) (source : ResolvedSource) : Bool :=
  if rowSource.tokenSymbol ≠ some "ZEC" || source.tokenSymbol ≠ "ZEC" then false
  else rowSource.receive.getD .transparent ≠ requestedZecReceive source

/-- The source of the row is known and another one than asked for. -/
def sourceDiffers (rowSource : RowSource) (source : ResolvedSource) : Bool :=
  match rowSource.chainId with
  | none => false
  | some chainId =>
    chainId ≠ source.chainId || rowSource.tokenSymbol ≠ some source.tokenSymbol || zecReceiveDiffers rowSource source

/-- A request, once its link is priced. The prices and the refund address matter only as what they make of a row. -/
structure Request where
  source : ResolvedSource
  /-- The pay-in intent `stellar_payin_contracts`. -/
  payinIntent : Bool
  lightningRotateOutEnabled : Bool
  pendingPricingMatches : Row → Bool
  refundAddressMatches : Row → Bool

namespace Request

variable (request : Request)

def refundAddressCoin : Bool :=
  !request.source.shielded && nativeRequiresRefundAddress request.source.chainId request.source.tokenSymbol

def refundAddressReuseBlock (row : Row) : Bool :=
  request.refundAddressCoin && (readRowSource row).receive ≠ some .shielded && !request.refundAddressMatches row

/-- Why the source is not switched, where that is settled without asking the upstream. -/
def localRefusal (rowSource : RowSource) : Option String :=
  if zecReceiveDiffers rowSource request.source then some "zec_receive_mode_mismatch"
  else if request.refundAddressCoin ||
      nativeRequiresRefundAddress (rowSource.chainId.getD "") (rowSource.tokenSymbol.getD "") then
    some "native_not_rotatable"
  else if rowSource.chainId = some "lightning" && !request.lightningRotateOutEnabled then
    some "lightning_not_rotatable"
  else none

end Request

/-! ## The upstream -/

/-- An order that a call sets out to create, with those it is to stand in for. -/
structure Attempt where
  slot : Slot
  payinIntent : Bool
  replaced : List Slot
  superseded : Option Slot
  deriving DecidableEq, Repr

inductive CreateReply where
  | created (row : Row)
  /-- The upstream refuses the order id: its slot is taken. -/
  | conflict
  | failed
  deriving DecidableEq, Repr

inductive CheckoutReply where
  | rotated (row : Row)
  /-- Money already sits on the current address. -/
  | detected
  | refused (code : String) (message : Option String)
  deriving DecidableEq, Repr

/-- What a call answers. -/
inductive Answer where
  | payable (slot : Slot)
  /-- With the order that the refusal names, if it names one. -/
  | refused (status : ℕ) (code : String) (order : Option Slot)
  deriving DecidableEq, Repr

inductive Action where
  /-- The next answer to the lookups under way. -/
  | lookupOrder (waiting : List Slot)
  /-- The next answer to the re-reads under way. -/
  | refetchPaymentRow (waiting : List Slot)
  | scanVerdict (slot : Slot)
  | now
  | rotateExistingSource (slot : Slot) (source : ResolvedSource)
  /-- The expiry of the link and the cap of its coin. -/
  | checkLink
  | createOrder (attempt : Attempt)
  | answer (answer : Answer)
  /-- Time passes. -/
  | tick (elapsed : ℕ)
  /-- The upstream changes an order. -/
  | change (slot : Slot) (row : Row)
  deriving DecidableEq, Repr

/-- Where a read may fail, nothing stands for that. -/
abbrev Action.Answer : Action → Type
  | .lookupOrder waiting => { slot // slot ∈ waiting } × OrderLookup
  | .refetchPaymentRow waiting => { slot // slot ∈ waiting } × Option Row
  | .scanVerdict _ => Option ScanVerdict
  | .now => ℕ
  | .rotateExistingSource _ _ => CheckoutReply
  | .checkLink => Option String
  | .createOrder _ => CreateReply
  | .answer _ | .tick _ | .change _ _ => Unit

/-- What the code does not decide. -/
structure Choice where
  /-- Which of the requests under way is answered. -/
  which : ℕ := 0
  fault : Fault := .none
  /-- The status of a failed lookup. -/
  status : Option ℕ := none
  verdict : Option ScanVerdict := some .nothingFound
  /-- The row that a switch or a create leaves behind. -/
  row : Option Row := none
  detected : Bool := false
  code : String := ""
  message : Option String := none
  deriving DecidableEq, Repr

structure World where
  now : ℕ
  orders : Slot → Option Row

def World.put (world : World) (slot : Slot) (row : Row) : World :=
  { world with orders := update world.orders slot (some row) }

/-- One of the requests under way. -/
def pick (waiting : List Slot) (which : ℕ) : Option { slot // slot ∈ waiting } := waiting.attach[which]?

def Choice.refusal (choice : Choice) : CheckoutReply :=
  if choice.detected then .detected else .refused choice.code choice.message

def perform : (action : Action) → Choice → World → Option (action.Answer × World)
  | .lookupOrder waiting, choice, world =>
    (pick waiting choice.which).map fun slot =>
      ((slot, if choice.fault = .none then (world.orders slot).elim .missing .found else .error choice.status), world)
  | .refetchPaymentRow waiting, choice, world =>
    (pick waiting choice.which).map fun slot =>
      ((slot, if choice.fault = .none then world.orders slot else none), world)
  | .scanVerdict _, choice, world => some (choice.verdict, world)
  | .now, _, world => some (world.now, world)
  | .rotateExistingSource slot _, choice, world =>
    match choice.row with
    | none => some (choice.refusal, world)
    -- The switch is committed, whatever becomes of the answer.
    | some row => some (if choice.fault = .none then .rotated row else choice.refusal, world.put slot row)
  | .checkLink, choice, world => some (if choice.code = "" then none else some choice.code, world)
  | .createOrder attempt, choice, world =>
    match choice.fault, world.orders attempt.slot with
    | .failed, _ => some (.failed, world)
    | fault, some _ => some (if fault = .none then .conflict else .failed, world)
    | fault, none => choice.row.map fun row =>
      let row := { row with status := some REUSABLE_PAYMENT_STATUS }
      (if fault = .none then .created row else .failed, world.put attempt.slot row)
  | .answer _, _, world => some ((), world)
  | .tick elapsed, _, world => some ((), { world with now := world.now + elapsed })
  | .change slot row, _, world => (world.orders slot).map fun _ => ((), world.put slot row)

abbrev orderMachine : Machine where
  Action := Action
  Answer := Action.Answer
  Choice := Choice
  World := World
  perform _ := perform

abbrev Flow := Prog Action Action.Answer

def ask (action : Action) : Flow action.Answer := Prog.call action

/-! ## The scan -/

/-- Parallel lookups, answered in any order. -/
def lookupAll : ℕ → List Slot → (Slot → OrderLookup) → Flow (Slot → OrderLookup)
  | 0, _, scanned => pure scanned
  | pending + 1, waiting, scanned => do
    let (slot, result) ← ask (.lookupOrder waiting)
    lookupAll pending (waiting.erase slot) (update scanned slot result)

def lookupOrder (slot : Slot) : Flow OrderLookup := do
  let (_, result) ← ask (.lookupOrder [slot])
  pure result

def refetchPaymentRow (slot : Slot) : Flow (Option Row) := do
  let (_, row) ← ask (.refetchPaymentRow [slot])
  pure row

/-- What the scan of a link found, and when it was judged. -/
structure Scan where
  allIds : List Slot
  scanned : Slot → OrderLookup
  now : ℕ

/-- The base order exists and is no longer live. -/
def baseOver (now : ℕ) (base : OrderLookup) : Bool := base.row.any fun row => !isLive now row

/-- The re-order slots can only be taken once the base order has expired, so they are read only then. -/
def scanSlots : Flow Scan := do
  let first ← lookupAll firstIds.length firstIds fun _ => .error none
  let now ← ask .now
  if baseOver now (first .base) then
    let scanned ← lookupAll retryOrderIds.length retryOrderIds first
    let later ← ask .now
    pure ⟨firstIds ++ retryOrderIds, scanned, later⟩
  else pure ⟨firstIds, first, now⟩

namespace Scan

variable (scan : Scan)

def failedLookup : Bool := scan.allIds.any fun slot => (scan.scanned slot).failed

def entry (slot : Slot) : OrderSlotEntry :=
  let row := (scan.scanned slot).row
  { slot := slot, row := row, live := row.any (isLive scan.now) }

def entries : List OrderSlotEntry := scan.allIds.map scan.entry

end Scan

/-! ## The choice of a slot -/

def inFlight (entries : List OrderSlotEntry) : Option OrderSlotEntry :=
  entries.find? fun entry => entry.row.any (!·.calm)

/-- Later slots of one family are newer: the newest is the last match. -/
def newestLive (entries : List OrderSlotEntry) (wanted : Slot → Row → Bool) : Option (Slot × Row) :=
  entries.reverse.findSome? fun entry =>
    entry.row.bind fun row => if entry.live && wanted entry.slot row then some (entry.slot, row) else none

def liveContract (entries : List OrderSlotEntry) : Option (Slot × Row) := newestLive entries fun _ row => isContractRow row

def liveClassic (entries : List OrderSlotEntry) : Option (Slot × Row) :=
  newestLive entries fun slot row => !isContractRow row && !slot.isContract

/-- The orders of the link that are no longer live. -/
def previousRows (entries : List OrderSlotEntry) : List (Slot × Row) :=
  entries.filterMap fun entry => if entry.live then none else entry.row.map fun row => (entry.slot, row)

def firstFree (candidates : List OrderSlotEntry) : Option Slot :=
  (candidates.find? fun entry => entry.row.isNone).map OrderSlotEntry.slot

inductive Plan where
  | reuse (slot : Slot) (existing : Row)
  | supersede (classic variant : Slot)
  | create (slot : Slot) (previous : List (Slot × Row))
  | refuse (code : String) (newest : Option Slot)
  deriving DecidableEq, Repr

def newestOrder (entries : List OrderSlotEntry) : Option Slot :=
  (entries.reverse.find? fun entry => entry.row.isSome).map OrderSlotEntry.slot

/-- A fresh order in the first free slot, with no live order. -/
def freshCreate (entries candidates : List OrderSlotEntry) : Plan :=
  match firstFree candidates with
  | none =>
    if (previousRows entries).isEmpty then .refuse "LINK_USED_OR_EXPIRED" none
    else .refuse "PAYMENT_EXPIRED" (newestOrder entries)
  | some slot => .create slot (previousRows entries)

def choosePlan (payinIntent : Bool) (entries : List OrderSlotEntry) : Plan :=
  if payinIntent then
    match liveContract entries, liveClassic entries with
    | some (slot, row), _ => .reuse slot row
    | none, some (classic, _) =>
      match firstFree (entries.filter (·.slot.isContract)) with
      | none => .refuse "LINK_USED_OR_EXPIRED" none
      | some variant => .supersede classic variant
    -- The slots that a call without intent goes through come first, so that the two collide on one slot.
    | none, none => freshCreate entries (entries.filter (·.slot = .base) ++ entries.filter (·.slot.isRetry) ++
        entries.filter (·.slot.isContract))
  else
    match (liveClassic entries).or (liveContract entries) with
    | some (slot, row) => .reuse slot row
    | none => freshCreate entries (entries.filter (!·.slot.isContract))

/-! ## The guard of a re-order -/

def checkPreviousOrderUnfunded (now : ℕ) (slot : Slot) (row : Row) : Flow (Option RelinkBlock) :=
  if (rowFundingEvidence row).isSome then pure (some ⟨.previousOrderFunded, slot⟩)
  -- The custody ledger is the authority for such an order, and it reports nothing received.
  else if zecQuoteExpiredUnfunded now row then pure none
  else if row.status ≠ some PAYMENT_EXPIRED then pure (some ⟨.previousOrderNotClosed, slot⟩)
  else do
    let verdict ← ask (.scanVerdict slot)
    pure ((blockedBy verdict).map fun reason => ⟨reason, slot⟩)

/-- One verdict for each earlier order. -/
def checkPreviousOrdersUnfunded (now : ℕ) : List (Slot × Row) → Flow (List (Option RelinkBlock))
  | [] => pure []
  | (slot, row) :: rows => do
    let block ← checkPreviousOrderUnfunded now slot row
    let blocks ← checkPreviousOrdersUnfunded now rows
    pure (block :: blocks)

def orderLookupFailed : Answer := .refused 502 "INTENTS_API_FAILED" none

def orderAlreadyActive (slot : Slot) : Answer := .refused 409 "ORDER_ALREADY_ACTIVE" (some slot)

def relinkRefusal (block : RelinkBlock) : Answer :=
  if block.reason = .previousOrderFunded ∨ block.reason = .previousOrderFundsFound then orderAlreadyActive block.slot
  else .refused 409 "PAYMENT_EXPIRED" (some block.slot)

/-! ## Reuse -/

/-- Statuses that refuse any further payment: money is in flight or settled. -/
def TERMINAL_ROTATION_REFUSAL_STATUSES : List String :=
  ["payment_started", "payment_payin_completed", "payment_bridging", "payment_payout_started", "payment_payout_review",
    "payment_payout_completed", "payment_completed"]

/-- What the status gate of a switch says of an order. -/
def statusRefusal (status : String) : String :=
  "Payment status is \"" ++ status ++ "\". Only payment_unpaid can be re-targeted."

/-- The status that a refused switch proves, if it is in flight or settled. -/
def terminalRotationRefusalStatus (code : String) (message : Option String) : Option String :=
  if code ≠ "checkoutNotAllowed" then none
  else TERMINAL_ROTATION_REFUSAL_STATUSES.find? fun status => message = some (statusRefusal status)

/-- The status after the switch of an order to the requested source, if it can be told, or a refusal. -/
def postRotationStatus (request : Request) (slot : Slot) (existing : Row) : Flow (Except Answer (Option String)) :=
  if !sourceDiffers (readRowSource existing) request.source then pure (.ok (some REUSABLE_PAYMENT_STATUS))
  else if (request.localRefusal (readRowSource existing)).isSome then do
    -- The upstream was not asked to switch: an unknown status keeps the view of the scan.
    let row ← refetchPaymentRow slot
    pure (.ok (row.bind Row.status))
  else do
    match ← ask (.rotateExistingSource slot request.source) with
    | .rotated row => pure (.ok row.status)
    | .detected => pure (.error (.refused 409 "PAYMENT_DETECTED" (some slot)))
    | .refused code message =>
      match terminalRotationRefusalStatus code message with
      -- The status gate refuses before anything is written.
      | some status => pure (.ok (some status))
      | none => do
        match ← refetchPaymentRow slot with
        | none => pure (.error orderLookupFailed)
        | some row => pure (if row.chainId.isNone then .error orderLookupFailed else .ok row.status)

def reuseOrder (request : Request) (slot : Slot) (existing : Row) : Flow Answer :=
  if !request.pendingPricingMatches existing then pure (.refused 409 "LEGACY_PRICING_ORDER_PENDING" (some slot))
  else if request.refundAddressReuseBlock existing then pure (.refused 409 "REFUND_ADDRESS_MISMATCH" (some slot))
  else do
    match ← postRotationStatus request slot existing with
    | .error refusal => pure refusal
    | .ok status => pure (if status.any (· ≠ REUSABLE_PAYMENT_STATUS) then orderAlreadyActive slot else .payable slot)

/-! ## Create -/

/-- Parallel re-reads, answered in any order. -/
def refetchAll : ℕ → List Slot → (Slot → Option Row) → Flow (Slot → Option Row)
  | 0, _, rows => pure rows
  | pending + 1, waiting, rows => do
    let (slot, row) ← ask (.refetchPaymentRow waiting)
    refetchAll pending (waiting.erase slot) (update rows slot row)

/-- A replaced order is no longer closed unpaid. -/
def revived (now : ℕ) (row : Row) : Bool := row.status ≠ some PAYMENT_EXPIRED && !zecQuoteExpiredUnfunded now row

/-- Re-read the orders that a new one replaces, before it is handed out. -/
def replacedRowsBlock : List Slot → Flow (Option Answer)
  | [] => pure none
  | replaced => do
    let rows ← refetchAll replaced.length replaced fun _ => none
    let now ← ask .now
    pure (
      if replaced.any fun slot => ((rows slot).bind Row.status).isNone then some orderLookupFailed
      else (replaced.find? fun slot => (rows slot).any (revived now)).map orderAlreadyActive)

/-- Re-read the order that a new one supersedes, before it is handed out; an unknown status passes. -/
def supersededBlock : Option Slot → Flow (Option Answer)
  | none => pure none
  | some classic => do
    let row ← refetchPaymentRow classic
    pure (if (row.bind Row.status).any (· ≠ REUSABLE_PAYMENT_STATUS) then some (orderAlreadyActive classic) else none)

/-- The order of a call that was faster may be handed out. -/
def winnerValid (now : ℕ) (winner : Row) : Bool :=
  winner.expiresAt.any (now < ·) && winner.status = some REUSABLE_PAYMENT_STATUS && !zecQuoteExpiredUnfunded now winner

def linkSpent : Answer := .refused 409 "LINK_USED_OR_EXPIRED" none

/-- The order of the call that took the slot first. -/
def handOutWinner (request : Request) (attempt : Attempt) (winner : Row) : Flow Answer := do
  match ← replacedRowsBlock attempt.replaced with
  | some blocked => pure blocked
  | none => pure (
    if request.payinIntent && !isContractRow winner then .refused 409 "ORDER_CREATE_CONFLICT" none
    else if !request.pendingPricingMatches winner then .refused 409 "LEGACY_PRICING_ORDER_PENDING" (some attempt.slot)
    else if request.refundAddressReuseBlock winner then .refused 409 "REFUND_ADDRESS_MISMATCH" (some attempt.slot)
    else .payable attempt.slot)

/-- The slot was taken between the scan and the create. -/
def lostRace (request : Request) (attempt : Attempt) : Flow Answer := do
  match ← supersededBlock attempt.superseded with
  | some blocked => pure blocked
  | none => do
    let winner ← lookupOrder attempt.slot
    let now ← ask .now
    match winner with
    | .found row => if winnerValid now row then handOutWinner request attempt row else pure linkSpent
    | _ => pure linkSpent

def createOrder (request : Request) (attempt : Attempt) : Flow Answer := do
  match ← ask .checkLink with
  | some code => pure (.refused 400 code none)
  | none => do
    match ← ask (.createOrder attempt) with
    | .failed => pure (.refused 502 "INTENTS_API_FAILED" none)
    | .conflict => lostRace request attempt
    | .created _ => do
      match ← replacedRowsBlock attempt.replaced with
      | some blocked => pure blocked
      | none => do
        match ← supersededBlock attempt.superseded with
        | some blocked => pure blocked
        | none => pure (.payable attempt.slot)

/-! ## The call -/

def carryOut (request : Request) (now : ℕ) : Plan → Flow Answer
  | .refuse code newest => pure (.refused 409 code newest)
  | .reuse slot existing => reuseOrder request slot existing
  | .supersede classic variant => createOrder request ⟨variant, request.payinIntent, [], some classic⟩
  | .create slot previous => do
    let blocks ← checkPreviousOrdersUnfunded now previous
    match worst blocks with
    | some block => pure (relinkRefusal block)
    | none => createOrder request ⟨slot, request.payinIntent, previous.map Prod.fst, none⟩

def respond (request : Request) : Flow Answer := do
  let scan ← scanSlots
  if scan.failedLookup then pure orderLookupFailed
  else
    match inFlight scan.entries with
    | some entry => pure (orderAlreadyActive entry.slot)
    | none => carryOut request scan.now (choosePlan request.payinIntent scan.entries)

def handleCreateInvoice (request : Request) : Flow Unit := do
  let answer ← respond request
  ask (.answer answer)

/-! ## All parties -/

inductive Happening where
  | tick (elapsed : ℕ)
  | change (slot : Slot) (row : Row)
  deriving DecidableEq, Repr

/-- What time and the upstream do. -/
def surroundings : List Happening → Flow Unit
  | [] => pure ()
  | .tick elapsed :: events => do
    ask (.tick elapsed)
    surroundings events
  | .change slot row :: events => do
    ask (.change slot row)
    surroundings events

inductive Party where
  | idle
  | caller (request : Request)
  | surroundings (events : List Happening)

def Party.program : Party → Flow Unit
  | .idle => pure ()
  | .caller request => handleCreateInvoice request
  | .surroundings events => Orders.surroundings events

/-- The slots of the link hold anything, and every party is about to begin. -/
def invoicing (world : World) (parties : ℕ → Party) : orderMachine.Config :=
  ⟨world, fun tid => (parties tid).program⟩

end MppRouter.Routes.Orders
