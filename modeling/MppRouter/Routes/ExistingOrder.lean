import MppRouter.Core.Decimal

/-! # The orders a payment link already has

Every order of a link stands in one of a few slots: the base slot, the slots of its contract-mode variants, and
the slots of its re-orders. A row is live while it can still be paid, and an earlier order may be replaced only
when it is provably unfunded.
-/

namespace MppRouter.Routes.Orders

/-! ## Slots -/

inductive Slot where
  | base
  | contract (variant : Fin 3)
  | retry (variant : Fin 5)
  deriving DecidableEq, Repr

def Slot.suffix : Slot → String
  | .base => ""
  | .contract ⟨0, _⟩ => "__contract"
  | .contract ⟨variant + 1, _⟩ => s!"__contract{variant + 2}"
  | .retry ⟨variant, _⟩ => s!"__retry{variant + 2}"

/-- The order id under which the upstream files the slot of a link. -/
def Slot.orderId (linkId : String) (slot : Slot) : String := linkId ++ slot.suffix

def contractVariantIds : List Slot := [.contract 0, .contract 1, .contract 2]

def retryOrderIds : List Slot := [.retry 0, .retry 1, .retry 2, .retry 3, .retry 4]

/-- The slots that every call reads. -/
def firstIds : List Slot := .base :: contractVariantIds

def Slot.isContract : Slot → Bool
  | .contract _ => true
  | _ => false

def Slot.isRetry : Slot → Bool
  | .retry _ => true
  | _ => false

/-- Where a slot stands in the order in which a call goes through the free ones. -/
def Slot.rank : Slot → ℕ
  | .base => 0
  | .retry variant => variant + 1
  | .contract variant => variant + 6

/-! ## Rows -/

/-- The status that the custody ledger reports of a ZEC order. -/
structure ZecStatus where
  rail : String
  receive : Option String := none
  requiredConfirmations : ℕ
  requiredZat : Option String
  /-- In milliseconds, where it is a date. -/
  quoteExpiresAt : Option ℕ
  payinState : String
  receivedZat : String
  confirmations : ℕ
  deriving DecidableEq, Repr

/-- What a row records of money that moved. -/
structure Funding where
  sourceTxHash : Option String := none
  sourceSenderAddress : Option String := none
  sourceConfirmedAt : Option String := none
  /-- What `Number` makes of it: nothing when that is not finite. -/
  sourceAmountReceived : Option (Option Rat) := none
  sourceAltToken : Option String := none
  destinationTxHash : Option String := none
  destinationConfirmedAt : Option String := none
  refundStatus : Option String := none
  refundTxHash : Option String := none
  bounceCode : Option String := none
  amountMismatch : Option String := none
  customerNotice : Option String := none
  merchantNotifiedAt : Option String := none
  merchantDeliveredAt : Option String := none
  deriving DecidableEq, Repr

/-- A payment row, as the upstream answers it. -/
structure Row where
  status : Option String
  /-- In milliseconds, where it is a date. -/
  expiresAt : Option ℕ
  chainId : Option String := none
  tokenSymbol : Option String := none
  /-- Whether the source names a contract address to pay to. -/
  receiverAddressContract : Bool := false
  zec : Option ZecStatus := none
  metadataZecReceive : Option String := none
  funding : Funding := {}
  deriving DecidableEq, Repr

/-- The status of an order that still awaits payment. -/
def REUSABLE_PAYMENT_STATUS : String := "payment_unpaid"

def PAYMENT_EXPIRED : String := "payment_expired"

inductive ZecReceive where
  | shielded | transparent
  deriving DecidableEq, Repr

/-- The source that a row currently pays from. -/
structure RowSource where
  chainId : Option String
  tokenSymbol : Option String
  receive : Option ZecReceive
  deriving DecidableEq, Repr

def readRowSource (row : Row) : RowSource :=
  let symbol := row.tokenSymbol.map String.toUpper
  let rawReceive := (row.zec.bind ZecStatus.receive).or row.metadataZecReceive
  { chainId := row.chainId
    tokenSymbol := symbol
    receive := if symbol = some "ZEC" then some (if rawReceive = some "shielded" then .shielded else .transparent) else none }

/-- A contract pay-in order. -/
def isContractRow (row : Row) : Bool := row.receiverAddressContract

def nonEmpty (value : Option String) : Bool := value.any (· ≠ "")

def positiveAmount : Option (Option Rat) → Bool
  | none => false
  | some none => true
  | some (some amount) => 0 < amount

/-- The first funding evidence that a row records. -/
def rowFundingEvidence (row : Row) : Option String :=
  let checks : List (String × Bool) := [
    ("source.txHash", nonEmpty row.funding.sourceTxHash),
    ("source.senderAddress", nonEmpty row.funding.sourceSenderAddress),
    ("source.confirmedAt", nonEmpty row.funding.sourceConfirmedAt),
    ("source.amountReceived", positiveAmount row.funding.sourceAmountReceived),
    ("source.altToken", nonEmpty row.funding.sourceAltToken),
    ("destination.txHash", nonEmpty row.funding.destinationTxHash),
    ("destination.confirmedAt", nonEmpty row.funding.destinationConfirmedAt),
    ("refundStatus", nonEmpty row.funding.refundStatus && row.funding.refundStatus ≠ some "none"),
    ("refundTxHash", nonEmpty row.funding.refundTxHash),
    ("bounceCode", nonEmpty row.funding.bounceCode),
    ("amountMismatch", nonEmpty row.funding.amountMismatch),
    ("customerNotice", nonEmpty row.funding.customerNotice),
    ("merchantNotifiedAt", nonEmpty row.funding.merchantNotifiedAt),
    ("merchantDeliveredAt", nonEmpty row.funding.merchantDeliveredAt)]
  (checks.find? Prod.snd).map Prod.fst

/-- A ZEC custody order whose quote expired with nothing received. -/
def zecQuoteExpiredUnfunded (now : ℕ) (row : Row) : Bool :=
  row.status = some REUSABLE_PAYMENT_STATUS && row.chainId = some "9133" &&
    row.tokenSymbol.map String.toUpper = some "ZEC" &&
    row.zec.any (fun zec =>
      zec.rail = "zec_custody" && (zec.receive = none || zec.receive = some "shielded" || zec.receive = some "transparent") &&
        (zec.requiredConfirmations = 1 || zec.requiredConfirmations = 2) &&
        zec.requiredZat.any (fun text => text.length ≤ 20 && Decimal.isDigits text.toList) &&
        zec.payinState = "expired" && zec.receivedZat = "0" && zec.confirmations = 0 &&
        zec.quoteExpiresAt.any (· ≤ now)) &&
    (rowFundingEvidence row).isNone

/-- Still payable: not past its expiry, and not a ZEC order whose quote expired unfunded. -/
def isLive (now : ℕ) (row : Row) : Bool := row.expiresAt.any (now < ·) && !zecQuoteExpiredUnfunded now row

/-- Awaiting payment, closed unpaid, or without a status. Any other status means that money is moving. -/
def Row.calm (row : Row) : Bool :=
  row.status = none || row.status = some REUSABLE_PAYMENT_STATUS || row.status = some PAYMENT_EXPIRED

/-- The answer to a lookup of a slot. Only an explicit not found frees the slot. -/
inductive OrderLookup where
  | found (row : Row)
  | missing
  | error (status : Option ℕ)
  deriving DecidableEq, Repr

def OrderLookup.row : OrderLookup → Option Row
  | .found row => some row
  | _ => none

def OrderLookup.failed : OrderLookup → Bool
  | .error _ => true
  | _ => false

/-- One scanned slot, in the order of allocation. -/
structure OrderSlotEntry where
  slot : Slot
  row : Option Row
  live : Bool
  deriving DecidableEq, Repr

/-! ## Where the current order stands -/

inductive ExistingOrderState where
  | payable | funded | ended
  deriving DecidableEq, Repr

/-- Statuses that end an order with the money not kept, or never arrived. -/
def ENDED_STATUSES : List String := [PAYMENT_EXPIRED, "payment_refunded", "payment_bounced", "payment_failed"]

/-- Of those, the ones that end it after money moved and went back. -/
def RETURNED_STATUSES : List String := ["payment_refunded", "payment_bounced", "payment_failed"]

def classifyOrderState (now : ℕ) (row : Row) : ExistingOrderState :=
  if row.status.any (· ∈ RETURNED_STATUSES) then .ended
  else if (rowFundingEvidence row).isSome then .funded
  else if row.status = some REUSABLE_PAYMENT_STATUS then if isLive now row then .payable else .ended
  else if row.status.any (· ∈ ENDED_STATUSES) then .ended
  else .funded

/-- The scan of the read-only endpoint, its lookups answered at one time; nothing where one of them failed. -/
def scanOrderSlots (now : ℕ) (lookup : Slot → OrderLookup) : Option (List OrderSlotEntry) :=
  let ids := if (lookup .base).row.any (fun row => !isLive now row) then firstIds ++ retryOrderIds else firstIds
  if ids.any fun slot => (lookup slot).failed then none
  else some (ids.map fun slot =>
    { slot := slot, row := (lookup slot).row, live := (lookup slot).row.any (isLive now) })

/-- The order that a call without intent would block on or reuse: one past awaiting payment, the newest live classic
one, the newest live one in contract mode, the first one with funding evidence, or the newest. -/
def pickCurrentOrder (entries : List OrderSlotEntry) : Option (OrderSlotEntry × Row) :=
  let found := entries.filterMap fun entry => entry.row.map fun row => (entry, row)
  let inFlight := found.find? fun order =>
    order.2.status.any fun status => status ≠ REUSABLE_PAYMENT_STATUS && status ≠ PAYMENT_EXPIRED
  let newest (wanted : OrderSlotEntry × Row → Bool) := found.reverse.find? wanted
  let live := (newest fun order => order.1.live && !isContractRow order.2 && !order.1.slot.isContract).or
    (newest fun order => order.1.live && isContractRow order.2)
  let funded := found.find? fun order => (rowFundingEvidence order.2).isSome
  inFlight.or (live.or (funded.or found.getLast?))

inductive ExistingOrderResult where
  | found (slot : Slot) (row : Row) (state : ExistingOrderState)
  | none
  | unknown
  deriving DecidableEq, Repr

def findExistingOrder (now : ℕ) (lookup : Slot → OrderLookup) : ExistingOrderResult :=
  match scanOrderSlots now lookup with
  | .none => .unknown
  | some entries =>
    match pickCurrentOrder entries with
    | .none => .none
    | some (entry, row) => .found entry.slot row (classifyOrderState now row)

/-! ## The guard of a re-order -/

inductive RelinkBlockReason where
  | previousOrderNotClosed | previousOrderFunded | previousOrderFundsFound | previousOrderUnverifiable
  deriving DecidableEq, Repr

def RelinkBlockReason.rank : RelinkBlockReason → ℕ
  | .previousOrderFundsFound | .previousOrderFunded => 3
  | .previousOrderUnverifiable => 2
  | .previousOrderNotClosed => 1

/-- What the scan of an order's addresses says, if it is definitive. -/
inductive ScanVerdict where
  | nothingFound
  | statusChanged
  | other (verdict : String)
  deriving DecidableEq, Repr

def blockedBy : Option ScanVerdict → Option RelinkBlockReason
  | some .nothingFound => none
  | none => some .previousOrderUnverifiable
  | some .statusChanged => some .previousOrderNotClosed
  | some (.other _) => some .previousOrderFundsFound

/-- An earlier order that keeps the link from a new one. -/
structure RelinkBlock where
  reason : RelinkBlockReason
  slot : Slot
  deriving DecidableEq, Repr

/-- The block with the strongest reason, the first of the strongest. -/
def worst (blocks : List (Option RelinkBlock)) : Option RelinkBlock :=
  blocks.foldl (fun worst block => match worst, block with
    | worst, none => worst
    | none, some block => some block
    | some worst, some block => if worst.reason.rank < block.reason.rank then some block else some worst) none

end MppRouter.Routes.Orders
