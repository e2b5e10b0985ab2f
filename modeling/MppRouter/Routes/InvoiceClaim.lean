import Mathlib
import MppRouter.Routes.Coupon

/-! # Guards in front of a payment

Every channel that makes the funder wallet pay an invoice passes these guards: the claim that one
channel holds on an invoice, the execution gate that lets one request through per link, the daily spend
ledger and the coupon side's reservation of funder balance.
-/

namespace MppRouter.Routes

/-! ## The cross-channel claim -/

inductive ClaimChannel where
  | upi | crypto
  deriving DecidableEq, Repr

/-- Who holds a claim: a UPI order, a Coinbase link, a Stripe order or a coupon. The texts the router
stores for these never coincide. -/
inductive ClaimRef where
  | upiOrder (orderId : String)
  | link (plId : String)
  | stripeOrder (orderId : String)
  | coupon (code : String)
  deriving DecidableEq, Repr

structure InvoiceClaim where
  channel : ClaimChannel
  ref : ClaimRef
  claimedAt : ℕ
  deriving DecidableEq, Repr

inductive InvoiceClaimResult where
  | ok (claim : InvoiceClaim) (created : Bool)
  | refused (holder : InvoiceClaim)
  deriving DecidableEq, Repr

def InvoiceClaimResult.isOk : InvoiceClaimResult → Bool
  | .ok _ _ => true
  | .refused _ => false

def claimAllows (holder : InvoiceClaim) (channel : ClaimChannel) (ref : ClaimRef) : Bool :=
  holder.channel = channel ∧ holder.ref = ref

/-- Claim an invoice; re-entrant for the same channel and ref. -/
def claimInvoiceKey (channel : ClaimChannel) (ref : ClaimRef) (now : ℕ) (current : Option InvoiceClaim) :
    InvoiceClaimResult × Option InvoiceClaim :=
  match current with
  | some holder =>
    if claimAllows holder channel ref then (.ok holder false, current) else (.refused holder, current)
  | none =>
    let claim := ⟨channel, ref, now⟩
    (.ok claim true, some claim)

/-- Release a claim held by exactly this channel and ref. -/
def releaseInvoiceClaim (channel : ClaimChannel) (ref : ClaimRef) (current : Option InvoiceClaim) :
    Bool × Option InvoiceClaim :=
  match current with
  | none => (false, none)
  | some holder => if claimAllows holder channel ref then (true, none) else (false, current)

/-! ## The execution gate -/

/-- A webhook event, or one attempt of a coupon. -/
inductive GateHolder where
  | event (eventId : String)
  | coupon (code : String) (attemptId : Uuid)
  deriving DecidableEq, Repr

structure ExecGate where
  holder : GateHolder
  at_ : ℕ
  rozoPaymentId : Option String := none
  deriving DecidableEq, Repr

/-- Take the gate of a link; not re-entrant. Answers with the holder that is in the way. -/
def acquireCoinbaseExecGate (holder : GateHolder) (rozoPaymentId : Option String) (now : ℕ)
    (current : Option ExecGate) : Option ExecGate × Option ExecGate :=
  match current with
  | some existing => (some existing, current)
  | none => (none, some ⟨holder, now, rozoPaymentId⟩)

/-- Release a gate held by exactly this holder. -/
def releaseCoinbaseExecGate (holder : GateHolder) (current : Option ExecGate) : Bool × Option ExecGate :=
  match current with
  | none => (false, none)
  | some existing => if existing.holder = holder then (true, none) else (false, current)

/-! ## The daily spend ledger -/

def dayMs : ℕ := 86400000

inductive DailySpendLedger where
  | stripe | coinbase
  deriving DecidableEq, Repr

/-- Reserve against the day's cap; answers with the spend before, or nothing when the cap is in the way. -/
def reserveDailySpend (cap : Option ℤ) (delta spent : ℤ) : Option ℤ × ℤ :=
  if cap.any (· < spent + delta) then (none, spent) else (some spent, spent + delta)

/-- Return reserved headroom, never below zero. -/
def releaseDailySpend (delta spent : ℤ) : ℤ := if spent - delta < 0 then 0 else spent - delta

/-! ## The coupon side's funder reservation -/

def reserveLeaseMs : ℕ := 10 * 60 * 1000

structure FundReservation where
  attemptId : Uuid
  amount : ℤ
  at_ : ℕ
  deriving DecidableEq, Repr

/-- Drop expired leases and reserve the invoice amount, when the balance covers all of it. -/
def tryReserveFunds (attemptId : Uuid) (invoiceAtomic balance : ℤ) (now : ℕ) (entries : List FundReservation) :
    Bool × List FundReservation :=
  let live := entries.filter fun entry => ¬ now - entry.at_ > reserveLeaseMs
  let couponReserved := (live.map FundReservation.amount).sum
  if balance - couponReserved < invoiceAtomic then (false, entries)
  else (true, ⟨attemptId, invoiceAtomic, now⟩ :: live.filter fun entry => entry.attemptId ≠ attemptId)

def releaseFunds (attemptId : Uuid) (entries : List FundReservation) : List FundReservation :=
  entries.filter fun entry => entry.attemptId ≠ attemptId

/-! ## Pay calls -/

/-- Who sends a pay-invoice call. -/
inductive PayCaller where
  | coupon (code : String) (attemptId : Uuid)
  deriving DecidableEq, Repr

structure PayCall where
  invoiceKey : String
  caller : PayCaller
  deriving DecidableEq, Repr

/-- What comes back from pay-invoice, as far as a caller reads it. -/
structure PayResult where
  ok : Bool
  status : ℕ
  /-- The executor's fail-closed switch refused before signing. -/
  disabled : Bool
  /-- The executor may have signed: transport error, 5xx or unreadable body. -/
  ambiguous : Bool
  /-- The body states `success: true`. -/
  success : Bool
  deriving DecidableEq, Repr

end MppRouter.Routes
