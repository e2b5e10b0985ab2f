import MppRouter.Routes.Coupon

/-! # The partner ledger

A partner record holds a balance, the unsettled operations that may still move it and the idempotency
keys applied to it lately. The functions below are the updates of its keys: the record, one durable
claim per idempotency key, and one body per ledger entry.
-/

namespace MppRouter.Routes

open Mpp

/-- An operation that sat unconfirmed this long counts as abandoned. -/
def pendingStaleMs : ℕ := 60000

def maxPendingOps : ℕ := 50
def maxCouponIndex : ℕ := 200
def maxLedgerIndex : ℕ := 500
/-- Idempotency keys remembered on a partner record; older ones fall off. -/
def maxIdemKeys : ℕ := 200

inductive LedgerKind where
  | topup | issueHold | voidRefund | expireRefund
  deriving DecidableEq, Repr

/-- Idempotency keys: `topup:`, `issue:`, `issue_refund:` and `refund:` with what follows. -/
inductive LedgerKey where
  | topup (proof : String)
  | issue (clientKey : String)
  | issueRefund (opId : Uuid)
  | refund (refundOpId : Uuid)
  deriving DecidableEq, Repr

structure LedgerEntry where
  id : Uuid
  partnerId : String
  at_ : ℕ
  kind : LedgerKind
  deltaAtomic : ℤ
  /-- Null only between the body write and the balance commit. -/
  balanceAfterAtomic : Option ℤ
  ref : Option String
  sourceAddress : Option String
  operator : Option String
  deriving DecidableEq, Repr

/-- A debited issue whose coupon may or may not exist yet. -/
structure PendingIssue where
  opId : Uuid
  clientKey : String
  code : String
  amountAtomic : ℤ
  at_ : ℕ
  deriving DecidableEq, Repr

structure PendingRefund where
  refundOpId : Uuid
  code : String
  amountAtomic : ℤ
  kind : LedgerKind
  at_ : ℕ
  deriving DecidableEq, Repr

structure CouponIndexEntry where
  code : String
  amountAtomic : ℤ
  credits : Option String
  issuedAt : ℕ
  expiresAt : ℕ
  deriving DecidableEq, Repr

inductive PartnerStatus where
  | active | suspended
  deriving DecidableEq, Repr

/-- An applied idempotency key: the entry it produced and, for an issue, the coupon code. -/
structure AppliedKey where
  k : LedgerKey
  e : Uuid
  c : Option String
  deriving DecidableEq, Repr

structure PartnerRecord where
  id : String
  email : String
  status : PartnerStatus := .active
  balanceAtomic : ℤ := 0
  createdAt : ℕ
  pendingIssues : List PendingIssue := []
  pendingRefunds : List PendingRefund := []
  couponIndex : List CouponIndexEntry := []
  ledgerIndex : List Uuid := []
  applied : List AppliedKey := []
  deriving DecidableEq, Repr

inductive IdemState where
  | pending | done | released
  deriving DecidableEq, Repr

/-- The durable record of one idempotency key. -/
structure IdemClaim where
  state : IdemState
  at_ : ℕ
  e : Option Uuid := none
  c : Option String := none
  deriving DecidableEq, Repr

inductive PartnerError where
  | partnerNotFound | partnerSuspended | insufficientBalance | couponNotFound
  | couponNotRefundable (reason : Option VoidRefusal)
  | notYourCoupon | codeAllocationFailed | tooManyPending | issueInFlight | invalidAmount
  deriving DecidableEq, Repr

def pushBounded {α : Type} (items : List α) (item : α) (max : ℕ) : List α := (item :: items).take max

/-! ## The idempotency claim -/

/-- Take the key: it is ours unless it is done, or a sibling holds it and is not stale. -/
def claimIdem (now : ℕ) (current : Option IdemClaim) : Decision IdemClaim Bool :=
  match current with
  | some prev =>
    if prev.state = .done ∨ (prev.state = .pending ∧ now - prev.at_ < pendingStaleMs) then .noop false
    else .set ⟨.pending, now, none, none⟩ true
  | none => .set ⟨.pending, now, none, none⟩ true

/-- Settle the claim; only the request that applied the mutation records a result. -/
def settleIdem (now : ℕ) (entry : Option Uuid) (couponCode : Option String) (current : Option IdemClaim) :
    Decision IdemClaim Unit :=
  if (current.map IdemClaim.state) = some .done then .noop ()
  else match entry with
    | none => .noop ()
    | some entry => .set ⟨.done, now, some entry, couponCode⟩ ()

/-- First half of `releaseIdempotency`: unconditional, also from `done`. -/
def releaseIdem (now : ℕ) (_current : Option IdemClaim) : Decision IdemClaim Unit :=
  .set ⟨.released, now, none, none⟩ ()

/-- Second half of `releaseIdempotency`: forget the key on the partner record. -/
def removeApplied (key : LedgerKey) (current : Option PartnerRecord) : Decision PartnerRecord Unit :=
  match current with
  | none => .noop ()
  | some partner =>
    if partner.applied.any fun applied => applied.k = key then
      .set { partner with applied := partner.applied.eraseP fun applied => applied.k = key } ()
    else .noop ()

/-! ## The balance -/

/-- What a caller of `applyLedger` does to the record in the same commit. -/
inductive Mutate where
  | nothing
  | recordIssue (opId : Uuid) (clientKey code : String) (amountAtomic : ℤ)
  | dropIssue (opId : Uuid)
  | dropRefund (code : String)
  deriving DecidableEq, Repr

def Mutate.apply (now : ℕ) (partner : PartnerRecord) : Mutate → Except PartnerError PartnerRecord
  | .nothing => .ok partner
  | .recordIssue opId clientKey code amountAtomic =>
    if partner.status = .suspended then .error .partnerSuspended
    else if partner.pendingIssues.length ≥ maxPendingOps then .error .tooManyPending
    else .ok { partner with pendingIssues := ⟨opId, clientKey, code, amountAtomic, now⟩ :: partner.pendingIssues }
  | .dropIssue opId =>
    .ok { partner with pendingIssues := partner.pendingIssues.eraseP fun issue => issue.opId = opId }
  | .dropRefund code =>
    .ok { partner with pendingRefunds := partner.pendingRefunds.eraseP fun refund => refund.code = code }

/-- One ledger mutation: the entry as drafted, its idempotency key and the coupon it pays for. -/
structure LedgerMutation where
  draft : LedgerEntry
  idempotencyKey : LedgerKey
  couponCode : Option String := none
  deriving DecidableEq, Repr

/-- The only update that changes a balance. Answers with the record, and the entry when it was applied. -/
def commitLedger (mutation : LedgerMutation) (mutate : Mutate) (now : ℕ) (current : Option PartnerRecord) :
    Except PartnerError (Decision PartnerRecord (PartnerRecord × Option LedgerEntry)) :=
  match current with
  | none => .error .partnerNotFound
  | some partner =>
    if partner.applied.any fun applied => applied.k = mutation.idempotencyKey then .ok (.noop (partner, none))
    else
      let after := partner.balanceAtomic + mutation.draft.deltaAtomic
      if after < 0 then .error .insufficientBalance
      else
        let entry := { mutation.draft with balanceAfterAtomic := some after }
        let booked := { partner with
          balanceAtomic := after
          ledgerIndex := pushBounded partner.ledgerIndex mutation.draft.id maxLedgerIndex
          applied := pushBounded partner.applied
            ⟨mutation.idempotencyKey, mutation.draft.id, mutation.couponCode⟩ maxIdemKeys }
        match mutate.apply now booked with
        | .error failure => .error failure
        | .ok next => .ok (.set next (next, some entry))

/-! ## The unsettled operations -/

/-- The coupon of an issue exists: drop the operation and list the coupon. -/
def confirmPendingIssue (opId : Uuid) (indexEntry : CouponIndexEntry) (current : Option PartnerRecord) :
    Decision PartnerRecord (Option PartnerRecord) :=
  match current with
  | none => .noop none
  | some partner =>
    if partner.pendingIssues.any fun issue => issue.opId = opId then
      let listed := partner.couponIndex.any fun entry => entry.code = indexEntry.code
      let next := { partner with
        pendingIssues := partner.pendingIssues.eraseP fun issue => issue.opId = opId
        couponIndex := if listed then partner.couponIndex
          else pushBounded partner.couponIndex indexEntry maxCouponIndex }
      .set next (some next)
    else .noop (some partner)

/-- First step of a void: leave a breadcrumb on the partner record. -/
def recordPendingRefund (refundOpId : Uuid) (code : String) (amountAtomic : ℤ) (kind : LedgerKind) (now : ℕ)
    (current : Option PartnerRecord) : Except PartnerError (Decision PartnerRecord Unit) :=
  match current with
  | none => .error .partnerNotFound
  | some partner =>
    if partner.pendingRefunds.any fun refund => refund.code = code then .ok (.noop ())
    else if partner.pendingRefunds.length ≥ maxPendingOps then .error .tooManyPending
    else
      let refund := ⟨refundOpId, code, amountAtomic, kind, now⟩
      .ok (.set { partner with pendingRefunds := refund :: partner.pendingRefunds } ())

def dropPendingRefund (code : String) (current : Option PartnerRecord) : Decision PartnerRecord Unit :=
  match current with
  | none => .noop ()
  | some partner =>
    if partner.pendingRefunds.any fun refund => refund.code = code then
      .set { partner with pendingRefunds := partner.pendingRefunds.eraseP fun refund => refund.code = code } ()
    else .noop ()

/-! ## Accounts -/

/-- The first to claim an address owns it; everyone gets the owner's id. -/
def claimEmail (candidateId : String) (current : Option String) : Decision String String :=
  match current with
  | some owner => .noop owner
  | none => .set candidateId candidateId

def createPartner (id email : String) (now : ℕ) (current : Option PartnerRecord) :
    Decision PartnerRecord PartnerRecord :=
  match current with
  | some existing => .noop existing
  | none =>
    let fresh := { id, email, createdAt := now }
    .set fresh fresh

def setPartnerStatus (status : PartnerStatus) (current : Option PartnerRecord) :
    Decision PartnerRecord (Option PartnerRecord) :=
  match current with
  | none => .noop none
  | some partner =>
    if partner.status = status then .noop (some partner)
    else .set { partner with status } (some { partner with status })

end MppRouter.Routes
