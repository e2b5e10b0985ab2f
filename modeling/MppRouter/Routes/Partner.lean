import MppRouter.Routes.Router

/-! # Partner operations

Top-ups, coupon issuance, the reconcile pass and voids, as the sequences of commits they are. An
operation that throws answers with the error; one that dies stops between two commits.
-/

namespace MppRouter.Routes

/-! ## The single balance mutator -/

/-- The record when a sibling holds the key, or what the commit did. -/
structure ApplyResult where
  partner : Option PartnerRecord
  entry : Option LedgerEntry
  deriving DecidableEq, Repr

/-- The caller's own request moved the balance. -/
def ApplyResult.applied (result : ApplyResult) : Bool := result.entry.isSome

structure LedgerInput where
  kind : LedgerKind
  deltaAtomic : ℤ
  ref : Option String
  sourceAddress : Option String := none
  operator : Option String := none
  entryId : Uuid
  idempotencyKey : LedgerKey
  couponCode : Option String := none
  deriving DecidableEq, Repr

def LedgerInput.draft (input : LedgerInput) (partnerId : String) (now : ℕ) : LedgerEntry :=
  { id := input.entryId, partnerId, at_ := now, kind := input.kind, deltaAtomic := input.deltaAtomic
    balanceAfterAtomic := none, ref := input.ref, sourceAddress := input.sourceAddress, operator := input.operator }

/-- Fill in the balance after the commit. -/
def backfillBody (entry : Option LedgerEntry) : Route Unit :=
  match entry with
  | some settled => onPartner (.writeBody settled false)
  | none => pure ()

/-- Claim the key, write the entry's body, commit the balance, fill the body in, settle the claim. -/
def applyLedger (partnerId : String) (input : LedgerInput) (mutate : Mutate) :
    Route (Except PartnerError ApplyResult) := do
  if ← onPartner (.claimIdem partnerId input.idempotencyKey) then
    let now ← onEnv .now
    let draft := input.draft partnerId now
    onPartner (.writeBody draft true)
    match ← onPartner (.commit partnerId ⟨draft, input.idempotencyKey, input.couponCode⟩ mutate) with
    | .error failure => pure (.error failure)
    | .ok (partner, entry) =>
      backfillBody entry
      let result := entry.map fun _ => input.entryId
      onPartner (.settleIdem partnerId input.idempotencyKey result input.couponCode)
      pure (.ok ⟨some partner, entry⟩)
  else
    let partner ← onPartner (.read partnerId)
    pure (.ok ⟨partner, none⟩)

/-! ## Top-up -/

def getOrCreatePartnerByEmail (email : String) : Route PartnerRecord := do
  let candidateId ← onEnv .randomText
  let ownerId ← onPartner (.claimEmail email candidateId)
  onPartner (.createPartner ownerId email)

structure TopupInput where
  email : String
  amountAtomic : ℤ
  proof : String
  sourceAddress : Option String := none
  operator : Option String := none
  deriving DecidableEq, Repr

def topupPartner (input : TopupInput) : Route (Except PartnerError ApplyResult) := do
  if input.amountAtomic ≤ 0 then pure (.error .insufficientBalance)
  else
    let partner ← getOrCreatePartnerByEmail input.email
    let entryId ← onEnv .randomUuid
    applyLedger partner.id
      { kind := .topup, deltaAtomic := input.amountAtomic, ref := some input.proof
        sourceAddress := input.sourceAddress, operator := some (input.operator.getD "admin"), entryId
        idempotencyKey := .topup input.proof } .nothing

/-! ## Refunds of a pending issue -/

/-- Give the money back for an op whose coupon does not exist and never can. -/
def refundPendingIssue (partnerId : String) (opId : Uuid) (reason : String) :
    Route (Except PartnerError Unit) := do
  let partner ← onPartner (.read partnerId)
  match partner.bind fun partner => partner.pendingIssues.find? fun issue => issue.opId = opId with
  | none => pure (.ok ())
  | some issue =>
    let entryId ← onEnv .randomUuid
    let applied ← applyLedger partnerId
      { kind := .voidRefund, deltaAtomic := issue.amountAtomic
        ref := some (issue.code ++ " (" ++ reason ++ ")"), entryId, idempotencyKey := .issueRefund opId }
      (.dropIssue opId)
    match applied with
    | .error failure => pure (.error failure)
    | .ok _ => pure (.ok ())

/-- Undo an idempotency claim, so that a fresh attempt under the same key may proceed. -/
def releaseIdempotency (partnerId : String) (key : LedgerKey) : Route Unit := do
  onPartner (.releaseIdem partnerId key)
  onPartner (.removeApplied partnerId key)

/-! ## Refunds of a void -/

/-- Credit the refund, keyed on the coupon's own `refundOpId`. True when the coupon carries it. -/
def settlePendingRefundById (partnerId code : String) (refundOpId : Uuid) :
    Route (Except PartnerError Bool) := do
  match ← onCoupon (.read code) with
  | none => pure (.ok false)
  | some record =>
    if record.refundOpId ≠ some refundOpId then pure (.ok false)
    else
      let entryId ← onEnv .randomUuid
      let partner ← onPartner (.read partnerId)
      let pending := partner.bind fun partner => partner.pendingRefunds.find? fun refund => refund.code = code
      let applied ← applyLedger partnerId
        { kind := (pending.map PendingRefund.kind).getD .voidRefund, deltaAtomic := record.amountAtomic
          ref := some code, entryId, idempotencyKey := .refund refundOpId } (.dropRefund code)
      match applied with
      | .error failure => pure (.error failure)
      | .ok result =>
        onCoupon (.stampRefund code refundOpId entryId result.applied)
        pure (.ok true)

/-- Finish or drop one breadcrumb. -/
def settlePendingRefund (partnerId : String) (pending : PendingRefund) : Route (Except PartnerError Unit) := do
  let record ← onCoupon (.read pending.code)
  match record.bind fun record => if record.status = .void then record.refundOpId else none with
  | some refundOpId =>
    match ← settlePendingRefundById partnerId pending.code refundOpId with
    | .error failure => pure (.error failure)
    | .ok _ => pure (.ok ())
  | none =>
    onPartner (.dropPendingRefund partnerId pending.code)
    pure (.ok ())

/-! ## Reconcile -/

def indexEntryOf (record : CouponRecord) : CouponIndexEntry :=
  ⟨record.code, record.amountAtomic, none, record.issuedAt, record.expiresAt⟩

/-- A dead coupon that keeps a code from ever being created. -/
def tombstoneFor (partnerId : String) (issue : PendingIssue) (now : ℕ) : CouponRecord :=
  { code := issue.code, amountAtomic := issue.amountAtomic, status := .void, issuedAt := now, expiresAt := now
    failureReason := some "abandoned issue — tombstoned by reconcile", events := [⟨.tombstoned, now⟩]
    partnerId := some partnerId, issueLedgerId := some issue.opId, tombstone := true
    tombstoneOpId := some issue.opId }

/-- The coupon record is the one this op was to create. -/
def CouponRecord.issuedBy (record : CouponRecord) (partnerId : String) (opId : Uuid) : Bool :=
  record.partnerId = some partnerId ∧ record.issueLedgerId = some opId

/-- Repair one abandoned issue. -/
def reconcileIssue (partnerId : String) (now : ℕ) (issue : PendingIssue) : Route (Except PartnerError Unit) := do
  let confirm (record : CouponRecord) : Route (Except PartnerError Unit) := do
    let _ ← onPartner (.confirmPendingIssue partnerId issue.opId (indexEntryOf record))
    pure (.ok ())
  match ← onCoupon (.read issue.code) with
  | some record =>
    if record.tombstone then refundPendingIssue partnerId issue.opId "tombstoned"
    else if record.issuedBy partnerId issue.opId then confirm record
    else refundPendingIssue partnerId issue.opId "code_collision"
  | none =>
    -- the key looks empty: claim it before refunding
    if ← onCoupon (.create (tombstoneFor partnerId issue now)) then
      refundPendingIssue partnerId issue.opId "abandoned"
    else
      match ← onCoupon (.read issue.code) with
      | some record =>
        if record.tombstone then refundPendingIssue partnerId issue.opId "tombstoned_by_peer"
        else if record.issuedBy partnerId issue.opId then confirm record
        else pure (.ok ())
      | none => pure (.ok ())

def reconcileIssues (partnerId : String) (now : ℕ) : List PendingIssue → Route (Except PartnerError Unit)
  | [] => pure (.ok ())
  | issue :: rest => do
    if now - issue.at_ < pendingStaleMs then reconcileIssues partnerId now rest
    else
      match ← reconcileIssue partnerId now issue with
      | .error failure => pure (.error failure)
      | .ok _ => reconcileIssues partnerId now rest

def reconcileRefunds (partnerId : String) : List PendingRefund → Route (Except PartnerError Unit)
  | [] => pure (.ok ())
  | pending :: rest => do
    match ← settlePendingRefund partnerId pending with
    | .error failure => pure (.error failure)
    | .ok _ => reconcileRefunds partnerId rest

def reconcilePending (partnerId : String) : Route (Except PartnerError Unit) := do
  match ← onPartner (.read partnerId) with
  | none => pure (.ok ())
  | some partner =>
    let now ← onEnv .now
    match ← reconcileIssues partnerId now partner.pendingIssues with
    | .error failure => pure (.error failure)
    | .ok _ => reconcileRefunds partnerId partner.pendingRefunds

/-! ## Issue -/

structure IssueResult where
  code : String
  expiresAt : ℕ
  balanceAfterAtomic : ℤ
  reused : Bool
  deriving DecidableEq, Repr

/-- The key was consumed, but its coupon is gone: let a fresh attempt proceed unless an issue is open. -/
def releaseUnused (partnerId clientKey : String) (inFlight : Option PendingIssue) : Route Unit :=
  if inFlight.isNone then releaseIdempotency partnerId (.issue clientKey) else pure ()

/-- Replay of a client key that was consumed: the same coupon, no money moves. -/
def findIssuedByClientKey (partnerId clientKey : String) : Route (Option IssueResult) := do
  match ← onPartner (.read partnerId) with
  | none => pure none
  | some partner =>
    let durable ← onPartner (.readIdem partnerId (.issue clientKey))
    let done := durable.bind fun claim => if claim.state = .done then claim.c else none
    let applied := (partner.applied.find? fun applied => applied.k = .issue clientKey).bind AppliedKey.c
    let inFlight := partner.pendingIssues.find? fun issue => issue.clientKey = clientKey
    match (done.or applied).or (inFlight.map PendingIssue.code) with
    | none => pure none
    | some code =>
      let record ← onCoupon (.read code)
      match record.filter fun record => ¬ record.tombstone ∧ record.partnerId = some partnerId with
      | some record => pure (some ⟨record.code, record.expiresAt, partner.balanceAtomic, true⟩)
      | none => do
        releaseUnused partnerId clientKey inFlight
        pure none

structure IssueArgs where
  partnerId : String
  amountAtomic : ℤ
  credits : Option String := none
  expiresInMinutes : ℕ
  note : Option String := none
  clientKey : String
  deriving DecidableEq, Repr

def issuedRecord (args : IssueArgs) (code : String) (opId : Uuid) (now : ℕ) : CouponRecord :=
  { code, amountAtomic := args.amountAtomic, status := .issued, issuedAt := now
    expiresAt := now + args.expiresInMinutes * 60000, paymentProof := args.note, events := [⟨.issued, now⟩]
    partnerId := some args.partnerId, issueLedgerId := some opId }

/-- Debit, then create; a code that is taken is refunded and drawn again. -/
def issueAttempts (args : IssueArgs) : ℕ → Route (Except PartnerError IssueResult)
  | 0 => pure (.error .codeAllocationFailed)
  | attempts + 1 => do
    let opId ← onEnv .randomUuid
    let code ← onEnv .randomText
    let entryId ← onEnv .randomUuid
    let debit ← applyLedger args.partnerId
      { kind := .issueHold, deltaAtomic := -args.amountAtomic, ref := some code, entryId
        idempotencyKey := .issue args.clientKey, couponCode := some code }
      (.recordIssue opId args.clientKey code args.amountAtomic)
    match debit with
    | .error failure => pure (.error failure)
    | .ok debit =>
      if ¬ debit.applied then
        match ← findIssuedByClientKey args.partnerId args.clientKey with
        | some settled => pure (.ok settled)
        | none => pure (.error .issueInFlight)
      else
        let now ← onEnv .now
        let record := issuedRecord args code opId now
        if ← onCoupon (.create record) then
          let after ← onPartner (.confirmPendingIssue args.partnerId opId
            ⟨code, args.amountAtomic, args.credits, record.issuedAt, record.expiresAt⟩)
          let balance := ((after.or debit.partner).map PartnerRecord.balanceAtomic).getD 0
          pure (.ok ⟨code, record.expiresAt, balance, false⟩)
        else
          match ← refundPendingIssue args.partnerId opId "code_collision" with
          | .error failure => pure (.error failure)
          | .ok _ =>
            releaseIdempotency args.partnerId (.issue args.clientKey)
            issueAttempts args attempts

def issuePartnerCoupon (args : IssueArgs) : Route (Except PartnerError IssueResult) := do
  if args.amountAtomic ≤ 0 then pure (.error .invalidAmount)
  else
    match ← reconcilePending args.partnerId with
    | .error failure => pure (.error failure)
    | .ok _ =>
      match ← findIssuedByClientKey args.partnerId args.clientKey with
      | some existing => pure (.ok existing)
      | none => issueAttempts args 10

/-! ## Void -/

structure VoidArgs where
  partnerId : String
  code : String
  kind : LedgerKind := .voidRefund
  deriving DecidableEq, Repr

/-- Settle the credit a previous void has authorised. -/
def settleOwed (partnerId code : String) (owed : Option Uuid) : Route (Except PartnerError Bool) :=
  match owed with
  | some refundOpId => settlePendingRefundById partnerId code refundOpId
  | none => pure (.ok false)

/-- Cancel an unused coupon and return its face value. -/
def voidPartnerCoupon (args : VoidArgs) : Route (Except PartnerError Unit) := do
  let refundOpId ← onEnv .randomUuid
  match ← onCoupon (.read args.code) with
  | none => pure (.error .couponNotFound)
  | some current =>
    if current.tombstone then pure (.error .couponNotFound)
    else if current.partnerId ≠ some args.partnerId then pure (.error .notYourCoupon)
    else
      let intent ← onPartner
        (.recordPendingRefund args.partnerId refundOpId args.code current.amountAtomic args.kind)
      match intent with
      | .error failure => pure (.error failure)
      | .ok _ =>
        match ← onCoupon (.voidIssued args.code args.partnerId refundOpId) with
        | .ok _ =>
          match ← settlePendingRefundById args.partnerId args.code refundOpId with
          | .error failure => pure (.error failure)
          | .ok settled => pure (if settled then .ok () else .error (.couponNotRefundable none))
        | .refused reason owed =>
          match ← settleOwed args.partnerId args.code owed with
          | .error failure => pure (.error failure)
          | .ok true => pure (.ok ())
          | .ok false => do
            onPartner (.dropPendingRefund args.partnerId args.code)
            pure (.error (.couponNotRefundable (some reason)))

/-! ## Operators -/

structure AdminIssueArgs where
  amountAtomic : ℤ
  expiresInMinutes : ℕ
  paymentProof : Option String := none
  deriving DecidableEq, Repr

/-- `POST /admin/coupon/issue` after its checks: create-if-absent, drawing a new code when one is taken. -/
def issueCoupon (args : AdminIssueArgs) (now : ℕ) : ℕ → Route (Option String)
  | 0 => pure none
  | attempts + 1 => do
    let code ← onEnv .randomText
    let record : CouponRecord :=
      { code, amountAtomic := args.amountAtomic, status := .issued, issuedAt := now
        expiresAt := now + args.expiresInMinutes * 60000, paymentProof := args.paymentProof
        events := [⟨.issued, now⟩] }
    if ← onCoupon (.create record) then pure (some code) else issueCoupon args now attempts

def handleIssueCoupon (args : AdminIssueArgs) : Route (Option String) := do
  let now ← onEnv .now
  issueCoupon args now 10

end MppRouter.Routes
