import Mathlib.Data.List.AList
import MppRouter.Playground.Amount

/-! # The playground ledger

`PlaygroundLedger` is one Durable Object that holds all playground money. Requests to it are
serialised, so an operation is a function from the storage to its answer and the next storage. An
operation that throws rolls its transaction back. The storage prefixes are separate tables here,
and an atomic string is the integer that `parseAtomic` reads back from it.
-/

namespace MppRouter.Playground

/-- UTC day of a millisecond timestamp, the per-account deposit-cap window. -/
def utcDayKey (now : ℤ) : ℤ := now / 86400000

/-- UTC hour of a millisecond timestamp, the intent-creation rate-limit window. -/
def utcHourKey (now : ℤ) : ℤ := now / 3600000

/-- Seconds left of the hour, rounded up and at least one. -/
def secondsUntilNextHour (now : ℤ) : ℤ :=
  max 1 (((utcHourKey now + 1) * 3600000 - now + 999) / 1000)

inductive IntentStatus where
  | «open» | consumed | expired | overCap
  deriving DecidableEq, Repr

structure StoredIntent where
  intentId : String
  account : String
  amount : ℤ
  memo : String
  /-- The receiving address quoted to the user at intent creation. -/
  destination : String
  createdAt : ℤ
  expiresAt : ℤ
  status : IntentStatus
  txHash : Option String := none
  opIndex : Option ℤ := none
  sessionJti : Option String := none
  sessionExp : Option ℤ := none
  deriving DecidableEq, Repr

inductive CallStatus where
  | reserved | committed | released
  deriving DecidableEq, Repr

structure StoredCall where
  callId : String
  account : String
  chip : String
  model : Option String
  status : CallStatus
  /-- The amount held at reserve time. -/
  maxPrice : ℤ
  /-- The amount actually charged, zero until committed. -/
  charged : ℤ
  at_ : ℤ
  dispatched : Bool := false
  releaseReason : Option String := none
  reaped : Bool := false
  reapedReleasePossiblePaid : Bool := false
  deriving DecidableEq, Repr

/-- The operator's record of a deposit that landed above a ceiling. -/
structure OverCap where
  intentId : String
  account : String
  amount : ℤ
  txHash : String
  opIndex : ℤ
  reason : String
  at_ : ℤ
  deriving DecidableEq, Repr

structure Storage where
  intents : AList fun _ : String => StoredIntent
  memos : AList fun _ : String => String
  consumed : AList fun _ : String × ℤ => String
  balances : AList fun _ : String => ℤ
  deposits : AList fun _ : String × ℤ => ℤ
  rates : AList fun _ : String × ℤ => ℤ
  openSlots : AList fun _ : String => ℤ
  calls : AList fun _ : String => StoredCall
  history : AList fun _ : String => List String
  overCaps : AList fun _ : String => OverCap
  totalCredited : ℤ
  totalCommitted : ℤ
  totalOutstanding : ℤ
  alarmAt : Option ℤ

namespace Storage

def empty : Storage :=
  { intents := ∅, memos := ∅, consumed := ∅, balances := ∅, deposits := ∅, rates := ∅, openSlots := ∅
    calls := ∅, history := ∅, overCaps := ∅
    totalCredited := 0, totalCommitted := 0, totalOutstanding := 0, alarmAt := none }

/-- An account without a balance row has spent and received nothing. -/
def balance (storage : Storage) (account : String) : ℤ := (storage.balances.lookup account).getD 0

def openCount (storage : Storage) (account : String) : ℤ := (storage.openSlots.lookup account).getD 0

def deposited (storage : Storage) (account : String) (day : ℤ) : ℤ :=
  (storage.deposits.lookup (account, day)).getD 0

/-- Give back one open-intent slot when an intent reaches a terminal state. -/
def releaseOpenSlot (storage : Storage) (account : String) : Storage :=
  let current := storage.openCount account
  { storage with openSlots := storage.openSlots.insert account (if current > 0 then current - 1 else 0) }

end Storage

/-- A value of the extra context an error carries. -/
inductive Detail where
  | text (value : String)
  | number (value : ℤ)
  deriving DecidableEq, Repr

structure Err where
  code : String
  message : String
  detail : List (String × Detail) := []
  deriving DecidableEq, Repr

/-- What a request answers: its value, or an error the route layer reports. -/
abbrev Result (α : Type) := Except Err α

/-- What an operation that does not throw answers, with the storage it leaves. -/
abbrev Answer (α : Type) := Result α × Storage

private def atomic (amount : ℤ) : Detail := .text (toString amount)

structure CreateIntentBody where
  intentId : String
  account : String
  amount : String
  memo : String
  destination : String
  now : ℤ
  expiresAt : ℤ
  perAccountDayCap : String
  globalCap : String
  intentsPerHour : ℤ
  maxOpenIntents : ℤ
  deriving DecidableEq, Repr

/-- Mint a deposit intent after the rate limit, the two caps, the open-intent ceiling and the memo. -/
def createIntent (storage : Storage) (body : CreateIntentBody) : Except RangeError (Answer StoredIntent) := do
  let amount ← parseAtomic (some body.amount)
  if amount ≤ 0 then
    return (.error ⟨"invalid_amount", "deposit amount must be positive", []⟩, storage)
  else
  let rlKey := (body.account, utcHourKey body.now)
  let used := (storage.rates.lookup rlKey).getD 0
  if used ≥ body.intentsPerHour then
    return (.error ⟨"rate_limited", "too many deposit intents for this account",
      [("retry_after_seconds", .number (secondsUntilNextHour body.now))]⟩, storage)
  else
  let depositedToday := storage.deposited body.account (utcDayKey body.now)
  let dayCap ← parseAtomic (some body.perAccountDayCap)
  if depositedToday + amount > dayCap then
    return (.error ⟨"deposit_cap_exceeded", "daily deposit cap reached for this account",
      [("deposited_today", atomic depositedToday), ("cap", atomic dayCap)]⟩, storage)
  else
  let outstanding := storage.totalOutstanding
  let globalCap ← parseAtomic (some body.globalCap)
  if outstanding + amount > globalCap then
    return (.error ⟨"global_cap_exceeded", "playground is at its global credit ceiling",
      [("outstanding", atomic outstanding), ("cap", atomic globalCap)]⟩, storage)
  else
  let openCount := storage.openCount body.account
  if openCount ≥ body.maxOpenIntents then
    return (.error ⟨"too_many_open_intents", "too many unclaimed deposit intents for this account",
      [("open_intents", atomic openCount), ("max", .number body.maxOpenIntents)]⟩, storage)
  else
  -- The source tests the stored id for truthiness, so an empty id does not count as a collision.
  if ((storage.memos.lookup body.memo).getD "") ≠ "" then
    return (.error ⟨"memo_collision", "memo nonce collision, retry", []⟩, storage)
  else
  let intent : StoredIntent :=
    { intentId := body.intentId, account := body.account, amount, memo := body.memo
      destination := body.destination, createdAt := body.now, expiresAt := body.expiresAt, status := .open }
  return (.ok intent,
    { storage with
      intents := storage.intents.insert body.intentId intent
      memos := storage.memos.insert body.memo body.intentId
      rates := storage.rates.insert rlKey (used + 1)
      openSlots := storage.openSlots.insert body.account (openCount + 1) })

structure OpenBody where
  intentId : String
  txHash : String
  opIndex : ℤ
  now : ℤ
  /-- On-chain ledger close time of the deposit, compared to the intent's expiry. -/
  confirmedAt : ℤ
  sessionJti : String
  sessionExp : ℤ
  perAccountDayCap : String
  globalCap : String
  deriving DecidableEq, Repr

structure Opened where
  intent : StoredIntent
  balance : ℤ
  replayed : Bool
  deriving DecidableEq, Repr

/-- Consume a verified deposit: bind the payment to the intent and credit the account once. -/
def openIntent (storage : Storage) (body : OpenBody) : Except RangeError (Answer Opened) :=
  match storage.intents.lookup body.intentId with
  | none => return (.error ⟨"intent_not_found", "unknown intent", []⟩, storage)
  | some intent => do
    let consumedKey := (body.txHash, body.opIndex)
    let consumedBy := (storage.consumed.lookup consumedKey).getD ""
    if intent.status = .overCap then
      return (.error ⟨"deposit_exceeds_cap", "deposit exceeds the playground credit cap",
        [("intent_id", .text intent.intentId)]⟩, storage)
    else if intent.status = .consumed then
      if intent.txHash = some body.txHash ∧ intent.opIndex = some body.opIndex then
        let balance := storage.balance intent.account
        -- The recorded session is handed back while it is valid and replaced once it has expired.
        let renew := intent.sessionExp.elim true fun expiry => expiry * 1000 ≤ body.now
        if renew then
          let returned := { intent with sessionJti := some body.sessionJti, sessionExp := some body.sessionExp }
          return (.ok ⟨returned, balance, true⟩,
            { storage with intents := storage.intents.insert body.intentId returned })
        else return (.ok ⟨intent, balance, true⟩, storage)
      else return (.error ⟨"intent_already_used", "this intent has already been claimed", []⟩, storage)
    else if consumedBy ≠ "" then
      return (.error ⟨"payment_already_claimed", "this payment operation was already credited", []⟩, storage)
    else if body.confirmedAt > intent.expiresAt then
      let expired := { intent with status := .expired }
      let marked := { storage with intents := storage.intents.insert body.intentId expired }
      return (.error ⟨"intent_expired", "deposit was confirmed on-chain after the intent expired", []⟩,
        marked.releaseOpenSlot intent.account)
    else
    let amount := intent.amount
    let depKey := (intent.account, utcDayKey body.confirmedAt)
    let depositedToday := storage.deposited intent.account (utcDayKey body.confirmedAt)
    let dayCap ← parseAtomic (some body.perAccountDayCap)
    let outstanding := storage.totalOutstanding
    let globalCap ← parseAtomic (some body.globalCap)
    let overDay := depositedToday + amount > dayCap
    let overGlobal := outstanding + amount > globalCap
    if overDay ∨ overGlobal then
      let reason := if overDay then "deposit_cap_exceeded" else "global_cap_exceeded"
      let overCap :=
        { intent with status := .overCap, txHash := some body.txHash, opIndex := some body.opIndex }
      let marked := { storage with intents := storage.intents.insert body.intentId overCap }
      let released := marked.releaseOpenSlot intent.account
      return (.error ⟨"deposit_exceeds_cap", "deposit exceeds the playground credit cap",
          [("reason", .text reason), ("deposited_today", atomic depositedToday), ("day_cap", atomic dayCap),
            ("outstanding", atomic outstanding), ("global_cap", atomic globalCap)]⟩,
        { released with
          overCaps := released.overCaps.insert body.intentId
            ⟨body.intentId, intent.account, intent.amount, body.txHash, body.opIndex, reason, body.now⟩ })
    else
    let balance := storage.balance intent.account
    let updated :=
      { intent with
        status := .consumed, txHash := some body.txHash, opIndex := some body.opIndex
        sessionJti := some body.sessionJti, sessionExp := some body.sessionExp }
    let claimed :=
      { storage with
        consumed := storage.consumed.insert consumedKey body.intentId
        intents := storage.intents.insert body.intentId updated }
    let released := claimed.releaseOpenSlot intent.account
    return (.ok ⟨updated, balance + amount, false⟩,
      { released with
        balances := released.balances.insert intent.account (balance + amount)
        deposits := released.deposits.insert depKey (depositedToday + amount)
        totalCredited := released.totalCredited + amount
        totalOutstanding := outstanding + amount })

structure ReserveBody where
  callId : String
  account : String
  chip : String
  model : Option String
  maxPrice : String
  now : ℤ
  historyLimit : ℕ
  deriving DecidableEq, Repr

structure ReserveOutcome where
  ok : Bool
  code : Option String
  call : Option StoredCall
  balance : ℤ
  duplicate : Bool
  deriving DecidableEq, Repr

/-- How long a call may sit in `reserved` before the reaper settles it. -/
def reservedLeaseMs : ℤ := 5 * 60 * 1000

/-- How often the reaper wakes while any reserved call exists. -/
def reaperIntervalMs : ℤ := 60 * 1000

/-- Hold `maxPrice` against the account before the upstream call runs. -/
def reserve (storage : Storage) (body : ReserveBody) : Except RangeError (Answer ReserveOutcome) := do
  let maxPrice ← parseAtomic (some body.maxPrice)
  if maxPrice < 0 then
    return (.error ⟨"invalid_amount", "max_price must not be negative", []⟩, storage)
  else
  match storage.calls.lookup body.callId with
  | some existing =>
    return (.ok ⟨true, none, some existing, storage.balance existing.account, true⟩, storage)
  | none =>
    let balance := storage.balance body.account
    if balance < maxPrice then
      return (.ok ⟨false, some "insufficient_balance", none, balance, false⟩, storage)
    else
    let call : StoredCall :=
      { callId := body.callId, account := body.account, chip := body.chip, model := body.model
        status := .reserved, maxPrice, charged := 0, at_ := body.now }
    let remaining := balance - maxPrice
    let hist := body.callId :: (storage.history.lookup body.account).getD []
    return (.ok ⟨true, none, some call, remaining, false⟩,
      { storage with
        balances := storage.balances.insert body.account remaining
        calls := storage.calls.insert body.callId call
        history := storage.history.insert body.account (hist.take body.historyLimit)
        -- An alarm that is already armed is kept, so the deadline is never pushed out.
        alarmAt := some (storage.alarmAt.getD (body.now + reaperIntervalMs)) })

/-- Mark a reserved call as dispatched, right before the upstream fetch. -/
def markDispatched (storage : Storage) (callId : String) : Except RangeError (Answer Bool) :=
  match storage.calls.lookup callId with
  | none => return (.error ⟨"call_not_found", "unknown call_id", []⟩, storage)
  | some call =>
    if call.status ≠ .reserved ∨ call.dispatched then return (.ok false, storage)
    else return (.ok true, { storage with calls := storage.calls.insert callId { call with dispatched := true } })

/-- Any action other than `release` commits. -/
inductive SettleAction where
  | commit | release
  deriving DecidableEq, Repr

structure SettleBody where
  callId : String
  action : SettleAction
  charged : Option String
  reason : Option String
  deriving DecidableEq, Repr

structure Settled where
  call : StoredCall
  balance : ℤ
  alreadySettled : Bool
  deriving DecidableEq, Repr

/-- Finish a reserved call: commit the clamped charge and refund the rest, or release the whole hold. -/
def settle (storage : Storage) (body : SettleBody) : Except RangeError (Answer Settled) :=
  match storage.calls.lookup body.callId with
  | none => return (.error ⟨"call_not_found", "unknown call_id", []⟩, storage)
  | some call => do
    let balance := storage.balance call.account
    if call.status ≠ .reserved then
      return (.ok ⟨call, balance, true⟩, storage)
    else
    let held := call.maxPrice
    if body.action = .release then
      let settled := { call with status := .released, charged := 0, releaseReason := body.reason }
      return (.ok ⟨settled, balance + held, false⟩,
        { storage with
          calls := storage.calls.insert body.callId settled
          balances := storage.balances.insert call.account (balance + held) })
    else
    let requested ← parseAtomic (some (body.charged.getD "0"))
    let charged := min (max requested 0) held
    let refund := held - charged
    let settled := { call with status := .committed, charged }
    return (.ok ⟨settled, balance + refund, false⟩,
      { storage with
        calls := storage.calls.insert body.callId settled
        balances := storage.balances.insert call.account (balance + refund)
        totalCommitted := storage.totalCommitted + charged
        totalOutstanding := storage.totalOutstanding - charged })

/-- A reserved call the reaper leaves alone at `now`. -/
def StoredCall.leased (call : StoredCall) (now : ℤ) : Bool :=
  call.status = .reserved ∧ now - call.at_ < reservedLeaseMs

/-- The record the reaper leaves of a stranded call. -/
def StoredCall.reap (call : StoredCall) : StoredCall :=
  { call with
    status := .released, charged := 0
    releaseReason := some (if call.dispatched then "reaped_dispatched" else "reaped_never_dispatched")
    reaped := true
    reapedReleasePossiblePaid := call.dispatched || call.reapedReleasePossiblePaid }

/-- One round of the reaper's loop: a stranded reserved call is released, any other is skipped. -/
def reapCall (now : ℤ) (storage : Storage) (row : Sigma fun _ : String => StoredCall) : Storage :=
  let call := row.2
  if call.status ≠ .reserved then storage
  else if call.leased now then storage
  else
  { storage with
    calls := storage.calls.insert row.1 call.reap
    balances := storage.balances.insert call.account (storage.balance call.account + call.maxPrice) }

/-- The reaper walks a snapshot of the calls and re-arms itself while a reserved call remains. -/
def alarm (storage : Storage) (now : ℤ) : Storage :=
  let calls := storage.calls.entries
  -- The runtime has cleared the alarm that woke the reaper.
  let reaped := calls.foldl (reapCall now) { storage with alarmAt := none }
  if calls.any fun row => row.2.leased now then { reaped with alarmAt := some (now + reaperIntervalMs) }
  else reaped

inductive Request where
  | intentCreate (body : CreateIntentBody)
  | «open» (body : OpenBody)
  | reserve (body : ReserveBody)
  | dispatch (callId : String)
  | settle (body : SettleBody)
  | alarm (now : ℤ)
  deriving DecidableEq, Repr

/-- The storage an operation leaves; one that throws rolls back. -/
def storageAfter {α : Type} (before : Storage) (outcome : Except RangeError (Answer α)) : Storage :=
  match outcome with
  | .ok (_, after) => after
  | .error _ => before

/-- The storage after one request. -/
def handle (storage : Storage) : Request → Storage
  | .intentCreate body => storageAfter storage (createIntent storage body)
  | .open body => storageAfter storage (openIntent storage body)
  | .reserve body => storageAfter storage (reserve storage body)
  | .dispatch callId => storageAfter storage (markDispatched storage callId)
  | .settle body => storageAfter storage (settle storage body)
  | .alarm now => alarm storage now

/-- The storage after a sequence of requests to a fresh ledger. -/
def serve (requests : List Request) : Storage := requests.foldl handle Storage.empty

end MppRouter.Playground
